import SwaylockAuthd.Lib.Credentials
import SwaylockAuthd.Shadow

/-!
# `shadow.c`: dropping privileges

The binary is installed set-uid root, or set-gid to the group of `/etc/shadow`.
`initialize_pw_backend` reads the password hash, makes the real ids effective, and forks the child.

* `Installation`: the credentials an ordinary user's process starts with.
* `backend_setuid`, `backend_setgid`: what they are behind the checks.
* `Dropped`: no privileged id is left, nor can one be regained.
* `privileges_dropped_iff`: so it is from set-uid root; the group of `/etc/shadow` stays the saved
  one.
-/

namespace SwaylockAuthd

open Credentials

/-- `struct passwd`, as far as it is used. -/
structure Passwd where
  pwName : CString
  pwPasswd : CString
  deriving DecidableEq, Repr

/-- The databases, and whether `spawn_comm_child` succeeds. -/
structure PwEnv where
  getpwuid : UInt32 → Option Passwd
  getspnam : CString → Option CString
  spawnCommChild : Bool

/-- The two processes behind `initialize_pw_backend`, and the hash the child has. -/
structure PwBackend where
  parent : Creds UInt32
  child : Creds UInt32
  encpw : CString
  deriving DecidableEq, Repr

/-- The hash of the user. -/
def PwEnv.encpw (env : PwEnv) (uid : UInt32) : Option CString :=
  match env.getpwuid uid with
  | none => none
  | some pwent =>
    if pwent.pwPasswd = [0x78] then env.getspnam pwent.pwName else some pwent.pwPasswd

/-- `initialize_pw_backend`; `none` when the process exits. -/
def initializePwBackend (env : PwEnv) (c : Creds UInt32) : Option PwBackend :=
  match env.encpw c.uid.real with
  | none => none
  | some encpw =>
    let (c, dropped) := setgid 0 c.gid.real c
    if !dropped then none
    else
      let (c, dropped) := setuid 0 c.uid.real c
      if !dropped then none
      else
        let (c, restored) := setuid 0 0 c
        if restored then none
        else
          let (c, restored) := setgid 0 0 c
          if restored then none
          else if env.spawnCommChild then some { parent := c, child := c, encpw } else none

/-- The credentials of an ordinary user's process, in the two installations. -/
inductive Installation : Creds UInt32 → Prop
  /-- `chmod u+s`, or `a+s`: the group may be set as well. -/
  | setuidRoot {user group fileGroup : UInt32} (ordinary : user ≠ 0) :
    Installation ⟨⟨user, 0, 0⟩, ⟨group, fileGroup, fileGroup⟩⟩
  /-- `chmod g+s`, with the group of `/etc/shadow`. -/
  | setgidShadow {user group shadow : UInt32} (ordinary : user ≠ 0) :
    Installation ⟨⟨user, user, user⟩, ⟨group, shadow, shadow⟩⟩

/-- An id the process has not of its own. -/
def PrivilegedId (i : Ids UInt32) (x : UInt32) : Prop := x ∈ i ∧ x ≠ i.real

/-- Privileges are dropped for good: no privileged id is left, and no sequence of calls makes one
effective. -/
structure Dropped (start final : Creds UInt32) : Prop where
  uid : ∀ x, PrivilegedId start.uid x →
    x ∉ final.uid ∧ ∀ calls, (Call.run 0 calls final).uid.effective ≠ x
  gid : ∀ x, PrivilegedId start.gid x →
    x ∉ final.gid ∧ ∀ calls, (Call.run 0 calls final).gid.effective ≠ x

/-- For a process without root among its user ids it is enough to look at the ids it has. -/
theorem dropped_iff {start final : Creds UInt32} (h : Unprivileged 0 final) :
    Dropped start final ↔
      (∀ x, PrivilegedId start.uid x → x ∉ final.uid) ∧
        ∀ x, PrivilegedId start.gid x → x ∉ final.gid := by
  constructor
  · exact fun hd => ⟨fun x hx => (hd.uid x hx).1, fun x hx => (hd.gid x hx).1⟩
  · rintro ⟨huid, hgid⟩
    refine ⟨fun x hx => ⟨huid x hx, fun calls he => ?_⟩,
      fun x hx => ⟨hgid x hx, fun calls he => ?_⟩⟩
    · exact huid x hx ((exists_effective_uid_iff h x).mp ⟨calls, he⟩)
    · exact hgid x hx ((exists_effective_gid_iff h x).mp ⟨calls, he⟩)

/-! ## The two installations -/

/-- Set-uid root: behind the checks all ids are the real ones. -/
theorem backend_setuid (env : PwEnv) {user group fileGroup : UInt32} (ordinary : user ≠ 0) :
    initializePwBackend env ⟨⟨user, 0, 0⟩, ⟨group, fileGroup, fileGroup⟩⟩ =
      (env.encpw user).bind fun encpw =>
        if group ≠ 0 ∧ env.spawnCommChild = true then
          some ⟨⟨.all user, .all group⟩, ⟨.all user, .all group⟩, encpw⟩
        else none := by
  unfold initializePwBackend
  cases env.encpw user with
  | none => rfl
  | some encpw =>
    by_cases hgroup : group = 0
    · simp [setgid, setuid, Ids.all, ordinary, ordinary.symm, hgroup]
    · simp [setgid, setuid, Ids.all, ordinary, ordinary.symm, hgroup, Ne.symm hgroup]

/-- Set-gid: behind the checks the saved group is still that of `/etc/shadow`. -/
theorem backend_setgid (env : PwEnv) {user group shadow : UInt32} (ordinary : user ≠ 0) :
    initializePwBackend env ⟨⟨user, user, user⟩, ⟨group, shadow, shadow⟩⟩ =
      (env.encpw user).bind fun encpw =>
        if group ≠ 0 ∧ shadow ≠ 0 ∧ env.spawnCommChild = true then
          some ⟨⟨.all user, ⟨group, group, shadow⟩⟩, ⟨.all user, ⟨group, group, shadow⟩⟩, encpw⟩
        else none := by
  unfold initializePwBackend
  cases env.encpw user with
  | none => rfl
  | some encpw =>
    by_cases hgroup : group = 0
    · simp [setgid, setuid, ordinary, ordinary.symm, hgroup]
    · by_cases hshadow : shadow = 0
      · simp [setgid, setuid, ordinary, ordinary.symm, hgroup, hshadow]
      · simp [setgid, setuid, Ids.all, ordinary, ordinary.symm, hgroup, Ne.symm hgroup, hshadow,
          Ne.symm hshadow]

/-- All ids are the real ones: nothing privileged is left. -/
theorem dropped_all {c : Creds UInt32} (ordinary : c.uid.real ≠ 0) :
    Dropped c ⟨.all c.uid.real, .all c.gid.real⟩ := by
  have hun : Unprivileged 0 (⟨.all c.uid.real, .all c.gid.real⟩ : Creds UInt32) :=
    fun h => ordinary (Ids.mem_all.mp h).symm
  refine (dropped_iff hun).mpr ⟨fun x hx h => hx.2 ?_, fun x hx h => hx.2 ?_⟩
  · exact Ids.mem_all.mp h
  · exact Ids.mem_all.mp h

/-- A saved group that is not the real one is left. -/
theorem dropped_saved_iff {user group shadow : UInt32} (ordinary : user ≠ 0) :
    Dropped ⟨.all user, ⟨group, shadow, shadow⟩⟩ ⟨.all user, ⟨group, group, shadow⟩⟩ ↔
      shadow = group := by
  constructor
  · intro h
    by_contra hne
    exact (h.gid shadow ⟨Or.inr (Or.inl rfl), hne⟩).1 (Or.inr (Or.inr rfl))
  · rintro rfl
    exact dropped_all (c := ⟨.all user, ⟨shadow, shadow, shadow⟩⟩) ordinary

/-- **Privileges are dropped for good, exactly when**: the process starts with the effective user id
of root, or `/etc/shadow` has the user's own group, or it does not get past the checks. -/
theorem privileges_dropped_iff (env : PwEnv) {c : Creds UInt32} (h : Installation c) :
    (∀ b, initializePwBackend env c = some b → Dropped c b.parent ∧ Dropped c b.child) ↔
      c.uid.effective = 0 ∨ c.gid.saved = c.gid.real ∨ c.gid.real = 0 ∨ c.gid.saved = 0 ∨
        env.encpw c.uid.real = none ∨ env.spawnCommChild = false := by
  cases h with
  | @setuidRoot user group fileGroup ordinary =>
    refine ⟨fun _ => Or.inl rfl, fun _ b hb => ?_⟩
    rw [backend_setuid env ordinary] at hb
    obtain ⟨encpw, -, hb⟩ := Option.bind_eq_some_iff.mp hb
    obtain ⟨-, hb⟩ := Option.ite_none_right_eq_some.mp hb
    obtain rfl := Option.some.inj hb
    exact ⟨dropped_all ordinary, dropped_all ordinary⟩
  | @setgidShadow user group shadow ordinary =>
    have hb := @backend_setgid env user group shadow ordinary
    constructor
    · intro hall
      by_contra hn
      obtain ⟨-, hne, hgroup, hshadow, hpw, hspawn⟩ :
          user ≠ 0 ∧ shadow ≠ group ∧ group ≠ 0 ∧ shadow ≠ 0 ∧ env.encpw user ≠ none ∧
            env.spawnCommChild ≠ false := by
        simpa only [not_or] using hn
      obtain ⟨encpw, hpw⟩ := Option.ne_none_iff_exists'.mp hpw
      rw [hpw, Option.bind_some, if_pos ⟨hgroup, hshadow, by simpa using hspawn⟩] at hb
      exact hne ((dropped_saved_iff ordinary).mp (hall _ hb).1)
    · intro hcond b hb'
      rw [hb] at hb'
      obtain ⟨encpw, hpw, hb'⟩ := Option.bind_eq_some_iff.mp hb'
      obtain ⟨⟨hgroup, hshadow, hspawn⟩, hb'⟩ := Option.ite_none_right_eq_some.mp hb'
      obtain rfl := Option.some.inj hb'
      have heq : shadow = group := by
        rcases hcond with h | h | h | h | h | h
        · exact absurd h ordinary
        · exact h
        · exact absurd h hgroup
        · exact absurd h hshadow
        · exact absurd (hpw.symm.trans h) (by simp)
        · exact absurd (hspawn.symm.trans h) (by simp)
      exact ⟨(dropped_saved_iff ordinary).mpr heq, (dropped_saved_iff ordinary).mpr heq⟩

/-- The hash is in `/etc/shadow`. -/
def onePw : PwEnv where
  getpwuid _ := some { pwName := [0x6a], pwPasswd := [0x78] }
  getspnam _ := some [0x24]
  spawnCommChild := true

/-- The user 1000 with the group 1000; the group of `/etc/shadow` is 42. -/
def setgidStart : Creds UInt32 := ⟨⟨1000, 1000, 1000⟩, ⟨1000, 42, 42⟩⟩

/-- **The group of `/etc/shadow` can be regained**: the parent and the child pass the checks, and
one `setegid` brings it back. -/
theorem setgid_regained :
    Installation setgidStart ∧ PrivilegedId setgidStart.gid 42 ∧
      ∃ b, initializePwBackend onePw setgidStart = some b ∧
        b.parent.gid = ⟨1000, 1000, 42⟩ ∧ b.child.gid = ⟨1000, 1000, 42⟩ ∧
        (Call.run 0 [.setegid 42] b.child).gid.effective = 42 ∧ ¬ Dropped setgidStart b.child := by
  refine ⟨.setgidShadow (by decide), ⟨by decide, by decide⟩, ?_⟩
  refine ⟨⟨⟨⟨1000, 1000, 1000⟩, ⟨1000, 1000, 42⟩⟩, ⟨⟨1000, 1000, 1000⟩, ⟨1000, 1000, 42⟩⟩, [0x24]⟩,
    by decide, rfl, rfl, by decide, fun h => ?_⟩
  exact (h.gid 42 ⟨by decide, by decide⟩).1 (by decide)

/-- From set-uid root, with the set-gid bit as well, all ids end up the real ones. -/
theorem privileges_dropped_setuid :
    ∃ b, initializePwBackend onePw ⟨⟨1000, 0, 0⟩, ⟨1000, 50, 50⟩⟩ = some b ∧
      Dropped ⟨⟨1000, 0, 0⟩, ⟨1000, 50, 50⟩⟩ b.parent ∧
      Dropped ⟨⟨1000, 0, 0⟩, ⟨1000, 50, 50⟩⟩ b.child := by
  have hrun : initializePwBackend onePw ⟨⟨1000, 0, 0⟩, ⟨1000, 50, 50⟩⟩ =
      some ⟨⟨.all 1000, .all 1000⟩, ⟨.all 1000, .all 1000⟩, [0x24]⟩ := by decide
  have hinst : Installation ⟨⟨1000, 0, 0⟩, ⟨1000, 50, 50⟩⟩ := .setuidRoot (by decide)
  exact ⟨_, hrun, (privileges_dropped_iff onePw hinst).mpr (Or.inl rfl) _ hrun⟩

end SwaylockAuthd
