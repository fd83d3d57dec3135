import Mathlib.Data.List.Basic

/-!
# Process credentials

A process has a real, an effective and a saved user id, and the same of groups.  A call made with
the effective user id of root may set anything; any other call may only move an id the process
already has into the effective place.

* `Call.run`: the four calls, over any type of ids with a root.
* `Unprivileged.run`: without root among the user ids, no sequence of calls brings in a new id.
* `exists_effective_gid_iff`, `exists_effective_uid_iff`: what such a process can make effective.
-/

namespace Credentials

variable {ι : Type*}

/-- The three ids of one kind. -/
structure Ids (ι : Type*) where
  real : ι
  effective : ι
  saved : ι
  deriving DecidableEq, Repr

instance : Membership ι (Ids ι) where
  mem i x := x = i.real ∨ x = i.effective ∨ x = i.saved

theorem Ids.mem_iff {i : Ids ι} {x : ι} : x ∈ i ↔ x = i.real ∨ x = i.effective ∨ x = i.saved :=
  Iff.rfl

instance [DecidableEq ι] (i : Ids ι) (x : ι) : Decidable (x ∈ i) :=
  inferInstanceAs (Decidable (x = i.real ∨ x = i.effective ∨ x = i.saved))

/-- Set all three ids. -/
def Ids.all (x : ι) : Ids ι := ⟨x, x, x⟩

@[simp] theorem Ids.mem_all {x y : ι} : x ∈ Ids.all y ↔ x = y := by
  simp [Ids.mem_iff, Ids.all]

structure Creds (ι : Type*) where
  uid : Ids ι
  gid : Ids ι
  deriving DecidableEq, Repr

/-- Moving an id the process has into the effective place brings in none. -/
theorem mem_of_effective {i : Ids ι} {x y : ι} (hx : x ∈ i) (hy : y ∈ { i with effective := x }) :
    y ∈ i := by
  rcases hy with hy | hy | hy
  · exact Or.inl hy
  · exact (show y = x from hy) ▸ hx
  · exact Or.inr (Or.inr hy)

/-- Root is not among the user ids. -/
def Unprivileged (root : ι) (c : Creds ι) : Prop := root ∉ c.uid

/-- Every id is one of the process before. -/
structure Within (c d : Creds ι) : Prop where
  uid : ∀ x ∈ d.uid, x ∈ c.uid
  gid : ∀ x ∈ d.gid, x ∈ c.gid

theorem Within.refl (c : Creds ι) : Within c c := ⟨fun _ h => h, fun _ h => h⟩

theorem Within.trans {c d e : Creds ι} (h : Within c d) (h' : Within d e) : Within c e :=
  ⟨fun x hx => h.uid x (h'.uid x hx), fun x hx => h.gid x (h'.gid x hx)⟩

theorem Unprivileged.within {root : ι} {c d : Creds ι} (h : Unprivileged root c) (hw : Within c d) :
    Unprivileged root d :=
  fun hr => h (hw.uid root hr)

theorem Unprivileged.effective_ne {root : ι} {c : Creds ι} (h : Unprivileged root c) :
    ¬ c.uid.effective = root :=
  fun he => h (Ids.mem_iff.mpr (Or.inr (Or.inl he.symm)))

/-! ## The calls -/

variable [DecidableEq ι] (root : ι)

/-- `setuid`, and whether it succeeds. -/
def setuid (x : ι) (c : Creds ι) : Creds ι × Bool :=
  if c.uid.effective = root then ({ c with uid := .all x }, true)
  else if x = c.uid.real ∨ x = c.uid.saved then
    ({ c with uid := { c.uid with effective := x } }, true)
  else (c, false)

/-- `setgid`, and whether it succeeds. -/
def setgid (x : ι) (c : Creds ι) : Creds ι × Bool :=
  if c.uid.effective = root then ({ c with gid := .all x }, true)
  else if x = c.gid.real ∨ x = c.gid.saved then
    ({ c with gid := { c.gid with effective := x } }, true)
  else (c, false)

/-- `seteuid`, and whether it succeeds. -/
def seteuid (x : ι) (c : Creds ι) : Creds ι × Bool :=
  if c.uid.effective = root ∨ x ∈ c.uid then
    ({ c with uid := { c.uid with effective := x } }, true)
  else (c, false)

/-- `setegid`, and whether it succeeds. -/
def setegid (x : ι) (c : Creds ι) : Creds ι × Bool :=
  if c.uid.effective = root ∨ x ∈ c.gid then
    ({ c with gid := { c.gid with effective := x } }, true)
  else (c, false)

/-- A call that changes credentials. -/
inductive Call (ι : Type*)
  | setuid (x : ι)
  | setgid (x : ι)
  | seteuid (x : ι)
  | setegid (x : ι)
  deriving DecidableEq, Repr

def Call.exec (c : Creds ι) : Call ι → Creds ι
  | .setuid x => (Credentials.setuid root x c).1
  | .setgid x => (Credentials.setgid root x c).1
  | .seteuid x => (Credentials.seteuid root x c).1
  | .setegid x => (Credentials.setegid root x c).1

/-- The credentials after a sequence of calls. -/
def Call.run (calls : List (Call ι)) (c : Creds ι) : Creds ι := calls.foldl (Call.exec root) c

variable {root}

/-- **A call of an unprivileged process brings in no id.** -/
theorem Unprivileged.exec {c : Creds ι} (h : Unprivileged root c) (call : Call ι) :
    Within c (call.exec root c) := by
  have he := h.effective_ne
  have keep : Within c c := .refl c
  have moveUid : ∀ x ∈ c.uid, Within c { c with uid := { c.uid with effective := x } } :=
    fun x hx => ⟨fun _ => mem_of_effective hx, fun _ h => h⟩
  have moveGid : ∀ x ∈ c.gid, Within c { c with gid := { c.gid with effective := x } } :=
    fun x hx => ⟨fun _ h => h, fun _ => mem_of_effective hx⟩
  cases call with
  | setuid x =>
    rw [Call.exec, Credentials.setuid, if_neg he]
    split
    · rename_i hx
      exact moveUid x (hx.imp id Or.inr)
    · exact keep
  | setgid x =>
    rw [Call.exec, Credentials.setgid, if_neg he]
    split
    · rename_i hx
      exact moveGid x (hx.imp id Or.inr)
    · exact keep
  | seteuid x =>
    rw [Call.exec, Credentials.seteuid]
    split
    · rename_i hx
      exact moveUid x (hx.resolve_left he)
    · exact keep
  | setegid x =>
    rw [Call.exec, Credentials.setegid]
    split
    · rename_i hx
      exact moveGid x (hx.resolve_left he)
    · exact keep

/-- **No sequence of calls does.** -/
theorem Unprivileged.run {c : Creds ι} (h : Unprivileged root c) (calls : List (Call ι)) :
    Within c (Call.run root calls c) := by
  induction calls generalizing c with
  | nil => exact .refl c
  | cons call calls ih =>
    have hone := h.exec call
    exact hone.trans (ih (h.within hone))

/-- What an unprivileged process can make its effective user id. -/
theorem exists_effective_uid_iff {c : Creds ι} (h : Unprivileged root c) (x : ι) :
    (∃ calls, (Call.run root calls c).uid.effective = x) ↔ x ∈ c.uid := by
  constructor
  · rintro ⟨calls, rfl⟩
    exact (h.run calls).uid _ (Ids.mem_iff.mpr (Or.inr (Or.inl rfl)))
  · intro hx
    refine ⟨[.seteuid x], ?_⟩
    show (seteuid root x c).1.uid.effective = x
    rw [seteuid, if_pos (Or.inr hx)]

/-- What an unprivileged process can make its effective group id. -/
theorem exists_effective_gid_iff {c : Creds ι} (h : Unprivileged root c) (x : ι) :
    (∃ calls, (Call.run root calls c).gid.effective = x) ↔ x ∈ c.gid := by
  constructor
  · rintro ⟨calls, rfl⟩
    exact (h.run calls).gid _ (Ids.mem_iff.mpr (Or.inr (Or.inl rfl)))
  · intro hx
    refine ⟨[.setegid x], ?_⟩
    show (setegid root x c).1.gid.effective = x
    rw [setegid, if_pos (Or.inr hx)]

end Credentials
