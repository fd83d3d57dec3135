import SwaylockAuthd.Lib.Descriptor
import SwaylockAuthd.Pam

/-!
# `spawn_comm_child` and `daemonize`: who holds the pipes

The child learns that the locker is gone when nobody can write to its pipe any more, and the
locker from a hangup of the other one.  Both depend on every process closing the ends it
does not use.

* `spawnCommChild`: the descriptors of the two processes.  `spawned_main`, `spawned_child`.
* `daemonizeChild`, `daemonizeParent`: those of the daemon and of the process that starts it.
* `daemonize_keeps`: `daemonize` redirects nothing.
* `ends_held`: who holds the ends of the pipes, in every order in which the processes end.
-/

namespace SwaylockAuthd

open Transition

/-! ## `spawn_comm_child` -/

/-- The two pipes of `comm`, and that of `daemonize`. -/
inductive Channel
  | toChild
  | toMain
  | daemon
  deriving DecidableEq, Repr

/-- What a descriptor refers to. -/
inductive OpenFile
  | readEnd (c : Channel)
  | writeEnd (c : Channel)
  | devNull
  | inherited (n : Nat)
  deriving DecidableEq, Repr

/-- An end of a pipe. -/
def OpenFile.pipe? : OpenFile → Option Channel
  | .readEnd c | .writeEnd c => some c
  | _ => none

def STDIN_FILENO : Nat := 0
def STDOUT_FILENO : Nat := 1
def STDERR_FILENO : Nat := 2

/-- `comm`. -/
structure CommFds where
  toChildRead : Nat
  toChildWrite : Nat
  toMainRead : Nat
  toMainWrite : Nat
  deriving DecidableEq, Repr

/-- What the system answers: whether the pipes can be had, `fork`, and `open` of `/dev/null`. -/
structure SpawnEnv where
  pipes : Bool × Bool := (true, true)
  fork : Bool := true
  devNull : Bool := true
  deriving DecidableEq, Repr

/-- The redirections of the child. -/
def redirect (devNull : Bool) (t : Descriptors OpenFile) : Descriptors OpenFile :=
  if devNull then
    let r := t.openFile .devNull
    let t := (r.2.dup2 r.1 STDIN_FILENO).dup2 r.1 STDOUT_FILENO
    if STDOUT_FILENO < r.1 then t.close r.1 else t
  else t

/-- `spawn_comm_child`: `comm`, and the descriptors of the locker and of the child. -/
def spawnCommChild (env : SpawnEnv) (t : Descriptors OpenFile) :
    Option (CommFds × Descriptors OpenFile × Descriptors OpenFile) :=
  if env.pipes.1 ∧ env.pipes.2 ∧ env.fork then
    let p := t.pipe (.readEnd .toChild) (.writeEnd .toChild)
    let q := p.2.pipe (.readEnd .toMain) (.writeEnd .toMain)
    let comm := CommFds.mk p.1.1 p.1.2 q.1.1 q.1.2
    some (comm, (q.2.close comm.toChildRead).close comm.toMainWrite,
      redirect env.devNull ((q.2.close comm.toChildWrite).close comm.toMainRead))
  else none

variable {t : Descriptors OpenFile}

/-- **The child's standard input and output** are the null device, and nothing else changes. -/
theorem file_redirect (t : Descriptors OpenFile) (n : Nat) :
    (redirect true t).file n =
      if n = STDIN_FILENO ∨ n = STDOUT_FILENO then some .devNull else t.file n := by
  have hfree := t.lowest_free
  have hopen : (t.set t.lowest .devNull).file t.lowest = some .devNull := if_pos rfl
  have hdup : ((t.set t.lowest .devNull).set STDIN_FILENO .devNull).file t.lowest =
      some .devNull := by
    rw [Descriptors.file_set, hopen, ite_self]
  have hr : redirect true t =
      if STDOUT_FILENO < t.lowest then
        (((t.set t.lowest .devNull).set STDIN_FILENO .devNull).set STDOUT_FILENO .devNull).close
          t.lowest
      else ((t.set t.lowest .devNull).set STDIN_FILENO .devNull).set STDOUT_FILENO .devNull := by
    show (if STDOUT_FILENO < t.lowest then _ else _) = _
    rw [Descriptors.openFile, Descriptors.dup2_some _ hopen, Descriptors.dup2_some _ hdup]
  rw [hr]
  unfold STDIN_FILENO STDOUT_FILENO
  split
  · rename_i hlt
    by_cases hn : n = t.lowest
    · rw [Descriptors.file_close, if_pos hn, if_neg (by omega), hn, hfree]
    · simp only [Descriptors.file_close, Descriptors.file_set, if_neg hn]
      split
      · rw [if_pos (by omega)]
      · split
        · rw [if_pos (by omega)]
        · rw [if_neg (by omega)]
  · simp only [Descriptors.file_set]
    split
    · rw [if_pos (by omega)]
    · split
      · rw [if_pos (by omega)]
      · rw [if_neg (by omega), if_neg (by omega)]

/-- No end of the pipes of `comm` has been inherited. -/
def Inherited (t : Descriptors OpenFile) : Prop :=
  ∀ n f, t.file n = some f → f.pipe? ≠ some .toChild ∧ f.pipe? ≠ some .toMain

/-- The standard input and output are open. -/
def StdioOpen (t : Descriptors OpenFile) : Prop :=
  t.file STDIN_FILENO ≠ none ∧ t.file STDOUT_FILENO ≠ none

/-- What `spawn_comm_child` has done. -/
structure Spawned (env : SpawnEnv) (t : Descriptors OpenFile) (comm : CommFds)
    (main child : Descriptors OpenFile) : Prop where
  lt : comm.toChildRead < comm.toChildWrite ∧ comm.toChildWrite < comm.toMainRead ∧
    comm.toMainRead < comm.toMainWrite
  free : t.file comm.toChildRead = none
  taken : ∀ n, n < comm.toChildRead → t.file n ≠ none
  main : ∀ n, main.file n =
    if n = comm.toMainRead then some (.readEnd .toMain)
    else if n = comm.toChildWrite then some (.writeEnd .toChild) else t.file n
  child : ∀ n, child.file n =
    if env.devNull ∧ (n = STDIN_FILENO ∨ n = STDOUT_FILENO) then some .devNull
    else if n = comm.toMainWrite then some (.writeEnd .toMain)
    else if n = comm.toChildRead then some (.readEnd .toChild) else t.file n

theorem spawned {env : SpawnEnv} {comm : CommFds} {main child : Descriptors OpenFile}
    (h : spawnCommChild env t = some (comm, main, child)) : Spawned env t comm main child := by
  rw [spawnCommChild] at h
  split at h
  · have hp := Descriptors.isPipe_pipe t (.readEnd .toChild) (.writeEnd .toChild)
    generalize t.pipe (.readEnd .toChild) (.writeEnd .toChild) = p at h hp
    obtain ⟨⟨a, b⟩, u⟩ := p
    have hq := Descriptors.isPipe_pipe u (.readEnd .toMain) (.writeEnd .toMain)
    dsimp only at h hp
    generalize u.pipe (.readEnd .toMain) (.writeEnd .toMain) = q at h hq
    obtain ⟨⟨c, d⟩, v⟩ := q
    dsimp only at h hq
    cases h
    have hab := hp.lt
    have hcd := hq.lt
    obtain ⟨hbc, hc⟩ := hp.above hq.read
    obtain ⟨-, hd⟩ := hp.above hq.write
    refine ⟨⟨hab, hbc, hcd⟩, hp.read, fun n hn => hp.taken n (hn.trans hab) hn.ne, fun n => ?_,
      fun n => ?_⟩
    · simp only [Descriptors.file_close, hq.file, hp.file]
      by_cases hnd : n = d
      · rw [if_pos hnd, if_neg (by omega), if_neg (by omega), hnd, hd]
      · by_cases hna : n = a
        · rw [if_neg hnd, if_pos hna, if_neg (by omega), if_neg (by omega), hna, hp.read]
        · simp only [if_neg hnd, if_neg hna]
    · have hends : ((v.close b).close c).file n =
          if n = d then some (.writeEnd .toMain)
          else if n = a then some (.readEnd .toChild) else t.file n := by
        simp only [Descriptors.file_close, hq.file, hp.file]
        by_cases hnc : n = c
        · rw [if_pos hnc, if_neg (by omega), if_neg (by omega), hnc, hc]
        · by_cases hnb : n = b
          · rw [if_neg hnc, if_pos hnb, if_neg (by omega), if_neg (by omega), hnb, hp.write]
          · simp only [if_neg hnc, if_neg hnb]
      rw [← hends]
      by_cases hdev : env.devNull = true
      · rw [hdev, file_redirect]
        simp
      · rw [Bool.not_eq_true] at hdev
        rw [hdev]
        simp [redirect]
  · cases h

section Spawned

variable {env : SpawnEnv} {comm : CommFds} {main child : Descriptors OpenFile}

/-- The first new descriptor is above the standard ones if these are open. -/
theorem Spawned.stdioOpen_iff (h : Spawned env t comm main child) :
    StdioOpen t ↔ comm.toChildRead ≠ STDIN_FILENO ∧ comm.toChildRead ≠ STDOUT_FILENO := by
  constructor
  · rintro ⟨h0, h1⟩
    exact ⟨fun he => h0 (he ▸ h.free), fun he => h1 (he ▸ h.free)⟩
  · rintro ⟨h0, h1⟩
    have h2 : STDOUT_FILENO < comm.toChildRead := by
      simp only [STDIN_FILENO, STDOUT_FILENO] at *
      omega
    exact ⟨h.taken _ ((by decide : STDIN_FILENO < STDOUT_FILENO).trans h2), h.taken _ h2⟩

/-- **The child reads its pipe** if and only if the null device has not taken the descriptor. -/
theorem Spawned.toChildRead (h : Spawned env t comm main child) :
    child.file comm.toChildRead = some (.readEnd .toChild) ↔
      env.devNull = false ∨ StdioOpen t := by
  have hlt := h.lt
  rw [h.child, h.stdioOpen_iff, if_neg (show comm.toChildRead ≠ comm.toMainWrite by omega),
    if_pos rfl]
  cases env.devNull
  · simp
  · by_cases hstd : comm.toChildRead = STDIN_FILENO ∨ comm.toChildRead = STDOUT_FILENO
    · simp only [hstd, and_self, if_true]
      rw [← not_or]
      simp [hstd]
    · simp [not_or.mp hstd]

/-- An end of a pipe of `comm`. -/
def OpenFile.IsEnd (f : OpenFile) : Prop := f.pipe? = some .toChild ∨ f.pipe? = some .toMain

theorem Inherited.not_isEnd (ht : Inherited t) {n : Nat} {f : OpenFile} (h : t.file n = some f) :
    ¬ f.IsEnd := not_or.mpr (ht n f h)

/-- **The locker** holds the end it writes and the end it reads. -/
theorem Spawned.holds_main (h : Spawned env t comm main child) (ht : Inherited t) {f : OpenFile}
    (hf : f.IsEnd) : main.Holds f ↔ f = .writeEnd .toChild ∨ f = .readEnd .toMain := by
  have hlt := h.lt
  constructor
  · rintro ⟨n, hn⟩
    rw [h.main] at hn
    split at hn
    · exact Or.inr (Option.some.inj hn).symm
    · split at hn
      · exact Or.inl (Option.some.inj hn).symm
      · exact absurd hf (ht.not_isEnd hn)
  · rintro (rfl | rfl)
    · exact ⟨comm.toChildWrite, by rw [h.main, if_neg (by omega), if_pos rfl]⟩
    · exact ⟨comm.toMainRead, by rw [h.main, if_pos rfl]⟩

/-- **The child** holds the end it writes, and the end it reads unless it is lost. -/
theorem Spawned.holds_child (h : Spawned env t comm main child) (ht : Inherited t) {f : OpenFile}
    (hf : f.IsEnd) :
    child.Holds f ↔ f = .writeEnd .toMain ∨
      (f = .readEnd .toChild ∧ (env.devNull = false ∨ StdioOpen t)) := by
  have hlt := h.lt
  constructor
  · rintro ⟨n, hn⟩
    have hn' := hn
    rw [h.child] at hn
    split at hn
    · cases hn
      rcases hf with hf | hf <;> cases hf
    · split at hn
      · exact Or.inl (Option.some.inj hn).symm
      · split at hn
        · rename_i hread
          cases hn
          rw [hread] at hn'
          exact Or.inr ⟨rfl, h.toChildRead.mp hn'⟩
        · exact absurd hf (ht.not_isEnd hn)
  · rintro (rfl | ⟨rfl, hopen⟩)
    · refine ⟨comm.toMainWrite, ?_⟩
      rw [h.child, if_neg, if_pos rfl]
      unfold STDIN_FILENO STDOUT_FILENO
      omega
    · exact ⟨comm.toChildRead, h.toChildRead.mpr hopen⟩

end Spawned

/-! ## `daemonize` -/

/-- `daemonize` behind `fork`: the descriptors of the daemon. -/
def daemonizeChild (devNull : Bool) (t : Descriptors OpenFile) : Descriptors OpenFile :=
  let p := t.pipe (.readEnd .daemon) (.writeEnd .daemon)
  let t := p.2.close p.1.1
  let t :=
    if devNull then
      let r := t.openFile .devNull
      ((r.2.dup2 STDOUT_FILENO r.1).dup2 STDERR_FILENO r.1).close r.1
    else t
  t.close p.1.2

/-- The descriptors of the process that waits for the daemon. -/
def daemonizeParent (t : Descriptors OpenFile) : Descriptors OpenFile :=
  let p := t.pipe (.readEnd .daemon) (.writeEnd .daemon)
  p.2.close p.1.2

theorem file_dup2_of_ne (t : Descriptors OpenFile) (old : Nat) {new n : Nat} (h : n ≠ new) :
    (t.dup2 old new).file n = t.file n := by
  cases ho : t.file old with
  | none => rw [t.dup2_none ho]
  | some f => rw [t.dup2_some ho, Descriptors.file_set, if_neg h]

/-- What `daemonize` does about the null device. -/
theorem file_daemonize_devNull (t : Descriptors OpenFile) (n : Nat) :
    ((((t.openFile .devNull).2.dup2 STDOUT_FILENO t.lowest).dup2 STDERR_FILENO t.lowest).close
      t.lowest).file n = t.file n := by
  rw [Descriptors.file_close]
  by_cases hn : n = t.lowest
  · rw [if_pos hn, hn, t.lowest_free]
  · rw [if_neg hn, file_dup2_of_ne _ _ hn, file_dup2_of_ne _ _ hn, Descriptors.openFile,
      Descriptors.file_set, if_neg hn]

/-- **`daemonize` redirects nothing**: the calls of `dup2` overwrite the descriptor of the null
device with the standard output and error, and these stay where they were. -/
theorem daemonize_keeps (devNull : Bool) (t : Descriptors OpenFile) :
    (daemonizeChild devNull t).file = t.file := by
  have hp := t.isPipe_pipe (.readEnd .daemon) (.writeEnd .daemon)
  unfold daemonizeChild
  generalize t.pipe (.readEnd .daemon) (.writeEnd .daemon) = p at hp ⊢
  obtain ⟨⟨a, b⟩, u⟩ := p
  dsimp only at hp ⊢
  have hends : ∀ n, ((u.close a).close b).file n = t.file n := by
    intro n
    simp only [Descriptors.file_close, hp.file]
    by_cases hb : n = b
    · rw [if_pos hb, hb, hp.write]
    · by_cases ha : n = a
      · rw [if_neg hb, if_pos ha, ha, hp.read]
      · simp only [if_neg hb, if_neg ha]
  funext n
  cases devNull with
  | false => exact hends n
  | true =>
    rw [if_pos rfl, Descriptors.file_close, ← hends n]
    show _ = if n = b then none else (u.close a).file n
    split
    · rfl
    · exact file_daemonize_devNull _ n

/-- The process that waits for the daemon holds the same ends of the pipes of `comm`. -/
theorem holds_daemonizeParent (t : Descriptors OpenFile) {f : OpenFile} (hf : f.IsEnd) :
    (daemonizeParent t).Holds f ↔ t.Holds f := by
  have hp := t.isPipe_pipe (.readEnd .daemon) (.writeEnd .daemon)
  unfold daemonizeParent
  generalize t.pipe (.readEnd .daemon) (.writeEnd .daemon) = p at hp ⊢
  obtain ⟨⟨a, b⟩, u⟩ := p
  dsimp only at hp ⊢
  have hfile : ∀ n, (u.close b).file n =
      if n = a then some (.readEnd .daemon) else t.file n := by
    intro n
    have hlt := hp.lt
    rw [Descriptors.file_close, hp.file]
    by_cases hb : n = b
    · rw [if_pos hb, if_neg (by omega), hb, hp.write]
    · rw [if_neg hb, if_neg hb]
  constructor
  · rintro ⟨n, hn⟩
    rw [hfile] at hn
    split at hn
    · cases hn
      rcases hf with hf | hf <;> cases hf
    · exact ⟨n, hn⟩
  · rintro ⟨n, hn⟩
    refine ⟨n, ?_⟩
    rw [hfile, if_neg, hn]
    rintro rfl
    rw [hp.read] at hn
    cases hn

theorem holds_daemonizeChild (devNull : Bool) (t : Descriptors OpenFile) (f : OpenFile) :
    (daemonizeChild devNull t).Holds f ↔ t.Holds f := by
  unfold Descriptors.Holds
  rw [daemonize_keeps]

/-! ## Who holds the ends -/

/-- The processes that have not ended: the locker, the child, and the one that started a daemon. -/
structure Family where
  main : Option (Descriptors OpenFile)
  child : Option (Descriptors OpenFile)
  launcher : Option (Descriptors OpenFile) := none

inductive FamilyAction
  | daemonize (devNull : Bool)
  | mainEnds
  | childEnds
  | launcherEnds
  deriving DecidableEq, Repr

/-- One step: the locker turns into a daemon, or a process ends. -/
def familyStep : FamilyAction → Family → Option Family
  | .daemonize devNull, s =>
    match s.main, s.launcher with
    | some t, none =>
      some { s with main := some (daemonizeChild devNull t), launcher := some (daemonizeParent t) }
    | _, _ => none
  | .mainEnds, s => some { s with main := none }
  | .childEnds, s => some { s with child := none }
  | .launcherEnds, s => some { s with launcher := none }

/-- Some process holds the end. -/
def Family.Held (s : Family) (f : OpenFile) : Prop :=
  (∃ t ∈ s.main, t.Holds f) ∨ (∃ t ∈ s.child, t.Holds f) ∨ (∃ t ∈ s.launcher, t.Holds f)

/-- What the processes hold. -/
structure Family.Holding (lost : Prop) (s : Family) : Prop where
  main : ∀ t ∈ s.main, ∀ f, f.IsEnd → (t.Holds f ↔ f = .writeEnd .toChild ∨ f = .readEnd .toMain)
  launcher : ∀ t ∈ s.launcher, ∀ f, f.IsEnd →
    (t.Holds f ↔ f = .writeEnd .toChild ∨ f = .readEnd .toMain)
  child : ∀ t ∈ s.child, ∀ f, f.IsEnd →
    (t.Holds f ↔ f = .writeEnd .toMain ∨ (f = .readEnd .toChild ∧ ¬ lost))

theorem holding_step {lost : Prop} {a : FamilyAction} {s u : Family} (hs : s.Holding lost)
    (h : familyStep a s = some u) : u.Holding lost := by
  cases a with
  | daemonize devNull =>
    rw [familyStep] at h
    split at h
    · rename_i t hmain hlauncher
      cases h
      refine ⟨?_, ?_, hs.child⟩
      · rintro _ ⟨⟩ f hf
        exact (holds_daemonizeChild devNull t f).trans (hs.main t hmain f hf)
      · rintro _ ⟨⟩ f hf
        exact (holds_daemonizeParent t hf).trans (hs.main t hmain f hf)
    · cases h
  | mainEnds => cases h; exact ⟨(fun _ h => by cases h), hs.launcher, hs.child⟩
  | childEnds => cases h; exact ⟨hs.main, hs.launcher, fun _ h => by cases h⟩
  | launcherEnds => cases h; exact ⟨hs.main, (fun _ h => by cases h), hs.child⟩

theorem Family.Holding.held_iff {lost : Prop} {s : Family} (h : s.Holding lost) {f : OpenFile}
    (hf : f.IsEnd) :
    s.Held f ↔
      ((f = .writeEnd .toChild ∨ f = .readEnd .toMain) ∧
        (s.main.isSome = true ∨ s.launcher.isSome = true)) ∨
      ((f = .writeEnd .toMain ∨ (f = .readEnd .toChild ∧ ¬ lost)) ∧ s.child.isSome = true) := by
  have some_iff : ∀ {o : Option (Descriptors OpenFile)} {P : Prop},
      (∀ t ∈ o, (t.Holds f ↔ P)) → ((∃ t ∈ o, t.Holds f) ↔ P ∧ o.isSome = true) := by
    intro o P ho
    constructor
    · rintro ⟨t, ht, hh⟩
      exact ⟨(ho t ht).mp hh, Option.isSome_iff_exists.mpr ⟨t, ht⟩⟩
    · rintro ⟨hP, hsome⟩
      obtain ⟨t, ht⟩ := Option.isSome_iff_exists.mp hsome
      exact ⟨t, ht, (ho t ht).mpr hP⟩
  unfold Family.Held
  rw [some_iff fun t ht => h.main t ht f hf, some_iff fun t ht => h.child t ht f hf,
    some_iff fun t ht => h.launcher t ht f hf]
  tauto

/-- The ends, one by one. -/
theorem Family.Holding.ends {lost : Prop} {s : Family} (h : s.Holding lost) :
    (s.Held (.writeEnd .toChild) ↔ s.main.isSome = true ∨ s.launcher.isSome = true) ∧
      (s.Held (.readEnd .toMain) ↔ s.main.isSome = true ∨ s.launcher.isSome = true) ∧
      (s.Held (.writeEnd .toMain) ↔ s.child.isSome = true) ∧
      (s.Held (.readEnd .toChild) ↔ s.child.isSome = true ∧ ¬ lost) := by
  rw [h.held_iff (Or.inl rfl), h.held_iff (Or.inr rfl), h.held_iff (Or.inr rfl),
    h.held_iff (Or.inl rfl)]
  simp only [reduceCtorEq, OpenFile.writeEnd.injEq, OpenFile.readEnd.injEq, or_true, or_false,
    false_or, false_and, true_and]
  tauto

theorem Spawned.holding {env : SpawnEnv} {comm : CommFds} {main child : Descriptors OpenFile}
    (h : Spawned env t comm main child) (ht : Inherited t) :
    Family.Holding (¬ (env.devNull = false ∨ StdioOpen t))
      { main := some main, child := some child } := by
  refine ⟨?_, (fun _ h => by cases h), ?_⟩
  · rintro _ ⟨⟩ f hf
    exact h.holds_main ht hf
  · rintro _ ⟨⟩ f hf
    rw [not_not]
    exact h.holds_child ht hf

/-- **Who holds the ends of the pipes**, in every order in which the locker becomes a daemon and
the processes end. -/
theorem ends_held {env : SpawnEnv} {comm : CommFds} {main child : Descriptors OpenFile}
    (ht : Inherited t) (hspawn : spawnCommChild env t = some (comm, main, child))
    {as : List FamilyAction} {s : Family}
    (h : run familyStep as { main := some main, child := some child } = some s) :
    (s.Held (.writeEnd .toChild) ↔ s.main.isSome = true ∨ s.launcher.isSome = true) ∧
      (s.Held (.readEnd .toMain) ↔ s.main.isSome = true ∨ s.launcher.isSome = true) ∧
      (s.Held (.writeEnd .toMain) ↔ s.child.isSome = true) ∧
      (s.Held (.readEnd .toChild) ↔
        s.child.isSome = true ∧ (env.devNull = false ∨ StdioOpen t)) := by
  have hz := run_invariant (fun a s u hs h => holding_step hs h) h ((spawned hspawn).holding ht)
  have hends := hz.ends
  rw [not_not] at hends
  exact hends

/-- The descriptors of a program started from a terminal. -/
def terminal : Descriptors OpenFile where
  file n := if n < 3 then some (.inherited n) else none
  bound := 3
  free _ hn := if_neg (not_lt.mpr hn)

theorem inherited_terminal : Inherited terminal := by
  intro n f h
  change (if n < 3 then some (OpenFile.inherited n) else none) = some f at h
  split at h
  · cases h
    exact ⟨by simp [OpenFile.pipe?], by simp [OpenFile.pipe?]⟩
  · cases h

theorem stdioOpen_terminal : StdioOpen terminal := ⟨by decide, by decide⟩

/-- The daemon dies while the process that started it still waits: the pipe stays open. -/
theorem ends_held_launcher :
    ∃ comm main child s, spawnCommChild {} terminal = some (comm, main, child) ∧
      run familyStep [.daemonize true, .mainEnds] { main := some main, child := some child } =
        some s ∧
      s.main = none ∧ s.Held (.writeEnd .toChild) := by
  obtain ⟨comm, main, child, hspawn⟩ : ∃ comm main child,
      spawnCommChild {} terminal = some (comm, main, child) := ⟨_, _, _, rfl⟩
  obtain ⟨s, hs, hmain, hlauncher⟩ : ∃ s, run familyStep [.daemonize true, .mainEnds]
      { main := some main, child := some child } = some s ∧ s.main = none ∧
      s.launcher.isSome = true := ⟨_, rfl, rfl, rfl⟩
  exact ⟨comm, main, child, s, hspawn, hs, hmain,
    (ends_held inherited_terminal hspawn hs).1.mpr (Or.inr hlauncher)⟩

/-! ## The pipes of the locker -/

/-- The ends of the pipes are open as long as their processes are there. -/
structure Flagged {β : Type} (s : System β) : Prop where
  toChild : s.main.toChild.writer = s.main.phase.live ∧ s.main.toChild.reader = s.alive
  toMain : s.main.toMain.writer = s.alive ∧ s.main.toMain.reader = s.main.phase.live

variable {parse : CString → Option Json} {print : Json → Option CString} {username : CString}

theorem sameEnds_move {debugUnlock : Bool} {a : MainAction} {m n : MainSide}
    (h : MainMove debugUnlock parse m a n) :
    SameEnds m.toChild n.toChild ∧ SameEnds m.toMain n.toMain := by
  cases h with
  | key _ _ step => cases step <;> exact ⟨⟨rfl, rfl⟩, rfl, rfl⟩
  | _ => exact ⟨⟨rfl, rfl⟩, rfl, rfl⟩

theorem flagged_step {debugUnlock : Bool} {a : Action PamAction} {s u : System PamChild}
    (hs : Flagged s)
    (h : system debugUnlock parse (pamBackend parse print username) a s = some u) : Flagged u := by
  have child : ∀ {a : PamAction} {r : Reaction PamChild},
      pamAct parse print username a s.child s.main.toChild = some r →
      Flagged { s with
        main := { s.main with toChild := r.toChild }, child := r.child, out := r.out } := by
    intro a r hr
    obtain ⟨hw, hr⟩ := sameEnds_pamAct hr
    exact ⟨⟨hw.trans hs.toChild.1, hr.trans hs.toChild.2⟩, hs.toMain⟩
  have ends : ∀ {s : System PamChild}, Flagged s → Flagged s.childEnds := fun hs =>
    ⟨⟨hs.toChild.1, rfl⟩, rfl, hs.toMain.2⟩
  cases system_cases debugUnlock parse _ h with
  | @main a m hm =>
    obtain ⟨⟨hcw, hcr⟩, hmw, hmr⟩ := sameEnds_move hm
    have live := hm.live
    by_cases hl : m.phase.live = true
    · rw [settle_of_live hl]
      exact ⟨⟨(hcw.trans hs.toChild.1).trans (live.trans hl.symm), hcr.trans hs.toChild.2⟩,
        hmw.trans hs.toMain.1, (hmr.trans hs.toMain.2).trans (live.trans hl.symm)⟩
    · have hsettle : m.settle = { m with
          toChild := { m.toChild with writer := false }
          toMain := { m.toMain with reader := false } } := if_neg hl
      rw [Bool.not_eq_true] at hl
      rw [hsettle]
      exact ⟨⟨hl.symm, hcr.trans hs.toChild.2⟩, hmw.trans hs.toMain.1, hl.symm⟩
  | child _ _ act => exact child act
  | childExits _ _ act => exact ends (child act)
  | write => exact ⟨hs.toChild, hs.toMain⟩
  | sigpipe => exact ends hs
  | crash => exact ends hs

/-- The processes that are left in a state of the locker. -/
def System.family {β : Type} (main child : Descriptors OpenFile) (s : System β) : Family where
  main := if s.main.phase.live then some main else none
  child := if s.alive then some child else none

/-- **The pipes of the locker are those of the processes**, in every state of every run: an end is
open if and only if some process has a descriptor for it. -/
theorem pipes_held {env : SpawnEnv} {comm : CommFds} {main child : Descriptors OpenFile}
    (ht : Inherited t) (hstdio : StdioOpen t)
    (hspawn : spawnCommChild env t = some (comm, main, child)) (debugUnlock : Bool)
    (parse : CString → Option Json) (print : Json → Option CString) (username : CString)
    (c : PamChild) (args : SwaylockArgs) (buffer : List UInt8) {as : List (Action PamAction)}
    {z : System PamChild}
    (h : run (system debugUnlock parse (pamBackend parse print username)) as
      (.start c args buffer) = some z) :
    (z.main.toChild.writer = true ↔ (z.family main child).Held (.writeEnd .toChild)) ∧
      (z.main.toChild.reader = true ↔ (z.family main child).Held (.readEnd .toChild)) ∧
      (z.main.toMain.writer = true ↔ (z.family main child).Held (.writeEnd .toMain)) ∧
      (z.main.toMain.reader = true ↔ (z.family main child).Held (.readEnd .toMain)) := by
  have hz : Flagged z := run_invariant (fun a s u hs h => flagged_step hs h) h
    ⟨⟨rfl, rfl⟩, rfl, rfl⟩
  have hfamily : Family.Holding (¬ (env.devNull = false ∨ StdioOpen t))
      (z.family main child) := by
    have hs := (spawned hspawn).holding ht
    refine ⟨fun t ht => hs.main t ?_, hs.launcher, fun t ht => hs.child t ?_⟩
    · exact (Option.ite_none_right_eq_some.mp ht).2
    · exact (Option.ite_none_right_eq_some.mp ht).2
  obtain ⟨h1, h2, h3, h4⟩ := hfamily.ends
  rw [h1, h2, h3, h4, hz.toChild.1, hz.toChild.2, hz.toMain.1, hz.toMain.2]
  unfold System.family
  cases z.main.phase.live <;> cases z.alive <;> simp [hstdio]

/-- The child crashes, and nobody reads the pipe of the locker any more. -/
theorem pipes_held_crash :
    ∃ comm main child z, spawnCommChild {} terminal = some (comm, main, child) ∧
      run (system false (fun _ => none) (pamBackend (fun _ => none) (fun _ => none) []))
        [.child (.start true), .crash] (System.start {} {} [0]) = some z ∧
      ¬ (z.family main child).Held (.readEnd .toChild) := by
  obtain ⟨comm, main, child, hspawn⟩ : ∃ comm main child,
      spawnCommChild {} terminal = some (comm, main, child) := ⟨_, _, _, rfl⟩
  obtain ⟨z, hz, hreader⟩ : ∃ z, run (system false (fun _ => none)
      (pamBackend (fun _ => none) (fun _ => none) [])) [.child (.start true), .crash]
      (System.start {} {} [0]) = some z ∧ z.main.toChild.reader = false := ⟨_, rfl, rfl⟩
  refine ⟨comm, main, child, z, hspawn, hz, fun hheld => ?_⟩
  have hiff := (pipes_held inherited_terminal stdioOpen_terminal hspawn false _ _ _ _ _ _ hz).2.1
  rw [hiff.mpr hheld] at hreader
  cases hreader

end SwaylockAuthd
