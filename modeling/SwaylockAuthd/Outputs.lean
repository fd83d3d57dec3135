import SwaylockAuthd.Lib.Transition

/-!
# Every output gets a lock surface

The outputs that are there when the session is locked get their surfaces in one loop of
`main`; later ones get theirs from the `done` event of the output, which creates a surface
only while `run_display` is set.  Between the loop and the main loop `main` waits for the
compositor to lock the session.

* `outputStep`: what the compositor sends, and the phases of `main`.
* `placed_step`: what each of them keeps.
* `covered_iff`: every output that is done has one surface, if and only if no output
  that is done has appeared during that wait.
-/

namespace SwaylockAuthd

open Transition

/-! ## The start of `main` -/

/-- The waits of `main`: the roundtrip for the globals, the one after `lock`, the wait for the
`locked` event, and the main loop. -/
inductive StartPhase
  | globals
  | lock
  | locked
  | mainLoop
  deriving DecidableEq, Repr

/-- The loop that creates the surfaces is still to come. -/
def StartPhase.early : StartPhase → Bool
  | .globals | .lock => true
  | _ => false

/-- The interfaces of `handle_global`. -/
inductive Interface
  | compositor
  | subcompositor
  | shm
  | seat
  | output
  | lockManager
  | other
  deriving DecidableEq, Repr

/-- `struct swaylock_surface` of an output, and what has happened to it: whether it was there
before the loop of `main`, whether its `done` event has come, and the calls of
`create_surface`. -/
structure Output where
  addr : Nat
  globalName : UInt32
  created : Bool := false
  early : Bool := false
  done : Bool := false
  creations : Nat := 0
  deriving DecidableEq, Repr

/-- `struct swaylock_state`; the first surface is the last one inserted.  `fresh` is the address
of the next one. -/
structure Session where
  phase : StartPhase := .globals
  compositor : Bool := false
  subcompositor : Bool := false
  shm : Bool := false
  lockManager : Bool := false
  locked : Bool := false
  runDisplay : Bool := false
  surfaces : List Output := []
  fresh : Nat := 0
  deriving DecidableEq, Repr

/-- `create_surface`. -/
def Output.createSurface (o : Output) : Output :=
  { o with created := true, creations := o.creations + 1 }

/-- `handle_wl_output_done`. -/
def Output.handleDone (runDisplay : Bool) (o : Output) : Output :=
  let o := { o with done := true }
  if ¬ o.created ∧ runDisplay then o.createSurface else o

namespace Session

/-- `handle_global`. -/
def handleGlobal (name : UInt32) (interface : Interface) (s : Session) : Session :=
  match interface with
  | .compositor => { s with compositor := true }
  | .subcompositor => { s with subcompositor := true }
  | .shm => { s with shm := true }
  | .lockManager => { s with lockManager := true }
  | .output =>
    { s with
      surfaces := { addr := s.fresh, globalName := name, early := s.phase.early } :: s.surfaces
      fresh := s.fresh + 1 }
  | .seat | .other => s

/-- `handle_global_remove`: the first surface of that name goes. -/
def handleGlobalRemove (name : UInt32) (s : Session) : Session :=
  { s with surfaces := s.surfaces.eraseP fun o => o.globalName = name }

/-- The `done` event of the output of a surface. -/
def handleWlOutputDone (addr : Nat) (s : Session) : Session :=
  { s with surfaces := s.surfaces.map fun o =>
      if o.addr = addr then o.handleDone s.runDisplay else o }

/-- What `main` needs before it locks the session. -/
def HasGlobals (s : Session) : Prop :=
  s.compositor = true ∧ s.subcompositor = true ∧ s.shm = true ∧ s.lockManager = true

instance (s : Session) : Decidable s.HasGlobals := inferInstanceAs (Decidable (_ ∧ _))

end Session

/-- An event of the compositor, or the end of a wait of `main`. -/
inductive SessionEvent
  | global (name : UInt32) (interface : Interface)
  | globalRemove (name : UInt32)
  | outputDone (addr : Nat)
  | locked
  | finished
  | lock
  | createSurfaces
  | run
  | stop
  deriving DecidableEq, Repr

open Session in
/-- One step; `none` when `main` is not there yet, or exits. -/
def outputStep : SessionEvent → Session → Option Session
  | .global name interface, s => some (handleGlobal name interface s)
  | .globalRemove name, s => some (handleGlobalRemove name s)
  | .outputDone addr, s => some (handleWlOutputDone addr s)
  | .locked, s => some { s with locked := true }
  | .finished, _ => none
  | .lock, s => if s.phase = .globals ∧ s.HasGlobals then some { s with phase := .lock } else none
  | .createSurfaces, s =>
    if s.phase = .lock then
      some { s with phase := .locked, surfaces := s.surfaces.map Output.createSurface }
    else none
  | .run, s =>
    if s.phase = .locked ∧ s.locked then some { s with phase := .mainLoop, runDisplay := true }
    else none
  | .stop, s => some { s with runDisplay := false }

/-! ## The law -/

/-- **Every output that is done has a surface**, which was created once. -/
def Covered (s : Session) : Prop :=
  s.runDisplay = true → ∀ o ∈ s.surfaces, o.done = true → o.created = true ∧ o.creations = 1

/-- The condition: when the main loop starts, the outputs that are done were there before the
surfaces were created. -/
def Punctual (a : SessionEvent) (s : Session) : Prop :=
  a = .run → s.phase = .locked → s.locked = true → ∀ o ∈ s.surfaces, o.done = true → o.early = true

/-- Which outputs have a surface, phase by phase. -/
structure Placed (s : Session) : Prop where
  once : ∀ o ∈ s.surfaces, o.creations = if o.created then 1 else 0
  stopped : s.phase ≠ .mainLoop → s.runDisplay = false
  before : s.phase.early = true → ∀ o ∈ s.surfaces, o.created = false ∧ o.early = true
  waiting : s.phase = .locked → ∀ o ∈ s.surfaces, o.created = o.early
  running : s.runDisplay = true → ∀ o ∈ s.surfaces, o.done = true → o.created = true

theorem Placed.covered {s : Session} (h : Placed s) : Covered s := by
  intro hrun o ho hdone
  have hcreated := h.running hrun o ho hdone
  refine ⟨hcreated, ?_⟩
  rw [h.once o ho, if_pos hcreated]

theorem placed_start : Placed {} := by
  refine ⟨?_, fun _ => rfl, ?_, ?_, ?_⟩
  all_goals
    intros
    simp_all

/-! ## The steps -/

/-- A `done` event creates the surface at most once, and only in the main loop. -/
theorem handleDone_once {o : Output} (b : Bool) (h : o.creations = if o.created then 1 else 0) :
    (o.handleDone b).creations = if (o.handleDone b).created then 1 else 0 := by
  unfold Output.handleDone
  cases hc : o.created <;> cases b <;> simp_all [Output.createSurface]

theorem handleDone_stopped (o : Output) :
    (o.handleDone false).created = o.created ∧ (o.handleDone false).early = o.early := by
  simp [Output.handleDone]

theorem handleDone_running (o : Output) : (o.handleDone true).created = true := by
  unfold Output.handleDone
  cases hc : o.created
  · simp [Output.createSurface]
  · simp

/-- A surface after a `done` event is one of before, or has handled it. -/
theorem mem_handleWlOutputDone {addr : Nat} {s : Session} {o : Output}
    (h : o ∈ (s.handleWlOutputDone addr).surfaces) :
    ∃ o' ∈ s.surfaces, o = o' ∨ o = o'.handleDone s.runDisplay := by
  obtain ⟨o', ho', rfl⟩ := List.mem_map.mp h
  refine ⟨o', ho', ?_⟩
  split
  · exact Or.inr rfl
  · exact Or.inl rfl

theorem placed_done {s : Session} (hs : Placed s) (addr : Nat) :
    Placed (s.handleWlOutputDone addr) := by
  refine ⟨fun o ho => ?_, hs.stopped, fun hphase o ho => ?_, fun hphase o ho => ?_,
    fun hrun o ho hdone => ?_⟩
  · obtain ⟨o', ho', rfl | rfl⟩ := mem_handleWlOutputDone ho
    · exact hs.once _ ho'
    · exact handleDone_once _ (hs.once o' ho')
  · have hearly : s.phase.early = true := hphase
    have hstop : s.runDisplay = false := hs.stopped (fun hm => by
      rw [hm] at hearly
      cases hearly)
    obtain ⟨o', ho', rfl | rfl⟩ := mem_handleWlOutputDone ho
    · exact hs.before hphase _ ho'
    · rw [hstop, (handleDone_stopped o').1, (handleDone_stopped o').2]
      exact hs.before hphase o' ho'
  · have hlocked : s.phase = .locked := hphase
    have hstop : s.runDisplay = false := hs.stopped (fun hm => by
      rw [hlocked] at hm
      cases hm)
    obtain ⟨o', ho', rfl | rfl⟩ := mem_handleWlOutputDone ho
    · exact hs.waiting hphase _ ho'
    · rw [hstop, (handleDone_stopped o').1, (handleDone_stopped o').2]
      exact hs.waiting hphase o' ho'
  · have hrun' : s.runDisplay = true := hrun
    obtain ⟨o', ho', rfl | rfl⟩ := mem_handleWlOutputDone ho
    · exact hs.running hrun' _ ho' hdone
    · rw [hrun']
      exact handleDone_running o'

theorem placed_global {s : Session} (hs : Placed s) (name : UInt32) (interface : Interface) :
    Placed (s.handleGlobal name interface) := by
  cases interface with
  | output =>
    refine ⟨fun o ho => ?_, hs.stopped, fun hphase o ho => ?_, fun hphase o ho => ?_,
      fun hrun o ho hdone => ?_⟩
    · rcases List.mem_cons.mp ho with rfl | ho
      · rfl
      · exact hs.once o ho
    · rcases List.mem_cons.mp ho with rfl | ho
      · exact ⟨rfl, hphase⟩
      · exact hs.before hphase o ho
    · rcases List.mem_cons.mp ho with rfl | ho
      · have hp : s.phase = .locked := hphase
        show false = s.phase.early
        rw [hp]
        rfl
      · exact hs.waiting hphase o ho
    · rcases List.mem_cons.mp ho with rfl | ho
      · cases hdone
      · exact hs.running hrun o ho hdone
  | _ => exact ⟨hs.once, hs.stopped, hs.before, hs.waiting, hs.running⟩

theorem placed_remove {s : Session} (hs : Placed s) (name : UInt32) :
    Placed (s.handleGlobalRemove name) :=
  ⟨fun o ho => hs.once o (List.mem_of_mem_eraseP ho), hs.stopped,
    fun hp o ho => hs.before hp o (List.mem_of_mem_eraseP ho),
    fun hp o ho => hs.waiting hp o (List.mem_of_mem_eraseP ho),
    fun hr o ho => hs.running hr o (List.mem_of_mem_eraseP ho)⟩

theorem placed_create {s : Session} (hs : Placed s) (hp : s.phase = .lock) :
    Placed { s with phase := .locked, surfaces := s.surfaces.map Output.createSurface } := by
  have hearly : s.phase.early = true := by rw [hp]; rfl
  have hstop : s.runDisplay = false := hs.stopped (by rw [hp]; decide)
  have hmem : ∀ o ∈ s.surfaces.map Output.createSurface,
      o.created = true ∧ o.early = true ∧ o.creations = 1 := by
    intro o ho
    obtain ⟨o', ho', rfl⟩ := List.mem_map.mp ho
    obtain ⟨hcreated, he⟩ := hs.before hearly o' ho'
    have honce := hs.once o' ho'
    rw [hcreated] at honce
    exact ⟨rfl, he, by show o'.creations + 1 = 1; rw [honce]; rfl⟩
  refine ⟨fun o ho => ?_, fun _ => hstop, fun h => (nomatch h), fun _ o ho => ?_, fun hrun => ?_⟩
  · rw [(hmem o ho).2.2, if_pos (hmem o ho).1]
  · rw [(hmem o ho).1, (hmem o ho).2.1]
  · rw [show s.runDisplay = true from hrun] at hstop
    cases hstop

/-- **What a step keeps**, if it meets the condition. -/
theorem placed_step {a : SessionEvent} {s t : Session} (hs : Placed s) (hC : Punctual a s)
    (h : outputStep a s = some t) : Placed t := by
  cases a with
  | global name interface => cases h; exact placed_global hs name interface
  | globalRemove name => cases h; exact placed_remove hs name
  | outputDone addr => cases h; exact placed_done hs addr
  | locked => cases h; exact ⟨hs.once, hs.stopped, hs.before, hs.waiting, hs.running⟩
  | finished => cases h
  | lock =>
    rw [outputStep] at h
    split at h
    · rename_i hp
      cases h
      have hearly : s.phase.early = true := by rw [hp.1]; rfl
      have hstop : s.runDisplay = false := hs.stopped (by rw [hp.1]; decide)
      exact ⟨hs.once, fun _ => hstop, fun _ => hs.before hearly, fun h => (nomatch h), hs.running⟩
    · cases h
  | createSurfaces =>
    rw [outputStep] at h
    split at h
    · rename_i hp
      cases h
      exact placed_create hs hp
    · cases h
  | run =>
    rw [outputStep] at h
    split at h
    · rename_i hp
      cases h
      refine ⟨hs.once, fun h => absurd rfl h, fun h => (nomatch h), fun h => (nomatch h),
        fun _ o ho hdone => ?_⟩
      rw [hs.waiting hp.1 o ho]
      exact hC rfl hp.1 hp.2 o ho hdone
    · cases h
  | stop =>
    cases h
    exact ⟨hs.once, fun _ => rfl, hs.before, hs.waiting, fun h => (nomatch h)⟩

/-- A main loop that starts too late for an output leaves it without a surface. -/
theorem covered_break {a : SessionEvent} {s : Session} (hs : Placed s) (hC : ¬ Punctual a s) :
    ∃ t, outputStep a s = some t ∧ ¬ Covered t := by
  simp only [Punctual, not_forall] at hC
  obtain ⟨rfl, hp, hl, o, ho, hdone, hlate⟩ := hC
  refine ⟨_, by rw [outputStep, if_pos ⟨hp, hl⟩], fun hcov => ?_⟩
  obtain ⟨hcreated, -⟩ := hcov rfl o ho hdone
  rw [hs.waiting hp o ho] at hcreated
  exact hlate hcreated

/-- **Every output that is done has one lock surface throughout a run, if and only if none has
appeared and been done while `main` waited for the session to be locked.** -/
theorem covered_iff (as : List SessionEvent) :
    Throughout outputStep Covered as {} ↔ Along outputStep Punctual as {} :=
  throughout_iff_along (H := fun _ _ => True) (fun _ _ _ hs _ hC h => placed_step hs hC h)
    (fun _ h => h.covered) (fun _ _ hs _ hC => covered_break hs hC) placed_start
    (along_of_mem (fun _ _ _ => trivial) _)

/-- An output is plugged in while `main` waits. -/
def hotplugRun : List SessionEvent :=
  [.global 1 .compositor, .global 2 .subcompositor, .global 3 .shm, .global 4 .lockManager, .lock,
    .createSurfaces, .global 5 .output, .outputDone 0, .locked, .run]

/-- It is left without a lock surface. -/
theorem not_covered_hotplug : ¬ Throughout outputStep Covered hotplugRun {} := by
  intro h
  have hlast := h hotplugRun (List.prefix_refl _) _ rfl
  exact absurd (hlast rfl _ List.mem_cons_self rfl).1 (by decide)

end SwaylockAuthd
