import Mathlib.Data.Option.Basic
import Mathlib.Data.List.Basic

/-!
# Runs of a labelled transition system

A system is a step function `step : α → σ → Option σ`: in state `s` the action
`a` is not enabled (`none`) or leads to one state.  All the nondeterminism is in
the actions, so `run step as s` executes a list of them.

* `run_invariant`: what every step keeps, every run keeps.
* `Along step C as s`: each step of the run meets `C`, a condition on the action
  and the state before it.  `run_invariant_along`: the same with a condition.
* `throughout_iff_along`: when such a condition is exact.
* `monitored step note`: the system with a monitor beside it that reads each
  step and never disturbs it.  A history of the run is such a monitor.
* `Simulates step step' R`: each step of the one system is some steps of the other.
* `trace step observe`: what an observer sees of a run.  `Unwinds`: the step conditions
  under which two runs with one trace end in related states (`Unwinds.run`).
-/

namespace Transition

variable {σ α μ : Type*}

/-- Execute a list of actions; `none` when one of them is not enabled. -/
def run (step : α → σ → Option σ) : List α → σ → Option σ
  | [], s => some s
  | a :: as, s => (step a s).bind (run step as)

variable {step : α → σ → Option σ}

@[simp] theorem run_nil (s : σ) : run step [] s = some s := rfl

theorem run_cons {a : α} {as : List α} {s t : σ} :
    run step (a :: as) s = some t ↔ ∃ m, step a s = some m ∧ run step as m = some t := by
  rw [run, Option.bind_eq_some_iff]

/-! ## Invariants -/

/-- Every step of the run meets `C`, read on the action and the state before it. -/
def Along (step : α → σ → Option σ) (C : α → σ → Prop) : List α → σ → Prop
  | [], _ => True
  | a :: as, s => C a s ∧ ∀ t, step a s = some t → Along step C as t

/-- A condition on the actions alone. -/
theorem along_of_mem {C : α → σ → Prop} {as : List α} (h : ∀ a ∈ as, ∀ s, C a s) (s : σ) :
    Along step C as s := by
  induction as generalizing s with
  | nil => trivial
  | cons a as ih =>
    exact ⟨h a List.mem_cons_self s, fun t _ => ih (fun b hb => h b (List.mem_cons_of_mem a hb)) t⟩

theorem Along.mono {C D : α → σ → Prop} (h : ∀ a s, C a s → D a s) {as : List α} {s : σ}
    (hC : Along step C as s) : Along step D as s := by
  induction as generalizing s with
  | nil => trivial
  | cons a as ih => exact ⟨h a s hC.1, fun t ht => ih (hC.2 t ht)⟩

theorem Along.and {C D : α → σ → Prop} {as : List α} {s : σ} (hC : Along step C as s)
    (hD : Along step D as s) : Along step (fun a s => C a s ∧ D a s) as s := by
  induction as generalizing s with
  | nil => trivial
  | cons a as ih => exact ⟨⟨hC.1, hD.1⟩, fun t ht => ih (hC.2 t ht) (hD.2 t ht)⟩

/-- A condition met along a run is met along every first part of it. -/
theorem Along.left {C : α → σ → Prop} {as bs : List α} {s : σ} (h : Along step C (as ++ bs) s) :
    Along step C as s := by
  induction as generalizing s with
  | nil => trivial
  | cons a as ih => exact ⟨h.1, fun t ht => ih (h.2 t ht)⟩

/-- **What every step keeps, every run keeps**, for the runs whose steps meet `C`. -/
theorem run_invariant_along {C : α → σ → Prop} {I : σ → Prop}
    (hstep : ∀ a s t, I s → C a s → step a s = some t → I t) :
    ∀ {as : List α} {s t : σ}, Along step C as s → run step as s = some t → I s → I t := by
  intro as
  induction as with
  | nil =>
    intro s t _ h hs
    obtain rfl : s = t := by simpa using h
    exact hs
  | cons a as ih =>
    intro s t hC h hs
    obtain ⟨m, hm, hrest⟩ := run_cons.mp h
    exact ih (hC.2 m hm) hrest (hstep a s m hs hC.1 hm)

theorem run_invariant {I : σ → Prop} (hstep : ∀ a s t, I s → step a s = some t → I t)
    {as : List α} {s t : σ} (h : run step as s = some t) (hs : I s) : I t :=
  run_invariant_along (C := fun _ _ => True) (fun a s t hI _ => hstep a s t hI)
    (along_of_mem (fun _ _ _ => trivial) s) h hs

/-- `P` holds in every state the run passes through. -/
def Throughout (step : α → σ → Option σ) (P : σ → Prop) (as : List α) (s : σ) : Prop :=
  ∀ bs, bs <+: as → ∀ t, run step bs s = some t → P t

theorem Throughout.tail {P : σ → Prop} {a : α} {as : List α} {s t : σ}
    (h : Throughout step P (a :: as) s) (ha : step a s = some t) : Throughout step P as t := by
  rintro bs ⟨rest, rfl⟩ u hu
  exact h (a :: bs) ⟨rest, rfl⟩ u (run_cons.mpr ⟨t, ha, hu⟩)

theorem throughout_nil {P : σ → Prop} {s : σ} (hs : P s) : Throughout step P [] s := by
  intro bs hbs t ht
  obtain rfl := List.prefix_nil.mp hbs
  obtain rfl : s = t := by simpa using ht
  exact hs

theorem throughout_cons {P : σ → Prop} {a : α} {as : List α} {s : σ} (hs : P s)
    (h : ∀ t, step a s = some t → Throughout step P as t) : Throughout step P (a :: as) s := by
  intro bs hbs t ht
  cases bs with
  | nil =>
    obtain rfl : s = t := by simpa using ht
    exact hs
  | cons b bs =>
    obtain ⟨rfl, hpre⟩ := List.cons_prefix_cons.mp hbs
    obtain ⟨u, hu, ht⟩ := run_cons.mp ht
    exact h u hu bs hpre t ht

/-- What holds throughout a run holds after each of its steps. -/
theorem Throughout.along {P : σ → Prop} {as : List α} {s : σ} (h : Throughout step P as s) :
    Along step (fun a s => ∀ t, step a s = some t → P t) as s := by
  induction as generalizing s with
  | nil => trivial
  | cons a as ih =>
    exact ⟨fun t ht => h [a] ⟨as, rfl⟩ t (run_cons.mpr ⟨t, ht, rfl⟩), fun t ht => ih (h.tail ht)⟩

/-- A property that holds along the runs whose steps meet `C`. -/
theorem throughout_of_along {C : α → σ → Prop} {I P : σ → Prop}
    (hstep : ∀ a s t, I s → C a s → step a s = some t → I t) (hP : ∀ s, I s → P s)
    {as : List α} {s : σ} (hs : I s) (h : Along step C as s) : Throughout step P as s := by
  rintro bs ⟨rest, rfl⟩ t ht
  exact hP t (run_invariant_along hstep h.left ht hs)

/-- **An exact condition**: along a run whose steps meet `H`, a property holds throughout
if and only if every step meets `C`, when the steps that meet `C` keep the property
and the others break it. -/
theorem throughout_iff_along {H C : α → σ → Prop} {I P : σ → Prop}
    (hstep : ∀ a s t, I s → H a s → C a s → step a s = some t → I t) (hP : ∀ s, I s → P s)
    (hbreak : ∀ a s, I s → H a s → ¬ C a s → ∃ t, step a s = some t ∧ ¬ P t) :
    ∀ {as : List α} {s : σ}, I s → Along step H as s →
      (Throughout step P as s ↔ Along step C as s) := by
  intro as
  induction as with
  | nil =>
    intro s hs _
    exact ⟨fun _ => trivial, fun _ => throughout_nil (hP s hs)⟩
  | cons a as ih =>
    intro s hs hH
    constructor
    · intro h
      have ha : C a s := by
        by_contra hn
        obtain ⟨t, ht, hnP⟩ := hbreak a s hs hH.1 hn
        exact hnP (h [a] ⟨as, rfl⟩ t (run_cons.mpr ⟨t, ht, rfl⟩))
      exact ⟨ha, fun t ht => (ih (hstep a s t hs hH.1 ha ht) (hH.2 t ht)).mp (h.tail ht)⟩
    · rintro ⟨ha, hrest⟩
      exact throughout_cons (hP s hs) fun t ht =>
        (ih (hstep a s t hs hH.1 ha ht) (hH.2 t ht)).mpr (hrest t ht)

/-! ## Monitors -/

/-- The system with a monitor: `note a s t m` is what the monitor knows after the
step `a` from `s` to `t`. -/
def monitored (step : α → σ → Option σ) (note : α → σ → σ → μ → μ) :
    α → σ × μ → Option (σ × μ) :=
  fun a x => (step a x.1).map fun t => (t, note a x.1 t x.2)

variable {note : α → σ → σ → μ → μ}

theorem monitored_eq_some {a : α} {x y : σ × μ} :
    monitored step note a x = some y ↔ step a x.1 = some y.1 ∧ y.2 = note a x.1 y.1 x.2 := by
  rw [monitored, Option.map_eq_some_iff]
  constructor
  · rintro ⟨t, ht, rfl⟩
    exact ⟨ht, rfl⟩
  · rintro ⟨ht, hy⟩
    exact ⟨y.1, ht, by rw [← hy]⟩

/-- A condition on the system, met along the run beside the monitor. -/
theorem along_monitored {C : α → σ → Prop} {as : List α} {s : σ} {m : μ} (h : Along step C as s) :
    Along (monitored step note) (fun a x => C a x.1) as (s, m) := by
  induction as generalizing s m with
  | nil => trivial
  | cons a as ih =>
    refine ⟨h.1, fun y hy => ?_⟩
    obtain ⟨t, m'⟩ := y
    exact ih (h.2 t (monitored_eq_some.mp hy).1)

/-! ## Simulation -/

section Simulation

variable {β τ : Type*} {step' : β → τ → Option τ}

theorem run_append {as bs : List α} {s t u : σ} (h : run step as s = some t)
    (h' : run step bs t = some u) : run step (as ++ bs) s = some u := by
  induction as generalizing s with
  | nil =>
    obtain rfl : s = t := by simpa using h
    exact h'
  | cons a as ih =>
    obtain ⟨m, hm, hrest⟩ := run_cons.mp h
    exact run_cons.mpr ⟨m, hm, ih hrest⟩

/-- From related states, each step of the one system is some steps of the other, to
related states. -/
def Simulates (step : α → σ → Option σ) (step' : β → τ → Option τ) (R : σ → τ → Prop) : Prop :=
  ∀ a s t u, R s u → step a s = some t → ∃ bs v, run step' bs u = some v ∧ R t v

/-- **A simulated run** is a run of the other system. -/
theorem Simulates.run {R : σ → τ → Prop} (h : Simulates step step' R) :
    ∀ {as : List α} {s t : σ} {u : τ}, R s u → Transition.run step as s = some t →
      ∃ bs v, Transition.run step' bs u = some v ∧ R t v := by
  intro as
  induction as with
  | nil =>
    intro s t u hR hrun
    obtain rfl : s = t := by simpa using hrun
    exact ⟨[], u, rfl, hR⟩
  | cons a as ih =>
    intro s t u hR hrun
    obtain ⟨m, hm, hrest⟩ := run_cons.mp hrun
    obtain ⟨bs, v, hv, hRv⟩ := h a s m u hR hm
    obtain ⟨cs, w, hw, hRw⟩ := ih hRv hrest
    exact ⟨bs ++ cs, w, run_append hv hw, hRw⟩

end Simulation

/-! ## Two runs with one trace -/

variable {ω : Type*}

/-- What an observer sees of a run. -/
def trace (step : α → σ → Option σ) (observe : α → σ → Option ω) : List α → σ → List ω
  | [], _ => []
  | a :: as, s => (observe a s).toList ++ (step a s).elim [] (trace step observe as)

variable {observe : α → σ → Option ω}

theorem trace_cons {a : α} {as : List α} {s t : σ} (h : step a s = some t) :
    trace step observe (a :: as) s = (observe a s).toList ++ trace step observe as t := by
  rw [trace, h]
  rfl

/-- A relation that unseen steps keep on either side, and that one seen on both sides keeps. -/
structure Unwinds (step : α → σ → Option σ) (observe : α → σ → Option ω) (C : α → σ → Prop)
    (R : σ → σ → Prop) : Prop where
  left {a : α} {s t u : σ} : R s u → C a s → observe a s = none → step a s = some t → R t u
  right {b : α} {s u v : σ} : R s u → C b u → observe b u = none → step b u = some v → R s v
  both {a b : α} {s t u v : σ} {o : ω} : R s u → C a s → C b u → observe a s = some o →
    observe b u = some o → step a s = some t → step b u = some v → R t v

/-- The unseen steps in front of what is seen next. -/
theorem Unwinds.skip {C : α → σ → Prop} {R : σ → σ → Prop} (h : Unwinds step observe C R)
    {o : ω} {os : List ω} : ∀ {bs : List α} {s u v : σ}, R s u → Along step C bs u →
      run step bs u = some v → trace step observe bs u = o :: os →
      ∃ b cs w x, R s w ∧ C b w ∧ observe b w = some o ∧ step b w = some x ∧
        Along step C cs x ∧ run step cs x = some v ∧ trace step observe cs x = os := by
  intro bs
  induction bs with
  | nil => intro s u v _ _ _ ht; cases ht
  | cons b bs ih =>
    intro s u v hR hC hrun ht
    obtain ⟨w, hw, hrest⟩ := run_cons.mp hrun
    rw [trace_cons hw] at ht
    cases ho : observe b u with
    | none =>
      rw [ho] at ht
      exact ih (h.right hR hC.1 ho hw) (hC.2 w hw) hrest ht
    | some o' =>
      rw [ho] at ht
      obtain ⟨rfl, rfl⟩ := List.cons.inj ht
      exact ⟨b, bs, u, w, hR, hC.1, ho, hw, hC.2 w hw, hrest, rfl⟩

/-- A run of which nothing is seen. -/
theorem Unwinds.unseen {C : α → σ → Prop} {R : σ → σ → Prop} (h : Unwinds step observe C R) :
    ∀ {bs : List α} {s u v : σ}, R s u → Along step C bs u → run step bs u = some v →
      trace step observe bs u = [] → R s v := by
  intro bs
  induction bs with
  | nil =>
    intro s u v hR _ hrun _
    obtain rfl : u = v := by simpa using hrun
    exact hR
  | cons b bs ih =>
    intro s u v hR hC hrun ht
    obtain ⟨w, hw, hrest⟩ := run_cons.mp hrun
    rw [trace_cons hw, List.append_eq_nil_iff] at ht
    have ho : observe b u = none := by
      cases ho : observe b u with
      | none => rfl
      | some o => rw [ho] at ht; cases ht.1
    exact ih (h.right hR hC.1 ho hw) (hC.2 w hw) hrest ht.2

/-- **Two runs with one trace end in related states.** -/
theorem Unwinds.run {C : α → σ → Prop} {R : σ → σ → Prop} (h : Unwinds step observe C R) :
    ∀ {as bs : List α} {s t u v : σ}, R s u → Along step C as s → Along step C bs u →
      Transition.run step as s = some t → Transition.run step bs u = some v →
      trace step observe as s = trace step observe bs u → R t v := by
  intro as
  induction as with
  | nil =>
    intro bs s t u v hR _ hD hrun hrun' ht
    obtain rfl : s = t := by simpa using hrun
    exact h.unseen hR hD hrun' ht.symm
  | cons a as ih =>
    intro bs s t u v hR hC hD hrun hrun' ht
    obtain ⟨w, hw, hrest⟩ := run_cons.mp hrun
    rw [trace_cons hw] at ht
    cases ho : observe a s with
    | none =>
      rw [ho] at ht
      exact ih (h.left hR hC.1 ho hw) (hC.2 w hw) hD hrest hrun' ht
    | some o =>
      rw [ho] at ht
      obtain ⟨b, cs, x, y, hRx, hb, hob, hby, hcs, hrun'', ht'⟩ := h.skip hR hD hrun' ht.symm
      exact ih (h.both hRx hC.1 hb ho hob hw hby) (hC.2 w hw) hcs hrest hrun'' ht'.symm

end Transition
