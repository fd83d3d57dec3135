import Mathlib.Logic.Function.Basic

/-!
# Ownership of memory

A heap maps addresses to blocks, and an allocation gets an address that was never used before.
What frees or reads a block that is not there has no result.

* `Heap`, `malloc`, `free`, `load`, `store`: programs are `StateT (Heap α) Option`.
* `Assn`: what a part of a heap holds.  `star P Q`: two disjoint parts.
* `Triple P c Q`: from every heap with a part for `P`, `c` has a result and leaves a part for `Q`
  and the rest as it was.  A block that is neither in `P` nor in `Q` cannot be touched, and
  one that is not in `Q` has been freed.
* `Triple.bind`, `Triple.frame`, `Triple.conseq` and a rule for each operation.
-/

namespace Separation

/-- The blocks at their addresses. -/
abbrev Cells (α : Type) := Nat → Option α

variable {α β γ : Type}

/-- A heap; no address from `next` on has been given out. -/
structure Heap (α : Type) where
  cells : Cells α := fun _ => none
  next : Nat := 0
  fresh : ∀ a, next ≤ a → cells a = none := by intros; rfl

/-! ## The operations -/

/-- A program over a heap. -/
abbrev HeapM (α β : Type) := StateT (Heap α) Option β

/-- Allocate a block, if there is memory. -/
def malloc (ok : Bool) (x : α) : HeapM α (Option Nat) := fun h =>
  if ok then
    some (some h.next,
      { cells := Function.update h.cells h.next (some x)
        next := h.next + 1
        fresh := fun a ha => by
          rw [Function.update_of_ne (by omega)]
          exact h.fresh a (by omega) })
  else some (none, h)

/-- Remove a block. -/
def dealloc (a : Nat) : HeapM α Unit := fun h =>
  match h.cells a with
  | some _ =>
    some ((),
      { h with
        cells := Function.update h.cells a none
        fresh := fun b hb => by
          by_cases he : b = a
          · rw [he, Function.update_self]
          · rw [Function.update_of_ne he]
            exact h.fresh b hb })
  | none => none

/-- `free`: nothing for `NULL`. -/
def free : Option Nat → HeapM α Unit
  | none => pure ()
  | some a => dealloc a

/-- Read a block. -/
def load (a : Nat) : HeapM α α := fun h => (h.cells a).map fun x => (x, h)

/-- Overwrite a block. -/
def store (a : Nat) (x : α) : HeapM α Unit := fun h =>
  match ha : h.cells a with
  | some _ =>
    some ((),
      { h with
        cells := Function.update h.cells a (some x)
        fresh := fun b hb => by
          have hne : b ≠ a := fun he => by
            rw [← he, h.fresh b hb] at ha
            cases ha
          rw [Function.update_of_ne hne]
          exact h.fresh b hb })
  | none => none

/-! ## Parts of a heap -/

/-- No address is in both parts. -/
def Disjoint (f g : Cells α) : Prop := ∀ a, f a = none ∨ g a = none

/-- Two parts together. -/
def union (f g : Cells α) : Cells α := fun a => (f a).or (g a)

/-- The part with nothing in it. -/
def nothing : Cells α := fun _ => none

/-- The part with one block. -/
def single (a : Nat) (x : α) : Cells α := Function.update nothing a (some x)

theorem Disjoint.symm {f g : Cells α} (h : Disjoint f g) : Disjoint g f := fun a => (h a).symm

theorem union_comm {f g : Cells α} (h : Disjoint f g) : union f g = union g f := by
  funext a
  rcases h a with ha | ha
  · simp [union, ha]
  · simp [union, ha]

theorem union_assoc (f g k : Cells α) : union (union f g) k = union f (union g k) := by
  funext a
  simp only [union, Option.or_assoc]

theorem disjoint_union_left {f g k : Cells α} :
    Disjoint (union f g) k ↔ Disjoint f k ∧ Disjoint g k := by
  constructor
  · intro h
    refine ⟨fun a => ?_, fun a => ?_⟩
    · rcases h a with ha | ha
      · exact Or.inl (Option.or_eq_none_iff.mp ha).1
      · exact Or.inr ha
    · rcases h a with ha | ha
      · exact Or.inl (Option.or_eq_none_iff.mp ha).2
      · exact Or.inr ha
  · rintro ⟨hf, hg⟩ a
    rcases hf a with ha | ha
    · rcases hg a with hb | hb
      · exact Or.inl (Option.or_eq_none_iff.mpr ⟨ha, hb⟩)
      · exact Or.inr hb
    · exact Or.inr ha

theorem disjoint_union_right {f g k : Cells α} :
    Disjoint f (union g k) ↔ Disjoint f g ∧ Disjoint f k := by
  constructor
  · intro h
    obtain ⟨hg, hk⟩ := disjoint_union_left.mp h.symm
    exact ⟨hg.symm, hk.symm⟩
  · rintro ⟨hg, hk⟩
    exact (disjoint_union_left.mpr ⟨hg.symm, hk.symm⟩).symm

@[simp] theorem nothing_union (f : Cells α) : union nothing f = f := by
  funext a
  simp [union, nothing]

theorem disjoint_nothing (f : Cells α) : Disjoint nothing f := fun _ => Or.inl rfl

theorem single_self (a : Nat) (x : α) : single a x a = some x := Function.update_self ..

theorem single_of_ne {a b : Nat} (x : α) (h : b ≠ a) : single a x b = none :=
  Function.update_of_ne h ..

/-- A free address is beside every part. -/
theorem disjoint_single {g : Cells α} {a : Nat} (x : α) (h : g a = none) :
    Disjoint (single a x) g := by
  intro b
  by_cases he : b = a
  · exact Or.inr (he ▸ h)
  · exact Or.inl (single_of_ne x he)

theorem of_disjoint_single {g : Cells α} {a : Nat} {x : α} (h : Disjoint (single a x) g) :
    g a = none := by
  rcases h a with ha | ha
  · rw [single_self] at ha
    cases ha
  · exact ha

/-- What an update does to a part with one block. -/
theorem update_union_single {g : Cells α} {a : Nat} (x : α) (y : Option α) (h : g a = none) :
    Function.update (union (single a x) g) a y = union (y.elim nothing (single a)) g := by
  funext b
  by_cases he : b = a
  · subst he
    rw [Function.update_self]
    cases y with
    | none => simp [union, nothing, h]
    | some y => simp [union, single_self]
  · rw [Function.update_of_ne he]
    cases y with
    | none => simp [union, nothing, single_of_ne _ he]
    | some y => simp [union, single_of_ne _ he]

/-! ## Assertions -/

/-- What a part of a heap holds. -/
def Assn (α : Type) := Cells α → Prop

/-- Nothing. -/
def emp : Assn α := fun f => f = nothing

/-- A fact, and nothing. -/
def lift (p : Prop) : Assn α := fun f => p ∧ f = nothing

/-- One block. -/
def pointsTo (a : Nat) (x : α) : Assn α := fun f => f = single a x

/-- A pointer that is `NULL`, or that of a block. -/
def at? (p : Option Nat) (x : Option α) : Assn α :=
  match p, x with
  | none, none => emp
  | some a, some x => pointsTo a x
  | _, _ => lift False

/-- Two disjoint parts. -/
def star (P Q : Assn α) : Assn α := fun f =>
  ∃ g k, Disjoint g k ∧ f = union g k ∧ P g ∧ Q k

/-- A part for some value. -/
def ex (P : γ → Assn α) : Assn α := fun f => ∃ c, P c f

theorem star_comm (P Q : Assn α) : star P Q = star Q P := by
  have swap : ∀ {P Q : Assn α} {f : Cells α}, star P Q f → star Q P f := by
    rintro P Q f ⟨g, k, hd, rfl, hg, hk⟩
    exact ⟨k, g, hd.symm, union_comm hd, hk, hg⟩
  funext f
  exact propext ⟨swap, swap⟩

theorem star_assoc (P Q R : Assn α) : star (star P Q) R = star P (star Q R) := by
  funext f
  refine propext ⟨?_, ?_⟩
  · rintro ⟨gk, l, hd, rfl, ⟨g, k, hgk, rfl, hg, hk⟩, hl⟩
    obtain ⟨hgl, hkl⟩ := disjoint_union_left.mp hd
    exact ⟨g, union k l, disjoint_union_right.mpr ⟨hgk, hgl⟩, union_assoc g k l, hg, k, l, hkl, rfl,
      hk, hl⟩
  · rintro ⟨g, kl, hd, rfl, hg, k, l, hkl, rfl, hk, hl⟩
    obtain ⟨hgk, hgl⟩ := disjoint_union_right.mp hd
    exact ⟨union g k, l, disjoint_union_left.mpr ⟨hgl, hkl⟩, (union_assoc g k l).symm,
      ⟨g, k, hgk, rfl, hg, hk⟩, hl⟩

@[simp] theorem emp_star (P : Assn α) : star emp P = P := by
  funext f
  refine propext ⟨?_, fun h => ⟨nothing, f, disjoint_nothing f, (nothing_union f).symm, rfl, h⟩⟩
  rintro ⟨g, k, -, rfl, rfl, hk⟩
  rw [nothing_union]
  exact hk

@[simp] theorem star_emp (P : Assn α) : star P emp = P := by rw [star_comm, emp_star]

theorem lift_true : (lift True : Assn α) = emp := by
  funext f
  exact propext ⟨And.right, fun h => ⟨trivial, h⟩⟩

theorem lift_star {p : Prop} {P : Assn α} {f : Cells α} : star (lift p) P f ↔ p ∧ P f := by
  constructor
  · rintro ⟨g, k, -, rfl, ⟨hp, rfl⟩, hk⟩
    rw [nothing_union]
    exact ⟨hp, hk⟩
  · rintro ⟨hp, hf⟩
    exact ⟨nothing, f, disjoint_nothing f, (nothing_union f).symm, ⟨hp, rfl⟩, hf⟩

theorem ex_star (P : γ → Assn α) (Q : Assn α) : star (ex P) Q = ex fun c => star (P c) Q := by
  funext f
  refine propext ⟨?_, ?_⟩
  · rintro ⟨g, k, hd, rfl, ⟨c, hg⟩, hk⟩
    exact ⟨c, g, k, hd, rfl, hg, hk⟩
  · rintro ⟨c, g, k, hd, rfl, hg, hk⟩
    exact ⟨g, k, hd, rfl, ⟨c, hg⟩, hk⟩

instance : Std.Commutative (star (α := α)) := ⟨star_comm⟩

instance : Std.Associative (star (α := α)) := ⟨star_assoc⟩

/-! ## Triples -/

/-- From every heap with a part for `P`, the program has a result and leaves a part for `Q` and
the rest of the heap as it was. -/
def Triple (P : Assn α) (c : HeapM α β) (Q : β → Assn α) : Prop :=
  ∀ h f g, Disjoint f g → h.cells = union f g → P f →
    ∃ b h' f', c h = some (b, h') ∧ Disjoint f' g ∧ h'.cells = union f' g ∧ Q b f'

theorem Triple.ret {P : Assn α} {Q : β → Assn α} {b : β} (h : ∀ f, P f → Q b f) :
    Triple P (Pure.pure b) Q :=
  fun k f _ hd hh hP => ⟨b, k, f, rfl, hd, hh, h f hP⟩

theorem Triple.bind {P : Assn α} {Q : β → Assn α} {R : γ → Assn α} {c : HeapM α β}
    {d : β → HeapM α γ} (hc : Triple P c Q) (hd : ∀ b, Triple (Q b) (d b) R) :
    Triple P (c >>= d) R := by
  intro h f g hdis hh hP
  obtain ⟨b, h', f', hb, hdis', hh', hQ⟩ := hc h f g hdis hh hP
  obtain ⟨x, h'', f'', hx, hdis'', hh'', hR⟩ := hd b h' f' g hdis' hh' hQ
  refine ⟨x, h'', f'', ?_, hdis'', hh'', hR⟩
  show (c h).bind (fun y => d y.1 y.2) = _
  rw [hb]
  exact hx

theorem Triple.conseq {P P' : Assn α} {Q Q' : β → Assn α} {c : HeapM α β} (h : Triple P c Q)
    (hP : ∀ f, P' f → P f) (hQ : ∀ b f, Q b f → Q' b f) : Triple P' c Q' := by
  intro k f g hd hh hf
  obtain ⟨b, h', f', hb, hd', hh', hb'⟩ := h k f g hd hh (hP f hf)
  exact ⟨b, h', f', hb, hd', hh', hQ b f' hb'⟩

/-- The same parts in another order. -/
theorem Triple.reorder {P P' : Assn α} {Q : β → Assn α} {c : HeapM α β} (hP : P' = P)
    (h : Triple P c Q) : Triple P' c Q := hP ▸ h

/-- **The frame rule.** -/
theorem Triple.frame {P : Assn α} {Q : β → Assn α} {c : HeapM α β} (h : Triple P c Q)
    (R : Assn α) : Triple (star P R) c fun b => star (Q b) R := by
  rintro k _ g hd hh ⟨f, r, hfr, rfl, hf, hr⟩
  obtain ⟨hfg, hrg⟩ := disjoint_union_left.mp hd
  obtain ⟨b, h', f', hb, hd', hh', hQ⟩ := h k f (union r g) (disjoint_union_right.mpr ⟨hfr, hfg⟩)
    (by rw [hh, union_assoc]) hf
  obtain ⟨hr', hg'⟩ := disjoint_union_right.mp hd'
  exact ⟨b, h', union f' r, hb, disjoint_union_left.mpr ⟨hg', hrg⟩, by rw [hh', union_assoc],
    f', r, hr', rfl, hQ, hr⟩

/-- A step that leaves `R` alone, and then the rest. -/
theorem Triple.step {P R S : Assn α} {Q : β → Assn α} {T : γ → Assn α} {c : HeapM α β}
    {d : β → HeapM α γ} (hc : Triple P c Q) (hS : S = star P R)
    (hd : ∀ b, Triple (star (Q b) R) (d b) T) : Triple S (c >>= d) T := by
  rw [hS]
  exact (hc.frame R).bind hd

/-- A fact of the precondition. -/
theorem Triple.lift {p : Prop} {P : Assn α} {Q : β → Assn α} {c : HeapM α β}
    (h : p → Triple P c Q) : Triple (star (Separation.lift p) P) c Q := by
  intro k f g hd hh hf
  obtain ⟨hp, hP⟩ := lift_star.mp hf
  exact h hp k f g hd hh hP

theorem Triple.contradiction {Q : β → Assn α} {c : HeapM α β} :
    Triple (Separation.lift False) c Q :=
  fun _ _ _ _ _ hf => hf.1.elim

theorem Triple.exists {P : γ → Assn α} {Q : β → Assn α} {c : HeapM α β}
    (h : ∀ x, Triple (P x) c Q) : Triple (ex P) c Q := by
  rintro k f g hd hh ⟨x, hx⟩
  exact h x k f g hd hh hx

/-! ## The rules of the operations -/

theorem Triple.malloc (ok : Bool) (x : α) :
    Triple emp (malloc ok x) fun p => at? p (if ok then some x else none) := by
  rintro h _ g hd hh rfl
  rw [nothing_union] at hh
  cases ok with
  | false => exact ⟨none, h, nothing, rfl, hd, by rw [hh, nothing_union], rfl⟩
  | true =>
    have hfree : g h.next = none := by rw [← hh]; exact h.fresh _ (Nat.le_refl _)
    refine ⟨some h.next, _, single h.next x, rfl, disjoint_single x hfree, ?_, rfl⟩
    funext b
    show Function.update h.cells h.next (some x) b = _
    rw [hh]
    by_cases he : b = h.next
    · rw [he, Function.update_self, union, single_self]
      rfl
    · rw [Function.update_of_ne he, union, single_of_ne x he]
      rfl

theorem Triple.dealloc (a : Nat) (x : α) : Triple (pointsTo a x) (dealloc a) fun _ => emp := by
  rintro h _ g hd hh rfl
  have hcell : h.cells a = some x := by rw [hh, union, single_self]; rfl
  have hrun : ∃ h', Separation.dealloc a h = some ((), h') ∧
      h'.cells = Function.update h.cells a none := by
    unfold Separation.dealloc
    split
    · exact ⟨_, rfl, rfl⟩
    · rename_i hn
      rw [hn] at hcell
      cases hcell
  obtain ⟨h', hrun, hcells⟩ := hrun
  refine ⟨(), h', nothing, hrun, disjoint_nothing g, ?_, rfl⟩
  rw [hcells, hh, update_union_single x none (of_disjoint_single hd)]
  rfl

theorem Triple.free (p : Option Nat) (x : Option α) : Triple (at? p x) (free p) fun _ => emp := by
  cases p with
  | none =>
    cases x with
    | none => exact .ret fun _ h => h
    | some x => exact .contradiction
  | some a =>
    cases x with
    | none => exact .contradiction
    | some x => exact .dealloc a x

theorem Triple.load (a : Nat) (x : α) :
    Triple (pointsTo a x) (load a) fun y => star (Separation.lift (y = x)) (pointsTo a x) := by
  rintro h _ g hd hh rfl
  have hcell : h.cells a = some x := by rw [hh, union, single_self]; rfl
  refine ⟨x, h, single a x, ?_, hd, hh, lift_star.mpr ⟨rfl, rfl⟩⟩
  rw [Separation.load, hcell]
  rfl

theorem Triple.store (a : Nat) (x y : α) :
    Triple (pointsTo a x) (store a y) fun _ => pointsTo a y := by
  rintro h _ g hd hh rfl
  have hcell : h.cells a = some x := by rw [hh, union, single_self]; rfl
  have hrun : ∃ h', Separation.store a y h = some ((), h') ∧
      h'.cells = Function.update h.cells a (some y) := by
    unfold Separation.store
    split
    · exact ⟨_, rfl, rfl⟩
    · rename_i hn
      rw [hn] at hcell
      cases hcell
  obtain ⟨h', hrun, hcells⟩ := hrun
  have hg := of_disjoint_single hd
  refine ⟨(), h', single a y, hrun, disjoint_single y hg, ?_, rfl⟩
  rw [hcells, hh, update_union_single x (some y) hg]
  rfl

/-! ## Operations before a rest -/

section Rest

variable {P R S : Assn α} {T : γ → Assn α}

theorem Triple.bind_load {a : Nat} {x : α} {d : α → HeapM α γ} (hS : S = star (pointsTo a x) R)
    (h : Triple S (d x) T) : Triple S (Separation.load a >>= d) T := by
  refine (Triple.load a x).step hS fun y => ?_
  rw [star_assoc]
  refine .lift fun hy => ?_
  rw [hy, ← hS]
  exact h

theorem Triple.bind_store {a : Nat} {x y : α} {d : Unit → HeapM α γ}
    (hS : S = star (pointsTo a x) R) (h : Triple (star (pointsTo a y) R) (d ()) T) :
    Triple S (Separation.store a y >>= d) T :=
  (Triple.store a x y).step hS fun _ => h

/-- A step that frees what it owns. -/
theorem Triple.bind_free {c : HeapM α Unit} {d : Unit → HeapM α γ} (hc : Triple P c fun _ => emp)
    (hS : S = star P R) (h : Triple R (d ()) T) : Triple S (c >>= d) T := by
  refine hc.step hS fun _ => ?_
  rw [emp_star]
  exact h

theorem Triple.bind_malloc {ok : Bool} {x : α} {d : Option Nat → HeapM α γ}
    (hsome : ∀ a, ok = true → Triple (star (pointsTo a x) S) (d (some a)) T)
    (hnone : ok = false → Triple S (d none) T) : Triple S (Separation.malloc ok x >>= d) T := by
  refine (Triple.malloc ok x).step (emp_star S).symm fun p => ?_
  cases ok with
  | false =>
    cases p with
    | none =>
      show Triple (star emp S) _ _
      rw [emp_star]
      exact hnone rfl
    | some a => exact .lift False.elim
  | true =>
    cases p with
    | none => exact .lift False.elim
    | some a => exact hsome a rfl

end Rest

/-! ## Whole heaps -/

/-- The part is the whole heap. -/
def Heap.Holds (h : Heap α) (P : Assn α) : Prop := P h.cells

/-- **A program on a whole heap**: what it leaves is the whole heap again. -/
theorem Triple.run {P : Assn α} {Q : β → Assn α} {c : HeapM α β} (hc : Triple P c Q) {h : Heap α}
    (hP : h.Holds P) : ∃ b h', c h = some (b, h') ∧ h'.Holds (Q b) := by
  have hu : ∀ f : Cells α, union f nothing = f := fun f => by
    rw [← union_comm (disjoint_nothing f), nothing_union]
  obtain ⟨b, h', f', hb, -, hh', hQ⟩ := hc h h.cells nothing (disjoint_nothing _).symm
    (hu h.cells).symm hP
  rw [hu] at hh'
  exact ⟨b, h', hb, by rw [Heap.Holds, hh']; exact hQ⟩

end Separation
