import Mathlib.Data.List.Nodup
import Mathlib.Logic.Function.Basic

/-!
# Objects that are made, held and disposed of

Objects are numbered as they are made.  Each is held in one slot until it is disposed of.

* `make`, `dispose`: a new object for an empty slot; the end of the object in a slot.
* `Valid`: nothing is held twice, nothing is held after its end, nothing ends twice, nothing is
  lost.  `Valid.make`, `Valid.dispose`: the two operations keep it.
-/

/-- How many objects were made, those disposed of, and what each slot holds. -/
@[ext] structure Custody (ι : Type*) where
  made : Nat := 0
  disposed : List Nat := []
  slot : ι → Option Nat := fun _ => none

namespace Custody

variable {ι : Type*} {l : Custody ι}

/-- The object was made and not disposed of. -/
def Live (l : Custody ι) (id : Nat) : Prop := id < l.made ∧ id ∉ l.disposed

/-- Every object that was made is held once or was disposed of once. -/
structure Valid (l : Custody ι) : Prop where
  live : ∀ i id, l.slot i = some id → l.Live id
  injective : ∀ i j id, l.slot i = some id → l.slot j = some id → i = j
  once : l.disposed.Nodup
  made : ∀ id ∈ l.disposed, id < l.made
  kept : ∀ id, l.Live id → ∃ i, l.slot i = some id

theorem valid_empty : Valid ({} : Custody ι) where
  live _ _ h := nomatch h
  injective _ _ _ h := nomatch h
  once := List.nodup_nil
  made _ h := nomatch h
  kept _ h := absurd h.1 (Nat.not_lt_zero _)

variable [DecidableEq ι]

/-- A slot gets a new object. -/
def make (l : Custody ι) (i : ι) : Custody ι :=
  { l with made := l.made + 1, slot := Function.update l.slot i (some l.made) }

/-- A slot gives up its object. -/
def dispose (l : Custody ι) (i : ι) : Custody ι :=
  { l with
    disposed := (l.slot i).toList ++ l.disposed
    slot := Function.update l.slot i none }

theorem slot_make_self (i : ι) : (l.make i).slot i = some l.made := Function.update_self i _ _

theorem slot_make_ne {i j : ι} (h : j ≠ i) : (l.make i).slot j = l.slot j :=
  Function.update_of_ne h _ _

theorem slot_dispose_self (i : ι) : (l.dispose i).slot i = none := Function.update_self i _ _

theorem slot_dispose_ne {i j : ι} (h : j ≠ i) : (l.dispose i).slot j = l.slot j :=
  Function.update_of_ne h _ _

/-- An object held in another slot stays. -/
theorem Valid.notMem_dispose (hl : l.Valid) {i j : ι} {id : Nat} (hij : j ≠ i)
    (hj : l.slot j = some id) : id ∉ (l.dispose i).disposed := by
  intro hmem
  rcases List.mem_append.mp hmem with hnow | hbefore
  · exact hij (hl.injective j i id hj (Option.mem_toList.mp hnow))
  · exact (hl.live j id hj).2 hbefore

/-- **A new object for an empty slot.** -/
theorem Valid.make (hl : l.Valid) {i : ι} (hi : l.slot i = none) : (l.make i).Valid where
  live j id hj := by
    by_cases hij : j = i
    · subst hij
      rw [slot_make_self, Option.some_inj] at hj
      subst hj
      exact ⟨Nat.lt_succ_self _, fun hmem => Nat.lt_irrefl _ (hl.made _ hmem)⟩
    · rw [slot_make_ne hij] at hj
      obtain ⟨hlt, hnot⟩ := hl.live j id hj
      exact ⟨Nat.lt_succ_of_lt hlt, hnot⟩
  injective j k id hj hk := by
    -- the number of the new object is larger than those in the slots
    have hnew : ∀ j', j' ≠ i → (l.make i).slot j' = some id → id ≠ l.made := by
      intro j' hne hj' hid
      rw [slot_make_ne hne] at hj'
      exact Nat.lt_irrefl _ (hid ▸ (hl.live j' id hj').1)
    by_cases hji : j = i
    · by_cases hki : k = i
      · rw [hji, hki]
      · rw [hji, slot_make_self, Option.some_inj] at hj
        exact absurd hj.symm (hnew k hki hk)
    · by_cases hki : k = i
      · rw [hki, slot_make_self, Option.some_inj] at hk
        exact absurd hk.symm (hnew j hji hj)
      · rw [slot_make_ne hji] at hj
        rw [slot_make_ne hki] at hk
        exact hl.injective j k id hj hk
  once := hl.once
  made id hmem := Nat.lt_succ_of_lt (hl.made id hmem)
  kept id hlive := by
    obtain ⟨hlt, hnot⟩ := hlive
    rcases Nat.lt_succ_iff_lt_or_eq.mp hlt with hbefore | rfl
    · obtain ⟨j, hj⟩ := hl.kept id ⟨hbefore, hnot⟩
      have hij : j ≠ i := by
        rintro rfl
        rw [hi] at hj
        cases hj
      exact ⟨j, by rw [slot_make_ne hij, hj]⟩
    · exact ⟨i, slot_make_self i⟩

/-- **The end of an object.** -/
theorem Valid.dispose (hl : l.Valid) (i : ι) : (l.dispose i).Valid where
  live j id hj := by
    have hij : j ≠ i := by
      rintro rfl
      rw [slot_dispose_self] at hj
      cases hj
    rw [slot_dispose_ne hij] at hj
    exact ⟨(hl.live j id hj).1, hl.notMem_dispose hij hj⟩
  injective j k id hj hk := by
    have hji : j ≠ i := by
      rintro rfl
      rw [slot_dispose_self] at hj
      cases hj
    have hki : k ≠ i := by
      rintro rfl
      rw [slot_dispose_self] at hk
      cases hk
    rw [slot_dispose_ne hji] at hj
    rw [slot_dispose_ne hki] at hk
    exact hl.injective j k id hj hk
  once := by
    cases hi : l.slot i with
    | none => simpa [Custody.dispose, hi] using hl.once
    | some id => simpa [Custody.dispose, hi] using ⟨(hl.live i id hi).2, hl.once⟩
  made id hmem := by
    rcases List.mem_append.mp hmem with hnow | hbefore
    · exact (hl.live i id (Option.mem_toList.mp hnow)).1
    · exact hl.made id hbefore
  kept id hlive := by
    obtain ⟨hlt, hnot⟩ := hlive
    obtain ⟨hnow, hbefore⟩ := not_or.mp fun h => hnot (List.mem_append.mpr h)
    obtain ⟨j, hj⟩ := hl.kept id ⟨hlt, hbefore⟩
    have hij : j ≠ i := by
      rintro rfl
      exact hnow (Option.mem_toList.mpr hj)
    exact ⟨j, by rw [slot_dispose_ne hij, hj]⟩

end Custody
