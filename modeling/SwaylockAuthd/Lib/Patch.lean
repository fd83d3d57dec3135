import Mathlib.Data.List.Basic

/-!
# Blocks written in part

What a program that stores into a block leaves in it: some places hold what they are to hold, and
the others are as they were.  What a place is to hold depends on the place alone, so that it does
not matter how often or in which order it is written.

* `Patched`: one block after another.
* `Patched.refl`, `Patched.set`, `Patched.trans`, `Patched.congr`: how the places add up.
-/

namespace Patch

variable {α : Type} {S T : Nat → Prop} {value : Nat → α} {a b c : List α}

/-- The places of `places` hold their value, and the others what they held. -/
structure Patched (places : Nat → Prop) (value : Nat → α) (old new : List α) : Prop where
  length_eq : new.length = old.length
  touched : ∀ j, places j → new[j]? = some (value j)
  kept : ∀ j, ¬ places j → new[j]? = old[j]?

theorem Patched.refl (value : Nat → α) (a : List α) : Patched (fun _ => False) value a a where
  length_eq := rfl
  touched _ h := h.elim
  kept _ _ := rfl

theorem Patched.set {i : Nat} (h : i < a.length) (value : Nat → α) :
    Patched (fun j => j = i) value a (a.set i (value i)) where
  length_eq := List.length_set
  touched j hj := by
    subst hj
    exact List.getElem?_set_self h
  kept j hj := List.getElem?_set_ne (Ne.symm hj)

/-- One run of stores after another. -/
theorem Patched.trans (h₁ : Patched S value a b) (h₂ : Patched T value b c) :
    Patched (fun j => S j ∨ T j) value a c where
  length_eq := h₂.length_eq.trans h₁.length_eq
  touched j hj := by
    by_cases hT : T j
    · exact h₂.touched j hT
    · rw [h₂.kept j hT]
      exact h₁.touched j (hj.resolve_right hT)
  kept j hj := by
    have hS : ¬ S j := fun h => hj (Or.inl h)
    have hT : ¬ T j := fun h => hj (Or.inr h)
    rw [h₂.kept j hT, h₁.kept j hS]

/-- The same places said in another way. -/
theorem Patched.congr (h : Patched S value a b) (hST : ∀ j, S j ↔ T j) :
    Patched T value a b where
  length_eq := h.length_eq
  touched j hj := h.touched j ((hST j).mpr hj)
  kept j hj := h.kept j fun hS => hj ((hST j).mp hS)

end Patch
