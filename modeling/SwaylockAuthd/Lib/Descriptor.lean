import Mathlib.Data.Nat.Find

/-!
# File descriptors

The descriptor table of a process maps numbers to open files; only finitely many are taken.
A new descriptor is the lowest free number, `dup2` overwrites one, and `fork` copies the table.

* `Descriptors.lowest_free`, `lowest_le`: what `open` and `pipe` return.
* `file_set`, `file_close`, `file_dup2`: what a descriptor refers to after each call.
* `Descriptors.Holds`: some descriptor of the process refers to a file.
-/

/-- A descriptor table; the numbers from `bound` on are free. -/
structure Descriptors (F : Type*) where
  file : Nat → Option F
  bound : Nat
  free : ∀ n, bound ≤ n → file n = none

namespace Descriptors

variable {F : Type*} (t : Descriptors F)

theorem exists_free : ∃ n, (t.file n).isNone := ⟨t.bound, by rw [t.free _ le_rfl]; rfl⟩

/-- The lowest free descriptor. -/
def lowest : Nat := Nat.find t.exists_free

theorem lowest_free : t.file t.lowest = none :=
  Option.isNone_iff_eq_none.mp (Nat.find_spec t.exists_free)

variable {t}

theorem lowest_le {n : Nat} (h : t.file n = none) : t.lowest ≤ n :=
  Nat.find_min' t.exists_free (by rw [h]; rfl)

theorem ne_none_of_lt {n : Nat} (h : n < t.lowest) : t.file n ≠ none := fun hn =>
  absurd (lowest_le hn) (not_le.mpr h)

variable (t)

/-- Let a descriptor refer to a file. -/
def set (n : Nat) (f : F) : Descriptors F where
  file m := if m = n then some f else t.file m
  bound := max t.bound (n + 1)
  free m hm := by
    rw [if_neg (by omega)]
    exact t.free m (by omega)

@[simp] theorem file_set (n m : Nat) (f : F) :
    (t.set n f).file m = if m = n then some f else t.file m := rfl

/-- `close`; a descriptor that is not open is left so. -/
def close (n : Nat) : Descriptors F where
  file m := if m = n then none else t.file m
  bound := t.bound
  free m hm := by
    rw [t.free m hm, ite_self]

@[simp] theorem file_close (n m : Nat) :
    (t.close n).file m = if m = n then none else t.file m := rfl

/-- `dup2`; nothing happens when the old descriptor is not open. -/
def dup2 (old new : Nat) : Descriptors F :=
  match t.file old with
  | some f => t.set new f
  | none => t

theorem dup2_some {old : Nat} {f : F} (h : t.file old = some f) (new : Nat) :
    t.dup2 old new = t.set new f := by rw [dup2, h]

theorem dup2_none {old : Nat} (h : t.file old = none) (new : Nat) : t.dup2 old new = t := by
  rw [dup2, h]

/-- `open` of a file that can be opened. -/
def openFile (f : F) : Nat × Descriptors F := (t.lowest, t.set t.lowest f)

/-- `pipe`, with its read end and its write end. -/
def pipe (r w : F) : (Nat × Nat) × Descriptors F :=
  let t₁ := t.set t.lowest r
  ((t.lowest, t₁.lowest), t₁.set t₁.lowest w)

/-- Some descriptor refers to the file. -/
def Holds (f : F) : Prop := ∃ n, t.file n = some f

variable {t}

/-- `a` and `b` are the ends of a new pipe, and `u` is the table with them. -/
structure IsPipe (t : Descriptors F) (r w : F) (a b : Nat) (u : Descriptors F) : Prop where
  lt : a < b
  read : t.file a = none
  write : t.file b = none
  taken : ∀ n, n < b → n ≠ a → t.file n ≠ none
  file : ∀ n, u.file n = if n = b then some w else if n = a then some r else t.file n

theorem isPipe_pipe (t : Descriptors F) (r w : F) :
    IsPipe t r w (t.pipe r w).1.1 (t.pipe r w).1.2 (t.pipe r w).2 := by
  have hne : (t.set t.lowest r).lowest ≠ t.lowest ∧ t.file (t.set t.lowest r).lowest = none := by
    have hfree := (t.set t.lowest r).lowest_free
    rw [file_set] at hfree
    split at hfree
    · cases hfree
    · rename_i h
      exact ⟨h, hfree⟩
  refine ⟨lt_of_le_of_ne (lowest_le hne.2) (Ne.symm hne.1), t.lowest_free, hne.2, ?_, fun _ => rfl⟩
  intro n hn ha
  have h := ne_none_of_lt hn
  rw [file_set, if_neg (show n ≠ t.lowest from ha)] at h
  exact h

/-- What is still free lies above both ends. -/
theorem IsPipe.above {t u : Descriptors F} {r w : F} {a b n : Nat} (h : IsPipe t r w a b u)
    (hn : u.file n = none) : b < n ∧ t.file n = none := by
  rw [h.file] at hn
  split at hn
  · cases hn
  · rename_i hb
    split at hn
    · cases hn
    · rename_i ha
      refine ⟨lt_of_le_of_ne ?_ (Ne.symm hb), hn⟩
      by_contra hlt
      exact h.taken n (not_le.mp hlt) ha hn

end Descriptors
