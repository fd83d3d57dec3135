import Mathlib.Data.List.Basic

/-!
# Streams of self-delimiting items

A `Framing α β` reads items of type `β` off a stream of symbols of type `α`: the
stream starts with an item, with something no item starts with (`bad`), or more
symbols are needed to tell (`more`).  What is read stays read when the stream
grows; this is all the structure asks for.

* `items l`, `ending l`: the maximal sequence of items `l` starts with, and what
  follows it: nothing (`clean`), a cut item (`truncated`) or a bad one (`corrupt`).
* `items_append_of_clean`, `items_append_of_corrupt`: how they behave when the
  stream grows behind a clean or a corrupt ending.
* `items_prefix_append`: a longer stream never loses an item.
* `Writes F enc b`: `F` reads `enc` back as `b`; `items_flatMap`: a sequence of
  such items is read back.
* `Reads F w log l`: the items `log` have been read off `w`, and `l` is left.
* `Carries F P l`: `l` is a sequence of items with the property `P`, to its end.
-/

/-- What a stream starts with. -/
inductive Framing.Head (α β : Type*)
  | item (b : β) (rest : List α)
  | more
  | bad

/-- What follows the maximal sequence of items. -/
inductive Framing.Ending
  | clean
  | truncated
  | corrupt
  deriving DecidableEq, Repr

/-- A reader of self-delimiting items: it reads at least one symbol for an item,
and what it has read does not change when the stream grows. -/
structure Framing (α β : Type*) where
  head : List α → Framing.Head α β
  head_nil : head [] = .more
  shorter : ∀ {l b r}, head l = .item b r → r.length < l.length
  item_append : ∀ {l b r} (m : List α), head l = .item b r → head (l ++ m) = .item b (r ++ m)
  bad_append : ∀ {l} (m : List α), head l = .bad → head (l ++ m) = .bad

namespace Framing

variable {α β : Type*} (F : Framing α β)

/-- Read at most `n` items. -/
def parseAux : Nat → List α → List β × Ending
  | 0, l => ([], if l = [] then .clean else .truncated)
  | n + 1, l =>
    match F.head l with
    | .item b r => (b :: (parseAux n r).1, (parseAux n r).2)
    | .more => ([], if l = [] then .clean else .truncated)
    | .bad => ([], .corrupt)

def parse (l : List α) : List β × Ending := F.parseAux l.length l

/-- The maximal sequence of items the stream starts with. -/
def items (l : List α) : List β := (F.parse l).1

/-- What follows it. -/
def ending (l : List α) : Ending := (F.parse l).2

/-- Reading more items than there are symbols changes nothing. -/
theorem parseAux_of_length_le : ∀ {n : Nat} {l : List α}, l.length ≤ n →
    F.parseAux n l = F.parse l := by
  intro n
  induction n using Nat.strongRecOn with
  | ind n ih =>
    intro l hl
    cases n with
    | zero =>
      obtain rfl := List.length_eq_zero_iff.mp (Nat.le_zero.mp hl)
      rfl
    | succ n =>
      cases hc : l.length with
      | zero =>
        obtain rfl := List.length_eq_zero_iff.mp hc
        simp [parse, parseAux, F.head_nil]
      | succ k =>
        rw [parse, hc, parseAux, parseAux]
        cases hh : F.head l with
        | item b r =>
          have hr := F.shorter hh
          dsimp only
          rw [ih n (by omega) (l := r) (by omega), ih k (by omega) (l := r) (by omega)]
        | more => rfl
        | bad => rfl

theorem parse_of_item {l r : List α} {b : β} (h : F.head l = .item b r) :
    F.parse l = (b :: F.items r, F.ending r) := by
  have hr := F.shorter h
  rw [← F.parseAux_of_length_le (Nat.le_succ l.length), parseAux, h]
  simp only [items, ending]
  rw [F.parseAux_of_length_le (by omega)]

theorem parse_of_more {l : List α} (h : F.head l = .more) :
    F.parse l = ([], if l = [] then .clean else .truncated) := by
  rw [← F.parseAux_of_length_le (Nat.le_succ l.length), parseAux, h]

theorem parse_of_bad {l : List α} (h : F.head l = .bad) : F.parse l = ([], .corrupt) := by
  rw [← F.parseAux_of_length_le (Nat.le_succ l.length), parseAux, h]

@[simp] theorem items_nil : F.items [] = [] := rfl

@[simp] theorem ending_nil : F.ending [] = .clean := rfl

theorem items_of_item {l r : List α} {b : β} (h : F.head l = .item b r) :
    F.items l = b :: F.items r := by rw [items, F.parse_of_item h]

theorem ending_of_item {l r : List α} {b : β} (h : F.head l = .item b r) :
    F.ending l = F.ending r := by rw [ending, F.parse_of_item h]

theorem items_of_more {l : List α} (h : F.head l = .more) : F.items l = [] := by
  rw [items, F.parse_of_more h]

theorem items_of_bad {l : List α} (h : F.head l = .bad) : F.items l = [] := by
  rw [items, F.parse_of_bad h]

theorem ending_of_bad {l : List α} (h : F.head l = .bad) : F.ending l = .corrupt := by
  rw [ending, F.parse_of_bad h]

theorem ending_of_more {l : List α} (h : F.head l = .more) (hl : l ≠ []) :
    F.ending l = .truncated := by
  rw [ending, F.parse_of_more h, if_neg hl]

/-- Induction along the items of a stream. -/
theorem item_induction {P : List α → Prop}
    (item : ∀ l b r, F.head l = .item b r → P r → P l)
    (more : ∀ l, F.head l = .more → P l) (bad : ∀ l, F.head l = .bad → P l) : ∀ l, P l := by
  intro l
  induction hn : l.length using Nat.strongRecOn generalizing l with
  | ind n ih =>
    cases hh : F.head l with
    | item b r => exact item l b r hh (ih r.length (by have := F.shorter hh; omega) r rfl)
    | more => exact more l hh
    | bad => exact bad l hh

/-! ## Growing streams -/

/-- Behind a clean ending, the items of what is appended are appended. -/
theorem items_append_of_clean (m : List α) : ∀ l, F.ending l = .clean →
    F.items (l ++ m) = F.items l ++ F.items m ∧ F.ending (l ++ m) = F.ending m := by
  intro l
  induction l using F.item_induction with
  | item l b r hh ih =>
    intro hc
    have hg := F.item_append m hh
    obtain ⟨h1, h2⟩ := ih (F.ending_of_item hh ▸ hc)
    rw [F.items_of_item hg, F.ending_of_item hg, h1, h2, F.items_of_item hh]
    exact ⟨rfl, rfl⟩
  | more l hh =>
    intro hc
    by_cases hl : l = []
    · subst hl
      exact ⟨rfl, rfl⟩
    · rw [F.ending_of_more hh hl] at hc
      cases hc
  | bad l hh =>
    intro hc
    rw [F.ending_of_bad hh] at hc
    cases hc

/-- Behind a corrupt ending, nothing more is ever read. -/
theorem items_append_of_corrupt (m : List α) : ∀ l, F.ending l = .corrupt →
    F.items (l ++ m) = F.items l ∧ F.ending (l ++ m) = .corrupt := by
  intro l
  induction l using F.item_induction with
  | item l b r hh ih =>
    intro hc
    have hg := F.item_append m hh
    obtain ⟨h1, h2⟩ := ih (F.ending_of_item hh ▸ hc)
    rw [F.items_of_item hg, F.ending_of_item hg, h1, h2, F.items_of_item hh]
    exact ⟨rfl, rfl⟩
  | more l hh =>
    intro hc
    by_cases hl : l = []
    · subst hl
      rw [F.ending_nil] at hc
      cases hc
    · rw [F.ending_of_more hh hl] at hc
      cases hc
  | bad l hh =>
    intro _
    have hg := F.bad_append m hh
    rw [F.items_of_bad hg, F.ending_of_bad hg, F.items_of_bad hh]
    exact ⟨rfl, rfl⟩

/-- A longer stream never loses an item. -/
theorem items_prefix_append (m : List α) : ∀ l, F.items l <+: F.items (l ++ m) := by
  intro l
  induction l using F.item_induction with
  | item l b r hh ih =>
    rw [F.items_of_item (F.item_append m hh), F.items_of_item hh]
    exact List.cons_prefix_cons.mpr ⟨rfl, ih⟩
  | more l hh => rw [F.items_of_more hh]; exact List.nil_prefix
  | bad l hh => rw [F.items_of_bad hh]; exact List.nil_prefix

/-! ## Writers -/

/-- `F` reads `w` back as the item `b`, whatever follows. -/
def Writes (w : List α) (b : β) : Prop := F.head w = .item b []

variable {F}

theorem Writes.head_append {w : List α} {b : β} (h : F.Writes w b) (m : List α) :
    F.head (w ++ m) = .item b m := by
  simpa using F.item_append m h

theorem Writes.items_append {w : List α} {b : β} (h : F.Writes w b) (m : List α) :
    F.items (w ++ m) = b :: F.items m := F.items_of_item (h.head_append m)

theorem Writes.ending_append {w : List α} {b : β} (h : F.Writes w b) (m : List α) :
    F.ending (w ++ m) = F.ending m := F.ending_of_item (h.head_append m)

/-- **A sequence of written items is read back**, and what follows it is read
behind it. -/
theorem items_flatMap {γ : Type*} {enc : γ → List α} {val : γ → β} (m : List α) :
    ∀ l : List γ, (∀ c ∈ l, F.Writes (enc c) (val c)) →
      F.items (l.flatMap enc ++ m) = l.map val ++ F.items m ∧
        F.ending (l.flatMap enc ++ m) = F.ending m := by
  intro l
  induction l with
  | nil => intro _; exact ⟨rfl, rfl⟩
  | cons c l ih =>
    intro h
    have hc := h c List.mem_cons_self
    obtain ⟨h1, h2⟩ := ih (fun d hd => h d (List.mem_cons_of_mem c hd))
    rw [List.flatMap_cons, List.append_assoc, hc.items_append, hc.ending_append, h1, h2]
    exact ⟨rfl, rfl⟩

/-! ## Reading a stream while it grows -/

variable (F)

/-- The items `log` have been read off the stream `w`, and `l` is left, whatever is still
going to be written. -/
def Reads (w : List α) (log : List β) (l : List α) : Prop :=
  ∀ m, F.items (w ++ m) = log ++ F.items (l ++ m)

theorem reads_nil : F.Reads [] [] [] := fun _ => rfl

variable {F}

theorem Reads.items {w l : List α} {log : List β} (h : F.Reads w log l) :
    F.items w = log ++ F.items l := by simpa using h []

/-- More is written. -/
theorem Reads.append {w l : List α} {log : List β} (h : F.Reads w log l) (m : List α) :
    F.Reads (w ++ m) log (l ++ m) := by
  intro n
  rw [List.append_assoc, List.append_assoc]
  exact h (m ++ n)

/-- An item is read. -/
theorem Reads.item {w l r : List α} {log : List β} {b : β} (h : F.Reads w log l)
    (head : F.head l = .item b r) : F.Reads w (log ++ [b]) r := by
  intro m
  rw [h m, F.items_of_item (F.item_append m head), List.append_assoc]
  rfl

/-! ## Streams of items with a property -/

variable (F)

/-- The stream is a sequence of items with the property, to its end. -/
structure Carries (P : β → Prop) (l : List α) : Prop where
  items : ∀ b ∈ F.items l, P b
  clean : F.ending l = .clean

theorem carries_nil (P : β → Prop) : F.Carries P [] :=
  ⟨fun _ hb => (List.not_mem_nil hb).elim, rfl⟩

variable {F} {P : β → Prop}

theorem Carries.append {l m : List α} (hl : F.Carries P l) (hm : F.Carries P m) :
    F.Carries P (l ++ m) := by
  obtain ⟨hi, he⟩ := F.items_append_of_clean m l hl.clean
  refine ⟨fun b hb => ?_, he.trans hm.clean⟩
  rw [hi] at hb
  rcases List.mem_append.mp hb with hb | hb
  · exact hl.items b hb
  · exact hm.items b hb

theorem Carries.mono {Q : β → Prop} {l : List α} (h : F.Carries P l) (hPQ : ∀ b, P b → Q b) :
    F.Carries Q l := ⟨fun b hb => hPQ b (h.items b hb), h.clean⟩

/-- What follows the first item. -/
theorem Carries.tail {l r : List α} {b : β} (h : F.Carries P l) (head : F.head l = .item b r) :
    P b ∧ F.Carries P r := by
  have hi := F.items_of_item head
  refine ⟨h.items b (by rw [hi]; exact List.mem_cons_self), fun c hc => ?_, ?_⟩
  · exact h.items c (by rw [hi]; exact List.mem_cons_of_mem b hc)
  · rw [← F.ending_of_item head]
    exact h.clean

/-- No first part of the stream starts with a bad item. -/
theorem Carries.head_ne_bad {l m : List α} (h : F.Carries P (l ++ m)) : F.head l ≠ .bad := by
  intro hb
  have he := h.clean
  rw [F.ending_of_bad (F.bad_append m hb)] at he
  cases he

theorem Carries.nil_of_more {l : List α} (h : F.Carries P l) (head : F.head l = .more) :
    l = [] := by
  by_contra hl
  have he := h.clean
  rw [F.ending_of_more head hl] at he
  cases he

/-- The items that have left a stream of items. -/
theorem items_append_of_carries {l : List α} (h : F.Carries P l) (m : List α) :
    F.items (l ++ m) = F.items l ++ F.items m := (F.items_append_of_clean m l h.clean).1

theorem carries_of_writes {w : List α} {b : β} (h : F.Writes w b) (hb : P b) :
    F.Carries P w := by
  have hi := h.items_append []
  have he := h.ending_append []
  rw [List.append_nil] at hi he
  refine ⟨fun c hc => ?_, he⟩
  rw [hi] at hc
  rwa [List.mem_singleton.mp hc]

end Framing
