import Mathlib.Data.List.Infix

/-!
# The words of a shell

What a text expands to is a list of pieces: characters that nothing quotes, from the text itself
or from the value of an expansion, and quoted parts.  Field splitting cuts them at the unquoted
blanks; a quoted part is a field even when it is empty.

* `fields`: the fields; `fields_eq_nil`: there is none when every piece is a blank.
* `Expander`: a shell as `wordexp` uses it; `Expander.words_eq_nil`.
* `Expander.Posix`: what a shell does with a text without special characters.
-/

namespace Shell

inductive Piece
  | plain (c : UInt8)
  | quoted (s : List UInt8)
  deriving DecidableEq, Repr

/-- Space, tab and newline. -/
def isBlank (c : UInt8) : Bool := c = 0x20 || c = 0x09 || c = 0x0A

def Piece.blank : Piece → Bool
  | .plain c => isBlank c
  | .quoted _ => false

/-- What is left of a piece after quote removal. -/
def Piece.text : Piece → List UInt8
  | .plain c => [c]
  | .quoted s => s

/-! ## Field splitting -/

abbrev Field := List Piece

def text (f : Field) : List UInt8 := f.flatMap Piece.text

@[simp] theorem text_nil : text [] = [] := rfl

@[simp] theorem text_append (f g : Field) : text (f ++ g) = text f ++ text g :=
  List.flatMap_append

/-- The fields, from the one that is being read. -/
def fieldsFrom : Field → List Piece → List Field
  | cur, [] => if cur = [] then [] else [cur]
  | cur, p :: ps =>
    if p.blank then
      if cur = [] then fieldsFrom [] ps else cur :: fieldsFrom [] ps
    else fieldsFrom (cur ++ [p]) ps

def fields (ps : List Piece) : List Field := fieldsFrom [] ps

theorem fieldsFrom_eq_nil {ps : List Piece} : ∀ {cur : Field},
    fieldsFrom cur ps = [] ↔ cur = [] ∧ ∀ p ∈ ps, p.blank = true := by
  induction ps with
  | nil =>
    intro cur
    simp [fieldsFrom]
  | cons p ps ih =>
    intro cur
    cases hp : p.blank with
    | true =>
      by_cases hcur : cur = []
      · simp [fieldsFrom, hp, hcur, ih]
      · simp [fieldsFrom, hp, hcur]
    | false => simp [fieldsFrom, hp, ih]

/-- **No field is left when every piece is an unquoted blank.** -/
theorem fields_eq_nil {ps : List Piece} : fields ps = [] ↔ ∀ p ∈ ps, p.blank = true := by
  rw [fields, fieldsFrom_eq_nil]
  simp

/-- The pieces of a field come from those that were split. -/
theorem mem_of_mem_fieldsFrom {ps : List Piece} : ∀ {cur f : Field} {p : Piece},
    f ∈ fieldsFrom cur ps → p ∈ f → p ∈ cur ∨ p ∈ ps := by
  induction ps with
  | nil =>
    intro cur f p hf hp
    by_cases hcur : cur = []
    · simp [fieldsFrom, hcur] at hf
    · obtain rfl : f = cur := by simpa [fieldsFrom, hcur] using hf
      exact Or.inl hp
  | cons q ps ih =>
    intro cur f p hf hp
    cases hq : q.blank with
    | true =>
      by_cases hcur : cur = []
      · rw [fieldsFrom, if_pos hq, if_pos hcur] at hf
        rcases ih hf hp with hnil | hmem
        · exact absurd hnil List.not_mem_nil
        · exact Or.inr (List.mem_cons_of_mem q hmem)
      · rw [fieldsFrom, if_pos hq, if_neg hcur] at hf
        rcases List.mem_cons.mp hf with rfl | hf
        · exact Or.inl hp
        · rcases ih hf hp with hnil | hmem
          · exact absurd hnil List.not_mem_nil
          · exact Or.inr (List.mem_cons_of_mem q hmem)
    | false =>
      rw [fieldsFrom, if_neg (by simp [hq])] at hf
      rcases ih hf hp with hcur | hmem
      · rcases List.mem_append.mp hcur with hcur | hsingle
        · exact Or.inl hcur
        · exact Or.inr (List.mem_singleton.mp hsingle ▸ List.mem_cons_self)
      · exact Or.inr (List.mem_cons_of_mem q hmem)

/-! ## Shells -/

/-- A shell as `wordexp` uses it: `parse` reads a text and carries out its expansions, unless it
rejects it; pathname expansion makes one word or more of a field. -/
structure Expander where
  parse : List UInt8 → Option (List Piece)
  pathnames : Field → List (List UInt8)
  pathnames_ne_nil : ∀ f, pathnames f ≠ []

/-- The words of a text; `none` when `wordexp` fails. -/
def Expander.words (sh : Expander) (s : List UInt8) : Option (List (List UInt8)) :=
  (sh.parse s).map fun ps => (fields ps).flatMap sh.pathnames

/-- **No word is left when the text expands to unquoted blanks only.** -/
theorem Expander.words_eq_nil (sh : Expander) (ps : List Piece) :
    (fields ps).flatMap sh.pathnames = [] ↔ ∀ p ∈ ps, p.blank = true := by
  rw [← fields_eq_nil, List.flatMap_eq_nil_iff]
  constructor
  · intro h
    apply List.eq_nil_iff_forall_not_mem.mpr
    intro f hf
    exact sh.pathnames_ne_nil f (h f hf)
  · intro h f hf
    rw [h] at hf
    exact absurd hf List.not_mem_nil

/-! ## Plain text -/

/-- The characters with a meaning of their own: NUL, the blanks, quotes, the backslash, `$`, the
backquote, `~`, patterns, operators, braces and `#`. -/
def special : List UInt8 :=
  [0x00, 0x09, 0x0A, 0x20, 0x22, 0x27, 0x5C, 0x24, 0x60, 0x7E, 0x2A, 0x3F, 0x5B, 0x7C, 0x26, 0x3B,
    0x3C, 0x3E, 0x28, 0x29, 0x7B, 0x7D, 0x23]

def ordinary (c : UInt8) : Bool := c ∉ special

/-- Ordinary characters and spaces, either of them after a backslash or not. -/
def plainText : List UInt8 → Bool
  | [] => true
  | [c] => ordinary c || c = 0x20
  | c :: d :: s =>
    if c = 0x5C then (ordinary d || d = 0x20) && plainText s
    else (ordinary c || c = 0x20) && plainText (d :: s)

/-- The pieces of a plain text. -/
def pieces : List UInt8 → List Piece
  | [] => []
  | [c] => [.plain c]
  | c :: d :: s => if c = 0x5C then .quoted [d] :: pieces s else .plain c :: pieces (d :: s)

theorem plainText_cons {c : UInt8} (hc : c ≠ 0x5C) (s : List UInt8) :
    plainText (c :: s) = ((ordinary c || c = 0x20) && plainText s) := by
  cases s with
  | nil => simp [plainText]
  | cons d s => rw [plainText, if_neg hc]

theorem pieces_cons {c : UInt8} (hc : c ≠ 0x5C) (s : List UInt8) :
    pieces (c :: s) = .plain c :: pieces s := by
  cases s with
  | nil => rfl
  | cons d s => rw [pieces, if_neg hc]

/-- A piece that pathname expansion does not take as it is. -/
def Piece.pattern : Piece → Bool
  | .plain c => c = 0x2A || c = 0x3F || c = 0x5B
  | .quoted _ => false

/-- The documented behaviour on plain text: a backslash quotes the character after it, and a
field without a pattern is one word. -/
structure Expander.Posix (sh : Expander) : Prop where
  parse_plain : ∀ s, plainText s = true → sh.parse s = some (pieces s)
  pathnames_plain : ∀ f, (∀ p ∈ f, p.pattern = false) → sh.pathnames f = [text f]

theorem Expander.Posix.words {sh : Expander} (h : sh.Posix) {s : List UInt8}
    (hs : plainText s = true) (hp : ∀ p ∈ pieces s, p.pattern = false) :
    sh.words s = some ((fields (pieces s)).map text) := by
  have hflat : (fields (pieces s)).flatMap sh.pathnames = (fields (pieces s)).map text := by
    rw [← List.flatMap_singleton' ((fields (pieces s)).map text), List.flatMap_map]
    apply List.flatMap_congr
    intro f hf
    apply h.pathnames_plain
    intro p hpf
    rcases mem_of_mem_fieldsFrom hf hpf with hnil | hmem
    · exact absurd hnil List.not_mem_nil
    · exact hp p hmem
  rw [Expander.words, h.parse_plain s hs, Option.map_some, hflat]

/-- The shell that rejects every text that is not plain. -/
def plainExpander : Expander where
  parse s := if plainText s then some (pieces s) else none
  pathnames f := [text f]
  pathnames_ne_nil _ := List.cons_ne_nil _ _

theorem plainExpander_posix : plainExpander.Posix where
  parse_plain _ hs := if_pos hs
  pathnames_plain _ _ := rfl

end Shell
