import SwaylockAuthd.Image
import SwaylockAuthd.Json

/-!
# Expanding the path of an image

`join_args` after `wordexp`: its length is an `int`, so that the block it allocates is smaller than
`2^31` bytes, and it must get at least one word.

* `joinArgs_eq`: it joins words that fit such a block.  `joinArgs_cases`: how it can fail.
* `path_survives_iff`: a plain path comes back unchanged if and only if it fits such a block.
* `opens_iff`: an argument does not make `join_args` fail its assertion if and only if its path
  expands to more than blanks.
-/

namespace SwaylockAuthd

open CBlock Shell

variable {σ : Type}

/-! ## Joining -/

/-- The bytes of the words, each with the byte behind it. -/
def total (args : List CString) : Nat := (args.map fun arg => arg.length + 1).sum

@[simp] theorem total_cons (arg : CString) (args : List CString) :
    total (arg :: args) = arg.length + 1 + total args := rfl

theorem total_pos {args : List CString} (h : args ≠ []) : 0 < total args := by
  cases args with
  | nil => exact absurd rfl h
  | cons arg args =>
    rw [total_cons]
    omega

/-- The size wraps on the way, so it is the total, wrapped. -/
theorem sizeArgs_eq (args : List CString) : sizeArgs args = CInt.word 32 (total args) := by
  have hfold : ∀ n : Int,
      args.foldl (fun len arg => CInt.word 32 (len + (arg.length + 1))) (CInt.word 32 n) =
        CInt.word 32 (n + total args) := by
    induction args with
    | nil => intro n; simp [total]
    | cons arg args ih =>
      intro n
      rw [List.foldl_cons, CInt.word_word_add, ih, total_cons]
      push_cast
      rw [Int.add_assoc]
  have h := hfold 0
  rw [Int.zero_add] at h
  exact h

/-- A size that an `int` can hold. -/
theorem word_total {n : Nat} (h : n < 2 ^ 31) : CInt.word 32 n = n :=
  CInt.word_of_fits (by constructor <;> omega)

/-- The copies fill the room behind what is there already. -/
theorem copyArgs_room (args : List CString) : ∀ {u v : List UInt8}, v.length = total args →
    u.length + total args < 2 ^ 31 →
      copyArgs args (u ++ v) u.length =
        .ok (u ++ args.flatMap (· ++ [0x20]), ((u.length + total args : Nat) : Int)) := by
  induction args with
  | nil =>
    intro u v hv _
    obtain rfl : v = [] := List.eq_nil_of_length_eq_zero hv
    rfl
  | cons arg args ih =>
    intro u v hv hfits
    rw [total_cons] at hv hfits
    have hcopy := strcpy_room u arg (v.take (arg.length + 1)) (v.drop (arg.length + 1))
      (by rw [List.length_take]; omega)
    rw [List.append_assoc, List.take_append_drop] at hcopy
    have hlen : CInt.word 32 ((u.length : Int) + arg.length) = ((u ++ arg).length : Nat) := by
      rw [← Int.natCast_add, word_total (by omega), List.length_append]
    have hsucc : (u ++ arg ++ [0x20]).length = (u ++ arg).length + 1 := List.length_append
    have hnext : CInt.word 32 (((u ++ arg).length : Nat) + 1 : Int) =
        ((u ++ arg ++ [0x20]).length : Nat) := by
      have hword : CInt.word 32 (((u ++ arg).length + 1 : Nat) : Int) =
          (((u ++ arg).length + 1 : Nat) : Int) := word_total (by rw [List.length_append]; omega)
      rw [hsucc, ← hword]
      push_cast
      rfl
    have hspace := store_mid (u ++ arg) (v.drop (arg.length + 1)) 0 0x20
    have hrest := ih (u := u ++ arg ++ [0x20]) (v := v.drop (arg.length + 1))
      (by rw [List.length_drop]; omega)
      (by simp only [List.length_append, List.length_singleton]; omega)
    have hsplit : u ++ arg ++ 0x20 :: v.drop (arg.length + 1) =
        u ++ arg ++ [0x20] ++ v.drop (arg.length + 1) := by simp
    simp only [copyArgs, hcopy, ok_bind, hlen, hspace, hnext]
    rw [hsplit, hrest]
    simp only [List.flatMap_cons, List.length_append, List.length_singleton, total_cons,
      List.append_assoc, Nat.add_assoc]

theorem length_flatMap_space (args : List CString) :
    (args.flatMap (· ++ [0x20])).length = total args := by
  induction args with
  | nil => rfl
  | cons arg args ih =>
    rw [List.flatMap_cons, List.length_append, List.length_append, ih]
    rfl

theorem length_le_total (args : List CString) : args.length ≤ total args := by
  induction args with
  | nil => exact Nat.le_refl 0
  | cons arg args ih =>
    rw [List.length_cons, total_cons]
    omega

/-- The copies with the last space taken off. -/
theorem flatMap_eq_intercalate {args : List CString} (h : args ≠ []) :
    args.flatMap (· ++ [0x20]) = [0x20].intercalate args ++ [0x20] := by
  induction args with
  | nil => exact absurd rfl h
  | cons arg args ih =>
    cases args with
    | nil => simp
    | cons next args =>
      rw [List.flatMap_cons, ih (List.cons_ne_nil _ _), List.intercalate_cons_cons]
      simp

/-- **`join_args` joins** words that fit a block it can allocate. -/
theorem joinArgs_eq (env : ImageEnv σ) {argv : List CString} (h : argv ≠ [])
    (hfits : total argv < 2 ^ 31) :
    joinArgs env argv (CInt.word 32 argv.length) = .ok ([0x20].intercalate argv ++ [0]) := by
  have hcount := length_le_total argv
  have hargc : CInt.word 32 argv.length = argv.length := word_total (by omega)
  have hpos : 0 < argv.length := List.length_pos_iff.mpr h
  have hsize : malloc env.fresh (sizeArgs argv) = some (List.replicate (total argv) env.fresh) := by
    rw [sizeArgs_eq, word_total hfits, malloc, if_neg (by omega), Int.toNat_natCast]
  have hcopy : copyArgs argv (List.replicate (total argv) env.fresh) 0 =
      .ok ([0x20].intercalate argv ++ [0x20], ((total argv : Nat) : Int)) := by
    rw [← flatMap_eq_intercalate h]
    simpa using copyArgs_room argv (u := []) (v := List.replicate (total argv) env.fresh)
      List.length_replicate (by simpa using hfits)
  have hlast : ((total argv : Nat) : Int) - 1 = (([0x20].intercalate argv).length : Nat) := by
    have hlen := length_flatMap_space argv
    rw [flatMap_eq_intercalate h, List.length_append, List.length_singleton] at hlen
    omega
  rw [joinArgs, if_neg (by omega), hargc, Int.toNat_natCast, List.take_length, joinAll]
  simp only [hsize, hcopy, ok_bind, hlast]
  exact store_mid _ [] 0x20 0

/-- What the copies can do: they run past the block, or they fill it from `len` on. -/
theorem copyArgs_cases (args : List CString) : ∀ (res : List UInt8) (len : Int), 0 ≤ len →
    len ≤ res.length → res.length < 2 ^ 31 →
      copyArgs args res len = .error .pastBlock ∨
        ∃ b, copyArgs args res len = .ok (b, len + total args) ∧ b.length = res.length ∧
          len + total args ≤ res.length := by
  induction args with
  | nil =>
    intro res len _ hle _
    exact Or.inr ⟨res, by simp [copyArgs, total], rfl, by simpa [total] using hle⟩
  | cons arg args ih =>
    intro res len hpos hle hsize
    rcases strcpy_cases (b := res) hpos arg with hpast | ⟨hroom, c, hcopy, hlen⟩
    · left
      simp only [copyArgs, hpast, error_bind]
    · have hword : CInt.word 32 (len + arg.length) = len + arg.length :=
        CInt.word_of_fits (by constructor <;> omega)
      have hword' : CInt.word 32 (len + arg.length + 1) = len + arg.length + 1 :=
        CInt.word_of_fits (by constructor <;> omega)
      have hspace := store_inside (b := c) (i := len + arg.length) (by omega) (by omega) 0x20
      have hset : (c.set (len + arg.length).toNat 0x20).length = res.length := by
        rw [List.length_set, hlen]
      have hrest := ih (c.set (len + arg.length).toNat 0x20) (len + arg.length + 1) (by omega)
        (by omega) (by omega)
      have htotal : len + arg.length + 1 + total args = len + total (arg :: args) := by
        rw [total_cons]
        push_cast
        omega
      simp only [copyArgs, hcopy, ok_bind, hword, hspace, hword']
      rw [← hset, ← htotal]
      exact hrest

theorem joinAll_cases (fresh : UInt8) {args : List CString} (h : args ≠ []) :
    joinAll fresh args = .error .nullPointer ∨ joinAll fresh args = .error .pastBlock ∨
      ∃ b, joinAll fresh args = .ok b ∧ b.length < 2 ^ 31 := by
  have hpos := total_pos h
  obtain ⟨hlo, hhi⟩ := CInt.fits_word 32 (total args)
  rw [← sizeArgs_eq] at hlo hhi
  by_cases hneg : sizeArgs args < 0
  · left
    rw [joinAll, malloc, if_pos hneg]
  · right
    have hlen : (List.replicate (sizeArgs args).toNat fresh).length < 2 ^ 31 := by
      rw [List.length_replicate]
      omega
    rw [joinAll, malloc, if_neg hneg]
    rcases copyArgs_cases args _ 0 (Int.le_refl 0) (Int.natCast_nonneg _) hlen with
      hpast | ⟨b, hcopy, hb, hle⟩
    · left
      simp only [hpast, error_bind]
    · right
      simp only [hcopy, ok_bind]
      rw [store_inside (by omega) (by omega)]
      exact ⟨_, rfl, by rw [List.length_set]; omega⟩

/-- **How `join_args` can end**: without a word it fails its assertion, or writes in front of its
block where a failed assertion is only logged; with one it does neither. -/
theorem joinArgs_cases (env : ImageEnv σ) (argv : List CString) :
    (CInt.word 32 argv.length ≤ 0 ∧ joinArgs env argv (CInt.word 32 argv.length) =
        .error (if env.debugOverlay then .beforeBlock else .assertion)) ∨
      (0 < CInt.word 32 argv.length ∧
        (joinArgs env argv (CInt.word 32 argv.length) = .error .nullPointer ∨
          joinArgs env argv (CInt.word 32 argv.length) = .error .pastBlock ∨
          ∃ b, joinArgs env argv (CInt.word 32 argv.length) = .ok b ∧ b.length < 2 ^ 31)) := by
  rcases Int.lt_or_le 0 (CInt.word 32 argv.length) with hargc | hargc
  · refine Or.inr ⟨hargc, ?_⟩
    have hne : argv.take (CInt.word 32 argv.length).toNat ≠ [] := by
      intro h
      rcases List.take_eq_nil_iff.mp h with hzero | hnil
      · omega
      · rw [hnil, List.length_nil, word_total (by omega)] at hargc
        omega
    rw [joinArgs, if_neg (by omega)]
    exact joinAll_cases env.fresh hne
  · refine Or.inl ⟨hargc, ?_⟩
    cases hdebug : env.debugOverlay with
    | false => rw [joinArgs, if_pos ⟨hargc, hdebug⟩, if_neg Bool.false_ne_true]
    | true =>
      have hzero : (CInt.word 32 argv.length).toNat = 0 := by omega
      rw [joinArgs, if_neg (by simp [hdebug]), hzero, List.take_zero]
      rfl

/-! ## Plain paths -/

/-- A path of ordinary characters, and of spaces inside. -/
structure PlainPath (path : CString) : Prop where
  ne_nil : path ≠ []
  chars : ∀ c ∈ path, ordinary c = true ∨ c = 0x20
  first : path.head? ≠ some 0x20
  last : path.getLast? ≠ some 0x20

theorem not_blank_of_ordinary {c : UInt8} (h : ordinary c = true) : isBlank c = false := by
  rw [ordinary, decide_eq_true_eq] at h
  rw [Bool.eq_false_iff]
  intro hb
  simp only [isBlank, Bool.or_eq_true, decide_eq_true_eq] at hb
  rcases hb with (rfl | rfl) | rfl
  · exact h (by decide)
  · exact h (by decide)
  · exact h (by decide)

theorem ne_backslash {c : UInt8} (h : ordinary c = true ∨ c = 0x20) : c ≠ 0x5C := by
  rintro rfl
  revert h
  decide

theorem no_pattern {c : UInt8} (h : ordinary c = true ∨ c = 0x20) :
    (Piece.plain c).pattern = false := by
  rw [Bool.eq_false_iff]
  intro hp
  simp only [Piece.pattern, Bool.or_eq_true, decide_eq_true_eq] at hp
  rcases hp with (rfl | rfl) | rfl
  · revert h; decide
  · revert h; decide
  · revert h; decide

/-- An escaped path is plain text without a pattern. -/
theorem plainText_escapeAfter {s : CString} : ∀ prev : Bool,
    (∀ c ∈ s, ordinary c = true ∨ c = 0x20) →
      plainText (escapeAfter prev s) = true ∧
        ∀ p ∈ pieces (escapeAfter prev s), p.pattern = false := by
  induction s with
  | nil => intro prev _; exact ⟨rfl, by simp [escapeAfter, pieces]⟩
  | cons c s ih =>
    intro prev h
    have hc := h c List.mem_cons_self
    have hs : ∀ d ∈ s, ordinary d = true ∨ d = 0x20 := fun d hd => h d (List.mem_cons_of_mem c hd)
    rw [escapeAfter]
    split
    · obtain ⟨hplain, hpat⟩ := ih true hs
      constructor
      · rw [plainText, if_pos rfl, hplain]
        simpa using hc
      · rw [pieces, if_pos rfl]
        exact List.forall_mem_cons.mpr ⟨rfl, hpat⟩
    · obtain ⟨hplain, hpat⟩ := ih (decide (c = 0x20)) hs
      constructor
      · rw [plainText_cons (ne_backslash hc), hplain]
        simpa using hc
      · rw [pieces_cons (ne_backslash hc)]
        exact List.forall_mem_cons.mpr ⟨no_pattern hc, hpat⟩

/-- **Escaping, splitting and joining cancel out**, behind a field that is being read or at the
start of one. -/
theorem join_fieldsFrom {s : CString} : ∀ (prev : Bool) (cur : Field),
    (cur ≠ [] ∨ s ≠ [] ∧ (prev = true ∨ s.head? ≠ some 0x20)) →
    (∀ c ∈ s, ordinary c = true ∨ c = 0x20) → s.getLast? ≠ some 0x20 →
      [0x20].intercalate ((fieldsFrom cur (pieces (escapeAfter prev s))).map text) =
        text cur ++ s := by
  induction s with
  | nil =>
    intro prev cur hstart _ _
    have hcur : cur ≠ [] := by simpa using hstart
    rw [escapeAfter, pieces, fieldsFrom, if_neg hcur]
    simp
  | cons c s ih =>
    intro prev cur hstart hchars hlast
    have hc := hchars c List.mem_cons_self
    have hs : ∀ d ∈ s, ordinary d = true ∨ d = 0x20 :=
      fun d hd => hchars d (List.mem_cons_of_mem c hd)
    have hlast' : s.getLast? ≠ some 0x20 := by
      cases s with
      | nil => simp
      | cons d s => rwa [List.getLast?_cons_cons] at hlast
    by_cases hpair : prev = true ∧ c = 0x20
    · -- a quoted space belongs to the field
      rw [escapeAfter, if_pos hpair, pieces, if_pos rfl, fieldsFrom, if_neg (by simp [Piece.blank]),
        ih _ _ (Or.inl (by simp)) hs hlast']
      simp [text, Piece.text]
    · rw [escapeAfter, if_neg hpair, pieces_cons (ne_backslash hc), fieldsFrom]
      by_cases hspace : c = 0x20
      · -- a space that ends the field; the field after it starts with something else
        subst hspace
        have hcur : cur ≠ [] := by
          rcases hstart with hcur | ⟨-, hprev | hhead⟩
          · exact hcur
          · exact absurd ⟨hprev, rfl⟩ hpair
          · exact absurd rfl hhead
        have hne : s ≠ [] := by
          rintro rfl
          exact hlast rfl
        have hrest := ih true [] (Or.inr ⟨hne, Or.inl rfl⟩) hs hlast'
        rw [text_nil, List.nil_append] at hrest
        have hfields : (fieldsFrom [] (pieces (escapeAfter true s))).map text ≠ [] := by
          intro h
          rw [h, List.intercalate_nil] at hrest
          exact hne hrest.symm
        have hblank : (Piece.plain 0x20).blank = true := rfl
        rw [if_pos hblank, if_neg hcur, decide_eq_true rfl, List.map_cons,
          List.intercalate_cons_of_ne_nil hfields, hrest, List.append_assoc]
        rfl
      · have hblank : (Piece.plain c).blank = false :=
          not_blank_of_ordinary (hc.resolve_right hspace)
        rw [if_neg (by simp [hblank]), ih _ _ (Or.inl (by simp)) hs hlast']
        simp [text, Piece.text]

/-! ## Expanding -/

variable {env : ImageEnv σ}

/-- The loop has enough fuel, so `wordexp` gets the escaped path. -/
theorem expandPath_eq {path : CString} (h : 0 ∉ path) :
    expandPath env path = expandWords env (escapeSpaces path) := by
  have hpairs := pairs_le_length path
  have hstring : string (escapeSpaces path ++ [0]) = .ok (escapeSpaces path) :=
    string_stored (zero_notMem_escapeAfter h) []
  rw [expandPath, escapeLoop_eq env.fresh h (by omega), ok_bind, hstring, ok_bind]

/-- What `wordexp` makes of a plain path are words that join to it. -/
theorem PlainPath.words {path : CString} (h : PlainPath path) (hshell : env.shell.Posix) :
    ∃ argv, env.shell.words (escapeSpaces path) = some argv ∧ argv ≠ [] ∧
      [0x20].intercalate argv = path ∧ total argv = path.length + 1 := by
  obtain ⟨hplain, hpattern⟩ := plainText_escapeAfter false h.chars
  have hjoin := join_fieldsFrom false [] (Or.inr ⟨h.ne_nil, Or.inr h.first⟩)
    h.chars h.last
  rw [text_nil, List.nil_append] at hjoin
  have hne : (fields (pieces (escapeSpaces path))).map text ≠ [] := by
    intro hnil
    rw [fields, escapeSpaces] at hnil
    rw [hnil, List.intercalate_nil] at hjoin
    exact h.ne_nil hjoin.symm
  refine ⟨_, hshell.words hplain hpattern, hne, hjoin, ?_⟩
  rw [← length_flatMap_space, flatMap_eq_intercalate hne, List.length_append]
  exact congrArg (List.length · + 1) hjoin

theorem PlainPath.zero_notMem {path : CString} (h : PlainPath path) : 0 ∉ path := by
  intro hmem
  rcases h.chars 0 hmem with hord | hspace
  · exact absurd hord (by decide)
  · exact absurd hspace (by decide)

/-- The escaping loop ends and stays inside its buffer, and expansion gives the path back. -/
def Survives (env : ImageEnv σ) (path : CString) : Prop :=
  (∃ n, ∀ fuel, n ≤ fuel → ∃ block, escapeLoop env.fresh fuel (path ++ [0]) = .ok block) ∧
    expandPath env path = .ok path

theorem PlainPath.survives {path : CString} (h : PlainPath path) (hshell : env.shell.Posix)
    (hlen : path.length + 1 < 2 ^ 31) : Survives env path := by
  obtain ⟨argv, hwords, hne, hjoin, htotal⟩ := h.words hshell
  refine ⟨⟨pairs path + 1, fun fuel hfuel => ⟨_, escapeLoop_eq env.fresh h.zero_notMem hfuel⟩⟩, ?_⟩
  rw [expandPath_eq h.zero_notMem, expandWords, hwords]
  simp only [joinArgs_eq env hne (by omega), ok_bind, hjoin]
  exact string_stored h.zero_notMem []

/-- A path that comes back fits a block that `join_args` can allocate. -/
theorem PlainPath.length_lt {path : CString} (h : PlainPath path) (hshell : env.shell.Posix)
    (hsurvives : Survives env path) : path.length + 1 < 2 ^ 31 := by
  obtain ⟨argv, hwords, hne, hjoin, htotal⟩ := h.words hshell
  have hpath := hsurvives.2
  rw [expandPath_eq h.zero_notMem, expandWords, hwords] at hpath
  simp only at hpath
  rcases joinArgs_cases env argv with ⟨-, hfail⟩ | ⟨-, hnull | hpast | ⟨b, hok, hb⟩⟩
  · rw [hfail] at hpath
    cases hpath
  · rw [hnull] at hpath
    cases hpath
  · rw [hpast] at hpath
    cases hpath
  · rw [hok, ok_bind] at hpath
    have hlt := length_lt_of_string hpath
    omega

/-- **A plain path comes back unchanged** if an `int` can count its bytes, and only then.  Every
path that reaches `load_image` is such: the kernel bounds a string of the command line by
128 KiB, and what `load_config` hands over has been put behind `--` by `sprintf`, whose result
is an `int`. -/
theorem path_survives_iff {path : CString} (h : PlainPath path) (hshell : env.shell.Posix) :
    Survives env path ↔ path.length + 1 < 2 ^ 31 :=
  ⟨h.length_lt hshell, h.survives hshell⟩

/-- The environment with the shell for plain text and no images. -/
def plainImageEnv : ImageEnv Unit :=
  { shell := plainExpander, loadBackgroundImage := fun _ => none }

/-- A path with runs of spaces. -/
theorem path_survives_iff_runs :
    Survives plainImageEnv (ascii "a  b   c") ↔ (ascii "a  b   c").length + 1 < 2 ^ 31 :=
  path_survives_iff ⟨by decide, List.forall_iff_forall_mem.mp (by decide), by decide, by decide⟩
    plainExpander_posix

/-! ## The assertion -/

/-- `load_image` neither fails the assertion of `join_args` nor writes in front of its block. -/
def Opens (env : ImageEnv σ) (arg : CString) : Prop :=
  ∀ images, loadImage env arg images ≠ .error .assertion ∧
    loadImage env arg images ≠ .error .beforeBlock

/-- The shell rejects the text, or it expands to something else than unquoted blanks; and if there
are so many words that their number wraps, it wraps to a positive one. -/
def ExpandsToWords (sh : Expander) (s : CString) : Prop :=
  ∀ ps, sh.parse s = some ps → (∃ p ∈ ps, p.blank = false) ∧
    (2 ^ 31 ≤ ((fields ps).flatMap sh.pathnames).length →
      0 < CInt.word 32 ((fields ps).flatMap sh.pathnames).length)

theorem loadImage_fault {arg : CString} {images : List (SwaylockImage σ)} {e : Fault} :
    loadImage env arg images = .error e ↔ expandPath env (splitArg arg).2 = .error e := by
  rw [loadImage]
  cases hpath : expandPath env (splitArg arg).2 with
  | error f => simp only [hpath, error_bind, Except.error.injEq]
  | ok path =>
    simp only [hpath, ok_bind]
    cases env.loadBackgroundImage path with
    | none => exact ⟨nofun, nofun⟩
    | some surface => exact ⟨nofun, nofun⟩

/-- The two faults come from `join_args` without a word. -/
theorem expandWords_ne {escaped : CString} :
    (expandWords env escaped ≠ .error .assertion ∧ expandWords env escaped ≠ .error .beforeBlock) ↔
      ∀ argv, env.shell.words escaped = some argv → 0 < CInt.word 32 argv.length := by
  cases hwords : env.shell.words escaped with
  | none => simp [expandWords, hwords]
  | some argv =>
    have hexpand : expandWords env escaped =
        (joinArgs env argv (CInt.word 32 argv.length) >>= string) := by
      rw [expandWords, hwords]
    rw [hexpand]
    rcases joinArgs_cases env argv with ⟨hargc, hfail⟩ | ⟨hargc, hnull | hpast | ⟨b, hok, -⟩⟩
    · constructor
      · intro h
        rw [hfail, error_bind] at h
        cases hdebug : env.debugOverlay with
        | true => exact absurd (by rw [if_pos hdebug]) h.2
        | false => exact absurd (by rw [if_neg (by simp [hdebug])]) h.1
      · intro h
        have hpos := h argv rfl
        omega
    · rw [hnull, error_bind]
      exact ⟨fun _ _ h => Option.some.inj h ▸ hargc, fun _ => by simp⟩
    · rw [hpast, error_bind]
      exact ⟨fun _ _ h => Option.some.inj h ▸ hargc, fun _ => by simp⟩
    · rw [hok, ok_bind, string]
      refine ⟨fun _ _ h => Option.some.inj h ▸ hargc, fun _ => ?_⟩
      split
      · simp
      · simp

theorem expandsToWords_iff {sh : Expander} {s : CString} :
    ExpandsToWords sh s ↔ ∀ argv, sh.words s = some argv → 0 < CInt.word 32 argv.length := by
  constructor
  · intro h argv hwords
    rw [Expander.words, Option.map_eq_some_iff] at hwords
    obtain ⟨ps, hparse, rfl⟩ := hwords
    obtain ⟨⟨p, hp, hblank⟩, hwrap⟩ := h ps hparse
    rcases Nat.lt_or_ge ((fields ps).flatMap sh.pathnames).length (2 ^ 31) with hlt | hge
    · have hne : (fields ps).flatMap sh.pathnames ≠ [] := by
        intro hnil
        rw [(sh.words_eq_nil ps).mp hnil p hp] at hblank
        cases hblank
      have hpos := List.length_pos_iff.mpr hne
      rw [word_total hlt]
      omega
    · exact hwrap hge
  · intro h ps hparse
    have hwords : sh.words s = some ((fields ps).flatMap sh.pathnames) := by
      rw [Expander.words, hparse]
      rfl
    have hargc := h _ hwords
    refine ⟨?_, fun _ => hargc⟩
    by_contra hnone
    have hnil := (sh.words_eq_nil ps).mpr fun p hp => by
      by_contra hblank
      exact hnone ⟨p, hp, by simpa using hblank⟩
    rw [hnil, List.length_nil, word_total (by omega)] at hargc
    omega

theorem zero_notMem_splitArg {arg : CString} (h : 0 ∉ arg) : 0 ∉ (splitArg arg).2 := by
  rw [splitArg]
  split
  · exact h
  · rename_i c path hdrop
    intro hmem
    apply h
    have hsub : (c :: path).Sublist arg := hdrop ▸ List.dropWhile_sublist _
    exact hsub.subset (List.mem_cons_of_mem c hmem)

/-- **Which arguments do not make `join_args` fail**: those whose path expands to words. -/
theorem opens_iff {arg : CString} (h : 0 ∉ arg) :
    Opens env arg ↔ ExpandsToWords env.shell (escapeSpaces (splitArg arg).2) := by
  rw [expandsToWords_iff, ← expandWords_ne, ← expandPath_eq (zero_notMem_splitArg h)]
  constructor
  · intro hopens
    obtain ⟨hassertion, hbefore⟩ := hopens []
    exact ⟨fun hfail => hassertion (loadImage_fault.mpr hfail),
      fun hfail => hbefore (loadImage_fault.mpr hfail)⟩
  · intro hpath images
    exact ⟨fun hfail => hpath.1 (loadImage_fault.mp hfail),
      fun hfail => hpath.2 (loadImage_fault.mp hfail)⟩

/-- An output and a path. -/
theorem opens_iff_output : Opens plainImageEnv (ascii "DP-1:a b") ↔
    ExpandsToWords plainExpander (escapeSpaces (splitArg (ascii "DP-1:a b")).2) :=
  opens_iff (by decide)

/-- The empty path: one build aborts, the other writes in front of the block. -/
theorem not_opens_empty : ¬ (∀ (env : ImageEnv Unit) (arg : CString), 0 ∉ arg → Opens env arg) ∧
    loadImage plainImageEnv [] [] = .error .assertion ∧
    loadImage plainImageEnv (ascii "DP-1:") [] = .error .assertion ∧
    loadImage { plainImageEnv with debugOverlay := true } [] [] = .error .beforeBlock := by
  have habort : loadImage plainImageEnv [] [] = .error .assertion := rfl
  exact ⟨fun hall => (hall plainImageEnv [] List.not_mem_nil []).1 habort, habort, rfl, rfl⟩

end SwaylockAuthd
