import SwaylockAuthd.Lib.CBlock
import SwaylockAuthd.Lib.CInt
import SwaylockAuthd.Lib.Shell
import SwaylockAuthd.State

/-!
# `main.c`: loading an image

`load_image` splits `[[<output>]:]<path>`, puts a backslash before every space that follows a
space, lets `wordexp` expand the path and joins the words again.  The buffers are heap blocks, so
a write outside of one is a fault.  The shell and `load_background_image` are parameters, and so
is what fresh memory holds; allocations of a size the system can have succeed.

* `escapeLoop_eq`: the loop ends, stays inside its buffer and computes `escapeSpaces`.
-/

namespace SwaylockAuthd

open CBlock Shell

/-- `struct swaylock_image`, without its link. -/
structure SwaylockImage (σ : Type) where
  path : CString
  outputName : Option CString
  cairoSurface : σ
  deriving DecidableEq, Repr

/-- What one call of `load_image` meets: the shell, the image loader, fresh memory, and whether
the build is one with the debug overlay, where a failed assertion is only logged. -/
structure ImageEnv (σ : Type) where
  shell : Expander
  loadBackgroundImage : CString → Option σ
  fresh : UInt8 := 0
  debugOverlay : Bool := false

variable {σ : Type}

/-! ## The code -/

/-- `strcmp`, as far as its sign goes. -/
def strcmp : CString → CString → Int
  | [], [] => 0
  | [], _ :: _ => -1
  | _ :: _, [] => 1
  | a :: s, b :: t => if a < b then -1 else if b < a then 1 else strcmp s t

/-- `lenient_strcmp`. -/
def lenientStrcmp : Option CString → Option CString → Int
  | none, none => 0
  | none, some _ => -1
  | some _, none => 1
  | some a, some b => strcmp a b

/-- `select_image`: the loop, with the default it has seen. -/
def selectImageFrom (defaultImage : Option σ) (outputName : Option CString) :
    List (SwaylockImage σ) → Option σ
  | [] => defaultImage
  | image :: images =>
    if lenientStrcmp image.outputName outputName = 0 then some image.cairoSurface
    else if image.outputName = none then
      selectImageFrom (some image.cairoSurface) outputName images
    else selectImageFrom defaultImage outputName images

/-- `select_image`. -/
def selectImage (images : List (SwaylockImage σ)) (outputName : Option CString) : Option σ :=
  selectImageFrom none outputName images

/-- The loops of `join_args`: the size, and the copies. -/
def sizeArgs (args : List CString) : Int :=
  args.foldl (fun len arg => CInt.word 32 (len + (arg.length + 1))) 0

def copyArgs : List CString → List UInt8 → Int → Except Fault (List UInt8 × Int)
  | [], res, len => .ok (res, len)
  | arg :: args, res, len => do
    let res ← strcpy res len arg
    let len := CInt.word 32 (len + arg.length)
    let res ← store res len 0x20
    copyArgs args res (CInt.word 32 (len + 1))

/-- `join_args` behind its assertion. -/
def joinAll (fresh : UInt8) (args : List CString) : Except Fault (List UInt8) :=
  match malloc fresh (sizeArgs args) with
  | none => .error .nullPointer
  | some res => do
    let (res, len) ← copyArgs args res 0
    store res (len - 1) 0

/-- `join_args`; `argc` is an `int`. -/
def joinArgs (env : ImageEnv σ) (argv : List CString) (argc : Int) : Except Fault (List UInt8) :=
  if argc ≤ 0 ∧ env.debugOverlay = false then .error .assertion
  else joinAll env.fresh (argv.take argc.toNat)

/-- The two spaces that `load_image` looks for. -/
def doubleSpace : CString := [0x20, 0x20]

/-- The body of the escaping loop. -/
def escapeStep (fresh : UInt8) (path : List UInt8) : Except Fault (List UInt8) := do
  let s ← string path
  let path := realloc fresh path (s.length + 2)
  let s ← string path
  match strstr doubleSpace s with
  | none => .error .nullPointer
  | some i =>
    let ptr := i + 1
    let tail ← string (path.drop ptr)
    let path ← CBlock.memmove path (ptr + 1) ptr (tail.length + 1)
    store path ptr 0x5C

def escapeLoop (fresh : UInt8) : Nat → List UInt8 → Except Fault (List UInt8)
  | 0, _ => .error .outOfFuel
  | fuel + 1, path => do
    let s ← string path
    if strstr doubleSpace s = none then .ok path
    else escapeStep fresh path >>= escapeLoop fresh fuel

/-- The call of `wordexp`: when it fails, the path stays as it is. -/
def expandWords (env : ImageEnv σ) (escaped : CString) : Except Fault CString :=
  match env.shell.words escaped with
  | none => .ok escaped
  | some argv => do
    let block ← joinArgs env argv (CInt.word 32 argv.length)
    string block

/-- The path that `load_image` opens. -/
def expandPath (env : ImageEnv σ) (path : CString) : Except Fault CString := do
  let block ← escapeLoop env.fresh (path.length + 1) (path ++ [0])
  let escaped ← string block
  expandWords env escaped

/-- The output name and the path of an argument. -/
def splitArg (arg : CString) : Option CString × CString :=
  match arg.dropWhile (· ≠ 0x3A) with
  | [] => (none, arg)
  | _ :: path =>
    (if arg.takeWhile (· ≠ 0x3A) = [] then none else some (arg.takeWhile (· ≠ 0x3A)), path)

/-- `load_image`. -/
def loadImage (env : ImageEnv σ) (arg : CString) (images : List (SwaylockImage σ)) :
    Except Fault (List (SwaylockImage σ)) := do
  let (outputName, path) := splitArg arg
  let images := images.eraseP fun image => lenientStrcmp image.outputName outputName = 0
  let path ← expandPath env path
  match env.loadBackgroundImage path with
  | none => .ok images
  | some cairoSurface => .ok ({ path, outputName, cairoSurface } :: images)

/-! ## The escaping loop -/

/-- A backslash before every space that follows a space; `prev` is whether one came before. -/
def escapeAfter : Bool → CString → CString
  | _, [] => []
  | prev, c :: s =>
    if prev = true ∧ c = 0x20 then 0x5C :: c :: escapeAfter true s
    else c :: escapeAfter (c = 0x20) s

def escapeSpaces (s : CString) : CString := escapeAfter false s

/-- The spaces that follow a space. -/
def pairs : CString → Nat
  | [] => 0
  | [_] => 0
  | c :: d :: s => (if c = 0x20 ∧ d = 0x20 then 1 else 0) + pairs (d :: s)

/-- The first of them escaped. -/
def escapeOnce : CString → Option CString
  | [] => none
  | [_] => none
  | c :: d :: s =>
    if c = 0x20 ∧ d = 0x20 then some (c :: 0x5C :: d :: s)
    else (escapeOnce (d :: s)).map (c :: ·)

theorem doubleSpace_starts {c d : UInt8} {s : CString} :
    doubleSpace <+: c :: d :: s ↔ c = 0x20 ∧ d = 0x20 := by
  rw [doubleSpace, List.cons_prefix_cons, List.cons_prefix_cons]
  simp [eq_comm]

/-- Where `strstr` finds the pair that is escaped. -/
theorem strstr_doubleSpace (s : CString) :
    (escapeOnce s = none ∧ strstr doubleSpace s = none) ∨
      ∃ u v, s = u ++ 0x20 :: 0x20 :: v ∧ strstr doubleSpace s = some u.length ∧
        escapeOnce s = some (u ++ 0x20 :: 0x5C :: 0x20 :: v) := by
  induction s using escapeOnce.induct with
  | case1 => exact Or.inl ⟨rfl, rfl⟩
  | case2 c =>
    have hno : ¬ doubleSpace <+: [c] := by
      rw [doubleSpace, List.cons_prefix_cons]
      simp
    exact Or.inl ⟨rfl, by rw [strstr, if_neg hno]; rfl⟩
  | case3 c d s h =>
    obtain ⟨rfl, rfl⟩ := h
    refine Or.inr ⟨[], s, rfl, ?_, ?_⟩
    · rw [strstr, if_pos (doubleSpace_starts.mpr ⟨rfl, rfl⟩)]
      rfl
    · rw [escapeOnce, if_pos ⟨rfl, rfl⟩]
      rfl
  | case4 c d s h ih =>
    have hstrstr : strstr doubleSpace (c :: d :: s) =
        (strstr doubleSpace (d :: s)).map (· + 1) := by
      rw [strstr, if_neg (fun hp => h (doubleSpace_starts.mp hp))]
    rcases ih with ⟨hnone, hfind⟩ | ⟨u, v, hs, hfind, hsome⟩
    · exact Or.inl ⟨by rw [escapeOnce, if_neg h, hnone]; rfl, by rw [hstrstr, hfind]; rfl⟩
    · refine Or.inr ⟨c :: u, v, by rw [hs]; rfl, by rw [hstrstr, hfind]; rfl, ?_⟩
      rw [escapeOnce, if_neg h, hsome]
      rfl

/-- One backslash leaves what the loop computes as it is, and one pair less. -/
theorem escapeOnce_some {s : CString} : ∀ {t : CString}, escapeOnce s = some t →
    (∀ prev, escapeAfter prev t = escapeAfter prev s) ∧ pairs t + 1 = pairs s ∧
      t.head? = s.head? := by
  induction s using escapeOnce.induct with
  | case1 => intro t h; cases h
  | case2 c => intro t h; cases h
  | case3 c d s h =>
    intro t ht
    rw [escapeOnce, if_pos h] at ht
    obtain rfl := Option.some.inj ht
    obtain ⟨rfl, rfl⟩ := h
    refine ⟨fun prev => ?_, ?_, rfl⟩
    · simp [escapeAfter]
    · simp [pairs]
      omega
  | case4 c d s h ih =>
    intro t ht
    rw [escapeOnce, if_neg h, Option.map_eq_some_iff] at ht
    obtain ⟨t, ht, rfl⟩ := ht
    obtain ⟨hafter, hpairs, hhead⟩ := ih ht
    obtain ⟨r, rfl⟩ : ∃ r, t = d :: r := by
      cases t with
      | nil => cases hhead
      | cons e r =>
        rw [List.head?_cons, List.head?_cons] at hhead
        exact ⟨r, by rw [Option.some.inj hhead]⟩
    refine ⟨fun prev => ?_, ?_, rfl⟩
    · rw [escapeAfter, escapeAfter.eq_def _ (c :: d :: s)]
      simp only [hafter]
    · rw [pairs, pairs, if_neg h]
      omega

theorem escapeOnce_none {s : CString} : escapeOnce s = none → ∀ prev : Bool,
    ¬ (prev = true ∧ s.head? = some 0x20) → escapeAfter prev s = s ∧ pairs s = 0 := by
  induction s using escapeOnce.induct with
  | case1 => intro _ prev _; exact ⟨rfl, rfl⟩
  | case2 c =>
    intro _ prev hprev
    refine ⟨?_, rfl⟩
    rw [escapeAfter, if_neg (fun h => hprev ⟨h.1, by rw [h.2]; rfl⟩)]
    rfl
  | case3 c d s h => intro hnone; rw [escapeOnce, if_pos h] at hnone; cases hnone
  | case4 c d s h ih =>
    intro hnone prev hprev
    rw [escapeOnce, if_neg h, Option.map_eq_none_iff] at hnone
    obtain ⟨hafter, hpairs⟩ := ih hnone (c = 0x20) (fun hc => h ⟨by simpa using hc.1,
      by simpa using hc.2⟩)
    refine ⟨?_, by rw [pairs, if_neg h, hpairs]⟩
    rw [escapeAfter, if_neg (fun hc => hprev ⟨hc.1, by rw [hc.2]; rfl⟩), hafter]

/-- **The body of the loop** stays inside the buffer it has made larger by one byte. -/
theorem escapeStep_eq {s t : CString} (hs : 0 ∉ s) (ht : escapeOnce s = some t) (fresh : UInt8) :
    escapeStep fresh (s ++ [0]) = .ok (t ++ [0]) := by
  rcases strstr_doubleSpace s with ⟨hnone, -⟩ | ⟨u, v, rfl, hfind, hsome⟩
  · rw [hnone] at ht
    cases ht
  · obtain rfl : u ++ 0x20 :: 0x5C :: 0x20 :: v = t := by
      rw [hsome] at ht
      exact Option.some.inj ht
    have hgrow : realloc fresh (u ++ 0x20 :: 0x20 :: v ++ [0])
        ((u ++ 0x20 :: 0x20 :: v).length + 2) = u ++ 0x20 :: 0x20 :: v ++ 0 :: [fresh] := by
      have hsize : (u ++ 0x20 :: 0x20 :: v).length + 2 =
          (u ++ 0x20 :: 0x20 :: v ++ [0]).length + 1 := by
        simp only [List.length_append, List.length_cons, List.length_nil]
      rw [hsize, realloc_succ, List.append_assoc _ [0]]
      rfl
    have hdrop : (u ++ 0x20 :: 0x20 :: v ++ 0 :: [fresh]).drop (u.length + 1) =
        (0x20 :: v) ++ 0 :: [fresh] := by
      rw [show u ++ 0x20 :: 0x20 :: v ++ 0 :: [fresh] =
        (u ++ [0x20]) ++ ((0x20 :: v) ++ 0 :: [fresh]) by simp]
      exact List.drop_left' (by simp)
    have htail : string ((0x20 :: v) ++ 0 :: [fresh]) = .ok (0x20 :: v) := by
      apply string_stored
      intro h
      exact hs (List.mem_append_right u (List.mem_cons_of_mem _ h))
    have hmove :
        CBlock.memmove (u ++ 0x20 :: 0x20 :: v ++ 0 :: [fresh]) (u.length + 1 + 1) (u.length + 1)
          ((0x20 :: v).length + 1) = .ok ((u ++ [0x20]) ++ 0x20 :: 0x20 :: (v ++ [0])) := by
      have hall := memmove_tail (u ++ [0x20]) (v ++ [0]) 0x20 fresh
      rw [List.length_append, List.length_append, List.length_singleton,
        List.length_singleton] at hall
      rw [← hall]
      simp
    have hstore : store ((u ++ [0x20]) ++ 0x20 :: 0x20 :: (v ++ [0])) ((u.length + 1 : Nat) : Int)
        0x5C = .ok (u ++ 0x20 :: 0x5C :: 0x20 :: v ++ [0]) := by
      have hall := store_mid (u ++ [0x20]) (0x20 :: (v ++ [0])) 0x20 0x5C
      rw [List.length_append, List.length_singleton] at hall
      rw [hall]
      simp
    simp only [escapeStep, string_stored hs, ok_bind, hgrow, hfind, hdrop, htail, hmove, hstore]

/-- **The escaping loop ends and stays inside its buffer.** -/
theorem escapeLoop_eq (fresh : UInt8) {fuel : Nat} : ∀ {s : CString}, 0 ∉ s → pairs s < fuel →
    escapeLoop fresh fuel (s ++ [0]) = .ok (escapeSpaces s ++ [0]) := by
  induction fuel with
  | zero => intro s _ h; omega
  | succ fuel ih =>
    intro s hs hfuel
    cases hone : escapeOnce s with
    | none =>
      have hfind : strstr doubleSpace s = none := by
        rcases strstr_doubleSpace s with ⟨-, hfind⟩ | ⟨u, v, -, -, hsome⟩
        · exact hfind
        · rw [hone] at hsome
          cases hsome
      obtain ⟨hsame, -⟩ := escapeOnce_none hone false (by simp)
      rw [escapeLoop, string_stored hs, ok_bind, if_pos hfind, escapeSpaces, hsame]
    | some t =>
      have hfind : strstr doubleSpace s ≠ none := by
        rcases strstr_doubleSpace s with ⟨hnone, -⟩ | ⟨u, v, -, hfind, -⟩
        · rw [hone] at hnone
          cases hnone
        · rw [hfind]
          exact Option.some_ne_none _
      obtain ⟨hafter, hpairs, -⟩ := escapeOnce_some hone
      have ht : 0 ∉ t := by
        rcases strstr_doubleSpace s with ⟨hnone, -⟩ | ⟨u, v, rfl, -, hsome⟩
        · rw [hone] at hnone
          cases hnone
        · rw [hone] at hsome
          obtain rfl := Option.some.inj hsome
          simpa using hs
      rw [escapeLoop, string_stored hs, ok_bind, if_neg hfind, escapeStep_eq hs hone, ok_bind,
        ih ht (by omega), escapeSpaces, hafter false]
      rfl

theorem pairs_le_length (s : CString) : pairs s ≤ s.length := by
  induction s using pairs.induct with
  | case1 => exact Nat.le_refl 0
  | case2 c => exact Nat.zero_le _
  | case3 c d s ih =>
    rw [pairs, List.length_cons]
    split
    · omega
    · omega

theorem zero_notMem_escapeAfter {s : CString} : ∀ {prev : Bool}, 0 ∉ s →
    0 ∉ escapeAfter prev s := by
  induction s with
  | nil => intro prev h; exact h
  | cons c s ih =>
    intro prev h
    have hc : (0 : UInt8) ≠ c := fun he => h (he ▸ List.mem_cons_self)
    have hs : 0 ∉ s := fun hmem => h (List.mem_cons_of_mem c hmem)
    rw [escapeAfter]
    split
    · simp [hc, ih hs]
    · simp [hc, ih hs]

end SwaylockAuthd
