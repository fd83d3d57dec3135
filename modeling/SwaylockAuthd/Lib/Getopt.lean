import Mathlib.Data.List.Infix

/-!
# Reading options

`getopt_long` as the C library documents it: clusters of short options, long options by their name
or by an abbreviation that is not ambiguous, arguments behind `=` or in the next word, `--` as the
end of the options.  `ν` is what an option stands for.

* `scan`: what the successive calls find in the words of a command line.
* `scan_long`: one word that is a long option.
-/

namespace Getopt

variable {ν : Type} [DecidableEq ν]

structure LongOption (ν : Type) where
  name : List UInt8
  hasArg : Bool
  val : ν
  deriving DecidableEq

/-- What one call finds; `unknown` is the answer `'?'`. -/
inductive Found (ν : Type)
  | option (val : ν) (optarg : Option (List UInt8))
  | nonOption (word : List UInt8)
  | unknown
  deriving DecidableEq

/-- What becomes of the words that are no options. -/
inductive Policy
  | permute
  | requireOrder
  | returnInOrder
  deriving DecidableEq

/-- The options of a program: the long ones, and what a letter stands for. -/
structure Table (ν : Type) where
  long : List (LongOption ν)
  short : UInt8 → Option (ν × Bool)

/-- The option with a name, or the only one that begins with it; several that mean the same count
as one. -/
def Table.find (table : Table ν) (name : List UInt8) : Option (LongOption ν) :=
  match table.long.find? fun o => o.name = name with
  | some o => some o
  | none =>
    match table.long.filter fun o => name <+: o.name with
    | [] => none
    | o :: os => if ∀ p ∈ os, p.hasArg = o.hasArg ∧ p.val = o.val then some o else none

/-- A long option, without its dashes: what is found, or the option that waits for its argument. -/
def Table.readLong (table : Table ν) (word : List UInt8) : List (Found ν) × Option ν :=
  let name := word.takeWhile (· ≠ 0x3D)
  let value := word.dropWhile (· ≠ 0x3D)
  match table.find name with
  | none => ([.unknown], none)
  | some o =>
    if o.hasArg then
      if value = [] then ([], some o.val) else ([.option o.val (some value.tail)], none)
    else if value = [] then ([.option o.val none], none)
    else ([.unknown], none)

/-- A cluster of short options, without its dash. -/
def Table.readShort (table : Table ν) : List UInt8 → List (Found ν) × Option ν
  | [] => ([], none)
  | c :: cluster =>
    match table.short c with
    | none => (.unknown :: (table.readShort cluster).1, (table.readShort cluster).2)
    | some (val, false) =>
      (.option val none :: (table.readShort cluster).1, (table.readShort cluster).2)
    | some (val, true) =>
      if cluster = [] then ([], some val) else ([.option val (some cluster)], none)

/-- A word that is no option, and what is found behind it. -/
def Policy.pass (word : List UInt8) (found : List (Found ν)) : Policy → List (Found ν)
  | .permute => found
  | .requireOrder => []
  | .returnInOrder => .nonOption word :: found

/-- What is found in the words; `pending` is an option that takes the next word. -/
def Table.scan (table : Table ν) (policy : Policy) :
    Option ν → List (List UInt8) → List (Found ν)
  | none, [] => []
  | some _, [] => [.unknown]
  | some val, word :: words => .option val (some word) :: table.scan policy none words
  | none, word :: words =>
    if word = [0x2D, 0x2D] then []
    else if [0x2D, 0x2D] <+: word then
      let (found, pending) := table.readLong (word.drop 2)
      found ++ table.scan policy pending words
    else if [0x2D] <+: word ∧ word ≠ [0x2D] then
      let (found, pending) := table.readShort (word.drop 1)
      found ++ table.scan policy pending words
    else policy.pass word (table.scan policy none words)

/-- The one thing that is found in a word with two dashes. -/
def Table.long1 (table : Table ν) (word : List UInt8) : Found ν :=
  match table.find (word.takeWhile (· ≠ 0x3D)) with
  | none => .unknown
  | some o =>
    let value := word.dropWhile (· ≠ 0x3D)
    if o.hasArg then if value = [] then .unknown else .option o.val (some value.tail)
    else if value = [] then .option o.val none
    else .unknown

/-- **One word that is a long option**: an argument can only be behind its `=`. -/
theorem Table.scan_long (table : Table ν) (policy : Policy) {word : List UInt8}
    (h : word ≠ []) : table.scan policy none [0x2D :: 0x2D :: word] = [table.long1 word] := by
  have hend : 0x2D :: 0x2D :: word ≠ [0x2D, 0x2D] := by simpa using h
  have hlong : [0x2D, 0x2D] <+: 0x2D :: 0x2D :: word := ⟨word, rfl⟩
  rw [scan, if_neg hend, if_pos hlong, long1]
  simp only [List.drop_succ_cons, List.drop_zero, readLong]
  cases table.find (word.takeWhile (· ≠ 0x3D)) with
  | none => rfl
  | some o =>
    simp only
    split
    · split
      · rfl
      · rfl
    · split
      · rfl
      · rfl

end Getopt
