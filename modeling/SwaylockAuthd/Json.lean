import SwaylockAuthd.State

/-!
# cJSON values

The values the two processes exchange.  `cJSON_Parse` and the printer are not part
of the repository, so they are parameters wherever they are used; the lookups are
those of the cJSON documentation.  A string is the bytes of `valuestring`, and a
number is its IEEE bits.
-/

namespace SwaylockAuthd

/-- A `cJSON` item. -/
inductive Json
  | null
  | bool (b : Bool)
  | number (bits : UInt64)
  | string (valuestring : List UInt8)
  | array (items : List Json)
  | object (members : List (List UInt8 × Json))

/-- The bytes of an ASCII literal. -/
def ascii (s : String) : List UInt8 := s.toList.map fun c => c.toNat.toUInt8

/-- `tolower`. -/
def tolower (b : UInt8) : UInt8 := if 0x41 ≤ b ∧ b ≤ 0x5A then b + 0x20 else b

namespace Json

/-- `cJSON_IsString` and `valuestring`. -/
def valuestring : Json → Option (List UInt8)
  | .string v => some v
  | _ => none

/-- The children of an array or an object. -/
def children : Json → List Json
  | .array items => items
  | .object members => members.map Prod.snd
  | _ => []

/-- `cJSON_GetObjectItem`: the first member of that name, case ignored. -/
def getObjectItem (j : Json) (name : String) : Option Json :=
  match j with
  | .object members =>
    (members.find? fun m => (cstr m.1).map tolower = (ascii name).map tolower).map Prod.snd
  | _ => none

/-- `cJSON_GetObjectItemCaseSensitive`. -/
def getObjectItemCaseSensitive (j : Json) (name : String) : Option Json :=
  match j with
  | .object members => (members.find? fun m => cstr m.1 = ascii name).map Prod.snd
  | _ => none

/-- The string of a member. -/
def stringItem (j : Json) (name : String) : Option (List UInt8) :=
  (j.getObjectItem name).bind valuestring

end Json

/-! ## Texts -/

/-- The text of a string that needs no escape. -/
def quote (v : List UInt8) : CString := ascii "\"" ++ v ++ ascii "\""

mutual

/-- `cJSON_PrintUnformatted` of a value without numbers whose strings need no escape. -/
def compact : Json → CString
  | .null => ascii "null"
  | .bool b => ascii (if b then "true" else "false")
  | .number _ => []
  | .string v => quote v
  | .array items => ascii "[" ++ compactItems items ++ ascii "]"
  | .object members => ascii "\x7b" ++ compactMembers members ++ ascii "\x7d"

def compactItems : List Json → CString
  | [] => []
  | j :: js => compact j ++ (if js.isEmpty then [] else ascii ",") ++ compactItems js

def compactMembers : List (List UInt8 × Json) → CString
  | [] => []
  | (name, j) :: ms =>
    quote name ++ ascii ":" ++ compact j ++ (if ms.isEmpty then [] else ascii ",") ++
      compactMembers ms

end

/-- `cJSON_Parse` of the texts of some values. -/
def parseText (known : List Json) (text : CString) : Option Json :=
  known.find? fun j => compact j = text

end SwaylockAuthd
