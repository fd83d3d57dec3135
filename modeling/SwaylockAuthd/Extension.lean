import SwaylockAuthd.Json
import SwaylockAuthd.Lib.CBlock

/-!
# `include/gdm`: the extension protocol of GDM

A process tells the PAM modules it loads which extensions it speaks through an environment
variable that is written into a static block.  A message names its extension by the place the
name has in that variable.

* `advertiseSupportedExtensions`, `lookUpType`, `invalidType`, `requestInit`: the macros.
* `shownExtensions_le_iff`: which names fit into the block.
* `advertise_spec`: what is written, and that it stays inside the block.
* `extension_replies`: what a module and the child find in the variable, and the messages between
  them.
-/

namespace SwaylockAuthd

open CBlock (Fault)

/-- `UCHAR_MAX` -/
def UCHAR_MAX : Nat := 255

/-- `" "` -/
def BLANK : UInt8 := 0x20

/-- `"="` -/
def EQUALS : UInt8 := 0x3D

def GDM_SUPPORTED_PAM_EXTENSIONS : CString := ascii "GDM_SUPPORTED_PAM_EXTENSIONS"

def GDM_PAM_EXTENSION_CUSTOM_JSON : CString :=
  ascii "org.gnome.DisplayManager.UserVerifier.CustomJSON"

def AUTHD_GDM_JSON_PROTO_NAME : CString := ascii "com.ubuntu.authd.gdm"

def AUTHD_GDM_JSON_PROTO_VERSION : Nat := 1

/-! ## The environment -/

/-- The strings of the environment. -/
abbrev Environ := List CString

/-- Whether a string of the environment is of a variable. -/
def ofVariable (name e : CString) : Bool := decide (name ++ [EQUALS] <+: e)

def getenv (env : Environ) (name : CString) : Option CString :=
  (env.find? (ofVariable name)).map (·.drop (name.length + 1))

/-- `putenv`: without an equals sign the variable is removed. -/
def putenv (env : Environ) (s : CString) : Environ :=
  let rest := env.filter fun e => !ofVariable (s.takeWhile (· ≠ EQUALS)) e
  if EQUALS ∈ s then s :: rest else rest

theorem ofVariable_self (name value : CString) :
    ofVariable name (name ++ EQUALS :: value) = true := by
  rw [ofVariable, decide_eq_true_iff]
  exact ⟨value, by simp⟩

theorem getenv_putenv (env : Environ) (name value : CString) :
    getenv (putenv env (name ++ EQUALS :: value)) name = some value := by
  have hmem : EQUALS ∈ name ++ EQUALS :: value := by simp
  have hdrop : (name ++ EQUALS :: value).drop (name.length + 1) = value := by
    rw [show name ++ EQUALS :: value = (name ++ [EQUALS]) ++ value by simp]
    exact List.drop_left' (by simp)
  rw [getenv, putenv, if_pos hmem, List.find?_cons_of_pos (ofVariable_self name value),
    Option.map_some, hdrop]

/-! ## Advertising -/

/-- `stpncpy` at the start of a block, with its whole size: the block and the end. -/
def stpncpy (block : List UInt8) (s : CString) : List UInt8 × Nat :=
  (s.take block.length ++ List.replicate (block.length - s.length) 0, min s.length block.length)

def stpcpy (block : List UInt8) (p : Nat) (s : CString) : Except Fault (List UInt8 × Nat) := do
  let block ← CBlock.strcpy block p s
  pure (block, p + s.length)

/-- The first loop: how many names fit into a block of a size. -/
def countChunks (sizeof t size : Nat) : List CString → Nat
  | [] => t
  | ext :: exts =>
    if t < UCHAR_MAX then
      if sizeof ≤ size + (ext.length + 1) then t
      else countChunks sizeof (t + 1) (size + (ext.length + 1)) exts
    else t

/-- The second loop, over the names that fit. -/
def appendChunks (t : Nat) (block : List UInt8) (p : Nat) :
    List CString → Except Fault (List UInt8 × Nat)
  | [] => pure (block, p)
  | ext :: exts => do
    let (block, p) ← if t ≠ 0 then stpcpy block p [BLANK] else pure (block, p)
    let (block, p) ← stpcpy block p ext
    appendChunks (t + 1) block p exts

/-- `GDM_PAM_EXTENSION_ADVERTISE_SUPPORTED_EXTENSIONS`: the block and the environment after. -/
def advertiseSupportedExtensions (block : List UInt8) (exts : List CString) (env : Environ) :
    Except Fault (List UInt8 × Environ) := do
  let (block, p) := stpncpy block GDM_SUPPORTED_PAM_EXTENSIONS
  let block ← CBlock.store block p 0
  let written ← CBlock.string block
  let num_chunks := countChunks block.length 0 written.length exts
  if num_chunks ≠ 0 then do
    let (block, p) ← stpcpy block p [EQUALS]
    let (block, p) ← appendChunks 0 block p (exts.take num_chunks)
    let block ← CBlock.store block p 0
    let s ← CBlock.string block
    pure (block, putenv env s)
  else pure (block, env)

/-- `authd_gdm_advertise_extensions` -/
def authdGdmAdvertiseExtensions (authd_gdm_pam_ext_env : List UInt8) (env : Environ) :
    Except Fault (List UInt8 × Environ) :=
  advertiseSupportedExtensions authd_gdm_pam_ext_env [GDM_PAM_EXTENSION_CUSTOM_JSON] env

/-! ## Looking up -/

/-- `strcspn(p, " ")` -/
def strcspnBlank (p : CString) : Nat := (p.takeWhile (· ≠ BLANK)).length

/-- Past a name and the blanks after it. -/
def skipName (p : CString) : CString := (p.drop (strcspnBlank p)).dropWhile (· = BLANK)

/-- `strncmp(a, b, n) == 0` -/
def strncmpEqual (a b : CString) (n : Nat) : Bool := a.take n = b.take n

theorem drop_strcspnBlank (p : CString) :
    p.drop (strcspnBlank p) = p.dropWhile (· ≠ BLANK) := by
  have hsplit := List.takeWhile_append_dropWhile (p := (· ≠ BLANK)) (l := p)
  calc p.drop (strcspnBlank p)
      = (p.takeWhile (· ≠ BLANK) ++ p.dropWhile (· ≠ BLANK)).drop (strcspnBlank p) := by
        rw [hsplit]
    _ = p.dropWhile (· ≠ BLANK) := List.drop_left' rfl

theorem skipName_lt {p : CString} (h : p ≠ []) : (skipName p).length < p.length := by
  cases p with
  | nil => exact absurd rfl h
  | cons c p =>
    rw [skipName, drop_strcspnBlank]
    by_cases hc : c = BLANK
    · rw [List.dropWhile_cons_of_neg (by simp [hc]), List.dropWhile_cons_of_pos (by simp [hc])]
      exact Nat.lt_succ_of_le (List.dropWhile_sublist _).length_le
    · rw [List.dropWhile_cons_of_pos (by simp [hc])]
      have hname := (List.dropWhile_sublist (l := p) (· ≠ BLANK)).length_le
      have hblank := (List.dropWhile_sublist (l := p.dropWhile (· ≠ BLANK)) (· = BLANK)).length_le
      rw [List.length_cons]
      omega

/-- The loop of `GDM_PAM_EXTENSION_LOOK_UP_TYPE`. -/
def lookUpLoop (name : CString) (t : Nat) (p : CString) : Option Nat :=
  if h : p = [] then none
  else if strncmpEqual p name (strcspnBlank p) then some t
  else if UCHAR_MAX ≤ t then none
  else lookUpLoop name (t + 1) (skipName p)
termination_by p.length
decreasing_by exact skipName_lt h

/-- `GDM_PAM_EXTENSION_LOOK_UP_TYPE`: the type, where the name is supported. -/
def lookUpType (env : Environ) (name : CString) : Option Nat :=
  (getenv env GDM_SUPPORTED_PAM_EXTENSIONS).bind (lookUpLoop name 0)

/-- The loop of `GDM_PAM_EXTENSION_MESSAGE_INVALID_TYPE`. -/
def invalidLoop (n : Int) (p : CString) : Int :=
  if h : p = [] then n
  else if n < UCHAR_MAX then
    invalidLoop (if 0 < strcspnBlank p then n + 1 else n) (skipName p)
  else n
termination_by p.length
decreasing_by exact skipName_lt h

/-! ## Messages -/

/-- The order of the bytes the other way round, on a little-endian machine. -/
def htobe32 (v : BitVec 32) : BitVec 32 :=
  v.extractLsb' 0 8 ++ v.extractLsb' 8 8 ++ v.extractLsb' 16 8 ++ v.extractLsb' 24 8

def be32toh (v : BitVec 32) : BitVec 32 := htobe32 v

/-- `GdmPamExtensionMessage`, without its data. -/
structure GdmPamExtensionMessage where
  length : BitVec 32
  type : UInt8
  deriving DecidableEq, Repr

/-- `sizeof(GdmPamExtensionMessage)` -/
def GDM_PAM_EXTENSION_MESSAGE_SIZE : Nat := 8

/-- `GdmPamExtensionJSONProtocol`; the name is an array of 64 bytes. -/
structure GdmPamExtensionJSONProtocol where
  header : GdmPamExtensionMessage
  protocol_name : List UInt8
  version : Nat
  json : Option CString
  protocol_name_length : protocol_name.length = 64

/-- `GDM_PAM_EXTENSION_CUSTOM_JSON_SIZE`: eight bytes of the header, the name, the version with
its padding, and a pointer. -/
def GDM_PAM_EXTENSION_CUSTOM_JSON_SIZE : Nat := 88

/-- What `calloc` gives. -/
def GdmPamExtensionJSONProtocol.calloc : GdmPamExtensionJSONProtocol where
  header := { length := 0, type := 0 }
  protocol_name := List.replicate 64 0
  version := 0
  json := none
  protocol_name_length := List.length_replicate

/-- The name after its `memcpy` of at most 63 bytes and the NUL byte. -/
def protocolName (old : List UInt8) (proto_name : CString) : List UInt8 :=
  proto_name.take 63 ++ 0 :: old.drop ((proto_name.take 63).length + 1)

theorem protocolName_length {old : List UInt8} (h : old.length = 64) (proto_name : CString) :
    (protocolName old proto_name).length = 64 := by
  simp only [protocolName, List.length_append, List.length_take, List.length_cons,
    List.length_drop, h]
  omega

/-- `GDM_PAM_EXTENSION_CUSTOM_JSON_REQUEST_INIT` -/
def requestInit (env : Environ) (request : GdmPamExtensionJSONProtocol) (proto_name : CString)
    (proto_version : Nat) (json_str : CString) : GdmPamExtensionJSONProtocol where
  header :=
    { length := htobe32 (BitVec.ofNat 32 GDM_PAM_EXTENSION_CUSTOM_JSON_SIZE)
      type := ((lookUpType env GDM_PAM_EXTENSION_CUSTOM_JSON).map Nat.toUInt8).getD
        request.header.type }
  protocol_name := protocolName request.protocol_name proto_name
  version := proto_version
  json := some json_str
  protocol_name_length := protocolName_length request.protocol_name_length proto_name

/-- `authd_gdm_request_init` -/
def authdGdmRequestInit (env : Environ) (req : GdmPamExtensionJSONProtocol) (json : CString) :
    GdmPamExtensionJSONProtocol :=
  requestInit env req AUTHD_GDM_JSON_PROTO_NAME AUTHD_GDM_JSON_PROTO_VERSION json

/-- `authd_gdm_message_is_valid` -/
def authdGdmMessageIsValid (msg : GdmPamExtensionJSONProtocol) : Bool :=
  if msg.version ≠ AUTHD_GDM_JSON_PROTO_VERSION then false
  else strncmpEqual (cstr msg.protocol_name) AUTHD_GDM_JSON_PROTO_NAME 64

/-- `GDM_PAM_EXTENSION_MESSAGE_TRUNCATED` -/
def messageTruncated (msg : GdmPamExtensionMessage) : Bool :=
  (be32toh msg.length).toNat < GDM_PAM_EXTENSION_MESSAGE_SIZE

/-- `GDM_PAM_EXTENSION_MESSAGE_INVALID_TYPE` -/
def invalidType (env : Environ) (msg : GdmPamExtensionMessage) : Bool :=
  match getenv env GDM_SUPPORTED_PAM_EXTENSIONS with
  | none => true
  | some s => !decide ((msg.type.toNat : Int) ≤ invalidLoop (-1) s)

/-- `GDM_PAM_EXTENSION_MESSAGE_MATCH` -/
def messageMatch (msg : GdmPamExtensionMessage) (supported_extensions : List CString)
    (name : CString) : Bool :=
  supported_extensions[msg.type.toNat]? = some name

/-! ## What is written -/

/-- Names with one blank between them. -/
def joined : List CString → CString
  | [] => []
  | ext :: exts => ext ++ exts.flatMap (BLANK :: ·)

/-- The names that fit. -/
def shownExtensions (sizeof : Nat) (exts : List CString) : List CString :=
  exts.take (countChunks sizeof 0 GDM_SUPPORTED_PAM_EXTENSIONS.length exts)

/-- What names take up, each with a byte before it. -/
def chunksSize (exts : List CString) : Nat := (exts.map fun ext => ext.length + 1).sum

@[simp] theorem chunksSize_nil : chunksSize [] = 0 := rfl

@[simp] theorem chunksSize_cons (ext : CString) (exts : List CString) :
    chunksSize (ext :: exts) = ext.length + 1 + chunksSize exts := rfl

theorem length_flatMap_blank (exts : List CString) :
    (exts.flatMap (BLANK :: ·)).length = chunksSize exts := by
  induction exts with
  | nil => rfl
  | cons ext exts ih =>
    rw [List.flatMap_cons, List.length_append, ih, List.length_cons, chunksSize_cons]

theorem length_joined {exts : List CString} (h : exts ≠ []) :
    (joined exts).length + 1 = chunksSize exts := by
  cases exts with
  | nil => exact absurd rfl h
  | cons ext exts =>
    rw [joined, List.length_append, length_flatMap_blank, chunksSize_cons]
    omega

theorem countChunks_le (sizeof t size : Nat) (exts : List CString) :
    t ≤ countChunks sizeof t size exts ∧ countChunks sizeof t size exts ≤ t + exts.length := by
  induction exts generalizing t size with
  | nil => exact ⟨le_refl _, le_refl _⟩
  | cons ext exts ih =>
    have hnext := ih (t + 1) (size + (ext.length + 1))
    rw [countChunks, List.length_cons]
    split
    · split <;> omega
    · omega

/-- The loop goes on as long as there is room and a type left. -/
theorem le_countChunks_iff {sizeof t size : Nat} {exts : List CString} (hsize : size < sizeof)
    (ht : t ≤ UCHAR_MAX) {k : Nat} (hk : k ≤ exts.length) :
    t + k ≤ countChunks sizeof t size exts ↔
      t + k ≤ UCHAR_MAX ∧ size + chunksSize (exts.take k) < sizeof := by
  induction exts generalizing t size k with
  | nil =>
    obtain rfl : k = 0 := Nat.le_zero.mp hk
    simp [countChunks, ht, hsize]
  | cons ext exts ih =>
    cases k with
    | zero =>
      have hle := (countChunks_le sizeof t size (ext :: exts)).1
      simp [hle, ht, hsize]
    | succ k =>
      rw [List.take_succ_cons, chunksSize_cons, countChunks]
      by_cases htype : t < UCHAR_MAX
      · rw [if_pos htype]
        by_cases hroom : sizeof ≤ size + (ext.length + 1)
        · rw [if_pos hroom]
          constructor <;> intro h <;> omega
        · rw [if_neg hroom]
          have hnext := ih (by omega : size + (ext.length + 1) < sizeof) htype
            (Nat.le_of_succ_le_succ hk)
          rw [show t + (k + 1) = t + 1 + k by omega, hnext]
          constructor <;> rintro ⟨hmax, hlt⟩ <;> exact ⟨hmax, by omega⟩
      · rw [if_neg htype]
        constructor <;> intro h <;> omega

/-- The names that fit are the longest start of the list with at most 255 names, and with room for
the variable, a byte before each name and the NUL byte. -/
theorem shownExtensions_le_iff {sizeof : Nat} {exts : List CString}
    (h : GDM_SUPPORTED_PAM_EXTENSIONS.length < sizeof) {k : Nat} (hk : k ≤ exts.length) :
    k ≤ (shownExtensions sizeof exts).length ↔
      k ≤ UCHAR_MAX ∧
        GDM_SUPPORTED_PAM_EXTENSIONS.length + chunksSize (exts.take k) < sizeof := by
  have hcount := le_countChunks_iff h (Nat.zero_le UCHAR_MAX) hk
  rw [Nat.zero_add] at hcount
  rw [shownExtensions, List.length_take, ← hcount, Nat.le_min]
  exact ⟨fun hle => hle.1, fun hle => ⟨hle, hk⟩⟩

theorem chunksSize_shown {sizeof : Nat} (exts : List CString)
    (h : GDM_SUPPORTED_PAM_EXTENSIONS.length < sizeof) :
    GDM_SUPPORTED_PAM_EXTENSIONS.length + chunksSize (shownExtensions sizeof exts) < sizeof := by
  have hle : (shownExtensions sizeof exts).length ≤ exts.length := by
    rw [shownExtensions, List.length_take]
    exact Nat.min_le_right _ _
  have hroom := ((shownExtensions_le_iff h hle).mp (le_refl _)).2
  rwa [shownExtensions, List.length_take, List.take_eq_take_min.symm] at hroom

theorem shownExtensions_le_max {sizeof : Nat} (exts : List CString)
    (h : GDM_SUPPORTED_PAM_EXTENSIONS.length < sizeof) :
    (shownExtensions sizeof exts).length ≤ UCHAR_MAX := by
  have hle : (shownExtensions sizeof exts).length ≤ exts.length := by
    rw [shownExtensions, List.length_take]
    exact Nat.min_le_right _ _
  exact ((shownExtensions_le_iff h hle).mp (le_refl _)).1

theorem stpcpy_room (u r : List UInt8) (s : CString) (h : s.length < r.length) :
    ∃ r', stpcpy (u ++ r) u.length s = .ok (u ++ s ++ r', (u ++ s).length) ∧
      r'.length + s.length = r.length := by
  have hroom := CBlock.strcpy_room u s (r.take (s.length + 1)) (r.drop (s.length + 1))
    (by rw [List.length_take]; omega)
  rw [List.append_assoc, List.take_append_drop] at hroom
  refine ⟨0 :: r.drop (s.length + 1), ?_, ?_⟩
  · rw [stpcpy, hroom, CBlock.ok_bind, List.length_append]
    rfl
  · rw [List.length_cons, List.length_drop]
    omega

theorem appendChunks_succ (exts : List CString) (t : Nat) (u r : List UInt8)
    (h : chunksSize exts < r.length) :
    ∃ r', appendChunks (t + 1) (u ++ r) u.length exts =
        .ok (u ++ exts.flatMap (BLANK :: ·) ++ r', (u ++ exts.flatMap (BLANK :: ·)).length) ∧
      r'.length + chunksSize exts = r.length := by
  induction exts generalizing t u r with
  | nil => exact ⟨r, by simp [appendChunks, pure, Except.pure], by simp⟩
  | cons ext exts ih =>
    rw [chunksSize_cons] at h
    obtain ⟨r1, hblank, hr1⟩ := stpcpy_room u r [BLANK] (by rw [List.length_singleton]; omega)
    rw [List.length_singleton] at hr1
    obtain ⟨r2, hname, hr2⟩ := stpcpy_room (u ++ [BLANK]) r1 ext (by omega)
    obtain ⟨r3, hrest, hr3⟩ := ih (t + 1) (u ++ [BLANK] ++ ext) r2 (by omega)
    refine ⟨r3, ?_, by rw [chunksSize_cons]; omega⟩
    rw [appendChunks, if_pos (Nat.succ_ne_zero t), hblank, CBlock.ok_bind]
    simp only [hname, CBlock.ok_bind, hrest]
    simp

/-- The second loop writes the names behind what is there. -/
theorem appendChunks_joined {exts : List CString} (hexts : exts ≠ []) (u r : List UInt8)
    (h : chunksSize exts ≤ r.length) :
    ∃ r', appendChunks 0 (u ++ r) u.length exts =
        .ok (u ++ joined exts ++ r', (u ++ joined exts).length) ∧
      r'.length + (joined exts).length = r.length := by
  cases exts with
  | nil => exact absurd rfl hexts
  | cons ext exts =>
    rw [chunksSize_cons] at h
    obtain ⟨r1, hname, hr1⟩ := stpcpy_room u r ext (by omega)
    obtain ⟨r2, hrest, hr2⟩ := appendChunks_succ exts 0 (u ++ ext) r1 (by omega)
    refine ⟨r2, ?_, ?_⟩
    · rw [appendChunks, if_neg (by simp)]
      simp only [pure, Except.pure, CBlock.ok_bind, hname]
      rw [hrest, joined, List.append_assoc u ext]
    · rw [joined, List.length_append, length_flatMap_blank]
      omega

theorem store_end (u r : List UInt8) (h : r ≠ []) :
    CBlock.store (u ++ r) u.length 0 = .ok (u ++ 0 :: r.tail) := by
  cases r with
  | nil => exact absurd rfl h
  | cons c r => exact CBlock.store_mid u r c 0

theorem stpncpy_room {block : List UInt8} {s : CString} (h : s.length < block.length) :
    stpncpy block s = (s ++ List.replicate (block.length - s.length) 0, s.length) := by
  rw [stpncpy, List.take_of_length_le h.le, Nat.min_eq_left h.le]

theorem zero_notMem_variable : 0 ∉ GDM_SUPPORTED_PAM_EXTENSIONS := by decide

theorem zero_notMem_joined {exts : List CString} (h : ∀ ext ∈ exts, 0 ∉ ext) :
    0 ∉ joined exts := by
  cases exts with
  | nil => exact List.not_mem_nil
  | cons ext exts =>
    rw [joined, List.mem_append, List.mem_flatMap]
    rintro (hmem | ⟨e, he, hmem⟩)
    · exact h ext List.mem_cons_self hmem
    · rcases List.mem_cons.mp hmem with hblank | hmem
      · exact absurd hblank (by decide)
      · exact h e (List.mem_cons_of_mem _ he) hmem

/-- The macro stays inside a block that holds more than the variable's name, and the environment
gets the names that fit. -/
theorem advertise_spec {block : List UInt8} {exts : List CString} (env : Environ)
    (hblock : GDM_SUPPORTED_PAM_EXTENSIONS.length < block.length)
    (hexts : ∀ ext ∈ exts, 0 ∉ ext) :
    ∃ block', block'.length = block.length ∧
      advertiseSupportedExtensions block exts env = .ok (block',
        if shownExtensions block.length exts = [] then env
        else putenv env (GDM_SUPPORTED_PAM_EXTENSIONS ++
          EQUALS :: joined (shownExtensions block.length exts))) := by
  obtain ⟨n, hn⟩ := Nat.exists_eq_add_of_lt hblock
  have hspare : List.replicate (block.length - GDM_SUPPORTED_PAM_EXTENSIONS.length) (0 : UInt8) =
      0 :: List.replicate n 0 := by
    rw [hn, show GDM_SUPPORTED_PAM_EXTENSIONS.length + n + 1 -
      GDM_SUPPORTED_PAM_EXTENSIONS.length = n + 1 by omega, List.replicate_succ]
  have hname : stpncpy block GDM_SUPPORTED_PAM_EXTENSIONS =
      (GDM_SUPPORTED_PAM_EXTENSIONS ++ 0 :: List.replicate n 0,
        GDM_SUPPORTED_PAM_EXTENSIONS.length) := by
    rw [stpncpy_room hblock, hspare]
  have hlength : (GDM_SUPPORTED_PAM_EXTENSIONS ++ (0 : UInt8) :: List.replicate n 0).length =
      block.length := by
    rw [List.length_append, List.length_cons, List.length_replicate, hn]
    rfl
  rw [advertiseSupportedExtensions, hname]
  simp only [CBlock.store_mid, CBlock.ok_bind, CBlock.string_stored zero_notMem_variable, hlength]
  by_cases hnone : countChunks block.length 0 GDM_SUPPORTED_PAM_EXTENSIONS.length exts = 0
  · have hnil : shownExtensions block.length exts = [] := by rw [shownExtensions, hnone]; rfl
    refine ⟨_, hlength, ?_⟩
    rw [if_neg (by simpa using hnone), if_pos hnil]
    rfl
  · have hshown : shownExtensions block.length exts ≠ [] := by
      have hle := (countChunks_le block.length 0 GDM_SUPPORTED_PAM_EXTENSIONS.length exts).2
      rw [← List.length_pos_iff, shownExtensions, List.length_take]
      omega
    have hroom := chunksSize_shown exts hblock
    have hsize := length_joined hshown
    rw [if_pos hnone, if_neg hshown, ← shownExtensions]
    obtain ⟨r1, hequals, hr1⟩ := stpcpy_room GDM_SUPPORTED_PAM_EXTENSIONS
      (0 :: List.replicate n 0) [EQUALS] (by simp; omega)
    simp only [List.length_cons, List.length_nil, List.length_replicate] at hr1
    obtain ⟨r2, hnames, hr2⟩ := appendChunks_joined hshown
      (GDM_SUPPORTED_PAM_EXTENSIONS ++ [EQUALS]) r1 (by omega)
    have hr2ne : r2 ≠ [] := by
      rw [← List.length_pos_iff]
      omega
    have hclean : 0 ∉ GDM_SUPPORTED_PAM_EXTENSIONS ++ [EQUALS] ++
        joined (shownExtensions block.length exts) := by
      rw [List.mem_append, List.mem_append, List.mem_singleton]
      rintro ((hmem | hmem) | hmem)
      · exact zero_notMem_variable hmem
      · exact absurd hmem (by decide)
      · exact zero_notMem_joined (fun e he => hexts e (List.mem_of_mem_take he)) hmem
    refine ⟨GDM_SUPPORTED_PAM_EXTENSIONS ++ [EQUALS] ++
      joined (shownExtensions block.length exts) ++ 0 :: r2.tail, ?_, ?_⟩
    · simp only [List.length_append, List.length_cons, List.length_nil, List.length_tail]
      omega
    · rw [hequals, CBlock.ok_bind]
      simp only [hnames, CBlock.ok_bind, store_end _ _ hr2ne, CBlock.string_stored hclean]
      rw [List.append_assoc GDM_SUPPORTED_PAM_EXTENSIONS [EQUALS] (joined _),
        List.singleton_append]
      rfl

/-! ## What is found -/

/-- A name as the variable can hold it. -/
def Advertisable (ext : CString) : Prop := ext ≠ [] ∧ BLANK ∉ ext ∧ 0 ∉ ext

theorem takeWhile_joined {ext : CString} (h : BLANK ∉ ext) (exts : List CString) :
    (joined (ext :: exts)).takeWhile (· ≠ BLANK) = ext := by
  have hpos : ∀ c ∈ ext, decide (c ≠ BLANK) = true := fun c hc => by
    rw [decide_eq_true_iff]
    rintro rfl
    exact h hc
  rw [joined, List.takeWhile_append_of_pos hpos]
  cases exts with
  | nil => simp
  | cons e exts => simp

theorem skipName_joined {ext : CString} {exts : List CString} (h : BLANK ∉ ext)
    (hexts : ∀ e ∈ exts, Advertisable e) : skipName (joined (ext :: exts)) = joined exts := by
  have hdrop : (joined (ext :: exts)).drop (strcspnBlank (joined (ext :: exts))) =
      exts.flatMap (BLANK :: ·) := by
    rw [strcspnBlank, takeWhile_joined h, joined]
    exact List.drop_left' rfl
  rw [skipName, hdrop]
  cases exts with
  | nil => rfl
  | cons e exts =>
    rw [List.flatMap_cons, List.cons_append, List.dropWhile_cons_of_pos (by simp), joined]
    have hname := hexts e List.mem_cons_self
    cases e with
    | nil => exact absurd rfl hname.1
    | cons c e =>
      have hc : c ≠ BLANK := fun heq => hname.2.1 (heq ▸ List.mem_cons_self)
      rw [List.cons_append, List.dropWhile_cons_of_neg (by simpa using hc)]

theorem strncmpEqual_joined {ext : CString} (h : BLANK ∉ ext) (exts : List CString)
    (name : CString) :
    strncmpEqual (joined (ext :: exts)) name (strcspnBlank (joined (ext :: exts))) =
      decide (ext <+: name) := by
  have htake : (joined (ext :: exts)).take ext.length = ext := by
    rw [joined]
    exact List.take_left' rfl
  rw [strncmpEqual, strcspnBlank, takeWhile_joined h, htake, decide_eq_decide,
    List.prefix_iff_eq_take]

theorem joined_ne_nil {ext : CString} (h : ext ≠ []) (exts : List CString) :
    joined (ext :: exts) ≠ [] := by
  rw [joined]
  exact List.append_ne_nil_of_left_ne_nil h _

/-- The first name that `name` begins with is found. -/
theorem lookUpLoop_joined {exts : List CString} (hexts : ∀ e ∈ exts, Advertisable e)
    (name : CString) (t : Nat) (ht : t + exts.length ≤ UCHAR_MAX) :
    lookUpLoop name t (joined exts) =
      (exts.findIdx? fun e => decide (e <+: name)).map (t + ·) := by
  induction exts generalizing t with
  | nil => rw [lookUpLoop]; rfl
  | cons ext exts ih =>
    have hext := hexts ext List.mem_cons_self
    have hrest : ∀ e ∈ exts, Advertisable e := fun e he => hexts e (List.mem_cons_of_mem _ he)
    rw [List.length_cons] at ht
    rw [lookUpLoop, dif_neg (joined_ne_nil hext.1 exts), strncmpEqual_joined hext.2.1,
      skipName_joined hext.2.1 hrest, if_neg (by omega : ¬ UCHAR_MAX ≤ t), List.findIdx?_cons]
    by_cases hfound : ext <+: name
    · simp [hfound]
    · rw [ih hrest (t + 1) (by omega)]
      simp only [hfound, decide_false, Bool.false_eq_true, if_false, Option.map_map]
      congr 1
      funext i
      simp only [Function.comp_apply]
      omega

theorem invalidLoop_joined {exts : List CString} (hexts : ∀ e ∈ exts, Advertisable e) (n : Int)
    (hn : n + exts.length < UCHAR_MAX) : invalidLoop n (joined exts) = n + exts.length := by
  induction exts generalizing n with
  | nil => rw [invalidLoop]; simp [joined]
  | cons ext exts ih =>
    have hext := hexts ext List.mem_cons_self
    have hrest : ∀ e ∈ exts, Advertisable e := fun e he => hexts e (List.mem_cons_of_mem _ he)
    have hpos : 0 < strcspnBlank (joined (ext :: exts)) := by
      rw [strcspnBlank, takeWhile_joined hext.2.1]
      exact List.length_pos_iff.mpr hext.1
    rw [List.length_cons] at hn ⊢
    rw [invalidLoop, dif_neg (joined_ne_nil hext.1 exts), if_pos (by omega), if_pos hpos,
      skipName_joined hext.2.1 hrest, ih hrest (n + 1) (by omega)]
    omega

/-- What a process finds in its environment when these names are in the variable. -/
structure Advertised (shown : List CString) (env : Environ) : Prop where
  /-- A name has the place of the first one that it begins with. -/
  lookUp : ∀ name, lookUpType env name = shown.findIdx? fun e => decide (e <+: name)
  invalid : ∀ msg, invalidType env msg = decide (shown.length ≤ msg.type.toNat)

theorem advertised_putenv {shown : List CString} (env : Environ)
    (hshown : ∀ e ∈ shown, Advertisable e) (hmax : shown.length ≤ UCHAR_MAX) :
    Advertised shown (putenv env (GDM_SUPPORTED_PAM_EXTENSIONS ++ EQUALS :: joined shown)) where
  lookUp name := by
    rw [lookUpType, getenv_putenv, Option.bind_some, lookUpLoop_joined hshown name 0 (by omega)]
    simp
  invalid msg := by
    have hloop := invalidLoop_joined hshown (-1) (by omega)
    rw [invalidType, getenv_putenv]
    simp only [hloop, ← decide_not, decide_eq_decide]
    omega

/-! ## Messages between the two -/

theorem cstr_protocolName {proto_name : CString} (h : 0 ∉ proto_name) (old : List UInt8) :
    cstr (protocolName old proto_name) = proto_name.take 63 := by
  have hpos : ∀ c ∈ proto_name.take 63, decide (c ≠ 0) = true := fun c hc => by
    rw [decide_eq_true_iff]
    rintro rfl
    exact h (List.mem_of_mem_take hc)
  rw [cstr, protocolName, List.takeWhile_append_of_pos hpos]
  simp

/-- A name that was cut at 63 bytes is not the one of authd. -/
theorem take_eq_authd_iff (proto_name : CString) :
    proto_name.take 63 = AUTHD_GDM_JSON_PROTO_NAME ↔ proto_name = AUTHD_GDM_JSON_PROTO_NAME := by
  have hauthd : AUTHD_GDM_JSON_PROTO_NAME.length = 20 := by decide
  constructor
  · intro h
    have hlength := congrArg List.length h
    rw [List.length_take, hauthd] at hlength
    rwa [List.take_of_length_le (by omega)] at h
  · rintro rfl
    rfl

theorem requestInit_valid_iff {env : Environ} {request : GdmPamExtensionJSONProtocol}
    {proto_name json_str : CString} {proto_version : Nat} (h : 0 ∉ proto_name) :
    authdGdmMessageIsValid (requestInit env request proto_name proto_version json_str) = true ↔
      proto_version = AUTHD_GDM_JSON_PROTO_VERSION ∧ proto_name = AUTHD_GDM_JSON_PROTO_NAME := by
  have hauthd : AUTHD_GDM_JSON_PROTO_NAME.take 64 = AUTHD_GDM_JSON_PROTO_NAME := rfl
  have hcut : (proto_name.take 63).take 64 = proto_name.take 63 := by
    rw [List.take_take]
    rfl
  rw [authdGdmMessageIsValid, ← take_eq_authd_iff proto_name]
  by_cases hversion : proto_version = AUTHD_GDM_JSON_PROTO_VERSION
  · simp [requestInit, hversion, strncmpEqual, cstr_protocolName h, hcut, hauthd]
  · simp [requestInit, hversion]

theorem requestInit_not_truncated (env : Environ) (request : GdmPamExtensionJSONProtocol)
    (proto_name : CString) (proto_version : Nat) (json_str : CString) :
    messageTruncated (requestInit env request proto_name proto_version json_str).header =
      false := by
  have hsize : ¬ (be32toh (htobe32 (BitVec.ofNat 32 GDM_PAM_EXTENSION_CUSTOM_JSON_SIZE))).toNat <
      GDM_PAM_EXTENSION_MESSAGE_SIZE := by decide
  rw [messageTruncated, requestInit, decide_eq_false_iff_not]
  exact hsize

/-- The name's own place, where it begins with no other name. -/
theorem findIdx?_self {shown : List CString} {name : CString} (hmem : name ∈ shown)
    (hother : ∀ e ∈ shown, e <+: name → e = name) :
    ∃ i, i < shown.length ∧ shown[i]? = some name ∧
      (shown.findIdx? fun e => decide (e <+: name)) = some i := by
  cases hfind : shown.findIdx? fun e => decide (e <+: name) with
  | none =>
    rw [List.findIdx?_eq_none_iff] at hfind
    exact absurd (hfind name hmem) (by simp)
  | some i =>
    obtain ⟨hi, hbegins, -⟩ := List.findIdx?_eq_some_iff_getElem.mp hfind
    have hname := hother _ (List.getElem_mem hi) (by simpa using hbegins)
    exact ⟨i, hi, by rw [List.getElem?_eq_getElem hi, hname], rfl⟩

theorem toNat_toUInt8 {i : Nat} (h : i ≤ UCHAR_MAX) : i.toUInt8.toNat = i :=
  Nat.mod_eq_of_lt (by rw [UCHAR_MAX] at h; omega)

/-- A message initialised where the extension is advertised passes the checks of its header. -/
theorem requestInit_accepted {shown exts : List CString} {env : Environ}
    (h : Advertised shown env) (hbegins : shown <+: exts) (hmax : shown.length ≤ UCHAR_MAX)
    (hmem : GDM_PAM_EXTENSION_CUSTOM_JSON ∈ shown)
    (hother : ∀ e ∈ shown, e <+: GDM_PAM_EXTENSION_CUSTOM_JSON → e = GDM_PAM_EXTENSION_CUSTOM_JSON)
    (request : GdmPamExtensionJSONProtocol) (proto_name : CString) (proto_version : Nat)
    (json_str : CString) :
    invalidType env (requestInit env request proto_name proto_version json_str).header = false ∧
      messageMatch (requestInit env request proto_name proto_version json_str).header exts
        GDM_PAM_EXTENSION_CUSTOM_JSON = true := by
  obtain ⟨i, hi, hentry, hfind⟩ := findIdx?_self hmem hother
  have htype :
      (requestInit env request proto_name proto_version json_str).header.type.toNat = i := by
    rw [requestInit, h.lookUp, hfind]
    exact toNat_toUInt8 (by omega)
  have hext : exts[i]? = some GDM_PAM_EXTENSION_CUSTOM_JSON := by
    obtain ⟨rest, rfl⟩ := hbegins
    rw [List.getElem?_append_left hi, hentry]
  constructor
  · rw [h.invalid, htype, decide_eq_false_iff_not]
    omega
  · rw [messageMatch, htype, hext, decide_eq_true_iff]

/-- Advertising into a static block of more than the variable's name never leaves the block.  The
names that do not fit are left out from the first one on; for the others, a process finds the
place of the first name that the one it looks up begins with, and exactly the types below their
number are valid.  A message that it then initialises passes the checks of the other side for the
length, the type and the extension, and is one of authd exactly when its name and version are. -/
theorem extension_replies {block : List UInt8} {exts : List CString} {env : Environ}
    (hblock : GDM_SUPPORTED_PAM_EXTENSIONS.length < block.length)
    (hexts : ∀ ext ∈ exts, Advertisable ext) :
    ∃ block' env' shown, advertiseSupportedExtensions block exts env = .ok (block', env') ∧
      block'.length = block.length ∧ shown <+: exts ∧
      (∀ k ≤ exts.length, k ≤ shown.length ↔ k ≤ UCHAR_MAX ∧
        GDM_SUPPORTED_PAM_EXTENSIONS.length + chunksSize (exts.take k) < block.length) ∧
      (shown = [] → env' = env) ∧ (shown ≠ [] → Advertised shown env') ∧
      (GDM_PAM_EXTENSION_CUSTOM_JSON ∈ shown →
        (∀ e ∈ shown, e <+: GDM_PAM_EXTENSION_CUSTOM_JSON → e = GDM_PAM_EXTENSION_CUSTOM_JSON) →
        ∀ request proto_name proto_version json_str, 0 ∉ proto_name →
          let msg := requestInit env' request proto_name proto_version json_str
          messageTruncated msg.header = false ∧ invalidType env' msg.header = false ∧
            messageMatch msg.header exts GDM_PAM_EXTENSION_CUSTOM_JSON = true ∧
            (authdGdmMessageIsValid msg = true ↔
              proto_version = AUTHD_GDM_JSON_PROTO_VERSION ∧
                proto_name = AUTHD_GDM_JSON_PROTO_NAME)) := by
  obtain ⟨block', hlength, hrun⟩ := advertise_spec env hblock fun e he => (hexts e he).2.2
  have hbegins : shownExtensions block.length exts <+: exts := List.take_prefix _ _
  have hmax := shownExtensions_le_max exts hblock
  have hadvertised : shownExtensions block.length exts ≠ [] →
      Advertised (shownExtensions block.length exts)
        (if shownExtensions block.length exts = [] then env
          else putenv env (GDM_SUPPORTED_PAM_EXTENSIONS ++
            EQUALS :: joined (shownExtensions block.length exts))) := fun hne => by
    rw [if_neg hne]
    exact advertised_putenv env (fun e he => hexts e (hbegins.subset he)) hmax
  refine ⟨block', _, _, hrun, hlength, hbegins, fun k hk => shownExtensions_le_iff hblock hk,
    fun hnil => if_pos hnil, hadvertised, ?_⟩
  intro hmem hother request proto_name proto_version json_str hname
  have haccepted := requestInit_accepted (hadvertised (List.ne_nil_of_mem hmem)) hbegins hmax hmem
    hother request proto_name proto_version json_str
  exact ⟨requestInit_not_truncated _ _ _ _ _, haccepted.1, haccepted.2,
    requestInit_valid_iff hname⟩

/-- The call of the child with its block of 4096 bytes: each of its replies passes the checks. -/
theorem extension_replies_authd :
    ∃ block' env', authdGdmAdvertiseExtensions (List.replicate 4096 0) [] = .ok (block', env') ∧
      ∀ json, authdGdmMessageIsValid
          (authdGdmRequestInit env' GdmPamExtensionJSONProtocol.calloc json) = true ∧
        invalidType env'
          (authdGdmRequestInit env' GdmPamExtensionJSONProtocol.calloc json).header = false := by
  obtain ⟨block', env', shown, hrun, -, hbegins, hfit, -, -, hreply⟩ :=
    @extension_replies (List.replicate 4096 0) [GDM_PAM_EXTENSION_CUSTOM_JSON] []
      (by rw [List.length_replicate]; decide)
      (by intro e he; obtain rfl := List.mem_singleton.mp he
          exact ⟨by decide, by decide, by decide⟩)
  have hone : 1 ≤ shown.length :=
    (hfit 1 (le_refl _)).mpr (by rw [List.length_replicate]; exact ⟨by decide, by decide⟩)
  obtain rfl : shown = [GDM_PAM_EXTENSION_CUSTOM_JSON] := hbegins.eq_of_length_le hone
  refine ⟨block', env', hrun, fun json => ?_⟩
  have hmsg := hreply List.mem_cons_self (fun e he _ => List.mem_singleton.mp he)
    GdmPamExtensionJSONProtocol.calloc AUTHD_GDM_JSON_PROTO_NAME AUTHD_GDM_JSON_PROTO_VERSION json
    (by decide)
  exact ⟨hmsg.2.2.2.mpr ⟨rfl, rfl⟩, hmsg.2.1⟩

end SwaylockAuthd
