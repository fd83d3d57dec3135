import SwaylockAuthd.Attempts
import SwaylockAuthd.Dialogue
import SwaylockAuthd.Lib.Separation

/-!
# `comm_in`: who owns the strings

What the child says is kept in strings, arrays and records that `comm_in` allocates, replaces and
frees, on paths that end early when an allocation fails.  Here the messages are processed over a
heap: a program has no result when it frees a block twice or follows a pointer to a freed one.

* `AuthdPointers`: the pointers of `struct swaylock_state`.
* `commInBlocks`: the switch of `comm_in`, with every `malloc` and `free`.
* `Owns s p`: the pointers `p` hold the strings of the state `s`, and nothing else is allocated.
* `owns_commInFrame`: the switch takes `Owns` to `Owns`; its strings are those of `commInFrame`.
* `strings_owned`: so it is in every run.
-/

namespace SwaylockAuthd

open Transition Separation

/-! ## The program -/

/-- `struct authd_broker` and `struct authd_auth_mode`: `text` is the name or the label. -/
structure EntryPointers where
  id : Option Nat := none
  text : Option Nat := none
  deriving DecidableEq, Repr

/-- What a block holds. -/
inductive Block
  | payload (bytes : List UInt8)
  | json (j : Json)
  | entries (l : List EntryPointers)
  | string (s : CString)

/-- `struct authd_ui_layout`. -/
structure LayoutPointers where
  type : Option Nat := none
  label : Option Nat := none
  button : Option Nat := none
  entry : Option Nat := none
  wait : Bool := false
  qrContent : Option Nat := none
  qrCode : Option Nat := none
  deriving DecidableEq, Repr

/-- The pointers of `struct swaylock_state` to what authd has said. -/
structure AuthdPointers where
  brokers : Option Nat := none
  numBrokers : Nat := 0
  authModes : Option Nat := none
  numAuthModes : Nat := 0
  layout : LayoutPointers := {}
  error : Option Nat := none
  deriving DecidableEq, Repr

abbrev BlockM (β : Type) := HeapM Block β

/-- Read a cJSON item. -/
def loadJson (a : Nat) : BlockM Json := do
  match ← load a with
  | .json j => pure j
  | _ => failure

/-- Follow a pointer to an array of entries. -/
def loadEntries : Option Nat → BlockM (List EntryPointers)
  | none => failure
  | some a => do
    match ← load a with
    | .entries l => pure l
    | _ => failure

/-- The loop of `authd_brokers_free` and `authd_auth_modes_free`. -/
def freeEntries (list : Option Nat) : Nat → Nat → BlockM Unit
  | _, 0 => pure ()
  | i, n + 1 => do
    let l ← loadEntries list
    match l[i]? with
    | none => failure
    | some e =>
      free e.id
      free e.text
      freeEntries list (i + 1) n

/-- `authd_brokers_free` and `authd_auth_modes_free`. -/
def authdListFree (list : Option Nat) (count : Nat) : BlockM Unit := do
  freeEntries list 0 count
  free list

def authdBrokersFree (brokers : Option Nat) (count : Nat) : BlockM Unit :=
  authdListFree brokers count

def authdAuthModesFree (modes : Option Nat) (count : Nat) : BlockM Unit :=
  authdListFree modes count

/-- `authd_ui_layout_clear`. -/
def authdUiLayoutClear (layout : LayoutPointers) : BlockM LayoutPointers := do
  free layout.type
  free layout.label
  free layout.button
  free layout.entry
  free layout.qrContent
  free layout.qrCode
  pure {}

variable (parse : CString → Option Json)

/-- `cJSON_Parse`. -/
def parseBlock (env : Env) (payload : Option Nat) : BlockM (Option Nat) := do
  match payload with
  | none => pure none
  | some a =>
    match ← load a with
    | .payload b =>
      match parse (cstr b) with
      | some j => malloc env.json (.json j)
      | none => pure none
    | _ => failure

/-- `strdup`. -/
def strdup (env : Env) (n : Nat) (v : List UInt8) : BlockM (Option Nat) :=
  malloc (env.string n) (.string (cstr v))

/-- A member of an entry, for the entry `i` of the array. -/
def strdupEntry (env : Env) (n : Nat) (root i : Nat) (name : String) : BlockM (Option Nat) := do
  let j ← loadJson root
  match j.children[i]? with
  | none => failure
  | some item =>
    match item.stringItem name with
    | some v => strdup env n v
    | none => pure none

/-- Write a member of the entry `i`, which must be there. -/
def storeEntry (list i : Nat) (g : EntryPointers → EntryPointers) : BlockM Unit := do
  let l ← loadEntries (some list)
  match l[i]? with
  | none => failure
  | some e => Separation.store list (.entries (l.set i (g e)))

/-- The loop over the items: `id` and the text of each. -/
def fillEntries (env : Env) (name : String) (root list : Nat) : Nat → Nat → BlockM Unit
  | _, 0 => pure ()
  | i, n + 1 => do
    let id ← strdupEntry env (2 * i) root i "id"
    storeEntry list i fun e => { e with id }
    let text ← strdupEntry env (2 * i + 1) root i name
    storeEntry list i fun e => { e with text }
    fillEntries env name root list (i + 1) n

/-- The new list of a BROKERS or an AUTH_MODES message. -/
def receiveList (env : Env) (name : String) (payload : Option Nat) :
    BlockM (Option Nat × Nat) := do
  match ← parseBlock parse env payload with
  | none => pure (none, 0)
  | some root =>
    match ← loadJson root with
    | .array items =>
      let n := min items.length authdListMax
      match ← malloc env.array (.entries (List.replicate n {})) with
      | none =>
        free (some root)
        pure (none, 0)
      | some list =>
        fillEntries env name root list 0 n
        free (some root)
        pure (some list, n)
    | _ =>
      free (some root)
      pure (none, 0)

/-- A string of the layout. -/
def strdupMember (env : Env) (n root : Nat) (name : String) : BlockM (Option Nat) := do
  let j ← loadJson root
  match j.stringItem name with
  | some v => strdup env n v
  | none => pure none

/-- `COMM_MSG_UI_LAYOUT`. -/
def receiveLayout (env : Env) (payload : Option Nat) : BlockM LayoutPointers := do
  match ← parseBlock parse env payload with
  | none => pure {}
  | some root =>
    let type ← strdupMember env 0 root "type"
    let label ← strdupMember env 1 root "label"
    let button ← strdupMember env 2 root "button"
    let entry ← strdupMember env 3 root "entry"
    let j ← loadJson root
    let wait : Bool := (j.stringItem "wait").map cstr = some (ascii "true")
    let qrContent ← strdupMember env 4 root "content"
    let qrCode ← strdupMember env 5 root "code"
    free (some root)
    pure { type, label, button, entry, wait, qrContent, qrCode }

/-- `COMM_MSG_AUTH_EVENT`. -/
def receiveError (env : Env) (payload : Option Nat) : BlockM (Option Nat) := do
  match ← parseBlock parse env payload with
  | none => pure none
  | some root =>
    let msg ← strdupMember env 0 root "msg"
    free (some root)
    pure msg

/-- The switch of `comm_in`. -/
def receive (env : Env) (p : AuthdPointers) (type : UInt8) (payload : Option Nat) :
    BlockM AuthdPointers :=
  if type = COMM_MSG_BROKERS then do
    authdBrokersFree p.brokers p.numBrokers
    let (brokers, numBrokers) ← receiveList parse env "name" payload
    pure { p with brokers, numBrokers }
  else if type = COMM_MSG_AUTH_MODES then do
    authdAuthModesFree p.authModes p.numAuthModes
    let (authModes, numAuthModes) ← receiveList parse env "label" payload
    pure { p with authModes, numAuthModes }
  else if type = COMM_MSG_UI_LAYOUT then do
    let _ ← authdUiLayoutClear p.layout
    free p.error
    let layout ← receiveLayout parse env payload
    pure { p with layout, error := none }
  else if type = COMM_MSG_AUTH_EVENT then do
    free p.error
    let error ← receiveError parse env payload
    pure { p with error }
  else pure p

/-- `comm_in` behind the read: the payload is a block of its own. -/
def commInBlocks (env : Env) (f : Frame) (p : AuthdPointers) : BlockM AuthdPointers := do
  match f.buffer with
  | none => receive parse env p f.type none
  | some b =>
    match ← malloc true (.payload b) with
    | none => failure
    | some a =>
      let q ← receive parse env p f.type (some a)
      free (some a)
      pure q

/-! ## What the pointers hold -/

/-- The pointer holds the string. -/
def StringAt (p : Option Nat) (v : Option CString) : Assn Block := at? p (v.map .string)

/-- The pointer holds the payload of a frame. -/
def PayloadAt (p : Option Nat) (b : Option (List UInt8)) : Assn Block := at? p (b.map .payload)

/-- The pointer holds a cJSON value. -/
def JsonAt (p : Option Nat) (j : Option Json) : Assn Block := at? p (j.map .json)

/-- The pointers of the entries hold their strings. -/
def EntriesAt : List EntryPointers → List (Option CString × Option CString) → Assn Block
  | [], [] => emp
  | e :: es, v :: vs => star (StringAt e.id v.1) (star (StringAt e.text v.2) (EntriesAt es vs))
  | _, _ => lift False

/-- The pointer holds an array of `n` entries. -/
def ListAt (p : Option Nat) (n : Nat) (v : Option (List (Option CString × Option CString))) :
    Assn Block :=
  match p, v with
  | none, none => lift (n = 0)
  | some a, some vs =>
    star (lift (n = vs.length)) (ex fun es => star (pointsTo a (.entries es)) (EntriesAt es vs))
  | _, _ => lift False

/-- The pointers of a layout hold its strings. -/
def LayoutAt (p : LayoutPointers) (v : AuthdUiLayout) : Assn Block :=
  star (lift (p.wait = v.wait)) (star (StringAt p.type v.type) (star (StringAt p.label v.label)
    (star (StringAt p.button v.button) (star (StringAt p.entry v.entry)
      (star (StringAt p.qrContent v.qrContent) (StringAt p.qrCode v.qrCode))))))

/-- The strings of the brokers. -/
def brokerStrings (s : SwaylockState) : Option (List (Option CString × Option CString)) :=
  s.authdBrokers.map fun l => l.map fun b => (b.id, b.name)

/-- The strings of the authentication modes. -/
def authModeStrings (s : SwaylockState) : Option (List (Option CString × Option CString)) :=
  s.authdAuthModes.map fun l => l.map fun m => (m.id, m.label)

/-- **The pointers hold the strings of the state**, each in a block of its own. -/
def Owns (s : SwaylockState) (p : AuthdPointers) : Assn Block :=
  star (ListAt p.brokers p.numBrokers (brokerStrings s))
    (star (ListAt p.authModes p.numAuthModes (authModeStrings s))
      (star (LayoutAt p.layout s.authdLayout) (StringAt p.error s.authdError)))

/-- What the pointers hold. -/
def authdStrings (s : SwaylockState) :=
  (s.authdBrokers, s.authdAuthModes, s.authdLayout, s.authdError)

theorem owns_congr {s t : SwaylockState} (h : authdStrings t = authdStrings s) :
    Owns t = Owns s := by
  obtain ⟨hb, hm, hl, he⟩ := by simpa [authdStrings] using h
  funext p
  simp only [Owns, brokerStrings, authModeStrings, hb, hm, hl, he]

/-! ## Reading -/

section Reading

variable {β : Type} {R S : Assn Block} {T : β → Assn Block}

theorem bind_loadJson {a : Nat} {j : Json} {d : Json → BlockM β}
    (hS : S = star (pointsTo a (.json j)) R) (h : Triple S (d j) T) :
    Triple S (loadJson a >>= d) T := by
  rw [loadJson, bind_assoc]
  refine .bind_load hS ?_
  rw [pure_bind]
  exact h

theorem bind_loadEntries {a : Nat} {l : List EntryPointers} {d : List EntryPointers → BlockM β}
    (hS : S = star (pointsTo a (.entries l)) R) (h : Triple S (d l) T) :
    Triple S (loadEntries (some a) >>= d) T := by
  rw [loadEntries, bind_assoc]
  refine .bind_load hS ?_
  rw [pure_bind]
  exact h

end Reading

/-! ## Freeing -/

theorem free_string (p : Option Nat) (v : Option CString) :
    Triple (StringAt p v) (free p) fun _ => emp := .free p _

theorem freeEntries_triple (a : Nat) (vs : List (Option CString × Option CString)) :
    ∀ done es : List EntryPointers,
      Triple (star (EntriesAt es vs) (pointsTo a (.entries (done ++ es))))
        (freeEntries (some a) done.length vs.length)
        fun _ => pointsTo a (.entries (done ++ es)) := by
  induction vs with
  | nil =>
    intro done es
    cases es with
    | nil =>
      refine .ret fun f hf => ?_
      rwa [show EntriesAt [] [] = emp from rfl, emp_star] at hf
    | cons e es => exact .lift False.elim
  | cons v vs ih =>
    intro done es
    cases es with
    | nil => exact .lift False.elim
    | cons e es =>
      have hnext : (done ++ e :: es)[done.length]? = some e := by simp
      have hrest := ih (done ++ [e]) es
      rw [List.append_assoc, List.singleton_append, List.length_append, List.length_singleton]
        at hrest
      rw [List.length_cons, freeEntries, EntriesAt]
      refine bind_loadEntries (l := done ++ e :: es) (star_comm _ _) ?_
      rw [hnext]
      refine .bind_free (free_string e.id v.1) (by rw [star_assoc]) ?_
      exact .bind_free (free_string e.text v.2) (by rw [star_assoc]) hrest

/-- `authd_brokers_free` and `authd_auth_modes_free` free the array and all its strings. -/
theorem authdListFree_triple (p : Option Nat) (n : Nat)
    (v : Option (List (Option CString × Option CString))) :
    Triple (ListAt p n v) (authdListFree p n) fun _ => emp := by
  unfold authdListFree
  cases p with
  | none =>
    cases v with
    | none =>
      refine .conseq (P := star (lift (n = 0)) emp) (.lift fun hn => ?_) (fun _ h => ?_)
        fun _ _ h => h
      · rw [hn]
        exact .ret fun _ h => h
      · rwa [star_emp]
    | some vs => exact .contradiction
  | some a =>
    cases v with
    | none => exact .contradiction
    | some vs =>
      refine .lift fun hn => .exists fun es => ?_
      rw [hn, star_comm]
      have hfree := freeEntries_triple a vs [] es
      rw [List.nil_append, List.length_nil] at hfree
      exact hfree.bind fun _ => .dealloc a (Block.entries es)

/-- `authd_ui_layout_clear` frees all strings of the layout. -/
theorem authdUiLayoutClear_triple (p : LayoutPointers) (v : AuthdUiLayout) :
    Triple (LayoutAt p v) (authdUiLayoutClear p) fun q => lift (q = {}) := by
  unfold authdUiLayoutClear LayoutAt
  refine .lift fun _ => ?_
  refine .bind_free (free_string p.type v.type) rfl ?_
  refine .bind_free (free_string p.label v.label) rfl ?_
  refine .bind_free (free_string p.button v.button) rfl ?_
  refine .bind_free (free_string p.entry v.entry) rfl ?_
  refine .bind_free (free_string p.qrContent v.qrContent) rfl ?_
  refine .bind_free (free_string p.qrCode v.qrCode) (star_emp _).symm ?_
  exact .ret fun _ h => ⟨rfl, h⟩

/-! ## Receiving -/

variable {parse}

theorem strdup_triple (env : Env) (n : Nat) (v : List UInt8) :
    Triple emp (strdup env n v)
      fun p => StringAt p (if env.string n then some (cstr v) else none) := by
  refine (Triple.malloc (env.string n) (Block.string (cstr v))).conseq (fun _ h => h) ?_
  intro p f h
  rw [StringAt, apply_ite (Option.map Block.string)]
  exact h

/-- A string of the item, if it has one. -/
theorem strdupItem_triple (env : Env) (n : Nat) (item : Json) (name : String) :
    Triple emp
      (match item.stringItem name with
        | some v => strdup env n v
        | none => pure none)
      fun p => StringAt p (strdupItem env n item name) := by
  unfold strdupItem
  cases item.stringItem name with
  | none =>
    refine .ret fun f h => ?_
    rw [Option.map_none, ite_self]
    exact h
  | some v =>
    rw [Option.map_some]
    exact strdup_triple env n v

theorem strdupMember_triple (env : Env) (n root : Nat) (j : Json) (name : String) :
    Triple (pointsTo root (.json j)) (strdupMember env n root name)
      fun p => star (StringAt p (strdupItem env n j name)) (pointsTo root (.json j)) := by
  unfold strdupMember
  refine bind_loadJson (star_emp _).symm ?_
  have h := (strdupItem_triple env n j name).frame (pointsTo root (.json j))
  rw [emp_star] at h
  exact h

/-- One string after the other, each beside those before it. -/
theorem bind_strdupMember {β : Type} {env : Env} {n root : Nat} {j : Json} {name : String}
    {S : Assn Block} {d : Option Nat → BlockM β} {T : β → Assn Block}
    (h : ∀ p, Triple (star (pointsTo root (.json j))
      (star (StringAt p (strdupItem env n j name)) S)) (d p) T) :
    Triple (star (pointsTo root (.json j)) S) (strdupMember env n root name >>= d) T :=
  (strdupMember_triple env n root j name).step rfl fun p => (h p).reorder (by ac_rfl)

theorem strdupEntry_triple (env : Env) (n root i : Nat) {j item : Json} (name : String)
    (h : j.children[i]? = some item) :
    Triple (pointsTo root (.json j)) (strdupEntry env n root i name)
      fun p => star (StringAt p (strdupItem env n item name)) (pointsTo root (.json j)) := by
  unfold strdupEntry
  refine bind_loadJson (star_emp _).symm ?_
  rw [h]
  have h := (strdupItem_triple env n item name).frame (pointsTo root (.json j))
  rw [emp_star] at h
  exact h

/-- What an entry of a message becomes. -/
def entryStrings (env : Env) (name : String) (x : Json × Nat) : Option CString × Option CString :=
  (strdupItem env (2 * x.2) x.1 "id", strdupItem env (2 * x.2 + 1) x.1 name)

theorem entriesAt_concat {es : List EntryPointers} {vs : List (Option CString × Option CString)}
    (h : es.length = vs.length) (e : EntryPointers) (v : Option CString × Option CString) :
    EntriesAt (es ++ [e]) (vs ++ [v]) =
      star (EntriesAt es vs) (star (StringAt e.id v.1) (StringAt e.text v.2)) := by
  induction es generalizing vs with
  | nil =>
    obtain rfl := List.length_eq_zero_iff.mp h.symm
    show star _ (star _ emp) = star emp _
    rw [star_emp, emp_star]
  | cons d es ih =>
    cases vs with
    | nil => cases h
    | cons u vs =>
      rw [List.cons_append, List.cons_append, EntriesAt, EntriesAt, ih (Nat.succ.inj h)]
      ac_rfl

/-- The entry at a position changes, and no other. -/
theorem bind_storeEntry {β : Type} {R S : Assn Block} {T : β → Assn Block} {list : Nat}
    {front back : List EntryPointers} {e : EntryPointers} {g : EntryPointers → EntryPointers}
    {d : Unit → BlockM β} (hS : S = star (pointsTo list (.entries (front ++ e :: back))) R)
    (h : Triple (star (pointsTo list (.entries (front ++ g e :: back))) R) (d ()) T) :
    Triple S (storeEntry list front.length g >>= d) T := by
  have hentry : (front ++ e :: back)[front.length]? = some e := by simp
  have hset : (front ++ e :: back).set front.length (g e) = front ++ g e :: back := by simp
  rw [storeEntry, bind_assoc]
  refine bind_loadEntries hS ?_
  rw [hentry]
  refine .bind_store hS ?_
  rw [hset]
  exact h

/-- The array while its entries are filled, with the strings of those that are. -/
def Filling (list root : Nat) (items : List Json) (n : Nat) (done : List EntryPointers)
    (vs : List (Option CString × Option CString)) : Assn Block :=
  star (pointsTo root (.json (.array items)))
    (star (pointsTo list (.entries (done ++ List.replicate n ({} : EntryPointers))))
      (EntriesAt done vs))

/-- One member of an entry. -/
theorem fillMember_triple {env : Env} {n root list : Nat} {name : String} {j item : Json}
    {front back : List EntryPointers} {e : EntryPointers}
    (hitem : j.children[front.length]? = some item)
    (g : Option Nat → EntryPointers → EntryPointers) {R : Assn Block} {T : Unit → Assn Block}
    {d : Option Nat → BlockM Unit}
    (h : ∀ p, Triple (star (StringAt p (strdupItem env n item name))
        (star (pointsTo root (.json j))
          (star (pointsTo list (.entries (front ++ g p e :: back))) R))) (d p) T) :
    Triple (star (pointsTo root (.json j))
        (star (pointsTo list (.entries (front ++ e :: back))) R))
      (do
        let p ← strdupEntry env n root front.length name
        storeEntry list front.length (g p)
        d p) T := by
  refine (strdupEntry_triple env n root front.length name hitem).step rfl fun p => ?_
  refine bind_storeEntry (e := e)
    (R := star (star (StringAt p (strdupItem env n item name)) (pointsTo root (.json j))) R)
    (by ac_rfl) ?_
  exact (h p).reorder (by ac_rfl)

/-- One round of the loop. -/
theorem fillEntry_triple (env : Env) (name : String) (root list n : Nat) {items : List Json}
    {item : Json} {done : List EntryPointers} {vs : List (Option CString × Option CString)}
    (hlen : done.length = vs.length) (hitem : items[done.length]? = some item)
    {T : Unit → Assn Block}
    (h : ∀ e, Triple (Filling list root items n (done ++ [e])
        (vs ++ [entryStrings env name (item, done.length)]))
      (fillEntries env name root list (done.length + 1) n) T) :
    Triple (Filling list root items (n + 1) done vs)
      (fillEntries env name root list done.length (n + 1)) T := by
  have hchild : (Json.array items).children[done.length]? = some item := hitem
  rw [fillEntries, Filling, List.replicate_succ]
  refine fillMember_triple hchild (fun p e => { e with id := p }) fun id => ?_
  refine .reorder (by ac_rfl) (fillMember_triple (e := { id })
    (R := star (StringAt id (strdupItem env (2 * done.length) item "id")) (EntriesAt done vs))
    hchild (fun p e => { e with text := p }) fun text => ?_)
  refine (h { id, text }).reorder ?_
  rw [Filling, entriesAt_concat hlen, List.append_assoc, List.singleton_append]
  show _ = star _ (star _ (star _ (star (StringAt id (strdupItem env (2 * done.length) item "id"))
    (StringAt text (strdupItem env (2 * done.length + 1) item name)))))
  ac_rfl

/-- The loop over the items fills the array, entry by entry. -/
theorem fillEntries_triple (env : Env) (name : String) (root list : Nat) (items : List Json) :
    ∀ (n : Nat) (done : List EntryPointers) (vs : List (Option CString × Option CString)),
      done.length = vs.length → done.length + n ≤ items.length →
      Triple (Filling list root items n done vs) (fillEntries env name root list done.length n)
        fun _ => star (pointsTo root (.json (.array items)))
          (ex fun es => star (pointsTo list (.entries es)) (EntriesAt es (vs ++
            (((items.drop done.length).take n).zipIdx done.length).map
              (entryStrings env name)))) := by
  intro n
  induction n with
  | zero =>
    intro done vs _ _
    refine .ret fun f hf => ?_
    rw [List.take_zero, List.zipIdx_nil, List.map_nil, List.append_nil, star_comm, ex_star]
    refine ⟨done, ?_⟩
    show star _ (pointsTo root _) f
    rw [star_comm]
    rw [Filling, List.replicate_zero, List.append_nil] at hf
    exact hf
  | succ n ih =>
    intro done vs hlen hle
    have hi : done.length < items.length := by omega
    refine fillEntry_triple env name root list n hlen (List.getElem?_eq_getElem hi) fun e => ?_
    have hnext := ih (done ++ [e]) (vs ++ [entryStrings env name (items[done.length], done.length)])
      (by simp [hlen]) (by rw [List.length_append, List.length_singleton]; omega)
    rw [List.length_append, List.length_singleton, List.append_assoc, List.singleton_append]
      at hnext
    rw [List.drop_eq_getElem_cons hi, List.take_succ_cons, List.zipIdx_cons, List.map_cons]
    exact hnext

variable (parse)

/-- `cJSON_Parse` leaves the payload as it is. -/
theorem parseBlock_triple (env : Env) (payload : Option Nat) (b : Option (List UInt8)) :
    Triple (PayloadAt payload b) (parseBlock parse env payload)
      fun r => star (JsonAt r (cJSONParse parse env b)) (PayloadAt payload b) := by
  cases payload with
  | none =>
    cases b with
    | some b => exact .contradiction
    | none =>
      refine .ret fun f hf => ?_
      have hnone : cJSONParse parse env none = none := by
        rw [cJSONParse, Option.bind_none, ite_self]
      rw [hnone]
      show star emp _ f
      rwa [emp_star]
  | some a =>
    cases b with
    | none => exact .contradiction
    | some b =>
      have hparse : cJSONParse parse env (some b) = if env.json then parse (cstr b) else none := rfl
      refine .bind_load (star_emp _).symm ?_
      rw [hparse]
      dsimp only
      cases parse (cstr b) with
      | none =>
        refine .ret fun f hf => ?_
        rw [ite_self]
        show star emp _ f
        rwa [emp_star]
      | some j =>
        have h := (Triple.malloc env.json (Block.json j)).frame (PayloadAt (some a) (some b))
        rw [emp_star] at h
        refine h.conseq (fun _ hf => hf) fun r f hf => ?_
        rw [JsonAt, apply_ite (Option.map Block.json)]
        exact hf

/-- The strings of a list that is received, if it is one. -/
def receivedStrings (env : Env) (name : String) (b : Option (List UInt8)) :
    Option (List (Option CString × Option CString)) :=
  match cJSONParse parse env b with
  | some (.array items) =>
    if env.array then some (((items.take authdListMax).zipIdx).map (entryStrings env name))
    else none
  | _ => none

/-- The array of a list that is received, filled from the cJSON value, which is freed. -/
theorem receiveArray_triple (env : Env) (name : String) (root list : Nat) (items : List Json)
    (P : Assn Block) :
    Triple
      (star (pointsTo list (.entries (List.replicate (min items.length authdListMax) {})))
        (star (pointsTo root (.json (.array items))) P))
      (do
        fillEntries env name root list 0 (min items.length authdListMax)
        free (some root)
        pure (some list, min items.length authdListMax))
      fun r => star (ListAt r.1 r.2
        (some (((items.take authdListMax).zipIdx).map (entryStrings env name)))) P := by
  have hfill := fillEntries_triple env name root list items (min items.length authdListMax) [] []
    rfl (by rw [List.length_nil]; omega)
  have htake : items.take (min items.length authdListMax) = items.take authdListMax := by
    rw [Nat.min_comm]
    exact List.take_eq_take_min.symm
  rw [List.length_nil, List.drop_zero, htake, List.nil_append] at hfill
  refine hfill.step (R := P) ?_ fun _ => ?_
  · show _ = star (star _ (star _ emp)) _
    rw [star_emp, List.nil_append]
    ac_rfl
  refine .bind_free (.dealloc root _) (by rw [star_assoc]) ?_
  refine .ret fun f hf => ?_
  show star (star (lift _) _) _ f
  rw [star_assoc]
  refine lift_star.mpr ⟨?_, hf⟩
  simp [Nat.min_comm]

/-- What follows the parse of a message: without a value, or with one. -/
theorem bind_parseBlock {β : Type} {env : Env} {payload : Option Nat} {b : Option (List UInt8)}
    {d : Option Nat → BlockM β} {T : β → Assn Block}
    (hnone : cJSONParse parse env b = none → Triple (PayloadAt payload b) (d none) T)
    (hsome : ∀ root j, cJSONParse parse env b = some j →
      Triple (star (pointsTo root (.json j)) (PayloadAt payload b)) (d (some root)) T) :
    Triple (PayloadAt payload b) (parseBlock parse env payload >>= d) T := by
  refine (parseBlock_triple parse env payload b).bind fun r => ?_
  cases hj : cJSONParse parse env b with
  | none =>
    cases r with
    | none => exact .reorder (emp_star _) (hnone hj)
    | some root => exact .lift False.elim
  | some j =>
    cases r with
    | none => exact .lift False.elim
    | some root => exact hsome root j hj

theorem receiveList_triple (env : Env) (name : String) (payload : Option Nat)
    (b : Option (List UInt8)) :
    Triple (PayloadAt payload b) (receiveList parse env name payload)
      fun r => star (ListAt r.1 r.2 (receivedStrings parse env name b)) (PayloadAt payload b) := by
  have hempty : ∀ (P : Assn Block) f, P f → star (ListAt none 0 none) P f := fun P f hf =>
    lift_star.mpr ⟨rfl, hf⟩
  unfold receiveList receivedStrings
  refine bind_parseBlock parse (fun hj => ?_) fun root j hj => ?_
  · rw [hj]
    exact .ret fun f hf => hempty _ f hf
  rw [hj]
  refine bind_loadJson rfl ?_
  cases j with
  | array items =>
    refine .bind_malloc (fun list hok => ?_) fun hok => ?_
    · rw [hok]
      exact receiveArray_triple env name root list items _
    · rw [hok]
      refine .bind_free (.dealloc root _) rfl ?_
      exact .ret fun f hf => hempty _ f hf
  | _ =>
    refine .bind_free (.dealloc root _) rfl ?_
    exact .ret fun f hf => hempty _ f hf

/-- The layout of a message. -/
def receivedLayout (env : Env) (b : Option (List UInt8)) : AuthdUiLayout :=
  ((cJSONParse parse env b).map (authdUiLayout env)).getD {}

theorem layoutAt_empty : LayoutAt {} {} = emp := by
  have hnone : StringAt none none = emp := rfl
  simp only [LayoutAt, hnone, star_emp, lift_true]

theorem receiveLayout_triple (env : Env) (payload : Option Nat) (b : Option (List UInt8)) :
    Triple (PayloadAt payload b) (receiveLayout parse env payload)
      fun p => star (LayoutAt p (receivedLayout parse env b)) (PayloadAt payload b) := by
  unfold receiveLayout receivedLayout
  refine bind_parseBlock parse (fun hj => ?_) fun root j hj => ?_
  · rw [hj]
    refine .ret fun f hf => ?_
    show star (LayoutAt {} {}) _ f
    rwa [layoutAt_empty, emp_star]
  rw [hj]
  refine bind_strdupMember fun type => bind_strdupMember fun label => ?_
  refine bind_strdupMember fun button => bind_strdupMember fun entry => bind_loadJson rfl ?_
  refine bind_strdupMember fun qrContent => bind_strdupMember fun qrCode => ?_
  refine .bind_free (.dealloc root _) rfl (.ret fun f hf => ?_)
  rw [LayoutAt, star_assoc]
  refine lift_star.mpr ⟨rfl, ?_⟩
  have hperm : ∀ A B C D E F G : Assn Block,
      star A (star B (star C (star D (star E (star F G))))) =
        star (star F (star E (star D (star C (star B A))))) G := by
    intros
    ac_rfl
  rw [hperm] at hf
  exact hf

theorem receiveError_triple (env : Env) (payload : Option Nat) (b : Option (List UInt8)) :
    Triple (PayloadAt payload b) (receiveError parse env payload)
      fun p => star (StringAt p
        ((cJSONParse parse env b).bind fun obj => strdupItem env 0 obj "msg"))
        (PayloadAt payload b) := by
  unfold receiveError
  refine bind_parseBlock parse (fun hj => ?_) fun root j hj => ?_
  · rw [hj]
    refine .ret fun f hf => ?_
    show star emp _ f
    rwa [emp_star]
  · rw [hj]
    exact bind_strdupMember fun msg => .bind_free (.dealloc root _) rfl (.ret fun _ hf => hf)

/-! ## The switch -/

theorem brokerStrings_commInBrokers (env : Env) (s : SwaylockState) (b : Option (List UInt8)) :
    brokerStrings (commInBrokers parse env s b) = receivedStrings parse env "name" b ∧
      authModeStrings (commInBrokers parse env s b) = authModeStrings s ∧
      (commInBrokers parse env s b).authdLayout = s.authdLayout ∧
      (commInBrokers parse env s b).authdError = s.authdError := by
  unfold commInBrokers receivedStrings brokerStrings
  cases cJSONParse parse env b with
  | none => exact ⟨rfl, rfl, rfl, rfl⟩
  | some j =>
    cases j with
    | array items =>
      dsimp only
      split
      · refine ⟨?_, rfl, rfl, rfl⟩
        simp only [damageState, Option.map_some, List.map_map]
        rfl
      · exact ⟨rfl, rfl, rfl, rfl⟩
    | _ => exact ⟨rfl, rfl, rfl, rfl⟩

theorem authModeStrings_commInAuthModes (env : Env) (s : SwaylockState)
    (b : Option (List UInt8)) :
    authModeStrings (commInAuthModes parse env s b) = receivedStrings parse env "label" b ∧
      brokerStrings (commInAuthModes parse env s b) = brokerStrings s ∧
      (commInAuthModes parse env s b).authdLayout = s.authdLayout ∧
      (commInAuthModes parse env s b).authdError = s.authdError := by
  unfold commInAuthModes receivedStrings authModeStrings
  cases cJSONParse parse env b with
  | none => exact ⟨rfl, rfl, rfl, rfl⟩
  | some j =>
    cases j with
    | array items =>
      dsimp only
      split
      · refine ⟨?_, rfl, rfl, rfl⟩
        simp only [damageState, Option.map_some, List.map_map]
        rfl
      · exact ⟨rfl, rfl, rfl, rfl⟩
    | _ => exact ⟨rfl, rfl, rfl, rfl⟩

/-- The other messages leave the strings alone. -/
theorem authdStrings_commInFrame (env : Env) (s : SwaylockState) {f : Frame}
    (h1 : f.type ≠ COMM_MSG_BROKERS) (h2 : f.type ≠ COMM_MSG_AUTH_MODES)
    (h3 : f.type ≠ COMM_MSG_UI_LAYOUT) (h4 : f.type ≠ COMM_MSG_AUTH_EVENT) :
    authdStrings (commInFrame parse env s f) = authdStrings s := by
  unfold commInFrame commInSwitch
  simp only [toNat_type_eq_iff, h1, h2, h3, h4, if_false]
  split
  · unfold commInAuthResult
    split <;> rfl
  · split
    · unfold commInStage
      dsimp only
      split
      · split <;> rfl
      · rfl
    · rfl

/-- **The switch of `comm_in`** frees what it replaces and what it does not keep, on every path. -/
theorem receive_triple (env : Env) (s : SwaylockState) (p : AuthdPointers) (f : Frame)
    (payload : Option Nat) :
    Triple (star (Owns s p) (PayloadAt payload f.buffer)) (receive parse env p f.type payload)
      fun q => star (Owns (commInFrame parse env s f) q) (PayloadAt payload f.buffer) := by
  unfold receive
  split
  · rename_i htype
    have hframe : commInFrame parse env s f = commInBrokers parse env s f.buffer := by
      rw [commInFrame, commInSwitch, htype]
      rfl
    obtain ⟨hb, hm, hl, he⟩ := brokerStrings_commInBrokers parse env s f.buffer
    rw [hframe]
    refine .bind_free (authdListFree_triple p.brokers p.numBrokers (brokerStrings s))
      (star_assoc ..) ?_
    refine (receiveList_triple parse env "name" payload f.buffer).step (star_comm _ _) fun r => ?_
    refine .ret fun k hk => ?_
    unfold Owns
    rw [hb, hm, hl, he, star_assoc]
    rwa [star_assoc, star_comm (PayloadAt payload f.buffer)] at hk
  split
  · rename_i htype
    have hframe : commInFrame parse env s f = commInAuthModes parse env s f.buffer := by
      rw [commInFrame, commInSwitch, htype]
      rfl
    obtain ⟨hm, hb, hl, he⟩ := authModeStrings_commInAuthModes parse env s f.buffer
    rw [hframe]
    refine .bind_free (authdListFree_triple p.authModes p.numAuthModes (authModeStrings s))
      (R := star (star (ListAt p.brokers p.numBrokers (brokerStrings s))
        (star (LayoutAt p.layout s.authdLayout) (StringAt p.error s.authdError)))
        (PayloadAt payload f.buffer)) (by rw [Owns]; ac_rfl) ?_
    refine (receiveList_triple parse env "label" payload f.buffer).step (star_comm _ _) fun r => ?_
    refine .ret fun k hk => ?_
    unfold Owns
    rw [hb, hm, hl, he]
    have hperm : ∀ A B C D E : Assn Block,
        star (star A B) (star C (star D E)) = star (star C (star A (star D E))) B := by
      intros
      ac_rfl
    rwa [hperm] at hk
  split
  · rename_i htype
    have hframe : commInFrame parse env s f = commInUiLayout parse env s f.buffer := by
      rw [commInFrame, commInSwitch, htype]
      rfl
    rw [hframe]
    refine (authdUiLayoutClear_triple p.layout s.authdLayout).step
      (R := star (StringAt p.error s.authdError)
        (star (PayloadAt payload f.buffer) (star (ListAt p.brokers p.numBrokers (brokerStrings s))
          (ListAt p.authModes p.numAuthModes (authModeStrings s))))) (by rw [Owns]; ac_rfl)
      fun _ => .lift fun _ => ?_
    refine .bind_free (free_string p.error s.authdError) rfl ?_
    refine (receiveLayout_triple parse env payload f.buffer).step rfl fun layout => ?_
    refine .ret fun k hk => ?_
    show star (star (ListAt p.brokers p.numBrokers (brokerStrings s))
      (star (ListAt p.authModes p.numAuthModes (authModeStrings s))
        (star (LayoutAt layout (receivedLayout parse env f.buffer)) emp)))
      (PayloadAt payload f.buffer) k
    have hperm : ∀ A B C D : Assn Block,
        star (star A B) (star C D) = star (star C (star D (star A emp))) B := by
      intros
      rw [star_emp]
      ac_rfl
    rwa [hperm] at hk
  split
  · rename_i htype
    have hframe : commInFrame parse env s f = commInAuthEvent parse env s f.buffer := by
      rw [commInFrame, commInSwitch, htype]
      rfl
    rw [hframe]
    refine .bind_free (free_string p.error s.authdError)
      (R := star (PayloadAt payload f.buffer)
        (star (ListAt p.brokers p.numBrokers (brokerStrings s))
          (star (ListAt p.authModes p.numAuthModes (authModeStrings s))
            (LayoutAt p.layout s.authdLayout)))) (by rw [Owns]; ac_rfl) ?_
    refine (receiveError_triple parse env payload f.buffer).step rfl fun error => ?_
    refine .ret fun k hk => ?_
    have hperm : ∀ A B C D E : Assn Block,
        star (star A B) (star C (star D E)) = star (star C (star D (star E A))) B := by
      intros
      ac_rfl
    rw [hperm] at hk
    exact hk
  · rename_i h1 h2 h3 h4
    rw [owns_congr (authdStrings_commInFrame parse env s h1 h2 h3 h4)]
    exact .ret fun _ hk => hk

/-- **`comm_in`** leaves no block behind but the strings of the new state. -/
theorem owns_commInFrame (env : Env) (s : SwaylockState) (p : AuthdPointers) (f : Frame) :
    Triple (Owns s p) (commInBlocks parse env f p) (Owns (commInFrame parse env s f)) := by
  have hreceive := receive_triple parse env s p f
  unfold commInBlocks
  cases hb : f.buffer with
  | none =>
    rw [hb] at hreceive
    refine (hreceive none).conseq (fun k hk => ?_) fun q k hk => ?_
    · show star _ emp k
      rwa [star_emp]
    · rwa [show PayloadAt none none = emp from rfl, star_emp] at hk
  | some b =>
    rw [hb] at hreceive
    refine .bind_malloc (fun a _ => ?_) fun hok => by cases hok
    refine (Triple.reorder (star_comm _ _) (hreceive (some a))).bind fun q => ?_
    exact .bind_free (.dealloc a _) (star_comm _ _) (.ret fun _ hk => hk)

/-! ## Every run -/

section Runs

variable {α β : Type}

/-- The blocks beside a run: `comm_in` processes each frame it takes over them. -/
def noteBlocks (a : Action α) (s t : System β) (m : Option (AuthdPointers × Heap Block)) :
    Option (AuthdPointers × Heap Block) :=
  match a with
  | .main (.reply env) =>
    match consumedFrame s t with
    | some f => m.bind fun x => commInBlocks parse env f x.1 x.2
    | none => m
  | _ => m

/-- The blocks are those of the state. -/
def HeldBlocks (s : SwaylockState) (m : Option (AuthdPointers × Heap Block)) : Prop :=
  ∃ p h, m = some (p, h) ∧ h.Holds (Owns s p)

variable {parse}

theorem HeldBlocks.congr {s t : SwaylockState} {m : Option (AuthdPointers × Heap Block)}
    (h : HeldBlocks s m) (he : authdStrings t = authdStrings s) : HeldBlocks t m := by
  obtain ⟨p, k, hm, hk⟩ := h
  rw [← owns_congr he] at hk
  exact ⟨p, k, hm, hk⟩

theorem HeldBlocks.frame {env : Env} {s : SwaylockState} {f : Frame}
    {m : Option (AuthdPointers × Heap Block)} (h : HeldBlocks s m) :
    HeldBlocks (commInFrame parse env s f) (m.bind fun x => commInBlocks parse env f x.1 x.2) := by
  obtain ⟨p, k, rfl, hk⟩ := h
  obtain ⟨q, k', hq, hk'⟩ := (owns_commInFrame parse env s p f).run hk
  exact ⟨q, k', hq, hk'⟩

theorem authdStrings_visitTimer (env : Env) (now : Timespec) (addr : Nat) (s : SwaylockState) :
    authdStrings (visitTimer env now addr s) = authdStrings s := by
  rcases visitTimer_cases env now addr s with hv | hv | ⟨callback, t, -, rfl, hv⟩
  · rw [hv]
  · rw [hv]
    rfl
  · rw [hv]
    cases callback <;> rfl

theorem authdStrings_keyStep {env : Env} {s t : SwaylockState} {p q : Pipe}
    (h : KeyStep env s p t q) : authdStrings t = authdStrings s := by
  cases h with
  | move hn => exact hn.keep authdStrings (by intros; rfl)
  | send hn => exact hn.keep authdStrings (by intros; rfl)
  | edit a codepoint => exact (edits_edit _ _ codepoint a).keep authdStrings (by intros; rfl)
  | fail => rfl
  | submit => rfl

/-- Only a frame changes the strings. -/
theorem MainMove.strings {debugUnlock : Bool} {a : MainAction} {m n : MainSide}
    (h : MainMove debugUnlock parse m a n) :
    (∃ env f rest, a = .reply env ∧ frameHead m.toMain.data = .item f rest ∧
        n.toMain.data = rest ∧ n.state = commInFrame parse env m.state f) ∨
      (n.toMain.data = m.toMain.data ∧ authdStrings n.state = authdStrings m.state) := by
  cases h with
  | frame _ _ head _ eq _ => exact Or.inl ⟨_, _, _, rfl, head, rfl, eq⟩
  | key _ _ step => exact Or.inr ⟨rfl, authdStrings_keyStep step⟩
  | modifiers _ keep => exact Or.inr ⟨rfl, keep.keep authdStrings (by intros; rfl)⟩
  | timer => exact Or.inr ⟨rfl, authdStrings_visitTimer _ _ _ _⟩
  | _ => exact Or.inr ⟨rfl, rfl⟩

theorem owned_step {debugUnlock : Bool} {backend : Backend β α} {a : Action α} {s t : System β}
    {m : Option (AuthdPointers × Heap Block)} (hs : HeldBlocks s.main.state m)
    (h : system debugUnlock parse backend a s = some t) :
    HeldBlocks t.main.state (noteBlocks parse a s t m) := by
  have hmove := system_cases debugUnlock parse backend h
  clear h
  cases hmove with
  | @main a n hmain =>
    rcases hmain.strings with ⟨env, f, rest, rfl, head, hdata, hstate⟩ | ⟨hdata, hstrings⟩
    · have hc : consumedFrame s { s with main := n.settle } = some f :=
        consumedFrame_some head (by rw [settle_toMain_data]; exact hdata)
      rw [noteBlocks, hc, settle_state, hstate]
      exact hs.frame
    · have hc : consumedFrame s { s with main := n.settle } = none :=
        consumedFrame_none (by rw [settle_toMain_data, hdata])
      have hnote : noteBlocks parse (.main a : Action α) s { s with main := n.settle } m = m := by
        cases a with
        | reply env => rw [noteBlocks, hc]
        | _ => rfl
      rw [hnote]
      exact hs.congr (by rw [settle_state, hstrings])
  | _ => exact hs

theorem owned_start (child : β) (args : SwaylockArgs) (buffer : List UInt8) :
    HeldBlocks (System.start child args buffer).main.state (some ({}, {})) := by
  refine ⟨{}, {}, rfl, ?_⟩
  have hstring : StringAt none none = emp := rfl
  have hlist : ListAt none 0 none = lift True := congrArg lift (eq_self 0)
  show Owns (.start args buffer) {} nothing
  have howns : Owns (.start args buffer) {} = emp := by
    show star (ListAt none 0 none) (star (ListAt none 0 none)
      (star (LayoutAt {} {}) (StringAt none none))) = emp
    rw [hlist, lift_true, layoutAt_empty, hstring]
    simp only [emp_star]
  rw [howns]
  rfl

/-- **The strings are owned** in every run with either child, whatever is allocated or not:
`comm_in` never frees a block twice, never follows a pointer to a freed one, and what is allocated
is exactly the strings of the state, each once, with their arrays. -/
theorem strings_owned (debugUnlock : Bool) (parse : CString → Option Json)
    (backend : Backend β α) (child : β) (args : SwaylockArgs) (buffer : List UInt8)
    {as : List (Action α)} {z : System β × Option (AuthdPointers × Heap Block)}
    (h : run (monitored (system debugUnlock parse backend) (noteBlocks parse)) as
      (System.start child args buffer, some ({}, {})) = some z) :
    ∃ p k, z.2 = some (p, k) ∧ k.Holds (Owns z.1.main.state p) := by
  have howned : HeldBlocks z.1.main.state z.2 :=
    run_invariant (I := fun x => HeldBlocks x.1.main.state x.2)
      (fun a x y hx hxy => by
        obtain ⟨hstep, hnote⟩ := monitored_eq_some.mp hxy
        rw [hnote]
        exact owned_step hx hstep) h (owned_start child args buffer)
  exact howned

end Runs

set_option maxRecDepth 10000 in
/-- Three brokers arrive. -/
theorem strings_owned_brokers :
    ∃ z p k, run (monitored (system false parseBrokers (pamBackend parseBrokers printBrokers []))
        (noteBlocks parseBrokers)) brokersRun (System.start {} {} [0], some ({}, {})) = some z ∧
      z.2 = some (p, k) ∧ k.Holds (Owns z.1.main.state p) ∧ p.numBrokers = 3 := by
  obtain ⟨z, hz, hnum⟩ : ∃ z, run (monitored
      (system false parseBrokers (pamBackend parseBrokers printBrokers []))
      (noteBlocks parseBrokers)) brokersRun (System.start {} {} [0], some ({}, {})) = some z ∧
      z.2.map (fun x => x.1.numBrokers) = some 3 := ⟨_, rfl, by decide +kernel⟩
  obtain ⟨p, k, hp, hk⟩ := strings_owned false parseBrokers
    (pamBackend parseBrokers printBrokers []) {} {} [0] hz
  refine ⟨z, p, k, hz, hp, hk, ?_⟩
  rw [hp] at hnum
  exact Option.some.inj hnum

end SwaylockAuthd
