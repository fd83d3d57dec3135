import SwaylockAuthd.Lib.Viewport
import SwaylockAuthd.MainProcess

/-!
# The lists of the selection stages

The brokers and the authentication modes are two lists of one kind, each an array, a
number of entries and a cursor.

* `AuthdList`: the list of a selection stage, `authdList` the one in a state.
* `list_mainStep`: a callback leaves a list alone, moves its cursor, or replaces it.
* `AuthdList.Valid`: the three fields belong together; `valid_run` in every reachable state.
* `listWindow`: the rows `render_frame` draws.
* `lists_navigable`: no read is out of bounds, and the selected row is drawn.
-/

namespace SwaylockAuthd

open Transition

/-! ## The list of a stage -/

/-- An entry: what is sent for it, and what is shown of it. -/
structure AuthdEntry where
  id : Option CString
  text : Option CString
  deriving DecidableEq, Repr

def AuthdBroker.entry (b : AuthdBroker) : AuthdEntry := { id := b.id, text := b.name }

def AuthdAuthMode.entry (m : AuthdAuthMode) : AuthdEntry := { id := m.id, text := m.label }

/-- The array of a list, its number of entries and its cursor. -/
structure AuthdList where
  entries : Option (List AuthdEntry) := none
  num : Nat
  sel : Int
  deriving DecidableEq, Repr

/-- The brokers, or the authentication modes. -/
def authdList (isBroker : Bool) (s : SwaylockState) : AuthdList :=
  if isBroker then
    { entries := s.authdBrokers.map (List.map AuthdBroker.entry)
      num := s.authdNumBrokers, sel := s.authdSelBroker }
  else
    { entries := s.authdAuthModes.map (List.map AuthdAuthMode.entry)
      num := s.authdNumAuthModes, sel := s.authdSelAuthMode }

def listStage (isBroker : Bool) : AuthdStage := if isBroker then .broker else .authMode

/-- The message that carries a list. -/
def listType (isBroker : Bool) : UInt8 := if isBroker then COMM_MSG_BROKERS else COMM_MSG_AUTH_MODES

/-- The stage of the list is shown. -/
def Shows (isBroker : Bool) (s : SwaylockState) : Prop :=
  s.authdActive = true ∧ s.authdStage = listStage isBroker

instance (isBroker : Bool) (s : SwaylockState) : Decidable (Shows isBroker s) :=
  inferInstanceAs (Decidable (_ ∧ _))

namespace AuthdList

/-- `Up`. -/
def up (l : AuthdList) : AuthdList := if 0 < l.sel then { l with sel := l.sel - 1 } else l

/-- `Down`. -/
def down (l : AuthdList) : AuthdList :=
  if l.sel < l.num - 1 then { l with sel := l.sel + 1 } else l

/-- The entry `Return` reads. -/
def keyIndex (l : AuthdList) : Option Int :=
  if 0 ≤ l.sel ∧ l.sel < l.num then some l.sel else none

end AuthdList

theorem authdList_selectUp (isBroker : Bool) (s : SwaylockState) :
    authdList isBroker (damageState (selectUp isBroker s)) = (authdList isBroker s).up := by
  cases isBroker
  · by_cases h : 0 < s.authdSelAuthMode <;> simp [selectUp, AuthdList.up, authdList, damageState, h]
  · by_cases h : 0 < s.authdSelBroker <;> simp [selectUp, AuthdList.up, authdList, damageState, h]

theorem authdList_selectDown (isBroker : Bool) (s : SwaylockState) :
    authdList isBroker (damageState (selectDown isBroker s)) = (authdList isBroker s).down := by
  cases isBroker
  · by_cases h : s.authdSelAuthMode < s.authdNumAuthModes - 1 <;>
      simp [selectDown, AuthdList.down, authdList, damageState, h]
  · by_cases h : s.authdSelBroker < s.authdNumBrokers - 1 <;>
      simp [selectDown, AuthdList.down, authdList, damageState, h]

/-- The keys of one list leave the other one alone. -/
theorem authdList_select_ne {isBroker other : Bool} (h : other ≠ isBroker) (s : SwaylockState) :
    authdList other (damageState (selectUp isBroker s)) = authdList other s ∧
      authdList other (damageState (selectDown isBroker s)) = authdList other s := by
  cases isBroker
  · obtain rfl : other = true := by simpa using h
    constructor
    · by_cases h : 0 < s.authdSelAuthMode <;> simp [selectUp, authdList, damageState, h]
    · by_cases h : s.authdSelAuthMode < s.authdNumAuthModes - 1 <;>
        simp [selectDown, authdList, damageState, h]
  · obtain rfl : other = false := by simpa using h
    constructor
    · by_cases h : 0 < s.authdSelBroker <;> simp [selectUp, authdList, damageState, h]
    · by_cases h : s.authdSelBroker < s.authdNumBrokers - 1 <;>
        simp [selectDown, authdList, damageState, h]

/-- **What `Return` sends** is the id of the entry under the cursor. -/
theorem selectedId_eq (isBroker : Bool) (s : SwaylockState) :
    selectedId isBroker s = (authdList isBroker s).keyIndex.bind fun i =>
      (((authdList isBroker s).entries.getD [])[i.toNat]?).bind AuthdEntry.id := by
  cases isBroker
  · show (if 0 ≤ s.authdSelAuthMode ∧ s.authdSelAuthMode < s.authdNumAuthModes then _ else _) =
      (if 0 ≤ s.authdSelAuthMode ∧ s.authdSelAuthMode < s.authdNumAuthModes then _ else _ :
        Option Int).bind _
    split
    · cases hm : s.authdAuthModes with
      | none => simp [authdList, hm]
      | some modes =>
        simp only [authdList, hm, Option.map_some, Option.getD_some, Option.bind_some,
          Bool.false_eq_true, if_false, List.getElem?_map, Option.bind_map]
        rfl
    · rfl
  · show (if 0 ≤ s.authdSelBroker ∧ s.authdSelBroker < s.authdNumBrokers then _ else _) =
      (if 0 ≤ s.authdSelBroker ∧ s.authdSelBroker < s.authdNumBrokers then _ else _ :
        Option Int).bind _
    split
    · cases hm : s.authdBrokers with
      | none => simp [authdList, hm]
      | some brokers =>
        simp only [authdList, hm, Option.map_some, Option.getD_some, Option.bind_some,
          if_true, List.getElem?_map, Option.bind_map]
        rfl
    · rfl

/-! ## What replaces a list -/

variable (parse : CString → Option Json)

/-- The name of what is shown of an entry. -/
def listText (isBroker : Bool) : String := if isBroker then "name" else "label"

/-- An entry of the message that carries a list; `x.2` is its position. -/
def authdEntry (isBroker : Bool) (env : Env) (x : Json × Nat) : AuthdEntry :=
  { id := strdupItem env (2 * x.2) x.1 "id"
    text := strdupItem env (2 * x.2 + 1) x.1 (listText isBroker) }

/-- The list made of an array. -/
def receivedList (isBroker : Bool) (env : Env) (items : List Json) : AuthdList :=
  { entries := some (((items.take authdListMax).zipIdx).map (authdEntry isBroker env))
    num := (items.take authdListMax).length, sel := 0 }

/-- The branch of `comm_in` for the message that carries a list. -/
def commInList (isBroker : Bool) (env : Env) (s : SwaylockState)
    (payload : Option (List UInt8)) : SwaylockState :=
  if isBroker then commInBrokers parse env s payload else commInAuthModes parse env s payload

/-- **What replaces a list**: the array, cut at its maximum, or nothing. -/
theorem commInList_cases (isBroker : Bool) (env : Env) (s : SwaylockState)
    (payload : Option (List UInt8)) :
    (∃ items, cJSONParse parse env payload = some (.array items) ∧ env.array = true ∧
      authdList isBroker (commInList parse isBroker env s payload) =
        receivedList isBroker env items) ∨
    (∀ items, cJSONParse parse env payload = some (.array items) → env.array = false) ∧
      authdList isBroker (commInList parse isBroker env s payload) = { num := 0, sel := 0 } := by
  cases isBroker
  · simp only [commInList, Bool.false_eq_true, if_false]
    rw [commInAuthModes]
    cases hj : cJSONParse parse env payload with
    | none => exact Or.inr ⟨fun _ h => (nomatch h), rfl⟩
    | some j =>
      cases j with
      | array items =>
        by_cases ha : env.array = true
        · refine Or.inl ⟨items, rfl, ha, ?_⟩
          simp [ha, authdList, receivedList, damageState]
          exact fun _ _ _ => rfl
        · rw [Bool.not_eq_true] at ha
          refine Or.inr ⟨fun _ _ => ha, ?_⟩
          simp [ha, authdList]
      | _ => exact Or.inr ⟨fun _ h => (nomatch h), rfl⟩
  · simp only [commInList, if_true]
    rw [commInBrokers]
    cases hj : cJSONParse parse env payload with
    | none => exact Or.inr ⟨fun _ h => (nomatch h), rfl⟩
    | some j =>
      cases j with
      | array items =>
        by_cases ha : env.array = true
        · refine Or.inl ⟨items, rfl, ha, ?_⟩
          simp [ha, authdList, receivedList, damageState]
          exact fun _ _ _ => rfl
        · rw [Bool.not_eq_true] at ha
          refine Or.inr ⟨fun _ _ => ha, ?_⟩
          simp [ha, authdList]
      | _ => exact Or.inr ⟨fun _ h => (nomatch h), rfl⟩

/-- The stage of a list is shown once it is replaced, unless there is no memory for it. -/
theorem shows_commInList {isBroker : Bool} {env : Env} (s : SwaylockState)
    (payload : Option (List UInt8)) (h : env.array = true) :
    Shows isBroker (commInList parse isBroker env s payload) := by
  cases isBroker
  · simp only [commInList, Bool.false_eq_true, if_false, commInAuthModes, h, if_true]
    split <;> exact ⟨rfl, rfl⟩
  · simp only [commInList, if_true, commInBrokers, h]
    split <;> exact ⟨rfl, rfl⟩

/-- One list does not touch the other one. -/
theorem authdList_commInList_ne {isBroker other : Bool} (h : other ≠ isBroker) (env : Env)
    (s : SwaylockState) (payload : Option (List UInt8)) :
    authdList other (commInList parse isBroker env s payload) = authdList other s := by
  cases isBroker
  · obtain rfl : other = true := by simpa using h
    simp only [commInList, Bool.false_eq_true, if_false, commInAuthModes]
    split
    · split <;> rfl
    · rfl
  · obtain rfl : other = false := by simpa using h
    simp only [commInList, if_true, commInBrokers]
    split
    · split <;> rfl
    · rfl

/-- The message that carries a list replaces it. -/
theorem commInFrame_list {isBroker : Bool} {f : Frame} (hf : f.type = listType isBroker) (env : Env)
    (s : SwaylockState) :
    commInFrame parse env s f = commInList parse isBroker env s f.buffer := by
  unfold commInFrame commInSwitch
  rw [hf]
  cases isBroker
  · rfl
  · rfl

/-- **Every other message** leaves a list alone. -/
theorem authdList_commInFrame {isBroker : Bool} {f : Frame} (hf : f.type ≠ listType isBroker)
    (env : Env) (s : SwaylockState) :
    authdList isBroker (commInFrame parse env s f) = authdList isBroker s := by
  by_cases hother : f.type = listType (! isBroker)
  · rw [commInFrame_list parse hother]
    exact authdList_commInList_ne parse (by simp) env s _
  · have h1 : f.type ≠ COMM_MSG_BROKERS := by cases isBroker; exacts [hother, hf]
    have h2 : f.type ≠ COMM_MSG_AUTH_MODES := by cases isBroker; exacts [hf, hother]
    unfold commInFrame commInSwitch
    simp only [toNat_type_eq_iff, h1, h2, if_false]
    split
    · unfold commInAuthResult
      split <;> cases isBroker <;> rfl
    · split
      · cases isBroker <;> rfl
      · split
        · unfold commInStage
          split
          · split <;> cases isBroker <;> rfl
          · rfl
        · split
          · cases isBroker <;> rfl
          · rfl

/-! ## What a callback does to a list -/

/-- A cursor moves, or a message replaces the list. -/
inductive ListStep (isBroker : Bool) (s : SwaylockState) : MainEvent → AuthdList → Prop
  | keeps {a : MainEvent} : ListStep isBroker s a (authdList isBroker s)
  | up {env : Env} {codepoint : UInt32} (h : Shows isBroker s) :
      ListStep isBroker s (.key env .Up codepoint) (authdList isBroker s).up
  | down {env : Env} {codepoint : UInt32} (h : Shows isBroker s) :
      ListStep isBroker s (.key env .Down codepoint) (authdList isBroker s).down
  | received {env : Env} {f : Frame} (items : List Json) (h : f.type = listType isBroker) :
      ListStep isBroker s (.message env f) (receivedList isBroker env items)
  | lost {env : Env} {f : Frame} (h : f.type = listType isBroker) :
      ListStep isBroker s (.message env f) { num := 0, sel := 0 }

theorem authdList_edit (isBroker : Bool) (env : Env) (s : SwaylockState) (codepoint : UInt32)
    (a : KeyAction) : authdList isBroker (a.edit env s codepoint) = authdList isBroker s :=
  (edits_edit env s codepoint a).keep _ (by intros; rfl)

/-- The message of a selection. -/
def selectionType (isBroker : Bool) : UInt8 :=
  if isBroker then COMM_MSG_BROKER_SEL else COMM_MSG_AUTH_MODE_SEL

/-- What `Return` does with the id under the cursor. -/
theorem selectionKey_return (isBroker : Bool) (env : Env) (s : SwaylockState) (p : Pipe)
    {keysym : Keysym} (hkey : keysym = .Return ∨ keysym = .KP_Enter) :
    selectionKey isBroker env s p keysym = some ((selectedId isBroker s).elim (.running s p)
      fun id => sendKey env s p (selectionType isBroker) (some (id ++ [0])) (id.length + 1)) := by
  rcases hkey with rfl | rfl
  · rw [selectionKey]
    cases selectedId isBroker s <;> rfl
  · rw [selectionKey]
    cases selectedId isBroker s <;> rfl

/-- What the first block does to a list. -/
theorem list_selectionKey (shown : Bool) {isBroker : Bool} {env : Env} {s t : SwaylockState}
    {p q : Pipe} {keysym : Keysym} (codepoint : UInt32) (hs : Shows shown s)
    (h : selectionKey shown env s p keysym = some (.running t q)) :
    ListStep isBroker s (.key env keysym codepoint) (authdList isBroker t) := by
  have confirm : keysym = .Return ∨ keysym = .KP_Enter →
      ListStep isBroker s (.key env keysym codepoint) (authdList isBroker t) := by
    intro hkey
    rw [selectionKey_return shown env s p hkey] at h
    cases hid : selectedId shown s with
    | none =>
      rw [hid] at h
      cases h
      exact .keeps
    | some id =>
      rw [hid] at h
      rw [(sendKey_running (Option.some.inj h)).1]
      exact .keeps
  cases keysym with
  | Up =>
    cases h
    by_cases hb : isBroker = shown
    · rw [hb, authdList_selectUp]
      exact .up hs
    · rw [(authdList_select_ne hb s).1]
      exact .keeps
  | Down =>
    cases h
    by_cases hb : isBroker = shown
    · rw [hb, authdList_selectDown]
      exact .down hs
    · rw [(authdList_select_ne hb s).2]
      exact .keeps
  | Return => exact confirm (Or.inl rfl)
  | KP_Enter => exact confirm (Or.inr rfl)
  | Escape =>
    rw [(sendKey_running (Option.some.inj h)).1]
    exact .keeps
  | _ => cases h

theorem list_handleKey {isBroker : Bool} {env : Env} {s t : SwaylockState} {p q : Pipe}
    {keysym : Keysym} {codepoint : UInt32}
    (h : swaylockHandleKey env s p keysym codepoint = .running t q) :
    ListStep isBroker s (.key env keysym codepoint) (authdList isBroker t) := by
  cases ha : authdHandleKey env s p keysym with
  | some r =>
    rw [swaylockHandleKey, ha] at h
    obtain rfl : r = .running t q := h
    rw [authdHandleKey] at ha
    split at ha
    · rename_i active
      split at ha
      · rename_i stage
        exact list_selectionKey true codepoint ⟨active, stage⟩ ha
      · rename_i stage
        exact list_selectionKey false codepoint ⟨active, stage⟩ ha
      · split at ha
        · have ht : authdList isBroker t = authdList isBroker s := by
            rw [(sendKey_running (Option.some.inj ha)).1]
            cases isBroker <;> rfl
          rw [ht]
          exact .keeps
        · cases ha
      · cases ha
    · cases ha
  | none =>
    have hkeep : authdList isBroker t = authdList isBroker s := by
      cases passwordKey_of_pass ha h with
      | submit action step =>
        cases step with
        | skip => rfl
        | fail => cases isBroker <;> rfl
        | send => cases isBroker <;> rfl
      | edit => exact authdList_edit isBroker env s codepoint _
    rw [hkeep]
    exact .keeps

theorem authdList_visitTimer (isBroker : Bool) (env : Env) (now : Timespec) (addr : Nat)
    (s : SwaylockState) :
    authdList isBroker (visitTimer env now addr s) = authdList isBroker s := by
  rcases visitTimer_cases env now addr s with h | h | ⟨callback, t, -, rfl, h⟩
  · rw [h]
  · rw [h]
    cases isBroker <;> rfl
  · rw [h]
    cases callback <;> cases isBroker <;> rfl

/-- **What a callback does to a list.** -/
theorem list_mainStep (isBroker : Bool) {a : MainEvent} {m n : MainProcess}
    (h : mainStep parse a m = some n) :
    ListStep isBroker m.state a (authdList isBroker n.state) := by
  cases mainStep_cases parse h with
  | key eq => exact list_handleKey eq
  | modifiers hm =>
    rw [show authdList isBroker _ = authdList isBroker m.state from hm.keep _ (by intros; rfl)]
    exact .keeps
  | timer =>
    rw [authdList_visitTimer]
    exact .keeps
  | @message env f s type step =>
    obtain rfl : s = commInFrame parse env m.state f := by
      rw [mainStep, if_neg type] at h
      cases h
      rfl
    by_cases hf : f.type = listType isBroker
    · rw [commInFrame_list parse hf]
      rcases commInList_cases parse isBroker env m.state f.buffer with ⟨items, -, -, hl⟩ | ⟨-, hl⟩
      · rw [hl]
        exact .received items hf
      · rw [hl]
        exact .lost hf
    · rw [authdList_commInFrame parse hf]
      exact .keeps
  | childGone => exact .keeps

/-! ## The invariant -/

namespace AuthdList

/-- The array, the number of entries and the cursor belong together. -/
structure Valid (l : AuthdList) : Prop where
  num : l.num = (l.entries.getD []).length
  max : l.num ≤ authdListMax
  sel : 0 < l.num → 0 ≤ l.sel ∧ l.sel < l.num

theorem Valid.up {l : AuthdList} (h : l.Valid) : l.up.Valid := by
  unfold AuthdList.up
  split
  · refine ⟨h.num, h.max, fun hpos => ?_⟩
    have hsel := h.sel hpos
    dsimp only
    omega
  · exact h

theorem Valid.down {l : AuthdList} (h : l.Valid) : l.down.Valid := by
  unfold AuthdList.down
  split
  · refine ⟨h.num, h.max, fun hpos => ?_⟩
    have hsel := h.sel hpos
    dsimp only
    omega
  · exact h

theorem valid_empty (sel : Int) : Valid { num := 0, sel } :=
  ⟨rfl, Nat.zero_le _, fun h => absurd h (Nat.lt_irrefl 0)⟩

end AuthdList

theorem valid_receivedList (isBroker : Bool) (env : Env) (items : List Json) :
    (receivedList isBroker env items).Valid := by
  refine ⟨?_, ?_, fun h => ⟨Int.le_refl 0, ?_⟩⟩
  · simp [receivedList]
  · show (items.take authdListMax).length ≤ authdListMax
    rw [List.length_take]
    exact min_le_left _ _
  · exact Int.natCast_pos.mpr h

/-- Both lists are valid. -/
def ListsValid (m : MainProcess) : Prop := ∀ isBroker, (authdList isBroker m.state).Valid

theorem valid_start (args : SwaylockArgs) (buffer : List UInt8) (p : Pipe) :
    ListsValid ⟨.start args buffer, p⟩ := by
  intro isBroker
  cases isBroker
  · exact AuthdList.valid_empty (-1)
  · exact AuthdList.valid_empty (-1)

theorem valid_mainStep {a : MainEvent} {m n : MainProcess} (hm : ListsValid m)
    (h : mainStep parse a m = some n) : ListsValid n := by
  intro isBroker
  have hl := hm isBroker
  have hstep := list_mainStep parse isBroker h
  generalize authdList isBroker n.state = l at hstep ⊢
  cases hstep with
  | keeps => exact hl
  | up => exact hl.up
  | down => exact hl.down
  | received items => exact valid_receivedList isBroker _ items
  | lost => exact AuthdList.valid_empty 0

/-- **Both lists are valid in every reachable state.** -/
theorem valid_run {as : List MainEvent} {m n : MainProcess}
    (h : run (mainStep parse) as m = some n) (hm : ListsValid m) : ListsValid n :=
  run_invariant (fun _ _ _ hm h => valid_mainStep parse hm h) h hm

/-! ## What is drawn -/

/-- The window of `render_frame`. -/
structure ListWindow where
  start : Int
  visCount : Int
  deriving DecidableEq, Repr

/-- At most eight rows, centred around the selection. -/
def listWindow (count sel : Int) : ListWindow :=
  let maxVis : Int := 8
  let visCount := if count < maxVis then count else maxVis
  let start :=
    if maxVis < count ∧ 0 ≤ sel then
      let start := sel - maxVis / 2
      if start < 0 then 0
      else if count < start + maxVis then count - maxVis
      else start
    else 0
  { start, visCount }

/-- The window around a cursor that is in the list. -/
theorem listWindow_eq {n k : Nat} (h : k < n) :
    listWindow n k = { start := Viewport.top 8 n k, visCount := (min n 8 : Nat) } := by
  have hcount : (if (n : Int) < 8 then (n : Int) else 8) = (min n 8 : Nat) := by
    split <;> omega
  have hstart : (if 8 < (n : Int) ∧ 0 ≤ (k : Int) then
      (if (k : Int) - 8 / 2 < 0 then 0
        else if (n : Int) < (k : Int) - 8 / 2 + 8 then (n : Int) - 8 else (k : Int) - 8 / 2)
      else 0) = (Viewport.top 8 n k : Nat) := by
    unfold Viewport.top
    repeat' split
    all_goals omega
  unfold listWindow
  simp only [hcount, hstart]

/-- The entries `render_frame` reads. -/
def AuthdList.drawn (l : AuthdList) : List Int :=
  let w := listWindow l.num l.sel
  (List.range w.visCount.toNat).map fun vi : Nat => w.start + vi

/-- The rows `render_frame` draws: what is shown of an entry, and whether it is the selected
one; `none` for an entry that the array does not have. -/
def AuthdList.rows (l : AuthdList) : List (Option (CString × Bool)) :=
  l.drawn.map fun i =>
    ((l.entries.getD [])[i.toNat]?).map fun e => (e.text.getD [], decide (i = l.sel))

/-- What `render_frame` draws in a selection stage. -/
def renderList (s : SwaylockState) : Option (List (Option (CString × Bool))) :=
  if s.authdActive then
    match s.authdStage with
    | .broker => some (authdList true s).rows
    | .authMode => some (authdList false s).rows
    | _ => none
  else none

theorem renderList_of_shows {isBroker : Bool} {s : SwaylockState} (h : Shows isBroker s) :
    renderList s = some (authdList isBroker s).rows := by
  unfold renderList
  rw [if_pos h.1, h.2]
  cases isBroker <;> rfl

namespace AuthdList

/-- The entries that are drawn of a list that is not empty. -/
theorem Valid.mem_drawn {l : AuthdList} (h : l.Valid) (hpos : 0 < l.num) {i : Int} :
    i ∈ l.drawn ↔ ∃ j : Nat, i = j ∧ Viewport.top 8 l.num l.sel.toNat ≤ j ∧
      j < Viewport.top 8 l.num l.sel.toNat + min l.num 8 := by
  obtain ⟨h0, hlt⟩ := h.sel hpos
  have hk : l.sel = l.sel.toNat := (Int.toNat_of_nonneg h0).symm
  have hw : listWindow l.num l.sel =
      { start := Viewport.top 8 l.num l.sel.toNat, visCount := (min l.num 8 : Nat) } := by
    rw [hk]
    exact listWindow_eq (by omega)
  unfold drawn
  simp only [hw, Int.toNat_natCast, List.mem_map, List.mem_range]
  constructor
  · rintro ⟨vi, hvi, rfl⟩
    exact ⟨Viewport.top 8 l.num l.sel.toNat + vi, by omega, by omega, by omega⟩
  · rintro ⟨j, rfl, hle, hj⟩
    exact ⟨j - Viewport.top 8 l.num l.sel.toNat, by omega, by omega⟩

theorem drawn_of_empty {l : AuthdList} (h : l.num = 0) : l.drawn = [] := by
  unfold drawn listWindow
  simp [h]

/-- **Every entry that is drawn exists.** -/
theorem Valid.drawn_lt {l : AuthdList} (h : l.Valid) {i : Int} (hi : i ∈ l.drawn) :
    0 ≤ i ∧ i < (l.entries.getD []).length := by
  rcases Nat.eq_zero_or_pos l.num with hz | hpos
  · rw [drawn_of_empty hz] at hi
    exact absurd hi List.not_mem_nil
  · obtain ⟨j, rfl, -, hj⟩ := (h.mem_drawn hpos).mp hi
    have htop := Viewport.top_add_le 8 l.num l.sel.toNat
    rw [← h.num]
    omega

/-- **The selected entry is drawn.** -/
theorem Valid.sel_mem_drawn {l : AuthdList} (h : l.Valid) (hpos : 0 < l.num) :
    l.sel ∈ l.drawn := by
  obtain ⟨h0, hlt⟩ := h.sel hpos
  have hk : l.sel.toNat < l.num := by omega
  refine (h.mem_drawn hpos).mpr ⟨l.sel.toNat, (Int.toNat_of_nonneg h0).symm, ?_, ?_⟩
  · exact Viewport.top_le _ _ _
  · exact Viewport.lt_top_add (by omega) hk

theorem Valid.keyIndex_lt {l : AuthdList} (h : l.Valid) {i : Int} (hi : l.keyIndex = some i) :
    0 ≤ i ∧ i < (l.entries.getD []).length := by
  unfold keyIndex at hi
  split at hi
  · rename_i hsel
    cases hi
    rw [← h.num]
    exact hsel
  · cases hi

theorem Valid.none_notMem_rows {l : AuthdList} (h : l.Valid) : none ∉ l.rows := by
  intro hmem
  obtain ⟨i, hi, hrow⟩ := List.mem_map.mp hmem
  obtain ⟨h0, hlt⟩ := h.drawn_lt hi
  rw [Option.map_eq_none_iff, List.getElem?_eq_none_iff] at hrow
  omega

end AuthdList

/-- No read of a list is out of bounds, and the selected row is drawn. -/
structure Navigable (isBroker : Bool) (s : SwaylockState) : Prop where
  num : (authdList isBroker s).num ≤ 256
  null : (authdList isBroker s).entries = none → (authdList isBroker s).num = 0
  sel : 0 < (authdList isBroker s).num →
    0 ≤ (authdList isBroker s).sel ∧ (authdList isBroker s).sel < (authdList isBroker s).num
  key : ∀ i, (authdList isBroker s).keyIndex = some i →
    0 ≤ i ∧ i < ((authdList isBroker s).entries.getD []).length
  drawn : ∀ i ∈ (authdList isBroker s).drawn,
    0 ≤ i ∧ i < ((authdList isBroker s).entries.getD []).length
  shown : Shows isBroker s → renderList s = some (authdList isBroker s).rows
  rows : none ∉ (authdList isBroker s).rows
  visible : Shows isBroker s → 0 < (authdList isBroker s).num →
    (authdList isBroker s).sel ∈ (authdList isBroker s).drawn

/-- **In every reachable state both lists can be navigated and drawn.** -/
theorem lists_navigable (args : SwaylockArgs) (buffer : List UInt8) (p : Pipe)
    {as : List MainEvent} {m : MainProcess}
    (h : run (mainStep parse) as ⟨.start args buffer, p⟩ = some m) (isBroker : Bool) :
    Navigable isBroker m.state := by
  have hv := valid_run parse h (valid_start args buffer p) isBroker
  refine ⟨hv.max, fun hnull => ?_, hv.sel, fun i hi => hv.keyIndex_lt hi,
    fun i hi => hv.drawn_lt hi, renderList_of_shows, hv.none_notMem_rows,
    fun _ hpos => hv.sel_mem_drawn hpos⟩
  rw [hv.num, hnull]
  rfl

/-- Twelve brokers, and three steps down. -/
theorem lists_navigable_down :
    ∃ m, run (mainStep fun _ => some (.array (List.replicate 12 (.object []))))
        [.message {} ⟨COMM_MSG_BROKERS, ascii "brokers"⟩, .key {} .Down 0, .key {} .Down 0,
          .key {} .Down 0] ⟨.start {} [0], {}⟩ = some m ∧ Navigable true m.state := by
  have h : run (mainStep fun _ => some (.array (List.replicate 12 (.object []))))
      [.message {} ⟨COMM_MSG_BROKERS, ascii "brokers"⟩, .key {} .Down 0, .key {} .Down 0,
        .key {} .Down 0] ⟨.start {} [0], {}⟩ = some _ := rfl
  exact ⟨_, h, lists_navigable _ {} [0] {} h true⟩

end SwaylockAuthd
