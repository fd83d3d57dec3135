import SwaylockAuthd.Fidelity
import SwaylockAuthd.Hangup
import SwaylockAuthd.Lib.Replica

/-!
# The dialogue with authd

What authd tells the user goes through the child, a frame at a time, into the fields of
`struct swaylock_state`, while the user presses keys, timers expire and attempts are denied.

* `Dialogue`: what the user has been told; `Dialogue.tell`: how a notice changes it.
* `frameNotice`, `dialogue_commInFrame`: `comm_in` applies the notice of a frame.
* `eventNotice`, `conversationStep_tells`: the child writes the notice of an event.
* `dialogue_follows`: the main process is a replica of the dialogue.
-/

namespace SwaylockAuthd

open Transition Replica

/-! ## The dialogue -/

/-- What the user has been told. -/
structure Dialogue where
  active : Bool := false
  stage : AuthdStage := .none
  brokers : List AuthdEntry := []
  authModes : List AuthdEntry := []
  layout : AuthdUiLayout := {}
  message : Option CString := none
  deriving DecidableEq, Repr

/-- What can be told. -/
inductive Notice
  | brokers (entries : List AuthdEntry)
  | authModes (entries : List AuthdEntry)
  | layout (layout : AuthdUiLayout)
  | stage (stage : AuthdStage)
  | message (text : Option CString)
  deriving DecidableEq, Repr

/-- A list starts its stage, a layout is for a new challenge, and a message stays until the
next message or layout. -/
def Dialogue.tell (d : Dialogue) : Notice → Dialogue
  | .brokers entries =>
    { d with active := true, stage := .broker, brokers := entries.take authdListMax }
  | .authModes entries =>
    { d with active := true, stage := .authMode, authModes := entries.take authdListMax }
  | .layout layout => { d with layout, message := none, stage := .challenge }
  | .stage stage => { d with stage }
  | .message text => { d with message := text }

/-- The dialogue in the state of the main process. -/
def dialogue (s : SwaylockState) : Dialogue where
  active := s.authdActive
  stage := s.authdStage
  brokers := (s.authdBrokers.getD []).map AuthdBroker.entry
  authModes := (s.authdAuthModes.getD []).map AuthdAuthMode.entry
  layout := s.authdLayout
  message := s.authdError

/-! ## The main process -/

/-- There is memory for all that `comm_in` makes of a frame. -/
structure Env.Roomy (env : Env) : Prop where
  json : env.json = true
  array : env.array = true
  string : ∀ n, env.string n = true

/-- The string of a member of an item. -/
def textOf (j : Json) (name : String) : Option CString := (j.stringItem name).map cstr

/-- An entry of a list. -/
def shownEntry (name : String) (j : Json) : AuthdEntry :=
  { id := textOf j "id", text := textOf j name }

/-- A layout. -/
def layoutOf (j : Json) : AuthdUiLayout where
  type := textOf j "type"
  label := textOf j "label"
  button := textOf j "button"
  entry := textOf j "entry"
  wait := textOf j "wait" = some (ascii "true")
  qrContent := textOf j "content"
  qrCode := textOf j "code"

/-- The entries of a list; anything else is an empty one. -/
def entriesOf (name : String) (j : Option Json) : List AuthdEntry :=
  match j with
  | some (.array items) => items.map (shownEntry name)
  | _ => []

variable (parse : CString → Option Json) (print : Json → Option CString) (username : CString)

/-- What a frame tells. -/
def frameNotice (f : Frame) : Option Notice :=
  let json := f.buffer.bind fun b => parse (cstr b)
  if f.type = COMM_MSG_BROKERS then some (.brokers (entriesOf "name" json))
  else if f.type = COMM_MSG_AUTH_MODES then some (.authModes (entriesOf "label" json))
  else if f.type = COMM_MSG_UI_LAYOUT then some (.layout ((json.map layoutOf).getD {}))
  else if f.type = COMM_MSG_STAGE then f.payload.head?.map fun b => .stage (.ofByte b)
  else if f.type = COMM_MSG_AUTH_EVENT then
    some (.message (json.bind fun j => textOf j "msg"))
  else none

variable {parse} {print}

theorem strdupItem_roomy {env : Env} (h : env.Roomy) (n : Nat) (j : Json) (name : String) :
    strdupItem env n j name = textOf j name := by
  rw [strdupItem, if_pos (h.string n)]
  rfl

theorem cJSONParse_roomy {env : Env} (h : env.Roomy) (payload : Option (List UInt8)) :
    cJSONParse parse env payload = payload.bind fun b => parse (cstr b) := by
  rw [cJSONParse, if_pos h.json]

theorem authdUiLayout_roomy {env : Env} (h : env.Roomy) (j : Json) :
    authdUiLayout env j = layoutOf j := by
  simp only [authdUiLayout, strdupItem_roomy h]
  rfl

theorem map_zipIdx_fst {α β : Type} {f : α × Nat → β} {g : α → β} (h : ∀ x, f x = g x.1)
    (l : List α) (n : Nat) : (l.zipIdx n).map f = l.map g := by
  induction l generalizing n with
  | nil => rfl
  | cons a l ih => rw [List.zipIdx_cons, List.map_cons, List.map_cons, ih, h]

theorem entry_authdBroker {env : Env} (h : env.Roomy) (x : Json × Nat) :
    (authdBroker env x).entry = shownEntry "name" x.1 := by
  simp only [authdBroker, AuthdBroker.entry, shownEntry, strdupItem_roomy h]

theorem entry_authdAuthMode {env : Env} (h : env.Roomy) (x : Json × Nat) :
    (authdAuthMode env x).entry = shownEntry "label" x.1 := by
  simp only [authdAuthMode, AuthdAuthMode.entry, shownEntry, strdupItem_roomy h]

theorem dialogue_brokers {env : Env} (h : env.Roomy) (s : SwaylockState)
    (payload : Option (List UInt8)) :
    dialogue (commInBrokers parse env s payload) =
      (dialogue s).tell (.brokers (entriesOf "name" (payload.bind fun b => parse (cstr b)))) := by
  rw [commInBrokers, cJSONParse_roomy h]
  cases hj : payload.bind fun b => parse (cstr b) with
  | none => rfl
  | some j =>
    cases j with
    | array items =>
      simp only [if_pos h.array, dialogue, damageState, Dialogue.tell, entriesOf, Option.getD_some,
        List.map_map, Dialogue.mk.injEq, true_and, and_true]
      rw [← List.map_take, map_zipIdx_fst (f := AuthdBroker.entry ∘ authdBroker env)
        fun x => entry_authdBroker h x]
    | _ => rfl

theorem dialogue_authModes {env : Env} (h : env.Roomy) (s : SwaylockState)
    (payload : Option (List UInt8)) :
    dialogue (commInAuthModes parse env s payload) =
      (dialogue s).tell
        (.authModes (entriesOf "label" (payload.bind fun b => parse (cstr b)))) := by
  rw [commInAuthModes, cJSONParse_roomy h]
  cases hj : payload.bind fun b => parse (cstr b) with
  | none => rfl
  | some j =>
    cases j with
    | array items =>
      simp only [if_pos h.array, dialogue, damageState, Dialogue.tell, entriesOf, Option.getD_some,
        List.map_map, Dialogue.mk.injEq, true_and, and_true]
      rw [← List.map_take, map_zipIdx_fst (f := AuthdAuthMode.entry ∘ authdAuthMode env)
        fun x => entry_authdAuthMode h x]
    | _ => rfl

theorem dialogue_stage (env : Env) (s : SwaylockState) (f : Frame) :
    dialogue (commInStage env s f.buffer f.payload.length) =
      (f.payload.head?.map fun b => Notice.stage (.ofByte b)).elim (dialogue s)
        (dialogue s).tell := by
  obtain ⟨type, payload⟩ := f
  cases payload with
  | nil => rfl
  | cons b l =>
    have hlen : 1 ≤ (b :: l).length := Nat.le_add_left 1 l.length
    rw [commInStage, if_pos hlen]
    dsimp only
    split <;> rfl

/-- **`comm_in` applies the notice of a frame**, whatever the frame, and nothing else. -/
theorem dialogue_commInFrame {env : Env} (h : env.Roomy) (s : SwaylockState) (f : Frame) :
    dialogue (commInFrame parse env s f) =
      (frameNotice parse f).elim (dialogue s) (dialogue s).tell := by
  unfold commInFrame commInSwitch frameNotice
  simp only [toNat_type_eq_iff]
  split
  · rename_i hf
    have hnone : ∀ b, b ≠ COMM_MSG_AUTH_RESULT → f.type ≠ b := fun b hb he => hb (he.symm.trans hf)
    rw [if_neg (hnone _ (by decide)), if_neg (hnone _ (by decide)), if_neg (hnone _ (by decide)),
      if_neg (hnone _ (by decide)), if_neg (hnone _ (by decide))]
    unfold commInAuthResult
    split <;> rfl
  · split
    · exact dialogue_brokers h s f.buffer
    · split
      · exact dialogue_authModes h s f.buffer
      · split
        · rw [commInUiLayout, cJSONParse_roomy h]
          cases f.buffer.bind fun b => parse (cstr b) with
          | none => rfl
          | some j =>
            simp only [Option.map_some, Option.getD_some, authdUiLayout_roomy h]
            rfl
        · split
          · exact dialogue_stage env s f
          · split
            · rw [commInAuthEvent, cJSONParse_roomy h]
              simp only [strdupItem_roomy h]
              rfl
            · rfl

/-- Nothing else changes the dialogue. -/
theorem dialogue_navigates {s t : SwaylockState} (h : Navigates s t) :
    dialogue t = dialogue s := h.keep dialogue (by intros; rfl)

theorem dialogue_visitTimer (env : Env) (now : Timespec) (addr : Nat) (s : SwaylockState) :
    dialogue (visitTimer env now addr s) = dialogue s := by
  rcases visitTimer_cases env now addr s with hv | hv | ⟨callback, t, -, rfl, hv⟩
  · rw [hv]
  · rw [hv]
    rfl
  · rw [hv]
    cases callback <;> rfl

theorem dialogue_keyStep {env : Env} {s t : SwaylockState} {p q : Pipe}
    (h : KeyStep env s p t q) : dialogue t = dialogue s := by
  cases h with
  | move hn => exact dialogue_navigates hn
  | send hn => exact dialogue_navigates hn
  | edit a codepoint => exact (edits_edit _ _ codepoint a).keep dialogue (by intros; rfl)
  | fail => rfl
  | submit => rfl

/-! ## The child -/

/-- The value of an event that is printed for the main process. -/
def gdmValue (event : Option Json) : Option Json :=
  let etype := (stringOf (item event "type")).getD []
  if etype = ascii "brokersReceived" then some (passedOn true event)
  else if etype = ascii "authModesReceived" then some (passedOn false event)
  else if etype = ascii "uiLayoutReceived" then item event "uiLayout"
  else if etype = ascii "authEvent" then item event "response"
  else none

/-- What an event of authd says. -/
def eventNotice (event : Option Json) : Option Notice :=
  let etype := (stringOf (item event "type")).getD []
  let entry := fun name (j : Json) =>
    ({ id := stringOf (j.getObjectItemCaseSensitive "id")
       text := stringOf (j.getObjectItemCaseSensitive name) } : AuthdEntry)
  if etype = ascii "brokersReceived" then
    some (.brokers ((eventEntries true event).map (entry "name")))
  else if etype = ascii "authModesReceived" then
    some (.authModes ((eventEntries false event).map (entry "label")))
  else if etype = ascii "uiLayoutReceived" then
    (item event "uiLayout").map fun j => .layout (layoutOf j)
  else if etype = ascii "stageChanged" then some (.stage (gdmStage (item event "stage")))
  else if etype = ascii "startAuthentication" then some (.stage .challenge)
  else if etype = ascii "authEvent" then
    (item event "response").map fun j => .message (textOf j "msg")
  else none

variable (parse) (print)

/-- A value that can be printed, fits in a frame and is read back. -/
def Legible (j : Json) : Prop :=
  ∃ text, cJSONPrint print (some j) = some text ∧ text ≠ [] ∧ text.length ≤ COMM_MAX_PAYLOAD ∧
    parse text = some j

variable {parse} {print}

theorem ofByte_toByte_gdmStage (stage : Option Json) :
    AuthdStage.ofByte (gdmStage stage).toByte = gdmStage stage := by
  unfold gdmStage
  dsimp only
  repeat' split
  all_goals rfl

/-- The bytes tell a notice, or nothing. -/
structure TellsNotice (parse : CString → Option Json) (out : List UInt8) (notice : Option Notice) :
    Prop where
  carries : frameFraming.Carries (fun f => f.type ≠ 0) out
  means : (frames out).filterMap (frameNotice parse) = notice.toList

theorem tells_nothing : TellsNotice parse [] none := ⟨frameFraming.carries_nil _, rfl⟩

theorem tells_bytes {f : Frame} (h : f.Fits) (hf : f.type ≠ 0) :
    TellsNotice parse f.bytes (frameNotice parse f) := by
  refine ⟨Framing.carries_of_writes (writes_bytes h) hf, ?_⟩
  rw [(frames_bytes h).1, List.filterMap_cons, List.filterMap_nil]
  cases frameNotice parse f <;> rfl

theorem tells_writeStage {stage : AuthdStage} (h : AuthdStage.ofByte stage.toByte = stage) :
    TellsNotice parse (writeStage stage) (some (.stage stage)) := by
  have hnotice : frameNotice parse ⟨COMM_MSG_STAGE, [stage.toByte]⟩ = some (.stage stage) := by
    show (some (Notice.stage (.ofByte stage.toByte)) : Option Notice) = _
    rw [h]
  rw [← hnotice, writeStage_eq]
  exact tells_bytes (by simp [Frame.Fits, COMM_MAX_PAYLOAD]) (by decide : COMM_MSG_STAGE ≠ 0)

/-- A value that is passed on. -/
theorem tells_writeJson {type : UInt8} {j : Json} {notice : Notice} (ht : type ≠ 0)
    (h : Legible parse print j)
    (hn : ∀ f : Frame, f.type = type → (f.buffer.bind fun b => parse (cstr b)) = some j →
      frameNotice parse f = some notice) :
    TellsNotice parse (writeJson print type (some j)) (some notice) := by
  obtain ⟨text, htext, hne, hlen, hparse⟩ := h
  have hnul : (0 : UInt8) ∉ text := by
    obtain ⟨l, -, rfl⟩ := Option.map_eq_some_iff.mp htext
    exact nul_notMem_cstr l
  have hbuffer : Frame.buffer ⟨type, text⟩ = some (text ++ [0]) := if_neg hne
  have hread : ((Frame.buffer ⟨type, text⟩).bind fun b => parse (cstr b)) = some j := by
    rw [hbuffer, Option.bind_some, cstr_append_nul, cstr_eq_self hnul, hparse]
  rw [writeJson_frame print htext, ← hn ⟨type, text⟩ rfl hread]
  exact tells_bytes hlen ht

/-- What is read of an entry that is passed on. -/
theorem entryOf_gdmEntry {name : String} (hname : name = "name" ∨ name = "label") (b : Json) :
    shownEntry name (gdmEntry name b) =
      { id := stringOf (b.getObjectItemCaseSensitive "id")
        text := stringOf (b.getObjectItemCaseSensitive name) } := by
  have hcstr : ∀ j : Option Json, (stringOf j).map cstr = stringOf j := by
    intro j
    cases hj : stringOf j with
    | none => rfl
    | some v => rw [Option.map_some, cstr_eq_self (nul_notMem_stringOf hj)]
  unfold shownEntry textOf
  rw [← hcstr (b.getObjectItemCaseSensitive "id"), ← hcstr (b.getObjectItemCaseSensitive name)]
  unfold gdmEntry
  generalize stringOf (b.getObjectItemCaseSensitive "id") = id
  generalize stringOf (b.getObjectItemCaseSensitive name) = text
  rcases hname with rfl | rfl <;> cases id <;> cases text <;> rfl

theorem entriesOf_passedOn (isBroker : Bool) (event : Option Json) :
    entriesOf (listText isBroker) (some (passedOn isBroker event)) =
      (eventEntries isBroker event).map fun j =>
        { id := stringOf (j.getObjectItemCaseSensitive "id")
          text := stringOf (j.getObjectItemCaseSensitive (listText isBroker)) } := by
  have hname : listText isBroker = "name" ∨ listText isBroker = "label" := by
    cases isBroker
    · exact Or.inr rfl
    · exact Or.inl rfl
  rw [passedOn_eq, entriesOf, List.map_map]
  exact List.map_congr_left fun j _ => entryOf_gdmEntry hname j

/-- A list that is passed on. -/
theorem tells_list {isBroker : Bool} {event : Option Json}
    (h : Legible parse print (passedOn isBroker event)) :
    TellsNotice parse (writeJson print (listType isBroker) (some (passedOn isBroker event)))
      (some ((if isBroker then Notice.brokers else Notice.authModes)
        ((eventEntries isBroker event).map fun j =>
          { id := stringOf (j.getObjectItemCaseSensitive "id")
            text := stringOf (j.getObjectItemCaseSensitive (listText isBroker)) }))) := by
  rw [← entriesOf_passedOn]
  cases isBroker
  · refine tells_writeJson (by decide) h fun f hf hj => ?_
    change f.type = COMM_MSG_AUTH_MODES at hf
    rw [frameNotice, if_neg (by rw [hf]; decide), if_pos hf, hj]
    rfl
  · refine tells_writeJson (by decide) h fun f hf hj => ?_
    change f.type = COMM_MSG_BROKERS at hf
    rw [frameNotice, if_pos hf, hj]
    rfl

/-- **What an event writes tells what the event says.** -/
theorem tells_gdmEvent {event : Option Json}
    (h : ∀ j, gdmValue event = some j → Legible parse print j) :
    TellsNotice parse (gdmEvent print event) (eventNotice event) := by
  unfold gdmValue at h
  unfold gdmEvent eventNotice
  dsimp only at h ⊢
  split
  · rename_i h1
    rw [if_pos h1] at h
    have ht := tells_list (h (passedOn true event) rfl)
    rw [if_pos rfl] at ht
    exact ht
  rename_i h1
  rw [if_neg h1] at h
  split
  · rename_i h2
    rw [if_pos h2] at h
    have ht := tells_list (h (passedOn false event) rfl)
    rw [if_neg Bool.false_ne_true] at ht
    exact ht
  rename_i h2
  rw [if_neg h2] at h
  split
  · rename_i h3
    rw [if_pos h3] at h
    cases hi : item event "uiLayout" with
    | none => exact tells_nothing
    | some j =>
      refine tells_writeJson (by decide) (h _ hi) fun f hf hj => ?_
      rw [frameNotice, if_neg (by rw [hf]; decide), if_neg (by rw [hf]; decide), if_pos hf, hj]
      rfl
  rename_i h3
  rw [if_neg h3] at h
  split
  · exact tells_writeStage (ofByte_toByte_gdmStage _)
  split
  · exact tells_writeStage rfl
  split
  · rename_i h6
    rw [if_pos h6] at h
    cases hi : item event "response" with
    | none => exact tells_nothing
    | some j =>
      refine tells_writeJson (by decide) (h _ hi) fun f hf hj => ?_
      rw [frameNotice, if_neg (by rw [hf]; decide), if_neg (by rw [hf]; decide),
        if_neg (by rw [hf]; decide), if_neg (by rw [hf]; decide), if_pos hf, hj]
      rfl
  · exact tells_nothing

/-! ## What the child says -/

variable (parse) (print)

/-- What `handle_gdm_json` has written. -/
def GdmStart.out : GdmStart → List UInt8
  | .answer out _ => out
  | _ => []

/-- The event of a JSON message. -/
def eventOf (env : Env) (json : List UInt8) : Option (Option Json) :=
  (cJSONParse parse env (some json)).bind fun root =>
    if stringOf (root.getObjectItemCaseSensitive "type") = some (ascii "event") then
      some (root.getObjectItemCaseSensitive "event")
    else none

/-- What a message of the conversation says: a prompt asks for a password. -/
def messageNotice (env : Env) : PamMessage → Option Notice
  | .PAM_PROMPT_ECHO_OFF | .PAM_PROMPT_ECHO_ON => some (.stage .challenge)
  | .PAM_BINARY_PROMPT true json => (eventOf parse env json).bind eventNotice
  | _ => none

/-- The message the child handles next. -/
def PamChild.nextMessage (c : PamChild) : Option PamMessage :=
  match c.phase with
  | .conversation todo => todo.head?
  | _ => none

/-- What a step of the child tells the main process. -/
def stepNotice (a : PamAction) (c : PamChild) : Option Notice :=
  match a with
  | .next env => c.nextMessage.bind (messageNotice parse env)
  | _ => none

/-- What is relied on in a step: there is memory for what `comm_in` makes of a frame, and what
the child prints is read back. -/
def Conveyed (a : Action PamAction) (s : System PamChild) : Prop :=
  match a with
  | .main (.reply env) => env.Roomy
  | .child (.next env) => ∀ json event j,
      s.child.nextMessage = some (.PAM_BINARY_PROMPT true json) →
      eventOf parse env json = some event → gdmValue event = some j → Legible parse print j
  | _ => True

variable {parse} {print} {username}

theorem tells_handleGdmJson (username : CString) (env : Env) (st : ConvState) (json : List UInt8)
    (hC : ∀ event j, eventOf parse env json = some event → gdmValue event = some j →
      Legible parse print j) :
    TellsNotice parse (handleGdmJson parse print username env st json).out
      ((eventOf parse env json).bind eventNotice) := by
  unfold handleGdmJson eventOf at *
  cases hroot : cJSONParse parse env (some json) with
  | none => exact tells_nothing
  | some root =>
    dsimp only
    rw [hroot, Option.bind_some] at hC
    rw [Option.bind_some]
    cases htype : stringOf (root.getObjectItemCaseSensitive "type") with
    | none => exact tells_nothing
    | some type =>
      rw [htype] at hC
      dsimp only
      by_cases he : type = ascii "event"
      · subst he
        rw [if_pos rfl] at hC ⊢
        rw [if_neg (by decide), if_neg (by decide), if_pos rfl]
        exact tells_gdmEvent fun j hj => hC _ j rfl hj
      · have hne : ¬ some type = some (ascii "event") := fun hs => he (Option.some.inj hs)
        rw [if_neg hne, if_neg he]
        repeat' split
        all_goals exact tells_nothing

/-- **A message of the conversation tells what it says.** -/
theorem tells_conversationStep {env : Env} {c : PamChild} {p : Pipe} {m : PamMessage}
    {todo : List PamMessage}
    (hC : ∀ json event j, m = .PAM_BINARY_PROMPT true json →
      eventOf parse env json = some event → gdmValue event = some j → Legible parse print j) :
    TellsNotice parse (conversationStep parse print username env c p (m :: todo)).out
      (messageNotice parse env m) := by
  cases m with
  | PAM_PROMPT_ECHO_OFF => exact tells_writeStage rfl
  | PAM_PROMPT_ECHO_ON => exact tells_writeStage rfl
  | PAM_TEXT_INFO => exact tells_nothing
  | PAM_ERROR_MSG => exact tells_nothing
  | other style => exact tells_nothing
  | PAM_BINARY_PROMPT valid json =>
    cases valid with
    | false => exact tells_nothing
    | true =>
      have ht := tells_handleGdmJson username env c.conv json fun event j => hC json event j rfl
      rw [conversationStep, if_pos rfl]
      cases hj : handleGdmJson parse print username env c.conv json with
      | abort | poll conv | answer out response => rw [hj] at ht; exact ht

theorem tells_pamAct {a : PamAction} {s : System PamChild} {p : Pipe} {r : Reaction PamChild}
    (h : pamAct parse print username a s.child p = some r)
    (hC : Conveyed parse print (.child a) s) :
    TellsNotice parse r.out (stepNotice parse a s.child) := by
  have result : ∀ granted, TellsNotice parse (authResultBytes granted) none := by
    intro granted
    rw [authResultBytes_eq]
    exact tells_bytes (by cases granted <;> decide) (by decide : COMM_MSG_AUTH_RESULT ≠ 0)
  have quiet : ∀ {env : Env}, (∀ todo, s.child.phase ≠ .conversation todo) →
      stepNotice parse (.next env) s.child = none := by
    intro env hphase
    have hnone : s.child.nextMessage = none := by
      unfold PamChild.nextMessage
      split
      · rename_i todo hp
        exact absurd hp (hphase todo)
      · rfl
    rw [stepNotice, hnone, Option.bind_none]
  cases pam_cases parse print username h with
  | start | converse | noMemory | finish => exact tells_nothing
  | denied | failed => exact result false
  | granted => exact result true
  | @conversation env todo hp =>
    have hnext : s.child.nextMessage = todo.head? := by rw [PamChild.nextMessage, hp]
    rw [stepNotice, hnext]
    cases todo with
    | nil => exact tells_nothing
    | cons m todo =>
      refine tells_conversationStep fun json event j hm => hC json event j ?_
      rw [hnext, hm, List.head?_cons]
  | prompt hp =>
    rw [promptRead_out, quiet (by rw [hp]; simp)]
    exact tells_nothing
  | polling hp step =>
    rw [pollStep_out print step, quiet (by rw [hp]; simp)]
    exact tells_nothing

/-! ## The run -/

variable (parse) in
/-- What the child has said in a run. -/
def noteTold (a : Action PamAction) (s _ : System PamChild) (told : List Notice) : List Notice :=
  match a with
  | .child a => told ++ (stepNotice parse a s.child).toList
  | _ => told

variable (parse) in
/-- The main process is a replica of the dialogue, and the frames on their way tell it the rest;
`cut` is what a child that has ended did not write. -/
def Conversing (y : System PamChild × List Notice) : Prop :=
  ∃ cut, (if y.1.alive then cut = y.1.out else y.1.out = []) ∧
    frameFraming.Carries (fun f => f.type ≠ 0) (y.1.main.toMain.data ++ cut) ∧
    Follows Dialogue.tell (frameNotice parse) {} y.2 (dialogue y.1.main.state)
      (frames (y.1.main.toMain.data ++ cut))

/-- What a step of the main process hears: a frame, or nothing. -/
inductive Hears (parse : CString → Option Json) (m n : MainSide) : MainAction → Prop
  | nothing {a : MainAction} (data : n.toMain.data = m.toMain.data)
      (same : dialogue n.state = dialogue m.state) : Hears parse m n a
  | frame {env : Env} {f : Frame} {rest : List UInt8}
      (head : frameHead m.toMain.data = .item f rest) (data : n.toMain.data = rest)
      (state : n.state = commInFrame parse env m.state f) : Hears parse m n (.reply env)

theorem MainMove.hears {debugUnlock : Bool} {a : MainAction} {m n : MainSide}
    (h : MainMove debugUnlock parse m a n) : Hears parse m n a := by
  cases h with
  | frame _ _ head _ eq => exact .frame head rfl eq
  | key _ _ step => exact .nothing rfl (dialogue_keyStep step)
  | modifiers _ keep => exact .nothing rfl (keep.keep dialogue (by intros; rfl))
  | timer => exact .nothing rfl (dialogue_visitTimer _ _ _ _)
  | _ => exact .nothing rfl rfl

theorem conversing_childEnds {s : System PamChild} {told : List Notice}
    (h : Conversing parse (s, told)) : Conversing parse (s.childEnds, told) := by
  obtain ⟨cut, -, hcarries, hfollows⟩ := h
  exact ⟨cut, rfl, hcarries, hfollows⟩

theorem conversing_child {s : System PamChild} {r : Reaction PamChild} {told : List Notice}
    {notice : Option Notice} (h : Conversing parse (s, told)) (alive : s.alive = true)
    (idle : s.out = []) (ht : TellsNotice parse r.out notice) :
    Conversing parse ({ s with
      main := { s.main with toChild := r.toChild }, child := r.child, out := r.out },
      told ++ notice.toList) := by
  obtain ⟨cut, hcut, hcarries, hfollows⟩ := h
  dsimp only at hcut hcarries hfollows
  rw [if_pos alive, idle] at hcut
  subst hcut
  rw [List.append_nil] at hcarries hfollows
  refine ⟨r.out, if_pos alive ▸ rfl, hcarries.append ht.carries, ?_⟩
  dsimp only
  rw [frames, Framing.items_append_of_carries hcarries, ← ht.means]
  exact hfollows.send _

theorem conversing_main {debugUnlock : Bool} {a : MainAction} {s : System PamChild} {m : MainSide}
    {told : List Notice} (h : Conversing parse (s, told)) (hC : Conveyed parse print (.main a) s)
    (hm : MainMove debugUnlock parse s.main a m) :
    Conversing parse ({ s with main := m.settle }, told) := by
  obtain ⟨cut, hcut, hcarries, hfollows⟩ := h
  cases hm.hears with
  | nothing data same =>
    refine ⟨cut, hcut, ?_⟩
    dsimp only
    rw [settle_toMain_data, settle_state, data, same]
    exact ⟨hcarries, hfollows⟩
  | @frame env f rest head data state =>
    have hhead := frameFraming.item_append cut head
    refine ⟨cut, hcut, ?_⟩
    dsimp only
    rw [settle_toMain_data, settle_state, data, state, dialogue_commInFrame hC]
    refine ⟨(hcarries.tail hhead).2, Follows.receive ?_⟩
    rw [frames, ← frameFraming.items_of_item hhead]
    exact hfollows

theorem conversing_step {debugUnlock : Bool} {a : Action PamAction}
    {y z : System PamChild × List Notice} (h : Conversing parse y)
    (hC : Conveyed parse print a y.1)
    (hstep : monitored (system debugUnlock parse (pamBackend parse print username))
      (noteTold parse) a y = some z) : Conversing parse z := by
  obtain ⟨s, told⟩ := y
  obtain ⟨t, told'⟩ := z
  obtain ⟨hmove, hnote⟩ := monitored_eq_some.mp hstep
  change system debugUnlock parse (pamBackend parse print username) a s = some t at hmove
  change told' = noteTold parse a s t told at hnote
  subst hnote
  cases system_cases debugUnlock parse _ hmove with
  | main hm => exact conversing_main h hC hm
  | child alive idle act => exact conversing_child h alive idle (tells_pamAct act hC)
  | childExits alive idle act =>
    exact conversing_childEnds (conversing_child h alive idle (tells_pamAct act hC))
  | @write n alive busy reader =>
    obtain ⟨cut, hcut, hcarries, hfollows⟩ := h
    dsimp only at hcut hcarries hfollows
    rw [if_pos alive] at hcut
    subst hcut
    refine ⟨s.out.drop (n + 1), if_pos alive ▸ rfl, ?_⟩
    dsimp only
    rw [inFlight_write]
    exact ⟨hcarries, hfollows⟩
  | sigpipe => exact conversing_childEnds h
  | crash => exact conversing_childEnds h

theorem conversing_start (child : PamChild) (args : SwaylockArgs) (buffer : List UInt8) :
    Conversing parse (System.start child args buffer, []) :=
  ⟨[], rfl, frameFraming.carries_nil _, follows_nil _ _ _⟩

/-- **The main process follows the dialogue.**  In every state of every run it shows what has been
said up to some notice, and the frames on their way tell what comes next: everything that
has been said, unless the child has ended. -/
theorem dialogue_follows (debugUnlock : Bool) (parse : CString → Option Json)
    (print : Json → Option CString) (username : CString) (child : PamChild) (args : SwaylockArgs)
    (buffer : List UInt8) {as : List (Action PamAction)} {z : System PamChild × List Notice}
    (hC : Along (system debugUnlock parse (pamBackend parse print username)) (Conveyed parse print)
      as (.start child args buffer))
    (h : run (monitored (system debugUnlock parse (pamBackend parse print username))
      (noteTold parse)) as (.start child args buffer, []) = some z) :
    ∃ seen, dialogue z.1.main.state = seen.foldl Dialogue.tell {} ∧
      seen ++ (frames z.1.inFlight).filterMap (frameNotice parse) <+: z.2 ∧
      (z.1.alive = true → seen ++ (frames z.1.inFlight).filterMap (frameNotice parse) = z.2) := by
  obtain ⟨cut, hcut, hcarries, seen, hlog, hstate⟩ := run_invariant_along
    (fun a y y' hy hC hstep => conversing_step hy hC hstep) (along_monitored hC) h
    (conversing_start child args buffer)
  refine ⟨seen, hstate, ?_⟩
  split at hcut
  · subst hcut
    exact ⟨by rw [hlog]; exact List.prefix_rfl, fun _ => hlog.symm⟩
  · rename_i dead
    refine ⟨?_, fun alive => absurd alive dead⟩
    rw [hlog, System.inFlight, hcut, List.append_nil]
    exact (List.prefix_append_right_inj seen).mpr
      ((frameFraming.items_prefix_append cut _).filterMap _)

/-- authd offers three brokers, PAM asks for a password, and the main process has read the list. -/
def brokersRun : List (Action PamAction) :=
  [.child (.start true),
    .child (.converse [.PAM_BINARY_PROMPT true (compact brokersRoot), .PAM_PROMPT_ECHO_OFF] true),
    .child (.next {}), .write 200, .child (.next {}), .main (.lock true), .main (.flush true),
    .main (.poll false), .main (.reply { reads := List.replicate 3 (.short 255) })]

theorem legible_brokers : Legible parseBrokers printBrokers (passedOn true (some brokersEvent)) :=
  ⟨compact (passedOn true (some brokersEvent)), rfl, by decide, by decide, rfl⟩

/-- The only event that is read. -/
theorem eventOf_brokers {env : Env} {json : List UInt8} {event : Option Json}
    (h : eventOf parseBrokers env json = some event) : event = some brokersEvent := by
  obtain ⟨root, hroot, hevent⟩ := Option.bind_eq_some_iff.mp h
  rw [cJSONParse] at hroot
  split at hroot
  · have hmem := List.mem_of_find?_eq_some hroot
    simp only [List.mem_cons, List.not_mem_nil, or_false] at hmem
    rcases hmem with rfl | rfl
    · cases hevent
      rfl
    · cases hevent
  · cases hroot

theorem conveyed_brokers {env : Env} (s : System PamChild) :
    Conveyed parseBrokers printBrokers (.child (.next env)) s := by
  intro json event j _ hevent hj
  rw [eventOf_brokers hevent] at hj
  cases hj
  exact legible_brokers

set_option maxRecDepth 10000 in
theorem dialogue_follows_brokers :
    ∃ z, run (monitored (system false parseBrokers (pamBackend parseBrokers printBrokers []))
        (noteTold parseBrokers)) brokersRun (System.start {} {} [0], []) = some z ∧
      (∃ seen, dialogue z.1.main.state = seen.foldl Dialogue.tell {} ∧
        seen ++ [.stage .challenge] = z.2) ∧
      (dialogue z.1.main.state).brokers.length = 3 := by
  have hC : Along (system false parseBrokers (pamBackend parseBrokers printBrokers []))
      (Conveyed parseBrokers printBrokers) brokersRun (System.start {} {} [0]) := by
    refine along_of_mem (fun a ha s => ?_) _
    simp only [brokersRun, List.mem_cons, List.not_mem_nil, or_false] at ha
    rcases ha with rfl | rfl | rfl | rfl | rfl | rfl | rfl | rfl | rfl
    all_goals
      first
      | trivial
      | exact ⟨rfl, rfl, fun _ => rfl⟩
      | exact conveyed_brokers s
  obtain ⟨z, hz, halive, hflight, hnum⟩ : ∃ z, run (monitored
      (system false parseBrokers (pamBackend parseBrokers printBrokers []))
      (noteTold parseBrokers)) brokersRun (System.start {} {} [0], []) = some z ∧
      z.1.alive = true ∧ z.1.inFlight = writeStage .challenge ∧
      (dialogue z.1.main.state).brokers.length = 3 := ⟨_, rfl, rfl, rfl, rfl⟩
  obtain ⟨seen, hseen, -, hall⟩ :=
    dialogue_follows false parseBrokers printBrokers [] {} {} [0] hC hz
  refine ⟨z, hz, ⟨seen, hseen, ?_⟩, hnum⟩
  rw [← hall halive, hflight]
  rfl

end SwaylockAuthd
