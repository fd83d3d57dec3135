import SwaylockAuthd.Feed

/-!
# What the user does reaches authd

A `poll` message is answered with one event for each frame the child has read since the
last one.  `Translation` is what an observer writes down: the bytes written into the pipe,
the frames `comm_child_read` has returned, and the event arrays in the texts that
`handle_gdm_json` has returned.

* `AuthdEvent.ofJson`: an event as authd reads it; `Frame.told`: what a frame should tell authd.
* `translating_step`: a step reads the frame at the front, or leaves the pipe alone.
* `poll_lossless`: what authd reads in the arrays is what the frames tell, in order.
-/

namespace SwaylockAuthd

open Transition

/-! ## What authd reads -/

/-- An event of the user. -/
inductive AuthdEvent
  | userSelected (userId : CString)
  | brokerSelected (brokerId : CString)
  | authModeSelected (authModeId : CString)
  | reselectAuthMode
  | isAuthenticatedCancelled
  | isAuthenticatedRequested (secret : CString)
  deriving DecidableEq, Repr

/-- The event an object stands for: `type` names it, and the member of that name holds its data. -/
def AuthdEvent.ofJson (j : Json) : Option AuthdEvent :=
  let data (name : String) := j.getObjectItemCaseSensitive name
  let type := stringOf (data "type")
  if type = some (ascii "userSelected") then
    (stringOf (item (data "userSelected") "userId")).map .userSelected
  else if type = some (ascii "brokerSelected") then
    (stringOf (item (data "brokerSelected") "brokerId")).map .brokerSelected
  else if type = some (ascii "authModeSelected") then
    (stringOf (item (data "authModeSelected") "authModeId")).map .authModeSelected
  else if type = some (ascii "reselectAuthMode") then
    (data "reselectAuthMode").map fun _ => .reselectAuthMode
  else if type = some (ascii "isAuthenticatedCancelled") then
    (data "isAuthenticatedCancelled").map fun _ => .isAuthenticatedCancelled
  else if type = some (ascii "isAuthenticatedRequested") then
    (stringOf (item (item (data "isAuthenticatedRequested") "authenticationData") "secret")).map
      .isAuthenticatedRequested
  else none

/-- The events in the text of a `pollResponse`. -/
def Json.pollEvents (root : Json) : Option (List Json) :=
  if stringOf (root.getObjectItemCaseSensitive "type") = some (ascii "pollResponse") then
    (root.getObjectItemCaseSensitive "pollResponse").map Json.children
  else none

/-- What a frame of the main process should tell authd, with the text of its payload. -/
def Frame.told (f : Frame) : Option AuthdEvent :=
  if f.type = COMM_MSG_BROKER_SEL then some (.brokerSelected (cstr f.payload))
  else if f.type = COMM_MSG_AUTH_MODE_SEL then some (.authModeSelected (cstr f.payload))
  else if f.type = COMM_MSG_BUTTON then some .reselectAuthMode
  else if f.type = COMM_MSG_CANCEL then some .isAuthenticatedCancelled
  else if f.type = COMM_MSG_PASSWORD then some (.isAuthenticatedRequested (cstr f.payload))
  else none

/-- The event a frame is translated into. -/
def Frame.event (f : Frame) : Option Json := gdmTranslate f.type.toNat f.buffer

theorem cstr_buffer (f : Frame) : cstr (f.buffer.getD []) = cstr f.payload := by
  unfold Frame.buffer
  split
  · rename_i h
    rw [h]
    rfl
  · exact cstr_append_nul f.payload []

/-- **Every frame is translated into an event that tells authd what it should.** -/
theorem ofJson_event (f : Frame) : f.event.map AuthdEvent.ofJson = f.told.map some := by
  have text := cstr_cstr f.payload
  unfold Frame.event Frame.told gdmTranslate
  simp only [toNat_type_eq_iff, cstr_buffer]
  split
  · exact congrArg (fun id => some (some (AuthdEvent.brokerSelected id))) text
  split
  · exact congrArg (fun id => some (some (AuthdEvent.authModeSelected id))) text
  split
  · rfl
  split
  · rfl
  split
  · exact congrArg (fun secret => some (some (AuthdEvent.isAuthenticatedRequested secret))) text
  · rfl

variable (parse : CString → Option Json) (print : Json → Option CString) (username : CString)

/-! ## What is observed -/

/-- The bytes written to the child, the frames it has read, the event arrays of its
`pollResponse` messages, and whether a read has failed. -/
structure Translation where
  written : List UInt8 := []
  taken : List Frame := []
  arrays : List (List Json) := []
  failed : Bool := false

/-- The answer that `handle_gdm_json` prints in a step. -/
def responds (a : PamAction) (c : PamChild) (p : Pipe) : Option Json :=
  match a, c.phase with
  | .next env, .conversation (.PAM_BINARY_PROMPT true json :: _) =>
    match handleGdmJson parse print username env c.conv json with
    | .answer _ response => some response
    | _ => none
  | .next env, .polling _ =>
    match gdmPoll env c.conv p with
    | some (.answers response _ _) => some response
    | _ => none
  | _, _ => none

/-- The events in the text that it returns, if that is a `pollResponse`. -/
def answered (a : PamAction) (c : PamChild) (p : Pipe) : Option (List Json) :=
  (cJSONPrint print (responds parse print username a c p)).bind fun text =>
    (parse text).bind Json.pollEvents

def noteTranslation (a : FeedAction) (s _ : Feed) (x : Translation) : Translation :=
  match a with
  | .write bytes => { x with written := x.written ++ bytes }
  | .close => x
  | .child a =>
    let arrays := x.arrays ++ (answered parse print username a s.child s.pipe).toList
    match childRead a s.child s.pipe with
    | some r =>
      { x with
        taken := x.taken ++ (r.frame s.pipe).toList, arrays
        failed := x.failed || readFails a s.pipe }
    | none => { x with arrays }

/-- Messages without a plain prompt. -/
def NoPrompts (todo : List PamMessage) : Prop :=
  .PAM_PROMPT_ECHO_OFF ∉ todo ∧ .PAM_PROMPT_ECHO_ON ∉ todo

instance (todo : List PamMessage) : Decidable (NoPrompts todo) :=
  inferInstanceAs (Decidable (_ ∧ _))

/-- The module sends no plain prompt. -/
def FeedAction.Promptless : FeedAction → Prop
  | .child (.converse messages _) => NoPrompts messages
  | _ => True

/-- The child has no plain prompt to answer. -/
def PamPhase.Promptless : PamPhase → Prop
  | .conversation todo | .polling todo => NoPrompts todo
  | .prompt _ => False
  | _ => True

/-- What is printed can be read: the text of the answer parses to the answer. -/
def PrintsBack (a : FeedAction) (s : Feed) : Prop :=
  match a with
  | .child a => ∀ j, responds parse print username a s.child s.pipe = some j →
      ∃ text, cJSONPrint print (some j) = some text ∧ parse text = some j
  | _ => True

/-! ## The law -/

/-- **What authd has been told**: nothing yet, or the user and then what the frames tell that
have been read; the frames that have not been read are still in the pipe. -/
structure Translated (x : Feed × Translation) : Prop where
  events : (x.1.child.conv = {} ∧ x.2.taken = [] ∧ x.2.arrays = []) ∨
    (x.1.child.conv.userSelectedSent = true ∧
      (x.2.arrays.flatten ++ x.1.child.conv.pending).map AuthdEvent.ofJson =
        some (.userSelected (cstr username)) :: (x.2.taken.filterMap Frame.told).map some)
  settled : (∀ todo, x.1.child.phase ≠ .polling todo) → x.1.child.conv.pending = []
  room : x.1.child.conv.pending.length ≤ 64
  fifo : x.2.failed = false → frameFraming.Reads x.2.written x.2.taken x.1.pipe.data

/-- The law on the objects themselves, with what the steps need of the phase. -/
structure Translating (x : Feed × Translation) : Prop where
  events : (x.1.child.conv = {} ∧ x.2.taken = [] ∧ x.2.arrays = []) ∨
    (x.1.child.conv.userSelectedSent = true ∧
      x.2.arrays.flatten ++ x.1.child.conv.pending =
        gdmUserSelected username :: x.2.taken.filterMap Frame.event)
  settled : (∀ todo, x.1.child.phase ≠ .polling todo) → x.1.child.conv.pending = []
  room : x.1.child.conv.pending.length ≤ 64
  fifo : x.2.failed = false → frameFraming.Reads x.2.written x.2.taken x.1.pipe.data
  promptless : x.1.child.phase.Promptless
  started : ∀ todo, x.1.child.phase = .polling todo → x.1.child.conv.userSelectedSent = true

variable {parse} {print} {username}

/-- The objects tell what they should. -/
theorem Translating.translated {x : Feed × Translation} (h : Translating username x) :
    Translated username x where
  events := by
    refine h.events.imp id fun ⟨hsent, he⟩ => ⟨hsent, ?_⟩
    have huser : AuthdEvent.ofJson (gdmUserSelected username) =
        some (.userSelected (cstr username)) :=
      congrArg (fun id => some (AuthdEvent.userSelected id)) (cstr_cstr username)
    rw [he, List.map_cons, huser, List.map_filterMap, List.map_filterMap]
    simp only [ofJson_event]
  settled := h.settled
  room := h.room
  fifo := h.fifo

theorem NoPrompts.tail {m : PamMessage} {todo : List PamMessage} (h : NoPrompts (m :: todo)) :
    NoPrompts todo :=
  ⟨fun hm => h.1 (List.mem_cons_of_mem m hm), fun hm => h.2 (List.mem_cons_of_mem m hm)⟩

theorem conv_replyJson (c : PamChild) (env : Env) (response : Json) (todo : List PamMessage) :
    (c.replyJson print env response todo).conv = c.conv := by
  rw [PamChild.replyJson]
  split
  · split <;> rfl
  · rfl

variable (print) in
/-- The child answers, or gives up: it is in the conversation, or back in the library. -/
theorem phase_replyJson_cases (c : PamChild) (env : Env) (response : Json)
    (todo : List PamMessage) :
    (c.replyJson print env response todo).phase = .conversation todo ∨
      (c.replyJson print env response todo).phase = .library := by
  rw [PamChild.replyJson]
  split
  · split
    · exact Or.inl rfl
    · exact Or.inr rfl
  · exact Or.inr rfl

/-- The phase is one in which the child does not poll, and has no prompt to answer. -/
structure Aside (phase : PamPhase) : Prop where
  promptless : phase.Promptless
  idle : ∀ todo, phase ≠ .polling todo

theorem aside_replyJson (c : PamChild) (env : Env) (response : Json) {todo : List PamMessage}
    (h : NoPrompts todo) : Aside (c.replyJson print env response todo).phase := by
  rcases phase_replyJson_cases print c env response todo with hp | hp
  · rw [hp]
    exact ⟨h, by simp⟩
  · rw [hp]
    exact ⟨trivial, by simp⟩

variable (parse) (print) (username) in
/-- **What a message of the conversation does**: it starts to poll, or leaves what is
pending alone. -/
theorem conversation_cases (env : Env) (c : PamChild) (p : Pipe) {todo : List PamMessage}
    (h : NoPrompts todo) :
    ((conversationStep parse print username env c p todo).child.conv = c.conv ∧
      Aside (conversationStep parse print username env c p todo).child.phase) ∨
    ∃ rest st, NoPrompts rest ∧
      (conversationStep parse print username env c p todo).child =
        { c with phase := .polling rest, conv := st } ∧
      ((c.conv.userSelectedSent = true ∧ st = c.conv) ∨
        (c.conv.userSelectedSent = false ∧ st =
          { pending := c.conv.pending ++ [gdmUserSelected username]
            userSelectedSent := true })) := by
  rw [conversationStep.eq_def]
  split
  · exact Or.inl ⟨rfl, trivial, by simp⟩
  · exact absurd List.mem_cons_self h.1
  · exact absurd List.mem_cons_self h.2
  · split
    · split
      · exact Or.inl ⟨rfl, trivial, by simp [PamChild.abort]⟩
      · exact Or.inl ⟨conv_replyJson _ _ _ _, aside_replyJson _ _ _ h.tail⟩
      · rename_i hj
        exact Or.inr ⟨_, _, h.tail, rfl, handleGdmJson_poll hj⟩
    · exact Or.inl ⟨rfl, trivial, by simp [PamChild.abort]⟩
  · exact Or.inl ⟨rfl, h.tail, by simp [PamChild.reply]⟩
  · exact Or.inl ⟨rfl, h.tail, by simp [PamChild.reply]⟩
  · exact Or.inl ⟨rfl, h.tail, by simp [PamChild.reply]⟩

/-! ## What is answered -/

/-- The answer to another message than `poll` is no `pollResponse`. -/
theorem pollEvents_answer {env : Env} {st : ConvState} {json out : List UInt8} {response : Json}
    (h : handleGdmJson parse print username env st json = .answer out response) :
    response.pollEvents = none := by
  rw [handleGdmJson] at h
  split at h
  · cases h
  · split at h
    · cases h
    · dsimp only at h
      repeat' split at h
      all_goals
        first
        | cases h; rfl
        | cases h

theorem pollEvents_pollResponse (pending : List Json) :
    (gdmPollResponse pending).pollEvents = some pending := rfl

/-- What is read in a text that prints back. -/
theorem answered_eq {a : PamAction} {s : Feed} {j : Json}
    (hC : PrintsBack parse print username (.child a) s)
    (h : responds parse print username a s.child s.pipe = some j) :
    answered parse print username a s.child s.pipe = j.pollEvents := by
  obtain ⟨text, htext, hparse⟩ := hC j h
  rw [answered, h, htext, Option.bind_some, hparse, Option.bind_some]

theorem answered_eq_none {a : PamAction} {c : PamChild} {p : Pipe}
    (h : responds parse print username a c p = none) :
    answered parse print username a c p = none := by
  rw [answered, h]
  rfl

/-- A child that does not poll answers no `poll` message. -/
theorem answered_of_idle {a : PamAction} {s : Feed}
    (hC : PrintsBack parse print username (.child a) s)
    (hidle : ∀ todo, s.child.phase ≠ .polling todo) :
    answered parse print username a s.child s.pipe = none := by
  cases hr : responds parse print username a s.child s.pipe with
  | none => exact answered_eq_none hr
  | some j =>
    rw [answered_eq hC hr]
    unfold responds at hr
    split at hr
    · split at hr
      · rename_i hanswer
        cases hr
        exact pollEvents_answer hanswer
      · cases hr
    · rename_i hp
      exact absurd hp (hidle _)
    · cases hr

/-- The loop of a `poll` message ends with the events that are pending. -/
theorem answered_of_done {env : Env} {s : Feed} {todo : List PamMessage} {q : Pipe}
    (hC : PrintsBack parse print username (.child (.next env)) s)
    (hp : s.child.phase = .polling todo)
    (h : gdmPoll env s.child.conv s.pipe = some (gdmPollDone s.child.conv q)) :
    answered parse print username (.next env) s.child s.pipe = some s.child.conv.pending := by
  have hr : responds parse print username (.next env) s.child s.pipe =
      some (gdmPollResponse s.child.conv.pending) := by
    simp only [responds, hp, h]
    rfl
  rw [answered_eq hC hr, pollEvents_pollResponse]

theorem answered_of_reads {env : Env} {s : Feed} {todo : List PamMessage} {conv : ConvState}
    {q : Pipe} (hp : s.child.phase = .polling todo)
    (h : gdmPoll env s.child.conv s.pipe = some (.reads conv q)) :
    answered parse print username (.next env) s.child s.pipe = none := by
  refine answered_eq_none ?_
  simp only [responds, hp, h]

/-! ## The steps -/

/-- A child that does not poll reads nothing and answers nothing. -/
theorem noteTranslation_idle {s t : Feed} {x : Translation} {a : PamAction}
    (hC : PrintsBack parse print username (.child a) s)
    (hpl : s.child.phase.Promptless) (hidle : ∀ todo, s.child.phase ≠ .polling todo) :
    noteTranslation parse print username (.child a) s t x = x := by
  have hread : childRead a s.child s.pipe = none := by
    refine childRead_of_phase (fun todo hp => ?_) hidle
    rw [hp] at hpl
    exact hpl
  simp only [noteTranslation, hread, answered_of_idle hC hidle, Option.toList_none, List.append_nil]

/-- A step without a read, after which the child does not poll. -/
theorem translating_aside {s t : Feed} {x : Translation} (hs : Translating username (s, x))
    (hidle : ∀ todo, s.child.phase ≠ .polling todo) (ht : Aside t.child.phase)
    (hconv : t.child.conv = s.child.conv) (hpipe : t.pipe = s.pipe) {a : PamAction}
    (hC : PrintsBack parse print username (.child a) s) :
    Translating username (t, noteTranslation parse print username (.child a) s t x) := by
  rw [noteTranslation_idle hC hs.promptless hidle]
  refine ⟨?_, ?_, ?_, ?_, ht.promptless, fun todo hp => absurd hp (ht.idle todo)⟩
  · rw [hconv]
    exact hs.events
  · intro _
    rw [hconv]
    exact hs.settled hidle
  · rw [hconv]
    exact hs.room
  · rw [hpipe]
    exact hs.fifo

/-- A `poll` message starts. -/
theorem translating_poll {s t : Feed} {x : Translation} (hs : Translating username (s, x))
    (hidle : ∀ todo, s.child.phase ≠ .polling todo) {rest : List PamMessage} {st : ConvState}
    (hrest : NoPrompts rest) (ht : t.child = { s.child with phase := .polling rest, conv := st })
    (hst : (s.child.conv.userSelectedSent = true ∧ st = s.child.conv) ∨
      (s.child.conv.userSelectedSent = false ∧ st =
        { pending := s.child.conv.pending ++ [gdmUserSelected username]
          userSelectedSent := true })) (hpipe : t.pipe = s.pipe) {a : PamAction}
    (hC : PrintsBack parse print username (.child a) s) :
    Translating username (t, noteTranslation parse print username (.child a) s t x) := by
  have hpending := hs.settled hidle
  have hsent : st.userSelectedSent = true := by
    rcases hst with ⟨h, rfl⟩ | ⟨-, rfl⟩
    · exact h
    · rfl
  rw [noteTranslation_idle hC hs.promptless hidle]
  refine ⟨?_, ?_, ?_, ?_, by rw [ht]; exact hrest, fun todo _ => by rw [ht]; exact hsent⟩
  · rw [ht]
    refine Or.inr ⟨hsent, ?_⟩
    rcases hst with ⟨h, rfl⟩ | ⟨h, rfl⟩
    · rcases hs.events with ⟨hc, -⟩ | ⟨-, he⟩
      · rw [hc] at h
        cases h
      · exact he
    · rcases hs.events with ⟨-, htaken, harrays⟩ | ⟨h', -⟩
      · show x.arrays.flatten ++ (s.child.conv.pending ++ [_]) = _ :: x.taken.filterMap Frame.event
        rw [show x.taken = [] from htaken, show x.arrays = [] from harrays, hpending]
        rfl
      · rw [h] at h'
        cases h'
  · intro h
    exact absurd (by rw [ht]) (h rest)
  · rw [ht]
    rcases hst with ⟨-, rfl⟩ | ⟨-, rfl⟩
    · exact hs.room
    · show (s.child.conv.pending ++ [_]).length ≤ 64
      rw [hpending]
      exact (by decide : 1 ≤ 64)
  · rw [hpipe]
    exact hs.fifo

/-- No frame of type 0 has an event. -/
theorem event_of_zero {f : Frame} (h : (f.type.toNat : Int) ≤ 0) : f.event = none := by
  have h0 : (f.type.toNat : Int) = 0 := by omega
  rw [Frame.event, h0]
  rfl

/-- A `poll` message ends. -/
theorem translating_done {s : Feed} {x : Translation} (hs : Translating username (s, x))
    {todo : List PamMessage} (hp : s.child.phase = .polling todo) (env : Env) {p : Pipe}
    {alive failed : Bool} {taken : List Frame}
    (htaken : taken.filterMap Frame.event = x.taken.filterMap Frame.event)
    (hfifo : failed = false → frameFraming.Reads x.written taken p.data) :
    Translating username
      (⟨(s.child.poll print env todo (gdmPollDone s.child.conv p)).child, p, alive⟩,
        { written := x.written, taken, arrays := x.arrays ++ [s.child.conv.pending], failed }) := by
  have hsent := hs.started todo hp
  have htodo : NoPrompts todo := by
    have := hs.promptless
    rw [hp] at this
    exact this
  have hconv : (s.child.poll print env todo (gdmPollDone s.child.conv p)).child.conv =
      { s.child.conv with pending := [] } := conv_replyJson _ _ _ _
  have haside : Aside (s.child.poll print env todo (gdmPollDone s.child.conv p)).child.phase :=
    aside_replyJson _ _ _ htodo
  have hevents : x.arrays.flatten ++ s.child.conv.pending =
      gdmUserSelected username :: x.taken.filterMap Frame.event := by
    rcases hs.events with ⟨hc, -⟩ | ⟨-, he⟩
    · rw [hc] at hsent
      cases hsent
    · exact he
  refine ⟨?_, ?_, ?_, hfifo, haside.promptless, fun t ht => absurd ht (haside.idle t)⟩
  · dsimp only
    rw [hconv, htaken]
    exact Or.inr ⟨hsent, by simpa using hevents⟩
  · intro _
    dsimp only
    rw [hconv]
  · dsimp only
    rw [hconv]
    exact Nat.zero_le 64

/-- A frame is read. -/
theorem translating_taken {s : Feed} {x : Translation} (hs : Translating username (s, x))
    {todo : List PamMessage} (hp : s.child.phase = .polling todo)
    (hroom : s.child.conv.pending.length < 64) {f : Frame} {rest : List UInt8} {alive failed : Bool}
    (hfifo : failed = false → frameFraming.Reads x.written (x.taken ++ [f]) rest) :
    Translating username
      (⟨{ s.child with
          conv := { s.child.conv with pending := s.child.conv.pending ++ f.event.toList } },
        { s.pipe with data := rest }, alive⟩,
        { x with taken := x.taken ++ [f], failed }) := by
  have hsent := hs.started todo hp
  refine ⟨?_, fun h => absurd hp (h todo), ?_, hfifo, hs.promptless, fun _ _ => hsent⟩
  · refine Or.inr ⟨hsent, ?_⟩
    rcases hs.events with ⟨hc, -⟩ | ⟨-, he⟩
    · rw [hc] at hsent
      cases hsent
    · show x.arrays.flatten ++ (s.child.conv.pending ++ f.event.toList) = _
      rw [← List.append_assoc, he, List.cons_append, List.filterMap_append, List.filterMap_cons]
      cases f.event <;> rfl
  · show (s.child.conv.pending ++ f.event.toList).length ≤ 64
    rw [List.length_append]
    have hlen : f.event.toList.length ≤ 1 := by cases f.event <;> simp
    omega

/-- **A round of a `poll` message.** -/
theorem translating_round {s t : Feed} {x : Translation} {env : Env}
    (hC : PrintsBack parse print username (.child (.next env)) s)
    (hs : Translating username (s, x)) {todo : List PamMessage}
    (hp : s.child.phase = .polling todo) {r : Reaction PamChild}
    (step : pollStep print env s.child s.pipe todo = some r)
    (ht : t = ⟨r.child, r.toChild, ! r.exits⟩) :
    Translating username
      (t, noteTranslation parse print username (.child (.next env)) s t x) := by
  obtain ⟨round, hround, rfl, hcases⟩ := poll_cases hp step
  subst ht
  rcases hcases with ⟨hread, rfl⟩ | ⟨y, hread, hroom, rfl⟩
  · simp only [noteTranslation, hread, answered_of_done hC hp hround]
    exact translating_done hs hp env rfl hs.fifo
  · have hfailed : ∀ {b : Bool}, (x.failed || b) = false → x.failed = false ∧ b = false :=
      fun h => Bool.or_eq_false_iff.mp h
    cases childRead_cases hread with
    | @frame f rest head eq ret payload pipe =>
      have hfifo : (x.failed || decide (readFails (.next env) s.pipe)) = false →
          frameFraming.Reads x.written (x.taken ++ [f]) rest :=
        fun h => (hs.fifo (hfailed h).1).item head
      rw [gdmPollRead] at hround ⊢
      split
      · rename_i hle
        rw [if_pos hle] at hround
        rw [ret] at hle
        have htaken : (x.taken ++ [f]).filterMap Frame.event = x.taken.filterMap Frame.event := by
          rw [List.filterMap_append, List.filterMap_cons, event_of_zero hle]
          simp
        simp only [noteTranslation, hread, eq, Option.toList_some,
          answered_of_done hC hp hround]
        rw [pipe]
        exact translating_done hs hp env htaken hfifo
      · rename_i hle
        rw [if_neg hle] at hround
        have hevent : gdmTranslate y.ret y.payload = f.event := by rw [ret, payload]; rfl
        simp only [noteTranslation, hread, eq, Option.toList_some, answered_of_reads hp hround,
          Option.toList_none, List.append_nil, PamChild.poll]
        rw [hevent, pipe]
        exact translating_taken hs hp hroom hfifo
    | ended eq ret empty closed pipe =>
      rw [gdmPollRead, if_pos ret] at hround ⊢
      simp only [noteTranslation, hread, eq, Option.toList_none, List.append_nil,
        answered_of_done hC hp hround]
      rw [pipe]
      exact translating_done hs hp env rfl fun h => hs.fifo (hfailed h).1
    | failed eq ret why writer =>
      rw [gdmPollRead, if_pos ret] at hround ⊢
      simp only [noteTranslation, hread, eq, Option.toList_none, List.append_nil,
        answered_of_done hC hp hround]
      refine translating_done hs hp env rfl fun h => ?_
      have hb := (hfailed h).2
      rw [decide_eq_true why] at hb
      cases hb

/-- **Every step keeps the law.** -/
theorem translating_step {a : FeedAction} {y z : Feed × Translation}
    (hy : Translating username y) (ha : a.Promptless) (hC : PrintsBack parse print username a y.1)
    (h : monitored (feed parse print username) (noteTranslation parse print username) a y =
      some z) : Translating username z := by
  obtain ⟨s, x⟩ := y
  obtain ⟨t, x'⟩ := z
  obtain ⟨hstep, hx⟩ := monitored_eq_some.mp h
  change feed parse print username a s = some t at hstep
  change x' = noteTranslation parse print username a s t x at hx
  change PrintsBack parse print username a s at hC
  subst hx
  cases a with
  | write bytes =>
    rw [feed] at hstep
    split at hstep
    · cases hstep
      exact ⟨hy.events, hy.settled, hy.room, fun hf => (hy.fifo hf).append bytes, hy.promptless,
        hy.started⟩
    · cases hstep
  | close =>
    cases hstep
    exact ⟨hy.events, hy.settled, hy.room, hy.fifo, hy.promptless, hy.started⟩
  | child a =>
    rw [feed] at hstep
    split at hstep
    · obtain ⟨r, hr, rfl⟩ := Option.map_eq_some_iff.mp hstep
      have idle : ∀ {phase}, s.child.phase = phase → (∀ todo, phase ≠ .polling todo) →
          ∀ todo, s.child.phase ≠ .polling todo := fun hp hn todo => by rw [hp]; exact hn todo
      cases pam_cases parse print username hr with
      | start hp | denied hp | failed hp | granted hp =>
        refine translating_aside hy (idle hp (by simp)) ?_ ?_ ?_ hC
        exacts [⟨trivial, by simp⟩, rfl, rfl]
      | converse hp =>
        refine translating_aside hy (idle hp (by simp)) ?_ ?_ ?_ hC
        exacts [⟨ha, by simp⟩, rfl, rfl]
      | noMemory hp | finish hp =>
        refine translating_aside hy (idle hp (by simp)) ?_ ?_ ?_ hC
        exacts [⟨hy.promptless, idle hp (by simp)⟩, rfl, rfl]
      | @conversation env todo hp =>
        have htodo : NoPrompts todo := by
          have := hy.promptless
          rw [hp] at this
          exact this
        have hpipe := (conversationStep_child parse print username env s.child s.pipe todo).1
        rcases conversation_cases parse print username env s.child s.pipe htodo with
          ⟨hconv, haside⟩ | ⟨rest, st, hrest, hchild, hst⟩
        · exact translating_aside hy (idle hp (by simp)) haside hconv hpipe hC
        · exact translating_poll hy (idle hp (by simp)) hrest hchild hst hpipe hC
      | prompt hp =>
        have := hy.promptless
        rw [hp] at this
        exact this.elim
      | polling hp step => exact translating_round hC hy hp step rfl
    · cases hstep

theorem translating_start : Translating username ({}, {}) :=
  ⟨Or.inl ⟨rfl, rfl, rfl⟩, fun _ => rfl, Nat.zero_le 64, fun _ => frameFraming.reads_nil, trivial,
    fun _ hp => by cases hp⟩

def pollJson : Json := .object [field "type" (str "poll")]

/-- A broker is selected, the module polls, the button is pressed, and the module polls again. -/
def pollRun : List FeedAction :=
  let poll : List FeedAction :=
    [.child (.converse [.PAM_BINARY_PROMPT true (compact pollJson)] true), .child (.next {}),
      .child (.next { reads := List.replicate 3 (.short 63) }), .child (.next {}),
      .child (.next {})]
  [.child (.start true), .write (Frame.bytes ⟨COMM_MSG_BROKER_SEL, ascii "b1" ++ [0]⟩)] ++ poll ++
    [.write (Frame.bytes ⟨COMM_MSG_BUTTON, []⟩)] ++ poll

/-- The answers of that run. -/
def pollAnswers : List Json :=
  [gdmPollResponse [gdmUserSelected (ascii "user"), .object [field "type" (str "brokerSelected"),
      field "brokerSelected" (.object [field "brokerId" (str "b1")])]],
    gdmPollResponse [.object [field "type" (str "reselectAuthMode"),
      field "reselectAuthMode" (.object [])]]]

theorem parseText_pollAnswers {j : Json} (hj : j ∈ pollAnswers) :
    parseText (pollJson :: pollAnswers) (cstr (compact j)) = some j := by
  unfold parseText
  rcases List.mem_cons.mp hj with rfl | hj
  · rw [List.find?_cons_of_neg (by decide +kernel), pollAnswers,
      List.find?_cons_of_pos (by decide +kernel)]
  · rw [List.mem_singleton.mp hj, List.find?_cons_of_neg (by decide +kernel), pollAnswers,
      List.find?_cons_of_neg (by decide +kernel), List.find?_cons_of_pos (by decide +kernel)]

set_option maxRecDepth 10000 in
/-- The answers can be read. -/
theorem printsBack_pollRun :
    Along (feed (parseText (pollJson :: pollAnswers)) (fun j => some (compact j))
        (ascii "user")) (PrintsBack (parseText (pollJson :: pollAnswers))
        (fun j => some (compact j)) (ascii "user")) pollRun {} := by
  have quiet : ∀ {j : Json} {P : Prop}, none = some j → P := fun h => nomatch h
  refine ⟨fun _ h => quiet h, fun t ht => ?_⟩
  cases ht
  refine ⟨trivial, fun t ht => ?_⟩
  cases ht
  refine ⟨fun _ h => quiet h, fun t ht => ?_⟩
  cases ht
  refine ⟨fun _ h => quiet h, fun t ht => ?_⟩
  cases ht
  refine ⟨fun _ h => quiet h, fun t ht => ?_⟩
  cases ht
  refine ⟨fun j h => ?_, fun t ht => ?_⟩
  · obtain rfl := Option.some.inj h
    exact ⟨_, rfl, parseText_pollAnswers List.mem_cons_self⟩
  cases ht
  refine ⟨fun _ h => quiet h, fun t ht => ?_⟩
  cases ht
  refine ⟨trivial, fun t ht => ?_⟩
  cases ht
  refine ⟨fun _ h => quiet h, fun t ht => ?_⟩
  cases ht
  refine ⟨fun _ h => quiet h, fun t ht => ?_⟩
  cases ht
  refine ⟨fun _ h => quiet h, fun t ht => ?_⟩
  cases ht
  refine ⟨fun j h => ?_, fun t ht => ?_⟩
  · obtain rfl := Option.some.inj h
    exact ⟨_, rfl, parseText_pollAnswers (List.mem_cons_of_mem _ List.mem_cons_self)⟩
  cases ht
  exact ⟨fun _ h => quiet h, fun _ _ => trivial⟩

end SwaylockAuthd
