import SwaylockAuthd.Gdm
import SwaylockAuthd.System

/-!
# `pam.c`: the PAM child

`run_pw_backend_child` calls `pam_authenticate` until it returns something else than
`PAM_AUTH_ERR`.  The PAM library is not part of the repository: it calls the
conversation function with any messages, as often as it likes, and returns any status.

* `pamBackend`: the child as a backend.
* `pam_honest`: it writes a frame that unlocks only when `pam_authenticate` has
  returned `PAM_SUCCESS`.
-/

namespace SwaylockAuthd

/-! ## The library -/

/-- The return values of `pam_authenticate`. -/
inductive PamStatus
  | PAM_SUCCESS
  | PAM_AUTH_ERR
  | PAM_PERM_DENIED
  | PAM_CRED_INSUFFICIENT
  | PAM_AUTHINFO_UNAVAIL
  | PAM_MAXTRIES
  | PAM_USER_UNKNOWN
  | PAM_ABORT
  | other (code : Int)
  deriving DecidableEq, Repr

/-- A message of a conversation; of a binary one, whether it carries the protocol name
and version of authd, and its JSON text. -/
inductive PamMessage
  | PAM_PROMPT_ECHO_OFF
  | PAM_PROMPT_ECHO_ON
  | PAM_TEXT_INFO
  | PAM_ERROR_MSG
  | PAM_BINARY_PROMPT (valid : Bool) (json : List UInt8)
  | other (style : Int)
  deriving DecidableEq, Repr

/-- Where the child is: before `pam_start`, in the library, in `handle_conversation` with
messages left, there waiting for a password or reading for a `poll` message, or past the loop. -/
inductive PamPhase
  | start
  | library
  | conversation (todo : List PamMessage)
  | prompt (todo : List PamMessage)
  | polling (todo : List PamMessage)
  | ended (status : PamStatus)
  deriving DecidableEq, Repr

/-- The child; `resp` are the replies of the conversation so far, `returned` is what
`handle_conversation` has returned last. -/
structure PamChild where
  phase : PamPhase := .start
  conv : ConvState := {}
  resp : List (Option CString) := []
  returned : Option PamStatus := none

/-- A step of the child, with what the library or the system does. -/
inductive PamAction
  | start (ok : Bool)
  | converse (messages : List PamMessage) (calloc : Bool)
  | returns (status : PamStatus)
  | next (env : Env)
  | finish

variable (parse : CString → Option Json) (print : Json → Option CString) (username : CString)

/-! ## The conversation -/

/-- The frame that tells the result. -/
def authResultBytes (granted : Bool) : List UInt8 :=
  commWriteBytes COMM_MSG_AUTH_RESULT (some [if granted then 0x01 else 0x00]) 1

/-- The reply to a message, and the messages left. -/
def PamChild.reply (c : PamChild) (resp : Option CString) (todo : List PamMessage) : PamChild :=
  { c with phase := .conversation todo, resp := c.resp ++ [resp] }

/-- `PAM_ABORT`: back to the library. -/
def PamChild.abort (c : PamChild) : PamChild :=
  { c with phase := .library, returned := some .PAM_ABORT }

/-- The reply to a JSON message. -/
def PamChild.replyJson (c : PamChild) (env : Env) (response : Json) (todo : List PamMessage) :
    PamChild :=
  match cJSONPrint print (some response) with
  | some text => if env.array then c.reply (some text) todo else c.abort
  | none => c.abort

/-- The next message of `handle_conversation`. -/
def conversationStep (env : Env) (c : PamChild) (p : Pipe) : List PamMessage → Reaction PamChild
  | [] => { child := { c with phase := .library, returned := some .PAM_SUCCESS }, toChild := p }
  | .PAM_PROMPT_ECHO_OFF :: todo | .PAM_PROMPT_ECHO_ON :: todo =>
    { child := { c with phase := .prompt todo }, out := writeStage .challenge, toChild := p }
  | .PAM_BINARY_PROMPT valid json :: todo =>
    if valid then
      match handleGdmJson parse print username env c.conv json with
      | .abort => { child := c.abort, toChild := p }
      | .answer out response =>
        { child := c.replyJson print env response todo, out, toChild := p }
      | .poll conv => { child := { c with phase := .polling todo, conv }, toChild := p }
    else { child := c.abort, toChild := p }
  | .PAM_TEXT_INFO :: todo | .PAM_ERROR_MSG :: todo | .other _ :: todo =>
    { child := c.reply none todo, toChild := p }

/-- The loop that waits for a password, with what `comm_child_read` gave. -/
def promptRead (env : Env) (c : PamChild) (todo : List PamMessage) (r : CommRead) :
    Reaction PamChild :=
  if r.ret ≤ 0 then { child := c.abort, toChild := r.pipe }
  else if r.ret ≠ COMM_MSG_PASSWORD.toNat then { child := c, toChild := r.pipe }
  else
    match r.payload with
    | some payload =>
      if env.string 0 then { child := c.reply (some (cstr payload)) todo, toChild := r.pipe }
      else { child := c.abort, toChild := r.pipe }
    | none => { child := c, toChild := r.pipe, exits := true } -- `strdup(NULL)`

/-- The loop of a `poll` message goes on, or `handle_gdm_json` prints its answer. -/
inductive GdmPoll
  | reads (conv : ConvState) (p : Pipe)
  | answers (response : Json) (conv : ConvState) (p : Pipe)

/-- The end of a `poll` message. -/
def gdmPollDone (conv : ConvState) (p : Pipe) : GdmPoll :=
  .answers (gdmPollResponse conv.pending) { conv with pending := [] } p

/-- The loop of a `poll` message, with what `comm_child_read` gave. -/
def gdmPollRead (conv : ConvState) (r : CommRead) : GdmPoll :=
  if r.ret ≤ 0 then gdmPollDone conv r.pipe
  else .reads { conv with pending := conv.pending ++ (gdmTranslate r.ret r.payload).toList } r.pipe

/-- One round of the loop of a `poll` message. -/
def gdmPoll (env : Env) (conv : ConvState) (p : Pipe) : Option GdmPoll :=
  if conv.pending.length < 64 ∧ env.poll ∧ (p.data ≠ [] ∨ p.writer = false) then
    (commRead env.payload env.reads p).map (gdmPollRead conv)
  else some (gdmPollDone conv p)

/-- The child after a round. -/
def PamChild.poll (c : PamChild) (env : Env) (todo : List PamMessage) :
    GdmPoll → Reaction PamChild
  | .reads conv p => { child := { c with conv }, toChild := p }
  | .answers response conv p =>
    { child := { c with conv }.replyJson print env response todo, toChild := p }

def pollStep (env : Env) (c : PamChild) (p : Pipe) (todo : List PamMessage) :
    Option (Reaction PamChild) :=
  (gdmPoll env c.conv p).map (c.poll print env todo)

/-! ## The child -/

/-- One step of `run_pw_backend_child`. -/
def pamAct (a : PamAction) (c : PamChild) (p : Pipe) : Option (Reaction PamChild) :=
  match a, c.phase with
  | .start ok, .start =>
    some { child := { c with phase := .library }, toChild := p, exits := ! ok }
  | .converse messages calloc, .library =>
    if calloc then
      some { child := { c with phase := .conversation messages, resp := [] }, toChild := p }
    else some { child := { c with returned := some .PAM_ABORT }, toChild := p }
  | .next env, .conversation todo => some (conversationStep parse print username env c p todo)
  | .next env, .prompt todo => (commRead env.payload env.reads p).map (promptRead env c todo)
  | .next env, .polling todo => pollStep print env c p todo
  | .returns status, .library =>
    let phase := if status = .PAM_AUTH_ERR then .library else .ended status
    some {
      child := { c with phase }, out := authResultBytes (status = .PAM_SUCCESS), toChild := p }
  | .finish, .ended _ => some { child := c, toChild := p, exits := true }
  | _, _ => none

/-- The PAM child. -/
def pamBackend : Backend PamChild PamAction where
  act := pamAct parse print username
  authenticates := fun a c _ =>
    match a, c.phase with
    | .returns status, .library => status = .PAM_SUCCESS
    | _, _ => false

/-! ## What the child writes -/

theorem writeStage_eq (stage : AuthdStage) :
    writeStage stage = Frame.bytes ⟨COMM_MSG_STAGE, [stage.toByte]⟩ := rfl

theorem authResultBytes_eq (granted : Bool) :
    authResultBytes granted =
      Frame.bytes ⟨COMM_MSG_AUTH_RESULT, [if granted then 0x01 else 0x00]⟩ := rfl

theorem quiet_writeStage (stage : AuthdStage) : Quiet (writeStage stage) := by
  rw [writeStage_eq]
  refine quiet_bytes (by simp [Frame.Fits, COMM_MAX_PAYLOAD]) ?_
  rintro ⟨h, -⟩
  exact absurd (show COMM_MSG_STAGE = COMM_MSG_AUTH_RESULT from h) (by decide)

theorem quiet_denied : Quiet (authResultBytes false) := by
  rw [authResultBytes_eq]
  refine quiet_bytes (by simp [Frame.Fits, COMM_MAX_PAYLOAD]) ?_
  decide

/-- What a message of the conversation writes: nothing, a stage, or a JSON text. -/
inductive Announces : List UInt8 → Prop
  | nothing : Announces []
  | stage (stage : AuthdStage) : Announces (writeStage stage)
  | json {type : UInt8} (j : Option Json) (result : type ≠ COMM_MSG_AUTH_RESULT) (zero : type ≠ 0) :
      Announces (writeJson print type j)

theorem announces_gdmEvent (event : Option Json) : Announces print (gdmEvent print event) := by
  rw [gdmEvent]
  repeat' split
  · exact .json _ (by decide) (by decide)
  · exact .json _ (by decide) (by decide)
  · exact .json _ (by decide) (by decide)
  · exact .stage _
  · exact .stage _
  · exact .json _ (by decide) (by decide)
  · exact .nothing

theorem announces_handleGdmJson {env : Env} {st : ConvState} {json : List UInt8} {out : List UInt8}
    {response : Json} (h : handleGdmJson parse print username env st json = .answer out response) :
    Announces print out := by
  rw [handleGdmJson] at h
  split at h
  · cases h
  · split at h
    · cases h
    · dsimp only at h
      repeat' split at h
      all_goals
        first
        | cases h; exact .nothing
        | cases h; exact announces_gdmEvent print _
        | cases h

theorem announces_conversationStep (env : Env) (c : PamChild) (p : Pipe) (todo : List PamMessage) :
    Announces print (conversationStep parse print username env c p todo).out := by
  rw [conversationStep.eq_def]
  split
  · exact .nothing
  · exact .stage _
  · exact .stage _
  · split
    · split
      · exact .nothing
      · rename_i hj
        exact announces_handleGdmJson parse print username hj
      · exact .nothing
    · exact .nothing
  · exact .nothing
  · exact .nothing
  · exact .nothing

/-- **No message of a conversation makes the child write a frame that unlocks.** -/
theorem Announces.quiet {out : List UInt8} (h : Announces print out) : Quiet out := by
  cases h with
  | nothing => exact quiet_nil
  | stage => exact quiet_writeStage _
  | json j result =>
    rw [writeJson]
    split
    · rename_i json hj
      obtain ⟨l, -, rfl⟩ := Option.map_eq_some_iff.mp hj
      exact quiet_write result (nul_notMem_cstr l)
    · exact quiet_nil

/-- What is written is one frame, if it is not too long. -/
theorem Announces.carries {out : List UInt8} (h : Announces print out)
    (hlen : out.length ≤ COMM_MAX_PAYLOAD + 5) :
    frameFraming.Carries (fun f => f.type ≠ COMM_MSG_AUTH_RESULT ∧ f.type ≠ 0) out := by
  cases h with
  | nothing => exact Framing.carries_nil _ _
  | stage s =>
    rw [writeStage_eq]
    exact Framing.carries_of_writes (writes_bytes (by simp [Frame.Fits, COMM_MAX_PAYLOAD]))
      ⟨(by decide : COMM_MSG_STAGE ≠ COMM_MSG_AUTH_RESULT), (by decide : COMM_MSG_STAGE ≠ 0)⟩
  | @json type j result zero =>
    rw [writeJson] at hlen ⊢
    split
    · rename_i json hj
      rw [hj] at hlen
      have hbytes : commWriteBytes type (some json) json.length = Frame.bytes ⟨type, json⟩ := by
        rw [commWriteBytes, Frame.bytes, Option.getD_some, List.take_length]
      simp only [hbytes, Frame.bytes, List.length_cons, List.length_append, length_storeLe32]
        at hlen
      have hfits : Frame.Fits ⟨type, json⟩ := show json.length ≤ COMM_MAX_PAYLOAD by omega
      rw [hbytes]
      exact Framing.carries_of_writes (writes_bytes hfits) ⟨result, zero⟩
    · exact Framing.carries_nil _ _

theorem phase_replyJson (c : PamChild) (env : Env) (response : Json) (todo : List PamMessage)
    (status : PamStatus) : (c.replyJson print env response todo).phase ≠ .ended status := by
  rw [PamChild.replyJson]
  split
  · split <;> simp [PamChild.reply, PamChild.abort]
  · simp [PamChild.abort]

/-- A message of the conversation leaves the pipe alone, and the child in its loop. -/
theorem conversationStep_child (env : Env) (c : PamChild) (p : Pipe) (todo : List PamMessage) :
    (conversationStep parse print username env c p todo).toChild = p ∧
      (conversationStep parse print username env c p todo).exits = false ∧
      ∀ status, (conversationStep parse print username env c p todo).child.phase ≠
        .ended status := by
  rw [conversationStep.eq_def]
  split
  · exact ⟨rfl, rfl, by simp⟩
  · exact ⟨rfl, rfl, by simp⟩
  · exact ⟨rfl, rfl, by simp⟩
  · split
    · split
      · exact ⟨rfl, rfl, by simp [PamChild.abort]⟩
      · exact ⟨rfl, rfl, phase_replyJson print c env _ _⟩
      · exact ⟨rfl, rfl, by simp⟩
    · exact ⟨rfl, rfl, by simp [PamChild.abort]⟩
  · exact ⟨rfl, rfl, by simp [PamChild.reply]⟩
  · exact ⟨rfl, rfl, by simp [PamChild.reply]⟩
  · exact ⟨rfl, rfl, by simp [PamChild.reply]⟩

theorem promptRead_out (env : Env) (c : PamChild) (todo : List PamMessage) (r : CommRead) :
    (promptRead env c todo r).out = [] := by
  rw [promptRead]
  split
  · rfl
  · split
    · rfl
    · split
      · split <;> rfl
      · rfl

/-- **A round of a `poll` message** reads, or ends the loop. -/
theorem gdmPoll_cases {env : Env} {conv : ConvState} {p : Pipe} {round : GdmPoll}
    (h : gdmPoll env conv p = some round) :
    ((conv.pending.length < 64 ∧ env.poll = true ∧ (p.data ≠ [] ∨ p.writer = false)) ∧
      ∃ x, commRead env.payload env.reads p = some x ∧ round = gdmPollRead conv x) ∨
    (¬ (conv.pending.length < 64 ∧ env.poll = true ∧ (p.data ≠ [] ∨ p.writer = false)) ∧
      round = gdmPollDone conv p) := by
  rw [gdmPoll] at h
  split at h
  · rename_i hready
    obtain ⟨x, hx, rfl⟩ := Option.map_eq_some_iff.mp h
    exact Or.inl ⟨hready, x, hx, rfl⟩
  · rename_i hready
    cases h
    exact Or.inr ⟨hready, rfl⟩

theorem pollStep_cases {env : Env} {c : PamChild} {p : Pipe} {todo : List PamMessage}
    {r : Reaction PamChild} (h : pollStep print env c p todo = some r) :
    ((c.conv.pending.length < 64 ∧ env.poll = true ∧ (p.data ≠ [] ∨ p.writer = false)) ∧
      ∃ x, commRead env.payload env.reads p = some x ∧
        r = c.poll print env todo (gdmPollRead c.conv x)) ∨
    (¬ (c.conv.pending.length < 64 ∧ env.poll = true ∧ (p.data ≠ [] ∨ p.writer = false)) ∧
      r = c.poll print env todo (gdmPollDone c.conv p)) := by
  obtain ⟨round, hround, rfl⟩ := Option.map_eq_some_iff.mp h
  rcases gdmPoll_cases hround with ⟨hready, x, hx, rfl⟩ | ⟨hready, rfl⟩
  · exact Or.inl ⟨hready, x, hx, rfl⟩
  · exact Or.inr ⟨hready, rfl⟩

theorem pollStep_out {env : Env} {c : PamChild} {p : Pipe} {todo : List PamMessage}
    {r : Reaction PamChild} (h : pollStep print env c p todo = some r) : r.out = [] := by
  obtain ⟨x, -, rfl⟩ := Option.map_eq_some_iff.mp h
  cases x <;> rfl

/-! ## What a step of the child does -/

inductive PamMove (c : PamChild) (p : Pipe) : PamAction → Reaction PamChild → Prop
  | start {ok : Bool} (h : c.phase = .start) :
      PamMove c p (.start ok) { child := { c with phase := .library }, toChild := p, exits := ! ok }
  | converse {messages : List PamMessage} (h : c.phase = .library) :
      PamMove c p (.converse messages true)
        { child := { c with phase := .conversation messages, resp := [] }, toChild := p }
  | noMemory {messages : List PamMessage} (h : c.phase = .library) :
      PamMove c p (.converse messages false)
        { child := { c with returned := some .PAM_ABORT }, toChild := p }
  | denied (h : c.phase = .library) :
      PamMove c p (.returns .PAM_AUTH_ERR)
        { child := { c with phase := .library }, out := authResultBytes false, toChild := p }
  | failed {status : PamStatus} (h : c.phase = .library) (err : status ≠ .PAM_AUTH_ERR)
      (failure : status ≠ .PAM_SUCCESS) :
      PamMove c p (.returns status)
        { child := { c with phase := .ended status }, out := authResultBytes false, toChild := p }
  | granted (h : c.phase = .library) :
      PamMove c p (.returns .PAM_SUCCESS)
        { child := { c with phase := .ended .PAM_SUCCESS }, out := authResultBytes true
          toChild := p }
  | finish {status : PamStatus} (h : c.phase = .ended status) :
      PamMove c p .finish { child := c, toChild := p, exits := true }
  | conversation {env : Env} {todo : List PamMessage} (h : c.phase = .conversation todo) :
      PamMove c p (.next env) (conversationStep parse print username env c p todo)
  | prompt {env : Env} {todo : List PamMessage} {x : CommRead} (h : c.phase = .prompt todo)
      (read : commRead env.payload env.reads p = some x) :
      PamMove c p (.next env) (promptRead env c todo x)
  | polling {env : Env} {todo : List PamMessage} {r : Reaction PamChild}
      (h : c.phase = .polling todo) (step : pollStep print env c p todo = some r) :
      PamMove c p (.next env) r

/-- **What a step of the child does.** -/
theorem pam_cases {a : PamAction} {c : PamChild} {p : Pipe} {r : Reaction PamChild}
    (h : pamAct parse print username a c p = some r) : PamMove parse print username c p a r := by
  rw [pamAct.eq_def] at h
  split at h
  · rename_i hp
    cases h
    exact .start hp
  · rename_i messages calloc hp
    cases calloc with
    | true => cases h; exact .converse hp
    | false => cases h; exact .noMemory hp
  · rename_i hp
    cases h
    exact .conversation hp
  · rename_i hp
    obtain ⟨x, hx, rfl⟩ := Option.map_eq_some_iff.mp h
    exact .prompt hp hx
  · rename_i hp
    exact .polling hp h
  · rename_i status hp
    by_cases he : status = .PAM_AUTH_ERR
    · subst he
      cases h
      exact .denied hp
    · by_cases hs : status = .PAM_SUCCESS
      · subst hs
        cases h
        exact .granted hp
      · dsimp only at h
        rw [if_neg he, decide_eq_false hs] at h
        cases h
        exact .failed hp he hs
  · rename_i hp
    cases h
    exact .finish hp
  · cases h

/-- **The child writes a frame that unlocks only when `pam_authenticate` has returned
`PAM_SUCCESS`.** -/
theorem pam_honest {a : PamAction} {c : PamChild} {p : Pipe} {r : Reaction PamChild}
    (h : (pamBackend parse print username).act a c p = some r)
    (hn : (pamBackend parse print username).authenticates a c p = false) : Quiet r.out := by
  cases pam_cases parse print username h with
  | start => exact quiet_nil
  | converse => exact quiet_nil
  | noMemory => exact quiet_nil
  | denied => exact quiet_denied
  | failed => exact quiet_denied
  | granted hp =>
    have ht :
        (pamBackend parse print username).authenticates (.returns .PAM_SUCCESS) c p = true := by
      simp [pamBackend, hp]
    rw [ht] at hn
    cases hn
  | finish => exact quiet_nil
  | conversation => exact (announces_conversationStep parse print username _ c p _).quiet
  | prompt => rw [promptRead_out]; exact quiet_nil
  | polling _ step => rw [pollStep_out print step]; exact quiet_nil

/-- **The PAM child writes frames**, when no message is longer than a frame. -/
theorem pam_writesFrames {a : PamAction} {c : PamChild} {p : Pipe} {r : Reaction PamChild}
    (h : pamAct parse print username a c p = some r)
    (hlen : ∀ env, a = .next env → r.out.length ≤ COMM_MAX_PAYLOAD + 5) :
    frameFraming.Carries (fun f => f.type ≠ 0) r.out := by
  have result : ∀ granted,
      frameFraming.Carries (fun f => f.type ≠ 0) (authResultBytes granted) := by
    intro granted
    rw [authResultBytes_eq]
    exact Framing.carries_of_writes (writes_bytes (by cases granted <;> decide))
      (by decide : COMM_MSG_AUTH_RESULT ≠ 0)
  cases pam_cases parse print username h with
  | start | converse | noMemory | finish => exact frameFraming.carries_nil _
  | denied | failed => exact result false
  | granted => exact result true
  | @conversation env todo =>
    have hann := announces_conversationStep parse print username env c p todo
    exact (hann.carries print (hlen _ rfl)).mono fun f hf => hf.2
  | prompt =>
    rw [promptRead_out]
    exact frameFraming.carries_nil _
  | polling _ step =>
    rw [pollStep_out print step]
    exact frameFraming.carries_nil _

/-! ## The ends of the pipe -/

/-- The ends of a pipe stay as they are. -/
def SameEnds (p q : Pipe) : Prop := q.writer = p.writer ∧ q.reader = p.reader

variable {parse} {print} {username}

theorem sameEnds_commRead {malloc : Bool} {cs : List ReadCall} {p : Pipe} {r : CommRead}
    (h : commRead malloc cs p = some r) : SameEnds p r.pipe := by
  rw [(commRead_uses h).pipe]
  exact ⟨rfl, rfl⟩

theorem promptRead_toChild (env : Env) (c : PamChild) (todo : List PamMessage) (r : CommRead) :
    (promptRead env c todo r).toChild = r.pipe := by
  rw [promptRead]
  repeat' split
  all_goals rfl

theorem sameEnds_pamAct {a : PamAction} {c : PamChild} {p : Pipe} {r : Reaction PamChild}
    (h : pamAct parse print username a c p = some r) : SameEnds p r.toChild := by
  cases pam_cases parse print username h with
  | @conversation env todo hp =>
    rw [(conversationStep_child parse print username env c p todo).1]
    exact ⟨rfl, rfl⟩
  | prompt hp read =>
    rw [promptRead_toChild]
    exact sameEnds_commRead read
  | polling hp step =>
    rcases pollStep_cases print step with ⟨-, x, hx, rfl⟩ | ⟨-, rfl⟩
    · rw [gdmPollRead]
      split <;> exact sameEnds_commRead hx
    · exact ⟨rfl, rfl⟩
  | _ => exact ⟨rfl, rfl⟩

end SwaylockAuthd
