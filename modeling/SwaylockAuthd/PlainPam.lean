import SwaylockAuthd.Pam

/-!
# A plain PAM stack

A module that sends prompts and text but no binary message.  The child then writes
a STAGE frame for each prompt and an AUTH_RESULT frame for each attempt, and nothing else.

* `plain_cases`: what a step of the child does.
* `Replies`: the frames it writes.
-/

namespace SwaylockAuthd

/-- Messages without a binary one. -/
def PlainMessages (todo : List PamMessage) : Prop :=
  ∀ valid json, PamMessage.PAM_BINARY_PROMPT valid json ∉ todo

/-- The child is in no conversation with a binary message. -/
def PamChild.Plain (c : PamChild) : Prop :=
  match c.phase with
  | .conversation todo | .prompt todo => PlainMessages todo
  | .polling _ => False
  | _ => True

/-- The module is a plain one. -/
def PamAction.Plain : PamAction → Prop
  | .converse messages _ => PlainMessages messages
  | _ => True

/-- A step of the locker with a plain module. -/
def PlainModule {β : Type} : Action PamAction → System β → Prop
  | .child a, _ => a.Plain
  | _, _ => True

theorem PlainMessages.tail {m : PamMessage} {todo : List PamMessage}
    (h : PlainMessages (m :: todo)) : PlainMessages todo :=
  fun valid json hm => h valid json (List.mem_cons_of_mem m hm)

/-- What a step of the child does: it writes nothing, or a frame. -/
inductive PlainMove (c : PamChild) (p : Pipe) : PamAction → Reaction PamChild → Prop
  | moves {a : PamAction} {r : Reaction PamChild} (silent : ∀ status, a ≠ .returns status)
      (out : r.out = []) (toChild : r.toChild = p)
      (busy : ∀ todo, r.child.phase ≠ .prompt todo) (going : ∀ status, c.phase = .ended status →
        r.child.phase = .ended status) : PlainMove c p a r
  | asks {env : Env} {todo : List PamMessage} {r : Reaction PamChild}
      (h : ∃ rest, c.phase = .conversation rest) (out : r.out = writeStage .challenge)
      (toChild : r.toChild = p) (phase : r.child.phase = .prompt todo) :
      PlainMove c p (.next env) r
  | reads {env : Env} {todo : List PamMessage} {x : CommRead} (h : c.phase = .prompt todo)
      (read : commRead env.payload env.reads p = some x) :
      PlainMove c p (.next env) (promptRead env c todo x)
  | rejects {status : PamStatus} {phase : PamPhase} (h : c.phase = .library)
      (failure : status ≠ .PAM_SUCCESS) (busy : ∀ todo, phase ≠ .prompt todo) :
      PlainMove c p (.returns status)
        { child := { c with phase }, out := authResultBytes false, toChild := p }
  | accepts (h : c.phase = .library) :
      PlainMove c p (.returns .PAM_SUCCESS)
        { child := { c with phase := .ended .PAM_SUCCESS }, out := authResultBytes true
          toChild := p }

variable {parse : CString → Option Json} {print : Json → Option CString} {username : CString}

theorem plain_conversation {env : Env} {c : PamChild} {p : Pipe} {todo : List PamMessage}
    (hp : c.phase = .conversation todo) (hc : PlainMessages todo) :
    PlainMove c p (.next env) (conversationStep parse print username env c p todo) ∧
      (conversationStep parse print username env c p todo).child.Plain := by
  have quiet : ∀ r : Reaction PamChild, r.out = [] → r.toChild = p →
      (∀ todo, r.child.phase ≠ .prompt todo) → r.child.Plain →
      PlainMove c p (.next env) r ∧ r.child.Plain := by
    refine fun r out toChild busy plain => ⟨.moves (by simp) out toChild busy ?_, plain⟩
    intro status he
    rw [hp] at he
    cases he
  rw [conversationStep.eq_def]
  split
  · exact quiet _ rfl rfl (by simp) trivial
  · exact ⟨.asks ⟨_, hp⟩ rfl rfl rfl, hc.tail⟩
  · exact ⟨.asks ⟨_, hp⟩ rfl rfl rfl, hc.tail⟩
  · exact absurd List.mem_cons_self (hc _ _)
  · exact quiet _ rfl rfl (by simp [PamChild.reply]) hc.tail
  · exact quiet _ rfl rfl (by simp [PamChild.reply]) hc.tail
  · exact quiet _ rfl rfl (by simp [PamChild.reply]) hc.tail

theorem plain_promptRead {env : Env} {c : PamChild} {todo : List PamMessage} {x : CommRead}
    (hp : c.phase = .prompt todo) (hc : PlainMessages todo) :
    (promptRead env c todo x).child.Plain := by
  have stays : c.Plain := by
    rw [PamChild.Plain, hp]
    exact hc
  rw [promptRead]
  split
  · trivial
  · split
    · exact stays
    · split
      · split
        · exact hc
        · trivial
      · exact stays

/-- **What a step of the child does** with a plain module. -/
theorem plain_cases {a : PamAction} {c : PamChild} {p : Pipe} {r : Reaction PamChild}
    (hc : c.Plain) (ha : a.Plain) (h : pamAct parse print username a c p = some r) :
    PlainMove c p a r ∧ r.child.Plain := by
  have library : ∀ {status}, c.phase = .library → c.phase ≠ .ended status := by
    intro status hl he
    rw [hl] at he
    cases he
  cases pam_cases parse print username h with
  | start hp =>
    refine ⟨.moves (by simp) rfl rfl (by simp) fun status he => ?_, trivial⟩
    rw [hp] at he
    cases he
  | converse hp =>
    exact ⟨.moves (by simp) rfl rfl (by simp) fun status he => absurd he (library hp), ha⟩
  | noMemory hp =>
    refine ⟨.moves (by simp) rfl rfl ?_ fun status he => absurd he (library hp), hc⟩
    simp [hp]
  | denied hp => exact ⟨.rejects hp (by decide) (by simp), trivial⟩
  | failed hp _ failure => exact ⟨.rejects hp failure (by simp), trivial⟩
  | granted hp => exact ⟨.accepts hp, trivial⟩
  | finish hp =>
    refine ⟨.moves (by simp) rfl rfl ?_ fun status he => he, hc⟩
    simp [hp]
  | conversation hp =>
    rw [PamChild.Plain, hp] at hc
    exact plain_conversation hp hc
  | prompt hp read =>
    rw [PamChild.Plain, hp] at hc
    exact ⟨.reads hp read, plain_promptRead hp hc⟩
  | polling hp =>
    rw [PamChild.Plain, hp] at hc
    exact hc.elim

/-! ## The frames -/

/-- The frames of a plain child. -/
def Replies (f : Frame) : Prop :=
  (f.type = COMM_MSG_STAGE ∧ f.payload ≠ []) ∨ f.type = COMM_MSG_AUTH_RESULT

/-- A frame of one byte fits. -/
theorem fits_byte (type b : UInt8) : Frame.Fits ⟨type, [b]⟩ :=
  show 1 ≤ COMM_MAX_PAYLOAD by decide

theorem carries_stage : frameFraming.Carries Replies (writeStage .challenge) := by
  rw [writeStage_eq]
  exact Framing.carries_of_writes (writes_bytes (fits_byte _ _)) (Or.inl ⟨rfl, by simp⟩)

theorem carries_authResult (granted : Bool) :
    frameFraming.Carries Replies (authResultBytes granted) := by
  rw [authResultBytes_eq]
  exact Framing.carries_of_writes (writes_bytes (fits_byte _ _)) (Or.inr rfl)

theorem frames_stage :
    frames (writeStage .challenge) = [⟨COMM_MSG_STAGE, [AuthdStage.challenge.toByte]⟩] := by
  rw [writeStage_eq]
  exact (frames_bytes (fits_byte _ _)).1

theorem frames_authResult (granted : Bool) : frames (authResultBytes granted) =
    [⟨COMM_MSG_AUTH_RESULT, [if granted then 0x01 else 0x00]⟩] := by
  rw [authResultBytes_eq]
  exact (frames_bytes (fits_byte _ _)).1

theorem PlainMove.carries {a : PamAction} {c : PamChild} {p : Pipe} {r : Reaction PamChild}
    (h : PlainMove c p a r) : frameFraming.Carries Replies r.out := by
  cases h with
  | moves _ out => rw [out]; exact Framing.carries_nil _ _
  | asks _ out => rw [out]; exact carries_stage
  | reads => rw [promptRead_out]; exact Framing.carries_nil _ _
  | rejects => exact carries_authResult false
  | accepts => exact carries_authResult true

end SwaylockAuthd
