import SwaylockAuthd.Attempts
import SwaylockAuthd.Shadow
import SwaylockAuthd.ToChild

/-!
# No lost wake-up

In `AUTH_STATE_VALIDATING` no password is sent.  While the child waits for one, either it is
on its way already or a frame is on its way back that ends the validating state: the child
announces each prompt before it waits for the password, and answers each password it reads.

* `Awake`: the invariant that links the state, the pipes and the point the child is at.
* `Responsive`: what it asks of a backend; `responsive_pam`, `responsive_shadow`.
* `no_lost_wakeup`: no run reaches a state in which both processes wait.
* `stuck_lostFrame`: a read of the PAM child that fails half-way, and the module goes on.
-/

namespace SwaylockAuthd

open Transition

/-! ## The frames -/

/-- The messages of a main process without authd: passwords. -/
def Asked (f : Frame) : Prop := f.type = COMM_MSG_PASSWORD ∧ f.payload ≠ []

/-- The frames that end `AUTH_STATE_VALIDATING`. -/
def Settles (f : Frame) : Prop := (f.type = COMM_MSG_STAGE ∧ f.payload ≠ []) ∨ Denied f

theorem FrameStep.settles {env : Env} {s t : SwaylockState} {f : Frame} (h : FrameStep env s f t)
    (hf : Settles f) : t.authState ≠ .validating := by
  have hidle : ∀ st : AuthState, st ≠ .validating → t.authState = st → t.authState ≠ .validating :=
    fun st hst ht => by rw [ht]; exact hst
  cases h with
  | granted hg =>
    rcases hf with ⟨ht, -⟩ | hd
    · exact absurd (hg.1.symm.trans ht) (by decide)
    · exact absurd hg hd.2
  | denied _ _ keep =>
    exact hidle .invalid (by decide) (keep.keep SwaylockState.authState (by intros; rfl))
  | retried _ keep =>
    exact hidle .invalid (by decide) (keep.keep SwaylockState.authState (by intros; rfl))
  | settled _ keep =>
    exact hidle .idle (by decide) (keep.keep SwaylockState.authState (by intros; rfl))
  | informed type hn keep =>
    rcases hf with ⟨ht, hp⟩ | hd
    · exact hidle s.authState (fun hv => hn ⟨ht, hp, hv⟩)
        (keep.keep SwaylockState.authState (by intros; rfl))
    · exact absurd hd.1 type

/-- A reply settles the state or unlocks. -/
theorem settles_or_grants {f : Frame} (h : Replies f) : Settles f ∨ Grants f := by
  rcases h with h | h
  · exact Or.inl (Or.inl h)
  · by_cases hg : Grants f
    · exact Or.inr hg
    · exact Or.inl (Or.inr ⟨h, hg⟩)

/-! ## Backends that answer -/

variable {α β : Type}

/-- A step of a child that answers what it reads: `waits` are the points from which it waits
for a password and writes nothing before, `past` those behind its loop. -/
structure Answers (waits past : β → Prop) (c : β) (p : Pipe) (r : Reaction β) : Prop where
  writer : r.toChild.writer = p.writer
  told : frameFraming.Carries Asked r.toChild.data
  out : frameFraming.Carries Replies r.out
  woken : waits r.child →
    (waits c ∧ r.toChild.data = p.data) ∨ ∃ f ∈ frames r.out, Settles f
  grants : (∃ f ∈ frames r.out, Grants f) → past r.child
  past : past c → past r.child

/-- A backend that announces that it waits, and answers each password it reads. -/
structure Responsive (backend : Backend β α) (ok : α → Prop) (inv waits past : β → Prop) :
    Prop where
  step {a : α} {c : β} {p : Pipe} {r : Reaction β} (hc : inv c) (ha : ok a)
    (open_ : p.writer = true) (told : frameFraming.Carries Asked p.data)
    (act : backend.act a c p = some r) (stays : r.exits = false) :
    inv r.child ∧ Answers waits past c p r
  done {c : β} (h : past c) : ¬ waits c

/-! ## The invariant -/

/-- While both processes run: the child that waits in `AUTH_STATE_VALIDATING` has a password
to read, or has written what ends that state. -/
structure Awake (inv waits past : β → Prop) (s : System β) : Prop where
  inv : inv s.child
  writer : s.main.toChild.writer = true
  inactive : s.main.state.authdActive = false
  told : Told Asked s.main
  flight : frameFraming.Carries Replies s.inFlight
  grants : (∃ f ∈ frames s.inFlight, Grants f) → past s.child
  woken : waits s.child → s.main.state.authState = .validating →
    s.main.toChild.data ≠ [] ∨ ∃ f ∈ frames s.inFlight, Settles f

/-- What a key does without authd: in `AUTH_STATE_VALIDATING` it has changed nothing, or
sent a password. -/
theorem KeyStep.awake {env : Env} {s t : SwaylockState} {p q : Pipe} (h : KeyStep env s p t q)
    (ha : s.authdActive = false) :
    t.authdActive = false ∧ q.writer = p.writer ∧
      (t.authState = .validating →
        (s.authState = .validating ∧ q.data = p.data) ∨ q.data ≠ []) := by
  cases h with
  | move h =>
    refine ⟨(h.keep SwaylockState.authdActive (by intros; rfl)).trans ha, rfl, fun hv => ?_⟩
    exact Or.inl ⟨(h.keep SwaylockState.authState (by intros; rfl)).symm.trans hv, rfl⟩
  | send _ active =>
    rw [ha] at active
    cases active
  | edit a codepoint =>
    have he := edits_edit env s codepoint a
    refine ⟨(he.keep SwaylockState.authdActive (by intros; rfl)).trans ha, rfl, fun hv => ?_⟩
    exact Or.inl ⟨(he.keep SwaylockState.authState (by intros; rfl)).symm.trans hv, rfl⟩
  | fail =>
    refine ⟨ha, rfl, fun hv => ?_⟩
    have hi : (submitFailed env s).authState = .invalid := rfl
    rw [hi] at hv
    cases hv
  | submit =>
    refine ⟨ha, rfl, fun _ => Or.inr ?_⟩
    simp [passwordBytes, commWriteBytes]

theorem authdActive_visitTimer (env : Env) (now : Timespec) (addr : Nat) (s : SwaylockState) :
    (visitTimer env now addr s).authdActive = s.authdActive := by
  rcases visitTimer_cases env now addr s with hv | hv | ⟨callback, t, -, rfl, hv⟩
  · rw [hv]
  · rw [hv]
  · rw [hv]
    cases callback <;> rfl

variable {debugUnlock : Bool} {parse : CString → Option Json} {inv waits past : β → Prop}

/-- Without authd, no message of the selection stages is sent. -/
theorem speaks_of_inactive {P : Frame → Prop} {s : SwaylockState} (h : s.authdActive = false) :
    Speaks P s := by
  intro keysym m active
  rw [h] at active
  cases active

/-- **The main process keeps the child awake.** -/
theorem awake_main {a : MainAction} {s : System β} {m : MainSide} (hs : Awake inv waits past s)
    (done : ∀ c, past c → ¬ waits c) (h : MainMove debugUnlock parse s.main a m) :
    Awake inv waits past { s with main := m } := by
  obtain ⟨hinv, hw, hact, htold, hflight, hgrants, hwoken⟩ := hs
  have told : Told Asked m := told_move (fun _ hp => ⟨rfl, hp⟩) htold
    (fun _ _ _ _ => speaks_of_inactive hact) h
  -- the steps that do not read a frame
  have same : m.toMain.data = s.main.toMain.data → m.toChild.writer = s.main.toChild.writer →
      m.state.authdActive = s.main.state.authdActive →
      (m.state.authState = .validating →
        (s.main.state.authState = .validating ∧ m.toChild.data = s.main.toChild.data) ∨
          m.toChild.data ≠ []) → Awake inv waits past { s with main := m } := by
    intro hdata hwriter hactive hval
    have hin : ({ s with main := m } : System β).inFlight = s.inFlight := by
      rw [System.inFlight, hdata]
      rfl
    refine ⟨hinv, hwriter.trans hw, hactive.trans hact, told, ?_, ?_, fun hc hv => ?_⟩
    · rw [hin]
      exact hflight
    · rw [hin]
      exact hgrants
    · rw [hin]
      rcases hval hv with ⟨hv', hd⟩ | hd
      · rw [hd]
        exact hwoken hc hv'
      · exact Or.inl hd
  cases h with
  | key _ _ step =>
    obtain ⟨h1, h2, h3⟩ := step.awake hact
    exact same rfl h2 (h1.trans hact.symm) h3
  | modifiers _ h =>
    refine same rfl rfl (h.keep SwaylockState.authdActive (by intros; rfl))
      fun hv => Or.inl ⟨?_, rfl⟩
    exact (h.keep SwaylockState.authState (by intros; rfl)).symm.trans hv
  | @timer now addr todo env =>
    refine same rfl rfl (authdActive_visitTimer env now addr s.main.state)
      fun hv => Or.inl ⟨?_, rfl⟩
    rcases (visitTimer_attempts env now addr s.main.state).2 with ha | ha
    · exact ha.symm.trans hv
    · rw [ha] at hv
      cases hv
  | @frame mask term env f rest u _ _ head _ eq step =>
    obtain ⟨hf, hrest⟩ := hflight.tail (inFlight_head head)
    have hi := (frames_of_item (inFlight_head head)).1
    have htype : ∀ b, b ≠ COMM_MSG_STAGE → b ≠ COMM_MSG_AUTH_RESULT → f.type ≠ b := by
      intro b h1 h2 hb
      rcases hf with ⟨ht, -⟩ | ht
      · exact h1 (hb.symm.trans ht)
      · exact h2 (hb.symm.trans ht)
    refine ⟨hinv, hw, ?_, told, hrest, fun hg => ?_, fun hc hv => ?_⟩
    · show u.authdActive = false
      rw [eq, authdActive_commInFrame parse env s.main.state (htype _ (by decide) (by decide))
        (htype _ (by decide) (by decide))]
      exact hact
    · obtain ⟨g, hg, hgr⟩ := hg
      exact hgrants ⟨g, by rw [hi]; exact List.mem_cons_of_mem _ hg, hgr⟩
    · -- the frame that is read has settled the state, or the child is past its loop
      rcases settles_or_grants hf with hset | hgr
      · exact absurd hv (step.settles hset)
      · have hp := hgrants ⟨_, by rw [hi]; exact List.mem_cons_self, hgr⟩
        exact absurd hc (done _ hp)
  | _ => exact same rfl rfl rfl fun hv => Or.inl ⟨hv, rfl⟩

/-- **The child stays awake.** -/
theorem awake_child {c : β} {p : Pipe} {r : Reaction β} {s : System β}
    (hs : Awake inv waits past s) (idle : s.out = []) (hc : s.child = c)
    (hp : s.main.toChild = p) (hinv : inv r.child) (h : Answers waits past c p r) :
    Awake inv waits past { s with
      main := { s.main with toChild := r.toChild }, child := r.child, out := r.out } := by
  subst hc hp
  have hin : s.inFlight = s.main.toMain.data := by
    rw [System.inFlight, idle, List.append_nil]
  obtain ⟨-, hw, hact, htold, hflight, hgrants, hwoken⟩ := hs
  rw [hin] at hflight hgrants hwoken
  have hframes : frames (s.main.toMain.data ++ r.out) = frames s.main.toMain.data ++ frames r.out :=
    Framing.items_append_of_carries hflight r.out
  refine ⟨hinv, h.writer.trans hw, hact, ⟨htold.room, h.told⟩, hflight.append h.out, ?_, ?_⟩
  · rintro ⟨f, hf, hg⟩
    dsimp only [System.inFlight] at hf
    rw [hframes] at hf
    rcases List.mem_append.mp hf with hf | hf
    · exact h.past (hgrants ⟨f, hf, hg⟩)
    · exact h.grants ⟨f, hf, hg⟩
  · intro hc hv
    dsimp only [System.inFlight]
    rw [hframes]
    rcases h.woken hc with ⟨hc', hd⟩ | ⟨f, hf, hset⟩
    · rcases hwoken hc' hv with hne | ⟨f, hf, hset⟩
      · exact Or.inl (by rw [hd]; exact hne)
      · exact Or.inr ⟨f, List.mem_append.mpr (Or.inl hf), hset⟩
    · exact Or.inr ⟨f, List.mem_append.mpr (Or.inr hf), hset⟩

/-! ## Runs -/

/-- The invariant of a run. -/
def Attentive (inv waits past : β → Prop) (s : System β) : Prop :=
  s.alive = true → s.main.phase.live = true → Awake inv waits past s

/-- The steps of the child meet the condition. -/
def ChildSteps (ok : α → Prop) : Action α → System β → Prop
  | .child a, _ => ok a
  | _, _ => True

theorem attentive_step {backend : Backend β α} {ok : α → Prop}
    (hb : Responsive backend ok inv waits past) {a : Action α} {s t : System β}
    (hs : Attentive inv waits past s) (ha : ChildSteps ok a s)
    (h : system debugUnlock parse backend a s = some t) : Attentive inv waits past t := by
  intro halive hlive
  cases system_cases debugUnlock parse backend h with
  | @main a m hm =>
    dsimp only at hlive ⊢
    rw [settle_phase] at hlive
    rw [settle_of_live hlive]
    exact awake_main (hs halive hm.live) (fun _ => hb.done) hm
  | child alive idle act stays =>
    have hawake := hs alive hlive
    obtain ⟨hinv, hans⟩ := hb.step hawake.inv ha hawake.writer hawake.told.stream act stays
    exact awake_child hawake idle rfl rfl hinv hans
  | write =>
    obtain ⟨hinv, hw, hact, htold, hflight, hgrants, hwoken⟩ := hs halive hlive
    refine ⟨hinv, hw, hact, ⟨htold.room, htold.stream⟩, ?_, ?_, ?_⟩
    all_goals rw [System.inFlight, inFlight_write]
    · exact hflight
    · exact hgrants
    · exact hwoken
  | childExits => cases halive
  | sigpipe => cases halive
  | crash => cases halive

/-- Both processes wait: the child for a password, and the main process for the child.  A
pipe holds nothing, or the part of a frame that its reader takes out while it waits for the rest. -/
def Stuck (waits : β → Prop) (s : System β) : Prop :=
  s.alive = true ∧ waits s.child ∧ s.out = [] ∧ frameHead s.main.toChild.data = .more ∧
    frameHead s.main.toMain.data = .more ∧ s.main.phase.live = true ∧
    s.main.state.authState = .validating

theorem Attentive.not_stuck {s : System β} (hs : Attentive inv waits past s) : ¬ Stuck waits s := by
  rintro ⟨halive, hc, hout, hdata, hmain, hlive, hv⟩
  have awake := hs halive hlive
  have hin : s.inFlight = [] := by
    have hf := awake.flight
    rw [System.inFlight, hout, List.append_nil] at hf ⊢
    exact hf.nil_of_more hmain
  rcases awake.woken hc hv with hne | ⟨f, hf, -⟩
  · exact hne (awake.told.stream.nil_of_more hdata)
  · rw [hin] at hf
    cases hf

theorem attentive_start {child : β} (args : SwaylockArgs) {buffer : List UInt8}
    (h0 : buffer ≠ []) (hmax : buffer.length ≤ COMM_MAX_PAYLOAD)
    (hinv : inv child) : Attentive inv waits past (System.start child args buffer) := by
  refine fun _ _ => ⟨hinv, rfl, rfl, ⟨roomy_initial h0 hmax, frameFraming.carries_nil _⟩,
    frameFraming.carries_nil _, ?_, ?_⟩
  · rintro ⟨f, hf, -⟩
    cases hf
  · intro _ hv
    cases hv

/-! ## The PAM child -/

variable {print : Json → Option CString} {username : CString}

/-- The child waits in `handle_conversation`. -/
def PamChild.Waits (c : PamChild) : Prop := ∃ todo, c.phase = .prompt todo

/-- The child is past the loop of `run_pw_backend_child`. -/
def PamChild.Past (c : PamChild) : Prop := ∃ status, c.phase = .ended status

/-- A plain module, and reads that do not fail. -/
def PamAction.Sound (a : PamAction) : Prop :=
  a.Plain ∧ ∀ env, a = .next env → .error ∉ env.reads ∧ env.payload = true

theorem settles_stage : Settles ⟨COMM_MSG_STAGE, [AuthdStage.challenge.toByte]⟩ :=
  Or.inl ⟨rfl, by simp⟩

theorem denied_false : Denied ⟨COMM_MSG_AUTH_RESULT, [0]⟩ := by decide

/-- A password that is read is a reply to the prompt. -/
theorem answers_promptRead {env : Env} {c : PamChild} {p : Pipe} {todo : List PamMessage}
    {x : CommRead} (hc : c.phase = .prompt todo) (open_ : p.writer = true)
    (told : frameFraming.Carries Asked p.data)
    (henv : .error ∉ env.reads ∧ env.payload = true)
    (h : commRead env.payload env.reads p = some x) :
    Answers PamChild.Waits PamChild.Past c p (promptRead env c todo x) := by
  obtain ⟨f, rest, -, hf, hrest, hret, hpay, hpipe⟩ := childRead_told h told open_ henv
  have hbuf : x.payload = some (f.payload ++ [0]) := by rw [hpay, Frame.buffer, if_neg hf.2]
  have hret' : x.ret = COMM_MSG_PASSWORD.toNat := by rw [hret, hf.1]
  have hpos : ¬ (COMM_MSG_PASSWORD.toNat : Int) ≤ 0 := by decide
  have hread : promptRead env c todo x = if env.string 0 then
      { child := c.reply (some (cstr (f.payload ++ [0]))) todo, toChild := x.pipe }
    else { child := c.abort, toChild := x.pipe } := by
    rw [promptRead, hret', if_neg hpos, if_neg (not_not.mpr rfl), hbuf]
  have busy : ¬ (promptRead env c todo x).child.Waits := by
    rw [hread]
    rintro ⟨todo', h⟩
    split at h <;> cases h
  have past : ¬ c.Past := by
    rintro ⟨status, h⟩
    rw [hc] at h
    cases h
  have hto : (promptRead env c todo x).toChild = { p with data := rest } := by
    rw [hread, ← hpipe]
    split <;> rfl
  have hnil : frames (promptRead env c todo x).out = [] := by
    rw [promptRead_out]
    rfl
  refine ⟨by rw [hto], by rw [hto]; exact hrest, ?_, fun hw => absurd hw busy, ?_,
    fun hp => absurd hp past⟩
  · rw [promptRead_out]
    exact Framing.carries_nil _ _
  · rintro ⟨g, hg, -⟩
    rw [hnil] at hg
    cases hg

/-- **The PAM child answers**, with a plain module and reads that do not fail. -/
theorem responsive_pam : Responsive (pamBackend parse print username) PamAction.Sound
    PamChild.Plain PamChild.Waits PamChild.Past where
  step := by
    intro a c p r hc ha open_ told act _
    obtain ⟨hmove, hplain⟩ := plain_cases hc ha.1 act
    refine ⟨hplain, ?_⟩
    have nothing : ∀ {l : List UInt8}, l = [] → ¬ ∃ f ∈ frames l, Grants f := by
      rintro l rfl ⟨f, hf, -⟩
      cases hf
    cases hmove with
    | moves _ out toChild busy going =>
      refine ⟨by rw [toChild], by rw [toChild]; exact told, ?_, ?_, ?_, ?_⟩
      · rw [out]
        exact Framing.carries_nil _ _
      · rintro ⟨todo, h⟩
        exact absurd h (busy todo)
      · exact fun h => absurd h (nothing out)
      · rintro ⟨status, h⟩
        exact ⟨status, going status h⟩
    | asks h out toChild phase =>
      have hframes := frames_stage
      rw [← out] at hframes
      refine ⟨by rw [toChild], by rw [toChild]; exact told, by rw [out]; exact carries_stage,
        fun _ => Or.inr ⟨_, by rw [hframes]; exact List.mem_cons_self, settles_stage⟩, ?_, ?_⟩
      · rintro ⟨f, hf, hg⟩
        rw [hframes] at hf
        obtain rfl := List.mem_singleton.mp hf
        exact absurd (show COMM_MSG_STAGE = COMM_MSG_AUTH_RESULT from hg.1) (by decide)
      · rintro ⟨status, hs⟩
        obtain ⟨rest, h⟩ := h
        rw [h] at hs
        cases hs
    | reads h read => exact answers_promptRead h open_ told (ha.2 _ rfl) read
    | rejects h failure busy =>
      refine ⟨rfl, told, carries_authResult false, ?_, ?_, ?_⟩
      · rintro ⟨todo, hp⟩
        exact absurd hp (busy todo)
      · rintro ⟨f, hf, hg⟩
        dsimp only at hf
        rw [frames_authResult] at hf
        obtain rfl := List.mem_singleton.mp hf
        exact absurd hg denied_false.2
      · rintro ⟨status, hs⟩
        rw [h] at hs
        cases hs
    | accepts h =>
      refine ⟨rfl, told, carries_authResult true, ?_, fun _ => ⟨_, rfl⟩, fun _ => ⟨_, rfl⟩⟩
      rintro ⟨todo, hp⟩
      cases hp
  done := by
    rintro c ⟨status, hp⟩ ⟨todo, hw⟩
    rw [hp] at hw
    cases hw

/-! ## The shadow child -/

variable {crypt : CString → CString → Option CString} {encpw : CString}

/-- A password that is read is judged. -/
theorem answers_shadowRead {env : Env} {c : ShadowPhase} {p : Pipe} {x : CommRead}
    (hc : c = .reading) (open_ : p.writer = true) (told : frameFraming.Carries Asked p.data)
    (h : commRead env.payload env.reads p = some x)
    (stays : (shadowRead crypt encpw x).exits = false) :
    Answers (· ≠ .leaving) (· = .leaving) c p (shadowRead crypt encpw x) := by
  subst hc
  -- an error of `comm_child_read` ends the child
  have alive : 0 ≤ x.ret := by
    by_contra hlt
    rw [shadowRead, if_pos (Int.not_le.mp hlt)] at stays
    cases stays
  cases commRead_spec h with
  | tooLarge => exact absurd alive (by simp)
  | failed => exact absurd alive (by simp)
  | ended _ closed => rw [open_] at closed; cases closed
  | @frame f rest cs head =>
    obtain ⟨⟨htype, hpay⟩, hrest⟩ := told.tail head
    have hbuf : f.buffer = some (f.payload ++ [0]) := by rw [Frame.buffer, if_neg hpay]
    have hret : ¬ (COMM_MSG_PASSWORD.toNat : Int) < 0 ∧ ¬ (COMM_MSG_PASSWORD.toNat : Int) = 0 := by
      decide
    rw [htype, hbuf] at stays ⊢
    rw [shadowRead, if_neg hret.1, if_neg hret.2, if_neg (not_not.mpr rfl)] at stays ⊢
    dsimp only at stays ⊢
    cases hcrypt : crypt (cstr (f.payload ++ [0])) encpw with
    | none =>
      rw [hcrypt] at stays
      cases stays
    | some c =>
      dsimp only
      by_cases he : c = encpw
      · rw [if_pos he]
        exact ⟨rfl, hrest, carries_authResult _, fun hw => absurd rfl hw, fun _ => rfl, by simp⟩
      · rw [if_neg he, decide_eq_false he]
        refine ⟨rfl, hrest, carries_authResult false, fun _ => Or.inr ?_, ?_, by simp⟩
        · exact ⟨_, by rw [frames_authResult]; exact List.mem_cons_self, Or.inr denied_false⟩
        · rintro ⟨g, hg, hgr⟩
          dsimp only at hg
          rw [frames_authResult] at hg
          obtain rfl := List.mem_singleton.mp hg
          exact absurd hgr denied_false.2

/-- **The shadow child answers** each password. -/
theorem responsive_shadow : Responsive (shadowBackend crypt encpw) (fun _ => True)
    (fun _ => True) (· ≠ .leaving) (· = .leaving) where
  step := by
    intro a c p r _ _ open_ told act stays
    refine ⟨trivial, ?_⟩
    cases shadow_cases crypt encpw act with
    | read hc read => exact answers_shadowRead hc open_ told read stays
    | wake hc =>
      subst hc
      refine ⟨rfl, told, Framing.carries_nil _ _, fun _ => Or.inl ⟨by decide, rfl⟩, ?_, by simp⟩
      rintro ⟨f, hf, -⟩
      cases hf
    | leave => cases stays
  done := fun h hn => hn h

/-! ## No lost wake-up -/

/-- **No lost wake-up.**  With plain PAM prompts (where no read of the child fails), and
with the shadow backend, no run reaches a state in which both pipes are empty, the child
waits in `comm_child_read` for a password, and the main process, still running, is in
`AUTH_STATE_VALIDATING`. -/
theorem no_lost_wakeup (debugUnlock : Bool) (parse : CString → Option Json)
    (print : Json → Option CString) (username : CString)
    (crypt : CString → CString → Option CString) (encpw : CString) (args : SwaylockArgs)
    (buffer : List UInt8) (h0 : buffer ≠ []) (hmax : buffer.length ≤ COMM_MAX_PAYLOAD) :
    (∀ as s, Along (system debugUnlock parse (pamBackend parse print username))
        (ChildSteps PamAction.Sound) as (System.start {} args buffer) →
      run (system debugUnlock parse (pamBackend parse print username)) as
        (System.start {} args buffer) = some s → ¬ Stuck PamChild.Waits s) ∧
    (∀ as s, run (system debugUnlock parse (shadowBackend crypt encpw)) as
        (System.start .reading args buffer) = some s → ¬ Stuck (· = .reading) s) := by
  refine ⟨fun as s hsound hrun => ?_, fun as s hrun hstuck => ?_⟩
  · have hs : Attentive PamChild.Plain PamChild.Waits PamChild.Past s :=
      run_invariant_along (fun _ _ _ hI hC h => attentive_step responsive_pam hI hC h) hsound hrun
        (attentive_start args h0 hmax trivial)
    exact hs.not_stuck
  · have hs : Attentive (fun _ => True) (· ≠ ShadowPhase.leaving) (· = .leaving) s := by
      refine run_invariant_along (C := ChildSteps fun _ => True) (fun _ _ _ hI hC h =>
        attentive_step responsive_shadow hI hC h) (along_of_mem (fun a _ s => ?_) _) hrun
        (attentive_start args h0 hmax trivial)
      cases a <;> trivial
    obtain ⟨h1, h2, h3⟩ := hstuck
    exact hs.not_stuck ⟨h1, by rw [h2]; decide, h3⟩

/-- The child has read the first password and asks for a second one. -/
def secondPromptRun : List (Action PamAction) :=
  [.child (.start true), .child (.converse [.PAM_PROMPT_ECHO_OFF, .PAM_PROMPT_ECHO_ON] true),
    .child (.next {}), .write 7, .main (.lock true), .main (.flush true), .main (.poll false),
    .main (.reply { reads := List.replicate 3 (.short 7) }), .main .term, .main (.clock {}),
    .main (.timer {}), .main (.flush true), .main (.poll true),
    .main (.key { writes := List.replicate 3 (.short 7) } .Return 0x0D),
    .child (.next { reads := List.replicate 3 (.short 7) }), .child (.next {})]

theorem sound_secondPromptRun (s : System PamChild)
    (step : Action PamAction → System PamChild → Option (System PamChild)) :
    Along step (ChildSteps PamAction.Sound) secondPromptRun s := by
  have next : ∀ env : Env, .error ∉ env.reads ∧ env.payload = true →
      PamAction.Sound (.next env) := by
    intro env henv
    refine ⟨trivial, fun env' he => ?_⟩
    cases he
    exact henv
  refine along_of_mem (fun a ha s => ?_) s
  simp only [secondPromptRun, List.mem_cons, List.not_mem_nil, or_false] at ha
  rcases ha with rfl | rfl | rfl | rfl | rfl | rfl | rfl | rfl | rfl | rfl | rfl | rfl | rfl |
    rfl | rfl | rfl
  all_goals first
    | exact trivial
    | exact next _ ⟨by decide, rfl⟩
    | exact ⟨trivial, by simp⟩
    | exact ⟨fun _ _ => by simp, by simp⟩

set_option maxRecDepth 10000 in
theorem no_lost_wakeup_secondPrompt :
    ∃ s, run (system false (fun _ => none) (pamBackend (fun _ => none) (fun _ => none) []))
        secondPromptRun (System.start {} {} (List.replicate 1024 0)) = some s ∧
      PamChild.Waits s.child ∧ s.main.state.authState = .validating ∧
      ¬ Stuck PamChild.Waits s := by
  refine ⟨_, rfl, ⟨_, rfl⟩, rfl, ?_⟩
  exact (no_lost_wakeup false (fun _ => none) (fun _ => none) [] (fun _ _ => none) [] {}
    (List.replicate 1024 0) (List.ne_nil_of_length_pos (by rw [List.length_replicate]; decide))
    (by rw [List.length_replicate]; decide)).1 secondPromptRun _ (sound_secondPromptRun _ _) rfl

/-! ## A lost frame -/

/-- An iteration of the loop that reads a frame and visits `timers` timers. -/
def readIteration (timers : Nat) : List (Action PamAction) :=
  [.main (.flush true), .main (.poll false),
    .main (.reply { reads := List.replicate 3 (.short 7) }), .main .term, .main (.clock {})] ++
    List.replicate (timers + 1) (.main (.timer {}))

/-- There is no memory for the payload of the first password, and its byte stays in the
pipe.  The module gives up and is called again, and Return is pressed again. -/
def lostFrameRun : List (Action PamAction) :=
  [.child (.start true), .child (.converse [.PAM_PROMPT_ECHO_OFF] true), .child (.next {}),
    .write 7, .main (.lock true)] ++ readIteration 0 ++
  [.main (.flush true), .main (.poll true),
    .main (.key { writes := List.replicate 3 (.short 7) } .Return 0x0D), .main (.dispatched true),
    .main (.reply {}), .main .term, .main (.clock {}), .main (.timer {}),
    .child (.next { reads := List.replicate 3 (.short 7), payload := false }),
    .child (.returns .PAM_AUTH_ERR), .write 7,
    .child (.converse [.PAM_PROMPT_ECHO_OFF] true), .child (.next {}), .write 7] ++
  readIteration 1 ++ readIteration 1 ++
  [.main (.flush true), .main (.poll true),
    .main (.key { writes := List.replicate 3 (.short 7) } .Return 0x0D)]

theorem plain_lostFrameRun (s : System PamChild)
    (step : Action PamAction → System PamChild → Option (System PamChild)) :
    Along step PlainModule lostFrameRun s := by
  refine along_of_mem (fun a ha s => ?_) s
  cases a with
  | child a =>
    simp [lostFrameRun, readIteration] at ha
    rcases ha with rfl | rfl | rfl | rfl | rfl | rfl | rfl
    all_goals first | exact trivial | exact fun _ _ => by simp
  | _ => trivial

set_option maxRecDepth 10000 in
/-- **A frame lost half-read**: the child takes what is left of it for a header, and waits for
the rest of a payload that nobody sends. -/
theorem stuck_lostFrame :
    Along (system false (fun _ => none) (pamBackend (fun _ => none) (fun _ => none) []))
        PlainModule lostFrameRun (System.start {} {} (List.replicate 1024 0)) ∧
      ∃ s, run (system false (fun _ => none) (pamBackend (fun _ => none) (fun _ => none) []))
          lostFrameRun (System.start {} {} (List.replicate 1024 0)) = some s ∧
        Stuck PamChild.Waits s := by
  refine ⟨plain_lostFrameRun _ _, ?_⟩
  have hrun : ∃ s, run (system false (fun _ => none)
      (pamBackend (fun _ => none) (fun _ => none) [])) lostFrameRun
        (System.start {} {} (List.replicate 1024 0)) = some s ∧
      s.alive = true ∧ s.child.phase = .prompt [] ∧ s.out = [] ∧
      s.main.toChild.data = [0, 1, 1, 0, 0, 0, 0] ∧ s.main.toMain.data = [] ∧
      s.main.phase = .display {} false ∧ s.main.state.authState = .validating :=
    ⟨_, rfl, rfl, rfl, rfl, rfl, rfl, rfl, rfl⟩
  obtain ⟨s, hs, halive, hchild, hout, hdata, hmain, hphase, hv⟩ := hrun
  refine ⟨s, hs, halive, ⟨[], hchild⟩, hout, ?_, ?_, ?_, hv⟩
  · rw [hdata]
    rfl
  · rw [hmain]
    rfl
  · rw [hphase]
    rfl

end SwaylockAuthd
