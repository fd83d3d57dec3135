import SwaylockAuthd.PlainPam
import SwaylockAuthd.Unlock

/-!
# Counting failed attempts

`comm_in` counts a denied AUTH_RESULT, and a STAGE frame that arrives in
`AUTH_STATE_VALIDATING`: authd asks again that way, and `handle_conversation` announces each
prompt so.  A prompt that is announced behind the back of a submission is therefore
counted, though nothing has been rejected.

* `attempts_accounted`: what is counted, along every run with a plain module.
* `counted_prompt`: Return before the first prompt is announced.
-/

namespace SwaylockAuthd

open Transition

/-! ## Counting -/

/-- A result that does not unlock. -/
def Denied (f : Frame) : Prop := f.type = COMM_MSG_AUTH_RESULT ∧ ¬ Grants f

instance (f : Frame) : Decidable (Denied f) := by
  unfold Denied
  infer_instance

/-- The denied results in a stream. -/
def denied (l : List UInt8) : Nat := (frames l).countP fun f => decide (Denied f)

/-- The frame a step has taken from the reply pipe. -/
def consumedFrame {β : Type} (s t : System β) : Option Frame :=
  if t.main.toMain.data.length < s.main.toMain.data.length then
    match frameHead s.main.toMain.data with
    | .item f _ => some f
    | _ => none
  else none

/-- The attempts of a run: `pam_authenticate` calls that were rejected, denied results the
main process has consumed, and STAGE frames it has taken for a failed attempt. -/
structure Attempts where
  rejected : Nat := 0
  consumed : Nat := 0
  retried : Nat := 0
  deriving DecidableEq, Repr

def noteAttempts (a : Action PamAction) (s t : System PamChild) (n : Attempts) : Attempts :=
  match a with
  | .child (.returns status) =>
    if status = .PAM_SUCCESS then n else { n with rejected := n.rejected + 1 }
  | .main _ =>
    match consumedFrame s t with
    | some f =>
      if Denied f then { n with consumed := n.consumed + 1 }
      else if Retries s.main.state f then { n with retried := n.retried + 1 }
      else n
    | none => n
  | _ => n

theorem consumedFrame_none {β : Type} {s t : System β}
    (h : s.main.toMain.data.length ≤ t.main.toMain.data.length) : consumedFrame s t = none := by
  rw [consumedFrame, if_neg (not_lt.mpr h)]

theorem consumedFrame_some {β : Type} {s t : System β} {f : Frame} {rest : List UInt8}
    (head : frameHead s.main.toMain.data = .item f rest) (h : t.main.toMain.data = rest) :
    consumedFrame s t = some f := by
  have hlt : rest.length < s.main.toMain.data.length := frameFraming.shorter head
  rw [consumedFrame, h, if_pos hlt, head]

/-! ## What a step counts -/

theorem KeyStep.attempts {env : Env} {s t : SwaylockState} {p q : Pipe} (h : KeyStep env s p t q) :
    t.failedAttempts = s.failedAttempts ∧
      (t.authState = .invalid → s.authState = .invalid ∨ env.secret = false) := by
  cases h with
  | move h =>
    exact ⟨h.keep _ (by intros; rfl), fun ht =>
      Or.inl ((h.keep SwaylockState.authState (by intros; rfl)).symm.trans ht)⟩
  | send h =>
    exact ⟨h.keep _ (by intros; rfl), fun ht =>
      Or.inl ((h.keep SwaylockState.authState (by intros; rfl)).symm.trans ht)⟩
  | edit a codepoint =>
    have he := edits_edit env s codepoint a
    exact ⟨he.keep _ (by intros; rfl), fun ht =>
      Or.inl ((he.keep SwaylockState.authState (by intros; rfl)).symm.trans ht)⟩
  | fail _ memory => exact ⟨rfl, fun _ => Or.inr memory⟩
  | submit =>
    refine ⟨rfl, fun ht => ?_⟩
    have hv : (submitted s).authState = .validating := rfl
    rw [hv] at ht
    cases ht

theorem visitTimer_attempts (env : Env) (now : Timespec) (addr : Nat) (s : SwaylockState) :
    (visitTimer env now addr s).failedAttempts = s.failedAttempts ∧
      ((visitTimer env now addr s).authState = s.authState ∨
        (visitTimer env now addr s).authState = .idle) := by
  rcases visitTimer_cases env now addr s with hv | hv | ⟨callback, t, -, rfl, hv⟩
  · rw [hv]
    exact ⟨rfl, Or.inl rfl⟩
  · rw [hv]
    exact ⟨rfl, Or.inl rfl⟩
  · rw [hv]
    cases callback with
    | setInputIdle => exact ⟨rfl, Or.inl rfl⟩
    | setAuthIdle => exact ⟨rfl, Or.inr rfl⟩
    | clearPassword => exact ⟨rfl, Or.inl rfl⟩

/-- **What a frame counts**: a denied result and a STAGE frame in
`AUTH_STATE_VALIDATING`, each one. -/
theorem FrameStep.attempts {env : Env} {s t : SwaylockState} {f : Frame}
    (h : FrameStep env s f t) :
    ((Denied f ∨ Retries s f) ∧ t.failedAttempts = s.failedAttempts + 1) ∨
      (¬ Denied f ∧ ¬ Retries s f ∧ t.failedAttempts = s.failedAttempts ∧
        (t.authState = .invalid → s.authState = .invalid)) := by
  cases h with
  | granted hg =>
    refine Or.inr ⟨fun hd => hd.2 hg, fun hr => ?_, rfl, id⟩
    exact absurd (hg.1.symm.trans hr.1) (by decide)
  | denied type hn keep =>
    exact Or.inl ⟨Or.inl ⟨type, hn⟩, keep.keep _ (by intros; rfl)⟩
  | retried hr keep => exact Or.inl ⟨Or.inr hr, keep.keep _ (by intros; rfl)⟩
  | settled type keep =>
    refine Or.inr ⟨fun hd => ?_, fun hr => ?_, keep.keep _ (by intros; rfl), fun ht => ?_⟩
    · rcases type with ht | ht
      · exact absurd (hd.1.symm.trans ht) (by decide)
      · exact absurd (hd.1.symm.trans ht) (by decide)
    · rcases type with ht | ht
      · exact absurd (hr.1.symm.trans ht) (by decide)
      · exact absurd (hr.1.symm.trans ht) (by decide)
    · have hidle : t.authState = .idle := keep.keep SwaylockState.authState (by intros; rfl)
      rw [hidle] at ht
      cases ht
  | informed type hn keep =>
    refine Or.inr ⟨fun hd => type hd.1, hn, keep.keep _ (by intros; rfl), fun ht => ?_⟩
    exact (keep.keep SwaylockState.authState (by intros; rfl)).symm.trans ht

variable {debugUnlock : Bool} {parse : CString → Option Json} {print : Json → Option CString}
  {username : CString}

/-- A step of the main process reads a frame, or counts nothing. -/
theorem MainMove.attempts {a : MainAction} {m n : MainSide} (h : MainMove debugUnlock parse m a n) :
    (∃ env f rest, frameHead m.toMain.data = .item f rest ∧ n.toMain.data = rest ∧
      FrameStep env m.state f n.state) ∨
    (n.toMain.data = m.toMain.data ∧ n.state.failedAttempts = m.state.failedAttempts ∧
      (n.state.authState = .invalid → m.state.authState = .invalid ∨
        ∃ env keysym codepoint, a = .key env keysym codepoint ∧ env.secret = false)) := by
  cases h with
  | frame _ _ head _ _ step => exact Or.inl ⟨_, _, _, head, rfl, step⟩
  | key _ _ step =>
    refine Or.inr ⟨rfl, step.attempts.1, fun ht => ?_⟩
    rcases step.attempts.2 ht with hs | hs
    · exact Or.inl hs
    · exact Or.inr ⟨_, _, _, rfl, hs⟩
  | modifiers _ h =>
    exact Or.inr ⟨rfl, h.keep _ (by intros; rfl), fun ht =>
      Or.inl ((h.keep SwaylockState.authState (by intros; rfl)).symm.trans ht)⟩
  | timer =>
    obtain ⟨hf, ha⟩ := visitTimer_attempts _ _ _ _
    refine Or.inr ⟨rfl, hf, fun ht => Or.inl ?_⟩
    rcases ha with ha | ha
    · exact ha.symm.trans ht
    · rw [ha] at ht
      cases ht
  | _ => exact Or.inr ⟨rfl, rfl, Or.inl⟩

/-! ## Runs -/

/-- What has been counted. -/
structure Accounted (x : System PamChild × Attempts) : Prop where
  plain : x.1.child.Plain
  flight : x.1.alive = true → frameFraming.Carries Replies x.1.inFlight
  failed : x.1.main.state.failedAttempts = x.2.consumed + x.2.retried
  exact_ : x.1.alive = true → x.2.rejected = x.2.consumed + denied x.1.inFlight
  le : x.2.consumed + denied x.1.inFlight ≤ x.2.rejected

theorem denied_head {l r : List UInt8} {f : Frame} (head : frameHead l = .item f r) :
    denied l = denied r + if Denied f then 1 else 0 := by
  rw [denied, (frames_of_item head).1, List.countP_cons, denied]
  simp

/-- The frames of a cut stream. -/
theorem denied_left (l m : List UInt8) : denied l ≤ denied (l ++ m) :=
  (frameFraming.items_prefix_append m l).sublist.countP_le

theorem denied_append {l : List UInt8} (h : frameFraming.Carries Replies l) (m : List UInt8) :
    denied (l ++ m) = denied l + denied m := by
  rw [denied, frames, Framing.items_append_of_carries h, List.countP_append]
  rfl

/-- A frame is read, and counted if it is a denied result. -/
theorem Accounted.read {s : System PamChild} {m : MainSide} {n n' : Attempts} {f : Frame}
    {rest : List UInt8} (hs : Accounted (s, n)) (head : frameHead s.main.toMain.data = .item f rest)
    (hdata : m.toMain.data = rest) (hrejected : n'.rejected = n.rejected)
    (hconsumed : n'.consumed = n.consumed + if Denied f then 1 else 0)
    (hfailed : m.state.failedAttempts = n'.consumed + n'.retried) :
    Accounted ({ s with main := m.settle }, n') := by
  have hin : ({ s with main := m.settle } : System PamChild).inFlight = rest ++ s.out := by
    rw [System.inFlight, settle_toMain_data, hdata]
  have hd := denied_head (inFlight_head head)
  refine ⟨hs.plain, fun alive => ?_, ?_, fun alive => ?_, ?_⟩
  · rw [hin]
    exact ((hs.flight alive).tail (inFlight_head head)).2
  · dsimp only
    rw [settle_state]
    exact hfailed
  · have := hs.exact_ alive
    dsimp only at this ⊢
    rw [hin]
    omega
  · have := hs.le
    dsimp only at this ⊢
    rw [hin]
    omega

/-- A step of the main process. -/
theorem accounted_main {a : MainAction} {s : System PamChild} {m : MainSide} {n : Attempts}
    (hs : Accounted (s, n)) (h : MainMove debugUnlock parse s.main a m) :
    Accounted ({ s with main := m.settle },
      noteAttempts (.main a) s { s with main := m.settle } n) := by
  have hfailed : s.main.state.failedAttempts = n.consumed + n.retried := hs.failed
  rw [noteAttempts]
  rcases h.attempts with ⟨env, f, rest, head, hdata, step⟩ | ⟨hdata, hfa, -⟩
  · -- a frame is read
    have hc : consumedFrame s { s with main := m.settle } = some f :=
      consumedFrame_some head (by rw [settle_toMain_data]; exact hdata)
    rw [hc]
    dsimp only
    rcases step.attempts with ⟨hor, hf⟩ | ⟨hden, hret, hf, -⟩
    · by_cases hden : Denied f
      · rw [if_pos hden]
        exact hs.read head hdata rfl (by rw [if_pos hden]) (by dsimp only; omega)
      · rw [if_neg hden, if_pos (hor.resolve_left hden)]
        exact hs.read head hdata rfl (by rw [if_neg hden]; rfl) (by dsimp only; omega)
    · rw [if_neg hden, if_neg hret]
      exact hs.read head hdata rfl (by rw [if_neg hden]; rfl) (hf.trans hfailed)
  · -- no frame is read
    have hc : consumedFrame s { s with main := m.settle } = none :=
      consumedFrame_none (by rw [settle_toMain_data, hdata])
    have hin : ({ s with main := m.settle } : System PamChild).inFlight = s.inFlight := by
      rw [System.inFlight, settle_toMain_data, hdata]
      rfl
    rw [hc]
    refine ⟨hs.plain, ?_, ?_, ?_, ?_⟩
    · dsimp only
      rw [hin]
      exact hs.flight
    · dsimp only
      rw [settle_state, hfa]
      exact hfailed
    · dsimp only
      rw [hin]
      exact hs.exact_
    · dsimp only
      rw [hin]
      exact hs.le

/-- The child writes a denied result for each attempt that is rejected. -/
theorem PlainMove.counts {a : PamAction} {c : PamChild} {p : Pipe} {r : Reaction PamChild}
    (h : PlainMove c p a r) (s t : System PamChild) (n : Attempts) :
    noteAttempts (.child a) s t n = { n with rejected := n.rejected + denied r.out } := by
  have hnil : denied [] = 0 := rfl
  cases h with
  | moves silent out =>
    rw [out, hnil]
    cases a with
    | returns status => exact absurd rfl (silent status)
    | _ => rfl
  | asks _ out =>
    rw [out, denied, frames_stage]
    rfl
  | reads =>
    rw [promptRead_out, hnil]
    rfl
  | rejects _ failure =>
    rw [noteAttempts, if_neg failure, denied, frames_authResult]
    rfl
  | accepts =>
    rw [noteAttempts, if_pos rfl, denied, frames_authResult]
    rfl

theorem accounted_child {a : PamAction} {s : System PamChild} {r : Reaction PamChild}
    {n : Attempts} (hs : Accounted (s, n)) (alive : s.alive = true) (idle : s.out = [])
    (h : PlainMove s.child s.main.toChild a r) (plain : r.child.Plain) :
    Accounted ({ s with
        main := { s.main with toChild := r.toChild }, child := r.child, out := r.out },
      { n with rejected := n.rejected + denied r.out }) := by
  obtain ⟨-, hflight, hfailed, hexact, hle⟩ := hs
  dsimp only at hflight hfailed hexact hle
  have hin : s.inFlight = s.main.toMain.data := by
    rw [System.inFlight, idle, List.append_nil]
  have hdata := hflight alive
  rw [hin] at hdata hle
  have heq := hexact alive
  rw [hin] at heq
  have hd := denied_append hdata r.out
  refine ⟨plain, fun _ => hdata.append h.carries, hfailed, fun _ => ?_, ?_⟩
  · dsimp only [System.inFlight]
    omega
  · dsimp only [System.inFlight]
    omega

/-- What is lost when the child ends was not consumed. -/
theorem accounted_childEnds {s : System PamChild} {n : Attempts} (hs : Accounted (s, n)) :
    Accounted (s.childEnds, n) := by
  obtain ⟨hplain, -, hfailed, -, hle⟩ := hs
  have hin : s.childEnds.inFlight = s.main.toMain.data := List.append_nil _
  have dead : ¬ s.childEnds.alive = true := by simp [System.childEnds]
  refine ⟨hplain, fun ha => absurd ha dead, hfailed, fun ha => absurd ha dead, ?_⟩
  dsimp only
  rw [hin]
  exact le_trans (Nat.add_le_add_left (denied_left _ s.out) _) hle

theorem accounted_step {a : Action PamAction} {x y : System PamChild × Attempts}
    (hx : Accounted x) (ha : PlainModule a x.1)
    (h : monitored (system debugUnlock parse (pamBackend parse print username)) noteAttempts a x =
      some y) : Accounted y := by
  obtain ⟨s, n⟩ := x
  obtain ⟨t, n'⟩ := y
  obtain ⟨hstep, rfl : n' = noteAttempts a s t n⟩ := monitored_eq_some.mp h
  cases system_cases debugUnlock parse (pamBackend parse print username) hstep with
  | main hm => exact accounted_main hx hm
  | child alive idle act =>
    obtain ⟨hmove, hplain⟩ := plain_cases hx.plain ha act
    rw [hmove.counts]
    exact accounted_child hx alive idle hmove hplain
  | childExits alive idle act =>
    obtain ⟨hmove, hplain⟩ := plain_cases hx.plain ha act
    rw [hmove.counts]
    exact accounted_childEnds (accounted_child hx alive idle hmove hplain)
  | write =>
    obtain ⟨hplain, hflight, hfailed, hexact, hle⟩ := hx
    refine ⟨hplain, ?_, hfailed, ?_, ?_⟩
    all_goals
      dsimp only
      rw [System.inFlight, inFlight_write]
    · exact hflight
    · exact hexact
    · exact hle
  | sigpipe => exact accounted_childEnds hx
  | crash => exact accounted_childEnds hx

theorem accounted_start (args : SwaylockArgs) (buffer : List UInt8) :
    Accounted (System.start {} args buffer, {}) :=
  ⟨trivial, fun _ => frameFraming.carries_nil _, rfl, fun _ => rfl, le_rfl⟩

/-- What a step counts, and what makes it show a failed attempt. -/
theorem attempts_step {a : Action PamAction} {s t : System PamChild}
    (h : system debugUnlock parse (pamBackend parse print username) a s = some t) :
    (t.main.state.authState = .invalid → s.main.state.authState = .invalid ∨
      (∃ f, consumedFrame s t = some f ∧ (Denied f ∨ Retries s.main.state f)) ∨
      ∃ env keysym codepoint, a = .main (.key env keysym codepoint) ∧ env.secret = false) ∧
    (∀ f, consumedFrame s t = some f → ¬ Denied f → ¬ Retries s.main.state f →
      t.main.state.failedAttempts = s.main.state.failedAttempts ∧
        (t.main.state.authState = .invalid → s.main.state.authState = .invalid)) := by
  have child : ∀ {t : System PamChild}, t.main.state = s.main.state →
      s.main.toMain.data.length ≤ t.main.toMain.data.length →
      (t.main.state.authState = .invalid → s.main.state.authState = .invalid ∨
        (∃ f, consumedFrame s t = some f ∧ (Denied f ∨ Retries s.main.state f)) ∨
        ∃ env keysym codepoint, a = .main (.key env keysym codepoint) ∧ env.secret = false) ∧
      (∀ f, consumedFrame s t = some f → ¬ Denied f → ¬ Retries s.main.state f →
        t.main.state.failedAttempts = s.main.state.failedAttempts ∧
          (t.main.state.authState = .invalid → s.main.state.authState = .invalid)) := by
    intro t hstate _
    rw [hstate]
    exact ⟨Or.inl, fun _ _ _ _ => ⟨rfl, id⟩⟩
  cases system_cases debugUnlock parse (pamBackend parse print username) h with
  | @main a m hm =>
    dsimp only
    rw [settle_state]
    rcases hm.attempts with ⟨env, f, rest, head, hdata, step⟩ | ⟨hdata, hfa, hinv⟩
    · have hc : consumedFrame s { s with main := m.settle } = some f :=
        consumedFrame_some head (by rw [settle_toMain_data]; exact hdata)
      rw [hc]
      rcases step.attempts with ⟨hor, -⟩ | ⟨hd, hr, hf, hinv⟩
      · refine ⟨fun _ => Or.inr (Or.inl ⟨f, rfl, hor⟩), ?_⟩
        rintro g hg hd hr
        cases hg
        exact absurd hor (not_or.mpr ⟨hd, hr⟩)
      · exact ⟨fun ht => Or.inl (hinv ht), fun _ _ _ _ => ⟨hf, hinv⟩⟩
    · have hc : consumedFrame s { s with main := m.settle } = none :=
        consumedFrame_none (by rw [settle_toMain_data, hdata])
      rw [hc]
      refine ⟨fun ht => ?_, fun f hf => by cases hf⟩
      rcases hinv ht with hs | ⟨env, keysym, codepoint, rfl, hsec⟩
      · exact Or.inl hs
      · exact Or.inr (Or.inr ⟨env, keysym, codepoint, rfl, hsec⟩)
  | child => exact child rfl le_rfl
  | childExits => exact child rfl le_rfl
  | write => exact child rfl (by simp)
  | sigpipe => exact child rfl le_rfl
  | crash => exact child rfl le_rfl

/-- **Failed attempts.**  Along every run with a plain module, `failed_attempts` is the number
of denied results consumed and of STAGE frames consumed in `AUTH_STATE_VALIDATING`; the
denied results are those of the calls that were rejected, the others still on their
way; and nothing but these and a password that could not be sent sets `AUTH_STATE_INVALID`. -/
theorem attempts_accounted (debugUnlock : Bool) (parse : CString → Option Json)
    (print : Json → Option CString) (username : CString) (args : SwaylockArgs)
    (buffer : List UInt8) {as : List (Action PamAction)} {x : System PamChild × Attempts}
    (hplain : Along (system debugUnlock parse (pamBackend parse print username)) PlainModule as
      (System.start {} args buffer))
    (h : run (monitored (system debugUnlock parse (pamBackend parse print username)) noteAttempts)
      as (System.start {} args buffer, {}) = some x) :
    x.1.main.state.failedAttempts = x.2.consumed + x.2.retried ∧
    (x.1.alive = true → x.2.rejected = x.2.consumed + denied x.1.inFlight) ∧
    x.2.consumed ≤ x.2.rejected ∧
    ∀ a t, system debugUnlock parse (pamBackend parse print username) a x.1 = some t →
      (t.main.state.authState = .invalid → x.1.main.state.authState = .invalid ∨
        (∃ f, consumedFrame x.1 t = some f ∧ (Denied f ∨ Retries x.1.main.state f)) ∨
        ∃ env keysym codepoint, a = .main (.key env keysym codepoint) ∧ env.secret = false) ∧
      (∀ f, consumedFrame x.1 t = some f → ¬ Denied f → ¬ Retries x.1.main.state f →
        t.main.state.failedAttempts = x.1.main.state.failedAttempts ∧
          (t.main.state.authState = .invalid → x.1.main.state.authState = .invalid)) := by
  have hx : Accounted x := run_invariant_along
    (C := fun a x => PlainModule a x.1) (fun _ _ _ hI hC hy => accounted_step hI hC hy)
    (along_monitored hplain) h (accounted_start args buffer)
  refine ⟨hx.failed, hx.exact_, le_trans (Nat.le_add_right _ _) hx.le, fun a t hstep => ?_⟩
  exact attempts_step hstep

/-! ## Typing ahead -/

/-- Return is pressed before the first prompt is announced, and the announcement is
read afterwards. -/
def typeAheadRun : List (Action PamAction) :=
  [.child (.start true), .child (.converse [.PAM_PROMPT_ECHO_OFF] true), .child (.next {}),
    .write 7, .main (.lock true), .main (.flush true), .main (.poll true),
    .main (.key { writes := List.replicate 3 (.short 7) } .Return 0x0D), .main (.dispatched true),
    .main (.reply { reads := List.replicate 3 (.short 7) })]

theorem plain_typeAheadRun (s : System PamChild)
    (step : Action PamAction → System PamChild → Option (System PamChild)) :
    Along step PlainModule typeAheadRun s := by
  refine along_of_mem (fun a ha s => ?_) s
  simp only [typeAheadRun, List.mem_cons, List.not_mem_nil, or_false] at ha
  rcases ha with rfl | rfl | rfl | rfl | rfl | rfl | rfl | rfl | rfl | rfl
  all_goals first | exact trivial | exact fun _ _ => by simp

set_option maxRecDepth 10000 in
/-- **The announcement of the first prompt is counted**, and shown as a wrong password, though
nothing has been rejected. -/
theorem counted_prompt :
    Along (system false (fun _ => none) (pamBackend (fun _ => none) (fun _ => none) []))
        PlainModule typeAheadRun (System.start {} {} (List.replicate 1024 0)) ∧
      ∃ x, run (monitored (system false (fun _ => none)
          (pamBackend (fun _ => none) (fun _ => none) [])) noteAttempts) typeAheadRun
            (System.start {} {} (List.replicate 1024 0), {}) = some x ∧
        x.1.main.state.failedAttempts = 1 ∧ x.1.main.state.authState = .invalid ∧
        x.2.rejected = 0 ∧ x.2.consumed = 0 :=
  ⟨plain_typeAheadRun _ _, _, rfl, rfl, rfl, rfl, rfl⟩

set_option maxRecDepth 10000 in
theorem attempts_accounted_typeAhead :
    ∃ x, run (monitored (system false (fun _ => none)
        (pamBackend (fun _ => none) (fun _ => none) [])) noteAttempts) typeAheadRun
          (System.start {} {} (List.replicate 1024 0), {}) = some x ∧
      x.1.main.state.failedAttempts = x.2.consumed + x.2.retried := by
  refine ⟨_, rfl, ?_⟩
  exact (attempts_accounted false (fun _ => none) (fun _ => none) [] {} (List.replicate 1024 0)
    (plain_typeAheadRun _ _) rfl).1

end SwaylockAuthd
