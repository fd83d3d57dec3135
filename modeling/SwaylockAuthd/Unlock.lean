import SwaylockAuthd.Shadow

/-!
# No unlock without authentication

`main` unlocks when `run_display` is false at the head of its loop, or when the flush
there fails.  `comm_in` clears the flag on a granted AUTH_RESULT only; the two other
writers are `term_in` (`SIGUSR1`) and `display_in`.  A child that has not found the
password right has written no such frame, and a frame it was writing when it ended
cannot be completed by anything else.

* `unlocked_reason`: for every backend that writes a granting frame only after it has
  authenticated.
* `unlocked_authenticated`: for the PAM and the shadow child.
-/

namespace SwaylockAuthd

open Transition

/-! ## The two fields an unlock depends on -/

theorem KeyStep.runs {env : Env} {s t : SwaylockState} {p q : Pipe} (h : KeyStep env s p t q) :
    t.args = s.args ∧ t.runDisplay = s.runDisplay := by
  cases h with
  | move h => exact ⟨h.keep _ (by intros; rfl), h.keep _ (by intros; rfl)⟩
  | send h => exact ⟨h.keep _ (by intros; rfl), h.keep _ (by intros; rfl)⟩
  | edit a codepoint =>
    have he := edits_edit env s codepoint a
    exact ⟨he.keep _ (by intros; rfl), he.keep _ (by intros; rfl)⟩
  | fail => exact ⟨rfl, rfl⟩
  | submit => exact ⟨rfl, rfl⟩

theorem FrameStep.args {env : Env} {s t : SwaylockState} {f : Frame} (h : FrameStep env s f t) :
    t.args = s.args := by
  cases h with
  | granted => rfl
  | denied _ _ keep => exact keep.keep _ (by intros; rfl)
  | retried _ keep => exact keep.keep _ (by intros; rfl)
  | settled _ keep => exact keep.keep _ (by intros; rfl)
  | informed _ _ keep => exact keep.keep _ (by intros; rfl)

/-- **Only a granted AUTH_RESULT clears `run_display`.** -/
theorem FrameStep.runs {env : Env} {s t : SwaylockState} {f : Frame} (h : FrameStep env s f t)
    (hf : ¬ Grants f) : t.runDisplay = s.runDisplay := by
  cases h with
  | granted hg => exact absurd hg hf
  | denied _ _ keep => exact keep.keep _ (by intros; rfl)
  | retried _ keep => exact keep.keep _ (by intros; rfl)
  | settled _ keep => exact keep.keep _ (by intros; rfl)
  | informed _ _ keep => exact keep.keep _ (by intros; rfl)

theorem visitTimer_runs (env : Env) (now : Timespec) (addr : Nat) (s : SwaylockState) :
    (visitTimer env now addr s).args = s.args ∧
      (visitTimer env now addr s).runDisplay = s.runDisplay := by
  rcases visitTimer_cases env now addr s with hv | hv | ⟨callback, t, -, rfl, hv⟩
  · rw [hv]
    exact ⟨rfl, rfl⟩
  · rw [hv]
    exact ⟨rfl, rfl⟩
  · rw [hv]
    cases callback <;> exact ⟨rfl, rfl⟩

variable {debugUnlock : Bool} {parse : CString → Option Json}

theorem MainMove.args {a : MainAction} {m n : MainSide} (h : MainMove debugUnlock parse m a n) :
    n.state.args = m.state.args := by
  cases h with
  | key _ _ step => exact step.runs.1
  | modifiers _ h => exact h.keep _ (by intros; rfl)
  | frame _ _ _ _ _ step => exact step.args
  | timer => exact (visitTimer_runs _ _ _ _).1
  | _ => rfl

theorem SystemMove.args {α β : Type} {backend : Backend β α} {a : Action α} {s t : System β}
    (h : SystemMove debugUnlock parse backend s a t) : t.main.state.args = s.main.state.args := by
  cases h with
  | main h => rw [settle_state]; exact h.args
  | _ => rfl

/-! ## The main process without a reason -/

/-- `SIGUSR1` was waiting when `poll` returned. -/
def MainPhase.signalled : MainPhase → Bool
  | .display _ sig | .reply _ sig | .term sig => sig
  | _ => false

/-- The main process keeps the session locked. -/
structure Locked (m : MainSide) : Prop where
  run : m.state.runDisplay = true
  sigusr : m.sigusr = false
  phase : m.phase.signalled = false
  locked : m.phase ≠ .unlocked

/-- The steps that are a reason to unlock. -/
def MainAction.unlocks : MainAction → Bool
  | .sigusr1 | .dispatched false | .flush false => true
  | _ => false

theorem locked_move {a : MainAction} {m n : MainSide} (hm : Locked m)
    (hargs : m.state.args.stealUnlock = false) (ha : a.unlocks = false)
    (h : MainMove false parse m a n)
    (hf : ∀ f rest, frameHead m.toMain.data = .item f rest → ¬ Grants f) : Locked n := by
  obtain ⟨hrun, hsig, hph, hlock⟩ := hm
  cases h with
  | proceeds h =>
    refine ⟨hrun, hsig, ?_, ?_⟩
    · cases h with
      | poll _ display =>
        dsimp only
        rw [hsig]
        cases display <;> rfl
      | quiet h =>
        rw [h] at hph
        exact hph
      | _ => rfl
    · cases h with
      | poll _ display => cases display <;> simp
      | _ => simp
  | ends h =>
    cases h with
    | crash _ debug => cases debug
    | _ => exact ⟨hrun, hsig, rfl, by simp [MainPhase.onExit]⟩
  | steals _ steal =>
    rw [hargs] at steal
    cases steal
  | unlocks _ why =>
    rcases why with hr | rfl
    · rw [hrun] at hr
      cases hr
    · cases ha
  | key _ _ step => exact ⟨step.runs.2.trans hrun, hsig, hph, hlock⟩
  | modifiers _ h => exact ⟨(h.keep _ (by intros; rfl)).trans hrun, hsig, hph, hlock⟩
  | dispatched h =>
    rw [h] at hph
    exact ⟨hrun, hsig, hph, by simp⟩
  | displayFailed => cases ha
  | frame h _ head _ _ step =>
    rw [h] at hph
    exact ⟨(step.runs (hf _ _ head)).trans hrun, hsig, hph, by simp⟩
  | terminated h =>
    rw [h] at hph
    cases hph
  | timer h => exact ⟨(visitTimer_runs _ _ _ _).2.trans hrun, hsig, rfl, by simp⟩
  | sigusr1 => cases ha

/-! ## The composition -/

/-- What has happened that lets the main process unlock. -/
structure Reasons where
  authenticated : Bool := false
  sigusr1 : Bool := false
  displayFailed : Bool := false
  deriving DecidableEq, Repr

/-- One of the three has happened. -/
def Reasons.Any (r : Reasons) : Prop :=
  r.authenticated = true ∨ r.sigusr1 = true ∨ r.displayFailed = true

instance (r : Reasons) : Decidable r.Any := by
  unfold Reasons.Any
  infer_instance

variable {α β : Type} (backend : Backend β α)

/-- What a step of the locker adds. -/
def noteReasons (a : Action α) (s _ : System β) (r : Reasons) : Reasons :=
  match a with
  | .main .sigusr1 => { r with sigusr1 := true }
  | .main (.dispatched false) | .main (.flush false) => { r with displayFailed := true }
  | .child a =>
    { r with authenticated := r.authenticated || backend.authenticates a s.child s.main.toChild }
  | _ => r

/-- A backend writes a frame that unlocks only when it has found the password right. -/
def Backend.Honest : Prop :=
  ∀ a c p r, backend.act a c p = some r → backend.authenticates a c p = false → Quiet r.out

/-- While there is no reason to unlock: nothing in flight unlocks, and as long as the
child lives, nothing in flight is cut. -/
structure Shut (s : System β) : Prop where
  main : Locked s.main
  args : s.main.state.args.stealUnlock = false
  closed : ∀ f ∈ frames s.inFlight, ¬ Grants f
  ending : s.alive = true → framesEnding s.inFlight ≠ .truncated

theorem Shut.quiet {s : System β} (h : Shut s) (alive : s.alive = true) : Quiet s.inFlight :=
  ⟨h.closed, h.ending alive⟩

theorem locked_settle {m : MainSide} (h : Locked m) : Locked m.settle :=
  ⟨by rw [settle_state]; exact h.run, by rw [settle_sigusr]; exact h.sigusr,
    by rw [settle_phase]; exact h.phase, by rw [settle_phase]; exact h.locked⟩

/-- The frames of a cut stream are among those of the whole. -/
theorem frames_left {l m : List UInt8} (h : ∀ f ∈ frames (l ++ m), ¬ Grants f) :
    ∀ f ∈ frames l, ¬ Grants f := by
  intro f hf
  exact h f ((frameFraming.items_prefix_append m l).subset hf)

/-- A frame at the head of the pipe is the first one in flight. -/
theorem inFlight_head {s : System β} {f : Frame} {rest : List UInt8}
    (head : frameHead s.main.toMain.data = .item f rest) :
    frameHead s.inFlight = .item f (rest ++ s.out) := frameFraming.item_append s.out head

theorem shut_childEnds {s : System β} (h : Locked s.main)
    (hargs : s.main.state.args.stealUnlock = false) (hf : ∀ f ∈ frames s.inFlight, ¬ Grants f) :
    Shut s.childEnds := by
  refine ⟨⟨h.run, h.sigusr, h.phase, h.locked⟩, hargs, ?_, fun ha => by cases ha⟩
  have hd : s.childEnds.inFlight = s.main.toMain.data := List.append_nil _
  rw [hd]
  exact frames_left hf

/-- What the main process does to the bytes in flight. -/
theorem shut_main {a : MainAction} {s : System β} {m : MainSide} (hs : Shut s)
    (ha : a.unlocks = false) (h : MainMove false parse s.main a m) :
    Shut { s with main := m.settle } := by
  have hgrant : ∀ f rest, frameHead s.main.toMain.data = .item f rest → ¬ Grants f := by
    intro f rest head
    refine hs.closed f ?_
    rw [(frames_of_item (inFlight_head head)).1]
    exact List.mem_cons_self
  have hargs : m.state.args.stealUnlock = false := by
    rw [h.args]
    exact hs.args
  have hdata : (∀ f ∈ frames (m.toMain.data ++ s.out), ¬ Grants f) ∧
      (s.alive = true → framesEnding (m.toMain.data ++ s.out) ≠ .truncated) := by
    cases h with
    | frame _ _ head =>
      obtain ⟨hi, he⟩ := frames_of_item (inFlight_head head)
      refine ⟨fun f hf => hs.closed f ?_, fun halive => ?_⟩
      · rw [hi]
        exact List.mem_cons_of_mem _ hf
      · exact fun hc => hs.ending halive (he.trans hc)
    | _ => exact ⟨hs.closed, hs.ending⟩
  refine ⟨locked_settle (locked_move hs.main hs.args ha h hgrant), ?_, ?_, ?_⟩
  · dsimp only
    rw [settle_state]
    exact hargs
  · rw [System.inFlight, settle_toMain_data]
    exact hdata.1
  · rw [System.inFlight, settle_toMain_data]
    exact hdata.2

/-- A step of a child that has not authenticated. -/
theorem shut_child {s : System β} {r : Reaction β} (hs : Shut s)
    (alive : s.alive = true) (idle : s.out = [])
    (hout : Quiet r.out) :
    Shut { s with
      main := { s.main with toChild := r.toChild }, child := r.child, out := r.out } := by
  have hq := hs.quiet alive
  rw [System.inFlight, idle, List.append_nil] at hq
  obtain ⟨hf, he⟩ := hq.append hout
  exact ⟨⟨hs.main.run, hs.main.sigusr, hs.main.phase, hs.main.locked⟩, hs.args, hf, fun _ => he⟩

/-- Nothing keeps the session locked but the reasons. -/
def Guarded (x : System β × Reasons) : Prop :=
  x.1.main.state.args.stealUnlock = false ∧ (x.2.Any ∨ Shut x.1)

theorem any_noteReasons {a : Action α} {s t : System β} {r : Reasons} (h : r.Any) :
    (noteReasons backend a s t r).Any := by
  rw [noteReasons.eq_def]
  rcases h with h | h | h
  all_goals (split <;> simp [Reasons.Any, h])

theorem guarded_step {backend : Backend β α} (honest : backend.Honest) {a : Action α}
    {x y : System β × Reasons} (hx : Guarded x)
    (h : monitored (system false parse backend) (noteReasons backend) a x = some y) :
    Guarded y := by
  obtain ⟨s, r⟩ := x
  obtain ⟨t, r'⟩ := y
  obtain ⟨hstep, rfl : r' = noteReasons backend a s t r⟩ := monitored_eq_some.mp h
  obtain ⟨hargs, hx⟩ := hx
  have move := system_cases false parse backend hstep
  refine ⟨by rw [move.args]; exact hargs, ?_⟩
  rcases hx with hr | hs
  · exact Or.inl (any_noteReasons backend (t := t) hr)
  · cases move with
    | @main a m hm =>
      by_cases ha : a.unlocks = true
      · left
        cases a with
        | sigusr1 => exact Or.inr (Or.inl rfl)
        | dispatched ok =>
          cases ok with
          | true => cases ha
          | false => exact Or.inr (Or.inr rfl)
        | flush ok =>
          cases ok with
          | true => cases ha
          | false => exact Or.inr (Or.inr rfl)
        | _ => cases ha
      · exact Or.inr (shut_main hs (by simpa using ha) hm)
    | @child a u alive idle act stays =>
      cases hauth : backend.authenticates a s.child s.main.toChild with
      | true => exact Or.inl (Or.inl (by simp [noteReasons, hauth]))
      | false => exact Or.inr (shut_child hs alive idle (honest _ _ _ _ act hauth))
    | @childExits a u alive idle act exits =>
      cases hauth : backend.authenticates a s.child s.main.toChild with
      | true => exact Or.inl (Or.inl (by simp [noteReasons, hauth]))
      | false =>
        have hc := shut_child hs alive idle (honest _ _ _ _ act hauth)
        exact Or.inr (shut_childEnds hc.main hc.args hc.closed)
    | write alive busy reader =>
      right
      refine ⟨⟨hs.main.run, hs.main.sigusr, hs.main.phase, hs.main.locked⟩, hs.args, ?_, ?_⟩
      · rw [System.inFlight, inFlight_write]
        exact hs.closed
      · rw [System.inFlight, inFlight_write]
        exact hs.ending
    | sigpipe => exact Or.inr (shut_childEnds hs.main hs.args hs.closed)
    | crash => exact Or.inr (shut_childEnds hs.main hs.args hs.closed)

theorem guarded_start (child : β) {args : SwaylockArgs} (buffer : List UInt8)
    (hargs : args.stealUnlock = false) : Guarded (System.start child args buffer, {}) := by
  refine ⟨hargs, Or.inr ⟨⟨rfl, rfl, rfl, by simp [System.start]⟩, hargs, ?_, fun _ => ?_⟩⟩
  · exact quiet_nil.frames
  · exact quiet_nil.ending

/-- **An honest backend**: the main process unlocks only for a reason. -/
theorem unlocked_reason {backend : Backend β α} (honest : backend.Honest) {child : β}
    {args : SwaylockArgs} {buffer : List UInt8} (hargs : args.stealUnlock = false)
    {as : List (Action α)} {x : System β × Reasons}
    (h : run (monitored (system false parse backend) (noteReasons backend)) as
      (System.start child args buffer, {}) = some x)
    (unlocked : x.1.main.phase = .unlocked) : x.2.Any := by
  have hx : Guarded x := run_invariant (fun _ _ _ hg hy => guarded_step honest hg hy) h
    (guarded_start child buffer hargs)
  rcases hx.2 with hr | hs
  · exact hr
  · exact absurd unlocked hs.main.locked

/-! ## PAM and shadow -/

variable (print : Json → Option CString) (username : CString)
  (crypt : CString → CString → Option CString) (encpw : CString)

/-- **No unlock without authentication.**  Where the main process has unlocked,
`pam_authenticate` has returned `PAM_SUCCESS` (with the shadow backend, `crypt` has given
`encpw`), `SIGUSR1` has arrived or the display has failed; no other frame and no key clears
`run_display`. -/
theorem unlocked_authenticated (parse : CString → Option Json) (args : SwaylockArgs)
    (buffer : List UInt8) (hargs : args.stealUnlock = false) :
    (∀ as x, run (monitored (system false parse (pamBackend parse print username))
        (noteReasons (pamBackend parse print username))) as
          (System.start {} args buffer, {}) = some x → x.1.main.phase = .unlocked → x.2.Any) ∧
    (∀ as x, run (monitored (system false parse (shadowBackend crypt encpw))
        (noteReasons (shadowBackend crypt encpw))) as
          (System.start .reading args buffer, {}) = some x →
        x.1.main.phase = .unlocked → x.2.Any) ∧
    (∀ env s f, ¬ Grants f → (commInFrame parse env s f).runDisplay = s.runDisplay) ∧
    (∀ env s t p q keysym codepoint,
      swaylockHandleKey env s p keysym codepoint = .running t q → t.runDisplay = s.runDisplay) := by
  refine ⟨fun as x h hu => ?_, fun as x h hu => ?_, fun env s f hf => ?_, ?_⟩
  · exact unlocked_reason (fun _ _ _ _ => pam_honest parse print username) hargs h hu
  · exact unlocked_reason (fun _ _ _ _ => shadow_honest crypt encpw) hargs h hu
  · exact (commInFrame_step parse env s f).runs hf
  · exact fun env s t p q keysym codepoint h => (handleKey_step h).runs.2

/-- A run that unlocks: the first `pam_authenticate` returns `PAM_SUCCESS`, and the
frame arrives in the first iteration of the loop. -/
def unlockRun : List (Action PamAction) :=
  [.child (.start true), .child (.returns .PAM_SUCCESS), .write 7, .main (.lock true),
    .main (.flush true), .main (.poll false),
    .main (.reply { reads := List.replicate 3 (.short 7) }), .main .term, .main (.clock {}),
    .main (.timer {}), .main (.flush true)]

set_option maxRecDepth 10000 in
theorem unlocked_authenticated_success :
    ∃ x, run
        (monitored (system false (fun _ => none) (pamBackend (fun _ => none) (fun _ => none) []))
          (noteReasons (pamBackend (fun _ => none) (fun _ => none) []))) unlockRun
        (System.start {} {} (List.replicate 1024 0), {}) = some x ∧
      x.1.main.phase = .unlocked ∧ x.2.Any := by
  refine ⟨_, rfl, rfl, ?_⟩
  exact (unlocked_authenticated (fun _ => none) [] (fun _ _ => none) [] (fun _ => none) {}
    (List.replicate 1024 0) rfl).1 unlockRun _ rfl rfl

end SwaylockAuthd
