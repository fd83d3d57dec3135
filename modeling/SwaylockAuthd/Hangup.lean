import SwaylockAuthd.Attempts
import SwaylockAuthd.Rejection

/-!
# A child that exits behind its last frame

The child writes its frames and exits; `poll` reports `POLLIN` as long as bytes are left,
with or without `POLLHUP`, and each callback reads one frame.

* `Delivering`: the frames consumed and the frames in the pipe are those that have arrived.
* `canUnlock_pending`: with a granted frame in the pipe, the unlock can be reached.
* `no_result_lost`: `comm_in` exits on a hangup or at the end of the stream only behind the
  last frame.
-/

namespace SwaylockAuthd

open Transition

variable {α β : Type}

/-- The bytes that have arrived from the child, and the frames `comm_in` has processed. -/
structure Delivery where
  arrived : List UInt8 := []
  consumed : List Frame := []
  deriving DecidableEq, Repr

def noteDelivery (a : Action α) (s t : System β) (x : Delivery) : Delivery :=
  match a with
  | .write n =>
    if s.main.toMain.reader then { x with arrived := x.arrived ++ s.out.take (n + 1) } else x
  | .main _ => { x with consumed := x.consumed ++ (consumedFrame s t).toList }
  | _ => x

/-- What the child writes is a sequence of frames the reader accepts. -/
def WritesFrames (backend : Backend β α) : Action α → System β → Prop
  | .child a, s => ∀ r, backend.act a s.child s.main.toChild = some r →
      frameFraming.Carries (fun f => f.type ≠ 0) r.out
  | _, _ => True

/-- The process is on its way out of the loop, or has ended. -/
def Released (m : MainSide) : Prop :=
  match m.phase with
  | .term _ | .clock | .timers _ _ | .top => m.state.runDisplay = false
  | .exited | .killed | .unlocked => True
  | _ => False

/-- What has arrived has been consumed or is in the pipe; `cut` is what a child that has
ended did not write. -/
structure Delivering (y : System β × Delivery) : Prop where
  order : frameFraming.Reads y.2.arrived y.2.consumed y.1.main.toMain.data
  whole : ∃ cut, (y.1.alive = true → cut = y.1.out) ∧
    frameFraming.Carries (fun f => f.type ≠ 0) (y.1.main.toMain.data ++ cut)
  writer : y.1.main.toMain.writer = y.1.alive
  error : y.1.main.phase.mask.pollerr = false
  hangup : y.1.main.phase.mask.pollin = false → y.1.main.phase.mask.pollhup = true →
    y.1.main.toMain.data = [] ∧ y.1.alive = false
  granted : (∃ f ∈ y.2.consumed, Grants f) → Released y.1.main

variable {debugUnlock : Bool} {parse : CString → Option Json}

/-! ## The main process -/

/-- A process that has been released stays so. -/
theorem released_move {a : MainAction} {m n : MainSide} (hm : Released m)
    (h : MainMove debugUnlock parse m a n) : Released n := by
  have hn : ∀ {phase}, m.phase = phase →
      (match phase with
        | .term _ | .clock | .timers _ _ | .top => m.state.runDisplay = false
        | .exited | .killed | .unlocked => True
        | _ => False) := by
    rintro phase rfl
    exact hm
  cases h with
  | proceeds h =>
    cases h with
    | lock hp => exact (hn hp).elim
    | flush hp run => exact absurd ((hn hp).symm.trans run) (by decide)
    | poll hp => exact (hn hp).elim
    | interrupted hp => exact (hn hp).elim
    | quiet hp => exact (hn hp).elim
    | term hp | clock hp | timersDone hp => exact hn hp
  | ends h =>
    cases h with
    | pollFailed | displayExits | hangup | read => cases debugUnlock <;> trivial
    | refused | sigpipe | fatal | crash => trivial
  | steals => trivial
  | unlocks => trivial
  | key _ _ step =>
    rw [Released] at hm ⊢
    rw [step.runs.2]
    exact hm
  | modifiers _ keep =>
    rw [Released] at hm ⊢
    rw [keep.keep SwaylockState.runDisplay (by intros; rfl)]
    exact hm
  | dispatched hp => exact (hn hp).elim
  | displayFailed hp => exact (hn hp).elim
  | frame hp => exact (hn hp).elim
  | terminated => rfl
  | @timer now addr todo env hp => exact (visitTimer_runs env now addr m.state).2.trans (hn hp)
  | sigusr1 => exact hm

/-- What a step does to the reply pipe: nothing, or it takes the frame at its front. -/
inductive TakesReply (m n : MainSide) : Prop
  | same (eq : n.toMain = m.toMain)
      (mask : n.phase.mask = m.phase.mask ∨ n.phase.mask = {} ∨ n.phase.mask = m.toMain.revents)
  | frame {mask : Revents} {term : Bool} {f : Frame} {rest : List UInt8}
      (h : m.phase = .reply mask term) (head : frameHead m.toMain.data = .item f rest)
      (eq : n.toMain = { m.toMain with data := rest }) (phase : n.phase = .term term)
      (grants : Grants f → n.state.runDisplay = false)

theorem MainMove.takesReply {a : MainAction} {m n : MainSide}
    (h : MainMove debugUnlock parse m a n) : TakesReply m n := by
  cases h with
  | proceeds h =>
    refine .same rfl ?_
    cases h with
    | poll _ display => cases display <;> exact Or.inr (Or.inr rfl)
    | _ => exact Or.inr (Or.inl rfl)
  | ends h =>
    refine .same rfl (Or.inr (Or.inl ?_))
    cases h with
    | pollFailed | displayExits | hangup | read => cases debugUnlock <;> rfl
    | _ => rfl
  | dispatched hp => exact .same rfl (Or.inl (by rw [hp]; rfl))
  | displayFailed hp => exact .same rfl (Or.inl (by rw [hp]; rfl))
  | frame hp _ head _ _ step => exact .frame hp head rfl rfl step.grants
  | key | modifiers | sigusr1 => exact .same rfl (Or.inl rfl)
  | _ => exact .same rfl (Or.inr (Or.inl rfl))

theorem settle_toMain_writer (m : MainSide) : m.settle.toMain.writer = m.toMain.writer := by
  rw [MainSide.settle]
  split <;> rfl

theorem released_settle {m : MainSide} (h : Released m) : Released m.settle := by
  rw [Released] at h ⊢
  rw [settle_phase, settle_state]
  exact h

theorem delivering_main {a : MainAction} {s : System β} {m : MainSide} {x : Delivery}
    (hs : Delivering (s, x)) (h : MainMove debugUnlock parse s.main a m) :
    Delivering ({ s with main := m.settle },
      noteDelivery (.main a : Action α) s { s with main := m.settle } x) := by
  obtain ⟨cut, hcut, hwhole⟩ := hs.whole
  have hgranted : (∃ f ∈ x.consumed, Grants f) → Released m.settle := fun hg =>
    released_settle (released_move (hs.granted hg) h)
  cases h.takesReply with
  | same eq mask =>
    have hnone : consumedFrame s { s with main := m.settle } = none := by
      refine consumedFrame_none ?_
      rw [settle_toMain_data, eq]
    simp only [noteDelivery, hnone, Option.toList_none, List.append_nil]
    refine ⟨?_, ⟨cut, hcut, ?_⟩, ?_, ?_, ?_, hgranted⟩
    · dsimp only
      rw [settle_toMain_data, eq]
      exact hs.order
    · dsimp only
      rw [settle_toMain_data, eq]
      exact hwhole
    · dsimp only
      rw [settle_toMain_writer, eq]
      exact hs.writer
    · dsimp only
      rw [settle_phase]
      rcases mask with hm | hm | hm
      · rw [hm]
        exact hs.error
      · rw [hm]
      · rw [hm, Pipe.revents]
    · dsimp only
      rw [settle_phase, settle_toMain_data, eq]
      rcases mask with hm | hm | hm
      · rw [hm]
        exact hs.hangup
      · rw [hm]
        intro _ hh
        cases hh
      · rw [hm, Pipe.revents]
        intro hin hhup
        have hw : s.main.toMain.writer = false := by simpa using hhup
        exact ⟨by simpa using hin, hs.writer.symm.trans hw⟩
  | @frame mask term f rest hp head eq phase grants =>
    have hsome : consumedFrame s { s with main := m.settle } = some f := by
      refine consumedFrame_some head ?_
      rw [settle_toMain_data, eq]
    simp only [noteDelivery, hsome, Option.toList_some]
    refine ⟨?_, ⟨cut, hcut, ?_⟩, ?_, ?_, ?_, ?_⟩
    · dsimp only
      rw [settle_toMain_data, eq]
      exact hs.order.item head
    · dsimp only
      rw [settle_toMain_data, eq]
      exact (hwhole.tail (frameFraming.item_append cut head)).2
    · dsimp only
      rw [settle_toMain_writer, eq]
      exact hs.writer
    · dsimp only
      rw [settle_phase, phase]
      rfl
    · dsimp only
      rw [settle_phase, phase]
      intro _ hh
      cases hh
    · rintro ⟨g, hg, hgrant⟩
      rcases List.mem_append.mp hg with hg | hg
      · have hr := hs.granted ⟨g, hg, hgrant⟩
        rw [Released, hp] at hr
        exact hr.elim
      · obtain rfl := List.mem_singleton.mp hg
        dsimp only
        rw [Released, settle_phase, settle_state, phase]
        exact grants hgrant

/-! ## The child -/

theorem delivering_childEnds {s : System β} {x : Delivery} (hs : Delivering (s, x)) :
    Delivering (s.childEnds, x) := by
  obtain ⟨cut, -, hwhole⟩ := hs.whole
  refine ⟨hs.order, ⟨cut, fun h => (nomatch h), hwhole⟩, rfl, hs.error, fun hin hhup => ?_,
    hs.granted⟩
  exact ⟨(hs.hangup hin hhup).1, rfl⟩

theorem delivering_child {s : System β} {r : Reaction β} {x : Delivery} (hs : Delivering (s, x))
    (alive : s.alive = true) (idle : s.out = [])
    (hr : frameFraming.Carries (fun f => f.type ≠ 0) r.out) :
    Delivering ({ s with
      main := { s.main with toChild := r.toChild }, child := r.child, out := r.out }, x) := by
  obtain ⟨cut, hcut, hwhole⟩ := hs.whole
  obtain rfl : cut = [] := (hcut alive).trans idle
  rw [List.append_nil] at hwhole
  exact ⟨hs.order, ⟨r.out, fun _ => rfl, hwhole.append hr⟩, hs.writer, hs.error, hs.hangup,
    hs.granted⟩

theorem delivering_write {s : System β} {x : Delivery} (hs : Delivering (s, x))
    (alive : s.alive = true) (n : Nat) :
    Delivering ({ s with
      main := { s.main with
        toMain := { s.main.toMain with data := s.main.toMain.data ++ s.out.take (n + 1) } }
      out := s.out.drop (n + 1) }, { x with arrived := x.arrived ++ s.out.take (n + 1) }) := by
  obtain ⟨cut, hcut, hwhole⟩ := hs.whole
  obtain rfl := hcut alive
  refine ⟨hs.order.append _, ⟨s.out.drop (n + 1), fun _ => rfl, ?_⟩, hs.writer, hs.error, ?_,
    hs.granted⟩
  · dsimp only
    rw [inFlight_write]
    exact hwhole
  · intro hin hhup
    exact absurd ((hs.hangup hin hhup).2.symm.trans alive) (by decide)

/-- **Every step keeps it.** -/
theorem delivering_step {backend : Backend β α} {a : Action α} {y z : System β × Delivery}
    (hy : Delivering y) (hW : WritesFrames backend a y.1)
    (h : monitored (system debugUnlock parse backend) noteDelivery a y = some z) :
    Delivering z := by
  obtain ⟨s, x⟩ := y
  obtain ⟨t, x'⟩ := z
  obtain ⟨hstep, hx⟩ := monitored_eq_some.mp h
  change system debugUnlock parse backend a s = some t at hstep
  change x' = noteDelivery a s t x at hx
  subst hx
  cases system_cases debugUnlock parse backend hstep with
  | main hm => exact delivering_main hy hm
  | child alive idle act => exact delivering_child hy alive idle (hW _ act)
  | childExits alive idle act =>
    exact delivering_childEnds (delivering_child hy alive idle (hW _ act))
  | @write n alive busy reader =>
    have hnote : ∀ t, noteDelivery (.write n : Action α) s t x =
        { x with arrived := x.arrived ++ s.out.take (n + 1) } := by
      intro t
      simp only [noteDelivery, reader, if_true]
    rw [hnote]
    exact delivering_write hy alive n
  | sigpipe alive reader =>
    have hnote : ∀ n, noteDelivery (.write n : Action α) s s.childEnds x = x := by
      intro n
      simp only [noteDelivery, reader]
      rfl
    rw [hnote]
    exact delivering_childEnds hy
  | crash alive => exact delivering_childEnds hy

theorem delivering_start (child : β) (args : SwaylockArgs) (buffer : List UInt8) :
    Delivering (System.start child args buffer, {}) :=
  ⟨frameFraming.reads_nil, ⟨[], fun _ => rfl, frameFraming.carries_nil _⟩, rfl, rfl,
    fun _ hh => (nomatch hh), fun ⟨_, hf, _⟩ => (nomatch hf)⟩

/-! ## The way to the unlock -/

/-- From the top of the loop, with a granted frame in the pipe. -/
theorem canUnlock_top_pending : ∀ l : List UInt8, ∀ m : MainSide, m.toMain.data = l →
    m.phase = .top → (∀ f ∈ frames l, f.type ≠ 0) → (∃ f ∈ frames l, Grants f) →
    CanUnlock debugUnlock parse m := by
  intro l
  induction l using frameFraming.item_induction with
  | item l f rest head ih =>
    intro m hl hp htypes hgrant
    have hitems : frames l = f :: frames rest := frameFraming.items_of_item head
    rw [hitems] at htypes hgrant
    by_cases hrun : m.state.runDisplay = true
    · -- one iteration of the loop, which consumes `f`
      refine canUnlock_step (a := .flush true) (n := { m with phase := .polling }) ?_ ?_
      · rw [mainLoop, if_pos hp, hrun]
        rfl
      refine canUnlock_step (a := .poll false)
        (n := { m with phase := .reply m.toMain.revents m.sigusr }) rfl ?_
      have hin : m.toMain.revents.pollin = true := by
        have hne : m.toMain.data ≠ [] := by
          rw [hl]
          intro hnil
          rw [hnil] at head
          cases head
        simpa [Pipe.revents] using hne
      refine canUnlock_frame rfl hin rfl (by rw [hl]; exact head)
        (htypes f List.mem_cons_self) fun env => ?_
      by_cases hf : Grants f
      · exact unlocksAtTop_of_stopped ((commInFrame_step parse env m.state f).grants hf)
      · intro n hn htop _
        refine ih n (by rw [htop]) hn (fun g hg => htypes g (List.mem_cons_of_mem f hg)) ?_
        obtain ⟨g, hg, hgg⟩ := hgrant
        rcases List.mem_cons.mp hg with rfl | hg
        · exact absurd hgg hf
        · exact ⟨g, hg, hgg⟩
    · exact canUnlock_top hp (by simpa using hrun)
  | more l head =>
    intro m _ _ _ hgrant
    obtain ⟨g, hg, -⟩ := hgrant
    rw [show frames l = [] from frameFraming.items_of_more head] at hg
    cases hg
  | bad l head =>
    intro m _ _ _ hgrant
    obtain ⟨g, hg, -⟩ := hgrant
    rw [show frames l = [] from frameFraming.items_of_bad head] at hg
    cases hg

/-- A granted frame waits in the pipe, behind frames that are accepted. -/
structure Pending (l : List UInt8) : Prop where
  types : ∀ f ∈ frames l, f.type ≠ 0
  grants : ∃ f ∈ frames l, Grants f

theorem Pending.unlocksAtTop {m : MainSide} (h : Pending m.toMain.data) :
    UnlocksAtTop debugUnlock parse m := fun n hn htop _ =>
  canUnlock_top_pending _ n (by rw [htop]) hn h.types h.grants

theorem canUnlock_reply_pending {mask : Revents} {term : Bool} {m : MainSide}
    (hp : m.phase = .reply mask term) (herr : mask.pollerr = false)
    (hhup : mask.pollin = false → mask.pollhup = true → m.toMain.data = [])
    (h : Pending m.toMain.data) : CanUnlock debugUnlock parse m := by
  cases hin : mask.pollin with
  | true =>
    cases head : frameHead m.toMain.data with
    | item f rest =>
      have hitems : frames m.toMain.data = f :: frames rest := frameFraming.items_of_item head
      refine canUnlock_frame hp hin herr head
        (h.types f (by rw [hitems]; exact List.mem_cons_self)) fun env => ?_
      by_cases hf : Grants f
      · exact unlocksAtTop_of_stopped ((commInFrame_step parse env m.state f).grants hf)
      · refine Pending.unlocksAtTop ⟨fun g hg => ?_, ?_⟩
        · exact h.types g (by rw [hitems]; exact List.mem_cons_of_mem f hg)
        · obtain ⟨g, hg, hgg⟩ := h.grants
          rw [hitems] at hg
          rcases List.mem_cons.mp hg with rfl | hg
          · exact absurd hgg hf
          · exact ⟨g, hg, hgg⟩
    | more =>
      obtain ⟨g, hg, -⟩ := h.grants
      rw [show frames m.toMain.data = [] from frameFraming.items_of_more head] at hg
      cases hg
    | bad =>
      obtain ⟨g, hg, -⟩ := h.grants
      rw [show frames m.toMain.data = [] from frameFraming.items_of_bad head] at hg
      cases hg
  | false =>
    have hquiet : mask.pollhup = false := by
      by_contra hh
      obtain ⟨g, hg, -⟩ := h.grants
      rw [hhup hin (by simpa using hh)] at hg
      cases hg
    refine canUnlock_step (a := .reply {}) (n := { m with phase := .term term }) ?_
      (canUnlock_term rfl h.unlocksAtTop)
    rw [mainLoop, hp]
    simp [commIn, herr, hin, hquiet]

/-- **With a granted frame in the pipe, the unlock can be reached**, whatever `poll` has
reported and however many frames are in front of it. -/
theorem canUnlock_pending {m : MainSide} (hl : m.phase.live = true)
    (herr : m.phase.mask.pollerr = false)
    (hhup : m.phase.mask.pollin = false → m.phase.mask.pollhup = true → m.toMain.data = [])
    (h : Pending m.toMain.data) : CanUnlock debugUnlock parse m := by
  cases hp : m.phase with
  | start =>
    by_cases hsteal : m.state.args.stealUnlock = true
    · refine canUnlock_step (a := .lock true) (n := { m with phase := .unlocked }) ?_
        ⟨[], _, rfl, rfl⟩
      rw [mainLoop, if_pos hp, if_pos hsteal]
      rfl
    · refine canUnlock_step (a := .lock true) (n := { m with phase := .top }) ?_
        (canUnlock_top_pending _ _ rfl rfl h.types h.grants)
      rw [mainLoop, if_pos hp, if_neg hsteal]
      rfl
  | top => exact canUnlock_top_pending _ m rfl hp h.types h.grants
  | polling =>
    refine canUnlock_step (a := .poll false)
      (n := { m with phase := .reply m.toMain.revents m.sigusr }) ?_
      (canUnlock_reply_pending rfl rfl (fun hin _ => by simpa [Pipe.revents] using hin) h)
    rw [mainLoop, if_pos hp]
    rfl
  | display mask term =>
    rw [hp] at herr hhup
    refine canUnlock_step (a := .dispatched true) (n := { m with phase := .reply mask term }) ?_
      (canUnlock_reply_pending rfl herr hhup h)
    rw [mainLoop, hp]
    rfl
  | reply mask term =>
    rw [hp] at herr hhup
    exact canUnlock_reply_pending hp herr hhup h
  | term term => exact canUnlock_term hp h.unlocksAtTop
  | clock => exact canUnlock_clock hp h.unlocksAtTop
  | timers now todo => exact canUnlock_timers hp h.unlocksAtTop
  | exited | killed | unlocked => rw [hp] at hl; cases hl

theorem Released.stopped {m : MainSide} (h : Released m) (hl : m.phase.live = true) :
    m.state.runDisplay = false := by
  rw [Released] at h
  split at h
  · exact h
  · exact h
  · exact h
  · exact h
  · rename_i hp
    rw [hp] at hl
    cases hl
  · rename_i hp
    rw [hp] at hl
    cases hl
  · rename_i hp
    rw [hp] at hl
    cases hl
  · exact h.elim

/-- A process that has been released can unlock. -/
theorem Released.canUnlock {m : MainSide} (h : Released m) (hl : m.phase.live = true) :
    CanUnlock debugUnlock parse m := by
  rw [Released] at h
  split at h
  · rename_i term hp
    exact canUnlock_term hp (unlocksAtTop_of_stopped h)
  · rename_i hp
    exact canUnlock_clock hp (unlocksAtTop_of_stopped h)
  · rename_i now todo hp
    exact canUnlock_timers hp (unlocksAtTop_of_stopped h)
  · rename_i hp
    exact canUnlock_top hp h
  · rename_i hp
    rw [hp] at hl
    cases hl
  · rename_i hp
    rw [hp] at hl
    cases hl
  · rename_i hp
    exact ⟨[], m, rfl, hp⟩
  · exact h.elim

/-! ## The law -/

/-- `comm_in` exits without a failure of `read` or of an allocation. -/
def ExitsOnEnd (debugUnlock : Bool) (parse : CString → Option Json) (m : MainSide) : Prop :=
  ∃ env n, .error ∉ env.reads ∧ env.payload = true ∧
    mainLoop debugUnlock parse (.reply env) m = some n ∧ n.phase = .onExit debugUnlock

/-- An exit of `comm_in` comes behind the last frame. -/
theorem Delivering.exits {y : System β × Delivery} (h : Delivering y)
    (hx : ExitsOnEnd debugUnlock parse y.1.main) :
    frames y.1.main.toMain.data = [] ∧ y.1.alive = false ∧ ∀ f ∈ y.2.consumed, ¬ Grants f := by
  obtain ⟨cut, -, hwhole⟩ := h.whole
  obtain ⟨env, n, hreads, hmem, hstep, hn⟩ := hx
  have hne : ∀ term, MainPhase.onExit debugUnlock ≠ .term term := by
    intro term
    cases debugUnlock <;> simp [MainPhase.onExit]
  have hgrants : ∀ {mask term}, y.1.main.phase = .reply mask term →
      ∀ f ∈ y.2.consumed, ¬ Grants f := by
    intro mask term hp f hf hg
    have hr := h.granted ⟨f, hf, hg⟩
    rw [Released, hp] at hr
    exact hr
  generalize ha : MainAction.reply env = a at hstep
  cases mainLoop_cases debugUnlock parse hstep with
  | proceeds hpro =>
    cases hpro with
    | quiet => exact absurd hn.symm (hne _)
    | _ => cases ha
  | ends hends =>
    cases hends with
    | hangup hp error =>
      have herr := h.error
      have hhup := h.hangup
      rw [hp] at herr hhup
      rcases error with he | ⟨hin, hh⟩
      · exact absurd (he.symm.trans herr) (by decide)
      · obtain ⟨hdata, hdead⟩ := hhup hin hh
        exact ⟨by rw [hdata]; rfl, hdead, hgrants hp⟩
    | read hp why =>
      cases ha
      cases why with
      | typeZero head zero =>
        exact absurd zero (hwhole.tail (frameFraming.item_append cut head)).1
      | tooLarge head => exact absurd head hwhole.head_ne_bad
      | ended head closed =>
        exact ⟨frameFraming.items_of_more head, h.writer.symm.trans closed, hgrants hp⟩
      | failed why =>
        rcases why with he | he
        · exact absurd he hreads
        · exact absurd (he.symm.trans hmem) (by decide)
    | _ => cases ha
  | frame => exact absurd hn.symm (hne _)
  | _ => cases ha

/-- The child grants and exits, and `poll` then reports the frame and the hangup together. -/
def exitRun : List (Action PamAction) :=
  [.main (.lock true), .main (.flush true), .child (.start true), .child (.returns .PAM_SUCCESS),
    .write 7, .child .finish, .main (.poll false)]

end SwaylockAuthd
