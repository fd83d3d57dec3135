import SwaylockAuthd.Unlock

/-!
# Keys after the child has ended

The loop dispatches the display before the replies of the child, so a key can be handled
while the last frame of a child that has exited is still in the pipe.  A write to the
child then raises `SIGPIPE`, which `main` neither ignores nor handles.

* `handleKey_killed_iff`: the keys that do not survive it.
* `survives_iff`: a run is never killed, and a granted frame that `poll` has reported
  always leads to the unlock, exactly when no such key is handled.
* `unlocks_of_unlocking`: the steps left until then.
* `not_survives_granted`: Return while the granted frame is in the pipe.
-/

namespace SwaylockAuthd

open Transition

/-! ## The keys that write -/

/-- The key makes the handler write to the child. -/
def KeyWrites (env : Env) (s : SwaylockState) (keysym : Keysym) : Prop :=
  authdMessage s keysym ≠ none ∨
    (¬ Intercepts s keysym ∧ keysym.action s.xkb.control = .submit ∧ ¬ SubmitSkipped s ∧
      env.secret = true)

instance (env : Env) (s : SwaylockState) (keysym : Keysym) :
    Decidable (KeyWrites env s keysym) := by
  unfold KeyWrites
  infer_instance

/-- A key the first block lets through sends no message of the selection stages. -/
theorem authdMessage_of_pass {s : SwaylockState} {keysym : Keysym} (h : ¬ Intercepts s keysym) :
    authdMessage s keysym = none := by
  have hsel : ∀ b, Selecting s → selectionMessage b s keysym = none := by
    intro b hs
    have hk : keysym ∉ [Keysym.Up, .Down, .Return, .KP_Enter, .Escape] :=
      fun hk => h (Or.inl ⟨hs, hk⟩)
    cases keysym with
    | Return => exact absurd (by decide) hk
    | KP_Enter => exact absurd (by decide) hk
    | Escape => exact absurd (by decide) hk
    | _ => rfl
  rw [authdMessage]
  split
  · rename_i active
    split
    · rename_i hst
      exact hsel true ⟨active, Or.inl hst⟩
    · rename_i hst
      exact hsel false ⟨active, Or.inr hst⟩
    · rename_i hst
      rw [if_neg]
      exact fun hb => h (Or.inr ⟨active, hst, hb.1, hb.2⟩)
    · rfl
  · rfl

/-- A write to nobody. -/
theorem sendKey_closed {p : Pipe} (hp : p.reader = false) (env : Env) (s : SwaylockState)
    (type : UInt8) (payload : Option (List UInt8)) (len : Nat) :
    sendKey env s p type payload len = .killed := by
  rw [sendKey]
  rcases commMainWrite_cases env p type payload len with ⟨-, h⟩ | ⟨ho, -⟩ | ⟨ho, -⟩
  · rw [h]
  · rw [hp] at ho; cases ho
  · rw [hp] at ho; cases ho

theorem sendKey_open {p : Pipe} (hp : p.reader = true) (env : Env) (s : SwaylockState)
    (type : UInt8) (payload : Option (List UInt8)) (len : Nat) :
    sendKey env s p type payload len ≠ .killed := by
  rw [sendKey]
  rcases commMainWrite_cases env p type payload len with ⟨ho, -⟩ | ⟨-, h⟩ | ⟨-, h⟩
  · rw [hp] at ho; cases ho
  · rw [h]; exact fun hc => by cases hc
  · rw [h]; exact fun hc => by cases hc

/-- A submission writes unless it is skipped or has no memory. -/
theorem submitPassword_killed_iff (env : Env) (s : SwaylockState) (p : Pipe) :
    submitPassword env s p = .killed ↔
      p.reader = false ∧ ¬ SubmitSkipped s ∧ env.secret = true := by
  rcases submitPassword_cases env s p with ⟨hs, e⟩ | ⟨hs, hm, e⟩ | ⟨hs, hm, hr, e⟩ |
    ⟨hs, hm, hr, e⟩ | ⟨hs, hm, hr, e⟩
  · rw [e]
    simp [hs]
  · rw [e]
    simp [hm]
  · rw [e]
    simp [hs, hm, hr]
  · rw [e]
    simp [hr]
  · rw [e]
    simp [hr]

/-- **The keys that do not survive a dead child** are those that write. -/
theorem handleKey_killed_iff (env : Env) (s : SwaylockState) (p : Pipe) (keysym : Keysym)
    (codepoint : UInt32) :
    swaylockHandleKey env s p keysym codepoint = .killed ↔
      p.reader = false ∧ KeyWrites env s keysym := by
  have hi := authdHandleKey_eq_none env s p keysym
  rw [swaylockHandleKey]
  cases ha : authdHandleKey env s p keysym with
  | some r =>
    have hint : Intercepts s keysym := intercepts_of_some ha
    have hk : HandlesKey env s p keysym codepoint r := authdHandleKey_handles ha
    have hw : KeyWrites env s keysym ↔ authdMessage s keysym ≠ none :=
      ⟨fun h => h.resolve_right fun h => h.1 hint, Or.inl⟩
    rw [hw]
    cases hk with
    | moves _ _ silent => simp [silent]
    | @sends t m _ _ sent =>
      rw [sent]
      by_cases hp : p.reader = true
      · simp [hp, sendKey_open hp]
      · rw [Bool.not_eq_true] at hp
        simp [hp, sendKey_closed hp]
    | submits pass => rw [ha] at pass; cases pass
    | edits pass => rw [ha] at pass; cases pass
  | none =>
    have hpass : ¬ Intercepts s keysym := hi.mp ha
    have hw : KeyWrites env s keysym ↔
        keysym.action s.xkb.control = .submit ∧ ¬ SubmitSkipped s ∧ env.secret = true :=
      ⟨fun h => (h.resolve_left fun h => h (authdMessage_of_pass hpass)).2,
        fun h => Or.inr ⟨hpass, h⟩⟩
    rw [hw]
    dsimp only
    rw [passwordHandleKey_eq]
    by_cases hsub : keysym.action s.xkb.control = .submit
    · rw [if_pos hsub, submitPassword_killed_iff]
      simp [hsub]
    · rw [if_neg hsub]
      simp [hsub]

/-! ## Runs -/

variable {α β : Type}

/-- No key that writes is handled once nobody reads the pipe. -/
def Survivable : Action α → System β → Prop
  | .main (.key env keysym _), s =>
    s.main.phase.handlesKeys = true → s.main.toChild.reader = false →
      ¬ KeyWrites env s.main.state keysym
  | _, _ => True

/-- The system does its part: no fatal signal arrives, the display does not call
`exit`, and what reads the reply pipe does not fail. -/
def Undisturbed : Action α → System β → Prop
  | .main (.fatal _), _ | .main .displayExits, _ => False
  | .main (.reply env), _ => .error ∉ env.reads ∧ env.payload = true
  | _, _ => True

/-- A granted frame has been reported by `poll`, or has been consumed. -/
def Unlocking (m : MainSide) : Prop :=
  match m.phase with
  | .display mask _ | .reply mask _ =>
    mask.pollin = true ∧ mask.pollerr = false ∧
      ∃ f rest, frameHead m.toMain.data = .item f rest ∧ Grants f
  | .term _ | .clock | .timers _ _ | .top => m.state.runDisplay = false
  | .unlocked => True
  | _ => False

theorem Unlocking.phase {m : MainSide} (h : Unlocking m) :
    m.phase ≠ .killed ∧ m.phase ≠ .exited ∧ m.phase ≠ .start ∧ m.phase ≠ .polling := by
  rw [Unlocking] at h
  refine ⟨?_, ?_, ?_, ?_⟩ <;>
    · intro hp
      rw [hp] at h
      exact h

variable {debugUnlock : Bool} {parse : CString → Option Json}

/-- A granted frame clears `run_display`. -/
theorem FrameStep.grants {env : Env} {s t : SwaylockState} {f : Frame} (h : FrameStep env s f t)
    (hf : Grants f) : t.runDisplay = false := by
  cases h with
  | granted => rfl
  | denied _ hn => exact absurd hf hn
  | retried hr => exact absurd (hf.1.symm.trans hr.1) (by decide)
  | settled ht =>
    rcases ht with ht | ht
    · exact absurd (hf.1.symm.trans ht) (by decide)
    · exact absurd (hf.1.symm.trans ht) (by decide)
  | informed ht => exact absurd hf.1 ht

theorem unlocking_congr {m n : MainSide} (hp : n.phase = m.phase)
    (hd : n.toMain.data = m.toMain.data) (hr : n.state.runDisplay = m.state.runDisplay)
    (h : Unlocking m) : Unlocking n := by
  rw [Unlocking] at h ⊢
  rw [hp, hd, hr]
  exact h

/-- What the main process does on the way to the unlock. -/
theorem unlocking_move {a : MainAction} {m n : MainSide} (hm : Unlocking m)
    (hU : ∀ sig, a ≠ .fatal sig) (hD : a ≠ .displayExits)
    (hR : ∀ env, a = .reply env → .error ∉ env.reads ∧ env.payload = true)
    (hC : ∀ env keysym codepoint, a = .key env keysym codepoint → m.phase.handlesKeys = true →
      swaylockHandleKey env m.state m.toChild keysym codepoint ≠ .killed)
    (h : MainMove debugUnlock parse m a n) : Unlocking n := by
  obtain ⟨-, -, hstart, hpolling⟩ := hm.phase
  have hrun : ∀ {mask term}, m.phase = .reply mask term → mask.pollin = true ∧
      mask.pollerr = false ∧ ∃ f rest, frameHead m.toMain.data = .item f rest ∧ Grants f := by
    intro mask term hp
    rw [Unlocking, hp] at hm
    exact hm
  cases h with
  | proceeds h =>
    cases h with
    | lock hp => exact absurd hp hstart
    | flush hp run =>
      rw [Unlocking, hp] at hm
      exact absurd (hm.symm.trans run) (by decide)
    | poll hp => exact absurd hp hpolling
    | interrupted hp => exact absurd hp hpolling
    | quiet hp => exact absurd (hrun hp).1 (by decide)
    | term hp =>
      rw [Unlocking, hp] at hm
      exact hm
    | clock hp =>
      rw [Unlocking, hp] at hm
      exact hm
    | timersDone hp =>
      rw [Unlocking, hp] at hm
      exact hm
  | ends h =>
    cases h with
    | refused hp => exact absurd hp hstart
    | pollFailed hp => exact absurd hp hpolling
    | displayExits => exact absurd rfl hD
    | hangup hp error =>
      obtain ⟨hin, herr, -⟩ := hrun hp
      rcases error with he | ⟨hi, -⟩
      · rw [herr] at he; cases he
      · rw [hin] at hi; cases hi
    | @read mask term env hp why =>
      obtain ⟨-, -, f, rest, head, hf⟩ := hrun hp
      obtain ⟨hreads, hpay⟩ := hR env rfl
      cases why with
      | typeZero head' zero =>
        rw [head] at head'
        cases head'
        rw [hf.1] at zero
        exact absurd zero (by decide)
      | tooLarge head' => rw [head] at head'; cases head'
      | ended head' => rw [head] at head'; cases head'
      | failed why =>
        rcases why with he | he
        · exact absurd he hreads
        · rw [hpay] at he; cases he
    | sigpipe hk killed => exact absurd killed (hC _ _ _ rfl hk)
    | fatal => exact absurd rfl (hU _)
    | crash => exact absurd rfl (hU _)
  | steals => trivial
  | unlocks => trivial
  | key _ _ step => exact unlocking_congr (m := m) rfl rfl step.runs.2 hm
  | modifiers _ h =>
    exact unlocking_congr (m := m) rfl rfl (h.keep SwaylockState.runDisplay (by intros; rfl)) hm
  | dispatched hp =>
    rw [Unlocking, hp] at hm
    exact hm
  | displayFailed hp =>
    rw [Unlocking, hp] at hm
    exact hm
  | frame hp _ head _ _ step =>
    obtain ⟨-, -, f, rest, head', hf⟩ := hrun hp
    rw [head] at head'
    cases head'
    exact step.grants hf
  | terminated => rfl
  | @timer now addr todo env hp =>
    rw [Unlocking, hp] at hm
    exact (visitTimer_runs env now addr m.state).2.trans hm
  | sigusr1 => exact hm

theorem unlocking_settle {m : MainSide} (h : Unlocking m) : Unlocking m.settle :=
  unlocking_congr (settle_phase m) (settle_toMain_data m) (by rw [settle_state]) h

/-- More bytes do not change what is at the head of the pipe. -/
theorem unlocking_append {m : MainSide} (l : List UInt8) (h : Unlocking m) :
    Unlocking { m with toMain := { m.toMain with data := m.toMain.data ++ l } } := by
  rw [Unlocking] at h ⊢
  dsimp only
  have grow : (∃ f rest, frameHead m.toMain.data = .item f rest ∧ Grants f) →
      ∃ f rest, frameHead (m.toMain.data ++ l) = .item f rest ∧ Grants f := by
    rintro ⟨f, rest, head, hf⟩
    exact ⟨f, rest ++ l, frameFraming.item_append l head, hf⟩
  split at h
  · exact ⟨h.1, h.2.1, grow h.2.2⟩
  · exact ⟨h.1, h.2.1, grow h.2.2⟩
  all_goals exact h

/-- What the composition does on the way to the unlock. -/
theorem unlocking_step {backend : Backend β α} {a : Action α} {s t : System β}
    (hs : Unlocking s.main) (hU : Undisturbed a s) (hC : Survivable a s)
    (h : system debugUnlock parse backend a s = some t) : Unlocking t.main := by
  cases system_cases debugUnlock parse backend h with
  | @main a m hm =>
    refine unlocking_settle (unlocking_move hs ?_ ?_ ?_ ?_ hm)
    · rintro sig rfl
      exact hU
    · rintro rfl
      exact hU
    · rintro env rfl
      exact hU
    · rintro env keysym codepoint rfl hk killed
      obtain ⟨hp, hw⟩ := (handleKey_killed_iff _ _ _ _ _).mp killed
      exact hC hk hp hw
  | child => exact unlocking_congr rfl rfl rfl hs
  | childExits => exact unlocking_congr rfl rfl rfl hs
  | write => exact unlocking_append _ hs
  | sigpipe => exact unlocking_congr rfl rfl rfl hs
  | crash => exact unlocking_congr rfl rfl rfl hs

/-- A key that writes to nobody ends the main process. -/
theorem killed_of_not_survivable (debugUnlock : Bool) (parse : CString → Option Json)
    (backend : Backend β α) {a : Action α} {s : System β} (hC : ¬ Survivable a s) :
    ∃ t, system debugUnlock parse backend a s = some t ∧ t.main.phase = .killed := by
  cases a with
  | main a =>
    cases a with
    | key env keysym codepoint =>
      obtain ⟨hk, hC⟩ := Classical.not_imp.mp hC
      obtain ⟨hp, hw⟩ := Classical.not_imp.mp hC
      have killed := (handleKey_killed_iff env s.main.state s.main.toChild keysym codepoint).mpr
        ⟨hp, not_not.mp hw⟩
      refine ⟨{ s with main := ({ s.main with phase := .killed } : MainSide).settle }, ?_, ?_⟩
      · rw [system, mainLoop, if_pos hk, killed]
        rfl
      · exact settle_phase _
    | _ => exact absurd trivial hC
  | _ => exact absurd trivial hC

/-- The main process is killed by such a key only. -/
theorem notKilled_step {backend : Backend β α} {a : Action α} {s t : System β}
    (hs : s.main.phase ≠ .killed) (hU : Undisturbed a s) (hC : Survivable a s)
    (h : system debugUnlock parse backend a s = some t) : t.main.phase ≠ .killed := by
  cases system_cases debugUnlock parse backend h with
  | @main a m hm =>
    dsimp only
    rw [settle_phase]
    rcases hm.goesOn with ⟨phase, he, rfl⟩ | hl | hu
    · cases he with
      | sigpipe hk killed =>
        obtain ⟨hp, hw⟩ := (handleKey_killed_iff _ _ _ _ _).mp killed
        exact absurd hw (hC hk hp)
      | fatal => exact absurd hU id
      | crash => exact absurd hU id
      | refused => exact fun hk => by cases hk
      | _ => exact onExit_ne_killed debugUnlock
    · exact fun hk => absurd hl (by rw [hk]; decide)
    · rw [hu]
      decide
  | child => exact hs
  | childExits => exact hs
  | write => exact hs
  | sigpipe => exact hs
  | crash => exact hs

/-- **Surviving a dead child, exactly.**  Along a run without other disturbances, the main
process is never killed if and only if no key that writes is handled once nobody reads
the pipe; and from the moment `poll` has reported a granted frame, nothing but the unlock
follows if and only if no such key is handled. -/
theorem survives_iff (debugUnlock : Bool) (parse : CString → Option Json) (backend : Backend β α)
    (as : List (Action α)) (s : System β)
    (hU : Along (system debugUnlock parse backend) Undisturbed as s) :
    (s.main.phase ≠ .killed →
      (Throughout (system debugUnlock parse backend) (fun s => s.main.phase ≠ .killed) as s ↔
        Along (system debugUnlock parse backend) Survivable as s)) ∧
    (Unlocking s.main →
      (Throughout (system debugUnlock parse backend) (fun s => Unlocking s.main) as s ↔
        Along (system debugUnlock parse backend) Survivable as s)) := by
  refine ⟨fun hs => ?_, fun hs => ?_⟩
  · refine throughout_iff_along (I := fun s => s.main.phase ≠ .killed) ?_ (fun _ h => h) ?_ hs hU
    · exact fun a s t hI hU hC h => notKilled_step hI hU hC h
    · intro a s _ _ hC
      obtain ⟨t, ht, hk⟩ := killed_of_not_survivable debugUnlock parse backend hC
      exact ⟨t, ht, fun hn => hn hk⟩
  · refine throughout_iff_along (I := fun s => Unlocking s.main) ?_ (fun _ h => h) ?_ hs hU
    · exact fun a s t hI hU hC h => unlocking_step hI hU hC h
    · intro a s _ _ hC
      obtain ⟨t, ht, hk⟩ := killed_of_not_survivable debugUnlock parse backend hC
      exact ⟨t, ht, fun hn => hn.phase.1 hk⟩

/-! ## The way to the unlock -/

/-- The main process can unlock by steps of its own. -/
def CanUnlock (debugUnlock : Bool) (parse : CString → Option Json) (m : MainSide) : Prop :=
  ∃ as n, run (mainLoop debugUnlock parse) as m = some n ∧ n.phase = .unlocked

theorem canUnlock_step {a : MainAction} {m n : MainSide}
    (h : mainLoop debugUnlock parse a m = some n) (hn : CanUnlock debugUnlock parse n) :
    CanUnlock debugUnlock parse m := by
  obtain ⟨as, o, hrun, ho⟩ := hn
  exact ⟨a :: as, o, run_cons.mpr ⟨n, h, hrun⟩, ho⟩

theorem canUnlock_top {m : MainSide} (hp : m.phase = .top) (hr : m.state.runDisplay = false) :
    CanUnlock debugUnlock parse m := by
  refine canUnlock_step (a := .flush true) (n := { m with phase := .unlocked }) ?_ ⟨[], _, rfl, rfl⟩
  rw [mainLoop, if_pos hp, hr]
  rfl

/-- From every top of the loop that can come next, the process can unlock. -/
def UnlocksAtTop (debugUnlock : Bool) (parse : CString → Option Json) (m : MainSide) : Prop :=
  ∀ n : MainSide, n.phase = .top → n.toMain = m.toMain →
    (m.state.runDisplay = false → n.state.runDisplay = false) → CanUnlock debugUnlock parse n

theorem unlocksAtTop_of_stopped {m : MainSide} (hr : m.state.runDisplay = false) :
    UnlocksAtTop debugUnlock parse m := fun _ hp _ h => canUnlock_top hp (h hr)

/-- The timers that are left. -/
theorem canUnlock_timers {now : Timespec} : ∀ {todo : List Nat} {m : MainSide},
    m.phase = .timers now todo → UnlocksAtTop debugUnlock parse m →
      CanUnlock debugUnlock parse m := by
  intro todo
  induction todo with
  | nil =>
    intro m hp h
    refine canUnlock_step (a := .timer {}) (n := { m with phase := .top }) ?_ (h _ rfl rfl id)
    rw [mainLoop, hp]
  | cons addr todo ih =>
    intro m hp h
    refine canUnlock_step (a := .timer {})
      (n := { m with state := visitTimer {} now addr m.state, phase := .timers now todo }) ?_
      (ih rfl fun n hn htop hrun => h n hn htop fun hr => hrun ?_)
    · rw [mainLoop, hp]
    · exact (visitTimer_runs {} now addr m.state).2.trans hr

theorem canUnlock_clock {m : MainSide} (hp : m.phase = .clock)
    (h : UnlocksAtTop debugUnlock parse m) : CanUnlock debugUnlock parse m := by
  refine canUnlock_step (a := .clock {}) (n := { m with
    phase := .timers {} (m.state.eventloop.timers.map LoopTimer.addr) }) ?_ (canUnlock_timers rfl h)
  rw [mainLoop, if_pos hp]

theorem canUnlock_term {term : Bool} {m : MainSide} (hp : m.phase = .term term)
    (h : UnlocksAtTop debugUnlock parse m) : CanUnlock debugUnlock parse m := by
  cases term with
  | true =>
    refine canUnlock_step (a := .term)
      (n := { m with state := { m.state with runDisplay := false }, phase := .clock }) ?_
      (canUnlock_clock rfl (unlocksAtTop_of_stopped rfl))
    rw [mainLoop, hp]
    rfl
  | false =>
    refine canUnlock_step (a := .term) (n := { m with phase := .clock }) ?_ (canUnlock_clock rfl h)
    rw [mainLoop, hp]
    rfl

/-- A frame that `poll` has reported is read, given enough calls. -/
theorem commIn_returns (parse : CString → Option Json) {mask : Revents} {p : Pipe} {f : Frame}
    {rest : List UInt8} (hin : mask.pollin = true) (herr : mask.pollerr = false)
    (head : frameHead p.data = .item f rest) (htype : f.type ≠ 0) (s : SwaylockState) :
    ∃ env, commIn parse env mask s p =
      .running (commInFrame parse env s f) { p with data := rest } := by
  obtain ⟨env, henv⟩ : ∃ env : Env,
      env = { reads := List.replicate (p.data.length + 1) (.short 0) } := ⟨_, rfl⟩
  have hmoves : p.data.length < readMoves env.reads := by
    rw [henv]
    simp [readMoves, ReadCall.moves, List.countP_replicate]
  obtain ⟨r, hr, -⟩ := commRead_returns env.payload hmoves
    (Or.inr (by rw [head]; exact fun hc => by cases hc))
  rcases commIn_cases parse env s p hin herr with ⟨-, hb⟩ | ⟨-, why⟩ | ⟨g, rest', head', -, he⟩
  · rw [hr] at hb
    cases hb
  · exfalso
    cases why with
    | typeZero head' zero =>
      rw [head] at head'
      cases head'
      exact htype zero
    | tooLarge head' => rw [head] at head'; cases head'
    | ended head' => rw [head] at head'; cases head'
    | failed why =>
      rw [henv] at why
      simp at why
  · rw [head] at head'
    cases head'
    exact ⟨env, he⟩

/-- The frame at the front is consumed, and the loop goes on. -/
theorem canUnlock_frame {mask : Revents} {term : Bool} {m : MainSide}
    (hp : m.phase = .reply mask term) (hin : mask.pollin = true) (herr : mask.pollerr = false)
    {f : Frame} {rest : List UInt8} (head : frameHead m.toMain.data = .item f rest)
    (htype : f.type ≠ 0)
    (h : ∀ env, UnlocksAtTop debugUnlock parse { m with
      state := commInFrame parse env m.state f, toMain := { m.toMain with data := rest } }) :
    CanUnlock debugUnlock parse m := by
  obtain ⟨env, he⟩ := commIn_returns parse hin herr head htype m.state
  refine canUnlock_step (a := .reply env) (n := { m with
    state := commInFrame parse env m.state f, toMain := { m.toMain with data := rest }
    phase := .term term }) ?_ (canUnlock_term rfl (h env))
  rw [mainLoop, hp]
  dsimp only
  rw [he]

/-- The reply that grants. -/
theorem canUnlock_reply {mask : Revents} {term : Bool} {m : MainSide}
    (hp : m.phase = .reply mask term) (hin : mask.pollin = true) (herr : mask.pollerr = false)
    {f : Frame} {rest : List UInt8} (head : frameHead m.toMain.data = .item f rest)
    (hf : Grants f) : CanUnlock debugUnlock parse m := by
  have htype : f.type ≠ 0 := by
    rw [hf.1]
    decide
  exact canUnlock_frame hp hin herr head htype fun env =>
    unlocksAtTop_of_stopped ((commInFrame_step parse env m.state f).grants hf)

/-- **The unlock is reached** from every state on the way to it. -/
theorem unlocks_of_unlocking {m : MainSide} (h : Unlocking m) : CanUnlock debugUnlock parse m := by
  rw [Unlocking] at h
  split at h
  · rename_i mask term hp
    obtain ⟨hin, herr, f, rest, head, hf⟩ := h
    refine canUnlock_step (a := .dispatched true) (n := { m with phase := .reply mask term }) ?_
      (canUnlock_reply rfl hin herr head hf)
    rw [mainLoop, hp]
    rfl
  · rename_i mask term hp
    obtain ⟨hin, herr, f, rest, head, hf⟩ := h
    exact canUnlock_reply hp hin herr head hf
  · rename_i term hp
    exact canUnlock_term hp (unlocksAtTop_of_stopped h)
  · rename_i hp
    exact canUnlock_clock hp (unlocksAtTop_of_stopped h)
  · rename_i now todo hp
    exact canUnlock_timers hp (unlocksAtTop_of_stopped h)
  · rename_i hp
    exact canUnlock_top hp h
  · rename_i hp
    exact ⟨[], m, rfl, hp⟩
  · exact h.elim

/-! ## Return after the granted frame -/

/-- The child grants and exits; `poll` then reports the display and the frame, and a
key is handled first. -/
def lateKeyRun (keysym : Keysym) (codepoint : UInt32) : List (Action PamAction) :=
  [.main (.lock true), .main (.flush true), .child (.start true), .child (.returns .PAM_SUCCESS),
    .write 7, .child .finish, .main (.poll true), .main (.key {} keysym codepoint)]

theorem undisturbed_lateKeyRun (keysym : Keysym) (codepoint : UInt32) (s : System PamChild)
    (parse : CString → Option Json) (backend : Backend PamChild PamAction) :
    Along (system debugUnlock parse backend) Undisturbed (lateKeyRun keysym codepoint) s := by
  refine along_of_mem (fun a ha s => ?_) s
  simp only [lateKeyRun, List.mem_cons, List.not_mem_nil, or_false] at ha
  rcases ha with rfl | rfl | rfl | rfl | rfl | rfl | rfl | rfl <;> trivial

set_option maxRecDepth 10000 in
/-- **Return kills the main process** while the frame that unlocks is in the pipe. -/
theorem not_survives_granted :
    ¬ Throughout (system false (fun _ => none) (pamBackend (fun _ => none) (fun _ => none) []))
        (fun s => s.main.phase ≠ .killed) (lateKeyRun .Return 0x0D)
        (System.start {} {} (List.replicate 1024 0)) ∧
      ∃ s, run (system false (fun _ => none) (pamBackend (fun _ => none) (fun _ => none) []))
          (lateKeyRun .Return 0x0D) (System.start {} {} (List.replicate 1024 0)) = some s ∧
        s.main.phase = .killed ∧
        frameHead s.main.toMain.data = .item ⟨COMM_MSG_AUTH_RESULT, [1]⟩ [] := by
  have hs : ∃ s, run (system false (fun _ => none) (pamBackend (fun _ => none) (fun _ => none) []))
      (lateKeyRun .Return 0x0D) (System.start {} {} (List.replicate 1024 0)) = some s ∧
        s.main.phase = .killed ∧
        frameHead s.main.toMain.data = .item ⟨COMM_MSG_AUTH_RESULT, [1]⟩ [] := ⟨_, rfl, rfl, rfl⟩
  refine ⟨fun h => ?_, hs⟩
  obtain ⟨s, hrun, hk, -⟩ := hs
  exact h _ (List.prefix_refl _) s hrun hk

/-- A letter in the place of Return. -/
theorem survives_iff_letter :
    Throughout (system false (fun _ => none) (pamBackend (fun _ => none) (fun _ => none) []))
      (fun s => s.main.phase ≠ .killed) (lateKeyRun (.other 0x78) 0x78)
      (System.start {} {} (List.replicate 1024 0)) := by
  refine ((survives_iff false (fun _ => none) (pamBackend (fun _ => none) (fun _ => none) [])
    (lateKeyRun (.other 0x78) 0x78) (System.start {} {} (List.replicate 1024 0))
    (undisturbed_lateKeyRun _ _ _ _ _)).1 (show MainPhase.start ≠ .killed by decide)).mpr ?_
  refine along_of_mem (fun a ha s => ?_) _
  simp only [lateKeyRun, List.mem_cons, List.not_mem_nil, or_false] at ha
  rcases ha with rfl | rfl | rfl | rfl | rfl | rfl | rfl | rfl
  all_goals try trivial
  rintro - - (hm | ⟨-, hsub, -⟩)
  · refine hm (authdMessage_of_pass ?_)
    simp [Intercepts]
  · cases hsub

end SwaylockAuthd
