import SwaylockAuthd.Timers

/-!
# At most one outstanding password

`submit_password` refuses a second password in `AUTH_STATE_VALIDATING`, and the
header calls `auth_idle_timer` the timer to stop displaying `AUTH_STATE_INVALID`.  A
submission cancels the two other timers and leaves this one armed, so it can fire
while the password is being judged.

* `atMostOne_iff`: a password is outstanding only in `AUTH_STATE_VALIDATING`,
  throughout a run, exactly when no such timer fires meanwhile.
* `atMostOne_of_unhurried`: it is enough to submit while no timer of a failed attempt is armed.
* `not_atMostOne_resubmit`: a second attempt within three seconds of a rejected one.
-/

namespace SwaylockAuthd

open Transition

variable (parse : CString → Option Json)

/-! ## Watching the pipe -/

/-- What one callback has written to the child. -/
def written (m n : MainProcess) : List UInt8 := n.toChild.data.drop m.toChild.data.length

def wrotePassword (m n : MainProcess) : Bool := (written m n).head? = some COMM_MSG_PASSWORD

/-- Whether a password has been written since the last message of the child, and
whether a second one ever was. -/
structure Outstanding where
  outstanding : Bool := false
  second : Bool := false
  deriving DecidableEq, Repr

def noteOutstanding (a : MainEvent) (m n : MainProcess) (o : Outstanding) : Outstanding :=
  match a with
  | .message _ _ => { o with outstanding := false }
  | _ =>
    if wrotePassword m n then { outstanding := true, second := o.second || o.outstanding } else o

/-- No second password, and `AUTH_STATE_VALIDATING` as long as one is outstanding. -/
def AtMostOne (x : MainProcess × Outstanding) : Prop :=
  (x.2.outstanding = true → x.1.state.authState = .validating) ∧ x.2.second = false

instance (x : MainProcess × Outstanding) : Decidable (AtMostOne x) := by
  unfold AtMostOne
  infer_instance

/-- The timer callback an event runs. -/
def MainEvent.fires (a : MainEvent) (m : MainProcess) : Option TimerCallback :=
  match a with
  | .timer _ now addr => m.state.eventloop.due now addr
  | _ => none

/-- The display timer of a failed attempt does not fire while a password is outstanding. -/
def NoOldTimer (a : MainEvent) (x : MainProcess × Outstanding) : Prop :=
  x.2.outstanding = true → a.fires x.1 ≠ some .setAuthIdle

theorem written_same {m n : MainProcess} (h : n.toChild.data = m.toChild.data) :
    written m n = [] := by
  rw [written, h, List.drop_length]

theorem written_append {m n : MainProcess} {l : List UInt8}
    (h : n.toChild.data = m.toChild.data ++ l) : written m n = l := by
  rw [written, h, List.drop_left]

theorem wrotePassword_same {m n : MainProcess} (h : n.toChild.data = m.toChild.data) :
    wrotePassword m n = false := by
  rw [wrotePassword, written_same h]
  rfl

theorem wrotePassword_frame {m n : MainProcess} {type : UInt8} {payload : Option (List UInt8)}
    {len : Nat} (h : n.toChild.data = m.toChild.data ++ commWriteBytes type payload len) :
    wrotePassword m n = decide (type = COMM_MSG_PASSWORD) := by
  rw [wrotePassword, written_append h, commWriteBytes]
  simp

/-! ## Each callback -/

/-- A callback other than `set_auth_idle` does not touch the authentication state. -/
theorem authState_visitTimer {env : Env} {now : Timespec} {addr : Nat} {s : SwaylockState}
    (h : s.eventloop.due now addr ≠ some .setAuthIdle) :
    (visitTimer env now addr s).authState = s.authState ∧
      (visitTimer env now addr s).authIdleTimer = s.authIdleTimer := by
  rcases visitTimer_cases env now addr s with hv | hv | ⟨callback, t, hdue, rfl, hv⟩
  · rw [hv]
    exact ⟨rfl, rfl⟩
  · rw [hv]
    exact ⟨rfl, rfl⟩
  · rw [hv]
    cases callback with
    | setInputIdle => exact ⟨rfl, rfl⟩
    | setAuthIdle => exact absurd hdue h
    | clearPassword => exact ⟨rfl, rfl⟩

/-- What a key does while a password is outstanding. -/
theorem keyStep_validating {env : Env} {s t : SwaylockState} {p q : Pipe}
    (h : KeyStep env s p t q) (hv : s.authState = .validating) :
    t.authState = .validating ∧ t.authIdleTimer = s.authIdleTimer ∧
      (q.data = p.data ∨ ∃ type payload len, type ≠ COMM_MSG_PASSWORD ∧
        q.data = p.data ++ commWriteBytes type payload len) := by
  cases h with
  | move hn =>
    exact ⟨(hn.keep _ (by intros; rfl)).trans hv, hn.keep _ (by intros; rfl), Or.inl rfl⟩
  | @send _ m keysym hn active sent =>
    exact ⟨(hn.keep _ (by intros; rfl)).trans hv, hn.keep _ (by intros; rfl),
      Or.inr ⟨m.type, m.payload, m.len, (authdMessage_sent sent).1, rfl⟩⟩
  | edit a codepoint =>
    have he := edits_edit env s codepoint a
    exact ⟨(he.keep _ (by intros; rfl)).trans hv, he.keep _ (by intros; rfl), Or.inl rfl⟩
  | fail hs => exact absurd (Or.inr hv) hs
  | submit hs => exact absurd (Or.inr hv) hs

/-- A key that writes a password enters `AUTH_STATE_VALIDATING`. -/
theorem keyStep_wrote {env : Env} {m n : MainProcess}
    (h : KeyStep env m.state m.toChild n.state n.toChild) (hw : wrotePassword m n = true) :
    n.state = submitted m.state ∧
      n.toChild.data = m.toChild.data ++ passwordBytes m.state.password := by
  obtain ⟨t, q⟩ := n
  have quiet : q = m.toChild → t = submitted m.state ∧
      q.data = m.toChild.data ++ passwordBytes m.state.password := by
    rintro rfl
    have hq : wrotePassword m ⟨t, m.toChild⟩ = false := wrotePassword_same rfl
    rw [hq] at hw
    cases hw
  dsimp only at h ⊢
  cases h with
  | move => exact quiet rfl
  | send hn active sent =>
    rw [wrotePassword_frame rfl] at hw
    exact absurd (by simpa using hw) (authdMessage_sent sent).1
  | edit => exact quiet rfl
  | fail => exact quiet rfl
  | submit => exact ⟨rfl, rfl⟩

theorem noteOutstanding_quiet {a : MainEvent} {m n : MainProcess} {o : Outstanding}
    (ha : ∀ env f, a ≠ .message env f) (hw : wrotePassword m n = false) :
    noteOutstanding a m n o = o := by
  cases a with
  | message env f => exact absurd rfl (ha env f)
  | _ => simp [noteOutstanding, hw]

theorem noteOutstanding_wrote {a : MainEvent} {m n : MainProcess} {o : Outstanding}
    (ha : ∀ env f, a ≠ .message env f) (hw : wrotePassword m n = true) :
    noteOutstanding a m n o = { outstanding := true, second := o.second || o.outstanding } := by
  cases a with
  | message env f => exact absurd rfl (ha env f)
  | _ => simp [noteOutstanding, hw]

/-- A key keeps the property. -/
theorem atMostOne_key {env : Env} {keysym : Keysym} {codepoint : UInt32} {m n : MainProcess}
    {o : Outstanding} (hx : AtMostOne (m, o))
    (h : KeyStep env m.state m.toChild n.state n.toChild) :
    AtMostOne (n, noteOutstanding (.key env keysym codepoint) m n o) := by
  obtain ⟨hval, hsec⟩ := hx
  have hkey : ∀ env' f, MainEvent.key env keysym codepoint ≠ .message env' f := by simp
  by_cases ho : o.outstanding = true
  · obtain ⟨hv, -, hdata⟩ := keyStep_validating h (hval ho)
    have hw : wrotePassword m n = false := by
      rcases hdata with hd | ⟨type, payload, len, hne, hd⟩
      · exact wrotePassword_same hd
      · rw [wrotePassword_frame hd]
        simpa using hne
    rw [noteOutstanding_quiet hkey hw]
    exact ⟨fun _ => hv, hsec⟩
  · rw [Bool.not_eq_true] at ho
    cases hw : wrotePassword m n with
    | true =>
      rw [noteOutstanding_wrote hkey hw]
      refine ⟨fun _ => by rw [(keyStep_wrote h hw).1]; rfl, ?_⟩
      simp only [ho, Bool.or_false]
      exact hsec
    | false =>
      rw [noteOutstanding_quiet hkey hw]
      exact ⟨fun h' => absurd (ho.symm.trans h') (by decide), hsec⟩

theorem atMostOne_step {a : MainEvent} {x y : MainProcess × Outstanding} (hx : AtMostOne x)
    (hC : NoOldTimer a x) (h : monitored (mainStep parse) noteOutstanding a x = some y) :
    AtMostOne y := by
  obtain ⟨m, o⟩ := x
  obtain ⟨n, o'⟩ := y
  obtain ⟨hstep, rfl : o' = noteOutstanding a m n o⟩ := monitored_eq_some.mp h
  have quiet : n.toChild.data = m.toChild.data → (∀ env f, a ≠ .message env f) →
      (o.outstanding = true → n.state.authState = m.state.authState) →
      AtMostOne (n, noteOutstanding a m n o) := by
    intro hdata ha hkeep
    rw [noteOutstanding_quiet ha (wrotePassword_same hdata)]
    exact ⟨fun ho => (hkeep ho).trans (hx.1 ho), hx.2⟩
  cases mainStep_cases parse hstep with
  | key eq hk => exact atMostOne_key hx hk
  | modifiers hm => exact quiet rfl (by simp) fun _ => hm.keep _ (by intros; rfl)
  | timer => exact quiet rfl (by simp) fun ho => (authState_visitTimer (hC ho)).1
  | message => exact ⟨fun ho => absurd (show false = true from ho) (by decide), hx.2⟩
  | childGone => exact quiet rfl (by simp) fun _ => rfl

/-- The display timer ends the validating state. -/
theorem atMostOne_break {a : MainEvent} {x : MainProcess × Outstanding} (hC : ¬ NoOldTimer a x) :
    ∃ y, monitored (mainStep parse) noteOutstanding a x = some y ∧ ¬ AtMostOne y := by
  obtain ⟨m, o⟩ := x
  obtain ⟨ho, hf⟩ := Classical.not_imp.mp hC
  rw [not_not] at hf
  cases a with
  | timer env now addr =>
    refine ⟨⟨{ m with state := visitTimer env now addr m.state }, o⟩, ?_, ?_⟩
    · refine monitored_eq_some.mpr ⟨rfl, ?_⟩
      exact (noteOutstanding_quiet (a := .timer env now addr) (by simp)
        (wrotePassword_same rfl)).symm
    · rintro ⟨hval, -⟩
      have hv := hval ho
      simp only [visitTimer_due hf] at hv
      exact absurd hv (by simp [TimerCallback.call, setAuthIdle, damageState])
  | _ => cases hf

/-- **At most one outstanding password, exactly when no display timer of an earlier
attempt fires before the next message of the child.** -/
theorem atMostOne_iff (as : List MainEvent) (m : MainProcess) :
    Throughout (monitored (mainStep parse) noteOutstanding) AtMostOne as (m, {}) ↔
      Along (monitored (mainStep parse) noteOutstanding) NoOldTimer as (m, {}) := by
  refine throughout_iff_along (H := fun _ _ => True) (I := AtMostOne) ?_ (fun _ h => h) ?_ ?_ ?_
  · exact fun a x y hx _ hC h => atMostOne_step parse hx hC h
  · exact fun a x _ _ hC => atMostOne_break parse hC
  · exact ⟨fun h => absurd (show false = true from h) (by decide), rfl⟩
  · exact along_of_mem (fun _ _ _ => trivial) _

/-! ## A rejected attempt and a second one -/

/-- The messages and keys of two attempts in a row: the first is rejected at ten
seconds, the second is submitted at twelve, and at thirteen the timer of the first
one fires, before the child has answered. -/
def resubmitRun : List MainEvent :=
  let return_ : MainEvent := .key { writes := List.replicate 3 (.short 7) } .Return 0x0D
  [return_, .message { authIdle := some ⟨10, 0⟩ } ⟨COMM_MSG_AUTH_RESULT, [0]⟩, return_,
    .timer {} ⟨13, 1⟩ 0, return_]

set_option maxRecDepth 10000 in
/-- **The second attempt leaves `AUTH_STATE_VALIDATING` while it is outstanding**, and
a third password is written behind it. -/
theorem not_atMostOne_resubmit :
    ¬ Throughout (monitored (mainStep fun _ => none) noteOutstanding) AtMostOne resubmitRun
      (⟨.start {} (List.replicate 1024 0), {}⟩, {}) := by
  intro h
  have hx : ∃ x, run (monitored (mainStep fun _ => none) noteOutstanding) resubmitRun
      (⟨.start {} (List.replicate 1024 0), {}⟩, {}) = some x ∧ x.2.second = true := ⟨_, rfl, rfl⟩
  obtain ⟨x, hrun, hsecond⟩ := hx
  have hone := h resubmitRun (List.prefix_refl _) x hrun
  rw [hone.2] at hsecond
  cases hsecond

/-! ## Submissions that are safe -/

/-- A key that can submit is pressed while no display timer is armed. -/
def Unhurried (a : MainEvent) (x : MainProcess × Outstanding) : Prop :=
  match a with
  | .key _ keysym _ =>
    keysym.action x.1.state.xkb.control = .submit → ¬ SubmitSkipped x.1.state →
      x.1.state.authIdleTimer = none
  | _ => True

/-- While a password is outstanding no display timer is armed. -/
def NoneArmed (x : MainProcess × Outstanding) : Prop :=
  AtMostOne x ∧ Owned x.1.state ∧ (x.2.outstanding = true → x.1.state.authIdleTimer = none)

theorem NoneArmed.noOldTimer {a : MainEvent} {x : MainProcess × Outstanding} (h : NoneArmed x) :
    NoOldTimer a x := by
  intro ho hf
  cases a with
  | timer env now addr =>
    obtain ⟨t, ht, -, hc, hlive⟩ := Loop.mem_of_due hf
    have hp := h.2.1 t ht hlive
    rw [hc] at hp
    exact absurd (hp.symm.trans (h.2.2 ho)) (by simp)
  | _ => cases hf

/-- A key of the selection stages leaves the password alone. -/
theorem password_intercepted {env : Env} {s t : SwaylockState} {p q : Pipe} {keysym : Keysym}
    (h : authdHandleKey env s p keysym = some (.running t q)) :
    t.password = s.password ∧ wrotePassword ⟨s, p⟩ ⟨t, q⟩ = false := by
  have hk : HandlesKey env s p keysym 0 (.running t q) := authdHandleKey_handles h
  generalize hr : Outcome.running t q = r at hk
  cases hk with
  | moves hn => cases hr; exact ⟨hn.keep _ (by intros; rfl), wrotePassword_same rfl⟩
  | @sends u m hn active sent =>
    obtain ⟨rfl, -, rfl⟩ := sendKey_running hr.symm
    refine ⟨hn.keep _ (by intros; rfl), ?_⟩
    rw [wrotePassword_frame rfl]
    simpa using (authdMessage_sent sent).1
  | submits pass => rw [h] at pass; cases pass
  | edits pass => rw [h] at pass; cases pass

/-- A key that writes a password is one that can submit. -/
theorem keySubmits {env : Env} {s t : SwaylockState} {p q : Pipe} {keysym : Keysym}
    {codepoint : UInt32} (h : swaylockHandleKey env s p keysym codepoint = .running t q)
    (hw : wrotePassword ⟨s, p⟩ ⟨t, q⟩ = true) :
    keysym.action s.xkb.control = .submit ∧ ¬ SubmitSkipped s := by
  have wrote : wrotePassword ⟨s, p⟩ ⟨t, q⟩ ≠ false := by rw [hw]; decide
  cases ha : authdHandleKey env s p keysym with
  | some r =>
    rw [swaylockHandleKey, ha] at h
    obtain rfl : r = .running t q := h
    exact absurd (password_intercepted ha).2 wrote
  | none =>
    cases passwordKey_of_pass ha h with
    | submit action step =>
      cases step with
      | skip => exact absurd (wrotePassword_same rfl) wrote
      | fail hn => exact ⟨action, hn⟩
      | send hn => exact ⟨action, hn⟩
    | edit => exact absurd (wrotePassword_same rfl) wrote

theorem noneArmed_step {a : MainEvent} {x y : MainProcess × Outstanding} (hx : NoneArmed x)
    (hC : Unhurried a x) (h : monitored (mainStep parse) noteOutstanding a x = some y) :
    NoneArmed y := by
  obtain ⟨m, o⟩ := x
  obtain ⟨n, o'⟩ := y
  obtain ⟨hstep, rfl : o' = noteOutstanding a m n o⟩ := monitored_eq_some.mp h
  refine ⟨atMostOne_step parse hx.1 hx.noOldTimer h, owned_mainStep hx.2.1 hstep, ?_⟩
  have quiet : n.toChild.data = m.toChild.data → (∀ env f, a ≠ .message env f) →
      (o.outstanding = true → n.state.authIdleTimer = m.state.authIdleTimer) →
      (noteOutstanding a m n o).outstanding = true → n.state.authIdleTimer = none := by
    intro hdata ha hkeep
    rw [noteOutstanding_quiet ha (wrotePassword_same hdata)]
    exact fun ho => (hkeep ho).trans (hx.2.2 ho)
  cases mainStep_cases parse hstep with
  | @key env keysym codepoint s p eq hk =>
    have hkey : ∀ env' f, MainEvent.key env keysym codepoint ≠ .message env' f := by simp
    intro ho'
    cases hw : wrotePassword m ⟨s, p⟩ with
    | true =>
      obtain ⟨hsub, hskip⟩ := keySubmits eq hw
      obtain ⟨rfl : s = submitted m.state, -⟩ := keyStep_wrote hk hw
      exact hC hsub hskip
    | false =>
      rw [noteOutstanding_quiet hkey hw] at ho'
      exact (keyStep_validating hk (hx.1.1 ho')).2.1.trans (hx.2.2 ho')
  | modifiers hm => exact quiet rfl (by simp) fun _ => hm.keep _ (by intros; rfl)
  | @timer env now addr =>
    have hno : NoOldTimer (.timer env now addr) (m, o) := hx.noOldTimer
    exact quiet rfl (by simp) fun ho => (authState_visitTimer (hno ho)).2
  | message => exact fun ho => absurd (show false = true from ho) (by decide)
  | childGone => exact quiet rfl (by simp) fun _ => rfl

/-- **It is enough to submit while no display timer is armed**, that is not within
three seconds of a failed attempt. -/
theorem atMostOne_of_unhurried {as : List MainEvent} {m : MainProcess} (hm : Owned m.state)
    (h : Along (monitored (mainStep parse) noteOutstanding) Unhurried as (m, {})) :
    Throughout (monitored (mainStep parse) noteOutstanding) AtMostOne as (m, {}) := by
  have start : NoneArmed (m, {}) :=
    ⟨⟨fun h => absurd (show false = true from h) (by decide), rfl⟩, hm,
      fun h => absurd (show false = true from h) (by decide)⟩
  exact throughout_of_along (fun _ _ _ hx hC => noneArmed_step parse hx hC) (fun _ hx => hx.1)
    start h

end SwaylockAuthd
