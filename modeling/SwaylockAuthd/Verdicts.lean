import SwaylockAuthd.Fidelity
import SwaylockAuthd.Wakeup

/-!
# Every password gets its verdict

With the shadow backend a password goes from the keyboard through the buffer and one pipe to
`crypt`, and the verdict comes back through the other pipe.

* `Answering`: what the user has typed and submitted, and the verdicts the main process has
  consumed.
* `judged_move`, `judged_read`: what a step of each process does to them.
* `verdicts_in_order`: the verdicts are those on the passwords that were typed, in order.
-/

namespace SwaylockAuthd

open Transition

/-- What the user has typed and submitted, and the verdicts that have come back. -/
structure Answering where
  typed : List Codepoint := []
  submitted : List (List Codepoint) := []
  verdicts : List Bool := []

/-- The main process with the pipe it writes to. -/
def MainSide.process (m : MainSide) : MainProcess := { state := m.state, toChild := m.toChild }

variable {α β : Type}

/-- The reference editor, and what has been submitted and consumed. -/
def noteAnswering (a : Action α) (s t : System β) (x : Answering) : Answering :=
  match a with
  | .main (.key _ keysym codepoint) =>
    if t.main.phase.live then
      { x with
        typed := editKey Keysym.action s.main.state keysym codepoint x.typed
        submitted := x.submitted ++
          if wrotePassword s.main.process t.main.process then [x.typed] else [] }
    else x
  | .main (.timer _) =>
    match s.main.phase with
    | .timers now (addr :: _) =>
      if s.main.state.eventloop.due now addr = some .clearPassword then { x with typed := [] }
      else x
    | _ => x
  | .main (.reply _) =>
    { x with verdicts := x.verdicts ++ (consumedFrame s t).toList.map fun f => decide (Grants f) }
  | _ => x

/-- The code points of the keys are code points. -/
def Action.Typed : Action α → Prop
  | .main (.key _ _ codepoint) => codepoint.toNat ≤ 0x10FFFF
  | _ => True

variable (crypt : CString → CString → Option CString) (encpw : CString)

/-- A password is right. -/
def right (password : CString) : Bool := crypt password encpw = some encpw

/-- The verdicts in a stream of results. -/
def results (l : List UInt8) : List Bool := (frames l).map fun f => decide (Grants f)

/-- The verdicts on a stream of passwords. -/
def judge (l : List UInt8) : List Bool := (frames l).map fun f => right crypt encpw (cstr f.payload)

/-- While the child is there, every password has its verdict, or is on its way to it. -/
structure Judging (y : System ShadowPhase × Answering) : Prop where
  typed : Holds y.1.main.state.password y.2.typed
  told : Told Asked y.1.main
  inactive : y.1.main.state.authdActive = false
  answered : y.2.submitted.map (fun cs => right crypt encpw (encodeAll cs)) =
    y.2.verdicts ++ results (y.1.main.toMain.data ++ y.1.out) ++
      judge crypt encpw y.1.main.toChild.data

/-- The verdicts that have been given, also by a child that has ended; `cut` is what it did
not write. -/
def Judged (y : System ShadowPhase × Answering) : Prop :=
  ∃ cut, frameFraming.Carries (fun f => f.type = COMM_MSG_AUTH_RESULT)
      (y.1.main.toMain.data ++ cut) ∧
    y.2.verdicts ++ results (y.1.main.toMain.data ++ cut) <+:
      y.2.submitted.map (fun cs => right crypt encpw (encodeAll cs)) ∧
    if y.1.alive then cut = y.1.out ∧ Judging crypt encpw y else y.1.out = []

variable {crypt} {encpw} {debugUnlock : Bool} {parse : CString → Option Json}

/-! ## The main process -/

/-- What is seen of the main process stays the same. -/
theorem Judging.congr {s : System ShadowPhase} {m : MainSide} {x : Answering}
    (hs : Judging crypt encpw (s, x)) (hpassword : m.state.password = s.main.state.password)
    (hactive : m.state.authdActive = s.main.state.authdActive)
    (hchild : m.toChild.data = s.main.toChild.data) (hmain : m.toMain.data = s.main.toMain.data) :
    Judging crypt encpw ({ s with main := m }, x) := by
  obtain ⟨htyped, ⟨hroom, hstream⟩, hinactive, hanswered⟩ := hs
  refine ⟨?_, ⟨?_, ?_⟩, hactive.trans hinactive, ?_⟩
  · dsimp only
    rw [hpassword]
    exact htyped
  · dsimp only
    rw [hpassword]
    exact hroom
  · dsimp only
    rw [hchild]
    exact hstream
  · dsimp only
    rw [hchild, hmain]
    exact hanswered

theorem Judging.settle {s : System ShadowPhase} {m : MainSide} {x : Answering}
    (h : Judging crypt encpw ({ s with main := m }, x)) :
    Judging crypt encpw ({ s with main := m.settle }, x) := by
  have hc : m.settle.toChild.data = m.toChild.data := by
    rw [MainSide.settle]
    split <;> rfl
  refine Judging.congr (s := { s with main := m }) h ?_ ?_ hc (settle_toMain_data m)
  · rw [settle_state]
  · rw [settle_state]

/-- A step that types nothing and consumes nothing. -/
theorem noteAnswering_same {a : MainAction} {s t : System β} {x : Answering}
    (hkey : ∀ env keysym codepoint, a = .key env keysym codepoint → t.main.phase.live = false)
    (htimer : ∀ env now addr todo, a = .timer env → s.main.phase ≠ .timers now (addr :: todo))
    (hdata : t.main.toMain.data = s.main.toMain.data) :
    noteAnswering (.main a : Action α) s t x = x := by
  cases a with
  | key env keysym codepoint =>
    rw [noteAnswering, hkey env keysym codepoint rfl, if_neg Bool.false_ne_true]
  | timer env =>
    rw [noteAnswering]
    split
    · rename_i hp
      exact absurd hp (htimer env _ _ _ rfl)
    · rfl
  | reply env =>
    rw [noteAnswering, consumedFrame_none (by rw [hdata]), Option.toList_none, List.map_nil,
      List.append_nil]
  | _ => rfl

theorem judge_append {l : List UInt8} {P : Frame → Prop} (h : frameFraming.Carries P l)
    (m : List UInt8) : judge crypt encpw (l ++ m) = judge crypt encpw l ++ judge crypt encpw m := by
  rw [judge, frames, Framing.items_append_of_carries h, List.map_append]
  rfl

/-- The verdict on the frame of a password is that on what was typed. -/
theorem judge_passwordBytes {pw : SwaylockPassword} {cs : List Codepoint} (h : Holds pw cs)
    (hroom : Roomy pw) :
    judge crypt encpw (passwordBytes pw) = [right crypt encpw (encodeAll cs)] := by
  have hfits : Frame.Fits ⟨COMM_MSG_PASSWORD, encodeAll cs ++ [0]⟩ := by
    have hlen := hroom.len
    have hmax := hroom.max
    show (encodeAll cs ++ [0]).length ≤ COMM_MAX_PAYLOAD
    rw [List.length_append, ← h.len, List.length_singleton]
    omega
  rw [judge, passwordBytes_eq h, (frames_bytes hfits).1, List.map_singleton,
    cstr_append_nul, cstr_eq_self (zero_notMem_encodeAll cs)]

/-- Without authd a key writes a password, or nothing. -/
theorem data_of_not_wrote {m n : MainProcess} {env : Env}
    (h : KeyStep env m.state m.toChild n.state n.toChild) (ha : m.state.authdActive = false)
    (hw : ¬ wrotePassword m n = true) : n.toChild.data = m.toChild.data := by
  obtain ⟨t, q⟩ := n
  dsimp only at h ⊢
  cases h with
  | send _ active =>
    rw [ha] at active
    cases active
  | submit =>
    refine absurd ?_ hw
    rw [wrotePassword_frame rfl]
    rfl
  | _ => rfl

/-- A key types, and submits what has been typed. -/
theorem judging_key {s : System ShadowPhase} {x : Answering} {env : Env} {keysym : Keysym}
    {codepoint : UInt32} {t : SwaylockState} {p : Pipe} (hs : Judging crypt encpw (s, x))
    (hc : codepoint.toNat ≤ 0x10FFFF)
    (eq : swaylockHandleKey env s.main.state s.main.toChild keysym codepoint = .running t p)
    (step : KeyStep env s.main.state s.main.toChild t p) :
    Judging crypt encpw ({ s with main := { s.main with state := t, toChild := p } },
      { x with
        typed := editKey Keysym.action s.main.state keysym codepoint x.typed
        submitted := x.submitted ++
          if wrotePassword s.main.process { state := t, toChild := p } then [x.typed]
          else [] }) := by
  obtain ⟨htyped, ⟨hroom, hstream⟩, hinactive, hanswered⟩ := hs
  have hasked : ∀ payload, payload ≠ [] → Asked ⟨COMM_MSG_PASSWORD, payload⟩ :=
    fun _ hp => ⟨rfl, hp⟩
  refine ⟨holds_key htyped hc eq, ⟨step.roomy hroom,
    told_key hasked step hroom (speaks_of_inactive hinactive) hstream⟩,
    (step.awake hinactive).1, ?_⟩
  dsimp only at hanswered ⊢
  rw [List.map_append, hanswered, List.append_assoc]
  refine congrArg _ ?_
  by_cases hw : wrotePassword s.main.process { state := t, toChild := p } = true
  · have hdata := (keyStep_wrote (n := { state := t, toChild := p }) step hw).2
    change p.data = s.main.toChild.data ++ passwordBytes s.main.state.password at hdata
    rw [if_pos hw, hdata, judge_append hstream, judge_passwordBytes htyped hroom]
    rfl
  · have hdata := data_of_not_wrote (n := { state := t, toChild := p }) step hinactive hw
    change p.data = s.main.toChild.data at hdata
    rw [if_neg hw, hdata, List.map_nil, List.append_nil]

/-- A frame brings a verdict. -/
theorem judging_frame {s : System ShadowPhase} {x : Answering} {env : Env} {f : Frame}
    {rest : List UInt8} {t : SwaylockState} {phase : MainPhase}
    (hs : Judging crypt encpw (s, x))
    (head : frameHead s.main.toMain.data = .item f rest) (type : f.type = COMM_MSG_AUTH_RESULT)
    (eq : t = commInFrame parse env s.main.state f) (step : FrameStep env s.main.state f t) :
    Judging crypt encpw ({ s with
        main := { s.main with
          state := t, toMain := { s.main.toMain with data := rest }, phase } },
      { x with verdicts := x.verdicts ++ [decide (Grants f)] }) := by
  obtain ⟨htyped, ⟨hroom, hstream⟩, hinactive, hanswered⟩ := hs
  have hpassword : t.password = s.main.state.password := step.password
  have hactive : t.authdActive = s.main.state.authdActive := by
    rw [eq]
    exact authdActive_commInFrame parse env _ (by rw [type]; decide) (by rw [type]; decide)
  have hresults : results (s.main.toMain.data ++ s.out) =
      decide (Grants f) :: results (rest ++ s.out) := by
    rw [results, frames, frameFraming.items_of_item (frameFraming.item_append s.out head)]
    rfl
  refine ⟨?_, ⟨?_, hstream⟩, hactive.trans hinactive, ?_⟩
  · dsimp only
    rw [hpassword]
    exact htyped
  · dsimp only
    rw [hpassword]
    exact hroom
  · dsimp only at hanswered ⊢
    rw [hanswered, hresults]
    simp

/-- **What a step of the main process does**, while the child is there. -/
theorem judging_main {a : MainAction} {s : System ShadowPhase} {m : MainSide} {x : Answering}
    (hs : Judging crypt encpw (s, x)) (ha : (Action.main a : Action ShadowAction).Typed)
    (hflight : frameFraming.Carries (fun f => f.type = COMM_MSG_AUTH_RESULT)
      (s.main.toMain.data ++ s.out)) (hm : MainMove debugUnlock parse s.main a m) :
    Judging crypt encpw ({ s with main := m.settle },
      noteAnswering (.main a : Action ShadowAction) s { s with main := m.settle } x) := by
  have same : ∀ {n : MainSide}, n.state.password = s.main.state.password →
      n.state.authdActive = s.main.state.authdActive → n.toChild.data = s.main.toChild.data →
      n.toMain.data = s.main.toMain.data →
      (∀ env keysym codepoint, a = .key env keysym codepoint → n.phase.live = false) →
      (∀ env now addr todo, a = .timer env → s.main.phase ≠ .timers now (addr :: todo)) →
      Judging crypt encpw ({ s with main := n.settle },
        noteAnswering (.main a : Action ShadowAction) s { s with main := n.settle } x) := by
    intro n hpassword hactive hchild hmain hkey htimer
    have hlive : ∀ env keysym codepoint, a = .key env keysym codepoint →
        n.settle.phase.live = false := by rwa [settle_phase]
    have hdata : n.settle.toMain.data = s.main.toMain.data := by rw [settle_toMain_data, hmain]
    rw [noteAnswering_same (t := { s with main := n.settle }) hlive htimer hdata]
    exact (hs.congr hpassword hactive hchild hmain).settle
  cases hm with
  | proceeds h =>
    refine same rfl rfl rfl rfl ?_ ?_
    · rintro env keysym codepoint rfl
      cases h
    · rintro env now addr todo rfl hp
      cases h with
      | timersDone hp' => rw [hp] at hp'; cases hp'
  | ends h =>
    refine same rfl rfl rfl rfl ?_ ?_
    · rintro env keysym codepoint rfl
      cases h
      rfl
    · rintro env now addr todo rfl
      cases h
  | @key env keysym codepoint t p hk eq step =>
    have live : ({ s.main with state := t, toChild := p } : MainSide).phase.live = true :=
      live_of_handlesKeys hk
    rw [settle_of_live live, noteAnswering, if_pos live]
    exact judging_key hs ha eq step
  | modifiers _ keep =>
    refine same (keep.keep SwaylockState.password (by intros; rfl))
      (keep.keep SwaylockState.authdActive (by intros; rfl)) rfl rfl ?_ ?_
    · rintro _ _ _ ⟨⟩
    · rintro _ _ _ _ ⟨⟩
  | @frame mask term env f rest t hp _ head type eq step =>
    have htype := (hflight.tail (frameFraming.item_append s.out head)).1
    have live : ({ s.main with
      state := t, toMain := { s.main.toMain with data := rest }
      phase := .term term } : MainSide).phase.live = true := rfl
    rw [settle_of_live live, noteAnswering, consumedFrame_some head rfl]
    exact judging_frame hs head htype eq step
  | @timer now addr todo env hp =>
    obtain ⟨htyped, ⟨hroom, hstream⟩, hinactive, hanswered⟩ := hs
    have live : ({ s.main with
      state := visitTimer env now addr s.main.state
      phase := .timers now todo } : MainSide).phase.live = true := rfl
    have hholds := @holds_timer env now addr _ _ htyped
    have hactive : (visitTimer env now addr s.main.state).authdActive = false :=
      (authdActive_visitTimer env now addr _).trans hinactive
    rw [settle_of_live live]
    simp only [noteAnswering, hp]
    by_cases hd : s.main.state.eventloop.due now addr = some .clearPassword
    · rw [if_pos hd] at hholds ⊢
      exact ⟨hholds, ⟨roomy_visitTimer hroom, hstream⟩, hactive, hanswered⟩
    · rw [if_neg hd] at hholds ⊢
      exact ⟨hholds, ⟨roomy_visitTimer hroom, hstream⟩, hactive, hanswered⟩
  | _ =>
    refine same rfl rfl rfl rfl ?_ ?_
    · rintro _ _ _ ⟨⟩
    · rintro _ _ _ _ ⟨⟩

theorem submitted_note (a : MainAction) (s t : System β) (x : Answering) :
    x.submitted <+: (noteAnswering (.main a : Action α) s t x).submitted := by
  cases a with
  | key env keysym codepoint =>
    rw [noteAnswering]
    split
    · exact List.prefix_append _ _
    · exact List.prefix_rfl
  | timer env =>
    rw [noteAnswering]
    split
    · split <;> exact List.prefix_rfl
    · exact List.prefix_rfl
  | _ => exact List.prefix_rfl

/-- The verdicts that are consumed leave the pipe. -/
theorem verdicts_note {a : MainAction} {s : System β} {m : MainSide} {x : Answering}
    {cut : List UInt8} (hm : MainMove debugUnlock parse s.main a m)
    (hflight : frameFraming.Carries (fun f => f.type = COMM_MSG_AUTH_RESULT)
      (s.main.toMain.data ++ cut)) :
    frameFraming.Carries (fun f => f.type = COMM_MSG_AUTH_RESULT) (m.settle.toMain.data ++ cut) ∧
      (noteAnswering (.main a : Action α) s { s with main := m.settle } x).verdicts ++
        results (m.settle.toMain.data ++ cut) =
        x.verdicts ++ results (s.main.toMain.data ++ cut) := by
  rw [settle_toMain_data]
  have same : m.toMain = s.main.toMain →
      (noteAnswering (.main a : Action α) s { s with main := m.settle } x).verdicts =
        x.verdicts := by
    intro hdata
    have hnone : consumedFrame s { s with main := m.settle } = none :=
      consumedFrame_none (by rw [settle_toMain_data, hdata])
    cases a with
    | reply env => simp [noteAnswering, hnone]
    | key env keysym codepoint => rw [noteAnswering]; split <;> rfl
    | timer env =>
      rw [noteAnswering]
      split
      · split <;> rfl
      · rfl
    | _ => rfl
  cases hm with
  | @frame mask term env f rest t hp _ head =>
    have hitem := frameFraming.item_append cut head
    have hsome : consumedFrame s { s with main := ({ s.main with
        state := t, toMain := { s.main.toMain with data := rest }
        phase := .term term } : MainSide).settle } = some f :=
      consumedFrame_some head (settle_toMain_data _)
    refine ⟨(hflight.tail hitem).2, ?_⟩
    rw [noteAnswering, hsome, results, results, frames, frames, frameFraming.items_of_item hitem]
    simp
  | _ => exact ⟨hflight, by rw [same rfl]⟩

theorem judged_main {a : MainAction} {s : System ShadowPhase} {m : MainSide} {x : Answering}
    (hs : Judged crypt encpw (s, x)) (ha : (Action.main a : Action ShadowAction).Typed)
    (hm : MainMove debugUnlock parse s.main a m) :
    Judged crypt encpw ({ s with main := m.settle },
      noteAnswering (.main a : Action ShadowAction) s { s with main := m.settle } x) := by
  obtain ⟨cut, hflight, hbegins, hcut⟩ := hs
  obtain ⟨hflight', hverdicts⟩ := verdicts_note (α := ShadowAction) (x := x) hm hflight
  refine ⟨cut, hflight', ?_, ?_⟩
  · rw [hverdicts]
    exact hbegins.trans ((submitted_note _ _ _ x).map _)
  · dsimp only at hcut hflight ⊢
    split at hcut
    · rename_i alive
      obtain ⟨rfl, hjudging⟩ := hcut
      rw [if_pos alive]
      exact ⟨rfl, judging_main hjudging ha hflight hm⟩
    · rename_i dead
      rw [if_neg dead]
      exact hcut

/-! ## The child -/

theorem judged_childEnds {s : System ShadowPhase} {x : Answering}
    (h : Judged crypt encpw (s, x)) : Judged crypt encpw (s.childEnds, x) := by
  obtain ⟨cut, hflight, hbegins, -⟩ := h
  exact ⟨cut, hflight, hbegins, rfl⟩

theorem carries_result (granted : Bool) :
    frameFraming.Carries (fun f => f.type = COMM_MSG_AUTH_RESULT) (authResultBytes granted) := by
  rw [authResultBytes_eq]
  exact Framing.carries_of_writes (writes_bytes (fits_byte _ _)) rfl

/-- A child that reads a password writes the verdict on it. -/
theorem shadowRead_asked {env : Env} {p : Pipe} {r : CommRead}
    (hstream : frameFraming.Carries Asked p.data) (h : commRead env.payload env.reads p = some r)
    (stays : (shadowRead crypt encpw r).exits = false) :
    frameFraming.Carries Asked (shadowRead crypt encpw r).toChild.data ∧
      frameFraming.Carries (fun f => f.type = COMM_MSG_AUTH_RESULT) (shadowRead crypt encpw r).out ∧
      judge crypt encpw p.data =
        results (shadowRead crypt encpw r).out ++
          judge crypt encpw (shadowRead crypt encpw r).toChild.data := by
  -- an error of `comm_child_read` ends the child
  have alive : 0 ≤ r.ret := by
    by_contra hlt
    rw [shadowRead, if_pos (Int.not_le.mp hlt)] at stays
    cases stays
  have nothing := commRead_nothing h
  cases commRead_spec h with
  | tooLarge => exact absurd alive (by simp)
  | failed => exact absurd alive (by simp)
  | @ended p' cs head closed =>
    have hdata := hstream.nil_of_more head
    obtain rfl : p' = p := nothing hdata
    rw [if_pos hdata]
    exact ⟨hstream, Framing.carries_nil _ _, rfl⟩
  | @frame f rest cs head =>
    obtain ⟨⟨htype, hpay⟩, hrest⟩ := hstream.tail head
    have hbuf : f.buffer = some (f.payload ++ [0]) := by rw [Frame.buffer, if_neg hpay]
    have hret : ¬ (COMM_MSG_PASSWORD.toNat : Int) < 0 ∧ ¬ (COMM_MSG_PASSWORD.toNat : Int) = 0 := by
      decide
    have hjudge : judge crypt encpw p.data =
        right crypt encpw (cstr f.payload) :: judge crypt encpw rest := by
      rw [judge, frames, frameFraming.items_of_item head]
      rfl
    rw [hjudge]
    rw [htype, hbuf] at stays ⊢
    rw [shadowRead, if_neg hret.1, if_neg hret.2, if_neg (not_not.mpr rfl)] at stays ⊢
    dsimp only at stays ⊢
    have hcstr : cstr (f.payload ++ [0]) = cstr f.payload := cstr_append_nul f.payload []
    cases hcrypt : crypt (cstr (f.payload ++ [0])) encpw with
    | none =>
      rw [hcrypt] at stays
      cases stays
    | some c =>
      have hright : right crypt encpw (cstr f.payload) = decide (c = encpw) := by
        rw [right, ← hcstr, hcrypt]
        simp
      rw [hright, results, frames_authResult]
      refine ⟨hrest, ?_, ?_⟩
      · exact carries_result _
      · by_cases he : c = encpw <;> simp [he, Grants]

theorem judged_child {a : ShadowAction} {s : System ShadowPhase} {r : Reaction ShadowPhase}
    {x : Answering} (hs : Judged crypt encpw (s, x)) (alive : s.alive = true) (idle : s.out = [])
    (h : shadowAct crypt encpw a s.child s.main.toChild = some r) (stays : r.exits = false) :
    Judged crypt encpw ({ s with
      main := { s.main with toChild := r.toChild }, child := r.child, out := r.out }, x) := by
  obtain ⟨cut, hflight, hbegins, hcut⟩ := hs
  dsimp only at hcut hflight hbegins
  rw [if_pos alive, idle] at hcut
  obtain ⟨rfl, htyped, ⟨hroom, hstream⟩, hinactive, hanswered⟩ := hcut
  rw [idle] at hanswered
  -- what a step adds to the results it takes from the passwords
  have moves : frameFraming.Carries Asked r.toChild.data →
      frameFraming.Carries (fun f => f.type = COMM_MSG_AUTH_RESULT) r.out →
      judge crypt encpw s.main.toChild.data = results r.out ++ judge crypt encpw r.toChild.data →
      Judged crypt encpw ({ s with
        main := { s.main with toChild := r.toChild }, child := r.child, out := r.out }, x) := by
    intro hrest hout hjudge
    rw [List.append_nil] at hflight hanswered hbegins
    have hresults : results (s.main.toMain.data ++ r.out) =
        results s.main.toMain.data ++ results r.out := by
      rw [results, frames, Framing.items_append_of_carries hflight, List.map_append]
      rfl
    have hall : x.submitted.map (fun cs => right crypt encpw (encodeAll cs)) =
        x.verdicts ++ results (s.main.toMain.data ++ r.out) ++
          judge crypt encpw r.toChild.data := by
      rw [hanswered, hjudge, hresults]
      simp only [List.append_assoc]
    refine ⟨r.out, hflight.append hout, ?_, ?_⟩
    · rw [hall]
      exact List.prefix_append _ _
    · dsimp only
      rw [if_pos alive]
      exact ⟨rfl, htyped, ⟨hroom, hrest⟩, hinactive, hall⟩
  cases shadow_cases crypt encpw h with
  | read hc read =>
    obtain ⟨hrest, hout, hjudge⟩ := shadowRead_asked hstream read stays
    exact moves hrest hout hjudge
  | wake => exact moves hstream (Framing.carries_nil _ _) rfl
  | leave => cases stays

/-! ## The run -/

theorem judged_step {a : Action ShadowAction} {y z : System ShadowPhase × Answering}
    (hy : Judged crypt encpw y) (ha : a.Typed)
    (h : monitored (system debugUnlock parse (shadowBackend crypt encpw)) noteAnswering a y =
      some z) : Judged crypt encpw z := by
  obtain ⟨s, x⟩ := y
  obtain ⟨t, x'⟩ := z
  obtain ⟨hmove, hnote⟩ := monitored_eq_some.mp h
  change system debugUnlock parse (shadowBackend crypt encpw) a s = some t at hmove
  change x' = noteAnswering a s t x at hnote
  subst hnote
  cases system_cases debugUnlock parse _ hmove with
  | main hm => exact judged_main hy ha hm
  | child alive idle act stays => exact judged_child hy alive idle act stays
  | childExits =>
    obtain ⟨cut, hflight, hbegins, -⟩ := hy
    exact ⟨cut, hflight, hbegins, rfl⟩
  | @write n alive busy reader =>
    obtain ⟨cut, hflight, hbegins, hcut⟩ := hy
    dsimp only at hcut hflight hbegins
    rw [if_pos alive] at hcut
    obtain ⟨rfl, htyped, htold, hinactive, hanswered⟩ := hcut
    refine ⟨s.out.drop (n + 1), ?_⟩
    dsimp only
    rw [inFlight_write, if_pos alive]
    refine ⟨hflight, hbegins, rfl, htyped, ⟨htold.room, htold.stream⟩, hinactive, ?_⟩
    dsimp only
    rw [inFlight_write]
    exact hanswered
  | sigpipe => exact judged_childEnds hy
  | crash => exact judged_childEnds hy

theorem judged_start (child : ShadowPhase) (args : SwaylockArgs) {buffer : List UInt8}
    (h0 : buffer ≠ []) (hmax : buffer.length ≤ COMM_MAX_PAYLOAD) :
    Judged crypt encpw (System.start child args buffer, {}) :=
  ⟨[], Framing.carries_nil _ _, List.prefix_rfl, rfl, holds_initial h0,
    ⟨roomy_initial h0 hmax, Framing.carries_nil _ _⟩, rfl, rfl⟩

/-- **The verdicts are those on the passwords that were typed, in order.**  In every state of
every run with the shadow backend: what the main process has consumed, then what is on its
way, are the verdicts on the first passwords submitted; and while the child is there, the
verdicts on those that it has not read yet make the rest. -/
theorem verdicts_in_order (debugUnlock : Bool) (parse : CString → Option Json)
    (crypt : CString → CString → Option CString) (encpw : CString) (args : SwaylockArgs)
    {buffer : List UInt8} (h0 : buffer ≠ []) (hmax : buffer.length ≤ COMM_MAX_PAYLOAD)
    {as : List (Action ShadowAction)} (has : ∀ a ∈ as, a.Typed)
    {z : System ShadowPhase × Answering}
    (h : run (monitored (system debugUnlock parse (shadowBackend crypt encpw)) noteAnswering) as
      (.start .reading args buffer, {}) = some z) :
    (z.2.verdicts ++ results z.1.inFlight <+:
        z.2.submitted.map fun cs => right crypt encpw (encodeAll cs)) ∧
      (z.1.alive = true → z.2.submitted.map (fun cs => right crypt encpw (encodeAll cs)) =
        z.2.verdicts ++ results z.1.inFlight ++ judge crypt encpw z.1.main.toChild.data) := by
  obtain ⟨cut, -, hbegins, hcut⟩ := run_invariant_along (C := fun a _ => a.Typed)
    (fun _ _ _ hy ha h => judged_step hy ha h) (along_of_mem (fun a ha _ => has a ha) _) h
    (judged_start .reading args h0 hmax)
  split at hcut
  · rename_i alive
    obtain ⟨rfl, hjudging⟩ := hcut
    exact ⟨hbegins, fun _ => hjudging.answered⟩
  · rename_i dead
    refine ⟨List.IsPrefix.trans ?_ hbegins, fun alive => absurd alive dead⟩
    rw [System.inFlight, hcut, List.append_nil]
    exact (List.prefix_append_right_inj _).mpr
      ((frameFraming.items_prefix_append cut _).map _)

/-- A `crypt` for which only one letter is right. -/
def cryptLetter (password salt : CString) : Option CString :=
  some (if password = ascii "a" then salt else [])

/-- The wrong letter is typed and denied, and then the right one is on its way. -/
def letterRun : List (Action ShadowAction) :=
  let moves := List.replicate 3 (WriteCall.short 255)
  let reads := List.replicate 3 (ReadCall.short 255)
  [.main (.key {} (.other 0x62) 0x62), .main (.key { writes := moves } .Return 0x0D),
    .child (.read { reads }), .write 10, .child .wake, .main (.lock true), .main (.flush true),
    .main (.poll true), .main (.dispatched true), .main (.reply { reads }), .main .term,
    .main (.clock {}), .main (.timer {}), .main (.timer {}), .main (.timer {}), .main (.timer {}),
    .main (.flush true), .main (.poll true), .main (.key {} (.other 0x61) 0x61),
    .main (.key { writes := moves } .Return 0x0D), .child (.read { reads })]

set_option maxRecDepth 10000 in
theorem verdicts_in_order_letters :
    ∃ z b a, run (monitored (system false (fun _ => none) (shadowBackend cryptLetter (ascii "x")))
        noteAnswering) letterRun (.start .reading {} (List.replicate 64 0), {}) = some z ∧
      z.2.submitted = [[b], [a]] ∧ b.val = 0x62 ∧ a.val = 0x61 ∧
      z.2.verdicts ++ results z.1.inFlight =
        [[b], [a]].map fun cs => right cryptLetter (ascii "x") (encodeAll cs) := by
  have has : ∀ a ∈ letterRun, a.Typed := by
    intro a ha
    simp only [letterRun, List.mem_cons, List.not_mem_nil, or_false] at ha
    rcases ha with rfl | rfl | rfl | rfl | rfl | rfl | rfl | rfl | rfl | rfl | rfl | rfl | rfl |
      rfl | rfl | rfl | rfl | rfl | rfl | rfl | rfl
    all_goals
      first
      | trivial
      | exact (by decide : (0x62 : UInt32).toNat ≤ 0x10FFFF)
      | exact (by decide : (0x61 : UInt32).toNat ≤ 0x10FFFF)
      | exact (by decide : (0x0D : UInt32).toNat ≤ 0x10FFFF)
  obtain ⟨z, b, a, hz, hsub, hb, ha, halive, hrest⟩ : ∃ z b a, run (monitored
      (system false (fun _ => none) (shadowBackend cryptLetter (ascii "x"))) noteAnswering)
      letterRun (.start .reading {} (List.replicate 64 0), {}) = some z ∧
      z.2.submitted = [[b], [a]] ∧ b.val = 0x62 ∧ a.val = 0x61 ∧ z.1.alive = true ∧
      z.1.main.toChild.data = [] := ⟨_, _, _, rfl, rfl, rfl, rfl, rfl, rfl⟩
  have hall := (verdicts_in_order false (fun _ => none) cryptLetter (ascii "x") {}
    (by decide) (by decide) has hz).2 halive
  rw [hrest, hsub] at hall
  exact ⟨z, b, a, hz, hsub, hb, ha, by rw [hall]; exact (List.append_nil _).symm⟩

end SwaylockAuthd
