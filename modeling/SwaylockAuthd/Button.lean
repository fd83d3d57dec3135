import SwaylockAuthd.Messages

/-!
# The button of a layout

`swaylock_handle_key` presses the button with `Tab` if the layout has one; `render_frame` has
conditions of its own for the box.

* `handleKey_tab`: what `Tab` does in the CHALLENGE stage.
* `buttonAgrees_iff`: when that is the button that is drawn.
* `tab_button_iff`: the same along every run.
-/

namespace SwaylockAuthd

open Transition

variable {env : DrawEnv} {args : IndicatorArgs} {s : SwaylockState}

/-- The frame of the button. -/
def buttonFrame : Frame := ⟨COMM_MSG_BUTTON, []⟩

/-- What the child makes of it. -/
theorem event_buttonFrame :
    buttonFrame.event = some (.object [field "type" (str "reselectAuthMode"),
      field "reselectAuthMode" (.object [])]) := rfl

/-! ## `Tab` -/

/-- `Tab` writes the frame of the button, and nothing else. -/
def TabPresses (s : SwaylockState) : Prop :=
  ∀ env p codepoint, p.reader = true → buttonFrame.bytes.length ≤ writeMoves env.writes →
    swaylockHandleKey env s p .Tab codepoint =
      .running (damageState s) { p with data := p.data ++ buttonFrame.bytes }

/-- `Tab` is a key with a code point. -/
def TabTypes (s : SwaylockState) : Prop :=
  ∀ env p codepoint,
    swaylockHandleKey env s p .Tab codepoint = .running (textKey env s codepoint) p

/-- **What `Tab` does in the CHALLENGE stage.** -/
theorem handleKey_tab (h : Challenging s) (cenv : Env) (p : Pipe) (codepoint : UInt32) :
    swaylockHandleKey cenv s p .Tab codepoint =
      if s.authdLayout.button ≠ none then
        sendKey cenv (damageState s) p COMM_MSG_BUTTON none 0
      else .running (textKey cenv s codepoint) p := by
  rw [swaylockHandleKey, authdHandleKey, if_pos h.1, h.2]
  by_cases hb : s.authdLayout.button = none
  · simp [hb, passwordHandleKey]
  · simp [hb]

theorem tabPresses_iff (h : Challenging s) : TabPresses s ↔ s.authdLayout.button ≠ none := by
  constructor
  · intro hpress hb
    have hrun := hpress { writes := List.replicate 5 (.short 7) } {} 9 rfl (by decide)
    rw [handleKey_tab h, if_neg (not_not.mpr hb)] at hrun
    injection hrun with _ hpipe
    exact absurd (congrArg Pipe.data hpipe) (by decide)
  · intro hb cenv p codepoint hreader hmoves
    have hwrite := @commMainWrite_returns cenv p COMM_MSG_BUTTON none 0 hreader hmoves
    rw [handleKey_tab h, if_pos hb, sendKey, hwrite]
    rfl

theorem tabTypes_of_no_button (h : Challenging s) (hb : s.authdLayout.button = none) :
    TabTypes s := by
  intro cenv p codepoint
  rw [handleKey_tab h, if_neg (not_not.mpr hb)]

/-! ## Two conditions for one button -/

/-- A button is drawn in any layout but a QR code, if it has a text. -/
theorem buttonBoxH_pos_iff (h : Challenging s) :
    0 < (sizing env args s).buttonBoxH ↔
      s.authdLayout.type ≠ some (ascii "qrcode") ∧ s.authdLayout.button ≠ none ∧
        s.authdLayout.button ≠ some [] := by
  rw [sizing_buttonBoxH, buttonBoxH_pos, and_iff_right h, Option.isSome_iff_exists]
  constructor
  · rintro ⟨t, ht⟩
    obtain ⟨hq, hb, hne⟩ := buttonText_eq_some.mp ht
    rw [hb]
    exact ⟨fun htype => hq ((isQrcode_iff h).mpr htype), nofun, fun he => hne (Option.some.inj he)⟩
  · rintro ⟨htype, hb, hne⟩
    obtain ⟨t, ht⟩ := Option.ne_none_iff_exists'.mp hb
    rw [ht] at hne
    refine ⟨t, buttonText_eq_some.mpr ⟨fun hq => htype ((isQrcode_iff h).mp hq), ht, ?_⟩⟩
    rintro rfl
    exact hne rfl

variable (env args)

/-- `Tab` presses the button exactly if there is a box for it, and types otherwise. -/
def ButtonAgrees (s : SwaylockState) : Prop :=
  (TabPresses s ↔ 0 < (sizing env args s).buttonBoxH) ∧
    (¬ 0 < (sizing env args s).buttonBoxH → TabTypes s)

/-- The layout has no button, or one with a text beside no QR code. -/
def ButtonPlain (s : SwaylockState) : Prop :=
  s.authdLayout.button = none ∨
    (s.authdLayout.button ≠ some [] ∧ s.authdLayout.type ≠ some (ascii "qrcode"))

variable {env args}

/-- **When `Tab` presses the button that is drawn.** -/
theorem buttonAgrees_iff (h : Challenging s) : ButtonAgrees env args s ↔ ButtonPlain s := by
  rw [ButtonAgrees, tabPresses_iff h, buttonBoxH_pos_iff h]
  constructor
  · rintro ⟨hiff, -⟩
    by_cases hb : s.authdLayout.button = none
    · exact Or.inl hb
    · obtain ⟨hq, -, hne⟩ := hiff.mp hb
      exact Or.inr ⟨hne, hq⟩
  · rintro (hb | ⟨hne, hq⟩)
    · exact ⟨iff_of_false (not_not.mpr hb) fun hn => hn.2.1 hb, fun _ => tabTypes_of_no_button h hb⟩
    · refine ⟨⟨fun hb => ⟨hq, hb, hne⟩, fun hn => hn.2.1⟩, fun hn => ?_⟩
      refine tabTypes_of_no_button h ?_
      by_contra hb
      exact hn ⟨hq, hb, hne⟩

/-- **`Tab` presses the button that is drawn**, along every run, exactly while no layout has a
button without a text or beside a QR code; the button asks for another authentication mode. -/
theorem tab_button_iff (parse : CString → Option Json) (as : List MainEvent) (m : MainProcess) :
    (Throughout (mainStep parse)
        (fun n => Challenging n.state → ButtonAgrees env args n.state) as m ↔
      Throughout (mainStep parse) (fun n => Challenging n.state → ButtonPlain n.state) as m) ∧
    buttonFrame.event = some (.object [field "type" (str "reselectAuthMode"),
      field "reselectAuthMode" (.object [])]) := by
  have hsame : (fun n : MainProcess => Challenging n.state → ButtonAgrees env args n.state) =
      fun n => Challenging n.state → ButtonPlain n.state :=
    funext fun n => propext (forall_congr' fun h => buttonAgrees_iff h)
  rw [hsame]
  exact ⟨Iff.rfl, event_buttonFrame⟩

/-! ## A QR code with a button -/

def qrcodeJson : Json :=
  .object [field "type" (str "qrcode"), field "content" (str "https"), field "wait" (str "true"),
    field "button" (str "Skip")]

set_option maxRecDepth 10000 in
/-- **A button that is not drawn is pressed.** -/
theorem tab_presses_undrawn :
    ∃ m, run (mainStep (parseText [brokersJson, qrcodeJson]))
        [.message {} ⟨COMM_MSG_BROKERS, compact brokersJson⟩,
          .message {} ⟨COMM_MSG_UI_LAYOUT, compact qrcodeJson⟩]
        ⟨.start {} (List.replicate 1024 0), {}⟩ = some m ∧
      Challenging m.state ∧ ¬ 0 < (sizing plainEnv {} m.state).buttonBoxH ∧
      TabPresses m.state ∧ ¬ ButtonAgrees plainEnv {} m.state := by
  have hstate : ∃ m, run (mainStep (parseText [brokersJson, qrcodeJson]))
      [.message {} ⟨COMM_MSG_BROKERS, compact brokersJson⟩,
        .message {} ⟨COMM_MSG_UI_LAYOUT, compact qrcodeJson⟩]
      ⟨.start {} (List.replicate 1024 0), {}⟩ = some m ∧ Challenging m.state ∧
      m.state.authdLayout.type = some (ascii "qrcode") ∧
      m.state.authdLayout.button = some (ascii "Skip") :=
    ⟨_, rfl, ⟨rfl, rfl⟩, rfl, rfl⟩
  obtain ⟨m, hrun, hc, htype, hbutton⟩ := hstate
  have hbox : ¬ 0 < (sizing plainEnv {} m.state).buttonBoxH :=
    fun hpos => ((buttonBoxH_pos_iff hc).mp hpos).1 htype
  have hpress : TabPresses m.state := (tabPresses_iff hc).mpr (by rw [hbutton]; nofun)
  exact ⟨m, hrun, hc, hbox, hpress, fun hagrees => hbox (hagrees.1.mp hpress)⟩

end SwaylockAuthd
