import SwaylockAuthd.Polling
import SwaylockAuthd.RenderFrame

/-!
# What the broker says is shown

An AUTH_EVENT leaves a message and a UI_LAYOUT a label and a button.  Both end the validation, so
the next frame shows them only if something else makes it draw.

* `commInFrame_authEvent`, `commInFrame_uiLayout`: what the two messages leave.
* `reservedDrawn_iff`: when the drawing pass uses the space of the sizing pass.
* `messages_shown_iff`: when the next frame shows the message or the label.
-/

namespace SwaylockAuthd

open Transition

variable (parse : CString → Option Json) (env : DrawEnv) (args : IndicatorArgs)

/-! ## The next frame -/

def ChildFrame.drawings : ChildFrame → List Drawing
  | .list _ => []
  | .indicator _ _ drawings => drawings

/-- What `render_frame` draws around the ring, given a buffer. -/
def drawn (s : SwaylockState) : List Drawing :=
  ((renderFrame env args s true).map ChildFrame.drawings).getD []

/-- A text is in the next frame. -/
def Shown (element : Element) (t : CString) (s : SwaylockState) : Prop :=
  t ∈ shownAs element (drawn env args s)

/-- Every element of the authd dialogue with a space of its own is drawn. -/
structure ReservedDrawn (s : SwaylockState) : Prop where
  label : 0 < (sizing env args s).labelBoxH →
    ∃ t, s.authdLayout.label = some t ∧ Shown env args .label t s
  button : 0 < (sizing env args s).buttonBoxH →
    ∃ t, s.authdLayout.button = some t ∧ Shown env args .button t s
  error : 0 < (sizing env args s).errorH →
    ∃ t, s.authdError = some t ∧ Shown env args .error t s
  image : ∀ qr, encodedQrcode env s = some qr →
    ∃ x size, .modules x size qr.dark ∈ drawn env args s
  code : isQrcode s = true → ∀ t, shownText s.authdLayout.qrCode = some t →
    Shown env args .qrCode t s

variable {env args} {s : SwaylockState}

theorem drawn_of_challenging (h : Challenging s) :
    drawn env args s = drawing env args s (sizing env args s) := by
  have hlist : renderList s = none := by
    rw [renderList, if_pos h.1, h.2]
  simp [drawn, renderFrame, hlist, ChildFrame.drawings]

theorem isQrcode_iff (h : Challenging s) :
    isQrcode s = true ↔ s.authdLayout.type = some (ascii "qrcode") := by
  simp [isQrcode, h.1, h.2]

theorem drawIndicator_iff (hshow : args.showIndicator = true) :
    drawIndicator args s = true ↔
      s.authState ≠ .idle ∨ s.inputState ≠ .idle ∨ args.indicatorIdleVisible = true := by
  simp [drawIndicator, hshow, or_assoc]

/-- After a message that ends the validation. -/
theorem drawIndicator_iff_of_idle (hshow : args.showIndicator = true)
    (hidle : s.authState = .idle) :
    drawIndicator args s = true ↔ s.inputState ≠ .idle ∨ args.indicatorIdleVisible = true := by
  rw [drawIndicator_iff hshow, or_iff_right fun hne => hne hidle]

theorem shown_label_iff (h : Challenging s) {t : CString} :
    Shown env args .label t s ↔ labelText s = some t ∧ drawIndicator args s = true := by
  rw [Shown, drawn_of_challenging h, mem_shownAs_label, and_iff_right h]

theorem shown_button_iff (h : Challenging s) {t : CString} :
    Shown env args .button t s ↔ buttonText s = some t ∧ drawIndicator args s = true := by
  rw [Shown, drawn_of_challenging h, mem_shownAs_button, and_iff_right h]

theorem shown_error_iff (h : Challenging s) {t : CString} :
    Shown env args .error t s ↔
      shownText s.authdError = some t ∧ (isQrcode s = true ∨ drawIndicator args s = true) := by
  rw [Shown, drawn_of_challenging h, mem_shownAs_error, and_iff_right h]

theorem labelText_eq (hq : ¬ isQrcode s = true) : labelText s = shownText s.authdLayout.label :=
  if_neg hq

theorem buttonText_eq (hq : ¬ isQrcode s = true) : buttonText s = shownText s.authdLayout.button :=
  if_neg hq

/-! ## The space and its use -/

/-- No text has a space of its own. -/
def NothingReserved (s : SwaylockState) : Prop :=
  shownText s.authdLayout.label = none ∧ shownText s.authdLayout.button = none ∧
    shownText s.authdError = none

instance : Decidable (NothingReserved s) := inferInstanceAs (Decidable (_ ∧ _ ∧ _))

/-- The image and the code of a QR code are drawn in any case. -/
theorem qrcode_drawn (hq : isQrcode s = true) :
    (∀ qr, encodedQrcode env s = some qr → ∃ x size, .modules x size qr.dark ∈ drawn env args s) ∧
      ∀ t, shownText s.authdLayout.qrCode = some t → Shown env args .qrCode t s := by
  have hc : Challenging s := by
    simp only [isQrcode, Bool.and_eq_true, decide_eq_true_eq] at hq
    exact hq.1
  constructor
  · intro qr hqr
    rw [drawn_of_challenging hc, drawing_qrcode hq, drawQrcode]
    simp [hqr]
  · intro t ht
    rw [Shown, drawn_of_challenging hc, drawing_qrcode hq, shownAs_drawQrcode, ht]
    simp

theorem reservedDrawn_of_draws (h : Challenging s)
    (hd : isQrcode s = true ∨ drawIndicator args s = true) : ReservedDrawn env args s where
  label hpos := by
    obtain ⟨t, ht⟩ := Option.isSome_iff_exists.mp (labelBoxH_pos.mp hpos).2
    obtain ⟨hq, hlabel, -⟩ := labelText_eq_some.mp ht
    exact ⟨t, hlabel, (shown_label_iff h).mpr ⟨ht, hd.resolve_left hq⟩⟩
  button hpos := by
    obtain ⟨t, ht⟩ := Option.isSome_iff_exists.mp (buttonBoxH_pos.mp hpos).2
    obtain ⟨hq, hbutton, -⟩ := buttonText_eq_some.mp ht
    exact ⟨t, hbutton, (shown_button_iff h).mpr ⟨ht, hd.resolve_left hq⟩⟩
  error hpos := by
    obtain ⟨t, ht⟩ := Option.isSome_iff_exists.mp (errorH_pos.mp hpos).2
    exact ⟨t, (shownText_eq_some.mp ht).1, (shown_error_iff h).mpr ⟨ht, hd⟩⟩
  image qr hqr := by
    have hq : isQrcode s = true := by
      by_contra hq
      rw [encodedQrcode, if_neg hq] at hqr
      cases hqr
    exact (qrcode_drawn hq).1 qr hqr
  code hq := (qrcode_drawn hq).2

/-- A text without a space. -/
theorem eq_none_of_not_pos {text : Option CString} {height : ℚ} (h : Challenging s)
    (hpos : 0 < height ↔ Challenging s ∧ text.isSome = true) (hnot : ¬ 0 < height) :
    text = none := by
  by_contra hne
  exact hnot (hpos.mpr ⟨h, Option.isSome_iff_ne_none.mpr hne⟩)

/-- Without a drawing there must be nothing to draw. -/
theorem nothingReserved_of_idle (h : Challenging s) (hq : ¬ isQrcode s = true)
    (hd : ¬ drawIndicator args s = true) (hr : ReservedDrawn env args s) : NothingReserved s := by
  have hlabel : ¬ 0 < labelBoxH env s := by
    intro hpos
    obtain ⟨t, -, ht⟩ := hr.label hpos
    exact hd ((shown_label_iff h).mp ht).2
  have hbutton : ¬ 0 < buttonBoxH env s := by
    intro hpos
    obtain ⟨t, -, ht⟩ := hr.button hpos
    exact hd ((shown_button_iff h).mp ht).2
  have herror : ¬ 0 < errorH env s := by
    intro hpos
    obtain ⟨t, -, ht⟩ := hr.error hpos
    exact ((shown_error_iff h).mp ht).2.elim hq hd
  refine ⟨?_, ?_, eq_none_of_not_pos h errorH_pos herror⟩
  · rw [← labelText_eq hq]
    exact eq_none_of_not_pos h labelBoxH_pos hlabel
  · rw [← buttonText_eq hq]
    exact eq_none_of_not_pos h buttonBoxH_pos hbutton

/-- **The drawing pass uses all the space**, or draws nothing at all. -/
theorem reservedDrawn_iff (h : Challenging s) :
    ReservedDrawn env args s ↔
      isQrcode s = true ∨ drawIndicator args s = true ∨ NothingReserved s := by
  constructor
  · intro hr
    by_cases hq : isQrcode s = true
    · exact Or.inl hq
    · by_cases hd : drawIndicator args s = true
      · exact Or.inr (Or.inl hd)
      · exact Or.inr (Or.inr (nothingReserved_of_idle h hq hd hr))
  · rintro (hq | hd | hn)
    · exact reservedDrawn_of_draws h (Or.inl hq)
    · exact reservedDrawn_of_draws h (Or.inr hd)
    · by_cases hq : isQrcode s = true
      · exact reservedDrawn_of_draws h (Or.inl hq)
      · refine ⟨fun hpos => ?_, fun hpos => ?_, fun hpos => ?_, fun qr hqr => ?_, fun hq' => ?_⟩
        · have hsome := (labelBoxH_pos.mp hpos).2
          rw [labelText_eq hq, hn.1] at hsome
          cases hsome
        · have hsome := (buttonBoxH_pos.mp hpos).2
          rw [buttonText_eq hq, hn.2.1] at hsome
          cases hsome
        · have hsome := (errorH_pos.mp hpos).2
          rw [hn.2.2] at hsome
          cases hsome
        · rw [encodedQrcode, if_neg hq] at hqr
          cases hqr
        · exact absurd hq' hq

/-! ## What the messages leave -/

/-- The JSON of a frame. -/
def Frame.json (f : Frame) : Option Json := f.buffer.bind fun b => parse (cstr b)

theorem cJSONParse_buffer (cenv : Env) (f : Frame) :
    cJSONParse parse cenv f.buffer = if cenv.json then f.json parse else none := rfl

/-- A string that is there is kept if there is memory for it. -/
theorem strdupItem_eq_some {cenv : Env} {n : Nat} {obj : Json} {name : String} {v : List UInt8}
    (h : obj.stringItem name = some v) :
    strdupItem cenv n obj name = some (cstr v) ↔ cenv.string n = true := by
  rw [strdupItem, h]
  cases cenv.string n <;> simp

/-- An AUTH_EVENT with a message. -/
theorem commInFrame_authEvent (cenv : Env) (s : SwaylockState) {f : Frame} {obj : Json}
    {msg : List UInt8} (hf : f.type = COMM_MSG_AUTH_EVENT) (hobj : f.json parse = some obj)
    (hmsg : obj.stringItem "msg" = some msg) :
    commInFrame parse cenv s f = damageState { s with
      authdError := if cenv.json = true ∧ cenv.string 0 = true then some (cstr msg) else none
      authState := .idle } := by
  have herror : ((cJSONParse parse cenv f.buffer).bind fun obj => strdupItem cenv 0 obj "msg") =
      if cenv.json = true ∧ cenv.string 0 = true then some (cstr msg) else none := by
    rw [cJSONParse_buffer]
    by_cases hj : cenv.json = true
    · rw [if_pos hj, hobj, Option.bind_some, strdupItem, hmsg]
      simp [hj]
    · simp [hj]
  unfold commInFrame commInSwitch
  rw [hf]
  show commInAuthEvent parse cenv s f.buffer = _
  rw [commInAuthEvent, herror]

/-- A UI_LAYOUT. -/
theorem commInFrame_uiLayout (cenv : Env) (s : SwaylockState) {f : Frame} {obj : Json}
    (hf : f.type = COMM_MSG_UI_LAYOUT) (hobj : f.json parse = some obj) :
    commInFrame parse cenv s f = damageState { s with
      authdLayout := if cenv.json then authdUiLayout cenv obj else {}
      authdError := none, authState := .idle, authdStage := .challenge } := by
  have hlayout : ((cJSONParse parse cenv f.buffer).map (authdUiLayout cenv)).getD {} =
      if cenv.json then authdUiLayout cenv obj else {} := by
    rw [cJSONParse_buffer, hobj]
    split <;> rfl
  unfold commInFrame commInSwitch
  rw [hf]
  show commInUiLayout parse cenv s f.buffer = _
  rw [commInUiLayout, hlayout]

/-! ## Messages -/

variable {cenv : Env} {f : Frame} {obj : Json}

/-- **The message of an AUTH_EVENT** is in the next frame, if there is memory for it and the
drawing pass draws. -/
theorem shown_authEvent (hshow : args.showIndicator = true) (h : Challenging s)
    {msg : List UInt8} (hf : f.type = COMM_MSG_AUTH_EVENT) (hobj : f.json parse = some obj)
    (hmsg : obj.stringItem "msg" = some msg) (hne : cstr msg ≠ []) :
    Shown env args .error (cstr msg) (commInFrame parse cenv s f) ↔
      (cenv.json = true ∧ cenv.string 0 = true) ∧
        (s.authdLayout.type = some (ascii "qrcode") ∨ s.inputState ≠ .idle ∨
          args.indicatorIdleVisible = true) := by
  have hn := commInFrame_authEvent parse cenv s hf hobj hmsg
  have hc : Challenging (commInFrame parse cenv s f) := by
    rw [hn]
    exact h
  have hidle : (commInFrame parse cenv s f).authState = .idle := by rw [hn]; rfl
  rw [shown_error_iff hc, isQrcode_iff hc, drawIndicator_iff_of_idle hshow hidle, hn]
  refine and_congr ?_ ?_
  · rw [shownText_eq_some, and_iff_left hne]
    show (if cenv.json = true ∧ cenv.string 0 = true then some (cstr msg) else none) = _ ↔ _
    split
    · rename_i hmem
      exact iff_of_true rfl hmem
    · rename_i hmem
      exact iff_of_false nofun hmem
  · rfl

/-- **The label of a UI_LAYOUT** is in the next frame, if there is memory for it and the drawing
pass draws. -/
theorem shown_uiLayout (hshow : args.showIndicator = true) (hactive : s.authdActive = true)
    {label : List UInt8} (hf : f.type = COMM_MSG_UI_LAYOUT) (hobj : f.json parse = some obj)
    (hlabel : obj.stringItem "label" = some label) (hne : cstr label ≠ [])
    (htype : (obj.stringItem "type").map cstr ≠ some (ascii "qrcode")) :
    Shown env args .label (cstr label) (commInFrame parse cenv s f) ↔
      (cenv.json = true ∧ cenv.string 1 = true) ∧
        (s.inputState ≠ .idle ∨ args.indicatorIdleVisible = true) := by
  have hn := commInFrame_uiLayout parse cenv s hf hobj
  have hc : Challenging (commInFrame parse cenv s f) := by
    rw [hn]
    exact ⟨hactive, rfl⟩
  have hq : ¬ isQrcode (commInFrame parse cenv s f) = true := by
    rw [isQrcode_iff hc, hn]
    show (if cenv.json = true then authdUiLayout cenv obj else {}).type ≠ _
    split
    · show strdupItem cenv 0 obj "type" ≠ _
      rw [strdupItem]
      split
      · exact htype
      · nofun
    · nofun
  have hidle : (commInFrame parse cenv s f).authState = .idle := by rw [hn]; rfl
  rw [shown_label_iff hc, labelText_eq hq, drawIndicator_iff_of_idle hshow hidle, hn]
  refine and_congr ?_ ?_
  · rw [shownText_eq_some, and_iff_left hne]
    show (if cenv.json = true then authdUiLayout cenv obj else {}).label = _ ↔ _
    split
    · rename_i hj
      rw [and_iff_right hj]
      exact strdupItem_eq_some hlabel
    · rename_i hj
      exact iff_of_false nofun fun hmem => hj hmem.1
  · rfl

/-- A message of the child that has something to say: the text of an AUTH_EVENT, or the label of a
layout that is not a QR code. -/
inductive Tells (s : SwaylockState) : MainEvent → Element → CString → Prop
  | authEvent {cenv : Env} {f : Frame} {obj : Json} {msg : List UInt8} (stage : Challenging s)
      (type : f.type = COMM_MSG_AUTH_EVENT) (json : f.json parse = some obj)
      (item : obj.stringItem "msg" = some msg) (ne : cstr msg ≠ []) :
      Tells s (.message cenv f) .error (cstr msg)
  | uiLayout {cenv : Env} {f : Frame} {obj : Json} {label : List UInt8}
      (active : s.authdActive = true) (type : f.type = COMM_MSG_UI_LAYOUT)
      (json : f.json parse = some obj) (item : obj.stringItem "label" = some label)
      (ne : cstr label ≠ [])
      (notQrcode : (obj.stringItem "type").map cstr ≠ some (ascii "qrcode")) :
      Tells s (.message cenv f) .label (cstr label)

/-- There is memory for the JSON of a message and for a text in it. -/
def HasMemory (a : MainEvent) (element : Element) : Prop :=
  match a with
  | .message cenv _ =>
    cenv.json = true ∧ cenv.string (if element = .label then 1 else 0) = true
  | _ => True

variable (env args)

/-- What the step says is in the next frame. -/
def ShowsMessage (a : MainEvent) (m : MainProcess) : Prop :=
  ∀ element t n, Tells parse m.state a element t → mainStep parse a m = some n →
    Shown env args element t n.state

/-- What the step says is kept, and the drawing pass draws: a QR code, a ring for the last key, or
a ring that is always shown. -/
def MessageVisible (a : MainEvent) (m : MainProcess) : Prop :=
  ∀ element t, Tells parse m.state a element t →
    HasMemory a element ∧
      ((element = .error ∧ m.state.authdLayout.type = some (ascii "qrcode")) ∨
        m.state.inputState ≠ .idle ∨ args.indicatorIdleVisible = true)

/-- The drawing pass draws, or there is no text to draw. -/
def SpaceVisible (s : SwaylockState) : Prop :=
  s.authdLayout.type = some (ascii "qrcode") ∨ s.authState ≠ .idle ∨ s.inputState ≠ .idle ∨
    args.indicatorIdleVisible = true ∨ NothingReserved s

variable {env args}

theorem shown_told (hshow : args.showIndicator = true) {a : MainEvent} {m n : MainProcess}
    {element : Element} {t : CString} (ha : Tells parse m.state a element t)
    (h : mainStep parse a m = some n) :
    Shown env args element t n.state ↔
      HasMemory a element ∧
        ((element = .error ∧ m.state.authdLayout.type = some (ascii "qrcode")) ∨
          m.state.inputState ≠ .idle ∨ args.indicatorIdleVisible = true) := by
  cases ha with
  | @authEvent cenv f obj msg stage type json item ne =>
    rw [mainStep, if_neg (by rw [type]; decide)] at h
    cases h
    rw [shown_authEvent parse hshow stage type json item ne]
    simp [HasMemory]
  | @uiLayout cenv f obj label active type json item ne notQrcode =>
    rw [mainStep, if_neg (by rw [type]; decide)] at h
    cases h
    rw [shown_uiLayout parse hshow active type json item ne notQrcode]
    simp [HasMemory]

theorem showsMessage_iff (hshow : args.showIndicator = true) (a : MainEvent) (m : MainProcess) :
    ShowsMessage parse env args a m ↔ MessageVisible parse args a m := by
  constructor
  · intro h element t ha
    have hstep : ∃ n, mainStep parse a m = some n := by
      cases ha with
      | authEvent stage type => exact ⟨_, by rw [mainStep, if_neg (by rw [type]; decide)]⟩
      | uiLayout active type => exact ⟨_, by rw [mainStep, if_neg (by rw [type]; decide)]⟩
    obtain ⟨n, hn⟩ := hstep
    exact (shown_told parse hshow ha hn).mp (h element t n ha hn)
  · intro h element t n ha hn
    exact (shown_told parse hshow ha hn).mpr (h element t ha)

theorem reservedDrawn_iff_visible (hshow : args.showIndicator = true) (h : Challenging s) :
    ReservedDrawn env args s ↔ SpaceVisible args s := by
  rw [reservedDrawn_iff h, isQrcode_iff h, drawIndicator_iff hshow, or_assoc, or_assoc]
  rfl

/-- **When the broker's messages are shown**, along every run: with a QR code, while the ring is
shown for a key, or if it is always shown; and when all reserved space is drawn into. -/
theorem messages_shown_iff (hshow : args.showIndicator = true) (as : List MainEvent)
    (m : MainProcess) :
    (Along (mainStep parse) (ShowsMessage parse env args) as m ↔
      Along (mainStep parse) (MessageVisible parse args) as m) ∧
    (Throughout (mainStep parse)
        (fun n => Challenging n.state → ReservedDrawn env args n.state) as m ↔
      Throughout (mainStep parse)
        (fun n => Challenging n.state → SpaceVisible args n.state) as m) := by
  constructor
  · have hsame : ShowsMessage parse env args = MessageVisible parse args :=
      funext₂ fun a n => propext (showsMessage_iff parse hshow a n)
    rw [hsame]
  · have hsame : (fun n : MainProcess => Challenging n.state → ReservedDrawn env args n.state) =
        fun n => Challenging n.state → SpaceVisible args n.state :=
      funext fun n => propext (forall_congr' fun h => reservedDrawn_iff_visible hshow h)
    rw [hsame]

/-! ## A dialogue -/

/-- A surface of 800 by 600, letters of 8 by 10, no `qrencode` and no keymap. -/
def plainEnv : DrawEnv where
  width := 800
  height := 600
  scale := 1
  scale_pos := Nat.one_pos
  fontExtents := { height := 10, descent := 2, nonneg := by decide +kernel }
  textExtents t := { width := 8 * t.length, xBearing := 0 }
  encodeString _ := none
  keymap := none

def brokersJson : Json :=
  .array [.object [field "id" (str "local"), field "name" (str "Local")]]

def formJson : Json :=
  .object [field "type" (str "form"), field "label" (str "Password"),
    field "entry" (str "chars_password")]

def deniedJson : Json := .object [field "msg" (str "Wrong password")]

/-- The texts of the dialogue. -/
def dialogueParse : CString → Option Json := parseText [brokersJson, formJson, deniedJson]

/-- A layout is shown and a password is submitted. -/
def submittedRun : List MainEvent :=
  [.message {} ⟨COMM_MSG_BROKERS, compact brokersJson⟩,
    .message {} ⟨COMM_MSG_UI_LAYOUT, compact formJson⟩, .key {} (.other 0x61) 0x61,
    .key { writes := List.replicate 3 (.short 7) } .Return 0x0D]

def deniedEvent : MainEvent := .message {} ⟨COMM_MSG_AUTH_EVENT, compact deniedJson⟩

set_option maxRecDepth 10000 in
/-- **The message that a password is wrong is not shown**: space is reserved for it, and nothing
is drawn. -/
theorem message_not_shown :
    ∃ m n, run (mainStep dialogueParse) submittedRun ⟨.start {} (List.replicate 1024 0), {}⟩ =
        some m ∧
      Tells dialogueParse m.state deniedEvent .error (ascii "Wrong password") ∧
      mainStep dialogueParse deniedEvent m = some n ∧ Challenging n.state ∧
      0 < (sizing plainEnv {} n.state).errorH ∧ 0 < (sizing plainEnv {} n.state).labelBoxH ∧
      drawn plainEnv {} n.state = [] := by
  refine ⟨_, _, rfl, ?_, rfl, ⟨rfl, rfl⟩, ?_, ?_, ?_⟩
  · exact @Tells.authEvent dialogueParse _ {} ⟨COMM_MSG_AUTH_EVENT, compact deniedJson⟩ deniedJson
      (ascii "Wrong password") ⟨rfl, rfl⟩ rfl rfl rfl (by decide)
  · exact errorH_pos.mpr ⟨⟨rfl, rfl⟩, rfl⟩
  · exact labelBoxH_pos.mpr ⟨⟨rfl, rfl⟩, rfl⟩
  · rw [drawn_of_challenging ⟨rfl, rfl⟩, drawing_idle (by decide) (by decide)]

/-- With a ring that is always shown, the dialogue is shown. -/
theorem messages_shown_idle_visible :
    Along (mainStep dialogueParse)
        (ShowsMessage dialogueParse plainEnv { indicatorIdleVisible := true })
        (submittedRun ++ [deniedEvent]) ⟨.start {} (List.replicate 1024 0), {}⟩ ∧
      Throughout (mainStep dialogueParse)
        (fun n => Challenging n.state →
          ReservedDrawn plainEnv { indicatorIdleVisible := true } n.state)
        (submittedRun ++ [deniedEvent]) ⟨.start {} (List.replicate 1024 0), {}⟩ := by
  have hmem : ∀ a ∈ submittedRun ++ [deniedEvent], ∀ element, HasMemory a element := by
    intro a ha element
    simp only [submittedRun, deniedEvent, List.cons_append, List.nil_append, List.mem_cons,
      List.not_mem_nil, or_false] at ha
    rcases ha with rfl | rfl | rfl | rfl | rfl
    · exact ⟨rfl, rfl⟩
    · exact ⟨rfl, rfl⟩
    · trivial
    · trivial
    · exact ⟨rfl, rfl⟩
  have hiff := @messages_shown_iff dialogueParse plainEnv { indicatorIdleVisible := true } rfl
    (submittedRun ++ [deniedEvent]) ⟨.start {} (List.replicate 1024 0), {}⟩
  constructor
  · exact hiff.1.mpr
      (along_of_mem (fun a ha m element t _ => ⟨hmem a ha element, Or.inr (Or.inr rfl)⟩) _)
  · exact hiff.2.mpr fun bs _ n _ _ => Or.inr (Or.inr (Or.inr (Or.inl rfl)))

end SwaylockAuthd
