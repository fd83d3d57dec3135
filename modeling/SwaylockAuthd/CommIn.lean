import SwaylockAuthd.Comm.Fragmentation
import SwaylockAuthd.Json
import SwaylockAuthd.Password

/-!
# `comm_in`: the messages of the child

`commInSwitch` is the switch over the message type, `commIn` the callback of the
event loop around it.

* `commInFrame`: the switch on the buffer `comm_read` makes of a frame.
* `commInFrame_step`: what a frame means for the authentication: it unlocks, it is a
  failed attempt, it ends `AUTH_STATE_VALIDATING`, or it has no effect on it.
* `commIn_cases`: how the callback ends.
-/

namespace SwaylockAuthd

variable (parse : CString → Option Json)

/-! ## The messages -/

/-- `cJSON_Parse` of a payload that may be `NULL`. -/
def cJSONParse (env : Env) (payload : Option (List UInt8)) : Option Json :=
  if env.json then payload.bind fun b => parse (cstr b) else none

/-- `strdup` of the string of a member; `n` numbers the calls of one callback. -/
def strdupItem (env : Env) (n : Nat) (item : Json) (name : String) : Option CString :=
  if env.string n then (item.stringItem name).map cstr else none

/-- The number of entries of a list that are kept. -/
def authdListMax : Nat := 256

/-- An entry of a BROKERS message. -/
def authdBroker (env : Env) (x : Json × Nat) : AuthdBroker :=
  { id := strdupItem env (2 * x.2) x.1 "id", name := strdupItem env (2 * x.2 + 1) x.1 "name" }

/-- An entry of an AUTH_MODES message. -/
def authdAuthMode (env : Env) (x : Json × Nat) : AuthdAuthMode :=
  { id := strdupItem env (2 * x.2) x.1 "id", label := strdupItem env (2 * x.2 + 1) x.1 "label" }

/-- The layout of a UI_LAYOUT message. -/
def authdUiLayout (env : Env) (obj : Json) : AuthdUiLayout :=
  { type := strdupItem env 0 obj "type"
    label := strdupItem env 1 obj "label"
    button := strdupItem env 2 obj "button"
    entry := strdupItem env 3 obj "entry"
    wait := (obj.stringItem "wait").map cstr = some (ascii "true")
    qrContent := strdupItem env 4 obj "content"
    qrCode := strdupItem env 5 obj "code" }

/-- `COMM_MSG_AUTH_RESULT`. -/
def commInAuthResult (env : Env) (s : SwaylockState) (payload : Option (List UInt8))
    (len : Nat) : SwaylockState :=
  if 1 ≤ len ∧ (payload.getD []).head? = some 0x01 then { s with runDisplay := false }
  else
    let s := scheduleAuthIdle env { s with authState := .invalid }
    damageState { s with failedAttempts := s.failedAttempts + 1 }

/-- `COMM_MSG_BROKERS`. -/
def commInBrokers (env : Env) (s : SwaylockState) (payload : Option (List UInt8)) :
    SwaylockState :=
  let s := { s with authdBrokers := none, authdNumBrokers := 0, authdSelBroker := 0 }
  match cJSONParse parse env payload with
  | some (.array items) =>
    if env.array then
      let brokers := ((items.take authdListMax).zipIdx).map (authdBroker env)
      damageState { s with
        authdBrokers := some brokers, authdNumBrokers := brokers.length
        authdActive := true, authdStage := .broker }
    else s
  | _ => damageState { s with authdActive := true, authdStage := .broker }

/-- `COMM_MSG_AUTH_MODES`. -/
def commInAuthModes (env : Env) (s : SwaylockState) (payload : Option (List UInt8)) :
    SwaylockState :=
  let s := { s with authdAuthModes := none, authdNumAuthModes := 0, authdSelAuthMode := 0 }
  match cJSONParse parse env payload with
  | some (.array items) =>
    if env.array then
      let modes := ((items.take authdListMax).zipIdx).map (authdAuthMode env)
      damageState { s with
        authdAuthModes := some modes, authdNumAuthModes := modes.length
        authdActive := true, authdStage := .authMode }
    else s
  | _ => damageState { s with authdActive := true, authdStage := .authMode }

/-- `COMM_MSG_UI_LAYOUT`. -/
def commInUiLayout (env : Env) (s : SwaylockState) (payload : Option (List UInt8)) :
    SwaylockState :=
  let layout := ((cJSONParse parse env payload).map (authdUiLayout env)).getD {}
  damageState { s with
    authdLayout := layout, authdError := none, authState := .idle, authdStage := .challenge }

/-- `COMM_MSG_STAGE`. -/
def commInStage (env : Env) (s : SwaylockState) (payload : Option (List UInt8))
    (len : Nat) : SwaylockState :=
  if 1 ≤ len then
    let newStage := AuthdStage.ofByte ((payload.getD []).headD 0)
    let s :=
      if s.authState = .validating then
        let s := scheduleAuthIdle env { s with authState := .invalid }
        { s with failedAttempts := s.failedAttempts + 1 }
      else s
    damageState { s with authdStage := newStage }
  else s

/-- `COMM_MSG_AUTH_EVENT`. -/
def commInAuthEvent (env : Env) (s : SwaylockState) (payload : Option (List UInt8)) :
    SwaylockState :=
  let error := (cJSONParse parse env payload).bind fun obj => strdupItem env 0 obj "msg"
  damageState { s with authdError := error, authState := .idle }

/-- The switch of `comm_in`. -/
def commInSwitch (env : Env) (s : SwaylockState) (type : Int) (payload : Option (List UInt8))
    (len : Nat) : SwaylockState :=
  if type = COMM_MSG_AUTH_RESULT.toNat then commInAuthResult env s payload len
  else if type = COMM_MSG_BROKERS.toNat then commInBrokers parse env s payload
  else if type = COMM_MSG_AUTH_MODES.toNat then commInAuthModes parse env s payload
  else if type = COMM_MSG_UI_LAYOUT.toNat then commInUiLayout parse env s payload
  else if type = COMM_MSG_STAGE.toNat then commInStage env s payload len
  else if type = COMM_MSG_AUTH_EVENT.toNat then commInAuthEvent parse env s payload
  else s

/-- The switch on a frame. -/
def commInFrame (env : Env) (s : SwaylockState) (f : Frame) : SwaylockState :=
  commInSwitch parse env s f.type.toNat f.buffer f.payload.length

/-! ## What a frame means for the authentication -/

/-- The frame that unlocks. -/
def Grants (f : Frame) : Prop := f.type = COMM_MSG_AUTH_RESULT ∧ f.payload.head? = some 0x01

instance (f : Frame) : Decidable (Grants f) := by
  unfold Grants
  infer_instance

/-- A STAGE frame that is taken for a failed attempt. -/
def Retries (s : SwaylockState) (f : Frame) : Prop :=
  f.type = COMM_MSG_STAGE ∧ f.payload ≠ [] ∧ s.authState = .validating

instance (s : SwaylockState) (f : Frame) : Decidable (Retries s f) := by
  unfold Retries
  infer_instance

/-- A failed attempt. -/
def reject (env : Env) (s : SwaylockState) : SwaylockState :=
  let s := scheduleAuthIdle env { s with authState := .invalid }
  { s with failedAttempts := s.failedAttempts + 1 }

/-- `t` differs from `s` at most in what the authd stages show. -/
def Informs (s t : SwaylockState) : Prop :=
  t = { s with
    authdActive := t.authdActive, authdStage := t.authdStage, authdBrokers := t.authdBrokers
    authdNumBrokers := t.authdNumBrokers, authdSelBroker := t.authdSelBroker
    authdAuthModes := t.authdAuthModes, authdNumAuthModes := t.authdNumAuthModes
    authdSelAuthMode := t.authdSelAuthMode, authdLayout := t.authdLayout
    authdError := t.authdError, damage := t.damage }

theorem Informs.refl (s : SwaylockState) : Informs s s := rfl

/-- What does not look at the fields of the authd stages. -/
theorem Informs.keep {α : Type} {s t : SwaylockState} (h : Informs s t) (g : SwaylockState → α)
    (hg : ∀ a st b n x m k y l e d, g { s with
      authdActive := a, authdStage := st, authdBrokers := b, authdNumBrokers := n
      authdSelBroker := x, authdAuthModes := m, authdNumAuthModes := k, authdSelAuthMode := y
      authdLayout := l, authdError := e, damage := d } = g s) : g t = g s := by
  unfold Informs at h
  exact (congrArg g h).trans (hg _ _ _ _ _ _ _ _ _ _ _)

/-- What a frame does. -/
inductive FrameStep (env : Env) (s : SwaylockState) (f : Frame) : SwaylockState → Prop
  | granted (h : Grants f) : FrameStep env s f { s with runDisplay := false }
  | denied {t : SwaylockState} (type : f.type = COMM_MSG_AUTH_RESULT) (h : ¬ Grants f)
      (keep : Informs (reject env s) t) : FrameStep env s f t
  | retried {t : SwaylockState} (h : Retries s f) (keep : Informs (reject env s) t) :
      FrameStep env s f t
  | settled {t : SwaylockState} (h : f.type = COMM_MSG_UI_LAYOUT ∨ f.type = COMM_MSG_AUTH_EVENT)
      (keep : Informs { s with authState := .idle } t) : FrameStep env s f t
  | informed {t : SwaylockState} (type : f.type ≠ COMM_MSG_AUTH_RESULT) (h : ¬ Retries s f)
      (keep : Informs s t) : FrameStep env s f t

theorem head?_buffer (f : Frame) : (f.buffer.getD []).head? = f.payload.head? := by
  unfold Frame.buffer
  cases hp : f.payload with
  | nil => rfl
  | cons b l => rfl

theorem informs_brokers (env : Env) (s : SwaylockState) (payload : Option (List UInt8)) :
    Informs s (commInBrokers parse env s payload) := by
  unfold commInBrokers
  dsimp only
  split
  · split <;> rfl
  · rfl

theorem informs_authModes (env : Env) (s : SwaylockState) (payload : Option (List UInt8)) :
    Informs s (commInAuthModes parse env s payload) := by
  unfold commInAuthModes
  dsimp only
  split
  · split <;> rfl
  · rfl

theorem frameStep_authResult (env : Env) (s : SwaylockState) {f : Frame}
    (hf : f.type = COMM_MSG_AUTH_RESULT) :
    FrameStep env s f (commInAuthResult env s f.buffer f.payload.length) := by
  unfold commInAuthResult
  rw [head?_buffer]
  by_cases hg : Grants f
  · have hlen : 1 ≤ f.payload.length := by
      cases hp : f.payload with
      | nil => rw [Grants, hp] at hg; simp at hg
      | cons b l => simp
    rw [if_pos ⟨hlen, hg.2⟩]
    exact .granted hg
  · rw [if_neg fun h => hg ⟨hf, h.2⟩]
    exact .denied hf hg rfl

theorem frameStep_stage (env : Env) (s : SwaylockState) {f : Frame} (hf : f.type = COMM_MSG_STAGE) :
    FrameStep env s f (commInStage env s f.buffer f.payload.length) := by
  have htype : f.type ≠ COMM_MSG_AUTH_RESULT := by rw [hf]; decide
  unfold commInStage
  by_cases hp : f.payload = []
  · have hlen : ¬ 1 ≤ f.payload.length := by simp [hp]
    rw [if_neg hlen]
    exact .informed htype (fun h => h.2.1 hp) (Informs.refl s)
  · have hlen : 1 ≤ f.payload.length := List.length_pos_iff.mpr hp
    rw [if_pos hlen]
    by_cases hv : s.authState = .validating
    · rw [if_pos hv]
      exact .retried ⟨hf, hp, hv⟩ rfl
    · rw [if_neg hv]
      exact .informed htype (fun h => hv h.2.2) rfl

/-- The type of a frame, as the switch compares it. -/
theorem toNat_type_eq_iff {f : Frame} {b : UInt8} :
    (f.type.toNat : Int) = b.toNat ↔ f.type = b := by
  rw [Int.natCast_inj]
  exact UInt8.toNat_inj

/-- The result of `comm_read` for a frame is positive. -/
theorem toNat_type_pos {f : Frame} (h : f.type ≠ 0) : ¬ (f.type.toNat : Int) ≤ 0 := by
  intro hle
  exact h (UInt8.toNat_inj.mp (by simpa using hle))

/-- **What a frame does** to the main process. -/
theorem commInFrame_step (env : Env) (s : SwaylockState) (f : Frame) :
    FrameStep env s f (commInFrame parse env s f) := by
  unfold commInFrame commInSwitch
  simp only [toNat_type_eq_iff]
  split
  · rename_i h
    exact frameStep_authResult env s h
  · rename_i hne
    have quiet : ∀ {b : UInt8}, f.type = b → b ≠ COMM_MSG_STAGE → ¬ Retries s f :=
      fun hb hs hr => hs (hb.symm.trans hr.1)
    split
    · rename_i h
      exact .informed hne (quiet h (by decide)) (informs_brokers parse env s _)
    · split
      · rename_i h
        exact .informed hne (quiet h (by decide)) (informs_authModes parse env s _)
      · split
        · rename_i h
          exact .settled (Or.inl h) rfl
        · split
          · rename_i h
            exact frameStep_stage env s h
          · rename_i hstage
            split
            · rename_i h
              exact .settled (Or.inr h) rfl
            · exact .informed hne (fun hr => hstage hr.1) (Informs.refl s)

/-- Only a list makes the authd stages active. -/
theorem authdActive_commInFrame (env : Env) (s : SwaylockState) {f : Frame}
    (h1 : f.type ≠ COMM_MSG_BROKERS) (h2 : f.type ≠ COMM_MSG_AUTH_MODES) :
    (commInFrame parse env s f).authdActive = s.authdActive := by
  unfold commInFrame commInSwitch
  simp only [toNat_type_eq_iff, h1, h2, if_false]
  split
  · unfold commInAuthResult
    split <;> rfl
  · split
    · rfl
    · split
      · unfold commInStage
        split
        · split <;> rfl
        · rfl
      · split <;> rfl

/-! ## The callback -/

/-- The events `poll` reports for a file descriptor. -/
structure Revents where
  pollin : Bool := false
  pollhup : Bool := false
  pollerr : Bool := false
  deriving DecidableEq, Repr

/-- How `comm_in` ends: it returns, calls `exit(EXIT_FAILURE)`, or waits in `read`. -/
inductive CommIn
  | running (s : SwaylockState) (toMain : Pipe)
  | exited
  | blocked

theorem CommIn.running_inj {s t : SwaylockState} {p q : Pipe} (h : running s p = running t q) :
    s = t ∧ p = q := by
  injection h with hs hp
  exact ⟨hs, hp⟩

/-- `comm_in`. -/
def commIn (env : Env) (mask : Revents) (s : SwaylockState) (toMain : Pipe) : CommIn :=
  if mask.pollerr then .exited
  else if ¬ mask.pollin then
    if mask.pollhup then .exited else .running s toMain
  else
    match commRead env.payload env.reads toMain with
    | none => .blocked
    | some r =>
      if r.ret ≤ 0 then .exited
      else .running (commInSwitch parse env s r.ret r.payload (r.len.getD 0)) r.pipe

/-- What `poll` reports for the read end of a pipe. -/
def Pipe.revents (p : Pipe) : Revents :=
  { pollin := p.data ≠ [], pollhup := ! p.writer }

/-- Why `comm_in` calls `exit` on a pipe that `poll` reported readable. -/
inductive CommInExits (env : Env) (p : Pipe) : Prop
  | typeZero {f : Frame} {rest : List UInt8} (head : frameHead p.data = .item f rest)
      (zero : f.type = 0)
  | tooLarge (head : frameHead p.data = .bad)
  | ended (head : frameHead p.data = .more) (closed : p.writer = false)
  | failed (why : .error ∈ env.reads ∨ env.payload = false)

/-- **How `comm_in` ends** on a pipe that `poll` reported readable. -/
theorem commIn_cases (env : Env) (s : SwaylockState) (p : Pipe) {mask : Revents}
    (hin : mask.pollin = true) (herr : mask.pollerr = false) :
    (commIn parse env mask s p = .blocked ∧ commRead env.payload env.reads p = none) ∨
    (commIn parse env mask s p = .exited ∧ CommInExits env p) ∨
    (∃ f rest, frameHead p.data = .item f rest ∧ f.type ≠ 0 ∧
      commIn parse env mask s p =
        .running (commInFrame parse env s f) { p with data := rest }) := by
  unfold commIn
  simp only [herr, hin]
  cases hr : commRead env.payload env.reads p with
  | none => exact Or.inl ⟨rfl, rfl⟩
  | some r =>
    right
    have hc := commRead_spec hr
    cases hc with
    | @frame f rest cs head =>
      by_cases h0 : f.type = 0
      · exact Or.inl ⟨by simp [h0], .typeZero head h0⟩
      · have hpos := toNat_type_pos h0
        exact Or.inr ⟨f, rest, head, h0, by simp only [if_neg hpos]; rfl⟩
    | tooLarge head => exact Or.inl ⟨by simp, .tooLarge head⟩
    | ended head hw =>
      refine Or.inl ⟨?_, .ended head hw⟩
      have hle : (if p.data = [] then (0 : Int) else -1) ≤ 0 := by split <;> decide
      simp only [if_pos hle]
      rfl
    | failed why => exact Or.inl ⟨by simp, .failed why⟩

end SwaylockAuthd
