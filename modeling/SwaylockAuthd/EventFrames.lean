import SwaylockAuthd.Pam

/-!
# The frames of the events

The two ends of the reply pipe check the size of a frame independently: `comm_write` takes
any length and stores it modulo `2 ^ 32`, `comm_read` accepts up to `COMM_MAX_PAYLOAD`.

* `gdmText`: the JSON text an event is passed on as.
* `delivered_iff_fits`: a frame is read as it was written if and only if it is not too long.
* `event_delivered_iff`: so an event is, if and only if its text is not too long.
-/

namespace SwaylockAuthd

variable (parse : CString → Option Json) (print : Json → Option CString)

/-- The JSON text an event is passed on as; a stage has none. -/
def gdmText (event : Option Json) : Option CString :=
  let etype := (stringOf (item event "type")).getD []
  if etype = ascii "brokersReceived" then
    cJSONPrint print (some (gdmEntries "name" (item event "brokersInfos")))
  else if etype = ascii "authModesReceived" then
    cJSONPrint print (some (gdmEntries "label" (item event "authModes")))
  else if etype = ascii "uiLayoutReceived" then cJSONPrint print (item event "uiLayout")
  else if etype = ascii "authEvent" then cJSONPrint print (item event "response")
  else none

/-- `f` is what an event with this text is passed on as. -/
def Conveys (text : Option CString) (f : Frame) : Prop :=
  f.type ≠ 0 ∧ ((text = none ∧ f.Fits) ∨ text = some f.payload)

theorem conveys_writeStage (stage : AuthdStage) :
    ∃ f, writeStage stage = f.bytes ∧ Conveys none f :=
  ⟨_, writeStage_eq stage, (by decide : COMM_MSG_STAGE ≠ 0),
    Or.inl ⟨rfl, by simp [Frame.Fits, COMM_MAX_PAYLOAD]⟩⟩

/-- The frame a value is passed on as. -/
theorem writeJson_frame {type : UInt8} {j : Option Json} {text : CString}
    (h : cJSONPrint print j = some text) : writeJson print type j = Frame.bytes ⟨type, text⟩ := by
  rw [writeJson, h]
  simp only [commWriteBytes, Frame.bytes, Option.getD_some, List.take_length]

theorem conveys_writeJson {type : UInt8} {j : Option Json} (ht : type ≠ 0)
    (hout : writeJson print type j ≠ []) :
    ∃ f, writeJson print type j = f.bytes ∧ Conveys (cJSONPrint print j) f := by
  cases hj : cJSONPrint print j with
  | none =>
    rw [writeJson, hj] at hout
    exact absurd rfl hout
  | some json => exact ⟨⟨type, json⟩, writeJson_frame print hj, ht, Or.inr rfl⟩

/-- **What an event writes** is one frame, a stage or its text. -/
theorem conveys_gdmEvent {event : Option Json} (hout : gdmEvent print event ≠ []) :
    ∃ f, gdmEvent print event = f.bytes ∧ Conveys (gdmText print event) f := by
  rw [gdmEvent] at hout ⊢
  rw [gdmText]
  split at hout
  · rename_i h
    rw [if_pos h, if_pos h]
    exact conveys_writeJson print (by decide) hout
  rename_i h1
  rw [if_neg h1, if_neg h1]
  split at hout
  · rename_i h
    rw [if_pos h, if_pos h]
    exact conveys_writeJson print (by decide) hout
  rename_i h2
  rw [if_neg h2, if_neg h2]
  split at hout
  · rename_i h
    rw [if_pos h, if_pos h]
    exact conveys_writeJson print (by decide) hout
  rename_i h3
  rw [if_neg h3, if_neg h3]
  split at hout
  · rename_i h
    rw [if_pos h, h, if_neg (by decide : ¬ ascii "stageChanged" = ascii "authEvent")]
    exact conveys_writeStage _
  rename_i h4
  rw [if_neg h4]
  split at hout
  · rename_i h
    rw [if_pos h, h, if_neg (by decide : ¬ ascii "startAuthentication" = ascii "authEvent")]
    exact conveys_writeStage _
  rename_i h5
  rw [if_neg h5]
  split at hout
  · rename_i h
    rw [if_pos h, if_pos h]
    exact conveys_writeJson print (by decide) hout
  · exact absurd rfl hout

/-- Only an event makes `handle_gdm_json` write to the main process. -/
theorem handleGdmJson_event {username : CString} {env : Env} {st : ConvState} {json : List UInt8}
    {root : Json} {out : List UInt8} {response : Json}
    (hroot : cJSONParse parse env (some json) = some root)
    (h : handleGdmJson parse print username env st json = .answer out response) (hout : out ≠ []) :
    out = gdmEvent print (root.getObjectItemCaseSensitive "event") := by
  rw [handleGdmJson, hroot] at h
  dsimp only at h
  repeat' split at h
  all_goals
    first
    | cases h; exact absurd rfl hout
    | cases h; rfl
    | cases h

/-- The main process reads exactly this frame where it starts, and nothing of what follows;
the length in its header is that of its payload. -/
structure Delivered (f : Frame) : Prop where
  length : (UInt32.ofNat f.payload.length).toNat = f.payload.length
  consumed : ∀ (env : Env) (s : SwaylockState) (p : Pipe) (rest : List UInt8),
    p.data = f.bytes ++ rest → .error ∉ env.reads → env.payload = true →
      p.data.length < readMoves env.reads →
      commIn parse env p.revents s p = .running (commInFrame parse env s f) { p with data := rest }

/-- A stream that starts with the bytes of a frame starts with no other frame. -/
theorem eq_of_head_bytes {f g : Frame} {rest : List UInt8}
    (head : frameHead (f.bytes ++ rest) = .item g rest) : g = f ∧ f.Fits := by
  obtain ⟨a, b, c, d, hbytes, -, hfits⟩ := frameHead_item head
  have htype := congrArg List.head? hbytes
  have hdrop := congrArg (List.drop 5) hbytes
  simp only [Frame.bytes, storeLe32, List.cons_append, List.head?_cons, List.drop_succ_cons,
    List.drop_zero, List.nil_append, List.append_cancel_right_eq, Option.some.injEq] at htype hdrop
  obtain rfl : g = f := by
    cases g
    cases f
    simp_all
  exact ⟨rfl, hfits⟩

/-- **A frame is read as it was written if and only if it is not too long.** -/
theorem delivered_iff_fits {f : Frame} (htype : f.type ≠ 0) : Delivered parse f ↔ f.Fits := by
  constructor
  · intro h
    have hmoves : ∀ n, readMoves (List.replicate n (.short 0)) = n := by
      intro n
      rw [readMoves, List.countP_replicate]
      exact if_pos rfl
    have hrun := h.consumed
      { reads := List.replicate (f.bytes.length + 1) (.short 0) }
      (.start {} []) { data := f.bytes } [] (List.append_nil _).symm (by simp) rfl
      (by rw [hmoves]; exact Nat.lt_succ_self _)
    have hin : Pipe.revents { data := f.bytes } = { pollin := true } := by
      simp [Pipe.revents, Frame.bytes]
    rw [hin] at hrun
    rcases commIn_cases parse _ _ { data := f.bytes }
      (show ({ pollin := true } : Revents).pollin = true from rfl) rfl with
      ⟨e, -⟩ | ⟨e, -⟩ | ⟨g, rest, head, -, e⟩
    · rw [e] at hrun; cases hrun
    · rw [e] at hrun; cases hrun
    · rw [e] at hrun
      have hrest : rest = [] := congrArg Pipe.data (CommIn.running_inj hrun).2
      rw [hrest] at head
      exact (eq_of_head_bytes (by rw [List.append_nil]; exact head)).2
  · intro hfits
    refine ⟨?_, ?_⟩
    · rw [UInt32.toNat_ofNat', Nat.mod_eq_of_lt (lt_of_le_of_lt hfits (by decide))]
    · intro env s p rest hp hreads hmem hmoves
      have head : frameHead p.data = .item f rest := by
        rw [hp]
        exact (writes_bytes hfits).head_append rest
      have hin : p.revents.pollin = true := by
        rw [Pipe.revents, hp]
        simp [Frame.bytes]
      rcases commIn_cases parse env s p hin rfl with ⟨-, e⟩ | ⟨-, why⟩ | ⟨g, r, hg, -, e⟩
      · obtain ⟨r, hr, -⟩ := commRead_returns env.payload hmoves (Or.inr (by rw [head]; simp))
        rw [hr] at e
        cases e
      · cases why with
        | typeZero hz zero => rw [head] at hz; cases hz; exact absurd zero htype
        | tooLarge hb => rw [head] at hb; cases hb
        | ended hm => rw [head] at hm; cases hm
        | failed w =>
          rcases w with w | w
          · exact absurd w hreads
          · rw [hmem] at w; cases w
      · rw [head] at hg
        cases hg
        exact e

/-- A frame that is too long for the reader. -/
theorem frameHead_too_long {f : Frame} (hbig : COMM_MAX_PAYLOAD < f.payload.length)
    (hlt : f.payload.length < 2 ^ 32) : frameHead f.bytes = .bad := by
  obtain ⟨a, b, c, d, hle⟩ : ∃ a b c d, storeLe32 (UInt32.ofNat f.payload.length) = [a, b, c, d] :=
    ⟨_, _, _, _, rfl⟩
  have hlen : (loadLe32 [a, b, c, d]).toNat = f.payload.length := by
    rw [← hle, loadLe32_storeLe32, UInt32.toNat_ofNat', Nat.mod_eq_of_lt hlt]
  rw [Frame.bytes, hle]
  show frameHead (f.type :: a :: b :: c :: d :: f.payload) = .bad
  rw [frameHead_header, hlen, if_pos hbig]

/-! ## An event of the module -/

/-- The event with which authd shows a message. -/
def authEventJson (msg : CString) : Json :=
  .object [field "type" (str "event"), field "event" (.object [field "type" (str "authEvent"),
    field "response" (.object [field "msg" (.string msg)])])]

/-- The text of that event, for a message of letters. -/
def authEventText (msg : CString) : CString :=
  ascii "\x7b\"type\":\"event\",\"event\":\x7b\"type\":\"authEvent\",\"response\":\x7b\"msg\":\"" ++
    msg ++ ascii "\"\x7d\x7d\x7d"

/-- A parser of that text. -/
def parseAuthEvent (msg text : CString) : Option Json :=
  if text = authEventText msg then some (authEventJson msg) else none

/-- A printer of an object with one member, a string of letters. -/
def printMember : Json → Option CString
  | .object [(name, .string text)] =>
    some (ascii "\x7b\"" ++ name ++ ascii "\":\"" ++ text ++ ascii "\"\x7d")
  | _ => none

/-- The frame of the message. -/
def authEventFrame (msg : CString) : Frame :=
  ⟨COMM_MSG_AUTH_EVENT, ascii "\x7b\"msg\":\"" ++ msg ++ ascii "\"\x7d"⟩

theorem cJSONParse_authEvent {msg : CString} (h0 : (0 : UInt8) ∉ msg) :
    cJSONParse (parseAuthEvent msg) {} (some (authEventText msg)) = some (authEventJson msg) := by
  have htext : cstr (authEventText msg) = authEventText msg := by
    refine cstr_eq_self ?_
    simp only [authEventText, List.mem_append, not_or]
    exact ⟨⟨by decide, h0⟩, by decide⟩
  show parseAuthEvent msg (cstr (authEventText msg)) = _
  rw [htext, parseAuthEvent, if_pos rfl]

theorem cJSONPrint_authEvent {msg : CString} (h0 : (0 : UInt8) ∉ msg) :
    cJSONPrint printMember (some (.object [field "msg" (.string msg)])) =
      some (authEventFrame msg).payload := by
  refine congrArg some (cstr_eq_self ?_)
  show (0 : UInt8) ∉ ascii "\x7b\"msg\":\"" ++ msg ++ ascii "\"\x7d"
  simp only [List.mem_append, not_or]
  exact ⟨⟨by decide, h0⟩, by decide⟩

theorem handleGdmJson_authEvent (username : CString) {msg : CString} (h0 : (0 : UInt8) ∉ msg) :
    handleGdmJson (parseAuthEvent msg) printMember username {} {} (authEventText msg) =
      .answer (authEventFrame msg).bytes gdmEventAck := by
  have hwrite : writeJson printMember COMM_MSG_AUTH_EVENT
      (some (.object [field "msg" (.string msg)])) = (authEventFrame msg).bytes :=
    writeJson_frame printMember (cJSONPrint_authEvent h0)
  rw [handleGdmJson, cJSONParse_authEvent h0]
  show GdmStart.answer (writeJson printMember COMM_MSG_AUTH_EVENT
      (some (.object [field "msg" (.string msg)]))) gdmEventAck = _
  rw [hwrite]

/-! ## The events -/

/-- **An event is delivered if and only if its text is not too long.** -/
theorem event_delivered_iff (username : CString) {env : Env} {st : ConvState} {json : List UInt8}
    {root : Json} {out : List UInt8} {response : Json}
    (hroot : cJSONParse parse env (some json) = some root)
    (h : handleGdmJson parse print username env st json = .answer out response) (hout : out ≠ []) :
    ∃ f : Frame, out = f.bytes ∧ (Delivered parse f ↔
      ∀ text, gdmText print (root.getObjectItemCaseSensitive "event") = some text →
        text.length ≤ COMM_MAX_PAYLOAD) := by
  have he := handleGdmJson_event parse print hroot h hout
  obtain ⟨f, hf, htype, hc⟩ := conveys_gdmEvent print (by rw [← he]; exact hout)
  refine ⟨f, he.trans hf, (delivered_iff_fits parse htype).trans ?_⟩
  rcases hc with ⟨hnone, hfits⟩ | hsome
  · rw [hnone]
    exact ⟨fun _ _ ht => (nomatch ht), fun _ => hfits⟩
  · rw [hsome]
    exact ⟨fun hfits _ ht => Option.some.inj ht ▸ hfits, fun hall => hall _ rfl⟩

theorem event_delivered_short :
    ∃ f : Frame, (authEventFrame (ascii "wrong password")).bytes = f.bytes ∧
      Delivered (parseAuthEvent (ascii "wrong password")) f := by
  have h0 : (0 : UInt8) ∉ ascii "wrong password" := by decide
  obtain ⟨f, hf, hiff⟩ := event_delivered_iff (parseAuthEvent (ascii "wrong password"))
    printMember [] (cJSONParse_authEvent h0) (handleGdmJson_authEvent [] h0)
    (by simp [Frame.bytes])
  refine ⟨f, hf, hiff.mpr fun text ht => ?_⟩
  have htext : some text = some (authEventFrame (ascii "wrong password")).payload :=
    ht.symm.trans (cJSONPrint_authEvent h0)
  rw [Option.some.inj htext]
  decide

/-- A message of `2 ^ 20` letters makes the main process exit. -/
theorem not_delivered_long :
    let msg : CString := List.replicate (2 ^ 20) 0x61
    handleGdmJson (parseAuthEvent msg) printMember [] {} {} (authEventText msg) =
        .answer (authEventFrame msg).bytes gdmEventAck ∧
      ¬ Delivered (parseAuthEvent msg) (authEventFrame msg) ∧
      ∀ (s : SwaylockState) (reads : List ReadCall),
        (authEventFrame msg).bytes.length < readMoves reads →
        commIn (parseAuthEvent msg) { reads } { pollin := true } s
          { data := (authEventFrame msg).bytes } = .exited := by
  intro msg
  have h0 : (0 : UInt8) ∉ msg := by
    intro h
    exact absurd (List.eq_of_mem_replicate h) (by decide)
  have hlen : (authEventFrame msg).payload.length = 2 ^ 20 + 10 := by
    have h : (authEventFrame msg).payload.length = 8 + msg.length + 2 := by
      simp only [authEventFrame, List.length_append]
      rfl
    rw [h, List.length_replicate]
    omega
  have hbig : COMM_MAX_PAYLOAD < (authEventFrame msg).payload.length := by
    rw [hlen, COMM_MAX_PAYLOAD]
    omega
  refine ⟨handleGdmJson_authEvent [] h0, fun hd => ?_, fun s reads hmoves => ?_⟩
  · exact absurd ((delivered_iff_fits _ (by show COMM_MSG_AUTH_EVENT ≠ 0; decide)).mp hd)
      (not_le.mpr hbig)
  · have head : frameHead (authEventFrame msg).bytes = .bad :=
      frameHead_too_long hbig (by rw [hlen]; omega)
    rcases commIn_cases (parseAuthEvent msg) { reads } s { data := (authEventFrame msg).bytes }
      (show ({ pollin := true } : Revents).pollin = true from rfl) rfl with
      ⟨-, e⟩ | ⟨e, -⟩ | ⟨g, rest, hg, -⟩
    · obtain ⟨r, hr, -⟩ := commRead_returns true
        (p := { data := (authEventFrame msg).bytes }) hmoves (Or.inr (by rw [head]; simp))
      rw [hr] at e
      cases e
    · exact e
    · rw [head] at hg
      cases hg

end SwaylockAuthd
