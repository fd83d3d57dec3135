import SwaylockAuthd.CommIn

/-!
# `handle_gdm_json`: the JSON protocol of authd

What the child answers to a JSON message of the PAM module, and the frame it passes on
to the main process.  A `poll` message is answered with what the user has done since; the
frames read for it are translated by `gdmTranslate`.
-/

namespace SwaylockAuthd

/-! ## JSON -/

/-- A JSON string. -/
def str (s : String) : Json := .string (ascii s)

/-- A member of an object. -/
def field (name : String) (value : Json) : List UInt8 × Json := (ascii name, value)

/-- `cJSON_GetObjectItemCaseSensitive` of an item that may be `NULL`. -/
def item (j : Option Json) (name : String) : Option Json :=
  j.bind fun j => j.getObjectItemCaseSensitive name

/-- The C string of an item that may be `NULL`. -/
def stringOf (j : Option Json) : Option CString := (j.bind Json.valuestring).map cstr

variable (parse : CString → Option Json) (print : Json → Option CString)

/-- `cJSON_PrintUnformatted` of an item that may be `NULL`. -/
def cJSONPrint (j : Option Json) : Option CString := (j.bind print).map cstr

/-! ## Messages to the main process -/

/-- The bytes of a `comm_child_write` of a JSON text that may be `NULL`. -/
def writeJson (type : UInt8) (j : Option Json) : List UInt8 :=
  match cJSONPrint print j with
  | some json => commWriteBytes type (some json) json.length
  | none => []

/-- The bytes of a STAGE message. -/
def writeStage (stage : AuthdStage) : List UInt8 :=
  commWriteBytes COMM_MSG_STAGE (some [stage.toByte]) 1

/-- An entry of a list passed on: its id and its name or label. -/
def gdmEntry (name : String) (b : Json) : Json :=
  let id := stringOf (b.getObjectItemCaseSensitive "id")
  let nm := stringOf (b.getObjectItemCaseSensitive name)
  .object ((id.map fun v => (ascii "id", Json.string v)).toList ++
    (nm.map fun v => (ascii name, Json.string v)).toList)

/-- A list passed on. -/
def gdmEntries (name : String) (infos : Option Json) : Json :=
  .array (((infos.map Json.children).getD []).map (gdmEntry name))

/-- The stage a `stageChanged` event names. -/
def gdmStage (stage : Option Json) : AuthdStage :=
  let s := stringOf stage
  if s = some (ascii "brokerSelection") then .broker
  else if s = some (ascii "authModeSelection") then .authMode
  else if s = some (ascii "challenge") then .challenge
  else .none

/-- What an event writes to the main process. -/
def gdmEvent (event : Option Json) : List UInt8 :=
  let etype := (stringOf (item event "type")).getD []
  if etype = ascii "brokersReceived" then
    writeJson print COMM_MSG_BROKERS (some (gdmEntries "name" (item event "brokersInfos")))
  else if etype = ascii "authModesReceived" then
    writeJson print COMM_MSG_AUTH_MODES (some (gdmEntries "label" (item event "authModes")))
  else if etype = ascii "uiLayoutReceived" then
    writeJson print COMM_MSG_UI_LAYOUT (item event "uiLayout")
  else if etype = ascii "stageChanged" then writeStage (gdmStage (item event "stage"))
  else if etype = ascii "startAuthentication" then writeStage .challenge
  else if etype = ascii "authEvent" then
    writeJson print COMM_MSG_AUTH_EVENT (item event "response")
  else []

/-! ## Answers to the module -/

def gdmEventAck : Json := .object [field "type" (str "eventAck")]

/-- The answer to `hello`; the version is `1.0`. -/
def gdmHello : Json :=
  .object [field "type" (str "hello"),
    field "hello" (.object [field "version" (.number 0x3FF0000000000000)])]

/-- The entries a text field of a layout can have. -/
def gdmEntryKinds : Json := str "optional:chars,chars_password,digits,digits_password"

/-- The answer to a request for the layouts that can be shown. -/
def gdmUiLayoutCapabilities : Json :=
  let form := Json.object [field "type" (str "form"), field "label" (str "required"),
    field "entry" gdmEntryKinds, field "wait" (str "optional:true,false"),
    field "button" (str "optional")]
  let newpw := Json.object [field "type" (str "newpassword"), field "label" (str "required"),
    field "entry" gdmEntryKinds, field "button" (str "optional")]
  let qr := Json.object [field "type" (str "qrcode"), field "content" (str "required"),
    field "code" (str "optional"), field "wait" (str "required:true,false"),
    field "label" (str "optional"), field "button" (str "optional"),
    field "rendersQrcode" (.bool true)]
  let caps := Json.object [field "supportedUiLayouts" (.array [form, newpw, qr])]
  .object [field "type" (str "response"), field "response" (.object [
    field "type" (str "uiLayoutCapabilities"), field "uiLayoutCapabilities" caps])]

/-- The answer to `poll`. -/
def gdmPollResponse (pending : List Json) : Json :=
  .object [field "type" (str "pollResponse"), field "pollResponse" (.array pending)]

/-- The event that selects the user. -/
def gdmUserSelected (username : CString) : Json :=
  .object [field "type" (str "userSelected"),
    field "userSelected" (.object [(ascii "userId", .string (cstr username))])]

/-- The event for a frame of the main process. -/
def gdmTranslate (type : Int) (payload : Option (List UInt8)) : Option Json :=
  let text := cstr (payload.getD [])
  if type = COMM_MSG_BROKER_SEL.toNat then
    some (.object [field "type" (str "brokerSelected"),
      field "brokerSelected" (.object [(ascii "brokerId", .string text)])])
  else if type = COMM_MSG_AUTH_MODE_SEL.toNat then
    some (.object [field "type" (str "authModeSelected"),
      field "authModeSelected" (.object [(ascii "authModeId", .string text)])])
  else if type = COMM_MSG_BUTTON.toNat then
    some (.object [field "type" (str "reselectAuthMode"),
      field "reselectAuthMode" (.object [])])
  else if type = COMM_MSG_CANCEL.toNat then
    some (.object [field "type" (str "isAuthenticatedCancelled"),
      field "isAuthenticatedCancelled" (.object [])])
  else if type = COMM_MSG_PASSWORD.toNat then
    some (.object [field "type" (str "isAuthenticatedRequested"),
      field "isAuthenticatedRequested" (.object [
        field "authenticationData" (.object [(ascii "secret", .string text)])])])
  else none

/-- `struct conv_state`, without the user name. -/
structure ConvState where
  pending : List Json := []
  userSelectedSent : Bool := false

/-- What `handle_gdm_json` does first: it fails, answers, having written `out`, or
goes on to read the frames of the main process. -/
inductive GdmStart
  | abort
  | answer (out : List UInt8) (response : Json)
  | poll (st : ConvState)

/-- `handle_gdm_json` up to the loop of a `poll` message. -/
def handleGdmJson (username : CString) (env : Env) (st : ConvState) (json : List UInt8) :
    GdmStart :=
  match cJSONParse parse env (some json) with
  | none => .abort
  | some root =>
    match stringOf (root.getObjectItemCaseSensitive "type") with
    | none => .abort
    | some type =>
      if type = ascii "hello" then .answer [] gdmHello
      else if type = ascii "request" then
        let req := root.getObjectItemCaseSensitive "request"
        if stringOf (item req "type") = some (ascii "uiLayoutCapabilities") then
          .answer [] gdmUiLayoutCapabilities
        else .answer [] gdmEventAck
      else if type = ascii "event" then
        .answer (gdmEvent print (root.getObjectItemCaseSensitive "event")) gdmEventAck
      else if type = ascii "poll" then
        if st.userSelectedSent then .poll st
        else .poll { pending := st.pending ++ [gdmUserSelected username], userSelectedSent := true }
      else .answer [] gdmEventAck

end SwaylockAuthd
