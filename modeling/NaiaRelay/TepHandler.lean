import NaiaRelay.Lib.Batch
import NaiaRelay.TepModels

set_option autoImplicit false

/-!
The executor-protocol handler: envelope, dispatch on the message type, and the replies.

A call returns its reply or the exception it raises together with the handler it leaves
behind: an exception does not undo what was done before it.
-/

namespace NaiaRelay.Tep

open NaiaRelay.Pydantic NaiaRelay.Registry

variable (P : Platform)

structure TEPEnvelope where
  protocol : String
  version : String
  messageType : String
  messageId : String
  sessionId : Option String
  requestId : Option String
  executionId : Option String
  payload : Obj

def TEPEnvelope.validate : Json → Checked TEPEnvelope :=
  model "TEPEnvelope" ["protocol", "version", "message_type", "message_id", "session_id",
    "request_id", "execution_id", "payload"] fun o =>
    TEPEnvelope.mk <$> required o "protocol" str <*> required o "version" str
      <*> required o "message_type" str <*> required o "message_id" str
      <*> optional o "session_id" none (nullable str)
      <*> optional o "request_id" none (nullable str)
      <*> optional o "execution_id" none (nullable str) <*> optional o "payload" [] dict

/-- The records of a `TEPHandler`, everything in it but the registry and the callbacks. -/
structure TEPRecords where
  executorAvailable : Bool := true
  lastProgress : Option Obj := none
  lastExecutionResult : Option Obj := none
  lastExecutionError : Option Obj := none
  lastResourceResult : Option Obj := none
  lastPromptResult : Option Obj := none

/-- `TEPHandler`. -/
structure TEPHandler where
  registry : RegistryStore
  records : TEPRecords := {}

/-- The callbacks a handler is given. -/
structure TEPCallbacks where
  executeTool : Option (ExecuteToolPayload → Except Exc Json) := none
  readResource : Option (ReadResourcePayload → Except Exc (List Json)) := none
  getPrompt : Option (GetPromptPayload → Except Exc (List Json)) := none

/-! ### Replies -/

def reply (envelope : TEPEnvelope) (newMessageId : String) (payload : Obj) : Obj :=
  [("protocol", .str "tep"), ("version", .str "1.0"),
    ("message_type", .str (envelope.messageType ++ "_response")),
    ("message_id", .str newMessageId), ("session_id", .ofOption envelope.sessionId),
    ("request_id", .str (orText envelope.requestId envelope.messageId)),
    ("execution_id", .ofOption envelope.executionId), ("payload", .obj payload)]

/-- `_ok_response`. -/
def okResponse (envelope : TEPEnvelope) (newMessageId : String) (details : Json := .null) :
    Except Exc Obj :=
  (okStatus objectBag details).map (reply envelope newMessageId)

/-- `_error_response`. -/
def errorResponse (envelope : TEPEnvelope) (newMessageId code message : String) : Obj :=
  reply envelope newMessageId (errorStatus code message [])

/-- `_format_validation_message`. -/
def formatValidationMessage (exc : Exc) : String :=
  match exc with
  | .validationError _ (first :: _) =>
    let location := ".".intercalate (first.loc.map (pyStr P))
    "Invalid TEP payload at " ++ (if location = "" then "message" else location) ++ ": "
      ++ first.msg
  | exc => exc.text P

/-- `_validation_details`. -/
def validationDetails (exc : Exc) : List Json :=
  match exc with
  | .validationError _ errors => errors.map fun e =>
      .obj [("loc", .arr e.loc), ("msg", .str e.msg), ("type", .str e.type), ("input", e.input)]
  | exc => [.obj [("loc", .arr []), ("msg", .str (exc.text P)), ("type", .str "value_error")]]

def validationHint : String :=
  "Check required fields and JSON object fields such as metadata/details; "
    ++ "Lua empty tables may need to be encoded as objects rather than arrays."

/-- `build_validation_error_response`. -/
def buildValidationErrorResponse (newMessageId : String) (message : Obj) (exc : Exc) : Obj :=
  let messageType := pyStr P ((Obj.getD message "message_type" .null).orElse (.str "invalid_message"))
  [("protocol", .str "tep"),
    ("version", .str (pyStr P ((Obj.getD message "version" .null).orElse (.str "1.0")))),
    ("message_type", .str (messageType ++ "_response")),
    ("message_id", .str newMessageId),
    ("session_id", Obj.getD message "session_id" .null),
    ("request_id",
      (Obj.getD message "request_id" .null).orElse (Obj.getD message "message_id" .null)),
    ("execution_id", Obj.getD message "execution_id" .null),
    ("payload", .obj (errorStatus
      (if (Obj.getD message "message_type" .null).truthy then "invalid_payload"
        else "invalid_message")
      (formatValidationMessage P exc)
      [("validation_errors", .arr (validationDetails P exc)), ("hint", .str validationHint)]))]

/-! ### Dispatch -/

/-- The types of message that belong to one execution. -/
def needsExecutionId (messageType : String) : Bool :=
  ["execute_tool", "execution_progress", "execution_result", "execution_error"].contains messageType

/-- `validate_message`. -/
def validateMessage (message : Obj) : Except Exc TEPEnvelope :=
  (modelValidate "TEPEnvelope" (TEPEnvelope.validate (.obj message))).bind fun envelope =>
    if envelope.protocol ≠ "tep" then .error (.valueError "TEP messages must have protocol='tep'")
    else if envelope.version ≠ "1.0" then
      .error (.valueError ("Unsupported TEP version: " ++ envelope.version))
    else if needsExecutionId envelope.messageType ∧ envelope.executionId = none then
      .error (.valueError (envelope.messageType ++ " requires execution_id"))
    else .ok envelope

/-- The reply to a message that mutates the registry entry by entry: the first entry refused
ends it, and the entries before stay applied. -/
def TEPHandler.mutateEach {A : Type} (op : RegistryStore → A → Except Exc RegistryStore)
    (items : List A) (response : Except Exc Obj) (h : TEPHandler) : Except Exc Obj × TEPHandler :=
  let done := Batch.forEach op h.registry items
  (done.1.bind fun _ => response, { h with registry := done.2 })

/-- The `match` of `handle_message`, on a message whose payload is valid. -/
def TEPHandler.dispatch (callbacks : TEPCallbacks) (newMessageId : String) (h : TEPHandler)
    (envelope : TEPEnvelope) : Payload → Except Exc Obj × TEPHandler
  | .registerExecutor p =>
    (okResponse envelope newMessageId (.obj [("executor_id", .str p.executorId)]), h)
  | .registerTools p =>
    h.mutateEach RegistryStore.registerTool (p.tools.map (·.definition envelope.sessionId))
      (okResponse envelope newMessageId)
  | .deregisterTools p =>
    h.mutateEach RegistryStore.deregisterTool p.toolNames (okResponse envelope newMessageId)
  | .registerResources p =>
    h.mutateEach RegistryStore.registerResource
      (p.resources.map (·.definition envelope.sessionId)) (okResponse envelope newMessageId)
  | .deregisterResources p =>
    h.mutateEach RegistryStore.deregisterResource p.resourceUris
      (okResponse envelope newMessageId)
  | .registerPrompts p =>
    h.mutateEach RegistryStore.registerPrompt (p.prompts.map (·.definition envelope.sessionId))
      (okResponse envelope newMessageId)
  | .deregisterPrompts p =>
    h.mutateEach RegistryStore.deregisterPrompt p.promptNames (okResponse envelope newMessageId)
  | .executeTool p =>
    match callbacks.executeTool with
    | none => (.ok (errorResponse envelope newMessageId "unimplemented"
        "execute_tool callback missing"), h)
    | some f => ((f p).bind fun result => okResponse envelope newMessageId result, h)
  | .readResource p =>
    match callbacks.readResource with
    | none => (.ok (errorResponse envelope newMessageId "unimplemented"
        "read_resource callback missing"), h)
    | some f => ((f p).bind fun contents => okResponse envelope newMessageId
        (.obj [("uri", .str p.uri), ("contents", .arr contents)]), h)
  | .resourceResult p =>
    (okResponse envelope newMessageId (.obj p.modelDump),
      { h with records.lastResourceResult := some p.modelDump })
  | .getPrompt p =>
    match callbacks.getPrompt with
    | none => (.ok (errorResponse envelope newMessageId "unimplemented"
        "get_prompt callback missing"), h)
    | some f => ((f p).bind fun messages => okResponse envelope newMessageId
        (.obj [("name", .str p.name), ("messages", .arr messages)]), h)
  | .promptResult p =>
    (okResponse envelope newMessageId (.obj p.modelDump),
      { h with records.lastPromptResult := some p.modelDump })
  | .executionProgress p =>
    (okResponse envelope newMessageId (.obj p.modelDump),
      { h with records.lastProgress := some p.modelDump })
  | .executionResult p =>
    (okResponse envelope newMessageId (.obj p.modelDump),
      { h with records.lastExecutionResult := some p.modelDump })
  | .executionError p =>
    (okResponse envelope newMessageId (.obj p.modelDump),
      { h with records.lastExecutionError := some p.modelDump })
  | .heartbeat _ => (okResponse envelope newMessageId, h)
  | .shutdown _ => (okResponse envelope newMessageId, h)
  | .disconnectNotice _ =>
    (okResponse envelope newMessageId, { h with records.executorAvailable := false })

/-- `handle_message`. -/
def TEPHandler.handleMessage (callbacks : TEPCallbacks) (newMessageId : String) (h : TEPHandler)
    (message : Obj) : Except Exc Obj × TEPHandler :=
  match validateMessage message with
  | .error e => (.error e, h)
  | .ok envelope =>
    match messagePayloadModel P envelope.messageType with
    | none => (.ok (errorResponse envelope newMessageId "unknown_message_type"
        envelope.messageType), h)
    | some check =>
      match check (.obj envelope.payload) with
      | .error e => (.error e, h)
      | .ok payload => h.dispatch callbacks newMessageId envelope payload

/-- `handle_message_or_error`. -/
def TEPHandler.handleMessageOrError (callbacks : TEPCallbacks) (newMessageId : String)
    (h : TEPHandler) (message : Obj) : Except Exc Obj × TEPHandler :=
  match h.handleMessage P callbacks newMessageId message with
  | (.error e, h') =>
    if e.isValueError then (.ok (buildValidationErrorResponse P newMessageId message e), h')
    else (.error e, h')
  | done => done

end NaiaRelay.Tep
