import NaiaRelay.Lib.Coroutine
import NaiaRelay.RlpModels

set_option autoImplicit false

/-!
The relay-link handler, used by the host over its authoritative registry and by a client
over its mirror.

The three operations on an executor wait for a callback, so a call is a coroutine: it ends,
or it hands out the operation and keeps the rest of the reply for when the outcome is known.
-/

namespace NaiaRelay.Rlp

open NaiaRelay.Pydantic NaiaRelay.Registry NaiaRelay.Tep

variable (P : Platform)

structure RLPEnvelope where
  protocol : String
  version : String
  messageType : String
  messageId : String
  relaySessionId : Option String := none
  sourceRelayId : Option String := none
  targetRelayId : Option String := none
  requestId : Option String := none
  executionId : Option String := none
  payload : Obj := []

def RLPEnvelope.validate : Json → Checked RLPEnvelope :=
  model "RLPEnvelope" ["protocol", "version", "message_type", "message_id", "relay_session_id",
    "source_relay_id", "target_relay_id", "request_id", "execution_id", "payload"] fun o =>
    RLPEnvelope.mk <$> required o "protocol" str <*> required o "version" str
      <*> required o "message_type" str <*> required o "message_id" str
      <*> optional o "relay_session_id" none (nullable str)
      <*> optional o "source_relay_id" none (nullable str)
      <*> optional o "target_relay_id" none (nullable str)
      <*> optional o "request_id" none (nullable str)
      <*> optional o "execution_id" none (nullable str) <*> optional o "payload" [] dict

/-- The fields of an `RLPHandler` but its registry. Of a callback only its presence counts
here. -/
structure RLPRecords where
  hostRelayId : String
  relaySessionId : String
  sessionToken : Option String := none
  executeTool : Bool := false
  readResource : Bool := false
  getPrompt : Bool := false
  boundClients : List String := []
  lastProgress : Option Obj := none
  lastExecutionResult : Option Obj := none
  lastExecutionError : Option Obj := none
  lastResourceResult : Option Obj := none
  lastPromptResult : Option Obj := none

/-- `RLPHandler`. -/
structure RLPHandler where
  registry : RegistryStore
  records : RLPRecords

/-- An operation handed to a callback. -/
inductive Operation
  | executeTool (p : ExecuteToolPayload)
  | readResource (p : ReadResourcePayload)
  | getPrompt (p : GetPromptPayload)

/-- A call of the handler: its reply or exception, possibly after a callback's outcome. -/
abbrev Call := Coroutine Operation (Except Exc Json) (Except Exc Obj)

/-- The ids drawn while a message is handled: that of the reply, and that of the envelope a
revision gap is reported under. -/
structure NewIds where
  reply : String
  gap : String

/-! ### Replies -/

def RLPRecords.reply (r : RLPRecords) (envelope : RLPEnvelope) (ids : NewIds) (payload : Obj) :
    Obj :=
  [("protocol", .str "rlp"), ("version", .str "1.0"),
    ("message_type", .str (envelope.messageType ++ "_response")),
    ("message_id", .str ids.reply), ("relay_session_id", .str r.relaySessionId),
    ("source_relay_id", .str r.hostRelayId), ("target_relay_id", .ofOption envelope.sourceRelayId),
    ("request_id", .str (orText envelope.requestId envelope.messageId)),
    ("execution_id", .ofOption envelope.executionId), ("payload", .obj payload)]

/-- `_ok_response`. -/
def RLPRecords.okResponse (r : RLPRecords) (envelope : RLPEnvelope) (ids : NewIds)
    (details : Json := .null) : Except Exc Obj :=
  (okStatus dict details).map (r.reply envelope ids)

/-- `_error_response`. -/
def RLPRecords.errorResponse (r : RLPRecords) (envelope : RLPEnvelope) (ids : NewIds)
    (code message : String) (details : Obj := []) : Obj :=
  r.reply envelope ids (errorStatus code message details)

/-- `_exception_response`. -/
def RLPRecords.exceptionResponse (r : RLPRecords) (envelope : RLPEnvelope) (ids : NewIds)
    (exc : Exc) (defaultCode : String) : Except Exc Obj :=
  match exc with
  | .protocolError message code data => do
    let details := setDefault (setDefault (← toDict data) "exception_type" (.str exc.className))
      "detail" (.str message)
    return r.errorResponse envelope ids code message details
  | exc => .ok (r.errorResponse envelope ids defaultCode (exc.text P)
      [("exception_type", .str exc.className), ("detail", .str (exc.text P))])

/-- The reply to an operation once its callback has ended: what it returned, or the exception
it or the reply's own check raised. -/
def RLPRecords.operationResponse (r : RLPRecords) (envelope : RLPEnvelope) (ids : NewIds)
    (defaultCode : String) (details : Json → Json) (outcome : Except Exc Json) : Except Exc Obj :=
  match outcome.bind fun v => r.okResponse envelope ids (details v) with
  | .ok response => .ok response
  | .error exc => r.exceptionResponse P envelope ids exc defaultCode

/-! ### Snapshots -/

/-- `payload[key] = value` for an optional field that is there. -/
def field (key : String) : Option Json → Obj
  | none => []
  | some v => [(key, v)]

/-- `_serialize_tool`. -/
def serializeTool (tool : ToolDefinition) : Obj :=
  [("name", .str tool.name), ("description", .str tool.description),
    ("input_schema", .obj tool.inputSchema), ("metadata", .obj tool.metadata)]
    ++ field "title" (tool.title.map .str) ++ field "output_schema" (tool.outputSchema.map .obj)

/-- `_serialize_resource`. -/
def serializeResource (resource : ResourceDefinition) : Obj :=
  [("uri", .str resource.uri), ("name", .str resource.name), ("metadata", .obj resource.metadata)]
    ++ field "description" (resource.description.map .str)
    ++ field "mime_type" (resource.mimeType.map .str)

/-- `_serialize_prompt_argument`; an argument without a name is a `KeyError`. -/
def serializePromptArgument (argument : Obj) : Except Exc Obj :=
  match Obj.get argument "name" with
  | none => .error (.keyError (.str "name"))
  | some name =>
    let payload :=
      [("name", name), ("required", .bool (Obj.getD argument "required" (.bool false)).truthy)]
    match Obj.getD argument "description" .null with
    | .null => .ok payload
    | description => .ok (payload ++ [("description", description)])

/-- `_serialize_prompt`. -/
def serializePrompt (prompt : PromptDefinition) : Except Exc Obj := do
  let arguments ← prompt.arguments.mapM serializePromptArgument
  return [("name", .str prompt.name), ("description", .str prompt.description),
    ("arguments", .arr (arguments.map .obj)), ("metadata", .obj prompt.metadata)]

/-- `_build_snapshot_details`. -/
def buildSnapshotDetails (registry : RegistryStore) : Except Exc Obj := do
  let snapshot := registry.snapshot
  let prompts ← snapshot.prompts.mapM serializePrompt
  return [("registry_revision", .int snapshot.revision),
    ("tools", .arr (snapshot.tools.map fun tool => .obj (serializeTool tool))),
    ("resources", .arr (snapshot.resources.map fun resource => .obj (serializeResource resource))),
    ("prompts", .arr (prompts.map .obj))]

/-- `_replace_registry_from_snapshot`. -/
def replaceRegistryFromSnapshot (registry : RegistryStore) (payload : SnapshotPayload) :
    RegistryStore :=
  registry.replaceFromSnapshot
    { revision := payload.registryRevision
      tools := payload.tools.map (·.definition none)
      resources := payload.resources.map (·.definition none)
      prompts := payload.prompts.map (·.definition none) }

/-! ### Incremental messages -/

/-- `_validate_incremental_revision`: the registry it leaves, and the reply if there is a
gap. -/
def RLPHandler.validateIncrementalRevision (ids : NewIds) (h : RLPHandler) (revision : ℤ) :
    Option Obj × RegistryStore :=
  let expected := h.registry.revision + 1
  if revision = expected then (none, h.registry.markFresh)
  else
    let envelope : RLPEnvelope :=
      { protocol := "rlp", version := "1.0", messageType := "revision_gap", messageId := ids.gap
        relaySessionId := some h.records.relaySessionId
        sourceRelayId := some h.records.hostRelayId }
    (some (h.records.errorResponse envelope ids "revision_gap"
      ("Expected registry revision " ++ toString expected ++ " but received "
        ++ toString revision)), h.registry.markStale)

/-- `_upsert_tool`, `_upsert_resource` and `_upsert_prompt`: an entry that is there is removed
first. -/
def upsert (k : Kind) (registry : RegistryStore) (entry : EntryPayload k) :
    Except Exc RegistryStore := do
  let definition := EntryPayload.definition k entry none
  let registry ← match (registry.table k).get (k.key definition) with
    | none => pure registry
    | some _ => RegistryStore.deregister k registry (k.key definition)
  RegistryStore.register k registry definition

def upsertTool := upsert .tool
def upsertResource := upsert .resource
def upsertPrompt := upsert .prompt

/-- An incremental message: the revision check, then the change. -/
def RLPHandler.applyIncremental (ids : NewIds) (h : RLPHandler) (envelope : RLPEnvelope)
    (revision : ℤ) (change : RegistryStore → Except Exc RegistryStore) : Call × RLPHandler :=
  match h.validateIncrementalRevision ids revision with
  | (some gap, registry) => (.done (.ok gap), { h with registry })
  | (none, registry) =>
    match change registry with
    | .ok registry => (.done (h.records.okResponse envelope ids), { h with registry })
    | .error e => (.done (.error e), { h with registry })

/-! ### Dispatch -/

/-- `validate_message`. -/
def validateMessage (message : Obj) : Except Exc RLPEnvelope :=
  (modelValidate "RLPEnvelope" (RLPEnvelope.validate (.obj message))).bind fun envelope =>
    if envelope.protocol ≠ "rlp" then .error (.valueError "RLP messages must have protocol='rlp'")
    else if envelope.version ≠ "1.0" then
      .error (.valueError ("Unsupported RLP version: " ++ envelope.version))
    else .ok envelope

/-- Handing an operation to its callback, or reporting that there is none. -/
def RLPRecords.operation (r : RLPRecords) (envelope : RLPEnvelope) (ids : NewIds)
    (callback : Bool) (name defaultCode : String) (operation : Operation)
    (details : Json → Json) : Call :=
  if callback then
    .await operation (r.operationResponse P envelope ids defaultCode details)
  else .done (.ok (r.errorResponse envelope ids "unimplemented" (name ++ " callback missing")))

/-- The reply to `bind_session`. The client counts as bound before the snapshot is built. -/
def RLPHandler.bindSession (ids : NewIds) (h : RLPHandler) (envelope : RLPEnvelope)
    (p : BindSessionPayload) : Call × RLPHandler :=
  let r := h.records
  if p.relaySessionId ≠ r.relaySessionId then
    (.done (.ok (r.errorResponse envelope ids "unknown_session" p.relaySessionId)), h)
  else if r.sessionToken ≠ none ∧ p.sessionToken ≠ r.sessionToken then
    (.done (.ok (r.errorResponse envelope ids "invalid_token" "Invalid session token.")), h)
  else
    (.done ((buildSnapshotDetails h.registry).bind fun details =>
        r.okResponse envelope ids (.obj details)),
      { h with records.boundClients := r.boundClients.insert p.clientInstanceId })

/-- The `match` of `handle_message`, on a message whose payload is valid. -/
def RLPHandler.dispatch (ids : NewIds) (h : RLPHandler) (envelope : RLPEnvelope) :
    Payload → Call × RLPHandler
  | .hello _ => (.done (h.records.okResponse envelope ids
      (.obj [("host_relay_id", .str h.records.hostRelayId)])), h)
  | .bindSession p => h.bindSession ids envelope p
  | .snapshot p =>
    (.done (h.records.okResponse envelope ids),
      { h with registry := replaceRegistryFromSnapshot h.registry p })
  | .mutation k p => h.applyIncremental ids envelope p.registryRevision fun registry =>
      upsert k registry p.entry
  | .removed k p => h.applyIncremental ids envelope p.registryRevision fun registry =>
      RegistryStore.deregister k registry p.name
  | .executeTool p => (h.records.operation P envelope ids h.records.executeTool "execute_tool"
      "execution_failed" (.executeTool p) id, h)
  | .readResource p => (h.records.operation P envelope ids h.records.readResource "read_resource"
      "resource_read_failed" (.readResource p) fun contents =>
        .obj [("uri", .str p.uri), ("contents", contents)], h)
  | .resourceResult p => (.done (h.records.okResponse envelope ids (.obj p.modelDump)),
      { h with records.lastResourceResult := some p.modelDump })
  | .getPrompt p => (h.records.operation P envelope ids h.records.getPrompt "get_prompt"
      "prompt_get_failed" (.getPrompt p) fun messages =>
        .obj [("name", .str p.name), ("messages", messages)], h)
  | .promptResult p => (.done (h.records.okResponse envelope ids (.obj p.modelDump)),
      { h with records.lastPromptResult := some p.modelDump })
  | .executionProgress p => (.done (h.records.okResponse envelope ids (.obj p.modelDump)),
      { h with records.lastProgress := some p.modelDump })
  | .executionResult p => (.done (h.records.okResponse envelope ids (.obj p.modelDump)),
      { h with records.lastExecutionResult := some p.modelDump })
  | .executionError p => (.done (h.records.okResponse envelope ids (.obj p.modelDump)),
      { h with records.lastExecutionError := some p.modelDump })
  | .heartbeat _ => (.done (h.records.okResponse envelope ids), h)
  | .disconnectNotice _ => (.done (h.records.okResponse envelope ids), h)

/-- `handle_message`, up to the callback it waits for. -/
def RLPHandler.handleMessage (ids : NewIds) (h : RLPHandler) (message : Obj) :
    Call × RLPHandler :=
  match validateMessage message with
  | .error e => (.done (.error e), h)
  | .ok envelope =>
    match messagePayloadModel P envelope.messageType with
    | none => (.done (.ok (h.records.errorResponse envelope ids "unknown_message_type"
        envelope.messageType)), h)
    | some check =>
      match check (.obj envelope.payload) with
      | .error e => (.done (.error e), h)
      | .ok payload => h.dispatch P ids envelope payload

end NaiaRelay.Rlp
