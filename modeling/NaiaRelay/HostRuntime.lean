import NaiaRelay.ExecutorLink
import NaiaRelay.RlpHandler
import NaiaRelay.TepHandler

set_option autoImplicit false

/-!
The host runtime: an authoritative registry filled by an executor, served to clients over the
relay link, with their operations forwarded to the executor.

Everything between two awaits is one event. The events are the messages of the two protocols,
the awaits of forwarded operations ending, and the executor's transports coming and going.
-/

namespace NaiaRelay.Runtime

open NaiaRelay.Pydantic NaiaRelay.Registry NaiaRelay.Tep NaiaRelay.Rlp

variable (P : Platform)

/-! ### The executor a runtime plays itself when none is attached -/

/-- `_executor_execute_tool`. -/
def executorExecuteTool (p : ExecuteToolPayload) : Json :=
  .obj [("content", .arr [.obj [("type", .str "text"),
    ("text", .str (p.toolName ++ ":" ++ pyStr P (.obj p.arguments)))]])]

/-- `_executor_read_resource`. -/
def executorReadResource (p : ReadResourcePayload) : List Json :=
  [.obj [("uri", .str p.uri), ("context", .obj p.context)]]

/-- `_executor_get_prompt`. -/
def executorGetPrompt (p : GetPromptPayload) : List Json :=
  [.obj [("role", .str "user"),
    ("content", .obj [("name", .str p.name), ("arguments", .obj p.arguments)])]]

/-- The callbacks of a runtime's `TEPHandler`. -/
def executorCallbacks : TEPCallbacks where
  executeTool := some fun p => .ok (executorExecuteTool P p)
  readResource := some fun p => .ok (executorReadResource p)
  getPrompt := some fun p => .ok (executorGetPrompt p)

def executorOperation : Operation → Json
  | .executeTool p => executorExecuteTool P p
  | .readResource p => .arr (executorReadResource p)
  | .getPrompt p => .arr (executorGetPrompt p)

/-! ### The runtime -/

/-- `HostRelayRuntime`. Its two handlers share the registry. -/
structure HostRelayRuntime where
  base : BaseRelayRuntime
  registry : RegistryStore := {}
  tep : TEPRecords := {}
  rlp : RLPRecords
  link : ExecutorLink := {}

/-- The ids drawn for a forwarded operation. -/
structure OperationIds where
  messageId : String
  executionId : String

/-- What handling a relay-link message comes to: it is answered, or an operation is forwarded
and the answer waits for it. -/
inductive RlpHandling
  | answered (answer : Except Exc Obj)
  | forwarded

namespace HostRelayRuntime

def create (relayId sessionId : String) (config : RelayConfig := .default) : HostRelayRuntime where
  base := { config, role := "host", relayId, sessionId }
  rlp :=
    { hostRelayId := relayId, relaySessionId := sessionId
      executeTool := true, readResource := true, getPrompt := true }

def start (h : HostRelayRuntime) : HostRelayRuntime := { h with base := h.base.start }

/-- The guarded handler of executor messages. -/
def tepHandleMessageOrError (h : HostRelayRuntime) (newMessageId : String) (message : Obj) :
    Except Exc Obj × HostRelayRuntime :=
  let x := TEPHandler.handleMessageOrError P (executorCallbacks P) newMessageId
    ⟨h.registry, h.tep⟩ message
  (x.1, { h with registry := x.2.registry, tep := x.2.records })

/-! #### Messages of the executor -/

/-- `str(message.get(key) or "")`. -/
def messageText (message : Obj) (key : String) : String :=
  pyStr P ((Obj.getD message key .null).orElse (.str ""))

/-- What the payload of a `*_response` settles its request with. A payload that is no object
has no `get`. -/
def responseOutcome : Json → Except Exc (Except Exc Json)
  | .obj payload =>
    match Obj.get payload "status" with
    | some (.str "ok") => .ok (.ok (Obj.getD payload "details" (.obj [])))
    | _ => .ok (.error (.protocol
        (pyStr P (Obj.getD payload "message" (.str "Executor request failed")))
        (pyStr P (Obj.getD payload "code" (.str "executor_error")))
        (Obj.getD payload "details" (.obj []))))
  | v => .error (.attributeError ("'" ++ typeName v ++ "' object has no attribute 'get'"))

/-- What an `execution_error` settles its execution with: a result hidden in the details, or
the error. -/
def errorOutcome (p : ExecutionErrorPayload) : Except Exc Json :=
  match Obj.get p.details "result" with
  | some (.obj result) => .ok (.obj result)
  | _ => .error (.protocol p.message p.code (.obj p.details))

/-- A `*_response`. -/
def handleResponse (h : HostRelayRuntime) (message : Obj) :
    Except Exc (Option Obj) × HostRelayRuntime :=
  let requestId := messageText P message "request_id"
  match h.link.pendingFuture .request requestId with
  | none => (.ok none, h)
  | some _ =>
    match responseOutcome P (Obj.getD message "payload" (.obj [])) with
    | .error e => (.error e, h)
    | .ok outcome => (.ok none, { h with link := h.link.settle .request requestId outcome })

/-- What is done with a message of the executor after the handler has replied to it, if its
payload passes. -/
def recordMessage (h : HostRelayRuntime) (messageType : String) (message : Obj) :
    HostRelayRuntime :=
  let payload := Obj.getD message "payload" (.obj [])
  match messageType with
  | "execution_progress" =>
    match ExecutionProgressPayload.check P payload with
    | .errors _ => h
    | .ok p => { h with rlp.lastProgress := some p.modelDump }
  | "execution_result" =>
    match ExecutionResultPayload.check P objectBag payload with
    | .errors _ => h
    | .ok p =>
      { h with
        link := h.link.settle .execution (messageText P message "execution_id") (.ok (.obj p.result))
        rlp.lastExecutionResult := some p.modelDump }
  | "execution_error" =>
    match ExecutionErrorPayload.check objectBag payload with
    | .errors _ => h
    | .ok p =>
      { h with
        link := h.link.settle .execution (messageText P message "execution_id") (errorOutcome p)
        rlp.lastExecutionError := some p.modelDump }
  | "resource_result" =>
    match ResourceResultPayload.check objectBag payload with
    | .errors _ => h
    | .ok p =>
      { h with
        link := h.link.settle .request (messageText P message "request_id") (.ok (.arr p.contents))
        rlp.lastResourceResult := some p.modelDump }
  | "prompt_result" =>
    match PromptResultPayload.check objectBag payload with
    | .errors _ => h
    | .ok p =>
      { h with
        link := h.link.settle .request (messageText P message "request_id") (.ok (.arr p.messages))
        rlp.lastPromptResult := some p.modelDump }
  | _ => h

/-- `handle_executor_stdio_message`. -/
def handleExecutorStdioMessage (h : HostRelayRuntime) (newMessageId : String) (message : Obj) :
    Except Exc (Option Obj) × HostRelayRuntime :=
  let messageType := messageText P message "message_type"
  if endsWith messageType "_response" then h.handleResponse P message
  else
    match h.tepHandleMessageOrError P newMessageId message with
    | (.error e, h) => (.error e, h)
    | (.ok response, h) => (.ok (some response), h.recordMessage P messageType message)

/-- `handle_tep_message`. -/
def handleTepMessage (h : HostRelayRuntime) (newMessageId : String) (message : Obj) :
    Except Exc Obj × HostRelayRuntime :=
  match h.base.ensureStarted with
  | .error e => (.error e, h)
  | .ok _ =>
    let x := TEPHandler.handleMessage P (executorCallbacks P) newMessageId ⟨h.registry, h.tep⟩
      message
    (x.1, { h with
      registry := x.2.registry
      tep := x.2.records
      base := h.base.countFailure x.1 })

/-! #### Messages of the clients -/

/-- The message an operation is forwarded in. -/
def tepRequest (h : HostRelayRuntime) (messageType : String) (ids : OperationIds)
    (executionId : Obj) (payload : Obj) : Obj :=
  [("protocol", .str "tep"), ("version", .str "1.0"), ("message_type", .str messageType),
    ("message_id", .str ids.messageId), ("session_id", .str (h.base.sessionId ++ ":executor"))]
    ++ executionId ++ [("payload", .obj payload)]

/-- `_rlp_execute_tool`, `_rlp_read_resource` and `_rlp_get_prompt`, with an executor. -/
def forward (h : HostRelayRuntime) (ids : OperationIds) (operation : Operation)
    (resume : Except Exc Json → Except Exc Obj) : ExecutorOperation :=
  match operation with
  | .executeTool p =>
    { target := .execution, id := ids.executionId, resume
      request := h.tepRequest "execute_tool" ids [("execution_id", .str ids.executionId)]
        [("tool_name", .str p.toolName), ("arguments", .obj p.arguments),
          ("context", .obj p.context), ("stream", .bool p.stream)] }
  | .readResource p =>
    { target := .request, id := ids.messageId, resume
      request := h.tepRequest "read_resource" ids []
        [("uri", .str p.uri), ("arguments", .obj p.arguments), ("context", .obj p.context)] }
  | .getPrompt p =>
    { target := .request, id := ids.messageId, resume
      request := h.tepRequest "get_prompt" ids []
        [("name", .str p.name), ("arguments", .obj p.arguments), ("context", .obj p.context)] }

/-- What follows the handler's answer. -/
def conclude (h : HostRelayRuntime) : Except Exc Obj → HostRelayRuntime
  | .ok _ => { h with base.stats.attachedClients := h.rlp.boundClients.length }
  | .error _ => { h with base := h.base.recordValidationFailure }

/-- `handle_rlp_message`, up to the answer or the await for the executor. -/
def handleRlpMessage (h : HostRelayRuntime) (ids : NewIds) (operationIds : OperationIds)
    (message : Obj) : RlpHandling × HostRelayRuntime :=
  match h.base.ensureStarted with
  | .error e => (.answered (.error e), h)
  | .ok _ =>
    let x := RLPHandler.handleMessage P ids ⟨h.registry, h.rlp⟩ message
    let h := { h with registry := x.2.registry, rlp := x.2.records }
    match x.1 with
    | .done answer => (.answered answer, h.conclude answer)
    | .await operation resume =>
      match h.link.transport with
      | none =>
        let answer := resume (.ok (executorOperation P operation))
        (.answered answer, h.conclude answer)
      | some _ =>
        (.forwarded, { h with link := h.link.register (h.forward operationIds operation resume) })

/-- The request timeout's exception. -/
def requestTimeout (h : HostRelayRuntime) : Exc :=
  timeoutError h.base.config.requestTimeoutSeconds "Request"

/-- The link after an await of an operation has ended, and the answer if that ended it. -/
def afterAwait (h : HostRelayRuntime) (i : ℕ) (link : ExecutorLink) : HostRelayRuntime :=
  let h := { h with link }
  match link.operations[i]? with
  | some { phase := .ended answer, .. } => h.conclude answer
  | _ => h

/-- `stop`, at its end. -/
def stopped (h : HostRelayRuntime) : HostRelayRuntime := { h with base.started := false }

end HostRelayRuntime

/-! ### Events -/

/-- What can happen to a host. -/
inductive HostEvent
  /-- `handle_rlp_message` is called, and these ids are drawn. -/
  | rlp (ids : NewIds) (operationIds : OperationIds) (message : Obj)
  /-- `handle_executor_stdio_message` is called. -/
  | executor (newMessageId : String) (message : Obj)
  /-- An operation gets the send lock. -/
  | acquire (i : ℕ)
  /-- An operation's send ends. -/
  | sent (i : ℕ) (outcome : Except Exc Unit)
  /-- An operation goes on with its future, which is done. -/
  | resume (i : ℕ)
  /-- A request timeout strikes: the one around the whole message, or the one around the
  future. -/
  | expire (i : ℕ) (outer : Bool)
  | attach (adapter : ℕ)
  | detach (adapter : Option ℕ)
  /-- `stop` clears the transport. -/
  | stop
  /-- `stop` ends. -/
  | stopped

/-- One event; `none` where it cannot happen. The ids drawn are never drawn twice. -/
def HostRelayRuntime.step (h : HostRelayRuntime) : HostEvent → Option HostRelayRuntime
  | .rlp ids operationIds message =>
    if h.link.Fresh .execution operationIds.executionId ∧
        h.link.Fresh .request operationIds.messageId then
      some (h.handleRlpMessage P ids operationIds message).2
    else none
  | .executor newMessageId message => some (h.handleExecutorStdioMessage P newMessageId message).2
  | .acquire i => (h.link.step (.acquire i)).map (h.afterAwait i)
  | .sent i outcome => (h.link.step (.sent i outcome)).map (h.afterAwait i)
  | .resume i => (h.link.step (.resume i)).map (h.afterAwait i)
  | .expire i outer =>
    (h.link.step (.expire h.requestTimeout i outer)).map
      ({ h with base := h.base.recordTimeout }.afterAwait i)
  | .attach adapter => some { h with link := h.link.attach adapter }
  | .detach adapter => some { h with link := h.link.detach adapter }
  | .stop => some { h with link := h.link.stop }
  | .stopped => some h.stopped

end NaiaRelay.Runtime
