import NaiaRelay.Callbacks
import NaiaRelay.RlpHandler

set_option autoImplicit false

/-!
The client runtime: a mirror of a host's registry, kept by binding to the host and by its
messages, and served to a client whose calls go upstream.

Everything between two awaits is one event. A bind waits for the requester at each attempt,
and a forwarded call waits for it once.
-/

namespace NaiaRelay.Runtime

open NaiaRelay.Registry NaiaRelay.Rlp NaiaRelay.Mcp

variable (P : Platform)

/-- The host a bind is for. -/
structure Binding where
  hostSessionId : String
  hostRelayId : String

/-- `ClientRelayRuntime`. Its two handlers share the registry. -/
structure ClientRelayRuntime where
  base : BaseRelayRuntime
  registry : RegistryStore := {}
  rlp : RLPRecords
  mcp : MCPRecords := runtimeCallbacks
  /-- Whether `_upstream_requester` is set. -/
  upstream : Bool := false

namespace ClientRelayRuntime

def create (relayId sessionId : String) (config : RelayConfig := .default) : ClientRelayRuntime where
  base := { config, role := "client", relayId, sessionId }
  rlp := { hostRelayId := "upstream_host", relaySessionId := sessionId }

def start (c : ClientRelayRuntime) : ClientRelayRuntime := { c with base := c.base.start }

/-- `mark_stale`; the runtime and its handler mark the same registry. -/
def markStale (c : ClientRelayRuntime) : ClientRelayRuntime :=
  { c with registry := c.registry.markStale }

/-- `on_rlp_disconnect`. -/
def onRlpDisconnect (c : ClientRelayRuntime) : ClientRelayRuntime :=
  { c.markStale with upstream := false, base := c.base.recordDisconnect }

/-- `handle_rlp_message`. The client's handler has no callbacks, so it never waits. -/
def handleRlpMessage (c : ClientRelayRuntime) (ids : NewIds) (message : Obj) :
    Except Exc Obj × ClientRelayRuntime :=
  match c.base.ensureStarted with
  | .error e => (.error e, c)
  | .ok _ =>
    let x := RLPHandler.handleMessage P ids ⟨c.registry, c.rlp⟩ message
    let y := c.base.withRequestTimeout x.1 .timesOut
    (y.1, { c with
      registry := x.2.registry
      rlp := x.2.records
      base := y.2.countFailure y.1 })

/-! ### Binding -/

/-- `_with_timeout(requester(...), ...)`: the answer, or what is raised. -/
def bindOutcome (c : ClientRelayRuntime) : Outcome Obj → Except Exc Obj × ClientRelayRuntime
  | .returns response => (.ok response, c)
  | .raises exc => (.error exc, c)
  | .timesOut => (.error (timeoutError c.base.config.connectionTimeoutSeconds "Relay-link bind"),
      { c with base := c.base.recordTimeout })

/-- The message of a bind attempt. -/
def bindMessage (c : ClientRelayRuntime) (b : Binding) : Obj :=
  [("protocol", .str "rlp"), ("version", .str "1.0"), ("message_type", .str "bind_session"),
    ("message_id", .str "msg_bind"), ("relay_session_id", .str b.hostSessionId),
    ("source_relay_id", .str c.base.relayId),
    ("payload", .obj [("relay_session_id", .str b.hostSessionId),
      ("client_instance_id", .str c.base.relayId)])]

/-- The message a bind hands the host's details to the client's own handler in. -/
def snapshotMessage (b : Binding) (details : Json) : Obj :=
  [("protocol", .str "rlp"), ("version", .str "1.0"), ("message_type", .str "tool_snapshot"),
    ("message_id", .str "msg_snapshot"), ("relay_session_id", .str b.hostSessionId),
    ("source_relay_id", .str b.hostRelayId), ("payload", details)]

/-- The start of an attempt. -/
def attempt (c : ClientRelayRuntime) : ClientRelayRuntime :=
  { c with base.stats.reconnectAttempts := c.base.stats.reconnectAttempts + 1 }

/-- `bind_via_requester`, up to its first await. -/
def bindStart (c : ClientRelayRuntime) (b : Binding) : ClientRelayRuntime :=
  attempt { c with
    upstream := true
    rlp.hostRelayId := b.hostRelayId
    rlp.relaySessionId := b.hostSessionId
    registry := c.registry.markStale }

/-- How an attempt ends: in the end of the bind, or in an error after which the next attempt
starts if there is one left. -/
inductive Attempt
  | ended (result : Except Exc Obj)
  | failed (error : Exc)

def isProtocolError : Exc → Bool
  | .protocolError _ _ _ => true
  | _ => false

/-- Any other exception of the requester, as a protocol error. -/
def transportFailure (exc : Exc) : Exc :=
  .protocol ("Relay-link bind failed: " ++ exc.text P) "transport_failure"
    (.obj [("exception_type", .str exc.className), ("detail", .str (exc.text P))])

def bindRefused : Exc :=
  .protocol "Failed to bind client relay to host relay" "relay_link_bind_failed" .null

/-- The rest of an attempt, once the requester has ended. -/
def bindReply (c : ClientRelayRuntime) (ids : NewIds) (b : Binding) (outcome : Outcome Obj) :
    Attempt × ClientRelayRuntime :=
  match c.bindOutcome outcome with
  | (.error exc, c) =>
    (.failed (if isProtocolError exc then exc else transportFailure P exc), c.markStale)
  | (.ok response, c) =>
    match item (.obj response) "payload" with
    | .error e => (.ended (.error e), c)
    | .ok payload =>
      match item payload "status" with
      | .error e => (.ended (.error e), c)
      | .ok (.str "ok") =>
        match item payload "details" with
        | .error e => (.ended (.error e), c)
        | .ok details =>
          let x := c.handleRlpMessage P ids (snapshotMessage b details)
          (.ended (x.1.map fun _ => response), x.2)
      | .ok _ => (.failed bindRefused, c)

/-- The attempts of a bind, with so many left after the one that has started. The requester
may have a state of its own. -/
def bindAttempts {S : Type} (requester : S → Obj → Outcome Obj × S) (ids : NewIds) (b : Binding) :
    ℕ → ClientRelayRuntime → S → Except Exc Obj × ClientRelayRuntime × S
  | 0, c, s =>
    let x := requester s (c.bindMessage b)
    match c.bindReply P ids b x.1 with
    | (.ended r, c) => (r, c, x.2)
    | (.failed e, c) => (.error e, c, x.2)
  | n + 1, c, s =>
    let x := requester s (c.bindMessage b)
    match c.bindReply P ids b x.1 with
    | (.ended r, c) => (r, c, x.2)
    | (.failed _, c) => bindAttempts requester ids b n c.attempt x.2

/-- `bind_via_requester`. -/
def bindViaRequester {S : Type} (c : ClientRelayRuntime) (requester : S → Obj → Outcome Obj × S)
    (s : S) (b : Binding) (ids : NewIds) : Except Exc Obj × ClientRelayRuntime × S :=
  bindAttempts P requester ids b c.base.config.reconnectAttempts (c.bindStart b) s

/-! ### Calls of the client -/

/-- The ids drawn for an upstream request. -/
structure RequestIds where
  messageId : String
  executionId : String

/-- The message a callback sends upstream. -/
def upstreamRequest (c : ClientRelayRuntime) (ids : RequestIds) (call : Callback) : Obj :=
  let message (messageType : String) (executionId payload : Obj) : Obj :=
    [("protocol", .str "rlp"), ("version", .str "1.0"), ("message_type", .str messageType),
      ("message_id", .str ids.messageId), ("relay_session_id", .str c.rlp.relaySessionId),
      ("source_relay_id", .str c.base.relayId)] ++ executionId ++ [("payload", .obj payload)]
  match call with
  | .executeTool name arguments => message "execute_tool"
      [("execution_id", .str ids.executionId)] [("tool_name", name), ("arguments", arguments)]
  | .readResource uri arguments => message "read_resource" [] [("uri", uri), ("context", arguments)]
  | .getPrompt name arguments => message "get_prompt" [] [("name", name), ("arguments", arguments)]

/-- What a callback raises when the upstream status is not ok. -/
def upstreamError (payload : Json) (message : String) (data : Json) : Except Exc Json := do
  let text ← getAttr payload "message" (.str message)
  let code ← getAttr payload "code" (.str "upstream_error")
  throw (.protocol (pyStr P text) (pyStr P code) data)

/-- What a callback makes of the upstream response. -/
def upstreamAnswer (call : Callback) (response : Obj) : Except Exc Json := do
  let payload ← item (.obj response) "payload"
  let ok := match ← item payload "status" with
    | .str "ok" => true
    | _ => false
  match call with
  | .executeTool _ _ =>
    if ok then item payload "details"
    else
      match ← getAttr payload "details" (.obj []) with
      | .obj details =>
        match Obj.get details "result" with
        | some (.obj result) => return .obj result
        | _ => upstreamError P payload "Upstream tool execution failed" (.obj details)
      | _ => upstreamError P payload "Upstream tool execution failed" (.obj [])
  | .readResource _ _ =>
    if ok then item (← item payload "details") "contents"
    else upstreamError P payload "Upstream resource read failed" .null
  | .getPrompt _ _ =>
    if ok then item (← item payload "details") "messages"
    else upstreamError P payload "Upstream prompt retrieval failed" .null

/-- What each callback raises while the registry is stale. -/
def staleRegistry (call : Callback) : Exc :=
  .protocol ("Client relay registry is stale; resync required before " ++
    match call with
    | .executeTool _ _ => "execution"
    | .readResource _ _ => "reads"
    | .getPrompt _ _ => "prompts") "stale_registry" .null

/-- `call_tool`, `read_resource` and `get_prompt`, up to the upstream request. -/
def callback (c : ClientRelayRuntime) (ids : RequestIds) (call : Callback) :
    Coroutine Obj (Except Exc Obj) (Except Exc Json) × ClientRelayRuntime :=
  if c.registry.stale then
    (.done (.error (staleRegistry call)),
      { c with base.stats.staleRejections := c.base.stats.staleRejections + 1 })
  else
    match requireEntry P c.registry (callbackTarget call).1 (callbackTarget call).2 with
    | .error e => (.done (.error e), c)
    | .ok _ =>
      if c.upstream then
        (.await (c.upstreamRequest ids call) fun response =>
          response.bind (upstreamAnswer P call), c)
      else (.done (.ok (localAnswer P call)), c)

/-- A client's message while the runtime waits upstream for it. -/
abbrev UpstreamCall := Coroutine Obj (Except Exc Obj) (Except Exc (Option Obj))

/-- `handle_mcp_message`, up to the upstream request. -/
def openMcp (c : ClientRelayRuntime) (ids : RequestIds) (message : Obj) :
    UpstreamCall × ClientRelayRuntime :=
  match c.base.openMcp P c.mcp c.registry message with
  | (.error e, base, mcp) => (.done (.error e), { c with base, mcp })
  | (.ok call, base, mcp) =>
    let c := { c with base, mcp }
    match call with
    | .done response => (.done response, { c with base := c.base.closeMcp response })
    | .await q resume =>
      match c.callback P ids q with
      | (.done answer, c) =>
        (.done (resume answer), { c with base := c.base.closeMcp (resume answer) })
      | (.await request resume', c) => (.await request (resume ∘ resume'), c)

/-- `handle_mcp_message`, from the end of the upstream request. -/
def closeMcp (c : ClientRelayRuntime) (call : UpstreamCall) (outcome : Outcome Obj) :
    Except Exc (Option Obj) × ClientRelayRuntime :=
  let x := c.base.withRequestTimeout call outcome
  (x.1, { c with base := x.2.closeMcp x.1 })

end ClientRelayRuntime

/-! ### Events -/

open ClientRelayRuntime in
/-- A client with the binds in progress, each with the attempts it has left, and the calls
waiting upstream. -/
structure ClientSystem where
  runtime : ClientRelayRuntime
  binds : List (Binding × ℕ) := []
  calls : List UpstreamCall := []

/-- What can happen to a client. -/
inductive ClientEvent
  /-- `bind_via_requester` is called. -/
  | bind (b : Binding)
  /-- The requester ends for a bind in progress. -/
  | bindReply (i : ℕ) (ids : NewIds) (outcome : Outcome Obj)
  /-- `handle_rlp_message` is called. -/
  | rlp (ids : NewIds) (message : Obj)
  | markStale
  | disconnect
  /-- `handle_mcp_message` is called. -/
  | mcp (ids : ClientRelayRuntime.RequestIds) (message : Obj)
  /-- The requester ends for a call. -/
  | mcpReply (i : ℕ) (outcome : Outcome Obj)

/-- One event; `none` where it cannot happen. -/
def ClientSystem.step (s : ClientSystem) : ClientEvent → Option ClientSystem
  | .bind b => some { s with
      runtime := s.runtime.bindStart b
      binds := s.binds ++ [(b, s.runtime.base.config.reconnectAttempts)] }
  | .bindReply i ids outcome =>
    match s.binds[i]? with
    | none => none
    | some (b, n) =>
      match s.runtime.bindReply P ids b outcome, n with
      | (.failed _, c), n + 1 => some { s with runtime := c.attempt, binds := s.binds.set i (b, n) }
      | (_, c), _ => some { s with runtime := c, binds := s.binds.eraseIdx i }
  | .rlp ids message => some { s with runtime := (s.runtime.handleRlpMessage P ids message).2 }
  | .markStale => some { s with runtime := s.runtime.markStale }
  | .disconnect => some { s with runtime := s.runtime.onRlpDisconnect }
  | .mcp ids message =>
    match s.runtime.openMcp P ids message with
    | (.done _, c) => some { s with runtime := c }
    | (call, c) => some { s with runtime := c, calls := s.calls ++ [call] }
  | .mcpReply i outcome =>
    match s.calls[i]? with
    | none => none
    | some call =>
      some { s with runtime := (s.runtime.closeMcp call outcome).2, calls := s.calls.eraseIdx i }

end NaiaRelay.Runtime
