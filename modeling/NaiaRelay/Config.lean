import NaiaRelay.Pydantic

set_option autoImplicit false

/-!
The configuration: its sections, the rules of each, and the two stages a raw mapping goes
through. A raw configuration is checked for its role, dumped, and checked again as the
configuration of that role.
-/

namespace NaiaRelay.Config

open NaiaRelay.Pydantic

variable (P : Platform)

/-! ### Sections -/

inductive McpTransportType | stdio | http
  deriving DecidableEq, Repr

inductive ExecutorTransportType | stdio | tcp
  deriving DecidableEq, Repr

inductive RelayLinkTransportType | tcp
  deriving DecidableEq, Repr

inductive RoleType | direct | host | client
  deriving DecidableEq, Repr

def McpTransportType.text : McpTransportType → String
  | stdio => "stdio"
  | http => "http"

def ExecutorTransportType.text : ExecutorTransportType → String
  | stdio => "stdio"
  | tcp => "tcp"

def RelayLinkTransportType.text : RelayLinkTransportType → String
  | tcp => "tcp"

def RoleType.text : RoleType → String
  | direct => "direct"
  | host => "host"
  | client => "client"

def McpTransportType.check : Json → Checked McpTransportType :=
  oneOf [("stdio", stdio), ("http", http)]

def ExecutorTransportType.check : Json → Checked ExecutorTransportType :=
  oneOf [("stdio", stdio), ("tcp", tcp)]

def RelayLinkTransportType.check : Json → Checked RelayLinkTransportType := oneOf [("tcp", tcp)]

def RoleType.check : Json → Checked RoleType :=
  oneOf [("direct", direct), ("host", host), ("client", client)]

abbrev AtLeast (lo : ℤ) := {n : ℤ // lo ≤ n}

abbrev InRange (lo hi : ℤ) := {n : ℤ // lo ≤ n ∧ n ≤ hi}

/-- A port to connect to. -/
abbrev Port := InRange 1 65535

/-- A port to listen on; 0 leaves the choice to the system. -/
abbrev BindPort := InRange 0 65535

def optionalInt : Option ℤ → Json
  | none => .null
  | some n => .int n

structure RelayConfig where
  requestTimeoutSeconds : AtLeast 1 := ⟨60, by decide⟩
  connectionTimeoutSeconds : AtLeast 1 := ⟨10, by decide⟩
  heartbeatTimeoutSeconds : AtLeast 1 := ⟨30, by decide⟩
  maxMessageSizeBytes : AtLeast 1024 := ⟨1048576, by decide⟩
  maxInFlightRequests : AtLeast 1 := ⟨32, by decide⟩
  maxQueueDepth : AtLeast 1 := ⟨128, by decide⟩
  reconnectAttempts : AtLeast 0 := ⟨3, by decide⟩
  rejectDuplicateToolNames : Bool := true
  logLevel : String := "info"
  deriving DecidableEq

def RelayConfig.default : RelayConfig := {}

def RelayConfig.validate : Json → Checked RelayConfig :=
  let default := RelayConfig.default
  model "RelayConfig" ["request_timeout_seconds", "connection_timeout_seconds",
    "heartbeat_timeout_seconds", "max_message_size_bytes", "max_in_flight_requests",
    "max_queue_depth", "reconnect_attempts", "reject_duplicate_tool_names", "log_level"] fun o =>
    RelayConfig.mk
      <$> optional o "request_timeout_seconds" default.requestTimeoutSeconds (atLeast P 1)
      <*> optional o "connection_timeout_seconds" default.connectionTimeoutSeconds (atLeast P 1)
      <*> optional o "heartbeat_timeout_seconds" default.heartbeatTimeoutSeconds (atLeast P 1)
      <*> optional o "max_message_size_bytes" default.maxMessageSizeBytes (atLeast P 1024)
      <*> optional o "max_in_flight_requests" default.maxInFlightRequests (atLeast P 1)
      <*> optional o "max_queue_depth" default.maxQueueDepth (atLeast P 1)
      <*> optional o "reconnect_attempts" default.reconnectAttempts (atLeast P 0)
      <*> optional o "reject_duplicate_tool_names" default.rejectDuplicateToolNames (bool P)
      <*> optional o "log_level" default.logLevel str

def RelayConfig.modelDump (c : RelayConfig) : Obj :=
  [("request_timeout_seconds", .int c.requestTimeoutSeconds),
    ("connection_timeout_seconds", .int c.connectionTimeoutSeconds),
    ("heartbeat_timeout_seconds", .int c.heartbeatTimeoutSeconds),
    ("max_message_size_bytes", .int c.maxMessageSizeBytes),
    ("max_in_flight_requests", .int c.maxInFlightRequests),
    ("max_queue_depth", .int c.maxQueueDepth), ("reconnect_attempts", .int c.reconnectAttempts),
    ("reject_duplicate_tool_names", .bool c.rejectDuplicateToolNames),
    ("log_level", .str c.logLevel)]

/-- The fields of an `McpConfig`, each checked by itself. -/
structure McpFields where
  transport : McpTransportType
  host : Option String
  port : Option Port
  deriving DecidableEq

def McpFields.validate : Json → Checked McpFields :=
  model "McpConfig" ["transport", "host", "port"] fun o =>
    McpFields.mk <$> required o "transport" McpTransportType.check
      <*> optional o "host" none (nullable str)
      <*> optional o "port" none (nullable (inRange P 1 65535))

def McpFields.modelDump (c : McpFields) : Obj :=
  [("transport", .str c.transport.text), ("host", .ofOption c.host),
    ("port", optionalInt (c.port.map Subtype.val))]

/-- With http, the host is known and not empty, and so is the port. -/
structure McpConfig extends McpFields where
  requirements : transport = .http → (∃ h, host = some h ∧ h ≠ "") ∧ port ≠ none

lemma orText_ne_empty (a : Option String) {b : String} (h : b ≠ "") : orText a b ≠ "" := by
  unfold orText
  split
  · exact h
  · split_ifs with hs
    · exact h
    · exact hs

/-- `McpConfig.validate_transport_requirements`. -/
def McpFields.validateTransportRequirements (c : McpFields) : Except String McpConfig :=
  if h : c.transport = .http then
    if hport : c.port = none then .error "mcp.port is required when mcp.transport=http"
    else .ok
      { c with
        host := some (orText c.host "127.0.0.1")
        requirements := fun _ => ⟨⟨_, rfl, orText_ne_empty c.host (by decide)⟩, hport⟩ }
  else .ok { c with requirements := fun h' => absurd h' h }

def McpConfig.validate (v : Json) : Checked McpConfig :=
  after McpFields.validateTransportRequirements v (McpFields.validate P v)

/-- The fields of a `TcpEndpointConfig` or a `RelayLinkConfig`, by the type of its transports. -/
structure EndpointFields (T : Type) where
  transport : T
  host : Option String
  port : Option Port
  bindHost : Option String
  bindPort : Option BindPort
  deriving DecidableEq

def EndpointFields.validate {T : Type} (cls : String) (check : Json → Checked T) :
    Json → Checked (EndpointFields T) :=
  model cls ["transport", "host", "port", "bind_host", "bind_port"] fun o =>
    EndpointFields.mk <$> required o "transport" check
      <*> optional o "host" none (nullable str)
      <*> optional o "port" none (nullable (inRange P 1 65535))
      <*> optional o "bind_host" none (nullable str)
      <*> optional o "bind_port" none (nullable (inRange P 0 65535))

def EndpointFields.modelDump {T : Type} (text : T → String) (c : EndpointFields T) : Obj :=
  [("transport", .str (text c.transport)), ("host", .ofOption c.host),
    ("port", optionalInt (c.port.map Subtype.val)), ("bind_host", .ofOption c.bindHost),
    ("bind_port", optionalInt (c.bindPort.map Subtype.val))]

/-- With tcp, there is a host and a port, to connect to or to listen on. -/
structure EndpointConfig (T : Type) (tcp : T) extends EndpointFields T where
  requirements : transport = tcp →
    (host ≠ none ∨ bindHost ≠ none) ∧ (port ≠ none ∨ bindPort ≠ none)

/-- `validate_transport_requirements` of either class. -/
def EndpointFields.validateTransportRequirements {T : Type} [DecidableEq T] (tcp : T)
    (message : String) (c : EndpointFields T) : Except String (EndpointConfig T tcp) :=
  if h : c.transport = tcp then
    if hport : c.port = none ∧ c.bindPort = none then .error message
    else .ok
      { c with
        host := if c.host = none ∧ c.bindHost = none then some "127.0.0.1" else c.host
        requirements := fun _ => by
          refine ⟨?_, by tauto⟩
          split_ifs with hhost
          · exact Or.inl (by simp)
          · tauto }
  else .ok { c with requirements := fun h' => absurd h' h }

abbrev TcpEndpointConfig := EndpointConfig ExecutorTransportType .tcp

abbrev RelayLinkConfig := EndpointConfig RelayLinkTransportType .tcp

def TcpEndpointConfig.fields : Json → Checked (EndpointFields ExecutorTransportType) :=
  EndpointFields.validate P "TcpEndpointConfig" ExecutorTransportType.check

def RelayLinkConfig.fields : Json → Checked (EndpointFields RelayLinkTransportType) :=
  EndpointFields.validate P "RelayLinkConfig" RelayLinkTransportType.check

/-- `TcpEndpointConfig.validate_transport_requirements`. -/
def TcpEndpointConfig.validateTransportRequirements :
    EndpointFields ExecutorTransportType → Except String TcpEndpointConfig :=
  EndpointFields.validateTransportRequirements ExecutorTransportType.tcp
    "tcp transport requires port or bind_port"

/-- `RelayLinkConfig.validate_transport_requirements`. -/
def RelayLinkConfig.validateTransportRequirements :
    EndpointFields RelayLinkTransportType → Except String RelayLinkConfig :=
  EndpointFields.validateTransportRequirements RelayLinkTransportType.tcp
    "relay_link tcp transport requires port or bind_port"

def TcpEndpointConfig.validate (v : Json) : Checked TcpEndpointConfig :=
  after TcpEndpointConfig.validateTransportRequirements v (TcpEndpointConfig.fields P v)

def RelayLinkConfig.validate (v : Json) : Checked RelayLinkConfig :=
  after RelayLinkConfig.validateTransportRequirements v (RelayLinkConfig.fields P v)

def McpConfig.modelDump (c : McpConfig) : Json := .obj c.toMcpFields.modelDump

def TcpEndpointConfig.modelDump (c : TcpEndpointConfig) : Json :=
  .obj (c.toEndpointFields.modelDump ExecutorTransportType.text)

def RelayLinkConfig.modelDump (c : RelayLinkConfig) : Json :=
  .obj (c.toEndpointFields.modelDump RelayLinkTransportType.text)

/-- The dump of a section that may be missing. -/
def optionalDump {C : Type} (dump : C → Json) : Option C → Json
  | none => .null
  | some c => dump c

/-! ### The raw configuration -/

/-- The sections of a `RawConfig`. -/
structure RawFields where
  role : RoleType
  mcp : Option McpConfig
  executor : Option TcpEndpointConfig
  relayLink : Option RelayLinkConfig
  relay : RelayConfig

/-- Which sections a role has, by their transports: the ones it requires and no other, and for a
direct role not stdio on both sides. -/
def FitsRole : RoleType → Option McpTransportType → Option ExecutorTransportType →
    Option RelayLinkTransportType → Prop
  | .direct, some mcp, some executor, none => ¬ (mcp = .stdio ∧ executor = .stdio)
  | .host, none, some _, some _ => True
  | .client, some _, none, some _ => True
  | _, _, _, _ => False

def RawFields.FitsRole (c : RawFields) : Prop :=
  Config.FitsRole c.role (c.mcp.map (·.transport)) (c.executor.map (·.transport))
    (c.relayLink.map (·.transport))

structure RawConfig extends RawFields where
  fitsRole : toRawFields.FitsRole

/-- What `validate_for_role` objects to. -/
def RawFields.roleError (c : RawFields) : Option String :=
  match c.role with
  | .direct =>
    match c.mcp, c.executor with
    | some mcp, some executor =>
      if c.relayLink.isSome then some "role 'direct' must not define 'relay_link'"
      else if mcp.transport = .stdio ∧ executor.transport = .stdio then
        some "role 'direct' cannot use stdio for both mcp and executor transports"
      else none
    | _, _ => some "role 'direct' requires both 'mcp' and 'executor'"
  | .host =>
    if c.executor.isNone ∨ c.relayLink.isNone then
      some "role 'host' requires both 'executor' and 'relay_link'"
    else if c.mcp.isSome then some "role 'host' must not define 'mcp'"
    else none
  | .client =>
    if c.mcp.isNone ∨ c.relayLink.isNone then
      some "role 'client' requires both 'mcp' and 'relay_link'"
    else if c.executor.isSome then some "role 'client' must not define 'executor'"
    else none

lemma roleError_eq_none {c : RawFields} : c.roleError = none ↔ c.FitsRole := by
  obtain ⟨role, mcp, executor, relayLink, relay⟩ := c
  cases role <;> cases mcp <;> cases executor <;> cases relayLink <;>
    simp [RawFields.roleError, RawFields.FitsRole, FitsRole]

/-- `validate_for_role`. -/
def RawFields.validateForRole (c : RawFields) : Except String RawConfig :=
  match h : c.roleError with
  | some message => .error message
  | none => .ok { c with fitsRole := roleError_eq_none.mp h }

def RawFields.validate : Json → Checked RawFields :=
  model "RawConfig" ["role", "mcp", "executor", "relay_link", "relay"] fun o =>
    RawFields.mk <$> required o "role" RoleType.check
      <*> optional o "mcp" none (nullable (McpConfig.validate P))
      <*> optional o "executor" none (nullable (TcpEndpointConfig.validate P))
      <*> optional o "relay_link" none (nullable (RelayLinkConfig.validate P))
      <*> optional o "relay" .default (RelayConfig.validate P)

def RawConfig.validate (v : Json) : Checked RawConfig :=
  after RawFields.validateForRole v (RawFields.validate P v)

def RawConfig.modelDump (c : RawConfig) : Obj :=
  [("role", .str c.role.text), ("mcp", optionalDump McpConfig.modelDump c.mcp),
    ("executor", optionalDump TcpEndpointConfig.modelDump c.executor),
    ("relay_link", optionalDump RelayLinkConfig.modelDump c.relayLink),
    ("relay", .obj c.relay.modelDump)]

/-! ### The configurations of the roles -/

structure DirectConfig where
  mcp : McpConfig
  executor : TcpEndpointConfig
  relay : RelayConfig

structure HostConfig where
  executor : TcpEndpointConfig
  relayLink : RelayLinkConfig
  relay : RelayConfig

structure ClientConfig where
  mcp : McpConfig
  relayLink : RelayLinkConfig
  relay : RelayConfig

inductive RelayAppConfig
  | direct (c : DirectConfig)
  | host (c : HostConfig)
  | client (c : ClientConfig)

def DirectConfig.validate : Json → Checked DirectConfig :=
  model "DirectConfig" ["role", "mcp", "executor", "relay", "relay_link"] fun o =>
    (fun _ mcp executor relay _ => ⟨mcp, executor, relay⟩)
      <$> required o "role" (oneOf [("direct", RoleType.direct)])
      <*> required o "mcp" (McpConfig.validate P)
      <*> required o "executor" (TcpEndpointConfig.validate P)
      <*> optional o "relay" .default (RelayConfig.validate P)
      <*> optional o "relay_link" () noneType

def HostConfig.validate : Json → Checked HostConfig :=
  model "HostConfig" ["role", "executor", "relay_link", "relay", "mcp"] fun o =>
    (fun _ executor relayLink relay _ => ⟨executor, relayLink, relay⟩)
      <$> required o "role" (oneOf [("host", RoleType.host)])
      <*> required o "executor" (TcpEndpointConfig.validate P)
      <*> required o "relay_link" (RelayLinkConfig.validate P)
      <*> optional o "relay" .default (RelayConfig.validate P)
      <*> optional o "mcp" () noneType

def ClientConfig.validate : Json → Checked ClientConfig :=
  model "ClientConfig" ["role", "mcp", "relay_link", "relay", "executor"] fun o =>
    (fun _ mcp relayLink relay _ => ⟨mcp, relayLink, relay⟩)
      <$> required o "role" (oneOf [("client", RoleType.client)])
      <*> required o "mcp" (McpConfig.validate P)
      <*> required o "relay_link" (RelayLinkConfig.validate P)
      <*> optional o "relay" .default (RelayConfig.validate P)
      <*> optional o "executor" () noneType

def RelayAppConfig.modelDump : RelayAppConfig → Obj
  | direct c => [("role", .str "direct"), ("mcp", c.mcp.modelDump),
      ("executor", TcpEndpointConfig.modelDump c.executor), ("relay", .obj c.relay.modelDump),
      ("relay_link", .null)]
  | host c => [("role", .str "host"), ("executor", TcpEndpointConfig.modelDump c.executor),
      ("relay_link", RelayLinkConfig.modelDump c.relayLink), ("relay", .obj c.relay.modelDump),
      ("mcp", .null)]
  | client c => [("role", .str "client"), ("mcp", c.mcp.modelDump),
      ("relay_link", RelayLinkConfig.modelDump c.relayLink), ("relay", .obj c.relay.modelDump),
      ("executor", .null)]

/-- `to_typed_config`. -/
def RawConfig.toTypedConfig (c : RawConfig) : Except Exc RelayAppConfig :=
  let payload : Json := .obj c.modelDump
  match c.role with
  | .direct => (modelValidate "DirectConfig" (DirectConfig.validate P payload)).map .direct
  | .host => (modelValidate "HostConfig" (HostConfig.validate P payload)).map .host
  | .client => (modelValidate "ClientConfig" (ClientConfig.validate P payload)).map .client

/-- `ConfigurationError(message)`. -/
def configurationError (message : String) : Exc := .other "ConfigurationError" message

/-- `parse_config`. -/
def parseConfig (data : Obj) : Except Exc RelayAppConfig :=
  match (modelValidate "RawConfig" (RawConfig.validate P (.obj data))).bind
    (RawConfig.toTypedConfig P) with
  | .ok c => .ok c
  | .error exc => .error (configurationError (exc.text P))

end NaiaRelay.Config
