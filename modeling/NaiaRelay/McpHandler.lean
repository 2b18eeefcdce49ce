import NaiaRelay.Lib.Coroutine
import NaiaRelay.Pydantic
import NaiaRelay.Registry

set_option autoImplicit false

/-!
The client-facing handler: JSON-RPC requests over the entries of a registry.
-/

namespace NaiaRelay.Mcp

open NaiaRelay.Pydantic NaiaRelay.Registry

variable (P : Platform)

structure JsonRpcRequest where
  jsonrpc : String
  id : Json
  method : String
  params : Obj

def JsonRpcRequest.validate : Json → Checked JsonRpcRequest :=
  model "JsonRpcRequest" ["jsonrpc", "id", "method", "params"] fun o =>
    JsonRpcRequest.mk <$> optional o "jsonrpc" "2.0" str <*> optional o "id" .null (strOrInt P)
      <*> required o "method" str <*> optional o "params" [] dict

/-- The fields of an `MCPHandler` but its registry. Of a callback only its presence counts
here. -/
structure MCPRecords where
  executeTool : Bool := false
  readResource : Bool := false
  getPrompt : Bool := false
  initialized : Bool := false
  logLevel : String := "info"

/-- A callback with what it is called on; nothing is checked of a name but that it is there. -/
inductive Callback
  | executeTool (name arguments : Json)
  | readResource (uri arguments : Json)
  | getPrompt (name arguments : Json)

/-- A call of the handler: its response, `none` for a notification, or its exception. -/
abbrev Call := Coroutine Callback (Except Exc Json) (Except Exc (Option Obj))

def supportedProtocolVersions : List String := ["2025-06-18", "2025-03-26"]

def defaultProtocolVersion : String := "2025-06-18"

/-- `_negotiate_protocol_version`. -/
def negotiateProtocolVersion (params : Obj) : String :=
  match Obj.get params "protocolVersion" with
  | some (.str requested) =>
    if supportedProtocolVersions.contains requested then requested else defaultProtocolVersion
  | _ => defaultProtocolVersion

/-- `_result`. -/
def result (id : Json) (value : Json) : Obj :=
  [("jsonrpc", .str "2.0"), ("id", id), ("result", value)]

/-- `_error`. -/
def error (id : Json) (code : ℤ) (message : String) (data : Obj := []) : Obj :=
  [("jsonrpc", .str "2.0"), ("id", id),
    ("error", .obj [("code", .int code), ("message", .str message), ("data", .obj data)])]

/-- `payload[key] = value` for an optional field that is there. -/
def field (key : String) : Option Json → Obj
  | none => []
  | some v => [(key, v)]

/-- `_serialize_tool`. -/
def serializeTool (tool : ToolDefinition) : Obj :=
  [("name", .str tool.name), ("description", .str tool.description),
    ("inputSchema", .obj tool.inputSchema)]
    ++ field "title" (tool.title.map .str) ++ field "outputSchema" (tool.outputSchema.map .obj)

/-- `_serialize_resource`. -/
def serializeResource (resource : ResourceDefinition) : Obj :=
  [("uri", .str resource.uri), ("name", .str resource.name)]
    ++ field "description" (resource.description.map .str)
    ++ field "mimeType" (resource.mimeType.map .str)

def serializePrompt (prompt : PromptDefinition) : Obj :=
  [("name", .str prompt.name), ("description", .str prompt.description),
    ("arguments", .arr (prompt.arguments.map .obj))]

def serverCapabilities : Json :=
  .obj [("tools", .obj [("listChanged", .bool true)]),
    ("resources", .obj [("listChanged", .bool true)]),
    ("prompts", .obj [("listChanged", .bool true)]), ("logging", .obj [])]

def done (response : Obj) : Call := .done (.ok (some response))

/-- A method that goes through a callback: the named parameter must be there, a missing
callback is an error response, and so is a callback that raises. -/
def callback (request : JsonRpcRequest) (present : Bool) (key : String)
    (call : Json → Json → Callback) (wrap : Json → Json) : Call :=
  match Obj.get request.params key with
  | none => .done (.error (.keyError (.str key)))
  | some name =>
    let arguments := Obj.getD request.params "arguments" (.obj [])
    if present then
      .await (call name arguments) fun
        | .ok value => .ok (some (result request.id (wrap value)))
        | .error exc => .ok (some (error request.id (-32000)
            (request.method ++ " failed for " ++ pyStr P name)
            [("exception_type", .str exc.className), ("detail", .str (exc.text P))]))
    else done (error request.id (-32601) (request.method ++ " not available"))

/-- The `match` of `handle_message`. -/
def MCPRecords.dispatch (r : MCPRecords) (registry : RegistryStore) (request : JsonRpcRequest) :
    Call × MCPRecords :=
  match request.method with
  | "initialize" =>
    (done (result request.id (.obj [
      ("protocolVersion", .str (negotiateProtocolVersion request.params)),
      ("capabilities", serverCapabilities),
      ("serverInfo", .obj [("name", .str "naia-relay"), ("version", .str "0.1.0")])])),
      { r with initialized := false })
  | "notifications/initialized" => (.done (.ok none), { r with initialized := true })
  | "tools/list" =>
    (done (result request.id (.obj [("tools",
      .arr (registry.snapshot.tools.map fun tool => .obj (serializeTool tool)))])), r)
  | "tools/call" => (callback P request r.executeTool "name" .executeTool id, r)
  | "resources/list" =>
    (done (result request.id (.obj [("resources",
      .arr (registry.snapshot.resources.map fun resource => .obj (serializeResource resource)))])),
      r)
  | "resources/read" => (callback P request r.readResource "uri" .readResource fun contents =>
      .obj [("contents", contents)], r)
  | "prompts/list" =>
    (done (result request.id (.obj [("prompts",
      .arr (registry.snapshot.prompts.map fun prompt => .obj (serializePrompt prompt)))])), r)
  | "prompts/get" => (callback P request r.getPrompt "name" .getPrompt fun messages =>
      .obj [("messages", messages)], r)
  | "logging/setLevel" =>
    (done (result request.id (.obj [])),
      { r with logLevel := pyStr P (Obj.getD request.params "level" (.str "info")) })
  | "sampling/createMessage" => (unsupported request, r)
  | "roots/list" => (unsupported request, r)
  | "completion/complete" => (unsupported request, r)
  | method => (done (error request.id (-32601) ("Method not found: " ++ method)), r)
where
  unsupported (request : JsonRpcRequest) : Call :=
    done (error request.id (-32601) (request.method ++ " is unsupported in naia-relay v1"))

/-- `handle_message`, up to the callback it waits for. -/
def MCPRecords.handleMessage (r : MCPRecords) (registry : RegistryStore) (message : Obj) :
    Call × MCPRecords :=
  match modelValidate "JsonRpcRequest" (JsonRpcRequest.validate P (.obj message)) with
  | .error e => (.done (.error e), r)
  | .ok request => r.dispatch P registry request

end NaiaRelay.Mcp
