import NaiaRelay.Pydantic
import NaiaRelay.Registry

set_option autoImplicit false

/-!
The payload models of the executor protocol.

The object fields of this protocol take an empty list for an empty object, because some
executors write one for the other. The relay-link protocol has models with the same fields
that do not, so a model that occurs in both is written over `bag`, the check of its object
fields.
-/

namespace NaiaRelay.Tep

open NaiaRelay.Pydantic NaiaRelay.Registry

variable (P : Platform)

/-- `_coerce_empty_list_to_dict`. -/
def coerceEmptyListToDict : Json → Json
  | .arr [] => .obj []
  | v => v

/-- An object field with the coercion in front. -/
def objectBag (v : Json) : Checked Obj := dict (coerceEmptyListToDict v)

structure ExecutorCapabilities where
  tools : Bool := true
  resources : Bool := true
  prompts : Bool := true

def ExecutorCapabilities.validate : Json → Checked ExecutorCapabilities :=
  model "ExecutorCapabilities" ["tools", "resources", "prompts"] fun o =>
    ExecutorCapabilities.mk <$> optional o "tools" true (bool P)
      <*> optional o "resources" true (bool P) <*> optional o "prompts" true (bool P)

structure RegisterExecutorPayload where
  executorId : String
  displayName : Option String
  capabilities : ExecutorCapabilities
  metadata : Obj

def RegisterExecutorPayload.validate : Json → Checked RegisterExecutorPayload :=
  model "RegisterExecutorPayload" ["executor_id", "display_name", "capabilities", "metadata"]
    fun o =>
      RegisterExecutorPayload.mk <$> required o "executor_id" str
        <*> optional o "display_name" none (nullable str)
        <*> optional o "capabilities" {} (ExecutorCapabilities.validate P)
        <*> optional o "metadata" [] objectBag

/-! ### Registrations -/

structure ToolPayload where
  name : String
  description : String
  inputSchema : Obj
  title : Option String
  outputSchema : Option Obj
  metadata : Obj

def ToolPayload.validate : Json → Checked ToolPayload :=
  model "ToolPayload"
    ["name", "description", "input_schema", "title", "output_schema", "metadata"] fun o =>
    ToolPayload.mk <$> required o "name" str <*> required o "description" str
      <*> required o "input_schema" objectBag <*> optional o "title" none (nullable str)
      <*> optional o "output_schema" none (fun v => nullable dict (coerceEmptyListToDict v))
      <*> optional o "metadata" [] objectBag

structure ResourcePayload where
  uri : String
  name : String
  description : Option String
  mimeType : Option String
  metadata : Obj

def ResourcePayload.validate : Json → Checked ResourcePayload :=
  model "ResourcePayload" ["uri", "name", "description", "mime_type", "metadata"] fun o =>
    ResourcePayload.mk <$> required o "uri" str <*> required o "name" str
      <*> optional o "description" none (nullable str)
      <*> optional o "mime_type" none (nullable str) <*> optional o "metadata" [] objectBag

structure PromptArgumentPayload where
  name : String
  description : Option String
  required : Bool

def PromptArgumentPayload.validate : Json → Checked PromptArgumentPayload :=
  model "PromptArgumentPayload" ["name", "description", "required"] fun o =>
    PromptArgumentPayload.mk <$> Pydantic.required o "name" str
      <*> optional o "description" none (nullable str) <*> optional o "required" false (bool P)

def PromptArgumentPayload.modelDump (a : PromptArgumentPayload) : Obj :=
  [("name", .str a.name), ("description", .ofOption a.description), ("required", .bool a.required)]

structure PromptPayload where
  name : String
  description : String
  arguments : List PromptArgumentPayload
  metadata : Obj

def PromptPayload.validate : Json → Checked PromptPayload :=
  model "PromptPayload" ["name", "description", "arguments", "metadata"] fun o =>
    PromptPayload.mk <$> required o "name" str <*> required o "description" str
      <*> optional o "arguments" [] (list (PromptArgumentPayload.validate P))
      <*> optional o "metadata" [] objectBag

/-! The definitions the entries are stored as, under the session that owns them. -/

def ToolPayload.definition (p : ToolPayload) (owner : Option String) : ToolDefinition where
  name := p.name
  title := p.title
  description := p.description
  inputSchema := p.inputSchema
  outputSchema := p.outputSchema
  metadata := p.metadata
  ownerSessionId := owner

def ResourcePayload.definition (p : ResourcePayload) (owner : Option String) :
    ResourceDefinition where
  uri := p.uri
  name := p.name
  description := p.description
  mimeType := p.mimeType
  metadata := p.metadata
  ownerSessionId := owner

def PromptPayload.definition (p : PromptPayload) (owner : Option String) : PromptDefinition where
  name := p.name
  description := p.description
  arguments := p.arguments.map PromptArgumentPayload.modelDump
  metadata := p.metadata
  ownerSessionId := owner

structure RegisterToolsPayload where
  tools : List ToolPayload

def RegisterToolsPayload.validate : Json → Checked RegisterToolsPayload :=
  model "RegisterToolsPayload" ["tools"] fun o =>
    RegisterToolsPayload.mk <$> required o "tools" (list ToolPayload.validate)

structure DeregisterToolsPayload where
  toolNames : List String

def DeregisterToolsPayload.validate : Json → Checked DeregisterToolsPayload :=
  model "DeregisterToolsPayload" ["tool_names"] fun o =>
    DeregisterToolsPayload.mk <$> required o "tool_names" (list str)

structure RegisterResourcesPayload where
  resources : List ResourcePayload

def RegisterResourcesPayload.validate : Json → Checked RegisterResourcesPayload :=
  model "RegisterResourcesPayload" ["resources"] fun o =>
    RegisterResourcesPayload.mk <$> required o "resources" (list ResourcePayload.validate)

structure DeregisterResourcesPayload where
  resourceUris : List String

def DeregisterResourcesPayload.validate : Json → Checked DeregisterResourcesPayload :=
  model "DeregisterResourcesPayload" ["resource_uris"] fun o =>
    DeregisterResourcesPayload.mk <$> required o "resource_uris" (list str)

structure RegisterPromptsPayload where
  prompts : List PromptPayload

def RegisterPromptsPayload.validate : Json → Checked RegisterPromptsPayload :=
  model "RegisterPromptsPayload" ["prompts"] fun o =>
    RegisterPromptsPayload.mk <$> required o "prompts" (list (PromptPayload.validate P))

structure DeregisterPromptsPayload where
  promptNames : List String

def DeregisterPromptsPayload.validate : Json → Checked DeregisterPromptsPayload :=
  model "DeregisterPromptsPayload" ["prompt_names"] fun o =>
    DeregisterPromptsPayload.mk <$> required o "prompt_names" (list str)

/-! ### Operations and their results -/

section
variable (bag : Json → Checked Obj)

structure ReadResourcePayload where
  uri : String
  arguments : Obj
  context : Obj

def ReadResourcePayload.check : Json → Checked ReadResourcePayload :=
  model "ReadResourcePayload" ["uri", "arguments", "context"] fun o =>
    ReadResourcePayload.mk <$> required o "uri" str <*> optional o "arguments" [] bag
      <*> optional o "context" [] bag

structure ResourceResultPayload where
  uri : String
  contents : List Json
  metadata : Obj

def ResourceResultPayload.check : Json → Checked ResourceResultPayload :=
  model "ResourceResultPayload" ["uri", "contents", "metadata"] fun o =>
    ResourceResultPayload.mk <$> required o "uri" str <*> required o "contents" anyList
      <*> optional o "metadata" [] bag

def ResourceResultPayload.modelDump (p : ResourceResultPayload) : Obj :=
  [("uri", .str p.uri), ("contents", .arr p.contents), ("metadata", .obj p.metadata)]

structure GetPromptPayload where
  name : String
  arguments : Obj
  context : Obj

def GetPromptPayload.check : Json → Checked GetPromptPayload :=
  model "GetPromptPayload" ["name", "arguments", "context"] fun o =>
    GetPromptPayload.mk <$> required o "name" str <*> optional o "arguments" [] bag
      <*> optional o "context" [] bag

structure PromptResultPayload where
  name : String
  messages : List Json
  metadata : Obj

def PromptResultPayload.check : Json → Checked PromptResultPayload :=
  model "PromptResultPayload" ["name", "messages", "metadata"] fun o =>
    PromptResultPayload.mk <$> required o "name" str <*> required o "messages" anyList
      <*> optional o "metadata" [] bag

def PromptResultPayload.modelDump (p : PromptResultPayload) : Obj :=
  [("name", .str p.name), ("messages", .arr p.messages), ("metadata", .obj p.metadata)]

structure ExecuteToolPayload where
  toolName : String
  arguments : Obj
  context : Obj
  stream : Bool

def ExecuteToolPayload.check : Json → Checked ExecuteToolPayload :=
  model "ExecuteToolPayload" ["tool_name", "arguments", "context", "stream"] fun o =>
    ExecuteToolPayload.mk <$> required o "tool_name" str <*> optional o "arguments" [] bag
      <*> optional o "context" [] bag <*> optional o "stream" false (bool P)

structure ProgressPayload where
  message : Option String
  percentage : Option ℤ

def ProgressPayload.check : Json → Checked ProgressPayload :=
  model "ProgressPayload" ["message", "percentage"] fun o =>
    ProgressPayload.mk <$> optional o "message" none (nullable str)
      <*> optional o "percentage" none (nullable fun v => (int P v).andThen (between 0 100 v))

structure ExecutionProgressPayload where
  toolName : String
  progress : ProgressPayload

def ExecutionProgressPayload.check : Json → Checked ExecutionProgressPayload :=
  model "ExecutionProgressPayload" ["tool_name", "progress"] fun o =>
    ExecutionProgressPayload.mk <$> required o "tool_name" str
      <*> required o "progress" (ProgressPayload.check P)

def ExecutionProgressPayload.modelDump (p : ExecutionProgressPayload) : Obj :=
  [("tool_name", .str p.toolName),
    ("progress", .obj [("message", .ofOption p.progress.message),
      ("percentage", p.progress.percentage.elim .null .int)])]

structure ExecutionResultPayload where
  toolName : String
  result : Obj
  isError : Bool
  metadata : Obj

def ExecutionResultPayload.check : Json → Checked ExecutionResultPayload :=
  model "ExecutionResultPayload" ["tool_name", "result", "is_error", "metadata"] fun o =>
    ExecutionResultPayload.mk <$> required o "tool_name" str <*> optional o "result" [] bag
      <*> optional o "is_error" false (bool P) <*> optional o "metadata" [] bag

def ExecutionResultPayload.modelDump (p : ExecutionResultPayload) : Obj :=
  [("tool_name", .str p.toolName), ("result", .obj p.result), ("is_error", .bool p.isError),
    ("metadata", .obj p.metadata)]

structure ExecutionErrorPayload where
  toolName : String
  code : String
  message : String
  details : Obj

def ExecutionErrorPayload.check : Json → Checked ExecutionErrorPayload :=
  model "ExecutionErrorPayload" ["tool_name", "code", "message", "details"] fun o =>
    ExecutionErrorPayload.mk <$> required o "tool_name" str <*> required o "code" str
      <*> required o "message" str <*> optional o "details" [] bag

def ExecutionErrorPayload.modelDump (p : ExecutionErrorPayload) : Obj :=
  [("tool_name", .str p.toolName), ("code", .str p.code), ("message", .str p.message),
    ("details", .obj p.details)]

structure HeartbeatPayload where
  timestamp : String

def HeartbeatPayload.check : Json → Checked HeartbeatPayload :=
  model "HeartbeatPayload" ["timestamp"] fun o =>
    HeartbeatPayload.mk <$> required o "timestamp" str

structure DisconnectPayload where
  reason : String

def DisconnectPayload.check : Json → Checked DisconnectPayload :=
  model "DisconnectPayload" ["reason"] fun o => DisconnectPayload.mk <$> required o "reason" str

/-- The dump of a `StatusPayload`. -/
def statusDump (status : String) (code message : Option String) (details : Obj) : Obj :=
  [("status", .str status), ("code", .ofOption code), ("message", .ofOption message),
    ("details", .obj details)]

/-- `StatusPayload(status="ok", details=details or {})`, dumped. -/
def okStatus (details : Json) : Except Exc Obj :=
  modelValidate "StatusPayload"
    (statusDump "ok" none none <$> within (.str "details") (bag (details.orElse (.obj []))))

/-- `StatusPayload(status="error", ...)`, dumped. -/
def errorStatus (code message : String) (details : Obj) : Obj :=
  statusDump "error" (some code) (some message) details

/-- The status of a reply. -/
def replyStatus (response : Obj) : Option Json :=
  match Obj.get response "payload" with
  | some (.obj payload) => Obj.get payload "status"
  | _ => none

@[simp] lemma get_statusDump_status (status : String) (code message : Option String)
    (details : Obj) :
    Obj.get (statusDump status code message details) "status" = some (.str status) := rfl

end

/-! ### The payload of a message -/

/-- A payload under the type of the message that carries it. -/
inductive Payload
  | registerExecutor (p : RegisterExecutorPayload)
  | registerTools (p : RegisterToolsPayload)
  | deregisterTools (p : DeregisterToolsPayload)
  | registerResources (p : RegisterResourcesPayload)
  | deregisterResources (p : DeregisterResourcesPayload)
  | readResource (p : ReadResourcePayload)
  | resourceResult (p : ResourceResultPayload)
  | registerPrompts (p : RegisterPromptsPayload)
  | deregisterPrompts (p : DeregisterPromptsPayload)
  | getPrompt (p : GetPromptPayload)
  | promptResult (p : PromptResultPayload)
  | executeTool (p : ExecuteToolPayload)
  | executionProgress (p : ExecutionProgressPayload)
  | executionResult (p : ExecutionResultPayload)
  | executionError (p : ExecutionErrorPayload)
  | heartbeat (p : HeartbeatPayload)
  | shutdown (p : DisconnectPayload)
  | disconnectNotice (p : DisconnectPayload)

/-- `MESSAGE_PAYLOAD_MODELS.get(message_type)`, as the check it stands for. -/
def messagePayloadModel (messageType : String) : Option (Json → Except Exc Payload) :=
  match messageType with
  | "register_executor" => some fun v => modelValidate "RegisterExecutorPayload"
      (.registerExecutor <$> RegisterExecutorPayload.validate P v)
  | "register_tools" => some fun v => modelValidate "RegisterToolsPayload"
      (.registerTools <$> RegisterToolsPayload.validate v)
  | "deregister_tools" => some fun v => modelValidate "DeregisterToolsPayload"
      (.deregisterTools <$> DeregisterToolsPayload.validate v)
  | "register_resources" => some fun v => modelValidate "RegisterResourcesPayload"
      (.registerResources <$> RegisterResourcesPayload.validate v)
  | "deregister_resources" => some fun v => modelValidate "DeregisterResourcesPayload"
      (.deregisterResources <$> DeregisterResourcesPayload.validate v)
  | "read_resource" => some fun v => modelValidate "ReadResourcePayload"
      (.readResource <$> ReadResourcePayload.check objectBag v)
  | "resource_result" => some fun v => modelValidate "ResourceResultPayload"
      (.resourceResult <$> ResourceResultPayload.check objectBag v)
  | "register_prompts" => some fun v => modelValidate "RegisterPromptsPayload"
      (.registerPrompts <$> RegisterPromptsPayload.validate P v)
  | "deregister_prompts" => some fun v => modelValidate "DeregisterPromptsPayload"
      (.deregisterPrompts <$> DeregisterPromptsPayload.validate v)
  | "get_prompt" => some fun v => modelValidate "GetPromptPayload"
      (.getPrompt <$> GetPromptPayload.check objectBag v)
  | "prompt_result" => some fun v => modelValidate "PromptResultPayload"
      (.promptResult <$> PromptResultPayload.check objectBag v)
  | "execute_tool" => some fun v => modelValidate "ExecuteToolPayload"
      (.executeTool <$> ExecuteToolPayload.check P objectBag v)
  | "execution_progress" => some fun v => modelValidate "ExecutionProgressPayload"
      (.executionProgress <$> ExecutionProgressPayload.check P v)
  | "execution_result" => some fun v => modelValidate "ExecutionResultPayload"
      (.executionResult <$> ExecutionResultPayload.check P objectBag v)
  | "execution_error" => some fun v => modelValidate "ExecutionErrorPayload"
      (.executionError <$> ExecutionErrorPayload.check objectBag v)
  | "heartbeat" => some fun v => modelValidate "HeartbeatPayload"
      (.heartbeat <$> HeartbeatPayload.check v)
  | "shutdown" => some fun v => modelValidate "DisconnectPayload"
      (.shutdown <$> DisconnectPayload.check v)
  | "disconnect_notice" => some fun v => modelValidate "DisconnectPayload"
      (.disconnectNotice <$> DisconnectPayload.check v)
  | _ => none

end NaiaRelay.Tep
