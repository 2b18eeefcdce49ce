import NaiaRelay.TepModels

set_option autoImplicit false

/-!
The payload models of the relay-link protocol.

A snapshot and the incremental messages carry the entries in the executor protocol's own
models. The operations and their results have the executor protocol's fields without its
coercion of empty lists.
-/

namespace NaiaRelay.Rlp

open NaiaRelay.Pydantic NaiaRelay.Registry NaiaRelay.Tep

variable (P : Platform)

structure HelloPayload where
  relayId : String
  role : String
  capabilities : List (String × Bool)
  metadata : Obj

def HelloPayload.validate : Json → Checked HelloPayload :=
  model "HelloPayload" ["relay_id", "role", "capabilities", "metadata"] fun o =>
    HelloPayload.mk <$> required o "relay_id" str <*> required o "role" (literal "host" "client")
      <*> optional o "capabilities" [("tool_sync", true), ("tool_execution", true)]
        (dictOf (bool P))
      <*> optional o "metadata" [] dict

structure BindSessionPayload where
  relaySessionId : String
  sessionToken : Option String
  clientInstanceId : String

def BindSessionPayload.validate : Json → Checked BindSessionPayload :=
  model "BindSessionPayload" ["relay_session_id", "session_token", "client_instance_id"] fun o =>
    BindSessionPayload.mk <$> required o "relay_session_id" str
      <*> optional o "session_token" none (nullable str) <*> required o "client_instance_id" str

structure SnapshotPayload where
  registryRevision : ℤ
  tools : List ToolPayload
  resources : List ResourcePayload
  prompts : List PromptPayload

def SnapshotPayload.validate : Json → Checked SnapshotPayload :=
  model "SnapshotPayload" ["registry_revision", "tools", "resources", "prompts"] fun o =>
    SnapshotPayload.mk <$> required o "registry_revision" (int P)
      <*> optional o "tools" [] (list ToolPayload.validate)
      <*> optional o "resources" [] (list ResourcePayload.validate)
      <*> optional o "prompts" [] (list (PromptPayload.validate P))

/-! ### Incremental messages -/

/-- The model an entry travels in. -/
abbrev EntryPayload : Kind → Type
  | .tool => ToolPayload
  | .resource => ResourcePayload
  | .prompt => PromptPayload

def EntryPayload.validate : (k : Kind) → Json → Checked (EntryPayload k)
  | .tool => ToolPayload.validate
  | .resource => ResourcePayload.validate
  | .prompt => PromptPayload.validate P

/-- The definition an entry is stored as. -/
def EntryPayload.definition : (k : Kind) → EntryPayload k → Option String → k.Definition
  | .tool, p, owner => ToolPayload.definition p owner
  | .resource, p, owner => ResourcePayload.definition p owner
  | .prompt, p, owner => PromptPayload.definition p owner

/-- An added or updated entry with the revision it led to. -/
structure MutationPayload (k : Kind) where
  registryRevision : ℤ
  entry : EntryPayload k

/-- A removed name or uri with the revision it led to. -/
structure RemovedPayload where
  registryRevision : ℤ
  name : String

def mutationPayload (k : Kind) (cls field : String) : Json → Checked (MutationPayload k) :=
  model cls ["registry_revision", field] fun o =>
    MutationPayload.mk <$> required o "registry_revision" (int P)
      <*> required o field (EntryPayload.validate P k)

def removedPayload (cls field : String) : Json → Checked RemovedPayload :=
  model cls ["registry_revision", field] fun o =>
    RemovedPayload.mk <$> required o "registry_revision" (int P) <*> required o field str

def ToolMutationPayload.validate := mutationPayload P .tool "ToolMutationPayload" "tool"
def ToolRemovedPayload.validate := removedPayload P "ToolRemovedPayload" "tool_name"

def ResourceMutationPayload.validate :=
  mutationPayload P .resource "ResourceMutationPayload" "resource"

def ResourceRemovedPayload.validate := removedPayload P "ResourceRemovedPayload" "uri"
def PromptMutationPayload.validate := mutationPayload P .prompt "PromptMutationPayload" "prompt"
def PromptRemovedPayload.validate := removedPayload P "PromptRemovedPayload" "name"

/-! ### The payload of a message -/

/-- A payload under what the handler does with it: the added and the updated message of a kind
are handled alike, and so are the three snapshot messages. -/
inductive Payload
  | hello (p : HelloPayload)
  | bindSession (p : BindSessionPayload)
  | snapshot (p : SnapshotPayload)
  | mutation (k : Kind) (p : MutationPayload k)
  | removed (k : Kind) (p : RemovedPayload)
  | readResource (p : ReadResourcePayload)
  | resourceResult (p : ResourceResultPayload)
  | getPrompt (p : GetPromptPayload)
  | promptResult (p : PromptResultPayload)
  | executeTool (p : ExecuteToolPayload)
  | executionProgress (p : ExecutionProgressPayload)
  | executionResult (p : ExecutionResultPayload)
  | executionError (p : ExecutionErrorPayload)
  | heartbeat (p : HeartbeatPayload)
  | disconnectNotice (p : DisconnectPayload)

/-- `MESSAGE_PAYLOAD_MODELS.get(message_type)`, as the check it stands for. -/
def messagePayloadModel (messageType : String) : Option (Json → Except Exc Payload) :=
  match messageType with
  | "hello" => some hello
  | "handshake" => some hello
  | "bind_session" => some fun v => modelValidate "BindSessionPayload"
      (.bindSession <$> BindSessionPayload.validate v)
  | "tool_snapshot" => some snapshot
  | "resource_snapshot" => some snapshot
  | "prompt_snapshot" => some snapshot
  | "tool_added" => some toolMutation
  | "tool_updated" => some toolMutation
  | "tool_removed" => some fun v => modelValidate "ToolRemovedPayload"
      (.removed .tool <$> ToolRemovedPayload.validate P v)
  | "resource_added" => some resourceMutation
  | "resource_updated" => some resourceMutation
  | "resource_removed" => some fun v => modelValidate "ResourceRemovedPayload"
      (.removed .resource <$> ResourceRemovedPayload.validate P v)
  | "prompt_added" => some promptMutation
  | "prompt_updated" => some promptMutation
  | "prompt_removed" => some fun v => modelValidate "PromptRemovedPayload"
      (.removed .prompt <$> PromptRemovedPayload.validate P v)
  | "read_resource" => some fun v => modelValidate "ReadResourcePayload"
      (.readResource <$> ReadResourcePayload.check dict v)
  | "resource_result" => some fun v => modelValidate "ResourceResultPayload"
      (.resourceResult <$> ResourceResultPayload.check dict v)
  | "get_prompt" => some fun v => modelValidate "GetPromptPayload"
      (.getPrompt <$> GetPromptPayload.check dict v)
  | "prompt_result" => some fun v => modelValidate "PromptResultPayload"
      (.promptResult <$> PromptResultPayload.check dict v)
  | "execute_tool" => some fun v => modelValidate "ExecuteToolPayload"
      (.executeTool <$> ExecuteToolPayload.check P dict v)
  | "execution_progress" => some fun v => modelValidate "ExecutionProgressPayload"
      (.executionProgress <$> ExecutionProgressPayload.check P v)
  | "execution_result" => some fun v => modelValidate "ExecutionResultPayload"
      (.executionResult <$> ExecutionResultPayload.check P dict v)
  | "execution_error" => some fun v => modelValidate "ExecutionErrorPayload"
      (.executionError <$> ExecutionErrorPayload.check dict v)
  | "heartbeat" => some fun v => modelValidate "HeartbeatPayload"
      (.heartbeat <$> HeartbeatPayload.check v)
  | "disconnect_notice" => some fun v => modelValidate "DisconnectPayload"
      (.disconnectNotice <$> DisconnectPayload.check v)
  | _ => none
where
  hello (v : Json) := modelValidate "HelloPayload" (.hello <$> HelloPayload.validate P v)
  snapshot (v : Json) :=
    modelValidate "SnapshotPayload" (.snapshot <$> SnapshotPayload.validate P v)
  toolMutation (v : Json) := modelValidate "ToolMutationPayload"
    (.mutation .tool <$> ToolMutationPayload.validate P v)
  resourceMutation (v : Json) := modelValidate "ResourceMutationPayload"
    (.mutation .resource <$> ResourceMutationPayload.validate P v)
  promptMutation (v : Json) := modelValidate "PromptMutationPayload"
    (.mutation .prompt <$> PromptMutationPayload.validate P v)

end NaiaRelay.Rlp
