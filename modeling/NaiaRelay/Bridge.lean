import NaiaRelay.BindFidelity
import NaiaRelay.BindRetry
import NaiaRelay.CrossTalk
import NaiaRelay.Forwarding
import NaiaRelay.McpLoop

set_option autoImplicit false

/-!
A client and a host behind each other: what the executor is asked for when the client's own
client asks for a mirrored entry.
-/

namespace NaiaRelay.Runtime

open NaiaRelay.Pydantic NaiaRelay.Registry NaiaRelay.Rlp NaiaRelay.Mcp

variable (P : Platform)

/-! ### The request of the client's client -/

/-- The method that goes through the callback for an entry. -/
def mcpMethod : Kind → String
  | .tool => "tools/call"
  | .resource => "resources/read"
  | .prompt => "prompts/get"

/-- The parameter that names the entry. -/
def mcpKey : Kind → String
  | .tool => "name"
  | .resource => "uri"
  | .prompt => "name"

/-- The callback for an entry. -/
def kindCallback : Kind → Json → Json → Callback
  | .tool => .executeTool
  | .resource => .readResource
  | .prompt => .getPrompt

/-- The message asks for the entry of this name with these arguments. -/
def AsksFor (message : Obj) (k : Kind) (name : String) (arguments : Obj) : Prop :=
  ∃ request, JsonRpcRequest.validate P (.obj message) = .ok request ∧
    request.method = mcpMethod k ∧ Obj.get request.params (mcpKey k) = some (.str name) ∧
    Obj.get request.params "arguments" = some (.obj arguments)

/-- The message asks for the entry of this name with these arguments, whatever they are; without
any they are the empty object. -/
def AsksWith (message : Obj) (k : Kind) (name : String) (arguments : Json) : Prop :=
  ∃ request, JsonRpcRequest.validate P (.obj message) = .ok request ∧
    request.method = mcpMethod k ∧ Obj.get request.params (mcpKey k) = some (.str name) ∧
    Obj.getD request.params "arguments" (.obj []) = arguments

/-- A client that is bound and fresh, with room for a request. -/
structure ClientRelayRuntime.Bound (c : ClientRelayRuntime) : Prop where
  started : c.base.started = true
  room : c.base.HasRoom
  callbacks : HasCallbacks c.mcp
  fresh : c.registry.stale = false
  upstream : c.upstream = true

/-- A host with an executor behind it. -/
structure HostRelayRuntime.HasExecutor (h : HostRelayRuntime) : Prop where
  started : h.base.started = true
  executeTool : h.rlp.executeTool = true
  readResource : h.rlp.readResource = true
  getPrompt : h.rlp.getPrompt = true
  attached : h.link.transport ≠ none

/-- The executor is asked for the entry of this name with these arguments. -/
def SentAs (k : Kind) (name : String) (arguments request : Obj) : Prop :=
  Obj.get request "message_type" = some (.str (upstreamType k)) ∧
    ∃ payload, Obj.get request "payload" = some (.obj payload) ∧
      Obj.get payload (upstreamKey k) = some (.str name) ∧
      Obj.get payload "arguments" = some (.obj arguments)

/-! ### The two relays -/

/-- The envelope of an upstream request. -/
def upstreamEnvelope (c : ClientRelayRuntime) (rids : ClientRelayRuntime.RequestIds) (k : Kind)
    (name : String) (arguments : Obj) : RLPEnvelope where
  protocol := "rlp"
  version := "1.0"
  messageType := upstreamType k
  messageId := rids.messageId
  relaySessionId := some c.rlp.relaySessionId
  sourceRelayId := some c.base.relayId
  executionId := match k with
    | .tool => some rids.executionId
    | _ => none
  payload := [(upstreamKey k, .str name), (match k with
    | .resource => "context"
    | _ => "arguments", .obj arguments)]

/-- The operation the host reads an upstream request as. The arguments of a resource come as
its context. -/
def upstreamOperation (name : String) (arguments : Obj) : Kind → Operation
  | .tool => .executeTool { toolName := name, arguments, context := [], stream := false }
  | .resource => .readResource { uri := name, arguments := [], context := arguments }
  | .prompt => .getPrompt { name, arguments, context := [] }

variable {P} {c : ClientRelayRuntime} {h : HostRelayRuntime} {message arguments : Obj} {k : Kind}
  {name : String}

lemma callbackTarget_kindCallback (k : Kind) (name arguments : Json) :
    callbackTarget (kindCallback k name arguments) = (k, name) := by
  cases k <;> rfl

lemma AsksFor.asksWith (ha : AsksFor P message k name arguments) :
    AsksWith P message k name (.obj arguments) := by
  obtain ⟨request, hv, hm, hn, harg⟩ := ha
  refine ⟨request, hv, hm, hn, ?_⟩
  rw [Obj.getD, harg]
  rfl

lemma handleMessage_of_asksWith {r : MCPRecords} {arguments : Json} (hr : HasCallbacks r)
    (registry : RegistryStore) (ha : AsksWith P message k name arguments) :
    ∃ resume, (r.handleMessage P registry message).1
      = .await (kindCallback k (.str name) arguments) resume := by
  obtain ⟨request, hv, hm, hn, harguments⟩ := ha
  have hcall : ∀ {present : Bool} {key : String} {call : Json → Json → Callback}
      {wrap : Json → Json}, present = true → Obj.get request.params key = some (.str name) →
      ∃ resume, Mcp.callback P request present key call wrap
        = .await (call (.str name) arguments) resume := by
    intro present key call wrap hpresent hkey
    simp only [Mcp.callback, hkey, harguments, hpresent, if_true]
    exact ⟨_, rfl⟩
  have hd : r.handleMessage P registry message = r.dispatch P registry request := by
    simp [MCPRecords.handleMessage, hv]
  rw [hd]
  unfold MCPRecords.dispatch
  rw [hm]
  cases k with
  | tool => exact hcall hr.1 hn
  | resource => exact hcall hr.2.1 hn
  | prompt => exact hcall hr.2.2 hn

lemma ClientRelayRuntime.Bound.forwards (hc : c.Bound) (ha : AsksFor P message k name arguments)
    (hmem : name ∈ (c.registry.table k).dict) :
    ∃ resume, Forwards P c message (kindCallback k (.str name) (.obj arguments)) resume := by
  obtain ⟨resume, hasks⟩ := handleMessage_of_asksWith hc.callbacks c.registry ha.asksWith
  have hnamed : NamesEntry c.registry (kindCallback k (.str name) (.obj arguments)) name := by
    unfold NamesEntry
    rw [callbackTarget_kindCallback]
    exact ⟨rfl, hmem⟩
  exact ⟨resume, hc.started, hc.room, hasks, hc.fresh, ⟨name, hnamed⟩, hc.upstream⟩

lemma parse_upstreamRequest (c : ClientRelayRuntime) (rids : ClientRelayRuntime.RequestIds)
    (k : Kind) (name : String) (arguments : Obj) :
    Rlp.parse P (c.upstreamRequest rids (kindCallback k (.str name) (.obj arguments)))
      = some (upstreamEnvelope c rids k name arguments,
          operationPayload (upstreamOperation name arguments k)) := by
  cases k <;> rfl

lemma HostRelayRuntime.HasExecutor.forwarded (hh : h.HasExecutor) (ids : NewIds)
    (operationIds : OperationIds) (c : ClientRelayRuntime)
    (rids : ClientRelayRuntime.RequestIds) (k : Kind) (name : String) (arguments : Obj) :
    ∃ resume h', h.handleRlpMessage P ids operationIds
        (c.upstreamRequest rids (kindCallback k (.str name) (.obj arguments))) = (.forwarded, h') ∧
      h'.link = h.link.register
        (h.forward operationIds (upstreamOperation name arguments k) resume) := by
  have hcallback : hasCallback h.rlp (upstreamOperation name arguments k) = true := by
    cases k with
    | tool => exact hh.executeTool
    | resource => exact hh.readResource
    | prompt => exact hh.getPrompt
  obtain ⟨adapter, ht⟩ := Option.ne_none_iff_exists'.mp hh.attached
  exact ⟨_, _, handleRlpMessage_forwards hh.started hcallback
    (parse_upstreamRequest c rids k name arguments) ht ids operationIds, rfl⟩

lemma sentAs_forward_iff (h : HostRelayRuntime) (operationIds : OperationIds)
    (resume : Except Exc Json → Except Exc Obj) (k : Kind) (name : String) (arguments : Obj) :
    SentAs k name arguments
        (h.forward operationIds (upstreamOperation name arguments k) resume).request ↔
      (k = .resource → arguments = []) := by
  cases k with
  | tool => exact iff_of_true ⟨rfl, _, rfl, rfl, rfl⟩ (nomatch ·)
  | prompt => exact iff_of_true ⟨rfl, _, rfl, rfl, rfl⟩ (nomatch ·)
  | resource =>
    constructor
    · rintro ⟨-, payload, hp, -, harg⟩ -
      obtain rfl := Json.obj.inj (Option.some.inj hp)
      exact (Json.obj.inj (Option.some.inj harg)).symm
    · intro harg
      rw [harg rfl]
      exact ⟨rfl, _, rfl, rfl, rfl⟩

/-- **When the arguments reach the executor unchanged.** A bound, fresh client sends a request
for a mirrored entry upstream, and a host with an executor forwards it. The executor is asked
for the same entry with the same arguments unless they are the arguments of a resource. -/
theorem arguments_unchanged_iff (P : Platform) {c : ClientRelayRuntime} {h : HostRelayRuntime}
    {message arguments : Obj} {k : Kind} {name : String} (hc : c.Bound) (hh : h.HasExecutor)
    (ha : AsksFor P message k name arguments) (hmem : name ∈ (c.registry.table k).dict)
    (rids : ClientRelayRuntime.RequestIds) (ids : NewIds) (operationIds : OperationIds) :
    ∃ request resume c' op h', c.openMcp P rids message = (.await request resume, c') ∧
      h.handleRlpMessage P ids operationIds request = (.forwarded, h') ∧
      h'.link = h.link.register op ∧
      (SentAs k name arguments op.request ↔ (k = .resource → arguments = [])) := by
  obtain ⟨resume, hforwards⟩ := hc.forwards ha hmem
  obtain ⟨resume', h', hx, hl⟩ := hh.forwarded (P := P) ids operationIds c rids k name arguments
  exact ⟨_, _, _, _, h', hforwards.openMcp rids, hx, hl,
    sentAs_forward_iff h operationIds resume' k name arguments⟩

/-! A client with a tool and a resource, and the arguments of the resource. -/

def mirroringClient : ClientRelayRuntime :=
  { unboundClient with
    upstream := true
    registry := ({} : RegistryStore).replaceFromSnapshot
      { revision := 1, tools := [{ name := "a", description := "d", inputSchema := [] }]
        resources := [{ uri := "u", name := "n" }], prompts := [] } }

def attachedHost : HostRelayRuntime := { startedHost with link := startedHost.link.attach 0 }

def readWith (arguments : Obj) : Obj :=
  [("id", .int 1), ("method", .str "resources/read"),
    ("params", .obj [("uri", .str "u"), ("arguments", .obj arguments)])]

lemma mirroringClient_bound : mirroringClient.Bound :=
  ⟨rfl, ⟨by decide, by decide⟩, ⟨rfl, rfl, rfl⟩, rfl, rfl⟩

lemma attachedHost_hasExecutor : attachedHost.HasExecutor :=
  ⟨rfl, rfl, rfl, rfl, nofun⟩

lemma readWith_asksFor (arguments : Obj) :
    AsksFor .strict (readWith arguments) .resource "u" arguments :=
  ⟨⟨"2.0", .int 1, "resources/read", [("uri", .str "u"), ("arguments", .obj arguments)]⟩, rfl, rfl,
    rfl, rfl⟩

lemma mirroringClient_mem : "u" ∈ (mirroringClient.registry.table .resource).dict := by decide

/-- They arrive as its context, and nothing arrives as its arguments. -/
theorem readWith_loses_arguments :
    mirroringClient.Bound ∧ attachedHost.HasExecutor ∧
      AsksFor .strict (readWith [("x", .int 1)]) .resource "u" [("x", .int 1)] ∧
      "u" ∈ (mirroringClient.registry.table .resource).dict ∧
      ∃ request resume c' h' op, mirroringClient.openMcp .strict ⟨"m", "e"⟩
          (readWith [("x", .int 1)]) = (.await request resume, c') ∧
        attachedHost.handleRlpMessage .strict ⟨"r", "g"⟩ ⟨"m", "e"⟩ request = (.forwarded, h') ∧
        h'.link.operations = [op] ∧ ¬ SentAs .resource "u" [("x", .int 1)] op.request := by
  refine ⟨mirroringClient_bound, attachedHost_hasExecutor, readWith_asksFor _, mirroringClient_mem,
    _, _, _, _, _, rfl, rfl, rfl, ?_⟩
  rintro ⟨-, payload, hp, -, harg⟩
  obtain rfl := Json.obj.inj (Option.some.inj hp)
  exact nomatch Json.obj.inj (Option.some.inj harg)

theorem readWith_arguments_unchanged_iff :
    ∃ request resume c' op h', mirroringClient.openMcp .strict ⟨"m", "e"⟩
        (readWith [("x", .int 1)]) = (.await request resume, c') ∧
      attachedHost.handleRlpMessage .strict ⟨"r", "g"⟩ ⟨"m", "e"⟩ request = (.forwarded, h') ∧
      h'.link = attachedHost.link.register op ∧
      (SentAs .resource "u" [("x", .int 1)] op.request ↔
        (Kind.resource = .resource → ([("x", .int 1)] : Obj) = [])) :=
  arguments_unchanged_iff .strict mirroringClient_bound attachedHost_hasExecutor
    (readWith_asksFor _) mirroringClient_mem ⟨"m", "e"⟩ ⟨"r", "g"⟩ ⟨"m", "e"⟩

end NaiaRelay.Runtime
