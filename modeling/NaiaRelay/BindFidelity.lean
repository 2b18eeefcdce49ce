import NaiaRelay.ClientRuntime
import NaiaRelay.DirectRuntime
import NaiaRelay.HostFacts
import NaiaRelay.Snapshot

set_option autoImplicit false

/-!
Binding a client to a host that an executor has filled: the mirror it gets, and what it lists.
-/

namespace NaiaRelay.Runtime

open NaiaRelay.Pydantic NaiaRelay.Registry NaiaRelay.Rlp NaiaRelay.Mcp

variable (P : Platform)

/-! ### Runs of executor messages -/

/-- The host after some messages of its executor, whatever became of each. The `n`th draws the
id `newMessageId n`. -/
def HostRelayRuntime.afterMessages (newMessageId : ℕ → String) (h : HostRelayRuntime)
    (messages : List Obj) : HostRelayRuntime :=
  messages.zipIdx.foldl
    (fun h m => (h.handleExecutorStdioMessage P (newMessageId m.2) m.1).2) h

/-- The direct runtime after some messages of its executor, whatever became of each. -/
def DirectRelayRuntime.afterMessages (newMessageId : ℕ → String) (d : DirectRelayRuntime)
    (messages : List Obj) : DirectRelayRuntime :=
  messages.zipIdx.foldl (fun d m => (d.handleTepMessage P (newMessageId m.2) m.1).2) d

/-- The registry after some messages. -/
def registryAfter (registry : RegistryStore) (messages : List Obj) : RegistryStore :=
  messages.foldl (fun registry m => Tep.afterMutations registry (Tep.mutations P m)) registry

/-! ### Binding -/

/-- `host.handle_rlp_message` as a requester. A forwarded operation does not end here. -/
def hostRequester (ids : NewIds) (operationIds : OperationIds) (h : HostRelayRuntime)
    (message : Obj) : Outcome Obj × HostRelayRuntime :=
  match h.handleRlpMessage P ids operationIds message with
  | (.answered (.ok response), h) => (.returns response, h)
  | (.answered (.error e), h) => (.raises e, h)
  | (.forwarded, h) => (.timesOut, h)

def HostRelayRuntime.binding (h : HostRelayRuntime) : Binding :=
  ⟨h.base.sessionId, h.base.relayId⟩

/-- `bind_to_host`. -/
def ClientRelayRuntime.bindToHost (c : ClientRelayRuntime) (h : HostRelayRuntime)
    (hostIds : NewIds) (operationIds : OperationIds) (ids : NewIds) :
    Except Exc Obj × ClientRelayRuntime × HostRelayRuntime :=
  c.bindViaRequester P (hostRequester P hostIds operationIds) h h.binding ids

/-- A host that clients can bind to under its own ids. -/
structure Bindable (h : HostRelayRuntime) : Prop where
  started : h.base.started = true
  session : h.rlp.relaySessionId = h.base.sessionId
  tokenless : h.rlp.sessionToken = none
  dumped : Dumped h.registry

variable {P} {h : HostRelayRuntime} {c : ClientRelayRuntime}

lemma bindable_create (relayId sessionId : String) (config : RelayConfig) :
    Bindable (HostRelayRuntime.create relayId sessionId config).start :=
  ⟨rfl, rfl, rfl, dumped_empty⟩

lemma Bindable.handleExecutorStdioMessage (hb : Bindable h) (newMessageId : String)
    (message : Obj) :
    Bindable (h.handleExecutorStdioMessage P newMessageId message).2 ∧
      (h.handleExecutorStdioMessage P newMessageId message).2.registry
        = Tep.afterMutations h.registry (Tep.mutations P message) := by
  obtain ⟨tep, rlp, hf, he⟩ := handleExecutorStdioMessage_eq (P := P) h newMessageId message
  have hsession : rlp.relaySessionId = h.rlp.relaySessionId := congrArg (·.relaySessionId) hf
  have htoken : rlp.sessionToken = h.rlp.sessionToken := congrArg (·.sessionToken) hf
  rw [he]
  exact ⟨⟨hb.started, hsession.trans hb.session, htoken.trans hb.tokenless,
    hb.dumped.afterMutations message⟩, rfl⟩

lemma Bindable.afterMessages (hb : Bindable h) (newMessageId : ℕ → String)
    (messages : List Obj) :
    Bindable (h.afterMessages P newMessageId messages) ∧
      (h.afterMessages P newMessageId messages).registry = registryAfter P h.registry messages := by
  have hrun : ∀ (l : List (Obj × ℕ)) (h : HostRelayRuntime), Bindable h →
      let h' := l.foldl
        (fun h m => (h.handleExecutorStdioMessage P (newMessageId m.2) m.1).2) h
      Bindable h' ∧ h'.registry = registryAfter P h.registry (l.map Prod.fst) := by
    intro l
    induction l with
    | nil => exact fun h hb => ⟨hb, rfl⟩
    | cons m l ih =>
      intro h hb
      obtain ⟨hb', hr⟩ := hb.handleExecutorStdioMessage (P := P) (newMessageId m.2) m.1
      obtain ⟨hb'', hr'⟩ := ih _ hb'
      rw [hr] at hr'
      exact ⟨hb'', hr'⟩
  have := hrun messages.zipIdx h hb
  rwa [List.zipIdx_map_fst] at this

lemma DirectRelayRuntime.registry_afterMessages {d : DirectRelayRuntime}
    (hd : d.base.started = true) (newMessageId : ℕ → String) (messages : List Obj) :
    (d.afterMessages P newMessageId messages).registry = registryAfter P d.registry messages := by
  have hrun : ∀ (l : List (Obj × ℕ)) (d : DirectRelayRuntime), d.base.started = true →
      (l.foldl (fun d m => (d.handleTepMessage P (newMessageId m.2) m.1).2) d).registry
        = registryAfter P d.registry (l.map Prod.fst) := by
    intro l
    induction l with
    | nil => exact fun d _ => rfl
    | cons m l ih =>
      intro d hd
      have hx : (d.handleTepMessage P (newMessageId m.2) m.1).2.registry
          = Tep.afterMutations d.registry (Tep.mutations P m.1) := by
        rw [handleTepMessage, BaseRelayRuntime.ensureStarted, if_pos hd]
        exact Tep.handleMessage_registry m.1
      have hs : (d.handleTepMessage P (newMessageId m.2) m.1).2.base.started = true := by
        rw [handleTepMessage, BaseRelayRuntime.ensureStarted, if_pos hd]
        exact ((BaseRelayRuntime.sameLoad_countFailure d.base _).started).trans hd
      rw [List.foldl_cons, ih _ hs, hx]
      rfl
  have := hrun messages.zipIdx d hd
  rwa [List.zipIdx_map_fst] at this

/-! ### One bind -/

/-- The envelope of a bind attempt. -/
def bindEnvelope (c : ClientRelayRuntime) (b : Binding) : RLPEnvelope where
  protocol := "rlp"
  version := "1.0"
  messageType := "bind_session"
  messageId := "msg_bind"
  relaySessionId := some b.hostSessionId
  sourceRelayId := some c.base.relayId
  payload := [("relay_session_id", .str b.hostSessionId),
    ("client_instance_id", .str c.base.relayId)]

lemma parse_bindMessage (b : Binding) :
    Rlp.parse P (c.bindMessage b)
      = some (bindEnvelope c b, .bindSession ⟨b.hostSessionId, none, c.base.relayId⟩) := rfl

lemma hostRequester_bind (hb : Bindable h) (ids : NewIds) (operationIds : OperationIds)
    {details : Obj} (hd : buildSnapshotDetails h.registry = .ok details) (hne : details ≠ []) :
    let x := hostRequester P ids operationIds h (c.bindMessage h.binding)
    x.1 = .returns (h.rlp.reply (bindEnvelope c h.binding) ids
        (Tep.statusDump "ok" none none details)) ∧
      x.2.registry = h.registry := by
  have hx : RLPHandler.handleMessage P ids ⟨h.registry, h.rlp⟩ (c.bindMessage h.binding) = _ :=
    handleMessage_of_parse (parse_bindMessage h.binding)
  have hdispatch : RLPHandler.dispatch P ids ⟨h.registry, h.rlp⟩ (bindEnvelope c h.binding)
      (.bindSession ⟨h.base.sessionId, none, c.base.relayId⟩)
        = (.done (.ok (h.rlp.reply (bindEnvelope c h.binding) ids
            (Tep.statusDump "ok" none none details))),
          ⟨h.registry, { h.rlp with
            boundClients := h.rlp.boundClients.insert c.base.relayId }⟩) := by
    obtain ⟨p, details, rfl⟩ := List.exists_cons_of_ne_nil hne
    have hsession : ¬ h.base.sessionId ≠ h.rlp.relaySessionId := not_not.mpr hb.session.symm
    have htoken : ¬ (h.rlp.sessionToken ≠ none ∧ none ≠ h.rlp.sessionToken) :=
      fun ht => ht.1 hb.tokenless
    simp only [RLPHandler.dispatch, RLPHandler.bindSession, if_neg hsession, if_neg htoken, hd]
    rfl
  have hsession : h.binding.hostSessionId = h.base.sessionId := rfl
  rw [hsession, hdispatch] at hx
  unfold hostRequester HostRelayRuntime.handleRlpMessage
  rw [BaseRelayRuntime.ensureStarted, if_pos hb.started, hx]
  exact ⟨rfl, rfl⟩

lemma bindReply_snapshot (hc : c.base.started = true) (ids : NewIds) {b : Binding}
    {registry : RegistryStore} {response details : Obj}
    (hp : item (.obj response) "payload" = .ok (.obj (Tep.statusDump "ok" none none details)))
    (hs : ∀ message envelope, validateMessage message = .ok envelope →
      envelope.messageType = "tool_snapshot" → envelope.payload = details →
        CarriesSnapshot P registry message) :
    c.bindReply P ids b (.returns response) = (.ended (.ok response), { c with
      registry := { toTables := registry.toTables.eraseOwner, revision := registry.revision } }) := by
  have hcarries : CarriesSnapshot P registry (ClientRelayRuntime.snapshotMessage b (.obj details)) :=
    hs _ { protocol := "rlp", version := "1.0", messageType := "tool_snapshot"
           messageId := "msg_snapshot", relaySessionId := some b.hostSessionId
           sourceRelayId := some b.hostRelayId, payload := details } rfl rfl rfl
  obtain ⟨⟨answer, hcall, -⟩, hafter⟩ := handle_snapshot (h := ⟨c.registry, c.rlp⟩) hcarries
  have hx : c.handleRlpMessage P ids (ClientRelayRuntime.snapshotMessage b (.obj details))
      = (.ok answer, { c with
        registry := { toTables := registry.toTables.eraseOwner, revision := registry.revision } }) := by
    unfold ClientRelayRuntime.handleRlpMessage
    rw [BaseRelayRuntime.ensureStarted, if_pos hc]
    dsimp only
    rw [hcall, hafter]
    rfl
  have hstatus : item (.obj (Tep.statusDump "ok" none none details)) "status" = .ok (.str "ok") := rfl
  have hdetails : item (.obj (Tep.statusDump "ok" none none details)) "details"
      = .ok (.obj details) := rfl
  simp only [ClientRelayRuntime.bindReply, ClientRelayRuntime.bindOutcome, hp, hstatus, hdetails, hx]
  rfl

/-- **Binding to a bindable host.** The first attempt succeeds, the host keeps its registry,
and the client's becomes the host's without the owners. -/
theorem bindToHost_eq (hb : Bindable h) (hc : c.base.started = true) (hostIds : NewIds)
    (operationIds : OperationIds) (ids : NewIds) :
    ∃ (response : Obj) (h' : HostRelayRuntime), h'.registry = h.registry ∧
      c.bindToHost P h hostIds operationIds ids = (.ok response, { c.bindStart h.binding with
        registry := { toTables := h.registry.toTables.eraseOwner,
                      revision := h.registry.revision } }, h') := by
  obtain ⟨details, hd, hne, hs⟩ := buildSnapshotDetails_carries (P := P) hb.dumped
  obtain ⟨hreq, hr⟩ := hostRequester_bind (P := P) (c := c.bindStart h.binding) hb hostIds
    operationIds hd hne
  set response := h.rlp.reply (bindEnvelope (c.bindStart h.binding) h.binding) hostIds
    (Tep.statusDump "ok" none none details)
  have hpayload : item (.obj response) "payload"
      = .ok (.obj (Tep.statusDump "ok" none none details)) := rfl
  have hreply := bindReply_snapshot (P := P) (c := c.bindStart h.binding) (b := h.binding) hc ids
    hpayload hs
  refine ⟨response, _, hr, ?_⟩
  unfold ClientRelayRuntime.bindToHost ClientRelayRuntime.bindViaRequester
  cases c.base.config.reconnectAttempts with
  | zero => simp only [ClientRelayRuntime.bindAttempts, hreq, hreply]
  | succ n => simp only [ClientRelayRuntime.bindAttempts, hreq, hreply]

/-! ### What is listed -/

def listMethods : List String := ["tools/list", "resources/list", "prompts/list"]

lemma handleMessage_list {r r' : MCPRecords} {registry registry' : RegistryStore}
    (ht : registry.toTables = registry'.toTables.eraseOwner) {message : Obj}
    {request : JsonRpcRequest} (hv : JsonRpcRequest.validate P (.obj message) = .ok request)
    (hm : request.method ∈ listMethods) :
    ∃ response, (r.handleMessage P registry message).1 = .done (.ok (some response)) ∧
      (r'.handleMessage P registry' message).1 = .done (.ok (some response)) := by
  have hd : ∀ (r : MCPRecords) (registry : RegistryStore),
      r.handleMessage P registry message = r.dispatch P registry request := by
    intro r registry
    simp [MCPRecords.handleMessage, hv]
  have htools : registry.snapshot.tools.map (fun d => Json.obj (Mcp.serializeTool d))
      = registry'.snapshot.tools.map fun d => .obj (Mcp.serializeTool d) := by
    show registry.tools.values.map _ = registry'.tools.values.map _
    rw [ht, Tables.eraseOwner, Table.values_eraseOwner, List.map_map]
    rfl
  have hresources : registry.snapshot.resources.map (fun d => Json.obj (Mcp.serializeResource d))
      = registry'.snapshot.resources.map fun d => .obj (Mcp.serializeResource d) := by
    show registry.resources.values.map _ = registry'.resources.values.map _
    rw [ht, Tables.eraseOwner, Table.values_eraseOwner, List.map_map]
    rfl
  have hprompts : registry.snapshot.prompts.map (fun d => Json.obj (Mcp.serializePrompt d))
      = registry'.snapshot.prompts.map fun d => .obj (Mcp.serializePrompt d) := by
    show registry.prompts.values.map _ = registry'.prompts.values.map _
    rw [ht, Tables.eraseOwner, Table.values_eraseOwner, List.map_map]
    rfl
  rw [hd, hd]
  obtain ⟨jsonrpc, id, method, params⟩ := request
  simp only [listMethods, List.mem_cons, List.not_mem_nil, or_false] at hm
  rcases hm with rfl | rfl | rfl
  · refine ⟨_, rfl, ?_⟩
    rw [htools]
    rfl
  · refine ⟨_, rfl, ?_⟩
    rw [hresources]
    rfl
  · refine ⟨_, rfl, ?_⟩
    rw [hprompts]
    rfl

/-- **Bind fidelity.** After any messages of the executor, a client that binds to the host
succeeds at its first attempt and holds the host's entries in their order without their owners,
at the host's revision, and lists what a direct runtime lists after the same messages. -/
theorem bind_fidelity (P : Platform) (relayId sessionId relayId' sessionId' : String)
    (config config' : RelayConfig) (newMessageId newMessageId' : ℕ → String)
    (messages : List Obj) (c : ClientRelayRuntime) (hostIds ids : NewIds)
    (operationIds : OperationIds) (hc : c.base.started = true) :
    let host := (HostRelayRuntime.create relayId sessionId config).start.afterMessages P
      newMessageId messages
    let direct := (DirectRelayRuntime.create relayId' sessionId' config').start.afterMessages P
      newMessageId' messages
    let bound := c.bindToHost P host hostIds operationIds ids
    let client := bound.2.1
    (∃ response, bound.1 = .ok response) ∧
      client.base.stats.reconnectAttempts = c.base.stats.reconnectAttempts + 1 ∧
      bound.2.2.registry = host.registry ∧
      client.registry.revision = host.registry.revision ∧ client.registry.stale = false ∧
      (∀ k, (client.registry.table k).values = (host.registry.table k).values.map k.eraseOwner) ∧
      ∀ message request, JsonRpcRequest.validate P (.obj message) = .ok request →
        request.method ∈ listMethods →
        ∃ response, (client.mcp.handleMessage P client.registry message).1
            = .done (.ok (some response)) ∧
          (direct.mcp.handleMessage P direct.registry message).1
            = .done (.ok (some response)) := by
  intro host direct bound client
  obtain ⟨hb, hreg⟩ := (bindable_create relayId sessionId config).afterMessages (P := P)
    newMessageId messages
  have hdirect : direct.registry = host.registry :=
    (DirectRelayRuntime.registry_afterMessages rfl newMessageId' messages).trans hreg.symm
  obtain ⟨response, h', hr, hbound⟩ := bindToHost_eq (P := P) (c := c) hb hc hostIds operationIds
    ids
  have hbound : bound = _ := hbound
  have hclient : client = _ := congrArg (·.2.1) hbound
  rw [hclient, hbound]
  refine ⟨⟨response, rfl⟩, rfl, hr, rfl, rfl, fun k => ?_, fun message request hv hm => ?_⟩
  · show (host.registry.toTables.eraseOwner.table k).values = _
    rw [Tables.table_eraseOwner, Table.values_eraseOwner]
  · rw [hdirect]
    exact handleMessage_list rfl hv hm

/-- A client that binds to a host whose executor has registered one tool twice in one message. -/
theorem registerTwice_bind_fidelity :
    let host := (HostRelayRuntime.create "host" "session").start.afterMessages .strict
      (fun _ => "n") [Tep.registerTwice]
    let client := (ClientRelayRuntime.create "client" "session").start
    let bound := client.bindToHost .strict host ⟨"r", "g"⟩ ⟨"m", "e"⟩ ⟨"r", "g"⟩
    (∃ response, bound.1 = .ok response) ∧
      bound.2.1.registry.revision = host.registry.revision ∧ bound.2.1.registry.stale = false ∧
      ∀ k, (bound.2.1.registry.table k).values
        = (host.registry.table k).values.map k.eraseOwner := by
  obtain ⟨hok, -, -, hrevision, hstale, hvalues, -⟩ := bind_fidelity .strict "host" "session"
    "direct" "session" {} {} (fun _ => "n") (fun _ => "n") [Tep.registerTwice]
    (ClientRelayRuntime.create "client" "session").start ⟨"r", "g"⟩ ⟨"r", "g"⟩ ⟨"m", "e"⟩ rfl
  exact ⟨hok, hrevision, hstale, hvalues⟩

end NaiaRelay.Runtime
