import NaiaRelay.Runtime

set_option autoImplicit false

/-!
The loop that serves a client over stdio, and when it keeps to the answer discipline of
JSON-RPC: one response to each request with an id, none to a notification.
-/

namespace NaiaRelay.Runtime

open NaiaRelay.Pydantic NaiaRelay.Registry NaiaRelay.Mcp

/-- A message the loop reads: the registry the handler finds, how the callback ends if the
message comes to one, and how the transport takes the response if there is one. -/
structure McpTurn where
  registry : RegistryStore
  message : Obj
  outcome : Outcome Json
  sent : Except Exc Unit := .ok ()

/-- `serve_mcp_stdio`, up to the end of its input: what is written for each message, and how
the loop ends. -/
def serveMcpStdio (P : Platform) (rt : BaseRelayRuntime) (mcp : MCPRecords) :
    List McpTurn → List (Option Obj) × Except Exc Unit
  | [] => ([], .ok ())
  | t :: ts =>
    if rt.started then
      match rt.handleMcpMessage P mcp t.registry t.message t.outcome with
      | (.error e, _) => ([], .error e)
      | (.ok none, rt, mcp) =>
        let rest := serveMcpStdio P rt mcp ts
        (none :: rest.1, rest.2)
      | (.ok (some response), rt, mcp) =>
        match t.sent with
        | .error e => ([], .error e)
        | .ok _ =>
          let rest := serveMcpStdio P rt mcp ts
          (some response :: rest.1, rest.2)
    else ([], .ok ())

/-! ### The discipline -/

/-- Exactly one of `result` and `error`, under this id. -/
def IsResponse (id : Json) (response : Obj) : Prop :=
  Obj.get response "id" = some id ∧
    (Obj.get response "result").isSome ≠ (Obj.get response "error").isSome

/-- What is written for a request is what its id asks for. -/
def Obeys (message : Obj) (request : JsonRpcRequest) (written : Option Obj) : Prop :=
  (request.id ≠ .null → ∃ response, written = some response ∧ IsResponse request.id response) ∧
    (Obj.get message "id" = none → written = none)

/-- The messages of all turns are accepted, as these requests. -/
def Accepted (P : Platform) : List McpTurn → List JsonRpcRequest → Prop :=
  List.Forall₂ fun t request => JsonRpcRequest.validate P (.obj t.message) = .ok request

/-- The loop handled every message and wrote what each asked for. -/
def Disciplined (turns : List McpTurn) (requests : List JsonRpcRequest)
    (served : List (Option Obj) × Except Exc Unit) : Prop :=
  served.2 = .ok () ∧ served.1.length = turns.length ∧
    ∀ x ∈ (turns.zip requests).zip served.1, Obeys x.1.1.message x.1.2 x.2

/-- The parameter a method that goes through a callback cannot do without. -/
def forwardedKey : String → Option String
  | "tools/call" => some "name"
  | "resources/read" => some "uri"
  | "prompts/get" => some "name"
  | _ => none

/-- The turns the code handles as JSON-RPC asks: `notifications/initialized` has no id and is
the only message without one, and every other message has the parameter its method needs, a
callback that ends in time, and a response the transport takes. -/
def Orderly (t : McpTurn) (request : JsonRpcRequest) : Prop :=
  (request.id ≠ .null → request.method ≠ "notifications/initialized") ∧
    (Obj.get t.message "id" = none → request.method = "notifications/initialized") ∧
    (request.method ≠ "notifications/initialized" →
      (∀ key, forwardedKey request.method = some key →
        (Obj.get request.params key).isSome ∧ t.outcome ≠ .timesOut) ∧ t.sent = .ok ())

/-! ### One message -/

variable {P : Platform} {r : MCPRecords} {rt : BaseRelayRuntime}

/-- The handler of a runtime has all its callbacks. -/
def HasCallbacks (r : MCPRecords) : Prop :=
  r.executeTool = true ∧ r.readResource = true ∧ r.getPrompt = true

lemma isResponse_result (id value : Json) : IsResponse id (result id value) :=
  ⟨rfl, by show true ≠ false; decide⟩

lemma isResponse_error (id : Json) (code : ℤ) (message : String) (data : Obj) :
    IsResponse id (error id code message data) :=
  ⟨rfl, by show false ≠ true; decide⟩

lemma dispatch_hasCallbacks {registry : RegistryStore} {request : JsonRpcRequest}
    (h : HasCallbacks r) : HasCallbacks (r.dispatch P registry request).2 := by
  unfold MCPRecords.dispatch
  split <;> exact h

lemma callback_present {request : JsonRpcRequest} {key : String} {call : Json → Json → Callback}
    {wrap : Json → Json} :
    (Obj.get request.params key = none ∧
        callback P request true key call wrap = .done (.error (.keyError (.str key)))) ∨
      (Obj.get request.params key).isSome ∧ ∃ q resume,
        callback P request true key call wrap = .await q resume ∧
          ∀ o, ∃ response, resume o = .ok (some response) ∧ IsResponse request.id response := by
  cases hk : Obj.get request.params key with
  | none => exact Or.inl ⟨rfl, by simp [callback, hk]⟩
  | some name =>
    refine Or.inr ⟨rfl, ?_⟩
    simp only [callback, hk, if_true]
    refine ⟨_, _, rfl, fun o => ?_⟩
    cases o with
    | ok value => exact ⟨_, rfl, isResponse_result _ _⟩
    | error exc => exact ⟨_, rfl, isResponse_error _ _ _ _⟩

lemma mcpDispatch_cases {registry : RegistryStore} {request : JsonRpcRequest} (h : HasCallbacks r) :
    (request.method = "notifications/initialized" ∧
        (r.dispatch P registry request).1 = .done (.ok none)) ∨
      (request.method ≠ "notifications/initialized" ∧ forwardedKey request.method = none ∧
        ∃ response, (r.dispatch P registry request).1 = .done (.ok (some response)) ∧
          IsResponse request.id response) ∨
      (request.method ≠ "notifications/initialized" ∧
        ∃ key, forwardedKey request.method = some key ∧
          ((Obj.get request.params key = none ∧
              (r.dispatch P registry request).1 = .done (.error (.keyError (.str key)))) ∨
            (Obj.get request.params key).isSome ∧ ∃ q resume,
              (r.dispatch P registry request).1 = .await q resume ∧
                ∀ o, ∃ response, resume o = .ok (some response) ∧
                  IsResponse request.id response)) := by
  obtain ⟨hx, hr, hp⟩ := h
  unfold MCPRecords.dispatch
  split
  case h_2 hm => exact Or.inl ⟨hm, rfl⟩
  -- the three methods that are forwarded
  case h_4 hm =>
    refine Or.inr (Or.inr ⟨by rw [hm]; decide, "name", by rw [hm]; rfl, ?_⟩)
    rw [hx]
    exact callback_present
  case h_6 hm =>
    refine Or.inr (Or.inr ⟨by rw [hm]; decide, "uri", by rw [hm]; rfl, ?_⟩)
    rw [hr]
    exact callback_present
  case h_8 hm =>
    refine Or.inr (Or.inr ⟨by rw [hm]; decide, "name", by rw [hm]; rfl, ?_⟩)
    rw [hp]
    exact callback_present
  -- a method that is unknown
  case h_13 =>
    refine Or.inr (Or.inl ⟨by assumption, ?_, _, rfl, isResponse_error _ _ _ _⟩)
    unfold forwardedKey
    split <;> first | contradiction | rfl
  all_goals
    rename_i hm
    refine Or.inr (Or.inl ⟨by rw [hm]; decide, by rw [hm]; rfl, _, rfl, ?_⟩)
    first
      | exact isResponse_result _ _
      | exact isResponse_error _ _ _ _

/-- Started, with no request in flight. -/
def Idle (rt : BaseRelayRuntime) : Prop :=
  rt.started = true ∧ rt.stats.activeRequests = 0 ∧ rt.stats.queueDepth = 0

lemma turn_cases {t : McpTurn} {request : JsonRpcRequest} (hi : Idle rt) (hc : HasCallbacks r)
    (hv : JsonRpcRequest.validate P (.obj t.message) = .ok request) :
    ∃ x rt' r', rt.handleMcpMessage P r t.registry t.message t.outcome = (x, rt', r') ∧
      Idle rt' ∧ HasCallbacks r' ∧
      ((request.method = "notifications/initialized" ∧ x = .ok none) ∨
        (request.method ≠ "notifications/initialized" ∧
          (∀ key, forwardedKey request.method = some key →
            (Obj.get request.params key).isSome ∧ t.outcome ≠ .timesOut) ∧
          ∃ response, x = .ok (some response) ∧ IsResponse request.id response) ∨
        (request.method ≠ "notifications/initialized" ∧
          ¬ (∀ key, forwardedKey request.method = some key →
            (Obj.get request.params key).isSome ∧ t.outcome ≠ .timesOut) ∧
          ∃ e, x = .error e)) := by
  obtain ⟨hs, ha, hq⟩ := hi
  have h1 := rt.config.one_le_maxInFlightRequests
  have h2 := rt.config.one_le_maxQueueDepth
  have hactive : rt.stats.activeRequests < rt.config.maxInFlightRequests := by omega
  have hdepth : rt.stats.queueDepth < rt.config.maxQueueDepth := by omega
  obtain ⟨rt', hload, hx⟩ := BaseRelayRuntime.handleMcpMessage_of_room (P := P) hs hactive hdepth
  have hcall : r.handleMessage P t.registry t.message = r.dispatch P t.registry request := by
    simp [MCPRecords.handleMessage, hv]
  rw [hcall] at hx
  refine ⟨_, rt', _, hx, ⟨hload.started.trans hs, hload.activeRequests.trans ha,
    hload.queueDepth.trans hq⟩, dispatch_hasCallbacks hc, ?_⟩
  -- a notification, an answer at once, and a forwarded call without and with its key
  rcases mcpDispatch_cases (P := P) hc with
    ⟨hm, hd⟩ | ⟨hm, hk, response, hd, hr⟩ | ⟨hm, key, hk, ⟨hp, hd⟩ | ⟨hp, q, resume, hd, hr⟩⟩
  · exact Or.inl ⟨hm, by rw [hd]; rfl⟩
  · refine Or.inr (Or.inl ⟨hm, fun key hkey => ?_, response, by rw [hd]; rfl, hr⟩)
    rw [hk] at hkey
    simp at hkey
  · refine Or.inr (Or.inr ⟨hm, fun hall => ?_, _, by rw [hd]; rfl⟩)
    have := (hall key hk).1
    rw [hp] at this
    simp at this
  · rw [hd]
    cases ho : t.outcome with
    -- the guard of the runtime raises for a callback that times out
    | timesOut =>
      exact Or.inr (Or.inr ⟨hm, fun hall => (hall key hk).2 rfl, _, rfl⟩)
    | returns value =>
      obtain ⟨response, hres, hr⟩ := hr (.ok value)
      refine Or.inr (Or.inl ⟨hm, fun key' hk' => ⟨?_, by simp⟩, response, hres, hr⟩)
      rw [hk, Option.some.injEq] at hk'
      rw [← hk']
      exact hp
    | raises exc =>
      obtain ⟨response, hres, hr⟩ := hr (.error exc)
      refine Or.inr (Or.inl ⟨hm, fun key' hk' => ⟨?_, by simp⟩, response, hres, hr⟩)
      rw [hk, Option.some.injEq] at hk'
      rw [← hk']
      exact hp

/-! ### The whole loop -/

lemma disciplined_cons {t : McpTurn} {ts : List McpTurn} {request : JsonRpcRequest}
    {requests : List JsonRpcRequest} {w : Option Obj} {served : List (Option Obj) × Except Exc Unit} :
    Disciplined (t :: ts) (request :: requests) (w :: served.1, served.2) ↔
      Obeys t.message request w ∧ Disciplined ts requests served := by
  simp only [Disciplined, List.length_cons, List.zip_cons_cons, List.forall_mem_cons]
  constructor
  · rintro ⟨he, hl, ho, hrest⟩
    exact ⟨ho, he, by omega, hrest⟩
  · rintro ⟨ho, he, hl, hrest⟩
    exact ⟨he, by omega, ho, hrest⟩

lemma not_disciplined_error {turns : List McpTurn} {requests : List JsonRpcRequest} {e : Exc}
    {w : List (Option Obj)} : ¬ Disciplined turns requests (w, .error e) := by
  rintro ⟨he, -⟩
  simp at he

/-- **When the client loop keeps the discipline.** An idle runtime handles all of the messages
it reads, and answers exactly those with an id, exactly when each turn is orderly. -/
theorem disciplined_iff_orderly (P : Platform) {rt : BaseRelayRuntime} {mcp : MCPRecords}
    {turns : List McpTurn} {requests : List JsonRpcRequest} (hi : Idle rt)
    (hc : HasCallbacks mcp) (ha : Accepted P turns requests) :
    Disciplined turns requests (serveMcpStdio P rt mcp turns) ↔
      ∀ x ∈ turns.zip requests, Orderly x.1 x.2 := by
  -- by induction on the turns; each leaves the runtime idle again
  induction ha generalizing rt mcp with
  | nil => simp [Disciplined, serveMcpStdio]
  | @cons t request ts requests hv _ ih =>
    obtain ⟨x, rt', mcp', hx, hi', hc', hcases⟩ := turn_cases hi hc hv
    rw [List.zip_cons_cons, List.forall_mem_cons, ← ih hi' hc', serveMcpStdio, if_pos hi.1, hx]
    rcases hcases with ⟨hm, rfl⟩ | ⟨hm, hp, response, rfl, hr⟩ | ⟨hm, hp, e, rfl⟩
    -- a notification is not answered, so it may not have an id
    · rw [disciplined_cons]
      refine and_congr_left fun _ => ?_
      constructor
      · rintro ⟨hid, -⟩
        refine ⟨fun h => ?_, fun _ => hm, fun h => absurd hm h⟩
        obtain ⟨response, hw, -⟩ := hid h
        simp at hw
      · rintro ⟨hid, -, -⟩
        exact ⟨fun h => absurd hm (hid h), fun _ => rfl⟩
    -- an answer is written, if it can be sent
    · cases hsent : t.sent with
      | error e =>
        refine iff_of_false not_disciplined_error fun hall => ?_
        have := (hall.1.2.2 hm).2
        rw [hsent] at this
        simp at this
      | ok u =>
        rw [disciplined_cons]
        refine and_congr_left fun _ => ?_
        constructor
        · rintro ⟨-, hno⟩
          exact ⟨fun _ => hm, fun h => absurd (hno h) (by simp), fun _ => ⟨hp, hsent⟩⟩
        · rintro ⟨-, hno, -⟩
          exact ⟨fun _ => ⟨response, rfl, hr⟩, fun h => absurd (hno h) hm⟩
    -- what is raised ends the loop
    · exact iff_of_false not_disciplined_error fun hall => hp (hall.1.2.2 hm).1

/-! A call that names no tool ends the loop, and the request after it is never read. -/

def idleClient : BaseRelayRuntime :=
  { role := "client", relayId := "relay_c", sessionId := "session_c", started := true }

def clientCallbacks : MCPRecords := { executeTool := true, readResource := true, getPrompt := true }

def namelessCall : McpTurn where
  registry := {}
  message := [("id", .int 1), ("method", .str "tools/call")]
  outcome := .returns (.obj [])

def listTools : McpTurn where
  registry := {}
  message := [("id", .int 2), ("method", .str "tools/list")]
  outcome := .returns (.obj [])

def namelessRequests : List JsonRpcRequest :=
  [⟨"2.0", .int 1, "tools/call", []⟩, ⟨"2.0", .int 2, "tools/list", []⟩]

lemma nameless_accepted : Accepted .strict [namelessCall, listTools] namelessRequests :=
  .cons rfl (.cons rfl .nil)

theorem namelessCall_ends_loop :
    Idle idleClient ∧ HasCallbacks clientCallbacks ∧
      Accepted .strict [namelessCall, listTools] namelessRequests ∧
      serveMcpStdio .strict idleClient clientCallbacks [namelessCall, listTools]
        = ([], .error (.keyError (.str "name"))) ∧
      ¬ Disciplined [namelessCall, listTools] namelessRequests
        (serveMcpStdio .strict idleClient clientCallbacks [namelessCall, listTools]) :=
  ⟨⟨rfl, rfl, rfl⟩, ⟨rfl, rfl, rfl⟩, nameless_accepted, rfl, not_disciplined_error⟩

theorem nameless_disciplined_iff :
    Disciplined [namelessCall, listTools] namelessRequests
        (serveMcpStdio .strict idleClient clientCallbacks [namelessCall, listTools]) ↔
      ∀ x ∈ [namelessCall, listTools].zip namelessRequests, Orderly x.1 x.2 :=
  disciplined_iff_orderly .strict ⟨rfl, rfl, rfl⟩ ⟨rfl, rfl, rfl⟩ nameless_accepted

end NaiaRelay.Runtime
