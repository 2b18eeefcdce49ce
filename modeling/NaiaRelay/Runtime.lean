import NaiaRelay.McpHandler

set_option autoImplicit false

/-!
What the three runtimes share: the request accounting, the request timeout, and the handling
of a client's message.

A call that waits comes to an end in one of three ways: what it waits for returns, raises, or
does not end before the timeout. A `TimeoutError` that is raised is not told from the last.
-/

namespace NaiaRelay.Runtime

open NaiaRelay.Registry NaiaRelay.Mcp

structure RuntimeStats where
  activeRequests : ℕ := 0
  attachedClients : ℕ := 0
  queueDepth : ℕ := 0
  completedRequests : ℕ := 0
  timedOutRequests : ℕ := 0
  reconnectAttempts : ℕ := 0
  staleRejections : ℕ := 0
  validationFailures : ℕ := 0
  disconnects : ℕ := 0
  slowConsumerRejections : ℕ := 0

/-- The limits of a `RelayConfig`. -/
structure RelayConfig where
  requestTimeoutSeconds : ℕ := 60
  connectionTimeoutSeconds : ℕ := 10
  maxInFlightRequests : ℕ := 32
  maxQueueDepth : ℕ := 128
  reconnectAttempts : ℕ := 3
  maxMessageSizeBytes : ℕ := 1048576
  le_maxMessageSizeBytes : 1024 ≤ maxMessageSizeBytes := by decide
  one_le_maxInFlightRequests : 1 ≤ maxInFlightRequests := by decide
  one_le_maxQueueDepth : 1 ≤ maxQueueDepth := by decide

/-- The limits of a runtime that is given none. -/
def RelayConfig.default : RelayConfig := {}

/-- `BaseRelayRuntime`. -/
structure BaseRelayRuntime where
  config : RelayConfig := .default
  role : String
  relayId : String
  sessionId : String
  started : Bool := false
  stats : RuntimeStats := {}
  requestsDrained : Bool := true

/-- How the wait for something ends. -/
inductive Outcome (A : Type)
  | returns (value : A)
  | raises (exc : Exc)
  | timesOut

/-- What `_with_timeout` raises when the time is up. -/
def timeoutError (timeout : ℕ) (label : String) : Exc :=
  .protocol (label ++ " timed out") "timeout"
    (.obj [("label", .str label), ("timeout_seconds", .int timeout)])

namespace BaseRelayRuntime

variable {Q A R : Type}

def start (rt : BaseRelayRuntime) : BaseRelayRuntime := { rt with started := true }

/-- `_ensure_started`. -/
def ensureStarted (rt : BaseRelayRuntime) : Except Exc Unit :=
  if rt.started then .ok () else .error (.runtimeError (rt.role ++ " runtime is not started"))

/-- One more request in flight. -/
def countRequest (rt : BaseRelayRuntime) : BaseRelayRuntime :=
  { rt with
    stats.queueDepth := rt.stats.queueDepth + 1
    stats.activeRequests := rt.stats.activeRequests + 1
    requestsDrained := false }

/-- `_guard_request`. -/
def guardRequest (rt : BaseRelayRuntime) : Except Exc Unit × BaseRelayRuntime :=
  if rt.config.maxInFlightRequests ≤ rt.stats.activeRequests then
    (.error (.protocol "Maximum in-flight requests exceeded" "backpressure_limit_exceeded"
      (.obj [("max_in_flight_requests", .int rt.config.maxInFlightRequests)])), rt)
  else if rt.config.maxQueueDepth ≤ rt.stats.queueDepth then
    (.error (.protocol "Maximum queue depth exceeded" "slow_consumer_limit_exceeded"
      (.obj [("max_queue_depth", .int rt.config.maxQueueDepth)])),
      { rt with stats.slowConsumerRejections := rt.stats.slowConsumerRejections + 1 })
  else (.ok (), rt.countRequest)

/-- `_finish_request`. -/
def finishRequest (rt : BaseRelayRuntime) : BaseRelayRuntime :=
  { rt with
    stats.activeRequests := rt.stats.activeRequests - 1
    stats.queueDepth := rt.stats.queueDepth - 1
    stats.completedRequests := rt.stats.completedRequests + 1
    requestsDrained := rt.requestsDrained || rt.stats.activeRequests - 1 == 0 }

def recordTimeout (rt : BaseRelayRuntime) : BaseRelayRuntime :=
  { rt with stats.timedOutRequests := rt.stats.timedOutRequests + 1 }

def recordValidationFailure (rt : BaseRelayRuntime) : BaseRelayRuntime :=
  { rt with stats.validationFailures := rt.stats.validationFailures + 1 }

def recordDisconnect (rt : BaseRelayRuntime) : BaseRelayRuntime :=
  { rt with stats.disconnects := rt.stats.disconnects + 1 }

/-- `_with_timeout` around a call; the outcome counts only if the call waits. -/
def withTimeout (rt : BaseRelayRuntime) (timeout : ℕ) (label : String)
    (call : Coroutine Q (Except Exc A) (Except Exc R)) (outcome : Outcome A) :
    Except Exc R × BaseRelayRuntime :=
  match call, outcome with
  | .done r, _ => (r, rt)
  | .await _ resume, .returns value => (resume (.ok value), rt)
  | .await _ resume, .raises exc => (resume (.error exc), rt)
  | .await _ _, .timesOut => (.error (timeoutError timeout label), rt.recordTimeout)

/-- `_with_request_timeout`. -/
def withRequestTimeout (rt : BaseRelayRuntime)
    (call : Coroutine Q (Except Exc A) (Except Exc R)) (outcome : Outcome A) :
    Except Exc R × BaseRelayRuntime :=
  rt.withTimeout rt.config.requestTimeoutSeconds "Request" call outcome

/-- An exception that leaves the runtime is counted. -/
def countFailure (rt : BaseRelayRuntime) : Except Exc R → BaseRelayRuntime
  | .ok _ => rt
  | .error _ => rt.recordValidationFailure

/-- `handle_mcp_message`, the same in the two runtimes that have it, up to the callback the
handler waits for. A message that is not admitted is not handled. -/
def openMcp (P : Platform) (rt : BaseRelayRuntime) (mcp : MCPRecords) (registry : RegistryStore)
    (message : Obj) : Except Exc Call × BaseRelayRuntime × MCPRecords :=
  match rt.ensureStarted with
  | .error e => (.error e, rt, mcp)
  | .ok _ =>
    match rt.guardRequest with
    | (.error e, rt) => (.error e, rt, mcp)
    | (.ok _, rt) =>
      let x := mcp.handleMessage P registry message
      (.ok x.1, rt, x.2)

/-- The end of `handle_mcp_message`, for a message that was admitted. -/
def closeMcp (rt : BaseRelayRuntime) (response : Except Exc (Option Obj)) : BaseRelayRuntime :=
  (rt.countFailure response).finishRequest

/-- `handle_mcp_message` from its start to its end, when the callback ends like this. -/
def handleMcpMessage (P : Platform) (rt : BaseRelayRuntime) (mcp : MCPRecords)
    (registry : RegistryStore) (message : Obj) (outcome : Outcome Json) :
    Except Exc (Option Obj) × BaseRelayRuntime × MCPRecords :=
  match rt.openMcp P mcp registry message with
  | (.error e, rt, mcp) => (.error e, rt, mcp)
  | (.ok call, rt, mcp) =>
    let x := rt.withRequestTimeout call outcome
    (x.1, x.2.closeMcp x.1, mcp)

/-- The same limits, the same number of requests in flight, and started or not alike. -/
structure SameLoad (rt rt' : BaseRelayRuntime) : Prop where
  config : rt'.config = rt.config
  started : rt'.started = rt.started
  activeRequests : rt'.stats.activeRequests = rt.stats.activeRequests
  queueDepth : rt'.stats.queueDepth = rt.stats.queueDepth

lemma sameLoad_withTimeout (rt : BaseRelayRuntime) (timeout : ℕ) (label : String)
    (call : Coroutine Q (Except Exc A) (Except Exc R)) (outcome : Outcome A) :
    SameLoad rt (rt.withTimeout timeout label call outcome).2 := by
  unfold withTimeout
  split <;> exact ⟨rfl, rfl, rfl, rfl⟩

lemma sameLoad_countFailure (rt : BaseRelayRuntime) (r : Except Exc R) :
    SameLoad rt (rt.countFailure r) := by
  cases r <;> exact ⟨rfl, rfl, rfl, rfl⟩

lemma SameLoad.trans {rt₁ rt₂ rt₃ : BaseRelayRuntime} (h : SameLoad rt₁ rt₂)
    (h' : SameLoad rt₂ rt₃) : SameLoad rt₁ rt₃ where
  config := h'.config.trans h.config
  started := h'.started.trans h.started
  activeRequests := h'.activeRequests.trans h.activeRequests
  queueDepth := h'.queueDepth.trans h.queueDepth

lemma guardRequest_of_room {rt : BaseRelayRuntime}
    (ha : rt.stats.activeRequests < rt.config.maxInFlightRequests)
    (hq : rt.stats.queueDepth < rt.config.maxQueueDepth) :
    rt.guardRequest = (.ok (), rt.countRequest) := by
  rw [guardRequest, if_neg (by omega), if_neg (by omega)]

lemma SameLoad.finishRequest {rt rt' : BaseRelayRuntime} (h : SameLoad rt.countRequest rt') :
    SameLoad rt rt'.finishRequest where
  config := h.config
  started := h.started
  activeRequests := by
    have := h.activeRequests
    simp only [countRequest] at this
    simp only [BaseRelayRuntime.finishRequest]
    omega
  queueDepth := by
    have := h.queueDepth
    simp only [countRequest] at this
    simp only [BaseRelayRuntime.finishRequest]
    omega

lemma withRequestTimeout_fst {rt rt' : BaseRelayRuntime} (h : rt'.config = rt.config)
    (call : Coroutine Q (Except Exc A) (Except Exc R)) (outcome : Outcome A) :
    (rt'.withRequestTimeout call outcome).1 = (rt.withRequestTimeout call outcome).1 := by
  unfold withRequestTimeout withTimeout
  rw [h]
  split <;> rfl

lemma handleMcpMessage_of_room {P : Platform} {rt : BaseRelayRuntime} {mcp : MCPRecords}
    {registry : RegistryStore} {message : Obj} {outcome : Outcome Json} (hs : rt.started = true)
    (ha : rt.stats.activeRequests < rt.config.maxInFlightRequests)
    (hq : rt.stats.queueDepth < rt.config.maxQueueDepth) :
    ∃ rt', SameLoad rt rt' ∧ rt.handleMcpMessage P mcp registry message outcome =
      ((rt.withRequestTimeout (mcp.handleMessage P registry message).1 outcome).1, rt',
        (mcp.handleMessage P registry message).2) := by
  have hx := withRequestTimeout_fst (show rt.countRequest.config = rt.config from rfl)
    (mcp.handleMessage P registry message).1 outcome
  have hload := (sameLoad_withTimeout rt.countRequest rt.config.requestTimeoutSeconds "Request"
    (mcp.handleMessage P registry message).1 outcome).trans (sameLoad_countFailure _
      (rt.countRequest.withRequestTimeout (mcp.handleMessage P registry message).1 outcome).1)
  refine ⟨_, hload.finishRequest, ?_⟩
  simp only [handleMcpMessage, openMcp, ensureStarted, hs, if_true, guardRequest_of_room ha hq,
    ← hx]
  rfl

end BaseRelayRuntime

end NaiaRelay.Runtime
