import NaiaRelay.Config
import NaiaRelay.ExecutorLoop
import NaiaRelay.ReplyLoop
import NaiaRelay.SyncWindow

set_option autoImplicit false

/-!
A runtime of any role. Whatever comes in, it stays what it was but for its counts and its tables,
until it is stopped.
-/

namespace NaiaRelay.Config

/-- The limits of a runtime with this configuration. -/
def RelayConfig.limits (c : RelayConfig) : Runtime.RelayConfig where
  requestTimeoutSeconds := c.requestTimeoutSeconds.val.toNat
  connectionTimeoutSeconds := c.connectionTimeoutSeconds.val.toNat
  maxInFlightRequests := c.maxInFlightRequests.val.toNat
  maxQueueDepth := c.maxQueueDepth.val.toNat
  reconnectAttempts := c.reconnectAttempts.val.toNat
  maxMessageSizeBytes := c.maxMessageSizeBytes.val.toNat
  le_maxMessageSizeBytes := by have := c.maxMessageSizeBytes.property; omega
  one_le_maxInFlightRequests := by have := c.maxInFlightRequests.property; omega
  one_le_maxQueueDepth := by have := c.maxQueueDepth.property; omega

end NaiaRelay.Config

namespace NaiaRelay.Runtime

open NaiaRelay.Config NaiaRelay.Registry NaiaRelay.Mcp NaiaRelay.Rlp

/-- A runtime of any role. A client comes with what it waits for. -/
inductive RelayRuntime
  | direct (d : DirectRelayRuntime)
  | host (h : HostRelayRuntime)
  | client (c : ClientSystem)

/-- `create_runtime`, which draws two ids. -/
def createRuntime (relayId sessionId : String) : RelayAppConfig → RelayRuntime
  | .direct c => .direct (.create relayId sessionId c.relay.limits)
  | .host c => .host (.create relayId sessionId c.relay.limits)
  | .client c => .client ⟨.create relayId sessionId c.relay.limits, [], []⟩

/-- What connections bring a runtime. -/
inductive RelayEvent
  /-- A message of an executor of a direct runtime. -/
  | tep (newMessageId : String) (message : Obj)
  /-- A message of a client of a direct or client runtime; a direct one draws no ids for it. -/
  | mcp (ids : ClientRelayRuntime.RequestIds) (message : Obj)
  /-- A request of a client runtime to its host ends. -/
  | upstream (i : ℕ) (outcome : Outcome Obj)
  | host (e : HostEvent)

/-- The event is a part of `stop`. -/
def HostEvent.isStop : HostEvent → Bool
  | .stop => true
  | .stopped => true
  | _ => false

variable (P : Platform)

namespace RelayRuntime

def base : RelayRuntime → BaseRelayRuntime
  | direct d => d.base
  | host h => h.base
  | client c => c.runtime.base

def start : RelayRuntime → RelayRuntime
  | direct d => .direct d.start
  | host h => .host h.start
  | client c => .client { c with runtime := c.runtime.start }

/-- What `stop` leaves. -/
def stopped : RelayRuntime → RelayRuntime
  | direct d => .direct { d with base.started := false }
  | host h => .host { h with link := h.link.stop }.stopped
  | client c => .client { c with runtime.base.started := false }

/-- One event of a runtime that nobody stops. -/
def step : RelayRuntime → RelayEvent → Option RelayRuntime
  | direct d, .tep newMessageId message =>
    some (.direct (d.handleTepMessageWithRuntime P newMessageId message).2)
  | direct d, .mcp _ message => some (.direct (d.handleMcpMessage P message).2)
  | host h, .host e => if e.isStop then none else (h.step P e).map .host
  | client c, .mcp ids message => (c.step P (.mcp ids message)).map .client
  | client c, .upstream i outcome => (c.step P (.mcpReply i outcome)).map .client
  | _, _ => none

/-- The entries a client holds, and whether it has a host to ask. -/
def mirror : RelayRuntime → Option (RegistryStore × Bool)
  | client c => some (c.runtime.registry, c.runtime.upstream)
  | _ => none

end RelayRuntime

/-- A runtime but for its counts. -/
def BaseRelayRuntime.uncounted (rt : BaseRelayRuntime) : BaseRelayRuntime :=
  { rt with stats := {}, requestsDrained := true }

/-! ### Messages only count -/

variable {P} {A Q R : Type}

namespace BaseRelayRuntime

variable (rt : BaseRelayRuntime)

@[simp] lemma uncounted_countFailure (r : Except Exc R) :
    (rt.countFailure r).uncounted = rt.uncounted := by
  cases r <;> rfl

@[simp] lemma uncounted_closeMcp (r : Except Exc (Option Obj)) :
    (rt.closeMcp r).uncounted = rt.uncounted := by
  cases r <;> rfl

@[simp] lemma uncounted_withTimeout (timeout : ℕ) (label : String)
    (call : Coroutine Q (Except Exc A) (Except Exc R)) (outcome : Outcome A) :
    (rt.withTimeout timeout label call outcome).2.uncounted = rt.uncounted := by
  cases call <;> cases outcome <;> rfl

lemma uncounted_guardRequest : rt.guardRequest.2.uncounted = rt.uncounted := by
  unfold guardRequest
  split_ifs <;> rfl

lemma uncounted_openMcp (mcp : MCPRecords) (registry : RegistryStore) (message : Obj) :
    (rt.openMcp P mcp registry message).2.1.uncounted = rt.uncounted := by
  have hguard := rt.uncounted_guardRequest
  unfold openMcp
  split
  · rfl
  · split <;> (rename_i hx; rw [hx] at hguard; exact hguard)

end BaseRelayRuntime

namespace DirectRelayRuntime

variable (d : DirectRelayRuntime)

lemma uncounted_handleTepMessage (newMessageId : String) (message : Obj) :
    (d.handleTepMessage P newMessageId message).2.base.uncounted = d.base.uncounted := by
  unfold handleTepMessage
  split
  · rfl
  · exact d.base.uncounted_countFailure _

lemma uncounted_handleTepMessageWithRuntime (newMessageId : String) (message : Obj) :
    (d.handleTepMessageWithRuntime P newMessageId message).2.base.uncounted = d.base.uncounted := by
  unfold handleTepMessageWithRuntime
  dsimp only
  split
  · exact uncounted_handleTepMessage _ newMessageId message
  · rfl

lemma uncounted_handleMcpMessage (message : Obj) :
    (d.handleMcpMessage P message).2.base.uncounted = d.base.uncounted := by
  have hopen := @BaseRelayRuntime.uncounted_openMcp P d.base d.mcp d.registry message
  unfold handleMcpMessage
  split
  · rename_i hx
    rwa [hx] at hopen
  · rename_i hx
    rw [hx] at hopen
    dsimp only
    rwa [BaseRelayRuntime.uncounted_closeMcp]

end DirectRelayRuntime

/-- A message of a client's client changes its counts and its handler. -/
structure ClientRelayRuntime.Serves (c c' : ClientRelayRuntime) : Prop where
  base : c'.base.uncounted = c.base.uncounted
  registry : c'.registry = c.registry
  upstream : c'.upstream = c.upstream

namespace ClientRelayRuntime

variable (c : ClientRelayRuntime)

lemma serves_callback (ids : RequestIds) (call : Callback) :
    c.Serves (c.callback P ids call).2 := by
  unfold callback
  split
  · exact ⟨rfl, rfl, rfl⟩
  · split
    · exact ⟨rfl, rfl, rfl⟩
    · split <;> exact ⟨rfl, rfl, rfl⟩

lemma serves_openMcp (ids : RequestIds) (message : Obj) : c.Serves (c.openMcp P ids message).2 := by
  have hopen := @BaseRelayRuntime.uncounted_openMcp P c.base c.mcp c.registry message
  unfold openMcp
  split
  · rename_i hx
    rw [hx] at hopen
    exact ⟨hopen, rfl, rfl⟩
  · rename_i call base mcp hx
    rw [hx] at hopen
    dsimp only at hopen ⊢
    split
    · exact ⟨(base.uncounted_closeMcp _).trans hopen, rfl, rfl⟩
    · rename_i q resume
      obtain ⟨hbase, hregistry, hupstream⟩ := @serves_callback P { c with base, mcp } ids q
      split <;> (rename_i hy; rw [hy] at hbase hregistry hupstream)
      · exact ⟨(BaseRelayRuntime.uncounted_closeMcp _ _).trans (hbase.trans hopen), hregistry,
          hupstream⟩
      · exact ⟨hbase.trans hopen, hregistry, hupstream⟩

lemma serves_closeMcp (call : UpstreamCall) (outcome : Outcome Obj) :
    c.Serves (c.closeMcp call outcome).2 :=
  ⟨(BaseRelayRuntime.uncounted_closeMcp _ _).trans (c.base.uncounted_withTimeout _ _ call outcome),
    rfl, rfl⟩

end ClientRelayRuntime

namespace ClientSystem

variable {s t : ClientSystem}

lemma serves_mcp {ids : ClientRelayRuntime.RequestIds} {message : Obj}
    (h : s.step P (.mcp ids message) = some t) : s.runtime.Serves t.runtime := by
  have hopen := @ClientRelayRuntime.serves_openMcp P s.runtime ids message
  simp only [ClientSystem.step] at h
  generalize s.runtime.openMcp P ids message = x at h hopen
  obtain ⟨call, c⟩ := x
  cases call <;> (obtain rfl := Option.some.inj h; exact hopen)

lemma serves_mcpReply {i : ℕ} {outcome : Outcome Obj} (h : s.step P (.mcpReply i outcome) = some t) :
    s.runtime.Serves t.runtime := by
  simp only [ClientSystem.step] at h
  split at h
  · cases h
  · obtain rfl := Option.some.inj h
    exact s.runtime.serves_closeMcp _ outcome

end ClientSystem

namespace HostRelayRuntime

variable (h : HostRelayRuntime)

lemma uncounted_conclude (answer : Except Exc Obj) :
    (h.conclude answer).base.uncounted = h.base.uncounted := by
  cases answer <;> rfl

lemma uncounted_afterAwait (i : ℕ) (link : ExecutorLink) :
    (h.afterAwait i link).base.uncounted = h.base.uncounted := by
  unfold afterAwait
  dsimp only
  split
  · exact uncounted_conclude _ _
  · rfl

lemma uncounted_handleRlpMessage (ids : NewIds) (operationIds : OperationIds) (message : Obj) :
    (h.handleRlpMessage P ids operationIds message).2.base.uncounted = h.base.uncounted := by
  unfold handleRlpMessage
  split
  · rfl
  · dsimp only
    split
    · exact uncounted_conclude _ _
    · split
      · exact uncounted_conclude _ _
      · rfl

variable {h}

lemma uncounted_step {h' : HostRelayRuntime} {e : HostEvent} (he : e.isStop = false)
    (hstep : h.step P e = some h') : h'.base.uncounted = h.base.uncounted := by
  have hafter : ∀ {i : ℕ} {g : HostRelayRuntime} {link : Option ExecutorLink},
      link.map (g.afterAwait i) = some h' → g.base.uncounted = h.base.uncounted →
        h'.base.uncounted = h.base.uncounted := by
    intro i g link hlink hg
    obtain ⟨link, -, rfl⟩ := Option.map_eq_some_iff.mp hlink
    exact (g.uncounted_afterAwait i link).trans hg
  cases e with
  | rlp ids operationIds message =>
    simp only [step] at hstep
    split_ifs at hstep
    obtain rfl := Option.some.inj hstep
    exact h.uncounted_handleRlpMessage ids operationIds message
  | executor newMessageId message =>
    obtain rfl := Option.some.inj hstep
    obtain ⟨tep, rlp, -, he⟩ := handleExecutorStdioMessage_eq (P := P) h newMessageId message
    rw [he]
  | acquire i => exact hafter hstep rfl
  | sent i outcome => exact hafter hstep rfl
  | resume i => exact hafter hstep rfl
  | expire i outer => exact hafter hstep rfl
  | attach adapter =>
    obtain rfl := Option.some.inj hstep
    rfl
  | detach adapter =>
    obtain rfl := Option.some.inj hstep
    rfl
  | stop => cases he
  | stopped => cases he

end HostRelayRuntime

namespace RelayRuntime

variable {r r' : RelayRuntime} {e : RelayEvent}

/-- **Nobody stops a runtime that works**, or makes another of it, whatever comes in; and a client
keeps the entries it holds. -/
lemma stands_step (h : r.step P e = some r') :
    r'.base.uncounted = r.base.uncounted ∧ r'.mirror = r.mirror := by
  cases r with
  | direct d =>
    cases e with
    | tep newMessageId message =>
      obtain rfl := Option.some.inj h
      exact ⟨d.uncounted_handleTepMessageWithRuntime newMessageId message, rfl⟩
    | mcp ids message =>
      obtain rfl := Option.some.inj h
      exact ⟨d.uncounted_handleMcpMessage message, rfl⟩
    | upstream i outcome => cases h
    | host e => cases h
  | host host =>
    cases e with
    | host e =>
      simp only [step] at h
      split_ifs at h with he
      obtain ⟨host', hstep, rfl⟩ := Option.map_eq_some_iff.mp h
      exact ⟨HostRelayRuntime.uncounted_step (by simpa using he) hstep, rfl⟩
    | tep newMessageId message => cases h
    | mcp ids message => cases h
    | upstream i outcome => cases h
  | client c =>
    -- what a client serves its MCP side does not reach its mirror
    have hserves : ∀ {c' : ClientSystem}, c.runtime.Serves c'.runtime →
        (client c').base.uncounted = (client c).base.uncounted ∧
          (client c').mirror = (client c).mirror := by
      intro c' hc
      refine ⟨hc.base, ?_⟩
      rw [mirror, mirror, hc.registry, hc.upstream]
    cases e with
    | mcp ids message =>
      obtain ⟨c', hstep, rfl⟩ := Option.map_eq_some_iff.mp h
      exact hserves (ClientSystem.serves_mcp hstep)
    | upstream i outcome =>
      obtain ⟨c', hstep, rfl⟩ := Option.map_eq_some_iff.mp h
      exact hserves (ClientSystem.serves_mcpReply hstep)
    | tep newMessageId message => cases h
    | host e => cases h

lemma uncounted_stopped (r : RelayRuntime) :
    r.stopped.base.uncounted = { r.base.uncounted with started := false } := by
  cases r <;> rfl

end RelayRuntime

end NaiaRelay.Runtime
