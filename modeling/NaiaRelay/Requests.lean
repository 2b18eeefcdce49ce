import NaiaRelay.Lib.Run
import NaiaRelay.ClientRuntime
import NaiaRelay.DirectRuntime

set_option autoImplicit false

/-!
The requests of a runtime that serves a client, direct or client, from their admission to
their end, and the runtime's shutdown.

Everything between two awaits is one event. Who carries out the callback of a request is left
open: it returns, raises, does not end in time, or is cancelled with the request.
-/

namespace NaiaRelay.Runtime

open NaiaRelay.Registry NaiaRelay.Mcp

variable (P : Platform)

/-- Where `stop` is. -/
inductive Shutdown
  /-- It has not been called. -/
  | running
  /-- It waits for `_requests_drained`, which has been set meanwhile or not. -/
  | draining (woken : Bool)
  /-- It waits for the executor's listener to close. -/
  | closingTep
  /-- It waits for the client's listener to be cleaned up. -/
  | closingHttp
  | stopped
  deriving DecidableEq

/-- A runtime with the calls of `handle_mcp_message` that have been admitted and have not
ended. -/
structure RequestSystem where
  runtime : BaseRelayRuntime
  mcp : MCPRecords := runtimeCallbacks
  calls : List Call := []
  /-- Whether `_tep_server` is set. -/
  tepServer : Bool := false
  /-- Whether `_mcp_http_runner` is set. -/
  mcpHttpRunner : Bool := false
  shutdown : Shutdown := .running

inductive RequestEvent
  /-- `handle_mcp_message` is called, over the registry as it is by then. -/
  | call (registry : RegistryStore) (message : Obj)
  /-- The callback of a call ends, and the call with it. -/
  | finish (i : ℕ) (outcome : Outcome Json)
  /-- A call is cancelled. -/
  | cancel (i : ℕ)
  /-- Another part of the runtime counts something. -/
  | record (stats : RuntimeStats)
  /-- `stop` is called. -/
  | stop
  /-- `stop` goes on after `_requests_drained` was set. -/
  | wake
  /-- The time for draining is up. -/
  | drainTimeout
  | tepClosed
  | httpClosed

namespace RequestSystem

/-- A runtime that has just been created and started. -/
def fresh (config : RelayConfig) (role relayId sessionId : String)
    (tepServer mcpHttpRunner : Bool) : RequestSystem where
  runtime := BaseRelayRuntime.start { config, role, relayId, sessionId }
  tepServer := tepServer
  mcpHttpRunner := mcpHttpRunner

/-! ### The rest of `stop` -/

def setStopped (s : RequestSystem) : RequestSystem :=
  { s with runtime.started := false, shutdown := .stopped }

def closeHttp (s : RequestSystem) : RequestSystem :=
  if s.mcpHttpRunner then { s with shutdown := .closingHttp } else s.setStopped

def closeTransports (s : RequestSystem) : RequestSystem :=
  if s.tepServer then { s with shutdown := .closingTep } else s.closeHttp

/-- The end of a call. The last one sets `_requests_drained`, which wakes a `stop` that waits
for it. -/
def ended (s : RequestSystem) (i : ℕ) (runtime : BaseRelayRuntime) : RequestSystem :=
  { s with
    runtime
    calls := s.calls.eraseIdx i
    shutdown :=
      match s.shutdown with
      | .draining woken => .draining (woken || runtime.stats.activeRequests == 0)
      | shutdown => shutdown }

/-- One event; `none` where it cannot happen. -/
def step (s : RequestSystem) : RequestEvent → Option RequestSystem
  | .call registry message =>
    match s.runtime.openMcp P s.mcp registry message with
    | (.error _, runtime, mcp) => some { s with runtime, mcp }
    | (.ok call, runtime, mcp) => some { s with runtime, mcp, calls := s.calls ++ [call] }
  | .finish i outcome =>
    s.calls[i]?.map fun call =>
      let x := s.runtime.withRequestTimeout call outcome
      s.ended i (x.2.closeMcp x.1)
  | .cancel i => s.calls[i]?.map fun _ => s.ended i s.runtime.finishRequest
  | .record stats => some { s with
      runtime.stats := { stats with
        activeRequests := s.runtime.stats.activeRequests
        queueDepth := s.runtime.stats.queueDepth
        completedRequests := s.runtime.stats.completedRequests
        slowConsumerRejections := s.runtime.stats.slowConsumerRejections } }
  | .stop =>
    if s.shutdown = .running then
      if s.runtime.stats.activeRequests > 0 then some { s with shutdown := .draining false }
      else some s.closeTransports
    else none
  | .wake => if s.shutdown = .draining true then some s.closeTransports else none
  | .drainTimeout =>
    match s.shutdown with
    | .draining _ => some s.closeTransports
    | _ => none
  | .tepClosed =>
    if s.shutdown = .closingTep then some { s with tepServer := false }.closeHttp else none
  | .httpClosed =>
    if s.shutdown = .closingHttp then some { s with mcpHttpRunner := false }.setStopped else none

/-- The event is a call that is admitted. -/
def admits (s : RequestSystem) : RequestEvent → Bool
  | .call registry message => (s.runtime.openMcp P s.mcp registry message).1.isOk
  | _ => false

/-- How many calls of a run were admitted. -/
def admissions (s : RequestSystem) (es : List RequestEvent) : ℕ :=
  (Run.trace (step P) s es).countP fun p => p.1.admits P p.2

end RequestSystem

/-- The event ends a call. -/
def RequestEvent.Ends : RequestEvent → Prop
  | .finish _ _ | .cancel _ => True
  | _ => False

/-- The counters say what is in flight. -/
structure Accounted (s : RequestSystem) (admitted : ℕ) : Prop where
  active : s.runtime.stats.activeRequests = s.calls.length
  depth : s.runtime.stats.queueDepth = s.calls.length
  within : s.calls.length
    ≤ min s.runtime.config.maxInFlightRequests s.runtime.config.maxQueueDepth
  admitted : admitted = s.runtime.stats.completedRequests + s.runtime.stats.activeRequests
  drained : s.runtime.requestsDrained = true ↔ s.runtime.stats.activeRequests = 0

/-- One more request fits in. -/
def BaseRelayRuntime.HasRoom (rt : BaseRelayRuntime) : Prop :=
  rt.stats.activeRequests < rt.config.maxInFlightRequests ∧
    rt.stats.queueDepth < rt.config.maxQueueDepth

/-- What is left of a runtime by a call that it does not admit. -/
def BaseRelayRuntime.rejected (rt : BaseRelayRuntime) : BaseRelayRuntime :=
  if rt.started = true ∧ rt.stats.activeRequests < rt.config.maxInFlightRequests ∧
      rt.config.maxQueueDepth ≤ rt.stats.queueDepth then
    { rt with stats.slowConsumerRejections := rt.stats.slowConsumerRejections + 1 }
  else rt

variable {P} {s s' : RequestSystem} {n : ℕ}

/-! ### One call -/

lemma openMcp_cases (rt : BaseRelayRuntime) (mcp : MCPRecords) (registry : RegistryStore)
    (message : Obj) :
    (rt.started = true ∧ rt.HasRoom ∧ rt.openMcp P mcp registry message =
        (.ok (mcp.handleMessage P registry message).1, rt.countRequest,
          (mcp.handleMessage P registry message).2)) ∨
      (¬ (rt.started = true ∧ rt.HasRoom) ∧
        ∃ e, rt.openMcp P mcp registry message = (.error e, rt.rejected, mcp)) := by
  unfold BaseRelayRuntime.openMcp BaseRelayRuntime.ensureStarted
  by_cases hs : rt.started = true
  · rw [if_pos hs]
    by_cases ha : rt.stats.activeRequests < rt.config.maxInFlightRequests
    · by_cases hq : rt.stats.queueDepth < rt.config.maxQueueDepth
      · refine Or.inl ⟨hs, ⟨ha, hq⟩, ?_⟩
        rw [BaseRelayRuntime.guardRequest_of_room ha hq]
      · refine Or.inr ⟨fun h => hq h.2.2, ?_⟩
        rw [BaseRelayRuntime.guardRequest, if_neg (by omega), if_pos (by omega),
          BaseRelayRuntime.rejected, if_pos ⟨hs, ha, by omega⟩]
        exact ⟨_, rfl⟩
    · refine Or.inr ⟨fun h => ha h.2.1, ?_⟩
      rw [BaseRelayRuntime.guardRequest, if_pos (by omega), BaseRelayRuntime.rejected,
        if_neg fun h => ha h.2.1]
      exact ⟨_, rfl⟩
  · refine Or.inr ⟨fun h => hs h.1, ?_⟩
    rw [if_neg hs, BaseRelayRuntime.rejected, if_neg fun h => hs h.1]
    exact ⟨_, rfl⟩

lemma admits_call_iff (s : RequestSystem) (registry : RegistryStore) (message : Obj) :
    s.admits P (.call registry message) = true ↔ s.runtime.started = true ∧ s.runtime.HasRoom := by
  show (s.runtime.openMcp P s.mcp registry message).1.isOk = true ↔ _
  rcases openMcp_cases (P := P) s.runtime s.mcp registry message with ⟨hs, hr, hx⟩ | ⟨hno, e, hx⟩
  · rw [hx]
    exact iff_of_true rfl ⟨hs, hr⟩
  · rw [hx]
    exact iff_of_false Bool.false_ne_true hno

lemma step_call (s : RequestSystem) (registry : RegistryStore) (message : Obj) :
    s.step P (.call registry message) = some
      (if s.admits P (.call registry message) then
        { s with
          runtime := s.runtime.countRequest
          mcp := (s.mcp.handleMessage P registry message).2
          calls := s.calls ++ [(s.mcp.handleMessage P registry message).1] }
      else { s with runtime := s.runtime.rejected }) := by
  have hiff := admits_call_iff (P := P) s registry message
  rcases openMcp_cases (P := P) s.runtime s.mcp registry message with ⟨hs, hr, hx⟩ | ⟨hno, e, hx⟩
  · rw [if_pos (hiff.mpr ⟨hs, hr⟩), RequestSystem.step, hx]
  · rw [if_neg (mt hiff.mp hno), RequestSystem.step, hx]

/-! ### The counters -/

/-- `_finish_request` on a runtime with the same load, seen by the counters. -/
structure Finished (rt rt' : BaseRelayRuntime) : Prop where
  config : rt'.config = rt.config
  started : rt'.started = rt.started
  active : rt'.stats.activeRequests = rt.stats.activeRequests - 1
  depth : rt'.stats.queueDepth = rt.stats.queueDepth - 1
  completed : rt'.stats.completedRequests = rt.stats.completedRequests + 1
  drained : rt'.requestsDrained = (rt.requestsDrained || rt.stats.activeRequests - 1 == 0)

lemma finished_finishRequest (rt : BaseRelayRuntime) : Finished rt rt.finishRequest :=
  ⟨rfl, rfl, rfl, rfl, rfl, rfl⟩

lemma finished_closeMcp {Q A : Type} (rt : BaseRelayRuntime)
    (call : Coroutine Q (Except Exc A) (Except Exc (Option Obj))) (outcome : Outcome A) :
    let x := rt.withRequestTimeout call outcome
    Finished rt (x.2.closeMcp x.1) := by
  intro x
  have hrt : x.2 = rt ∨ x.2 = rt.recordTimeout := by
    simp only [x, BaseRelayRuntime.withRequestTimeout]
    unfold BaseRelayRuntime.withTimeout
    split
    · exact Or.inl rfl
    · exact Or.inl rfl
    · exact Or.inl rfl
    · exact Or.inr rfl
  rcases hrt with hrt | hrt <;> rw [hrt] <;> cases x.1 <;> exact ⟨rfl, rfl, rfl, rfl, rfl, rfl⟩

lemma step_ends {e : RequestEvent} (h : s.step P e = some s') (he : e.Ends) :
    ∃ i rt, i < s.calls.length ∧ Finished s.runtime rt ∧ s' = s.ended i rt := by
  cases e with
  | finish i outcome =>
    obtain ⟨call, hi, rfl⟩ := Option.map_eq_some_iff.mp h
    exact ⟨i, _, (List.getElem?_eq_some_iff.mp hi).1, finished_closeMcp _ _ _, rfl⟩
  | cancel i =>
    obtain ⟨call, hi, rfl⟩ := Option.map_eq_some_iff.mp h
    exact ⟨i, _, (List.getElem?_eq_some_iff.mp hi).1, finished_finishRequest _, rfl⟩
  | _ => exact he.elim

/-- The events of a shutdown touch neither the calls nor the counters. -/
structure SameRequests (s s' : RequestSystem) : Prop where
  calls : s'.calls = s.calls
  config : s'.runtime.config = s.runtime.config
  active : s'.runtime.stats.activeRequests = s.runtime.stats.activeRequests
  depth : s'.runtime.stats.queueDepth = s.runtime.stats.queueDepth
  completed : s'.runtime.stats.completedRequests = s.runtime.stats.completedRequests
  drained : s'.runtime.requestsDrained = s.runtime.requestsDrained

lemma sameRequests_closeHttp (s : RequestSystem) : SameRequests s s.closeHttp := by
  unfold RequestSystem.closeHttp
  split <;> exact ⟨rfl, rfl, rfl, rfl, rfl, rfl⟩

lemma sameRequests_closeTransports (s : RequestSystem) : SameRequests s s.closeTransports := by
  unfold RequestSystem.closeTransports
  split
  · exact ⟨rfl, rfl, rfl, rfl, rfl, rfl⟩
  · exact sameRequests_closeHttp s

/-- **What an event does that neither is a call nor ends one.** Another part of the runtime
counts something, or `stop` goes on from one of its awaits to the next. -/
lemma step_cases {e : RequestEvent} (h : s.step P e = some s')
    (hc : ∀ registry message, e ≠ .call registry message) (he : ¬ e.Ends) :
    (SameRequests s s' ∧ s'.shutdown = s.shutdown ∧ s'.runtime.started = s.runtime.started) ∨
      (s.shutdown = .running ∧ s' = { s with shutdown := .draining false }) ∨
      (s' = s.closeTransports ∧ ((s.shutdown = .running ∧ s.runtime.stats.activeRequests = 0) ∨
        s.shutdown = .draining true ∨
        ∃ woken, s.shutdown = .draining woken ∧ e = .drainTimeout)) ∨
      (s.shutdown = .closingTep ∧ s' = { s with tepServer := false }.closeHttp) ∨
      (s.shutdown = .closingHttp ∧ s' = { s with mcpHttpRunner := false }.setStopped) := by
  cases e with
  | call registry message => exact absurd rfl (hc registry message)
  | finish i outcome | cancel i => exact absurd trivial he
  | record stats =>
    obtain rfl := Option.some.inj h
    exact Or.inl ⟨⟨rfl, rfl, rfl, rfl, rfl, rfl⟩, rfl, rfl⟩
  -- it waits for what is in flight, or goes on to close the transports at once
  | stop =>
    simp only [RequestSystem.step] at h
    split at h
    · rename_i hsh
      split at h
      · exact Or.inr (Or.inl ⟨hsh, (Option.some.inj h).symm⟩)
      · rename_i hz
        exact Or.inr (Or.inr (Or.inl ⟨(Option.some.inj h).symm, Or.inl ⟨hsh, by omega⟩⟩))
    · cases h
  -- the drain ends because the last call has, or because its time is up
  | wake =>
    simp only [RequestSystem.step] at h
    split at h
    · rename_i hsh
      exact Or.inr (Or.inr (Or.inl ⟨(Option.some.inj h).symm, Or.inr (Or.inl hsh)⟩))
    · cases h
  | drainTimeout =>
    simp only [RequestSystem.step] at h
    split at h
    · rename_i woken hsh
      exact Or.inr (Or.inr (Or.inl ⟨(Option.some.inj h).symm, Or.inr (Or.inr ⟨woken, hsh, rfl⟩)⟩))
    · cases h
  -- the transports are closed one after the other, and then the runtime is stopped
  | tepClosed =>
    simp only [RequestSystem.step] at h
    split at h
    · rename_i hsh
      exact Or.inr (Or.inr (Or.inr (Or.inl ⟨hsh, (Option.some.inj h).symm⟩)))
    · cases h
  | httpClosed =>
    simp only [RequestSystem.step] at h
    split at h
    · rename_i hsh
      exact Or.inr (Or.inr (Or.inr (Or.inr ⟨hsh, (Option.some.inj h).symm⟩)))
    · cases h

lemma sameRequests_step {e : RequestEvent} (h : s.step P e = some s')
    (hc : ∀ registry message, e ≠ .call registry message) (he : ¬ e.Ends) : SameRequests s s' := by
  rcases step_cases h hc he with
    ⟨hsame, -⟩ | ⟨-, rfl⟩ | ⟨rfl, -⟩ | ⟨-, rfl⟩ | ⟨-, rfl⟩
  · exact hsame
  · exact ⟨rfl, rfl, rfl, rfl, rfl, rfl⟩
  · exact sameRequests_closeTransports s
  · obtain ⟨hcalls, hconfig, ha, hd, hcom, hdr⟩ :=
      sameRequests_closeHttp { s with tepServer := false }
    exact ⟨hcalls, hconfig, ha, hd, hcom, hdr⟩
  · exact ⟨rfl, rfl, rfl, rfl, rfl, rfl⟩

lemma Accounted.one_le (ha : Accounted s n) {i : ℕ} (hi : i < s.calls.length) :
    1 ≤ s.runtime.stats.activeRequests ∧ 1 ≤ s.runtime.stats.queueDepth := by
  have hactive := ha.active
  have hdepth := ha.depth
  omega

lemma Accounted.step (ha : Accounted s n) {e : RequestEvent} (h : s.step P e = some s') :
    Accounted s' (n + (s.admits P e).toNat) := by
  obtain ⟨hactive, hdepth, hwithin, hadmitted, hdrained⟩ := ha
  by_cases hc : ∃ registry message, e = .call registry message
  · obtain ⟨registry, message, rfl⟩ := hc
    rw [step_call] at h
    obtain rfl := Option.some.inj h
    by_cases had : s.admits P (.call registry message) = true
    -- an admitted call is one more on every count
    · obtain ⟨-, hroom⟩ := (admits_call_iff s registry message).mp had
      have hmin : s.calls.length + 1
          ≤ min s.runtime.config.maxInFlightRequests s.runtime.config.maxQueueDepth := by
        have hlt := hroom.1
        have hlt' := hroom.2
        omega
      rw [had, if_pos rfl]
      refine ⟨?_, ?_, ?_, ?_, ?_⟩
      · simp [BaseRelayRuntime.countRequest, hactive]
      · simp [BaseRelayRuntime.countRequest, hdepth]
      · simpa [BaseRelayRuntime.countRequest] using hmin
      · simp only [BaseRelayRuntime.countRequest, Bool.toNat_true]
        omega
      · simp [BaseRelayRuntime.countRequest]
    -- a rejected one is none
    · rw [Bool.not_eq_true] at had
      rw [had, if_neg Bool.false_ne_true]
      unfold BaseRelayRuntime.rejected
      split <;> exact ⟨hactive, hdepth, hwithin, hadmitted, hdrained⟩
  · have hno : ∀ registry message, e ≠ .call registry message :=
      fun registry message heq => hc ⟨registry, message, heq⟩
    have had : s.admits P e = false := by
      cases e with
      | call registry message => exact absurd rfl (hno registry message)
      | _ => rfl
    rw [had, Bool.toNat_false, Nat.add_zero]
    by_cases he : e.Ends
    -- a call that ends was counted, so nothing is clamped at zero
    · obtain ⟨i, rt, hi, ⟨hconfig, -, hact, hdep, hcom, hdr⟩, rfl⟩ := step_ends h he
      have hlen : (s.calls.eraseIdx i).length = s.calls.length - 1 := List.length_eraseIdx_of_lt hi
      refine ⟨?_, ?_, ?_, ?_, ?_⟩
      · simp only [RequestSystem.ended, hlen]
        omega
      · simp only [RequestSystem.ended, hlen]
        omega
      · simp only [RequestSystem.ended, hlen, hconfig]
        omega
      · simp only [RequestSystem.ended]
        omega
      · simp only [RequestSystem.ended, hdr, hact, Bool.or_eq_true, beq_iff_eq, hdrained]
        omega
    · obtain ⟨hcalls, hconfig, hact, hdep, hcom, hdr⟩ := sameRequests_step h hno he
      exact ⟨by rw [hact, hcalls, hactive], by rw [hdep, hcalls, hdepth],
        by rw [hcalls, hconfig]; exact hwithin, by rw [hcom, hact]; exact hadmitted,
        by rw [hdr, hact]; exact hdrained⟩

lemma accounted_fresh (config : RelayConfig) (role relayId sessionId : String)
    (tepServer mcpHttpRunner : Bool) :
    Accounted (.fresh config role relayId sessionId tepServer mcpHttpRunner) 0 :=
  ⟨rfl, rfl, Nat.zero_le _, rfl, iff_of_true rfl rfl⟩

lemma config_step {e : RequestEvent} (h : s.step P e = some s') :
    s'.runtime.config = s.runtime.config := by
  by_cases he : e.Ends
  · obtain ⟨i, rt, -, hf, rfl⟩ := step_ends h he
    exact hf.config
  · cases e with
    | call registry message =>
      rw [step_call] at h
      obtain rfl := Option.some.inj h
      unfold BaseRelayRuntime.rejected
      split
      · rfl
      · split <;> rfl
    | _ => exact (sameRequests_step h (fun _ _ => nofun) he).config

/-- **Accounts over a run.** -/
lemma Accounted.run (ha : Accounted s n) {es : List RequestEvent}
    (h : Run.run (RequestSystem.step P) s es = some s') :
    Accounted s' (n + s.admissions P es) ∧ s'.runtime.config = s.runtime.config := by
  refine Run.run_invariant_count (q := RequestSystem.admits P)
    (I := fun t n => Accounted t n ∧ t.runtime.config = s.runtime.config) ?_ ⟨ha, rfl⟩ h
  rintro t e t' n ⟨hat, hct⟩ ht
  exact ⟨hat.step ht, (config_step ht).trans hct⟩

/-- **Request accounting.** However the calls of a runtime are interleaved and however they
end, its counters say at every point how many admitted calls have not ended, within both
limits, and how many have been admitted; the drained event is set when there is none in
flight. A call that is not admitted changes at most the count of those turned away by the
queue limit alone, and what a call takes off the counters at its end was there. -/
theorem request_accounting (P : Platform) (config : RelayConfig)
    (role relayId sessionId : String) (tepServer mcpHttpRunner : Bool) {es : List RequestEvent}
    {s : RequestSystem}
    (hrun : Run.run (RequestSystem.step P)
      (.fresh config role relayId sessionId tepServer mcpHttpRunner) es = some s) :
    s.runtime.config = config ∧
    Accounted s
      ((RequestSystem.fresh config role relayId sessionId tepServer mcpHttpRunner).admissions P
        es) ∧
    (∀ registry message, s.admits P (.call registry message) = false →
      s.step P (.call registry message) = some { s with runtime := s.runtime.rejected }) ∧
    ∀ e s', s.step P e = some s' → e.Ends →
      s'.runtime.stats.activeRequests + 1 = s.runtime.stats.activeRequests ∧
        s'.runtime.stats.queueDepth + 1 = s.runtime.stats.queueDepth ∧
        s'.runtime.stats.completedRequests = s.runtime.stats.completedRequests + 1 := by
  obtain ⟨ha, hc⟩ :=
    (accounted_fresh config role relayId sessionId tepServer mcpHttpRunner).run hrun
  rw [Nat.zero_add] at ha
  refine ⟨hc, ha, ?_, ?_⟩
  · intro registry message had
    rw [step_call, had, if_neg Bool.false_ne_true]
  · intro e s' hstep he
    obtain ⟨i, rt, hi, hf, rfl⟩ := step_ends hstep he
    obtain ⟨hactive, hdepth⟩ := ha.one_le hi
    have hact := hf.active
    have hdep := hf.depth
    exact ⟨by show rt.stats.activeRequests + 1 = _; omega,
      by show rt.stats.queueDepth + 1 = _; omega, hf.completed⟩

/-! Two calls where there is room for one. -/

def narrow : RelayConfig :=
  { RelayConfig.default with
    maxInFlightRequests := 1
    maxQueueDepth := 1
    one_le_maxInFlightRequests := Nat.le_refl 1
    one_le_maxQueueDepth := Nat.le_refl 1 }

def toolsListCall : RequestEvent := .call {} [("method", .str "tools/list"), ("id", .int 1)]

theorem twoCalls_accounting :
    ∃ s, Run.run (RequestSystem.step .strict) (.fresh narrow "direct" "relay" "session" false false)
        [toolsListCall, toolsListCall, .cancel 0] = some s ∧
      s.runtime.config = narrow ∧
      Accounted s ((RequestSystem.fresh narrow "direct" "relay" "session" false false).admissions
        .strict [toolsListCall, toolsListCall, .cancel 0]) ∧
      (∀ registry message, s.admits .strict (.call registry message) = false →
        s.step .strict (.call registry message) = some { s with runtime := s.runtime.rejected }) ∧
      ∀ e s', s.step .strict e = some s' → e.Ends →
        s'.runtime.stats.activeRequests + 1 = s.runtime.stats.activeRequests ∧
          s'.runtime.stats.queueDepth + 1 = s.runtime.stats.queueDepth ∧
          s'.runtime.stats.completedRequests = s.runtime.stats.completedRequests + 1 :=
  ⟨_, rfl, request_accounting .strict narrow "direct" "relay" "session" false false rfl⟩

end NaiaRelay.Runtime
