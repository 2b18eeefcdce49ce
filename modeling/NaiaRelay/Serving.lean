import NaiaRelay.BindRetry
import NaiaRelay.Requests

set_option autoImplicit false

/-!
The runtimes as request systems: every event of a client runtime, and every message a direct
runtime handles, is a run of calls, ends of calls and counts.
-/

namespace NaiaRelay.Runtime

open NaiaRelay.Registry NaiaRelay.Rlp NaiaRelay.Mcp

variable {P : Platform}

/-- The runtimes differ only in counts that have nothing to do with requests in flight. -/
structure OnlyRecords (rt rt' : BaseRelayRuntime) : Prop where
  rest : rt' = { rt with stats := rt'.stats }
  active : rt'.stats.activeRequests = rt.stats.activeRequests
  depth : rt'.stats.queueDepth = rt.stats.queueDepth
  completed : rt'.stats.completedRequests = rt.stats.completedRequests
  slow : rt'.stats.slowConsumerRejections = rt.stats.slowConsumerRejections

lemma OnlyRecords.refl (rt : BaseRelayRuntime) : OnlyRecords rt rt := ⟨rfl, rfl, rfl, rfl, rfl⟩

lemma OnlyRecords.trans {rt₁ rt₂ rt₃ : BaseRelayRuntime} (h : OnlyRecords rt₁ rt₂)
    (h' : OnlyRecords rt₂ rt₃) : OnlyRecords rt₁ rt₃ where
  rest := by
    rw [h'.rest, h.rest]
  active := h'.active.trans h.active
  depth := h'.depth.trans h.depth
  completed := h'.completed.trans h.completed
  slow := h'.slow.trans h.slow

lemma onlyRecords_withTimeout {Q A R : Type} (rt : BaseRelayRuntime) (timeout : ℕ)
    (label : String) (call : Coroutine Q (Except Exc A) (Except Exc R)) (outcome : Outcome A) :
    OnlyRecords rt (rt.withTimeout timeout label call outcome).2 := by
  unfold BaseRelayRuntime.withTimeout
  split <;> exact ⟨rfl, rfl, rfl, rfl, rfl⟩

lemma onlyRecords_countFailure {R : Type} (rt : BaseRelayRuntime) (r : Except Exc R) :
    OnlyRecords rt (rt.countFailure r) := by
  cases r <;> exact ⟨rfl, rfl, rfl, rfl, rfl⟩

lemma run_record (t : RequestSystem) {rt : BaseRelayRuntime} (h : OnlyRecords t.runtime rt) :
    Run.run (RequestSystem.step P) t [.record rt.stats] = some { t with runtime := rt } := by
  obtain ⟨hrest, ha, hd, hc, hs⟩ := h
  have hstats : { rt.stats with
      activeRequests := t.runtime.stats.activeRequests
      queueDepth := t.runtime.stats.queueDepth
      completedRequests := t.runtime.stats.completedRequests
      slowConsumerRejections := t.runtime.stats.slowConsumerRejections } = rt.stats := by
    rw [← ha, ← hd, ← hc, ← hs]
  simp only [Run.run, RequestSystem.step, Option.bind_some, hstats]
  rw [← hrest]

/-- The outcome of a callback that ends at once. -/
def outcomeOf : Except Exc Json → Outcome Json
  | .ok value => .returns value
  | .error exc => .raises exc

lemma withRequestTimeout_outcomeOf {Q : Type} (rt : BaseRelayRuntime) (q : Q)
    (resume : Except Exc Json → Except Exc (Option Obj)) (answer : Except Exc Json) :
    rt.withRequestTimeout (.await q resume) (outcomeOf answer) = (resume answer, rt) := by
  cases answer <;> rfl

lemma run_finish_last (t : RequestSystem) (call : Mcp.Call) (outcome : Outcome Json) :
    let x := t.runtime.withRequestTimeout call outcome
    ∃ shutdown, Run.run (RequestSystem.step P) { t with calls := t.calls ++ [call] }
      [.finish t.calls.length outcome] = some { t with runtime := x.2.closeMcp x.1, shutdown } := by
  intro x
  refine ⟨(t.ended t.calls.length (x.2.closeMcp x.1)).shutdown, ?_⟩
  have hcalls : (t.calls ++ [call]).eraseIdx t.calls.length = t.calls := by
    rw [List.eraseIdx_append_of_length_le (Nat.le_refl _), Nat.sub_self]
    exact List.append_nil _
  simp only [Run.run, RequestSystem.step, List.getElem?_concat_length, Option.map_some,
    Option.bind_some, RequestSystem.ended, hcalls, x]

lemma run_call {t : RequestSystem} (registry : RegistryStore) (message : Obj)
    (hs : t.runtime.started = true) (hr : t.runtime.HasRoom) :
    Run.run (RequestSystem.step P) t [.call registry message] = some { t with
      runtime := t.runtime.countRequest
      mcp := (t.mcp.handleMessage P registry message).2
      calls := t.calls ++ [(t.mcp.handleMessage P registry message).1] } := by
  rw [Run.run, step_call, if_pos ((admits_call_iff t registry message).mpr ⟨hs, hr⟩)]
  rfl

lemma run_call_rejected {t : RequestSystem} (registry : RegistryStore) (message : Obj)
    (hno : ¬ (t.runtime.started = true ∧ t.runtime.HasRoom)) :
    Run.run (RequestSystem.step P) t [.call registry message]
      = some { t with runtime := t.runtime.rejected } := by
  rw [Run.run, step_call, if_neg (mt (admits_call_iff t registry message).mp hno)]
  rfl

/-! ### The direct runtime -/

/-- The system serves the runtime's calls. -/
structure Serves (t : RequestSystem) (base : BaseRelayRuntime) (mcp : MCPRecords) : Prop where
  runtime : t.runtime = base
  mcp : t.mcp = mcp

theorem direct_serves {t : RequestSystem} {d : DirectRelayRuntime} (ht : Serves t d.base d.mcp)
    (message : Obj) :
    ∃ es t', Run.run (RequestSystem.step P) t es = some t' ∧ t'.calls = t.calls ∧
      Serves t' (d.handleMcpMessage P message).2.base (d.handleMcpMessage P message).2.mcp := by
  obtain ⟨hrt, hmcp⟩ := ht
  unfold DirectRelayRuntime.handleMcpMessage
  rcases openMcp_cases (P := P) d.base d.mcp d.registry message with ⟨hs, hr, hx⟩ | ⟨hno, e, hx⟩
  · rw [← hrt] at hs hr
    rw [hx, ← hrt, ← hmcp]
    have hcall := run_call (P := P) d.registry message hs hr
    generalize t.mcp.handleMessage P d.registry message = x at hcall
    obtain ⟨call, mcp⟩ := x
    dsimp only
    cases call with
    | done response =>
      obtain ⟨shutdown, hfin⟩ := run_finish_last (P := P)
        { t with runtime := t.runtime.countRequest, mcp } (.done response) .timesOut
      exact ⟨_, _, Run.run_append_eq_some.mpr ⟨_, hcall, hfin⟩, rfl, rfl, rfl⟩
    | await q resume =>
      obtain ⟨shutdown, hfin⟩ := run_finish_last (P := P)
        { t with runtime := t.runtime.countRequest, mcp } (.await q resume)
        (outcomeOf (d.callback P q))
      rw [withRequestTimeout_outcomeOf] at hfin
      exact ⟨_, _, Run.run_append_eq_some.mpr ⟨_, hcall, hfin⟩, rfl, rfl, rfl⟩
  · rw [← hrt] at hno
    rw [hx, ← hrt, ← hmcp]
    exact ⟨_, _, run_call_rejected (P := P) d.registry message hno,
      rfl, rfl, rfl⟩

/-! ### The client runtime -/

/-- A call that waits upstream, and the same call as one that waits for its callback. -/
def Suspends (call : ClientRelayRuntime.UpstreamCall) (call' : Mcp.Call) : Prop :=
  ∃ request resume' q resume, call = .await request (resume ∘ resume') ∧ call' = .await q resume

/-- The system serves the client's calls, those in flight included. -/
structure ServesClient (s : ClientSystem) (t : RequestSystem) : Prop
    extends Serves t s.runtime.base s.runtime.mcp where
  calls : List.Forall₂ Suspends s.calls t.calls

lemma records_handleRlpMessage (c : ClientRelayRuntime) (ids : NewIds) (message : Obj) :
    OnlyRecords c.base (c.handleRlpMessage P ids message).2.base ∧
      (c.handleRlpMessage P ids message).2.mcp = c.mcp := by
  unfold ClientRelayRuntime.handleRlpMessage
  split
  · exact ⟨.refl _, rfl⟩
  · exact ⟨(onlyRecords_withTimeout _ _ _ _ _).trans (onlyRecords_countFailure _ _), rfl⟩

lemma records_bindReply (c : ClientRelayRuntime) (ids : NewIds) (b : Binding)
    (outcome : Outcome Obj) :
    OnlyRecords c.base (c.bindReply P ids b outcome).2.base ∧
      (c.bindReply P ids b outcome).2.mcp = c.mcp := by
  cases outcome with
  | raises exc => exact ⟨.refl _, rfl⟩
  | timesOut => exact ⟨⟨rfl, rfl, rfl, rfl, rfl⟩, rfl⟩
  | returns response =>
    rcases bindReply_returns (P := P) (b := b) c ids response with
      ⟨-, e, hx⟩ | ⟨payload, status, -, -, hx⟩ | ⟨payload, -, hx⟩
    · rw [hx]
      exact ⟨.refl _, rfl⟩
    · rw [hx]
      exact ⟨.refl _, rfl⟩
    · rw [hx]
      cases item payload "details" with
      | error e => exact ⟨.refl _, rfl⟩
      | ok details => exact records_handleRlpMessage c ids _

lemma records_callback (c : ClientRelayRuntime) (ids : ClientRelayRuntime.RequestIds)
    (q : Callback) :
    OnlyRecords c.base (c.callback P ids q).2.base ∧ (c.callback P ids q).2.mcp = c.mcp := by
  unfold ClientRelayRuntime.callback
  split
  · exact ⟨⟨rfl, rfl, rfl, rfl, rfl⟩, rfl⟩
  · split
    · exact ⟨.refl _, rfl⟩
    · split <;> exact ⟨.refl _, rfl⟩

lemma records_step {s s' : ClientSystem} {e : ClientEvent} (h : s.step P e = some s')
    (hm : ∀ ids message, e ≠ .mcp ids message) (hr : ∀ i outcome, e ≠ .mcpReply i outcome) :
    OnlyRecords s.runtime.base s'.runtime.base ∧ s'.runtime.mcp = s.runtime.mcp ∧
      s'.calls = s.calls := by
  cases e with
  | mcp ids message => exact absurd rfl (hm ids message)
  | mcpReply i outcome => exact absurd rfl (hr i outcome)
  | bind b | disconnect =>
    obtain rfl := Option.some.inj h
    exact ⟨⟨rfl, rfl, rfl, rfl, rfl⟩, rfl, rfl⟩
  | markStale =>
    obtain rfl := Option.some.inj h
    exact ⟨.refl _, rfl, rfl⟩
  | rlp ids message =>
    obtain rfl := Option.some.inj h
    obtain ⟨hrec, hmcp⟩ := records_handleRlpMessage (P := P) s.runtime ids message
    exact ⟨hrec, hmcp, rfl⟩
  | bindReply i ids outcome =>
    simp only [ClientSystem.step] at h
    split at h
    · cases h
    · rename_i b n hi
      obtain ⟨hrec, hmcp⟩ := records_bindReply (P := P) s.runtime ids b outcome
      generalize s.runtime.bindReply P ids b outcome = x at h hrec hmcp
      obtain ⟨attempt, c⟩ := x
      cases attempt with
      | ended result =>
        obtain rfl := Option.some.inj h
        exact ⟨hrec, hmcp, rfl⟩
      | failed exc =>
        cases n with
        | zero =>
          obtain rfl := Option.some.inj h
          exact ⟨hrec, hmcp, rfl⟩
        | succ n =>
          obtain rfl := Option.some.inj h
          exact ⟨hrec.trans ⟨rfl, rfl, rfl, rfl, rfl⟩, hmcp, rfl⟩

lemma mcp_serves {s s' : ClientSystem} {t : RequestSystem} (ht : ServesClient s t)
    {ids : ClientRelayRuntime.RequestIds} {message : Obj}
    (h : s.step P (.mcp ids message) = some s') :
    ∃ es t', Run.run (RequestSystem.step P) t es = some t' ∧ ServesClient s' t' := by
  obtain ⟨⟨hrt, hmcp⟩, hcalls⟩ := ht
  simp only [ClientSystem.step, ClientRelayRuntime.openMcp] at h
  rcases openMcp_cases (P := P) s.runtime.base s.runtime.mcp s.runtime.registry message with
    ⟨hs, hr, hx⟩ | ⟨hno, e, hx⟩
  -- a call that is admitted ends at once, or when its callback has gone upstream
  · rw [← hrt] at hs hr
    rw [hx, ← hrt, ← hmcp] at h
    have hcall := run_call (P := P) s.runtime.registry message hs hr
    generalize t.mcp.handleMessage P s.runtime.registry message = x at hcall h
    obtain ⟨call, mcp⟩ := x
    dsimp only at h
    cases call with
    | done response =>
      obtain ⟨shutdown, hfin⟩ := run_finish_last (P := P)
        { t with runtime := t.runtime.countRequest, mcp } (.done response) .timesOut
      obtain rfl := Option.some.inj h
      exact ⟨_, _, Run.run_append_eq_some.mpr ⟨_, hcall, hfin⟩, ⟨rfl, rfl⟩, hcalls⟩
    | await q resume =>
      dsimp only at h
      obtain ⟨hrec, hmcp'⟩ := records_callback (P := P)
        { s.runtime with base := t.runtime.countRequest, mcp } ids q
      generalize ClientRelayRuntime.callback P
        { s.runtime with base := t.runtime.countRequest, mcp } ids q = y at hrec hmcp' h
      obtain ⟨wait, c⟩ := y
      -- the callback counts what it counts before the call ends or goes on waiting
      have hrecord := run_record (P := P) { t with
        runtime := t.runtime.countRequest, mcp, calls := t.calls ++ [.await q resume] } hrec
      cases wait with
      | done answer =>
        obtain ⟨shutdown, hfin⟩ := run_finish_last (P := P) { t with runtime := c.base, mcp }
          (.await q resume) (outcomeOf answer)
        rw [withRequestTimeout_outcomeOf] at hfin
        obtain rfl := Option.some.inj h
        exact ⟨_, _, Run.run_append_eq_some.mpr ⟨_, hcall,
          Run.run_append_eq_some.mpr ⟨_, hrecord, hfin⟩⟩, ⟨rfl, hmcp'.symm⟩, hcalls⟩
      | await request resume' =>
        obtain rfl := Option.some.inj h
        refine ⟨_, _, Run.run_append_eq_some.mpr ⟨_, hcall, hrecord⟩, ⟨rfl, hmcp'.symm⟩, ?_⟩
        exact List.rel_append hcalls (.cons ⟨_, _, _, _, rfl, rfl⟩ .nil)
  -- and one that is not is rejected by the system too
  · rw [← hrt] at hno
    rw [hx, ← hrt] at h
    obtain rfl := Option.some.inj h
    exact ⟨_, _, run_call_rejected (P := P) s.runtime.registry message hno, ⟨rfl, hmcp⟩,
      hcalls⟩

lemma mcpReply_serves {s s' : ClientSystem} {t : RequestSystem} (ht : ServesClient s t) {i : ℕ}
    {outcome : Outcome Obj} (h : s.step P (.mcpReply i outcome) = some s') :
    ∃ es t', Run.run (RequestSystem.step P) t es = some t' ∧ ServesClient s' t' := by
  obtain ⟨⟨hrt, hmcp⟩, hcalls⟩ := ht
  simp only [ClientSystem.step] at h
  split at h
  · cases h
  · rename_i call hi
    obtain rfl := Option.some.inj h
    obtain ⟨hlt, rfl⟩ := List.getElem?_eq_some_iff.mp hi
    have hlt' : i < t.calls.length := hcalls.length_eq ▸ hlt
    obtain ⟨request, resume', q, resume, hc, hc'⟩ := hcalls.get hlt hlt'
    have hi' : t.calls[i]? = some (.await q resume) := by
      rw [List.getElem?_eq_getElem hlt']
      exact congrArg some hc'
    have hwait : ∃ outcome', t.runtime.withRequestTimeout (.await q resume) outcome'
        = s.runtime.base.withRequestTimeout s.calls[i] outcome := by
      have hc'' : s.calls[i] = .await request (resume ∘ resume') := hc
      rw [hc'', hrt]
      cases outcome with
      | returns response => exact ⟨outcomeOf (resume' (.ok response)),
          withRequestTimeout_outcomeOf _ _ _ _⟩
      | raises exc => exact ⟨outcomeOf (resume' (.error exc)),
          withRequestTimeout_outcomeOf _ _ _ _⟩
      | timesOut => exact ⟨.timesOut, rfl⟩
    obtain ⟨outcome', hw⟩ := hwait
    have hrun : Run.run (RequestSystem.step P) t [.finish i outcome'] = some (t.ended i
        (s.runtime.closeMcp s.calls[i] outcome).2.base) := by
      simp only [Run.run, RequestSystem.step, hi', Option.map_some, Option.bind_some, hw]
      rfl
    refine ⟨_, _, hrun, ⟨rfl, hmcp⟩, ?_⟩
    simp only [RequestSystem.ended, List.eraseIdx_eq_take_drop_succ]
    exact List.rel_append (List.forall₂_take i hcalls) (List.forall₂_drop (i + 1) hcalls)

/-- **A client serves its requests**: a run of it is one of calls, their ends and counts. -/
theorem client_serves {s s' : ClientSystem} {t : RequestSystem} {es : List ClientEvent}
    (ht : ServesClient s t) (hrun : Run.run (ClientSystem.step P) s es = some s') :
    ∃ es' t', Run.run (RequestSystem.step P) t es' = some t' ∧ ServesClient s' t' := by
  refine Run.run_simulates (R := ServesClient) (fun s e s' t ht h => ?_) ht hrun
  have hquiet : (∀ ids message, e ≠ .mcp ids message) → (∀ i outcome, e ≠ .mcpReply i outcome) →
      ∃ es t', Run.run (RequestSystem.step P) t es = some t' ∧ ServesClient s' t' := by
    intro hm hr
    obtain ⟨hrec, hmcp, hcalls⟩ := records_step h hm hr
    obtain ⟨⟨hrt, hmcp'⟩, hcalls'⟩ := ht
    rw [← hrt] at hrec
    exact ⟨_, _, run_record t hrec, ⟨rfl, hmcp'.trans hmcp.symm⟩, hcalls ▸ hcalls'⟩
  cases e with
  | mcp ids message => exact mcp_serves ht h
  | mcpReply i outcome => exact mcpReply_serves ht h
  | _ => exact hquiet (fun _ _ => nofun) (fun _ _ => nofun)

theorem client_accounted {relayId sessionId : String} {config : RelayConfig}
    {es : List ClientEvent} {s : ClientSystem}
    (hrun : Run.run (ClientSystem.step P)
      { runtime := (ClientRelayRuntime.create relayId sessionId config).start } es = some s) :
    s.runtime.base.stats.activeRequests = s.calls.length ∧
      s.runtime.base.stats.queueDepth = s.calls.length ∧
      s.calls.length ≤ min config.maxInFlightRequests config.maxQueueDepth := by
  have hfresh : ServesClient
      { runtime := (ClientRelayRuntime.create relayId sessionId config).start }
      (.fresh config "client" relayId sessionId false false) := ⟨⟨rfl, rfl⟩, .nil⟩
  obtain ⟨es', t, ht, ⟨hrt, -⟩, hcalls⟩ := client_serves hfresh hrun
  obtain ⟨ha, hc⟩ := (accounted_fresh config "client" relayId sessionId false false).run ht
  have hactive := ha.active
  have hdepth := ha.depth
  have hwithin := ha.within
  rw [hc] at hwithin
  rw [hrt] at hactive hdepth
  rw [← hcalls.length_eq] at hactive hdepth hwithin
  exact ⟨hactive, hdepth, hwithin⟩

end NaiaRelay.Runtime
