import NaiaRelay.Requests

set_option autoImplicit false

/-!
The shutdown of a runtime that serves a client. `stop` waits until no request is in flight,
but the runtime goes on admitting requests until `stop` has come to its end.
-/

namespace NaiaRelay.Runtime

open NaiaRelay.Registry NaiaRelay.Mcp

/-- `stop` has been called and has not set `started` to False yet. -/
def Shutdown.InProgress : Shutdown → Prop
  | .running | .stopped => False
  | _ => True

/-- Once `stop` has been called nothing is admitted, and unless the time for draining is up
nothing is in flight when it has set `started` to False. -/
structure OrderlyShutdown (P : Platform) (s : RequestSystem) (es : List RequestEvent) : Prop where
  closed : ∀ p ∈ Run.trace (RequestSystem.step P) s es,
    p.1.shutdown ≠ .running → p.1.admits P p.2 = false
  drained : .drainTimeout ∉ es → ∀ t ∈ Run.states (RequestSystem.step P) s es,
    t.shutdown = .stopped → t.runtime.stats.activeRequests = 0

/-- The event is no call that arrives during a shutdown and finds room. -/
def Quiet (s : RequestSystem) : RequestEvent → Prop
  | .call _ _ => s.shutdown.InProgress → ¬ s.runtime.HasRoom
  | _ => True

/-- The runtime is started until `stop` has come to its end. -/
def Live (s : RequestSystem) : Prop :=
  s.runtime.started = true ↔ s.shutdown ≠ .stopped

/-- A `stop` that no longer waits for requests has none to wait for. -/
def Settled (s : RequestSystem) : Prop :=
  match s.shutdown with
  | .running | .draining false => True
  | _ => s.runtime.stats.activeRequests = 0

variable {P : Platform} {s s' : RequestSystem} {e : RequestEvent}

/-! ### What each event does to a shutdown -/

lemma live_closeHttp (h : s.runtime.started = true) : Live s.closeHttp := by
  unfold RequestSystem.closeHttp
  split
  · exact iff_of_true h (by simp)
  · exact iff_of_false Bool.false_ne_true (by simp [RequestSystem.setStopped])

lemma live_closeTransports (h : s.runtime.started = true) : Live s.closeTransports := by
  unfold RequestSystem.closeTransports
  split
  · exact iff_of_true h (by simp)
  · exact live_closeHttp h

lemma settled_closeHttp (h : s.runtime.stats.activeRequests = 0) : Settled s.closeHttp := by
  unfold RequestSystem.closeHttp
  split <;> exact h

lemma settled_closeTransports (h : s.runtime.stats.activeRequests = 0) :
    Settled s.closeTransports := by
  unfold RequestSystem.closeTransports
  split
  · exact h
  · exact settled_closeHttp h

lemma Live.admits_call_iff (hl : Live s) (registry : RegistryStore) (message : Obj) :
    s.admits P (.call registry message) = true ↔ s.shutdown ≠ .stopped ∧ s.runtime.HasRoom :=
  (Runtime.admits_call_iff s registry message).trans (and_congr_left fun _ => hl)

lemma Live.step (hl : Live s) (h : s.step P e = some s') : Live s' := by
  have hrunning : s.shutdown ≠ .stopped → s.runtime.started = true := hl.mpr
  cases e with
  | call registry message =>
    rw [step_call] at h
    obtain rfl := Option.some.inj h
    split
    · exact hl
    · unfold BaseRelayRuntime.rejected
      split <;> exact hl
  | finish i outcome | cancel i =>
    obtain ⟨j, rt, -, hf, rfl⟩ := step_ends h trivial
    have hstopped : (s.ended j rt).shutdown = .stopped ↔ s.shutdown = .stopped := by
      simp only [RequestSystem.ended]
      split <;> simp_all
    have hstarted : (s.ended j rt).runtime.started = s.runtime.started := hf.started
    rw [Live, hstarted]
    exact hl.trans (not_congr hstopped.symm)
  | _ =>
    rcases step_cases h (by rintro _ _ ⟨⟩) id with
      ⟨-, hsh, hstarted⟩ | ⟨hsh, rfl⟩ | ⟨rfl, hsh⟩ | ⟨hsh, rfl⟩ | ⟨-, rfl⟩
    · rw [Live, hstarted, hsh]
      exact hl
    · exact iff_of_true (hrunning (by simp [hsh])) (by simp)
    · refine live_closeTransports (hrunning ?_)
      rcases hsh with ⟨hsh, -⟩ | hsh | ⟨woken, hsh, -⟩ <;> simp [hsh]
    · exact live_closeHttp (hrunning (by simp [hsh]))
    · exact iff_of_false Bool.false_ne_true (by simp [RequestSystem.setStopped])

lemma Settled.step (hs : Settled s) (hl : Live s) (hq : Quiet s e) (ht : e ≠ .drainTimeout)
    (h : s.step P e = some s') : Settled s' := by
  cases e with
  | call registry message =>
    rw [step_call] at h
    obtain rfl := Option.some.inj h
    by_cases had : s.admits P (.call registry message) = true
    · -- an admitted call has met a runtime that nobody is shutting down
      obtain ⟨hne, hroom⟩ := (hl.admits_call_iff registry message).mp had
      have hsh : s.shutdown = .running := by
        by_contra hno
        refine hq ?_ hroom
        cases hsh : s.shutdown <;> simp_all [Shutdown.InProgress]
      rw [if_pos had]
      simp only [Settled, hsh]
    · rw [if_neg had]
      unfold BaseRelayRuntime.rejected
      split <;> exact hs
  -- a call that ends is one less; where none was in flight there is none to end
  | finish i outcome | cancel i =>
    obtain ⟨j, rt, -, hf, rfl⟩ := step_ends h trivial
    have hact := hf.active
    simp only [Settled, RequestSystem.ended] at hs ⊢
    cases hsh : s.shutdown with
    | running => trivial
    | draining woken =>
      rw [hsh] at hs
      cases woken with
      | true =>
        show rt.stats.activeRequests = 0
        have : s.runtime.stats.activeRequests = 0 := hs
        omega
      | false =>
        by_cases hz : rt.stats.activeRequests = 0
        · simp [hz]
        · simp [beq_eq_false_iff_ne.mpr hz]
    | closingTep | closingHttp | stopped =>
      rw [hsh] at hs
      show rt.stats.activeRequests = 0
      have : s.runtime.stats.activeRequests = 0 := hs
      omega
  | _ =>
    -- `stop` goes on from one await to the next, by itself or because it has been woken
    rcases step_cases h (by rintro _ _ ⟨⟩) id with
      ⟨hsame, hsh, -⟩ | ⟨-, rfl⟩ | ⟨rfl, ⟨-, hz⟩ | hsh | ⟨woken, -, hup⟩⟩ | ⟨hsh, rfl⟩ | ⟨hsh, rfl⟩
    · rw [Settled, hsh, hsame.active]
      exact hs
    · trivial
    · exact settled_closeTransports hz
    · simp only [Settled, hsh] at hs
      exact settled_closeTransports hs
    · exact absurd hup ht
    · simp only [Settled, hsh] at hs
      exact settled_closeHttp hs
    · simp only [Settled, hsh] at hs
      exact hs

/-! ### Runs -/

/-- **When a shutdown is orderly.** In a run of a runtime that was created and started, nothing
is admitted after `stop` has been called, and nothing is in flight at its end unless its time
was up, exactly when no call arrives during the shutdown and finds room. -/
theorem orderlyShutdown_iff (P : Platform) (config : RelayConfig)
    (role relayId sessionId : String) (tepServer mcpHttpRunner : Bool) {es : List RequestEvent}
    {s : RequestSystem}
    (hrun : Run.run (RequestSystem.step P)
      (.fresh config role relayId sessionId tepServer mcpHttpRunner) es = some s) :
    OrderlyShutdown P (.fresh config role relayId sessionId tepServer mcpHttpRunner) es ↔
      ∀ p ∈ Run.trace (RequestSystem.step P)
        (.fresh config role relayId sessionId tepServer mcpHttpRunner) es, Quiet p.1 p.2 := by
  generalize hfresh : RequestSystem.fresh config role relayId sessionId tepServer mcpHttpRunner
    = t at hrun ⊢
  have hlive : Live t := hfresh ▸ iff_of_true rfl (by simp [RequestSystem.fresh])
  have hsettled : Settled t := hfresh ▸ trivial
  have hall : ∀ p ∈ Run.trace (RequestSystem.step P) t es, Live p.1 := by
    rintro ⟨u, e⟩ hp
    obtain ⟨es₁, es₂, v, -, hu, -⟩ := Run.mem_trace hrun hp
    exact Run.run_invariant (I := Live) (fun _ _ _ hl h => hl.step h) hlive hu
  constructor
  -- a call that is let in while the runtime shuts down is not quiet
  · rintro ⟨hclosed, -⟩ ⟨u, e⟩ hp
    cases e with
    | call registry message =>
      intro hprogress hroom
      have hne : u.shutdown ≠ .running ∧ u.shutdown ≠ .stopped := by
        constructor <;> intro hsh <;> rw [hsh] at hprogress <;> exact hprogress
      have had := hclosed _ hp hne.1
      rw [((hall _ hp).admits_call_iff registry message).mpr ⟨hne.2, hroom⟩] at had
      exact absurd had (by simp)
    | _ => trivial
  -- and if none is, nothing is in flight from the end of the drain on
  · intro hquiet
    refine ⟨?_, ?_⟩
    · rintro ⟨u, e⟩ hp hne
      cases e with
      | call registry message =>
        rw [← Bool.not_eq_true, (hall _ hp).admits_call_iff]
        rintro ⟨hne', hroom⟩
        refine hquiet _ hp ?_ hroom
        cases hsh : u.shutdown <;> simp_all [Shutdown.InProgress]
      | _ => rfl
    · intro htime u hu hstopped
      have hstates := Run.states_invariant_of
        (I := fun s => Live s ∧ Settled s) (Q := fun s e => Quiet s e ∧ e ≠ .drainTimeout)
        (fun s e s' hi hq h => ⟨hi.1.step h, hi.2.step hi.1 hq.1 hq.2 h⟩) ⟨hlive, hsettled⟩
        (fun p hp => ⟨hquiet p hp, fun heq => ?_⟩) u hu
      · have hsettled' := hstates.2
        simp only [Settled, hstopped] at hsettled'
        exact hsettled'
      · obtain ⟨es₁, es₂, v, rfl, -, -⟩ := Run.mem_trace hrun hp
        exact htime (by simp [← heq])

/-! A call arrives after the last one before it has ended and before `stop` goes on. -/

def lateCall : List RequestEvent :=
  [toolsListCall, .stop, .finish 0 .timesOut, toolsListCall, .wake]

theorem lateCall_admitted :
    (∃ s, Run.run (RequestSystem.step .strict) (.fresh {} "direct" "relay" "session" false false)
        lateCall = some s ∧ s.runtime.started = false ∧ s.runtime.stats.activeRequests = 1) ∧
      ¬ OrderlyShutdown .strict (.fresh {} "direct" "relay" "session" false false) lateCall := by
  refine ⟨⟨_, rfl, rfl, rfl⟩, fun h => ?_⟩
  have hzero := h.drained (by simp [lateCall, toolsListCall]) _ (Run.last_mem_states rfl) rfl
  exact absurd hzero (by decide)

theorem oneCall_orderlyShutdown :
    OrderlyShutdown .strict (.fresh {} "direct" "relay" "session" false false)
        [toolsListCall, .stop, .finish 0 .timesOut, .wake] ↔
      ∀ p ∈ Run.trace (RequestSystem.step .strict)
        (.fresh {} "direct" "relay" "session" false false)
        [toolsListCall, .stop, .finish 0 .timesOut, .wake], Quiet p.1 p.2 :=
  orderlyShutdown_iff .strict {} "direct" "relay" "session" false false rfl

end NaiaRelay.Runtime
