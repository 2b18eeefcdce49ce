import NaiaRelay.HostLink
import NaiaRelay.Mirror

set_option autoImplicit false

/-!
Who writes to a host's registry. Its executor does; but its relay-link handler is the one a
client keeps a mirror with, and takes snapshots and incremental messages from anyone.
-/

namespace NaiaRelay.Rlp

open NaiaRelay.Registry

/-- A payload that leaves this registry exactly as it is: a snapshot that says what is there
already, an incremental message that only marks stale what is stale, a removal that finds
nothing to remove in a fresh registry, or anything else. -/
def Keeps (registry : RegistryStore) : Payload → Prop
  | .snapshot p =>
    registry.stale = false ∧ registry.revision = p.registryRevision ∧
      ∀ k, registry.table k = .ofList (p.definitions k)
  | .mutation _ p => p.registryRevision ≠ registry.revision + 1 ∧ registry.stale = true
  | .removed k p =>
    if p.registryRevision = registry.revision + 1 then
      registry.stale = false ∧ p.name ∉ (registry.table k).dict
    else registry.stale = true
  | _ => True

variable {P : Platform} {h : RLPHandler} {ids : NewIds}

lemma replaceRegistryFromSnapshot_eq_iff {registry : RegistryStore} {p : SnapshotPayload} :
    replaceRegistryFromSnapshot registry p = registry ↔ Keeps registry (.snapshot p) := by
  constructor
  · intro h
    refine ⟨by rw [← h]; rfl, by rw [← h]; rfl, fun k => ?_⟩
    rw [← table_replaceRegistryFromSnapshot registry p k, h]
  · rintro ⟨hs, hr, ht⟩
    have htable : ∀ k, (replaceRegistryFromSnapshot registry p).table k = registry.table k :=
      fun k => (table_replaceRegistryFromSnapshot registry p k).trans (ht k).symm
    exact RegistryStore.ext_store
      (Tables.ext (htable .tool) (htable .resource) (htable .prompt)) hr.symm hs.symm

lemma markStale_eq_iff {registry : RegistryStore} :
    registry.markStale = registry ↔ registry.stale = true := by
  constructor
  · intro h
    rw [← h]
    rfl
  · intro h
    exact RegistryStore.ext_store rfl rfl h.symm

lemma markFresh_eq_iff {registry : RegistryStore} :
    registry.markFresh = registry ↔ registry.stale = false := by
  constructor
  · intro h
    rw [← h]
    rfl
  · intro h
    exact RegistryStore.ext_store rfl rfl h.symm

lemma revision_upsert (k : Kind) (s : RegistryStore) (entry : EntryPayload k) :
    ∃ s', upsert k s entry = .ok s' ∧ s.revision < s'.revision := by
  by_cases hk : k.key (EntryPayload.definition k entry none) ∈ (s.table k).dict
  · exact ⟨_, upsert_present hk, by show s.revision < s.revision + 2; omega⟩
  · exact ⟨_, upsert_absent hk, by show s.revision < s.revision + 1; omega⟩

lemma registry_applyIncremental (envelope : RLPEnvelope) (revision : ℤ)
    (change : RegistryStore → Except Exc RegistryStore) :
    (h.applyIncremental ids envelope revision change).2.registry =
      if revision = h.registry.revision + 1 then
        (change h.registry.markFresh).toOption.getD h.registry.markFresh
      else h.registry.markStale := by
  by_cases hr : revision = h.registry.revision + 1
  · have hv : h.validateIncrementalRevision ids revision = (none, h.registry.markFresh) := by
      rw [RLPHandler.validateIncrementalRevision, if_pos hr]
    rw [if_pos hr]
    simp only [RLPHandler.applyIncremental, hv]
    cases change h.registry.markFresh <;> rfl
  · rw [if_neg hr, (applyIncremental_gap hr).2]

lemma registry_dispatch_eq_iff (envelope : RLPEnvelope) (payload : Payload) :
    (h.dispatch P ids envelope payload).2.registry = h.registry ↔ Keeps h.registry payload := by
  cases payload with
  | snapshot p => exact replaceRegistryFromSnapshot_eq_iff
  | mutation k p =>
    simp only [RLPHandler.dispatch, registry_applyIncremental, Keeps]
    by_cases hr : p.registryRevision = h.registry.revision + 1
    · obtain ⟨s', hs', hlt⟩ := revision_upsert k h.registry.markFresh p.entry
      rw [if_pos hr, hs']
      refine iff_of_false (fun heq => ?_) fun hk => hk.1 hr
      have hrev : s'.revision = h.registry.revision := congrArg (·.revision) heq
      have hfresh : h.registry.markFresh.revision = h.registry.revision := rfl
      omega
    · rw [if_neg hr, markStale_eq_iff]
      exact ⟨fun hs => ⟨hr, hs⟩, fun hk => hk.2⟩
  | removed k p =>
    simp only [RLPHandler.dispatch, registry_applyIncremental, Keeps]
    by_cases hr : p.registryRevision = h.registry.revision + 1
    · rw [if_pos hr, if_pos hr]
      cases hd : RegistryStore.deregister k h.registry.markFresh p.name with
      | ok s' =>
        obtain ⟨hmem, rfl⟩ := RegistryStore.deregister_eq_ok.mp hd
        refine iff_of_false (fun heq => ?_) fun hk => hk.2 hmem
        have hrev : h.registry.revision + 1 = h.registry.revision := congrArg (·.revision) heq
        omega
      | error e =>
        obtain ⟨hmem, -⟩ := RegistryStore.deregister_eq_error.mp hd
        exact markFresh_eq_iff.trans ⟨fun hs => ⟨hs, hmem⟩, fun hk => hk.1⟩
    · rw [if_neg hr, if_neg hr]
      exact markStale_eq_iff
  | bindSession p =>
    refine iff_of_true ?_ trivial
    simp only [RLPHandler.dispatch, RLPHandler.bindSession]
    split
    · rfl
    · split <;> rfl
  | _ => exact iff_of_true rfl trivial

lemma registry_handleMessage_eq_iff (message : Obj) :
    (h.handleMessage P ids message).2.registry = h.registry ↔
      ∀ envelope payload, parse P message = some (envelope, payload) → Keeps h.registry payload := by
  cases hp : parse P message with
  | none =>
    obtain ⟨answer, hx⟩ := handleMessage_of_parse_none (h := h) ids hp
    rw [hx]
    exact iff_of_true rfl fun _ _ h => nomatch h
  | some x =>
    obtain ⟨envelope, payload⟩ := x
    rw [handleMessage_of_parse hp, registry_dispatch_eq_iff]
    constructor
    · rintro hk _ _ h
      obtain ⟨-, rfl⟩ := Prod.mk.inj (Option.some.inj h)
      exact hk
    · exact fun hall => hall envelope payload rfl

end NaiaRelay.Rlp

namespace NaiaRelay.Runtime

open NaiaRelay.Registry NaiaRelay.Rlp

/-- A message of the executor. -/
def HostEvent.isExecutor : HostEvent → Bool
  | .executor _ _ => true
  | _ => false

/-- The event is no relay-link message that would change the registry. -/
def KeepsRegistry (P : Platform) (h : HostRelayRuntime) : HostEvent → Prop
  | .rlp _ _ message => h.base.started = true → ∀ envelope payload,
      Rlp.parse P message = some (envelope, payload) → Keeps h.registry payload
  | _ => True

/-- Whatever happens between two messages of the executor, the registry is the same before and
after. -/
def OnlyExecutorWrites (P : Platform) (s : HostRelayRuntime) (es : List HostEvent) : Prop :=
  ∀ es₁ es₂ es₃ t u, es = es₁ ++ es₂ ++ es₃ → Run.run (HostRelayRuntime.step P) s es₁ = some t →
    (∀ e ∈ es₂, e.isExecutor = false) → Run.run (HostRelayRuntime.step P) t es₂ = some u →
    u.registry = t.registry

variable {P : Platform} {h h' : HostRelayRuntime} {e : HostEvent}

@[simp] lemma registry_conclude (h : HostRelayRuntime) (answer : Except Exc Obj) :
    (h.conclude answer).registry = h.registry := by
  cases answer <;> rfl

@[simp] lemma registry_afterAwait (h : HostRelayRuntime) (i : ℕ) (l : ExecutorLink) :
    (h.afterAwait i l).registry = h.registry := by
  unfold HostRelayRuntime.afterAwait
  dsimp only
  split
  · exact registry_conclude _ _
  · rfl

lemma registry_handleRlpMessage (hs : h.base.started = true) (ids : NewIds)
    (operationIds : OperationIds) (message : Obj) :
    (h.handleRlpMessage P ids operationIds message).2.registry =
      (RLPHandler.handleMessage P ids ⟨h.registry, h.rlp⟩ message).2.registry := by
  unfold HostRelayRuntime.handleRlpMessage
  rw [BaseRelayRuntime.ensureStarted, if_pos hs]
  dsimp only
  split
  · exact registry_conclude _ _
  · split
    · exact registry_conclude _ _
    · rfl

lemma registry_step_iff (hstep : h.step P e = some h') (he : e.isExecutor = false) :
    h'.registry = h.registry ↔ KeepsRegistry P h e := by
  cases e with
  | executor newMessageId message => cases he
  | rlp ids operationIds message =>
    simp only [HostRelayRuntime.step] at hstep
    split at hstep
    · obtain rfl := Option.some.inj hstep
      by_cases hs : h.base.started = true
      · rw [registry_handleRlpMessage hs]
        exact registry_handleMessage_eq_iff (h := ⟨h.registry, h.rlp⟩) message |>.trans
          ⟨fun hall _ => hall, fun hall => hall hs⟩
      · refine iff_of_true ?_ fun hs' => absurd hs' hs
        unfold HostRelayRuntime.handleRlpMessage
        rw [BaseRelayRuntime.ensureStarted, if_neg hs]
    · cases hstep
  | acquire i | sent i outcome | resume i | expire i outer =>
    refine iff_of_true ?_ trivial
    obtain ⟨l, -, rfl⟩ := Option.map_eq_some_iff.mp hstep
    exact registry_afterAwait _ _ _
  | attach adapter | detach adapter | stop | stopped =>
    obtain rfl := Option.some.inj hstep
    exact iff_of_true rfl trivial

/-- **When only the executor writes.** In any run of a host, from any state, the registry stays
the same between two messages of the executor exactly when none of the relay-link messages it
meets there writes to it. -/
theorem onlyExecutorWrites_iff (P : Platform) {s s' : HostRelayRuntime} {es : List HostEvent}
    (hrun : Run.run (HostRelayRuntime.step P) s es = some s') :
    OnlyExecutorWrites P s es ↔
      ∀ p ∈ Run.trace (HostRelayRuntime.step P) s es, KeepsRegistry P p.1 p.2 := by
  constructor
  · rintro honly ⟨t, e⟩ hmem
    obtain ⟨es₁, es₂, u, rfl, ht, hu⟩ := Run.mem_trace hrun hmem
    cases he : e.isExecutor with
    | true =>
      cases e with
      | executor newMessageId message => trivial
      | _ => cases he
    | false =>
      have hsame : u.registry = t.registry :=
        honly es₁ [e] es₂ t u (by simp) ht (by simpa using he)
          (Run.run_cons_eq_some.mpr ⟨u, hu, rfl⟩)
      exact (registry_step_iff hu he).mp hsame
  · rintro hall es₁ es₂ es₃ t u rfl ht hes hu
    have hsub : ∀ p ∈ Run.trace (HostRelayRuntime.step P) t es₂,
        KeepsRegistry P p.1 p.2 ∧ p.2.isExecutor = false := by
      intro p hp
      have hsu : Run.run (HostRelayRuntime.step P) s (es₁ ++ es₂) = some u :=
        Run.run_append_eq_some.mpr ⟨t, ht, hu⟩
      refine ⟨hall p ?_, ?_⟩
      · rw [Run.trace_append _ hsu, Run.trace_append _ ht]
        simp [hp]
      · obtain ⟨l₁, l₂, _, rfl, -, -⟩ := Run.mem_trace hu hp
        exact hes p.2 (by simp)
    exact Run.run_invariant_of (I := fun h => h.registry = t.registry)
      (Q := fun h e => KeepsRegistry P h e ∧ e.isExecutor = false)
      (fun h e h' hI hq hstep => ((registry_step_iff hstep hq.2).mpr hq.1).trans hI) rfl hsub hu

/-! A stranger sends a host a snapshot without entries at revision 5. -/

def emptySnapshot : HostEvent :=
  .rlp ⟨"r", "g"⟩ ⟨"m", "e"⟩ (linkMessage "tool_snapshot" [("registry_revision", .int 5)])

theorem emptySnapshot_writes :
    (∃ s', Run.run (HostRelayRuntime.step .strict) startedHost [emptySnapshot] = some s' ∧
        s'.registry.revision = 5) ∧
      ¬ OnlyExecutorWrites .strict startedHost [emptySnapshot] := by
  refine ⟨⟨_, rfl, rfl⟩, fun honly => ?_⟩
  have hsame := honly [] [emptySnapshot] [] startedHost _ rfl rfl (by simp [emptySnapshot,
    HostEvent.isExecutor]) rfl
  have hrev : (5 : ℤ) = 0 := congrArg (·.revision) hsame
  exact absurd hrev (by decide)

theorem readResource_onlyExecutorWrites :
    OnlyExecutorWrites .strict startedHost [.attach 0, readResource] ↔
      ∀ p ∈ Run.trace (HostRelayRuntime.step .strict) startedHost [.attach 0, readResource],
        KeepsRegistry .strict p.1 p.2 :=
  onlyExecutorWrites_iff .strict (s := startedHost) rfl

end NaiaRelay.Runtime
