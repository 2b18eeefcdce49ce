import NaiaRelay.Completion
import NaiaRelay.Mirror

set_option autoImplicit false

/-!
Exchanging two messages of the executor that are not for the same operation: the hosts may
then differ in their registries and in the records of the last results, but in nothing that
operations are answered from.
-/

namespace NaiaRelay.Runtime

open NaiaRelay.Pydantic NaiaRelay.Registry NaiaRelay.Rlp

variable {P : Platform}

/-- Two hosts with the same operations, as far as what becomes of these goes. -/
structure SameOperations (h h' : HostRelayRuntime) : Prop where
  link : h'.link = h.link
  config : h'.base.config = h.base.config
  started : h'.base.started = h.base.started
  sessionId : h'.base.sessionId = h.base.sessionId
  rlp : forgetResults h'.rlp = forgetResults h.rlp

/-! ### Relay-link messages -/

/-- Both have ended, or both wait for the same operation. -/
inductive SameWait : Call → Call → Prop
  | done (a b : Except Exc Obj) : SameWait (.done a) (.done b)
  | await (operation : Operation) (resume : Except Exc Json → Except Exc Obj) :
    SameWait (.await operation resume) (.await operation resume)

lemma SameWait.trans {a b c : Call} (h : SameWait a b) (h' : SameWait b c) : SameWait a c := by
  cases h with
  | done a b =>
    cases h'
    exact .done _ _
  | await operation resume => exact h'

lemma SameWait.symm {a b : Call} (h : SameWait a b) : SameWait b a := by
  cases h with
  | done a b => exact .done _ _
  | await operation resume => exact .await _ _

lemma sameWait_operation (r : RLPRecords) (envelope : RLPEnvelope) (ids : NewIds)
    (callback : Bool) (name defaultCode : String) (operation : Operation)
    (details : Json → Json) :
    SameWait (r.operation P envelope ids callback name defaultCode operation details)
      ((forgetResults r).operation P envelope ids callback name defaultCode operation details) := by
  unfold RLPRecords.operation
  cases callback
  · exact .done _ _
  · exact .await _ _

lemma dispatch_forget (registry registry' : RegistryStore) (r : RLPRecords) (ids : NewIds)
    (envelope : RLPEnvelope) (payload : Payload) :
    let x := RLPHandler.dispatch P ids ⟨registry, r⟩ envelope payload
    let y := RLPHandler.dispatch P ids ⟨registry', forgetResults r⟩ envelope payload
    SameWait x.1 y.1 ∧ forgetResults x.2.records = forgetResults y.2.records := by
  have hincremental : ∀ (revision : ℤ) (change : RegistryStore → Except Exc RegistryStore),
      let x := RLPHandler.applyIncremental ids ⟨registry, r⟩ envelope revision change
      let y := RLPHandler.applyIncremental ids ⟨registry', forgetResults r⟩ envelope revision change
      SameWait x.1 y.1 ∧ forgetResults x.2.records = forgetResults y.2.records := by
    intro revision change x y
    obtain ⟨⟨a, ha⟩, hr⟩ := applyIncremental_done ⟨registry, r⟩ ids envelope revision change
    obtain ⟨⟨b, hb⟩, hr'⟩ := applyIncremental_done ⟨registry', forgetResults r⟩ ids envelope
      revision change
    simp only [x, y, ha, hb, hr, hr']
    exact ⟨.done a b, rfl⟩
  intro x y
  cases payload with
  | executeTool p => exact ⟨sameWait_operation r envelope ids r.executeTool _ _ _ _, rfl⟩
  | readResource p => exact ⟨sameWait_operation r envelope ids r.readResource _ _ _ _, rfl⟩
  | getPrompt p => exact ⟨sameWait_operation r envelope ids r.getPrompt _ _ _ _, rfl⟩
  | mutation k p => exact hincremental _ _
  | removed k p => exact hincremental _ _
  | bindSession p =>
    simp only [x, y, RLPHandler.dispatch, RLPHandler.bindSession]
    have hsession : (forgetResults r).relaySessionId = r.relaySessionId := rfl
    have htoken : (forgetResults r).sessionToken = r.sessionToken := rfl
    rw [hsession, htoken]
    by_cases hs : p.relaySessionId ≠ r.relaySessionId
    · rw [if_pos hs, if_pos hs]
      exact ⟨.done _ _, rfl⟩
    · rw [if_neg hs, if_neg hs]
      by_cases ht : r.sessionToken ≠ none ∧ p.sessionToken ≠ r.sessionToken
      · rw [if_pos ht, if_pos ht]
        exact ⟨.done _ _, rfl⟩
      · rw [if_neg ht, if_neg ht]
        exact ⟨.done _ _, rfl⟩
  | _ => exact ⟨.done _ _, rfl⟩

lemma handleMessage_forget (registry registry' : RegistryStore) (r : RLPRecords) (ids : NewIds)
    (message : Obj) :
    let x := RLPHandler.handleMessage P ids ⟨registry, r⟩ message
    let y := RLPHandler.handleMessage P ids ⟨registry', forgetResults r⟩ message
    SameWait x.1 y.1 ∧ forgetResults x.2.records = forgetResults y.2.records := by
  cases hp : Rlp.parse P message with
  | some z =>
    obtain ⟨envelope, payload⟩ := z
    simp only [handleMessage_of_parse hp]
    exact dispatch_forget registry registry' r ids envelope payload
  | none =>
    obtain ⟨a, ha⟩ := handleMessage_of_parse_none (h := ⟨registry, r⟩) ids hp
    obtain ⟨b, hb⟩ := handleMessage_of_parse_none (h := ⟨registry', forgetResults r⟩) ids hp
    rw [ha, hb]
    exact ⟨.done a b, rfl⟩

lemma SameOperations.conclude {h h' : HostRelayRuntime} (hs : SameOperations h h')
    (a b : Except Exc Obj) : SameOperations (h.conclude a) (h'.conclude b) := by
  obtain ⟨hl, hc, hst, hid, hr⟩ := hs
  cases a <;> cases b <;> exact ⟨hl, hc, hst, hid, hr⟩

lemma SameOperations.afterAwait {h h' : HostRelayRuntime} (hs : SameOperations h h') (i : ℕ)
    (l : ExecutorLink) : SameOperations (h.afterAwait i l) (h'.afterAwait i l) := by
  have hl : SameOperations { h with link := l } { h' with link := l } :=
    ⟨rfl, hs.config, hs.started, hs.sessionId, hs.rlp⟩
  unfold HostRelayRuntime.afterAwait
  dsimp only
  split
  · exact hl.conclude _ _
  · exact hl

lemma SameOperations.handleRlpMessage {h h' : HostRelayRuntime} (hs : SameOperations h h')
    (ids : NewIds) (operationIds : OperationIds) (message : Obj) :
    SameOperations (h.handleRlpMessage P ids operationIds message).2
      (h'.handleRlpMessage P ids operationIds message).2 := by
  have hx := handleMessage_forget (P := P) h.registry h.registry h.rlp ids message
  have hy := handleMessage_forget (P := P) h'.registry h.registry h'.rlp ids message
  rw [hs.rlp] at hy
  have hwait := hx.1.trans hy.1.symm
  have hrecords := hy.2.trans hx.2.symm
  unfold HostRelayRuntime.handleRlpMessage BaseRelayRuntime.ensureStarted
  rw [hs.started]
  by_cases hst : h.base.started = true
  · rw [if_pos hst, if_pos hst]
    dsimp only at hwait hrecords ⊢
    generalize RLPHandler.handleMessage P ids ⟨h.registry, h.rlp⟩ message = x at hwait hrecords ⊢
    generalize RLPHandler.handleMessage P ids ⟨h'.registry, h'.rlp⟩ message = y
      at hwait hrecords ⊢
    obtain ⟨call, handler⟩ := x
    obtain ⟨call', handler'⟩ := y
    cases hwait with
    | done a b =>
      have hnext : SameOperations { h with registry := handler.registry, rlp := handler.records }
          { h' with registry := handler'.registry, rlp := handler'.records } :=
        ⟨hs.link, hs.config, hs.started, hs.sessionId, hrecords⟩
      exact hnext.conclude a b
    | await operation resume =>
      dsimp only
      rw [hs.link]
      cases h.link.transport with
      | none =>
        have hnext : SameOperations { h with registry := handler.registry, rlp := handler.records }
            { h' with registry := handler'.registry, rlp := handler'.records, link := h.link } :=
          ⟨rfl, hs.config, hs.started, hs.sessionId, hrecords⟩
        exact hnext.conclude _ _
      | some t =>
        refine ⟨?_, hs.config, hs.started, hs.sessionId, hrecords⟩
        cases operation <;>
          simp only [HostRelayRuntime.forward, HostRelayRuntime.tepRequest, hs.sessionId]
  · rw [if_neg hst, if_neg hst]
    exact hs

lemma SameOperations.step {h h' k : HostRelayRuntime} {e : HostEvent} (hs : SameOperations h h')
    (hstep : h.step P e = some k) :
    ∃ k', h'.step P e = some k' ∧ SameOperations k k' := by
  have hlink : ∀ {ε : LinkEvent} {i : ℕ} {f : HostRelayRuntime → HostRelayRuntime},
      (∀ {h h'}, SameOperations h h' → SameOperations (f h) (f h')) →
      (h.link.step ε).map ((f h).afterAwait i) = some k →
      ∃ k', (h'.link.step ε).map ((f h').afterAwait i) = some k' ∧ SameOperations k k' := by
    intro ε i f hf hmap
    obtain ⟨l, hl, rfl⟩ := Option.map_eq_some_iff.mp hmap
    exact ⟨_, by rw [hs.link, hl]; rfl, (hf hs).afterAwait i l⟩
  cases e with
  | rlp ids operationIds message =>
    simp only [HostRelayRuntime.step] at hstep ⊢
    rw [hs.link]
    split at hstep
    · rename_i hfresh
      obtain rfl := Option.some.inj hstep
      exact ⟨_, by rw [if_pos hfresh], hs.handleRlpMessage ids operationIds message⟩
    · cases hstep
  -- what a message records is all that may differ
  | executor newMessageId message =>
    obtain rfl := Option.some.inj hstep
    refine ⟨_, rfl, ?_⟩
    obtain ⟨tep, rlp, hf, he⟩ := handleExecutorStdioMessage_eq (P := P) h newMessageId message
    obtain ⟨tep', rlp', hf', he'⟩ := handleExecutorStdioMessage_eq (P := P) h' newMessageId message
    rw [he, he']
    exact ⟨by rw [hs.link], hs.config, hs.started, hs.sessionId,
      hf'.trans (hs.rlp.trans hf.symm)⟩
  | acquire i => exact hlink (f := id) id hstep
  | sent i outcome => exact hlink (f := id) id hstep
  | resume i => exact hlink (f := id) id hstep
  | expire i outer =>
    have ht : h'.requestTimeout = h.requestTimeout := by
      rw [HostRelayRuntime.requestTimeout, HostRelayRuntime.requestTimeout, hs.config]
    simp only [HostRelayRuntime.step, ht] at hstep ⊢
    exact hlink (f := fun h => { h with base := h.base.recordTimeout })
      (fun hs => ⟨hs.link, hs.config, hs.started, hs.sessionId, hs.rlp⟩) hstep
  | attach adapter =>
    obtain rfl := Option.some.inj hstep
    exact ⟨_, rfl, by rw [hs.link], hs.config, hs.started, hs.sessionId, hs.rlp⟩
  | detach adapter =>
    obtain rfl := Option.some.inj hstep
    exact ⟨_, rfl, by rw [hs.link], hs.config, hs.started, hs.sessionId, hs.rlp⟩
  | stop =>
    obtain rfl := Option.some.inj hstep
    exact ⟨_, rfl, by rw [hs.link], hs.config, hs.started, hs.sessionId, hs.rlp⟩
  | stopped =>
    obtain rfl := Option.some.inj hstep
    exact ⟨_, rfl, hs.link, hs.config, rfl, hs.sessionId, hs.rlp⟩

/-! ### Two messages of the executor -/

/-- Two messages that do not both answer one operation. -/
def Unrelated (P : Platform) (message message' : Obj) : Prop :=
  ∀ x y, executorAnswer P message = some x → executorAnswer P message' = some y →
    ¬ (x.1 = y.1 ∧ x.2.1 = y.2.1)

lemma deliver_comm {l : ExecutorLink} (hw : l.Wf) {message message' : Obj}
    (hu : Unrelated P message message') :
    (l.deliver (executorAnswer P message)).deliver (executorAnswer P message')
      = (l.deliver (executorAnswer P message')).deliver (executorAnswer P message) := by
  cases hx : executorAnswer P message with
  | none => rfl
  | some x =>
    cases hy : executorAnswer P message' with
    | none => rfl
    | some y =>
      obtain ⟨t, id, outcome⟩ := x
      obtain ⟨t', id', outcome'⟩ := y
      exact ExecutorLink.settle_comm hw (hu _ _ hx hy) outcome outcome'

lemma executor_comm {h k : HostRelayRuntime} (hw : h.link.Wf) {n n' : String}
    {message message' : Obj} (hu : Unrelated P message message')
    (hrun : Run.run (HostRelayRuntime.step P) h [.executor n message, .executor n' message']
      = some k) :
    ∃ k', Run.run (HostRelayRuntime.step P) h [.executor n' message', .executor n message]
        = some k' ∧ SameOperations k k' := by
  obtain rfl := Option.some.inj hrun
  refine ⟨_, rfl, ?_⟩
  obtain ⟨tep, rlp, hf, he⟩ := handleExecutorStdioMessage_eq (P := P) h n message
  obtain ⟨tep', rlp', hf', he'⟩ := handleExecutorStdioMessage_eq (P := P) h n' message'
  rw [he, he']
  obtain ⟨tep₂, rlp₂, hf₂, he₂⟩ := handleExecutorStdioMessage_eq (P := P)
    { h with
      registry := Tep.afterMutations h.registry (Tep.mutations P message)
      tep, rlp
      link := h.link.deliver (executorAnswer P message) } n' message'
  obtain ⟨tep₃, rlp₃, hf₃, he₃⟩ := handleExecutorStdioMessage_eq (P := P)
    { h with
      registry := Tep.afterMutations h.registry (Tep.mutations P message')
      tep := tep', rlp := rlp'
      link := h.link.deliver (executorAnswer P message') } n message
  rw [he₂, he₃]
  exact ⟨(deliver_comm hw hu).symm, rfl, rfl, rfl,
    (hf₃.trans hf').trans (hf₂.trans hf).symm⟩

/-- **Exchanging unrelated messages of a run.** Every operation is left as it was. -/
theorem run_swap_executor {s k : HostRelayRuntime} (hw : s.link.Wf) {es₁ es₂ : List HostEvent}
    {n n' : String} {message message' : Obj} (hu : Unrelated P message message')
    (hrun : Run.run (HostRelayRuntime.step P) s
      (es₁ ++ [.executor n message, .executor n' message'] ++ es₂) = some k) :
    ∃ k', Run.run (HostRelayRuntime.step P) s
        (es₁ ++ [.executor n' message', .executor n message] ++ es₂) = some k' ∧
      SameOperations k k' := by
  refine Run.run_swap (R := SameOperations) ?_ ?_ hrun
  · intro h h' k e hs hstep
    exact hs.step hstep
  · intro u v hsu huv
    exact executor_comm (wf_link_run hw hsu) hu huv

end NaiaRelay.Runtime
