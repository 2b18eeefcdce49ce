import NaiaRelay.HostLink

set_option autoImplicit false

/-!
The pending tables against the running operations: they agree as long as every operation that
ends has come to wait for its future.
-/

namespace NaiaRelay.Runtime

namespace ExecutorLink

/-- The tables hold exactly the operations that run, under their ids. -/
def Exact (l : ExecutorLink) : Prop :=
  ∀ t id i, (l.table t).lookup id = some i ↔
    ∃ op, l.operations[i]? = some op ∧ op.target = t ∧ op.id = id ∧ op.Running

/-- An event that ends an operation waiting for the lock or sending. -/
def EndsEarly (l : ExecutorLink) : LinkEvent → Prop
  | .acquire _ => l.transport = none
  | .sent _ outcome => outcome ≠ .ok ()
  | .expire _ i _ => ∃ op, l.operations[i]? = some op ∧ op.isWaiting = false
  | _ => False

variable {l l' : ExecutorLink} {ε : LinkEvent} {i : ℕ} {op : ExecutorOperation}

lemma Exact.of_running (hw : l.Wf)
    (h : ∀ {t id i}, (l.table t).lookup id = some i →
      ∃ op, l.operations[i]? = some op ∧ op.Running) : l.Exact := by
  intro t id i
  constructor
  · intro hi
    obtain ⟨op, hop, hr⟩ := h hi
    obtain ⟨op', hop', ht, hid⟩ := hw.named hi
    obtain rfl := Option.some.inj (hop.symm.trans hop')
    exact ⟨op, hop, ht, hid, hr⟩
  · rintro ⟨op, hop, rfl, rfl, hr⟩
    exact hw.registered hop (Or.inl hr)

lemma exact_empty : Exact {} :=
  Exact.of_running wf_empty fun {t} _ _ h => by cases t <;> cases h

lemma Exact.tables_empty (he : l.Exact) (hn : ∀ op ∈ l.operations, ¬ op.Running) :
    l.pendingExecutions = ∅ ∧ l.pendingRequests = ∅ := by
  have hnone : ∀ t id, (l.table t).lookup id = none := by
    intro t id
    by_contra hne
    obtain ⟨i, hi⟩ := Option.ne_none_iff_exists'.mp hne
    obtain ⟨op, hop, -, -, hr⟩ := (he t id i).mp hi
    exact hn op (List.mem_of_getElem? hop) hr
  have hempty : ∀ d : OrderedDict String ℕ, (∀ id, d.lookup id = none) → d = ∅ := by
    intro d hd
    apply AList.ext
    show d.entries = []
    rw [List.eq_nil_iff_forall_not_mem]
    rintro ⟨id, i⟩ he
    have := AList.mem_lookup_iff.mpr he
    rw [hd id] at this
    cases this
  exact ⟨hempty _ (hnone .execution), hempty _ (hnone .request)⟩

lemma running_of_turn {op' : ExecutorOperation} (ht : op.Turn l i ε op')
    (hop : l.operations[i]? = some op) (hr : op.Running) (hq : ¬ l.EndsEarly ε)
    (hu : ε.unregistered l ≠ some op) : op'.Running := by
  intro answer
  cases ht with
  | spared hε => exact hr answer
  | unattached hp ht => exact absurd ht hq
  | acquired t hp ht => simp
  | sent hp => simp
  | unsent e hp => exact absurd (fun hne => nomatch hne) hq
  | settled outcome =>
    rw [ExecutorOperation.phase_settle]
    exact hr answer
  | detached adapter ha =>
    rw [ExecutorOperation.phase_settle]
    exact hr answer
  | resumed outcome hp hf => exact absurd hop hu
  | timedOut timeout outer hp hf =>
    refine absurd ?_ hu
    rw [LinkEvent.unregistered, hop, Option.filter_some, ExecutorOperation.isWaiting, hp]
    rfl
  | cancelled timeout outer hp =>
    refine absurd ⟨op, hop, ?_⟩ hq
    rcases hp with hp | hp <;> rw [ExecutorOperation.isWaiting, hp]

lemma endsEarly_spec (h : l.step ε = some l') (hq : l.EndsEarly ε) :
    ∃ (i : ℕ) (op : ExecutorOperation), l.operations[i]? = some op ∧ op.Running ∧
      ¬ (op.after l i ε).Running ∧ ∀ t, l'.table t = l.table t := by
  cases ε with
  | acquire j =>
    obtain ⟨op, hop, hp, -, -⟩ := step_acquire h
    refine ⟨j, op, hop, by simp [ExecutorOperation.Running, hp], fun hr => ?_,
      table_step_frame h rfl rfl⟩
    have ht : l.transport = none := hq
    simp only [ExecutorOperation.after, if_true, ht, ExecutorOperation.acquired] at hr
    exact hr _ rfl
  | sent j outcome =>
    obtain ⟨op, hop, hp, -⟩ := step_sent h
    refine ⟨j, op, hop, by simp [ExecutorOperation.Running, hp], fun hr => ?_,
      table_step_frame h rfl rfl⟩
    cases outcome with
    | ok u => exact hq rfl
    | error e =>
      simp only [ExecutorOperation.after, if_true, ExecutorOperation.sent] at hr
      exact hr _ rfl
  | expire timeout j outer =>
    obtain ⟨op, hop, hwait⟩ := hq
    have hu : LinkEvent.unregistered l (.expire timeout j outer) = none := by
      rw [LinkEvent.unregistered, hop, Option.filter_some, hwait]
      rfl
    obtain ⟨op', hop', ⟨hp, -⟩ | ⟨hp, -⟩⟩ := step_expire h
    · obtain rfl := Option.some.inj (hop.symm.trans hop')
      rw [ExecutorOperation.isWaiting, hp] at hwait
      cases hwait
    · obtain rfl := Option.some.inj (hop.symm.trans hop')
      refine ⟨j, op, hop, ?_, fun hr => ?_, table_step_frame h rfl hu⟩
      · rcases hp with hp | hp <;> simp [ExecutorOperation.Running, hp]
      · rcases hp with hp | hp <;>
          (simp only [ExecutorOperation.after, if_true, ExecutorOperation.expired, hp] at hr
           exact hr _ rfl)
  | _ => exact hq.elim

/-- **One event.** Exact tables stay exact unless the event ends an operation early. -/
lemma exact_step (hw : l.Wf) (he : l.Exact) (h : l.step ε = some l') :
    l'.Exact ↔ ¬ l.EndsEarly ε := by
  constructor
  -- an operation that is ended early keeps its place in the table
  · intro he' hq
    obtain ⟨i, op, hop, hr, hend, ht⟩ := endsEarly_spec h hq
    have hi : (l'.table op.target).lookup op.id = some i := by
      rw [ht]
      exact hw.registered hop (Or.inl hr)
    obtain ⟨op', hop', -, -, hr'⟩ := (he' _ _ _).mp hi
    obtain rfl := Option.some.inj ((getElem?_step hw h hop).symm.trans hop')
    exact hend hr'
  · intro hq
    -- what a table names and keeps naming is still running
    have hold : ∀ {t id i}, (l.table t).lookup id = some i →
        (∀ out, ε.unregistered l = some out → ¬ (t = out.target ∧ id = out.id)) →
        ∃ op, l'.operations[i]? = some op ∧ op.Running := by
      intro t id i hi hout
      obtain ⟨op, hop, ht, hid, hr⟩ := (he _ _ _).mp hi
      refine ⟨_, getElem?_step hw h hop,
        running_of_turn (turn_after h hop) hop hr hq fun hu => ?_⟩
      exact hout op hu ⟨ht.symm, hid.symm⟩
    refine Exact.of_running (hw.step h) fun {t id i} hi => ?_
    cases hs : ε.started with
    | some new =>
      rw [lookup_step_started h hs] at hi
      split at hi
      · obtain rfl := Option.some.inj hi
        refine ⟨new, by rw [operations_of_started h hs]; simp, ?_⟩
        cases ε with
        | register t id request resume =>
          rw [← Option.some.inj hs]
          simp [ExecutorOperation.Running]
        | _ => cases hs
      · refine hold hi fun out hu => ?_
        cases ε with
        | register t id request resume => cases hu
        | _ => cases hs
    | none =>
      cases hu : ε.unregistered l with
      -- the one that is taken out is named no more
      | some out =>
        obtain ⟨-, -, -, ht⟩ := unregistered_spec h hu
        rw [ht] at hi
        split at hi
        · cases hi
        · rename_i hk
          refine hold hi fun out' hu' => ?_
          obtain rfl := Option.some.inj (hu.symm.trans hu')
          exact hk
      | none =>
        rw [table_step_frame h hs hu] at hi
        exact hold hi fun out hu' => nomatch hu.symm.trans hu'

end ExecutorLink

/-- An event that ends an operation before it waits for its future: the transport is gone when
it gets the lock, its send fails, or a timeout strikes before it has sent. -/
def EndsEarly (h : HostRelayRuntime) : HostEvent → Prop
  | .acquire _ => h.link.transport = none
  | .sent _ outcome => outcome ≠ .ok ()
  | .expire i _ => ∃ op, h.link.operations[i]? = some op ∧ op.isWaiting = false
  | _ => False

variable {P : Platform}

lemma endsEarly_iff (h : HostRelayRuntime) (e : HostEvent) :
    (∀ ε, e.onLink P h = some ε → ¬ h.link.EndsEarly ε) ↔ ¬ EndsEarly h e := by
  cases e with
  | rlp ids operationIds message =>
    refine iff_of_true (fun ε hε => ?_) id
    obtain ⟨op, -, rfl⟩ := Option.map_eq_some_iff.mp hε
    exact id
  | executor newMessageId message =>
    refine iff_of_true (fun ε hε => ?_) id
    obtain ⟨x, -, rfl⟩ := Option.map_eq_some_iff.mp hε
    exact id
  | stopped => exact iff_of_true (fun ε hε => nomatch hε) id
  | _ => exact ⟨fun hall => hall _ rfl, fun hq ε hε => Option.some.inj hε ▸ hq⟩

/-- **When the pending tables are exact.** In every run from a host without operations, the
tables hold exactly the running operations in every state, and are empty when nothing runs, if
and only if no event of the run ends an operation before it waits for its future. -/
theorem tables_exact_iff (P : Platform) {s s' : HostRelayRuntime} {es : List HostEvent}
    (hs : s.link = {}) (hrun : Run.run (HostRelayRuntime.step P) s es = some s') :
    (∀ t ∈ Run.states (HostRelayRuntime.step P) s es, t.link.Exact ∧
        ((∀ op ∈ t.link.operations, ¬ op.Running) →
          t.link.pendingExecutions = ∅ ∧ t.link.pendingRequests = ∅)) ↔
      ∀ p ∈ Run.trace (HostRelayRuntime.step P) s es, ¬ EndsEarly p.1 p.2 := by
  have hw : s.link.Wf := by
    rw [hs]
    exact ExecutorLink.wf_empty
  have he : s.link.Exact := by
    rw [hs]
    exact ExecutorLink.exact_empty
  have hiff := link_states_iff (P := P) (I := ExecutorLink.Exact)
    (Q := fun l ε => ¬ l.EndsEarly ε) (fun hw he h => ExecutorLink.exact_step hw he h)
    hw he hrun
  simp only [endsEarly_iff] at hiff
  rw [← hiff]
  exact ⟨fun hall t ht => (hall t ht).1, fun hall t ht => ⟨hall t ht, (hall t ht).tables_empty⟩⟩

/-! A resource is read while an executor is attached, and the send fails. -/

def failedSend : List HostEvent :=
  [.attach 0, readResource, .acquire 0, .sent 0 (.error (.transportError "closed"))]

/-- The operation has ended and stays in its table. -/
theorem failedSend_leaks :
    (∃ s', Run.run (HostRelayRuntime.step .strict) startedHost failedSend = some s' ∧
        s'.link.pendingRequests.lookup "m" = some 0 ∧
        s'.link.operations.all (fun op => match op.phase with
          | .ended _ => true
          | _ => false) = true) ∧
      ¬ ∀ t ∈ Run.states (HostRelayRuntime.step .strict) startedHost failedSend, t.link.Exact ∧
        ((∀ op ∈ t.link.operations, ¬ op.Running) →
          t.link.pendingExecutions = ∅ ∧ t.link.pendingRequests = ∅) := by
  refine ⟨⟨_, rfl, rfl, rfl⟩, fun hall => ?_⟩
  obtain ⟨hexact, -⟩ := hall _ (Run.last_mem_states rfl)
  obtain ⟨op, hop, -, -, hr⟩ := (hexact .request "m" 0).mp rfl
  obtain rfl := Option.some.inj hop
  exact hr _ rfl

def goodSend : List HostEvent := [.attach 0, readResource, .acquire 0, .sent 0 (.ok ())]

/-- The operation waits for its future and is in its table. -/
theorem goodSend_exact :
    (∃ s', Run.run (HostRelayRuntime.step .strict) startedHost goodSend = some s' ∧
        s'.link.pendingRequests.lookup "m" = some 0) ∧
      ∀ t ∈ Run.states (HostRelayRuntime.step .strict) startedHost goodSend, t.link.Exact ∧
        ((∀ op ∈ t.link.operations, ¬ op.Running) →
          t.link.pendingExecutions = ∅ ∧ t.link.pendingRequests = ∅) := by
  refine ⟨⟨_, rfl, rfl⟩, (tables_exact_iff .strict (s := startedHost) rfl rfl).mpr fun p hp => ?_⟩
  rcases List.mem_cons.mp hp with rfl | hp
  · exact id
  rcases List.mem_cons.mp hp with rfl | hp
  · exact id
  rcases List.mem_cons.mp hp with rfl | hp
  · exact fun h => nomatch h
  · obtain rfl := List.mem_singleton.mp hp
    exact fun h => h rfl

end NaiaRelay.Runtime
