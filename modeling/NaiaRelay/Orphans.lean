import NaiaRelay.HostLink

set_option autoImplicit false

/-!
Operations whose transport is gone: detaching it fails them, replacing or clearing it leaves
them waiting.
-/

namespace NaiaRelay.Runtime

/-- The operation's request is going or has gone out on a transport, and its future is not
done. A send that failed has ended its operation. -/
def ExecutorOperation.Outstanding (op : ExecutorOperation) (transport : ℕ) : Prop :=
  op.Running ∧ op.future = .pending ∧ op.sentOn = some transport

namespace ExecutorLink

/-- Every outstanding operation has its transport attached. -/
def NoOrphan (l : ExecutorLink) : Prop :=
  ∀ op ∈ l.operations, ∀ t, op.Outstanding t → l.transport = some t

/-- An event that takes the transport away from an outstanding operation without failing it. -/
def Orphans (l : ExecutorLink) : LinkEvent → Prop
  | .attach adapter => ∃ op ∈ l.operations, ∃ t, op.Outstanding t ∧ t ≠ adapter
  | .stop => ∃ op ∈ l.operations, ∃ t, op.Outstanding t
  | _ => False

variable {l l' : ExecutorLink} {ε : LinkEvent} {i : ℕ} {op : ExecutorOperation}

lemma noOrphan_empty : NoOrphan {} := by
  intro op hop
  cases hop

lemma detach_cases (hw : l.Wf) (adapter : Option ℕ) :
    ((adapter = none ∨ l.transport = adapter) ∧ (l.detach adapter).transport = none ∧
        ∀ (i : ℕ) (op : ExecutorOperation), l.operations[i]? = some op → op.future = .pending →
          (l.detach adapter).operations[i]?
            = some { op with future := .done (.error executorDisconnected) }) ∨
      (¬ (adapter = none ∨ l.transport = adapter) ∧ l.detach adapter = l) := by
  by_cases ha : adapter = none ∨ l.transport = adapter
  · refine Or.inl ⟨ha, ?_, fun i op hop hp => ?_⟩
    · rw [detach, if_pos ha]
      exact (foldl_settle_frame _ _ _).1
    · rw [getElem?_detach hw adapter hop, ExecutorOperation.after, if_pos ha,
        ExecutorOperation.settle_of_pending hp]
  · exact Or.inr ⟨ha, by rw [detach, if_neg ha]⟩

lemma outstanding_of_turn {op' : ExecutorOperation} {t : ℕ} (ht : op.Turn l i ε op')
    (ho : op'.Outstanding t) :
    op.Outstanding t ∨ (ε = .acquire i ∧ l.transport = some t) := by
  have hsettle : ∀ outcome, (op.settle outcome).Outstanding t → op.Outstanding t := by
    rintro outcome ⟨hr, hp, ht⟩
    have hf : op.future = .pending := by
      by_contra hne
      rw [ExecutorOperation.settle_of_ne_pending hne] at hp
      exact hne hp
    rw [ExecutorOperation.settle_of_pending hf] at hp
    cases hp
  cases ht with
  | spared hε => exact Or.inl ho
  | settled outcome => exact Or.inl (hsettle _ ho)
  | detached adapter ha => exact Or.inl (hsettle _ ho)
  | acquired t' hp ht => exact Or.inr ⟨rfl, ht.trans ho.2.2⟩
  | sent hp => exact Or.inl ⟨by simp [ExecutorOperation.Running, hp], ho.2⟩
  -- in the rest the operation has ended
  | _ => exact absurd rfl (ho.1 _)

lemma transport_step (h : l.step ε = some l') :
    (∃ adapter, ε = .attach adapter ∧ l' = l.attach adapter) ∨ (ε = .stop ∧ l' = l.stop) ∨
      (∃ adapter, ε = .detach adapter ∧ l' = l.detach adapter) ∨ l'.transport = l.transport := by
  cases ε with
  | attach adapter => exact Or.inl ⟨adapter, rfl, (Option.some.inj h).symm⟩
  | stop => exact Or.inr (Or.inl ⟨rfl, (Option.some.inj h).symm⟩)
  | detach adapter => exact Or.inr (Or.inr (Or.inl ⟨adapter, rfl, (Option.some.inj h).symm⟩))
  | register t id request resume =>
    obtain ⟨-, rfl⟩ := step_register h
    exact Or.inr (Or.inr (Or.inr (transport_setTable _ _ _)))
  | acquire j =>
    obtain ⟨op, -, -, -, rfl⟩ := step_acquire h
    exact Or.inr (Or.inr (Or.inr rfl))
  | sent j outcome =>
    obtain ⟨op, -, -, rfl⟩ := step_sent h
    exact Or.inr (Or.inr (Or.inr rfl))
  | settle t id outcome =>
    obtain rfl := Option.some.inj h
    unfold settle
    split <;> exact Or.inr (Or.inr (Or.inr rfl))
  | resume j =>
    obtain ⟨op, outcome, -, -, -, rfl⟩ := step_resume h
    exact Or.inr (Or.inr (Or.inr (transport_unregister _ _)))
  | expire timeout j outer =>
    obtain ⟨op, -, ⟨-, -, rfl⟩ | ⟨-, lock, rfl⟩⟩ := step_expire h
    · exact Or.inr (Or.inr (Or.inr (transport_unregister _ _)))
    · exact Or.inr (Or.inr (Or.inr rfl))

/-- **One event.** No operation is orphaned unless the event replaces or clears its transport. -/
lemma noOrphan_step (hw : l.Wf) (hn : l.NoOrphan) (h : l.step ε = some l') :
    l'.NoOrphan ↔ ¬ l.Orphans ε := by
  rcases transport_step h with ⟨adapter, rfl, rfl⟩ | ⟨rfl, rfl⟩ | ⟨adapter, rfl, rfl⟩ | ht
  -- another transport: what is outstanding has been sent on the old one
  · constructor
    · rintro hn' ⟨op, hop, t, ho, hne⟩
      exact hne (Option.some.inj (hn' op hop t ho)).symm
    · intro hq op hop t ho
      by_contra hne
      exact hq ⟨op, hop, t, ho, fun he => hne (congrArg some he.symm)⟩
  -- no transport any more
  · constructor
    · rintro hn' ⟨op, hop, t, ho⟩
      exact nomatch hn' op hop t ho
    · intro hq op hop t ho
      exact absurd ⟨op, hop, t, ho⟩ hq
  -- a detached transport: what was outstanding on it has failed
  · refine iff_of_true ?_ id
    rcases detach_cases hw adapter with ⟨-, -, hfail⟩ | ⟨-, hsame⟩
    · intro op' hop' t ho
      obtain ⟨i, hi⟩ := List.mem_iff_getElem?.mp hop'
      obtain ⟨op, hop, rfl⟩ := (getElem?_step_inv hw h hi).resolve_right fun hs => nomatch hs.1
      have hp : op.future = .pending :=
        ((outstanding_of_turn (turn_after h hop) ho).resolve_right fun ha => nomatch ha.1).2.1
      rw [Option.some.inj (hi.symm.trans (hfail i op hop hp))] at ho
      exact nomatch ho.2.1
    · rw [hsame]
      exact hn
  -- the same transport: only a send makes an operation outstanding, and it goes there
  · have hq : ¬ l.Orphans ε := by
      intro hq
      cases ε with
      | attach adapter =>
        obtain ⟨op, hop, t, ho, hne⟩ := hq
        obtain rfl := Option.some.inj h
        have : some adapter = l.transport := ht
        rw [hn op hop t ho] at this
        exact hne (Option.some.inj this).symm
      | stop =>
        obtain ⟨op, hop, t, ho⟩ := hq
        obtain rfl := Option.some.inj h
        have : none = l.transport := ht
        rw [hn op hop t ho] at this
        cases this
      | _ => exact hq
    refine iff_of_true (fun op' hop' t ho => ?_) hq
    obtain ⟨i, hi⟩ := List.mem_iff_getElem?.mp hop'
    rcases getElem?_step_inv hw h hi with ⟨op, hop, rfl⟩ | ⟨hs, -⟩
    · rw [ht]
      rcases outstanding_of_turn (turn_after h hop) ho with ho | ⟨-, htr⟩
      · exact hn op (List.mem_of_getElem? hop) t ho
      · exact htr
    · cases ε with
      | register t' id request resume =>
        rw [← Option.some.inj hs] at ho
        exact nomatch ho.2.2
      | _ => cases hs

end ExecutorLink

/-! ### Runs of a host -/

/-- An event of a host that replaces or clears the transport of an outstanding operation. -/
def Orphans (h : HostRelayRuntime) : HostEvent → Prop
  | .attach adapter => ∃ op ∈ h.link.operations, ∃ t, op.Outstanding t ∧ t ≠ adapter
  | .stop => ∃ op ∈ h.link.operations, ∃ t, op.Outstanding t
  | _ => False

/-- What a detach in a state does: the attached transport's outstanding operations fail, and
detaching any other transport changes nothing. -/
def DetachFails (l : ExecutorLink) (adapter : Option ℕ) : Prop :=
  ((adapter = none ∨ l.transport = adapter) →
      ∀ (i : ℕ) (op : ExecutorOperation) (t : ℕ), l.operations[i]? = some op →
        op.Outstanding t → (l.detach adapter).operations[i]?
          = some { op with future := .done (.error executorDisconnected) }) ∧
    (¬ (adapter = none ∨ l.transport = adapter) → l.detach adapter = l)

variable {P : Platform}

lemma orphans_iff (h : HostRelayRuntime) (e : HostEvent) :
    (∀ ε, e.onLink P h = some ε → ¬ h.link.Orphans ε) ↔ ¬ Orphans h e := by
  cases e with
  | rlp ids operationIds message =>
    refine iff_of_true (fun ε hε => ?_) id
    obtain ⟨op, -, rfl⟩ := Option.map_eq_some_iff.mp hε
    exact id
  | executor newMessageId message =>
    refine iff_of_true (fun ε hε => ?_) id
    obtain ⟨x, -, rfl⟩ := Option.map_eq_some_iff.mp hε
    exact id
  | stopped => exact iff_of_true (fun ε hε => nomatch hε) id
  | _ => exact ⟨fun hall => hall _ rfl, fun hq ε hε => Option.some.inj hε ▸ hq⟩

/-- **When no operation is orphaned.** In every run from a host without operations, in every
state each outstanding operation has its transport attached, and every detach fails exactly the
operations of the attached transport, if and only if no event of the run attaches another
transport or clears it for a stop while an operation is outstanding. -/
theorem noOrphan_iff (P : Platform) {s s' : HostRelayRuntime} {es : List HostEvent}
    (hs : s.link = {}) (hrun : Run.run (HostRelayRuntime.step P) s es = some s') :
    (∀ t ∈ Run.states (HostRelayRuntime.step P) s es,
        t.link.NoOrphan ∧ ∀ adapter, DetachFails t.link adapter) ↔
      ∀ p ∈ Run.trace (HostRelayRuntime.step P) s es, ¬ Orphans p.1 p.2 := by
  have hw : s.link.Wf := by
    rw [hs]
    exact ExecutorLink.wf_empty
  have hn : s.link.NoOrphan := by
    rw [hs]
    exact ExecutorLink.noOrphan_empty
  have hiff := link_states_iff (P := P) (I := ExecutorLink.NoOrphan)
    (Q := fun l ε => ¬ l.Orphans ε) (fun hw hn h => ExecutorLink.noOrphan_step hw hn h)
    hw hn hrun
  have hdetach : ∀ t ∈ Run.states (HostRelayRuntime.step P) s es,
      ∀ adapter, DetachFails t.link adapter := by
    intro t ht adapter
    have hwt : t.link.Wf := Run.states_invariant (I := fun h => h.link.Wf)
      (fun s e s' hj hstep => wf_link_step hj hstep) hw t ht
    rcases ExecutorLink.detach_cases hwt adapter with ⟨ha, -, hfail⟩ | ⟨ha, hsame⟩
    · exact ⟨fun _ i op t hop ho => hfail i op hop ho.2.1, fun hn => absurd ha hn⟩
    · exact ⟨fun h => absurd h ha, fun _ => hsame⟩
  simp only [orphans_iff] at hiff
  rw [← hiff]
  exact ⟨fun hall t ht => (hall t ht).1, fun hall t ht => ⟨hall t ht, hdetach t ht⟩⟩

/-! A resource is read on a transport, and the executor reconnects on another. -/

def reconnect : List HostEvent :=
  [.attach 0, readResource, .acquire 0, .sent 0 (.ok ()), .attach 1, .detach (some 0)]

/-- The operation still waits on the transport that is gone. -/
theorem reconnect_orphans :
    (∃ s', Run.run (HostRelayRuntime.step .strict) startedHost reconnect = some s' ∧
        s'.link.transport = some 1 ∧
        ∃ op, s'.link.operations[0]? = some op ∧ op.Outstanding 0) ∧
      ¬ ∀ t ∈ Run.states (HostRelayRuntime.step .strict) startedHost reconnect,
        t.link.NoOrphan ∧ ∀ adapter, DetachFails t.link adapter := by
  have hop : ∀ s', Run.run (HostRelayRuntime.step .strict) startedHost reconnect = some s' →
      ∃ op, s'.link.operations[0]? = some op ∧ op.Outstanding 0 := by
    rintro s' hs'
    obtain rfl := Option.some.inj hs'
    refine ⟨_, rfl, ?_, rfl, rfl⟩
    intro answer h
    exact nomatch (show Phase.waiting = .ended answer from h)
  refine ⟨⟨_, rfl, rfl, hop _ rfl⟩, fun hall => ?_⟩
  obtain ⟨hn, -⟩ := hall _ (Run.last_mem_states rfl)
  obtain ⟨op, hi, ho⟩ := hop _ rfl
  exact nomatch hn op (List.mem_of_getElem? hi) 0 ho

def disconnect : List HostEvent :=
  [.attach 0, readResource, .acquire 0, .sent 0 (.ok ()), .detach (some 0), .attach 1]

/-- An executor that is detached first leaves none behind. -/
theorem disconnect_noOrphan :
    (∃ s', Run.run (HostRelayRuntime.step .strict) startedHost disconnect = some s' ∧
        s'.link.transport = some 1) ∧
      ∀ t ∈ Run.states (HostRelayRuntime.step .strict) startedHost disconnect,
        t.link.NoOrphan ∧ ∀ adapter, DetachFails t.link adapter := by
  refine ⟨⟨_, rfl, rfl⟩, (noOrphan_iff .strict (s := startedHost) rfl rfl).mpr fun p hp => ?_⟩
  rcases List.mem_cons.mp hp with rfl | hp
  · rintro ⟨op, hop, -⟩
    cases hop
  rcases List.mem_cons.mp hp with rfl | hp
  · exact id
  rcases List.mem_cons.mp hp with rfl | hp
  · exact id
  rcases List.mem_cons.mp hp with rfl | hp
  · exact id
  rcases List.mem_cons.mp hp with rfl | hp
  · exact id
  · obtain rfl := List.mem_singleton.mp hp
    rintro ⟨op, hop, t, ho, -⟩
    obtain rfl := List.mem_singleton.mp hop
    exact nomatch ho.2.1

end NaiaRelay.Runtime
