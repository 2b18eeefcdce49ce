import NaiaRelay.PendingTables

set_option autoImplicit false

/-!
What completes an operation: the first answer under its id, the first timeout of its own, or
the first detach of the transport. Everything else leaves it alone.
-/

namespace NaiaRelay.Runtime

/-- What an operation is completed by. -/
inductive Completion
  | answered (outcome : Except Exc Json)
  | timedOut (timeout : Exc) (outer : Bool)
  | detached

namespace Completion

def future : Completion → Future
  | answered outcome => .done outcome
  | timedOut _ _ => .cancelled
  | detached => .done (.error executorDisconnected)

/-- What the relay-link message of an operation is answered with. -/
def answer (resume : Except Exc Json → Except Exc Obj) : Completion → Except Exc Obj
  | answered outcome => resume outcome
  | timedOut timeout true => .error timeout
  | timedOut timeout false => resume (.error timeout)
  | detached => resume (.error executorDisconnected)

def isTimeout : Completion → Bool
  | timedOut _ _ => true
  | _ => false

end Completion

/-- What an event completes an operation with, if it is not completed yet. -/
def ExecutorLink.completion (l : ExecutorLink) (i : ℕ) (ε : LinkEvent) : Option Completion :=
  (l.operations[i]?).bind fun op =>
    match ε with
    | .settle target id outcome =>
      if target = op.target ∧ id = op.id then some (.answered outcome) else none
    | .expire timeout j outer => if j = i then some (.timedOut timeout outer) else none
    | .detach adapter =>
      if adapter = none ∨ l.transport = adapter then some .detached else none
    | _ => none

/-- Where an operation is, by what has completed it: it waits for its completion; or it has it
and is about to go on, or has ended with the answer. -/
def ExecutorOperation.Fate (op : ExecutorOperation) : Option Completion → Prop
  | none => op.Running ∧ op.future = .pending
  | some c => op.future = c.future ∧
      ((op.Running ∧ c.isTimeout = false) ∨ op.phase = .ended (c.answer op.resume))

namespace ExecutorLink

variable {l l' : ExecutorLink} {ε : LinkEvent} {i : ℕ} {op : ExecutorOperation}
  {o : Option Completion}

lemma future_ne_pending {c : Completion} (hf : op.Fate (some c)) : op.future ≠ .pending := by
  rw [hf.1]
  intro hpend
  cases c <;> cases hpend

lemma fate_settle {c : Completion} {outcome : Except Exc Json} (hf : op.Fate o)
    (hc : c.future = .done outcome) (ht : c.isTimeout = false) :
    (op.settle outcome).Fate (o.or (some c)) := by
  cases o with
  | none =>
    obtain ⟨hr, hp⟩ := hf
    rw [ExecutorOperation.settle_of_pending hp]
    exact ⟨hc.symm, Or.inl ⟨hr, ht⟩⟩
  | some c' =>
    rw [ExecutorOperation.settle_of_ne_pending (future_ne_pending hf)]
    exact hf

lemma fate_of_running {op' : ExecutorOperation} (hf : op.Fate o) (hr : op.Running)
    (hr' : op'.Running) (hfut : op'.future = op.future) : op'.Fate o := by
  cases o with
  | none => exact ⟨hr', hfut.trans hf.2⟩
  | some c =>
    refine ⟨hfut.trans hf.1, Or.inl ⟨hr', ?_⟩⟩
    rcases hf.2 with ⟨-, ht⟩ | hend
    · exact ht
    · exact absurd hend (hr _)

lemma completion_of_spared (hop : l.operations[i]? = some op) (hε : ¬ ε.Concerns l i op) :
    l.completion i ε = none := by
  simp only [completion, hop, Option.bind_some]
  cases ε with
  | settle target id outcome => exact if_neg hε
  | expire timeout j outer => exact if_neg hε
  | detach adapter => exact if_neg hε
  | _ => rfl

lemma fate_turn {op' : ExecutorOperation} (ht : op.Turn l i ε op') (hq : ¬ l.EndsEarly ε)
    (hop : l.operations[i]? = some op) (hf : op.Fate o) : op'.Fate (o.or (l.completion i ε)) := by
  cases ht with
  | spared hε => rwa [completion_of_spared hop hε, Option.or_none]
  | settled outcome =>
    simp only [completion, hop, Option.bind_some]
    exact fate_settle hf rfl rfl
  | detached adapter ha =>
    simp only [completion, hop, Option.bind_some, if_pos ha]
    exact fate_settle hf rfl rfl
  | timedOut timeout outer hp hpend =>
    -- the future is pending, so nothing has completed the operation before
    obtain rfl : o = none := by
      cases o with
      | none => rfl
      | some c => exact absurd hpend (future_ne_pending hf)
    simp only [completion, hop, Option.bind_some, if_true, Option.none_or]
    refine ⟨rfl, Or.inr ?_⟩
    cases outer <;> rfl
  | cancelled timeout outer hp =>
    refine absurd ⟨op, hop, ?_⟩ hq
    rcases hp with hp | hp <;> rw [ExecutorOperation.isWaiting, hp]
  | resumed outcome hp hdone =>
    simp only [completion, hop, Option.bind_some, Option.or_none]
    cases o with
    | none =>
      have hpend := hdone.symm.trans hf.2
      cases hpend
    | some c =>
      have hc : Future.done outcome = c.future := hdone.symm.trans hf.1
      refine ⟨hf.1, Or.inr ?_⟩
      cases c with
      | timedOut timeout outer => cases hc
      | answered outcome' =>
        obtain rfl : outcome = outcome' := by injection hc
        rfl
      | detached =>
        obtain rfl : outcome = .error executorDisconnected := by injection hc
        rfl
  | unattached hp ht => exact absurd ht hq
  | acquired t hp ht =>
    simp only [completion, hop, Option.bind_some, Option.or_none]
    refine fate_of_running hf ?_ ?_ rfl <;> simp [ExecutorOperation.Running, hp]
  | unsent e hp =>
    refine absurd ?_ hq
    rintro ⟨⟩
  | sent hp =>
    simp only [completion, hop, Option.bind_some, Option.or_none]
    refine fate_of_running hf ?_ ?_ rfl <;> simp [ExecutorOperation.Running, hp]

lemma after_of_ended {answer : Except Exc Obj} (h : l.step ε = some l')
    (hop : l.operations[i]? = some op) (hp : op.phase = .ended answer)
    (hf : op.future ≠ .pending) : op.after l i ε = op := by
  cases ha : ε.actor with
  | some j =>
    refine after_of_actor_ne ha ?_
    rintro rfl
    obtain ⟨op', hop', hr⟩ := running_of_actor h ha
    obtain rfl := Option.some.inj (hop.symm.trans hop')
    exact hr answer hp
  | none =>
    cases ε with
    | settle t id outcome =>
      rw [ExecutorOperation.after, ExecutorOperation.settle_of_ne_pending hf, ite_self]
    | detach adapter =>
      rw [ExecutorOperation.after, ExecutorOperation.settle_of_ne_pending hf, ite_self]
    | register t id request resume => rfl
    | attach adapter => rfl
    | stop => rfl
    | _ => cases ha

/-! ### Answers -/

lemma settle_of_completed (hw : l.Wf) (hop : l.operations[i]? = some op)
    (hf : op.future ≠ .pending) (outcome : Except Exc Json) :
    l.settle op.target op.id outcome = l := by
  unfold settle
  split
  · rfl
  · rename_i j hj
    obtain ⟨op', hop', ht, hid⟩ := hw.named hj
    obtain rfl := hw.distinct hop' hop ht hid
    refine update_eq_self fun op'' hop'' => ?_
    obtain rfl := Option.some.inj (hop.symm.trans hop'')
    exact ExecutorOperation.settle_of_ne_pending hf _

lemma settle_of_lookup {t : Target} {id : String} (hi : (l.table t).lookup id = some i)
    (outcome : Except Exc Json) : l.settle t id outcome = l.update i (·.settle outcome) := by
  rw [settle, hi]

lemma settle_of_lookup_none {t : Target} {id : String} (hi : (l.table t).lookup id = none)
    (outcome : Except Exc Json) : l.settle t id outcome = l := by
  rw [settle, hi]

lemma settle_comm (hw : l.Wf) {t t' : Target} {id id' : String} (hne : ¬ (t = t' ∧ id = id'))
    (outcome outcome' : Except Exc Json) :
    (l.settle t id outcome).settle t' id' outcome'
      = (l.settle t' id' outcome').settle t id outcome := by
  have htable : ∀ (t₁ t₂ : Target) (id₁ id₂ : String) (o : Except Exc Json),
      ((l.settle t₁ id₁ o).table t₂).lookup id₂ = (l.table t₂).lookup id₂ := by
    intro t₁ t₂ id₁ id₂ o
    rw [table_settle]
  cases hi : (l.table t).lookup id with
  | none =>
    rw [settle_of_lookup_none hi, settle_of_lookup_none ((htable _ _ _ _ _).trans hi)]
  | some i =>
    cases hj : (l.table t').lookup id' with
    | none =>
      rw [settle_of_lookup_none hj, settle_of_lookup_none ((htable _ _ _ _ _).trans hj)]
    | some j =>
      have hij : i ≠ j := by
        rintro rfl
        obtain ⟨op, hop, ht, hid⟩ := hw.named hi
        obtain ⟨op', hop', ht', hid'⟩ := hw.named hj
        obtain rfl := Option.some.inj (hop.symm.trans hop')
        exact hne ⟨ht.symm.trans ht', hid.symm.trans hid'⟩
      rw [settle_of_lookup ((htable _ _ _ _ _).trans hj), settle_of_lookup hi,
        settle_of_lookup ((htable _ _ _ _ _).trans hi), settle_of_lookup hj]
      exact update_comm _ _ _ hij

end ExecutorLink

end NaiaRelay.Runtime
