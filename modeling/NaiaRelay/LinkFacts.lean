import NaiaRelay.ExecutorLink

set_option autoImplicit false

/-!
What each event on the executor link does to the tables and to each operation.
-/

namespace NaiaRelay.Runtime

namespace ExecutorOperation

variable {op : ExecutorOperation}

lemma settle_of_ne_pending (h : op.future ≠ .pending) (outcome : Except Exc Json) :
    op.settle outcome = op := by
  unfold settle
  split
  · rename_i hp
    exact absurd hp h
  · rfl

lemma settle_of_pending (h : op.future = .pending) (outcome : Except Exc Json) :
    op.settle outcome = { op with future := .done outcome } := by
  simp [settle, h]

/-- An operation that runs, or whose future nothing has settled. -/
def Live (op : ExecutorOperation) : Prop := op.Running ∨ op.future = .pending

def isWaiting (op : ExecutorOperation) : Bool :=
  match op.phase with
  | .waiting => true
  | _ => false

lemma settle_settle (outcome outcome' : Except Exc Json) :
    (op.settle outcome).settle outcome' = op.settle outcome := by
  cases h : op.future <;> simp [settle, h]

/-- Two states of one operation. -/
structure SameCall (op op' : ExecutorOperation) : Prop where
  target : op'.target = op.target
  id : op'.id = op.id
  request : op'.request = op.request
  resume : op'.resume = op.resume

lemma SameCall.refl (op : ExecutorOperation) : SameCall op op := ⟨rfl, rfl, rfl, rfl⟩

lemma SameCall.trans {op op' op'' : ExecutorOperation} (h : SameCall op op')
    (h' : SameCall op' op'') : SameCall op op'' :=
  ⟨h'.target.trans h.target, h'.id.trans h.id, h'.request.trans h.request,
    h'.resume.trans h.resume⟩

lemma sameCall_settle (op : ExecutorOperation) (outcome : Except Exc Json) :
    SameCall op (op.settle outcome) := by
  unfold settle
  split <;> exact ⟨rfl, rfl, rfl, rfl⟩

lemma sameCall_acquired (op : ExecutorOperation) (transport : Option ℕ) :
    SameCall op (op.acquired transport) := by
  unfold acquired
  split <;> exact ⟨rfl, rfl, rfl, rfl⟩

lemma sameCall_sent (op : ExecutorOperation) (outcome : Except Exc Unit) :
    SameCall op (op.sent outcome) := by
  unfold sent
  split <;> exact ⟨rfl, rfl, rfl, rfl⟩

lemma sameCall_resumed (op : ExecutorOperation) : SameCall op op.resumed := by
  unfold resumed
  split <;> exact ⟨rfl, rfl, rfl, rfl⟩

lemma sameCall_expired (op : ExecutorOperation) (timeout : Exc) (outer : Bool) :
    SameCall op (op.expired timeout outer) := by
  unfold expired
  split <;> exact ⟨rfl, rfl, rfl, rfl⟩

lemma phase_settle (op : ExecutorOperation) (outcome : Except Exc Json) :
    (op.settle outcome).phase = op.phase := by
  unfold settle
  split <;> rfl

end ExecutorOperation

namespace ExecutorLink

variable {l l' : ExecutorLink}

lemma getElem?_update (l : ExecutorLink) (i j : ℕ) (f : ExecutorOperation → ExecutorOperation) :
    (l.update i f).operations[j]? =
      if i = j then (l.operations[j]?).map f else l.operations[j]? := by
  show (l.operations.modify i f)[j]? = _
  rw [List.getElem?_modify]
  split
  · rfl
  · simp

@[simp] lemma table_update (l : ExecutorLink) (i : ℕ)
    (f : ExecutorOperation → ExecutorOperation) (t : Target) :
    (l.update i f).table t = l.table t := by
  cases t <;> rfl

lemma update_comm (l : ExecutorLink) {i j : ℕ} (f g : ExecutorOperation → ExecutorOperation)
    (h : i ≠ j) : (l.update i f).update j g = (l.update j g).update i f := by
  show { l with operations := (l.operations.modify i f).modify j g }
    = { l with operations := (l.operations.modify j g).modify i f }
  rw [List.modify_modify_ne _ _ _ h]

lemma update_eq_self {i : ℕ} {f : ExecutorOperation → ExecutorOperation}
    (h : ∀ op, l.operations[i]? = some op → f op = op) : l.update i f = l := by
  have hops : l.operations.modify i f = l.operations := by
    apply List.ext_getElem?
    intro j
    rw [List.getElem?_modify]
    by_cases hij : i = j
    · subst hij
      cases hop : l.operations[i]? with
      | none => rfl
      | some op => simp [h op hop]
    · simp [hij]
  show { l with operations := l.operations.modify i f } = l
  rw [hops]

lemma pendingFuture_eq_none {target : Target} {id : String}
    (h : l.pendingFuture target id = none) {i : ℕ} {op : ExecutorOperation}
    (hi : (l.table target).lookup id = some i) (hop : l.operations[i]? = some op) :
    op.future ≠ .pending := by
  intro hp
  rw [pendingFuture, hi, Option.filter_eq_none_iff] at h
  have := h i rfl
  rw [hop] at this
  cases op
  simp only at hp
  subst hp
  simp at this

lemma pendingFuture_eq_some {target : Target} {id : String} {i : ℕ} :
    l.pendingFuture target id = some i ↔ (l.table target).lookup id = some i ∧
      ∃ op, l.operations[i]? = some op ∧ op.future = .pending := by
  rw [pendingFuture, Option.filter_eq_some_iff]
  refine and_congr_right fun _ => ?_
  cases hop : l.operations[i]? with
  | none => simp
  | some op =>
    obtain ⟨target, id, request, resume, future, phase, sentOn⟩ := op
    cases future <;> simp

lemma settle_of_pendingFuture_none {target : Target} {id : String}
    (h : l.pendingFuture target id = none) (outcome : Except Exc Json) :
    l.settle target id outcome = l := by
  unfold settle
  split
  · rfl
  · rename_i i hi
    exact update_eq_self fun op hop =>
      ExecutorOperation.settle_of_ne_pending (pendingFuture_eq_none h hi hop) _

/-! ### The tables -/

@[simp] lemma table_setTable_self (l : ExecutorLink) (t : Target) (d : OrderedDict String ℕ) :
    (l.setTable t d).table t = d := by
  cases t <;> rfl

lemma table_setTable_ne (l : ExecutorLink) {t t' : Target} (d : OrderedDict String ℕ)
    (h : t' ≠ t) : (l.setTable t d).table t' = l.table t' := by
  cases t <;> cases t' <;> first | rfl | exact absurd rfl h

@[simp] lemma operations_setTable (l : ExecutorLink) (t : Target) (d : OrderedDict String ℕ) :
    (l.setTable t d).operations = l.operations := by
  cases t <;> rfl

@[simp] lemma transport_setTable (l : ExecutorLink) (t : Target) (d : OrderedDict String ℕ) :
    (l.setTable t d).transport = l.transport := by
  cases t <;> rfl

lemma lookup_table_register (l : ExecutorLink) (op : ExecutorOperation) (t : Target)
    (id : String) :
    ((l.register op).table t).lookup id =
      if t = op.target ∧ id = op.id then some l.operations.length
      else (l.table t).lookup id := by
  have ht : (l.register op).table t = (l.setTable op.target
      (OrderedDict.set (l.table op.target) op.id l.operations.length)).table t := by
    cases t <;> rfl
  rw [ht]
  by_cases h : t = op.target
  · subst h
    rw [table_setTable_self, OrderedDict.lookup_set]
    simp
  · rw [table_setTable_ne _ _ h]
    simp [h]

lemma lookup_table_unregister (l : ExecutorLink) (op : ExecutorOperation) (t : Target)
    (id : String) :
    ((l.unregister op).table t).lookup id =
      if t = op.target ∧ id = op.id then none else (l.table t).lookup id := by
  unfold unregister
  by_cases h : t = op.target
  · subst h
    rw [table_setTable_self, OrderedDict.lookup_pop]
    simp
  · rw [table_setTable_ne _ _ h]
    simp [h]

@[simp] lemma operations_unregister (l : ExecutorLink) (op : ExecutorOperation) :
    (l.unregister op).operations = l.operations := operations_setTable _ _ _

@[simp] lemma transport_unregister (l : ExecutorLink) (op : ExecutorOperation) :
    (l.unregister op).transport = l.transport := transport_setTable _ _ _

/-! ### Failing what is pending -/

lemma getElem?_foldl_settle (outcome : Except Exc Json) (is : List ℕ) (l : ExecutorLink)
    (j : ℕ) :
    (is.foldl (fun l i => l.update i (·.settle outcome)) l).operations[j]? =
      if j ∈ is then (l.operations[j]?).map (·.settle outcome) else l.operations[j]? := by
  induction is generalizing l with
  | nil => simp
  | cons i is ih =>
    rw [List.foldl_cons, ih, getElem?_update]
    by_cases hij : i = j
    · subst hij
      simp only [if_true, List.mem_cons, true_or]
      split
      · rw [Option.map_map]
        congr 1
        funext op
        exact ExecutorOperation.settle_settle _ _
      · rfl
    · simp [hij, Ne.symm hij]

lemma foldl_settle_frame (outcome : Except Exc Json) (is : List ℕ) (l : ExecutorLink) :
    let l' := is.foldl (fun l i => l.update i (·.settle outcome)) l
    l'.transport = l.transport ∧ ∀ t, l'.table t = l.table t := by
  induction is generalizing l with
  | nil => exact ⟨rfl, fun _ => rfl⟩
  | cons i is ih =>
    obtain ⟨htr, ht⟩ := ih (l.update i (·.settle outcome))
    exact ⟨htr, fun t => (ht t).trans (table_update _ _ _ _)⟩

/-! ### Well-formed links -/

/-- The tables hold operations under their own ids, ids are never used twice, and an operation
stands in its table while it is live. -/
structure Wf (l : ExecutorLink) : Prop where
  named : ∀ {t id i}, (l.table t).lookup id = some i →
    ∃ op, l.operations[i]? = some op ∧ op.target = t ∧ op.id = id
  distinct : ∀ {i j : ℕ} {op op' : ExecutorOperation}, l.operations[i]? = some op →
    l.operations[j]? = some op' → op.target = op'.target → op.id = op'.id → i = j
  registered : ∀ {i : ℕ} {op : ExecutorOperation}, l.operations[i]? = some op →
    op.Live → (l.table op.target).lookup op.id = some i

lemma wf_empty : Wf {} where
  named := by
    intro t id i h
    cases t <;> cases h
  distinct := by
    intro i j op op' h
    cases h
  registered := by
    intro i op h
    cases h

lemma Wf.congr (hw : Wf l) (ho : l'.operations = l.operations) (ht : ∀ t, l'.table t = l.table t) :
    Wf l' where
  named := by
    intro t id i h
    rw [ht] at h
    rw [ho]
    exact hw.named h
  distinct := by
    rw [ho]
    exact hw.distinct
  registered := by
    intro i op hop hl
    rw [ho] at hop
    rw [ht]
    exact hw.registered hop hl

@[simp] lemma length_update (l : ExecutorLink) (i : ℕ)
    (f : ExecutorOperation → ExecutorOperation) :
    (l.update i f).operations.length = l.operations.length := List.length_modify _ _ _

@[simp] lemma length_settle (l : ExecutorLink) (t : Target) (id : String)
    (outcome : Except Exc Json) :
    (l.settle t id outcome).operations.length = l.operations.length := by
  unfold settle
  split
  · rfl
  · exact length_update _ _ _

@[simp] lemma length_failPending (l : ExecutorLink) (exc : Exc) :
    (l.failPending exc).operations.length = l.operations.length := by
  have hfold : ∀ (is : List ℕ) (l : ExecutorLink),
      (is.foldl (fun l i => l.update i (·.settle (.error exc))) l).operations.length
        = l.operations.length := by
    intro is
    induction is with
    | nil => exact fun _ => rfl
    | cons i is ih => exact fun l => (ih _).trans (length_update _ _ _)
  exact hfold _ l

@[simp] lemma length_detach (l : ExecutorLink) (adapter : Option ℕ) :
    (l.detach adapter).operations.length = l.operations.length := by
  unfold detach
  split
  · exact length_failPending _ _
  · rfl

@[simp] lemma table_settle (l : ExecutorLink) (t t' : Target) (id : String)
    (outcome : Except Exc Json) : (l.settle t id outcome).table t' = l.table t' := by
  unfold settle
  split
  · rfl
  · exact table_update _ _ _ _

@[simp] lemma table_detach (l : ExecutorLink) (adapter : Option ℕ) (t : Target) :
    (l.detach adapter).table t = l.table t := by
  unfold detach
  split
  · exact ((foldl_settle_frame _ _ _).2 t).trans (by cases t <;> rfl)
  · rfl

end ExecutorLink

/-! ### What an event does to an operation -/

/-- The operation an event starts. -/
def LinkEvent.started : LinkEvent → Option ExecutorOperation
  | .register target id request rest => some { target, id, request, resume := rest }
  | _ => none

/-- The operation whose await an event ends. -/
def LinkEvent.actor : LinkEvent → Option ℕ
  | .acquire i => some i
  | .sent i _ => some i
  | .resume i => some i
  | .expire _ i _ => some i
  | _ => none

/-- The operation an event takes out of its table. -/
def LinkEvent.unregistered (l : ExecutorLink) : LinkEvent → Option ExecutorOperation
  | .resume i => l.operations[i]?
  | .expire _ i _ => (l.operations[i]?).filter ExecutorOperation.isWaiting
  | _ => none

/-- An operation after an event, from the link before it. -/
def ExecutorOperation.after (op : ExecutorOperation) (l : ExecutorLink) (i : ℕ) :
    LinkEvent → ExecutorOperation
  | .acquire j => if j = i then op.acquired l.transport else op
  | .sent j outcome => if j = i then op.sent outcome else op
  | .settle t id outcome => if t = op.target ∧ id = op.id then op.settle outcome else op
  | .resume j => if j = i then op.resumed else op
  | .expire timeout j outer => if j = i then op.expired timeout outer else op
  | .detach adapter =>
    if adapter = none ∨ l.transport = adapter then op.settle (.error executorDisconnected) else op
  | .register _ _ _ _ => op
  | .attach _ => op
  | .stop => op

/-- The event is about this operation. -/
def LinkEvent.Concerns (l : ExecutorLink) (i : ℕ) (op : ExecutorOperation) : LinkEvent → Prop
  | .acquire j => j = i
  | .sent j _ => j = i
  | .settle t id _ => t = op.target ∧ id = op.id
  | .resume j => j = i
  | .expire _ j _ => j = i
  | .detach adapter => adapter = none ∨ l.transport = adapter
  | _ => False

/-- What becomes of an operation in an event that happens, and what it is like before. -/
inductive ExecutorOperation.Turn (l : ExecutorLink) (i : ℕ) (op : ExecutorOperation) :
    LinkEvent → ExecutorOperation → Prop
  | spared {ε : LinkEvent} (hε : ¬ ε.Concerns l i op) : Turn l i op ε op
  | unattached (hp : op.phase = .acquiring) (ht : l.transport = none) :
      Turn l i op (.acquire i) { op with phase := .ended (op.resume (.error noTransport)) }
  | acquired (t : ℕ) (hp : op.phase = .acquiring) (ht : l.transport = some t) :
      Turn l i op (.acquire i) { op with phase := .sending, sentOn := some t }
  | sent (hp : op.phase = .sending) : Turn l i op (.sent i (.ok ())) { op with phase := .waiting }
  | unsent (e : Exc) (hp : op.phase = .sending) :
      Turn l i op (.sent i (.error e)) { op with phase := .ended (op.resume (.error e)) }
  | settled (outcome : Except Exc Json) :
      Turn l i op (.settle op.target op.id outcome) (op.settle outcome)
  | detached (adapter : Option ℕ) (ha : adapter = none ∨ l.transport = adapter) :
      Turn l i op (.detach adapter) (op.settle (.error executorDisconnected))
  | resumed (outcome : Except Exc Json) (hp : op.phase = .waiting)
      (hf : op.future = .done outcome) :
      Turn l i op (.resume i) { op with phase := .ended (op.resume outcome) }
  | timedOut (timeout : Exc) (outer : Bool) (hp : op.phase = .waiting)
      (hf : op.future = .pending) :
      Turn l i op (.expire timeout i outer) { op with
        future := .cancelled
        phase := .ended (if outer then .error timeout else op.resume (.error timeout)) }
  | cancelled (timeout : Exc) (outer : Bool) (hp : op.phase = .acquiring ∨ op.phase = .sending) :
      Turn l i op (.expire timeout i outer) { op with phase := .ended (.error timeout) }

namespace ExecutorLink

variable {l l' : ExecutorLink} {ε : LinkEvent} {i : ℕ} {op : ExecutorOperation}

/-! ### When an event can happen, and what it does -/

lemma step_register {t : Target} {id : String} {request : Obj}
    {resume : Except Exc Json → Except Exc Obj}
    (h : l.step (.register t id request resume) = some l') :
    l.Fresh t id ∧ l' = l.register { target := t, id, request, resume } := by
  simp only [step] at h
  split at h
  · rename_i hf
    exact ⟨hf, (Option.some.inj h).symm⟩
  · cases h

lemma step_acquire (h : l.step (.acquire i) = some l') :
    ∃ op, l.operations[i]? = some op ∧ op.phase = .acquiring ∧ l.sendLock = none ∧
      l' = { l with sendLock := l.transport.map fun _ => i }.update i (·.acquired l.transport) := by
  simp only [step] at h
  split at h
  · rename_i op hop hlock
    exact ⟨_, hop, rfl, hlock, (Option.some.inj h).symm⟩
  · cases h

lemma step_sent {outcome : Except Exc Unit} (h : l.step (.sent i outcome) = some l') :
    ∃ op, l.operations[i]? = some op ∧ op.phase = .sending ∧
      l' = { l with sendLock := none }.update i (·.sent outcome) := by
  simp only [step] at h
  split at h
  · rename_i hop
    exact ⟨_, hop, rfl, (Option.some.inj h).symm⟩
  · cases h

lemma step_resume (h : l.step (.resume i) = some l') :
    ∃ op outcome, l.operations[i]? = some op ∧ op.phase = .waiting ∧ op.future = .done outcome ∧
      l' = (l.unregister op).update i (·.resumed) := by
  simp only [step] at h
  split at h
  · rename_i op hop
    split at h
    · rename_i outcome hp hf
      exact ⟨op, outcome, hop, hp, hf, (Option.some.inj h).symm⟩
    · cases h
  · cases h

lemma step_expire {timeout : Exc} {outer : Bool} (h : l.step (.expire timeout i outer) = some l') :
    ∃ op, l.operations[i]? = some op ∧
      ((op.phase = .waiting ∧ op.future = .pending ∧
          l' = (l.unregister op).update i (·.expired timeout outer)) ∨
        ((op.phase = .acquiring ∨ op.phase = .sending) ∧ ∃ lock,
          l' = { l with sendLock := lock }.update i (·.expired timeout outer))) := by
  simp only [step] at h
  split at h
  · rename_i op hop
    refine ⟨op, hop, ?_⟩
    split at h
    · rename_i hp hf
      exact Or.inl ⟨hp, hf, (Option.some.inj h).symm⟩
    · rename_i hp
      exact Or.inr ⟨Or.inl hp, l.sendLock, (Option.some.inj h).symm⟩
    · rename_i hp
      exact Or.inr ⟨Or.inr hp, none, (Option.some.inj h).symm⟩
    · cases h
  · cases h

lemma getElem?_settle (hw : Wf l) (t : Target) (id : String) (outcome : Except Exc Json)
    (hop : l.operations[i]? = some op) :
    (l.settle t id outcome).operations[i]?
      = some (if t = op.target ∧ id = op.id then op.settle outcome else op) := by
  -- an operation that is not in its table has no pending future to settle
  have hout : (l.table op.target).lookup op.id ≠ some i → op.settle outcome = op := fun hne =>
    ExecutorOperation.settle_of_ne_pending (fun hp => hne (hw.registered hop (Or.inr hp))) _
  by_cases hk : t = op.target ∧ id = op.id
  · obtain ⟨rfl, rfl⟩ := hk
    rw [if_pos ⟨rfl, rfl⟩, settle]
    split
    · rename_i hnone
      rw [hout (by simp [hnone]), hop]
    · rename_i j hj
      rw [getElem?_update]
      split
      · simp [hop]
      · rename_i hne
        rw [hout (by simpa [hj] using hne), hop]
  · rw [if_neg hk, settle]
    split
    · exact hop
    · rename_i j hj
      rw [getElem?_update, if_neg, hop]
      rintro rfl
      obtain ⟨op', hop', ht, hid⟩ := hw.named hj
      obtain rfl := Option.some.inj (hop.symm.trans hop')
      exact hk ⟨ht.symm, hid.symm⟩

lemma mem_pending (hw : Wf l) (hop : l.operations[i]? = some op) (hp : op.future = .pending) :
    i ∈ OrderedDict.values l.pendingRequests ++ OrderedDict.values l.pendingExecutions := by
  have hl := hw.registered hop (Or.inr hp)
  rw [List.mem_append, OrderedDict.mem_values, OrderedDict.mem_values]
  cases ht : op.target with
  | request => exact Or.inl ⟨op.id, by rwa [ht] at hl⟩
  | execution => exact Or.inr ⟨op.id, by rwa [ht] at hl⟩

lemma getElem?_failPending (hw : Wf l) (exc : Exc) (hop : l.operations[i]? = some op) :
    (l.failPending exc).operations[i]? = some (op.settle (.error exc)) := by
  rw [failPending, getElem?_foldl_settle]
  split
  · simp [hop]
  · rename_i hni
    rw [hop, ExecutorOperation.settle_of_ne_pending fun hp => hni (mem_pending hw hop hp)]

lemma getElem?_detach (hw : Wf l) (adapter : Option ℕ) (hop : l.operations[i]? = some op) :
    (l.detach adapter).operations[i]? = some (op.after l i (.detach adapter)) := by
  unfold detach
  simp only [ExecutorOperation.after]
  split
  · exact getElem?_failPending (l := { l with transport := none })
      (hw.congr rfl fun t => by cases t <;> rfl) _ hop
  · exact hop

/-- **Every operation evolves by itself.** An event changes each operation as `after` says. -/
theorem getElem?_step (hw : Wf l) (h : l.step ε = some l') (hop : l.operations[i]? = some op) :
    l'.operations[i]? = some (op.after l i ε) := by
  cases ε with
  -- a new operation goes to the end
  | register t id request resume =>
    obtain ⟨-, rfl⟩ := step_register h
    have hi : i < l.operations.length := (List.getElem?_eq_some_iff.mp hop).1
    show (l.operations ++ [_])[i]? = _
    rw [List.getElem?_append_left hi, hop]
    rfl
  -- an await is that of one operation, which may be this one
  | acquire j =>
    obtain ⟨op', -, -, -, rfl⟩ := step_acquire h
    rw [getElem?_update]
    simp only [ExecutorOperation.after]
    split <;> simp [hop]
  | sent j outcome =>
    obtain ⟨op', -, -, rfl⟩ := step_sent h
    rw [getElem?_update]
    simp only [ExecutorOperation.after]
    split <;> simp [hop]
  | settle t id outcome =>
    obtain rfl := Option.some.inj h
    exact getElem?_settle hw t id outcome hop
  | resume j =>
    obtain ⟨op', outcome, -, -, -, rfl⟩ := step_resume h
    rw [getElem?_update, operations_unregister]
    simp only [ExecutorOperation.after]
    split <;> simp [hop]
  | expire timeout j outer =>
    obtain ⟨op', -, ⟨-, -, rfl⟩ | ⟨-, lock, rfl⟩⟩ := step_expire h
    · rw [getElem?_update, operations_unregister]
      simp only [ExecutorOperation.after]
      split <;> simp [hop]
    · rw [getElem?_update]
      simp only [ExecutorOperation.after]
      split <;> simp [hop]
  | attach adapter =>
    obtain rfl := Option.some.inj h
    exact hop
  | detach adapter =>
    obtain rfl := Option.some.inj h
    exact getElem?_detach hw adapter hop
  | stop =>
    obtain rfl := Option.some.inj h
    exact hop

lemma operations_of_started {new : ExecutorOperation} (h : l.step ε = some l')
    (hs : ε.started = some new) : l'.operations = l.operations ++ [new] := by
  cases ε with
  | register t id request resume =>
    obtain ⟨-, rfl⟩ := step_register h
    rw [← Option.some.inj hs]
    rfl
  | _ => cases hs

lemma length_of_not_started (h : l.step ε = some l') (hs : ε.started = none) :
    l'.operations.length = l.operations.length := by
  cases ε with
  | register t id request resume => cases hs
  | acquire j =>
    obtain ⟨op', -, -, -, rfl⟩ := step_acquire h
    exact length_update _ _ _
  | sent j outcome =>
    obtain ⟨op', -, -, rfl⟩ := step_sent h
    exact length_update _ _ _
  | settle t id outcome =>
    obtain rfl := Option.some.inj h
    exact length_settle _ _ _ _
  | resume j =>
    obtain ⟨op', outcome, -, -, -, rfl⟩ := step_resume h
    rw [length_update, operations_unregister]
  | expire timeout j outer =>
    obtain ⟨op', -, ⟨-, -, rfl⟩ | ⟨-, lock, rfl⟩⟩ := step_expire h
    · rw [length_update, operations_unregister]
    · exact length_update _ _ _
  | attach adapter =>
    obtain rfl := Option.some.inj h
    rfl
  | detach adapter =>
    obtain rfl := Option.some.inj h
    exact length_detach _ _
  | stop =>
    obtain rfl := Option.some.inj h
    rfl

lemma getElem?_step_inv (hw : Wf l) (h : l.step ε = some l') {op' : ExecutorOperation}
    (hop' : l'.operations[i]? = some op') :
    (∃ op, l.operations[i]? = some op ∧ op' = op.after l i ε) ∨
      (ε.started = some op' ∧ i = l.operations.length) := by
  cases hop : l.operations[i]? with
  | some op =>
    have hstep := getElem?_step hw h hop
    exact Or.inl ⟨op, rfl, Option.some.inj (hop'.symm.trans hstep)⟩
  | none =>
    have hge : l.operations.length ≤ i := List.getElem?_eq_none_iff.mp hop
    have hlt : i < l'.operations.length := (List.getElem?_eq_some_iff.mp hop').1
    cases hs : ε.started with
    | none =>
      have := length_of_not_started h hs
      omega
    | some new =>
      have hops := operations_of_started h hs
      rw [hops, List.length_append, List.length_singleton] at hlt
      have hi : i = l.operations.length := by omega
      rw [hops, List.getElem?_append_right hge, hi] at hop'
      simp only [Nat.sub_self, List.getElem?_cons_zero, Option.some.injEq] at hop'
      exact Or.inr ⟨by rw [hop'], hi⟩

lemma sameCall_after (op : ExecutorOperation) (l : ExecutorLink) (i : ℕ) (ε : LinkEvent) :
    op.SameCall (op.after l i ε) := by
  cases ε <;> simp only [ExecutorOperation.after] <;> (try split)
  all_goals
    first
    | exact .refl op
    | exact ExecutorOperation.sameCall_acquired _ _
    | exact ExecutorOperation.sameCall_sent _ _
    | exact ExecutorOperation.sameCall_settle _ _
    | exact ExecutorOperation.sameCall_resumed _
    | exact ExecutorOperation.sameCall_expired _ _ _

lemma after_of_spared (hε : ¬ ε.Concerns l i op) : op.after l i ε = op := by
  cases ε with
  | register t id request resume => rfl
  | attach adapter => rfl
  | stop => rfl
  | _ => exact if_neg hε

lemma expired_of_unsent {timeout : Exc} (outer : Bool)
    (hp : op.phase = .acquiring ∨ op.phase = .sending) :
    op.expired timeout outer = { op with phase := .ended (.error timeout) } := by
  rcases hp with hp | hp <;> rw [ExecutorOperation.expired, hp]

/-- **What an event does to an operation**, case by case. -/
theorem turn_after (h : l.step ε = some l') (hop : l.operations[i]? = some op) :
    op.Turn l i ε (op.after l i ε) := by
  -- an event that is not about the operation spares it
  by_cases hε : ε.Concerns l i op
  case neg =>
    rw [after_of_spared hε]
    exact .spared hε
  cases ε with
  | acquire j =>
    obtain rfl : j = i := hε
    obtain ⟨op', hop', hp, -⟩ := step_acquire h
    obtain rfl := Option.some.inj (hop.symm.trans hop')
    rw [ExecutorOperation.after, if_pos rfl]
    cases ht : l.transport with
    | none => exact .unattached hp ht
    | some t => exact .acquired t hp ht
  | sent j outcome =>
    obtain rfl : j = i := hε
    obtain ⟨op', hop', hp, -⟩ := step_sent h
    obtain rfl := Option.some.inj (hop.symm.trans hop')
    rw [ExecutorOperation.after, if_pos rfl]
    cases outcome with
    | ok u => exact .sent hp
    | error e => exact .unsent e hp
  | settle t id outcome =>
    obtain ⟨rfl, rfl⟩ := hε
    rw [ExecutorOperation.after, if_pos ⟨rfl, rfl⟩]
    exact .settled outcome
  | resume j =>
    obtain rfl : j = i := hε
    obtain ⟨op', outcome, hop', hp, hf, -⟩ := step_resume h
    obtain rfl := Option.some.inj (hop.symm.trans hop')
    have hresumed : op.resumed = { op with phase := .ended (op.resume outcome) } := by
      simp only [ExecutorOperation.resumed, hf]
    rw [ExecutorOperation.after, if_pos rfl, hresumed]
    exact .resumed outcome hp hf
  | expire timeout j outer =>
    obtain rfl : j = i := hε
    obtain ⟨op', hop', hcases⟩ := step_expire h
    obtain rfl := Option.some.inj (hop.symm.trans hop')
    rw [ExecutorOperation.after, if_pos rfl]
    -- a wait for the answer times out; one for the lock or the send is cancelled
    rcases hcases with ⟨hp, hf, -⟩ | ⟨hp, -⟩
    · rw [ExecutorOperation.expired, hp]
      exact .timedOut timeout outer hp hf
    · rw [expired_of_unsent outer hp]
      exact .cancelled timeout outer hp
  | detach adapter =>
    have ha : adapter = none ∨ l.transport = adapter := hε
    rw [ExecutorOperation.after, if_pos ha]
    exact .detached adapter ha
  | register t id request resume => exact hε.elim
  | attach adapter => exact hε.elim
  | stop => exact hε.elim

lemma running_of_actor (h : l.step ε = some l') (ha : ε.actor = some i) :
    ∃ op, l.operations[i]? = some op ∧ op.Running := by
  have hrun : ∀ {op : ExecutorOperation} {p : Phase}, op.phase = p → (∀ a, p ≠ .ended a) →
      op.Running := by
    rintro op p rfl hp
    exact hp
  cases ε with
  | acquire j =>
    obtain rfl := Option.some.inj ha
    obtain ⟨op, hop, hp, -⟩ := step_acquire h
    exact ⟨op, hop, hrun hp (by simp)⟩
  | sent j outcome =>
    obtain rfl := Option.some.inj ha
    obtain ⟨op, hop, hp, -⟩ := step_sent h
    exact ⟨op, hop, hrun hp (by simp)⟩
  | resume j =>
    obtain rfl := Option.some.inj ha
    obtain ⟨op, outcome, hop, hp, -⟩ := step_resume h
    exact ⟨op, hop, hrun hp (by simp)⟩
  | expire timeout j outer =>
    obtain rfl := Option.some.inj ha
    obtain ⟨op, hop, ⟨hp, -⟩ | ⟨hp | hp, -⟩⟩ := step_expire h <;>
      exact ⟨op, hop, hrun hp (by simp)⟩
  | _ => cases ha

lemma after_of_actor_ne {j : ℕ} (ha : ε.actor = some j) (hne : j ≠ i) : op.after l i ε = op := by
  cases ε with
  | acquire j => exact if_neg (Option.some.inj ha ▸ hne)
  | sent j outcome => exact if_neg (Option.some.inj ha ▸ hne)
  | resume j => exact if_neg (Option.some.inj ha ▸ hne)
  | expire timeout j outer => exact if_neg (Option.some.inj ha ▸ hne)
  | _ => cases ha

lemma live_of_turn {op' : ExecutorOperation} (ht : op.Turn l i ε op') (hl : op'.Live) :
    op.Live := by
  have hrun : ∀ {p : Phase}, op.phase = p → (∀ a, p ≠ .ended a) → op.Live := by
    rintro p rfl hp
    exact Or.inl hp
  have hsettle : ∀ outcome, (op.settle outcome).Live → op.Live := by
    rintro outcome (hr | hp)
    · exact Or.inl fun a ha => hr a (by rw [ExecutorOperation.phase_settle, ha])
    · by_contra hno
      rw [ExecutorOperation.settle_of_ne_pending fun hp' => hno (Or.inr hp')] at hp
      exact hno (Or.inr hp)
  cases ht with
  | spared hε => exact hl
  | settled outcome => exact hsettle outcome hl
  | detached adapter ha => exact hsettle _ hl
  | unattached hp ht => exact hrun hp (by simp)
  | acquired t hp ht => exact hrun hp (by simp)
  | sent hp => exact hrun hp (by simp)
  | unsent e hp => exact hrun hp (by simp)
  | resumed outcome hp hf => exact hrun hp (by simp)
  | timedOut timeout outer hp hf => exact hrun hp (by simp)
  | cancelled timeout outer hp => rcases hp with hp | hp <;> exact hrun hp (by simp)

/-! ### What an event does to the tables -/

lemma lookup_step_started {new : ExecutorOperation} (h : l.step ε = some l')
    (hs : ε.started = some new) (t : Target) (id : String) :
    (l'.table t).lookup id =
      if t = new.target ∧ id = new.id then some l.operations.length
      else (l.table t).lookup id := by
  cases ε with
  | register t' id' request resume =>
    obtain ⟨-, rfl⟩ := step_register h
    rw [← Option.some.inj hs]
    exact lookup_table_register _ _ _ _
  | _ => cases hs

lemma unregistered_spec {out : ExecutorOperation} (h : l.step ε = some l')
    (hu : ε.unregistered l = some out) :
    ∃ j, l.operations[j]? = some out ∧ ¬ (out.after l j ε).Live ∧ ∀ t id,
      (l'.table t).lookup id =
        if t = out.target ∧ id = out.id then none else (l.table t).lookup id := by
  cases ε with
  | resume j =>
    obtain ⟨op, outcome, hop, hp, hf, rfl⟩ := step_resume h
    obtain rfl := Option.some.inj (hop.symm.trans hu)
    refine ⟨j, hop, ?_, fun t id => ?_⟩
    · simp only [ExecutorOperation.after, if_true, ExecutorOperation.resumed, hf]
      rintro (hr | hpend)
      · exact hr _ rfl
      · cases hpend
    · rw [table_update]
      exact lookup_table_unregister _ _ _ _
  | expire timeout j outer =>
    obtain ⟨op, hop, ⟨hp, hf, rfl⟩ | ⟨hp, lock, rfl⟩⟩ := step_expire h
    · rw [LinkEvent.unregistered, hop, Option.filter_some, ExecutorOperation.isWaiting, hp] at hu
      obtain rfl := Option.some.inj hu
      refine ⟨j, hop, ?_, fun t id => ?_⟩
      · simp only [ExecutorOperation.after, if_true, ExecutorOperation.expired, hp]
        rintro (hr | hpend)
        · exact hr _ rfl
        · cases hpend
      · rw [table_update]
        exact lookup_table_unregister _ _ _ _
    · rw [LinkEvent.unregistered, hop, Option.filter_some, ExecutorOperation.isWaiting] at hu
      rcases hp with hp | hp <;> (rw [hp] at hu; exact nomatch hu)
  | _ => cases hu

lemma table_step_frame (h : l.step ε = some l') (hs : ε.started = none)
    (hu : ε.unregistered l = none) (t : Target) : l'.table t = l.table t := by
  cases ε with
  | register t id request resume => cases hs
  | acquire j =>
    obtain ⟨op, -, -, -, rfl⟩ := step_acquire h
    exact (table_update _ _ _ _).trans (by cases t <;> rfl)
  | sent j outcome =>
    obtain ⟨op, -, -, rfl⟩ := step_sent h
    exact (table_update _ _ _ _).trans (by cases t <;> rfl)
  | settle t' id outcome =>
    obtain rfl := Option.some.inj h
    exact table_settle _ _ _ _ _
  | resume j =>
    obtain ⟨op, outcome, hop, -⟩ := step_resume h
    exact nomatch hop.symm.trans hu
  | expire timeout j outer =>
    obtain ⟨op, hop, ⟨hp, hf, rfl⟩ | ⟨hp, lock, rfl⟩⟩ := step_expire h
    · rw [LinkEvent.unregistered, hop, Option.filter_some, ExecutorOperation.isWaiting, hp] at hu
      cases hu
    · exact (table_update _ _ _ _).trans (by cases t <;> rfl)
  | attach adapter =>
    obtain rfl := Option.some.inj h
    cases t <;> rfl
  | detach adapter =>
    obtain rfl := Option.some.inj h
    exact table_detach _ _ _
  | stop =>
    obtain rfl := Option.some.inj h
    cases t <;> rfl

/-- **Well-formedness lasts.** -/
theorem Wf.step (hw : Wf l) (h : l.step ε = some l') : Wf l' := by
  have htarget : ∀ (op : ExecutorOperation) i, (op.after l i ε).target = op.target :=
    fun op i => (sameCall_after op l i ε).target
  have hid : ∀ (op : ExecutorOperation) i, (op.after l i ε).id = op.id :=
    fun op i => (sameCall_after op l i ε).id
  -- what a table names is still there, under its own target and id
  have hold : ∀ {t id i}, (l.table t).lookup id = some i →
      ∃ op, l'.operations[i]? = some op ∧ op.target = t ∧ op.id = id := by
    intro t id i hi
    obtain ⟨op, hop, ht, hid'⟩ := hw.named hi
    exact ⟨_, getElem?_step hw h hop, (htarget op i).trans ht, (hid op i).trans hid'⟩
  -- an operation that starts has an id that none of its target has
  have hnew : ∀ {new : ExecutorOperation}, ε.started = some new →
      ∀ {j : ℕ} {op : ExecutorOperation}, l.operations[j]? = some op →
        op.target = new.target → op.id ≠ new.id := by
    intro new hs j op hop ht
    cases ε with
    | register t id request resume =>
      obtain ⟨hf, -⟩ := step_register h
      rw [← Option.some.inj hs] at ht ⊢
      exact hf op (List.mem_of_getElem? hop) ht
    | _ => cases hs
  refine ⟨?_, ?_, ?_⟩
  -- `named`: the tables change where an operation starts or is taken out
  · intro t id i hi
    cases hs : ε.started with
    | some new =>
      rw [lookup_step_started h hs] at hi
      split at hi
      · rename_i hk
        obtain rfl := Option.some.inj hi
        rw [operations_of_started h hs]
        exact ⟨new, by simp, hk.1.symm, hk.2.symm⟩
      · exact hold hi
    | none =>
      cases hu : ε.unregistered l with
      | some out =>
        obtain ⟨-, -, -, ht⟩ := unregistered_spec h hu
        rw [ht] at hi
        split at hi
        · cases hi
        · exact hold hi
      | none =>
        rw [table_step_frame h hs hu] at hi
        exact hold hi
  -- `distinct`: each of the two was there, or is the one that starts
  · intro i j op op' hop hop' ht hid'
    rcases getElem?_step_inv hw h hop with ⟨o, ho, rfl⟩ | ⟨hs, hi⟩
    · rcases getElem?_step_inv hw h hop' with ⟨o', ho', rfl⟩ | ⟨hs', hj⟩
      · rw [htarget, htarget] at ht
        rw [hid, hid] at hid'
        exact hw.distinct ho ho' ht hid'
      · rw [htarget] at ht
        rw [hid] at hid'
        exact absurd hid' (hnew hs' ho ht)
    · rcases getElem?_step_inv hw h hop' with ⟨o', ho', rfl⟩ | ⟨hs', hj⟩
      · rw [htarget] at ht
        rw [hid] at hid'
        exact absurd hid'.symm (hnew hs ho' ht.symm)
      · exact hi.trans hj.symm
  -- `registered`: what is taken out of a table is live no more
  · intro i op' hop' hl
    rcases getElem?_step_inv hw h hop' with ⟨op, hop, rfl⟩ | ⟨hs, rfl⟩
    · have hreg := hw.registered hop (live_of_turn (turn_after h hop) hl)
      rw [htarget, hid]
      cases hs : ε.started with
      | some new =>
        rw [lookup_step_started h hs, if_neg fun hk => hnew hs hop hk.1 hk.2]
        exact hreg
      | none =>
        cases hu : ε.unregistered l with
        | some out =>
          obtain ⟨j, hj, hdead, ht⟩ := unregistered_spec h hu
          rw [ht, if_neg, hreg]
          rintro ⟨ht', hid'⟩
          obtain rfl := hw.distinct hop hj ht' hid'
          obtain rfl := Option.some.inj (hop.symm.trans hj)
          exact hdead hl
        | none =>
          rw [table_step_frame h hs hu]
          exact hreg
    · rw [lookup_step_started h hs, if_pos ⟨rfl, rfl⟩]

end ExecutorLink

end NaiaRelay.Runtime
