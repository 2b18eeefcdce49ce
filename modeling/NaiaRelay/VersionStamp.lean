import NaiaRelay.Lib.OpLog
import NaiaRelay.TepEffect

set_option autoImplicit false

/-!
The revision as a version stamp: over any messages of the executor it counts the individual
insertions and removals, and the entries are the replay of these, so that two points of a run
with the same revision have the same entries.
-/

namespace NaiaRelay.Registry

/-! ### Replaying a log -/

/-- What a mutation is to the table of one kind. -/
def Mutation.op (k : Kind) : Mutation → Option (OpLog.Op String k.Definition)
  | register k' d =>
    if h : k' = k then some (.insert (k'.key d) (h ▸ d)) else none
  | deregister k' name => if k' = k then some (.remove name) else none

@[simp] lemma Mutation.op_register (k : Kind) (d : k.Definition) :
    (Mutation.register k d).op k = some (.insert (k.key d) d) := dif_pos rfl

@[simp] lemma Mutation.op_deregister (k : Kind) (name : String) :
    (Mutation.deregister k name).op k = some (.remove name) := if_pos rfl

lemma Mutation.op_register_of_ne {k k' : Kind} (d : k.Definition) (h : k ≠ k') :
    (Mutation.register k d).op k' = none := dif_neg h

lemma Mutation.op_deregister_of_ne {k k' : Kind} (name : String) (h : k ≠ k') :
    (Mutation.deregister k name).op k' = none := if_neg h

lemma Mutation.op_eq_insert {k : Kind} {m : Mutation} {name : String} {d : k.Definition} :
    m.op k = some (.insert name d) ↔ m = .register k d ∧ k.key d = name := by
  cases m with
  | register k' d' =>
    by_cases h : k' = k
    · subst h
      rw [op_register, Option.some.injEq, OpLog.Op.insert.injEq]
      constructor
      · rintro ⟨rfl, rfl⟩
        exact ⟨rfl, rfl⟩
      · rintro ⟨h, rfl⟩
        injection h with _ h
        exact ⟨congrArg k'.key h, h⟩
    · rw [op_register_of_ne d' h]
      refine iff_of_false (fun hx => nomatch hx) ?_
      rintro ⟨hx, -⟩
      injection hx with hx _
      exact h hx
  | deregister k' name' =>
    by_cases h : k' = k
    · subst h
      rw [op_deregister]
      exact iff_of_false (fun hx => nomatch hx) fun hx => nomatch hx.1
    · rw [op_deregister_of_ne name' h]
      exact iff_of_false (fun hx => nomatch hx) fun hx => nomatch hx.1

/-- Each table holds what is live at the end of the log: the definitions registered and not
removed since, each once under its own name, in the order of their registration. -/
def Replays (t : Tables) (log : List Mutation) : Prop :=
  ∀ k, OpLog.Holds (t.table k).dict (log.filterMap (Mutation.op k))

/-- A mutation that inserts or removes under this name. -/
def Mutation.Concerns (k : Kind) (name : String) (m : Mutation) : Prop :=
  (m.op k).map OpLog.Op.key = some name

/-- The definition last inserted under a name and not removed since. -/
def LastInserted (log : List Mutation) (k : Kind) (name : String) (d : k.Definition) : Prop :=
  ∃ pre post, log = pre ++ .register k d :: post ∧ k.key d = name ∧
    ∀ m ∈ post, ¬ m.Concerns k name

lemma replays_empty : Replays {} [] := by
  intro k
  cases k <;> exact OpLog.holds_empty

lemma mem_live_iff_lastInserted {log : List Mutation} {k : Kind} {name : String}
    {d : k.Definition} :
    (name, d) ∈ OpLog.live (log.filterMap (Mutation.op k)) ↔ LastInserted log k name d := by
  have hconcerns : ∀ post : List Mutation,
      name ∉ (post.filterMap (Mutation.op k)).map OpLog.Op.key ↔
        ∀ m ∈ post, ¬ m.Concerns k name := by
    intro post
    rw [List.map_filterMap, List.mem_filterMap]
    exact ⟨fun h m hm hc => h ⟨m, hm, hc⟩, fun h ⟨m, hm, hc⟩ => h m hm hc⟩
  rw [OpLog.mem_live]
  constructor
  · rintro ⟨pre, post, hlog, hno⟩
    obtain ⟨l₁, l₂, rfl, -, hl₂⟩ := List.filterMap_eq_append_iff.mp hlog
    obtain ⟨l₃, m, l₄, rfl, -, hm, rfl⟩ := List.filterMap_eq_cons_iff.mp hl₂
    obtain ⟨rfl, rfl⟩ := Mutation.op_eq_insert.mp hm
    exact ⟨l₁ ++ l₃, l₄, by simp, rfl, (hconcerns l₄).mp hno⟩
  · rintro ⟨pre, post, rfl, rfl, hno⟩
    refine ⟨pre.filterMap (Mutation.op k), post.filterMap (Mutation.op k), ?_,
      (hconcerns post).mpr hno⟩
    rw [List.filterMap_append, List.filterMap_cons_some (Mutation.op_register k d)]

lemma Replays.get_eq_some {t : Tables} {log : List Mutation} (h : Replays t log) {k : Kind}
    {name : String} {d : k.Definition} :
    (t.table k).get name = some d ↔ LastInserted log k name d := by
  rw [← mem_live_iff_lastInserted]
  exact (h k).lookup_eq_some

lemma Replays.unique {t t' : Tables} {log : List Mutation} (h : Replays t log)
    (h' : Replays t' log) : t = t' := by
  have htable : ∀ k, t.table k = t'.table k := fun k =>
    Table.ext (AList.ext ((h k).trans (h' k).symm))
  exact Tables.ext (htable .tool) (htable .resource) (htable .prompt)

lemma Replays.apply {t t' : Tables} {log : List Mutation} {m : Mutation} (h : Replays t log)
    (hm : t.apply m = some t') : Replays t' (log ++ [m]) := by
  intro k
  rw [List.filterMap_append]
  cases m with
  | register k' d =>
    obtain ⟨hnew, rfl⟩ := Tables.apply_register_eq_some.mp hm
    by_cases hk : k = k'
    · subst hk
      rw [Tables.table_setTable_self, List.filterMap_cons_some (Mutation.op_register k d)]
      have hput : ((t.table k).put d).dict = (t.table k).dict.push (k.key d) d hnew :=
        OrderedDict.set_of_notMem d hnew
      rw [hput]
      exact (h k).push hnew
    · rw [Tables.table_setTable_ne _ _ hk,
        List.filterMap_cons_none (Mutation.op_register_of_ne d fun e => hk e.symm)]
      simpa using h k
  | deregister k' name =>
    obtain ⟨-, rfl⟩ := Tables.apply_deregister_eq_some.mp hm
    by_cases hk : k = k'
    · subst hk
      rw [Tables.table_setTable_self, List.filterMap_cons_some (Mutation.op_deregister k name)]
      exact (h k).pop name
    · rw [Tables.table_setTable_ne _ _ hk,
        List.filterMap_cons_none (Mutation.op_deregister_of_ne name fun e => hk e.symm)]
      simpa using h k

lemma Replays.forEach {s s' : RegistryStore} {log l : List Mutation} (h : Replays s.toTables log)
    (hl : Batch.forEach RegistryStore.mutate s l = (.ok (), s')) :
    Replays s'.toTables (log ++ l) := by
  induction l generalizing s log with
  | nil =>
    obtain rfl : s = s' := by simpa using hl
    simpa using h
  | cons m l ih =>
    cases hm : s.mutate m with
    | error e =>
      rw [Batch.forEach_cons_error l hm] at hl
      simp at hl
    | ok t =>
      rw [Batch.forEach_cons_ok l hm] at hl
      have ht : Replays t.toTables (log ++ [m]) := h.apply (RegistryStore.apply_of_mutate hm)
      have hrest := ih ht hl
      rwa [List.append_assoc] at hrest

end NaiaRelay.Registry

namespace NaiaRelay.Tep

open NaiaRelay.Registry

variable (P : Platform)

/-! ### Runs of messages -/

/-- A message handed to a handler, with or without the guard that answers for its errors. -/
structure TepCall where
  callbacks : TEPCallbacks := {}
  newMessageId : String
  message : Obj
  guarded : Bool := false

def TEPHandler.handle (h : TEPHandler) (x : TepCall) : Except Exc Obj × TEPHandler :=
  if x.guarded then h.handleMessageOrError P x.callbacks x.newMessageId x.message
  else h.handleMessage P x.callbacks x.newMessageId x.message

/-- The handler after some messages, whatever became of each. -/
def TEPHandler.afterCalls (h : TEPHandler) (calls : List TepCall) : TEPHandler :=
  calls.foldl (fun h x => (h.handle P x).2) h

/-- The insertions and removals a message performs, which may be fewer than it asks for. -/
def performed (registry : RegistryStore) (message : Obj) : List Mutation :=
  Batch.accepted RegistryStore.mutate registry (mutations P message)

/-- The insertions and removals some messages perform, one after the other. -/
def TEPHandler.changes (h : TEPHandler) : List TepCall → List Mutation
  | [] => []
  | x :: calls => performed P h.registry x.message ++ changes (h.handle P x).2 calls

variable {P}

lemma TEPHandler.registry_handle (h : TEPHandler) (x : TepCall) :
    (h.handle P x).2.registry = afterMutations h.registry (mutations P x.message) := by
  unfold TEPHandler.handle
  split
  · rw [handleMessageOrError_snd, handleMessage_registry]
  · rw [handleMessage_registry]

lemma TEPHandler.forEach_changes (h : TEPHandler) (calls : List TepCall) :
    Batch.forEach RegistryStore.mutate h.registry (h.changes P calls)
      = (.ok (), (h.afterCalls P calls).registry) := by
  induction calls generalizing h with
  | nil => rfl
  | cons x calls ih =>
    have hx : Batch.forEach RegistryStore.mutate h.registry (performed P h.registry x.message)
        = (.ok (), (h.handle P x).2.registry) := by
      rw [registry_handle]
      exact Batch.forEach_accepted h.registry (mutations P x.message)
    rw [changes, Batch.forEach_append _ hx, ih]
    rfl

/-- **The revision is a faithful version stamp.** Between any two points of any run from an
empty registry, it grows by the number of insertions and removals the store has accepted. The
entries are the replay of all of these, and where the revision is the same, so are they. -/
theorem faithful_version_stamp (P : Platform) (records : TEPRecords)
    (calls calls' : List TepCall) :
    let start : TEPHandler := { registry := {}, records }
    let h := start.afterCalls P calls
    let h' := h.afterCalls P calls'
    let log := start.changes P calls ++ h.changes P calls'
    Batch.forEach RegistryStore.mutate h.registry (h.changes P calls') = (.ok (), h'.registry) ∧
      h.registry.revision ≤ h'.registry.revision ∧
      h'.registry.revision = h.registry.revision + (h.changes P calls').length ∧
      Replays h'.registry.toTables log ∧
      (∀ k name d, (h'.registry.table k).get name = some d ↔ LastInserted log k name d) ∧
      (h'.registry.revision = h.registry.revision →
        h'.registry.toTables = h.registry.toTables) := by
  intro start h h' log
  have hchanges : Batch.forEach RegistryStore.mutate h.registry (h.changes P calls')
      = (.ok (), h'.registry) := h.forEach_changes calls'
  have hrevision := RegistryStore.revision_forEach_mutate hchanges
  have hreplay : Replays h.registry.toTables (start.changes P calls) :=
    Replays.forEach (s := start.registry) replays_empty (start.forEach_changes calls)
  have hreplay' : Replays h'.registry.toTables log := hreplay.forEach hchanges
  refine ⟨hchanges, by omega, hrevision, hreplay', fun k name d => hreplay'.get_eq_some, ?_⟩
  intro hsame
  have hnone : h.changes P calls' = [] := List.length_eq_zero_iff.mp (by omega)
  have hlog : log = start.changes P calls := by
    show _ ++ h.changes P calls' = _
    rw [hnone, List.append_nil]
  rw [hlog] at hreplay'
  exact hreplay'.unique hreplay

end NaiaRelay.Tep
