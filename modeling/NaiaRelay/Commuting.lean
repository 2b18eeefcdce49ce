import NaiaRelay.TepEffect

set_option autoImplicit false

/-!
Registrations of different entries commute.

A registration or a removal reads and writes one entry. Two messages that name different
entries therefore end the same way in either order, whether they succeed or stop half way,
and leave the same entries and the same revision.
-/

namespace NaiaRelay.Registry

/-- The entry a mutation is about. -/
def Mutation.target : Mutation → Kind × String
  | register k d => (k, k.key d)
  | deregister k name => (k, name)

namespace RegistryStore

/-- What the store holds under a kind and a name. -/
def entry (s : RegistryStore) (x : Kind × String) : Option x.1.Definition := (s.table x.1).get x.2

variable {s s' t : RegistryStore}

lemma entry_ne_target {k : Kind} {name : String} {x : Kind × String} {u : Table k}
    (hu : ∀ n, n ≠ name → u.get n = (s.table k).get n) (hx : x ≠ (k, name)) :
    (s.withTable k u).bumpRevision.entry x = s.entry x := by
  obtain ⟨k', n⟩ := x
  by_cases hk : k' = k
  · subst hk
    have hn : n ≠ name := fun h => hx (by rw [h])
    have htable : (s.withTable k' u).bumpRevision.table k' = u := table_withTable_self s k' u
    rw [entry, entry, htable]
    exact hu n hn
  · exact congrArg (Table.get · n) (Tables.table_setTable_ne s.toTables u hk)

lemma entry_target (s : RegistryStore) (k : Kind) (name : String) (u : Table k) :
    (s.withTable k u).bumpRevision.entry (k, name) = u.get name := by
  have htable : (s.withTable k u).bumpRevision.table k = u := table_withTable_self s k u
  exact congrArg (Table.get · name) htable

lemma mem_iff_of_entry {k : Kind} {name : String} (h : s.entry (k, name) = t.entry (k, name)) :
    name ∈ (s.table k).dict ↔ name ∈ (t.table k).dict := by
  have hget : (s.table k).get name = (t.table k).get name := h
  rw [Table.mem_iff_get, Table.mem_iff_get, hget]

/-- **A mutation is local** to the entry it is about. -/
theorem local_mutate : Batch.Local mutate Mutation.target entry where
  frame := by
    intro s s' m h x hx
    cases m with
    | register k d =>
      obtain ⟨-, rfl⟩ := mutate_register_eq_ok.mp h
      exact entry_ne_target (fun n hn => by rw [Table.get_put, if_neg hn]) hx
    | deregister k name =>
      obtain ⟨-, rfl⟩ := mutate_deregister_eq_ok.mp h
      exact entry_ne_target (fun n hn => by rw [Table.get_pop, if_neg hn]) hx
  error := by
    intro s t m e h he
    cases m with
    | register k d =>
      obtain ⟨hmem, rfl⟩ := register_eq_error.mp he
      exact register_eq_error.mpr ⟨(mem_iff_of_entry h).mp hmem, rfl⟩
    | deregister k name =>
      obtain ⟨hmem, rfl⟩ := deregister_eq_error.mp he
      exact deregister_eq_error.mpr ⟨fun hin => hmem ((mem_iff_of_entry h).mpr hin), rfl⟩
  ok := by
    intro s t s' m h hs
    cases m with
    | register k d =>
      obtain ⟨hmem, rfl⟩ := mutate_register_eq_ok.mp hs
      refine ⟨_, mutate_register_eq_ok.mpr
        ⟨fun hin => hmem ((mem_iff_of_entry h).mpr hin), rfl⟩, ?_⟩
      show entry _ (k, k.key d) = entry _ (k, k.key d)
      rw [entry_target, entry_target, Table.get_put, Table.get_put, if_pos rfl, if_pos rfl]
    | deregister k name =>
      obtain ⟨hmem, rfl⟩ := mutate_deregister_eq_ok.mp hs
      refine ⟨_, mutate_deregister_eq_ok.mpr ⟨(mem_iff_of_entry h).mp hmem, rfl⟩, ?_⟩
      show entry _ (k, name) = entry _ (k, name)
      rw [entry_target, entry_target, Table.get_pop, Table.get_pop, if_pos rfl, if_pos rfl]

end RegistryStore

end NaiaRelay.Registry

namespace NaiaRelay.Tep

open NaiaRelay.Registry

variable (P : Platform)

/-- The items of a message that are applied to a registry, those before the first one
refused. -/
def applied (registry : RegistryStore) (message : Obj) : List Mutation :=
  Batch.accepted RegistryStore.mutate registry (mutations P message)

/-- The two messages concern different kinds of entry or different names. -/
def Independent (message message' : Obj) : Prop :=
  ∀ m ∈ mutations P message, ∀ m' ∈ mutations P message',
    m.target.1 ≠ m'.target.1 ∨ m.target.2 ≠ m'.target.2

variable {P} {callbacks : TEPCallbacks} {newMessageId : String}

lemma Independent.target_ne {message message' : Obj} (hi : Independent P message message') :
    ∀ m ∈ mutations P message, ∀ m' ∈ mutations P message', m.target ≠ m'.target := by
  intro m hm m' hm' h
  rcases hi m hm m' hm' with hk | hn
  · exact hk (by rw [h])
  · exact hn (by rw [h])

lemma Independent.symm {message message' : Obj} (hi : Independent P message message') :
    Independent P message' message :=
  fun m hm m' hm' => (hi m' hm' m hm).imp Ne.symm Ne.symm

lemma revision_afterMutations (registry : RegistryStore) (l : List Mutation) :
    (afterMutations registry l).revision
      = registry.revision + (Batch.accepted RegistryStore.mutate registry l).length :=
  RegistryStore.revision_forEach_mutate (Batch.forEach_accepted registry l)

lemma dispatch_fst_of_nil {envelope : TEPEnvelope} {payload : Payload}
    (hm : payload.mutations envelope.sessionId = []) (h h' : TEPHandler) :
    (h.dispatch callbacks newMessageId envelope payload).1
      = (h'.dispatch callbacks newMessageId envelope payload).1 := by
  cases payload with
  | registerTools p | deregisterTools p | registerResources p | deregisterResources p
  | registerPrompts p | deregisterPrompts p =>
    simp_all [Payload.mutations, TEPHandler.dispatch, TEPHandler.mutateEach]
  | executeTool p | readResource p | getPrompt p => simp only [TEPHandler.dispatch]; split <;> rfl
  | _ => rfl

lemma handleMessage_fst_of_mutations {message : Obj} {h h' : TEPHandler}
    (hb : (Batch.forEach RegistryStore.mutate h.registry (mutations P message)).1
      = (Batch.forEach RegistryStore.mutate h'.registry (mutations P message)).1) :
    (h.handleMessage P callbacks newMessageId message).1
      = (h'.handleMessage P callbacks newMessageId message).1 := by
  cases hp : parse P message with
  | none =>
    unfold parse at hp
    unfold TEPHandler.handleMessage
    cases hv : validateMessage message with
    | error e => rfl
    | ok envelope =>
      cases hc : messagePayloadModel P envelope.messageType with
      | none => simp only [hc]
      | some check =>
        cases hk : check (.obj envelope.payload) with
        | error e => simp only [hc, hk]
        | ok payload => simp [hv, hc, hk] at hp
  | some x =>
    obtain ⟨envelope, payload⟩ := x
    have hm : mutations P message = payload.mutations envelope.sessionId := by
      simp [mutations, hp]
    rw [hm] at hb
    rw [handleMessage_of_parse hp, handleMessage_of_parse hp]
    by_cases hnil : payload.mutations envelope.sessionId = []
    · exact dispatch_fst_of_nil hnil h h'
    · rcases dispatch_cases (h := h) envelope payload with ⟨hnil', -⟩ | hd
      · exact absurd hnil' hnil
      · rcases dispatch_cases (h := h') envelope payload with ⟨hnil', -⟩ | hd'
        · exact absurd hnil' hnil
        · rw [hd, hd', hb]

lemma handleMessage_after (callbacks : TEPCallbacks) (h : TEPHandler) {message message' : Obj}
    (hi : Independent P message message') (id id' : String) :
    ((h.handleMessage P callbacks id message).2.handleMessage P callbacks id' message').1
        = (h.handleMessage P callbacks id' message').1 ∧
      applied P (h.handleMessage P callbacks id message).2.registry message'
        = applied P h.registry message' := by
  obtain ⟨h1, hacc⟩ :=
    Batch.forEach_after RegistryStore.local_mutate h.registry hi.target_ne
  have hr : (h.handleMessage P callbacks id message).2.registry
      = afterMutations h.registry (mutations P message) := handleMessage_registry message
  refine ⟨handleMessage_fst_of_mutations ?_, ?_⟩
  · rw [hr]
    exact h1
  · rw [applied, hr]
    exact hacc

/-- **Messages about different entries commute.** In either order each of them ends the same
way, after the same items, and the registry holds the same entries at the same revision. -/
theorem handleMessage_comm (P : Platform) (callbacks : TEPCallbacks) (h : TEPHandler)
    (message message' : Obj) (id id' : String) (hi : Independent P message message') :
    let first := h.handleMessage P callbacks id message
    let second := first.2.handleMessage P callbacks id' message'
    let first' := h.handleMessage P callbacks id' message'
    let second' := first'.2.handleMessage P callbacks id message
    first.1 = second'.1 ∧ second.1 = first'.1 ∧
      applied P h.registry message = applied P first'.2.registry message ∧
      applied P first.2.registry message' = applied P h.registry message' ∧
      (∀ k name, (second.2.registry.table k).get name = (second'.2.registry.table k).get name) ∧
      second.2.registry.revision = second'.2.registry.revision ∧
      second.2.registry.revision = h.registry.revision + (applied P h.registry message).length
        + (applied P h.registry message').length := by
  intro first second first' second'
  obtain ⟨hout', happ'⟩ := handleMessage_after callbacks h hi id id'
  obtain ⟨hout, happ⟩ := handleMessage_after callbacks h hi.symm id' id
  have hrev : second.2.registry.revision = h.registry.revision
      + (applied P h.registry message).length + (applied P h.registry message').length := by
    rw [handleMessage_registry, revision_afterMutations]
    show first.2.registry.revision + ((applied P first.2.registry message').length : ℤ) = _
    rw [happ', handleMessage_registry, revision_afterMutations]
    rfl
  have hrev' : second'.2.registry.revision = h.registry.revision
      + (applied P h.registry message').length + (applied P h.registry message).length := by
    rw [handleMessage_registry, revision_afterMutations]
    show first'.2.registry.revision + ((applied P first'.2.registry message).length : ℤ) = _
    rw [happ, handleMessage_registry, revision_afterMutations]
    rfl
  refine ⟨hout.symm, hout', happ.symm, happ', fun k name => ?_, by rw [hrev, hrev']; omega, hrev⟩
  have hcomm := Batch.forEach_comm RegistryStore.local_mutate h.registry hi.target_ne (k, name)
  show second.2.registry.entry (k, name) = second'.2.registry.entry (k, name)
  rw [handleMessage_registry, handleMessage_registry, handleMessage_registry,
    handleMessage_registry]
  exact hcomm

/-- A message that removes the tool `b`. -/
def deregisterB : Obj :=
  [("protocol", .str "tep"), ("version", .str "1.0"), ("message_type", .str "deregister_tools"),
    ("message_id", .str "m3"), ("payload", .obj [("tool_names", .arr [.str "b"])])]

lemma independent_registerTwice : Independent .strict registerTwice deregisterB := by
  have hm : (mutations .strict registerTwice).map Mutation.target = [(.tool, "a"), (.tool, "a")] :=
    rfl
  have hm' : mutations .strict deregisterB = [.deregister .tool "b"] := rfl
  intro m hmem m' hmem'
  have ht : m.target ∈ (mutations .strict registerTwice).map Mutation.target :=
    List.mem_map_of_mem hmem
  rw [hm] at ht
  obtain rfl : m' = .deregister .tool "b" := by simpa [hm'] using hmem'
  have ha : m.target = (.tool, "a") := by simpa using ht
  exact Or.inr (by rw [ha]; decide)

/-- Both messages fail, the first one half way, and either order leaves the tool `a`. -/
theorem registerTwice_comm :
    let h : TEPHandler := { registry := {} }
    let first := h.handleMessage .strict {} "r1" registerTwice
    let second := first.2.handleMessage .strict {} "r2" deregisterB
    let first' := h.handleMessage .strict {} "r2" deregisterB
    let second' := first'.2.handleMessage .strict {} "r1" registerTwice
    first.1 = second'.1 ∧ second.1 = first'.1 ∧
      applied .strict h.registry registerTwice
        = applied .strict first'.2.registry registerTwice ∧
      applied .strict first.2.registry deregisterB = applied .strict h.registry deregisterB ∧
      (∀ k name, (second.2.registry.table k).get name = (second'.2.registry.table k).get name) ∧
      second.2.registry.revision = second'.2.registry.revision ∧
      second.2.registry.revision = h.registry.revision
        + (applied .strict h.registry registerTwice).length
        + (applied .strict h.registry deregisterB).length :=
  handleMessage_comm .strict {} { registry := {} } registerTwice deregisterB "r1" "r2"
    independent_registerTwice

end NaiaRelay.Tep
