import NaiaRelay.Mutation
import NaiaRelay.RlpHandler

set_option autoImplicit false

/-!
How a relay-link handler keeps its registry: what one incremental message or snapshot does to
it, and sequences of messages.
-/

namespace NaiaRelay.Rlp

open NaiaRelay.Pydantic NaiaRelay.Registry NaiaRelay.Tep

variable (P : Platform)

/-- A message's envelope and payload, if both pass. -/
def parse (message : Obj) : Option (RLPEnvelope × Payload) :=
  match validateMessage message with
  | .error _ => none
  | .ok envelope =>
    match messagePayloadModel P envelope.messageType with
    | none => none
    | some check =>
      match check (.obj envelope.payload) with
      | .error _ => none
      | .ok payload => some (envelope, payload)

/-- A message with the ids drawn while it is handled. -/
abbrev Delivery := NewIds × Obj

/-- Handling messages one after the other: the outcome of each and the handler it leaves. -/
def handleAll (h : RLPHandler) : List Delivery → List (Call × RLPHandler)
  | [] => []
  | d :: ds =>
    let x := h.handleMessage P d.1 d.2
    x :: handleAll x.2 ds

/-- The handler after some messages. -/
def afterAll (h : RLPHandler) (ds : List Delivery) : RLPHandler :=
  ds.foldl (fun h d => (h.handleMessage P d.1 d.2).2) h

/-- A call that has ended in a reply of this status. -/
def Answered (status : String) (call : Call) : Prop :=
  ∃ response, call = .done (.ok response) ∧ replyStatus response = some (.str status)

/-! ### What the messages carry -/

/-- A change of the host's entries. -/
inductive Change
  | mutation (m : Mutation)
  | update (k : Kind) (d : k.Definition)

namespace Change

/-- The host after a change: one revision on. `none` if the entry is there already, or is not
there to be updated or removed. -/
def effect (host : RegistryStore) : Change → Option RegistryStore
  | mutation m => (host.mutate m).toOption
  | update k d =>
    if k.key d ∈ (host.table k).dict then
      some (host.withTable k ((host.table k).put d)).bumpRevision
    else none

def kindName : Kind → String
  | .tool => "tool"
  | .resource => "resource"
  | .prompt => "prompt"

def messageType : Change → String
  | mutation (.register k _) => kindName k ++ "_added"
  | mutation (.deregister k _) => kindName k ++ "_removed"
  | update k _ => kindName k ++ "_updated"

/-- The payload of the message about a change: the entry without its owner, or its name. -/
def Describes (revision : ℤ) (payload : Payload) : Change → Prop
  | mutation (.register k d) | update k d =>
    ∃ entry, payload = .mutation k ⟨revision, entry⟩ ∧
      EntryPayload.definition k entry none = k.eraseOwner d
  | mutation (.deregister k name) => payload = .removed k ⟨revision, name⟩

def IsUpdate : Change → Prop
  | mutation _ => False
  | update _ _ => True

end Change

/-- The message is the incremental one about this change, leading to this revision. -/
def Carries (change : Change) (revision : ℤ) (message : Obj) : Prop :=
  ∃ envelope payload, parse P message = some (envelope, payload) ∧
    envelope.messageType = change.messageType ∧ change.Describes revision payload

/-- The message is a `tool_snapshot` of all of the host's entries. -/
def CarriesSnapshot (host : RegistryStore) (message : Obj) : Prop :=
  ∃ envelope payload, parse P message = some (envelope, .snapshot payload) ∧
    envelope.messageType = "tool_snapshot" ∧ payload.registryRevision = host.revision ∧
    payload.tools.map (·.definition none) = host.tools.values.map Kind.tool.eraseOwner ∧
    payload.resources.map (·.definition none)
      = host.resources.values.map Kind.resource.eraseOwner ∧
    payload.prompts.map (·.definition none) = host.prompts.values.map Kind.prompt.eraseOwner

/-- A tool with nothing but a name. -/
def bareTool (name : String) : ToolDefinition := { name, description := "", inputSchema := [] }

def bareToolPayload (name : String) : Obj :=
  [("name", .str name), ("description", .str ""), ("input_schema", .obj [])]

/-- A message with the fields every message needs. -/
def linkMessage (messageType : String) (payload : Obj) : Obj :=
  [("protocol", .str "rlp"), ("version", .str "1.0"), ("message_type", .str messageType),
    ("message_id", .str "m"), ("payload", .obj payload)]

variable {P} {ids : NewIds} {h : RLPHandler}

/-! ### One message -/

lemma parse_eq_some {message : Obj} {envelope : RLPEnvelope} {payload : Payload}
    (hp : parse P message = some (envelope, payload)) :
    validateMessage message = .ok envelope ∧ ∃ check,
      messagePayloadModel P envelope.messageType = some check ∧
        check (.obj envelope.payload) = .ok payload := by
  unfold parse at hp
  cases hv : validateMessage message with
  | error e => simp [hv] at hp
  | ok env =>
    cases hc : messagePayloadModel P env.messageType with
    | none => simp [hv, hc] at hp
    | some check =>
      cases hk : check (.obj env.payload) with
      | error e => simp [hv, hc, hk] at hp
      | ok p =>
        simp only [hv, hc, hk, Option.some.injEq, Prod.mk.injEq] at hp
        obtain ⟨rfl, rfl⟩ := hp
        exact ⟨rfl, check, hc, hk⟩

lemma handleMessage_of_parse {message : Obj} {envelope : RLPEnvelope} {payload : Payload}
    (hp : parse P message = some (envelope, payload)) :
    h.handleMessage P ids message = h.dispatch P ids envelope payload := by
  obtain ⟨hv, check, hc, hk⟩ := parse_eq_some hp
  unfold RLPHandler.handleMessage
  simp [hv, hc, hk]

lemma handleMessage_of_parse_none (ids : NewIds) {message : Obj} (hp : parse P message = none) :
    ∃ answer, h.handleMessage P ids message = (.done answer, h) := by
  unfold parse at hp
  unfold RLPHandler.handleMessage
  cases hv : validateMessage message with
  | error e => exact ⟨_, rfl⟩
  | ok env =>
    cases hc : messagePayloadModel P env.messageType with
    | none => exact ⟨_, by simp only [hc]; rfl⟩
    | some check =>
      cases hk : check (.obj env.payload) with
      | error e => exact ⟨_, by simp only [hc, hk]; rfl⟩
      | ok p => simp [hv, hc, hk] at hp

lemma answered_okResponse (r : RLPRecords) (envelope : RLPEnvelope) :
    Answered "ok" (.done (r.okResponse envelope ids)) :=
  ⟨_, rfl, rfl⟩

lemma applyIncremental_done (h : RLPHandler) (ids : NewIds) (envelope : RLPEnvelope)
    (revision : ℤ) (change : RegistryStore → Except Exc RegistryStore) :
    (∃ a, (h.applyIncremental ids envelope revision change).1 = .done a) ∧
      (h.applyIncremental ids envelope revision change).2.records = h.records := by
  unfold RLPHandler.applyIncremental
  split
  · exact ⟨⟨_, rfl⟩, rfl⟩
  · split <;> exact ⟨⟨_, rfl⟩, rfl⟩

lemma applyIncremental_gap {envelope : RLPEnvelope} {revision : ℤ}
    {change : RegistryStore → Except Exc RegistryStore}
    (hr : revision ≠ h.registry.revision + 1) :
    Answered "error" (h.applyIncremental ids envelope revision change).1 ∧
      (h.applyIncremental ids envelope revision change).2
        = { h with registry := h.registry.markStale } := by
  have hv : ∃ gap, h.validateIncrementalRevision ids revision
      = (some gap, h.registry.markStale) ∧ replyStatus gap = some (.str "error") := by
    rw [RLPHandler.validateIncrementalRevision, if_neg hr]
    exact ⟨_, rfl, rfl⟩
  obtain ⟨gap, hv, hs⟩ := hv
  simp only [RLPHandler.applyIncremental, hv]
  exact ⟨⟨gap, rfl, hs⟩, trivial⟩

lemma applyIncremental_next {envelope : RLPEnvelope} {revision : ℤ} {s : RegistryStore}
    {change : RegistryStore → Except Exc RegistryStore}
    (hr : revision = h.registry.revision + 1) (hc : change h.registry.markFresh = .ok s) :
    Answered "ok" (h.applyIncremental ids envelope revision change).1 ∧
      (h.applyIncremental ids envelope revision change).2 = { h with registry := s } := by
  have hv : h.validateIncrementalRevision ids revision = (none, h.registry.markFresh) := by
    rw [RLPHandler.validateIncrementalRevision, if_pos hr]
  simp only [RLPHandler.applyIncremental, hv, hc]
  exact ⟨answered_okResponse _ _, trivial⟩

variable {k : Kind} {s : RegistryStore} {entry : EntryPayload k}

lemma upsert_absent (hk : k.key (EntryPayload.definition k entry none) ∉ (s.table k).dict) :
    upsert k s entry = .ok
      (s.withTable k ((s.table k).put (EntryPayload.definition k entry none))).bumpRevision := by
  have hg : (s.table k).get (k.key (EntryPayload.definition k entry none)) = none :=
    Table.get_eq_none.mpr hk
  simp only [upsert, hg]
  exact RegistryStore.register_eq_ok.mpr ⟨hk, rfl⟩

lemma upsert_present (hk : k.key (EntryPayload.definition k entry none) ∈ (s.table k).dict) :
    let d := EntryPayload.definition k entry none
    upsert k s entry = .ok
      { toTables := s.toTables.setTable k (((s.table k).pop (k.key d)).put d)
        revision := s.revision + 2
        stale := false } := by
  intro d
  obtain ⟨d', hg⟩ := Table.mem_iff_get.mp hk
  have hde : RegistryStore.deregister k s (k.key d)
      = .ok (s.withTable k ((s.table k).pop (k.key d))).bumpRevision :=
    RegistryStore.deregister_eq_ok.mpr ⟨hk, rfl⟩
  have hre : RegistryStore.register k (s.withTable k ((s.table k).pop (k.key d))).bumpRevision d
      = .ok { toTables := s.toTables.setTable k (((s.table k).pop (k.key d)).put d)
              revision := s.revision + 2
              stale := false } := by
    refine RegistryStore.register_eq_ok.mpr ⟨by simp, ?_⟩
    refine RegistryStore.ext_store ?_ ?_ rfl
    · simp
    · simp only [RegistryStore.revision_bumpRevision, RegistryStore.revision_withTable]
      omega
  simp only [upsert]
  rw [hg]
  show RegistryStore.deregister k s (k.key d) >>= (RegistryStore.register k · d) = _
  rw [hde]
  exact hre

lemma handle_mutation {m : Mutation} {t : Tables} {message : Obj}
    (ht : h.registry.toTables.apply m.eraseOwner = some t)
    (hc : Carries P (.mutation m) (h.registry.revision + 1) message) :
    Answered "ok" (h.handleMessage P ids message).1 ∧
      (h.handleMessage P ids message).2 =
        { h with registry := { toTables := t, revision := h.registry.revision + 1 } } := by
  obtain ⟨envelope, payload, hp, -, hd⟩ := hc
  rw [handleMessage_of_parse hp]
  cases m with
  | register k d =>
    obtain ⟨entry, rfl, he⟩ := hd
    obtain ⟨hk, rfl⟩ := Tables.apply_register_eq_some.mp ht
    rw [← he] at hk ⊢
    exact applyIncremental_next rfl (upsert_absent hk)
  | deregister k name =>
    obtain rfl : payload = .removed k ⟨h.registry.revision + 1, name⟩ := hd
    obtain ⟨hk, rfl⟩ := Tables.apply_deregister_eq_some.mp ht
    exact applyIncremental_next rfl (RegistryStore.deregister_eq_ok.mpr ⟨hk, rfl⟩)

lemma handle_gap {change : Change} {revision : ℤ} {message : Obj}
    (hr : revision ≠ h.registry.revision + 1) (hc : Carries P change revision message) :
    Answered "error" (h.handleMessage P ids message).1 ∧
      (h.handleMessage P ids message).2 = { h with registry := h.registry.markStale } := by
  obtain ⟨envelope, payload, hp, -, hd⟩ := hc
  rw [handleMessage_of_parse hp]
  cases change with
  | update k d =>
    obtain ⟨entry, rfl, -⟩ := hd
    exact applyIncremental_gap hr
  | mutation m =>
    cases m with
    | register k d =>
      obtain ⟨entry, rfl, -⟩ := hd
      exact applyIncremental_gap hr
    | deregister k name =>
      obtain rfl : payload = .removed k ⟨revision, name⟩ := hd
      exact applyIncremental_gap hr

/-- The definitions of a snapshot, none of them with an owner. -/
def SnapshotPayload.definitions (p : SnapshotPayload) : (k : Kind) → List k.Definition
  | .tool => p.tools.map (·.definition none)
  | .resource => p.resources.map (·.definition none)
  | .prompt => p.prompts.map (·.definition none)

lemma table_replaceRegistryFromSnapshot (registry : RegistryStore) (p : SnapshotPayload) (k : Kind) :
    (replaceRegistryFromSnapshot registry p).table k = .ofList (p.definitions k) := by
  cases k <;> rfl

lemma handle_snapshot {host : RegistryStore} {message : Obj}
    (hc : CarriesSnapshot P host message) :
    Answered "ok" (h.handleMessage P ids message).1 ∧
      (h.handleMessage P ids message).2 =
        { h with
          registry := { toTables := host.toTables.eraseOwner, revision := host.revision } } := by
  obtain ⟨envelope, payload, hp, -, hr, ht, hres, hpr⟩ := hc
  rw [handleMessage_of_parse hp]
  refine ⟨answered_okResponse _ _, ?_⟩
  show { h with registry := replaceRegistryFromSnapshot h.registry payload } = _
  rw [replaceRegistryFromSnapshot, RegistryStore.replaceFromSnapshot, ht, hres, hpr, hr,
    Table.ofList_values_eraseOwner, Table.ofList_values_eraseOwner,
    Table.ofList_values_eraseOwner]
  rfl

end NaiaRelay.Rlp
