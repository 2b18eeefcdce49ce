import NaiaRelay.Mirror

set_option autoImplicit false

/-!
Snapshots of one kind of entry. They go through the function that replaces the whole mirror,
with the lists they leave out taken for empty.
-/

namespace NaiaRelay.Rlp

open NaiaRelay.Pydantic NaiaRelay.Registry NaiaRelay.Tep

variable (P : Platform)

/-- The field a snapshot lists the entries of a kind in. -/
def listField : Kind → String
  | .tool => "tools"
  | .resource => "resources"
  | .prompt => "prompts"

/-- The message is the snapshot of one kind, and lists entries of no other. -/
def CarriesKind (k : Kind) (message : Obj) (p : SnapshotPayload) : Prop :=
  ∃ envelope, parse P message = some (envelope, .snapshot p) ∧
    envelope.messageType = Change.kindName k ++ "_snapshot" ∧
    ∀ j, j ≠ k → Obj.get envelope.payload (listField j) = none

/-- It lists the host's entries of that kind. -/
def CarriesKindOf (host : RegistryStore) (k : Kind) (message : Obj) : Prop :=
  ∃ p, CarriesKind P k message p ∧ p.registryRevision = host.revision ∧
    p.definitions k = (host.table k).values.map k.eraseOwner

/-- Handling the message replaces the entries of one kind by the listed ones and leaves the
others. -/
def ReplacesOnly (ids : NewIds) (h : RLPHandler) (k : Kind) (message : Obj)
    (p : SnapshotPayload) : Prop :=
  (h.handleMessage P ids message).2.registry.table k = .ofList (p.definitions k) ∧
    ∀ j, j ≠ k → (h.handleMessage P ids message).2.registry.table j = h.registry.table j

variable {P} {ids : NewIds} {h : RLPHandler} {k : Kind} {message : Obj} {p : SnapshotPayload}

lemma validate_of_snapshot {envelope : RLPEnvelope}
    (hp : parse P message = some (envelope, .snapshot p)) :
    SnapshotPayload.validate P (.obj envelope.payload) = .ok p := by
  obtain ⟨-, check, hc, hk⟩ := parse_eq_some hp
  unfold messagePayloadModel at hc
  split at hc
  case h_26 => cases hc
  all_goals
    rw [← Option.some.inj hc] at hk
    simp only [messagePayloadModel.hello, messagePayloadModel.snapshot,
      messagePayloadModel.toolMutation, messagePayloadModel.resourceMutation,
      messagePayloadModel.promptMutation] at hk
    rw [modelValidate_eq_ok, Validation.map_eq_ok] at hk
    obtain ⟨p', hp', heq⟩ := hk
    cases heq
  all_goals exact hp'

lemma definitions_eq_nil {o : Obj} (hv : SnapshotPayload.validate P (.obj o) = .ok p)
    {j : Kind} (hj : Obj.get o (listField j) = none) : p.definitions j = [] := by
  have hnone : ∀ {α : Type} {check : Json → Checked (List α)} {l : List α},
      optional o (listField j) [] check = .ok l → l = [] := by
    intro α check l hl
    rcases optional_eq_ok.mp hl with ⟨-, hl⟩ | ⟨v, hg, -⟩
    · exact hl.symm
    · exact nomatch hj.symm.trans hg
  simp only [SnapshotPayload.validate, model_obj_eq_ok, Validation.seq_eq_ok,
    Validation.map_eq_ok] at hv
  obtain ⟨⟨_, prompts, ⟨_, resources, ⟨_, tools, ⟨revision, -, rfl⟩, ht, rfl⟩, hr, rfl⟩, hpr, rfl⟩,
    -⟩ := hv
  cases j with
  | tool => exact congrArg _ (hnone ht)
  | resource => exact congrArg _ (hnone hr)
  | prompt => exact congrArg _ (hnone hpr)

lemma table_handle_kind (ids : NewIds) (h : RLPHandler) (hc : CarriesKind P k message p) :
    (h.handleMessage P ids message).2.registry.table k = .ofList (p.definitions k) ∧
      ∀ j, j ≠ k → (h.handleMessage P ids message).2.registry.table j = .empty := by
  obtain ⟨envelope, hp, -, hn⟩ := hc
  rw [handleMessage_of_parse hp]
  have ht : ∀ j, (h.dispatch P ids envelope (.snapshot p)).2.registry.table j
      = .ofList (p.definitions j) := table_replaceRegistryFromSnapshot h.registry p
  refine ⟨ht k, fun j hj => ?_⟩
  rw [ht j, definitions_eq_nil (validate_of_snapshot hp) (hn j hj)]
  rfl

lemma replacesOnly_iff (hc : CarriesKind P k message p) :
    ReplacesOnly P ids h k message p ↔ ∀ j, j ≠ k → h.registry.table j = .empty := by
  obtain ⟨hk, hother⟩ := table_handle_kind ids h hc
  constructor
  · rintro ⟨-, hsame⟩ j hj
    rw [← hsame j hj, hother j hj]
  · intro hempty
    exact ⟨hk, fun j hj => by rw [hother j hj, hempty j hj]⟩

lemma eraseOwner_eq_empty {t : Table k} : t.eraseOwner = .empty ↔ t = .empty := by
  constructor
  · intro h
    have hv := congrArg Table.values h
    rw [Table.values_eraseOwner, Table.values_empty, List.map_eq_nil_iff] at hv
    exact Table.ext_values hv
  · rintro rfl
    exact Table.ext_values (Table.values_eraseOwner _)

lemma toTables_handle_kindOf {host : RegistryStore} (hc : CarriesKindOf P host k message) :
    (h.handleMessage P ids message).2.registry.toTables = host.toTables.eraseOwner ↔
      ∀ j, j ≠ k → host.table j = .empty := by
  obtain ⟨p, hp, -, hd⟩ := hc
  obtain ⟨hk, hother⟩ := table_handle_kind ids h hp
  rw [hd, Table.ofList_values_eraseOwner] at hk
  constructor
  · intro heq j hj
    have hj' := congrArg (Tables.table · j) heq
    simp only [Tables.table_eraseOwner] at hj'
    exact eraseOwner_eq_empty.mp (hj'.symm.trans (hother j hj))
  · intro hempty
    have ht : ∀ j, (h.handleMessage P ids message).2.registry.table j
        = host.toTables.eraseOwner.table j := by
      intro j
      rw [Tables.table_eraseOwner]
      by_cases hj : j = k
      · subst hj
        exact hk
      · rw [hother j hj]
        exact (eraseOwner_eq_empty.mpr (hempty j hj)).symm
    exact Tables.ext (ht .tool) (ht .resource) (ht .prompt)

/-- **When a snapshot of one kind replaces only its kind.** Exactly when the mirror holds nothing
of another kind. So the three snapshots of a host, one after the other, leave the host's entries
exactly when the host has none but those of the last one. -/
theorem kindSnapshot_iff (P : Platform) :
    (∀ (ids : NewIds) (h : RLPHandler) (k : Kind) (message : Obj) (p : SnapshotPayload),
        k ≠ .tool → CarriesKind P k message p →
          (ReplacesOnly P ids h k message p ↔ ∀ j, j ≠ k → h.registry.table j = .empty)) ∧
      ∀ (host : RegistryStore) (h : RLPHandler) (d d' d'' : Delivery) (k k' : Kind),
        k ≠ .tool → k' ≠ .tool → k ≠ k' →
        CarriesSnapshot P host d.2 → CarriesKindOf P host k d'.2 → CarriesKindOf P host k' d''.2 →
          ((afterAll P h [d, d', d'']).registry.toTables = host.toTables.eraseOwner ↔
            ∀ j, j ≠ k' → host.table j = .empty) := by
  constructor
  · intro ids h k message p _ hc
    exact replacesOnly_iff hc
  · intro host h d d' d'' k k' _ _ _ _ _ hc
    exact toTables_handle_kindOf hc

/-! A host with one tool, the mirror that has it, and the snapshots of the other kinds. -/

def toolOnly : RegistryStore := { tools := .ofList [bareTool "a"], revision := 1 }

def toolOnlyMirror : RLPHandler where
  registry := toolOnly
  records := { hostRelayId := "host", relaySessionId := "session" }

def toolOnlySnapshot : Obj :=
  linkMessage "tool_snapshot" [("registry_revision", .int 1),
    ("tools", .arr [.obj (bareToolPayload "a")]), ("resources", .arr []), ("prompts", .arr [])]

def noResources : Obj :=
  linkMessage "resource_snapshot" [("registry_revision", .int 1), ("resources", .arr [])]

def noPrompts : Obj :=
  linkMessage "prompt_snapshot" [("registry_revision", .int 1), ("prompts", .arr [])]

def emptyPayload : SnapshotPayload := ⟨1, [], [], []⟩

lemma noResources_carries : CarriesKind .strict .resource noResources emptyPayload :=
  ⟨_, rfl, rfl, fun j hj => by cases j <;> first | rfl | exact absurd rfl hj⟩

lemma noPrompts_carries : CarriesKind .strict .prompt noPrompts emptyPayload :=
  ⟨_, rfl, rfl, fun j hj => by cases j <;> first | rfl | exact absurd rfl hj⟩

lemma toolOnly_carries : CarriesSnapshot .strict toolOnly toolOnlySnapshot :=
  ⟨_, _, rfl, rfl, rfl, rfl, rfl, rfl⟩

/-- The tool is lost to a snapshot of the resources, and to the three snapshots in a row. -/
theorem noResources_drops_tool :
    CarriesKind .strict .resource noResources emptyPayload ∧
      ¬ ReplacesOnly .strict ⟨"r", "g"⟩ toolOnlyMirror .resource noResources emptyPayload ∧
      (afterAll .strict toolOnlyMirror [(⟨"r", "g"⟩, toolOnlySnapshot), (⟨"r", "g"⟩, noResources),
        (⟨"r", "g"⟩, noPrompts)]).registry.tools.values.length = 0 ∧
      toolOnly.tools.values.length = 1 := by
  refine ⟨noResources_carries, fun hr => ?_, rfl, rfl⟩
  have hlen := congrArg (·.values.length) (hr.2 .tool nofun)
  exact absurd hlen (by decide)

theorem kindSnapshot_iff_toolOnly :
    (ReplacesOnly .strict ⟨"r", "g"⟩ toolOnlyMirror .resource noResources emptyPayload ↔
        ∀ j, j ≠ .resource → toolOnly.table j = .empty) ∧
      ((afterAll .strict toolOnlyMirror [(⟨"r", "g"⟩, toolOnlySnapshot),
          (⟨"r", "g"⟩, noResources), (⟨"r", "g"⟩, noPrompts)]).registry.toTables
            = toolOnly.toTables.eraseOwner ↔
        ∀ j, j ≠ .prompt → toolOnly.table j = .empty) :=
  ⟨(kindSnapshot_iff .strict).1 ⟨"r", "g"⟩ toolOnlyMirror .resource noResources emptyPayload nofun
      noResources_carries,
    (kindSnapshot_iff .strict).2 toolOnly toolOnlyMirror (⟨"r", "g"⟩, toolOnlySnapshot)
      (⟨"r", "g"⟩, noResources) (⟨"r", "g"⟩, noPrompts) .resource .prompt nofun nofun nofun
      toolOnly_carries ⟨_, noResources_carries, rfl, rfl⟩ ⟨_, noPrompts_carries, rfl, rfl⟩⟩

end NaiaRelay.Rlp
