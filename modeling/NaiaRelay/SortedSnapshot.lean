import NaiaRelay.PythonJson
import NaiaRelay.Snapshot

set_option autoImplicit false

/-!
A snapshot that has been text on the way. It carries the host's entries with the keys of their
objects in order.
-/

namespace NaiaRelay.Rlp

open NaiaRelay.Pydantic NaiaRelay.Registry NaiaRelay.Tep NaiaRelay.Transports

variable {F : Json.FloatText} {P : Platform}

/-! ### Keys in order -/

@[simp] lemma sortKeys_arr_map {α : Type} (f : α → Json) (l : List α) :
    Json.sortKeys (.arr (l.map f)) = .arr (l.map fun a => Json.sortKeys (f a)) := by
  have hitems : Json.sortItems (l.map f) = l.map fun a => Json.sortKeys (f a) := by
    induction l with
    | nil => rfl
    | cons a l ih => rw [List.map_cons, Json.sortItems, ih, List.map_cons]
  rw [Json.sortKeys, hitems]

attribute [local simp] sortKeys_obj List.orderedInsert

/-! ### Entries in order -/

/-- An entry with the keys of its objects in order. -/
def sortEntry : (k : Kind) → k.Definition → k.Definition
  | .tool, d => { d with
      inputSchema := sortMessage d.inputSchema
      outputSchema := d.outputSchema.map sortMessage
      metadata := sortMessage d.metadata }
  | .resource, d => { d with metadata := sortMessage d.metadata }
  | .prompt, d => { d with metadata := sortMessage d.metadata }

@[simp] lemma key_sortEntry (k : Kind) (d : k.Definition) : k.key (sortEntry k d) = k.key d := by
  cases k <;> rfl

def sortTable {k : Kind} (t : Table k) : Table k := t.map (sortEntry k) (key_sortEntry k)

/-- A registry with the keys of the objects in its entries in order. -/
def sortRegistry (registry : RegistryStore) : RegistryStore :=
  { registry with
    tools := sortTable registry.tools
    resources := sortTable registry.resources
    prompts := sortTable registry.prompts }

lemma values_sortTable {k : Kind} (t : Table k) :
    (sortTable t).values = t.values.map (sortEntry k) := Table.values_map _ t

lemma validate_sortKeys_serializeTool (d : ToolDefinition) :
    ToolPayload.validate (Json.sortKeys (.obj (serializeTool d)))
      = .ok (toolPayload (sortEntry .tool d)) := by
  obtain ⟨name, description, inputSchema, title, outputSchema, metadata, owner⟩ := d
  cases title <;> cases outputSchema <;> simp [serializeTool, field] <;> rfl

lemma validate_sortKeys_serializeResource (d : ResourceDefinition) :
    ResourcePayload.validate (Json.sortKeys (.obj (serializeResource d)))
      = .ok (resourcePayload (sortEntry .resource d)) := by
  obtain ⟨uri, name, description, mimeType, metadata, owner⟩ := d
  cases description <;> cases mimeType <;> simp [serializeResource, field] <;> rfl

lemma validate_sortKeys_serializedArgument (a : PromptArgumentPayload) :
    PromptArgumentPayload.validate P (Json.sortKeys (.obj (serializedArgument a))) = .ok a := by
  obtain ⟨name, description, required⟩ := a
  cases description <;> simp [serializedArgument, field] <;> rfl

lemma validate_sortKeys_serializedPrompt (d : PromptDefinition) (args : List PromptArgumentPayload) :
    PromptPayload.validate P (Json.sortKeys (.obj (serializedPrompt d args)))
      = .ok (promptPayload (sortEntry .prompt d) args) := by
  have hl : list (PromptArgumentPayload.validate P)
      (.arr (args.map fun a => Json.sortKeys (.obj (serializedArgument a)))) = .ok args := by
    rw [list_map (g := id) fun a _ => validate_sortKeys_serializedArgument a, List.map_id]
  have hsort : Json.sortKeys (.obj (serializedPrompt d args)) = .obj
      [("arguments", .arr (args.map fun a => Json.sortKeys (.obj (serializedArgument a)))),
        ("description", .str d.description), ("metadata", .obj (sortMessage d.metadata)),
        ("name", .str d.name)] := by
    simp [serializedPrompt]
  rw [hsort]
  have ha : optional [("arguments",
        .arr (args.map fun a => Json.sortKeys (.obj (serializedArgument a)))),
      ("description", .str d.description), ("metadata", .obj (sortMessage d.metadata)),
      ("name", .str d.name)] "arguments" [] (list (PromptArgumentPayload.validate P)) = .ok args := by
    show within _ (list _ _) = _
    rw [hl, within_ok]
  simp only [PromptPayload.validate, model]
  rw [ha]
  rfl

/-! ### The snapshot in order -/

variable {registry : RegistryStore} {args : PromptDefinition → List PromptArgumentPayload}

/-- The details of a snapshot, in order. -/
def sortedDetails (registry : RegistryStore)
    (args : PromptDefinition → List PromptArgumentPayload) : Obj :=
  [("prompts", .arr (registry.prompts.values.map fun d =>
      Json.sortKeys (.obj (serializedPrompt d (args (sortEntry .prompt d)))))),
    ("registry_revision", .int registry.revision),
    ("resources", .arr (registry.resources.values.map fun d =>
      Json.sortKeys (.obj (serializeResource d)))),
    ("tools", .arr (registry.tools.values.map fun d => Json.sortKeys (.obj (serializeTool d))))]

lemma sortMessage_snapshotDetails :
    sortMessage (snapshotDetails registry fun d => args (sortEntry .prompt d))
      = sortedDetails registry args := by
  simp [snapshotDetails, sortedDetails]

lemma snapshotPayload_sortRegistry :
    snapshotPayload (sortRegistry registry) args =
      ⟨registry.revision, registry.tools.values.map fun d => toolPayload (sortEntry .tool d),
        registry.resources.values.map fun d => resourcePayload (sortEntry .resource d),
        registry.prompts.values.map fun d =>
          promptPayload (sortEntry .prompt d) (args (sortEntry .prompt d))⟩ := by
  have htools : (sortRegistry registry).tools.values = registry.tools.values.map (sortEntry .tool) :=
    values_sortTable registry.tools
  have hresources : (sortRegistry registry).resources.values
      = registry.resources.values.map (sortEntry .resource) := values_sortTable registry.resources
  have hprompts : (sortRegistry registry).prompts.values
      = registry.prompts.values.map (sortEntry .prompt) := values_sortTable registry.prompts
  rw [snapshotPayload, htools, hresources, hprompts, List.map_map, List.map_map, List.map_map]
  rfl

lemma validate_sortedDetails :
    SnapshotPayload.validate P (.obj (sortedDetails registry args))
      = .ok (snapshotPayload (sortRegistry registry) args) := by
  have htools : optional (sortedDetails registry args) "tools" [] (list ToolPayload.validate)
      = .ok (registry.tools.values.map fun d => toolPayload (sortEntry .tool d)) := by
    show within _ (list _ (.arr _)) = _
    rw [list_map fun d _ => validate_sortKeys_serializeTool d, within_ok]
  have hresources : optional (sortedDetails registry args) "resources" []
      (list ResourcePayload.validate)
      = .ok (registry.resources.values.map fun d => resourcePayload (sortEntry .resource d)) := by
    show within _ (list _ (.arr _)) = _
    rw [list_map fun d _ => validate_sortKeys_serializeResource d, within_ok]
  have hprompts : optional (sortedDetails registry args) "prompts" []
      (list (PromptPayload.validate P)) = .ok (registry.prompts.values.map fun d =>
        promptPayload (sortEntry .prompt d) (args (sortEntry .prompt d))) := by
    show within _ (list _ (.arr _)) = _
    rw [list_map fun d _ => validate_sortKeys_serializedPrompt d _, within_ok]
  rw [snapshotPayload_sortRegistry]
  simp only [SnapshotPayload.validate, model]
  rw [htools, hresources, hprompts]
  rfl

lemma dumped_sortRegistry (h : Dumped registry) : Dumped (sortRegistry registry) := by
  intro d hd
  have hvalues : (sortRegistry registry).prompts.values
      = registry.prompts.values.map (sortEntry .prompt) := values_sortTable registry.prompts
  rw [hvalues] at hd
  obtain ⟨d', hd', rfl⟩ := List.mem_map.mp hd
  exact h d' hd'

lemma buildSnapshotDetails_sorted (h : Dumped registry) :
    ∃ args, buildSnapshotDetails registry = .ok (snapshotDetails registry args) ∧
      ∀ message envelope, validateMessage message = .ok envelope →
        envelope.messageType = "tool_snapshot" →
        envelope.payload = sortMessage (snapshotDetails registry args) →
          CarriesSnapshot P (sortRegistry registry) message := by
  have hsorted := dumped_sortRegistry h
  choose! args hargs using hsorted
  -- the arguments of a prompt are dumped from the sorted ones
  have hbuilt : ∀ d ∈ registry.prompts.values, Dumps d (args (sortEntry .prompt d)) := by
    intro d hd
    refine hargs (sortEntry .prompt d) ?_
    have hvalues : (sortRegistry registry).prompts.values
        = registry.prompts.values.map (sortEntry .prompt) := values_sortTable registry.prompts
    rw [hvalues]
    exact List.mem_map_of_mem hd
  refine ⟨fun d => args (sortEntry .prompt d), buildSnapshotDetails_eq hbuilt,
    fun message envelope hv ht hp => ?_⟩
  rw [sortMessage_snapshotDetails] at hp
  have hm : messagePayloadModel P envelope.messageType = some (messagePayloadModel.snapshot P) := by
    rw [ht]
    rfl
  have hk : messagePayloadModel.snapshot P (.obj envelope.payload)
      = .ok (.snapshot (snapshotPayload (sortRegistry registry) args)) := by
    rw [hp, messagePayloadModel.snapshot, validate_sortedDetails, Validation.map_ok,
      modelValidate_ok]
  -- what is sent passes, as the snapshot of the sorted registry
  have hparse : parse P message
      = some (envelope, .snapshot (snapshotPayload (sortRegistry registry) args)) := by
    unfold parse
    rw [hv]
    dsimp only
    rw [hm]
    dsimp only
    rw [hk]
  have hprompts : (snapshotPayload (sortRegistry registry) args).prompts.map (·.definition none)
      = (sortRegistry registry).prompts.values.map Kind.prompt.eraseOwner := by
    rw [snapshotPayload, List.map_map]
    refine List.map_congr_left fun d hd => ?_
    show PromptPayload.definition (promptPayload d (args d)) none = _
    rw [PromptPayload.definition, promptPayload, ← hargs d hd]
    rfl
  exact ⟨envelope, _, hparse, ht, rfl, by rw [snapshotPayload, List.map_map]; rfl,
    by rw [snapshotPayload, List.map_map]; rfl, hprompts⟩

end NaiaRelay.Rlp
