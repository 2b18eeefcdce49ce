import NaiaRelay.Mirror
import NaiaRelay.TepEffect

set_option autoImplicit false

/-!
The snapshot a host sends: it can always be built, and it is read back as the host's entries.
-/

namespace NaiaRelay.Rlp

open NaiaRelay.Pydantic NaiaRelay.Registry NaiaRelay.Tep

variable {P : Platform}

/-! ### Entries -/

def toolPayload (d : ToolDefinition) : ToolPayload :=
  ⟨d.name, d.description, d.inputSchema, d.title, d.outputSchema, d.metadata⟩

def resourcePayload (d : ResourceDefinition) : ResourcePayload :=
  ⟨d.uri, d.name, d.description, d.mimeType, d.metadata⟩

def promptPayload (d : PromptDefinition) (args : List PromptArgumentPayload) : PromptPayload :=
  ⟨d.name, d.description, args, d.metadata⟩

lemma validate_serializeTool (d : ToolDefinition) :
    ToolPayload.validate (.obj (serializeTool d)) = .ok (toolPayload d) := by
  obtain ⟨name, description, inputSchema, title, outputSchema, metadata, owner⟩ := d
  cases title <;> cases outputSchema <;> rfl

lemma validate_serializeResource (d : ResourceDefinition) :
    ResourcePayload.validate (.obj (serializeResource d)) = .ok (resourcePayload d) := by
  obtain ⟨uri, name, description, mimeType, metadata, owner⟩ := d
  cases description <;> cases mimeType <;> rfl

/-- What `_serialize_prompt_argument` makes of a dumped argument. -/
def serializedArgument (a : PromptArgumentPayload) : Obj :=
  [("name", .str a.name), ("required", .bool a.required)]
    ++ field "description" (a.description.map .str)

lemma serializePromptArgument_modelDump (a : PromptArgumentPayload) :
    serializePromptArgument a.modelDump = .ok (serializedArgument a) := by
  obtain ⟨name, description, required⟩ := a
  cases description <;> rfl

lemma validate_serializedArgument (a : PromptArgumentPayload) :
    PromptArgumentPayload.validate P (.obj (serializedArgument a)) = .ok a := by
  obtain ⟨name, description, required⟩ := a
  cases description <;> rfl

lemma mapM_map_ok {α β γ : Type} {f : β → Except Exc γ} {g : α → β} {e : α → γ} {l : List α}
    (h : ∀ a ∈ l, f (g a) = .ok (e a)) : (l.map g).mapM f = .ok (l.map e) := by
  induction l with
  | nil => rfl
  | cons a l ih =>
    have ha := h a (by simp)
    have hl := ih fun b hb => h b (by simp [hb])
    rw [List.map_cons, List.mapM_cons, ha, hl]
    rfl

/-- The arguments of a prompt are the dumps of these. -/
def Dumps (d : PromptDefinition) (args : List PromptArgumentPayload) : Prop :=
  d.arguments = args.map PromptArgumentPayload.modelDump

def serializedPrompt (d : PromptDefinition) (args : List PromptArgumentPayload) : Obj :=
  [("name", .str d.name), ("description", .str d.description),
    ("arguments", .arr (args.map fun a => .obj (serializedArgument a))),
    ("metadata", .obj d.metadata)]

lemma serializePrompt_eq {d : PromptDefinition} {args : List PromptArgumentPayload}
    (h : Dumps d args) : serializePrompt d = .ok (serializedPrompt d args) := by
  have hm : d.arguments.mapM serializePromptArgument = .ok (args.map serializedArgument) := by
    rw [h]
    exact mapM_map_ok fun a _ => serializePromptArgument_modelDump a
  rw [serializePrompt, hm, serializedPrompt]
  show Except.ok _ = _
  rw [List.map_map]
  rfl

lemma validate_serializedPrompt (d : PromptDefinition) (args : List PromptArgumentPayload) :
    PromptPayload.validate P (.obj (serializedPrompt d args)) = .ok (promptPayload d args) := by
  have hl : list (PromptArgumentPayload.validate P)
      (.arr (args.map fun a => .obj (serializedArgument a))) = .ok args := by
    rw [list_map (g := id) fun a _ => validate_serializedArgument a, List.map_id]
  have ha : optional (serializedPrompt d args) "arguments" []
      (list (PromptArgumentPayload.validate P)) = .ok args := by
    show within _ (list _ (.arr (args.map fun a => .obj (serializedArgument a)))) = _
    rw [hl, within_ok]
  simp only [PromptPayload.validate, model]
  rw [ha]
  rfl

/-! ### The snapshot -/

/-- The arguments of every prompt are dumped argument payloads, as the executor handler stores
them. -/
def Dumped (registry : RegistryStore) : Prop :=
  ∀ d ∈ registry.prompts.values, ∃ args, Dumps d args

/-- What `_build_snapshot_details` returns, when the arguments of the prompts are these. -/
def snapshotDetails (registry : RegistryStore)
    (args : PromptDefinition → List PromptArgumentPayload) : Obj :=
  [("registry_revision", .int registry.revision),
    ("tools", .arr (registry.tools.values.map fun d => .obj (serializeTool d))),
    ("resources", .arr (registry.resources.values.map fun d => .obj (serializeResource d))),
    ("prompts", .arr (registry.prompts.values.map fun d => .obj (serializedPrompt d (args d))))]

def snapshotPayload (registry : RegistryStore)
    (args : PromptDefinition → List PromptArgumentPayload) : SnapshotPayload where
  registryRevision := registry.revision
  tools := registry.tools.values.map toolPayload
  resources := registry.resources.values.map resourcePayload
  prompts := registry.prompts.values.map fun d => promptPayload d (args d)

variable {registry : RegistryStore} {args : PromptDefinition → List PromptArgumentPayload}

lemma buildSnapshotDetails_eq (h : ∀ d ∈ registry.prompts.values, Dumps d (args d)) :
    buildSnapshotDetails registry = .ok (snapshotDetails registry args) := by
  have hp : registry.snapshot.prompts.mapM serializePrompt
      = .ok (registry.prompts.values.map fun d => serializedPrompt d (args d)) := by
    have := mapM_map_ok (f := serializePrompt) (g := id) fun d hd => serializePrompt_eq (h d hd)
    rwa [List.map_id] at this
  rw [buildSnapshotDetails, hp, snapshotDetails]
  show Except.ok _ = _
  rw [List.map_map]
  rfl

lemma validate_snapshotDetails :
    SnapshotPayload.validate P (.obj (snapshotDetails registry args))
      = .ok (snapshotPayload registry args) := by
  have htools : optional (snapshotDetails registry args) "tools" [] (list ToolPayload.validate)
      = .ok (registry.tools.values.map toolPayload) := by
    show within _ (list _ (.arr (registry.tools.values.map fun d => .obj (serializeTool d)))) = _
    rw [list_map fun d _ => validate_serializeTool d, within_ok]
  have hresources : optional (snapshotDetails registry args) "resources" []
      (list ResourcePayload.validate) = .ok (registry.resources.values.map resourcePayload) := by
    show within _ (list _
      (.arr (registry.resources.values.map fun d => .obj (serializeResource d)))) = _
    rw [list_map fun d _ => validate_serializeResource d, within_ok]
  have hprompts : optional (snapshotDetails registry args) "prompts" []
      (list (PromptPayload.validate P))
      = .ok (registry.prompts.values.map fun d => promptPayload d (args d)) := by
    show within _ (list _
      (.arr (registry.prompts.values.map fun d => .obj (serializedPrompt d (args d))))) = _
    rw [list_map fun d _ => validate_serializedPrompt d (args d), within_ok]
  simp only [SnapshotPayload.validate, model]
  rw [htools, hresources, hprompts]
  rfl

lemma carriesSnapshot_snapshotDetails {message : Obj} {envelope : RLPEnvelope}
    (h : ∀ d ∈ registry.prompts.values, Dumps d (args d))
    (hv : validateMessage message = .ok envelope) (ht : envelope.messageType = "tool_snapshot")
    (hp : envelope.payload = snapshotDetails registry args) :
    CarriesSnapshot P registry message := by
  have hm : messagePayloadModel P envelope.messageType = some (messagePayloadModel.snapshot P) := by
    rw [ht]
    rfl
  have hk : messagePayloadModel.snapshot P (.obj envelope.payload)
      = .ok (.snapshot (snapshotPayload registry args)) := by
    rw [hp, messagePayloadModel.snapshot, validate_snapshotDetails, Validation.map_ok,
      modelValidate_ok]
  have hparse : parse P message = some (envelope, .snapshot (snapshotPayload registry args)) := by
    unfold parse
    rw [hv]
    dsimp only
    rw [hm]
    dsimp only
    rw [hk]
  have hprompts : (snapshotPayload registry args).prompts.map (·.definition none)
      = registry.prompts.values.map Kind.prompt.eraseOwner := by
    rw [snapshotPayload, List.map_map]
    refine List.map_congr_left fun d hd => ?_
    show PromptPayload.definition (promptPayload d (args d)) none = _
    rw [PromptPayload.definition, promptPayload, ← h d hd]
    rfl
  exact ⟨envelope, _, hparse, ht, rfl, by rw [snapshotPayload, List.map_map]; rfl,
    by rw [snapshotPayload, List.map_map]; rfl, hprompts⟩

theorem buildSnapshotDetails_carries (h : Dumped registry) :
    ∃ details, buildSnapshotDetails registry = .ok details ∧ details ≠ [] ∧
      ∀ message envelope, validateMessage message = .ok envelope →
        envelope.messageType = "tool_snapshot" → envelope.payload = details →
        CarriesSnapshot P registry message := by
  choose! args hargs using h
  exact ⟨snapshotDetails registry args, buildSnapshotDetails_eq hargs, by simp [snapshotDetails],
    fun _ _ hv ht hp => carriesSnapshot_snapshotDetails hargs hv ht hp⟩

/-! ### What the executor handler stores -/

/-- The arguments a mutation registers are dumped payloads. -/
def Mutates : Mutation → Prop
  | .register .prompt d => ∃ args, Dumps d args
  | _ => True

lemma mutates_of_mem {message : Obj} {m : Mutation} (h : m ∈ Tep.mutations P message) :
    Mutates m := by
  unfold Tep.mutations at h
  cases hp : Tep.parse P message with
  | none => simp [hp] at h
  | some x =>
    obtain ⟨envelope, payload⟩ := x
    rw [hp, Option.elim_some] at h
    cases payload
    case registerPrompts p =>
      obtain ⟨prompt, -, rfl⟩ := List.mem_map.mp h
      exact ⟨prompt.arguments, rfl⟩
    all_goals
      simp only [Payload.mutations, List.mem_map, List.not_mem_nil] at h
      try
        obtain ⟨x, -, rfl⟩ := h
        trivial

lemma Dumped.mutate {s s' : RegistryStore} {m : Mutation} (hs : Dumped s) (hm : Mutates m)
    (h : s.mutate m = .ok s') : Dumped s' := by
  intro d hd
  cases m with
  | register k d' =>
    obtain ⟨hk, rfl⟩ := RegistryStore.mutate_register_eq_ok.mp h
    cases k with
    | prompt =>
      have hv : d ∈ ((s.table .prompt).put d').values := hd
      rw [Table.values_put hk, List.mem_append, List.mem_singleton] at hv
      rcases hv with hv | rfl
      · exact hs d hv
      · exact hm
    | tool => exact hs d hd
    | resource => exact hs d hd
  | deregister k name =>
    obtain ⟨-, rfl⟩ := RegistryStore.mutate_deregister_eq_ok.mp h
    cases k with
    | prompt => exact hs d (Table.mem_values_of_mem_pop hd)
    | tool => exact hs d hd
    | resource => exact hs d hd

lemma Dumped.afterMutations {s : RegistryStore} (hs : Dumped s) (message : Obj) :
    Dumped (Tep.afterMutations s (Tep.mutations P message)) :=
  Batch.forEach_invariant (fun _ _ hm _ hs h => hs.mutate (mutates_of_mem hm) h) hs

lemma dumped_empty : Dumped {} := by
  intro d hd
  exact absurd hd (List.not_mem_nil)

end NaiaRelay.Rlp
