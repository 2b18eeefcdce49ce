import NaiaRelay.HostRegistry
import NaiaRelay.JsonAccepted
import NaiaRelay.Sessions
import NaiaRelay.Snapshot

set_option autoImplicit false

/-!
What a host's registry holds: entries that Python's json module has read, whoever sent them. So a
snapshot of them can be written, and read back.
-/

namespace NaiaRelay.Tep

open NaiaRelay.Pydantic NaiaRelay.Registry

variable {F : Json.FloatText} {P : Platform}

/-! ### Entries that were text -/

/-- The objects of an entry are ones that Python holds, and the arguments of a prompt are dumps. -/
def WellFormedEntry (F : Json.FloatText) : (k : Kind) → k.Definition → Prop
  | .tool, d => Json.WellFormed F (.obj d.inputSchema) ∧
      (∀ schema, d.outputSchema = some schema → Json.WellFormed F (.obj schema)) ∧
      Json.WellFormed F (.obj d.metadata)
  | .resource, d => Json.WellFormed F (.obj d.metadata)
  | .prompt, d => (∃ args, Rlp.Dumps d args) ∧ Json.WellFormed F (.obj d.metadata)

def WellFormedEntries (F : Json.FloatText) (registry : RegistryStore) : Prop :=
  ∀ k, ∀ d ∈ (registry.table k).values, WellFormedEntry F k d

/-- What is accepted of a value that Python holds. -/
def Admits {α : Type} (F : Json.FloatText) (Q : α → Prop) (check : Json → Checked α) : Prop :=
  ∀ v a, Json.WellFormed F v → check v = .ok a → Q a

lemma wellFormed_get {o : Obj} (h : Json.WellFormed F (.obj o)) {key : String} {v : Json}
    (hv : Obj.get o key = some v) : Json.WellFormed F v := by
  obtain ⟨-, hfields⟩ := h
  obtain ⟨before, after, rfl, -⟩ := List.lookup_eq_some_iff.mp hv
  exact Json.fieldsWellFormed_iff.mp hfields (key, v) (by simp)

lemma Admits.required {α : Type} {Q : α → Prop} {check : Json → Checked α} (h : Admits F Q check)
    {o : Obj} (ho : Json.WellFormed F (.obj o)) {name : String} {a : α}
    (ha : Pydantic.required o name check = .ok a) : Q a := by
  obtain ⟨v, hv, hcheck⟩ := required_eq_ok.mp ha
  exact h v a (wellFormed_get ho hv) hcheck

lemma Admits.optional {α : Type} {Q : α → Prop} {check : Json → Checked α} (h : Admits F Q check)
    {o : Obj} (ho : Json.WellFormed F (.obj o)) {name : String} {default a : α} (hd : Q default)
    (ha : Pydantic.optional o name default check = .ok a) : Q a := by
  obtain ⟨-, rfl⟩ | ⟨v, hv, hcheck⟩ := optional_eq_ok.mp ha
  · exact hd
  · exact h v a (wellFormed_get ho hv) hcheck

lemma admits_list {α : Type} {Q : α → Prop} {check : Json → Checked α} (h : Admits F Q check) :
    Admits F (fun l => ∀ a ∈ l, Q a) (list check) := by
  have hall : ∀ (items : List Json) (n : ℕ) (l : List α), (∀ v ∈ items, Json.WellFormed F v) →
      Validation.all ((items.zipIdx n).map fun p => within (.int p.2) (check p.1)) = .ok l →
        ∀ a ∈ l, Q a := by
    intro items
    induction items with
    | nil =>
      rintro n _ - ⟨⟩ a ha
      cases ha
    | cons v items ih =>
      intro n l hv hl
      obtain ⟨hhead, htail⟩ := List.forall_mem_cons.mp hv
      rw [List.zipIdx_cons, List.map_cons, Validation.all, Validation.seq_eq_ok] at hl
      obtain ⟨cons, rest, hcons, hrest, rfl⟩ := hl
      obtain ⟨a, ha, rfl⟩ := Validation.map_eq_ok.mp hcons
      exact List.forall_mem_cons.mpr ⟨h v a hhead (within_eq_ok.mp ha), ih (n + 1) rest htail hrest⟩
  intro v l hv hl
  cases v with
  | arr items => exact hall items 0 l (Json.itemsWellFormed_iff.mp hv) hl
  | null | bool | int | float | str | obj => cases hl

lemma admits_dict : Admits F (fun o => Json.WellFormed F (.obj o)) dict := by
  intro v o hv ho
  rwa [dict_eq_ok.mp ho] at hv

lemma wellFormed_nil : Json.WellFormed F (.obj []) := ⟨List.nodup_nil, trivial⟩

lemma wellFormed_coerce {v : Json} (hv : Json.WellFormed F v) :
    Json.WellFormed F (coerceEmptyListToDict v) := by
  unfold coerceEmptyListToDict
  split
  · exact wellFormed_nil
  · exact hv

lemma admits_objectBag : Admits F (fun o => Json.WellFormed F (.obj o)) objectBag := fun _ o hv ho =>
  admits_dict _ o (wellFormed_coerce hv) ho

lemma admits_nullableDict : Admits F
    (fun o? : Option Obj => ∀ o, o? = some o → Json.WellFormed F (.obj o))
    fun v => nullable dict (coerceEmptyListToDict v) := by
  intro v o? hv ho o hsome
  have hcoerced := wellFormed_coerce hv
  rw [hsome] at ho
  dsimp only at ho
  cases hv : coerceEmptyListToDict v with
  | obj o' =>
    rw [hv] at ho hcoerced
    cases ho
    exact hcoerced
  | null | bool | int | float | str | arr =>
    rw [hv] at ho
    cases ho

lemma admits_model {α : Type} {Q : α → Prop} {cls : String} {fields : List String}
    {body : Obj → Checked α}
    (h : ∀ o a, Json.WellFormed F (.obj o) → body o = .ok a → Q a) :
    Admits F Q (model cls fields body) := by
  intro v a hv ha
  cases v with
  | obj o => exact h o a hv (model_obj_eq_ok.mp ha).1
  | null | bool | int | float | str | arr => cases ha

lemma admits_tool : Admits F
    (fun p : ToolPayload => ∀ owner, WellFormedEntry F .tool (p.definition owner))
    ToolPayload.validate := by
  refine admits_model fun o p ho hp => ?_
  simp only [Validation.seq_eq_ok, Validation.map_eq_ok] at hp
  obtain ⟨_, metadata, ⟨_, outputSchema, ⟨_, title, ⟨_, inputSchema, ⟨_, description,
    ⟨name, -, rfl⟩, -, rfl⟩, hinput, rfl⟩, -, rfl⟩, houtput, rfl⟩, hmetadata, rfl⟩ := hp
  exact fun _ => ⟨admits_objectBag.required ho hinput,
    admits_nullableDict.optional ho (by rintro _ ⟨⟩) houtput,
    admits_objectBag.optional ho wellFormed_nil hmetadata⟩

lemma admits_resource : Admits F
    (fun p : ResourcePayload => ∀ owner, WellFormedEntry F .resource (p.definition owner))
    ResourcePayload.validate := by
  refine admits_model fun o p ho hp => ?_
  obtain ⟨uri, name, description, mimeType, metadata, -, -, -, -, hmetadata, rfl⟩ :=
    Validation.seq5_eq_ok.mp hp
  exact fun _ => admits_objectBag.optional ho wellFormed_nil hmetadata

lemma admits_prompt : Admits F
    (fun p : PromptPayload => ∀ owner, WellFormedEntry F .prompt (p.definition owner))
    (PromptPayload.validate P) := by
  refine admits_model fun o p ho hp => ?_
  obtain ⟨_, metadata, hmk, hmetadata, rfl⟩ := Validation.seq_eq_ok.mp hp
  simp only [Validation.seq_eq_ok, Validation.map_eq_ok] at hmk
  obtain ⟨_, arguments, ⟨_, description, ⟨name, -, rfl⟩, -, rfl⟩, -, rfl⟩ := hmk
  exact fun _ => ⟨⟨arguments, rfl⟩, admits_objectBag.optional ho wellFormed_nil hmetadata⟩

lemma admits_items {α β : Type} {Q : α → Prop} {check : Json → Checked α} (h : Admits F Q check)
    (mk : List α → β) (items : β → List α) (hitems : ∀ l, items (mk l) = l) {cls field : String} :
    Admits F (fun p => ∀ a ∈ items p, Q a)
      (model cls [field] fun o => mk <$> required o field (list check)) := by
  refine admits_model fun o p ho hp => ?_
  obtain ⟨l, hl, rfl⟩ := Validation.map_eq_ok.mp hp
  rw [hitems]
  exact (admits_list h).required ho hl

lemma wellFormed_mutations {messageType : String} {check : Json → Except Exc Payload}
    (hc : messagePayloadModel P messageType = some check) {v : Json} (hv : Json.WellFormed F v)
    {payload : Payload} (h : check v = .ok payload) {owner : Option String} {k : Kind}
    {d : k.Definition} (hm : Mutation.register k d ∈ payload.mutations owner) :
    WellFormedEntry F k d := by
  unfold messagePayloadModel at hc
  split at hc
  case h_2 =>
    cases hc
    obtain ⟨p, hp, rfl⟩ := Validation.map_eq_ok.mp (modelValidate_eq_ok.mp h)
    obtain ⟨tool, htool, ⟨⟩⟩ := List.mem_map.mp hm
    exact admits_items admits_tool RegisterToolsPayload.mk (·.tools) (fun _ => rfl) v p hv hp tool htool
      owner
  case h_4 =>
    cases hc
    obtain ⟨p, hp, rfl⟩ := Validation.map_eq_ok.mp (modelValidate_eq_ok.mp h)
    obtain ⟨resource, hresource, ⟨⟩⟩ := List.mem_map.mp hm
    exact admits_items admits_resource RegisterResourcesPayload.mk (·.resources) (fun _ => rfl) v p hv hp resource hresource
      owner
  case h_8 =>
    cases hc
    obtain ⟨p, hp, rfl⟩ := Validation.map_eq_ok.mp (modelValidate_eq_ok.mp h)
    obtain ⟨prompt, hprompt, ⟨⟩⟩ := List.mem_map.mp hm
    exact admits_items admits_prompt RegisterPromptsPayload.mk (·.prompts) (fun _ => rfl) v p hv hp prompt hprompt
      owner
  case h_19 => cases hc
  all_goals
    cases hc
    obtain ⟨p, -, rfl⟩ := Validation.map_eq_ok.mp (modelValidate_eq_ok.mp h)
    simp [Payload.mutations] at hm

lemma wellFormed_of_mem_mutations {message : Obj} (h : Json.WellFormed F (.obj message)) {k : Kind}
    {d : k.Definition} (hm : Mutation.register k d ∈ mutations P message) :
    WellFormedEntry F k d := by
  unfold mutations at hm
  cases hp : parse P message with
  | none => simp [hp] at hm
  | some x =>
    obtain ⟨envelope, payload⟩ := x
    rw [hp, Option.elim_some] at hm
    obtain ⟨hv, check, hc, hk⟩ := parse_eq_some hp
    refine wellFormed_mutations hc ?_ hk hm
    unfold validateMessage at hv
    obtain ⟨envelope', he, hv⟩ := Json.bind_ok hv
    split_ifs at hv
    obtain rfl := Except.ok.inj hv
    obtain ⟨_, payload', hmk, hpayload, rfl⟩ :=
      Validation.seq_eq_ok.mp (model_obj_eq_ok.mp (modelValidate_eq_ok.mp he)).1
    simp only [Validation.seq_eq_ok, Validation.map_eq_ok] at hmk
    obtain ⟨_, _, ⟨_, _, ⟨_, _, ⟨_, _, ⟨_, _, ⟨_, _, ⟨_, -, rfl⟩, -, rfl⟩, -, rfl⟩, -, rfl⟩, -, rfl⟩,
      -, rfl⟩, -, rfl⟩ := hmk
    exact admits_dict.optional h wellFormed_nil hpayload

lemma WellFormedEntries.setTable {s s' : RegistryStore} (hs : WellFormedEntries F s) {k : Kind}
    {t : Table k} (ht : ∀ d ∈ t.values, WellFormedEntry F k d)
    (h : s'.toTables = s.toTables.setTable k t) : WellFormedEntries F s' := by
  intro k' d hd
  rw [h] at hd
  by_cases heq : k' = k
  · subst heq
    rw [Tables.table_setTable_self] at hd
    exact ht d hd
  · rw [Tables.table_setTable_ne s.toTables t heq] at hd
    exact hs k' d hd

lemma wellFormed_put {k : Kind} {t : Table k} {d : k.Definition}
    (ht : ∀ d' ∈ t.values, WellFormedEntry F k d') (hd : WellFormedEntry F k d)
    (hk : k.key d ∉ t.dict) : ∀ d' ∈ (t.put d).values, WellFormedEntry F k d' := by
  intro d' hd'
  rw [Table.values_put hk, List.mem_append, List.mem_singleton] at hd'
  rcases hd' with hd' | rfl
  · exact ht d' hd'
  · exact hd

lemma WellFormedEntries.mutate {s s' : RegistryStore} {m : Mutation} (hs : WellFormedEntries F s)
    (hm : ∀ k d, m = .register k d → WellFormedEntry F k d) (h : s.mutate m = .ok s') :
    WellFormedEntries F s' := by
  cases m with
  | register k d =>
    obtain ⟨hk, rfl⟩ := RegistryStore.mutate_register_eq_ok.mp h
    exact hs.setTable (wellFormed_put (hs k) (hm k d rfl) hk) rfl
  | deregister k name =>
    obtain ⟨-, rfl⟩ := RegistryStore.mutate_deregister_eq_ok.mp h
    exact hs.setTable (fun d hd => hs k d (Table.mem_values_of_mem_pop hd)) rfl

lemma WellFormedEntries.afterMutations {s : RegistryStore} (hs : WellFormedEntries F s)
    {message : Obj} (h : Json.WellFormed F (.obj message)) :
    WellFormedEntries F (Tep.afterMutations s (Tep.mutations P message)) :=
  Batch.forEach_invariant (fun _ _ hm _ hs h' =>
    hs.mutate (fun _ _ heq => wellFormed_of_mem_mutations h (heq ▸ hm)) h') hs

lemma wellFormedEntries_empty : WellFormedEntries F {} := by
  intro k d hd
  cases k <;> cases hd

end NaiaRelay.Tep

namespace NaiaRelay.Rlp

open NaiaRelay.Pydantic NaiaRelay.Registry NaiaRelay.Tep

variable {F : Json.FloatText} {registry : RegistryStore}

lemma wellFormed_str (s : String) : Json.WellFormed F (.str s) := trivial

lemma wellFormed_obj {o : Obj} (hkeys : (o.map Prod.fst).Nodup)
    (h : ∀ f ∈ o, Json.WellFormed F f.2) : Json.WellFormed F (.obj o) :=
  ⟨hkeys, Json.fieldsWellFormed_iff.mpr h⟩

lemma wellFormed_arr_map {α : Type} {f : α → Json} {l : List α}
    (h : ∀ a ∈ l, Json.WellFormed F (f a)) : Json.WellFormed F (.arr (l.map f)) :=
  Json.itemsWellFormed_iff.mpr (by simpa using h)

lemma wellFormed_serializeTool {d : ToolDefinition} (h : WellFormedEntry F .tool d) :
    Json.WellFormed F (.obj (serializeTool d)) := by
  obtain ⟨name, description, inputSchema, title, outputSchema, metadata, owner⟩ := d
  obtain ⟨hinput, houtput, hmetadata⟩ := h
  cases title <;> cases outputSchema <;>
    exact wellFormed_obj (by simp [serializeTool, field])
      (by simp_all [serializeTool, field, wellFormed_str])

lemma wellFormed_serializeResource {d : ResourceDefinition} (h : WellFormedEntry F .resource d) :
    Json.WellFormed F (.obj (serializeResource d)) := by
  obtain ⟨uri, name, description, mimeType, metadata, owner⟩ := d
  have hmetadata : Json.WellFormed F (.obj metadata) := h
  cases description <;> cases mimeType <;>
    exact wellFormed_obj (by simp [serializeResource, field])
      (by simp_all [serializeResource, field, wellFormed_str])

lemma wellFormed_serializedPrompt {d : PromptDefinition} (h : WellFormedEntry F .prompt d)
    (args : List PromptArgumentPayload) : Json.WellFormed F (.obj (serializedPrompt d args)) := by
  have hmetadata := h.2
  have hargument : ∀ a : PromptArgumentPayload,
      Json.WellFormed F (.obj (serializedArgument a)) := by
    rintro ⟨name, description, required⟩
    have hrequired : Json.WellFormed F (.bool required) := trivial
    cases description <;>
      exact wellFormed_obj (by simp [serializedArgument, field])
        (by simp_all [serializedArgument, field, wellFormed_str])
  have hargs := wellFormed_arr_map (F := F) (l := args) fun a _ => hargument a
  exact wellFormed_obj (by simp [serializedPrompt])
    (by simp_all [serializedPrompt, wellFormed_str])

lemma wellFormed_snapshotDetails (h : WellFormedEntries F registry)
    (args : PromptDefinition → List PromptArgumentPayload) :
    Json.WellFormed F (.obj (snapshotDetails registry args)) := by
  have hrevision : Json.WellFormed F (.int registry.revision) := trivial
  have htools := wellFormed_arr_map (F := F) fun d hd => wellFormed_serializeTool (h .tool d hd)
  have hresources := wellFormed_arr_map (F := F) fun d hd =>
    wellFormed_serializeResource (h .resource d hd)
  have hprompts := wellFormed_arr_map (F := F) fun d hd =>
    wellFormed_serializedPrompt (h .prompt d hd) (args d)
  refine wellFormed_obj (by simp [snapshotDetails]) fun f hf => ?_
  simp only [snapshotDetails, List.mem_cons, List.not_mem_nil, or_false] at hf
  rcases hf with rfl | rfl | rfl | rfl
  · exact hrevision
  · exact htools
  · exact hresources
  · exact hprompts

/-! ### Messages of the link -/

/-- The entries of a payload are ones that Python holds. -/
def EntriesWellFormed (F : Json.FloatText) : Payload → Prop
  | .snapshot p => ∀ k, ∀ d ∈ p.definitions k, WellFormedEntry F k d
  | .mutation k p => WellFormedEntry F k (EntryPayload.definition k p.entry none)
  | _ => True

lemma admits_entry (P : Platform) (k : Kind) : Admits F
    (fun p : EntryPayload k => WellFormedEntry F k (EntryPayload.definition k p none))
    (EntryPayload.validate P k) := by
  cases k with
  | tool => exact fun v p hv hp => admits_tool v p hv hp none
  | resource => exact fun v p hv hp => admits_resource v p hv hp none
  | prompt => exact fun v p hv hp => admits_prompt v p hv hp none

lemma admits_mutation (P : Platform) (k : Kind) (cls field : String) : Admits F
    (fun p : MutationPayload k => WellFormedEntry F k (EntryPayload.definition k p.entry none))
    (mutationPayload P k cls field) := by
  refine admits_model fun o p ho hp => ?_
  obtain ⟨_, entry, hmk, hentry, rfl⟩ := Validation.seq_eq_ok.mp hp
  obtain ⟨revision, -, rfl⟩ := Validation.map_eq_ok.mp hmk
  exact (admits_entry P k).required ho hentry

lemma admits_snapshot (P : Platform) : Admits F
    (fun p : SnapshotPayload => ∀ k, ∀ d ∈ p.definitions k, WellFormedEntry F k d)
    (SnapshotPayload.validate P) := by
  refine admits_model fun o p ho hp => ?_
  simp only [Validation.seq_eq_ok, Validation.map_eq_ok] at hp
  obtain ⟨_, prompts, ⟨_, resources, ⟨_, tools, ⟨revision, -, rfl⟩, htools, rfl⟩, hresources, rfl⟩,
    hprompts, rfl⟩ := hp
  intro k d hd
  cases k with
  | tool =>
    obtain ⟨tool, htool, rfl⟩ := List.mem_map.mp hd
    exact (admits_list admits_tool).optional ho (by rintro _ ⟨⟩) htools tool htool none
  | resource =>
    obtain ⟨resource, hresource, rfl⟩ := List.mem_map.mp hd
    exact (admits_list admits_resource).optional ho (by rintro _ ⟨⟩) hresources resource hresource
      none
  | prompt =>
    obtain ⟨prompt, hprompt, rfl⟩ := List.mem_map.mp hd
    exact (admits_list admits_prompt).optional ho (by rintro _ ⟨⟩) hprompts prompt hprompt none

lemma entriesWellFormed_of_check {P : Platform} {messageType : String}
    {check : Json → Except Exc Payload} (hc : messagePayloadModel P messageType = some check)
    {v : Json} (hv : Json.WellFormed F v) {payload : Payload} (h : check v = .ok payload) :
    EntriesWellFormed F payload := by
  have hsnapshot : ∀ payload, messagePayloadModel.snapshot P v = .ok payload →
      EntriesWellFormed F payload := by
    intro payload h
    obtain ⟨p, hp, rfl⟩ := Validation.map_eq_ok.mp (modelValidate_eq_ok.mp h)
    exact admits_snapshot P v p hv hp
  have hmutation : ∀ (k : Kind) (cls cls' field : String) (payload : Payload),
      modelValidate cls (.mutation k <$> mutationPayload P k cls' field v) = .ok payload →
        EntriesWellFormed F payload := by
    intro k cls cls' field payload h
    obtain ⟨p, hp, rfl⟩ := Validation.map_eq_ok.mp (modelValidate_eq_ok.mp h)
    exact admits_mutation P k cls' field v p hv hp
  unfold messagePayloadModel at hc
  split at hc <;> cases hc
  case h_4 | h_5 | h_6 => exact hsnapshot payload h
  case h_7 | h_8 => exact hmutation .tool _ _ _ payload h
  case h_10 | h_11 => exact hmutation .resource _ _ _ payload h
  case h_13 | h_14 => exact hmutation .prompt _ _ _ payload h
  all_goals
    obtain ⟨p, -, rfl⟩ := Validation.map_eq_ok.mp (modelValidate_eq_ok.mp h)
    trivial

lemma wellFormedEntries_upsert {s s' : RegistryStore} (hs : WellFormedEntries F s) {k : Kind}
    {entry : EntryPayload k} (he : WellFormedEntry F k (EntryPayload.definition k entry none))
    (h : Rlp.upsert k s entry = .ok s') : WellFormedEntries F s' := by
  by_cases hk : k.key (EntryPayload.definition k entry none) ∈ (s.table k).dict
  · rw [upsert_present hk] at h
    obtain rfl := Except.ok.inj h
    refine hs.setTable (wellFormed_put (fun d hd => ?_) he (by simp)) rfl
    exact hs k d (Table.mem_values_of_mem_pop hd)
  · rw [upsert_absent hk] at h
    obtain rfl := Except.ok.inj h
    exact hs.setTable (wellFormed_put (hs k) he hk) rfl

lemma wellFormed_replaceRegistryFromSnapshot (registry : RegistryStore) {p : SnapshotPayload}
    (h : ∀ k, ∀ d ∈ p.definitions k, WellFormedEntry F k d) :
    WellFormedEntries F (replaceRegistryFromSnapshot registry p) := by
  intro k d hd
  rw [table_replaceRegistryFromSnapshot, Table.mem_values, Table.get_ofList] at hd
  exact h k d (List.mem_reverse.mp (List.mem_of_find?_eq_some hd))

variable {P : Platform} {h : RLPHandler} {ids : NewIds}

lemma wellFormedEntries_dispatch (hs : WellFormedEntries F h.registry) (envelope : RLPEnvelope)
    {payload : Payload} (hp : EntriesWellFormed F payload) :
    WellFormedEntries F (h.dispatch P ids envelope payload).2.registry := by
  cases payload with
  | snapshot p => exact wellFormed_replaceRegistryFromSnapshot h.registry hp
  | mutation k p =>
    simp only [RLPHandler.dispatch, registry_applyIncremental]
    split
    · cases hup : Rlp.upsert k h.registry.markFresh p.entry with
      | error e => exact hs
      | ok s' => exact wellFormedEntries_upsert (s := h.registry.markFresh) hs hp hup
    · exact hs
  | removed k p =>
    simp only [RLPHandler.dispatch, registry_applyIncremental]
    split
    · cases hde : RegistryStore.deregister k h.registry.markFresh p.name with
      | error e => exact hs
      | ok s' =>
        obtain ⟨-, rfl⟩ := RegistryStore.deregister_eq_ok.mp hde
        exact WellFormedEntries.setTable (s := h.registry.markFresh) hs
          (fun d hd => hs k d (Table.mem_values_of_mem_pop hd)) rfl
    · exact hs
  | bindSession p =>
    rw [registry_dispatch_eq_iff envelope (.bindSession p) |>.mpr trivial]
    exact hs
  | _ => exact hs

lemma wellFormedEntries_handleMessage (hs : WellFormedEntries F h.registry) {message : Obj}
    (hm : Json.WellFormed F (.obj message)) :
    WellFormedEntries F (h.handleMessage P ids message).2.registry := by
  cases hp : parse P message with
  | none =>
    obtain ⟨answer, hx⟩ := handleMessage_of_parse_none (h := h) ids hp
    rw [hx]
    exact hs
  | some x =>
    obtain ⟨envelope, payload⟩ := x
    rw [handleMessage_of_parse hp]
    obtain ⟨hv, check, hc, hk⟩ := parse_eq_some hp
    refine wellFormedEntries_dispatch hs envelope (entriesWellFormed_of_check hc ?_ hk)
    unfold validateMessage at hv
    obtain ⟨envelope', he, hv⟩ := Json.bind_ok hv
    split_ifs at hv
    obtain rfl := Except.ok.inj hv
    obtain ⟨_, payload', hmk, hpayload, rfl⟩ :=
      Validation.seq_eq_ok.mp (model_obj_eq_ok.mp (modelValidate_eq_ok.mp he)).1
    simp only [Validation.seq_eq_ok, Validation.map_eq_ok] at hmk
    obtain ⟨_, _, ⟨_, _, ⟨_, _, ⟨_, _, ⟨_, _, ⟨_, _, ⟨_, _, ⟨_, _, ⟨_, -, rfl⟩, -, rfl⟩, -, rfl⟩,
      -, rfl⟩, -, rfl⟩, -, rfl⟩, -, rfl⟩, -, rfl⟩, -, rfl⟩ := hmk
    exact admits_dict.optional hm wellFormed_nil hpayload

lemma dumped_of_wellFormed {registry : RegistryStore} (h : WellFormedEntries F registry) :
    Dumped registry := fun d hd => (h .prompt d hd).1

end NaiaRelay.Rlp

namespace NaiaRelay.Runtime

open NaiaRelay.Registry NaiaRelay.Rlp NaiaRelay.Tep

variable {F : Json.FloatText} {P : Platform} {h h' : HostRelayRuntime} {e : HostEvent}

/-- The message of an event, if it has one, is one that Python holds. -/
def HostEvent.Held (F : Json.FloatText) : HostEvent → Prop
  | .rlp _ _ message => Json.WellFormed F (.obj message)
  | .executor _ message => Json.WellFormed F (.obj message)
  | _ => True

/-- A host whose entries are ones that Python holds, and that asks for no token. -/
structure Readable (F : Json.FloatText) (h : HostRelayRuntime) : Prop where
  entries : WellFormedEntries F h.registry
  tokenless : h.rlp.sessionToken = none

lemma Readable.of_eq (hr : Readable F h) (hregistry : h'.registry = h.registry)
    (hrlp : h'.rlp = h.rlp) : Readable F h' :=
  ⟨hregistry ▸ hr.entries, hrlp ▸ hr.tokenless⟩

lemma rlp_conclude (h : HostRelayRuntime) (answer : Except Exc Obj) :
    (h.conclude answer).rlp = h.rlp := by
  cases answer <;> rfl

lemma rlp_afterAwait (h : HostRelayRuntime) (i : ℕ) (l : ExecutorLink) :
    (h.afterAwait i l).rlp = h.rlp := by
  unfold HostRelayRuntime.afterAwait
  dsimp only
  split
  · exact rlp_conclude _ _
  · rfl

lemma Readable.handleRlpMessage (hr : Readable F h) (ids : NewIds) (operationIds : OperationIds)
    {message : Obj} (hm : Json.WellFormed F (.obj message)) :
    Readable F (h.handleRlpMessage P ids operationIds message).2 := by
  unfold HostRelayRuntime.handleRlpMessage
  by_cases hstarted : h.base.started = true
  · rw [BaseRelayRuntime.ensureStarted, if_pos hstarted]
    dsimp only
    have hentries := @wellFormedEntries_handleMessage F P ⟨h.registry, h.rlp⟩ ids
      hr.entries _ hm
    obtain ⟨-, htoken, -⟩ := session_handleMessage (P := P) ⟨h.registry, h.rlp⟩ ids message
    have hafter : Readable F { h with
        registry := (RLPHandler.handleMessage P ids ⟨h.registry, h.rlp⟩ message).2.registry
        rlp := (RLPHandler.handleMessage P ids ⟨h.registry, h.rlp⟩ message).2.records } :=
      ⟨hentries, htoken.trans hr.tokenless⟩
    split
    · exact hafter.of_eq (registry_conclude _ _) (rlp_conclude _ _)
    · split
      · exact hafter.of_eq (registry_conclude _ _) (rlp_conclude _ _)
      · exact hafter.of_eq rfl rfl
  · rw [BaseRelayRuntime.ensureStarted, if_neg hstarted]
    exact hr

lemma Readable.handleExecutorStdioMessage (hr : Readable F h) (newMessageId : String)
    {message : Obj} (hm : Json.WellFormed F (.obj message)) :
    Readable F (h.handleExecutorStdioMessage P newMessageId message).2 := by
  obtain ⟨tep, rlp, hforget, hafter⟩ := handleExecutorStdioMessage_eq (P := P) h newMessageId message
  have htoken : rlp.sessionToken = h.rlp.sessionToken := congrArg (·.sessionToken) hforget
  rw [hafter]
  exact ⟨hr.entries.afterMutations hm, htoken.trans hr.tokenless⟩

lemma Readable.step (he : e.Held F) (hr : Readable F h) (hstep : h.step P e = some h') :
    Readable F h' := by
  cases e with
  | rlp ids operationIds message =>
    simp only [HostRelayRuntime.step] at hstep
    split at hstep
    · obtain rfl := Option.some.inj hstep
      exact hr.handleRlpMessage ids operationIds he
    · cases hstep
  | executor newMessageId message =>
    obtain rfl := Option.some.inj hstep
    exact hr.handleExecutorStdioMessage newMessageId he
  | acquire i | sent i outcome | resume i | expire i outer =>
    obtain ⟨l, -, rfl⟩ := Option.map_eq_some_iff.mp hstep
    exact hr.of_eq (registry_afterAwait _ _ _) (rlp_afterAwait _ _ _)
  | attach adapter | detach adapter | stop | stopped =>
    obtain rfl := Option.some.inj hstep
    exact hr.of_eq rfl rfl

/-- **A host holds what was read**, whatever happens to it, when all its messages were. -/
lemma Readable.run {s s' : HostRelayRuntime} {es : List HostEvent} (hes : ∀ e ∈ es, e.Held F)
    (hr : Readable F s) (hrun : Run.run (HostRelayRuntime.step P) s es = some s') :
    Readable F s' := by
  refine Run.run_invariant_of (I := Readable F) (Q := fun _ e => e.Held F)
    (fun _ _ _ hr he hstep => hr.step he hstep) hr (fun p hp => ?_) hrun
  obtain ⟨_, _, _, rfl, -, -⟩ := Run.mem_trace hrun hp
  exact hes p.2 (by simp)

lemma readable_create (F : Json.FloatText) (relayId sessionId : String) (config : RelayConfig) :
    Readable F (HostRelayRuntime.create relayId sessionId config).start :=
  ⟨wellFormedEntries_empty, rfl⟩

end NaiaRelay.Runtime
