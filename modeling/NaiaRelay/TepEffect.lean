import NaiaRelay.Mutation
import NaiaRelay.TepHandler

set_option autoImplicit false

/-!
What an executor message does to the registry: the changes it asks for, applied in order up
to the first one refused.
-/

namespace NaiaRelay.Tep

open NaiaRelay.Pydantic NaiaRelay.Registry

variable (P : Platform)

/-- The changes a payload asks for, with the owner its registrations get. -/
def Payload.mutations (owner : Option String) : Payload → List Mutation
  | registerTools p => p.tools.map fun tool => .register .tool (tool.definition owner)
  | deregisterTools p => p.toolNames.map (.deregister .tool)
  | registerResources p =>
    p.resources.map fun resource => .register .resource (resource.definition owner)
  | deregisterResources p => p.resourceUris.map (.deregister .resource)
  | registerPrompts p => p.prompts.map fun prompt => .register .prompt (prompt.definition owner)
  | deregisterPrompts p => p.promptNames.map (.deregister .prompt)
  | _ => []

/-- A message's envelope and payload, if both pass. -/
def parse (message : Obj) : Option (TEPEnvelope × Payload) :=
  match validateMessage message with
  | .error _ => none
  | .ok envelope =>
    match messagePayloadModel P envelope.messageType with
    | none => none
    | some check =>
      match check (.obj envelope.payload) with
      | .error _ => none
      | .ok payload => some (envelope, payload)

/-- The changes a message asks for. -/
def mutations (message : Obj) : List Mutation :=
  (parse P message).elim [] fun x => x.2.mutations x.1.sessionId

/-- The registry after the changes, applied in order up to the first one refused. -/
def afterMutations (registry : RegistryStore) (changes : List Mutation) : RegistryStore :=
  (Batch.forEach RegistryStore.mutate registry changes).2

variable {P} {callbacks : TEPCallbacks} {newMessageId : String} {h : TEPHandler}

@[simp] lemma replyStatus_reply (envelope : TEPEnvelope) (payload : Obj) :
    replyStatus (reply envelope newMessageId payload) = Obj.get payload "status" := rfl

/-! ### One message -/

lemma mutateEach_eq {A : Type} {op : RegistryStore → A → Except Exc RegistryStore}
    {f : A → Mutation} (hop : ∀ s a, op s a = RegistryStore.mutate s (f a)) (items : List A)
    (response : Except Exc Obj) :
    h.mutateEach op items response =
      ((Batch.forEach RegistryStore.mutate h.registry (items.map f)).1.bind fun _ => response,
        { h with registry := afterMutations h.registry (items.map f) }) := by
  have hf : op = fun s a => RegistryStore.mutate s (f a) := by
    funext s a
    exact hop s a
  rw [TEPHandler.mutateEach, afterMutations, Batch.forEach_map, hf]

lemma dispatch_cases (envelope : TEPEnvelope) (payload : Payload) :
    (payload.mutations envelope.sessionId = [] ∧
        (h.dispatch callbacks newMessageId envelope payload).2.registry = h.registry) ∨
      h.dispatch callbacks newMessageId envelope payload =
        ((Batch.forEach RegistryStore.mutate h.registry
            (payload.mutations envelope.sessionId)).1.bind
              fun _ => okResponse envelope newMessageId,
          { h with registry :=
              afterMutations h.registry (payload.mutations envelope.sessionId) }) := by
  cases payload with
  | registerTools p =>
    have := mutateEach_eq (h := h) (f := .register .tool) (fun _ _ => rfl)
      (p.tools.map (·.definition envelope.sessionId)) (okResponse envelope newMessageId)
    rw [List.map_map] at this
    exact Or.inr this
  | registerResources p =>
    have := mutateEach_eq (h := h) (f := .register .resource) (fun _ _ => rfl)
      (p.resources.map (·.definition envelope.sessionId)) (okResponse envelope newMessageId)
    rw [List.map_map] at this
    exact Or.inr this
  | registerPrompts p =>
    have := mutateEach_eq (h := h) (f := .register .prompt) (fun _ _ => rfl)
      (p.prompts.map (·.definition envelope.sessionId)) (okResponse envelope newMessageId)
    rw [List.map_map] at this
    exact Or.inr this
  | deregisterTools p =>
    exact Or.inr (mutateEach_eq (f := .deregister .tool) (fun _ _ => rfl) p.toolNames _)
  | deregisterResources p =>
    exact Or.inr (mutateEach_eq (f := .deregister .resource) (fun _ _ => rfl) p.resourceUris _)
  | deregisterPrompts p =>
    exact Or.inr (mutateEach_eq (f := .deregister .prompt) (fun _ _ => rfl) p.promptNames _)
  | executeTool p => exact Or.inl ⟨rfl, by simp only [TEPHandler.dispatch]; split <;> rfl⟩
  | readResource p => exact Or.inl ⟨rfl, by simp only [TEPHandler.dispatch]; split <;> rfl⟩
  | getPrompt p => exact Or.inl ⟨rfl, by simp only [TEPHandler.dispatch]; split <;> rfl⟩
  | _ => exact Or.inl ⟨rfl, rfl⟩

lemma handleMessageOrError_of_ok {message response : Obj}
    (hm : (h.handleMessage P callbacks newMessageId message).1 = .ok response) :
    (h.handleMessageOrError P callbacks newMessageId message).1 = .ok response := by
  unfold TEPHandler.handleMessageOrError
  split
  · rename_i heq
    rw [heq] at hm
    simp at hm
  · exact hm

lemma handleMessageOrError_of_error {message : Obj} {e : Exc} {h' : TEPHandler}
    (hm : h.handleMessage P callbacks newMessageId message = (.error e, h')) :
    h.handleMessageOrError P callbacks newMessageId message =
      if e.isValueError then (.ok (buildValidationErrorResponse P newMessageId message e), h')
      else (.error e, h') := by
  unfold TEPHandler.handleMessageOrError
  split
  · rename_i e' h'' heq
    obtain ⟨he, rfl⟩ := Prod.mk.inj (hm.symm.trans heq)
    rw [Except.error.inj he]
  · rename_i hne
    exact (hne e h' hm).elim

lemma validateMessage_error {message : Obj} {e : Exc} (he : validateMessage message = .error e) :
    e.isValueError = true := by
  unfold validateMessage at he
  cases hv : modelValidate "TEPEnvelope" (TEPEnvelope.validate (.obj message)) with
  | error e' =>
    rw [hv] at he
    obtain rfl : e' = e := Except.error.inj he
    exact modelValidate_error hv
  | ok envelope =>
    simp only [hv, Except.bind] at he
    split_ifs at he <;> (rw [← Except.error.inj he]; rfl)

lemma messagePayloadModel_error {messageType : String} {check : Json → Except Exc Payload}
    {v : Json} {e : Exc} (hc : messagePayloadModel P messageType = some check)
    (he : check v = .error e) : e.isValueError = true := by
  unfold messagePayloadModel at hc
  split at hc
  case h_19 => simp at hc
  all_goals
    rw [← Option.some.inj hc] at he
    exact modelValidate_error he

lemma validate_of_validateMessage {message : Obj} {envelope : TEPEnvelope}
    (hv : validateMessage message = .ok envelope) :
    TEPEnvelope.validate (.obj message) = .ok envelope := by
  unfold validateMessage at hv
  cases hm : modelValidate "TEPEnvelope" (TEPEnvelope.validate (.obj message)) with
  | error e => simp [hm, Except.bind] at hv
  | ok env =>
    simp only [hm, Except.bind] at hv
    split_ifs at hv
    obtain rfl : env = envelope := Except.ok.inj hv
    exact modelValidate_eq_ok.mp hm

lemma validateMessage_fields {message : Obj} {envelope : TEPEnvelope}
    (hv : validateMessage message = .ok envelope) :
    Obj.get message "message_type" = some (.str envelope.messageType) ∧
      (∀ id, envelope.executionId = some id → Obj.get message "execution_id" = some (.str id)) ∧
      Obj.getD message "payload" (.obj []) = .obj envelope.payload := by
  have hfields := validate_of_validateMessage hv
  simp only [TEPEnvelope.validate, model_obj_eq_ok, Validation.seq_eq_ok, Validation.map_eq_ok,
    required_eq_ok, str_eq_ok, exists_eq_right, exists_and_left, exists_exists_and_eq_and,
    exists_exists_and_exists_and_eq_and, existsAndEq, and_true] at hfields
  obtain ⟨⟨p, v, t, i, s, r, e, ⟨⟨⟨⟨⟨-, -, ht⟩, -⟩, -⟩, -⟩, he⟩, o, ho, rfl⟩, -⟩ := hfields
  refine ⟨ht, fun id hid => ?_, ?_⟩
  · rcases optional_eq_ok.mp he with ⟨-, hnone⟩ | ⟨v, hg, hc⟩
    · have hsome := hnone.trans hid
      cases hsome
    · obtain rfl : e = some id := hid
      rw [hg, nullable_str_eq_some.mp hc]
  · rcases optional_eq_ok.mp ho with ⟨hg, rfl⟩ | ⟨v, hg, hc⟩
    · rw [Obj.getD, hg]
      rfl
    · rw [Obj.getD, hg, dict_eq_ok.mp hc]
      rfl

/-- The types of message that ask for changes of the registry. -/
def registryMessageTypes : List String :=
  ["register_tools", "deregister_tools", "register_resources", "deregister_resources",
    "register_prompts", "deregister_prompts"]

lemma mutations_nil_of_check {messageType : String} {check : Json → Except Exc Payload} {v : Json}
    {payload : Payload} {owner : Option String} (ht : messageType ∉ registryMessageTypes)
    (hc : messagePayloadModel P messageType = some check) (hk : check v = .ok payload) :
    payload.mutations owner = [] := by
  unfold messagePayloadModel at hc
  split at hc
  case h_19 => simp at hc
  all_goals first
    | exact absurd (by decide) ht
    | (rw [← Option.some.inj hc, modelValidate_eq_ok, Validation.map_eq_ok] at hk
       obtain ⟨_, -, rfl⟩ := hk
       rfl)

lemma parse_eq_some {message : Obj} {envelope : TEPEnvelope} {payload : Payload}
    (hp : parse P message = some (envelope, payload)) :
    validateMessage message = .ok envelope ∧ ∃ check,
      messagePayloadModel P envelope.messageType = some check ∧
        check (.obj envelope.payload) = .ok payload := by
  unfold parse at hp
  cases hv : validateMessage message with
  | error e => simp [hv] at hp
  | ok env =>
    cases hc : messagePayloadModel P env.messageType with
    | none => simp [hv, hc] at hp
    | some check =>
      cases hk : check (.obj env.payload) with
      | error e => simp [hv, hc, hk] at hp
      | ok p =>
        simp only [hv, hc, hk, Option.some.injEq, Prod.mk.injEq] at hp
        obtain ⟨rfl, rfl⟩ := hp
        exact ⟨rfl, check, hc, hk⟩

lemma mutations_nil_of_type {message : Obj}
    (ht : ∀ t ∈ registryMessageTypes, Obj.get message "message_type" ≠ some (.str t)) :
    mutations P message = [] := by
  unfold mutations
  cases hp : parse P message with
  | none => rfl
  | some x =>
    obtain ⟨envelope, payload⟩ := x
    obtain ⟨hv, check, hc, hk⟩ := parse_eq_some hp
    have hn : envelope.messageType ∉ registryMessageTypes := fun hmem =>
      ht _ hmem (validateMessage_fields hv).1
    exact mutations_nil_of_check hn hc hk

lemma handleMessage_of_parse {message : Obj} {envelope : TEPEnvelope} {payload : Payload}
    (hp : parse P message = some (envelope, payload)) :
    h.handleMessage P callbacks newMessageId message
      = h.dispatch callbacks newMessageId envelope payload := by
  obtain ⟨hv, check, hc, hk⟩ := parse_eq_some hp
  unfold TEPHandler.handleMessage
  simp [hv, hc, hk]

lemma handleMessage_registry_of_parse_none {message : Obj} (hp : parse P message = none) :
    (h.handleMessage P callbacks newMessageId message).2 = h := by
  unfold parse at hp
  unfold TEPHandler.handleMessage
  cases hv : validateMessage message with
  | error e => rfl
  | ok env =>
    cases hc : messagePayloadModel P env.messageType with
    | none => simp [hc]
    | some check =>
      cases hk : check (.obj env.payload) with
      | error e => simp [hc, hk]
      | ok p => simp [hv, hc, hk] at hp

lemma handleMessageOrError_ok_of_parse_none {message : Obj} (hp : parse P message = none) :
    ∃ r, (h.handleMessageOrError P callbacks newMessageId message).1 = .ok r ∧
      replyStatus r = some (.str "error") := by
  have hguard : ∀ e, e.isValueError = true →
      h.handleMessage P callbacks newMessageId message = (.error e, h) →
        ∃ r, (h.handleMessageOrError P callbacks newMessageId message).1 = .ok r ∧
          replyStatus r = some (.str "error") := by
    intro e hve hm
    rw [handleMessageOrError_of_error hm, if_pos hve]
    exact ⟨_, rfl, rfl⟩
  unfold parse at hp
  unfold TEPHandler.handleMessage at hguard
  cases hv : validateMessage message with
  | error e => exact hguard e (validateMessage_error hv) (by simp only [hv])
  | ok envelope =>
    cases hc : messagePayloadModel P envelope.messageType with
    | none =>
      have hm : (h.handleMessage P callbacks newMessageId message).1
          = .ok (errorResponse envelope newMessageId "unknown_message_type"
              envelope.messageType) := by
        unfold TEPHandler.handleMessage
        simp only [hv, hc]
      exact ⟨_, handleMessageOrError_of_ok hm, rfl⟩
    | some check =>
      cases hk : check (.obj envelope.payload) with
      | ok payload => simp [hv, hc, hk] at hp
      | error e => exact hguard e (messagePayloadModel_error hc hk) (by simp only [hv, hc, hk])

/-- **The effect of a message on the registry.** -/
theorem handleMessage_registry (message : Obj) :
    (h.handleMessage P callbacks newMessageId message).2.registry
      = afterMutations h.registry (mutations P message) := by
  unfold mutations
  cases hp : parse P message with
  | none =>
    rw [handleMessage_registry_of_parse_none hp]
    rfl
  | some x =>
    obtain ⟨envelope, payload⟩ := x
    rw [handleMessage_of_parse hp, Option.elim_some]
    rcases dispatch_cases (h := h) envelope payload with ⟨hm, hr⟩ | hd
    · rw [hr, hm]
      rfl
    · rw [hd]

@[simp] lemma handleMessageOrError_snd (message : Obj) :
    (h.handleMessageOrError P callbacks newMessageId message).2
      = (h.handleMessage P callbacks newMessageId message).2 := by
  unfold TEPHandler.handleMessageOrError
  split
  · rename_i heq
    split <;> rw [heq]
  · rfl

/-! ### A message that fails -/

/-- The handler raises, or the guarded handler answers with an error. -/
def Fails (P : Platform) (callbacks : TEPCallbacks) (newMessageId : String) (h : TEPHandler)
    (message : Obj) : Prop :=
  (∃ e, (h.handleMessage P callbacks newMessageId message).1 = .error e) ∨
    ∃ response, (h.handleMessageOrError P callbacks newMessageId message).1 = .ok response ∧
      replyStatus response = some (.str "error")

lemma refused_of_fails {message : Obj} (hf : Fails P callbacks newMessageId h message)
    (hm : mutations P message ≠ []) :
    ∃ e, (Batch.forEach RegistryStore.mutate h.registry (mutations P message)).1 = .error e := by
  unfold mutations at hm ⊢
  cases hp : parse P message with
  | none => simp [hp] at hm
  | some x =>
    obtain ⟨envelope, payload⟩ := x
    rw [hp, Option.elim_some] at hm
    rw [Option.elim_some]
    cases hb : (Batch.forEach RegistryStore.mutate h.registry
        (payload.mutations envelope.sessionId)).1 with
    | error e => exact ⟨e, rfl⟩
    | ok u =>
      have hok : (h.handleMessage P callbacks newMessageId message).1
          = .ok (reply envelope newMessageId (statusDump "ok" none none [])) := by
        rcases dispatch_cases (h := h) envelope payload with ⟨hn, -⟩ | hd
        · exact absurd hn hm
        · rw [handleMessage_of_parse hp, hd, hb]
          rfl
      rcases hf with ⟨e, he⟩ | ⟨response, hr, hs⟩
      · rw [hok] at he
        simp at he
      · rw [handleMessageOrError_of_ok hok, Except.ok.injEq] at hr
        rw [← hr] at hs
        simp at hs

/-- **A failed message keeps what it did before the failure.** Either it asks for no change
and the registry is as it was, or the changes it asks for split at the first one refused:
those before it are applied, one revision each, and nothing after them. -/
theorem failed_message_effect (P : Platform) (callbacks : TEPCallbacks) (newMessageId : String)
    (h : TEPHandler) (message : Obj) (hf : Fails P callbacks newMessageId h message) :
    let after := (h.handleMessage P callbacks newMessageId message).2.registry
    (h.handleMessageOrError P callbacks newMessageId message).2.registry = after ∧
      ((mutations P message = [] ∧ after = h.registry) ∨
        ∃ applied refused rest e, mutations P message = applied ++ refused :: rest ∧
          Batch.forEach RegistryStore.mutate h.registry applied = (.ok (), after) ∧
          after.revision = h.registry.revision + applied.length ∧
          after.mutate refused = .error e) := by
  refine ⟨by rw [handleMessageOrError_snd], ?_⟩
  rw [handleMessage_registry]
  by_cases hm : mutations P message = []
  · refine Or.inl ⟨hm, ?_⟩
    rw [hm]
    rfl
  · obtain ⟨e, he⟩ := refused_of_fails hf hm
    obtain ⟨applied, refused, rest, hl, happ, href⟩ := Batch.forEach_error he
    exact Or.inr ⟨applied, refused, rest, e, hl, happ,
      RegistryStore.revision_forEach_mutate happ, href⟩

/-- A message that registers the tool `a` twice. -/
def registerTwice : Obj :=
  let tool : Json := .obj [("name", .str "a"), ("description", .str ""), ("input_schema", .obj [])]
  [("protocol", .str "tep"), ("version", .str "1.0"), ("message_type", .str "register_tools"),
    ("message_id", .str "m1"), ("payload", .obj [("tools", .arr [tool, tool])])]

lemma registerTwice_raises :
    (TEPHandler.handleMessage .strict {} "m2" { registry := {} } registerTwice).1
      = .error (.valueError "Duplicate tool name: a") := rfl

/-- The second registration is refused, and the first one stays. -/
theorem registerTwice_registers_once :
    (∃ e, (TEPHandler.handleMessage .strict {} "m2" { registry := {} } registerTwice).1
        = .error e) ∧
      (∃ response, (TEPHandler.handleMessageOrError .strict {} "m2" { registry := {} }
          registerTwice).1 = .ok response ∧ replyStatus response = some (.str "error")) ∧
      (TEPHandler.handleMessage .strict {} "m2" { registry := {} } registerTwice).2.registry.revision
        = 1 ∧
      (TEPHandler.handleMessage .strict {} "m2" { registry := {} }
        registerTwice).2.registry.tools.values.map (·.name) = ["a"] :=
  ⟨⟨_, registerTwice_raises⟩, ⟨_, rfl, rfl⟩, rfl, rfl⟩

theorem registerTwice_failed_effect :
    let h : TEPHandler := { registry := {} }
    let after := (h.handleMessage .strict {} "m2" registerTwice).2.registry
    (h.handleMessageOrError .strict {} "m2" registerTwice).2.registry = after ∧
      ((mutations .strict registerTwice = [] ∧ after = h.registry) ∨
        ∃ applied refused rest e, mutations .strict registerTwice = applied ++ refused :: rest ∧
          Batch.forEach RegistryStore.mutate h.registry applied = (.ok (), after) ∧
          after.revision = h.registry.revision + applied.length ∧
          after.mutate refused = .error e) :=
  failed_message_effect .strict {} "m2" { registry := {} } registerTwice
    (Or.inl ⟨_, registerTwice_raises⟩)

end NaiaRelay.Tep
