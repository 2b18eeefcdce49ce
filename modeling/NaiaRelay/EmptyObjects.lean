import Mathlib.Data.List.Forall2
import NaiaRelay.TepEffect

set_option autoImplicit false

/-!
An empty list stands for an empty object.

Some executors write one for the other, and the payload models say in which fields that is
taken. Here the fields are listed message type by message type, two messages are related
when the second has empty lists for empty objects in some of them, and every model is shown
to accept both or neither, with the same value. A list with something in it is refused.
-/

namespace NaiaRelay.Pydantic

variable {α β : Type}

/-! ### Related values -/

/-- Objects with the same keys, whose values are related under each of them. -/
def Fieldwise (R : String → Json → Json → Prop) (o o' : Obj) : Prop :=
  List.Forall₂ (fun p p' => p.1 = p'.1 ∧ R p.1 p.2 p'.2) o o'

/-- Related as objects, or equal. -/
inductive OnObject (R : String → Json → Json → Prop) : Json → Json → Prop
  | other (v : Json) : OnObject R v v
  | obj {o o' : Obj} (h : Fieldwise R o o') : OnObject R (.obj o) (.obj o')

/-- Related as lists, item by item, or equal. -/
inductive OnArray (R : Json → Json → Prop) : Json → Json → Prop
  | other (v : Json) : OnArray R v v
  | arr {l l' : List Json} (h : List.Forall₂ R l l') : OnArray R (.arr l) (.arr l')

/-- An object with a bad value in one of its fields. -/
def InObject (bad : String → Json → Prop) (v : Json) : Prop :=
  ∃ o name w, v = .obj o ∧ Obj.get o name = some w ∧ bad name w

/-- A list with a bad item. -/
def InArray (bad : Json → Prop) (v : Json) : Prop := ∃ l i, v = .arr l ∧ i ∈ l ∧ bad i

/-- A check that makes no difference between related values and refuses the bad ones. -/
structure Takes (R : Json → Json → Prop) (bad : Json → Prop) (check : Json → Option α) : Prop where
  same : ∀ {v v'}, R v v' → check v = check v'
  strict : ∀ {v}, bad v → check v = none

/-- The body of a model that makes no difference between objects related field by field and
refuses a bad value in the fields it lists. -/
structure Reads (R : String → Json → Json → Prop) (bad : String → Json → Prop)
    (names : List String) (body : Obj → Checked α) : Prop where
  same : ∀ {o o'}, Fieldwise R o o' → (body o).toOption = (body o').toOption
  strict : ∀ {o name v}, name ∈ names → Obj.get o name = some v → bad name v →
    (body o).toOption = none

variable {R : String → Json → Json → Prop} {bad : String → Json → Prop} {o o' : Obj}
  {name : String} {names names' : List String}

lemma Fieldwise.get (h : Fieldwise R o o') (name : String) :
    (Obj.get o name = none ∧ Obj.get o' name = none) ∨
      ∃ v v', Obj.get o name = some v ∧ Obj.get o' name = some v' ∧ R name v v' := by
  induction h with
  | nil => exact Or.inl ⟨rfl, rfl⟩
  | @cons p p' l l' hp _ ih =>
    obtain ⟨k, v⟩ := p
    obtain ⟨k', v'⟩ := p'
    obtain ⟨rfl, hr⟩ := hp
    by_cases hk : name = k
    · subst hk
      exact Or.inr ⟨v, v', by simp [Obj.get], by simp [Obj.get], hr⟩
    · have hb : (name == k) = false := by simpa using hk
      simpa [Obj.get, List.lookup_cons, hb] using ih

lemma Fieldwise.refl (hr : ∀ name v, R name v v) (o : Obj) : Fieldwise R o o :=
  List.forall₂_same.mpr fun p _ => ⟨rfl, hr p.1 p.2⟩

lemma Fieldwise.extraForbidden (h : Fieldwise R o o') (fields : List String) :
    (extraForbidden o fields).toOption = (extraForbidden o' fields).toOption := by
  have hempty : (o.filter fun p => !fields.contains p.1).isEmpty
      = (o'.filter fun p => !fields.contains p.1).isEmpty := by
    induction h with
    | nil => rfl
    | @cons p p' l l' hp _ ih =>
      rw [List.filter_cons, List.filter_cons, hp.1]
      split
      · rfl
      · exact ih
  unfold Pydantic.extraForbidden
  simp only [hempty]
  split <;> rfl

/-! ### What the schema language keeps -/

@[simp] lemma toOption_within (part : Json) (x : Checked α) :
    (within part x).toOption = x.toOption := Validation.toOption_mapErrors _ _

@[simp] lemma toOption_modelValidate (cls : String) (x : Checked α) :
    (modelValidate cls x).toOption = x.toOption := by
  cases x <;> rfl

lemma toOption_required (o : Obj) (name : String) (check : Json → Checked α) :
    (required o name check).toOption = (Obj.get o name).bind fun v => (check v).toOption := by
  unfold required
  split
  · rename_i h
    rw [h]
    rfl
  · rename_i v h
    rw [h, toOption_within]
    rfl

lemma toOption_optional (o : Obj) (name : String) (default : α) (check : Json → Checked α) :
    (optional o name default check).toOption
      = (Obj.get o name).elim (some default) fun v => (check v).toOption := by
  unfold optional
  split
  · rename_i h
    rw [h]
    rfl
  · rename_i v h
    rw [h, toOption_within]
    rfl

namespace Reads

lemma required_plain (check : Json → Checked α) (h : ∀ v v', R name v v' → v' = v) :
    Reads R bad [] fun o => required o name check where
  same ho := by
    rw [toOption_required, toOption_required]
    rcases ho.get name with ⟨hn, hn'⟩ | ⟨v, v', hv, hv', hr⟩
    · rw [hn, hn']
    · rw [hv, hv', h v v' hr]
  strict hmem := by simp at hmem

lemma optional_plain (default : α) (check : Json → Checked α) (h : ∀ v v', R name v v' → v' = v) :
    Reads R bad [] fun o => optional o name default check where
  same ho := by
    rw [toOption_optional, toOption_optional]
    rcases ho.get name with ⟨hn, hn'⟩ | ⟨v, v', hv, hv', hr⟩
    · rw [hn, hn']
    · rw [hv, hv', h v v' hr]
  strict hmem := by simp at hmem

lemma required_takes {check : Json → Checked α}
    (h : Takes (R name) (bad name) fun v => (check v).toOption) :
    Reads R bad [name] fun o => required o name check where
  same ho := by
    rw [toOption_required, toOption_required]
    rcases ho.get name with ⟨hn, hn'⟩ | ⟨v, v', hv, hv', hr⟩
    · rw [hn, hn']
    · rw [hv, hv']
      exact h.same hr
  strict hmem hv hb := by
    obtain rfl := List.mem_singleton.mp hmem
    rw [toOption_required, hv]
    exact h.strict hb

lemma optional_takes {default : α} {check : Json → Checked α}
    (h : Takes (R name) (bad name) fun v => (check v).toOption) :
    Reads R bad [name] fun o => optional o name default check where
  same ho := by
    rw [toOption_optional, toOption_optional]
    rcases ho.get name with ⟨hn, hn'⟩ | ⟨v, v', hv, hv', hr⟩
    · rw [hn, hn']
    · rw [hv, hv']
      exact h.same hr
  strict hmem hv hb := by
    obtain rfl := List.mem_singleton.mp hmem
    rw [toOption_optional, hv]
    exact h.strict hb

lemma map (f : α → β) {body : Obj → Checked α} (h : Reads R bad names body) :
    Reads R bad names fun o => f <$> body o where
  same ho := by rw [Validation.toOption_map, Validation.toOption_map, h.same ho]
  strict hmem hv hb := by
    rw [Validation.toOption_map, h.strict hmem hv hb]
    rfl

lemma seq {body : Obj → Checked (α → β)} {field : Obj → Checked α} (h : Reads R bad names body)
    (h' : Reads R bad names' field) : Reads R bad (names ++ names') fun o => body o <*> field o where
  same ho := by
    rw [Validation.toOption_seq, Validation.toOption_seq, h.same ho, h'.same ho]
  strict hmem hv hb := by
    rw [Validation.toOption_seq]
    rcases List.mem_append.mp hmem with hm | hm
    · rw [h.strict hm hv hb]
      rfl
    · rw [h'.strict hm hv hb]
      cases (body _).toOption <;> rfl

end Reads

lemma Takes.model {cls : String} {fields : List String} {body : Obj → Checked α}
    (h : Reads R bad names body) (hbad : ∀ name v, bad name v → name ∈ names) :
    Takes (OnObject R) (InObject bad) fun v => (model cls fields body v).toOption where
  same hr := by
    cases hr with
    | other v => rfl
    | obj ho =>
      simp only [Pydantic.model, Validation.toOption_seqLeft]
      rw [h.same ho, ho.extraForbidden]
  strict hb := by
    obtain ⟨o, name, w, rfl, hw, hbw⟩ := hb
    simp only [Pydantic.model, Validation.toOption_seqLeft]
    rw [h.strict (hbad name w hbw) hw hbw]
    rfl

lemma Takes.map (f : α → β) {S : Json → Json → Prop} {bad : Json → Prop} {check : Json → Checked α}
    (h : Takes S bad fun v => (check v).toOption) :
    Takes S bad fun v => (f <$> check v).toOption where
  same hr := by rw [Validation.toOption_map, Validation.toOption_map, h.same hr]
  strict hb := by
    rw [Validation.toOption_map, h.strict hb]
    rfl

lemma forall₂_zipIdx {S : Json → Json → Prop} (check : Json → Checked α)
    (hs : ∀ v v', S v v' → (check v).toOption = (check v').toOption) {l l' : List Json}
    (h : List.Forall₂ S l l') (n : ℕ) :
    List.Forall₂ (fun x y => x.toOption = y.toOption)
      ((l.zipIdx n).map fun p => within (.int p.2) (check p.1))
      ((l'.zipIdx n).map fun p => within (.int p.2) (check p.1)) := by
  induction h generalizing n with
  | nil => exact .nil
  | cons hv _ ih =>
    refine .cons ?_ (ih (n + 1))
    rw [toOption_within, toOption_within]
    exact hs _ _ hv

lemma Takes.list {S : Json → Json → Prop} {bad : Json → Prop} {check : Json → Checked α}
    (h : Takes S bad fun v => (check v).toOption) :
    Takes (OnArray S) (InArray bad) fun v => (list check v).toOption where
  same hr := by
    cases hr with
    | other v => rfl
    | arr hl => exact Validation.toOption_all_congr (forall₂_zipIdx check (fun _ _ => h.same) hl 0)
  strict hb := by
    obtain ⟨l, i, rfl, hi, hbad⟩ := hb
    obtain ⟨n, hn, rfl⟩ := List.getElem_of_mem hi
    have hmem : (l[n], n) ∈ l.zipIdx := List.mk_mem_zipIdx_iff_getElem?.mpr (by simp)
    refine Validation.toOption_all_none (List.mem_map_of_mem hmem) ?_
    rw [toOption_within]
    exact h.strict hbad

end NaiaRelay.Pydantic

namespace NaiaRelay.Tep

open NaiaRelay.Pydantic NaiaRelay.Registry

variable {P : Platform} {callbacks : TEPCallbacks} {newMessageId : String}

/-! ### The fields that take an empty list -/

/-- Where a payload has object bags: among its own fields, or in each item of a list. -/
inductive Places
  | fields (names : List String)
  | items (field : String) (names : List String)

/-- The object bags of the payload of each type of message. -/
def bagPlaces (messageType : String) : Places :=
  match messageType with
  | "register_executor" => .fields ["metadata"]
  | "register_tools" => .items "tools" ["input_schema", "output_schema", "metadata"]
  | "register_resources" => .items "resources" ["metadata"]
  | "register_prompts" => .items "prompts" ["metadata"]
  | "read_resource" => .fields ["arguments", "context"]
  | "resource_result" => .fields ["metadata"]
  | "get_prompt" => .fields ["arguments", "context"]
  | "prompt_result" => .fields ["metadata"]
  | "execute_tool" => .fields ["arguments", "context"]
  | "execution_result" => .fields ["result", "metadata"]
  | "execution_error" => .fields ["details"]
  | _ => .fields []

/-- A field keeps its value, or it is an object bag whose empty object becomes an empty list. -/
def EmptiedAt (names : List String) (name : String) (v v' : Json) : Prop :=
  v' = v ∨ name ∈ names ∧ v = .obj [] ∧ v' = .arr []

/-- An object bag that holds a list with something in it. -/
def FilledAt (names : List String) (name : String) (v : Json) : Prop :=
  name ∈ names ∧ ∃ x l, v = .arr (x :: l)

/-- Some of the empty object bags, any of them, become empty lists. -/
def Places.Emptied : Places → Json → Json → Prop
  | fields names => OnObject (EmptiedAt names)
  | items field names => OnObject fun name v v' =>
      v' = v ∨ name = field ∧ OnArray (OnObject (EmptiedAt names)) v v'

/-- Some object bag holds a list with something in it. -/
def Places.Filled : Places → Json → Prop
  | fields names => InObject (FilledAt names)
  | items field names => InObject fun name v =>
      name = field ∧ InArray (InObject (FilledAt names)) v

/-- The message with some of the empty object bags of its payload written as empty lists. -/
def EmptiedMessage (message message' : Obj) : Prop :=
  Fieldwise (fun name v v' => v' = v ∨ name = "payload" ∧
    ∃ messageType, Obj.get message "message_type" = some (.str messageType) ∧
      (bagPlaces messageType).Emptied v v') message message'

/-- The message has a list with something in it where its payload has an object bag. -/
def FilledMessage (message : Obj) : Prop :=
  ∃ messageType v, Obj.get message "message_type" = some (.str messageType) ∧
    Obj.get message "payload" = some v ∧ (bagPlaces messageType).Filled v

/-! ### The payload models -/

section

variable {α β : Type} {names : List String} {name : String}

lemma emptiedAt_plain (h : name ∉ names) (v v' : Json) (hr : EmptiedAt names name v v') : v' = v :=
  hr.elim id fun hb => absurd hb.1 h

lemma reads_required (check : Json → Checked α) (h : name ∉ names) :
    Reads (EmptiedAt names) (FilledAt names) [] fun o => required o name check :=
  .required_plain check (emptiedAt_plain h)

lemma reads_optional (default : α) (check : Json → Checked α) (h : name ∉ names) :
    Reads (EmptiedAt names) (FilledAt names) [] fun o => optional o name default check :=
  .optional_plain default check (emptiedAt_plain h)

lemma takes_bag {check : Json → Checked α}
    (hempty : (check (.obj [])).toOption = (check (.arr [])).toOption)
    (hfilled : ∀ x l, (check (.arr (x :: l))).toOption = none) :
    Takes (EmptiedAt names name) (FilledAt names name) fun v => (check v).toOption where
  same hr := by
    rcases hr with rfl | ⟨-, rfl, rfl⟩
    · rfl
    · exact hempty
  strict hb := by
    obtain ⟨-, x, l, rfl⟩ := hb
    exact hfilled x l

lemma takes_objectBag :
    Takes (EmptiedAt names name) (FilledAt names name) fun v => (objectBag v).toOption :=
  takes_bag rfl fun _ _ => rfl

lemma takes_outputSchema : Takes (EmptiedAt names name) (FilledAt names name) fun v =>
    (nullable dict (coerceEmptyListToDict v)).toOption :=
  takes_bag rfl fun _ _ => rfl

/-- A model whose object bags are the named fields. -/
abbrev TakesBags (names : List String) (check : Json → Checked α) : Prop :=
  Takes (OnObject (EmptiedAt names)) (InObject (FilledAt names)) fun v => (check v).toOption

lemma takes_items {cls field : String} {f : List α → β} {check : Json → Checked α}
    (h : TakesBags names check) :
    Takes (Places.items field names).Emptied (Places.items field names).Filled fun v =>
      (model cls [field] (fun o => f <$> required o field (list check)) v).toOption :=
  .model ((Reads.required_takes
    ⟨fun {v v'} hr => hr.elim (fun h => by rw [h]) fun hr => h.list.same hr.2,
      fun hb => h.list.strict hb.2⟩).map f)
    fun name v hb => by simp [hb.1]

lemma takes_none (check : Json → Checked α) : TakesBags [] check where
  same hr := by
    cases hr with
    | other v => rfl
    | @obj o o' ho =>
      have : o = o' := by
        induction ho with
        | nil => rfl
        | @cons p p' l l' hp _ ih =>
          obtain ⟨hk, hv⟩ := hp
          have hv := emptiedAt_plain (by simp) _ _ hv
          rw [ih, Prod.ext hk hv.symm]
      rw [this]
  strict hb := by
    obtain ⟨o, name, w, -, -, hmem, -⟩ := hb
    simp at hmem

end

lemma takes_registerExecutor : TakesBags ["metadata"] (RegisterExecutorPayload.validate P) :=
  .model (((((reads_required str (by decide)).map _).seq
    (reads_optional none (nullable str) (by decide))).seq
    (reads_optional {} (ExecutorCapabilities.validate P) (by decide))).seq
    (.optional_takes takes_objectBag)) fun _ _ hb => hb.1

lemma takes_tool :
    TakesBags ["input_schema", "output_schema", "metadata"] ToolPayload.validate :=
  .model (((((((reads_required str (by decide)).map _).seq (reads_required str (by decide))).seq
    (.required_takes takes_objectBag)).seq (reads_optional none (nullable str) (by decide))).seq
    (.optional_takes takes_outputSchema)).seq (.optional_takes takes_objectBag))
    fun _ _ hb => hb.1

lemma takes_resource : TakesBags ["metadata"] ResourcePayload.validate :=
  .model ((((((reads_required str (by decide)).map _).seq (reads_required str (by decide))).seq
    (reads_optional none (nullable str) (by decide))).seq
    (reads_optional none (nullable str) (by decide))).seq (.optional_takes takes_objectBag))
    fun _ _ hb => hb.1

lemma takes_prompt : TakesBags ["metadata"] (PromptPayload.validate P) :=
  .model (((((reads_required str (by decide)).map _).seq (reads_required str (by decide))).seq
    (reads_optional [] (list (PromptArgumentPayload.validate P)) (by decide))).seq
    (.optional_takes takes_objectBag)) fun _ _ hb => hb.1

lemma takes_readResource :
    TakesBags ["arguments", "context"] (ReadResourcePayload.check objectBag) :=
  .model ((((reads_required str (by decide)).map _).seq (.optional_takes takes_objectBag)).seq
    (.optional_takes takes_objectBag)) fun _ _ hb => hb.1

lemma takes_resourceResult : TakesBags ["metadata"] (ResourceResultPayload.check objectBag) :=
  .model ((((reads_required str (by decide)).map _).seq
    (reads_required anyList (by decide))).seq (.optional_takes takes_objectBag)) fun _ _ hb => hb.1

lemma takes_getPrompt : TakesBags ["arguments", "context"] (GetPromptPayload.check objectBag) :=
  .model ((((reads_required str (by decide)).map _).seq (.optional_takes takes_objectBag)).seq
    (.optional_takes takes_objectBag)) fun _ _ hb => hb.1

lemma takes_promptResult : TakesBags ["metadata"] (PromptResultPayload.check objectBag) :=
  .model ((((reads_required str (by decide)).map _).seq
    (reads_required anyList (by decide))).seq (.optional_takes takes_objectBag)) fun _ _ hb => hb.1

lemma takes_executeTool :
    TakesBags ["arguments", "context"] (ExecuteToolPayload.check P objectBag) :=
  .model (((((reads_required str (by decide)).map _).seq (.optional_takes takes_objectBag)).seq
    (.optional_takes takes_objectBag)).seq (reads_optional false (bool P) (by decide)))
    fun _ _ hb => hb.1

lemma takes_executionResult :
    TakesBags ["result", "metadata"] (ExecutionResultPayload.check P objectBag) :=
  .model (((((reads_required str (by decide)).map _).seq (.optional_takes takes_objectBag)).seq
    (reads_optional false (bool P) (by decide))).seq (.optional_takes takes_objectBag))
    fun _ _ hb => hb.1

lemma takes_executionError : TakesBags ["details"] (ExecutionErrorPayload.check objectBag) :=
  .model (((((reads_required str (by decide)).map _).seq (reads_required str (by decide))).seq
    (reads_required str (by decide))).seq (.optional_takes takes_objectBag)) fun _ _ hb => hb.1

lemma messagePayloadModel_takes {messageType : String} {check : Json → Except Exc Payload}
    (hc : messagePayloadModel P messageType = some check) :
    Takes (bagPlaces messageType).Emptied (bagPlaces messageType).Filled
      fun v => (check v).toOption := by
  have hmodel : ∀ {α : Type} {R : Json → Json → Prop} {bad : Json → Prop} {f : α → Payload}
      (cls : String) {validate : Json → Checked α},
      Takes R bad (fun v => (validate v).toOption) →
        Takes R bad fun v => (modelValidate cls (f <$> validate v)).toOption := by
    intro α R bad f cls validate h
    simp only [toOption_modelValidate]
    exact h.map f
  unfold messagePayloadModel at hc
  split at hc
  case h_19 => simp at hc
  all_goals obtain rfl := Option.some.inj hc
  · exact hmodel _ takes_registerExecutor
  · exact hmodel _ (takes_items takes_tool)
  · exact hmodel _ (takes_none _)
  · exact hmodel _ (takes_items takes_resource)
  · exact hmodel _ (takes_none _)
  · exact hmodel _ takes_readResource
  · exact hmodel _ takes_resourceResult
  · exact hmodel _ (takes_items takes_prompt)
  · exact hmodel _ (takes_none _)
  · exact hmodel _ takes_getPrompt
  · exact hmodel _ takes_promptResult
  · exact hmodel _ takes_executeTool
  · exact hmodel _ (takes_none _)
  · exact hmodel _ takes_executionResult
  · exact hmodel _ takes_executionError
  · exact hmodel _ (takes_none _)
  · exact hmodel _ (takes_none _)
  · exact hmodel _ (takes_none _)

/-! ### A whole message -/

lemma Places.emptied_refl (places : Places) (v : Json) : places.Emptied v v := by
  cases places <;> exact .other v

lemma Places.emptied_cases {places : Places} {v v' : Json} (h : places.Emptied v v') :
    v' = v ∨ ∃ o o', v = .obj o ∧ v' = .obj o' := by
  cases places with
  | fields names =>
    cases h with
    | other v => exact Or.inl rfl
    | obj _ => exact Or.inr ⟨_, _, rfl, rfl⟩
  | items field names =>
    cases h with
    | other v => exact Or.inl rfl
    | obj _ => exact Or.inr ⟨_, _, rfl, rfl⟩

/-- The fields of an envelope before its payload. -/
def envelopeFields (o : Obj) : Checked (Obj → TEPEnvelope) :=
  TEPEnvelope.mk <$> required o "protocol" str <*> required o "version" str
    <*> required o "message_type" str <*> required o "message_id" str
    <*> optional o "session_id" none (nullable str)
    <*> optional o "request_id" none (nullable str)
    <*> optional o "execution_id" none (nullable str)

def envelopeNames : List String :=
  ["protocol", "version", "message_type", "message_id", "session_id", "request_id",
    "execution_id", "payload"]

lemma toOption_validate (o : Obj) : (TEPEnvelope.validate (.obj o)).toOption
    = ((envelopeFields o).toOption.bind fun g =>
        (optional o "payload" [] dict).toOption.map g).bind fun envelope =>
          (extraForbidden o envelopeNames).toOption.map fun _ => envelope := by
  unfold TEPEnvelope.validate model
  rw [Validation.toOption_seqLeft, Validation.toOption_seq]
  rfl

lemma reads_envelopeFields {R : String → Json → Json → Prop}
    (hr : ∀ name, name ≠ "payload" → ∀ v v', R name v v' → v' = v) :
    Reads R (fun _ _ => False) [] envelopeFields :=
  ((((((((Reads.required_plain str (hr "protocol" (by decide))).map TEPEnvelope.mk).seq
    (.required_plain str (hr "version" (by decide)))).seq
    (.required_plain str (hr "message_type" (by decide)))).seq
    (.required_plain str (hr "message_id" (by decide)))).seq
    (.optional_plain none (nullable str) (hr "session_id" (by decide)))).seq
    (.optional_plain none (nullable str) (hr "request_id" (by decide)))).seq
    (.optional_plain none (nullable str) (hr "execution_id" (by decide))))

lemma envelopeFields_payload {o : Obj} {g : Obj → TEPEnvelope}
    (h : (envelopeFields o).toOption = some g) (payload payload' : Obj) :
    g payload' = { g payload with payload := payload' } := by
  simp only [envelopeFields, Validation.toOption_eq_some, Validation.seq_eq_ok,
    Validation.map_eq_ok] at h
  obtain ⟨g₁, a, ⟨g₂, b, ⟨g₃, c, ⟨g₄, d, ⟨g₅, e, ⟨g₆, f, ⟨i, -, rfl⟩, -, rfl⟩, -, rfl⟩, -, rfl⟩,
    -, rfl⟩, -, rfl⟩, -, rfl⟩ := h
  rfl

variable {message message' : Obj}

lemma EmptiedMessage.payload (h : EmptiedMessage message message') :
    ((optional message "payload" [] dict).toOption = none ∧
        (optional message' "payload" [] dict).toOption = none) ∨
      ∃ o o', (optional message "payload" [] dict).toOption = some o ∧
        (optional message' "payload" [] dict).toOption = some o' ∧
        (o' = o ∨ ∃ messageType, Obj.get message "message_type" = some (.str messageType) ∧
          (bagPlaces messageType).Emptied (.obj o) (.obj o')) := by
  rw [toOption_optional, toOption_optional]
  rcases h.get "payload" with ⟨hn, hn'⟩ | ⟨v, v', hv, hv', hr⟩
  · rw [hn, hn']
    exact Or.inr ⟨[], [], rfl, rfl, Or.inl rfl⟩
  · rw [hv, hv', Option.elim_some, Option.elim_some]
    have hsame : v' = v → ((dict v).toOption = none ∧ (dict v').toOption = none) ∨
        ∃ o o', (dict v).toOption = some o ∧ (dict v').toOption = some o' ∧ o' = o := by
      rintro rfl
      cases (dict v').toOption with
      | none => exact Or.inl ⟨rfl, rfl⟩
      | some o => exact Or.inr ⟨o, o, rfl, rfl, rfl⟩
    rcases hr with heq | ⟨-, messageType, ht, hr⟩
    · exact (hsame heq).imp_right fun ⟨o, o', ho, ho', he⟩ => ⟨o, o', ho, ho', Or.inl he⟩
    · rcases Places.emptied_cases hr with heq | ⟨o, o', rfl, rfl⟩
      · exact (hsame heq).imp_right fun ⟨o, o', ho, ho', he⟩ => ⟨o, o', ho, ho', Or.inl he⟩
      · exact Or.inr ⟨o, o', rfl, rfl, Or.inr ⟨messageType, ht, hr⟩⟩

lemma EmptiedMessage.envelope (h : EmptiedMessage message message') :
    ((TEPEnvelope.validate (.obj message)).toOption = none ∧
        (TEPEnvelope.validate (.obj message')).toOption = none) ∨
      ∃ envelope payload, TEPEnvelope.validate (.obj message) = .ok envelope ∧
        TEPEnvelope.validate (.obj message') = .ok { envelope with payload := payload } ∧
        (payload = envelope.payload ∨
          ∃ messageType, Obj.get message "message_type" = some (.str messageType) ∧
            (bagPlaces messageType).Emptied (.obj envelope.payload) (.obj payload)) := by
  have hfields : (envelopeFields message).toOption = (envelopeFields message').toOption :=
    (reads_envelopeFields fun _ hn _ _ hr => hr.elim id fun hp => absurd hp.1 hn).same h
  simp only [← Validation.toOption_eq_some, toOption_validate, h.extraForbidden]
  rw [← hfields]
  cases hg : (envelopeFields message).toOption with
  | none => exact Or.inl ⟨rfl, rfl⟩
  | some g =>
    rcases h.payload with ⟨hn, hn'⟩ | ⟨o, o', ho, ho', hr⟩
    · rw [hn, hn']
      exact Or.inl ⟨rfl, rfl⟩
    · rw [ho, ho']
      cases (extraForbidden message' envelopeNames).toOption with
      | none => exact Or.inl ⟨rfl, rfl⟩
      | some u =>
        have hp : (g o).payload = o := by rw [envelopeFields_payload hg o o]
        refine Or.inr ⟨g o, o', rfl, ?_, ?_⟩
        · rw [← envelopeFields_payload hg o o']
          rfl
        · rw [hp]
          exact hr

lemma validateMessage_of_envelope_none
    (h : (TEPEnvelope.validate (.obj message)).toOption = none) :
    ∃ e, validateMessage message = .error e := by
  unfold validateMessage
  cases hv : TEPEnvelope.validate (.obj message) with
  | ok envelope => simp [hv] at h
  | errors es => exact ⟨_, rfl⟩

lemma EmptiedMessage.validate (h : EmptiedMessage message message') :
    ((∃ e, validateMessage message = .error e) ∧ ∃ e, validateMessage message' = .error e) ∨
      ∃ envelope payload, validateMessage message = .ok envelope ∧
        validateMessage message' = .ok { envelope with payload := payload } ∧
        (bagPlaces envelope.messageType).Emptied (.obj envelope.payload) (.obj payload) := by
  rcases h.envelope with ⟨hn, hn'⟩ | ⟨envelope, payload, hv, hv', hr⟩
  · exact Or.inl ⟨validateMessage_of_envelope_none hn, validateMessage_of_envelope_none hn'⟩
  · -- The conditions that follow are about other fields than the payload.
    have hagree : (∃ e, validateMessage message = .error e ∧ validateMessage message' = .error e) ∨
        validateMessage message = .ok envelope ∧
          validateMessage message' = .ok { envelope with payload := payload } := by
      unfold validateMessage
      rw [hv, hv', modelValidate_ok, modelValidate_ok]
      simp only [Except.bind]
      split_ifs
      · exact Or.inl ⟨_, rfl, rfl⟩
      · exact Or.inl ⟨_, rfl, rfl⟩
      · exact Or.inl ⟨_, rfl, rfl⟩
      · exact Or.inr ⟨rfl, rfl⟩
    rcases hagree with ⟨e, he, he'⟩ | ⟨hok, hok'⟩
    · exact Or.inl ⟨⟨e, he⟩, ⟨e, he'⟩⟩
    · refine Or.inr ⟨envelope, payload, hok, hok', ?_⟩
      rcases hr with rfl | ⟨messageType, ht, hr⟩
      · exact Places.emptied_refl _ _
      · have htype := (validateMessage_fields hok).1
        obtain rfl : messageType = envelope.messageType := by simpa [ht] using htype
        exact hr

lemma dispatch_payload (h : TEPHandler) (envelope : TEPEnvelope) (raw : Obj) (payload : Payload) :
    h.dispatch callbacks newMessageId { envelope with payload := raw } payload
      = h.dispatch callbacks newMessageId envelope payload := by
  cases payload <;> rfl

lemma EmptiedMessage.handleMessage (hm : EmptiedMessage message message') (P : Platform)
    (callbacks : TEPCallbacks) (newMessageId : String) (h : TEPHandler) :
    let done := h.handleMessage P callbacks newMessageId message
    let done' := h.handleMessage P callbacks newMessageId message'
    (∀ response, done.1 = .ok response ↔ done'.1 = .ok response) ∧ done.2 = done'.2 ∧
      (parse P message).map Prod.snd = (parse P message').map Prod.snd := by
  unfold TEPHandler.handleMessage parse
  rcases hm.validate with ⟨⟨e, he⟩, ⟨e', he'⟩⟩ | ⟨envelope, payload, hv, hv', hr⟩
  · rw [he, he']
    exact ⟨fun response => by simp, rfl, rfl⟩
  · rw [hv, hv']
    cases hc : messagePayloadModel P envelope.messageType with
    | none =>
      simp only [hc]
      exact ⟨fun response => Iff.rfl, trivial, trivial⟩
    | some check =>
      have hsame := (messagePayloadModel_takes hc).same hr
      simp only [hc]
      cases hk : check (.obj envelope.payload) with
      | error e =>
        cases hk' : check (.obj payload) with
        | error e' => exact ⟨fun response => by simp, rfl, rfl⟩
        | ok p' => simp [hk, hk', Except.toOption] at hsame
      | ok p =>
        cases hk' : check (.obj payload) with
        | error e' => simp [hk, hk', Except.toOption] at hsame
        | ok p' =>
          obtain rfl : p = p' := by simpa [hk, hk', Except.toOption] using hsame
          simp [dispatch_payload]

lemma FilledMessage.handleMessage (hm : FilledMessage message) (P : Platform)
    (callbacks : TEPCallbacks) (newMessageId : String) (h : TEPHandler) :
    ∃ e, h.handleMessage P callbacks newMessageId message = (.error e, h) := by
  obtain ⟨messageType, v, ht, hp, hf⟩ := hm
  unfold TEPHandler.handleMessage
  cases hv : validateMessage message with
  | error e => exact ⟨e, rfl⟩
  | ok envelope =>
    obtain ⟨htype, -, hpayload⟩ := validateMessage_fields hv
    obtain rfl : messageType = envelope.messageType := by simpa [ht] using htype
    obtain rfl : v = .obj envelope.payload := by simpa [Obj.getD, hp] using hpayload
    cases hc : messagePayloadModel P envelope.messageType with
    | none =>
      -- Another type of message has no object bags.
      have hnil : bagPlaces envelope.messageType = .fields [] := by
        unfold messagePayloadModel at hc
        unfold bagPlaces
        split at hc
        case h_19 => split <;> first | rfl | simp_all
        all_goals simp at hc
      rw [hnil] at hf
      obtain ⟨o, name, w, -, -, hmem, -⟩ := hf
      simp at hmem
    | some check =>
      have hnone := (messagePayloadModel_takes hc).strict hf
      simp only [hc]
      cases hk : check (.obj envelope.payload) with
      | error e => exact ⟨e, rfl⟩
      | ok p => simp [hk, Except.toOption] at hnone

/-- **An empty list stands for an empty object.** Written so in any of its object bags, a
message has the same payload, the same reply and the same effect, and is refused exactly when
it was; with any other list in one of them it is refused and changes nothing. -/
theorem emptyList_for_emptyObject (P : Platform) (callbacks : TEPCallbacks)
    (newMessageId : String) (h : TEPHandler) :
    (∀ message message', EmptiedMessage message message' →
      let done := h.handleMessage P callbacks newMessageId message
      let done' := h.handleMessage P callbacks newMessageId message'
      (∀ response, done.1 = .ok response ↔ done'.1 = .ok response) ∧ done.2 = done'.2 ∧
        (parse P message).map Prod.snd = (parse P message').map Prod.snd) ∧
      ∀ message, FilledMessage message →
        ∃ e, h.handleMessage P callbacks newMessageId message = (.error e, h) :=
  ⟨fun _ _ hm => hm.handleMessage P callbacks newMessageId h,
    fun _ hm => hm.handleMessage P callbacks newMessageId h⟩

/-- A registration of two tools whose object bags are written as given. -/
def registerTwo (inputSchema metadata outputSchema : Json) : Obj :=
  [("protocol", .str "tep"), ("version", .str "1.0"), ("message_type", .str "register_tools"),
    ("message_id", .str "m1"),
    ("payload", .obj [("tools", .arr [
      .obj [("name", .str "a"), ("description", .str ""), ("input_schema", inputSchema),
        ("metadata", metadata)],
      .obj [("name", .str "b"), ("description", .str ""), ("input_schema", .obj []),
        ("output_schema", outputSchema)]])])]

lemma registerTwo_emptied :
    EmptiedMessage (registerTwo (.obj []) (.obj []) (.obj []))
      (registerTwo (.arr []) (.obj []) (.arr [])) := by
  have hplain : ∀ (name : String) (v : Json), name = name ∧ EmptiedAt
      ["input_schema", "output_schema", "metadata"] name v v := fun _ _ => ⟨rfl, Or.inl rfl⟩
  have hbag : ∀ name ∈ ["input_schema", "output_schema", "metadata"], name = name ∧ EmptiedAt
      ["input_schema", "output_schema", "metadata"] name (.obj []) (.arr []) :=
    fun _ hmem => ⟨rfl, Or.inr ⟨hmem, rfl, rfl⟩⟩
  refine .cons ⟨rfl, Or.inl rfl⟩ (.cons ⟨rfl, Or.inl rfl⟩ (.cons ⟨rfl, Or.inl rfl⟩
    (.cons ⟨rfl, Or.inl rfl⟩ (.cons ⟨rfl, Or.inr ⟨rfl, "register_tools", rfl, ?_⟩⟩ .nil))))
  refine .obj (.cons ⟨rfl, Or.inr ⟨rfl, .arr (.cons (.obj ?_) (.cons (.obj ?_) .nil))⟩⟩ .nil)
  · exact .cons (hplain _ _) (.cons (hplain _ _) (.cons (hbag _ (by decide))
      (.cons (hplain _ _) .nil)))
  · exact .cons (hplain _ _) (.cons (hplain _ _) (.cons (hplain _ _)
      (.cons (hbag _ (by decide)) .nil)))

lemma registerTwo_filled :
    FilledMessage (registerTwo (.arr []) (.arr [.int 0]) (.arr [])) :=
  ⟨"register_tools", _, rfl, rfl, _, "tools", _, rfl, rfl, rfl, _, _, rfl, .head _, _, "metadata", _,
    rfl, rfl, by decide, _, _, rfl⟩

/-- The input schema of one tool and the output schema of the other are written as lists; the
second message also has a list with something in it. -/
theorem registerTwo_lists :
    (let h : TEPHandler := { registry := {} }
      let done := h.handleMessage .strict {} "r1" (registerTwo (.obj []) (.obj []) (.obj []))
      let done' := h.handleMessage .strict {} "r1" (registerTwo (.arr []) (.obj []) (.arr []))
      (∃ response, done.1 = .ok response ∧ done'.1 = .ok response) ∧ done.2 = done'.2 ∧
        done.2.registry.revision = 2) ∧
      ∃ e, ({ registry := {} } : TEPHandler).handleMessage .strict {} "r1"
        (registerTwo (.arr []) (.arr [.int 0]) (.arr [])) = (.error e, { registry := {} }) := by
  have h := emptyList_for_emptyObject .strict {} "r1" { registry := {} }
  obtain ⟨hok, hafter, -⟩ := h.1 _ _ registerTwo_emptied
  exact ⟨⟨⟨_, rfl, (hok _).mp rfl⟩, hafter, rfl⟩, h.2 _ registerTwo_filled⟩

end NaiaRelay.Tep
