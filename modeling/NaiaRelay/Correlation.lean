import NaiaRelay.Mirror
import NaiaRelay.TepEffect

set_option autoImplicit false

/-!
What a reply says about the request it answers. All replies are built from the request's
envelope or from the raw request, but for one: a revision gap is reported under an envelope made
up for it.
-/

namespace NaiaRelay

open NaiaRelay.Pydantic

/-- The response is about this message; its `peer` field has the message's `origin`. -/
structure Correlated (peer origin : String) (message response : Obj) : Prop where
  messageType : ∃ t, Obj.get message "message_type" = some (.str t) ∧
    Obj.get response "message_type" = some (.str (t ++ "_response"))
  requestId : Obj.get response "request_id" = some
    ((Obj.getD message "request_id" .null).orElse (Obj.getD message "message_id" .null))
  executionId : Obj.get response "execution_id" = some (Obj.getD message "execution_id" .null)
  peer : Obj.get response peer = some (Obj.getD message origin .null)

lemma getD_of_nullable_str {o : Obj} {name : String} {x : Option String}
    (h : optional o name none (nullable str) = .ok x) : Obj.getD o name .null = .ofOption x := by
  rcases optional_eq_ok.mp h with ⟨hg, rfl⟩ | ⟨v, hg, hc⟩
  · rw [Obj.getD, hg]
    rfl
  · rw [Obj.getD, hg, Option.getD_some]
    cases x with
    | some s => exact nullable_str_eq_some.mp hc
    | none => cases v <;> first | rfl | cases hc

lemma orElse_ofOption (requestId : Option String) (messageId : String) :
    (Json.ofOption requestId).orElse (.str messageId) = .str (orText requestId messageId) := by
  cases requestId with
  | none => rfl
  | some s =>
    by_cases hs : s = ""
    · subst hs
      rfl
    · simp [Json.ofOption, Json.orElse, Json.truthy, orText, hs]

end NaiaRelay

namespace NaiaRelay.Tep

open NaiaRelay.Pydantic NaiaRelay.Registry

variable {P : Platform} {callbacks : TEPCallbacks} {newMessageId : String} {h : TEPHandler}
  {message : Obj} {envelope : TEPEnvelope}

lemma validateMessage_ids (hv : validateMessage message = .ok envelope) :
    Obj.getD message "message_id" .null = .str envelope.messageId ∧
      Obj.getD message "request_id" .null = .ofOption envelope.requestId ∧
      Obj.getD message "execution_id" .null = .ofOption envelope.executionId ∧
      Obj.getD message "session_id" .null = .ofOption envelope.sessionId := by
  have hfields := validate_of_validateMessage hv
  simp only [TEPEnvelope.validate, model_obj_eq_ok, Validation.seq_eq_ok, Validation.map_eq_ok,
    required_eq_ok, str_eq_ok] at hfields
  obtain ⟨⟨_, o, ⟨_, e, ⟨_, r, ⟨_, s, ⟨_, i, ⟨_, m, ⟨_, v, ⟨p, -, rfl⟩, -, rfl⟩, -, rfl⟩,
    ⟨_, hi, rfl⟩, rfl⟩, hs, rfl⟩, hr, rfl⟩, he, rfl⟩, -, rfl⟩, -⟩ := hfields
  refine ⟨?_, getD_of_nullable_str hr, getD_of_nullable_str he, getD_of_nullable_str hs⟩
  rw [Obj.getD, hi]
  rfl

lemma correlated_reply (hv : validateMessage message = .ok envelope) (payload : Obj) :
    Correlated "session_id" "session_id" message (reply envelope newMessageId payload) := by
  obtain ⟨hi, hr, he, hs⟩ := validateMessage_ids hv
  refine ⟨⟨_, (validateMessage_fields hv).1, rfl⟩, ?_, ?_, ?_⟩
  · rw [hr, hi, orElse_ofOption]
    rfl
  · rw [he]
    rfl
  · rw [hs]
    rfl

lemma correlated_buildValidationErrorResponse (hv : validateMessage message = .ok envelope)
    {check : Json → Except Exc Payload} (hc : messagePayloadModel P envelope.messageType = some check)
    (e : Exc) :
    Correlated "session_id" "session_id" message
      (buildValidationErrorResponse P newMessageId message e) := by
  have htype := (validateMessage_fields hv).1
  refine ⟨⟨_, htype, ?_⟩, rfl, rfl, rfl⟩
  have hne : envelope.messageType ≠ "" := by
    intro hempty
    rw [hempty] at hc
    cases hc
  have htext : pyStr P ((Obj.getD message "message_type" .null).orElse (.str "invalid_message"))
      = envelope.messageType := by
    rw [Obj.getD, htype, Option.getD_some, Json.orElse, Json.truthy, if_pos (by simp [hne])]
    rfl
  show some (Json.str _) = _
  rw [htext]

/-- What comes out, if anything does, is a reply under the envelope. -/
def Replies (envelope : TEPEnvelope) (newMessageId : String) (x : Except Exc Obj) : Prop :=
  ∀ response, x = .ok response → ∃ body, response = reply envelope newMessageId body

lemma replies_okResponse (details : Json) :
    Replies envelope newMessageId (okResponse envelope newMessageId details) := by
  intro response hr
  unfold okResponse at hr
  cases hs : okStatus objectBag details with
  | error e => exact nomatch hs ▸ hr
  | ok body =>
    rw [hs] at hr
    exact ⟨body, (Except.ok.inj hr).symm⟩

lemma Replies.bind {A : Type} {x : Except Exc A} {f : A → Except Exc Obj}
    (hf : ∀ a, Replies envelope newMessageId (f a)) :
    Replies envelope newMessageId (x.bind f) := by
  intro response hr
  cases x with
  | error e => cases hr
  | ok a => exact hf a response hr

lemma replies_errorResponse (code text : String) :
    Replies envelope newMessageId (.ok (errorResponse envelope newMessageId code text)) :=
  fun _ hr => ⟨_, (Except.ok.inj hr).symm⟩

lemma replies_dispatch (h : TEPHandler) (callbacks : TEPCallbacks) (newMessageId : String)
    (envelope : TEPEnvelope) (payload : Payload) :
    Replies envelope newMessageId (h.dispatch callbacks newMessageId envelope payload).1 := by
  cases payload with
  | registerTools | deregisterTools | registerResources | deregisterResources | registerPrompts
    | deregisterPrompts => exact .bind fun _ => replies_okResponse _
  | executeTool p | readResource p | getPrompt p =>
    rw [TEPHandler.dispatch]
    split
    · exact replies_errorResponse _ _
    · exact .bind fun _ => replies_okResponse _
  | _ =>
    rw [TEPHandler.dispatch]
    dsimp only
    exact replies_okResponse _

lemma correlated_handleMessageOrError (hv : validateMessage message = .ok envelope)
    {response : Obj}
    (hr : (h.handleMessageOrError P callbacks newMessageId message).1 = .ok response) :
    Correlated "session_id" "session_id" message response := by
  have hreply : ∀ {x : Except Exc Obj}, Replies envelope newMessageId x → x = .ok response →
      Correlated "session_id" "session_id" message response := by
    intro x hx hok
    obtain ⟨body, rfl⟩ := hx response hok
    exact correlated_reply hv body
  cases hc : messagePayloadModel P envelope.messageType with
  -- a type that is unknown is answered under the envelope
  | none =>
    have hm : h.handleMessage P callbacks newMessageId message
        = (.ok (errorResponse envelope newMessageId "unknown_message_type"
            envelope.messageType), h) := by
      unfold TEPHandler.handleMessage
      simp only [hv, hc]
    have hok := handleMessageOrError_of_ok (congrArg Prod.fst hm)
    exact hreply (replies_errorResponse _ _) (hok.symm.trans hr)
  | some check =>
    -- an exception is answered by the guard, from the raw message
    have hguard : ∀ e h', h.handleMessage P callbacks newMessageId message = (.error e, h') →
        Correlated "session_id" "session_id" message response := by
      intro e h' hm
      rw [handleMessageOrError_of_error hm] at hr
      split at hr
      · rw [← Except.ok.inj hr]
        exact correlated_buildValidationErrorResponse hv hc e
      · cases hr
    cases hk : check (.obj envelope.payload) with
    | error e =>
      refine hguard e h ?_
      unfold TEPHandler.handleMessage
      simp only [hv, hc, hk]
    | ok payload =>
      have hm : h.handleMessage P callbacks newMessageId message
          = h.dispatch callbacks newMessageId envelope payload := by
        unfold TEPHandler.handleMessage
        simp only [hv, hc, hk]
      cases hd : (h.dispatch callbacks newMessageId envelope payload).1 with
      | ok response' =>
        have hok := handleMessageOrError_of_ok ((congrArg Prod.fst hm).trans hd)
        exact hreply (replies_dispatch h callbacks newMessageId envelope payload)
          (hd.trans (hok.symm.trans hr))
      | error e => exact hguard e _ (hm.trans (Prod.ext hd rfl))

end NaiaRelay.Tep

namespace NaiaRelay.Rlp

open NaiaRelay.Pydantic NaiaRelay.Registry NaiaRelay.Tep

variable {P : Platform} {ids : NewIds} {h : RLPHandler} {message : Obj} {envelope : RLPEnvelope}

/-- The payload of an incremental message that is not about the next revision. -/
def ReportsGap (registry : RegistryStore) : Payload → Prop
  | .mutation _ p => p.registryRevision ≠ registry.revision + 1
  | .removed _ p => p.registryRevision ≠ registry.revision + 1
  | _ => False

lemma envelope_of_validateMessage (hv : validateMessage message = .ok envelope) :
    RLPEnvelope.validate (.obj message) = .ok envelope := by
  unfold validateMessage at hv
  cases hm : modelValidate "RLPEnvelope" (RLPEnvelope.validate (.obj message)) with
  | error e => simp [hm, Except.bind] at hv
  | ok env =>
    simp only [hm, Except.bind] at hv
    split_ifs at hv
    obtain rfl : env = envelope := Except.ok.inj hv
    exact modelValidate_eq_ok.mp hm

lemma rlp_validateMessage_ids (hv : validateMessage message = .ok envelope) :
    Obj.get message "message_type" = some (.str envelope.messageType) ∧
      Obj.getD message "message_id" .null = .str envelope.messageId ∧
      Obj.getD message "request_id" .null = .ofOption envelope.requestId ∧
      Obj.getD message "execution_id" .null = .ofOption envelope.executionId ∧
      Obj.getD message "source_relay_id" .null = .ofOption envelope.sourceRelayId := by
  have hfields := envelope_of_validateMessage hv
  simp only [RLPEnvelope.validate, model_obj_eq_ok, Validation.seq_eq_ok, Validation.map_eq_ok,
    required_eq_ok, str_eq_ok] at hfields
  obtain ⟨⟨_, o, ⟨_, e, ⟨_, r, ⟨_, t, ⟨_, s, ⟨_, l, ⟨_, i, ⟨_, m, ⟨_, v, ⟨p, -, rfl⟩, -, rfl⟩,
    ⟨_, hm, rfl⟩, rfl⟩, ⟨_, hi, rfl⟩, rfl⟩, -, rfl⟩, hs, rfl⟩, -, rfl⟩, hr, rfl⟩, he, rfl⟩, -, rfl⟩,
    -⟩ := hfields
  refine ⟨hm, ?_, getD_of_nullable_str hr, getD_of_nullable_str he, getD_of_nullable_str hs⟩
  rw [Obj.getD, hi]
  rfl

lemma correlated_rlp_reply (hv : validateMessage message = .ok envelope) (r : RLPRecords)
    (payload : Obj) :
    Correlated "target_relay_id" "source_relay_id" message (r.reply envelope ids payload) := by
  obtain ⟨hm, hi, hr, he, hs⟩ := rlp_validateMessage_ids hv
  refine ⟨⟨_, hm, rfl⟩, ?_, ?_, ?_⟩
  · rw [hr, hi, orElse_ofOption]
    rfl
  · rw [he]
    rfl
  · rw [hs]
    rfl

/-- What comes out, if anything does, is a reply under the envelope. -/
def Replies (r : RLPRecords) (envelope : RLPEnvelope) (ids : NewIds) (x : Except Exc Obj) : Prop :=
  ∀ response, x = .ok response → ∃ body, response = r.reply envelope ids body

variable {r : RLPRecords}

lemma replies_rlp_okResponse (details : Json) :
    Replies r envelope ids (r.okResponse envelope ids details) := by
  intro response hr
  unfold RLPRecords.okResponse at hr
  cases hs : okStatus dict details with
  | error e => exact nomatch hs ▸ hr
  | ok body =>
    rw [hs] at hr
    exact ⟨body, (Except.ok.inj hr).symm⟩

lemma replies_rlp_errorResponse (code text : String) (details : Obj) :
    Replies r envelope ids (.ok (r.errorResponse envelope ids code text details)) :=
  fun _ hr => ⟨_, (Except.ok.inj hr).symm⟩

lemma replies_error (e : Exc) : Replies r envelope ids (.error e) := nofun

lemma replies_exceptionResponse (e : Exc) (defaultCode : String) :
    Replies r envelope ids (r.exceptionResponse P envelope ids e defaultCode) := by
  cases e with
  | protocolError text code data =>
    cases hd : toDict data with
    | error e =>
      simp only [RLPRecords.exceptionResponse, hd]
      exact replies_error e
    | ok details =>
      simp only [RLPRecords.exceptionResponse, hd]
      exact replies_rlp_errorResponse _ _ _
  | _ => exact replies_rlp_errorResponse _ _ _

lemma replies_operationResponse (defaultCode : String) (details : Json → Json)
    (outcome : Except Exc Json) :
    Replies r envelope ids (r.operationResponse P envelope ids defaultCode details outcome) := by
  unfold RLPRecords.operationResponse
  cases outcome with
  | error e => exact replies_exceptionResponse e defaultCode
  | ok v =>
    cases ho : r.okResponse envelope ids (details v) with
    | ok response =>
      simp only [Except.bind, ho]
      rw [← ho]
      exact replies_rlp_okResponse _
    | error e =>
      simp only [Except.bind, ho]
      exact replies_exceptionResponse e defaultCode

/-- However the call ends, if it ends in a reply, that is one under the envelope. -/
def CallReplies (r : RLPRecords) (envelope : RLPEnvelope) (ids : NewIds) (call : Call) : Prop :=
  ∀ response, call.EndsIn (.ok response) → ∃ body, response = r.reply envelope ids body

lemma callReplies_done {x : Except Exc Obj} (hx : Replies r envelope ids x) :
    CallReplies r envelope ids (.done x) := hx

lemma callReplies_operation (callback : Bool) (name defaultCode : String) (operation : Operation)
    (details : Json → Json) :
    CallReplies r envelope ids
      (r.operation P envelope ids callback name defaultCode operation details) := by
  unfold RLPRecords.operation
  split
  · rintro response ⟨outcome, ho⟩
    exact replies_operationResponse defaultCode details outcome response ho
  · exact callReplies_done (replies_rlp_errorResponse _ _ _)

lemma callReplies_dispatch {payload : Payload} (hg : ¬ ReportsGap h.registry payload) :
    CallReplies h.records envelope ids (h.dispatch P ids envelope payload).1 := by
  -- at the next revision a change is answered, or raises
  have happly : ∀ {revision : ℤ} (change : RegistryStore → Except Exc RegistryStore),
      revision = h.registry.revision + 1 →
        CallReplies h.records envelope ids (h.applyIncremental ids envelope revision change).1 := by
    intro revision change hr
    have hv : h.validateIncrementalRevision ids revision = (none, h.registry.markFresh) := by
      rw [RLPHandler.validateIncrementalRevision, if_pos hr]
    cases hc : change h.registry.markFresh with
    | ok registry =>
      simp only [RLPHandler.applyIncremental, hv, hc]
      exact callReplies_done (replies_rlp_okResponse _)
    | error e =>
      simp only [RLPHandler.applyIncremental, hv, hc]
      exact callReplies_done (replies_error e)
  cases payload with
  | mutation k p => exact happly _ (not_not.mp hg)
  | removed k p => exact happly _ (not_not.mp hg)
  | bindSession p =>
    simp only [RLPHandler.dispatch, RLPHandler.bindSession]
    split
    · exact callReplies_done (replies_rlp_errorResponse _ _ _)
    · split
      · exact callReplies_done (replies_rlp_errorResponse _ _ _)
      · refine callReplies_done ?_
        cases buildSnapshotDetails h.registry with
        | error e => exact replies_error e
        | ok details => exact replies_rlp_okResponse _
  | executeTool p | readResource p | getPrompt p => exact callReplies_operation _ _ _ _ _
  | _ =>
    rw [RLPHandler.dispatch]
    exact callReplies_done (replies_rlp_okResponse _)

lemma gap_reply {payload : Payload} (hg : ReportsGap h.registry payload) :
    ∃ response, (h.dispatch P ids envelope payload).1 = .done (.ok response) ∧
      Obj.get response "message_type" = some (.str "revision_gap_response") := by
  have happly : ∀ {revision : ℤ} (change : RegistryStore → Except Exc RegistryStore),
      revision ≠ h.registry.revision + 1 →
        ∃ response, (h.applyIncremental ids envelope revision change).1 = .done (.ok response) ∧
          Obj.get response "message_type" = some (.str "revision_gap_response") := by
    intro revision change hr
    simp only [RLPHandler.applyIncremental, RLPHandler.validateIncrementalRevision, if_neg hr]
    exact ⟨_, rfl, rfl⟩
  cases payload with
  | mutation k p => exact happly _ hg
  | removed k p => exact happly _ hg
  | _ => exact hg.elim

/-- **When a reply on the relay link is correlated**: unless the message is an incremental one
that is not about the next revision. -/
lemma correlated_handleMessage_iff (ids : NewIds) (h : RLPHandler)
    (hv : validateMessage message = .ok envelope) :
    (∀ response, (h.handleMessage P ids message).1.EndsIn (.ok response) →
        Correlated "target_relay_id" "source_relay_id" message response) ↔
      ∀ payload, parse P message = some (envelope, payload) → ¬ ReportsGap h.registry payload := by
  have hreply : CallReplies h.records envelope ids (h.handleMessage P ids message).1 →
      ∀ response, (h.handleMessage P ids message).1.EndsIn (.ok response) →
        Correlated "target_relay_id" "source_relay_id" message response := by
    intro hc response hr
    obtain ⟨body, rfl⟩ := hc response hr
    exact correlated_rlp_reply hv h.records body
  cases hp : parse P message with
  -- what does not pass is refused under the envelope
  | none =>
    refine iff_of_true (hreply ?_) nofun
    unfold parse at hp
    unfold RLPHandler.handleMessage
    simp only [hv] at hp ⊢
    split
    · exact callReplies_done (replies_rlp_errorResponse _ _ _)
    · rename_i check hc
      split
      · exact callReplies_done (replies_error _)
      · rename_i payload hk
        simp only [hc, hk] at hp
        cases hp
  | some x =>
    obtain ⟨envelope', payload⟩ := x
    obtain ⟨hv', check, hc, -⟩ := parse_eq_some hp
    obtain rfl := Except.ok.inj (hv.symm.trans hv')
    constructor
    -- `revision_gap` would be the type of the message, but no payload model has it
    · rintro hall _ ⟨⟩ hg
      obtain ⟨response, hr, ht⟩ := gap_reply (P := P) hg
      rw [handleMessage_of_parse hp] at hall
      obtain ⟨t, hm, ht'⟩ := (hall response (by rw [hr]; rfl)).messageType
      rw [(rlp_validateMessage_ids hv).1] at hm
      obtain rfl : envelope.messageType = t := Json.str.inj (Option.some.inj hm)
      have hgap : "revision_gap" ++ "_response" = envelope.messageType ++ "_response" :=
        Json.str.inj (Option.some.inj (ht.symm.trans ht'))
      rw [String.append_left_inj] at hgap
      rw [← hgap] at hc
      cases hc
    · intro hg
      refine hreply ?_
      rw [handleMessage_of_parse hp]
      exact callReplies_dispatch (hg payload rfl)

/-- **Every reply is correlated with its request, except the report of a gap.** The executor
handler's always are; the relay-link handler's are exactly when the message is not an
incremental one that is not about the next revision. -/
theorem correlated_iff (P : Platform) :
    (∀ (callbacks : TEPCallbacks) (newMessageId : String) (h : TEPHandler) (message : Obj)
        (envelope : TEPEnvelope) (response : Obj), Tep.validateMessage message = .ok envelope →
        (h.handleMessageOrError P callbacks newMessageId message).1 = .ok response →
          Correlated "session_id" "session_id" message response) ∧
      ∀ (ids : NewIds) (h : RLPHandler) (message : Obj) (envelope : RLPEnvelope),
        validateMessage message = .ok envelope →
          ((∀ response, (h.handleMessage P ids message).1.EndsIn (.ok response) →
              Correlated "target_relay_id" "source_relay_id" message response) ↔
            ∀ payload, parse P message = some (envelope, payload) →
              ¬ ReportsGap h.registry payload) :=
  ⟨fun _ _ _ _ _ _ hv hr => correlated_handleMessageOrError hv hr,
    fun ids h _ _ hv => correlated_handleMessage_iff ids h hv⟩

/-! A client without entries is told of the tool that leads to revision 2. -/

def skippedTool : Obj :=
  linkMessage "tool_added" [("registry_revision", .int 2), ("tool", .obj (bareToolPayload "a"))]

def emptyClient : RLPHandler where
  registry := {}
  records := { hostRelayId := "upstream_host", relaySessionId := "session" }

def skippedToolEnvelope : RLPEnvelope where
  protocol := "rlp"
  version := "1.0"
  messageType := "tool_added"
  messageId := "m"
  payload := [("registry_revision", .int 2), ("tool", .obj (bareToolPayload "a"))]

theorem skippedTool_not_correlated :
    validateMessage skippedTool = .ok skippedToolEnvelope ∧
      ∃ response, (emptyClient.handleMessage .strict ⟨"r", "g"⟩ skippedTool).1
          = .done (.ok response) ∧
        Obj.get response "message_type" = some (.str "revision_gap_response") ∧
        Obj.get response "request_id" = some (.str "g") ∧
        ¬ Correlated "target_relay_id" "source_relay_id" skippedTool response := by
  refine ⟨rfl, _, rfl, rfl, rfl, fun hc => ?_⟩
  have hid : some (Json.str "g") = some (Json.str "m") := hc.requestId
  exact absurd (Json.str.inj (Option.some.inj hid)) (by decide)

/-- A heartbeat without its timestamp. -/
def bareHeartbeat : Obj :=
  [("protocol", .str "tep"), ("version", .str "1.0"), ("message_type", .str "heartbeat"),
    ("message_id", .str "m"), ("session_id", .str "s")]

theorem correlated_iff_skippedTool :
    (∃ response, (TEPHandler.handleMessageOrError .strict {} "n" { registry := {} }
          bareHeartbeat).1 = .ok response ∧
        Correlated "session_id" "session_id" bareHeartbeat response) ∧
      ((∀ response, (emptyClient.handleMessage .strict ⟨"r", "g"⟩ skippedTool).1.EndsIn
            (.ok response) →
          Correlated "target_relay_id" "source_relay_id" skippedTool response) ↔
        ∀ payload, parse .strict skippedTool = some (skippedToolEnvelope, payload) →
          ¬ ReportsGap emptyClient.registry payload) :=
  ⟨⟨_, rfl, (correlated_iff .strict).1 {} "n" { registry := {} } bareHeartbeat
      ⟨"tep", "1.0", "heartbeat", "m", some "s", none, none, []⟩ _ rfl rfl⟩,
    (correlated_iff .strict).2 ⟨"r", "g"⟩ emptyClient skippedTool skippedToolEnvelope rfl⟩

end NaiaRelay.Rlp
