import NaiaRelay.HostLink

set_option autoImplicit false

/-!
Messages that report how an operation went. Such a message is judged twice: as a whole by the
handler, which replies, and by its payload alone by the runtime, which completes the operation.
-/

namespace NaiaRelay.Runtime

open NaiaRelay.Pydantic NaiaRelay.Registry NaiaRelay.Tep
open NaiaRelay.Rlp (RLPRecords)

/-- A payload that says how an operation went. -/
inductive Report
  | executionResult (p : ExecutionResultPayload)
  | executionError (p : ExecutionErrorPayload)
  | resourceResult (p : ResourceResultPayload)
  | promptResult (p : PromptResultPayload)

def reportTypes : List String :=
  ["execution_result", "execution_error", "resource_result", "prompt_result"]

namespace Report

def payload : Report → Payload
  | executionResult p => .executionResult p
  | executionError p => .executionError p
  | resourceResult p => .resourceResult p
  | promptResult p => .promptResult p

def target : Report → Target
  | executionResult _ | executionError _ => .execution
  | resourceResult _ | promptResult _ => .request

/-- The field that addresses the operation. -/
def idKey : Report → String
  | executionResult _ | executionError _ => "execution_id"
  | resourceResult _ | promptResult _ => "request_id"

/-- What the operation is completed with. -/
def outcome : Report → Except Exc Json
  | executionResult p => .ok (.obj p.result)
  | executionError p => HostRelayRuntime.errorOutcome p
  | resourceResult p => .ok (.arr p.contents)
  | promptResult p => .ok (.arr p.messages)

def modelDump : Report → Obj
  | executionResult p => p.modelDump
  | executionError p => p.modelDump
  | resourceResult p => p.modelDump
  | promptResult p => p.modelDump

/-- The record of the last payload like this one. -/
def last (records : RLPRecords) : Report → Option Obj
  | executionResult _ => records.lastExecutionResult
  | executionError _ => records.lastExecutionError
  | resourceResult _ => records.lastResourceResult
  | promptResult _ => records.lastPromptResult

/-- The records with this payload written down. -/
def record (records : RLPRecords) : Report → RLPRecords
  | executionResult p => { records with lastExecutionResult := some p.modelDump }
  | executionError p => { records with lastExecutionError := some p.modelDump }
  | resourceResult p => { records with lastResourceResult := some p.modelDump }
  | promptResult p => { records with lastPromptResult := some p.modelDump }

lemma record_eq_iff (records : RLPRecords) (r : Report) :
    r.record records = records ↔ r.last records = some r.modelDump := by
  constructor
  · intro h
    rw [← h]
    cases r <;> rfl
  · intro h
    cases records
    cases r <;> (cases h; rfl)

end Report

/-- The report a payload of this type passes as, judged by itself. -/
def bareReport (P : Platform) (messageType : String) (payload : Json) : Option Report :=
  match messageType with
  | "execution_result" =>
    match ExecutionResultPayload.check P objectBag payload with
    | .errors _ => none
    | .ok p => some (.executionResult p)
  | "execution_error" =>
    match ExecutionErrorPayload.check objectBag payload with
    | .errors _ => none
    | .ok p => some (.executionError p)
  | "resource_result" =>
    match ResourceResultPayload.check objectBag payload with
    | .errors _ => none
    | .ok p => some (.resourceResult p)
  | "prompt_result" =>
    match PromptResultPayload.check objectBag payload with
    | .errors _ => none
    | .ok p => some (.promptResult p)
  | _ => none

variable {P : Platform} {h : HostRelayRuntime} {message : Obj} {t : String}

open HostRelayRuntime

lemma recordMessage_report (h : HostRelayRuntime) (message : Obj) (ht : t ∈ reportTypes) :
    h.recordMessage P t message =
      match bareReport P t (Obj.getD message "payload" (.obj [])) with
      | none => h
      | some r =>
        { h with
          link := h.link.settle r.target (messageText P message r.idKey) r.outcome
          rlp := r.record h.rlp } := by
  simp only [reportTypes, List.mem_cons, List.not_mem_nil, or_false] at ht
  rcases ht with rfl | rfl | rfl | rfl
  · simp only [recordMessage, bareReport]
    cases ExecutionResultPayload.check P objectBag (Obj.getD message "payload" (.obj [])) <;> rfl
  · simp only [recordMessage, bareReport]
    cases ExecutionErrorPayload.check objectBag (Obj.getD message "payload" (.obj [])) <;> rfl
  · simp only [recordMessage, bareReport]
    cases ResourceResultPayload.check objectBag (Obj.getD message "payload" (.obj [])) <;> rfl
  · simp only [recordMessage, bareReport]
    cases PromptResultPayload.check objectBag (Obj.getD message "payload" (.obj [])) <;> rfl

lemma bareReport_of_parse {envelope : TEPEnvelope} {payload : Payload}
    (hp : parse P message = some (envelope, payload)) (ht : envelope.messageType ∈ reportTypes) :
    ∃ r : Report, payload = r.payload ∧ bareReport P envelope.messageType
      (Obj.getD message "payload" (.obj [])) = some r := by
  obtain ⟨hv, check, hc, hk⟩ := parse_eq_some hp
  rw [(validateMessage_fields hv).2.2]
  simp only [reportTypes, List.mem_cons, List.not_mem_nil, or_false] at ht
  rcases ht with ht | ht | ht | ht
  all_goals
    rw [ht] at hc ⊢
    rw [← Option.some.inj hc, modelValidate_eq_ok, Validation.map_eq_ok] at hk
    obtain ⟨p, hp', rfl⟩ := hk
    simp only [bareReport, hp']
  · exact ⟨.executionResult p, rfl, rfl⟩
  · exact ⟨.executionError p, rfl, rfl⟩
  · exact ⟨.resourceResult p, rfl, rfl⟩
  · exact ⟨.promptResult p, rfl, rfl⟩

lemma endsWith_response_of_report (ht : t ∈ reportTypes) : endsWith t "_response" = false := by
  simp only [reportTypes, List.mem_cons, List.not_mem_nil, or_false] at ht
  rcases ht with rfl | rfl | rfl | rfl <;> decide

lemma mem_reportTypes_of_check {messageType : String} {check : Json → Except Exc Payload} {v : Json}
    {r : Report} (hc : messagePayloadModel P messageType = some check)
    (hk : check v = .ok r.payload) : messageType ∈ reportTypes := by
  unfold messagePayloadModel at hc
  split at hc
  case h_19 => cases hc
  all_goals
    rw [← Option.some.inj hc, modelValidate_eq_ok, Validation.map_eq_ok] at hk
    obtain ⟨p, -, heq⟩ := hk
    cases r <;> cases heq
  all_goals decide

lemma recordedAnswer_report (message : Obj) (ht : t ∈ reportTypes) :
    recordedAnswer P t message =
      (bareReport P t (Obj.getD message "payload" (.obj []))).map fun r =>
        (r.target, messageText P message r.idKey, r.outcome) := by
  simp only [reportTypes, List.mem_cons, List.not_mem_nil, or_false] at ht
  rcases ht with rfl | rfl | rfl | rfl
  · simp only [recordedAnswer, bareReport]
    cases ExecutionResultPayload.check P objectBag (Obj.getD message "payload" (.obj [])) <;> rfl
  · simp only [recordedAnswer, bareReport]
    cases ExecutionErrorPayload.check objectBag (Obj.getD message "payload" (.obj [])) <;> rfl
  · simp only [recordedAnswer, bareReport]
    cases ResourceResultPayload.check objectBag (Obj.getD message "payload" (.obj [])) <;> rfl
  · simp only [recordedAnswer, bareReport]
    cases PromptResultPayload.check objectBag (Obj.getD message "payload" (.obj [])) <;> rfl

lemma report_payload_injective : Function.Injective Report.payload := by
  intro r r' heq
  cases r <;> cases r' <;> cases heq <;> rfl

lemma executorAnswer_report {envelope : TEPEnvelope} {r : Report}
    (hp : parse P message = some (envelope, r.payload)) :
    executorAnswer P message = some (r.target, messageText P message r.idKey, r.outcome) := by
  obtain ⟨hv, check, hc, hk⟩ := parse_eq_some hp
  have ht := mem_reportTypes_of_check hc hk
  obtain ⟨r', hr', hbare⟩ := bareReport_of_parse hp ht
  obtain rfl := report_payload_injective hr'
  unfold executorAnswer
  rw [messageText_of_get (validateMessage_fields hv).1]
  dsimp only
  rw [endsWith_response_of_report ht, if_neg (by decide)]
  rw [recordedAnswer_report message ht, hbare]
  rfl

/-! ### The two verdicts -/

/-- What the handler says of a message and what the runtime does with it go together: a refused
message completes nothing and is not recorded, an accepted one completes the operation it
addresses, if that waits. -/
structure JudgedAlike (P : Platform) (newMessageId : String) (h : HostRelayRuntime)
    (message : Obj) : Prop where
  refused : ∀ reply, (h.handleExecutorStdioMessage P newMessageId message).1 = .ok (some reply) →
    replyStatus reply = some (.str "error") →
      (∀ (i : ℕ) (op : ExecutorOperation), h.link.operations[i]? = some op → op.future = .pending →
        ∃ op' : ExecutorOperation,
          (h.handleExecutorStdioMessage P newMessageId message).2.link.operations[i]? = some op' ∧
            op'.future = .pending) ∧
      (h.handleExecutorStdioMessage P newMessageId message).2.rlp = h.rlp
  accepted : ∀ reply, (h.handleExecutorStdioMessage P newMessageId message).1 = .ok (some reply) →
    replyStatus reply = some (.str "ok") →
      ∃ envelope, ∃ r : Report, parse P message = some (envelope, r.payload) ∧
        ∀ i, h.link.pendingFuture r.target (messageText P message r.idKey) = some i →
          ∃ op : ExecutorOperation,
            (h.handleExecutorStdioMessage P newMessageId message).2.link.operations[i]? = some op ∧
              op.future = .done r.outcome

variable {newMessageId : String} {r : Report}

lemma handleExecutorStdioMessage_report (h : HostRelayRuntime) (newMessageId : String)
    (hm : Obj.get message "message_type" = some (.str t)) (ht : t ∈ reportTypes) :
    ∃ reply tep, (TEPHandler.handleMessageOrError P (executorCallbacks P) newMessageId
        ⟨h.registry, h.tep⟩ message).1 = .ok reply ∧
      (h.handleExecutorStdioMessage P newMessageId message).1 = .ok (some reply) ∧
      (h.handleExecutorStdioMessage P newMessageId message).2
        = ({ h with tep } : HostRelayRuntime).recordMessage P t message := by
  have hnil : mutations P message = [] := by
    refine mutations_nil_of_type fun t' ht' hg => ?_
    obtain rfl : t = t' := Json.str.inj (Option.some.inj (hm.symm.trans hg))
    exact (by decide : ∀ t ∈ reportTypes, t ∉ registryMessageTypes) t ht ht'
  obtain ⟨reply, hr⟩ : ∃ reply, (TEPHandler.handleMessageOrError P (executorCallbacks P)
      newMessageId ⟨h.registry, h.tep⟩ message).1 = .ok reply :=
    handleMessageOrError_ok_of_nil hnil
  have hreg : (TEPHandler.handleMessageOrError P (executorCallbacks P) newMessageId
      ⟨h.registry, h.tep⟩ message).2.registry = h.registry := by
    rw [handleMessageOrError_snd, handleMessage_registry, hnil]
    rfl
  refine ⟨reply, (TEPHandler.handleMessageOrError P (executorCallbacks P) newMessageId
      ⟨h.registry, h.tep⟩ message).2.records, hr, ?_⟩
  unfold handleExecutorStdioMessage tepHandleMessageOrError
  rw [messageText_of_get hm]
  dsimp only
  rw [endsWith_response_of_report ht, hr, hreg]
  exact ⟨rfl, rfl⟩

lemma handleMessageOrError_report {handler : TEPHandler} {envelope : TEPEnvelope}
    (hp : parse P message = some (envelope, r.payload)) :
    ∃ reply, (handler.handleMessageOrError P (executorCallbacks P) newMessageId message).1
        = .ok reply ∧ replyStatus reply = some (.str "ok") := by
  have hok : ∀ o : Obj, ∃ reply, okResponse envelope newMessageId (.obj o) = .ok reply ∧
      replyStatus reply = some (.str "ok") := by
    intro o
    cases o <;> exact ⟨_, rfl, rfl⟩
  obtain ⟨reply, hr, hs⟩ := hok r.modelDump
  refine ⟨reply, handleMessageOrError_of_ok ?_, hs⟩
  rw [handleMessage_of_parse hp, ← hr]
  cases r <;> rfl

lemma recordMessage_bareReport (h : HostRelayRuntime) (ht : t ∈ reportTypes)
    (hr : bareReport P t (Obj.getD message "payload" (.obj [])) = some r) :
    (h.recordMessage P t message).link
        = h.link.settle r.target (messageText P message r.idKey) r.outcome ∧
      (h.recordMessage P t message).rlp = r.record h.rlp := by
  rw [recordMessage_report h message ht, hr]
  exact ⟨rfl, rfl⟩

lemma settle_pendingFuture {l : ExecutorLink} {target : Target} {id : String} {i : ℕ}
    (hi : l.pendingFuture target id = some i) (outcome : Except Exc Json) :
    ∃ op, (l.settle target id outcome).operations[i]? = some op ∧ op.future = .done outcome := by
  obtain ⟨hl, op, hop, hf⟩ := ExecutorLink.pendingFuture_eq_some.mp hi
  refine ⟨op.settle outcome, ?_, by rw [ExecutorOperation.settle_of_pending hf]⟩
  rw [ExecutorLink.settle, hl]
  dsimp only
  rw [ExecutorLink.getElem?_update, if_pos rfl, hop]
  rfl

lemma recordMessage_frame_iff (message : Obj) (h : HostRelayRuntime) (ht : t ∈ reportTypes) :
    ((∀ (i : ℕ) (op : ExecutorOperation), h.link.operations[i]? = some op → op.future = .pending →
        ∃ op' : ExecutorOperation, (h.recordMessage P t message).link.operations[i]? = some op' ∧
          op'.future = .pending) ∧
      (h.recordMessage P t message).rlp = h.rlp) ↔
      ∀ r, bareReport P t (Obj.getD message "payload" (.obj [])) = some r →
        h.link.pendingFuture r.target (messageText P message r.idKey) = none ∧
          r.last h.rlp = some r.modelDump := by
  cases hr : bareReport P t (Obj.getD message "payload" (.obj [])) with
  | none =>
    rw [recordMessage_report h message ht, hr]
    exact iff_of_true ⟨fun _ op hop hf => ⟨op, hop, hf⟩, rfl⟩ nofun
  | some r =>
    obtain ⟨hlink, hrlp⟩ := recordMessage_bareReport h ht hr
    rw [hlink, hrlp, Report.record_eq_iff]
    constructor
    · rintro ⟨hwaits, hlast⟩ _ ⟨⟩
      refine ⟨?_, hlast⟩
      by_contra hne
      obtain ⟨i, hi⟩ := Option.ne_none_iff_exists'.mp hne
      obtain ⟨-, op, hop, hf⟩ := ExecutorLink.pendingFuture_eq_some.mp hi
      obtain ⟨op', hop', hf'⟩ := hwaits i op hop hf
      obtain ⟨op'', hop'', hf''⟩ := settle_pendingFuture hi r.outcome
      obtain rfl := Option.some.inj (hop'.symm.trans hop'')
      exact nomatch hf'.symm.trans hf''
    · intro hall
      obtain ⟨hnone, hlast⟩ := hall r rfl
      rw [ExecutorLink.settle_of_pendingFuture_none hnone]
      exact ⟨fun _ op hop hf => ⟨op, hop, hf⟩, hlast⟩

/-- **When the two verdicts agree.** Exactly when a message that is refused as a whole, but whose
payload passes by itself, addresses nothing that waits and says what is recorded already. -/
theorem judgedAlike_iff (P : Platform) (newMessageId : String) (h : HostRelayRuntime)
    {message : Obj} {t : String} (hm : Obj.get message "message_type" = some (.str t))
    (ht : t ∈ reportTypes) :
    JudgedAlike P newMessageId h message ↔
      (parse P message = none →
        ∀ r, bareReport P t (Obj.getD message "payload" (.obj [])) = some r →
          h.link.pendingFuture r.target (messageText P message r.idKey) = none ∧
            r.last h.rlp = some r.modelDump) := by
  obtain ⟨reply, tep, hreply, hfst, hsnd⟩ :=
    handleExecutorStdioMessage_report (P := P) h newMessageId hm ht
  have hsame : ∀ reply', (h.handleExecutorStdioMessage P newMessageId message).1
      = .ok (some reply') → reply' = reply := fun reply' hr' =>
    (Option.some.inj (Except.ok.inj (hfst.symm.trans hr'))).symm
  cases hp : parse P message with
  -- a message that is refused has been recorded all the same, where its payload passes by itself
  | none =>
    obtain ⟨reply', hr', hs⟩ : ∃ reply, (TEPHandler.handleMessageOrError P
        (executorCallbacks P) newMessageId ⟨h.registry, h.tep⟩ message).1 = .ok reply ∧
          replyStatus reply = some (.str "error") := handleMessageOrError_ok_of_parse_none hp
    obtain rfl := Except.ok.inj (hreply.symm.trans hr')
    have hframe := recordMessage_frame_iff (P := P) message ({ h with tep } : HostRelayRuntime) ht
    rw [← hsnd] at hframe
    constructor
    · exact fun hj _ => hframe.mp (hj.refused reply hfst hs)
    · intro hall
      refine ⟨fun _ _ _ => hframe.mpr (hall rfl), fun reply' hr'' hs' => ?_⟩
      rw [hsame reply' hr'', hs] at hs'
      simp at hs'
  -- one that is accepted is judged by the same payload
  | some x =>
    obtain ⟨envelope, payload⟩ := x
    obtain rfl : envelope.messageType = t := Json.str.inj (Option.some.inj
      ((validateMessage_fields (parse_eq_some hp).1).1.symm.trans hm))
    obtain ⟨r, rfl, hr⟩ := bareReport_of_parse hp ht
    obtain ⟨reply', hreply', hs⟩ : ∃ reply, (TEPHandler.handleMessageOrError P
        (executorCallbacks P) newMessageId ⟨h.registry, h.tep⟩ message).1 = .ok reply ∧
          replyStatus reply = some (.str "ok") := handleMessageOrError_report hp
    obtain rfl := Except.ok.inj (hreply.symm.trans hreply')
    refine iff_of_true ⟨fun reply' hr' hs' => ?_, fun _ _ _ => ⟨envelope, r, hp, fun i hi => ?_⟩⟩
      nofun
    · rw [hsame reply' hr', hs] at hs'
      simp at hs'
    · rw [hsnd, (recordMessage_bareReport _ ht hr).1]
      exact settle_pendingFuture hi r.outcome

/-! A resource is read, and its contents come in a message of another version. -/

def readSent : List HostEvent := [.attach 0, readResource, .acquire 0, .sent 0 (.ok ())]

def foreignResult : Obj :=
  [("protocol", .str "tep"), ("version", .str "2.0"), ("message_type", .str "resource_result"),
    ("message_id", .str "x"), ("request_id", .str "m"),
    ("payload", .obj [("uri", .str "u"), ("contents", .arr [.str "c"])])]

/-- The executor is told that its message is invalid, and the read is completed with it. -/
theorem foreignResult_completes :
    ∃ h, Run.run (HostRelayRuntime.step .strict) startedHost readSent = some h ∧
      (∃ reply, (h.handleExecutorStdioMessage .strict "n" foreignResult).1 = .ok (some reply) ∧
        replyStatus reply = some (.str "error")) ∧
      (∃ op, (h.handleExecutorStdioMessage .strict "n" foreignResult).2.link.operations[0]? = some op ∧
        op.future = .done (.ok (.arr [.str "c"]))) ∧
      ¬ JudgedAlike .strict "n" h foreignResult := by
  refine ⟨_, rfl, ⟨_, rfl, rfl⟩, ⟨_, rfl, rfl⟩, fun hj => ?_⟩
  obtain ⟨op, hop, hf⟩ := (hj.refused _ rfl rfl).1 0 _ rfl rfl
  obtain rfl := Option.some.inj hop
  cases hf

theorem judgedAlike_iff_foreignResult :
    Obj.get foreignResult "message_type" = some (.str "resource_result") ∧
      (JudgedAlike .strict "n" startedHost foreignResult ↔
        (parse .strict foreignResult = none →
          ∀ r, bareReport .strict "resource_result" (Obj.getD foreignResult "payload" (.obj []))
              = some r →
            startedHost.link.pendingFuture r.target (messageText .strict foreignResult r.idKey)
                = none ∧
              r.last startedHost.rlp = some r.modelDump)) :=
  ⟨rfl, judgedAlike_iff .strict "n" startedHost rfl (by decide)⟩

end NaiaRelay.Runtime
