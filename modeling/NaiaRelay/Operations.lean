import NaiaRelay.HostRegistry

set_option autoImplicit false

/-!
The three operations of the relay link under one description: the entry each is about, the table
it waits in, and what its answer is made of.
-/

namespace NaiaRelay.Runtime

open NaiaRelay.Pydantic NaiaRelay.Registry NaiaRelay.Rlp

/-- The payload an operation comes in. -/
def operationPayload : Operation → Payload
  | .executeTool p => .executeTool p
  | .readResource p => .readResource p
  | .getPrompt p => .getPrompt p

/-- The entry an operation is about. -/
def operationEntry : Operation → Kind × String
  | .executeTool p => (.tool, p.toolName)
  | .readResource p => (.resource, p.uri)
  | .getPrompt p => (.prompt, p.name)

def operationTarget : Operation → Target
  | .executeTool _ => .execution
  | .readResource _ | .getPrompt _ => .request

/-- The code of an error that has none of its own. -/
def operationCode : Operation → String
  | .executeTool _ => "execution_failed"
  | .readResource _ => "resource_read_failed"
  | .getPrompt _ => "prompt_get_failed"

/-- The details of the reply to an operation that came to this value. -/
def operationDetails : Operation → Json → Json
  | .executeTool _ => id
  | .readResource p => fun contents => .obj [("uri", .str p.uri), ("contents", contents)]
  | .getPrompt p => fun messages => .obj [("name", .str p.name), ("messages", messages)]

/-- The handler has the callback for an operation. -/
def hasCallback (r : RLPRecords) : Operation → Bool
  | .executeTool _ => r.executeTool
  | .readResource _ => r.readResource
  | .getPrompt _ => r.getPrompt

variable {P : Platform} {h : HostRelayRuntime} {ids : NewIds} {operationIds : OperationIds}
  {message : Obj}

/-- The message is answered with an error at once. -/
def AnsweredWithError (P : Platform) (h : HostRelayRuntime) (ids : NewIds)
    (operationIds : OperationIds) (message : Obj) : Prop :=
  ∃ response, (h.handleRlpMessage P ids operationIds message).1 = .answered (.ok response) ∧
    Tep.replyStatus response = some (.str "error")

lemma handleMessage_operation {handler : RLPHandler} {envelope : RLPEnvelope}
    {operation : Operation} (hc : hasCallback handler.records operation = true)
    (hp : Rlp.parse P message = some (envelope, operationPayload operation)) :
    handler.handleMessage P ids message =
      (.await operation (handler.records.operationResponse P envelope ids
        (operationCode operation) (operationDetails operation)), handler) := by
  rw [handleMessage_of_parse hp]
  have hoperation : ∀ {callback : Bool} {name code : String} {details : Json → Json},
      callback = true → handler.records.operation P envelope ids callback name code operation details
        = .await operation (handler.records.operationResponse P envelope ids code details) := by
    rintro callback name code details rfl
    rfl
  cases operation with
  | executeTool p | readResource p | getPrompt p => exact Prod.ext (hoperation hc) rfl

lemma operation_of_await {handler : RLPHandler} {operation : Operation}
    {resume : Except Exc Json → Except Exc Obj}
    (hc : (handler.handleMessage P ids message).1 = .await operation resume) :
    ∃ envelope, Rlp.parse P message = some (envelope, operationPayload operation) ∧
      resume = handler.records.operationResponse P envelope ids (operationCode operation)
        (operationDetails operation) := by
  cases hp : Rlp.parse P message with
  | none =>
    obtain ⟨answer, hx⟩ := handleMessage_of_parse_none (h := handler) ids hp
    rw [hx] at hc
    cases hc
  | some x =>
    obtain ⟨envelope, payload⟩ := x
    rw [handleMessage_of_parse hp] at hc
    refine ⟨envelope, ?_⟩
    have hoperation : ∀ {callback : Bool} {name code : String} {o : Operation}
        {details : Json → Json},
        handler.records.operation P envelope ids callback name code o details
          = .await operation resume →
        o = operation ∧ resume = handler.records.operationResponse P envelope ids code details := by
      intro callback name code o details ho
      unfold RLPRecords.operation at ho
      split at ho
      · injection ho with ho hr
        exact ⟨ho, hr.symm⟩
      · cases ho
    cases payload with
    | executeTool p | readResource p | getPrompt p =>
      obtain ⟨rfl, rfl⟩ := hoperation hc
      exact ⟨rfl, rfl⟩
    | mutation k p | removed k p =>
      obtain ⟨⟨answer, ha⟩, -⟩ := applyIncremental_done handler ids envelope p.registryRevision _
      exact nomatch ha.symm.trans hc
    | bindSession p =>
      simp only [RLPHandler.dispatch, RLPHandler.bindSession] at hc
      split at hc
      · cases hc
      · split at hc <;> cases hc
    | _ => cases hc

lemma operationResponse_obj (r : RLPRecords) (envelope : RLPEnvelope) (ids : NewIds)
    (defaultCode : String) (details : Json → Json) {value : Json} {o : Obj}
    (hd : details value = .obj o) :
    r.operationResponse P envelope ids defaultCode details (.ok value)
      = .ok (r.reply envelope ids (Tep.statusDump "ok" none none o)) := by
  have hok : r.okResponse envelope ids (details value)
      = .ok (r.reply envelope ids (Tep.statusDump "ok" none none o)) := by
    rw [hd]
    cases o <;> rfl
  simp only [RLPRecords.operationResponse, Except.bind, hok]

lemma operationPayload_injective : Function.Injective operationPayload := by
  intro o o' heq
  cases o <;> cases o' <;> cases heq <;> rfl

@[simp] lemma target_forward (h : HostRelayRuntime) (operationIds : OperationIds)
    (operation : Operation) (resume : Except Exc Json → Except Exc Obj) :
    (h.forward operationIds operation resume).target = operationTarget operation := by
  cases operation <;> rfl

@[simp] lemma resume_forward (h : HostRelayRuntime) (operationIds : OperationIds)
    (operation : Operation) (resume : Except Exc Json → Except Exc Obj) :
    (h.forward operationIds operation resume).resume = resume := by
  cases operation <;> rfl

lemma operation_of_forwarded {call : ExecutorOperation}
    (hf : h.forwarded P ids operationIds message = some call) :
    ∃ envelope operation, Rlp.parse P message = some (envelope, operationPayload operation) ∧
      call = h.forward operationIds operation (h.rlp.operationResponse P envelope ids
        (operationCode operation) (operationDetails operation)) := by
  unfold HostRelayRuntime.forwarded at hf
  split at hf
  · rename_i hcall _
    obtain ⟨envelope, hp, rfl⟩ := operation_of_await hcall
    exact ⟨envelope, _, hp, (Option.some.inj hf).symm⟩
  · cases hf

lemma handleRlpMessage_forwards {envelope : RLPEnvelope} {operation : Operation} {adapter : ℕ}
    (hs : h.base.started = true) (hc : hasCallback h.rlp operation = true)
    (hp : Rlp.parse P message = some (envelope, operationPayload operation))
    (ht : h.link.transport = some adapter) (ids : NewIds) (operationIds : OperationIds) :
    h.handleRlpMessage P ids operationIds message =
      (.forwarded, { h with
        link := h.link.register (h.forward operationIds operation (h.rlp.operationResponse P
          envelope ids (operationCode operation) (operationDetails operation))) }) := by
  have hx : RLPHandler.handleMessage P ids ⟨h.registry, h.rlp⟩ message = _ :=
    handleMessage_operation hc hp
  unfold HostRelayRuntime.handleRlpMessage
  rw [BaseRelayRuntime.ensureStarted, if_pos hs, hx]
  simp only [ht]

lemma handleRlpMessage_alone {envelope : RLPEnvelope} {operation : Operation}
    (hs : h.base.started = true) (hc : hasCallback h.rlp operation = true)
    (hp : Rlp.parse P message = some (envelope, operationPayload operation))
    (ht : h.link.transport = none) (ids : NewIds) (operationIds : OperationIds) :
    ∃ response, (h.handleRlpMessage P ids operationIds message).1 = .answered (.ok response) ∧
      Tep.replyStatus response = some (.str "ok") := by
  obtain ⟨o, ho⟩ : ∃ o, operationDetails operation (executorOperation P operation)
      = .obj o := by
    cases operation <;> exact ⟨_, rfl⟩
  have hx : RLPHandler.handleMessage P ids ⟨h.registry, h.rlp⟩ message = _ :=
    handleMessage_operation hc hp
  refine ⟨h.rlp.reply envelope ids (Tep.statusDump "ok" none none o), ?_, rfl⟩
  unfold HostRelayRuntime.handleRlpMessage
  rw [BaseRelayRuntime.ensureStarted, if_pos hs, hx]
  simp only [ht, operationResponse_obj h.rlp envelope ids _ _ ho]

lemma answeredWithError_iff {envelope : RLPEnvelope} {operation : Operation}
    (hs : h.base.started = true)
    (hp : Rlp.parse P message = some (envelope, operationPayload operation)) (ids : NewIds)
    (operationIds : OperationIds) :
    AnsweredWithError P h ids operationIds message ↔ hasCallback h.rlp operation = false := by
  cases hc : hasCallback h.rlp operation with
  | true =>
    refine iff_of_false ?_ nofun
    rintro ⟨response, hr, hstatus⟩
    cases ht : h.link.transport with
    | some adapter =>
      rw [handleRlpMessage_forwards hs hc hp ht] at hr
      cases hr
    | none =>
      obtain ⟨response', hr', hstatus'⟩ := handleRlpMessage_alone hs hc hp ht ids operationIds
      obtain rfl := Except.ok.inj (RlpHandling.answered.inj (hr.symm.trans hr'))
      rw [hstatus] at hstatus'
      simp at hstatus'
  | false =>
    refine iff_of_true ?_ rfl
    have hno : ¬ hasCallback h.rlp operation = true := by
      rw [hc]
      decide
    obtain ⟨text, hx⟩ : ∃ text, RLPHandler.handleMessage P ids ⟨h.registry, h.rlp⟩ message
        = (.done (.ok (h.rlp.errorResponse envelope ids "unimplemented" text)),
          ⟨h.registry, h.rlp⟩) := by
      rw [handleMessage_of_parse hp]
      cases operation with
      | executeTool p | readResource p | getPrompt p => exact ⟨_, Prod.ext (if_neg hno) rfl⟩
    refine ⟨h.rlp.errorResponse envelope ids "unimplemented" text, ?_, rfl⟩
    unfold HostRelayRuntime.handleRlpMessage
    rw [BaseRelayRuntime.ensureStarted, if_pos hs, hx]

/-! A message that asks for a resource, and the operation it is. -/

def readMessage : Obj := linkMessage "read_resource" [("uri", .str "u")]

def readOfU : Operation := .readResource { uri := "u", arguments := [], context := [] }

end NaiaRelay.Runtime
