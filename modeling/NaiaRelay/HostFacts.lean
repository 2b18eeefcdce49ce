import NaiaRelay.HostRuntime
import NaiaRelay.LinkFacts
import NaiaRelay.TepEffect

set_option autoImplicit false

/-!
What a message of the executor does to each part of the host: to the registry what the handler
does, to the link what it settles, and nothing to the rest but the records of the last results.
-/

namespace NaiaRelay.Runtime

open NaiaRelay.Pydantic NaiaRelay.Registry NaiaRelay.Tep
open NaiaRelay.Rlp (RLPRecords)

variable {P : Platform}

/-! ### The guarded handler -/

lemma dispatch_ok_of_nil {h : TEPHandler} {newMessageId : String} {envelope : TEPEnvelope}
    {payload : Payload} (hp : payload.mutations envelope.sessionId = []) :
    ∃ r, (h.dispatch (executorCallbacks P) newMessageId envelope payload).1 = .ok r := by
  cases payload
  case registerTools | registerResources | registerPrompts | deregisterTools
      | deregisterResources | deregisterPrompts =>
    simp only [Payload.mutations, List.map_eq_nil_iff] at hp
    simp only [TEPHandler.dispatch, hp, List.map_nil, TEPHandler.mutateEach, Batch.forEach_nil]
    exact ⟨_, rfl⟩
  all_goals exact ⟨_, rfl⟩

lemma handleMessageOrError_cases (h : TEPHandler) (newMessageId : String) (message : Obj) :
    ((∃ r, (h.handleMessageOrError P (executorCallbacks P) newMessageId message).1 = .ok r) ∧
        ∀ e, (Batch.forEach RegistryStore.mutate h.registry (mutations P message)).1 = .error e →
          e.isValueError = true) ∨
      ∃ e, (h.handleMessageOrError P (executorCallbacks P) newMessageId message).1 = .error e ∧
        (Batch.forEach RegistryStore.mutate h.registry (mutations P message)).1 = .error e ∧
          e.isValueError = false := by
  cases hp : parse P message with
  -- a message that does not pass is answered
  | none =>
    obtain ⟨r, hr, -⟩ := handleMessageOrError_ok_of_parse_none hp
    refine Or.inl ⟨⟨r, hr⟩, fun e he => ?_⟩
    simp [mutations, hp] at he
  | some x =>
    obtain ⟨envelope, payload⟩ := x
    have hm : mutations P message = payload.mutations envelope.sessionId := by
      simp [mutations, hp]
    rw [hm]
    by_cases hnil : payload.mutations envelope.sessionId = []
    · obtain ⟨r, hr⟩ := dispatch_ok_of_nil (P := P) (h := h) hnil
      rw [← handleMessage_of_parse hp] at hr
      refine Or.inl ⟨⟨r, handleMessageOrError_of_ok hr⟩, fun e he => ?_⟩
      simp [hnil] at he
    · have hd : h.handleMessage P (executorCallbacks P) newMessageId message = _ :=
        (handleMessage_of_parse hp).trans ((dispatch_cases envelope payload).resolve_left
          fun hn => hnil hn.1)
      cases hf : (Batch.forEach RegistryStore.mutate h.registry
          (payload.mutations envelope.sessionId)).1 with
      | ok u =>
        rw [hf] at hd
        have hr : (h.handleMessage P (executorCallbacks P) newMessageId message).1
            = .ok (reply envelope newMessageId (statusDump "ok" none none [])) := by
          rw [hd]
          rfl
        exact Or.inl ⟨⟨_, handleMessageOrError_of_ok hr⟩, by simp⟩
      | error e =>
        rw [hf] at hd
        -- the guard answers a `ValueError` and lets anything else through
        cases hv : e.isValueError with
        | true =>
          refine Or.inl ⟨?_, fun e' he' => by rw [← Except.error.inj he', hv]⟩
          rw [handleMessageOrError_of_error (hd.trans rfl), if_pos hv]
          exact ⟨_, rfl⟩
        | false =>
          refine Or.inr ⟨e, ?_, rfl, hv⟩
          rw [handleMessageOrError_of_error (hd.trans rfl), hv]
          rfl

lemma handleMessageOrError_ok_of_nil {h : TEPHandler} {newMessageId : String} {message : Obj}
    (hm : mutations P message = []) :
    ∃ r, (h.handleMessageOrError P (executorCallbacks P) newMessageId message).1 = .ok r := by
  rcases handleMessageOrError_cases (P := P) h newMessageId message with ⟨hr, -⟩ | ⟨e, -, he, -⟩
  · exact hr
  · simp [hm] at he

/-! ### What a message settles -/

open HostRelayRuntime

/-- What a message that is replied to settles, by its type. -/
def recordedAnswer (P : Platform) (messageType : String) (message : Obj) :
    Option (Target × String × Except Exc Json) :=
  let payload := Obj.getD message "payload" (.obj [])
  match messageType with
  | "execution_result" =>
    match ExecutionResultPayload.check P objectBag payload with
    | .errors _ => none
    | .ok p => some (.execution, messageText P message "execution_id", .ok (.obj p.result))
  | "execution_error" =>
    match ExecutionErrorPayload.check objectBag payload with
    | .errors _ => none
    | .ok p => some (.execution, messageText P message "execution_id", errorOutcome p)
  | "resource_result" =>
    match ResourceResultPayload.check objectBag payload with
    | .errors _ => none
    | .ok p => some (.request, messageText P message "request_id", .ok (.arr p.contents))
  | "prompt_result" =>
    match PromptResultPayload.check objectBag payload with
    | .errors _ => none
    | .ok p => some (.request, messageText P message "request_id", .ok (.arr p.messages))
  | _ => none

/-- What a message of the executor settles: the table, the id, and the outcome. -/
def executorAnswer (P : Platform) (message : Obj) : Option (Target × String × Except Exc Json) :=
  let messageType := messageText P message "message_type"
  if endsWith messageType "_response" then
    match responseOutcome P (Obj.getD message "payload" (.obj [])) with
    | .error _ => none
    | .ok outcome => some (.request, messageText P message "request_id", outcome)
  else recordedAnswer P messageType message

/-- The link once an answer, if there is one, has been delivered. -/
def ExecutorLink.deliver (l : ExecutorLink) :
    Option (Target × String × Except Exc Json) → ExecutorLink
  | none => l
  | some (target, id, outcome) => l.settle target id outcome

/-- The records of a handler without those of the last results. -/
def forgetResults (r : RLPRecords) : RLPRecords :=
  { r with
    lastProgress := none
    lastExecutionResult := none
    lastExecutionError := none
    lastResourceResult := none
    lastPromptResult := none }

lemma recordMessage_eq (h : HostRelayRuntime) (messageType : String) (message : Obj) :
    ∃ rlp, forgetResults rlp = forgetResults h.rlp ∧
      h.recordMessage P messageType message =
        { h with rlp, link := h.link.deliver (recordedAnswer P messageType message) } := by
  unfold recordMessage
  dsimp only
  split
  case h_6 =>
    refine ⟨h.rlp, rfl, ?_⟩
    unfold recordedAnswer
    dsimp only
    split <;> first | contradiction | rfl
  case h_1 =>
    have hn : recordedAnswer P "execution_progress" message = none := rfl
    rw [hn]
    split
    · exact ⟨h.rlp, rfl, rfl⟩
    · refine ⟨_, ?_, rfl⟩
      rfl
  all_goals
    split
    all_goals
      rename_i hk
      refine ⟨_, ?_, by simp only [recordedAnswer, hk]; rfl⟩
      rfl

lemma messageText_of_get {message : Obj} {key t : String}
    (h : Obj.get message key = some (.str t)) : messageText P message key = t := by
  unfold messageText Obj.getD
  rw [h, Option.getD_some, Json.orElse]
  split
  · rfl
  · rename_i ht
    obtain rfl : t = "" := by simpa [Json.truthy] using ht
    rfl

lemma mutations_nil_of_response {message : Obj}
    (h : endsWith (messageText P message "message_type") "_response" = true) :
    mutations P message = [] := by
  refine mutations_nil_of_type fun t ht hg => ?_
  rw [messageText_of_get hg] at h
  have hno : ∀ t ∈ registryMessageTypes, endsWith t "_response" = false := by decide
  rw [hno t ht] at h
  contradiction

lemma recordedAnswer_none_of_mutations {message : Obj} (h : mutations P message ≠ []) :
    recordedAnswer P (messageText P message "message_type") message = none := by
  by_contra hr
  refine h (mutations_nil_of_type fun t ht hg => hr ?_)
  rw [messageText_of_get hg]
  simp only [registryMessageTypes, List.mem_cons, List.not_mem_nil, or_false] at ht
  rcases ht with rfl | rfl | rfl | rfl | rfl | rfl <;> rfl

theorem handleExecutorStdioMessage_eq (h : HostRelayRuntime) (newMessageId : String)
    (message : Obj) :
    ∃ tep rlp, forgetResults rlp = forgetResults h.rlp ∧
      (h.handleExecutorStdioMessage P newMessageId message).2 =
        { h with
          registry := afterMutations h.registry (mutations P message)
          tep, rlp
          link := h.link.deliver (executorAnswer P message) } := by
  unfold handleExecutorStdioMessage executorAnswer
  dsimp only
  by_cases hr : endsWith (messageText P message "message_type") "_response" = true
  -- a reply settles the future that waits for it, if one does
  · rw [if_pos hr, if_pos hr, mutations_nil_of_response hr]
    refine ⟨h.tep, h.rlp, rfl, ?_⟩
    unfold handleResponse
    dsimp only
    cases hp : h.link.pendingFuture .request (messageText P message "request_id") with
    | none =>
      cases responseOutcome P (Obj.getD message "payload" (.obj [])) with
      | error e => rfl
      | ok outcome =>
        show h = { h with link := h.link.settle _ _ outcome }
        rw [ExecutorLink.settle_of_pendingFuture_none hp]
    | some i =>
      cases responseOutcome P (Obj.getD message "payload" (.obj [])) <;> rfl
  -- any other message goes through the handler, and what it is about is recorded
  · rw [if_neg hr, if_neg hr]
    have hreg : (TEPHandler.handleMessageOrError P (executorCallbacks P) newMessageId
        ⟨h.registry, h.tep⟩ message).2.registry = afterMutations h.registry (mutations P message) := by
      rw [handleMessageOrError_snd, handleMessage_registry]
    unfold tepHandleMessageOrError
    dsimp only
    rw [hreg]
    cases hx : (TEPHandler.handleMessageOrError P (executorCallbacks P) newMessageId
        ⟨h.registry, h.tep⟩ message).1 with
    | ok response =>
      obtain ⟨rlp, hf, he⟩ := recordMessage_eq (P := P)
        { h with
          registry := afterMutations h.registry (mutations P message)
          tep := (TEPHandler.handleMessageOrError P (executorCallbacks P) newMessageId
            ⟨h.registry, h.tep⟩ message).2.records }
        (messageText P message "message_type") message
      exact ⟨_, rlp, hf, he⟩
    -- the handler raises only for a change, so there is nothing to settle
    | error e =>
      have hm : mutations P message ≠ [] := by
        intro hm
        obtain ⟨r, hr⟩ := handleMessageOrError_ok_of_nil (P := P) (h := ⟨h.registry, h.tep⟩) hm
        rw [hr] at hx
        simp at hx
      rw [recordedAnswer_none_of_mutations hm]
      exact ⟨_, h.rlp, rfl, rfl⟩

end NaiaRelay.Runtime
