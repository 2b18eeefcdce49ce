import NaiaRelay.Outcome

set_option autoImplicit false

/-!
Whether a forwarded operation is always answered with a status. Everything an executor says
about it is, but for one kind of reply: an error whose details Python cannot make a dictionary
of.
-/

namespace NaiaRelay.Runtime

open NaiaRelay.Pydantic NaiaRelay.Registry NaiaRelay.Rlp

/-- The message is answered, with status ok or with an error that has a code and a message. -/
def IsStructured (answer : Except Exc Obj) : Prop :=
  ∃ response payload, answer = .ok response ∧ Obj.get response "payload" = some (.obj payload) ∧
    (Obj.get payload "status" = some (.str "ok") ∨
      Obj.get payload "status" = some (.str "error") ∧
        ∃ code text, Obj.get payload "code" = some (.str code) ∧
          Obj.get payload "message" = some (.str text))

/-- `dict(details or {})` goes through. -/
def DictLike (details : Json) : Prop := ∃ o, toDict (details.orElse (.obj [])) = .ok o

variable {P : Platform} {r : RLPRecords} {envelope : RLPEnvelope} {ids : NewIds}

lemma isStructured_errorResponse (code text : String) (details : Obj) :
    IsStructured (.ok (r.errorResponse envelope ids code text details)) :=
  ⟨_, _, rfl, rfl, Or.inr ⟨rfl, code, text, rfl, rfl⟩⟩

lemma isStructured_protocol_iff (defaultCode : String) (details : Json → Json) (text code : String)
    (data : Json) :
    IsStructured (r.operationResponse P envelope ids defaultCode details
      (.error (.protocol text code data))) ↔ DictLike data := by
  show IsStructured (r.exceptionResponse P envelope ids (.protocol text code data) defaultCode) ↔ _
  unfold DictLike
  cases hd : toDict (data.orElse (.obj [])) with
  | ok o =>
    refine iff_of_true ?_ ⟨o, rfl⟩
    simp only [RLPRecords.exceptionResponse, Exc.protocol, hd]
    exact isStructured_errorResponse _ _ _
  | error e =>
    refine iff_of_false ?_ (by rintro ⟨o, ⟨⟩⟩)
    simp only [RLPRecords.exceptionResponse, Exc.protocol, hd]
    rintro ⟨_, _, hno, -⟩
    cases hno

lemma isStructured_exceptionResponse {e : Exc} (he : ∀ text code data, e ≠ .protocolError text code data)
    (defaultCode : String) :
    IsStructured (r.exceptionResponse P envelope ids e defaultCode) := by
  cases e with
  | protocolError text code data => exact absurd rfl (he text code data)
  | _ => exact isStructured_errorResponse _ _ _

lemma isStructured_of_ok (defaultCode : String) (details : Json → Json) (v : Json) :
    IsStructured (r.operationResponse P envelope ids defaultCode details (.ok v)) := by
  unfold RLPRecords.operationResponse RLPRecords.okResponse
  simp only [Except.bind, Tep.okStatus]
  cases within (.str "details") (dict ((details v).orElse (.obj []))) with
  | ok o => exact ⟨_, _, rfl, rfl, Or.inl rfl⟩
  | errors es =>
    exact isStructured_exceptionResponse (e := .validationError "StatusPayload" es)
      (fun _ _ _ h => nomatch h) defaultCode

lemma responseOutcome_cases {payload : Obj} {outcome : Except Exc Json}
    (hr : HostRelayRuntime.responseOutcome P (.obj payload) = .ok outcome) :
    (Obj.get payload "status" = some (.str "ok") ∧
        outcome = .ok (Obj.getD payload "details" (.obj []))) ∨
      (Obj.get payload "status" ≠ some (.str "ok") ∧ ∃ text code,
        outcome = .error (.protocol text code (Obj.getD payload "details" (.obj [])))) := by
  simp only [HostRelayRuntime.responseOutcome] at hr
  split at hr
  · rename_i hs
    exact Or.inl ⟨hs, (Except.ok.inj hr).symm⟩
  · rename_i hs
    exact Or.inr ⟨hs, _, _, (Except.ok.inj hr).symm⟩

lemma recordedAnswer_outcome {messageType id : String} {message : Obj} {target : Target}
    {outcome : Except Exc Json}
    (hr : recordedAnswer P messageType message = some (target, id, outcome)) :
    (∃ v, outcome = .ok v) ∨ ∃ text code o, outcome = .error (.protocol text code (.obj o)) := by
  unfold recordedAnswer at hr
  dsimp only at hr
  split at hr
  case h_5 => cases hr
  case h_2 =>
    split at hr
    · cases hr
    · rename_i p _
      simp only [Option.some.injEq, Prod.mk.injEq] at hr
      obtain ⟨-, -, rfl⟩ := hr
      rcases errorOutcome_cases p with ⟨result, -, ho⟩ | ⟨-, ho⟩
      · exact Or.inl ⟨_, ho⟩
      · exact Or.inr ⟨_, _, _, ho⟩
  all_goals
    split at hr
    · cases hr
    · simp only [Option.some.injEq, Prod.mk.injEq] at hr
      exact Or.inl ⟨_, hr.2.2.symm⟩

/-- **When a forwarded operation gets a structured answer.** In any run of a host, an operation
that a message of the executor completes is answered with a status exactly when the message is
not a `*_response` with an error whose details make no dictionary. -/
theorem structured_iff (P : Platform) (operation : Operation) {request message : Obj}
    {envelope : RLPEnvelope} {id : String} {outcome : Except Exc Json} {answer : Except Exc Obj}
    (hp : Rlp.parse P request = some (envelope, operationPayload operation))
    (he : EndedBy P request message id answer)
    (hx : executorAnswer P message = some (operationTarget operation, id, outcome)) :
    IsStructured answer ↔
      (endsWith (HostRelayRuntime.messageText P message "message_type") "_response" = true →
        ∀ payload, Obj.getD message "payload" (.obj []) = .obj payload →
          Obj.get payload "status" ≠ some (.str "ok") →
            DictLike (Obj.getD payload "details" (.obj []))) := by
  obtain ⟨h, ids, operationIds, call, hf, hanswer⟩ := resume_of_endedBy he
  obtain ⟨envelope', operation', hp', rfl⟩ := operation_of_forwarded hf
  obtain rfl : operation' = operation :=
    operationPayload_injective (Prod.mk.inj (Option.some.inj (hp'.symm.trans hp))).2
  rw [hanswer outcome (by rw [target_forward, hx]), resume_forward]
  unfold executorAnswer at hx
  dsimp only at hx
  split at hx
  -- a generic reply may carry any details
  · rename_i hr
    cases hpayload : Obj.getD message "payload" (.obj []) with
    | obj payload =>
      rw [hpayload] at hx
      cases ho : HostRelayRuntime.responseOutcome P (.obj payload) with
      | error e =>
        rw [ho] at hx
        cases hx
      | ok outcome' =>
        simp only [ho, Option.some.injEq, Prod.mk.injEq] at hx
        obtain ⟨-, -, rfl⟩ := hx
        rcases responseOutcome_cases ho with ⟨hs, rfl⟩ | ⟨hs, text, code, rfl⟩
        · refine iff_of_true (isStructured_of_ok _ _ _) ?_
          rintro - _ ⟨⟩ hs'
          exact absurd hs hs'
        · rw [isStructured_protocol_iff]
          constructor
          · rintro hd - _ ⟨⟩ -
            exact hd
          · exact fun hall => hall hr payload rfl hs
    | _ =>
      rw [hpayload] at hx
      cases hx
  -- a report has passed a check, and its details are an object
  · rename_i hr
    refine iff_of_true ?_ fun hr' => absurd hr' hr
    rcases recordedAnswer_outcome hx with ⟨v, rfl⟩ | ⟨text, code, o, rfl⟩
    · exact isStructured_of_ok _ _ v
    · rw [isStructured_protocol_iff]
      exact ⟨o, by cases o <;> rfl⟩

/-! A resource is read, and the executor answers with an error that has a number for details. -/

def numberedError : Obj :=
  [("message_type", .str "read_resource_response"), ("request_id", .str "m"),
    ("payload", .obj [("status", .str "error"), ("code", .str "c"), ("message", .str "t"),
      ("details", .int 5)])]

def numberedAnswer : Except Exc Obj := .error (.typeError "'int' object is not iterable")

lemma numberedError_ended : EndedBy .strict readMessage numberedError "m" numberedAnswer :=
  .mk (s := startedHost) (n := "n") rfl
    (rfl : Run.run (HostRelayRuntime.step .strict) startedHost [.attach 0] = some attachedHost)
    (rfl : attachedHost.forwarded .strict ⟨"r", "g"⟩ ⟨"m", "e"⟩ _ = some _) rfl
    (rfl : Run.run (HostRelayRuntime.step .strict) attachedHost
      [.rlp ⟨"r", "g"⟩ ⟨"m", "e"⟩ _, .acquire 0, .sent 0 (.ok ())] = some _) rfl rfl
    (rfl : Run.run (HostRelayRuntime.step .strict) _ (.executor "n" numberedError :: ([] ++
      [.resume attachedHost.link.operations.length])) = some _) rfl rfl

/-- The host raises instead of answering. -/
theorem numberedError_raises :
    (∃ envelope p, Rlp.parse .strict readMessage = some (envelope, .readResource p)) ∧
      EndedBy .strict readMessage numberedError "m" numberedAnswer ∧
      (∃ outcome, executorAnswer .strict numberedError = some (.request, "m", outcome)) ∧
      ¬ IsStructured numberedAnswer := by
  refine ⟨⟨_, _, rfl⟩, numberedError_ended, ⟨_, rfl⟩, ?_⟩
  rintro ⟨_, _, hno, -⟩
  cases hno

theorem numberedError_structured_iff :
    IsStructured numberedAnswer ↔
      (endsWith (HostRelayRuntime.messageText .strict numberedError "message_type") "_response"
          = true →
        ∀ payload, Obj.getD numberedError "payload" (.obj []) = .obj payload →
          Obj.get payload "status" ≠ some (.str "ok") →
            DictLike (Obj.getD payload "details" (.obj []))) :=
  structured_iff .strict (.readResource ⟨"u", [], []⟩) rfl numberedError_ended rfl

end NaiaRelay.Runtime
