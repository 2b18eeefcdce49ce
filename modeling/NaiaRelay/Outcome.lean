import NaiaRelay.Bridge

set_option autoImplicit false

/-!
How a call ends: from the executor's last message about it, through the host's reply, to the
response to the client's own client.
-/

namespace NaiaRelay.Runtime

open NaiaRelay.Pydantic NaiaRelay.Registry NaiaRelay.Rlp NaiaRelay.Mcp

variable (P : Platform)

/-! ### The executor's last message -/

/-- The payload an execution ends with. -/
inductive Terminal
  | result (p : Tep.ExecutionResultPayload)
  | error (p : Tep.ExecutionErrorPayload)

def Terminal.payload : Terminal → Tep.Payload
  | .result p => .executionResult p
  | .error p => .executionError p

/-- The message is valid, and ends the execution with this id. -/
def IsTerminal (message : Obj) (executionId : String) (t : Terminal) : Prop :=
  ∃ envelope, Tep.parse P message = some (envelope, t.payload) ∧
    envelope.executionId = some executionId

/-- The executor ends the call that `request` asks a host for: the host forwards it under this
id; the message comes while the call waits for one; and the call goes on and is answered. In
between anything may happen. -/
inductive EndedBy (request message : Obj) (executionId : String) (answer : Except Exc Obj) : Prop
  | mk {s h h₁ h₂ : HostRelayRuntime} {es₀ es₁ es₂ : List HostEvent} {ids : NewIds}
    {operationIds : OperationIds} {call op op' : ExecutorOperation} {n : String}
    (fresh : s.link = {}) (reached : Run.run (HostRelayRuntime.step P) s es₀ = some h)
    (forwarded : h.forwarded P ids operationIds request = some call)
    (named : call.id = executionId)
    (called : Run.run (HostRelayRuntime.step P) h (.rlp ids operationIds request :: es₁) = some h₁)
    (waits : h₁.link.operations[h.link.operations.length]? = some op)
    (pending : op.future = .pending)
    (ended : Run.run (HostRelayRuntime.step P) h₁
      (.executor n message :: (es₂ ++ [.resume h.link.operations.length])) = some h₂)
    (answered : h₂.link.operations[h.link.operations.length]? = some op')
    (phase : op'.phase = .ended answer)

/-! ### The response -/

/-- The response is an error, or a result that says that it is one. -/
def ShowsFailure (response : Obj) : Prop :=
  (Obj.get response "error").isSome ∨ ∃ result, Obj.get response "result" = some (.obj result) ∧
    Obj.get result "isError" = some (.bool true)

/-- The response says what the executor said: a result as it is, or that there was an error. -/
def Reports (response : Obj) : Terminal → Prop
  | .result p =>
    if p.isError then ShowsFailure response
    else Obj.get response "result" = some (.obj p.result)
  | .error _ => ShowsFailure response

/-- The result that comes with an error, if one does, says itself that it is one. -/
def FlagsFailure : Terminal → Prop
  | .result p => p.isError = true → Obj.get p.result "isError" = some (.bool true)
  | .error p => ∀ result, Obj.get p.details "result" = some (.obj result) →
      Obj.get result "isError" = some (.bool true)

variable {P} {c : ClientRelayRuntime} {h h' : HostRelayRuntime} {e : HostEvent} {i : ℕ}
  {op : ExecutorOperation}

/-! ### The host -/

/-- What a terminal message completes its execution with. -/
def Terminal.outcome : Terminal → Except Exc Json
  | .result p => .ok (.obj p.result)
  | .error p => HostRelayRuntime.errorOutcome p

lemma terminal_of_check {messageType : String} {check : Json → Except Exc Tep.Payload} {v : Json}
    {t : Terminal} (hc : Tep.messagePayloadModel P messageType = some check)
    (hk : check v = .ok t.payload) :
    (∃ p, t = .result p ∧ messageType = "execution_result" ∧
        Tep.ExecutionResultPayload.check P Tep.objectBag v = .ok p) ∨
      ∃ p, t = .error p ∧ messageType = "execution_error" ∧
        Tep.ExecutionErrorPayload.check Tep.objectBag v = .ok p := by
  unfold Tep.messagePayloadModel at hc
  split at hc
  case h_19 => cases hc
  all_goals
    rw [← Option.some.inj hc, modelValidate_eq_ok, Validation.map_eq_ok] at hk
    obtain ⟨p, hp, ht⟩ := hk
    cases t <;> cases ht
  · exact Or.inl ⟨_, rfl, rfl, hp⟩
  · exact Or.inr ⟨_, rfl, rfl, hp⟩

lemma executorAnswer_of_isTerminal {message : Obj} {executionId : String} {t : Terminal}
    (ht : IsTerminal P message executionId t) :
    executorAnswer P message = some (.execution, executionId, t.outcome) := by
  obtain ⟨envelope, hp, hid⟩ := ht
  obtain ⟨hv, check, hc, hk⟩ := Tep.parse_eq_some hp
  obtain ⟨htype, hexecution, hpayload⟩ := Tep.validateMessage_fields hv
  have hname := messageText_of_get (P := P) (hexecution _ hid)
  unfold executorAnswer
  rw [messageText_of_get htype]
  rcases terminal_of_check hc hk with ⟨p, rfl, hm, hcheck⟩ | ⟨p, rfl, hm, hcheck⟩
  · rw [hm]
    refine (if_neg (by decide)).trans ?_
    simp only [recordedAnswer, hpayload, hcheck, hname]
    rfl
  · rw [hm]
    refine (if_neg (by decide)).trans ?_
    simp only [recordedAnswer, hpayload, hcheck, hname]
    rfl

lemma done_of_turn {op' : ExecutorOperation} {l : ExecutorLink} {ε : LinkEvent}
    {outcome : Except Exc Json} (ht : op.Turn l i ε op') (hf : op.future = .done outcome) :
    op'.future = .done outcome := by
  have hsettle : ∀ o, (op.settle o).future = .done outcome := by
    intro o
    rw [ExecutorOperation.settle_of_ne_pending (by rw [hf]; exact nofun), hf]
  cases ht with
  | settled o => exact hsettle o
  | detached adapter ha => exact hsettle _
  | timedOut timeout outer hp hpend => exact nomatch hf.symm.trans hpend
  | _ => exact hf

lemma call_step (hw : h.link.Wf) (hop : h.link.operations[i]? = some op)
    (hstep : h.step P e = some h') :
    ∃ op', h'.link.operations[i]? = some op' ∧ op.SameCall op' ∧
      ∀ outcome, op.future = .done outcome → op'.future = .done outcome := by
  rcases link_step_cases hstep with ⟨-, hl⟩ | ⟨ε, -, hl⟩
  · exact ⟨op, by rw [hl]; exact hop, .refl op, fun _ hf => hf⟩
  · exact ⟨_, ExecutorLink.getElem?_step hw hl hop, ExecutorLink.sameCall_after _ _ _ _,
      fun _ hf => done_of_turn (ExecutorLink.turn_after hl hop) hf⟩

lemma call_run {es : List HostEvent} (hw : h.link.Wf) (hop : h.link.operations[i]? = some op)
    (hrun : Run.run (HostRelayRuntime.step P) h es = some h') :
    ∃ op', h'.link.operations[i]? = some op' ∧ op.SameCall op' ∧
      ∀ outcome, op.future = .done outcome → op'.future = .done outcome := by
  refine (Run.run_invariant (I := fun k => k.link.Wf ∧ ∃ op', k.link.operations[i]? = some op' ∧
      op.SameCall op' ∧ ∀ outcome, op.future = .done outcome → op'.future = .done outcome)
    ?_ ⟨hw, op, hop, .refl op, fun _ hf => hf⟩ hrun).2
  rintro k e k' ⟨hk, op₁, hop₁, hsame, hfuture⟩ hstep
  obtain ⟨op₂, hop₂, hsame', hfuture'⟩ := call_step hk hop₁ hstep
  exact ⟨wf_link_step hk hstep, op₂, hop₂, hsame.trans hsame',
    fun outcome ho => hfuture' outcome (hfuture outcome ho)⟩

lemma forwarded_executeTool {rids : ClientRelayRuntime.RequestIds} {name : String}
    {arguments : Json} {ids : NewIds} {operationIds : OperationIds} {call : ExecutorOperation}
    (hf : h.forwarded P ids operationIds
      (c.upstreamRequest rids (.executeTool (.str name) arguments)) = some call) :
    call.target = .execution ∧ ∃ (r : RLPRecords) (envelope : RLPEnvelope),
      call.resume = r.operationResponse P envelope ids "execution_failed" id := by
  obtain ⟨envelope, operation, hp, rfl⟩ := operation_of_forwarded hf
  obtain ⟨p, rfl⟩ : ∃ p, operation = .executeTool p := by
    cases arguments with
    | obj arguments =>
      have hpayload := (Prod.mk.inj (Option.some.inj
        (hp.symm.trans (parse_upstreamRequest c rids .tool name arguments)))).2
      cases operation with
      | executeTool p => exact ⟨p, rfl⟩
      | _ => cases hpayload
    | _ => cases hp
  exact ⟨rfl, h.rlp, envelope, rfl⟩

lemma sameCall_of_called {h₁ : HostRelayRuntime} {request : Obj} {ids : NewIds}
    {operationIds : OperationIds} {call : ExecutorOperation} {es : List HostEvent}
    (hw : h.link.Wf) (hf : h.forwarded P ids operationIds request = some call)
    (hrun : Run.run (HostRelayRuntime.step P) h (.rlp ids operationIds request :: es) = some h₁)
    (hop : h₁.link.operations[h.link.operations.length]? = some op) :
    h₁.link.Wf ∧ call.SameCall op := by
  refine ⟨wf_link_run hw hrun, ?_⟩
  obtain ⟨k, hk, hrest⟩ := Run.run_cons_eq_some.mp hrun
  have hcall := exists_of_startedBy (i := h.link.operations.length)
    (by rw [startedBy, if_pos rfl, hf]) hk
  obtain ⟨op', hop', hsame, -⟩ := call_run (wf_link_step hw hk) hcall hrest
  obtain rfl := Option.some.inj (hop'.symm.trans hop)
  exact hsame

lemma resume_of_endedBy {request message : Obj} {id : String} {answer : Except Exc Obj}
    (he : EndedBy P request message id answer) :
    ∃ (h : HostRelayRuntime) (ids : NewIds) (operationIds : OperationIds) (call : ExecutorOperation),
      h.forwarded P ids operationIds request = some call ∧
        ∀ outcome, executorAnswer P message = some (call.target, id, outcome) →
          answer = call.resume outcome := by
  obtain ⟨fresh, reached, forwarded, named, called, waits, pending, ended, answered, phase⟩ := he
  rename_i s h h₁ h₂ es₀ es₁ es₂ ids operationIds call op op' n
  refine ⟨h, ids, operationIds, call, forwarded, fun outcome hx => ?_⟩
  have hw : h.link.Wf := wf_link_run (by rw [fresh]; exact ExecutorLink.wf_empty) reached
  -- the operation is forwarded, and waits
  obtain ⟨hw₁, hsame₁⟩ := sameCall_of_called hw forwarded called waits
  -- the message of the executor completes it
  obtain ⟨k₁, hk₁, hrest⟩ := Run.run_cons_eq_some.mp ended
  obtain rfl := Option.some.inj hk₁
  have hsettled := ExecutorLink.getElem?_settle hw₁ call.target id outcome waits
  rw [if_pos ⟨hsame₁.target.symm, (hsame₁.id.trans named).symm⟩,
    ExecutorOperation.settle_of_pending pending] at hsettled
  have hlink : (h₁.handleExecutorStdioMessage P n message).2.link
      = h₁.link.settle call.target id outcome := by
    rw [link_handleExecutorStdioMessage, hx]
    rfl
  rw [← hlink] at hsettled
  obtain ⟨k₂, hrun₂, hlast⟩ := Run.run_append_eq_some.mp hrest
  have hwk₁ := wf_link_step (P := P) hw₁ hk₁
  obtain ⟨op₂, hop₂, hsame₂, hfuture⟩ := call_run hwk₁ hsettled hrun₂
  -- and it goes on with what it was completed with
  obtain ⟨k₃, hk₃, hnil⟩ := Run.run_cons_eq_some.mp hlast
  obtain rfl := Option.some.inj hnil
  rcases link_step_cases hk₃ with ⟨hno, -⟩ | ⟨ε, hε, hl⟩
  · cases hno
  · obtain rfl := Option.some.inj hε
    have hafter := ExecutorLink.getElem?_step (wf_link_run hwk₁ hrun₂) hl hop₂
    have hlast : op₂.after k₂.link h.link.operations.length (.resume h.link.operations.length)
        = op₂.resumed := if_pos rfl
    rw [hlast, answered, ExecutorOperation.resumed, hfuture _ rfl] at hafter
    rw [Option.some.inj hafter] at phase
    have hanswer : answer = op₂.resume outcome := (Phase.ended.inj phase).symm
    rw [hanswer, hsame₂.resume, hsame₁.resume]

lemma answer_of_endedBy {rids : ClientRelayRuntime.RequestIds} {name : String} {arguments : Json}
    {message : Obj} {executionId : String} {answer : Except Exc Obj} {t : Terminal}
    (he : EndedBy P (c.upstreamRequest rids (.executeTool (.str name) arguments)) message
      executionId answer) (ht : IsTerminal P message executionId t) :
    ∃ (r : RLPRecords) (envelope : RLPEnvelope) (ids : NewIds),
      answer = r.operationResponse P envelope ids "execution_failed" id t.outcome := by
  obtain ⟨h, ids, operationIds, call, hforwarded, hanswer⟩ := resume_of_endedBy he
  obtain ⟨htarget, r, envelope, hresume⟩ := forwarded_executeTool hforwarded
  refine ⟨r, envelope, ids, ?_⟩
  rw [hanswer t.outcome (by rw [htarget]; exact executorAnswer_of_isTerminal ht), hresume]

/-! ### The client -/

lemma get_setDefault {o : Obj} {k k' : String} {v : Json} (hne : k' ≠ k) :
    Obj.get (setDefault o k v) k' = Obj.get o k' := by
  unfold setDefault Obj.get
  split
  · rfl
  · have hb : (k' == k) = false := beq_false_of_ne hne
    rw [List.lookup_append, List.lookup_cons, hb]
    cases List.lookup k' o <;> rfl

lemma errorOutcome_cases (p : Tep.ExecutionErrorPayload) :
    (∃ result, Obj.get p.details "result" = some (.obj result) ∧
        HostRelayRuntime.errorOutcome p = .ok (.obj result)) ∨
      ((∀ result, Obj.get p.details "result" ≠ some (.obj result)) ∧
        HostRelayRuntime.errorOutcome p
          = .error (.protocol p.message p.code (.obj p.details))) := by
  unfold HostRelayRuntime.errorOutcome
  split
  · rename_i result hd
    exact Or.inl ⟨result, hd, rfl⟩
  · rename_i hno
    exact Or.inr ⟨hno, rfl⟩

lemma upstreamAnswer_of_result (r : RLPRecords) (envelope : RLPEnvelope) (ids : NewIds)
    (name arguments : Json) (result : Obj) :
    ∃ reply, r.operationResponse P envelope ids "execution_failed" id (.ok (.obj result))
        = .ok reply ∧
      ClientRelayRuntime.upstreamAnswer P (.executeTool name arguments) reply
        = .ok (.obj result) :=
  ⟨_, operationResponse_obj r envelope ids "execution_failed" id rfl, rfl⟩

lemma upstreamAnswer_of_error (r : RLPRecords) (envelope : RLPEnvelope) (ids : NewIds)
    (name arguments : Json) (message code : String) {details : Obj}
    (hno : ∀ result, Obj.get details "result" ≠ some (.obj result)) :
    ∃ reply, r.operationResponse P envelope ids "execution_failed" id
        (.error (.protocol message code (.obj details))) = .ok reply ∧
      ∃ exc, ClientRelayRuntime.upstreamAnswer P (.executeTool name arguments) reply
          = .error exc ∧ exc.className = "ProtocolError" ∧ exc.text P = message := by
  have hdata : (Json.obj details).orElse (.obj []) = .obj details := by
    cases details <;> rfl
  set details' := setDefault (setDefault details "exception_type" (.str "ProtocolError")) "detail"
    (.str message) with hdetails'
  have hget : Obj.get details' "result" = Obj.get details "result" := by
    rw [hdetails', get_setDefault (by decide), get_setDefault (by decide)]
  refine ⟨r.errorResponse envelope ids code message details', ?_, ?_⟩
  · show r.exceptionResponse P envelope ids (.protocol message code (.obj details))
      "execution_failed" = _
    rw [Exc.protocol, hdata]
    rfl
  · have hraises : ClientRelayRuntime.upstreamAnswer P (.executeTool name arguments)
        (r.errorResponse envelope ids code message details')
          = ClientRelayRuntime.upstreamError P (.obj (Tep.errorStatus code message details'))
              "Upstream tool execution failed" (.obj details') := by
      -- no result in the details: the match falls through to the error
      rw [← hget] at hno
      have hp : item (.obj (r.errorResponse envelope ids code message details')) "payload"
          = .ok (.obj (Tep.errorStatus code message details')) := rfl
      have hs : item (.obj (Tep.errorStatus code message details')) "status"
          = .ok (.str "error") := rfl
      have hd : getAttr (.obj (Tep.errorStatus code message details')) "details" (.obj [])
          = .ok (.obj details') := rfl
      simp only [ClientRelayRuntime.upstreamAnswer, hp, hs, hd, bind, Except.bind]
      rfl
    rw [hraises]
    exact ⟨_, rfl, rfl, rfl⟩

/-- The response to a request whose callback raises. -/
def callbackFailure (P : Platform) (request : JsonRpcRequest) (name : Json) (exc : Exc) : Obj :=
  Mcp.error request.id (-32000) (request.method ++ " failed for " ++ pyStr P name)
    [("exception_type", .str exc.className), ("detail", .str (exc.text P))]

lemma callback_eq_await {request : JsonRpcRequest} {present : Bool} {key : String}
    {call : Json → Json → Callback} {wrap : Json → Json} {q : Callback}
    {resume : Except Exc Json → Except Exc (Option Obj)}
    (h : Mcp.callback P request present key call wrap = .await q resume) :
    ∃ name, (∃ arguments, q = call name arguments) ∧
      (∀ v, resume (.ok v) = .ok (some (Mcp.result request.id (wrap v)))) ∧
      ∀ exc, resume (.error exc) = .ok (some (callbackFailure P request name exc)) := by
  unfold Mcp.callback at h
  split at h
  · cases h
  · dsimp only at h
    split at h
    · injection h with hq hr
      rw [← hq, ← hr]
      exact ⟨_, ⟨_, rfl⟩, fun _ => rfl, fun _ => rfl⟩
    · cases h

lemma resume_of_asks {r : MCPRecords} {registry : RegistryStore} {message : Obj}
    {name arguments : Json} {resume : Except Exc Json → Except Exc (Option Obj)}
    (hasks : (r.handleMessage P registry message).1 = .await (.executeTool name arguments) resume) :
    ∃ request, JsonRpcRequest.validate P (.obj message) = .ok request ∧
      (∀ v, resume (.ok v) = .ok (some (Mcp.result request.id v))) ∧
      ∀ exc, resume (.error exc) = .ok (some (callbackFailure P request name exc)) := by
  cases hv : JsonRpcRequest.validate P (.obj message) with
  | errors es =>
    simp only [MCPRecords.handleMessage, hv, modelValidate] at hasks
    cases hasks
  | ok request =>
    simp only [MCPRecords.handleMessage, hv, modelValidate] at hasks
    refine ⟨request, rfl, ?_⟩
    unfold MCPRecords.dispatch at hasks
    split at hasks
    case h_4 =>
      obtain ⟨name', ⟨arguments', hq⟩, hok, herror⟩ := callback_eq_await hasks
      obtain ⟨rfl, -⟩ := Callback.executeTool.inj hq
      exact ⟨hok, herror⟩
    case h_6 =>
      obtain ⟨_, ⟨_, hq⟩, -⟩ := callback_eq_await hasks
      cases hq
    case h_8 =>
      obtain ⟨_, ⟨_, hq⟩, -⟩ := callback_eq_await hasks
      cases hq
    all_goals cases hasks

/-! ### From the executor to the client's client -/

lemma showsFailure_result (id : Json) (result : Obj) :
    ShowsFailure (Mcp.result id (.obj result)) ↔ Obj.get result "isError" = some (.bool true) := by
  constructor
  · rintro (hno | ⟨result', hget, hflag⟩)
    · cases hno
    · obtain rfl : result = result' := Json.obj.inj (Option.some.inj hget)
      exact hflag
  · exact fun hflag => Or.inr ⟨result, rfl, hflag⟩

lemma reports_error {t : Terminal} {exc : Exc} (ht : t.outcome = .error exc) (id : Json) (code : ℤ)
    (text : String) (data : Obj) : Reports (Mcp.error id code text data) t := by
  cases t with
  | result p => cases ht
  | error p => exact Or.inl rfl

lemma reports_result_iff {t : Terminal} {result : Obj} (ht : t.outcome = .ok (.obj result))
    (id : Json) : Reports (Mcp.result id (.obj result)) t ↔ FlagsFailure t := by
  cases t with
  | result p =>
    obtain rfl : p.result = result := Json.obj.inj (Except.ok.inj ht)
    cases he : p.isError with
    | true =>
      simp only [Reports, FlagsFailure, he, if_true, forall_const]
      exact showsFailure_result id p.result
    | false =>
      simp only [Reports, FlagsFailure, he]
      exact iff_of_true rfl nofun
  | error p =>
    rcases errorOutcome_cases p with ⟨result', hd, ho⟩ | ⟨-, ho⟩
    · obtain rfl : result' = result := Json.obj.inj (Except.ok.inj (ho.symm.trans ht))
      refine (showsFailure_result id result').trans ⟨fun hflag r hr => ?_, fun h => h _ hd⟩
      obtain rfl : result' = r := Json.obj.inj (Option.some.inj (hd.symm.trans hr))
      exact hflag
    · exact nomatch ho.symm.trans ht

lemma outcome_cases (t : Terminal) :
    (∃ result, t.outcome = .ok (.obj result)) ∨
      ∃ message code details, t.outcome = .error (.protocol message code (.obj details)) ∧
        (∀ result, Obj.get details "result" ≠ some (.obj result)) ∧ FlagsFailure t := by
  cases t with
  | result p => exact Or.inl ⟨p.result, rfl⟩
  | error p =>
    rcases errorOutcome_cases p with ⟨result, -, ho⟩ | ⟨hno, ho⟩
    · exact Or.inl ⟨result, ho⟩
    · exact Or.inr ⟨_, _, _, ho, hno, fun result hr => absurd hr (hno result)⟩

/-- **When a failed execution is reported as one.** In every run of a host, a call that a
client sends it and the executor ends with a terminal message is answered, and so is the
request of the client's client, under its id. The response says what the message says if and
only if a result that comes with an error says itself that it is one. -/
theorem outcome_reported_iff (P : Platform) {c : ClientRelayRuntime} {message terminal : Obj}
    {name arguments : Json} {resume : Except Exc Json → Except Exc (Option Obj)}
    {rids : ClientRelayRuntime.RequestIds} {executionId : String} {t : Terminal}
    {answer : Except Exc Obj} (hf : Forwards P c message (.executeTool name arguments) resume)
    (he : EndedBy P (c.upstreamRequest rids (.executeTool name arguments)) terminal executionId
      answer) (ht : IsTerminal P terminal executionId t) :
    ∃ reply response, answer = .ok reply ∧
      (∀ c' : ClientRelayRuntime, (c'.closeMcp (c.openMcp P rids message).1 (.returns reply)).1
        = .ok (some response)) ∧
      (∀ request, JsonRpcRequest.validate P (.obj message) = .ok request →
        IsResponse request.id response) ∧
      (Reports response t ↔ FlagsFailure t) := by
  obtain ⟨name', hname, -⟩ := hf.named
  obtain rfl : name = .str name' := hname
  obtain ⟨r, envelope, ids, rfl⟩ := answer_of_endedBy he ht
  obtain ⟨request, hv, hok, herror⟩ := resume_of_asks hf.asks
  -- what the host answers, and what the client makes of it
  obtain ⟨reply, response, hreply, hresponse, hid, hreports⟩ : ∃ reply response,
      r.operationResponse P envelope ids "execution_failed" id t.outcome = .ok reply ∧
        resume (ClientRelayRuntime.upstreamAnswer P (.executeTool (.str name') arguments) reply)
          = .ok (some response) ∧
        IsResponse request.id response ∧ (Reports response t ↔ FlagsFailure t) := by
    rcases outcome_cases t with ⟨result, ho⟩ | ⟨text, code, details, ho, hno, hflags⟩
    · obtain ⟨reply, hreply, hback⟩ := upstreamAnswer_of_result (P := P) r envelope ids
        (.str name') arguments result
      rw [ho]
      exact ⟨reply, _, hreply, by rw [hback, hok], isResponse_result _ _, reports_result_iff ho _⟩
    · obtain ⟨reply, hreply, exc, hback, -⟩ := upstreamAnswer_of_error (P := P) r envelope ids
        (.str name') arguments text code hno
      rw [ho]
      exact ⟨reply, callbackFailure P request (.str name') exc, hreply, by rw [hback, herror],
        isResponse_error _ _ _ _,
        iff_of_true (reports_error ho _ _ _ _) hflags⟩
  refine ⟨reply, response, hreply, fun c' => ?_, fun request' hv' => ?_, hreports⟩
  · rw [hf.openMcp]
    exact hresponse
  · obtain rfl : request = request' := Validation.ok.inj (hv.symm.trans hv')
    exact hid

/-! A tool is called, and its execution ends with an error flag and a result without one. -/

def callMessage : Obj :=
  [("id", .int 1), ("method", .str "tools/call"), ("params", .obj [("name", .str "a")])]

def failedResult : Obj :=
  [("protocol", .str "tep"), ("version", .str "1.0"), ("message_type", .str "execution_result"),
    ("message_id", .str "x"), ("execution_id", .str "e"),
    ("payload", .obj [("tool_name", .str "a"), ("result", .obj [("content", .arr [])]),
      ("is_error", .bool true)])]

def failedTerminal : Terminal := .result ⟨"a", [("content", .arr [])], true, []⟩

def callReply : Obj :=
  [("protocol", .str "rlp"), ("version", .str "1.0"),
    ("message_type", .str "execute_tool_response"), ("message_id", .str "r"),
    ("relay_session_id", .str "session"), ("source_relay_id", .str "relay"),
    ("target_relay_id", .str "client"), ("request_id", .str "m"), ("execution_id", .str "e"),
    ("payload", .obj (Tep.statusDump "ok" none none [("content", .arr [])]))]

lemma callMessage_forwards :
    ∃ resume, Forwards .strict mirroringClient callMessage
      (.executeTool (.str "a") (.obj [])) resume :=
  ⟨_, rfl, ⟨by decide, by decide⟩, rfl, rfl, ⟨"a", rfl, by decide⟩, rfl⟩

lemma failedResult_isTerminal : IsTerminal .strict failedResult "e" failedTerminal :=
  ⟨_, rfl, rfl⟩

lemma failedCall_ended :
    EndedBy .strict (mirroringClient.upstreamRequest ⟨"m", "e"⟩ (.executeTool (.str "a") (.obj [])))
      failedResult "e" (.ok callReply) :=
  .mk (s := startedHost) (n := "n") rfl
    (rfl : Run.run (HostRelayRuntime.step .strict) startedHost [.attach 0] = some attachedHost)
    (rfl : attachedHost.forwarded .strict ⟨"r", "g"⟩ ⟨"m", "e"⟩ _ = some _) rfl
    (rfl : Run.run (HostRelayRuntime.step .strict) attachedHost
      [.rlp ⟨"r", "g"⟩ ⟨"m", "e"⟩ _, .acquire 0, .sent 0 (.ok ())] = some _) rfl rfl
    (rfl : Run.run (HostRelayRuntime.step .strict) _ (.executor "n" failedResult :: ([] ++
      [.resume attachedHost.link.operations.length])) = some _) rfl rfl

/-- The client's client is shown the result, and no error. -/
theorem failedCall_shown_as_success :
    (∃ resume, Forwards .strict mirroringClient callMessage
        (.executeTool (.str "a") (.obj [])) resume) ∧
      EndedBy .strict
        (mirroringClient.upstreamRequest ⟨"m", "e"⟩ (.executeTool (.str "a") (.obj [])))
        failedResult "e" (.ok callReply) ∧
      IsTerminal .strict failedResult "e" failedTerminal ∧
      ∃ response, (mirroringClient.closeMcp (mirroringClient.openMcp .strict ⟨"m", "e"⟩
          callMessage).1 (.returns callReply)).1 = .ok (some response) ∧
        ¬ Reports response failedTerminal := by
  refine ⟨callMessage_forwards, failedCall_ended, failedResult_isTerminal, _, rfl, ?_⟩
  exact fun hshown => nomatch (showsFailure_result (.int 1) [("content", .arr [])]).mp hshown

theorem failedCall_outcome_reported_iff :
    ∃ reply response, (Except.ok callReply : Except Exc Obj) = .ok reply ∧
      (∀ c' : ClientRelayRuntime, (c'.closeMcp (mirroringClient.openMcp .strict ⟨"m", "e"⟩
          callMessage).1 (.returns reply)).1 = .ok (some response)) ∧
      (∀ request, JsonRpcRequest.validate .strict (.obj callMessage) = .ok request →
        IsResponse request.id response) ∧
      (Reports response failedTerminal ↔ FlagsFailure failedTerminal) :=
  outcome_reported_iff .strict callMessage_forwards.choose_spec failedCall_ended
    failedResult_isTerminal

end NaiaRelay.Runtime
