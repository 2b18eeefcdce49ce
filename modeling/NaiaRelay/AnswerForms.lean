import NaiaRelay.ExecutorReport
import NaiaRelay.Outcome

set_option autoImplicit false

/-!
The two forms an executor can answer in: the report made for the operation, and the generic
response its own handler would build. They are resolved by different branches, and come to the
same for errors of reads and prompts only.
-/

namespace NaiaRelay.Runtime

open NaiaRelay.Pydantic NaiaRelay.Registry NaiaRelay.Rlp

variable (P : Platform)

/-- The operation has been forwarded and sent, and waits for its answer in this state. -/
inductive SentAndPending (operation : Operation) (s : HostRelayRuntime) (i : ℕ) : Prop
  | mk {s₀ h : HostRelayRuntime} {es₀ es₁ : List HostEvent} {ids : NewIds}
    {operationIds : OperationIds} {request : Obj} {call op : ExecutorOperation}
    {envelope : RLPEnvelope} (fresh : s₀.link = {})
    (reached : Run.run (HostRelayRuntime.step P) s₀ es₀ = some h)
    (valid : Rlp.parse P request = some (envelope, operationPayload operation))
    (forwarded : h.forwarded P ids operationIds request = some call)
    (called : Run.run (HostRelayRuntime.step P) h (.rlp ids operationIds request :: es₁) = some s)
    (numbered : i = h.link.operations.length) (waits : s.link.operations[i]? = some op)
    (sent : op.phase = .waiting) (pending : op.future = .pending)

/-- What an executor can say of an operation: the result, contents or messages, or an error. -/
inductive Said
  | returned (value : Json)
  | failed (code text : String)

/-- The report says this of an operation. -/
def Report.Says : Report → Operation → Said → Prop
  | .executionResult p, .executeTool _, .returned v => v = .obj p.result
  | .executionError p, .executeTool _, .failed code text =>
    p.code = code ∧ p.message = text ∧ ∀ o, Obj.get p.details "result" ≠ some (.obj o)
  | .resourceResult p, .readResource _, .returned v => v = .arr p.contents
  | .promptResult p, .getPrompt _, .returned v => v = .arr p.messages
  | _, _, _ => False

/-- The message is the report about the operation. -/
def IsReport (s : HostRelayRuntime) (i : ℕ) (operation : Operation) (said : Said)
    (message : Obj) : Prop :=
  ∃ envelope, ∃ r : Report, ∃ op : ExecutorOperation,
    Tep.parse P message = some (envelope, r.payload) ∧ r.Says operation said ∧
      s.link.operations[i]? = some op ∧ HostRelayRuntime.messageText P message r.idKey = op.id

/-- The message is what a `TEPHandler` would reply to the request that was sent. -/
def IsGenericReply (s : HostRelayRuntime) (i : ℕ) (operation : Operation) (said : Said)
    (message : Obj) : Prop :=
  ∃ newMessageId envelope, ∃ op : ExecutorOperation, s.link.operations[i]? = some op ∧
    Tep.validateMessage op.request = .ok envelope ∧
      match said with
      | .returned v => Tep.okResponse envelope newMessageId (operationDetails operation v) = .ok message
      | .failed code text => message = Tep.errorResponse envelope newMessageId code text

/-- A value of the type the operation returns: an object for a tool, a list for the others. -/
def Said.Fits : Said → Operation → Prop
  | returned v, .executeTool _ => ∃ o, v = .obj o
  | returned v, _ => ∃ l, v = .arr l
  | failed _ _, _ => True

/-- The caller is answered with what was said. -/
def CallerGets (operation : Operation) (said : Said) (answer : Obj) : Prop :=
  ∃ payload, Obj.get answer "payload" = some (.obj payload) ∧
    match said with
    | .returned v => Obj.get payload "status" = some (.str "ok") ∧
        Obj.get payload "details" = some (operationDetails operation v)
    | .failed code text => Obj.get payload "status" = some (.str "error") ∧
        Obj.get payload "code" = some (.str code) ∧ Obj.get payload "message" = some (.str text)

/-- The message completes the operation, which goes on and answers its caller with what was
said. -/
def Delivers (s : HostRelayRuntime) (i : ℕ) (operation : Operation) (said : Said)
    (message : Obj) : Prop :=
  ∃ n s' answer, ∃ op : ExecutorOperation,
    Run.run (HostRelayRuntime.step P) s [.executor n message, .resume i] = some s' ∧
      s'.link.operations[i]? = some op ∧ op.phase = .ended (.ok answer) ∧
      CallerGets operation said answer

variable {P} {s : HostRelayRuntime} {i : ℕ} {operation : Operation} {op : ExecutorOperation}
  {message : Obj} {said : Said}

/-! ### Going on with an answer -/

lemma operations_executor (hw : s.link.Wf) (hop : s.link.operations[i]? = some op) (n : String)
    {target : Target} {id : String} {outcome : Except Exc Json}
    (hx : executorAnswer P message = some (target, id, outcome)) :
    (s.handleExecutorStdioMessage P n message).2.link.operations[i]? =
      some (if target = op.target ∧ id = op.id then op.settle outcome else op) := by
  rw [link_handleExecutorStdioMessage, hx]
  exact ExecutorLink.getElem?_settle hw target id outcome hop

lemma run_answer (hw : s.link.Wf) (hop : s.link.operations[i]? = some op)
    (hp : op.phase = .waiting) (hf : op.future = .pending) {outcome : Except Exc Json}
    (hx : executorAnswer P message = some (op.target, op.id, outcome)) (n : String) :
    ∃ s', Run.run (HostRelayRuntime.step P) s [.executor n message, .resume i] = some s' ∧
      s'.link.operations[i]? = some { op with
        future := .done outcome
        phase := .ended (op.resume outcome) } := by
  set h₁ := (s.handleExecutorStdioMessage P n message).2 with hh₁
  have hop₁ : h₁.link.operations[i]? = some { op with future := .done outcome } := by
    rw [operations_executor hw hop n hx, if_pos ⟨rfl, rfl⟩, ExecutorOperation.settle_of_pending hf]
  have hl : h₁.link.step (.resume i) = some ((h₁.link.unregister { op with
      future := .done outcome }).update i (·.resumed)) := by
    simp only [ExecutorLink.step, hop₁, hp]
  refine ⟨h₁.afterAwait i _, Run.run_cons_eq_some.mpr ⟨h₁, rfl, Run.run_cons_eq_some.mpr
    ⟨_, congrArg (Option.map (h₁.afterAwait i)) hl, rfl⟩⟩, ?_⟩
  rw [link_afterAwait, ExecutorLink.getElem?_update, if_pos rfl,
    ExecutorLink.operations_unregister, hop₁]
  rfl

lemma run_other (hw : s.link.Wf) (hop : s.link.operations[i]? = some op)
    (hf : op.future = .pending) {target : Target} {id : String} {outcome : Except Exc Json}
    (hx : executorAnswer P message = some (target, id, outcome)) (ht : target ≠ op.target)
    (n : String) : Run.run (HostRelayRuntime.step P) s [.executor n message, .resume i] = none := by
  have hop₁ := operations_executor hw hop n hx
  rw [if_neg fun h => ht h.1] at hop₁
  have hl : (s.handleExecutorStdioMessage P n message).2.link.step (.resume i) = none := by
    simp only [ExecutorLink.step, hop₁, hf]
    cases op.phase <;> rfl
  show (HostRelayRuntime.step P (s.handleExecutorStdioMessage P n message).2 (.resume i)).bind _ = none
  rw [HostRelayRuntime.step, hl]
  rfl

lemma delivers_iff (hw : s.link.Wf) (hop : s.link.operations[i]? = some op)
    (hp : op.phase = .waiting) (hf : op.future = .pending) {outcome : Except Exc Json}
    (hx : executorAnswer P message = some (op.target, op.id, outcome)) :
    Delivers P s i operation said message ↔
      ∃ answer, op.resume outcome = .ok answer ∧ CallerGets operation said answer := by
  constructor
  · rintro ⟨n, s', answer, op', hrun, hop', hphase, hgets⟩
    obtain ⟨s'', hrun', hop''⟩ := run_answer hw hop hp hf hx n
    obtain rfl := Option.some.inj (hrun.symm.trans hrun')
    obtain rfl := Option.some.inj (hop'.symm.trans hop'')
    exact ⟨answer, Phase.ended.inj hphase, hgets⟩
  · rintro ⟨answer, hr, hgets⟩
    obtain ⟨s', hrun, hop'⟩ := run_answer hw hop hp hf hx ""
    exact ⟨"", s', answer, _, hrun, hop', by rw [hr], hgets⟩

lemma SentAndPending.call (hs : SentAndPending P operation s i) :
    s.link.Wf ∧ ∃ (h : HostRelayRuntime) (operationIds : OperationIds) (r : RLPRecords)
      (envelope : RLPEnvelope) (ids : NewIds) (op : ExecutorOperation),
      s.link.operations[i]? = some op ∧ op.phase = .waiting ∧ op.future = .pending ∧
        (h.forward operationIds operation (r.operationResponse P envelope ids
          (operationCode operation) (operationDetails operation))).SameCall op := by
  obtain ⟨fresh, reached, valid, forwarded, called, numbered, waits, sent, pending⟩ := hs
  rename_i s₀ h es₀ es₁ ids operationIds request call op envelope
  obtain ⟨envelope', operation', hp', rfl⟩ := operation_of_forwarded forwarded
  obtain rfl : operation' = operation :=
    operationPayload_injective (Prod.mk.inj (Option.some.inj (hp'.symm.trans valid))).2
  have hw : h.link.Wf := wf_link_run (by rw [fresh]; exact ExecutorLink.wf_empty) reached
  obtain rfl := numbered
  obtain ⟨hw', hsame⟩ := sameCall_of_called hw forwarded called waits
  exact ⟨hw', h, operationIds, h.rlp, envelope', ids, op, waits, sent, pending, hsame⟩

/-! ### What the caller gets -/

lemma operationDetails_of_fits {v : Json} (hfit : (Said.returned v).Fits operation) :
    ∃ o, operationDetails operation v = .obj o := by
  cases operation with
  | executeTool p => exact hfit
  | readResource p | getPrompt p => exact ⟨_, rfl⟩

lemma operationDetails_nested {v : Json} (ht : operationTarget operation = .request)
    (hfit : (Said.returned v).Fits operation) :
    operationDetails operation (operationDetails operation v) ≠ operationDetails operation v := by
  cases operation with
  | executeTool p => cases ht
  | readResource p | getPrompt p =>
    obtain ⟨l, rfl⟩ := hfit
    intro heq
    simp [operationDetails] at heq

lemma callerGets_returned (r : RLPRecords) (envelope : RLPEnvelope) (ids : NewIds) {v : Json}
    (hfit : (Said.returned v).Fits operation) :
    ∃ answer, r.operationResponse P envelope ids (operationCode operation)
        (operationDetails operation) (.ok v) = .ok answer ∧
      CallerGets operation (.returned v) answer := by
  obtain ⟨o, ho⟩ := operationDetails_of_fits hfit
  refine ⟨_, operationResponse_obj r envelope ids _ _ ho, _, rfl, rfl, ?_⟩
  rw [ho]
  rfl

lemma callerGets_failed (r : RLPRecords) (envelope : RLPEnvelope) (ids : NewIds)
    (code text : String) (o : Obj) :
    ∃ answer, r.operationResponse P envelope ids (operationCode operation)
        (operationDetails operation) (.error (.protocol text code (.obj o))) = .ok answer ∧
      CallerGets operation (.failed code text) answer := by
  have hdata : (Json.obj o).orElse (.obj []) = .obj o := by cases o <;> rfl
  refine ⟨r.errorResponse envelope ids code text (setDefault (setDefault o "exception_type"
    (.str "ProtocolError")) "detail" (.str text)), ?_, _, rfl, rfl, rfl, rfl⟩
  show r.exceptionResponse P envelope ids (.protocol text code (.obj o)) (operationCode operation) = _
  rw [Exc.protocol, hdata]
  rfl

lemma delivers_report (hs : SentAndPending P operation s i) (hfit : said.Fits operation)
    (hr : IsReport P s i operation said message) : Delivers P s i operation said message := by
  obtain ⟨hw, h, operationIds, r, envelope, ids, op, hop, hphase, hf, hsame⟩ := hs.call
  obtain ⟨envelope', report, op', hparse, hsays, hop', hid⟩ := hr
  obtain rfl := Option.some.inj (hop.symm.trans hop')
  have hresume : op.resume = _ := hsame.resume.trans (resume_forward h operationIds operation _)
  have htarget : report.target = op.target := by
    rw [hsame.target, target_forward]
    cases report <;> cases operation <;> cases said <;> first | rfl | exact hsays.elim
  have hx := executorAnswer_report hparse
  rw [hid, htarget] at hx
  rw [delivers_iff hw hop hphase hf hx, hresume]
  cases said with
  | returned v =>
    have hv : report.outcome = .ok v := by
      cases report <;> cases operation <;> first | exact hsays.elim | exact congrArg _ hsays.symm
    rw [hv]
    exact callerGets_returned r envelope ids hfit
  | failed code text =>
    cases report <;> cases operation <;> try exact hsays.elim
    obtain ⟨rfl, rfl, hno⟩ := hsays
    rename_i p _
    rcases errorOutcome_cases p with ⟨o, ho, -⟩ | ⟨-, ho⟩
    · exact absurd ho (hno o)
    · rw [Report.outcome, ho]
      exact callerGets_failed r envelope ids p.code p.message p.details

/-! ### The generic reply -/

lemma okResponse_obj (envelope : Tep.TEPEnvelope) (newMessageId : String) (o : Obj) :
    Tep.okResponse envelope newMessageId (.obj o)
      = .ok (Tep.reply envelope newMessageId (Tep.statusDump "ok" none none o)) := by
  cases o <;> rfl

lemma validateMessage_forward (h : HostRelayRuntime) (operationIds : OperationIds)
    (operation : Operation) (resume : Except Exc Json → Except Exc Obj) :
    ∃ envelope, Tep.validateMessage (h.forward operationIds operation resume).request
        = .ok envelope ∧ envelope.requestId = none ∧ envelope.messageId = operationIds.messageId := by
  cases operation <;> exact ⟨_, rfl, rfl, rfl⟩

lemma executorAnswer_reply {envelope : Tep.TEPEnvelope} (hnone : envelope.requestId = none)
    (newMessageId : String) {payload : Obj} {outcome : Except Exc Json}
    (ho : HostRelayRuntime.responseOutcome P (.obj payload) = .ok outcome) :
    executorAnswer P (Tep.reply envelope newMessageId payload)
      = some (.request, envelope.messageId, outcome) := by
  have hid : HostRelayRuntime.messageText P (Tep.reply envelope newMessageId payload) "request_id"
      = orText envelope.requestId envelope.messageId := messageText_of_get rfl
  have htype : HostRelayRuntime.messageText P (Tep.reply envelope newMessageId payload)
      "message_type" = envelope.messageType ++ "_response" := messageText_of_get rfl
  have hpayload : Obj.getD (Tep.reply envelope newMessageId payload) "payload" (.obj [])
      = .obj payload := rfl
  unfold executorAnswer
  rw [htype, hid, hnone, hpayload, ho]
  dsimp only
  rw [endsWith_append, if_pos rfl]
  rfl

/-- What a generic reply completes its request with. -/
def Said.genericOutcome (operation : Operation) : Said → Except Exc Json
  | returned v => .ok (operationDetails operation v)
  | failed code text => .error (.protocol text code (.obj []))

lemma IsGenericReply.cases (hs : SentAndPending P operation s i) (hfit : said.Fits operation)
    (hg : IsGenericReply s i operation said message) :
    ∃ (r : RLPRecords) (envelope : RLPEnvelope) (ids : NewIds) (op : ExecutorOperation)
      (id : String),
      s.link.operations[i]? = some op ∧ op.phase = .waiting ∧ op.future = .pending ∧
        op.target = operationTarget operation ∧
        op.resume = r.operationResponse P envelope ids (operationCode operation)
          (operationDetails operation) ∧
        executorAnswer P message = some (.request, id, said.genericOutcome operation) ∧
        (operationTarget operation = .request → id = op.id) := by
  obtain ⟨hw, h, operationIds, r, envelope, ids, op, hop, hphase, hf, hsame⟩ := hs.call
  obtain ⟨newMessageId, tep, op', hop', hv, hm⟩ := hg
  obtain rfl := Option.some.inj (hop.symm.trans hop')
  obtain ⟨tep', hv', hnone, hid⟩ := validateMessage_forward h operationIds operation
    (r.operationResponse P envelope ids (operationCode operation) (operationDetails operation))
  rw [hsame.request] at hv
  obtain rfl := Except.ok.inj (hv.symm.trans hv')
  refine ⟨r, envelope, ids, op, tep.messageId, hop, hphase, hf,
    hsame.target.trans (target_forward h operationIds operation _),
    hsame.resume.trans (resume_forward h operationIds operation _), ?_, ?_⟩
  · cases said with
    | returned v =>
      obtain ⟨o, ho⟩ := operationDetails_of_fits hfit
      have hm : Tep.okResponse tep newMessageId (operationDetails operation v) = .ok message := hm
      rw [ho, okResponse_obj] at hm
      rw [← Except.ok.inj hm, Said.genericOutcome, ho]
      exact executorAnswer_reply hnone newMessageId rfl
    | failed code text =>
      have hm : message = Tep.errorResponse tep newMessageId code text := hm
      rw [hm]
      exact executorAnswer_reply hnone newMessageId rfl
  · intro ht
    rw [hsame.id, hid]
    cases operation with
    | executeTool p => cases ht
    | readResource p | getPrompt p => rfl

lemma delivers_generic_iff (hs : SentAndPending P operation s i) (hfit : said.Fits operation)
    (hg : IsGenericReply s i operation said message) :
    Delivers P s i operation said message ↔
      ∃ code text, said = .failed code text ∧ operationTarget operation = .request := by
  have hw : s.link.Wf := hs.call.1
  obtain ⟨r, envelope, ids, op, id, hop, hphase, hf, htarget, hresume, hx, hid⟩ := hg.cases hs hfit
  by_cases ht : operationTarget operation = .request
  · rw [hid ht, ← ht, ← htarget] at hx
    rw [delivers_iff hw hop hphase hf hx, hresume]
    cases said with
    | returned v =>
      refine iff_of_false ?_ (by simp)
      rintro ⟨answer, hanswer, payload, hpayload, -, hdetails⟩
      obtain ⟨o, ho⟩ : ∃ o, operationDetails operation (operationDetails operation v) = .obj o := by
        cases operation with
        | executeTool p => cases ht
        | readResource p | getPrompt p => exact ⟨_, rfl⟩
      rw [Said.genericOutcome, operationResponse_obj r envelope ids _ _ ho] at hanswer
      obtain rfl := Except.ok.inj hanswer
      obtain rfl := Json.obj.inj (Option.some.inj hpayload)
      have hnested := Option.some.inj hdetails
      rw [← ho] at hnested
      exact operationDetails_nested ht hfit hnested
    | failed code text =>
      exact iff_of_true (callerGets_failed r envelope ids code text []) ⟨code, text, rfl, ht⟩
  · refine iff_of_false ?_ fun ⟨_, _, _, h⟩ => ht h
    rintro ⟨n, s', answer, op', hrun, -⟩
    rw [run_other hw hop hf hx (by rw [htarget]; exact Ne.symm ht) n] at hrun
    cases hrun

lemma exists_genericReply (hs : SentAndPending P operation s i) (hfit : said.Fits operation) :
    ∃ generic, IsGenericReply s i operation said generic := by
  obtain ⟨-, h, operationIds, r, envelope, ids, op, hop, -, -, hsame⟩ := hs.call
  obtain ⟨tep, hv, -⟩ := validateMessage_forward h operationIds operation
    (r.operationResponse P envelope ids (operationCode operation) (operationDetails operation))
  rw [← hsame.request] at hv
  cases said with
  | returned v =>
    obtain ⟨o, ho⟩ := operationDetails_of_fits hfit
    have hr : Tep.okResponse tep "" (operationDetails operation v)
        = .ok (Tep.reply tep "" (Tep.statusDump "ok" none none o)) := by rw [ho, okResponse_obj]
    exact ⟨_, "", tep, op, hop, hv, hr⟩
  | failed code text => exact ⟨_, "", tep, op, hop, hv, rfl⟩

/-! ### The two forms -/

variable (P s i operation said)

/-- Whichever form the executor answers in, the caller gets what was said. -/
def FormsAgree : Prop :=
  ∀ generic, IsGenericReply s i operation said generic →
    Delivers P s i operation said generic ∧
      ∀ direct, IsReport P s i operation said direct → Delivers P s i operation said direct

variable {s i operation said}

/-- **When the two forms agree.** Exactly for errors of reads and prompts: a generic reply to a
tool is looked for among the requests and completes nothing, and what it returns for a read or a
prompt is wrapped once more. -/
theorem formsAgree_iff (hs : SentAndPending P operation s i) (hfit : said.Fits operation) :
    FormsAgree P s i operation said ↔
      ∃ code text, said = .failed code text ∧ operationTarget operation = .request := by
  constructor
  · intro hall
    obtain ⟨generic, hg⟩ := exists_genericReply hs hfit
    exact (delivers_generic_iff hs hfit hg).mp (hall generic hg).1
  · exact fun herror generic hg => ⟨(delivers_generic_iff hs hfit hg).mpr herror,
      fun direct hd => delivers_report hs hfit hd⟩

/-! A resource is read, and the contents come back in a generic reply. -/

def genericRead : Obj :=
  [("protocol", .str "tep"), ("version", .str "1.0"),
    ("message_type", .str "read_resource_response"), ("message_id", .str "x"),
    ("session_id", .str "session:executor"), ("request_id", .str "m"), ("execution_id", .null),
    ("payload", .obj (Tep.statusDump "ok" none none
      [("uri", .str "u"), ("contents", .arr [.str "c"])]))]

lemma readSent_pending : ∃ s, Run.run (HostRelayRuntime.step .strict) startedHost readSent = some s ∧
    SentAndPending .strict readOfU s 0 ∧
    IsGenericReply s 0 readOfU (.returned (.arr [.str "c"])) genericRead := by
  have hattached : Run.run (HostRelayRuntime.step .strict) startedHost [.attach 0] = some _ := rfl
  have hcalled : Run.run (HostRelayRuntime.step .strict)
      { startedHost with link := startedHost.link.attach 0 }
      [readResource, .acquire 0, .sent 0 (.ok ())] = some _ := rfl
  refine ⟨_, rfl, ?_, "x", _, _, rfl, rfl, rfl⟩
  apply SentAndPending.mk rfl hattached ?valid ?forwarded hcalled rfl rfl rfl rfl
  case valid => rfl
  case forwarded => rfl

/-- The caller is told that the contents are the whole reply. -/
theorem genericRead_wrapped :
    ∃ s, Run.run (HostRelayRuntime.step .strict) startedHost readSent = some s ∧
      SentAndPending .strict readOfU s 0 ∧
      IsGenericReply s 0 readOfU (.returned (.arr [.str "c"])) genericRead ∧
      (∃ s' answer payload, ∃ op : ExecutorOperation,
        Run.run (HostRelayRuntime.step .strict) s [.executor "n" genericRead, .resume 0] = some s' ∧
          s'.link.operations[0]? = some op ∧ op.phase = .ended (.ok answer) ∧
          Obj.get answer "payload" = some (.obj payload) ∧
          Obj.get payload "details" = some (.obj [("uri", .str "u"), ("contents",
            .obj [("uri", .str "u"), ("contents", .arr [.str "c"])])])) ∧
      ¬ FormsAgree .strict s 0 readOfU (.returned (.arr [.str "c"])) := by
  obtain ⟨s, hrun, hs, hg⟩ := readSent_pending
  have hfit : (Said.returned (.arr [.str "c"])).Fits readOfU := ⟨_, rfl⟩
  refine ⟨s, hrun, hs, hg, ?_, fun hall => ?_⟩
  · obtain rfl := Option.some.inj hrun
    exact ⟨_, _, _, _, rfl, rfl, rfl, rfl, rfl⟩
  · obtain ⟨_, _, hsaid, -⟩ := (delivers_generic_iff hs hfit hg).mp (hall _ hg).1
    cases hsaid

theorem formsAgree_iff_genericRead :
    ∃ s, Run.run (HostRelayRuntime.step .strict) startedHost readSent = some s ∧
      (FormsAgree .strict s 0 readOfU (.failed "gone" "u is gone") ↔
        ∃ code text, Said.failed "gone" "u is gone" = .failed code text ∧
          operationTarget readOfU = .request) := by
  obtain ⟨s, hrun, hs, -⟩ := readSent_pending
  exact ⟨s, hrun, formsAgree_iff .strict hs trivial⟩

end NaiaRelay.Runtime
