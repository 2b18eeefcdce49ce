import Mathlib.Data.Set.CoeSort
import Mathlib.Logic.Function.Basic
import NaiaRelay.AnswerForms

set_option autoImplicit false

/-!
How much of an executor's error reaches the client's client: its message, and nothing else.
-/

namespace NaiaRelay.Runtime

open NaiaRelay.Pydantic NaiaRelay.Registry NaiaRelay.Rlp NaiaRelay.Mcp

variable (P : Platform)

/-- The call that `request` asks a host for has been forwarded and sent, and waits for its
answer in this state. -/
inductive CallPending (request : Obj) (s : HostRelayRuntime) (i : ℕ) : Prop
  | mk {s₀ h : HostRelayRuntime} {es₀ es₁ : List HostEvent} {ids : NewIds}
    {operationIds : OperationIds} {call op : ExecutorOperation} (fresh : s₀.link = {})
    (reached : Run.run (HostRelayRuntime.step P) s₀ es₀ = some h)
    (forwarded : h.forwarded P ids operationIds request = some call)
    (called : Run.run (HostRelayRuntime.step P) h (.rlp ids operationIds request :: es₁) = some s)
    (numbered : i = h.link.operations.length) (waits : s.link.operations[i]? = some op)
    (sent : op.phase = .waiting) (pending : op.future = .pending)

/-- The executor ends the call with this error, the host answers it, and the client makes this
response of the answer. -/
inductive ErrorShown (c : ClientRelayRuntime) (rids : ClientRelayRuntime.RequestIds)
    (message : Obj) (s : HostRelayRuntime) (i : ℕ) (p : Tep.ExecutionErrorPayload)
    (response : Obj) : Prop
  | mk {n : String} {terminal answer : Obj} {es : List HostEvent} {s' : HostRelayRuntime}
    {op op' : ExecutorOperation} {c' : ClientRelayRuntime}
    (waits : s.link.operations[i]? = some op) (reported : IsTerminal P terminal op.id (.error p))
    (ended : Run.run (HostRelayRuntime.step P) s (.executor n terminal :: (es ++ [.resume i]))
      = some s')
    (answered : s'.link.operations[i]? = some op') (phase : op'.phase = .ended (.ok answer))
    (shown : (c'.closeMcp (c.openMcp P rids message).1 (.returns answer)).1 = .ok (some response))

/-- The errors have the same code, message and details. -/
def SameError (p p' : Tep.ExecutionErrorPayload) : Prop :=
  p.code = p'.code ∧ p.message = p'.message ∧ p.details = p'.details

/-- Among these errors, different ones are shown differently, and the code of each can be read
off the error that is shown. -/
structure StayApart (c : ClientRelayRuntime) (rids : ClientRelayRuntime.RequestIds)
    (message : Obj) (s : HostRelayRuntime) (i : ℕ) (errors : Set Tep.ExecutionErrorPayload) :
    Prop where
  distinct : ∀ p ∈ errors, ∀ p' ∈ errors, ¬ SameError p p' → ∀ response response',
    ErrorShown P c rids message s i p response → ErrorShown P c rids message s i p' response' →
      response ≠ response'
  code : ∃ codeOf : Json → String, ∀ p ∈ errors, ∀ response,
    ErrorShown P c rids message s i p response →
      ∃ error, Obj.get response "error" = some error ∧ codeOf error = p.code

/-- No result comes with the error. -/
def Plain (p : Tep.ExecutionErrorPayload) : Prop :=
  ∀ result, Obj.get p.details "result" ≠ some (.obj result)

variable {P} {c : ClientRelayRuntime} {rids : ClientRelayRuntime.RequestIds} {message : Obj}
  {s : HostRelayRuntime} {i : ℕ} {p : Tep.ExecutionErrorPayload} {op : ExecutorOperation}

/-! ### The host -/

lemma exists_errorReport (P : Platform) (executionId : String) (p : Tep.ExecutionErrorPayload) :
    ∃ terminal, IsTerminal P terminal executionId (.error p) :=
  ⟨[("protocol", .str "tep"), ("version", .str "1.0"), ("message_type", .str "execution_error"),
    ("message_id", .str ""), ("execution_id", .str executionId), ("payload", .obj p.modelDump)],
    _, rfl, rfl⟩

lemma CallPending.endedBy {request terminal : Obj} {n : String} {es : List HostEvent}
    {s' : HostRelayRuntime} {op' : ExecutorOperation} {answer : Except Exc Obj}
    (hs : CallPending P request s i) (hop : s.link.operations[i]? = some op)
    (hrun : Run.run (HostRelayRuntime.step P) s (.executor n terminal :: (es ++ [.resume i]))
      = some s')
    (hop' : s'.link.operations[i]? = some op') (hphase : op'.phase = .ended answer) :
    EndedBy P request terminal op.id answer := by
  obtain ⟨fresh, reached, forwarded, called, rfl, waits, sent, pending⟩ := hs
  obtain rfl := Option.some.inj (waits.symm.trans hop)
  have hw := wf_link_run (by rw [fresh]; exact ExecutorLink.wf_empty) reached
  have hsame := (sameCall_of_called hw forwarded called hop).2
  exact .mk fresh reached forwarded hsame.id.symm called hop pending hrun hop' hphase

lemma CallPending.exists_report {name : String} {arguments : Json}
    (hs : CallPending P (c.upstreamRequest rids (.executeTool (.str name) arguments)) s i)
    (p : Tep.ExecutionErrorPayload) :
    ∃ (terminal : Obj) (s' : HostRelayRuntime) (answer : Except Exc Obj) (op op' : ExecutorOperation),
      s.link.operations[i]? = some op ∧ IsTerminal P terminal op.id (.error p) ∧
        Run.run (HostRelayRuntime.step P) s (.executor "" terminal :: ([] ++ [.resume i]))
          = some s' ∧
        s'.link.operations[i]? = some op' ∧ op'.phase = .ended answer := by
  obtain ⟨fresh, reached, forwarded, called, rfl, waits, sent, pending⟩ := hs
  rename_i op
  have hw := wf_link_run (by rw [fresh]; exact ExecutorLink.wf_empty) reached
  obtain ⟨hw', hsame⟩ := sameCall_of_called hw forwarded called waits
  obtain ⟨terminal, ht⟩ := exists_errorReport P op.id p
  have hx := executorAnswer_of_isTerminal ht
  rw [← (forwarded_executeTool forwarded).1, ← hsame.target] at hx
  obtain ⟨s', hrun, hop'⟩ := run_answer hw' waits sent pending hx ""
  exact ⟨terminal, s', _, op, _, waits, ht, hrun, hop', rfl⟩

/-! ### The client -/

/-- What is shown of an error with this message. -/
def shownError (P : Platform) (request : JsonRpcRequest) (name : Json) (text : String) : Json :=
  .obj [("code", .int (-32000)), ("message", .str (request.method ++ " failed for " ++ pyStr P name)),
    ("data", .obj [("exception_type", .str "ProtocolError"), ("detail", .str text)])]

lemma shownError_injective (request : JsonRpcRequest) (name : Json) :
    Function.Injective (shownError P request name) := by
  intro text text' h
  simpa [shownError] using h

lemma callbackFailure_eq {request : JsonRpcRequest} {name : Json} {exc : Exc} {text : String}
    (hclass : exc.className = "ProtocolError") (htext : exc.text P = text) :
    callbackFailure P request name exc
      = [("jsonrpc", .str "2.0"), ("id", request.id), ("error", shownError P request name text)] := by
  rw [callbackFailure, hclass, htext]
  rfl

lemma errorShown_iff {name arguments : Json} {resume : Except Exc Json → Except Exc (Option Obj)}
    (hf : Forwards P c message (.executeTool name arguments) resume)
    (hs : CallPending P (c.upstreamRequest rids (.executeTool name arguments)) s i) :
    ∃ request, ∀ p, Plain p → ∀ response, ErrorShown P c rids message s i p response ↔
      response = [("jsonrpc", .str "2.0"), ("id", request.id),
        ("error", shownError P request name p.message)] := by
  obtain ⟨name', hname, -⟩ := hf.named
  obtain rfl : name = .str name' := hname
  obtain ⟨request, -, -, herror⟩ := resume_of_asks hf.asks
  refine ⟨request, fun p hplain => ?_⟩
  -- what the host answers, and what the client makes of it
  have hanswer : ∀ {terminal : Obj} {id : String} {answer : Except Exc Obj},
      EndedBy P (c.upstreamRequest rids (.executeTool (.str name') arguments)) terminal id answer →
      IsTerminal P terminal id (.error p) → ∃ reply, answer = .ok reply ∧
        ∀ c' : ClientRelayRuntime, (c'.closeMcp (c.openMcp P rids message).1 (.returns reply)).1
          = .ok (some [("jsonrpc", .str "2.0"), ("id", request.id),
              ("error", shownError P request (.str name') p.message)]) := by
    intro terminal id answer he ht
    obtain ⟨r, envelope, ids, rfl⟩ := answer_of_endedBy he ht
    rcases errorOutcome_cases p with ⟨result, hd, -⟩ | ⟨-, ho⟩
    · exact absurd hd (hplain result)
    · obtain ⟨reply, hreply, exc, hback, hclass, htext⟩ := upstreamAnswer_of_error (P := P) r
        envelope ids (.str name') arguments p.message p.code hplain
      refine ⟨reply, (congrArg _ ho).trans hreply, fun c' => ?_⟩
      rw [hf.openMcp]
      show resume (ClientRelayRuntime.upstreamAnswer P (.executeTool (.str name') arguments) reply)
        = _
      rw [hback, herror, callbackFailure_eq hclass htext]
  intro response
  constructor
  · rintro ⟨waits, reported, ended, answered, phase, shown⟩
    obtain ⟨reply, hreply, hshown⟩ := hanswer (hs.endedBy waits ended answered phase) reported
    obtain rfl := Except.ok.inj hreply
    exact Option.some.inj (Except.ok.inj (shown.symm.trans (hshown _)))
  · rintro rfl
    obtain ⟨terminal, s', answer, op, op', waits, reported, ended, answered, phase⟩ :=
      hs.exists_report p
    obtain ⟨reply, rfl, hshown⟩ := hanswer (hs.endedBy waits ended answered phase) reported
    exact .mk waits reported ended answered phase (hshown c)

/-! ### Which errors stay apart -/

/-- **When an executor's errors stay apart.** Exactly when those with the same message have the
same code and details: the client's client is told nothing else. -/
theorem stayApart_iff (P : Platform) {c : ClientRelayRuntime} {message : Obj}
    {name arguments : Json} {resume : Except Exc Json → Except Exc (Option Obj)}
    {rids : ClientRelayRuntime.RequestIds} {s : HostRelayRuntime} {i : ℕ}
    {errors : Set Tep.ExecutionErrorPayload}
    (hf : Forwards P c message (.executeTool name arguments) resume)
    (hs : CallPending P (c.upstreamRequest rids (.executeTool name arguments)) s i)
    (hplain : ∀ p ∈ errors, Plain p) :
    StayApart P c rids message s i errors ↔
      ∀ p ∈ errors, ∀ p' ∈ errors, p.message = p'.message →
        p.code = p'.code ∧ p.details = p'.details := by
  obtain ⟨request, hshown⟩ := errorShown_iff hf hs
  constructor
  · intro hapart p hp p' hp' heq
    by_contra hne
    refine hapart.distinct p hp p' hp' (fun hsame => hne ⟨hsame.1, hsame.2.2⟩) _ _
      ((hshown p (hplain p hp) _).mpr rfl) ((hshown p' (hplain p' hp') _).mpr rfl) ?_
    rw [heq]
  · intro hall
    refine ⟨fun p hp p' hp' hne response response' hr hr' heq => ?_, ?_⟩
    · rw [hshown p (hplain p hp)] at hr
      rw [hshown p' (hplain p' hp')] at hr'
      rw [hr, hr'] at heq
      have htext : p.message = p'.message := shownError_injective request name (by simpa using heq)
      exact hne ⟨(hall p hp p' hp' htext).1, htext, (hall p hp p' hp' htext).2⟩
    · -- the code is a function of the message, and the message of what is shown
      have hfactors : Function.FactorsThrough (fun p : errors => p.1.code)
          (fun p : errors => shownError P request name p.1.message) := fun p p' heq =>
        (hall p p.2 p' p'.2 (shownError_injective request name heq)).1
      obtain ⟨codeOf, hcode⟩ := (Function.factorsThrough_iff _).mp hfactors
      refine ⟨codeOf, fun p hp response hr => ?_⟩
      rw [hshown p (hplain p hp)] at hr
      rw [hr]
      exact ⟨_, rfl, (congrFun hcode ⟨p, hp⟩).symm⟩

/-! The tool `a` is called, and the executor can report that it is gone or that it is refused,
both with the same text. -/

def goneError : Tep.ExecutionErrorPayload := ⟨"a", "gone", "failed", []⟩

def refusedError : Tep.ExecutionErrorPayload := ⟨"a", "refused", "failed", []⟩

def goneTextError : Tep.ExecutionErrorPayload := ⟨"a", "gone", "a is gone", []⟩

/-- The events that bring the call to the executor. -/
def callSent : List HostEvent :=
  [.attach 0, .rlp ⟨"r", "g"⟩ ⟨"m", "e"⟩ (mirroringClient.upstreamRequest ⟨"m", "e"⟩
    (.executeTool (.str "a") (.obj []))), .acquire 0, .sent 0 (.ok ())]

lemma callSent_pending :
    ∃ s, Run.run (HostRelayRuntime.step .strict) startedHost callSent = some s ∧
      CallPending .strict (mirroringClient.upstreamRequest ⟨"m", "e"⟩
        (.executeTool (.str "a") (.obj []))) s 0 := by
  have hattached : Run.run (HostRelayRuntime.step .strict) startedHost [.attach 0]
      = some attachedHost := rfl
  have hcalled : Run.run (HostRelayRuntime.step .strict) attachedHost
      [.rlp ⟨"r", "g"⟩ ⟨"m", "e"⟩ (mirroringClient.upstreamRequest ⟨"m", "e"⟩
        (.executeTool (.str "a") (.obj []))), .acquire 0, .sent 0 (.ok ())] = some _ := rfl
  refine ⟨_, rfl, ?_⟩
  apply CallPending.mk rfl hattached ?forwarded hcalled rfl rfl rfl rfl
  case forwarded => rfl

lemma plain_of_details_nil (h : p.details = []) : Plain p := by
  intro result hr
  rw [h] at hr
  cases hr

/-- The two are shown alike. -/
theorem sameText_shown_alike :
    (∃ resume, Forwards .strict mirroringClient callMessage
        (.executeTool (.str "a") (.obj [])) resume) ∧
      ∃ s, Run.run (HostRelayRuntime.step .strict) startedHost callSent = some s ∧
        CallPending .strict (mirroringClient.upstreamRequest ⟨"m", "e"⟩
          (.executeTool (.str "a") (.obj []))) s 0 ∧
        Plain goneError ∧ Plain refusedError ∧ ¬ SameError goneError refusedError ∧
        (∃ response, ErrorShown .strict mirroringClient ⟨"m", "e"⟩ callMessage s 0 goneError response ∧
          ErrorShown .strict mirroringClient ⟨"m", "e"⟩ callMessage s 0 refusedError response) ∧
        ¬ StayApart .strict mirroringClient ⟨"m", "e"⟩ callMessage s 0
          {goneError, refusedError} := by
  obtain ⟨resume, hf⟩ := callMessage_forwards
  obtain ⟨s, hrun, hs⟩ := callSent_pending
  have hgone : Plain goneError := plain_of_details_nil rfl
  have hrefused : Plain refusedError := plain_of_details_nil rfl
  have hne : ¬ SameError goneError refusedError := fun h => absurd h.1 (by decide)
  obtain ⟨request, hshown⟩ := errorShown_iff hf hs
  have h₁ := (hshown goneError hgone _).mpr rfl
  have h₂ := (hshown refusedError hrefused _).mpr rfl
  exact ⟨⟨resume, hf⟩, s, hrun, hs, hgone, hrefused, hne, ⟨_, h₁, h₂⟩, fun hapart =>
    hapart.distinct _ (Or.inl rfl) _ (Or.inr rfl) hne _ _ h₁ h₂ rfl⟩

/-- With a text of its own, each is known. -/
theorem goneText_stayApart :
    ∃ s, Run.run (HostRelayRuntime.step .strict) startedHost callSent = some s ∧
      StayApart .strict mirroringClient ⟨"m", "e"⟩ callMessage s 0
        {goneTextError, refusedError} := by
  obtain ⟨resume, hf⟩ := callMessage_forwards
  obtain ⟨s, hrun, hs⟩ := callSent_pending
  refine ⟨s, hrun, (stayApart_iff .strict hf hs ?_).mpr ?_⟩
  · rintro p (rfl | rfl) <;> exact plain_of_details_nil rfl
  · rintro p (rfl | rfl) p' (rfl | rfl) htext
    · exact ⟨rfl, rfl⟩
    · exact absurd htext (by decide)
    · exact absurd htext (by decide)
    · exact ⟨rfl, rfl⟩

end NaiaRelay.Runtime
