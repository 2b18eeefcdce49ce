import NaiaRelay.ExecutorLoop
import NaiaRelay.Interchange
import NaiaRelay.Operations

set_option autoImplicit false

/-!
Concurrent operations do not disturb each other: each is completed by the first event that is
about it, and by nothing else.
-/

namespace NaiaRelay.Runtime

open NaiaRelay.Pydantic NaiaRelay.Registry NaiaRelay.Rlp

/-! ### What is delivered -/

/-- The details of a reply. -/
def replyDetails (response : Obj) : Option Json :=
  match Obj.get response "payload" with
  | some (.obj payload) => Obj.get payload "details"
  | _ => none

/-- An execution's result is the details of its reply; contents and messages stand in them next
to the uri or the name that was asked for. -/
def ExecutorOperation.Verbatim (op : ExecutorOperation) : Prop :=
  match op.target with
  | .execution => ∀ result : Obj, ∃ response, op.resume (.ok (.obj result)) = .ok response ∧
      replyDetails response = some (.obj result)
  | .request => ∃ key text field, (key, field) ∈ [("uri", "contents"), ("name", "messages")] ∧
      ∀ value, ∃ response, op.resume (.ok value) = .ok response ∧
        replyDetails response = some (.obj [(key, .str text), (field, value)])

variable {P : Platform}

lemma operationResponse_ok (r : RLPRecords) (envelope : RLPEnvelope) (ids : NewIds)
    (defaultCode : String) (details : Json → Json) {value : Json} {o : Obj}
    (hd : details value = .obj o) :
    ∃ response, r.operationResponse P envelope ids defaultCode details (.ok value) = .ok response ∧
      replyDetails response = some (.obj o) :=
  ⟨_, operationResponse_obj r envelope ids defaultCode details hd, rfl⟩

lemma forward_verbatim (h : HostRelayRuntime) {ids : NewIds} {handler : RLPHandler} {message : Obj}
    {operation : Operation} {resume : Except Exc Json → Except Exc Obj}
    (hcall : (handler.handleMessage P ids message).1 = .await operation resume)
    (operationIds : OperationIds) : (h.forward operationIds operation resume).Verbatim := by
  obtain ⟨envelope, -, rfl⟩ := operation_of_await hcall
  cases operation with
  | executeTool p => exact fun result => operationResponse_ok _ _ _ _ _ rfl
  | readResource p =>
    exact ⟨"uri", p.uri, "contents", by simp, fun value => operationResponse_ok (P := P)
      handler.records envelope ids "resource_read_failed"
      (fun contents => .obj [("uri", .str p.uri), ("contents", contents)]) rfl⟩
  | getPrompt p =>
    exact ⟨"name", p.name, "messages", by simp, fun value => operationResponse_ok (P := P)
      handler.records envelope ids "prompt_get_failed"
      (fun messages => .obj [("name", .str p.name), ("messages", messages)]) rfl⟩

lemma ExecutorOperation.Verbatim.congr {op op' : ExecutorOperation} (hv : op.Verbatim)
    (ht : op'.target = op.target) (hr : op'.resume = op.resume) : op'.Verbatim := by
  unfold Verbatim at hv ⊢
  rwa [ht, hr]

/-! ### Messages for an operation -/

/-- The operation a message of the executor is for, by its type, whatever its payload. -/
def addressee (P : Platform) (message : Obj) : Option (Target × String) :=
  let messageType := HostRelayRuntime.messageText P message "message_type"
  if endsWith messageType "_response" then
    some (.request, HostRelayRuntime.messageText P message "request_id")
  else
    match messageType with
    | "execution_result" =>
      some (.execution, HostRelayRuntime.messageText P message "execution_id")
    | "execution_error" => some (.execution, HostRelayRuntime.messageText P message "execution_id")
    | "resource_result" => some (.request, HostRelayRuntime.messageText P message "request_id")
    | "prompt_result" => some (.request, HostRelayRuntime.messageText P message "request_id")
    | _ => none

lemma addressee_of_answer {message : Obj} {x : Target × String × Except Exc Json}
    (hx : executorAnswer P message = some x) : addressee P message = some (x.1, x.2.1) := by
  unfold executorAnswer at hx
  dsimp only at hx
  split at hx
  · rename_i hr
    have ha : addressee P message
        = some (.request, HostRelayRuntime.messageText P message "request_id") := if_pos hr
    split at hx
    · cases hx
    · rw [ha, ← Option.some.inj hx]
  · rename_i hr
    unfold recordedAnswer at hx
    dsimp only at hx
    split at hx
    case h_5 => cases hx
    all_goals
      rename_i hm
      split at hx
      · cases hx
      · rw [← Option.some.inj hx]
        refine (if_neg hr).trans ?_
        rw [hm]
        rfl

lemma mutations_nil_of_addressee {message : Obj} {x : Target × String}
    (hx : addressee P message = some x) : Tep.mutations P message = [] := by
  refine Tep.mutations_nil_of_type fun t ht hg => ?_
  have hnone : ∀ t ∈ Tep.registryMessageTypes, endsWith t "_response" = false := by decide
  unfold addressee at hx
  dsimp only at hx
  rw [messageText_of_get hg, hnone t ht, if_neg (by decide)] at hx
  simp only [Tep.registryMessageTypes, List.mem_cons, List.not_mem_nil, or_false] at ht
  rcases ht with rfl | rfl | rfl | rfl | rfl | rfl <;> cases hx

lemma pendingFuture_of_completed {l : ExecutorLink} {i : ℕ} {op : ExecutorOperation} (hw : l.Wf)
    (hop : l.operations[i]? = some op) (hf : op.future ≠ .pending) :
    l.pendingFuture op.target op.id = none := by
  rw [ExecutorLink.pendingFuture, Option.filter_eq_none_iff]
  intro j hj hpend
  obtain ⟨op', hop', ht, hid⟩ := hw.named hj
  obtain rfl := hw.distinct hop' hop ht hid
  rw [hop] at hpend
  cases op with
  | mk target id request resume future phase sentOn =>
    cases future with
    | pending => exact hf rfl
    | _ => cases hpend

/-- **A late message.** A message for an operation that is completed does not raise and leaves
every operation as it is. -/
lemma late_message {h : HostRelayRuntime} {i : ℕ} {op : ExecutorOperation} (hw : h.link.Wf)
    (hop : h.link.operations[i]? = some op) (hf : op.future ≠ .pending) (newMessageId : String)
    {message : Obj} (ha : addressee P message = some (op.target, op.id)) :
    (∃ reply, (h.handleExecutorStdioMessage P newMessageId message).1 = .ok reply) ∧
      (h.handleExecutorStdioMessage P newMessageId message).2.link = h.link := by
  constructor
  · have hs : Survivable P h message := by
      unfold Survivable
      split
      · have hr : removals P message = [] := by
          rw [removals, mutations_nil_of_addressee ha]
          rfl
        simp [hr]
      · rename_i hreply
        have hr : endsWith (HostRelayRuntime.messageText P message "message_type") "_response"
            = true := by simpa [expectsReply] using hreply
        simp only [addressee, hr, if_true, Option.some.injEq, Prod.mk.injEq] at ha
        rw [ha.1, ha.2]
        exact Or.inl (pendingFuture_of_completed hw hop hf)
    rcases handleExecutorStdioMessage_cases (P := P) h newMessageId message with
      ⟨-, reply, hx, -⟩ | ⟨hn, -⟩
    · exact ⟨reply, hx⟩
    · exact absurd hs hn
  · rw [link_handleExecutorStdioMessage]
    cases hx : executorAnswer P message with
    | none => rfl
    | some x =>
      obtain ⟨t, id, outcome⟩ := x
      have := (addressee_of_answer hx).symm.trans ha
      obtain ⟨rfl, rfl⟩ := Prod.mk.inj (Option.some.inj this)
      exact ExecutorLink.settle_of_completed hw hop hf outcome

/-! ### Runs -/

/-- What an event of a host completes an operation with, if it is not completed yet. -/
def completionBy (P : Platform) (i : ℕ) (h : HostRelayRuntime) (e : HostEvent) :
    Option Completion :=
  (e.onLink P h).bind (h.link.completion i)

/-- The operation with this number, if this is the event that starts it. -/
def startedBy (P : Platform) (i : ℕ) (h : HostRelayRuntime) : HostEvent → Option ExecutorOperation
  | .rlp ids operationIds message =>
    if h.link.operations.length = i then h.forwarded P ids operationIds message else none
  | _ => none

/-- Operations that do not disturb each other, in a run from `s` to `s'`. -/
structure NoCrossTalk (P : Platform) (s : HostRelayRuntime) (es : List HostEvent)
    (s' : HostRelayRuntime) : Prop where
  /-- Each operation is where the first event that completes it has put it. -/
  completed : ∀ (i : ℕ) (op : ExecutorOperation), s'.link.operations[i]? = some op →
    op.Fate ((Run.trace (HostRelayRuntime.step P) s es).findSome? fun p => completionBy P i p.1 p.2)
  /-- It is the call that its relay-link message was forwarded as. -/
  called : ∀ (i : ℕ) (op : ExecutorOperation), s'.link.operations[i]? = some op →
    ∃ call, (Run.trace (HostRelayRuntime.step P) s es).findSome?
        (fun p => startedBy P i p.1 p.2) = some call ∧ call.SameCall op
  /-- What it is completed with is delivered as it is. -/
  verbatim : ∀ op ∈ s'.link.operations, op.Verbatim
  /-- Once it has ended, no run changes it. -/
  final : ∀ (i : ℕ) (op : ExecutorOperation) (answer : Except Exc Obj),
    s'.link.operations[i]? = some op → op.phase = .ended answer → ∀ es' s'',
      Run.run (HostRelayRuntime.step P) s' es' = some s'' → s''.link.operations[i]? = some op
  /-- A message under any other id leaves it as it is. -/
  separate : ∀ (newMessageId : String) (message : Obj) (i : ℕ) (op : ExecutorOperation),
    s'.link.operations[i]? = some op →
    (∀ x, executorAnswer P message = some x → ¬ (x.1 = op.target ∧ x.2.1 = op.id)) →
      (s'.handleExecutorStdioMessage P newMessageId message).2.link.operations[i]? = some op
  /-- A message for it that comes when it is completed does nothing and does not raise. -/
  late : ∀ (newMessageId : String) (message : Obj) (op : ExecutorOperation),
    op ∈ s'.link.operations → op.future ≠ .pending →
    addressee P message = some (op.target, op.id) →
      (∃ reply, (s'.handleExecutorStdioMessage P newMessageId message).1 = .ok reply) ∧
        (s'.handleExecutorStdioMessage P newMessageId message).2.link = s'.link
  /-- Two adjacent messages that are not for the same operation can come in either order. -/
  exchange : ∀ es₁ es₂ n n' message message',
    es = es₁ ++ [.executor n message, .executor n' message'] ++ es₂ →
    Unrelated P message message' →
      ∃ k, Run.run (HostRelayRuntime.step P) s
          (es₁ ++ [.executor n' message', .executor n message] ++ es₂) = some k ∧
        k.link = s'.link

variable {h h' : HostRelayRuntime} {e : HostEvent} {i : ℕ}

lemma absent_of_step (hw : h.link.Wf) (hop' : h'.link.operations[i]? = none)
    (hstep : h.step P e = some h') : h.link.operations[i]? = none := by
  by_contra hne
  obtain ⟨op, hop⟩ := Option.ne_none_iff_exists'.mp hne
  rcases link_step_cases hstep with ⟨-, hl⟩ | ⟨ε, -, hl⟩
  · rw [← hl, hop'] at hop
    cases hop
  · exact nomatch hop'.symm.trans (ExecutorLink.getElem?_step hw hl hop)

lemma completionBy_of_absent (hop : h.link.operations[i]? = none) :
    completionBy P i h e = none := by
  rw [completionBy, Option.bind_eq_none_iff]
  intro ε _
  rw [ExecutorLink.completion, hop]
  rfl

lemma fate_of_started {ε : LinkEvent} {op : ExecutorOperation} (hs : ε.started = some op) :
    op.Fate none := by
  cases ε with
  | register t id request resume =>
    rw [← Option.some.inj hs]
    exact ⟨fun _ h => (nomatch h), rfl⟩
  | _ => cases hs

lemma fate_step {o : Option Completion} (hw : h.link.Wf)
    (hf : ∀ op, h.link.operations[i]? = some op → op.Fate o)
    (hn : h.link.operations[i]? = none → o = none) (hq : ¬ EndsEarly h e)
    (hstep : h.step P e = some h') :
    (∀ op, h'.link.operations[i]? = some op → op.Fate (o.or (completionBy P i h e))) ∧
      (h'.link.operations[i]? = none → o.or (completionBy P i h e) = none) := by
  have habsent : h.link.operations[i]? = none → o.or (completionBy P i h e) = none := by
    intro hop
    rw [hn hop, completionBy_of_absent hop]
    rfl
  constructor
  · intro op' hop'
    rcases link_step_cases hstep with ⟨he, hl⟩ | ⟨ε, he, hl⟩
    · rw [completionBy, he, Option.bind_none, Option.or_none]
      rw [hl] at hop'
      exact hf op' hop'
    · rcases ExecutorLink.getElem?_step_inv hw hl hop' with ⟨op, hop, rfl⟩ | ⟨hs, rfl⟩
      · rw [completionBy, he, Option.bind_some]
        exact ExecutorLink.fate_turn (ExecutorLink.turn_after hl hop)
          ((endsEarly_iff h e).mpr hq ε he) hop (hf op hop)
      · rw [habsent (List.getElem?_eq_none_iff.mpr (Nat.le_refl _))]
        exact fate_of_started hs
  · exact fun hop' => habsent (absent_of_step hw hop' hstep)

lemma forward_of_forwarded {ids : NewIds} {operationIds : OperationIds} {message : Obj}
    {op : ExecutorOperation} (hf : h.forwarded P ids operationIds message = some op) :
    ∃ operation resume,
      (RLPHandler.handleMessage P ids ⟨h.registry, h.rlp⟩ message).1 = .await operation resume ∧
        op = h.forward operationIds operation resume := by
  unfold HostRelayRuntime.forwarded at hf
  split at hf
  · rename_i hcall _
    exact ⟨_, _, hcall, (Option.some.inj hf).symm⟩
  · cases hf

lemma startedBy_of_started {ε : LinkEvent} {op : ExecutorOperation} (he : e.onLink P h = some ε)
    (hs : ε.started = some op) :
    ∃ call, startedBy P h.link.operations.length h e = some call ∧ call.SameCall op := by
  obtain ⟨ids, operationIds, message, call, rfl, hf, hsame⟩ := forwarded_of_started he hs
  exact ⟨call, by rw [startedBy, if_pos rfl, hf], hsame⟩

lemma exists_of_startedBy {call : ExecutorOperation} (hc : startedBy P i h e = some call)
    (hstep : h.step P e = some h') : h'.link.operations[i]? = some call := by
  cases e with
  | rlp ids operationIds message =>
    simp only [startedBy] at hc
    split at hc
    · rename_i hi
      simp only [HostRelayRuntime.step] at hstep
      split at hstep
      · rw [← Option.some.inj hstep, link_handleRlpMessage, hc, ← hi]
        simp [ExecutorLink.register]
      · cases hstep
    · cases hc
  | _ => cases hc

lemma called_step {o : Option ExecutorOperation} (hw : h.link.Wf)
    (ho : ∀ op, h.link.operations[i]? = some op → ∃ call, o = some call ∧ call.SameCall op)
    (hn : h.link.operations[i]? = none → o = none) (hstep : h.step P e = some h') :
    (∀ op, h'.link.operations[i]? = some op →
        ∃ call, o.or (startedBy P i h e) = some call ∧ call.SameCall op) ∧
      (h'.link.operations[i]? = none → o.or (startedBy P i h e) = none) := by
  constructor
  · intro op' hop'
    rcases link_step_cases hstep with ⟨-, hl⟩ | ⟨ε, he, hl⟩
    · rw [hl] at hop'
      obtain ⟨call, rfl, hsame⟩ := ho op' hop'
      exact ⟨call, rfl, hsame⟩
    · rcases ExecutorLink.getElem?_step_inv hw hl hop' with ⟨op, hop, rfl⟩ | ⟨hs, rfl⟩
      · obtain ⟨call, rfl, hsame⟩ := ho op hop
        exact ⟨call, rfl, hsame.trans (ExecutorLink.sameCall_after op h.link i ε)⟩
      · obtain rfl := hn (List.getElem?_eq_none_iff.mpr (Nat.le_refl _))
        obtain ⟨call, hc, hsame⟩ := startedBy_of_started he hs
        exact ⟨call, by rw [Option.none_or, hc], hsame⟩
  · intro hop'
    rw [hn (absent_of_step hw hop' hstep), Option.none_or]
    by_contra hne
    obtain ⟨call, hc⟩ := Option.ne_none_iff_exists'.mp hne
    have hop := exists_of_startedBy hc hstep
    exact nomatch hop'.symm.trans hop

lemma verbatim_of_startedBy {call : ExecutorOperation} (hc : startedBy P i h e = some call) :
    call.Verbatim := by
  cases e with
  | rlp ids operationIds message =>
    simp only [startedBy] at hc
    split at hc
    · obtain ⟨operation, resume, hcall, rfl⟩ := forward_of_forwarded hc
      exact forward_verbatim h hcall operationIds
    · cases hc
  | _ => cases hc

lemma ended_step {op : ExecutorOperation} {answer : Except Exc Obj} (hw : h.link.Wf)
    (hp : op.phase = .ended answer) (hf : op.future ≠ .pending)
    (hop : h.link.operations[i]? = some op) (hstep : h.step P e = some h') :
    h'.link.operations[i]? = some op := by
  rcases link_step_cases hstep with ⟨-, hl⟩ | ⟨ε, -, hl⟩
  · rw [hl]
    exact hop
  · rw [ExecutorLink.getElem?_step hw hl hop, ExecutorLink.after_of_ended hl hop hp hf]

section
variable {s s' : HostRelayRuntime} {es : List HostEvent}

lemma fate_run (hs : s.link = {}) (hrun : Run.run (HostRelayRuntime.step P) s es = some s')
    (hsend : ∀ p ∈ Run.trace (HostRelayRuntime.step P) s es, ¬ EndsEarly p.1 p.2)
    {op : ExecutorOperation} (hop : s'.link.operations[i]? = some op) :
    op.Fate ((Run.trace (HostRelayRuntime.step P) s es).findSome?
      fun p => completionBy P i p.1 p.2) := by
  have hinv := Run.run_invariant_first (Q := fun h e => ¬ EndsEarly h e)
    (I := fun h o => h.link.Wf ∧ (∀ op, h.link.operations[i]? = some op → op.Fate o) ∧
      (h.link.operations[i]? = none → o = none))
    (fun _ _ _ _ hI hq hstep =>
      ⟨wf_link_step hI.1 hstep, fate_step hI.1 hI.2.1 hI.2.2 hq hstep⟩)
    (o := none) ⟨by rw [hs]; exact ExecutorLink.wf_empty, by
      rw [hs]
      exact ⟨fun _ h => (nomatch h), fun _ => rfl⟩⟩ hsend hrun
  rw [Option.none_or] at hinv
  exact hinv.2.1 op hop

lemma called_run (hs : s.link = {}) (hrun : Run.run (HostRelayRuntime.step P) s es = some s')
    {op : ExecutorOperation} (hop : s'.link.operations[i]? = some op) :
    ∃ call, (Run.trace (HostRelayRuntime.step P) s es).findSome?
      (fun p => startedBy P i p.1 p.2) = some call ∧ call.SameCall op := by
  have hinv := Run.run_invariant_first (Q := fun _ _ => True)
    (I := fun h o => h.link.Wf ∧
      (∀ op, h.link.operations[i]? = some op → ∃ call, o = some call ∧ call.SameCall op) ∧
      (h.link.operations[i]? = none → o = none))
    (fun _ _ _ _ hI _ hstep =>
      ⟨wf_link_step hI.1 hstep, called_step hI.1 hI.2.1 hI.2.2 hstep⟩)
    (o := none) ⟨by rw [hs]; exact ExecutorLink.wf_empty, by
      rw [hs]
      exact ⟨fun _ h => (nomatch h), fun _ => rfl⟩⟩ (fun _ _ => trivial) hrun
  rw [Option.none_or] at hinv
  exact hinv.2.1 op hop

lemma ended_run {op : ExecutorOperation} {answer : Except Exc Obj} (hw : s.link.Wf)
    (hop : s.link.operations[i]? = some op) (hp : op.phase = .ended answer)
    (hf : op.future ≠ .pending) (hrun : Run.run (HostRelayRuntime.step P) s es = some s') :
    s'.link.operations[i]? = some op :=
  (Run.run_invariant (I := fun h => h.link.Wf ∧ h.link.operations[i]? = some op)
    (fun _ _ _ hI hstep => ⟨wf_link_step hI.1 hstep, ended_step hI.1 hp hf hI.2 hstep⟩)
    ⟨hw, hop⟩ hrun).2

end

/-- **No cross-talk.** In every run from a host without operations in which the sends succeed,
each operation is completed once, by the first event that is about it. -/
theorem no_cross_talk (P : Platform) {s s' : HostRelayRuntime} {es : List HostEvent}
    (hs : s.link = {}) (hrun : Run.run (HostRelayRuntime.step P) s es = some s')
    (hsend : ∀ p ∈ Run.trace (HostRelayRuntime.step P) s es, ¬ EndsEarly p.1 p.2) :
    NoCrossTalk P s es s' := by
  have hws : s.link.Wf := by
    rw [hs]
    exact ExecutorLink.wf_empty
  have hw : s'.link.Wf := wf_link_run hws hrun
  refine
    { completed := fun i op hop => fate_run hs hrun hsend hop
      called := fun i op hop => called_run hs hrun hop
      verbatim := ?_, final := ?_, separate := ?_, late := ?_, exchange := ?_ }
  -- verbatim: an operation is the call it was started as
  · intro op hop
    obtain ⟨i, hi⟩ := List.mem_iff_getElem?.mp hop
    obtain ⟨call, hc, hsame⟩ := called_run hs hrun hi
    obtain ⟨p, -, hp⟩ := List.exists_of_findSome?_eq_some hc
    exact (verbatim_of_startedBy hp).congr hsame.target hsame.resume
  -- final: an operation ends only when its future is done
  · intro i op answer hop hp es' s'' hrun'
    have hf : op.future ≠ .pending := by
      have hfate := fate_run hs hrun hsend hop
      cases ho : (Run.trace (HostRelayRuntime.step P) s es).findSome?
          fun p => completionBy P i p.1 p.2 with
      | none =>
        rw [ho] at hfate
        exact absurd hp (hfate.1 answer)
      | some c =>
        rw [ho] at hfate
        exact ExecutorLink.future_ne_pending hfate
    exact ended_run hw hop hp hf hrun'
  -- separate: a message settles at most the operation it is for
  · intro newMessageId message i op hop hother
    rw [link_handleExecutorStdioMessage]
    cases hx : executorAnswer P message with
    | none => exact hop
    | some x =>
      have hsettle := ExecutorLink.getElem?_settle hw x.1 x.2.1 x.2.2 hop
      rwa [if_neg (hother x hx)] at hsettle
  · intro newMessageId message op hop hf ha
    obtain ⟨i, hi⟩ := List.mem_iff_getElem?.mp hop
    exact late_message hw hi hf newMessageId ha
  · rintro es₁ es₂ n n' message message' rfl hu
    obtain ⟨k, hk, hsame⟩ := run_swap_executor hws hu hrun
    exact ⟨k, hk, hsame.link⟩

/-! A resource is read, and its contents come twice. -/

def resourceResult : HostEvent :=
  .executor "n"
    [("protocol", .str "tep"), ("version", .str "1.0"), ("message_type", .str "resource_result"),
      ("message_id", .str "x"), ("request_id", .str "m"),
      ("payload", .obj [("uri", .str "u"), ("contents", .arr [.str "c"])])]

def resultTwice : List HostEvent :=
  [.attach 0, readResource, .acquire 0, .sent 0 (.ok ()), resourceResult, resourceResult,
    .resume 0]

theorem resultTwice_no_cross_talk :
    ∃ s', Run.run (HostRelayRuntime.step .strict) startedHost resultTwice = some s' ∧
      NoCrossTalk .strict startedHost resultTwice s' := by
  refine ⟨_, rfl, no_cross_talk .strict rfl rfl fun p hp => ?_⟩
  rcases List.mem_cons.mp hp with rfl | hp
  · exact id
  rcases List.mem_cons.mp hp with rfl | hp
  · exact id
  rcases List.mem_cons.mp hp with rfl | hp
  · exact fun h => nomatch h
  rcases List.mem_cons.mp hp with rfl | hp
  · exact fun h => h rfl
  rcases List.mem_cons.mp hp with rfl | hp
  · exact id
  rcases List.mem_cons.mp hp with rfl | hp
  · exact id
  · obtain rfl := List.mem_singleton.mp hp
    exact id

end NaiaRelay.Runtime
