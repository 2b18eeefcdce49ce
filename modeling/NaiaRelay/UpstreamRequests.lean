import NaiaRelay.Bridge

set_option autoImplicit false

/-!
What a client sends upstream, and whether the host takes it.

The client copies the arguments it is given into the upstream request without a look at them,
and the host's payload models want an object there. The request of a client whose own client
gives anything else is one the host's handler raises on.
-/

namespace NaiaRelay.Runtime

open NaiaRelay.Pydantic NaiaRelay.Registry NaiaRelay.Rlp NaiaRelay.Mcp

variable (P : Platform)

/-- The host's handler takes the message: it passes as an envelope with the payload of its
type, and no handler raises on it. -/
def HostAccepts (request : Obj) : Prop :=
  (∃ envelope payload, Rlp.parse P request = some (envelope, payload)) ∧
    ∀ (h : RLPHandler) (ids : NewIds) (e : Exc), (h.handleMessage P ids request).1 ≠ .done (.error e)

/-- There is an upstream request with these arguments that the host takes. -/
def Forwardable (c : ClientRelayRuntime) (rids : ClientRelayRuntime.RequestIds) (k : Kind)
    (name : String) (arguments : Json) : Prop :=
  HostAccepts P (c.upstreamRequest rids (kindCallback k (.str name) arguments))

/-- What is sent upstream for the message is taken by the host, and what cannot be forwarded is
answered with an error, with nothing sent. -/
structure EmitsAccepted (c : ClientRelayRuntime) (rids : ClientRelayRuntime.RequestIds)
    (message : Obj) (k : Kind) (name : String) (arguments : Json) : Prop where
  sent : ∀ request resume c', c.openMcp P rids message = (.await request resume, c') →
    HostAccepts P request
  refused : ¬ Forwardable P c rids k name arguments → ∃ response c' error,
    c.openMcp P rids message = (.done (.ok (some response)), c') ∧
      Obj.get response "error" = some error

variable {P} {c : ClientRelayRuntime} {rids : ClientRelayRuntime.RequestIds} {message : Obj}
  {k : Kind} {name : String} {arguments : Json}

/-! ### The upstream request at the host -/

lemma handleMessage_of_operation {request : Obj} {envelope : RLPEnvelope} {operation : Operation}
    (hp : Rlp.parse P request = some (envelope, operationPayload operation)) (h : RLPHandler)
    (ids : NewIds) (e : Exc) : (h.handleMessage P ids request).1 ≠ .done (.error e) := by
  rw [handleMessage_of_parse hp]
  cases operation with
  | executeTool p =>
    show RLPRecords.operation P h.records envelope ids _ _ _ _ _ ≠ _
    unfold RLPRecords.operation
    split <;> simp
  | readResource p =>
    show RLPRecords.operation P h.records envelope ids _ _ _ _ _ ≠ _
    unfold RLPRecords.operation
    split <;> simp
  | getPrompt p =>
    show RLPRecords.operation P h.records envelope ids _ _ _ _ _ ≠ _
    unfold RLPRecords.operation
    split <;> simp

lemma parse_upstreamRequest_none (c : ClientRelayRuntime) (rids : ClientRelayRuntime.RequestIds)
    (k : Kind) (name : String) (ho : isObject arguments = false) :
    Rlp.parse P (c.upstreamRequest rids (kindCallback k (.str name) arguments)) = none := by
  cases arguments with
  | obj o => simp [isObject] at ho
  | _ => cases k <;> rfl

lemma forwardable_iff (c : ClientRelayRuntime) (rids : ClientRelayRuntime.RequestIds) (k : Kind)
    (name : String) (arguments : Json) :
    Forwardable P c rids k name arguments ↔ isObject arguments = true := by
  constructor
  · rintro ⟨⟨envelope, payload, hp⟩, -⟩
    cases ho : isObject arguments with
    | true => rfl
    | false => exact nomatch (parse_upstreamRequest_none c rids k name ho).symm.trans hp
  · intro ho
    cases arguments with
    | obj o =>
      have hp := parse_upstreamRequest (P := P) c rids k name o
      exact ⟨⟨_, _, hp⟩, fun h ids e => handleMessage_of_operation hp h ids e⟩
    | _ => simp [isObject] at ho

/-! ### The client -/

lemma openMcp_of_asksWith (hu : c.upstream = true) (hf : c.registry.stale = false)
    (hc : HasCallbacks c.mcp) (ha : AsksWith P message k name arguments)
    (hmem : name ∈ (c.registry.table k).dict) (rids : ClientRelayRuntime.RequestIds) :
    (∃ resume c', c.openMcp P rids message
        = (.await (c.upstreamRequest rids (kindCallback k (.str name) arguments)) resume, c')) ∨
      ∃ e c', c.openMcp P rids message = (.done (.error e), c') := by
  obtain ⟨resume, hasks⟩ := handleMessage_of_asksWith hc c.registry ha
  have hnamed : NamesEntry c.registry (kindCallback k (.str name) arguments) name := by
    unfold NamesEntry
    rw [callbackTarget_kindCallback]
    exact ⟨rfl, hmem⟩
  rcases openMcp_cases (P := P) c.base c.mcp c.registry message with ⟨hs, hr, -⟩ | ⟨-, e, hx⟩
  · have hforwards : Forwards P c message (kindCallback k (.str name) arguments) resume :=
      ⟨hs, hr, hasks, hf, ⟨name, hnamed⟩, hu⟩
    exact Or.inl ⟨_, _, hforwards.openMcp rids⟩
  · refine Or.inr ⟨e, { c with base := c.base.rejected, mcp := c.mcp }, ?_⟩
    unfold ClientRelayRuntime.openMcp
    rw [hx]

/-- **When a client sends only what the host takes.** A bound, fresh client that is asked for a
mirrored entry does exactly when the arguments it is given are an object. -/
theorem emitsAccepted_iff (P : Platform) {c : ClientRelayRuntime} {message : Obj} {k : Kind}
    {name : String} {arguments : Json} (hu : c.upstream = true) (hf : c.registry.stale = false)
    (hc : HasCallbacks c.mcp) (ha : AsksWith P message k name arguments)
    (hmem : name ∈ (c.registry.table k).dict) (rids : ClientRelayRuntime.RequestIds) :
    EmitsAccepted P c rids message k name arguments ↔ isObject arguments = true := by
  have hopen := openMcp_of_asksWith hu hf hc ha hmem rids
  rw [← forwardable_iff (P := P) c rids k name]
  constructor
  · intro h
    by_contra hno
    obtain ⟨response, c', error, hdone, -⟩ := h.refused hno
    rcases hopen with ⟨resume, c'', hx⟩ | ⟨e, c'', hx⟩ <;> exact nomatch hdone.symm.trans hx
  · intro hforward
    refine ⟨fun request resume c' hsent => ?_, fun hno => absurd hforward hno⟩
    rcases hopen with ⟨resume', c'', hx⟩ | ⟨e, c'', hx⟩
    · obtain ⟨hrequest, -⟩ := Coroutine.await.inj (congrArg Prod.fst (hsent.symm.trans hx))
      rw [hrequest]
      exact hforward
    · exact nomatch hsent.symm.trans hx

/-- A call of the tool `a` with the arguments given. -/
def callWith (arguments : Json) : Obj :=
  [("id", .int 1), ("method", .str "tools/call"),
    ("params", .obj [("name", .str "a"), ("arguments", arguments)])]

lemma callWith_asksWith (arguments : Json) :
    AsksWith .strict (callWith arguments) .tool "a" arguments :=
  ⟨⟨"2.0", .int 1, "tools/call", [("name", .str "a"), ("arguments", arguments)]⟩, rfl, rfl, rfl, rfl⟩

/-- A list of arguments is sent upstream, and the host's handler raises on it. -/
theorem callWith_list_raises :
    ¬ EmitsAccepted .strict mirroringClient ⟨"m", "e"⟩ (callWith (.arr [.int 1])) .tool "a"
        (.arr [.int 1]) ∧
      ∃ request resume c' e, mirroringClient.openMcp .strict ⟨"m", "e"⟩ (callWith (.arr [.int 1]))
          = (.await request resume, c') ∧
        (attachedHost.handleRlpMessage .strict ⟨"r", "g"⟩ ⟨"m", "e"⟩ request).1
          = .answered (.error e) :=
  ⟨fun h => (nomatch (h.sent _ _ _ rfl).1.choose_spec.choose_spec), _, _, _, _, rfl, rfl⟩

/-- An object of arguments is taken. -/
theorem callWith_object_accepted :
    EmitsAccepted .strict mirroringClient ⟨"m", "e"⟩ (callWith (.obj [("x", .int 1)])) .tool "a"
      (.obj [("x", .int 1)]) :=
  (emitsAccepted_iff .strict rfl rfl ⟨rfl, rfl, rfl⟩ (callWith_asksWith _) (by decide) ⟨"m", "e"⟩).mpr
    rfl

end NaiaRelay.Runtime
