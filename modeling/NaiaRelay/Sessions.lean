import NaiaRelay.HostRegistry

set_option autoImplicit false

/-!
The sessions of a relay-link handler. The session and the token are checked when a client
binds and at no other time: what any other message does, it does for whoever sends it.
-/

namespace NaiaRelay.Rlp

open NaiaRelay.Registry

variable (P : Platform)

/-- The client a payload binds, if it is a bind that a handler with these records takes. -/
def Payload.client (r : RLPRecords) : Payload → Option String
  | .bindSession p =>
    if p.relaySessionId = r.relaySessionId ∧
        (r.sessionToken = none ∨ p.sessionToken = r.sessionToken) then
      some p.clientInstanceId
    else none
  | _ => none

/-- The client a message binds. -/
def acceptedClient (r : RLPRecords) (message : Obj) : Option String :=
  (parse P message).bind fun x => x.2.client r

/-- The operation a call hands to a callback. -/
def invoked : Call → Option Operation
  | .await operation _ => some operation
  | .done _ => none

/-- What a message does: the operation it has a callback carry out, and the registry it
leaves. -/
def RLPHandler.effect (h : RLPHandler) (ids : NewIds) (message : Obj) :
    Option Operation × RegistryStore :=
  let x := h.handleMessage P ids message
  (invoked x.1, x.2.registry)

/-- A hello or a bind, which a client sends before anything else. -/
def Payload.Opens : Payload → Prop
  | .hello _ | .bindSession _ => True
  | _ => False

/-- Only messages for the handler's session from a client that has bound have an effect. -/
def OnlyBoundActs (h : RLPHandler) (ds : List Delivery) : Prop :=
  ∀ ds₁ d ds₂ envelope payload, ds = ds₁ ++ d :: ds₂ → parse P d.2 = some (envelope, payload) →
    ¬ payload.Opens →
    (afterAll P h ds₁).effect P d.1 d.2 ≠ (none, (afterAll P h ds₁).registry) →
    envelope.relaySessionId = some h.records.relaySessionId ∧
      ∃ client, envelope.sourceRelayId = some client ∧
        ∃ d' ∈ ds₁, acceptedClient P h.records d'.2 = some client

/-- The same callbacks are there. -/
structure SameCallbacks (r r' : RLPRecords) : Prop where
  executeTool : r'.executeTool = r.executeTool
  readResource : r'.readResource = r.readResource
  getPrompt : r'.getPrompt = r.getPrompt

variable {P} {h h' : RLPHandler} {ids ids' : NewIds} {envelope envelope' : RLPEnvelope}

/-! ### Binding -/

lemma acceptedClient_of_parse {r : RLPRecords} {message : Obj} {payload : Payload}
    (hp : parse P message = some (envelope, payload)) :
    acceptedClient P r message = payload.client r := by
  rw [acceptedClient, hp]
  rfl

lemma client_congr {r r' : RLPRecords} (hs : r'.relaySessionId = r.relaySessionId)
    (ht : r'.sessionToken = r.sessionToken) (payload : Payload) :
    payload.client r' = payload.client r := by
  cases payload with
  | bindSession p => rw [Payload.client, Payload.client, hs, ht]
  | _ => rfl

lemma acceptedClient_congr {r r' : RLPRecords} (hs : r'.relaySessionId = r.relaySessionId)
    (ht : r'.sessionToken = r.sessionToken) (message : Obj) :
    acceptedClient P r' message = acceptedClient P r message := by
  cases hp : parse P message with
  | none => rw [acceptedClient, acceptedClient, hp]; rfl
  | some x => rw [acceptedClient_of_parse hp, acceptedClient_of_parse hp, client_congr hs ht]

lemma bindSession_cases (h : RLPHandler) (ids : NewIds) (envelope : RLPEnvelope)
    (p : BindSessionPayload) :
    (Payload.client h.records (.bindSession p) = some p.clientInstanceId ∧
        (h.bindSession ids envelope p).2 = { h with
          records.boundClients := h.records.boundClients.insert p.clientInstanceId }) ∨
      (Payload.client h.records (.bindSession p) = none ∧
        Answered "error" (h.bindSession ids envelope p).1 ∧
        (h.bindSession ids envelope p).2 = h) := by
  unfold RLPHandler.bindSession Payload.client
  dsimp only
  by_cases hs : p.relaySessionId ≠ h.records.relaySessionId
  · rw [if_pos hs, if_neg fun hboth => hs hboth.1]
    exact Or.inr ⟨rfl, ⟨_, rfl, rfl⟩, rfl⟩
  · rw [if_neg hs]
    by_cases ht : h.records.sessionToken ≠ none ∧ p.sessionToken ≠ h.records.sessionToken
    · rw [if_pos ht, if_neg fun hboth => hboth.2.elim ht.1 ht.2]
      exact Or.inr ⟨rfl, ⟨_, rfl, rfl⟩, rfl⟩
    · have htoken : h.records.sessionToken = none ∨ p.sessionToken = h.records.sessionToken := by
        by_contra hno
        exact ht (not_or.mp hno)
      rw [if_neg ht, if_pos ⟨not_not.mp hs, htoken⟩]
      exact Or.inl ⟨rfl, rfl⟩

lemma handleMessage_of_not_accepted {message : Obj} {p : BindSessionPayload}
    (hp : parse P message = some (envelope, .bindSession p))
    (hno : acceptedClient P h.records message = none) :
    Answered "error" (h.handleMessage P ids message).1 ∧ (h.handleMessage P ids message).2 = h := by
  rw [handleMessage_of_parse hp]
  rw [acceptedClient_of_parse hp] at hno
  rcases bindSession_cases h ids envelope p with ⟨hok, -⟩ | ⟨-, hx⟩
  · rw [hok] at hno
    cases hno
  · exact hx

lemma session_dispatch (h : RLPHandler) (ids : NewIds) (envelope : RLPEnvelope)
    (payload : Payload) :
    let r := (h.dispatch P ids envelope payload).2.records
    r.relaySessionId = h.records.relaySessionId ∧ r.sessionToken = h.records.sessionToken ∧
      ∀ client, client ∈ r.boundClients ↔
        client ∈ h.records.boundClients ∨ payload.client h.records = some client := by
  intro r
  have hkeep : r = h.records → payload.client h.records = none →
      r.relaySessionId = h.records.relaySessionId ∧ r.sessionToken = h.records.sessionToken ∧
        ∀ client, client ∈ r.boundClients ↔
          client ∈ h.records.boundClients ∨ payload.client h.records = some client := by
    intro hr hno
    rw [hr, hno]
    exact ⟨rfl, rfl, fun client => (or_iff_left (by simp)).symm⟩
  cases payload with
  | bindSession p =>
    rcases bindSession_cases h ids envelope p with ⟨hok, hx⟩ | ⟨hno, -, hx⟩
    · have hr : r = { h.records with
          boundClients := h.records.boundClients.insert p.clientInstanceId } :=
        congrArg (·.records) hx
      rw [hr, hok]
      refine ⟨rfl, rfl, fun client => ?_⟩
      rw [List.mem_insert_iff, Option.some.injEq]
      exact or_comm.trans (or_congr_right eq_comm)
    · exact hkeep (congrArg (·.records) hx) hno
  | mutation k p => exact hkeep (applyIncremental_done h ids envelope _ _).2 rfl
  | removed k p => exact hkeep (applyIncremental_done h ids envelope _ _).2 rfl
  | _ => exact ⟨rfl, rfl, fun client => (or_iff_left (by simp [Payload.client])).symm⟩

lemma session_handleMessage (h : RLPHandler) (ids : NewIds) (message : Obj) :
    let r := (h.handleMessage P ids message).2.records
    r.relaySessionId = h.records.relaySessionId ∧ r.sessionToken = h.records.sessionToken ∧
      ∀ client, client ∈ r.boundClients ↔
        client ∈ h.records.boundClients ∨ acceptedClient P h.records message = some client := by
  cases hp : parse P message with
  | none =>
    obtain ⟨answer, hx⟩ := handleMessage_of_parse_none (h := h) ids hp
    rw [hx, acceptedClient, hp]
    exact ⟨rfl, rfl, fun client => (or_iff_left (by simp)).symm⟩
  | some x =>
    obtain ⟨envelope, payload⟩ := x
    rw [handleMessage_of_parse hp, acceptedClient_of_parse hp]
    exact session_dispatch h ids envelope payload

lemma session_afterAll (h : RLPHandler) (ds : List Delivery) :
    let r := (afterAll P h ds).records
    r.relaySessionId = h.records.relaySessionId ∧ r.sessionToken = h.records.sessionToken ∧
      ∀ client, client ∈ r.boundClients ↔
        client ∈ h.records.boundClients ∨
          ∃ d ∈ ds, acceptedClient P h.records d.2 = some client := by
  induction ds generalizing h with
  | nil => simp [afterAll]
  | cons d ds ih =>
    obtain ⟨hs, ht, hb⟩ := session_handleMessage (P := P) h d.1 d.2
    obtain ⟨hs', ht', hb'⟩ := ih (h.handleMessage P d.1 d.2).2
    refine ⟨hs'.trans hs, ht'.trans ht, fun client => (hb' client).trans ?_⟩
    simp only [acceptedClient_congr hs ht, hb client, List.exists_mem_cons_iff, or_assoc]

/-! ### Everything else -/

lemma effect_dispatch (ids ids' : NewIds) (envelope envelope' : RLPEnvelope)
    (hr : h'.registry = h.registry) (hc : SameCallbacks h.records h'.records)
    (payload : Payload) :
    let x := h.dispatch P ids envelope payload
    let x' := h'.dispatch P ids' envelope' payload
    invoked x'.1 = invoked x.1 ∧ x'.2.registry = x.2.registry := by
  -- whether a change is applied depends on the registry it meets alone
  have hincremental : ∀ (revision : ℤ) (change : RegistryStore → Except Exc RegistryStore),
      let x := h.applyIncremental ids envelope revision change
      let x' := h'.applyIncremental ids' envelope' revision change
      invoked x'.1 = invoked x.1 ∧ x'.2.registry = x.2.registry := by
    intro revision change x x'
    obtain ⟨⟨a, ha⟩, -⟩ := applyIncremental_done h ids envelope revision change
    obtain ⟨⟨b, hb⟩, -⟩ := applyIncremental_done h' ids' envelope' revision change
    refine ⟨by simp only [x, x', ha, hb, invoked], ?_⟩
    simp only [x, x', registry_applyIncremental, hr]
  -- a bind asks nobody and leaves the registry as it is
  have hbind : ∀ (h : RLPHandler) (ids : NewIds) (envelope : RLPEnvelope) (p : BindSessionPayload),
      invoked (h.bindSession ids envelope p).1 = none ∧
        (h.bindSession ids envelope p).2.registry = h.registry := by
    intro h ids envelope p
    unfold RLPHandler.bindSession
    dsimp only
    split
    · exact ⟨rfl, rfl⟩
    · split <;> exact ⟨rfl, rfl⟩
  intro x x'
  cases payload with
  | bindSession p =>
    obtain ⟨hi, hk⟩ := hbind h ids envelope p
    obtain ⟨hi', hk'⟩ := hbind h' ids' envelope' p
    exact ⟨hi'.trans hi.symm, hk'.trans (hr.trans hk.symm)⟩
  | snapshot p =>
    refine ⟨rfl, ?_⟩
    simp only [x, x', RLPHandler.dispatch, hr]
  | mutation k p => exact hincremental _ _
  | removed k p => exact hincremental _ _
  | executeTool p =>
    refine ⟨?_, hr⟩
    simp only [x, x', RLPHandler.dispatch, RLPRecords.operation, hc.executeTool]
    split <;> rfl
  | readResource p =>
    refine ⟨?_, hr⟩
    simp only [x, x', RLPHandler.dispatch, RLPRecords.operation, hc.readResource]
    split <;> rfl
  | getPrompt p =>
    refine ⟨?_, hr⟩
    simp only [x, x', RLPHandler.dispatch, RLPRecords.operation, hc.getPrompt]
    split <;> rfl
  | _ => exact ⟨rfl, hr⟩

lemma effect_congr {message message' : Obj} {payload : Payload}
    (hp : parse P message = some (envelope, payload))
    (hp' : parse P message' = some (envelope', payload)) (hr : h'.registry = h.registry)
    (hc : SameCallbacks h.records h'.records) :
    h'.effect P ids' message' = h.effect P ids message := by
  simp only [RLPHandler.effect, handleMessage_of_parse hp, handleMessage_of_parse hp']
  obtain ⟨hi, hk⟩ := effect_dispatch (P := P) ids ids' envelope envelope' hr hc payload
  rw [hi, hk]

/-- **Admission to a session.** Over any messages a handler's session and token stay what they
are, and the clients that have bound are those whose binds named the session and, where one
is set, the token; a bind that does not is answered with an error and without effect. The
effect of any other message does not depend on any of this: the same payload in any other
envelope does the same at any other session with the same registry and callbacks. -/
theorem session_admission (P : Platform) (h : RLPHandler) (ds : List Delivery) :
    let t := afterAll P h ds
    (t.records.relaySessionId = h.records.relaySessionId ∧
      t.records.sessionToken = h.records.sessionToken) ∧
    (∀ client, client ∈ t.records.boundClients ↔
      client ∈ h.records.boundClients ∨
        ∃ d ∈ ds, acceptedClient P h.records d.2 = some client) ∧
    (∀ ids message envelope p, parse P message = some (envelope, .bindSession p) →
      acceptedClient P h.records message = none →
      Answered "error" (t.handleMessage P ids message).1 ∧
        (t.handleMessage P ids message).2 = t) ∧
    ∀ (u : RLPHandler) (ids ids' : NewIds) message message' envelope envelope' payload,
      parse P message = some (envelope, payload) →
      parse P message' = some (envelope', payload) →
      u.registry = t.registry → SameCallbacks t.records u.records →
      u.effect P ids' message' = t.effect P ids message := by
  intro t
  obtain ⟨hs, ht, hb⟩ := session_afterAll (P := P) h ds
  refine ⟨⟨hs, ht⟩, hb, ?_, ?_⟩
  · intro ids message envelope p hp hno
    exact handleMessage_of_not_accepted hp ((acceptedClient_congr hs ht message).trans hno)
  · intro u ids ids' message message' envelope envelope' payload hp hp' hr hc
    exact effect_congr hp hp' hr hc

/-! A stranger has a tool executed under the wrong session. -/

/-- A handler with a token, whose callbacks are all there. -/
def guardedHandler : RLPHandler where
  registry := {}
  records :=
    { hostRelayId := "host", relaySessionId := "session", sessionToken := some "secret"
      executeTool := true, readResource := true, getPrompt := true }

def strangersCall : Obj :=
  linkMessage "execute_tool" [("tool_name", .str "a")]
    ++ [("relay_session_id", .str "other"), ("source_relay_id", .str "stranger")]

theorem strangersCall_acts :
    (((guardedHandler.effect .strict ⟨"r", "g"⟩ strangersCall).1.map fun
        | .executeTool p => p.toolName
        | _ => "") = some "a") ∧
      ¬ OnlyBoundActs .strict guardedHandler [(⟨"r", "g"⟩, strangersCall)] := by
  refine ⟨rfl, fun honly => ?_⟩
  obtain ⟨hsession, -⟩ := honly [] (⟨"r", "g"⟩, strangersCall) [] _ _ rfl rfl
    (by simp [Payload.Opens]) fun heq => nomatch congrArg (·.1) heq
  exact absurd hsession (by decide)

end NaiaRelay.Rlp
