import NaiaRelay.BindFidelity
import NaiaRelay.HeldEntries
import NaiaRelay.SortedSnapshot
import NaiaRelay.TcpLink

set_option autoImplicit false

/-!
Binding over TCP. The client greets the host for its identity and binds to it, with a connection
for each request; the snapshot comes back as text, for which there has to be room.
-/

namespace NaiaRelay.Runtime

open NaiaRelay.Pydantic NaiaRelay.Registry NaiaRelay.Rlp NaiaRelay.Transports

/-! ### The ends of the link -/

/-- A host behind its listener: it has handled this many messages. -/
structure LinkHost where
  runtime : HostRelayRuntime
  handled : ℕ := 0

/-- What the host draws and learns while it handles messages: the ids of each, and what becomes of
an operation that is forwarded. -/
structure HostSide where
  ids : ℕ → NewIds
  operationIds : ℕ → OperationIds
  forwarded : LinkHost → Except Exc Obj × LinkHost

variable (P : Platform) (J : JsonModule Json Obj) (overrun : Bytes → String) (side : HostSide)

/-- `handle_rlp_message` of the host, to the answer. -/
def LinkHost.respond (h : LinkHost) (message : Obj) : Except Exc Obj × LinkHost :=
  match h.runtime.handleRlpMessage P (side.ids h.handled) (side.operationIds h.handled) message with
  | (.answered answer, runtime) => (answer, ⟨runtime, h.handled + 1⟩)
  | (.forwarded, runtime) => side.forwarded ⟨runtime, h.handled + 1⟩

namespace ClientRelayRuntime

/-- `_tcp_round_trip` to a host. -/
def tcpRoundTrip (c : ClientRelayRuntime) (h : LinkHost) (message : Obj) :
    Except Exc Obj × LinkHost :=
  Runtime.tcpRoundTrip P J overrun ⟨c.tcpFramer, h.runtime.rlpFramer⟩
    (LinkHost.respond P side) h message

def ofResult : Except Exc Obj → Outcome Obj
  | .ok response => .returns response
  | .error e => .raises e

/-- `_tcp_round_trip` as a requester. -/
def tcpRequester (c : ClientRelayRuntime) (h : LinkHost) (message : Obj) : Outcome Obj × LinkHost :=
  let x := c.tcpRoundTrip P J overrun side h message
  (ofResult x.1, x.2)

/-- The message `_auto_bind_tcp_relay_link` greets a host with. -/
def helloMessage (c : ClientRelayRuntime) (newMessageId : String) : Obj :=
  [("protocol", .str "rlp"), ("version", .str "1.0"), ("message_type", .str "hello"),
    ("message_id", .str newMessageId), ("source_relay_id", .str c.base.relayId),
    ("payload", .obj [("relay_id", .str c.base.relayId), ("role", .str "client"),
      ("capabilities", .obj [("tool_sync", .bool true), ("tool_execution", .bool true)]),
      ("metadata", .obj [])])]

def helloFailed : Exc :=
  .protocol "Relay-link hello did not return host identity" "relay_link_hello_failed" .null

/-- `_auto_bind_tcp_relay_link`, to a host that can be reached and answers in time. -/
def autoBindTcpRelayLink (c : ClientRelayRuntime) (newMessageId : String) (ids : NewIds)
    (h : LinkHost) : Except Exc Unit × ClientRelayRuntime × LinkHost :=
  match c.tcpRoundTrip P J overrun side h (c.helloMessage newMessageId) with
  | (.error e, h) => (.error e, c, h)
  | (.ok hello, h) =>
    let b : Binding := ⟨HostRelayRuntime.messageText P hello "relay_session_id",
      HostRelayRuntime.messageText P hello "source_relay_id"⟩
    if b.hostSessionId = "" ∨ b.hostRelayId = "" then (.error helloFailed, c, h)
    else
      let x := c.bindViaRequester P (c.tcpRequester P J overrun side) h b ids
      (x.1.map fun _ => (), x.2)

end ClientRelayRuntime

/-! ### What is sent -/

variable {P J overrun side} {F : Json.FloatText} {c : ClientRelayRuntime} {h : LinkHost}

/-- The envelope of a greeting, as it arrives. -/
def helloEnvelope (c : ClientRelayRuntime) (newMessageId : String) : RLPEnvelope where
  protocol := "rlp"
  version := "1.0"
  messageType := "hello"
  messageId := newMessageId
  sourceRelayId := some c.base.relayId
  payload := [("capabilities", .obj [("tool_execution", .bool true), ("tool_sync", .bool true)]),
    ("metadata", .obj []), ("relay_id", .str c.base.relayId), ("role", .str "client")]

attribute [local simp] sortKeys_obj List.orderedInsert

lemma parse_helloMessage (P : Platform) (c : ClientRelayRuntime) (newMessageId : String) :
    Rlp.parse P (sortMessage (c.helloMessage newMessageId))
      = some (helloEnvelope c newMessageId, .hello ⟨c.base.relayId, "client",
          [("tool_execution", true), ("tool_sync", true)], []⟩) := by
  have hsort : sortMessage (c.helloMessage newMessageId) =
      [("message_id", .str newMessageId), ("message_type", .str "hello"),
        ("payload", .obj (helloEnvelope c newMessageId).payload), ("protocol", .str "rlp"),
        ("source_relay_id", .str c.base.relayId), ("version", .str "1.0")] := by
    simp [ClientRelayRuntime.helloMessage, helloEnvelope]
  rw [hsort]
  rfl

/-- The envelope of a bind, as it arrives. -/
def bindArrival (c : ClientRelayRuntime) (b : Binding) : RLPEnvelope :=
  { bindEnvelope c b with
    payload := [("client_instance_id", .str c.base.relayId),
      ("relay_session_id", .str b.hostSessionId)] }

lemma parse_sort_bindMessage (P : Platform) (c : ClientRelayRuntime) (b : Binding) :
    Rlp.parse P (sortMessage (c.bindMessage b))
      = some (bindArrival c b, .bindSession ⟨b.hostSessionId, none, c.base.relayId⟩) := by
  have hsort : sortMessage (c.bindMessage b) =
      [("message_id", .str "msg_bind"), ("message_type", .str "bind_session"),
        ("payload", .obj (bindArrival c b).payload), ("protocol", .str "rlp"),
        ("relay_session_id", .str b.hostSessionId), ("source_relay_id", .str c.base.relayId),
        ("version", .str "1.0")] := by
    simp [ClientRelayRuntime.bindMessage, bindArrival]
  rw [hsort]
  rfl

lemma wellFormed_helloMessage (c : ClientRelayRuntime) (newMessageId : String) :
    Json.WellFormed F (.obj (c.helloMessage newMessageId)) := by
  have hflag : ∀ b, Json.WellFormed F (.bool b) := fun _ => trivial
  have hempty : Json.WellFormed F (.obj []) := wellFormed_obj (by simp) (by simp)
  have hcapabilities : Json.WellFormed F
      (.obj [("tool_sync", .bool true), ("tool_execution", .bool true)]) :=
    wellFormed_obj (by simp) (by simp [hflag])
  have hpayload : Json.WellFormed F (.obj [("relay_id", .str c.base.relayId),
      ("role", .str "client"), ("capabilities", .obj [("tool_sync", .bool true),
        ("tool_execution", .bool true)]), ("metadata", .obj [])]) :=
    wellFormed_obj (by simp) (by simp [wellFormed_str, hcapabilities, hempty])
  exact wellFormed_obj (by simp [ClientRelayRuntime.helloMessage])
    (by simp [ClientRelayRuntime.helloMessage, wellFormed_str, hpayload])

lemma wellFormed_bindMessage (c : ClientRelayRuntime) (b : Binding) :
    Json.WellFormed F (.obj (c.bindMessage b)) := by
  have hpayload : Json.WellFormed F (.obj [("relay_session_id", .str b.hostSessionId),
      ("client_instance_id", .str c.base.relayId)]) :=
    wellFormed_obj (by simp) (by simp [wellFormed_str])
  exact wellFormed_obj (by simp [ClientRelayRuntime.bindMessage])
    (by simp [ClientRelayRuntime.bindMessage, wellFormed_str, hpayload])

lemma wellFormed_reply (r : RLPRecords) (envelope : RLPEnvelope) (ids : NewIds) {details : Obj}
    (h : Json.WellFormed F (.obj details)) :
    Json.WellFormed F (.obj (r.reply envelope ids (Tep.statusDump "ok" none none details))) := by
  have hnull : Json.WellFormed F .null := trivial
  have hoption : ∀ o : Option String, Json.WellFormed F (.ofOption o) := by
    rintro (_ | s)
    · exact hnull
    · exact wellFormed_str s
  have hpayload : Json.WellFormed F (.obj (Tep.statusDump "ok" none none details)) :=
    wellFormed_obj (by simp [Tep.statusDump]) (by simp [Tep.statusDump, wellFormed_str, hoption, h])
  exact wellFormed_obj (by simp [RLPRecords.reply])
    (by simp [RLPRecords.reply, wellFormed_str, hoption, hpayload])

/-! ### What comes back -/

@[simp] lemma sortKeys_ofOption (o : Option String) :
    Json.sortKeys (.ofOption o) = .ofOption o := by
  cases o <;> rfl

lemma sortMessage_statusDump (details : Obj) :
    sortMessage (Tep.statusDump "ok" none none details) =
      [("code", .null), ("details", .obj (sortMessage details)), ("message", .null),
        ("status", .str "ok")] := by
  simp [Tep.statusDump, Json.ofOption]

lemma sortMessage_reply (r : RLPRecords) (envelope : RLPEnvelope) (ids : NewIds) (payload : Obj) :
    sortMessage (r.reply envelope ids payload) =
      [("execution_id", .ofOption envelope.executionId), ("message_id", .str ids.reply),
        ("message_type", .str (envelope.messageType ++ "_response")),
        ("payload", .obj (sortMessage payload)), ("protocol", .str "rlp"),
        ("relay_session_id", .str r.relaySessionId),
        ("request_id", .str (orText envelope.requestId envelope.messageId)),
        ("source_relay_id", .str r.hostRelayId),
        ("target_relay_id", .ofOption envelope.sourceRelayId), ("version", .str "1.0")] := by
  simp [RLPRecords.reply]

/-- What a host greets a client with. -/
def greeting (side : HostSide) (c : ClientRelayRuntime) (newMessageId : String) (h : LinkHost) :
    Obj :=
  h.runtime.rlp.reply (helloEnvelope c newMessageId) (side.ids h.handled)
    (Tep.statusDump "ok" none none [("host_relay_id", .str h.runtime.rlp.hostRelayId)])

/-- Whom a client binds to. -/
def HostRelayRuntime.linkBinding (h : HostRelayRuntime) : Binding :=
  ⟨h.rlp.relaySessionId, h.rlp.hostRelayId⟩

/-- How a host answers a bind that is the `n`th message it handles. -/
def bindResponse (side : HostSide) (c : ClientRelayRuntime) (h : HostRelayRuntime) (details : Obj)
    (n : ℕ) : Obj :=
  h.rlp.reply (bindArrival c h.linkBinding) (side.ids n)
    (Tep.statusDump "ok" none none details)

/-- A host that goes on as it is, for whoever binds to it. -/
structure Kept (h h' : HostRelayRuntime) : Prop where
  registry : h'.registry = h.registry
  started : h'.base.started = h.base.started
  session : h'.rlp.relaySessionId = h.rlp.relaySessionId
  relay : h'.rlp.hostRelayId = h.rlp.hostRelayId
  token : h'.rlp.sessionToken = h.rlp.sessionToken

lemma Kept.rfl' (h : HostRelayRuntime) : Kept h h := ⟨rfl, rfl, rfl, rfl, rfl⟩

lemma Kept.trans {h₁ h₂ h₃ : HostRelayRuntime} (h : Kept h₁ h₂) (h' : Kept h₂ h₃) : Kept h₁ h₃ :=
  ⟨h'.registry.trans h.registry, h'.started.trans h.started, h'.session.trans h.session,
    h'.relay.trans h.relay, h'.token.trans h.token⟩

lemma respond_hello (hs : h.runtime.base.started = true) (newMessageId : String) :
    ∃ runtime, Kept h.runtime runtime ∧
      h.respond P side (sortMessage (c.helloMessage newMessageId))
        = (.ok (greeting side c newMessageId h), ⟨runtime, h.handled + 1⟩) := by
  have hx := @handleMessage_of_parse P (side.ids h.handled) ⟨h.runtime.registry, h.runtime.rlp⟩
    _ _ _ (parse_helloMessage P c newMessageId)
  refine ⟨(h.runtime.handleRlpMessage P (side.ids h.handled) (side.operationIds h.handled)
    (sortMessage (c.helloMessage newMessageId))).2, ?_, ?_⟩
  · unfold HostRelayRuntime.handleRlpMessage
    rw [BaseRelayRuntime.ensureStarted, if_pos hs, hx]
    exact ⟨rfl, rfl, rfl, rfl, rfl⟩
  · unfold LinkHost.respond HostRelayRuntime.handleRlpMessage
    rw [BaseRelayRuntime.ensureStarted, if_pos hs, hx]
    rfl

lemma respond_bind (hs : h.runtime.base.started = true) (htoken : h.runtime.rlp.sessionToken = none)
    {details : Obj} (hd : buildSnapshotDetails h.runtime.registry = .ok details) (hne : details ≠ []) :
    ∃ runtime, Kept h.runtime runtime ∧
      h.respond P side (sortMessage (c.bindMessage h.runtime.linkBinding))
        = (.ok (bindResponse side c h.runtime details h.handled), ⟨runtime, h.handled + 1⟩) := by
  have hx := @handleMessage_of_parse P (side.ids h.handled) ⟨h.runtime.registry, h.runtime.rlp⟩
    _ _ _ (parse_sort_bindMessage P c h.runtime.linkBinding)
  have hdispatch : RLPHandler.dispatch P (side.ids h.handled) ⟨h.runtime.registry, h.runtime.rlp⟩
      (bindArrival c h.runtime.linkBinding)
      (.bindSession ⟨h.runtime.rlp.relaySessionId, none, c.base.relayId⟩)
        = (.done (.ok (bindResponse side c h.runtime details h.handled)),
          ⟨h.runtime.registry, { h.runtime.rlp with
            boundClients := h.runtime.rlp.boundClients.insert c.base.relayId }⟩) := by
    obtain ⟨p, details, rfl⟩ := List.exists_cons_of_ne_nil hne
    have hsession : ¬ h.runtime.rlp.relaySessionId ≠ h.runtime.rlp.relaySessionId := not_not.mpr rfl
    have htoken' : ¬ (h.runtime.rlp.sessionToken ≠ none ∧ none ≠ h.runtime.rlp.sessionToken) :=
      fun ht => ht.1 htoken
    simp only [RLPHandler.dispatch, RLPHandler.bindSession, if_neg hsession, if_neg htoken', hd]
    rfl
  have hsession : h.runtime.linkBinding.hostSessionId = h.runtime.rlp.relaySessionId := rfl
  rw [hsession, hdispatch] at hx
  refine ⟨(h.runtime.handleRlpMessage P (side.ids h.handled) (side.operationIds h.handled)
    (sortMessage (c.bindMessage h.runtime.linkBinding))).2, ?_, ?_⟩
  · unfold HostRelayRuntime.handleRlpMessage
    rw [BaseRelayRuntime.ensureStarted, if_pos hs, hx]
    exact ⟨rfl, rfl, rfl, rfl, rfl⟩
  · unfold LinkHost.respond HostRelayRuntime.handleRlpMessage
    rw [BaseRelayRuntime.ensureStarted, if_pos hs, hx]

lemma bindReply_sorted (hc : c.base.started = true) (ids : NewIds) {b : Binding}
    {registry : RegistryStore} {response details : Obj}
    (hp : item (.obj response) "payload" = .ok (.obj (sortMessage
      (Tep.statusDump "ok" none none details))))
    (hs : ∀ message envelope, validateMessage message = .ok envelope →
      envelope.messageType = "tool_snapshot" → envelope.payload = sortMessage details →
        CarriesSnapshot P registry message) :
    c.bindReply P ids b (.returns response) = (.ended (.ok response), { c with
      registry := { toTables := registry.toTables.eraseOwner, revision := registry.revision } }) := by
  -- the same answer with its keys as the host has them, which is a case of binding to a host
  have hcarried := @bindReply_snapshot P c hc ids b registry
    [("payload", .obj (Tep.statusDump "ok" none none (sortMessage details)))]
    (sortMessage details) rfl hs
  have hresult := congrArg Prod.fst hcarried
  have hclient := congrArg Prod.snd hcarried
  rw [sortMessage_statusDump] at hp
  -- an attempt looks at the status and the details only
  have hbind : c.bindReply P ids b (.returns response)
      = (.ended ((c.handleRlpMessage P ids (ClientRelayRuntime.snapshotMessage b
          (.obj (sortMessage details)))).1.map fun _ => response),
        (c.handleRlpMessage P ids (ClientRelayRuntime.snapshotMessage b
          (.obj (sortMessage details)))).2) := by
    have hstatus : item (.obj [("code", .null), ("details", .obj (sortMessage details)),
      ("message", .null), ("status", .str "ok")]) "status" = .ok (.str "ok") := rfl
    have hdetails : item (.obj [("code", .null), ("details", .obj (sortMessage details)),
      ("message", .null), ("status", .str "ok")]) "details" = .ok (.obj (sortMessage details)) := rfl
    simp only [ClientRelayRuntime.bindReply, ClientRelayRuntime.bindOutcome, hp, hstatus, hdetails]
  have horiginal : c.bindReply P ids b (.returns
        [("payload", .obj (Tep.statusDump "ok" none none (sortMessage details)))])
      = (.ended ((c.handleRlpMessage P ids (ClientRelayRuntime.snapshotMessage b
          (.obj (sortMessage details)))).1.map fun _ =>
            [("payload", .obj (Tep.statusDump "ok" none none (sortMessage details)))]),
        (c.handleRlpMessage P ids (ClientRelayRuntime.snapshotMessage b
          (.obj (sortMessage details)))).2) := rfl
  rw [horiginal] at hresult hclient
  dsimp only at hclient
  have hended := ClientRelayRuntime.Attempt.ended.inj hresult
  obtain ⟨answer, hanswer, -⟩ := Json.map_eq_ok hended
  rw [hbind, hanswer, hclient]
  rfl

/-! ### The attempts -/

/-- The sizes at the two ends of a link. -/
def linkLimits (c : ClientRelayRuntime) (h : HostRelayRuntime) : TcpLimits :=
  ⟨c.tcpFramer, h.rlpFramer⟩

lemma bindResponse_kept {h h' : HostRelayRuntime} (hk : Kept h h') (details : Obj) (n : ℕ) :
    bindResponse side c h' details n = bindResponse side c h details n := by
  have hbinding : h'.linkBinding = h.linkBinding := by
    rw [HostRelayRuntime.linkBinding, hk.session, hk.relay, HostRelayRuntime.linkBinding]
  rw [bindResponse, bindResponse, hbinding, RLPRecords.reply, RLPRecords.reply, hk.session, hk.relay]

section
variable {unicodeDecodeError : Bytes → Exc} {details : Obj}

lemma tcpRequester_bind (P : Platform) (overrun : Bytes → String) (side : HostSide)
    (unicodeDecodeError : Bytes → Exc) (c₀ c : ClientRelayRuntime)
    (hs : h.runtime.base.started = true) (htoken : h.runtime.rlp.sessionToken = none)
    (hd : buildSnapshotDetails h.runtime.registry = .ok details) (hne : details ≠ [])
    (hw : Json.WellFormed F (.obj details)) :
    let J := pythonJson F unicodeDecodeError
    let limits := linkLimits c₀ h.runtime
    let request := c.bindMessage h.runtime.linkBinding
    let response := bindResponse side c h.runtime details h.handled
    let x := c₀.tcpRequester P J overrun side h request
    Kept h.runtime x.2.runtime ∧ (Arrives J limits request → x.2.handled = h.handled + 1) ∧
      (Arrives J limits request ∧ Returns J limits response →
        x.1 = .returns (sortMessage response)) ∧
      (¬ (Arrives J limits request ∧ Returns J limits response) → ∃ e, x.1 = .raises e) := by
  intro J limits request response x
  obtain ⟨runtime, hkept, hrespond⟩ := @respond_bind P side c h hs htoken details hd hne
  have hwell := wellFormed_bindMessage (F := F) c h.runtime.linkBinding
  obtain ⟨harrived, hlost, hok⟩ := tcpRoundTrip_cases P F unicodeDecodeError overrun limits
    (LinkHost.respond P side) h hwell fun answer hanswer => by
      rw [hrespond] at hanswer
      rw [← Except.ok.inj hanswer]
      exact wellFormed_reply _ _ _ hw
  rw [hrespond] at harrived hok
  have hx : x = (ClientRelayRuntime.ofResult (Runtime.tcpRoundTrip P J overrun limits
      (LinkHost.respond P side) h request).1,
    (Runtime.tcpRoundTrip P J overrun limits (LinkHost.respond P side) h request).2) := rfl
  rw [hx]
  refine ⟨?_, ?_, ?_, ?_⟩
  · by_cases harrives : Arrives J limits request
    · rw [harrived harrives]
      exact hkept
    · rw [hlost harrives]
      exact Kept.rfl' _
  · intro harrives
    rw [harrived harrives]
  · rintro ⟨harrives, hreturns⟩
    rw [(hok _).mpr ⟨harrives, response, rfl, hreturns, rfl⟩]
    rfl
  · intro hno
    cases hout : (Runtime.tcpRoundTrip P J overrun limits (LinkHost.respond P side) h request).1 with
    | error e => exact ⟨e, rfl⟩
    | ok answer =>
      obtain ⟨harrives, _, ⟨⟩, hreturns, -⟩ := (hok answer).mp hout
      exact absurd ⟨harrives, hreturns⟩ hno

/-- What a client holds of a host that it has bound to over TCP: its entries, with the keys of their
objects in order and without their owners. -/
def mirrored (registry : RegistryStore) : RegistryStore where
  toTables := (sortRegistry registry).toTables.eraseOwner
  revision := registry.revision

/-- How a bind over TCP ends: with the entries of the host, or stale with those there were. -/
structure BindEnds (h₀ : HostRelayRuntime) (registry : RegistryStore) (succeeds : Prop)
    (x : Except Exc Obj × ClientRelayRuntime × LinkHost) : Prop where
  kept : Kept h₀ x.2.2.runtime
  bound : succeeds → (∃ response, x.1 = .ok response) ∧ x.2.1.registry = mirrored h₀.registry
  failed : ¬ succeeds → (∃ e, x.1 = .error e) ∧ x.2.1.registry = registry.markStale

/-- The request of a bind arrives, and one of so many answers from this one on returns. -/
def TcpBindSucceeds (J : JsonModule Json Obj) (side : HostSide) (c₀ c : ClientRelayRuntime)
    (h₀ : HostRelayRuntime) (details : Obj) (handled attempts : ℕ) : Prop :=
  Arrives J (linkLimits c₀ h₀) (c.bindMessage h₀.linkBinding) ∧ ∃ i ≤ attempts,
    Returns J (linkLimits c₀ h₀) (bindResponse side c h₀ details (handled + i))

lemma bindAttempts_of_ended {S : Type} {requester : S → Obj → Outcome Obj × S} {ids : NewIds}
    {b : Binding} {s : S} {r : Except Exc Obj} {c' : ClientRelayRuntime}
    (h : c.bindReply P ids b (requester s (c.bindMessage b)).1 = (.ended r, c')) (n : ℕ) :
    ClientRelayRuntime.bindAttempts P requester ids b n c s
      = (r, c', (requester s (c.bindMessage b)).2) := by
  cases n with
  | zero => rw [ClientRelayRuntime.bindAttempts, h]
  | succ n => rw [ClientRelayRuntime.bindAttempts, h]

lemma linkBinding_kept {h h' : HostRelayRuntime} (hk : Kept h h') : h'.linkBinding = h.linkBinding := by
  rw [HostRelayRuntime.linkBinding, hk.session, hk.relay, HostRelayRuntime.linkBinding]

section
variable (P : Platform) (overrun : Bytes → String) (side : HostSide)
  (unicodeDecodeError : Bytes → Exc) (c₀ : ClientRelayRuntime) (ids : NewIds)
  {h₀ : HostRelayRuntime} (hs : h₀.base.started = true) (htoken : h₀.rlp.sessionToken = none)
  (hd : buildSnapshotDetails h₀.registry = .ok details) (hne : details ≠ [])
  (hw : Json.WellFormed F (.obj details))
  (hcarries : ∀ message envelope, validateMessage message = .ok envelope →
    envelope.messageType = "tool_snapshot" → envelope.payload = sortMessage details →
      CarriesSnapshot P (sortRegistry h₀.registry) message)

include hs htoken hd hne hw hcarries

lemma attempt_tcp (hc : c.base.started = true) (hk : Kept h₀ h.runtime) :
    let J := pythonJson F unicodeDecodeError
    let arrives := Arrives J (linkLimits c₀ h₀) (c.bindMessage h₀.linkBinding)
    let returns := Returns J (linkLimits c₀ h₀) (bindResponse side c h₀ details h.handled)
    let x := c₀.tcpRequester P J overrun side h (c.bindMessage h₀.linkBinding)
    Kept h₀ x.2.runtime ∧ (arrives → x.2.handled = h.handled + 1) ∧
      (arrives ∧ returns → ∃ response, c.bindReply P ids h₀.linkBinding x.1
        = (.ended (.ok response), { c with registry := mirrored h₀.registry })) ∧
      (¬ (arrives ∧ returns) → ∃ e, c.bindReply P ids h₀.linkBinding x.1
        = (.failed e, c.markStale)) := by
  obtain ⟨hkept, hhandled, hok, herror⟩ := tcpRequester_bind P overrun side unicodeDecodeError c₀ c
    (hk.started.trans hs) (hk.token.trans htoken) (by rw [hk.registry]; exact hd) hne hw
  have hlimits : linkLimits c₀ h.runtime = linkLimits c₀ h₀ := rfl
  rw [linkBinding_kept hk, hlimits] at hok herror hhandled
  rw [linkBinding_kept hk] at hkept
  rw [bindResponse_kept hk] at hok herror
  refine ⟨hk.trans hkept, hhandled, fun hreturns => ?_, fun hno => ?_⟩
  · rw [hok hreturns]
    refine ⟨_, bindReply_sorted hc ids ?_ hcarries⟩
    rw [bindResponse, sortMessage_reply]
    rfl
  · obtain ⟨e, he⟩ := herror hno
    rw [he]
    exact ⟨_, rfl⟩

lemma bindAttempts_tcp (n : ℕ) (hc : c.base.started = true) (hk : Kept h₀ h.runtime) :
    BindEnds h₀ c.registry
      (TcpBindSucceeds (pythonJson F unicodeDecodeError) side c₀ c h₀ details h.handled n)
      (ClientRelayRuntime.bindAttempts P
        (c₀.tcpRequester P (pythonJson F unicodeDecodeError) overrun side) ids h₀.linkBinding n c h)
      := by
  have hstep : ∀ {c : ClientRelayRuntime} {h : LinkHost}, c.base.started = true → Kept h₀ h.runtime → _ :=
    fun hc hk => attempt_tcp P overrun side unicodeDecodeError c₀ ids hs htoken hd hne hw hcarries hc hk
  dsimp only at hstep
  generalize c₀.tcpRequester P (pythonJson F unicodeDecodeError) overrun side = requester at hstep ⊢
  -- by induction on the attempts that are left; each starts from a host that has kept its registry
  induction n generalizing c h with
  | zero =>
    obtain ⟨hkept, -, hok, herror⟩ := hstep hc hk
    have hiff : TcpBindSucceeds (pythonJson F unicodeDecodeError) side c₀ c h₀ details h.handled 0 ↔
        Arrives (pythonJson F unicodeDecodeError) (linkLimits c₀ h₀)
            (c.bindMessage h₀.linkBinding) ∧
          Returns (pythonJson F unicodeDecodeError) (linkLimits c₀ h₀)
            (bindResponse side c h₀ details h.handled) := by
      simp [TcpBindSucceeds]
    by_cases hsucceeds : TcpBindSucceeds (pythonJson F unicodeDecodeError) side c₀ c h₀ details
        h.handled 0
    · obtain ⟨response, hended⟩ := hok (hiff.mp hsucceeds)
      rw [bindAttempts_of_ended hended]
      exact ⟨hkept, fun _ => ⟨⟨_, rfl⟩, rfl⟩, fun hno => absurd hsucceeds hno⟩
    · obtain ⟨e, hfailed⟩ := herror (hiff.not.mp hsucceeds)
      rw [ClientRelayRuntime.bindAttempts, hfailed]
      exact ⟨hkept, fun h => absurd h hsucceeds, fun _ => ⟨⟨_, rfl⟩, rfl⟩⟩
  | succ n ih =>
    obtain ⟨hkept, hhandled, hok, herror⟩ := hstep hc hk
    by_cases hfirst : Arrives (pythonJson F unicodeDecodeError) (linkLimits c₀ h₀)
            (c.bindMessage h₀.linkBinding) ∧
          Returns (pythonJson F unicodeDecodeError) (linkLimits c₀ h₀)
            (bindResponse side c h₀ details h.handled)
    · obtain ⟨response, hended⟩ := hok hfirst
      rw [bindAttempts_of_ended hended]
      exact ⟨hkept, fun _ => ⟨⟨_, rfl⟩, rfl⟩,
        fun hno => absurd ⟨hfirst.1, 0, Nat.zero_le _, hfirst.2⟩ hno⟩
    · obtain ⟨e, hfailed⟩ := herror hfirst
      rw [ClientRelayRuntime.bindAttempts, hfailed]
      have hrest := ih (c := c.markStale.attempt) hc hkept
      -- the first answer does not return, so a later one has to
      have hiff : TcpBindSucceeds (pythonJson F unicodeDecodeError) side c₀ c h₀ details h.handled
          (n + 1) ↔ TcpBindSucceeds (pythonJson F unicodeDecodeError) side c₀ c.markStale.attempt h₀
            details (requester h (c.bindMessage h₀.linkBinding)).2.handled n := by
        refine and_congr_right fun harrives => ?_
        have hno : ¬ Returns (pythonJson F unicodeDecodeError) (linkLimits c₀ h₀)
            (bindResponse side c h₀ details h.handled) := fun h => hfirst ⟨harrives, h⟩
        rw [hhandled harrives]
        constructor
        · rintro ⟨i, hi, hreturns⟩
          cases i with
          | zero => exact absurd hreturns hno
          | succ i => exact ⟨i, by omega, by rwa [Nat.add_right_comm]⟩
        · rintro ⟨i, hi, hreturns⟩
          exact ⟨i + 1, by omega, by rwa [← Nat.add_assoc, Nat.add_right_comm]⟩
      exact ⟨hrest.kept, fun h => hrest.bound (hiff.mp h), fun h => hrest.failed (hiff.not.mp h)⟩

end

end

/-! ### The automatic bind -/

lemma tcpRoundTrip_hello (P : Platform) (F : Json.FloatText) (unicodeDecodeError : Bytes → Exc)
    (overrun : Bytes → String) (side : HostSide) (c : ClientRelayRuntime)
    (hs : h.runtime.base.started = true) (newMessageId : String) :
    let J := pythonJson F unicodeDecodeError
    let x := c.tcpRoundTrip P J overrun side h (c.helloMessage newMessageId)
    let arrives := Arrives J (linkLimits c h.runtime) (c.helloMessage newMessageId)
    let returns := Returns J (linkLimits c h.runtime) (greeting side c newMessageId h)
    Kept h.runtime x.2.runtime ∧ (arrives → x.2.handled = h.handled + 1) ∧
      ∀ answer, x.1 = .ok answer ↔
        arrives ∧ returns ∧ answer = sortMessage (greeting side c newMessageId h) := by
  obtain ⟨runtime, hkept, hrespond⟩ := @respond_hello P side c h hs newMessageId
  have hhost : Json.WellFormed F (.obj [("host_relay_id", .str h.runtime.rlp.hostRelayId)]) :=
    wellFormed_obj (by simp) (by simp [wellFormed_str])
  obtain ⟨harrived, hlost, hok⟩ := tcpRoundTrip_cases P F unicodeDecodeError overrun
    (linkLimits c h.runtime) (LinkHost.respond P side) h (wellFormed_helloMessage c newMessageId)
    fun answer hanswer => by
      rw [hrespond] at hanswer
      rw [← Except.ok.inj hanswer]
      exact wellFormed_reply _ _ _ hhost
  rw [hrespond] at harrived hok
  have hx : c.tcpRoundTrip P (pythonJson F unicodeDecodeError) overrun side h
      (c.helloMessage newMessageId) = Runtime.tcpRoundTrip P (pythonJson F unicodeDecodeError)
        overrun (linkLimits c h.runtime) (LinkHost.respond P side) h
        (c.helloMessage newMessageId) := rfl
  rw [← hx] at harrived hlost hok
  dsimp only
  generalize c.tcpRoundTrip P (pythonJson F unicodeDecodeError) overrun side h
    (c.helloMessage newMessageId) = x at *
  refine ⟨?_, fun harrives => by rw [harrived harrives], fun answer => ?_⟩
  · by_cases harrives : Arrives (pythonJson F unicodeDecodeError) (linkLimits c h.runtime)
        (c.helloMessage newMessageId)
    · rw [harrived harrives]
      exact hkept
    · rw [hlost harrives]
      exact Kept.rfl' _
  · refine (hok answer).trans (and_congr_right fun _ => ?_)
    constructor
    · rintro ⟨_, ⟨⟩, hreturns, rfl⟩
      exact ⟨hreturns, rfl⟩
    · rintro ⟨hreturns, rfl⟩
      exact ⟨_, rfl, hreturns, rfl⟩

/-- The host greets the client, and has an identity to bind to. -/
def Greets (J : JsonModule Json Obj) (side : HostSide) (c : ClientRelayRuntime)
    (newMessageId : String) (h : LinkHost) : Prop :=
  Arrives J (linkLimits c h.runtime) (c.helloMessage newMessageId) ∧
    Returns J (linkLimits c h.runtime) (greeting side c newMessageId h) ∧
    h.runtime.rlp.relaySessionId ≠ "" ∧ h.runtime.rlp.hostRelayId ≠ ""

lemma messageText_greeting (P : Platform) (side : HostSide) (c : ClientRelayRuntime)
    (newMessageId : String) (h : LinkHost) :
    (⟨HostRelayRuntime.messageText P (sortMessage (greeting side c newMessageId h))
        "relay_session_id",
      HostRelayRuntime.messageText P (sortMessage (greeting side c newMessageId h))
        "source_relay_id"⟩ : Binding) = h.runtime.linkBinding := by
  rw [greeting, sortMessage_reply, messageText_of_get rfl, messageText_of_get rfl]
  rfl

lemma autoBind_of_error {newMessageId : String} {ids : NewIds} {e : Exc} {h' : LinkHost}
    (hx : c.tcpRoundTrip P J overrun side h (c.helloMessage newMessageId) = (.error e, h')) :
    c.autoBindTcpRelayLink P J overrun side newMessageId ids h = (.error e, c, h') := by
  rw [ClientRelayRuntime.autoBindTcpRelayLink, hx]

lemma autoBind_of_ok {newMessageId : String} {ids : NewIds} {hello : Obj} {h' : LinkHost}
    (hx : c.tcpRoundTrip P J overrun side h (c.helloMessage newMessageId) = (.ok hello, h'))
    {b : Binding} (hb : (⟨HostRelayRuntime.messageText P hello "relay_session_id",
      HostRelayRuntime.messageText P hello "source_relay_id"⟩ : Binding) = b) :
    let x := c.bindViaRequester P (c.tcpRequester P J overrun side) h' b ids
    c.autoBindTcpRelayLink P J overrun side newMessageId ids h =
      if b.hostSessionId = "" ∨ b.hostRelayId = "" then
        (.error ClientRelayRuntime.helloFailed, c, h')
      else (x.1.map fun _ => (), x.2) := by
  subst hb
  rw [ClientRelayRuntime.autoBindTcpRelayLink, hx]

/-- **Binding over TCP.** To a host that is up, whatever has happened to it, the automatic bind
succeeds exactly if the greeting and the bind get through: the client holds the host's entries then,
with their keys in order and without owners, at the host's revision. Where only the greeting gets
through the client is stale and keeps its entries; where that does not, nothing happens to it. The
host's registry is never touched. -/
theorem autoBind_over_tcp (P : Platform) (F : Json.FloatText) (unicodeDecodeError : Bytes → Exc)
    (overrun : Bytes → String) (side : HostSide) (relayId sessionId : String) (config : RelayConfig)
    {es : List HostEvent} (hes : ∀ e ∈ es, e.Held F) {host : HostRelayRuntime}
    (hrun : Run.run (HostRelayRuntime.step P)
      (HostRelayRuntime.create relayId sessionId config).start es = some host)
    (hs : host.base.started = true) (handled : ℕ) (hc : c.base.started = true)
    (newMessageId : String) (ids : NewIds) :
    let J := pythonJson F unicodeDecodeError
    let x := c.autoBindTcpRelayLink P J overrun side newMessageId ids ⟨host, handled⟩
    ∃ details, buildSnapshotDetails host.registry = .ok details ∧
      let greeted := Greets J side c newMessageId ⟨host, handled⟩
      let bound := TcpBindSucceeds J side c c host details (handled + 1) c.base.config.reconnectAttempts
      Kept host x.2.2.runtime ∧
        (greeted ∧ bound → x.1 = .ok () ∧ x.2.1.registry = mirrored host.registry) ∧
        (greeted ∧ ¬ bound → (∃ e, x.1 = .error e) ∧ x.2.1.registry = c.registry.markStale) ∧
        (¬ greeted → (∃ e, x.1 = .error e) ∧ x.2.1 = c) := by
  intro J x
  have hreadable := (readable_create F relayId sessionId config).run hes hrun
  obtain ⟨args, hd, hcarries⟩ :=
    buildSnapshotDetails_sorted (P := P) (dumped_of_wellFormed hreadable.entries)
  refine ⟨_, hd, ?_⟩
  have hw := wellFormed_snapshotDetails hreadable.entries args
  have hne : snapshotDetails host.registry args ≠ [] := by simp [snapshotDetails]
  obtain ⟨hkept, hhandled, hok⟩ := tcpRoundTrip_hello P F unicodeDecodeError overrun side c
    (h := ⟨host, handled⟩) hs newMessageId
  have hJ : pythonJson F unicodeDecodeError = J := rfl
  have hx : x = c.autoBindTcpRelayLink P J overrun side newMessageId ids ⟨host, handled⟩ := rfl
  rw [hJ] at hkept hhandled hok
  clear_value x J
  subst hx
  cases hy : c.tcpRoundTrip P J overrun side ⟨host, handled⟩ (c.helloMessage newMessageId) with
  | mk outcome h' =>
  rw [hy] at hkept hhandled hok
  cases outcome with
  -- the greeting does not get through, and the client stays as it was
  | error e =>
    have hno : ¬ Greets J side c newMessageId ⟨host, handled⟩ := fun hgreets => by
      cases (hok _).mpr ⟨hgreets.1, hgreets.2.1, rfl⟩
    rw [autoBind_of_error hy]
    exact ⟨hkept, fun h => absurd h.1 hno, fun h => absurd h.1 hno, fun _ => ⟨⟨e, rfl⟩, rfl⟩⟩
  | ok hello =>
    obtain ⟨harrives, hreturns, rfl⟩ := (hok hello).mp rfl
    rw [autoBind_of_ok hy (messageText_greeting P side c newMessageId ⟨host, handled⟩)]
    by_cases hnone : host.linkBinding.hostSessionId = "" ∨ host.linkBinding.hostRelayId = ""
    -- it gets through from a host without a session or a name
    · have hno : ¬ Greets J side c newMessageId ⟨host, handled⟩ := fun h =>
        hnone.elim h.2.2.1 h.2.2.2
      rw [if_pos hnone]
      exact ⟨hkept, fun h => absurd h.1 hno, fun h => absurd h.1 hno, fun _ => ⟨⟨_, rfl⟩, rfl⟩⟩
    -- the client asks for a bind, so its mirror is stale until an answer returns
    · have hyes : Greets J side c newMessageId ⟨host, handled⟩ :=
        ⟨harrives, hreturns, fun h => hnone (Or.inl h), fun h => hnone (Or.inr h)⟩
      rw [if_neg hnone]
      have hbind := bindAttempts_tcp P overrun side unicodeDecodeError c ids hs hreadable.tokenless hd
        hne hw hcarries c.base.config.reconnectAttempts (c := c.bindStart host.linkBinding) hc hkept
      rw [hJ, hhandled harrives] at hbind
      rw [ClientRelayRuntime.bindViaRequester]
      generalize ClientRelayRuntime.bindAttempts P (c.tcpRequester P J overrun side) ids
        host.linkBinding c.base.config.reconnectAttempts (c.bindStart host.linkBinding) h' = z
        at hbind ⊢
      refine ⟨hbind.kept, fun hbound => ?_, fun hunbound => ?_, fun hno => absurd hyes hno⟩
      · obtain ⟨⟨response, hresponse⟩, hmirror⟩ := hbind.bound hbound.2
        exact ⟨by rw [hresponse]; rfl, hmirror⟩
      · obtain ⟨⟨e, he⟩, hmirror⟩ := hbind.failed hunbound.2
        exact ⟨⟨e, by rw [he]; rfl⟩, hmirror⟩

/-! A host whose executor has registered a tool. -/

lemma arrives_of_room {unicodeDecodeError : Bytes → Exc} {limits : TcpLimits} {message : Obj}
    (hdumps : ∃ text, Json.dumps (.obj message) = .ok text)
    (hroom : HasRoom limits.client message ∧ HasRoom limits.host message) :
    Arrives (pythonJson F unicodeDecodeError) limits message :=
  ⟨exists_encode hdumps hroom.1.2.le, hroom.2⟩

lemma returns_of_room {unicodeDecodeError : Bytes → Exc} {limits : TcpLimits} {answer : Obj}
    (hdumps : ∃ text, Json.dumps (.obj answer) = .ok text)
    (hroom : HasRoom limits.client answer ∧ HasRoom limits.host answer) :
    Returns (pythonJson F unicodeDecodeError) limits answer :=
  ⟨exists_encode hdumps hroom.2.2.le, hroom.1⟩

lemma wellFormed_registerTwice : Json.WellFormed F (.obj Tep.registerTwice) := by
  have htool : Json.WellFormed F
      (.obj [("name", .str "a"), ("description", .str ""), ("input_schema", .obj [])]) :=
    ⟨by decide, trivial, trivial, Tep.wellFormed_nil, trivial⟩
  have hpayload : Json.WellFormed F (.obj [("tools", .arr [
      .obj [("name", .str "a"), ("description", .str ""), ("input_schema", .obj [])],
      .obj [("name", .str "a"), ("description", .str ""), ("input_schema", .obj [])]])]) :=
    ⟨by decide, ⟨htool, htool, trivial⟩, trivial⟩
  exact ⟨by decide, trivial, trivial, trivial, trivial, hpayload, trivial⟩

/-- Both ends draw short ids. -/
def plainSide : HostSide where
  ids _ := ⟨"r", "g"⟩
  operationIds _ := ⟨"m", "e"⟩
  forwarded h := (.error (.transportError "stdio transport is closed"), h)

attribute [local irreducible] ClientRelayRuntime.autoBindTcpRelayLink

theorem autoBind_over_tcp_registered :
    let client := (ClientRelayRuntime.create "client" "session").start
    let host := ((HostRelayRuntime.create "host" "session").start.handleExecutorStdioMessage
      .strict "n" Tep.registerTwice).2
    (client.autoBindTcpRelayLink .strict verbatimJson (fun _ => "overrun") plainSide "m"
        ⟨"r", "g"⟩ ⟨host, 0⟩).1 = .ok () ∧
      (client.autoBindTcpRelayLink .strict verbatimJson (fun _ => "overrun") plainSide "m"
        ⟨"r", "g"⟩ ⟨host, 0⟩).2.1.registry = mirrored host.registry := by
  intro client host
  have hes : ∀ e ∈ [HostEvent.executor "n" Tep.registerTwice], e.Held .verbatim :=
    List.forall_mem_singleton.mpr wellFormed_registerTwice
  have hrun : Run.run (HostRelayRuntime.step .strict) (HostRelayRuntime.create "host" "session").start
      [.executor "n" Tep.registerTwice] = some host := rfl
  have hdetails : buildSnapshotDetails host.registry = .ok [("registry_revision", .int 1),
    ("tools", .arr [.obj [("name", .str "a"), ("description", .str ""), ("input_schema", .obj []),
      ("metadata", .obj [])]]), ("resources", .arr []), ("prompts", .arr [])] := rfl
  obtain ⟨details, hd, -, hbound, -⟩ := autoBind_over_tcp .strict .verbatim
    (fun _ => .valueError "'utf-8' codec can't decode") (fun _ => "overrun") plainSide "host" "session"
    {} hes hrun rfl 0 (c := client) rfl "m" ⟨"r", "g"⟩
  obtain rfl := Except.ok.inj (hd.symm.trans hdetails)
  exact hbound ⟨⟨arrives_of_room ⟨_, rfl⟩ (by decide +kernel), returns_of_room ⟨_, rfl⟩
    (by decide +kernel), by decide, by decide⟩, arrives_of_room ⟨_, rfl⟩ (by decide +kernel), 0,
    Nat.zero_le _, returns_of_room ⟨_, rfl⟩ (by decide +kernel)⟩

end NaiaRelay.Runtime
