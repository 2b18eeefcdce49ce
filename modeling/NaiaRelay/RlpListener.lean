import NaiaRelay.Correlation
import NaiaRelay.HostLink
import NaiaRelay.Lib.Deferral
import NaiaRelay.TcpLink

set_option autoImplicit false

/-!
The host's listener on the relay link, with all its connections.

A connection's line is read and its message handled in one go, unless the message is forwarded to
the executor: then the connection waits for that operation to end, and the host goes on with the
other connections and with the executor.
-/

namespace NaiaRelay.Runtime

open NaiaRelay.Registry NaiaRelay.Rlp NaiaRelay.Transports
open Deferral (Handling)

/-- What the message of an operation was answered with, once it has been. -/
def ExecutorOperation.answer (op : ExecutorOperation) : Option (Except Exc Obj) :=
  match op.phase with
  | .ended answer => some answer
  | _ => none

section
variable (P : Platform) (J : JsonModule Json Obj) (overrun : Bytes → String)

/-- The loop of `handle_client` in `_start_rlp_listener`, as the connections share it: a message is
answered at once, or the answer waits for the operation that is started for it. -/
def rlpListener : Deferral.Server (Option Exc) Exc HostRelayRuntime Obj ℕ
    (NewIds × OperationIds) HostEvent where
  handle h ids message :=
    (h.step P (.rlp ids.1 ids.2 message)).map fun h' =>
      match (h.handleRlpMessage P ids.1 ids.2 message).1 with
      | .answered answer => (.answered answer, h')
      | .forwarded => (.deferred h.link.operations.length, h')
  other h e :=
    match e with
    | .rlp _ _ _ => none
    | e => h.step P e
  answer h i := (h.link.operations[i]?).bind (·.answer)
  unreadable
    | none => .ok ()
    | some e => .error e

/-- The host and its connections. -/
abbrev RlpConnections := Deferral.Pool Exc HostRelayRuntime UInt8 ℕ

abbrev RlpListenerEvent := Deferral.Event UInt8 (NewIds × OperationIds) HostEvent

/-- What the connections read and write: lines of at most what the host's framer takes. -/
def rlpLines : Service.Wire (Option Exc) Exc Obj UInt8 :=
  rlpWire P J overrun defaultMaxMessageSizeBytes

def rlpConnectionsStep : RlpConnections → RlpListenerEvent → Option RlpConnections :=
  Deferral.Pool.step (rlpLines P J overrun) (rlpListener P)

/-- A message of a connection, with the host that met it and the ids that were drawn for it. -/
abbrev RlpReading := Deferral.Reading HostRelayRuntime (NewIds × OperationIds) Obj

end

/-! ### What a message is answered with -/

section
variable (P : Platform)

/-- What the handler of the host that met the message does with it. -/
def RlpReading.call (asked : RlpReading) : Rlp.Call :=
  ((⟨asked.state.registry, asked.state.rlp⟩ : RLPHandler).handleMessage P asked.choice.1
    asked.message).1

/-- What the host that met the message makes of it. -/
def RlpReading.handling (asked : RlpReading) : RlpHandling :=
  (asked.state.handleRlpMessage P asked.choice.1 asked.choice.2 asked.message).1

/-- The number of the operation that is started for the message, if it is forwarded. -/
def RlpReading.operation (asked : RlpReading) : ℕ := asked.state.link.operations.length

/-- The answer is what the call for the message has ended in, if that is a response. -/
def EndsCall (asked : RlpReading) (answer : Except Exc Obj) : Prop :=
  ∀ response, answer = .ok response → (asked.call P).EndsIn (.ok response)

/-- The operation is what the call for this message waits for. -/
def Carries (asked : RlpReading) (op : ExecutorOperation) : Prop :=
  (∃ operation, asked.call P = .await operation op.resume) ∧
  ∀ response, op.answer = some (.ok response) → ∃ outcome, op.resume outcome = .ok response

/-- The operation is the one that was started for this message. -/
structure CarriedOut (h : HostRelayRuntime) (asked : RlpReading) (op : ExecutorOperation) :
    Prop where
  forwarded : asked.handling P = .forwarded
  own : h.link.operations[asked.operation]? = some op
  carries : Carries P asked op

/-- The message has this answer: it was given at once, or the operation that was started for the
message has ended in it. -/
def AnsweredWith (h : HostRelayRuntime) (asked : RlpReading) (answer : Except Exc Obj) : Prop :=
  asked.handling P = .answered answer ∨ ∃ op, CarriedOut P h asked op ∧ op.answer = some answer

/-- The response says that the message tells of a change that is not the next one of the registry it
met. -/
def GapReported (asked : RlpReading) (response : Obj) : Prop :=
  Obj.get response "message_type" = some (.str "revision_gap_response") ∧
    ∃ envelope payload, parse P asked.message = some (envelope, payload) ∧
      ReportsGap asked.state.registry payload

end

variable {P : Platform} {h h' : HostRelayRuntime} {message : Obj} {asked : RlpReading}

lemma EndsCall.correlated {response : Obj} (hends : EndsCall P asked (.ok response)) :
    Correlated "target_relay_id" "source_relay_id" asked.message response ∨
      GapReported P asked response := by
  replace hends := hends response rfl
  unfold RlpReading.call at hends
  cases hv : validateMessage asked.message with
  | error e =>
    unfold RLPHandler.handleMessage at hends
    rw [hv] at hends
    cases hends
  | ok envelope =>
    by_cases hgap : ∃ payload, parse P asked.message = some (envelope, payload) ∧
        ReportsGap asked.state.registry payload
    · obtain ⟨payload, hp, hgap⟩ := hgap
      obtain ⟨reply, hreply, htype⟩ : ∃ reply,
          (RLPHandler.dispatch P asked.choice.1 ⟨asked.state.registry, asked.state.rlp⟩ envelope
            payload).1 = .done (.ok reply) ∧
            Obj.get reply "message_type" = some (.str "revision_gap_response") := gap_reply hgap
      rw [handleMessage_of_parse hp, hreply] at hends
      obtain rfl := Except.ok.inj hends
      exact Or.inr ⟨htype, envelope, payload, hp, hgap⟩
    · exact Or.inl ((correlated_handleMessage_iff asked.choice.1
        ⟨asked.state.registry, asked.state.rlp⟩ hv).mpr
          (fun payload hp hg => hgap ⟨payload, hp, hg⟩) response hends)

/-! ### The operations -/

variable {l l' : ExecutorLink} {ε : LinkEvent} {i : ℕ} {op op' : ExecutorOperation}

lemma Carries.turn (h : Carries P asked op) (hresume : op'.resume = op.resume)
    (ht : op.Turn l i ε op') : Carries P asked op' := by
  obtain ⟨⟨operation, hcall⟩, hanswer⟩ := h
  refine ⟨⟨operation, by rw [hresume, hcall]⟩, fun response hr => ?_⟩
  rw [hresume]
  cases ht with
  | spared => exact hanswer response hr
  | settled outcome | detached =>
    refine hanswer response ?_
    simpa only [ExecutorOperation.answer, ExecutorOperation.phase_settle] using hr
  | unattached | unsent | resumed => exact ⟨_, Option.some.inj hr⟩
  | acquired | sent => cases hr
  | timedOut timeout outer =>
    cases outer with
    | true => cases hr
    | false => exact ⟨_, Option.some.inj hr⟩
  | cancelled => cases hr

lemma answer_turn {answer : Except Exc Obj} (h : op.answer = some answer)
    (ht : op.Turn l i ε op') : op'.answer = some answer := by
  cases ht with
  | spared => exact h
  | settled outcome | detached =>
    simpa only [ExecutorOperation.answer, ExecutorOperation.phase_settle] using h
  | unattached hp | acquired t hp | sent hp | unsent e hp | resumed outcome hp
  | timedOut timeout outer hp =>
    rw [ExecutorOperation.answer, hp] at h
    cases h
  | cancelled timeout outer hp =>
    rcases hp with hp | hp <;> rw [ExecutorOperation.answer, hp] at h <;> cases h

lemma CarriedOut.step {e : HostEvent} (hw : h.link.Wf) (hstep : h.step P e = some h')
    (hc : CarriedOut P h asked op) : ∃ op', CarriedOut P h' asked op' ∧
      ∀ answer, op.answer = some answer → op'.answer = some answer := by
  obtain ⟨hforwarded, hop, hcarries⟩ := hc
  rcases link_step_cases hstep with ⟨-, hl⟩ | ⟨ε, -, hl⟩
  · exact ⟨op, ⟨hforwarded, by rw [hl]; exact hop, hcarries⟩, fun _ => id⟩
  · have hturn := ExecutorLink.turn_after hl hop
    exact ⟨_, ⟨hforwarded, ExecutorLink.getElem?_step hw hl hop,
      hcarries.turn (ExecutorLink.sameCall_after op h.link _ ε).resume hturn⟩,
      fun _ hanswer => answer_turn hanswer hturn⟩

lemma AnsweredWith.step {e : HostEvent} (hw : h.link.Wf) (hstep : h.step P e = some h')
    {answer : Except Exc Obj} (ha : AnsweredWith P h asked answer) : AnsweredWith P h' asked answer := by
  refine ha.imp_right ?_
  rintro ⟨op, hc, hanswer⟩
  obtain ⟨op', hc', hkept⟩ := hc.step hw hstep
  exact ⟨op', hc', hkept answer hanswer⟩

lemma getElem?_handleRlpMessage {ids : NewIds} {operationIds : OperationIds}
    (hop : h.link.operations[i]? = some op) :
    (h.handleRlpMessage P ids operationIds message).2.link.operations[i]? = some op := by
  rw [link_handleRlpMessage]
  split
  · exact hop
  · exact (List.getElem?_append_left (List.getElem?_eq_some_iff.mp hop).1).trans hop

lemma handleRlpMessage_cases (h : HostRelayRuntime) (ids : NewIds × OperationIds) (message : Obj) :
    (∃ answer, (h.handleRlpMessage P ids.1 ids.2 message).1 = .answered answer ∧
        EndsCall P ⟨h, ids, message⟩ answer) ∨
      (h.handleRlpMessage P ids.1 ids.2 message).1 = .forwarded ∧
        ∃ op, (h.handleRlpMessage P ids.1 ids.2 message).2.link.operations
            = h.link.operations ++ [op] ∧ Carries P ⟨h, ids, message⟩ op ∧ op.answer = none := by
  unfold EndsCall Carries RlpReading.call HostRelayRuntime.handleRlpMessage
  cases h.base.ensureStarted with
  | error e => exact Or.inl ⟨_, rfl, nofun⟩
  | ok u =>
    dsimp only
    cases hcall : (RLPHandler.handleMessage P ids.1 ⟨h.registry, h.rlp⟩ message).1 with
    | done answer =>
      refine Or.inl ⟨answer, rfl, ?_⟩
      rintro response rfl
      rfl
    | await operation resume =>
      cases h.link.transport with
      | none =>
        exact Or.inl ⟨_, rfl, fun response hresponse => ⟨_, hresponse⟩⟩
      | some t =>
        refine Or.inr ⟨rfl, h.forward ids.2 operation resume, rfl, ?_, ?_⟩
        · have hresume : (h.forward ids.2 operation resume).resume = resume := by
            rw [(forward_eq h ids.2 operation resume).1]
          have hnone : (h.forward ids.2 operation resume).answer = none := by
            rw [(forward_eq h ids.2 operation resume).1]
            rfl
          refine ⟨⟨operation, by rw [hresume]⟩, fun response hr => ?_⟩
          rw [hnone] at hr
          cases hr
        · rw [(forward_eq h ids.2 operation resume).1]
          rfl

lemma AnsweredWith.endsCall {answer : Except Exc Obj} (ha : AnsweredWith P h asked answer) :
    EndsCall P asked answer := by
  rcases ha with ha | ⟨op, ⟨-, -, ⟨operation, hcall⟩, hended⟩, hanswer⟩
  · rcases handleRlpMessage_cases (P := P) asked.state asked.choice asked.message with
      ⟨answer', hanswer, hends⟩ | ⟨hforwarded, -⟩
    · obtain rfl := RlpHandling.answered.inj (ha.symm.trans hanswer)
      exact hends
    · cases ha.symm.trans hforwarded
  · rintro response rfl
    rw [hcall]
    exact hended response hanswer

/-! ### The listener -/

lemma rlpListener_handle {ids : NewIds × OperationIds} {x : Handling Exc Obj ℕ}
    (hx : (rlpListener P).handle h ids message = some (x, h')) :
    h.step P (.rlp ids.1 ids.2 message) = some h' ∧
      h' = (h.handleRlpMessage P ids.1 ids.2 message).2 := by
  obtain ⟨t, hstep, ht⟩ := Option.map_eq_some_iff.mp hx
  have hafter : t = (h.handleRlpMessage P ids.1 ids.2 message).2 := by
    simp only [HostRelayRuntime.step] at hstep
    split_ifs at hstep
    exact (Option.some.inj hstep).symm
  have hstate : t = h' := by
    generalize (h.handleRlpMessage P ids.1 ids.2 message).1 = handled at ht
    cases handled <;> exact (Prod.mk.inj ht).2
  rw [← hstate]
  exact ⟨hstep, hafter⟩

lemma rlpListener_handle_cases {ids : NewIds × OperationIds} {x : Handling Exc Obj ℕ}
    (hx : (rlpListener P).handle h ids message = some (x, h')) :
    (∃ answer, x = .answered answer ∧ AnsweredWith P h' ⟨h, ids, message⟩ answer) ∨
      x = .deferred h.link.operations.length ∧
        ∃ op, CarriedOut P h' ⟨h, ids, message⟩ op ∧ op.answer = none := by
  have hafter := (rlpListener_handle hx).2
  obtain ⟨t, -, ht⟩ := Option.map_eq_some_iff.mp hx
  rcases handleRlpMessage_cases (P := P) h ids message with
    ⟨answer, hanswer, hends⟩ | ⟨hforwarded, op, hops, hcarries, hnone⟩
  · rw [hanswer] at ht
    exact Or.inl ⟨answer, (Prod.mk.inj ht).1.symm, Or.inl hanswer⟩
  · rw [hforwarded] at ht
    have hop : h'.link.operations[h.link.operations.length]? = some op := by
      rw [hafter, hops]
      exact List.getElem?_concat_length
    exact Or.inr ⟨(Prod.mk.inj ht).1.symm, op, ⟨hforwarded, hop, hcarries⟩, hnone⟩

lemma rlpListener_answer (h : HostRelayRuntime) (i : ℕ) :
    (rlpListener P).answer h i = (h.link.operations[i]?).bind (·.answer) := rfl

lemma rlpListener_other {e : HostEvent} (he : (rlpListener P).other h e = some h') :
    h.step P e = some h' := by
  cases e with
  | rlp => cases he
  | _ => exact he

/-- **The listener keeps to the rules.** -/
lemma rlpListener_rules (P : Platform) :
    Deferral.Rules (rlpListener P) (fun h => h.link.Wf) (AnsweredWith P)
      (fun h (asked : RlpReading) i => i = asked.operation ∧ ∃ op, CarriedOut P h asked op) where
  good_handle hw hx := wf_link_step hw (rlpListener_handle hx).1
  good_other hw he := wf_link_step hw (rlpListener_other he)
  answered _ hx := by
    obtain ⟨answer, hanswer, hends⟩ | ⟨hno, -⟩ := rlpListener_handle_cases hx
    · obtain rfl := Handling.answered.inj hanswer
      exact hends
    · cases hno
  deferred {s s' choice message _} _ hx := by
    obtain ⟨answer, hno, -⟩ | ⟨hticket, op, hc, hnone⟩ := rlpListener_handle_cases hx
    · cases hno
    · obtain rfl := Handling.deferred.inj hticket
      have hop : s'.link.operations[s.link.operations.length]? = some op := hc.own
      refine ⟨⟨rfl, op, hc⟩, by rw [rlpListener_answer, hop]; exact hnone, ?_⟩
      -- an earlier message has an operation that was there already
      rintro asked ⟨heq, op', hc'⟩
      have hlt := (List.getElem?_eq_some_iff.mp hc'.own).1
      omega
  handle hw hx hc := by
    obtain ⟨hstep, hafter⟩ := rlpListener_handle hx
    obtain ⟨rfl, op, hc⟩ := hc
    obtain ⟨op', hc', -⟩ := hc.step hw hstep
    refine ⟨⟨rfl, op', hc'⟩, ?_⟩
    rw [rlpListener_answer, rlpListener_answer, hafter, hc.own, getElem?_handleRlpMessage hc.own]
  other hw he hc := by
    obtain ⟨rfl, op, hc⟩ := hc
    obtain ⟨op', hc', -⟩ := hc.step hw (rlpListener_other he)
    exact ⟨rfl, op', hc'⟩
  settled hc hanswer := by
    obtain ⟨rfl, op, hc⟩ := hc
    rw [rlpListener_answer, hc.own] at hanswer
    exact Or.inr ⟨op, hc, hanswer⟩
  fits_handle hw hx ha := ha.step hw (rlpListener_handle hx).1
  fits_other hw he ha := ha.step hw (rlpListener_other he)

/-- A client's connection so far: what it has read in this run and has been answered, the answers,
and what it waits with. -/
structure RlpConversation (P : Platform) (J : JsonModule Json Obj) (overrun : Bytes → String)
    (trace : List (RlpConnections × RlpListenerEvent)) (h : HostRelayRuntime) (k : ℕ)
    (stream : Bytes) (c : Deferral.Connection Exc UInt8 ℕ) (done : List RlpReading)
    (answers : List (Except Exc Obj)) (current : Option RlpReading) : Prop where
  read : Deferral.readings (rlpLines P J overrun) k trace = done ++ current.toList
  taken : (Service.received (rlpLines P J overrun) stream).1
    = (done ++ current.toList).map Deferral.Reading.message
      ++ (Service.received (rlpLines P J overrun) c.rest).1
  written : c.written
    = (answers.filterMap Except.toOption).flatMap (Service.frame (rlpLines P J overrun))
  answered : List.Forall₂ (AnsweredWith P h) done answers
  correlated : List.Forall₂ (fun asked answer => ∀ response, answer = .ok response →
    Correlated "target_relay_id" "source_relay_id" asked.message response ∨
      GapReported P asked response) done answers
  sendable : c.ending = none → ∀ answer ∈ answers, Deferral.Sendable (rlpLines P J overrun) answer
  waits : Option.Rel (fun (asked : RlpReading) i => i = asked.operation ∧
    ∃ op, CarriedOut P h asked op ∧ op.Running) current c.waiting

/-- The clients at a host after these events: each connection has its conversation, and no two wait
for the same operation. -/
structure RlpConversing (P : Platform) (J : JsonModule Json Obj) (overrun : Bytes → String)
    (start : HostRelayRuntime) (es : List RlpListenerEvent) (p : RlpConnections) : Prop where
  conversations : ∀ (k : ℕ) (c : Deferral.Connection Exc UInt8 ℕ), p.connections[k]? = some c →
    ∃ stream done answers current, (es.filterMap Deferral.Event.stream)[k]? = some stream ∧
      RlpConversation P J overrun (Run.trace (rlpConnectionsStep P J overrun) ⟨start, []⟩ es)
        p.state k stream c done answers current
  apart : ∀ (j k : ℕ) (c d : Deferral.Connection Exc UInt8 ℕ) (i : ℕ), p.connections[j]? = some c →
    p.connections[k]? = some d → c.waiting = some i → d.waiting = some i → j = k

/-- **Clients at one host.** However many connections there are, and however their lines, the
forwarded operations and the executor's messages are interleaved: each connection has been written,
in the order of its lines, one answer for each message that has been answered, and takes the next
line only then. Each answer is the one the host that met the message gave at once, or what the
operation it started for the message has ended in, and is about that message or reports that it tells
of a change that is not the next one. A connection that has no answer yet waits for its operation,
which still runs, so no answer is held back, and one that is open has failed on none of its
answers. -/
theorem rlp_connections_converse (P : Platform) (J : JsonModule Json Obj) (overrun : Bytes → String)
    (relayId sessionId : String) (config : RelayConfig) {es : List RlpListenerEvent}
    {p : RlpConnections}
    (hrun : Run.run (rlpConnectionsStep P J overrun)
      ⟨(HostRelayRuntime.create relayId sessionId config).start, []⟩ es = some p) :
    RlpConversing P J overrun (HostRelayRuntime.create relayId sessionId config).start es p := by
  have hall := Deferral.conversing_of_run (rlpListener_rules P) ExecutorLink.wf_empty hrun
  have hstreams : Deferral.streams (Run.trace (rlpConnectionsStep P J overrun)
      ⟨(HostRelayRuntime.create relayId sessionId config).start, []⟩ es)
        = es.filterMap Deferral.Event.stream := by
    conv_rhs => rw [← Run.trace_map_snd hrun, List.filterMap_map]
    rfl
  refine ⟨fun k c hk => ?_, fun j k c d i hj hk hc hd => hall.apart hj hk hc hd⟩
  obtain ⟨stream, hstream, done, answers, current, hread, hc⟩ := hall.each k c hk
  refine ⟨stream, done, answers, current, hstreams ▸ hstream, hread, hc.taken, hc.written, hc.fits,
    ?_, hc.sendable, ?_⟩
  · refine hc.fits.imp fun asked answer hanswered response hresponse => ?_
    subst hresponse
    exact hanswered.endsCall.correlated
  · have hwaits := hc.waits
    generalize c.waiting = waiting at hwaits
    cases hwaits with
    | none => exact .none
    | some hboth =>
      -- an operation that has ended would have been delivered
      obtain ⟨⟨rfl, op, hcarried⟩, hnone⟩ := hboth
      refine .some ⟨rfl, op, hcarried, fun answer hphase => ?_⟩
      rw [rlpListener_answer, hcarried.own] at hnone
      have hended : op.answer = some answer := by rw [ExecutorOperation.answer, hphase]
      exact absurd (hended.symm.trans hnone) (Option.some_ne_none answer)

/-! One client waits for the executor, and another is answered meanwhile. -/

def readUri : Obj := [("message_id", .str "1"), ("message_type", .str "read_resource"),
  ("payload", .obj [("uri", .str "u")]), ("protocol", .str "rlp"), ("version", .str "1.0")]

def beatMessage : Obj := [("message_id", .str "2"), ("message_type", .str "heartbeat"),
  ("payload", .obj [("timestamp", .str "t")]), ("protocol", .str "rlp"), ("version", .str "1.0")]

def beatAnswer : Obj := [("protocol", .str "rlp"), ("version", .str "1.0"),
  ("message_type", .str "heartbeat_response"), ("message_id", .str "r"),
  ("relay_session_id", .str "session"), ("source_relay_id", .str "relay"),
  ("target_relay_id", .null), ("request_id", .str "2"), ("execution_id", .null),
  ("payload", .obj (Tep.statusDump "ok" none none []))]

abbrev twoClientsWire : Service.Wire (Option Exc) Exc Obj UInt8 :=
  rlpLines .strict verbatimJson fun _ => "overrun"

def twoClients : List RlpListenerEvent :=
  [.other (.attach 0), .connect (Service.frame twoClientsWire readUri),
    .connect (Service.frame twoClientsWire beatMessage),
    .read 0 (⟨"r", "g"⟩, ⟨"m", "e"⟩), .read 1 (⟨"r", "g"⟩, ⟨"n", "f"⟩)]

lemma receive_frame (hm : Json.Held .verbatim (.obj message))
    (hroom : HasRoom defaultMaxMessageSizeBytes message) :
    twoClientsWire.receive (Service.frame twoClientsWire message) = .ok (sortMessage message, []) := by
  obtain ⟨hw, hdumps⟩ := hm
  obtain ⟨frame, hframe⟩ : ∃ frame, LineJsonFramer.encode verbatimJson defaultMaxMessageSizeBytes
      message = .ok frame := exists_encode hdumps hroom.2.le
  have hsend : twoClientsWire.send message = .ok frame := hframe
  have hread := (receiveLine_cases .strict (fun _ => "overrun") "" _ hw hframe []).1 hroom
  rw [List.append_nil] at hread
  rw [Service.frame_of_ok hsend]
  exact (receiveRlp_eq (encode_ne_nil hw hframe) "").trans (congrArg (Except.mapError some) hread)

theorem twoClients_converse :
    let start := (HostRelayRuntime.create "relay" "session").start
    ∃ p, Run.run (rlpConnectionsStep .strict verbatimJson fun _ => "overrun") ⟨start, []⟩ twoClients
        = some p ∧
      p.connections.map (fun c => (c.waiting, c.written))
        = [(some 0, []), (none, Service.frame twoClientsWire beatAnswer)] ∧
      RlpConversing .strict verbatimJson (fun _ => "overrun") start twoClients p := by
  intro start
  have hread : twoClientsWire.receive (Service.frame twoClientsWire readUri)
      = .ok (sortMessage readUri, []) :=
    receive_frame ⟨⟨by decide, trivial, trivial, ⟨by decide, trivial, trivial⟩, trivial, trivial,
      trivial⟩, _, rfl⟩ (by decide +kernel)
  have hbeat : twoClientsWire.receive (Service.frame twoClientsWire beatMessage)
      = .ok (sortMessage beatMessage, []) :=
    receive_frame ⟨⟨by decide, trivial, trivial, ⟨by decide, trivial, trivial⟩, trivial, trivial,
      trivial⟩, _, rfl⟩ (by decide +kernel)
  obtain ⟨answer, hanswer⟩ : ∃ frame, LineJsonFramer.encode verbatimJson
      defaultMaxMessageSizeBytes beatAnswer = .ok frame := exists_encode ⟨_, rfl⟩ (by decide +kernel)
  let attached : HostRelayRuntime := { start with link := start.link.attach 0 }
  -- the first message is forwarded, and the second is answered while its operation runs
  obtain ⟨h, hforwarded, h', hanswered⟩ : ∃ h, (rlpListener .strict).handle attached
      (⟨"r", "g"⟩, ⟨"m", "e"⟩) (sortMessage readUri) = some (.deferred 0, h) ∧
      ∃ h', (rlpListener .strict).handle h (⟨"r", "g"⟩, ⟨"n", "f"⟩) (sortMessage beatMessage)
        = some (.answered (.ok beatAnswer), h') := ⟨_, rfl, _, rfl⟩
  -- all that matters of the two frames is what they are received as
  unfold twoClients
  generalize Service.frame twoClientsWire readUri = first at hread ⊢
  generalize Service.frame twoClientsWire beatMessage = second at hbeat ⊢
  have hfirst := Deferral.Pool.step_read (W := twoClientsWire) (S := rlpListener .strict)
    (p := ⟨attached, [{ rest := first }, { rest := second }]⟩) (k := 0) rfl rfl rfl hread hforwarded
  have hsecond := Deferral.Pool.step_read (W := twoClientsWire) (S := rlpListener .strict)
    (p := ⟨h, [{ rest := [], waiting := some 0 }, { rest := second }]⟩) (k := 1) rfl rfl rfl hbeat
      hanswered
  have hrun : Run.run (rlpConnectionsStep .strict verbatimJson fun _ => "overrun") ⟨start, []⟩
      [.other (.attach 0), .connect first, .connect second, .read 0 (⟨"r", "g"⟩, ⟨"m", "e"⟩),
        .read 1 (⟨"r", "g"⟩, ⟨"n", "f"⟩)] = _ :=
    Run.run_cons_eq_some.mpr ⟨⟨attached, []⟩, rfl, Run.run_cons_eq_some.mpr ⟨_, rfl,
      Run.run_cons_eq_some.mpr ⟨_, rfl, Run.run_cons_eq_some.mpr ⟨_, hfirst,
        Run.run_cons_eq_some.mpr ⟨_, hsecond, rfl⟩⟩⟩⟩⟩
  have hsend : twoClientsWire.send = LineJsonFramer.encode verbatimJson defaultMaxMessageSizeBytes :=
    rfl
  have hsent : twoClientsWire.send beatAnswer = .ok answer := by rw [hsend, hanswer]
  have hwritten : ({ rest := [] } : Deferral.Connection Exc UInt8 ℕ).finish twoClientsWire
      (.ok beatAnswer) = { rest := [], written := answer } := by
    rw [Deferral.Connection.finish, hsent]
    rfl
  refine ⟨_, hrun, ?_, rlp_connections_converse .strict verbatimJson _ "relay" "session" .default
    hrun⟩
  rw [Service.frame_of_ok hsent]
  exact congrArg (fun c : Deferral.Connection Exc UInt8 ℕ =>
    [(some 0, []), (c.waiting, c.written)]) hwritten

end NaiaRelay.Runtime
