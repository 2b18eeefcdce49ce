import NaiaRelay.BindRetry
import NaiaRelay.Forwarding
import NaiaRelay.Sessions

set_option autoImplicit false

/-!
When a client forwards. A bind that succeeds opens a window, and the next event of the link
closes it: what goes upstream goes there within the window, under the bind's session and to
the bind's requester.
-/

namespace NaiaRelay.Runtime

open NaiaRelay.Registry NaiaRelay.Rlp NaiaRelay.Mcp

variable (P : Platform) {Q : Type}

/-- A client with its `_upstream_requester`, and with the requester of each bind in progress. -/
structure RoutedClient (Q : Type) where
  client : ClientSystem
  requester : Option Q := none
  requesters : List Q := []

inductive RoutedEvent (Q : Type)
  /-- `bind_via_requester` is called with this requester. -/
  | bind (b : Binding) (requester : Q)
  /-- Any other event of the client. -/
  | other (e : ClientEvent)

namespace RoutedClient

/-- One event. A bind sets the requester and a disconnect takes it away. -/
def step (s : RoutedClient Q) : RoutedEvent Q → Option (RoutedClient Q)
  | .bind b requester =>
    (s.client.step P (.bind b)).map fun client =>
      { client, requester := some requester, requesters := s.requesters ++ [requester] }
  | .other (.bind _) => none
  | .other (.bindReply i ids outcome) =>
    (s.client.step P (.bindReply i ids outcome)).map fun client =>
      { s with
        client
        requesters :=
          if client.binds.length < s.client.binds.length then s.requesters.eraseIdx i
          else s.requesters }
  | .other .disconnect =>
    (s.client.step P .disconnect).map fun client => { s with client, requester := none }
  | .other e => (s.client.step P e).map fun client => { s with client }

/-- The request an event sends upstream, and to whom. -/
def sends (s : RoutedClient Q) : RoutedEvent Q → Option (Q × Obj)
  | .other (.mcp ids message) =>
    match (s.client.runtime.openMcp P ids message).1 with
    | .await request _ => s.requester.map fun requester => (requester, request)
    | .done _ => none
  | _ => none

/-- What a run sends upstream. -/
def sent (s : RoutedClient Q) (es : List (RoutedEvent Q)) : List (Q × Obj) :=
  (Run.trace (step P) s es).filterMap fun p => p.1.sends P p.2

/-- Nothing has been bound yet. -/
structure Unbound (s : RoutedClient Q) : Prop where
  upstream : s.client.runtime.upstream = false
  requester : s.requester = none
  binds : s.client.binds = []
  requesters : s.requesters = []

end RoutedClient

/-- A bind, an answer to a bind, or the end of a link. -/
def RoutedEvent.isLink : RoutedEvent Q → Bool
  | .bind _ _ | .other (.bindReply _ _ _) | .other .markStale | .other .disconnect => true
  | _ => false

/-- A message of the client's client. -/
def RoutedEvent.isMcp : RoutedEvent Q → Bool
  | .other (.mcp _ _) => true
  | _ => false

/-- The last event of the link, with the state it met. -/
def lastLink (s : RoutedClient Q) (es : List (RoutedEvent Q)) :
    Option (RoutedClient Q × RoutedEvent Q) :=
  (Run.trace (RoutedClient.step P) s es).foldl (fun last p => if p.2.isLink then some p else last)
    none

/-- Binds come one after the other, and nothing else is received on the link. -/
def Successive (s : RoutedClient Q) : RoutedEvent Q → Prop
  | .bind _ _ => s.client.binds = []
  | .other (.rlp _ _) => False
  | _ => True

/-- The last event of the link is the answer that ended the bind `b` over `dest`, and the mirror
was made from its snapshot. -/
def Opened (last : Option (RoutedClient Q × RoutedEvent Q)) (dest : Q) (b : Binding)
    (snapshot : SnapshotPayload) : Prop :=
  ∃ u u' ids outcome n, last = some (u, .other (.bindReply 0 ids outcome)) ∧
    u.client.binds = [(b, n)] ∧ u.requesters = [dest] ∧
    u.client.runtime.base.started = true ∧ answerSnapshot P outcome = some snapshot ∧
    u.step P (.other (.bindReply 0 ids outcome)) = some u' ∧
    snapshot.HeldBy u'.client.runtime.registry

/-- The request is about an entry of the snapshot. -/
def AboutEntry (snapshot : SnapshotPayload) (request : Obj) : Prop :=
  ∃ k name payload, Obj.get request "message_type" = some (.str (upstreamType k)) ∧
    Obj.get request "payload" = some (.obj payload) ∧
    Obj.get payload (upstreamKey k) = some (.str name) ∧
    ∃ d ∈ snapshot.definitions k, k.key d = name

/-- A window is open only as the last event of the link has left it; while a bind is in
progress it is closed. -/
structure InWindow (s : RoutedClient Q) (last : Option (RoutedClient Q × RoutedEvent Q)) :
    Prop where
  upstream : s.client.runtime.upstream = s.requester.isSome
  binding : (s.client.binds = [] ∧ s.requesters = []) ∨
    ∃ b n q, s.client.binds = [(b, n)] ∧ s.requesters = [q] ∧
      s.client.runtime.registry.stale = true ∧
      s.client.runtime.rlp.relaySessionId = b.hostSessionId ∧
      ∀ dest, s.requester = some dest → dest = q
  window : s.client.runtime.registry.stale = false → ∀ dest, s.requester = some dest →
    ∃ b snapshot, Opened P last dest b snapshot ∧ snapshot.HeldBy s.client.runtime.registry ∧
      s.client.runtime.rlp.relaySessionId = b.hostSessionId

variable {P} {ids : NewIds} {s s' t : RoutedClient Q}
  {last : Option (RoutedClient Q × RoutedEvent Q)}

/-! ### An answer to a bind -/

lemma session_handleRlpMessage (c : ClientRelayRuntime) (ids : NewIds) (message : Obj) :
    (c.handleRlpMessage P ids message).2.rlp.relaySessionId = c.rlp.relaySessionId ∧
      (c.handleRlpMessage P ids message).2.upstream = c.upstream := by
  unfold ClientRelayRuntime.handleRlpMessage
  split
  · exact ⟨rfl, rfl⟩
  · exact ⟨(session_handleMessage (P := P) ⟨c.registry, c.rlp⟩ ids message).1, rfl⟩

lemma session_bindReply (c : ClientRelayRuntime) (ids : NewIds) (b : Binding)
    (outcome : Outcome Obj) :
    (c.bindReply P ids b outcome).2.rlp.relaySessionId = c.rlp.relaySessionId ∧
      (c.bindReply P ids b outcome).2.upstream = c.upstream := by
  cases outcome with
  | raises exc | timesOut => exact ⟨rfl, rfl⟩
  | returns response =>
    rcases bindReply_returns (P := P) (b := b) c ids response with
      ⟨-, e, hx⟩ | ⟨payload, status, -, -, hx⟩ | ⟨payload, -, hx⟩
    · rw [hx]
      exact ⟨rfl, rfl⟩
    · rw [hx]
      exact ⟨rfl, rfl⟩
    · rw [hx]
      cases item payload "details" with
      | error e => exact ⟨rfl, rfl⟩
      | ok details => exact session_handleRlpMessage c ids _

lemma bindReply_window {c : ClientRelayRuntime} (hs : c.registry.stale = true) (ids : NewIds)
    (b : Binding) (outcome : Outcome Obj) :
    (c.bindReply P ids b outcome).2.registry.stale = true ∨
      ∃ result snapshot, (c.bindReply P ids b outcome).1 = .ended result ∧
        c.base.started = true ∧ answerSnapshot P outcome = some snapshot ∧
        snapshot.HeldBy (c.bindReply P ids b outcome).2.registry := by
  by_cases hc : c.base.started = true
  · obtain ⟨attempt, c', hx, -, ⟨result, rfl, hcon⟩ | ⟨e, rfl, -, -, hr⟩⟩ :=
      bindReply_outcome (P := P) (b := b) hc hs ids outcome
    · rw [hx]
      rcases hcon with ⟨response, snapshot, -, -, hsnap, hheld⟩ | ⟨-, -, hr⟩
      · exact Or.inr ⟨result, snapshot, rfl, hc, hsnap, hheld⟩
      · exact Or.inl (by rw [hr, hs])
    · rw [hx]
      exact Or.inl (by rw [hr, hs])
  · -- the runtime has been stopped, so its handler takes no snapshot
    refine Or.inl ?_
    have hkeep : ∀ message, (c.handleRlpMessage P ids message).2 = c := by
      intro message
      unfold ClientRelayRuntime.handleRlpMessage
      rw [BaseRelayRuntime.ensureStarted, if_neg hc]
    rcases bindReply_cases (P := P) c ids b outcome with ⟨message, -, hx⟩ | ⟨-, hr | hr⟩
    · rw [hx, hkeep, hs]
    · rw [hr, hs]
    · rw [hr]
      rfl

lemma step_bindReply {s s' : ClientSystem} {b : Binding} {n i : ℕ} {outcome : Outcome Obj}
    (hb : s.binds = [(b, n)]) (h : s.step P (.bindReply i ids outcome) = some s') :
    i = 0 ∧
      ((∃ e m, (s.runtime.bindReply P ids b outcome).1 = .failed e ∧
          s'.runtime = (s.runtime.bindReply P ids b outcome).2.attempt ∧ s'.binds = [(b, m)]) ∨
        (s'.runtime = (s.runtime.bindReply P ids b outcome).2 ∧ s'.binds = [])) := by
  cases i with
  | succ i => simp [ClientSystem.step, hb] at h
  | zero =>
    refine ⟨rfl, ?_⟩
    simp only [ClientSystem.step, hb, List.getElem?_cons_zero] at h
    generalize s.runtime.bindReply P ids b outcome = x at h ⊢
    obtain ⟨attempt, c⟩ := x
    cases attempt with
    | ended result =>
      obtain rfl := Option.some.inj h
      exact Or.inr ⟨rfl, rfl⟩
    | failed e =>
      cases n with
      | zero =>
        obtain rfl := Option.some.inj h
        exact Or.inr ⟨rfl, rfl⟩
      | succ n =>
        obtain rfl := Option.some.inj h
        exact Or.inl ⟨e, n, rfl, rfl, rfl⟩

/-! ### The window -/

lemma RoutedClient.Unbound.inWindow (hu : s.Unbound) : InWindow P s none where
  upstream := by rw [hu.upstream, hu.requester]; rfl
  binding := Or.inl ⟨hu.binds, hu.requesters⟩
  window := by
    intro _ dest hdest
    rw [hu.requester] at hdest
    cases hdest

lemma InWindow.bind (hw : InWindow P s last) {b : Binding} {q : Q} (hb : s.client.binds = [])
    (h : s.step P (.bind b q) = some s') : InWindow P s' (some (s, .bind b q)) := by
  have hr : s.requesters = [] := by
    rcases hw.binding with ⟨-, hr⟩ | ⟨b', n, q', hb', -⟩
    · exact hr
    · rw [hb] at hb'
      cases hb'
  obtain rfl := Option.some.inj h
  refine ⟨rfl, Or.inr ⟨b, s.client.runtime.base.config.reconnectAttempts, q, ?_, ?_, rfl, rfl, ?_⟩,
    fun hfresh => nomatch hfresh⟩
  · show s.client.binds ++ _ = _
    rw [hb]
    rfl
  · show s.requesters ++ [q] = [q]
    rw [hr]
    rfl
  · intro dest hdest
    exact (Option.some.inj hdest).symm

lemma InWindow.bindReply (hw : InWindow P s last) {i : ℕ} {outcome : Outcome Obj}
    (h : s.step P (.other (.bindReply i ids outcome)) = some s') :
    InWindow P s' (some (s, .other (.bindReply i ids outcome))) := by
  have hstep := h
  simp only [RoutedClient.step] at h
  obtain ⟨client, hclient, rfl⟩ := Option.map_eq_some_iff.mp h
  rcases hw.binding with ⟨hb, -⟩ | ⟨b, n, q, hb, hr, hs, hsession, hq⟩
  · simp [ClientSystem.step, hb] at hclient
  · obtain ⟨hsession', hup⟩ := session_bindReply (P := P) s.client.runtime ids b outcome
    obtain ⟨rfl, ⟨e, m, hfailed, hrt, hb'⟩ | ⟨hrt, hb'⟩⟩ := step_bindReply hb hclient
    -- there is another attempt, and the window stays closed
    · have hstale : client.runtime.registry.stale = true := by
        rcases bindReply_window hs ids b outcome with hx | ⟨result, -, hx, -⟩
        · rw [hrt]
          exact hx
        · rw [hfailed] at hx
          cases hx
      refine ⟨?_, Or.inr ⟨b, m, q, hb', ?_, hstale, ?_, hq⟩, fun hfresh => ?_⟩
      · rw [← hw.upstream, ← hup, hrt]
        rfl
      · dsimp only
        rw [hb', hb, if_neg (by simp), hr]
      · rw [← hsession, ← hsession', hrt]
        rfl
      · rw [hstale] at hfresh
        cases hfresh
    -- the bind is over; if the mirror is fresh, it holds the snapshot of this answer
    · have hup' : client.runtime.upstream = s.requester.isSome := by
        rw [← hw.upstream, ← hup, hrt]
      refine ⟨hup', Or.inl ⟨hb', ?_⟩, fun hfresh dest hdest => ?_⟩
      · dsimp only
        rw [hb', hb, if_pos (by simp), hr]
        rfl
      · obtain rfl := hq dest hdest
        rcases bindReply_window hs ids b outcome with hx | ⟨-, snapshot, -, hst, hsnap, hheld⟩
        · rw [← hrt, hfresh] at hx
          cases hx
        · rw [← hrt] at hheld hsession'
          exact ⟨b, snapshot, ⟨s, _, ids, outcome, n, rfl, hb, hr, hst, hsnap, hstep, hheld⟩,
            hheld, hsession'.trans hsession⟩

lemma InWindow.keep (hw : InWindow P s last) {client : ClientSystem}
    (hb : client.binds = s.client.binds)
    (hregistry : client.runtime.registry = s.client.runtime.registry)
    (hrlp : client.runtime.rlp = s.client.runtime.rlp)
    (hup : client.runtime.upstream = s.client.runtime.upstream) :
    InWindow P { s with client } last := by
  obtain ⟨hupstream, hbinding, hwindow⟩ := hw
  rw [← hup] at hupstream
  rw [← hb, ← hregistry, ← hrlp] at hbinding
  rw [← hregistry, ← hrlp] at hwindow
  exact ⟨hupstream, hbinding, hwindow⟩

lemma InWindow.close (hw : InWindow P s last) {client : ClientSystem} {requester : Option Q}
    {last' : Option (RoutedClient Q × RoutedEvent Q)}
    (hb : client.binds = s.client.binds) (hs : client.runtime.registry.stale = true)
    (hrlp : client.runtime.rlp = s.client.runtime.rlp)
    (hup : client.runtime.upstream = requester.isSome)
    (hreq : ∀ dest, requester = some dest → s.requester = some dest) :
    InWindow P { s with client, requester } last' := by
  refine ⟨hup, ?_, fun hfresh => ?_⟩
  · rcases hw.binding with hnone | ⟨b, n, q, hb', hr, -, hsession, hq⟩
    · exact Or.inl (by rw [← hb] at hnone; exact hnone)
    · exact Or.inr ⟨b, n, q, hb.trans hb', hr, hs, hrlp ▸ hsession,
        fun dest hdest => hq dest (hreq dest hdest)⟩
  · rw [hs] at hfresh
    cases hfresh

/-- **One event keeps the window.** -/
lemma InWindow.step (hw : InWindow P s last) {e : RoutedEvent Q} (hsucc : Successive s e)
    (h : s.step P e = some s') :
    InWindow P s' (if e.isLink then some (s, e) else last) := by
  cases e with
  | bind b q => exact hw.bind hsucc h
  | other e =>
    cases e with
    | bind b => cases h
    | rlp ids message => exact hsucc.elim
    | bindReply i ids outcome => exact hw.bindReply h
    | markStale =>
      obtain rfl := Option.some.inj h
      exact hw.close rfl rfl rfl hw.upstream fun _ => id
    | disconnect =>
      obtain rfl := Option.some.inj h
      exact hw.close rfl rfl rfl rfl nofun
    | mcp ids message =>
      obtain ⟨client, hclient, rfl⟩ := Option.map_eq_some_iff.mp h
      obtain ⟨hb, base, mcp, hr⟩ := step_mcp hclient
      exact hw.keep hb (by rw [hr]) (by rw [hr]) (by rw [hr])
    | mcpReply i outcome =>
      obtain ⟨client, hclient, rfl⟩ := Option.map_eq_some_iff.mp h
      obtain ⟨hb, base, mcp, hr⟩ := step_mcpReply hclient
      exact hw.keep hb (by rw [hr]) (by rw [hr]) (by rw [hr])

lemma InWindow.sends (hw : InWindow P s last) {e : RoutedEvent Q} {dest : Q} {request : Obj}
    (h : s.sends P e = some (dest, request)) :
    ∃ b snapshot, Opened P last dest b snapshot ∧ AboutEntry snapshot request ∧
      Obj.get request "relay_session_id" = some (.str b.hostSessionId) := by
  unfold RoutedClient.sends at h
  split at h
  · rename_i ids message
    generalize hx : s.client.runtime.openMcp P ids message = x at h
    obtain ⟨call, c⟩ := x
    cases call with
    | done response => cases h
    | await request' resume =>
      obtain ⟨dest', hdest, heq⟩ := Option.map_eq_some_iff.mp h
      obtain ⟨rfl, rfl⟩ := Prod.mk.inj heq
      obtain ⟨call, _, hf, hreq⟩ := forwards_of_openMcp hx
      obtain ⟨name, hname, hmem⟩ := hf.named
      obtain ⟨b, snapshot, hopened, hheld, hsession⟩ := hw.window hf.fresh dest' hdest
      obtain ⟨htype, hsess, payload, hpayload, hkey⟩ :=
        upstreamRequest_fields s.client.runtime ids call
      rw [← hreq] at htype hsess hpayload
      refine ⟨b, snapshot, hopened, ⟨(callbackTarget call).1, name, payload, htype, hpayload, ?_,
        hheld.exists_definition hmem⟩, ?_⟩
      · rw [hkey, hname]
      · rw [hsess, hsession]
  · cases h

/-- **Nothing is forwarded outside a window.** In any run of a client that has bound nothing
yet, with binds one after the other and no other message on the link, every request that is
sent upstream is sent when the last event of the link is the answer that ended a bind with a
snapshot: it is about an entry of that snapshot, under the session of that bind, and goes to
its requester. Every one is sent for a message of its own. -/
theorem forwards_in_window (P : Platform) {s s' : RoutedClient Q} {es : List (RoutedEvent Q)}
    (hu : s.Unbound) (hrun : Run.run (RoutedClient.step P) s es = some s')
    (hsucc : ∀ p ∈ Run.trace (RoutedClient.step P) s es, Successive p.1 p.2) :
    (∀ es₁ e es₂ t dest request, es = es₁ ++ e :: es₂ →
      Run.run (RoutedClient.step P) s es₁ = some t → t.sends P e = some (dest, request) →
      ∃ b snapshot, Opened P (lastLink P s es₁) dest b snapshot ∧ AboutEntry snapshot request ∧
        Obj.get request "relay_session_id" = some (.str b.hostSessionId)) ∧
    (s.sent P es).length ≤ es.countP RoutedEvent.isMcp := by
  constructor
  · rintro es₁ e es₂ t dest request rfl ht hsend
    have hw : InWindow P t (lastLink P s es₁) := by
      refine Run.run_invariant_fold (I := InWindow P) (Q := Successive)
        (fun _ _ _ _ hw hq h => hw.step hq h) hu.inWindow (fun p hp => hsucc p ?_) ht
      rw [Run.trace_append _ ht]
      exact List.mem_append_left _ hp
    exact hw.sends hsend
  · have hmcp : ∀ p : RoutedClient Q × RoutedEvent Q,
        (p.1.sends P p.2).isSome = true → p.2.isMcp = true := by
      rintro ⟨t, e⟩ hsome
      cases e with
      | bind b q => cases hsome
      | other e =>
        cases e with
        | mcp ids message => rfl
        | _ => cases hsome
    have hevents : (Run.trace (RoutedClient.step P) s es).map Prod.snd = es :=
      Run.trace_map_snd hrun
    calc (s.sent P es).length
        = (Run.trace (RoutedClient.step P) s es).countP fun p => (p.1.sends P p.2).isSome :=
          List.length_filterMap_eq_countP
      _ ≤ (Run.trace (RoutedClient.step P) s es).countP fun p => p.2.isMcp :=
          List.countP_mono_left fun p _ => hmcp p
      _ = es.countP RoutedEvent.isMcp := by
          rw [← congrArg (List.countP RoutedEvent.isMcp) hevents, List.countP_map]
          rfl

/-! A client binds, is sent one tool, and calls it. -/

def linkedClient : RoutedClient Unit := { client := { runtime := unboundClient } }

def oneToolAnswer : Outcome Obj :=
  .returns [("payload", .obj [("status", .str "ok"),
    ("details", .obj [("registry_revision", .int 1),
      ("tools", .arr [.obj (bareToolPayload "a")])])])]

def callTool : ClientEvent :=
  .mcp ⟨"m", "e"⟩ [("method", .str "tools/call"), ("params", .obj [("name", .str "a")])]

def boundRun : List (RoutedEvent Unit) :=
  [.bind ⟨"host_session", "host"⟩ (), .other (.bindReply 0 ⟨"r", "g"⟩ oneToolAnswer),
    .other callTool]

theorem boundRun_forwards :
    (linkedClient.sent .strict boundRun).length = 1 ∧
    (∀ es₁ e es₂ t dest request, boundRun = es₁ ++ e :: es₂ →
      Run.run (RoutedClient.step .strict) linkedClient es₁ = some t →
      t.sends .strict e = some (dest, request) →
      ∃ b snapshot, Opened .strict (lastLink .strict linkedClient es₁) dest b snapshot ∧
        AboutEntry snapshot request ∧
        Obj.get request "relay_session_id" = some (.str b.hostSessionId)) ∧
    (linkedClient.sent .strict boundRun).length ≤ boundRun.countP RoutedEvent.isMcp := by
  refine ⟨rfl, forwards_in_window .strict (s := linkedClient) ⟨rfl, rfl, rfl, rfl⟩ rfl ?_⟩
  intro p hp
  rcases List.mem_cons.mp hp with rfl | hp
  · exact rfl
  · rcases List.mem_cons.mp hp with rfl | hp
    · trivial
    · obtain rfl := List.mem_singleton.mp hp
      trivial

end NaiaRelay.Runtime
