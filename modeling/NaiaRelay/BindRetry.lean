import NaiaRelay.Staleness

set_option autoImplicit false

/-!
The attempts of a bind: how often the requester is called, and what the bind leaves of the
mirror.
-/

namespace NaiaRelay.Rlp

open NaiaRelay.Registry

/-- The registry holds a snapshot: its revision, and under each name the last definition. -/
structure SnapshotPayload.HeldBy (p : SnapshotPayload) (registry : RegistryStore) : Prop where
  revision : registry.revision = p.registryRevision
  stale : registry.stale = false
  entries : ∀ (k : Kind) (name : String),
    (registry.table k).get name = (p.definitions k).reverse.find? fun d => k.key d = name

lemma SnapshotPayload.heldBy_replace (p : SnapshotPayload) (registry : RegistryStore) :
    p.HeldBy (replaceRegistryFromSnapshot registry p) where
  revision := rfl
  stale := rfl
  entries k name := by
    rw [table_replaceRegistryFromSnapshot]
    exact Table.get_ofList _ _

lemma SnapshotPayload.HeldBy.exists_definition {snapshot : SnapshotPayload}
    {registry : RegistryStore} (hheld : snapshot.HeldBy registry) {k : Kind} {name : String}
    (hmem : name ∈ (registry.table k).dict) : ∃ d ∈ snapshot.definitions k, k.key d = name := by
  obtain ⟨d, hd⟩ := Table.mem_iff_get.mp hmem
  rw [hheld.entries] at hd
  have hkey := List.find?_some hd
  exact ⟨d, List.mem_reverse.mp (List.mem_of_find?_eq_some hd), by simpa using hkey⟩

end NaiaRelay.Rlp

namespace NaiaRelay.Runtime

open NaiaRelay.Pydantic NaiaRelay.Registry NaiaRelay.Rlp

/-! ### What a requester answers -/

/-- The payload and the status of an answer that has one. -/
def answerStatus (response : Obj) : Option (Json × Json) :=
  match item (.obj response) "payload" with
  | .error _ => none
  | .ok payload =>
    match item payload "status" with
    | .error _ => none
    | .ok status => some (payload, status)

/-- The requester raised, did not end in time, or answered with such a status. -/
def Refuses (p : Json → Prop) : Outcome Obj → Prop
  | .raises _ => True
  | .timesOut => True
  | .returns response => ∃ payload status, answerStatus response = some (payload, status) ∧ p status

/-- The snapshot of an answer whose status is ok and whose details pass as one. -/
def answerSnapshot (P : Platform) : Outcome Obj → Option SnapshotPayload
  | .returns response =>
    match answerStatus response with
    | some (payload, .str "ok") =>
      match item payload "details" with
      | .ok (.obj details) =>
        match SnapshotPayload.validate P (.obj details) with
        | .ok snapshot => some snapshot
        | .errors _ => none
      | _ => none
    | _ => none
  | _ => none

/-- What a bind comes to, with its last answer: the mirror holds the snapshot in it, or there
is none and the mirror is as it was. -/
def Concluded (P : Platform) (mirror : RegistryStore) (last : Outcome Obj)
    (result : Except Exc Obj) (after : RegistryStore) : Prop :=
  (∃ response snapshot, last = .returns response ∧ result = .ok response ∧
      answerSnapshot P last = some snapshot ∧ snapshot.HeldBy after) ∨
    (answerSnapshot P last = none ∧ (∃ e, result = .error e) ∧ after = mirror)

/-! ### One attempt -/

variable {P : Platform} {c : ClientRelayRuntime} {b : Binding}

/-- The envelope of the message a bind makes of an answer. -/
def snapshotEnvelope (b : Binding) (details : Obj) : RLPEnvelope where
  protocol := "rlp"
  version := "1.0"
  messageType := "tool_snapshot"
  messageId := "msg_snapshot"
  relaySessionId := some b.hostSessionId
  sourceRelayId := some b.hostRelayId
  payload := details

lemma validateMessage_snapshotMessage (details : Obj) :
    validateMessage (ClientRelayRuntime.snapshotMessage b (.obj details))
      = .ok (snapshotEnvelope b details) := rfl

lemma parse_snapshotMessage (details : Obj) :
    Rlp.parse P (ClientRelayRuntime.snapshotMessage b (.obj details)) =
      match SnapshotPayload.validate P (.obj details) with
      | .ok snapshot => some (snapshotEnvelope b details, .snapshot snapshot)
      | .errors _ => none := by
  have hm : messagePayloadModel P (snapshotEnvelope b details).messageType
      = some (messagePayloadModel.snapshot P) := rfl
  have hp : (snapshotEnvelope b details).payload = details := rfl
  unfold Rlp.parse
  rw [validateMessage_snapshotMessage]
  dsimp only
  rw [hm, hp]
  dsimp only [messagePayloadModel.snapshot]
  cases SnapshotPayload.validate P (.obj details) <;> rfl

lemma validateMessage_snapshotMessage_error {details : Json} (hd : ∀ o, details ≠ .obj o) :
    ∃ e, validateMessage (ClientRelayRuntime.snapshotMessage b details) = .error e := by
  cases details with
  | obj o => exact absurd rfl (hd o)
  | _ => exact ⟨_, rfl⟩

/-- **What a started client makes of the details of an answer.** If they pass as a snapshot the
mirror becomes that snapshot, and if not an exception is raised and the mirror stays. -/
lemma handleRlpMessage_snapshot (hc : c.base.started = true) (ids : NewIds) (details : Json) :
    (∃ o snapshot answer, details = .obj o ∧ SnapshotPayload.validate P (.obj o) = .ok snapshot ∧
        c.handleRlpMessage P ids (ClientRelayRuntime.snapshotMessage b details) = (.ok answer,
          { c with registry := replaceRegistryFromSnapshot c.registry snapshot })) ∨
      ((∀ o snapshot, details = .obj o → SnapshotPayload.validate P (.obj o) ≠ .ok snapshot) ∧
        ∃ e, c.handleRlpMessage P ids (ClientRelayRuntime.snapshotMessage b details)
          = (.error e, { c with base := c.base.recordValidationFailure })) := by
  unfold ClientRelayRuntime.handleRlpMessage BaseRelayRuntime.ensureStarted
  rw [if_pos hc]
  dsimp only
  by_cases hd : ∃ o, details = .obj o
  -- details that are an object make a message, whose payload then is checked
  · obtain ⟨o, rfl⟩ := hd
    have hparse := parse_snapshotMessage (P := P) (b := b) o
    cases hs : SnapshotPayload.validate P (.obj o) with
    | ok snapshot =>
      rw [hs] at hparse
      rw [handleMessage_of_parse hparse]
      exact Or.inl ⟨o, snapshot, _, rfl, hs, rfl⟩
    | errors es =>
      have hx : ∃ e, RLPHandler.handleMessage P ids ⟨c.registry, c.rlp⟩
          (ClientRelayRuntime.snapshotMessage b (.obj o))
            = (.done (.error e), ⟨c.registry, c.rlp⟩) := by
        have hm : messagePayloadModel P (snapshotEnvelope b o).messageType
            = some (messagePayloadModel.snapshot P) := rfl
        have hp : (snapshotEnvelope b o).payload = o := rfl
        unfold RLPHandler.handleMessage
        rw [validateMessage_snapshotMessage]
        dsimp only
        rw [hm, hp]
        dsimp only [messagePayloadModel.snapshot]
        rw [hs]
        exact ⟨_, rfl⟩
      obtain ⟨e, hx⟩ := hx
      rw [hx]
      refine Or.inr ⟨fun o' snapshot ho => ?_, e, rfl⟩
      obtain rfl := Json.obj.inj ho
      rw [hs]
      exact nofun
  -- any others do not even make an envelope
  · have hno : ∀ o, details ≠ .obj o := fun o ho => hd ⟨o, ho⟩
    obtain ⟨e, he⟩ := validateMessage_snapshotMessage_error (b := b) hno
    refine Or.inr ⟨fun o snapshot ho => absurd ho (hno o), e, ?_⟩
    have hx : RLPHandler.handleMessage P ids ⟨c.registry, c.rlp⟩
        (ClientRelayRuntime.snapshotMessage b details)
          = (.done (.error e), ⟨c.registry, c.rlp⟩) := by
      unfold RLPHandler.handleMessage
      rw [he]
    rw [hx]
    rfl

lemma bindReply_returns (c : ClientRelayRuntime) (ids : NewIds) (response : Obj) :
    (answerStatus response = none ∧
        ∃ e, c.bindReply P ids b (.returns response) = (.ended (.error e), c)) ∨
      (∃ payload status, answerStatus response = some (payload, status) ∧ status ≠ .str "ok" ∧
        c.bindReply P ids b (.returns response) = (.failed ClientRelayRuntime.bindRefused, c)) ∨
      ∃ payload, answerStatus response = some (payload, .str "ok") ∧
        c.bindReply P ids b (.returns response) =
          match item payload "details" with
          | .error e => (.ended (.error e), c)
          | .ok details =>
            let x := c.handleRlpMessage P ids (ClientRelayRuntime.snapshotMessage b details)
            (.ended (x.1.map fun _ => response), x.2) := by
  simp only [answerStatus, ClientRelayRuntime.bindReply, ClientRelayRuntime.bindOutcome]
  cases item (.obj response) "payload" with
  | error e => exact Or.inl ⟨rfl, e, rfl⟩
  | ok payload =>
    dsimp only
    cases item payload "status" with
    | error e => exact Or.inl ⟨rfl, e, rfl⟩
    | ok status =>
      by_cases hok : status = .str "ok"
      · subst hok
        exact Or.inr (Or.inr ⟨payload, rfl, rfl⟩)
      · refine Or.inr (Or.inl ⟨payload, status, rfl, hok, ?_⟩)
        split <;> simp_all

lemma answerSnapshot_of_ne {response : Obj} {payload status : Json}
    (h : answerStatus response = some (payload, status)) (hne : status ≠ .str "ok") :
    answerSnapshot P (.returns response) = none := by
  simp only [answerSnapshot, h]
  split <;> simp_all

lemma answerSnapshot_of_ok {response : Obj} {payload : Json}
    (h : answerStatus response = some (payload, .str "ok")) {snapshot : SnapshotPayload} :
    answerSnapshot P (.returns response) = some snapshot ↔
      ∃ o, item payload "details" = .ok (.obj o) ∧
        SnapshotPayload.validate P (.obj o) = .ok snapshot := by
  simp only [answerSnapshot, h]
  constructor
  · intro hx
    split at hx
    · rename_i o ho
      split at hx
      · rename_i snapshot' hv
        obtain rfl := Option.some.inj hx
        exact ⟨o, ho, hv⟩
      · cases hx
    · cases hx
  · rintro ⟨o, ho, hv⟩
    simp only [ho, hv]

lemma bindReply_outcome (hc : c.base.started = true) (hs : c.registry.stale = true) (ids : NewIds)
    (outcome : Outcome Obj) :
    ∃ attempt c', c.bindReply P ids b outcome = (attempt, c') ∧ c'.base.started = true ∧
      ((∃ result, attempt = .ended result ∧ Concluded P c.registry outcome result c'.registry) ∨
        ∃ e, attempt = .failed e ∧ Refuses (· ≠ .str "ok") outcome ∧
          answerSnapshot P outcome = none ∧ c'.registry = c.registry) := by
  have hmark : c.registry.markStale = c.registry := by
    rw [RegistryStore.markStale, ← hs]
  cases outcome with
  -- the mirror is marked as stale once more, which it is
  | raises exc => exact ⟨_, _, rfl, hc, Or.inr ⟨_, rfl, trivial, rfl, hmark⟩⟩
  | timesOut => exact ⟨_, _, rfl, hc, Or.inr ⟨_, rfl, trivial, rfl, hmark⟩⟩
  | returns response =>
    rcases bindReply_returns (P := P) (b := b) c ids response with
      ⟨hno, e, hx⟩ | ⟨payload, status, hst, hne, hx⟩ | ⟨payload, hst, hx⟩
    -- an answer without a status, one that is not ok, and one that is
    · have hnone : answerSnapshot P (.returns response) = none := by
        simp only [answerSnapshot, hno]
      exact ⟨_, _, hx, hc, Or.inl ⟨_, rfl, Or.inr ⟨hnone, ⟨e, rfl⟩, rfl⟩⟩⟩
    · have hrefused : Refuses (· ≠ .str "ok") (.returns response) :=
        ⟨payload, status, hst, hne⟩
      exact ⟨_, _, hx, hc, Or.inr ⟨_, rfl, hrefused, answerSnapshot_of_ne hst hne, rfl⟩⟩
    · have hnone : (∀ o snapshot, item payload "details" = .ok (.obj o) →
          SnapshotPayload.validate P (.obj o) ≠ .ok snapshot) →
          answerSnapshot P (.returns response) = none := by
        intro hno
        by_contra hsome
        obtain ⟨snapshot, hsnap⟩ := Option.ne_none_iff_exists'.mp hsome
        obtain ⟨o, ho, hv⟩ := (answerSnapshot_of_ok hst).mp hsnap
        exact hno o snapshot ho hv
      cases hd : item payload "details" with
      | error e =>
        rw [hd] at hx hnone
        have hnone' := hnone fun o _ ho => nomatch ho
        exact ⟨_, _, hx, hc, Or.inl ⟨_, rfl, Or.inr ⟨hnone', ⟨e, rfl⟩, rfl⟩⟩⟩
      | ok details =>
        rw [hd] at hx hnone
        dsimp only at hx
        rcases handleRlpMessage_snapshot (P := P) (b := b) hc ids details with
          ⟨o, snapshot, answer, rfl, hv, hhandle⟩ | ⟨hno, e, hhandle⟩
        · have hsnap := (answerSnapshot_of_ok hst).mpr ⟨o, hd, hv⟩
          rw [hhandle] at hx
          exact ⟨_, _, hx, hc, Or.inl ⟨_, rfl, Or.inl ⟨response, snapshot, rfl, rfl, hsnap,
            snapshot.heldBy_replace c.registry⟩⟩⟩
        · have hnone' := hnone fun o snapshot ho => hno o snapshot (Except.ok.inj ho)
          rw [hhandle] at hx
          exact ⟨_, _, hx, hc, Or.inl ⟨_, rfl, Or.inr ⟨hnone', ⟨e, rfl⟩, rfl⟩⟩⟩

/-! ### The attempts of a bind -/

/-- The requester that answers the `n`th call with the `n`th of these outcomes. -/
def answering (answers : ℕ → Outcome Obj) (n : ℕ) (_ : Obj) : Outcome Obj × ℕ := (answers n, n + 1)

/-- **The attempts of a bind**, with so many left, from the `i`th answer on. -/
lemma bindAttempts_spec (answers : ℕ → Outcome Obj) (ids : NewIds) (left i : ℕ)
    {c : ClientRelayRuntime} (hc : c.base.started = true) (hs : c.registry.stale = true) :
    ∃ result c' n, ClientRelayRuntime.bindAttempts P (answering answers) ids b left c i
        = (result, c', n) ∧
      i < n ∧ n ≤ i + left + 1 ∧
      (∀ j, i ≤ j → j + 1 < n → Refuses (· ≠ .str "ok") (answers j)) ∧
      Concluded P c.registry (answers (n - 1)) result c'.registry := by
  induction left generalizing i c with
  | zero =>
    obtain ⟨attempt, c', hx, -, ⟨result, rfl, hcon⟩ | ⟨e, rfl, -, hnone, hr⟩⟩ :=
      bindReply_outcome (P := P) (b := b) hc hs ids (answers i)
    · refine ⟨result, c', i + 1, ?_, by omega, by omega, fun j _ _ => by omega, hcon⟩
      simp only [ClientRelayRuntime.bindAttempts, answering, hx]
    · refine ⟨.error e, c', i + 1, ?_, by omega, by omega, fun j _ _ => by omega,
        Or.inr ⟨hnone, ⟨e, rfl⟩, hr⟩⟩
      simp only [ClientRelayRuntime.bindAttempts, answering, hx]
  | succ left ih =>
    obtain ⟨attempt, c', hx, hc', ⟨result, rfl, hcon⟩ | ⟨e, rfl, hrefused, -, hr⟩⟩ :=
      bindReply_outcome (P := P) (b := b) hc hs ids (answers i)
    · refine ⟨result, c', i + 1, ?_, by omega, by omega, fun j _ _ => by omega, hcon⟩
      simp only [ClientRelayRuntime.bindAttempts, answering, hx]
    · -- the attempt has failed and the next one starts from the mirror it was given
      have hs' : c'.attempt.registry.stale = true := by
        rw [← hs, ← hr]
        rfl
      obtain ⟨result, c'', n, hrest, hlt, hle, hall, hcon⟩ := ih (i + 1) (c := c'.attempt) hc' hs'
      refine ⟨result, c'', n, ?_, by omega, by omega, fun j hij hjn => ?_, ?_⟩
      · simp only [ClientRelayRuntime.bindAttempts, answering, hx]
        exact hrest
      · rcases Nat.eq_or_lt_of_le hij with rfl | hlt'
        · exact hrefused
        · exact hall j hlt' hjn
      · rw [← hr]
        exact hcon

/-- **The bind retry law.** A bind calls its requester at most once more often than it may
retry, and again only after an exception, a timeout or a status that is not ok. It returns
exactly when the last answer has a valid snapshot, which the mirror then holds; otherwise it
raises, and the mirror has the entries it had and is stale. -/
theorem bind_retry_law (P : Platform) (c : ClientRelayRuntime) (b : Binding) (ids : NewIds)
    (answers : ℕ → Outcome Obj) (hc : c.base.started = true) :
    let bound := c.bindViaRequester P (answering answers) 0 b ids
    let n := bound.2.2
    let after := bound.2.1.registry
    1 ≤ n ∧ n ≤ c.base.config.reconnectAttempts + 1 ∧
      (∀ i < n - 1, Refuses (· ≠ .str "ok") (answers i)) ∧
      ((∃ response, bound.1 = .ok response) ↔
        ∃ snapshot, answerSnapshot P (answers (n - 1)) = some snapshot) ∧
      (∀ response, bound.1 = .ok response → answers (n - 1) = .returns response) ∧
      (∀ snapshot, answerSnapshot P (answers (n - 1)) = some snapshot → snapshot.HeldBy after) ∧
      (answerSnapshot P (answers (n - 1)) = none →
        (∃ e, bound.1 = .error e) ∧ after.toTables = c.registry.toTables ∧
          after.revision = c.registry.revision ∧ after.stale = true) := by
  obtain ⟨result, c', n, hx, hlt, hle, hall, hcon⟩ := bindAttempts_spec (P := P) (b := b)
    answers ids c.base.config.reconnectAttempts 0 (c := c.bindStart b) hc rfl
  have hbound : c.bindViaRequester P (answering answers) 0 b ids = (result, c', n) := hx
  rw [hbound]
  dsimp only
  refine ⟨by omega, by omega, fun i hi => hall i (Nat.zero_le i) (by omega), ?_⟩
  rcases hcon with ⟨response, snapshot, hlast, rfl, hsnap, hheld⟩ | ⟨hnone, ⟨e, rfl⟩, hr⟩
  · refine ⟨iff_of_true ⟨response, rfl⟩ ⟨snapshot, hsnap⟩, fun response' h => ?_,
      fun snapshot' h => ?_, fun h => ?_⟩
    · rw [hlast, Except.ok.inj h]
    · rw [hsnap] at h
      rwa [← Option.some.inj h]
    · rw [hsnap] at h
      cases h
  · refine ⟨iff_of_false (fun ⟨_, h⟩ => nomatch h) fun ⟨snapshot, h⟩ => ?_,
      fun _ h => (nomatch h), fun snapshot h => ?_, fun _ => ⟨⟨e, rfl⟩, ?_⟩⟩
    · rw [hnone] at h
      cases h
    · rw [hnone] at h
      cases h
    · rw [hr]
      exact ⟨rfl, rfl, rfl⟩

/-! A host that is pending at first. -/

/-- An answer of the first call whose status is neither ok nor error, and none after it. -/
def pendingAnswer : ℕ → Outcome Obj
  | 0 => .returns [("payload", .obj [("status", .str "pending")])]
  | _ => .timesOut

def unboundClient : ClientRelayRuntime := (ClientRelayRuntime.create "client" "session").start

/-- An answer that is neither an exception nor a timeout nor an error is retried too. -/
theorem pendingAnswer_is_retried :
    let bound := unboundClient.bindViaRequester .strict (answering pendingAnswer) 0
      ⟨"host_session", "host"⟩ ⟨"r", "g"⟩
    bound.2.2 = 4 ∧ ¬ ∀ i < bound.2.2 - 1, Refuses (· = .str "error") (pendingAnswer i) := by
  refine ⟨rfl, fun hall => ?_⟩
  obtain ⟨payload, status, h, hs⟩ := hall 0 (by decide)
  obtain ⟨-, rfl⟩ := Prod.mk.inj (Option.some.inj h)
  exact absurd hs (by simp)

theorem unboundClient_bind_retry_law :
    let bound := unboundClient.bindViaRequester .strict (answering pendingAnswer) 0
      ⟨"host_session", "host"⟩ ⟨"r", "g"⟩
    let n := bound.2.2
    let after := bound.2.1.registry
    1 ≤ n ∧ n ≤ unboundClient.base.config.reconnectAttempts + 1 ∧
      (∀ i < n - 1, Refuses (· ≠ .str "ok") (pendingAnswer i)) ∧
      ((∃ response, bound.1 = .ok response) ↔
        ∃ snapshot, answerSnapshot .strict (pendingAnswer (n - 1)) = some snapshot) ∧
      (∀ response, bound.1 = .ok response → pendingAnswer (n - 1) = .returns response) ∧
      (∀ snapshot, answerSnapshot .strict (pendingAnswer (n - 1)) = some snapshot →
        snapshot.HeldBy after) ∧
      (answerSnapshot .strict (pendingAnswer (n - 1)) = none →
        (∃ e, bound.1 = .error e) ∧ after.toTables = unboundClient.registry.toTables ∧
          after.revision = unboundClient.registry.revision ∧ after.stale = true) :=
  bind_retry_law .strict unboundClient ⟨"host_session", "host"⟩ ⟨"r", "g"⟩ pendingAnswer rfl

end NaiaRelay.Runtime
