import NaiaRelay.ClientRuntime
import NaiaRelay.Lib.Run
import NaiaRelay.Mirror

set_option autoImplicit false

/-!
When a stale mirror becomes fresh: by a snapshot, and by an incremental message that happens
to carry the revision after its own.
-/

namespace NaiaRelay.Runtime

open NaiaRelay.Registry NaiaRelay.Rlp NaiaRelay.Mcp

/-! ### The flag and one message -/

/-- An incremental payload at the revision after the registry's. -/
def IsNext (registry : RegistryStore) : Payload → Prop
  | .mutation _ p => p.registryRevision = registry.revision + 1
  | .removed _ p => p.registryRevision = registry.revision + 1
  | _ => False

def IsSnapshot : Payload → Prop
  | .snapshot _ => True
  | _ => False

variable {P : Platform} {h : RLPHandler} {ids : NewIds}

lemma stale_upsert {k : Kind} {s s' : RegistryStore} {entry : EntryPayload k}
    (hu : upsert k s entry = .ok s') : s'.stale = false := by
  have hreg : ∃ t, RegistryStore.register k t (EntryPayload.definition k entry none) = .ok s' := by
    unfold upsert at hu
    dsimp only at hu
    split at hu
    · exact ⟨s, hu⟩
    · cases hd : RegistryStore.deregister k s (k.key (EntryPayload.definition k entry none)) with
      | error e =>
        rw [hd] at hu
        cases hu
      | ok t =>
        rw [hd] at hu
        exact ⟨t, hu⟩
  obtain ⟨t, ht⟩ := hreg
  obtain ⟨-, rfl⟩ := RegistryStore.register_eq_ok.mp ht
  rfl

lemma stale_applyIncremental_next {envelope : RLPEnvelope} {revision : ℤ}
    {change : RegistryStore → Except Exc RegistryStore}
    (hr : revision = h.registry.revision + 1)
    (hc : ∀ s s', change s = .ok s' → s'.stale = false) :
    (h.applyIncremental ids envelope revision change).2.registry.stale = false := by
  have hv : h.validateIncrementalRevision ids revision = (none, h.registry.markFresh) := by
    rw [RLPHandler.validateIncrementalRevision, if_pos hr]
  simp only [RLPHandler.applyIncremental, hv]
  cases hx : change h.registry.markFresh with
  | ok s => exact hc _ s hx
  | error e => rfl

lemma stale_dispatch {envelope : RLPEnvelope} {payload : Payload} (hs : h.registry.stale = true)
    (hn : ¬ IsSnapshot payload) :
    (IsNext h.registry payload ∧
        (h.dispatch P ids envelope payload).2.registry.stale = false) ∨
      (¬ IsNext h.registry payload ∧
        (h.dispatch P ids envelope payload).2.registry.stale = true) := by
  cases payload with
  | snapshot p => exact absurd trivial hn
  | mutation k p =>
    by_cases hr : p.registryRevision = h.registry.revision + 1
    · exact Or.inl ⟨hr, stale_applyIncremental_next hr fun _ _ => stale_upsert⟩
    · refine Or.inr ⟨hr, ?_⟩
      simp only [RLPHandler.dispatch]
      rw [(applyIncremental_gap hr).2]
      rfl
  | removed k p =>
    by_cases hr : p.registryRevision = h.registry.revision + 1
    · refine Or.inl ⟨hr, stale_applyIncremental_next hr fun s s' hd => ?_⟩
      obtain ⟨-, rfl⟩ := RegistryStore.deregister_eq_ok.mp hd
      rfl
    · refine Or.inr ⟨hr, ?_⟩
      simp only [RLPHandler.dispatch]
      rw [(applyIncremental_gap hr).2]
      rfl
  | bindSession p =>
    refine Or.inr ⟨id, ?_⟩
    simp only [RLPHandler.dispatch, RLPHandler.bindSession]
    split
    · exact hs
    · split <;> exact hs
  | _ => exact Or.inr ⟨id, hs⟩

/-! ### Events -/

variable (P)

/-- The message a bind hands to the client's own handler, if the requester returned one. -/
def boundMessage (b : Binding) : Outcome Obj → Option Obj
  | .returns response =>
    match item (.obj response) "payload" with
    | .error _ => none
    | .ok payload =>
      match item payload "status", item payload "details" with
      | .ok (.str "ok"), .ok details => some (ClientRelayRuntime.snapshotMessage b details)
      | _, _ => none
  | _ => none

/-- The relay-link message an event hands to the client's handler. -/
def handedMessage (s : ClientSystem) : ClientEvent → Option Obj
  | .rlp _ message => some message
  | .bindReply i _ outcome => (s.binds[i]?).bind fun b => boundMessage b.1 outcome
  | _ => none

/-- The event hands the handler of a started client a message with such a payload. -/
def Hands (p : Payload → Prop) (s : ClientSystem) (e : ClientEvent) : Prop :=
  s.runtime.base.started = true ∧ ∃ message envelope payload,
    handedMessage s e = some message ∧ Rlp.parse P message = some (envelope, payload) ∧ p payload

/-- The event applies a `*_snapshot` message. -/
def AppliesSnapshot (s : ClientSystem) (e : ClientEvent) : Prop := Hands P IsSnapshot s e

/-- The event is an incremental message at the revision after the mirror's. -/
def InSequence (s : ClientSystem) (e : ClientEvent) : Prop :=
  Hands P (IsNext s.runtime.registry) s e

variable {P} {s s' t : ClientSystem} {e : ClientEvent}

lemma stale_handleRlpMessage {c : ClientRelayRuntime} {message : Obj}
    (hs : c.registry.stale = true)
    (hn : ¬ (c.base.started = true ∧ ∃ envelope payload,
      Rlp.parse P message = some (envelope, payload) ∧ IsSnapshot payload)) :
    ((c.base.started = true ∧ ∃ envelope payload,
        Rlp.parse P message = some (envelope, payload) ∧ IsNext c.registry payload) ∧
        (c.handleRlpMessage P ids message).2.registry.stale = false) ∨
      (¬ (c.base.started = true ∧ ∃ envelope payload,
          Rlp.parse P message = some (envelope, payload) ∧ IsNext c.registry payload) ∧
        (c.handleRlpMessage P ids message).2.registry.stale = true) := by
  unfold ClientRelayRuntime.handleRlpMessage BaseRelayRuntime.ensureStarted
  by_cases hst : c.base.started = true
  · rw [if_pos hst]
    dsimp only
    cases hp : Rlp.parse P message with
    | none =>
      obtain ⟨answer, hx⟩ := handleMessage_of_parse_none (h := ⟨c.registry, c.rlp⟩) ids hp
      rw [hx]
      exact Or.inr ⟨by simp, hs⟩
    | some x =>
      obtain ⟨envelope, payload⟩ := x
      rw [handleMessage_of_parse hp]
      rcases stale_dispatch (P := P) (h := ⟨c.registry, c.rlp⟩) hs
        fun hsnap => hn ⟨hst, envelope, payload, hp, hsnap⟩ with
        ⟨hnext, hf⟩ | ⟨hnext, hf⟩
      · exact Or.inl ⟨⟨hst, envelope, payload, rfl, hnext⟩, hf⟩
      · refine Or.inr ⟨?_, hf⟩
        rintro ⟨-, _, _, heq, hnext'⟩
        obtain ⟨rfl, rfl⟩ := Prod.mk.inj (Option.some.inj heq)
        exact hnext hnext'
  · rw [if_neg hst]
    exact Or.inr ⟨fun hx => hst hx.1, hs⟩

lemma bindReply_cases (c : ClientRelayRuntime) (ids : NewIds) (b : Binding)
    (outcome : Outcome Obj) :
    (∃ message, boundMessage b outcome = some message ∧
        (c.bindReply P ids b outcome).2 = (c.handleRlpMessage P ids message).2) ∨
      (boundMessage b outcome = none ∧
        ((c.bindReply P ids b outcome).2.registry = c.registry ∨
          (c.bindReply P ids b outcome).2.registry = c.registry.markStale)) := by
  cases outcome with
  | raises exc => exact Or.inr ⟨rfl, Or.inr rfl⟩
  | timesOut => exact Or.inr ⟨rfl, Or.inr rfl⟩
  | returns response =>
    simp only [boundMessage, ClientRelayRuntime.bindReply, ClientRelayRuntime.bindOutcome]
    cases item (.obj response) "payload" with
    | error e => exact Or.inr ⟨rfl, Or.inl rfl⟩
    | ok payload =>
      dsimp only
      cases hs : item payload "status" with
      | error e => exact Or.inr ⟨rfl, Or.inl rfl⟩
      | ok status =>
        cases hd : item payload "details" with
        | error e =>
          refine Or.inr ⟨by split <;> simp_all, Or.inl ?_⟩
          split <;> simp_all
        | ok details =>
          by_cases hok : status = .str "ok"
          · subst hok
            exact Or.inl ⟨_, rfl, rfl⟩
          · refine Or.inr ⟨by split <;> simp_all, Or.inl ?_⟩
            split <;> simp_all

lemma openMcp_frame (c : ClientRelayRuntime) (ids : ClientRelayRuntime.RequestIds)
    (message : Obj) : ∃ base mcp, (c.openMcp P ids message).2 = { c with base, mcp } := by
  have hcallback : ∀ (c : ClientRelayRuntime) (call : Callback),
      ∃ base, (c.callback P ids call).2 = { c with base } := by
    intro c call
    unfold ClientRelayRuntime.callback
    split
    · exact ⟨_, rfl⟩
    · split
      · exact ⟨c.base, rfl⟩
      · split <;> exact ⟨c.base, rfl⟩
  unfold ClientRelayRuntime.openMcp
  split
  · exact ⟨_, _, rfl⟩
  · rename_i call base mcp hx
    dsimp only
    split
    · exact ⟨_, _, rfl⟩
    · rename_i q resume
      obtain ⟨base', hc⟩ := hcallback { c with base, mcp } q
      generalize ClientRelayRuntime.callback P { c with base, mcp } ids q = y at hc
      obtain ⟨wait, c'⟩ := y
      obtain rfl : c' = { c with base := base', mcp } := hc
      cases wait <;> exact ⟨_, _, rfl⟩

lemma registry_step_bindReply {i : ℕ} {ids : NewIds} {outcome : Outcome Obj}
    (h : s.step P (.bindReply i ids outcome) = some t) :
    ∃ b n, s.binds[i]? = some (b, n) ∧
      t.runtime.registry = (s.runtime.bindReply P ids b outcome).2.registry := by
  simp only [ClientSystem.step] at h
  cases hb : s.binds[i]? with
  | none =>
    rw [hb] at h
    cases h
  | some x =>
    obtain ⟨b, n⟩ := x
    rw [hb] at h
    refine ⟨b, n, rfl, ?_⟩
    cases hx : s.runtime.bindReply P ids b outcome with
    | mk attempt c =>
      simp only [hx] at h
      cases attempt <;> cases n <;> (obtain rfl : _ = t := Option.some.inj h; rfl)

lemma step_mcp {ids : ClientRelayRuntime.RequestIds} {message : Obj}
    (h : s.step P (.mcp ids message) = some t) :
    t.binds = s.binds ∧ ∃ base mcp, t.runtime = { s.runtime with base, mcp } := by
  obtain ⟨base, mcp, hframe⟩ := openMcp_frame (P := P) s.runtime ids message
  simp only [ClientSystem.step] at h
  generalize s.runtime.openMcp P ids message = x at h hframe
  obtain ⟨call, c⟩ := x
  obtain rfl : c = { s.runtime with base, mcp } := hframe
  cases call <;> (obtain rfl : _ = t := Option.some.inj h; exact ⟨rfl, base, mcp, rfl⟩)

lemma step_mcpReply {i : ℕ} {outcome : Outcome Obj}
    (h : s.step P (.mcpReply i outcome) = some t) :
    t.binds = s.binds ∧ ∃ base mcp, t.runtime = { s.runtime with base, mcp } := by
  simp only [ClientSystem.step] at h
  split at h
  · cases h
  · obtain rfl : _ = t := Option.some.inj h
    exact ⟨rfl, _, _, rfl⟩

/-- **One event on a stale mirror.** It stays stale unless the event applies a snapshot or is
the incremental message after its revision, which makes it fresh. -/
lemma stale_step (hs : s.runtime.registry.stale = true) (hn : ¬ AppliesSnapshot P s e)
    (hstep : s.step P e = some t) :
    (InSequence P s e ∧ t.runtime.registry.stale = false) ∨
      (¬ InSequence P s e ∧ t.runtime.registry.stale = true) := by
  -- an event that hands the handler nothing keeps the flag
  have hquiet : handedMessage s e = none → t.runtime.registry.stale = true →
      ¬ InSequence P s e ∧ t.runtime.registry.stale = true := by
    rintro hm ht
    refine ⟨?_, ht⟩
    rintro ⟨-, message, -, -, hm', -⟩
    rw [hm] at hm'
    contradiction
  -- an event that hands it a message does to the flag what the message does
  have hhanded : ∀ message, handedMessage s e = some message → ∀ ids,
      t.runtime.registry = (s.runtime.handleRlpMessage P ids message).2.registry →
      (InSequence P s e ∧ t.runtime.registry.stale = false) ∨
        (¬ InSequence P s e ∧ t.runtime.registry.stale = true) := by
    intro message hm ids ht
    have hiff : ∀ p : Payload → Prop, Hands P p s e ↔
        s.runtime.base.started = true ∧ ∃ envelope payload,
          Rlp.parse P message = some (envelope, payload) ∧ p payload := by
      intro p
      simp [Hands, hm]
    rw [AppliesSnapshot, hiff] at hn
    rw [InSequence, hiff, ht]
    exact stale_handleRlpMessage hs hn
  cases e with
  | bind b =>
    obtain rfl : _ = t := Option.some.inj hstep
    exact Or.inr (hquiet rfl rfl)
  | markStale =>
    obtain rfl : _ = t := Option.some.inj hstep
    exact Or.inr (hquiet rfl rfl)
  | disconnect =>
    obtain rfl : _ = t := Option.some.inj hstep
    exact Or.inr (hquiet rfl rfl)
  | rlp ids message =>
    obtain rfl : _ = t := Option.some.inj hstep
    exact hhanded message rfl ids rfl
  | bindReply i ids outcome =>
    obtain ⟨b, n, hb, ht⟩ := registry_step_bindReply hstep
    have hm : handedMessage s (.bindReply i ids outcome) = boundMessage b outcome := by
      simp [handedMessage, hb]
    -- an answer to a bind hands over its snapshot, or nothing
    rcases bindReply_cases (P := P) s.runtime ids b outcome with
      ⟨message, hbound, hr⟩ | ⟨hbound, hr | hr⟩
    · exact hhanded message (hm.trans hbound) ids (by rw [ht, hr])
    · exact Or.inr (hquiet (hm.trans hbound) (by rw [ht, hr, hs]))
    · exact Or.inr (hquiet (hm.trans hbound) (by rw [ht, hr]; rfl))
  | mcp ids message =>
    obtain ⟨-, base, mcp, ht⟩ := step_mcp hstep
    exact Or.inr (hquiet rfl (by rw [ht, hs]))
  | mcpReply i outcome =>
    obtain ⟨-, base, mcp, ht⟩ := step_mcpReply hstep
    exact Or.inr (hquiet rfl (by rw [ht, hs]))

/-! ### Runs -/

lemma callback_of_stale {c : ClientRelayRuntime} (hs : c.registry.stale = true)
    (ids : ClientRelayRuntime.RequestIds) (call : Callback) :
    (c.callback P ids call).1 = .done (.error (ClientRelayRuntime.staleRegistry call)) := by
  rw [ClientRelayRuntime.callback, if_pos hs]

/-- Wherever in the run the mirror is stale, it is stale and refuses every call at every later
point that no snapshot has been applied before. -/
def StaysStale (P : Platform) (s : ClientSystem) (es : List ClientEvent) : Prop :=
  ∀ es₁ es₂ es₃ t u, es = es₁ ++ es₂ ++ es₃ →
    Run.run (ClientSystem.step P) s es₁ = some t → t.runtime.registry.stale = true →
    Run.run (ClientSystem.step P) t es₂ = some u →
    (∀ p ∈ Run.trace (ClientSystem.step P) t es₂, ¬ AppliesSnapshot P p.1 p.2) →
    u.runtime.registry.stale = true ∧ ∀ ids call,
      (u.runtime.callback P ids call).1 = .done (.error (ClientRelayRuntime.staleRegistry call))

/-- **Staleness lasts exactly where no incremental message is in sequence.** In any run from
any state, a stale mirror stays stale until a snapshot if and only if no incremental message
meets a stale mirror at the revision before its own. -/
theorem staysStale_iff (P : Platform) {s s' : ClientSystem} {es : List ClientEvent}
    (hrun : Run.run (ClientSystem.step P) s es = some s') :
    StaysStale P s es ↔ ∀ p ∈ Run.trace (ClientSystem.step P) s es,
      p.1.runtime.registry.stale = true → ¬ InSequence P p.1 p.2 := by
  constructor
  · rintro hstay ⟨t, e⟩ hmem hs hseq
    obtain ⟨es₁, es₂, u, rfl, ht, hu⟩ := Run.mem_trace hrun hmem
    have hn : ¬ AppliesSnapshot P t e := by
      rintro ⟨-, m, env, payload, hm, hp, hsnap⟩
      obtain ⟨-, m', env', payload', hm', hp', hnext⟩ := hseq
      obtain rfl := Option.some.inj (hm.symm.trans hm')
      obtain ⟨-, rfl⟩ := Prod.mk.inj (Option.some.inj (hp.symm.trans hp'))
      cases payload <;> first | exact hsnap | exact hnext
    obtain ⟨hstale, -⟩ := hstay es₁ [e] es₂ t u (by simp) ht hs
      (Run.run_cons_eq_some.mpr ⟨u, hu, rfl⟩) (by simpa [Run.trace, hu] using hn)
    rcases stale_step hs hn hu with ⟨-, hf⟩ | ⟨hno, -⟩
    · rw [hstale] at hf
      contradiction
    · exact hno hseq
  · rintro hall es₁ es₂ es₃ t u rfl ht hs hu hn
    have hsub : ∀ p ∈ Run.trace (ClientSystem.step P) t es₂,
        p ∈ Run.trace (ClientSystem.step P) s (es₁ ++ es₂ ++ es₃) := by
      intro p hp
      have hsu : Run.run (ClientSystem.step P) s (es₁ ++ es₂) = some u :=
        Run.run_append_eq_some.mpr ⟨t, ht, hu⟩
      rw [Run.trace_append _ hsu, Run.trace_append _ ht]
      simp [hp]
    have hstale : u.runtime.registry.stale = true := by
      refine Run.run_invariant_of (I := fun s => s.runtime.registry.stale = true)
        (Q := fun s e => ¬ AppliesSnapshot P s e ∧
          (s.runtime.registry.stale = true → ¬ InSequence P s e))
        (fun s e s' hs hq hstep => ?_) hs (fun p hp => ⟨hn p hp, hall p (hsub p hp)⟩) hu
      rcases stale_step hs hq.1 hstep with ⟨hseq, -⟩ | ⟨-, hs'⟩
      · exact absurd hseq (hq.2 hs)
      · exact hs'
    exact ⟨hstale, fun ids call => callback_of_stale hstale ids call⟩

/-! A mirror at revision 0 is marked stale, and then an entry is added. -/

def addedAt (revision : ℤ) : ClientEvent :=
  .rlp ⟨"r", "g"⟩ (linkMessage "tool_added"
    [("registry_revision", .int revision), ("tool", .obj (bareToolPayload "a"))])

def startedClient : ClientSystem where
  runtime := (ClientRelayRuntime.create "client" "session").start

/-- The message at the next revision makes the stale mirror fresh. -/
theorem addedAt_one_freshens :
    (∃ s', Run.run (ClientSystem.step .strict) startedClient [.markStale, addedAt 1] = some s' ∧
        s'.runtime.registry.stale = false) ∧
      ¬ StaysStale .strict startedClient [.markStale, addedAt 1] := by
  refine ⟨⟨_, rfl, rfl⟩, fun hstay => ?_⟩
  have hn : ¬ AppliesSnapshot .strict { startedClient with
      runtime := startedClient.runtime.markStale } (addedAt 1) := by
    rintro ⟨-, message, envelope, payload, hm, hp, hsnap⟩
    obtain rfl := Option.some.inj hm
    obtain ⟨-, rfl⟩ := Prod.mk.inj (Option.some.inj hp)
    exact hsnap
  obtain ⟨hstale, -⟩ := hstay [.markStale] [addedAt 1] [] _ _ rfl rfl rfl rfl
    (fun p hp => by obtain rfl := List.mem_singleton.mp hp; exact hn)
  cases hstale

/-- A message at any other revision leaves it stale. -/
theorem addedAt_two_stays_stale : StaysStale .strict startedClient [.markStale, addedAt 2] := by
  refine (staysStale_iff .strict (s := startedClient) rfl).mpr ?_
  intro p hp hs hseq
  obtain ⟨-, message, envelope, payload, hm, hparse, hnext⟩ := hseq
  rcases List.mem_cons.mp hp with rfl | hp
  · cases hs
  · obtain rfl := List.mem_singleton.mp hp
    obtain rfl := Option.some.inj hm
    obtain ⟨-, rfl⟩ := Prod.mk.inj (Option.some.inj hparse)
    exact absurd (show (2 : ℤ) = 0 + 1 from hnext) (by decide)

end NaiaRelay.Runtime
