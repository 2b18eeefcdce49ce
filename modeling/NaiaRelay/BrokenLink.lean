import NaiaRelay.SyncWindow

set_option autoImplicit false

/-!
What a client learns from a request upstream that fails. The exception goes to the client of
that one request; the mirror stays as fresh as it was.
-/

namespace NaiaRelay.Runtime

open NaiaRelay.Registry NaiaRelay.Rlp NaiaRelay.Mcp

variable (P : Platform)

/-- The requester of a forwarded call raises. -/
def ClientEvent.Breaks : ClientEvent → Prop
  | .mcpReply _ (.raises _) => True
  | _ => False

/-- The event is the answer that ends a bind with a snapshot. -/
def BindSucceeds (s : ClientSystem) (e : ClientEvent) : Prop :=
  (∃ i ids outcome, e = .bindReply i ids outcome) ∧ AppliesSnapshot P s e

/-- The event is a relay-link message, none of a bind, that makes a stale mirror fresh. -/
def Freshens (s : ClientSystem) (e : ClientEvent) : Prop :=
  (∃ ids message, e = .rlp ids message) ∧ (AppliesSnapshot P s e ∨ InSequence P s e)

/-- The requester of a call has raised, and no bind has succeeded since. -/
def Broken (s : ClientSystem) (es : List ClientEvent) : Prop :=
  (Run.trace (ClientSystem.step P) s es).foldl
    (fun broken p => p.2.Breaks ∨ (broken ∧ ¬ BindSucceeds P p.1 p.2)) False

/-- While the link is broken the mirror is stale, and nothing is forwarded. -/
def StaleWhenBroken (s : ClientSystem) (es : List ClientEvent) : Prop :=
  ∀ es₁ es₂ t, es = es₁ ++ es₂ → Run.run (ClientSystem.step P) s es₁ = some t →
    Broken P s es₁ →
    t.runtime.registry.stale = true ∧
      ∀ message call resume, ¬ Forwards P t.runtime message call resume

variable {P} {s s' t t' : ClientSystem} {e : ClientEvent} {es : List ClientEvent}

lemma broken_concat (h : Run.run (ClientSystem.step P) s es = some t) :
    Broken P s (es ++ [e]) ↔ e.Breaks ∨ (Broken P s es ∧ ¬ BindSucceeds P t e) := by
  unfold Broken
  rw [Run.trace_append _ h, List.foldl_append, Run.trace_singleton]
  rfl

lemma ClientEvent.Breaks.registry (he : e.Breaks) (h : t.step P e = some t') :
    t'.runtime.registry = t.runtime.registry := by
  cases e with
  | mcpReply i outcome =>
    obtain ⟨-, base, mcp, hr⟩ := step_mcpReply h
    rw [hr]
  | _ => exact he.elim

lemma isSnapshot_of_boundMessage {b : Binding} {outcome : Outcome Obj} {message : Obj}
    {envelope : RLPEnvelope} {payload : Payload} (hm : boundMessage b outcome = some message)
    (hp : Rlp.parse P message = some (envelope, payload)) : IsSnapshot payload := by
  have hdetails : ∃ details, message = ClientRelayRuntime.snapshotMessage b details := by
    unfold boundMessage at hm
    split at hm
    · split at hm
      · cases hm
      · split at hm
        · exact ⟨_, (Option.some.inj hm).symm⟩
        · cases hm
    · cases hm
  obtain ⟨details, rfl⟩ := hdetails
  by_cases hobj : ∃ o, details = .obj o
  · obtain ⟨o, rfl⟩ := hobj
    rw [parse_snapshotMessage] at hp
    split at hp
    · obtain ⟨-, rfl⟩ := Prod.mk.inj (Option.some.inj hp)
      trivial
    · cases hp
  · have hno : ∀ o, details ≠ .obj o := fun o ho => hobj ⟨o, ho⟩
    obtain ⟨exc, he⟩ := validateMessage_snapshotMessage_error (b := b) hno
    unfold Rlp.parse at hp
    rw [he] at hp
    cases hp

lemma bindSucceeds_or_freshens (h : AppliesSnapshot P t e ∨ InSequence P t e) :
    BindSucceeds P t e ∨ Freshens P t e := by
  have hhands : ∃ p, Hands P p t e := by
    rcases h with h | h
    · exact ⟨_, h⟩
    · exact ⟨_, h⟩
  obtain ⟨p, -, message, envelope, payload, hm, hp, -⟩ := hhands
  cases e with
  | rlp ids m => exact Or.inr ⟨⟨ids, m, rfl⟩, h⟩
  | bindReply i ids outcome =>
    refine Or.inl ⟨⟨i, ids, outcome, rfl⟩, ?_⟩
    rcases h with h | ⟨hst, message', envelope', payload', hm', hp', hnext⟩
    · exact h
    · simp only [handedMessage, Option.bind_eq_some_iff] at hm'
      obtain ⟨b, -, hbound⟩ := hm'
      have hsnap := isSnapshot_of_boundMessage hbound hp'
      cases payload' <;> first | exact hsnap.elim | exact hnext.elim
  | _ => cases hm

lemma Freshens.step (hf : Freshens P t e) (hs : t.runtime.registry.stale = true)
    (h : t.step P e = some t') : t'.runtime.registry.stale = false := by
  obtain ⟨⟨ids, message, rfl⟩, hhands⟩ := hf
  by_cases hsnap : AppliesSnapshot P t (.rlp ids message)
  · obtain ⟨hst, m, envelope, payload, hm, hp, hpayload⟩ := hsnap
    obtain rfl := Option.some.inj hm
    obtain rfl := Option.some.inj h
    cases payload with
    | snapshot p =>
      simp only [ClientRelayRuntime.handleRlpMessage, BaseRelayRuntime.ensureStarted, if_pos hst,
        handleMessage_of_parse hp]
      rfl
    | _ => exact hpayload.elim
  · rcases stale_step hs hsnap h with ⟨-, hfresh⟩ | ⟨hno, -⟩
    · exact hfresh
    · exact (hhands.elim hsnap hno).elim

/-- **When a broken link makes the mirror stale.** In any run of a client, from any state, the
mirror is stale and forwards nothing from a failed request until the next bind that succeeds
exactly when every failed request meets a mirror that is stale already, and no other message
freshens it before that bind. -/
theorem staleWhenBroken_iff (P : Platform) {s s' : ClientSystem} {es : List ClientEvent}
    (hrun : Run.run (ClientSystem.step P) s es = some s') :
    StaleWhenBroken P s es ↔
      ∀ es₁ e es₂ t, es = es₁ ++ e :: es₂ → Run.run (ClientSystem.step P) s es₁ = some t →
        (e.Breaks → t.runtime.registry.stale = true) ∧ (Broken P s es₁ → ¬ Freshens P t e) := by
  constructor
  · rintro hstale es₁ e es₂ t rfl ht
    obtain ⟨u, hu, hrest⟩ := Run.run_append_eq_some.mp hrun
    obtain rfl := Option.some.inj (ht.symm.trans hu)
    obtain ⟨t', hstep, -⟩ := Run.run_cons_eq_some.mp hrest
    have ht' : Run.run (ClientSystem.step P) s (es₁ ++ [e]) = some t' :=
      Run.run_append_eq_some.mpr ⟨t, ht, Run.run_cons_eq_some.mpr ⟨t', hstep, rfl⟩⟩
    have hafter : Broken P s (es₁ ++ [e]) → t'.runtime.registry.stale = true :=
      fun hb => (hstale (es₁ ++ [e]) es₂ t' (by simp) ht' hb).1
    constructor
    · intro he
      rw [← he.registry hstep]
      exact hafter ((broken_concat ht).mpr (Or.inl he))
    · intro hb hf
      have hno : ¬ BindSucceeds P t e := by
        rintro ⟨⟨i, ids, outcome, rfl⟩, -⟩
        obtain ⟨⟨_, _, heq⟩, -⟩ := hf
        cases heq
      have hs' := hafter ((broken_concat ht).mpr (Or.inr ⟨hb, hno⟩))
      rw [hf.step (hstale es₁ (e :: es₂) t rfl ht hb).1 hstep] at hs'
      cases hs'
  · intro hall es₁ es₂ t hes ht hb
    have hstale : t.runtime.registry.stale = true := by
      -- what has broken is stale, event by event
      induction es₁ using List.reverseRecOn generalizing es₂ t with
      | nil => exact hb.elim
      | append_singleton es₁ e ih =>
        obtain ⟨u, hu, hlast⟩ := Run.run_append_eq_some.mp ht
        obtain ⟨t', hstep, hnil⟩ := Run.run_cons_eq_some.mp hlast
        obtain rfl := Option.some.inj hnil
        have hes' : es = es₁ ++ e :: es₂ := by simp [hes]
        obtain ⟨hbreaks, hfreshens⟩ := hall es₁ e es₂ u hes' hu
        rcases (broken_concat hu).mp hb with he | ⟨hb', hno⟩
        · rw [he.registry hstep]
          exact hbreaks he
        · have hs := ih (e :: es₂) u hes' hu hb'
          have hneither : ¬ (AppliesSnapshot P u e ∨ InSequence P u e) := by
            intro h
            exact (bindSucceeds_or_freshens h).elim hno (hfreshens hb')
          rcases stale_step hs (fun h => hneither (Or.inl h)) hstep with ⟨hseq, -⟩ | ⟨-, hs'⟩
          · exact absurd (Or.inr hseq) hneither
          · exact hs'
    refine ⟨hstale, fun message call resume hf => ?_⟩
    have hfresh := hf.fresh
    rw [hstale] at hfresh
    cases hfresh

/-! A client binds and calls a tool; the request fails, and the tool is called again. -/

def brokenRun : List ClientEvent :=
  [.bind ⟨"host_session", "host"⟩, .bindReply 0 ⟨"r", "g"⟩ oneToolAnswer, callTool,
    .mcpReply 0 (.raises (.transportError "peer disconnected"))]

/-- The second call is forwarded like the first. -/
theorem brokenRun_forwards :
    (∃ s', Run.run (ClientSystem.step .strict) startedClient (brokenRun ++ [callTool]) = some s' ∧
        s'.runtime.registry.stale = false ∧ s'.calls.length = 1) ∧
      ¬ StaleWhenBroken .strict startedClient brokenRun := by
  refine ⟨⟨_, rfl, rfl, rfl⟩, fun hstale => ?_⟩
  have hs := (hstale brokenRun [] _ rfl rfl (Or.inl trivial)).1
  cases hs

theorem brokenRun_staleWhenBroken_iff :
    StaleWhenBroken .strict startedClient brokenRun ↔
      ∀ es₁ e es₂ t, brokenRun = es₁ ++ e :: es₂ →
        Run.run (ClientSystem.step .strict) startedClient es₁ = some t →
        (e.Breaks → t.runtime.registry.stale = true) ∧
          (Broken .strict startedClient es₁ → ¬ Freshens .strict t e) :=
  staleWhenBroken_iff .strict (s := startedClient) rfl

end NaiaRelay.Runtime
