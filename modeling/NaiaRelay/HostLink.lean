import NaiaRelay.HostFacts
import NaiaRelay.Lib.Run

set_option autoImplicit false

/-!
The executor link inside a host: each event of the host is at most one event on its link.
-/

namespace NaiaRelay.Runtime

open NaiaRelay.Pydantic NaiaRelay.Registry NaiaRelay.Rlp

variable (P : Platform)

/-- The operation a relay-link message is forwarded as. -/
def HostRelayRuntime.forwarded (h : HostRelayRuntime) (ids : NewIds) (operationIds : OperationIds)
    (message : Obj) : Option ExecutorOperation :=
  match h.base.ensureStarted, (RLPHandler.handleMessage P ids ⟨h.registry, h.rlp⟩ message).1,
      h.link.transport with
  | .ok _, .await operation resume, some _ => some (h.forward operationIds operation resume)
  | _, _, _ => none

/-- What an event of a host is on its link. -/
def HostEvent.onLink (h : HostRelayRuntime) : HostEvent → Option LinkEvent
  | .rlp ids operationIds message =>
    (h.forwarded P ids operationIds message).map fun op =>
      .register op.target op.id op.request op.resume
  | .executor _ message => (executorAnswer P message).map fun x => .settle x.1 x.2.1 x.2.2
  | .acquire i => some (.acquire i)
  | .sent i outcome => some (.sent i outcome)
  | .resume i => some (.resume i)
  | .expire i outer => some (.expire h.requestTimeout i outer)
  | .attach adapter => some (.attach adapter)
  | .detach adapter => some (.detach adapter)
  | .stop => some .stop
  | .stopped => none

/-- The link after what an event may be on it. -/
def ExecutorLink.stepOption (l : ExecutorLink) : Option LinkEvent → Option ExecutorLink
  | none => some l
  | some ε => l.step ε

variable {P} {h h' : HostRelayRuntime} {e : HostEvent}

@[simp] lemma link_conclude (h : HostRelayRuntime) (answer : Except Exc Obj) :
    (h.conclude answer).link = h.link := by
  cases answer <;> rfl

@[simp] lemma link_afterAwait (h : HostRelayRuntime) (i : ℕ) (l : ExecutorLink) :
    (h.afterAwait i l).link = l := by
  unfold HostRelayRuntime.afterAwait
  dsimp only
  split
  · exact link_conclude _ _
  · rfl

lemma forward_eq (h : HostRelayRuntime) (ids : OperationIds) (operation : Operation)
    (resume : Except Exc Json → Except Exc Obj) :
    let op := h.forward ids operation resume
    op = { target := op.target, id := op.id, request := op.request, resume } ∧
      ((op.target = .execution ∧ op.id = ids.executionId) ∨
        (op.target = .request ∧ op.id = ids.messageId)) := by
  cases operation
  · exact ⟨rfl, Or.inl ⟨rfl, rfl⟩⟩
  · exact ⟨rfl, Or.inr ⟨rfl, rfl⟩⟩
  · exact ⟨rfl, Or.inr ⟨rfl, rfl⟩⟩

lemma link_handleRlpMessage (h : HostRelayRuntime) (ids : NewIds) (operationIds : OperationIds)
    (message : Obj) :
    (h.handleRlpMessage P ids operationIds message).2.link =
      match h.forwarded P ids operationIds message with
      | none => h.link
      | some op => h.link.register op := by
  unfold HostRelayRuntime.handleRlpMessage HostRelayRuntime.forwarded
  cases h.base.ensureStarted with
  | error e => rfl
  | ok u =>
    dsimp only
    cases (RLPHandler.handleMessage P ids ⟨h.registry, h.rlp⟩ message).1 with
    | done answer => exact link_conclude _ _
    | await operation resume =>
      cases h.link.transport with
      | none => exact link_conclude _ _
      | some t => cases operation <;> rfl

lemma link_handleExecutorStdioMessage (h : HostRelayRuntime) (newMessageId : String)
    (message : Obj) :
    (h.handleExecutorStdioMessage P newMessageId message).2.link
      = h.link.deliver (executorAnswer P message) := by
  obtain ⟨tep, rlp, -, he⟩ := handleExecutorStdioMessage_eq (P := P) h newMessageId message
  rw [he]

theorem link_step (hstep : h.step P e = some h') :
    h.link.stepOption (e.onLink P h) = some h'.link := by
  cases e with
  -- a message of a client registers an operation, or leaves the link alone
  | rlp ids operationIds message =>
    simp only [HostRelayRuntime.step] at hstep
    split at hstep
    · rename_i hfresh
      obtain rfl := Option.some.inj hstep
      rw [link_handleRlpMessage]
      simp only [HostEvent.onLink]
      cases hf : h.forwarded P ids operationIds message with
      | none => rfl
      | some op =>
        obtain ⟨operation, resume, rfl⟩ : ∃ operation resume,
            op = h.forward operationIds operation resume := by
          unfold HostRelayRuntime.forwarded at hf
          split at hf
          · exact ⟨_, _, (Option.some.inj hf).symm⟩
          · cases hf
        obtain ⟨heq, hid⟩ := forward_eq h operationIds operation resume
        -- the ids were drawn fresh for either target
        have hfree : h.link.Fresh (h.forward operationIds operation resume).target
            (h.forward operationIds operation resume).id := by
          rcases hid with ⟨ht, hid⟩ | ⟨ht, hid⟩ <;> rw [ht, hid]
          · exact hfresh.1
          · exact hfresh.2
        have hresume : (h.forward operationIds operation resume).resume = resume := by rw [heq]
        simp only [Option.map_some, ExecutorLink.stepOption, ExecutorLink.step]
        rw [if_pos hfree, hresume, ← heq]
    · cases hstep
  -- a message of the executor settles what it answers
  | executor newMessageId message =>
    obtain rfl := Option.some.inj hstep
    rw [link_handleExecutorStdioMessage, HostEvent.onLink]
    cases executorAnswer P message <;> rfl
  -- the awaits of an operation are events of the link as they are
  | acquire i =>
    obtain ⟨l, hl, rfl⟩ := Option.map_eq_some_iff.mp hstep
    rw [link_afterAwait]
    exact hl
  | sent i outcome =>
    obtain ⟨l, hl, rfl⟩ := Option.map_eq_some_iff.mp hstep
    rw [link_afterAwait]
    exact hl
  | resume i =>
    obtain ⟨l, hl, rfl⟩ := Option.map_eq_some_iff.mp hstep
    rw [link_afterAwait]
    exact hl
  | expire i outer =>
    obtain ⟨l, hl, rfl⟩ := Option.map_eq_some_iff.mp hstep
    rw [link_afterAwait]
    exact hl
  | attach adapter =>
    obtain rfl := Option.some.inj hstep
    rfl
  | detach adapter =>
    obtain rfl := Option.some.inj hstep
    rfl
  | stop =>
    obtain rfl := Option.some.inj hstep
    rfl
  | stopped =>
    obtain rfl := Option.some.inj hstep
    rfl

lemma link_step_cases (hstep : h.step P e = some h') :
    (e.onLink P h = none ∧ h'.link = h.link) ∨
      ∃ ε, e.onLink P h = some ε ∧ h.link.step ε = some h'.link := by
  have hl := link_step hstep
  cases he : e.onLink P h with
  | none =>
    rw [he] at hl
    exact Or.inl ⟨rfl, (Option.some.inj hl).symm⟩
  | some ε =>
    rw [he] at hl
    exact Or.inr ⟨ε, rfl, hl⟩

lemma forwarded_of_started {ε : LinkEvent} {op : ExecutorOperation} (he : e.onLink P h = some ε)
    (hs : ε.started = some op) :
    ∃ ids operationIds message call, e = .rlp ids operationIds message ∧
      h.forwarded P ids operationIds message = some call ∧ call.SameCall op := by
  cases e with
  | rlp ids operationIds message =>
    obtain ⟨call, hf, rfl⟩ := Option.map_eq_some_iff.mp he
    obtain rfl := Option.some.inj hs
    exact ⟨ids, operationIds, message, call, rfl, hf, rfl, rfl, rfl, rfl⟩
  | executor n message =>
    obtain ⟨x, -, rfl⟩ := Option.map_eq_some_iff.mp he
    cases hs
  | stopped => cases he
  | _ =>
    obtain rfl := Option.some.inj he
    cases hs

/-- **A run of a host is a run of its link.** -/
theorem link_run {es : List HostEvent}
    (hrun : Run.run (HostRelayRuntime.step P) h es = some h') :
    Run.run ExecutorLink.step h.link
      ((Run.trace (HostRelayRuntime.step P) h es).flatMap fun p => (p.2.onLink P p.1).toList)
        = some h'.link := by
  refine Run.run_refines (·.link) (fun h e => (e.onLink P h).toList) (fun s e t hstep => ?_) hrun
  rcases link_step_cases hstep with ⟨he, hl⟩ | ⟨ε, he, hl⟩
  · rw [he, hl]
    rfl
  · rw [he]
    exact Run.run_cons_eq_some.mpr ⟨t.link, hl, rfl⟩

lemma wf_link_run {es : List HostEvent} (hw : h.link.Wf)
    (hrun : Run.run (HostRelayRuntime.step P) h es = some h') : h'.link.Wf :=
  Run.run_invariant (fun _ _ _ hw hstep => ExecutorLink.Wf.step hw hstep) hw (link_run hrun)

lemma wf_link_step (hw : h.link.Wf) (hstep : h.step P e = some h') : h'.link.Wf := by
  have hrun : Run.run (HostRelayRuntime.step P) h [e] = some h' :=
    Run.run_cons_eq_some.mpr ⟨h', hstep, rfl⟩
  exact wf_link_run hw hrun

/-- **A property of the link that exactly the bad events break.** -/
theorem link_states_iff {I : ExecutorLink → Prop} {Q : ExecutorLink → LinkEvent → Prop}
    (hI : ∀ {l ε l'}, l.Wf → I l → l.step ε = some l' → (I l' ↔ Q l ε))
    {s s' : HostRelayRuntime} {es : List HostEvent} (hw : s.link.Wf) (hi : I s.link)
    (hrun : Run.run (HostRelayRuntime.step P) s es = some s') :
    (∀ t ∈ Run.states (HostRelayRuntime.step P) s es, I t.link) ↔
      ∀ p ∈ Run.trace (HostRelayRuntime.step P) s es,
        ∀ ε, p.2.onLink P p.1 = some ε → Q p.1.link ε := by
  refine Run.states_iff_trace (J := fun h => h.link.Wf) (I := fun h => I h.link)
    (Q := fun h e => ∀ ε, e.onLink P h = some ε → Q h.link ε)
    (fun s e s' hj hstep => wf_link_step hj hstep) (fun s e s' hj hi hstep => ?_) hw hi hrun
  rcases link_step_cases hstep with ⟨he, hl⟩ | ⟨ε, he, hl⟩
  · rw [he, hl]
    exact iff_of_true hi fun ε hε => nomatch hε
  · rw [he, hI hj hi hl]
    exact ⟨fun hq ε' hε' => Option.some.inj hε' ▸ hq, fun hq => hq ε rfl⟩

/-! A host, and a client's message that is forwarded. -/

def startedHost : HostRelayRuntime := (HostRelayRuntime.create "relay" "session").start

def readResource : HostEvent :=
  .rlp ⟨"r", "g"⟩ ⟨"m", "e"⟩
    [("protocol", .str "rlp"), ("version", .str "1.0"), ("message_type", .str "read_resource"),
      ("message_id", .str "1"), ("payload", .obj [("uri", .str "u")])]

end NaiaRelay.Runtime
