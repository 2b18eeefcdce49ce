import NaiaRelay.Forwarding
import NaiaRelay.Operations

set_option autoImplicit false

/-!
What a host sends to its executor, against its registry. The host looks nothing up: the mirror
of the client that asks is all that stands between a request and the executor.
-/

namespace NaiaRelay.Runtime

open NaiaRelay.Pydantic NaiaRelay.Registry NaiaRelay.Rlp

/-- The request is for this entry. -/
def RequestsEntry (request : Obj) (k : Kind) (name : String) : Prop :=
  Obj.get request "message_type" = some (.str (upstreamType k)) ∧
    ∃ payload, Obj.get request "payload" = some (.obj payload) ∧
      Obj.get payload (upstreamKey k) = some (.str name)

def Registered (registry : RegistryStore) (entry : Kind × String) : Prop :=
  entry.2 ∈ (registry.table entry.1).dict

lemma not_registered_empty (entry : Kind × String) : ¬ Registered {} entry := by
  obtain ⟨k, name⟩ := entry
  cases k <;> simp [Registered, Tables.table, Table.empty]

/-- Whatever starts to be sent is for an entry that is registered then. -/
def SendsRegistered (h : HostRelayRuntime) : HostEvent → Prop
  | .acquire i => ∀ op, h.link.operations[i]? = some op → h.link.transport ≠ none →
      ∃ k name, RequestsEntry op.request k name ∧ Registered h.registry (k, name)
  | _ => True

/-- A valid operation on an entry that is not registered is answered with an error at once. -/
def RefusesAbsent (P : Platform) (h : HostRelayRuntime) : HostEvent → Prop
  | .rlp ids operationIds message => h.base.started = true → ∀ envelope operation,
      Rlp.parse P message = some (envelope, operationPayload operation) →
      ¬ Registered h.registry (operationEntry operation) →
      AnsweredWithError P h ids operationIds message
  | _ => True

/-- An operation that comes in is on a registered entry, and the executor takes back none that
an operation in front of the send lock is on. -/
def AsksRegistered (P : Platform) (h : HostRelayRuntime) : HostEvent → Prop
  | .rlp _ _ message => h.base.started = true → ∀ envelope operation,
      Rlp.parse P message = some (envelope, operationPayload operation) →
      Registered h.registry (operationEntry operation)
  | .executor _ message => ∀ op ∈ h.link.operations, op.phase = .acquiring →
      ∀ k name, RequestsEntry op.request k name → .deregister k name ∉ Tep.mutations P message
  | _ => True

variable {P : Platform} {h h' : HostRelayRuntime} {e : HostEvent}

/-! ### One message -/

/-- **When an absent entry is refused.** Only if it is not absent: a started host with its
callbacks hands every valid operation to the executor, or answers it in its place. -/
lemma refusesAbsent_iff {message : Obj} {envelope : RLPEnvelope} {operation : Operation}
    (hs : h.base.started = true) (hc : hasCallback h.rlp operation = true)
    (hp : Rlp.parse P message = some (envelope, operationPayload operation)) (ids : NewIds)
    (operationIds : OperationIds) :
    RefusesAbsent P h (.rlp ids operationIds message) ↔
      Registered h.registry (operationEntry operation) := by
  constructor
  · intro hrefuses
    by_contra hno
    have hrefused := (answeredWithError_iff hs hp ids operationIds).mp
      (hrefuses hs envelope operation hp hno)
    rw [hc] at hrefused
    cases hrefused
  · intro hreg _ envelope' operation' hp' hno
    obtain rfl := operationPayload_injective
      (Prod.mk.inj (Option.some.inj (hp.symm.trans hp'))).2
    exact absurd hreg hno

lemma requestsEntry_forward (h : HostRelayRuntime) (operationIds : OperationIds)
    (operation : Operation) (resume : Except Exc Json → Except Exc Obj) :
    RequestsEntry (h.forward operationIds operation resume).request
      (operationEntry operation).1 (operationEntry operation).2 := by
  cases operation <;> exact ⟨rfl, _, rfl, rfl⟩

lemma started_of_forwarded {ids : NewIds} {operationIds : OperationIds} {message : Obj}
    {call : ExecutorOperation} (hf : h.forwarded P ids operationIds message = some call) :
    h.base.started = true := by
  by_contra hs
  unfold HostRelayRuntime.forwarded at hf
  rw [BaseRelayRuntime.ensureStarted, if_neg hs] at hf
  cases hf

lemma registered_afterMutations {registry : RegistryStore} {changes : List Mutation} {k : Kind}
    {name : String} (hr : Registered registry (k, name)) (hno : .deregister k name ∉ changes) :
    Registered (Tep.afterMutations registry changes) (k, name) := by
  refine Batch.forEach_invariant (I := fun s => Registered s (k, name)) (fun s m hm s' hi hok => ?_)
    hr
  have hi : name ∈ (s.table k).dict := hi
  show name ∈ (s'.table k).dict
  cases m with
  | register k' d =>
    obtain ⟨-, rfl⟩ := RegistryStore.mutate_register_eq_ok.mp hok
    by_cases hk : k = k'
    · subst hk
      simp [hi]
    · simp [Tables.table_setTable_ne _ _ hk, hi]
  | deregister k' name' =>
    obtain ⟨-, rfl⟩ := RegistryStore.mutate_deregister_eq_ok.mp hok
    by_cases hk : k = k'
    · subst hk
      have hne : name ≠ name' := fun h => hno (h ▸ hm)
      simp [hne, hi]
    · simp [Tables.table_setTable_ne _ _ hk, hi]

/-! ### One event -/

/-- Every operation in front of the send lock is on a registered entry. -/
def AcquiresRegistered (h : HostRelayRuntime) : Prop :=
  ∀ (i : ℕ) (op : ExecutorOperation), h.link.operations[i]? = some op → op.phase = .acquiring →
    ∃ k name, RequestsEntry op.request k name ∧ Registered h.registry (k, name)

lemma acquiring_of_turn {op op' : ExecutorOperation} {l : ExecutorLink} {i : ℕ} {ε : LinkEvent}
    (ht : op.Turn l i ε op') (hp : op'.phase = .acquiring) : op.phase = .acquiring := by
  cases ht with
  | spared hε => exact hp
  | settled outcome => rwa [ExecutorOperation.phase_settle] at hp
  | detached adapter ha => rwa [ExecutorOperation.phase_settle] at hp
  | _ => cases hp

lemma registered_step {op : ExecutorOperation} {k : Kind} {name : String}
    (hstep : h.step P e = some h') (hkeeps : KeepsRegistry P h e) (hasks : AsksRegistered P h e)
    (hop : op ∈ h.link.operations) (hphase : op.phase = .acquiring)
    (hreq : RequestsEntry op.request k name) (hreg : Registered h.registry (k, name)) :
    Registered h'.registry (k, name) := by
  cases he : e.isExecutor with
  | false => rwa [(registry_step_iff hstep he).mpr hkeeps]
  | true =>
    cases e with
    | executor newMessageId message =>
      obtain rfl := Option.some.inj hstep
      obtain ⟨tep, rlp, -, heq⟩ := handleExecutorStdioMessage_eq (P := P) h newMessageId message
      rw [heq]
      exact registered_afterMutations hreg (hasks op hop hphase k name hreq)
    | _ => cases he

lemma acquiresRegistered_step (hw : h.link.Wf) (hi : AcquiresRegistered h)
    (hkeeps : KeepsRegistry P h e) (hasks : AsksRegistered P h e)
    (hstep : h.step P e = some h') : AcquiresRegistered h' := by
  intro i op' hop' hphase
  have hold : ∀ op, h.link.operations[i]? = some op → op.phase = .acquiring →
      op'.request = op.request →
      ∃ k name, RequestsEntry op'.request k name ∧ Registered h'.registry (k, name) := by
    intro op hop hp heq
    obtain ⟨k, name, hreq, hreg⟩ := hi i op hop hp
    exact ⟨k, name, heq ▸ hreq, registered_step hstep hkeeps hasks
      (List.mem_of_getElem? hop) hp hreq hreg⟩
  rcases link_step_cases hstep with ⟨-, hl⟩ | ⟨ε, hε, hl⟩
  · rw [hl] at hop'
    exact hold op' hop' hphase rfl
  · rcases ExecutorLink.getElem?_step_inv hw hl hop' with ⟨op, hop, rfl⟩ | ⟨hstarted, -⟩
    · exact hold op hop (acquiring_of_turn (ExecutorLink.turn_after hl hop) hphase)
        (ExecutorLink.sameCall_after op _ i ε).request
    · obtain ⟨ids, operationIds, message, call, rfl, hf, hcall⟩ := forwarded_of_started hε hstarted
      have hs := started_of_forwarded hf
      obtain ⟨envelope, operation, hp, rfl⟩ := operation_of_forwarded hf
      refine ⟨_, _, hcall.request ▸ requestsEntry_forward h operationIds operation _, ?_⟩
      rw [(registry_step_iff hstep rfl).mpr hkeeps]
      exact hasks hs envelope operation hp

/-! ### Runs -/

/-- **What only registered entries are sent for.** In a run of a host that started without
operations, every request sent is for an entry registered at that moment, and every operation on
an absent entry is refused, if each operation that comes in is on a registered entry and the
executor takes back no entry while an operation on it is in front of the send lock. -/
theorem registeredOnly (P : Platform) {s s' : HostRelayRuntime} {es : List HostEvent}
    (hlink : s.link = {}) (hrun : Run.run (HostRelayRuntime.step P) s es = some s')
    (hkeeps : ∀ p ∈ Run.trace (HostRelayRuntime.step P) s es, KeepsRegistry P p.1 p.2)
    (hasks : ∀ p ∈ Run.trace (HostRelayRuntime.step P) s es, AsksRegistered P p.1 p.2) :
    ∀ p ∈ Run.trace (HostRelayRuntime.step P) s es,
      SendsRegistered p.1 p.2 ∧ RefusesAbsent P p.1 p.2 := by
  rintro ⟨h, e⟩ hp
  have hinv : h.link.Wf ∧ AcquiresRegistered h := by
    refine Run.states_invariant_of (I := fun h => h.link.Wf ∧ AcquiresRegistered h)
      (Q := fun h e => KeepsRegistry P h e ∧ AsksRegistered P h e)
      (fun h e h' hi hq hstep => ⟨wf_link_step hi.1 hstep,
        acquiresRegistered_step hi.1 hi.2 hq.1 hq.2 hstep⟩) ?_
      (fun p hp => ⟨hkeeps p hp, hasks p hp⟩) h (Run.mem_states_of_mem_trace hp)
    refine ⟨by rw [hlink]; exact ExecutorLink.wf_empty, fun i op hop => ?_⟩
    rw [hlink] at hop
    cases hop
  obtain ⟨-, -, h', -, -, hstep⟩ := Run.mem_trace hrun hp
  refine ⟨?_, ?_⟩
  · cases e with
    | acquire i =>
      intro op hop _
      obtain ⟨l, hl, -⟩ := Option.map_eq_some_iff.mp hstep
      obtain ⟨op', hop', hphase, -⟩ := ExecutorLink.step_acquire hl
      obtain rfl := Option.some.inj (hop.symm.trans hop')
      exact hinv.2 i op hop hphase
    | _ => trivial
  · cases e with
    | rlp ids operationIds message =>
      exact fun hs envelope operation hp' hno => absurd (hasks _ hp hs envelope operation hp') hno
    | _ => trivial

/-! A resource that nobody registered is read. -/

def unregisteredRead : List HostEvent := [.attach 0, readResource, .acquire 0]

theorem unregisteredRead_sent :
    ∃ s', Run.run (HostRelayRuntime.step .strict) startedHost unregisteredRead = some s' ∧
      s'.registry = {} ∧
      (∃ op, s'.link.operations[0]? = some op ∧ op.sentOn = some 0 ∧
        RequestsEntry op.request .resource "u") ∧
      ¬ ∀ p ∈ Run.trace (HostRelayRuntime.step .strict) startedHost unregisteredRead,
        SendsRegistered p.1 p.2 ∧ RefusesAbsent .strict p.1 p.2 := by
  refine ⟨_, rfl, rfl, ⟨_, rfl, rfl, rfl, _, rfl, rfl⟩, fun hall => ?_⟩
  have hattached : (some 0 : Option ℕ) ≠ none := nofun
  obtain ⟨k, name, -, hreg⟩ := (hall _ (List.mem_cons_of_mem _ (List.mem_cons_of_mem _
    (List.mem_singleton_self _)))).1 _ rfl hattached
  exact not_registered_empty (k, name) hreg

/-! The executor registers a resource first. -/

def registerU : Obj :=
  [("protocol", .str "tep"), ("version", .str "1.0"), ("message_type", .str "register_resources"),
    ("message_id", .str "x"), ("payload", .obj [("resources", .arr [.obj [("uri", .str "u"),
      ("name", .str "U"), ("description", .str "")]])])]

def registeredRead : List HostEvent :=
  [.attach 0, .executor "n" registerU, .rlp ⟨"r", "g"⟩ ⟨"m", "e"⟩ readMessage, .acquire 0]

lemma readMessage_payload {envelope : RLPEnvelope} {payload : Payload}
    (hp : Rlp.parse .strict readMessage = some (envelope, payload)) :
    payload = operationPayload readOfU :=
  (Prod.mk.inj (Option.some.inj hp)).2.symm

theorem registeredRead_registeredOnly :
    (Run.trace (HostRelayRuntime.step .strict) startedHost registeredRead).length = 4 ∧
      ∀ p ∈ Run.trace (HostRelayRuntime.step .strict) startedHost registeredRead,
        SendsRegistered p.1 p.2 ∧ RefusesAbsent .strict p.1 p.2 := by
  refine ⟨rfl, registeredOnly .strict rfl rfl ?_ ?_⟩
  all_goals
    intro p hp
    change p ∈ [_, _, _, _] at hp
    simp only [List.mem_cons, List.not_mem_nil, or_false] at hp
    rcases hp with rfl | rfl | rfl | rfl
  · trivial
  · trivial
  · intro _ envelope payload hp
    obtain rfl := readMessage_payload hp
    trivial
  · trivial
  · trivial
  · exact fun op hop => nomatch hop
  · intro _ envelope operation hp
    obtain rfl := operationPayload_injective (readMessage_payload hp)
    show "u" ∈ _
    decide
  · trivial

end NaiaRelay.Runtime
