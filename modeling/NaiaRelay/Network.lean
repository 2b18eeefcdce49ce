import NaiaRelay.BindRetry
import NaiaRelay.HostRegistry
import NaiaRelay.Lib.Publisher
import NaiaRelay.TcpBind

set_option autoImplicit false

/-!
A host and the clients that bind to it. Every bind is one request, and its answer is text that may
be long on its way: it may come after later ones, more than once, or never.
-/

namespace NaiaRelay.Registry

/-- One registry leads to another when the mutations that were accepted in between do. -/
instance : Preorder RegistryStore where
  le s t := ∃ l, Batch.forEach RegistryStore.mutate s l = (.ok (), t)
  le_refl _ := ⟨[], rfl⟩
  le_trans := by
    rintro s t u ⟨l, hl⟩ ⟨l', hl'⟩
    exact ⟨l ++ l', by rw [Batch.forEach_append l' hl, hl']⟩

lemma le_afterMutations (s : RegistryStore) (l : List Mutation) : s ≤ Tep.afterMutations s l :=
  ⟨_, Batch.forEach_accepted s l⟩

lemma revision_le {s t : RegistryStore} (h : s ≤ t) : s.revision ≤ t.revision := by
  obtain ⟨l, hl⟩ := h
  have hrevision := RegistryStore.revision_forEach_mutate hl
  omega

lemma eq_of_revision {s t : RegistryStore} (h : s ≤ t) (hr : s.revision = t.revision) : s = t := by
  obtain ⟨l, hl⟩ := h
  have hrevision := RegistryStore.revision_forEach_mutate hl
  obtain rfl : l = [] := List.length_eq_zero_iff.mp (by omega)
  exact congrArg Prod.snd hl

end NaiaRelay.Registry

namespace NaiaRelay.Runtime

open NaiaRelay.Registry NaiaRelay.Rlp NaiaRelay.Transports

/-! ### The network -/

/-- A host and its clients, with the answers to binds that have been sent, each with the client it
is for. -/
structure Network (ι : Type) where
  host : HostRelayRuntime
  clients : ι → ClientSystem
  answers : List (ι × Obj) := []

/-- An event of a client that brings it no message. -/
def ClientEvent.isLocal : ClientEvent → Bool
  | .rlp _ _ => false
  | .bindReply _ _ (.returns _) => false
  | _ => true

inductive NetworkEvent (ι : Type)
  /-- Something happens to the host. -/
  | host (e : HostEvent)
  /-- Something happens to a client. -/
  | client (i : ι) (e : ClientEvent)
  /-- The host handles the request of a bind in progress. -/
  | answer (i : ι) (bind : ℕ) (ids : NewIds) (operationIds : OperationIds)
  /-- An answer that has been sent reaches a bind in progress. -/
  | deliver (i : ι) (bind : ℕ) (ids : NewIds) (n : ℕ)

variable {ι : Type} [DecidableEq ι] (P : Platform)

def Network.withClient (s : Network ι) (i : ι) (c : ClientSystem) : Network ι :=
  { s with clients := Function.update s.clients i c }

/-- One event; `none` where it cannot happen. Requests and answers are text on the way. -/
def Network.step (s : Network ι) : NetworkEvent ι → Option (Network ι)
  | .host e => (s.host.step P e).map fun host => { s with host }
  | .client i e =>
    if e.isLocal then ((s.clients i).step P e).map (s.withClient i) else none
  | .answer i bind ids operationIds =>
    ((s.clients i).binds[bind]?).map fun b =>
      match s.host.handleRlpMessage P ids operationIds
        (sortMessage ((s.clients i).runtime.bindMessage b.1)) with
      | (.answered (.ok answer), host) =>
        { s with host, answers := s.answers ++ [(i, sortMessage answer)] }
      | (_, host) => { s with host }
  | .deliver i bind ids n =>
    match s.answers[n]? with
    | none => none
    | some (j, response) =>
      if j = i then
        ((s.clients i).step P (.bindReply bind ids (.returns response))).map (s.withClient i)
      else none

/-- Who a runtime is, and how it is configured. -/
structure Identity where
  relayId : String
  sessionId : String
  config : RelayConfig := .default

/-- A host and clients that have just been started. -/
def Network.create (host : Identity) (clients : ι → Identity) : Network ι where
  host := (HostRelayRuntime.create host.relayId host.sessionId host.config).start
  clients i :=
    { runtime := (ClientRelayRuntime.create (clients i).relayId (clients i).sessionId
        (clients i).config).start }

/-- The event is no relay-link message that writes to the host's registry. -/
def Network.Keeps (s : Network ι) : NetworkEvent ι → Prop
  | .host e => KeepsRegistry P s.host e
  | _ => True

/-- A client's entries are those of this registry, at its revision. -/
structure Mirrors (client registry : RegistryStore) : Prop where
  tables : client.toTables = (mirrored registry).toTables
  revision : client.revision = registry.revision

variable {P} {s t : Network ι}

/-! ### Answers -/

lemma boundMessage_reply (r : RLPRecords) (envelope : RLPEnvelope) (ids : NewIds) (details : Obj)
    (b : Binding) :
    boundMessage b (.returns (sortMessage (r.reply envelope ids
      (Tep.statusDump "ok" none none details))))
        = some (ClientRelayRuntime.snapshotMessage b (.obj (sortMessage details))) := by
  rw [sortMessage_reply, sortMessage_statusDump]
  rfl

attribute [local simp] sortKeys_obj List.orderedInsert

lemma boundMessage_error (r : RLPRecords) (envelope : RLPEnvelope) (ids : NewIds)
    (code message : String) (b : Binding) :
    boundMessage b (.returns (sortMessage (r.errorResponse envelope ids code message))) = none := by
  have hpayload : sortMessage (Tep.errorStatus code message []) =
      [("code", .str code), ("details", .obj []), ("message", .str message),
        ("status", .str "error")] := by
    simp [Tep.errorStatus, Tep.statusDump, Json.ofOption]
  have hreply : r.errorResponse envelope ids code message
      = r.reply envelope ids (Tep.errorStatus code message []) := rfl
  rw [hreply, sortMessage_reply, hpayload]
  rfl

/-- What binds to the entries of this registry, or to nothing. -/
def BindsTo (P : Platform) (registry : RegistryStore) (response : Obj) : Prop :=
  ∀ b message, boundMessage b (.returns response) = some message →
    CarriesSnapshot P (sortRegistry registry) message

lemma bindsTo_error (r : RLPRecords) (envelope : RLPEnvelope) (ids : NewIds)
    (code message : String) (registry : RegistryStore) :
    BindsTo P registry (sortMessage (r.errorResponse envelope ids code message)) := by
  intro b _ hbound
  rw [boundMessage_error] at hbound
  cases hbound

lemma bindSession_binds {h : RLPHandler} (hd : Dumped h.registry) (ids : NewIds)
    (envelope : RLPEnvelope) (p : BindSessionPayload) :
    ∃ answer records, h.bindSession ids envelope p = (.done answer, ⟨h.registry, records⟩) ∧
      ∀ response, answer = .ok response → BindsTo P h.registry (sortMessage response) := by
  unfold RLPHandler.bindSession
  dsimp only
  split
  · refine ⟨_, _, rfl, ?_⟩
    rintro response ⟨⟩
    exact bindsTo_error _ _ _ _ _ _
  · split
    · refine ⟨_, _, rfl, ?_⟩
      rintro response ⟨⟩
      exact bindsTo_error _ _ _ _ _ _
    · obtain ⟨args, hdetails, hcarries⟩ := buildSnapshotDetails_sorted (P := P) hd
      rw [hdetails]
      refine ⟨_, _, rfl, ?_⟩
      intro response hresponse b message hbound
      have hok : h.records.okResponse envelope ids (.obj (snapshotDetails h.registry args))
          = .ok (h.records.reply envelope ids
              (Tep.statusDump "ok" none none (snapshotDetails h.registry args))) := rfl
      obtain rfl := Except.ok.inj (hok.symm.trans hresponse)
      rw [boundMessage_reply] at hbound
      obtain rfl := Option.some.inj hbound
      exact hcarries _ _ (validateMessage_snapshotMessage _) rfl rfl

lemma handleRlpMessage_bind {h : HostRelayRuntime} (hd : Dumped h.registry) (ids : NewIds)
    (operationIds : OperationIds) (c : ClientRelayRuntime) (b : Binding) :
    ∃ answer host, h.handleRlpMessage P ids operationIds (sortMessage (c.bindMessage b))
        = (.answered answer, host) ∧ host.registry = h.registry ∧
      ∀ response, answer = .ok response → BindsTo P h.registry (sortMessage response) := by
  unfold HostRelayRuntime.handleRlpMessage
  by_cases hs : h.base.started = true
  · have hx := @handleMessage_of_parse P ids ⟨h.registry, h.rlp⟩ _ _ _
      (parse_sort_bindMessage P c b)
    obtain ⟨answer, records, hbind, hanswer⟩ := bindSession_binds (P := P)
      (h := ⟨h.registry, h.rlp⟩) hd ids (bindArrival c b) ⟨b.hostSessionId, none, c.base.relayId⟩
    rw [RLPHandler.dispatch, hbind] at hx
    rw [BaseRelayRuntime.ensureStarted, if_pos hs, hx]
    exact ⟨answer, _, rfl, registry_conclude _ _, hanswer⟩
  · rw [BaseRelayRuntime.ensureStarted, if_neg hs]
    exact ⟨_, h, rfl, rfl, by rintro _ ⟨⟩⟩

/-! ### Clients -/

lemma mirrors_handleRlpMessage {c : ClientRelayRuntime} (ids : NewIds) {message : Obj}
    {registry : RegistryStore} (hc : CarriesSnapshot P (sortRegistry registry) message) :
    let after := (c.handleRlpMessage P ids message).2.registry
    after = c.registry ∨ Mirrors after registry := by
  unfold ClientRelayRuntime.handleRlpMessage BaseRelayRuntime.ensureStarted
  split
  · exact Or.inl rfl
  · refine Or.inr ?_
    obtain ⟨-, hafter⟩ := @handle_snapshot P ids ⟨c.registry, c.rlp⟩ _ _ hc
    dsimp only
    rw [hafter]
    exact ⟨rfl, rfl⟩

lemma Mirrors.of_eq {client client' registry : RegistryStore} (h : Mirrors client registry)
    (htables : client'.toTables = client.toTables) (hrevision : client'.revision = client.revision) :
    Mirrors client' registry :=
  ⟨htables.trans h.tables, hrevision.trans h.revision⟩

variable {c c' : ClientSystem}

lemma step_local {e : ClientEvent} (he : e.isLocal = true) (h : c.step P e = some c') :
    c'.runtime.registry.toTables = c.runtime.registry.toTables ∧
      c'.runtime.registry.revision = c.runtime.registry.revision := by
  cases e with
  | rlp ids message => cases he
  | bind b | markStale | disconnect =>
    obtain rfl := Option.some.inj h
    exact ⟨rfl, rfl⟩
  | mcp ids message =>
    obtain ⟨-, base, mcp, hruntime⟩ := step_mcp h
    rw [hruntime]
    exact ⟨rfl, rfl⟩
  | mcpReply i outcome =>
    obtain ⟨-, base, mcp, hruntime⟩ := step_mcpReply h
    rw [hruntime]
    exact ⟨rfl, rfl⟩
  | bindReply i ids outcome =>
    obtain ⟨b, n, -, hregistry⟩ := registry_step_bindReply h
    rw [hregistry]
    cases outcome with
    | returns response => cases he
    | raises exc => exact ⟨rfl, rfl⟩
    | timesOut => exact ⟨rfl, rfl⟩

lemma step_deliver {k : ℕ} {ids : NewIds} {response : Obj} {registry : RegistryStore}
    (hr : BindsTo P registry response)
    (h : c.step P (.bindReply k ids (.returns response)) = some c') :
    (c'.runtime.registry.toTables = c.runtime.registry.toTables ∧
        c'.runtime.registry.revision = c.runtime.registry.revision) ∨
      Mirrors c'.runtime.registry registry := by
  obtain ⟨b, n, -, hregistry⟩ := registry_step_bindReply h
  rw [hregistry]
  rcases bindReply_cases (P := P) c.runtime ids b (.returns response) with
    ⟨message, hbound, hruntime⟩ | ⟨-, hruntime | hruntime⟩
  · rw [hruntime]
    rcases mirrors_handleRlpMessage (c := c.runtime) ids (hr b message hbound) with hsame | hmirrors
    · rw [hsame]
      exact Or.inl ⟨rfl, rfl⟩
    · exact Or.inr hmirrors
  · rw [hruntime]
    exact Or.inl ⟨rfl, rfl⟩
  · rw [hruntime]
    exact Or.inl ⟨rfl, rfl⟩

/-! ### The host as a source and its clients as readers -/

/-- The network as a source of registries: an answer that is sent is its registry posted, and an
answer that is delivered is taken. -/
structure Publishes (P : Platform) (s : Network ι) (p : Publisher.State RegistryStore ι) :
    Prop where
  host : s.host.registry = p.current
  dumped : Dumped s.host.registry
  answers : ∀ x ∈ s.answers, ∃ v ∈ p.posted, BindsTo P v x.2
  clients : ∀ i, Mirrors (s.clients i).runtime.registry (p.held i)

variable {p : Publisher.State RegistryStore ι}

omit [DecidableEq ι] in
lemma Publishes.host_advance (hs : Publishes P s p) {host : HostRelayRuntime}
    (hd : Dumped host.registry) :
    Publishes P { s with host }
      { p with current := host.registry, past := insert host.registry p.past } :=
  ⟨rfl, hd, hs.answers, hs.clients⟩

lemma Publishes.client (hs : Publishes P s p) (i : ι) {c : ClientSystem} {v : RegistryStore}
    (hv : v = p.held i ∨ v ∈ p.posted) (hc : Mirrors c.runtime.registry v) :
    ∃ p', Publisher.Reaches p p' ∧ p'.past = p.past ∧ Publishes P (s.withClient i c) p' := by
  have hclients : ∀ j, Mirrors ((s.withClient i c).clients j).runtime.registry
      (Function.update p.held i v j) := by
    intro j
    by_cases hj : j = i
    · subst hj
      simpa [Network.withClient] using hc
    · simpa [Network.withClient, Function.update_of_ne hj] using hs.clients j
  rcases hv with rfl | hv
  · refine ⟨p, .refl, rfl, hs.host, hs.dumped, hs.answers, ?_⟩
    rwa [Function.update_eq_self] at hclients
  · exact ⟨_, .single (.take i hv), rfl, hs.host, hs.dumped, hs.answers, hclients⟩

lemma Publishes.keep (hs : Publishes P s p) (i : ι) {c : ClientSystem}
    (hc : c.runtime.registry.toTables = (s.clients i).runtime.registry.toTables ∧
      c.runtime.registry.revision = (s.clients i).runtime.registry.revision) :
    ∃ p', Publisher.Reaches p p' ∧ p'.past = p.past ∧ Publishes P (s.withClient i c) p' :=
  hs.client i (Or.inl rfl) ((hs.clients i).of_eq hc.1 hc.2)

lemma host_advances {h h' : HostRelayRuntime} {e : HostEvent} (hd : Dumped h.registry)
    (hkeeps : KeepsRegistry P h e) (hstep : h.step P e = some h') :
    h.registry ≤ h'.registry ∧ Dumped h'.registry := by
  cases he : e.isExecutor with
  | false =>
    rw [(registry_step_iff hstep he).mpr hkeeps]
    exact ⟨le_refl _, hd⟩
  | true =>
    cases e with
    | executor newMessageId message =>
      obtain rfl := Option.some.inj hstep
      obtain ⟨tep, rlp, -, hafter⟩ := handleExecutorStdioMessage_eq (P := P) h newMessageId message
      rw [hafter]
      exact ⟨le_afterMutations _ _, hd.afterMutations message⟩
    | _ => cases he

lemma Publishes.step {e : NetworkEvent ι} (hs : Publishes P s p) (hkeeps : s.Keeps P e)
    (hstep : s.step P e = some t) :
    ∃ p', Publisher.Reaches p p' ∧ p'.past ⊆ insert t.host.registry p.past ∧
      Publishes P t p' := by
  cases e with
  -- the host moves on
  | host e =>
    obtain ⟨host, hhost, rfl⟩ := Option.map_eq_some_iff.mp hstep
    obtain ⟨hle, hd⟩ := host_advances hs.dumped hkeeps hhost
    exact ⟨_, .single (.advance (hs.host ▸ hle)), le_refl _, hs.host_advance hd⟩
  | client i e =>
    simp only [Network.step] at hstep
    split at hstep
    · rename_i he
      obtain ⟨c, hc, rfl⟩ := Option.map_eq_some_iff.mp hstep
      obtain ⟨p', hp', hpast, hpublishes⟩ := hs.keep i (step_local he hc)
      exact ⟨p', hp', hpast ▸ Set.subset_insert _ _, hpublishes⟩
    · cases hstep
  -- what it answers a bind with is posted
  | answer i k ids operationIds =>
    obtain ⟨b, -, ht⟩ := Option.map_eq_some_iff.mp hstep
    obtain ⟨answer, host, hhandle, hregistry, hbinds⟩ := handleRlpMessage_bind (P := P) hs.dumped ids
      operationIds (s.clients i).runtime b.1
    rw [hhandle] at ht
    refine ⟨_, .single .post, Set.subset_insert _ _, ?_⟩
    have hposted : ∀ x ∈ s.answers, ∃ v ∈ insert p.current p.posted, BindsTo P v x.2 := by
      intro x hx
      obtain ⟨v, hv, hbind⟩ := hs.answers x hx
      exact ⟨v, Set.mem_insert_of_mem _ hv, hbind⟩
    cases answer with
    | error e =>
      subst ht
      exact ⟨hregistry.trans hs.host, hregistry.symm ▸ hs.dumped, hposted, hs.clients⟩
    | ok response =>
      subst ht
      refine ⟨hregistry.trans hs.host, hregistry.symm ▸ hs.dumped, fun x hx => ?_, hs.clients⟩
      rcases List.mem_append.mp hx with hx | hx
      · exact hposted x hx
      · obtain rfl := List.mem_singleton.mp hx
        exact ⟨p.current, Set.mem_insert _ _, hs.host ▸ hbinds response rfl⟩
  -- a client takes what was posted some time ago, or turns it down
  | deliver i k ids n =>
    simp only [Network.step] at hstep
    split at hstep
    · cases hstep
    · rename_i j response hn
      split at hstep
      · obtain ⟨c, hc, rfl⟩ := Option.map_eq_some_iff.mp hstep
        obtain ⟨v, hv, hbind⟩ := hs.answers _ (List.mem_of_getElem? hn)
        rcases step_deliver hbind hc with hsame | hmirrors
        · obtain ⟨p', hp', hpast, hpublishes⟩ := hs.keep i hsame
          exact ⟨p', hp', hpast ▸ Set.subset_insert _ _, hpublishes⟩
        · obtain ⟨p', hp', hpast, hpublishes⟩ := hs.client i (Or.inr hv) hmirrors
          exact ⟨p', hp', hpast ▸ Set.subset_insert _ _, hpublishes⟩
      · cases hstep

/-! ### Runs -/

omit [DecidableEq ι] in
lemma publishes_create (P : Platform) (host : Identity) (clients : ι → Identity) :
    Publishes P (Network.create host clients) (Publisher.start {}) :=
  ⟨rfl, dumped_empty, fun _ h => absurd h List.not_mem_nil, fun _ => ⟨rfl, rfl⟩⟩

/-- **A run of a network** is one of its source, whose past the network has been through. -/
lemma publishes_run {host : Identity} {clients : ι → Identity} {es : List (NetworkEvent ι)}
    (hrun : Run.run (Network.step P) (Network.create host clients) es = some s)
    (hkeeps : ∀ q ∈ Run.trace (Network.step P) (Network.create host clients) es,
      q.1.Keeps P q.2) :
    ∃ p, Publisher.Ordered p ∧ Publishes P s p ∧
      ∀ v ∈ p.past, ∃ u ∈ Run.states (Network.step P) (Network.create host clients) es,
        u.host.registry = v := by
  let visited := {v | ∃ u ∈ Run.states (Network.step P) (Network.create host clients) es,
    u.host.registry = v}
  let start : Publisher.State RegistryStore ι := Publisher.start {}
  obtain ⟨p, hp, hs, hpast⟩ := Run.run_invariant_of
    (I := fun s => ∃ p, Publisher.Reaches start p ∧ Publishes P s p ∧
      p.past ⊆ insert s.host.registry visited)
    (Q := fun s e => s.Keeps P e ∧ s.host.registry ∈ visited)
    (fun s e t hs hq hstep => by
      obtain ⟨p, hp, hs, hpast⟩ := hs
      obtain ⟨p', hp', hsub, ht⟩ := hs.step hq.1 hstep
      refine ⟨p', hp.trans hp', ht, hsub.trans (Set.insert_subset_insert ?_)⟩
      rwa [Set.insert_eq_of_mem hq.2] at hpast)
    ⟨start, .refl, publishes_create P host clients, by
      rintro v rfl
      exact Set.mem_insert _ _⟩
    (fun q hq => ⟨hkeeps q hq, q.1, Run.mem_states_of_mem_trace hq, rfl⟩) hrun
  have hlast : s.host.registry ∈ visited := ⟨s, Run.last_mem_states hrun, rfl⟩
  rw [Set.insert_eq_of_mem hlast] at hpast
  exact ⟨p, (Publisher.ordered_start _).reaches hp, hs, hpast⟩

/-- **Clients of one host agree.** However requests and answers are delayed, repeated, reordered or
lost, and whatever else happens, as long as only the executor writes to the host: each client holds
the entries the host had at some time, with their keys in order and without owners, and is at most
at the host's revision. Two clients at one revision hold the same entries, and a client at the
host's revision holds the host's. -/
theorem clients_agree (P : Platform) (host : Identity) (clients : ι → Identity)
    {es : List (NetworkEvent ι)} {s : Network ι}
    (hrun : Run.run (Network.step P) (Network.create host clients) es = some s)
    (hkeeps : ∀ q ∈ Run.trace (Network.step P) (Network.create host clients) es,
      q.1.Keeps P q.2) :
    let registry i := (s.clients i).runtime.registry
    (∀ i, ∃ u ∈ Run.states (Network.step P) (Network.create host clients) es,
        Mirrors (registry i) u.host.registry) ∧
      (∀ i, (registry i).revision ≤ s.host.registry.revision) ∧
      (∀ i j, (registry i).revision = (registry j).revision →
        (registry i).toTables = (registry j).toTables) ∧
      (∀ i, (registry i).revision = s.host.registry.revision →
        Mirrors (registry i) s.host.registry) := by
  intro registry
  obtain ⟨p, hp, hs, hpast⟩ := publishes_run hrun hkeeps
  have hsame : ∀ v ∈ p.past, ∀ w ∈ p.past, v.revision = w.revision → v = w := fun v hv w hw =>
    hp.eq_of_version RegistryStore.revision id (fun _ _ => eq_of_revision) hv hw
  refine ⟨fun i => ?_, fun i => ?_, fun i j hij => ?_, fun i hi => ?_⟩
  · obtain ⟨u, hu, hregistry⟩ := hpast _ (hp.held_mem i)
    exact ⟨u, hu, hregistry ▸ hs.clients i⟩
  · have hle := revision_le (hp.le_current _ (hp.held_mem i))
    rw [← hs.host] at hle
    exact (hs.clients i).revision.trans_le hle
  · rw [(hs.clients i).revision, (hs.clients j).revision] at hij
    have heq := hsame _ (hp.held_mem i) _ (hp.held_mem j) hij
    rw [(hs.clients i).tables, (hs.clients j).tables, heq]
  · rw [(hs.clients i).revision, hs.host] at hi
    have heq := hsame _ (hp.held_mem i) _ hp.current_mem hi
    rw [hs.host, ← heq]
    exact hs.clients i

/-! A client binds, the executor registers a tool, another client binds and is answered, and the
first client gets its answer late and then twice. -/

def lateAnswer : List (NetworkEvent Bool) :=
  let b : Binding := ⟨"session", "host"⟩
  [.client false (.bind b), .answer false 0 ⟨"r1", "g1"⟩ ⟨"m1", "e1"⟩,
    .client false (.bind b), .host (.executor "n" Tep.registerTwice), .client true (.bind b),
    .answer true 0 ⟨"r2", "g2"⟩ ⟨"m2", "e2"⟩, .deliver true 0 ⟨"r3", "g3"⟩ 1,
    .deliver false 1 ⟨"r4", "g4"⟩ 0, .deliver false 0 ⟨"r5", "g5"⟩ 0]

theorem lateAnswer_agrees :
    let network := Network.create ⟨"host", "session", {}⟩
      fun late => ⟨if late then "late" else "early", "session", {}⟩
    ∃ s, Run.run (Network.step .strict) network lateAnswer = some s ∧
      let registry i := (s.clients i).runtime.registry
      (∀ i, ∃ u ∈ Run.states (Network.step .strict) network lateAnswer,
          Mirrors (registry i) u.host.registry) ∧
        (∀ i, (registry i).revision ≤ s.host.registry.revision) ∧
        (∀ i j, (registry i).revision = (registry j).revision →
          (registry i).toTables = (registry j).toTables) ∧
        ∀ i, (registry i).revision = s.host.registry.revision →
          Mirrors (registry i) s.host.registry := by
  intro network
  have hsome : (Run.run (Network.step .strict) network lateAnswer).isSome = true := by
    decide +kernel
  obtain ⟨s, hrun⟩ := Option.isSome_iff_exists.mp hsome
  refine ⟨s, hrun, clients_agree .strict _ _ hrun fun q hq => ?_⟩
  obtain ⟨es₁, es₂, t, hes, -, -⟩ := Run.mem_trace hrun hq
  have hmem : q.2 ∈ lateAnswer := by simp [hes]
  obtain ⟨u, e⟩ := q
  simp only [lateAnswer, List.mem_cons, List.not_mem_nil, or_false] at hmem
  rcases hmem with rfl | rfl | rfl | rfl | rfl | rfl | rfl | rfl | rfl <;> trivial

end NaiaRelay.Runtime
