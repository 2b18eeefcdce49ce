import NaiaRelay.BindFidelity
import NaiaRelay.HostRegistry
import NaiaRelay.Lib.Pool
import NaiaRelay.Orphans
import NaiaRelay.StreamServing

set_option autoImplicit false

/-!
The listener for executors, with any number of them connected. Each connection attaches its adapter
where it opens, in the place of the one before, and what it says is taken all the same.
-/

namespace NaiaRelay.Runtime

open NaiaRelay.Registry NaiaRelay.Tep NaiaRelay.Transports Service

variable (P : Platform) (J : JsonModule Json Obj) (overrun : Bytes → String)

/-- An event that no connection of an executor makes. -/
def HostEvent.isOutside : HostEvent → Bool
  | .executor _ _ => false
  | .attach _ => false
  | .detach _ => false
  | _ => true

/-- What connections of executors do to a host as they open and close. An adapter has the number of
its connection. -/
def executorSetting : Setting (TepServing HostRelayRuntime) HostEvent where
  opened k s := { s with runtime.link := s.runtime.link.attach k }
  closed k s := { s with runtime.link := s.runtime.link.detach (some k) }
  other s e :=
    if e.isOutside then (s.runtime.step P e).map fun runtime => { s with runtime } else none

/-- A host and the connections of its executors. -/
abbrev ExecutorPool := Pool Exc (TepServing HostRelayRuntime) UInt8

abbrev ExecutorEvent := PoolEvent UInt8 HostEvent

/-- The loop of a connection. -/
def executorServer (ids : ℕ → String) : Server Exc Exc (TepServing HostRelayRuntime) Obj :=
  tepServer (hostServing P) ids fun _ => id

/-- One event of the listener for executors. -/
def executorStep (config : RelayConfig) (ids : ℕ → String) :
    ExecutorPool → ExecutorEvent → Option ExecutorPool :=
  Pool.step (tepWire P J overrun config) (executorServer P ids) (executorSetting P)

/-- The adapter that ought to be attached: the one of the last connection, while that is open. -/
def lastOpen (connections : List (Connection Exc UInt8)) : Option ℕ :=
  (connections.getLast?.filter fun c => c.ending.isNone).map fun _ => connections.length - 1

/-- The event is no relay-link message that writes to the host's registry. -/
def KeepsOthers (p : ExecutorPool) : ExecutorEvent → Prop
  | .other e => KeepsRegistry P p.state.runtime e
  | _ => True

variable {P J overrun} {config : RelayConfig} {ids : ℕ → String} {p p' : ExecutorPool}
  {e : ExecutorEvent} {s : TepServing HostRelayRuntime} {c : Connection Exc UInt8} {k : ℕ}

/-! ### The state after an event -/

@[simp] lemma transport_failPending (l : ExecutorLink) (exc : Exc) :
    (l.failPending exc).transport = l.transport := by
  have hall : ∀ (is : List ℕ) (l : ExecutorLink),
      (is.foldl (fun l i => l.update i (·.settle (.error exc))) l).transport = l.transport := by
    intro is
    induction is with
    | nil => exact fun _ => rfl
    | cons i is ih => exact fun l => ih _
  exact hall _ l

lemma transport_detach (l : ExecutorLink) (k : ℕ) :
    (l.detach (some k)).transport = if l.transport = some k then none else l.transport := by
  unfold ExecutorLink.detach
  by_cases h : l.transport = some k
  · rw [if_pos (Or.inr h), if_pos h, transport_failPending]
  · rw [if_neg (by simpa using h), if_neg h]

lemma state_turn (c : Connection Exc UInt8) (s : TepServing HostRelayRuntime) :
    (c.turn (tepWire P J overrun config) (executorServer P ids) s).1 =
      (c.next (tepWire P J overrun config)).elim s fun message =>
        ⟨(s.runtime.handleExecutorStdioMessage P (ids s.handled) message).2, s.handled + 1⟩ := by
  unfold Connection.turn Connection.next
  cases (tepWire P J overrun config).receive c.rest with
  | error e => rfl
  | ok x =>
    obtain ⟨message, rest⟩ := x
    have hhandle : (executorServer P ids).handle s message
        = ((s.runtime.handleExecutorStdioMessage P (ids s.handled) message).1,
          ⟨(s.runtime.handleExecutorStdioMessage P (ids s.handled) message).2, s.handled + 1⟩) := rfl
    dsimp only
    rw [hhandle]
    cases (s.runtime.handleExecutorStdioMessage P (ids s.handled) message).1 with
    | error e => rfl
    | ok answer =>
      cases answer with
      | none => rfl
      | some answer =>
        dsimp only
        cases (tepWire P J overrun config).send answer <;> rfl

lemma transport_settle (l : ExecutorLink) (target : Target) (id : String)
    (outcome : Except Exc Json) : (l.settle target id outcome).transport = l.transport := by
  unfold ExecutorLink.settle
  split <;> rfl

lemma transport_turn (c : Connection Exc UInt8) (s : TepServing HostRelayRuntime) :
    (c.turn (tepWire P J overrun config) (executorServer P ids) s).1.runtime.link.transport
      = s.runtime.link.transport := by
  rw [state_turn]
  cases c.next (tepWire P J overrun config) with
  | none => rfl
  | some message =>
    dsimp only [Option.elim]
    rw [link_handleExecutorStdioMessage]
    unfold ExecutorLink.deliver
    split
    · rfl
    · exact transport_settle _ _ _ _

lemma registry_turn (c : Connection Exc UInt8) (s : TepServing HostRelayRuntime) :
    (c.turn (tepWire P J overrun config) (executorServer P ids) s).1.runtime.registry
      = registryAfter P s.runtime.registry (c.next (tepWire P J overrun config)).toList := by
  rw [state_turn]
  cases c.next (tepWire P J overrun config) with
  | none => rfl
  | some message =>
    obtain ⟨tep, rlp, -, hafter⟩ := handleExecutorStdioMessage_eq (P := P) s.runtime
      (ids s.handled) message
    dsimp only [Option.elim]
    rw [hafter]
    rfl

@[simp] lemma registry_leave (k : ℕ) (c : Connection Exc UInt8)
    (s : TepServing HostRelayRuntime) :
    ((executorSetting P).leave k c s).runtime.registry = s.runtime.registry := by
  unfold Setting.leave
  split <;> rfl

lemma transport_leave (k : ℕ) (c : Connection Exc UInt8) (s : TepServing HostRelayRuntime) :
    ((executorSetting P).leave k c s).runtime.link.transport =
      if c.ending.isSome ∧ s.runtime.link.transport = some k then none
      else s.runtime.link.transport := by
  unfold Setting.leave
  by_cases hc : c.ending.isSome = true
  · rw [if_pos hc]
    simp only [hc, true_and]
    exact transport_detach _ k
  · rw [if_neg hc, if_neg (by simp [hc])]

lemma transport_outside {h h' : HostRelayRuntime} {e : HostEvent} (he : e.isOutside = true)
    (hstep : h.step P e = some h') :
    h'.link.transport = h.link.transport ∨ (e = .stop ∧ h'.link.transport = none) := by
  rcases link_step_cases hstep with ⟨-, hsame⟩ | ⟨ε, hε, hlink⟩
  · exact Or.inl (congrArg ExecutorLink.transport hsame)
  · have hshape : (∀ a, ε ≠ .attach a) ∧ (∀ a, ε ≠ .detach a) ∧ (ε = .stop → e = .stop) := by
      cases e with
      | rlp ids operationIds message =>
        obtain ⟨op, -, rfl⟩ := Option.map_eq_some_iff.mp hε
        exact ⟨fun _ h => (by cases h), fun _ h => (by cases h), fun h => by cases h⟩
      | executor n message => cases he
      | attach a => cases he
      | detach a => cases he
      | stopped => cases hε
      | stop =>
        obtain rfl := Option.some.inj hε
        exact ⟨fun _ h => (by cases h), fun _ h => (by cases h), fun _ => rfl⟩
      | _ =>
        obtain rfl := Option.some.inj hε
        exact ⟨fun _ h => (by cases h), fun _ h => (by cases h), fun h => by cases h⟩
    rcases ExecutorLink.transport_step hlink with ⟨a, rfl, -⟩ | ⟨rfl, hstop⟩ | ⟨a, rfl, -⟩ | hsame
    · exact absurd rfl (hshape.1 a)
    · exact Or.inr ⟨hshape.2.2 rfl, by rw [hstop]; rfl⟩
    · exact absurd rfl (hshape.2.1 a)
    · exact Or.inl hsame

/-! ### The adapter that is attached -/

/-- The last connection's adapter is attached, or none is, which may be only where `stops`. -/
def Attached (stops : Prop) (p : ExecutorPool) : Prop :=
  p.state.runtime.link.transport = lastOpen p.connections ∨
    (stops ∧ p.state.runtime.link.transport = none)

lemma lastOpen_append (cs : List (Connection Exc UInt8)) (c : Connection Exc UInt8) :
    lastOpen (cs ++ [c]) = if c.ending.isSome then none else some cs.length := by
  unfold lastOpen
  cases hc : c.ending <;> simp [hc]

lemma lastOpen_set_last {cs : List (Connection Exc UInt8)} (hk : k + 1 = cs.length) :
    lastOpen (cs.set k c) = if c.ending.isSome then none else some k := by
  have hlast : (cs.set k c).getLast? = some c := by
    rw [List.getLast?_eq_getElem?, List.length_set, ← hk]
    exact List.getElem?_set_self (by omega)
  unfold lastOpen
  rw [hlast, List.length_set, ← hk]
  cases hc : c.ending <;> simp [hc]

lemma lastOpen_set_of_lt {cs : List (Connection Exc UInt8)} (hk : k + 1 < cs.length) :
    lastOpen (cs.set k c) = lastOpen cs := by
  have hlast : (cs.set k c).getLast? = cs.getLast? := by
    rw [List.getLast?_eq_getElem?, List.getLast?_eq_getElem?, List.length_set]
    exact List.getElem?_set_ne (by omega)
  unfold lastOpen
  rw [hlast, List.length_set]

lemma lastOpen_of_open {cs : List (Connection Exc UInt8)} (hk : k + 1 = cs.length)
    (hc : cs[k]? = some c) (hopen : c.ending.isSome = false) : lastOpen cs = some k := by
  have hset := lastOpen_set_last (c := c) hk
  obtain ⟨hlt, rfl⟩ := List.getElem?_eq_some_iff.mp hc
  rw [List.set_getElem_self] at hset
  simpa [hopen] using hset

lemma lastOpen_eq_some {cs : List (Connection Exc UInt8)} (h : lastOpen cs = some k) :
    k + 1 = cs.length ∧ ∃ c, cs[k]? = some c ∧ c.ending = none := by
  obtain ⟨c, hc, rfl⟩ := Option.map_eq_some_iff.mp h
  obtain ⟨hlast, hopen⟩ := Option.filter_eq_some_iff.mp hc
  rw [List.getLast?_eq_getElem?] at hlast
  obtain ⟨hlt, -⟩ := List.getElem?_eq_some_iff.mp hlast
  exact ⟨by omega, c, hlast, by simpa using hopen⟩

lemma Attached.step {stops : Prop} (ha : Attached stops p) (hstops : e = .other .stop → stops)
    (h : executorStep P J overrun config ids p e = some p') : Attached stops p' := by
  cases e with
  -- the new connection is the last, and the host is given it
  | connect stream =>
    obtain rfl := Option.some.inj h
    refine Or.inl ?_
    rw [transport_leave, lastOpen_append]
    have hattached : ((executorSetting P).opened p.connections.length
        p.state).runtime.link.transport = some p.connections.length := rfl
    rw [hattached]
    simp
  | turn k =>
    simp only [executorStep, Pool.step] at h
    cases hc : p.connections[k]? with
    | none =>
      rw [hc] at h
      cases h
    | some c =>
      rw [hc] at h
      dsimp only at h
      split_ifs at h with hended
      obtain rfl := Option.some.inj h
      have hopen : c.ending.isSome = false := by simpa using hended
      have hlt := (List.getElem?_eq_some_iff.mp hc).1
      unfold Attached
      dsimp only
      rw [transport_leave, transport_turn]
      generalize (c.turn (tepWire P J overrun config) (executorServer P ids) p.state).2 = c'
      -- the host is detached only where the turn ends the connection it is attached to
      by_cases hk : k + 1 = p.connections.length
      · rw [lastOpen_set_last hk]
        rcases ha with ha | ⟨hs, ha⟩
        · rw [ha, lastOpen_of_open hk hc hopen]
          exact Or.inl (by simp)
        · rw [ha]
          exact Or.inr ⟨hs, by simp⟩
      · rw [lastOpen_set_of_lt (by omega)]
        have hother : p.state.runtime.link.transport ≠ some k := by
          rcases ha with ha | ⟨-, ha⟩
          · rw [ha]
            exact fun heq => hk (lastOpen_eq_some heq).1
          · rw [ha]
            exact fun heq => by cases heq
        rw [if_neg fun h => hother h.2]
        exact ha
  | other e =>
    obtain ⟨s, hs, rfl⟩ := Option.map_eq_some_iff.mp h
    simp only [executorSetting] at hs
    split_ifs at hs with he
    obtain ⟨runtime, hruntime, rfl⟩ := Option.map_eq_some_iff.mp hs
    -- nothing from outside touches the transport but the stop of the host
    rcases transport_outside he hruntime with hsame | ⟨rfl, hnone⟩
    · unfold Attached
      dsimp only
      rw [hsame]
      exact ha
    · exact Or.inr ⟨hstops rfl, hnone⟩

/-! ### The registry -/

lemma registry_executorStep (hkeeps : KeepsOthers P p e)
    (h : executorStep P J overrun config ids p e = some p') :
    p'.state.runtime.registry = registryAfter P p.state.runtime.registry
      ((handled (tepWire P J overrun config) (p, e)).toList.map Prod.snd) := by
  cases e with
  | connect stream =>
    obtain rfl := Option.some.inj h
    rw [registry_leave]
    rfl
  | turn k =>
    simp only [executorStep, Pool.step] at h
    cases hc : p.connections[k]? with
    | none =>
      rw [hc] at h
      cases h
    | some c =>
      rw [hc] at h
      dsimp only at h
      split_ifs at h
      obtain rfl := Option.some.inj h
      rw [registry_leave, registry_turn, handled_turn hc]
      cases c.next (tepWire P J overrun config) <;> rfl
  | other e =>
    obtain ⟨s, hs, rfl⟩ := Option.map_eq_some_iff.mp h
    simp only [executorSetting] at hs
    split_ifs at hs with he
    obtain ⟨runtime, hruntime, rfl⟩ := Option.map_eq_some_iff.mp hs
    have hquiet : e.isExecutor = false := by cases e <;> first | rfl | cases he
    exact (registry_step_iff hruntime hquiet).mpr hkeeps

/-! ### Runs -/

/-- **Executors that share a host.** However many are connected, in whatever order their messages
come, as long as no message of the relay link writes to the registry: the registry is what their
messages make of it, one after the other; each connection has had a beginning of what it sent handled,
in order, and been written the replies to that; operations go to the last connection while it is open,
or to none; and as long as the host is not stopped they do go to it. -/
theorem executors_share_host (P : Platform) (J : JsonModule Json Obj) (overrun : Bytes → String)
    (relayId sessionId : String) (config : RelayConfig) (ids : ℕ → String)
    {es : List ExecutorEvent} {p : ExecutorPool}
    (hrun : Run.run (executorStep P J overrun config ids)
      ⟨⟨(HostRelayRuntime.create relayId sessionId config).start, 0⟩, []⟩ es = some p)
    (hkeeps : ∀ q ∈ Run.trace (executorStep P J overrun config ids)
      ⟨⟨(HostRelayRuntime.create relayId sessionId config).start, 0⟩, []⟩ es,
        KeepsOthers P q.1 q.2) :
    let W := tepWire P J overrun config
    let trace := Run.trace (executorStep P J overrun config ids)
      ⟨⟨(HostRelayRuntime.create relayId sessionId config).start, 0⟩, []⟩ es
    let log := trace.filterMap (handled W)
    p.state.runtime.registry = registryAfter P {} (log.map Prod.snd) ∧
      (∀ k c, p.connections[k]? = some c → Served W (es.filterMap PoolEvent.stream) log
        (trace.filterMap (answered W (executorServer P ids))) k c) ∧
      (∀ k, p.state.runtime.link.transport = some k →
        k + 1 = p.connections.length ∧ ∃ c, p.connections[k]? = some c ∧ c.ending = none) ∧
      (PoolEvent.other .stop ∉ es →
        p.state.runtime.link.transport = lastOpen p.connections) := by
  intro W trace log
  have hattached : ∀ stops : Prop, (PoolEvent.other .stop ∈ es → stops) → Attached stops p := by
    intro stops hstops
    refine Run.run_invariant_of (I := Attached stops)
      (Q := fun _ e => e = .other .stop → stops) (fun _ _ _ ha hq h => ha.step hq h) (Or.inl rfl)
      (fun q hq he => hstops ?_) hrun
    obtain ⟨es₁, es₂, _, rfl, -, -⟩ := Run.mem_trace hrun hq
    rw [← he]
    simp
  refine ⟨?_, fun k c hc => served_of_run hrun hc, fun k hk => ?_, fun hno => ?_⟩
  · have hall := Run.run_invariant_trace
      (I := fun p tr => p.state.runtime.registry
        = registryAfter P {} ((tr.filterMap (handled W)).map Prod.snd))
      (Q := KeepsOthers P) (l := []) (fun p e p' tr hr hq h => ?_) rfl hkeeps hrun
    · exact hall
    · rw [registry_executorStep hq h, hr, filterMap_concat, List.map_append, registryAfter,
        registryAfter, registryAfter, List.foldl_append]
  · rcases hattached True fun _ => trivial with ha | ⟨-, ha⟩
    · exact lastOpen_eq_some (ha.symm.trans hk)
    · cases ha.symm.trans hk
  · rcases hattached False hno with ha | ⟨hfalse, -⟩
    · exact ha
    · exact hfalse.elim

/-! Two executors connect, and each has a word. -/

def twoExecutors : List ExecutorEvent :=
  let stream := frame (tepWire .strict verbatimJson (fun _ => "overrun") .default) Tep.registerTwice
  [.connect stream, .connect stream, .turn 0, .turn 1]

theorem twoExecutors_share :
    let step := executorStep .strict verbatimJson (fun _ => "overrun") {} fun _ => "n"
    let start : ExecutorPool := ⟨⟨(HostRelayRuntime.create "host" "session").start, 0⟩, []⟩
    let W := tepWire .strict verbatimJson (fun _ => "overrun") {}
    ∃ p, Run.run step start twoExecutors = some p ∧
      let trace := Run.trace step start twoExecutors
      let log := trace.filterMap (handled W)
      p.state.runtime.registry = registryAfter .strict {} (log.map Prod.snd) ∧
        (∀ k c, p.connections[k]? = some c → Served W (twoExecutors.filterMap PoolEvent.stream) log
          (trace.filterMap (answered W (executorServer .strict fun _ => "n"))) k c) ∧
        (∀ k, p.state.runtime.link.transport = some k →
          k + 1 = p.connections.length ∧ ∃ c, p.connections[k]? = some c ∧ c.ending = none) ∧
        p.state.runtime.link.transport = lastOpen p.connections := by
  intro step start W
  have hsome : (Run.run step start twoExecutors).isSome = true := by decide +kernel
  obtain ⟨p, hrun⟩ := Option.isSome_iff_exists.mp hsome
  obtain ⟨hregistry, hserved, hopen, hattached⟩ := executors_share_host .strict verbatimJson
    (fun _ => "overrun") "host" "session" {} (fun _ => "n") hrun fun q hq => by
      obtain ⟨es₁, es₂, _, hes, -, -⟩ := Run.mem_trace hrun hq
      have hmem : q.2 ∈ twoExecutors := by simp [hes]
      obtain ⟨u, e⟩ := q
      simp only [twoExecutors, List.mem_cons, List.not_mem_nil, or_false] at hmem
      rcases hmem with rfl | rfl | rfl | rfl <;> trivial
  exact ⟨p, hrun, hregistry, hserved, hopen, hattached (by simp [twoExecutors])⟩

end NaiaRelay.Runtime
