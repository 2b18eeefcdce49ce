import NaiaRelay.BindRetry
import NaiaRelay.ReadyFile
import NaiaRelay.RelayRuntime
import NaiaRelay.TcpBind

set_option autoImplicit false

/-!
The start of a relay: the listeners are opened, a client binds to its host, and the readiness file
tells whoever waits for it where the listeners are. It may fail or be killed anywhere.
-/

namespace NaiaRelay.Config.RelayAppConfig

def mcp : RelayAppConfig → Option McpConfig
  | direct c => some c.mcp
  | host _ => none
  | client c => some c.mcp

def executor : RelayAppConfig → Option TcpEndpointConfig
  | direct c => some c.executor
  | host c => some c.executor
  | client _ => none

end NaiaRelay.Config.RelayAppConfig

namespace NaiaRelay.Runtime

open NaiaRelay.Config NaiaRelay.Rlp NaiaRelay.Transports

variable (P : Platform)

/-- `_auto_bind_tcp_relay_link`, from the end of the greeting to the first attempt to bind. -/
def ClientRelayRuntime.helloReply (c : ClientRelayRuntime) (hello : Outcome Obj) :
    Except Exc Binding × ClientRelayRuntime :=
  match c.base.withTimeout c.base.config.connectionTimeoutSeconds "Relay-link hello"
    (Coroutine.await () id) hello with
  | (.error e, base) => (.error e, { c with base })
  | (.ok hello, base) =>
    let b : Binding := ⟨HostRelayRuntime.messageText P hello "relay_session_id",
      HostRelayRuntime.messageText P hello "source_relay_id"⟩
    if b.hostSessionId = "" ∨ b.hostRelayId = "" then (.error helloFailed, { c with base })
    else (.ok b, { c with base }.bindStart b)

/-! ### What is asked for -/

/-- The arguments of `run_from_config`, and the ids that are drawn. -/
structure Launch where
  config : RelayAppConfig
  once : Bool
  readyFile : Option FilePath
  relayId : String
  sessionId : String

/-- What is awaited before a relay is ready. -/
inductive Preparation
  /-- `_start_tep_listener`, `_start_mcp_http_listener` or `_start_rlp_listener`. -/
  | listen (l : Listener) (asked : Address)
  /-- `_auto_bind_tcp_relay_link`. -/
  | autoBind

/-- What a relay does when it is ready. -/
inductive LastStep
  /-- With `--once` it stops. -/
  | stop
  | serveMcpStdio
  | serveTepStdio
  /-- It waits to be cancelled. -/
  | wait

/-- Where a configuration wants a listener. The port of an http one is there by its
requirements. -/
def asked (config : RelayAppConfig) : Listener → Option Address
  | .executor => config.executor.bind fun c =>
    if c.transport = .tcp then
      c.bindPort.map fun port => ⟨orText c.bindHost (orText c.host "127.0.0.1"), port⟩
    else none
  | .mcp => config.mcp.bind fun c =>
    if c.transport = .http then c.port.map fun port => ⟨orText c.host "127.0.0.1", port⟩ else none
  | .relayLink =>
    match config with
    | .host c => c.relayLink.bindPort.map fun port => ⟨orText c.relayLink.bindHost "127.0.0.1", port⟩
    | _ => none

def autoBinds : RelayAppConfig → Bool
  | .client _ => true
  | _ => false

/-- What is done before a relay is ready, in this order. -/
def preparations (config : RelayAppConfig) : List Preparation :=
  Listener.all.filterMap (fun l => (asked config l).map (.listen l))
    ++ if autoBinds config then [.autoBind] else []

def lastStep (config : RelayAppConfig) (once : Bool) : LastStep :=
  if once then .stop
  else
    match config.mcp, config.executor with
    | some mcp, some executor =>
      if executor.transport = .stdio then
        if mcp.transport = .stdio then .serveMcpStdio else .serveTepStdio
      else if mcp.transport = .stdio then .serveMcpStdio
      else .wait
    | some mcp, none => if mcp.transport = .stdio then .serveMcpStdio else .wait
    | none, some executor => if executor.transport = .stdio then .serveTepStdio else .wait
    | none, none => .wait

/-! ### The start -/

inductive Stage
  | prepares (todo : List Preparation)
  /-- An attempt to bind, with so many left after it. -/
  | binds (b : Binding) (left : ℕ) (todo : List Preparation)
  | announces (path : FilePath)
  | serves (last : LastStep)
  | ended (result : Except Exc Unit)

/-- A relay that starts, with the files around it. -/
structure Startup where
  relay : RelayRuntime
  servers : Listener → Option Address := fun _ => none
  /-- `resolved_listeners` -/
  listeners : Obj := []
  files : Aside.Files FilePath Char
  writing : Aside.Phase := .ready
  stage : Stage

/-- The stage with this left to prepare. -/
def Launch.goOn (a : Launch) : List Preparation → Stage
  | [] =>
    match a.readyFile with
    | some path => .announces path
    | none => .serves (lastStep a.config a.once)
  | todo => .prepares todo

/-- The runtime, when it has started. -/
def Launch.relay (a : Launch) : RelayRuntime :=
  (createRuntime a.relayId a.sessionId a.config).start

/-- `run_from_config`, up to its first await. -/
def Launch.begin (a : Launch) (files : Aside.Files FilePath Char) : Startup where
  relay := a.relay
  files
  stage := a.goOn (preparations a.config)

/-- The address a listener may get. A socket keeps the port it is given, unless that is 0; an http
listener is told as it was asked for. -/
def Listener.Fits (l : Listener) (asked address : Address) : Prop :=
  (asked.port ≠ 0 → address.port = asked.port) ∧ (l = .mcp → address = asked)

instance (l : Listener) (asked address : Address) : Decidable (l.Fits asked address) :=
  inferInstanceAs (Decidable ((asked.port ≠ 0 → address.port = asked.port) ∧
    (l = .mcp → address = asked)))

inductive StartupEvent
  /-- Something comes in while the start waits, or when it is over. -/
  | relay (e : RelayEvent)
  /-- The listener is open. -/
  | listening (address : Address)
  /-- The greeting ends. -/
  | greeted (hello : Outcome Obj)
  /-- An attempt to bind ends. -/
  | answered (ids : NewIds) (outcome : Outcome Obj)
  /-- The readiness file is written on. -/
  | file (e : Aside.Event)
  /-- What is awaited or written fails. -/
  | fails (e : Exc)
  /-- The last step is over. -/
  | ends

def portMissing : Exc :=
  configurationError "client relay tcp transport requires relay_link.port"

/-- Whether a client knows where its host is. -/
def knowsHost : RelayAppConfig → Bool
  | .client c => c.relayLink.port.isSome
  | _ => false

namespace Startup

variable (a : Launch)

def payload (s : Startup) : Json := s.relay.base.readinessPayload s.listeners

def close (s : Startup) (result : Except Exc Unit) : Startup :=
  { s with relay := s.relay.stopped, servers := fun _ => none, stage := .ended result }

/-- One event; `none` where it cannot happen. -/
def step (s : Startup) : StartupEvent → Option Startup
  | .relay e =>
    match s.stage with
    | .prepares _ | .binds _ _ _ | .serves _ => (s.relay.step P e).map fun relay => { s with relay }
    | _ => none
  | .listening address =>
    match s.stage with
    | .prepares (.listen l asked :: todo) =>
      if l.Fits asked address then
        some { s with
          servers := Function.update s.servers l (some address)
          listeners := assign s.listeners l.name (address.describe l)
          stage := a.goOn todo }
      else none
    | _ => none
  | .greeted hello =>
    match s.stage, s.relay with
    | .prepares (.autoBind :: todo), .client c =>
      match c.runtime.helloReply P (if knowsHost a.config then hello else .raises portMissing) with
      | (.ok b, runtime) => some { s with
          relay := .client { c with runtime }
          stage := .binds b runtime.base.config.reconnectAttempts todo }
      | (.error e, runtime) =>
        some { s with relay := .client { c with runtime }, stage := .ended (.error e) }
    | _, _ => none
  | .answered ids outcome =>
    match s.stage, s.relay with
    | .binds b left todo, .client c =>
      match c.runtime.bindReply P ids b outcome, left with
      | (.ended (.ok _), runtime), _ =>
        some { s with relay := .client { c with runtime }, stage := a.goOn todo }
      | (.ended (.error e), runtime), _ =>
        some { s with relay := .client { c with runtime }, stage := .ended (.error e) }
      | (.failed _, runtime), left + 1 => some { s with
          relay := .client { c with runtime := runtime.attempt }
          stage := .binds b left todo }
      | (.failed e, runtime), 0 =>
        some { s with relay := .client { c with runtime }, stage := .ended (.error e) }
    | _, _ => none
  | .file e =>
    match s.stage with
    | .announces path =>
      match readinessJob P path s.payload with
      | .error exc => some { s with stage := .ended (.error exc) }
      | .ok job => (Aside.step job (s.files, s.writing) e).map fun x =>
        { s with
          files := x.1
          writing := x.2
          stage := if x.2 = .done then .serves (lastStep a.config a.once) else s.stage }
    | _ => none
  | .fails e =>
    match s.stage with
    | .prepares _ | .binds _ _ _ | .announces _ => some { s with stage := .ended (.error e) }
    | .serves .serveMcpStdio | .serves .serveTepStdio => some (s.close (.error e))
    | _ => none
  | .ends =>
    match s.stage with
    | .serves .wait => some (s.close (.error (.other "CancelledError" "")))
    | .serves _ => some (s.close (.ok ()))
    | _ => none

end Startup

/-! ### What is ready -/

/-- What the host answers when an attempt to bind ends. -/
def StartupEvent.answer : StartupEvent → Option (Outcome Obj)
  | .answered _ outcome => some outcome
  | _ => none

/-- The last of its answers. -/
def lastAnswer (es : List StartupEvent) : Option (Outcome Obj) :=
  es.foldl (fun last e => e.answer.or last) none

/-- A mirror, and whether its host can be reached, after a bind with this last answer: its entries
and its revision are those of the snapshot in it. -/
def BoundBy (last : Option (Outcome Obj)) (mirror : Registry.RegistryStore × Bool) : Prop :=
  mirror.2 = true ∧ ∃ outcome snapshot, last = some outcome ∧
    answerSnapshot P outcome = some snapshot ∧ snapshot.HeldBy mirror.1

namespace Startup

/-- A relay that is what its configuration asks for: if it is a client, it has bound. -/
structure Ready (a : Launch) (last : Option (Outcome Obj)) (s : Startup) : Prop where
  standing : s.relay.base.uncounted = a.relay.base.uncounted
  opened : ∀ l, Option.Rel l.Fits (asked a.config l) (s.servers l)
  lists : Lists s.listeners s.servers
  client : s.relay.mirror.isSome = autoBinds a.config
  bound : ∀ m, s.relay.mirror = some m → BoundBy P last m

/-- A relay that has stopped. -/
structure Closed (a : Launch) (s : Startup) : Prop where
  standing : s.relay.base.uncounted = { a.relay.base.uncounted with started := false }
  servers : s.servers = fun _ => none
  lists : ∃ servers, (∀ l, Option.Rel l.Fits (asked a.config l) (servers l)) ∧
    Lists s.listeners servers

/-- The file at this path is the one with what the relay has to tell. -/
def Tells (s : Startup) (path : FilePath) : Prop :=
  ∃ text, Json.dumpsIndent 0 s.payload = .ok text ∧ s.files path = some (text ++ "\n").toList

end Startup

/-- A relay that is ready but for what is left to do. -/
structure Prepared (a : Launch) (last : Option (Outcome Obj)) (todo : List Preparation)
    (s : Startup) : Prop where
  left : todo <:+ preparations a.config
  standing : s.relay.base.uncounted = a.relay.base.uncounted
  opened : ∀ l, (∀ address, Preparation.listen l address ∉ todo) →
    Option.Rel l.Fits (asked a.config l) (s.servers l)
  lists : Lists s.listeners s.servers
  client : s.relay.mirror.isSome = autoBinds a.config
  bound : todo = [] → ∀ m, s.relay.mirror = some m → BoundBy P last m

variable {P} {a : Launch} {last : Option (Outcome Obj)} {s s' : Startup} {todo : List Preparation}

lemma started_relay (a : Launch) : a.relay.base.uncounted.started = true := by
  unfold Launch.relay createRuntime
  cases a.config <;> rfl

lemma Prepared.started (h : Prepared P a last todo s) : s.relay.base.started = true :=
  (congrArg BaseRelayRuntime.started h.standing).trans (started_relay a)

lemma Prepared.ready (h : Prepared P a last [] s) : s.Ready P a last :=
  ⟨h.standing, fun l => h.opened l (by simp), h.lists, h.client, h.bound rfl⟩

lemma mem_preparations {config : RelayAppConfig} {l : Listener} {address : Address} :
    Preparation.listen l address ∈ preparations config ↔ asked config l = some address := by
  unfold preparations
  rw [List.mem_append, List.mem_filterMap]
  constructor
  · rintro (⟨m, -, hm⟩ | hbind)
    · obtain ⟨x, hx, heq⟩ := Option.map_eq_some_iff.mp hm
      obtain ⟨rfl, rfl⟩ := Preparation.listen.inj heq
      exact hx
    · split_ifs at hbind <;> simp at hbind
  · intro h
    exact Or.inl ⟨l, l.mem_all, by rw [h]; rfl⟩

lemma getLast?_preparations {config : RelayAppConfig} (h : autoBinds config = true) :
    (preparations config).getLast? = some .autoBind := by
  rw [preparations, if_pos h, List.getLast?_concat]

lemma isSome_mirror (a : Launch) : a.relay.mirror.isSome = autoBinds a.config := by
  unfold Launch.relay createRuntime
  cases a.config <;> rfl

lemma ne_nil_of_autoBinds (h : autoBinds a.config = true) : preparations a.config ≠ [] := by
  intro hnone
  have hlast := getLast?_preparations h
  rw [hnone] at hlast
  cases hlast

lemma prepared_begin (a : Launch) (files : Aside.Files FilePath Char) :
    Prepared P a none (preparations a.config) (a.begin files) where
  left := List.suffix_rfl
  standing := rfl
  opened l hl := by
    have hnone : asked a.config l = none := by
      rw [Option.eq_none_iff_forall_ne_some]
      exact fun address h => hl address (mem_preparations.mpr h)
    rw [hnone]
    exact .none
  lists := lists_empty
  client := isSome_mirror a
  bound hnone m hm := by
    refine absurd hnone (ne_nil_of_autoBinds ?_)
    rw [← isSome_mirror a, show a.relay.mirror = some m from hm, Option.isSome_some]

/-! ### What is left to do is done -/

namespace Prepared

lemma relay {e : RelayEvent} {r : RelayRuntime} (h : Prepared P a last todo s)
    (hstep : s.relay.step P e = some r) {stage : Stage} :
    Prepared P a last todo { s with relay := r, stage } := by
  obtain ⟨hbase, hmirror⟩ := RelayRuntime.stands_step hstep
  refine ⟨h.left, hbase.trans h.standing, h.opened, h.lists, ?_, ?_⟩
  · dsimp only
    rw [hmirror]
    exact h.client
  · dsimp only
    rw [hmirror]
    exact h.bound

lemma listening {l : Listener} {wanted address : Address}
    (h : Prepared P a last (.listen l wanted :: todo) s) (hfits : l.Fits wanted address)
    {stage : Stage} : Prepared P a last todo { s with
      servers := Function.update s.servers l (some address)
      listeners := assign s.listeners l.name (address.describe l)
      stage } := by
  have hasked : asked a.config l = some wanted :=
    mem_preparations.mp (h.left.mem List.mem_cons_self)
  refine ⟨(List.suffix_cons _ _).trans h.left, h.standing, fun m hm => ?_, h.lists.assign l address,
    h.client, fun hnone m hm => ?_⟩
  · dsimp only
    by_cases hml : m = l
    · subst hml
      rw [Function.update_self, hasked]
      exact .some hfits
    · rw [Function.update_of_ne hml]
      refine h.opened m fun x hx => ?_
      rcases List.mem_cons.mp hx with heq | hx
      · exact hml (Preparation.listen.inj heq).1
      · exact hm x hx
  · -- a client has its bind left
    obtain ⟨before, hbefore⟩ := h.left
    have hbinds : autoBinds a.config = true := by
      rw [← h.client, show s.relay.mirror = some m from hm, Option.isSome_some]
    have hlast := getLast?_preparations hbinds
    rw [← hbefore, hnone, List.getLast?_concat] at hlast
    cases hlast

lemma write (h : Prepared P a last todo s) {files : Aside.Files FilePath Char}
    {writing : Aside.Phase} {stage : Stage} :
    Prepared P a last todo { s with files, writing, stage } :=
  ⟨h.left, h.standing, h.opened, h.lists, h.client, h.bound⟩

lemma binding {r : RelayRuntime} {last' : Option (Outcome Obj)}
    (h : Prepared P a last (.autoBind :: todo) s)
    (hbase : r.base.uncounted = s.relay.base.uncounted)
    (hmirror : r.mirror.isSome = s.relay.mirror.isSome) {stage : Stage} :
    Prepared P a last' (.autoBind :: todo) { s with relay := r, stage } where
  left := h.left
  standing := hbase.trans h.standing
  opened := h.opened
  lists := h.lists
  client := hmirror.trans h.client
  bound hnone := by cases hnone

lemma answered {r : RelayRuntime} {last' : Option (Outcome Obj)}
    (h : Prepared P a last (.autoBind :: todo) s)
    (hbase : r.base.uncounted = s.relay.base.uncounted)
    (hmirror : r.mirror.isSome = s.relay.mirror.isSome)
    (hbound : ∀ m, r.mirror = some m → BoundBy P last' m) {stage : Stage} :
    Prepared P a last' todo { s with relay := r, stage } where
  left := (List.suffix_cons _ _).trans h.left
  standing := hbase.trans h.standing
  opened l hl := h.opened l fun address hmem => by
    rcases List.mem_cons.mp hmem with heq | hmem
    · cases heq
    · exact hl address hmem
  lists := h.lists
  client := hmirror.trans h.client
  bound _ := hbound

end Prepared

/-! ### The bind -/

namespace ClientRelayRuntime

lemma uncounted_handleRlpMessage (c : ClientRelayRuntime) (ids : NewIds) (message : Obj) :
    (c.handleRlpMessage P ids message).2.base.uncounted = c.base.uncounted := by
  unfold handleRlpMessage
  split
  · rfl
  · dsimp only
    rw [BaseRelayRuntime.uncounted_countFailure]
    exact c.base.uncounted_withTimeout _ _ _ _

lemma uncounted_bindReply (c : ClientRelayRuntime) (ids : NewIds) (b : Binding)
    (outcome : Outcome Obj) :
    (c.bindReply P ids b outcome).2.base.uncounted = c.base.uncounted := by
  cases outcome with
  | raises exc => rfl
  | timesOut => rfl
  | returns response =>
    rcases bindReply_returns (P := P) (b := b) c ids response with
      ⟨-, e, hx⟩ | ⟨payload, status, -, -, hx⟩ | ⟨payload, -, hx⟩
    · rw [hx]
    · rw [hx]
    · rw [hx]
      cases item payload "details" with
      | error e => rfl
      | ok details => exact uncounted_handleRlpMessage c ids _

lemma heldBy_bindReply {c : ClientRelayRuntime} (hc : c.base.started = true) {ids : NewIds}
    {b : Binding} {outcome : Outcome Obj} {response : Obj}
    (h : (c.bindReply P ids b outcome).1 = .ended (.ok response)) :
    ∃ snapshot, answerSnapshot P outcome = some snapshot ∧
      snapshot.HeldBy (c.bindReply P ids b outcome).2.registry := by
  cases outcome with
  | raises exc => cases h
  | timesOut => cases h
  | returns response' =>
    rcases bindReply_returns (P := P) (b := b) c ids response' with
      ⟨-, e, hx⟩ | ⟨payload, status, -, -, hx⟩ | ⟨payload, hstatus, hx⟩
    · rw [hx] at h
      cases h
    · rw [hx] at h
      cases h
    · cases hd : item payload "details" with
      | error e =>
        rw [hx, hd] at h
        cases h
      | ok details =>
        rcases handleRlpMessage_snapshot (P := P) (b := b) hc ids details with
          ⟨o, snapshot, answer, rfl, hsnapshot, hhandle⟩ | ⟨-, e, hhandle⟩
        · refine ⟨snapshot, (answerSnapshot_of_ok hstatus).mpr ⟨o, hd, hsnapshot⟩, ?_⟩
          rw [hx, hd]
          dsimp only
          rw [hhandle]
          exact snapshot.heldBy_replace c.registry
        · rw [hx, hd] at h
          dsimp only at h
          rw [hhandle] at h
          cases h

lemma stands_bindReply {c : ClientRelayRuntime} (hc : c.base.started = true)
    (hupstream : c.upstream = true) (ids : NewIds) (b : Binding) (outcome : Outcome Obj) :
    let x := c.bindReply P ids b outcome
    x.2.base.uncounted = c.base.uncounted ∧ x.2.upstream = true ∧
      ∀ response, x.1 = .ended (.ok response) →
        ∃ snapshot, answerSnapshot P outcome = some snapshot ∧ snapshot.HeldBy x.2.registry :=
  ⟨c.uncounted_bindReply ids b outcome,
    (session_bindReply (P := P) c ids b outcome).2.trans hupstream, fun _ => heldBy_bindReply hc⟩

lemma stands_helloReply (c : ClientRelayRuntime) (hello : Outcome Obj) :
    (c.helloReply P hello).2.base.uncounted = c.base.uncounted ∧
      ∀ b, (c.helloReply P hello).1 = .ok b → (c.helloReply P hello).2.upstream = true := by
  unfold helloReply
  cases hello with
  | raises e => exact ⟨rfl, by rintro b ⟨⟩⟩
  | timesOut => exact ⟨rfl, by rintro b ⟨⟩⟩
  | returns hello =>
    dsimp only [BaseRelayRuntime.withTimeout, id]
    split_ifs
    · exact ⟨rfl, by rintro b ⟨⟩⟩
    · exact ⟨rfl, fun _ _ => rfl⟩

end ClientRelayRuntime

/-! ### A bind in one go -/

/-- What follows when the bind is over. -/
def Launch.after {A : Type} (a : Launch) (todo : List Preparation) : Except Exc A → Stage
  | .ok _ => a.goOn todo
  | .error e => .ended (.error e)

lemma bindAttempts_run {S : Type} (requester : S → Obj → Outcome Obj × S) (ids : NewIds)
    (b : Binding) (left : ℕ) {s : Startup} {c : ClientSystem} (t : S)
    (hstage : s.stage = .binds b left todo) (hrelay : s.relay = .client c) :
    let x := ClientRelayRuntime.bindAttempts P requester ids b left c.runtime t
    ∃ es, Run.run (Startup.step P a) s es = some { s with
      relay := .client { c with runtime := x.2.1 }
      stage := a.after todo x.1 } := by
  induction left generalizing s c t with
  | zero =>
    refine ⟨[.answered ids (requester t (c.runtime.bindMessage b)).1], ?_⟩
    simp only [Run.run_cons, Startup.step, hstage, hrelay, ClientRelayRuntime.bindAttempts]
    generalize c.runtime.bindReply P ids b (requester t (c.runtime.bindMessage b)).1 = x
    obtain ⟨attempt, runtime⟩ := x
    cases attempt with
    | ended result => cases result <;> rfl
    | failed e => rfl
  | succ left ih =>
    simp only [ClientRelayRuntime.bindAttempts]
    cases hx : c.runtime.bindReply P ids b (requester t (c.runtime.bindMessage b)).1 with
    | mk attempt runtime =>
    cases attempt with
    | ended result =>
      refine ⟨[.answered ids (requester t (c.runtime.bindMessage b)).1], ?_⟩
      simp only [Run.run_cons, Startup.step, hstage, hrelay, hx]
      cases result <;> rfl
    | failed e =>
      obtain ⟨es, hes⟩ := ih (s := { s with
        relay := .client { c with runtime := runtime.attempt }
        stage := .binds b left todo }) (requester t (c.runtime.bindMessage b)).2 rfl rfl
      refine ⟨.answered ids (requester t (c.runtime.bindMessage b)).1 :: es, ?_⟩
      rw [Run.run_cons]
      simp only [Startup.step, hstage, hrelay, hx]
      exact hes

/-- **A bind over TCP is a run of the start**, whatever its host does: one greeting and one step
for each attempt. -/
theorem autoBind_run (J : JsonModule Json Obj) (overrun : Bytes → String) (side : HostSide)
    (newMessageId : String) (ids : NewIds) (host : LinkHost) {c : ClientSystem}
    (hknows : knowsHost a.config = true) (hstage : s.stage = .prepares (.autoBind :: todo))
    (hrelay : s.relay = .client c) :
    let x := c.runtime.autoBindTcpRelayLink P J overrun side newMessageId ids host
    ∃ es, Run.run (Startup.step P a) s es = some { s with
      relay := .client { c with runtime := x.2.1 }
      stage := a.after todo x.1 } := by
  simp only [ClientRelayRuntime.autoBindTcpRelayLink]
  cases hx : c.runtime.tcpRoundTrip P J overrun side host (c.runtime.helloMessage newMessageId) with
  | mk answer host' =>
  cases answer with
  -- no greeting, or one that is of no use, ends the start
  | error e =>
    refine ⟨[.greeted (.raises e)], ?_⟩
    simp only [Run.run_cons, Startup.step, hstage, hrelay, if_pos hknows]
    rfl
  | ok hello =>
    dsimp only
    by_cases hnone : HostRelayRuntime.messageText P hello "relay_session_id" = "" ∨
        HostRelayRuntime.messageText P hello "source_relay_id" = ""
    · refine ⟨[.greeted (.returns hello)], ?_⟩
      have hreply : c.runtime.helloReply P (.returns hello)
          = (.error ClientRelayRuntime.helloFailed, c.runtime) := if_pos hnone
      simp only [Run.run_cons, Startup.step, hstage, hrelay, if_pos hknows, hreply, if_pos hnone]
      rfl
    -- after it, one step for each attempt
    · rw [if_neg hnone]
      have hreply : c.runtime.helloReply P (.returns hello) = (.ok _, c.runtime.bindStart _) :=
        if_neg hnone
      obtain ⟨es, hes⟩ := @bindAttempts_run P a todo LinkHost
        (c.runtime.tcpRequester P J overrun side) ids
        ⟨HostRelayRuntime.messageText P hello "relay_session_id",
          HostRelayRuntime.messageText P hello "source_relay_id"⟩
        c.runtime.base.config.reconnectAttempts
        { s with
          relay := .client { c with runtime := c.runtime.bindStart _ }
          stage := .binds _ c.runtime.base.config.reconnectAttempts todo }
        { c with runtime := c.runtime.bindStart _ } host' rfl rfl
      refine ⟨.greeted (.returns hello) :: es, ?_⟩
      rw [Run.run_cons]
      simp only [Startup.step, hstage, hrelay, if_pos hknows, hreply]
      refine hes.trans ?_
      rw [ClientRelayRuntime.bindViaRequester]
      generalize ClientRelayRuntime.bindAttempts P _ ids _ _ _ host' = x
      obtain ⟨result, rest⟩ := x
      cases result <;> rfl

/-! ### The start, step by step -/

/-- Nobody has been told that the relay is ready. -/
structure Untold (a : Launch) (before files : Aside.Files FilePath Char) : Prop where
  spared : ∀ p, (∀ path, a.readyFile = some path → p ≠ path ∧ p ≠ path.beside) →
    files p = before p
  kept : ∀ path, a.readyFile = some path → files path = before path

/-- It has been told, if it was to be. -/
structure Told (a : Launch) (before : Aside.Files FilePath Char) (s : Startup) : Prop where
  spared : ∀ p, (∀ path, a.readyFile = some path → p ≠ path ∧ p ≠ path.beside) →
    s.files p = before p
  tells : ∀ path, a.readyFile = some path → s.Tells path

/-- Where a relay stands that started with these files, with the last answer of its host. -/
def Progress (P : Platform) (a : Launch) (before : Aside.Files FilePath Char)
    (last : Option (Outcome Obj)) (s : Startup) : Prop :=
  match s.stage with
  | .prepares todo => Prepared P a last todo s ∧ s.files = before ∧ s.writing = .ready
  | .binds _ _ todo =>
    Prepared P a last (.autoBind :: todo) s ∧ s.files = before ∧ s.writing = .ready ∧
      ∃ m, s.relay.mirror = some m ∧ m.2 = true
  | .announces path => a.readyFile = some path ∧ Prepared P a last [] s ∧ Untold a before s.files ∧
    s.writing ≠ .done ∧ ∀ job, readinessJob P path s.payload = .ok job →
      Aside.Written job before (s.files, s.writing)
  | .serves _ => Prepared P a last [] s ∧ Told a before s
  | .ended r => (Untold a before s.files ∧ ∃ e, r = .error e) ∨ (s.Closed a ∧ Told a before s)

variable {before : Aside.Files FilePath Char}

lemma untold_refl (a : Launch) (before : Aside.Files FilePath Char) : Untold a before before :=
  ⟨fun _ _ => rfl, fun _ _ => rfl⟩

lemma readinessPayload_congr {rt rt' : BaseRelayRuntime} (h : rt'.uncounted = rt.uncounted)
    (listeners : Obj) : rt'.readinessPayload listeners = rt.readinessPayload listeners := by
  change rt'.uncounted.readinessPayload listeners = rt.uncounted.readinessPayload listeners
  rw [h]

lemma readinessPayload_stopped (r : RelayRuntime) (listeners : Obj) :
    r.stopped.base.readinessPayload listeners = r.base.readinessPayload listeners := by
  cases r <;> rfl

lemma Prepared.goOn (h : Prepared P a last todo s) (hfiles : s.files = before)
    (hwriting : s.writing = .ready) (hstage : s.stage = a.goOn todo) :
    Progress P a before last s := by
  cases todo with
  | cons x todo =>
    rw [Progress, hstage]
    exact ⟨h, hfiles, hwriting⟩
  | nil =>
    cases hready : a.readyFile with
    | none =>
      have hserves : s.stage = .serves (lastStep a.config a.once) := by
        rw [hstage, Launch.goOn, hready]
      rw [Progress, hserves]
      refine ⟨h, fun _ _ => congrFun hfiles _, fun path hpath => ?_⟩
      rw [hready] at hpath
      cases hpath
    | some path =>
      have hannounces : s.stage = .announces path := by rw [hstage, Launch.goOn, hready]
      rw [Progress, hannounces]
      refine ⟨hready, h, hfiles ▸ untold_refl a _, ?_, fun job _ => ?_⟩
      · rw [hwriting]
        rintro ⟨⟩
      · rw [hfiles, hwriting]
        exact Aside.written_ready job before

lemma progress_begin (a : Launch) (before : Aside.Files FilePath Char) :
    Progress P a before none (a.begin before) :=
  (prepared_begin a before).goOn rfl rfl rfl

namespace Progress

lemma failed (h : Untold a before s.files) {e : Exc} (hstage : s.stage = .ended (.error e)) :
    Progress P a before last s := by
  rw [Progress, hstage]
  exact Or.inl ⟨h, e, rfl⟩

lemma closed (h : Prepared P a last [] s) (htold : Told a before s) (result : Except Exc Unit) :
    Progress P a before last (s.close result) := by
  refine Or.inr ⟨⟨?_, rfl, s.servers, h.ready.opened, h.lists⟩, htold.spared, fun path hpath => ?_⟩
  · exact (RelayRuntime.uncounted_stopped s.relay).trans (by rw [h.standing])
  · obtain ⟨text, htext, hfile⟩ := htold.tells path hpath
    exact ⟨text, (congrArg _ (readinessPayload_stopped _ _)).trans htext, hfile⟩

lemma relay {e : RelayEvent} (h : Progress P a before last s)
    (hstep : s.step P a (.relay e) = some s') : Progress P a before last s' := by
  cases hstage : s.stage with
  | prepares todo =>
    simp only [Startup.step, hstage] at hstep
    rw [Progress, hstage] at h
    obtain ⟨r, hr, rfl⟩ := Option.map_eq_some_iff.mp hstep
    exact ⟨h.1.relay hr, h.2⟩
  | binds b left todo =>
    simp only [Startup.step, hstage] at hstep
    rw [Progress, hstage] at h
    obtain ⟨r, hr, rfl⟩ := Option.map_eq_some_iff.mp hstep
    obtain ⟨hprepared, hfiles, hwriting, m, hm, hupstream⟩ := h
    exact ⟨hprepared.relay hr, hfiles, hwriting, m, (RelayRuntime.stands_step hr).2.trans hm,
      hupstream⟩
  | serves last =>
    simp only [Startup.step, hstage] at hstep
    rw [Progress, hstage] at h
    obtain ⟨r, hr, rfl⟩ := Option.map_eq_some_iff.mp hstep
    refine ⟨h.1.relay hr, h.2.spared, fun path hpath => ?_⟩
    obtain ⟨text, htext, hfile⟩ := h.2.tells path hpath
    exact ⟨text, (congrArg _ (readinessPayload_congr (RelayRuntime.stands_step hr).1 _)).trans htext,
      hfile⟩
  | announces path =>
    simp only [Startup.step, hstage] at hstep
    cases hstep
  | ended result =>
    simp only [Startup.step, hstage] at hstep
    cases hstep

lemma listening {address : Address} (h : Progress P a before last s)
    (hstep : s.step P a (.listening address) = some s') : Progress P a before last s' := by
  cases hstage : s.stage with
  | prepares todo =>
    rw [Progress, hstage] at h
    cases todo with
    | nil =>
      simp only [Startup.step, hstage] at hstep
      cases hstep
    | cons x todo =>
      cases x with
      | autoBind =>
        simp only [Startup.step, hstage] at hstep
        cases hstep
      | listen l wanted =>
        simp only [Startup.step, hstage] at hstep
        split_ifs at hstep with hfits
        obtain rfl := Option.some.inj hstep
        exact (h.1.listening hfits).goOn h.2.1 h.2.2 rfl
  | binds b left todo | announces path | serves last | ended result =>
    simp only [Startup.step, hstage] at hstep
    cases hstep

lemma greeted {hello : Outcome Obj} (h : Progress P a before last s)
    (hstep : s.step P a (.greeted hello) = some s') : Progress P a before last s' := by
  cases hstage : s.stage with
  | prepares todo =>
    rw [Progress, hstage] at h
    cases hrelay : s.relay with
    | direct d | host g =>
      simp only [Startup.step, hstage, hrelay] at hstep
      cases hstep
    | client c =>
      cases todo with
      | nil =>
        simp only [Startup.step, hstage, hrelay] at hstep
        cases hstep
      | cons x todo =>
        cases x with
        | listen l wanted =>
          simp only [Startup.step, hstage, hrelay] at hstep
          cases hstep
        | autoBind =>
          simp only [Startup.step, hstage, hrelay] at hstep
          obtain ⟨hbase, hupstream⟩ := c.runtime.stands_helloReply (P := P)
            (if knowsHost a.config then hello else .raises portMissing)
          generalize c.runtime.helloReply P
            (if knowsHost a.config then hello else .raises portMissing) = x at hstep hbase hupstream
          obtain ⟨result, runtime⟩ := x
          cases result with
          | error e =>
            obtain rfl := Option.some.inj hstep
            exact failed (h.2.1 ▸ untold_refl a _) rfl
          | ok b =>
            obtain rfl := Option.some.inj hstep
            refine ⟨h.1.binding ?_ ?_, h.2.1, h.2.2, _, rfl, hupstream b rfl⟩
            · rw [hrelay]
              exact hbase
            · rw [hrelay]
              rfl
  | binds b left todo | announces path | serves last | ended result =>
    simp only [Startup.step, hstage] at hstep
    cases hstep

lemma answered {ids : NewIds} {outcome : Outcome Obj} (h : Progress P a before last s)
    (hstep : s.step P a (.answered ids outcome) = some s') :
    Progress P a before (some outcome) s' := by
  cases hstage : s.stage with
  | binds b left todo =>
    rw [Progress, hstage] at h
    obtain ⟨hprepared, hfiles, hwriting, m, hm, hupstream⟩ := h
    cases hrelay : s.relay with
    -- only a client binds
    | direct d | host g =>
      simp only [Startup.step, hstage, hrelay] at hstep
      cases hstep
    | client c =>
      have hmirror : s.relay.mirror.isSome = true := by
        rw [hm, Option.isSome_some]
      have hstarted := hprepared.started
      rw [hrelay] at hm hstarted
      obtain rfl := Option.some.inj hm
      obtain ⟨hbase, hkept, hheld⟩ := ClientRelayRuntime.stands_bindReply (P := P) hstarted hupstream
        ids b outcome
      simp only [Startup.step, hstage, hrelay] at hstep
      generalize c.runtime.bindReply P ids b outcome = x at hstep hbase hkept hheld
      obtain ⟨attempt, runtime⟩ := x
      have hbase' : runtime.base.uncounted = s.relay.base.uncounted := by
        rw [hrelay]
        exact hbase
      have huntold : Untold a before s.files := hfiles ▸ untold_refl a _
      cases attempt with
      | ended result =>
        cases result with
        | error e =>
          obtain rfl := Option.some.inj hstep
          exact failed huntold rfl
        -- the mirror holds the snapshot of this answer, which is the last
        | ok response =>
          obtain rfl := Option.some.inj hstep
          refine (hprepared.answered (r := .client { c with runtime }) hbase' hmirror.symm ?_).goOn
            hfiles hwriting rfl
          rintro m ⟨⟩
          obtain ⟨snapshot, hsnapshot, hheld⟩ := hheld response rfl
          exact ⟨hkept, outcome, snapshot, rfl, hsnapshot, hheld⟩
      | failed e =>
        cases left with
        | zero =>
          obtain rfl := Option.some.inj hstep
          exact failed huntold rfl
        -- there is another attempt, and the mirror is stale
        | succ left =>
          obtain rfl := Option.some.inj hstep
          exact ⟨hprepared.binding (r := .client { c with runtime := runtime.attempt }) hbase'
              hmirror.symm, hfiles, hwriting, _, rfl, hkept⟩
  | prepares todo | announces path | serves last | ended result =>
    simp only [Startup.step, hstage] at hstep
    cases hstep

lemma file {e : Aside.Event} (h : Progress P a before last s)
    (hstep : s.step P a (.file e) = some s') : Progress P a before last s' := by
  cases hstage : s.stage with
  | announces path =>
    rw [Progress, hstage] at h
    obtain ⟨hready, hprepared, huntold, hwriting, hjob⟩ := h
    simp only [Startup.step, hstage] at hstep
    cases hj : readinessJob P path s.payload with
    | error e =>
      rw [hj] at hstep
      obtain rfl := Option.some.inj hstep
      exact failed huntold rfl
    | ok job =>
      rw [hj] at hstep
      obtain ⟨⟨files, writing⟩, hwrite, rfl⟩ := Option.map_eq_some_iff.mp hstep
      have hwritten := (hjob job hj).step hwrite
      obtain ⟨htarget, haside, text, htext, hjobText⟩ := readinessJob_eq_ok hj
      have hspared : ∀ p, (∀ path, a.readyFile = some path → p ≠ path ∧ p ≠ path.beside) →
          files p = before p := by
        intro p hp
        obtain ⟨hpath, hbeside⟩ := hp path hready
        exact hwritten.others p (htarget ▸ hpath) (haside ▸ hbeside)
      -- the move is the last step; before it the file itself is as it was
      by_cases hdone : writing = .done
      · subst hdone
        refine ⟨hprepared.write, hspared, fun path' hpath' => ?_⟩
        obtain rfl := Option.some.inj (hready.symm.trans hpath')
        have hfile := hwritten.replaced rfl
        rw [htarget, hjobText] at hfile
        exact ⟨text, htext, hfile⟩
      · dsimp only
        rw [if_neg hdone]
        refine ⟨hready, hprepared.write, ⟨hspared, fun path' hpath' => ?_⟩, hdone,
          fun job' hjob' => ?_⟩
        · obtain rfl := Option.some.inj (hready.symm.trans hpath')
          rw [← htarget]
          exact hwritten.kept hdone
        · obtain rfl := Except.ok.inj (hj.symm.trans hjob')
          exact hwritten
  | prepares todo | binds b left todo | serves last | ended result =>
    simp only [Startup.step, hstage] at hstep
    cases hstep

lemma fails {e : Exc} (h : Progress P a before last s) (hstep : s.step P a (.fails e) = some s') :
    Progress P a before last s' := by
  cases hstage : s.stage with
  | prepares todo | binds b left todo =>
    rw [Progress, hstage] at h
    simp only [Startup.step, hstage] at hstep
    obtain rfl := Option.some.inj hstep
    exact failed (h.2.1 ▸ untold_refl a _) rfl
  | announces path =>
    rw [Progress, hstage] at h
    simp only [Startup.step, hstage] at hstep
    obtain rfl := Option.some.inj hstep
    exact failed h.2.2.1 rfl
  | serves last =>
    rw [Progress, hstage] at h
    cases last with
    | serveMcpStdio | serveTepStdio =>
      simp only [Startup.step, hstage] at hstep
      obtain rfl := Option.some.inj hstep
      exact closed h.1 h.2 _
    | stop | wait =>
      simp only [Startup.step, hstage] at hstep
      cases hstep
  | ended result =>
    simp only [Startup.step, hstage] at hstep
    cases hstep

lemma ends (h : Progress P a before last s) (hstep : s.step P a .ends = some s') :
    Progress P a before last s' := by
  cases hstage : s.stage with
  | serves last =>
    rw [Progress, hstage] at h
    cases last with
    | stop | serveMcpStdio | serveTepStdio | wait =>
      simp only [Startup.step, hstage] at hstep
      obtain rfl := Option.some.inj hstep
      exact closed h.1 h.2 _
  | prepares todo | binds b left todo | announces path | ended result =>
    simp only [Startup.step, hstage] at hstep
    cases hstep

lemma step {e : StartupEvent} (h : Progress P a before last s) (hstep : s.step P a e = some s') :
    Progress P a before (e.answer.or last) s' := by
  cases e with
  | relay e => exact h.relay hstep
  | listening address => exact h.listening hstep
  | greeted hello => exact h.greeted hstep
  | answered ids outcome => exact h.answered hstep
  | file e => exact h.file hstep
  | fails e => exact h.fails hstep
  | ends => exact h.ends hstep

lemma run {es : List StartupEvent} (h : Run.run (Startup.step P a) (a.begin before) es = some s) :
    Progress P a before (lastAnswer es) s := by
  have hfold := Run.run_invariant_fold (I := fun s last => Progress P a before last s)
    (f := fun last p => p.2.answer.or last) (Q := fun _ _ => True)
    (fun _ _ _ _ hs _ hstep => hs.step hstep) (progress_begin a before) (fun _ _ => trivial) h
  rwa [lastAnswer, ← Run.trace_map_snd h, List.foldl_map]

lemma untold_or_told (h : Progress P a before last s) :
    (Untold a before s.files ∧ (∀ last, s.stage ≠ .serves last) ∧ s.stage ≠ .ended (.ok ())) ∨
      (Told a before s ∧ ((s.Ready P a last ∧ ∀ result, s.stage ≠ .ended result) ∨
        (s.Closed a ∧ ∀ last, s.stage ≠ .serves last))) := by
  cases hstage : s.stage with
  | prepares todo | binds b left todo =>
    rw [Progress, hstage] at h
    exact Or.inl ⟨h.2.1 ▸ untold_refl a _, by rintro last ⟨⟩, by rintro ⟨⟩⟩
  | announces path =>
    rw [Progress, hstage] at h
    exact Or.inl ⟨h.2.2.1, by rintro last ⟨⟩, by rintro ⟨⟩⟩
  | serves last =>
    rw [Progress, hstage] at h
    exact Or.inr ⟨h.2, Or.inl ⟨h.1.ready, by rintro result ⟨⟩⟩⟩
  | ended result =>
    rw [Progress, hstage] at h
    rcases h with ⟨huntold, e, rfl⟩ | ⟨hclosed, htold⟩
    · exact Or.inl ⟨huntold, by rintro last ⟨⟩, by rintro ⟨⟩⟩
    · exact Or.inr ⟨htold, Or.inr ⟨hclosed, by rintro last ⟨⟩⟩⟩

end Progress

lemma Startup.Tells.loads (F : Json.FloatText) {path : FilePath} (h : s.Tells path)
    (hlists : ∃ servers, Lists s.listeners servers) :
    ∃ text, s.files path = some text ∧
      Json.loads F (String.ofList text) = .ok (Json.sortKeys s.payload) := by
  obtain ⟨text, htext, hfile⟩ := h
  obtain ⟨servers, hlists⟩ := hlists
  refine ⟨_, hfile, ?_⟩
  rw [String.ofList_toList]
  exact Json.loads_append_of_readsAs
    (Json.readsAs_dumpsIndent 0 _ (hlists.wellFormed s.relay.base) text htext)
    (by simp [Json.Blanks, Json.isBlank])

/-- **Telling that a relay is ready.** However the start of a relay goes, whatever comes in
meanwhile and wherever it stops, it touches no file but the readiness file and the one beside it;
while it serves it is ready, its entries and revision those of its host's last answer if it is a
client, and when it has ended without an error it is closed. The readiness file is as it was, in a
relay that does not serve yet or that never did, or it is there as a whole and says where the relay
can be reached, in a relay that is ready or closed. -/
theorem startup_announces (F : Json.FloatText) {es : List StartupEvent}
    (h : Run.run (Startup.step P a) (a.begin before) es = some s) :
    (∀ p, (∀ path, a.readyFile = some path → p ≠ path ∧ p ≠ path.beside) → s.files p = before p) ∧
      (∀ last, s.stage = .serves last → s.Ready P a (lastAnswer es)) ∧
      (s.stage = .ended (.ok ()) → s.Closed a) ∧
      ∀ path, a.readyFile = some path →
        (s.files path = before path ∧ (∀ last, s.stage ≠ .serves last) ∧
            s.stage ≠ .ended (.ok ())) ∨
          ((s.Ready P a (lastAnswer es) ∨ s.Closed a) ∧ ∃ text, s.files path = some text ∧
            Json.loads F (String.ofList text) = .ok (Json.sortKeys s.payload)) := by
  rcases (Progress.run h).untold_or_told with ⟨huntold, hserves, hended⟩ | ⟨htold, hstands⟩
  · exact ⟨huntold.spared, fun last hlast => absurd hlast (hserves last),
      fun hend => absurd hend hended,
      fun path hpath => Or.inl ⟨huntold.kept path hpath, hserves, hended⟩⟩
  · have hlists : ∃ servers, Lists s.listeners servers := by
      rcases hstands with ⟨hready, -⟩ | ⟨hclosed, -⟩
      · exact ⟨_, hready.lists⟩
      · obtain ⟨servers, -, hlists⟩ := hclosed.lists
        exact ⟨servers, hlists⟩
    refine ⟨htold.spared, fun last hlast => ?_, fun hend => ?_,
      fun path hpath => Or.inr ⟨hstands.imp And.left And.left,
        (htold.tells path hpath).loads F hlists⟩⟩
    · rcases hstands with ⟨hready, -⟩ | ⟨-, hserves⟩
      · exact hready
      · exact absurd hlast (hserves last)
    · rcases hstands with ⟨-, hended⟩ | ⟨hclosed, -⟩
      · exact absurd hend (hended _)
      · exact hclosed

/-! ### One run -/

lemma announces_run {path : FilePath} {job : Aside.Job FilePath Char} {n : ℕ}
    (hstage : s.stage = .announces path) (hwriting : s.writing = .ready)
    (hjob : readinessJob P path s.payload = .ok job) (hn : job.text.length ≤ n) :
    ∃ files, Run.run (Startup.step P a) s [.file .opens, .file (.writes n), .file .moves]
      = some { s with files, writing := .done, stage := .serves (lastStep a.config a.once) } := by
  have hjob' : readinessJob P path (s.relay.base.readinessPayload s.listeners) = .ok job := hjob
  have hopens : s.step P a (.file .opens) = some { s with
      files := Function.update s.files job.aside (some [])
      writing := .writing 0 } := by
    simp only [Startup.step, hstage, hjob, hwriting, Aside.step, Option.map_some, reduceCtorEq,
      if_false]
  have hwrites : ∀ files, Startup.step P a { s with files, writing := .writing 0 }
      (.file (.writes n)) = some { s with
        files := Function.update files job.aside (some (job.text.take (0 + n)))
        writing := .writing (0 + n) } := by
    intro files
    simp only [Startup.step, Startup.payload, hstage, hjob', Aside.step, Option.map_some,
      reduceCtorEq, if_false]
  have hmoves : ∀ files, Startup.step P a { s with files, writing := .writing (0 + n) }
      (.file .moves) = some { s with
        files := Function.update (Function.update files job.target (files job.aside)) job.aside none
        writing := .done
        stage := .serves (lastStep a.config a.once) } := by
    intro files
    simp only [Startup.step, Startup.payload, hstage, hjob', Aside.step]
    rw [if_pos (by omega), Option.map_some, if_pos rfl]
  exact ⟨_, Run.run_cons_eq_some.mpr ⟨_, hopens, Run.run_cons_eq_some.mpr ⟨_, hwrites _,
    Run.run_cons_eq_some.mpr ⟨_, hmoves _, rfl⟩⟩⟩⟩

/-! A client that listens for http, with a host that has one tool. -/

def readyJson : FilePath := ⟨".", "ready.json", by decide⟩

def clientLaunch : Launch where
  config := .client
    { mcp :=
        { transport := .http
          host := some "127.0.0.1"
          port := some ⟨8000, by decide⟩
          requirements := by decide }
      relayLink :=
        { transport := .tcp
          host := some "127.0.0.1"
          port := some ⟨9000, by decide⟩
          bindHost := none
          bindPort := none
          requirements := by decide }
      relay := .default }
  once := false
  readyFile := some readyJson
  relayId := "client"
  sessionId := "session"

/-- The listener opens, and the host refuses once and then answers. -/
def clientBinds : List StartupEvent :=
  [.listening ⟨"127.0.0.1", 8000⟩,
    .greeted (.returns [("relay_session_id", .str "s"), ("source_relay_id", .str "host")]),
    .answered ⟨"r", "g"⟩ (.returns [("payload", .obj [("status", .str "error")])]),
    .answered ⟨"r", "g"⟩ (.returns [("payload", .obj [("status", .str "ok"),
      ("details", .obj [("registry_revision", .int 1),
        ("tools", .arr [.obj [("name", .str "a"), ("description", .str ""), ("input_schema", .obj []),
          ("metadata", .obj [])]]), ("resources", .arr []), ("prompts", .arr [])])])])]

/-- Then the file is written in one piece. -/
def clientStarts : List StartupEvent :=
  clientBinds ++ [.file .opens, .file (.writes 400), .file .moves]

/-- What the client tells. -/
def clientPayload : Json :=
  .obj [("event", .str "listener_ready"), ("role", .str "client"), ("relay_id", .str "client"),
    ("session_id", .str "session"), ("listeners", .obj [("mcp", .obj [("transport", .str "http"),
      ("host", .str "127.0.0.1"), ("port", .int 8000)])])]

/-- The entries of a mirror. -/
def entriesOf (registry : Registry.RegistryStore) : ℤ × List Registry.ToolDefinition ×
    List Registry.ResourceDefinition × List Registry.PromptDefinition :=
  (registry.revision, registry.tools.values, registry.resources.values, registry.prompts.values)

set_option maxRecDepth 8000 in
theorem startup_announces_client :
    ∃ s, Run.run (Startup.step .strict clientLaunch) (clientLaunch.begin fun _ => none) clientStarts
        = some s ∧
      (∀ p, (∀ path, clientLaunch.readyFile = some path → p ≠ path ∧ p ≠ path.beside) →
        s.files p = none) ∧
      s.stage = .serves .wait ∧ s.Ready .strict clientLaunch (lastAnswer clientStarts) ∧
      s.relay.mirror.map (fun m => entriesOf m.1)
        = some (1, [{ name := "a", description := "", inputSchema := [] }], [], []) ∧
      ∃ text, s.files readyJson = some text ∧
        Json.loads .verbatim (String.ofList text) = .ok (.obj [("event", .str "listener_ready"),
          ("listeners", .obj [("mcp", .obj [("host", .str "127.0.0.1"), ("port", .int 8000),
            ("transport", .str "http")])]),
          ("relay_id", .str "client"), ("role", .str "client"), ("session_id", .str "session")]) := by
  have hbinds : (Run.run (Startup.step .strict clientLaunch) (clientLaunch.begin fun _ => none)
      clientBinds).map (fun s => (s.stage, s.writing, s.payload,
        s.relay.mirror.map fun m => entriesOf m.1)) = some (.announces readyJson, .ready, clientPayload,
        some (1, [{ name := "a", description := "", inputSchema := [] }], [], [])) := rfl
  obtain ⟨t, ht, hx⟩ := Option.map_eq_some_iff.mp hbinds
  simp only [Prod.mk.injEq] at hx
  obtain ⟨hstage, hwriting, hpayload, hmirror⟩ := hx
  obtain ⟨job, hjob, hlength⟩ : ∃ job, readinessJob .strict readyJson clientPayload = .ok job ∧
      job.text.length ≤ 400 := ⟨_, rfl, by decide⟩
  obtain ⟨files, hfiles⟩ := announces_run (P := .strict) (a := clientLaunch) hstage hwriting
    (hpayload ▸ hjob) hlength
  have hrun : Run.run (Startup.step .strict clientLaunch) (clientLaunch.begin fun _ => none)
      clientStarts = some { t with files, writing := .done, stage := .serves .wait } :=
    Run.run_append_eq_some.mpr ⟨t, ht, hfiles⟩
  obtain ⟨hspared, hready, -, hfile⟩ := startup_announces .verbatim hrun
  rcases hfile readyJson rfl with ⟨-, hserves, -⟩ | ⟨-, text, htext, hloads⟩
  · exact absurd rfl (hserves _)
  · have hpayload' : t.relay.base.readinessPayload t.listeners = clientPayload := hpayload
    dsimp only [Startup.payload] at hloads
    rw [hpayload'] at hloads
    exact ⟨_, hrun, hspared, rfl, hready _ rfl, hmirror, text, htext, hloads⟩

end NaiaRelay.Runtime
