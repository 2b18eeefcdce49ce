import Mathlib.Data.List.Forall2
import NaiaRelay.ExecutorLoop

set_option autoImplicit false

/-!
The two ways a message of the executor enters the host: the serve loops call
`handle_executor_stdio_message`, everything else `handle_tep_message`.

On the same messages the two leave the same registry and the same records and give the same
replies. They differ in two things: only `handle_tep_message` records heartbeats, and only it
asks whether the host is started.
-/

namespace NaiaRelay.Tep

open NaiaRelay.Pydantic NaiaRelay.Registry

/-- What a payload leaves in the records of the handler. -/
def Payload.record (records : TEPRecords) : Payload → TEPRecords
  | resourceResult p => { records with lastResourceResult := some p.modelDump }
  | promptResult p => { records with lastPromptResult := some p.modelDump }
  | executionProgress p => { records with lastProgress := some p.modelDump }
  | executionResult p => { records with lastExecutionResult := some p.modelDump }
  | executionError p => { records with lastExecutionError := some p.modelDump }
  | disconnectNotice _ => { records with executorAvailable := false }
  | _ => records

/-- A registration under a name that is taken, or a removal of one that is not there. -/
def Refused (registry : RegistryStore) : Mutation → Prop
  | .register k d => k.key d ∈ (registry.table k).dict
  | .deregister k name => name ∉ (registry.table k).dict

/-- The message is refused, or it leaves the handler as it is: the first change it asks for is
refused, and the records already say what it reports. -/
def LeavesAsIs (P : Platform) (h : TEPHandler) (message : Obj) : Prop :=
  ∀ envelope payload, parse P message = some (envelope, payload) →
    (∀ m ∈ (payload.mutations envelope.sessionId).head?, Refused h.registry m) ∧
      payload.record h.records = h.records

variable {P : Platform} {callbacks : TEPCallbacks} {newMessageId : String} {h : TEPHandler}

lemma refused_iff {registry : RegistryStore} {m : Mutation} :
    Refused registry m ↔ ∃ e, registry.mutate m = .error e := by
  cases m with
  | register k d =>
    constructor
    · exact fun hm => ⟨_, RegistryStore.register_eq_error.mpr ⟨hm, rfl⟩⟩
    · exact fun ⟨e, he⟩ => (RegistryStore.register_eq_error.mp he).1
  | deregister k name =>
    constructor
    · exact fun hm => ⟨_, RegistryStore.deregister_eq_error.mpr ⟨hm, rfl⟩⟩
    · exact fun ⟨e, he⟩ => (RegistryStore.deregister_eq_error.mp he).1

lemma afterMutations_eq_self {registry : RegistryStore} {l : List Mutation} :
    afterMutations registry l = registry ↔ ∀ m ∈ l.head?, Refused registry m := by
  cases l with
  | nil => simp [afterMutations]
  | cons m l =>
    simp only [List.head?_cons, Option.mem_def, Option.some.injEq, forall_eq', refused_iff]
    constructor
    · intro heq
      cases hm : registry.mutate m with
      | error e => exact ⟨e, rfl⟩
      | ok next =>
        have hrun : Batch.forEach RegistryStore.mutate registry
            (Batch.accepted RegistryStore.mutate registry (m :: l))
              = (.ok (), afterMutations registry (m :: l)) := Batch.forEach_accepted registry _
        have hrev := RegistryStore.revision_forEach_mutate hrun
        rw [heq, Batch.accepted, hm, List.length_cons] at hrev
        push_cast at hrev
        omega
    · rintro ⟨e, he⟩
      rw [afterMutations, Batch.forEach_cons_error l he]

lemma dispatch_records (envelope : TEPEnvelope) (payload : Payload) :
    (h.dispatch callbacks newMessageId envelope payload).2.records = payload.record h.records := by
  cases payload with
  | executeTool p => simp only [TEPHandler.dispatch]; split <;> rfl
  | readResource p => simp only [TEPHandler.dispatch]; split <;> rfl
  | getPrompt p => simp only [TEPHandler.dispatch]; split <;> rfl
  | _ => rfl

lemma handleMessage_leaves_iff (callbacks : TEPCallbacks) (newMessageId : String) (message : Obj) :
    ((h.handleMessage P callbacks newMessageId message).2.registry = h.registry ∧
        (h.handleMessage P callbacks newMessageId message).2.records = h.records) ↔
      LeavesAsIs P h message := by
  rw [handleMessage_registry]
  unfold mutations LeavesAsIs
  cases hp : parse P message with
  | none =>
    rw [handleMessage_registry_of_parse_none hp]
    simp [afterMutations]
  | some x =>
    obtain ⟨envelope, payload⟩ := x
    rw [handleMessage_of_parse hp, dispatch_records, Option.elim_some, afterMutations_eq_self]
    constructor
    · rintro hx _ _ heq
      cases heq
      exact hx
    · exact fun hx => hx envelope payload rfl

end NaiaRelay.Tep

namespace NaiaRelay.Runtime

open NaiaRelay.Registry NaiaRelay.Tep

variable (P : Platform) {T : Type}

/-- A host and the time of the last heartbeat it recorded. -/
structure MonitoredHost (T : Type) where
  host : HostRelayRuntime
  lastHeartbeatAt : Option T := none

/-- A message, the id drawn for its reply, and what `time.monotonic()` reads meanwhile. -/
structure Delivery (T : Type) where
  newMessageId : String
  message : Obj
  clock : T

/-- `message.get("message_type") == "heartbeat"`. -/
def isHeartbeat (message : Obj) : Bool :=
  match Obj.get message "message_type" with
  | some (.str t) => t == "heartbeat"
  | _ => false

namespace MonitoredHost

def recordHeartbeat (h : MonitoredHost T) (clock : T) : MonitoredHost T :=
  { h with lastHeartbeatAt := some clock }

def start (h : MonitoredHost T) (clock : T) : MonitoredHost T :=
  { host := h.host.start, lastHeartbeatAt := some clock }

/-- `handle_tep_message`, which always replies if it does not raise. -/
def handleTepMessage (h : MonitoredHost T) (d : Delivery T) :
    Except Exc (Option Obj) × MonitoredHost T :=
  match h.host.base.ensureStarted with
  | .error e => (.error e, h)
  | .ok _ =>
    let h := if isHeartbeat d.message then h.recordHeartbeat d.clock else h
    let x := h.host.handleTepMessage P d.newMessageId d.message
    (x.1.map some, { h with host := x.2 })

/-- `_handle_tep_message_with_runtime`, for a host. -/
def handleTepMessageWithRuntime (h : MonitoredHost T) (d : Delivery T) :
    Except Exc (Option Obj) × MonitoredHost T :=
  let x := h.host.handleExecutorStdioMessage P d.newMessageId d.message
  (x.1, { h with host := x.2 })

/-- The messages one after the other through one of the two, exceptions caught: how each of
them ends, and the host after the last. -/
def deliver (handle : MonitoredHost T → Delivery T → Except Exc (Option Obj) × MonitoredHost T)
    (h : MonitoredHost T) : List (Delivery T) → List (Except Exc (Option Obj)) × MonitoredHost T
  | [] => ([], h)
  | d :: ds =>
    let x := handle h d
    let rest := deliver handle x.2 ds
    (x.1 :: rest.1, rest.2)

end MonitoredHost

/-- What is compared of two hosts. -/
structure Matches (h h' : MonitoredHost T) : Prop where
  registry : h.host.registry = h'.host.registry
  tep : h.host.tep = h'.host.tep
  lastHeartbeatAt : h.lastHeartbeatAt = h'.lastHeartbeatAt

/-- Where the second replies, the first gives the same reply. -/
def ReplyMatches (outcome outcome' : Except Exc (Option Obj)) : Prop :=
  ∀ reply, outcome' = .ok reply → outcome = .ok reply

/-- The serve loops' path from the one host and `handle_tep_message` from the other end alike. -/
def AgreeFrom (h h' : MonitoredHost T) (ds : List (Delivery T)) : Prop :=
  let served := MonitoredHost.deliver (MonitoredHost.handleTepMessageWithRuntime P) h ds
  let handled := MonitoredHost.deliver (MonitoredHost.handleTepMessage P) h' ds
  Matches served.2 handled.2 ∧ List.Forall₂ ReplyMatches served.1 handled.1

/-- The two paths agree on these messages. -/
def EntryPointsAgree (h : MonitoredHost T) (ds : List (Delivery T)) : Prop := AgreeFrom P h h ds

/-- The host is started and the message is no heartbeat, unless the clock reads what was
recorded already; or the host is not started and the message changes nothing. -/
def Alike (h : MonitoredHost T) (d : Delivery T) : Prop :=
  if h.host.base.started then isHeartbeat d.message = true → h.lastHeartbeatAt = some d.clock
  else LeavesAsIs P ⟨h.host.registry, h.host.tep⟩ d.message

variable {P}

open HostRelayRuntime

/-! ### One message -/

lemma handleExecutorStdioMessage_spec (h : HostRelayRuntime) (newMessageId : String) {message : Obj}
    (hr : expectsReply P message = true) :
    let served := h.handleExecutorStdioMessage P newMessageId message
    let handled := TEPHandler.handleMessage P (executorCallbacks P) newMessageId
      ⟨h.registry, h.tep⟩ message
    served.2.registry = handled.2.registry ∧ served.2.tep = handled.2.records ∧
      ∀ reply, handled.1 = .ok reply → served.1 = .ok (some reply) := by
  have hno : ¬ endsWith (messageText P message "message_type") "_response" = true := by
    simpa [expectsReply] using hr
  intro served handled
  have hsnd : (TEPHandler.handleMessageOrError P (executorCallbacks P) newMessageId
      ⟨h.registry, h.tep⟩ message).2 = handled.2 := handleMessageOrError_snd message
  have hserved : served = h.handleExecutorStdioMessage P newMessageId message := rfl
  unfold handleExecutorStdioMessage at hserved
  dsimp only at hserved
  rw [if_neg hno] at hserved
  unfold tepHandleMessageOrError at hserved
  dsimp only at hserved
  rw [hsnd] at hserved
  cases hx : (TEPHandler.handleMessageOrError P (executorCallbacks P) newMessageId
      ⟨h.registry, h.tep⟩ message).1 with
  -- the reply goes out, and what is recorded is neither the registry nor the records
  | ok response =>
    obtain ⟨rlp, -, he⟩ := recordMessage_eq (P := P)
      { h with registry := handled.2.registry, tep := handled.2.records }
      (messageText P message "message_type") message
    rw [hx] at hserved
    dsimp only at hserved
    rw [he] at hserved
    rw [hserved]
    refine ⟨rfl, rfl, fun reply hreply => ?_⟩
    rw [handleMessageOrError_of_ok hreply, Except.ok.injEq] at hx
    rw [hx]
  | error e =>
    rw [hx] at hserved
    rw [hserved]
    refine ⟨rfl, rfl, fun reply hreply => ?_⟩
    rw [handleMessageOrError_of_ok hreply] at hx
    simp at hx

lemma handleTepMessage_of_started {h : MonitoredHost T} (hs : h.host.base.started = true)
    (d : Delivery T) :
    let handled := TEPHandler.handleMessage P (executorCallbacks P) d.newMessageId
      ⟨h.host.registry, h.host.tep⟩ d.message
    h.handleTepMessage P d = (handled.1.map some,
      { host := { h.host with
          registry := handled.2.registry
          tep := handled.2.records
          base := h.host.base.countFailure handled.1 }
        lastHeartbeatAt := if isHeartbeat d.message then some d.clock else h.lastHeartbeatAt }) := by
  unfold MonitoredHost.handleTepMessage HostRelayRuntime.handleTepMessage
  simp only [BaseRelayRuntime.ensureStarted, hs, if_true]
  cases isHeartbeat d.message <;> simp [MonitoredHost.recordHeartbeat, hs]

lemma handleTepMessage_of_not_started {h : MonitoredHost T} (hs : h.host.base.started = false)
    (d : Delivery T) : ∃ e, h.handleTepMessage P d = (.error e, h) := by
  unfold MonitoredHost.handleTepMessage
  simp only [BaseRelayRuntime.ensureStarted, hs]
  exact ⟨_, rfl⟩

lemma started_handleTepMessage (h : MonitoredHost T) (d : Delivery T) :
    (h.handleTepMessage P d).2.host.base.started = h.host.base.started := by
  cases hs : h.host.base.started with
  | true =>
    rw [handleTepMessage_of_started hs]
    exact (BaseRelayRuntime.sameLoad_countFailure _ _).started.trans hs
  | false =>
    obtain ⟨e, he⟩ := handleTepMessage_of_not_started (P := P) hs d
    rw [he, hs]

variable {h h' : MonitoredHost T} {d : Delivery T}

lemma step_matches (hm : Matches h h') (hr : expectsReply P d.message = true) :
    ReplyMatches (h.handleTepMessageWithRuntime P d).1 (h'.handleTepMessage P d).1 ∧
      (Matches (h.handleTepMessageWithRuntime P d).2 (h'.handleTepMessage P d).2 ↔
        Alike P h' d) := by
  obtain ⟨hreg, htep, hreply⟩ := handleExecutorStdioMessage_spec h.host d.newMessageId hr
  rw [hm.registry, hm.tep] at hreg htep hreply
  unfold Alike
  cases hst : h'.host.base.started with
  -- on a host that is started the two differ in what they note of a heartbeat
  | true =>
    rw [handleTepMessage_of_started hst, if_pos rfl]
    constructor
    · -- The reply is the one of the handler.
      intro reply hreply'
      cases hx : (TEPHandler.handleMessage P (executorCallbacks P) d.newMessageId
          ⟨h'.host.registry, h'.host.tep⟩ d.message).1 with
      | error e => simp [hx, Except.map] at hreply'
      | ok response =>
        obtain rfl : some response = reply := by simpa [hx, Except.map] using hreply'
        exact hreply response hx
    · constructor
      · intro hafter hbeat
        have hlast := hafter.lastHeartbeatAt
        rw [if_pos hbeat] at hlast
        exact hm.lastHeartbeatAt.symm.trans hlast
      · intro hbeat
        refine ⟨hreg, htep, ?_⟩
        show h.lastHeartbeatAt = _
        split
        · rename_i hb
          exact hm.lastHeartbeatAt.trans (hbeat hb)
        · exact hm.lastHeartbeatAt
  -- on one that is not, `handle_tep_message` raises and leaves everything
  | false =>
    obtain ⟨e, he⟩ := handleTepMessage_of_not_started (P := P) hst d
    rw [he, if_neg (by simp), ← handleMessage_leaves_iff (executorCallbacks P) d.newMessageId]
    refine ⟨fun reply hreply' => by simp at hreply', ?_⟩
    constructor
    · exact fun hafter => ⟨hreg.symm.trans hafter.registry, htep.symm.trans hafter.tep⟩
    · exact fun hsame => ⟨hreg.trans hsame.1, htep.trans hsame.2, hm.lastHeartbeatAt⟩

lemma alike_after (ha : Alike P h d) (d' : Delivery T) :
    Alike P (h.handleTepMessage P d).2 d' ↔ Alike P h d' := by
  cases hst : h.host.base.started with
  | true =>
    have hlast : (h.handleTepMessage P d).2.lastHeartbeatAt = h.lastHeartbeatAt := by
      rw [Alike, if_pos hst] at ha
      rw [handleTepMessage_of_started hst]
      show (if _ then _ else _) = _
      split
      · rename_i hb
        exact (ha hb).symm
      · rfl
    rw [Alike, Alike, started_handleTepMessage, hst, if_pos rfl, if_pos rfl, hlast]
  | false =>
    obtain ⟨e, he⟩ := handleTepMessage_of_not_started (P := P) hst d
    rw [he]

/-! ### Every run -/

lemma agreeFrom_cons_iff {ds : List (Delivery T)} (hm : Matches h h') :
    (∀ sent, sent <+: d :: ds → AgreeFrom P h h' sent) ↔
      ReplyMatches (h.handleTepMessageWithRuntime P d).1 (h'.handleTepMessage P d).1 ∧
        ∀ sent, sent <+: ds → AgreeFrom P (h.handleTepMessageWithRuntime P d).2
          (h'.handleTepMessage P d).2 sent := by
  constructor
  · intro hall
    have hcons : ∀ sent, sent <+: ds → AgreeFrom P h h' (d :: sent) := fun sent hsent =>
      hall (d :: sent) (List.cons_prefix_cons.mpr ⟨rfl, hsent⟩)
    refine ⟨?_, fun sent hsent => ?_⟩
    · obtain ⟨-, hreplies⟩ := hcons [] (List.nil_prefix)
      exact (List.forall₂_cons.mp hreplies).1
    · obtain ⟨hafter, hreplies⟩ := hcons sent hsent
      exact ⟨hafter, (List.forall₂_cons.mp hreplies).2⟩
  · rintro ⟨hreply, hall⟩ sent hsent
    cases sent with
    | nil => exact ⟨hm, .nil⟩
    | cons d' sent =>
      obtain ⟨rfl, hrest⟩ := List.cons_prefix_cons.mp hsent
      obtain ⟨hafter, hreplies⟩ := hall sent hrest
      exact ⟨hafter, .cons hreply hreplies⟩

lemma agreeFrom_iff {ds : List (Delivery T)} (hm : Matches h h')
    (hs : h.host.base.started = h'.host.base.started)
    (hr : ∀ d ∈ ds, expectsReply P d.message = true) :
    (∀ sent, sent <+: ds → AgreeFrom P h h' sent) ↔ ∀ d ∈ ds, Alike P h' d := by
  induction ds generalizing h h' with
  | nil =>
    constructor
    · simp
    · intro _ sent hsent
      obtain rfl := List.prefix_nil.mp hsent
      exact ⟨hm, .nil⟩
  | cons d ds ih =>
    obtain ⟨hreply, hiff⟩ := step_matches hm (hr d (by simp))
    have hr' : ∀ d ∈ ds, expectsReply P d.message = true := fun d hd =>
      hr d (List.mem_cons_of_mem _ hd)
    have hs' : (h.handleTepMessageWithRuntime P d).2.host.base.started
        = (h'.handleTepMessage P d).2.host.base.started := by
      rw [started_handleTepMessage, ← hs]
      exact started_handleExecutorStdioMessage h.host d.newMessageId d.message
    rw [agreeFrom_cons_iff hm, List.forall_mem_cons]
    constructor
    · rintro ⟨-, hall⟩
      have hafter := (hall [] (List.nil_prefix)).1
      have ha := hiff.mp hafter
      exact ⟨ha, fun d' hd' => (alike_after ha d').mp ((ih hafter hs' hr').mp hall d' hd')⟩
    · rintro ⟨ha, hall⟩
      refine ⟨hreply, (ih (hiff.mpr ha) hs' hr').mpr fun d' hd' => ?_⟩
      exact (alike_after ha d').mpr (hall d' hd')

/-- **When the two entry points agree.** On messages that are no responses, every state that is
reached is the same on both paths, and every reply of `handle_tep_message` is also the serve
loops' reply, exactly when the host is started and gets no heartbeat that moves its clock, or
is not started and gets only messages that change nothing. -/
theorem entryPointsAgree_iff (P : Platform) (h : MonitoredHost T) (ds : List (Delivery T))
    (hr : ∀ d ∈ ds, expectsReply P d.message = true) :
    (∀ sent, sent <+: ds → EntryPointsAgree P h sent) ↔ ∀ d ∈ ds, Alike P h d :=
  agreeFrom_iff ⟨rfl, rfl, rfl⟩ rfl hr

/-- A host that is started when the clock reads 0. -/
def monitored : MonitoredHost ℕ :=
  MonitoredHost.start { host := HostRelayRuntime.create "relay" "session" } 0

/-- A heartbeat, at the time given. -/
def heartbeatAt (clock : ℕ) : Delivery ℕ where
  newMessageId := "n"
  message := executorMessage "heartbeat" [("timestamp", .str "t")]
  clock

/-- The serve loops do not record a heartbeat that `handle_tep_message` records. -/
theorem heartbeat_not_recorded :
    ¬ EntryPointsAgree .strict monitored [heartbeatAt 5] ∧
      (monitored.handleTepMessageWithRuntime .strict (heartbeatAt 5)).2.lastHeartbeatAt = some 0 ∧
      (monitored.handleTepMessage .strict (heartbeatAt 5)).2.lastHeartbeatAt = some 5 ∧
      expectsReply .strict (heartbeatAt 5).message = true :=
  ⟨fun h => (nomatch h.1.lastHeartbeatAt), rfl, rfl, by decide⟩

/-- On registering and removing a tool the paths agree. -/
theorem addTool_removeTool_agree :
    EntryPointsAgree .strict monitored
      [⟨"n", addTool.message, 1⟩, ⟨"n", removeTool.message, 2⟩] := by
  refine (entryPointsAgree_iff .strict monitored
    [⟨"n", addTool.message, 1⟩, ⟨"n", removeTool.message, 2⟩] (by decide)).mpr ?_ _
      (List.prefix_refl _)
  intro d hd hbeat
  simp only [List.mem_cons, List.not_mem_nil, or_false] at hd
  rcases hd with rfl | rfl <;> exact absurd hbeat (by decide)

end NaiaRelay.Runtime
