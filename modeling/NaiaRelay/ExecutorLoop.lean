import NaiaRelay.HostLink

set_option autoImplicit false

/-!
The loop that serves an executor over stdio, and the messages it does not survive.
-/

namespace NaiaRelay.Runtime

open NaiaRelay.Pydantic NaiaRelay.Registry NaiaRelay.Tep

open HostRelayRuntime

/-- A message the loop reads, and what else happened to the host while it waited for it. -/
structure TepTurn where
  newMessageId : String
  message : Obj
  meanwhile : HostRelayRuntime → HostRelayRuntime := id
  started_meanwhile : ∀ h, h.base.started = true → (meanwhile h).base.started = true := by
    exact fun _ hs => hs

/-- The loop of `serve_tep_stdio`, up to the end of its input: what is written for each
message, how the loop ends, and the host then. -/
def tepLoop (P : Platform) (h : HostRelayRuntime) :
    List TepTurn → List (Option Obj) × Except Exc Unit × HostRelayRuntime
  | [] => ([], .ok (), h)
  | t :: ts =>
    let h := t.meanwhile h
    if h.base.started then
      match h.handleExecutorStdioMessage P t.newMessageId t.message with
      | (.error e, h) => ([], .error e, h)
      | (.ok reply, h) =>
        let rest := tepLoop P h ts
        (reply :: rest.1, rest.2)
    else ([], .ok (), h)

/-- `serve_tep_stdio` on a host, with the messages it has received; how they are received from the
bytes of a stream, and when that ends the loop, is in `serveTepStdioStream`. -/
def serveTepStdio (P : Platform) (h : HostRelayRuntime) (adapter : ℕ) (turns : List TepTurn) :
    List (Option Obj) × Except Exc Unit × HostRelayRuntime :=
  let x := tepLoop P { h with link := h.link.attach adapter } turns
  (x.1, x.2.1, { x.2.2 with link := (x.2.2.link.detach (some adapter)).stop }.stopped)

/-! ### What the loop should do -/

/-- Whether a message is to be replied to. -/
def expectsReply (P : Platform) (message : Obj) : Bool :=
  !endsWith (messageText P message "message_type") "_response"

/-- The loop handled every message, and replied to those that are to be replied to. -/
def ServedAll (P : Platform) (turns : List TepTurn)
    (served : List (Option Obj) × Except Exc Unit × HostRelayRuntime) : Prop :=
  served.2.1 = .ok () ∧ served.1.map Option.isSome = turns.map fun t => expectsReply P t.message

/-- The entries a message asks to remove. -/
def removals (P : Platform) (message : Obj) : List (Kind × String) :=
  (mutations P message).filterMap fun
    | .register _ _ => none
    | .deregister k name => some (k, name)

def isObject : Json → Bool
  | .obj _ => true
  | _ => false

/-- The messages the loop survives: a response without an object for a payload finds no
request waiting for it, and entries to remove are there and named once. -/
def Survivable (P : Platform) (h : HostRelayRuntime) (message : Obj) : Prop :=
  if expectsReply P message then
    (removals P message).Nodup ∧ ∀ r ∈ removals P message, r.2 ∈ (h.registry.table r.1).dict
  else
    h.link.pendingFuture .request (messageText P message "request_id") = none ∨
      isObject (Obj.getD message "payload" (.obj [])) = true

instance (P : Platform) (h : HostRelayRuntime) (message : Obj) :
    Decidable (Survivable P h message) := by
  unfold Survivable
  infer_instance

/-- Each message with the host that meets it. -/
def met (P : Platform) (h : HostRelayRuntime) : List TepTurn → List (HostRelayRuntime × Obj)
  | [] => []
  | t :: ts =>
    (t.meanwhile h, t.message) ::
      met P ((t.meanwhile h).handleExecutorStdioMessage P t.newMessageId t.message).2 ts

/-! ### One message -/

variable {P : Platform}

lemma mutations_shape (message : Obj) :
    (removals P message = [] ∧ ∀ m ∈ mutations P message, m.isRegister = true) ∨
      ∃ (k : Kind) (names : List String), mutations P message = names.map (.deregister k) ∧
        removals P message = names.map (k, ·) := by
  unfold removals mutations
  cases parse P message with
  | none => exact Or.inl ⟨rfl, by simp⟩
  | some x =>
    obtain ⟨envelope, payload⟩ := x
    rw [Option.elim_some]
    cases payload with
    | registerTools p => exact Or.inl (by simp [Payload.mutations, Mutation.isRegister])
    | registerResources p => exact Or.inl (by simp [Payload.mutations, Mutation.isRegister])
    | registerPrompts p => exact Or.inl (by simp [Payload.mutations, Mutation.isRegister])
    | deregisterTools p =>
      exact Or.inr ⟨.tool, p.toolNames, rfl, by simp [Payload.mutations, List.filterMap_map]⟩
    | deregisterResources p =>
      exact Or.inr ⟨.resource, p.resourceUris, rfl,
        by simp [Payload.mutations, List.filterMap_map]⟩
    | deregisterPrompts p =>
      exact Or.inr ⟨.prompt, p.promptNames, rfl, by simp [Payload.mutations, List.filterMap_map]⟩
    | _ => exact Or.inl (by simp [Payload.mutations])

lemma forEach_raises_iff (registry : RegistryStore) (message : Obj) :
    (∃ e, (Batch.forEach RegistryStore.mutate registry (mutations P message)).1 = .error e ∧
        e.isValueError = false) ↔
      ¬ ((removals P message).Nodup ∧
        ∀ r ∈ removals P message, r.2 ∈ (registry.table r.1).dict) := by
  have hraised : ∀ e, (Batch.forEach RegistryStore.mutate registry (mutations P message)).1
      = .error e → ∃ m ∈ mutations P message, e.isValueError = m.isRegister := by
    intro e he
    obtain ⟨pre, m, post, hl, -, hm⟩ := Batch.forEach_error he
    exact ⟨m, by rw [hl]; simp, RegistryStore.isValueError_of_mutate hm⟩
  rcases mutations_shape (P := P) message with ⟨hr, hreg⟩ | ⟨k, names, hm, hr⟩
  · rw [hr]
    constructor
    · rintro ⟨e, he, hv⟩
      obtain ⟨m, hmem, hem⟩ := hraised e he
      rw [hreg m hmem, hv] at hem
      contradiction
    · intro hn
      simp at hn
  · have hall : ((removals P message).Nodup ∧
        ∀ r ∈ removals P message, r.2 ∈ (registry.table r.1).dict) ↔
          names.Nodup ∧ ∀ name ∈ names, name ∈ (registry.table k).dict := by
      rw [hr, List.nodup_map_iff fun a b hab => (Prod.mk.inj hab).2]
      simp
    rw [hall, ← RegistryStore.forEach_deregister_ok, hm]
    constructor
    · rintro ⟨e, he, -⟩ ⟨u, hu⟩
      rw [he] at hu
      simp at hu
    · intro hn
      cases hf : (Batch.forEach RegistryStore.mutate registry (names.map (.deregister k))).1 with
      | ok u => exact absurd ⟨u, hf⟩ hn
      | error e =>
        refine ⟨e, rfl, ?_⟩
        rw [← hm] at hf
        obtain ⟨m, hmem, hem⟩ := hraised e hf
        rw [hm, List.mem_map] at hmem
        obtain ⟨name, -, rfl⟩ := hmem
        exact hem

lemma responseOutcome_obj (payload : Obj) :
    ∃ outcome, responseOutcome P (.obj payload) = .ok outcome := by
  unfold responseOutcome
  dsimp only
  split <;> exact ⟨_, rfl⟩

lemma handleResponse_cases (h : HostRelayRuntime) (message : Obj) :
    ((h.link.pendingFuture .request (messageText P message "request_id") = none ∨
        isObject (Obj.getD message "payload" (.obj [])) = true) ∧
      (h.handleResponse P message).1 = .ok none) ∨
    (¬ (h.link.pendingFuture .request (messageText P message "request_id") = none ∨
        isObject (Obj.getD message "payload" (.obj [])) = true) ∧
      ∃ e, (h.handleResponse P message).1 = .error e) := by
  unfold handleResponse
  dsimp only
  cases hp : h.link.pendingFuture .request (messageText P message "request_id") with
  | none => exact Or.inl ⟨Or.inl rfl, rfl⟩
  | some i =>
    cases hv : Obj.getD message "payload" (.obj []) with
    | obj o =>
      refine Or.inl ⟨Or.inr rfl, ?_⟩
      obtain ⟨outcome, ho⟩ := responseOutcome_obj (P := P) o
      rw [ho]
    | _ => exact Or.inr ⟨by simp [isObject], _, rfl⟩

lemma handleExecutorStdioMessage_cases (h : HostRelayRuntime) (newMessageId : String)
    (message : Obj) :
    (Survivable P h message ∧ ∃ reply,
        (h.handleExecutorStdioMessage P newMessageId message).1 = .ok reply ∧
          reply.isSome = expectsReply P message) ∨
      (¬ Survivable P h message ∧ ∃ e,
        (h.handleExecutorStdioMessage P newMessageId message).1 = .error e) := by
  unfold Survivable handleExecutorStdioMessage
  dsimp only
  by_cases hr : endsWith (messageText P message "message_type") "_response" = true
  · have he : expectsReply P message = false := by simp [expectsReply, hr]
    rw [if_pos hr, he]
    rcases handleResponse_cases (P := P) h message with ⟨hs, hx⟩ | ⟨hs, e, hx⟩
    · exact Or.inl ⟨hs, none, hx, rfl⟩
    · exact Or.inr ⟨hs, e, hx⟩
  · have he : expectsReply P message = true := by simpa [expectsReply] using hr
    rw [if_neg hr, he, if_pos rfl]
    have hiff := forEach_raises_iff (P := P) h.registry message
    rcases handleMessageOrError_cases (P := P) ⟨h.registry, h.tep⟩ newMessageId message with
      ⟨⟨response, hx⟩, hall⟩ | ⟨e, hx, he, hv⟩
    · refine Or.inl ⟨?_, some response, ?_, rfl⟩
      · by_contra hn
        obtain ⟨e, he, hv⟩ := hiff.mpr hn
        rw [hall e he] at hv
        contradiction
      · unfold tepHandleMessageOrError
        dsimp only
        rw [hx]
    · refine Or.inr ⟨hiff.mp ⟨e, he, hv⟩, e, ?_⟩
      unfold tepHandleMessageOrError
      dsimp only
      rw [hx]

/-! ### The loop -/

lemma started_handleExecutorStdioMessage (h : HostRelayRuntime) (newMessageId : String)
    (message : Obj) :
    (h.handleExecutorStdioMessage P newMessageId message).2.base.started = h.base.started := by
  obtain ⟨tep, rlp, -, he⟩ := handleExecutorStdioMessage_eq (P := P) h newMessageId message
  rw [he]

/-- **The loop survives exactly the survivable messages.** On a started host, the loop handles
every message and replies to those that are to be replied to if and only if each is survivable
where it is met. -/
theorem servedAll_iff_survivable (P : Platform) (h : HostRelayRuntime) (adapter : ℕ)
    (turns : List TepTurn) (hs : h.base.started = true) :
    ServedAll P turns (serveTepStdio P h adapter turns) ↔
      ∀ p ∈ met P { h with link := h.link.attach adapter } turns, Survivable P p.1 p.2 := by
  have hloop : ∀ h : HostRelayRuntime, h.base.started = true →
      (ServedAll P turns (tepLoop P h turns) ↔ ∀ p ∈ met P h turns, Survivable P p.1 p.2) := by
    clear hs h
    induction turns with
    | nil => intro h hs; simp [ServedAll, tepLoop, met]
    | cons t ts ih =>
      intro h hs
      have ht := t.started_meanwhile h hs
      have hs' := (started_handleExecutorStdioMessage (P := P) (t.meanwhile h) t.newMessageId
        t.message).trans ht
      rw [met, List.forall_mem_cons, ← ih _ hs', tepLoop]
      dsimp only
      rw [if_pos ht]
      rcases handleExecutorStdioMessage_cases (P := P) (t.meanwhile h) t.newMessageId t.message with
        ⟨hsurv, reply, hx, hrep⟩ | ⟨hsurv, e, hx⟩
      · have hhandled : (t.meanwhile h).handleExecutorStdioMessage P t.newMessageId t.message
            = (.ok reply, _) := Prod.ext hx rfl
        rw [hhandled]
        simp [ServedAll, hsurv, hrep]
      · have hraised : (t.meanwhile h).handleExecutorStdioMessage P t.newMessageId t.message
            = (.error e, _) := Prod.ext hx rfl
        rw [hraised]
        simp [ServedAll, hsurv]
  exact hloop { h with link := h.link.attach adapter } hs

/-- A message of an executor with the fields every message needs. -/
def executorMessage (messageType : String) (payload : Obj) : Obj :=
  [("protocol", .str "tep"), ("version", .str "1.0"), ("message_type", .str messageType),
    ("message_id", .str "m"), ("payload", .obj payload)]

def removeTool : TepTurn where
  newMessageId := "n"
  message := executorMessage "deregister_tools" [("tool_names", .arr [.str "a"])]

def addTool : TepTurn where
  newMessageId := "n"
  message := executorMessage "register_tools"
    [("tools", .arr [.obj [("name", .str "a"), ("description", .str ""),
      ("input_schema", .obj [])]])]

/-! Removing a tool that is not there ends the loop. -/

example : (serveTepStdio .strict startedHost 0 [removeTool]).2.1 = .error (.keyError (.str "a")) := rfl

example : (serveTepStdio .strict startedHost 0 [addTool, removeTool]).2.1 = .ok () := rfl

end NaiaRelay.Runtime
