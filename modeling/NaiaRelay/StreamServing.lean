import NaiaRelay.Adapters
import NaiaRelay.McpLoop
import NaiaRelay.ReplyLoop

set_option autoImplicit false

/-!
The serve loops on the bytes they read and write. They do what the loops on messages do, with the
messages that are received, and what they write are the frames of their answers.
-/

namespace NaiaRelay.Runtime

open NaiaRelay.Registry NaiaRelay.Mcp NaiaRelay.Tep NaiaRelay.Transports

variable (P : Platform) (J : JsonModule Json Obj) (overrun : Bytes → String)

/-! ### Clients -/

/-- What a message of a client meets: the registry, and the end of the callback it may come to. -/
structure Surroundings where
  registry : RegistryStore
  outcome : Outcome Json

/-- A runtime that has handled this many messages. -/
structure McpServing where
  runtime : BaseRelayRuntime
  mcp : MCPRecords
  handled : ℕ := 0

/-- The loop of `serve_mcp_stdio`: whatever is raised where a message is received ends it. -/
def mcpServer (around : ℕ → Surroundings) : Service.Server Exc Exc McpServing Obj where
  up s := s.runtime.started
  handle s message :=
    let x := s.runtime.handleMcpMessage P s.mcp (around s.handled).registry message
      (around s.handled).outcome
    (x.1, ⟨x.2.1, x.2.2, s.handled + 1⟩)
  unreadable _ := .ok ()

def mcpWire (rt : BaseRelayRuntime) : Service.Wire Exc Exc Obj UInt8 :=
  lineWire P J overrun "mcp stdio transport reached EOF" rt.config.maxMessageSizeBytes

/-- `serve_mcp_stdio` on a stream: what is written, how the loop ends, and the runtime, which is
stopped. -/
def serveMcpStdioStream (around : ℕ → Surroundings) (rt : BaseRelayRuntime) (mcp : MCPRecords)
    (stream : Bytes) : Bytes × Except Exc Unit × BaseRelayRuntime :=
  let x := Service.serve (mcpWire P J overrun rt) (mcpServer P around) ⟨rt, mcp, 0⟩ stream
  (x.1, x.2.1, { x.2.2.runtime with started := false })

/-- How the transport takes an answer, if there is one. -/
def sending (maxMessageSizeBytes : ℤ) : Except Exc (Option Obj) → Except Exc Unit
  | .ok (some response) => (LineJsonFramer.encode J maxMessageSizeBytes response).map fun _ => ()
  | _ => .ok ()

/-- The turns of the loop on messages. -/
def mcpTurns (maxMessageSizeBytes : ℤ) (around : ℕ → Surroundings) :
    McpServing → List Obj → List McpTurn
  | _, [] => []
  | s, message :: messages =>
    let x := (mcpServer P around).handle s message
    { registry := (around s.handled).registry, message, outcome := (around s.handled).outcome
      sent := sending J maxMessageSizeBytes x.1 } :: mcpTurns maxMessageSizeBytes around x.2 messages

variable {P J overrun}

lemma answer_mcpServer (W : Service.Wire Exc Exc Obj UInt8) {N : ℤ}
    (hW : W.send = LineJsonFramer.encode J N) (around : ℕ → Surroundings) (s : McpServing)
    (messages : List Obj) :
    let served := serveMcpStdio P s.runtime s.mcp (mcpTurns P J N around s messages)
    let x := Service.answer W (mcpServer P around) (.ok ()) s messages
    x.1 = served.1.filterMap id ∧ x.2.1 = served.2 := by
  induction messages generalizing s with
  | nil =>
    refine ⟨rfl, ?_⟩
    simp only [Service.answer, ite_self]
    rfl
  | cons message messages ih =>
    obtain ⟨rt, mcp, n⟩ := s
    simp only [mcpTurns, serveMcpStdio, Service.answer, hW] at ih ⊢
    cases hs : rt.started with
    | false => simp [mcpServer, hs]
    | true =>
      cases hx : rt.handleMcpMessage P mcp (around n).registry message (around n).outcome with
      | mk outcome after =>
        have ih := ih ⟨after.1, after.2, n + 1⟩
        cases outcome with
        | error e => simp [mcpServer, hs, hx]
        | ok answered =>
          cases answered with
          | none =>
            simp only [mcpServer, hs, hx, if_true] at ih ⊢
            exact ih
          | some response =>
            cases hsend : LineJsonFramer.encode J N response with
            | error e => simp [mcpServer, hs, hx, hsend, sending, Except.map]
            | ok frame =>
              simp only [mcpServer, hs, hx, hsend, sending, Except.map, if_true] at ih ⊢
              exact ⟨congrArg (response :: ·) ih.1, ih.2⟩

/-- **The stdio loop on a stream** of bytes, whatever they are: it writes the frames of what the
loop on messages answers those that are received, ends like it, and leaves the runtime stopped. -/
theorem serveMcpStdio_stream (P : Platform) (J : JsonModule Json Obj) (overrun : Bytes → String)
    (around : ℕ → Surroundings) (rt : BaseRelayRuntime) (mcp : MCPRecords) (stream : Bytes) :
    let W := mcpWire P J overrun rt
    let served := serveMcpStdio P rt mcp (mcpTurns P J rt.config.maxMessageSizeBytes around
      ⟨rt, mcp, 0⟩ (Service.received W stream).1)
    let x := serveMcpStdioStream P J overrun around rt mcp stream
    x.1 = (served.1.filterMap id).flatMap (Service.frame W) ∧ x.2.1 = served.2 ∧
      x.2.2.started = false := by
  have hfinish : (Service.received (mcpWire P J overrun rt) stream).2.elim (.ok ())
      (mcpServer P around).unreadable = .ok () := by
    cases (Service.received (mcpWire P J overrun rt) stream).2 <;> rfl
  have hserve := Service.serve_eq_answer (W := mcpWire P J overrun rt) (S := mcpServer P around)
    ⟨rt, mcp, 0⟩ stream
  rw [hfinish] at hserve
  obtain ⟨hwritten, hending⟩ := answer_mcpServer (P := P) (mcpWire P J overrun rt) rfl around
    ⟨rt, mcp, 0⟩ (Service.received (mcpWire P J overrun rt) stream).1
  refine ⟨?_, ?_, rfl⟩
  · rw [serveMcpStdioStream, hserve]
    exact congrArg (List.flatMap _) hwritten
  · rw [serveMcpStdioStream, hserve]
    exact hending

/-! ### Executors -/

/-- What happens to a host while it waits for a message. -/
structure Meanwhile where
  change : HostRelayRuntime → HostRelayRuntime := id
  started : ∀ h, h.base.started = true → (change h).base.started = true := by exact fun _ hs => hs

/-- A runtime that has handled this many messages. -/
structure TepServing (R : Type) where
  runtime : R
  handled : ℕ := 0

/-- The loop of `serve_tep_stdio` and of the listener for executors. -/
def tepServer {R : Type} (w : Serving R) (ids : ℕ → String) (meanwhile : ℕ → R → R) :
    Service.Server Exc Exc (TepServing R) Obj where
  up s := w.started s.runtime
  handle s message :=
    let x := w.handle (meanwhile s.handled s.runtime) (ids s.handled) message
    (x.1, ⟨x.2, s.handled + 1⟩)
  unreadable _ := .ok ()

def tepWire (P : Platform) (J : JsonModule Json Obj) (overrun : Bytes → String)
    (config : RelayConfig) : Service.Wire Exc Exc Obj UInt8 :=
  lineWire P J overrun "stdio transport reached EOF" config.maxMessageSizeBytes

/-- The loop for an executor on a host, with its adapter attached. -/
def serveExecutor (P : Platform) (J : JsonModule Json Obj) (overrun : Bytes → String)
    (h : HostRelayRuntime) (adapter : ℕ) (ids : ℕ → String) (meanwhile : ℕ → Meanwhile)
    (stream : Bytes) : Bytes × Except Exc Unit × TepServing HostRelayRuntime :=
  Service.serve (tepWire P J overrun h.base.config)
    (tepServer (hostServing P) ids fun i => (meanwhile i).change)
    ⟨{ h with link := h.link.attach adapter }, 0⟩ stream

/-- `serve_tep_stdio` on a stream, for a host. -/
def serveTepStdioStream (P : Platform) (J : JsonModule Json Obj) (overrun : Bytes → String)
    (h : HostRelayRuntime) (adapter : ℕ) (ids : ℕ → String) (meanwhile : ℕ → Meanwhile)
    (stream : Bytes) : Bytes × Except Exc Unit × HostRelayRuntime :=
  let x := serveExecutor P J overrun h adapter ids meanwhile stream
  (x.1, x.2.1, { x.2.2.runtime with
    link := (x.2.2.runtime.link.detach (some adapter)).stop }.stopped)

/-- `handle_client` of the listener for executors: when it is over the host goes on. -/
def handleExecutorClient (P : Platform) (J : JsonModule Json Obj) (overrun : Bytes → String)
    (h : HostRelayRuntime) (adapter : ℕ) (ids : ℕ → String) (meanwhile : ℕ → Meanwhile)
    (stream : Bytes) : Bytes × Except Exc Unit × HostRelayRuntime :=
  let x := serveExecutor P J overrun h adapter ids meanwhile stream
  (x.1, x.2.1, { x.2.2.runtime with link := x.2.2.runtime.link.detach (some adapter) })

/-- The turns of the loop on messages. -/
def tepTurns (ids : ℕ → String) (meanwhile : ℕ → Meanwhile) : ℕ → List Obj → List TepTurn
  | _, [] => []
  | i, message :: messages =>
    { newMessageId := ids i, message, meanwhile := (meanwhile i).change
      started_meanwhile := (meanwhile i).started } :: tepTurns ids meanwhile (i + 1) messages

lemma answer_tepServer (W : Service.Wire Exc Exc Obj UInt8) (ids : ℕ → String)
    (meanwhile : ℕ → Meanwhile) {h : HostRelayRuntime} (hs : h.base.started = true) (i : ℕ)
    (messages : List Obj)
    (hsend : ∀ reply, some reply ∈ (tepLoop P h (tepTurns ids meanwhile i messages)).1 →
      ∃ frame, W.send reply = .ok frame) :
    let served := tepLoop P h (tepTurns ids meanwhile i messages)
    let x := Service.answer W (tepServer (hostServing P) ids fun i => (meanwhile i).change) (.ok ())
      ⟨h, i⟩ messages
    x.1 = served.1.filterMap id ∧ x.2.1 = served.2.1 ∧ x.2.2.runtime = served.2.2 ∧
      (served.2.1 = .ok () → x.2.2.handled = i + served.1.length) := by
  induction messages generalizing h i with
  | nil =>
    refine ⟨rfl, ?_, rfl, fun _ => rfl⟩
    simp only [Service.answer, ite_self]
    rfl
  | cons message messages ih =>
    have hs' := (meanwhile i).started h hs
    have hafter := started_handleExecutorStdioMessage (P := P) ((meanwhile i).change h) (ids i)
      message
    simp only [tepTurns, tepLoop, hs', if_true] at hsend
    simp only [tepTurns, tepLoop, Service.answer, tepServer, hostServing, hs, hs', if_true]
      at ih ⊢
    cases hx : ((meanwhile i).change h).handleExecutorStdioMessage P (ids i) message with
    | mk outcome after =>
      rw [hx] at hafter hsend
      cases outcome with
      -- the message ends the loop
      | error e => exact ⟨rfl, rfl, rfl, by rintro ⟨⟩⟩
      | ok reply =>
        obtain ⟨hwritten, hending, hstate, hcount⟩ := ih (h := after) (hafter.trans hs') (i + 1)
          fun r hr => hsend r (List.mem_cons_of_mem _ hr)
        have hhandled := fun hok => (hcount hok).trans (Nat.add_right_comm i 1 _)
        cases reply with
        | none => exact ⟨hwritten, hending, hstate, hhandled⟩
        | some reply =>
          obtain ⟨frame, hframe⟩ := hsend reply (by simp)
          dsimp only
          rw [hframe]
          exact ⟨congrArg (reply :: ·) hwritten, hending, hstate, hhandled⟩

/-- The loop for an executor on a stream is the loop on the messages that are received from it. -/
lemma serveExecutor_eq (P : Platform) (J : JsonModule Json Obj) (overrun : Bytes → String)
    {h : HostRelayRuntime} (hs : h.base.started = true) (adapter : ℕ) (ids : ℕ → String)
    (meanwhile : ℕ → Meanwhile) (stream : Bytes)
    (hsend : ∀ reply, some reply ∈ (serveTepStdio P h adapter (tepTurns ids meanwhile 0
      (Service.received (tepWire P J overrun h.base.config) stream).1)).1 →
        ∃ frame, LineJsonFramer.encode J h.base.config.maxMessageSizeBytes reply = .ok frame) :
    let W := tepWire P J overrun h.base.config
    let served := tepLoop P { h with link := h.link.attach adapter }
      (tepTurns ids meanwhile 0 (Service.received W stream).1)
    let x := serveExecutor P J overrun h adapter ids meanwhile stream
    x.1 = (served.1.filterMap id).flatMap (Service.frame W) ∧ x.2.1 = served.2.1 ∧
      x.2.2.runtime = served.2.2 ∧ (served.2.1 = .ok () → x.2.2.handled = served.1.length) := by
  intro W served x
  have hfinish : (Service.received W stream).2.elim (.ok ())
      (tepServer (hostServing P) ids fun i => (meanwhile i).change).unreadable = .ok () := by
    cases (Service.received W stream).2 <;> rfl
  have hserve := Service.serve_eq_answer (W := W)
    (S := tepServer (hostServing P) ids fun i => (meanwhile i).change)
    ⟨{ h with link := h.link.attach adapter }, 0⟩ stream
  rw [hfinish] at hserve
  obtain ⟨hwritten, hending, hstate, hhandled⟩ := answer_tepServer (P := P) W ids meanwhile
    (h := { h with link := h.link.attach adapter }) hs 0 (Service.received W stream).1 hsend
  have hx : x = _ := hserve
  rw [hx]
  exact ⟨congrArg (List.flatMap _) hwritten, hending, hstate,
    fun hok => (hhandled hok).trans (Nat.zero_add _)⟩

/-- **The loops for an executor on a stream** of bytes. While the replies can be sent, what they
write are the frames of what the loop on messages replies to those that are received; they end like
it, and leave the host as it does, stopped or not. -/
theorem serveTepStdio_stream (P : Platform) (J : JsonModule Json Obj) (overrun : Bytes → String)
    {h : HostRelayRuntime} (hs : h.base.started = true) (adapter : ℕ) (ids : ℕ → String)
    (meanwhile : ℕ → Meanwhile) (stream : Bytes)
    (hsend : ∀ reply, some reply ∈ (serveTepStdio P h adapter (tepTurns ids meanwhile 0
      (Service.received (tepWire P J overrun h.base.config) stream).1)).1 →
        ∃ frame, LineJsonFramer.encode J h.base.config.maxMessageSizeBytes reply = .ok frame) :
    let W := tepWire P J overrun h.base.config
    let served := serveTepStdio P h adapter
      (tepTurns ids meanwhile 0 (Service.received W stream).1)
    let written := (served.1.filterMap id).flatMap (Service.frame W)
    let client := handleExecutorClient P J overrun h adapter ids meanwhile stream
    serveTepStdioStream P J overrun h adapter ids meanwhile stream = (written, served.2) ∧
      client.1 = written ∧ client.2.1 = served.2.1 ∧
      { client.2.2 with link := client.2.2.link.stop }.stopped = served.2.2 := by
  intro W served written client
  obtain ⟨hwritten, hending, hstate, -⟩ := serveExecutor_eq P J overrun hs adapter ids meanwhile
    stream hsend
  have hloop : serveExecutor P J overrun h adapter ids meanwhile stream
      = (written, served.2.1, (serveExecutor P J overrun h adapter ids meanwhile stream).2.2) :=
    Prod.ext hwritten (Prod.ext hending rfl)
  have hclient : client = (written, served.2.1,
      { (tepLoop P { h with link := h.link.attach adapter } (tepTurns ids meanwhile 0
          (Service.received W stream).1)).2.2 with
        link := (tepLoop P { h with link := h.link.attach adapter } (tepTurns ids meanwhile 0
          (Service.received W stream).1)).2.2.link.detach (some adapter) }) := by
    rw [← hstate]
    show handleExecutorClient P J overrun h adapter ids meanwhile stream = _
    rw [handleExecutorClient, hloop]
  refine ⟨?_, ?_, ?_, ?_⟩
  · rw [serveTepStdioStream, hloop]
    dsimp only
    rw [hstate]
    rfl
  · rw [hclient]
  · rw [hclient]
  · rw [hclient]
    rfl

/-! A heartbeat of an executor. -/

def beat : Obj := [("message_id", .str "m"), ("message_type", .str "heartbeat"),
  ("payload", .obj [("timestamp", .str "t")]), ("protocol", .str "tep"), ("version", .str "1.0")]

def beatReply : Obj := [("protocol", .str "tep"), ("version", .str "1.0"),
  ("message_type", .str "heartbeat_response"), ("message_id", .str "n"), ("session_id", .null),
  ("request_id", .str "m"), ("execution_id", .null),
  ("payload", .obj (statusDump "ok" none none []))]

def beatWire : Service.Wire Exc Exc Obj UInt8 :=
  tepWire .strict verbatimJson (fun _ => "overrun") .default

lemma received_beat : (Service.received beatWire (Service.frame beatWire beat)).1 = [beat] := by
  have hm : ∀ message ∈ [beat], Json.WellFormed .verbatim (.obj message) :=
    List.forall_mem_singleton.mpr
      ⟨by decide, trivial, trivial, ⟨by decide, trivial, trivial⟩, trivial, trivial, trivial⟩
  have hroom : HasRoom 1048576 beat := by decide +kernel
  obtain ⟨frame, h⟩ : ∃ frame, LineJsonFramer.encode verbatimJson 1048576 beat = .ok frame :=
    exists_encode ⟨_, rfl⟩ hroom.2.le
  have hframe : Service.frame beatWire beat = [frame].flatten := by
    have hsend : beatWire.send = LineJsonFramer.encode verbatimJson 1048576 := rfl
    rw [List.flatten_singleton, Service.frame_of_ok (by rw [hsend, h])]
  have hread : (Service.received beatWire [frame].flatten).1
      = ([beat].takeWhile fun m => decide (HasRoom 1048576 m)).map sortMessage :=
    received_frames hm (.cons h .nil)
  rw [hframe, hread, List.takeWhile_cons_of_pos (by simpa using hroom), List.takeWhile_nil]
  rfl

/-- The host replies to a heartbeat over stdio. -/
theorem serveTepStdio_stream_beat :
    (serveTepStdioStream .strict verbatimJson (fun _ => "overrun")
        (HostRelayRuntime.create "host" "session").start 0 (fun _ => "n") (fun _ => {})
        (Service.frame beatWire beat)).1 = Service.frame beatWire beatReply := by
  have hserved : (serveTepStdio .strict (HostRelayRuntime.create "host" "session").start 0
      (tepTurns (fun _ => "n") (fun _ => {}) 0
        (Service.received beatWire (Service.frame beatWire beat)).1)).1 = [some beatReply] := by
    rw [received_beat]
    rfl
  have hsend : ∀ reply, some reply ∈ (serveTepStdio .strict
      (HostRelayRuntime.create "host" "session").start 0 (tepTurns (fun _ => "n") (fun _ => {}) 0
        (Service.received beatWire (Service.frame beatWire beat)).1)).1 →
      ∃ frame, LineJsonFramer.encode verbatimJson 1048576 reply = .ok frame := by
    intro reply hr
    rw [hserved, List.mem_singleton, Option.some.injEq] at hr
    rw [hr]
    exact exists_encode ⟨_, rfl⟩ (by decide +kernel)
  have hstarted : (HostRelayRuntime.create "host" "session").start.base.started = true := rfl
  have hstream := (serveTepStdio_stream .strict verbatimJson (fun _ => "overrun") hstarted 0
    (fun _ => "n") (fun _ => {}) _ hsend).1
  have hwritten := congrArg Prod.fst hstream
  have hreply : ((serveTepStdio .strict (HostRelayRuntime.create "host" "session").start 0
      (tepTurns (fun _ => "n") (fun _ => {}) 0
        (Service.received beatWire (Service.frame beatWire beat)).1)).1.filterMap id).flatMap
          (Service.frame beatWire) = Service.frame beatWire beatReply := by
    rw [hserved]
    exact List.append_nil _
  exact hwritten.trans hreply

/-! ### Every line -/

/-- The loop has handled a message for each line and come to the end of the stream, and what it has
written are the frames of its replies, one for each message that is to be replied to. -/
structure ServedLines (P : Platform) (J : JsonModule Json Obj) (overrun : Bytes → String)
    (h : HostRelayRuntime) (adapter : ℕ) (ids : ℕ → String) (meanwhile : ℕ → Meanwhile)
    (stream : Bytes) (messages : List Obj) : Prop where
  ended : (serveTepStdioStream P J overrun h adapter ids meanwhile stream).2.1 = .ok ()
  handled :
    (serveExecutor P J overrun h adapter ids meanwhile stream).2.2.handled = messages.length
  replied :
    let replies := (serveTepStdio P h adapter (tepTurns ids meanwhile 0 messages)).1
    replies.map Option.isSome = messages.map (expectsReply P) ∧
      (serveTepStdioStream P J overrun h adapter ids meanwhile stream).1
        = (replies.filterMap id).flatMap (Service.frame (tepWire P J overrun h.base.config))

lemma length_tepLoop (h : HostRelayRuntime) (turns : List TepTurn) :
    (tepLoop P h turns).1.length ≤ turns.length := by
  induction turns generalizing h with
  | nil => exact le_rfl
  | cons t ts ih =>
    rw [tepLoop]
    dsimp only
    split
    · split
      · exact Nat.zero_le _
      · rw [List.length_cons, List.length_cons]
        exact Nat.succ_le_succ (ih _)
    · exact Nat.zero_le _

lemma length_tepTurns (ids : ℕ → String) (meanwhile : ℕ → Meanwhile) (i : ℕ) (messages : List Obj) :
    (tepTurns ids meanwhile i messages).length = messages.length := by
  induction messages generalizing i with
  | nil => rfl
  | cons message messages ih => exact congrArg Nat.succ (ih (i + 1))

lemma map_tepTurns {α : Type} (f : Obj → α) (ids : ℕ → String) (meanwhile : ℕ → Meanwhile) (i : ℕ)
    (messages : List Obj) :
    (tepTurns ids meanwhile i messages).map (fun t => f t.message) = messages.map f := by
  induction messages generalizing i with
  | nil => rfl
  | cons message messages ih => exact congrArg (f message :: ·) (ih (i + 1))

/-- **Which lines the loop for an executor survives.** On a started host, whatever happens to it
meanwhile and while the replies can be sent, the loop handles every line of the stream and replies
to the messages that are to be replied to if and only if there is room for each line and each
message is survivable where it is met. Messages are taken to be nested less deeply than Python
recurses. -/
theorem servedLines_iff (P : Platform) (J : JsonModule Json Obj) (overrun : Bytes → String)
    {h : HostRelayRuntime} (hs : h.base.started = true) (adapter : ℕ) (ids : ℕ → String)
    (meanwhile : ℕ → Meanwhile) {stream : Bytes} {messages : List Obj}
    (hlines : List.Forall₂ (HoldsMessage P J) (LineStream.lines newline stream) messages)
    (hsend : ∀ reply, some reply ∈ (serveTepStdio P h adapter (tepTurns ids meanwhile 0
      (Service.received (tepWire P J overrun h.base.config) stream).1)).1 →
        ∃ frame, LineJsonFramer.encode J h.base.config.maxMessageSizeBytes reply = .ok frame) :
    ServedLines P J overrun h adapter ids meanwhile stream messages ↔
      (∀ line ∈ LineStream.lines newline stream,
        LineFits h.base.config.maxMessageSizeBytes line) ∧
      ∀ p ∈ met P { h with link := h.link.attach adapter } (tepTurns ids meanwhile 0 messages),
        Survivable P p.1 p.2 := by
  obtain ⟨hwritten, hending, -, hhandled⟩ := serveExecutor_eq P J overrun hs adapter ids meanwhile
    stream hsend
  have hserved := servedAll_iff_survivable P h adapter (tepTurns ids meanwhile 0 messages) hs
  rw [← hserved]
  constructor
  · rintro ⟨hended, hcount, hexpected, -⟩
    -- A message is handled for each line, so each was received, and there was room for it.
    have hok := hending.symm.trans hended
    have hfits : ∀ line ∈ LineStream.lines newline stream,
        LineFits h.base.config.maxMessageSizeBytes line := by
      have hle := length_tepLoop (P := P) { h with link := h.link.attach adapter }
        (tepTurns ids meanwhile 0 (Service.received (tepWire P J overrun h.base.config) stream).1)
      have hprefix : (Service.received (tepWire P J overrun h.base.config) stream).1 = _ :=
        received_lines hlines
      rw [← hhandled hok, hcount, length_tepTurns, hprefix, List.length_take,
        ← hlines.length_eq] at hle
      have hall := (List.takeWhile_prefix (fun line =>
        decide (LineFits h.base.config.maxMessageSizeBytes line))).eq_of_length_le
          (hle.trans (min_le_left _ _))
      intro line hline
      rw [← hall] at hline
      have hfit := List.mem_takeWhile_imp hline
      exact of_decide_eq_true hfit
    have hreceived : (Service.received (tepWire P J overrun h.base.config) stream).1 = messages :=
      received_lines_of_fits hlines hfits
    rw [hreceived] at hok
    exact ⟨hfits, hok, hexpected.trans (map_tepTurns _ ids meanwhile 0 messages).symm⟩
  · rintro ⟨hfits, hok, hexpected⟩
    have hreceived : (Service.received (tepWire P J overrun h.base.config) stream).1 = messages :=
      received_lines_of_fits hlines hfits
    rw [hreceived] at hwritten hending hhandled
    have hexpects := hexpected.trans (map_tepTurns _ ids meanwhile 0 messages)
    refine ⟨hending.trans hok, (hhandled hok).trans ?_, hexpects, hwritten⟩
    have hlength := congrArg List.length hexpects
    rwa [List.length_map, List.length_map] at hlength

/-! An executor that registers a tool and removes it again. -/

lemma held_addTool : Json.Held .verbatim (.obj addTool.message) :=
  ⟨⟨by decide, trivial, trivial, trivial, trivial, ⟨by decide,
    ⟨⟨by decide, trivial, trivial, ⟨by decide, trivial⟩, trivial⟩, trivial⟩, trivial⟩, trivial⟩,
    _, rfl⟩

lemma held_removeTool : Json.Held .verbatim (.obj removeTool.message) :=
  ⟨⟨by decide, trivial, trivial, trivial, trivial, ⟨by decide, ⟨trivial, trivial⟩, trivial⟩,
    trivial⟩, _, rfl⟩

/-- The messages on a stream. -/
def toolStream (messages : List Obj) : Bytes :=
  messages.flatMap (Service.frame (tepWire .strict verbatimJson (fun _ => "overrun") .default))

lemma lines_toolStream {messages : List Obj}
    (hm : ∀ message ∈ messages, Json.Held .verbatim (.obj message))
    (hroom : ∀ message ∈ messages, HasRoom 1048576 message) :
    List.Forall₂ (HoldsMessage .strict verbatimJson) (LineStream.lines newline (toolStream messages))
        (messages.map sortMessage) ∧
      ∀ line ∈ LineStream.lines newline (toolStream messages), LineFits 1048576 line :=
  lines_frames_hold .strict (fun _ => "overrun") "stdio transport reached EOF" hm hroom

/-- A tool that is not there is removed: nothing is written, and the loop ends with the
`KeyError`. -/
theorem removeTool_ends_loop :
    let stream := toolStream [removeTool.message]
    let messages := [sortMessage removeTool.message]
    let served := serveTepStdioStream .strict verbatimJson (fun _ => "overrun") startedHost 0
      (fun _ => "n") (fun _ => {}) stream
    List.Forall₂ (HoldsMessage .strict verbatimJson) (LineStream.lines newline stream) messages ∧
      served.1 = [] ∧ served.2.1 = .error (.keyError (.str "a")) ∧
      ¬ ServedLines .strict verbatimJson (fun _ => "overrun") startedHost 0 (fun _ => "n")
        (fun _ => {}) stream messages := by
  intro stream messages served
  obtain ⟨hholds, hfits⟩ : List.Forall₂ (HoldsMessage .strict verbatimJson)
      (LineStream.lines newline stream) messages ∧ _ :=
    lines_toolStream (List.forall_mem_singleton.mpr held_removeTool)
      (List.forall_mem_singleton.mpr (by decide +kernel))
  have hreceived : (Service.received (tepWire .strict verbatimJson (fun _ => "overrun")
      startedHost.base.config) stream).1 = messages := received_lines_of_fits hholds hfits
  have hnone : (serveTepStdio .strict startedHost 0
      (tepTurns (fun _ => "n") (fun _ => {}) 0 messages)).1 = [] := rfl
  obtain ⟨hwritten, hending, -⟩ := serveExecutor_eq .strict verbatimJson (fun _ => "overrun")
    (h := startedHost) rfl 0 (fun _ => "n") (fun _ => {}) stream
    (by rw [hreceived, hnone]; rintro _ ⟨⟩)
  rw [hreceived] at hwritten hending
  have herror : served.2.1 = .error (.keyError (.str "a")) := hending
  refine ⟨hholds, hwritten, herror, fun h => ?_⟩
  cases herror.symm.trans h.ended

/-- The reply of a host to a message that is numbered `m`. -/
def okReply (messageType : String) : Obj :=
  [("protocol", .str "tep"), ("version", .str "1.0"),
    ("message_type", .str (messageType ++ "_response")), ("message_id", .str "n"),
    ("session_id", .null), ("request_id", .str "m"), ("execution_id", .null),
    ("payload", .obj (statusDump "ok" none none []))]

/-- A tool is registered and removed: both lines are served. -/
theorem addTool_removeTool_served :
    let messages := [addTool.message, removeTool.message]
    let stream := toolStream messages
    List.Forall₂ (HoldsMessage .strict verbatimJson) (LineStream.lines newline stream)
        (messages.map sortMessage) ∧
      ServedLines .strict verbatimJson (fun _ => "overrun") startedHost 0 (fun _ => "n")
        (fun _ => {}) stream (messages.map sortMessage) := by
  intro messages stream
  obtain ⟨hholds, hfits⟩ : List.Forall₂ (HoldsMessage .strict verbatimJson)
      (LineStream.lines newline stream) (messages.map sortMessage) ∧ _ :=
    lines_toolStream (by simp [messages, held_addTool, held_removeTool]) (by decide +kernel)
  have hreceived : (Service.received (tepWire .strict verbatimJson (fun _ => "overrun")
      startedHost.base.config) stream).1 = messages.map sortMessage :=
    received_lines_of_fits hholds hfits
  have hreplies : (serveTepStdio .strict startedHost 0 (tepTurns (fun _ => "n") (fun _ => {}) 0
      (messages.map sortMessage))).1
      = [some (okReply "register_tools"), some (okReply "deregister_tools")] := rfl
  refine ⟨hholds, (servedLines_iff .strict verbatimJson (fun _ => "overrun") rfl 0 (fun _ => "n")
    (fun _ => {}) hholds ?_).mpr ⟨hfits, by decide +kernel⟩⟩
  intro reply hreply
  rw [hreceived, hreplies] at hreply
  simp only [List.mem_cons, Option.some.injEq, List.not_mem_nil, or_false] at hreply
  rcases hreply with rfl | rfl <;> exact exists_encode ⟨_, rfl⟩ (by decide +kernel)

end NaiaRelay.Runtime
