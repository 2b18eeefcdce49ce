import NaiaRelay.Adapters
import NaiaRelay.Correlation
import NaiaRelay.DirectRuntime
import NaiaRelay.ExecutorLoop
import NaiaRelay.Lib.Halting

set_option autoImplicit false

/-!
A relay and an executor that answer each other's replies, over the lines they read and write.

An executor answers every message whose type it does not know, a reply included, with an error
of its own. The host does not reply to replies. The direct runtime does, under a type that is one
suffix longer, until a line is longer than the relay's reader has room for.
-/

namespace NaiaRelay.Runtime

open NaiaRelay.Pydantic NaiaRelay.Registry NaiaRelay.Tep NaiaRelay.Transports Halting

variable (P : Platform) {R σ : Type}

/-- `_handle_tep_message_with_runtime`, for a direct runtime: it has no handler of its own for
the messages of a serve loop. -/
def DirectRelayRuntime.handleTepMessageWithRuntime (d : DirectRelayRuntime) (newMessageId : String)
    (message : Obj) : Except Exc (Option Obj) × DirectRelayRuntime :=
  let x := TEPHandler.handleMessageOrError P (executorCallbacks P) newMessageId
    ⟨d.registry, d.tep⟩ message
  let d := { d with registry := x.2.registry, tep := x.2.records }
  match x.1 with
  | .error (.attributeError _) =>
    let y := d.handleTepMessage P newMessageId message
    (y.1.map some, y.2)
  | answer => (answer.map some, d)

/-- What a serve loop uses of a runtime. -/
structure Serving (R : Type) where
  started : R → Bool
  handle : R → String → Obj → Except Exc (Option Obj) × R

def hostServing : Serving HostRelayRuntime where
  started h := h.base.started
  handle := HostRelayRuntime.handleExecutorStdioMessage P

def directServing : Serving DirectRelayRuntime where
  started d := d.base.started
  handle := DirectRelayRuntime.handleTepMessageWithRuntime P

/-- The type of a message, if it is a text. -/
def typeOf (message : Obj) : String :=
  match Obj.get message "message_type" with
  | some (.str t) => t
  | _ => ""

/-- A line, up to its newline. -/
structure Line where
  text : Bytes
  unbroken : newline ∉ text

def Line.bytes (line : Line) : Bytes := line.text ++ [newline]

section
variable (F : Json.FloatText) (unicodeDecodeError : Bytes → Exc) (overrun : Bytes → String)

/-- An executor that answers each message of a type it does not know with a line: an error of the
type that is one `_response` longer. It takes the replies it knows and says nothing. -/
structure Executor (σ : Type) where
  knows : String → Bool
  refuse : σ → Obj → Line × σ
  refuse_holds : ∀ s message, ∃ answer,
    HoldsMessage P (pythonJson F unicodeDecodeError) (refuse s message).1.bytes answer ∧
      Obj.get answer "message_type" = some (.str (typeOf message ++ "_response")) ∧
      replyStatus answer = some (.str "error")

/-- The two ends and the line on its way to the relay. -/
structure Exchange (R σ : Type) where
  relay : R
  executor : σ
  line : Line
  round : ℕ := 0

variable {P F unicodeDecodeError}

/-- The line is received and its message handled, the reply is sent, and the executor answers it if
it does not know its type; `none` where the loop of the relay ends or one of them has nothing to
send. The ids drawn by the relay are given. -/
def Exchange.step (w : Serving R) (maxMessageSizeBytes : ℤ) (x : Executor P F unicodeDecodeError σ)
    (ids : ℕ → String) (c : Exchange R σ) : Option (Exchange R σ) :=
  if w.started c.relay then
    match StdioTransportAdapter.receive P (pythonJson F unicodeDecodeError) overrun
        maxMessageSizeBytes c.line.bytes with
    | .error _ => none
    | .ok (message, _) =>
      match w.handle c.relay (ids c.round) message with
      | (.ok (some reply), relay) =>
        match LineJsonFramer.encode (pythonJson F unicodeDecodeError) maxMessageSizeBytes reply with
        | .error _ => none
        | .ok _ =>
          if x.knows (typeOf reply) then none
          else
            let sent := x.refuse c.executor reply
            some ⟨relay, sent.2, sent.1, c.round + 1⟩
      | _ => none
  else none

/-- The exchange of replies a line starts comes to an end, and the message it holds is not replied
to if it is a reply itself. -/
structure RepliesEnd (w : Serving R) (maxMessageSizeBytes : ℤ)
    (x : Executor P F unicodeDecodeError σ) (ids : ℕ → String) (relay : R) (s : σ) (line : Line) :
    Prop where
  halts : Halts (Exchange.step overrun w maxMessageSizeBytes x ids) ⟨relay, s, line, 0⟩
  noReply : ∀ message, HoldsMessage P (pythonJson F unicodeDecodeError) line.bytes message →
    expectsReply P message = false →
      ∀ newMessageId reply, (w.handle relay newMessageId message).1 ≠ .ok (some reply)

end

/-- The type a reply to the message is named after. -/
def respondedType (message : Obj) : String :=
  match validateMessage message with
  | .ok envelope => envelope.messageType
  | .error _ => pyStr P ((Obj.getD message "message_type" .null).orElse (.str "invalid_message"))

/-- What the message asks to remove is there and named once. -/
def Removable (registry : RegistryStore) (message : Obj) : Prop :=
  (removals P message).Nodup ∧ ∀ r ∈ removals P message, r.2 ∈ (registry.table r.1).dict

variable {P} {message : Obj}

/-! ### A message of the executor -/

lemma typeOf_of_get {t : String} (h : Obj.get message "message_type" = some (.str t)) :
    typeOf message = t := by
  rw [typeOf, h]

lemma respondedType_of_response {t : String}
    (h : Obj.get message "message_type" = some (.str (t ++ "_response"))) :
    respondedType P message = t ++ "_response" := by
  unfold respondedType
  cases hv : validateMessage message with
  | ok envelope =>
    have ht := (validateMessage_fields hv).1
    rw [h, Option.some.injEq, Json.str.injEq] at ht
    exact ht.symm
  | error e =>
    have hne : t ++ "_response" ≠ "" := by
      intro he
      have := congrArg String.toList he
      simp at this
    simp only [Obj.getD, h, Option.getD_some, Json.orElse]
    rw [Json.truthy, if_pos (by simp [hne])]
    rfl

lemma expectsReply_of_response {t : String}
    (h : Obj.get message "message_type" = some (.str (t ++ "_response"))) :
    expectsReply P message = false := by
  rw [expectsReply, messageText_of_get h, endsWith_append]
  rfl

lemma messageType_of_reply {h : TEPHandler} {callbacks : TEPCallbacks} {newMessageId : String}
    {reply : Obj}
    (hr : (h.handleMessageOrError P callbacks newMessageId message).1 = .ok reply) :
    Obj.get reply "message_type" = some (.str (respondedType P message ++ "_response")) := by
  unfold respondedType
  cases hv : validateMessage message with
  | ok envelope =>
    obtain ⟨t, ht, hreply⟩ := (correlated_handleMessageOrError hv hr).messageType
    rw [(validateMessage_fields hv).1, Option.some.injEq, Json.str.injEq] at ht
    rw [hreply, ← ht]
  | error e =>
    have hm : h.handleMessage P callbacks newMessageId message = (.error e, h) := by
      unfold TEPHandler.handleMessage
      simp only [hv]
    rw [handleMessageOrError_of_error hm, if_pos (validateMessage_error hv)] at hr
    rw [← Except.ok.inj hr]
    rfl

lemma keyError_of_forEach {registry : RegistryStore} {l : List Mutation} {e : Exc}
    (he : (Batch.forEach RegistryStore.mutate registry l).1 = .error e)
    (hv : e.isValueError = false) : ∃ key, e = .keyError key := by
  obtain ⟨pre, m, post, -, -, hm⟩ := Batch.forEach_error he
  cases m with
  | register k d =>
    obtain ⟨-, rfl⟩ := RegistryStore.register_eq_error.mp hm
    simp [Exc.isValueError] at hv
  | deregister k name =>
    obtain ⟨-, rfl⟩ := RegistryStore.deregister_eq_error.mp hm
    exact ⟨_, rfl⟩

lemma directHandle_cases (d : DirectRelayRuntime) (newMessageId : String) (message : Obj) :
    (Removable P d.registry message ∧ ∃ reply,
        (d.handleTepMessageWithRuntime P newMessageId message).1 = .ok (some reply) ∧
          Obj.get reply "message_type" = some (.str (respondedType P message ++ "_response")) ∧
          (d.handleTepMessageWithRuntime P newMessageId message).2.base = d.base) ∨
      (¬ Removable P d.registry message ∧
        ∃ e, (d.handleTepMessageWithRuntime P newMessageId message).1 = .error e) := by
  have hiff := forEach_raises_iff (P := P) d.registry message
  unfold DirectRelayRuntime.handleTepMessageWithRuntime
  dsimp only
  rcases handleMessageOrError_cases (P := P) ⟨d.registry, d.tep⟩ newMessageId message with
    ⟨⟨reply, hr⟩, hall⟩ | ⟨e, hr, he, hv⟩
  · rw [hr]
    refine Or.inl ⟨?_, reply, rfl, messageType_of_reply hr, rfl⟩
    by_contra hn
    obtain ⟨e, he, hv⟩ := hiff.mpr hn
    rw [hall e he] at hv
    contradiction
  -- what is raised is a `KeyError`, for which there is no second try
  · rw [hr]
    obtain ⟨key, rfl⟩ := keyError_of_forEach he hv
    exact Or.inr ⟨hiff.mp ⟨_, he, hv⟩, _, rfl⟩

lemma removable_of_not_expectsReply {registry : RegistryStore}
    (h : expectsReply P message = false) : Removable P registry message := by
  have hm : mutations P message = [] := mutations_nil_of_response (by simpa [expectsReply] using h)
  simp [Removable, removals, hm]

lemma hostHandle_response (h : HostRelayRuntime) (newMessageId : String)
    (hr : expectsReply P message = false) (reply : Obj) :
    (h.handleExecutorStdioMessage P newMessageId message).1 ≠ .ok (some reply) := by
  rcases handleExecutorStdioMessage_cases (P := P) h newMessageId message with
    ⟨-, reply', hok, hsome⟩ | ⟨-, e, he⟩
  · rw [hok]
    intro heq
    rw [Except.ok.inj heq, hr] at hsome
    simp at hsome
  · rw [he]
    simp

lemma directHandle_response (d : DirectRelayRuntime) (newMessageId : String)
    (hr : expectsReply P message = false) :
    ∃ reply, (d.handleTepMessageWithRuntime P newMessageId message).1 = .ok (some reply) := by
  rcases directHandle_cases (P := P) d newMessageId message with
    ⟨-, reply, hok, -, -⟩ | ⟨hno, -⟩
  · exact ⟨reply, hok⟩
  · exact absurd (removable_of_not_expectsReply hr) hno

/-! ### Replies that grow -/

/-- A runtime whose replies are named after what they reply to. -/
def NamesReplies (P : Platform) (w : Serving R) : Prop :=
  ∀ relay newMessageId message reply,
    (w.handle relay newMessageId message).1 = .ok (some reply) →
      Obj.get reply "message_type" = some (.str (respondedType P message ++ "_response"))

lemma directServing_namesReplies (P : Platform) : NamesReplies P (directServing P) := by
  intro d newMessageId message reply h
  rcases directHandle_cases (P := P) d newMessageId message with
    ⟨-, reply', hok, htype, -⟩ | ⟨-, e, he⟩
  · obtain rfl := Option.some.inj (Except.ok.inj (hok.symm.trans h))
    exact htype
  · cases he.symm.trans h

lemma hostServing_namesReplies (P : Platform) : NamesReplies P (hostServing P) := by
  intro h newMessageId message reply hok
  cases hr : expectsReply P message with
  | false => exact absurd hok (hostHandle_response h newMessageId hr reply)
  | true =>
    have hend : ¬ endsWith (HostRelayRuntime.messageText P message "message_type") "_response" = true := by
      simpa [expectsReply] using hr
    change (h.handleExecutorStdioMessage P newMessageId message).1 = _ at hok
    unfold HostRelayRuntime.handleExecutorStdioMessage at hok
    dsimp only at hok
    rw [if_neg hend] at hok
    cases hx : (h.tepHandleMessageOrError P newMessageId message).1 with
    | error e =>
      have heq : h.tepHandleMessageOrError P newMessageId message = (.error e, _) := Prod.ext hx rfl
      rw [heq] at hok
      cases hok
    | ok response =>
      have heq : h.tepHandleMessageOrError P newMessageId message = (.ok response, _) :=
        Prod.ext hx rfl
      rw [heq] at hok
      obtain rfl := Option.some.inj (Except.ok.inj hok)
      exact messageType_of_reply hx

section
variable {F : Json.FloatText} {unicodeDecodeError : Bytes → Exc} {overrun : Bytes → String} {N : ℤ}
  {x : Executor P F unicodeDecodeError σ} {ids : ℕ → String} {w : Serving R}

lemma receive_line {line : Line} {rest : Bytes}
    (h : StdioTransportAdapter.receive P (pythonJson F unicodeDecodeError) overrun N line.bytes
      = .ok (message, rest)) :
    line.bytes.length ≤ streamLimit + 1 ∧
      HoldsMessage P (pythonJson F unicodeDecodeError) line.bytes message := by
  obtain ⟨-, ⟨hlimit, -⟩, hholds, -⟩ := receiveLine_eq_ok_iff.mp h
  have hread : (LineStream.readline newline line.bytes).1 = line.bytes := by
    rw [Line.bytes, LineStream.readline_line newline line.unbroken []]
  rw [hread] at hlimit hholds
  have htext : line.bytes.takeWhile (· ≠ newline) = line.text := takeWhile_line line.unbroken []
  rw [htext] at hlimit
  refine ⟨?_, hholds⟩
  rw [Line.bytes, List.length_append, List.length_singleton]
  omega

lemma length_of_holdsMessage {line : Bytes} {k t : String}
    (h : HoldsMessage P (pythonJson F unicodeDecodeError) line message)
    (ht : Obj.get message k = some (.str t)) : t.length ≤ line.length := by
  unfold HoldsMessage LineJsonFramer.decode at h
  rw [if_neg (lt_irrefl _)] at h
  dsimp only at h
  split_ifs at h
  have hstrip : (line.rdropWhile (· = newline)).length ≤ line.length :=
    (List.rdropWhile_prefix _ line).length_le
  exact (length_of_decodePayload h ht).trans hstrip

lemma Exchange.step_eq_some {c c' : Exchange R σ}
    (h : Exchange.step overrun w N x ids c = some c') :
    ∃ message reply, c.line.bytes.length ≤ streamLimit + 1 ∧
      HoldsMessage P (pythonJson F unicodeDecodeError) c.line.bytes message ∧
      (w.handle c.relay (ids c.round) message).1 = .ok (some reply) ∧
      c'.line = (x.refuse c.executor reply).1 := by
  unfold Exchange.step at h
  split_ifs at h
  split at h
  · cases h
  · rename_i message rest hreceive
    obtain ⟨hlength, hholds⟩ := receive_line hreceive
    split at h
    · rename_i reply relay hhandle
      split at h
      · cases h
      · split_ifs at h
        obtain rfl := Option.some.inj h
        exact ⟨message, reply, hlength, hholds, congrArg Prod.fst hhandle, rfl⟩
    · cases h

/-- The message on its way is a reply, of a type that is longer than this. -/
def Exchange.Grown (P : Platform) (F : Json.FloatText) (unicodeDecodeError : Bytes → Exc) (n : ℕ)
    (c : Exchange R σ) : Prop :=
  ∀ message, HoldsMessage P (pythonJson F unicodeDecodeError) c.line.bytes message →
    ∃ t, Obj.get message "message_type" = some (.str (t ++ "_response")) ∧ n ≤ t.length

lemma Exchange.grown_step (hw : NamesReplies P w) {c c' : Exchange R σ}
    (h : Exchange.step overrun w N x ids c = some c') :
    ∃ message, c.line.bytes.length ≤ streamLimit + 1 ∧
      HoldsMessage P (pythonJson F unicodeDecodeError) c.line.bytes message ∧
      c'.Grown P F unicodeDecodeError ((respondedType P message).length + 1) := by
  obtain ⟨message, reply, hlength, hholds, hreply, hline⟩ := Exchange.step_eq_some h
  have htype := hw _ _ _ _ hreply
  refine ⟨message, hlength, hholds, fun answer hanswer => ?_⟩
  obtain ⟨answer', hanswer', hrefused, -⟩ := x.refuse_holds c.executor reply
  rw [hline] at hanswer
  obtain rfl := Except.ok.inj (hanswer.symm.trans hanswer')
  rw [typeOf_of_get htype] at hrefused
  refine ⟨_, hrefused, ?_⟩
  have hsuffix : "_response".length = 9 := rfl
  rw [String.length_append, hsuffix]
  omega

/-- **Every exchange ends.** The types of the replies grow, and the line of one that is too long is
not received. -/
lemma Exchange.halts (hw : NamesReplies P w) (overrun : Bytes → String) (N : ℤ)
    (x : Executor P F unicodeDecodeError σ) (ids : ℕ → String) (c : Exchange R σ) :
    Halts (Exchange.step overrun w N x ids) c := by
  cases hfirst : Exchange.step overrun w N x ids c with
  | none => exact halts_of_none hfirst
  | some c' =>
    obtain ⟨_, -, -, hgrown⟩ := Exchange.grown_step hw hfirst
    -- the type on the line is at least `n` long, and a line that is received has a limit
    refine (halts_iff_of_some hfirst).mpr (halts_of_bound
      (fun n c => c.Grown P F unicodeDecodeError n) (streamLimit + 2) ?_ hgrown)
    intro n c c' hc hstep
    obtain ⟨message, hlength, hholds, hgrown⟩ := Exchange.grown_step hw hstep
    obtain ⟨t, ht, hn⟩ := hc message hholds
    have hle := length_of_holdsMessage hholds ht
    rw [String.length_append] at hle
    refine ⟨by omega, fun answer hanswer => ?_⟩
    obtain ⟨t', ht', hn'⟩ := hgrown answer hanswer
    rw [respondedType_of_response ht, String.length_append] at hn'
    exact ⟨t', ht', by omega⟩

end

lemma not_repliesEnd_of_response {F : Json.FloatText} {unicodeDecodeError : Bytes → Exc}
    {overrun : Bytes → String} {N : ℤ} {x : Executor P F unicodeDecodeError σ} {ids : ℕ → String}
    {d : DirectRelayRuntime} {s : σ} {line : Line}
    (hholds : HoldsMessage P (pythonJson F unicodeDecodeError) line.bytes message)
    (hr : expectsReply P message = false) :
    ¬ RepliesEnd overrun (directServing P) N x ids d s line := by
  intro h
  obtain ⟨reply, hok⟩ := directHandle_response (P := P) d "" hr
  exact h.noReply message hholds hr "" reply hok

/-- **When replies end.** Every exchange comes to an end, at the limit of a line if nowhere else. A
host never replies to a reply. A direct runtime replies to every one, so that all is well with a line
exactly if it holds none. -/
theorem repliesEnd_iff (P : Platform) (F : Json.FloatText) (unicodeDecodeError : Bytes → Exc)
    (overrun : Bytes → String) (x : Executor P F unicodeDecodeError σ) (ids : ℕ → String) (s : σ)
    (line : Line) :
    (∀ h : HostRelayRuntime,
      RepliesEnd overrun (hostServing P) h.base.config.maxMessageSizeBytes x ids h s line) ∧
    ∀ d : DirectRelayRuntime,
      RepliesEnd overrun (directServing P) d.base.config.maxMessageSizeBytes x ids d s line ↔
        ∀ message, HoldsMessage P (pythonJson F unicodeDecodeError) line.bytes message →
          expectsReply P message = true := by
  refine ⟨fun h => ⟨Exchange.halts (hostServing_namesReplies P) overrun _ x ids _,
    fun message _ hr newMessageId reply => hostHandle_response h newMessageId hr reply⟩,
    fun d => ⟨fun h message hholds => ?_, fun h => ?_⟩⟩
  · cases hr : expectsReply P message with
    | true => rfl
    | false => exact absurd h (not_repliesEnd_of_response hholds hr)
  · refine ⟨Exchange.halts (directServing_namesReplies P) overrun _ x ids _, ?_⟩
    intro message hholds hr
    rw [h message hholds] at hr
    cases hr

/-! ### The executor of the examples -/

/-- A line that `json.dumps` writes. -/
def Line.ofMessage (message : Obj) : Line :=
  let text := Text.encodeUtf8 ((Json.dumps (.obj message)).toOption.getD "")
  if h : newline ∈ text then ⟨[], by simp⟩ else ⟨text, h⟩

lemma Line.holds_ofMessage (P : Platform) {F : Json.FloatText} (unicodeDecodeError : Bytes → Exc)
    (h : Json.Held F (.obj message)) :
    HoldsMessage P (pythonJson F unicodeDecodeError) (Line.ofMessage message).bytes
      (sortMessage message) := by
  obtain ⟨hm, hdumps⟩ := h
  obtain ⟨frame, hframe⟩ : ∃ frame, LineJsonFramer.encode (pythonJson F unicodeDecodeError)
      (messageSize message) message = .ok frame := exists_encode hdumps le_rfl
  obtain ⟨n, hn⟩ := hasSize_of_encode hframe
  obtain ⟨text, hbreak, rfl, hlength⟩ := LineJsonFramer.isLine_encode hm hn hframe
  have hbytes : (Line.ofMessage message).bytes = text ++ [newline] := by
    obtain ⟨payload, hpayload, heq⟩ := Json.map_eq_ok hframe
    obtain ⟨written, hwritten, rfl, -⟩ := encodePayload_eq_ok.mp hpayload
    obtain rfl : Text.encodeUtf8 written = text := List.append_cancel_right heq
    have hdumped : Json.dumps (.obj message) = .ok written := hwritten
    have htext : Text.encodeUtf8 ((Json.dumps (.obj message)).toOption.getD "")
        = Text.encodeUtf8 written := by
      rw [hdumped]
      rfl
    rw [Line.bytes, Line.ofMessage, dif_neg (by rwa [htext])]
    exact congrArg (· ++ [newline]) htext
  rw [hbytes, HoldsMessage, LineJsonFramer.decode_encode hm hn hframe, if_pos]
  rw [List.length_append, List.length_singleton, hlength]
  push_cast
  omega

/-- A field of a message, if it is a text. In a reply of a relay it is one, or null. -/
def textField (message : Obj) (key : String) : Json :=
  match Obj.get message key with
  | some (.str text) => .str text
  | _ => .null

/-- `status_response` as `main` calls it for a type it does not know. -/
def unsupported (newMessageId : String) (message : Obj) : Obj :=
  [("protocol", .str "tep"), ("version", .str "1.0"),
    ("message_type", .str (typeOf message ++ "_response")), ("message_id", .str newMessageId),
    ("session_id", if (Obj.get message "session_id").isSome then textField message "session_id"
      else .str "sess_python_stdio_executor"),
    ("request_id", (textField message "request_id").orElse (textField message "message_id")),
    ("execution_id", textField message "execution_id"),
    ("payload", .obj [("status", .str "error"), ("code", .str "unsupported"),
      ("message", .str ("unsupported message type: " ++ typeOf message)), ("details", .obj [])])]

lemma held_str (F : Json.FloatText) (text : String) : Json.Held F (.str text) := ⟨trivial, _, rfl⟩

lemma held_textField (F : Json.FloatText) (message : Obj) (key : String) :
    Json.Held F (textField message key) := by
  unfold textField
  split
  · exact held_str F _
  · exact ⟨trivial, _, rfl⟩

lemma held_unsupported (F : Json.FloatText) (newMessageId : String) (message : Obj) :
    Json.Held F (.obj (unsupported newMessageId message)) := by
  have hsession : Json.Held F (if (Obj.get message "session_id").isSome
      then textField message "session_id" else .str "sess_python_stdio_executor") := by
    split
    · exact held_textField F message _
    · exact held_str F _
  have hrequest : Json.Held F
      ((textField message "request_id").orElse (textField message "message_id")) := by
    unfold Json.orElse
    split <;> exact held_textField F message _
  have hempty : Json.Held F (.obj []) := Json.held_obj (by simp) (by simp)
  have hpayload : Json.Held F (.obj [("status", .str "error"), ("code", .str "unsupported"),
      ("message", .str ("unsupported message type: " ++ typeOf message)), ("details", .obj [])]) :=
    Json.held_obj (by simp) (by simp [held_str, hempty])
  exact Json.held_obj (by simp [unsupported])
    (by simp [unsupported, held_str, held_textField, hsession, hrequest, hpayload])

/-- `host_stdio_executor.py` in its loop; its state is the number of ids it has drawn. -/
def hostStdioExecutor (P : Platform) (F : Json.FloatText) (unicodeDecodeError : Bytes → Exc) :
    Executor P F unicodeDecodeError ℕ where
  knows t := ["execute_tool", "heartbeat", "shutdown", "disconnect_notice"].contains t
  refuse n message := (Line.ofMessage (unsupported ("msg_" ++ toString n) message), n + 1)
  refuse_holds n message := by
    refine ⟨_, Line.holds_ofMessage P unicodeDecodeError (held_unsupported F _ message), ?_, ?_⟩
    · simp [unsupported, sortKeys_obj, Obj.get, List.lookup_cons]
    · simp [unsupported, sortKeys_obj, Obj.get, List.lookup_cons, replyStatus]

/-- A direct runtime is sent a heartbeat, and the example executor refuses the reply: the runtime
replies to the refusal. -/
theorem refusal_replied :
    let w := directServing .strict
    let x := hostStdioExecutor .strict .verbatim fun _ => .valueError "'utf-8' codec can't decode"
    let d := (DirectRelayRuntime.create "relay" "session").start
    let heartbeat := executorMessage "heartbeat" [("timestamp", .str "t")]
    let d' := (w.handle d "n" heartbeat).2
    ∃ reply, (w.handle d "n" heartbeat).1 = .ok (some reply) ∧
      let line := (x.refuse 0 reply).1
      (∃ answer, HoldsMessage .strict verbatimJson line.bytes answer ∧
        Obj.get answer "message_type" = some (.str "heartbeat_response_response") ∧
        ∃ reply', (w.handle d' "n" answer).1 = .ok (some reply')) ∧
      ¬ RepliesEnd (fun _ => "overrun") w d'.base.config.maxMessageSizeBytes x (fun _ => "n") d' 1
        line := by
  intro w x d heartbeat d'
  refine ⟨_, rfl, ?_⟩
  intro line
  obtain ⟨answer, hholds, htype, -⟩ := x.refuse_holds 0 _
  have hr : expectsReply .strict answer = false := expectsReply_of_response htype
  exact ⟨⟨answer, hholds, htype, directHandle_response d' "n" hr⟩, fun h =>
    not_repliesEnd_of_response hholds hr h⟩

end NaiaRelay.Runtime
