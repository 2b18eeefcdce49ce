import NaiaRelay.Adapters
import NaiaRelay.BindFidelity

set_option autoImplicit false

/-!
The relay link over TCP. A client opens a connection for each request; the host's listener answers
the lines of a connection one by one, and closes it where it cannot read one or fails on one.
-/

namespace NaiaRelay.Runtime

open NaiaRelay.Transports

/-- The size `LineJsonFramer` has without an argument. -/
def defaultMaxMessageSizeBytes : ℤ := 1048576

/-- The size of `_rlp_framer`, a `LineJsonFramer` by its default factory. -/
def HostRelayRuntime.rlpFramer (_h : HostRelayRuntime) : ℤ := defaultMaxMessageSizeBytes

/-- The size of the framer in the adapter of `_tcp_round_trip`. -/
def ClientRelayRuntime.tcpFramer (c : ClientRelayRuntime) : ℤ := c.base.config.maxMessageSizeBytes

variable (P : Platform) (J : JsonModule Json Obj) (overrun : Bytes → String) {σ : Type}

/-- How the listener reads a line: nothing is the end of the connection. -/
def receiveRlp (rlpFramer : ℤ) (stream : Bytes) : Except (Option Exc) (Obj × Bytes) :=
  match streamReadline overrun stream with
  | .error e => .error (some e)
  | .ok (line, rest) =>
    if line = [] then .error none
    else
      match LineJsonFramer.decode P J rlpFramer line with
      | .error e => .error (some e)
      | .ok message => .ok (message, rest)

variable {P J overrun} in
lemma receiveRlp_eq {N : ℤ} {stream : Bytes} (hne : stream ≠ []) (eof : String) :
    receiveRlp P J overrun N stream = (receiveLine P J overrun eof N stream).mapError some := by
  unfold receiveRlp receiveLine streamReadline
  split_ifs with hlimit
  · rfl
  · have hline : (LineStream.readline newline stream).1 ≠ [] := LineStream.readline_ne_nil _ hne
    dsimp only
    rw [if_neg hline, if_neg hline]
    cases LineJsonFramer.decode P J N (LineStream.readline newline stream).1 <;> rfl

lemma length_receiveRlp {N : ℤ} {stream rest : Bytes} {message : Obj}
    (h : receiveRlp P J overrun N stream = .ok (message, rest)) : rest.length < stream.length := by
  have hne : stream ≠ [] := by
    rintro rfl
    cases h
  rw [receiveRlp_eq hne ""] at h
  cases hread : receiveLine P J overrun "" N stream with
  | error e =>
    rw [hread] at h
    cases h
  | ok x =>
    rw [hread] at h
    exact length_receiveLine (hread.trans (congrArg Except.ok (Except.ok.inj h)))

def rlpWire (rlpFramer : ℤ) : Service.Wire (Option Exc) Exc Obj UInt8 where
  receive := receiveRlp P J overrun rlpFramer
  send := LineJsonFramer.encode J rlpFramer
  length_receive := length_receiveRlp P J overrun

/-- The loop of the listener: what `handle_rlp_message` raises leaves it, and so does an error of
reading. -/
def rlpServer (respond : σ → Obj → Except Exc Obj × σ) : Service.Server (Option Exc) Exc σ Obj where
  up _ := true
  handle s message :=
    let x := respond s message
    (x.1.map some, x.2)
  unreadable
    | none => .ok ()
    | some e => .error e

/-- `handle_client` of the relay-link listener on what a client sends: what is written before the
connection is closed, how the coroutine ends, and the host's state. -/
def handleRlpClient (rlpFramer : ℤ) (respond : σ → Obj → Except Exc Obj × σ) (s : σ)
    (stream : Bytes) : Bytes × Except Exc Unit × σ :=
  Service.serve (rlpWire P J overrun rlpFramer) (rlpServer respond) s stream

/-- The ends of a link: the limit of a client's adapter and that of the host's framer. -/
structure TcpLimits where
  client : ℤ
  host : ℤ

/-- `_tcp_round_trip` to a host that can be reached: the answer, and the host's state. -/
def tcpRoundTrip (limits : TcpLimits) (respond : σ → Obj → Except Exc Obj × σ) (s : σ)
    (message : Obj) : Except Exc Obj × σ :=
  match LineJsonFramer.encode J limits.client message with
  | .error e => (.error e, s)
  | .ok frame =>
    let x := handleRlpClient P J overrun limits.host respond s frame
    ((TcpTransportAdapter.receive P J overrun limits.client x.1).map Prod.fst, x.2.2)

/-! ### One request -/

/-- A message that fits into a frame. -/
def CanSend (maxMessageSizeBytes : ℤ) (message : Obj) : Prop :=
  ∃ frame, LineJsonFramer.encode J maxMessageSizeBytes message = .ok frame

instance (maxMessageSizeBytes : ℤ) (message : Obj) :
    Decidable (CanSend J maxMessageSizeBytes message) :=
  decidable_of_iff ((LineJsonFramer.encode J maxMessageSizeBytes message).toOption.isSome = true) <|
    by
      unfold CanSend
      cases LineJsonFramer.encode J maxMessageSizeBytes message <;> simp [Except.toOption]

/-- A request is sent, and the host has room for it. -/
def Arrives (limits : TcpLimits) (message : Obj) : Prop :=
  CanSend J limits.client message ∧ HasRoom limits.host message

/-- An answer is sent, and the client has room for it. -/
def Returns (limits : TcpLimits) (answer : Obj) : Prop :=
  CanSend J limits.host answer ∧ HasRoom limits.client answer

instance (limits : TcpLimits) (message : Obj) : Decidable (Arrives J limits message) :=
  inferInstanceAs (Decidable (_ ∧ _))

instance (limits : TcpLimits) (answer : Obj) : Decidable (Returns J limits answer) :=
  inferInstanceAs (Decidable (_ ∧ _))

variable {P J overrun} {F : Json.FloatText} {unicodeDecodeError : Bytes → Exc} {K N : ℤ}
  {message : Obj} {frame : Bytes} {respond : σ → Obj → Except Exc Obj × σ}

lemma encode_ne_nil (hm : Json.WellFormed F (.obj message))
    (h : LineJsonFramer.encode (pythonJson F unicodeDecodeError) K message = .ok frame) :
    frame ≠ [] := by
  obtain ⟨n, hn⟩ := hasSize_of_encode h
  obtain ⟨line, -, rfl, -⟩ := LineJsonFramer.isLine_encode hm hn h
  simp

lemma handleRlpClient_frame (P : Platform) (overrun : Bytes → String) (N : ℤ)
    (respond : σ → Obj → Except Exc Obj × σ) (s : σ) (hm : Json.WellFormed F (.obj message))
    (h : LineJsonFramer.encode (pythonJson F unicodeDecodeError) K message = .ok frame) :
    let x := handleRlpClient P (pythonJson F unicodeDecodeError) overrun N respond s frame
    let y := respond s (sortMessage message)
    (¬ HasRoom N message → x.1 = [] ∧ x.2.2 = s) ∧
    (HasRoom N message → x.1 = (y.1.bind
      (LineJsonFramer.encode (pythonJson F unicodeDecodeError) N)).toOption.getD [] ∧
        x.2.2 = y.2) := by
  intro x y
  have hread := @receiveRlp_eq P (pythonJson F unicodeDecodeError) overrun N _
    (encode_ne_nil hm h) ""
  obtain ⟨hroom, hfull⟩ := receiveLine_cases P overrun "" N hm h []
  rw [List.append_nil] at hroom hfull
  constructor
  -- what it has no room for closes the connection
  · intro hno
    obtain ⟨e, he⟩ := hfull hno
    rw [he] at hread
    have hx : x = _ := Service.serve_of_error (W := rlpWire P _ overrun N)
      (S := rlpServer respond) rfl hread
    rw [hx]
    exact ⟨rfl, rfl⟩
  · intro hyes
    rw [hroom hyes] at hread
    have hx : x = _ := Service.serve_of_ok (W := rlpWire P _ overrun N)
      (S := rlpServer respond) (s := s) rfl hread
    -- behind the frame there is the end of the stream
    have hlast : ∀ s' : σ, Service.serve (rlpWire P (pythonJson F unicodeDecodeError) overrun N)
        (rlpServer respond) s' [] = ([], .ok (), s') := fun s' =>
      Service.serve_of_error (W := rlpWire P _ overrun N) (S := rlpServer respond) rfl
        (e := none) rfl
    have hhandle : (rlpServer respond).handle s (sortMessage message) = (y.1.map some, y.2) := rfl
    rw [hx, hhandle]
    cases y.1 with
    | error e => exact ⟨rfl, rfl⟩
    | ok answer =>
      have hsend : (rlpWire P (pythonJson F unicodeDecodeError) overrun N).send answer
          = LineJsonFramer.encode (pythonJson F unicodeDecodeError) N answer := rfl
      dsimp only [Except.map, Except.bind]
      rw [hsend, hlast]
      cases LineJsonFramer.encode (pythonJson F unicodeDecodeError) N answer with
      | error e => exact ⟨rfl, rfl⟩
      | ok frame => exact ⟨List.append_nil _, rfl⟩

lemma receive_answer (P : Platform) (overrun : Bytes → String) (K N : ℤ) {outcome : Except Exc Obj}
    (hw : ∀ answer, outcome = .ok answer → Json.WellFormed F (.obj answer)) (answer' : Obj) :
    (TcpTransportAdapter.receive P (pythonJson F unicodeDecodeError) overrun K
        ((outcome.bind (LineJsonFramer.encode (pythonJson F unicodeDecodeError) N)).toOption.getD
          [])).map Prod.fst = .ok answer' ↔
      ∃ answer, outcome = .ok answer ∧ CanSend (pythonJson F unicodeDecodeError) N answer ∧
        HasRoom K answer ∧ answer' = sortMessage answer := by
  have hnothing : TcpTransportAdapter.receive P (pythonJson F unicodeDecodeError) overrun K []
      = .error (.transportError "tcp peer disconnected") := rfl
  cases outcome with
  -- nothing is written, and the client finds the end of the stream
  | error e =>
    dsimp only [Except.bind, Except.toOption, Option.getD]
    rw [hnothing]
    refine iff_of_false (by rintro ⟨⟩) ?_
    rintro ⟨answer, ⟨⟩, -⟩
  | ok answer =>
    dsimp only [Except.bind]
    cases hsend : LineJsonFramer.encode (pythonJson F unicodeDecodeError) N answer with
    | error e =>
      dsimp only [Except.toOption, Option.getD]
      rw [hnothing]
      refine iff_of_false (by rintro ⟨⟩) ?_
      rintro ⟨_, ⟨⟩, ⟨frame, hframe⟩, -⟩
      cases hsend.symm.trans hframe
    | ok frame =>
      have hcases := receiveLine_cases P overrun "tcp peer disconnected" K (hw answer rfl) hsend []
      rw [List.append_nil] at hcases
      dsimp only [Except.toOption, Option.getD]
      rw [TcpTransportAdapter.receive]
      -- the answer is written, and the client reads it if it has room for it
      by_cases hroom : HasRoom K answer
      · rw [hcases.1 hroom]
        constructor
        · rintro ⟨⟩
          exact ⟨answer, rfl, ⟨frame, hsend⟩, hroom, rfl⟩
        · rintro ⟨_, ⟨⟩, -, -, rfl⟩
          rfl
      · obtain ⟨e, he⟩ := hcases.2 hroom
        rw [he]
        refine iff_of_false (by rintro ⟨⟩) ?_
        rintro ⟨_, ⟨⟩, -, hroom', -⟩
        exact hroom hroom'

/-- One request. The host handles it once, if it arrives, and not at all otherwise; and the client
gets the answer, with its keys in order, exactly if it returns. -/
lemma tcpRoundTrip_cases (P : Platform) (F : Json.FloatText) (unicodeDecodeError : Bytes → Exc)
    (overrun : Bytes → String) (limits : TcpLimits)
    (respond : σ → Obj → Except Exc Obj × σ) (s : σ) (hm : Json.WellFormed F (.obj message))
    (hanswer : ∀ answer, (respond s (sortMessage message)).1 = .ok answer →
      Json.WellFormed F (.obj answer)) :
    let J := pythonJson F unicodeDecodeError
    let arrives := Arrives J limits message
    let y := respond s (sortMessage message)
    let x := tcpRoundTrip P J overrun limits respond s message
    (arrives → x.2 = y.2) ∧ (¬ arrives → x.2 = s) ∧
      ∀ answer', x.1 = .ok answer' ↔ arrives ∧ ∃ answer, y.1 = .ok answer ∧
        Returns J limits answer ∧ answer' = sortMessage answer := by
  intro J arrives y x
  cases hencode : LineJsonFramer.encode J limits.client message with
  -- the client cannot frame the message
  | error e =>
    have hno : ¬ arrives := by
      rintro ⟨⟨frame, hframe⟩, -⟩
      cases hencode.symm.trans hframe
    have hx : x = (.error e, s) := by
      show tcpRoundTrip P J overrun limits respond s message = _
      rw [tcpRoundTrip, hencode]
    rw [hx]
    exact ⟨fun h => absurd h hno, fun _ => rfl, fun _ => iff_of_false (by rintro ⟨⟩) fun h => hno h.1⟩
  | ok frame =>
    obtain ⟨hfull, hroom⟩ := handleRlpClient_frame P overrun limits.host respond s hm hencode
    have hx : x = ((TcpTransportAdapter.receive P J overrun limits.client
        (handleRlpClient P J overrun limits.host respond s frame).1).map Prod.fst,
        (handleRlpClient P J overrun limits.host respond s frame).2.2) := by
      show tcpRoundTrip P J overrun limits respond s message = _
      rw [tcpRoundTrip, hencode]
    -- it is framed, and the host reads it if it has room for it
    by_cases hhost : HasRoom limits.host message
    · obtain ⟨hwritten, hstate⟩ := hroom hhost
      have hyes : arrives := ⟨⟨frame, hencode⟩, hhost⟩
      rw [hx, hwritten, hstate]
      refine ⟨fun _ => rfl, fun h => absurd hyes h, fun answer' => ?_⟩
      rw [and_iff_right hyes]
      simp only [Returns, and_assoc]
      exact receive_answer P overrun limits.client limits.host hanswer answer'
    · obtain ⟨hwritten, hstate⟩ := hfull hhost
      have hno : ¬ arrives := fun h => hhost h.2
      rw [hx, hwritten, hstate]
      exact ⟨fun h => absurd h hno, fun _ => rfl,
        fun _ => iff_of_false (by rintro ⟨⟩) fun h => hno h.1⟩

/-! ### Requests one after the other -/

lemma toOption_eq_some {x : Except Exc Obj} {answer : Obj} :
    x.toOption = some answer ↔ x = .ok answer := by
  cases x <;> simp [Except.toOption]

/-- Each request over a connection of its own. -/
def tcpRequests (P : Platform) (J : JsonModule Json Obj) (overrun : Bytes → String)
    (limits : TcpLimits) (respond : σ → Obj → Except Exc Obj × σ) :
    σ → List Obj → List (Except Exc Obj) × σ
  | s, [] => ([], s)
  | s, message :: messages =>
    let x := tcpRoundTrip P J overrun limits respond s message
    let y := tcpRequests P J overrun limits respond x.2 messages
    (x.1 :: y.1, y.2)

/-- The requests without the link: what arrives is handled, what returns is an answer. -/
def exchanges (J : JsonModule Json Obj) (limits : TcpLimits)
    (respond : σ → Obj → Except Exc Obj × σ) : σ → List Obj → List (Option Obj) × σ
  | s, [] => ([], s)
  | s, message :: messages =>
    if Arrives J limits message then
      let x := respond s (sortMessage message)
      let answer := x.1.toOption.filter fun answer => decide (Returns J limits answer)
      let y := exchanges J limits respond x.2 messages
      (answer.map sortMessage :: y.1, y.2)
    else
      let y := exchanges J limits respond s messages
      (none :: y.1, y.2)

/-- **Requests over the link.** Whatever is requested, and however the host answers: the requests
that arrive are handled once each, in order, and no others; and the client gets the answers that
return, with their keys in order. -/
theorem tcpRequests_exchanges (P : Platform) (F : Json.FloatText)
    (unicodeDecodeError : Bytes → Exc) (overrun : Bytes → String) (limits : TcpLimits)
    {respond : σ → Obj → Except Exc Obj × σ}
    (hrespond : ∀ s message answer, Json.WellFormed F (.obj message) →
      (respond s (sortMessage message)).1 = .ok answer → Json.WellFormed F (.obj answer))
    (s : σ) {messages : List Obj} (hm : ∀ message ∈ messages, Json.WellFormed F (.obj message)) :
    let J := pythonJson F unicodeDecodeError
    let x := tcpRequests P J overrun limits respond s messages
    (x.1.map Except.toOption, x.2) = exchanges J limits respond s messages := by
  intro J x
  -- by induction on the requests: each meets the host as those before it have left it
  induction messages generalizing s with
  | nil => rfl
  | cons message messages ih =>
    obtain ⟨hhead, htail⟩ := List.forall_mem_cons.mp hm
    obtain ⟨harrived, hlost, hok⟩ := tcpRoundTrip_cases P F unicodeDecodeError overrun limits
      respond s hhead fun answer => hrespond s message answer hhead
    have hx : x = ((tcpRoundTrip P J overrun limits respond s message).1 ::
        (tcpRequests P J overrun limits respond
          (tcpRoundTrip P J overrun limits respond s message).2 messages).1,
        (tcpRequests P J overrun limits respond
          (tcpRoundTrip P J overrun limits respond s message).2 messages).2) := rfl
    have hanswers (s : σ) : (tcpRequests P J overrun limits respond s messages).1.map Except.toOption
        = (exchanges J limits respond s messages).1 := congrArg Prod.fst (ih s htail)
    have hstate (s : σ) : (tcpRequests P J overrun limits respond s messages).2
        = (exchanges J limits respond s messages).2 := congrArg Prod.snd (ih s htail)
    rw [hx, exchanges]
    dsimp only
    rw [List.map_cons, hanswers, hstate]
    by_cases harrives : Arrives J limits message
    · have hanswer : (tcpRoundTrip P J overrun limits respond s message).1.toOption
          = ((respond s (sortMessage message)).1.toOption.filter
            fun answer => decide (Returns J limits answer)).map sortMessage := by
        ext answer'
        rw [toOption_eq_some, hok, and_iff_right harrives, Option.map_eq_some_iff]
        refine exists_congr fun answer => ?_
        rw [Option.filter_eq_some_iff, toOption_eq_some, decide_eq_true_eq, and_assoc,
          eq_comm (a := answer')]
      rw [if_pos harrives, hanswer, harrived harrives]
    · have hanswer : (tcpRoundTrip P J overrun limits respond s message).1.toOption = none := by
        cases hout : (tcpRoundTrip P J overrun limits respond s message).1 with
        | error e => rfl
        | ok answer => exact absurd ((hok answer).mp hout).1 harrives
      rw [if_neg harrives, hanswer, hlost harrives]

/-- Two requests over links with and without room for them. -/
theorem tcpRequests_unsorted :
    let respond (n : ℕ) (_ : Obj) : Except Exc Obj × ℕ := (.ok unsorted, n + 1)
    let requests (host : ℤ) := tcpRequests .strict verbatimJson (fun _ => "overrun") ⟨64, host⟩
      respond 0 [unsorted, unsorted]
    ((requests 64).1.map Except.toOption, (requests 64).2)
        = ([some (sortMessage unsorted), some (sortMessage unsorted)], 2) ∧
      ((requests 8).1.map Except.toOption, (requests 8).2) = ([none, none], 0) := by
  intro respond requests
  have hm : ∀ message ∈ [unsorted, unsorted], Json.WellFormed .verbatim (.obj message) := by
    simp [wellFormed_unsorted]
  have hrespond : ∀ n message answer, Json.WellFormed .verbatim (.obj message) →
      (respond n (sortMessage message)).1 = .ok answer → Json.WellFormed .verbatim (.obj answer) := by
    rintro n message _ - ⟨⟩
    exact wellFormed_unsorted .verbatim
  have hexchanges (host : ℤ) := tcpRequests_exchanges .strict .verbatim
    (fun _ => .valueError "'utf-8' codec can't decode") (fun _ => "overrun") ⟨64, host⟩ hrespond 0 hm
  exact ⟨(hexchanges 64).trans rfl, (hexchanges 8).trans rfl⟩

end NaiaRelay.Runtime
