import NaiaRelay.Lib.Service
import NaiaRelay.PythonJson

set_option autoImplicit false

/-!
The adapters that take messages from a `StreamReader`, one to a line. The reader has a limit of its
own, which nothing configures: a longer line is an error, whatever size is allowed for a message.
-/

namespace NaiaRelay.Transports

open LineStream Text

/-- The limit of a `StreamReader`, which a line may have in front of its newline. -/
def streamLimit : ℕ := 65536

section
variable (P : Platform) {Value Message : Type} (J : JsonModule Value Message)
  (overrun : Bytes → String)

/-- `reader.readline()`. Which of two texts a line that is too long is refused with depends on how
its bytes arrive. -/
def streamReadline (stream : Bytes) : Except Exc (Bytes × Bytes) :=
  if streamLimit < (stream.takeWhile (· ≠ newline)).length then
    .error (.valueError (overrun stream))
  else .ok (readline newline stream)

/-- `receive` of an adapter that is connected, with the text it raises at the end of the
stream. -/
def receiveLine (eof : String) (maxMessageSizeBytes : ℤ) (stream : Bytes) :
    Except Exc (Message × Bytes) :=
  match streamReadline overrun stream with
  | .error e => .error e
  | .ok (frame, rest) =>
    if frame = [] then .error (.transportError eof)
    else (LineJsonFramer.decode P J maxMessageSizeBytes frame).map (·, rest)

/-- `StdioTransportAdapter.receive`. -/
def StdioTransportAdapter.receive (maxMessageSizeBytes : ℤ) (stream : Bytes) :
    Except Exc (Message × Bytes) :=
  receiveLine P J overrun "stdio transport reached EOF" maxMessageSizeBytes stream

/-- `McpStdioTransportAdapter.receive`. -/
def McpStdioTransportAdapter.receive (maxMessageSizeBytes : ℤ) (stream : Bytes) :
    Except Exc (Message × Bytes) :=
  receiveLine P J overrun "mcp stdio transport reached EOF" maxMessageSizeBytes stream

/-- `TcpTransportAdapter.receive`. -/
def TcpTransportAdapter.receive (maxMessageSizeBytes : ℤ) (stream : Bytes) :
    Except Exc (Message × Bytes) :=
  receiveLine P J overrun "tcp peer disconnected" maxMessageSizeBytes stream

end

variable {P : Platform} {Value Message : Type} {J : JsonModule Value Message}
  {overrun : Bytes → String} {eof : String} {N : ℤ}

lemma length_receiveLine {stream rest : Bytes} {message : Message}
    (h : receiveLine P J overrun eof N stream = .ok (message, rest)) :
    rest.length < stream.length := by
  unfold receiveLine at h
  split at h
  · cases h
  · rename_i frame rest' hline
    split_ifs at h with hnil
    obtain ⟨x, -, heq⟩ := Json.map_eq_ok h
    obtain ⟨-, rfl⟩ := Prod.mk.inj heq
    unfold streamReadline at hline
    split_ifs at hline
    have hread := Except.ok.inj hline
    have hlength := length_readline_lt newline (l := stream) (by rw [hread]; exact hnil)
    rwa [hread] at hlength

/-- An adapter over a stream, in both directions. -/
def lineWire (P : Platform) (J : JsonModule Value Message) (overrun : Bytes → String) (eof : String)
    (maxMessageSizeBytes : ℤ) : Service.Wire Exc Exc Message UInt8 where
  receive := receiveLine P J overrun eof maxMessageSizeBytes
  send := LineJsonFramer.encode J maxMessageSizeBytes
  length_receive := length_receiveLine

/-! ### Lines -/

/-- The line holds the message: with room enough, it is decoded as that. -/
def HoldsMessage (P : Platform) (J : JsonModule Value Message) (line : Bytes) (message : Message) :
    Prop :=
  LineJsonFramer.decode P J line.length line = .ok message

/-- There is room for the line: in the reader, in front of its newline, and within the limit with
it. -/
def LineFits (maxMessageSizeBytes : ℤ) (line : Bytes) : Prop :=
  (line.takeWhile (· ≠ newline)).length ≤ streamLimit ∧ (line.length : ℤ) ≤ maxMessageSizeBytes

instance (maxMessageSizeBytes : ℤ) (line : Bytes) : Decidable (LineFits maxMessageSizeBytes line) :=
  inferInstanceAs (Decidable (_ ∧ _))

lemma decode_eq_ok_iff {line : Bytes} {message : Message} :
    LineJsonFramer.decode P J N line = .ok message ↔
      (line.length : ℤ) ≤ N ∧ HoldsMessage P J line message := by
  unfold HoldsMessage LineJsonFramer.decode
  by_cases hN : (line.length : ℤ) > N
  · rw [if_pos hN]
    exact iff_of_false (by rintro ⟨⟩) fun h => absurd h.1 (by omega)
  · rw [if_neg hN, if_neg (lt_irrefl _), and_iff_right (by omega)]

lemma receiveLine_eq_ok_iff {stream rest : Bytes} {message : Message} :
    receiveLine P J overrun eof N stream = .ok (message, rest) ↔
      stream ≠ [] ∧ LineFits N (readline newline stream).1 ∧
        HoldsMessage P J (readline newline stream).1 message ∧
        rest = (readline newline stream).2 := by
  unfold receiveLine streamReadline LineFits
  rw [takeWhile_readline]
  by_cases hlimit : streamLimit < (stream.takeWhile (· ≠ newline)).length
  · rw [if_pos hlimit]
    exact iff_of_false (by rintro ⟨⟩) fun h => absurd h.2.1.1 (by omega)
  · rw [if_neg hlimit]
    dsimp only
    by_cases hnil : stream = []
    · rw [hnil]
      exact iff_of_false (by rintro ⟨⟩) fun h => h.1 rfl
    · rw [if_neg (readline_ne_nil newline hnil), and_iff_right hnil,
        and_iff_right (not_lt.mp hlimit), ← and_assoc, ← decode_eq_ok_iff]
      constructor
      · intro h
        obtain ⟨m, hm, heq⟩ := Json.map_eq_ok h
        obtain ⟨rfl, rfl⟩ := Prod.mk.inj heq
        exact ⟨hm, rfl⟩
      · rintro ⟨hm, rfl⟩
        rw [hm]
        rfl

/-- **What is received of lines that hold messages**: the messages of those in front of the first
there is no room for. -/
lemma received_lines {messages : List Message} {stream : Bytes}
    (h : List.Forall₂ (HoldsMessage P J) (lines newline stream) messages) :
    (Service.received (lineWire P J overrun eof N) stream).1
      = messages.take ((lines newline stream).takeWhile fun line => LineFits N line).length := by
  -- by induction on the stream, line by line
  induction hlength : stream.length using Nat.strong_induction_on generalizing stream messages with
  | _ n ih =>
    by_cases hnil : stream = []
    · subst hnil
      rw [lines_nil] at h ⊢
      rw [List.forall₂_nil_left_iff.mp h, List.take_nil]
      exact congrArg Prod.fst (Service.received_of_error (W := lineWire P J overrun eof N)
        (e := .transportError eof) rfl)
    · rw [lines_of_ne_nil newline hnil] at h ⊢
      obtain ⟨message, messages, hm, hrest, rfl⟩ := List.forall₂_cons_left_iff.mp h
      have hless := length_readline_lt newline (readline_ne_nil newline hnil)
      have hreceive : ∀ message' rest, receiveLine P J overrun eof N stream = .ok (message', rest) ↔ _ :=
        fun message' rest => receiveLine_eq_ok_iff
      by_cases hfits : LineFits N (readline newline stream).1
      · have hread := (hreceive message _).mpr ⟨hnil, hfits, hm, rfl⟩
        rw [Service.received_of_ok (W := lineWire P J overrun eof N) hread,
          ih _ (hlength ▸ hless) hrest rfl, List.takeWhile_cons_of_pos (by simpa using hfits)]
        rfl
      -- there is no room for the line, and nothing behind it is received
      · rw [List.takeWhile_cons_of_neg (by simpa using hfits)]
        cases hread : receiveLine P J overrun eof N stream with
        | ok x => exact absurd ((hreceive x.1 x.2).mp hread).2.1 hfits
        | error e =>
          rw [Service.received_of_error (W := lineWire P J overrun eof N) hread]
          rfl

lemma received_lines_of_fits {messages : List Message} {stream : Bytes}
    (h : List.Forall₂ (HoldsMessage P J) (lines newline stream) messages)
    (hfits : ∀ line ∈ lines newline stream, LineFits N line) :
    (Service.received (lineWire P J overrun eof N) stream).1 = messages := by
  have hall : ((lines newline stream).takeWhile fun line => LineFits N line)
      = lines newline stream :=
    List.takeWhile_eq_self_iff.mpr fun line hline => decide_eq_true (hfits line hline)
  rw [received_lines h, hall, h.length_eq, List.take_length]

/-! ### What is received -/

lemma takeWhile_line {line : Bytes} (h : newline ∉ line) (rest : Bytes) :
    (line ++ newline :: rest).takeWhile (· ≠ newline) = line := by
  have hall : ∀ x ∈ line, decide (x ≠ newline) = true := fun x hx => by
    rw [decide_eq_true_iff]
    rintro rfl
    exact h hx
  rw [List.takeWhile_append_of_pos hall]
  simp

lemma streamReadline_line {line : Bytes} (h : newline ∉ line) (rest : Bytes) :
    streamReadline overrun (line ++ newline :: rest) =
      if streamLimit < line.length then .error (.valueError (overrun (line ++ newline :: rest)))
      else .ok (line ++ [newline], rest) := by
  rw [streamReadline, takeWhile_line h, readline_line newline h]

/-- How many bytes a message takes. -/
def messageSize (message : Obj) : ℕ := Json.textSize (.obj message)

/-- There is room for the message: in the reader, and within the limit with the newline. -/
def HasRoom (maxMessageSizeBytes : ℤ) (message : Obj) : Prop :=
  messageSize message ≤ streamLimit ∧ (messageSize message : ℤ) < maxMessageSizeBytes

instance (maxMessageSizeBytes : ℤ) (message : Obj) :
    Decidable (HasRoom maxMessageSizeBytes message) :=
  inferInstanceAs (Decidable (messageSize message ≤ streamLimit ∧
    (messageSize message : ℤ) < maxMessageSizeBytes))

lemma HasSize.eq_messageSize {message : Obj} {n : ℕ} (h : HasSize message n) :
    n = messageSize message := by
  obtain ⟨text, htext, rfl⟩ := h
  exact Json.bytes_of_dumps _ _ htext

section
variable {F : Json.FloatText} {unicodeDecodeError : Bytes → Exc} {K : ℤ} {message : Obj}
  {frame : Bytes}

lemma exists_encode (hdumps : ∃ text, Json.dumps (.obj message) = .ok text)
    (hsize : (messageSize message : ℤ) ≤ K) :
    ∃ frame, LineJsonFramer.encode (pythonJson F unicodeDecodeError) K message = .ok frame := by
  obtain ⟨text, htext⟩ := hdumps
  have hbytes : messageSize message = (Text.encodeUtf8 text).length :=
    (Json.bytes_of_dumps _ _ htext).symm
  have hpayload : encodePayload (pythonJson F unicodeDecodeError) K message
      = .ok (Text.encodeUtf8 text) := encodePayload_eq_ok.mpr ⟨text, htext, rfl, hbytes ▸ hsize⟩
  exact ⟨_, congrArg (Except.map (· ++ [newline])) hpayload⟩

lemma receiveLine_encode (hm : Json.WellFormed F (.obj message))
    (h : LineJsonFramer.encode (pythonJson F unicodeDecodeError) K message = .ok frame)
    (rest : Bytes) :
    receiveLine P (pythonJson F unicodeDecodeError) overrun eof N (frame ++ rest) =
      if streamLimit < messageSize message then .error (.valueError (overrun (frame ++ rest)))
      else if (messageSize message : ℤ) < N then .ok (sortMessage message, rest)
      else .error (.transportError "Received frame exceeds configured maximum message size.") := by
  obtain ⟨n, hn⟩ := hasSize_of_encode h
  have hdecode := LineJsonFramer.decode_encode (P := P) (M := N) hm hn h
  obtain ⟨line, hbreak, rfl, hlength⟩ := LineJsonFramer.isLine_encode hm hn h
  obtain rfl := hn.eq_messageSize
  rw [receiveLine, List.append_assoc, List.singleton_append, streamReadline_line hbreak, hlength]
  by_cases hlimit : streamLimit < messageSize message
  · rw [if_pos hlimit, if_pos hlimit]
  · rw [if_neg hlimit, if_neg hlimit]
    dsimp only
    rw [if_neg (by simp), hdecode]
    split_ifs <;> rfl

lemma receiveLine_cases (P : Platform) (overrun : Bytes → String) (eof : String) (N : ℤ)
    (hm : Json.WellFormed F (.obj message))
    (h : LineJsonFramer.encode (pythonJson F unicodeDecodeError) K message = .ok frame)
    (rest : Bytes) :
    (HasRoom N message → receiveLine P (pythonJson F unicodeDecodeError) overrun eof N
      (frame ++ rest) = .ok (sortMessage message, rest)) ∧
    (¬ HasRoom N message → ∃ e, receiveLine P (pythonJson F unicodeDecodeError) overrun eof N
      (frame ++ rest) = .error e) := by
  rw [receiveLine_encode hm h, HasRoom]
  constructor
  · rintro ⟨hlimit, hN⟩
    rw [if_neg (by omega), if_pos hN]
  · intro hroom
    split_ifs with hlimit hN
    · exact ⟨_, rfl⟩
    · exact absurd ⟨by omega, hN⟩ hroom
    · exact ⟨_, rfl⟩

lemma received_frames {messages : List Obj} {frames : List Bytes}
    (hm : ∀ message ∈ messages, Json.WellFormed F (.obj message))
    (h : Frames (LineJsonFramer.encode (pythonJson F unicodeDecodeError) K) messages frames) :
    (Service.received (lineWire P (pythonJson F unicodeDecodeError) overrun eof N)
      frames.flatten).1 = (messages.takeWhile fun m => decide (HasRoom N m)).map sortMessage := by
  refine Service.received_flatten ?_ ⟨.transportError eof, rfl⟩
  induction h with
  | nil => exact .nil
  | cons he h ih =>
    obtain ⟨hhead, htail⟩ := List.forall_mem_cons.mp hm
    refine .cons (fun rest => ?_) (ih htail)
    have hcases := receiveLine_cases P overrun eof N hhead he rest
    exact ⟨fun hroom => hcases.1 (of_decide_eq_true hroom),
      fun hroom => hcases.2 (of_decide_eq_false hroom)⟩

lemma lines_frames_hold (P : Platform) (overrun : Bytes → String) (eof : String) {messages : List Obj}
    (hm : ∀ message ∈ messages, Json.Held F (.obj message))
    (hroom : ∀ message ∈ messages, HasRoom N message) :
    let J := pythonJson F unicodeDecodeError
    let stream := messages.flatMap (Service.frame (lineWire P J overrun eof N))
    List.Forall₂ (HoldsMessage P J) (lines newline stream) (messages.map sortMessage) ∧
      ∀ line ∈ lines newline stream, LineFits N line := by
  intro J stream
  induction messages with
  | nil =>
    have hnone : lines newline stream = [] := lines_nil newline
    rw [hnone]
    exact ⟨.nil, by rintro _ ⟨⟩⟩
  | cons message messages ih =>
    obtain ⟨⟨hw, hdumps⟩, hm⟩ := List.forall_mem_cons.mp hm
    obtain ⟨⟨hlimit, hN⟩, hroom⟩ := List.forall_mem_cons.mp hroom
    obtain ⟨hholds, hfits⟩ := ih hm hroom
    obtain ⟨frame, hframe⟩ : ∃ frame, LineJsonFramer.encode J N message = .ok frame :=
      exists_encode hdumps hN.le
    obtain ⟨n, hn⟩ := hasSize_of_encode hframe
    have hdecode := LineJsonFramer.decode_encode (P := P) (M := N) hw hn hframe
    obtain ⟨line, hbreak, rfl, hlength⟩ := LineJsonFramer.isLine_encode hw hn hframe
    obtain rfl := hn.eq_messageSize
    rw [if_pos hN] at hdecode
    have hstream : stream = line ++ newline
        :: messages.flatMap (Service.frame (lineWire P J overrun eof N)) := by
      have hsent : (lineWire P J overrun eof N).send message = .ok (line ++ [newline]) := hframe
      show List.flatMap _ (message :: messages) = _
      rw [List.flatMap_cons, Service.frame_of_ok hsent, List.append_assoc]
      rfl
    rw [hstream, lines_line newline hbreak]
    refine ⟨.cons (decode_eq_ok_iff.mp hdecode).2 hholds, List.forall_mem_cons.mpr ⟨⟨?_, ?_⟩, hfits⟩⟩
    · rw [takeWhile_line hbreak, hlength]
      exact hlimit
    · exact (decode_eq_ok_iff.mp hdecode).1

end

end NaiaRelay.Transports
