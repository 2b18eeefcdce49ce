import NaiaRelay.Errors
import NaiaRelay.Lib.LineStream
import NaiaRelay.Lib.Text

set_option autoImplicit false

/-!
How messages are put on a stream of bytes and taken from it: one to a line, or each behind a
header that says how long it is. A stream that is read stands for what is still to be read of it,
and ends there.
-/

namespace NaiaRelay.Transports

open LineStream Text

abbrev Bytes := List UInt8

/-- `b"\n"`. -/
def newline : UInt8 := 10

/-- What is used of the json module, and what decoding bytes that are no UTF-8 raises. -/
structure JsonModule (Value Message : Type) where
  dumps : Message → Except Exc String
  loads : String → Except Exc Value
  /-- The value if it is a `dict`. -/
  asDict : Value → Option Message
  unicodeDecodeError : Bytes → Exc

variable (P : Platform) {Value Message : Type} (J : JsonModule Value Message)

/-- `to_json`. -/
def toJson (data : Message) : Except Exc String := J.dumps data

/-- `from_json`. -/
def fromJson (text : String) : Except Exc Message := do
  match J.asDict (← J.loads text) with
  | none => .error (.valueError "JSON payload must decode to an object")
  | some loaded => .ok loaded

/-- The message a payload holds. Whatever goes wrong is raised as malformed JSON. -/
def decodePayload (payload : Bytes) : Except Exc Message :=
  let loaded : Except Exc Message :=
    match decodeUtf8 payload with
    | none => .error (J.unicodeDecodeError payload)
    | some text => fromJson J text
  match loaded with
  | .ok message => .ok message
  | .error exc => .error (.transportError ("Received malformed JSON frame: " ++ exc.text P))

/-- The bytes of a message, if there are not too many. -/
def encodePayload (maxMessageSizeBytes : ℤ) (message : Message) : Except Exc Bytes := do
  let payload := encodeUtf8 (← toJson J message)
  if payload.length > maxMessageSizeBytes then
    .error (.transportError "Message exceeds configured maximum message size.")
  else .ok payload

/-! ### Lines -/

/-- `LineJsonFramer.encode`. -/
def LineJsonFramer.encode (maxMessageSizeBytes : ℤ) (message : Message) : Except Exc Bytes :=
  (encodePayload J maxMessageSizeBytes message).map (· ++ [newline])

/-- `LineJsonFramer.decode`. -/
def LineJsonFramer.decode (maxMessageSizeBytes : ℤ) (frame : Bytes) : Except Exc Message :=
  if frame.length > maxMessageSizeBytes then
    .error (.transportError "Received frame exceeds configured maximum message size.")
  else
    let payload := frame.rdropWhile (· = newline)
    if payload = [] then .error (.transportError "Received empty frame.")
    else decodePayload P J payload

/-! ### Headers -/

namespace ContentLengthJsonFramer

/-- `encode`. -/
def encode (maxMessageSizeBytes : ℤ) (message : Message) : Except Exc Bytes := do
  let payload ← encodePayload J maxMessageSizeBytes message
  match decimal payload.length with
  | none => .error .tooManyDigits
  | some digits =>
    .ok (encodeAscii ("Content-Length: ".toList ++ digits ++ "\r\n\r\n".toList) ++ payload)

/-- The text of the `UnicodeDecodeError` of a line that is not ASCII. -/
def asciiDecodeErrorText (line : Bytes) : String :=
  let position := line.findIdx fun x => 128 ≤ x.toNat
  "'ascii' codec can't decode byte 0x" ++ String.ofList (Nat.toDigits 16 (line.getD position 0).toNat)
    ++ " in position " ++ toString position ++ ": ordinal not in range(128)"

/-- What a header line makes of the length read so far. -/
def readHeader (contentLength : Option ℤ) (line : Bytes) : Except Exc (Option ℤ) :=
  match decodeAscii line with
  | none =>
    .error (.transportError ("Received malformed MCP header: " ++ asciiDecodeErrorText line))
  | some text =>
    let header := strip text
    if ':' ∉ header then
      .error (.transportError ("Received malformed MCP header line: "
        ++ Json.reprStr P.isprintable (String.ofList header)))
    else
      let (name, value) := cut ':' header
      if lower (strip name) = "content-length".toList then
        match int (strip value) with
        | none => .error (.transportError "Received invalid Content-Length header.")
        | some n => .ok (some n)
      else .ok contentLength

/-- The loop over the header lines, up to the blank line. -/
def readHeaders (contentLength : Option ℤ) (stream : Bytes) : Except Exc (Option ℤ) × Bytes :=
  let line := (readline newline stream).1
  let rest := (readline newline stream).2
  if _h : line = [] then (.error (.transportError "stdio transport reached EOF"), rest)
  else if line = [13, newline] ∨ line = [newline] then (.ok contentLength, rest)
  else
    match readHeader P contentLength line with
    | .error e => (.error e, rest)
    | .ok contentLength => readHeaders contentLength rest
termination_by stream.length
decreasing_by exact length_readline_lt newline _h

/-- `reader.read(n)`, checked for its length: a negative `n` reads everything. -/
def readUpTo (n : ℤ) (stream : Bytes) : Except Exc Bytes × Bytes :=
  let (payload, rest) := if n < 0 then (stream, []) else (stream.take n.toNat, stream.drop n.toNat)
  if (payload.length : ℤ) ≠ n then
    (.error (.transportError "Received truncated MCP message body."), rest)
  else (.ok payload, rest)

/-- `await reader.readexactly(n)`, its `IncompleteReadError` caught. -/
def readExactly (n : ℤ) (stream : Bytes) : Except Exc Bytes × Bytes :=
  if n < 0 then (.error (.valueError "readexactly size can not be less than zero"), stream)
  else if stream.length < n then
    (.error (.transportError "Received truncated MCP message body."), [])
  else (.ok (stream.take n.toNat), stream.drop n.toNat)

/-- A message read from a stream, and what is left of the stream, given how a body is read. -/
def readWith (readBody : ℤ → Bytes → Except Exc Bytes × Bytes) (maxMessageSizeBytes : ℤ)
    (stream : Bytes) : Except Exc Message × Bytes :=
  match readHeaders P none stream with
  | (.error e, rest) => (.error e, rest)
  | (.ok none, rest) => (.error (.transportError "Missing Content-Length header."), rest)
  | (.ok (some contentLength), rest) =>
    if contentLength > maxMessageSizeBytes then
      (.error (.transportError "Received frame exceeds configured maximum message size."), rest)
    else
      match readBody contentLength rest with
      | (.error e, rest) => (.error e, rest)
      | (.ok payload, rest) => (decodePayload P J payload, rest)

/-- `read_sync`. -/
def readSync (maxMessageSizeBytes : ℤ) (stream : Bytes) : Except Exc Message × Bytes :=
  readWith P J readUpTo maxMessageSizeBytes stream

/-- `read`. -/
def read (maxMessageSizeBytes : ℤ) (stream : Bytes) : Except Exc Message × Bytes :=
  readWith P J readExactly maxMessageSizeBytes stream

end ContentLengthJsonFramer

/-! ### Payloads -/

variable {P J}

lemma encodePayload_eq_ok {N : ℤ} {message : Message} {payload : Bytes} :
    encodePayload J N message = .ok payload ↔
      ∃ text, toJson J message = .ok text ∧ payload = encodeUtf8 text ∧ payload.length ≤ N := by
  unfold encodePayload
  cases toJson J message with
  | error e => exact iff_of_false nofun fun ⟨_, h, _⟩ => nomatch h
  | ok text =>
    by_cases hN : ((encodeUtf8 text).length : ℤ) > N
    · refine iff_of_false ?_ ?_
      · simp [bind, Except.bind, hN]
      · rintro ⟨_, htext, rfl, hle⟩
        obtain rfl := Except.ok.inj htext
        omega
    · constructor
      · intro h
        simp only [bind, Except.bind, hN, if_false] at h
        obtain rfl := Except.ok.inj h
        exact ⟨text, rfl, rfl, by omega⟩
      · rintro ⟨_, htext, rfl, -⟩
        obtain rfl := Except.ok.inj htext
        simp [bind, Except.bind, hN]

lemma decodePayload_encodeUtf8 {text : String} {message : Message}
    (h : fromJson J text = .ok message) : decodePayload P J (encodeUtf8 text) = .ok message := by
  simp only [decodePayload, decodeUtf8_encodeUtf8, h]

lemma newline_notMem_encodeAscii {s : List Char} (hascii : ∀ c ∈ s, IsAscii c) (h : '\n' ∉ s) :
    newline ∉ encodeAscii s := by
  intro hmem
  obtain ⟨c, hc, heq⟩ := List.mem_map.mp hmem
  have hnat : c.toNat = 10 := by
    rw [← toNat_ofNat_ascii (hascii c hc), heq, newline, UInt8.toNat_ofNat]
  have hchar : c = '\n' := by rw [← Char.ofNat_toNat c, hnat]
  exact h (hchar ▸ hc)

lemma mapM_eq_ok {α β : Type} {f : α → Except Exc β} {l : List α} {l' : List β} :
    l.mapM f = .ok l' ↔ List.Forall₂ (fun a b => f a = .ok b) l l' := by
  induction l generalizing l' with
  | nil =>
    rw [List.mapM_nil, List.forall₂_nil_left_iff]
    exact ⟨fun h => (Except.ok.inj h).symm, fun h => congrArg _ h.symm⟩
  | cons a l ih =>
    rw [List.mapM_cons, List.forall₂_cons_left_iff]
    constructor
    · intro h
      cases ha : f a with
      | error e =>
        rw [ha] at h
        cases h
      | ok b =>
        cases hl : l.mapM f with
        | error e =>
          rw [ha, hl] at h
          cases h
        | ok bs =>
          rw [ha, hl] at h
          exact ⟨b, bs, rfl, ih.mp hl, (Except.ok.inj h).symm⟩
    · rintro ⟨b, bs, ha, hl, rfl⟩
      rw [ha, ih.mpr hl]
      rfl

/-- The json module, as far as the empty object goes. -/
def emptyJson : JsonModule Json Obj where
  dumps
    | [] => .ok "\x7b\x7d"
    | _ => .error (.typeError "Object is not JSON serializable")
  loads text :=
    if text = "\x7b\x7d" then .ok (.obj []) else .error (.valueError "Expecting value")
  asDict
    | .obj o => some o
    | _ => none
  unicodeDecodeError _ := .valueError "'utf-8' codec can't decode"

end NaiaRelay.Transports
