import Mathlib.Data.Bool.AllAny
import NaiaRelay.Framing

set_option autoImplicit false

/-!
Messages behind a Content-Length header, with whatever other headers there are and however the
header's name is written.
-/

namespace NaiaRelay.Transports

open LineStream Text ContentLengthJsonFramer

/-- A header line other than the Content-Length line, without its newline. -/
structure HeaderLine where
  text : List Char
  ascii : ∀ c ∈ text, IsAscii c
  unbroken : '\n' ∉ text
  colon : ':' ∈ text
  other : lower (strip (cut ':' text).1) ≠ "content-length".toList

def HeaderLine.bytes (l : HeaderLine) : Bytes := encodeAscii l.text ++ [newline]

/-- How a frame may be changed: by header lines before and after the Content-Length line, and by
the case of the letters in that line's name. -/
structure Variation where
  before : List HeaderLine
  after : List HeaderLine
  name : List Char
  recased : lower name = "content-length".toList

/-- A frame, changed: its first line is the Content-Length line, and the rest starts with the
blank line. -/
def Variation.vary (v : Variation) (frame : Bytes) : Bytes :=
  let (line, rest) := readline newline frame
  v.before.flatMap HeaderLine.bytes
    ++ (encodeAscii v.name ++ line.drop "Content-Length".toList.length)
    ++ v.after.flatMap HeaderLine.bytes ++ rest

/-- A number of messages read one after the other, and what is left of the stream. -/
def readTimes {Message : Type} (read : Bytes → Except Exc Message × Bytes) :
    ℕ → Bytes → Except Exc (List Message) × Bytes
  | 0, stream => (.ok [], stream)
  | n + 1, stream =>
    match read stream with
    | (.error e, rest) => (.error e, rest)
    | (.ok message, rest) =>
      let x := readTimes read n rest
      (x.1.map (message :: ·), x.2)

variable {P : Platform} {Value Message : Type} {J : JsonModule Value Message} {N : ℤ}
  {contentLength : Option ℤ}

/-! ### One line -/

lemma readHeaders_cons {line : Bytes} (hbreak : newline ∉ line) (hblank : ¬ (line = [13] ∨ line = []))
    (rest : Bytes) :
    readHeaders P contentLength (line ++ newline :: rest) =
      match readHeader P contentLength (line ++ [newline]) with
      | .error e => (.error e, rest)
      | .ok contentLength => readHeaders P contentLength rest := by
  have hnot : ¬ (line ++ [newline] = [13, newline] ∨ line ++ [newline] = [newline]) := by
    rintro (heq | heq)
    · exact hblank (Or.inl ((List.append_left_inj [newline]).mp heq))
    · exact hblank (Or.inr ((List.append_left_inj [newline]).mp heq))
  rw [readHeaders, readline_line newline hbreak rest]
  dsimp only
  rewrite [dif_neg (by simp), if_neg hnot]
  rfl

lemma readHeaders_line {text : List Char} (hascii : ∀ c ∈ text, IsAscii c) (hbreak : '\n' ∉ text)
    (hcolon : ':' ∈ text) (rest : Bytes) :
    readHeaders P contentLength (encodeAscii text ++ newline :: rest) =
      match readHeader P contentLength (encodeAscii text ++ [newline]) with
      | .error e => (.error e, rest)
      | .ok contentLength => readHeaders P contentLength rest := by
  have hmem : 58 ∈ encodeAscii text :=
    List.mem_map_of_mem (f := fun c => UInt8.ofNat c.toNat) hcolon
  refine readHeaders_cons (newline_notMem_encodeAscii hascii hbreak) ?_ rest
  rintro (heq | heq) <;> (rw [heq] at hmem; exact absurd hmem (by decide))

lemma readHeader_eq {name value : List Char} (hname : ∀ c ∈ name, IsAscii c)
    (hvalue : ∀ c ∈ value, IsAscii c) (hcolon : ':' ∉ name) :
    readHeader P contentLength (encodeAscii (name ++ ':' :: value) ++ [newline]) =
      if lower (strip name) = "content-length".toList then
        match int (strip ((value ++ ['\n']).rdropWhile isSpace)) with
        | none => .error (.transportError "Received invalid Content-Length header.")
        | some n => .ok (some n)
      else .ok contentLength := by
  have htext : encodeAscii (name ++ ':' :: value) ++ [newline]
      = encodeAscii (name ++ ':' :: (value ++ ['\n'])) := by
    have happ : name ++ ':' :: (value ++ ['\n']) = (name ++ ':' :: value) ++ ['\n'] := by simp
    rw [happ, encodeAscii_append (name ++ ':' :: value)]
    rfl
  have hascii : ∀ c ∈ name ++ ':' :: (value ++ ['\n']), IsAscii c := by
    intro c hc
    simp only [List.mem_append, List.mem_cons, List.not_mem_nil, or_false] at hc
    rcases hc with hc | rfl | hc | rfl
    · exact hname c hc
    · decide
    · exact hvalue c hc
    · decide
  have hdrop : ':' ∉ name.dropWhile isSpace := fun h => hcolon (List.dropWhile_suffix _ |>.mem h)
  rw [readHeader, htext, decodeAscii_encodeAscii hascii]
  dsimp only
  rw [strip_append (by decide), if_neg (by simp), cut_append hdrop]
  dsimp only
  rewrite [strip_dropWhile]
  rfl

lemma readHeaders_other (l : HeaderLine) (rest : Bytes) :
    readHeaders P contentLength (l.bytes ++ rest) = readHeaders P contentLength rest := by
  obtain ⟨text, hascii, hbreak, hmem, hother⟩ := l
  obtain ⟨name, value, rfl, hcolon⟩ := List.eq_append_cons_of_mem hmem
  rw [cut_append hcolon] at hother
  have hheader : readHeader P contentLength (encodeAscii (name ++ ':' :: value) ++ [newline])
      = .ok contentLength := by
    rw [readHeader_eq (fun c hc => hascii c (by simp [hc])) (fun c hc => hascii c (by simp [hc]))
      hcolon, if_neg hother]
  rw [HeaderLine.bytes, List.append_assoc, List.singleton_append,
    readHeaders_line hascii hbreak hmem, hheader]

lemma readHeaders_others (ls : List HeaderLine) (rest : Bytes) :
    readHeaders P contentLength (ls.flatMap HeaderLine.bytes ++ rest)
      = readHeaders P contentLength rest := by
  induction ls with
  | nil => rfl
  | cons l ls ih => rw [List.flatMap_cons, List.append_assoc, readHeaders_other, ih]

lemma recased_char {name : List Char} (hname : lower name = "content-length".toList) {c : Char}
    (hc : c ∈ name) : IsAscii c ∧ c ≠ ':' ∧ c ≠ '\n' ∧ isSpace c = false := by
  have h : c.toLower ∈ "content-length".toList := by
    rw [← hname]
    exact List.mem_map_of_mem hc
  unfold Char.toLower at h
  split at h
  · rename_i hupper
    have hlow : 65 ≤ c.toNat := UInt32.le_iff_toNat_le.mp hupper.1
    have hhigh : c.toNat ≤ 90 := UInt32.le_iff_toNat_le.mp hupper.2
    refine ⟨?_, ?_, ?_, ?_⟩
    · show c.toNat < 128
      omega
    · rintro rfl
      exact absurd hlow (by decide)
    · rintro rfl
      exact absurd hlow (by decide)
    · simp only [isSpace, Bool.or_eq_false_iff, Bool.and_eq_false_iff, decide_eq_false_iff_not]
      omega
  · have hletters : ∀ c ∈ "content-length".toList,
        IsAscii c ∧ c ≠ ':' ∧ c ≠ '\n' ∧ isSpace c = false :=
      List.all_iff_forall_prop.mp (by decide)
    exact hletters c h

lemma strip_value {digits : List Char} (hspace : ∀ c ∈ digits, isSpace c = false)
    (hne : digits ≠ []) :
    strip ((' ' :: (digits ++ ['\r']) ++ ['\n']).rdropWhile isSpace) = digits := by
  have hright : (' ' :: (digits ++ ['\r']) ++ ['\n']).rdropWhile isSpace = ' ' :: digits := by
    have happ : ' ' :: (digits ++ ['\r']) = (' ' :: digits) ++ ['\r'] := rfl
    rw [List.rdropWhile_concat_pos _ _ _ (by decide), happ,
      List.rdropWhile_concat_pos _ _ _ (by decide), List.rdropWhile_eq_self_iff]
    intro _
    rw [List.getLast_cons hne, hspace _ (List.getLast_mem hne)]
    decide
  have hleft : (' ' :: digits).dropWhile isSpace = digits.dropWhile isSpace := rfl
  rw [hright, ← strip_dropWhile, hleft, strip_dropWhile, strip_eq_self hspace]

/-- The Content-Length line, without its newline. -/
def lengthLine (name : List Char) (n : ℕ) : List Char :=
  name ++ ':' :: (' ' :: (Nat.toDigits 10 n ++ ['\r']))

lemma lengthValue_char {n : ℕ} {c : Char} (hc : c ∈ ' ' :: (Nat.toDigits 10 n ++ ['\r'])) :
    IsAscii c ∧ c ≠ '\n' := by
  simp only [List.mem_cons, List.mem_append, List.not_mem_nil, or_false] at hc
  rcases hc with rfl | hc | rfl
  · decide
  · obtain ⟨hlow, hhigh⟩ := toNat_of_isDigit (isDigit_of_mem_decimal hc)
    refine ⟨Nat.lt_of_le_of_lt hhigh (by decide), ?_⟩
    rintro rfl
    exact absurd hlow (by decide)
  · decide

lemma lengthLine_char {name : List Char} (hname : lower name = "content-length".toList) {n : ℕ}
    {c : Char} (hc : c ∈ lengthLine name n) : IsAscii c ∧ c ≠ '\n' := by
  rcases List.mem_append.mp hc with hc | hc
  · obtain ⟨hascii, -, hbreak, -⟩ := recased_char hname hc
    exact ⟨hascii, hbreak⟩
  · rcases List.mem_cons.mp hc with rfl | hc
    · decide
    · exact lengthValue_char hc

lemma readHeaders_lengthLine {name : List Char} (hname : lower name = "content-length".toList)
    {n : ℕ} {digits : List Char} (hdigits : decimal n = some digits) (rest : Bytes) :
    readHeaders P contentLength (encodeAscii (lengthLine name n) ++ newline :: rest)
      = readHeaders P (some (n : ℤ)) rest := by
  have hchar : ∀ c ∈ name, IsAscii c ∧ c ≠ ':' ∧ c ≠ '\n' ∧ isSpace c = false :=
    fun c hc => recased_char hname hc
  have hheader : readHeader P contentLength (encodeAscii (lengthLine name n) ++ [newline])
      = .ok (some (n : ℤ)) := by
    rw [lengthLine, readHeader_eq (fun c hc => (hchar c hc).1)
        (fun c hc => (lengthValue_char hc).1) (fun hc => (hchar _ hc).2.1 rfl),
      strip_eq_self fun c hc => (hchar c hc).2.2.2, if_pos hname, strip_value]
    · rw [← (decimal_eq_some hdigits).1, int_decimal hdigits]
    · exact fun c hc => isSpace_of_isDigit (isDigit_of_mem_decimal hc)
    · exact Nat.toDigits_ne_nil
  rw [readHeaders_line (fun c hc => (lengthLine_char hname hc).1)
    (fun hc => (lengthLine_char hname hc).2 rfl) (by simp [lengthLine]), hheader]

lemma readHeaders_blank (rest : Bytes) :
    readHeaders P contentLength (13 :: newline :: rest) = (.ok contentLength, rest) := by
  have hline : readline newline (13 :: newline :: rest) = ([13, newline], rest) :=
    readline_line newline (show newline ∉ ([13] : Bytes) by decide) rest
  rw [readHeaders, hline]
  rfl

/-! ### One message -/

lemma readExactly_append (payload rest : Bytes) :
    readExactly payload.length (payload ++ rest) = (.ok payload, rest) := by
  rw [readExactly, if_neg (by omega), if_neg (by simp)]
  simp

lemma readUpTo_append (payload rest : Bytes) :
    readUpTo payload.length (payload ++ rest) = (.ok payload, rest) := by
  have hn : ¬ (payload.length : ℤ) < 0 := by omega
  simp [readUpTo, hn]

lemma encode_eq_ok {message : Message} {frame : Bytes} (h : encode J N message = .ok frame) :
    ∃ payload digits, encodePayload J N message = .ok payload ∧
      decimal payload.length = some digits ∧
      frame = encodeAscii (lengthLine "Content-Length".toList payload.length)
        ++ newline :: 13 :: newline :: payload := by
  unfold encode at h
  cases hp : encodePayload J N message with
  | error e =>
    rw [hp] at h
    cases h
  | ok payload =>
    cases hd : decimal payload.length with
    | none =>
      simp only [hp, hd, bind, Except.bind] at h
      cases h
    | some digits =>
      simp only [hp, hd, bind, Except.bind] at h
      refine ⟨payload, digits, rfl, hd, (Except.ok.inj h).symm.trans ?_⟩
      have htext : "Content-Length: ".toList ++ digits ++ "\r\n\r\n".toList
          = lengthLine "Content-Length".toList payload.length ++ ['\n', '\r', '\n'] := by
        simp [lengthLine, (decimal_eq_some hd).1]
      rw [htext, encodeAscii_append, List.append_assoc]
      rfl

lemma vary_eq (v : Variation) (n : ℕ) (payload : Bytes) :
    v.vary (encodeAscii (lengthLine "Content-Length".toList n)
        ++ newline :: 13 :: newline :: payload)
      = v.before.flatMap HeaderLine.bytes ++ (encodeAscii (lengthLine v.name n)
        ++ newline :: (v.after.flatMap HeaderLine.bytes ++ 13 :: newline :: payload)) := by
  have hchar : ∀ c ∈ lengthLine "Content-Length".toList n, IsAscii c ∧ c ≠ '\n' :=
    fun c hc => lengthLine_char (by decide) hc
  have hline := readline_line newline (newline_notMem_encodeAscii (fun c hc => (hchar c hc).1)
    fun hc => (hchar _ hc).2 rfl) (13 :: newline :: payload)
  have hdrop : (encodeAscii (lengthLine "Content-Length".toList n) ++ [newline]).drop
      "Content-Length".toList.length
        = encodeAscii (':' :: (' ' :: (Nat.toDigits 10 n ++ ['\r']))) ++ [newline] := by
    rw [lengthLine, encodeAscii_append, List.append_assoc]
    exact List.drop_left' rfl
  rw [Variation.vary, hline]
  dsimp only
  rw [hdrop, lengthLine, encodeAscii_append v.name]
  simp only [List.append_assoc, List.singleton_append]
  rfl

lemma readWith_vary {readBody : ℤ → Bytes → Except Exc Bytes × Bytes}
    (hbody : ∀ payload rest : Bytes, readBody payload.length (payload ++ rest) = (.ok payload, rest))
    {message : Message} (hjson : (toJson J message).bind (fromJson J) = .ok message)
    (v : Variation) {frame : Bytes} (h : encode J N message = .ok frame) (rest : Bytes) :
    readWith P J readBody N (v.vary frame ++ rest) = (.ok message, rest) := by
  obtain ⟨payload, digits, hp, hdigits, rfl⟩ := encode_eq_ok h
  obtain ⟨text, htext, rfl, hle⟩ := encodePayload_eq_ok.mp hp
  rw [htext] at hjson
  rw [vary_eq]
  have hheaders : ∀ (payload : Bytes) (digits : List Char), decimal payload.length = some digits →
      readHeaders P none (v.before.flatMap HeaderLine.bytes
        ++ (encodeAscii (lengthLine v.name payload.length)
          ++ newline :: (v.after.flatMap HeaderLine.bytes ++ 13 :: newline :: payload)) ++ rest)
        = (.ok (some (payload.length : ℤ)), payload ++ rest) := by
    intro payload digits hdigits
    simp only [List.append_assoc, List.cons_append]
    rw [readHeaders_others, readHeaders_lengthLine v.recased hdigits, readHeaders_others,
      readHeaders_blank]
  rw [readWith, hheaders _ digits hdigits]
  dsimp only
  rw [if_neg (by omega), hbody]
  dsimp only
  rw [decodePayload_encodeUtf8 hjson]

/-! ### A stream of messages -/

lemma readTimes_readWith {readBody : ℤ → Bytes → Except Exc Bytes × Bytes}
    (hbody : ∀ payload rest : Bytes, readBody payload.length (payload ++ rest) = (.ok payload, rest))
    {sent : List (Message × Variation)} {frames : List Bytes}
    (hjson : ∀ x ∈ sent, (toJson J x.1).bind (fromJson J) = .ok x.1)
    (hencode : List.Forall₂ (fun x frame => encode J N x.1 = .ok frame) sent frames) :
    readTimes (readWith P J readBody N) sent.length
        (List.zipWith (fun x frame => x.2.vary frame) sent frames).flatten
      = (.ok (sent.map Prod.fst), []) := by
  induction hencode with
  | nil => rfl
  | @cons x frame sent frames he _ ih =>
    rw [List.length_cons, List.zipWith_cons_cons, List.flatten_cons, readTimes,
      readWith_vary hbody (hjson x (by simp)) x.2 he]
    dsimp only
    rw [ih fun y hy => hjson y (List.mem_cons_of_mem _ hy)]
    rfl

/-- **Framed messages are read back**, whatever other headers they are sent with and however their
own is written, and nothing is left to be read. -/
theorem read_stream (P : Platform) {sent : List (Message × Variation)} {frames : List Bytes}
    (hjson : ∀ x ∈ sent, (toJson J x.1).bind (fromJson J) = .ok x.1)
    (hencode : sent.mapM (fun x => encode J N x.1) = .ok frames) :
    readTimes (read P J N) sent.length
        (List.zipWith (fun x frame => x.2.vary frame) sent frames).flatten
      = (.ok (sent.map Prod.fst), []) ∧
    readTimes (readSync P J N) sent.length
        (List.zipWith (fun x frame => x.2.vary frame) sent frames).flatten
      = (.ok (sent.map Prod.fst), []) :=
  ⟨readTimes_readWith readExactly_append hjson (mapM_eq_ok.mp hencode),
    readTimes_readWith readUpTo_append hjson (mapM_eq_ok.mp hencode)⟩

/-! Two empty objects, the first with a type before its length, the second plain. -/

def contentType : HeaderLine where
  text := "Content-Type: application/json\r".toList
  ascii := List.all_iff_forall_prop.mp (by decide)
  unbroken := by decide
  colon := by decide
  other := by decide

def typed : Variation where
  before := [contentType]
  after := []
  name := "CONTENT-length".toList
  recased := by decide

def plain : Variation where
  before := []
  after := []
  name := "Content-Length".toList
  recased := by decide

theorem read_stream_typed :
    ∃ frames, [(([] : Obj), typed), ([], plain)].mapM (fun x => encode emptyJson 2 x.1)
        = .ok frames ∧
      readTimes (read .strict emptyJson 2) 2 (List.zipWith (fun x frame => x.2.vary frame)
        [(([] : Obj), typed), ([], plain)] frames).flatten = (.ok [[], []], []) ∧
      readTimes (readSync .strict emptyJson 2) 2 (List.zipWith (fun x frame => x.2.vary frame)
        [(([] : Obj), typed), ([], plain)] frames).flatten = (.ok [[], []], []) := by
  have hjson : ∀ x ∈ [(([] : Obj), typed), ([], plain)],
      (toJson emptyJson x.1).bind (fromJson emptyJson) = .ok x.1 := by
    intro x hx
    simp only [List.mem_cons, List.not_mem_nil, or_false] at hx
    rcases hx with rfl | rfl <;> rfl
  exact ⟨_, rfl, read_stream .strict hjson rfl⟩

end NaiaRelay.Transports
