import NaiaRelay.ContentLength

set_option autoImplicit false

/-!
The blocking reader and the asynchronous one. They share the loop over the headers, and read the
body of a message alike but for a negative length, which only the blocking reader is prepared for.
-/

namespace NaiaRelay.Transports

open LineStream Text ContentLengthJsonFramer

variable (P : Platform) {Value Message : Type} (J : JsonModule Value Message)

/-- The two readers come to the same: the same message, with the same bytes consumed, or a
`TransportError` from both. -/
def ReadersAgree (N : ℤ) (stream : Bytes) : Prop :=
  (∃ message rest, read P J N stream = (.ok message, rest) ∧
      readSync P J N stream = (.ok message, rest)) ∨
    ((∃ text, (read P J N stream).1 = .error (.transportError text)) ∧
      ∃ text, (readSync P J N stream).1 = .error (.transportError text))

/-! ### Header blocks -/

/-- A line of ASCII with this name in front of its first colon and this value behind it. -/
structure HasField (line : Bytes) (name value : List Char) : Prop where
  ended : ∃ text, newline ∉ text ∧ line = text ++ [newline]
  field : ∃ text, decodeAscii line = some text ∧ ':' ∈ strip text ∧
    cut ':' (strip text) = (name, value)

/-- The name of a field that gives the length of a message. -/
def IsLengthName (name : List Char) : Prop := lower (strip name) = "content-length".toList

instance (name : List Char) : Decidable (IsLengthName name) :=
  inferInstanceAs (Decidable (lower (strip name) = "content-length".toList))

/-- The line gives this length. -/
def GivesLength (line : Bytes) (n : ℤ) : Prop :=
  ∃ name value, HasField line name value ∧ IsLengthName name ∧ int (strip value) = some n

/-- The line is another header. -/
def GivesOther (line : Bytes) : Prop := ∃ name value, HasField line name value ∧ ¬ IsLengthName name

def IsHeader (line : Bytes) : Prop := GivesOther line ∨ ∃ n, GivesLength line n

def IsBlank (line : Bytes) : Prop := line = [13, newline] ∨ line = [newline]

/-- The stream starts with a block of headers in which the last length is this one, up to the
blank line. -/
def HasLength (stream : Bytes) (n : ℤ) : Prop :=
  ∃ (before after : List Bytes) (line blank rest : Bytes),
    stream = (before ++ line :: after).flatten ++ (blank ++ rest) ∧ (∀ l ∈ before, IsHeader l) ∧
      GivesLength line n ∧ (∀ l ∈ after, GivesOther l) ∧ IsBlank blank

variable {P J} {N : ℤ} {stream rest : Bytes} {contentLength result : Option ℤ}

lemma HasField.split {line : Bytes} {name value : List Char} (h : HasField line name value) :
    ∃ text, newline ∉ text ∧ ¬ (text = [13] ∨ text = []) ∧ line = text ++ [newline] := by
  obtain ⟨⟨bytes, hbreak, rfl⟩, text, htext, hcolon, -⟩ := h
  refine ⟨bytes, hbreak, ?_, rfl⟩
  have hblank : ∀ line : Bytes, IsBlank line → decodeAscii line = some text → False := by
    rintro _ (rfl | rfl) hline
    all_goals
      rw [decodeAscii, if_pos (by simp [newline])] at hline
      rw [← Option.some.inj hline] at hcolon
      exact absurd hcolon (by decide)
  rintro (rfl | rfl)
  · exact hblank _ (Or.inl rfl) htext
  · exact hblank _ (Or.inr rfl) htext

lemma readHeader_of_field {line : Bytes} {name value : List Char} (h : HasField line name value) :
    readHeader P contentLength line =
      if IsLengthName name then
        match int (strip value) with
        | none => .error (.transportError "Received invalid Content-Length header.")
        | some n => .ok (some n)
      else .ok contentLength := by
  obtain ⟨-, text, htext, hcolon, hcut⟩ := h
  rw [readHeader, htext]
  dsimp only
  rw [if_neg (not_not_intro hcolon), hcut]
  rfl

lemma readHeader_eq_ok {line : Bytes} (hended : ∃ text, newline ∉ text ∧ line = text ++ [newline])
    (h : readHeader P contentLength line = .ok result) :
    (GivesOther line ∧ result = contentLength) ∨ ∃ n, GivesLength line n ∧ result = some n := by
  unfold readHeader at h
  split at h
  · cases h
  · rename_i text htext
    dsimp only at h
    split at h
    · cases h
    · rename_i hcolon
      have hfield : HasField line (cut ':' (strip text)).1 (cut ':' (strip text)).2 :=
        ⟨hended, text, htext, not_not.mp hcolon, rfl⟩
      split at h
      · rename_i hname
        cases hint : int (strip (cut ':' (strip text)).2) with
        | none =>
          rw [hint] at h
          cases h
        | some n =>
          rw [hint] at h
          exact Or.inr ⟨n, ⟨_, _, hfield, hname, hint⟩, (Except.ok.inj h).symm⟩
      · rename_i hname
        exact Or.inl ⟨⟨_, _, hfield, hname⟩, (Except.ok.inj h).symm⟩

lemma readHeader_eq_error {line : Bytes} {e : Exc}
    (h : readHeader P contentLength line = .error e) : ∃ text, e = .transportError text := by
  unfold readHeader at h
  split at h
  · exact ⟨_, (Except.error.inj h).symm⟩
  · dsimp only at h
    split at h
    · exact ⟨_, (Except.error.inj h).symm⟩
    · split at h
      · split at h
        · exact ⟨_, (Except.error.inj h).symm⟩
        · cases h
      · cases h

lemma readHeaders_of_other {line : Bytes} (h : GivesOther line) (rest : Bytes) :
    readHeaders P contentLength (line ++ rest) = readHeaders P contentLength rest := by
  obtain ⟨name, value, hfield, hname⟩ := h
  obtain ⟨text, hbreak, hblank, rfl⟩ := hfield.split
  rw [List.append_assoc, List.singleton_append, readHeaders_cons hbreak hblank,
    readHeader_of_field hfield, if_neg hname]

lemma readHeaders_of_length {line : Bytes} {n : ℤ} (h : GivesLength line n) (rest : Bytes) :
    readHeaders P contentLength (line ++ rest) = readHeaders P (some n) rest := by
  obtain ⟨name, value, hfield, hname, hint⟩ := h
  obtain ⟨text, hbreak, hblank, rfl⟩ := hfield.split
  rw [List.append_assoc, List.singleton_append, readHeaders_cons hbreak hblank,
    readHeader_of_field hfield, if_pos hname, hint]

lemma readHeaders_of_headers {lines : List Bytes} (h : ∀ l ∈ lines, IsHeader l)
    (contentLength : Option ℤ) :
    ∃ result, ∀ rest, readHeaders P contentLength (lines.flatten ++ rest)
      = readHeaders P result rest := by
  induction lines generalizing contentLength with
  | nil => exact ⟨contentLength, fun _ => rfl⟩
  | cons line lines ih =>
    obtain ⟨hline, hlines⟩ := List.forall_mem_cons.mp h
    rcases hline with hother | ⟨n, hlength⟩
    · obtain ⟨result, hresult⟩ := ih hlines contentLength
      refine ⟨result, fun rest => ?_⟩
      rw [List.flatten_cons, List.append_assoc, readHeaders_of_other hother, hresult]
    · obtain ⟨result, hresult⟩ := ih hlines (some n)
      refine ⟨result, fun rest => ?_⟩
      rw [List.flatten_cons, List.append_assoc, readHeaders_of_length hlength, hresult]

lemma readHeaders_of_others {lines : List Bytes} (h : ∀ l ∈ lines, GivesOther l) (rest : Bytes) :
    readHeaders P contentLength (lines.flatten ++ rest) = readHeaders P contentLength rest := by
  induction lines with
  | nil => rfl
  | cons line lines ih =>
    obtain ⟨hline, hlines⟩ := List.forall_mem_cons.mp h
    rw [List.flatten_cons, List.append_assoc, readHeaders_of_other hline, ih hlines]

lemma readHeaders_of_blank {blank : Bytes} (h : IsBlank blank) (rest : Bytes) :
    readHeaders P contentLength (blank ++ rest) = (.ok contentLength, rest) := by
  rcases h with rfl | rfl
  · exact readHeaders_blank rest
  · have hline : readline newline ([] ++ newline :: rest) = ([] ++ [newline], rest) :=
      readline_line newline (by simp) rest
    rw [List.nil_append, List.nil_append] at hline
    rw [List.singleton_append, readHeaders, hline]
    rfl

lemma readHeaders_of_hasLength {n : ℤ} (h : HasLength stream n) :
    ∃ rest, readHeaders P none stream = (.ok (some n), rest) := by
  obtain ⟨before, after, line, blank, rest, rfl, hbefore, hline, hafter, hblank⟩ := h
  obtain ⟨result, hresult⟩ := readHeaders_of_headers (P := P) hbefore none
  refine ⟨rest, ?_⟩
  rw [List.flatten_append, List.flatten_cons, List.append_assoc, hresult, List.append_assoc,
    readHeaders_of_length hline, readHeaders_of_others hafter, readHeaders_of_blank hblank]

lemma readHeaders_nil :
    readHeaders P contentLength [] = (.error (.transportError "stdio transport reached EOF"), []) := by
  rw [readHeaders]
  rfl

lemma hasLength_of_readHeaders {n : ℤ} (h : readHeaders P contentLength stream = (.ok (some n), rest)) :
    HasLength stream n ∨ (contentLength = some n ∧ ∃ (lines : List Bytes) (blank rest : Bytes),
      stream = lines.flatten ++ (blank ++ rest) ∧ (∀ l ∈ lines, GivesOther l) ∧ IsBlank blank) := by
  fun_induction readHeaders P contentLength stream with
  | case1 => cases h
  | case2 contentLength stream line rest hne hblank =>
    have hstream : line ++ rest = stream := readline_append_snd newline stream
    exact Or.inr ⟨Except.ok.inj (Prod.mk.inj h).1, [], line, rest, hstream.symm, by simp, hblank⟩
  | case3 => cases h
  | case4 contentLength stream line rest' hne hblank contentLength' hheader ih =>
    have hstream : line ++ rest' = stream := readline_append_snd newline stream
    -- the line is ended, for the blank line comes after it
    have hended : ∃ text, newline ∉ text ∧ line = text ++ [newline] := by
      rcases readline_cases newline stream with hended | hnil
      · exact hended
      · rw [show rest' = [] from hnil, readHeaders_nil] at h
        cases h
    rcases readHeader_eq_ok hended hheader with ⟨hother, rfl⟩ | ⟨m, hlength, rfl⟩
    · rcases ih h with ⟨before, after, line', blank, rest, hrest, hbefore, hline', hafter, hend⟩ |
        ⟨hsome, lines, blank, rest, hrest, hlines, hend⟩
      · refine Or.inl ⟨line :: before, after, line', blank, rest, ?_,
          List.forall_mem_cons.mpr ⟨Or.inl hother, hbefore⟩, hline', hafter, hend⟩
        rw [← hstream, hrest, List.cons_append, List.flatten_cons, List.append_assoc]
      · refine Or.inr ⟨hsome, line :: lines, blank, rest, ?_,
          List.forall_mem_cons.mpr ⟨hother, hlines⟩, hend⟩
        rw [← hstream, hrest, List.flatten_cons, List.append_assoc]
    · rcases ih h with ⟨before, after, line', blank, rest, hrest, hbefore, hline', hafter, hend⟩ |
        ⟨hsome, lines, blank, rest, hrest, hlines, hend⟩
      · refine Or.inl ⟨line :: before, after, line', blank, rest, ?_,
          List.forall_mem_cons.mpr ⟨Or.inr ⟨m, hlength⟩, hbefore⟩, hline', hafter, hend⟩
        rw [← hstream, hrest, List.cons_append, List.flatten_cons, List.append_assoc]
      · obtain rfl := Option.some.inj hsome
        refine Or.inl ⟨[], lines, line, blank, rest, ?_, by simp, hlength, hlines, hend⟩
        rw [← hstream, hrest, List.nil_append, List.flatten_cons, List.append_assoc]

/-- **The header loop finds a length** exactly where the stream starts with a block that has it. -/
lemma hasLength_iff {n : ℤ} :
    HasLength stream n ↔ ∃ rest, readHeaders P none stream = (.ok (some n), rest) := by
  refine ⟨readHeaders_of_hasLength, fun ⟨rest, h⟩ => ?_⟩
  rcases hasLength_of_readHeaders h with hlength | ⟨hnone, -⟩
  · exact hlength
  · cases hnone

lemma readHeaders_eq_error {e : Exc} (h : readHeaders P contentLength stream = (.error e, rest)) :
    ∃ text, e = .transportError text := by
  fun_induction readHeaders P contentLength stream with
  | case1 => exact ⟨_, (Except.error.inj (Prod.mk.inj h).1).symm⟩
  | case2 => cases h
  | case3 contentLength stream line rest hne hblank e' hheader =>
    obtain rfl := Except.error.inj (Prod.mk.inj h).1
    exact readHeader_eq_error hheader
  | case4 contentLength stream line rest' hne hblank contentLength' hheader ih => exact ih h

/-! ### Bodies -/

lemma readExactly_eq_readUpTo {n : ℤ} (h : 0 ≤ n) (stream : Bytes) :
    readExactly n stream = readUpTo n stream := by
  obtain ⟨n, rfl⟩ := Int.eq_ofNat_of_zero_le h
  have hneg : ¬ (n : ℤ) < 0 := by omega
  simp only [readExactly, readUpTo, hneg, if_false, Int.toNat_natCast, List.length_take]
  by_cases hlen : (stream.length : ℤ) < n
  · have hdrop : stream.drop n = [] := List.drop_eq_nil_of_le (by omega)
    rw [if_pos hlen, if_pos (by omega), hdrop]
  · rw [if_neg hlen, if_neg (by omega)]

lemma readUpTo_eq_error {n : ℤ} {e : Exc} (h : (readUpTo n stream).1 = .error e) :
    ∃ text, e = .transportError text := by
  unfold readUpTo at h
  generalize (if n < 0 then (stream, []) else (stream.take n.toNat, stream.drop n.toNat)
    : Bytes × Bytes) = x at h
  dsimp only at h
  split at h
  · exact ⟨_, (Except.error.inj h).symm⟩
  · cases h

lemma decodePayload_eq_error {payload : Bytes} {e : Exc}
    (h : decodePayload P J payload = .error e) : ∃ text, e = .transportError text := by
  unfold decodePayload at h
  dsimp only at h
  split at h
  · cases h
  · exact ⟨_, (Except.error.inj h).symm⟩

/-! ### Both readers -/

lemma readSync_eq_error {e : Exc} (h : (readSync P J N stream).1 = .error e) :
    ∃ text, e = .transportError text := by
  unfold readSync readWith at h
  split at h
  · rename_i e' rest hheaders
    obtain rfl := Except.error.inj h
    exact readHeaders_eq_error hheaders
  · exact ⟨_, (Except.error.inj h).symm⟩
  · split at h
    · exact ⟨_, (Except.error.inj h).symm⟩
    · split at h
      · rename_i e' rest hbody
        obtain rfl := Except.error.inj h
        exact readUpTo_eq_error (congrArg Prod.fst hbody)
      · exact decodePayload_eq_error h

lemma read_eq_readSync (h : ¬ ∃ n, HasLength stream n ∧ n < 0 ∧ n ≤ N) :
    read P J N stream = readSync P J N stream := by
  unfold ContentLengthJsonFramer.read readSync readWith
  split
  · rfl
  · rfl
  · rename_i n rest hheaders
    split
    · rfl
    · rename_i hle
      have hn : 0 ≤ n := by
        by_contra hneg
        exact h ⟨n, hasLength_iff.mpr ⟨rest, hheaders⟩, by omega, by omega⟩
      rw [readExactly_eq_readUpTo hn]

lemma read_of_negative {n : ℤ} (h : HasLength stream n) (hneg : n < 0) (hle : n ≤ N) :
    (read P J N stream).1 = .error (.valueError "readexactly size can not be less than zero") := by
  obtain ⟨rest, hheaders⟩ := hasLength_iff (P := P).mp h
  rw [ContentLengthJsonFramer.read, readWith, hheaders]
  dsimp only
  rw [if_neg (by omega), readExactly, if_pos hneg]

lemma readSync_of_negative {n : ℤ} (h : HasLength stream n) (hneg : n < 0) (hle : n ≤ N) :
    (readSync P J N stream).1
      = .error (.transportError "Received truncated MCP message body.") := by
  obtain ⟨rest, hheaders⟩ := hasLength_iff (P := P).mp h
  rw [readSync, readWith, hheaders]
  dsimp only
  rw [if_neg (by omega), readUpTo, if_pos hneg]
  dsimp only
  rw [if_pos (by omega)]

/-- **When the two readers agree.** Exactly when the stream does not start with a block of headers
whose length is negative, and within the limit. -/
theorem readersAgree_iff (P : Platform) (J : JsonModule Value Message) (N : ℤ) (stream : Bytes) :
    ReadersAgree P J N stream ↔ ¬ ∃ n, HasLength stream n ∧ n < 0 ∧ n ≤ N := by
  constructor
  · rintro hagree ⟨n, hlength, hneg, hle⟩
    have hread := read_of_negative (P := P) (J := J) hlength hneg hle
    rcases hagree with ⟨message, rest, hok, -⟩ | ⟨⟨text, herror⟩, -⟩
    · rw [hok] at hread
      cases hread
    · exact nomatch herror.symm.trans hread
  · intro h
    have heq := read_eq_readSync (P := P) (J := J) h
    rw [ReadersAgree, heq]
    cases hsync : readSync P J N stream with
    | mk outcome rest =>
      cases outcome with
      | ok message => exact Or.inl ⟨message, rest, rfl, rfl⟩
      | error e =>
        obtain ⟨text, rfl⟩ := readSync_eq_error (congrArg Prod.fst hsync)
        exact Or.inr ⟨⟨text, rfl⟩, text, rfl⟩

/-! A stream that gives the length -1. -/

def negativeField : Bytes := encodeAscii "Content-Length: -1\r".toList ++ [newline]

def negativeLength : Bytes := negativeField ++ [13, newline]

lemma hasLength_negativeLength : HasLength negativeLength (-1) := by
  have htext : decodeAscii negativeField = some "Content-Length: -1\r\n".toList :=
    decodeAscii_encodeAscii (s := "Content-Length: -1\r\n".toList)
      (List.all_iff_forall_prop.mp (by decide))
  refine ⟨[], [], negativeField, [13, newline], [], rfl, by simp, ?_, by simp, Or.inl rfl⟩
  exact ⟨"Content-Length".toList, " -1".toList,
    ⟨⟨_, by decide, rfl⟩, _, htext, by decide, by decide⟩, by decide, by decide⟩

/-- The blocking reader raises a `TransportError`, the asynchronous one a `ValueError`. -/
theorem negativeLength_escapes :
    (readSync .strict emptyJson 1024 negativeLength).1
        = .error (.transportError "Received truncated MCP message body.") ∧
      (read .strict emptyJson 1024 negativeLength).1
        = .error (.valueError "readexactly size can not be less than zero") ∧
      ¬ ReadersAgree .strict emptyJson 1024 negativeLength := by
  have hread := read_of_negative (P := .strict) (J := emptyJson) (N := 1024)
    hasLength_negativeLength (by decide) (by decide)
  refine ⟨readSync_of_negative hasLength_negativeLength (by decide) (by decide), hread, ?_⟩
  rintro (⟨message, rest, hok, -⟩ | ⟨⟨text, herror⟩, -⟩)
  · rw [hok] at hread
    cases hread
  · exact nomatch herror.symm.trans hread

end NaiaRelay.Transports
