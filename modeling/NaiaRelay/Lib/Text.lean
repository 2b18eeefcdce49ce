import Mathlib.Data.List.DropRight
import Mathlib.Data.UInt
import Mathlib.Tactic.Common

set_option autoImplicit false

/-!
Texts as Python has them: their bytes in ASCII and UTF-8, the white space around them, and the
integers written in them. A text is a list of characters.
-/

namespace Text

/-! ### Bytes -/

/-- `s.encode("utf-8")`. -/
def encodeUtf8 (s : String) : List UInt8 := s.toList.flatMap String.utf8EncodeChar

/-- `b.decode("utf-8")`, if that succeeds. -/
def decodeUtf8 (b : List UInt8) : Option String := String.fromUTF8? b.toByteArray

@[simp] lemma decodeUtf8_encodeUtf8 (s : String) : decodeUtf8 (encodeUtf8 s) = some s := by
  obtain ⟨l, rfl⟩ := s.exists_eq_ofList
  have hbytes : (encodeUtf8 (String.ofList l)).toByteArray = (String.ofList l).toByteArray := by
    rw [encodeUtf8, String.toByteArray_ofList, String.toList_ofList]
    rfl
  rw [decodeUtf8, hbytes, String.fromUTF8?, dif_pos (String.ofList l).isValidUTF8]
  rfl

lemma encodeUtf8_of_decodeUtf8 {b : List UInt8} {s : String} (h : decodeUtf8 b = some s) :
    encodeUtf8 s = b := by
  obtain ⟨l, rfl⟩ := s.exists_eq_ofList
  rw [decodeUtf8, String.fromUTF8?] at h
  split_ifs at h with hvalid
  have hbytes : b.toByteArray = (String.ofList l).toByteArray :=
    congrArg String.toByteArray (Option.some.inj h)
  have hencode : (encodeUtf8 (String.ofList l)).toByteArray = b.toByteArray := by
    rw [hbytes, encodeUtf8, String.toByteArray_ofList, String.toList_ofList]
    rfl
  have hdata := congrArg ByteArray.data hencode
  rw [List.data_toByteArray, List.data_toByteArray] at hdata
  exact List.toArray_inj hdata

lemma length_decodeUtf8 {b : List UInt8} {s : String} (h : decodeUtf8 b = some s) :
    s.length ≤ b.length := by
  have hle : ∀ l : List Char, l.length ≤ (l.flatMap String.utf8EncodeChar).length := by
    intro l
    induction l with
    | nil => exact Nat.zero_le _
    | cons c l ih =>
      have hc : 0 < (String.utf8EncodeChar c).length := by
        rw [String.length_utf8EncodeChar]
        exact c.utf8Size_pos
      rw [List.flatMap_cons, List.length_append, List.length_cons]
      omega
  rw [← encodeUtf8_of_decodeUtf8 h, ← String.length_toList]
  exact hle s.toList

def IsAscii (c : Char) : Prop := c.toNat < 128

instance (c : Char) : Decidable (IsAscii c) := inferInstanceAs (Decidable (c.toNat < 128))

/-- `s.encode("ascii")` of a text that is ASCII. -/
def encodeAscii (s : List Char) : List UInt8 := s.map fun c => UInt8.ofNat c.toNat

/-- `b.decode("ascii")`, if that succeeds. -/
def decodeAscii (b : List UInt8) : Option (List Char) :=
  if b.all fun x => x.toNat < 128 then some (b.map fun x => Char.ofNat x.toNat) else none

lemma encodeAscii_append (s t : List Char) :
    encodeAscii (s ++ t) = encodeAscii s ++ encodeAscii t := List.map_append

lemma toNat_ofNat_ascii {c : Char} (h : IsAscii c) : (UInt8.ofNat c.toNat).toNat = c.toNat := by
  have : c.toNat < 128 := h
  simp
  omega

@[simp] lemma decodeAscii_encodeAscii {s : List Char} (h : ∀ c ∈ s, IsAscii c) :
    decodeAscii (encodeAscii s) = some s := by
  have hbytes : (encodeAscii s).all (fun x => x.toNat < 128) = true := by
    rw [List.all_eq_true]
    intro x hx
    obtain ⟨c, hc, rfl⟩ := List.mem_map.mp hx
    rw [toNat_ofNat_ascii (h c hc), decide_eq_true_eq]
    exact h c hc
  rw [decodeAscii, if_pos hbytes, encodeAscii, List.map_map]
  congr 1
  conv_rhs => rw [← List.map_id s]
  refine List.map_congr_left fun c hc => ?_
  simp only [Function.comp_apply, toNat_ofNat_ascii (h c hc)]
  exact Char.ofNat_toNat c

lemma encodeUtf8_of_ascii {s : String} (h : ∀ c ∈ s.toList, IsAscii c) :
    encodeUtf8 s = encodeAscii s.toList := by
  rw [encodeUtf8, encodeAscii, List.map_eq_flatMap]
  refine List.flatMap_congr fun c hc => ?_
  have hlt : c.toNat < 128 := h c hc
  have hsize : c.utf8Size = 1 := Char.utf8Size_eq_one_iff.mpr (by
    show c.val.toNat ≤ 127
    exact Nat.le_of_lt_succ hlt)
  rw [String.utf8EncodeChar_eq_singleton hsize]
  rfl

/-! ### White space -/

/-- `c.isspace()`, for an ASCII character. -/
def isSpace (c : Char) : Bool :=
  (9 ≤ c.toNat && c.toNat ≤ 13) || (28 ≤ c.toNat && c.toNat ≤ 32)

/-- `s.strip()`. -/
def strip (s : List Char) : List Char := (s.dropWhile isSpace).rdropWhile isSpace

/-- `s.lower()`, of an ASCII text. -/
def lower (s : List Char) : List Char := s.map Char.toLower

/-- `s.split(sep, 1)`, of a text that has the separator. -/
def cut (sep : Char) (s : List Char) : List Char × List Char :=
  (s.takeWhile (· ≠ sep), (s.dropWhile (· ≠ sep)).tail)

lemma strip_eq_self {s : List Char} (h : ∀ c ∈ s, isSpace c = false) : strip s = s := by
  have hleft : s.dropWhile isSpace = s := by
    cases s with
    | nil => rfl
    | cons c s => rw [List.dropWhile_cons, if_neg (by simp [h c (by simp)])]
  rw [strip, hleft, List.rdropWhile_eq_self_iff]
  intro hne
  simp [h _ (List.getLast_mem hne)]

@[simp] lemma strip_dropWhile (s : List Char) : strip (s.dropWhile isSpace) = strip s := by
  rw [strip, List.dropWhile_idempotent, strip]

lemma dropWhile_append_of_not {p : Char → Bool} {sep : Char} (h : p sep = false)
    (a b : List Char) : (a ++ sep :: b).dropWhile p = a.dropWhile p ++ sep :: b := by
  rw [List.dropWhile_append]
  split
  · rename_i ha
    rw [List.isEmpty_iff.mp ha, List.dropWhile_cons, if_neg (by simp [h]), List.nil_append]
  · rfl

lemma rdropWhile_append_of_not {p : Char → Bool} {sep : Char} (h : p sep = false)
    (a b : List Char) : (a ++ sep :: b).rdropWhile p = a ++ sep :: b.rdropWhile p := by
  have hrev : (a ++ sep :: b).reverse = b.reverse ++ sep :: a.reverse := by simp
  rw [List.rdropWhile, hrev, dropWhile_append_of_not h, List.rdropWhile]
  simp

lemma strip_append {sep : Char} (h : isSpace sep = false) (a b : List Char) :
    strip (a ++ sep :: b) = a.dropWhile isSpace ++ sep :: b.rdropWhile isSpace := by
  rw [strip, dropWhile_append_of_not h, rdropWhile_append_of_not h]

lemma cut_append {sep : Char} {a : List Char} (h : sep ∉ a) (b : List Char) :
    cut sep (a ++ sep :: b) = (a, b) := by
  have hall : ∀ c ∈ a, (decide (c ≠ sep)) = true := fun c hc => by
    rw [decide_eq_true_iff]
    rintro rfl
    exact h hc
  rw [cut, List.takeWhile_append_of_pos hall, List.dropWhile_append_of_pos hall]
  simp

/-! ### Integers -/

/-- How many digits an integer has at most where it is read or printed. -/
def maxStrDigits : ℕ := 4300

/-- `str(n)`, if that succeeds. -/
def decimal (n : ℕ) : Option (List Char) :=
  if (Nat.toDigits 10 n).length ≤ maxStrDigits then some (Nat.toDigits 10 n) else none

/-- The digits of an integer, in groups between underscores. -/
def natural (s : List Char) : Option ℕ :=
  let groups := s.splitOn '_'
  if (groups.all fun group => !group.isEmpty && group.all Char.isDigit) &&
      decide (groups.flatten.length ≤ maxStrDigits) then
    some (Nat.ofDigitChars 10 groups.flatten 0)
  else none

/-- `int(s)`, of an ASCII text. -/
def int (s : List Char) : Option ℤ :=
  match strip s with
  | '-' :: s => (natural s).map fun n => -(n : ℤ)
  | '+' :: s => (natural s).map fun n => (n : ℤ)
  | s => (natural s).map fun n => (n : ℤ)

lemma toNat_of_isDigit {c : Char} (h : c.isDigit = true) : 48 ≤ c.toNat ∧ c.toNat ≤ 57 := by
  simp only [Char.isDigit, Bool.and_eq_true, decide_eq_true_eq, ge_iff_le] at h
  exact ⟨UInt32.le_iff_toNat_le.mp h.1, UInt32.le_iff_toNat_le.mp h.2⟩

lemma isSpace_of_isDigit {c : Char} (h : c.isDigit = true) : isSpace c = false := by
  obtain ⟨hlow, hhigh⟩ := toNat_of_isDigit h
  simp only [isSpace, Bool.or_eq_false_iff, Bool.and_eq_false_iff, decide_eq_false_iff_not]
  omega

lemma isDigit_of_mem_decimal {n : ℕ} {c : Char} (h : c ∈ Nat.toDigits 10 n) : c.isDigit = true :=
  Nat.isDigit_of_mem_toDigits (by decide) (by decide) h

lemma decimal_eq_some {n : ℕ} {digits : List Char} (h : decimal n = some digits) :
    digits = Nat.toDigits 10 n ∧ digits.length ≤ maxStrDigits := by
  unfold decimal at h
  split at h
  · rename_i hle
    obtain rfl := Option.some.inj h
    exact ⟨rfl, hle⟩
  · cases h

lemma natural_toDigits {n : ℕ} (h : (Nat.toDigits 10 n).length ≤ maxStrDigits) :
    natural (Nat.toDigits 10 n) = some n := by
  have hne : Nat.toDigits 10 n ≠ [] := Nat.toDigits_ne_nil
  have hgroup : (Nat.toDigits 10 n).all Char.isDigit = true :=
    List.all_eq_true.mpr fun c hc => isDigit_of_mem_decimal hc
  rw [natural, List.splitOn_eq_singleton Nat.underscore_not_in_toDigits]
  simp [hne, hgroup, h]

/-- **What is printed is read back.** -/
theorem int_decimal {n : ℕ} {digits : List Char} (h : decimal n = some digits) :
    int digits = some (n : ℤ) := by
  obtain ⟨rfl, hle⟩ := decimal_eq_some h
  have hdigit : ∀ c ∈ Nat.toDigits 10 n, c.isDigit = true := fun c hc => isDigit_of_mem_decimal hc
  rw [int, strip_eq_self fun c hc => isSpace_of_isDigit (hdigit c hc)]
  split
  · rename_i s hs
    exact absurd (hdigit '-' (by rw [hs]; simp)) (by decide)
  · rename_i s hs
    exact absurd (hdigit '+' (by rw [hs]; simp)) (by decide)
  · rw [natural_toDigits hle]
    rfl

end Text
