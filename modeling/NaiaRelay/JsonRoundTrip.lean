import Mathlib.Data.Nat.Digits.Defs
import NaiaRelay.JsonReader
import NaiaRelay.JsonText

set_option autoImplicit false

/-!
What `json.dumps` writes is what `json.loads` reads, but for the order of the keys; and whatever
`json.loads` reads can be written.
-/

namespace NaiaRelay.Json

open Text

/-! ### Numbers -/

/-- What stands here does not go on with a number. -/
def Stops (rest : List Char) : Prop :=
  ∀ c ∈ rest.head?, c.isDigit = false ∧ c ≠ '.' ∧ c ≠ 'e' ∧ c ≠ 'E'

def NoDigit (rest : List Char) : Prop := ∀ c ∈ rest.head?, c.isDigit = false

lemma Stops.noDigit {rest : List Char} (h : Stops rest) : NoDigit rest := fun c hc => (h c hc).1

lemma isDigits_takeWhile (l : List Char) : IsDigits (l.takeWhile Char.isDigit) :=
  fun _ hc => List.mem_takeWhile_imp hc

lemma takeWhile_digits {digits rest : List Char} (hd : IsDigits digits) (hr : NoDigit rest) :
    (digits ++ rest).takeWhile Char.isDigit = digits := by
  rw [List.takeWhile_append_of_pos hd]
  cases rest with
  | nil => simp
  | cons c rest => simp [hr c rfl]

lemma dropWhile_digits {digits rest : List Char} (hd : IsDigits digits) (hr : NoDigit rest) :
    (digits ++ rest).dropWhile Char.isDigit = rest := by
  rw [List.dropWhile_append_of_pos hd]
  cases rest with
  | nil => rfl
  | cons c rest => simp [hr c rfl]

lemma scanInteger_append {l rest : List Char} (h : IsInteger l) (hr : NoDigit rest) :
    scanInteger (l ++ rest) = some (l, rest) := by
  obtain ⟨sign, c, digits, hsign, hd, hzero, rfl⟩ := h
  obtain ⟨hc, hdigits⟩ := List.forall_mem_cons.mp hd
  have hminus : c ≠ '-' := by
    rintro rfl
    cases hc
  have hbody : ∀ sign : List Char, (if c = '0' then some (sign ++ [c], digits ++ rest)
      else if c.isDigit then some (sign ++ c :: (digits ++ rest).takeWhile Char.isDigit,
        (digits ++ rest).dropWhile Char.isDigit) else none)
      = some (sign ++ c :: digits, rest) := by
    intro sign
    by_cases h0 : c = '0'
    · rw [if_pos h0, hzero h0, List.nil_append]
    · rw [if_neg h0, if_pos hc, takeWhile_digits hdigits hr, dropWhile_digits hdigits hr]
  rcases hsign with rfl | rfl
  · simpa [scanInteger, hminus] using hbody []
  · simpa [scanInteger] using hbody ['-']

lemma scanInteger_eq_some {l integer rest : List Char} (h : scanInteger l = some (integer, rest)) :
    IsInteger integer ∧ l = integer ++ rest := by
  unfold scanInteger at h
  dsimp only at h
  have hsign : l = (if l.head? = some '-' then ['-'] else [])
      ++ l.drop (if l.head? = some '-' then ['-'] else []).length := by
    split_ifs with hminus
    · cases l with
      | nil => cases hminus
      | cons c l =>
        obtain rfl := Option.some.inj hminus
        rfl
    · rfl
  generalize hs : (if l.head? = some '-' then ['-'] else []) = sign at h hsign
  have hsign' : sign = [] ∨ sign = ['-'] := by
    rw [← hs]
    split_ifs
    · exact Or.inr rfl
    · exact Or.inl rfl
  split at h
  · cases h
  · rename_i c m hdrop
    rw [hdrop] at hsign
    split_ifs at h with h0 hdigit
    · obtain ⟨rfl, rfl⟩ := Prod.mk.inj (Option.some.inj h)
      refine ⟨⟨sign, c, [], hsign', ?_, fun _ => rfl, rfl⟩, by rw [hsign]; simp⟩
      rw [h0]
      exact List.forall_mem_singleton.mpr (by decide)
    · obtain ⟨rfl, rfl⟩ := Prod.mk.inj (Option.some.inj h)
      refine ⟨⟨sign, c, _, hsign', List.forall_mem_cons.mpr ⟨hdigit, isDigits_takeWhile m⟩,
        fun h => absurd h h0, rfl⟩, ?_⟩
      rw [hsign, List.append_assoc, List.cons_append, List.takeWhile_append_dropWhile]

lemma scanFraction_append {l rest : List Char} (h : IsFraction l) (hr : NoDigit rest)
    (hpoint : l = [] → rest.head? ≠ some '.') : scanFraction (l ++ rest) = (l, rest) := by
  rcases h with rfl | ⟨c, digits, hd, rfl⟩
  · rw [List.nil_append]
    unfold scanFraction
    split
    · rename_i p c l
      rw [if_neg]
      rintro ⟨rfl, -⟩
      exact hpoint rfl rfl
    · rfl
  · obtain ⟨hc, hdigits⟩ := List.forall_mem_cons.mp hd
    simp [scanFraction, hc, takeWhile_digits hdigits hr, dropWhile_digits hdigits hr]

lemma scanFraction_spec (l : List Char) :
    IsFraction (scanFraction l).1 ∧ (scanFraction l).1 ++ (scanFraction l).2 = l := by
  unfold scanFraction
  split
  · rename_i p c l
    split_ifs with h
    · obtain ⟨rfl, hc⟩ := h
      refine ⟨Or.inr ⟨c, _, List.forall_mem_cons.mpr ⟨hc, isDigits_takeWhile l⟩, rfl⟩, ?_⟩
      rw [List.cons_append, List.cons_append, List.takeWhile_append_dropWhile]
    · exact ⟨Or.inl rfl, rfl⟩
  · exact ⟨Or.inl rfl, rfl⟩

lemma scanExponent_append {l rest : List Char} (h : IsExponent l) (hr : Stops rest) :
    scanExponent (l ++ rest) = (l, rest) := by
  rcases h with rfl | ⟨e, sign, c, digits, he, hsign, hd, rfl⟩
  · cases rest with
    | nil => rfl
    | cons c rest =>
      obtain ⟨-, -, hlow, hhigh⟩ := hr c rfl
      simp [scanExponent, hlow, hhigh]
  · have hc : c.isDigit = true := hd c (by simp)
    have hminus : c ≠ '-' := by
      rintro rfl
      cases hc
    have hplus : c ≠ '+' := by
      rintro rfl
      cases hc
    have htake := takeWhile_digits hd hr.noDigit
    have hdrop := dropWhile_digits hd hr.noDigit
    rw [List.cons_append] at htake hdrop
    rcases hsign with rfl | rfl | rfl <;>
      simp only [scanExponent, List.cons_append, List.nil_append, List.head?_cons,
        Option.some.injEq, hminus, hplus, or_self, if_false, List.length_nil, List.drop_zero, htake,
        hdrop, he, true_and, ne_eq, reduceCtorEq, not_false_eq_true, if_true, true_or, or_true,
        List.take_succ_cons, List.take_zero, List.length_cons, List.drop_succ_cons]

lemma scanExponent_spec (l : List Char) :
    IsExponent (scanExponent l).1 ∧ (scanExponent l).1 ++ (scanExponent l).2 = l := by
  cases l with
  | nil => exact ⟨Or.inl rfl, rfl⟩
  | cons e l =>
    unfold scanExponent
    dsimp only
    have hsign : l = (if l.head? = some '-' ∨ l.head? = some '+' then l.take 1 else [])
        ++ l.drop (if l.head? = some '-' ∨ l.head? = some '+' then l.take 1 else []).length := by
      split_ifs
      · cases l <;> rfl
      · rfl
    have hsign' : (if l.head? = some '-' ∨ l.head? = some '+' then l.take 1 else []) = [] ∨
        (if l.head? = some '-' ∨ l.head? = some '+' then l.take 1 else []) = ['-'] ∨
        (if l.head? = some '-' ∨ l.head? = some '+' then l.take 1 else []) = ['+'] := by
      split_ifs with h
      · cases l with
        | nil => exact Or.inl rfl
        | cons c l =>
          rcases h with h | h <;> obtain rfl := Option.some.inj h
          · exact Or.inr (Or.inl rfl)
          · exact Or.inr (Or.inr rfl)
      · exact Or.inl rfl
    generalize (if l.head? = some '-' ∨ l.head? = some '+' then l.take 1 else []) = sign
      at hsign hsign'
    split_ifs with h
    · cases hdigits : (l.drop sign.length).takeWhile Char.isDigit with
      | nil => exact absurd hdigits h.2
      | cons c digits =>
        refine ⟨Or.inr ⟨e, sign, c, digits, h.1, hsign', ?_, rfl⟩, ?_⟩
        · rw [← hdigits]
          exact isDigits_takeWhile _
        · rw [← hdigits, List.cons_append, List.append_assoc, List.takeWhile_append_dropWhile,
            ← hsign]
    · exact ⟨Or.inl rfl, rfl⟩

lemma noDigit_fraction {fraction exponent rest : List Char} (hf : IsFraction fraction)
    (he : IsExponent exponent) (hr : Stops rest) : NoDigit (fraction ++ (exponent ++ rest)) := by
  intro c hc
  rcases hf with rfl | ⟨_, _, -, rfl⟩
  · rcases he with rfl | ⟨e, _, _, _, rfl | rfl, -, -, rfl⟩
    · exact (hr c hc).1
    · obtain rfl := Option.some.inj hc
      rfl
    · obtain rfl := Option.some.inj hc
      rfl
  · obtain rfl := Option.some.inj hc
    rfl

lemma scanDecimal_append {integer fraction exponent rest : List Char} (hi : IsInteger integer)
    (hf : IsFraction fraction) (he : IsExponent exponent) (hr : Stops rest) :
    scanDecimal (integer ++ (fraction ++ (exponent ++ rest)))
      = some (integer, fraction ++ exponent, rest) := by
  have hexponent : NoDigit (exponent ++ rest) := noDigit_fraction (Or.inl rfl) he hr
  have hpoint : fraction = [] → (exponent ++ rest).head? ≠ some '.' := by
    rintro - hhead
    rcases he with rfl | ⟨e, _, _, _, rfl | rfl, -, -, rfl⟩
    · exact (hr '.' hhead).2.1 rfl
    · cases hhead
    · cases hhead
  simp only [scanDecimal, scanInteger_append hi (noDigit_fraction hf he hr), Option.map_some,
    scanFraction_append hf hexponent hpoint, scanExponent_append he hr]

lemma scanDecimal_eq_some {l integer digits rest : List Char}
    (h : scanDecimal l = some (integer, digits, rest)) :
    ∃ fraction exponent, IsInteger integer ∧ IsFraction fraction ∧ IsExponent exponent ∧
      digits = fraction ++ exponent ∧ l = integer ++ (digits ++ rest) := by
  rw [scanDecimal, Option.map_eq_some_iff] at h
  obtain ⟨⟨i, l'⟩, hinteger, h⟩ := h
  simp only [Prod.mk.injEq] at h
  obtain ⟨rfl, rfl, rfl⟩ := h
  obtain ⟨hi, rfl⟩ := scanInteger_eq_some hinteger
  obtain ⟨hf, hfrest⟩ := scanFraction_spec l'
  obtain ⟨he, herest⟩ := scanExponent_spec (scanFraction l').2
  refine ⟨_, _, hi, hf, he, rfl, ?_⟩
  rw [List.append_assoc, herest, hfrest]

lemma toDigits_eq_cons (n : ℕ) :
    ∃ c digits, Nat.toDigits 10 n = c :: digits ∧ (c = '0' → n = 0) := by
  induction n using Nat.strong_induction_on with
  | _ n ih =>
    by_cases hn : n < 10
    · refine ⟨_, _, Nat.toDigits_of_lt_base hn, fun h => ?_⟩
      interval_cases n <;> first | rfl | cases h
    · obtain ⟨c, digits, hdigits, hzero⟩ := ih (n / 10) (by omega)
      rw [Nat.toDigits_of_base_le (by omega) (by omega), hdigits]
      refine ⟨c, _, rfl, fun h => ?_⟩
      have := hzero h
      omega

lemma isDigits_toDigits (n : ℕ) : IsDigits (Nat.toDigits 10 n) := fun _ => isDigit_of_mem_decimal

lemma toList_toString (n : ℤ) :
    (toString n).toList = (if n < 0 then ['-'] else []) ++ Nat.toDigits 10 n.natAbs := by
  show n.repr.toList = _
  rw [Int.repr_eq_if]
  by_cases hn : n < 0
  · have habs : (-n).toNat = n.natAbs := by omega
    rw [if_neg (by omega), if_pos hn, String.toList_append, Nat.toList_repr, habs]
    rfl
  · have habs : n.toNat = n.natAbs := by omega
    rw [if_pos (by omega), if_neg hn, Nat.toList_repr, habs, List.nil_append]

lemma isInteger_toString (n : ℤ) : IsInteger (toString n).toList := by
  obtain ⟨c, digits, hdigits, hzero⟩ := toDigits_eq_cons n.natAbs
  have hd := isDigits_toDigits n.natAbs
  rw [toList_toString, hdigits]
  rw [hdigits] at hd
  refine ⟨_, c, digits, ?_, hd, fun h => ?_, rfl⟩
  · split_ifs
    · exact Or.inr rfl
    · exact Or.inl rfl
  · rw [hzero h] at hdigits
    exact (List.cons.inj hdigits).2.symm

lemma natural_digits {l : List Char} (hd : IsDigits l) (hne : l ≠ []) :
    natural l = if l.length ≤ maxStrDigits then some (Nat.ofDigitChars 10 l 0) else none := by
  have hunderscore : '_' ∉ l := fun h => absurd (hd _ h) (by decide)
  have hall : l.all Char.isDigit = true := List.all_eq_true.mpr hd
  rw [natural, List.splitOn_eq_singleton hunderscore]
  simp [hne, hall]

lemma int_digits {sign digits : List Char} (hsign : sign = [] ∨ sign = ['-'])
    (hd : IsDigits digits) (hne : digits ≠ []) :
    Text.int (sign ++ digits) = (natural digits).map fun n : ℕ => if sign = [] then (n : ℤ) else -n := by
  have hspace : ∀ c ∈ sign ++ digits, isSpace c = false := by
    intro c hc
    rcases List.mem_append.mp hc with hc | hc
    · rcases hsign with rfl | rfl
      · cases hc
      · rw [List.mem_singleton.mp hc]
        rfl
    · exact isSpace_of_isDigit (hd c hc)
  rw [Text.int, strip_eq_self hspace]
  rcases hsign with rfl | rfl
  · rw [List.nil_append]
    split
    · exact absurd (hd '-' (by simp)) (by decide)
    · exact absurd (hd '+' (by simp)) (by decide)
    · cases natural digits <;> rfl
  · rw [List.singleton_append]
    split
    · rename_i s hs
      obtain rfl := (List.cons.inj hs).2
      cases natural digits <;> rfl
    · rename_i s hs
      exact absurd (List.cons.inj hs).1 (by decide)
    · rename_i hminus _
      exact absurd rfl (hminus digits)

lemma int_toString {n : ℤ} (h : (Nat.toDigits 10 n.natAbs).length ≤ maxStrDigits) :
    Text.int (toString n).toList = some n := by
  by_cases hneg : n < 0
  · have habs : -(n.natAbs : ℤ) = n := by omega
    rw [toList_toString, if_pos hneg, int_digits (Or.inr rfl) (isDigits_toDigits _)
      Nat.toDigits_ne_nil, natural_toDigits h, Option.map_some, if_neg (by simp), habs]
  · have habs : (n.natAbs : ℤ) = n := by omega
    rw [toList_toString, if_neg hneg, int_digits (Or.inl rfl) (isDigits_toDigits _)
      Nat.toDigits_ne_nil, natural_toDigits h, Option.map_some, if_pos rfl, habs]

lemma ofDigitChars_lt {l : List Char} (hd : IsDigits l) : Nat.ofDigitChars 10 l 0 < 10 ^ l.length := by
  induction l with
  | nil => simp
  | cons c l ih =>
    obtain ⟨hc, hl⟩ := List.forall_mem_cons.mp hd
    obtain ⟨-, hhigh⟩ := toNat_of_isDigit hc
    have hzero : '0'.toNat = 48 := rfl
    rw [Nat.ofDigitChars_cons, Nat.ofDigitChars_eq_ofDigitChars_zero, List.length_cons, pow_succ]
    have hmul : 10 ^ l.length * (10 * 0 + (c.toNat - '0'.toNat)) ≤ 10 ^ l.length * 9 :=
      Nat.mul_le_mul_left _ (by omega)
    have := ih hl
    omega

lemma length_toDigits_of_int {l : List Char} {n : ℤ} (hl : IsInteger l) (h : Text.int l = some n) :
    (Nat.toDigits 10 n.natAbs).length ≤ maxStrDigits := by
  obtain ⟨sign, c, digits, hsign, hd, -, rfl⟩ := hl
  rw [int_digits hsign hd (by simp), natural_digits hd (by simp), Option.map_eq_some_iff] at h
  obtain ⟨m, hm, hn⟩ := h
  split_ifs at hm with hlength
  obtain rfl := Option.some.inj hm
  have habs : n.natAbs = Nat.ofDigitChars 10 (c :: digits) 0 := by split_ifs at hn <;> omega
  rw [habs]
  exact le_trans (Nat.toDigits_length 10 _ _ (by simp) (ofDigitChars_lt hd)) hlength

lemma dumpsInt_eq_ok_iff {n : ℤ} {text : String} : dumpsInt n = .ok text ↔
    (Nat.toDigits 10 n.natAbs).length ≤ maxStrDigits ∧ text = toString n := by
  unfold dumpsInt decimal
  split_ifs with h
  · exact ⟨fun heq => ⟨h, (Except.ok.inj heq).symm⟩, fun heq => congrArg _ heq.2.symm⟩
  · exact iff_of_false (by rintro ⟨⟩) fun heq => h heq.1

/-! ### Texts -/

lemma hexValue_hexDigit {n : ℕ} (h : n < 16) : hexValue (hexDigit n) = some n := by
  interval_cases n <;> rfl

lemma toList_hexDigits (n : ℕ) : (hexDigits 4 n).toList
    = [hexDigit (n / 16 / 16 / 16 % 16), hexDigit (n / 16 / 16 % 16), hexDigit (n / 16 % 16),
      hexDigit (n % 16)] := by
  simp [hexDigits]

lemma scanHex_hexDigits {n : ℕ} (h : n < 0x10000) {rest : List Char} (hr : rest ≠ []) :
    scanHex ((hexDigits 4 n).toList ++ rest) = some (n, rest) := by
  obtain ⟨e, l, rfl⟩ := List.exists_cons_of_ne_nil hr
  have hvalue : ((n / 16 / 16 / 16 % 16 * 16 + n / 16 / 16 % 16) * 16 + n / 16 % 16) * 16 + n % 16
      = n := by omega
  rw [toList_hexDigits]
  simp [scanHex, hexValue_hexDigit (Nat.mod_lt _ (by decide : 0 < 16)), hvalue]

lemma toNat_valid (c : Char) : c.toNat < 0xd800 ∨ 0xdfff < c.toNat ∧ c.toNat < 0x110000 := c.valid

lemma scanUnicode_one {n : ℕ} (h : n < 0xd800 ∨ 0xdfff < n ∧ n < 0x10000) {rest : List Char}
    (hr : rest ≠ []) : scanUnicode ((hexDigits 4 n).toList ++ rest) = .ok (Char.ofNat n, rest) := by
  rw [scanUnicode, scanHex_hexDigits (by omega) hr]
  dsimp only
  rw [if_neg (by omega), if_neg (by omega)]

lemma scanUnicode_two {high low : ℕ} (hhigh : 0xd800 ≤ high ∧ high ≤ 0xdbff)
    (hlow : 0xdc00 ≤ low ∧ low ≤ 0xdfff) {rest : List Char} (hr : rest ≠ []) :
    scanUnicode ((hexDigits 4 high).toList ++ '\\' :: 'u' :: ((hexDigits 4 low).toList ++ rest))
      = .ok (Char.ofNat (0x10000 + (high - 0xd800) * 0x400 + (low - 0xdc00)), rest) := by
  have hlength : 5 ≤ ((hexDigits 4 low).toList ++ rest).length := by
    have := List.length_pos_iff.mpr hr
    rw [toList_hexDigits, List.length_append]
    simp only [List.length_cons, List.length_nil]
    omega
  rw [scanUnicode, scanHex_hexDigits (by omega) (by simp)]
  dsimp only
  rw [if_pos hhigh, scanLowSurrogate, if_pos ⟨rfl, rfl, hlength⟩, scanHex_hexDigits (by omega) hr]
  dsimp only
  rw [if_pos hlow]

lemma toList_unicodeEscape (c : Char) : ∃ l, (unicodeEscape c).toList = '\\' :: 'u' :: l ∧
    ∀ rest, rest ≠ [] → scanUnicode (l ++ rest) = .ok (c, rest) := by
  have hvalid := toNat_valid c
  unfold unicodeEscape
  dsimp only
  split_ifs with hn
  · refine ⟨(hexDigits 4 c.toNat).toList, String.toList_append, fun rest hr => ?_⟩
    rw [scanUnicode_one (by omega) hr, Char.ofNat_toNat]
  · generalize hhigh : 0xd800 + (c.toNat - 0x10000) / 0x400 = high
    generalize hlow : 0xdc00 + (c.toNat - 0x10000) % 0x400 = low
    have hjoin : 0x10000 + (high - 0xd800) * 0x400 + (low - 0xdc00) = c.toNat := by omega
    refine ⟨(hexDigits 4 high).toList ++ '\\' :: 'u' :: (hexDigits 4 low).toList, ?_,
      fun rest hr => ?_⟩
    · rw [String.toList_append, String.toList_append, String.toList_append, List.append_assoc,
        List.append_assoc]
      rfl
    · rw [List.append_assoc, List.cons_append, List.cons_append,
        scanUnicode_two (by omega) (by omega) hr, hjoin, Char.ofNat_toNat]

lemma scanChar_escape (start : ℕ) {c d : Char} (hu : d ≠ 'u') (hd : simpleEscape d = some c)
    (rest : List Char) : scanChar start ('\\' :: d :: rest) = .ok (some c, rest) := by
  simp [scanChar, scanEscape, hu, hd, Except.map]

lemma eq_of_toNat {c d : Char} (h : c.toNat = d.toNat) : c = d := by
  rw [← Char.ofNat_toNat c, h, Char.ofNat_toNat]

lemma scanChar_dumpsChar (start : ℕ) (c : Char) {rest : List Char} (hr : rest ≠ []) :
    scanChar start ((dumpsChar c).toList ++ rest) = .ok (some c, rest) := by
  unfold dumpsChar
  split_ifs with hquote hback hprint hn hr' ht hf hb
  · exact scanChar_escape start (by decide) (by rw [hquote]; rfl) rest
  · exact scanChar_escape start (by decide) (by rw [hback]; rfl) rest
  · have hcontrol : ¬ c.toNat ≤ 0x1f := by omega
    rw [String.toList_singleton, List.singleton_append, scanChar, if_neg hquote, if_neg hback,
      if_neg hcontrol]
  · exact scanChar_escape start (by decide) (by rw [hn]; rfl) rest
  · exact scanChar_escape start (by decide) (by rw [hr']; rfl) rest
  · exact scanChar_escape start (by decide) (by rw [ht]; rfl) rest
  · have hc : c = Char.ofNat 0x0c := eq_of_toNat hf
    exact scanChar_escape start (by decide) (by rw [hc]; rfl) rest
  · have hc : c = Char.ofNat 0x08 := eq_of_toNat hb
    exact scanChar_escape start (by decide) (by rw [hc]; rfl) rest
  · obtain ⟨l, htext, hscan⟩ := toList_unicodeEscape c
    rw [htext, List.cons_append, List.cons_append, scanChar, if_neg (by decide),
      if_pos rfl, scanEscape, if_pos rfl, hscan rest hr]
    rfl

lemma scanString_dumps (start : ℕ) (l rest : List Char) :
    scanString start ((l.flatMap fun c => (dumpsChar c).toList) ++ '"' :: rest) = .ok (l, rest) := by
  induction l with
  | nil =>
    rw [scanString]
    rfl
  | cons c l ih =>
    rw [List.flatMap_cons, List.append_assoc, scanString, scanChar_dumpsChar start c (by simp)]
    dsimp only
    rw [ih]
    rfl

/-! ### Values -/

variable (F : FloatText)

/-- The text Python prints for a float. -/
def PrintsFloat (text : String) : Prop :=
  text = "nan" ∨ text = "inf" ∨ text = "-inf" ∨
    (IsFloatLiteral text.toList ∧ F.read text.toList = text)

mutual

/-- A value as Python holds it: a dictionary has a key once, and a float is kept as its text. -/
def WellFormed : Json → Prop
  | float text => PrintsFloat F text
  | arr l => ItemsWellFormed l
  | obj o => (o.map Prod.fst).Nodup ∧ FieldsWellFormed o
  | _ => True

def ItemsWellFormed : List Json → Prop
  | [] => True
  | v :: l => WellFormed v ∧ ItemsWellFormed l

def FieldsWellFormed : List (String × Json) → Prop
  | [] => True
  | (_, v) :: o => WellFormed v ∧ FieldsWellFormed o

end

mutual

/-- The value with the keys of every object in order, as they are written. -/
def sortKeys : Json → Json
  | arr l => arr (sortItems l)
  | obj o => obj ((sortFields o).insertionSort fun f g => f.1 ≤ g.1)
  | v => v

def sortItems : List Json → List Json
  | [] => []
  | v :: l => sortKeys v :: sortItems l

def sortFields : List (String × Json) → List (String × Json)
  | [] => []
  | (k, v) :: o => (k, sortKeys v) :: sortFields o

end

/-- What may stand behind a value inside a text. -/
def Ends (rest : List Char) : Prop :=
  ∀ c ∈ rest.head?, isBlank c = true ∨ c = ',' ∨ c = ']' ∨ c = '\x7d'

lemma Ends.stops {rest : List Char} (h : Ends rest) : Stops rest := by
  intro c hc
  rcases h c hc with hblank | rfl | rfl | rfl
  · simp only [isBlank, Bool.or_eq_true, beq_iff_eq] at hblank
    rcases hblank with ((rfl | rfl) | rfl) | rfl <;> decide
  all_goals decide

/-- A value may start with this character. -/
def IsStart (c : Char) : Prop := isBlank c = false ∧ c ≠ ']' ∧ c ≠ '\uFEFF'

instance (c : Char) : Decidable (IsStart c) :=
  inferInstanceAs (Decidable (isBlank c = false ∧ c ≠ ']' ∧ c ≠ '\uFEFF'))

/-- The text is read as the value, wherever it stands. -/
structure ReadsAs (text : String) (v : Json) : Prop where
  starts : ∃ c l, text.toList = c :: l ∧ IsStart c
  scan : ∀ fuel rest, 2 * text.toList.length + 1 ≤ fuel → Ends rest →
    scanOnce F fuel (text.toList ++ rest) = .ok (v, rest)

variable {F}

lemma readsAs_atom {text : String} {v : Json} {c : Char} {l : List Char}
    (htext : text.toList = c :: l)
    (hc : IsStart c ∧ c ≠ '"' ∧ c ≠ '[' ∧ c ≠ '\x7b')
    (hscan : ∀ rest, Ends rest → scanAtom F (text.toList ++ rest) = .ok (v, rest)) :
    ReadsAs F text v := by
  obtain ⟨hstart, hquote, hopen, hbrace⟩ := hc
  refine ⟨⟨c, l, htext, hstart⟩, fun fuel rest hfuel hrest => ?_⟩
  obtain ⟨fuel, rfl⟩ := Nat.exists_eq_add_of_le' (Nat.le_trans (Nat.le_add_left 1 _) hfuel)
  have hatom := hscan rest hrest
  rw [htext, List.cons_append] at hatom ⊢
  rw [scanOnce, if_neg hquote, if_neg hopen, if_neg hbrace, hatom]

lemma readsAs_constant {text : String} {v : Json} {c : Char} {l : List Char}
    (htext : text.toList = c :: l)
    (hc : IsStart c ∧ c ≠ '"' ∧ c ≠ '[' ∧ c ≠ '\x7b')
    (hscan : ∀ rest, scanConstant (text.toList ++ rest) = some (v, rest)) : ReadsAs F text v :=
  readsAs_atom htext hc fun rest _ => by rw [scanAtom, hscan]

lemma isPrefixOf?_eq_none {c d : Char} (h : c ≠ d) (l m : List Char) :
    (c :: l).isPrefixOf? (d :: m) = none := by
  rw [List.isPrefixOf?, if_neg (by simpa using h)]

lemma scanConstant_integer {l rest : List Char} (h : IsInteger l) :
    scanConstant (l ++ rest) = none := by
  obtain ⟨sign, c, digits, hsign, hd, -, rfl⟩ := h
  have hc : c.isDigit = true := hd c (by simp)
  have hne : ∀ d : Char, d.isDigit = false → d ≠ c := by
    rintro d hdigit rfl
    rw [hc] at hdigit
    cases hdigit
  rw [scanConstant, List.findSome?_eq_none_iff]
  intro x hx
  rw [Option.map_eq_none_iff]
  rw [constants] at hx
  rcases hsign with rfl | rfl <;> simp only [List.mem_cons, List.not_mem_nil, or_false] at hx <;>
    rcases hx with rfl | rfl | rfl | rfl | rfl | rfl
  · exact isPrefixOf?_eq_none (hne 'n' (by decide)) _ _
  · exact isPrefixOf?_eq_none (hne 't' (by decide)) _ _
  · exact isPrefixOf?_eq_none (hne 'f' (by decide)) _ _
  · exact isPrefixOf?_eq_none (hne 'N' (by decide)) _ _
  · exact isPrefixOf?_eq_none (hne 'I' (by decide)) _ _
  · exact isPrefixOf?_eq_none (hne '-' (by decide)) _ _
  · exact isPrefixOf?_eq_none (by decide) _ _
  · exact isPrefixOf?_eq_none (by decide) _ _
  · exact isPrefixOf?_eq_none (by decide) _ _
  · exact isPrefixOf?_eq_none (by decide) _ _
  · exact isPrefixOf?_eq_none (by decide) _ _
  · exact isPrefixOf?_eq_none (hne 'I' (by decide)) _ _

lemma IsInteger.starts {l : List Char} (h : IsInteger l) (m : List Char) : ∃ c k, l ++ m = c :: k ∧
    IsStart c ∧ c ≠ '"' ∧ c ≠ '[' ∧ c ≠ '\x7b' := by
  obtain ⟨sign, c, digits, hsign, hd, -, rfl⟩ := h
  rcases hsign with rfl | rfl
  · refine ⟨c, digits ++ m, rfl, ?_⟩
    have hc : c.isDigit = true := hd c (by simp)
    obtain ⟨hlow, hhigh⟩ := toNat_of_isDigit hc
    have hne : ∀ d : Char, d.isDigit = false → c ≠ d := by
      rintro d hdigit rfl
      rw [hc] at hdigit
      cases hdigit
    refine ⟨⟨?_, hne _ (by decide), hne _ (by decide)⟩, hne _ (by decide), hne _ (by decide),
      hne _ (by decide)⟩
    simp [isBlank, hne ' ' (by decide), hne '\t' (by decide), hne '\n' (by decide),
      hne '\r' (by decide)]
  · exact ⟨'-', c :: digits ++ m, rfl, by decide⟩

lemma readsAs_int {n : ℤ} (h : (Nat.toDigits 10 n.natAbs).length ≤ maxStrDigits) :
    ReadsAs F (toString n) (int n) := by
  have hint := isInteger_toString n
  obtain ⟨c, l, hl, hc⟩ := hint.starts []
  rw [List.append_nil] at hl
  refine readsAs_atom hl hc fun rest hrest => ?_
  have hscan := scanDecimal_append hint (Or.inl rfl) (Or.inl rfl) hrest.stops
  rw [List.nil_append, List.nil_append, List.append_nil] at hscan
  rw [scanAtom, scanConstant_integer hint]
  dsimp only
  rw [scanNumber, hscan]
  dsimp only
  rw [if_pos rfl, int_toString h]

lemma readsAs_float {text : String} (h : PrintsFloat F text) :
    ReadsAs F (dumpsFloat text) (float text) := by
  unfold dumpsFloat
  split_ifs with hnan hinf hneg
  · rw [hnan]
    exact readsAs_constant rfl (by decide) fun rest => rfl
  · rw [hinf]
    exact readsAs_constant rfl (by decide) fun rest => rfl
  · rw [hneg]
    exact readsAs_constant rfl (by decide) fun rest => rfl
  · obtain ⟨⟨integer, fraction, exponent, hi, hf, he, hne, htext⟩, hread⟩ :=
      ((h.resolve_left hnan).resolve_left hinf).resolve_left hneg
    obtain ⟨c, l, hl, hc⟩ := hi.starts (fraction ++ exponent)
    refine readsAs_atom (htext.trans hl) hc fun rest hrest => ?_
    have hscan := scanDecimal_append hi hf he hrest.stops
    rw [← List.append_assoc fraction, ← List.append_assoc integer, ← htext] at hscan
    rw [scanAtom, htext, List.append_assoc, scanConstant_integer hi, ← List.append_assoc, ← htext]
    dsimp only
    rw [scanNumber, hscan]
    dsimp only
    rw [if_neg hne, ← htext, hread]

lemma readsAs_str (s : String) : ReadsAs F (dumpsStr s) (str s) := by
  have htext : (dumpsStr s).toList = '"' :: ((s.toList.flatMap fun c => (dumpsChar c).toList)
      ++ ['"']) := by
    simp [dumpsStr]
  refine ⟨⟨_, _, htext, by decide⟩, fun fuel rest hfuel _ => ?_⟩
  obtain ⟨fuel, rfl⟩ := Nat.exists_eq_add_of_le' (Nat.le_trans (Nat.le_add_left 1 _) hfuel)
  rw [htext, List.cons_append, scanOnce, if_pos rfl, List.append_assoc, List.singleton_append,
    scanString_dumps]
  simp [Except.map]

/-! ### Lists and objects -/

lemma skipBlank_cons {c : Char} (h : isBlank c = false) (l : List Char) :
    skipBlank (c :: l) = c :: l := by
  rw [skipBlank, List.dropWhile_cons, if_neg (by simp [h])]

/-- What may be written between the parts of a text. -/
def Blanks (l : List Char) : Prop := ∀ c ∈ l, isBlank c = true

lemma Blanks.nil : Blanks [] := fun _ hc => absurd hc List.not_mem_nil

lemma skipBlank_append {gap : List Char} (h : Blanks gap) (l : List Char) :
    skipBlank (gap ++ l) = skipBlank l :=
  List.dropWhile_append_of_pos h

/-- A separator: the character, with blanks behind it. -/
def Separates (c : Char) (text : String) : Prop := ∃ gap, text.toList = c :: gap ∧ Blanks gap

lemma separates_self (c : Char) : Separates c (String.singleton c) := ⟨[], by simp, .nil⟩

lemma toList_intercalate_cons (comma text text' : String) (texts : List String) :
    (comma.intercalate (text :: text' :: texts)).toList
      = text.toList ++ (comma.toList ++ (comma.intercalate (text' :: texts)).toList) := by
  rw [String.intercalate_cons_cons, String.toList_append, String.toList_append, List.append_assoc]

lemma exists_intercalate (comma text : String) (texts : List String) :
    ∃ l, (comma.intercalate (text :: texts)).toList = text.toList ++ l := by
  cases texts with
  | nil => exact ⟨[], by rw [String.intercalate_singleton, List.append_nil]⟩
  | cons text' texts => exact ⟨_, toList_intercalate_cons comma text text' texts⟩

lemma ends_cons {c : Char} (h : c = ',' ∨ c = ']' ∨ c = '\x7d') (l : List Char) : Ends (c :: l) := by
  intro d hd
  obtain rfl := Option.some.inj hd
  exact Or.inr h

lemma Blanks.ends {gap : List Char} (hgap : Blanks gap) {c : Char}
    (h : c = ',' ∨ c = ']' ∨ c = '\x7d') (l : List Char) : Ends (gap ++ c :: l) := by
  cases gap with
  | nil => exact ends_cons h l
  | cons d gap =>
    intro e he
    obtain rfl := Option.some.inj he
    exact Or.inl (hgap d (by simp))

section
variable {comma : String} {close : List Char}

lemma scanItems_intercalate (hcomma : Separates ',' comma) (hclose : Blanks close)
    {texts : List String} {items : List Json} (h : List.Forall₂ (ReadsAs F) texts items)
    (hne : texts ≠ []) (fuel : ℕ) (rest : List Char)
    (hfuel : 2 * (comma.intercalate texts).toList.length + 2 ≤ fuel) :
    scanItems F fuel ((comma.intercalate texts).toList ++ (close ++ ']' :: rest))
      = .ok (items, rest) := by
  obtain ⟨gap, hcomma, hgap⟩ := hcomma
  induction h generalizing fuel with
  | nil => exact absurd rfl hne
  | cons hread hreads ih =>
    rename_i text v texts items
    obtain ⟨fuel, rfl⟩ := Nat.exists_eq_add_of_le' (Nat.le_trans (Nat.le_add_left 1 _) hfuel)
    cases hreads with
    | nil =>
      rw [String.intercalate_singleton] at hfuel ⊢
      rw [scanItems, hread.scan fuel _ (by omega) (hclose.ends (by simp) rest)]
      dsimp only [Except.bind]
      rw [skipBlank_append hclose, skipBlank_cons (by decide)]
      rfl
    | cons hread' hreads' =>
      rename_i text' v' texts items
      rw [toList_intercalate_cons, hcomma] at hfuel ⊢
      rw [List.length_append, List.length_append, List.length_cons] at hfuel
      obtain ⟨c, l, htext, hblank, -⟩ := hread'.starts
      obtain ⟨m, hm⟩ := exists_intercalate comma text' texts
      have hskip : skipBlank (gap ++ ((comma.intercalate (text' :: texts)).toList
          ++ (close ++ ']' :: rest)))
          = (comma.intercalate (text' :: texts)).toList ++ (close ++ ']' :: rest) := by
        rw [skipBlank_append hgap, hm, htext, List.cons_append, List.cons_append,
          skipBlank_cons hblank]
      rw [List.append_assoc, List.cons_append, List.cons_append, List.append_assoc, scanItems,
        hread.scan fuel _ (by omega) (ends_cons (by simp) _)]
      dsimp only [Except.bind]
      rw [skipBlank_cons (by decide)]
      dsimp only
      rw [if_neg (by decide), if_pos rfl, hskip, ih (by simp) fuel (by omega)]
      rfl

/-- A key and its value, with a colon between them. -/
def fieldText (colon : String) (field : String × String) : String :=
  dumpsStr field.1 ++ colon ++ field.2

lemma exists_fieldText (colon : String) (field : String × String) :
    ∃ l, (fieldText colon field).toList = '"' :: l := by
  simp [fieldText, dumpsStr]

lemma scanKey_fieldText {colon : String} (hcolon : Separates ':' colon) (k : String) {text : String}
    {c : Char} {l : List Char} (htext : text.toList = c :: l) (hc : isBlank c = false)
    (rest : List Char) :
    scanKey ((fieldText colon (k, text)).toList ++ rest) = .ok (k, text.toList ++ rest) := by
  obtain ⟨gap, hcolon, hgap⟩ := hcolon
  have hkey : (fieldText colon (k, text)).toList
      = '"' :: ((k.toList.flatMap fun c => (dumpsChar c).toList) ++ '"' :: ':' ::
        (gap ++ text.toList)) := by
    simp [fieldText, dumpsStr, hcolon]
  rw [hkey, List.cons_append, scanKey, if_pos rfl, List.append_assoc, List.cons_append,
    List.cons_append, List.append_assoc, scanString_dumps]
  dsimp only [Except.bind]
  rw [skipBlank_cons (by decide)]
  dsimp only
  rw [if_pos rfl, skipBlank_append hgap, htext, List.cons_append, skipBlank_cons hc,
    String.ofList_toList]

lemma scanFields_intercalate {colon : String} (hcomma : Separates ',' comma)
    (hcolon : Separates ':' colon) (hclose : Blanks close) {texts : List (String × String)}
    {fields : List (String × Json)}
    (h : List.Forall₂ (fun f g => f.1 = g.1 ∧ ReadsAs F f.2 g.2) texts fields) (hne : texts ≠ [])
    (fuel : ℕ) (rest : List Char)
    (hfuel : 2 * (comma.intercalate (texts.map (fieldText colon))).toList.length + 2 ≤ fuel) :
    scanFields F fuel ((comma.intercalate (texts.map (fieldText colon))).toList
      ++ (close ++ '\x7d' :: rest)) = .ok (fields, rest) := by
  obtain ⟨gap, hcomma, hgap⟩ := hcomma
  -- by induction on the fields; the fuel left is enough for the text that is left
  induction h generalizing fuel with
  | nil => exact absurd rfl hne
  | cons hread hreads ih =>
    rename_i f g texts fields
    obtain ⟨k, text⟩ := f
    obtain ⟨k', v⟩ := g
    dsimp only at hread
    obtain ⟨rfl, hread⟩ := hread
    obtain ⟨fuel, rfl⟩ := Nat.exists_eq_add_of_le' (Nat.le_trans (Nat.le_add_left 1 _) hfuel)
    obtain ⟨c, l, htext, hblank, -⟩ := hread.starts
    have hkey := scanKey_fieldText hcolon k htext hblank
    have hlength : text.toList.length + 1 ≤ (fieldText colon (k, text)).toList.length := by
      simp only [fieldText, dumpsStr, String.toList_append, List.length_append, String.length_toList]
      have : "\"".length = 1 := rfl
      omega
    cases hreads with
    -- the last field, in front of the brace
    | nil =>
      rw [List.map_singleton, String.intercalate_singleton] at hfuel ⊢
      rw [scanFields, hkey]
      dsimp only [Except.bind]
      rw [hread.scan fuel _ (by omega) (hclose.ends (by simp) rest)]
      dsimp only
      rw [skipBlank_append hclose, skipBlank_cons (by decide)]
      rfl
    -- a field in front of a comma
    | cons hread' hreads' =>
      rename_i f' g' texts fields
      rw [List.map_cons, List.map_cons, toList_intercalate_cons, hcomma] at hfuel ⊢
      rw [List.length_append, List.length_append, List.length_cons] at hfuel
      obtain ⟨m, hm⟩ := exists_intercalate comma (fieldText colon f') (texts.map (fieldText colon))
      obtain ⟨l', hl'⟩ := exists_fieldText colon f'
      have hskip : skipBlank (gap ++ ((comma.intercalate (fieldText colon f' ::
          texts.map (fieldText colon))).toList ++ (close ++ '\x7d' :: rest)))
          = (comma.intercalate (fieldText colon f' :: texts.map (fieldText colon))).toList
            ++ (close ++ '\x7d' :: rest) := by
        rw [skipBlank_append hgap, hm, hl', List.cons_append, List.cons_append,
          skipBlank_cons (by decide)]
      rw [List.append_assoc, List.cons_append, List.cons_append, List.append_assoc, scanFields, hkey]
      dsimp only [Except.bind]
      rw [hread.scan fuel _ (by omega) (ends_cons (by simp) _)]
      dsimp only
      rw [skipBlank_cons (by decide)]
      dsimp only
      rw [if_neg (by decide), if_pos rfl, hskip]
      have := ih (by simp) fuel (by rw [List.map_cons]; omega)
      rw [List.map_cons] at this
      rw [this]
      rfl

lemma readsAs_items {start : List Char} (hstart : Blanks start) (hcomma : Separates ',' comma)
    (hclose : Blanks close) {texts : List String} {items : List Json}
    (h : List.Forall₂ (ReadsAs F) texts items) (hne : texts ≠ []) {text : String}
    (htext : text.toList
      = '[' :: (start ++ ((comma.intercalate texts).toList ++ (close ++ [']'])))) :
    ReadsAs F text (arr items) := by
  refine ⟨⟨_, _, htext, by decide⟩, fun fuel rest hfuel _ => ?_⟩
  rw [htext, List.length_cons, List.length_append, List.length_append, List.length_append,
    List.length_singleton] at hfuel
  obtain ⟨fuel, rfl⟩ := Nat.exists_eq_add_of_le' (Nat.le_trans (Nat.le_add_left 1 _) hfuel)
  rw [htext, List.cons_append, List.append_assoc, List.append_assoc, List.append_assoc,
    List.singleton_append, scanOnce, if_neg (by decide), if_pos rfl, skipBlank_append hstart]
  cases h with
  | nil => exact absurd rfl hne
  | cons hread hreads =>
    rename_i text v texts items
    obtain ⟨c, l, hl, hblank, hbracket, -⟩ := hread.starts
    obtain ⟨m, hm⟩ := exists_intercalate comma text texts
    have hscan := scanItems_intercalate hcomma hclose (.cons hread hreads) (by simp) fuel rest
      (by omega)
    rw [hm, hl, List.cons_append, List.cons_append] at hscan ⊢
    rw [skipBlank_cons hblank]
    dsimp only
    rw [if_neg hbracket, hscan]
    rfl

lemma readsAs_fields {start : List Char} (hstart : Blanks start) {colon : String}
    (hcomma : Separates ',' comma) (hcolon : Separates ':' colon) (hclose : Blanks close)
    {texts : List (String × String)} {fields : List (String × Json)}
    (h : List.Forall₂ (fun f g => f.1 = g.1 ∧ ReadsAs F f.2 g.2) texts fields) (hne : texts ≠ [])
    {text : String} (htext : text.toList = '\x7b' :: (start ++
      ((comma.intercalate (texts.map (fieldText colon))).toList ++ (close ++ ['\x7d'])))) :
    ReadsAs F text (obj (ofPairs fields)) := by
  refine ⟨⟨_, _, htext, by decide⟩, fun fuel rest hfuel _ => ?_⟩
  rw [htext, List.length_cons, List.length_append, List.length_append, List.length_append,
    List.length_singleton] at hfuel
  obtain ⟨fuel, rfl⟩ := Nat.exists_eq_add_of_le' (Nat.le_trans (Nat.le_add_left 1 _) hfuel)
  rw [htext, List.cons_append, List.append_assoc, List.append_assoc, List.append_assoc,
    List.singleton_append, scanOnce, if_neg (by decide), if_neg (by decide), if_pos rfl,
    skipBlank_append hstart]
  cases h with
  | nil => exact absurd rfl hne
  | cons hread hreads =>
    rename_i f g texts fields
    obtain ⟨m, hm⟩ := exists_intercalate comma (fieldText colon f) (texts.map (fieldText colon))
    obtain ⟨l, hl⟩ := exists_fieldText colon f
    have hscan := scanFields_intercalate hcomma hcolon hclose (.cons hread hreads) (by simp) fuel
      rest (by omega)
    rw [List.map_cons] at hscan ⊢
    rw [hm, hl, List.cons_append, List.cons_append] at hscan ⊢
    rw [skipBlank_cons (by decide)]
    dsimp only
    rw [if_neg (by decide), hscan]
    rfl

end

lemma readsAs_noItems : ReadsAs F "[]" (arr []) := by
  refine ⟨⟨_, _, rfl, by decide⟩, fun fuel rest hfuel _ => ?_⟩
  obtain ⟨fuel, rfl⟩ := Nat.exists_eq_add_of_le' (Nat.le_trans (Nat.le_add_left 1 _) hfuel)
  rfl

lemma readsAs_noFields : ReadsAs F "\x7b\x7d" (obj []) := by
  refine ⟨⟨_, _, rfl, by decide⟩, fun fuel rest hfuel _ => ?_⟩
  obtain ⟨fuel, rfl⟩ := Nat.exists_eq_add_of_le' (Nat.le_trans (Nat.le_add_left 1 _) hfuel)
  rfl

lemma readsAs_arr {texts : List String} {items : List Json}
    (h : List.Forall₂ (ReadsAs F) texts items) :
    ReadsAs F ("[" ++ ",".intercalate texts ++ "]") (arr items) := by
  by_cases hne : texts = []
  · subst hne
    cases h
    exact readsAs_noItems
  · exact readsAs_items .nil (separates_self ',') .nil h hne (by simp)

lemma readsAs_obj {texts : List (String × String)} {fields : List (String × Json)}
    (h : List.Forall₂ (fun f g => f.1 = g.1 ∧ ReadsAs F f.2 g.2) texts fields) :
    ReadsAs F ("\x7b" ++ ",".intercalate (texts.map dumpsField) ++ "\x7d") (obj (ofPairs fields)) := by
  by_cases hne : texts = []
  · subst hne
    cases h
    exact readsAs_noFields
  · exact readsAs_fields .nil (separates_self ',') (separates_self ':') .nil h hne (by simp; rfl)

lemma forall₂_insertionSort {α β : Type} {R : String × α → String × β → Prop}
    (hkey : ∀ f g, R f g → f.1 = g.1) {l : List (String × α)} {m : List (String × β)}
    (h : List.Forall₂ R l m) :
    List.Forall₂ R (l.insertionSort fun f g => f.1 ≤ g.1) (m.insertionSort fun f g => f.1 ≤ g.1) := by
  have hinsert : ∀ {f g l m}, R f g → List.Forall₂ R l m → List.Forall₂ R
      (l.orderedInsert (fun f g => f.1 ≤ g.1) f) (m.orderedInsert (fun f g => f.1 ≤ g.1) g) := by
    intro f g l m hfg h
    induction h with
    | nil => exact .cons hfg .nil
    | cons hfg' h ih =>
      rename_i f' g' l m
      rw [List.orderedInsert_cons, List.orderedInsert_cons]
      by_cases hle : f.1 ≤ f'.1
      · rw [if_pos hle, if_pos (by rwa [← hkey _ _ hfg, ← hkey _ _ hfg'])]
        exact .cons hfg (.cons hfg' h)
      · rw [if_neg hle, if_neg (by rwa [← hkey _ _ hfg, ← hkey _ _ hfg'])]
        exact .cons hfg' ih
  induction h with
  | nil => exact .nil
  | cons hfg h ih => exact hinsert hfg ih

lemma ofPairs_of_nodup {l : List (String × Json)} (h : (l.map Prod.fst).Nodup) : ofPairs l = l := by
  have hstep : ∀ (l : List (String × Json)) (o : Obj), ((o ++ l).map Prod.fst).Nodup →
      l.foldl (fun o p => assign o p.1 p.2) o = o ++ l := by
    intro l
    induction l with
    | nil => intro o _; simp
    | cons p l ih =>
      intro o h
      have hnew : assign o p.1 p.2 = o ++ [p] := by
        rw [assign, if_neg]
        rw [List.map_append, List.map_cons] at h
        have := (List.nodup_append.mp h).2.2
        simp only [List.contains_iff_mem]
        intro hmem
        exact this _ hmem _ (by simp) rfl
      rw [List.foldl_cons, hnew, ih _ (by simpa using h)]
      simp
  exact (hstep l [] h).trans (List.nil_append l)

lemma map_fst_sortFields (o : List (String × Json)) :
    (sortFields o).map Prod.fst = o.map Prod.fst := by
  induction o with
  | nil => rfl
  | cons p o ih => rw [sortFields, List.map_cons, List.map_cons, ih]

lemma nodup_sortFields {o : List (String × Json)} (h : (o.map Prod.fst).Nodup) :
    (((sortFields o).insertionSort fun f g => f.1 ≤ g.1).map Prod.fst).Nodup := by
  rw [((List.perm_insertionSort _ _).map _).nodup_iff, map_fst_sortFields]
  exact h

/-- A value that is neither a list nor an object. -/
def IsScalar : Json → Prop
  | arr _ => False
  | obj _ => False
  | _ => True

lemma readsAs_scalar {v : Json} (hv : WellFormed F v) (hs : IsScalar v) {text : String}
    (h : dumps v = .ok text) : ReadsAs F text (sortKeys v) := by
  match v with
  | null => rw [dumps] at h; cases h; exact readsAs_constant rfl (by decide) fun _ => rfl
  | bool b =>
    rw [dumps] at h
    cases h
    cases b
    · exact readsAs_constant rfl (by decide) fun _ => rfl
    · exact readsAs_constant rfl (by decide) fun _ => rfl
  | int n =>
    rw [dumps, dumpsInt_eq_ok_iff] at h
    rw [h.2, sortKeys]
    · exact readsAs_int h.1
    all_goals rintro _ ⟨⟩
  | float t =>
    rw [dumps] at h
    cases h
    rw [WellFormed] at hv
    rw [sortKeys]
    · exact readsAs_float hv
    all_goals rintro _ ⟨⟩
  | str s =>
    rw [dumps] at h
    cases h
    rw [sortKeys]
    · exact readsAs_str s
    all_goals rintro _ ⟨⟩
  | arr l => exact hs.elim
  | obj o => exact hs.elim

mutual

/-- **What is written is read**, wherever it stands, as the value with its keys in order. -/
theorem readsAs_dumps (v : Json) (hv : WellFormed F v) (text : String) (h : dumps v = .ok text) :
    ReadsAs F text (sortKeys v) := by
  match v with
  | null | bool _ | int _ | float _ | str _ => exact readsAs_scalar hv trivial h
  | arr l =>
    rw [dumps] at h
    rw [WellFormed] at hv
    obtain ⟨items, hitems, rfl⟩ := map_eq_ok h
    rw [sortKeys]
    exact readsAs_arr (readsAs_dumpsItems l hv items hitems)
  | obj o =>
    rw [dumps] at h
    rw [WellFormed] at hv
    obtain ⟨fields, hfields, rfl⟩ := map_eq_ok h
    have hread := forall₂_insertionSort (fun _ _ h => h.1)
      (readsAs_dumpsFields o hv.2 fields hfields)
    rw [sortKeys, ← ofPairs_of_nodup (nodup_sortFields hv.1)]
    exact readsAs_obj hread

theorem readsAs_dumpsItems (l : List Json) (hl : ItemsWellFormed F l) (items : List String)
    (h : dumpsItems l = .ok items) : List.Forall₂ (ReadsAs F) items (sortItems l) := by
  match l with
  | [] => rw [dumpsItems] at h; cases h; exact .nil
  | v :: l =>
    rw [dumpsItems] at h
    rw [ItemsWellFormed] at hl
    cases hv : dumps v with
    | error e => rw [hv] at h; cases h
    | ok text =>
      rw [hv] at h
      obtain ⟨items, hitems, rfl⟩ := map_eq_ok h
      exact .cons (readsAs_dumps v hl.1 text hv) (readsAs_dumpsItems l hl.2 items hitems)

theorem readsAs_dumpsFields (o : List (String × Json)) (ho : FieldsWellFormed F o)
    (fields : List (String × String)) (h : dumpsFields o = .ok fields) :
    List.Forall₂ (fun f g => f.1 = g.1 ∧ ReadsAs F f.2 g.2) fields (sortFields o) := by
  match o with
  | [] => rw [dumpsFields] at h; cases h; exact .nil
  | (k, v) :: o =>
    rw [dumpsFields] at h
    rw [FieldsWellFormed] at ho
    cases hv : dumps v with
    | error e => rw [hv] at h; cases h
    | ok text =>
      rw [hv] at h
      obtain ⟨fields, hfields, rfl⟩ := map_eq_ok h
      exact .cons ⟨rfl, readsAs_dumps v ho.1 text hv⟩ (readsAs_dumpsFields o ho.2 fields hfields)

end

lemma readText_of_readsAs {text : String} {v : Json} (h : ReadsAs F text v) {gap : List Char}
    (hgap : Blanks gap) : readText F (text.toList ++ gap) = .ok v := by
  obtain ⟨c, l, htext, hblank, -⟩ := h.starts
  have hskip : skipBlank (text.toList ++ gap) = text.toList ++ gap := by
    rw [htext, List.cons_append, skipBlank_cons hblank]
  have hend : skipBlank gap = [] := List.dropWhile_eq_nil_iff.mpr hgap
  have hends : Ends gap := fun d hd => Or.inl (hgap d (List.mem_of_mem_head? hd))
  rw [readText, hskip, h.scan _ gap (by rw [List.length_append]; omega) hends]
  dsimp only
  rw [if_pos hend]

lemma loads_append_of_readsAs {text : String} {v : Json} (h : ReadsAs F text v) {blanks : String}
    (hblanks : Blanks blanks.toList) : loads F (text ++ blanks) = .ok v := by
  obtain ⟨c, l, htext, -, -, hbom⟩ := h.starts
  rw [loads, String.toList_append, if_neg (by rw [htext]; simpa using hbom),
    readText_of_readsAs h hblanks]
  rfl

lemma loads_of_readsAs {text : String} {v : Json} (h : ReadsAs F text v) :
    loads F text = .ok v := by
  have hloads := @loads_append_of_readsAs F text v h "" .nil
  rwa [String.append_empty] at hloads

/-! ### The normal form -/

lemma dumpsItems_eq_ok_iff {l : List Json} {items : List String} :
    dumpsItems l = .ok items ↔ List.Forall₂ (fun v text => dumps v = .ok text) l items := by
  induction l generalizing items with
  | nil =>
    rw [dumpsItems, List.forall₂_nil_left_iff]
    exact ⟨fun h => (Except.ok.inj h).symm, fun h => congrArg _ h.symm⟩
  | cons v l ih =>
    rw [dumpsItems, List.forall₂_cons_left_iff]
    constructor
    · intro h
      cases hv : dumps v with
      | error e =>
        rw [hv] at h
        cases h
      | ok text =>
        rw [hv] at h
        obtain ⟨items, hitems, rfl⟩ := map_eq_ok h
        exact ⟨text, items, rfl, ih.mp hitems, rfl⟩
    · rintro ⟨text, items, hv, hl, rfl⟩
      rw [hv, ih.mpr hl]
      rfl

lemma dumpsFields_eq_ok_iff {o : List (String × Json)} {fields : List (String × String)} :
    dumpsFields o = .ok fields ↔
      List.Forall₂ (fun f g => f.1 = g.1 ∧ dumps f.2 = .ok g.2) o fields := by
  induction o generalizing fields with
  | nil =>
    rw [dumpsFields, List.forall₂_nil_left_iff]
    exact ⟨fun h => (Except.ok.inj h).symm, fun h => congrArg _ h.symm⟩
  | cons p o ih =>
    obtain ⟨k, v⟩ := p
    rw [dumpsFields, List.forall₂_cons_left_iff]
    constructor
    · intro h
      cases hv : dumps v with
      | error e =>
        rw [hv] at h
        cases h
      | ok text =>
        rw [hv] at h
        obtain ⟨fields, hfields, rfl⟩ := map_eq_ok h
        exact ⟨(k, text), fields, ⟨rfl, rfl⟩, ih.mp hfields, rfl⟩
    · rintro ⟨⟨k, text⟩, fields, ⟨rfl, hv⟩, ho, rfl⟩
      dsimp only at hv
      rw [hv, ih.mpr ho]
      rfl

lemma insertionSort_insertionSort {α : Type} (l : List (String × α)) :
    (l.insertionSort fun f g => f.1 ≤ g.1).insertionSort (fun f g => f.1 ≤ g.1)
      = l.insertionSort fun f g => f.1 ≤ g.1 := by
  have : IsTrans (String × α) fun f g => f.1 ≤ g.1 := ⟨fun _ _ _ => String.le_trans⟩
  have : Std.Total (fun f g : String × α => f.1 ≤ g.1) := ⟨fun _ _ => String.le_total _ _⟩
  exact (List.pairwise_insertionSort _ l).insertionSort_eq

mutual

/-- **The keys in order make no difference to the text.** -/
theorem dumps_sortKeys (v : Json) (text : String) (h : dumps v = .ok text) :
    dumps (sortKeys v) = .ok text := by
  match v with
  | null | bool _ | int _ | float _ | str _ =>
    rw [sortKeys]
    · exact h
    all_goals rintro _ ⟨⟩
  | arr l =>
    rw [dumps] at h
    obtain ⟨items, hitems, rfl⟩ := map_eq_ok h
    rw [sortKeys, dumps, dumpsItems_sortItems l items hitems]
    rfl
  | obj o =>
    rw [dumps] at h
    obtain ⟨fields, hfields, rfl⟩ := map_eq_ok h
    have hsorted := dumpsFields_eq_ok_iff.mpr (forall₂_insertionSort (fun _ _ h => h.1)
      (dumpsFields_eq_ok_iff.mp (dumpsFields_sortFields o fields hfields)))
    rw [sortKeys, dumps, hsorted, Except.map, insertionSort_insertionSort]

theorem dumpsItems_sortItems (l : List Json) (items : List String) (h : dumpsItems l = .ok items) :
    dumpsItems (sortItems l) = .ok items := by
  match l with
  | [] => exact h
  | v :: l =>
    rw [dumpsItems] at h
    cases hv : dumps v with
    | error e => rw [hv] at h; cases h
    | ok text =>
      rw [hv] at h
      obtain ⟨items, hitems, rfl⟩ := map_eq_ok h
      rw [sortItems, dumpsItems, dumps_sortKeys v text hv, dumpsItems_sortItems l items hitems]
      rfl

theorem dumpsFields_sortFields (o : List (String × Json)) (fields : List (String × String))
    (h : dumpsFields o = .ok fields) : dumpsFields (sortFields o) = .ok fields := by
  match o with
  | [] => exact h
  | (k, v) :: o =>
    rw [dumpsFields] at h
    cases hv : dumps v with
    | error e => rw [hv] at h; cases h
    | ok text =>
      rw [hv] at h
      obtain ⟨fields, hfields, rfl⟩ := map_eq_ok h
      rw [sortFields, dumpsFields, dumps_sortKeys v text hv,
        dumpsFields_sortFields o fields hfields]
      rfl

end

/-- **The round trip.** What `json.dumps` writes for a value, `json.loads` reads as that value with
the keys of its objects in order, and that is written as the same text. -/
theorem loads_dumps (F : FloatText) (v : Json) (hv : WellFormed F v) (text : String)
    (h : dumps v = .ok text) :
    loads F text = .ok (sortKeys v) ∧ dumps (sortKeys v) = .ok text :=
  ⟨loads_of_readsAs (readsAs_dumps v hv text h), dumps_sortKeys v text h⟩

/-- An object whose keys are out of order. -/
theorem loads_dumps_unsorted :
    loads .verbatim "\x7b\"a\":[null],\"b\":-1\x7d" = .ok (.obj [("a", .arr [.null]), ("b", .int (-1))]) :=
  (loads_dumps .verbatim (.obj [("b", .int (-1)), ("a", .arr [.null])])
    ⟨by decide, trivial, ⟨trivial, trivial⟩, trivial⟩ _ rfl).1

end NaiaRelay.Json
