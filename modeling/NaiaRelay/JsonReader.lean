import NaiaRelay.Errors
import NaiaRelay.Lib.Text

set_option autoImplicit false

/-!
How `json.loads` reads a text.

The reader stands at a position of the text, which is what is left of it, and gives back what
it has read and where it stands then. Its errors say what is wrong and where.
-/

namespace NaiaRelay.Json

open Text

/-- What stops the reader, with how much of the text is left there. -/
inductive ReadError
  | decode (message : String) (left : ℕ)
  | tooManyDigits (digits : ℕ)
  /-- Python keeps half of a pair of surrogates as a character, which no text here can hold. -/
  | loneSurrogate
  | outOfFuel
  deriving DecidableEq, Repr

/-- What has been read, and what is left. -/
abbrev Read (α : Type) := Except ReadError (α × List Char)

/-- `JSONDecodeError(msg, doc, pos)` at the position with this much of the text left. -/
def decodeError (doc : List Char) (message : String) (left : ℕ) : Exc :=
  let position := doc.length - left
  let before := doc.take position
  let line := before.count '\n' + 1
  let column := (before.reverse.takeWhile (· ≠ '\n')).length + 1
  .valueError (message ++ ": line " ++ toString line ++ " column " ++ toString column ++ " (char "
    ++ toString position ++ ")")

def ReadError.toExc (doc : List Char) : ReadError → Exc
  | decode message left => decodeError doc message left
  | tooManyDigits digits => .valueError ("Exceeds the limit (4300 digits) for integer string "
      ++ "conversion: value has " ++ toString digits
      ++ " digits; use sys.set_int_max_str_digits() to increase the limit")
  | loneSurrogate => .valueError "lone surrogate"
  | outOfFuel => .other "RecursionError" "maximum recursion depth exceeded"

def isBlank (c : Char) : Bool := c == ' ' || c == '\t' || c == '\n' || c == '\r'

def skipBlank (l : List Char) : List Char := l.dropWhile isBlank

/-! ### Numbers -/

/-- The sign and the integer part of a number. -/
def scanInteger (l : List Char) : Option (List Char × List Char) :=
  let sign := if l.head? = some '-' then ['-'] else []
  match l.drop sign.length with
  | [] => none
  | c :: l =>
    if c = '0' then some (sign ++ [c], l)
    else if c.isDigit then some (sign ++ c :: l.takeWhile Char.isDigit, l.dropWhile Char.isDigit)
    else none

/-- A point and the digits behind it, if there are any. -/
def scanFraction (l : List Char) : List Char × List Char :=
  match l with
  | p :: c :: l =>
    if p = '.' ∧ c.isDigit then (p :: c :: l.takeWhile Char.isDigit, l.dropWhile Char.isDigit)
    else ([], p :: c :: l)
  | l => ([], l)

/-- An exponent, if it has digits. -/
def scanExponent (l : List Char) : List Char × List Char :=
  match l with
  | e :: rest =>
    let sign := if rest.head? = some '-' ∨ rest.head? = some '+' then rest.take 1 else []
    let digits := (rest.drop sign.length).takeWhile Char.isDigit
    if (e = 'e' ∨ e = 'E') ∧ digits ≠ [] then
      (e :: (sign ++ digits), (rest.drop sign.length).dropWhile Char.isDigit)
    else ([], e :: rest)
  | [] => ([], [])

/-- The text of a number, in its integer part and what follows, and what is left. -/
def scanDecimal (l : List Char) : Option (List Char × List Char × List Char) :=
  (scanInteger l).map fun x =>
    let fraction := scanFraction x.2
    let exponent := scanExponent fraction.2
    (x.1, fraction.1 ++ exponent.1, exponent.2)

def IsDigits (l : List Char) : Prop := ∀ c ∈ l, c.isDigit = true

/-- An integer part: no digit stands behind a zero at the front. -/
def IsInteger (l : List Char) : Prop :=
  ∃ sign c digits, (sign = [] ∨ sign = ['-']) ∧ IsDigits (c :: digits) ∧
    (c = '0' → digits = []) ∧ l = sign ++ c :: digits

def IsFraction (l : List Char) : Prop :=
  l = [] ∨ ∃ c digits, IsDigits (c :: digits) ∧ l = '.' :: c :: digits

def IsExponent (l : List Char) : Prop :=
  l = [] ∨ ∃ e sign c digits, (e = 'e' ∨ e = 'E') ∧ (sign = [] ∨ sign = ['-'] ∨ sign = ['+']) ∧
    IsDigits (c :: digits) ∧ l = e :: (sign ++ c :: digits)

/-- The text of a number with a fraction or an exponent, and nothing else. -/
def IsFloatLiteral (l : List Char) : Prop :=
  ∃ integer fraction exponent, IsInteger integer ∧ IsFraction fraction ∧ IsExponent exponent ∧
    fraction ++ exponent ≠ [] ∧ l = integer ++ (fraction ++ exponent)

/-- `float` on the text of a number, by the text that Python prints for the result: that of a
number or of an infinity, and one that is read and printed as it is. -/
structure FloatText where
  read : List Char → String
  read_literal : ∀ l, IsFloatLiteral l →
    read l = "inf" ∨ read l = "-inf" ∨ IsFloatLiteral (read l).toList
  read_read : ∀ l, IsFloatLiteral l → IsFloatLiteral (read l).toList →
    read (read l).toList = read l

/-- `float` on numbers that are printed as they are written. -/
def FloatText.verbatim : FloatText where
  read := String.ofList
  read_literal _ h := Or.inr (Or.inr (by rwa [String.toList_ofList]))
  read_read _ _ _ := by rw [String.toList_ofList]

variable (F : FloatText)

def expectingValue (l : List Char) : ReadError := .decode "Expecting value" l.length

def scanNumber (l : List Char) : Read Json :=
  match scanDecimal l with
  | none => .error (expectingValue l)
  | some (integer, rest, l) =>
    if rest = [] then
      match Text.int integer with
      | none => .error (.tooManyDigits (integer.filter (· ≠ '-')).length)
      | some n => .ok (.int n, l)
    else .ok (.float (F.read (integer ++ rest)), l)

/-- The words that stand for a value. -/
def constants : List (String × Json) :=
  [("null", .null), ("true", .bool true), ("false", .bool false), ("NaN", .float "nan"),
    ("Infinity", .float "inf"), ("-Infinity", .float "-inf")]

def scanConstant (l : List Char) : Option (Json × List Char) :=
  constants.findSome? fun c => (c.1.toList.isPrefixOf? l).map (c.2, ·)

def scanAtom (l : List Char) : Read Json :=
  match scanConstant l with
  | some x => .ok x
  | none => scanNumber F l

/-! ### Texts -/

def hexValue (c : Char) : Option ℕ :=
  if '0' ≤ c ∧ c ≤ '9' then some (c.toNat - '0'.toNat)
  else if 'a' ≤ c ∧ c ≤ 'f' then some (c.toNat - 'a'.toNat + 10)
  else if 'A' ≤ c ∧ c ≤ 'F' then some (c.toNat - 'A'.toNat + 10)
  else none

/-- Four hexadecimal digits that are not the end of the text. -/
def scanHex : List Char → Option (ℕ × List Char)
  | a :: b :: c :: d :: e :: l => do
    let a ← hexValue a
    let b ← hexValue b
    let c ← hexValue c
    let d ← hexValue d
    return (((a * 16 + b) * 16 + c) * 16 + d, e :: l)
  | _ => none

def invalidUnicode (l : List Char) : ReadError := .decode "Invalid \\uXXXX escape" (l.length + 1)

/-- The second half of a pair of surrogates. -/
def scanLowSurrogate (high : ℕ) (l : List Char) : Read Char :=
  match l with
  | b :: u :: l =>
    if b = '\\' ∧ u = 'u' ∧ 5 ≤ l.length then
      match scanHex l with
      | none => .error (invalidUnicode l)
      | some (low, l) =>
        if 0xdc00 ≤ low ∧ low ≤ 0xdfff then
          .ok (Char.ofNat (0x10000 + (high - 0xd800) * 0x400 + (low - 0xdc00)), l)
        else .error .loneSurrogate
    else .error .loneSurrogate
  | _ => .error .loneSurrogate

/-- What stands behind `\u`. -/
def scanUnicode (l : List Char) : Read Char :=
  match scanHex l with
  | none => .error (invalidUnicode l)
  | some (n, l) =>
    if 0xd800 ≤ n ∧ n ≤ 0xdbff then scanLowSurrogate n l
    else if 0xdc00 ≤ n ∧ n ≤ 0xdfff then .error .loneSurrogate
    else .ok (Char.ofNat n, l)

/-- The character an escape of one letter stands for. -/
def simpleEscape (c : Char) : Option Char :=
  if c = '"' ∨ c = '\\' ∨ c = '/' then some c
  else if c = 'b' then some (Char.ofNat 0x08)
  else if c = 'f' then some (Char.ofNat 0x0c)
  else if c = 'n' then some '\n'
  else if c = 'r' then some '\r'
  else if c = 't' then some '\t'
  else none

def unterminated (start : ℕ) : ReadError := .decode "Unterminated string starting at" start

/-- What stands behind a backslash, in a text that starts with `start` left. -/
def scanEscape (start : ℕ) : List Char → Read Char
  | [] => .error (unterminated start)
  | c :: l =>
    if c = 'u' then scanUnicode l
    else
      match simpleEscape c with
      | some c => .ok (c, l)
      | none => .error (.decode "Invalid \\escape" (l.length + 2))

/-- The next character, or none at the quote that ends the text. -/
def scanChar (start : ℕ) : List Char → Read (Option Char)
  | [] => .error (unterminated start)
  | c :: l =>
    if c = '"' then .ok (none, l)
    else if c = '\\' then (scanEscape start l).map fun x => (some x.1, x.2)
    else if c.toNat ≤ 0x1f then .error (.decode "Invalid control character at" (l.length + 1))
    else .ok (some c, l)

lemma length_scanHex {l rest : List Char} {n : ℕ} (h : scanHex l = some (n, rest)) :
    l.length = rest.length + 4 := by
  unfold scanHex at h
  split at h
  · simp only [bind, Option.bind_eq_some_iff, pure, Option.some.injEq, Prod.mk.injEq] at h
    obtain ⟨_, -, _, -, _, -, _, -, -, rfl⟩ := h
    rfl
  · cases h

lemma length_scanLowSurrogate {high : ℕ} {l rest : List Char} {c : Char}
    (h : scanLowSurrogate high l = .ok (c, rest)) : rest.length < l.length := by
  unfold scanLowSurrogate at h
  split at h
  · split_ifs at h
    split at h
    · cases h
    · rename_i hx
      have hl := length_scanHex hx
      split_ifs at h
      obtain ⟨-, rfl⟩ := Prod.mk.inj (Except.ok.inj h)
      rw [List.length_cons, List.length_cons]
      omega
  · cases h

lemma length_scanUnicode {l rest : List Char} {c : Char} (h : scanUnicode l = .ok (c, rest)) :
    rest.length < l.length := by
  unfold scanUnicode at h
  split at h
  · cases h
  · rename_i hx
    have hl := length_scanHex hx
    split_ifs at h
    · have := length_scanLowSurrogate h
      omega
    · obtain ⟨-, rfl⟩ := Prod.mk.inj (Except.ok.inj h)
      omega

lemma length_scanEscape {start : ℕ} {l rest : List Char} {c : Char}
    (h : scanEscape start l = .ok (c, rest)) : rest.length < l.length := by
  cases l with
  | nil => cases h
  | cons d l =>
    rw [scanEscape] at h
    rw [List.length_cons]
    split_ifs at h
    · have := length_scanUnicode h
      omega
    · split at h
      · cases h
        omega
      · cases h

lemma length_scanChar {start : ℕ} {l rest : List Char} {c : Option Char}
    (h : scanChar start l = .ok (c, rest)) : rest.length < l.length := by
  cases l with
  | nil => cases h
  | cons d l =>
    rw [scanChar] at h
    rw [List.length_cons]
    split_ifs at h
    · cases h
      omega
    · cases hx : scanEscape start l with
      | error e =>
        rw [hx] at h
        cases h
      | ok x =>
        rw [hx] at h
        cases h
        have := length_scanEscape hx
        omega
    · cases h
      omega

/-- A text up to the quote that ends it. -/
def scanString (start : ℕ) (l : List Char) : Read (List Char) :=
  match _h : scanChar start l with
  | .error e => .error e
  | .ok (none, rest) => .ok ([], rest)
  | .ok (some c, rest) => (scanString start rest).map fun x => (c :: x.1, x.2)
termination_by l.length
decreasing_by exact length_scanChar _h

/-! ### Values -/

/-- A dictionary of keys and values: the last value of a key counts, in the place of the first. -/
def ofPairs (l : List (String × Json)) : Obj := l.foldl (fun o p => assign o p.1 p.2) []

def expectingComma (l : List Char) : ReadError := .decode "Expecting ',' delimiter" l.length

def expectingName (l : List Char) : ReadError :=
  .decode "Expecting property name enclosed in double quotes" l.length

/-- A key and its colon, up to the value. -/
def scanKey : List Char → Read String
  | [] => .error (expectingName [])
  | c :: rest =>
    if c = '"' then
      (scanString (rest.length + 1) rest).bind fun x =>
        match skipBlank x.2 with
        | [] => .error (.decode "Expecting ':' delimiter" 0)
        | d :: rest =>
          if d = ':' then .ok (String.ofList x.1, skipBlank rest)
          else .error (.decode "Expecting ':' delimiter" (rest.length + 1))
    else .error (expectingName (c :: rest))

mutual

/-- `scan_once`. -/
def scanOnce : ℕ → List Char → Read Json
  | 0, _ => .error .outOfFuel
  | fuel + 1, l =>
    match l with
    | [] => .error (expectingValue l)
    | c :: rest =>
      if c = '"' then
        (scanString (rest.length + 1) rest).map fun x => (.str (String.ofList x.1), x.2)
      else if c = '[' then
        match skipBlank rest with
        | [] => .error (expectingValue [])
        | d :: rest =>
          if d = ']' then .ok (.arr [], rest)
          else (scanItems fuel (d :: rest)).map fun x => (.arr x.1, x.2)
      else if c = '\x7b' then
        match skipBlank rest with
        | [] => .error (expectingName [])
        | d :: rest =>
          if d = '\x7d' then .ok (.obj [], rest)
          else (scanFields fuel (d :: rest)).map fun x => (.obj (ofPairs x.1), x.2)
      else scanAtom F (c :: rest)

/-- The items of a list, from the first character of one of them to the bracket. -/
def scanItems : ℕ → List Char → Read (List Json)
  | 0, _ => .error .outOfFuel
  | fuel + 1, l =>
    (scanOnce fuel l).bind fun x =>
      match skipBlank x.2 with
      | [] => .error (expectingComma [])
      | d :: rest =>
        if d = ']' then .ok ([x.1], rest)
        else if d = ',' then
          (scanItems fuel (skipBlank rest)).map fun y => (x.1 :: y.1, y.2)
        else .error (expectingComma (d :: rest))

/-- The fields of an object, from the first character of one of them to the brace. -/
def scanFields : ℕ → List Char → Read (List (String × Json))
  | 0, _ => .error .outOfFuel
  | fuel + 1, l =>
    (scanKey l).bind fun k =>
      (scanOnce fuel k.2).bind fun x =>
        match skipBlank x.2 with
        | [] => .error (expectingComma [])
        | d :: rest =>
          if d = '\x7d' then .ok ([(k.1, x.1)], rest)
          else if d = ',' then
            (scanFields fuel (skipBlank rest)).map fun y => ((k.1, x.1) :: y.1, y.2)
          else .error (expectingComma (d :: rest))

end

/-- `raw_decode` and what is left behind the value. Twice the length is enough fuel. -/
def readText (l : List Char) : Except ReadError Json :=
  match scanOnce F (2 * l.length + 1) (skipBlank l) with
  | .error e => .error e
  | .ok (v, rest) =>
    if skipBlank rest = [] then .ok v
    else .error (.decode "Extra data" (skipBlank rest).length)

/-- `json.loads(s)`. -/
def loads (s : String) : Except Exc Json :=
  if s.toList.head? = some '\uFEFF' then
    .error (decodeError s.toList "Unexpected UTF-8 BOM (decode using utf-8-sig)" s.toList.length)
  else (readText F s.toList).mapError (ReadError.toExc s.toList)

end NaiaRelay.Json
