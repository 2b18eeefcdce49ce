import Mathlib.Data.Int.Notation
import Mathlib.Tactic.Common

set_option autoImplicit false

/-!
JSON values as Python holds them, and what the relay asks of them outside any schema:
lookup in an object, truthiness, and the text `str` gives.

A float is kept as the text Python prints for it, which determines it. The one thing left
open is which characters `str.isprintable` accepts; it is a parameter wherever a string is
quoted.
-/

namespace NaiaRelay

inductive Json
  | null
  | bool (b : Bool)
  | int (n : Int)
  | float (text : String)
  | str (s : String)
  | arr (items : List Json)
  | obj (fields : List (String × Json))
  deriving Repr, BEq

/-- The fields of an object, in order. -/
abbrev Obj := List (String × Json)

/-- `o.get(k)`. -/
def Obj.get (o : Obj) (k : String) : Option Json := o.lookup k

/-- `o.get(k, default)`. -/
def Obj.getD (o : Obj) (k : String) (default : Json) : Json := (Obj.get o k).getD default

/-- `s.endswith(suffix)`. -/
def endsWith (s suffix : String) : Bool := suffix.toList.isSuffixOf s.toList

lemma endsWith_append (t suffix : String) : endsWith (t ++ suffix) suffix = true := by
  rw [endsWith, String.toList_append, List.isSuffixOf_iff_suffix]
  exact List.suffix_append _ _

/-- `a or b` for an optional text. -/
def orText (a : Option String) (b : String) : String :=
  match a with
  | none => b
  | some s => if s = "" then b else s

namespace Json

/-- `bool(v)`. -/
def truthy : Json → Bool
  | null => false
  | bool b => b
  | int n => n != 0
  | float t => t != "0.0" && t != "-0.0"
  | str s => s != ""
  | arr l => !l.isEmpty
  | obj o => !o.isEmpty

/-- `v or default`. -/
def orElse (v default : Json) : Json := if v.truthy then v else default

/-- An optional text, `None` when it is missing. -/
def ofOption : Option String → Json
  | none => null
  | some s => str s

/-! ### `str` and `repr` -/

def hexDigit (n : ℕ) : Char := "0123456789abcdef".toList.getD n '0'

/-- The last `width` hexadecimal digits of `n`. -/
def hexDigits : ℕ → ℕ → String
  | 0, _ => ""
  | width + 1, n => hexDigits width (n / 16) ++ String.singleton (hexDigit (n % 16))

def escapeChar (isprintable : Char → Bool) (quote c : Char) : String :=
  if c = quote ∨ c = '\\' then "\\" ++ String.singleton c
  else if c = '\n' then "\\n"
  else if c = '\r' then "\\r"
  else if c = '\t' then "\\t"
  else if isprintable c then String.singleton c
  else if c.toNat < 0x100 then "\\x" ++ hexDigits 2 c.toNat
  else if c.toNat < 0x10000 then "\\u" ++ hexDigits 4 c.toNat
  else "\\U" ++ hexDigits 8 c.toNat

/-- `repr` of a string: double quotes only when they save escaping single ones. -/
def reprStr (isprintable : Char → Bool) (s : String) : String :=
  let quote := if s.toList.contains '\'' && !s.toList.contains '"' then '"' else '\''
  String.singleton quote ++ String.join (s.toList.map (escapeChar isprintable quote))
    ++ String.singleton quote

mutual

def repr (isprintable : Char → Bool) : Json → String
  | null => "None"
  | bool b => if b then "True" else "False"
  | int n => toString n
  | float t => t
  | str s => reprStr isprintable s
  | arr l => "[" ++ ", ".intercalate (reprItems isprintable l) ++ "]"
  | obj o => "\x7b" ++ ", ".intercalate (reprFields isprintable o) ++ "\x7d"

def reprItems (isprintable : Char → Bool) : List Json → List String
  | [] => []
  | v :: l => repr isprintable v :: reprItems isprintable l

def reprFields (isprintable : Char → Bool) : List (String × Json) → List String
  | [] => []
  | (k, v) :: o => (reprStr isprintable k ++ ": " ++ repr isprintable v) :: reprFields isprintable o

end

/-- `str(v)`. -/
def toStr (isprintable : Char → Bool) : Json → String
  | str s => s
  | v => repr isprintable v

end Json

end NaiaRelay
