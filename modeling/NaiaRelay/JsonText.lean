import Mathlib.Algebra.BigOperators.Group.List.Basic
import Mathlib.Data.List.GetD
import Mathlib.Data.List.Sort
import Mathlib.Tactic.IntervalCases
import NaiaRelay.Errors
import NaiaRelay.Lib.Text

set_option autoImplicit false

/-!
The text the relay writes for a value: without spaces, the keys of an object in order, and in
ASCII. How long it is does not depend on the order.
-/

namespace NaiaRelay.Json

open Text

/-- The escape of a character that is not printable ASCII; one outside the basic plane is
written as its two surrogates. -/
def unicodeEscape (c : Char) : String :=
  let n := c.toNat
  if n < 0x10000 then "\\u" ++ hexDigits 4 n
  else "\\u" ++ hexDigits 4 (0xd800 + (n - 0x10000) / 0x400)
    ++ "\\u" ++ hexDigits 4 (0xdc00 + (n - 0x10000) % 0x400)

def dumpsChar (c : Char) : String :=
  if c = '"' then "\\\""
  else if c = '\\' then "\\\\"
  else if 0x20 ≤ c.toNat ∧ c.toNat ≤ 0x7e then String.singleton c
  else if c = '\n' then "\\n"
  else if c = '\r' then "\\r"
  else if c = '\t' then "\\t"
  else if c.toNat = 0x0c then "\\f"
  else if c.toNat = 0x08 then "\\b"
  else unicodeEscape c

/-- `json.dumps(s)` of a text. -/
def dumpsStr (s : String) : String :=
  "\"" ++ String.ofList (s.toList.flatMap fun c => (dumpsChar c).toList) ++ "\""

/-- `int.__repr__`. -/
def dumpsInt (n : ℤ) : Except Exc String :=
  match decimal n.natAbs with
  | none => .error .tooManyDigits
  | some _ => .ok (toString n)

/-- A float as Python prints it, but for those that are no numbers. -/
def dumpsFloat (text : String) : String :=
  if text = "nan" then "NaN"
  else if text = "inf" then "Infinity"
  else if text = "-inf" then "-Infinity"
  else text

def dumpsField (field : String × String) : String := dumpsStr field.1 ++ ":" ++ field.2

mutual

/-- `json.dumps(v, separators=(",", ":"), sort_keys=True)`. -/
def dumps : Json → Except Exc String
  | null => .ok "null"
  | bool b => .ok (if b then "true" else "false")
  | int n => dumpsInt n
  | float text => .ok (dumpsFloat text)
  | str s => .ok (dumpsStr s)
  | arr l => (dumpsItems l).map fun items => "[" ++ ",".intercalate items ++ "]"
  | obj o => (dumpsFields o).map fun fields =>
    "\x7b" ++ ",".intercalate ((fields.insertionSort fun f g => f.1 ≤ g.1).map dumpsField)
      ++ "\x7d"

def dumpsItems : List Json → Except Exc (List String)
  | [] => .ok []
  | v :: l => (dumps v).bind fun text => (dumpsItems l).map (text :: ·)

/-- The fields with the texts of their values, in the order of the object. -/
def dumpsFields : List (String × Json) → Except Exc (List (String × String))
  | [] => .ok []
  | (k, v) :: o => (dumps v).bind fun text => (dumpsFields o).map ((k, text) :: ·)

end

/-! ### Bytes -/

/-- How many bytes a text takes. -/
def bytes (s : String) : ℕ := (encodeUtf8 s).length

@[simp] lemma bytes_append (s t : String) : bytes (s ++ t) = bytes s + bytes t := by
  rw [bytes, encodeUtf8, String.toList_append, List.flatMap_append, List.length_append]
  rfl

lemma bytes_intercalate {l : List String} :
    bytes (",".intercalate l) = (l.map bytes).sum + (l.length - 1) := by
  induction l with
  | nil => rw [String.intercalate_nil]; rfl
  | cons s l ih =>
    cases l with
    | nil => simp
    | cons t l =>
      have hcomma : bytes "," = 1 := rfl
      rw [String.intercalate_cons_cons, bytes_append, bytes_append, ih, hcomma]
      simp
      omega

/-- The size of what is written between brackets, of the sizes of its parts. -/
def enclosed (sizes : List ℕ) : ℕ := sizes.sum + (sizes.length - 1) + 2

mutual

/-- The size of the text of a value. -/
def textSize : Json → ℕ
  | null => 4
  | bool b => if b then 4 else 5
  | int n => bytes (toString n)
  | float text => bytes (dumpsFloat text)
  | str s => bytes (dumpsStr s)
  | arr l => enclosed (itemSizes l)
  | obj o => enclosed (fieldSizes o)

def itemSizes : List Json → List ℕ
  | [] => []
  | v :: l => textSize v :: itemSizes l

def fieldSizes : List (String × Json) → List ℕ
  | [] => []
  | (k, v) :: o => (bytes (dumpsStr k) + 1 + textSize v) :: fieldSizes o

end

lemma bytes_dumpsField (k text : String) :
    bytes (dumpsField (k, text)) = bytes (dumpsStr k) + 1 + bytes text := by
  rw [dumpsField, bytes_append, bytes_append]
  rfl

lemma dumpsInt_eq_ok {n : ℤ} {text : String} (h : dumpsInt n = .ok text) : text = toString n := by
  unfold dumpsInt at h
  split at h
  · cases h
  · exact (Except.ok.inj h).symm

lemma map_eq_ok {ε α β : Type} {x : Except ε α} {f : α → β} {b : β} (h : x.map f = .ok b) :
    ∃ a, x = .ok a ∧ f a = b := by
  cases x with
  | error e => cases h
  | ok a => exact ⟨a, rfl, Except.ok.inj h⟩

lemma bytes_enclosed (l r : String) (hl : bytes l = 1) (hr : bytes r = 1) (items : List String) :
    bytes (l ++ ",".intercalate items ++ r) = enclosed (items.map bytes) := by
  rw [bytes_append, bytes_append, bytes_intercalate, hl, hr, enclosed, List.length_map]
  omega

lemma enclosed_perm {sizes sizes' : List ℕ} (h : sizes.Perm sizes') :
    enclosed sizes = enclosed sizes' := by
  rw [enclosed, enclosed, h.sum_eq, h.length_eq]

mutual

theorem bytes_of_dumps (v : Json) (text : String) (h : dumps v = .ok text) :
    bytes text = textSize v := by
  match v with
  | null => rw [dumps] at h; cases h; rfl
  | bool b => rw [dumps] at h; cases h; cases b <;> rfl
  | int n => rw [dumps] at h; rw [dumpsInt_eq_ok h, textSize]
  | float t => rw [dumps] at h; cases h; rw [textSize]
  | str s => rw [dumps] at h; cases h; rw [textSize]
  | arr l =>
    rw [dumps] at h
    obtain ⟨items, hitems, rfl⟩ := map_eq_ok h
    rw [bytes_enclosed _ _ rfl rfl, bytes_of_dumpsItems l items hitems, textSize]
  | obj o =>
    rw [dumps] at h
    obtain ⟨fields, hfields, rfl⟩ := map_eq_ok h
    rw [bytes_enclosed _ _ rfl rfl, textSize, ← bytes_of_dumpsFields o fields hfields]
    exact enclosed_perm (((List.perm_insertionSort _ _).map _).map _)

theorem bytes_of_dumpsItems (l : List Json) (items : List String) (h : dumpsItems l = .ok items) :
    items.map bytes = itemSizes l := by
  match l with
  | [] => rw [dumpsItems] at h; cases h; rfl
  | v :: l =>
    rw [dumpsItems] at h
    cases hv : dumps v with
    | error e => rw [hv] at h; cases h
    | ok text =>
      rw [hv] at h
      obtain ⟨items, hitems, rfl⟩ := map_eq_ok h
      rw [List.map_cons, bytes_of_dumps v text hv, bytes_of_dumpsItems l items hitems, itemSizes]

theorem bytes_of_dumpsFields (o : List (String × Json)) (fields : List (String × String))
    (h : dumpsFields o = .ok fields) : (fields.map dumpsField).map bytes = fieldSizes o := by
  match o with
  | [] => rw [dumpsFields] at h; cases h; rfl
  | (k, v) :: o =>
    rw [dumpsFields] at h
    cases hv : dumps v with
    | error e => rw [hv] at h; cases h
    | ok text =>
      rw [hv] at h
      obtain ⟨fields, hfields, rfl⟩ := map_eq_ok h
      rw [List.map_cons, List.map_cons, bytes_dumpsField, bytes_of_dumps v text hv,
        bytes_of_dumpsFields o fields hfields, fieldSizes]

end

/-! ### Characters -/

/-- A space, or a character that shows in ASCII. -/
def IsPrintable (c : Char) : Prop := 0x20 ≤ c.toNat ∧ c.toNat ≤ 0x7e

instance (c : Char) : Decidable (IsPrintable c) :=
  inferInstanceAs (Decidable (0x20 ≤ c.toNat ∧ c.toNat ≤ 0x7e))

def AllPrintable (s : String) : Prop := ∀ c ∈ s.toList, IsPrintable c

mutual

/-- The floats in a value are texts that Python prints for one, as far as their characters go. -/
def FloatsPrintable : Json → Prop
  | float text => AllPrintable text
  | arr l => ItemFloatsPrintable l
  | obj o => FieldFloatsPrintable o
  | _ => True

def ItemFloatsPrintable : List Json → Prop
  | [] => True
  | v :: l => FloatsPrintable v ∧ ItemFloatsPrintable l

def FieldFloatsPrintable : List (String × Json) → Prop
  | [] => True
  | (_, v) :: o => FloatsPrintable v ∧ FieldFloatsPrintable o

end

lemma AllPrintable.append {s t : String} (hs : AllPrintable s) (ht : AllPrintable t) :
    AllPrintable (s ++ t) := by
  intro c hc
  rw [String.toList_append, List.mem_append] at hc
  exact hc.elim (hs c) (ht c)

lemma allPrintable_of_all {s : String} (h : (s.toList.all fun c => decide (IsPrintable c)) = true) :
    AllPrintable s := fun c hc => of_decide_eq_true (List.all_eq_true.mp h c hc)

lemma allPrintable_intercalate {l : List String} (h : ∀ s ∈ l, AllPrintable s) :
    AllPrintable (",".intercalate l) := by
  induction l with
  | nil =>
    rw [String.intercalate_nil]
    exact fun c hc => nomatch hc
  | cons s l ih =>
    cases l with
    | nil =>
      rw [String.intercalate_singleton]
      exact h s (by simp)
    | cons t l =>
      rw [String.intercalate_cons_cons]
      exact ((h s (by simp)).append (allPrintable_of_all (by decide))).append
        (ih fun r hr => h r (List.mem_cons_of_mem _ hr))

lemma isPrintable_hexDigit (n : ℕ) : IsPrintable (hexDigit n) := by
  by_cases hn : n < 16
  · interval_cases n <;> decide
  · rw [hexDigit, List.getD_eq_default _ _ (by simpa using hn)]
    decide

lemma allPrintable_singleton {c : Char} (h : IsPrintable c) :
    AllPrintable (String.singleton c) := by
  intro d hd
  rw [String.toList_singleton, List.mem_singleton] at hd
  rwa [hd]

lemma allPrintable_hexDigits (width n : ℕ) : AllPrintable (hexDigits width n) := by
  induction width generalizing n with
  | zero => exact fun c hc => nomatch hc
  | succ width ih => exact (ih _).append (allPrintable_singleton (isPrintable_hexDigit _))

lemma allPrintable_unicodeEscape (c : Char) : AllPrintable (unicodeEscape c) := by
  have hu : AllPrintable "\\u" := allPrintable_of_all (by decide)
  unfold unicodeEscape
  dsimp only
  split
  · exact hu.append (allPrintable_hexDigits _ _)
  · exact ((hu.append (allPrintable_hexDigits _ _)).append hu).append (allPrintable_hexDigits _ _)

lemma allPrintable_dumpsChar (c : Char) : AllPrintable (dumpsChar c) := by
  unfold dumpsChar
  split_ifs with _ _ hc
  · exact allPrintable_of_all (by decide)
  · exact allPrintable_of_all (by decide)
  · exact allPrintable_singleton hc
  · exact allPrintable_of_all (by decide)
  · exact allPrintable_of_all (by decide)
  · exact allPrintable_of_all (by decide)
  · exact allPrintable_of_all (by decide)
  · exact allPrintable_of_all (by decide)
  · exact allPrintable_unicodeEscape c

lemma allPrintable_dumpsStr (s : String) : AllPrintable (dumpsStr s) := by
  have hquote : AllPrintable "\"" := allPrintable_of_all (by decide)
  refine (hquote.append fun c hc => ?_).append hquote
  rw [String.toList_ofList, List.mem_flatMap] at hc
  obtain ⟨d, -, hc⟩ := hc
  exact allPrintable_dumpsChar d c hc

lemma allPrintable_repr (n : ℕ) : AllPrintable n.repr := by
  intro c hc
  rw [Nat.toList_repr] at hc
  obtain ⟨hlow, hhigh⟩ := toNat_of_isDigit (isDigit_of_mem_decimal hc)
  exact ⟨by omega, by omega⟩

lemma allPrintable_toString (n : ℤ) : AllPrintable (toString n) := by
  show AllPrintable n.repr
  rw [Int.repr_eq_if]
  split
  · exact allPrintable_repr _
  · exact (allPrintable_of_all (by decide)).append (allPrintable_repr _)

lemma allPrintable_dumpsFloat {text : String} (h : AllPrintable text) :
    AllPrintable (dumpsFloat text) := by
  unfold dumpsFloat
  split_ifs
  · exact allPrintable_of_all (by decide)
  · exact allPrintable_of_all (by decide)
  · exact allPrintable_of_all (by decide)
  · exact h

lemma allPrintable_enclosed {l r : String} (hl : AllPrintable l) (hr : AllPrintable r)
    {items : List String} (h : ∀ s ∈ items, AllPrintable s) :
    AllPrintable (l ++ ",".intercalate items ++ r) :=
  (hl.append (allPrintable_intercalate h)).append hr

mutual

theorem allPrintable_dumps (v : Json) (hv : FloatsPrintable v) (text : String)
    (h : dumps v = .ok text) : AllPrintable text := by
  match v with
  | null => rw [dumps] at h; cases h; exact allPrintable_of_all (by decide)
  | bool b => rw [dumps] at h; cases h; cases b <;> exact allPrintable_of_all (by decide)
  | int n => rw [dumps] at h; rw [dumpsInt_eq_ok h]; exact allPrintable_toString n
  | float t =>
    rw [dumps] at h
    rw [FloatsPrintable] at hv
    cases h
    exact allPrintable_dumpsFloat hv
  | str s => rw [dumps] at h; cases h; exact allPrintable_dumpsStr s
  | arr l =>
    rw [dumps] at h
    obtain ⟨items, hitems, rfl⟩ := map_eq_ok h
    rw [FloatsPrintable] at hv
    exact allPrintable_enclosed (allPrintable_of_all (by decide)) (allPrintable_of_all (by decide))
      (allPrintable_dumpsItems l hv items hitems)
  | obj o =>
    rw [dumps] at h
    obtain ⟨fields, hfields, rfl⟩ := map_eq_ok h
    rw [FloatsPrintable] at hv
    refine allPrintable_enclosed (allPrintable_of_all (by decide))
      (allPrintable_of_all (by decide)) fun s hs => ?_
    obtain ⟨f, hf, rfl⟩ := List.mem_map.mp hs
    have hmem := (List.perm_insertionSort _ _).mem_iff.mp hf
    exact ((allPrintable_dumpsStr f.1).append (allPrintable_of_all (by decide))).append
      (allPrintable_dumpsFields o hv fields hfields f hmem)

theorem allPrintable_dumpsItems (l : List Json) (hl : ItemFloatsPrintable l) (items : List String)
    (h : dumpsItems l = .ok items) : ∀ s ∈ items, AllPrintable s := by
  match l with
  | [] => rw [dumpsItems] at h; cases h; exact fun s hs => nomatch hs
  | v :: l =>
    rw [dumpsItems] at h
    rw [ItemFloatsPrintable] at hl
    cases hv : dumps v with
    | error e => rw [hv] at h; cases h
    | ok text =>
      rw [hv] at h
      obtain ⟨items, hitems, rfl⟩ := map_eq_ok h
      exact List.forall_mem_cons.mpr ⟨allPrintable_dumps v hl.1 text hv,
        allPrintable_dumpsItems l hl.2 items hitems⟩

theorem allPrintable_dumpsFields (o : List (String × Json)) (ho : FieldFloatsPrintable o)
    (fields : List (String × String)) (h : dumpsFields o = .ok fields) :
    ∀ f ∈ fields, AllPrintable f.2 := by
  match o with
  | [] => rw [dumpsFields] at h; cases h; exact fun s hs => nomatch hs
  | (k, v) :: o =>
    rw [dumpsFields] at h
    rw [FieldFloatsPrintable] at ho
    cases hv : dumps v with
    | error e => rw [hv] at h; cases h
    | ok text =>
      rw [hv] at h
      obtain ⟨fields, hfields, rfl⟩ := map_eq_ok h
      exact List.forall_mem_cons.mpr ⟨allPrintable_dumps v ho.1 text hv,
        allPrintable_dumpsFields o ho.2 fields hfields⟩

end

/-- The keys are in order, and a letter outside ASCII is escaped. -/
example : dumps (.obj [("b", .arr [.int (-1), .null]), ("a", .str "é\n")])
    = .ok "\x7b\"a\":\"\\u00e9\\n\",\"b\":[-1,null]\x7d" := by rfl

end NaiaRelay.Json
