import NaiaRelay.Errors
import NaiaRelay.Lib.Validation

set_option autoImplicit false

/-!
The schema language the payload models are declared in: types, required and defaulted
fields, before-validators and `extra="forbid"`.

A model reports the errors of its fields in the order they are declared and then its extra
keys. Values that already have the declared type pass unchanged.
-/

namespace NaiaRelay.Pydantic

variable {α : Type} (P : Platform)

abbrev Checked (α : Type) := Validation ErrorDetails α

def fail (type msg : String) (input : Json) : Checked α := .errors [⟨[], msg, type, input⟩]

/-- The errors of a part, placed under it. -/
def within (part : Json) (x : Checked α) : Checked α :=
  x.mapErrors fun e => { e with loc := part :: e.loc }

/-! ### Types -/

def str : Json → Checked String
  | .str s => .ok s
  | v => fail "string_type" "Input should be a valid string" v

def int : Json → Checked ℤ
  | .int n => .ok n
  | v =>
    match P.laxInt v with
    | .ok n => .ok n
    | .error e => fail e.1 e.2 v

def bool : Json → Checked Bool
  | .bool b => .ok b
  | v =>
    match P.laxBool v with
    | .ok b => .ok b
    | .error e => fail e.1 e.2 v

/-- `dict[str, Any]`. -/
def dict : Json → Checked Obj
  | .obj o => .ok o
  | v => fail "dict_type" "Input should be a valid dictionary" v

/-- `dict[str, T]`. -/
def dictOf (check : Json → Checked α) (v : Json) : Checked (List (String × α)) :=
  (dict v).andThen fun o => .all (o.map fun p => (p.1, ·) <$> within (.str p.1) (check p.2))

/-- `list[Any]`. -/
def anyList : Json → Checked (List Json)
  | .arr l => .ok l
  | v => fail "list_type" "Input should be a valid list" v

/-- `list[T]`. -/
def list (check : Json → Checked α) (v : Json) : Checked (List α) :=
  (anyList v).andThen fun l => .all (l.zipIdx.map fun p => within (.int p.2) (check p.1))

/-- `T | None`. -/
def nullable (check : Json → Checked α) : Json → Checked (Option α)
  | .null => .ok none
  | v => some <$> check v

/-- `Literal[a, b]`. -/
def literal (a b : String) : Json → Checked String
  | .str s =>
    if s = a ∨ s = b then .ok s
    else fail "literal_error" ("Input should be '" ++ a ++ "' or '" ++ b ++ "'") (.str s)
  | v => fail "literal_error" ("Input should be '" ++ a ++ "' or '" ++ b ++ "'") v

/-- `None`. -/
def noneType : Json → Checked Unit
  | .null => .ok ()
  | v => fail "none_required" "Input should be None" v

/-- The texts a literal may be, as an error names them. -/
def alternatives : List String → String
  | [] => ""
  | [a] => "'" ++ a ++ "'"
  | [a, b] => "'" ++ a ++ "' or '" ++ b ++ "'"
  | a :: l => "'" ++ a ++ "', " ++ alternatives l

/-- A literal, as what each of its texts stands for. -/
def oneOf (options : List (String × α)) (v : Json) : Checked α :=
  let refused := fail "literal_error" ("Input should be " ++ alternatives (options.map Prod.fst)) v
  match v with
  | .str s =>
    match options.lookup s with
    | some a => .ok a
    | none => refused
  | _ => refused

/-- `Field(ge=lo)` on an integer. -/
def atLeast (lo : ℤ) (v : Json) : Checked {n : ℤ // lo ≤ n} :=
  (int P v).andThen fun n =>
    if h : lo ≤ n then .ok ⟨n, h⟩
    else fail "greater_than_equal" ("Input should be greater than or equal to " ++ toString lo) v

/-- `Field(ge=lo, le=hi)` on an integer, which keeps the bounds. -/
def inRange (lo hi : ℤ) (v : Json) : Checked {n : ℤ // lo ≤ n ∧ n ≤ hi} :=
  (int P v).andThen fun n =>
    if h : lo ≤ n ∧ n ≤ hi then .ok ⟨n, h⟩
    else if n < lo then
      fail "greater_than_equal" ("Input should be greater than or equal to " ++ toString lo) v
    else fail "less_than_equal" ("Input should be less than or equal to " ++ toString hi) v

/-- `Field(ge=lo, le=hi)` on an integer. -/
def between (lo hi : ℤ) (v : Json) (n : ℤ) : Checked ℤ :=
  if n < lo then
    fail "greater_than_equal" ("Input should be greater than or equal to " ++ toString lo) v
  else if hi < n then
    fail "less_than_equal" ("Input should be less than or equal to " ++ toString hi) v
  else .ok n

/-- `str | int | None`: a text or an integer as it is, anything else if it converts to an
integer. -/
def strOrInt : Json → Checked Json
  | .null => .ok .null
  | .str s => .ok (.str s)
  | .int n => .ok (.int n)
  | v =>
    match P.laxInt v with
    | .ok n => .ok (.int n)
    | .error e => .errors [⟨[.str "str"], "Input should be a valid string", "string_type", v⟩,
        ⟨[.str "int"], e.2, e.1, v⟩]

/-! ### Fields and models -/

def required (o : Obj) (name : String) (check : Json → Checked α) : Checked α :=
  match Obj.get o name with
  | none => .errors [⟨[.str name], "Field required", "missing", .obj o⟩]
  | some v => within (.str name) (check v)

def optional (o : Obj) (name : String) (default : α) (check : Json → Checked α) : Checked α :=
  match Obj.get o name with
  | none => .ok default
  | some v => within (.str name) (check v)

/-- The errors of the keys that name no field. -/
def extraForbidden (o : Obj) (fields : List String) : Checked Unit :=
  let extra := o.filter fun p => !fields.contains p.1
  if extra.isEmpty then .ok ()
  else .errors (extra.map fun p =>
    ⟨[.str p.1], "Extra inputs are not permitted", "extra_forbidden", p.2⟩)

def model (cls : String) (fields : List String) (body : Obj → Checked α) : Json → Checked α
  | .obj o => body o <* extraForbidden o fields
  | v => fail "model_type" ("Input should be a valid dictionary or instance of " ++ cls) v

/-- `@model_validator(mode="after")`, on a model whose fields have passed: it changes the model,
or raises a `ValueError`. -/
def after {β : Type} (validator : α → Except String β) (v : Json) (x : Checked α) : Checked β :=
  x.andThen fun a =>
    match validator a with
    | .ok b => .ok b
    | .error message => fail "value_error" ("Value error, " ++ message) v

/-- `cls.model_validate(v)`: the errors found are raised. -/
def modelValidate (cls : String) (x : Checked α) : Except Exc α :=
  match x with
  | .ok a => .ok a
  | .errors es => .error (.validationError cls es)

/-! ### What passes -/

@[simp] lemma within_ok (part : Json) (a : α) : within part (.ok a) = .ok a := rfl

@[simp] lemma within_eq_ok {part : Json} {x : Checked α} {a : α} :
    within part x = .ok a ↔ x = .ok a := Validation.mapErrors_eq_ok

@[simp] lemma anyList_arr (l : List Json) : anyList (.arr l) = .ok l := rfl
@[simp] lemma nullable_null (check : Json → Checked α) : nullable check .null = .ok none := rfl

@[simp] lemma str_eq_ok {v : Json} {s : String} : str v = .ok s ↔ v = .str s := by
  cases v <;> simp [str, fail]

lemma nullable_str_eq_some {v : Json} {s : String} :
    nullable str v = .ok (some s) ↔ v = .str s := by
  cases v <;> simp [nullable, Validation.map_eq_ok]

lemma dict_eq_ok {v : Json} {o : Obj} : dict v = .ok o ↔ v = .obj o := by
  cases v <;> simp [dict, fail]

lemma required_eq_ok {o : Obj} {name : String} {check : Json → Checked α} {a : α} :
    required o name check = .ok a ↔ ∃ v, Obj.get o name = some v ∧ check v = .ok a := by
  unfold required
  split
  · rename_i h
    simp [h]
  · rename_i v h
    simp [h]

lemma optional_eq_ok {o : Obj} {name : String} {default : α} {check : Json → Checked α} {a : α} :
    optional o name default check = .ok a ↔
      (Obj.get o name = none ∧ default = a) ∨ ∃ v, Obj.get o name = some v ∧ check v = .ok a := by
  unfold optional
  split
  · rename_i h
    simp [h]
  · rename_i v h
    simp [h]

lemma model_obj_eq_ok {cls : String} {fields : List String} {body : Obj → Checked α} {o : Obj}
    {a : α} : model cls fields body (.obj o) = .ok a ↔
      body o = .ok a ∧ ∃ u, extraForbidden o fields = .ok u := Validation.seqLeft_eq_ok

@[simp] lemma modelValidate_ok (cls : String) (a : α) :
    modelValidate cls (.ok a : Checked α) = .ok a := rfl

@[simp] lemma modelValidate_eq_ok {cls : String} {x : Checked α} {a : α} :
    modelValidate cls x = .ok a ↔ x = .ok a := by
  cases x <;> simp [modelValidate]

lemma modelValidate_error {cls : String} {x : Checked α} {e : Exc}
    (h : modelValidate cls x = .error e) : e.isValueError = true := by
  cases x with
  | ok a => simp [modelValidate] at h
  | errors es =>
    simp only [modelValidate, Except.error.injEq] at h
    rw [← h]; rfl

@[simp] lemma atLeast_int {lo : ℤ} (n : {n : ℤ // lo ≤ n}) : atLeast P lo (.int n) = .ok n := by
  simp [atLeast, int, n.2]

@[simp] lemma inRange_int {lo hi : ℤ} (n : {n : ℤ // lo ≤ n ∧ n ≤ hi}) :
    inRange P lo hi (.int n) = .ok n := by
  simp [inRange, int, n.2]

@[simp] lemma after_ok {β : Type} (validator : α → Except String β) (v : Json) {a : α} {b : β} :
    after validator v (.ok a) = .ok b ↔ validator a = .ok b := by
  rw [after, Validation.andThen_ok]
  cases validator a <;> simp [fail]

lemma after_eq_ok {β : Type} {validator : α → Except String β} {v : Json} {x : Checked α} {b : β} :
    after validator v x = .ok b ↔ ∃ a, x = .ok a ∧ validator a = .ok b := by
  cases x with
  | ok a => simp
  | errors es => simp [after, Validation.andThen]

lemma list_map {β : Type} {l : List β} {encode : β → Json} {check : Json → Checked α} {g : β → α}
    (h : ∀ b ∈ l, check (encode b) = .ok (g b)) :
    list check (.arr (l.map encode)) = .ok (l.map g) := by
  have hz : ∀ p ∈ l.zipIdx, within (.int p.2) (check (encode p.1)) = .ok (g p.1) := by
    intro p hp
    rw [h p.1 (List.fst_mem_of_mem_zipIdx hp), within_ok]
  have hall := Validation.all_map_ok hz
  have hg : l.zipIdx.map (fun p => g p.1) = l.map g := by
    calc l.zipIdx.map (fun p => g p.1) = (l.zipIdx.map Prod.fst).map g := by
          rw [List.map_map]; rfl
      _ = l.map g := by rw [List.zipIdx_map_fst]
  rw [hg] at hall
  simpa [list, List.zipIdx_map, Function.comp_def] using hall

end NaiaRelay.Pydantic
