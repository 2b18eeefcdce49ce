import NaiaRelay.Json

set_option autoImplicit false

/-!
The exceptions the relay raises and meets, with the class name and the text it reads off
them, and what it takes from the libraries it stands on.
-/

namespace NaiaRelay

/-- One entry of `ValidationError.errors()`. -/
structure ErrorDetails where
  loc : List Json
  msg : String
  type : String
  input : Json
  deriving Repr

/-- An exception. `other` is one of a class the relay never names; such a class is no
subclass of `ValueError`. -/
inductive Exc
  | validationError (title : String) (errors : List ErrorDetails)
  | valueError (message : String)
  | keyError (key : Json)
  | typeError (message : String)
  | attributeError (message : String)
  | runtimeError (message : String)
  | transportError (message : String)
  | protocolError (message code : String) (data : Json)
  | other (className message : String)
  deriving Repr

/-- What is used of Python's Unicode tables and of pydantic beyond the schema language:
its lax conversions of values that are not already of the declared type, which answer with
the error's type and message when they fail, and the text of a `ValidationError`. -/
structure Platform where
  isprintable : Char → Bool
  laxInt : Json → Except (String × String) ℤ
  laxBool : Json → Except (String × String) Bool
  validationErrorText : String → List ErrorDetails → String

/-- Strict conversions on ASCII text. -/
def Platform.strict : Platform where
  isprintable c := 0x20 ≤ c.toNat && c.toNat < 0x7f
  laxInt _ := .error ("int_type", "Input should be a valid integer")
  laxBool _ := .error ("bool_type", "Input should be a valid boolean")
  validationErrorText title errors :=
    toString errors.length ++ " validation errors for " ++ title

variable (P : Platform)

/-- `str(v)`. -/
def pyStr (v : Json) : String := v.toStr P.isprintable

namespace Exc

/-- `ProtocolError(message, code=code, data=data)`, which keeps `data or {}`. -/
def protocol (message code : String) (data : Json) : Exc :=
  protocolError message code (data.orElse (.obj []))

/-- What printing an integer of too many digits raises. -/
def tooManyDigits : Exc :=
  valueError ("Exceeds the limit (4300 digits) for integer string conversion; "
    ++ "use sys.set_int_max_str_digits() to increase the limit")

/-- `type(exc).__name__`. -/
def className : Exc → String
  | validationError _ _ => "ValidationError"
  | valueError _ => "ValueError"
  | keyError _ => "KeyError"
  | typeError _ => "TypeError"
  | attributeError _ => "AttributeError"
  | runtimeError _ => "RuntimeError"
  | transportError _ => "TransportError"
  | protocolError _ _ _ => "ProtocolError"
  | other c _ => c

/-- `str(exc)`. -/
def text : Exc → String
  | validationError t es => P.validationErrorText t es
  | valueError m => m
  | keyError k => k.repr P.isprintable
  | typeError m => m
  | attributeError m => m
  | runtimeError m => m
  | transportError m => m
  | protocolError m _ _ => m
  | other _ m => m

/-- `isinstance(exc, (ValidationError, ValueError))`. -/
def isValueError : Exc → Bool
  | validationError _ _ => true
  | valueError _ => true
  | _ => false

end Exc

/-! ### What Python does with a JSON value that should be an object -/

def typeName : Json → String
  | .null => "NoneType"
  | .bool _ => "bool"
  | .int _ => "int"
  | .float _ => "float"
  | .str _ => "str"
  | .arr _ => "list"
  | .obj _ => "dict"

/-- `v[key]`. -/
def item (v : Json) (key : String) : Except Exc Json :=
  match v with
  | .obj o =>
    match Obj.get o key with
    | some value => .ok value
    | none => .error (.keyError (.str key))
  | .arr _ => .error (.typeError "list indices must be integers or slices, not str")
  | .str _ => .error (.typeError "string indices must be integers, not 'str'")
  | v => .error (.typeError ("'" ++ typeName v ++ "' object is not subscriptable"))

/-- `v.get(key, default)`. -/
def getAttr (v : Json) (key : String) (default : Json) : Except Exc Json :=
  match v with
  | .obj o => .ok (Obj.getD o key default)
  | v => .error (.attributeError ("'" ++ typeName v ++ "' object has no attribute 'get'"))

def wrongLength (i n : ℕ) : Exc :=
  .valueError ("dictionary update sequence element #" ++ toString i ++ " has length "
    ++ toString n ++ "; 2 is required")

/-- The key and value an element of a sequence given to `dict` stands for: any sequence of
length two will do, a text or an object included. -/
def dictElement (i : ℕ) : Json → Except Exc (Json × Json)
  | .arr [.arr _, _] => .error (.typeError "unhashable type: 'list'")
  | .arr [.obj _, _] => .error (.typeError "unhashable type: 'dict'")
  | .arr [k, v] => .ok (k, v)
  | .arr l => .error (wrongLength i l.length)
  | .str s =>
    match s.toList with
    | [a, b] => .ok (.str (String.singleton a), .str (String.singleton b))
    | l => .error (wrongLength i l.length)
  | .obj [(k, _), (v, _)] => .ok (.str k, .str v)
  | .obj o => .error (wrongLength i o.length)
  | _ => .error (.typeError ("cannot convert dictionary update sequence element #" ++ toString i
      ++ " to a sequence"))

/-- `o[k] = v`. -/
def assign (o : Obj) (k : String) (v : Json) : Obj :=
  if (o.map Prod.fst).contains k then o.map fun p => if p.1 = k then (k, v) else p
  else o ++ [(k, v)]

/-- `o.setdefault(k, v)`. -/
def setDefault (o : Obj) (k : String) (v : Json) : Obj :=
  if (o.map Prod.fst).contains k then o else o ++ [(k, v)]

/-- The object of a sequence of keys and values. A key that is no text makes no JSON object;
the payload model the dictionary is handed to refuses it. -/
def ofElements (l : List (Json × Json)) : Except Exc Obj :=
  let bad := l.filterMap fun p =>
    match p.1 with
    | .str _ => none
    | k => some ⟨[.str "details", k, .str "[key]"], "Input should be a valid string",
        "string_type", k⟩
  if bad.isEmpty then
    .ok (l.foldl (fun o p => match p.1 with
      | .str k => assign o k p.2
      | _ => o) [])
  else .error (.validationError "StatusPayload" bad)

/-- `dict(v)`. -/
def toDict : Json → Except Exc Obj
  | .obj o => .ok o
  | .arr l => do ofElements (← l.zipIdx.mapM fun p => dictElement p.2 p.1)
  | .str s =>
    if s = "" then .ok [] else .error (wrongLength 0 1)
  | v => .error (.typeError ("'" ++ typeName v ++ "' object is not iterable"))

end NaiaRelay
