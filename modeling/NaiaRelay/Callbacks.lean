import NaiaRelay.Runtime

set_option autoImplicit false

/-!
What the callbacks of the two runtimes with a client share: the check that an entry is there,
and the answer they make up themselves.
-/

namespace NaiaRelay.Runtime

open NaiaRelay.Registry NaiaRelay.Mcp

variable (P : Platform)

/-- The kind of entry a callback is about, and the name it asks for. -/
def callbackTarget : Callback → Kind × Json
  | .executeTool name _ => (.tool, name)
  | .readResource uri _ => (.resource, uri)
  | .getPrompt name _ => (.prompt, name)

/-- `registry.get_*(name)` for a name that may be any JSON value: a list or an object has no
hash, and nothing but a text is a key. -/
def getEntry (registry : RegistryStore) (k : Kind) : Json → Except Exc (Option k.Definition)
  | .str name => .ok ((registry.table k).get name)
  | .arr _ => .error (.typeError "unhashable type: 'list'")
  | .obj _ => .error (.typeError "unhashable type: 'dict'")
  | _ => .ok none

/-- The error for an entry that is not there. -/
def unknownEntry (k : Kind) (name : Json) : Exc :=
  match k with
  | .tool => .protocol ("Unknown tool: " ++ pyStr P name) "unknown_tool"
      (.obj [("tool_name", name)])
  | .resource => .protocol ("Unknown resource: " ++ pyStr P name) "unknown_resource"
      (.obj [("uri", name)])
  | .prompt => .protocol ("Unknown prompt: " ++ pyStr P name) "unknown_prompt"
      (.obj [("name", name)])

/-- The entry a callback asks for must be there. -/
def requireEntry (registry : RegistryStore) (k : Kind) (name : Json) : Except Exc Unit := do
  match ← getEntry registry k name with
  | some _ => return
  | none => throw (unknownEntry P k name)

/-- The answer without anyone to ask. -/
def localAnswer : Callback → Json
  | .executeTool name arguments => .obj [("content", .arr [.obj [("type", .str "text"),
      ("text", .str (pyStr P name ++ ":" ++ pyStr P arguments))]])]
  | .readResource uri arguments => .arr [.obj [("uri", uri), ("arguments", arguments)]]
  | .getPrompt name arguments => .arr [.obj [("role", .str "user"),
      ("content", .obj [("name", name), ("arguments", arguments)])]]

/-- The handler of a runtime with all its callbacks. -/
def runtimeCallbacks : MCPRecords := { executeTool := true, readResource := true, getPrompt := true }

end NaiaRelay.Runtime
