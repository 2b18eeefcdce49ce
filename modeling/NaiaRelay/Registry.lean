import NaiaRelay.Errors
import NaiaRelay.Lib.OrderedDict

set_option autoImplicit false

/-!
The registry: the definitions of tools, resources and prompts, and the store that keeps
them under their names with a revision and a stale flag.

The three kinds of entry are handled alike, so the tables and the operations on them are
written once over the kind. A table is a dictionary in which every definition stands under
its own name or uri.
-/

namespace NaiaRelay.Registry

structure ToolDefinition where
  name : String
  description : String
  inputSchema : Obj
  title : Option String := none
  outputSchema : Option Obj := none
  metadata : Obj := []
  ownerSessionId : Option String := none

structure ResourceDefinition where
  uri : String
  name : String
  description : Option String := none
  mimeType : Option String := none
  metadata : Obj := []
  ownerSessionId : Option String := none

structure PromptDefinition where
  name : String
  description : String
  arguments : List Obj := []
  metadata : Obj := []
  ownerSessionId : Option String := none

inductive Kind | tool | resource | prompt
  deriving DecidableEq, Repr

namespace Kind

abbrev Definition : Kind → Type
  | tool => ToolDefinition
  | resource => ResourceDefinition
  | prompt => PromptDefinition

/-- The name or uri a definition is registered under. -/
def key : (k : Kind) → k.Definition → String
  | tool, d => d.name
  | resource, d => d.uri
  | prompt, d => d.name

/-- What a duplicate is reported as. -/
def keyNoun : Kind → String
  | tool => "tool name"
  | resource => "resource uri"
  | prompt => "prompt name"

/-- The definition without the session that registered it. -/
def eraseOwner : (k : Kind) → k.Definition → k.Definition
  | tool, d => { d with ownerSessionId := none }
  | resource, d => { d with ownerSessionId := none }
  | prompt, d => { d with ownerSessionId := none }

@[simp] lemma key_eraseOwner (k : Kind) (d : k.Definition) : k.key (k.eraseOwner d) = k.key d := by
  cases k <;> rfl

end Kind

/-- The entries of one kind, each under its own name. -/
@[ext] structure Table (k : Kind) where
  dict : OrderedDict String k.Definition
  named : ∀ name d, dict.lookup name = some d → k.key d = name

namespace Table

variable {k : Kind}

def empty : Table k := ⟨∅, by simp⟩

instance : Inhabited (Table k) := ⟨empty⟩

def get (t : Table k) (name : String) : Option k.Definition := t.dict.lookup name

/-- The definitions, in order. -/
def values (t : Table k) : List k.Definition := OrderedDict.values t.dict

/-- `table[key(d)] = d`. -/
def put (t : Table k) (d : k.Definition) : Table k where
  dict := OrderedDict.set t.dict (k.key d) d
  named := by
    intro name d' h
    rw [OrderedDict.lookup_set] at h
    by_cases hn : name = k.key d
    · rw [if_pos hn, Option.some.injEq] at h
      rw [← h, hn]
    · rw [if_neg hn] at h
      exact t.named name d' h

/-- `table.pop(name)`. -/
def pop (t : Table k) (name : String) : Table k where
  dict := OrderedDict.pop t.dict name
  named := by
    intro name' d h
    rw [OrderedDict.lookup_pop] at h
    by_cases hn : name' = name
    · simp [hn] at h
    · rw [if_neg hn] at h
      exact t.named name' d h

/-- `{key(d): d for d in ds}`. -/
def ofList (ds : List k.Definition) : Table k where
  dict := OrderedDict.ofPairs (ds.map fun d => (k.key d, d))
  named := by
    intro name d h
    obtain ⟨d', -, hd⟩ := List.mem_map.mp (OrderedDict.mem_of_lookup_ofPairs h)
    rw [Prod.mk.injEq] at hd
    rw [← hd.2, hd.1]

/-- `f` applied to every definition; it keeps their names. -/
def map (f : k.Definition → k.Definition) (hf : ∀ d, k.key (f d) = k.key d) (t : Table k) :
    Table k where
  dict := OrderedDict.mapValues f t.dict
  named := by
    intro name d h
    rw [OrderedDict.lookup_mapValues, Option.map_eq_some_iff] at h
    obtain ⟨d', hd', rfl⟩ := h
    rw [hf, t.named name d' hd']

def eraseOwner (t : Table k) : Table k := t.map k.eraseOwner k.key_eraseOwner

end Table

/-- The three tables of a registry. -/
@[ext] structure Tables where
  tools : Table .tool := .empty
  resources : Table .resource := .empty
  prompts : Table .prompt := .empty

namespace Tables

def table (t : Tables) : (k : Kind) → Table k
  | .tool => t.tools
  | .resource => t.resources
  | .prompt => t.prompts

def setTable (t : Tables) : (k : Kind) → Table k → Tables
  | .tool, x => { t with tools := x }
  | .resource, x => { t with resources := x }
  | .prompt, x => { t with prompts := x }

def eraseOwner (t : Tables) : Tables :=
  ⟨t.tools.eraseOwner, t.resources.eraseOwner, t.prompts.eraseOwner⟩

end Tables

/-- `RegistryStore`. -/
structure RegistryStore extends Tables where
  revision : ℤ := 0
  stale : Bool := false

/-- What `replace_from_snapshot` is given. -/
structure Snapshot where
  revision : ℤ
  tools : List ToolDefinition
  resources : List ResourceDefinition
  prompts : List PromptDefinition

namespace RegistryStore

/-- The store with the entries of one kind replaced. -/
def withTable (s : RegistryStore) (k : Kind) (t : Table k) : RegistryStore :=
  { s with toTables := s.toTables.setTable k t }

def bumpRevision (s : RegistryStore) : RegistryStore :=
  { s with revision := s.revision + 1, stale := false }

def markStale (s : RegistryStore) : RegistryStore := { s with stale := true }

def markFresh (s : RegistryStore) : RegistryStore := { s with stale := false }

/-- Registering refuses a name that is taken. The revision a mutation returns is used by no
caller and left out. -/
def register (k : Kind) (s : RegistryStore) (d : k.Definition) : Except Exc RegistryStore :=
  if k.key d ∈ (s.table k).dict then
    .error (.valueError ("Duplicate " ++ k.keyNoun ++ ": " ++ k.key d))
  else .ok (s.withTable k ((s.table k).put d)).bumpRevision

/-- Popping a name that is not there is a `KeyError`. -/
def deregister (k : Kind) (s : RegistryStore) (name : String) : Except Exc RegistryStore :=
  if name ∈ (s.table k).dict then .ok (s.withTable k ((s.table k).pop name)).bumpRevision
  else .error (.keyError (.str name))

def registerTool := register .tool
def deregisterTool := deregister .tool
def registerResource := register .resource
def deregisterResource := deregister .resource
def registerPrompt := register .prompt
def deregisterPrompt := deregister .prompt

def getTool (s : RegistryStore) (name : String) : Option ToolDefinition := s.tools.get name
def getResource (s : RegistryStore) (uri : String) : Option ResourceDefinition :=
  s.resources.get uri
def getPrompt (s : RegistryStore) (name : String) : Option PromptDefinition := s.prompts.get name

def snapshot (s : RegistryStore) : Snapshot :=
  ⟨s.revision, s.tools.values, s.resources.values, s.prompts.values⟩

def replaceFromSnapshot (_s : RegistryStore) (snap : Snapshot) : RegistryStore where
  tools := .ofList snap.tools
  resources := .ofList snap.resources
  prompts := .ofList snap.prompts
  revision := snap.revision
  stale := false

end RegistryStore

end NaiaRelay.Registry
