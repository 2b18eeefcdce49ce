import Mathlib.Data.List.DropRight
import NaiaRelay.HeldEntries
import NaiaRelay.JsonAccepted
import NaiaRelay.JsonIndent
import NaiaRelay.Lib.Aside

set_option autoImplicit false

/-!
The readiness file: where it is, what it says, and how it is written.
-/

namespace NaiaRelay.Runtime

/-! ### Paths -/

/-- A path: where it is, and its last part, which `.` and the root do not have. -/
@[ext]
structure FilePath where
  parent : String
  name : String
  noSlash : '/' ∉ name.toList
  deriving DecidableEq

namespace FilePath

def text (p : FilePath) : String :=
  if p.name = "" then p.parent
  else if p.parent = "." then p.name
  else if p.parent.toList.getLast? = some '/' then p.parent ++ p.name
  else p.parent ++ "/" ++ p.name

/-- `path.suffix`: from the last dot on, unless that is the first or the last character. -/
def suffix (p : FilePath) : List Char :=
  let i := (p.name.toList.rdropWhile (· ≠ '.')).length
  if 1 < i ∧ i < p.name.toList.length then p.name.toList.drop (i - 1) else []

variable (P : Platform)

/-- `path.with_suffix(suffix)`. -/
def withSuffix (p : FilePath) (suffix : List Char) : Except Exc FilePath :=
  if hslash : '/' ∈ suffix then
    .error (.valueError ("Invalid suffix " ++ Json.reprStr P.isprintable (String.ofList suffix)))
  else if (suffix ≠ [] ∧ suffix.head? ≠ some '.') ∨ suffix = ['.'] then
    .error (.valueError ("Invalid suffix " ++ Json.reprStr P.isprintable (String.ofList suffix)))
  else if p.name = "" then
    .error (.valueError ("PosixPath(" ++ Json.reprStr P.isprintable p.text
      ++ ") has an empty name"))
  else .ok
    { p with
      name := String.ofList (p.name.toList.take (p.name.toList.length - p.suffix.length) ++ suffix)
      noSlash := by
        rw [String.toList_ofList, List.mem_append, not_or]
        exact ⟨fun h => p.noSlash (List.mem_of_mem_take h), hslash⟩ }

/-- The path with `.tmp` behind it. -/
def beside (p : FilePath) : FilePath where
  parent := p.parent
  name := p.name ++ ".tmp"
  noSlash := by
    rw [String.toList_append, List.mem_append, not_or]
    exact ⟨p.noSlash, by decide⟩

variable {P} {p q : FilePath}

lemma beside_ne (p : FilePath) : p.beside ≠ p := by
  intro h
  have hname := congrArg (fun q => q.name.toList.length) h
  simp [beside] at hname

lemma suffix_suffix (p : FilePath) : p.suffix <:+ p.name.toList := by
  unfold suffix
  dsimp only
  split_ifs
  · exact List.drop_suffix _ _
  · exact List.nil_suffix

lemma head?_suffix (h : p.suffix ≠ []) : p.suffix.head? = some '.' := by
  unfold suffix at h ⊢
  generalize p.name.toList = l at h ⊢
  obtain ⟨rest, hl⟩ := List.rdropWhile_prefix (· ≠ '.') l
  have hlast : ∀ hne : l.rdropWhile (· ≠ '.') ≠ [], (l.rdropWhile (· ≠ '.')).getLast hne = '.' :=
    fun hne => by simpa using List.rdropWhile_last_not (· ≠ '.') l hne
  generalize l.rdropWhile (· ≠ '.') = upToDot at h hl hlast ⊢
  subst hl
  by_cases hi : 1 < upToDot.length ∧ upToDot.length < (upToDot ++ rest).length
  · have hne : upToDot ≠ [] := List.ne_nil_of_length_pos (by omega)
    dsimp only
    rw [if_pos hi, List.head?_drop, List.getElem?_append_left (by omega),
      ← List.getLast?_eq_getElem?, List.getLast?_eq_some_getLast hne, hlast hne]
  · dsimp only at h
    rw [if_neg hi] at h
    exact absurd rfl h

lemma withSuffix_tmp (P : Platform) (p : FilePath) : p.withSuffix P (p.suffix ++ ".tmp".toList) =
    if p.name = "" then .error (.valueError ("PosixPath(" ++ Json.reprStr P.isprintable p.text
      ++ ") has an empty name"))
    else .ok p.beside := by
  have hslash : '/' ∉ p.suffix ++ ".tmp".toList := by
    rw [List.mem_append, not_or]
    exact ⟨fun h => p.noSlash (p.suffix_suffix.mem h), by decide⟩
  have hdot : ¬ ((p.suffix ++ ".tmp".toList ≠ [] ∧ (p.suffix ++ ".tmp".toList).head? ≠ some '.') ∨
      p.suffix ++ ".tmp".toList = ['.']) := by
    have hhead : (p.suffix ++ ".tmp".toList).head? = some '.' := by
      by_cases h : p.suffix = []
      · rw [h]
        rfl
      · rw [List.head?_append, head?_suffix h]
        rfl
    have hlength : 4 ≤ (p.suffix ++ ".tmp".toList).length := by
      rw [List.length_append]
      exact Nat.le_add_left _ _
    rintro (⟨-, hno⟩ | hone)
    · exact hno hhead
    · rw [hone] at hlength
      simp at hlength
  rw [withSuffix, dif_neg hslash, if_neg hdot]
  split_ifs with hname
  · rfl
  · have htake := List.suffix_iff_eq_append.mp p.suffix_suffix
    refine congrArg Except.ok (FilePath.ext rfl ?_)
    dsimp only [beside]
    rw [← List.append_assoc, htake, ← String.toList_append, String.ofList_toList]

lemma eq_beside (h : p.withSuffix P (p.suffix ++ ".tmp".toList) = .ok q) : q = p.beside := by
  rw [withSuffix_tmp] at h
  split_ifs at h
  exact (Except.ok.inj h).symm

/-- The path a file is written to before it is moved: another one, if there is one. -/
def temporary (P : Platform) (p : FilePath) : Except Exc {q : FilePath // q ≠ p} :=
  match h : p.withSuffix P (p.suffix ++ ".tmp".toList) with
  | .error e => .error e
  | .ok q => .ok ⟨q, eq_beside h ▸ p.beside_ne⟩

lemma beside_of_temporary {t : {q : FilePath // q ≠ p}} (h : p.temporary P = .ok t) :
    t.val = p.beside := by
  unfold temporary at h
  split at h
  · cases h
  · rename_i q hq
    obtain rfl := Except.ok.inj h
    exact eq_beside hq

end FilePath

/-! ### Listeners -/

/-- What a relay can be reached by. -/
inductive Listener
  | executor | mcp | relayLink
  deriving DecidableEq

namespace Listener

def all : List Listener := [executor, mcp, relayLink]

def name : Listener → String
  | executor => "executor"
  | mcp => "mcp"
  | relayLink => "relay_link"

def transport : Listener → String
  | executor => "tcp"
  | mcp => "http"
  | relayLink => "tcp"

lemma mem_all (l : Listener) : l ∈ all := by cases l <;> decide

lemma name_injective : Function.Injective name := by
  intro l m h
  cases l <;> cases m <;> first | rfl | (revert h; decide)

end Listener

structure Address where
  host : String
  port : ℤ
  deriving DecidableEq

/-- An entry of `resolved_listeners`. -/
def Address.describe (l : Listener) (a : Address) : Json :=
  .obj [("transport", .str l.transport), ("host", .str a.host), ("port", .int a.port)]

/-- `readiness_payload`. -/
def BaseRelayRuntime.readinessPayload (rt : BaseRelayRuntime) (listeners : Obj) : Json :=
  .obj [("event", .str "listener_ready"), ("role", .str rt.role), ("relay_id", .str rt.relayId),
    ("session_id", .str rt.sessionId), ("listeners", .obj listeners)]

/-- What `write_readiness_file` is about to write, and where. -/
def readinessJob (P : Platform) (path : FilePath) (payload : Json) :
    Except Exc (Aside.Job FilePath Char) :=
  match path.temporary P with
  | .error e => .error e
  | .ok temporary =>
    (Json.dumpsIndent 0 payload).map fun text =>
      ⟨path, temporary.val, (text ++ "\n").toList, temporary.property⟩

lemma readinessJob_eq_ok {P : Platform} {path : FilePath} {payload : Json}
    {job : Aside.Job FilePath Char} (h : readinessJob P path payload = .ok job) :
    job.target = path ∧ job.aside = path.beside ∧
      ∃ text, Json.dumpsIndent 0 payload = .ok text ∧ job.text = (text ++ "\n").toList := by
  unfold readinessJob at h
  cases ht : path.temporary P with
  | error e =>
    rw [ht] at h
    cases h
  | ok temporary =>
    rw [ht] at h
    obtain ⟨text, htext, rfl⟩ := Json.map_eq_ok h
    exact ⟨rfl, FilePath.beside_of_temporary ht, text, htext, rfl⟩

/-! ### What it says -/

lemma mem_assign {o : Obj} {k : String} {v : Json} {p : String × Json} :
    p ∈ assign o k v ↔ (p ∈ o ∧ p.1 ≠ k) ∨ p = (k, v) := by
  unfold assign
  split_ifs with hk
  · rw [List.mem_map]
    constructor
    · rintro ⟨q, hq, rfl⟩
      split_ifs with hqk
      · exact Or.inr rfl
      · exact Or.inl ⟨hq, hqk⟩
    · rintro (⟨hp, hpk⟩ | rfl)
      · exact ⟨p, hp, if_neg hpk⟩
      · obtain ⟨q, hq, rfl⟩ := List.mem_map.mp (List.contains_iff_mem.mp hk)
        exact ⟨q, hq, if_pos rfl⟩
  · rw [List.mem_append, List.mem_singleton]
    have hne : p ∈ o → p.1 ≠ k := by
      rintro hp rfl
      exact hk (List.contains_iff_mem.mpr (List.mem_map_of_mem hp))
    exact or_congr_left ⟨fun hp => ⟨hp, hne hp⟩, And.left⟩

/-- The entries of a relay's listeners are those of its open servers. -/
def Lists (listeners : Obj) (servers : Listener → Option Address) : Prop :=
  (listeners.map Prod.fst).Nodup ∧
    ∀ p, p ∈ listeners ↔ ∃ l address, servers l = some address ∧ p = (l.name, address.describe l)

lemma lists_empty : Lists [] fun _ => none := ⟨List.nodup_nil, by simp⟩

lemma Lists.assign {listeners : Obj} {servers : Listener → Option Address}
    (h : Lists listeners servers) (l : Listener) (address : Address) :
    Lists (assign listeners l.name (address.describe l))
      (Function.update servers l (some address)) := by
  refine ⟨Json.nodup_assign h.1 _ _, fun p => ?_⟩
  rw [mem_assign, h.2]
  constructor
  · rintro (⟨⟨m, a, ha, rfl⟩, hne⟩ | rfl)
    · have hm : m ≠ l := fun heq => hne (congrArg Listener.name heq)
      exact ⟨m, a, by rwa [Function.update_of_ne hm], rfl⟩
    · exact ⟨l, address, Function.update_self .., rfl⟩
  · rintro ⟨m, a, ha, rfl⟩
    by_cases hm : m = l
    · subst hm
      rw [Function.update_self] at ha
      obtain rfl := Option.some.inj ha
      exact Or.inr rfl
    · rw [Function.update_of_ne hm] at ha
      exact Or.inl ⟨⟨m, a, ha, rfl⟩, fun heq => hm (Listener.name_injective heq)⟩

variable {F : Json.FloatText}

lemma Lists.wellFormed {listeners : Obj} {servers : Listener → Option Address}
    (h : Lists listeners servers) (rt : BaseRelayRuntime) :
    Json.WellFormed F (rt.readinessPayload listeners) := by
  have hentries : Json.WellFormed F (.obj listeners) := by
    refine Rlp.wellFormed_obj h.1 fun p hp => ?_
    obtain ⟨l, address, -, rfl⟩ := (h.2 p).mp hp
    exact Rlp.wellFormed_obj (by simp) (by simp [Json.WellFormed])
  exact Rlp.wellFormed_obj (by simp) (by simp [Rlp.wellFormed_str, hentries])

end NaiaRelay.Runtime
