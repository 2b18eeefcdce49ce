import NaiaRelay.Lib.OrderedDict

set_option autoImplicit false

/-!
Logs of insertions and removals under keys.

What is live at the end of a log are the insertions that no later operation on their key
follows, in the order of the log. A dictionary that takes the operations one by one holds
exactly these.
-/

namespace OpLog

variable {κ ν : Type*}

inductive Op (κ ν : Type*)
  | insert (k : κ) (v : ν)
  | remove (k : κ)

def Op.key : Op κ ν → κ
  | insert k _ => k
  | remove k => k

variable [DecidableEq κ]

/-- The insertions that no later operation on their key follows, in order. -/
def live : List (Op κ ν) → List (κ × ν)
  | [] => []
  | .insert k v :: log => if k ∈ log.map Op.key then live log else (k, v) :: live log
  | .remove _ :: log => live log

variable {log : List (Op κ ν)} {k : κ} {v : ν}

@[simp] lemma live_nil : live ([] : List (Op κ ν)) = [] := rfl

/-- **What is live.** The last insertion under a key, if no operation on the key follows. -/
theorem mem_live : (k, v) ∈ live log ↔
    ∃ pre post, log = pre ++ .insert k v :: post ∧ k ∉ post.map Op.key := by
  induction log with
  | nil => simp
  | cons op log ih =>
    -- the insertion is at the head of the log, or in its tail
    have hsplit : (∃ pre post, op :: log = pre ++ .insert k v :: post ∧ k ∉ post.map Op.key) ↔
        (op = .insert k v ∧ k ∉ log.map Op.key) ∨ (k, v) ∈ live log := by
      rw [ih]
      constructor
      · rintro ⟨pre, post, h, hk⟩
        cases pre with
        | nil =>
          obtain ⟨rfl, rfl⟩ := List.cons.inj h
          exact Or.inl ⟨rfl, hk⟩
        | cons op' pre =>
          obtain ⟨-, h⟩ := List.cons.inj h
          exact Or.inr ⟨pre, post, h, hk⟩
      · rintro (⟨rfl, hk⟩ | ⟨pre, post, rfl, hk⟩)
        · exact ⟨[], log, rfl, hk⟩
        · exact ⟨op :: pre, post, rfl, hk⟩
    rw [hsplit]
    cases op with
    | remove k' => simp [live]
    | insert k' v' =>
      rw [live]
      by_cases hk' : k' ∈ log.map Op.key
      · rw [if_pos hk']
        refine ⟨Or.inr, ?_⟩
        rintro (⟨h, hk⟩ | h)
        · injection h with h _
          exact absurd (h ▸ hk') hk
        · exact h
      · rw [if_neg hk', List.mem_cons, Prod.mk.injEq, Op.insert.injEq]
        constructor
        · rintro (⟨rfl, rfl⟩ | h)
          · exact Or.inl ⟨⟨rfl, rfl⟩, hk'⟩
          · exact Or.inr h
        · rintro (⟨⟨rfl, rfl⟩, -⟩ | h)
          · exact Or.inl ⟨rfl, rfl⟩
          · exact Or.inr h

lemma live_concat (op : Op κ ν) :
    live (log ++ [op]) = (live log).filter (fun e => e.1 ≠ op.key) ++ live [op] := by
  induction log with
  | nil => rfl
  | cons op' log ih =>
    cases op' with
    | remove k => exact ih
    | insert k v =>
      rw [List.cons_append, live, live, ih, List.map_append, List.map_cons, List.map_nil]
      by_cases hk : k ∈ log.map Op.key
      · rw [if_pos (List.mem_append_left _ hk), if_pos hk]
      · by_cases hop : k = op.key
        · rw [if_pos (by simp [hop]), if_neg hk, List.filter_cons_of_neg (by simp [hop])]
        · have hno : k ∉ log.map Op.key ++ [op.key] := by simp [hk, hop]
          rw [if_neg hno, if_neg hk, List.filter_cons_of_pos (by simp [hop]), List.cons_append]

/-! ### Dictionaries -/

/-- The dictionary holds what is live at the end of the log. -/
def Holds (d : OrderedDict κ ν) (log : List (Op κ ν)) : Prop :=
  d.entries = (live log).map fun e => ⟨e.1, e.2⟩

lemma holds_empty : Holds (∅ : OrderedDict κ ν) [] := rfl

variable {d : OrderedDict κ ν}

lemma Holds.lookup_eq_some (h : Holds d log) : d.lookup k = some v ↔ (k, v) ∈ live log := by
  rw [← Option.mem_def, AList.mem_lookup_iff, h, List.mem_map]
  constructor
  · rintro ⟨⟨k', v'⟩, hm, he⟩
    obtain ⟨rfl, rfl⟩ : k' = k ∧ v' = v := by simpa using he
    exact hm
  · exact fun hm => ⟨(k, v), hm, rfl⟩

lemma Holds.mem_iff (h : Holds d log) : k ∈ d ↔ ∃ v, (k, v) ∈ live log := by
  rw [← AList.lookup_isSome, Option.isSome_iff_exists]
  exact exists_congr fun v => h.lookup_eq_some

lemma Holds.push (h : Holds d log) (hk : k ∉ d) : Holds (d.push k v hk) (log ++ [.insert k v]) := by
  have hlive : (live log).filter (fun e => e.1 ≠ k) = live log := by
    rw [List.filter_eq_self]
    intro e he
    have hne : e.1 ≠ k := by
      rintro rfl
      exact hk (h.mem_iff.mpr ⟨e.2, he⟩)
    simpa using hne
  unfold Holds at h ⊢
  have hkey : (Op.insert k v).key = k := rfl
  rw [OrderedDict.entries_push, h, live_concat, hkey, hlive, List.map_append]
  simp [live]

lemma Holds.pop (h : Holds d log) (k : κ) : Holds (d.pop k) (log ++ [.remove k]) := by
  unfold Holds at h ⊢
  have hkey : (Op.remove k : Op κ ν).key = k := rfl
  have hnone : live [(.remove k : Op κ ν)] = [] := rfl
  rw [OrderedDict.entries_pop, h, live_concat, hkey, hnone, List.append_nil, List.filter_map]
  rfl

end OpLog
