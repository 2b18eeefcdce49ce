import Mathlib.Data.List.AList
import Mathlib.Data.List.Induction
import Mathlib.Tactic.Common

set_option autoImplicit false

/-!
Dictionaries that remember the order of insertion.

An association list without repeated keys is already such a dictionary, except that
Mathlib inserts at the front. Here assigning to a new key appends, and assigning to a
present key keeps its place.
-/

abbrev OrderedDict (κ ν : Type*) := AList fun _ : κ => ν

namespace OrderedDict

variable {κ ν μ : Type*}

/-- The values, in insertion order. -/
def values (d : OrderedDict κ ν) : List ν := d.entries.map Sigma.snd

/-- Appending a key that is not there yet. -/
def push (d : OrderedDict κ ν) (k : κ) (v : ν) (h : k ∉ d) : OrderedDict κ ν where
  entries := d.entries ++ [⟨k, v⟩]
  nodupKeys := by
    have hk : (d.entries ++ [(⟨k, v⟩ : (_ : κ) × ν)]).keys = d.keys ++ [k] := by
      simp [List.keys, AList.keys]
    rw [List.NodupKeys, hk]
    exact List.nodup_append.mpr ⟨d.keys_nodup, by simp, by
      intro a ha b hb
      rw [List.mem_singleton] at hb
      rintro rfl
      exact h (hb ▸ ha)⟩

/-- The same keys in the same order, with `f` applied to every value. -/
def mapValues (f : ν → μ) (d : OrderedDict κ ν) : OrderedDict κ μ where
  entries := d.entries.map fun e => ⟨e.1, f e.2⟩
  nodupKeys := by
    have h : (d.entries.map fun e => (⟨e.1, f e.2⟩ : (_ : κ) × μ)).keys = d.entries.keys := by
      simp [List.keys, Function.comp_def]
    rw [List.NodupKeys, h]
    exact d.nodupKeys

@[simp] lemma values_empty : values (∅ : OrderedDict κ ν) = [] := rfl

@[simp] lemma entries_push (d : OrderedDict κ ν) (k : κ) (v : ν) (h : k ∉ d) :
    (d.push k v h).entries = d.entries ++ [⟨k, v⟩] := rfl

@[simp] lemma values_push (d : OrderedDict κ ν) (k : κ) (v : ν) (h : k ∉ d) :
    (d.push k v h).values = d.values ++ [v] := by
  simp [values]

@[simp] lemma keys_push (d : OrderedDict κ ν) (k : κ) (v : ν) (h : k ∉ d) :
    (d.push k v h).keys = d.keys ++ [k] := by
  simp [AList.keys, List.keys]

@[simp] lemma mem_push {d : OrderedDict κ ν} {k k' : κ} {v : ν} (h : k ∉ d) :
    k' ∈ d.push k v h ↔ k' ∈ d ∨ k' = k := by
  simp [AList.mem_keys]

/-! ### Mapping the values -/

@[simp] lemma entries_mapValues (f : ν → μ) (d : OrderedDict κ ν) :
    (d.mapValues f).entries = d.entries.map fun e => ⟨e.1, f e.2⟩ := rfl

@[simp] lemma values_mapValues (f : ν → μ) (d : OrderedDict κ ν) :
    (d.mapValues f).values = d.values.map f := by
  simp [values, Function.comp_def]

@[simp] lemma keys_mapValues (f : ν → μ) (d : OrderedDict κ ν) : (d.mapValues f).keys = d.keys := by
  simp [AList.keys, List.keys, Function.comp_def]

@[simp] lemma mem_mapValues {f : ν → μ} {d : OrderedDict κ ν} {k : κ} :
    k ∈ d.mapValues f ↔ k ∈ d := by
  simp [AList.mem_keys]

variable [DecidableEq κ]

/-- `d.pop(k)` on the dictionary's side. -/
abbrev pop (d : OrderedDict κ ν) (k : κ) : OrderedDict κ ν := AList.erase k d

lemma lookup_mapValues (f : ν → μ) (d : OrderedDict κ ν) (k : κ) :
    (d.mapValues f).lookup k = (d.lookup k).map f :=
  List.dlookup_map₂ (f := fun _ => f) k

lemma mapValues_pop (f : ν → μ) (d : OrderedDict κ ν) (k : κ) :
    (d.pop k).mapValues f = (d.mapValues f).pop k := by
  refine AList.ext ?_
  show (List.kerase k d.entries).map (fun e => (⟨e.1, f e.2⟩ : (_ : κ) × μ))
    = List.kerase k (d.entries.map fun e => ⟨e.1, f e.2⟩)
  induction d.entries with
  | nil => rfl
  | cons e l ih =>
    by_cases hk : k = e.1
    · rw [List.kerase_cons_eq hk, List.map_cons, List.kerase_cons_eq (by exact hk)]
    · rw [List.kerase_cons_ne hk, List.map_cons, List.map_cons,
        List.kerase_cons_ne (by exact hk), ih]

lemma entries_pop (d : OrderedDict κ ν) (k : κ) :
    (d.pop k).entries = d.entries.filter fun e => e.1 ≠ k := by
  show List.kerase k d.entries = _
  have hd : d.entries.NodupKeys := d.nodupKeys
  revert hd
  induction d.entries with
  | nil => exact fun _ => rfl
  | cons e l ih =>
    intro hd
    obtain ⟨he, hl⟩ := List.nodupKeys_cons.mp hd
    by_cases hk : k = e.1
    · subst hk
      have hkeep : l.filter (fun e' => e'.1 ≠ e.1) = l := by
        rw [List.filter_eq_self]
        intro e' he'
        have hne : e'.1 ≠ e.1 := fun h => he (h ▸ List.mem_keys_of_mem he')
        simpa using hne
      rw [List.kerase_cons_eq rfl, List.filter_cons_of_neg (by simp), hkeep]
    · have hne : e.1 ≠ k := fun h => hk h.symm
      rw [List.kerase_cons_ne hk, List.filter_cons_of_pos (by simpa using hne), ih hl]

/-! ### Assignment -/

/-- `d[k] = v`. -/
def set (d : OrderedDict κ ν) (k : κ) (v : ν) : OrderedDict κ ν :=
  if h : k ∈ d then AList.replace k v d else d.push k v h

lemma set_of_notMem {d : OrderedDict κ ν} {k : κ} (v : ν) (h : k ∉ d) :
    d.set k v = d.push k v h := dif_neg h

@[simp] lemma mem_set {d : OrderedDict κ ν} {k k' : κ} {v : ν} :
    k' ∈ d.set k v ↔ k' ∈ d ∨ k' = k := by
  unfold set
  split
  · rename_i h
    rw [AList.mem_replace]
    exact ⟨Or.inl, fun h' => h'.elim id fun e => e ▸ h⟩
  · exact mem_push _

lemma lookup_push (d : OrderedDict κ ν) (k k' : κ) (v : ν) (h : k ∉ d) :
    (d.push k v h).lookup k' = if k' = k then some v else d.lookup k' := by
  show List.dlookup k' (d.entries ++ [⟨k, v⟩]) = _
  rw [List.dlookup_append]
  by_cases hk : k' = k
  · subst hk
    have : d.entries.dlookup k' = none := List.dlookup_eq_none.mpr h
    simp [this]
  · simp [hk, AList.lookup]

lemma dlookup_kreplace (l : List ((_ : κ) × ν)) (k k' : κ) (v : ν) (h : k ∈ l.keys) :
    (l.kreplace k v).dlookup k' = if k' = k then some v else l.dlookup k' := by
  induction l with
  | nil => simp at h
  | cons e l ih =>
    obtain ⟨a, b⟩ := e
    by_cases ha : k = a
    · subst ha
      have hr : List.kreplace k v (⟨k, b⟩ :: l) = ⟨k, v⟩ :: l :=
        List.lookmap_cons_some _ _ (by simp)
      rw [hr]
      by_cases hk : k' = k
      · subst hk
        simp
      · simp [hk]
    · have hl : k ∈ l.keys := by simpa [ha] using h
      have hr : List.kreplace k v (⟨a, b⟩ :: l) = ⟨a, b⟩ :: List.kreplace k v l :=
        List.lookmap_cons_none _ _ (by simp [ha])
      rw [hr]
      by_cases hk : k' = a
      · subst hk
        simp [Ne.symm ha]
      · rw [List.dlookup_cons_ne _ _ hk, List.dlookup_cons_ne _ _ hk, ih hl]

lemma lookup_set (d : OrderedDict κ ν) (k k' : κ) (v : ν) :
    (d.set k v).lookup k' = if k' = k then some v else d.lookup k' := by
  unfold set
  split
  · rename_i h
    exact dlookup_kreplace d.entries k k' v h
  · exact lookup_push d k k' v _

lemma lookup_pop (d : OrderedDict κ ν) (k k' : κ) :
    (d.pop k).lookup k' = if k' = k then none else d.lookup k' := by
  by_cases hk : k' = k
  · subst hk
    simp
  · simp [hk, AList.lookup_erase_ne hk]

lemma mem_values {d : OrderedDict κ ν} {v : ν} : v ∈ d.values ↔ ∃ k, d.lookup k = some v := by
  simp only [values, List.mem_map]
  constructor
  · rintro ⟨⟨k, v'⟩, he, rfl⟩
    exact ⟨k, AList.mem_lookup_iff.mpr he⟩
  · rintro ⟨k, hk⟩
    exact ⟨⟨k, v⟩, AList.mem_lookup_iff.mp hk, rfl⟩

/-! ### Building a dictionary from pairs -/

/-- The dictionary of a sequence of assignments: the last value of a key wins, its first
place stays. -/
def ofPairs (l : List (κ × ν)) : OrderedDict κ ν := l.foldl (fun d p => d.set p.1 p.2) ∅

lemma entries_foldl_set (l : List (κ × ν)) (d : OrderedDict κ ν)
    (hl : (l.map Prod.fst).Nodup) (hd : ∀ k ∈ l.map Prod.fst, k ∉ d) :
    (l.foldl (fun d p => d.set p.1 p.2) d).entries
      = d.entries ++ l.map fun p => ⟨p.1, p.2⟩ := by
  induction l generalizing d with
  | nil => simp
  | cons p l ih =>
    obtain ⟨hp, hl⟩ := List.nodup_cons.mp hl
    have hpd : p.1 ∉ d := hd p.1 (by simp)
    rw [List.foldl_cons, ih (d.set p.1 p.2) hl, set_of_notMem _ hpd]
    · simp
    · intro k hk
      rw [mem_set]
      rintro (h | rfl)
      · exact hd k (List.mem_cons_of_mem _ hk) h
      · exact hp hk

lemma entries_ofPairs {l : List (κ × ν)} (h : (l.map Prod.fst).Nodup) :
    (ofPairs l).entries = l.map fun p => ⟨p.1, p.2⟩ := by
  have := entries_foldl_set l ∅ h (by simp)
  simpa [ofPairs] using this

lemma lookup_foldl_set (l : List (κ × ν)) (d : OrderedDict κ ν) {k : κ} {v : ν}
    (h : (l.foldl (fun d p => d.set p.1 p.2) d).lookup k = some v) :
    (k, v) ∈ l ∨ d.lookup k = some v := by
  induction l generalizing d with
  | nil => exact Or.inr h
  | cons p l ih =>
    rcases ih _ h with h | h
    · exact Or.inl (List.mem_cons_of_mem _ h)
    · rw [lookup_set] at h
      by_cases hk : k = p.1
      · rw [if_pos hk, Option.some.injEq] at h
        exact Or.inl (by simp [hk, ← h])
      · rw [if_neg hk] at h
        exact Or.inr h

lemma mem_of_lookup_ofPairs {l : List (κ × ν)} {k : κ} {v : ν}
    (h : (ofPairs l).lookup k = some v) : (k, v) ∈ l := by
  rcases lookup_foldl_set l ∅ h with h | h
  · exact h
  · simp at h

lemma ofPairs_concat (l : List (κ × ν)) (p : κ × ν) :
    ofPairs (l ++ [p]) = (ofPairs l).set p.1 p.2 := by
  rw [ofPairs, List.foldl_concat]
  rfl

lemma lookup_ofPairs (l : List (κ × ν)) (k : κ) :
    (ofPairs l).lookup k = (l.reverse.find? fun p => p.1 = k).map Prod.snd := by
  induction l using List.reverseRecOn with
  | nil => rfl
  | append_singleton l p ih =>
    rw [ofPairs_concat, lookup_set, ih, List.reverse_concat, List.find?_cons]
    by_cases hk : k = p.1
    · simp [hk]
    · have hne : p.1 ≠ k := fun h => hk h.symm
      simp [hk, hne]

end OrderedDict
