import NaiaRelay.Registry

set_option autoImplicit false

/-!
What each registry operation does, kind by kind, and how a table is rebuilt from the list
of its values.
-/

namespace NaiaRelay.Registry

open OrderedDict

namespace Table

variable {k : Kind}

lemma get_eq_none {t : Table k} {name : String} : t.get name = none ↔ name ∉ t.dict :=
  AList.lookup_eq_none

lemma mem_iff_get {t : Table k} {name : String} : name ∈ t.dict ↔ ∃ d, t.get name = some d := by
  rw [← AList.lookup_isSome, Option.isSome_iff_exists]; rfl

@[simp] lemma values_empty : (empty : Table k).values = [] := rfl

@[simp] lemma mem_put {t : Table k} {d : k.Definition} {name : String} :
    name ∈ (t.put d).dict ↔ name ∈ t.dict ∨ name = k.key d := OrderedDict.mem_set

@[simp] lemma mem_pop {t : Table k} {name name' : String} :
    name' ∈ (t.pop name).dict ↔ name' ≠ name ∧ name' ∈ t.dict := AList.mem_erase

lemma get_put (t : Table k) (d : k.Definition) (name : String) :
    (t.put d).get name = if name = k.key d then some d else t.get name :=
  OrderedDict.lookup_set _ _ _ _

lemma get_pop (t : Table k) (name name' : String) :
    (t.pop name).get name' = if name' = name then none else t.get name' :=
  OrderedDict.lookup_pop _ _ _

@[simp] lemma values_map {f : k.Definition → k.Definition} (hf : ∀ d, k.key (f d) = k.key d)
    (t : Table k) : (t.map f hf).values = t.values.map f := OrderedDict.values_mapValues f t.dict

@[simp] lemma values_eraseOwner (t : Table k) :
    t.eraseOwner.values = t.values.map k.eraseOwner := values_map k.key_eraseOwner t

@[simp] lemma mem_map {f : k.Definition → k.Definition} {hf : ∀ d, k.key (f d) = k.key d}
    {t : Table k} {name : String} : name ∈ (t.map f hf).dict ↔ name ∈ t.dict :=
  OrderedDict.mem_mapValues

@[simp] lemma mem_eraseOwner {t : Table k} {name : String} :
    name ∈ t.eraseOwner.dict ↔ name ∈ t.dict := mem_map

lemma values_put {t : Table k} {d : k.Definition} (h : k.key d ∉ t.dict) :
    (t.put d).values = t.values ++ [d] := by
  have hd : (t.put d).dict = OrderedDict.push t.dict (k.key d) d h := OrderedDict.set_of_notMem d h
  rw [values, hd, OrderedDict.values_push]; rfl

lemma eraseOwner_pop (t : Table k) (name : String) :
    (t.pop name).eraseOwner = t.eraseOwner.pop name :=
  Table.ext (OrderedDict.mapValues_pop _ _ _)

lemma entries_eq (t : Table k) : t.dict.entries = t.values.map fun d => ⟨k.key d, d⟩ := by
  rw [values, OrderedDict.values, List.map_map]
  refine (List.map_id _).symm.trans (List.map_congr_left fun e he => ?_)
  have := t.named e.1 e.2 (AList.mem_lookup_iff.mpr he)
  simp [this]

lemma keys_eq (t : Table k) : t.dict.keys = t.values.map k.key := by
  show List.map Sigma.fst t.dict.entries = _
  rw [entries_eq, List.map_map]; rfl

lemma nodup_keys (t : Table k) : (t.values.map k.key).Nodup := by
  rw [← keys_eq]
  exact t.dict.keys_nodup

lemma mem_values {t : Table k} {d : k.Definition} : d ∈ t.values ↔ t.get (k.key d) = some d := by
  rw [get, ← Option.mem_def, AList.mem_lookup_iff, entries_eq, List.mem_map]
  constructor
  · exact fun h => ⟨d, h, rfl⟩
  · rintro ⟨d', h, he⟩
    obtain rfl : d' = d := by simpa using congrArg Sigma.snd he
    exact h

lemma mem_values_of_mem_pop {t : Table k} {name : String} {d : k.Definition}
    (h : d ∈ (t.pop name).values) : d ∈ t.values := by
  rw [mem_values, get_pop] at h
  split at h
  · simp at h
  · exact mem_values.mpr h

lemma ext_values {t t' : Table k} (h : t.values = t'.values) : t = t' :=
  Table.ext (AList.ext (by rw [entries_eq, entries_eq, h]))

lemma eraseOwner_put {t : Table k} {d : k.Definition} (h : k.key d ∉ t.dict) :
    (t.put d).eraseOwner = t.eraseOwner.put (k.eraseOwner d) := by
  apply ext_values
  rw [values_eraseOwner, values_put h, values_put (by simpa using h)]
  simp

lemma values_ofList {ds : List k.Definition} (h : (ds.map k.key).Nodup) :
    (ofList ds).values = ds := by
  have he : (ofList ds).dict.entries = (ds.map fun d => (k.key d, d)).map fun p => ⟨p.1, p.2⟩ :=
    OrderedDict.entries_ofPairs (by simpa [Function.comp_def] using h)
  rw [values, OrderedDict.values, he]
  simp [Function.comp_def]

lemma get_ofList (ds : List k.Definition) (name : String) :
    (ofList ds).get name = ds.reverse.find? fun d => k.key d = name := by
  have h := OrderedDict.lookup_ofPairs (ds.map fun d => (k.key d, d)) name
  rw [← List.map_reverse, List.find?_map, Option.map_map] at h
  exact h.trans Option.map_id'

lemma ofList_values_eraseOwner (t : Table k) :
    ofList (t.values.map k.eraseOwner) = t.eraseOwner := by
  apply ext_values
  rw [values_ofList (by simpa [Function.comp_def] using t.nodup_keys), values_eraseOwner]

end Table

/-! ### The three tables together -/

namespace Tables

@[simp] lemma table_setTable_self (t : Tables) (k : Kind) (x : Table k) :
    (t.setTable k x).table k = x := by
  cases k <;> rfl

lemma table_setTable_ne (t : Tables) {k k' : Kind} (x : Table k) (h : k' ≠ k) :
    (t.setTable k x).table k' = t.table k' := by
  cases k <;> cases k' <;> first | rfl | exact absurd rfl h

@[simp] lemma setTable_setTable (t : Tables) (k : Kind) (x y : Table k) :
    (t.setTable k x).setTable k y = t.setTable k y := by
  cases k <;> rfl

@[simp] lemma table_eraseOwner (t : Tables) (k : Kind) :
    t.eraseOwner.table k = (t.table k).eraseOwner := by
  cases k <;> rfl

lemma eraseOwner_setTable (t : Tables) (k : Kind) (x : Table k) :
    (t.setTable k x).eraseOwner = t.eraseOwner.setTable k x.eraseOwner := by
  cases k <;> rfl

end Tables

/-! ### Store operations -/

namespace RegistryStore

variable {k : Kind} {s s' : RegistryStore}

@[simp] lemma table_withTable_self (s : RegistryStore) (k : Kind) (t : Table k) :
    (s.withTable k t).table k = t := Tables.table_setTable_self _ _ _

lemma register_eq_ok {d : k.Definition} :
    register k s d = .ok s' ↔
      k.key d ∉ (s.table k).dict ∧ s' = (s.withTable k ((s.table k).put d)).bumpRevision := by
  unfold register
  split
  · rename_i h
    simp [h]
  · rename_i h
    rw [Except.ok.injEq]
    exact ⟨fun e => ⟨h, e.symm⟩, fun e => e.2.symm⟩

lemma register_eq_error {d : k.Definition} {e : Exc} :
    register k s d = .error e ↔
      k.key d ∈ (s.table k).dict ∧
        e = .valueError ("Duplicate " ++ k.keyNoun ++ ": " ++ k.key d) := by
  unfold register
  split
  · rename_i h
    rw [Except.error.injEq]
    exact ⟨fun he => ⟨h, he.symm⟩, fun he => he.2.symm⟩
  · rename_i h
    simp [h]

lemma deregister_eq_ok {name : String} :
    deregister k s name = .ok s' ↔
      name ∈ (s.table k).dict ∧ s' = (s.withTable k ((s.table k).pop name)).bumpRevision := by
  unfold deregister
  split
  · rename_i h
    rw [Except.ok.injEq]
    exact ⟨fun e => ⟨h, e.symm⟩, fun e => e.2.symm⟩
  · rename_i h
    simp [h]

lemma deregister_eq_error {name : String} {e : Exc} :
    deregister k s name = .error e ↔
      name ∉ (s.table k).dict ∧ e = .keyError (.str name) := by
  unfold deregister
  split
  · rename_i h
    simp [h]
  · rename_i h
    rw [Except.error.injEq]
    exact ⟨fun he => ⟨h, he.symm⟩, fun he => he.2.symm⟩

@[simp] lemma revision_bumpRevision (s : RegistryStore) :
    s.bumpRevision.revision = s.revision + 1 := rfl

@[simp] lemma toTables_bumpRevision (s : RegistryStore) : s.bumpRevision.toTables = s.toTables := rfl

@[simp] lemma revision_withTable (s : RegistryStore) (k : Kind) (t : Table k) :
    (s.withTable k t).revision = s.revision := rfl

@[simp] lemma toTables_withTable (s : RegistryStore) (k : Kind) (t : Table k) :
    (s.withTable k t).toTables = s.toTables.setTable k t := rfl

lemma ext_store {s s' : RegistryStore} (ht : s.toTables = s'.toTables)
    (hr : s.revision = s'.revision) (hs : s.stale = s'.stale) : s = s' := by
  cases s; cases s'
  simp_all

end RegistryStore

end NaiaRelay.Registry
