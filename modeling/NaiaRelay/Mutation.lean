import NaiaRelay.Lib.Batch
import NaiaRelay.RegistryFacts

set_option autoImplicit false

/-!
The elementary changes of a registry, as data.

Everything that writes to a registry entry by entry does it by registering and
deregistering, one entry and one revision at a time.
-/

namespace NaiaRelay.Registry

inductive Mutation
  | register (k : Kind) (d : k.Definition)
  | deregister (k : Kind) (name : String)

namespace Mutation

def isRegister : Mutation → Bool
  | register _ _ => true
  | deregister _ _ => false

/-- The mutation with the owner of a registered definition erased. -/
def eraseOwner : Mutation → Mutation
  | register k d => register k (k.eraseOwner d)
  | deregister k name => deregister k name

end Mutation

/-- What a mutation does to the entries; `none` where the store refuses it. -/
def Tables.apply (t : Tables) : Mutation → Option Tables
  | .register k d =>
    if k.key d ∈ (t.table k).dict then none else some (t.setTable k ((t.table k).put d))
  | .deregister k name =>
    if name ∈ (t.table k).dict then some (t.setTable k ((t.table k).pop name)) else none

lemma Tables.apply_register_eq_some {t t' : Tables} {k : Kind} {d : k.Definition} :
    t.apply (.register k d) = some t' ↔
      k.key d ∉ (t.table k).dict ∧ t' = t.setTable k ((t.table k).put d) := by
  simp only [apply]
  split
  · rename_i h
    simp [h]
  · rename_i h
    rw [Option.some.injEq]
    exact ⟨fun e => ⟨h, e.symm⟩, fun e => e.2.symm⟩

lemma Tables.apply_deregister_eq_some {t t' : Tables} {k : Kind} {name : String} :
    t.apply (.deregister k name) = some t' ↔
      name ∈ (t.table k).dict ∧ t' = t.setTable k ((t.table k).pop name) := by
  simp only [apply]
  split
  · rename_i h
    rw [Option.some.injEq]
    exact ⟨fun e => ⟨h, e.symm⟩, fun e => e.2.symm⟩
  · rename_i h
    simp [h]

lemma Tables.apply_eraseOwner {t t' : Tables} {m : Mutation} (h : t.apply m = some t') :
    t.eraseOwner.apply m.eraseOwner = some t'.eraseOwner := by
  cases m with
  | register k d =>
    obtain ⟨hk, rfl⟩ := apply_register_eq_some.mp h
    refine apply_register_eq_some.mpr ⟨by simpa using hk, ?_⟩
    rw [eraseOwner_setTable, Table.eraseOwner_put hk, table_eraseOwner]
  | deregister k name =>
    obtain ⟨hk, rfl⟩ := apply_deregister_eq_some.mp h
    refine apply_deregister_eq_some.mpr ⟨by simpa using hk, ?_⟩
    rw [eraseOwner_setTable, Table.eraseOwner_pop, table_eraseOwner]

namespace RegistryStore

def mutate (s : RegistryStore) : Mutation → Except Exc RegistryStore
  | .register k d => register k s d
  | .deregister k name => deregister k s name

variable {s s' : RegistryStore} {m : Mutation}

lemma mutate_eq_ok :
    s.mutate m = .ok s' ↔ ∃ t, s.toTables.apply m = some t ∧
      s' = { toTables := t, revision := s.revision + 1, stale := false } := by
  cases m with
  | register k d =>
    rw [mutate, register_eq_ok]
    simp only [Tables.apply_register_eq_some]
    constructor
    · rintro ⟨hk, rfl⟩
      exact ⟨_, ⟨hk, rfl⟩, rfl⟩
    · rintro ⟨t, ⟨hk, rfl⟩, rfl⟩
      exact ⟨hk, rfl⟩
  | deregister k name =>
    rw [mutate, deregister_eq_ok]
    simp only [Tables.apply_deregister_eq_some]
    constructor
    · rintro ⟨hk, rfl⟩
      exact ⟨_, ⟨hk, rfl⟩, rfl⟩
    · rintro ⟨t, ⟨hk, rfl⟩, rfl⟩
      exact ⟨hk, rfl⟩

lemma mutate_register_eq_ok {k : Kind} {d : k.Definition} :
    s.mutate (.register k d) = .ok s' ↔
      k.key d ∉ (s.table k).dict ∧ s' = (s.withTable k ((s.table k).put d)).bumpRevision :=
  register_eq_ok

lemma mutate_deregister_eq_ok {k : Kind} {name : String} :
    s.mutate (.deregister k name) = .ok s' ↔
      name ∈ (s.table k).dict ∧ s' = (s.withTable k ((s.table k).pop name)).bumpRevision :=
  deregister_eq_ok

lemma apply_of_mutate (h : s.mutate m = .ok s') : s.toTables.apply m = some s'.toTables := by
  obtain ⟨t, ht, rfl⟩ := mutate_eq_ok.mp h
  exact ht

lemma revision_mutate (h : s.mutate m = .ok s') : s'.revision = s.revision + 1 := by
  obtain ⟨t, -, rfl⟩ := mutate_eq_ok.mp h
  rfl

lemma isValueError_of_mutate {e : Exc} (h : s.mutate m = .error e) :
    e.isValueError = m.isRegister := by
  cases m with
  | register k d =>
    obtain ⟨-, rfl⟩ := register_eq_error.mp h
    rfl
  | deregister k name =>
    obtain ⟨-, rfl⟩ := deregister_eq_error.mp h
    rfl

lemma forEach_deregister_ok {k : Kind} {names : List String} :
    (∃ u, (Batch.forEach mutate s (names.map (.deregister k))).1 = .ok u) ↔
      names.Nodup ∧ ∀ name ∈ names, name ∈ (s.table k).dict := by
  induction names generalizing s with
  | nil => simp
  | cons name names ih =>
    rw [List.map_cons]
    cases hm : s.mutate (.deregister k name) with
    | error e =>
      obtain ⟨hn, -⟩ := deregister_eq_error.mp hm
      rw [Batch.forEach_cons_error _ hm]
      constructor
      · rintro ⟨u, hu⟩
        simp at hu
      · rintro ⟨-, hall⟩
        exact absurd (hall name (by simp)) hn
    | ok s' =>
      obtain ⟨hn, rfl⟩ := deregister_eq_ok.mp hm
      rw [Batch.forEach_cons_ok _ hm, ih, List.nodup_cons]
      have htable : (s.withTable k ((s.table k).pop name)).bumpRevision.table k
          = (s.table k).pop name := table_withTable_self _ _ _
      rw [htable]
      simp only [Table.mem_pop]
      constructor
      · rintro ⟨hd, hall⟩
        refine ⟨⟨fun hin => (hall name hin).1 rfl, hd⟩, fun n hmem => ?_⟩
        rcases List.mem_cons.mp hmem with rfl | hmem
        · exact hn
        · exact (hall n hmem).2
      · rintro ⟨⟨hnot, hd⟩, hall⟩
        refine ⟨hd, fun n hmem => ⟨?_, hall n (List.mem_cons_of_mem _ hmem)⟩⟩
        rintro rfl
        exact hnot hmem

lemma revision_forEach_mutate {l : List Mutation}
    (h : Batch.forEach mutate s l = (.ok (), s')) : s'.revision = s.revision + l.length := by
  induction l generalizing s with
  | nil =>
    obtain rfl : s = s' := by simpa using h
    simp
  | cons m l ih =>
    cases hm : s.mutate m with
    | error e =>
      rw [Batch.forEach_cons_error l hm] at h
      simp at h
    | ok t =>
      rw [Batch.forEach_cons_ok l hm] at h
      have ht := revision_mutate hm
      have hl := ih h
      rw [List.length_cons]
      push_cast
      omega

end RegistryStore

end NaiaRelay.Registry
