import NaiaRelay.Lib.Run
import NaiaRelay.Mirror

set_option autoImplicit false

/-!
A mirror that gets every incremental message in order.

Additions and removals keep it in step with the host. An update of an entry that is there
takes two of the store's operations, each with a revision of its own, so it leaves the mirror
one revision ahead and the next message looks like a gap.
-/

namespace NaiaRelay.Rlp

open NaiaRelay.Registry

/-- The same keys with the same definitions, owners apart. -/
def SameEntries (host mirror : Tables) : Prop :=
  ∀ k name, (mirror.table k).get name = ((host.table k).get name).map k.eraseOwner

def InSync (host mirror : RegistryStore) : Prop :=
  mirror.revision = host.revision ∧ SameEntries host.toTables mirror.toTables

/-- One message for each change, in order, with the revision the change leads to. -/
def CarryAll (P : Platform) : ℤ → List Change → List Delivery → Prop
  | _, [], [] => True
  | revision, c :: cs, d :: ds =>
    Carries P c (revision + 1) d.2 ∧ CarryAll P (revision + 1) cs ds
  | _, _, _ => False

/-- Every message is answered with status ok, the mirror is never stale, and at the end it is
in sync with the host. -/
def Converges (P : Platform) (mirror : RLPHandler) (ds : List Delivery) (host : RegistryStore) :
    Prop :=
  (∀ x ∈ handleAll P mirror ds, Answered "ok" x.1 ∧ x.2.registry.stale = false) ∧
    InSync host (afterAll P mirror ds).registry

/-! ### Entries under one change -/

lemma SameEntries.mem_iff {t t' : Tables} (h : SameEntries t t') (k : Kind) (name : String) :
    name ∈ (t'.table k).dict ↔ name ∈ (t.table k).dict := by
  rw [Table.mem_iff_get, Table.mem_iff_get, h k name]
  simp

lemma SameEntries.apply {t t' u : Tables} {m : Mutation} (h : SameEntries t t')
    (hu : t.apply m = some u) : ∃ u', t'.apply m.eraseOwner = some u' ∧ SameEntries u u' := by
  cases m with
  | register k d =>
    obtain ⟨hk, rfl⟩ := Tables.apply_register_eq_some.mp hu
    have hk' : k.key (k.eraseOwner d) ∉ (t'.table k).dict := by
      rw [Kind.key_eraseOwner, h.mem_iff]
      exact hk
    refine ⟨_, Tables.apply_register_eq_some.mpr ⟨hk', rfl⟩, ?_⟩
    intro k' name
    by_cases hkk : k' = k
    · subst hkk
      rw [Tables.table_setTable_self, Tables.table_setTable_self, Table.get_put, Table.get_put,
        Kind.key_eraseOwner]
      split
      · rfl
      · exact h k' name
    · rw [Tables.table_setTable_ne _ _ hkk, Tables.table_setTable_ne _ _ hkk]
      exact h k' name
  | deregister k removed =>
    obtain ⟨hk, rfl⟩ := Tables.apply_deregister_eq_some.mp hu
    refine ⟨_, Tables.apply_deregister_eq_some.mpr ⟨(h.mem_iff k removed).mpr hk, rfl⟩, ?_⟩
    intro k' name
    by_cases hkk : k' = k
    · subst hkk
      rw [Tables.table_setTable_self, Tables.table_setTable_self, Table.get_pop, Table.get_pop]
      split
      · rfl
      · exact h k' name
    · rw [Tables.table_setTable_ne _ _ hkk, Tables.table_setTable_ne _ _ hkk]
      exact h k' name

namespace Change

variable {host host' : RegistryStore}

lemma effect_mutation_eq_some {m : Mutation} :
    (mutation m).effect host = some host' ↔ host.mutate m = .ok host' := by
  simp only [effect]
  cases host.mutate m <;> simp [Except.toOption]

lemma effect_update_eq_some {k : Kind} {d : k.Definition} :
    (update k d).effect host = some host' ↔ k.key d ∈ (host.table k).dict ∧
      host' = (host.withTable k ((host.table k).put d)).bumpRevision := by
  simp only [effect]
  split
  · rename_i h
    rw [Option.some.injEq]
    exact ⟨fun e => ⟨h, e.symm⟩, fun e => e.2.symm⟩
  · rename_i h
    simp [h]

lemma revision_effect {c : Change} (h : c.effect host = some host') :
    host'.revision = host.revision + 1 := by
  cases c with
  | mutation m => exact RegistryStore.revision_mutate (effect_mutation_eq_some.mp h)
  | update k d =>
    obtain ⟨-, rfl⟩ := effect_update_eq_some.mp h
    rfl

end Change

/-! ### One message -/

variable {P : Platform} {ids : NewIds} {h : RLPHandler} {host host' : RegistryStore}

lemma handle_mutation_inSync {m : Mutation} {message : Obj} (hs : InSync host h.registry)
    (he : host.mutate m = .ok host')
    (hc : Carries P (.mutation m) (host.revision + 1) message) :
    Answered "ok" (h.handleMessage P ids message).1 ∧
      (h.handleMessage P ids message).2.registry.stale = false ∧
      InSync host' (h.handleMessage P ids message).2.registry := by
  obtain ⟨hr, hsame⟩ := hs
  obtain ⟨t, ht, hst⟩ := hsame.apply (RegistryStore.apply_of_mutate he)
  rw [← hr] at hc
  obtain ⟨hans, hafter⟩ := handle_mutation ht hc
  rw [hafter]
  refine ⟨hans, rfl, ?_, hst⟩
  rw [RegistryStore.revision_mutate he, ← hr]

variable (ids) in
lemma handle_update_ahead {k : Kind} {d : k.Definition} {message : Obj}
    (hs : InSync host h.registry) (hk : k.key d ∈ (host.table k).dict)
    (hc : Carries P (.update k d) (host.revision + 1) message) :
    Answered "ok" (h.handleMessage P ids message).1 ∧
      (h.handleMessage P ids message).2.registry.revision = host.revision + 2 := by
  obtain ⟨hr, hsame⟩ := hs
  obtain ⟨envelope, payload, hp, -, entry, rfl, hd⟩ := hc
  rw [handleMessage_of_parse hp]
  have hk' : k.key (EntryPayload.definition k entry none)
      ∈ (h.registry.markFresh.table k).dict := by
    rw [hd, Kind.key_eraseOwner]
    exact (hsame.mem_iff k _).mpr hk
  rw [← hr]
  refine And.imp_right (fun hafter => ?_) (applyIncremental_next rfl (upsert_present hk'))
  show (h.applyIncremental ids envelope _ _).2.registry.revision = _
  rw [hafter]
  rfl

/-! ### All messages in order -/

lemma converges_cons {mirror : RLPHandler} {d : Delivery} {ds : List Delivery} :
    Converges P mirror (d :: ds) host ↔
      (Answered "ok" (mirror.handleMessage P d.1 d.2).1 ∧
        (mirror.handleMessage P d.1 d.2).2.registry.stale = false) ∧
      Converges P (mirror.handleMessage P d.1 d.2).2 ds host := by
  simp only [Converges, handleAll, afterAll, List.forall_mem_cons, List.foldl_cons, and_assoc]

lemma not_converges_of_ahead {mirror : RLPHandler} {changes : List Change} {ds : List Delivery}
    (hahead : mirror.registry.revision = host.revision + 1)
    (hrun : Run.run Change.effect host changes = some host')
    (hc : CarryAll P host.revision changes ds) : ¬ Converges P mirror ds host' := by
  intro hconv
  cases changes with
  | nil =>
    cases ds with
    | cons d ds => exact absurd hc (by simp [CarryAll])
    | nil =>
      obtain rfl : host = host' := by simpa using hrun
      have hr : mirror.registry.revision = host.revision := hconv.2.1
      omega
  | cons c cs =>
    cases ds with
    | nil => exact absurd hc (by simp [CarryAll])
    | cons d ds =>
      have hgap : host.revision + 1 ≠ mirror.registry.revision + 1 := by omega
      obtain ⟨⟨r, hr, hrs⟩, -⟩ := handle_gap hgap hc.1
      obtain ⟨⟨⟨r', hr', hrs'⟩, -⟩, -⟩ := converges_cons.mp hconv
      rw [hr] at hr'
      obtain rfl : r = r' := by simpa using hr'
      rw [hrs] at hrs'
      simp at hrs'

/-- **When a mirror converges.** In sync and not stale, and given the message of every change
in order, it converges exactly when none of the changes is an update. -/
theorem converges_iff_no_update (P : Platform) {host host' : RegistryStore} {mirror : RLPHandler}
    {changes : List Change} {ds : List Delivery} (hs : InSync host mirror.registry)
    (hfresh : mirror.registry.stale = false)
    (hrun : Run.run Change.effect host changes = some host')
    (hc : CarryAll P host.revision changes ds) :
    Converges P mirror ds host' ↔ ∀ c ∈ changes, ¬ c.IsUpdate := by
  induction changes generalizing host mirror ds with
  | nil =>
    cases ds with
    | cons d ds => exact absurd hc (by simp [CarryAll])
    | nil =>
      obtain rfl : host = host' := by simpa using hrun
      simp [Converges, handleAll, afterAll, hs]
  | cons c cs ih =>
    cases ds with
    | nil => exact absurd hc (by simp [CarryAll])
    | cons d ds =>
      obtain ⟨hcd, hrest⟩ := hc
      obtain ⟨host₁, he, hrun₁⟩ := Run.run_cons_eq_some.mp hrun
      have hrev := Change.revision_effect he
      rw [← hrev] at hrest
      rw [converges_cons, List.forall_mem_cons]
      cases c with
      | mutation m =>
        obtain ⟨hans, hst, hsync⟩ := handle_mutation_inSync hs
          (Change.effect_mutation_eq_some.mp he) hcd
        rw [ih hsync hst hrun₁ hrest]
        exact ⟨fun hall => ⟨not_false, hall.2⟩, fun hall => ⟨⟨hans, hst⟩, hall.2⟩⟩
      | update k e =>
        obtain ⟨hk, -⟩ := Change.effect_update_eq_some.mp he
        obtain ⟨-, hahead⟩ := handle_update_ahead d.1 hs hk hcd
        have hahead' : (mirror.handleMessage P d.1 d.2).2.registry.revision
            = host₁.revision + 1 := by omega
        exact iff_of_false (fun hall => not_converges_of_ahead hahead' hrun₁ hrest hall.2)
          fun hall => hall.1 trivial

/-! A tool that is there already is updated: the host is at revision 2, the mirror at 3. -/

def oneTool : RegistryStore := { tools := Table.empty.put (k := .tool) (bareTool "a"), revision := 1 }

def oneToolMirror : RLPHandler :=
  { registry := oneTool, records := { hostRelayId := "h", relaySessionId := "s" } }

def updateOneTool : Change := .update .tool (bareTool "a")

def oneToolUpdated : RegistryStore :=
  (oneTool.withTable .tool ((oneTool.table .tool).put (bareTool "a"))).bumpRevision

def toolUpdated : Delivery := (⟨"r", "g"⟩,
  linkMessage "tool_updated" [("registry_revision", .int 2), ("tool", .obj (bareToolPayload "a"))])

lemma oneTool_inSync : InSync oneTool oneToolMirror.registry := by
  refine ⟨rfl, fun k name => ?_⟩
  show (oneTool.table k).get name = _
  cases k with
  | tool =>
    have hg : (oneTool.table .tool).get name
        = if name = "a" then some (bareTool "a") else none :=
      Table.get_put (k := .tool) .empty (bareTool "a") name
    rw [hg]
    split <;> rfl
  | resource => rfl
  | prompt => rfl

lemma oneTool_updated : Run.run Change.effect oneTool [updateOneTool] = some oneToolUpdated := rfl

lemma toolUpdated_carries : CarryAll .strict oneTool.revision [updateOneTool] [toolUpdated] :=
  ⟨⟨_, _, rfl, rfl, _, rfl, rfl⟩, trivial⟩

theorem update_does_not_converge :
    InSync oneTool oneToolMirror.registry ∧ oneToolMirror.registry.stale = false ∧
      Run.run Change.effect oneTool [updateOneTool] = some oneToolUpdated ∧
      CarryAll .strict oneTool.revision [updateOneTool] [toolUpdated] ∧
      (afterAll .strict oneToolMirror [toolUpdated]).registry.revision = 3 ∧
      oneToolUpdated.revision = 2 ∧
      ¬ Converges .strict oneToolMirror [toolUpdated] oneToolUpdated := by
  refine ⟨oneTool_inSync, rfl, oneTool_updated, toolUpdated_carries, rfl, rfl, ?_⟩
  rintro ⟨-, hr, -⟩
  exact absurd hr (by decide)

theorem oneTool_converges_iff :
    Converges .strict oneToolMirror [toolUpdated] oneToolUpdated ↔
      ∀ c ∈ [updateOneTool], ¬ c.IsUpdate :=
  converges_iff_no_update .strict oneTool_inSync rfl oneTool_updated toolUpdated_carries

end NaiaRelay.Rlp
