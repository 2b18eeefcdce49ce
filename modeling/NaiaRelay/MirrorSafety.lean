import NaiaRelay.Lib.Replica
import NaiaRelay.Mirror

set_option autoImplicit false

/-!
A mirror behind an unreliable link: whatever is lost, repeated or reordered, it holds the
entries the host had at the revision the mirror is at.
-/

namespace NaiaRelay.Rlp

open NaiaRelay.Registry

/-- A host that starts empty and changes one entry at a time. -/
structure HostHistory where
  registry : ℕ → RegistryStore
  mutation : ℕ → Mutation
  initial : registry 0 = {}
  step : ∀ n, (registry n).mutate (mutation n) = .ok (registry (n + 1))

namespace HostHistory

variable (H : HostHistory) (P : Platform)

/-- The messages about a history: the incremental one of a step, with the revision it led to,
or a snapshot of all the entries at some time. -/
def Sends (message : Obj) : Prop :=
  (∃ n : ℕ, Carries P (.mutation (H.mutation n)) (n + 1) message) ∨
    ∃ n, CarriesSnapshot P (H.registry n) message

lemma revision_eq (n : ℕ) : (H.registry n).revision = n := by
  induction n with
  | zero => rw [H.initial]; rfl
  | succ n ih =>
    rw [RegistryStore.revision_mutate (H.step n), ih]
    push_cast
    rfl

/-- What of a history reaches a mirror: the entries without their owners. -/
def replica : Replica.History Tables.apply where
  value n := (H.registry n).toTables.eraseOwner
  change n := (H.mutation n).eraseOwner
  step n := Tables.apply_eraseOwner (RegistryStore.apply_of_mutate (H.step n))

end HostHistory

/-- The handler's registry as a replica. -/
def Holds (s : Replica.State Tables) (h : RLPHandler) : Prop :=
  h.registry.revision = s.version ∧ h.registry.toTables = s.value

variable {P : Platform} {H : HostHistory} {s : Replica.State Tables} {h : RLPHandler}

lemma handleMessage_simulates {ids : NewIds} {message : Obj} (hs : Replica.Faithful H.replica s)
    (hh : Holds s h) (hm : H.Sends P message) :
    ∃ δ s', Replica.deliver H.replica s δ = some s' ∧
      (∃ response, (h.handleMessage P ids message).1 = .done (.ok response)) ∧
      Holds s' (h.handleMessage P ids message).2 := by
  obtain ⟨hr, ht⟩ := hh
  rcases hm with ⟨n, hc⟩ | ⟨n, hc⟩
  · by_cases hn : n = s.version
    · -- the next change: it applies because the replica is faithful
      subst hn
      obtain ⟨s', hd, -⟩ := Replica.deliver_faithful hs (.change s.version)
      refine ⟨.change s.version, s', hd, ?_⟩
      rw [Replica.deliver, if_pos rfl, Option.map_eq_some_iff] at hd
      obtain ⟨t, hap, rfl⟩ := hd
      rw [← ht] at hap
      rw [← hr] at hc
      obtain ⟨⟨response, hcall, -⟩, hafter⟩ := handle_mutation hap hc
      refine ⟨⟨response, hcall⟩, ?_⟩
      rw [hafter]
      exact ⟨by simp [hr], rfl⟩
    · have hgap : (n : ℤ) + 1 ≠ h.registry.revision + 1 := by omega
      obtain ⟨⟨response, hcall, -⟩, hafter⟩ := handle_gap hgap hc
      refine ⟨.change n, s, by rw [Replica.deliver, if_neg hn], ⟨response, hcall⟩, ?_⟩
      rw [hafter]
      exact ⟨hr, ht⟩
  · obtain ⟨⟨response, hcall, -⟩, hafter⟩ := handle_snapshot (h := h) hc
    refine ⟨.snapshot n, _, rfl, ⟨response, hcall⟩, ?_⟩
    rw [hafter]
    exact ⟨H.revision_eq n, rfl⟩

/-- **The mirror simulates a replica.** No message raises, and after each one the handler is
what some run of the replica leads to. -/
lemma handleAll_simulates (hs : Replica.Faithful H.replica s) (hh : Holds s h) (ds : List Delivery)
    (hd : ∀ d ∈ ds, H.Sends P d.2) :
    ∀ x ∈ handleAll P h ds, (∃ response, x.1 = .done (.ok response)) ∧
      ∃ δs s', Run.run (Replica.deliver H.replica) s δs = some s' ∧ Holds s' x.2 := by
  induction ds generalizing s h with
  | nil => simp [handleAll]
  | cons d ds ih =>
    obtain ⟨δ, s', hδ, hcall, hh'⟩ := handleMessage_simulates hs hh (hd d (by simp))
    have hstep : ∀ {δs t}, Run.run (Replica.deliver H.replica) s' δs = some t →
        Run.run (Replica.deliver H.replica) s (δ :: δs) = some t := fun hrun =>
      Run.run_cons_eq_some.mpr ⟨s', hδ, hrun⟩
    have hs' : Replica.Faithful H.replica s' := Replica.faithful_of_deliver hs hδ
    intro x hx
    rcases List.mem_cons.mp hx with rfl | hx
    · exact ⟨hcall, [δ], s', hstep rfl, hh'⟩
    · obtain ⟨hok, δs, t, ht, hht⟩ := ih hs' hh' (fun d hd' => hd d (by simp [hd'])) x hx
      exact ⟨hok, δ :: δs, t, hstep ht, hht⟩

/-- **Mirror safety.** Starting empty, whatever of a host's history reaches a mirror and in
whatever order, no message raises and after each the mirror's ordered entries are the host's
at the mirror's revision. -/
theorem mirror_safety (P : Platform) (H : HostHistory) (mirror : RLPHandler)
    (hempty : mirror.registry.toTables = {}) (hzero : mirror.registry.revision = 0)
    (ds : List Delivery) (hd : ∀ d ∈ ds, H.Sends P d.2) :
    ∀ x ∈ handleAll P mirror ds, (∃ response, x.1 = .done (.ok response)) ∧
      ∃ r : ℕ, x.2.registry.revision = r ∧
        x.2.registry.toTables = (H.registry r).toTables.eraseOwner := by
  have hs : Replica.Faithful H.replica ⟨0, {}⟩ := by
    show _ = (H.registry 0).toTables.eraseOwner
    rw [H.initial]
    rfl
  intro x hx
  obtain ⟨hcall, δs, s', hrun, hr, ht⟩ := handleAll_simulates hs ⟨hzero, hempty⟩ ds hd x hx
  exact ⟨hcall, s'.version, hr, ht.trans (Replica.faithful_of_run hs hrun)⟩

/-! A host that registers and deregisters the same tool in turn, seen by a mirror that gets the
deregistration first, the registration twice and an old snapshot last. -/

def toggling : HostHistory where
  registry n := { tools := if n % 2 = 0 then .empty else Table.empty.put (k := .tool) (bareTool "a"),
                  revision := n }
  mutation n := if n % 2 = 0 then .register .tool (bareTool "a") else .deregister .tool "a"
  initial := rfl
  step n := by
    rcases Nat.mod_two_eq_zero_or_one n with hn | hn
    · have hn' : (n + 1) % 2 ≠ 0 := by omega
      simp only [hn, if_true, if_neg hn']
      exact RegistryStore.mutate_register_eq_ok.mpr ⟨AList.notMem_empty _, rfl⟩
    · have hn' : (n + 1) % 2 = 0 := by omega
      have hn0 : n % 2 ≠ 0 := by omega
      simp only [hn', if_true, if_neg hn0]
      exact RegistryStore.mutate_deregister_eq_ok.mpr ⟨Table.mem_put.mpr (Or.inr rfl), rfl⟩

def toolAdded : Obj := linkMessage "tool_added" [("registry_revision", .int 1),
  ("tool", .obj (bareToolPayload "a"))]

def toolRemoved : Obj := linkMessage "tool_removed" [("registry_revision", .int 2),
  ("tool_name", .str "a")]

def emptySnapshot : Obj := linkMessage "tool_snapshot" [("registry_revision", .int 0)]

theorem toggling_mirror_safe :
    let mirror : RLPHandler :=
      { registry := {}, records := { hostRelayId := "h", relaySessionId := "s" } }
    ∀ x ∈ handleAll .strict mirror [(⟨"r1", "g1"⟩, toolRemoved), (⟨"r2", "g2"⟩, toolAdded),
        (⟨"r3", "g3"⟩, toolAdded), (⟨"r4", "g4"⟩, emptySnapshot)],
      (∃ response, x.1 = .done (.ok response)) ∧ ∃ r : ℕ, x.2.registry.revision = r ∧
        x.2.registry.toTables = (toggling.registry r).toTables.eraseOwner :=
  mirror_safety .strict toggling _ rfl rfl _ (by
    intro d hd
    simp only [List.mem_cons, List.not_mem_nil, or_false] at hd
    rcases hd with rfl | rfl | rfl | rfl
    · exact Or.inl ⟨1, _, _, rfl, rfl, rfl⟩
    · exact Or.inl ⟨0, _, _, rfl, rfl, _, rfl, rfl⟩
    · exact Or.inl ⟨0, _, _, rfl, rfl, _, rfl, rfl⟩
    · exact Or.inr ⟨0, _, _, rfl, rfl, rfl, rfl, rfl, rfl⟩)

end NaiaRelay.Rlp
