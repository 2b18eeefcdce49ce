import NaiaRelay.Lib.Run

set_option autoImplicit false

/-!
A replica of a versioned value behind a link that loses, repeats and reorders.

The source goes through versions `0, 1, 2, …`, each reached from the one before by a change.
The replica takes a change only when it leads on from the version it is at, and a snapshot
whatever its version. Whatever arrives, it holds the value of the version it says it is at,
and no change it takes can fail.
-/

namespace Replica

variable {V D : Type*} {apply : V → D → Option V}

/-- The versions of the source; the change `n` leads from version `n` to `n + 1`. -/
structure History (apply : V → D → Option V) where
  value : ℕ → V
  change : ℕ → D
  step : ∀ n, apply (value n) (change n) = some (value (n + 1))

structure State (V : Type*) where
  version : ℕ
  value : V

/-- What the link may bring. -/
inductive Delivery
  | change (n : ℕ)
  | snapshot (n : ℕ)

/-- Taking a delivery; `none` when a change that is taken does not apply. -/
def deliver (H : History apply) (s : State V) : Delivery → Option (State V)
  | .change n =>
    if n = s.version then (apply s.value (H.change n)).map fun v => ⟨n + 1, v⟩ else some s
  | .snapshot n => some ⟨n, H.value n⟩

/-- The replica holds the value of its version. -/
def Faithful (H : History apply) (s : State V) : Prop := s.value = H.value s.version

variable {H : History apply} {s : State V}

theorem deliver_faithful (hs : Faithful H s) (d : Delivery) :
    ∃ s', deliver H s d = some s' ∧ Faithful H s' := by
  cases d with
  | snapshot n => exact ⟨_, rfl, rfl⟩
  | change n =>
    by_cases hn : n = s.version
    · subst hn
      refine ⟨⟨s.version + 1, H.value (s.version + 1)⟩, ?_, rfl⟩
      rw [deliver, if_pos rfl, hs, H.step]
      rfl
    · exact ⟨s, by rw [deliver, if_neg hn], hs⟩

lemma faithful_of_deliver {s' : State V} {d : Delivery} (hs : Faithful H s)
    (h : deliver H s d = some s') : Faithful H s' := by
  obtain ⟨t, ht, hf⟩ := deliver_faithful hs d
  obtain rfl : t = s' := Option.some.inj (ht.symm.trans h)
  exact hf

/-- **Safety of a replica.** Whatever arrives, it holds the value of its version. -/
theorem faithful_of_run {s' : State V} {ds : List Delivery} (hs : Faithful H s)
    (h : Run.run (deliver H) s ds = some s') : Faithful H s' :=
  Run.run_invariant (fun _ _ _ hs h => faithful_of_deliver hs h) hs h

end Replica
