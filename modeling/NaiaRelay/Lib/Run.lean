import Mathlib.Tactic.Common

set_option autoImplicit false

/-!
Runs of a step function.

A system is a partial step function on states, labelled by events; an event that is not
enabled gives nothing. A run is a list of events, each enabled where the one before it
left off.
-/

namespace Run

variable {S E S' E' : Type*}

section
variable (step : S → E → Option S)

/-- The state a run ends in. -/
def run (s : S) : List E → Option S
  | [] => some s
  | e :: es => (step s e).bind fun s' => run s' es

/-- Every event of a run with the state it met. -/
def trace (s : S) : List E → List (S × E)
  | [] => []
  | e :: es => (s, e) :: (step s e).elim [] fun s' => trace s' es

/-- The states a run visits, the first one included. -/
def states (s : S) : List E → List S
  | [] => [s]
  | e :: es => s :: (step s e).elim [] fun s' => states s' es

variable {step}

@[simp] lemma run_nil (s : S) : run step s [] = some s := rfl

lemma run_cons (s : S) (e : E) (es : List E) :
    run step s (e :: es) = (step s e).bind fun s' => run step s' es := rfl

lemma run_cons_eq_some {s s' : S} {e : E} {es : List E} :
    run step s (e :: es) = some s' ↔ ∃ t, step s e = some t ∧ run step t es = some s' := by
  rw [run_cons, Option.bind_eq_some_iff]

lemma run_append (s : S) (es es' : List E) :
    run step s (es ++ es') = (run step s es).bind fun t => run step t es' := by
  induction es generalizing s with
  | nil => rfl
  | cons e es ih =>
    rw [List.cons_append, run_cons, run_cons]
    cases step s e with
    | none => rfl
    | some t => exact ih t

lemma run_append_eq_some {s s' : S} {es es' : List E} :
    run step s (es ++ es') = some s' ↔
      ∃ t, run step s es = some t ∧ run step t es' = some s' := by
  rw [run_append, Option.bind_eq_some_iff]

lemma trace_cons {s t : S} {e : E} (es : List E) (h : step s e = some t) :
    trace step s (e :: es) = (s, e) :: trace step t es := by
  simp [trace, h]

lemma trace_singleton (s : S) (e : E) : trace step s [e] = [(s, e)] := by
  cases h : step s e <;> simp [trace, h]

lemma states_cons {s t : S} {e : E} (es : List E) (h : step s e = some t) :
    states step s (e :: es) = s :: states step t es := by
  simp [states, h]

lemma trace_append {s t : S} {es : List E} (es' : List E) (h : run step s es = some t) :
    trace step s (es ++ es') = trace step s es ++ trace step t es' := by
  induction es generalizing s with
  | nil =>
    obtain rfl : s = t := by simpa using h
    rfl
  | cons e es ih =>
    obtain ⟨u, hu, h⟩ := run_cons_eq_some.mp h
    rw [List.cons_append, trace_cons _ hu, trace_cons _ hu, ih h, List.cons_append]

lemma trace_map_snd {s s' : S} {es : List E} (h : run step s es = some s') :
    (trace step s es).map Prod.snd = es := by
  induction es generalizing s with
  | nil => rfl
  | cons e es ih =>
    obtain ⟨t, ht, h⟩ := run_cons_eq_some.mp h
    rw [trace_cons _ ht, List.map_cons, ih h]

lemma mem_trace {s s' t : S} {e : E} {es : List E} (h : run step s es = some s')
    (hm : (t, e) ∈ trace step s es) :
    ∃ es₁ es₂ u, es = es₁ ++ e :: es₂ ∧ run step s es₁ = some t ∧ step t e = some u := by
  induction es generalizing s with
  | nil => simp [trace] at hm
  | cons e' es ih =>
    obtain ⟨u, hu, h⟩ := run_cons_eq_some.mp h
    rw [trace_cons _ hu, List.mem_cons] at hm
    rcases hm with hm | hm
    · obtain ⟨rfl, rfl⟩ := Prod.mk.inj hm
      exact ⟨[], es, u, rfl, rfl, hu⟩
    · obtain ⟨es₁, es₂, v, rfl, hrun, hv⟩ := ih h hm
      exact ⟨e' :: es₁, es₂, v, rfl, run_cons_eq_some.mpr ⟨u, hu, hrun⟩, hv⟩

lemma head_mem_states (s : S) (es : List E) : s ∈ states step s es := by
  cases es <;> simp [states]

lemma mem_states_of_mem_trace {s : S} {es : List E} {p : S × E} (hp : p ∈ trace step s es) :
    p.1 ∈ states step s es := by
  induction es generalizing s with
  | nil => simp [trace] at hp
  | cons e es ih =>
    rw [trace, List.mem_cons] at hp
    rcases hp with rfl | hp
    · exact head_mem_states s (e :: es)
    · cases he : step s e with
      | none => simp [he] at hp
      | some t =>
        rw [he] at hp
        rw [states_cons _ he]
        exact List.mem_cons_of_mem _ (ih hp)

lemma last_mem_states {s s' : S} {es : List E} (h : run step s es = some s') :
    s' ∈ states step s es := by
  induction es generalizing s with
  | nil =>
    obtain rfl : s = s' := by simpa using h
    simp [states]
  | cons e es ih =>
    obtain ⟨t, ht, h⟩ := run_cons_eq_some.mp h
    rw [states_cons _ ht]
    exact List.mem_cons_of_mem _ (ih h)

/-! ### Invariants -/

/-- **The invariant rule.** What every step keeps, every run keeps. -/
theorem run_invariant {I : S → Prop} (hstep : ∀ s e s', I s → step s e = some s' → I s')
    {s s' : S} {es : List E} (hs : I s) (h : run step s es = some s') : I s' := by
  induction es generalizing s with
  | nil =>
    obtain rfl : s = s' := by simpa using h
    exact hs
  | cons e es ih =>
    obtain ⟨t, ht, h⟩ := run_cons_eq_some.mp h
    exact ih (hstep s e t hs ht) h

/-- **The invariant rule under a condition on the steps.** -/
theorem run_invariant_of {I : S → Prop} {Q : S → E → Prop}
    (hstep : ∀ s e s', I s → Q s e → step s e = some s' → I s')
    {s s' : S} {es : List E} (hs : I s) (hq : ∀ p ∈ trace step s es, Q p.1 p.2)
    (h : run step s es = some s') : I s' := by
  induction es generalizing s with
  | nil =>
    obtain rfl : s = s' := by simpa using h
    exact hs
  | cons e es ih =>
    obtain ⟨t, ht, h⟩ := run_cons_eq_some.mp h
    rw [trace_cons _ ht] at hq
    exact ih (hstep s e t hs (hq (s, e) (by simp)) ht) (fun p hp => hq p (by simp [hp])) h

/-- **The invariant rule with the first label.** Where a step keeps `I` along with the label of
the first step so far that has one, a run does. -/
theorem run_invariant_first {C : Type*} {label : S → E → Option C} {I : S → Option C → Prop}
    {Q : S → E → Prop}
    (hstep : ∀ s e s' o, I s o → Q s e → step s e = some s' → I s' (o.or (label s e)))
    {s s' : S} {es : List E} {o : Option C} (hs : I s o)
    (hq : ∀ p ∈ trace step s es, Q p.1 p.2) (h : run step s es = some s') :
    I s' (o.or ((trace step s es).findSome? fun p => label p.1 p.2)) := by
  induction es generalizing s o with
  | nil =>
    obtain rfl : s = s' := by simpa using h
    simpa [trace] using hs
  | cons e es ih =>
    obtain ⟨t, ht, h⟩ := run_cons_eq_some.mp h
    rw [trace_cons _ ht] at hq ⊢
    have hit := ih (hstep s e t o hs (hq (s, e) (by simp)) ht) (fun p hp => hq p (by simp [hp])) h
    rw [Option.or_assoc] at hit
    rw [List.findSome?_cons]
    cases hl : label s e <;> simpa [hl] using hit

/-- **The counting rule.** Where a step keeps `I` along with the number of events so far that
satisfy `q`, a run does. -/
theorem run_invariant_count {I : S → ℕ → Prop} {q : S → E → Bool}
    (hstep : ∀ s e s' n, I s n → step s e = some s' → I s' (n + (q s e).toNat))
    {s s' : S} {es : List E} {n : ℕ} (hs : I s n) (h : run step s es = some s') :
    I s' (n + (trace step s es).countP fun p => q p.1 p.2) := by
  induction es generalizing s n with
  | nil =>
    obtain rfl : s = s' := by simpa using h
    simpa [trace] using hs
  | cons e es ih =>
    obtain ⟨t, ht, h⟩ := run_cons_eq_some.mp h
    have hit := ih (hstep s e t n hs ht) h
    rw [trace_cons _ ht, List.countP_cons]
    cases hq : q s e <;> simpa [hq, Nat.add_assoc, Nat.add_comm, Nat.add_left_comm] using hit

/-- **The history rule.** Where a step keeps `I` along with what has been gathered from the
events so far, a run does. -/
theorem run_invariant_fold {C : Type*} {f : C → S × E → C} {I : S → C → Prop} {Q : S → E → Prop}
    (hstep : ∀ s e s' c, I s c → Q s e → step s e = some s' → I s' (f c (s, e)))
    {s s' : S} {es : List E} {c : C} (hs : I s c) (hq : ∀ p ∈ trace step s es, Q p.1 p.2)
    (h : run step s es = some s') : I s' ((trace step s es).foldl f c) := by
  induction es generalizing s c with
  | nil =>
    obtain rfl : s = s' := by simpa using h
    exact hs
  | cons e es ih =>
    obtain ⟨t, ht, h⟩ := run_cons_eq_some.mp h
    rw [trace_cons _ ht] at hq ⊢
    exact ih (hstep s e t c hs (hq (s, e) (by simp)) ht) (fun p hp => hq p (by simp [hp])) h

/-- **The history rule, on the whole of it.** -/
theorem run_invariant_trace {I : S → List (S × E) → Prop} {Q : S → E → Prop}
    (hstep : ∀ s e s' l, I s l → Q s e → step s e = some s' → I s' (l ++ [(s, e)]))
    {s s' : S} {es : List E} {l : List (S × E)} (hs : I s l)
    (hq : ∀ p ∈ trace step s es, Q p.1 p.2) (h : run step s es = some s') :
    I s' (l ++ trace step s es) := by
  have hfold : ∀ (tr l : List (S × E)), tr.foldl (fun l q => l ++ [q]) l = l ++ tr := by
    intro tr
    induction tr with
    | nil => simp
    | cons q tr ih => intro l; rw [List.foldl_cons, ih, List.append_assoc, List.singleton_append]
  rw [← hfold]
  exact run_invariant_fold hstep hs hq h

theorem states_invariant_of {I : S → Prop} {Q : S → E → Prop}
    (hstep : ∀ s e s', I s → Q s e → step s e = some s' → I s') {s : S} {es : List E} (hs : I s)
    (hq : ∀ p ∈ trace step s es, Q p.1 p.2) : ∀ t ∈ states step s es, I t := by
  induction es generalizing s with
  | nil =>
    intro t ht
    obtain rfl := List.mem_singleton.mp ht
    exact hs
  | cons e es ih =>
    intro t ht
    rw [states, List.mem_cons] at ht
    rcases ht with rfl | ht
    · exact hs
    · cases he : step s e with
      | none => simp [he] at ht
      | some u =>
        rw [trace_cons _ he] at hq
        rw [he] at ht
        exact ih (hstep s e u hs (hq (s, e) (by simp)) he) (fun p hp => hq p (by simp [hp])) t ht

theorem states_invariant {I : S → Prop} (hstep : ∀ s e s', I s → step s e = some s' → I s')
    {s : S} {es : List E} (hs : I s) : ∀ t ∈ states step s es, I t :=
  states_invariant_of (Q := fun _ _ => True) (fun s e s' hi _ => hstep s e s' hi) hs
    fun _ _ => trivial

/-- **A property that exactly the bad steps break.** If `J` holds throughout and, wherever
`J` and `I` hold, a step keeps `I` exactly when it is good, then `I` holds in every state of
a run exactly when every step of it is good. -/
theorem states_iff_trace {J I : S → Prop} {Q : S → E → Prop}
    (hJ : ∀ s e s', J s → step s e = some s' → J s')
    (hI : ∀ s e s', J s → I s → step s e = some s' → (I s' ↔ Q s e))
    {s s' : S} {es : List E} (hj : J s) (hi : I s) (h : run step s es = some s') :
    (∀ t ∈ states step s es, I t) ↔ ∀ p ∈ trace step s es, Q p.1 p.2 := by
  induction es generalizing s with
  | nil => simp [states, trace, hi]
  | cons e es ih =>
    obtain ⟨t, ht, h⟩ := run_cons_eq_some.mp h
    have hiff := hI s e t hj hi ht
    rw [states_cons _ ht, trace_cons _ ht]
    constructor
    · intro hall
      have hit : I t := hall t (List.mem_cons_of_mem _ (head_mem_states t es))
      have hrest := (ih (hJ s e t hj ht) hit h).mp fun u hu => hall u (List.mem_cons_of_mem _ hu)
      intro p hp
      rcases List.mem_cons.mp hp with rfl | hp
      · exact hiff.mp hit
      · exact hrest p hp
    · intro hall
      have hit : I t := hiff.mpr (hall (s, e) (by simp))
      have hrest := (ih (hJ s e t hj ht) hit h).mpr fun p hp => hall p (by simp [hp])
      intro u hu
      rcases List.mem_cons.mp hu with rfl | hu
      · exact hi
      · exact hrest u hu

end

/-! ### Refinement -/

variable {step : S → E → Option S} {step' : S' → E' → Option S'}

/-- **The refinement rule.** If every step projects to a run of another system, every run
does. -/
theorem run_refines (π : S → S') (ψ : S → E → List E')
    (hstep : ∀ s e t, step s e = some t → run step' (π s) (ψ s e) = some (π t))
    {s t : S} {es : List E} (h : run step s es = some t) :
    run step' (π s) ((trace step s es).flatMap fun p => ψ p.1 p.2) = some (π t) := by
  induction es generalizing s with
  | nil =>
    obtain rfl : s = t := by simpa using h
    rfl
  | cons e es ih =>
    obtain ⟨u, hu, h⟩ := run_cons_eq_some.mp h
    rw [trace_cons _ hu, List.flatMap_cons]
    exact run_append_eq_some.mpr ⟨π u, hstep s e u hu, ih h⟩

/-- **The simulation rule.** If every step is matched, from any related state, by a run of
another system to a related state, every run is. -/
theorem run_simulates {R : S → S' → Prop}
    (hstep : ∀ s e t s', R s s' → step s e = some t →
      ∃ es' t', run step' s' es' = some t' ∧ R t t')
    {s t : S} {s' : S'} {es : List E} (hr : R s s') (h : run step s es = some t) :
    ∃ es' t', run step' s' es' = some t' ∧ R t t' := by
  induction es generalizing s s' with
  | nil =>
    obtain rfl : s = t := by simpa using h
    exact ⟨[], s', rfl, hr⟩
  | cons e es ih =>
    obtain ⟨u, hu, h⟩ := run_cons_eq_some.mp h
    obtain ⟨es₁, u', hu', hru⟩ := hstep s e u s' hr hu
    obtain ⟨es₂, t', ht', hrt⟩ := ih hru h
    exact ⟨es₁ ++ es₂, t', run_append_eq_some.mpr ⟨u', hu', ht'⟩, hrt⟩

/-! ### Interchange -/

/-- **The congruence rule.** Runs from related states end in related states, if steps do. -/
theorem run_congr {R : S → S → Prop}
    (hstep : ∀ {s s' t e}, R s s' → step s e = some t → ∃ t', step s' e = some t' ∧ R t t')
    {s s' t : S} {es : List E} (hr : R s s') (h : run step s es = some t) :
    ∃ t', run step s' es = some t' ∧ R t t' := by
  induction es generalizing s s' with
  | nil =>
    obtain rfl : s = t := by simpa using h
    exact ⟨s', rfl, hr⟩
  | cons e es ih =>
    obtain ⟨u, hu, h⟩ := run_cons_eq_some.mp h
    obtain ⟨u', hu', hru⟩ := hstep hr hu
    obtain ⟨t', ht', hrt⟩ := ih hru h
    exact ⟨t', run_cons_eq_some.mpr ⟨u', hu', ht'⟩, hrt⟩

/-- **The interchange rule.** If two events lead to related states in either order, a run in
which they are adjacent ends in a state related to that of the run with the two swapped. -/
theorem run_swap {R : S → S → Prop}
    (hstep : ∀ {s s' t e}, R s s' → step s e = some t → ∃ t', step s' e = some t' ∧ R t t')
    {s t : S} {es₁ es₂ : List E} {a b : E}
    (hswap : ∀ {u v}, run step s es₁ = some u → run step u [a, b] = some v →
      ∃ v', run step u [b, a] = some v' ∧ R v v')
    (h : run step s (es₁ ++ [a, b] ++ es₂) = some t) :
    ∃ t', run step s (es₁ ++ [b, a] ++ es₂) = some t' ∧ R t t' := by
  obtain ⟨v, hv, h⟩ := run_append_eq_some.mp h
  obtain ⟨u, hu, hv⟩ := run_append_eq_some.mp hv
  obtain ⟨v', hv', hr⟩ := hswap hu hv
  obtain ⟨t', ht', hrt⟩ := run_congr hstep hr h
  exact ⟨t', run_append_eq_some.mpr ⟨v', run_append_eq_some.mpr ⟨u, hu, hv'⟩, ht'⟩, hrt⟩

end Run
