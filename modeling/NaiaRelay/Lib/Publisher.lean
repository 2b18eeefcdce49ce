import Mathlib.Order.Preorder.Chain
import Mathlib.Data.Set.Insert
import Mathlib.Logic.Relation

set_option autoImplicit false

/-!
A source that only moves on, and readers that take what it has posted.

What is posted may be taken at any time, by any reader, more than once or never. Whatever is
taken and in whatever order, each reader holds a value the source has had, and of the values of
two readers one leads to the other.
-/

namespace Publisher

variable {V ι : Type*}

/-- The source's value and all those it has had, what it has posted, and what the readers hold. -/
structure State (V ι : Type*) where
  current : V
  past : Set V
  posted : Set V
  held : ι → V

/-- Nothing has been posted, and all hold the same. -/
def start (v : V) : State V ι := ⟨v, {v}, ∅, fun _ => v⟩

variable [Preorder V] [DecidableEq ι]

inductive Step (s : State V ι) : State V ι → Prop
  /-- The source moves on. -/
  | advance {v : V} (h : s.current ≤ v) : Step s { s with current := v, past := insert v s.past }
  /-- The source posts its value. -/
  | post : Step s { s with posted := insert s.current s.posted }
  /-- A reader takes a posted value. -/
  | take (i : ι) {v : V} (h : v ∈ s.posted) : Step s { s with held := Function.update s.held i v }

def Reaches : State V ι → State V ι → Prop := Relation.ReflTransGen Step

/-- The past is a chain up to the source's value, and all that is posted or held is of the
past. -/
structure Ordered (s : State V ι) : Prop where
  chain : IsChain (· ≤ ·) s.past
  le_current : ∀ v ∈ s.past, v ≤ s.current
  current_mem : s.current ∈ s.past
  posted_subset : s.posted ⊆ s.past
  held_mem : ∀ i, s.held i ∈ s.past

variable {s t : State V ι}

omit [DecidableEq ι] in
lemma ordered_start (v : V) : Ordered (start v : State V ι) where
  chain := .singleton
  le_current _ hw := le_of_eq (Set.mem_singleton_iff.mp hw)
  current_mem := Set.mem_singleton v
  posted_subset := Set.empty_subset _
  held_mem _ := Set.mem_singleton v

lemma Ordered.step (hs : Ordered s) (h : Step s t) : Ordered t := by
  cases h with
  | @advance v h =>
    refine ⟨hs.chain.insert fun w hw _ => Or.inr ((hs.le_current w hw).trans h), ?_,
      Set.mem_insert _ _, hs.posted_subset.trans (Set.subset_insert _ _),
      fun i => Set.mem_insert_of_mem _ (hs.held_mem i)⟩
    rintro w (rfl | hw)
    · exact le_refl _
    · exact (hs.le_current w hw).trans h
  | post =>
    exact ⟨hs.chain, hs.le_current, hs.current_mem,
      Set.insert_subset hs.current_mem hs.posted_subset, hs.held_mem⟩
  | take i h =>
    refine ⟨hs.chain, hs.le_current, hs.current_mem, hs.posted_subset, fun j => ?_⟩
    by_cases hj : j = i
    · subst hj
      simpa using hs.posted_subset h
    · simpa [Function.update_of_ne hj] using hs.held_mem j

theorem Ordered.reaches (hs : Ordered s) (h : Reaches s t) : Ordered t := by
  induction h with
  | refl => exact hs
  | tail _ h ih => exact ih.step h

omit [DecidableEq ι] in
lemma Ordered.total (hs : Ordered s) {v w : V} (hv : v ∈ s.past) (hw : w ∈ s.past) :
    v ≤ w ∨ w ≤ v := by
  by_cases h : v = w
  · exact Or.inl (le_of_eq h)
  · exact hs.chain hv hw h

omit [DecidableEq ι] in
/-- **Agreement.** A version that tells apart any two values of which one leads to the other tells
apart all the values of the past. -/
theorem Ordered.eq_of_version (hs : Ordered s) {N W : Type*} (version : V → N) (view : V → W)
    (hversion : ∀ v w, v ≤ w → version v = version w → view v = view w) {v w : V}
    (hv : v ∈ s.past) (hw : w ∈ s.past) (h : version v = version w) : view v = view w := by
  rcases hs.total hv hw with hle | hle
  · exact hversion v w hle h
  · exact (hversion w v hle h.symm).symm

end Publisher
