import Mathlib.Tactic.Common

set_option autoImplicit false

/-!
A call that suspends at most once: it runs to its end at once, or stops with a question and
the function that turns the answer into its result.
-/

/-- A call that has ended in `r`, or waits for the answer to `q`. -/
inductive Coroutine (Q A R : Type)
  | done (r : R)
  | await (q : Q) (resume : A → R)

/-- The call ends in `r`: at once, or on some answer. -/
def Coroutine.EndsIn {Q A R : Type} (r : R) : Coroutine Q A R → Prop
  | .done r' => r' = r
  | .await _ resume => ∃ a, resume a = r
