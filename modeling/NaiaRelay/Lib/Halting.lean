import Mathlib.Computability.StateTransition
import Mathlib.Tactic.Common

set_option autoImplicit false

/-!
When a system left to itself comes to a halt.

The system is a partial step function on states; it halts when it reaches a state without a
step. Running it is Mathlib's `StateTransition.eval`.
-/

namespace Halting

open StateTransition

variable {S : Type*}

/-- Started in `s`, the system reaches a state without a step. -/
def Halts (step : S → Option S) (s : S) : Prop := (eval step s).Dom

variable {step : S → Option S} {s s' : S}

lemma halts_of_none (h : step s = none) : Halts step s :=
  Part.dom_iff_mem.mpr ⟨s, mem_eval.mpr ⟨.refl, h⟩⟩

lemma halts_iff_of_some (h : step s = some s') : Halts step s ↔ Halts step s' := by
  have hreach : Reaches step s s' := .single h
  rw [Halts, Halts, reaches_eval hreach]

/-- **The rule of growth.** A system whose state is at least `n` big, takes a step only while that
is less than a bound, and is bigger after it, halts. -/
theorem halts_of_bound (I : ℕ → S → Prop) (bound : ℕ)
    (hstep : ∀ n s s', I n s → step s = some s' → n < bound ∧ I (n + 1) s') {n : ℕ} (hs : I n s) :
    Halts step s := by
  induction hd : bound - n generalizing n s with
  | zero =>
    cases hnext : step s with
    | none => exact halts_of_none hnext
    | some s' =>
      have hlt := (hstep n s s' hs hnext).1
      omega
  | succ d ih =>
    cases hnext : step s with
    | none => exact halts_of_none hnext
    | some s' => exact (halts_iff_of_some hnext).mpr (ih (hstep n s s' hs hnext).2 (by omega))

end Halting
