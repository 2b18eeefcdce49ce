import Mathlib.Data.Nat.Notation
import Mathlib.Logic.Function.Basic
import Mathlib.Tactic.SplitIfs

set_option autoImplicit false

/-!
A file that is replaced at once.

A text is written to a path of its own, bit by bit, and moved to where it belongs when all of it is
there. The writer may stop after any step.
-/

namespace Aside

variable {α γ : Type}

/-- What files hold, by their paths. -/
abbrev Files (α γ : Type) := α → Option (List γ)

/-- A text that is to replace what is at a path, by way of another. -/
structure Job (α γ : Type) where
  target : α
  aside : α
  text : List γ
  apart : aside ≠ target

inductive Phase
  | ready
  /-- So much of the text has been written. -/
  | writing (n : ℕ)
  | done
  deriving DecidableEq

inductive Event
  /-- The file aside is emptied. -/
  | opens
  /-- So much more is written. -/
  | writes (n : ℕ)
  | moves

variable [DecidableEq α]

/-- One step of the writer; `none` where it does not come to it. -/
def step (J : Job α γ) (s : Files α γ × Phase) : Event → Option (Files α γ × Phase)
  | .opens =>
    match s.2 with
    | .ready => some (Function.update s.1 J.aside (some []), .writing 0)
    | _ => none
  | .writes n =>
    match s.2 with
    | .writing k => some (Function.update s.1 J.aside (some (J.text.take (k + n))), .writing (k + n))
    | _ => none
  | .moves =>
    match s.2 with
    | .writing k =>
      if J.text.length ≤ k then
        some (Function.update (Function.update s.1 J.target (s.1 J.aside)) J.aside none, .done)
      else none
    | _ => none

/-- Where a writer stands that began with these files. -/
structure Written (J : Job α γ) (before : Files α γ) (s : Files α γ × Phase) : Prop where
  others : ∀ p, p ≠ J.target → p ≠ J.aside → s.1 p = before p
  aside : ∀ n, s.2 = .writing n → s.1 J.aside = some (J.text.take n)
  kept : s.2 ≠ .done → s.1 J.target = before J.target
  replaced : s.2 = .done → s.1 J.target = some J.text

variable {J : Job α γ} {before : Files α γ} {s s' : Files α γ × Phase}

omit [DecidableEq α] in
lemma written_ready (J : Job α γ) (before : Files α γ) : Written J before (before, .ready) :=
  ⟨fun _ _ _ => rfl, by rintro n ⟨⟩, fun _ => rfl, by rintro ⟨⟩⟩

lemma Written.write (h : Written J before s) (hs : s.2 ≠ .done) (n : ℕ) :
    Written J before (Function.update s.1 J.aside (some (J.text.take n)), .writing n) where
  others p ht ha := (Function.update_of_ne ha _ _).trans (h.others p ht ha)
  aside k hk := by
    obtain rfl := Phase.writing.inj hk
    exact Function.update_self ..
  kept _ := (Function.update_of_ne J.apart.symm _ _).trans (h.kept hs)
  replaced hdone := by cases hdone

/-- **Replacing at once.** Wherever the writer stops, every path but its two holds what it held,
and the one it is about holds what it held or all of the text. -/
lemma Written.step (h : Written J before s) {e : Event} (hstep : Aside.step J s e = some s') :
    Written J before s' := by
  obtain ⟨files, phase⟩ := s
  cases e with
  | opens =>
    cases phase with
    | ready =>
      obtain rfl := Option.some.inj hstep
      have hwrite := h.write (by rintro ⟨⟩) 0
      rwa [List.take_zero] at hwrite
    | writing n => cases hstep
    | done => cases hstep
  | writes n =>
    cases phase with
    | writing k =>
      obtain rfl := Option.some.inj hstep
      exact h.write (by rintro ⟨⟩) (k + n)
    | ready => cases hstep
    | done => cases hstep
  | moves =>
    cases phase with
    | writing k =>
      simp only [Aside.step] at hstep
      split_ifs at hstep with hk
      obtain rfl := Option.some.inj hstep
      refine ⟨fun p ht ha => ?_, by rintro n ⟨⟩, fun hne => absurd rfl hne, fun _ => ?_⟩
      · dsimp only
        rw [Function.update_of_ne ha, Function.update_of_ne ht]
        exact h.others p ht ha
      · have haside : files J.aside = some J.text := by
          rw [← List.take_of_length_le hk]
          exact h.aside k rfl
        dsimp only
        rw [Function.update_of_ne J.apart.symm, Function.update_self, haside]
    | ready => cases hstep
    | done => cases hstep

end Aside
