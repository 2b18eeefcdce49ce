import Mathlib.Data.List.Perm.Basic
import Mathlib.Tactic.Common

set_option autoImplicit false

/-!
Jobs that are handed in one after the other and finished in any order.

A job is known by its number, the count of those before it. Whatever order they are finished in,
each is open, with work of its own that is under way, or has one result of its own, never both and
never two.
-/

namespace Desk

variable {J W R : Type*}

/-- The jobs in the order they came, the open ones with their work, and the results. -/
structure State (J W R : Type*) where
  jobs : List J := []
  opened : List (ℕ × W) := []
  closed : List (ℕ × R) := []

namespace State

/-- A job comes, and its work is begun. -/
def hand (s : State J W R) (job : J) (work : W) : State J W R :=
  { s with jobs := s.jobs ++ [job], opened := s.opened ++ [(s.jobs.length, work)] }

/-- The open job that stands here is finished. -/
def close (s : State J W R) (i : ℕ) (result : R) : State J W R :=
  { s with
    opened := s.opened.eraseIdx i
    closed := s.closed ++ (s.opened[i]?.map fun x => (x.1, result)).toList }

/-- A job comes and is finished at once. -/
def answer (s : State J W R) (job : J) (result : R) : State J W R :=
  { s with jobs := s.jobs ++ [job], closed := s.closed ++ [(s.jobs.length, result)] }

/-- The number of every job, once for each place it stands in. -/
def numbers (s : State J W R) : List ℕ := s.closed.map Prod.fst ++ s.opened.map Prod.fst

/-- This is known by the number of a job it belongs to. -/
def Belongs {A : Type*} (s : State J W R) (Own : ℕ → J → A → Prop) (x : ℕ × A) : Prop :=
  ∃ job, s.jobs[x.1]? = some job ∧ Own x.1 job x.2

end State

/-- The books are right: every number stands in one place, and what stands there is its job's
own. -/
structure Balanced (Doing : J → W → Prop) (May : ℕ → J → R → Prop) (s : State J W R) : Prop where
  numbers : s.numbers.Perm (List.range s.jobs.length)
  work : ∀ x ∈ s.opened, s.Belongs (fun _ => Doing) x
  results : ∀ x ∈ s.closed, s.Belongs May x

variable {Doing : J → W → Prop} {May May' : ℕ → J → R → Prop} {s : State J W R} {job : J} {work : W}
  {result : R} {i k : ℕ}

lemma balanced_empty : Balanced Doing May ({} : State J W R) :=
  ⟨List.Perm.refl _, fun _ h => absurd h List.not_mem_nil, fun _ h => absurd h List.not_mem_nil⟩

lemma belongs_append {A : Type*} {Own : ℕ → J → A → Prop} {x : ℕ × A} {s' : State J W R}
    (hjobs : s'.jobs = s.jobs ++ [job]) (h : s.Belongs Own x) : s'.Belongs Own x := by
  obtain ⟨old, hold, hown⟩ := h
  refine ⟨old, ?_, hown⟩
  rw [hjobs, List.getElem?_append_left (List.getElem?_eq_some_iff.mp hold).1, hold]

lemma belongs_last {A : Type*} {Own : ℕ → J → A → Prop} {a : A} {s' : State J W R}
    (hjobs : s'.jobs = s.jobs ++ [job]) (h : Own s.jobs.length job a) : s'.Belongs Own (s.jobs.length, a) :=
  ⟨job, by rw [hjobs]; exact List.getElem?_concat_length, h⟩

namespace Balanced

lemma mono (h : Balanced Doing May s) (hmay : ∀ k job result, May k job result → May' k job result) :
    Balanced Doing May' s where
  numbers := h.numbers
  work := h.work
  results x hx := by
    obtain ⟨job, hjob, hresult⟩ := h.results x hx
    exact ⟨job, hjob, hmay _ _ _ hresult⟩

lemma hand (h : Balanced Doing May s) (hwork : Doing job work) :
    Balanced Doing May (s.hand job work) where
  numbers := by
    show (s.closed.map Prod.fst ++ (s.opened ++ [(s.jobs.length, work)]).map Prod.fst).Perm
      (List.range (s.jobs ++ [job]).length)
    rw [List.length_append, List.length_singleton, List.range_succ, List.map_append,
      ← List.append_assoc]
    exact h.numbers.append_right _
  work := by
    intro x hx
    rcases List.mem_append.mp hx with hx | hx
    · exact belongs_append rfl (h.work x hx)
    · obtain rfl := List.mem_singleton.mp hx
      exact belongs_last rfl hwork
  results x hx := belongs_append rfl (h.results x hx)

lemma answer (h : Balanced Doing May s) (hmay : May s.jobs.length job result) :
    Balanced Doing May (s.answer job result) where
  numbers := by
    show ((s.closed ++ [(s.jobs.length, result)]).map Prod.fst ++ s.opened.map Prod.fst).Perm
      (List.range (s.jobs ++ [job]).length)
    rw [List.length_append, List.length_singleton, List.range_succ, List.map_append,
      List.append_assoc]
    refine (List.perm_append_comm.append_left (s.closed.map Prod.fst)).trans ?_
    rw [← List.append_assoc]
    exact h.numbers.append_right _
  work x hx := belongs_append rfl (h.work x hx)
  results := by
    intro x hx
    rcases List.mem_append.mp hx with hx | hx
    · exact belongs_append rfl (h.results x hx)
    · obtain rfl := List.mem_singleton.mp hx
      exact belongs_last rfl hmay

lemma close (h : Balanced Doing May s) (hi : s.opened[i]? = some (k, work))
    (hmay : ∀ job, Doing job work → May k job result) : Balanced Doing May (s.close i result) where
  numbers := by
    obtain ⟨hlt, hget⟩ := List.getElem?_eq_some_iff.mp hi
    show ((s.closed ++ (s.opened[i]?.map fun x => (x.1, result)).toList).map Prod.fst
      ++ (s.opened.eraseIdx i).map Prod.fst).Perm (List.range s.jobs.length)
    rw [hi, List.map_append, List.append_assoc]
    have hperm := (List.getElem_cons_eraseIdx_perm hlt).map Prod.fst
    rw [hget] at hperm
    exact (hperm.append_left _).trans h.numbers
  work x hx := h.work x (List.mem_of_mem_eraseIdx hx)
  results := by
    intro x hx
    rcases List.mem_append.mp hx with hx | hx
    · exact h.results x hx
    · rw [hi] at hx
      obtain rfl := List.mem_singleton.mp hx
      obtain ⟨job, hjob, hdoing⟩ := h.work _ (List.mem_of_getElem? hi)
      exact ⟨job, hjob, hmay job hdoing⟩

end Balanced

end Desk
