import Mathlib.Tactic.Common

set_option autoImplicit false

/-!
Reading a stream line by line.

A line ends with the separator, which belongs to it; what is left after the last one is a line
of its own. Reading a line returns it and what is still to be read.
-/

namespace LineStream

variable {α : Type*} [DecidableEq α] (sep : α)

def readline : List α → List α × List α
  | [] => ([], [])
  | a :: l =>
    if a = sep then ([a], l)
    else
      let x := readline l
      (a :: x.1, x.2)

lemma readline_append_snd (l : List α) : (readline sep l).1 ++ (readline sep l).2 = l := by
  induction l with
  | nil => rfl
  | cons a l ih =>
    rw [readline]
    split
    · rfl
    · exact congrArg (a :: ·) ih

lemma length_readline_lt {l : List α} (h : (readline sep l).1 ≠ []) :
    (readline sep l).2.length < l.length := by
  have hlength := congrArg List.length (readline_append_snd sep l)
  have hpos := List.length_pos_iff.mpr h
  rw [List.length_append] at hlength
  omega

lemma readline_ne_nil {l : List α} (h : l ≠ []) : (readline sep l).1 ≠ [] := by
  obtain ⟨a, l, rfl⟩ := List.exists_cons_of_ne_nil h
  rw [readline]
  split <;> exact List.cons_ne_nil _ _

lemma takeWhile_readline (l : List α) :
    (readline sep l).1.takeWhile (· ≠ sep) = l.takeWhile (· ≠ sep) := by
  induction l with
  | nil => rfl
  | cons a l ih =>
    rw [readline]
    split_ifs with ha
    · rw [ha]
      simp
    · rw [List.takeWhile_cons_of_pos (by simpa using ha), List.takeWhile_cons_of_pos
        (by simpa using ha), ih]

/-- **A line is read up to its end.** -/
lemma readline_line {line : List α} (h : sep ∉ line) (rest : List α) :
    readline sep (line ++ sep :: rest) = (line ++ [sep], rest) := by
  induction line with
  | nil => simp [readline]
  | cons a line ih =>
    obtain ⟨hne, hline⟩ := not_or.mp (mt List.mem_cons.mpr h)
    rw [List.cons_append, readline, if_neg (Ne.symm hne), ih hline]
    rfl

lemma readline_cases (l : List α) :
    (∃ line, sep ∉ line ∧ (readline sep l).1 = line ++ [sep]) ∨ (readline sep l).2 = [] := by
  induction l with
  | nil => exact Or.inr rfl
  | cons a l ih =>
    rw [readline]
    split
    · rename_i ha
      exact Or.inl ⟨[], by simp, by rw [ha]; rfl⟩
    · rename_i hne
      rcases ih with ⟨line, hline, heq⟩ | hnil
      · refine Or.inl ⟨a :: line, ?_, congrArg (a :: ·) heq⟩
        rw [List.mem_cons, not_or]
        exact ⟨Ne.symm hne, hline⟩
      · exact Or.inr hnil

/-- All the lines of a stream. -/
def lines (l : List α) : List (List α) :=
  if _h : (readline sep l).1 = [] then []
  else (readline sep l).1 :: lines (readline sep l).2
termination_by l.length
decreasing_by exact length_readline_lt sep _h

@[simp] lemma lines_nil : lines sep [] = [] := by
  rw [lines]
  exact dif_pos rfl

lemma lines_of_ne_nil {l : List α} (h : l ≠ []) :
    lines sep l = (readline sep l).1 :: lines sep (readline sep l).2 := by
  rw [lines, dif_neg (readline_ne_nil sep h)]

lemma lines_line {line : List α} (h : sep ∉ line) (rest : List α) :
    lines sep (line ++ sep :: rest) = (line ++ [sep]) :: lines sep rest := by
  rw [lines, readline_line sep h rest, dif_neg (by simp)]

/-- **Lines put together are read one by one.** -/
theorem lines_flatten {frames : List (List α)}
    (h : ∀ frame ∈ frames, ∃ line, sep ∉ line ∧ frame = line ++ [sep]) :
    lines sep frames.flatten = frames := by
  induction frames with
  | nil => exact lines_nil sep
  | cons frame frames ih =>
    obtain ⟨line, hline, rfl⟩ := h frame (by simp)
    rw [List.flatten_cons, List.append_assoc, List.singleton_append, lines_line sep hline,
      ih fun frame hf => h frame (List.mem_cons_of_mem _ hf)]

end LineStream
