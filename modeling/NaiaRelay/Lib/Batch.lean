import Mathlib.Tactic.Common

set_option autoImplicit false

/-!
Applying an operation to the items of a list, one by one, until one of them fails.

There is no undo: the state keeps what the items before the failing one did to it.
-/

namespace Batch

variable {S A ε : Type*} (op : S → A → Except ε S)

def forEach (s : S) : List A → Except ε Unit × S
  | [] => (.ok (), s)
  | a :: l =>
    match op s a with
    | .ok s' => forEach s' l
    | .error e => (.error e, s)

/-- The items that are applied, those before the first one that fails. -/
def accepted (s : S) : List A → List A
  | [] => []
  | a :: l =>
    match op s a with
    | .ok s' => a :: accepted s' l
    | .error _ => []

variable {op}

@[simp] lemma forEach_nil (s : S) : forEach op s [] = (.ok (), s) := rfl

lemma forEach_cons_ok {s s' : S} {a : A} (l : List A) (h : op s a = .ok s') :
    forEach op s (a :: l) = forEach op s' l := by
  simp [forEach, h]

lemma forEach_cons_error {s : S} {a : A} {e : ε} (l : List A) (h : op s a = .error e) :
    forEach op s (a :: l) = (.error e, s) := by
  simp [forEach, h]

lemma forEach_map {B : Type*} (f : B → A) (s : S) (l : List B) :
    forEach op s (l.map f) = forEach (fun s b => op s (f b)) s l := by
  induction l generalizing s with
  | nil => rfl
  | cons b l ih =>
    cases h : op s (f b) with
    | ok s' =>
      rw [List.map_cons, forEach_cons_ok _ h, ih, forEach_cons_ok l h]
    | error e =>
      rw [List.map_cons, forEach_cons_error _ h, forEach_cons_error l h]

lemma forEach_append {s s' : S} {l : List A} (l' : List A) (h : forEach op s l = (.ok (), s')) :
    forEach op s (l ++ l') = forEach op s' l' := by
  induction l generalizing s with
  | nil =>
    obtain rfl : s = s' := by simpa using h
    rfl
  | cons a l ih =>
    cases ha : op s a with
    | ok t =>
      rw [forEach_cons_ok l ha] at h
      rw [List.cons_append, forEach_cons_ok _ ha, ih h]
    | error e =>
      rw [forEach_cons_error l ha] at h
      simp at h

lemma forEach_accepted (s : S) (l : List A) :
    forEach op s (accepted op s l) = (.ok (), (forEach op s l).2) := by
  induction l generalizing s with
  | nil => rfl
  | cons a l ih =>
    cases ha : op s a with
    | ok s' => simp [accepted, forEach, ha, ih]
    | error e => simp [accepted, forEach, ha]

/-- **The invariant rule.** What every successful operation on an item of the list keeps, the
batch keeps, whether or not it fails. -/
theorem forEach_invariant {I : S → Prop} {l : List A}
    (hop : ∀ s, ∀ a ∈ l, ∀ s', I s → op s a = .ok s' → I s') {s : S} (hs : I s) :
    I (forEach op s l).2 := by
  induction l generalizing s with
  | nil => exact hs
  | cons a l ih =>
    cases h : op s a with
    | ok s' =>
      rw [forEach_cons_ok l h]
      exact ih (fun s b hb => hop s b (List.mem_cons_of_mem a hb)) (hop s a (by simp) s' hs h)
    | error e =>
      rw [forEach_cons_error l h]
      exact hs

/-- **Where a batch fails.** The items before the failing one have all been applied. -/
theorem forEach_error {s : S} {l : List A} {e : ε} (h : (forEach op s l).1 = .error e) :
    ∃ pre a post, l = pre ++ a :: post ∧
      forEach op s pre = (.ok (), (forEach op s l).2) ∧
      op (forEach op s l).2 a = .error e := by
  induction l generalizing s with
  | nil => simp at h
  | cons a l ih =>
    cases ha : op s a with
    | ok s' =>
      rw [forEach_cons_ok l ha] at h ⊢
      obtain ⟨pre, b, post, hl, hpre, hb⟩ := ih h
      exact ⟨a :: pre, b, post, by rw [hl, List.cons_append],
        by rw [forEach_cons_ok pre ha, hpre], hb⟩
    | error e' =>
      rw [forEach_cons_error l ha] at h ⊢
      exact ⟨[], a, l, rfl, rfl, by rw [ha]; exact congrArg _ (by simpa using h)⟩

/-! ### Operations on one key each -/

section Local

variable {K : Type*} {V : K → Type*} {key : A → K} {read : S → (k : K) → V k}

/-- An operation reads and writes what the state holds under its own key, and nothing else. -/
structure Local (op : S → A → Except ε S) (key : A → K) (read : S → (k : K) → V k) : Prop where
  frame : ∀ {s s' : S} {a : A}, op s a = .ok s' → ∀ k, k ≠ key a → read s' k = read s k
  error : ∀ {s t : S} {a : A} {e : ε}, read s (key a) = read t (key a) → op s a = .error e →
    op t a = .error e
  ok : ∀ {s t s' : S} {a : A}, read s (key a) = read t (key a) → op s a = .ok s' →
    ∃ t', op t a = .ok t' ∧ read s' (key a) = read t' (key a)

lemma forEach_frame (hop : Local op key read) (s : S) (l : List A) {k : K}
    (hk : ∀ a ∈ l, k ≠ key a) : read (forEach op s l).2 k = read s k :=
  forEach_invariant (I := fun t => read t k = read s k)
    (fun _ a ha _ ht h => (hop.frame h k (hk a ha)).trans ht) rfl

/-- **A batch depends on what it names only.** Two states that hold the same under the keys of
the list let the same items pass, end alike, and still hold the same where they did. -/
theorem forEach_agree (hop : Local op key read) {s t : S} {l : List A}
    (hl : ∀ a ∈ l, read s (key a) = read t (key a)) :
    (forEach op s l).1 = (forEach op t l).1 ∧ accepted op s l = accepted op t l ∧
      ∀ k, read s k = read t k → read (forEach op s l).2 k = read (forEach op t l).2 k := by
  induction l generalizing s t with
  | nil => exact ⟨rfl, rfl, fun k hk => hk⟩
  | cons a l ih =>
    have hread := hl a (by simp)
    cases ha : op s a with
    | error e =>
      have hb := hop.error hread ha
      rw [forEach_cons_error l ha, forEach_cons_error l hb]
      exact ⟨rfl, by simp [accepted, ha, hb], fun k hk => hk⟩
    | ok s' =>
      obtain ⟨t', hb, hafter⟩ := hop.ok hread ha
      have hkeep : ∀ k, read s k = read t k → read s' k = read t' k := by
        intro k hk
        by_cases hka : k = key a
        · subst hka
          exact hafter
        · rw [hop.frame ha k hka, hop.frame hb k hka, hk]
      obtain ⟨h1, hacc, hreads⟩ :=
        ih fun b hmem => hkeep (key b) (hl b (List.mem_cons_of_mem a hmem))
      rw [forEach_cons_ok l ha, forEach_cons_ok l hb]
      exact ⟨h1, by simp [accepted, ha, hb, hacc], fun k hk => hreads k (hkeep k hk)⟩

variable {l l' : List A}

lemma forEach_after (hop : Local op key read) (s : S)
    (hd : ∀ a ∈ l, ∀ b ∈ l', key a ≠ key b) :
    (forEach op (forEach op s l).2 l').1 = (forEach op s l').1 ∧
      accepted op (forEach op s l).2 l' = accepted op s l' := by
  have hagree : ∀ b ∈ l', read (forEach op s l).2 (key b) = read s (key b) := fun b hb =>
    forEach_frame hop s l fun a ha => (hd a ha b hb).symm
  obtain ⟨h1, hacc, -⟩ := forEach_agree hop hagree
  exact ⟨h1, hacc⟩

/-- **Batches on different keys commute**, as far as the state is read by key. -/
theorem forEach_comm (hop : Local op key read) (s : S)
    (hd : ∀ a ∈ l, ∀ b ∈ l', key a ≠ key b) (k : K) :
    read (forEach op (forEach op s l).2 l').2 k = read (forEach op (forEach op s l').2 l).2 k := by
  by_cases hk : ∃ a ∈ l, key a = k
  · -- The key belongs to `l`: `l'` leaves it alone, whichever comes first.
    obtain ⟨a, ha, rfl⟩ := hk
    have hagree : ∀ a ∈ l, read s (key a) = read (forEach op s l').2 (key a) := fun a ha =>
      (forEach_frame hop s l' (hd a ha)).symm
    rw [forEach_frame hop _ l' (hd a ha)]
    exact (forEach_agree hop hagree).2.2 (key a) (hagree a ha)
  · have hout : ∀ a ∈ l, k ≠ key a := fun a ha h => hk ⟨a, ha, h.symm⟩
    have hagree : ∀ b ∈ l', read (forEach op s l).2 (key b) = read s (key b) := fun b hb =>
      forEach_frame hop s l fun a ha => (hd a ha b hb).symm
    rw [forEach_frame hop _ l hout]
    exact (forEach_agree hop hagree).2.2 k (forEach_frame hop s l hout)

end Local

end Batch
