import Mathlib.Tactic.Common

set_option autoImplicit false

/-!
Checking a value part by part and collecting the errors of all the parts.

`Except` stops at the first error. Here `<*>` runs both sides and joins what they found,
so a record is checked by applying its constructor to the checks of its fields.
-/

universe u v

/-- A checked value, or the errors found. -/
inductive Validation (ε : Type u) (α : Type v)
  | ok (a : α)
  | errors (es : List ε)

namespace Validation

variable {ε ε' : Type u} {α β : Type v}

/-- Both sides are run; the errors of the left come first. -/
protected def seq (f : Validation ε (α → β)) (x : Validation ε α) : Validation ε β :=
  match f, x with
  | ok f, ok a => ok (f a)
  | ok _, errors e => errors e
  | errors e, ok _ => errors e
  | errors e, errors e' => errors (e ++ e')

instance : Applicative (Validation ε) where
  pure := ok
  seq f x := f.seq (x ())

/-- A further check on an accepted value. -/
def andThen (x : Validation ε α) (f : α → Validation ε β) : Validation ε β :=
  match x with
  | ok a => f a
  | errors e => errors e

def mapErrors (f : ε → ε') : Validation ε α → Validation ε' α
  | ok a => ok a
  | errors e => errors (e.map f)

/-- Every element is checked. -/
def all : List (Validation ε α) → Validation ε (List α)
  | [] => ok []
  | x :: xs => List.cons <$> x <*> all xs

@[simp] lemma map_ok (f : α → β) (a : α) : f <$> (ok a : Validation ε α) = ok (f a) := rfl
@[simp] lemma seq_ok (f : α → β) (a : α) : (ok f : Validation ε (α → β)) <*> ok a = ok (f a) := rfl
@[simp] lemma andThen_ok (a : α) (f : α → Validation ε β) : (ok a).andThen f = f a := rfl
@[simp] lemma mapErrors_ok (f : ε → ε') (a : α) : (ok a : Validation ε α).mapErrors f = ok a := rfl

@[simp] lemma map_eq_ok {f : α → β} {x : Validation ε α} {b : β} :
    f <$> x = ok b ↔ ∃ a, x = ok a ∧ f a = b := by
  cases x with
  | ok a => simp
  | errors e =>
    have : f <$> (errors e : Validation ε α) = errors e := rfl
    simp [this]

@[simp] lemma seq_eq_ok {f : Validation ε (α → β)} {x : Validation ε α} {b : β} :
    f <*> x = ok b ↔ ∃ g a, f = ok g ∧ x = ok a ∧ g a = b := by
  cases f with
  | ok g =>
    cases x with
    | ok a => simp
    | errors e =>
      have : (ok g : Validation ε (α → β)) <*> errors e = errors e := rfl
      simp [this]
  | errors e =>
    cases x with
    | ok a =>
      have : (errors e : Validation ε (α → β)) <*> ok a = errors e := rfl
      simp [this]
    | errors e' =>
      have : (errors e : Validation ε (α → β)) <*> errors e' = errors (e ++ e') := rfl
      simp [this]

lemma seq5_eq_ok {α₁ α₂ α₃ α₄ α₅ : Type v} {mk : α₁ → α₂ → α₃ → α₄ → α₅ → β}
    {x₁ : Validation ε α₁} {x₂ : Validation ε α₂} {x₃ : Validation ε α₃} {x₄ : Validation ε α₄}
    {x₅ : Validation ε α₅} {b : β} :
    mk <$> x₁ <*> x₂ <*> x₃ <*> x₄ <*> x₅ = ok b ↔ ∃ a₁ a₂ a₃ a₄ a₅,
      x₁ = ok a₁ ∧ x₂ = ok a₂ ∧ x₃ = ok a₃ ∧ x₄ = ok a₄ ∧ x₅ = ok a₅ ∧ mk a₁ a₂ a₃ a₄ a₅ = b := by
  constructor
  · intro h
    obtain ⟨f₄, a₅, hf₄, h₅, rfl⟩ := seq_eq_ok.mp h
    obtain ⟨f₃, a₄, hf₃, h₄, rfl⟩ := seq_eq_ok.mp hf₄
    obtain ⟨f₂, a₃, hf₂, h₃, rfl⟩ := seq_eq_ok.mp hf₃
    obtain ⟨f₁, a₂, hf₁, h₂, rfl⟩ := seq_eq_ok.mp hf₂
    obtain ⟨a₁, h₁, rfl⟩ := map_eq_ok.mp hf₁
    exact ⟨a₁, a₂, a₃, a₄, a₅, h₁, h₂, h₃, h₄, h₅, rfl⟩
  · rintro ⟨a₁, a₂, a₃, a₄, a₅, rfl, rfl, rfl, rfl, rfl, rfl⟩
    rfl

@[simp] lemma seqLeft_eq_ok {x : Validation ε α} {y : Validation ε β} {a : α} :
    x <* y = ok a ↔ x = ok a ∧ ∃ b, y = ok b := by
  show Function.const β <$> x <*> y = ok a ↔ _
  rw [seq_eq_ok]
  constructor
  · rintro ⟨g, b, hg, hy, rfl⟩
    obtain ⟨a', hx, rfl⟩ := map_eq_ok.mp hg
    exact ⟨hx, b, hy⟩
  · rintro ⟨hx, b, hy⟩
    exact ⟨Function.const β a, b, map_eq_ok.mpr ⟨a, hx, rfl⟩, hy, rfl⟩

@[simp] lemma mapErrors_eq_ok {f : ε → ε'} {x : Validation ε α} {a : α} :
    x.mapErrors f = ok a ↔ x = ok a := by
  cases x <;> simp [mapErrors]

lemma all_map_ok {γ : Type*} {l : List γ} {f : γ → Validation ε α} {g : γ → α}
    (h : ∀ c ∈ l, f c = ok (g c)) : all (l.map f) = ok (l.map g) := by
  induction l with
  | nil => rfl
  | cons c l ih =>
    have hc := h c (by simp)
    have hl := ih fun c hc => h c (by simp [hc])
    simp [all, hc, hl]

/-! ### The accepted value -/

/-- The accepted value, whatever the errors would have been. -/
def toOption : Validation ε α → Option α
  | ok a => some a
  | errors _ => none

@[simp] lemma toOption_ok (a : α) : (ok a : Validation ε α).toOption = some a := rfl

@[simp] lemma toOption_eq_some {x : Validation ε α} {a : α} : x.toOption = some a ↔ x = ok a := by
  cases x <;> simp [toOption]

@[simp] lemma toOption_map (f : α → β) (x : Validation ε α) :
    (f <$> x).toOption = x.toOption.map f := by
  cases x <;> rfl

@[simp] lemma toOption_seq (f : Validation ε (α → β)) (x : Validation ε α) :
    (f <*> x).toOption = f.toOption.bind fun g => x.toOption.map g := by
  cases f <;> cases x <;> rfl

@[simp] lemma toOption_seqLeft (x : Validation ε α) (y : Validation ε β) :
    (x <* y).toOption = x.toOption.bind fun a => y.toOption.map fun _ => a := by
  cases x <;> cases y <;> rfl

@[simp] lemma toOption_mapErrors (f : ε → ε') (x : Validation ε α) :
    (x.mapErrors f).toOption = x.toOption := by
  cases x <;> rfl

@[simp] lemma toOption_all_cons (x : Validation ε α) (l : List (Validation ε α)) :
    (all (x :: l)).toOption = x.toOption.bind fun a => (all l).toOption.map (List.cons a) := by
  rw [all, toOption_seq, toOption_map]
  cases x.toOption <;> rfl

lemma toOption_all_congr {l l' : List (Validation ε α)}
    (h : List.Forall₂ (fun x y => x.toOption = y.toOption) l l') :
    (all l).toOption = (all l').toOption := by
  induction h with
  | nil => rfl
  | cons hx _ ih => rw [toOption_all_cons, toOption_all_cons, hx, ih]

lemma toOption_all_none {l : List (Validation ε α)} {x : Validation ε α} (hx : x ∈ l)
    (hn : x.toOption = none) : (all l).toOption = none := by
  induction l with
  | nil => simp at hx
  | cons y l ih =>
    rw [toOption_all_cons]
    rcases List.mem_cons.mp hx with rfl | hx
    · rw [hn]
      rfl
    · rw [ih hx]
      cases y.toOption <;> rfl

end Validation
