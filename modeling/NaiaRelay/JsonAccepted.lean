import NaiaRelay.JsonRoundTrip

set_option autoImplicit false

/-!
What `json.loads` accepts. Every value it gives is one that Python holds and that can be written
again, and it gives one or raises a `ValueError`, whatever the text.
-/

namespace NaiaRelay.Json

open Text

variable {F : FloatText} {l rest : List Char}

lemma bind_ok {ε α β : Type} {x : Except ε α} {f : α → Except ε β} {b : β}
    (h : x.bind f = .ok b) : ∃ a, x = .ok a ∧ f a = .ok b := by
  cases x with
  | error e => cases h
  | ok a => exact ⟨a, rfl, h⟩

/-- A value that Python holds and that can be written. -/
def Held (F : FloatText) (v : Json) : Prop := WellFormed F v ∧ ∃ text, dumps v = .ok text

lemma itemsWellFormed_iff {items : List Json} :
    ItemsWellFormed F items ↔ ∀ v ∈ items, WellFormed F v := by
  induction items with
  | nil => exact iff_of_true trivial (by rintro _ ⟨⟩)
  | cons v items ih => rw [ItemsWellFormed, ih, List.forall_mem_cons]

lemma fieldsWellFormed_iff {o : List (String × Json)} :
    FieldsWellFormed F o ↔ ∀ f ∈ o, WellFormed F f.2 := by
  induction o with
  | nil => exact iff_of_true trivial (by rintro _ ⟨⟩)
  | cons p o ih => rw [FieldsWellFormed, ih, List.forall_mem_cons]

lemma held_arr {items : List Json} (h : ∀ v ∈ items, Held F v) : Held F (arr items) := by
  have htexts : ∃ texts, List.Forall₂ (fun v text => dumps v = .ok text) items texts := by
    induction items with
    | nil => exact ⟨[], .nil⟩
    | cons v items ih =>
      obtain ⟨⟨-, text, hv⟩, hitems⟩ := List.forall_mem_cons.mp h
      obtain ⟨texts, htexts⟩ := ih hitems
      exact ⟨text :: texts, .cons hv htexts⟩
  obtain ⟨texts, htexts⟩ := htexts
  have hdumps : dumps (arr items) = .ok ("[" ++ ",".intercalate texts ++ "]") := by
    rw [dumps, dumpsItems_eq_ok_iff.mpr htexts]
    rfl
  exact ⟨itemsWellFormed_iff.mpr fun v hv => (h v hv).1, _, hdumps⟩

lemma held_obj {o : Obj} (hkeys : (o.map Prod.fst).Nodup) (h : ∀ f ∈ o, Held F f.2) :
    Held F (obj o) := by
  have htexts : ∃ texts : List (String × String),
      List.Forall₂ (fun f g => f.1 = g.1 ∧ dumps f.2 = .ok g.2) o texts := by
    clear hkeys
    induction o with
    | nil => exact ⟨[], .nil⟩
    | cons p o ih =>
      obtain ⟨⟨-, text, hv⟩, ho⟩ := List.forall_mem_cons.mp h
      obtain ⟨texts, htexts⟩ := ih ho
      exact ⟨(p.1, text) :: texts, .cons ⟨rfl, hv⟩ htexts⟩
  obtain ⟨texts, htexts⟩ := htexts
  have hdumps : ∃ text, dumps (obj o) = .ok text := by
    rw [dumps, dumpsFields_eq_ok_iff.mpr htexts]
    exact ⟨_, rfl⟩
  exact ⟨⟨hkeys, fieldsWellFormed_iff.mpr fun f hf => (h f hf).1⟩, hdumps⟩

lemma nodup_assign {o : Obj} (h : (o.map Prod.fst).Nodup) (k : String) (v : Json) :
    ((assign o k v).map Prod.fst).Nodup := by
  unfold assign
  split_ifs with hk
  · have hkeys : (o.map fun p => if p.1 = k then (k, v) else p).map Prod.fst = o.map Prod.fst := by
      rw [List.map_map]
      refine List.map_congr_left fun p _ => ?_
      dsimp only [Function.comp_apply]
      split_ifs with hp
      · exact hp.symm
      · rfl
    rwa [hkeys]
  · rw [List.map_append, List.nodup_append]
    refine ⟨h, by simp, ?_⟩
    rintro a ha b hb rfl
    obtain rfl : a = k := List.mem_singleton.mp hb
    exact hk (List.contains_iff_mem.mpr ha)

lemma nodup_ofPairs (l : List (String × Json)) : ((ofPairs l).map Prod.fst).Nodup := by
  have hfold : ∀ (l : List (String × Json)) (o : Obj), (o.map Prod.fst).Nodup →
      ((l.foldl (fun o p => assign o p.1 p.2) o).map Prod.fst).Nodup := by
    intro l
    induction l with
    | nil => exact fun o h => h
    | cons p l ih => exact fun o h => ih _ (nodup_assign h p.1 p.2)
  exact hfold l [] List.nodup_nil

lemma forall_ofPairs {p : Json → Prop} {l : List (String × Json)} (h : ∀ f ∈ l, p f.2) :
    ∀ f ∈ ofPairs l, p f.2 := by
  have hfold : ∀ (l : List (String × Json)) (o : Obj), (∀ f ∈ l, p f.2) → (∀ f ∈ o, p f.2) →
      ∀ f ∈ l.foldl (fun o p => assign o p.1 p.2) o, p f.2 := by
    intro l
    induction l with
    | nil => exact fun o _ ho => ho
    | cons x l ih =>
      intro o hl ho
      obtain ⟨hx, hl⟩ := List.forall_mem_cons.mp hl
      refine ih _ hl fun f hf => ?_
      dsimp only [assign] at hf
      split_ifs at hf
      · obtain ⟨q, hq, rfl⟩ := List.mem_map.mp hf
        split_ifs
        · exact hx
        · exact ho q hq
      · rcases List.mem_append.mp hf with hf | hf
        · exact ho f hf
        · rw [List.mem_singleton.mp hf]
          exact hx
  exact hfold l [] h (by rintro _ ⟨⟩)

/-! ### The parts of a value -/

lemma length_skipBlank (l : List Char) : (skipBlank l).length ≤ l.length :=
  List.length_dropWhile_le _ _

lemma length_of_skipBlank {c : Char} (h : skipBlank l = c :: rest) : rest.length < l.length := by
  have := length_skipBlank l
  rw [h, List.length_cons] at this
  exact this

lemma length_scanString {start : ℕ} {s : List Char} (h : scanString start l = .ok (s, rest)) :
    s.length + rest.length < l.length := by
  fun_induction scanString start l generalizing s with
  | case1 => cases h
  | case2 l rest' hchar =>
    obtain ⟨rfl, rfl⟩ := Prod.mk.inj (Except.ok.inj h)
    rw [List.length_nil, Nat.zero_add]
    exact length_scanChar hchar
  | case3 l c rest' hchar ih =>
    obtain ⟨x, hx, heq⟩ := map_eq_ok h
    obtain ⟨rfl, rfl⟩ := Prod.mk.inj heq
    have := ih hx
    have := length_scanChar hchar
    rw [List.length_cons]
    omega

lemma length_scanKey {k : String} (h : scanKey l = .ok (k, rest)) : rest.length + 2 < l.length := by
  cases l with
  | nil => cases h
  | cons c l =>
    rw [scanKey] at h
    split_ifs at h
    obtain ⟨x, hx, h⟩ := bind_ok h
    have hlength := length_scanString hx
    split at h
    · cases h
    · rename_i d rest' hskip
      split_ifs at h
      obtain ⟨-, rfl⟩ := Prod.mk.inj (Except.ok.inj h)
      have := length_of_skipBlank hskip
      have := length_skipBlank rest'
      rw [List.length_cons]
      omega

lemma scanConstant_eq_some {v : Json} (h : scanConstant l = some (v, rest)) :
    Held F v ∧ rest.length < l.length := by
  rw [scanConstant] at h
  obtain ⟨c, hc, h⟩ := List.exists_of_findSome?_eq_some h
  rw [Option.map_eq_some_iff] at h
  obtain ⟨rest', hprefix, heq⟩ := h
  obtain ⟨rfl, rfl⟩ := Prod.mk.inj heq
  have hl : c.1.toList ++ rest' = l := List.isPrefixOf?_eq_some_iff_append_eq.mp hprefix
  rw [constants] at hc
  simp only [List.mem_cons, List.not_mem_nil, or_false] at hc
  have hlength : ∀ (word : String), word.toList ≠ [] → word.toList ++ rest' = l →
      rest'.length < l.length := by
    rintro word hne rfl
    rw [List.length_append]
    have := List.length_pos_iff.mpr hne
    omega
  rcases hc with rfl | rfl | rfl | rfl | rfl | rfl
  · exact ⟨⟨trivial, _, rfl⟩, hlength _ (by decide) hl⟩
  · exact ⟨⟨trivial, _, rfl⟩, hlength _ (by decide) hl⟩
  · exact ⟨⟨trivial, _, rfl⟩, hlength _ (by decide) hl⟩
  · exact ⟨⟨Or.inl rfl, _, rfl⟩, hlength _ (by decide) hl⟩
  · exact ⟨⟨Or.inr (Or.inl rfl), _, rfl⟩, hlength _ (by decide) hl⟩
  · exact ⟨⟨Or.inr (Or.inr (Or.inl rfl)), _, rfl⟩, hlength _ (by decide) hl⟩

lemma scanNumber_eq_ok {v : Json} (h : scanNumber F l = .ok (v, rest)) :
    Held F v ∧ rest.length < l.length := by
  unfold scanNumber at h
  split at h
  · cases h
  · rename_i integer digits rest' hscan
    obtain ⟨fraction, exponent, hi, hf, he, rfl, rfl⟩ := scanDecimal_eq_some hscan
    have hlength : rest'.length < (integer ++ (fraction ++ exponent ++ rest')).length := by
      obtain ⟨sign, c, digits, -, -, -, rfl⟩ := hi
      simp only [List.length_append, List.length_cons]
      omega
    split_ifs at h with hne
    · cases hint : Text.int integer with
      | none =>
        rw [hint] at h
        cases h
      | some n =>
        rw [hint] at h
        obtain ⟨rfl, rfl⟩ := Prod.mk.inj (Except.ok.inj h)
        exact ⟨⟨trivial, _, dumpsInt_eq_ok_iff.mpr ⟨length_toDigits_of_int hi hint, rfl⟩⟩, hlength⟩
    · obtain ⟨rfl, rfl⟩ := Prod.mk.inj (Except.ok.inj h)
      have hliteral : IsFloatLiteral (integer ++ (fraction ++ exponent)) :=
        ⟨integer, fraction, exponent, hi, hf, he, hne, rfl⟩
      have hprints : PrintsFloat F (F.read (integer ++ (fraction ++ exponent))) := by
        rcases F.read_literal _ hliteral with hread | hread | hread
        · exact Or.inr (Or.inl hread)
        · exact Or.inr (Or.inr (Or.inl hread))
        · exact Or.inr (Or.inr (Or.inr ⟨hread, F.read_read _ hliteral hread⟩))
      exact ⟨⟨hprints, _, rfl⟩, hlength⟩

lemma scanAtom_eq_ok {v : Json} (h : scanAtom F l = .ok (v, rest)) :
    Held F v ∧ rest.length < l.length := by
  unfold scanAtom at h
  split at h
  · rename_i x hx
    obtain rfl := Except.ok.inj h
    exact scanConstant_eq_some hx
  · exact scanNumber_eq_ok h

/-! ### What is accepted -/

/-- What the readers give with this fuel is held by Python, and takes something of what is left. -/
structure Accepts (F : FloatText) (fuel : ℕ) : Prop where
  once : ∀ l v rest, scanOnce F fuel l = .ok (v, rest) → Held F v ∧ rest.length < l.length
  items : ∀ l items rest, scanItems F fuel l = .ok (items, rest) →
    (∀ v ∈ items, Held F v) ∧ rest.length < l.length
  fields : ∀ l fields rest, scanFields F fuel l = .ok (fields, rest) →
    (∀ f ∈ fields, Held F f.2) ∧ rest.length < l.length

lemma scanOnce_accepts {fuel : ℕ} (ih : Accepts F fuel) {v : Json}
    (h : scanOnce F (fuel + 1) l = .ok (v, rest)) : Held F v ∧ rest.length < l.length := by
  cases l with
  | nil => cases h
  | cons c l =>
    rw [scanOnce] at h
    rw [List.length_cons]
    split_ifs at h
    -- a text
    · obtain ⟨x, hx, heq⟩ := map_eq_ok h
      obtain ⟨rfl, rfl⟩ := Prod.mk.inj heq
      have := length_scanString hx
      exact ⟨⟨trivial, _, rfl⟩, by omega⟩
    -- a list
    · split at h
      · cases h
      · rename_i d rest' hskip
        have hrest := length_of_skipBlank hskip
        split_ifs at h
        · obtain ⟨rfl, rfl⟩ := Prod.mk.inj (Except.ok.inj h)
          exact ⟨held_arr (by rintro _ ⟨⟩), by omega⟩
        · obtain ⟨x, hx, heq⟩ := map_eq_ok h
          obtain ⟨rfl, rfl⟩ := Prod.mk.inj heq
          obtain ⟨hitems, hlength⟩ := ih.items _ _ _ hx
          rw [List.length_cons] at hlength
          exact ⟨held_arr hitems, by omega⟩
    -- an object
    · split at h
      · cases h
      · rename_i d rest' hskip
        have hrest := length_of_skipBlank hskip
        split_ifs at h
        · obtain ⟨rfl, rfl⟩ := Prod.mk.inj (Except.ok.inj h)
          exact ⟨held_obj List.nodup_nil (by rintro _ ⟨⟩), by omega⟩
        · obtain ⟨x, hx, heq⟩ := map_eq_ok h
          obtain ⟨rfl, rfl⟩ := Prod.mk.inj heq
          obtain ⟨hfields, hlength⟩ := ih.fields _ _ _ hx
          rw [List.length_cons] at hlength
          exact ⟨held_obj (nodup_ofPairs _) (forall_ofPairs hfields), by omega⟩
    · have := scanAtom_eq_ok h
      rwa [List.length_cons] at this

lemma scanItems_accepts {fuel : ℕ} (ih : Accepts F fuel) {items : List Json}
    (h : scanItems F (fuel + 1) l = .ok (items, rest)) :
    (∀ v ∈ items, Held F v) ∧ rest.length < l.length := by
  rw [scanItems] at h
  obtain ⟨x, hx, h⟩ := bind_ok h
  obtain ⟨hheld, hlength⟩ := ih.once _ _ _ hx
  split at h
  · cases h
  · rename_i d rest' hskip
    have hrest := length_of_skipBlank hskip
    split_ifs at h
    · obtain ⟨rfl, rfl⟩ := Prod.mk.inj (Except.ok.inj h)
      exact ⟨List.forall_mem_singleton.mpr hheld, by omega⟩
    · obtain ⟨y, hy, heq⟩ := map_eq_ok h
      obtain ⟨rfl, rfl⟩ := Prod.mk.inj heq
      obtain ⟨hitems, hlength'⟩ := ih.items _ _ _ hy
      have := length_skipBlank rest'
      exact ⟨List.forall_mem_cons.mpr ⟨hheld, hitems⟩, by omega⟩

lemma scanFields_accepts {fuel : ℕ} (ih : Accepts F fuel) {fields : List (String × Json)}
    (h : scanFields F (fuel + 1) l = .ok (fields, rest)) :
    (∀ f ∈ fields, Held F f.2) ∧ rest.length < l.length := by
  rw [scanFields] at h
  obtain ⟨k, hk, h⟩ := bind_ok h
  obtain ⟨x, hx, h⟩ := bind_ok h
  have hkey := length_scanKey hk
  obtain ⟨hheld, hlength⟩ := ih.once _ _ _ hx
  split at h
  · cases h
  · rename_i d rest' hskip
    have hrest := length_of_skipBlank hskip
    split_ifs at h
    · obtain ⟨rfl, rfl⟩ := Prod.mk.inj (Except.ok.inj h)
      exact ⟨List.forall_mem_singleton.mpr hheld, by omega⟩
    · obtain ⟨y, hy, heq⟩ := map_eq_ok h
      obtain ⟨rfl, rfl⟩ := Prod.mk.inj heq
      obtain ⟨hfields, hlength'⟩ := ih.fields _ _ _ hy
      have := length_skipBlank rest'
      exact ⟨List.forall_mem_cons.mpr ⟨hheld, hfields⟩, by omega⟩

lemma accepts (F : FloatText) (fuel : ℕ) : Accepts F fuel := by
  induction fuel with
  | zero => exact ⟨by rintro _ _ _ ⟨⟩, by rintro _ _ _ ⟨⟩, by rintro _ _ _ ⟨⟩⟩
  | succ fuel ih =>
    exact ⟨fun _ _ _ => scanOnce_accepts ih, fun _ _ _ => scanItems_accepts ih,
      fun _ _ _ => scanFields_accepts ih⟩

/-! ### Texts in a message -/

lemma scanAtom_atom {v : Json} (h : scanAtom F l = .ok (v, rest)) :
    (∀ t, v ≠ .str t) ∧ ∀ o, v ≠ .obj o := by
  unfold scanAtom at h
  split at h
  · rename_i x hx
    obtain rfl := Except.ok.inj h
    rw [scanConstant] at hx
    obtain ⟨c, hc, hx⟩ := List.exists_of_findSome?_eq_some hx
    rw [Option.map_eq_some_iff] at hx
    obtain ⟨_, -, heq⟩ := hx
    obtain rfl : c.2 = v := congrArg Prod.fst heq
    rw [constants] at hc
    simp only [List.mem_cons, List.not_mem_nil, or_false] at hc
    rcases hc with rfl | rfl | rfl | rfl | rfl | rfl <;> exact ⟨by rintro _ ⟨⟩, by rintro _ ⟨⟩⟩
  · unfold scanNumber at h
    split at h
    · cases h
    · split_ifs at h
      · split at h
        · cases h
        · cases h
          exact ⟨by rintro _ ⟨⟩, by rintro _ ⟨⟩⟩
      · cases h
        exact ⟨by rintro _ ⟨⟩, by rintro _ ⟨⟩⟩

lemma length_of_scanOnce_str {fuel : ℕ} {t : String} (h : scanOnce F fuel l = .ok (.str t, rest)) :
    t.length ≤ l.length := by
  cases fuel with
  | zero => cases h
  | succ fuel =>
    cases l with
    | nil => cases h
    | cons c l =>
      rw [scanOnce] at h
      split_ifs at h
      · obtain ⟨x, hx, heq⟩ := map_eq_ok h
        obtain ⟨hstr, -⟩ := Prod.mk.inj heq
        obtain rfl := Json.str.inj hstr
        have := length_scanString hx
        rw [String.length_ofList, List.length_cons]
        omega
      · split at h
        · cases h
        · split_ifs at h
          · cases h
          · obtain ⟨x, -, heq⟩ := map_eq_ok h
            cases heq
      · split at h
        · cases h
        · split_ifs at h
          · cases h
          · obtain ⟨x, -, heq⟩ := map_eq_ok h
            cases heq
      · exact absurd rfl ((scanAtom_atom h).1 t)

/-- A value that is no longer than this, if it is a text. -/
def TextWithin (n : ℕ) (v : Json) : Prop := ∀ t, v = .str t → t.length ≤ n

lemma scanFields_textWithin {fuel : ℕ} {fields : List (String × Json)}
    (h : scanFields F fuel l = .ok (fields, rest)) : ∀ f ∈ fields, TextWithin l.length f.2 := by
  induction fuel generalizing l fields rest with
  | zero => cases h
  | succ fuel ih =>
    rw [scanFields] at h
    obtain ⟨k, hk, h⟩ := bind_ok h
    obtain ⟨x, hx, h⟩ := bind_ok h
    have hkey := length_scanKey hk
    have hlength := ((accepts F fuel).once _ _ _ hx).2
    have hvalue : TextWithin l.length x.1 := by
      rintro t ht
      have hstr : scanOnce F fuel k.2 = .ok (.str t, x.2) := by rw [hx, ← ht]
      have := length_of_scanOnce_str hstr
      omega
    split at h
    · cases h
    · rename_i d rest' hskip
      have hrest := length_of_skipBlank hskip
      split_ifs at h
      · obtain ⟨rfl, rfl⟩ := Prod.mk.inj (Except.ok.inj h)
        exact List.forall_mem_singleton.mpr hvalue
      · obtain ⟨y, hy, heq⟩ := map_eq_ok h
        obtain ⟨rfl, rfl⟩ := Prod.mk.inj heq
        have := length_skipBlank rest'
        refine List.forall_mem_cons.mpr ⟨hvalue, fun f hf t ht => ?_⟩
        have := ih hy f hf t ht
        omega

lemma textWithin_of_scanOnce {fuel : ℕ} {o : Obj} (h : scanOnce F fuel l = .ok (.obj o, rest)) :
    ∀ f ∈ o, TextWithin l.length f.2 := by
  cases fuel with
  | zero => cases h
  | succ fuel =>
    cases l with
    | nil => cases h
    | cons c l =>
      rw [scanOnce] at h
      split_ifs at h
      · obtain ⟨x, -, heq⟩ := map_eq_ok h
        cases heq
      · split at h
        · cases h
        · split_ifs at h
          · cases h
          · obtain ⟨x, -, heq⟩ := map_eq_ok h
            cases heq
      · split at h
        · cases h
        · rename_i d rest' hskip
          have hrest := length_of_skipBlank hskip
          split_ifs at h
          · cases h
            rintro _ ⟨⟩
          · obtain ⟨x, hx, heq⟩ := map_eq_ok h
            obtain ⟨hobj, -⟩ := Prod.mk.inj heq
            obtain rfl := Json.obj.inj hobj
            refine forall_ofPairs fun f hf t ht => ?_
            have hwithin := scanFields_textWithin hx f hf t ht
            rw [List.length_cons] at hwithin ⊢
            omega
      · exact absurd rfl ((scanAtom_atom h).2 o)

/-- **Texts are no longer than their source.** The fields of an object that are texts are no longer
than the text it is read from. -/
lemma textWithin_of_loads {s : String} {o : Obj} (h : loads F s = .ok (.obj o)) :
    ∀ f ∈ o, TextWithin s.length f.2 := by
  unfold loads at h
  split_ifs at h
  cases hread : readText F s.toList with
  | error e =>
    rw [hread] at h
    cases h
  | ok v =>
    rw [hread] at h
    obtain rfl : v = .obj o := Except.ok.inj h
    unfold readText at hread
    split at hread
    · cases hread
    · rename_i v rest hscan
      split_ifs at hread
      obtain rfl := Except.ok.inj hread
      have hskip := length_skipBlank s.toList
      rw [String.length_toList] at hskip
      exact fun f hf t ht => (textWithin_of_scanOnce hscan f hf t ht).trans hskip

/-! ### What is refused -/

/-- An error that is not for want of fuel. -/
def IsRefusal : ReadError → Prop
  | .outOfFuel => False
  | _ => True

/-- The reader never gives up for want of fuel. -/
def Decides {α : Type} (x : Read α) : Prop := ∀ e, x = .error e → IsRefusal e

lemma Decides.map {α β : Type} {x : Read α} (h : Decides x) (f : α × List Char → β × List Char) :
    Decides (x.map f) := by
  intro e he
  cases x with
  | error e' =>
    obtain rfl := Except.error.inj he
    exact h _ rfl
  | ok a => cases he

lemma Decides.bind {α β : Type} {x : Read α} {f : α × List Char → Read β} (h : Decides x)
    (hf : ∀ a, x = .ok a → Decides (f a)) : Decides (x.bind f) := by
  intro e he
  cases x with
  | error e' =>
    obtain rfl := Except.error.inj he
    exact h _ rfl
  | ok a => exact hf a rfl e he

lemma decides_ok {α : Type} (a : α × List Char) : Decides (.ok a : Read α) := by rintro _ ⟨⟩

lemma decides_error {α : Type} {e : ReadError} (h : IsRefusal e) : Decides (.error e : Read α) := by
  rintro _ ⟨⟩
  exact h

lemma decides_scanLowSurrogate (high : ℕ) (l : List Char) : Decides (scanLowSurrogate high l) := by
  unfold scanLowSurrogate
  split
  · split_ifs
    · split
      · exact decides_error trivial
      · split_ifs
        · exact decides_ok _
        · exact decides_error trivial
    · exact decides_error trivial
  · exact decides_error trivial

lemma decides_scanUnicode (l : List Char) : Decides (scanUnicode l) := by
  unfold scanUnicode
  split
  · exact decides_error trivial
  · split_ifs
    · exact decides_scanLowSurrogate _ _
    · exact decides_error trivial
    · exact decides_ok _

lemma decides_scanEscape (start : ℕ) (l : List Char) : Decides (scanEscape start l) := by
  cases l with
  | nil => exact decides_error trivial
  | cons c l =>
    rw [scanEscape]
    split_ifs
    · exact decides_scanUnicode l
    · split
      · exact decides_ok _
      · exact decides_error trivial

lemma decides_scanChar (start : ℕ) (l : List Char) : Decides (scanChar start l) := by
  cases l with
  | nil => exact decides_error trivial
  | cons c l =>
    rw [scanChar]
    split_ifs
    · exact decides_ok _
    · exact (decides_scanEscape start l).map _
    · exact decides_error trivial
    · exact decides_ok _

lemma decides_scanString (start : ℕ) (l : List Char) : Decides (scanString start l) := by
  fun_induction scanString start l with
  | case1 l e hchar => exact decides_error (decides_scanChar start l e hchar)
  | case2 => exact decides_ok _
  | case3 l c rest hchar ih => exact ih.map _

lemma decides_scanKey (l : List Char) : Decides (scanKey l) := by
  cases l with
  | nil => exact decides_error trivial
  | cons c l =>
    rw [scanKey]
    split_ifs
    · refine (decides_scanString _ l).bind fun x _ => ?_
      split
      · exact decides_error trivial
      · split_ifs
        · exact decides_ok _
        · exact decides_error trivial
    · exact decides_error trivial

lemma decides_scanAtom (l : List Char) : Decides (scanAtom F l) := by
  unfold scanAtom
  split
  · exact decides_ok _
  · unfold scanNumber
    split
    · exact decides_error trivial
    · split_ifs
      · split
        · exact decides_error trivial
        · exact decides_ok _
      · exact decides_ok _

/-- With twice as much fuel as there are characters, the readers do not run out of it. -/
structure Suffices (F : FloatText) (fuel : ℕ) : Prop where
  once : ∀ l : List Char, 2 * l.length + 1 ≤ fuel → Decides (scanOnce F fuel l)
  items : ∀ l : List Char, 2 * l.length + 2 ≤ fuel → Decides (scanItems F fuel l)
  fields : ∀ l : List Char, 2 * l.length + 2 ≤ fuel → Decides (scanFields F fuel l)

lemma scanOnce_suffices {fuel : ℕ} (ih : Suffices F fuel) (hfuel : 2 * l.length + 1 ≤ fuel + 1) :
    Decides (scanOnce F (fuel + 1) l) := by
  cases l with
  | nil => exact decides_error trivial
  | cons c l =>
    rw [List.length_cons] at hfuel
    rw [scanOnce]
    split_ifs
    · exact (decides_scanString _ l).map _
    · split
      · exact decides_error trivial
      · rename_i d rest' hskip
        have hrest := length_of_skipBlank hskip
        split_ifs
        · exact decides_ok _
        · exact (ih.items _ (by rw [List.length_cons]; omega)).map _
    · split
      · exact decides_error trivial
      · rename_i d rest' hskip
        have hrest := length_of_skipBlank hskip
        split_ifs
        · exact decides_ok _
        · exact (ih.fields _ (by rw [List.length_cons]; omega)).map _
    · exact decides_scanAtom _

lemma scanItems_suffices {fuel : ℕ} (ih : Suffices F fuel) (hfuel : 2 * l.length + 2 ≤ fuel + 1) :
    Decides (scanItems F (fuel + 1) l) := by
  rw [scanItems]
  refine (ih.once l (by omega)).bind fun x hx => ?_
  have hlength := ((accepts F fuel).once _ _ _ hx).2
  split
  · exact decides_error trivial
  · rename_i d rest' hskip
    have hrest := length_of_skipBlank hskip
    have := length_skipBlank rest'
    split_ifs
    · exact decides_ok _
    · exact (ih.items _ (by omega)).map _
    · exact decides_error trivial

lemma scanFields_suffices {fuel : ℕ} (ih : Suffices F fuel) (hfuel : 2 * l.length + 2 ≤ fuel + 1) :
    Decides (scanFields F (fuel + 1) l) := by
  rw [scanFields]
  refine (decides_scanKey l).bind fun k hk => ?_
  have hkey := length_scanKey hk
  refine (ih.once k.2 (by omega)).bind fun x hx => ?_
  have hlength := ((accepts F fuel).once _ _ _ hx).2
  split
  · exact decides_error trivial
  · rename_i d rest' hskip
    have hrest := length_of_skipBlank hskip
    have := length_skipBlank rest'
    split_ifs
    · exact decides_ok _
    · exact (ih.fields _ (by omega)).map _
    · exact decides_error trivial

lemma suffices_fuel (F : FloatText) (fuel : ℕ) : Suffices F fuel := by
  induction fuel with
  | zero => exact ⟨by omega, by omega, by omega⟩
  | succ fuel ih =>
    exact ⟨fun _ => scanOnce_suffices ih, fun _ => scanItems_suffices ih,
      fun _ => scanFields_suffices ih⟩

lemma toExc_of_isRefusal {e : ReadError} (h : IsRefusal e) (doc : List Char) :
    ∃ message, e.toExc doc = .valueError message := by
  cases e with
  | decode message left => exact ⟨_, rfl⟩
  | tooManyDigits digits => exact ⟨_, rfl⟩
  | loneSurrogate => exact ⟨_, rfl⟩
  | outOfFuel => exact absurd h id

/-- **Every text is accepted or refused.** `json.loads` gives a value that Python holds, which is
written as a text that is read as that value again, or it raises a `ValueError`. -/
theorem loads_accepts (F : FloatText) (s : String) :
    (∃ v text, loads F s = .ok v ∧ WellFormed F v ∧ dumps v = .ok text ∧
      loads F text = .ok (sortKeys v)) ∨
    ∃ message, loads F s = .error (.valueError message) := by
  unfold loads
  split_ifs
  · exact Or.inr ⟨_, rfl⟩
  · unfold readText
    have hlength := length_skipBlank s.toList
    cases hscan : scanOnce F (2 * s.toList.length + 1) (skipBlank s.toList) with
    | error e =>
      have hrefusal := (suffices_fuel F _).once _ (by omega) e hscan
      obtain ⟨message, hmessage⟩ := toExc_of_isRefusal hrefusal s.toList
      exact Or.inr ⟨message, congrArg Except.error hmessage⟩
    | ok x =>
      obtain ⟨v, rest⟩ := x
      obtain ⟨⟨hv, text, htext⟩, -⟩ := (accepts F _).once _ _ _ hscan
      dsimp only
      split_ifs
      · exact Or.inl ⟨v, text, rfl, hv, htext, loads_of_readsAs (readsAs_dumps v hv text htext)⟩
      · exact Or.inr ⟨_, rfl⟩

end NaiaRelay.Json
