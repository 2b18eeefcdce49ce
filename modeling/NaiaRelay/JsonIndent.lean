import NaiaRelay.JsonRoundTrip

set_option autoImplicit false

/-!
The text of a value for people to read: every item and field on a line of its own, further in than
what it belongs to. It is read as the text without blanks is.
-/

namespace NaiaRelay.Json

/-- A new line, indented to a level. -/
def lineBreak (level : ℕ) : String := "\n" ++ String.ofList (List.replicate (2 * level) ' ')

/-- What stands at a level between two brackets, with its parts on lines of their own. -/
def layOut (level : ℕ) (start stop : String) (parts : List String) : String :=
  if parts.isEmpty then start ++ stop
  else start ++ lineBreak (level + 1) ++ ("," ++ lineBreak (level + 1)).intercalate parts
    ++ lineBreak level ++ stop

mutual

/-- `json.dumps(v, indent=2, sort_keys=True)`, for a value at this level. -/
def dumpsIndent (level : ℕ) : Json → Except Exc String
  | arr l => (dumpsIndentItems (level + 1) l).map (layOut level "[" "]")
  | obj o => (dumpsIndentFields (level + 1) o).map fun fields =>
    layOut level "\x7b" "\x7d"
      ((fields.insertionSort fun f g => f.1 ≤ g.1).map (fieldText ": "))
  | v => dumps v

def dumpsIndentItems (level : ℕ) : List Json → Except Exc (List String)
  | [] => .ok []
  | v :: l => (dumpsIndent level v).bind fun text => (dumpsIndentItems level l).map (text :: ·)

/-- The fields with the texts of their values, in the order of the object. -/
def dumpsIndentFields (level : ℕ) : List (String × Json) → Except Exc (List (String × String))
  | [] => .ok []
  | (k, v) :: o =>
    (dumpsIndent level v).bind fun text => (dumpsIndentFields level o).map ((k, text) :: ·)

end

variable {F : FloatText}

/-! ### Layout -/

lemma toList_lineBreak (level : ℕ) :
    (lineBreak level).toList = '\n' :: List.replicate (2 * level) ' ' := by
  simp [lineBreak]

lemma blanks_lineBreak (level : ℕ) : Blanks (lineBreak level).toList := by
  intro c hc
  rw [toList_lineBreak, List.mem_cons] at hc
  rcases hc with rfl | hc
  · rfl
  · rw [List.eq_of_mem_replicate hc]
    rfl

lemma separates_lineBreak (level : ℕ) : Separates ',' ("," ++ lineBreak level) :=
  ⟨(lineBreak level).toList, by rw [String.toList_append]; rfl, blanks_lineBreak level⟩

lemma separates_colon : Separates ':' ": " := ⟨[' '], rfl, by simp [Blanks, isBlank]⟩

lemma toList_layOut (level : ℕ) (start stop : String) {parts : List String} (h : parts ≠ []) :
    (layOut level start stop parts).toList = start.toList ++ ((lineBreak (level + 1)).toList
      ++ ((("," ++ lineBreak (level + 1)).intercalate parts).toList
        ++ ((lineBreak level).toList ++ stop.toList))) := by
  have hempty : ¬ parts.isEmpty = true := by simpa using h
  rw [layOut, if_neg hempty]
  simp only [String.toList_append, List.append_assoc]

lemma readsAs_layOut_items (level : ℕ) {texts : List String} {items : List Json}
    (h : List.Forall₂ (ReadsAs F) texts items) :
    ReadsAs F (layOut level "[" "]" texts) (arr items) := by
  by_cases hne : texts = []
  · subst hne
    cases h
    exact readsAs_noItems
  · exact readsAs_items (blanks_lineBreak _) (separates_lineBreak _) (blanks_lineBreak level) h hne
      (toList_layOut level "[" "]" hne)

lemma readsAs_layOut_fields (level : ℕ) {texts : List (String × String)}
    {fields : List (String × Json)}
    (h : List.Forall₂ (fun f g => f.1 = g.1 ∧ ReadsAs F f.2 g.2) texts fields) :
    ReadsAs F (layOut level "\x7b" "\x7d" (texts.map (fieldText ": "))) (obj (ofPairs fields)) := by
  by_cases hne : texts = []
  · subst hne
    cases h
    exact readsAs_noFields
  · exact readsAs_fields (blanks_lineBreak _) (separates_lineBreak _) separates_colon
      (blanks_lineBreak level) h hne (toList_layOut level "\x7b" "\x7d" (by simpa using hne))

/-! ### Reading -/

mutual

theorem readsAs_dumpsIndent (level : ℕ) (v : Json) (hv : WellFormed F v) (text : String)
    (h : dumpsIndent level v = .ok text) : ReadsAs F text (sortKeys v) := by
  match v with
  | null | bool _ | int _ | float _ | str _ => exact readsAs_scalar hv trivial h
  | arr l =>
    rw [dumpsIndent] at h
    rw [WellFormed] at hv
    obtain ⟨items, hitems, rfl⟩ := map_eq_ok h
    rw [sortKeys]
    exact readsAs_layOut_items level (readsAs_dumpsIndentItems (level + 1) l hv items hitems)
  | obj o =>
    rw [dumpsIndent] at h
    rw [WellFormed] at hv
    obtain ⟨fields, hfields, rfl⟩ := map_eq_ok h
    rw [sortKeys, ← ofPairs_of_nodup (nodup_sortFields hv.1)]
    exact readsAs_layOut_fields level (forall₂_insertionSort (fun _ _ h => h.1)
      (readsAs_dumpsIndentFields (level + 1) o hv.2 fields hfields))

theorem readsAs_dumpsIndentItems (level : ℕ) (l : List Json) (hl : ItemsWellFormed F l)
    (items : List String) (h : dumpsIndentItems level l = .ok items) :
    List.Forall₂ (ReadsAs F) items (sortItems l) := by
  match l with
  | [] => rw [dumpsIndentItems] at h; cases h; exact .nil
  | v :: l =>
    rw [dumpsIndentItems] at h
    rw [ItemsWellFormed] at hl
    cases hv : dumpsIndent level v with
    | error e => rw [hv] at h; cases h
    | ok text =>
      rw [hv] at h
      obtain ⟨items, hitems, rfl⟩ := map_eq_ok h
      exact .cons (readsAs_dumpsIndent level v hl.1 text hv)
        (readsAs_dumpsIndentItems level l hl.2 items hitems)

theorem readsAs_dumpsIndentFields (level : ℕ) (o : List (String × Json))
    (ho : FieldsWellFormed F o) (fields : List (String × String))
    (h : dumpsIndentFields level o = .ok fields) :
    List.Forall₂ (fun f g => f.1 = g.1 ∧ ReadsAs F f.2 g.2) fields (sortFields o) := by
  match o with
  | [] => rw [dumpsIndentFields] at h; cases h; exact .nil
  | (k, v) :: o =>
    rw [dumpsIndentFields] at h
    rw [FieldsWellFormed] at ho
    cases hv : dumpsIndent level v with
    | error e => rw [hv] at h; cases h
    | ok text =>
      rw [hv] at h
      obtain ⟨fields, hfields, rfl⟩ := map_eq_ok h
      exact .cons ⟨rfl, readsAs_dumpsIndent level v ho.1 text hv⟩
        (readsAs_dumpsIndentFields level o ho.2 fields hfields)

end

/-- **The round trip of a text that is laid out.** With a new line behind it, it is read as the
value with its keys in order, which is how the text without blanks is read. -/
theorem loads_dumpsIndent (F : FloatText) (v : Json) (hv : WellFormed F v) (text : String)
    (h : dumpsIndent 0 v = .ok text) :
    loads F (text ++ "\n") = .ok (sortKeys v) ∧
      ∀ compact, dumps v = .ok compact → loads F compact = loads F (text ++ "\n") := by
  have hread : loads F (text ++ "\n") = .ok (sortKeys v) :=
    loads_append_of_readsAs (readsAs_dumpsIndent 0 v hv text h) (by simp [Blanks, isBlank])
  exact ⟨hread, fun compact hcompact =>
    (loads_of_readsAs (readsAs_dumps v hv compact hcompact)).trans hread.symm⟩

/-- A list in an object, and a list with nothing in it. -/
theorem loads_dumpsIndent_nested :
    loads .verbatim "\x7b\n  \"a\": [\n    null\n  ],\n  \"b\": []\n\x7d\n"
      = .ok (.obj [("a", .arr [.null]), ("b", .arr [])]) :=
  (loads_dumpsIndent .verbatim (.obj [("b", .arr []), ("a", .arr [.null])])
    ⟨by decide, trivial, ⟨trivial, trivial⟩, trivial⟩ _ rfl).1

end NaiaRelay.Json
