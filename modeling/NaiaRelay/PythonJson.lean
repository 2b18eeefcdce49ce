import NaiaRelay.ContentLength
import NaiaRelay.JsonAccepted
import NaiaRelay.LineFraming

set_option autoImplicit false

/-!
The framers with Python's json module. A message arrives with its keys in order, whatever order
they were sent in, if the receiver has room for it.
-/

namespace NaiaRelay.Transports

open Json LineStream Text

/-- `to_json` and `from_json` stand on `json.dumps` and `json.loads`. -/
def pythonJson (F : FloatText) (unicodeDecodeError : Bytes → Exc) : JsonModule Json Obj where
  dumps message := Json.dumps (.obj message)
  loads := Json.loads F
  asDict
    | .obj o => some o
    | _ => none
  unicodeDecodeError

/-- A message with its keys in order. -/
def sortMessage (message : Obj) : Obj := (sortFields message).insertionSort fun f g => f.1 ≤ g.1

variable {P : Platform} {F : FloatText} {unicodeDecodeError : Bytes → Exc} {N M : ℤ} {message : Obj}
  {frame : Bytes}

lemma sortKeys_obj (message : Obj) : sortKeys (.obj message) = .obj (sortMessage message) := by
  rw [sortKeys, sortMessage]

@[simp] lemma sortMessage_nil : sortMessage [] = [] := rfl

@[simp] lemma sortMessage_cons (key : String) (v : Json) (o : Obj) :
    sortMessage ((key, v) :: o)
      = List.orderedInsert (fun f g => f.1 ≤ g.1) (key, sortKeys v) (sortMessage o) := rfl

@[simp] lemma sortKeys_str (s : String) : sortKeys (.str s) = .str s := rfl
@[simp] lemma sortKeys_int (n : ℤ) : sortKeys (.int n) = .int n := rfl
@[simp] lemma sortKeys_bool (b : Bool) : sortKeys (.bool b) = .bool b := rfl
@[simp] lemma sortKeys_null : sortKeys .null = .null := rfl

/-! ### One message -/

lemma allPrintable_digits {l : List Char} (h : IsDigits l) : ∀ c ∈ l, IsPrintable c := by
  intro c hc
  obtain ⟨hlow, hhigh⟩ := toNat_of_isDigit (h c hc)
  exact ⟨by omega, by omega⟩

lemma allPrintable_float {text : String} (h : PrintsFloat F text) : AllPrintable text := by
  rcases h with rfl | rfl | rfl | ⟨⟨integer, fraction, exponent, hi, hf, he, -, htext⟩, -⟩
  · exact allPrintable_of_all (by decide)
  · exact allPrintable_of_all (by decide)
  · exact allPrintable_of_all (by decide)
  · have hsign : ∀ sign : List Char, sign = [] ∨ sign = ['-'] ∨ sign = ['+'] →
        ∀ c ∈ sign, IsPrintable c := by
      rintro _ (rfl | rfl | rfl) c hc
      · cases hc
      · rw [List.mem_singleton.mp hc]
        decide
      · rw [List.mem_singleton.mp hc]
        decide
    intro c hc
    rw [htext, List.mem_append, List.mem_append] at hc
    rcases hc with hc | hc | hc
    · obtain ⟨sign, d, digits, hs, hd, -, rfl⟩ := hi
      rcases List.mem_append.mp hc with hc | hc
      · exact hsign sign (hs.imp_right Or.inl) c hc
      · exact allPrintable_digits hd c hc
    · rcases hf with rfl | ⟨d, digits, hd, rfl⟩
      · cases hc
      · rcases List.mem_cons.mp hc with rfl | hc
        · decide
        · exact allPrintable_digits hd c hc
    · rcases he with rfl | ⟨e, sign, d, digits, he, hs, hd, rfl⟩
      · cases hc
      · rcases List.mem_cons.mp hc with rfl | hc
        · rcases he with rfl | rfl <;> decide
        · rcases List.mem_append.mp hc with hc | hc
          · exact hsign sign hs c hc
          · exact allPrintable_digits hd c hc

mutual

theorem floatsPrintable_of_wellFormed (v : Json) (h : WellFormed F v) : FloatsPrintable v := by
  match v with
  | .null | .bool _ | .int _ | .str _ => trivial
  | .float text => exact allPrintable_float h
  | .arr l =>
    rw [WellFormed] at h
    rw [FloatsPrintable]
    exact itemFloatsPrintable_of_wellFormed l h
  | .obj o =>
    rw [WellFormed] at h
    rw [FloatsPrintable]
    exact fieldFloatsPrintable_of_wellFormed o h.2

theorem itemFloatsPrintable_of_wellFormed (l : List Json) (h : ItemsWellFormed F l) :
    ItemFloatsPrintable l := by
  match l with
  | [] => trivial
  | v :: l =>
    rw [ItemsWellFormed] at h
    exact ⟨floatsPrintable_of_wellFormed v h.1, itemFloatsPrintable_of_wellFormed l h.2⟩

theorem fieldFloatsPrintable_of_wellFormed (o : List (String × Json)) (h : FieldsWellFormed F o) :
    FieldFloatsPrintable o := by
  match o with
  | [] => trivial
  | (k, v) :: o =>
    rw [FieldsWellFormed] at h
    exact ⟨floatsPrintable_of_wellFormed v h.1, fieldFloatsPrintable_of_wellFormed o h.2⟩

end

lemma encodePayload_sortMessage {text : String} (h : Json.dumps (.obj message) = .ok text) :
    encodePayload (pythonJson F unicodeDecodeError) N (sortMessage message)
      = encodePayload (pythonJson F unicodeDecodeError) N message := by
  have hsort := dumps_sortKeys _ _ h
  rw [sortKeys_obj] at hsort
  have hto : toJson (pythonJson F unicodeDecodeError) (sortMessage message)
      = toJson (pythonJson F unicodeDecodeError) message := hsort.trans h.symm
  rw [encodePayload, encodePayload, hto]

lemma readsBack_sortMessage (hm : WellFormed F (.obj message)) {text : String}
    (h : Json.dumps (.obj message) = .ok text) :
    (pythonJson F unicodeDecodeError).ReadsBack (sortMessage message) := by
  have hsort := dumps_sortKeys _ _ h
  rw [sortKeys_obj] at hsort
  have htext : ∀ text', (pythonJson F unicodeDecodeError).dumps (sortMessage message) = .ok text' →
      text' = text := fun text' h' => Except.ok.inj (h'.symm.trans hsort)
  have hprintable := allPrintable_dumps _ (floatsPrintable_of_wellFormed _ hm) text h
  have hread := readsAs_dumps (F := F) _ hm text h
  constructor
  · rintro text' h' rfl
    obtain rfl := htext _ h'
    obtain ⟨c, l, hl, -⟩ := hread.starts
    cases hl
  · intro text' h' c hc
    obtain rfl := htext _ h'
    obtain ⟨-, hhigh⟩ := hprintable c hc
    show c.toNat < 128
    omega
  · intro text' h' hc
    obtain rfl := htext _ h'
    exact absurd (hprintable _ hc) (by decide)
  · intro text' h'
    obtain rfl := htext _ h'
    exact ⟨_, loads_of_readsAs hread, by rw [sortKeys_obj]; rfl⟩

lemma fromJson_of_dumps (hm : WellFormed F (.obj message)) {text : String}
    (h : Json.dumps (.obj message) = .ok text) :
    fromJson (pythonJson F unicodeDecodeError) text = .ok (sortMessage message) := by
  have hloads : (pythonJson F unicodeDecodeError).loads text = .ok (.obj (sortMessage message)) := by
    rw [← sortKeys_obj]
    exact loads_of_readsAs (readsAs_dumps _ hm text h)
  rw [fromJson, hloads]
  rfl

/-- The message is one that can be written, in so many bytes. -/
def HasSize (message : Obj) (n : ℕ) : Prop :=
  ∃ text, Json.dumps (.obj message) = .ok text ∧ (encodeUtf8 text).length = n

lemma HasSize.unique {n k : ℕ} (hn : HasSize message n) (hk : HasSize message k) : n = k := by
  obtain ⟨text, htext, rfl⟩ := hn
  obtain ⟨text', htext', rfl⟩ := hk
  rw [Except.ok.inj (htext.symm.trans htext')]

lemma length_of_decodePayload {payload : Bytes} {k t : String}
    (h : decodePayload P (pythonJson F unicodeDecodeError) payload = .ok message)
    (ht : Obj.get message k = some (.str t)) : t.length ≤ payload.length := by
  unfold decodePayload at h
  cases htext : decodeUtf8 payload with
  | none =>
    rw [htext] at h
    cases h
  | some text =>
    have hlength := length_decodeUtf8 htext
    rw [htext] at h
    cases hvalue : loads F text with
    | error e =>
      have hloads : (pythonJson F unicodeDecodeError).loads text = .error e := hvalue
      simp only [fromJson, hloads, bind, Except.bind] at h
      cases h
    | ok value =>
      have hloads : (pythonJson F unicodeDecodeError).loads text = .ok value := hvalue
      simp only [fromJson, hloads, bind, Except.bind] at h
      cases value with
      | obj o =>
        obtain rfl : o = message := Except.ok.inj h
        obtain ⟨front, back, rfl, -⟩ := List.lookup_eq_some_iff.mp ht
        exact (textWithin_of_loads hvalue (k, .str t) (by simp) t rfl).trans hlength
      | _ => cases h

/-! ### Lines -/

namespace LineJsonFramer

lemma decode_encode {n : ℕ} (hm : WellFormed F (.obj message)) (hn : HasSize message n)
    (h : encode (pythonJson F unicodeDecodeError) N message = .ok frame) :
    decode P (pythonJson F unicodeDecodeError) M frame =
      if (n : ℤ) < M then .ok (sortMessage message)
      else .error (.transportError "Received frame exceeds configured maximum message size.") := by
  obtain ⟨text, htext, rfl⟩ := hn
  have hsort := dumps_sortKeys _ _ htext
  rw [sortKeys_obj] at hsort
  have hsent : encode (pythonJson F unicodeDecodeError) N (sortMessage message) = .ok frame := by
    rw [← h, encode, encode, encodePayload_sortMessage htext]
  have hframe := decode_frame_iff (P := P) (M := M) (readsBack_sortMessage hm htext) hsent hsort
  split_ifs with hM
  · exact hframe.mpr hM
  · obtain ⟨text', htext', hframe', -, -⟩ := encode_cases (readsBack_sortMessage hm htext) hsent
    obtain rfl := Except.ok.inj (hsort.symm.trans htext')
    rw [decode, hframe', if_pos]
    rw [List.length_append, List.length_singleton]
    push_cast
    omega

lemma isLine_encode {n : ℕ} (hm : WellFormed F (.obj message)) (hn : HasSize message n)
    (h : encode (pythonJson F unicodeDecodeError) N message = .ok frame) :
    ∃ line, newline ∉ line ∧ frame = line ++ [newline] ∧ line.length = n := by
  obtain ⟨text, htext, rfl⟩ := hn
  have hsort := dumps_sortKeys _ _ htext
  rw [sortKeys_obj] at hsort
  have hsent : encode (pythonJson F unicodeDecodeError) N (sortMessage message) = .ok frame := by
    rw [← h, encode, encode, encodePayload_sortMessage htext]
  obtain ⟨text', htext', hframe, hbreak, -⟩ := encode_cases (readsBack_sortMessage hm htext) hsent
  obtain rfl := Except.ok.inj (hsort.symm.trans htext')
  exact ⟨_, hbreak, hframe, rfl⟩

end LineJsonFramer

lemma hasSize_of_encodePayload {payload : Bytes}
    (h : encodePayload (pythonJson F unicodeDecodeError) N message = .ok payload) :
    HasSize message payload.length := by
  obtain ⟨text, htext, rfl, -⟩ := encodePayload_eq_ok.mp h
  exact ⟨text, htext, rfl⟩

lemma hasSize_of_encode
    (h : LineJsonFramer.encode (pythonJson F unicodeDecodeError) N message = .ok frame) :
    ∃ n, HasSize message n := by
  obtain ⟨payload, hp, -⟩ := Json.map_eq_ok h
  exact ⟨_, hasSize_of_encodePayload hp⟩

/-! ### Headers -/

namespace ContentLengthJsonFramer

lemma hasSize_of_encode (h : encode (pythonJson F unicodeDecodeError) N message = .ok frame) :
    ∃ n, HasSize message n := by
  obtain ⟨payload, digits, hp, -, -⟩ := encode_eq_ok h
  exact ⟨_, hasSize_of_encodePayload hp⟩

lemma readWith_encode {readBody : ℤ → Bytes → Except Exc Bytes × Bytes}
    (hbody : ∀ payload rest : Bytes, readBody payload.length (payload ++ rest) = (.ok payload, rest))
    {n : ℕ} (hm : WellFormed F (.obj message)) (hn : HasSize message n)
    (h : encode (pythonJson F unicodeDecodeError) N message = .ok frame) (rest : Bytes) :
    ((n : ℤ) ≤ M → readWith P (pythonJson F unicodeDecodeError) readBody M (frame ++ rest)
      = (.ok (sortMessage message), rest)) ∧
    (¬ (n : ℤ) ≤ M → (readWith P (pythonJson F unicodeDecodeError) readBody M (frame ++ rest)).1
      = .error (.transportError "Received frame exceeds configured maximum message size.")) := by
  obtain ⟨payload, digits, hp, hdigits, rfl⟩ := encode_eq_ok h
  obtain ⟨text, htext, rfl, -⟩ := encodePayload_eq_ok.mp hp
  obtain rfl := hn.unique ⟨text, htext, rfl⟩
  have hheaders : ∀ payload : Bytes, decimal payload.length = some digits →
      readHeaders P none (encodeAscii (lengthLine "Content-Length".toList payload.length)
        ++ newline :: 13 :: newline :: payload ++ rest)
        = (.ok (some (payload.length : ℤ)), payload ++ rest) := by
    intro payload hdigits
    rw [List.append_assoc, List.cons_append, List.cons_append, List.cons_append,
      readHeaders_lengthLine (by decide) hdigits, readHeaders_blank]
  rw [readWith, hheaders _ hdigits]
  constructor
  · intro hM
    dsimp only
    rw [if_neg (by omega), hbody]
    dsimp only
    rw [decodePayload_encodeUtf8 (fromJson_of_dumps hm htext)]
  · intro hM
    dsimp only
    rw [if_pos (by omega)]

end ContentLengthJsonFramer

/-! ### Streams -/

/-- Frames of these messages, in order. -/
def Frames (encode : Obj → Except Exc Bytes) (messages : List Obj) (frames : List Bytes) : Prop :=
  List.Forall₂ (fun message frame => encode message = .ok frame) messages frames

/-- Every message is shorter than this. -/
def Fits (messages : List Obj) (M : ℤ) : Prop :=
  ∀ message ∈ messages, ∀ n, HasSize message n → (n : ℤ) < M

lemma lines_frames {messages : List Obj} {frames : List Bytes}
    (hm : ∀ message ∈ messages, WellFormed F (.obj message))
    (h : Frames (LineJsonFramer.encode (pythonJson F unicodeDecodeError) N) messages frames) :
    lines newline frames.flatten = frames := by
  refine lines_flatten newline fun frame hf => ?_
  have hline : ∀ message frame, WellFormed F (.obj message) →
      LineJsonFramer.encode (pythonJson F unicodeDecodeError) N message = .ok frame →
      ∃ line, newline ∉ line ∧ frame = line ++ [newline] := by
    intro message frame hm he
    obtain ⟨n, hn⟩ := hasSize_of_encode he
    obtain ⟨line, hbreak, hframe, -⟩ := LineJsonFramer.isLine_encode hm hn he
    exact ⟨line, hbreak, hframe⟩
  induction h with
  | nil => cases hf
  | cons he h ih =>
    obtain ⟨hhead, htail⟩ := List.forall_mem_cons.mp hm
    rcases List.mem_cons.mp hf with rfl | hf
    · exact hline _ _ hhead he
    · exact ih htail hf

lemma forall₂_decode {messages : List Obj} {frames : List Bytes}
    (hm : ∀ message ∈ messages, WellFormed F (.obj message))
    (h : Frames (LineJsonFramer.encode (pythonJson F unicodeDecodeError) N) messages frames) :
    List.Forall₂ (fun frame message =>
      LineJsonFramer.decode P (pythonJson F unicodeDecodeError) M frame = .ok message)
        frames (messages.map sortMessage) ↔ Fits messages M := by
  induction h with
  | nil => exact iff_of_true .nil (by rintro _ ⟨⟩)
  | cons he h ih =>
    obtain ⟨hhead, htail⟩ := List.forall_mem_cons.mp hm
    obtain ⟨n, hn⟩ := hasSize_of_encode he
    rw [List.map_cons, List.forall₂_cons, ih htail, Fits, Fits, List.forall_mem_cons,
      LineJsonFramer.decode_encode hhead hn he]
    refine and_congr_left fun _ => ?_
    split_ifs with hM
    · exact iff_of_true rfl fun k hk => (hk.unique hn) ▸ hM
    · exact iff_of_false (by rintro ⟨⟩) fun h => hM (h n hn)

lemma readTimes_frames {readBody : ℤ → Bytes → Except Exc Bytes × Bytes}
    (hbody : ∀ payload rest : Bytes, readBody payload.length (payload ++ rest) = (.ok payload, rest))
    {messages : List Obj} {frames : List Bytes}
    (hm : ∀ message ∈ messages, WellFormed F (.obj message))
    (h : Frames (ContentLengthJsonFramer.encode (pythonJson F unicodeDecodeError) N) messages
      frames) :
    readTimes (ContentLengthJsonFramer.readWith P (pythonJson F unicodeDecodeError) readBody M)
        messages.length frames.flatten = (.ok (messages.map sortMessage), []) ↔
      Fits messages (M + 1) := by
  induction h with
  | nil => exact iff_of_true rfl (by rintro _ ⟨⟩)
  | cons he h ih =>
    obtain ⟨hhead, htail⟩ := List.forall_mem_cons.mp hm
    obtain ⟨n, hn⟩ := ContentLengthJsonFramer.hasSize_of_encode he
    rename_i message frame messages frames
    obtain ⟨hroom, hfull⟩ := ContentLengthJsonFramer.readWith_encode (P := P) (M := M) hbody hhead hn
      he frames.flatten
    rw [List.length_cons, List.flatten_cons, readTimes, Fits, List.forall_mem_cons]
    by_cases hM : (n : ℤ) ≤ M
    · have hfits : ∀ k, HasSize message k → (k : ℤ) < M + 1 := fun k hk => by
        rw [hk.unique hn]
        omega
      rw [hroom hM, and_iff_right hfits, ← Fits, ← ih htail]
      dsimp only
      generalize readTimes _ messages.length frames.flatten = x
      obtain ⟨outcome, rest⟩ := x
      cases outcome with
      | error e => exact iff_of_false (by rintro ⟨⟩) (by rintro ⟨⟩)
      | ok read =>
        rw [Except.map, List.map_cons]
        simp
    · refine iff_of_false ?_ fun hfits => hM (by have := hfits.1 n hn; omega)
      have herror := hfull hM
      generalize ContentLengthJsonFramer.readWith P _ readBody M (frame ++ frames.flatten) = x
        at herror
      obtain ⟨outcome, rest⟩ := x
      dsimp only at herror
      rw [herror]
      rintro ⟨⟩

/-- **What the framers carry.** Messages framed by Python's json module are read, in order and with
their keys in order, exactly if the receiver has room for each of them: a line counts with its
newline, a body behind a header without one. -/
theorem frames_carry (P : Platform) (F : FloatText) (unicodeDecodeError : Bytes → Exc) (N M : ℤ)
    {messages : List Obj} (hm : ∀ message ∈ messages, WellFormed F (.obj message))
    (frames : List Bytes) :
    (Frames (LineJsonFramer.encode (pythonJson F unicodeDecodeError) N) messages frames →
      ((lines newline frames.flatten).mapM
          (LineJsonFramer.decode P (pythonJson F unicodeDecodeError) M)
        = .ok (messages.map sortMessage) ↔ Fits messages M)) ∧
    (Frames (ContentLengthJsonFramer.encode (pythonJson F unicodeDecodeError) N) messages frames →
      (readTimes (ContentLengthJsonFramer.read P (pythonJson F unicodeDecodeError) M)
        messages.length frames.flatten = (.ok (messages.map sortMessage), []) ↔
          Fits messages (M + 1)) ∧
      (readTimes (ContentLengthJsonFramer.readSync P (pythonJson F unicodeDecodeError) M)
        messages.length frames.flatten = (.ok (messages.map sortMessage), []) ↔
          Fits messages (M + 1))) := by
  refine ⟨fun h => ?_, fun h => ⟨readTimes_frames readExactly_append hm h,
    readTimes_frames readUpTo_append hm h⟩⟩
  rw [lines_frames hm h, mapM_eq_ok]
  exact forall₂_decode hm h

/-! Objects whose keys are out of order. -/

def unsorted : Obj := [("b", .int 1), ("a", .arr [.null])]

lemma wellFormed_unsorted (F : FloatText) : WellFormed F (.obj unsorted) :=
  ⟨by decide, trivial, ⟨trivial, trivial⟩, trivial⟩

def unsortedTwice : List Obj := [unsorted, [("c", .obj unsorted)]]

lemma fits_unsortedTwice (M : ℤ) : Fits unsortedTwice M ↔ 24 < M := by
  have hfirst : HasSize unsorted 18 := ⟨_, rfl, rfl⟩
  have hsecond : HasSize [("c", .obj unsorted)] 24 := ⟨_, rfl, rfl⟩
  constructor
  · intro h
    exact h _ (by simp [unsortedTwice]) 24 hsecond
  · intro h message hmessage n hn
    simp only [unsortedTwice, List.mem_cons, List.not_mem_nil, or_false] at hmessage
    rcases hmessage with rfl | rfl
    · rw [hn.unique hfirst]
      exact lt_trans (by decide) h
    · rw [hn.unique hsecond]
      exact h

/-- The json module, where floats are printed as they are written. -/
def verbatimJson : JsonModule Json Obj :=
  pythonJson .verbatim fun _ => .valueError "'utf-8' codec can't decode"

/-- There is no room for the newline of the second line, and none is needed behind a header. -/
theorem frames_carry_unsorted :
    let sorted : List Obj :=
      [[("a", .arr [.null]), ("b", .int 1)], [("c", .obj [("a", .arr [.null]), ("b", .int 1)])]]
    (∃ frames, Frames (LineJsonFramer.encode verbatimJson 64) unsortedTwice frames ∧
      (lines newline frames.flatten).mapM (LineJsonFramer.decode .strict verbatimJson 25)
        = .ok sorted ∧
      (lines newline frames.flatten).mapM (LineJsonFramer.decode .strict verbatimJson 24)
        ≠ .ok sorted) ∧
    ∃ frames, Frames (ContentLengthJsonFramer.encode verbatimJson 64) unsortedTwice frames ∧
      readTimes (ContentLengthJsonFramer.read .strict verbatimJson 24) 2 frames.flatten
        = (.ok sorted, []) ∧
      readTimes (ContentLengthJsonFramer.readSync .strict verbatimJson 24) 2 frames.flatten
        = (.ok sorted, []) := by
  have hm : ∀ message ∈ unsortedTwice, WellFormed .verbatim (.obj message) := by
    intro message hmessage
    simp only [unsortedTwice, List.mem_cons, List.not_mem_nil, or_false] at hmessage
    rcases hmessage with rfl | rfl
    · exact wellFormed_unsorted .verbatim
    · exact ⟨by decide, wellFormed_unsorted .verbatim, trivial⟩
  obtain ⟨frames, hframes⟩ : ∃ frames, Frames (LineJsonFramer.encode verbatimJson 64) unsortedTwice
    frames := ⟨_, .cons rfl (.cons rfl .nil)⟩
  obtain ⟨frames', hframes'⟩ : ∃ frames, Frames (ContentLengthJsonFramer.encode verbatimJson 64)
    unsortedTwice frames := ⟨_, .cons rfl (.cons rfl .nil)⟩
  have hlines (M : ℤ) := (frames_carry .strict .verbatim _ 64 M hm frames).1 hframes
  have hread := (frames_carry .strict .verbatim _ 64 24 hm frames').2 hframes'
  have hfits : Fits unsortedTwice (24 + 1) := (fits_unsortedTwice _).mpr (by decide)
  refine ⟨⟨frames, hframes, (hlines 25).mpr hfits, fun h => ?_⟩, frames', hframes',
    hread.1.mpr hfits, hread.2.mpr hfits⟩
  exact absurd ((fits_unsortedTwice 24).mp ((hlines 24).mp h)) (by decide)

end NaiaRelay.Transports
