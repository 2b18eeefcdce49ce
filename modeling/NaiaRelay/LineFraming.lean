import Mathlib.Data.Bool.AllAny
import NaiaRelay.Framing

set_option autoImplicit false

/-!
Messages sent one to a line. The sender counts the bytes of a message without the newline, the
receiver counts it with the message.
-/

namespace NaiaRelay.Transports

open LineStream Text LineJsonFramer

variable {P : Platform} {Value Message : Type} {J : JsonModule Value Message}

/-- What the json module makes of a message: a text that is not empty, of ASCII without a raw
newline, and that the message is read back from. -/
structure JsonModule.ReadsBack (J : JsonModule Value Message) (message : Message) : Prop where
  nonempty : ∀ text, J.dumps message = .ok text → text ≠ ""
  ascii : ∀ text, J.dumps message = .ok text → ∀ c ∈ text.toList, IsAscii c
  unbroken : ∀ text, J.dumps message = .ok text → '\n' ∉ text.toList
  loads : ∀ text, J.dumps message = .ok text →
    ∃ value, J.loads text = .ok value ∧ J.asDict value = some message

variable {N : ℤ} {message : Message} {frame : Bytes}

/-! ### One message -/

lemma encode_cases (hj : J.ReadsBack message) (h : encode J N message = .ok frame) :
    ∃ text, J.dumps message = .ok text ∧ frame = encodeUtf8 text ++ [newline] ∧
      newline ∉ encodeUtf8 text ∧ ((encodeUtf8 text).length : ℤ) ≤ N := by
  unfold encode at h
  cases hp : encodePayload J N message with
  | error e =>
    rw [hp] at h
    cases h
  | ok payload =>
    rw [hp] at h
    obtain rfl := Except.ok.inj h
    obtain ⟨text, htext, rfl, hle⟩ := encodePayload_eq_ok.mp hp
    refine ⟨text, htext, rfl, ?_, hle⟩
    rw [encodeUtf8_of_ascii (hj.ascii text htext)]
    exact newline_notMem_encodeAscii (hj.ascii text htext) (hj.unbroken text htext)

lemma encodeUtf8_ne_nil {text : String} (h : text ≠ "") : encodeUtf8 text ≠ [] := by
  intro hnil
  have hdecode := decodeUtf8_encodeUtf8 text
  rw [hnil] at hdecode
  exact h (Option.some.inj (hdecode.symm.trans (decodeUtf8_encodeUtf8 "")))

lemma decode_frame_iff {M : ℤ} (hj : J.ReadsBack message) (h : encode J N message = .ok frame)
    {text : String} (htext : J.dumps message = .ok text) :
    decode P J M frame = .ok message ↔ ((encodeUtf8 text).length : ℤ) < M := by
  obtain ⟨text', htext', rfl, hbreak, -⟩ := encode_cases hj h
  obtain rfl := Except.ok.inj (htext.symm.trans htext')
  have hstrip : (encodeUtf8 text ++ [newline]).rdropWhile (· = newline) = encodeUtf8 text := by
    rw [List.rdropWhile_concat_pos _ _ _ (by simp), List.rdropWhile_eq_self_iff]
    intro hne heq
    exact hbreak (of_decide_eq_true heq ▸ List.getLast_mem hne)
  rw [decode, hstrip, if_neg (encodeUtf8_ne_nil (hj.nonempty text htext))]
  obtain ⟨value, hloads, hdict⟩ := hj.loads text htext
  have hfrom : fromJson J text = .ok message := by
    simp only [fromJson, hloads, bind, Except.bind, hdict]
  rw [decodePayload_encodeUtf8 hfrom, List.length_append, List.length_singleton]
  by_cases hM : ((encodeUtf8 text).length : ℤ) < M
  · rw [if_neg (by push_cast; omega)]
    exact iff_of_true rfl hM
  · rw [if_pos (by push_cast; omega)]
    exact iff_of_false nofun hM

lemma decode_encode_iff (hj : J.ReadsBack message) (h : encode J N message = .ok frame) :
    decode P J N frame = .ok message ↔
      ∀ text, J.dumps message = .ok text → ((encodeUtf8 text).length : ℤ) ≠ N := by
  obtain ⟨text, htext, -, -, hle⟩ := encode_cases hj h
  have hall : (∀ text', J.dumps message = .ok text' → ((encodeUtf8 text').length : ℤ) ≠ N) ↔
      ((encodeUtf8 text).length : ℤ) ≠ N :=
    ⟨fun h => h text htext, fun h text' ht => by
      obtain rfl := Except.ok.inj (htext.symm.trans ht)
      exact h⟩
  rw [hall, decode_frame_iff hj h htext]
  omega

/-! ### A stream of messages -/

/-- **When lines are read back.** Exactly when no message fills the limit to the last byte: its
frame is sent, and refused for its newline. -/
theorem decode_lines_iff (P : Platform) {messages : List Message} {frames : List Bytes}
    (hj : ∀ message ∈ messages, J.ReadsBack message)
    (hencode : messages.mapM (encode J N) = .ok frames) :
    (lines newline frames.flatten).mapM (decode P J N) = .ok messages ↔
      ∀ message ∈ messages, ∀ text, J.dumps message = .ok text →
        ((encodeUtf8 text).length : ℤ) ≠ N := by
  have hall := mapM_eq_ok.mp hencode
  have hmem : ∀ frame ∈ frames, ∃ message ∈ messages, encode J N message = .ok frame := by
    clear hj hencode
    induction hall with
    | nil => simp
    | @cons message frame messages frames he _ ih =>
      intro frame' hf
      rcases List.mem_cons.mp hf with rfl | hf
      · exact ⟨message, by simp, he⟩
      · obtain ⟨message', hm, he'⟩ := ih frame' hf
        exact ⟨message', List.mem_cons_of_mem _ hm, he'⟩
  have hlines : lines newline frames.flatten = frames := by
    refine lines_flatten newline fun frame hf => ?_
    obtain ⟨message, hm, he⟩ := hmem frame hf
    obtain ⟨text, -, hframe, hbreak, -⟩ := encode_cases (hj message hm) he
    exact ⟨encodeUtf8 text, hbreak, hframe⟩
  rw [hlines, mapM_eq_ok]
  clear hencode hlines hmem
  induction hall with
  | nil => simp
  | @cons message frame messages frames he _ ih =>
    have hrest := ih fun m hm => hj m (List.mem_cons_of_mem _ hm)
    rw [List.forall₂_cons, List.forall_mem_cons, decode_encode_iff (hj message (by simp)) he]
    exact and_congr_right fun _ => hrest

/-! An empty object in a stream with room for two bytes. -/

lemma emptyJson_readsBack : emptyJson.ReadsBack [] := by
  have htext : ∀ text, emptyJson.dumps [] = .ok text → text = "\x7b\x7d" :=
    fun text h => (Except.ok.inj h).symm
  constructor
  · intro text h
    rw [htext text h]
    decide
  · intro text h
    rw [htext text h]
    exact List.all_iff_forall_prop.mp (by decide)
  · intro text h
    rw [htext text h]
    decide
  · intro text h
    rw [htext text h]
    exact ⟨.obj [], rfl, rfl⟩

theorem fullLine_refused :
    emptyJson.ReadsBack [] ∧
      ∃ frames, [([] : Obj)].mapM (encode emptyJson 2) = .ok frames ∧
        (lines newline frames.flatten).mapM (decode .strict emptyJson 2) = .error
          (.transportError "Received frame exceeds configured maximum message size.") ∧
        (lines newline frames.flatten).mapM (decode .strict emptyJson 2) ≠ .ok [[]] := by
  have hlines : lines newline [[123, 125, 10]].flatten = [[123, 125, 10]] :=
    lines_flatten newline fun frame hf => ⟨[123, 125], by decide, List.mem_singleton.mp hf⟩
  have hdecode : (lines newline [[123, 125, 10]].flatten).mapM (decode .strict emptyJson 2)
      = .error (.transportError "Received frame exceeds configured maximum message size.") := by
    rw [hlines]
    rfl
  refine ⟨emptyJson_readsBack, [[123, 125, 10]], rfl, hdecode, ?_⟩
  rw [hdecode]
  exact nofun

theorem decode_lines_iff_roomyLine :
    ∃ frames, [([] : Obj)].mapM (encode emptyJson 3) = .ok frames ∧
      ((lines newline frames.flatten).mapM (decode .strict emptyJson 3) = .ok [[]] ↔
        ∀ message ∈ [([] : Obj)], ∀ text, emptyJson.dumps message = .ok text →
          ((encodeUtf8 text).length : ℤ) ≠ 3) :=
  ⟨_, rfl, decode_lines_iff .strict (by simpa using emptyJson_readsBack) rfl⟩

end NaiaRelay.Transports
