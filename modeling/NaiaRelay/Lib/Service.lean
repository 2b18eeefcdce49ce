import Mathlib.Tactic.Common

set_option autoImplicit false

/-!
Services over a stream.

A server takes one message after the other from what it reads, as long as it is up, and writes an
answer to those that have one. It stops at a message it fails on, and where nothing more can be
read. On the stream it is the same server as on the messages that are received from it.
-/

namespace Service

variable {δ ε σ μ β : Type*}

/-- How messages are taken from a stream and put on one. -/
structure Wire (δ ε μ β : Type*) where
  receive : List β → Except δ (μ × List β)
  send : μ → Except ε (List β)
  /-- A message takes something of the stream. -/
  length_receive : ∀ {stream message rest}, receive stream = .ok (message, rest) →
    rest.length < stream.length

/-- What is done with a message, while the server is up, and where no more can be read. -/
structure Server (δ ε σ μ : Type*) where
  up : σ → Bool
  handle : σ → μ → Except ε (Option μ) × σ
  unreadable : δ → Except ε Unit

variable (W : Wire δ ε μ β) (S : Server δ ε σ μ)

/-- The service of a stream: what is written, how it ends, and the state then. -/
def serve (s : σ) (stream : List β) : List β × Except ε Unit × σ :=
  if S.up s then
    match _h : W.receive stream with
    | .error e => ([], S.unreadable e, s)
    | .ok (message, rest) =>
      match S.handle s message with
      | (.error e, s) => ([], .error e, s)
      | (.ok none, s) => serve s rest
      | (.ok (some answer), s) =>
        match W.send answer with
        | .error e => ([], .error e, s)
        | .ok frame =>
          let x := serve s rest
          (frame ++ x.1, x.2)
  else ([], .ok (), s)
termination_by stream.length
decreasing_by all_goals exact W.length_receive _h

/-- The messages of a stream, up to where nothing more can be read, and why. -/
def received (stream : List β) : List μ × Option δ :=
  match _h : W.receive stream with
  | .error e => ([], some e)
  | .ok (message, rest) =>
    let x := received rest
    (message :: x.1, x.2)
termination_by stream.length
decreasing_by exact W.length_receive _h

/-- The service of messages: an answer that cannot be sent is not written. `finish` is how it ends
when there are no more. -/
def answer (finish : Except ε Unit) (s : σ) : List μ → List μ × Except ε Unit × σ
  | [] => ([], if S.up s then finish else .ok (), s)
  | message :: messages =>
    if S.up s then
      match S.handle s message with
      | (.error e, s) => ([], .error e, s)
      | (.ok none, s) => answer finish s messages
      | (.ok (some answered), s) =>
        match W.send answered with
        | .error e => ([], .error e, s)
        | .ok _ =>
          let x := answer finish s messages
          (answered :: x.1, x.2)
    else ([], .ok (), s)

/-- What is put on the stream for a message. -/
def frame (message : μ) : List β := (W.send message).toOption.getD []

variable {W S}

lemma frame_of_ok {message : μ} {bytes : List β} (h : W.send message = .ok bytes) :
    frame W message = bytes := by
  rw [frame, h]
  rfl

lemma received_of_error {stream : List β} {e : δ} (h : W.receive stream = .error e) :
    received W stream = ([], some e) := by
  rw [received]
  split
  · rename_i e' he
    rw [h] at he
    cases he
    rfl
  · rename_i he
    rw [h] at he
    cases he

lemma received_of_ok {stream rest : List β} {message : μ}
    (h : W.receive stream = .ok (message, rest)) :
    received W stream = (message :: (received W rest).1, (received W rest).2) := by
  rw [received]
  split
  · rename_i he
    rw [h] at he
    cases he
  · rename_i message' rest' he
    rw [h] at he
    cases he
    rfl

lemma serve_of_down {s : σ} (h : S.up s = false) (stream : List β) :
    serve W S s stream = ([], .ok (), s) := by
  rw [serve, if_neg (by simp [h])]

lemma serve_of_error {s : σ} (hs : S.up s = true) {stream : List β} {e : δ}
    (h : W.receive stream = .error e) : serve W S s stream = ([], S.unreadable e, s) := by
  rw [serve, if_pos hs]
  split
  · rename_i e' he
    rw [h] at he
    cases he
    rfl
  · rename_i he
    rw [h] at he
    cases he

lemma serve_of_ok {s : σ} (hs : S.up s = true) {stream rest : List β} {message : μ}
    (h : W.receive stream = .ok (message, rest)) :
    serve W S s stream =
      match S.handle s message with
      | (.error e, s) => ([], .error e, s)
      | (.ok none, s) => serve W S s rest
      | (.ok (some answered), s) =>
        match W.send answered with
        | .error e => ([], .error e, s)
        | .ok frame => (frame ++ (serve W S s rest).1, (serve W S s rest).2) := by
  rw [serve, if_pos hs]
  split
  · rename_i he
    rw [h] at he
    cases he
  · rename_i message' rest' he
    rw [h] at he
    cases he
    rfl

/-- **On a stream and on its messages** a server does the same: it writes the frames of its
answers. -/
theorem serve_eq_answer (s : σ) (stream : List β) :
    serve W S s stream =
      (((answer W S ((received W stream).2.elim (.ok ()) S.unreadable) s
          (received W stream).1).1.flatMap (frame W)),
        (answer W S ((received W stream).2.elim (.ok ()) S.unreadable) s
          (received W stream).1).2) := by
  by_cases hs : S.up s = true
  · cases h : W.receive stream with
    | error e =>
      rw [serve_of_error hs h, received_of_error h, answer, if_pos hs]
      rfl
    | ok x =>
      obtain ⟨message, rest⟩ := x
      have hlength := W.length_receive h
      rw [serve_of_ok hs h, received_of_ok h, answer, if_pos hs]
      cases S.handle s message with
      | mk outcome s' =>
        cases outcome with
        | error e => rfl
        | ok answered =>
          have ih := serve_eq_answer s' rest
          cases answered with
          | none => exact ih
          | some answered =>
            dsimp only
            cases hsend : W.send answered with
            | error e => rfl
            | ok text =>
              dsimp only
              rw [ih, List.flatMap_cons, frame, hsend]
              rfl
  · have hdown : S.up s = false := by simpa using hs
    rw [serve_of_down hdown]
    cases (received W stream).1 with
    | nil => simp [answer, hdown]
    | cons message messages => simp [answer, hdown]
termination_by stream.length

/-- **What is received of frames** put together: the messages up to the first that is refused. -/
theorem received_flatten {κ : Type*} {accepted : κ → Bool} {read : κ → μ} {sent : List κ}
    {frames : List (List β)}
    (h : List.Forall₂ (fun message frame => ∀ rest,
      (accepted message = true → W.receive (frame ++ rest) = .ok (read message, rest)) ∧
      (accepted message = false → ∃ e, W.receive (frame ++ rest) = .error e)) sent frames)
    (hend : ∃ e, W.receive [] = .error e) :
    (received W frames.flatten).1 = (sent.takeWhile accepted).map read := by
  induction h with
  | nil =>
    obtain ⟨e, he⟩ := hend
    rw [List.flatten_nil, received_of_error he]
    rfl
  | cons hframe h ih =>
    rename_i message frame sent frames
    obtain ⟨haccepted, hrefused⟩ := hframe frames.flatten
    rw [List.flatten_cons, List.takeWhile_cons]
    cases hm : accepted message with
    | true =>
      rw [received_of_ok (haccepted hm), ih]
      rfl
    | false =>
      obtain ⟨e, he⟩ := hrefused hm
      rw [received_of_error he]
      rfl

end Service
