import Mathlib.Data.List.Forall2
import Mathlib.Data.Option.Basic
import NaiaRelay.Lib.Run
import NaiaRelay.Lib.Service

set_option autoImplicit false

/-!
A server whose answers may have to be waited for.

A connection hands in one message at a time and takes the next when it has been written the
answer. A message is answered at once, or the connection is given a ticket and waits until that
has come to an answer, while the server goes on with the other connections. However they are
interleaved, each connection is written the answers to its own messages, in the order it sent them.
-/

namespace Deferral

open Service

variable {δ ε σ μ τ ι ρ β : Type*}

/-- What becomes of a message: its answer, or a ticket for it. -/
inductive Handling (ε μ τ : Type*)
  | answered (answer : Except ε μ)
  | deferred (ticket : τ)

/-- What is done with a message, for these choices of the environment, what else may happen, what
a ticket has come to by now, and what is done where no more can be read. -/
structure Server (δ ε σ μ τ ι ρ : Type*) where
  handle : σ → ι → μ → Option (Handling ε μ τ × σ)
  other : σ → ρ → Option σ
  answer : σ → τ → Option (Except ε μ)
  unreadable : δ → Except ε Unit

/-- What a connection has left to read, what has been written to it, what it waits for, and how it
ended. -/
structure Connection (ε β τ : Type*) where
  rest : List β
  written : List β := []
  waiting : Option τ := none
  ending : Option (Except ε Unit) := none

structure Pool (ε σ β τ : Type*) where
  state : σ
  connections : List (Connection ε β τ) := []

inductive Event (β ι ρ : Type*)
  /-- A connection on which this is sent. -/
  | connect (stream : List β)
  | read (k : ℕ) (choice : ι)
  | other (e : ρ)

def Event.stream : Event β ι ρ → Option (List β)
  | .connect stream => some stream
  | _ => none

section
variable (W : Wire δ ε μ β) (S : Server δ ε σ μ τ ι ρ)

/-- The answer to the last message is here. -/
def Connection.finish (c : Connection ε β τ) : Except ε μ → Connection ε β τ
  | .error e => { c with waiting := none, ending := some (.error e) }
  | .ok message =>
    match W.send message with
    | .error e => { c with waiting := none, ending := some (.error e) }
    | .ok bytes => { c with waiting := none, written := c.written ++ bytes }

/-- The connection after its message was handled. -/
def Connection.handled (c : Connection ε β τ) : Handling ε μ τ → Connection ε β τ
  | .answered answer => c.finish W answer
  | .deferred ticket => { c with waiting := some ticket }

/-- A connection goes on once its ticket has come to an answer. -/
def Connection.deliver (c : Connection ε β τ) (s : σ) : Connection ε β τ :=
  match c.waiting.bind (S.answer s) with
  | none => c
  | some answer => c.finish W answer

/-- One event; `none` where it cannot happen. -/
def Pool.step (p : Pool ε σ β τ) : Event β ι ρ → Option (Pool ε σ β τ)
  | .connect stream => some { p with connections := p.connections ++ [{ rest := stream }] }
  | .read k choice =>
    match p.connections[k]? with
    | none => none
    | some c =>
      if c.ending.isSome ∨ c.waiting.isSome then none
      else
        match W.receive c.rest with
        | .error e => some { p with
            connections := p.connections.set k { c with ending := some (S.unreadable e) } }
        | .ok (message, rest) =>
          (S.handle p.state choice message).map fun x =>
            ⟨x.2, p.connections.set k (({ c with rest } : Connection ε β τ).handled W x.1)⟩
  | .other e =>
    (S.other p.state e).map fun s => ⟨s, p.connections.map fun c => c.deliver W S s⟩

end

/-- A message that is read, with the state that met it and the choices. -/
structure Reading (σ ι μ : Type*) where
  state : σ
  choice : ι
  message : μ

section
variable (W : Wire δ ε μ β)

/-- What this connection reads at this event, if it does. -/
def Pool.reading (p : Pool ε σ β τ) (k : ℕ) : Event β ι ρ → Option (Reading σ ι μ)
  | .read j choice =>
    if j = k then
      p.connections[k]?.bind fun c =>
        (W.receive c.rest).toOption.map fun x => ⟨p.state, choice, x.1⟩
    else none
  | _ => none

/-- All that it has read, in order. -/
def readings (k : ℕ) (trace : List (Pool ε σ β τ × Event β ι ρ)) : List (Reading σ ι μ) :=
  trace.filterMap fun q => q.1.reading W k q.2

end

/-- What a server keeps to: the answers it gives fit what was read, at once or by a ticket of their
own, and go on to, and while a ticket is out what it is for stays the same. -/
structure Rules (S : Server δ ε σ μ τ ι ρ) (Good : σ → Prop)
    (Fits : σ → Reading σ ι μ → Except ε μ → Prop) (Doing : σ → Reading σ ι μ → τ → Prop) :
    Prop where
  good_handle : ∀ {s s' choice message x}, Good s → S.handle s choice message = some (x, s') →
    Good s'
  good_other : ∀ {s s' e}, Good s → S.other s e = some s' → Good s'
  answered : ∀ {s s' choice message answer}, Good s →
    S.handle s choice message = some (.answered answer, s') → Fits s' ⟨s, choice, message⟩ answer
  deferred : ∀ {s s' choice message ticket}, Good s →
    S.handle s choice message = some (.deferred ticket, s') →
      Doing s' ⟨s, choice, message⟩ ticket ∧ S.answer s' ticket = none ∧
        ∀ asked, ¬ Doing s asked ticket
  handle : ∀ {s s' choice message x asked ticket}, Good s →
    S.handle s choice message = some (x, s') → Doing s asked ticket →
      Doing s' asked ticket ∧ S.answer s' ticket = S.answer s ticket
  other : ∀ {s s' e asked ticket}, Good s → S.other s e = some s' → Doing s asked ticket →
    Doing s' asked ticket
  settled : ∀ {s asked ticket answer}, Doing s asked ticket → S.answer s ticket = some answer →
    Fits s asked answer
  fits_handle : ∀ {s s' choice message x asked answer}, Good s →
    S.handle s choice message = some (x, s') → Fits s asked answer → Fits s' asked answer
  fits_other : ∀ {s s' e asked answer}, Good s → S.other s e = some s' → Fits s asked answer →
    Fits s' asked answer

/-- The answer is one that can be written. -/
def Sendable (W : Wire δ ε μ β) (answer : Except ε μ) : Prop :=
  ∃ message bytes, answer = .ok message ∧ W.send message = .ok bytes

/-- A connection so far: what it has read and has been answered, the answers, and what it waits
with. -/
structure Conversation (W : Wire δ ε μ β) (S : Server δ ε σ μ τ ι ρ)
    (Fits : σ → Reading σ ι μ → Except ε μ → Prop) (Doing : σ → Reading σ ι μ → τ → Prop) (s : σ)
    (stream : List β) (c : Connection ε β τ) (done : List (Reading σ ι μ))
    (answers : List (Except ε μ)) (current : Option (Reading σ ι μ)) : Prop where
  taken : (received W stream).1
    = (done ++ current.toList).map Reading.message ++ (received W c.rest).1
  written : c.written = (answers.filterMap Except.toOption).flatMap (frame W)
  fits : List.Forall₂ (Fits s) done answers
  waits : Option.Rel (fun asked ticket => Doing s asked ticket ∧ S.answer s ticket = none)
    current c.waiting
  sendable : c.ending = none → ∀ answer ∈ answers, Sendable W answer
  ended : c.ending.isSome = true → c.waiting = none

variable {W : Wire δ ε μ β} {S : Server δ ε σ μ τ ι ρ} {Good : σ → Prop}
  {Fits : σ → Reading σ ι μ → Except ε μ → Prop} {Doing : σ → Reading σ ι μ → τ → Prop} {s s' : σ}
  {stream : List β} {c : Connection ε β τ} {done : List (Reading σ ι μ)}
  {answers : List (Except ε μ)} {current : Option (Reading σ ι μ)} {asked : Reading σ ι μ}
  {message : μ} {answer : Except ε μ}

lemma conversation_finish
    (htaken : (received W stream).1
      = (done ++ [asked]).map Reading.message ++ (received W c.rest).1)
    (hwritten : c.written = (answers.filterMap Except.toOption).flatMap (frame W))
    (hfits : List.Forall₂ (Fits s) done answers)
    (hsendable : ∀ answer ∈ answers, Sendable W answer) (h : Fits s asked answer) :
    Conversation W S Fits Doing s stream (c.finish W answer) (done ++ [asked])
      (answers ++ [answer]) none := by
  have hfits' : List.Forall₂ (Fits s) (done ++ [asked]) (answers ++ [answer]) :=
    List.rel_append hfits (.cons h .nil)
  have htaken' : (received W stream).1 = (done ++ [asked]
      ++ (none : Option (Reading σ ι μ)).toList).map Reading.message ++ (received W c.rest).1 := by
    rw [htaken, Option.toList_none, List.append_nil]
  have hwritten' : (((answers ++ [answer]).filterMap Except.toOption).flatMap (frame W))
      = c.written ++ ([answer].filterMap Except.toOption).flatMap (frame W) := by
    rw [List.filterMap_append, List.flatMap_append, hwritten]
  unfold Connection.finish
  cases answer with
  | error e =>
    exact ⟨htaken', (hwritten'.trans (List.append_nil _)).symm, hfits', .none, nofun, fun _ => rfl⟩
  | ok reply =>
    have hreply : (([Except.ok reply] : List (Except ε μ)).filterMap Except.toOption).flatMap
        (frame W) = (W.send reply).toOption.getD [] := List.append_nil _
    rw [hreply] at hwritten'
    dsimp only
    cases hsend : W.send reply with
    | error e =>
      rw [hsend] at hwritten'
      exact ⟨htaken', (hwritten'.trans (List.append_nil _)).symm, hfits', .none, nofun, fun _ => rfl⟩
    | ok bytes =>
      rw [hsend] at hwritten'
      refine ⟨htaken', hwritten'.symm, hfits', .none, fun _ answer hanswer => ?_, fun _ => rfl⟩
      rcases List.mem_append.mp hanswer with hanswer | hanswer
      · exact hsendable answer hanswer
      · exact ⟨reply, bytes, List.mem_singleton.mp hanswer, hsend⟩

namespace Conversation

lemma stay (h : Conversation W S Fits Doing s stream c done answers current)
    (hfits : ∀ asked answer, Fits s asked answer → Fits s' asked answer)
    (hdoing : ∀ asked ticket, c.waiting = some ticket → Doing s asked ticket →
      S.answer s ticket = none → Doing s' asked ticket ∧ S.answer s' ticket = none) :
    Conversation W S Fits Doing s' stream c done answers current where
  taken := h.taken
  written := h.written
  fits := h.fits.imp hfits
  waits := by
    have hwaits := h.waits
    generalize hw : c.waiting = waiting at hwaits
    cases hwaits with
    | none => exact .none
    | some hboth => exact .some (hdoing _ _ hw hboth.1 hboth.2)
  sendable := h.sendable
  ended := h.ended

lemma close (h : Conversation W S Fits Doing s stream c done answers current)
    (hidle : c.waiting = none) (outcome : Except ε Unit) :
    Conversation W S Fits Doing s stream { c with ending := some outcome } done answers current :=
  ⟨h.taken, h.written, h.fits, h.waits, nofun, fun _ => hidle⟩

lemma current_eq_none (h : Conversation W S Fits Doing s stream c done answers current)
    (hidle : c.waiting = none) : current = none := by
  have hwaits := h.waits
  rw [hidle] at hwaits
  cases hwaits
  rfl

lemma read (h : Conversation W S Fits Doing s stream c done answers current)
    (R : Rules S Good Fits Doing) (hgood : Good s) (hopen : c.ending = none)
    (hidle : c.waiting = none) {rest : List β} (hread : W.receive c.rest = .ok (message, rest))
    {choice : ι} {x : Handling ε μ τ} (hx : S.handle s choice message = some (x, s')) :
    ∃ done' answers current', done' ++ current'.toList
        = done ++ current.toList ++ [⟨s, choice, message⟩] ∧
      Conversation W S Fits Doing s' stream (({ c with rest } : Connection ε β τ).handled W x) done'
        answers current' := by
  obtain rfl := h.current_eq_none hidle
  have htaken : (received W stream).1
      = (done ++ [(⟨s, choice, message⟩ : Reading σ ι μ)]).map Reading.message
        ++ (received W rest).1 := by
    rw [h.taken, received_of_ok hread]
    simp
  cases x with
  | answered answer =>
    exact ⟨_, _, none, by simp, conversation_finish (c := { c with rest }) htaken h.written
      (h.fits.imp fun _ _ => R.fits_handle hgood hx) (h.sendable hopen) (R.answered hgood hx)⟩
  | deferred ticket =>
    obtain ⟨hdoing, hanswer, -⟩ := R.deferred hgood hx
    have hwaits : Option.Rel (fun asked ticket => Doing s' asked ticket ∧
        S.answer s' ticket = none) (some ⟨s, choice, message⟩) (some ticket) :=
      .some ⟨hdoing, hanswer⟩
    refine ⟨done, answers, some ⟨s, choice, message⟩, by simp, htaken, h.written,
      h.fits.imp fun _ _ => R.fits_handle hgood hx, hwaits, h.sendable, fun he => ?_⟩
    have hno : c.ending.isSome = true := he
    rw [hopen] at hno
    cases hno

lemma deliver (h : Conversation W S Fits Doing s stream c done answers current)
    (R : Rules S Good Fits Doing) (hgood : Good s) {e : ρ} (he : S.other s e = some s') :
    ∃ done' answers current', done' ++ current'.toList = done ++ current.toList ∧
      Conversation W S Fits Doing s' stream (c.deliver W S s') done' answers current' := by
  have hfits : ∀ asked answer, Fits s asked answer → Fits s' asked answer :=
    fun _ _ => R.fits_other hgood he
  unfold Connection.deliver
  cases hw : c.waiting with
  | none =>
    exact ⟨done, answers, current, rfl,
      h.stay hfits fun _ _ hticket => by rw [hw] at hticket; cases hticket⟩
  | some ticket =>
    have hopen : c.ending = none := by
      cases hending : c.ending with
      | none => rfl
      | some outcome =>
        rw [h.ended (by rw [hending]; rfl)] at hw
        cases hw
    have hwaits := h.waits
    rw [hw] at hwaits
    cases hwaits with
    | some hboth =>
      rename_i asked
      have hdoing := R.other hgood he hboth.1
      rw [Option.bind_some]
      cases hanswer : S.answer s' ticket with
      | none =>
        refine ⟨done, answers, some asked, rfl, h.stay hfits fun asked' ticket' hticket hasked _ => ?_⟩
        obtain rfl := Option.some.inj (hw.symm.trans hticket)
        exact ⟨R.other hgood he hasked, hanswer⟩
      | some answer =>
        exact ⟨_, _, none, List.append_nil _, conversation_finish h.taken h.written
          (h.fits.imp hfits) (h.sendable hopen) (R.settled hdoing hanswer)⟩

end Conversation

lemma Pool.step_read {p : Pool ε σ β τ} {k : ℕ} {choice : ι} {rest : List β}
    {x : Handling ε μ τ × σ} (hk : p.connections[k]? = some c) (hopen : c.ending = none)
    (hidle : c.waiting = none) (hread : W.receive c.rest = .ok (message, rest))
    (hx : S.handle p.state choice message = some x) :
    p.step W S (.read k choice)
      = some ⟨x.2, p.connections.set k (({ c with rest } : Connection ε β τ).handled W x.1)⟩ := by
  simp only [Pool.step, hk, hopen, hidle, Option.isSome_none, Bool.false_eq_true, or_self, if_false]
  rw [hread]
  dsimp only
  rw [hx]
  rfl

/-! ### Any run -/

@[simp] lemma waiting_finish (c : Connection ε β τ) (answer : Except ε μ) :
    (c.finish W answer).waiting = none := by
  unfold Connection.finish
  cases answer with
  | error e => rfl
  | ok message =>
    dsimp only
    cases W.send message <;> rfl

lemma waiting_deliver {ticket : τ} (h : (c.deliver W S s).waiting = some ticket) :
    c.waiting = some ticket := by
  unfold Connection.deliver at h
  split at h
  · exact h
  · rw [waiting_finish] at h
    cases h

lemma reading_of_none {p : Pool ε σ β τ} {k : ℕ} (e : Event β ι ρ)
    (hk : p.connections[k]? = none) : p.reading W k e = none := by
  cases e with
  | read j choice =>
    rw [Pool.reading, hk]
    exact ite_self _
  | connect stream | other e => rfl

/-- The streams that have come in. -/
def streams (trace : List (Pool ε σ β τ × Event β ι ρ)) : List (List β) :=
  trace.filterMap fun q => q.2.stream

@[simp] lemma streams_concat (trace : List (Pool ε σ β τ × Event β ι ρ)) (p : Pool ε σ β τ)
    (e : Event β ι ρ) : streams (trace ++ [(p, e)]) = streams trace ++ e.stream.toList := by
  cases he : e.stream <;> simp [streams, he]

@[simp] lemma readings_concat (k : ℕ) (trace : List (Pool ε σ β τ × Event β ι ρ))
    (p : Pool ε σ β τ) (e : Event β ι ρ) :
    readings W k (trace ++ [(p, e)]) = readings W k trace ++ (p.reading W k e).toList := by
  cases he : p.reading W k e <;> simp [readings, he]

/-- After these events every connection has its conversation, and no two wait for the same. -/
structure Conversing (W : Wire δ ε μ β) (S : Server δ ε σ μ τ ι ρ) (Good : σ → Prop)
    (Fits : σ → Reading σ ι μ → Except ε μ → Prop) (Doing : σ → Reading σ ι μ → τ → Prop)
    (trace : List (Pool ε σ β τ × Event β ι ρ)) (p : Pool ε σ β τ) : Prop where
  good : Good p.state
  length : (streams trace).length = p.connections.length
  unread : ∀ k, p.connections[k]? = none → readings W k trace = []
  each : ∀ (k : ℕ) (c : Connection ε β τ), p.connections[k]? = some c →
    ∃ stream, (streams trace)[k]? = some stream ∧ ∃ done answers current,
      readings W k trace = done ++ current.toList ∧
      Conversation W S Fits Doing p.state stream c done answers current
  apart : ∀ {j k : ℕ} {c d : Connection ε β τ} {ticket : τ}, p.connections[j]? = some c →
    p.connections[k]? = some d → c.waiting = some ticket → d.waiting = some ticket → j = k

variable {p p' : Pool ε σ β τ} {e : Event β ι ρ} {trace : List (Pool ε σ β τ × Event β ι ρ)}

lemma Conversing.doing (h : Conversing W S Good Fits Doing trace p) {k : ℕ} {ticket : τ}
    (hk : p.connections[k]? = some c) (hw : c.waiting = some ticket) :
    ∃ asked, Doing p.state asked ticket := by
  obtain ⟨stream, -, done, answers, current, -, hc⟩ := h.each k c hk
  have hwaits := hc.waits
  rw [hw] at hwaits
  cases hwaits with
  | some hboth => exact ⟨_, hboth.1⟩

lemma Conversing.set (h : Conversing W S Good Fits Doing trace p) {k : ℕ} {choice : ι}
    (hk : p.connections[k]? = some c) {c' : Connection ε β τ} (hgood : Good s')
    (hothers : ∀ asked ticket, Doing p.state asked ticket → S.answer p.state ticket = none →
      Doing s' asked ticket ∧ S.answer s' ticket = none)
    (hfits : ∀ asked answer, Fits p.state asked answer → Fits s' asked answer)
    (hself : ∀ stream done answers current,
      Conversation W S Fits Doing p.state stream c done answers current →
        ∃ done' answers current', done' ++ current'.toList
            = done ++ current.toList ++ (p.reading W k (.read k choice : Event β ι ρ)).toList ∧
          Conversation W S Fits Doing s' stream c' done' answers current')
    (hnew : ∀ ticket, c'.waiting = some ticket → ∀ asked, ¬ Doing p.state asked ticket) :
    Conversing W S Good Fits Doing (trace ++ [(p, .read k choice)])
      ⟨s', p.connections.set k c'⟩ := by
  have hlt : k < p.connections.length := (List.getElem?_eq_some_iff.mp hk).1
  have hstreams : streams (trace ++ [(p, (.read k choice : Event β ι ρ))]) = streams trace := by
    simp [Event.stream]
  -- the tickets of the others are out already
  have hne : ∀ {j : ℕ} {d : Connection ε β τ} {ticket : τ}, p.connections[j]? = some d →
      d.waiting = some ticket → c'.waiting ≠ some ticket := fun hj hd hw => by
    obtain ⟨asked, hdoing⟩ := h.doing hj hd
    exact hnew _ hw asked hdoing
  refine ⟨hgood, ?_, fun j hj => ?_, fun j d hj => ?_, ?_⟩
  · rw [hstreams]
    exact h.length.trans List.length_set.symm
  · have hnone : p.connections[j]? = none := by
      rw [List.getElem?_eq_none_iff] at hj ⊢
      rwa [List.length_set] at hj
    rw [readings_concat, h.unread j hnone, reading_of_none _ hnone]
    rfl
  · rw [hstreams, readings_concat]
    -- the connection itself, or another one that has read nothing now
    by_cases hjk : j = k
    · subst hjk
      rw [List.getElem?_set_self hlt] at hj
      obtain rfl := Option.some.inj hj
      obtain ⟨stream, hstream, done, answers, current, hread, hc⟩ := h.each j c hk
      obtain ⟨done', answers', current', hread', hc'⟩ := hself stream done answers current hc
      exact ⟨stream, hstream, done', answers', current', by rw [hread, hread'], hc'⟩
    · rw [List.getElem?_set_ne (Ne.symm hjk)] at hj
      obtain ⟨stream, hstream, done, answers, current, hread, hc⟩ := h.each j d hj
      have hnone : p.reading W j (.read k choice : Event β ι ρ) = none := if_neg (Ne.symm hjk)
      exact ⟨stream, hstream, done, answers, current, by simp [hread, hnone],
        hc.stay hfits fun asked ticket _ hdoing hnone => hothers asked ticket hdoing hnone⟩
  · intro i j a b ticket hi hj ha hb
    by_cases hik : i = k
    · by_cases hjk : j = k
      · rw [hik, hjk]
      · subst hik
        rw [List.getElem?_set_self hlt] at hi
        rw [List.getElem?_set_ne (Ne.symm hjk)] at hj
        obtain rfl := Option.some.inj hi
        exact absurd ha (hne hj hb)
    · rw [List.getElem?_set_ne (Ne.symm hik)] at hi
      by_cases hjk : j = k
      · subst hjk
        rw [List.getElem?_set_self hlt] at hj
        obtain rfl := Option.some.inj hj
        exact absurd hb (hne hi ha)
      · rw [List.getElem?_set_ne (Ne.symm hjk)] at hj
        exact h.apart hi hj ha hb

lemma getElem?_connect {l : List (Connection ε β τ)} {k : ℕ}
    (hk : (l ++ [{ rest := stream }])[k]? = some c) :
    l[k]? = some c ∨ (k = l.length ∧ c = { rest := stream }) := by
  rw [List.getElem?_append] at hk
  split at hk
  · exact Or.inl hk
  · obtain ⟨hlt, hc⟩ := List.getElem?_eq_some_iff.mp hk
    simp only [List.length_singleton] at hlt
    exact Or.inr ⟨by omega, by simpa using hc.symm⟩

lemma Conversing.connect (h : Conversing W S Good Fits Doing trace p) (stream : List β) :
    Conversing W S Good Fits Doing (trace ++ [(p, .connect stream)])
      { p with connections := p.connections ++ [{ rest := stream }] } := by
  have hstreams : streams (trace ++ [(p, (.connect stream : Event β ι ρ))])
      = streams trace ++ [stream] := by
    simp [Event.stream]
  have hreads : ∀ k, readings W k (trace ++ [(p, (.connect stream : Event β ι ρ))])
      = readings W k trace := by
    simp [Pool.reading]
  refine ⟨h.good, by simp [hstreams, h.length], fun k hk => ?_, fun k c hk => ?_,
    fun {j k c d ticket} hj hk hc hd => ?_⟩
  · rw [hreads]
    refine h.unread k ?_
    rw [List.getElem?_eq_none_iff] at hk ⊢
    rw [List.length_append, List.length_singleton] at hk
    omega
  · rw [hstreams, hreads]
    rcases getElem?_connect hk with hk | ⟨rfl, rfl⟩
    · obtain ⟨stream', hstream, hc⟩ := h.each k c hk
      have hlt : k < (streams trace).length := h.length ▸ (List.getElem?_eq_some_iff.mp hk).1
      exact ⟨stream', (List.getElem?_append_left hlt).trans hstream, hc⟩
    · refine ⟨stream, by simp [← h.length], [], [], none, h.unread _ (by simp), ?_⟩
      exact ⟨rfl, rfl, .nil, .none, fun _ _ ha => absurd ha List.not_mem_nil, fun _ => rfl⟩
  · rcases getElem?_connect hj with hj | ⟨-, rfl⟩
    · rcases getElem?_connect hk with hk | ⟨-, rfl⟩
      · exact h.apart hj hk hc hd
      · cases hd
    · cases hc

lemma Conversing.other (R : Rules S Good Fits Doing) (h : Conversing W S Good Fits Doing trace p)
    {e : ρ} (he : S.other p.state e = some s') :
    Conversing W S Good Fits Doing (trace ++ [(p, .other e)])
      ⟨s', p.connections.map fun c => c.deliver W S s'⟩ := by
  have hstreams : streams (trace ++ [(p, (.other e : Event β ι ρ))]) = streams trace := by
    simp [Event.stream]
  have hreads : ∀ k, readings W k (trace ++ [(p, (.other e : Event β ι ρ))])
      = readings W k trace := by
    simp [Pool.reading]
  refine ⟨R.good_other h.good he, by rw [hstreams, h.length, List.length_map], fun k hk => ?_,
    fun k d hk => ?_, fun {j k a b ticket} hj hk ha hb => ?_⟩
  · rw [List.getElem?_map, Option.map_eq_none_iff] at hk
    rw [hreads, h.unread k hk]
  · rw [List.getElem?_map] at hk
    obtain ⟨c, hc, rfl⟩ := Option.map_eq_some_iff.mp hk
    obtain ⟨stream, hstream, done, answers, current, hread, hconv⟩ := h.each k c hc
    obtain ⟨done', answers', current', hread', hconv'⟩ := hconv.deliver R h.good he
    exact ⟨stream, by rw [hstreams, hstream], done', answers', current',
      by rw [hreads, hread, hread'], hconv'⟩
  · rw [List.getElem?_map] at hj hk
    obtain ⟨c, hc, rfl⟩ := Option.map_eq_some_iff.mp hj
    obtain ⟨d, hd, rfl⟩ := Option.map_eq_some_iff.mp hk
    exact h.apart hc hd (waiting_deliver ha) (waiting_deliver hb)

/-- **One event** keeps every conversation. -/
lemma Conversing.step (R : Rules S Good Fits Doing) (h : Conversing W S Good Fits Doing trace p)
    (hstep : p.step W S e = some p') :
    Conversing W S Good Fits Doing (trace ++ [(p, e)]) p' := by
  cases e with
  | connect stream =>
    obtain rfl := Option.some.inj hstep
    exact h.connect stream
  | other e =>
    -- every connection whose ticket has its answer now is written it
    obtain ⟨s', hs', rfl⟩ := Option.map_eq_some_iff.mp hstep
    exact h.other R hs'
  | read k choice =>
    simp only [Pool.step] at hstep
    cases hk : p.connections[k]? with
    | none =>
      rw [hk] at hstep
      cases hstep
    | some c =>
      rw [hk] at hstep
      dsimp only at hstep
      split_ifs at hstep with hbusy
      have hopen : c.ending = none := by
        cases hc : c.ending <;> simp [hc] at hbusy ⊢
      have hidle : c.waiting = none := by
        cases hc : c.waiting <;> simp [hc] at hbusy ⊢
      cases hread : W.receive c.rest with
      | error e =>
        -- nothing more can be read, and the connection ends
        rw [hread] at hstep
        obtain rfl := Option.some.inj hstep
        have hreading : p.reading W k (.read k choice : Event β ι ρ) = none := by
          simp [Pool.reading, hk, hread, Except.toOption]
        refine h.set hk h.good (fun _ _ hdoing hnone => ⟨hdoing, hnone⟩) (fun _ _ => id)
          (fun _ done answers current hc => ⟨done, answers, current, ?_, hc.close hidle _⟩)
          fun ticket hticket => ?_
        · rw [hreading, Option.toList_none, List.append_nil]
        · rw [show c.waiting = some ticket from hticket] at hidle
          cases hidle
      | ok x =>
        -- a message is handled; if its answer is deferred, its ticket is new
        obtain ⟨message, rest⟩ := x
        rw [hread] at hstep
        obtain ⟨⟨x, s'⟩, hx, rfl⟩ := Option.map_eq_some_iff.mp hstep
        have hreading : p.reading W k (.read k choice : Event β ι ρ)
            = some ⟨p.state, choice, message⟩ := by
          simp [Pool.reading, hk, hread, Except.toOption]
        refine h.set hk (R.good_handle h.good hx) (fun asked ticket hdoing hnone => ?_)
          (fun _ _ => R.fits_handle h.good hx) (fun _ done answers current hc => ?_)
          fun ticket hticket => ?_
        · obtain ⟨hdoing', hsame⟩ := R.handle h.good hx hdoing
          exact ⟨hdoing', hsame.trans hnone⟩
        · rw [hreading]
          exact hc.read R h.good hopen hidle hread hx
        · cases x with
          | answered answer =>
            have hnone : (({ c with rest } : Connection ε β τ).finish W answer).waiting
                = some ticket := hticket
            rw [waiting_finish] at hnone
            cases hnone
          | deferred ticket' =>
            obtain rfl := Option.some.inj hticket
            exact (R.deferred h.good hx).2.2

/-- **A run.** Whatever happens in between, each connection has been answered what it read first, in
order, and waits with at most one more. -/
theorem conversing_of_run (R : Rules S Good Fits Doing) {s : σ} (hgood : Good s)
    {es : List (Event β ι ρ)} (hrun : Run.run (Pool.step W S) ⟨s, []⟩ es = some p) :
    Conversing W S Good Fits Doing (Run.trace (Pool.step W S) ⟨s, []⟩ es) p := by
  have hstart : Conversing W S Good Fits Doing [] ⟨s, []⟩ :=
    ⟨hgood, rfl, fun _ _ => rfl, fun k c hk => by simp at hk, fun hj => by simp at hj⟩
  have hkeeps : ∀ p e p' trace, Conversing W S Good Fits Doing trace p → True →
      Pool.step W S p e = some p' → Conversing W S Good Fits Doing (trace ++ [(p, e)]) p' :=
    fun _ _ _ _ h _ hstep => h.step R hstep
  exact Run.run_invariant_trace hkeeps hstart (fun _ _ => trivial) hrun

end Deferral
