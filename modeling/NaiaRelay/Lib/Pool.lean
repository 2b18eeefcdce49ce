import NaiaRelay.Lib.Run
import NaiaRelay.Lib.Service

set_option autoImplicit false

/-!
A server with many connections at a time.

A turn of a connection is one message, from where it is read to where its answer is written. The
connections take their turns in any order, and anything else may happen to the server in between.
However they do, each connection has its own messages handled in the order it sent them, and is
written the answers to these and no others.
-/

namespace Service

variable {δ ε σ μ β ρ : Type*}

/-- What a connection has left to read, what has been written to it, and how it ended. -/
structure Connection (ε β : Type*) where
  rest : List β
  written : List β := []
  ending : Option (Except ε Unit) := none

structure Pool (ε σ β : Type*) where
  state : σ
  connections : List (Connection ε β) := []

inductive PoolEvent (β ρ : Type*)
  /-- A connection on which this is sent. -/
  | connect (stream : List β)
  | turn (k : ℕ)
  | other (e : ρ)

/-- What is done where a connection opens and where it closes, and what else may happen. -/
structure Setting (σ ρ : Type*) where
  opened : ℕ → σ → σ
  closed : ℕ → σ → σ
  other : σ → ρ → Option σ

variable (W : Wire δ ε μ β) (S : Server δ ε σ μ) (T : Setting σ ρ)

/-- A connection goes on as long as the server is up. -/
def Connection.goOn (c : Connection ε β) (s : σ) : Connection ε β :=
  if S.up s then c else { c with ending := some (.ok ()) }

/-- A turn of a connection. -/
def Connection.turn (c : Connection ε β) (s : σ) : σ × Connection ε β :=
  match W.receive c.rest with
  | .error e => (s, { c with ending := some (S.unreadable e) })
  | .ok (message, rest) =>
    match S.handle s message with
    | (.error e, s) => (s, { c with rest, ending := some (.error e) })
    | (.ok none, s) => (s, { c with rest }.goOn S s)
    | (.ok (some answer), s) =>
      match W.send answer with
      | .error e => (s, { c with rest, ending := some (.error e) })
      | .ok frame => (s, { c with rest, written := c.written ++ frame }.goOn S s)

def Setting.leave (k : ℕ) (c : Connection ε β) (s : σ) : σ :=
  if c.ending.isSome then T.closed k s else s

/-- One event; `none` where it cannot happen. -/
def Pool.step (p : Pool ε σ β) : PoolEvent β ρ → Option (Pool ε σ β)
  | .connect stream =>
    let k := p.connections.length
    let s := T.opened k p.state
    let c := Connection.goOn S ⟨stream, [], none⟩ s
    some ⟨T.leave k c s, p.connections ++ [c]⟩
  | .turn k =>
    match p.connections[k]? with
    | none => none
    | some c =>
      if c.ending.isSome then none
      else
        let x := c.turn W S p.state
        some ⟨T.leave k x.2 x.1, p.connections.set k x.2⟩
  | .other e => (T.other p.state e).map fun s => { p with state := s }

/-! ### What has happened -/

def PoolEvent.stream : PoolEvent β ρ → Option (List β)
  | .connect stream => some stream
  | _ => none

/-- The message of a turn, if one can be read. -/
def handled (q : Pool ε σ β × PoolEvent β ρ) : Option (ℕ × μ) :=
  match q.2 with
  | .turn k => (q.1.connections[k]?).bind fun c =>
    (W.receive c.rest).toOption.map fun x => (k, x.1)
  | _ => none

/-- The answer of a turn, if it is written. -/
def answered (q : Pool ε σ β × PoolEvent β ρ) : Option (ℕ × μ) :=
  (handled W q).bind fun x =>
    match (S.handle q.1.state x.2).1 with
    | .ok (some answer) => (W.send answer).toOption.map fun _ => (x.1, answer)
    | _ => none

/-- What has been handled for one connection. -/
def messagesOf (k : ℕ) (log : List (ℕ × μ)) : List μ :=
  (log.filter fun x => x.1 = k).map Prod.snd

/-! ### One turn -/

variable {W S T} {p p' : Pool ε σ β} {c : Connection ε β} {e : PoolEvent β ρ} {k : ℕ}

@[simp] lemma rest_goOn (c : Connection ε β) (s : σ) : (c.goOn S s).rest = c.rest := by
  unfold Connection.goOn
  split <;> rfl

@[simp] lemma written_goOn (c : Connection ε β) (s : σ) : (c.goOn S s).written = c.written := by
  unfold Connection.goOn
  split <;> rfl

@[simp] lemma messagesOf_append (k : ℕ) (log log' : List (ℕ × μ)) :
    messagesOf k (log ++ log') = messagesOf k log ++ messagesOf k log' := by
  simp [messagesOf]

lemma messagesOf_toList_self (o : Option μ) :
    messagesOf k (o.map fun m => (k, m)).toList = o.toList := by
  cases o <;> simp [messagesOf]

lemma messagesOf_toList_of_ne {j : ℕ} (h : j ≠ k) (o : Option μ) :
    messagesOf k (o.map fun m => (j, m)).toList = [] := by
  cases o <;> simp [messagesOf, h]

/-- The message a connection has next. -/
def Connection.next (W : Wire δ ε μ β) (c : Connection ε β) : Option μ :=
  (W.receive c.rest).toOption.map Prod.fst

/-- What a turn writes. -/
def Connection.reply (W : Wire δ ε μ β) (S : Server δ ε σ μ) (c : Connection ε β) (s : σ) :
    Option μ :=
  (c.next W).bind fun message =>
    match (S.handle s message).1 with
    | .ok (some answer) => (W.send answer).toOption.map fun _ => answer
    | _ => none

/-- **One turn** takes the next message and writes its answer. -/
lemma turn_cases (c : Connection ε β) (s : σ) :
    (received W c.rest).1 = (c.next W).toList ++ (received W (c.turn W S s).2.rest).1 ∧
      (c.turn W S s).2.written = c.written ++ (c.reply W S s).toList.flatMap (frame W) := by
  unfold Connection.turn Connection.reply Connection.next
  cases hread : W.receive c.rest with
  | error e =>
    rw [received_of_error hread]
    simp [Except.toOption]
  | ok x =>
    obtain ⟨message, rest⟩ := x
    rw [received_of_ok hread]
    cases hhandle : S.handle s message with
    | mk outcome s' =>
      cases outcome with
      | error e => simp [Except.toOption, hhandle]
      | ok answer =>
        cases answer with
        | none => simp [Except.toOption, hhandle]
        | some answer =>
          cases hsend : W.send answer <;>
            simp [Except.toOption, hhandle, hsend, frame]

lemma handled_turn (h : p.connections[k]? = some c) :
    handled W (p, (.turn k : PoolEvent β ρ)) = (c.next W).map fun m => (k, m) := by
  simp only [handled, h, Option.bind_some, Connection.next, Option.map_map]
  rfl

lemma answered_turn (h : p.connections[k]? = some c) :
    answered W S (p, (.turn k : PoolEvent β ρ)) = (c.reply W S p.state).map fun m => (k, m) := by
  rw [answered, handled_turn h, Connection.reply]
  cases c.next W with
  | none => rfl
  | some message =>
    simp only [Option.map_some, Option.bind_some]
    split
    · cases W.send _ <;> rfl
    · rfl

/-- What a run has to say about a connection: which it is, what has been handled for it and what is
left, and what it has been written. -/
structure Served (W : Wire δ ε μ β) (streams : List (List β)) (handled answered : List (ℕ × μ))
    (k : ℕ) (c : Connection ε β) : Prop where
  stream : ∃ stream, streams[k]? = some stream ∧
    (received W stream).1 = messagesOf k handled ++ (received W c.rest).1
  written : c.written = (messagesOf k answered).flatMap (frame W)

/-- All that has been handled is for a connection there is. -/
structure Tallied (W : Wire δ ε μ β) (p : Pool ε σ β) (streams : List (List β)) (log answers : List (ℕ × μ)) : Prop where
  length : streams.length = p.connections.length
  served : ∀ k c, p.connections[k]? = some c → Served W streams log answers k c
  handled_lt : ∀ x ∈ log, x.1 < p.connections.length
  answered_lt : ∀ x ∈ answers, x.1 < p.connections.length

variable {streams : List (List β)} {log answers : List (ℕ × μ)}

lemma messagesOf_eq_nil {n : ℕ} (h : ∀ x ∈ log, x.1 < n) : messagesOf n log = [] := by
  rw [messagesOf, List.map_eq_nil_iff, List.filter_eq_nil_iff]
  intro x hx hn
  have hlt := h x hx
  have heq : x.1 = n := by simpa using hn
  omega

lemma Tallied.connect (ht : Tallied W p streams log answers) (stream : List β) {s : σ}
    (hrest : c.rest = stream) (hwritten : c.written = []) :
    Tallied W ⟨s, p.connections ++ [c]⟩ (streams ++ [stream]) log answers := by
  refine ⟨by simp [ht.length], fun k c' hk => ?_, fun x hx => ?_, fun x hx => ?_⟩
  · rw [List.getElem?_append] at hk
    split at hk
    · rename_i hlt
      obtain ⟨⟨stream', hstream, hreceived⟩, hwritten'⟩ := ht.served k c' hk
      refine ⟨⟨stream', ?_, hreceived⟩, hwritten'⟩
      rw [List.getElem?_append_left (by rw [ht.length]; exact hlt)]
      exact hstream
    · obtain ⟨hlt, hc⟩ := List.getElem?_eq_some_iff.mp hk
      have hk' : k = p.connections.length := by
        simp only [List.length_singleton] at hlt
        omega
      subst hk'
      obtain rfl : c = c' := by simpa using hc
      refine ⟨⟨stream, by simp [← ht.length], ?_⟩, ?_⟩
      · rw [messagesOf_eq_nil ht.handled_lt, hrest]
        rfl
      · rw [messagesOf_eq_nil ht.answered_lt, hwritten]
        rfl
  · have hlt := ht.handled_lt x hx
    simp only [List.length_append, List.length_singleton]
    omega
  · have hlt := ht.answered_lt x hx
    simp only [List.length_append, List.length_singleton]
    omega

lemma Tallied.turn (ht : Tallied W p streams log answers) (hc : p.connections[k]? = some c)
    {s : σ} :
    Tallied W ⟨s, p.connections.set k (c.turn W S p.state).2⟩ streams
      (log ++ ((c.next W).map fun m => (k, m)).toList)
      (answers ++ ((c.reply W S p.state).map fun m => (k, m)).toList) := by
  have hk : k < p.connections.length := (List.getElem?_eq_some_iff.mp hc).1
  obtain ⟨hreceived, hwritten⟩ := turn_cases (W := W) (S := S) c p.state
  refine ⟨by simp [ht.length], fun j c' hj => ?_, ?_, ?_⟩
  · by_cases hjk : j = k
    · subst hjk
      rw [List.getElem?_set_self hk] at hj
      obtain rfl := Option.some.inj hj
      obtain ⟨⟨stream, hstream, hall⟩, hsofar⟩ := ht.served j c hc
      refine ⟨⟨stream, hstream, ?_⟩, ?_⟩
      · rw [messagesOf_append, messagesOf_toList_self, List.append_assoc, ← hreceived, hall]
      · rw [messagesOf_append, messagesOf_toList_self, List.flatMap_append, ← hsofar, hwritten]
    · rw [List.getElem?_set_ne (Ne.symm hjk)] at hj
      obtain ⟨⟨stream, hstream, hall⟩, hsofar⟩ := ht.served j c' hj
      refine ⟨⟨stream, hstream, ?_⟩, ?_⟩
      · rw [messagesOf_append, messagesOf_toList_of_ne (Ne.symm hjk), List.append_nil, hall]
      · rw [messagesOf_append, messagesOf_toList_of_ne (Ne.symm hjk), List.append_nil, hsofar]
  · intro x hx
    rw [List.length_set]
    rcases List.mem_append.mp hx with hx | hx
    · exact ht.handled_lt x hx
    · obtain ⟨m, -, rfl⟩ := Option.map_eq_some_iff.mp (Option.mem_toList.mp hx)
      exact hk
  · intro x hx
    rw [List.length_set]
    rcases List.mem_append.mp hx with hx | hx
    · exact ht.answered_lt x hx
    · obtain ⟨m, -, rfl⟩ := Option.map_eq_some_iff.mp (Option.mem_toList.mp hx)
      exact hk

/-- **One event of a pool.** -/
lemma Tallied.step (ht : Tallied W p streams log answers) (h : p.step W S T e = some p') :
    Tallied W p' (streams ++ e.stream.toList) (log ++ (handled W (p, e)).toList)
      (answers ++ (answered W S (p, e)).toList) := by
  cases e with
  | connect stream =>
    obtain rfl := Option.some.inj h
    simpa [PoolEvent.stream, handled, answered] using ht.connect stream
      (rest_goOn (S := S) ⟨stream, [], none⟩ _) (written_goOn _ _)
  | turn k =>
    simp only [Pool.step] at h
    cases hc : p.connections[k]? with
    | none =>
      rw [hc] at h
      cases h
    | some c =>
      rw [hc] at h
      dsimp only at h
      split_ifs at h
      obtain rfl := Option.some.inj h
      rw [handled_turn hc, answered_turn hc]
      simpa [PoolEvent.stream] using ht.turn hc
  | other e =>
    obtain ⟨s, -, rfl⟩ := Option.map_eq_some_iff.mp h
    simpa [PoolEvent.stream, handled, answered] using
      (⟨ht.length, ht.served, ht.handled_lt, ht.answered_lt⟩ :
        Tallied W { p with state := s } streams log answers)

lemma filterMap_concat {α γ : Type*} (f : α → Option γ) (l : List α) (a : α) :
    (l ++ [a]).filterMap f = l.filterMap f ++ (f a).toList := by
  rw [List.filterMap_append]
  cases h : f a <;> simp [h]

/-- **A run of a pool.** Whatever turns are taken, each connection has had a beginning of what it
sent handled, in order, and been written the answers to that. -/
theorem served_of_run {s : σ} {es : List (PoolEvent β ρ)}
    (hrun : Run.run (Pool.step W S T) ⟨s, []⟩ es = some p) {k : ℕ} {c : Connection ε β}
    (hc : p.connections[k]? = some c) :
    let trace := Run.trace (Pool.step W S T) ⟨s, []⟩ es
    Served W (es.filterMap PoolEvent.stream) (trace.filterMap (handled W))
      (trace.filterMap (answered W S)) k c := by
  have hmap : ∀ tr : List (Pool ε σ β × PoolEvent β ρ),
      (tr.map Prod.snd).filterMap PoolEvent.stream = tr.filterMap fun q => q.2.stream := fun tr =>
    List.filterMap_map
  have hall := Run.run_invariant_trace
    (I := fun p (tr : List (Pool ε σ β × PoolEvent β ρ)) => Tallied W p
      (tr.filterMap fun q => q.2.stream) (tr.filterMap (handled W)) (tr.filterMap (answered W S)))
    (Q := fun _ _ => True)
    (fun p e p' tr ht _ h => by
      rw [filterMap_concat, filterMap_concat, filterMap_concat]
      exact ht.step h)
    (l := [])
    ⟨rfl, fun k c h => absurd h (by simp), fun _ h => absurd h List.not_mem_nil,
      fun _ h => absurd h List.not_mem_nil⟩ (fun _ _ => trivial) hrun
  rw [List.nil_append, ← hmap, Run.trace_map_snd hrun] at hall
  exact hall.served k c hc

end Service
