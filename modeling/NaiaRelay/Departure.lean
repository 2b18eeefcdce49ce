import NaiaRelay.Orphans
import NaiaRelay.RegisteredOnly

set_option autoImplicit false

/-!
What is left of an executor whose transport has been detached: everything it registered, and a
host that answers in its place.
-/

namespace NaiaRelay.Runtime

open NaiaRelay.Pydantic NaiaRelay.Registry NaiaRelay.Rlp

variable (P : Platform)

/-- The event registers this entry, which is new. -/
def Registers (h : HostRelayRuntime) (e : HostEvent) (entry : Kind × String) : Prop :=
  ¬ Registered h.registry entry ∧ ∃ h', h.step P e = some h' ∧ Registered h'.registry entry

/-- A transport is attached, messages come in over it and otherwise, and it is detached, so that
none is attached any more. Then none is attached again. -/
structure Departure (s h gone : HostRelayRuntime) (before during : List HostEvent) (adapter : ℕ)
    (detached : Option ℕ) (after : List HostEvent) : Prop where
  fresh : s.link = {}
  attached : Run.run (HostRelayRuntime.step P) s (before ++ .attach adapter :: during) = some h
  left : h.step P (.detach detached) = some gone
  none_attached : gone.link.transport = none
  run : ∃ s', Run.run (HostRelayRuntime.step P) gone after = some s'
  never_attached : ∀ b, .attach b ∉ after

/-- The entry was registered by a message that came over the transport, and has not been
registered by any other since. The messages that came over it are those at these places. -/
def Provided (s : HostRelayRuntime) (before during : List HostEvent) (adapter : ℕ)
    (overIt : ℕ → Prop) (entry : Kind × String) : Prop :=
  ∃ es₁ e es₂ u v, during = es₁ ++ e :: es₂ ∧ overIt es₁.length ∧ e.isExecutor = true ∧
    Run.run (HostRelayRuntime.step P) s (before ++ .attach adapter :: es₁) = some u ∧
    u.step P e = some v ∧ Registers P u e entry ∧
    ∀ p ∈ Run.trace (HostRelayRuntime.step P) v es₂, ¬ Registers P p.1 p.2 entry

/-- The operation was answered with what one of these messages of the executor says. -/
def AnsweredBy (op : ExecutorOperation) (response : Obj) (es : List HostEvent) : Prop :=
  ∃ n message value, HostEvent.executor n message ∈ es ∧
    executorAnswer P message = some (op.target, op.id, .ok value) ∧
    op.resume (.ok value) = .ok response

/-- A valid operation that comes in is answered with an error. -/
def RefusesOperations (h : HostRelayRuntime) : HostEvent → Prop
  | .rlp ids operationIds message => h.base.started = true → ∀ envelope operation,
      Rlp.parse P message = some (envelope, operationPayload operation) →
      AnsweredWithError P h ids operationIds message
  | _ => True

/-- What the executor provided is withdrawn when it has left. -/
structure Withdrawn (s gone : HostRelayRuntime) (before during : List HostEvent) (adapter : ℕ)
    (detached : Option ℕ) (overIt : ℕ → Prop) (after : List HostEvent) : Prop where
  /-- The entries it provided are gone, unless they are registered anew. -/
  entries : ∀ entry, Provided P s before during adapter overIt entry → ∀ es₁ es₂ u,
    after = es₁ ++ es₂ → Run.run (HostRelayRuntime.step P) gone es₁ = some u →
    (∀ p ∈ Run.trace (HostRelayRuntime.step P) gone es₁, ¬ Registers P p.1 p.2 entry) →
    ¬ Registered u.registry entry
  /-- Operations are refused. -/
  refused : ∀ p ∈ Run.trace (HostRelayRuntime.step P) gone after, RefusesOperations P p.1 p.2
  /-- The operations that still succeed do so with what an executor has sent. -/
  answers : ∀ es₁ es₂ u, after = es₁ ++ es₂ → Run.run (HostRelayRuntime.step P) gone es₁ = some u →
    ∀ op ∈ u.link.operations, ∀ response, op.phase = .ended (.ok response) →
      Tep.replyStatus response = some (.str "ok") →
      AnsweredBy P op response (before ++ .attach adapter :: during ++ .detach detached :: es₁)

variable {P} {h h' : HostRelayRuntime} {e : HostEvent} {op : ExecutorOperation}

/-! ### Answers -/

lemma replyStatus_of_error {r : RLPRecords} {envelope : RLPEnvelope} {ids : NewIds} {code : String}
    {details : Json → Json} {exc : Exc} {response : Obj}
    (hr : r.operationResponse P envelope ids code details (.error exc) = .ok response) :
    Tep.replyStatus response = some (.str "error") := by
  change r.exceptionResponse P envelope ids exc code = .ok response at hr
  unfold RLPRecords.exceptionResponse at hr
  split at hr
  · rename_i text code' data
    cases hd : toDict data with
    | error e =>
      rw [hd] at hr
      cases hr
    | ok o =>
      rw [hd] at hr
      obtain rfl := Except.ok.inj hr
      rfl
  · obtain rfl := Except.ok.inj hr
    rfl

/-- Whatever the operation holds or was answered with as ok, one of these messages has said. -/
structure Heard (P : Platform) (es : List HostEvent) (op : ExecutorOperation) : Prop where
  future : ∀ value, op.future = .done (.ok value) → ∃ n message,
    HostEvent.executor n message ∈ es ∧
      executorAnswer P message = some (op.target, op.id, .ok value)
  phase : ∀ response, op.phase = .ended (.ok response) →
    Tep.replyStatus response = some (.str "ok") → AnsweredBy P op response es
  error : ∀ exc response, op.resume (.error exc) = .ok response →
    Tep.replyStatus response = some (.str "error")

variable {es : List HostEvent}

lemma Heard.settle {outcome : Except Exc Json} (hh : Heard P es op)
    (ho : ∀ value, outcome = .ok value → ∃ n message, HostEvent.executor n message ∈ es ∧
      executorAnswer P message = some (op.target, op.id, .ok value)) :
    Heard P es (op.settle outcome) := by
  unfold ExecutorOperation.settle
  split
  · exact ⟨fun value hv => ho value (by injection hv), hh.phase, hh.error⟩
  · exact hh

lemma Heard.ended {outcome : Except Exc Obj} {future : Future} (hh : Heard P es op)
    (hf : ∀ value, future = .done (.ok value) → op.future = .done (.ok value))
    (ho : ∀ response, outcome = .ok response → Tep.replyStatus response = some (.str "ok") →
      AnsweredBy P op response es) :
    Heard P es { op with future, phase := .ended outcome } :=
  ⟨fun value hv => hh.future value (hf value hv), fun response hr hs => ho response
    (by injection hr) hs, hh.error⟩

lemma Heard.resume_error (hh : Heard P es op) (exc : Exc) (response : Obj)
    (hr : op.resume (.error exc) = .ok response)
    (hs : Tep.replyStatus response = some (.str "ok")) : AnsweredBy P op response es := by
  rw [hh.error exc response hr] at hs
  simp at hs

lemma executorAnswer_of_settle {t : Target} {id : String} {outcome : Except Exc Json}
    (hε : e.onLink P h = some (.settle t id outcome)) :
    ∃ n message, e = .executor n message ∧ executorAnswer P message = some (t, id, outcome) := by
  cases e with
  | executor n message =>
    obtain ⟨⟨t', id', outcome'⟩, hx, heq⟩ := Option.map_eq_some_iff.mp hε
    injection heq with ht hid ho
    exact ⟨n, message, rfl, by rw [hx]; exact congrArg some (by rw [← ht, ← hid, ← ho])⟩
  | rlp ids operationIds message =>
    obtain ⟨op, -, heq⟩ := Option.map_eq_some_iff.mp hε
    cases heq
  | stopped => exact nomatch hε
  | _ => exact nomatch Option.some.inj hε

lemma Heard.turn {op' : ExecutorOperation} {l : ExecutorLink} {ε : LinkEvent} {i : ℕ}
    (hh : Heard P es op) (ht : op.Turn l i ε op')
    (hε : ∀ t id outcome, ε = .settle t id outcome → ∃ n message,
      HostEvent.executor n message ∈ es ∧ executorAnswer P message = some (t, id, outcome)) :
    Heard P es op' := by
  cases ht with
  | spared hε => exact hh
  | settled outcome =>
    refine hh.settle fun value hv => ?_
    obtain ⟨n, message, hm, hx⟩ := hε _ _ _ rfl
    exact ⟨n, message, hm, hx.trans (by rw [hv])⟩
  | detached adapter ha => exact hh.settle fun value hv => nomatch hv
  | unattached hp ht => exact hh.ended (fun _ hv => hv) (hh.resume_error _)
  | acquired t hp ht => exact ⟨hh.future, fun _ hp => (nomatch hp), hh.error⟩
  | sent hp => exact ⟨hh.future, fun _ hp => (nomatch hp), hh.error⟩
  | unsent e hp => exact hh.ended (fun _ hv => hv) (hh.resume_error e)
  | resumed outcome hp hf =>
    cases outcome with
    | error exc => exact hh.ended (fun _ hv => hv) (hh.resume_error exc)
    | ok value =>
      obtain ⟨n, message, hm, hx⟩ := hh.future value hf
      exact hh.ended (fun _ hv => hv) fun response hr _ => ⟨n, message, value, hm, hx, hr⟩
  | timedOut timeout outer hp hf =>
    refine hh.ended (fun _ hv => nomatch hv) ?_
    cases outer with
    | true => exact fun _ hr => nomatch hr
    | false => exact hh.resume_error timeout
  | cancelled timeout outer hp => exact hh.ended (fun _ hv => hv) fun _ hr => nomatch hr

/-- **Every answer that is ok has been heard from an executor.** -/
lemma heard_run {s s' : HostRelayRuntime} (hs : s.link = {})
    (hrun : Run.run (HostRelayRuntime.step P) s es = some s') :
    ∀ op ∈ s'.link.operations, Heard P es op := by
  have hmem : ∀ p ∈ Run.trace (HostRelayRuntime.step P) s es, p.2 ∈ es := by
    intro p hp
    obtain ⟨es₁, es₂, u, rfl, -, -⟩ := Run.mem_trace hrun hp
    simp
  refine (Run.run_invariant_of (I := fun h => h.link.Wf ∧ ∀ op ∈ h.link.operations, Heard P es op)
    (Q := fun _ e => e ∈ es) (fun h e h' hi he hstep => ⟨wf_link_step hi.1 hstep, ?_⟩)
    ⟨by rw [hs]; exact ExecutorLink.wf_empty, fun op hop => by rw [hs] at hop; exact nomatch hop⟩
    hmem hrun).2
  intro op' hop'
  obtain ⟨hw, hall⟩ := hi
  rcases link_step_cases hstep with ⟨-, hl⟩ | ⟨ε, hε, hl⟩
  · rw [hl] at hop'
    exact hall op' hop'
  · obtain ⟨i, hi⟩ := List.mem_iff_getElem?.mp hop'
    rcases ExecutorLink.getElem?_step_inv hw hl hi with ⟨op, hop, rfl⟩ | ⟨hstarted, -⟩
    · refine (hall op (List.mem_of_getElem? hop)).turn (ExecutorLink.turn_after hl hop)
        fun t id outcome hset => ?_
      subst hset
      obtain ⟨n, message, rfl, hx⟩ := executorAnswer_of_settle hε
      exact ⟨n, message, he, hx⟩
    · obtain ⟨ids, operationIds, message, call, rfl, hf, hsame⟩ := forwarded_of_started hε hstarted
      obtain ⟨envelope, operation, -, rfl⟩ := operation_of_forwarded hf
      have herror : ∀ exc response, op'.resume (.error exc) = .ok response →
          Tep.replyStatus response = some (.str "error") := by
        intro exc response hr
        rw [hsame.resume, resume_forward] at hr
        exact replyStatus_of_error hr
      cases ε with
      | register t id request resume =>
        obtain rfl := Option.some.inj hstarted
        exact ⟨fun _ hf => (nomatch hf), fun _ hp => (nomatch hp), herror⟩
      | _ => cases hstarted

/-! ### The registry -/

lemma registered_run {s s' : HostRelayRuntime} {entry : Kind × String}
    (hno : ¬ Registered s.registry entry)
    (hnew : ∀ p ∈ Run.trace (HostRelayRuntime.step P) s es, ¬ Registers P p.1 p.2 entry)
    (hrun : Run.run (HostRelayRuntime.step P) s es = some s') : ¬ Registered s'.registry entry :=
  Run.run_invariant_of (I := fun h => ¬ Registered h.registry entry)
    (Q := fun h e => ¬ Registers P h e entry)
    (fun _ _ h' hi hq hstep hreg => hq ⟨hi, h', hstep, hreg⟩) hno hnew hrun

/-! ### The departure -/

/-- No operation comes in that the host has a callback for. -/
def AsksNothing (P : Platform) (h : HostRelayRuntime) : HostEvent → Prop
  | .rlp _ _ message => h.base.started = true → ∀ envelope operation,
      Rlp.parse P message = some (envelope, operationPayload operation) →
      hasCallback h.rlp operation = false
  | _ => True

lemma refusesOperations_iff : RefusesOperations P h e ↔ AsksNothing P h e := by
  cases e with
  | rlp ids operationIds message =>
    constructor
    · exact fun hr hs envelope operation hp =>
        (answeredWithError_iff hs hp ids operationIds).mp (hr hs envelope operation hp)
    · exact fun hn hs envelope operation hp =>
        (answeredWithError_iff hs hp ids operationIds).mpr (hn hs envelope operation hp)
  | _ => exact Iff.rfl

variable {s gone : HostRelayRuntime} {before during after : List HostEvent} {adapter : ℕ}
  {detached : Option ℕ}

/-- **What a departure withdraws.** Exactly when the executor has taken back all it provided
before it left, and nobody asks for anything afterwards: detaching takes no entry back, and a host
without an executor answers operations itself. -/
theorem withdrawn_iff (hd : Departure P s h gone before during adapter detached after)
    (overIt : ℕ → Prop) :
    Withdrawn P s gone before during adapter detached overIt after ↔
      (∀ entry, Provided P s before during adapter overIt entry → ¬ Registered h.registry entry) ∧
        ∀ p ∈ Run.trace (HostRelayRuntime.step P) gone after, AsksNothing P p.1 p.2 := by
  obtain ⟨fresh, attached, left, -, -, -⟩ := hd
  have hregistry : gone.registry = h.registry := (registry_step_iff left rfl).mpr trivial
  constructor
  · rintro ⟨entries, refused, -⟩
    refine ⟨fun entry hp => ?_, fun p hp => refusesOperations_iff.mp (refused p hp)⟩
    rw [← hregistry]
    exact entries entry hp [] after gone rfl rfl fun p hp => nomatch hp
  · rintro ⟨entries, asks⟩
    refine ⟨fun entry hp es₁ es₂ u _ hrun hnew => ?_,
      fun p hp => refusesOperations_iff.mpr (asks p hp), fun es₁ es₂ u _ hrun op hop => ?_⟩
    · refine registered_run ?_ hnew hrun
      rw [hregistry]
      exact entries entry hp
    · have hall : Run.run (HostRelayRuntime.step P) s
          (before ++ .attach adapter :: during ++ .detach detached :: es₁) = some u :=
        Run.run_append_eq_some.mpr ⟨h, attached, Run.run_cons_eq_some.mpr ⟨gone, left, hrun⟩⟩
      exact (heard_run fresh hall op hop).phase

/-! An executor registers a resource and leaves; then a client reads it. -/

def readGone : List HostEvent := [.rlp ⟨"r", "g"⟩ ⟨"m", "e"⟩ readMessage]

def leftHost : HostRelayRuntime :=
  (startedHost.handleExecutorStdioMessage .strict "n" registerU).2

lemma readGone_departure :
    Departure .strict startedHost { leftHost with link := { transport := some 0 } } leftHost []
      [.executor "n" registerU] 0 (some 0) readGone :=
  ⟨rfl, rfl, rfl, rfl, ⟨_, rfl⟩, by simp [readGone]⟩

/-- The resource is still registered, and read without an executor. -/
theorem readGone_answered :
    ∃ h gone, Departure .strict startedHost h gone [] [.executor "n" registerU] 0 (some 0) readGone ∧
      Registered gone.registry (.resource, "u") ∧
      (∃ response, (gone.handleRlpMessage .strict ⟨"r", "g"⟩ ⟨"m", "e"⟩ readMessage).1
          = .answered (.ok response) ∧ Tep.replyStatus response = some (.str "ok")) ∧
      ¬ Withdrawn .strict startedHost gone [] [.executor "n" registerU] 0 (some 0)
        (fun _ => True) readGone := by
  refine ⟨_, _, readGone_departure, ?_, ⟨_, rfl, rfl⟩, fun hw => ?_⟩
  · show "u" ∈ _
    decide
  · obtain ⟨response, hr, hstatus⟩ := hw.refused _ (List.mem_singleton_self _) rfl _ readOfU rfl
    obtain rfl := Except.ok.inj (RlpHandling.answered.inj hr)
    exact absurd (Json.str.inj (Option.some.inj hstatus)) (by decide)

theorem withdrawn_iff_readGone :
    ∃ h gone, Departure .strict startedHost h gone [] [.executor "n" registerU] 0 (some 0) readGone ∧
      (Withdrawn .strict startedHost gone [] [.executor "n" registerU] 0 (some 0) (fun _ => True)
          readGone ↔
        (∀ entry, Provided .strict startedHost [] [.executor "n" registerU] 0 (fun _ => True) entry →
            ¬ Registered h.registry entry) ∧
          ∀ p ∈ Run.trace (HostRelayRuntime.step .strict) gone readGone,
            AsksNothing .strict p.1 p.2) := by
  exact ⟨_, _, readGone_departure, withdrawn_iff readGone_departure _⟩

end NaiaRelay.Runtime
