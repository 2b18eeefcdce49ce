import NaiaRelay.RegistryFacts
import NaiaRelay.Requests

set_option autoImplicit false

/-!
What a client forwards: which messages of its client go upstream, and as what.
-/

namespace NaiaRelay.Runtime

open NaiaRelay.Registry NaiaRelay.Mcp

variable (P : Platform)

/-- The type of the upstream message about an entry. -/
def upstreamType : Kind → String
  | .tool => "execute_tool"
  | .resource => "read_resource"
  | .prompt => "get_prompt"

/-- The field of its payload that names the entry. -/
def upstreamKey : Kind → String
  | .tool => "tool_name"
  | .resource => "uri"
  | .prompt => "name"

/-- The callback asks for the entry of this name, which is there. -/
def NamesEntry (registry : RegistryStore) (call : Callback) (name : String) : Prop :=
  (callbackTarget call).2 = .str name ∧ name ∈ (registry.table (callbackTarget call).1).dict

/-- The client sends this callback of the message upstream. -/
structure Forwards (c : ClientRelayRuntime) (message : Obj) (call : Callback)
    (resume : Except Exc Json → Except Exc (Option Obj)) : Prop where
  started : c.base.started = true
  room : c.base.HasRoom
  asks : (c.mcp.handleMessage P c.registry message).1 = .await call resume
  fresh : c.registry.stale = false
  named : ∃ name, NamesEntry c.registry call name
  upstream : c.upstream = true

variable {P} {c : ClientRelayRuntime} {ids : ClientRelayRuntime.RequestIds} {call : Callback}
  {message : Obj}

lemma requireEntry_cases (registry : RegistryStore) (k : Kind) (v : Json) :
    ((∃ name, v = .str name ∧ name ∈ (registry.table k).dict) ∧
        requireEntry P registry k v = .ok ()) ∨
      ((¬ ∃ name, v = .str name ∧ name ∈ (registry.table k).dict) ∧
        ∃ e, requireEntry P registry k v = .error e) := by
  cases v with
  | str name =>
    cases hg : (registry.table k).get name with
    | some d =>
      refine Or.inl ⟨⟨name, rfl, Table.mem_iff_get.mpr ⟨d, hg⟩⟩, ?_⟩
      simp only [requireEntry, getEntry, hg]
      rfl
    | none =>
      refine Or.inr ⟨?_, unknownEntry P k (.str name), ?_⟩
      · rintro ⟨name', hn, hmem⟩
        obtain rfl := Json.str.inj hn
        exact Table.get_eq_none.mp hg hmem
      · simp only [requireEntry, getEntry, hg]
        rfl
  | _ => exact Or.inr ⟨fun ⟨_, hn, _⟩ => (nomatch hn), _, rfl⟩

lemma callback_cases (c : ClientRelayRuntime) (ids : ClientRelayRuntime.RequestIds)
    (call : Callback) :
    ((c.registry.stale = false ∧ (∃ name, NamesEntry c.registry call name) ∧ c.upstream = true) ∧
        c.callback P ids call = (.await (c.upstreamRequest ids call) fun response =>
          response.bind (ClientRelayRuntime.upstreamAnswer P call), c)) ∨
      (¬ (c.registry.stale = false ∧ (∃ name, NamesEntry c.registry call name) ∧
          c.upstream = true) ∧
        ∃ answer c', c.callback P ids call = (.done answer, c')) := by
  unfold ClientRelayRuntime.callback
  by_cases hs : c.registry.stale = true
  · rw [if_pos hs]
    refine Or.inr ⟨fun h => ?_, _, _, rfl⟩
    rw [hs] at h
    exact nomatch h.1
  · rw [if_neg hs]
    rcases requireEntry_cases (P := P) c.registry (callbackTarget call).1 (callbackTarget call).2
      with ⟨hname, hx⟩ | ⟨hno, e, hx⟩
    · rw [hx]
      dsimp only
      by_cases hu : c.upstream = true
      · rw [if_pos hu]
        exact Or.inl ⟨⟨Bool.not_eq_true _ ▸ hs, hname, hu⟩, rfl⟩
      · rw [if_neg hu]
        exact Or.inr ⟨fun h => hu h.2.2, _, _, rfl⟩
    · rw [hx]
      exact Or.inr ⟨fun h => hno h.2.1, _, _, rfl⟩

lemma Forwards.openMcp {resume : Except Exc Json → Except Exc (Option Obj)}
    (h : Forwards P c message call resume) (ids : ClientRelayRuntime.RequestIds) :
    c.openMcp P ids message = (.await (c.upstreamRequest ids call) (resume ∘ fun response =>
        response.bind (ClientRelayRuntime.upstreamAnswer P call)),
      { c with
        base := c.base.countRequest
        mcp := (c.mcp.handleMessage P c.registry message).2 }) := by
  unfold ClientRelayRuntime.openMcp
  rcases openMcp_cases (P := P) c.base c.mcp c.registry message with ⟨-, -, hx⟩ | ⟨hno, -⟩
  · have hasks := h.asks
    generalize c.mcp.handleMessage P c.registry message = x at hx hasks
    obtain ⟨wait, mcp⟩ := x
    obtain rfl : wait = .await call resume := hasks
    rw [hx]
    dsimp only
    rcases callback_cases (P := P) { c with base := c.base.countRequest, mcp } ids call with
      ⟨-, hy⟩ | ⟨hno, -⟩
    · rw [hy]
      rfl
    · exact absurd ⟨h.fresh, h.named, h.upstream⟩ hno
  · exact absurd ⟨h.started, h.room⟩ hno

lemma forwards_of_openMcp {request : Obj} {resume' : Except Exc Obj → Except Exc (Option Obj)}
    {c' : ClientRelayRuntime} (h : c.openMcp P ids message = (.await request resume', c')) :
    ∃ call resume, Forwards P c message call resume ∧ request = c.upstreamRequest ids call := by
  unfold ClientRelayRuntime.openMcp at h
  rcases openMcp_cases (P := P) c.base c.mcp c.registry message with ⟨hs, hr, hx⟩ | ⟨-, e, hx⟩
  · rw [hx] at h
    generalize hm : c.mcp.handleMessage P c.registry message = x at h
    obtain ⟨wait, mcp⟩ := x
    dsimp only at h
    cases wait with
    | done response => exact nomatch congrArg (·.1) h
    | await q resume =>
      dsimp only at h
      rcases callback_cases (P := P) { c with base := c.base.countRequest, mcp } ids q with
        ⟨⟨hf, hn, hu⟩, hy⟩ | ⟨-, answer, c'', hy⟩
      · rw [hy] at h
        obtain ⟨hreq, -⟩ := Coroutine.await.inj (congrArg (·.1) h)
        exact ⟨q, resume, ⟨hs, hr, by rw [hm], hf, hn, hu⟩, hreq.symm⟩
      · rw [hy] at h
        exact nomatch congrArg (·.1) h
  · rw [hx] at h
    exact nomatch congrArg (·.1) h

/-! ### The upstream request -/

lemma upstreamRequest_fields (c : ClientRelayRuntime) (ids : ClientRelayRuntime.RequestIds)
    (call : Callback) :
    let request := c.upstreamRequest ids call
    Obj.get request "message_type" = some (.str (upstreamType (callbackTarget call).1)) ∧
      Obj.get request "relay_session_id" = some (.str c.rlp.relaySessionId) ∧
      ∃ payload, Obj.get request "payload" = some (.obj payload) ∧
        Obj.get payload (upstreamKey (callbackTarget call).1) = some (callbackTarget call).2 := by
  cases call <;> exact ⟨rfl, rfl, _, rfl, rfl⟩

end NaiaRelay.Runtime
