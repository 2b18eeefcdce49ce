import NaiaRelay.Lib.Desk
import NaiaRelay.McpLoop
import NaiaRelay.Requests

set_option autoImplicit false

/-!
Serving clients over HTTP.

The posts of all connections are handled side by side, each in a task of its own: one is read and
handed to the runtime in one go, and while its callback is waited for any number of others come and
go. A post that is not an object never reaches the runtime.
-/

namespace NaiaRelay.Runtime

open NaiaRelay.Pydantic NaiaRelay.Registry NaiaRelay.Mcp

variable (P : Platform)

/-- The status of a reply, and its JSON if it has any. -/
structure Reply where
  status : ℕ
  body : Option Obj

/-- What `request.json()` gives, `none` where it raises, and the registry it meets. -/
structure Post where
  registry : RegistryStore
  body : Option Json

/-- How `handle_post` ends: with a reply, with an exception, or cancelled with its connection. -/
inductive PostEnd
  | replied (reply : Reply)
  | raised (exc : Exc)
  | cancelled

/-- The reply to a body that is no request. -/
def refuse (code : ℤ) (message : String) : Reply where
  status := 400
  body := some [("jsonrpc", .str "2.0"), ("id", .null),
    ("error", .obj [("code", .int code), ("message", .str message)])]

/-- `handle_post` and `_handle_mcp_http_payload` up to the runtime: the reply, or the message it
is to handle. -/
def openPost : Option Json → Reply ⊕ Obj
  | none => .inl (refuse (-32700) "Invalid JSON request body")
  | some (.obj payload) => .inr payload
  | some _ => .inl (refuse (-32600) "HTTP MCP payload must be a JSON object")

/-- Their end, with what the runtime has come to. -/
def closePost : Except Exc (Option Obj) → PostEnd
  | .error e => .raised e
  | .ok none => .replied ⟨202, none⟩
  | .ok (some response) => .replied ⟨200, some response⟩

/-- `handle_post` from its start to its end, when the callback ends like this. -/
def handlePost (rt : BaseRelayRuntime) (mcp : MCPRecords) (post : Post) (outcome : Outcome Json) :
    PostEnd × BaseRelayRuntime × MCPRecords :=
  match openPost post.body with
  | .inl reply => (.replied reply, rt, mcp)
  | .inr message =>
    let x := rt.handleMcpMessage P mcp post.registry message outcome
    (closePost x.1, x.2)

/-- A runtime behind `serve_mcp_http`, with the posts that have come in. -/
structure HttpServer where
  system : RequestSystem
  desk : Desk.State Post Call PostEnd := {}

inductive HttpEvent
  | post (post : Post)
  /-- The callback of a post ends, and the post with it. -/
  | finish (i : ℕ) (outcome : Outcome Json)
  /-- The connection of a post is lost. -/
  | cancel (i : ℕ)
  /-- Anything else that happens to the runtime. -/
  | other (e : RequestEvent)

/-- The post that comes in. -/
def HttpEvent.posted : HttpEvent → Option Post
  | .post x => some x
  | _ => none

namespace HttpServer

/-- A runtime that has been started and serves no one yet. -/
def fresh (config : RelayConfig) (role relayId sessionId : String) (tepServer : Bool) :
    HttpServer where
  system := .fresh config role relayId sessionId tepServer true

/-- A post comes to the desk as the runtime took its message. -/
def take (s : HttpServer) (post : Post) : Except Exc Call → Desk.State Post Call PostEnd
  | .error e => s.desk.answer post (.raised e)
  | .ok call => s.desk.hand post call

/-- One event; `none` where it cannot happen. -/
def step (s : HttpServer) : HttpEvent → Option HttpServer
  | .post post =>
    if s.system.mcpHttpRunner then
      match openPost post.body with
      | .inl reply => some { s with desk := s.desk.answer post (.replied reply) }
      | .inr message =>
        (s.system.step P (.call post.registry message)).map fun system =>
          { system, desk := s.take post
              (s.system.runtime.openMcp P s.system.mcp post.registry message).1 }
    else none
  | .finish i outcome =>
    match s.system.calls[i]? with
    | none => none
    | some call => (s.system.step P (.finish i outcome)).map fun system =>
      { system, desk := s.desk.close i
          (closePost (s.system.runtime.withRequestTimeout call outcome).1) }
  | .cancel i => (s.system.step P (.cancel i)).map fun system =>
      { system, desk := s.desk.close i .cancelled }
  | .other e =>
    match e with
    | .call _ _ | .finish _ _ | .cancel _ => none
    | e => (s.system.step P e).map fun system => { s with system }

end HttpServer

/-! ### What a post may come to -/

/-- The exceptions by which a runtime turns a message away. -/
inductive IsRefusal (config : RelayConfig) : Exc → Prop
  | notStarted (role : String) :
    IsRefusal config (.runtimeError (role ++ " runtime is not started"))
  | inFlight : IsRefusal config (.protocol "Maximum in-flight requests exceeded"
      "backpressure_limit_exceeded"
      (.obj [("max_in_flight_requests", .int config.maxInFlightRequests)]))
  | queued : IsRefusal config (.protocol "Maximum queue depth exceeded"
      "slow_consumer_limit_exceeded" (.obj [("max_queue_depth", .int config.maxQueueDepth)]))

/-- The call is the one this post makes. -/
def Makes (post : Post) (call : Call) : Prop :=
  ∃ message, post.body = some (.obj message) ∧
    call = (runtimeCallbacks.handleMessage P post.registry message).1

/-- What the post of this number comes to beside others, after these events. A post of an object
comes to what it comes to as the only one of an idle runtime, with the end its own callback had. The
runtime turns it away only if it found it stopped or without room, and it is cancelled only with its
own connection. -/
inductive Ends (rt : BaseRelayRuntime) (trace : List (HttpServer × HttpEvent)) (k : ℕ) (post : Post) :
    PostEnd → Prop
  | refused (h : ∀ message, post.body ≠ some (.obj message)) (outcome : Outcome Json) :
    Ends rt trace k post (handlePost P rt runtimeCallbacks post outcome).1
  | finished {message : Obj} {s : HttpServer} {i : ℕ} {call : Call} {outcome : Outcome Json}
      (h : post.body = some (.obj message)) (own : s.desk.opened[i]? = some (k, call))
      (met : (s, .finish i outcome) ∈ trace) :
    Ends rt trace k post (handlePost P rt runtimeCallbacks post outcome).1
  | turnedAway {message : Obj} {s : HttpServer} {e : Exc} (h : post.body = some (.obj message))
      (own : s.desk.jobs.length = k) (met : (s, .post post) ∈ trace)
      (full : ¬ (s.system.runtime.started = true ∧ s.system.runtime.HasRoom))
      (he : IsRefusal rt.config e) : Ends rt trace k post (.raised e)
  | cancelled {message : Obj} {s : HttpServer} {i : ℕ} {call : Call}
      (h : post.body = some (.obj message)) (own : s.desk.opened[i]? = some (k, call))
      (met : (s, .cancel i) ∈ trace) : Ends rt trace k post .cancelled

/-- The reply is one to this post: an error without an id to what is no object, nothing but the
status to the one notification there is, and else a response under the id of the request. -/
def RepliesTo (post : Post) (reply : Reply) : Prop :=
  ((∀ message, post.body ≠ some (.obj message)) ∧ ∃ code text, reply = refuse code text) ∨
    ∃ message request, post.body = some (.obj message) ∧
      JsonRpcRequest.validate P (.obj message) = .ok request ∧
      if request.method = "notifications/initialized" then reply = ⟨202, none⟩
      else ∃ response, reply = ⟨200, some response⟩ ∧ IsResponse request.id response

variable {P} {rt : BaseRelayRuntime} {r : MCPRecords} {post : Post} {message : Obj}

lemma handleMessage_callbacks (h : HasCallbacks r) (registry : RegistryStore) (message : Obj) :
    (r.handleMessage P registry message).1 = (runtimeCallbacks.handleMessage P registry message).1 ∧
      HasCallbacks (r.handleMessage P registry message).2 := by
  obtain ⟨hx, hr, hp⟩ := h
  unfold MCPRecords.handleMessage
  cases modelValidate "JsonRpcRequest" (JsonRpcRequest.validate P (.obj message)) with
  | error e => exact ⟨rfl, hx, hr, hp⟩
  | ok request =>
    refine ⟨?_, dispatch_hasCallbacks ⟨hx, hr, hp⟩⟩
    have hcallbacks : runtimeCallbacks.executeTool = true ∧ runtimeCallbacks.readResource = true ∧
        runtimeCallbacks.getPrompt = true := ⟨rfl, rfl, rfl⟩
    simp only [MCPRecords.dispatch, hx, hr, hp, hcallbacks]
    split <;> rfl

lemma handlePost_of_room (hs : rt.started = true) (hroom : rt.HasRoom)
    (hbody : post.body = some (.obj message)) (outcome : Outcome Json) :
    (handlePost P rt r post outcome).1 =
      closePost (rt.withRequestTimeout (r.handleMessage P post.registry message).1 outcome).1 := by
  obtain ⟨rt', -, hx⟩ := @BaseRelayRuntime.handleMcpMessage_of_room P rt r post.registry message
    outcome hs hroom.1 hroom.2
  simp only [handlePost, hbody, openPost, hx]

lemma hasRoom_of_idle (hi : Idle rt) : rt.HasRoom := by
  obtain ⟨-, hactive, hdepth⟩ := hi
  exact ⟨hactive ▸ rt.config.one_le_maxInFlightRequests, hdepth ▸ rt.config.one_le_maxQueueDepth⟩

lemma openPost_of_not_object {body : Option Json} (h : ∀ message, body ≠ some (.obj message)) :
    ∃ code text, openPost body = .inl (refuse code text) := by
  cases body with
  | none => exact ⟨_, _, rfl⟩
  | some body =>
    cases body with
    | obj message => exact absurd rfl (h message)
    | _ => exact ⟨_, _, rfl⟩

lemma Ends.repliesTo (hi : Idle rt) {trace : List (HttpServer × HttpEvent)} {k : ℕ} {reply : Reply}
    (h : Ends P rt trace k post (.replied reply)) : RepliesTo P post reply := by
  generalize he : PostEnd.replied reply = e at h
  cases h with
  | turnedAway => cases he
  | cancelled => cases he
  | refused hno outcome =>
    obtain ⟨code, text, hopen⟩ := openPost_of_not_object hno
    simp only [handlePost, hopen, PostEnd.replied.injEq] at he
    exact Or.inl ⟨hno, code, text, he⟩
  | @finished message _ _ _ outcome hbody =>
    cases hv : JsonRpcRequest.validate P (.obj message) with
    | errors errors =>
      rw [handlePost_of_room hi.1 (hasRoom_of_idle hi) hbody] at he
      have hcall : (runtimeCallbacks.handleMessage P post.registry message).1
          = .done (.error (.validationError "JsonRpcRequest" errors)) := by
        simp [MCPRecords.handleMessage, modelValidate, hv]
      rw [hcall] at he
      cases he
    | ok request =>
      refine Or.inr ⟨message, request, hbody, hv, ?_⟩
      obtain ⟨x, rt', r', hx, -, -, hcases⟩ := turn_cases
        (t := ⟨post.registry, message, outcome, .ok ()⟩) (r := runtimeCallbacks) hi
        ⟨rfl, rfl, rfl⟩ hv
      simp only [handlePost, hbody, openPost, hx] at he
      rcases hcases with ⟨hm, rfl⟩ | ⟨hm, -, response, rfl, hr⟩ | ⟨hm, -, e, rfl⟩
      · rw [if_pos hm]
        exact PostEnd.replied.inj he
      · rw [if_neg hm]
        exact ⟨response, PostEnd.replied.inj he, hr⟩
      · cases he

lemma Ends.later {trace : List (HttpServer × HttpEvent)} {k : ℕ} {e : PostEnd}
    (h : Ends P rt trace k post e) (rest : List (HttpServer × HttpEvent)) :
    Ends P rt (trace ++ rest) k post e := by
  cases h with
  | refused hno outcome => exact .refused hno outcome
  | finished hbody own met => exact .finished hbody own (List.mem_append_left _ met)
  | turnedAway hbody own met full he =>
    exact .turnedAway hbody own (List.mem_append_left _ met) full he
  | cancelled hbody own met => exact .cancelled hbody own (List.mem_append_left _ met)

/-! ### One event -/

variable {s s' : HttpServer} {e : HttpEvent} {start : BaseRelayRuntime}
  {trace : List (HttpServer × HttpEvent)}

/-- After these events the server has every call under way for the post that made it, and the right
counts. -/
structure Attended (P : Platform) (start : BaseRelayRuntime) (trace : List (HttpServer × HttpEvent))
    (s : HttpServer) : Prop where
  config : s.system.runtime.config = start.config
  callbacks : HasCallbacks s.system.mcp
  calls : s.system.calls = s.desk.opened.map Prod.snd
  desk : Desk.Balanced (Makes P) (Ends P start trace) s.desk
  accounted : ∃ n, Accounted s.system n

lemma isRefusal_of_openMcp {registry : RegistryStore} {exc : Exc}
    (h : (rt.openMcp P r registry message).1 = .error exc) : IsRefusal rt.config exc := by
  unfold BaseRelayRuntime.openMcp BaseRelayRuntime.ensureStarted BaseRelayRuntime.guardRequest at h
  by_cases hs : rt.started = true
  · rw [if_pos hs] at h
    by_cases ha : rt.config.maxInFlightRequests ≤ rt.stats.activeRequests
    · rw [if_pos ha] at h
      exact Except.error.inj h ▸ .inFlight
    · rw [if_neg ha] at h
      by_cases hq : rt.config.maxQueueDepth ≤ rt.stats.queueDepth
      · rw [if_pos hq] at h
        exact Except.error.inj h ▸ .queued
      · rw [if_neg hq] at h
        cases h
  · rw [if_neg hs] at h
    exact Except.error.inj h ▸ .notStarted rt.role

lemma step_post (hrunner : s.system.mcpHttpRunner = true)
    (hbody : post.body = some (.obj message)) :
    (s.system.runtime.started = true ∧ s.system.runtime.HasRoom ∧
        s.step P (.post post) = some
          { system := { s.system with
              runtime := s.system.runtime.countRequest
              mcp := (s.system.mcp.handleMessage P post.registry message).2
              calls := s.system.calls ++
                [(s.system.mcp.handleMessage P post.registry message).1] }
            desk := s.desk.hand post (s.system.mcp.handleMessage P post.registry message).1 }) ∨
      (¬ (s.system.runtime.started = true ∧ s.system.runtime.HasRoom) ∧
        ∃ e, IsRefusal s.system.runtime.config e ∧ s.step P (.post post) = some
          { system := { s.system with runtime := s.system.runtime.rejected }
            desk := s.desk.answer post (.raised e) }) := by
  have hstep : s.step P (.post post)
      = (s.system.step P (.call post.registry message)).map fun system =>
        { system, desk := s.take post
            (s.system.runtime.openMcp P s.system.mcp post.registry message).1 } := by
    simp only [HttpServer.step, if_pos hrunner, hbody, openPost]
  rw [hstep, RequestSystem.step]
  rcases openMcp_cases (P := P) s.system.runtime s.system.mcp post.registry message with
    ⟨hs, hroom, hx⟩ | ⟨hno, e, hx⟩
  · rw [hx]
    exact Or.inl ⟨hs, hroom, rfl⟩
  · refine Or.inr ⟨hno, e, isRefusal_of_openMcp (by rw [hx]), ?_⟩
    rw [hx]
    rfl

lemma step_post_refused (start : BaseRelayRuntime) (hrunner : s.system.mcpHttpRunner = true)
    (hbody : ∀ message, post.body ≠ some (.obj message)) :
    s.step P (.post post) = some
      { s with desk := s.desk.answer post (handlePost P start runtimeCallbacks post .timesOut).1 } := by
  obtain ⟨code, text, hopen⟩ := openPost_of_not_object hbody
  simp only [HttpServer.step, if_pos hrunner, hopen, handlePost]

lemma step_finish {i : ℕ} {outcome : Outcome Json} (h : s.step P (.finish i outcome) = some s') :
    ∃ call system, s.system.calls[i]? = some call ∧
      s.system.step P (.finish i outcome) = some system ∧
      s' = ⟨system, s.desk.close i
        (closePost (s.system.runtime.withRequestTimeout call outcome).1)⟩ := by
  simp only [HttpServer.step] at h
  split at h
  · cases h
  · rename_i call hcall
    obtain ⟨system, hsystem, rfl⟩ := Option.map_eq_some_iff.mp h
    exact ⟨call, system, hcall, hsystem, rfl⟩

lemma mcp_closeHttp (t : RequestSystem) : t.closeHttp.mcp = t.mcp := by
  unfold RequestSystem.closeHttp
  split <;> rfl

lemma mcp_closeTransports (t : RequestSystem) : t.closeTransports.mcp = t.mcp := by
  unfold RequestSystem.closeTransports
  split
  · rfl
  · exact mcp_closeHttp t

lemma mcp_step {t t' : RequestSystem} {e : RequestEvent} (h : t.step P e = some t')
    (hc : ∀ registry message, e ≠ .call registry message) : t'.mcp = t.mcp := by
  cases e with
  | call registry message => exact absurd rfl (hc registry message)
  | finish i outcome | cancel i =>
    obtain ⟨call, -, rfl⟩ := Option.map_eq_some_iff.mp h
    rfl
  | record stats =>
    obtain rfl := Option.some.inj h
    rfl
  | stop | wake | tepClosed | httpClosed =>
    simp only [RequestSystem.step] at h
    split_ifs at h <;> obtain rfl := Option.some.inj h
    all_goals first | rfl | exact mcp_closeTransports t | exact mcp_closeHttp _
  | drainTimeout =>
    simp only [RequestSystem.step] at h
    split at h
    · obtain rfl := Option.some.inj h
      exact mcp_closeTransports t
    · cases h

lemma step_other {e : RequestEvent} (h : s.step P (.other e) = some s') :
    (∀ registry message, e ≠ .call registry message) ∧ ¬ e.Ends ∧
      ∃ system, s.system.step P e = some system ∧ s' = { s with system } := by
  cases e with
  | call | finish | cancel => cases h
  | _ =>
    simp only [HttpServer.step] at h
    obtain ⟨system, hsystem, rfl⟩ := Option.map_eq_some_iff.mp h
    exact ⟨by rintro _ _ ⟨⟩, id, system, hsystem, rfl⟩

lemma Makes.closePost_eq (hi : Idle start) {rt : BaseRelayRuntime} (hc : rt.config = start.config)
    {call : Call} (h : Makes P post call) (outcome : Outcome Json) :
    closePost (rt.withRequestTimeout call outcome).1
      = (handlePost P start runtimeCallbacks post outcome).1 := by
  obtain ⟨message, hbody, rfl⟩ := h
  rw [BaseRelayRuntime.withRequestTimeout_fst hc,
    ← handlePost_of_room hi.1 (hasRoom_of_idle hi) hbody]

lemma Attended.later (h : Attended P start trace s) (rest : List (HttpServer × HttpEvent)) :
    Attended P start (trace ++ rest) s where
  config := h.config
  callbacks := h.callbacks
  calls := h.calls
  desk := h.desk.mono fun _ _ _ hends => hends.later rest
  accounted := h.accounted

lemma Attended.accounts (h : Attended P start trace s) {e : RequestEvent} {t : RequestSystem}
    (ht : s.system.step P e = some t) : ∃ n, Accounted t n := by
  obtain ⟨n, hn⟩ := h.accounted
  exact ⟨_, hn.step ht⟩

lemma Attended.close (h : Attended P start trace s) {e : RequestEvent} {t : RequestSystem}
    (ht : s.system.step P e = some t) {i : ℕ} {call : Call}
    (hcall : s.system.calls[i]? = some call) (hcalls : t.calls = s.system.calls.eraseIdx i)
    (hno : ∀ registry message, e ≠ .call registry message) {x : PostEnd}
    (hends : ∀ k post, s.desk.opened[i]? = some (k, call) → Makes P post call →
      Ends P start trace k post x) :
    Attended P start trace ⟨t, s.desk.close i x⟩ where
  config := (config_step ht).trans h.config
  callbacks := mcp_step ht hno ▸ h.callbacks
  calls := by
    show t.calls = (s.desk.opened.eraseIdx i).map Prod.snd
    rw [hcalls, h.calls, List.eraseIdx_map]
  desk := by
    rw [h.calls, List.getElem?_map] at hcall
    obtain ⟨⟨k, call⟩, hopened, rfl⟩ := Option.map_eq_some_iff.mp hcall
    exact h.desk.close hopened fun post hmakes => hends k post hopened hmakes
  accounted := h.accounts ht

/-- **One event keeps the posts apart.** -/
lemma Attended.step (hi : Idle start) (h : Attended P start trace s) (hstep : s.step P e = some s') :
    Attended P start (trace ++ [(s, e)]) s' ∧ s'.desk.jobs = s.desk.jobs ++ e.posted.toList := by
  have hmet : (s, e) ∈ trace ++ [(s, e)] := by simp
  replace h := h.later [(s, e)]
  cases e with
  | post post =>
    have hrunner : s.system.mcpHttpRunner = true := by
      by_contra hno
      rw [HttpServer.step, if_neg hno] at hstep
      cases hstep
    by_cases hbody : ∃ message, post.body = some (.obj message)
    · obtain ⟨message, hbody⟩ := hbody
      obtain ⟨hcall, hcallbacks⟩ :=
        handleMessage_callbacks (P := P) h.callbacks post.registry message
      have haccounts := fun t => h.accounts (e := .call post.registry message) (t := t)
      rcases step_post (P := P) hrunner hbody with ⟨hs, hroom, hx⟩ | ⟨hno, e, he, hx⟩
      · -- the message is admitted, and its call is handed to the desk
        rw [hx] at hstep
        obtain rfl := Option.some.inj hstep
        refine ⟨⟨h.config, hcallbacks, ?_, h.desk.hand ⟨message, hbody, hcall⟩, haccounts _ ?_⟩, rfl⟩
        · show s.system.calls ++ [_] = (s.desk.opened ++ [(s.desk.jobs.length, _)]).map Prod.snd
          rw [List.map_append, h.calls, List.map_singleton]
        · rw [step_call, if_pos ((admits_call_iff _ _ _).mpr ⟨hs, hroom⟩)]
      · -- the runtime turns it away
        rw [hx] at hstep
        obtain rfl := Option.some.inj hstep
        have hturned : Ends P start (trace ++ [(s, .post post)]) s.desk.jobs.length post (.raised e) :=
          .turnedAway hbody rfl hmet hno (h.config ▸ he)
        refine ⟨⟨?_, h.callbacks, h.calls, h.desk.answer hturned, haccounts _ ?_⟩, rfl⟩
        · unfold BaseRelayRuntime.rejected
          split
          · exact h.config
          · exact h.config
        · rw [step_call, if_neg (mt (admits_call_iff _ _ _).mp hno)]
    · -- what is no object does not reach the runtime
      have hrefused : ∀ message, post.body ≠ some (.obj message) :=
        fun message hm => hbody ⟨message, hm⟩
      rw [step_post_refused start hrunner hrefused] at hstep
      obtain rfl := Option.some.inj hstep
      exact ⟨⟨h.config, h.callbacks, h.calls, h.desk.answer (.refused hrefused .timesOut),
        h.accounted⟩, rfl⟩
  | finish i outcome =>
    obtain ⟨call, system, hcall, hsystem, rfl⟩ := step_finish hstep
    obtain ⟨_, -, rfl⟩ := Option.map_eq_some_iff.mp hsystem
    refine ⟨h.close hsystem hcall rfl (by rintro _ _ ⟨⟩) fun k post hown hmakes => ?_,
      (List.append_nil _).symm⟩
    rw [hmakes.closePost_eq hi h.config]
    obtain ⟨message, hbody, -⟩ := hmakes
    exact .finished hbody hown hmet
  | cancel i =>
    obtain ⟨system, hsystem, rfl⟩ := Option.map_eq_some_iff.mp hstep
    obtain ⟨call, hcall, rfl⟩ := Option.map_eq_some_iff.mp hsystem
    refine ⟨h.close hsystem hcall rfl (by rintro _ _ ⟨⟩) ?_, (List.append_nil _).symm⟩
    rintro k post hown ⟨message, hbody, -⟩
    exact .cancelled hbody hown hmet
  | other e =>
    obtain ⟨hc, he, system, hsystem, rfl⟩ := step_other hstep
    exact ⟨⟨(config_step hsystem).trans h.config, mcp_step hsystem hc ▸ h.callbacks,
      (sameRequests_step hsystem hc he).calls.trans h.calls, h.desk, h.accounts hsystem⟩,
      (List.append_nil _).symm⟩

/-! ### Any run -/

lemma attended_fresh (config : RelayConfig) (role relayId sessionId : String) (tepServer : Bool) :
    Attended P (.start { config, role, relayId, sessionId }) []
      (.fresh config role relayId sessionId tepServer) where
  config := rfl
  callbacks := ⟨rfl, rfl, rfl⟩
  calls := rfl
  desk := Desk.balanced_empty
  accounted := ⟨0, accounted_fresh config role relayId sessionId tepServer true⟩

lemma Attended.run (hi : Idle start) (h : Attended P start [] s) (hjobs : s.desk.jobs = [])
    {es : List HttpEvent} (hrun : Run.run (HttpServer.step P) s es = some s') :
    Attended P start (Run.trace (HttpServer.step P) s es) s' ∧
      s'.desk.jobs = es.filterMap HttpEvent.posted := by
  have hkeeps : ∀ s e s' l, Attended P start l s ∧
      s.desk.jobs = (l.map Prod.snd).filterMap HttpEvent.posted → True →
      HttpServer.step P s e = some s' → Attended P start (l ++ [(s, e)]) s' ∧
        s'.desk.jobs = ((l ++ [(s, e)]).map Prod.snd).filterMap HttpEvent.posted := by
    rintro s e s' l ⟨h, hjobs⟩ - hstep
    obtain ⟨h', hjobs'⟩ := h.step hi hstep
    refine ⟨h', ?_⟩
    rw [hjobs', hjobs, List.map_append, List.filterMap_append]
    congr 1
  obtain ⟨h', hjobs'⟩ := Run.run_invariant_trace hkeeps ⟨h, hjobs⟩ (fun _ _ => trivial) hrun
  rw [List.nil_append, Run.trace_map_snd hrun] at hjobs'
  exact ⟨h', hjobs'⟩

/-- A server after these events: each post is in flight or has ended, in one way only and as is its
own; a reply is one to the request it came with; what the runtime counts as active is what is in
flight; and another object is taken exactly if the runtime is started and below both limits. -/
structure SideBySide (P : Platform) (fresh : HttpServer) (start : BaseRelayRuntime)
    (es : List HttpEvent) (s : HttpServer) : Prop where
  posted : s.desk.jobs = es.filterMap HttpEvent.posted
  once : s.desk.numbers.Perm (List.range s.desk.jobs.length)
  ends : ∀ x ∈ s.desk.closed,
    s.desk.Belongs (Ends P start (Run.trace (HttpServer.step P) fresh es)) x
  replies : ∀ k reply, (k, .replied reply) ∈ s.desk.closed →
    s.desk.Belongs (fun _ => RepliesTo P) (k, reply)
  active : s.system.runtime.stats.activeRequests = s.desk.opened.length
  admitted : ∀ post message, s.system.mcpHttpRunner = true → post.body = some (.obj message) →
    ∃ s', s.step P (.post post) = some s' ∧
      (s'.desk.opened.length = s.desk.opened.length + 1 ↔ s.system.runtime.started = true ∧
        s.desk.opened.length < min start.config.maxInFlightRequests start.config.maxQueueDepth)

/-- **Posts side by side.** However the posts of any number of connections and the ends of their
callbacks are interleaved, with cancellations and the shutdown anywhere between, each ends as it
would have alone with the end its own callback had, unless it was turned away or its own connection
lost. -/
theorem posts_side_by_side (P : Platform) (config : RelayConfig) (role relayId sessionId : String)
    (tepServer : Bool) {es : List HttpEvent} {s : HttpServer}
    (hrun : Run.run (HttpServer.step P) (.fresh config role relayId sessionId tepServer) es
      = some s) :
    SideBySide P (.fresh config role relayId sessionId tepServer)
      (.start { config, role, relayId, sessionId }) es s := by
  have hi : Idle (.start { config, role, relayId, sessionId }) := ⟨rfl, rfl, rfl⟩
  obtain ⟨h, hjobs⟩ := (attended_fresh config role relayId sessionId tepServer).run hi rfl hrun
  have hconfig : s.system.runtime.config = config := h.config
  obtain ⟨n, haccounted⟩ := h.accounted
  have hcalls : s.system.calls.length = s.desk.opened.length := by rw [h.calls, List.length_map]
  refine ⟨hjobs, h.desk.numbers, h.desk.results, ?_, haccounted.active.trans hcalls, ?_⟩
  · intro k reply hreply
    obtain ⟨post, hpost, hends⟩ := h.desk.results _ hreply
    exact ⟨post, hpost, hends.repliesTo hi⟩
  · intro post message hrunner hbody
    have hroom : s.system.runtime.HasRoom ↔
        s.desk.opened.length < min config.maxInFlightRequests config.maxQueueDepth := by
      rw [BaseRelayRuntime.HasRoom, haccounted.active, haccounted.depth, hcalls, hconfig, Nat.lt_min]
    show ∃ s', s.step P (.post post) = some s' ∧ (_ ↔ s.system.runtime.started = true ∧
      s.desk.opened.length < min config.maxInFlightRequests config.maxQueueDepth)
    rw [← hroom]
    rcases step_post (P := P) hrunner hbody with ⟨hs, hroom, hx⟩ | ⟨hno, e, -, hx⟩
    · exact ⟨_, hx, iff_of_true List.length_append ⟨hs, hroom⟩⟩
    · exact ⟨_, hx, iff_of_false (Nat.succ_ne_self _).symm hno⟩

/-! Two calls, the second of which is done first, and a post that is no JSON. -/

def callPost (id : ℤ) : HttpEvent :=
  .post ⟨{ tools := .ofList [{ name := "a", description := "", inputSchema := [] }] },
    some (.obj [("method", .str "tools/call"), ("id", .int id), ("params", .obj [("name", .str "a")])])⟩

def crossedPosts : List HttpEvent :=
  [callPost 1, callPost 2, .post ⟨{}, none⟩, .finish 1 (.returns (.obj [])), .finish 0 .timesOut]

/-- The second is replied to with its result, and the first has timed out. -/
theorem crossedPosts_side_by_side :
    let fresh := HttpServer.fresh .default "direct" "relay" "session" false
    ∃ s e, Run.run (HttpServer.step .strict) fresh crossedPosts = some s ∧
      s.desk.closed = [(2, .replied (refuse (-32700) "Invalid JSON request body")),
        (1, .replied ⟨200, some [("jsonrpc", .str "2.0"), ("id", .int 2), ("result", .obj [])]⟩),
        (0, .raised e)] ∧
      SideBySide .strict fresh (.start { role := "direct", relayId := "relay", sessionId := "session" })
        crossedPosts s := by
  intro fresh
  exact ⟨_, _, rfl, rfl, posts_side_by_side .strict .default "direct" "relay" "session" false rfl⟩

end NaiaRelay.Runtime
