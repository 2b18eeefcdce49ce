import NaiaRelay.Config

set_option autoImplicit false

/-!
The two stages of the configuration. What a stage accepts is dumped and accepted again
unchanged, so the second decides nothing: a mapping is refused for its fields, for its role, or
for a missing port.
-/

namespace NaiaRelay.Config

open NaiaRelay.Pydantic

variable {P : Platform}

/-! ### A dump is read back -/

section Read

variable {α : Type} {o : Obj} {name : String} {v : Json} {check : Json → Checked α} {a : α}

lemma required_of_get (hv : Obj.get o name = some v) (hc : check v = .ok a) :
    required o name check = .ok a := required_eq_ok.mpr ⟨v, hv, hc⟩

lemma optional_of_get {default : α} (hv : Obj.get o name = some v) (hc : check v = .ok a) :
    optional o name default check = .ok a := optional_eq_ok.mpr (Or.inr ⟨v, hv, hc⟩)

end Read

lemma nullable_str_ofOption (s : Option String) : nullable str (.ofOption s) = .ok s := by
  cases s <;> rfl

lemma nullable_optionalInt {lo hi : ℤ} (n : Option (InRange lo hi)) :
    nullable (inRange P lo hi) (optionalInt (n.map Subtype.val)) = .ok n := by
  cases n with
  | none => rfl
  | some n =>
    show some <$> inRange P lo hi (.int n) = _
    rw [inRange_int, Validation.map_ok]

lemma McpTransportType.check_text (t : McpTransportType) : check (.str t.text) = .ok t := by
  cases t <;> rfl

lemma ExecutorTransportType.check_text (t : ExecutorTransportType) : check (.str t.text) = .ok t := by
  cases t <;> rfl

lemma RelayLinkTransportType.check_text (t : RelayLinkTransportType) :
    check (.str t.text) = .ok t := by
  cases t; rfl

lemma RoleType.check_text (r : RoleType) : check (.str r.text) = .ok r := by
  cases r <;> rfl

lemma RelayConfig.validate_modelDump (c : RelayConfig) :
    RelayConfig.validate P (.obj c.modelDump) = .ok c := by
  unfold RelayConfig.validate
  refine model_obj_eq_ok.mpr ⟨?_, (), rfl⟩
  rw [optional_of_get rfl (atLeast_int P c.requestTimeoutSeconds),
    optional_of_get rfl (atLeast_int P c.connectionTimeoutSeconds),
    optional_of_get rfl (atLeast_int P c.heartbeatTimeoutSeconds),
    optional_of_get rfl (atLeast_int P c.maxMessageSizeBytes),
    optional_of_get rfl (atLeast_int P c.maxInFlightRequests),
    optional_of_get rfl (atLeast_int P c.maxQueueDepth),
    optional_of_get rfl (atLeast_int P c.reconnectAttempts)]
  rfl

lemma McpFields.validate_modelDump (c : McpFields) :
    McpFields.validate P (.obj c.modelDump) = .ok c := by
  unfold McpFields.validate
  refine model_obj_eq_ok.mpr ⟨?_, (), rfl⟩
  rw [required_of_get rfl (McpTransportType.check_text c.transport),
    optional_of_get rfl (nullable_str_ofOption c.host),
    optional_of_get rfl (nullable_optionalInt c.port)]
  rfl

lemma EndpointFields.validate_modelDump {T : Type} {cls : String} {check : Json → Checked T}
    {text : T → String} (hcheck : ∀ t, check (.str (text t)) = .ok t) (c : EndpointFields T) :
    EndpointFields.validate P cls check (.obj (c.modelDump text)) = .ok c := by
  unfold EndpointFields.validate
  refine model_obj_eq_ok.mpr ⟨?_, (), rfl⟩
  rw [required_of_get rfl (hcheck c.transport), optional_of_get rfl (nullable_str_ofOption c.host),
    optional_of_get rfl (nullable_optionalInt c.port),
    optional_of_get rfl (nullable_str_ofOption c.bindHost),
    optional_of_get rfl (nullable_optionalInt c.bindPort)]
  rfl

/-! ### Validators -/

lemma McpFields.validateTransportRequirements_eq_ok {c : McpFields} {c' : McpConfig}
    (h : c.validateTransportRequirements = .ok c') : c'.transport = c.transport := by
  unfold McpFields.validateTransportRequirements at h
  split_ifs at h <;> (obtain rfl := Except.ok.inj h; rfl)

lemma McpFields.exists_validateTransportRequirements {c : McpFields} :
    (∃ c', c.validateTransportRequirements = .ok c') ↔ (c.transport = .http → c.port ≠ none) := by
  unfold McpFields.validateTransportRequirements
  by_cases h : c.transport = .http
  · by_cases hport : c.port = none
    · simp [h, hport]
    · simp [h, hport]
  · simp [h]

lemma McpConfig.validateTransportRequirements_self (c : McpConfig) :
    c.toMcpFields.validateTransportRequirements = .ok c := by
  obtain ⟨⟨transport, host, port⟩, hreq⟩ := c
  unfold McpFields.validateTransportRequirements
  by_cases h : transport = .http
  · obtain ⟨⟨host', rfl, hne⟩, hport⟩ := hreq h
    simp only [dif_pos h, dif_neg hport, orText, if_neg hne]
  · simp only [dif_neg h]

section Endpoint

variable {T : Type} [DecidableEq T] {tcp : T} {message : String}

lemma EndpointFields.validateTransportRequirements_eq_ok {c : EndpointFields T}
    {c' : EndpointConfig T tcp} (h : c.validateTransportRequirements tcp message = .ok c') :
    c'.transport = c.transport := by
  unfold EndpointFields.validateTransportRequirements at h
  split_ifs at h <;> (obtain rfl := Except.ok.inj h; rfl)

lemma EndpointFields.exists_validateTransportRequirements {c : EndpointFields T} :
    (∃ c', c.validateTransportRequirements tcp message = .ok c') ↔
      (c.transport = tcp → c.port ≠ none ∨ c.bindPort ≠ none) := by
  unfold EndpointFields.validateTransportRequirements
  by_cases h : c.transport = tcp
  · by_cases hport : c.port = none ∧ c.bindPort = none
    · simp [h, hport]
    · have hor : c.port ≠ none ∨ c.bindPort ≠ none := by tauto
      simp [h, hport, hor]
  · simp [h]

lemma EndpointConfig.validateTransportRequirements_self (c : EndpointConfig T tcp) :
    c.toEndpointFields.validateTransportRequirements tcp message = .ok c := by
  obtain ⟨⟨transport, host, port, bindHost, bindPort⟩, hreq⟩ := c
  unfold EndpointFields.validateTransportRequirements
  by_cases h : transport = tcp
  · obtain ⟨hhost, hport⟩ := hreq h
    have hhost' : ¬ (host = none ∧ bindHost = none) := by tauto
    have hport' : ¬ (port = none ∧ bindPort = none) := by tauto
    simp only [dif_pos h, dif_neg hport', if_neg hhost']
  · simp only [dif_neg h]

end Endpoint

lemma McpConfig.validate_modelDump (c : McpConfig) : McpConfig.validate P c.modelDump = .ok c :=
  after_eq_ok.mpr ⟨_, McpFields.validate_modelDump _, c.validateTransportRequirements_self⟩

lemma TcpEndpointConfig.validate_modelDump (c : TcpEndpointConfig) :
    TcpEndpointConfig.validate P (modelDump c) = .ok c :=
  after_eq_ok.mpr ⟨_, EndpointFields.validate_modelDump ExecutorTransportType.check_text _,
    EndpointConfig.validateTransportRequirements_self c⟩

lemma RelayLinkConfig.validate_modelDump (c : RelayLinkConfig) :
    RelayLinkConfig.validate P (modelDump c) = .ok c :=
  after_eq_ok.mpr ⟨_, EndpointFields.validate_modelDump RelayLinkTransportType.check_text _,
    EndpointConfig.validateTransportRequirements_self c⟩

lemma nullable_of_ne_null {α : Type} {check : Json → Checked α} {v : Json} (h : v ≠ .null) :
    nullable check v = some <$> check v := by
  cases v with
  | null => exact absurd rfl h
  | _ => rfl

lemma nullable_optionalDump {C : Type} {check : Json → Checked C} (dump : C → Json)
    (hne : ∀ c, dump c ≠ .null) (h : ∀ c, check (dump c) = .ok c) (c : Option C) :
    nullable check (optionalDump dump c) = .ok c := by
  cases c with
  | none => rfl
  | some c =>
    show nullable check (dump c) = _
    rw [nullable_of_ne_null (hne c), h, Validation.map_ok]

/-! ### The second stage -/

/-- The sections of a configuration. -/
def RelayAppConfig.fields : RelayAppConfig → RawFields
  | direct c => ⟨.direct, some c.mcp, some c.executor, none, c.relay⟩
  | host c => ⟨.host, none, some c.executor, some c.relayLink, c.relay⟩
  | client c => ⟨.client, some c.mcp, none, some c.relayLink, c.relay⟩

lemma RelayAppConfig.fields_injective : Function.Injective RelayAppConfig.fields := by
  intro c c' h
  rcases c with ⟨_, _, _⟩ | ⟨_, _, _⟩ | ⟨_, _, _⟩ <;>
    rcases c' with ⟨_, _, _⟩ | ⟨_, _, _⟩ | ⟨_, _, _⟩ <;> cases h <;> rfl

lemma fitsRole_cases {c : RawFields} (h : c.FitsRole) : ∃ typed : RelayAppConfig, typed.fields = c := by
  obtain ⟨role, mcp, executor, relayLink, relay⟩ := c
  cases role <;> cases mcp <;> cases executor <;> cases relayLink <;>
    first
    | exact absurd h not_false
    | exact ⟨.direct ⟨_, _, _⟩, rfl⟩
    | exact ⟨.host ⟨_, _, _⟩, rfl⟩
    | exact ⟨.client ⟨_, _, _⟩, rfl⟩

lemma oneOf_self {A : Type} (text : String) (a : A) : oneOf [(text, a)] (.str text) = .ok a := by
  simp [oneOf]

lemma DirectConfig.validate_modelDump (c : DirectConfig)
    (h : (RelayAppConfig.direct c).fields.FitsRole) :
    DirectConfig.validate P (.obj (RawConfig.modelDump ⟨_, h⟩)) = .ok c := by
  unfold DirectConfig.validate
  refine model_obj_eq_ok.mpr ⟨?_, (), rfl⟩
  rw [required_of_get rfl (oneOf_self "direct" RoleType.direct),
    required_of_get rfl (McpConfig.validate_modelDump c.mcp),
    required_of_get rfl (TcpEndpointConfig.validate_modelDump c.executor),
    optional_of_get rfl (RelayConfig.validate_modelDump c.relay),
    optional_of_get (v := .null) (a := ()) rfl rfl]
  rfl

lemma HostConfig.validate_modelDump (c : HostConfig)
    (h : (RelayAppConfig.host c).fields.FitsRole) :
    HostConfig.validate P (.obj (RawConfig.modelDump ⟨_, h⟩)) = .ok c := by
  unfold HostConfig.validate
  refine model_obj_eq_ok.mpr ⟨?_, (), rfl⟩
  rw [required_of_get rfl (oneOf_self "host" RoleType.host),
    required_of_get rfl (TcpEndpointConfig.validate_modelDump c.executor),
    required_of_get rfl (RelayLinkConfig.validate_modelDump c.relayLink),
    optional_of_get rfl (RelayConfig.validate_modelDump c.relay),
    optional_of_get (v := .null) (a := ()) rfl rfl]
  rfl

lemma ClientConfig.validate_modelDump (c : ClientConfig)
    (h : (RelayAppConfig.client c).fields.FitsRole) :
    ClientConfig.validate P (.obj (RawConfig.modelDump ⟨_, h⟩)) = .ok c := by
  unfold ClientConfig.validate
  refine model_obj_eq_ok.mpr ⟨?_, (), rfl⟩
  rw [required_of_get rfl (oneOf_self "client" RoleType.client),
    required_of_get rfl (McpConfig.validate_modelDump c.mcp),
    required_of_get rfl (RelayLinkConfig.validate_modelDump c.relayLink),
    optional_of_get rfl (RelayConfig.validate_modelDump c.relay),
    optional_of_get (v := .null) (a := ()) rfl rfl]
  rfl

lemma RawConfig.toTypedConfig_eq_ok (raw : RawConfig) :
    ∃ c, raw.toTypedConfig P = .ok c ∧ c.fields = raw.toRawFields := by
  obtain ⟨c, hc⟩ := fitsRole_cases raw.fitsRole
  refine ⟨c, ?_, hc⟩
  obtain ⟨raw, hfits⟩ := raw
  obtain rfl : c.fields = raw := hc
  cases c with
  | direct c =>
    show (modelValidate "DirectConfig" (DirectConfig.validate P
      (.obj (RawConfig.modelDump ⟨_, hfits⟩)))).map RelayAppConfig.direct = _
    rw [DirectConfig.validate_modelDump]
    rfl
  | host c =>
    show (modelValidate "HostConfig" (HostConfig.validate P
      (.obj (RawConfig.modelDump ⟨_, hfits⟩)))).map RelayAppConfig.host = _
    rw [HostConfig.validate_modelDump]
    rfl
  | client c =>
    show (modelValidate "ClientConfig" (ClientConfig.validate P
      (.obj (RawConfig.modelDump ⟨_, hfits⟩)))).map RelayAppConfig.client = _
    rw [ClientConfig.validate_modelDump]
    rfl

lemma parseConfig_eq_ok {data : Obj} {c : RelayAppConfig} :
    parseConfig P data = .ok c ↔
      ∃ raw, RawConfig.validate P (.obj data) = .ok raw ∧ c.fields = raw.toRawFields := by
  unfold parseConfig
  cases hv : RawConfig.validate P (.obj data) with
  | errors es => simp [modelValidate, Except.bind]
  | ok raw =>
    obtain ⟨c', hc', hfields⟩ := raw.toTypedConfig_eq_ok (P := P)
    simp only [modelValidate, Except.bind, hc', Except.ok.injEq, Validation.ok.injEq,
      exists_eq_left', ← hfields]
    exact ⟨fun h => by rw [h], fun h => (RelayAppConfig.fields_injective h).symm⟩

lemma RawFields.validate_of_get {o : Obj} (c : RawFields)
    (hrole : Obj.get o "role" = some (.str c.role.text))
    (hmcp : Obj.get o "mcp" = some (optionalDump McpConfig.modelDump c.mcp))
    (hexecutor : Obj.get o "executor" = some (optionalDump TcpEndpointConfig.modelDump c.executor))
    (hlink : Obj.get o "relay_link" = some (optionalDump RelayLinkConfig.modelDump c.relayLink))
    (hrelay : Obj.get o "relay" = some (.obj c.relay.modelDump))
    (hextra : extraForbidden o ["role", "mcp", "executor", "relay_link", "relay"] = .ok ()) :
    RawFields.validate P (.obj o) = .ok c := by
  unfold RawFields.validate
  refine model_obj_eq_ok.mpr ⟨?_, (), hextra⟩
  rw [required_of_get hrole (RoleType.check_text c.role),
    optional_of_get hmcp (nullable_optionalDump McpConfig.modelDump (fun _ => nofun)
      McpConfig.validate_modelDump _),
    optional_of_get hexecutor (nullable_optionalDump TcpEndpointConfig.modelDump (fun _ => nofun)
      TcpEndpointConfig.validate_modelDump _),
    optional_of_get hlink (nullable_optionalDump RelayLinkConfig.modelDump (fun _ => nofun)
      RelayLinkConfig.validate_modelDump _),
    optional_of_get hrelay (RelayConfig.validate_modelDump c.relay)]
  rfl

lemma RawFields.validate_modelDump (c : RelayAppConfig) :
    RawFields.validate P (.obj c.modelDump) = .ok c.fields := by
  cases c <;> exact RawFields.validate_of_get _ rfl rfl rfl rfl rfl rfl

lemma RawFields.validateForRole_of_fitsRole {c : RawFields} (h : c.FitsRole) :
    c.validateForRole = .ok ⟨c, h⟩ := by
  unfold RawFields.validateForRole
  split
  · rename_i message hmessage
    exact nomatch (roleError_eq_none.mpr h).symm.trans hmessage
  · rfl

lemma RawConfig.validate_eq_ok {v : Json} {raw : RawConfig} :
    RawConfig.validate P v = .ok raw ↔ RawFields.validate P v = .ok raw.toRawFields := by
  rw [RawConfig.validate, after_eq_ok]
  constructor
  · rintro ⟨c, hc, hrole⟩
    unfold RawFields.validateForRole at hrole
    split at hrole
    · cases hrole
    · rw [← Except.ok.inj hrole]
      exact hc
  · exact fun h => ⟨raw.toRawFields, h, RawFields.validateForRole_of_fitsRole raw.fitsRole⟩

lemma parseConfig_modelDump {data : Obj} {c : RelayAppConfig} (h : parseConfig P data = .ok c) :
    parseConfig P c.modelDump = .ok c := by
  obtain ⟨raw, -, hfields⟩ := parseConfig_eq_ok.mp h
  refine parseConfig_eq_ok.mpr ⟨raw, RawConfig.validate_eq_ok.mpr ?_, hfields⟩
  rw [← hfields]
  exact RawFields.validate_modelDump c

/-! ### The first stage -/

/-- The sections of a configuration before their validators. -/
structure Sections where
  role : RoleType
  mcp : Option McpFields
  executor : Option (EndpointFields ExecutorTransportType)
  relayLink : Option (EndpointFields RelayLinkTransportType)
  relay : RelayConfig

variable (P) in
/-- The sections of a raw mapping, each with its fields checked and nothing else. -/
def Sections.validate : Json → Checked Sections :=
  model "RawConfig" ["role", "mcp", "executor", "relay_link", "relay"] fun o =>
    Sections.mk <$> required o "role" RoleType.check
      <*> optional o "mcp" none (nullable (McpFields.validate P))
      <*> optional o "executor" none (nullable (TcpEndpointConfig.fields P))
      <*> optional o "relay_link" none (nullable (RelayLinkConfig.fields P))
      <*> optional o "relay" .default (RelayConfig.validate P)

/-- The rules for a configuration whose fields are as they should be: the sections are those of
its role, and there is a port where one is needed. -/
structure Sections.Complete (s : Sections) : Prop where
  role : FitsRole s.role (s.mcp.map (·.transport)) (s.executor.map (·.transport))
    (s.relayLink.map (·.transport))
  mcp : ∀ mcp, s.mcp = some mcp → mcp.transport = .http → mcp.port ≠ none
  executor : ∀ executor, s.executor = some executor → executor.transport = .tcp →
    executor.port ≠ none ∨ executor.bindPort ≠ none
  relayLink : ∀ relayLink, s.relayLink = some relayLink → relayLink.transport = .tcp →
    relayLink.port ≠ none ∨ relayLink.bindPort ≠ none

section OnSection

variable {A B T : Type} {validator : A → Except String B}

/-- A section's validator, where the section may be missing. -/
def onSection (validator : A → Except String B) : Option A → Except String (Option B)
  | none => .ok none
  | some a => (validator a).map some

lemma exists_onSection {a : Option A} :
    (∃ b, onSection validator a = .ok b) ↔ ∀ x, a = some x → ∃ y, validator x = .ok y := by
  cases a with
  | none => simp [onSection]
  | some x =>
    rw [onSection]
    cases h : validator x with
    | error e => simp [Except.map, h]
    | ok y => simp [Except.map, h]

lemma map_of_onSection {f : A → T} {g : B → T} (h : ∀ x y, validator x = .ok y → g y = f x)
    {a : Option A} {b : Option B} (hb : onSection validator a = .ok b) : b.map g = a.map f := by
  cases a with
  | none =>
    rw [← Except.ok.inj hb]
    rfl
  | some x =>
    cases hx : validator x with
    | error e =>
      rw [onSection, hx] at hb
      cases hb
    | ok y =>
      rw [onSection, hx] at hb
      rw [← Except.ok.inj hb, Option.map_some, Option.map_some, h x y hx]

lemma optional_after_eq_ok {o : Obj} {name : String} {fields : Json → Checked A} {b : Option B} :
    optional o name none (nullable fun v => after validator v (fields v)) = .ok b ↔
      ∃ a, optional o name none (nullable fields) = .ok a ∧ onSection validator a = .ok b := by
  cases hget : Obj.get o name with
  | none => simp [Pydantic.optional, hget, onSection]
  | some v =>
    simp only [Pydantic.optional, hget, within_eq_ok]
    by_cases hv : v = .null
    · rw [hv]
      simp [onSection]
    · rw [nullable_of_ne_null hv, nullable_of_ne_null hv, Validation.map_eq_ok]
      constructor
      · rintro ⟨y, hy, rfl⟩
        obtain ⟨x, hx, hy⟩ := after_eq_ok.mp hy
        exact ⟨some x, Validation.map_eq_ok.mpr ⟨x, hx, rfl⟩, by rw [onSection, hy]; rfl⟩
      · rintro ⟨a, ha, hb⟩
        obtain ⟨x, hx, rfl⟩ := Validation.map_eq_ok.mp ha
        cases hy : validator x with
        | error e =>
          rw [onSection, hy] at hb
          cases hb
        | ok y =>
          rw [onSection, hy] at hb
          exact ⟨y, after_eq_ok.mpr ⟨x, hx, hy⟩, Except.ok.inj hb⟩

end OnSection

/-- The sections, once their validators have run, are these. -/
structure Sections.Becomes (s : Sections) (c : RawFields) : Prop where
  role : c.role = s.role
  mcp : onSection McpFields.validateTransportRequirements s.mcp = .ok c.mcp
  executor : onSection TcpEndpointConfig.validateTransportRequirements s.executor = .ok c.executor
  relayLink : onSection RelayLinkConfig.validateTransportRequirements s.relayLink = .ok c.relayLink
  relay : c.relay = s.relay

lemma RawFields.validate_eq_ok {o : Obj} {c : RawFields} :
    RawFields.validate P (.obj o) = .ok c ↔
      ∃ s, Sections.validate P (.obj o) = .ok s ∧ s.Becomes c := by
  have hmcp (b) : optional o "mcp" none (nullable (McpConfig.validate P)) = .ok b ↔ _ :=
    optional_after_eq_ok
  have hexecutor (b) :
      optional o "executor" none (nullable (TcpEndpointConfig.validate P)) = .ok b ↔ _ :=
    optional_after_eq_ok
  have hlink (b) :
      optional o "relay_link" none (nullable (RelayLinkConfig.validate P)) = .ok b ↔ _ :=
    optional_after_eq_ok
  unfold RawFields.validate Sections.validate
  simp only [model_obj_eq_ok, Validation.seq5_eq_ok, hmcp, hexecutor, hlink]
  constructor
  · rintro ⟨⟨role, mcp, executor, relayLink, relay, hrole, ⟨m, hm, hmcp⟩, ⟨e, he, hexecutor⟩,
      ⟨l, hl, hlink⟩, hrelay, rfl⟩, hextra⟩
    exact ⟨⟨role, m, e, l, relay⟩, ⟨⟨_, _, _, _, _, hrole, hm, he, hl, hrelay, rfl⟩, hextra⟩,
      ⟨rfl, hmcp, hexecutor, hlink, rfl⟩⟩
  · rintro ⟨s, ⟨⟨role, m, e, l, relay, hrole, hm, he, hl, hrelay, rfl⟩, hextra⟩, hb⟩
    obtain ⟨hrole', hmcp, hexecutor, hlink, hrelay'⟩ := hb
    refine ⟨⟨c.role, c.mcp, c.executor, c.relayLink, c.relay, ?_, ⟨m, hm, hmcp⟩,
      ⟨e, he, hexecutor⟩, ⟨l, hl, hlink⟩, ?_, rfl⟩, hextra⟩
    · rw [hrole']
      exact hrole
    · rw [hrelay']
      exact hrelay

lemma Sections.Becomes.fitsRole_iff {s : Sections} {c : RawFields} (h : s.Becomes c) :
    c.FitsRole ↔ FitsRole s.role (s.mcp.map (·.transport)) (s.executor.map (·.transport))
      (s.relayLink.map (·.transport)) := by
  rw [RawFields.FitsRole, h.role,
    map_of_onSection (fun _ _ => McpFields.validateTransportRequirements_eq_ok) h.mcp,
    map_of_onSection (fun _ _ => EndpointFields.validateTransportRequirements_eq_ok) h.executor,
    map_of_onSection (fun _ _ => EndpointFields.validateTransportRequirements_eq_ok) h.relayLink]

lemma Sections.exists_becomes_iff {s : Sections} :
    (∃ c, s.Becomes c) ↔
      (∀ mcp, s.mcp = some mcp → mcp.transport = .http → mcp.port ≠ none) ∧
      (∀ executor, s.executor = some executor → executor.transport = .tcp →
        executor.port ≠ none ∨ executor.bindPort ≠ none) ∧
      (∀ relayLink, s.relayLink = some relayLink → relayLink.transport = .tcp →
        relayLink.port ≠ none ∨ relayLink.bindPort ≠ none) := by
  have hmcp : (∃ c, onSection McpFields.validateTransportRequirements s.mcp = .ok c) ↔ _ :=
    exists_onSection.trans (forall₂_congr fun _ _ => McpFields.exists_validateTransportRequirements)
  have hexecutor :
      (∃ c, onSection TcpEndpointConfig.validateTransportRequirements s.executor = .ok c) ↔ _ :=
    exists_onSection.trans
      (forall₂_congr fun _ _ => EndpointFields.exists_validateTransportRequirements)
  have hlink :
      (∃ c, onSection RelayLinkConfig.validateTransportRequirements s.relayLink = .ok c) ↔ _ :=
    exists_onSection.trans
      (forall₂_congr fun _ _ => EndpointFields.exists_validateTransportRequirements)
  rw [← hmcp, ← hexecutor, ← hlink]
  constructor
  · exact fun ⟨c, h⟩ => ⟨⟨_, h.mcp⟩, ⟨_, h.executor⟩, ⟨_, h.relayLink⟩⟩
  · exact fun ⟨⟨m, hm⟩, ⟨e, he⟩, ⟨l, hl⟩⟩ => ⟨⟨s.role, m, e, l, s.relay⟩, rfl, hm, he, hl, rfl⟩

lemma exists_rawConfig_iff {o : Obj} {s : Sections} (hs : Sections.validate P (.obj o) = .ok s) :
    (∃ raw, RawConfig.validate P (.obj o) = .ok raw) ↔ s.Complete := by
  have hsame : ∀ {c : RawFields}, RawFields.validate P (.obj o) = .ok c ↔ s.Becomes c := by
    intro c
    rw [RawFields.validate_eq_ok]
    constructor
    · rintro ⟨s', hs', hc⟩
      rwa [Validation.ok.inj (hs.symm.trans hs')]
    · exact fun hc => ⟨s, hs, hc⟩
  constructor
  · rintro ⟨raw, hraw⟩
    have hb := hsame.mp (RawConfig.validate_eq_ok.mp hraw)
    obtain ⟨hmcp, hexecutor, hlink⟩ := Sections.exists_becomes_iff.mp ⟨_, hb⟩
    exact ⟨hb.fitsRole_iff.mp raw.fitsRole, hmcp, hexecutor, hlink⟩
  · intro h
    obtain ⟨c, hb⟩ := Sections.exists_becomes_iff.mpr ⟨h.mcp, h.executor, h.relayLink⟩
    exact ⟨⟨c, hb.fitsRole_iff.mpr h.role⟩, RawConfig.validate_eq_ok.mpr (hsame.mpr hb)⟩

/-- **The two stages agree.** A mapping whose sections validate field by field is parsed if and
only if it has the sections of its role and a port where one is needed; what the first stage
accepts the second one takes as it is; and a configuration is parsed from its own dump. -/
theorem parseConfig_stages (P : Platform) {data : Obj} {s : Sections}
    (hs : Sections.validate P (.obj data) = .ok s) :
    ((∃ c, parseConfig P data = .ok c) ↔ s.Complete) ∧
      (∀ raw, RawConfig.validate P (.obj data) = .ok raw →
        ∃ c, raw.toTypedConfig P = .ok c ∧ c.fields = raw.toRawFields) ∧
      ∀ c, parseConfig P data = .ok c → parseConfig P c.modelDump = .ok c := by
  refine ⟨?_, fun raw _ => raw.toTypedConfig_eq_ok, fun c hc => parseConfig_modelDump hc⟩
  rw [← exists_rawConfig_iff hs]
  constructor
  · rintro ⟨c, hc⟩
    obtain ⟨raw, hraw, -⟩ := parseConfig_eq_ok.mp hc
    exact ⟨raw, hraw⟩
  · rintro ⟨raw, hraw⟩
    obtain ⟨c, -, hfields⟩ := raw.toTypedConfig_eq_ok (P := P)
    exact ⟨c, parseConfig_eq_ok.mpr ⟨raw, hraw, hfields⟩⟩

/-! A host that listens on a port of the system's choice. -/

def hostData : Obj :=
  [("role", .str "host"), ("executor", .obj [("transport", .str "stdio")]),
    ("relay_link", .obj [("transport", .str "tcp"), ("bind_port", .int 0)])]

def hostSections : Sections where
  role := .host
  mcp := none
  executor := some ⟨.stdio, none, none, none, none⟩
  relayLink := some ⟨.tcp, none, none, none, some ⟨0, by decide⟩⟩
  relay := .default

lemma hostSections_complete : hostSections.Complete := by
  constructor
  · trivial
  · exact fun mcp h => nomatch h
  · rintro executor ⟨⟩ htcp
    cases htcp
  · rintro relayLink ⟨⟩ -
    exact Or.inr nofun

theorem parseConfig_hostData :
    Sections.validate .strict (.obj hostData) = .ok hostSections ∧ hostSections.Complete ∧
      ((∃ c, parseConfig .strict hostData = .ok c) ↔ hostSections.Complete) ∧
      (∀ raw, RawConfig.validate .strict (.obj hostData) = .ok raw →
        ∃ c, raw.toTypedConfig .strict = .ok c ∧ c.fields = raw.toRawFields) ∧
      ∀ c, parseConfig .strict hostData = .ok c → parseConfig .strict c.modelDump = .ok c :=
  ⟨rfl, hostSections_complete, parseConfig_stages .strict rfl⟩

end NaiaRelay.Config
