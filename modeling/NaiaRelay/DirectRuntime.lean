import NaiaRelay.Callbacks
import NaiaRelay.HostRuntime

set_option autoImplicit false

/-!
The direct runtime: an executor and a client on one relay, around one registry.
-/

namespace NaiaRelay.Runtime

open NaiaRelay.Registry NaiaRelay.Tep NaiaRelay.Mcp

variable (P : Platform)

/-- `DirectRelayRuntime`. Its two handlers share the registry. -/
structure DirectRelayRuntime where
  base : BaseRelayRuntime
  registry : RegistryStore := {}
  tep : TEPRecords := {}
  mcp : MCPRecords := runtimeCallbacks

namespace DirectRelayRuntime

def create (relayId sessionId : String) (config : RelayConfig := .default) : DirectRelayRuntime where
  base := { config, role := "direct", relayId, sessionId }

def start (d : DirectRelayRuntime) : DirectRelayRuntime := { d with base := d.base.start }

/-- `handle_tep_message`. -/
def handleTepMessage (d : DirectRelayRuntime) (newMessageId : String) (message : Obj) :
    Except Exc Obj × DirectRelayRuntime :=
  match d.base.ensureStarted with
  | .error e => (.error e, d)
  | .ok _ =>
    let x := TEPHandler.handleMessage P (executorCallbacks P) newMessageId ⟨d.registry, d.tep⟩
      message
    (x.1, { d with
      registry := x.2.registry
      tep := x.2.records
      base := d.base.countFailure x.1 })

/-- `call_tool`, `read_resource` and `get_prompt`. -/
def callback (d : DirectRelayRuntime) (c : Callback) : Except Exc Json :=
  (requireEntry P d.registry (callbackTarget c).1 (callbackTarget c).2).map fun _ =>
    localAnswer P c

/-- `handle_mcp_message`. -/
def handleMcpMessage (d : DirectRelayRuntime) (message : Obj) :
    Except Exc (Option Obj) × DirectRelayRuntime :=
  match d.base.openMcp P d.mcp d.registry message with
  | (.error e, base, mcp) => (.error e, { d with base, mcp })
  | (.ok call, base, mcp) =>
    let response : Except Exc (Option Obj) :=
      match call with
      | .done r => r
      | .await c resume => resume (d.callback P c)
    (response, { d with base := base.closeMcp response, mcp })

end DirectRelayRuntime

end NaiaRelay.Runtime
