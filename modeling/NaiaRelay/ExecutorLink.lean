import NaiaRelay.Lib.OrderedDict
import NaiaRelay.Runtime

set_option autoImplicit false

/-!
The host's side of its executor: the attached transport, the lock that serialises sends, and
the operations forwarded to the executor with the tables they wait in.

A forwarded operation registers a future under an id of its own, takes the lock, sends, and
waits for the future. It is suspended at one of these awaits or it has ended. Operations are
numbered in the order they start; the tables hold their numbers.
-/

namespace NaiaRelay.Runtime

/-- Which of the two pending tables an operation waits in. -/
inductive Target | execution | request
  deriving DecidableEq, Repr

inductive Future
  | pending
  | done (outcome : Except Exc Json)
  | cancelled

/-- Where an operation is suspended: for the lock, in the send, for its future; or how the
relay-link message it came with was answered. -/
inductive Phase
  | acquiring
  | sending
  | waiting
  | ended (answer : Except Exc Obj)

structure ExecutorOperation where
  target : Target
  id : String
  /-- What is sent to the executor. -/
  request : Obj
  /-- The rest of the relay-link message's handling, once the operation has an outcome. -/
  resume : Except Exc Json → Except Exc Obj
  future : Future := .pending
  phase : Phase := .acquiring
  /-- The transport the send went out on. -/
  sentOn : Option ℕ := none

namespace ExecutorOperation

/-- `future.set_result` or `future.set_exception`, on a future that is not done. -/
def settle (op : ExecutorOperation) (outcome : Except Exc Json) : ExecutorOperation :=
  match op.future with
  | .pending => { op with future := .done outcome }
  | _ => op

def noTransport : Exc := .attributeError "'NoneType' object has no attribute 'send'"

/-- With the lock taken, the send starts on the transport there is now. -/
def acquired (op : ExecutorOperation) (transport : Option ℕ) : ExecutorOperation :=
  match transport with
  | none => { op with phase := .ended (op.resume (.error noTransport)) }
  | some t => { op with phase := .sending, sentOn := some t }

/-- The send has ended. -/
def sent (op : ExecutorOperation) (outcome : Except Exc Unit) : ExecutorOperation :=
  match outcome with
  | .ok _ => { op with phase := .waiting }
  | .error e => { op with phase := .ended (op.resume (.error e)) }

/-- The future is done, and the operation goes on with what it holds. -/
def resumed (op : ExecutorOperation) : ExecutorOperation :=
  match op.future with
  | .done outcome => { op with phase := .ended (op.resume outcome) }
  | _ => op

/-- A timeout strikes: the one around the future, whose exception the relay-link handler turns
into a reply, or the one around the whole message, whose exception it never sees. -/
def expired (op : ExecutorOperation) (timeout : Exc) (outer : Bool) : ExecutorOperation :=
  match op.phase with
  | .waiting =>
    { op with
      future := .cancelled
      phase := .ended (if outer then .error timeout else op.resume (.error timeout)) }
  | _ => { op with phase := .ended (.error timeout) }

def Running (op : ExecutorOperation) : Prop := ∀ answer, op.phase ≠ .ended answer

end ExecutorOperation

structure ExecutorLink where
  /-- `_executor_transport`. -/
  transport : Option ℕ := none
  /-- The operation that holds `_executor_send_lock`. -/
  sendLock : Option ℕ := none
  pendingRequests : OrderedDict String ℕ := ∅
  pendingExecutions : OrderedDict String ℕ := ∅
  operations : List ExecutorOperation := []

/-- `ProtocolError("Executor transport disconnected", ...)`. -/
def executorDisconnected : Exc :=
  .protocol "Executor transport disconnected" "executor_disconnected" .null

namespace ExecutorLink

def table (l : ExecutorLink) : Target → OrderedDict String ℕ
  | .execution => l.pendingExecutions
  | .request => l.pendingRequests

def setTable (l : ExecutorLink) (target : Target) (d : OrderedDict String ℕ) : ExecutorLink :=
  match target with
  | .execution => { l with pendingExecutions := d }
  | .request => { l with pendingRequests := d }

def update (l : ExecutorLink) (i : ℕ) (f : ExecutorOperation → ExecutorOperation) : ExecutorLink :=
  { l with operations := l.operations.modify i f }

/-- No operation was ever given this id. -/
def Fresh (l : ExecutorLink) (target : Target) (id : String) : Prop :=
  ∀ op ∈ l.operations, op.target = target → op.id ≠ id

instance (l : ExecutorLink) (target : Target) (id : String) : Decidable (l.Fresh target id) :=
  inferInstanceAs (Decidable (∀ op ∈ l.operations, op.target = target → op.id ≠ id))

/-- An operation starts: its future is created and goes into its table. -/
def register (l : ExecutorLink) (op : ExecutorOperation) : ExecutorLink :=
  { l.setTable op.target (OrderedDict.set (l.table op.target) op.id l.operations.length) with
    operations := l.operations ++ [op] }

/-- `table.pop(id, None)`. -/
def unregister (l : ExecutorLink) (op : ExecutorOperation) : ExecutorLink :=
  l.setTable op.target (OrderedDict.pop (l.table op.target) op.id)

/-- The future under this id, if there is one that is not done. -/
def pendingFuture (l : ExecutorLink) (target : Target) (id : String) : Option ℕ :=
  ((l.table target).lookup id).filter fun i =>
    match l.operations[i]? with
    | some { future := .pending, .. } => true
    | _ => false

/-- The future under this id gets its outcome, unless it is done. -/
def settle (l : ExecutorLink) (target : Target) (id : String) (outcome : Except Exc Json) :
    ExecutorLink :=
  match (l.table target).lookup id with
  | none => l
  | some i => l.update i (·.settle outcome)

/-- `_fail_pending_executor_operations`. -/
def failPending (l : ExecutorLink) (exc : Exc) : ExecutorLink :=
  (OrderedDict.values l.pendingRequests ++ OrderedDict.values l.pendingExecutions).foldl
    (fun l i => l.update i (·.settle (.error exc))) l

/-- `attach_executor_transport`. -/
def attach (l : ExecutorLink) (adapter : ℕ) : ExecutorLink := { l with transport := some adapter }

/-- `detach_executor_transport`. -/
def detach (l : ExecutorLink) (adapter : Option ℕ) : ExecutorLink :=
  if adapter = none ∨ l.transport = adapter then
    { l with transport := none }.failPending executorDisconnected
  else l

/-- What `HostRelayRuntime.stop` does to the transport. -/
def stop (l : ExecutorLink) : ExecutorLink := { l with transport := none }

end ExecutorLink

/-- What can happen on the link. -/
inductive LinkEvent
  | register (target : Target) (id : String) (request : Obj)
    (resume : Except Exc Json → Except Exc Obj)
  | acquire (i : ℕ)
  | sent (i : ℕ) (outcome : Except Exc Unit)
  | settle (target : Target) (id : String) (outcome : Except Exc Json)
  | resume (i : ℕ)
  | expire (timeout : Exc) (i : ℕ) (outer : Bool)
  | attach (adapter : ℕ)
  | detach (adapter : Option ℕ)
  | stop

/-- One event; `none` where it cannot happen. As in Python 3.11, `asyncio.wait_for` returns what its
future holds if the future is done when the time is up, so such a wait does not time out; and a new
operation has an id of its own. -/
def ExecutorLink.step (l : ExecutorLink) : LinkEvent → Option ExecutorLink
  | .register target id request resume =>
    if l.Fresh target id then some (l.register { target, id, request, resume }) else none
  | .acquire i =>
    match l.operations[i]?, l.sendLock with
    | some { phase := .acquiring, .. }, none =>
      some ({ l with sendLock := l.transport.map fun _ => i }.update i (·.acquired l.transport))
    | _, _ => none
  | .sent i outcome =>
    match l.operations[i]? with
    | some { phase := .sending, .. } =>
      some ({ l with sendLock := none }.update i (·.sent outcome))
    | _ => none
  | .settle target id outcome => some (l.settle target id outcome)
  | .resume i =>
    match l.operations[i]? with
    | some op =>
      match op.phase, op.future with
      | .waiting, .done _ => some ((l.unregister op).update i (·.resumed))
      | _, _ => none
    | none => none
  | .expire timeout i outer =>
    match l.operations[i]? with
    | some op =>
      match op.phase, op.future, outer with
      | .waiting, .pending, _ => some ((l.unregister op).update i (·.expired timeout outer))
      | .acquiring, _, true => some (l.update i (·.expired timeout true))
      | .sending, _, true => some ({ l with sendLock := none }.update i (·.expired timeout true))
      | _, _, _ => none
    | none => none
  | .attach adapter => some (l.attach adapter)
  | .detach adapter => some (l.detach adapter)
  | .stop => some l.stop

end NaiaRelay.Runtime
