import PycloudParallel.ReplicaStatesModel

/-!
# The heartbeats of an execution session

The keepalive loop sends the heartbeats of a session through threads, keeps
their futures in two tables, and looks at the tables in every tick.  A future
can end, and its replica can be replaced, between any two looks.
-/

namespace PycloudParallel.ReplicaStates

inductive HeartbeatFuture
  | waiting
  | running
  | succeeded
  | failed (error : HeartbeatError)

namespace HeartbeatFuture

def done : HeartbeatFuture → Bool
  | .waiting | .running => false
  | .succeeded | .failed _ => true

def cancels : HeartbeatFuture → Bool
  | .waiting => true
  | .running | .succeeded | .failed _ => false

end HeartbeatFuture

structure HeartbeatPending where
  handle : ℕ
  submittedAt : ℤ
  lastPendingReportAt : ℤ
  future : HeartbeatFuture
  startedAt : ℤ

structure HeartbeatSettings where
  rpcTimeoutTicks : ℤ
  queueTimeoutTicks : ℤ
  maxWorkers : ℕ
  maxWorkerCap : ℕ
  globalMaxInflight : ℕ
  intervalTicks : ℤ

namespace HeartbeatSettings

variable (settings : HeartbeatSettings)

def rpcTimeout (replica : Replica) : ℤ :=
  let heartbeatTimeout := replica.heartbeatTimeoutSec * secondTicks
  max 50000
    (if 0 < settings.rpcTimeoutTicks then settings.rpcTimeoutTicks
    else if 0 < heartbeatTimeout then min (2 * secondTicks) heartbeatTimeout
    else 2 * secondTicks)

def queueTimeout : ℤ :=
  max 200000
    (if 0 < settings.queueTimeoutTicks then settings.queueTimeoutTicks
    else max 200000 (max 50000 settings.intervalTicks * 2))

def workers (replicaCount : ℕ) : ℕ :=
  let cap := if 0 < settings.maxWorkerCap then settings.maxWorkerCap else 256
  let sessionLimit :=
    if 0 < settings.maxWorkers then settings.maxWorkers
    else max 2 (min cap (max 1 replicaCount))
  min sessionLimit (max 1 (settings.globalMaxInflight / 2))

end HeartbeatSettings

namespace HeartbeatPending

variable (pending : HeartbeatPending)

/-- How long the heartbeat waits for its thread, and how long its request is
out. -/
def queuedWait (now : ℤ) : ℤ :=
  if pending.startedAt ≤ 0 then max 0 (now - pending.submittedAt) else 0

def rpcRunning (now : ℤ) : ℤ :=
  if 0 < pending.startedAt then max 0 (now - pending.startedAt) else 0

def overdue (settings : HeartbeatSettings) (replica : Replica) (now : ℤ) :
    Bool :=
  let timeout :=
    if 0 < pending.startedAt then settings.rpcTimeout replica
    else settings.queueTimeout
  let elapsed :=
    if 0 < pending.startedAt then pending.rpcRunning now
    else pending.queuedWait now
  decide (timeout ≤ elapsed ∧ timeout ≤ now - pending.lastPendingReportAt)

/-- The `TimeoutError` of a heartbeat that is overdue. -/
def timeoutError (platform : Platform) (now : ℤ) : HeartbeatError where
  repr := "TimeoutError('heartbeat pending queued_wait_sec=" ++
    platform.seconds (pending.queuedWait now) ++ " rpc_running_sec=" ++
    platform.seconds (pending.rpcRunning now) ++ "')"
  isTimeoutError := true
  isTerminal := false
  isTransientNetwork := true
  isServiceTerminal := false

end HeartbeatPending

/-! ## The session with its heartbeats -/

/-- `handles` are those that the replicas of the session have ever had. -/
structure Keepalive (ι : Type) where
  session : ExecutionSession ι
  pending : OrderedDict ι HeartbeatPending
  stalePending : OrderedDict ι HeartbeatPending
  handles : Finset ℕ

/-- `examine` is a round of the first loop of `_run_heartbeat_tick`, in a tick
that began at a time of its own; `submit` one of its second loop, with the ids
that the tick began with; `collect` one of its last loop; `dropStale` one of
`_cleanup_stale_pending`.  `elsewhere` is what does not look at the tables. -/
inductive KeepaliveMove (ι : Type)
  | elsewhere (event : Event ι)
  | threadRuns (nodeId : ι)
  | rpcStarts (nodeId : ι)
  | rpcEnds (nodeId : ι) (error : Option HeartbeatError)
  | examine (nodeId : ι) (tickStartedAt : ℤ)
  | submit (nodeId : ι) (heartbeatIds : Finset ι) (globalSlot : Bool)
  | collect (nodeId : ι)
  | dropStale (nodeId : ι)

def Event.installs {ι : Type} : Event ι → Option (ι × Replica)
  | .replicaAdded nodeId replica | .replicaAttached nodeId replica =>
    some (nodeId, replica)
  | _ => none

def Event.beginsLifetime {ι : Type} : Event ι → Bool
  | .keepaliveStarted => true
  | _ => false

def Event.newHandles {ι : Type} (event : Event ι) : Finset ℕ :=
  event.installs.elim ∅ fun installed => {installed.2.handle}

namespace Keepalive

variable {ι : Type} [DecidableEq ι] (platform : Platform)
  (settings : HeartbeatSettings) (k : Keepalive ι)

/-- The begin of a keepalive lifetime; requests of an earlier one may still be
out. -/
def begin (session : ExecutionSession ι)
    (stalePending : OrderedDict ι HeartbeatPending) : Keepalive ι where
  session := session.startKeepalive
  pending := ∅
  stalePending := stalePending
  handles := (session.replicas.values.map Replica.handle).toFinset

def changeHeartbeat (nodeId : ι)
    (change : HeartbeatPending → Option HeartbeatPending) :
    Option (Keepalive ι) :=
  match k.pending.lookup nodeId, k.stalePending.lookup nodeId with
  | some pending, _ =>
    (change pending).map fun changed =>
      { k with pending := k.pending.set nodeId changed }
  | none, some stale =>
    (change stale).map fun changed =>
      { k with stalePending := k.stalePending.set nodeId changed }
  | none, none => none

/-- `set_running_or_notify_cancel` in the thread of a heartbeat. -/
def threadRuns (nodeId : ι) : Option (Keepalive ι) :=
  k.changeHeartbeat nodeId fun pending =>
    match pending.future with
    | .waiting => some { pending with future := .running }
    | .running | .succeeded | .failed _ => none

/-- `_timed_heartbeat_replica` begins. -/
def rpcStarts (now : ℤ) (nodeId : ι) : Option (Keepalive ι) :=
  k.changeHeartbeat nodeId fun pending =>
    match pending.future with
    | .running => some { pending with startedAt := now }
    | .waiting | .succeeded | .failed _ => none

def rpcEnds (nodeId : ι) (error : Option HeartbeatError) :
    Option (Keepalive ι) :=
  k.changeHeartbeat nodeId fun pending =>
    match pending.future with
    | .running =>
      some { pending with
        future := (error.map HeartbeatFuture.failed).getD .succeeded }
    | .waiting | .succeeded | .failed _ => none

def conclude (now : ℤ) (nodeId : ι) (pending : HeartbeatPending) :
    Keepalive ι :=
  match pending.future with
  | .succeeded =>
    { k with
      session := k.session.markHeartbeatSuccess platform now nodeId
        pending.handle false }
  | .failed error =>
    { k with
      session := k.session.handleHeartbeatException now nodeId pending.handle
        error }
  | .waiting | .running => k

def setStale (nodeId : ι) (pending : HeartbeatPending) : Keepalive ι :=
  { k with stalePending := k.stalePending.set nodeId pending }

/-- The first loop of `_run_heartbeat_tick`. -/
def examine (now tickStartedAt : ℤ) (nodeId : ι) : Option (Keepalive ι) :=
  match k.pending.lookup nodeId with
  | none => none
  | some pending =>
    let popped := { k with pending := k.pending.erase nodeId }
    match k.session.replicas.lookup nodeId with
    | none =>
      if pending.future.done = true ∨ pending.future.cancels = true then
        some popped
      else some (popped.setStale nodeId pending)
    | some replica =>
      if replica.handle ≠ pending.handle then
        if pending.future.done = true ∨ pending.future.cancels = true then
          some popped
        else some (popped.setStale nodeId pending)
      else if pending.future.done = true then
        some (popped.conclude platform now nodeId pending)
      else if pending.overdue settings replica tickStartedAt = false then some k
      else
        let recorded := { popped with
          session := k.session.recordFailure now nodeId pending.handle
            (pending.timeoutError platform tickStartedAt) }
        if pending.future.cancels = false ∧ 0 < pending.startedAt then
          some (recorded.setStale nodeId pending)
        else some recorded

/-- The second loop of `_run_heartbeat_tick`. -/
def submit (now : ℤ) (nodeId : ι) (heartbeatIds : Finset ι)
    (globalSlot : Bool) : Option (Keepalive ι) :=
  if nodeId ∉ heartbeatIds ∨ settings.workers heartbeatIds.card ≤
      k.pending.keys.length + k.stalePending.keys.length then none
  else if nodeId ∈ k.pending ∨ nodeId ∈ k.stalePending then some k
  else
    match k.session.replicas.lookup nodeId with
    | none =>
      some { k with
        session := k.session.changeSets fun sets => sets.discardActive nodeId }
    | some replica =>
      if globalSlot = false then some k
      else
        some { k with
          pending := k.pending.set nodeId
            ⟨replica.handle, now, now, .waiting, 0⟩ }

/-- The last loop of `_run_heartbeat_tick`. -/
def collect (now : ℤ) (nodeId : ι) : Option (Keepalive ι) :=
  match k.pending.lookup nodeId with
  | none => none
  | some pending =>
    if pending.future.done = false then some k
    else
      let popped := { k with pending := k.pending.erase nodeId }
      if k.session.isCurrentReplica nodeId pending.handle = false then
        some popped
      else some (popped.conclude platform now nodeId pending)

def dropStale (nodeId : ι) : Option (Keepalive ι) :=
  match k.stalePending.lookup nodeId with
  | none => none
  | some stale =>
    if stale.future.done = true then
      some { k with stalePending := k.stalePending.erase nodeId }
    else some k

def step (label : ℤ × KeepaliveMove ι) : Option (Keepalive ι) :=
  match label.2 with
  | .elsewhere event =>
    some { k with
      session := k.session.perform platform label.1 event
      handles := k.handles ∪ event.newHandles }
  | .threadRuns nodeId => k.threadRuns nodeId
  | .rpcStarts nodeId => k.rpcStarts label.1 nodeId
  | .rpcEnds nodeId error => k.rpcEnds nodeId error
  | .examine nodeId tickStartedAt =>
    k.examine platform settings label.1 tickStartedAt nodeId
  | .submit nodeId heartbeatIds globalSlot =>
    k.submit settings label.1 nodeId heartbeatIds globalSlot
  | .collect nodeId => k.collect platform label.1 nodeId
  | .dropStale nodeId => k.dropStale nodeId

end Keepalive

end PycloudParallel.ReplicaStates
