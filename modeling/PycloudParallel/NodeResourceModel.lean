import PycloudParallel.FoundationOrderedDict
import Mathlib.Data.Finset.Basic

/-!
# Services and task pools of a node

The part of `NodeControlState` that keeps services and task pools: their
entries, the worker slots reserved for creates, the executor host in use and
the executors each host holds.  Services and task pools run through the same
code with different fields, so a `ResourceKind` selects the table, the capacity
and the reservation counter.

Time enters only through outside answers: whether a lease has expired, whether
a host is alive, whether a call to it raises.  Timing metrics, published
signals and the table of create requests are read by none of this and are left
out.
-/

namespace PycloudParallel.NodeResources

abbrev ResourceId := String
abbrev CreateId := Nat
abbrev UpdateId := Nat
abbrev HostRef := Nat
abbrev ResourceRef := Nat

inductive ResourceKind
  | service
  | taskPool
deriving DecidableEq

/-- `SERVICE_STATUS_*`; a task pool uses the texts `RUNNING` and `STOPPED`. -/
inductive ResourceStatus
  | starting
  | running
  | draining
  | stopped
deriving DecidableEq

inductive Readiness
  | initializing
  | ready
  | failed
  | stopped
deriving DecidableEq

inductive CreateStage
  | unset
  | accepted
  | artifactPrepare
  | executorCreate
  | globalsWarmup
  | ready
  | createSucceeded
  | createFailed
  | runtimeDependencyFailure
deriving DecidableEq

def CreateStage.inProgress : CreateStage → Bool
  | .accepted | .artifactPrepare | .executorCreate | .globalsWarmup => true
  | .unset | .ready | .createSucceeded | .createFailed
  | .runtimeDependencyFailure => false

/-- A `ServiceSession` or a `TaskPoolState`; `ref` tells which object it is. -/
structure Resource where
  ref : ResourceRef
  ownerClientId : String
  name : String
  token : String
  codeVersion : String
  workerCount : Nat
  status : ResourceStatus
  executorReady : Bool
  aliveWorkers : Nat
  readiness : Readiness
  createStage : CreateStage
  stopReason : String
deriving DecidableEq

namespace Resource

/-- `is_running`, which counts a starting and a draining service as running. -/
def isRunning (kind : ResourceKind) (resource : Resource) : Bool :=
  match kind with
  | .service =>
    resource.status = .starting || resource.status = .running ||
      resource.status = .draining
  | .taskPool => resource.status = .running

def livenessSkipped (kind : ResourceKind) (resource : Resource) : Bool :=
  match kind with
  | .service => resource.status = .stopped
  | .taskPool => !resource.isRunning .taskPool

def serving (resource : Resource) : Bool :=
  resource.status = .running && resource.executorReady

def markReady (resource : Resource) (workerCount : Nat) : Resource :=
  { resource with
    executorReady := true
    aliveWorkers := workerCount
    readiness := .ready
    createStage := .ready
    stopReason := "" }

/-- `_mark_resource_create_failed_locked`, after the status is set to STOPPED. -/
def markCreateFailed (resource : Resource) (reason : String) : Resource :=
  { resource with
    status := .stopped
    executorReady := false
    aliveWorkers := 0
    readiness := .failed
    createStage := .createFailed
    stopReason := reason }

def stop (resource : Resource) (reason : String) : Resource :=
  { resource with
    status := .stopped
    executorReady := false
    aliveWorkers := 0
    readiness := .stopped
    stopReason := reason }

def publishFailure (resource : Resource) (stage : CreateStage) : Resource :=
  { resource with readiness := .failed, createStage := stage }

/-- The fields `_mark_task_pool_dependency_failure_locked` sets. -/
def failDependency (resource : Resource) (reason : String) : Resource :=
  { resource with
    status := .stopped
    executorReady := false
    aliveWorkers := 0
    readiness := .failed
    createStage := .runtimeDependencyFailure
    stopReason := reason }

/-- The section of an asynchronous create that announces the executor; only
that of a pool writes the code version again. -/
def announceExecutor (kind : ResourceKind) (resource : Resource)
    (codeVersion : String) (workers : Nat) (initialGlobals : Bool) : Resource :=
  { resource with
    codeVersion := match kind with
      | .service => resource.codeVersion
      | .taskPool => codeVersion
    workerCount := workers
    executorReady := true
    aliveWorkers := workers
    status := .running
    createStage := if initialGlobals then .globalsWarmup else .ready
    stopReason := "" }

def finalise (resource : Resource) (workers : Nat) : Resource :=
  { resource.markReady workers with
    status := .running
    createStage := .createSucceeded }

def restored (resource : Resource) : Resource :=
  { resource with aliveWorkers := resource.workerCount }

def restoreFailed (resource : Resource) (error : String) : Resource :=
  { resource with
    status := .stopped
    executorReady := false
    aliveWorkers := 0
    stopReason := "executor host restart failed: " ++ error }

def afterRestore (resource : Resource) : Option String → Resource
  | none => resource.restored
  | some error => resource.restoreFailed error

/-- `heartbeat_service` and `heartbeat_task_pool`, once they are let through. -/
def heartbeat (resource : Resource) : Resource :=
  { resource with stopReason := "" }

end Resource

/-- An `ExecutorBackend`: the ids it has a client for, each an executor process
of its own, and whether it was closed. -/
structure ExecutorHost where
  closed : Bool
  executors : Finset (ResourceKind × ResourceId)

/-- How a call that creates an executor ends.  A request that times out raises
although the executor may have been created. -/
inductive ExecutorOutcome
  | created
  | raised
  | raisedAfterCreating
deriving DecidableEq

def ExecutorOutcome.raises : ExecutorOutcome → Bool
  | .created => false
  | .raised | .raisedAfterCreating => true

namespace ExecutorHost

def fresh : ExecutorHost := { closed := false, executors := ∅ }

/-- `create_service` and `create_task_pool`; a closed backend only raises. -/
def create (host : ExecutorHost) (key : ResourceKind × ResourceId)
    (outcome : ExecutorOutcome) : Option ExecutorHost :=
  match outcome with
  | .raised => some host
  | .created | .raisedAfterCreating =>
    if host.closed then none
    else some { host with executors := insert key host.executors }

/-- `prepare_artifact` for one id: the client is made if it is not there. -/
def openClient (host : ExecutorHost) (key : ResourceKind × ResourceId) :
    ExecutorHost :=
  if host.closed then host
  else { host with executors := insert key host.executors }

/-- `stop_service` and `stop_task_pool`: the client leaves the table first, so
this holds whether or not the request raises. -/
def stop (host : ExecutorHost) (key : ResourceKind × ResourceId) :
    ExecutorHost :=
  { host with executors := host.executors.erase key }

def close (_host : ExecutorHost) : ExecutorHost :=
  { closed := true, executors := ∅ }

end ExecutorHost

structure CreateRequest where
  kind : ResourceKind
  resourceId : ResourceId
  ownerClientId : String
  name : String
  token : String
  /-- The digest given with the upload, and the version of the artifact that
  `put_code` makes of it. -/
  sha256 : String
  codeVersion : String
  requestedWorkers : Nat
  waitReady : Bool
  /-- Initial values were given and the artifact has managed globals. -/
  initialGlobals : Bool
deriving DecidableEq

/-- What an `except` block of a create still has to do. -/
inductive RollbackAction
  | release
  | stopExecutor
  | rememberFailed
  | markFailed
  | publishFailure (stage : CreateStage)
deriving DecidableEq

inductive CreateProgress
  /-- Asynchronous: the entry is still to be made. -/
  | requested
  /-- Asynchronous: the entry exists and the thread is not started. -/
  | accepted
  | preparing
  /-- The artifact is ready and the workers in use are to be counted. -/
  | prepared
  | counted (activeWorkers : Nat)
  | reserved (workers : Nat) (host : HostRef)
  | executorCreated (workers : Nat) (host : HostRef)
  /-- The entry shows the executor and the reservation is still held. -/
  | published (workers : Nat) (host : HostRef)
  /-- Asynchronous: the reservation is given back, the globals are warmed up. -/
  | warming (workers : Nat) (host : HostRef)
  | failing (workers : Nat) (host : Option HostRef) (reason : String)
      (plan : List RollbackAction)
  | ended
deriving DecidableEq

/-- A running create.  `holding` is not in the source: it counts the slots that
the create has reserved and not yet given back. -/
structure Create where
  request : CreateRequest
  progress : CreateProgress
  holding : Nat
deriving DecidableEq

structure RestoreTarget where
  kind : ResourceKind
  resourceId : ResourceId
  ref : ResourceRef
deriving DecidableEq

/-- A call of `_ensure_executor_host_alive` that found the host dead. -/
structure Rebuild where
  oldHost : Option HostRef
  newHost : Option HostRef
  targets : List RestoreTarget
  /-- The targets done, with the error of those that failed. -/
  results : List (RestoreTarget × Option String)
  oldClosed : Bool

structure GlobalsUpdate where
  serviceId : ResourceId
  host : HostRef
  /-- The warmup found no executor and one is to be created. -/
  recreate : Bool

/-- A stop that `_submit_stop_service` or `_submit_stop_task_pool` handed to
the cleanup executor. -/
structure PendingStop where
  host : HostRef
  key : ResourceKind × ResourceId
deriving DecidableEq

structure Node where
  /-- `_services` and `_task_pools`. -/
  resources : ResourceKind → OrderedDict ResourceId Resource
  workerCapacity : ResourceKind → Nat
  /-- `_service_worker_reserved` and `_task_pool_worker_reserved`. -/
  workerReserved : ResourceKind → Nat
  executorHost : Option HostRef
  hosts : HostRef → ExecutorHost
  /-- Present while `_executor_rebuild_in_progress`. -/
  rebuild : Option Rebuild
  creates : OrderedDict CreateId Create
  globalsUpdates : OrderedDict UpdateId GlobalsUpdate
  pendingStops : List PendingStop
  /-- The next object and the next host to be made. -/
  nextRef : ResourceRef
  nextHost : HostRef

namespace Node

variable (node : Node)

def initial (serviceWorkerCapacity taskPoolWorkerCapacity : Nat) : Node where
  resources := fun _ => ∅
  workerCapacity
    | .service => serviceWorkerCapacity
    | .taskPool => taskPoolWorkerCapacity
  workerReserved := fun _ => 0
  executorHost := some 0
  hosts := fun _ => .fresh
  rebuild := none
  creates := ∅
  globalsUpdates := ∅
  pendingStops := []
  nextRef := 0
  nextHost := 1

def entry (kind : ResourceKind) (id : ResourceId) : Option Resource :=
  (node.resources kind).lookup id

/-- Assign an entry of `_services` or `_task_pools`. -/
def setEntry (kind : ResourceKind) (id : ResourceId) (resource : Resource) :
    Node :=
  { node with
    resources := Function.update node.resources kind
      ((node.resources kind).set id resource) }

def setCreate (id : CreateId) (create : Create) : Node :=
  { node with creates := node.creates.set id create }

def setReserved (kind : ResourceKind) (count : Nat) : Node :=
  { node with workerReserved := Function.update node.workerReserved kind count }

def setHost (host : HostRef) (state : ExecutorHost) : Node :=
  { node with hosts := Function.update node.hosts host state }

/-- `_executor_host` and the entry allow a stop of the executor: the host that
is captured for it. -/
def stopTarget (resource : Resource) : Option HostRef :=
  if resource.executorReady then node.executorHost else none

def submitStop (host : Option HostRef) (key : ResourceKind × ResourceId) :
    Node :=
  match host with
  | none => node
  | some host => { node with pendingStops := node.pendingStops ++ [⟨host, key⟩] }

/-- `str(reason or "owner requested").strip() or "owner requested"` on a
stripped text. -/
def stopReasonText (reason : String) : String :=
  if reason = "" then "owner requested" else reason

/-- `_stop_service_resource_locked`; a second stop does nothing. -/
def stopServiceResourceLocked (id : ResourceId) (session : Resource)
    (reason : String) : Node :=
  if session.status = .stopped then node
  else
    (node.setEntry .service id (session.stop (stopReasonText reason))).submitStop
      (node.stopTarget session) (.service, id)

def stopTaskPoolResourceLocked (id : ResourceId) (pool : Resource)
    (reason : String) : Node :=
  (node.setEntry .taskPool id (pool.stop (stopReasonText reason))).submitStop
    (node.stopTarget pool) (.taskPool, id)

/-- `end_service`; `none` where it raises. -/
def endService (ownerClientId : String) (id : ResourceId) (token reason : String) :
    Option Node :=
  match node.entry .service id with
  | none => none
  | some session =>
    if session.ownerClientId ≠ ownerClientId then none
    else if token = "" ∨ session.token ≠ token then none
    else some (node.stopServiceResourceLocked id session reason)

/-- `close_task_pool`; a pool that is not running keeps its reason. -/
def closeTaskPool (ownerClientId : String) (id : ResourceId)
    (token reason : String) : Option Node :=
  match node.entry .taskPool id with
  | none => none
  | some pool =>
    if pool.ownerClientId ≠ ownerClientId then none
    else if pool.token ≠ token then none
    else
      let kept := !pool.isRunning .taskPool && pool.stopReason ≠ ""
      some (node.stopTaskPoolResourceLocked id pool
        (if kept then pool.stopReason else reason))

def heartbeatService (ownerClientId : String) (id : ResourceId)
    (token : String) : Option Node :=
  match node.entry .service id with
  | none => none
  | some session =>
    if session.ownerClientId ≠ ownerClientId then none
    else if token = "" ∨ session.token ≠ token then none
    else if session.status = .stopped then none
    else some (node.setEntry .service id session.heartbeat)

def heartbeatTaskPool (ownerClientId : String) (id : ResourceId)
    (token : String) : Option Node :=
  match node.entry .taskPool id with
  | none => none
  | some pool =>
    if pool.ownerClientId ≠ ownerClientId then none
    else if pool.token ≠ token then none
    else if pool.status ≠ .running then none
    else some (node.setEntry .taskPool id pool.heartbeat)

/-- The turn of one service in `_handle_service_timeouts`:
`_handle_service_resource_health_locked`. -/
def handleServiceResourceHealthLocked (id : ResourceId) (leaseExpired : Bool) :
    Option Node :=
  match node.entry .service id with
  | none => none
  | some session =>
    if session.createStage.inProgress then some node
    else if session.status ≠ .running then some node
    else if leaseExpired then
      some (node.stopServiceResourceLocked id session "owner heartbeat timeout")
    else some node

/-- The turn of one pool: `_handle_task_pool_resource_health_locked`. -/
def handleTaskPoolResourceHealthLocked (id : ResourceId) (leaseExpired : Bool) :
    Option Node :=
  match node.entry .taskPool id with
  | none => none
  | some pool =>
    if pool.createStage.inProgress then some node
    else if !pool.isRunning .taskPool then some node
    else if leaseExpired then
      some (node.stopTaskPoolResourceLocked id pool "owner heartbeat timeout")
    else some node

/-- The turn of one resource that the report names in
`_apply_resource_liveness_locked`. -/
def applyReportedLiveness (kind : ResourceKind) (id : ResourceId)
    (aliveCount : Nat) : Option Node :=
  match node.entry kind id with
  | none => some node
  | some resource =>
    if resource.livenessSkipped kind then some node
    else some (node.setEntry kind id { resource with aliveWorkers := aliveCount })

def applyMissingLiveness (kind : ResourceKind) (id : ResourceId) :
    Option Node :=
  match node.entry kind id with
  | none => none
  | some resource =>
    if resource.status = .running && resource.executorReady &&
        0 < resource.workerCount then
      some (node.setEntry kind id { resource with aliveWorkers := 0 })
    else some node

def executorWorkerPids (kind : ResourceKind) (id : ResourceId) (pids : Nat) :
    Node :=
  match node.entry kind id with
  | none => node
  | some resource => node.setEntry kind id { resource with aliveWorkers := pids }

/-- `_mark_service_dependency_failure_locked`, at the end of a call. -/
def markServiceDependencyFailureLocked (id : ResourceId) : Node :=
  match node.entry .service id with
  | none => node
  | some session => node.setEntry .service id { session with readiness := .ready }

/-- `_mark_task_pool_dependency_failure_locked`; `reason` is the text of
`dependency_failure_reason`. -/
def markTaskPoolDependencyFailureLocked (id : ResourceId) (reason : String) :
    Node :=
  match node.entry .taskPool id with
  | none => node
  | some pool =>
    if pool.status = .stopped ∧ pool.stopReason = reason then node
    else
      (node.setEntry .taskPool id (pool.failDependency reason)).submitStop
        (node.stopTarget pool) (.taskPool, id)

/-- `_invoke_service_call` up to counting the call; the error is the HTTP
status of the refusal. -/
def invokeServiceCall (id : ResourceId) (token : String)
    (methodKnown artifactKnown : Bool) : Except Nat Unit :=
  match node.entry .service id with
  | none => .error 404
  | some session =>
    if session.status ≠ .running then .error 409
    else if token ≠ "" ∧ token ≠ session.token then .error 401
    else if !methodKnown then .error 404
    else if !artifactKnown then .error 500
    else if !session.executorReady || node.executorHost.isNone then .error 409
    else .ok ()

def submitPoolTasks (id : ResourceId) (token : String) (artifactKnown : Bool) :
    Except String Unit :=
  match node.entry .taskPool id with
  | none => .error "task pool not found"
  | some pool =>
    if pool.token ≠ token then .error "pool_token mismatch"
    else if pool.status ≠ .running then .error "task pool not running"
    else if pool.readiness ≠ .ready then .error "task pool not ready"
    else if !artifactKnown then .error "code artifact missing"
    else if node.executorHost.isNone then .error "executor host unavailable"
    else .ok ()

def ownedWorkers (kind : ResourceKind) : Nat :=
  (((node.resources kind).values.filter fun resource =>
    resource.isRunning kind && resource.executorReady).map
      Resource.workerCount).sum

end Node

end PycloudParallel.NodeResources
