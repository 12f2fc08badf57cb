import PycloudParallel.NodeResourceModel

/-!
# Creating a service or a task pool

`create_service`, `create_task_pool` and the threads of
`_submit_async_service_create` and `_submit_async_task_pool_create`, cut at
their lock sections and at the calls that outside decides.  The four paths are
one pipeline; they differ in how the workers in use are counted, in when the
entry appears, and in the plan their `except` blocks follow.
-/

namespace PycloudParallel.NodeResources

inductive CreateMove
  /-- The section that makes the entry of an asynchronous create. -/
  | accept
  /-- The first section of the asynchronous thread. -/
  | start
  /-- `put_code` and `_ensure_artifact_ready` return or raise; `hosted` if the
  code was loaded in the executor host, under the id of the resource. -/
  | prepare (hosted : Bool) (error : Option String)
  /-- The section that counts the workers in use. -/
  | count
  /-- `_ensure_executor_host_alive` raises in front of the reservation. -/
  | hostRaises (error : String)
  /-- The section of `_reserve_worker_slots_for_create`. -/
  | reserve
  /-- `create_executor` of the skeleton. -/
  | createExecutor (outcome : ExecutorOutcome) (error : String)
  /-- `preload_executor` raises. -/
  | preloadRaises (error : String)
  /-- The section that shows the executor in the entry.  The asynchronous one
  may still raise at its end. -/
  | publish (error : Option String)
  | release
  /-- Asynchronous: the section that announces the globals warmup. -/
  | beginWarmup
  /-- Setting up the managed globals raises. -/
  | warmupRaises (error : String)
  /-- The last section of the asynchronous thread. -/
  | finalise
  /-- The next action of the `except` block. -/
  | rollback

/-- The `except` block of `_create_executor_session_skeleton` and then the one
around it. -/
def skeletonRollback : ResourceKind → Bool → List RollbackAction
  | .service, true => [.release, .stopExecutor, .rememberFailed]
  | .taskPool, true =>
    [.release, .stopExecutor, .release, .stopExecutor, .rememberFailed,
      .publishFailure .executorCreate]
  | _, false => [.release, .stopExecutor, .release, .stopExecutor, .markFailed]

/-- The `except` block of what follows the skeleton up to the release. -/
def publishRollback : ResourceKind → Bool → List RollbackAction
  | .service, true =>
    [.release, .stopExecutor, .rememberFailed, .publishFailure .createFailed]
  | .taskPool, true => [.release, .stopExecutor, .publishFailure .createFailed]
  | _, false => [.release, .stopExecutor, .markFailed]

/-- The `except` block while no slot is reserved. -/
def prepareRollback : Bool → List RollbackAction
  | true => [.rememberFailed, .publishFailure .artifactPrepare]
  | false => [.markFailed]

def reserveRollback : Bool → List RollbackAction
  | true => []
  | false => [.markFailed]

def CreateRequest.workers (request : CreateRequest) : Nat :=
  max 1 request.requestedWorkers

def CreateRequest.skeleton (request : CreateRequest) (ref : ResourceRef) :
    Resource where
  ref := ref
  ownerClientId := request.ownerClientId
  name := request.name
  token := request.token
  codeVersion := request.sha256
  workerCount := request.workers
  status := match request.kind with
    | .service => .starting
    | .taskPool => .running
  executorReady := false
  aliveWorkers := 0
  readiness := .initializing
  createStage := .accepted
  stopReason := ""

def CreateRequest.session (request : CreateRequest) (ref : ResourceRef)
    (workers : Nat) : Resource where
  ref := ref
  ownerClientId := request.ownerClientId
  name := request.name
  token := request.token
  codeVersion := request.codeVersion
  workerCount := workers
  status := .running
  executorReady := true
  aliveWorkers := workers
  readiness := .ready
  createStage := .createSucceeded
  stopReason := ""

/-- `_remember_failed_service_create` and `_remember_failed_task_pool_create`,
which leave `readiness` at its default. -/
def CreateRequest.failedEntry (request : CreateRequest) (ref : ResourceRef)
    (workers : Nat) (reason : String) : Resource where
  ref := ref
  ownerClientId := request.ownerClientId
  name := request.name
  token := request.token
  codeVersion := request.codeVersion
  workerCount := max 1 workers
  status := .stopped
  executorReady := false
  aliveWorkers := 0
  readiness := .ready
  createStage := .unset
  stopReason := reason

def exhaustedMessage : ResourceKind → String
  | .service => "service worker capacity exhausted"
  | .taskPool => "task pool worker capacity exhausted"

def cancelledMessage : ResourceKind → String
  | .service => "service create cancelled"
  | .taskPool => "task pool create cancelled"

def reserveWorkerSlots (kind : ResourceKind)
    (capacity activeWorkers reservedWorkers requestedWorkers : Nat) :
    Except String Nat :=
  let available := capacity - (activeWorkers + reservedWorkers)
  if available = 0 then .error (exhaustedMessage kind)
  else .ok (min (max 1 requestedWorkers) available)

namespace Node

variable (node : Node)

def serviceNameAvailable (id : ResourceId) (name : String) : Bool :=
  (OrderedDict.items (node.resources .service)).all fun (other, session) =>
    other = id || session.name ≠ name || !session.isRunning .service

/-- What a synchronous create counts as in use: also the entries that have no
executor yet. -/
def countedByBlockingCreate (kind : ResourceKind) : Nat :=
  (((node.resources kind).values.filter (Resource.isRunning kind)).map
    Resource.workerCount).sum

def countedByBackgroundCreate (kind : ResourceKind) (id : ResourceId) : Nat :=
  (((OrderedDict.items (node.resources kind)).filter fun (other, resource) =>
    other ≠ id && resource.isRunning kind && resource.executorReady).map
      fun (_, resource) => resource.workerCount).sum

def failCreate (id : CreateId) (create : Create) (workers : Nat)
    (host : Option HostRef) (reason : String) (plan : List RollbackAction) :
    Node :=
  node.setCreate id { create with
    progress := .failing workers host reason plan }

def advanceCreate (id : CreateId) (create : Create)
    (progress : CreateProgress) : Node :=
  node.setCreate id { create with progress := progress }

/-- A call of `create_service` or `create_task_pool`; `none` where the name of
the service is taken. -/
def beginCreate (id : CreateId) (request : CreateRequest) : Option Node :=
  if id ∈ node.creates then none
  else if request.kind = .service ∧
      !node.serviceNameAvailable request.resourceId request.name then none
  else
    some (node.setCreate id
      { request := request
        progress := if request.waitReady then .preparing else .requested
        holding := 0 })

def acceptCreate (id : CreateId) (create : Create) : Node :=
  let request := create.request
  { (node.setEntry request.kind request.resourceId
      (request.skeleton node.nextRef)).advanceCreate id create .accepted with
    nextRef := node.nextRef + 1 }

def startCreate (id : CreateId) (create : Create) : Node :=
  let request := create.request
  match node.entry request.kind request.resourceId with
  | none =>
    node.failCreate id create request.workers none
      (cancelledMessage request.kind) [.markFailed]
  | some resource =>
    if resource.status = .stopped then
      node.failCreate id create request.workers none
        (cancelledMessage request.kind) [.markFailed]
    else
      (node.setEntry request.kind request.resourceId
        { resource with createStage := .artifactPrepare }).advanceCreate id
          create .preparing

/-- `_validate_artifact_methods` asks the executor host, if there is one. -/
def openClient (key : ResourceKind × ResourceId) (hosted : Bool) : Node :=
  match node.executorHost, hosted with
  | some host, true => node.setHost host ((node.hosts host).openClient key)
  | _, _ => node

theorem openClient_eq (key : ResourceKind × ResourceId) (hosted : Bool) :
    ∃ hosts, node.openClient key hosted = { node with hosts := hosts } := by
  unfold openClient
  split
  · exact ⟨_, rfl⟩
  · exact ⟨node.hosts, rfl⟩

def prepareCreate (id : CreateId) (create : Create) (hosted : Bool)
    (error : Option String) : Node :=
  let node := node.openClient
    (create.request.kind, create.request.resourceId) hosted
  match error with
  | some reason =>
    node.failCreate id create create.request.requestedWorkers none reason
      (prepareRollback create.request.waitReady)
  | none => node.advanceCreate id create .prepared

/-- The counting section.  A synchronous service create checks the name again,
an asynchronous create whether it was cancelled. -/
def countActiveWorkers (id : CreateId) (create : Create) : Node :=
  let request := create.request
  if request.waitReady then
    if request.kind = .service ∧
        !node.serviceNameAvailable request.resourceId request.name then
      node.advanceCreate id create .ended
    else
      node.advanceCreate id create
        (.counted (node.countedByBlockingCreate request.kind))
  else
    match node.entry request.kind request.resourceId with
    | none =>
      node.failCreate id create request.workers none
        (cancelledMessage request.kind) [.markFailed]
    | some resource =>
      if resource.status = .stopped then
        node.failCreate id create request.workers none
          (cancelledMessage request.kind) [.markFailed]
      else
        (node.setEntry request.kind request.resourceId
          { resource with
            codeVersion := request.codeVersion
            createStage := .executorCreate }).advanceCreate id
            create (.counted
              (node.countedByBackgroundCreate request.kind request.resourceId))

/-- The section of `_reserve_worker_slots_for_create`.  With no host the slots
are given back in a section of their own before it raises. -/
def reserveForCreate (id : CreateId) (create : Create) (activeWorkers : Nat) :
    Node :=
  let request := create.request
  let kind := request.kind
  let reservedWorkers := node.workerReserved kind
  match reserveWorkerSlots kind (node.workerCapacity kind) activeWorkers
      reservedWorkers request.requestedWorkers with
  | .error reason =>
    node.failCreate id create request.workers none reason
      (reserveRollback request.waitReady)
  | .ok workers =>
    let holder := { create with holding := workers }
    let node := node.setReserved kind (reservedWorkers + workers)
    match node.executorHost with
    | some host => node.advanceCreate id holder (.reserved workers host)
    | none =>
      node.failCreate id holder workers none "executor host unavailable"
        (.release :: reserveRollback request.waitReady)

def createExecutor (id : CreateId) (create : Create) (workers : Nat)
    (host : HostRef) (outcome : ExecutorOutcome) (error : String) :
    Option Node := do
  let request := create.request
  let state ← (node.hosts host).create (request.kind, request.resourceId) outcome
  let node := node.setHost host state
  if outcome.raises then
    some (node.failCreate id create workers (some host) error
      (skeletonRollback request.kind request.waitReady))
  else some (node.advanceCreate id create (.executorCreated workers host))

def publishBlocking (id : CreateId) (create : Create) (workers : Nat)
    (host : HostRef) : Node :=
  let request := create.request
  { (node.setEntry request.kind request.resourceId
      (request.session node.nextRef workers)).advanceCreate id create
        (.published workers host) with
    nextRef := node.nextRef + 1 }

/-- The publishing section of an asynchronous create; the managed globals are
set up at its end and may raise. -/
def publishBackground (id : CreateId) (create : Create) (workers : Nat)
    (host : HostRef) (error : Option String) : Node :=
  let request := create.request
  match node.entry request.kind request.resourceId with
  | none =>
    node.failCreate id create workers (some host)
      (cancelledMessage request.kind)
      (publishRollback request.kind request.waitReady)
  | some resource =>
    if resource.status = .stopped then
      node.failCreate id create workers (some host)
        (cancelledMessage request.kind)
        (publishRollback request.kind request.waitReady)
    else
      let node := node.setEntry request.kind request.resourceId
        (resource.announceExecutor request.kind request.codeVersion workers
          request.initialGlobals)
      match error with
      | some reason =>
        node.failCreate id create workers (some host) reason
          (publishRollback request.kind request.waitReady)
      | none => node.advanceCreate id create (.published workers host)

/-- `_release_reserved_worker_slots`; the clamp at zero hides a second
release. -/
def releaseReserved (kind : ResourceKind) (workers : Nat) : Node :=
  node.setReserved kind (node.workerReserved kind - workers)

def releaseAfterPublish (id : CreateId) (create : Create) (workers : Nat)
    (host : HostRef) : Node :=
  (node.releaseReserved create.request.kind workers).setCreate id
    { create with
      progress := if create.request.waitReady then .ended
        else .warming workers host
      holding := 0 }

def beginWarmup (create : Create) : Node :=
  let request := create.request
  match node.entry request.kind request.resourceId with
  | none => node
  | some resource =>
    node.setEntry request.kind request.resourceId
      { resource with createStage := .globalsWarmup }

/-- The last section of the asynchronous thread, which looks only at whether
the entry is there. -/
def finaliseCreate (id : CreateId) (create : Create) (workers : Nat)
    (host : HostRef) : Node :=
  let request := create.request
  match node.entry request.kind request.resourceId with
  | none =>
    node.failCreate id create workers (some host)
      (cancelledMessage request.kind) [.stopExecutor, .markFailed]
  | some resource =>
    (node.setEntry request.kind request.resourceId
      (resource.finalise workers)).advanceCreate id create .ended

def rollbackAction (request : CreateRequest) (workers : Nat)
    (host : Option HostRef) (reason : String) : RollbackAction → Node
  | .release => node.releaseReserved request.kind workers
  | .stopExecutor =>
    match host with
    | none => node
    | some host =>
      node.setHost host
        ((node.hosts host).stop (request.kind, request.resourceId))
  | .rememberFailed =>
    { node.setEntry request.kind request.resourceId
        (request.failedEntry node.nextRef workers reason) with
      nextRef := node.nextRef + 1 }
  | .markFailed =>
    match node.entry request.kind request.resourceId with
    | none => node
    | some resource =>
      node.setEntry request.kind request.resourceId
        (resource.markCreateFailed reason)
  | .publishFailure stage =>
    match node.entry request.kind request.resourceId with
    | none => node
    | some resource =>
      node.setEntry request.kind request.resourceId
        (resource.publishFailure stage)

/-- The slots a create holds after an action of its `except` block. -/
def holdingAfter (holding : Nat) : RollbackAction → Nat
  | .release => 0
  | .stopExecutor | .rememberFailed | .markFailed | .publishFailure _ => holding

def rollbackCreate (id : CreateId) (create : Create) (workers : Nat)
    (host : Option HostRef) (reason : String) : List RollbackAction → Node
  | [] => node.advanceCreate id create .ended
  | action :: rest =>
    (node.rollbackAction create.request workers host reason action).setCreate
      id { create with
        progress := .failing workers host reason rest
        holding := holdingAfter create.holding action }

/-- One step of a create; `none` where the create does not stand there. -/
def createStep (id : CreateId) (create : Create) (move : CreateMove) :
    Option Node :=
  match move, create.progress with
  | .accept, .requested => some (node.acceptCreate id create)
  | .start, .accepted => some (node.startCreate id create)
  | .prepare hosted error, .preparing =>
    some (node.prepareCreate id create hosted error)
  | .count, .prepared => some (node.countActiveWorkers id create)
  | .hostRaises error, .counted _ =>
    some (node.failCreate id create create.request.workers none error
      (reserveRollback create.request.waitReady))
  | .reserve, .counted activeWorkers =>
    some (node.reserveForCreate id create activeWorkers)
  | .createExecutor outcome error, .reserved workers host =>
    node.createExecutor id create workers host outcome error
  | .preloadRaises error, .executorCreated workers host =>
    some (node.failCreate id create workers (some host) error
      (skeletonRollback create.request.kind create.request.waitReady))
  | .publish error, .executorCreated workers host =>
    if create.request.waitReady then
      some (node.publishBlocking id create workers host)
    else some (node.publishBackground id create workers host error)
  | .release, .published workers host =>
    some (node.releaseAfterPublish id create workers host)
  | .beginWarmup, .warming _ _ =>
    if create.request.initialGlobals then some (node.beginWarmup create)
    else none
  | .warmupRaises error, .executorCreated workers host =>
    if create.request.waitReady then
      some (node.failCreate id create workers (some host) error
        (publishRollback create.request.kind create.request.waitReady))
    else none
  | .warmupRaises error, .warming workers host =>
    if create.request.initialGlobals then
      some (node.failCreate id create workers (some host) error
        [.stopExecutor, .markFailed])
    else none
  | .finalise, .warming workers host =>
    some (node.finaliseCreate id create workers host)
  | .rollback, .failing workers host reason plan =>
    some (node.rollbackCreate id create workers host reason plan)
  | _, _ => none

end Node

end PycloudParallel.NodeResources
