import PycloudParallel.NodeResourceCreate

/-!
# Executor host rebuilds, globals updates and the whole node

`_ensure_executor_host_alive` cut at its lock sections and backend calls,
`update_service_globals`, the cleanup executor and the pruning of old entries.
`step` interleaves all of them with the creates and the stops.
-/

namespace PycloudParallel.NodeResources

/-- A step of `_ensure_executor_host_alive`. -/
inductive RebuildMove
  /-- The first section finds the host dead. -/
  | start
  /-- `_create_executor_backend` returns or raises. -/
  | createBackend (raises : Bool)
  /-- The next restore target: preparing its artifact or creating its executor
  may raise. -/
  | restore (outcome : ExecutorOutcome) (error : String)
  | closeOld
  /-- The last section. -/
  | finish

/-- A step of `update_service_globals`. -/
inductive GlobalsMove
  /-- The first section. -/
  | start (ownerClientId : String) (serviceId : ResourceId) (token : String)
  /-- The warmup returns, or raises for another reason than a missing
  executor. -/
  | finish
  /-- The warmup finds no executor. -/
  | executorMissing
  | recreate (outcome : ExecutorOutcome)

inductive NodeLabel
  | beginCreate (id : CreateId) (request : CreateRequest)
  | create (id : CreateId) (move : CreateMove)
  | endService (ownerClientId : String) (id : ResourceId) (token reason : String)
  | closeTaskPool (ownerClientId : String) (id : ResourceId)
      (token reason : String)
  | heartbeatService (ownerClientId : String) (id : ResourceId) (token : String)
  | heartbeatTaskPool (ownerClientId : String) (id : ResourceId) (token : String)
  | serviceHealth (id : ResourceId) (leaseExpired : Bool)
  | taskPoolHealth (id : ResourceId) (leaseExpired : Bool)
  | reportedLiveness (kind : ResourceKind) (id : ResourceId) (aliveCount : Nat)
  | missingLiveness (kind : ResourceKind) (id : ResourceId)
  | workerPids (kind : ResourceKind) (id : ResourceId) (pids : Nat)
  | serviceDependencyFailure (id : ResourceId)
  | taskPoolDependencyFailure (id : ResourceId) (reason : String)
  | cleanup (stop : PendingStop)
  | rebuild (move : RebuildMove)
  | globals (id : UpdateId) (move : GlobalsMove)
  | prune (limit : Nat)

namespace Node

variable (node : Node)

def restoreTargetsOf (kind : ResourceKind) : List RestoreTarget :=
  ((OrderedDict.items (node.resources kind)).filter fun (_, resource) =>
    resource.serving).map fun (id, resource) => ⟨kind, id, resource.ref⟩

def executorRestoreTargetsLocked : List RestoreTarget :=
  node.restoreTargetsOf .service ++ node.restoreTargetsOf .taskPool

def startRebuild : Node :=
  { node with
    executorHost := none
    rebuild := some
      { oldHost := node.executorHost
        newHost := none
        targets := node.executorRestoreTargetsLocked
        results := []
        oldClosed := false } }

/-- `_create_executor_backend` raised: the old host comes back. -/
def abandonRebuild (rebuild : Rebuild) : Node :=
  { node with
    executorHost := node.executorHost.or rebuild.oldHost
    rebuild := none }

def createBackend (rebuild : Rebuild) : Node :=
  { node.setHost node.nextHost .fresh with
    rebuild := some { rebuild with newHost := some node.nextHost }
    nextHost := node.nextHost + 1 }

def restoreTarget (rebuild : Rebuild) (newHost : HostRef)
    (target : RestoreTarget) (rest : List RestoreTarget)
    (outcome : ExecutorOutcome) (error : String) : Option Node := do
  let state ← (node.hosts newHost).create (target.kind, target.resourceId) outcome
  let result := if outcome.raises then some error else none
  some { node.setHost newHost state with
    rebuild := some { rebuild with
      targets := rest
      results := rebuild.results ++ [(target, result)] } }

def closeOldHost (rebuild : Rebuild) : Node :=
  let node := match rebuild.oldHost with
    | none => node
    | some old => node.setHost old (node.hosts old).close
  { node with rebuild := some { rebuild with oldClosed := true } }

/-- What the last section does to the entry of one target, if it still is the
object the target was made from. -/
def applyRestored (target : RestoreTarget) (error : Option String) : Node :=
  match node.entry target.kind target.resourceId with
  | none => node
  | some resource =>
    if resource.ref ≠ target.ref then node
    else
      node.setEntry target.kind target.resourceId
        (resource.afterRestore error)

def applyAllRestored : List (RestoreTarget × Option String) → Node → Node
  | [], node => node
  | (target, error) :: rest, node =>
    applyAllRestored rest (node.applyRestored target error)

def finishRebuild (rebuild : Rebuild) (newHost : HostRef) : Node :=
  { applyAllRestored rebuild.results node with
    executorHost := some newHost
    rebuild := none }

def rebuildStep (move : RebuildMove) : Option Node :=
  match move, node.rebuild with
  | .start, none => some node.startRebuild
  | .createBackend raises, some rebuild =>
    match rebuild.newHost with
    | some _ => none
    | none =>
      if raises then some (node.abandonRebuild rebuild)
      else some (node.createBackend rebuild)
  | .restore outcome error, some rebuild =>
    match rebuild.newHost, rebuild.targets with
    | some newHost, target :: rest =>
      node.restoreTarget rebuild newHost target rest outcome error
    | _, _ => none
  | .closeOld, some rebuild =>
    match rebuild.newHost, rebuild.targets, rebuild.oldClosed with
    | some _, [], false => some (node.closeOldHost rebuild)
    | _, _, _ => none
  | .finish, some rebuild =>
    match rebuild.newHost, rebuild.oldClosed with
    | some newHost, true => some (node.finishRebuild rebuild newHost)
    | _, _ => none
  | _, _ => none

/-- The first section of `update_service_globals`.  Without a host or a serving
service nothing is left to do after it. -/
def startGlobalsUpdate (id : UpdateId) (ownerClientId : String)
    (serviceId : ResourceId) (token : String) : Option Node :=
  match node.entry .service serviceId with
  | none => none
  | some session =>
    if session.ownerClientId ≠ ownerClientId then none
    else if token = "" ∨ session.token ≠ token then none
    else
      match node.executorHost with
      | none => some node
      | some host =>
        if session.isRunning .service && session.executorReady then
          some { node with
            globalsUpdates := node.globalsUpdates.set id
              { serviceId := serviceId, host := host, recreate := false } }
        else some node

def endGlobalsUpdate (id : UpdateId) : Node :=
  { node with globalsUpdates := node.globalsUpdates.erase id }

/-- `create_service` on the host the first section read. -/
def recreateExecutor (id : UpdateId) (update : GlobalsUpdate)
    (outcome : ExecutorOutcome) : Option Node := do
  let state ← (node.hosts update.host).create (.service, update.serviceId) outcome
  some ((node.setHost update.host state).endGlobalsUpdate id)

def globalsStep (id : UpdateId) (move : GlobalsMove) : Option Node :=
  match move, node.globalsUpdates.lookup id with
  | .start ownerClientId serviceId token, none =>
    node.startGlobalsUpdate id ownerClientId serviceId token
  | .finish, some _ => some (node.endGlobalsUpdate id)
  | .executorMissing, some update =>
    if update.recreate || node.executorHost.isNone then none
    else
      some { node with
        globalsUpdates := node.globalsUpdates.set id
          { update with recreate := true } }
  | .recreate outcome, some update =>
    if update.recreate then node.recreateExecutor id update outcome else none
  | _, _ => none

def cleanupStep (stop : PendingStop) : Option Node :=
  if stop ∈ node.pendingStops then
    some { node.setHost stop.host ((node.hosts stop.host).stop stop.key) with
      pendingStops := node.pendingStops.erase stop }
  else none

/-- The ids of one kind that `_prune_inactive_resource_history_locked` drops:
the oldest of the inactive ones beyond the limit. -/
def prunedIds (kind : ResourceKind) (limit : Nat) : List ResourceId :=
  let inactive := ((OrderedDict.items (node.resources kind)).filter
    fun (_, resource) => !resource.isRunning kind).map Prod.fst
  inactive.take (inactive.length - limit)

def eraseEntry (kind : ResourceKind) (id : ResourceId) : Node :=
  { node with
    resources := Function.update node.resources kind
      ((node.resources kind).erase id) }

def eraseEntries (kind : ResourceKind) : List ResourceId → Node → Node
  | [], node => node
  | id :: rest, node => eraseEntries kind rest (node.eraseEntry kind id)

def pruneInactiveResourceHistoryLocked (limit : Nat) : Node :=
  eraseEntries .taskPool (node.prunedIds .taskPool limit)
    (eraseEntries .service (node.prunedIds .service limit) node)

def step : NodeLabel → Option Node
  | .beginCreate id request => node.beginCreate id request
  | .create id move =>
    match node.creates.lookup id with
    | none => none
    | some create => node.createStep id create move
  | .endService ownerClientId id token reason =>
    node.endService ownerClientId id token reason
  | .closeTaskPool ownerClientId id token reason =>
    node.closeTaskPool ownerClientId id token reason
  | .heartbeatService ownerClientId id token =>
    node.heartbeatService ownerClientId id token
  | .heartbeatTaskPool ownerClientId id token =>
    node.heartbeatTaskPool ownerClientId id token
  | .serviceHealth id leaseExpired =>
    node.handleServiceResourceHealthLocked id leaseExpired
  | .taskPoolHealth id leaseExpired =>
    node.handleTaskPoolResourceHealthLocked id leaseExpired
  | .reportedLiveness kind id aliveCount =>
    node.applyReportedLiveness kind id aliveCount
  | .missingLiveness kind id => node.applyMissingLiveness kind id
  | .workerPids kind id pids => some (node.executorWorkerPids kind id pids)
  | .serviceDependencyFailure id =>
    some (node.markServiceDependencyFailureLocked id)
  | .taskPoolDependencyFailure id reason =>
    some (node.markTaskPoolDependencyFailureLocked id reason)
  | .cleanup stop => node.cleanupStep stop
  | .rebuild move => node.rebuildStep move
  | .globals id move => node.globalsStep id move
  | .prune limit => some (node.pruneInactiveResourceHistoryLocked limit)

end Node

end PycloudParallel.NodeResources
