import PycloudParallel.FoundationOrderedDict
import PycloudParallel.FoundationTexts

/-!
# Reports of a node

A node builds a report of each service and task pool, its registrar cuts the
list of pools and sends both to the InfoCenter, which parses them into its
state, stamps failures and serialises them for clients, and a client parses
them again.  Of the records, the fields that a client can read are kept, and
what decides about them.

A time is an instant with an offset, and its text is read back as it is.
-/

namespace PycloudParallel.NodeReports

open Texts

variable {δ : Type}

structure Moment where
  instant : ℤ
  offset : ℤ
deriving DecidableEq

/-- `astimezone(timezone.utc)`. -/
def Moment.toUtc (moment : Moment) : Moment :=
  { moment with offset := 0 }

def normalizePolicyId (casing : Casing) (policyId : String) : String :=
  orElse (casing.lower (strip policyId)) "default_safe"

/-! ## The node -/

def serviceUnspecified : ℕ := 0
def serviceStarting : ℕ := 1
def serviceRunning : ℕ := 2
def serviceDraining : ℕ := 3
def serviceStopped : ℕ := 4

structure ServiceSession (δ : Type) where
  serviceId : String
  ownerClientId : String
  serviceName : String
  policyId : String
  codeVersion : String
  entryModule : String
  entryCallable : String
  serializationMode : String
  status : ℕ
  degraded : Bool
  workerCount : ℕ
  aliveWorkers : ℕ
  httpBaseUrl : String
  stopReason : String
  failureAt : Option Moment
  readiness : String
  readinessReason : String
  methodFailures : OrderedDict String δ
  createStage : String
  operationId : String
  operationUpdatedAt : Option Moment

def ServiceSession.isRunning (session : ServiceSession δ) : Prop :=
  session.status ∈ [serviceStarting, serviceRunning, serviceDraining]

instance (session : ServiceSession δ) : Decidable session.isRunning :=
  inferInstanceAs (Decidable (_ ∈ _))

def serviceStatusName (status : ℕ) : String :=
  match status with
  | 0 => "SERVICE_STATUS_UNSPECIFIED"
  | 1 => "SERVICE_STATUS_STARTING"
  | 2 => "SERVICE_STATUS_RUNNING"
  | 3 => "SERVICE_STATUS_DRAINING"
  | 4 => "SERVICE_STATUS_STOPPED"
  | other => toString other

def serviceReportStatusText (session : ServiceSession δ) : String :=
  if session.methodFailures.keys ≠ [] ∧ session.isRunning then "DEGRADED"
  else if session.degraded = true then "DEGRADED"
  else serviceStatusName session.status

def serviceResourceHealth (casing : Casing) (session : ServiceSession δ) :
    String :=
  if casing.lower (strip session.readiness) = "failed" then "failed"
  else if ¬session.isRunning then "stopped"
  else if strip session.stopReason ≠ "" then "failed"
  else if session.degraded = true ∨ session.methodFailures.keys ≠ [] then
    "degraded"
  else "running"

/-- What `build_service_report_payload` gives; the payload is sent as it is. -/
structure ServiceReport (δ : Type) where
  serviceName : String
  serviceId : String
  policyId : String
  ownerClientId : String
  codeVersion : String
  entryModule : String
  entryCallable : String
  serializationMode : String
  status : ℕ
  statusText : String
  resourceHealth : String
  workerCount : ℕ
  aliveWorkers : ℕ
  inFlight : ℕ
  failureAt : Option Moment
  httpBaseUrl : String
  stopReason : String
  degraded : Bool
  readiness : String
  readinessReason : String
  methodFailures : OrderedDict String δ
  createStage : String
  operationId : String
  operationUpdatedAt : Option Moment

def buildServiceReportPayload (casing : Casing) (session : ServiceSession δ)
    (inFlight : ℕ) : ServiceReport δ where
  serviceName := session.serviceName
  serviceId := session.serviceId
  policyId := normalizePolicyId casing session.policyId
  ownerClientId := session.ownerClientId
  codeVersion := session.codeVersion
  entryModule := session.entryModule
  entryCallable := session.entryCallable
  serializationMode := session.serializationMode
  status := session.status
  statusText := serviceReportStatusText session
  resourceHealth := serviceResourceHealth casing session
  workerCount := session.workerCount
  aliveWorkers := session.aliveWorkers
  inFlight := inFlight
  failureAt := session.failureAt
  httpBaseUrl := session.httpBaseUrl
  stopReason := session.stopReason
  degraded := session.degraded
  readiness := session.readiness
  readinessReason := session.readinessReason
  methodFailures := session.methodFailures
  createStage := session.createStage
  operationId := session.operationId
  operationUpdatedAt := session.operationUpdatedAt

/-- `timed`: there are timing metrics. -/
structure TaskPoolState (δ : Type) where
  poolId : String
  ownerClientId : String
  poolName : String
  codeVersion : String
  status : String
  degraded : Bool
  workerCount : ℕ
  aliveWorkers : ℕ
  taskCount : ℕ
  returnedCount : ℕ
  timed : Bool
  createdAt : Moment
  lastHeartbeatAt : Moment
  stopReason : String
  failureAt : Option Moment
  methodFailures : OrderedDict String δ
  readiness : String
  readinessReason : String
  createStage : String
  operationId : String
  operationUpdatedAt : Option Moment

def normalizeStatus (casing : Casing) (status : String) : String :=
  casing.upper (strip status)

def TaskPoolState.isRunning (casing : Casing) (pool : TaskPoolState δ) :
    Prop :=
  normalizeStatus casing pool.status = "RUNNING"

instance (casing : Casing) (pool : TaskPoolState δ) :
    Decidable (pool.isRunning casing) :=
  inferInstanceAs (Decidable (_ = _))

def taskPoolResourceHealth (casing : Casing) (pool : TaskPoolState δ) :
    String :=
  if casing.lower (strip pool.readiness) = "failed" then "failed"
  else if ¬pool.isRunning casing then "stopped"
  else if strip pool.stopReason ≠ "" then "failed"
  else if pool.degraded = true then "degraded"
  else "running"

structure NodeTaskPoolInfo (δ : Type) where
  poolId : String
  ownerClientId : String
  poolName : String
  codeVersion : String
  status : String
  resourceHealth : String
  degraded : Bool
  workerCount : ℕ
  aliveWorkers : ℕ
  taskCount : ℕ
  inflight : ℕ
  receivedCount : ℕ
  returnedCount : ℕ
  createdAt : Moment
  lastHeartbeatAt : Moment
  stopReason : String
  failureReason : String
  failureAt : Option Moment
  methodFailures : OrderedDict String δ
  readiness : String
  readinessReason : String
  createStage : String
  operationId : String
  operationUpdatedAt : Option Moment

def buildTaskPoolInfo (casing : Casing) (pool : TaskPoolState δ)
    (inFlight : ℕ) : NodeTaskPoolInfo δ where
  poolId := pool.poolId
  ownerClientId := pool.ownerClientId
  poolName := pool.poolName
  codeVersion := pool.codeVersion
  status :=
    if pool.isRunning casing ∧ pool.degraded = true then "DEGRADED"
    else pool.status
  resourceHealth := taskPoolResourceHealth casing pool
  degraded := pool.degraded
  workerCount := pool.workerCount
  aliveWorkers := if pool.isRunning casing then pool.aliveWorkers else 0
  taskCount := pool.taskCount
  inflight := inFlight
  receivedCount := pool.taskCount
  returnedCount := pool.returnedCount
  createdAt := pool.createdAt
  lastHeartbeatAt := pool.lastHeartbeatAt
  stopReason := pool.stopReason
  failureReason := pool.stopReason
  failureAt := pool.failureAt
  methodFailures := pool.methodFailures
  readiness := pool.readiness
  readinessReason := pool.readinessReason
  createStage := pool.createStage
  operationId := pool.operationId
  operationUpdatedAt := pool.operationUpdatedAt

/-- The services and pools of a node, each with its calls in flight.  The node
strips the ids of services, makes those of pools, and keeps both apart. -/
structure Inventory (δ : Type) where
  services : List (ServiceSession δ × ℕ)
  taskPools : List (TaskPoolState δ × ℕ)
  serviceIds : (services.map fun row => strip row.1.serviceId).Nodup
  poolIds : (taskPools.map fun row => strip row.1.poolId).Nodup

namespace Inventory

variable (casing : Casing) (inventory : Inventory δ)

def serviceReports : List (ServiceReport δ) :=
  inventory.services.map fun row =>
    buildServiceReportPayload casing row.1 row.2

def taskPoolReports : List (NodeTaskPoolInfo δ) :=
  (inventory.taskPools.filter fun row =>
    row.1.isRunning casing ∨ row.1.timed = true ∨
      strip row.1.stopReason ≠ "").map fun row =>
    buildTaskPoolInfo casing row.1 row.2

end Inventory

def maxRecentInactiveTaskPoolReports : ℕ := 32

def NodeTaskPoolInfo.Running (casing : Casing) (pool : NodeTaskPoolInfo δ) :
    Prop :=
  normalizeStatus casing pool.status = "RUNNING"

instance (casing : Casing) (pool : NodeTaskPoolInfo δ) :
    Decidable (pool.Running casing) :=
  inferInstanceAs (Decidable (_ = _))

def heartbeatLater (first second : NodeTaskPoolInfo δ) : Prop :=
  second.lastHeartbeatAt.instant ≤ first.lastHeartbeatAt.instant

instance : DecidableRel (heartbeatLater (δ := δ)) :=
  fun first second => inferInstanceAs
    (Decidable (second.lastHeartbeatAt.instant ≤ first.lastHeartbeatAt.instant))

def limitTaskPoolReports (casing : Casing)
    (reports : List (NodeTaskPoolInfo δ)) : List (NodeTaskPoolInfo δ) :=
  let running := reports.filter fun pool => pool.Running casing
  let inactive := reports.filter fun pool => ¬pool.Running casing
  running ++ (inactive.insertionSort heartbeatLater).take
    maxRecentInactiveTaskPoolReports

/-- The pool in the registrar's request, which has no `method_failures`; a key
that may be missing is an option. -/
structure TaskPoolPayload (δ : Type) where
  poolId : String
  ownerClientId : String
  poolName : String
  codeVersion : String
  status : String
  resourceHealth : String
  degraded : Bool
  workerCount : ℕ
  aliveWorkers : ℕ
  taskCount : ℕ
  inflight : ℕ
  receivedCount : ℕ
  returnedCount : ℕ
  stopReason : String
  failureReason : String
  failureAt : Option Moment
  methodFailures : Option (OrderedDict String δ)
  readiness : String
  readinessReason : String
  createStage : String
  operationId : String
  operationUpdatedAt : Option Moment
  createdAt : Moment
  lastHeartbeatAt : Moment

/-- The dictionary that `_register_once` and `_heartbeat_once` write out. -/
def taskPoolPayload (pool : NodeTaskPoolInfo δ) : TaskPoolPayload δ where
  poolId := pool.poolId
  ownerClientId := pool.ownerClientId
  poolName := pool.poolName
  codeVersion := pool.codeVersion
  status := pool.status
  resourceHealth := pool.resourceHealth
  degraded := pool.degraded
  workerCount := pool.workerCount
  aliveWorkers := pool.aliveWorkers
  taskCount := pool.taskCount
  inflight := pool.inflight
  receivedCount := pool.receivedCount
  returnedCount := pool.returnedCount
  stopReason := pool.stopReason
  failureReason := pool.failureReason
  failureAt := pool.failureAt
  methodFailures := none
  readiness := pool.readiness
  readinessReason := pool.readinessReason
  createStage := pool.createStage
  operationId := pool.operationId
  operationUpdatedAt := pool.operationUpdatedAt
  createdAt := pool.createdAt
  lastHeartbeatAt := pool.lastHeartbeatAt

/-! ## The InfoCenter -/

structure NodeServiceState (δ : Type) where
  serviceName : String
  serviceId : String
  status : ℕ
  policyId : String
  ownerClientId : String
  codeVersion : String
  entryModule : String
  entryCallable : String
  serializationMode : String
  statusText : String
  resourceHealth : String
  degraded : Bool
  workerCount : ℕ
  aliveWorkers : ℕ
  inFlight : ℕ
  httpBaseUrl : String
  stopReason : String
  failureAt : Option Moment
  readiness : String
  readinessReason : String
  methodFailures : OrderedDict String δ
  createStage : String
  operationId : String
  operationUpdatedAt : Option Moment

/-- `str(item.get("resource_health")) or ("degraded" if degraded else "")`. -/
def parsedHealth (resourceHealth : String) (degraded : Bool) : String :=
  orElse resourceHealth (if degraded = true then "degraded" else "")

def parseService (item : ServiceReport δ) : Option (NodeServiceState δ) :=
  if strip item.serviceId = "" ∨ strip item.serviceName = "" then none
  else some {
    serviceName := strip item.serviceName
    serviceId := strip item.serviceId
    status := item.status
    policyId := orElse item.policyId "default_safe"
    ownerClientId := item.ownerClientId
    codeVersion := item.codeVersion
    entryModule := item.entryModule
    entryCallable := item.entryCallable
    serializationMode := item.serializationMode
    statusText := item.statusText
    resourceHealth := parsedHealth item.resourceHealth item.degraded
    degraded := item.degraded
    workerCount := item.workerCount
    aliveWorkers := item.aliveWorkers
    inFlight := item.inFlight
    httpBaseUrl := item.httpBaseUrl
    stopReason := item.stopReason
    failureAt := item.failureAt.map Moment.toUtc
    readiness := item.readiness
    readinessReason := item.readinessReason
    methodFailures := item.methodFailures
    createStage := item.createStage
    operationId := item.operationId
    operationUpdatedAt := item.operationUpdatedAt.map Moment.toUtc }

def parseServices (payload : List (ServiceReport δ)) :
    OrderedDict String (NodeServiceState δ) :=
  (payload.filterMap parseService).foldl
    (fun out service => out.set service.serviceId service) ∅

/-- An entry of `_parse_task_pools`. -/
def parseTaskPool (item : TaskPoolPayload δ) : Option (NodeTaskPoolInfo δ) :=
  if strip item.poolId = "" then none
  else some {
    poolId := strip item.poolId
    ownerClientId := item.ownerClientId
    poolName := item.poolName
    codeVersion := item.codeVersion
    status := item.status
    resourceHealth := parsedHealth item.resourceHealth item.degraded
    degraded := item.degraded
    workerCount := item.workerCount
    aliveWorkers := item.aliveWorkers
    taskCount := item.taskCount
    inflight := item.inflight
    receivedCount := item.receivedCount
    returnedCount := item.returnedCount
    createdAt := item.createdAt.toUtc
    lastHeartbeatAt := item.lastHeartbeatAt.toUtc
    stopReason := item.stopReason
    failureReason := item.failureReason
    failureAt := item.failureAt.map Moment.toUtc
    methodFailures := item.methodFailures.getD ∅
    readiness := item.readiness
    readinessReason := item.readinessReason
    createStage := item.createStage
    operationId := item.operationId
    operationUpdatedAt := item.operationUpdatedAt.map Moment.toUtc }

def parseTaskPools (payload : List (TaskPoolPayload δ)) :
    OrderedDict String (NodeTaskPoolInfo δ) :=
  (payload.filterMap parseTaskPool).foldl
    (fun out pool => out.set pool.poolId pool) ∅

def stampedFailure (now : Moment) (reason : String)
    (failureAt : Option Moment) (earlier : Option (String × Option Moment)) :
    Option Moment :=
  if reason = "" then none
  else
    match failureAt with
    | some moment => some moment
    | none =>
      let noted := earlier.bind fun previous =>
        if previous.1 = reason then previous.2 else none
      some (noted.getD now)

def NodeServiceState.reason (service : NodeServiceState δ) : String :=
  strip service.stopReason

def NodeTaskPoolInfo.reason (pool : NodeTaskPoolInfo δ) : String :=
  strip (orElse pool.stopReason pool.failureReason)

/-- `_with_failure_timestamps` for services. -/
def stampServices (now : Moment)
    (previous incoming : OrderedDict String (NodeServiceState δ)) :
    OrderedDict String (NodeServiceState δ) :=
  incoming.items.foldl (fun out entry =>
    let earlier := (previous.lookup entry.1).map fun service =>
      (service.reason, service.failureAt)
    out.set entry.1 { entry.2 with
      failureAt := stampedFailure now entry.2.reason entry.2.failureAt
        earlier }) ∅

/-- `_with_failure_timestamps` for task pools. -/
def stampTaskPools (now : Moment)
    (previous incoming : OrderedDict String (NodeTaskPoolInfo δ)) :
    OrderedDict String (NodeTaskPoolInfo δ) :=
  incoming.items.foldl (fun out entry =>
    let earlier := (previous.lookup entry.1).map fun pool =>
      (pool.reason, pool.failureAt)
    out.set entry.1 { entry.2 with
      stopReason := entry.2.reason
      failureReason := entry.2.reason
      failureAt := stampedFailure now entry.2.reason entry.2.failureAt
        earlier }) ∅

/-- Of a `NodeState`, what the reports decide. -/
structure NodeState (δ : Type) where
  healthy : Bool
  services : OrderedDict String (NodeServiceState δ)
  taskPools : OrderedDict String (NodeTaskPoolInfo δ)

/-- The record of a node behind an accepted `register_node_record`, or behind
a `heartbeat_record` with the inventory. -/
def acceptInventory (now : Moment) (previous : Option (NodeState δ))
    (services : List (ServiceReport δ))
    (taskPools : List (TaskPoolPayload δ)) : NodeState δ where
  healthy := true
  services := stampServices now ((previous.map NodeState.services).getD ∅)
    (parseServices services)
  taskPools := stampTaskPools now ((previous.map NodeState.taskPools).getD ∅)
    (parseTaskPools taskPools)

def serviceStatusText (status : ℕ) : String :=
  match status with
  | 0 => "UNSPECIFIED"
  | 1 => "STARTING"
  | 2 => "RUNNING"
  | 3 => "DRAINING"
  | 4 => "STOPPED"
  | other => "UNKNOWN(" ++ toString other ++ ")"

def serviceResourceHealthText (nodeHealthy : Bool) (status : ℕ)
    (stopReason : String) : String :=
  if nodeHealthy = false then "node_lost"
  else if status = serviceStopped then "stopped"
  else if strip stopReason ≠ "" then "failed"
  else "running"

def taskPoolResourceHealthText (casing : Casing) (nodeHealthy : Bool)
    (status stopReason : String) (degraded : Bool) : String :=
  if nodeHealthy = false then "node_lost"
  else if normalizeStatus casing status = "STOPPED" then "stopped"
  else if strip stopReason ≠ "" then "failed"
  else if normalizeStatus casing status = "DEGRADED" ∨ degraded = true then
    "degraded"
  else "running"

/-! ## The clients -/

structure InfoCenterNodeService (δ : Type) where
  serviceName : String
  serviceId : String
  status : ℕ
  policyId : String
  ownerClientId : String
  codeVersion : String
  entryModule : String
  entryCallable : String
  serializationMode : String
  statusText : String
  resourceHealth : String
  workerCount : ℕ
  aliveWorkers : ℕ
  inFlight : ℕ
  httpBaseUrl : String
  stopReason : String
  failureAt : Option Moment
  readiness : String
  readinessReason : String
  methodFailures : OrderedDict String δ
  createStage : String
  operationId : String
  operationUpdatedAt : Option Moment

/-- What a client reads of a service: `_serialize_service` and the parser of
`_deserialize_infocenter_nodes`. -/
def readService (casing : Casing) (nodeHealthy : Bool)
    (service : NodeServiceState δ) : InfoCenterNodeService δ where
  serviceName := service.serviceName
  serviceId := service.serviceId
  status := service.status
  policyId := orElse (normalizePolicyId casing service.policyId) "default_safe"
  ownerClientId := service.ownerClientId
  codeVersion := service.codeVersion
  entryModule := service.entryModule
  entryCallable := service.entryCallable
  serializationMode := service.serializationMode
  statusText :=
    if nodeHealthy = false then "LOST" else serviceStatusText service.status
  resourceHealth :=
    serviceResourceHealthText nodeHealthy service.status service.stopReason
  workerCount := service.workerCount
  aliveWorkers := if nodeHealthy = true then service.aliveWorkers else 0
  inFlight := if nodeHealthy = true then service.inFlight else 0
  httpBaseUrl := service.httpBaseUrl
  stopReason := service.stopReason
  failureAt := service.failureAt.map Moment.toUtc
  readiness := service.readiness
  readinessReason := service.readinessReason
  methodFailures := service.methodFailures
  createStage := service.createStage
  operationId := service.operationId
  operationUpdatedAt := service.operationUpdatedAt.map Moment.toUtc

structure InfoCenterNodeTaskPool (δ : Type) where
  poolId : String
  ownerClientId : String
  poolName : String
  codeVersion : String
  status : String
  resourceHealth : String
  degraded : Bool
  workerCount : ℕ
  aliveWorkers : ℕ
  taskCount : ℕ
  inFlight : ℕ
  inflight : ℕ
  receivedCount : ℕ
  returnedCount : ℕ
  stopReason : String
  failureReason : String
  failureAt : Option Moment
  readiness : String
  readinessReason : String
  methodFailures : OrderedDict String δ
  createStage : String
  operationId : String
  operationUpdatedAt : Option Moment

/-- What a client reads of a pool: the entry in `_serialize_node`, which has no
`method_failures` either, and the parser. -/
def readTaskPool (casing : Casing) (nodeHealthy : Bool)
    (pool : NodeTaskPoolInfo δ) : InfoCenterNodeTaskPool δ where
  poolId := pool.poolId
  ownerClientId := pool.ownerClientId
  poolName := pool.poolName
  codeVersion := pool.codeVersion
  status := pool.status
  resourceHealth := orElse pool.resourceHealth
    (taskPoolResourceHealthText casing nodeHealthy pool.status
      (orElse pool.stopReason pool.failureReason) pool.degraded)
  degraded := pool.degraded
  workerCount := pool.workerCount
  aliveWorkers := if nodeHealthy = true then pool.aliveWorkers else 0
  taskCount := pool.taskCount
  inFlight := if nodeHealthy = true then pool.inflight else 0
  inflight := if nodeHealthy = true then pool.inflight else 0
  receivedCount := pool.receivedCount
  returnedCount := pool.returnedCount
  stopReason := orElse pool.stopReason pool.failureReason
  failureReason := pool.failureReason
  failureAt := pool.failureAt.map Moment.toUtc
  readiness := pool.readiness
  readinessReason := pool.readinessReason
  methodFailures := ∅
  createStage := pool.createStage
  operationId := pool.operationId
  operationUpdatedAt := pool.operationUpdatedAt.map Moment.toUtc

def serviceBefore (first second : NodeServiceState δ) : Prop :=
  first.serviceName < second.serviceName ∨
    (first.serviceName = second.serviceName ∧
      first.serviceId ≤ second.serviceId)

instance : DecidableRel (serviceBefore (δ := δ)) :=
  fun _ _ => inferInstanceAs (Decidable (_ ∨ (_ ∧ _)))

def poolLater (first second : NodeTaskPoolInfo δ) : Prop :=
  second.createdAt.instant < first.createdAt.instant ∨
    (second.createdAt.instant = first.createdAt.instant ∧
      (second.poolName < first.poolName ∨
        (second.poolName = first.poolName ∧ second.poolId ≤ first.poolId)))

instance : DecidableRel (poolLater (δ := δ)) :=
  fun _ _ => inferInstanceAs (Decidable (_ ∨ (_ ∧ (_ ∨ (_ ∧ _)))))

/-- The services and pools of an `InfoCenterNode`. -/
structure InfoCenterNode (δ : Type) where
  services : List (InfoCenterNodeService δ)
  taskPools : List (InfoCenterNodeTaskPool δ)

/-- The node in `list_nodes`. -/
def readNode (casing : Casing) (nodeHealthy : Bool) (state : NodeState δ) :
    InfoCenterNode δ where
  services := (state.services.values.insertionSort serviceBefore).map
    (readService casing nodeHealthy)
  taskPools := (state.taskPools.values.insertionSort poolLater).map
    (readTaskPool casing nodeHealthy)

/-- The node in `list_nodes` behind an accepted register or heartbeat with its
inventory, while it is healthy. -/
def reportedNode (casing : Casing) (now : Moment)
    (previous : Option (NodeState δ)) (inventory : Inventory δ) :
    InfoCenterNode δ :=
  let pools := limitTaskPoolReports casing (inventory.taskPoolReports casing)
  readNode casing true (acceptInventory now previous
    (inventory.serviceReports casing) (pools.map taskPoolPayload))

end PycloudParallel.NodeReports
