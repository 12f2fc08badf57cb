import PycloudParallel.FoundationGuardedRun
import PycloudParallel.NodeTableModel

/-!
# Queries of the node table

`list_nodes`, `list_selected_nodes`, `list_service_routes` and
`diagnose_service_routes`.  Each visits some nodes, marks the late ones of them
in place and answers from what it has marked.
-/

namespace PycloudParallel.NodeTable

open Texts DataRegistry
open NodeReports (serviceUnspecified serviceStarting serviceRunning
  serviceDraining serviceStopped)

variable {ε μ ρ : Type}

/-! ## Routes -/

inductive Exclusion (μ : Type)
  | nodeUnhealthy
  | nodeDrain
  | resourceNotRunning (status : ℕ)
  | resourceDegraded (reason resourceHealth statusText : String)
  | methodBlocked (reason method : String) (failure : μ)
  | notReady (reason readiness : String)

structure RouteSnapshot (ε μ ρ : Type) where
  isHealthy : Bool
  state : NodeState ε μ ρ
  service : NodeServiceState ε μ

namespace RouteSnapshot

variable (platform : Platform ε μ) (snapshot : RouteSnapshot ε μ ρ)

/-- `_effective_service_state_locked`, for a node that has just been marked. -/
def effectiveStatus : ℕ :=
  if snapshot.isHealthy = true then snapshot.service.status
  else serviceUnspecified

def effectiveAlive : ℤ :=
  if snapshot.isHealthy = true then snapshot.service.aliveWorkers else 0

def effectiveInFlight : ℤ :=
  if snapshot.isHealthy = true then snapshot.service.inFlight else 0

def leaseExpireAt (now : ℤ) : ℤ :=
  if snapshot.isHealthy = true then snapshot.service.leaseExpireAt else now

def statusText : String :=
  orElse snapshot.service.statusText
    (if snapshot.isHealthy = true then "" else "LOST")

def admissionExclusions : List (Exclusion μ) :=
  if isCallRoute snapshot.isHealthy snapshot.effectiveStatus
      snapshot.state.drain = true then []
  else
    (if snapshot.isHealthy = true then [] else [.nodeUnhealthy]) ++
    (if snapshot.state.drain = true then [.nodeDrain] else []) ++
    (if snapshot.effectiveStatus = serviceRunning then []
      else [.resourceNotRunning snapshot.effectiveStatus])

def reportedExclusions (method : String) : List (Exclusion μ) :=
  let service := snapshot.service
  let readiness := platform.casing.lower (strip service.readiness)
  let readinessReason := strip service.readinessReason
  let resourceHealth := platform.casing.lower (strip service.resourceHealth)
  let statusText := platform.casing.upper (strip service.statusText)
  let stopReason := strip service.stopReason
  let failing := service.methodFailures.keys ≠ []
  let degraded := resourceHealth ∈ ["failed", "stopped", "node_lost"] ∨
    (statusText = "DEGRADED" ∧ ¬failing) ∨
    (service.degraded = true ∧ ¬failing) ∨ stopReason ≠ ""
  let blocked :=
    if method = "" then none else service.methodFailures.lookup method
  (if degraded then
    [.resourceDegraded
      (orElse stopReason (orElse readinessReason
        (orElse resourceHealth "resource is degraded")))
      resourceHealth statusText]
  else []) ++
  (match blocked with
  | none => []
  | some failure =>
    [.methodBlocked (orElse (platform.failureReason failure)
      "method has reported failures on this route") method failure]) ++
  (if readiness ≠ "" ∧ readiness ≠ "ready" ∧
      ¬(failing ∧ readinessReason.startsWith "method dependency failure" = true)
    then [.notReady
      (orElse readinessReason ("readiness is " ++ readiness)) readiness]
  else [])

def exclusions (method : String) : List (Exclusion μ) :=
  snapshot.admissionExclusions ++ snapshot.reportedExclusions platform method

def admitted (scope method : String) : Bool :=
  if scope = "call" then (snapshot.exclusions platform method).isEmpty
  else if scope = "owner_command" ∨ scope = "exclusive_check" then
    isActive snapshot.isHealthy snapshot.effectiveStatus
  else isCallRoute snapshot.isHealthy snapshot.effectiveStatus false

def computedInFlight : ℤ :=
  let service := snapshot.service
  let received := max 0 service.receivedCount
  let returned := max 0 service.returnedCount
  if snapshot.isHealthy = false then 0
  else if 0 < received ∨ 0 < returned then max 0 (received - returned)
  else max 0 snapshot.effectiveInFlight

variable [LinearOrder ε]

def predictedBusy : ε :=
  let service := snapshot.service
  let ema :=
    if 10 ≤ max 0 service.emaSamples then
      max platform.zero service.emaChildInvokeMs
    else platform.zero
  let workers := max 1 snapshot.effectiveAlive
  if ema ≤ platform.zero then platform.ratio snapshot.computedInFlight workers
  else platform.scaledRatio snapshot.computedInFlight ema workers

end RouteSnapshot

structure ServiceRoute (ε μ : Type) where
  serviceName : String
  serviceId : String
  status : ℕ
  statusText : String
  resourceHealth : String
  readiness : String
  readinessReason : String
  methodFailures : OrderedDict String μ
  createStage : String
  operationId : String
  operationUpdatedAt : Option ℤ
  stopReason : String
  failureAt : Option ℤ
  policyId : String
  ownerClientId : String
  codeVersion : String
  entryModule : String
  entryCallable : String
  serializationMode : String
  nodeInstanceId : String
  nodeId : String
  controlAddr : String
  nodeHealthy : Bool
  nodeSchedulable : Bool
  nodeDrain : Bool
  acceptServiceDeploy : Bool
  stale : Bool
  workerCount : ℤ
  aliveWorkers : ℤ
  inFlight : ℤ
  reportedInFlight : ℤ
  receivedCount : ℤ
  returnedCount : ℤ
  emaChildInvokeMs : ε
  emaSamples : ℤ
  predictedBusy : ε
  leaseExpireAt : ℤ
  httpBaseUrl : String

section

variable [LinearOrder ε] (platform : Platform ε μ)

def RouteSnapshot.route (now : ℤ) (snapshot : RouteSnapshot ε μ ρ) :
    ServiceRoute ε μ :=
  let service := snapshot.service
  let state := snapshot.state
  { serviceName := service.serviceName
    serviceId := service.serviceId
    status := snapshot.effectiveStatus
    statusText := snapshot.statusText
    resourceHealth := orElse service.resourceHealth
      (if snapshot.effectiveStatus = serviceStopped then "stopped"
        else "running")
    readiness := service.readiness
    readinessReason := service.readinessReason
    methodFailures := service.methodFailures
    createStage := service.createStage
    operationId := service.operationId
    operationUpdatedAt := service.operationUpdatedAt
    stopReason := service.stopReason
    failureAt := service.failureAt
    policyId := NodeReports.normalizePolicyId platform.casing service.policyId
    ownerClientId := service.ownerClientId
    codeVersion := service.codeVersion
    entryModule := service.entryModule
    entryCallable := service.entryCallable
    serializationMode := service.serializationMode
    nodeInstanceId := state.nodeInstanceId
    nodeId := state.nodeId
    controlAddr := state.controlAddr
    nodeHealthy := snapshot.isHealthy
    nodeSchedulable := state.schedulable
    nodeDrain := state.drain
    acceptServiceDeploy := state.acceptServiceDeploy
    stale := !snapshot.isHealthy
    workerCount := service.workerCount
    aliveWorkers := snapshot.effectiveAlive
    inFlight := snapshot.computedInFlight
    reportedInFlight := max 0 service.inFlight
    receivedCount := max 0 service.receivedCount
    returnedCount := max 0 service.returnedCount
    emaChildInvokeMs := max platform.zero service.emaChildInvokeMs
    emaSamples := max 0 service.emaSamples
    predictedBusy := snapshot.predictedBusy platform
    leaseExpireAt := snapshot.leaseExpireAt now
    httpBaseUrl := service.httpBaseUrl }

def ServiceRoute.key (route : ServiceRoute ε μ) :
    String ×ₗ Bool ×ₗ Bool ×ₗ ε ×ₗ ℤ ×ₗ ℤ ×ₗ String ×ₗ String :=
  toLex (route.serviceName, toLex (!route.nodeHealthy,
    toLex (decide (route.status ≠ serviceRunning),
      toLex (route.predictedBusy, toLex (route.inFlight,
        toLex (-route.aliveWorkers, toLex (route.nodeId,
          route.serviceId)))))))

def ServiceRoute.before (first second : ServiceRoute ε μ) : Prop :=
  first.key ≤ second.key

instance : DecidableRel (ServiceRoute.before (ε := ε) (μ := μ)) :=
  fun first second => inferInstanceAs (Decidable (first.key ≤ second.key))

structure RouteDiagnosis (μ : Type) where
  excludedReasons : List (Exclusion μ)
  serviceName : String
  serviceId : String
  method : String
  status : ℕ
  statusText : String
  resourceHealth : String
  readiness : String
  readinessReason : String
  stopReason : String
  failureAt : Option ℤ
  methodFailures : OrderedDict String μ
  nodeInstanceId : String
  nodeId : String
  controlAddr : String
  nodeHealthy : Bool
  nodeSchedulable : Bool
  nodeDrain : Bool
  acceptServiceDeploy : Bool
  workerCount : ℤ
  aliveWorkers : ℤ
  inFlight : ℤ
  leaseExpireAt : ℤ
  stale : Bool
  httpBaseUrl : String

def RouteDiagnosis.included (row : RouteDiagnosis μ) : Bool :=
  row.excludedReasons.isEmpty

def RouteSnapshot.diagnosis (now : ℤ) (healthyOnly : Bool) (method : String)
    (snapshot : RouteSnapshot ε μ ρ) : RouteDiagnosis μ :=
  let service := snapshot.service
  let state := snapshot.state
  { excludedReasons :=
      if healthyOnly = true then snapshot.exclusions platform method else []
    serviceName := service.serviceName
    serviceId := service.serviceId
    method := method
    status := snapshot.effectiveStatus
    statusText := snapshot.statusText
    resourceHealth := service.resourceHealth
    readiness := service.readiness
    readinessReason := service.readinessReason
    stopReason := service.stopReason
    failureAt := service.failureAt
    methodFailures := service.methodFailures
    nodeInstanceId := state.nodeInstanceId
    nodeId := state.nodeId
    controlAddr := state.controlAddr
    nodeHealthy := snapshot.isHealthy
    nodeSchedulable := state.schedulable
    nodeDrain := state.drain
    acceptServiceDeploy := state.acceptServiceDeploy
    workerCount := service.workerCount
    aliveWorkers := snapshot.effectiveAlive
    inFlight := snapshot.effectiveInFlight
    leaseExpireAt := snapshot.leaseExpireAt now
    stale := !snapshot.isHealthy
    httpBaseUrl := service.httpBaseUrl }

def RouteDiagnosis.key (row : RouteDiagnosis μ) :
    Bool ×ₗ String ×ₗ String ×ₗ String :=
  toLex (!row.included, toLex (row.serviceName, toLex (row.nodeId,
    row.serviceId)))

def RouteDiagnosis.before (first second : RouteDiagnosis μ) : Prop :=
  first.key ≤ second.key

instance : DecidableRel (RouteDiagnosis.before (μ := μ)) :=
  fun first second => inferInstanceAs (Decidable (first.key ≤ second.key))

end

/-! ## Queries -/

inductive Query
  | listNodes (healthyOnly : Bool) (tags : List String) (limit : ℕ)
  | listSelectedNodes (healthyOnly : Bool) (tags : List String) (limit : ℕ)
      (nodeIds nodeInstanceIds : List String)
  | listServiceRoutes (serviceName : String) (healthyOnly : Bool) (limit : ℕ)
      (routeScope method : String)
  | diagnoseServiceRoutes (serviceName method : String) (healthyOnly : Bool)
      (limit : ℕ)

inductive Answer (ε μ ρ : Type)
  | nodes (listed : List (NodeState ε μ ρ))
  | ambiguous (nodeIds : List String)
  | routes (listed : List (ServiceRoute ε μ))
  | diagnosis (includedCount excludedCount : ℕ) (rows : List (RouteDiagnosis μ))

namespace InfoCenterState

variable (platform : Platform ε μ) (table : InfoCenterState ε μ ρ)

def candidateIds (serviceName : String) : List String :=
  if serviceName = "" then table.nodes.keys
  else platform.listing (table.servicesByName.members serviceName)

def strippedIds (ids : List String) : List String :=
  (ids.map strip).filter (· ≠ "")

/-- The nodes of `list_selected_nodes` by their node ids. -/
def instancesOf (nodeIds : List String) : List String :=
  (table.nodes.items.filter fun item =>
    strip item.2.nodeId ≠ "" ∧ strip item.2.nodeId ∈ strippedIds nodeIds).map
      Prod.fst

def visited : Query → List String
  | .listNodes _ _ _ => table.nodes.keys
  | .listSelectedNodes _ _ _ nodeIds nodeInstanceIds =>
    if strippedIds nodeInstanceIds ≠ [] then strippedIds nodeInstanceIds
    else if strippedIds nodeIds ≠ [] then table.instancesOf nodeIds
    else table.nodes.keys
  | .listServiceRoutes serviceName _ _ _ _
  | .diagnoseServiceRoutes serviceName _ _ _ =>
    table.candidateIds platform (strip serviceName)

def fence (now : ℤ) (ids : List String) : InfoCenterState ε μ ρ :=
  { table with
    nodes := table.nodes.mapValues fun id state =>
      if id ∈ ids then state.fenceIfStale table.leaseTtlSec now else state }

/-- Whether a node passes `healthy_only` and the tags. -/
def selects (now : ℤ) (healthyOnly : Bool) (tags : List String)
    (state : NodeState ε μ ρ) : Bool :=
  (!healthyOnly || state.isHealthy table.leaseTtlSec now) &&
    tags.all state.tags.contains

def cloneNode (now : ℤ) (state : NodeState ε μ ρ) : NodeState ε μ ρ :=
  { state with healthy := state.isHealthy table.leaseTtlSec now }

def rank (now : ℤ) (state : NodeState ε μ ρ) : Bool ×ₗ Bool ×ₗ Bool ×ₗ ℤ :=
  toLex (!state.isHealthy table.leaseTtlSec now, toLex (!state.schedulable,
    toLex (state.drain, -state.serviceWorkerAvailable)))

def rankedBefore (now : ℤ) (first second : NodeState ε μ ρ) : Prop :=
  table.rank now first ≤ table.rank now second

instance (now : ℤ) : DecidableRel (table.rankedBefore now) :=
  fun first second => inferInstanceAs
    (Decidable (table.rank now first ≤ table.rank now second))

/-- What `list_nodes` returns of the marked nodes. -/
def listedNodes (now : ℤ) (healthyOnly : Bool) (tags : List String)
    (limit : ℕ) : List (NodeState ε μ ρ) :=
  (((table.nodes.values.filter
    (table.selects now healthyOnly tags)).insertionSort
      (table.rankedBefore now)).take (max 1 limit)).map (table.cloneNode now)

def nodesByInstance (now : ℤ) (healthyOnly : Bool) (tags : List String)
    (limit : ℕ) (ids : List String) : List (NodeState ε μ ρ) :=
  (((ids.filterMap table.nodes.lookup).filter
    (table.selects now healthyOnly tags)).map
      (table.cloneNode now)).take (max 1 limit)

/-- What `list_selected_nodes` returns, or raises, by node ids. -/
def nodesById (now : ℤ) (healthyOnly : Bool) (tags : List String)
    (limit : ℕ) (nodeIds : List String) : Answer ε μ ρ :=
  let found := (table.nodes.values.filter fun state =>
    strip state.nodeId ∈ nodeIds).filter (table.selects now healthyOnly tags)
  let ofId := fun nodeId => found.filter fun state => strip state.nodeId = nodeId
  let duplicates := sortedNames (nodeIds.filter fun nodeId =>
    1 < (ofId nodeId).length)
  if duplicates ≠ [] then .ambiguous duplicates
  else .nodes ((nodeIds.filterMap fun nodeId =>
    ((ofId nodeId).head?).map (table.cloneNode now)).take (max 1 limit))

def snapshots (now : ℤ) (healthyOnly : Bool) (serviceName : String)
    (ids : List String) : List (RouteSnapshot ε μ ρ) :=
  (ids.filterMap table.nodes.lookup).flatMap fun state =>
    if healthyOnly = true ∧
        state.isHealthy table.leaseTtlSec now = false then []
    else (state.services.values.filter fun service =>
        serviceName = "" ∨ service.serviceName = serviceName).map fun service =>
      { isHealthy := state.isHealthy table.leaseTtlSec now
        state := state
        service := service }

variable [LinearOrder ε]

/-- The routes of `list_service_routes` before they are sorted and cut. -/
def serviceRoutes (now : ℤ) (healthyOnly : Bool)
    (scope method serviceName : String) : List (ServiceRoute ε μ) :=
  ((table.snapshots now healthyOnly serviceName
    (table.candidateIds platform serviceName)).filter fun snapshot =>
      !healthyOnly || snapshot.admitted platform scope method).map
        (RouteSnapshot.route platform now)

def answer (now : ℤ) : Query → Answer ε μ ρ
  | .listNodes healthyOnly tags limit =>
    .nodes (table.listedNodes now healthyOnly tags limit)
  | .listSelectedNodes healthyOnly tags limit nodeIds nodeInstanceIds =>
    if strippedIds nodeInstanceIds ≠ [] then
      .nodes (table.nodesByInstance now healthyOnly tags limit
        (strippedIds nodeInstanceIds))
    else if strippedIds nodeIds ≠ [] then
      table.nodesById now healthyOnly tags limit (strippedIds nodeIds)
    else .nodes (table.listedNodes now healthyOnly tags limit)
  | .listServiceRoutes serviceName healthyOnly limit routeScope method =>
    let scope := platform.casing.lower (strip (orElse routeScope "call"))
    .routes (((table.serviceRoutes platform now healthyOnly scope
      (strip method) (strip serviceName)).insertionSort
        ServiceRoute.before).take (max 1 limit))
  | .diagnoseServiceRoutes serviceName method healthyOnly limit =>
    let rows := (table.snapshots now false (strip serviceName)
      (table.candidateIds platform (strip serviceName))).map
        (RouteSnapshot.diagnosis platform now healthyOnly (strip method))
    .diagnosis (rows.filter RouteDiagnosis.included).length
      (rows.filter fun row => !row.included).length
      ((rows.insertionSort RouteDiagnosis.before).take (max 1 limit))

def queried (now : ℤ) (query : Query) : InfoCenterState ε μ ρ :=
  table.fence now (table.visited platform query)

def ask (now : ℤ) (query : Query) : Answer ε μ ρ :=
  (table.queried platform now query).answer platform now query

end InfoCenterState

inductive Operation (ε μ ρ : Type)
  | register (call : Registration ε μ ρ)
  | heartbeat (call : Heartbeat ε μ ρ)
  | markLost (nodeInstanceId reason : String)
  | updateProfile (endpoint : String) (change : ProfileChange)
  | updateProfileForInstance (nodeInstanceId : String) (change : ProfileChange)
  | updateSchedule (nodeInstanceId : String) (change : ScheduleChange)
  | query (query : Query)

def InfoCenterState.perform (platform : Platform ε μ) (now : ℤ)
    (table : InfoCenterState ε μ ρ) :
    Operation ε μ ρ → InfoCenterState ε μ ρ
  | .register call => (registerNodeRecord platform now call table).1
  | .heartbeat call => heartbeatRecord platform now call table
  | .markLost nodeInstanceId reason =>
    markNodeLost platform now nodeInstanceId reason table
  | .updateProfile endpoint change =>
    updateNodeProfile platform endpoint change table
  | .updateProfileForInstance nodeInstanceId change =>
    updateNodeProfileForInstance platform nodeInstanceId change table
  | .updateSchedule nodeInstanceId change =>
    updateNodeScheduleState platform nodeInstanceId change table
  | .query query => table.queried platform now query

/-- A new `InfoCenterState`, with the profiles of its file. -/
def InfoCenterState.initial (leaseTtlSec : ℤ)
    (profiles : OrderedDict String NodeProfile) : InfoCenterState ε μ ρ where
  leaseTtlSec := max 1 leaseTtlSec
  nodes := ∅
  servicesByName := ∅
  profiles := profiles
  dataRefs := ∅

def InfoCenterState.step (platform : Platform ε μ)
    (table : InfoCenterState ε μ ρ) (label : ℤ × Operation ε μ ρ) :
    Option (InfoCenterState ε μ ρ) :=
  some (table.perform platform label.1 label.2)

end PycloudParallel.NodeTable
