import Mathlib.Data.Prod.Lex
import PycloudParallel.DataRegistryModel
import PycloudParallel.FoundationSetIndex
import PycloudParallel.NodeReportsModel

/-!
# The node table of the InfoCenter

`InfoCenterState`: the nodes that register and send heartbeats, an index of them
by the names of their services, and the managed profiles.  A query marks the
nodes it visits whose heartbeat is late before it reads them.  Times are
microseconds.

Of a node, what the operations decide by or compute is kept field by field, and
what they only pass on (capacity, metrics, task pools, capability) as `rest`.
The arithmetic of floats, the reading of an address and the order in which a
set is listed are parameters.
-/

namespace PycloudParallel.NodeTable

open Texts DataRegistry
open NodeReports (serviceUnspecified serviceStarting serviceRunning
  serviceDraining serviceStopped)

variable {ε μ ρ : Type}

structure NodeServiceState (ε μ : Type) where
  serviceName : String
  serviceId : String
  status : ℕ
  policyId : String
  ownerClientId : String
  codeVersion : String
  entryModule : String
  entryCallable : String
  serializationMode : String
  statusText : String
  resourceHealth : String
  degraded : Bool
  workerCount : ℤ
  aliveWorkers : ℤ
  inFlight : ℤ
  receivedCount : ℤ
  returnedCount : ℤ
  emaChildInvokeMs : ε
  emaSamples : ℤ
  createdAt : Option ℤ
  leaseExpireAt : ℤ
  httpBaseUrl : String
  stopReason : String
  failureAt : Option ℤ
  readiness : String
  readinessReason : String
  methodFailures : OrderedDict String μ
  createStage : String
  operationId : String
  operationUpdatedAt : Option ℤ

structure NodeState (ε μ ρ : Type) where
  nodeInstanceId : String
  nodeId : String
  controlAddr : String
  tags : List String
  profileKey : String
  managedTags : List String
  capabilityTags : List String
  legacyNodeTags : List String
  profileEnabled : Bool
  profileNotes : String
  pythonVersion : String
  metadata : OrderedDict String String
  healthy : Bool
  lastSeenAt : ℤ
  services : OrderedDict String (NodeServiceState ε μ)
  serviceWorkerCapacity : ℤ
  serviceWorkerUsed : ℤ
  acceptServiceDeploy : Bool
  schedulable : Bool
  drain : Bool
  reason : String
  rest : ρ

structure NodeProfile where
  managedTags : List String
  enabled : Bool
  drain : Bool
  notes : String

structure InfoCenterState (ε μ ρ : Type) where
  leaseTtlSec : ℤ
  nodes : OrderedDict String (NodeState ε μ ρ)
  servicesByName : SetIndex String String
  profiles : OrderedDict String NodeProfile
  dataRefs : DataRefs

/-- What the operations take from outside: `str.lower` and its like,
`_endpoint_from_url_or_addr`, the busy score of a route, the `reason` of a
method failure, and the listing of a set. -/
structure Platform (ε μ : Type) where
  casing : Casing
  isDigit : String → Bool
  endpoint : String → String × ℤ
  zero : ε
  ratio : ℤ → ℤ → ε
  scaledRatio : ℤ → ε → ℤ → ε
  failureReason : μ → String
  listing : Finset String → List String
  listing_nodup : ∀ names, (listing names).Nodup
  mem_listing : ∀ names name, name ∈ listing names ↔ name ∈ names

def coerceBool (casing : Casing) (value : Option String) (fallback : Bool) :
    Bool :=
  match value with
  | none => fallback
  | some value =>
    let text := casing.lower (strip value)
    if text ∈ ["1", "true", "yes", "y", "on"] then true
    else if text ∈ ["0", "false", "no", "n", "off"] then false
    else fallback

def isStartupService (casing : Casing) (metadata : OrderedDict String String) :
    Bool :=
  coerceBool casing (metadata.lookup "startup_service") false

def normalizeNodeProfileKey (platform : Platform ε μ) (value : String) :
    String :=
  let endpoint := platform.endpoint value
  if endpoint.1 = "" ∨ endpoint.2 ≤ 0 then ""
  else endpoint.1 ++ ":" ++ toString endpoint.2

def startupServiceEndpoint (platform : Platform ε μ) (controlAddr : String)
    (service : NodeServiceState ε μ) : String × ℤ :=
  let endpoint := platform.endpoint service.httpBaseUrl
  if 0 < endpoint.2 then endpoint else platform.endpoint controlAddr

def wildcardHosts : List String := ["", "0.0.0.0", "::", "[::]"]

def endpointMatches (left right : String × ℤ) : Bool :=
  if left.2 ≤ 0 ∨ right.2 ≤ 0 ∨ left.2 ≠ right.2 then false
  else if left.1 ∈ wildcardHosts ∨ right.1 ∈ wildcardHosts then true
  else left.1 = right.1

def activeServiceStatuses : List ℕ :=
  [serviceStarting, serviceRunning, serviceDraining]

def isCallRoute (healthy : Bool) (status : ℕ) (nodeDrain : Bool) : Bool :=
  healthy && status = serviceRunning && !nodeDrain

/-- `is_owner_target` and `is_conflict_scope`. -/
def isActive (healthy : Bool) (status : ℕ) : Bool :=
  healthy && activeServiceStatuses.contains status

/-! ## One node -/

namespace NodeState

variable (platform : Platform ε μ) (state : NodeState ε μ ρ)

def fresh (nodeInstanceId nodeId controlAddr pythonVersion : String)
    (now : ℤ) (rest : ρ) : NodeState ε μ ρ where
  nodeInstanceId := nodeInstanceId
  nodeId := nodeId
  controlAddr := controlAddr
  tags := []
  profileKey := ""
  managedTags := []
  capabilityTags := []
  legacyNodeTags := []
  profileEnabled := true
  profileNotes := ""
  pythonVersion := strip pythonVersion
  metadata := ∅
  healthy := true
  lastSeenAt := now
  services := ∅
  serviceWorkerCapacity := 0
  serviceWorkerUsed := 0
  acceptServiceDeploy := true
  schedulable := true
  drain := false
  reason := ""
  rest := rest

def serviceWorkerAvailable : ℤ :=
  max 0 (max 0 state.serviceWorkerCapacity - max 0 state.serviceWorkerUsed)

def isStale (leaseTtlSec now : ℤ) : Prop :=
  leaseTtlSec * secondTicks < now - state.lastSeenAt

instance (leaseTtlSec now : ℤ) : Decidable (state.isStale leaseTtlSec now) :=
  inferInstanceAs (Decidable (_ < _))

def isHealthy (leaseTtlSec now : ℤ) : Bool :=
  state.healthy && decide ¬state.isStale leaseTtlSec now

def fenceIfStale (leaseTtlSec now : ℤ) : NodeState ε μ ρ :=
  if state.isStale leaseTtlSec now then
    { state with
      healthy := false
      schedulable := false
      reason := orElse state.reason "node heartbeat timeout" }
  else state

def serviceNames : List String :=
  ((state.services.values.map fun service =>
    strip service.serviceName).filter (· ≠ "")).dedup

def capabilityTagsOf : List String :=
  let major := String.ofList
    ((strip state.pythonVersion).toList.takeWhile (· ≠ '.'))
  let component := strip ((state.metadata.lookup "component").getD "")
  sortedNames ["runtime:py3",
    if platform.isDigit major = true then "python:" ++ major ++ ".x"
    else "python:3.x",
    if component = "job-orchestrator" ∨ state.acceptServiceDeploy = false then
      "role:job"
    else "role:compute"]

def disabledReason : String := "disabled by managed node profile"

/-- What a profile makes of `drain`, `schedulable` and `reason`. -/
def withProfile (profile : NodeProfile) : NodeState ε μ ρ :=
  let drained := { state with drain := profile.drain }
  if profile.enabled = false then
    { drained with
      schedulable := false
      reason := orElse state.reason disabledReason }
  else if state.reason = disabledReason then
    { drained with schedulable := true, reason := "" }
  else drained

def applyProfile (profiles : OrderedDict String NodeProfile)
    (registrationTags : Option (List String)) : NodeState ε μ ρ :=
  let profileKey := normalizeNodeProfileKey platform state.controlAddr
  let legacyNodeTags :=
    (registrationTags.map sortedNames).getD state.legacyNodeTags
  let profile := if profileKey = "" then none else profiles.lookup profileKey
  let managedTags := (profile.map NodeProfile.managedTags).getD []
  let capabilityTags := state.capabilityTagsOf platform
  let tagged := { state with
    profileKey := profileKey
    legacyNodeTags := legacyNodeTags
    managedTags := managedTags
    profileEnabled := (profile.map NodeProfile.enabled).getD true
    profileNotes := (profile.map NodeProfile.notes).getD ""
    capabilityTags := capabilityTags
    tags := sortedNames (capabilityTags ++ managedTags ++ legacyNodeTags) }
  match profile with
  | none => tagged
  | some profile => tagged.withProfile profile

end NodeState

def profileOf (platform : Platform ε μ)
    (profiles : OrderedDict String NodeProfile) (controlAddr : String) :
    Option NodeProfile :=
  if normalizeNodeProfileKey platform controlAddr = "" then none
  else profiles.lookup (normalizeNodeProfileKey platform controlAddr)

namespace NodeState

variable {platform : Platform ε μ} {state : NodeState ε μ ρ}
  {profiles : OrderedDict String NodeProfile}
  {registrationTags : Option (List String)}

def profiledReason (profile : Option NodeProfile) (reason : String) : String :=
  match profile with
  | none => reason
  | some profile =>
    if profile.enabled = false then orElse reason disabledReason
    else if reason = disabledReason then "" else reason

def profiledSchedulable (profile : Option NodeProfile) (schedulable : Bool)
    (reason : String) : Bool :=
  match profile with
  | none => schedulable
  | some profile =>
    if profile.enabled = false then false
    else if reason = disabledReason then true else schedulable

def tagged (platform : Platform ε μ) (profile : Option NodeProfile)
    (registrationTags : Option (List String)) (state : NodeState ε μ ρ) :
    NodeState ε μ ρ :=
  let legacyNodeTags :=
    (registrationTags.map sortedNames).getD state.legacyNodeTags
  let managedTags := (profile.map NodeProfile.managedTags).getD []
  let capabilityTags := state.capabilityTagsOf platform
  { state with
    profileKey := normalizeNodeProfileKey platform state.controlAddr
    legacyNodeTags := legacyNodeTags
    managedTags := managedTags
    profileEnabled := (profile.map NodeProfile.enabled).getD true
    profileNotes := (profile.map NodeProfile.notes).getD ""
    capabilityTags := capabilityTags
    tags := sortedNames (capabilityTags ++ managedTags ++ legacyNodeTags) }

theorem withProfile_eq (profile : NodeProfile) :
    state.withProfile profile = { state with
      drain := profile.drain
      schedulable := profiledSchedulable (some profile) state.schedulable
        state.reason
      reason := profiledReason (some profile) state.reason } := by
  unfold withProfile profiledSchedulable profiledReason
  by_cases henabled : profile.enabled = false
  · simp only [if_pos henabled]
  · by_cases hnoted : state.reason = disabledReason
    · simp only [if_neg henabled, if_pos hnoted]
    · simp only [if_neg henabled, if_neg hnoted]

theorem applyProfile_eq {profile : Option NodeProfile}
    (hprofile : profileOf platform profiles state.controlAddr = profile) :
    state.applyProfile platform profiles registrationTags =
      { state.tagged platform profile registrationTags with
        drain := (profile.map NodeProfile.drain).getD state.drain
        schedulable :=
          profiledSchedulable profile state.schedulable state.reason
        reason := profiledReason profile state.reason } := by
  unfold profileOf at hprofile
  cases profile with
  | none => simp only [applyProfile, hprofile, tagged, profiledSchedulable,
      profiledReason, Option.map_none, Option.getD_none]
  | some profile => simp only [applyProfile, hprofile, tagged, withProfile_eq,
      Option.map_some, Option.getD_some]

theorem applyProfile_reason :
    (state.applyProfile platform profiles registrationTags).reason =
      profiledReason (profileOf platform profiles state.controlAddr)
        state.reason := by
  rw [applyProfile_eq rfl]

theorem applyProfile_schedulable :
    (state.applyProfile platform profiles registrationTags).schedulable =
      profiledSchedulable (profileOf platform profiles state.controlAddr)
        state.schedulable state.reason := by
  rw [applyProfile_eq rfl]

theorem applyProfile_healthy :
    (state.applyProfile platform profiles registrationTags).healthy =
      state.healthy := by
  simp only [applyProfile_eq rfl, tagged]

theorem applyProfile_lastSeenAt :
    (state.applyProfile platform profiles registrationTags).lastSeenAt =
      state.lastSeenAt := by
  simp only [applyProfile_eq rfl, tagged]

theorem applyProfile_controlAddr :
    (state.applyProfile platform profiles registrationTags).controlAddr =
      state.controlAddr := by
  simp only [applyProfile_eq rfl, tagged]

theorem applyProfile_nodeInstanceId :
    (state.applyProfile platform profiles registrationTags).nodeInstanceId =
      state.nodeInstanceId := by
  simp only [applyProfile_eq rfl, tagged]

theorem applyProfile_services :
    (state.applyProfile platform profiles registrationTags).services =
      state.services := by
  simp only [applyProfile_eq rfl, tagged]

end NodeState

/-- A service of `_with_failure_timestamps`. -/
def stampService (now : ℤ) (previous : Option (NodeServiceState ε μ))
    (service : NodeServiceState ε μ) : NodeServiceState ε μ :=
  let reason := strip service.stopReason
  let previousReason :=
    (previous.map fun known => strip known.stopReason).getD ""
  let noted :=
    if service.failureAt = none ∧ previousReason = reason then
      previous.bind NodeServiceState.failureAt
    else service.failureAt
  { service with
    createdAt := service.createdAt <|> previous.bind NodeServiceState.createdAt
    failureAt := if reason = "" then none else some (noted.getD now) }

def withFailureTimestamps (now : ℤ)
    (previous incoming : OrderedDict String (NodeServiceState ε μ)) :
    OrderedDict String (NodeServiceState ε μ) :=
  incoming.mapValues fun serviceId service =>
    stampService now (previous.lookup serviceId) service

/-- `_remove_node_services_index_locked` with the names of the node. -/
def removeServicesIndex (state : NodeState ε μ ρ)
    (servicesByName : SetIndex String String) : SetIndex String String :=
  if strip state.nodeInstanceId = "" then servicesByName
  else servicesByName.discardAll (strip state.nodeInstanceId)
    state.serviceNames

def reindexServices (state : NodeState ε μ ρ) (previousNames : List String)
    (servicesByName : SetIndex String String) : SetIndex String String :=
  if strip state.nodeInstanceId = "" then servicesByName
  else (servicesByName.discardAll (strip state.nodeInstanceId)
    previousNames).insertAll (strip state.nodeInstanceId) state.serviceNames

def dropNodes (keys : List String) (table : InfoCenterState ε μ ρ) :
    InfoCenterState ε μ ρ :=
  keys.foldl (fun out key =>
    match out.nodes.lookup key with
    | none => out
    | some state => { out with
        nodes := out.nodes.erase key
        servicesByName := removeServicesIndex state out.servicesByName }) table

/-! ## Registration -/

inductive RegistrationError
  | instanceIdRequired
  | nameInRegistration (name : String)
  | nameExists (name : String)
deriving DecidableEq

def RegistrationError.message : RegistrationError → String
  | .instanceIdRequired => "node_instance_id is required"
  | .nameInRegistration name =>
    "startup service_name already exists in node registration: " ++ name
  | .nameExists name => "startup service_name already exists: " ++ name

/-- The arguments of `register_node_record`; `rest` is what it makes of the
other ones, behind what was known. -/
structure Registration (ε μ ρ : Type) where
  nodeInstanceId : String
  nodeId : String
  controlAddr : String
  tags : List String
  metadata : OrderedDict String String
  services : OrderedDict String (NodeServiceState ε μ)
  serviceWorkerCapacity : ℤ
  serviceWorkerUsed : ℤ
  acceptServiceDeploy : Bool
  pythonVersion : String
  rest : Option ρ → ρ

def Registration.instanceId (call : Registration ε μ ρ) : String :=
  strip (orElse call.nodeInstanceId call.nodeId)

variable (platform : Platform ε μ)

def replacedKeys (nodeInstanceId controlAddr : String)
    (table : InfoCenterState ε μ ρ) : List String :=
  if nodeInstanceId = "" ∨ strip controlAddr = "" then []
  else
    let incomingKey := normalizeNodeProfileKey platform (strip controlAddr)
    (table.nodes.items.filter fun item =>
      item.1 ≠ nodeInstanceId ∧
        (strip item.2.controlAddr = strip controlAddr ∨
          (incomingKey ≠ "" ∧
            normalizeNodeProfileKey platform item.2.controlAddr =
              incomingKey))).map Prod.fst

def incomingByName (services : List (NodeServiceState ε μ))
    (known : OrderedDict String (NodeServiceState ε μ)) :
    Except RegistrationError (OrderedDict String (NodeServiceState ε μ)) :=
  match services with
  | [] => .ok known
  | service :: rest =>
    let name := strip service.serviceName
    if isActive true service.status = false ∨ name = "" then
      incomingByName rest known
    else
      match known.lookup name with
      | none => incomingByName rest (known.set name service)
      | some existing =>
        if strip existing.serviceId ≠ strip service.serviceId then
          .error (.nameInRegistration name)
        else incomingByName rest (known.set name service)

/-- Whether a node is replaced because of its first service with an incoming
name. -/
def startupReplaced (controlAddr : String)
    (incoming : OrderedDict String (NodeServiceState ε μ))
    (state : NodeState ε μ ρ) :
    List (NodeServiceState ε μ) → Except RegistrationError Bool
  | [] => .ok false
  | service :: rest =>
    let name := strip service.serviceName
    if isActive true service.status = false then
      startupReplaced controlAddr incoming state rest
    else
      match incoming.lookup name with
      | none => startupReplaced controlAddr incoming state rest
      | some asked =>
        if isStartupService platform.casing state.metadata = false then
          .error (.nameExists name)
        else if endpointMatches
            (startupServiceEndpoint platform controlAddr asked)
            (startupServiceEndpoint platform state.controlAddr service) =
              false then
          .error (.nameExists name)
        else .ok true

/-- The keys of the nodes that `_validate_startup_service_names_locked`
replaces, of the healthy ones but the caller. -/
def startupReplacedKeys (now leaseTtlSec : ℤ)
    (nodeInstanceId controlAddr : String)
    (incoming : OrderedDict String (NodeServiceState ε μ)) :
    List (String × NodeState ε μ ρ) → Except RegistrationError (List String)
  | [] => .ok []
  | (key, state) :: rest =>
    if key = nodeInstanceId ∨ state.isHealthy leaseTtlSec now = false then
      startupReplacedKeys now leaseTtlSec nodeInstanceId controlAddr incoming
        rest
    else
      match startupReplaced platform controlAddr incoming state
          state.services.values with
      | .error error => .error error
      | .ok replaced =>
        match startupReplacedKeys now leaseTtlSec nodeInstanceId controlAddr
            incoming rest with
        | .error error => .error error
        | .ok keys => .ok (if replaced = true then key :: keys else keys)

/-- `_validate_startup_service_names_locked`, with the keys that it drops. -/
def validateStartupServiceNames (now : ℤ) (call : Registration ε μ ρ)
    (table : InfoCenterState ε μ ρ) :
    Except RegistrationError (List String) :=
  if isStartupService platform.casing call.metadata = false then .ok []
  else
    match incomingByName call.services.values ∅ with
    | .error error => .error error
    | .ok incoming =>
      if incoming.keys = [] then .ok []
      else startupReplacedKeys platform now table.leaseTtlSec call.instanceId
        call.controlAddr incoming table.nodes.items

def boundedUsed (used capacity : ℤ) : ℤ :=
  max 0 (min used (intOr capacity used))

def registeredNode (now : ℤ) (call : Registration ε μ ρ)
    (known : Option (NodeState ε μ ρ))
    (profiles : OrderedDict String NodeProfile) : NodeState ε μ ρ :=
  let state := known.getD (.fresh call.instanceId call.nodeId call.controlAddr
    call.pythonVersion now (call.rest none))
  let capacity := max 0 call.serviceWorkerCapacity
  NodeState.applyProfile platform { state with
    nodeInstanceId := call.instanceId
    nodeId := orElse (strip (orElse call.nodeId state.nodeId)) call.instanceId
    controlAddr := call.controlAddr
    legacyNodeTags := sortedNames call.tags
    pythonVersion := strip (orElse call.pythonVersion state.pythonVersion)
    metadata := call.metadata
    healthy := true
    lastSeenAt := now
    services := withFailureTimestamps now state.services call.services
    serviceWorkerCapacity := capacity
    serviceWorkerUsed := boundedUsed call.serviceWorkerUsed capacity
    acceptServiceDeploy := call.acceptServiceDeploy
    rest := call.rest (known.map NodeState.rest) } profiles (some call.tags)

/-- `register_node_record`: the state behind the call and what it returns or
raises. -/
def registerNodeRecord (now : ℤ) (call : Registration ε μ ρ)
    (table : InfoCenterState ε μ ρ) :
    InfoCenterState ε μ ρ × Except RegistrationError (NodeState ε μ ρ) :=
  if call.instanceId = "" then (table, .error .instanceIdRequired)
  else
    let pruned := dropNodes
      (replacedKeys platform call.instanceId call.controlAddr table) table
    match validateStartupServiceNames platform now call pruned with
    | .error error => (pruned, .error error)
    | .ok keys =>
      let cleared := dropNodes keys pruned
      let known := cleared.nodes.lookup call.instanceId
      let state := registeredNode platform now call known cleared.profiles
      ({ cleared with
        nodes := cleared.nodes.set call.instanceId state
        servicesByName := reindexServices state
          ((known.map NodeState.serviceNames).getD [])
          cleared.servicesByName }, .ok state)

/-! ## Heartbeats and administration -/

/-- The arguments of `heartbeat_record`; `pooled` tells that task pools are
sent. -/
structure Heartbeat (ε μ ρ : Type) where
  nodeInstanceId : String
  nodeId : String
  healthy : Bool
  metadata : Option (OrderedDict String String)
  services : Option (OrderedDict String (NodeServiceState ε μ))
  pooled : Bool
  serviceWorkerCapacity : ℤ
  serviceWorkerUsed : ℤ
  acceptServiceDeploy : Option Bool
  pythonVersion : String
  rest : Option ρ → ρ

def Heartbeat.instanceId (call : Heartbeat ε μ ρ) : String :=
  strip (orElse call.nodeInstanceId call.nodeId)

/-- The record that a heartbeat makes of the known one.  Services that are not
sent beside pools are stamped in place. -/
def beatenNode (now : ℤ) (call : Heartbeat ε μ ρ)
    (known : Option (NodeState ε μ ρ))
    (profiles : OrderedDict String NodeProfile) : NodeState ε μ ρ :=
  let state := known.getD (.fresh call.instanceId call.nodeId ""
    call.pythonVersion now (call.rest none))
  let inventoryUpdated := call.services.isSome || call.pooled
  let capacity :=
    if inventoryUpdated = true ∧ 0 < call.serviceWorkerCapacity then
      call.serviceWorkerCapacity
    else state.serviceWorkerCapacity
  NodeState.applyProfile platform { state with
    nodeInstanceId := call.instanceId
    nodeId := orElse (strip (orElse call.nodeId state.nodeId)) call.instanceId
    healthy := call.healthy
    lastSeenAt := now
    metadata := call.metadata.getD state.metadata
    services :=
      if inventoryUpdated = true then
        withFailureTimestamps now state.services
          (call.services.getD state.services)
      else state.services
    pythonVersion :=
      if call.pythonVersion = "" then state.pythonVersion
      else strip call.pythonVersion
    serviceWorkerCapacity := capacity
    serviceWorkerUsed :=
      if inventoryUpdated = true then
        boundedUsed call.serviceWorkerUsed capacity
      else state.serviceWorkerUsed
    acceptServiceDeploy :=
      call.acceptServiceDeploy.getD state.acceptServiceDeploy
    rest := call.rest (known.map NodeState.rest) } profiles none

def heartbeatRecord (now : ℤ) (call : Heartbeat ε μ ρ)
    (table : InfoCenterState ε μ ρ) : InfoCenterState ε μ ρ :=
  if call.instanceId = "" then table
  else
    let known := table.nodes.lookup call.instanceId
    let state := beatenNode platform now call known table.profiles
    { table with
      nodes := table.nodes.set call.instanceId state
      servicesByName :=
        if call.services.isSome = true then
          reindexServices state ((known.map NodeState.serviceNames).getD [])
            table.servicesByName
        else table.servicesByName }

def lostService (platform : Platform ε μ) (now : ℤ) (reason : String)
    (service : NodeServiceState ε μ) : NodeServiceState ε μ where
  serviceName := service.serviceName
  serviceId := service.serviceId
  status := serviceUnspecified
  policyId := orElse (platform.casing.lower (strip service.policyId))
    "default_safe"
  ownerClientId := service.ownerClientId
  codeVersion := service.codeVersion
  entryModule := service.entryModule
  entryCallable := service.entryCallable
  serializationMode := service.serializationMode
  statusText := ""
  resourceHealth := ""
  degraded := false
  workerCount := max 0 service.workerCount
  aliveWorkers := 0
  inFlight := 0
  receivedCount := 0
  returnedCount := 0
  emaChildInvokeMs := platform.zero
  emaSamples := 0
  createdAt := none
  leaseExpireAt := now
  httpBaseUrl := service.httpBaseUrl
  stopReason := orElse service.stopReason (orElse reason "node lost")
  failureAt := some (service.failureAt.getD now)
  readiness := ""
  readinessReason := ""
  methodFailures := ∅
  createStage := ""
  operationId := ""
  operationUpdatedAt := none

def lostNode (now leaseTtlSec : ℤ) (reason : String)
    (state : NodeState ε μ ρ) : NodeState ε μ ρ :=
  let noted := orElse reason (orElse state.reason "node lost")
  { state with
    healthy := false
    schedulable := false
    lastSeenAt := now - (leaseTtlSec + 1) * secondTicks
    reason := noted
    services := state.services.mapValues fun _ service =>
      lostService platform now noted service }

/-- `mark_node_lost`; an unknown node changes nothing, for the `KeyError`. -/
def markNodeLost (now : ℤ) (nodeInstanceId reason : String)
    (table : InfoCenterState ε μ ρ) : InfoCenterState ε μ ρ :=
  match table.nodes.lookup nodeInstanceId with
  | none => table
  | some known =>
    let state := lostNode platform now table.leaseTtlSec reason known
    { table with
      nodes := table.nodes.set nodeInstanceId state
      servicesByName := reindexServices state known.serviceNames
        table.servicesByName }

structure ProfileChange where
  managedTags : Option (List String)
  addTags : List String
  removeTags : List String
  enabled : Option Bool
  drain : Option Bool
  notes : Option String

def ProfileChange.apply (change : ProfileChange) (profile : NodeProfile) :
    NodeProfile where
  managedTags := sortedNames
    ((((change.managedTags.map sortedNames).getD profile.managedTags) ++
      sortedNames change.addTags).filter
        fun tag => tag ∉ sortedNames change.removeTags)
  enabled := change.enabled.getD profile.enabled
  drain := change.drain.getD profile.drain
  notes := change.notes.getD profile.notes

def profiledNode (profile : NodeProfile)
    (profiles : OrderedDict String NodeProfile) (state : NodeState ε μ ρ) :
    NodeState ε μ ρ :=
  let enabled :=
    if profile.enabled = true ∧ state.reason = NodeState.disabledReason then
      { state with schedulable := true, reason := "" }
    else state
  enabled.applyProfile platform profiles none

/-- `update_node_profile`; an endpoint without a key changes nothing, for the
`ValueError`. -/
def updateNodeProfile (endpoint : String) (change : ProfileChange)
    (table : InfoCenterState ε μ ρ) : InfoCenterState ε μ ρ :=
  let key := normalizeNodeProfileKey platform endpoint
  if key = "" then table
  else
    let profile := change.apply ((table.profiles.lookup key).getD
      ⟨[], true, false, ""⟩)
    let profiles := table.profiles.set key profile
    { table with
      profiles := profiles
      nodes := table.nodes.mapValues fun _ state =>
        if normalizeNodeProfileKey platform state.controlAddr = key then
          profiledNode platform profile profiles state
        else state }

def updateNodeProfileForInstance (nodeInstanceId : String)
    (change : ProfileChange) (table : InfoCenterState ε μ ρ) :
    InfoCenterState ε μ ρ :=
  match table.nodes.lookup (strip nodeInstanceId) with
  | none => table
  | some state =>
    updateNodeProfile platform
      (normalizeNodeProfileKey platform state.controlAddr) change table

structure ScheduleChange where
  schedulable : Option Bool
  drain : Option Bool
  reason : Option String

def scheduledNode (change : ScheduleChange)
    (profiles : OrderedDict String NodeProfile) (state : NodeState ε μ ρ) :
    NodeState ε μ ρ :=
  NodeState.applyProfile platform { state with
    schedulable := change.schedulable.getD state.schedulable
    drain := change.drain.getD state.drain
    reason := change.reason.getD state.reason } profiles none

def updateNodeScheduleState (nodeInstanceId : String)
    (change : ScheduleChange) (table : InfoCenterState ε μ ρ) :
    InfoCenterState ε μ ρ :=
  match table.nodes.lookup nodeInstanceId with
  | none => table
  | some state =>
    { table with
      nodes := table.nodes.set nodeInstanceId
        (scheduledNode platform change table.profiles state) }

end PycloudParallel.NodeTable
