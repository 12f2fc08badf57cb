import Mathlib.Data.Finset.Card
import PycloudParallel.FoundationGuardedRun
import PycloudParallel.FoundationOrderedDict
import PycloudParallel.FoundationTexts

/-!
# The replicas of an execution session

`ExecutionSessionBase` keeps its replicas in three sets, the active ones, the
terminal ones and those that are probed again.  Heartbeats, blacklisting,
removal and compensation move them.  Node instance ids are the stripped keys
that `_node_instance_key_from_node` makes; times are microseconds.  What
`error_classifier` makes of an exception is part of the exception.
-/

namespace PycloudParallel.ReplicaStates

open Texts

def secondTicks : ℤ := 1000000

inductive SessionKind
  | service
  | taskPool
deriving DecidableEq

/-- The `status` attribute, as the kind of the replica has it. -/
inductive ReplicaStatus
  | absent
  | service (status : ℕ)
  | taskPool (status : String)

def serviceStatusRunning : ℕ := 2
def serviceStatusStopped : ℕ := 4

structure HeartbeatReport where
  status : ReplicaStatus
  readiness : String
  workerCount : ℤ
  aliveWorkers : ℤ
  methodFailures : OrderedDict String String

/-- A replica; `handle` is the identity of the object. -/
structure Replica extends HeartbeatReport where
  handle : ℕ
  heartbeatFailureThreshold : ℤ
  heartbeatTimeoutSec : ℤ
  failed : Bool
  lastError : String

structure HeartbeatError where
  repr : String
  isTimeoutError : Bool
  isTerminal : Bool
  isTransientNetwork : Bool
  isServiceTerminal : Bool

inductive HeartbeatErrorKind
  | transient
  | terminal
  | unknown
deriving DecidableEq

/-- `_classify_heartbeat_error`. -/
def HeartbeatError.kind (error : HeartbeatError) : HeartbeatErrorKind :=
  if error.isTerminal = true then .terminal
  else if error.isTimeoutError = true ∨ error.isTransientNetwork = true then
    .transient
  else .unknown

/-- Texts that the session takes from outside, and the share of failing
methods that is severe. -/
structure Platform where
  casing : Casing
  /-- `"{:.3f}"` of a duration in seconds. -/
  seconds : ℤ → String
  dependencyFailureReason : String → String → String
  severe : ℕ → ℕ → Bool
  severeReason : Finset String → ℕ → String → String

namespace Replica

variable (platform : Platform) (replica : Replica)

def failedWith (message : String) : Replica :=
  { replica with failed := true, lastError := message }

def recovered : Replica :=
  { replica with failed := false, lastError := "" }

def stopped : Replica :=
  { replica with
    status :=
      match replica.status with
      | .absent => .absent
      | .service _ => .service serviceStatusStopped
      | .taskPool _ => .taskPool "STOPPED" }

def failureThreshold : ℕ :=
  (max 1 replica.heartbeatFailureThreshold).toNat

def deployedReady : Bool :=
  let readiness := platform.casing.lower (strip replica.readiness)
  if readiness ≠ "" ∧ readiness ≠ "ready" then false
  else
    match replica.status with
    | .service status => status = serviceStatusRunning
    | .taskPool status => platform.casing.upper (strip status) = "RUNNING"
    | .absent => 0 < replica.workerCount

end Replica

structure ReplicaSets (ι : Type) where
  active : Finset ι
  terminal : Finset ι
  retryProbe : Finset ι
  retryProbeEnteredAt : ι → Option ℤ

namespace ReplicaSets

variable {ι : Type} [DecidableEq ι] (sets : ReplicaSets ι)

def markTerminal (nodeId : ι) : ReplicaSets ι :=
  { sets with terminal := insert nodeId sets.terminal }

def discardTerminal (nodeId : ι) : ReplicaSets ι :=
  { sets with terminal := sets.terminal.erase nodeId }

def markRetryProbe (now : ℤ) (nodeId : ι) : ReplicaSets ι :=
  { sets with
    retryProbe := insert nodeId sets.retryProbe
    retryProbeEnteredAt :=
      Function.update sets.retryProbeEnteredAt nodeId (some now) }

def discardRetryProbes (nodeIds : Finset ι) : ReplicaSets ι :=
  { sets with
    retryProbe := sets.retryProbe \ nodeIds
    retryProbeEnteredAt := fun nodeId =>
      if nodeId ∈ nodeIds then none else sets.retryProbeEnteredAt nodeId }

def discardRetryProbe (nodeId : ι) : ReplicaSets ι :=
  sets.discardRetryProbes {nodeId}

def addActive (nodeId : ι) : ReplicaSets ι :=
  { sets.discardTerminal nodeId with active := insert nodeId sets.active }

def discardActive (nodeId : ι) : ReplicaSets ι :=
  { sets with active := sets.active.erase nodeId }

def retire (nodeId : ι) : ReplicaSets ι :=
  ((sets.discardActive nodeId).discardRetryProbe nodeId).markTerminal nodeId

end ReplicaSets

/-! ## The session -/

structure ExecutionSession (ι : Type) where
  kind : SessionKind
  taskMethod : String
  exportedMethodCount : ℕ
  replicas : OrderedDict ι Replica
  failures : OrderedDict ι String
  sets : ReplicaSets ι
  keepaliveFailureCounts : ι → ℕ
  zeroAliveStartedAt : ι → Option ℤ
  zeroAliveLastFailureAt : ι → Option ℤ
  disconnectLastFailureAt : ι → Option ℤ
  ownerNodeBlacklist : OrderedDict ι String
  dependencyFailureMethods : ι → Finset String

namespace ExecutionSession

variable {ι : Type} [DecidableEq ι] (platform : Platform)
  (s : ExecutionSession ι)

def startKeepalive : ExecutionSession ι :=
  { s with
    replicas := s.replicas.mapValues fun _ replica => replica.recovered
    sets := ⟨s.replicas.keys.toFinset, ∅, ∅, fun _ => none⟩
    keepaliveFailureCounts := fun _ => 0
    zeroAliveStartedAt := fun _ => none }

def isCurrentReplica (nodeId : ι) (handle : ℕ) : Bool :=
  (s.replicas.lookup nodeId).any fun replica => replica.handle = handle

def canAcceptHeartbeat (nodeId : ι) (handle : ℕ) (allowNew : Bool) : Bool :=
  s.isCurrentReplica nodeId handle && (allowNew ||
    decide (nodeId ∈ s.sets.active ∨ nodeId ∈ s.sets.retryProbe))

/-- `_can_accept_result_from_node` of task pools; services ask the same of the
replica that answered a call. -/
def canAcceptResultFromNode (nodeId : ι) : Bool :=
  (s.replicas.lookup nodeId).isSome &&
    decide (nodeId ∈ s.sets.active ∨ nodeId ∈ s.sets.retryProbe)

def changeReplica (nodeId : ι) (change : Replica → Replica) :
    ExecutionSession ι :=
  match s.replicas.lookup nodeId with
  | none => s
  | some replica =>
    { s with replicas := s.replicas.set nodeId (change replica) }

def noteFailure (nodeId : ι) (message : String) : ExecutionSession ι :=
  { s with failures := s.failures.set nodeId message }

def changeSets (change : ReplicaSets ι → ReplicaSets ι) : ExecutionSession ι :=
  { s with sets := change s.sets }

def forgetZeroAlive (nodeId : ι) : ExecutionSession ι :=
  { s with
    zeroAliveStartedAt := Function.update s.zeroAliveStartedAt nodeId none }

def markReplicaBlacklisted (nodeId : ι) (reason : String) :
    ExecutionSession ι :=
  { s with
    ownerNodeBlacklist := s.ownerNodeBlacklist.set nodeId
      (orElse (strip reason) "replica unavailable") }

def markOwnerBlacklisted (nodeId : ι) (reason : String) : ExecutionSession ι :=
  let text := orElse (strip reason) "replica unavailable"
  (((s.markReplicaBlacklisted nodeId reason).noteFailure nodeId
    text).changeReplica nodeId fun replica =>
      replica.failedWith text).changeSets fun sets => sets.retire nodeId

/-! ### Reported method failures -/

/-- `_on_replica_method_failures_reported` of task pools. -/
def taskPoolFailuresReported (nodeId : ι)
    (methodFailures : OrderedDict String String) : ExecutionSession ι :=
  if methodFailures.keys = [] then s
  else
    let method := orElse (strip s.taskMethod) "run"
    let detail := (methodFailures.lookup method).getD
      (methodFailures.values.head?.getD "dependency runtime error")
    s.markOwnerBlacklisted nodeId (platform.dependencyFailureReason
      (orElse detail "dependency runtime error") method)

/-- `_on_replica_method_failures_reported` of services, with
`_maybe_blacklist_dependency_failed_node_instance`. -/
def serviceFailuresReported (nodeId : ι)
    (methodFailures : OrderedDict String String) : ExecutionSession ι :=
  if methodFailures.keys = [] then s
  else
    let named := methodFailures.items.filter fun item => strip item.1 ≠ ""
    let methods := s.dependencyFailureMethods nodeId ∪
      (named.map fun item => strip item.1).toFinset
    let lastReason := (named.getLast?.map fun item =>
      platform.dependencyFailureReason
        (orElse item.2 "dependency runtime error") (strip item.1)).getD ""
    let noted := { s with
      dependencyFailureMethods :=
        Function.update s.dependencyFailureMethods nodeId methods }
    if methods ≠ ∅ ∧
        platform.severe methods.card s.exportedMethodCount = true then
      noted.markOwnerBlacklisted nodeId (platform.severeReason methods
        s.exportedMethodCount
        (orElse lastReason "node reported dependency runtime failures"))
    else noted

def methodFailuresReported (nodeId : ι) : ExecutionSession ι :=
  match s.replicas.lookup nodeId with
  | none => s
  | some replica =>
    match s.kind with
    | .taskPool =>
      s.taskPoolFailuresReported platform nodeId replica.methodFailures
    | .service =>
      s.serviceFailuresReported platform nodeId replica.methodFailures

/-! ### Heartbeats that arrive -/

def zeroAliveDisconnectTicks : ℤ := 100 * secondTicks
def blacklistWindowTicks : ℤ := 3600 * secondTicks

def disconnectZeroAlive (now elapsed : ℤ) (nodeId : ι) (replica : Replica) :
    ExecutionSession ι :=
  let lastFailure := (s.zeroAliveLastFailureAt nodeId).getD 0
  let repeated := 0 < lastFailure ∧ now - lastFailure ≤ blacklistWindowTicks
  let gone := "alive_workers=0 for " ++ platform.seconds elapsed ++
    "s; treating replica as disconnected"
  let blacklistReason := "repeat zero-alive disconnect within 3600s"
  let reason :=
    if repeated then
      gone ++ "; node_instance blacklisted: " ++ blacklistReason
    else gone
  let noted := { s with
    zeroAliveLastFailureAt :=
      Function.update s.zeroAliveLastFailureAt nodeId (some now) }
  let listed :=
    if repeated then noted.markReplicaBlacklisted nodeId blacklistReason
    else noted
  let failed := (listed.noteFailure nodeId reason).changeReplica nodeId
    fun replica => replica.failedWith reason
  ({ failed with
    keepaliveFailureCounts := Function.update failed.keepaliveFailureCounts
      nodeId replica.failureThreshold }.changeSets
        fun sets => sets.retire nodeId).forgetZeroAlive nodeId

/-- `_handle_zero_alive_heartbeat_success`, and whether it disconnects. -/
def handleZeroAlive (now : ℤ) (nodeId : ι) : Bool × ExecutionSession ι :=
  match s.replicas.lookup nodeId with
  | none => (false, s)
  | some replica =>
    if 0 < replica.aliveWorkers ∨ replica.deployedReady platform = false then
      (false, s.forgetZeroAlive nodeId)
    else
      let started := (s.zeroAliveStartedAt nodeId).getD 0
      if started ≤ 0 then
        (false, { s with
          zeroAliveStartedAt :=
            Function.update s.zeroAliveStartedAt nodeId (some now) })
      else if max 0 (now - started) < zeroAliveDisconnectTicks then (false, s)
      else (true, s.disconnectZeroAlive platform now (max 0 (now - started))
        nodeId replica)

def clearFailures (nodeId : ι) : ExecutionSession ι :=
  let cleared := s.changeReplica nodeId Replica.recovered
  { cleared with
    keepaliveFailureCounts :=
      Function.update s.keepaliveFailureCounts nodeId 0
    sets := (s.sets.discardTerminal nodeId).discardRetryProbe nodeId
    failures := s.failures.erase nodeId }

def markHeartbeatSuccess (now : ℤ) (nodeId : ι) (handle : ℕ)
    (allowNew : Bool) : ExecutionSession ι :=
  if s.canAcceptHeartbeat nodeId handle allowNew = false then s
  else
    let reported := s.methodFailuresReported platform nodeId
    if (reported.ownerNodeBlacklist.lookup nodeId).isSome = true then reported
    else if nodeId ∈ reported.sets.terminal ∧
        ¬(allowNew = true ∧ nodeId ∈ s.sets.terminal) then reported
    else
      let handled :=
        (reported.clearFailures nodeId).handleZeroAlive platform now nodeId
      if handled.1 = true then handled.2
      else handled.2.changeSets fun sets => sets.addActive nodeId

/-! ### Heartbeats that fail -/

/-- `_record_replica_disconnect_failure`, and whether it disconnects. -/
def recordDisconnect (now : ℤ) (nodeId : ι) (error : HeartbeatError) :
    Bool × ExecutionSession ι :=
  let lastFailure := (s.disconnectLastFailureAt nodeId).getD 0
  let noted := { s with
    disconnectLastFailureAt :=
      Function.update s.disconnectLastFailureAt nodeId (some now) }
  if lastFailure ≤ 0 ∨ blacklistWindowTicks < now - lastFailure then
    (false, noted)
  else
    let reason := "repeat owner-node disconnect within 3600s: " ++ error.repr
    (true, (((noted.markReplicaBlacklisted nodeId reason).noteFailure nodeId
      reason).changeReplica nodeId fun replica =>
        replica.failedWith reason).changeSets fun sets => sets.retire nodeId)

def markHeartbeatFailure (nodeId : ι) (error : HeartbeatError) :
    ExecutionSession ι :=
  (((s.noteFailure nodeId error.repr).changeReplica nodeId fun replica =>
    (replica.failedWith error.repr).stopped).forgetZeroAlive
      nodeId).changeSets fun sets => sets.discardActive nodeId

def markProbeFailure (now : ℤ) (nodeId : ι) (error : HeartbeatError) :
    ExecutionSession ι :=
  (((s.noteFailure nodeId error.repr).changeReplica nodeId fun replica =>
    replica.failedWith error.repr).forgetZeroAlive nodeId).changeSets
      fun sets => (sets.discardActive nodeId).markRetryProbe now nodeId

def countFailure (nodeId : ι) (count : ℕ) : ExecutionSession ι :=
  { s with
    keepaliveFailureCounts :=
      Function.update s.keepaliveFailureCounts nodeId count }

def thresholdOf (nodeId : ι) : ℕ :=
  ((s.replicas.lookup nodeId).map Replica.failureThreshold).getD 1

def recordFailure (now : ℤ) (nodeId : ι) (handle : ℕ)
    (error : HeartbeatError) : ExecutionSession ι :=
  if s.canAcceptHeartbeat nodeId handle false = false then s
  else
    let count := s.keepaliveFailureCounts nodeId + 1
    let counted := s.countFailure nodeId count
    if error.kind = .transient then
      if s.thresholdOf nodeId ≤ count then
        let disconnect := counted.recordDisconnect now nodeId error
        if disconnect.1 = true then disconnect.2
        else (disconnect.2.markProbeFailure now nodeId error).changeSets
          fun sets => sets.markRetryProbe now nodeId
      else counted.changeSets fun sets => sets.markRetryProbe now nodeId
    else if s.thresholdOf nodeId ≤ count then
      counted.markHeartbeatFailure nodeId error
    else counted

def removeOwnerReplica (nodeId : ι) (clearFailure : Bool) :
    ExecutionSession ι :=
  { s with
    replicas := s.replicas.erase nodeId
    sets := (s.sets.discardActive nodeId).discardRetryProbe nodeId
    failures :=
      if clearFailure = true then s.failures.erase nodeId else s.failures }

/-- `_record_terminal_heartbeat_failure`; only services have the hook that
removes the replica. -/
def recordTerminalFailure (nodeId : ι) (handle : ℕ)
    (error : HeartbeatError) : ExecutionSession ι :=
  if s.canAcceptHeartbeat nodeId handle false = false then s
  else
    let marked := ((s.countFailure nodeId (s.thresholdOf
      nodeId)).markHeartbeatFailure nodeId error).changeSets
        fun sets => sets.markTerminal nodeId
    match s.kind with
    | .taskPool => marked
    | .service => marked.removeOwnerReplica nodeId error.isServiceTerminal

def handleHeartbeatException (now : ℤ) (nodeId : ι) (handle : ℕ)
    (error : HeartbeatError) : ExecutionSession ι :=
  if error.kind = .terminal then s.recordTerminalFailure nodeId handle error
  else s.recordFailure now nodeId handle error

/-! ### Compensation -/

/-- `_retry_probe_ttl_sec`. -/
def retryProbeTtlTicks (nodeId : ι) : ℤ :=
  let timeout := ((s.replicas.lookup nodeId).map
    Replica.heartbeatTimeoutSec).getD 0
  max 1 (min 60 (if timeout ≤ 0 then 30 else timeout)) * secondTicks

def expiredProbes (now : ℤ) : Finset ι :=
  s.sets.retryProbe.filter fun nodeId =>
    let noted := (s.sets.retryProbeEnteredAt nodeId).getD now
    let enteredAt := if noted = 0 then now else noted
    s.retryProbeTtlTicks nodeId ≤ max 0 (now - enteredAt)

def expireRetryProbes (now : ℤ) : ExecutionSession ι :=
  s.changeSets fun sets => sets.discardRetryProbes (s.expiredProbes now)

/-- `_compensation_deferred_by_retry_probe`: the probes that it goes by, and
the session behind it. -/
def effectiveProbes (now : ℤ) (current candidates : Option (Finset ι)) :
    Finset ι × ExecutionSession ι :=
  let expired := s.expireRetryProbes now
  let probes := expired.sets.retryProbe
  let live := (current.map fun nodeIds => probes ∩ nodeIds).getD probes
  let pruned := expired.changeSets fun sets =>
    sets.discardRetryProbes (probes \ live)
  match candidates with
  | none => (live, pruned)
  | some nodeIds =>
    if nodeIds \ live ≠ ∅ then (∅, pruned) else (live ∩ nodeIds, pruned)

def compensationDeferred (now : ℤ) (active : Finset ι) (desired : ℤ)
    (current candidates : Option (Finset ι)) : Bool × ExecutionSession ι :=
  let probes := s.effectiveProbes now current candidates
  (decide (probes.1 ≠ ∅ ∧ ¬(0 < desired ∧ active = ∅)), probes.2)

def compensationActive : Finset ι :=
  s.sets.active.filter fun nodeId =>
    (s.replicas.lookup nodeId).any (fun replica =>
      !replica.failed && strip replica.lastError = "") = true ∧
    nodeId ∉ s.sets.terminal

def addReplica (now : ℤ) (nodeId : ι) (replica : Replica) :
    ExecutionSession ι :=
  let added := ({ s with
    replicas := s.replicas.set nodeId replica } :
      ExecutionSession ι).markHeartbeatSuccess platform now nodeId
        replica.handle true
  { added with failures := added.failures.erase nodeId }

def attachReplica (now : ℤ) (nodeId : ι) (replica : Replica) :
    ExecutionSession ι :=
  ({ s with
    replicas := s.replicas.set nodeId replica
    failures := s.failures.erase nodeId } :
      ExecutionSession ι).markHeartbeatSuccess platform now nodeId
        replica.handle true

/-- `_attach_created_replica` whose first heartbeat fails. -/
def attachFailed (now : ℤ) (nodeId : ι) (error : HeartbeatError) :
    ExecutionSession ι :=
  let noted := s.noteFailure nodeId error.repr
  if error.isServiceTerminal = true then noted
  else noted.changeSets fun sets => sets.markRetryProbe now nodeId

end ExecutionSession

inductive Event (ι : Type)
  | keepaliveStarted
  | heartbeatReported (nodeId : ι) (handle : ℕ) (report : HeartbeatReport)
  | heartbeatSucceeded (nodeId : ι) (handle : ℕ)
  | heartbeatFailed (nodeId : ι) (handle : ℕ) (error : HeartbeatError)
  /-- A heartbeat is pending too long, or the first one of a replica fails. -/
  | failureRecorded (nodeId : ι) (handle : ℕ) (error : HeartbeatError)
  /-- `_mark_taskpool_node_lost`, or an active id without a replica. -/
  | activeDiscarded (nodeId : ι) (message : Option String)
  | ownerBlacklisted (nodeId : ι) (reason : String)
  | createFailed (nodeId : ι) (message : String) (blacklist : Option String)
  | probesExpired
  | compensationAsked (active : Finset ι) (desired : ℤ)
      (current candidates : Option (Finset ι))
  | replicaAdded (nodeId : ι) (replica : Replica)
  /-- A replica gives way to a new one whose heartbeat then fails. -/
  | replicaPopped (nodeId : ι)
  | replicaRemoved (nodeId : ι) (clearFailure : Bool)
  | replicaAttached (nodeId : ι) (replica : Replica)
  | attachFailed (nodeId : ι) (error : HeartbeatError)

variable {ι : Type} [DecidableEq ι]

def HeartbeatReport.apply (report : HeartbeatReport) (replica : Replica) :
    Replica :=
  { replica with toHeartbeatReport := report }

def ExecutionSession.perform (platform : Platform) (now : ℤ)
    (s : ExecutionSession ι) : Event ι → ExecutionSession ι
  | .keepaliveStarted => s.startKeepalive
  | .heartbeatReported nodeId handle report =>
    if s.isCurrentReplica nodeId handle = true then
      s.changeReplica nodeId report.apply
    else s
  | .heartbeatSucceeded nodeId handle =>
    s.markHeartbeatSuccess platform now nodeId handle false
  | .heartbeatFailed nodeId handle error =>
    s.handleHeartbeatException now nodeId handle error
  | .failureRecorded nodeId handle error =>
    s.recordFailure now nodeId handle error
  | .activeDiscarded nodeId message =>
    let discarded := s.changeSets fun sets => sets.discardActive nodeId
    match message with
    | none => discarded
    | some message => discarded.noteFailure nodeId message
  | .ownerBlacklisted nodeId reason => s.markOwnerBlacklisted nodeId reason
  | .createFailed nodeId message blacklist =>
    let noted := s.noteFailure nodeId message
    match blacklist with
    | none => noted
    | some text => { noted with
        ownerNodeBlacklist := noted.ownerNodeBlacklist.set nodeId text }
  | .probesExpired => s.expireRetryProbes now
  | .compensationAsked active desired current candidates =>
    (s.compensationDeferred now active desired current candidates).2
  | .replicaAdded nodeId replica => s.addReplica platform now nodeId replica
  | .replicaPopped nodeId => { s with replicas := s.replicas.erase nodeId }
  | .replicaRemoved nodeId clearFailure =>
    s.removeOwnerReplica nodeId clearFailure
  | .replicaAttached nodeId replica =>
    s.attachReplica platform now nodeId replica
  | .attachFailed nodeId error => s.attachFailed now nodeId error

def ExecutionSession.step (platform : Platform) (s : ExecutionSession ι)
    (label : ℤ × Event ι) : Option (ExecutionSession ι) :=
  some (s.perform platform label.1 label.2)

end PycloudParallel.ReplicaStates
