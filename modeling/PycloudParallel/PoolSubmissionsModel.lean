import PycloudParallel.FoundationGuardedRun
import PycloudParallel.SchedulerModel

/-!
# Which nodes a task pool submits to

The routing state of a task pool session: its replicas, which of them are
active, their breakers, the dependency blacklist of the session's method and the
scheduler's state.  `submit_payloads` asks which nodes are available and plans
its targets among them; its outcome, the other calls of the session and the
keepalive thread write the state back.

Node keys are trimmed and not empty, as `_node_instance_key_from_node` gives
them.
-/

namespace PycloudParallel.PoolSubmissions

open ServiceCalls (CandidateBreakerState BreakerSettings)
open Scheduler

abbrev NodeId := String

structure PoolReplica where
  workerCount : ℤ
deriving DecidableEq

/-- What the planner reads of an `InfoCenterNode`. -/
structure PoolNode where
  inflight : ℤ
  taskPoolWorkerAvailable : ℤ
  credit : ℤ
deriving DecidableEq

structure PoolSession where
  pools : OrderedDict NodeId PoolReplica
  nodes : OrderedDict NodeId PoolNode
  activeReplicaIds : List NodeId
  /-- The nodes in `_method_node_blacklist` for the session's method. -/
  methodNodeBlacklist : List NodeId
  submitBreakerStates : OrderedDict NodeId CandidateBreakerState
  schedulerState : SchedulerState
  poolCycle : ℕ

namespace PoolSession

def opened (pools : OrderedDict NodeId PoolReplica)
    (nodes : OrderedDict NodeId PoolNode) : PoolSession where
  pools := pools
  nodes := nodes
  activeReplicaIds := pools.keys
  methodNodeBlacklist := []
  submitBreakerStates := OrderedDict.mapValues
    (fun _ _ => CandidateBreakerState.fresh) pools
  schedulerState := .empty
  poolCycle := 0

/-! ## Marks -/

def poolBreakerState (s : PoolSession) (nodeId : NodeId) :
    CandidateBreakerState :=
  (s.submitBreakerStates.lookup nodeId).getD .fresh

def setBreaker (s : PoolSession) (nodeId : NodeId)
    (breaker : CandidateBreakerState) : PoolSession :=
  { s with
    submitBreakerStates :=
      OrderedDict.set s.submitBreakerStates nodeId breaker }

def disable (s : PoolSession) (nodeId : NodeId) : PoolSession :=
  { s with
    schedulerState := { s.schedulerState with
      disabledCandidates := s.schedulerState.disabledCandidates.insert nodeId } }

def enable (s : PoolSession) (nodeId : NodeId) : PoolSession :=
  { s with
    schedulerState := { s.schedulerState with
      disabledCandidates :=
        s.schedulerState.disabledCandidates.filter (· ≠ nodeId) } }

def countSubmitFailures (s : PoolSession) (nodeId : NodeId) (count : ℤ) :
    PoolSession :=
  { s with
    schedulerState := { s.schedulerState with
      recentSubmitFailures :=
        OrderedDict.set s.schedulerState.recentSubmitFailures nodeId count } }

def discardActiveReplica (s : PoolSession) (nodeId : NodeId) : PoolSession :=
  { s with activeReplicaIds := s.activeReplicaIds.filter (· ≠ nodeId) }

def addActiveReplica (s : PoolSession) (nodeId : NodeId) : PoolSession :=
  { s with activeReplicaIds := s.activeReplicaIds.insert nodeId }

def markPoolSubmitSuccess (s : PoolSession) (nodeId : NodeId) : PoolSession :=
  ((s.setBreaker nodeId (s.poolBreakerState nodeId).markSuccess).enable
    nodeId).countSubmitFailures nodeId 0

/-- The threshold and the cooldowns of `_mark_pool_submit_failure`. -/
def submitBreakerSettings : BreakerSettings :=
  ⟨2, 1, 10⟩

def markPoolSubmitFailure (s : PoolSession) (nodeId : NodeId) (now : ℚ) :
    PoolSession :=
  ((s.setBreaker nodeId ((s.poolBreakerState nodeId).markFailure
    submitBreakerSettings now)).countSubmitFailures nodeId
      ((s.schedulerState.recentSubmitFailures.lookup nodeId).getD 0 + 1)).disable
        nodeId

def markTaskpoolNodeLost (s : PoolSession) (nodeId : NodeId) (now : ℚ) :
    PoolSession :=
  ((s.discardActiveReplica nodeId).disable nodeId).markPoolSubmitFailure nodeId
    now

def markOwnerNodeInstanceBlacklisted (s : PoolSession) (nodeId : NodeId) :
    PoolSession :=
  (s.discardActiveReplica nodeId).disable nodeId

def blacklistForMethod (s : PoolSession) (nodeId : NodeId) : PoolSession :=
  { s with methodNodeBlacklist := s.methodNodeBlacklist.insert nodeId }

def markTaskMethodNodeBlacklisted (s : PoolSession) (nodeId : NodeId) :
    PoolSession :=
  ((s.blacklistForMethod nodeId).disable
    nodeId).markOwnerNodeInstanceBlacklisted nodeId

def onReplicaMethodFailuresReported (s : PoolSession) (nodeId : NodeId) :
    PoolSession :=
  (s.blacklistForMethod nodeId).markOwnerNodeInstanceBlacklisted nodeId

def removeOwnerReplica (s : PoolSession) (nodeId : NodeId) : PoolSession :=
  ({ s with
    pools := s.pools.erase nodeId
    nodes := s.nodes.erase nodeId
    submitBreakerStates := s.submitBreakerStates.erase nodeId
  }.enable nodeId).discardActiveReplica nodeId

/-- The replica that `try_compensate_replicas` has created and activates. -/
def addCompensatedReplica (s : PoolSession) (nodeId : NodeId)
    (pool : PoolReplica) (node : PoolNode) : PoolSession :=
  { s with
    pools := OrderedDict.set (s.pools.erase nodeId) nodeId pool
    nodes := OrderedDict.set s.nodes nodeId node
    submitBreakerStates := OrderedDict.set s.submitBreakerStates nodeId
      (s.poolBreakerState nodeId)
  }.addActiveReplica nodeId

def isTaskMethodNodeBlacklisted (s : PoolSession) (nodeId : NodeId) : Bool :=
  s.methodNodeBlacklist.contains nodeId

/-- The loop of `_available_pool_node_ids`; asking a breaker may move it. -/
def availableAmong (now : ℚ) : List NodeId → PoolSession →
    List NodeId × PoolSession
  | [], s => ([], s)
  | nodeId :: nodeIds, s =>
    if s.activeReplicaIds.contains nodeId then
      let asked := (s.poolBreakerState nodeId).candidateAllowed now
      let (others, after) :=
        availableAmong now nodeIds (s.setBreaker nodeId asked.1)
      if asked.2 && !s.isTaskMethodNodeBlacklisted nodeId then
        (nodeId :: others, after)
      else (others, after)
    else availableAmong now nodeIds s

def availablePoolNodeIds (s : PoolSession) (now : ℚ) :
    List NodeId × PoolSession :=
  s.availableAmong now s.pools.keys

def schedulerCandidate (s : PoolSession) (active : List NodeId)
    (nodeId : NodeId) (pool : PoolReplica) : SchedulerCandidate :=
  let node := s.nodes.lookup nodeId
  let workerCapacity := max 1
    (if pool.workerCount = 0 then 1 else pool.workerCount)
  let nodeInflight := max 0 ((node.map PoolNode.inflight).getD 0)
  let available := (node.map PoolNode.taskPoolWorkerAvailable).getD 0
  let aliveWorkers := max 0 (if available = 0 then pool.workerCount
    else available)
  let workers := if aliveWorkers = 0 then workerCapacity else aliveWorkers
  { id := nodeId
    nodeInstanceId := nodeId
    healthy := active.contains nodeId
    schedulable := true
    drain := false
    breakerState := (s.poolBreakerState nodeId).state
    predictedBusy := (nodeInflight : ℚ) / (max 1 workers : ℤ)
    nodeInflight := nodeInflight
    aliveWorkers := max 1 workers
    workerCapacity := workerCapacity
    credit := max 0 ((node.map PoolNode.credit).getD 0)
    recentFailures :=
      (s.schedulerState.recentSubmitFailures.lookup nodeId).getD 0 }

/-- `_build_pool_scheduler_candidates` with a copy of the scheduler's state; no
allowed nodes count as not given. -/
def buildPoolSchedulerCandidates (s : PoolSession) (now : ℚ)
    (allowedNodeIds : List NodeId) : List SchedulerCandidate × PoolSession :=
  let fallback := s.availablePoolNodeIds now
  let (allowed, asked) :=
    if allowedNodeIds = [] then fallback else (allowedNodeIds, s)
  let (active, after) := asked.availablePoolNodeIds now
  (allowed.filterMap fun nodeId =>
    (after.pools.lookup nodeId).map (after.schedulerCandidate active nodeId),
    after)

/-- The loop of `_plan_pool_node_targets`; it raises with the scheduler. -/
def planTargets (profile : StrategyProfile)
    (candidates : List SchedulerCandidate) :
    ℕ → ℕ → SchedulerState → Option (List NodeId)
  | 0, _, _ => some []
  | count + 1, roundRobin, state =>
    (selectOneCandidate profile state roundRobin candidates).bind fun selected =>
      let inflight :=
        (state.localInflightByCandidate.lookup selected.id).getD 0
      (planTargets profile candidates count (roundRobin + 1) { state with
        localInflightByCandidate := OrderedDict.set
          state.localInflightByCandidate selected.id (inflight + 1) }).map
        fun planned => selected.id :: planned

def planPoolNodeTargets (s : PoolSession) (now : ℚ) (count : ℕ)
    (strategy : String) (allowedNodeIds : List NodeId) :
    Option (List NodeId) × PoolSession :=
  if count = 0 then (some [], s)
  else
    let (candidates, after) := s.buildPoolSchedulerCandidates now allowedNodeIds
    if candidates = [] then (none, after)
    else
      (planTargets (resolveTaskpoolStrategy strategy) candidates count
        after.poolCycle after.schedulerState,
        { after with poolCycle := after.poolCycle + count })

/-- When `submit_payloads` asks for the available nodes and when it plans. -/
structure SubmitTimes where
  asked : ℚ
  planned : ℚ
  forward : asked ≤ planned

def planSubmit (s : PoolSession) (times : SubmitTimes) (count : ℕ)
    (strategy : String) : Option (List NodeId) × PoolSession :=
  let (allowed, after) := s.availablePoolNodeIds times.asked
  after.planPoolNodeTargets times.planned count strategy allowed

def markSubmittedNode (failedAt : Option ℚ) (s : PoolSession)
    (nodeId : NodeId) : PoolSession :=
  match failedAt with
  | some now => s.markPoolSubmitFailure nodeId now
  | none => s.markPoolSubmitSuccess nodeId

/-- The marks of `submit_payloads` on the nodes of its groups: all failed, or
all succeeded. -/
def markSubmitted (s : PoolSession) (targets : List NodeId)
    (failedAt : Option ℚ) : PoolSession :=
  targets.dedup.foldl (markSubmittedNode failedAt) s

end PoolSession

open PoolSession

inductive PoolEvent
  /-- `_available_pool_node_ids` is called. -/
  | looked (now : ℚ)
  /-- `submit_payloads` plans these targets, and its submit raises or not. -/
  | submitted (times : SubmitTimes) (count : ℕ) (strategy : String)
      (targets : List NodeId) (failedAt : Option ℚ)
  /-- `submit_payloads` raises before it submits anything: for lack of a
  candidate, or in building an item. -/
  | onlyPlanned (times : SubmitTimes) (count : ℕ) (strategy : String)
  /-- The other callers of the two marks. -/
  | submitSucceeded (nodeId : NodeId)
  | submitFailed (nodeId : NodeId) (now : ℚ)
  | nodeLost (nodeId : NodeId) (now : ℚ)
  | dependencyFailed (nodeId : NodeId)
  | methodFailuresReported (nodeId : NodeId)
  | ownerBlacklisted (nodeId : NodeId)
  | replicaRemoved (nodeId : NodeId)
  | replicaAdded (nodeId : NodeId) (pool : PoolReplica) (node : PoolNode)
  | replicaActivated (nodeId : NodeId)
  | replicaDeactivated (nodeId : NodeId)
  | keepaliveStarted
  /-- Accepted tasks and results move the counters of the scheduler. -/
  | inflightChanged (inflight : OrderedDict NodeId ℤ)

def poolStep (s : PoolSession) : PoolEvent → Option PoolSession
  | .looked now => some (s.availablePoolNodeIds now).2
  | .submitted times count strategy targets failedAt =>
    let (planned, after) := s.planSubmit times count strategy
    if planned = some targets then some (after.markSubmitted targets failedAt)
    else none
  | .onlyPlanned times count strategy =>
    some (s.planSubmit times count strategy).2
  | .submitSucceeded nodeId => some (s.markPoolSubmitSuccess nodeId)
  | .submitFailed nodeId now => some (s.markPoolSubmitFailure nodeId now)
  | .nodeLost nodeId now => some (s.markTaskpoolNodeLost nodeId now)
  | .dependencyFailed nodeId => some (s.markTaskMethodNodeBlacklisted nodeId)
  | .methodFailuresReported nodeId =>
    some (s.onReplicaMethodFailuresReported nodeId)
  | .ownerBlacklisted nodeId => some (s.markOwnerNodeInstanceBlacklisted nodeId)
  | .replicaRemoved nodeId => some (s.removeOwnerReplica nodeId)
  | .replicaAdded nodeId pool node =>
    some (s.addCompensatedReplica nodeId pool node)
  | .replicaActivated nodeId => some (s.addActiveReplica nodeId)
  | .replicaDeactivated nodeId => some (s.discardActiveReplica nodeId)
  | .keepaliveStarted => some { s with activeReplicaIds := s.pools.keys }
  | .inflightChanged inflight => some { s with
      schedulerState := { s.schedulerState with
        localInflightByCandidate := inflight } }

def FindsCandidate (s : PoolSession) (times : SubmitTimes) (count : ℕ)
    (strategy : String) : Prop :=
  (s.availablePoolNodeIds times.asked).1 ≠ [] →
    (s.planSubmit times count strategy).1.isSome = true

end PycloudParallel.PoolSubmissions
