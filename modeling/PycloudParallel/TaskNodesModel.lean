import PycloudParallel.CodeVersionModel
import PycloudParallel.SchedulerModel

/-!
# Selecting the nodes of a task pool

`select_task_nodes` asks the InfoCenter for a list of nodes and takes some of
them: the nodes that the caller names, or else as many as it wants, by the
score of the scheduler and first those that hold a runtime already.
-/

namespace PycloudParallel.TaskNodes

open Texts Scheduler
open CodeVersion (TextRules normalizePythonRuntimeSpec matchesPythonRuntime)

/-- What the selection reads of an `InfoCenterNode`. -/
structure InfoCenterNode where
  nodeInstanceId : String
  nodeId : String
  controlAddr : String
  healthy : Bool
  capacity : ℤ
  inflight : ℤ
  credit : ℤ
  pythonVersion : String
  activeRuntimes : List String
  taskPoolWorkerCapacity : ℤ
  taskPoolWorkerAvailable : ℤ
  acceptServiceDeploy : Bool
  schedulable : Bool
  drain : Bool
deriving DecidableEq

def deployCandidateBlockReason (healthy schedulable drain acceptServiceDeploy : Bool)
    (controlAddr : String) (requireControlAddr : Bool) (credit : ℤ)
    (requireCredit : Bool) : String :=
  if !healthy then "unhealthy"
  else if !schedulable then "cordon"
  else if drain then "drain"
  else if !acceptServiceDeploy then "accept_service_deploy=false"
  else if requireControlAddr ∧ strip controlAddr = "" then "missing_control_addr"
  else if requireCredit ∧ credit ≤ 0 then "no_credit"
  else ""

namespace InfoCenterNode

def admissionBlockReason (node : InfoCenterNode)
    (requireControlAddr requireCredit : Bool) : String :=
  deployCandidateBlockReason node.healthy node.schedulable node.drain
    node.acceptServiceDeploy node.controlAddr requireControlAddr node.credit
    requireCredit

def isAdmitted (node : InfoCenterNode)
    (requireControlAddr requireCredit : Bool) : Bool :=
  node.admissionBlockReason requireControlAddr requireCredit = ""

def instanceKey (node : InfoCenterNode) : String :=
  strip (if node.nodeInstanceId ≠ "" then node.nodeInstanceId
    else if node.nodeId ≠ "" then node.nodeId
    else node.controlAddr)

def firstNonzero (first second : ℤ) : ℤ :=
  if first ≠ 0 then first else if second ≠ 0 then second else 1

def schedulerCandidate (node : InfoCenterNode) : SchedulerCandidate :=
  let workers := max 1
    (firstNonzero node.taskPoolWorkerAvailable node.taskPoolWorkerCapacity)
  { id := node.instanceKey
    nodeInstanceId := node.instanceKey
    healthy := node.healthy
    schedulable := true
    drain := node.drain
    breakerState := .closed
    predictedBusy := (node.inflight : ℚ) / (workers : ℚ)
    nodeInflight := node.inflight
    aliveWorkers := workers
    workerCapacity := max 1
      (firstNonzero node.taskPoolWorkerCapacity node.capacity)
    credit := max 0 node.credit
    recentFailures := 0 }

end InfoCenterNode

variable (rules : TextRules)

/-- Whether the Python version of a node, if it is known, matches a runtime; a
malformed version raises. -/
def fitsRuntime (runtime : String) (node : InfoCenterNode) : Option Bool :=
  if strip node.pythonVersion = "" then some true
  else matchesPythonRuntime rules node.pythonVersion runtime

def filterNodesByRuntime (runtime : String) (nodes : List InfoCenterNode) :
    Option (List InfoCenterNode) :=
  if runtime = "" then some nodes
  else if nodes.all fun node => (fitsRuntime rules runtime node).isSome then
    some (nodes.filter fun node => fitsRuntime rules runtime node = some true)
  else none

structure SelectionRequest where
  nodeIds : List String
  nodeInstanceIds : List String
  nodeCount : ℤ
  requireCredit : Bool
  preferredRuntimeKey : String
  runtime : String

def nonblank (ids : List String) : List String :=
  (ids.map strip).filter (· ≠ "")

namespace SelectionRequest

def requestedNodeIds (request : SelectionRequest) : List String :=
  nonblank request.nodeIds

def requestedInstanceIds (request : SelectionRequest) : List String :=
  nonblank request.nodeInstanceIds

end SelectionRequest

inductive SelectionError
  /-- A runtime or a node's Python version is malformed. -/
  | malformedRuntime
  | notFound (missing : List String)
  | ambiguous (nodeIds : List String)
  | notDeployable (blocked : List (String × String))
  | incompatible (nodes : List InfoCenterNode)
  | runtimeMismatch (nodes : List InfoCenterNode)
  | noSchedulableNodes
  | noSchedulerCandidates
  | nothingSelected
deriving DecidableEq

def discoveredInstanceMap (nodes : List InfoCenterNode) :
    OrderedDict String InfoCenterNode :=
  nodes.foldl (fun found node =>
    OrderedDict.set found node.instanceKey node) ∅

/-- The loop of `_build_unique_node_id_map`: the first node of each id, and the
ids that occur again. -/
def uniqueNodeIds : List InfoCenterNode → OrderedDict String InfoCenterNode →
    List String → OrderedDict String InfoCenterNode × List String
  | [], found, duplicates => (found, duplicates)
  | node :: nodes, found, duplicates =>
    let nodeId := strip node.nodeId
    if nodeId = "" then uniqueNodeIds nodes found duplicates
    else if nodeId ∈ found then
      uniqueNodeIds nodes found (duplicates.insert nodeId)
    else uniqueNodeIds nodes (OrderedDict.set found nodeId node) duplicates

def buildUniqueNodeIdMap (nodes : List InfoCenterNode)
    (requestedIds : List String) :
    Except SelectionError (OrderedDict String InfoCenterNode) :=
  let (found, duplicates) := uniqueNodeIds nodes ∅ []
  let relevant := duplicates.filter requestedIds.contains
  if relevant ≠ [] then .error (.ambiguous relevant) else .ok found

/-- The branches for requested ids: all must be found, deployable and not
incompatible. -/
def selectRequested (runtime : String)
    (found : OrderedDict String InfoCenterNode) (requestedIds : List String) :
    Except SelectionError (List InfoCenterNode) :=
  let missing := requestedIds.filter fun id => (found.lookup id).isNone
  if missing ≠ [] then .error (.notFound missing)
  else
    let selected := requestedIds.filterMap fun id => found.lookup id
    let blocked := selected.filter fun node => !node.isAdmitted true false
    if blocked ≠ [] then
      .error (.notDeployable (blocked.map fun node =>
        (if node.instanceKey ≠ "" then node.instanceKey else node.nodeId,
          node.admissionBlockReason true false)))
    else
      match filterNodesByRuntime rules runtime selected with
      | none => .error .malformedRuntime
      | some fitting =>
        let incompatible := selected.filter fun node => !fitting.contains node
        if incompatible ≠ [] then .error (.incompatible incompatible)
        else .ok selected

/-- `while remaining_pool and ...`; each round takes a node out of the pool, so
there are no more rounds than nodes.  `none` when the scheduler raises. -/
def selectFromGroup (requestedCount : ℤ) : ℕ → List InfoCenterNode →
    List InfoCenterNode → ℕ → Option (List InfoCenterNode × ℕ)
  | 0, _, selected, rrCounter => some (selected, rrCounter)
  | rounds + 1, remainingPool, selected, rrCounter =>
    if remainingPool = [] ∨
        ¬(requestedCount ≤ 0 ∨ (selected.length : ℤ) < requestedCount) then
      some (selected, rrCounter)
    else
      match selectOneCandidate jobqueueDefault .empty rrCounter
          (remainingPool.map InfoCenterNode.schedulerCandidate) with
      | none => none
      | some candidate =>
        let isChosen := fun node : InfoCenterNode =>
          node.instanceKey == candidate.id
        match remainingPool.find? isChosen with
        | none => some (selected, rrCounter + 1)
        | some chosen =>
          selectFromGroup requestedCount rounds
            (remainingPool.eraseP isChosen) (selected ++ [chosen])
            (rrCounter + 1)

def selectFromGroups (requestedCount : ℤ) : List (List InfoCenterNode) →
    List InfoCenterNode → ℕ → Option (List InfoCenterNode)
  | [], selected, _ => some selected
  | group :: groups, selected, rrCounter =>
    (selectFromGroup requestedCount group.length group selected rrCounter).bind
      fun (selected, rrCounter) =>
        if 0 < requestedCount ∧ requestedCount ≤ selected.length then
          some selected
        else selectFromGroups requestedCount groups selected rrCounter

def candidateGroups (preferredRuntime : String)
    (candidates : List InfoCenterNode) : List (List InfoCenterNode) :=
  if preferredRuntime ≠ "" then
    [candidates.filter fun node => node.activeRuntimes.contains preferredRuntime,
      candidates.filter fun node =>
        !node.activeRuntimes.contains preferredRuntime]
  else [candidates]

def selectUnrequested (runtime : String) (nodes : List InfoCenterNode)
    (request : SelectionRequest) : Except SelectionError (List InfoCenterNode) :=
  let admitted := nodes.filter fun node =>
    node.isAdmitted true request.requireCredit
  match filterNodesByRuntime rules runtime admitted with
  | none => .error .malformedRuntime
  | some [] =>
    if runtime ≠ "" then .error (.runtimeMismatch nodes)
    else .error .noSchedulableNodes
  | some candidates =>
    match selectFromGroups request.nodeCount
        (candidateGroups (strip request.preferredRuntimeKey) candidates) [] 0 with
    | none => .error .noSchedulerCandidates
    | some selected => .ok selected

/-- `select_task_nodes`, given the nodes that the InfoCenter lists. -/
def selectTaskNodes (nodes : List InfoCenterNode) (request : SelectionRequest) :
    Except SelectionError (List InfoCenterNode) := do
  match normalizePythonRuntimeSpec rules request.runtime with
  | none => .error .malformedRuntime
  | some runtime =>
    let selected ←
      if request.requestedInstanceIds ≠ [] then
        selectRequested rules runtime (discoveredInstanceMap nodes)
          request.requestedInstanceIds
      else if request.requestedNodeIds ≠ [] then
        (buildUniqueNodeIdMap nodes request.requestedNodeIds).bind fun found =>
          selectRequested rules runtime found request.requestedNodeIds
      else selectUnrequested rules runtime nodes request
    if selected = [] then .error .nothingSelected else .ok selected

end PycloudParallel.TaskNodes
