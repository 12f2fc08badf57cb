import PycloudParallel.FoundationOrderedDict
import Mathlib.Data.Finset.Sort
import Mathlib.Data.Multiset.Basic

/-!
# The client session of a task pool

The result state of a `TaskPoolSession` and the operations that submit tasks,
register them and take them back from a node.  A task id is the number that
`_next_task_id` drew for it: the id's text ends in `-<number>`, so different
numbers are different texts.

What the session sees from outside comes from a `World`, asked at the current
`clock`: the nodes' answers to RPCs, the background view of which nodes are
active, the scheduler's choice and the time.  Routing state (breakers, disabled
candidates, in-flight counters of the scheduler) only feeds that view and is
not part of the model.
-/

namespace PycloudParallel.TaskPool

open OrderedDict

abbrev NodeId := String
abbrev TaskId := Nat

abbrev Payload (V : Type) := OrderedDict String V

inductive RawPayload (V : Type)
  | mapping (fields : Payload V)
  | other (value : V)

inductive TaskStatus
  | unspecified
  | queued
  | running
  | succeeded
  | failedUser
  | failedInfra
  | cancelled
deriving DecidableEq

structure TaskSubmitItem (V : Type) where
  taskId : TaskId
  payload : Payload V

/-- A `pb2.TaskResult`; `data` is what `fetch_result_data` reads. -/
structure TaskResult (D : Type) where
  taskId : TaskId
  status : TaskStatus
  errorType : String
  errorMessage : String
  data : Option D
deriving DecidableEq

structure TaskReplayRecord (V : Type) where
  logicalIndex : Nat
  originalPayload : Payload V
  currentTaskId : TaskId
  currentNodeId : NodeId
  attempt : Nat
  lastError : String
  timeoutRetryCount : Nat

/-- What the session asks of the outside.  The first argument of a reply is the
clock at which it is asked, so an answer may change with every question. -/
structure World (V D : Type) where
  /-- The positive byte limits in the capabilities of a node and its pool. -/
  capabilityLimits : NodeId → List Nat
  /-- `_task_submit_item_http_payload_size`. -/
  itemSize : TaskSubmitItem V → Nat
  /-- `_prepare_task_payload_for_submit` and the encoding may raise. -/
  prepareError : Nat → Payload V → Option String
  /-- One HTTP submit: it raises, or accepts the tasks the predicate selects. -/
  submitTasks : Nat → NodeId → List (TaskSubmitItem V) →
    Except String (TaskId → Bool)
  pullResults : Nat → NodeId → Nat → Except String (List (TaskResult D))
  fetchResultData : TaskResult D → Except (String × String) (Option D)
  /-- Keys of `_pools`, so no node occurs twice. -/
  availablePoolNodeIds : Nat → List NodeId
  availablePoolNodeIds_nodup : ∀ clock, (availablePoolNodeIds clock).Nodup
  canAcceptResultFromNode : Nat → NodeId → Bool
  /-- `select_one_candidate`, given the candidates disabled so far. -/
  selectOneCandidate : Nat → List NodeId → Option NodeId
  /-- `window` of the adaptive in-flight controller. -/
  adaptiveWindow : Nat → Nat
  defaultMaxInFlight : Nat
  /-- `time.time() >= wait_deadline`. -/
  deadlineReached : Nat → Bool
  isDependencyError : TaskResult D → Bool
  dependencyFailureReason : TaskResult D → String
  /-- The order in which a set of ids is iterated. -/
  setOrder : List TaskId → List TaskId
  setOrder_perm : ∀ ids, (setOrder ids).Perm ids

inductive SessionEvent (V D : Type)
  /-- A task item was built from a payload. -/
  | built (item : TaskSubmitItem V)
  /-- A submit raised after earlier HTTP batches of it had been accepted. -/
  | submitRaised (nodeId : NodeId) (accepted : List TaskId)
  /-- All tasks of the node were taken back. -/
  | released (nodeId : NodeId)
  /-- A pulled result was read. -/
  | pulled (nodeId : NodeId) (result : TaskResult D)
  /-- A replay of a task was accepted under a new id. -/
  | replaced (old new : TaskId)

structure Session (V D : Type) where
  submitSeq : Nat
  pendingTaskIds : Finset TaskId
  pendingTaskNodeIds : OrderedDict TaskId NodeId
  replayRecords : OrderedDict TaskId (TaskReplayRecord V)
  replayNodeIndex : OrderedDict NodeId (List TaskId)
  bufferedResultItems : List (NodeId × TaskResult D)
  clock : Nat
  history : List (SessionEvent V D)

variable {V D : Type}

namespace Session

def opened : Session V D where
  submitSeq := 0
  pendingTaskIds := ∅
  pendingTaskNodeIds := ∅
  replayRecords := ∅
  replayNodeIndex := ∅
  bufferedResultItems := []
  clock := 0
  history := []

def tick (s : Session V D) : Session V D :=
  { s with clock := s.clock + 1 }

def note (s : Session V D) (event : SessionEvent V D) : Session V D :=
  { s with history := s.history ++ [event] }

def pendingResultCount (s : Session V D) : Nat :=
  s.pendingTaskIds.card

def isPendingTaskId (s : Session V D) (taskId : TaskId) : Bool :=
  decide (taskId ∈ s.pendingTaskIds)

def addPending (s : Session V D) (nodeId : NodeId) (taskId : TaskId) :
    Session V D :=
  { s with
    pendingTaskIds := insert taskId s.pendingTaskIds
    pendingTaskNodeIds :=
      OrderedDict.set s.pendingTaskNodeIds taskId nodeId }

def registerPendingTaskIds (s : Session V D) (accepted : List TaskId)
    (nodeId : NodeId) : Session V D :=
  accepted.foldl (fun s taskId => s.addPending nodeId taskId) s

def discardPending (s : Session V D) (taskId : TaskId) : Session V D :=
  { s with
    pendingTaskIds := s.pendingTaskIds.erase taskId
    pendingTaskNodeIds := s.pendingTaskNodeIds.erase taskId }

/-- `node_tasks.discard(...)`, and the key goes with its last task. -/
def discardNodeIndex (s : Session V D) (nodeId : NodeId) (taskId : TaskId) :
    OrderedDict NodeId (List TaskId) :=
  match s.replayNodeIndex.lookup nodeId with
  | none => s.replayNodeIndex
  | some tasks =>
    let left := tasks.filter (· ≠ taskId)
    if left.isEmpty then s.replayNodeIndex.erase nodeId
    else OrderedDict.set s.replayNodeIndex nodeId left

def registerReplayRecord (s : Session V D) (record : TaskReplayRecord V) :
    Session V D :=
  { s with
    replayRecords :=
      OrderedDict.set s.replayRecords record.currentTaskId record
    replayNodeIndex := OrderedDict.set s.replayNodeIndex record.currentNodeId
      (((s.replayNodeIndex.lookup record.currentNodeId).getD []).insert
        record.currentTaskId) }

def dropReplayRecord (s : Session V D) (taskId : TaskId)
    (record : TaskReplayRecord V) : Session V D :=
  { s with
    replayRecords := s.replayRecords.erase taskId
    replayNodeIndex := s.discardNodeIndex record.currentNodeId taskId }

def removeReplayRecord (s : Session V D) (taskId : TaskId) :
    Option (TaskReplayRecord V) × Session V D :=
  match s.replayRecords.lookup taskId with
  | none => (none, s)
  | some record => (some record, s.dropReplayRecord taskId record)

def takeReplayRecord (s : Session V D) (taskId : TaskId) :
    Option (TaskReplayRecord V) × Session V D :=
  s.removeReplayRecord taskId

def markResultConsumed (s : Session V D) (taskId : TaskId) : Session V D :=
  ((s.discardPending taskId).removeReplayRecord taskId).2

def mappedTaskIds (s : Session V D) (nodeId : NodeId) : List TaskId :=
  ((OrderedDict.items s.pendingTaskNodeIds).filter
    fun entry => entry.2 = nodeId).map Prod.fst

/-- The tasks of a node: those with a replay record there and those accepted
there. -/
def nodeTaskIds (s : Session V D) (nodeId : NodeId) : List TaskId :=
  (s.replayNodeIndex.lookup nodeId).getD [] ∪ s.mappedTaskIds nodeId

def takeTask (s : Session V D) (taskId : TaskId) :
    Option (TaskReplayRecord V) × Session V D :=
  (s.discardPending taskId).removeReplayRecord taskId

def takeTasks : List TaskId → Session V D →
    List (TaskReplayRecord V) × List TaskId × Session V D
  | [], s => ([], [], s)
  | taskId :: taskIds, s =>
    let taken := s.takeTask taskId
    let rest := takeTasks taskIds taken.2
    match taken.1 with
    | some record => (record :: rest.1, rest.2.1, rest.2.2)
    | none => (rest.1, taskId :: rest.2.1, rest.2.2)

/-- The common body of the two functions below: the tasks of the node leave the
pending set, those with a replay record are returned for a replay, the others
as orphans. -/
def releaseNodeTasks (s : Session V D) (world : World V D) (nodeId : NodeId) :
    List (TaskReplayRecord V) × List TaskId × Session V D :=
  takeTasks (world.setOrder (s.nodeTaskIds nodeId))
    (s.note (.released nodeId))

def markTaskpoolNodeLost (s : Session V D) (world : World V D)
    (nodeId : NodeId) : List (TaskReplayRecord V) × List TaskId × Session V D :=
  s.releaseNodeTasks world nodeId

def takePendingReplayRecordsForNode (s : Session V D) (world : World V D)
    (nodeId : NodeId) : List (TaskReplayRecord V) × List TaskId × Session V D :=
  s.releaseNodeTasks world nodeId

end Session

def localFailedTaskResult (taskId : TaskId) (errorMessage : String) :
    TaskResult D where
  taskId := taskId
  status := .failedInfra
  errorType := "NodeInstanceLost"
  errorMessage := if errorMessage = "" then "node lost" else errorMessage
  data := none

namespace Session

def appendBuffered (s : Session V D) (nodeId : NodeId)
    (result : TaskResult D) : Session V D :=
  { s with bufferedResultItems := s.bufferedResultItems ++ [(nodeId, result)] }

def failTaskLocally (s : Session V D) (nodeId : NodeId) (message : String)
    (taskId : TaskId) : Session V D :=
  (s.addPending nodeId taskId).appendBuffered nodeId
    (localFailedTaskResult taskId message)

def failPendingTasksForLostNode (s : Session V D) (world : World V D)
    (nodeId : NodeId) (error : String) : Session V D :=
  let lost := s.markTaskpoolNodeLost world nodeId
  let message := if error = "" then "node lost before task completed" else error
  (lost.1.map TaskReplayRecord.currentTaskId ++ lost.2.1).foldl
    (fun s taskId => s.failTaskLocally nodeId message taskId) lost.2.2

/-! ### Submitting -/

def nextTaskId (s : Session V D) : TaskId × Session V D :=
  (s.submitSeq + 1, { s with submitSeq := s.submitSeq + 1 })

/-- `_build_task_submit_item`: the id is drawn before the payload is
prepared. -/
def buildTaskSubmitItem (s : Session V D) (world : World V D)
    (payload : Payload V) : Except String (TaskSubmitItem V) × Session V D :=
  let drawn := s.nextTaskId
  match world.prepareError drawn.2.clock payload with
  | some error => (.error error, drawn.2.tick)
  | none =>
    let item : TaskSubmitItem V := ⟨drawn.1, payload⟩
    (.ok item, drawn.2.tick.note (.built item))

def withBuilt (s : Session V D) (payload : Payload V) : Session V D :=
  s.nextTaskId.2.tick.note (.built ⟨s.submitSeq + 1, payload⟩)

theorem buildTaskSubmitItem_cases (s : Session V D) (world : World V D)
    (payload : Payload V) :
    (∃ error, s.buildTaskSubmitItem world payload =
      (.error error, s.nextTaskId.2.tick)) ∨
    s.buildTaskSubmitItem world payload =
      (.ok ⟨s.submitSeq + 1, payload⟩, s.withBuilt payload) := by
  unfold buildTaskSubmitItem
  simp only
  split
  · next error _ => exact Or.inl ⟨error, rfl⟩
  · exact Or.inr rfl

end Session

def nodeSubmitHttpBodyLimit (values : List Nat) : Nat :=
  match (values.filter (0 < ·)).min? with
  | none => 0
  | some least => max 1024 least

/-- The loop that cuts `items` into HTTP batches; `current` is the batch being
filled and `currentSize` its size so far. -/
def cutBatches (size : TaskSubmitItem V → Nat) (safeLimit : Nat) :
    List (TaskSubmitItem V) → List (TaskSubmitItem V) → Nat →
      List (List (TaskSubmitItem V))
  | [], current, _ => if current.isEmpty then [] else [current]
  | item :: items, current, currentSize =>
    if !current.isEmpty && decide (safeLimit < currentSize + size item) then
      current :: cutBatches size safeLimit items [item] (1024 + size item)
    else
      cutBatches size safeLimit items (current ++ [item])
        (currentSize + size item)

def httpBatches (world : World V D) (nodeId : NodeId)
    (items : List (TaskSubmitItem V)) : List (List (TaskSubmitItem V)) :=
  let safeLimit :=
    nodeSubmitHttpBodyLimit (world.capabilityLimits nodeId) * 4 / 5
  if safeLimit = 0 then [items]
  else cutBatches world.itemSize safeLimit items [] 1024

/-- The loop over the HTTP batches.  The ids of a batch are registered as soon
as it is answered, and stay registered when a later batch raises. -/
def submitBatches (world : World V D) (nodeId : NodeId) :
    List (List (TaskSubmitItem V)) → List TaskId → Session V D →
      Except String (List TaskId) × Session V D
  | [], accepted, s => (.ok accepted, s)
  | batch :: batches, accepted, s =>
    match world.submitTasks s.clock nodeId batch with
    | .error error =>
      (.error error, s.tick.note (.submitRaised nodeId accepted))
    | .ok accepts =>
      let newlyAccepted := (batch.map TaskSubmitItem.taskId).filter accepts
      submitBatches world nodeId batches (accepted ++ newlyAccepted)
        (s.tick.registerPendingTaskIds newlyAccepted nodeId)

def submitTaskItemsToNode (world : World V D) (nodeId : NodeId)
    (items : List (TaskSubmitItem V)) (s : Session V D) :
    Except String (List TaskId) × Session V D :=
  if items.isEmpty then (.ok [], s)
  else submitBatches world nodeId (httpBatches world nodeId items) [] s

/-! ### What each operation does to the result state -/

namespace Session

structure SameRecords (s s' : Session V D) : Prop where
  replayRecords : s'.replayRecords = s.replayRecords
  replayNodeIndex : s'.replayNodeIndex = s.replayNodeIndex
  bufferedResultItems : s'.bufferedResultItems = s.bufferedResultItems
  submitSeq : s'.submitSeq = s.submitSeq

/-- The session after the ids `registered` were accepted at the node. -/
structure Registered (nodeId : NodeId) (registered : List TaskId)
    (s s' : Session V D) : Prop extends SameRecords s s' where
  pending : ∀ taskId, taskId ∈ s'.pendingTaskIds ↔
    taskId ∈ registered ∨ taskId ∈ s.pendingTaskIds
  nodeIds : ∀ taskId, s'.pendingTaskNodeIds.lookup taskId =
    if taskId ∈ registered then some nodeId
    else s.pendingTaskNodeIds.lookup taskId

theorem Registered.trans {nodeId : NodeId} {first second : List TaskId}
    {s mid s' : Session V D} (h₁ : Registered nodeId first s mid)
    (h₂ : Registered nodeId second mid s') :
    Registered nodeId (first ++ second) s s' where
  replayRecords := h₂.replayRecords.trans h₁.replayRecords
  replayNodeIndex := h₂.replayNodeIndex.trans h₁.replayNodeIndex
  bufferedResultItems := h₂.bufferedResultItems.trans h₁.bufferedResultItems
  submitSeq := h₂.submitSeq.trans h₁.submitSeq
  pending := by
    intro taskId
    rw [h₂.pending, h₁.pending, List.mem_append]
    tauto
  nodeIds := by
    intro taskId
    rw [h₂.nodeIds, h₁.nodeIds]
    by_cases hfirst : taskId ∈ first <;> by_cases hsecond : taskId ∈ second <;>
      simp [hfirst, hsecond]

theorem registered_nil (s : Session V D) (nodeId : NodeId) :
    Registered nodeId [] s s :=
  ⟨⟨rfl, rfl, rfl, rfl⟩, by simp, by simp⟩

theorem registered_tick (s : Session V D) (nodeId : NodeId) :
    Registered nodeId [] s s.tick :=
  ⟨⟨rfl, rfl, rfl, rfl⟩, by simp [tick], by simp [tick]⟩

theorem registered_note (s : Session V D) (nodeId : NodeId)
    (event : SessionEvent V D) : Registered nodeId [] s (s.note event) :=
  ⟨⟨rfl, rfl, rfl, rfl⟩, by simp [note], by simp [note]⟩

theorem registered_addPending (s : Session V D) (nodeId : NodeId)
    (taskId : TaskId) : Registered nodeId [taskId] s (s.addPending nodeId taskId)
    where
  replayRecords := rfl
  replayNodeIndex := rfl
  bufferedResultItems := rfl
  submitSeq := rfl
  pending := by
    intro other
    simp [addPending]
  nodeIds := by
    intro other
    simp [addPending, lookup_set]

theorem registerPendingTaskIds_history (accepted : List TaskId)
    (nodeId : NodeId) (s : Session V D) :
    (s.registerPendingTaskIds accepted nodeId).history = s.history := by
  induction accepted generalizing s with
  | nil => rfl
  | cons taskId accepted ih => exact ih (s.addPending nodeId taskId)

theorem registered_registerPendingTaskIds (nodeId : NodeId) :
    ∀ (accepted : List TaskId) (s : Session V D),
      Registered nodeId accepted s (s.registerPendingTaskIds accepted nodeId)
  | [], s => registered_nil s nodeId
  | taskId :: accepted, s => by
    have hrest := registered_registerPendingTaskIds nodeId accepted
      (s.addPending nodeId taskId)
    exact (registered_addPending s nodeId taskId).trans hrest

end Session

/-- How a submit of `items` to a node ends: `registered` are the accepted ids,
also those of the batches in front of one that raised. -/
structure SubmitOutcome (nodeId : NodeId) (items : List (TaskSubmitItem V))
    (registered : List TaskId) (s : Session V D)
    (outcome : Except String (List TaskId) × Session V D) : Prop where
  session : Session.Registered nodeId registered s outcome.2
  sublist : registered.Sublist (items.map TaskSubmitItem.taskId)
  answer : ∀ accepted, outcome.1 = .ok accepted →
    accepted = registered ∧ outcome.2.history = s.history
  raised : ∀ error, outcome.1 = .error error →
    outcome.2.history = s.history ++ [.submitRaised nodeId registered]

theorem cutBatches_flatten (size : TaskSubmitItem V → Nat) (safeLimit : Nat) :
    ∀ (items current : List (TaskSubmitItem V)) (currentSize : Nat),
      (cutBatches size safeLimit items current currentSize).flatten =
        current ++ items
  | [], current, currentSize => by
    cases current <;> simp [cutBatches]
  | item :: items, current, currentSize => by
    rw [cutBatches]
    split
    · rw [List.flatten_cons, cutBatches_flatten]
      rfl
    · rw [cutBatches_flatten]
      simp

variable (world : World V D) (nodeId : NodeId)

theorem httpBatches_flatten (items : List (TaskSubmitItem V)) :
    (httpBatches world nodeId items).flatten = items := by
  simp only [httpBatches]
  split
  · simp
  · rw [cutBatches_flatten]
    rfl

theorem httpBatches_singleton (item : TaskSubmitItem V) :
    httpBatches world nodeId [item] = [[item]] := by
  simp [httpBatches, cutBatches]

theorem submitBatches_spec :
    ∀ (batches : List (List (TaskSubmitItem V))) (before : List TaskId)
      (s : Session V D), ∃ registered,
        Session.Registered nodeId registered s
          (submitBatches world nodeId batches before s).2 ∧
        registered.Sublist (batches.flatten.map TaskSubmitItem.taskId) ∧
        (∀ accepted, (submitBatches world nodeId batches before s).1 =
          .ok accepted → accepted = before ++ registered ∧
            (submitBatches world nodeId batches before s).2.history =
              s.history) ∧
        ∀ error, (submitBatches world nodeId batches before s).1 =
          .error error →
            (submitBatches world nodeId batches before s).2.history =
              s.history ++ [.submitRaised nodeId (before ++ registered)] := by
  intro batches
  induction batches with
  | nil =>
    intro before s
    refine ⟨[], s.registered_nil nodeId, by simp, ?_, ?_⟩
    · intro accepted haccepted
      cases haccepted
      simp [submitBatches]
    · intro error herror
      cases herror
  | cons batch batches ih =>
    intro before s
    cases hanswer : world.submitTasks s.clock nodeId batch with
    | error text =>
      simp only [submitBatches, hanswer]
      refine ⟨[], (s.registered_tick nodeId).trans
        (Session.registered_note _ nodeId _), by simp, ?_, ?_⟩
      · intro accepted haccepted
        cases haccepted
      · intro error _
        simp [Session.note, Session.tick]
    | ok accepts =>
      have hnew : ((batch.map TaskSubmitItem.taskId).filter accepts).Sublist
          (batch.map TaskSubmitItem.taskId) := List.filter_sublist
      generalize hnewly : (batch.map TaskSubmitItem.taskId).filter accepts =
        newly at hnew
      have hfirst : Session.Registered nodeId newly s
          (s.tick.registerPendingTaskIds newly nodeId) :=
        (s.registered_tick nodeId).trans
          (Session.registered_registerPendingTaskIds nodeId newly s.tick)
      obtain ⟨later, hreg, hsub, hok, herr⟩ :=
        ih (before ++ newly) (s.tick.registerPendingTaskIds newly nodeId)
      have hhistory :
          (s.tick.registerPendingTaskIds newly nodeId).history = s.history := by
        exact Session.registerPendingTaskIds_history newly nodeId s.tick
      simp only [submitBatches, hanswer, hnewly]
      refine ⟨newly ++ later, hfirst.trans hreg, ?_, ?_, ?_⟩
      · simpa using hnew.append hsub
      · intro accepted haccepted
        obtain ⟨heq, hsame⟩ := hok accepted haccepted
        exact ⟨by rw [heq, List.append_assoc], by rw [hsame, hhistory]⟩
      · intro error herror
        rw [herr error herror, hhistory, List.append_assoc]

theorem submitTaskItemsToNode_spec (items : List (TaskSubmitItem V))
    (s : Session V D) : ∃ registered, SubmitOutcome nodeId items registered s
      (submitTaskItemsToNode world nodeId items s) := by
  unfold submitTaskItemsToNode
  split
  · refine ⟨[], s.registered_nil nodeId, by simp, ?_, ?_⟩
    · intro accepted haccepted
      cases haccepted
      exact ⟨rfl, rfl⟩
    · intro error herror
      cases herror
  · obtain ⟨registered, hreg, hsub, hok, herr⟩ :=
      submitBatches_spec world nodeId (httpBatches world nodeId items) [] s
    rw [httpBatches_flatten] at hsub
    exact ⟨registered, hreg, hsub, hok, herr⟩

theorem submitTaskItemsToNode_singleton_raised (item : TaskSubmitItem V)
    (s : Session V D) (error : String)
    (herror : (submitTaskItemsToNode world nodeId [item] s).1 = .error error) :
    Session.Registered nodeId [] s
        (submitTaskItemsToNode world nodeId [item] s).2 ∧
      (submitTaskItemsToNode world nodeId [item] s).2.history =
        s.history ++ [.submitRaised nodeId []] := by
  cases hanswer : world.submitTasks s.clock nodeId [item] with
  | error text =>
    simp only [submitTaskItemsToNode, httpBatches_singleton, submitBatches,
      hanswer, List.isEmpty_cons, Bool.false_eq_true, if_false]
    exact ⟨(s.registered_tick nodeId).trans
      (Session.registered_note _ nodeId _), rfl⟩
  | ok accepts =>
    simp [submitTaskItemsToNode, httpBatches_singleton, submitBatches,
      hanswer] at herror

/-! ### Taking tasks back -/

namespace Session

theorem mem_mappedTaskIds {s : Session V D} {nodeId : NodeId}
    {taskId : TaskId} : taskId ∈ s.mappedTaskIds nodeId ↔
      s.pendingTaskNodeIds.lookup taskId = some nodeId := by
  simp [mappedTaskIds, ← mem_items]

variable (s : Session V D)

theorem mappedTaskIds_nodup (nodeId : NodeId) :
    (s.mappedTaskIds nodeId).Nodup := by
  have hkeys : ((OrderedDict.items s.pendingTaskNodeIds).map Prod.fst).Nodup := by
    have hnodup : s.pendingTaskNodeIds.entries.keys.Nodup :=
      s.pendingTaskNodeIds.nodupKeys
    simpa [OrderedDict.items, List.keys, Function.comp_def] using hnodup
  exact hkeys.sublist (List.filter_sublist.map _)

theorem nodeTaskIds_nodup (nodeId : NodeId) : (s.nodeTaskIds nodeId).Nodup :=
  List.Nodup.union _ (s.mappedTaskIds_nodup nodeId)

/-- The session after the ids `gone` left the result state. -/
structure Dropped (gone : List TaskId) (s s' : Session V D) : Prop where
  pending : s'.pendingTaskIds = s.pendingTaskIds \ gone.toFinset
  nodeIds : ∀ taskId, s'.pendingTaskNodeIds.lookup taskId =
    if taskId ∈ gone then none else s.pendingTaskNodeIds.lookup taskId
  records : ∀ taskId, s'.replayRecords.lookup taskId =
    if taskId ∈ gone then none else s.replayRecords.lookup taskId
  bufferedResultItems : s'.bufferedResultItems = s.bufferedResultItems
  submitSeq : s'.submitSeq = s.submitSeq
  clock : s'.clock = s.clock
  history : s'.history = s.history

theorem removeReplayRecord_fst (taskId : TaskId) :
    (s.removeReplayRecord taskId).1 = s.replayRecords.lookup taskId := by
  unfold removeReplayRecord
  split
  · next hnone => exact hnone.symm
  · next record hrecord => exact hrecord.symm

theorem dropped_takeTask (taskId : TaskId) :
    Dropped [taskId] s (s.takeTask taskId).2 := by
  unfold takeTask removeReplayRecord
  split
  · next hnone =>
    constructor <;> try rfl
    · exact Finset.erase_eq _ _
    · intro other
      simp [discardPending, lookup_erase]
    · intro other
      by_cases heq : other = taskId
      · subst heq
        simpa [discardPending] using hnone
      · simp [discardPending, heq]
  · next record hrecord =>
    constructor <;> try rfl
    · exact Finset.erase_eq _ _
    · intro other
      simp [dropReplayRecord, discardPending, lookup_erase]
    · intro other
      simp [dropReplayRecord, discardPending, lookup_erase]

theorem Dropped.trans {first second : List TaskId} {s mid s' : Session V D}
    (h₁ : Dropped first s mid) (h₂ : Dropped second mid s') :
    Dropped (first ++ second) s s' where
  pending := by
    rw [h₂.pending, h₁.pending, List.toFinset_append, sdiff_sdiff_left]
    rfl
  nodeIds := by
    intro taskId
    rw [h₂.nodeIds, h₁.nodeIds]
    by_cases hfirst : taskId ∈ first <;> by_cases hsecond : taskId ∈ second <;>
      simp [hfirst, hsecond]
  records := by
    intro taskId
    rw [h₂.records, h₁.records]
    by_cases hfirst : taskId ∈ first <;> by_cases hsecond : taskId ∈ second <;>
      simp [hfirst, hsecond]
  bufferedResultItems := h₂.bufferedResultItems.trans h₁.bufferedResultItems
  submitSeq := h₂.submitSeq.trans h₁.submitSeq
  clock := h₂.clock.trans h₁.clock
  history := h₂.history.trans h₁.history

theorem dropped_markResultConsumed (taskId : TaskId) :
    Dropped [taskId] s (s.markResultConsumed taskId) :=
  s.dropped_takeTask taskId

theorem takeTasks_cons (taskId : TaskId) (taskIds : List TaskId)
    (s : Session V D) :
    (takeTasks (taskId :: taskIds) s).2.2 =
      (takeTasks taskIds (s.takeTask taskId).2).2.2 := by
  rw [takeTasks]
  cases (s.takeTask taskId).1 <;> rfl

theorem dropped_takeTasks : ∀ (taskIds : List TaskId) (s : Session V D),
    Dropped taskIds s (takeTasks taskIds s).2.2
  | [], s => by
    constructor <;> simp [takeTasks]
  | taskId :: taskIds, s => by
    rw [takeTasks_cons]
    exact (s.dropped_takeTask taskId).trans (dropped_takeTasks taskIds _)

end Session

end PycloudParallel.TaskPool
