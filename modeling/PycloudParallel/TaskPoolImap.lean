import PycloudParallel.TaskPoolSession

/-!
# `imap_unordered`

The generator that runs a list of payloads over the pool: it draws payloads
from an indexed buffer, submits them in groups, polls the nodes, replays the
tasks of lost and stalled nodes, and yields one item after another.

`ImapCore` holds what decides which items come out, `ImapControl` what only
steers where and when tasks are submitted.
-/

namespace PycloudParallel.TaskPool

variable {V D : Type}

/-- A payload that is not a mapping is wrapped as `{"value": item}`. -/
def RawPayload.asMapping : RawPayload V → Payload V
  | .mapping fields => fields
  | .other value => OrderedDict.set ∅ "value" value

/-! ### The payload buffer -/

structure IndexedPayloadBuffer (V : Type) where
  payloadIter : List (RawPayload V)
  retryPayloads : List (Nat × Payload V)
  inputExhausted : Bool
  nextIndex : Nat

namespace IndexedPayloadBuffer

def new (payloads : List (RawPayload V)) : IndexedPayloadBuffer V :=
  ⟨payloads, [], false, 0⟩

def hasRetry (buffer : IndexedPayloadBuffer V) : Bool :=
  !buffer.retryPayloads.isEmpty

def next (buffer : IndexedPayloadBuffer V) :
    Option (Nat × Payload V) × IndexedPayloadBuffer V :=
  match buffer.retryPayloads with
  | entry :: entries => (some entry, { buffer with retryPayloads := entries })
  | [] =>
    if buffer.inputExhausted then (none, buffer)
    else
      match buffer.payloadIter with
      | [] => (none, { buffer with inputExhausted := true })
      | raw :: rest =>
        (some (buffer.nextIndex, raw.asMapping),
          { buffer with payloadIter := rest, nextIndex := buffer.nextIndex + 1 })

def requeueFront (buffer : IndexedPayloadBuffer V)
    (items : List (Nat × Payload V)) : IndexedPayloadBuffer V :=
  { buffer with retryPayloads := items ++ buffer.retryPayloads }

end IndexedPayloadBuffer

/-! ### Items -/

inductive ItemKey
  | index (logicalIndex : Nat)
  | task (taskId : TaskId)
deriving DecidableEq

structure ExecutionItem (D : Type) where
  index : Int
  ok : Bool
  result : Option D
  errorType : String
  errorMessage : String
  key : ItemKey
  status : TaskStatus
  taskId : TaskId
  nodeInstanceId : NodeId

def taskResultToItem (world : World V D) (nodeId : NodeId)
    (taskResult : TaskResult D) : ExecutionItem D :=
  if taskResult.status ≠ .succeeded then
    { index := -1, ok := false, result := none
      errorType := taskResult.errorType
      errorMessage :=
        if taskResult.errorMessage = "" then
          "task failed: " ++ toString taskResult.taskId
        else taskResult.errorMessage
      key := .task taskResult.taskId, status := taskResult.status
      taskId := taskResult.taskId, nodeInstanceId := nodeId }
  else
    match world.fetchResultData taskResult with
    | .ok data =>
      { index := -1, ok := true, result := data, errorType := ""
        errorMessage := "", key := .task taskResult.taskId
        status := taskResult.status, taskId := taskResult.taskId
        nodeInstanceId := nodeId }
    | .error (errorType, errorMessage) =>
      { index := -1, ok := false, result := none, errorType := errorType
        errorMessage := errorMessage, key := .task taskResult.taskId
        status := taskResult.status, taskId := taskResult.taskId
        nodeInstanceId := nodeId }

/-- `_item_with_index` at the place where a pulled result becomes an item. -/
def ExecutionItem.withLookedUpIndex (item : ExecutionItem D)
    (index : Option Nat) : ExecutionItem D :=
  match index with
  | some index => { item with index := index, key := .index index }
  | none => { item with index := -1 }

def replayFailureItem (record : TaskReplayRecord V) (message : String) :
    ExecutionItem D where
  index := record.logicalIndex
  ok := false
  result := none
  errorType := "NodeInstanceLost"
  errorMessage :=
    if message = "" then "node lost before task completed" else message
  key := .index record.logicalIndex
  status := .failedInfra
  taskId := record.currentTaskId
  nodeInstanceId := record.currentNodeId

/-! ### The state of the generator -/

structure ImapCore (V D : Type) where
  session : Session V D
  payloadBuffer : IndexedPayloadBuffer V
  taskIndexById : OrderedDict TaskId Nat
  readyItems : List (ExecutionItem D)
  yieldedItems : List (ExecutionItem D)

structure ImapControl where
  inflightByNode : OrderedDict NodeId Nat
  disabledSubmitNodes : List NodeId
  schedulerFailures : OrderedDict NodeId String
  infraFailuresByNode : OrderedDict NodeId Nat
  pollStartIdx : Nat

namespace ImapControl

def inflight (control : ImapControl) (nodeId : NodeId) : Nat :=
  (control.inflightByNode.lookup nodeId).getD 0

def totalInflight (control : ImapControl) : Nat :=
  (OrderedDict.values control.inflightByNode).sum

def isDisabled (control : ImapControl) (nodeId : NodeId) : Bool :=
  control.disabledSubmitNodes.contains nodeId

def setInflight (control : ImapControl) (nodeId : NodeId) (count : Nat) :
    ImapControl :=
  { control with
    inflightByNode := OrderedDict.set control.inflightByNode nodeId count }

def disable (control : ImapControl) (nodeId : NodeId) : ImapControl :=
  { control with
    disabledSubmitNodes := control.disabledSubmitNodes.insert nodeId }

def noteFailure (control : ImapControl) (nodeId : NodeId) (text : String) :
    ImapControl :=
  { control with
    schedulerFailures := OrderedDict.set control.schedulerFailures nodeId text }

def infraFailures (control : ImapControl) (nodeId : NodeId) : Nat :=
  (control.infraFailuresByNode.lookup nodeId).getD 0

def countInfraFailure (control : ImapControl) (nodeId : NodeId) :
    ImapControl :=
  { control with
    infraFailuresByNode := OrderedDict.set control.infraFailuresByNode nodeId
      (control.infraFailures nodeId + 1) }

def forgetInfraFailures (control : ImapControl) (nodeId : NodeId) :
    ImapControl :=
  { control with
    infraFailuresByNode := control.infraFailuresByNode.erase nodeId }

def setPollStart (control : ImapControl) (start : Nat) : ImapControl :=
  { control with pollStartIdx := start }

end ImapControl

namespace ImapCore

def setSession (core : ImapCore V D) (session : Session V D) : ImapCore V D :=
  { core with session := session }

def setBuffer (core : ImapCore V D) (buffer : IndexedPayloadBuffer V) :
    ImapCore V D :=
  { core with payloadBuffer := buffer }

def tick (core : ImapCore V D) : ImapCore V D :=
  core.setSession core.session.tick

def setTaskIndex (core : ImapCore V D) (taskId : TaskId) (index : Nat) :
    ImapCore V D :=
  { core with taskIndexById := OrderedDict.set core.taskIndexById taskId index }

def popTaskIndex (core : ImapCore V D) (taskId : TaskId) : ImapCore V D :=
  { core with taskIndexById := core.taskIndexById.erase taskId }

def extendReady (core : ImapCore V D) (items : List (ExecutionItem D)) :
    ImapCore V D :=
  { core with readyItems := core.readyItems ++ items }

def requeueFront (core : ImapCore V D) (items : List (Nat × Payload V)) :
    ImapCore V D :=
  core.setBuffer (core.payloadBuffer.requeueFront items)

end ImapCore

/-! ### Planning and submitting -/

/-- The loop of `_plan_limited_pool_node_targets`.  Each of its rounds plans a
task or disables one more candidate, which bounds their number. -/
def planTargets (world : World V D) (nodeOrder : List NodeId) :
    Nat → OrderedDict NodeId Nat → List NodeId → Nat → Nat → List NodeId
  | 0, _, _, _, _ => []
  | _, _, _, 0, _ => []
  | rounds + 1, remaining, disabled, maxNewTasks + 1, clock =>
    if nodeOrder.all fun nodeId => (remaining.lookup nodeId).getD 0 = 0 then []
    else
      match world.selectOneCandidate clock disabled with
      | none => []
      | some nodeId =>
        match (remaining.lookup nodeId).getD 0 with
        | 0 =>
          planTargets world nodeOrder rounds remaining (disabled.insert nodeId)
            (maxNewTasks + 1) (clock + 1)
        | left + 1 =>
          nodeId :: planTargets world nodeOrder rounds
            (OrderedDict.set remaining nodeId left)
            (if left = 0 then disabled.insert nodeId else disabled)
            maxNewTasks (clock + 1)

def planLimitedPoolNodeTargets (world : World V D) (control : ImapControl)
    (availableByNode : OrderedDict NodeId Nat) (nodeOrder : List NodeId)
    (maxNewTasks clock : Nat) : List NodeId :=
  let remaining := (nodeOrder.filter fun nodeId =>
      !control.isDisabled nodeId).foldl
    (fun remaining nodeId => OrderedDict.set remaining nodeId
      ((availableByNode.lookup nodeId).getD 0)) ∅
  planTargets world nodeOrder (maxNewTasks + nodeOrder.length) remaining
    control.disabledSubmitNodes maxNewTasks clock

/-- An entry of `grouped`: a payload, its index and its task item. -/
structure ImapEntry (V : Type) where
  index : Nat
  payload : Payload V
  item : TaskSubmitItem V

abbrev GroupedEntries (V : Type) := OrderedDict NodeId (List (ImapEntry V))

namespace GroupedEntries

def get (grouped : GroupedEntries V) (nodeId : NodeId) : List (ImapEntry V) :=
  (grouped.lookup nodeId).getD []

def append (grouped : GroupedEntries V) (nodeId : NodeId)
    (entry : ImapEntry V) : GroupedEntries V :=
  OrderedDict.set grouped nodeId (grouped.get nodeId ++ [entry])

end GroupedEntries

/-- The loop of `_fill_imap_from_quota` over the planned targets. -/
def groupEntries (world : World V D) : List NodeId → GroupedEntries V →
    ImapCore V D → Except String (GroupedEntries V) × ImapCore V D
  | [], grouped, core => (.ok grouped, core)
  | nodeId :: targets, grouped, core =>
    match core.payloadBuffer.next with
    | (none, buffer) => (.ok grouped, core.setBuffer buffer)
    | (some (index, payload), buffer) =>
      match core.session.buildTaskSubmitItem world payload with
      | (.error error, session) =>
        (.error error, (core.setBuffer buffer).setSession session)
      | (.ok item, session) =>
        groupEntries world targets
          (grouped.append nodeId ⟨index, payload, item⟩)
          (((core.setBuffer buffer).setSession session).setTaskIndex
            item.taskId index)

def ImapEntry.replayRecord (entry : ImapEntry V) (nodeId : NodeId) :
    TaskReplayRecord V where
  logicalIndex := entry.index
  originalPayload := entry.payload
  currentTaskId := entry.item.taskId
  currentNodeId := nodeId
  attempt := 0
  lastError := ""
  timeoutRetryCount := 0

def ImapEntry.indexed (entry : ImapEntry V) : Nat × Payload V :=
  (entry.index, entry.payload)

def registerEntries (nodeId : NodeId) (entries : List (ImapEntry V))
    (session : Session V D) : Session V D :=
  entries.foldl
    (fun session entry =>
      session.registerReplayRecord (entry.replayRecord nodeId)) session

def submitEntriesToNode (world : World V D) (nodeId : NodeId)
    (entries : List (ImapEntry V)) (control : ImapControl)
    (core : ImapCore V D) : Nat × ImapControl × ImapCore V D :=
  match submitTaskItemsToNode world nodeId (entries.map ImapEntry.item)
      core.session with
  | (.error error, session) =>
    (0, (control.disable nodeId).noteFailure nodeId error,
      (core.setSession session).requeueFront (entries.map ImapEntry.indexed))
  | (.ok accepted, session) =>
    if accepted.isEmpty then
      (0, control,
        (core.setSession session).requeueFront (entries.map ImapEntry.indexed))
    else
      let registered := entries.filter fun entry =>
        accepted.contains entry.item.taskId
      let rejected := entries.filter fun entry =>
        !accepted.contains entry.item.taskId
      (registered.length,
        control.setInflight nodeId (control.inflight nodeId + registered.length),
        (core.setSession (registerEntries nodeId registered session)).requeueFront
          (rejected.map ImapEntry.indexed))

def submitImapEntriesToNodes (world : World V D) (grouped : GroupedEntries V) :
    List NodeId → Nat → ImapControl → ImapCore V D →
      Nat × ImapControl × ImapCore V D
  | [], submitted, control, core => (submitted, control, core)
  | nodeId :: nodeOrder, submitted, control, core =>
    if (grouped.get nodeId).isEmpty then
      submitImapEntriesToNodes world grouped nodeOrder submitted control core
    else
      let (count, control, core) :=
        submitEntriesToNode world nodeId (grouped.get nodeId) control core
      submitImapEntriesToNodes world grouped nodeOrder (submitted + count)
        control core

def fillImapFromQuota (world : World V D) (quota : Nat)
    (nodeOrder : List NodeId) (maxPending : Nat) (control : ImapControl)
    (core : ImapCore V D) : Except String Nat × ImapControl × ImapCore V D :=
  if maxPending - control.totalInflight = 0 then (.ok 0, control, core)
  else
    let cappedByNode := (nodeOrder.filter fun nodeId =>
        !control.isDisabled nodeId).foldl
      (fun capped nodeId => OrderedDict.set capped nodeId quota) ∅
    let targets := planLimitedPoolNodeTargets world control cappedByNode
      nodeOrder (maxPending - control.totalInflight) core.session.clock
    if targets.isEmpty then (.ok 0, control, core.tick)
    else
      match groupEntries world targets ∅ core.tick with
      | (.error error, core) => (.error error, control, core)
      | (.ok grouped, core) =>
        let (submitted, control, core) :=
          submitImapEntriesToNodes world grouped nodeOrder 0 control core
        (.ok submitted, control, core)

/-! ### Replays -/

/-- Build one task for the record and submit it to one node: the id of the
accepted task, or the error. -/
def submitReplay (world : World V D) (nodeId : NodeId)
    (record : TaskReplayRecord V) (notAccepted : String)
    (session : Session V D) : Except String TaskId × Session V D :=
  match session.buildTaskSubmitItem world record.originalPayload with
  | (.error error, session) => (.error error, session)
  | (.ok item, session) =>
    match submitTaskItemsToNode world nodeId [item] session with
    | (.error error, session) => (.error error, session)
    | (.ok accepted, session) =>
      if accepted.contains item.taskId then (.ok item.taskId, session)
      else (.error notAccepted, session)

def acceptReplay (core : ImapCore V D) (record next : TaskReplayRecord V) :
    ImapCore V D :=
  let core := (core.popTaskIndex record.currentTaskId).setTaskIndex
    next.currentTaskId next.logicalIndex
  core.setSession ((core.session.registerReplayRecord next).note
    (.replaced record.currentTaskId next.currentTaskId))

/-- The loop of `_retry_replay_record` over its candidates. -/
def retryOnCandidates (world : World V D) (record : TaskReplayRecord V)
    (reason : String) : List NodeId → String → ImapControl → ImapCore V D →
      Option (ExecutionItem D) × ImapControl × ImapCore V D
  | [], lastError, control, core =>
    (some (replayFailureItem record lastError), control, core)
  | nodeId :: candidates, _, control, core =>
    match submitReplay world nodeId record "RuntimeError('retry submit was not accepted')"
        core.session with
    | (.error error, session) =>
      retryOnCandidates world record reason candidates error
        ((control.disable nodeId).noteFailure nodeId error)
        (core.setSession session)
    | (.ok newTaskId, session) =>
      (none, control.setInflight nodeId (control.inflight nodeId + 1),
        acceptReplay (core.setSession session) record
          { record with
            currentTaskId := newTaskId
            currentNodeId := nodeId
            attempt := record.attempt + 1
            lastError := reason
            timeoutRetryCount := 0 })

def retryReplayRecord (world : World V D) (maxInfraRetries : Nat)
    (record : TaskReplayRecord V) (reason : String) (control : ImapControl)
    (core : ImapCore V D) :
    Option (ExecutionItem D) × ImapControl × ImapCore V D :=
  let message :=
    if reason = "" then "node lost before task completed" else reason
  if maxInfraRetries ≤ record.attempt then
    (some (replayFailureItem record message), control, core)
  else
    let candidates := (world.availablePoolNodeIds core.session.clock).filter
      fun nodeId => nodeId ≠ record.currentNodeId && !control.isDisabled nodeId
    if candidates.isEmpty then
      (some (replayFailureItem record
        "no healthy task pool node available for retry"), control, core.tick)
    else
      retryOnCandidates world record reason candidates message control core.tick

def retryReplayRecords (world : World V D) (maxInfraRetries : Nat)
    (reason : String) : List (TaskReplayRecord V) → ImapControl →
      ImapCore V D → List (ExecutionItem D) × ImapControl × ImapCore V D
  | [], control, core => ([], control, core)
  | record :: records, control, core =>
    let (item, control, core) :=
      retryReplayRecord world maxInfraRetries record reason control core
    let (items, control, core) :=
      retryReplayRecords world maxInfraRetries reason records control core
    (item.toList ++ items, control, core)

/-- The `while` loop of one record: the targets in turn, starting at the
offset. -/
def retryOnTargets (world : World V D) (record : TaskReplayRecord V)
    (reason : String) : List NodeId → String → ImapControl → ImapCore V D →
      Except String NodeId × ImapControl × ImapCore V D
  | [], lastError, control, core => (.error lastError, control, core)
  | nodeId :: targets, lastError, control, core =>
    if control.isDisabled nodeId then
      retryOnTargets world record reason targets lastError control core
    else
      match submitReplay world nodeId record
          "RuntimeError('timeout retry submit was not accepted')" core.session with
      | (.error error, session) =>
        retryOnTargets world record reason targets error
          ((control.disable nodeId).noteFailure nodeId error)
          (core.setSession session)
      | (.ok newTaskId, session) =>
        (.ok nodeId, control.setInflight nodeId (control.inflight nodeId + 1),
          acceptReplay (core.setSession session) record
            { record with
              currentTaskId := newTaskId
              currentNodeId := nodeId
              lastError := reason
              timeoutRetryCount := record.timeoutRetryCount + 1 })

def rotate (nodes : List NodeId) (offset : Nat) : List NodeId :=
  nodes.drop (offset % nodes.length) ++ nodes.take (offset % nodes.length)

/-- The loop of `_retry_timeout_replay_records_evenly` over the records. -/
def retryTimeoutRecords (world : World V D) (reason : String)
    (targets : List NodeId) : List (TaskReplayRecord V) → Nat → ImapControl →
      ImapCore V D → List (ExecutionItem D) × ImapControl × ImapCore V D
  | [], _, control, core => ([], control, core)
  | record :: records, targetOffset, control, core =>
    if 1 ≤ record.timeoutRetryCount then
      let (items, control, core) :=
        retryTimeoutRecords world reason targets records targetOffset control
          core
      (replayFailureItem record reason :: items, control, core)
    else
      let others := targets.filter (· ≠ record.currentNodeId)
      let recordTargets := if others.isEmpty then targets else others
      match retryOnTargets world record reason
          (rotate recordTargets targetOffset) reason control core with
      | (.ok nodeId, control, core) =>
        retryTimeoutRecords world reason targets records
          ((targets.idxOf nodeId + 1) % targets.length) control core
      | (.error lastError, control, core) =>
        let (items, control, core) :=
          retryTimeoutRecords world reason targets records targetOffset control
            core
        (replayFailureItem record lastError :: items, control, core)

def retryTimeoutReplayRecordsEvenly (world : World V D) (reason : String)
    (targetNodeIds : List NodeId) (records : List (TaskReplayRecord V))
    (control : ImapControl) (core : ImapCore V D) :
    List (ExecutionItem D) × ImapControl × ImapCore V D :=
  let targets := targetNodeIds.filter fun nodeId => !control.isDisabled nodeId
  if targets.isEmpty then
    (records.map fun record => replayFailureItem record
      "no healthy task pool node available for timeout retry", control, core)
  else retryTimeoutRecords world reason targets records 0 control core

/-! ### Polling -/

/-- What a `FAILED_INFRA` result does to the steering of its node. -/
def penaliseNode (world : World V D) (nodeId : NodeId) (result : TaskResult D)
    (control : ImapControl) : ImapControl :=
  let control := control.countInfraFailure nodeId
  let control :=
    if world.isDependencyError result then control.disable nodeId else control
  if 2 ≤ control.infraFailures nodeId then control.disable nodeId else control

/-- A pulled result of a pending task: the record is taken, the task consumed. -/
def consumeResult (core : ImapCore V D) (taskId : TaskId) :
    Option (TaskReplayRecord V) × ImapCore V D :=
  let taken := core.session.takeReplayRecord taskId
  (taken.1, core.setSession (taken.2.markResultConsumed taskId))

def retryReason (world : World V D) (result : TaskResult D) : String :=
  if world.isDependencyError result then world.dependencyFailureReason result
  else if result.errorMessage = "" then "remote infra failure"
  else result.errorMessage

def itemOfResult (world : World V D) (nodeId : NodeId) (result : TaskResult D)
    (core : ImapCore V D) : ExecutionItem D :=
  (taskResultToItem world nodeId result).withLookedUpIndex
    (core.taskIndexById.lookup result.taskId)

def handlePulledResult (world : World V D) (maxInfraRetries : Nat)
    (nodeId : NodeId) (result : TaskResult D) (control : ImapControl)
    (core : ImapCore V D) :
    List (ExecutionItem D) × ImapControl × ImapCore V D :=
  let (record, core) := consumeResult core result.taskId
  let control := control.setInflight nodeId (control.inflight nodeId - 1)
  match result.status with
  | .failedInfra =>
    let control := penaliseNode world nodeId result control
    match record with
    | some record =>
      retryReplayRecords world maxInfraRetries (retryReason world result)
        [record] control core
    | none => ([itemOfResult world nodeId result core], control, core)
  | .succeeded =>
    ([itemOfResult world nodeId result core],
      control.forgetInfraFailures nodeId, core)
  | _ => ([itemOfResult world nodeId result core], control, core)

def handlePulledResults (world : World V D) (maxInfraRetries : Nat)
    (nodeId : NodeId) : List (TaskResult D) → ImapControl → ImapCore V D →
      List (ExecutionItem D) × Nat × ImapControl × ImapCore V D
  | [], control, core => ([], 0, control, core)
  | result :: results, control, core =>
    let core := core.setSession (core.session.note (.pulled nodeId result))
    if !core.session.isPendingTaskId result.taskId then
      handlePulledResults world maxInfraRetries nodeId results control core
    else
      let (items, control, core) :=
        handlePulledResult world maxInfraRetries nodeId result control core
      let (more, freed, control, core) :=
        handlePulledResults world maxInfraRetries nodeId results control core
      (items ++ more, freed + 1, control, core)

def pollImapResultsOnce (world : World V D) (maxInfraRetries : Nat) :
    List NodeId → ImapControl → ImapCore V D →
      List (ExecutionItem D) × Nat × ImapControl × ImapCore V D
  | [], control, core => ([], 0, control, core)
  | nodeId :: nodeIds, control, core =>
    if (control.isDisabled nodeId && control.inflight nodeId = 0) ||
        !world.canAcceptResultFromNode core.session.clock nodeId then
      pollImapResultsOnce world maxInfraRetries nodeIds control core.tick
    else
      let (items, freed, control, core) :=
        match world.pullResults core.session.clock nodeId
            (max 1 (if control.inflight nodeId = 0 then 1
              else control.inflight nodeId)) with
        | .error error =>
          let control := control.disable nodeId
          let lost := core.session.tick.markTaskpoolNodeLost world nodeId
          let control :=
            (control.setInflight nodeId 0).noteFailure nodeId error
          let (items, control, core) := retryReplayRecords world
            maxInfraRetries error lost.1 control (core.setSession lost.2.2)
          (items, 0, control, core)
        | .ok results =>
          handlePulledResults world maxInfraRetries nodeId results control
            core.tick
      let (more, moreFreed, control, core) :=
        pollImapResultsOnce world maxInfraRetries nodeIds control core
      (items ++ more, freed + moreFreed, control, core)

/-! ### The generator -/

structure ImapParams where
  maxInFlight : Option Int
  receiveBatch : Int
  raiseOnError : Bool
  maxInfraRetries : Int

inductive ImapOutcome (V D : Type)
  | goesOn (control : ImapControl) (core : ImapCore V D)
  | finished (core : ImapCore V D)
  | raised (error : String) (core : ImapCore V D)

/-- `_resolve_max_in_flight`, or the window of the adaptive controller. -/
def ImapParams.maxPending (params : ImapParams) (world : World V D)
    (clock : Nat) : Nat :=
  match params.maxInFlight with
  | none => world.adaptiveWindow clock
  | some requested =>
    if 0 < requested then requested.toNat else world.defaultMaxInFlight

/-- The inner loop that yields up to `receive_batch` ready items: the error that
`raise_on_error` raises, and the number of items yielded. -/
def yieldReady (raiseOnError : Bool) : Nat → ImapCore V D →
    Option String × Nat × ImapCore V D
  | 0, core => (none, 0, core)
  | count + 1, core =>
    match core.readyItems with
    | [] => (none, 0, core)
    | item :: items =>
      if !item.ok && raiseOnError then
        (some (if item.errorMessage = "" then
            "task failed: " ++ toString item.taskId else item.errorMessage), 0,
          { core with readyItems := items })
      else
        let (error, yielded, core) := yieldReady raiseOnError count
          { core with
            readyItems := items
            yieldedItems := core.yieldedItems ++ [item] }
        (error, yielded + 1, core)

def ImapCore.drained (core : ImapCore V D) : Bool :=
  core.payloadBuffer.inputExhausted && !core.payloadBuffer.hasRetry &&
    core.session.pendingResultCount = 0

/-- Look for a payload when there is none to retry: whether the input turned out
to be exhausted. -/
def peekPayload (core : ImapCore V D) : Bool × ImapCore V D :=
  if !core.payloadBuffer.hasRetry && !core.payloadBuffer.inputExhausted then
    match core.payloadBuffer.next with
    | (none, buffer) => (true, core.setBuffer buffer)
    | (some entry, buffer) =>
      (false, (core.setBuffer buffer).requeueFront [entry])
  else (false, core)

def fillIdle (world : World V D) (params : ImapParams) (nodeIds : List NodeId)
    (control : ImapControl) (core : ImapCore V D) : ImapOutcome V D :=
  let maxPending := params.maxPending world core.session.clock
  match fillImapFromQuota world maxPending nodeIds maxPending control core with
  | (.error error, _, core) => .raised error core
  | (.ok submittedNow, control, core) =>
    if 0 < submittedNow then .goesOn control core
    else
      match peekPayload core with
      | (true, core) => .goesOn control core
      | (false, core) =>
        if core.payloadBuffer.hasRetry ||
            !core.payloadBuffer.inputExhausted then
          .raised
            "imap_unordered could not submit tasks to any active task pool node"
            core
        else .finished core

def takeStalled (world : World V D) (reason : String) :
    List NodeId → ImapControl → ImapCore V D →
      List (TaskReplayRecord V) × ImapControl × ImapCore V D
  | [], control, core => ([], control, core)
  | nodeId :: nodeIds, control, core =>
    let taken := core.session.takePendingReplayRecordsForNode world nodeId
    let control :=
      if taken.1.isEmpty then control
      else (control.setInflight nodeId 0).noteFailure nodeId reason
    let (records, control, core) :=
      takeStalled world reason nodeIds control (core.setSession taken.2.2)
    (taken.1 ++ records, control, core)

def stalledNodeIds (control : ImapControl) (nodeIds : List NodeId) :
    List NodeId :=
  nodeIds.filter fun nodeId =>
    0 < control.inflight nodeId && !control.isDisabled nodeId

/-- The nodes that are neither disabled nor stalled, or the stalled ones when
there are none. -/
def retryCandidateIds (control : ImapControl) (nodeIds : List NodeId) :
    List NodeId :=
  let healthy := nodeIds.filter fun nodeId => !control.isDisabled nodeId &&
    !(stalledNodeIds control nodeIds).contains nodeId
  if healthy.isEmpty then stalledNodeIds control nodeIds else healthy

def timeoutError (core : ImapCore V D) : String :=
  "imap_unordered did not receive results before timeout; pending_task_ids=" ++
    toString core.session.pendingResultCount

def onTimeout (world : World V D) (maxInfraRetries : Nat)
    (nodeIds : List NodeId) (control : ImapControl) (core : ImapCore V D) :
    ImapOutcome V D :=
  let retryCandidates := retryCandidateIds control nodeIds
  let error := timeoutError core
  if maxInfraRetries = 0 || (stalledNodeIds control nodeIds).isEmpty ||
      retryCandidates.isEmpty then
    .raised error core
  else
    let (records, control, core) :=
      takeStalled world error (stalledNodeIds control nodeIds) control core
    if records.isEmpty ||
        records.any fun record => 1 ≤ record.timeoutRetryCount then
      .raised error core
    else
      let (items, control, core) := retryTimeoutReplayRecordsEvenly world
        error retryCandidates records control core
      .goesOn control (core.extendReady items)

def pollRound (world : World V D) (params : ImapParams) (nodeIds : List NodeId)
    (control : ImapControl) (core : ImapCore V D) : ImapOutcome V D :=
  let maxInfraRetries := params.maxInfraRetries.toNat
  let ordered :=
    nodeIds.drop control.pollStartIdx ++ nodeIds.take control.pollStartIdx
  let control :=
    control.setPollStart ((control.pollStartIdx + 1) % nodeIds.length)
  match pollImapResultsOnce world maxInfraRetries ordered control core with
  | (items, freed, control, core) =>
    if !items.isEmpty then
      let core := core.extendReady items
      if !(params.raiseOnError && items.any fun item => !item.ok) && 0 < freed then
        let maxPending := params.maxPending world core.session.clock
        match fillImapFromQuota world (maxPending - control.totalInflight)
            nodeIds maxPending control core with
        | (.error error, _, core) => .raised error core
        | (.ok _, control, core) => .goesOn control core
      else .goesOn control core
    else if world.deadlineReached core.session.clock then
      onTimeout world maxInfraRetries nodeIds control core.tick
    else .goesOn control core.tick

def imapRound (world : World V D) (params : ImapParams) (nodeIds : List NodeId)
    (control : ImapControl) (core : ImapCore V D) : ImapOutcome V D :=
  let maxReceive := max 1 (if params.receiveBatch = 0 then 1
    else params.receiveBatch.toNat)
  match yieldReady params.raiseOnError maxReceive core with
  | (some error, _, core) => .raised error core
  | (none, _ + 1, core) => .goesOn control core
  | (none, 0, core) =>
    if core.drained then .finished core
    else if core.session.pendingResultCount = 0 then
      fillIdle world params nodeIds control core
    else pollRound world params nodeIds control core

/-- The loop; `none` when it is still running after so many rounds. -/
def imapLoop (world : World V D) (params : ImapParams) (nodeIds : List NodeId) :
    Nat → ImapControl → ImapCore V D → Option (Except String (ImapCore V D))
  | 0, _, _ => none
  | rounds + 1, control, core =>
    match imapRound world params nodeIds control core with
    | .finished core => some (.ok core)
    | .raised error _ => some (.error error)
    | .goesOn control core =>
      imapLoop world params nodeIds rounds control core

def imapStart (payloads : List (RawPayload V)) (session : Session V D) :
    ImapCore V D where
  session := { session with history := [] }
  payloadBuffer := IndexedPayloadBuffer.new payloads
  taskIndexById := ∅
  readyItems := []
  yieldedItems := []

def imapControl (nodeIds : List NodeId) : ImapControl where
  inflightByNode :=
    nodeIds.foldl (fun counts nodeId => OrderedDict.set counts nodeId 0) ∅
  disabledSubmitNodes := []
  schedulerFailures := ∅
  infraFailuresByNode := ∅
  pollStartIdx := 0

/-- `imap_unordered`, run for at most `rounds` rounds of its loop: how it ends,
or `none` if it does not. -/
def imapUnordered (world : World V D) (params : ImapParams)
    (payloads : List (RawPayload V)) (session : Session V D) (rounds : Nat) :
    Option (Except String (ImapCore V D)) :=
  if session.pendingTaskIds ≠ ∅ ∨ session.bufferedResultItems ≠ [] then
    some (.error "imap_unordered requires a clean task pool session")
  else
    let nodeIds := world.availablePoolNodeIds session.clock
    if nodeIds.isEmpty then
      some (.error "task pool has no active node pools")
    else
      let maxPending := params.maxPending world session.clock
      match fillImapFromQuota world maxPending nodeIds maxPending
          (imapControl nodeIds) (imapStart payloads session).tick with
      | (.error error, _, _) => some (.error error)
      | (.ok _, control, core) =>
        if core.drained then some (.ok core)
        else imapLoop world params nodeIds rounds control core

end PycloudParallel.TaskPool
