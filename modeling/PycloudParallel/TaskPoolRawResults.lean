import PycloudParallel.TaskPoolSession
import PycloudParallel.FoundationGuardedRun

/-!
# Submitting payloads and draining raw results

`submit_payloads` and the generator `_iter_raw_results`.  The generator is
resumed at its `time.time()` check, at each pull and at each answer, so one
drain call is a sequence of steps: it opens, begins rounds, polls the nodes of
a round in turn, and returns.
-/

namespace PycloudParallel.TaskPool

variable {V D : Type}

def RawPayload.orEmpty : RawPayload V → Payload V
  | .mapping fields => fields
  | .other _ => ∅

abbrev GroupedItems (V : Type) := OrderedDict NodeId (List (TaskSubmitItem V))

def GroupedItems.append (grouped : GroupedItems V) (nodeId : NodeId)
    (item : TaskSubmitItem V) : GroupedItems V :=
  OrderedDict.set grouped nodeId ((grouped.lookup nodeId).getD [] ++ [item])

def groupPayloads (world : World V D) :
    List (RawPayload V × NodeId) → GroupedItems V → Session V D →
      Except String (GroupedItems V) × Session V D
  | [], grouped, s => (.ok grouped, s)
  | (payload, nodeId) :: planned, grouped, s =>
    match s.buildTaskSubmitItem world payload.orEmpty with
    | (.error error, s) => (.error error, s)
    | (.ok item, s) => groupPayloads world planned (grouped.append nodeId item) s

def submitGroupedTaskItems (world : World V D) :
    List (NodeId × List (TaskSubmitItem V)) → List TaskId → Session V D →
      Except String (List TaskId) × Session V D
  | [], accepted, s => (.ok accepted, s)
  | (nodeId, items) :: grouped, accepted, s =>
    match submitTaskItemsToNode world nodeId items s with
    | (.error error, s) => (.error error, s)
    | (.ok more, s) => submitGroupedTaskItems world grouped (accepted ++ more) s

/-- `submit_payloads`, with the targets that the scheduler planned. -/
def submitPayloads (world : World V D) (payloads : List (RawPayload V))
    (plannedTargets : List NodeId) (s : Session V D) :
    Except String (List TaskId) × Session V D :=
  match groupPayloads world (payloads.zip plannedTargets) ∅ s with
  | (.error error, s) => (.error error, s)
  | (.ok grouped, s) =>
    submitGroupedTaskItems world (OrderedDict.items grouped) [] s

/-! ### The generator -/

/-- The locals of a running `_iter_raw_results`; `toPoll` are the nodes of the
current round that are still to be polled. -/
structure DrainCall where
  maxCount : Option Int
  limit : Int
  taskIds : Option (Finset TaskId)
  effectiveTarget : Nat
  yielded : Nat
  pollRound : Nat
  toPoll : List NodeId
deriving DecidableEq

def wantedBy (taskIds : Option (Finset TaskId)) (taskId : TaskId) : Bool :=
  match taskIds with
  | none => true
  | some wanted => decide (taskId ∈ wanted)

namespace DrainCall

def countYield (call : DrainCall) : DrainCall :=
  { call with yielded := call.yielded + 1 }

def setToPoll (call : DrainCall) (nodes : List NodeId) : DrainCall :=
  { call with toPoll := nodes }

def targetReached (call : DrainCall) : Bool :=
  decide (0 < call.effectiveTarget ∧ call.effectiveTarget ≤ call.yielded)

def remainingByMax (call : DrainCall) : Nat :=
  if 0 < call.effectiveTarget then call.effectiveTarget - call.yielded else 0

/-- `max(1, int(limit or 100))`, cut to what is left of the target. -/
def perPullLimit (call : DrainCall) : Nat :=
  let limit := max 1 (if call.limit = 0 then 100 else call.limit.toNat)
  if 0 < call.remainingByMax then max 1 (min limit call.remainingByMax)
  else limit

def retarget (call : DrainCall) (pendingCount : Nat) : DrainCall :=
  { call with
    effectiveTarget :=
      match call.maxCount with
      | none => pendingCount
      | some maxCount => maxCount.toNat }

def orderPools (call : DrainCall) (pools : List NodeId) : DrainCall :=
  if pools.isEmpty then call.setToPoll []
  else
    let start := call.pollRound % pools.length
    { call with
      pollRound := call.pollRound + 1
      toPoll := pools.drop start ++ pools.take start }

end DrainCall

/-- The session together with the generator that is running on it, if any.
`delivered` is what the generators have yielded so far, and `heldBack` are the
pulled results of pending tasks that a filter left out. -/
structure DrainState (V D : Type) where
  session : Session V D
  call : Option DrainCall
  delivered : List (NodeId × TaskResult D)
  heldBack : List (NodeId × TaskResult D)

/-- The loop of `_iter_buffered_result_items`: matched items and kept ones. -/
def splitBuffered (pending : Finset TaskId) (taskIds : Option (Finset TaskId))
    (maxCount : Nat) : List (NodeId × TaskResult D) → Nat →
      List (NodeId × TaskResult D) × List (NodeId × TaskResult D)
  | [], _ => ([], [])
  | entry :: entries, matched =>
    if entry.2.taskId ∉ pending then
      splitBuffered pending taskIds maxCount entries matched
    else if !wantedBy taskIds entry.2.taskId ||
        decide (0 < maxCount ∧ maxCount ≤ matched) then
      let rest := splitBuffered pending taskIds maxCount entries matched
      (rest.1, entry :: rest.2)
    else
      let rest := splitBuffered pending taskIds maxCount entries (matched + 1)
      (entry :: rest.1, rest.2)

namespace Session

def setBuffered (s : Session V D) (items : List (NodeId × TaskResult D)) :
    Session V D :=
  { s with bufferedResultItems := items }

def iterBufferedResultItems (s : Session V D)
    (taskIds : Option (Finset TaskId)) (maxCount : Nat) :
    List (NodeId × TaskResult D) × Session V D :=
  let split :=
    splitBuffered s.pendingTaskIds taskIds maxCount s.bufferedResultItems 0
  (split.1, s.setBuffered split.2)

def bufferedTaskIds (s : Session V D) : List TaskId :=
  s.bufferedResultItems.map fun entry => entry.2.taskId

end Session

/-- The results of a pull that belong to pending tasks which the filter leaves
out. -/
def filteredOut (s : Session V D) (taskIds : Option (Finset TaskId))
    (results : List (TaskResult D)) : List (TaskResult D) :=
  results.filter fun result =>
    s.isPendingTaskId result.taskId && !wantedBy taskIds result.taskId

namespace DrainState

def opened : DrainState V D where
  session := Session.opened
  call := none
  delivered := []
  heldBack := []

def setSession (d : DrainState V D) (s : Session V D) : DrainState V D :=
  { d with session := s }

def setCall (d : DrainState V D) (call : Option DrainCall) : DrainState V D :=
  { d with call := call }

/-- `_mark_result_consumed(item.task_id)` and `yield node_id, item`. -/
def deliver (d : DrainState V D) (entry : NodeId × TaskResult D) :
    DrainState V D :=
  { d with
    session := d.session.markResultConsumed entry.2.taskId
    delivered := d.delivered ++ [entry] }

/-- `self._buffered_result_items.append((node_id, item))`. -/
def keepForLater (d : DrainState V D) (entry : NodeId × TaskResult D) :
    DrainState V D :=
  { d with session := d.session.appendBuffered entry.1 entry.2 }

def noteHeldBack (d : DrainState V D) (entries : List (NodeId × TaskResult D)) :
    DrainState V D :=
  { d with heldBack := d.heldBack ++ entries }

def deliverBuffered : List (NodeId × TaskResult D) → DrainCall →
    DrainState V D → DrainState V D × Option DrainCall
  | [], call, d => (d, some call)
  | entry :: entries, call, d =>
    if call.countYield.targetReached then (d.deliver entry, none)
    else deliverBuffered entries call.countYield (d.deliver entry)

def handleResults (nodeId : NodeId) : List (TaskResult D) → DrainCall →
    DrainState V D → DrainState V D × Option DrainCall
  | [], call, d => (d, some call)
  | result :: results, call, d =>
    if !d.session.isPendingTaskId result.taskId then
      handleResults nodeId results call d
    else if !wantedBy call.taskIds result.taskId then
      handleResults nodeId results call (d.keepForLater (nodeId, result))
    else if call.countYield.targetReached then
      (d.deliver (nodeId, result), none)
    else
      handleResults nodeId results call.countYield
        (d.deliver (nodeId, result))

def endRound (d : DrainState V D) (call : DrainCall) : DrainState V D :=
  if call.toPoll.isEmpty && decide (d.session.pendingResultCount = 0) then
    d.setCall none
  else d.setCall (some call)

/-- The loop body up to the polls.  `pools` are the keys of `_pools`. -/
def beginRound (d : DrainState V D) (call : DrainCall) (pools : List NodeId) :
    DrainState V D :=
  let call := call.retarget d.session.pendingResultCount
  if call.targetReached then d.setCall none
  else
    let buffered :=
      d.session.iterBufferedResultItems call.taskIds call.remainingByMax
    match deliverBuffered buffered.1 call (d.setSession buffered.2) with
    | (d, none) => d.setCall none
    | (d, some call) => d.endRound (call.orderPools pools)

def pollNode (d : DrainState V D) (world : World V D) (call : DrainCall)
    (nodeId : NodeId) (accepts : Bool)
    (reply : Except String (List (TaskResult D))) : DrainState V D :=
  if !accepts then d.endRound call
  else
    match reply with
    | .error error =>
      (d.setSession
        (d.session.failPendingTasksForLostNode world nodeId error)).endRound call
    | .ok [] => d.endRound call
    | .ok results =>
      let held := filteredOut d.session call.taskIds results
      match handleResults nodeId results call
          (d.noteHeldBack (held.map fun result => (nodeId, result))) with
      | (d, none) => d.setCall none
      | (d, some call) =>
        if call.targetReached then d.setCall none else d.endRound call

end DrainState

inductive DrainLabel (V D : Type)
  | submitPayloads (payloads : List (RawPayload V)) (targets : List NodeId)
  | openCall (maxCount : Option Int) (limit : Int)
      (taskIds : Option (Finset TaskId))
  | beginRound (pools : List NodeId)
  | poll (accepts : Bool) (reply : Except String (List (TaskResult D)))
  | deadlineReached

def replyWithinLimit (limit : Nat) :
    Except String (List (TaskResult D)) → Bool
  | .error _ => true
  | .ok results => decide (results.length ≤ limit)

def drainStep (world : World V D) (d : DrainState V D) :
    DrainLabel V D → Option (DrainState V D)
  | .submitPayloads payloads targets =>
    if d.call.isSome then none
    else some (d.setSession (submitPayloads world payloads targets d.session).2)
  | .openCall maxCount limit taskIds =>
    if d.call.isSome then none
    else some (d.setCall (some ⟨maxCount, limit, taskIds, 0, 0, 0, []⟩))
  | .beginRound pools =>
    match d.call with
    | none => none
    | some call =>
      if call.toPoll.isEmpty then some (d.beginRound call pools) else none
  | .poll accepts reply =>
    match d.call with
    | none => none
    | some call =>
      match call.toPoll with
      | [] => none
      | nodeId :: rest =>
        if replyWithinLimit call.perPullLimit reply then
          some (d.pollNode world (call.setToPoll rest) nodeId accepts reply)
        else none
  | .deadlineReached =>
    match d.call with
    | none => none
    | some call =>
      if call.toPoll.isEmpty then some (d.setCall none) else none

/-! ### When the buffer takes a result -/

/-- What the answer of a node puts into the buffer belongs to tasks that have
nothing there yet: no two filtered-out results of one task, and no local
failure of a task whose result is waiting. -/
def bufferedOnce (s : Session V D) (taskIds : Option (Finset TaskId))
    (nodeId : NodeId) : Except String (List (TaskResult D)) → Prop
  | .error _ => ∀ taskId ∈ s.nodeTaskIds nodeId, taskId ∉ s.bufferedTaskIds
  | .ok results =>
    ((filteredOut s taskIds results).map TaskResult.taskId).Nodup ∧
      ∀ result ∈ filteredOut s taskIds results,
        result.taskId ∉ s.bufferedTaskIds

instance (s : Session V D) (taskIds : Option (Finset TaskId)) (nodeId : NodeId)
    (reply : Except String (List (TaskResult D))) :
    Decidable (bufferedOnce s taskIds nodeId reply) :=
  match reply with
  | .error _ => inferInstanceAs (Decidable (∀ _ ∈ _, _))
  | .ok _ => inferInstanceAs (Decidable (_ ∧ _))

def buffersOnce (d : DrainState V D) : DrainLabel V D → Prop
  | .poll true reply =>
    ∀ call ∈ d.call, ∀ nodeId ∈ call.toPoll.head?,
      bufferedOnce d.session call.taskIds nodeId reply
  | _ => True

instance (d : DrainState V D) (label : DrainLabel V D) :
    Decidable (buffersOnce d label) :=
  match label with
  | .poll true _ => inferInstanceAs (Decidable (∀ _ ∈ d.call, ∀ _ ∈ _, _))
  | .poll false _ => isTrue trivial
  | .submitPayloads _ _ => isTrue trivial
  | .openCall _ _ _ => isTrue trivial
  | .beginRound _ => isTrue trivial
  | .deadlineReached => isTrue trivial

/-! ### What every step keeps -/

/-- What a drain does to its state keeps the property. -/
structure DrainRules (world : World V D) (holds : DrainState V D → Prop) :
    Prop where
  setCall : ∀ {d}, holds d → ∀ call, holds (d.setCall call)
  setBuffered : ∀ {d}, holds d → ∀ items,
    holds (d.setSession (d.session.setBuffered items))
  deliver : ∀ {d}, holds d → ∀ entry, holds (d.deliver entry)
  keepForLater : ∀ {d}, holds d → ∀ entry, holds (d.keepForLater entry)
  noteHeldBack : ∀ {d}, holds d → ∀ entries, holds (d.noteHeldBack entries)
  lostNode : ∀ {d}, holds d → ∀ nodeId error, holds (d.setSession
    (d.session.failPendingTasksForLostNode world nodeId error))
  submit : ∀ {d}, holds d → ∀ payloads targets, holds (d.setSession
    (submitPayloads world payloads targets d.session).2)

namespace DrainRules

variable {world : World V D} {holds : DrainState V D → Prop}
  {d : DrainState V D}

variable (rules : DrainRules world holds)

include rules

theorem deliverBuffered :
    ∀ (entries : List (NodeId × TaskResult D)) (call : DrainCall)
      (d : DrainState V D), holds d →
      holds (DrainState.deliverBuffered entries call d).1 := by
  intro entries
  induction entries with
  | nil => exact fun _ _ h => h
  | cons entry entries ih =>
    intro call d h
    rw [DrainState.deliverBuffered]
    split
    · exact rules.deliver h entry
    · exact ih _ _ (rules.deliver h entry)

theorem handleResults (nodeId : NodeId) :
    ∀ (results : List (TaskResult D)) (call : DrainCall) (d : DrainState V D),
      holds d → holds (DrainState.handleResults nodeId results call d).1 := by
  intro results
  induction results with
  | nil => exact fun _ _ h => h
  | cons result results ih =>
    intro call d h
    rw [DrainState.handleResults]
    split
    · exact ih _ _ h
    · split
      · exact ih _ _ (rules.keepForLater h _)
      · split
        · exact rules.deliver h _
        · exact ih _ _ (rules.deliver h _)

theorem endRound (h : holds d)
    (call : DrainCall) : holds (d.endRound call) := by
  unfold DrainState.endRound
  split <;> exact rules.setCall h _

theorem beginRound (h : holds d)
    (call : DrainCall) (pools : List NodeId) :
    holds (d.beginRound call pools) := by
  unfold DrainState.beginRound
  simp only
  generalize call.retarget d.session.pendingResultCount = call
  split
  · exact rules.setCall h _
  · have hdrained : holds (DrainState.deliverBuffered
        (d.session.iterBufferedResultItems call.taskIds
          call.remainingByMax).1 call
        (d.setSession (d.session.iterBufferedResultItems call.taskIds
          call.remainingByMax).2)).1 :=
      rules.deliverBuffered _ call _ (rules.setBuffered h _)
    split
    · next hanswer =>
      rw [hanswer] at hdrained
      exact rules.setCall hdrained none
    · next hanswer =>
      rw [hanswer] at hdrained
      exact rules.endRound hdrained _

theorem pollNode (h : holds d)
    (call : DrainCall) (nodeId : NodeId) (accepts : Bool)
    (reply : Except String (List (TaskResult D))) :
    holds (d.pollNode world call nodeId accepts reply) := by
  unfold DrainState.pollNode
  split
  · exact rules.endRound h call
  · split
    · exact rules.endRound (rules.lostNode h nodeId _) call
    · exact rules.endRound h call
    · next results _ =>
      have hhandled := rules.handleResults nodeId results call _
        (rules.noteHeldBack h ((filteredOut d.session call.taskIds results).map
          fun result => (nodeId, result)))
      dsimp only
      split
      · next hanswer =>
        rw [hanswer] at hhandled
        exact rules.setCall hhandled none
      · next hanswer =>
        rw [hanswer] at hhandled
        split
        · exact rules.setCall hhandled none
        · exact rules.endRound hhandled _

theorem step {d' : DrainState V D}
    {label : DrainLabel V D} (h : holds d)
    (hstep : drainStep world d label = some d') : holds d' := by
  cases label with
  | submitPayloads payloads targets =>
    simp only [drainStep] at hstep
    split at hstep <;> cases hstep
    exact rules.submit h payloads targets
  | openCall maxCount limit taskIds =>
    simp only [drainStep] at hstep
    split at hstep <;> cases hstep
    exact rules.setCall h _
  | beginRound pools =>
    simp only [drainStep] at hstep
    split at hstep
    · cases hstep
    · split at hstep <;> cases hstep
      exact rules.beginRound h _ pools
  | poll accepts reply =>
    simp only [drainStep] at hstep
    split at hstep
    · cases hstep
    · split at hstep
      · cases hstep
      · split at hstep <;> cases hstep
        exact rules.pollNode h _ _ accepts reply
  | deadlineReached =>
    simp only [drainStep] at hstep
    split at hstep
    · cases hstep
    · split at hstep <;> cases hstep
      exact rules.setCall h none

theorem reachable {last : DrainState V D}
    (h : holds d) (hreach : Reachable (drainStep world) d last) : holds last :=
  hreach.invariant holds h fun _ _ _ hholds _ hstep => rules.step hholds hstep

end DrainRules

end PycloudParallel.TaskPool
