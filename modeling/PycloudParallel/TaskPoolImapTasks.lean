import PycloudParallel.TaskPoolReplayRecords

/-!
# The tasks of `imap_unordered`

Which tasks are pending, recorded, in the hands of the running code or turned
into an item.  A task that an HTTP batch accepted before a later batch of the
same submit raised is an orphan: its payload went back to the buffer, but the
task is still pending.
-/

namespace PycloudParallel.TaskPool

variable {V D : Type}

/-! ### Orphans -/

/-- The orphans that are still pending, with their nodes, and those whose
result was handed out. -/
structure OrphanLedger where
  live : List (TaskId × NodeId)
  delivered : List TaskId

namespace OrphanLedger

def advance (ledger : OrphanLedger) : SessionEvent V D → OrphanLedger
  | .submitRaised nodeId accepted =>
    { ledger with
      live := ledger.live ++ accepted.map fun taskId => (taskId, nodeId) }
  | .released nodeId =>
    { ledger with live := ledger.live.filter fun entry => entry.2 ≠ nodeId }
  | .pulled _ result =>
    if ledger.live.any fun entry => entry.1 = result.taskId then
      { live := ledger.live.filter fun entry => entry.1 ≠ result.taskId
        delivered := ledger.delivered ++ [result.taskId] }
    else ledger
  | .built _ => ledger
  | .replaced _ _ => ledger

end OrphanLedger

def orphanLedger (history : List (SessionEvent V D)) : OrphanLedger :=
  history.foldl OrphanLedger.advance ⟨[], []⟩

theorem orphanLedger_append (history : List (SessionEvent V D))
    (event : SessionEvent V D) : orphanLedger (history ++ [event]) =
      (orphanLedger history).advance event := by
  simp [orphanLedger]

/-! ### Tasks and items -/

/-- A payload index in the hands of the running code, with the task that stood
for it last. -/
structure Held (V : Type) where
  index : Nat
  taskId : TaskId
  payload : Payload V

def ImapEntry.held (entry : ImapEntry V) : Held V :=
  ⟨entry.index, entry.item.taskId, entry.payload⟩

def TaskReplayRecord.held (record : TaskReplayRecord V) : Held V :=
  ⟨record.logicalIndex, record.currentTaskId, record.originalPayload⟩

def PayloadAt (payloads : List (RawPayload V)) (index : Nat)
    (payload : Payload V) : Prop :=
  payloads[index]?.map RawPayload.asMapping = some payload

structure BuiltFor (payloads : List (RawPayload V))
    (history : List (SessionEvent V D)) (taskId : TaskId) (index : Nat)
    (payload : Payload V) : Prop where
  payloadAt : PayloadAt payloads index payload
  built : .built ⟨taskId, payload⟩ ∈ history

/-- The item tells how its task ended: with a result that was pulled for it, or
with the loss of its node. -/
def CarriesOutcome (world : World V D) (history : List (SessionEvent V D))
    (item : ExecutionItem D) : Prop :=
  (∃ nodeId result, SessionEvent.pulled nodeId result ∈ history ∧
    result.taskId = item.taskId ∧
    item = (taskResultToItem world nodeId result).withLookedUpIndex
      (some item.index.toNat)) ∨
  (item.ok = false ∧ item.errorType = "NodeInstanceLost")

def ItemFor (world : World V D) (payloads : List (RawPayload V))
    (history : List (SessionEvent V D)) (item : ExecutionItem D) : Prop :=
  ∃ index payload, item.index = Int.ofNat index ∧
    BuiltFor payloads history item.taskId index payload ∧
    CarriesOutcome world history item

def TaskFor (payloads : List (RawPayload V)) (core : ImapCore V D)
    (taskId : TaskId) (index : Nat) (payload : Payload V) : Prop :=
  BuiltFor payloads core.session.history taskId index payload ∧
    core.taskIndexById.lookup taskId = some index

theorem BuiltFor.mono {payloads : List (RawPayload V)}
    {history history' : List (SessionEvent V D)} {taskId : TaskId}
    {index : Nat} {payload : Payload V}
    (h : BuiltFor payloads history taskId index payload)
    (hsub : history ⊆ history') :
    BuiltFor payloads history' taskId index payload :=
  ⟨h.payloadAt, hsub h.built⟩

theorem ItemFor.mono {world : World V D} {payloads : List (RawPayload V)}
    {history history' : List (SessionEvent V D)} {item : ExecutionItem D}
    (h : ItemFor world payloads history item) (hsub : history ⊆ history') :
    ItemFor world payloads history' item := by
  obtain ⟨index, payload, hindex, hbuilt, houtcome⟩ := h
  refine ⟨index, payload, hindex, hbuilt.mono hsub, ?_⟩
  rcases houtcome with ⟨nodeId, result, hpulled, hrest⟩ | hlost
  · exact Or.inl ⟨nodeId, result, hsub hpulled, hrest⟩
  · exact Or.inr hlost

/-- The tasks of the generator.  `hand` is what the running code holds, `items`
are all items completed so far. -/
structure ImapTasks (world : World V D) (payloads : List (RawPayload V))
    (hand : List (Held V)) (items : List (ExecutionItem D))
    (core : ImapCore V D) : Prop where
  drawn : ∀ task, SessionEvent.built task ∈ core.session.history →
    task.taskId ≤ core.session.submitSeq
  unique : ∀ task other, SessionEvent.built task ∈ core.session.history →
    SessionEvent.built other ∈ core.session.history →
      task.taskId = other.taskId → task = other
  pending : ∀ taskId ∈ core.session.pendingTaskIds,
    ∃ index payload, TaskFor payloads core taskId index payload
  mapped : ∀ taskId, taskId ∈ core.session.pendingTaskIds ↔
    ∃ nodeId, core.session.pendingTaskNodeIds.lookup taskId = some nodeId
  record : ∀ taskId record,
    core.session.replayRecords.lookup taskId = some record →
      record.currentTaskId = taskId ∧
      core.session.pendingTaskNodeIds.lookup taskId =
        some record.currentNodeId ∧
      TaskFor payloads core taskId record.logicalIndex record.originalPayload
  index : core.session.IndexSound
  held : ∀ h ∈ hand, TaskFor payloads core h.taskId h.index h.payload ∧
    h.taskId ∉ core.session.pendingTaskIds
  hand_nodup : (hand.map Held.taskId).Nodup
  item : ∀ item ∈ items, ItemFor world payloads core.session.history item ∧
    item.taskId ∉ core.session.pendingTaskIds ∧
    ∀ h ∈ hand, h.taskId ≠ item.taskId
  replaced : ∀ old new, SessionEvent.replaced old new ∈ core.session.history →
    old ≤ core.session.submitSeq ∧ old ∉ core.session.pendingTaskIds ∧
    (∀ h ∈ hand, h.taskId ≠ old) ∧ ∀ item ∈ items, item.taskId ≠ old
  orphans : ∀ taskId nodeId,
    (taskId, nodeId) ∈ (orphanLedger core.session.history).live ↔
      core.session.pendingTaskNodeIds.lookup taskId = some nodeId ∧
      core.session.replayRecords.lookup taskId = none

namespace ImapTasks

variable {world : World V D} {payloads : List (RawPayload V)}
  {hand : List (Held V)} {items : List (ExecutionItem D)}
  {core : ImapCore V D}

variable {taskId : TaskId}

section

variable (h : ImapTasks world payloads hand items core)

include h

theorem pending_drawn (hmem : taskId ∈ core.session.pendingTaskIds) :
    taskId ≤ core.session.submitSeq := by
  obtain ⟨index, payload, htask, -⟩ := h.pending taskId hmem
  exact h.drawn _ htask.built

theorem record_pending {record : TaskReplayRecord V}
    (hrecord : core.session.replayRecords.lookup taskId = some record) :
    taskId ∈ core.session.pendingTaskIds :=
  (h.mapped taskId).mpr ⟨_, (h.record taskId record hrecord).2.1⟩

theorem record_none (hnot : taskId ∉ core.session.pendingTaskIds) :
    core.session.replayRecords.lookup taskId = none := by
  cases hrecord : core.session.replayRecords.lookup taskId with
  | none => rfl
  | some record => exact absurd (h.record_pending hrecord) hnot

theorem held_drawn {held : Held V} (hmem : held ∈ hand) :
    held.taskId ≤ core.session.submitSeq :=
  h.drawn _ (h.held held hmem).1.1.built

theorem item_drawn {item : ExecutionItem D} (hmem : item ∈ items) :
    item.taskId ≤ core.session.submitSeq := by
  obtain ⟨index, payload, -, hbuilt, -⟩ := (h.item item hmem).1
  exact h.drawn _ hbuilt.built

theorem live_pending {nodeId : NodeId}
    (hlive : (taskId, nodeId) ∈ (orphanLedger core.session.history).live) :
    taskId ∈ core.session.pendingTaskIds :=
  (h.mapped taskId).mpr ⟨nodeId, ((h.orphans taskId nodeId).mp hlive).1⟩

theorem perm {hand' : List (Held V)} (hperm : hand.Perm hand') :
    ImapTasks world payloads hand' items core where
  drawn := h.drawn
  unique := h.unique
  pending := h.pending
  mapped := h.mapped
  record := h.record
  index := h.index
  held := fun held hmem => h.held held (hperm.mem_iff.mpr hmem)
  hand_nodup := (hperm.map _).nodup_iff.mp h.hand_nodup
  item := fun item hitem => ⟨(h.item item hitem).1, (h.item item hitem).2.1,
    fun held hmem => (h.item item hitem).2.2 held (hperm.mem_iff.mpr hmem)⟩
  replaced := fun old new hevent => by
    obtain ⟨hdrawn, hpending, hhand, hitems⟩ := h.replaced old new hevent
    exact ⟨hdrawn, hpending,
      fun held hmem => hhand held (hperm.mem_iff.mpr hmem), hitems⟩
  orphans := h.orphans

end

theorem drop (dropped : List (Held V))
    (h : ImapTasks world payloads (dropped ++ hand) items core) :
    ImapTasks world payloads hand items core where
  drawn := h.drawn
  unique := h.unique
  pending := h.pending
  mapped := h.mapped
  record := h.record
  index := h.index
  held := fun held hmem => h.held held (List.mem_append_right _ hmem)
  hand_nodup := by
    have hnodup := h.hand_nodup
    rw [List.map_append] at hnodup
    exact (List.nodup_append.mp hnodup).2.1
  item := fun item hitem => ⟨(h.item item hitem).1, (h.item item hitem).2.1,
    fun held hmem =>
      (h.item item hitem).2.2 held (List.mem_append_right _ hmem)⟩
  replaced := fun old new hevent => by
    obtain ⟨hdrawn, hpending, hhand, hitems⟩ := h.replaced old new hevent
    exact ⟨hdrawn, hpending,
      fun held hmem => hhand held (List.mem_append_right _ hmem), hitems⟩
  orphans := h.orphans

end ImapTasks

/-! ### Steps that leave every task where it is -/

def SessionEvent.passive : SessionEvent V D → Prop
  | .built _ => False
  | .replaced _ _ => False
  | _ => True

structure Session.SameTasks (s s' : Session V D) : Prop where
  pending : ∀ taskId, taskId ∈ s'.pendingTaskIds ↔ taskId ∈ s.pendingTaskIds
  nodeIds : ∀ taskId, s'.pendingTaskNodeIds.lookup taskId =
    s.pendingTaskNodeIds.lookup taskId
  records : ∀ taskId, s'.replayRecords.lookup taskId =
    s.replayRecords.lookup taskId
  index : s.IndexSound → s'.IndexSound
  recordIndices : s'.recordIndices = s.recordIndices
  submitSeq : s'.submitSeq = s.submitSeq
  events : ∃ events, s'.history = s.history ++ events ∧
    ∀ event ∈ events, event.passive
  orphans : orphanLedger s'.history = orphanLedger s.history

theorem Session.SameTasks.mem_history {s s' : Session V D}
    (h : s.SameTasks s') {event : SessionEvent V D} (hactive : ¬event.passive) :
    event ∈ s'.history ↔ event ∈ s.history := by
  obtain ⟨events, hevents, hpassive⟩ := h.events
  rw [hevents, List.mem_append]
  exact ⟨fun hmem => hmem.resolve_right fun hnew =>
    hactive (hpassive event hnew), Or.inl⟩

theorem Session.SameTasks.history_subset {s s' : Session V D}
    (h : s.SameTasks s') : s.history ⊆ s'.history := by
  obtain ⟨events, hevents, -⟩ := h.events
  rw [hevents]
  exact List.subset_append_left _ _

theorem TaskFor.mono {payloads : List (RawPayload V)} {core core' : ImapCore V D}
    {taskId : TaskId} {index : Nat} {payload : Payload V}
    (h : TaskFor payloads core taskId index payload)
    (hsub : core.session.history ⊆ core'.session.history)
    (hindex : core'.taskIndexById.lookup taskId =
      core.taskIndexById.lookup taskId) :
    TaskFor payloads core' taskId index payload :=
  ⟨h.1.mono hsub, hindex.trans h.2⟩

theorem TaskFor.setSession {payloads : List (RawPayload V)} {core : ImapCore V D}
    {session : Session V D} {taskId : TaskId} {index : Nat} {payload : Payload V}
    (h : TaskFor payloads core taskId index payload)
    (hsub : core.session.history ⊆ session.history) :
    TaskFor payloads (core.setSession session) taskId index payload :=
  h.mono hsub rfl

namespace ImapTasks

variable {world : World V D} {payloads : List (RawPayload V)}
  {hand : List (Held V)} {items : List (ExecutionItem D)}
  {core : ImapCore V D}

theorem same {core' : ImapCore V D}
    (h : ImapTasks world payloads hand items core)
    (hsession : core.session.SameTasks core'.session)
    (hindex : ∀ taskId, core'.taskIndexById.lookup taskId =
      core.taskIndexById.lookup taskId) :
    ImapTasks world payloads hand items core' where
  drawn := by
    intro task hmem
    rw [hsession.mem_history (by simp [SessionEvent.passive])] at hmem
    exact hsession.submitSeq ▸ h.drawn task hmem
  unique := by
    intro task other htask hother
    rw [hsession.mem_history (by simp [SessionEvent.passive])] at htask hother
    exact h.unique task other htask hother
  pending := by
    intro taskId hmem
    obtain ⟨index, payload, hfor⟩ :=
      h.pending taskId ((hsession.pending taskId).mp hmem)
    exact ⟨index, payload, hfor.mono hsession.history_subset (hindex taskId)⟩
  mapped := by
    intro taskId
    rw [hsession.pending, hsession.nodeIds]
    exact h.mapped taskId
  record := by
    intro taskId record hrecord
    rw [hsession.records] at hrecord
    obtain ⟨hid, hnode, hfor⟩ := h.record taskId record hrecord
    rw [hsession.nodeIds]
    exact ⟨hid, hnode, hfor.mono hsession.history_subset (hindex taskId)⟩
  index := hsession.index h.index
  held := by
    intro held hmem
    rw [hsession.pending]
    exact ⟨(h.held held hmem).1.mono hsession.history_subset
      (hindex held.taskId), (h.held held hmem).2⟩
  hand_nodup := h.hand_nodup
  item := by
    intro item hmem
    rw [hsession.pending]
    exact ⟨(h.item item hmem).1.mono hsession.history_subset,
      (h.item item hmem).2⟩
  replaced := by
    intro old new hevent
    rw [hsession.mem_history (by simp [SessionEvent.passive])] at hevent
    rw [hsession.pending, hsession.submitSeq]
    exact h.replaced old new hevent
  orphans := by
    intro taskId nodeId
    rw [hsession.orphans, hsession.nodeIds, hsession.records]
    exact h.orphans taskId nodeId

end ImapTasks

namespace Session

theorem sameTasks_refl (s : Session V D) : s.SameTasks s :=
  ⟨fun _ => Iff.rfl, fun _ => rfl, fun _ => rfl, id, rfl, rfl,
    ⟨[], by simp⟩, rfl⟩

theorem sameTasks_tick (s : Session V D) : s.SameTasks s.tick :=
  ⟨fun _ => Iff.rfl, fun _ => rfl, fun _ => rfl, id, rfl, rfl,
    ⟨[], by simp [tick]⟩, rfl⟩

theorem Registered.sameTasks {nodeId : NodeId} {s s' : Session V D}
    (h : Registered nodeId [] s s')
    (hhistory : s'.history = s.history ∨
      s'.history = s.history ++ [.submitRaised nodeId []]) :
    s.SameTasks s' where
  pending := by simp [h.pending]
  nodeIds := by simp [h.nodeIds]
  records := by simp [h.replayRecords]
  index := by
    unfold IndexSound
    rw [h.replayNodeIndex, h.replayRecords]
    exact id
  recordIndices := by
    unfold recordIndices
    rw [h.replayRecords]
  submitSeq := h.submitSeq
  events := by
    rcases hhistory with heq | heq
    · exact ⟨[], by simp [heq]⟩
    · exact ⟨_, heq, by simp [SessionEvent.passive]⟩
  orphans := by
    rcases hhistory with heq | heq
    · rw [heq]
    · rw [heq, orphanLedger_append]
      simp [OrphanLedger.advance]

theorem sameTasks_notePulled {s : Session V D} (nodeId : NodeId)
    {result : TaskResult D}
    (hnot : ∀ node, (result.taskId, node) ∉ (orphanLedger s.history).live) :
    s.SameTasks (s.note (.pulled nodeId result)) where
  pending := fun _ => Iff.rfl
  nodeIds := fun _ => rfl
  records := fun _ => rfl
  index := id
  recordIndices := rfl
  submitSeq := rfl
  events := ⟨_, rfl, by simp [SessionEvent.passive]⟩
  orphans := by
    have hany : ((orphanLedger s.history).live.any
        fun entry => entry.1 = result.taskId) = false := by
      rw [List.any_eq_false]
      rintro ⟨taskId, node⟩ hmem heq
      simp only [decide_eq_true_eq] at heq
      exact hnot node (heq ▸ hmem)
    rw [note, orphanLedger_append, OrphanLedger.advance, hany]
    rfl

end Session

/-! ### Drawing, releasing and retiring tasks -/

namespace ImapTasks

variable {world : World V D} {payloads : List (RawPayload V)}
  {hand : List (Held V)} {items : List (ExecutionItem D)}
  {core : ImapCore V D}

variable {session : Session V D}

section

variable (h : ImapTasks world payloads hand items core)

include h

theorem drawId (hsession : session = core.session.nextTaskId.2.tick) :
    ImapTasks world payloads hand items (core.setSession session) := by
  subst hsession
  refine ⟨?_, h.unique, h.pending, h.mapped, h.record, h.index, h.held,
    h.hand_nodup, h.item, ?_, h.orphans⟩
  · intro task hmem
    exact Nat.le_succ_of_le (h.drawn task hmem)
  · intro old new hevent
    obtain ⟨hdrawn, hrest⟩ := h.replaced old new hevent
    exact ⟨Nat.le_succ_of_le hdrawn, hrest⟩

theorem build (payload : Payload V) : ImapTasks world payloads hand items
      (core.setSession (core.session.withBuilt payload)) := by
  have hmem : ∀ event, event ∈ (core.session.withBuilt payload).history ↔
      event ∈ core.session.history ∨
        event = .built ⟨core.session.submitSeq + 1, payload⟩ := by
    intro event
    rw [Session.withBuilt, Session.note, List.mem_append, List.mem_singleton]
    rfl
  have hsub : core.session.history ⊆
      (core.session.withBuilt payload).history :=
    fun event hevent => (hmem event).mpr (Or.inl hevent)
  have hold : ∀ taskId index payload',
      TaskFor payloads core taskId index payload' →
        TaskFor payloads (core.setSession (core.session.withBuilt payload))
          taskId index payload' :=
    fun taskId index payload' hfor => hfor.mono hsub rfl
  constructor
  · intro task htask
    rcases (hmem _).mp htask with hbefore | heq
    · exact Nat.le_succ_of_le (h.drawn task hbefore)
    · cases heq
      exact Nat.le_refl _
  · intro task other htask hother hid
    have holder : ∀ task, SessionEvent.built task ∈ core.session.history →
        task.taskId ≠ core.session.submitSeq + 1 := fun task hbefore =>
      Nat.ne_of_lt (Nat.lt_succ_of_le (h.drawn task hbefore))
    rcases (hmem _).mp htask with htask | heq <;>
      rcases (hmem _).mp hother with hother | heq'
    · exact h.unique task other htask hother hid
    · cases heq'
      exact absurd hid (holder task htask)
    · cases heq
      exact absurd hid.symm (holder other hother)
    · cases heq
      cases heq'
      rfl
  · intro taskId hpending
    obtain ⟨index, payload', hfor⟩ := h.pending taskId hpending
    exact ⟨index, payload', hold _ _ _ hfor⟩
  · exact h.mapped
  · intro taskId record hrecord
    obtain ⟨hid, hnode, hfor⟩ := h.record taskId record hrecord
    exact ⟨hid, hnode, hold _ _ _ hfor⟩
  · exact h.index
  · intro held hheld
    exact ⟨hold _ _ _ (h.held held hheld).1, (h.held held hheld).2⟩
  · exact h.hand_nodup
  · intro item hitem
    exact ⟨(h.item item hitem).1.mono hsub, (h.item item hitem).2⟩
  · intro old new hevent
    obtain ⟨hdrawn, hrest⟩ := h.replaced old new
      (((hmem _).mp hevent).resolve_right (by simp))
    exact ⟨Nat.le_succ_of_le hdrawn, hrest⟩
  · intro taskId nodeId
    have horphans : orphanLedger (core.session.withBuilt payload).history =
        orphanLedger core.session.history := by
      rw [Session.withBuilt, Session.note, orphanLedger_append]
      rfl
    simp only [ImapCore.setSession]
    rw [horphans]
    exact h.orphans taskId nodeId

theorem hold {taskId : TaskId} {index : Nat} {payload : Payload V}
    (hbuilt : BuiltFor payloads core.session.history taskId index payload)
    (hpending : taskId ∉ core.session.pendingTaskIds)
    (hhand : ∀ held ∈ hand, held.taskId ≠ taskId)
    (hitems : ∀ item ∈ items, item.taskId ≠ taskId)
    (hreplaced : ∀ old new,
      SessionEvent.replaced old new ∈ core.session.history → old ≠ taskId) :
    ImapTasks world payloads (⟨index, taskId, payload⟩ :: hand) items
      (core.setTaskIndex taskId index) := by
  have hlookup : ∀ other, (core.setTaskIndex taskId index).taskIndexById.lookup
      other = if other = taskId then some index
        else core.taskIndexById.lookup other := fun other =>
    OrderedDict.lookup_set _ _ _ _
  have hold : ∀ other index' payload', other ≠ taskId →
      TaskFor payloads core other index' payload' →
        TaskFor payloads (core.setTaskIndex taskId index) other index'
          payload' := by
    intro other index' payload' hne hfor
    refine hfor.mono (fun _ hmem => hmem) ?_
    rw [hlookup, if_neg hne]
  have hlive : ∀ other ∈ core.session.pendingTaskIds, other ≠ taskId :=
    fun other hmem heq => hpending (heq ▸ hmem)
  refine ⟨h.drawn, h.unique, ?_, h.mapped, ?_, h.index, ?_, ?_, ?_, ?_,
    h.orphans⟩
  · intro other hmem
    obtain ⟨index', payload', hfor⟩ := h.pending other hmem
    exact ⟨index', payload', hold _ _ _ (hlive other hmem) hfor⟩
  · intro other record hrecord
    obtain ⟨hid, hnode, hfor⟩ := h.record other record hrecord
    exact ⟨hid, hnode,
      hold _ _ _ (hlive other (h.record_pending hrecord)) hfor⟩
  · intro held hmem
    rcases List.mem_cons.mp hmem with heq | htail
    · subst heq
      refine ⟨⟨hbuilt, ?_⟩, hpending⟩
      rw [hlookup, if_pos rfl]
    · exact ⟨hold _ _ _ (hhand held htail) (h.held held htail).1,
        (h.held held htail).2⟩
  · rw [List.map_cons, List.nodup_cons]
    refine ⟨?_, h.hand_nodup⟩
    intro hmem
    obtain ⟨held, hheld, heq⟩ := List.mem_map.mp hmem
    exact hhand held hheld heq
  · intro item hmem
    obtain ⟨hitem, hsettled, hothers⟩ := h.item item hmem
    refine ⟨hitem, hsettled, ?_⟩
    intro held hheld
    rcases List.mem_cons.mp hheld with heq | htail
    · subst heq
      exact (hitems item hmem).symm
    · exact hothers held htail
  · intro old new hevent
    obtain ⟨hdrawn, hsettled, hothers, hdone⟩ := h.replaced old new hevent
    refine ⟨hdrawn, hsettled, ?_, hdone⟩
    intro held hheld
    rcases List.mem_cons.mp hheld with heq | htail
    · subst heq
      exact (hreplaced old new hevent).symm
    · exact hothers held htail

theorem drawTask {index : Nat} {payload : Payload V}
    (hat : PayloadAt payloads index payload) : ImapTasks world payloads
      (⟨index, core.session.submitSeq + 1, payload⟩ :: hand) items
      ((core.setSession (core.session.withBuilt payload)).setTaskIndex
        (core.session.submitSeq + 1) index) := by
  have hnew : ∀ taskId, taskId ≤ core.session.submitSeq →
      taskId ≠ core.session.submitSeq + 1 := fun taskId hle =>
    Nat.ne_of_lt (Nat.lt_succ_of_le hle)
  have hevent : SessionEvent.built ⟨core.session.submitSeq + 1, payload⟩ ∈
      (core.session.withBuilt payload).history :=
    List.mem_append_right _ (List.mem_singleton_self _)
  apply (h.build payload).hold ⟨hat, hevent⟩
  · exact fun hmem => hnew _ (h.pending_drawn hmem) rfl
  · exact fun held hmem => hnew _ (h.held_drawn hmem)
  · exact fun item hmem => hnew _ (h.item_drawn hmem)
  · intro old new hmem
    have hbefore := (List.mem_append.mp hmem).resolve_right (by simp)
    exact hnew _ (h.replaced old new hbefore).1

end

theorem retire {held : Held V} {new : TaskId} {core' : ImapCore V D}
    (h : ImapTasks world payloads (held :: hand) items core)
    (hsession : core'.session = core.session.note (.replaced held.taskId new))
    (hindex : ∀ taskId, taskId ≠ held.taskId →
      core'.taskIndexById.lookup taskId = core.taskIndexById.lookup taskId) :
    ImapTasks world payloads hand items core' := by
  have hheld := h.held held (List.mem_cons_self ..)
  have hrest := List.nodup_cons.mp h.hand_nodup
  have hdrop : ImapTasks world payloads hand items core :=
    drop [held] h
  have hsub : core.session.history ⊆ core'.session.history := by
    rw [hsession]
    exact List.subset_append_left _ _
  have hold : ∀ taskId index payload, taskId ≠ held.taskId →
      TaskFor payloads core taskId index payload →
        TaskFor payloads core' taskId index payload :=
    fun taskId index payload hne hfor => hfor.mono hsub (hindex taskId hne)
  have hne : ∀ taskId ∈ core.session.pendingTaskIds, taskId ≠ held.taskId :=
    fun taskId hmem heq => hheld.2 (heq ▸ hmem)
  have hevents : ∀ event, event ∈ core'.session.history ↔
      event ∈ core.session.history ∨ event = .replaced held.taskId new := by
    intro event
    rw [hsession, Session.note, List.mem_append, List.mem_singleton]
  constructor
  · intro task hmem
    rw [hsession]
    exact h.drawn task (((hevents _).mp hmem).resolve_right (by simp))
  · intro task other htask hother
    exact h.unique task other (((hevents _).mp htask).resolve_right (by simp))
      (((hevents _).mp hother).resolve_right (by simp))
  · rw [hsession]
    intro taskId hmem
    obtain ⟨index, payload, hfor⟩ := h.pending taskId hmem
    exact ⟨index, payload, hold _ _ _ (hne taskId hmem) hfor⟩
  · rw [hsession]
    exact h.mapped
  · rw [hsession]
    intro taskId record hrecord
    obtain ⟨hid, hnode, hfor⟩ := h.record taskId record hrecord
    exact ⟨hid, hnode, hold _ _ _ (hne taskId (h.record_pending hrecord)) hfor⟩
  · rw [hsession]
    exact h.index
  · intro other hmem
    obtain ⟨hfor, hnot⟩ := hdrop.held other hmem
    have hdiff : other.taskId ≠ held.taskId := fun heq =>
      hrest.1 (heq ▸ List.mem_map_of_mem hmem)
    rw [hsession]
    exact ⟨hold _ _ _ hdiff hfor, hnot⟩
  · exact hrest.2
  · intro item hmem
    obtain ⟨hitem, hsettled, hhand⟩ := hdrop.item item hmem
    rw [hsession] at hsub ⊢
    exact ⟨hitem.mono hsub, hsettled, hhand⟩
  · intro old other hevent
    rcases (hevents _).mp hevent with hmem | heq
    · rw [hsession]
      exact hdrop.replaced old other hmem
    · cases heq
      rw [hsession]
      refine ⟨h.held_drawn (List.mem_cons_self ..), hheld.2, ?_, ?_⟩
      · intro other hmem heq
        exact hrest.1 (heq ▸ List.mem_map_of_mem hmem)
      · intro item hmem heq
        exact (h.item item hmem).2.2 held (List.mem_cons_self ..) heq.symm
  · intro taskId nodeId
    rw [hsession, Session.note, orphanLedger_append]
    exact h.orphans taskId nodeId

theorem complete {held : Held V} {item : ExecutionItem D}
    (h : ImapTasks world payloads (held :: hand) items core)
    (hid : item.taskId = held.taskId)
    (hindex : item.index = Int.ofNat held.index)
    (houtcome : CarriesOutcome world core.session.history item) :
    ImapTasks world payloads hand (items ++ [item]) core := by
  have hheld := h.held held (List.mem_cons_self ..)
  have hrest := List.nodup_cons.mp h.hand_nodup
  have hdrop : ImapTasks world payloads hand items core :=
    drop [held] h
  refine ⟨hdrop.drawn, hdrop.unique, hdrop.pending, hdrop.mapped, hdrop.record,
    hdrop.index, hdrop.held, hdrop.hand_nodup, ?_, ?_, hdrop.orphans⟩
  · intro other hmem
    rcases List.mem_append.mp hmem with hold | hnew
    · exact hdrop.item other hold
    · rw [List.mem_singleton] at hnew
      subst hnew
      rw [hid]
      refine ⟨⟨held.index, held.payload, hindex, hid ▸ hheld.1.1, houtcome⟩,
        hheld.2, ?_⟩
      intro other hmem heq
      exact hrest.1 (heq ▸ List.mem_map_of_mem hmem)
  · intro old new hevent
    obtain ⟨hdrawn, hsettled, hhand, hitems⟩ := h.replaced old new hevent
    refine ⟨hdrawn, hsettled,
      fun other hmem => hhand other (List.mem_cons_of_mem _ hmem), ?_⟩
    intro other hmem
    rcases List.mem_append.mp hmem with hold | hnew
    · exact hitems other hold
    · rw [List.mem_singleton] at hnew
      subst hnew
      rw [hid]
      exact hhand held (List.mem_cons_self ..)

/-! ### Tasks that enter and leave the pending set -/

theorem accept {nodeId : NodeId} (records : List (TaskReplayRecord V))
    (h : ImapTasks world payloads
      (records.map TaskReplayRecord.held ++ hand) items core)
    (hacc : Session.Accepted nodeId records core.session session)
    (hnode : ∀ record ∈ records, record.currentNodeId = nodeId) :
    ImapTasks world payloads hand items (core.setSession session) := by
  have hdrop : ImapTasks world payloads hand items core := drop _ h
  have hids : ∀ taskId,
      taskId ∈ records.map TaskReplayRecord.currentTaskId →
        ∃ record ∈ records, record.currentTaskId = taskId ∧
          record.held ∈ records.map TaskReplayRecord.held ++ hand := by
    intro taskId hmem
    obtain ⟨record, hrecord, heq⟩ := List.mem_map.mp hmem
    exact ⟨record, hrecord, heq,
      List.mem_append_left _ (List.mem_map_of_mem hrecord)⟩
  have hfresh : ∀ taskId,
      taskId ∈ records.map TaskReplayRecord.currentTaskId →
        taskId ∉ core.session.pendingTaskIds := by
    intro taskId hmem
    obtain ⟨record, -, heq, hheld⟩ := hids taskId hmem
    exact heq ▸ (h.held record.held hheld).2
  have hdisjoint : ∀ taskId,
      taskId ∈ records.map TaskReplayRecord.currentTaskId →
        ∀ held ∈ hand, held.taskId ≠ taskId := by
    intro taskId hmem held hheld heq
    have hnodup := h.hand_nodup
    rw [List.map_append, List.map_map] at hnodup
    exact (List.nodup_append.mp hnodup).2.2 taskId hmem held.taskId
      (List.mem_map_of_mem hheld) heq.symm
  have hsub : core.session.history ⊆ session.history := by
    rw [hacc.history]
    exact fun _ hmem => hmem
  constructor
  · simp only [ImapCore.setSession, hacc.history, hacc.submitSeq]
    exact h.drawn
  · simp only [ImapCore.setSession, hacc.history]
    exact h.unique
  · intro taskId hmem
    rcases (hacc.pending taskId).mp hmem with hnew | hbefore
    · obtain ⟨record, -, heq, hheld⟩ := hids taskId hnew
      exact ⟨record.logicalIndex, record.originalPayload,
        heq ▸ (h.held record.held hheld).1.setSession hsub⟩
    · obtain ⟨index, payload, hfor⟩ := h.pending taskId hbefore
      exact ⟨index, payload, hfor.setSession hsub⟩
  · intro taskId
    simp only [ImapCore.setSession, hacc.pending, hacc.nodeIds]
    split
    · next hnew => simp [hnew]
    · next hnew =>
      rw [← h.mapped]
      simp [hnew]
  · intro taskId record hrecord
    simp only [ImapCore.setSession, hacc.nodeIds] at hrecord ⊢
    by_cases hnew : taskId ∈ records.map TaskReplayRecord.currentTaskId
    · obtain ⟨found, hfound, heq, hheld⟩ := hids taskId hnew
      rw [← heq, hacc.registered found hfound, Option.some.injEq] at hrecord
      subst hrecord
      rw [if_pos hnew, hnode found hfound]
      exact ⟨heq, rfl, heq ▸ (h.held found.held hheld).1.setSession hsub⟩
    · rw [hacc.others taskId hnew] at hrecord
      obtain ⟨hid, hat, hfor⟩ := h.record taskId record hrecord
      rw [if_neg hnew]
      exact ⟨hid, hat, hfor.setSession hsub⟩
  · exact hacc.index h.index
  · intro held hmem
    obtain ⟨hfor, hnot⟩ := hdrop.held held hmem
    refine ⟨hfor.setSession hsub, ?_⟩
    simp only [ImapCore.setSession, hacc.pending, not_or]
    exact ⟨fun hnew => hdisjoint _ hnew held hmem rfl, hnot⟩
  · exact hdrop.hand_nodup
  · intro item hmem
    obtain ⟨hitem, hsettled, hhand⟩ := h.item item hmem
    refine ⟨hitem.mono hsub, ?_, (hdrop.item item hmem).2.2⟩
    simp only [ImapCore.setSession, hacc.pending, not_or]
    refine ⟨?_, hsettled⟩
    intro hnew
    obtain ⟨record, -, heq, hheld⟩ := hids _ hnew
    exact hhand record.held hheld heq
  · simp only [ImapCore.setSession, hacc.history, hacc.submitSeq, hacc.pending]
    intro old new hevent
    obtain ⟨hdrawn, hsettled, hhand, hitems⟩ := h.replaced old new hevent
    refine ⟨hdrawn, ?_, (hdrop.replaced old new hevent).2.2.1, hitems⟩
    rintro (hnew | hbefore)
    · obtain ⟨record, -, heq, hheld⟩ := hids _ hnew
      exact hhand record.held hheld heq
    · exact hsettled hbefore
  · intro taskId node
    simp only [ImapCore.setSession, hacc.history, hacc.nodeIds]
    by_cases hnew : taskId ∈ records.map TaskReplayRecord.currentTaskId
    · obtain ⟨found, hfound, heq, -⟩ := hids taskId hnew
      rw [if_pos hnew, ← heq, hacc.registered found hfound]
      constructor
      · intro hlive
        exact absurd (h.live_pending hlive) (heq ▸ hfresh taskId hnew)
      · rintro ⟨-, hnone⟩
        cases hnone
    · rw [if_neg hnew, hacc.others taskId hnew]
      exact h.orphans taskId node

/-- A submit that raised turns the held tasks it had registered into orphans
and takes all of them out of the hands of the running code. -/
theorem orphan {nodeId : NodeId} {dropped : List (Held V)}
    {registered : List TaskId}
    (h : ImapTasks world payloads (dropped ++ hand) items core)
    (hreg : Session.Registered nodeId registered core.session session)
    (hdropped : registered ⊆ dropped.map Held.taskId)
    (hhistory : session.history =
      core.session.history ++ [.submitRaised nodeId registered]) :
    ImapTasks world payloads hand items (core.setSession session) := by
  have hdrop : ImapTasks world payloads hand items core := drop _ h
  have hids : ∀ taskId ∈ registered,
      ∃ held ∈ dropped ++ hand, held.taskId = taskId := by
    intro taskId hmem
    obtain ⟨held, hheld, heq⟩ := List.mem_map.mp (hdropped hmem)
    exact ⟨held, List.mem_append_left _ hheld, heq⟩
  have hfresh : ∀ taskId ∈ registered,
      taskId ∉ core.session.pendingTaskIds := by
    intro taskId hmem
    obtain ⟨held, hheld, heq⟩ := hids taskId hmem
    exact heq ▸ (h.held held hheld).2
  have hdisjoint : ∀ taskId ∈ registered, ∀ held ∈ hand,
      held.taskId ≠ taskId := by
    intro taskId hmem held hheld heq
    have hnodup := h.hand_nodup
    rw [List.map_append] at hnodup
    exact (List.nodup_append.mp hnodup).2.2 taskId (hdropped hmem) held.taskId
      (List.mem_map_of_mem hheld) heq.symm
  have hsub : core.session.history ⊆ session.history := by
    rw [hhistory]
    exact List.subset_append_left _ _
  have hbuilt : ∀ task, SessionEvent.built task ∈ session.history →
      SessionEvent.built task ∈ core.session.history := by
    intro task hmem
    rw [hhistory, List.mem_append, List.mem_singleton] at hmem
    exact hmem.resolve_right (by simp)
  constructor
  · intro task hmem
    simp only [ImapCore.setSession, hreg.submitSeq]
    exact h.drawn task (hbuilt task hmem)
  · intro task other htask hother
    exact h.unique task other (hbuilt task htask) (hbuilt other hother)
  · intro taskId hmem
    rcases (hreg.pending taskId).mp hmem with hnew | hbefore
    · obtain ⟨held, hheld, heq⟩ := hids taskId hnew
      exact ⟨held.index, held.payload,
        heq ▸ (h.held held hheld).1.setSession hsub⟩
    · obtain ⟨index, payload, hfor⟩ := h.pending taskId hbefore
      exact ⟨index, payload, hfor.setSession hsub⟩
  · intro taskId
    simp only [ImapCore.setSession, hreg.pending, hreg.nodeIds]
    split
    · next hnew => simp [hnew]
    · next hnew =>
      rw [← h.mapped]
      simp [hnew]
  · intro taskId record hrecord
    simp only [ImapCore.setSession, hreg.replayRecords, hreg.nodeIds]
      at hrecord ⊢
    have hnot : taskId ∉ registered := fun hnew =>
      hfresh taskId hnew (h.record_pending hrecord)
    obtain ⟨hid, hat, hfor⟩ := h.record taskId record hrecord
    rw [if_neg hnot]
    exact ⟨hid, hat, hfor.setSession hsub⟩
  · simp only [ImapCore.setSession, Session.IndexSound, hreg.replayNodeIndex,
      hreg.replayRecords]
    exact h.index
  · intro held hmem
    obtain ⟨hfor, hnot⟩ := hdrop.held held hmem
    refine ⟨hfor.setSession hsub, ?_⟩
    simp only [ImapCore.setSession, hreg.pending, not_or]
    exact ⟨fun hnew => hdisjoint _ hnew held hmem rfl, hnot⟩
  · exact hdrop.hand_nodup
  · intro item hmem
    obtain ⟨hitem, hsettled, hhand⟩ := h.item item hmem
    refine ⟨hitem.mono hsub, ?_, (hdrop.item item hmem).2.2⟩
    simp only [ImapCore.setSession, hreg.pending, not_or]
    refine ⟨?_, hsettled⟩
    intro hnew
    obtain ⟨held, hheld, heq⟩ := hids _ hnew
    exact hhand held hheld heq
  · simp only [ImapCore.setSession, hreg.submitSeq, hreg.pending]
    intro old new hevent
    rw [hhistory, List.mem_append, List.mem_singleton] at hevent
    have hevent := hevent.resolve_right (by simp)
    obtain ⟨hdrawn, hsettled, hhand, hitems⟩ := h.replaced old new hevent
    refine ⟨hdrawn, ?_, (hdrop.replaced old new hevent).2.2.1, hitems⟩
    rintro (hnew | hbefore)
    · obtain ⟨held, hheld, heq⟩ := hids _ hnew
      exact hhand held hheld heq
    · exact hsettled hbefore
  · intro taskId node
    simp only [ImapCore.setSession, hhistory, orphanLedger_append,
      OrphanLedger.advance, hreg.nodeIds, hreg.replayRecords, List.mem_append,
      List.mem_map, Prod.mk.injEq]
    by_cases hnew : taskId ∈ registered
    · rw [if_pos hnew, h.record_none (hfresh taskId hnew)]
      constructor
      · rintro (hlive | ⟨other, -, -, heq⟩)
        · exact absurd (h.live_pending hlive) (hfresh taskId hnew)
        · exact ⟨congrArg some heq, rfl⟩
      · rintro ⟨heq, -⟩
        exact Or.inr ⟨taskId, hnew, rfl, Option.some.inj heq⟩
    · rw [if_neg hnew, ← h.orphans taskId node]
      constructor
      · rintro (hlive | ⟨other, hother, heq, -⟩)
        · exact hlive
        · exact absurd (heq ▸ hother) hnew
      · exact Or.inl

theorem leave {gone : List TaskId}
    (h : ImapTasks world payloads hand items core) (taken : List (Held V))
    (event : SessionEvent V D) (hpassive : event.passive)
    (hdropped : Session.Dropped gone (core.session.note event) session)
    (hindex : session.IndexSound)
    (horphans : ∀ taskId nodeId,
      (taskId, nodeId) ∈ (orphanLedger (core.session.note event).history).live ↔
        taskId ∉ gone ∧
          (taskId, nodeId) ∈ (orphanLedger core.session.history).live)
    (htaken : ∀ held ∈ taken, held.taskId ∈ gone ∧
      held.taskId ∈ core.session.pendingTaskIds ∧
      TaskFor payloads core held.taskId held.index held.payload)
    (hnodup : (taken.map Held.taskId).Nodup) :
    ImapTasks world payloads (taken ++ hand) items (core.setSession session) := by
  have hsub : core.session.history ⊆ session.history := by
    rw [hdropped.history]
    exact List.subset_append_left _ _
  have hevents : ∀ other : SessionEvent V D, ¬other.passive →
      other ∈ session.history → other ∈ core.session.history := by
    intro other hactive hmem
    rw [hdropped.history, Session.note, List.mem_append,
      List.mem_singleton] at hmem
    exact hmem.resolve_right fun heq => hactive (heq ▸ hpassive)
  have hpending : ∀ taskId, taskId ∈ session.pendingTaskIds ↔
      taskId ∈ core.session.pendingTaskIds ∧ taskId ∉ gone := by
    intro taskId
    rw [hdropped.pending, Finset.mem_sdiff, List.mem_toFinset]
    rfl
  have hnodes : ∀ taskId, session.pendingTaskNodeIds.lookup taskId =
      if taskId ∈ gone then none
      else core.session.pendingTaskNodeIds.lookup taskId := hdropped.nodeIds
  have hrecords : ∀ taskId, session.replayRecords.lookup taskId =
      if taskId ∈ gone then none
      else core.session.replayRecords.lookup taskId := hdropped.records
  have hseq : session.submitSeq = core.session.submitSeq := hdropped.submitSeq
  constructor
  · simp only [ImapCore.setSession, hseq]
    intro task hmem
    exact h.drawn task (hevents _ (by simp [SessionEvent.passive]) hmem)
  · intro task other htask hother
    exact h.unique task other
      (hevents _ (by simp [SessionEvent.passive]) htask)
      (hevents _ (by simp [SessionEvent.passive]) hother)
  · intro taskId hmem
    obtain ⟨index, payload, hfor⟩ := h.pending taskId ((hpending taskId).mp hmem).1
    exact ⟨index, payload, hfor.setSession hsub⟩
  · intro taskId
    simp only [ImapCore.setSession, hpending, hnodes]
    split
    · next hgone => simp [hgone]
    · next hgone =>
      rw [← h.mapped]
      simp [hgone]
  · intro taskId record hrecord
    simp only [ImapCore.setSession, hrecords, hnodes] at hrecord ⊢
    split at hrecord
    · cases hrecord
    · next hgone =>
      obtain ⟨hid, hat, hfor⟩ := h.record taskId record hrecord
      rw [if_neg hgone]
      exact ⟨hid, hat, hfor.setSession hsub⟩
  · exact hindex
  · intro held hmem
    simp only [ImapCore.setSession, hpending]
    rcases List.mem_append.mp hmem with hnew | hbefore
    · obtain ⟨hgone, -, hfor⟩ := htaken held hnew
      exact ⟨hfor.setSession hsub, fun hboth => hboth.2 hgone⟩
    · obtain ⟨hfor, hnot⟩ := h.held held hbefore
      exact ⟨hfor.setSession hsub, fun hboth => hnot hboth.1⟩
  · rw [List.map_append]
    refine List.Nodup.append hnodup h.hand_nodup ?_
    intro taskId hnew hbefore
    obtain ⟨held, hheld, rfl⟩ := List.mem_map.mp hnew
    obtain ⟨other, hother, heq⟩ := List.mem_map.mp hbefore
    exact (h.held other hother).2 (heq ▸ (htaken held hheld).2.1)
  · intro item hmem
    obtain ⟨hitem, hsettled, hhand⟩ := h.item item hmem
    simp only [ImapCore.setSession, hpending]
    refine ⟨hitem.mono hsub, fun hboth => hsettled hboth.1, ?_⟩
    intro held hheld
    rcases List.mem_append.mp hheld with hnew | hbefore
    · exact fun heq => hsettled (heq ▸ (htaken held hnew).2.1)
    · exact hhand held hbefore
  · intro old new hevent
    simp only [ImapCore.setSession, hpending, hseq]
    obtain ⟨hdrawn, hsettled, hhand, hitems⟩ := h.replaced old new
      (hevents _ (by simp [SessionEvent.passive]) hevent)
    refine ⟨hdrawn, fun hboth => hsettled hboth.1, ?_, hitems⟩
    intro held hheld
    rcases List.mem_append.mp hheld with hnew | hbefore
    · exact fun heq => hsettled (heq ▸ (htaken held hnew).2.1)
    · exact hhand held hbefore
  · intro taskId node
    simp only [ImapCore.setSession]
    rw [hdropped.history, horphans, h.orphans, hnodes, hrecords]
    split <;> next hgone => simp [hgone]

end ImapTasks

/-! ### Taking back the tasks of a node -/

theorem takeTasks_taken {world : World V D} {payloads : List (RawPayload V)}
    {hand : List (Held V)} {items : List (ExecutionItem D)}
    {core : ImapCore V D} (h : ImapTasks world payloads hand items core)
    {taskIds : List TaskId} (hnodup : taskIds.Nodup) :
    let taken := taskIds.filterMap core.session.replayRecords.lookup
    (∀ record ∈ taken, record.currentTaskId ∈ taskIds ∧
      core.session.replayRecords.lookup record.currentTaskId = some record) ∧
    (taken.map TaskReplayRecord.currentTaskId).Nodup := by
  have hid : ∀ taskId record,
      core.session.replayRecords.lookup taskId = some record →
        record.currentTaskId = taskId := fun taskId record hrecord =>
    (h.record taskId record hrecord).1
  refine ⟨?_, ?_⟩
  · intro record hmem
    obtain ⟨taskId, htaskId, hrecord⟩ := List.mem_filterMap.mp hmem
    rw [hid taskId record hrecord]
    exact ⟨htaskId, hrecord⟩
  · rw [List.Nodup, List.pairwise_map]
    apply List.Pairwise.filterMap core.session.replayRecords.lookup ?_ hnodup
    intro first second hne record hrecord other hother heq
    rw [hid first record hrecord, hid second other hother] at heq
    exact hne heq

namespace ImapTasks

variable {world : World V D} {payloads : List (RawPayload V)}
  {hand : List (Held V)} {items : List (ExecutionItem D)}
  {core : ImapCore V D}

theorem release (h : ImapTasks world payloads hand items core)
    (nodeId : NodeId) :
    ImapTasks world payloads
      ((core.session.releaseNodeTasks world nodeId).1.map
        TaskReplayRecord.held ++ hand) items
      (core.setSession (core.session.releaseNodeTasks world nodeId).2.2) := by
  have hperm := world.setOrder_perm (core.session.nodeTaskIds nodeId)
  have hnodup : (world.setOrder (core.session.nodeTaskIds nodeId)).Nodup :=
    hperm.nodup_iff.mpr (core.session.nodeTaskIds_nodup nodeId)
  have hgone : ∀ taskId, taskId ∈ world.setOrder
      (core.session.nodeTaskIds nodeId) ↔
        (taskId ∈ (core.session.replayNodeIndex.lookup nodeId).getD [] ∨
          core.session.pendingTaskNodeIds.lookup taskId = some nodeId) := by
    intro taskId
    rw [hperm.mem_iff, Session.nodeTaskIds, List.mem_union_iff,
      Session.mem_mappedTaskIds]
  unfold Session.releaseNodeTasks
  generalize world.setOrder (core.session.nodeTaskIds nodeId) = gone
    at hnodup hgone
  obtain ⟨htaken, hdistinct⟩ := takeTasks_taken h hnodup
  rw [Session.takeTasks_fst gone _ hnodup]
  have hsame : (core.session.note (.released nodeId)).replayRecords =
      core.session.replayRecords := rfl
  rw [hsame]
  apply h.leave _ (.released nodeId) trivial
    (Session.dropped_takeTasks gone _)
  · exact Session.IndexSound.takeTasks gone h.index
  · intro taskId node
    rw [Session.note, orphanLedger_append, OrphanLedger.advance,
      List.mem_filter, decide_eq_true_eq]
    constructor
    · rintro ⟨hlive, hne⟩
      refine ⟨?_, hlive⟩
      obtain ⟨hat, hnone⟩ := (h.orphans taskId node).mp hlive
      rw [hgone]
      rintro (hindexed | hmapped)
      · cases hlist : core.session.replayNodeIndex.lookup nodeId with
        | none => simp [hlist] at hindexed
        | some taskIds =>
          rw [hlist] at hindexed
          obtain ⟨record, hrecord, -⟩ := h.index nodeId taskIds taskId hlist
            hindexed
          rw [hnone] at hrecord
          cases hrecord
      · rw [hat] at hmapped
        exact hne (Option.some.inj hmapped)
    · rintro ⟨hstays, hlive⟩
      refine ⟨hlive, ?_⟩
      intro heq
      apply hstays
      rw [hgone]
      exact Or.inr (heq ▸ ((h.orphans taskId node).mp hlive).1)
  · intro held hheld
    obtain ⟨record, hmem, rfl⟩ := List.mem_map.mp hheld
    obtain ⟨hin, hrecord⟩ := htaken record hmem
    exact ⟨hin, h.record_pending hrecord,
      (h.record record.currentTaskId record hrecord).2.2⟩
  · rw [List.map_map]
    exact hdistinct

/-! ### A pulled result of a pending task -/

theorem dropped_consumeResult (core : ImapCore V D) (taskId : TaskId) :
    Session.Dropped [taskId] core.session
      (consumeResult core taskId).2.session := by
  have hsecond := Session.dropped_markResultConsumed
    (core.session.takeReplayRecord taskId).2 taskId
  have hfirst : (core.session.takeReplayRecord taskId).2.replayRecords.lookup
        taskId = none ∧
      (∀ other, other ≠ taskId →
        (core.session.takeReplayRecord taskId).2.replayRecords.lookup other =
          core.session.replayRecords.lookup other) ∧
      (core.session.takeReplayRecord taskId).2.pendingTaskIds =
        core.session.pendingTaskIds ∧
      (core.session.takeReplayRecord taskId).2.pendingTaskNodeIds =
        core.session.pendingTaskNodeIds ∧
      (core.session.takeReplayRecord taskId).2.bufferedResultItems =
        core.session.bufferedResultItems ∧
      (core.session.takeReplayRecord taskId).2.submitSeq =
        core.session.submitSeq ∧
      (core.session.takeReplayRecord taskId).2.clock = core.session.clock ∧
      (core.session.takeReplayRecord taskId).2.history =
        core.session.history := by
    unfold Session.takeReplayRecord Session.removeReplayRecord
    split
    · next hnone => exact ⟨hnone, fun _ _ => rfl, rfl, rfl, rfl, rfl, rfl, rfl⟩
    · refine ⟨?_, ?_, rfl, rfl, rfl, rfl, rfl, rfl⟩
      · simp [Session.dropReplayRecord]
      · intro other hne
        simp [Session.dropReplayRecord, hne]
  obtain ⟨hgone, hothers, hpending, hnodes, hbuffered, hseq, hclock,
    hhistory⟩ := hfirst
  constructor
  · exact hpending ▸ hsecond.pending
  · exact hnodes ▸ hsecond.nodeIds
  · intro other
    refine (hsecond.records other).trans ?_
    split
    · rfl
    · next hne => exact hothers other (by simpa using hne)
  · exact hsecond.bufferedResultItems.trans hbuffered
  · exact hsecond.submitSeq.trans hseq
  · exact hsecond.clock.trans hclock
  · exact hsecond.history.trans hhistory

theorem indexSound_consumeResult {core : ImapCore V D}
    (h : core.session.IndexSound) (taskId : TaskId) :
    (consumeResult core taskId).2.session.IndexSound := by
  have hfirst : (core.session.takeReplayRecord taskId).2.IndexSound :=
    h.removeReplayRecord taskId
  exact Session.IndexSound.takeTask hfirst taskId

theorem recordIndices_consumeResult (core : ImapCore V D) (taskId : TaskId) :
    core.session.recordIndices.Perm
      ((core.session.replayRecords.lookup taskId).toList.map
          TaskReplayRecord.logicalIndex ++
        (consumeResult core taskId).2.session.recordIndices) := by
  have hfirst := core.session.recordIndices_removeReplayRecord taskId
  rw [Session.removeReplayRecord_fst] at hfirst
  refine hfirst.trans ?_
  have hgone : (core.session.removeReplayRecord taskId).2.replayRecords.lookup
      taskId = none := by
    unfold Session.removeReplayRecord
    split
    · next hnone => exact hnone
    · simp [Session.dropReplayRecord]
  have hsecond : ((core.session.removeReplayRecord taskId).2.discardPending
      taskId).removeReplayRecord taskId = (none,
        (core.session.removeReplayRecord taskId).2.discardPending taskId) := by
    unfold Session.removeReplayRecord at hgone ⊢
    rw [Session.discardPending]
    simp only [hgone]
  have hsame : (consumeResult core taskId).2.session.recordIndices =
      (core.session.removeReplayRecord taskId).2.recordIndices := by
    simp only [consumeResult, ImapCore.setSession, Session.markResultConsumed,
      Session.takeReplayRecord, hsecond]
    rfl
  rw [hsame]

theorem consumeRecorded (h : ImapTasks world payloads hand items core)
    (nodeId : NodeId) {result : TaskResult D} {record : TaskReplayRecord V}
    (hrecord : core.session.replayRecords.lookup result.taskId = some record) :
    ImapTasks world payloads (record.held :: hand) items
        (consumeResult (core.setSession (core.session.note
          (.pulled nodeId result))) result.taskId).2 ∧
      orphanLedger (core.session.note (.pulled nodeId result)).history =
        orphanLedger core.session.history := by
  have hnot : ∀ node, (result.taskId, node) ∉
      (orphanLedger core.session.history).live := by
    intro node hlive
    have hnone := ((h.orphans result.taskId node).mp hlive).2
    rw [hrecord] at hnone
    cases hnone
  have hquiet := (Session.sameTasks_notePulled nodeId hnot).orphans
  refine ⟨?_, hquiet⟩
  have hdropped := dropped_consumeResult (core.setSession (core.session.note
    (.pulled nodeId result))) result.taskId
  obtain ⟨hid, -, hfor⟩ := h.record result.taskId record hrecord
  apply h.leave [record.held] (.pulled nodeId result) trivial hdropped
  · have hnoted : (core.setSession (core.session.note
        (.pulled nodeId result))).session.IndexSound := h.index
    exact indexSound_consumeResult hnoted result.taskId
  · intro taskId node
    rw [hquiet, List.mem_singleton]
    exact ⟨fun hlive => ⟨fun heq => hnot node (heq ▸ hlive), hlive⟩,
      fun hboth => hboth.2⟩
  · intro held hmem
    rw [List.mem_singleton] at hmem
    subst hmem
    have hheld : record.held.taskId = result.taskId := hid
    rw [hheld]
    exact ⟨List.mem_singleton_self _, h.record_pending hrecord, hfor⟩
  · simp

theorem consumeOrphan (h : ImapTasks world payloads hand items core)
    (nodeId : NodeId) {result : TaskResult D}
    (hpending : result.taskId ∈ core.session.pendingTaskIds)
    (hnone : core.session.replayRecords.lookup result.taskId = none) :
    ∃ held : Held V, held.taskId = result.taskId ∧
      ImapTasks world payloads (held :: hand) items
        (consumeResult (core.setSession (core.session.note
          (.pulled nodeId result))) result.taskId).2 ∧
      (orphanLedger (core.session.note
          (.pulled nodeId result)).history).delivered =
        (orphanLedger core.session.history).delivered ++ [result.taskId] := by
  obtain ⟨index, payload, hfor⟩ := h.pending result.taskId hpending
  obtain ⟨node, hnode⟩ := (h.mapped result.taskId).mp hpending
  have hlive : (result.taskId, node) ∈
      (orphanLedger core.session.history).live :=
    (h.orphans result.taskId node).mpr ⟨hnode, hnone⟩
  have hany : ((orphanLedger core.session.history).live.any
      fun entry => entry.1 = result.taskId) = true :=
    List.any_eq_true.mpr ⟨_, hlive, by simp⟩
  have hadvance : orphanLedger (core.session.note
      (.pulled nodeId result)).history =
      { live := (orphanLedger core.session.history).live.filter
          fun entry => entry.1 ≠ result.taskId
        delivered := (orphanLedger core.session.history).delivered ++
          [result.taskId] } := by
    rw [Session.note, orphanLedger_append, OrphanLedger.advance, if_pos hany]
  refine ⟨⟨index, result.taskId, payload⟩, rfl, ?_, by rw [hadvance]⟩
  have hdropped := dropped_consumeResult (core.setSession (core.session.note
    (.pulled nodeId result))) result.taskId
  apply h.leave [⟨index, result.taskId, payload⟩] (.pulled nodeId result)
    trivial hdropped
  · have hnoted : (core.setSession (core.session.note
        (.pulled nodeId result))).session.IndexSound := h.index
    exact indexSound_consumeResult hnoted result.taskId
  · intro taskId other
    rw [hadvance]
    simp [and_comm]
  · intro held hmem
    rw [List.mem_singleton] at hmem
    subst hmem
    exact ⟨List.mem_singleton_self _, hpending, hfor⟩
  · simp

end ImapTasks

end PycloudParallel.TaskPool
