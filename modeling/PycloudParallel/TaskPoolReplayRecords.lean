import PycloudParallel.TaskPoolImap

/-!
# Replay records of a session

Which tasks have a replay record, and what taking tasks back from a node or
registering accepted ones does to the records and to the index by node.
-/

namespace PycloudParallel.TaskPool

open OrderedDict

variable {V D : Type}

namespace Session

def IndexSound (s : Session V D) : Prop :=
  ∀ nodeId taskIds taskId, s.replayNodeIndex.lookup nodeId = some taskIds →
    taskId ∈ taskIds → ∃ record, s.replayRecords.lookup taskId = some record ∧
      record.currentNodeId = nodeId

def recordIndices (s : Session V D) : List Nat :=
  (OrderedDict.values s.replayRecords).map TaskReplayRecord.logicalIndex

variable {s : Session V D}

theorem lookup_discardNodeIndex {nodeId other : NodeId} {taskId : TaskId}
    {taskIds : List TaskId}
    (h : (s.discardNodeIndex nodeId taskId).lookup other = some taskIds) :
    ∃ olds, s.replayNodeIndex.lookup other = some olds ∧
      ∀ id ∈ taskIds, id ∈ olds ∧ (other = nodeId → id ≠ taskId) := by
  unfold discardNodeIndex at h
  split at h
  · next hnone =>
    refine ⟨taskIds, h, ?_⟩
    intro id hid
    refine ⟨hid, ?_⟩
    intro heq
    rw [heq, hnone] at h
    cases h
  · next tasks htasks =>
    simp only at h
    split at h
    · rw [lookup_erase] at h
      split at h
      · cases h
      · next hne =>
        exact ⟨taskIds, h, fun id hid => ⟨hid, fun heq => absurd heq hne⟩⟩
    · rw [lookup_set] at h
      split at h
      · next heq =>
        cases h
        refine ⟨tasks, heq ▸ htasks, ?_⟩
        intro id hid
        obtain ⟨hmem, hne⟩ := List.mem_filter.mp hid
        exact ⟨hmem, fun _ => of_decide_eq_true hne⟩
      · next hne =>
        exact ⟨taskIds, h, fun id hid => ⟨hid, fun heq => absurd heq hne⟩⟩

theorem IndexSound.removeReplayRecord (h : s.IndexSound) (taskId : TaskId) :
    (s.removeReplayRecord taskId).2.IndexSound := by
  unfold Session.removeReplayRecord
  split
  · exact h
  · next record hrecord =>
    intro nodeId taskIds id hlookup hid
    obtain ⟨olds, holds, hfilter⟩ := lookup_discardNodeIndex hlookup
    obtain ⟨hmem, hne⟩ := hfilter id hid
    obtain ⟨found, hfound, hnode⟩ := h nodeId olds id holds hmem
    refine ⟨found, ?_, hnode⟩
    simp only [dropReplayRecord, lookup_erase]
    split
    · next heq =>
      subst heq
      rw [hrecord, Option.some.injEq] at hfound
      exact absurd rfl (hne (by rw [← hnode, ← hfound]))
    · exact hfound

theorem recordIndices_removeReplayRecord (s : Session V D) (taskId : TaskId) :
    s.recordIndices.Perm
      ((s.removeReplayRecord taskId).1.toList.map
          TaskReplayRecord.logicalIndex ++
        (s.removeReplayRecord taskId).2.recordIndices) := by
  unfold Session.removeReplayRecord
  split
  · exact List.Perm.refl _
  · next record hrecord =>
    exact (values_perm_erase hrecord).map _

/-! ### Taking tasks -/

theorem IndexSound.takeTask (h : s.IndexSound) (taskId : TaskId) :
    (s.takeTask taskId).2.IndexSound := by
  have hdiscard : (s.discardPending taskId).IndexSound := h
  exact hdiscard.removeReplayRecord taskId

theorem takeTask_fst (s : Session V D) (taskId : TaskId) :
    (s.takeTask taskId).1 = s.replayRecords.lookup taskId :=
  (s.discardPending taskId).removeReplayRecord_fst taskId

theorem takeTasks_fst : ∀ (taskIds : List TaskId) (s : Session V D),
    taskIds.Nodup →
    (takeTasks taskIds s).1 = taskIds.filterMap s.replayRecords.lookup
  | [], _, _ => rfl
  | taskId :: taskIds, s, hnodup => by
    obtain ⟨hnotin, hrest⟩ := List.nodup_cons.mp hnodup
    have hsame : taskIds.filterMap (s.takeTask taskId).2.replayRecords.lookup =
        taskIds.filterMap s.replayRecords.lookup := by
      apply List.filterMap_congr
      intro other hother
      have hne : other ≠ taskId := fun heq => hnotin (heq ▸ hother)
      rw [(s.dropped_takeTask taskId).records]
      simp [hne]
    have ih := takeTasks_fst taskIds (s.takeTask taskId).2 hrest
    rw [takeTasks, List.filterMap_cons, ← takeTask_fst]
    cases (s.takeTask taskId).1 with
    | none => exact ih.trans hsame
    | some record => exact congrArg (record :: ·) (ih.trans hsame)

theorem IndexSound.takeTasks : ∀ (taskIds : List TaskId) {s : Session V D},
    s.IndexSound → (takeTasks taskIds s).2.2.IndexSound
  | [], _, h => h
  | taskId :: taskIds, s, h => by
    rw [takeTasks_cons]
    exact IndexSound.takeTasks taskIds (h.takeTask taskId)

theorem recordIndices_takeTasks : ∀ (taskIds : List TaskId) (s : Session V D),
    s.recordIndices.Perm
      ((takeTasks taskIds s).1.map TaskReplayRecord.logicalIndex ++
        (takeTasks taskIds s).2.2.recordIndices)
  | [], s => List.Perm.refl _
  | taskId :: taskIds, s => by
    have hfirst : s.recordIndices.Perm
        ((s.takeTask taskId).1.toList.map TaskReplayRecord.logicalIndex ++
          (s.takeTask taskId).2.recordIndices) :=
      (s.discardPending taskId).recordIndices_removeReplayRecord taskId
    have ih := recordIndices_takeTasks taskIds (s.takeTask taskId).2
    rw [takeTasks]
    cases hrecord : (s.takeTask taskId).1 with
    | none =>
      rw [hrecord] at hfirst
      exact hfirst.trans ih
    | some record =>
      rw [hrecord] at hfirst
      exact hfirst.trans (ih.cons record.logicalIndex)

/-! ### Registering accepted tasks -/

/-- The session after the tasks of `records` were accepted at the node and
registered; nothing else changed but the clock. -/
structure Accepted (nodeId : NodeId) (records : List (TaskReplayRecord V))
    (s s' : Session V D) : Prop where
  pending : ∀ taskId, taskId ∈ s'.pendingTaskIds ↔
    taskId ∈ records.map TaskReplayRecord.currentTaskId ∨
      taskId ∈ s.pendingTaskIds
  nodeIds : ∀ taskId, s'.pendingTaskNodeIds.lookup taskId =
    if taskId ∈ records.map TaskReplayRecord.currentTaskId then some nodeId
    else s.pendingTaskNodeIds.lookup taskId
  registered : ∀ record ∈ records,
    s'.replayRecords.lookup record.currentTaskId = some record
  others : ∀ taskId, taskId ∉ records.map TaskReplayRecord.currentTaskId →
    s'.replayRecords.lookup taskId = s.replayRecords.lookup taskId
  index : s.IndexSound → s'.IndexSound
  recordIndices : s'.recordIndices.Perm
    (records.map TaskReplayRecord.logicalIndex ++ s.recordIndices)
  history : s'.history = s.history
  submitSeq : s'.submitSeq = s.submitSeq

/-- The part of `Accepted` that registering replay records brings about. -/
structure RecordsRegistered (records : List (TaskReplayRecord V))
    (s s' : Session V D) : Prop where
  registered : ∀ record ∈ records,
    s'.replayRecords.lookup record.currentTaskId = some record
  others : ∀ taskId, taskId ∉ records.map TaskReplayRecord.currentTaskId →
    s'.replayRecords.lookup taskId = s.replayRecords.lookup taskId
  index : s.IndexSound → s'.IndexSound
  recordIndices : s'.recordIndices.Perm
    (records.map TaskReplayRecord.logicalIndex ++ s.recordIndices)
  pendingTaskIds : s'.pendingTaskIds = s.pendingTaskIds
  pendingTaskNodeIds : s'.pendingTaskNodeIds = s.pendingTaskNodeIds
  history : s'.history = s.history
  submitSeq : s'.submitSeq = s.submitSeq

theorem IndexSound.registerReplayRecord (h : s.IndexSound)
    {record : TaskReplayRecord V}
    (hnew : s.replayRecords.lookup record.currentTaskId = none) :
    (s.registerReplayRecord record).IndexSound := by
  intro nodeId taskIds taskId hlookup hmem
  simp only [Session.registerReplayRecord, lookup_set]
    at hlookup ⊢
  split
  · next heq =>
    refine ⟨record, rfl, ?_⟩
    subst heq
    split at hlookup
    · next hnode => exact hnode.symm
    · obtain ⟨found, hfound, -⟩ := h nodeId taskIds _ hlookup hmem
      rw [hnew] at hfound
      cases hfound
  · next hne =>
    split at hlookup
    · next hnode =>
      cases hlookup
      rcases List.mem_insert_iff.mp hmem with heq | hold
      · exact absurd heq hne
      · cases hindex : s.replayNodeIndex.lookup record.currentNodeId with
        | none => simp [hindex] at hold
        | some olds =>
          simp only [hindex, Option.getD_some] at hold
          obtain ⟨found, hfound, hat⟩ := h _ olds taskId hindex hold
          exact ⟨found, hfound, hat.trans hnode.symm⟩
    · exact h nodeId taskIds taskId hlookup hmem

theorem recordsRegistered_foldl :
    ∀ (records : List (TaskReplayRecord V)) (s : Session V D),
      (records.map TaskReplayRecord.currentTaskId).Nodup →
      (∀ record ∈ records,
        s.replayRecords.lookup record.currentTaskId = none) →
      RecordsRegistered records s (records.foldl registerReplayRecord s)
  | [], s, _, _ => by
    constructor <;> simp
  | record :: records, s, hnodup, hnew => by
    rw [List.map_cons, List.nodup_cons] at hnodup
    have hrecord := hnew record (List.mem_cons_self ..)
    have hnewer : ∀ other ∈ records, (s.registerReplayRecord
        record).replayRecords.lookup other.currentTaskId = none := by
      intro other hother
      have hne : other.currentTaskId ≠ record.currentTaskId := fun heq =>
        hnodup.1 (heq ▸ List.mem_map_of_mem hother)
      rw [Session.registerReplayRecord, lookup_set_ne _ _ hne]
      exact hnew other (List.mem_cons_of_mem _ hother)
    have ih := recordsRegistered_foldl records (s.registerReplayRecord record)
      hnodup.2 hnewer
    rw [List.foldl_cons]
    constructor
    · intro other hother
      rcases List.mem_cons.mp hother with heq | htail
      · subst heq
        rw [ih.others _ hnodup.1, Session.registerReplayRecord,
          lookup_set_self]
      · exact ih.registered other htail
    · intro taskId hnotin
      rw [List.map_cons, List.mem_cons, not_or] at hnotin
      rw [ih.others taskId hnotin.2, Session.registerReplayRecord,
        lookup_set_ne _ _ hnotin.1]
    · intro hsound
      exact ih.index (hsound.registerReplayRecord hrecord)
    · have habsent : record.currentTaskId ∉ s.replayRecords := by
        rw [mem_iff_lookup, hrecord]
        simp
      have hfirst : (s.registerReplayRecord record).recordIndices =
          s.recordIndices ++ [record.logicalIndex] := by
        simp [recordIndices, Session.registerReplayRecord,
          values_set_of_notMem _ habsent]
      refine ih.recordIndices.trans ?_
      rw [hfirst, List.map_cons, List.cons_append, ← List.append_assoc]
      exact List.perm_append_singleton _ _
    · exact ih.pendingTaskIds
    · exact ih.pendingTaskNodeIds
    · exact ih.history
    · exact ih.submitSeq

theorem Registered.accepted {nodeId : NodeId} {mid s' : Session V D}
    {records : List (TaskReplayRecord V)}
    (hreg : Registered nodeId (records.map TaskReplayRecord.currentTaskId)
      s mid) (hhistory : mid.history = s.history)
    (hrecords : RecordsRegistered records mid s') :
    Accepted nodeId records s s' where
  pending := by
    intro taskId
    rw [hrecords.pendingTaskIds, hreg.pending]
  nodeIds := by
    intro taskId
    rw [hrecords.pendingTaskNodeIds, hreg.nodeIds]
  registered := hrecords.registered
  others := by
    intro taskId hnotin
    rw [hrecords.others taskId hnotin, hreg.replayRecords]
  index := by
    intro hsound
    apply hrecords.index
    unfold IndexSound
    rw [hreg.replayNodeIndex, hreg.replayRecords]
    exact hsound
  recordIndices := by
    have hsame : mid.recordIndices = s.recordIndices := by
      unfold Session.recordIndices
      rw [hreg.replayRecords]
    exact hsame ▸ hrecords.recordIndices
  history := hrecords.history.trans hhistory
  submitSeq := hrecords.submitSeq.trans hreg.submitSeq

end Session

end PycloudParallel.TaskPool
