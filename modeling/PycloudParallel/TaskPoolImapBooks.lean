import PycloudParallel.TaskPoolExactlyOnce
import Mathlib.Data.Finset.Card

/-!
# The books of a running `imap_unordered`

Four dictionaries of the session say which tasks are pending, on which node each
of them is, and which replay record would send it out again; the generator itself
counts the tasks in flight for each node.
-/

namespace PycloudParallel.TaskPool

open OrderedDict

variable {V D : Type}

namespace ImapControl

theorem inflight_setInflight (control : ImapControl) (nodeId other : NodeId)
    (count : Nat) :
    (control.setInflight nodeId count).inflight other =
      if other = nodeId then count else control.inflight other := by
  rw [inflight, setInflight, lookup_set]
  split <;> rfl

theorem totalInflight_setInflight (control : ImapControl) (nodeId : NodeId)
    (count : Nat) :
    (control.setInflight nodeId count).totalInflight + control.inflight nodeId =
      control.totalInflight + count := by
  have htotal := total_set id control.inflightByNode nodeId count
  have hold : (control.inflightByNode.lookup nodeId).elim 0 id =
      control.inflight nodeId := by
    rw [inflight]
    cases control.inflightByNode.lookup nodeId <;> rfl
  simpa [OrderedDict.total, totalInflight, setInflight, hold] using htotal

end ImapControl

namespace Session

/-! ## The records and their index -/

def filed (s : Session V D) (nodeId : NodeId) : List TaskId :=
  (s.replayNodeIndex.lookup nodeId).getD []

/-- The index lists each recorded task under the node of its record, and nothing
else. -/
def IndexExact (s : Session V D) : Prop :=
  ∀ taskId nodeId, taskId ∈ s.filed nodeId ↔
    ∃ record, s.replayRecords.lookup taskId = some record ∧
      record.currentNodeId = nodeId

theorem IndexExact.congr {s s' : Session V D} (h : s.IndexExact)
    (hrecords : s'.replayRecords = s.replayRecords)
    (hindex : s'.replayNodeIndex = s.replayNodeIndex) : s'.IndexExact := by
  simp only [IndexExact, filed, hrecords, hindex]
  exact h

theorem mem_filed_discard {s : Session V D} {nodeId other : NodeId}
    {taskId id : TaskId} :
    id ∈ ((s.discardNodeIndex nodeId taskId).lookup other).getD [] ↔
      id ∈ s.filed other ∧ ¬(id = taskId ∧ other = nodeId) := by
  rw [discardNodeIndex, filed]
  split
  case h_1 hnone =>
    refine ⟨fun hid => ⟨hid, ?_⟩, And.left⟩
    rintro ⟨-, rfl⟩
    simp [hnone] at hid
  case h_2 tasks htasks =>
    by_cases hother : other = nodeId
    · subst hother
      simp only
      split
      case isTrue hempty =>
        have hall : ∀ id ∈ tasks, id = taskId := by
          simpa [List.isEmpty_iff, List.filter_eq_nil_iff] using hempty
        simp only [lookup_erase, if_true, Option.getD_none,
          List.not_mem_nil, htasks, Option.getD_some, false_iff, not_and]
        exact fun hid hne => hne (hall id hid) trivial
      case isFalse =>
        simp [htasks]
    · have hsame : ((if (tasks.filter (· ≠ taskId)).isEmpty then
          s.replayNodeIndex.erase nodeId
        else OrderedDict.set s.replayNodeIndex nodeId
          (tasks.filter (· ≠ taskId))).lookup other) =
          s.replayNodeIndex.lookup other := by
        split
        · rw [lookup_erase, if_neg hother]
        · rw [lookup_set_ne _ _ hother]
      simp only [hsame, hother, and_false, not_false_eq_true, and_true]

theorem IndexExact.removeReplayRecord {s : Session V D} (h : s.IndexExact)
    (taskId : TaskId) : (s.removeReplayRecord taskId).2.IndexExact := by
  rw [Session.removeReplayRecord]
  split
  case h_1 => exact h
  case h_2 record hrecord =>
    intro id nodeId
    rw [filed, dropReplayRecord, mem_filed_discard, h id nodeId,
      lookup_erase]
    split
    case isTrue hsame =>
      subst hsame
      simp only [hrecord, Option.some_inj, exists_eq_left', true_and,
        reduceCtorEq, false_and, exists_false, iff_false, not_and, not_not]
      exact Eq.symm
    case isFalse hother => simp [hother]

theorem IndexExact.takeTask {s : Session V D} (h : s.IndexExact)
    (taskId : TaskId) : (s.takeTask taskId).2.IndexExact := by
  have hdiscard : (s.discardPending taskId).IndexExact := h
  exact hdiscard.removeReplayRecord taskId

theorem IndexExact.takeTasks (taskIds : List TaskId) {s : Session V D}
    (h : s.IndexExact) : (takeTasks taskIds s).2.2.IndexExact := by
  induction taskIds generalizing s with
  | nil => exact h
  | cons taskId taskIds ih =>
    rw [takeTasks_cons]
    exact ih (h.takeTask taskId)

theorem IndexExact.registerReplayRecord {s : Session V D} (h : s.IndexExact)
    {record : TaskReplayRecord V}
    (hnew : s.replayRecords.lookup record.currentTaskId = none) :
    (s.registerReplayRecord record).IndexExact := by
  have hnone : ∀ nodeId, record.currentTaskId ∉ s.filed nodeId := by
    intro nodeId hfiled
    obtain ⟨found, hfound, -⟩ := (h _ nodeId).mp hfiled
    rw [hnew] at hfound
    cases hfound
  intro taskId nodeId
  have hfiled : taskId ∈ (s.registerReplayRecord record).filed nodeId ↔
      taskId = record.currentTaskId ∧ nodeId = record.currentNodeId ∨
        taskId ∈ s.filed nodeId := by
    rw [filed, Session.registerReplayRecord, lookup_set]
    by_cases hnode : nodeId = record.currentNodeId
    · subst hnode
      simp [List.mem_insert_iff, filed]
    · simp [hnode, filed]
  rw [hfiled, Session.registerReplayRecord, lookup_set]
  by_cases hsame : taskId = record.currentTaskId
  · subst hsame
    simp [hnone, eq_comm]
  · simp [hsame, h taskId nodeId]

theorem IndexExact.registerRecords (records : List (TaskReplayRecord V))
    {s : Session V D} (h : s.IndexExact)
    (hnodup : (records.map TaskReplayRecord.currentTaskId).Nodup)
    (hnew : ∀ record ∈ records,
      s.replayRecords.lookup record.currentTaskId = none) :
    (records.foldl Session.registerReplayRecord s).IndexExact := by
  induction records generalizing s with
  | nil => exact h
  | cons record records ih =>
    rw [List.map_cons, List.nodup_cons] at hnodup
    apply ih (h.registerReplayRecord (hnew record List.mem_cons_self)) hnodup.2
    intro other hother
    have hne : other.currentTaskId ≠ record.currentTaskId := fun heq =>
      hnodup.1 (heq ▸ List.mem_map_of_mem hother)
    rw [Session.registerReplayRecord, lookup_set_ne _ _ hne]
    exact hnew other (List.mem_cons_of_mem _ hother)

/-! ## The books -/

def mappedTo (s : Session V D) (nodeId : NodeId) : Finset TaskId :=
  s.pendingTaskIds.filter fun taskId =>
    s.pendingTaskNodeIds.lookup taskId = some nodeId

/-- Every pending task is on its node and has the replay record of that node;
nothing else is on a node or has a record. -/
structure Books (home : TaskId → NodeId) (s : Session V D) : Prop where
  drawn : ∀ taskId ∈ s.pendingTaskIds, taskId ≤ s.submitSeq
  mapped : ∀ taskId nodeId, s.pendingTaskNodeIds.lookup taskId = some nodeId →
    taskId ∈ s.pendingTaskIds ∧ home taskId = nodeId
  recorded : ∀ taskId ∈ s.pendingTaskIds, ∃ record,
    s.replayRecords.lookup taskId = some record ∧
    record.currentTaskId = taskId ∧
    s.pendingTaskNodeIds.lookup taskId = some record.currentNodeId
  only : ∀ taskId record, s.replayRecords.lookup taskId = some record →
    taskId ∈ s.pendingTaskIds
  index : s.IndexExact

structure SameBooks (s s' : Session V D) : Prop where
  pendingTaskIds : s'.pendingTaskIds = s.pendingTaskIds
  pendingTaskNodeIds : ∀ taskId,
    s'.pendingTaskNodeIds.lookup taskId = s.pendingTaskNodeIds.lookup taskId
  replayRecords : s'.replayRecords = s.replayRecords
  replayNodeIndex : s'.replayNodeIndex = s.replayNodeIndex
  submitSeq : s.submitSeq ≤ s'.submitSeq

namespace SameBooks

theorem refl (s : Session V D) : SameBooks s s :=
  ⟨rfl, fun _ => rfl, rfl, rfl, le_rfl⟩

theorem trans {s mid s' : Session V D} (hfirst : SameBooks s mid)
    (hsecond : SameBooks mid s') : SameBooks s s' where
  pendingTaskIds := hsecond.pendingTaskIds.trans hfirst.pendingTaskIds
  pendingTaskNodeIds := fun taskId => (hsecond.pendingTaskNodeIds taskId).trans
    (hfirst.pendingTaskNodeIds taskId)
  replayRecords := hsecond.replayRecords.trans hfirst.replayRecords
  replayNodeIndex := hsecond.replayNodeIndex.trans hfirst.replayNodeIndex
  submitSeq := hfirst.submitSeq.trans hsecond.submitSeq

theorem tick (s : Session V D) : SameBooks s s.tick :=
  ⟨rfl, fun _ => rfl, rfl, rfl, le_rfl⟩

theorem note (s : Session V D) (event : SessionEvent V D) :
    SameBooks s (s.note event) :=
  ⟨rfl, fun _ => rfl, rfl, rfl, le_rfl⟩

theorem withBuilt (s : Session V D) (payload : Payload V) :
    SameBooks s (s.withBuilt payload) :=
  ⟨rfl, fun _ => rfl, rfl, rfl, Nat.le_succ _⟩

theorem nextTaskId (s : Session V D) : SameBooks s s.nextTaskId.2.tick :=
  ⟨rfl, fun _ => rfl, rfl, rfl, Nat.le_succ _⟩

theorem of_registered {s s' : Session V D} {nodeId : NodeId}
    (h : Registered nodeId [] s s') : SameBooks s s' where
  pendingTaskIds := by
    ext taskId
    simp [h.pending]
  pendingTaskNodeIds := fun taskId => by simp [h.nodeIds]
  replayRecords := h.replayRecords
  replayNodeIndex := h.replayNodeIndex
  submitSeq := h.submitSeq.ge

theorem mappedTo {s s' : Session V D} (h : SameBooks s s') (nodeId : NodeId) :
    s'.mappedTo nodeId = s.mappedTo nodeId := by
  simp only [Session.mappedTo, h.pendingTaskIds, h.pendingTaskNodeIds]

end SameBooks

namespace Books

variable {home : TaskId → NodeId} {s s' : Session V D}

theorem same (h : Books home s) (hsame : SameBooks s s') : Books home s' where
  drawn := by
    rw [hsame.pendingTaskIds]
    exact fun taskId hmem => (h.drawn taskId hmem).trans hsame.submitSeq
  mapped := by
    simp only [hsame.pendingTaskIds, hsame.pendingTaskNodeIds]
    exact h.mapped
  recorded := by
    simp only [hsame.pendingTaskIds, hsame.pendingTaskNodeIds,
      hsame.replayRecords]
    exact h.recorded
  only := by
    rw [hsame.pendingTaskIds, hsame.replayRecords]
    exact h.only
  index := h.index.congr hsame.replayRecords hsame.replayNodeIndex

variable {taskId : TaskId} {nodeId : NodeId}
  {records : List (TaskReplayRecord V)}

theorem record_none (h : Books home s) (hnot : taskId ∉ s.pendingTaskIds) :
    s.replayRecords.lookup taskId = none := by
  rw [Option.eq_none_iff_forall_ne_some]
  intro record hrecord
  exact hnot (h.only taskId record hrecord)

theorem mem_mappedTo (h : Books home s) :
    taskId ∈ s.mappedTo nodeId ↔
      s.pendingTaskNodeIds.lookup taskId = some nodeId := by
  rw [Session.mappedTo, Finset.mem_filter]
  exact and_iff_right_of_imp fun hat => (h.mapped taskId nodeId hat).1

theorem mem_nodeTaskIds (h : Books home s) :
    taskId ∈ s.nodeTaskIds nodeId ↔ taskId ∈ s.mappedTo nodeId := by
  rw [h.mem_mappedTo, nodeTaskIds, List.mem_union_iff, mem_mappedTaskIds]
  refine or_iff_right_of_imp fun hfiled => ?_
  obtain ⟨record, hrecord, rfl⟩ := (h.index taskId nodeId).mp hfiled
  obtain ⟨other, hother, -, hat⟩ :=
    h.recorded taskId (h.only taskId record hrecord)
  rw [hrecord, Option.some_inj] at hother
  rw [hat, ← hother]

/-! ### Accepted tasks -/

theorem accept (h : Books home s) (hacc : Accepted nodeId records s s')
    (hindex : s'.IndexExact)
    (hnode : ∀ record ∈ records, record.currentNodeId = nodeId)
    (hdrawn : ∀ record ∈ records, record.currentTaskId ≤ s.submitSeq)
    (hhome : ∀ record ∈ records, home record.currentTaskId = nodeId) :
    Books home s' where
  drawn := by
    intro taskId hmem
    rw [hacc.submitSeq]
    obtain hnew | hold := (hacc.pending taskId).mp hmem
    · obtain ⟨record, hrecord, rfl⟩ := List.mem_map.mp hnew
      exact hdrawn record hrecord
    · exact h.drawn taskId hold
  mapped := by
    intro taskId other hat
    rw [hacc.nodeIds] at hat
    rw [hacc.pending]
    split at hat
    case isTrue hnew =>
      obtain ⟨record, hrecord, rfl⟩ := List.mem_map.mp hnew
      rw [Option.some_inj] at hat
      exact ⟨Or.inl hnew, (hhome record hrecord).trans hat⟩
    case isFalse =>
      exact (h.mapped taskId other hat).imp_left Or.inr
  recorded := by
    intro taskId hmem
    by_cases hnew : taskId ∈ records.map TaskReplayRecord.currentTaskId
    · obtain ⟨record, hrecord, rfl⟩ := List.mem_map.mp hnew
      refine ⟨record, hacc.registered record hrecord, rfl, ?_⟩
      rw [hacc.nodeIds, if_pos hnew, hnode record hrecord]
    · have hold := ((hacc.pending taskId).mp hmem).resolve_left hnew
      rw [hacc.others taskId hnew, hacc.nodeIds, if_neg hnew]
      exact h.recorded taskId hold
  only := by
    intro taskId record hrecord
    rw [hacc.pending]
    by_cases hnew : taskId ∈ records.map TaskReplayRecord.currentTaskId
    · exact Or.inl hnew
    · rw [hacc.others taskId hnew] at hrecord
      exact Or.inr (h.only taskId record hrecord)
  index := hindex

theorem card_pending_accept (hacc : Accepted nodeId records s s')
    (hnodup : (records.map TaskReplayRecord.currentTaskId).Nodup)
    (hfresh : ∀ record ∈ records, record.currentTaskId ∉ s.pendingTaskIds) :
    s'.pendingTaskIds.card = s.pendingTaskIds.card + records.length := by
  have hpending : s'.pendingTaskIds = s.pendingTaskIds ∪
      (records.map TaskReplayRecord.currentTaskId).toFinset := by
    ext taskId
    rw [hacc.pending, Finset.mem_union, List.mem_toFinset, or_comm]
  have hdisjoint : Disjoint s.pendingTaskIds
      (records.map TaskReplayRecord.currentTaskId).toFinset := by
    rw [Finset.disjoint_right]
    intro taskId hnew
    obtain ⟨record, hrecord, rfl⟩ := List.mem_map.mp (List.mem_toFinset.mp hnew)
    exact hfresh record hrecord
  rw [hpending, Finset.card_union_of_disjoint hdisjoint,
    List.toFinset_card_of_nodup hnodup, List.length_map]

theorem card_mappedTo_accept (hacc : Accepted nodeId records s s')
    (hnodup : (records.map TaskReplayRecord.currentTaskId).Nodup)
    (hfresh : ∀ record ∈ records, record.currentTaskId ∉ s.pendingTaskIds)
    (other : NodeId) :
    (s'.mappedTo other).card = (s.mappedTo other).card +
      if other = nodeId then records.length else 0 := by
  have hold : ∀ taskId ∈ s.pendingTaskIds,
      taskId ∉ records.map TaskReplayRecord.currentTaskId := by
    intro taskId hmem hnew
    obtain ⟨record, hrecord, rfl⟩ := List.mem_map.mp hnew
    exact hfresh record hrecord hmem
  by_cases hother : other = nodeId
  · subst hother
    have hmapped : s'.mappedTo other = s.mappedTo other ∪
        (records.map TaskReplayRecord.currentTaskId).toFinset := by
      ext taskId
      simp only [Session.mappedTo, Finset.mem_filter, Finset.mem_union,
        List.mem_toFinset, hacc.pending, hacc.nodeIds]
      by_cases hnew : taskId ∈ records.map TaskReplayRecord.currentTaskId <;> simp [hnew]
    have hdisjoint : Disjoint (s.mappedTo other)
        (records.map TaskReplayRecord.currentTaskId).toFinset := by
      rw [Finset.disjoint_left]
      intro taskId hmem hnew
      exact hold taskId (Finset.mem_filter.mp hmem).1 (List.mem_toFinset.mp hnew)
    rw [if_pos rfl, hmapped, Finset.card_union_of_disjoint hdisjoint,
      List.toFinset_card_of_nodup hnodup, List.length_map]
  · have hmapped : s'.mappedTo other = s.mappedTo other := by
      ext taskId
      simp only [Session.mappedTo, Finset.mem_filter, hacc.pending, hacc.nodeIds]
      by_cases hnew : taskId ∈ records.map TaskReplayRecord.currentTaskId
      · have hnot : taskId ∉ s.pendingTaskIds := fun hmem => hold taskId hmem hnew
        simp [hnew, hnot, Ne.symm hother]
      · simp [hnew]
    rw [if_neg hother, hmapped, Nat.add_zero]

/-! ### Tasks that leave -/

theorem drop (h : Books home s) {gone : List TaskId} (hdropped : Dropped gone s s')
    (hindex : s'.IndexExact) : Books home s' where
  drawn := by
    intro taskId hmem
    rw [hdropped.pending] at hmem
    rw [hdropped.submitSeq]
    exact h.drawn taskId (Finset.mem_sdiff.mp hmem).1
  mapped := by
    intro taskId nodeId hat
    rw [hdropped.nodeIds] at hat
    split at hat
    case isTrue => cases hat
    case isFalse hstays =>
      obtain ⟨hpending, hhome⟩ := h.mapped taskId nodeId hat
      rw [hdropped.pending, Finset.mem_sdiff, List.mem_toFinset]
      exact ⟨⟨hpending, hstays⟩, hhome⟩
  recorded := by
    intro taskId hmem
    rw [hdropped.pending, Finset.mem_sdiff, List.mem_toFinset] at hmem
    rw [hdropped.records, hdropped.nodeIds, if_neg hmem.2, if_neg hmem.2]
    exact h.recorded taskId hmem.1
  only := by
    intro taskId record hrecord
    rw [hdropped.records] at hrecord
    split at hrecord
    case isTrue => cases hrecord
    case isFalse hstays =>
      rw [hdropped.pending, Finset.mem_sdiff, List.mem_toFinset]
      exact ⟨h.only taskId record hrecord, hstays⟩
  index := hindex

theorem mappedTo_drop {gone : List TaskId} (hdropped : Dropped gone s s')
    (nodeId : NodeId) :
    s'.mappedTo nodeId = s.mappedTo nodeId \ gone.toFinset := by
  ext taskId
  simp only [Session.mappedTo, Finset.mem_filter, Finset.mem_sdiff,
    hdropped.pending, hdropped.nodeIds, List.mem_toFinset]
  by_cases hgone : taskId ∈ gone <;> simp [hgone]

end Books

end Session

end PycloudParallel.TaskPool
