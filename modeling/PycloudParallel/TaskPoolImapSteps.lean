import PycloudParallel.TaskPoolImapBooks

/-!
# The steps of `imap_unordered` on its books

Between two steps the running code may hold tasks that are in flight nowhere:
payloads that it has drawn, results that it has read and tasks that it has taken
back from a node.  Each of them may use one slot of the window again.
-/

namespace PycloudParallel.TaskPool

variable {V D : Type}

/-- `home` is the node that accepts a task, and a node reports results only of
tasks that it has accepted. -/
structure World.ReportsOwn (world : World V D) (home : TaskId → NodeId) : Prop where
  accepted : ∀ clock nodeId items accepts,
    world.submitTasks clock nodeId items = .ok accepts →
      ∀ item ∈ items, accepts item.taskId = true → home item.taskId = nodeId
  reported : ∀ clock nodeId limit results,
    world.pullResults clock nodeId limit = .ok results →
      ∀ result ∈ results, home result.taskId = nodeId

def World.Unlimited (world : World V D) : Prop :=
  ∀ nodeId, world.capabilityLimits nodeId = []

structure ImapPoint (V D : Type) where
  control : ImapControl
  core : ImapCore V D
  hand : List TaskId

/-- The steps of the generator, and of the functions that it calls, that touch
its books. -/
inductive ImapStep (world : World V D) (maxPending : ℕ) :
    ImapPoint V D → ImapPoint V D → Prop
  | quiet {control control' : ImapControl} {core core' : ImapCore V D}
      {hand : List TaskId} :
      control'.inflightByNode = control.inflightByNode →
      core.session.SameBooks core'.session →
      ImapStep world maxPending ⟨control, core, hand⟩ ⟨control', core', hand⟩
  /-- A payload is drawn within the window and its task is built. -/
  | draw {control : ImapControl} {core : ImapCore V D} {hand : List TaskId}
      {index : ℕ} {payload : Payload V} {buffer : IndexedPayloadBuffer V} :
      core.payloadBuffer.next = (some (index, payload), buffer) →
      control.totalInflight + hand.length < maxPending →
      ImapStep world maxPending ⟨control, core, hand⟩
        ⟨control, ((core.setBuffer buffer).setSession
            (core.session.withBuilt payload)).setTaskIndex
              (core.session.submitSeq + 1) index,
          (core.session.submitSeq + 1) :: hand⟩
  /-- Tasks in hand are given up, completed or put back into the buffer. -/
  | leave {control : ImapControl} {core : ImapCore V D} {hand left : List TaskId} :
      left.Subperm hand →
      ImapStep world maxPending ⟨control, core, hand⟩ ⟨control, core, left⟩
  /-- The entries of one node are submitted. -/
  | submit {control : ImapControl} {core : ImapCore V D} {left : List TaskId}
      (nodeId : NodeId) (entries : List (ImapEntry V)) :
      ImapStep world maxPending
        ⟨control, core, (entries.map fun entry => entry.item.taskId) ++ left⟩
        ⟨(submitEntriesToNode world nodeId entries control core).2.1,
          (submitEntriesToNode world nodeId entries control core).2.2, left⟩
  /-- A pulled result of a pending task is read. -/
  | consume {control : ImapControl} {core : ImapCore V D} {hand : List TaskId}
      {clock limit : ℕ} {nodeId : NodeId} {results : List (TaskResult D)}
      {result : TaskResult D} :
      world.pullResults clock nodeId limit = .ok results → result ∈ results →
      result.taskId ∈ core.session.pendingTaskIds →
      ImapStep world maxPending ⟨control, core, hand⟩
        ⟨control.setInflight nodeId (control.inflight nodeId - 1),
          (consumeResult core result.taskId).2, result.taskId :: hand⟩
  /-- All tasks of a node are taken back. -/
  | release {control : ImapControl} {core : ImapCore V D} {hand : List TaskId}
      (nodeId : NodeId) :
      ImapStep world maxPending ⟨control, core, hand⟩
        ⟨control.setInflight nodeId 0,
          core.setSession (core.session.releaseNodeTasks world nodeId).2.2,
          (core.session.releaseNodeTasks world nodeId).1.map
            TaskReplayRecord.currentTaskId ++ hand⟩
  /-- A node with nothing to take back; its count is left alone. -/
  | releaseNone {control : ImapControl} {core : ImapCore V D} {hand : List TaskId}
      (nodeId : NodeId) :
      (core.session.releaseNodeTasks world nodeId).1 = [] →
      ImapStep world maxPending ⟨control, core, hand⟩
        ⟨control,
          core.setSession (core.session.releaseNodeTasks world nodeId).2.2, hand⟩
  /-- A task in hand is accepted by a node under a new id. -/
  | replay {control : ImapControl} {core : ImapCore V D} {held : TaskId}
      {hand : List TaskId} {nodeId : NodeId} {record next : TaskReplayRecord V}
      {notAccepted : String} {newTaskId : TaskId} {session : Session V D} :
      submitReplay world nodeId record notAccepted core.session =
        (.ok newTaskId, session) →
      ReplayOf record next nodeId newTaskId →
      ImapStep world maxPending ⟨control, core, held :: hand⟩
        ⟨control.setInflight nodeId (control.inflight nodeId + 1),
          acceptReplay (core.setSession session) record next, hand⟩

/-- The generator counts for each node what the session has there, and what is
in flight or in hand fits into the window. -/
structure InWindow (home : TaskId → NodeId) (maxPending : ℕ)
    (control : ImapControl) (s : Session V D) (hand : List TaskId) : Prop where
  books : s.Books home
  fresh : ∀ taskId ∈ hand, taskId ≤ s.submitSeq ∧ taskId ∉ s.pendingTaskIds
  hand_nodup : hand.Nodup
  counted : ∀ nodeId, control.inflight nodeId = (s.mappedTo nodeId).card
  total : control.totalInflight = s.pendingTaskIds.card
  window : control.totalInflight + hand.length ≤ maxPending

def ImapPoint.InWindow (home : TaskId → NodeId) (maxPending : ℕ)
    (point : ImapPoint V D) : Prop :=
  TaskPool.InWindow home maxPending point.control point.core.session point.hand

variable {world : World V D} {core : ImapCore V D} {nodeId : NodeId}
  {notAccepted : String} {record : TaskReplayRecord V}

theorem httpBatches_unlimited (hworld : world.Unlimited) (nodeId : NodeId)
    (items : List (TaskSubmitItem V)) :
    httpBatches world nodeId items = [items] := by
  simp [httpBatches, hworld nodeId, nodeSubmitHttpBodyLimit]

theorem submitTaskItemsToNode_unlimited {home : TaskId → NodeId}
    (hworld : world.Unlimited) (hown : world.ReportsOwn home) (nodeId : NodeId)
    (items : List (TaskSubmitItem V)) (s : Session V D) :
    (∃ error, (submitTaskItemsToNode world nodeId items s).1 = .error error ∧
      s.SameBooks (submitTaskItemsToNode world nodeId items s).2) ∨
    ∃ accepted, (submitTaskItemsToNode world nodeId items s).1 = .ok accepted ∧
      accepted.Sublist (items.map TaskSubmitItem.taskId) ∧
      (∀ taskId ∈ accepted, home taskId = nodeId) ∧
      Session.Registered nodeId accepted s
        (submitTaskItemsToNode world nodeId items s).2 ∧
      (submitTaskItemsToNode world nodeId items s).2.history = s.history := by
  rw [submitTaskItemsToNode]
  split
  case isTrue =>
    exact Or.inr ⟨[], rfl, List.nil_sublist _, by simp, s.registered_nil nodeId,
      rfl⟩
  case isFalse =>
    rw [httpBatches_unlimited hworld]
    cases hanswer : world.submitTasks s.clock nodeId items with
    | error error =>
      simp only [submitBatches, hanswer]
      exact Or.inl ⟨error, rfl,
        (Session.SameBooks.tick s).trans (Session.SameBooks.note _ _)⟩
    | ok accepts =>
      simp only [submitBatches, hanswer, List.nil_append]
      refine Or.inr ⟨_, rfl, List.filter_sublist, ?_,
        (s.registered_tick nodeId).trans
          (Session.registered_registerPendingTaskIds nodeId _ s.tick), ?_⟩
      · intro taskId hmem
        obtain ⟨hlisted, haccepts⟩ := List.mem_filter.mp hmem
        obtain ⟨item, hitem, rfl⟩ := List.mem_map.mp hlisted
        exact hown.accepted _ _ _ _ hanswer item hitem haccepts
      · rw [Session.registerPendingTaskIds_history]
        rfl

/-! ## Each step keeps the window -/

namespace InWindow

variable {home : TaskId → NodeId} {maxPending : ℕ}
  {control control' : ImapControl} {s s' : Session V D} {hand left : List TaskId}

variable (h : InWindow home maxPending control s hand)

include h

theorem quiet (hinflight : control'.inflightByNode = control.inflightByNode)
    (hsame : s.SameBooks s') : InWindow home maxPending control' s' hand where
  books := h.books.same hsame
  fresh := by
    intro taskId hmem
    rw [hsame.pendingTaskIds]
    exact (h.fresh taskId hmem).imp_left (·.trans hsame.submitSeq)
  hand_nodup := h.hand_nodup
  counted := by
    intro nodeId
    rw [hsame.mappedTo, ← h.counted, ImapControl.inflight, hinflight,
      ImapControl.inflight]
  total := by
    rw [hsame.pendingTaskIds, ← h.total, ImapControl.totalInflight, hinflight,
      ImapControl.totalInflight]
  window := by
    rw [ImapControl.totalInflight, hinflight]
    exact h.window

theorem leave (hsub : left.Subperm hand) :
    InWindow home maxPending control s left where
  books := h.books
  fresh := fun taskId hmem => h.fresh taskId (hsub.subset hmem)
  hand_nodup := by
    obtain ⟨kept, hperm, hkept⟩ := hsub
    exact hperm.nodup_iff.mp (h.hand_nodup.sublist hkept)
  counted := h.counted
  total := h.total
  window := by
    have hlength := hsub.length_le
    have hwindow := h.window
    omega

theorem draw (payload : Payload V)
    (hroom : control.totalInflight + hand.length < maxPending) :
    InWindow home maxPending control (s.withBuilt payload)
      ((s.submitSeq + 1) :: hand) := by
  have hbuilt := h.quiet rfl (Session.SameBooks.withBuilt s payload)
  refine ⟨hbuilt.books, ?_, ?_, hbuilt.counted, hbuilt.total, ?_⟩
  · intro taskId hmem
    obtain rfl | hold := List.mem_cons.mp hmem
    · refine ⟨le_rfl, fun hpending => ?_⟩
      exact Nat.not_succ_le_self _ (h.books.drawn _ hpending)
    · exact hbuilt.fresh taskId hold
  · rw [List.nodup_cons]
    refine ⟨fun hmem => ?_, h.hand_nodup⟩
    exact Nat.not_succ_le_self _ (h.fresh _ hmem).1
  · rw [List.length_cons]
    omega

theorem accept {nodeId : NodeId} {records : List (TaskReplayRecord V)}
    (hacc : Session.Accepted nodeId records s s') (hindex : s'.IndexExact)
    (hnode : ∀ record ∈ records, record.currentNodeId = nodeId)
    (hfresh : ∀ record ∈ records, record.currentTaskId ≤ s.submitSeq ∧
      record.currentTaskId ∉ s.pendingTaskIds)
    (hhome : ∀ record ∈ records, home record.currentTaskId = nodeId)
    (hnodup : (records.map TaskReplayRecord.currentTaskId ++ left).Nodup)
    (hleft : left ⊆ hand) (hlength : records.length + left.length ≤ hand.length)
    : InWindow home maxPending
      (control.setInflight nodeId (control.inflight nodeId + records.length)) s'
      left := by
  obtain ⟨hids, hleftNodup, hapart⟩ := List.nodup_append'.mp hnodup
  have hnot : ∀ record ∈ records, record.currentTaskId ∉ s.pendingTaskIds :=
    fun record hmem => (hfresh record hmem).2
  have htotal := control.totalInflight_setInflight nodeId
    (control.inflight nodeId + records.length)
  constructor
  · exact h.books.accept hacc hindex hnode (fun record hmem =>
      (hfresh record hmem).1) hhome
  · intro taskId hmem
    obtain ⟨hdrawn, hpending⟩ := h.fresh taskId (hleft hmem)
    rw [hacc.submitSeq, hacc.pending, not_or]
    exact ⟨hdrawn, fun hnew => hapart hnew hmem, hpending⟩
  · exact hleftNodup
  · intro other
    rw [ImapControl.inflight_setInflight,
      Session.Books.card_mappedTo_accept hacc hids hnot, ← h.counted]
    split
    case isTrue hother => rw [hother]
    case isFalse => rw [Nat.add_zero]
  · rw [Session.Books.card_pending_accept hacc hids hnot, ← h.total]
    omega
  · have hwindow := h.window
    omega

theorem drop {nodeId : NodeId} {gone : List TaskId}
    (hdropped : Session.Dropped gone s s') (hindex : s'.IndexExact)
    (hgone : ∀ taskId ∈ gone, s.pendingTaskNodeIds.lookup taskId = some nodeId)
    (hnodup : gone.Nodup) : InWindow home maxPending
      (control.setInflight nodeId (control.inflight nodeId - gone.length)) s'
      (gone ++ hand) := by
  have hmapped : gone.toFinset ⊆ s.mappedTo nodeId := by
    intro taskId hmem
    exact h.books.mem_mappedTo.mpr (hgone taskId (List.mem_toFinset.mp hmem))
  have hpending : gone.toFinset ⊆ s.pendingTaskIds :=
    hmapped.trans (Finset.filter_subset _ _)
  have hcard : gone.toFinset.card = gone.length :=
    List.toFinset_card_of_nodup hnodup
  have hatNode := Finset.card_le_card hmapped
  have hall := Finset.card_le_card hpending
  rw [hcard, ← h.counted] at hatNode
  rw [hcard, ← h.total] at hall
  have htotal := control.totalInflight_setInflight nodeId
    (control.inflight nodeId - gone.length)
  have hpendingGone : ∀ taskId ∈ gone, taskId ∈ s.pendingTaskIds := fun taskId hmem =>
    hpending (List.mem_toFinset.mpr hmem)
  constructor
  · exact h.books.drop hdropped hindex
  · intro taskId hmem
    rw [hdropped.submitSeq, hdropped.pending, Finset.mem_sdiff, List.mem_toFinset]
    obtain hnew | hold := List.mem_append.mp hmem
    · exact ⟨h.books.drawn taskId (hpendingGone taskId hnew), fun hboth =>
        hboth.2 hnew⟩
    · exact (h.fresh taskId hold).imp_right fun hnot hboth => hnot hboth.1
  · rw [List.nodup_append']
    refine ⟨hnodup, h.hand_nodup, ?_⟩
    intro taskId hnew hold
    exact (h.fresh taskId hold).2 (hpendingGone taskId hnew)
  · intro other
    rw [ImapControl.inflight_setInflight, Session.Books.mappedTo_drop hdropped]
    split
    case isTrue hother =>
      rw [hother, Finset.card_sdiff_of_subset hmapped, hcard, h.counted]
    case isFalse hother =>
      have hapart : Disjoint (s.mappedTo other) gone.toFinset := by
        rw [Finset.disjoint_right]
        intro taskId hmem hat
        rw [h.books.mem_mappedTo, hgone taskId (List.mem_toFinset.mp hmem),
          Option.some_inj] at hat
        exact hother hat.symm
      rw [Finset.sdiff_eq_self_of_disjoint hapart, h.counted]
  · rw [hdropped.pending, Finset.card_sdiff_of_subset hpending, hcard, ← h.total]
    omega
  · have hwindow := h.window
    rw [List.length_append]
    omega

end InWindow

/-! ## The sessions after the steps -/

theorem indexExact_consumeResult (h : core.session.IndexExact) (taskId : TaskId)
    : (consumeResult core taskId).2.session.IndexExact := by
  have htaken : (core.session.takeReplayRecord taskId).2.IndexExact :=
    h.removeReplayRecord taskId
  exact htaken.takeTask taskId

theorem releaseNodeTasks_ids (world : World V D) {home : TaskId → NodeId}
    {s : Session V D} (h : s.Books home) (nodeId : NodeId) :
    (s.releaseNodeTasks world nodeId).1.map TaskReplayRecord.currentTaskId =
      world.setOrder (s.nodeTaskIds nodeId) := by
  have hperm := world.setOrder_perm (s.nodeTaskIds nodeId)
  have hnodup := hperm.nodup_iff.mpr (s.nodeTaskIds_nodup nodeId)
  rw [Session.releaseNodeTasks, Session.takeTasks_fst _ _ hnodup]
  have hrecorded : ∀ taskId ∈ world.setOrder (s.nodeTaskIds nodeId), ∃ record,
      s.replayRecords.lookup taskId = some record ∧
        record.currentTaskId = taskId := by
    intro taskId hmem
    have hmapped := h.mem_nodeTaskIds.mp (hperm.mem_iff.mp hmem)
    obtain ⟨record, hrecord, hid, -⟩ :=
      h.recorded taskId (Finset.mem_filter.mp hmapped).1
    exact ⟨record, hrecord, hid⟩
  have hsame : (s.note (.released nodeId)).replayRecords = s.replayRecords := rfl
  rw [hsame]
  generalize world.setOrder (s.nodeTaskIds nodeId) = taskIds at hrecorded
  induction taskIds with
  | nil => rfl
  | cons taskId taskIds ih =>
    obtain ⟨record, hrecord, hid⟩ := hrecorded taskId List.mem_cons_self
    rw [List.filterMap_cons, hrecord, List.map_cons, hid,
      ih fun other hmem => hrecorded other (List.mem_cons_of_mem taskId hmem)]

theorem InWindow.release {home : TaskId → NodeId} {maxPending : ℕ}
    {control : ImapControl} {s : Session V D} {hand : List TaskId}
    (h : InWindow home maxPending control s hand) (nodeId : NodeId) :
    InWindow home maxPending (control.setInflight nodeId 0)
      (s.releaseNodeTasks world nodeId).2.2
      ((s.releaseNodeTasks world nodeId).1.map TaskReplayRecord.currentTaskId ++
        hand) := by
  have hperm := world.setOrder_perm (s.nodeTaskIds nodeId)
  have hnodup := hperm.nodup_iff.mpr (s.nodeTaskIds_nodup nodeId)
  have hmem : ∀ taskId, taskId ∈ world.setOrder (s.nodeTaskIds nodeId) ↔
      taskId ∈ s.mappedTo nodeId := fun taskId =>
    hperm.mem_iff.trans h.books.mem_nodeTaskIds
  have hlength : (world.setOrder (s.nodeTaskIds nodeId)).length =
      control.inflight nodeId := by
    rw [h.counted, ← List.toFinset_card_of_nodup hnodup]
    congr 1
    ext taskId
    rw [List.mem_toFinset, hmem]
  have hnoted := h.quiet rfl (Session.SameBooks.note s (.released nodeId))
  have hdropped := hnoted.drop
    (Session.dropped_takeTasks (world.setOrder (s.nodeTaskIds nodeId)) _)
    (Session.IndexExact.takeTasks _ hnoted.books.index)
    (fun taskId htask => h.books.mem_mappedTo.mp ((hmem taskId).mp htask)) hnodup
  rw [hlength, Nat.sub_self] at hdropped
  rw [releaseNodeTasks_ids world h.books]
  exact hdropped

theorem InWindow.releaseNone {home : TaskId → NodeId} {maxPending : ℕ}
    {control : ImapControl} {s : Session V D} {hand : List TaskId}
    (h : InWindow home maxPending control s hand) (nodeId : NodeId)
    (hnone : (s.releaseNodeTasks world nodeId).1 = []) :
    InWindow home maxPending control (s.releaseNodeTasks world nodeId).2.2
      hand := by
  have hids := releaseNodeTasks_ids world h.books nodeId
  rw [hnone, List.map_nil] at hids
  rw [Session.releaseNodeTasks, ← hids]
  exact h.quiet rfl (Session.SameBooks.note s (.released nodeId))

theorem InWindow.submit {home : TaskId → NodeId} {maxPending : ℕ}
    {control : ImapControl} {left : List TaskId} {entries : List (ImapEntry V)}
    (hworld : world.Unlimited) (hown : world.ReportsOwn home)
    (h : InWindow home maxPending control core.session
      ((entries.map fun entry => entry.item.taskId) ++ left)) (nodeId : NodeId)
    :
    InWindow home maxPending
      (submitEntriesToNode world nodeId entries control core).2.1
      (submitEntriesToNode world nodeId entries control core).2.2.session left := by
  have hsub : left.Sublist ((entries.map fun entry => entry.item.taskId) ++ left) :=
    List.sublist_append_right _ _
  have hanswer := submitTaskItemsToNode_unlimited hworld hown nodeId
    (entries.map ImapEntry.item) core.session
  rw [submitEntriesToNode]
  generalize submitTaskItemsToNode world nodeId (entries.map ImapEntry.item)
    core.session = outcome at hanswer
  obtain ⟨answer, session⟩ := outcome
  simp only at hanswer
  obtain ⟨error, rfl, hsame⟩ | ⟨accepted, rfl, hlisted, hhome, hreg, hhistory⟩ :=
    hanswer
  · apply InWindow.leave _ hsub.subperm
    exact h.quiet rfl hsame
  · simp only
    split
    case isTrue hnone =>
      rw [List.isEmpty_iff] at hnone
      subst hnone
      exact (h.quiet rfl (Session.SameBooks.of_registered hreg)).leave
        hsub.subperm
    case isFalse =>
      generalize hregistered : entries.filter (fun entry =>
        accepted.contains entry.item.taskId) = registered
      have hids : (registered.map fun entry => entry.replayRecord nodeId).map
          TaskReplayRecord.currentTaskId =
          registered.map fun entry => entry.item.taskId := by
        rw [List.map_map]
        rfl
      have hentries : registered.Sublist entries :=
        hregistered ▸ List.filter_sublist
      have hnodup : ((registered.map fun entry => entry.item.taskId) ++ left).Nodup :=
        h.hand_nodup.sublist ((hentries.map _).append (List.Sublist.refl left))
      have hmem : ∀ taskId, taskId ∈ accepted ↔ taskId ∈
          (registered.map fun entry => entry.replayRecord nodeId).map
            TaskReplayRecord.currentTaskId := by
        intro taskId
        rw [hids, ← hregistered]
        constructor
        · intro htaskId
          have hentry := hlisted.subset htaskId
          rw [List.map_map] at hentry
          obtain ⟨entry, hin, rfl⟩ := List.mem_map.mp hentry
          exact List.mem_map.mpr ⟨entry, List.mem_filter.mpr
            ⟨hin, List.contains_iff_mem.mpr htaskId⟩, rfl⟩
        · intro htaskId
          obtain ⟨entry, hentry, rfl⟩ := List.mem_map.mp htaskId
          exact List.contains_iff_mem.mp (List.mem_filter.mp hentry).2
      have hfresh : ∀ record ∈ registered.map fun entry =>
          entry.replayRecord nodeId,
          record.currentTaskId ≤ core.session.submitSeq ∧
            record.currentTaskId ∉ core.session.pendingTaskIds := by
        intro record hrecord
        obtain ⟨entry, hentry, rfl⟩ := List.mem_map.mp hrecord
        exact h.fresh _ (List.mem_append_left _
          (List.mem_map_of_mem (hentries.subset hentry)))
      have hidsNodup : ((registered.map fun entry => entry.replayRecord nodeId).map
          TaskReplayRecord.currentTaskId).Nodup := by
        rw [hids]
        exact (List.nodup_append.mp hnodup).1
      have hnew : ∀ record ∈ registered.map fun entry =>
          entry.replayRecord nodeId,
          session.replayRecords.lookup record.currentTaskId = none := by
        intro record hrecord
        rw [hreg.replayRecords]
        exact h.books.record_none (hfresh record hrecord).2
      have hindex : session.IndexExact :=
        h.books.index.congr hreg.replayRecords hreg.replayNodeIndex
      have hacc := (hreg.congr hmem).accepted hhistory
        (Session.recordsRegistered_foldl _ session hidsNodup hnew)
      have hlength : (registered.map fun entry =>
          entry.replayRecord nodeId).length = registered.length :=
        List.length_map _
      have hdone := h.accept hacc
        (Session.IndexExact.registerRecords _ hindex hidsNodup hnew)
        (fun record hrecord => by
          obtain ⟨entry, -, rfl⟩ := List.mem_map.mp hrecord
          rfl)
        hfresh
        (fun record hrecord => hhome _ ((hmem _).mpr
          (List.mem_map_of_mem hrecord)))
        (hids ▸ hnodup) hsub.subset (by
          rw [hlength, List.length_append, List.length_map]
          exact Nat.add_le_add_right hentries.length_le _)
      rw [hlength, ← registerEntries_eq] at hdone
      exact hdone

theorem InWindow.consume {home : TaskId → NodeId} {maxPending : ℕ}
    {control : ImapControl} {hand : List TaskId} (hown : world.ReportsOwn home)
    (h : InWindow home maxPending control core.session hand) {clock limit : ℕ}
    {results : List (TaskResult D)} {result : TaskResult D}
    (hpull : world.pullResults clock nodeId limit = .ok results)
    (hresult : result ∈ results)
    (hpending : result.taskId ∈ core.session.pendingTaskIds) :
    InWindow home maxPending
      (control.setInflight nodeId (control.inflight nodeId - 1))
      (consumeResult core result.taskId).2.session (result.taskId :: hand) := by
  obtain ⟨record, -, -, hat⟩ := h.books.recorded result.taskId hpending
  have hnode : record.currentNodeId = nodeId :=
    (h.books.mapped _ _ hat).2.symm.trans
      (hown.reported clock nodeId limit results hpull result hresult)
  rw [hnode] at hat
  exact h.drop (ImapTasks.dropped_consumeResult core result.taskId)
    (indexExact_consumeResult h.books.index result.taskId) (by simpa using hat)
    (List.nodup_singleton _)

variable (hworld : world.Unlimited)

include hworld

theorem submitReplay_cases {home : TaskId → NodeId}
    (hown : world.ReportsOwn home) {answer : Except String TaskId}
    {s s' : Session V D}
    (hsubmit : submitReplay world nodeId record notAccepted s = (answer, s')) :
    (∃ error, answer = .error error ∧ s.SameBooks s') ∨
      answer = .ok (s.submitSeq + 1) ∧ home (s.submitSeq + 1) = nodeId ∧
        Session.Registered nodeId [s.submitSeq + 1]
          (s.withBuilt record.originalPayload) s' ∧
        s'.history = (s.withBuilt record.originalPayload).history := by
  rw [submitReplay] at hsubmit
  obtain ⟨error, hbuild⟩ | hbuild :=
    s.buildTaskSubmitItem_cases world record.originalPayload
  · rw [hbuild] at hsubmit
    cases hsubmit
    exact .inl ⟨error, rfl, Session.SameBooks.nextTaskId s⟩
  · have hanswer := submitTaskItemsToNode_unlimited hworld hown nodeId
      [⟨s.submitSeq + 1, record.originalPayload⟩]
      (s.withBuilt record.originalPayload)
    have hbuilt := Session.SameBooks.withBuilt s record.originalPayload
    rw [hbuild] at hsubmit
    simp only at hsubmit
    generalize submitTaskItemsToNode world nodeId
      [⟨s.submitSeq + 1, record.originalPayload⟩]
      (s.withBuilt record.originalPayload) = outcome at hanswer hsubmit
    obtain ⟨given, session⟩ := outcome
    simp only at hanswer hsubmit
    obtain ⟨error, rfl, hsame⟩ |
      ⟨accepted, rfl, hlisted, hhome, hreg, hhistory⟩ := hanswer
    · cases hsubmit
      exact .inl ⟨error, rfl, hbuilt.trans hsame⟩
    · have hids : ∀ taskId ∈ accepted, taskId = s.submitSeq + 1 :=
        fun taskId hmem => List.mem_singleton.mp (hlisted.subset hmem)
      simp only at hsubmit
      split at hsubmit
      case isTrue haccepted =>
        cases hsubmit
        rw [List.contains_iff_mem] at haccepted
        refine .inr ⟨rfl, hhome _ haccepted, hreg.congr ?_, hhistory⟩
        intro taskId
        rw [List.mem_singleton]
        exact ⟨hids taskId, fun heq => heq ▸ haccepted⟩
      case isFalse hrejected =>
        cases hsubmit
        have hnone : accepted = [] := by
          rw [List.eq_nil_iff_forall_not_mem]
          intro taskId hmem
          have hid := hids taskId hmem
          exact hrejected (List.contains_iff_mem.mpr (hid ▸ hmem))
        rw [hnone] at hreg
        exact .inl ⟨_, rfl, hbuilt.trans (Session.SameBooks.of_registered hreg)⟩

theorem InWindow.replay {home : TaskId → NodeId} {maxPending : ℕ}
    {control : ImapControl} {held : TaskId} {hand : List TaskId}
    {next : TaskReplayRecord V} {newTaskId : TaskId} {session : Session V D}
    (hown : world.ReportsOwn home)
    (h : InWindow home maxPending control core.session (held :: hand))
    (hsubmit : submitReplay world nodeId record notAccepted core.session =
      (.ok newTaskId, session)) (hnext : ReplayOf record next nodeId newTaskId)
    :
    InWindow home maxPending
      (control.setInflight nodeId (control.inflight nodeId + 1))
      (acceptReplay (core.setSession session) record next).session hand := by
  obtain ⟨_, hfailed, -⟩ | ⟨hid, hhome, hreg, hhistory⟩ :=
    submitReplay_cases hworld hown hsubmit
  · cases hfailed
  obtain ⟨hnextId, hnextNode, -, -⟩ := hnext
  cases hid
  have hbuilt := h.quiet rfl
    (Session.SameBooks.withBuilt core.session record.originalPayload)
  have hnot : core.session.submitSeq + 1 ∉ core.session.pendingTaskIds :=
    fun hpending => Nat.not_succ_le_self _ (h.books.drawn _ hpending)
  have hids : [next].map TaskReplayRecord.currentTaskId =
      [core.session.submitSeq + 1] := by
    rw [List.map_singleton, hnextId]
  have hnew : ∀ other ∈ [next],
      session.replayRecords.lookup other.currentTaskId = none := by
    intro other hother
    rw [List.mem_singleton.mp hother, hnextId, hreg.replayRecords]
    exact h.books.record_none hnot
  have hindex : session.IndexExact :=
    hbuilt.books.index.congr hreg.replayRecords hreg.replayNodeIndex
  rw [← hids] at hreg
  have hacc := hreg.accepted hhistory
    (Session.recordsRegistered_foldl [next] session (by simp) hnew)
  have hhandNodup := h.hand_nodup
  rw [List.nodup_cons] at hhandNodup
  have hdone := hbuilt.accept hacc
    (Session.IndexExact.registerRecords [next] hindex (by simp) hnew)
    (by simpa using hnextNode)
    (by simpa [hnextId] using ⟨le_refl (core.session.submitSeq + 1), hnot⟩)
    (by simpa [hnextId] using hhome)
    (by
      rw [hids, List.singleton_append, List.nodup_cons]
      refine ⟨fun hmem => ?_, hhandNodup.2⟩
      exact Nat.not_succ_le_self _
        (h.fresh _ (List.mem_cons_of_mem held hmem)).1)
    (List.subset_cons_self held hand)
    (by simp [Nat.add_comm])
  exact hdone.quiet rfl (Session.SameBooks.note _ _)

theorem submitReplay_error {home : TaskId → NodeId}
    (hown : world.ReportsOwn home) {error : String} {s s' : Session V D}
    (hsubmit : submitReplay world nodeId record notAccepted s =
      (.error error, s')) : s.SameBooks s' := by
  obtain ⟨_, -, hsame⟩ | ⟨hok, -⟩ := submitReplay_cases hworld hown hsubmit
  · exact hsame
  · cases hok

theorem ImapStep.inWindow {home : TaskId → NodeId} {maxPending : ℕ}
    {point point' : ImapPoint V D} (hown : world.ReportsOwn home)
    (h : point.InWindow home maxPending)
    (hstep : ImapStep world maxPending point point') :
    point'.InWindow home maxPending := by
  cases hstep with
  | quiet hinflight hbooks => exact InWindow.quiet h hinflight hbooks
  | draw hnext hroom => exact InWindow.draw h _ hroom
  | leave hsub => exact InWindow.leave h hsub
  | submit nodeId entries => exact InWindow.submit hworld hown h nodeId
  | consume hpull hresult hpending =>
    exact InWindow.consume hown h hpull hresult hpending
  | release nodeId => exact InWindow.release h nodeId
  | replay hsubmit hnext => exact InWindow.replay hworld hown h hsubmit hnext
  | releaseNone nodeId hnone => exact InWindow.releaseNone h nodeId hnone

end PycloudParallel.TaskPool
