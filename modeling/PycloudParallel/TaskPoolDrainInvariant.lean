import PycloudParallel.TaskPoolRawResults
import Mathlib.Data.List.Nodup

/-!
# What a drain step keeps

A submit draws new ids and touches no older task.  Between the steps of a
drain the delivered ids are distinct and no longer pending, the buffer holds
one item per task, and what a filter left out is delivered or waiting, as long
as the buffer never takes a second item of one task.
-/

namespace PycloudParallel.TaskPool

open OrderedDict

variable {V D : Type}

/-! ### Submitting -/

/-- A submit draws ids above `bound` and touches no older task. -/
structure Submitted (bound : Nat) (s s' : Session V D) : Prop where
  pending_old : ∀ taskId ∈ s.pendingTaskIds, taskId ∈ s'.pendingTaskIds
  pending_new : ∀ taskId ∈ s'.pendingTaskIds, taskId ∈ s.pendingTaskIds ∨
    (bound < taskId ∧ taskId ≤ s'.submitSeq)
  mapped : ∀ taskId nodeId, s'.pendingTaskNodeIds.lookup taskId = some nodeId →
    s.pendingTaskNodeIds.lookup taskId = some nodeId ∨
      taskId ∈ s'.pendingTaskIds
  drawn : s.submitSeq ≤ s'.submitSeq
  replayRecords : s'.replayRecords = s.replayRecords
  replayNodeIndex : s'.replayNodeIndex = s.replayNodeIndex
  bufferedResultItems : s'.bufferedResultItems = s.bufferedResultItems

variable {bound : Nat} {s s' : Session V D} {nodeId : NodeId}
  {d d' : DrainState V D} {call : DrainCall}
  {kept taken : List (NodeId × TaskResult D)}

theorem Submitted.trans {mid : Session V D} (h₁ : Submitted bound s mid)
    (h₂ : Submitted bound mid s') : Submitted bound s s' where
  pending_old := fun taskId hold => h₂.pending_old _ (h₁.pending_old _ hold)
  pending_new := by
    intro taskId hnew
    rcases h₂.pending_new taskId hnew with hmid | hdrawn
    · rcases h₁.pending_new taskId hmid with hold | ⟨hlow, hhigh⟩
      · exact Or.inl hold
      · exact Or.inr ⟨hlow, Nat.le_trans hhigh h₂.drawn⟩
    · exact Or.inr hdrawn
  mapped := by
    intro taskId nodeId hnode
    rcases h₂.mapped taskId nodeId hnode with hmid | hpending
    · rcases h₁.mapped taskId nodeId hmid with hold | hpending
      · exact Or.inl hold
      · exact Or.inr (h₂.pending_old taskId hpending)
    · exact Or.inr hpending
  drawn := Nat.le_trans h₁.drawn h₂.drawn
  replayRecords := h₂.replayRecords.trans h₁.replayRecords
  replayNodeIndex := h₂.replayNodeIndex.trans h₁.replayNodeIndex
  bufferedResultItems := h₂.bufferedResultItems.trans h₁.bufferedResultItems

theorem submitted_refl (bound : Nat) (s : Session V D) : Submitted bound s s :=
  ⟨fun _ h => h, fun _ h => Or.inl h, fun _ _ h => Or.inl h, Nat.le_refl _,
    rfl, rfl, rfl⟩

theorem submitted_buildTaskSubmitItem (world : World V D) (payload : Payload V)
    (bound : Nat) (s : Session V D) :
    Submitted bound s (s.buildTaskSubmitItem world payload).2 := by
  unfold Session.buildTaskSubmitItem
  simp only
  split <;>
    exact ⟨fun _ h => h, fun _ h => Or.inl h, fun _ _ h => Or.inl h,
      Nat.le_succ _, rfl, rfl, rfl⟩

theorem buildTaskSubmitItem_taskId (world : World V D) (payload : Payload V)
    (s : Session V D) (item : TaskSubmitItem V)
    (hitem : (s.buildTaskSubmitItem world payload).1 = .ok item) :
    item = ⟨s.submitSeq + 1, payload⟩ ∧
      (s.buildTaskSubmitItem world payload).2.submitSeq = s.submitSeq + 1 := by
  unfold Session.buildTaskSubmitItem at hitem ⊢
  simp only at hitem ⊢
  split at hitem
  · cases hitem
  · cases hitem
    exact ⟨rfl, rfl⟩

def DrawnItems (bound : Nat) (s : Session V D)
    (items : List (TaskSubmitItem V)) : Prop :=
  ∀ item ∈ items, bound < item.taskId ∧ item.taskId ≤ s.submitSeq

def DrawnGroups (bound : Nat) (s : Session V D)
    (groups : List (NodeId × List (TaskSubmitItem V))) : Prop :=
  ∀ group ∈ groups, DrawnItems bound s group.2

theorem DrawnItems.mono {items : List (TaskSubmitItem V)}
    (h : DrawnItems bound s items) (hle : s.submitSeq ≤ s'.submitSeq) :
    DrawnItems bound s' items :=
  fun item hitem => ⟨(h item hitem).1, Nat.le_trans (h item hitem).2 hle⟩

theorem drawnGroups_append {grouped : GroupedItems V} {item : TaskSubmitItem V}
    (hgroups : DrawnGroups bound s (OrderedDict.items grouped))
    (hle : s.submitSeq ≤ s'.submitSeq)
    (hitem : bound < item.taskId ∧ item.taskId ≤ s'.submitSeq) :
    DrawnGroups bound s' (OrderedDict.items (grouped.append nodeId item)) := by
  intro group hgroup
  obtain ⟨other, items⟩ := group
  rw [mem_items, GroupedItems.append, lookup_set]
    at hgroup
  split at hgroup
  · cases hgroup
    intro drawn hdrawn
    rcases List.mem_append.mp hdrawn with hold | hnew
    · cases hlookup : grouped.lookup nodeId with
      | none => simp [hlookup] at hold
      | some olds =>
        have hmem := mem_items.mpr hlookup
        simp only [hlookup, Option.getD_some] at hold
        exact (DrawnItems.mono (hgroups _ hmem) hle) drawn hold
    · rw [List.mem_singleton] at hnew
      exact hnew ▸ hitem
  · exact DrawnItems.mono (hgroups _ (mem_items.mpr hgroup)) hle

theorem groupPayloads_spec (world : World V D) (bound : Nat) :
    ∀ (planned : List (RawPayload V × NodeId)) (grouped : GroupedItems V)
      (s : Session V D), bound ≤ s.submitSeq →
      DrawnGroups bound s (OrderedDict.items grouped) →
      Submitted bound s (groupPayloads world planned grouped s).2 ∧
        ∀ grouped', (groupPayloads world planned grouped s).1 = .ok grouped' →
          DrawnGroups bound (groupPayloads world planned grouped s).2
            (OrderedDict.items grouped') := by
  intro planned
  induction planned with
  | nil =>
    intro grouped s _ hgroups
    refine ⟨submitted_refl bound s, ?_⟩
    intro grouped' hok
    cases hok
    exact hgroups
  | cons entry planned ih =>
    intro grouped s hbound hgroups
    obtain ⟨payload, nodeId⟩ := entry
    have hbuild := submitted_buildTaskSubmitItem world payload.orEmpty bound s
    have hid := buildTaskSubmitItem_taskId world payload.orEmpty s
    rw [groupPayloads]
    generalize s.buildTaskSubmitItem world payload.orEmpty = built at hbuild hid
    obtain ⟨answer, next⟩ := built
    cases answer with
    | error error =>
      refine ⟨hbuild, ?_⟩
      intro grouped' hok
      cases hok
    | ok item =>
      obtain ⟨hitem, hseq⟩ := hid item rfl
      have hfresh : bound < item.taskId ∧ item.taskId ≤ next.submitSeq := by
        rw [hitem, hseq]
        exact ⟨Nat.lt_succ_of_le hbound, Nat.le_refl _⟩
      have hrest := ih (grouped.append nodeId item) next
        (Nat.le_trans hbound hbuild.drawn)
        (drawnGroups_append hgroups hbuild.drawn hfresh)
      exact ⟨hbuild.trans hrest.1, hrest.2⟩

theorem submitted_of_registered {registered : List TaskId}
    {items : List (TaskSubmitItem V)}
    (hreg : Session.Registered nodeId registered s s')
    (hsub : registered.Sublist (items.map TaskSubmitItem.taskId))
    (hdrawn : DrawnItems bound s items) : Submitted bound s s' where
  pending_old := fun taskId hold => (hreg.pending taskId).mpr (Or.inr hold)
  pending_new := by
    intro taskId hnew
    rcases (hreg.pending taskId).mp hnew with hmem | hold
    · obtain ⟨item, hitem, rfl⟩ := List.mem_map.mp (hsub.subset hmem)
      exact Or.inr (hreg.submitSeq ▸ hdrawn item hitem)
    · exact Or.inl hold
  mapped := by
    intro taskId node hnode
    rw [hreg.nodeIds] at hnode
    split at hnode
    · next hmem => exact Or.inr ((hreg.pending taskId).mpr (Or.inl hmem))
    · exact Or.inl hnode
  drawn := Nat.le_of_eq hreg.submitSeq.symm
  replayRecords := hreg.replayRecords
  replayNodeIndex := hreg.replayNodeIndex
  bufferedResultItems := hreg.bufferedResultItems

theorem submitted_submitGroupedTaskItems (world : World V D) (bound : Nat) :
    ∀ (groups : List (NodeId × List (TaskSubmitItem V)))
      (accepted : List TaskId) (s : Session V D), DrawnGroups bound s groups →
      Submitted bound s (submitGroupedTaskItems world groups accepted s).2 := by
  intro groups
  induction groups with
  | nil =>
    intro accepted s _
    exact submitted_refl bound s
  | cons group groups ih =>
    intro accepted s hdrawn
    obtain ⟨nodeId, items⟩ := group
    obtain ⟨registered, hspec⟩ := submitTaskItemsToNode_spec world nodeId items s
    have hfirst := submitted_of_registered hspec.session hspec.sublist
      (hdrawn _ (List.mem_cons_self ..))
    rw [submitGroupedTaskItems]
    generalize submitTaskItemsToNode world nodeId items s = outcome at hfirst
    obtain ⟨answer, next⟩ := outcome
    cases answer with
    | error error => exact hfirst
    | ok more =>
      have hlater : DrawnGroups bound next groups := fun other hother =>
        DrawnItems.mono (hdrawn other (List.mem_cons_of_mem _ hother))
          hfirst.drawn
      exact hfirst.trans (ih (accepted ++ more) next hlater)

theorem submitted_submitPayloads (world : World V D)
    (payloads : List (RawPayload V)) (targets : List NodeId) (s : Session V D) :
    Submitted s.submitSeq s (submitPayloads world payloads targets s).2 := by
  have hempty : DrawnGroups s.submitSeq s
      (OrderedDict.items (∅ : GroupedItems V)) := by
    intro group hgroup
    cases hgroup
  have hgroup := groupPayloads_spec world s.submitSeq (payloads.zip targets) ∅ s
    (Nat.le_refl _) hempty
  unfold submitPayloads
  generalize groupPayloads world (payloads.zip targets) ∅ s = outcome at hgroup
  obtain ⟨answer, next⟩ := outcome
  cases answer with
  | error error => exact hgroup.1
  | ok grouped =>
    exact hgroup.1.trans (submitted_submitGroupedTaskItems world s.submitSeq _ []
      next (hgroup.2 grouped rfl))

/-! ### The result state between the steps -/

/-- What holds of the session and the deliveries, also in the middle of a
loop. -/
structure DrainSound (d : DrainState V D) : Prop where
  records_empty : d.session.replayRecords = ∅
  index_empty : d.session.replayNodeIndex = ∅
  mapped : ∀ taskId nodeId,
    d.session.pendingTaskNodeIds.lookup taskId = some nodeId →
      taskId ∈ d.session.pendingTaskIds
  pending_drawn : ∀ taskId ∈ d.session.pendingTaskIds,
    taskId ≤ d.session.submitSeq
  delivered_drawn : ∀ entry ∈ d.delivered,
    entry.2.taskId ≤ d.session.submitSeq
  delivered_nodup : (d.delivered.map fun entry => entry.2.taskId).Nodup
  delivered_settled : ∀ entry ∈ d.delivered,
    entry.2.taskId ∉ d.session.pendingTaskIds
  buffered_nodup : d.session.bufferedTaskIds.Nodup

/-- Outside an imap there are no replay records, and every task that is mapped
to a node is pending. -/
structure Session.Settled (s : Session V D) : Prop where
  records_empty : s.replayRecords = ∅
  index_empty : s.replayNodeIndex = ∅
  mapped : ∀ taskId nodeId, s.pendingTaskNodeIds.lookup taskId = some nodeId →
    taskId ∈ s.pendingTaskIds

theorem DrainSound.settled (h : DrainSound d) : d.session.Settled :=
  ⟨h.records_empty, h.index_empty, h.mapped⟩

def WaitsInBuffer (d : DrainState V D) (entry : NodeId × TaskResult D) : Prop :=
  entry ∈ d.session.bufferedResultItems ∧
    entry.2.taskId ∈ d.session.pendingTaskIds

def HeldKept (d : DrainState V D) : Prop :=
  ∀ entry ∈ d.heldBack, entry ∈ d.delivered ∨ WaitsInBuffer d entry

/-- The call wants none of the waiting results: it took them when its round
began. -/
def HeldUnwanted (d : DrainState V D) (call : DrainCall) : Prop :=
  ∀ entry ∈ d.heldBack, entry.2.taskId ∈ d.session.pendingTaskIds →
    wantedBy call.taskIds entry.2.taskId = false

structure DrainInvariant (d : DrainState V D) : Prop where
  sound : DrainSound d
  held : HeldKept d
  polling : ∀ call, d.call = some call → call.toPoll ≠ [] →
    call.targetReached = false ∧ HeldUnwanted d call

theorem drainInvariant_opened :
    DrainInvariant (DrainState.opened : DrainState V D) where
  sound := by
    constructor <;> try rfl
    all_goals simp [DrainState.opened, Session.opened, Session.bufferedTaskIds]
  held := by
    intro entry hentry
    cases hentry
  polling := by
    intro call hcall
    cases hcall

theorem DrainSound.setCall (h : DrainSound d) (call : Option DrainCall) :
    DrainSound (d.setCall call) :=
  ⟨h.records_empty, h.index_empty, h.mapped, h.pending_drawn, h.delivered_drawn,
    h.delivered_nodup, h.delivered_settled, h.buffered_nodup⟩

theorem DrainInvariant.returned (hsound : DrainSound d) (hheld : HeldKept d) :
    DrainInvariant (d.setCall none) where
  sound := hsound.setCall none
  held := hheld
  polling := by
    intro call hcall
    cases hcall

theorem DrainInvariant.endRound (hsound : DrainSound d) (hheld : HeldKept d)
    (hreached : call.targetReached = false) (hunwanted : HeldUnwanted d call) :
    DrainInvariant (d.endRound call) := by
  unfold DrainState.endRound
  split
  · exact DrainInvariant.returned hsound hheld
  · refine ⟨hsound.setCall _, hheld, ?_⟩
    intro other hother _
    cases hother
    exact ⟨hreached, hunwanted⟩

/-! ### Delivering -/

theorem settled_deliver (h : d.session.Settled) (entry : NodeId × TaskResult D) :
    (d.deliver entry).session.Settled := by
  have hdrop := d.session.dropped_markResultConsumed entry.2.taskId
  have hrecords : (d.session.markResultConsumed entry.2.taskId).replayRecords =
      d.session.replayRecords ∧
      (d.session.markResultConsumed entry.2.taskId).replayNodeIndex =
        d.session.replayNodeIndex := by
    simp [Session.markResultConsumed, Session.removeReplayRecord,
      Session.discardPending, h.records_empty]
  refine ⟨hrecords.1.trans h.records_empty, hrecords.2.trans h.index_empty, ?_⟩
  intro taskId nodeId hnode
  simp only [DrainState.deliver] at hnode ⊢
  rw [hdrop.nodeIds] at hnode
  split at hnode
  · cases hnode
  · next hne =>
    rw [hdrop.pending]
    exact Finset.mem_sdiff.mpr ⟨h.mapped taskId nodeId hnode, by simpa using hne⟩

theorem DrainSound.deliver (h : DrainSound d) (entry : NodeId × TaskResult D)
    (hpending : entry.2.taskId ∈ d.session.pendingTaskIds) :
    DrainSound (d.deliver entry) := by
  have hdrop := d.session.dropped_markResultConsumed entry.2.taskId
  have hsettled := settled_deliver h.settled entry
  have hfresh : ∀ other ∈ d.delivered, other.2.taskId ≠ entry.2.taskId := by
    intro other hother heq
    exact h.delivered_settled other hother (heq ▸ hpending)
  constructor
  · exact hsettled.records_empty
  · exact hsettled.index_empty
  · exact hsettled.mapped
  · intro taskId hmem
    simp only [DrainState.deliver, hdrop.pending, Finset.mem_sdiff] at hmem
    simpa only [DrainState.deliver, hdrop.submitSeq] using
      h.pending_drawn taskId hmem.1
  · intro other hother
    simp only [DrainState.deliver, hdrop.submitSeq]
    rcases List.mem_append.mp hother with hold | hnew
    · exact h.delivered_drawn other hold
    · rw [List.mem_singleton] at hnew
      exact hnew ▸ h.pending_drawn _ hpending
  · simp only [DrainState.deliver, List.map_append, List.map_cons, List.map_nil]
    refine List.Nodup.append h.delivered_nodup (by simp) ?_
    intro taskId hold hnew
    obtain ⟨other, hother, rfl⟩ := List.mem_map.mp hold
    rw [List.mem_singleton] at hnew
    exact hfresh other hother hnew
  · intro other hother
    simp only [DrainState.deliver, hdrop.pending, Finset.mem_sdiff]
    rcases List.mem_append.mp hother with hold | hnew
    · exact fun hmem => h.delivered_settled other hold hmem.1
    · rw [List.mem_singleton] at hnew
      simp [hnew]
  · simpa [DrainState.deliver, Session.bufferedTaskIds,
      hdrop.bufferedResultItems] using h.buffered_nodup

@[simp] theorem deliver_pending (d : DrainState V D)
    (entry : NodeId × TaskResult D) (taskId : TaskId) :
    taskId ∈ (d.deliver entry).session.pendingTaskIds ↔
      taskId ∈ d.session.pendingTaskIds ∧ taskId ≠ entry.2.taskId := by
  have hdrop := d.session.dropped_markResultConsumed entry.2.taskId
  simp [DrainState.deliver, hdrop.pending]

@[simp] theorem deliver_buffered (d : DrainState V D)
    (entry : NodeId × TaskResult D) :
    (d.deliver entry).session.bufferedResultItems =
      d.session.bufferedResultItems :=
  (d.session.dropped_markResultConsumed entry.2.taskId).bufferedResultItems

/-- The state after a loop delivered `taken` and appended `kept` to the
buffer. -/
structure Handled (taken kept : List (NodeId × TaskResult D))
    (d d' : DrainState V D) : Prop where
  sound : DrainSound d'
  delivered : d'.delivered = d.delivered ++ taken
  heldBack : d'.heldBack = d.heldBack
  buffered : d'.session.bufferedResultItems =
    d.session.bufferedResultItems ++ kept
  pending : ∀ taskId, taskId ∈ d'.session.pendingTaskIds ↔
    taskId ∈ d.session.pendingTaskIds ∧
      ∀ entry ∈ taken, taskId ≠ entry.2.taskId

theorem handled_nil (h : DrainSound d) : Handled [] [] d d :=
  ⟨h, by simp, rfl, by simp, by simp⟩

theorem Handled.deliver {entry : NodeId × TaskResult D}
    (h : Handled taken kept (d.deliver entry) d') :
    Handled (entry :: taken) kept d d' where
  sound := h.sound
  delivered := by simp [h.delivered, DrainState.deliver]
  heldBack := h.heldBack
  buffered := by rw [h.buffered, deliver_buffered]
  pending := by
    intro taskId
    rw [h.pending, deliver_pending, List.forall_mem_cons, and_assoc]

theorem Handled.keep {entry : NodeId × TaskResult D}
    (h : Handled taken kept (d.keepForLater entry) d') :
    Handled taken (entry :: kept) d d' where
  sound := h.sound
  delivered := h.delivered
  heldBack := h.heldBack
  buffered := by
    simp [h.buffered, DrainState.keepForLater, Session.appendBuffered]
  pending := h.pending

theorem DrainSound.keepForLater (h : DrainSound d)
    (entry : NodeId × TaskResult D)
    (hnew : entry.2.taskId ∉ d.session.bufferedTaskIds) :
    DrainSound (d.keepForLater entry) where
  records_empty := h.records_empty
  index_empty := h.index_empty
  mapped := h.mapped
  pending_drawn := h.pending_drawn
  delivered_drawn := h.delivered_drawn
  delivered_nodup := h.delivered_nodup
  delivered_settled := h.delivered_settled
  buffered_nodup := by
    simp only [DrainState.keepForLater, Session.appendBuffered,
      Session.bufferedTaskIds, List.map_append, List.map_cons, List.map_nil]
    refine List.Nodup.append h.buffered_nodup (by simp) ?_
    intro taskId hold hlast
    rw [List.mem_singleton] at hlast
    exact hnew (hlast ▸ hold)

/-- Room for `count` more yields before the target is passed. -/
def RoomFor (call : DrainCall) (count : Nat) : Prop :=
  0 < call.effectiveTarget → call.yielded + count ≤ call.effectiveTarget

theorem RoomFor.countYield {count : Nat} (h : RoomFor call (count + 1)) :
    RoomFor call.countYield count := by
  intro hpos
  have hle := h hpos
  simp only [DrainCall.countYield]
  omega

theorem RoomFor.last {count : Nat} (h : RoomFor call (count + 1))
    (hreached : call.countYield.targetReached = true) : count = 0 := by
  have hover := of_decide_eq_true hreached
  simp only [DrainCall.countYield] at hover
  have hle := h hover.1
  omega

theorem deliverBuffered_handled :
    ∀ (entries : List (NodeId × TaskResult D)) (call : DrainCall)
      (d : DrainState V D), DrainSound d →
      (entries.map fun entry => entry.2.taskId).Nodup →
      (∀ entry ∈ entries, entry.2.taskId ∈ d.session.pendingTaskIds) →
      RoomFor call entries.length →
      Handled entries [] d (DrainState.deliverBuffered entries call d).1 := by
  intro entries
  induction entries with
  | nil =>
    intro call d hsound _ _ _
    exact handled_nil hsound
  | cons entry entries ih =>
    intro call d hsound hnodup hpending hroom
    rw [List.map_cons, List.nodup_cons] at hnodup
    have hfirst := hsound.deliver entry (hpending entry (List.mem_cons_self ..))
    rw [DrainState.deliverBuffered]
    split
    · next hreached =>
      have hnone : entries = [] :=
        List.eq_nil_of_length_eq_zero (RoomFor.last hroom hreached)
      subst hnone
      exact (handled_nil hfirst).deliver
    · apply Handled.deliver
      apply ih _ _ hfirst hnodup.2 _ hroom.countYield
      intro other hother
      rw [deliver_pending]
      refine ⟨hpending other (List.mem_cons_of_mem _ hother), ?_⟩
      intro heq
      exact hnodup.1 (List.mem_map.mpr ⟨other, hother, heq⟩)

theorem deliverBuffered_call :
    ∀ (entries : List (NodeId × TaskResult D)) (call call' : DrainCall)
      (d : DrainState V D), call.targetReached = false →
      (DrainState.deliverBuffered entries call d).2 = some call' →
      call'.targetReached = false ∧ call'.taskIds = call.taskIds ∧
        call'.effectiveTarget = call.effectiveTarget ∧
        call'.yielded = call.yielded + entries.length := by
  intro entries
  induction entries with
  | nil =>
    intro call call' d hreached hcall
    cases hcall
    exact ⟨hreached, rfl, rfl, rfl⟩
  | cons entry entries ih =>
    intro call call' d _ hcall
    rw [DrainState.deliverBuffered] at hcall
    split at hcall
    · cases hcall
    · next hnot =>
      have hrest := ih _ _ _ (Bool.not_eq_true _ ▸ hnot) hcall
      simp only [DrainCall.countYield] at hrest
      refine ⟨hrest.1, hrest.2.1, hrest.2.2.1, ?_⟩
      rw [hrest.2.2.2, List.length_cons]
      omega

/-! ### The results of one pull -/

theorem filteredOut_cons (s : Session V D) (taskIds : Option (Finset TaskId))
    (result : TaskResult D) (results : List (TaskResult D)) :
    filteredOut s taskIds (result :: results) =
      if s.isPendingTaskId result.taskId && !wantedBy taskIds result.taskId
      then result :: filteredOut s taskIds results
      else filteredOut s taskIds results := by
  simp only [filteredOut, List.filter_cons]

theorem filteredOut_congr {taskIds : Option (Finset TaskId)}
    (results : List (TaskResult D))
    (hsame : ∀ taskId, wantedBy taskIds taskId = false →
      (taskId ∈ s'.pendingTaskIds ↔ taskId ∈ s.pendingTaskIds)) :
    filteredOut s' taskIds results = filteredOut s taskIds results := by
  apply List.filter_congr
  intro result _
  cases hwanted : wantedBy taskIds result.taskId with
  | true => simp
  | false => simp [Session.isPendingTaskId, hsame result.taskId hwanted]

theorem handleResults_handled (nodeId : NodeId) :
    ∀ (results : List (TaskResult D)) (call : DrainCall) (d : DrainState V D),
      DrainSound d → RoomFor call results.length →
      bufferedOnce d.session call.taskIds nodeId (.ok results) →
      ∃ taken, (∀ entry ∈ taken,
          wantedBy call.taskIds entry.2.taskId = true) ∧
        Handled taken ((filteredOut d.session call.taskIds results).map
            fun result => (nodeId, result)) d
          (DrainState.handleResults nodeId results call d).1 := by
  intro results
  induction results with
  | nil =>
    intro call d hsound _ _
    exact ⟨[], by simp, handled_nil hsound⟩
  | cons result results ih =>
    intro call d hsound hroom honce
    have hshorter : RoomFor call results.length := by
      intro hpos
      have hle := hroom hpos
      rw [List.length_cons] at hle
      omega
    obtain ⟨hnodup, hfresh⟩ := honce
    rw [filteredOut_cons] at hnodup hfresh ⊢
    rw [DrainState.handleResults]
    cases hpending : d.session.isPendingTaskId result.taskId with
    | false =>
      simp only [hpending, Bool.false_and, Bool.false_eq_true, if_false]
        at hnodup hfresh ⊢
      exact ih call d hsound hshorter ⟨hnodup, hfresh⟩
    | true =>
      have hmem : result.taskId ∈ d.session.pendingTaskIds :=
        of_decide_eq_true hpending
      cases hwanted : wantedBy call.taskIds result.taskId with
      | false =>
        simp only [hpending, hwanted, Bool.not_true, Bool.not_false,
          Bool.true_and, Bool.false_eq_true, if_false, if_true, List.map_cons,
          List.nodup_cons, List.forall_mem_cons] at hnodup hfresh ⊢
        have hsound' := hsound.keepForLater (nodeId, result) hfresh.1
        have honce' : bufferedOnce (d.keepForLater (nodeId, result)).session
            call.taskIds nodeId (.ok results) := by
          refine ⟨hnodup.2, ?_⟩
          intro other hother
          have hne : other.taskId ≠ result.taskId := fun heq =>
            hnodup.1 (List.mem_map.mpr ⟨other, hother, heq⟩)
          have hold := hfresh.2 other hother
          simpa [DrainState.keepForLater, Session.appendBuffered,
            Session.bufferedTaskIds, hne] using hold
        obtain ⟨taken, hall, hhandled⟩ := ih call _ hsound' hshorter honce'
        exact ⟨taken, hall, hhandled.keep⟩
      | true =>
        simp only [hpending, hwanted, Bool.not_true, Bool.and_false,
          Bool.false_eq_true, if_false] at hnodup hfresh ⊢
        have hsound' := hsound.deliver (nodeId, result) hmem
        split
        · next hreached =>
          have hnone : results = [] :=
            List.eq_nil_of_length_eq_zero (RoomFor.last hroom hreached)
          subst hnone
          exact ⟨[(nodeId, result)], by simpa using hwanted,
            (handled_nil hsound').deliver⟩
        · have hsame : filteredOut (d.deliver (nodeId, result)).session
              call.taskIds results =
              filteredOut d.session call.taskIds results := by
            apply filteredOut_congr
            intro taskId hunwanted
            rw [deliver_pending]
            refine ⟨fun h => h.1, fun h => ⟨h, ?_⟩⟩
            intro heq
            simp [heq, hwanted] at hunwanted
          have honce' : bufferedOnce (d.deliver (nodeId, result)).session
              call.taskIds nodeId (.ok results) := by
            refine ⟨hsame ▸ hnodup, ?_⟩
            intro other hother
            rw [hsame] at hother
            simpa [Session.bufferedTaskIds] using hfresh other hother
          obtain ⟨taken, hall, hhandled⟩ :=
            ih call.countYield _ hsound' hroom.countYield honce'
          simp only [DrainCall.countYield, hsame] at hall hhandled
          exact ⟨(nodeId, result) :: taken,
            List.forall_mem_cons.mpr ⟨hwanted, hall⟩, hhandled.deliver⟩

/-! ### The items of the buffer -/

section SplitBuffered

variable (pending : Finset TaskId) (taskIds : Option (Finset TaskId))
  (maxCount : Nat)

theorem splitBuffered_perm :
    ∀ (entries : List (NodeId × TaskResult D)) (matched : Nat),
      ((splitBuffered pending taskIds maxCount entries matched).1 ++
        (splitBuffered pending taskIds maxCount entries matched).2).Perm
        (entries.filter fun entry => decide (entry.2.taskId ∈ pending)) := by
  intro entries
  induction entries with
  | nil =>
    intro matched
    exact List.Perm.refl _
  | cons entry entries ih =>
    intro matched
    rw [splitBuffered]
    by_cases hpending : entry.2.taskId ∈ pending
    · simp only [hpending, not_true_eq_false, if_false, List.filter_cons,
        decide_true, if_true]
      split
      · exact List.perm_middle.trans ((ih matched).cons entry)
      · exact (ih (matched + 1)).cons entry
    · simpa only [hpending, not_false_eq_true, if_true, List.filter_cons,
        decide_false, Bool.false_eq_true, if_false] using ih matched

theorem splitBuffered_length_le (hpos : 0 < maxCount) :
    ∀ (entries : List (NodeId × TaskResult D)) (matched : Nat),
      matched ≤ maxCount →
      matched + (splitBuffered pending taskIds maxCount entries matched).1.length
        ≤ maxCount := by
  intro entries
  induction entries with
  | nil =>
    intro matched hle
    simpa [splitBuffered] using hle
  | cons entry entries ih =>
    intro matched hle
    rw [splitBuffered]
    split
    · exact ih matched hle
    · split
      · exact ih matched hle
      · next hopen =>
        have hroom : matched < maxCount := by
          simp only [Bool.or_eq_true, decide_eq_true_eq, not_or] at hopen
          by_contra hfull
          exact hopen.2 ⟨hpos, Nat.le_of_not_lt hfull⟩
        have hrest := ih (matched + 1) hroom
        simp only [List.length_cons]
        omega

theorem splitBuffered_kept_wanted :
    ∀ (entries : List (NodeId × TaskResult D)) (matched : Nat),
      ∀ entry ∈ (splitBuffered pending taskIds maxCount entries matched).2,
        wantedBy taskIds entry.2.taskId = true → 0 < maxCount ∧
          maxCount ≤ matched +
            (splitBuffered pending taskIds maxCount entries matched).1.length := by
  intro entries
  induction entries with
  | nil =>
    intro matched entry hentry
    cases hentry
  | cons head entries ih =>
    intro matched entry hentry hwanted
    rw [splitBuffered] at hentry ⊢
    split at hentry
    · next hgone =>
      rw [if_pos hgone]
      exact ih matched entry hentry hwanted
    · next hpending =>
      rw [if_neg hpending]
      split at hentry
      · next hkept =>
        rw [if_pos hkept]
        rcases List.mem_cons.mp hentry with heq | htail
        · subst heq
          have hfull : 0 < maxCount ∧ maxCount ≤ matched := by
            simpa [hwanted] using hkept
          exact ⟨hfull.1, Nat.le_trans hfull.2 (Nat.le_add_right _ _)⟩
        · exact ih matched entry htail hwanted
      · next hopen =>
        rw [if_neg hopen]
        have hrest := ih (matched + 1) entry hentry hwanted
        refine ⟨hrest.1, ?_⟩
        rw [List.length_cons]
        omega

end SplitBuffered

theorem DrainSound.setBuffered (h : DrainSound d)
    {items : List (NodeId × TaskResult D)}
    (hnodup : (items.map fun entry => entry.2.taskId).Nodup) :
    DrainSound (d.setSession (d.session.setBuffered items)) :=
  ⟨h.records_empty, h.index_empty, h.mapped, h.pending_drawn,
    h.delivered_drawn, h.delivered_nodup, h.delivered_settled, hnodup⟩

/-- The state in which a round delivers the items of the buffer it matched, and
what comes of the delivery. -/
structure RoundDrain (call : DrainCall) (d : DrainState V D)
    (matched kept : List (NodeId × TaskResult D)) (d' : DrainState V D) : Prop
    where
  handled : Handled matched []
    (d.setSession (d.session.setBuffered kept)) d'
  live : ∀ entry ∈ matched, entry.2.taskId ∈ d.session.pendingTaskIds
  covers : ∀ entry ∈ d.session.bufferedResultItems,
    entry.2.taskId ∈ d.session.pendingTaskIds → entry ∈ matched ∨ entry ∈ kept
  disjoint : ∀ entry ∈ kept, ∀ other ∈ matched,
    entry.2.taskId ≠ other.2.taskId
  full : ∀ entry ∈ kept, wantedBy call.taskIds entry.2.taskId = true →
    0 < call.remainingByMax ∧ call.remainingByMax ≤ matched.length

theorem remainingByMax_pos (hreached : call.targetReached = false)
    (hpos : 0 < call.effectiveTarget) :
    0 < call.remainingByMax ∧
      call.yielded + call.remainingByMax = call.effectiveTarget := by
  have hnot : ¬(0 < call.effectiveTarget ∧
      call.effectiveTarget ≤ call.yielded) := of_decide_eq_false hreached
  rw [DrainCall.remainingByMax, if_pos hpos]
  omega

theorem roundDrain (hsound : DrainSound d) (call : DrainCall)
    (hreached : call.targetReached = false) :
    RoundDrain call d
      (d.session.iterBufferedResultItems call.taskIds call.remainingByMax).1
      (splitBuffered d.session.pendingTaskIds call.taskIds call.remainingByMax
        d.session.bufferedResultItems 0).2
      (DrainState.deliverBuffered
        (d.session.iterBufferedResultItems call.taskIds call.remainingByMax).1
        call (d.setSession (d.session.iterBufferedResultItems call.taskIds
          call.remainingByMax).2)).1 := by
  simp only [Session.iterBufferedResultItems]
  have hperm := splitBuffered_perm d.session.pendingTaskIds call.taskIds
    call.remainingByMax d.session.bufferedResultItems 0
  have hkept := splitBuffered_kept_wanted d.session.pendingTaskIds call.taskIds
    call.remainingByMax d.session.bufferedResultItems 0
  have hlength : RoomFor call (splitBuffered d.session.pendingTaskIds
      call.taskIds call.remainingByMax
      d.session.bufferedResultItems 0).1.length := by
    intro hpos
    obtain ⟨hremaining, hsum⟩ := remainingByMax_pos hreached hpos
    have hle := splitBuffered_length_le d.session.pendingTaskIds call.taskIds
      call.remainingByMax hremaining d.session.bufferedResultItems 0
      (Nat.zero_le _)
    omega
  generalize splitBuffered d.session.pendingTaskIds call.taskIds
    call.remainingByMax d.session.bufferedResultItems 0 = split
    at hperm hkept hlength
  obtain ⟨matched, kept⟩ := split
  have hnodup : ((matched ++ kept).map fun entry => entry.2.taskId).Nodup := by
    rw [(hperm.map _).nodup_iff]
    exact hsound.buffered_nodup.sublist (List.filter_sublist.map _)
  rw [List.map_append, List.nodup_append] at hnodup
  have hpending : ∀ entry ∈ matched,
      entry.2.taskId ∈ d.session.pendingTaskIds := by
    intro entry hentry
    have hmem := hperm.mem_iff.mp (List.mem_append_left kept hentry)
    exact of_decide_eq_true (List.mem_filter.mp hmem).2
  constructor
  · exact deliverBuffered_handled matched call _
      (hsound.setBuffered hnodup.2.1) hnodup.1 hpending hlength
  · exact hpending
  · intro entry hentry hmem
    have hfiltered : entry ∈ matched ++ kept :=
      hperm.mem_iff.mpr (List.mem_filter.mpr ⟨hentry, decide_eq_true hmem⟩)
    exact List.mem_append.mp hfiltered
  · intro entry hentry other hother heq
    exact hnodup.2.2 _ (List.mem_map.mpr ⟨other, hother, rfl⟩) _
      (List.mem_map.mpr ⟨entry, hentry, rfl⟩) heq.symm
  · intro entry hentry hwanted
    have hfull := hkept entry hentry hwanted
    omega

theorem RoundDrain.held {matched : List (NodeId × TaskResult D)}
    (h : RoundDrain call d matched kept d') (hheld : HeldKept d) :
    HeldKept d' := by
  intro entry hentry
  rw [h.handled.heldBack] at hentry
  rw [h.handled.delivered]
  rcases hheld entry hentry with hdelivered | ⟨hbuffered, hpending⟩
  · exact Or.inl (List.mem_append_left _ hdelivered)
  · rcases h.covers entry hbuffered hpending with hmatched | hkept
    · exact Or.inl (List.mem_append_right _ hmatched)
    · refine Or.inr ⟨?_, ?_⟩
      · rw [h.handled.buffered]
        exact List.mem_append_left _ hkept
      · rw [h.handled.pending]
        exact ⟨hpending, h.disjoint entry hkept⟩

theorem RoundDrain.unwanted {matched : List (NodeId × TaskResult D)}
    (h : RoundDrain call d matched kept d') (hheld : HeldKept d)
    (hsettled : ∀ entry ∈ d.delivered,
      entry.2.taskId ∉ d.session.pendingTaskIds)
    (hopen : call.remainingByMax = 0 ∨ matched.length < call.remainingByMax) :
    HeldUnwanted d' call := by
  intro entry hentry hpending
  rw [h.handled.heldBack] at hentry
  rw [h.handled.pending] at hpending
  rcases hheld entry hentry with hdelivered | ⟨hbuffered, _⟩
  · exact absurd hpending.1 (hsettled entry hdelivered)
  · rcases h.covers entry hbuffered hpending.1 with hmatched | hkept
    · exact absurd rfl (hpending.2 entry hmatched)
    · by_contra hwanted
      have hfull := h.full entry hkept (Bool.not_eq_false _ ▸ hwanted)
      omega

theorem DrainInvariant.beginRound (h : DrainInvariant d) (call : DrainCall)
    (pools : List NodeId) : DrainInvariant (d.beginRound call pools) := by
  unfold DrainState.beginRound
  simp only
  generalize call.retarget d.session.pendingResultCount = call
  split
  · exact DrainInvariant.returned h.sound h.held
  · next hnot =>
    have hreached : call.targetReached = false := by simpa using hnot
    have hdrain := roundDrain h.sound call hreached
    have hgoes := fun call' => deliverBuffered_call
      (d.session.iterBufferedResultItems call.taskIds call.remainingByMax).1
      call call' (d.setSession (d.session.iterBufferedResultItems call.taskIds
        call.remainingByMax).2) hreached
    generalize DrainState.deliverBuffered _ call _ = outcome at hdrain hgoes
    obtain ⟨d', answer⟩ := outcome
    have hsound' : DrainSound d' := hdrain.handled.sound
    have hheld' : HeldKept d' := hdrain.held h.held
    cases answer with
    | none => exact DrainInvariant.returned hsound' hheld'
    | some call' =>
      obtain ⟨hreached', htaskIds, htarget, hyielded⟩ := hgoes call' rfl
      have hopen : call.remainingByMax = 0 ∨
          (d.session.iterBufferedResultItems call.taskIds
            call.remainingByMax).1.length < call.remainingByMax := by
        by_cases hpos : 0 < call.effectiveTarget
        · have hleft := remainingByMax_pos hreached hpos
          have hnot' : ¬(0 < call'.effectiveTarget ∧
            call'.effectiveTarget ≤ call'.yielded) :=
              of_decide_eq_false hreached'
          rw [htarget, hyielded] at hnot'
          omega
        · left
          rw [DrainCall.remainingByMax, if_neg hpos]
      have hunwanted := hdrain.unwanted h.held h.sound.delivered_settled hopen
      unfold HeldUnwanted at hunwanted
      rw [← htaskIds] at hunwanted
      apply DrainInvariant.endRound hsound' hheld'
      · unfold DrainCall.orderPools
        split <;> exact hreached'
      · unfold DrainCall.orderPools
        split <;> exact hunwanted

/-! ### A lost node -/

theorem removeReplayRecord_of_empty (hempty : s.replayRecords = ∅)
    (taskId : TaskId) : s.removeReplayRecord taskId = (none, s) := by
  simp [Session.removeReplayRecord, hempty]

theorem takeTasks_of_empty : ∀ (taskIds : List TaskId) (s : Session V D),
    s.replayRecords = ∅ →
    (Session.takeTasks taskIds s).1 = [] ∧
    (Session.takeTasks taskIds s).2.1 = taskIds ∧
    (Session.takeTasks taskIds s).2.2.replayRecords = ∅ ∧
    (Session.takeTasks taskIds s).2.2.replayNodeIndex = s.replayNodeIndex
  | [], s, hempty => ⟨rfl, rfl, hempty, rfl⟩
  | taskId :: taskIds, s, hempty => by
    have hrest := takeTasks_of_empty taskIds (s.discardPending taskId) hempty
    have htake : s.takeTask taskId = (none, s.discardPending taskId) := by
      apply removeReplayRecord_of_empty
      exact hempty
    rw [Session.takeTasks, htake]
    exact ⟨hrest.1, by rw [hrest.2.1], hrest.2.2.1, hrest.2.2.2⟩

structure FailedLocally (nodeId : NodeId) (message : String)
    (taskIds : List TaskId) (s s' : Session V D) : Prop where
  pending : ∀ taskId, taskId ∈ s'.pendingTaskIds ↔
    taskId ∈ taskIds ∨ taskId ∈ s.pendingTaskIds
  nodeIds : ∀ taskId, s'.pendingTaskNodeIds.lookup taskId =
    if taskId ∈ taskIds then some nodeId
    else s.pendingTaskNodeIds.lookup taskId
  bufferedResultItems : s'.bufferedResultItems = s.bufferedResultItems ++
    taskIds.map fun taskId => (nodeId, localFailedTaskResult taskId message)
  replayRecords : s'.replayRecords = s.replayRecords
  replayNodeIndex : s'.replayNodeIndex = s.replayNodeIndex
  submitSeq : s'.submitSeq = s.submitSeq

theorem failedLocally_foldl (nodeId : NodeId) (message : String) :
    ∀ (taskIds : List TaskId) (s : Session V D),
      FailedLocally nodeId message taskIds s (taskIds.foldl
        (fun s taskId => s.failTaskLocally nodeId message taskId) s)
  | [], s => by constructor <;> simp
  | taskId :: taskIds, s => by
    have hrest := failedLocally_foldl nodeId message taskIds
      (s.failTaskLocally nodeId message taskId)
    rw [List.foldl_cons]
    constructor
    · intro other
      rw [hrest.pending]
      simp only [Session.failTaskLocally, Session.appendBuffered,
        Session.addPending, Finset.mem_insert, List.mem_cons]
      tauto
    · intro other
      rw [hrest.nodeIds]
      simp only [Session.failTaskLocally, Session.appendBuffered,
        Session.addPending, lookup_set, List.mem_cons]
      by_cases heq : other = taskId <;> by_cases hmem : other ∈ taskIds <;>
        simp [heq, hmem]
    · rw [hrest.bufferedResultItems]
      simp [Session.failTaskLocally, Session.appendBuffered,
        Session.addPending]
    · exact hrest.replayRecords
    · exact hrest.replayNodeIndex
    · exact hrest.submitSeq

theorem mem_nodeTaskIds_of_empty (hindex : s.replayNodeIndex = ∅)
    {taskId : TaskId} :
    taskId ∈ s.nodeTaskIds nodeId ↔
      s.pendingTaskNodeIds.lookup taskId = some nodeId := by
  simp [Session.nodeTaskIds, hindex, Session.mem_mappedTaskIds]

theorem failPendingTasksForLostNode_spec (hsettled : d.session.Settled)
    (world : World V D) (nodeId : NodeId) (error : String) :
    ∃ message,
      let s' := d.session.failPendingTasksForLostNode world nodeId error
      s'.pendingTaskIds = d.session.pendingTaskIds ∧
      (∀ taskId, s'.pendingTaskNodeIds.lookup taskId =
        d.session.pendingTaskNodeIds.lookup taskId) ∧
      s'.bufferedResultItems = d.session.bufferedResultItems ++
        (world.setOrder (d.session.nodeTaskIds nodeId)).map
          (fun taskId => (nodeId, localFailedTaskResult taskId message)) ∧
      s'.replayRecords = ∅ ∧ s'.replayNodeIndex = ∅ ∧
      s'.submitSeq = d.session.submitSeq := by
  refine ⟨if error = "" then "node lost before task completed" else error, ?_⟩
  generalize hids : world.setOrder (d.session.nodeTaskIds nodeId) = ids
  have hmem : ∀ taskId, taskId ∈ ids ↔
      d.session.pendingTaskNodeIds.lookup taskId = some nodeId := by
    intro taskId
    rw [← hids, (world.setOrder_perm _).mem_iff,
      mem_nodeTaskIds_of_empty hsettled.index_empty]
  have hempty : (d.session.note (.released nodeId)).replayRecords = ∅ :=
    hsettled.records_empty
  have htaken := takeTasks_of_empty ids
    (d.session.note (.released nodeId)) hempty
  have hdropped := Session.dropped_takeTasks ids
    (d.session.note (.released nodeId))
  simp only [Session.failPendingTasksForLostNode, Session.markTaskpoolNodeLost,
    Session.releaseNodeTasks, hids, htaken.1, htaken.2.1, List.map_nil,
    List.nil_append]
  have hfailed := failedLocally_foldl nodeId
    (if error = "" then "node lost before task completed" else error) ids
    (Session.takeTasks ids (d.session.note (.released nodeId))).2.2
  refine ⟨?_, ?_, ?_, ?_, ?_, ?_⟩
  · ext taskId
    rw [hfailed.pending, hdropped.pending, Finset.mem_sdiff, List.mem_toFinset]
    have hold : taskId ∈ ids → taskId ∈ d.session.pendingTaskIds := fun h =>
      hsettled.mapped taskId nodeId ((hmem taskId).mp h)
    simp only [Session.note]
    tauto
  · intro taskId
    rw [hfailed.nodeIds, hdropped.nodeIds]
    split
    · next h => exact ((hmem taskId).mp h).symm
    · rfl
  · rw [hfailed.bufferedResultItems, hdropped.bufferedResultItems]
    rfl
  · rw [hfailed.replayRecords]
    exact htaken.2.2.1
  · rw [hfailed.replayNodeIndex, htaken.2.2.2]
    exact hsettled.index_empty
  · rw [hfailed.submitSeq, hdropped.submitSeq]
    rfl

theorem DrainSound.lostNode (h : DrainSound d) (world : World V D)
    (nodeId : NodeId) (error : String)
    (honce : ∀ taskId ∈ d.session.nodeTaskIds nodeId,
      taskId ∉ d.session.bufferedTaskIds) :
    DrainSound (d.setSession
      (d.session.failPendingTasksForLostNode world nodeId error)) := by
  obtain ⟨message, hpending, hnodes, hbuffered, hrecords, hindex, hseq⟩ :=
    failPendingTasksForLostNode_spec h.settled world nodeId error
  constructor
  · exact hrecords
  · exact hindex
  · simp only [DrainState.setSession, hpending]
    intro taskId node hnode
    rw [hnodes] at hnode
    exact h.mapped taskId node hnode
  · simpa only [DrainState.setSession, hpending, hseq] using h.pending_drawn
  · simpa only [DrainState.setSession, hseq] using h.delivered_drawn
  · exact h.delivered_nodup
  · simpa only [DrainState.setSession, hpending] using h.delivered_settled
  · simp only [DrainState.setSession, Session.bufferedTaskIds, hbuffered,
      List.map_append, List.map_map]
    refine List.Nodup.append h.buffered_nodup ?_ ?_
    · simpa [Function.comp_def, localFailedTaskResult] using
        (world.setOrder_perm _).nodup_iff.mpr
          (d.session.nodeTaskIds_nodup nodeId)
    · intro taskId hold hnew
      obtain ⟨failed, hfailed, rfl⟩ := List.mem_map.mp hnew
      exact honce failed ((world.setOrder_perm _).mem_iff.mp hfailed) hold

theorem DrainInvariant.lostNode (h : DrainInvariant d) (world : World V D)
    (call : DrainCall) (nodeId : NodeId) (error : String)
    (honce : bufferedOnce d.session call.taskIds nodeId (.error error))
    (hreached : call.targetReached = false) (hunwanted : HeldUnwanted d call) :
    DrainInvariant ((d.setSession (d.session.failPendingTasksForLostNode world
      nodeId error)).endRound call) := by
  obtain ⟨message, hpending, _, hbuffered, _, _, _⟩ :=
    failPendingTasksForLostNode_spec h.sound.settled world nodeId error
  apply DrainInvariant.endRound (h.sound.lostNode world nodeId error honce)
  · intro entry hentry
    rcases h.held entry hentry with hdelivered | ⟨hmem, hlive⟩
    · exact Or.inl hdelivered
    · refine Or.inr ⟨?_, ?_⟩
      · simp only [DrainState.setSession, hbuffered]
        exact List.mem_append_left _ hmem
      · simpa only [DrainState.setSession, hpending] using hlive
  · exact hreached
  · simpa only [HeldUnwanted, DrainState.setSession, hpending] using hunwanted

theorem DrainSound.noteHeldBack (h : DrainSound d)
    (entries : List (NodeId × TaskResult D)) :
    DrainSound (d.noteHeldBack entries) :=
  ⟨h.records_empty, h.index_empty, h.mapped, h.pending_drawn,
    h.delivered_drawn, h.delivered_nodup, h.delivered_settled,
    h.buffered_nodup⟩

theorem mem_filteredOut {taskIds : Option (Finset TaskId)}
    {results : List (TaskResult D)} {result : TaskResult D}
    (h : result ∈ filteredOut s taskIds results) :
    result.taskId ∈ s.pendingTaskIds ∧
      wantedBy taskIds result.taskId = false := by
  have hboth := (List.mem_filter.mp h).2
  simp only [Bool.and_eq_true, Bool.not_eq_true'] at hboth
  exact ⟨of_decide_eq_true hboth.1, hboth.2⟩

theorem handled_held {results : List (TaskResult D)} (hheld : HeldKept d)
    (hunwanted : HeldUnwanted d call)
    (hwanted : ∀ entry ∈ taken, wantedBy call.taskIds entry.2.taskId = true)
    (hhandled : Handled taken
      ((filteredOut d.session call.taskIds results).map
        fun result => (nodeId, result))
      (d.noteHeldBack ((filteredOut d.session call.taskIds results).map
        fun result => (nodeId, result))) d') :
    HeldKept d' ∧ HeldUnwanted d' call := by
  have hlive : ∀ taskId, taskId ∈ d.session.pendingTaskIds →
      wantedBy call.taskIds taskId = false →
        taskId ∈ d'.session.pendingTaskIds := by
    intro taskId hmem hnot
    rw [hhandled.pending]
    refine ⟨hmem, ?_⟩
    intro entry hentry heq
    rw [heq, hwanted entry hentry] at hnot
    cases hnot
  constructor
  · intro entry hentry
    rw [hhandled.heldBack] at hentry
    rcases List.mem_append.mp hentry with hold | hnew
    · rcases hheld entry hold with hdelivered | ⟨hbuffered, hpending⟩
      · refine Or.inl ?_
        rw [hhandled.delivered]
        exact List.mem_append_left _ hdelivered
      · refine Or.inr ⟨?_, hlive _ hpending (hunwanted entry hold hpending)⟩
        rw [hhandled.buffered]
        exact List.mem_append_left _ hbuffered
    · refine Or.inr ⟨?_, ?_⟩
      · rw [hhandled.buffered]
        exact List.mem_append_right _ hnew
      · obtain ⟨result, hresult, rfl⟩ := List.mem_map.mp hnew
        obtain ⟨hpending, hnot⟩ := mem_filteredOut hresult
        exact hlive _ hpending hnot
  · intro entry hentry hpending
    rw [hhandled.heldBack] at hentry
    rw [hhandled.pending] at hpending
    rcases List.mem_append.mp hentry with hold | hnew
    · exact hunwanted entry hold hpending.1
    · obtain ⟨result, hresult, rfl⟩ := List.mem_map.mp hnew
      exact (mem_filteredOut hresult).2

theorem handleResults_call (nodeId : NodeId) :
    ∀ (results : List (TaskResult D)) (call call' : DrainCall)
      (d : DrainState V D),
      (DrainState.handleResults nodeId results call d).2 = some call' →
        call'.taskIds = call.taskIds ∧ call'.toPoll = call.toPoll := by
  intro results
  induction results with
  | nil =>
    intro call call' d hcall
    cases hcall
    exact ⟨rfl, rfl⟩
  | cons result results ih =>
    intro call call' d hcall
    rw [DrainState.handleResults] at hcall
    split at hcall
    · exact ih _ _ _ hcall
    · split at hcall
      · exact ih _ _ _ hcall
      · split at hcall
        · cases hcall
        · exact ih call.countYield _ _ hcall

theorem pollNode_ok (world : World V D) (call : DrainCall) (nodeId : NodeId)
    {results : List (TaskResult D)} (hsome : results ≠ []) :
    d.pollNode world call nodeId true (.ok results) =
      match DrainState.handleResults nodeId results call
        (d.noteHeldBack ((filteredOut d.session call.taskIds results).map
          fun result => (nodeId, result))) with
      | (d, none) => d.setCall none
      | (d, some call) =>
        if call.targetReached then d.setCall none else d.endRound call := by
  cases results with
  | nil => exact absurd rfl hsome
  | cons first others => rfl

theorem DrainInvariant.pollNode (h : DrainInvariant d) (world : World V D)
    (call : DrainCall) (nodeId : NodeId) (accepts : Bool)
    (reply : Except String (List (TaskResult D)))
    (hlimit : replyWithinLimit call.perPullLimit reply = true)
    (honce : accepts = true → bufferedOnce d.session call.taskIds nodeId reply)
    (hreached : call.targetReached = false) (hunwanted : HeldUnwanted d call) :
    DrainInvariant (d.pollNode world call nodeId accepts reply) := by
  cases accepts with
  | false => exact DrainInvariant.endRound h.sound h.held hreached hunwanted
  | true =>
    have honce := honce rfl
    cases reply with
    | error error =>
      exact h.lostNode world call nodeId error honce hreached hunwanted
    | ok results =>
      cases hresults : results with
      | nil => exact DrainInvariant.endRound h.sound h.held hreached hunwanted
      | cons first others =>
        rw [← hresults]
        have hroom : RoomFor call results.length := by
          intro hpos
          obtain ⟨hremaining, hsum⟩ := remainingByMax_pos hreached hpos
          have hle : results.length ≤ call.perPullLimit :=
            of_decide_eq_true hlimit
          rw [DrainCall.perPullLimit] at hle
          simp only [hremaining, if_true] at hle
          omega
        rw [pollNode_ok world call nodeId (by simp [hresults])]
        generalize hnoted : d.noteHeldBack ((filteredOut d.session call.taskIds
          results).map fun result => (nodeId, result)) = noted
        have hsession : noted.session = d.session := by rw [← hnoted]; rfl
        have hsound : DrainSound noted := hnoted ▸ h.sound.noteHeldBack _
        obtain ⟨taken, hwanted, hhandled⟩ := handleResults_handled nodeId
          results call noted hsound hroom (hsession ▸ honce)
        have hcalls := fun call' => handleResults_call nodeId results call
          call' noted
        generalize DrainState.handleResults nodeId results call noted = outcome
          at hhandled hcalls
        obtain ⟨d', answer⟩ := outcome
        rw [hsession, ← hnoted] at hhandled
        have hboth := handled_held h.held hunwanted hwanted hhandled
        cases answer with
        | none => exact DrainInvariant.returned hhandled.sound hboth.1
        | some call' =>
          simp only
          split
          · exact DrainInvariant.returned hhandled.sound hboth.1
          · next hnot =>
            apply DrainInvariant.endRound hhandled.sound hboth.1
            · simpa using hnot
            · intro entry hentry hpending
              rw [(hcalls call' rfl).1]
              exact hboth.2 entry hentry hpending

/-! ### Every run -/

theorem DrainInvariant.submit (h : DrainInvariant d) (hidle : d.call = none)
    (world : World V D) (payloads : List (RawPayload V)) (targets : List NodeId)
    :
    DrainInvariant
      (d.setSession (submitPayloads world payloads targets d.session).2) := by
  have hsubmit := submitted_submitPayloads world payloads targets d.session
  generalize (submitPayloads world payloads targets d.session).2 = s' at hsubmit
  refine ⟨?_, ?_, ?_⟩
  · constructor
    · exact hsubmit.replayRecords.trans h.sound.records_empty
    · exact hsubmit.replayNodeIndex.trans h.sound.index_empty
    · intro taskId nodeId hnode
      rcases hsubmit.mapped taskId nodeId hnode with hold | hpending
      · exact hsubmit.pending_old _ (h.sound.mapped taskId nodeId hold)
      · exact hpending
    · intro taskId hpending
      rcases hsubmit.pending_new taskId hpending with hold | hnew
      · exact Nat.le_trans (h.sound.pending_drawn taskId hold) hsubmit.drawn
      · exact hnew.2
    · intro entry hentry
      exact Nat.le_trans (h.sound.delivered_drawn entry hentry) hsubmit.drawn
    · exact h.sound.delivered_nodup
    · intro entry hentry hpending
      rcases hsubmit.pending_new _ hpending with hold | hnew
      · exact h.sound.delivered_settled entry hentry hold
      · exact Nat.not_lt_of_le (h.sound.delivered_drawn entry hentry) hnew.1
    · simpa only [DrainState.setSession, Session.bufferedTaskIds,
        hsubmit.bufferedResultItems] using h.sound.buffered_nodup
  · intro entry hentry
    rcases h.held entry hentry with hdelivered | ⟨hbuffered, hpending⟩
    · exact Or.inl hdelivered
    · refine Or.inr ⟨?_, hsubmit.pending_old _ hpending⟩
      simpa only [DrainState.setSession, hsubmit.bufferedResultItems] using
        hbuffered
  · intro call hcall
    simp only [DrainState.setSession, hidle] at hcall
    cases hcall

theorem drainInvariant_step {world : World V D} {label : DrainLabel V D}
    (h : DrainInvariant d) (honce : buffersOnce d label)
    (hstep : drainStep world d label = some d') : DrainInvariant d' := by
  cases label with
  | submitPayloads payloads targets =>
    simp only [drainStep] at hstep
    split at hstep
    · cases hstep
    · next hidle =>
      cases hstep
      exact h.submit (by simpa using hidle) world payloads targets
  | openCall maxCount limit taskIds =>
    simp only [drainStep] at hstep
    split at hstep
    · cases hstep
    · cases hstep
      refine ⟨h.sound.setCall _, h.held, ?_⟩
      intro call hcall hpoll
      cases hcall
      exact absurd rfl hpoll
  | beginRound pools =>
    simp only [drainStep] at hstep
    split at hstep
    · cases hstep
    · split at hstep
      · cases hstep
        exact h.beginRound _ pools
      · cases hstep
  | poll accepts reply =>
    simp only [drainStep] at hstep
    split at hstep
    · cases hstep
    · next call hcall =>
      split at hstep
      · cases hstep
      · next nodeId rest hnodes =>
        split at hstep
        · next hlimit =>
          cases hstep
          obtain ⟨hreached, hunwanted⟩ :=
            h.polling call hcall (by simp [hnodes])
          apply h.pollNode world (call.setToPoll rest) nodeId accepts reply hlimit
          · intro haccepts
            subst haccepts
            exact honce call hcall nodeId (by simp [hnodes])
          · exact hreached
          · exact hunwanted
        · cases hstep
  | deadlineReached =>
    simp only [drainStep] at hstep
    split at hstep
    · cases hstep
    · split at hstep
      · cases hstep
        exact DrainInvariant.returned h.sound h.held
      · cases hstep

theorem drainInvariant_run {world : World V D} {last : DrainState V D}
    (hrun : GuardedRun (drainStep world) buffersOnce DrainState.opened last) :
    DrainInvariant last := by
  apply hrun.invariant DrainInvariant drainInvariant_opened
  intro d label d' hgood hok hstep
  exact drainInvariant_step hgood hok hstep

end PycloudParallel.TaskPool
