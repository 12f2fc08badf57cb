import PycloudParallel.TaskPoolImapLedger

/-!
# Every function of `imap_unordered` keeps the ledger

One lemma for each function of the generator, in the order in which they call
each other, up to the loop.
-/

namespace PycloudParallel.TaskPool

open OrderedDict

variable {V D : Type} {world : World V D} {payloads : List (RawPayload V)}
  {hand : List (Held V)} {completed : List (ExecutionItem D)}

/-! ### Planned targets -/

theorem mem_foldl_set {ν : Type} {node : NodeId} (value : NodeId → ν) :
    ∀ (nodes : List NodeId) (dict : OrderedDict NodeId ν),
      node ∈ nodes.foldl
        (fun dict nodeId => OrderedDict.set dict nodeId (value nodeId)) dict →
      node ∈ nodes ∨ node ∈ dict
  | [], _, hmem => Or.inr hmem
  | first :: nodes, dict, hmem => by
    rcases mem_foldl_set value nodes _ hmem with hrest | hset
    · exact Or.inl (List.mem_cons_of_mem _ hrest)
    · rcases mem_set.mp hset with heq | hold
      · exact Or.inl (heq ▸ List.mem_cons_self ..)
      · exact Or.inr hold

theorem planTargets_subset (nodeOrder : List NodeId) :
    ∀ (rounds : Nat) (remaining : OrderedDict NodeId Nat)
      (disabled : List NodeId) (maxNewTasks clock : Nat),
      (∀ node ∈ remaining, node ∈ nodeOrder) →
      ∀ node ∈ planTargets world nodeOrder rounds remaining disabled
        maxNewTasks clock, node ∈ nodeOrder := by
  intro rounds
  induction rounds with
  | zero =>
    intro remaining disabled maxNewTasks clock _ node hmem
    simp [planTargets] at hmem
  | succ rounds ih =>
    intro remaining disabled maxNewTasks clock hkeys node hmem
    cases maxNewTasks with
    | zero => simp [planTargets] at hmem
    | succ maxNewTasks =>
      rw [planTargets] at hmem
      split at hmem
      · cases hmem
      · split at hmem
        · cases hmem
        · next selected _ =>
          split at hmem
          · exact ih _ _ _ _ hkeys node hmem
          · next left hleft =>
            have hselected : selected ∈ remaining := by
              rw [mem_iff_lookup]
              cases hlookup : remaining.lookup selected with
              | none => simp [hlookup] at hleft
              | some count => exact ⟨count, rfl⟩
            rcases List.mem_cons.mp hmem with heq | htail
            · exact heq ▸ hkeys selected hselected
            · refine ih _ _ _ _ ?_ node htail
              intro other hother
              rcases mem_set.mp hother with heq | hold
              · exact heq ▸ hkeys selected hselected
              · exact hkeys other hold

theorem planLimitedPoolNodeTargets_subset (control : ImapControl)
    (availableByNode : OrderedDict NodeId Nat) (nodeOrder : List NodeId)
    (maxNewTasks clock : Nat) :
    ∀ node ∈ planLimitedPoolNodeTargets world control availableByNode nodeOrder
      maxNewTasks clock, node ∈ nodeOrder := by
  apply planTargets_subset
  intro node hmem
  rcases mem_foldl_set _ _ _ hmem with hnodes | hempty
  · exact (List.mem_filter.mp hnodes).1
  · cases hempty

/-! ### Filling the nodes -/

def groupedHand (nodeOrder : List NodeId) (grouped : GroupedEntries V) :
    List (Held V) :=
  nodeOrder.flatMap fun nodeId => (grouped.get nodeId).map ImapEntry.held

variable {nodeOrder nodeIds : List NodeId} {core core' : ImapCore V D}
  {control control' : ImapControl}

theorem groupedHand_append {nodeId : NodeId} {grouped : GroupedEntries V}
    (entry : ImapEntry V) (hnodup : nodeOrder.Nodup) (hmem : nodeId ∈ nodeOrder)
    :
    (entry.held :: groupedHand nodeOrder grouped).Perm
      (groupedHand nodeOrder (grouped.append nodeId entry)) := by
  have hget : ∀ other, (grouped.append nodeId entry).get other =
      if other = nodeId then grouped.get nodeId ++ [entry]
      else grouped.get other := by
    intro other
    rw [GroupedEntries.get, GroupedEntries.append, lookup_set]
    split <;> rfl
  induction nodeOrder with
  | nil => cases hmem
  | cons first rest ih =>
    obtain ⟨hnotin, hrest⟩ := List.nodup_cons.mp hnodup
    simp only [groupedHand, List.flatMap_cons, hget]
    rcases List.mem_cons.mp hmem with heq | htail
    · subst heq
      have hsame : (rest.flatMap fun node => (if node = nodeId
            then grouped.get nodeId ++ [entry]
            else grouped.get node).map ImapEntry.held) =
          rest.flatMap fun node => (grouped.get node).map ImapEntry.held := by
        apply List.flatMap_congr
        intro node hnode
        have hne : node ≠ nodeId := fun heq => hnotin (heq ▸ hnode)
        rw [if_neg hne]
      rw [if_pos rfl, hsame, List.map_append, List.map_cons, List.map_nil,
        List.append_assoc]
      exact List.perm_middle.symm
    · have hne : first ≠ nodeId := fun heq => hnotin (heq ▸ htail)
      rw [if_neg hne]
      have ih := ih hrest htail
      simp only [groupedHand, hget] at ih
      exact List.perm_middle.symm.trans (ih.append_left _)

theorem groupEntries_ledger (hnodup : nodeOrder.Nodup) :
    ∀ (targets : List NodeId) (grouped grouped' : GroupedEntries V)
      (core core' : ImapCore V D), (∀ node ∈ targets, node ∈ nodeOrder) →
      ImapLedger world payloads (groupedHand nodeOrder grouped) completed core →
      groupEntries world targets grouped core = (.ok grouped', core') →
      ImapLedger world payloads (groupedHand nodeOrder grouped') completed
        core' := by
  intro targets
  induction targets with
  | nil =>
    intro grouped grouped' core core' _ h hok
    cases hok
    exact h
  | cons nodeId targets ih =>
    intro grouped grouped' core core' hsub h hok
    rw [groupEntries] at hok
    split at hok
    · next buffer hnext =>
      cases hok
      exact h.setBuffer_of_next_none hnext
    · next index payload buffer hnext =>
      rcases core.session.buildTaskSubmitItem_cases world payload with
        ⟨error, herror⟩ | hbuilt
      · rw [herror] at hok
        cases hok
      · rw [hbuilt] at hok
        have hdrawn := (h.draw hnext).perm (groupedHand_append
          ⟨index, payload, ⟨core.session.submitSeq + 1, payload⟩⟩ hnodup
          (hsub nodeId (List.mem_cons_self ..)))
        exact ih _ _ _ _ (fun node hnode =>
          hsub node (List.mem_cons_of_mem _ hnode)) hdrawn hok

theorem Session.Registered.congr {nodeId : NodeId} {first second : List TaskId}
    {s s' : Session V D} (h : Session.Registered nodeId first s s')
    (hsame : ∀ taskId, taskId ∈ first ↔ taskId ∈ second) :
    Session.Registered nodeId second s s' where
  toSameRecords := h.toSameRecords
  pending := fun taskId => by rw [h.pending, hsame]
  nodeIds := fun taskId => by simp only [h.nodeIds, hsame]

variable (maxInfraRetries : Nat) (nodeId : NodeId) (record : TaskReplayRecord V)
  (reason : String) (params : ImapParams)

theorem registerEntries_eq (entries : List (ImapEntry V))
    (session : Session V D) : registerEntries nodeId entries session =
      (entries.map fun entry => entry.replayRecord nodeId).foldl
        Session.registerReplayRecord session := by
  rw [registerEntries, List.foldl_map]

theorem submitEntriesToNode_ledger (entries : List (ImapEntry V))
    (control : ImapControl)
    (h : ImapLedger world payloads (entries.map ImapEntry.held ++ hand)
      completed core) : ImapLedger world payloads hand completed
      (submitEntriesToNode world nodeId entries control core).2.2 := by
  have hindexed : ∀ some : List (ImapEntry V), some.map ImapEntry.indexed =
      (some.map ImapEntry.held).map
        fun held => (held.index, held.payload) := by
    intro some
    rw [List.map_map]
    rfl
  have hids : (entries.map ImapEntry.item).map TaskSubmitItem.taskId =
      (entries.map ImapEntry.held).map Held.taskId := by
    rw [List.map_map, List.map_map]
    rfl
  obtain ⟨registered, hspec⟩ := submitTaskItemsToNode_spec world nodeId
    (entries.map ImapEntry.item) core.session
  rw [submitEntriesToNode]
  generalize submitTaskItemsToNode world nodeId (entries.map ImapEntry.item)
    core.session = outcome at hspec
  obtain ⟨answer, session⟩ := outcome
  have hsub := hspec.sublist
  rw [hids] at hsub
  cases answer with
  | error error =>
    exact h.orphan hspec.session hsub.subset (hspec.raised error rfl)
      (hindexed entries)
  | ok accepted =>
    obtain ⟨haccepted, hhistory⟩ := hspec.answer accepted rfl
    subst haccepted
    simp only
    split
    · next hnone =>
      rw [List.isEmpty_iff] at hnone
      subst hnone
      exact (h.same (Session.Registered.sameTasks hspec.session
        (Or.inl hhistory))).requeue (hindexed entries)
    · -- The registered entries leave the hands first, then the rejected ones.
      generalize hreg : entries.filter (fun entry =>
        accepted.contains entry.item.taskId) = registered
      generalize hrej : entries.filter (fun entry =>
        !accepted.contains entry.item.taskId) = rejected
      have hsplit : (registered ++ rejected).Perm entries := by
        rw [← hreg, ← hrej]
        exact List.filter_append_perm _ entries
      have hhand : (entries.map ImapEntry.held ++ hand).Perm
          ((registered.map fun entry => entry.replayRecord nodeId).map
              TaskReplayRecord.held ++
            (rejected.map ImapEntry.held ++ hand)) := by
        rw [← List.append_assoc, List.map_map]
        have hmaps : registered.map (TaskReplayRecord.held ∘
            fun entry => entry.replayRecord nodeId) =
              registered.map ImapEntry.held := rfl
        rw [hmaps, ← List.map_append]
        exact ((hsplit.map _).symm).append_right _
      have h := h.perm hhand
      have hmem : ∀ taskId, taskId ∈ accepted ↔ taskId ∈
          (registered.map fun entry => entry.replayRecord nodeId).map
            TaskReplayRecord.currentTaskId := by
        intro taskId
        rw [List.map_map, ← hreg]
        constructor
        · intro htaskId
          have hentry := hsub.subset htaskId
          rw [List.map_map] at hentry
          obtain ⟨entry, hin, rfl⟩ := List.mem_map.mp hentry
          exact List.mem_map.mpr ⟨entry, List.mem_filter.mpr
            ⟨hin, List.contains_iff_mem.mpr htaskId⟩, rfl⟩
        · intro htaskId
          obtain ⟨entry, hentry, rfl⟩ := List.mem_map.mp htaskId
          exact List.contains_iff_mem.mp (List.mem_filter.mp hentry).2
      have hnodup : ((registered.map fun entry =>
          entry.replayRecord nodeId).map
            TaskReplayRecord.currentTaskId).Nodup := by
        have hnodup := h.tasks.hand_nodup
        rw [List.map_append] at hnodup
        have hfirst := (List.nodup_append.mp hnodup).1
        rw [List.map_map] at hfirst
        exact hfirst
      have hnew : ∀ record ∈ registered.map
          (fun entry => entry.replayRecord nodeId),
            session.replayRecords.lookup record.currentTaskId = none := by
        intro record hrecord
        rw [hspec.session.replayRecords]
        apply h.tasks.record_none
        exact (h.tasks.held record.held (List.mem_append_left _
          (List.mem_map_of_mem hrecord))).2
      have hacc := (hspec.session.congr hmem).accepted hhistory
        (Session.recordsRegistered_foldl _ session hnodup hnew)
      rw [← registerEntries_eq] at hacc
      have hdone := h.accept _ hacc (by
        intro record hrecord
        obtain ⟨entry, -, rfl⟩ := List.mem_map.mp hrecord
        rfl)
      exact hdone.requeue (hindexed rejected)

theorem submitImapEntriesToNodes_ledger (grouped : GroupedEntries V) :
    ∀ (nodeOrder : List NodeId) (submitted : Nat) (control : ImapControl)
      (core : ImapCore V D),
      ImapLedger world payloads (groupedHand nodeOrder grouped) completed core →
      ImapLedger world payloads [] completed
        (submitImapEntriesToNodes world grouped nodeOrder submitted control
          core).2.2 := by
  intro nodeOrder
  induction nodeOrder with
  | nil =>
    intro submitted control core h
    exact h
  | cons nodeId nodeOrder ih =>
    intro submitted control core h
    rw [submitImapEntriesToNodes]
    split
    · next hnone =>
      apply ih
      rw [groupedHand, List.flatMap_cons, List.isEmpty_iff.mp hnone] at h
      exact h
    · exact ih _ _ _ (submitEntriesToNode_ledger nodeId _ control h)

theorem fillImapFromQuota_ledger {quota : Nat} {maxPending submitted : Nat}
    (hnodup : nodeOrder.Nodup) (h : ImapLedger world payloads [] completed core)
    (hok : fillImapFromQuota world quota nodeOrder maxPending control core =
      (.ok submitted, control', core')) :
    ImapLedger world payloads [] completed core' := by
  rw [fillImapFromQuota] at hok
  split at hok
  · cases hok
    exact h
  · simp only at hok
    split at hok
    · cases hok
      exact h.tick
    · split at hok
      · cases hok
      · next grouped after hgroup =>
        have hstart : ImapLedger world payloads (groupedHand nodeOrder ∅)
            completed core.tick := by
          have hempty : groupedHand nodeOrder (∅ : GroupedEntries V) = [] := by
            simp [groupedHand, GroupedEntries.get]
          rw [hempty]
          exact h.tick
        have hgrouped := groupEntries_ledger hnodup _ ∅ grouped _ after
          (planLimitedPoolNodeTargets_subset control _ nodeOrder _ _) hstart
          hgroup
        have hdone := submitImapEntriesToNodes_ledger grouped nodeOrder 0
          control after hgrouped
        simp only [Prod.mk.injEq] at hok
        rw [← hok.2.2]
        exact hdone

/-! ### Replays -/

def ReplayOf (record next : TaskReplayRecord V) (nodeId : NodeId)
    (newTaskId : TaskId) : Prop :=
  next.currentTaskId = newTaskId ∧ next.currentNodeId = nodeId ∧
    next.logicalIndex = record.logicalIndex ∧
    next.originalPayload = record.originalPayload

theorem submitReplay_ledger (notAccepted : String)
    (h : ImapLedger world payloads (record.held :: hand) completed core) :
    (∀ error session, submitReplay world nodeId record notAccepted
        core.session = (.error error, session) →
      ImapLedger world payloads (record.held :: hand) completed
        (core.setSession session)) ∧
    ∀ newTaskId session, submitReplay world nodeId record notAccepted
        core.session = (.ok newTaskId, session) →
      ∀ next, ReplayOf record next nodeId newTaskId →
        ImapLedger world payloads hand completed
          (acceptReplay (core.setSession session) record next) := by
  unfold submitReplay
  rcases core.session.buildTaskSubmitItem_cases world record.originalPayload
    with ⟨error, herror⟩ | hbuilt
  · rw [herror]
    refine ⟨?_, ?_⟩
    · intro _ session heq
      cases heq
      exact h.drawId rfl
    · intro newTaskId session heq
      cases heq
  · rw [hbuilt]
    simp only
    -- A new task that nothing else knows yet, besides the held one.
    have hdrawn : ImapLedger world payloads (record.held :: hand) completed
        (core.setSession (core.session.withBuilt record.originalPayload)) :=
      h.build record.originalPayload
    obtain ⟨registered, hspec⟩ := submitTaskItemsToNode_spec world nodeId
      [⟨core.session.submitSeq + 1, record.originalPayload⟩]
      (core.session.withBuilt record.originalPayload)
    have hraised := fun error => submitTaskItemsToNode_singleton_raised world
      nodeId ⟨core.session.submitSeq + 1, record.originalPayload⟩
      (core.session.withBuilt record.originalPayload) error
    generalize submitTaskItemsToNode world nodeId
      [⟨core.session.submitSeq + 1, record.originalPayload⟩]
      (core.session.withBuilt record.originalPayload) = outcome
      at hspec hraised
    obtain ⟨answer, session⟩ := outcome
    cases answer with
    | error error =>
      refine ⟨?_, ?_⟩
      · intro _ after heq
        cases heq
        obtain ⟨hreg, hhistory⟩ := hraised error rfl
        exact hdrawn.same (hreg.sameTasks (Or.inr hhistory))
      · intro newTaskId after heq
        cases heq
    | ok accepted =>
      obtain ⟨haccepted, hhistory⟩ := hspec.answer accepted rfl
      subst haccepted
      have hsub := hspec.sublist
      simp only [List.map_cons, List.map_nil] at hsub
      by_cases hin : core.session.submitSeq + 1 ∈ accepted
      · simp only [List.contains_iff_mem, hin, if_true]
        refine ⟨?_, ?_⟩
        · intro error after heq
          cases heq
        · intro newTaskId after heq next hnext
          cases heq
          obtain ⟨hid, hnode, hindex, hpayload⟩ := hnext
          have honly : ∀ taskId, taskId ∈ accepted ↔
              taskId ∈ [next.currentTaskId] := by
            intro taskId
            rw [hid, List.mem_singleton]
            refine ⟨fun hmem => List.mem_singleton.mp (hsub.subset hmem), ?_⟩
            exact fun heq => heq ▸ hin
          exact h.replay (hspec.session.congr honly) hhistory hid hnode hindex
            hpayload
      · have hnone : accepted = [] := by
          rcases List.sublist_singleton.mp hsub with heq | heq
          · exact heq
          · exact absurd (heq ▸ List.mem_singleton_self _) hin
        subst hnone
        simp only [List.contains_nil, Bool.false_eq_true, if_false]
        refine ⟨?_, ?_⟩
        · intro error after heq
          cases heq
          exact hdrawn.same (Session.Registered.sameTasks hspec.session
            (Or.inl hhistory))
        · intro newTaskId after heq
          cases heq

theorem retryOnCandidates_ledger :
    ∀ (candidates : List NodeId) (lastError : String) (control : ImapControl)
      (core : ImapCore V D),
      ImapLedger world payloads (record.held :: hand) completed core →
      ImapLedger world payloads hand (completed ++ (retryOnCandidates world
          record reason candidates lastError control core).1.toList)
        (retryOnCandidates world record reason candidates lastError control
          core).2.2 := by
  intro candidates
  induction candidates with
  | nil =>
    intro lastError control core h
    exact h.giveUp lastError
  | cons nodeId candidates ih =>
    intro lastError control core h
    obtain ⟨hfails, hsucceeds⟩ := submitReplay_ledger nodeId record
      "RuntimeError('retry submit was not accepted')" h
    rw [retryOnCandidates]
    split
    · next error session heq => exact ih _ _ _ (hfails error session heq)
    · next newTaskId session heq =>
      rw [Option.toList_none, List.append_nil]
      exact hsucceeds newTaskId session heq _ ⟨rfl, rfl, rfl, rfl⟩

theorem retryReplayRecord_ledger (control : ImapControl)
    (h : ImapLedger world payloads (record.held :: hand) completed core) :
    ImapLedger world payloads hand (completed ++ (retryReplayRecord world
        maxInfraRetries record reason control core).1.toList)
      (retryReplayRecord world maxInfraRetries record reason control
        core).2.2 := by
  rw [retryReplayRecord]
  simp only
  split
  · exact h.giveUp _
  · split
    · exact h.tick.giveUp _
    · exact retryOnCandidates_ledger record reason _ _ control _ h.tick

theorem retryReplayRecords_ledger :
    ∀ (records : List (TaskReplayRecord V)) (control : ImapControl)
      (core : ImapCore V D) (completed : List (ExecutionItem D)),
      ImapLedger world payloads
        (records.map TaskReplayRecord.held ++ hand) completed core →
      ImapLedger world payloads hand (completed ++ (retryReplayRecords world
          maxInfraRetries reason records control core).1)
        (retryReplayRecords world maxInfraRetries reason records control
          core).2.2 := by
  intro records
  induction records with
  | nil =>
    intro control core completed h
    rw [retryReplayRecords, List.append_nil]
    exact h
  | cons record records ih =>
    intro control core completed h
    have hfirst := retryReplayRecord_ledger maxInfraRetries record reason
      control h
    rw [retryReplayRecords]
    generalize retryReplayRecord world maxInfraRetries record reason control
      core = outcome at hfirst
    obtain ⟨item, control', core'⟩ := outcome
    have hrest := ih control' core' _ hfirst
    simpa only [List.append_assoc] using hrest

theorem retryOnTargets_ledger :
    ∀ (targets : List NodeId) (lastError : String) (control : ImapControl)
      (core : ImapCore V D),
      ImapLedger world payloads (record.held :: hand) completed core →
      let outcome := retryOnTargets world record reason targets lastError
        control core
      (∀ nodeId, outcome.1 = .ok nodeId →
        ImapLedger world payloads hand completed outcome.2.2) ∧
      ∀ error, outcome.1 = .error error →
        ImapLedger world payloads (record.held :: hand) completed
          outcome.2.2 := by
  intro targets
  induction targets with
  | nil =>
    intro lastError control core h
    refine ⟨?_, fun _ _ => h⟩
    intro nodeId heq
    cases heq
  | cons target targets ih =>
    intro lastError control core h
    obtain ⟨hfails, hsucceeds⟩ := submitReplay_ledger target record
      "RuntimeError('timeout retry submit was not accepted')" h
    rw [retryOnTargets]
    split
    · exact ih _ _ _ h
    · split
      · next error session heq => exact ih _ _ _ (hfails error session heq)
      · next newTaskId session heq =>
        refine ⟨fun _ _ => hsucceeds newTaskId session heq _
          ⟨rfl, rfl, rfl, rfl⟩, ?_⟩
        intro error heq
        cases heq

theorem retryTimeoutRecords_ledger (targets : List NodeId) :
    ∀ (records : List (TaskReplayRecord V)) (offset : Nat)
      (control : ImapControl) (core : ImapCore V D)
      (completed : List (ExecutionItem D)),
      ImapLedger world payloads
        (records.map TaskReplayRecord.held ++ hand) completed core →
      ImapLedger world payloads hand (completed ++ (retryTimeoutRecords world
          reason targets records offset control core).1)
        (retryTimeoutRecords world reason targets records offset control
          core).2.2 := by
  intro records
  induction records with
  | nil =>
    intro offset control core completed h
    rw [retryTimeoutRecords, List.append_nil]
    exact h
  | cons record records ih =>
    intro offset control core completed h
    rw [retryTimeoutRecords]
    split
    · have hrest := ih offset control core _ (h.giveUp reason)
      simpa only [List.append_assoc, List.singleton_append] using hrest
    · simp only
      generalize (if (targets.filter (· ≠ record.currentNodeId)).isEmpty = true
        then targets else targets.filter (· ≠ record.currentNodeId)) = others
      obtain ⟨hsucceeds, hfails⟩ := retryOnTargets_ledger record reason
        (rotate others offset) reason control core h
      generalize retryOnTargets world record reason (rotate others offset)
        reason control core = outcome at hsucceeds hfails
      obtain ⟨answer, control', core'⟩ := outcome
      cases answer with
      | ok nodeId => exact ih _ control' core' _ (hsucceeds nodeId rfl)
      | error error =>
        have hrest := ih offset control' core' _
          ((hfails error rfl).giveUp error)
        simpa only [List.append_assoc, List.singleton_append] using hrest

theorem giveUp_all (message : String) :
    ∀ (records : List (TaskReplayRecord V)) (core : ImapCore V D)
      (completed : List (ExecutionItem D)),
      ImapLedger world payloads
        (records.map TaskReplayRecord.held ++ hand) completed core →
      ImapLedger world payloads hand (completed ++
        records.map fun record => replayFailureItem record message) core := by
  intro records
  induction records with
  | nil =>
    intro core completed h
    rw [List.map_nil, List.append_nil]
    exact h
  | cons record records ih =>
    intro core completed h
    have hrest := ih core _ (h.giveUp message)
    simpa only [List.map_cons, List.append_assoc, List.singleton_append] using
      hrest

theorem retryTimeoutReplayRecordsEvenly_ledger (targetNodeIds : List NodeId)
    (records : List (TaskReplayRecord V)) (control : ImapControl)
    (h : ImapLedger world payloads
      (records.map TaskReplayRecord.held ++ hand) completed core) :
    ImapLedger world payloads hand (completed ++
        (retryTimeoutReplayRecordsEvenly world reason targetNodeIds records
          control core).1)
      (retryTimeoutReplayRecordsEvenly world reason targetNodeIds records
        control core).2.2 := by
  rw [retryTimeoutReplayRecordsEvenly]
  split
  · exact giveUp_all _ records core completed h
  · exact retryTimeoutRecords_ledger reason _ records 0 control core completed h

/-! ### Polling -/

@[simp] theorem taskResultToItem_taskId (result : TaskResult D) :
    (taskResultToItem world nodeId result).taskId = result.taskId := by
  unfold taskResultToItem
  split
  · rfl
  · split <;> rfl

theorem itemOfResult_ledger {held : Held V} {result : TaskResult D}
    (h : ImapLedger world payloads (held :: hand) completed core)
    (hid : held.taskId = result.taskId)
    (hpulled : .pulled nodeId result ∈ core.session.history) :
    ImapLedger world payloads hand
      (completed ++ [itemOfResult world nodeId result core]) core := by
  have hlookup : core.taskIndexById.lookup result.taskId = some held.index :=
    hid ▸ (h.tasks.held held (List.mem_cons_self ..)).1.2
  have hitem : itemOfResult world nodeId result core =
      (taskResultToItem world nodeId result).withLookedUpIndex
        (some held.index) := by
    rw [itemOfResult, hlookup]
  have htask : ((taskResultToItem world nodeId result).withLookedUpIndex
      (some held.index)).taskId = result.taskId :=
    taskResultToItem_taskId nodeId result
  rw [hitem]
  refine h.complete (htask.trans hid.symm) rfl (Or.inl ⟨nodeId, result, hpulled,
    htask.symm, ?_⟩)
  rfl

theorem handlePulledResult_ledger {held : Held V} {result : TaskResult D}
    (control : ImapControl) (hid : held.taskId = result.taskId)
    (hrecord : ∀ record, (consumeResult core result.taskId).1 = some record →
      held = record.held)
    (hpulled : .pulled nodeId result ∈
      (consumeResult core result.taskId).2.session.history)
    (h : ImapLedger world payloads (held :: hand) completed
      (consumeResult core result.taskId).2) :
    ImapLedger world payloads hand (completed ++ (handlePulledResult world
        maxInfraRetries nodeId result control core).1)
      (handlePulledResult world maxInfraRetries nodeId result control
        core).2.2 := by
  rw [handlePulledResult]
  generalize consumeResult core result.taskId = consumed at hrecord hpulled h
  obtain ⟨taken, core'⟩ := consumed
  simp only
  split
  · cases taken with
    | some record =>
      have hheld := hrecord record rfl
      subst hheld
      exact retryReplayRecords_ledger maxInfraRetries _ [record] _ core'
        completed h
    | none => exact itemOfResult_ledger nodeId h hid hpulled
  · exact itemOfResult_ledger nodeId h hid hpulled
  · exact itemOfResult_ledger nodeId h hid hpulled

theorem handlePulledResults_ledger :
    ∀ (results : List (TaskResult D)) (control : ImapControl)
      (core : ImapCore V D) (completed : List (ExecutionItem D)),
      ImapLedger world payloads hand completed core →
      ImapLedger world payloads hand (completed ++ (handlePulledResults world
          maxInfraRetries nodeId results control core).1)
        (handlePulledResults world maxInfraRetries nodeId results control
          core).2.2.2 := by
  intro results
  induction results with
  | nil =>
    intro control core completed h
    rw [handlePulledResults, List.append_nil]
    exact h
  | cons result results ih =>
    intro control core completed h
    rw [handlePulledResults]
    simp only
    split
    · next hgone =>
      have hnot : result.taskId ∉ core.session.pendingTaskIds :=
        of_decide_eq_false (Bool.not_eq_true' _ ▸ hgone)
      exact ih control _ completed (h.ignore nodeId hnot)
    · next hlive =>
      have hpending : result.taskId ∈ core.session.pendingTaskIds :=
        of_decide_eq_true (Bool.of_not_eq_false fun hno =>
          hlive (congrArg not hno))
      obtain ⟨held, hid, hrecord, hconsumed⟩ := h.consume nodeId hpending
      have hpulled : SessionEvent.pulled nodeId result ∈
          (consumeResult (core.setSession (core.session.note
            (.pulled nodeId result))) result.taskId).2.session.history := by
        rw [(ImapTasks.dropped_consumeResult _ _).history]
        exact List.mem_append_right _ (List.mem_singleton_self _)
      have hfirst := handlePulledResult_ledger maxInfraRetries nodeId control
        hid hrecord hpulled hconsumed
      generalize handlePulledResult world maxInfraRetries nodeId result control
        (core.setSession (core.session.note (.pulled nodeId result))) =
          outcome at hfirst
      obtain ⟨items, control', core'⟩ := outcome
      have hrest := ih control' core' _ hfirst
      simpa only [List.append_assoc] using hrest

theorem pollImapResultsOnce_ledger :
    ∀ (nodeIds : List NodeId) (control : ImapControl) (core : ImapCore V D)
      (completed : List (ExecutionItem D)),
      ImapLedger world payloads [] completed core →
      ImapLedger world payloads [] (completed ++ (pollImapResultsOnce world
          maxInfraRetries nodeIds control core).1)
        (pollImapResultsOnce world maxInfraRetries nodeIds control
          core).2.2.2 := by
  intro nodeIds
  induction nodeIds with
  | nil =>
    intro control core completed h
    rw [pollImapResultsOnce, List.append_nil]
    exact h
  | cons nodeId nodeIds ih =>
    intro control core completed h
    rw [pollImapResultsOnce]
    split
    · exact ih control _ completed h.tick
    · cases world.pullResults core.session.clock nodeId
          (max 1 (if control.inflight nodeId = 0 then 1
            else control.inflight nodeId)) with
      | error error =>
        have hreleased : ImapLedger world payloads
            ((core.session.tick.markTaskpoolNodeLost world nodeId).1.map
              TaskReplayRecord.held ++ []) completed
            (core.setSession (core.session.tick.markTaskpoolNodeLost world
              nodeId).2.2) := h.tick.release nodeId
        have hretried := retryReplayRecords_ledger maxInfraRetries error _
          (((control.disable nodeId).setInflight nodeId 0).noteFailure nodeId
            error) _ completed hreleased
        have hrest := fun control => ih control _ _ hretried
        simpa only [List.append_assoc] using hrest _
      | ok results =>
        have hfirst := handlePulledResults_ledger maxInfraRetries nodeId results
          control core.tick completed h.tick
        have hrest := fun control => ih control _ _ hfirst
        simpa only [List.append_assoc] using hrest _

/-! ### Rounds -/

theorem ImapLedger.extendReady {items : List (ExecutionItem D)}
    (h : ImapLedger world payloads hand items core) :
    ImapLedger world payloads hand [] (core.extendReady items) := by
  obtain ⟨extra, hlength, hsupply⟩ := h.supply
  have hitems : (core.extendReady items).items [] = core.items items := by
    simp [ImapCore.items, ImapCore.extendReady]
  refine ⟨?_, extra, hlength, hsupply.move ?_⟩
  · rw [hitems]
    exact h.tasks.same (Session.sameTasks_refl _) fun _ => rfl
  · intro index
    simp only [ImapCore.outIndices, hitems]
    rfl

theorem yieldReady_ledger (raiseOnError : Bool) :
    ∀ (count yielded : Nat) (core core' : ImapCore V D),
      ImapLedger world payloads [] [] core →
      yieldReady raiseOnError count core = (none, yielded, core') →
      ImapLedger world payloads [] [] core' ∧
        (yielded = 0 → 0 < count → core'.readyItems = []) := by
  intro count
  induction count with
  | zero =>
    intro yielded core core' h hyield
    cases hyield
    exact ⟨h, fun _ hpos => absurd hpos (Nat.lt_irrefl 0)⟩
  | succ count ih =>
    intro yielded core core' h hyield
    rw [yieldReady] at hyield
    split at hyield
    · next hready =>
      cases hyield
      exact ⟨h, fun _ _ => hready⟩
    · next item items hready =>
      split at hyield
      · cases hyield
      · generalize hmid : ({ core with
            readyItems := items
            yieldedItems := core.yieldedItems ++ [item] } : ImapCore V D) = mid
          at hyield
        have hitems : mid.items [] = core.items [] := by
          rw [← hmid]
          simp [ImapCore.items, hready]
        have hledger : ImapLedger world payloads [] [] mid := by
          obtain ⟨extra, hlength, hsupply⟩ := h.supply
          refine ⟨?_, extra, ?_, ?_⟩
          · rw [hitems, ← hmid]
            exact h.tasks.same (Session.sameTasks_refl _) fun _ => rfl
          · rw [← hmid]
            exact hlength
          · rw [ImapCore.outIndices, hitems, ← hmid]
            exact hsupply
        generalize hrest : yieldReady raiseOnError count mid = rest at hyield
        obtain ⟨error, more, last⟩ := rest
        simp only [Prod.mk.injEq] at hyield
        obtain ⟨rfl, rfl, rfl⟩ := hyield
        obtain ⟨hlast, -⟩ := ih more mid last hledger hrest
        exact ⟨hlast, fun hzero => absurd hzero (Nat.succ_ne_zero more)⟩

theorem takeStalled_ledger :
    ∀ (nodeIds : List NodeId) (control : ImapControl) (core : ImapCore V D)
      (hand : List (Held V)), ImapLedger world payloads hand completed core →
      ImapLedger world payloads ((takeStalled world reason nodeIds control
          core).1.map TaskReplayRecord.held ++ hand) completed
        (takeStalled world reason nodeIds control core).2.2 := by
  intro nodeIds
  induction nodeIds with
  | nil =>
    intro control core hand h
    exact h
  | cons nodeId nodeIds ih =>
    intro control core hand h
    have hfirst := h.release nodeId
    rw [takeStalled]
    simp only
    have hrest := fun control => ih control _ _ hfirst
    refine (hrest _).perm ?_
    rw [List.map_append, ← List.append_assoc]
    exact List.Perm.append_right _ List.perm_append_comm

theorem onTimeout_ledger (nodeIds : List NodeId)
    (h : ImapLedger world payloads [] [] core)
    (hgoes : onTimeout world maxInfraRetries nodeIds control core =
      .goesOn control' core') : ImapLedger world payloads [] [] core' := by
  rw [onTimeout] at hgoes
  simp only at hgoes
  split at hgoes
  · cases hgoes
  · have htaken := takeStalled_ledger (timeoutError core)
      (stalledNodeIds control nodeIds) control core [] h
    generalize takeStalled world (timeoutError core)
      (stalledNodeIds control nodeIds) control core = taken at hgoes htaken
    obtain ⟨records, control₁, core₁⟩ := taken
    simp only at hgoes
    split at hgoes
    · cases hgoes
    · have hretried := retryTimeoutReplayRecordsEvenly_ledger
        (timeoutError core) (retryCandidateIds control nodeIds) records control₁
        htaken
      simp only [ImapOutcome.goesOn.injEq] at hgoes
      rw [← hgoes.2]
      exact hretried.extendReady

theorem onTimeout_not_finished (nodeIds : List NodeId) (control : ImapControl) :
    onTimeout world maxInfraRetries nodeIds control core ≠ .finished core' := by
  intro hfinished
  rw [onTimeout] at hfinished
  simp only at hfinished
  split at hfinished
  · cases hfinished
  · split at hfinished <;> cases hfinished

/-! ### The end of the loop -/

variable (world) in
theorem groupEntries_frame :
    ∀ (targets : List NodeId) (grouped : GroupedEntries V)
      (core : ImapCore V D),
      (groupEntries world targets grouped core).2.readyItems =
          core.readyItems ∧
        (groupEntries world targets grouped core).2.session.replayRecords =
          core.session.replayRecords := by
  intro targets
  induction targets with
  | nil =>
    intro grouped core
    exact ⟨rfl, rfl⟩
  | cons nodeId targets ih =>
    intro grouped core
    rw [groupEntries]
    split
    · exact ⟨rfl, rfl⟩
    · next index payload buffer _ =>
      rcases core.session.buildTaskSubmitItem_cases world payload with
        ⟨error, herror⟩ | hbuilt
      · rw [herror]
        exact ⟨rfl, rfl⟩
      · rw [hbuilt]
        exact ih _ _

variable (world) in
theorem submitEntriesToNode_frame (entries : List (ImapEntry V))
    (control : ImapControl) (core : ImapCore V D) :
    (submitEntriesToNode world nodeId entries control core).2.2.readyItems =
        core.readyItems ∧
      ((submitEntriesToNode world nodeId entries control core).1 = 0 →
        (submitEntriesToNode world nodeId entries control
          core).2.2.session.replayRecords = core.session.replayRecords) := by
  obtain ⟨registered, hspec⟩ := submitTaskItemsToNode_spec world nodeId
    (entries.map ImapEntry.item) core.session
  have hsame := hspec.session.replayRecords
  rw [submitEntriesToNode]
  generalize submitTaskItemsToNode world nodeId (entries.map ImapEntry.item)
    core.session = outcome at hsame
  obtain ⟨answer, session⟩ := outcome
  cases answer with
  | error error => exact ⟨rfl, fun _ => hsame⟩
  | ok accepted =>
    simp only
    split
    · exact ⟨rfl, fun _ => hsame⟩
    · refine ⟨rfl, ?_⟩
      intro hzero
      rw [List.eq_nil_of_length_eq_zero hzero]
      exact hsame

variable (world) in
theorem submitImapEntriesToNodes_frame (grouped : GroupedEntries V) :
    ∀ (nodeOrder : List NodeId) (submitted : Nat) (control : ImapControl)
      (core : ImapCore V D),
      let outcome := submitImapEntriesToNodes world grouped nodeOrder submitted
        control core
      submitted ≤ outcome.1 ∧ outcome.2.2.readyItems = core.readyItems ∧
        (outcome.1 = 0 → outcome.2.2.session.replayRecords =
          core.session.replayRecords) := by
  intro nodeOrder
  induction nodeOrder with
  | nil =>
    intro submitted control core
    exact ⟨Nat.le_refl _, rfl, fun _ => rfl⟩
  | cons nodeId nodeOrder ih =>
    intro submitted control core
    rw [submitImapEntriesToNodes]
    split
    · exact ih submitted control core
    · obtain ⟨hready, hrecords⟩ := submitEntriesToNode_frame world
        nodeId (grouped.get nodeId) control core
      generalize submitEntriesToNode world nodeId (grouped.get nodeId) control
        core = outcome at hready hrecords
      obtain ⟨count, control', core'⟩ := outcome
      obtain ⟨hle, hready', hrecords'⟩ := ih (submitted + count) control' core'
      simp only at hready hrecords ⊢
      refine ⟨by omega, hready'.trans hready, ?_⟩
      intro hzero
      exact (hrecords' hzero).trans (hrecords (by omega))

theorem fillImapFromQuota_frame {quota : Nat} {maxPending submitted : Nat}
    (hok : fillImapFromQuota world quota nodeOrder maxPending control core =
      (.ok submitted, control', core')) :
    core'.readyItems = core.readyItems ∧
      (submitted = 0 →
        core'.session.replayRecords = core.session.replayRecords) := by
  rw [fillImapFromQuota] at hok
  split at hok
  · cases hok
    exact ⟨rfl, fun _ => rfl⟩
  · simp only at hok
    split at hok
    · cases hok
      exact ⟨rfl, fun _ => rfl⟩
    · split at hok
      · cases hok
      · next grouped after hgroup =>
        have hafter := congrArg Prod.snd hgroup
        simp only at hafter
        have hfirst : after.readyItems = core.readyItems ∧
            after.session.replayRecords = core.session.replayRecords := by
          rw [← hafter]
          exact groupEntries_frame world _ ∅ core.tick
        obtain ⟨-, hready, hrecords⟩ :=
          submitImapEntriesToNodes_frame world grouped nodeOrder 0 control after
        simp only [Prod.mk.injEq, Except.ok.injEq] at hok
        obtain ⟨rfl, -, rfl⟩ := hok
        exact ⟨hready.trans hfirst.1,
          fun hzero => (hrecords hzero).trans hfirst.2⟩

structure ImapDone (core : ImapCore V D) : Prop where
  ready : core.readyItems = []
  records : core.session.recordIndices = []
  retry : core.payloadBuffer.retryPayloads = []
  exhausted : core.payloadBuffer.inputExhausted = true

theorem recordIndices_of_idle {items : List (ExecutionItem D)}
    (h : ImapTasks world payloads hand items core)
    (hidle : core.session.pendingResultCount = 0) :
    core.session.recordIndices = [] := by
  have hempty : core.session.pendingTaskIds = ∅ := Finset.card_eq_zero.mp hidle
  have hvalues : OrderedDict.values core.session.replayRecords = [] := by
    rw [List.eq_nil_iff_forall_not_mem]
    intro record hmem
    obtain ⟨taskId, hlookup⟩ := mem_values.mp hmem
    have hpending := h.record_pending hlookup
    rw [hempty] at hpending
    cases hpending
  rw [Session.recordIndices, hvalues]
  rfl

theorem imapDone_of_drained (h : ImapLedger world payloads [] [] core)
    (hready : core.readyItems = []) (hdrained : core.drained = true) :
    ImapDone core := by
  simp only [ImapCore.drained, Bool.and_eq_true, Bool.not_eq_true',
    decide_eq_true_eq] at hdrained
  obtain ⟨⟨hexhausted, hretry⟩, hidle⟩ := hdrained
  refine ⟨hready, recordIndices_of_idle h.tasks hidle, ?_, hexhausted⟩
  simpa [IndexedPayloadBuffer.hasRetry] using hretry

/-- What a round promises: the ledger while the loop goes on, and that nothing
is left when it ends. -/
def RoundKeeps (world : World V D) (payloads : List (RawPayload V)) :
    ImapOutcome V D → Prop
  | .goesOn _ core => ImapLedger world payloads [] [] core
  | .finished core => ImapLedger world payloads [] [] core ∧ ImapDone core
  | .raised _ _ => True

theorem peekPayload_ledger (h : ImapLedger world payloads hand completed core) :
    ImapLedger world payloads hand completed (peekPayload core).2 ∧
      (peekPayload core).2.readyItems = core.readyItems ∧
      (peekPayload core).2.session.replayRecords =
        core.session.replayRecords := by
  unfold peekPayload
  split
  · split
    · next buffer hnext => exact ⟨h.setBuffer_of_next_none hnext, rfl, rfl⟩
    · next entry buffer hnext =>
      refine ⟨?_, rfl, rfl⟩
      obtain ⟨extra, hlength, hsupply⟩ := h.supply
      obtain ⟨hbuffer, hat⟩ := hsupply.next hnext
      refine ⟨h.tasks.same (Session.sameTasks_refl _) fun _ => rfl, extra,
        hlength, ImapSupply.requeueFront hbuffer ?_⟩
      intro other hother
      rw [List.mem_singleton] at hother
      exact hother ▸ hat
  · exact ⟨h, rfl, rfl⟩

theorem pollRound_keeps (control : ImapControl) (hnodup : nodeIds.Nodup)
    (h : ImapLedger world payloads [] [] core) : RoundKeeps world payloads
      (pollRound world params nodeIds control core) := by
  rw [pollRound]
  simp only
  have hpolled := pollImapResultsOnce_ledger params.maxInfraRetries.toNat
    (nodeIds.drop control.pollStartIdx ++ nodeIds.take control.pollStartIdx)
    (control.setPollStart ((control.pollStartIdx + 1) % nodeIds.length)) core []
    h
  rw [List.nil_append] at hpolled
  generalize pollImapResultsOnce world params.maxInfraRetries.toNat _ _ core =
    outcome at hpolled
  obtain ⟨items, freed, control', core'⟩ := outcome
  simp only
  split
  · split
    · split
      · trivial
      · next submitted control'' core'' hfill =>
        exact fillImapFromQuota_ledger hnodup hpolled.extendReady hfill
    · exact hpolled.extendReady
  · next hnone =>
    have hempty : items = [] := by simpa using hnone
    subst hempty
    split
    · cases hout : onTimeout world params.maxInfraRetries.toNat nodeIds control'
          core'.tick with
      | goesOn control'' core'' =>
        exact onTimeout_ledger _ nodeIds hpolled.tick hout
      | finished core'' => exact absurd hout (onTimeout_not_finished _ _ _)
      | raised error core'' => trivial
    · exact hpolled.tick

theorem fillIdle_keeps (control : ImapControl) (hnodup : nodeIds.Nodup)
    (hready : core.readyItems = [])
    (hidle : core.session.pendingResultCount = 0)
    (h : ImapLedger world payloads [] [] core) :
    RoundKeeps world payloads (fillIdle world params nodeIds control core) := by
  rw [fillIdle]
  split
  · trivial
  · next submitted control' core' hfill =>
    have hfilled := fillImapFromQuota_ledger hnodup h hfill
    obtain ⟨hready', hrecords⟩ := fillImapFromQuota_frame hfill
    split
    · exact hfilled
    · next hnone =>
      have hzero : submitted = 0 := by omega
      have hdone : core'.readyItems = [] ∧ core'.session.recordIndices = [] := by
        refine ⟨hready'.trans hready, ?_⟩
        have hbefore := recordIndices_of_idle h.tasks hidle
        unfold Session.recordIndices at hbefore ⊢
        rw [hrecords hzero]
        exact hbefore
      obtain ⟨hpeeked, hready'', hrecords''⟩ := peekPayload_ledger hfilled
      generalize peekPayload core' = peeked at hpeeked hready'' hrecords''
      obtain ⟨found, core''⟩ := peeked
      cases found with
      | true => exact hpeeked
      | false =>
        simp only
        split
        · trivial
        · next hempty =>
          simp only [Bool.or_eq_true, Bool.not_eq_true', not_or,
            Bool.not_eq_true, Bool.not_eq_false] at hempty
          refine ⟨hpeeked, hready''.trans hdone.1, ?_, ?_, hempty.2⟩
          · rw [Session.recordIndices, hrecords'']
            exact hdone.2
          · simpa [IndexedPayloadBuffer.hasRetry] using hempty.1

theorem imapRound_keeps (control : ImapControl) (hnodup : nodeIds.Nodup)
    (h : ImapLedger world payloads [] [] core) : RoundKeeps world payloads
      (imapRound world params nodeIds control core) := by
  rw [imapRound]
  generalize hcount : max 1 (if params.receiveBatch = 0 then 1
    else params.receiveBatch.toNat) = count
  have hpos : 0 < count := by omega
  split
  · trivial
  · next yielded core' hyield =>
    exact (yieldReady_ledger params.raiseOnError count _ core core' h hyield).1
  · next core' hyield =>
    obtain ⟨h', hready⟩ :=
      yieldReady_ledger params.raiseOnError count 0 core core' h hyield
    have hready := hready rfl hpos
    split
    · next hdrained => exact ⟨h', imapDone_of_drained h' hready hdrained⟩
    · split
      · next hidle => exact fillIdle_keeps params control hnodup hready hidle h'
      · exact pollRound_keeps params control hnodup h'

theorem imapLoop_ledger (hnodup : nodeIds.Nodup) :
    ∀ (rounds : Nat) (control : ImapControl) (core last : ImapCore V D),
      ImapLedger world payloads [] [] core →
      imapLoop world params nodeIds rounds control core = some (.ok last) →
      ImapLedger world payloads [] [] last ∧ ImapDone last := by
  intro rounds
  induction rounds with
  | zero =>
    intro control core last _ hloop
    cases hloop
  | succ rounds ih =>
    intro control core last h hloop
    have hround := imapRound_keeps params control hnodup h
    rw [imapLoop] at hloop
    generalize imapRound world params nodeIds control core = outcome
      at hround hloop
    cases outcome with
    | goesOn control' core' => exact ih control' core' last hround hloop
    | finished core' =>
      simp only [Option.some.injEq, Except.ok.injEq] at hloop
      exact hloop ▸ hround
    | raised error core' => simp at hloop

end PycloudParallel.TaskPool
