import PycloudParallel.TaskPoolImapSteps

/-!
# `imap_unordered` as a sequence of steps

Each function of the generator is a path of steps from its state before to its
state after, so what every step keeps holds wherever the generator stops.
-/

namespace PycloudParallel.TaskPool

variable {V D : Type} {world : World V D} {maxPending : ℕ}

abbrev ImapPath (world : World V D) (maxPending : ℕ) :
    ImapPoint V D → ImapPoint V D → Prop :=
  Relation.ReflTransGen (ImapStep world maxPending)

namespace ImapPath

variable {control control' : ImapControl} {core core' : ImapCore V D}
  {hand left : List TaskId}

theorem quiet (hinflight : control'.inflightByNode = control.inflightByNode)
    (hbooks : core.session.SameBooks core'.session) :
    ImapPath world maxPending ⟨control, core, hand⟩ ⟨control', core', hand⟩ :=
  Relation.ReflTransGen.single (.quiet hinflight hbooks)

theorem leave (hsub : left.Subperm hand) :
    ImapPath world maxPending ⟨control, core, hand⟩ ⟨control, core, left⟩ :=
  Relation.ReflTransGen.single (.leave hsub)

theorem tick : ImapPath world maxPending ⟨control, core, hand⟩
    ⟨control, core.tick, hand⟩ :=
  quiet rfl (Session.SameBooks.tick core.session)

end ImapPath

/-! ## Filling the nodes -/

theorem planTargets_length_le (nodeOrder : List NodeId) (rounds : ℕ)
    (remaining : OrderedDict NodeId ℕ) (disabled : List NodeId)
    (maxNewTasks clock : ℕ) :
    (planTargets world nodeOrder rounds remaining disabled maxNewTasks
      clock).length ≤ maxNewTasks := by
  induction rounds generalizing remaining disabled maxNewTasks clock with
  | zero => simp [planTargets]
  | succ rounds ih =>
    cases maxNewTasks with
    | zero => simp [planTargets]
    | succ maxNewTasks =>
      rw [planTargets]
      split
      · simp
      · split
        · simp
        · split
          · exact ih _ _ _ _
          · rw [List.length_cons]
            exact Nat.succ_le_succ (ih _ _ _ _)

def groupedIds (nodeOrder : List NodeId) (grouped : GroupedEntries V) :
    List TaskId :=
  (groupedHand nodeOrder grouped).map Held.taskId

theorem groupEntries_path (world : World V D) (maxPending : ℕ)
    {nodeOrder : List NodeId} (hnodup : nodeOrder.Nodup) (control : ImapControl)
    (targets : List NodeId) (grouped : GroupedEntries V) (core : ImapCore V D) (hsub : ∀ node ∈ targets, node ∈ nodeOrder)
    (hroom : control.totalInflight + (groupedIds nodeOrder grouped).length +
      targets.length ≤ maxPending) :
    ∃ hand, ImapPath world maxPending
        ⟨control, core, groupedIds nodeOrder grouped⟩
        ⟨control, (groupEntries world targets grouped core).2, hand⟩ ∧
      ∀ grouped', (groupEntries world targets grouped core).1 = .ok grouped' →
        hand = groupedIds nodeOrder grouped' := by
  induction targets generalizing grouped core with
  | nil =>
    refine ⟨_, .refl, ?_⟩
    intro grouped' hok
    cases hok
    rfl
  | cons nodeId targets ih =>
    rw [groupEntries]
    split
    case h_1 buffer hnext =>
      refine ⟨_, .quiet rfl (Session.SameBooks.refl _), ?_⟩
      intro grouped' hok
      cases hok
      rfl
    case h_2 index payload buffer hnext =>
      obtain ⟨error, hbuild⟩ | hbuild :=
        core.session.buildTaskSubmitItem_cases world payload
      · rw [hbuild]
        refine ⟨_, .quiet rfl (Session.SameBooks.nextTaskId core.session), ?_⟩
        intro grouped' hok
        cases hok
      · rw [hbuild]
        simp only
        have hmem : nodeId ∈ nodeOrder := hsub nodeId List.mem_cons_self
        have happend : (_ :: groupedHand nodeOrder grouped).Perm _ :=
          groupedHand_append
            ⟨index, payload, ⟨core.session.submitSeq + 1, payload⟩⟩ hnodup hmem
        have hperm := happend.map Held.taskId
        have hlength := hperm.length_eq
        rw [List.map_cons, List.length_cons] at hlength
        rw [List.length_cons] at hroom
        have hdraw : ImapPath world maxPending
            ⟨control, core, groupedIds nodeOrder grouped⟩ _ :=
          .single (.draw hnext (by omega))
        obtain ⟨hand, hrest, hdone⟩ := ih
          (grouped.append nodeId
            ⟨index, payload, ⟨core.session.submitSeq + 1, payload⟩⟩)
          (((core.setBuffer buffer).setSession
            (core.session.withBuilt payload)).setTaskIndex
              (core.session.submitSeq + 1) index)
          (fun node hnode => hsub node (List.mem_cons_of_mem _ hnode))
          (by
            rw [groupedIds] at hroom ⊢
            omega)
        exact ⟨hand, hdraw.trans ((ImapPath.leave hperm.symm.subperm).trans hrest),
          hdone⟩

theorem submitImapEntriesToNodes_path (grouped : GroupedEntries V)
    (nodeOrder : List NodeId) (submitted : ℕ) (control : ImapControl)
    (core : ImapCore V D) :
    ImapPath world maxPending ⟨control, core, groupedIds nodeOrder grouped⟩
      ⟨(submitImapEntriesToNodes world grouped nodeOrder submitted control
          core).2.1,
        (submitImapEntriesToNodes world grouped nodeOrder submitted control
          core).2.2, []⟩ := by
  induction nodeOrder generalizing submitted control core with
  | nil => exact .refl
  | cons nodeId nodeOrder ih =>
    have hids : groupedIds (nodeId :: nodeOrder) grouped =
        ((grouped.get nodeId).map fun entry => entry.item.taskId) ++
          groupedIds nodeOrder grouped := by
      simp [groupedIds, groupedHand, Function.comp_def, ImapEntry.held]
    rw [submitImapEntriesToNodes, hids]
    split
    case isTrue hnone =>
      rw [List.isEmpty_iff.mp hnone]
      exact ih _ _ _
    case isFalse =>
      exact Relation.ReflTransGen.head (.submit nodeId (grouped.get nodeId))
        (ih _ _ _)

theorem fillImapFromQuota_path (world : World V D) (maxPending : ℕ)
    {nodeOrder : List NodeId} (hnodup : nodeOrder.Nodup) (quota : ℕ) (control : ImapControl)
    (core : ImapCore V D) :
    ∃ hand, ImapPath world maxPending ⟨control, core, []⟩
        ⟨(fillImapFromQuota world quota nodeOrder maxPending control core).2.1,
          (fillImapFromQuota world quota nodeOrder maxPending control core).2.2,
          hand⟩ ∧
      ∀ submitted, (fillImapFromQuota world quota nodeOrder maxPending control
        core).1 = .ok submitted → hand = [] := by
  simp only [fillImapFromQuota]
  split
  case isTrue => exact ⟨[], .refl, fun _ _ => rfl⟩
  case isFalse =>
    split
    case isTrue => exact ⟨[], .tick, fun _ _ => rfl⟩
    case isFalse hfree hplanned =>
      have hempty : groupedIds nodeOrder (∅ : GroupedEntries V) = [] := by
        simp [groupedIds, groupedHand, GroupedEntries.get]
      generalize htargets : planLimitedPoolNodeTargets world control _ nodeOrder
        (maxPending - control.totalInflight) core.session.clock = targets
        at hplanned ⊢
      have hlength : targets.length ≤ maxPending - control.totalInflight :=
        htargets ▸ planTargets_length_le _ _ _ _ _ _
      have hsub : ∀ node ∈ targets, node ∈ nodeOrder :=
        htargets ▸ planLimitedPoolNodeTargets_subset control _ nodeOrder _ _
      obtain ⟨hand, hpath, hdone⟩ := groupEntries_path world maxPending hnodup
        control targets ∅ core.tick hsub (by
          rw [hempty, List.length_nil]
          omega)
      rw [hempty] at hpath
      have hstart : ImapPath world maxPending ⟨control, core, []⟩ _ :=
        ImapPath.tick.trans hpath
      cases hgroup : groupEntries world targets ∅ core.tick with
      | mk answer grouped' =>
        rw [hgroup] at hstart hdone
        cases answer with
        | error error => exact ⟨hand, hstart, fun _ hok => by cases hok⟩
        | ok grouped =>
          have hhand := hdone grouped rfl
          rw [hhand] at hstart
          exact ⟨[], hstart.trans
            (submitImapEntriesToNodes_path grouped nodeOrder 0 control _),
            fun _ _ => rfl⟩

/-! ## Replays -/

section Replays

variable {home : TaskId → NodeId} (hworld : world.Unlimited)
  (hown : world.ReportsOwn home)

include hworld hown

variable {nodeId : NodeId}

theorem submitReplay_refused_path {record : TaskReplayRecord V}
    {notAccepted error : String} {control : ImapControl} {core : ImapCore V D}
    {session : Session V D} (hand : List TaskId)
    (hsubmit : submitReplay world nodeId record notAccepted core.session =
      (.error error, session)) :
    ImapPath world maxPending ⟨control, core, hand⟩
      ⟨(control.disable nodeId).noteFailure nodeId error,
        core.setSession session, hand⟩ :=
  .quiet rfl (submitReplay_error hworld hown hsubmit)

theorem retryOnCandidates_path (record : TaskReplayRecord V) (reason : String)
    (candidates : List NodeId) (lastError : String) (control : ImapControl)
    (core : ImapCore V D) (held : TaskId) (hand : List TaskId) :
    ImapPath world maxPending ⟨control, core, held :: hand⟩
      ⟨(retryOnCandidates world record reason candidates lastError control
          core).2.1,
        (retryOnCandidates world record reason candidates lastError control
          core).2.2, hand⟩ := by
  induction candidates generalizing lastError control core with
  | nil => exact .leave (List.sublist_cons_self held hand).subperm
  | cons nodeId candidates ih =>
    rw [retryOnCandidates]
    cases hsubmit : submitReplay world nodeId record
        "RuntimeError('retry submit was not accepted')" core.session with
    | mk answer session =>
      cases answer with
      | error error =>
        exact (submitReplay_refused_path hworld hown (held :: hand) hsubmit).trans
          (ih _ _ _)
      | ok newTaskId =>
        exact .single (.replay hsubmit ⟨rfl, rfl, rfl, rfl⟩)

variable (maxInfraRetries : ℕ)

theorem retryReplayRecord_path (record : TaskReplayRecord V) (reason : String)
    (control : ImapControl) (core : ImapCore V D) (held : TaskId)
    (hand : List TaskId) :
    ImapPath world maxPending ⟨control, core, held :: hand⟩
      ⟨(retryReplayRecord world maxInfraRetries record reason control core).2.1,
        (retryReplayRecord world maxInfraRetries record reason control core).2.2,
        hand⟩ := by
  have hgiveUp : ∀ core : ImapCore V D, ImapPath world maxPending
      ⟨control, core, held :: hand⟩ ⟨control, core, hand⟩ := fun core =>
    .leave (List.sublist_cons_self held hand).subperm
  simp only [retryReplayRecord]
  split
  · exact hgiveUp core
  · split
    · exact ImapPath.tick.trans (hgiveUp core.tick)
    · exact ImapPath.tick.trans
        (retryOnCandidates_path hworld hown record reason _ _ control core.tick
          held hand)

theorem retryReplayRecords_path (reason : String)
    (records : List (TaskReplayRecord V)) (control : ImapControl)
    (core : ImapCore V D) (helds hand : List TaskId)
    (hlength : helds.length = records.length) :
    ImapPath world maxPending ⟨control, core, helds ++ hand⟩
      ⟨(retryReplayRecords world maxInfraRetries reason records control
          core).2.1,
        (retryReplayRecords world maxInfraRetries reason records control
          core).2.2, hand⟩ := by
  induction records generalizing control core helds with
  | nil =>
    rw [List.eq_nil_of_length_eq_zero hlength]
    exact .refl
  | cons record records ih =>
    cases helds with
    | nil => cases hlength
    | cons held helds =>
      rw [retryReplayRecords]
      exact (retryReplayRecord_path hworld hown maxInfraRetries record reason
        control core held (helds ++ hand)).trans
          (ih _ _ helds (Nat.succ.inj hlength))

theorem retryOnTargets_path (record : TaskReplayRecord V) (reason : String)
    (targets : List NodeId) (lastError : String) (control : ImapControl)
    (core : ImapCore V D) (held : TaskId) (hand : List TaskId) :
    ImapPath world maxPending ⟨control, core, held :: hand⟩
      ⟨(retryOnTargets world record reason targets lastError control core).2.1,
        (retryOnTargets world record reason targets lastError control core).2.2,
        hand⟩ := by
  induction targets generalizing lastError control core with
  | nil => exact .leave (List.sublist_cons_self held hand).subperm
  | cons nodeId targets ih =>
    rw [retryOnTargets]
    split
    case isTrue => exact ih _ _ _
    case isFalse =>
      cases hsubmit : submitReplay world nodeId record
          "RuntimeError('timeout retry submit was not accepted')"
          core.session with
      | mk answer session =>
        cases answer with
        | error error =>
          exact (submitReplay_refused_path hworld hown (held :: hand)
            hsubmit).trans (ih _ _ _)
        | ok newTaskId =>
          exact .single (.replay hsubmit ⟨rfl, rfl, rfl, rfl⟩)

theorem retryTimeoutRecords_path (reason : String) (targets : List NodeId)
    (records : List (TaskReplayRecord V)) (targetOffset : ℕ)
    (control : ImapControl) (core : ImapCore V D) (helds hand : List TaskId)
    (hlength : helds.length = records.length) :
    ImapPath world maxPending ⟨control, core, helds ++ hand⟩
      ⟨(retryTimeoutRecords world reason targets records targetOffset control
          core).2.1,
        (retryTimeoutRecords world reason targets records targetOffset control
          core).2.2, hand⟩ := by
  induction records generalizing targetOffset control core helds with
  | nil =>
    rw [List.eq_nil_of_length_eq_zero hlength]
    exact .refl
  | cons record records ih =>
    cases helds with
    | nil => cases hlength
    | cons held helds =>
      have hrest := fun offset control core =>
        ih offset control core helds (Nat.succ.inj hlength)
      rw [retryTimeoutRecords]
      split
      case isTrue =>
        exact (ImapPath.leave (List.sublist_cons_self held _).subperm).trans
          (hrest targetOffset control core)
      case isFalse =>
        simp only
        generalize rotate _ targetOffset = recordTargets
        have htried : ImapPath world maxPending
            ⟨control, core, held :: (helds ++ hand)⟩ _ :=
          retryOnTargets_path hworld hown record reason recordTargets reason
            control core held (helds ++ hand)
        cases houtcome : retryOnTargets world record reason recordTargets reason
            control core with
        | mk answer after =>
          rw [houtcome] at htried
          cases answer with
          | error error | ok nodeId => exact htried.trans (hrest _ _ _)

theorem retryTimeoutReplayRecordsEvenly_path (reason : String)
    (targetNodeIds : List NodeId) (records : List (TaskReplayRecord V))
    (control : ImapControl) (core : ImapCore V D) (helds hand : List TaskId)
    (hlength : helds.length = records.length) :
    ImapPath world maxPending ⟨control, core, helds ++ hand⟩
      ⟨(retryTimeoutReplayRecordsEvenly world reason targetNodeIds records
          control core).2.1,
        (retryTimeoutReplayRecordsEvenly world reason targetNodeIds records
          control core).2.2, hand⟩ := by
  simp only [retryTimeoutReplayRecordsEvenly]
  split
  · exact .leave (List.sublist_append_right helds hand).subperm
  · exact retryTimeoutRecords_path hworld hown reason _ records 0 control core
      helds hand hlength

/-! ## Polling -/

theorem handlePulledResult_path {clock limit : ℕ}
    {results : List (TaskResult D)} {result : TaskResult D}
    (hpull : world.pullResults clock nodeId limit = .ok results)
    (hresult : result ∈ results) (control : ImapControl) (core : ImapCore V D)
    (hpending : result.taskId ∈ core.session.pendingTaskIds) :
    ImapPath world maxPending ⟨control, core, []⟩
      ⟨(handlePulledResult world maxInfraRetries nodeId result control
          core).2.1,
        (handlePulledResult world maxInfraRetries nodeId result control
          core).2.2, []⟩ := by
  have hconsume : ImapPath world maxPending ⟨control, core, []⟩
      ⟨control.setInflight nodeId (control.inflight nodeId - 1),
        (consumeResult core result.taskId).2, [result.taskId]⟩ :=
    .single (.consume hpull hresult hpending)
  have hdone : ∀ control' : ImapControl, control'.inflightByNode =
      (control.setInflight nodeId (control.inflight nodeId - 1)).inflightByNode →
      ImapPath world maxPending ⟨control, core, []⟩
        ⟨control', (consumeResult core result.taskId).2, []⟩ := by
    intro control' hinflight
    exact hconsume.trans ((ImapPath.leave (List.nil_sublist _).subperm).trans
      (ImapPath.quiet hinflight (Session.SameBooks.refl _)))
  have hpenalised : (penaliseNode world nodeId result
      (control.setInflight nodeId (control.inflight nodeId - 1))).inflightByNode =
      (control.setInflight nodeId
        (control.inflight nodeId - 1)).inflightByNode := by
    simp only [penaliseNode]
    split <;> split <;> rfl
  rw [handlePulledResult]
  generalize consumeResult core result.taskId = consumed at hconsume hdone
  obtain ⟨record, consumedCore⟩ := consumed
  simp only
  split
  · cases record with
    | none => exact hdone _ hpenalised
    | some record =>
      refine hconsume.trans ((ImapPath.quiet hpenalised
        (Session.SameBooks.refl _)).trans ?_)
      exact retryReplayRecords_path hworld hown maxInfraRetries _ [record] _
        consumedCore [result.taskId] [] rfl
  · exact hdone _ rfl
  · exact hdone _ rfl

theorem handlePulledResults_path {clock limit : ℕ} {all : List (TaskResult D)}
    (hpull : world.pullResults clock nodeId limit = .ok all)
    (results : List (TaskResult D)) (hresults : results ⊆ all)
    (control : ImapControl) (core : ImapCore V D) :
    ImapPath world maxPending ⟨control, core, []⟩
      ⟨(handlePulledResults world maxInfraRetries nodeId results control
          core).2.2.1,
        (handlePulledResults world maxInfraRetries nodeId results control
          core).2.2.2, []⟩ := by
  induction results generalizing control core with
  | nil => exact .refl
  | cons result results ih =>
    obtain ⟨hresult, hresults⟩ := List.cons_subset.mp hresults
    have hnote : ImapPath world maxPending ⟨control, core, []⟩
        ⟨control, core.setSession (core.session.note (.pulled nodeId result)),
          []⟩ := .quiet rfl (Session.SameBooks.note _ _)
    rw [handlePulledResults]
    generalize core.setSession (core.session.note (.pulled nodeId result)) = noted
      at hnote ⊢
    simp only
    split
    case isTrue => exact hnote.trans (ih hresults _ _)
    case isFalse hpending =>
      have hpending : result.taskId ∈ noted.session.pendingTaskIds := by
        simpa [Session.isPendingTaskId] using hpending
      exact hnote.trans ((handlePulledResult_path hworld hown maxInfraRetries
        hpull hresult control noted hpending).trans (ih hresults _ _))

theorem pollImapResultsOnce_path (nodeIds : List NodeId) (control : ImapControl)
    (core : ImapCore V D) : ImapPath world maxPending ⟨control, core, []⟩
      ⟨(pollImapResultsOnce world maxInfraRetries nodeIds control core).2.2.1,
        (pollImapResultsOnce world maxInfraRetries nodeIds control core).2.2.2,
        []⟩ := by
  induction nodeIds generalizing control core with
  | nil => exact .refl
  | cons nodeId nodeIds ih =>
    rw [pollImapResultsOnce]
    split
    case isTrue => exact ImapPath.tick.trans (ih _ _)
    case isFalse =>
      split
      next items freed control' core' houtcome =>
      refine Relation.ReflTransGen.trans ?_ (ih control' core')
      split at houtcome
      case h_1 error hpull =>
        simp only [Prod.mk.injEq] at houtcome
        obtain ⟨-, -, rfl, rfl⟩ := houtcome
        have hdisabled : ImapPath world maxPending ⟨control, core, []⟩
            ⟨control.disable nodeId, core.tick, []⟩ :=
          .quiet rfl (Session.SameBooks.tick core.session)
        have hreleased : ImapPath world maxPending
            ⟨control.disable nodeId, core.tick, []⟩ _ :=
          .single (.release nodeId)
        have hnoted : ∀ core hand, ImapPath world maxPending
            ⟨(control.disable nodeId).setInflight nodeId 0, core, hand⟩
            ⟨((control.disable nodeId).setInflight nodeId 0).noteFailure nodeId
              error, core, hand⟩ :=
          fun core hand => .quiet rfl (Session.SameBooks.refl _)
        have hretried : ImapPath world maxPending
            ⟨_, _, (core.session.tick.markTaskpoolNodeLost world nodeId).1.map
              TaskReplayRecord.currentTaskId ++ []⟩ _ :=
          retryReplayRecords_path hworld hown maxInfraRetries error
            (core.session.tick.markTaskpoolNodeLost world nodeId).1
            (((control.disable nodeId).setInflight nodeId 0).noteFailure nodeId
              error)
            (core.setSession
              (core.session.tick.markTaskpoolNodeLost world nodeId).2.2) _ []
            (List.length_map TaskReplayRecord.currentTaskId)
        exact hdisabled.trans (hreleased.trans ((hnoted _ _).trans hretried))
      case h_2 results hpull =>
        have hresults : ImapPath world maxPending ⟨control, core.tick, []⟩ _ :=
          handlePulledResults_path hworld hown maxInfraRetries hpull results
            (List.Subset.refl _) control core.tick
        rw [houtcome] at hresults
        exact ImapPath.tick.trans hresults

end Replays

/-! ## The generator -/

theorem takeStalled_path (reason : String) (nodeIds : List NodeId)
    (control : ImapControl) (core : ImapCore V D) (hand : List TaskId) :
    ImapPath world maxPending ⟨control, core, hand⟩
      ⟨(takeStalled world reason nodeIds control core).2.1,
        (takeStalled world reason nodeIds control core).2.2,
        (takeStalled world reason nodeIds control core).1.map
          TaskReplayRecord.currentTaskId ++ hand⟩ := by
  induction nodeIds generalizing control core hand with
  | nil => exact .refl
  | cons nodeId nodeIds ih =>
    simp only [takeStalled, Session.takePendingReplayRecordsForNode]
    have hfirst : ImapPath world maxPending ⟨control, core, hand⟩
        ⟨if (core.session.releaseNodeTasks world nodeId).1.isEmpty then control
          else (control.setInflight nodeId 0).noteFailure nodeId reason,
          core.setSession (core.session.releaseNodeTasks world nodeId).2.2,
          (core.session.releaseNodeTasks world nodeId).1.map
            TaskReplayRecord.currentTaskId ++ hand⟩ := by
      split
      case isTrue hnone =>
        rw [List.isEmpty_iff] at hnone
        rw [hnone]
        exact .single (.releaseNone nodeId hnone)
      case isFalse =>
        have hreleased : ImapPath world maxPending ⟨control, core, hand⟩ _ :=
          .single (.release nodeId)
        exact hreleased.trans (ImapPath.quiet rfl (Session.SameBooks.refl _))
    have hrest := ih
      (if (core.session.releaseNodeTasks world nodeId).1.isEmpty then control
        else (control.setInflight nodeId 0).noteFailure nodeId reason)
      (core.setSession (core.session.releaseNodeTasks world nodeId).2.2)
      ((core.session.releaseNodeTasks world nodeId).1.map
        TaskReplayRecord.currentTaskId ++ hand)
    refine hfirst.trans (hrest.trans (ImapPath.leave (List.Perm.subperm ?_)))
    rw [List.map_append, List.append_assoc]
    exact List.perm_append_comm_assoc _ _ _

/-- A round leaves the generator at the end of a path; it goes on only with
nothing in hand. -/
def ImapOutcome.Follows (world : World V D) (maxPending : ℕ)
    (start : ImapPoint V D) : ImapOutcome V D → Prop
  | .goesOn control core => ImapPath world maxPending start ⟨control, core, []⟩
  | .finished core =>
    ∃ control hand, ImapPath world maxPending start ⟨control, core, hand⟩
  | .raised _ core =>
    ∃ control hand, ImapPath world maxPending start ⟨control, core, hand⟩

theorem ImapOutcome.Follows.head {start middle : ImapPoint V D}
    {outcome : ImapOutcome V D} (hpath : ImapPath world maxPending start middle)
    (h : outcome.Follows world maxPending middle) :
    outcome.Follows world maxPending start := by
  cases outcome with
  | goesOn control core => exact hpath.trans h
  | finished core | raised error core =>
    obtain ⟨control, hand, hrest⟩ := h
    exact ⟨control, hand, hpath.trans hrest⟩

theorem fillIdle_follows (params : ImapParams) {nodeIds : List NodeId}
    (hnodup : nodeIds.Nodup) (control : ImapControl) (core : ImapCore V D)
    (hmax : ∀ clock, params.maxPending world clock = maxPending) :
    (fillIdle world params nodeIds control core).Follows world maxPending
      ⟨control, core, []⟩ := by
  have hpeek : ∀ (control : ImapControl) (core : ImapCore V D),
      ImapPath world maxPending ⟨control, core, []⟩
        ⟨control, (peekPayload core).2, []⟩ := by
    intro control core
    refine .quiet rfl ?_
    rw [peekPayload]
    split
    · split <;> exact Session.SameBooks.refl core.session
    · exact Session.SameBooks.refl core.session
  obtain ⟨hand, hpath, hdone⟩ := fillImapFromQuota_path world maxPending hnodup
    maxPending control core
  simp only [fillIdle, hmax]
  cases hfill : fillImapFromQuota world maxPending nodeIds maxPending control
      core with
  | mk answer after =>
    rw [hfill] at hpath hdone
    cases answer with
    | error error => exact ⟨after.1, hand, hpath⟩
    | ok submittedNow =>
      have hhand := hdone submittedNow rfl
      subst hhand
      have hpeeked := hpath.trans (hpeek after.1 after.2)
      simp only
      split
      · exact hpath
      · generalize peekPayload after.2 = peeked at hpeeked
        obtain ⟨exhausted, core'⟩ := peeked
        cases exhausted with
        | true => exact hpeeked
        | false =>
          simp only
          split <;> exact ⟨_, _, hpeeked⟩

section Rounds

variable {home : TaskId → NodeId} (hworld : world.Unlimited)
  (hown : world.ReportsOwn home)

include hworld hown

theorem onTimeout_follows (maxInfraRetries : ℕ) (nodeIds : List NodeId)
    (control : ImapControl) (core : ImapCore V D) :
    (onTimeout world maxInfraRetries nodeIds control core).Follows world
      maxPending ⟨control, core, []⟩ := by
  simp only [onTimeout]
  split
  case isTrue => exact ⟨control, [], .refl⟩
  case isFalse =>
    have htaken : ImapPath world maxPending ⟨control, core, []⟩ _ :=
      takeStalled_path (timeoutError core) (stalledNodeIds control nodeIds)
        control core []
    generalize takeStalled world (timeoutError core)
      (stalledNodeIds control nodeIds) control core = taken at htaken
    obtain ⟨records, control', core'⟩ := taken
    simp only at htaken ⊢
    split
    case isTrue => exact ⟨control', _, htaken⟩
    case isFalse =>
      have hretried := htaken.trans (retryTimeoutReplayRecordsEvenly_path hworld
        hown (timeoutError core) (retryCandidateIds control nodeIds) records
        control' core' _ [] (List.length_map TaskReplayRecord.currentTaskId))
      exact hretried.trans (ImapPath.quiet rfl (Session.SameBooks.refl _))

theorem pollRound_follows (params : ImapParams) {nodeIds : List NodeId}
    (hnodup : nodeIds.Nodup) (control : ImapControl) (core : ImapCore V D)
    (hmax : ∀ clock, params.maxPending world clock = maxPending) :
    (pollRound world params nodeIds control core).Follows world maxPending
      ⟨control, core, []⟩ := by
  simp only [pollRound, hmax]
  have hstart : ImapPath world maxPending ⟨control, core, []⟩
      ⟨control.setPollStart ((control.pollStartIdx + 1) % nodeIds.length), core,
        []⟩ := .quiet rfl (Session.SameBooks.refl _)
  have hpolled := hstart.trans
    (pollImapResultsOnce_path hworld hown params.maxInfraRetries.toNat
      (nodeIds.drop control.pollStartIdx ++ nodeIds.take control.pollStartIdx)
      (control.setPollStart ((control.pollStartIdx + 1) % nodeIds.length)) core)
  generalize pollImapResultsOnce world params.maxInfraRetries.toNat
    (nodeIds.drop control.pollStartIdx ++ nodeIds.take control.pollStartIdx)
    (control.setPollStart ((control.pollStartIdx + 1) % nodeIds.length)) core =
      polled at hpolled
  obtain ⟨items, freed, control', core'⟩ := polled
  simp only at hpolled ⊢
  split
  case isTrue =>
    have hready : ImapPath world maxPending ⟨control, core, []⟩
        ⟨control', core'.extendReady items, []⟩ :=
      hpolled.trans (ImapPath.quiet rfl (Session.SameBooks.refl _))
    split
    case isFalse => exact hready
    case isTrue =>
      obtain ⟨hand, hfilled, hdone⟩ := fillImapFromQuota_path world maxPending
        hnodup (maxPending - control'.totalInflight) control'
        (core'.extendReady items)
      cases hfill : fillImapFromQuota world (maxPending - control'.totalInflight)
          nodeIds maxPending control' (core'.extendReady items) with
      | mk answer after =>
        rw [hfill] at hfilled hdone
        cases answer with
        | error error => exact ⟨after.1, hand, hready.trans hfilled⟩
        | ok submitted =>
          have hhand := hdone submitted rfl
          subst hhand
          exact hready.trans hfilled
  case isFalse =>
    have hticked : ImapPath world maxPending ⟨control, core, []⟩
        ⟨control', core'.tick, []⟩ := hpolled.trans ImapPath.tick
    split
    · exact (onTimeout_follows hworld hown _ nodeIds control' core'.tick).head
        hticked
    · exact hticked

omit hworld hown in
theorem yieldReady_session (raiseOnError : Bool) (count : ℕ)
    (core : ImapCore V D) :
    (yieldReady raiseOnError count core).2.2.session = core.session := by
  induction count generalizing core with
  | zero => rfl
  | succ count ih =>
    rw [yieldReady]
    split
    · rfl
    · split
      · rfl
      · exact ih _

theorem imapRound_follows (params : ImapParams) {nodeIds : List NodeId}
    (hnodup : nodeIds.Nodup) (control : ImapControl) (core : ImapCore V D)
    (hmax : ∀ clock, params.maxPending world clock = maxPending) :
    (imapRound world params nodeIds control core).Follows world maxPending
      ⟨control, core, []⟩ := by
  rw [imapRound]
  generalize max 1 (if params.receiveBatch = 0 then 1
    else params.receiveBatch.toNat) = maxReceive
  have hyielded : ImapPath world maxPending ⟨control, core, []⟩
      ⟨control, (yieldReady params.raiseOnError maxReceive core).2.2, []⟩ := by
    refine .quiet rfl ?_
    rw [yieldReady_session]
    exact Session.SameBooks.refl core.session
  generalize yieldReady params.raiseOnError maxReceive core = outcome at hyielded
  obtain ⟨error, yielded, core'⟩ := outcome
  cases error with
  | some error => exact ⟨control, [], hyielded⟩
  | none =>
    cases yielded with
    | succ yielded => exact hyielded
    | zero =>
      simp only
      split
      · exact ⟨control, [], hyielded⟩
      · split
        · exact (fillIdle_follows params hnodup control core' hmax).head hyielded
        · exact (pollRound_follows hworld hown params hnodup control core'
            hmax).head hyielded

end Rounds

end PycloudParallel.TaskPool
