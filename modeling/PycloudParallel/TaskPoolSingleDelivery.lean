import PycloudParallel.TaskPoolDrainInvariant

/-!
# Results reach the caller once

As long as the buffer never takes a second result of one task, every accepted
task id is delivered at most once, and a result that a filter left out stays in
the buffer until a call that wants it delivers it.
-/

namespace PycloudParallel.TaskPool

variable {V D : Type}

/-! ### Deliveries are not taken back -/

theorem delivered_rules (world : World V D)
    (before : List (NodeId × TaskResult D)) :
    DrainRules world fun d => before <+: d.delivered where
  setCall h _ := h
  setBuffered h _ := h
  deliver h entry := h.trans (List.prefix_append _ [entry])
  keepForLater h _ := h
  noteHeldBack h _ := h
  lostNode h _ _ := h
  submit h _ _ := h

@[simp] theorem delivered_endRound (d : DrainState V D) (call : DrainCall) :
    (d.endRound call).delivered = d.delivered := by
  unfold DrainState.endRound
  split <;> rfl

/-! ### A call that wants a waiting result -/

def CountFilled (maxCount : Option Int) (d d' : DrainState V D) : Prop :=
  ∃ count, maxCount = some count ∧ 0 < count ∧
    d.delivered.length + count.toNat ≤ d'.delivered.length

theorem pendingTaskIds_card_lt {s : Session V D}
    {entry : NodeId × TaskResult D} {matched : List (NodeId × TaskResult D)}
    (hentry : entry.2.taskId ∈ s.pendingTaskIds)
    (hlive : ∀ other ∈ matched, other.2.taskId ∈ s.pendingTaskIds)
    (hnodup : (matched.map fun other => other.2.taskId).Nodup)
    (hnew : ∀ other ∈ matched, entry.2.taskId ≠ other.2.taskId) :
    matched.length < s.pendingTaskIds.card := by
  have hcons : (entry.2.taskId ::
      matched.map fun other => other.2.taskId).Nodup := by
    rw [List.nodup_cons]
    refine ⟨?_, hnodup⟩
    intro hmem
    obtain ⟨other, hother, heq⟩ := List.mem_map.mp hmem
    exact hnew other hother heq.symm
  have hsubset : (entry.2.taskId ::
      matched.map fun other => other.2.taskId).toFinset ⊆ s.pendingTaskIds := by
    intro taskId hmem
    rcases List.mem_cons.mp (List.mem_toFinset.mp hmem) with heq | htail
    · exact heq ▸ hentry
    · obtain ⟨other, hother, rfl⟩ := List.mem_map.mp htail
      exact hlive other hother
  have hcard := Finset.card_le_card hsubset
  rw [List.toFinset_card_of_nodup hcons, List.length_cons,
    List.length_map] at hcard
  omega

theorem delivered_firstRound {d : DrainState V D} (h : DrainInvariant d)
    (maxCount : Option Int) (limit : Int) (taskIds : Option (Finset TaskId))
    (pools : List NodeId) {entry : NodeId × TaskResult D}
    (hwaits : WaitsInBuffer d entry)
    (hwanted : wantedBy taskIds entry.2.taskId = true) :
    let d' := (d.setCall (some ⟨maxCount, limit, taskIds, 0, 0, 0, []⟩)).beginRound
      ⟨maxCount, limit, taskIds, 0, 0, 0, []⟩ pools
    entry ∈ d'.delivered ∨ CountFilled maxCount d d' := by
  intro d'
  set opened : DrainCall := ⟨maxCount, limit, taskIds, 0, 0, 0, []⟩
  set call := opened.retarget d.session.pendingResultCount with hcall
  have hyielded : call.yielded = 0 := rfl
  have hreached : call.targetReached = false := by
    apply decide_eq_false
    omega
  have hdrain := roundDrain (h.sound.setCall (some opened)) call hreached
  have hdelivered : d'.delivered = d.delivered ++
      (d.session.iterBufferedResultItems call.taskIds
        call.remainingByMax).1 := by
    have hround : d' = (d.setCall (some opened)).beginRound opened pools := rfl
    rw [hround, DrainState.beginRound]
    simp only [DrainState.setCall, ← hcall, hreached, Bool.false_eq_true,
      if_false]
    have hboth := hdrain.handled.delivered
    simp only [DrainState.setCall] at hboth
    generalize DrainState.deliverBuffered _ call _ = outcome at hboth
    obtain ⟨after, answer⟩ := outcome
    cases answer with
    | none => exact hboth
    | some call' =>
      simp only [delivered_endRound]
      exact hboth
  obtain ⟨hbuffered, hpending⟩ := hwaits
  rcases hdrain.covers entry hbuffered hpending with hmatched | hkept
  · left
    rw [hdelivered]
    exact List.mem_append_right _ hmatched
  · right
    obtain ⟨hpos, hcounted⟩ := hdrain.full entry hkept hwanted
    have hfull : call.remainingByMax ≤
        (d.session.iterBufferedResultItems call.taskIds
          call.remainingByMax).1.length := hcounted
    have hremaining : call.remainingByMax ≤ call.effectiveTarget := by
      rw [DrainCall.remainingByMax]
      split <;> omega
    have htarget : call.effectiveTarget ≤ call.remainingByMax := by
      rw [DrainCall.remainingByMax, if_pos (by omega), hyielded]
      omega
    cases maxCount with
    | some count =>
      have hcount : call.effectiveTarget = count.toNat := rfl
      refine ⟨count, rfl, by omega, ?_⟩
      rw [hdelivered, List.length_append]
      omega
    | none =>
      -- Without a count there is room for every pending task.
      exfalso
      have hcount : call.effectiveTarget = d.session.pendingTaskIds.card := rfl
      have hnodup := hdrain.handled.sound.delivered_nodup
      rw [hdrain.handled.delivered, List.map_append] at hnodup
      have hfresh := pendingTaskIds_card_lt hpending hdrain.live
        (List.nodup_append.mp hnodup).2.1 (hdrain.disjoint entry hkept)
      simp only [DrainState.setCall] at hfresh
      omega

/-! ### Every run -/

/-- Each accepted task id is delivered at most once, and a result that a filter
left out is delivered or waits in the buffer, until a call that wants it hands
it out or has handed out as many results as it was asked for. -/
theorem accepted_tasks_delivered_once (world : World V D)
    {last : DrainState V D}
    (hrun : GuardedRun (drainStep world) buffersOnce DrainState.opened last) :
    (last.delivered.map fun entry => entry.2.taskId).Nodup ∧
    (∀ entry ∈ last.heldBack,
      entry ∈ last.delivered ∨ WaitsInBuffer last entry) ∧
    ∀ maxCount limit taskIds pools labels after,
      runLabels (drainStep world) last (.openCall maxCount limit taskIds ::
        .beginRound pools :: labels) = some after →
      ∀ entry ∈ last.heldBack, wantedBy taskIds entry.2.taskId = true →
        entry ∈ after.delivered ∨ CountFilled maxCount last after := by
  have h := drainInvariant_run hrun
  refine ⟨h.sound.delivered_nodup, h.held, ?_⟩
  intro maxCount limit taskIds pools labels after hlabels entry hentry hwanted
  cases hidle : last.call with
  | some call => simp [runLabels, drainStep, hidle] at hlabels
  | none =>
    simp only [runLabels, drainStep, hidle, Option.isSome_none,
      Bool.false_eq_true, if_false, DrainState.setCall, List.isEmpty_nil,
      if_true] at hlabels
    have hlater := (delivered_rules world _).reachable (List.prefix_refl _)
      (reachable_of_runLabels labels hlabels)
    rcases h.held entry hentry with hdelivered | hwaits
    · left
      have hround := (delivered_rules world last.delivered).beginRound
        (d := last.setCall (some ⟨maxCount, limit, taskIds, 0, 0, 0, []⟩))
        (List.prefix_refl _) ⟨maxCount, limit, taskIds, 0, 0, 0, []⟩ pools
      exact (hround.trans hlater).subset hdelivered
    · rcases delivered_firstRound h maxCount limit taskIds pools hwaits hwanted
        with hnow | ⟨count, hcount, hpos, hlength⟩
      · exact Or.inl (hlater.subset hnow)
      · exact Or.inr ⟨count, hcount, hpos,
          Nat.le_trans hlength hlater.length_le⟩

def acceptingWorld : World Unit Unit where
  capabilityLimits := fun _ => []
  itemSize := fun _ => 512
  prepareError := fun _ _ => none
  submitTasks := fun _ _ _ => .ok fun _ => true
  pullResults := fun _ _ _ => .ok []
  fetchResultData := fun result => .ok result.data
  availablePoolNodeIds := fun _ => ["a"]
  availablePoolNodeIds_nodup := fun _ => List.nodup_singleton "a"
  canAcceptResultFromNode := fun _ _ => true
  selectOneCandidate := fun _ _ => some "a"
  adaptiveWindow := fun _ => 1
  defaultMaxInFlight := 1
  deadlineReached := fun _ => false
  isDependencyError := fun _ => false
  dependencyFailureReason := TaskResult.errorMessage
  setOrder := id
  setOrder_perm := List.Perm.refl

def succeededResult (taskId : TaskId) : TaskResult Unit :=
  ⟨taskId, .succeeded, "", "", some ()⟩

def filteredPull : List (DrainLabel Unit Unit) :=
  [.submitPayloads [.mapping ∅, .mapping ∅] ["a", "a"],
    .openCall none 100 (some {1}), .beginRound ["a"],
    .poll true (.ok [succeededResult 2])]

theorem filteredPull_delivered_once :
    ∃ last after, GuardedRun (drainStep acceptingWorld) buffersOnce
        DrainState.opened last ∧
      last.delivered = [] ∧ last.heldBack = [("a", succeededResult 2)] ∧
      runLabels (drainStep acceptingWorld) last
        [.openCall none 100 none, .beginRound ["a"]] = some after ∧
      ("a", succeededResult 2) ∈ after.delivered := by
  have hrun := guardedRun_of_checkedRun (filteredPull ++ [.deadlineReached])
    (show checkedRun (drainStep acceptingWorld) buffersOnce DrainState.opened
      (filteredPull ++ [.deadlineReached]) = some _ from rfl)
  obtain ⟨-, -, hlater⟩ := accepted_tasks_delivered_once acceptingWorld hrun
  have hafter := hlater none 100 none ["a"] [] _ rfl ("a", succeededResult 2)
    (by decide) rfl
  refine ⟨_, _, hrun, rfl, rfl, rfl, hafter.resolve_right ?_⟩
  rintro ⟨count, hcount, -⟩
  cases hcount

/-- The node fails the next pull, while the result of the second task waits in
the buffer; a later call asks for two results. -/
def lostAfterFilter : List (DrainLabel Unit Unit) :=
  filteredPull ++ [.beginRound ["a"], .poll true (.error "connection reset"),
    .beginRound ["a"], .poll false (.ok []), .beginRound ["a"],
    .openCall (some 2) 100 none, .beginRound ["a"]]

theorem second_task_delivered_twice :
    ∃ last : DrainState Unit Unit,
      Reachable (drainStep acceptingWorld) DrainState.opened last ∧
      last.delivered.map (fun entry => (entry.2.taskId, entry.2.status)) =
        [(1, .failedInfra), (2, .succeeded), (2, .failedInfra)] ∧
      ¬(last.delivered.map fun entry => entry.2.taskId).Nodup :=
  ⟨_, reachable_of_runLabels lostAfterFilter rfl, rfl, by decide⟩

end PycloudParallel.TaskPool
