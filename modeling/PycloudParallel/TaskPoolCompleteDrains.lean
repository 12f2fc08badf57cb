import PycloudParallel.TaskPoolDrainInvariant

/-!
# Draining without a count

Without a count a drain takes the number of pending tasks for its target in
every round, and compares it with all it has yielded.  It is complete exactly
when the first round that brings a result brings all of them.
-/

namespace PycloudParallel.TaskPool

variable {V D : Type}

/-! ### Sessions without replay records -/

theorem Session.Settled.setBuffered {s : Session V D} (h : s.Settled)
    (items : List (NodeId × TaskResult D)) : (s.setBuffered items).Settled :=
  ⟨h.records_empty, h.index_empty, h.mapped⟩

variable {d : DrainState V D} {call : DrainCall}

theorem settled_lostNode (h : d.session.Settled) (world : World V D)
    (nodeId : NodeId) (error : String) :
    (d.session.failPendingTasksForLostNode world nodeId error).Settled := by
  obtain ⟨_, hpending, hnodes, _, hrecords, hindex, _⟩ :=
    failPendingTasksForLostNode_spec h world nodeId error
  refine ⟨hrecords, hindex, ?_⟩
  intro taskId node hnode
  rw [hnodes] at hnode
  rw [hpending]
  exact h.mapped taskId node hnode

theorem settled_rules (world : World V D) :
    DrainRules world fun d => d.session.Settled where
  setCall h _ := h
  setBuffered h items := h.setBuffered items
  deliver h entry := settled_deliver h entry
  keepForLater h _ := ⟨h.records_empty, h.index_empty, h.mapped⟩
  noteHeldBack h _ := h
  lostNode h nodeId error := settled_lostNode h world nodeId error
  submit {d} h payloads targets := by
    have hsubmit := submitted_submitPayloads world payloads targets d.session
    refine ⟨hsubmit.replayRecords.trans h.records_empty,
      hsubmit.replayNodeIndex.trans h.index_empty, ?_⟩
    intro taskId nodeId hnode
    rcases hsubmit.mapped taskId nodeId hnode with hold | hpending
    · exact hsubmit.pending_old _ (h.mapped taskId nodeId hold)
    · exact hpending

theorem settled_reachable {world : World V D}
    (hreach : Reachable (drainStep world) .opened d) : d.session.Settled := by
  refine (settled_rules world).reachable ⟨rfl, rfl, ?_⟩ hreach
  intro taskId nodeId hnode
  cases hnode

/-! ### What the loops yield -/

def entryIds (entries : List (NodeId × TaskResult D)) : List TaskId :=
  entries.map fun entry => entry.2.taskId

@[simp] theorem entryIds_append (first second : List (NodeId × TaskResult D)) :
    entryIds (first ++ second) = entryIds first ++ entryIds second :=
  List.map_append

/-- A loop delivered `taken`, and returned when it reached the target. -/
structure Yields (call : DrainCall) (d : DrainState V D)
    (taken : List (NodeId × TaskResult D)) (d' : DrainState V D)
    (answer : Option DrainCall) : Prop where
  settled : d'.session.Settled
  delivered : d'.delivered = d.delivered ++ taken
  pending : ∀ taskId, taskId ∈ d'.session.pendingTaskIds ↔
    taskId ∈ d.session.pendingTaskIds ∧ taskId ∉ entryIds taken
  room : call.yielded + taken.length ≤ call.effectiveTarget
  goes : ∀ call', answer = some call' →
    call' = { call with yielded := call.yielded + taken.length } ∧
      call'.targetReached = false
  ends : answer = none → call.yielded + taken.length = call.effectiveTarget

theorem targetReached_countYield (hbelow : call.yielded < call.effectiveTarget)
    :
    call.countYield.targetReached =
      decide (call.yielded + 1 = call.effectiveTarget) := by
  have hiff : (0 < call.effectiveTarget ∧
      call.effectiveTarget ≤ call.yielded + 1) ↔
        call.yielded + 1 = call.effectiveTarget := by
    omega
  exact decide_eq_decide.mpr hiff

theorem below_of_targetReached (hpos : 0 < call.effectiveTarget)
    (hreached : call.targetReached = false) :
    call.yielded < call.effectiveTarget := by
  have hnot := of_decide_eq_false hreached
  omega

theorem yields_nil (hsettled : d.session.Settled)
    (hbelow : call.yielded < call.effectiveTarget) :
    Yields call d [] d (some call) where
  settled := hsettled
  delivered := by simp
  pending := by simp [entryIds]
  room := Nat.le_of_lt hbelow
  goes := by
    intro call' hcall
    cases hcall
    exact ⟨rfl, decide_eq_false (by omega)⟩
  ends := by
    intro hnone
    cases hnone

theorem Yields.cons {d' : DrainState V D} {entry : NodeId × TaskResult D}
    {taken : List (NodeId × TaskResult D)} {answer : Option DrainCall}
    (h : Yields call.countYield (d.deliver entry) taken d' answer) :
    Yields call d (entry :: taken) d' answer where
  settled := h.settled
  delivered := by simp [h.delivered, DrainState.deliver]
  pending := by
    intro taskId
    rw [h.pending, deliver_pending]
    simp only [entryIds, List.map_cons, List.mem_cons, not_or, and_assoc]
  room := by
    have hroom := h.room
    simp only [DrainCall.countYield] at hroom
    simp only [List.length_cons]
    omega
  goes := by
    intro call' hcall
    obtain ⟨rfl, hreached⟩ := h.goes call' hcall
    refine ⟨?_, hreached⟩
    simp only [DrainCall.countYield, List.length_cons, DrainCall.mk.injEq,
      true_and, and_true]
    omega
  ends := by
    intro hnone
    have hends := h.ends hnone
    simp only [DrainCall.countYield] at hends
    simp only [List.length_cons]
    omega

theorem yields_last (hsettled : d.session.Settled)
    (entry : NodeId × TaskResult D)
    (hlast : call.yielded + 1 = call.effectiveTarget) :
    Yields call d [entry] (d.deliver entry) none where
  settled := settled_deliver hsettled entry
  delivered := rfl
  pending := by
    intro taskId
    rw [deliver_pending]
    simp [entryIds]
  room := Nat.le_of_eq hlast
  goes := by
    intro call' hcall
    cases hcall
  ends := fun _ => hlast

theorem deliverBuffered_yields :
    ∀ (entries : List (NodeId × TaskResult D)) (call : DrainCall)
      (d : DrainState V D), d.session.Settled →
      call.yielded < call.effectiveTarget →
      call.yielded + entries.length ≤ call.effectiveTarget →
      Yields call d entries (DrainState.deliverBuffered entries call d).1
        (DrainState.deliverBuffered entries call d).2 := by
  intro entries
  induction entries with
  | nil => exact fun _ _ hsettled hbelow _ => yields_nil hsettled hbelow
  | cons entry entries ih =>
    intro call d hsettled hbelow hroom
    rw [List.length_cons] at hroom
    rw [DrainState.deliverBuffered, targetReached_countYield hbelow]
    split
    · next hreached =>
      have hlast := of_decide_eq_true hreached
      have hnone : entries = [] := List.eq_nil_of_length_eq_zero (by omega)
      subst hnone
      exact yields_last hsettled entry hlast
    · next hopen =>
      have hmore : call.yielded + 1 ≠ call.effectiveTarget := by
        simpa using hopen
      apply Yields.cons
      apply ih _ _ (settled_deliver hsettled entry)
      · simp only [DrainCall.countYield]
        omega
      · simp only [DrainCall.countYield]
        omega

theorem handleResults_yields (nodeId : NodeId) :
    ∀ (results : List (TaskResult D)) (call : DrainCall) (d : DrainState V D),
      d.session.Settled → call.taskIds = none →
      call.yielded < call.effectiveTarget →
      ∃ taken, Yields call d taken
          (DrainState.handleResults nodeId results call d).1
          (DrainState.handleResults nodeId results call d).2 ∧
        (entryIds taken).Nodup ∧
        (∀ taskId ∈ entryIds taken, taskId ∈ d.session.pendingTaskIds ∧
          taskId ∈ results.map TaskResult.taskId) ∧
        ((DrainState.handleResults nodeId results call d).2 ≠ none →
          ∀ result ∈ results, result.taskId ∉
            (DrainState.handleResults nodeId results call
              d).1.session.pendingTaskIds) := by
  intro results
  induction results with
  | nil =>
    intro call d hsettled _ hbelow
    refine ⟨[], yields_nil hsettled hbelow, List.nodup_nil, ?_, ?_⟩
    · intro taskId hmem
      cases hmem
    · intro _ result hmem
      cases hmem
  | cons result results ih =>
    intro call d hsettled hall hbelow
    rw [DrainState.handleResults]
    by_cases hpending : result.taskId ∈ d.session.pendingTaskIds
    · have hwanted : wantedBy call.taskIds result.taskId = true := by
        rw [hall]
        rfl
      simp only [Session.isPendingTaskId, hpending, decide_true, Bool.not_true,
        Bool.false_eq_true, if_false, hwanted, targetReached_countYield hbelow]
      split
      · next hreached =>
        refine ⟨[(nodeId, result)], yields_last hsettled _
          (of_decide_eq_true hreached), List.nodup_singleton _, ?_, ?_⟩
        · intro taskId hmem
          have heq : taskId = result.taskId := by
            simpa [entryIds] using hmem
          rw [heq]
          exact ⟨hpending, by simp⟩
        · intro hsome
          exact absurd rfl hsome
      · next hopen =>
        have hmore : call.yielded + 1 ≠ call.effectiveTarget := by
          simpa using hopen
        obtain ⟨taken, hyields, hnodup, hmem, hcame⟩ := ih call.countYield
          (d.deliver (nodeId, result)) (settled_deliver hsettled _) hall (by
            simp only [DrainCall.countYield]
            omega)
        refine ⟨(nodeId, result) :: taken, hyields.cons, ?_, ?_, ?_⟩
        · rw [entryIds, List.map_cons, List.nodup_cons]
          refine ⟨fun hagain => ?_, hnodup⟩
          have hfresh := (hmem _ hagain).1
          rw [deliver_pending] at hfresh
          exact hfresh.2 rfl
        · intro taskId htaken
          rcases List.mem_cons.mp htaken with heq | hrest
          · rw [heq]
            exact ⟨hpending, by simp⟩
          · obtain ⟨hstill, hlater⟩ := hmem taskId hrest
            rw [deliver_pending] at hstill
            exact ⟨hstill.1, List.mem_cons_of_mem _ hlater⟩
        · intro hsome other hother
          rcases List.mem_cons.mp hother with heq | hrest
          · rw [heq, hyields.pending, deliver_pending]
            exact fun hstill => hstill.1.2 rfl
          · exact hcame hsome other hrest
    · simp only [Session.isPendingTaskId, hpending, decide_false, Bool.not_false,
        if_true]
      obtain ⟨taken, hyields, hnodup, hmem, hcame⟩ := ih call d hsettled hall
        hbelow
      refine ⟨taken, hyields, hnodup, ?_, ?_⟩
      · intro taskId htaken
        obtain ⟨hstill, hlater⟩ := hmem taskId htaken
        exact ⟨hstill, List.mem_cons_of_mem _ hlater⟩
      · intro hsome other hother
        rcases List.mem_cons.mp hother with heq | hrest
        · rw [heq, hyields.pending]
          exact fun hstill => hpending hstill.1
        · exact hcame hsome other hrest

/-! ### The buffer -/

def Session.waiting (s : Session V D) : List (NodeId × TaskResult D) :=
  s.bufferedResultItems.filter fun entry =>
    decide (entry.2.taskId ∈ s.pendingTaskIds)

theorem splitBuffered_all (pending : Finset TaskId) {maxCount : Nat}
    (hpos : 0 < maxCount) :
    ∀ (entries : List (NodeId × TaskResult D)) (matched : Nat),
      (splitBuffered pending none maxCount entries matched).1 =
        (entries.filter fun entry =>
          decide (entry.2.taskId ∈ pending)).take (maxCount - matched) := by
  intro entries
  induction entries with
  | nil => simp [splitBuffered]
  | cons entry entries ih =>
    intro matched
    rw [splitBuffered]
    by_cases hpending : entry.2.taskId ∈ pending
    · simp only [hpending, not_true_eq_false, if_false, wantedBy, Bool.not_true,
        Bool.false_or, decide_eq_true_eq, hpos, true_and, List.filter_cons,
        decide_true, if_true]
      by_cases hfull : maxCount ≤ matched
      · have hnone : maxCount - matched = 0 := by omega
        rw [if_pos hfull, ih, hnone, List.take_zero, List.take_zero]
      · have hsome : maxCount - matched = (maxCount - (matched + 1)) + 1 := by
          omega
        rw [if_neg hfull, ih, hsome, List.take_succ_cons]
    · simp only [hpending, not_false_eq_true, if_true, List.filter_cons,
        decide_false, Bool.false_eq_true, if_false]
      exact ih matched

end PycloudParallel.TaskPool
