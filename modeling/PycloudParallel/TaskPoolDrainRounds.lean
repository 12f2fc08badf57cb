import PycloudParallel.TaskPoolCompleteDrains
import PycloudParallel.TaskPoolSingleDelivery

/-!
# The rounds of a drain without a count
-/

namespace PycloudParallel.TaskPool

variable {V D : Type}

/-- A round of a drain: the pools, and for each of them in the order of the
round whether it is polled and what its pull gives. -/
structure DrainRound (D : Type) where
  pools : List NodeId
  answers : List (Bool × Except String (List (TaskResult D)))

def answerResults : Bool × Except String (List (TaskResult D)) →
    List (TaskResult D)
  | (true, .ok results) => results
  | _ => []

def DrainRound.results (round : DrainRound D) : List (TaskResult D) :=
  round.answers.flatMap answerResults

def pollLabel (answer : Bool × Except String (List (TaskResult D))) :
    DrainLabel V D :=
  .poll answer.1 answer.2

def DrainState.betweenRounds (d : DrainState V D) : Bool :=
  match d.call with
  | none => true
  | some call => call.toPoll.isEmpty

def roundStep (world : World V D) (d : DrainState V D) (round : DrainRound D) :
    Option (DrainState V D) :=
  (runLabels (drainStep world) d
    (.beginRound round.pools :: round.answers.map pollLabel)).filter
      DrainState.betweenRounds

/-- `_iter_raw_results(max_count=None)` is called. -/
def DrainState.openDrain (d : DrainState V D) (limit : Int) : DrainState V D :=
  d.setCall (some ⟨none, limit, none, 0, 0, 0, []⟩)

/-! ### What a round has yielded so far -/

structure Going (d : DrainState V D) (yielded : Nat)
    (taken : List (NodeId × TaskResult D)) (call : DrainCall) : Prop where
  maxCount : call.maxCount = none
  taskIds : call.taskIds = none
  target : call.effectiveTarget = d.session.pendingResultCount
  yielded : call.yielded = yielded + taken.length
  below : call.yielded < call.effectiveTarget

theorem Going.setToPoll {d : DrainState V D} {yielded : Nat}
    {taken : List (NodeId × TaskResult D)} {call : DrainCall}
    (h : Going d yielded taken call) (nodes : List NodeId) :
    Going d yielded taken (call.setToPoll nodes) :=
  ⟨h.maxCount, h.taskIds, h.target, h.yielded, h.below⟩

theorem Going.orderPools {d : DrainState V D} {yielded : Nat}
    {taken : List (NodeId × TaskResult D)} {call : DrainCall}
    (h : Going d yielded taken call) (pools : List NodeId) :
    Going d yielded taken (call.orderPools pools) := by
  unfold DrainCall.orderPools
  split
  · exact h.setToPoll []
  · exact ⟨h.maxCount, h.taskIds, h.target, h.yielded, h.below⟩

/-- The round that began in `d` has yielded `early` from the buffer and
`polled` from the results `seen` so far. -/
structure Progress (d : DrainState V D) (yielded : Nat)
    (seen : List (TaskResult D)) (early polled : List (NodeId × TaskResult D))
    (d' : DrainState V D) : Prop where
  settled : d'.session.Settled
  delivered : d'.delivered = d.delivered ++ (early ++ polled)
  pending : ∀ taskId, taskId ∈ d'.session.pendingTaskIds ↔
    taskId ∈ d.session.pendingTaskIds ∧ taskId ∉ entryIds (early ++ polled)
  buffered : early = d.session.waiting.take
    (d.session.pendingResultCount - yielded)
  polled_nodup : (entryIds polled).Nodup
  polled_fresh : ∀ taskId ∈ entryIds polled,
    taskId ∈ d.session.pendingTaskIds ∧ taskId ∉ entryIds early ∧
      taskId ∈ seen.map TaskResult.taskId
  room : yielded + (early ++ polled).length ≤ d.session.pendingResultCount

structure Emptied (d : DrainState V D) (seen : List (TaskResult D))
    (d' : DrainState V D) : Prop where
  waiting : ∀ taskId ∈ entryIds d.session.waiting,
    taskId ∉ d'.session.pendingTaskIds
  seen : ∀ taskId ∈ seen.map TaskResult.taskId,
    taskId ∉ d'.session.pendingTaskIds

structure Drained (d : DrainState V D) (yielded : Nat)
    (seen : List (TaskResult D)) (early polled : List (NodeId × TaskResult D))
    (d' : DrainState V D) : Prop extends
    Progress d yielded seen early polled d' where
  goes : ∀ call, d'.call = some call →
    Going d yielded (early ++ polled) call ∧ Emptied d seen d' ∧
      (call.toPoll = [] → d'.session.pendingTaskIds ≠ ∅)
  ends : d'.call = none →
    yielded + (early ++ polled).length = d.session.pendingResultCount ∨
      d'.session.pendingTaskIds = ∅

section

variable {d mid : DrainState V D} {yielded : Nat}
  {seen : List (TaskResult D)} {early polled : List (NodeId × TaskResult D)}

section

variable (h : Progress d yielded seen early polled mid)

include h

theorem Progress.setCall (call : Option DrainCall) :
    Progress d yielded seen early polled (mid.setCall call) :=
  ⟨h.settled, h.delivered, h.pending, h.buffered, h.polled_nodup,
    h.polled_fresh, h.room⟩

theorem Progress.returned
    (hends : yielded + (early ++ polled).length =
      d.session.pendingResultCount ∨ mid.session.pendingTaskIds = ∅) :
    Drained d yielded seen early polled (mid.setCall none) where
  toProgress := h.setCall none
  goes := by
    intro call hcall
    cases hcall
  ends := fun _ => hends

theorem Progress.endRound {call : DrainCall}
    (hgoing : Going d yielded (early ++ polled) call)
    (hemptied : Emptied d seen mid) :
    Drained d yielded seen early polled (mid.endRound call) := by
  unfold DrainState.endRound
  split
  · next hdone =>
    rw [Bool.and_eq_true, decide_eq_true_eq] at hdone
    exact h.returned (Or.inr (Finset.card_eq_zero.mp hdone.2))
  · next hopen =>
    refine ⟨h.setCall _, ?_, ?_⟩
    · intro call' hcall
      cases hcall
      refine ⟨hgoing, ⟨hemptied.waiting, hemptied.seen⟩, ?_⟩
      intro hpoll hnone
      apply hopen
      simp [hpoll, Session.pendingResultCount, show
        mid.session.pendingTaskIds = ∅ from hnone]
    · intro hcall
      cases hcall

end

theorem beginRound_open {call opened : DrainCall}
    (hopened : call.retarget d.session.pendingResultCount = opened)
    (hunreached : opened.targetReached = false) (pools : List NodeId) :
    d.beginRound call pools =
      match DrainState.deliverBuffered
        (d.session.iterBufferedResultItems opened.taskIds
          opened.remainingByMax).1 opened
        (d.setSession (d.session.iterBufferedResultItems opened.taskIds
          opened.remainingByMax).2) with
      | (d, none) => d.setCall none
      | (d, some call) => d.endRound (call.orderPools pools) := by
  subst hopened
  exact if_neg (Bool.not_eq_true _ ▸ hunreached)

theorem beginRound_drained (hsettled : d.session.Settled) {call : DrainCall}
    (hcount : call.maxCount = none) (hall : call.taskIds = none)
    (hbelow : call.yielded < d.session.pendingResultCount)
    (pools : List NodeId) :
    Drained d call.yielded []
      (d.session.waiting.take (d.session.pendingResultCount - call.yielded)) []
      (d.beginRound call pools) := by
  obtain ⟨maxCount, limit, taskIds, target, yielded, round, toPoll⟩ := call
  dsimp only at hcount hall hbelow
  subst hcount hall
  let opened : DrainCall := ⟨none, limit, none, d.session.pendingResultCount,
    yielded, round, toPoll⟩
  have hunreached : opened.targetReached = false := by
    apply decide_eq_false
    dsimp only [opened]
    omega
  have hremaining : opened.remainingByMax =
      d.session.pendingResultCount - yielded := by
    simp only [opened, DrainCall.remainingByMax]
    rw [if_pos (by omega)]
  have hearly : (d.session.iterBufferedResultItems opened.taskIds
      opened.remainingByMax).1 = d.session.waiting.take
        (d.session.pendingResultCount - yielded) := by
    rw [hremaining]
    exact splitBuffered_all _ (by omega) _ 0
  generalize hwaiting : d.session.waiting.take
    (d.session.pendingResultCount - yielded) = early at hearly ⊢
  have hlength : early.length ≤ d.session.pendingResultCount - yielded := by
    rw [← hwaiting]
    exact List.length_take_le _ _
  let ready := d.setSession (d.session.iterBufferedResultItems opened.taskIds
    opened.remainingByMax).2
  have hready : ready.session.Settled := hsettled.setBuffered _
  have hyields := deliverBuffered_yields early opened ready hready hbelow (by
    dsimp only [opened]
    omega)
  have hopened : DrainCall.retarget ⟨none, limit, none, target, yielded, round,
      toPoll⟩ d.session.pendingResultCount = opened := rfl
  rw [beginRound_open hopened hunreached, hearly]
  generalize DrainState.deliverBuffered early opened ready = outcome at hyields
  obtain ⟨after, answer⟩ := outcome
  have hprogress : Progress d yielded [] early [] after := by
    refine ⟨hyields.settled, ?_, ?_, hwaiting.symm, List.nodup_nil, ?_, ?_⟩
    · rw [List.append_nil]
      exact hyields.delivered
    · rw [List.append_nil]
      exact hyields.pending
    · intro taskId hmem
      cases hmem
    · rw [List.append_nil]
      exact hyields.room
  cases answer with
  | none =>
    apply hprogress.returned
    left
    rw [List.append_nil]
    exact hyields.ends rfl
  | some call =>
    obtain ⟨rfl, hopen⟩ := hyields.goes call rfl
    have hroom := below_of_targetReached
      (show 0 < d.session.pendingResultCount by omega) hopen
    have hgoing : Going d yielded (early ++ [])
        ({ opened with yielded := opened.yielded + early.length } :
          DrainCall) := ⟨rfl, rfl, rfl, by simp [opened], hroom⟩
    apply hprogress.endRound (hgoing.orderPools pools)
    refine ⟨?_, ?_⟩
    · intro taskId hmem
      rw [hyields.pending]
      rintro ⟨-, hnot⟩
      apply hnot
      -- The target leaves room for all that was waiting.
      have hshort : d.session.waiting.length ≤
          d.session.pendingResultCount - yielded := by
        by_contra hlong
        have hfull : early.length = d.session.pendingResultCount - yielded := by
          rw [← hwaiting, List.length_take]
          omega
        dsimp only [opened] at hroom
        omega
      rw [← hwaiting, List.take_of_length_le hshort]
      exact hmem
    · intro taskId hmem
      cases hmem

/-! ### The polls of a round -/

theorem Progress.poll {after : DrainState V D} {call : DrainCall}
    {new : List (NodeId × TaskResult D)} {answer : Option DrainCall}
    {results : List (TaskResult D)}
    (h : Progress d yielded seen early polled mid)
    (hgoing : Going d yielded (early ++ polled) call)
    (hyields : Yields call mid new after answer) (hnodup : (entryIds new).Nodup)
    (hnew : ∀ taskId ∈ entryIds new, taskId ∈ mid.session.pendingTaskIds ∧
      taskId ∈ results.map TaskResult.taskId) :
    Progress d yielded (seen ++ results) early (polled ++ new) after where
  settled := hyields.settled
  delivered := by
    rw [hyields.delivered, h.delivered]
    simp
  pending := by
    intro taskId
    rw [hyields.pending, h.pending]
    simp only [entryIds_append, List.mem_append]
    tauto
  buffered := h.buffered
  polled_nodup := by
    rw [entryIds_append]
    apply List.Nodup.append h.polled_nodup hnodup
    intro taskId hold hagain
    have hstill := (hnew taskId hagain).1
    rw [h.pending] at hstill
    apply hstill.2
    rw [entryIds_append]
    exact List.mem_append_right _ hold
  polled_fresh := by
    intro taskId hmem
    rw [entryIds_append] at hmem
    rw [List.map_append]
    rcases List.mem_append.mp hmem with hold | hlate
    · obtain ⟨hpending, hearly, hseen⟩ := h.polled_fresh taskId hold
      exact ⟨hpending, hearly, List.mem_append_left _ hseen⟩
    · obtain ⟨hstill, hresult⟩ := hnew taskId hlate
      rw [h.pending, entryIds_append] at hstill
      refine ⟨hstill.1, ?_, List.mem_append_right _ hresult⟩
      exact fun hearly => hstill.2 (List.mem_append_left _ hearly)
  room := by
    have hroom := hyields.room
    rw [hgoing.yielded, hgoing.target] at hroom
    rw [← List.append_assoc, List.length_append]
    omega

theorem Progress.see {session : Session V D}
    (h : Progress d yielded seen early polled mid) (hsettled : session.Settled)
    (hpending : session.pendingTaskIds = mid.session.pendingTaskIds) :
    Progress d yielded seen early polled (mid.setSession session) where
  settled := hsettled
  delivered := h.delivered
  pending := by
    intro taskId
    simp only [DrainState.setSession, hpending]
    exact h.pending taskId
  buffered := h.buffered
  polled_nodup := h.polled_nodup
  polled_fresh := h.polled_fresh
  room := h.room

theorem pollNode_drained (world : World V D) {call : DrainCall}
    (h : Drained d yielded seen early polled mid) (hcall : mid.call = some call)
    (nodeId : NodeId) (rest : List NodeId)
    (answer : Bool × Except String (List (TaskResult D))) :
    ∃ more, Drained d yielded (seen ++ answerResults answer) early more
      (mid.pollNode world (call.setToPoll rest) nodeId answer.1 answer.2) := by
  obtain ⟨hgoing, hemptied, -⟩ := h.goes call hcall
  have hrest := hgoing.setToPoll rest
  have hquiet : Drained d yielded seen early polled
      (mid.endRound (call.setToPoll rest)) :=
    h.toProgress.endRound hrest hemptied
  obtain ⟨accepts, reply⟩ := answer
  cases accepts with
  | false =>
    refine ⟨polled, ?_⟩
    rw [answerResults, List.append_nil]
    · exact hquiet
    · simp
  | true =>
    cases reply with
    | error error =>
      refine ⟨polled, ?_⟩
      rw [answerResults, List.append_nil]
      · obtain ⟨_, hpending, -⟩ :=
          failPendingTasksForLostNode_spec h.settled world nodeId error
        have hlost := h.toProgress.see
          (settled_lostNode h.settled world nodeId error) hpending
        apply hlost.endRound hrest
        refine ⟨?_, ?_⟩
        · simp only [DrainState.setSession, hpending]
          exact hemptied.waiting
        · simp only [DrainState.setSession, hpending]
          exact hemptied.seen
      · simp
    | ok results =>
      rw [answerResults]
      cases hresults : results with
      | nil =>
        refine ⟨polled, ?_⟩
        rw [List.append_nil]
        exact hquiet
      | cons first others =>
        rw [← hresults]
        generalize hnoted : mid.noteHeldBack ((filteredOut mid.session
          (call.setToPoll rest).taskIds results).map
            fun result => (nodeId, result)) = noted
        have hsame : Progress d yielded seen early polled noted := by
          rw [← hnoted]
          exact ⟨h.settled, h.delivered, h.pending, h.buffered, h.polled_nodup,
            h.polled_fresh, h.room⟩
        obtain ⟨new, hyields, hnodup, hnew, hcame⟩ := handleResults_yields
          nodeId results (call.setToPoll rest) noted hsame.settled hrest.taskIds
          hrest.below
        rw [pollNode_ok world _ nodeId (by simp [hresults]), hnoted]
        generalize DrainState.handleResults nodeId results (call.setToPoll rest)
          noted = outcome at hyields hcame
        obtain ⟨after, answer⟩ := outcome
        have hprogress := hsame.poll hrest hyields hnodup hnew
        refine ⟨polled ++ new, ?_⟩
        cases answer with
        | none =>
          apply hprogress.returned
          left
          have hends := hyields.ends rfl
          rw [hrest.yielded, hrest.target] at hends
          rw [← List.append_assoc, List.length_append]
          omega
        | some call' =>
          obtain ⟨rfl, hopen⟩ := hyields.goes call' rfl
          dsimp only
          rw [if_neg (Bool.not_eq_true _ ▸ hopen)]
          apply hprogress.endRound
          · have hpos : 0 < (call.setToPoll rest).effectiveTarget :=
              Nat.zero_lt_of_lt hrest.below
            refine ⟨hrest.maxCount, hrest.taskIds, hrest.target, ?_,
              below_of_targetReached hpos hopen⟩
            dsimp only
            rw [hrest.yielded]
            simp only [List.length_append]
            omega
          · have hshrinks : ∀ taskId, taskId ∉ mid.session.pendingTaskIds →
                taskId ∉ after.session.pendingTaskIds := by
              intro taskId hgone hagain
              rw [hyields.pending, ← hnoted] at hagain
              exact hgone hagain.1
            refine ⟨fun taskId hmem => hshrinks _ (hemptied.waiting _ hmem), ?_⟩
            intro taskId hmem
            rw [List.map_append] at hmem
            rcases List.mem_append.mp hmem with hold | hlate
            · exact hshrinks _ (hemptied.seen _ hold)
            · obtain ⟨result, hresult, rfl⟩ := List.mem_map.mp hlate
              exact hcame (Option.some_ne_none _) result hresult

theorem polls_drained {world : World V D} {last : DrainState V D} :
    ∀ (answers : List (Bool × Except String (List (TaskResult D))))
      (seen : List (TaskResult D)) (polled : List (NodeId × TaskResult D))
      (mid : DrainState V D), Drained d yielded seen early polled mid →
      runLabels (drainStep world) mid (answers.map pollLabel) = some last →
      ∃ more, Drained d yielded (seen ++ answers.flatMap answerResults) early
        more last := by
  intro answers
  induction answers with
  | nil =>
    intro seen polled mid h hrun
    cases hrun
    refine ⟨polled, ?_⟩
    rw [List.flatMap_nil, List.append_nil]
    exact h
  | cons answer answers ih =>
    intro seen polled mid h hrun
    simp only [List.map_cons, runLabels, pollLabel, drainStep] at hrun
    cases hcall : mid.call with
    | none => simp [hcall] at hrun
    | some call =>
      cases hpoll : call.toPoll with
      | nil => simp [hcall, hpoll] at hrun
      | cons nodeId rest =>
        simp only [hcall, hpoll] at hrun
        split at hrun
        · cases hrun
        · next after hstep =>
          split at hstep
          · cases hstep
            obtain ⟨more, hmore⟩ := pollNode_drained world h hcall nodeId rest
              answer
            obtain ⟨final, hfinal⟩ := ih _ more _ hmore hrun
            refine ⟨final, ?_⟩
            rw [List.flatMap_cons, ← List.append_assoc]
            exact hfinal
          · cases hstep

end

/-! ### Whole rounds -/

section

variable {world : World V D} {d d' : DrainState V D} {call : DrainCall}
  {round : DrainRound D}

structure Draining (d : DrainState V D) (call : DrainCall) : Prop where
  settled : d.session.Settled
  calls : d.call = some call
  maxCount : call.maxCount = none
  taskIds : call.taskIds = none
  between : call.toPoll = []
  pending : d.session.pendingTaskIds ≠ ∅

theorem Draining.pendingResultCount_pos (h : Draining d call) :
    0 < d.session.pendingResultCount :=
  Finset.card_pos.mpr (Finset.nonempty_iff_ne_empty.mpr h.pending)

theorem roundStep_eq_some (hstep : roundStep world d round = some d') :
    runLabels (drainStep world) d
      (.beginRound round.pools :: round.answers.map pollLabel) = some d' ∧
      d'.betweenRounds = true :=
  Option.filter_eq_some_iff.mp hstep

theorem roundStep_of_returned (hcall : d.call = none) :
    roundStep world d round = none := by
  simp [roundStep, runLabels, drainStep, hcall]

theorem roundStep_drained (h : Draining d call)
    (hbelow : call.yielded < d.session.pendingResultCount)
    (hstep : roundStep world d round = some d') :
    ∃ polled, Drained d call.yielded round.results (d.session.waiting.take
      (d.session.pendingResultCount - call.yielded)) polled d' := by
  have hrun := (roundStep_eq_some hstep).1
  simp only [runLabels, drainStep, h.calls, h.between, List.isEmpty_nil,
    if_true] at hrun
  exact polls_drained round.answers [] [] _
    (beginRound_drained h.settled h.maxCount h.taskIds hbelow round.pools) hrun

theorem roundStep_reached (h : Draining d call)
    (hreached : d.session.pendingResultCount ≤ call.yielded)
    (hstep : roundStep world d round = some d') : d' = d.setCall none := by
  have hrun := (roundStep_eq_some hstep).1
  simp only [runLabels, drainStep, h.calls, h.between, List.isEmpty_nil,
    if_true] at hrun
  have hbegin : d.beginRound call round.pools = d.setCall none := by
    have htarget : (call.retarget d.session.pendingResultCount).targetReached =
        true := by
      have hpos := h.pendingResultCount_pos
      simp only [DrainCall.retarget, h.maxCount]
      exact decide_eq_true ⟨hpos, hreached⟩
    exact if_pos htarget
  rw [hbegin] at hrun
  cases hanswers : round.answers with
  | nil =>
    rw [hanswers] at hrun
    cases hrun
    rfl
  | cons answer answers =>
    rw [hanswers] at hrun
    cases hrun

theorem Drained.draining {seen : List (TaskResult D)} {yielded : Nat}
    {early polled : List (NodeId × TaskResult D)}
    (h : Drained d yielded seen early polled d') {call' : DrainCall}
    (hcall : d'.call = some call') (hbetween : d'.betweenRounds = true) :
    Draining d' call' := by
  obtain ⟨hgoing, -, hpending⟩ := h.goes call' hcall
  have hpoll : call'.toPoll = [] := by
    rw [DrainState.betweenRounds, hcall] at hbetween
    exact List.isEmpty_iff.mp hbetween
  exact ⟨h.settled, hcall, hgoing.maxCount, hgoing.taskIds, hpoll,
    hpending hpoll⟩

/-! ### Rounds that bring results -/

def Brings (d : DrainState V D) (round : DrainRound D) (taskId : TaskId) :
    Prop :=
  taskId ∈ d.session.bufferedTaskIds ∨
    taskId ∈ round.results.map TaskResult.taskId

instance (taskId : TaskId) : Decidable (Brings d round taskId) :=
  inferInstanceAs (Decidable (_ ∨ _))

/-- The round brings a result of no pending task, or one of every pending task
and, where the buffer has as many as are pending, no second one of a task. -/
def AllAtOnce (d : DrainState V D) (round : DrainRound D) : Prop :=
  (∀ taskId ∈ d.session.pendingTaskIds, ¬Brings d round taskId) ∨
    (∀ taskId ∈ d.session.pendingTaskIds, Brings d round taskId) ∧
      (entryIds (d.session.waiting.take d.session.pendingResultCount)).Nodup

instance : Decidable (AllAtOnce d round) :=
  inferInstanceAs (Decidable (_ ∨ _ ∧ _))

variable {taskId : TaskId}

theorem mem_waiting_iff {s : Session V D} :
    taskId ∈ entryIds s.waiting ↔
      taskId ∈ s.bufferedTaskIds ∧ taskId ∈ s.pendingTaskIds := by
  simp only [entryIds, Session.waiting, Session.bufferedTaskIds, List.mem_map,
    List.mem_filter, decide_eq_true_eq]
  constructor
  · rintro ⟨entry, ⟨hentry, hpending⟩, rfl⟩
    exact ⟨⟨entry, hentry, rfl⟩, hpending⟩
  · rintro ⟨⟨entry, hentry, rfl⟩, hpending⟩
    exact ⟨entry, ⟨hentry, hpending⟩, rfl⟩

variable {early polled : List (NodeId × TaskResult D)} {yielded : Nat}

section

variable (h : Drained d yielded round.results early polled d')

include h

theorem Drained.brings (hmem : taskId ∈ entryIds (early ++ polled)) :
    taskId ∈ d.session.pendingTaskIds ∧ Brings d round taskId := by
  rw [entryIds_append] at hmem
  rcases List.mem_append.mp hmem with hearly | hpolled
  · rw [h.buffered] at hearly
    have hwaiting : taskId ∈ entryIds d.session.waiting :=
      ((List.take_sublist _ _).map _).subset hearly
    obtain ⟨hbuffered, hpending⟩ := mem_waiting_iff.mp hwaiting
    exact ⟨hpending, Or.inl hbuffered⟩
  · obtain ⟨hpending, -, hseen⟩ := h.polled_fresh taskId hpolled
    exact ⟨hpending, Or.inr hseen⟩

theorem Drained.notPending_of_brings {call' : DrainCall}
    (hcall : d'.call = some call') (hbrings : Brings d round taskId) :
    taskId ∉ d'.session.pendingTaskIds := by
  obtain ⟨-, hemptied, -⟩ := h.goes call' hcall
  rcases hbrings with hbuffered | hseen
  · intro hstill
    have hpending := ((h.pending taskId).mp hstill).1
    exact hemptied.waiting taskId
      (mem_waiting_iff.mpr ⟨hbuffered, hpending⟩) hstill
  · exact hemptied.seen taskId hseen

theorem Drained.pending_ne_empty
    (hfew : (entryIds (early ++ polled)).toFinset.card <
      d.session.pendingResultCount) : d'.session.pendingTaskIds ≠ ∅ := by
  obtain ⟨taskId, hpending, hnot⟩ :=
    Finset.exists_mem_notMem_of_card_lt_card hfew
  intro hnone
  have hstill := (h.pending taskId).mpr
    ⟨hpending, fun hmem => hnot (List.mem_toFinset.mpr hmem)⟩
  rw [hnone] at hstill
  cases hstill

end

theorem card_entryIds_le (entries : List (NodeId × TaskResult D)) :
    (entryIds entries).toFinset.card ≤ entries.length := by
  have hle := List.toFinset_card_le (entryIds entries)
  rwa [entryIds, List.length_map] at hle

variable (h : Draining d call)

include h

theorem round_behind_yields (hyielded : 0 < call.yielded)
    (hstep : roundStep world d round = some d') :
    d'.session.pendingTaskIds ≠ ∅ ∧ ∀ call', d'.call = some call' →
      Draining d' call' ∧ 0 < call'.yielded := by
  by_cases hbelow : call.yielded < d.session.pendingResultCount
  · obtain ⟨polled, hdrained⟩ := roundStep_drained h hbelow hstep
    refine ⟨hdrained.pending_ne_empty ?_, ?_⟩
    · have hcard := card_entryIds_le (d.session.waiting.take
        (d.session.pendingResultCount - call.yielded) ++ polled)
      have hroom := hdrained.room
      omega
    · intro call' hcall
      have hgoing := (hdrained.goes call' hcall).1
      refine ⟨hdrained.draining hcall (roundStep_eq_some hstep).2, ?_⟩
      rw [hgoing.yielded]
      omega
  · rw [roundStep_reached h (Nat.le_of_not_lt hbelow) hstep]
    refine ⟨h.pending, ?_⟩
    intro call' hcall
    cases hcall

theorem round_idle (hyielded : call.yielded = 0)
    (hidle : ∀ taskId ∈ d.session.pendingTaskIds, ¬Brings d round taskId)
    (hstep : roundStep world d round = some d') :
    ∃ call', Draining d' call' ∧ call'.yielded = 0 ∧
      d'.delivered = d.delivered ∧
      d'.session.pendingTaskIds = d.session.pendingTaskIds := by
  have hpos := h.pendingResultCount_pos
  obtain ⟨polled, hdrained⟩ := roundStep_drained h (by omega) hstep
  generalize d.session.waiting.take _ = early at hdrained
  have hnothing : early ++ polled = [] := by
    rw [List.eq_nil_iff_forall_not_mem]
    intro entry hentry
    obtain ⟨hpending, hbrings⟩ := hdrained.brings
      (List.mem_map.mpr ⟨entry, hentry, rfl⟩)
    exact hidle _ hpending hbrings
  have hsame : d'.session.pendingTaskIds = d.session.pendingTaskIds := by
    ext taskId
    rw [hdrained.pending, hnothing]
    simp [entryIds]
  have hdelivered := hdrained.delivered
  rw [hnothing, List.append_nil] at hdelivered
  cases hcall : d'.call with
  | none =>
    rcases hdrained.ends hcall with hfull | hnone
    · rw [hnothing, List.length_nil] at hfull
      omega
    · exact absurd (hsame ▸ hnone) h.pending
  | some call' =>
    have hgoing := (hdrained.goes call' hcall).1
    refine ⟨call', hdrained.draining hcall (roundStep_eq_some hstep).2, ?_,
      hdelivered, hsame⟩
    rw [hgoing.yielded, hnothing, List.length_nil]
    omega

theorem round_complete (hyielded : call.yielded = 0)
    (hall : ∀ taskId ∈ d.session.pendingTaskIds, Brings d round taskId)
    (hnodup : (entryIds
      (d.session.waiting.take d.session.pendingResultCount)).Nodup)
    (hstep : roundStep world d round = some d') :
    d'.call = none ∧ d'.session.pendingTaskIds = ∅ := by
  have hpos := h.pendingResultCount_pos
  obtain ⟨polled, hdrained⟩ := roundStep_drained h (by omega) hstep
  rw [hyielded, Nat.sub_zero] at hdrained
  generalize d.session.waiting.take _ = early at hdrained hnodup
  cases hcall : d'.call with
  | some call' =>
    have hnone : d'.session.pendingTaskIds = ∅ := by
      rw [Finset.eq_empty_iff_forall_notMem]
      intro taskId hstill
      have hpending := ((hdrained.pending taskId).mp hstill).1
      exact hdrained.notPending_of_brings hcall (hall taskId hpending) hstill
    exact absurd hnone (hdrained.draining hcall
      (roundStep_eq_some hstep).2).pending
  | none =>
    refine ⟨rfl, ?_⟩
    rcases hdrained.ends hcall with hfull | hnone
    · -- As many distinct pending tasks were yielded as there are.
      have hdistinct : (entryIds (early ++ polled)).Nodup := by
        rw [entryIds_append]
        apply List.Nodup.append hnodup hdrained.polled_nodup
        intro taskId hearly hpolled
        exact (hdrained.polled_fresh taskId hpolled).2.1 hearly
      have hsubset : (entryIds (early ++ polled)).toFinset ⊆
          d.session.pendingTaskIds := by
        intro taskId hmem
        exact (hdrained.brings (List.mem_toFinset.mp hmem)).1
      have hcard : d.session.pendingTaskIds.card ≤
          (entryIds (early ++ polled)).toFinset.card := by
        rw [List.toFinset_card_of_nodup hdistinct, entryIds, List.length_map]
        have hcount : d.session.pendingTaskIds.card =
            d.session.pendingResultCount := rfl
        omega
      have heq := Finset.eq_of_subset_of_card_le hsubset hcard
      rw [Finset.eq_empty_iff_forall_notMem]
      intro taskId hstill
      obtain ⟨hpending, hnot⟩ := (hdrained.pending taskId).mp hstill
      rw [← heq] at hpending
      exact hnot (List.mem_toFinset.mp hpending)
    · exact hnone

theorem round_partial (hyielded : call.yielded = 0) (hpart : ¬AllAtOnce d round)
    (hstep : roundStep world d round = some d') :
    d'.session.pendingTaskIds ≠ ∅ ∧ ∀ call', d'.call = some call' →
      Draining d' call' ∧ 0 < call'.yielded := by
  have hpos := h.pendingResultCount_pos
  obtain ⟨polled, hdrained⟩ := roundStep_drained h (by omega) hstep
  rw [hyielded, Nat.sub_zero] at hdrained
  obtain ⟨hsome, hmissing⟩ := not_or.mp hpart
  generalize d.session.waiting.take _ = early at hdrained hmissing
  constructor
  · by_cases hall : ∀ taskId ∈ d.session.pendingTaskIds, Brings d round taskId
    · apply hdrained.pending_ne_empty
      have htwice : ¬(entryIds (early ++ polled)).Nodup := by
        intro hdistinct
        rw [entryIds_append] at hdistinct
        exact hmissing ⟨hall, (List.nodup_append.mp hdistinct).1⟩
      have hfewer : (entryIds (early ++ polled)).toFinset.card ≠
          (entryIds (early ++ polled)).length := fun heq =>
        htwice (Multiset.toFinset_card_eq_card_iff_nodup.mp heq)
      have hcard := card_entryIds_le (early ++ polled)
      have hroom := hdrained.room
      rw [entryIds, List.length_map] at hfewer
      simp only [entryIds] at hcard ⊢
      omega
    · push Not at hall
      obtain ⟨taskId, hpending, habsent⟩ := hall
      intro hnone
      have hstill := (hdrained.pending taskId).mpr
        ⟨hpending, fun hmem => habsent (hdrained.brings hmem).2⟩
      rw [hnone] at hstill
      cases hstill
  · intro call' hcall
    refine ⟨hdrained.draining hcall (roundStep_eq_some hstep).2, ?_⟩
    push Not at hsome
    obtain ⟨taskId, hpending, hbrings⟩ := hsome
    have hgone := hdrained.notPending_of_brings hcall hbrings
    rw [(hdrained.goes call' hcall).1.yielded]
    have htaken : taskId ∈ entryIds (early ++ polled) := by
      by_contra hnot
      exact hgone ((hdrained.pending taskId).mpr ⟨hpending, hnot⟩)
    have hlength := List.length_pos_of_mem htaken
    rw [entryIds, List.length_map] at hlength
    omega

end

/-! ### Whole calls -/

section

variable {world : World V D} {d last : DrainState V D} {call : DrainCall}

theorem pending_behind_yields :
    ∀ (rounds : List (DrainRound D)) {d : DrainState V D} {call : DrainCall},
      Draining d call → 0 < call.yielded →
      runLabels (roundStep world) d rounds = some last →
      last.session.pendingTaskIds ≠ ∅ := by
  intro rounds
  induction rounds with
  | nil =>
    intro d call h _ hrun
    cases hrun
    exact h.pending
  | cons round rounds ih =>
    intro d call h hyielded hrun
    rw [runLabels] at hrun
    split at hrun
    · cases hrun
    · next d' hstep =>
      obtain ⟨hpending, hgoes⟩ := round_behind_yields h hyielded hstep
      cases hcall : d'.call with
      | none =>
        cases rounds with
        | nil =>
          cases hrun
          exact hpending
        | cons next rounds =>
          rw [runLabels, roundStep_of_returned hcall] at hrun
          cases hrun
      | some call' =>
        obtain ⟨hnext, hmore⟩ := hgoes call' hcall
        exact ih hnext hmore hrun

theorem returned_complete_iff :
    ∀ (rounds : List (DrainRound D)) {d : DrainState V D} {call : DrainCall},
      Draining d call → call.yielded = 0 →
      runLabels (roundStep world) d rounds = some last → last.call = none →
      (last.session.pendingTaskIds = ∅ ↔
        checkedRun (roundStep world) AllAtOnce d rounds = some last) := by
  intro rounds
  induction rounds with
  | nil =>
    intro d call h _ hrun hreturned
    cases hrun
    rw [h.calls] at hreturned
    cases hreturned
  | cons round rounds ih =>
    intro d call h hyielded hrun hreturned
    rw [runLabels] at hrun
    split at hrun
    · cases hrun
    next d' hstep =>
    rw [checkedRun]
    have hends : d'.call = none → rounds = [] ∧ last = d' := by
      intro hcall
      cases rounds with
      | nil =>
        cases hrun
        exact ⟨rfl, rfl⟩
      | cons next rounds =>
        rw [runLabels, roundStep_of_returned hcall] at hrun
        cases hrun
    by_cases hatOnce : AllAtOnce d round
    · rw [if_pos hatOnce, hstep]
      rcases hatOnce with hidle | ⟨hall, hnodup⟩
      · obtain ⟨call', hnext, hzero, -, -⟩ := round_idle h hyielded hidle hstep
        exact ih hnext hzero hrun hreturned
      · obtain ⟨hcall, hnone⟩ := round_complete h hyielded hall hnodup hstep
        obtain ⟨rfl, rfl⟩ := hends hcall
        exact iff_of_true hnone rfl
    · rw [if_neg hatOnce]
      obtain ⟨hpending, hgoes⟩ := round_partial h hyielded hatOnce hstep
      refine iff_of_false ?_ (by simp)
      cases hcall : d'.call with
      | none =>
        obtain ⟨-, rfl⟩ := hends hcall
        exact hpending
      | some call' =>
        obtain ⟨hnext, hmore⟩ := hgoes call' hcall
        exact pending_behind_yields rounds hnext hmore hrun

/-- Behind every round the deliveries since the beginning are those of the
tasks that are not pending any more. -/
structure DrainedSince (start d : DrainState V D) : Prop where
  delivered : ∃ taken, d.delivered = start.delivered ++ taken ∧
    ∀ taskId, taskId ∈ d.session.pendingTaskIds ↔
      taskId ∈ start.session.pendingTaskIds ∧ taskId ∉ entryIds taken
  goes : ∀ call, d.call = some call → Draining d call

theorem DrainedSince.round {start d' : DrainState V D} {round : DrainRound D}
    (h : DrainedSince start d) (hstep : roundStep world d round = some d') :
    DrainedSince start d' ∧
    d'.session.pendingTaskIds ⊆ d.session.pendingTaskIds ∧
    (∀ call, d'.call = some call → ∀ taskId, Brings d round taskId →
      taskId ∉ d'.session.pendingTaskIds) := by
  cases hcall : d.call with
  | none =>
    rw [roundStep_of_returned hcall] at hstep
    cases hstep
  | some call =>
    have hdraining := h.goes call hcall
    by_cases hbelow : call.yielded < d.session.pendingResultCount
    · obtain ⟨polled, hdrained⟩ := roundStep_drained hdraining hbelow hstep
      obtain ⟨taken, hdelivered, hpending⟩ := h.delivered
      generalize d.session.waiting.take _ = early at hdrained
      refine ⟨⟨⟨taken ++ (early ++ polled), ?_, ?_⟩, ?_⟩, ?_, ?_⟩
      · rw [hdrained.delivered, hdelivered, List.append_assoc]
      · intro taskId
        rw [hdrained.pending, hpending, entryIds_append taken,
          List.mem_append, not_or, and_assoc]
      · intro call' hcall'
        exact hdrained.draining hcall' (roundStep_eq_some hstep).2
      · exact fun taskId hmem => ((hdrained.pending taskId).mp hmem).1
      · intro call' hcall' taskId hbrings
        exact hdrained.notPending_of_brings hcall' hbrings
    · rw [roundStep_reached hdraining (Nat.le_of_not_lt hbelow) hstep]
      refine ⟨⟨h.delivered, ?_⟩, fun _ hmem => hmem, ?_⟩ <;>
      · intro call' hcall'
        cases hcall'

theorem drainedSince_run {start : DrainState V D} :
    ∀ (rounds : List (DrainRound D)) {d : DrainState V D},
      DrainedSince start d →
      runLabels (roundStep world) d rounds = some last →
      DrainedSince start last ∧ (∀ taskId,
        taskId ∈ last.session.pendingTaskIds →
          taskId ∈ d.session.pendingTaskIds) ∧
      ∀ call, last.call = some call → ∀ taskId,
        (rounds ≠ [] ∧ taskId ∈ d.session.bufferedTaskIds ∨
          ∃ round ∈ rounds, taskId ∈ round.results.map TaskResult.taskId) →
        taskId ∉ last.session.pendingTaskIds := by
  intro rounds
  induction rounds with
  | nil =>
    intro d h hrun
    cases hrun
    refine ⟨h, fun _ hmem => hmem, ?_⟩
    rintro call - taskId (⟨hnone, -⟩ | ⟨round, hround, -⟩)
    · exact absurd rfl hnone
    · cases hround
  | cons round rounds ih =>
    intro d h hrun
    rw [runLabels] at hrun
    split at hrun
    · cases hrun
    next d' hstep =>
    obtain ⟨hnext, hshrink, hgone⟩ := h.round hstep
    obtain ⟨hlast, hshrinks, hlater⟩ := ih hnext hrun
    refine ⟨hlast, fun taskId hmem => hshrink (hshrinks taskId hmem), ?_⟩
    intro call hcall taskId hcame
    have hbrought : Brings d round taskId ∨
        ∃ round ∈ rounds, taskId ∈ round.results.map TaskResult.taskId := by
      rcases hcame with ⟨-, hbuffered⟩ | ⟨other, hother, hresult⟩
      · exact Or.inl (Or.inl hbuffered)
      · rcases List.mem_cons.mp hother with rfl | hrest
        · exact Or.inl (Or.inr hresult)
        · exact Or.inr ⟨other, hrest, hresult⟩
    rcases hbrought with hnow | hrest
    · -- A call that goes on at the end went on behind this round.
      have hgoes : ∃ call', d'.call = some call' := by
        cases hcall' : d'.call with
        | some call' => exact ⟨call', rfl⟩
        | none =>
          cases rounds with
          | nil =>
            cases hrun
            rw [hcall] at hcall'
            cases hcall'
          | cons next rounds =>
            rw [runLabels, roundStep_of_returned hcall'] at hrun
            cases hrun
      obtain ⟨call', hcall'⟩ := hgoes
      exact fun hmem => hgone call' hcall' taskId hnow (hshrinks taskId hmem)
    · exact hlater call hcall taskId (Or.inr hrest)

/-- A drain without a count and a filter of a session with pending tasks, over
any rounds and without the deadline: it has returned when a result of every
pending task has come, and when it returns it has yielded one of each exactly
if every round brought nothing or everything at once. -/
theorem drain_complete_iff (world : World V D) {start last : DrainState V D}
    (hreach : Reachable (drainStep world) .opened start)
    (hpending : start.session.pendingTaskIds.Nonempty) (limit : Int)
    (rounds : List (DrainRound D))
    (hrun : runLabels (roundStep world) (start.openDrain limit) rounds =
      some last) :
    ((∀ taskId ∈ start.session.pendingTaskIds,
        rounds ≠ [] ∧ taskId ∈ start.session.bufferedTaskIds ∨
          ∃ round ∈ rounds, taskId ∈ round.results.map TaskResult.taskId) →
      last.call = none) ∧
    (last.call = none →
      ((∀ taskId ∈ start.session.pendingTaskIds,
          ∃ entry ∈ last.delivered.drop start.delivered.length,
            entry.2.taskId = taskId) ↔
        checkedRun (roundStep world) AllAtOnce (start.openDrain limit)
          rounds = some last)) := by
  have hsettled : start.session.Settled := settled_reachable hreach
  have hdraining : Draining (start.openDrain limit)
      ⟨none, limit, none, 0, 0, 0, []⟩ :=
    ⟨hsettled, rfl, rfl, rfl, rfl, Finset.nonempty_iff_ne_empty.mp hpending⟩
  have hsince : DrainedSince start (start.openDrain limit) := by
    refine ⟨⟨[], by simp [DrainState.openDrain, DrainState.setCall], ?_⟩, ?_⟩
    · intro taskId
      simp [entryIds, DrainState.openDrain, DrainState.setCall]
    · intro call hcall
      cases hcall
      exact hdraining
  obtain ⟨hlast, hshrinks, hgone⟩ := drainedSince_run rounds hsince hrun
  obtain ⟨taken, hdelivered, hstill⟩ := hlast.delivered
  constructor
  · intro hcame
    cases hcall : last.call with
    | none => rfl
    | some call =>
      exfalso
      apply (hlast.goes call hcall).pending
      rw [Finset.eq_empty_iff_forall_notMem]
      intro taskId hmem
      exact hgone call hcall taskId (hcame taskId (hshrinks taskId hmem)) hmem
  · intro hreturned
    rw [← returned_complete_iff rounds hdraining rfl hrun hreturned,
      Finset.eq_empty_iff_forall_notMem, hdelivered, List.drop_left]
    constructor
    · intro hall taskId hmem
      obtain ⟨hwas, hnot⟩ := (hstill taskId).mp hmem
      obtain ⟨entry, hentry, rfl⟩ := hall taskId hwas
      exact hnot (List.mem_map.mpr ⟨entry, hentry, rfl⟩)
    · intro hnone taskId hwas
      have hmem : taskId ∈ entryIds taken := by
        by_contra hnot
        exact hnone taskId ((hstill taskId).mpr ⟨hwas, hnot⟩)
      exact List.mem_map.mp hmem

end

/-! ### Two tasks -/

def twoSubmitted : DrainState Unit Unit :=
  ((drainStep acceptingWorld .opened
    (.submitPayloads [.mapping ∅, .mapping ∅] ["a", "a"])).getD .opened)

theorem reachable_twoSubmitted :
    Reachable (drainStep acceptingWorld) .opened twoSubmitted :=
  .tail (.submitPayloads [.mapping ∅, .mapping ∅] ["a", "a"]) .refl trivial rfl

def pulled (results : List (TaskResult Unit)) : DrainRound Unit :=
  ⟨["a"], [(true, .ok results)]⟩

/-- Both results come in one pull, behind an empty one. -/
theorem two_results_at_once :
    ∃ last : DrainState Unit Unit,
      runLabels (roundStep acceptingWorld) (twoSubmitted.openDrain 100)
        [pulled [], pulled [succeededResult 2, succeededResult 1]] =
          some last ∧
      last.call = none ∧
      ∀ taskId ∈ twoSubmitted.session.pendingTaskIds,
        ∃ entry ∈ last.delivered.drop twoSubmitted.delivered.length,
          entry.2.taskId = taskId := by
  let rounds := [pulled [], pulled [succeededResult 2, succeededResult 1]]
  obtain ⟨last, hlast⟩ : ∃ last, runLabels (roundStep acceptingWorld)
      (twoSubmitted.openDrain 100) rounds = some last := ⟨_, rfl⟩
  obtain ⟨hreturns, hcomplete⟩ := drain_complete_iff acceptingWorld
    reachable_twoSubmitted ⟨1, by decide⟩ 100 rounds hlast
  have hcall : last.call = none := by
    apply hreturns
    intro taskId hmem
    right
    refine ⟨_, List.mem_cons_of_mem _ List.mem_cons_self, ?_⟩
    revert taskId
    decide
  refine ⟨last, hlast, hcall, (hcomplete hcall).mpr ?_⟩
  rw [← hlast]
  rfl

/-- The results come in two pulls: the drain returns behind the first one, and
the second one comes to the next call. -/
theorem second_result_left_behind :
    ∃ last later : DrainState Unit Unit,
      Reachable (drainStep acceptingWorld) .opened twoSubmitted ∧
      runLabels (roundStep acceptingWorld) (twoSubmitted.openDrain 100)
        [pulled [succeededResult 1], ⟨["a"], []⟩] = some last ∧
      last.call = none ∧ 2 ∈ twoSubmitted.session.pendingTaskIds ∧
      entryIds last.delivered = [1] ∧
      runLabels (roundStep acceptingWorld) (last.openDrain 100)
        [pulled [succeededResult 2]] = some later ∧
      entryIds later.delivered = [1, 2] :=
  ⟨_, _, reachable_twoSubmitted, rfl, rfl, by decide, rfl, rfl, rfl⟩

end PycloudParallel.TaskPool
