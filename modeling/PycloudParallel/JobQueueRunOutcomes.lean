import PycloudParallel.JobQueueRefinement

/-!
# What a step of a run does

A step of a run writes a phase or the end of its job, or nothing, and then the
thread goes on, returns or lets an exception out.  The invariants of the queue
need no more of the points of a run than this.
-/

namespace PycloudParallel.JobQueue

variable {V : Type}

/-- `written` is what a run leaves of its job. -/
structure JobState.Ends (job written : JobState V) : Prop where
  jobId : written.jobId = job.jobId
  priority : written.priority = job.priority
  submittedAt : written.submittedAt = job.submittedAt
  enqueueSeq : written.enqueueSeq = job.enqueueSeq
  payload : written.payload = job.payload
  stagedRefIds : written.stagedRefIds = job.stagedRefIds
  terminal : written.status.terminal = true

namespace JobQueueManager

/-- The writes of a step at `point`, by the stage that they lead to. -/
inductive RunWrites (m : JobQueueManager V) (run : RunLocals V)
    (point : RunPoint V) (move : SchedulerMove V) :
    OwnerStage V → JobQueueManager V → Prop
  | nothing : RunWrites m run point move (point.stage run.snapshot) m
  | checkpoint (phase : CheckpointPhase) :
    RunWrites m run point move (point.stage run.snapshot)
      (m.setCheckpoint run.jobId phase)
  | missing (hstage : point.stage run.snapshot = .executing run.snapshot)
      (hentry : m.entry run.jobId = none) :
    RunWrites m run point move (.settled false) m
  | ends {stage : OwnerStage V} {target : JobRef} {job written : JobState V}
      (hstage : point.stage run.snapshot = .executing run.snapshot)
      (hentry : m.entry run.jobId = some (target, job))
      (hends : job.Ends written)
      (hnext : stage = .executing run.snapshot ∨ stage = .settled false ∨
        stage = .settled true ∧ m.pointContained run point move = false) :
    RunWrites m run point move stage (m.writeTerminal run target written)

inductive RunOutcome (m : JobQueueManager V) (tid : ThreadId)
    (run : RunLocals V) (point : RunPoint V) (move : SchedulerMove V) :
    JobQueueManager V → Prop
  | goesOn {mid : JobQueueManager V} {other : RunLocals V}
      {onward : RunPoint V}
      (hwrites : m.RunWrites run point move (onward.stage other.snapshot) mid)
      (hid : other.jobId = run.jobId) (href : other.ref = run.ref) :
    RunOutcome m tid run point move (mid.setPoint tid other onward)
  | returns {mid : JobQueueManager V}
      (hwrites : m.RunWrites run point move (.settled false) mid) :
    RunOutcome m tid run point move (mid.endRun tid run.jobId run.ref)
  | raises {mid : JobQueueManager V} {onward : RunPoint V}
      (hwrites : m.RunWrites run point move (onward.stage run.snapshot) mid)
      (hraises : (m.pointContained run point move = false ∧
          ∀ exc, point ≠ .hooksFailed exc) ∨
        ∃ answer, point = .finallyBlock true ∧ move = .finallyBlock answer) :
    RunOutcome m tid run point move (mid.escape tid run)

variable {m next : JobQueueManager V} {tid : ThreadId} {run : RunLocals V}
  {point : RunPoint V} {move : SchedulerMove V}

theorem RunOutcome.raisesAtEnd {mid : JobQueueManager V}
    (hwrites : m.RunWrites run point move
      ((RunPoint.finallyBlock false).stage run.snapshot) mid)
    (hraises : (m.pointContained run point move = false ∧
        ∀ exc, point ≠ .hooksFailed exc) ∨
      ∃ answer, point = .finallyBlock true ∧ move = .finallyBlock answer) :
    RunOutcome m tid run point move (mid.escape tid run) :=
  .raises hwrites hraises

theorem outcome_setPoint {onward : RunPoint V}
    (hstage : onward.stage run.snapshot = point.stage run.snapshot) :
    m.RunOutcome tid run point move (m.setPoint tid run onward) :=
  .goesOn (hstage ▸ .nothing) rfl rfl

theorem outcome_checkpoint {onward : RunPoint V} (phase : CheckpointPhase)
    (hstage : onward.stage run.snapshot = point.stage run.snapshot) :
    m.RunOutcome tid run point move
      ((m.setCheckpoint run.jobId phase).setPoint tid run onward) :=
  .goesOn (hstage ▸ .checkpoint phase) rfl rfl

theorem outcome_tryCall {hook : HookPoint V} {α : Type}
    {answer : Except PyExc α} {next : α → JobQueueManager V}
    (hnext : ∀ value, m.RunOutcome tid run (.hook hook) move (next value)) :
    m.RunOutcome tid run (.hook hook) move (m.tryCall tid run answer next) := by
  unfold tryCall
  split
  · exact outcome_setPoint rfl
  · exact hnext _

theorem outcome_bareCall {α : Type} {answer : Except PyExc α}
    {next : α → JobQueueManager V}
    (hcontained : m.pointContained run point move = answer.isOk)
    (hpoint : ∀ exc, point ≠ .hooksFailed exc)
    (hnext : ∀ value, m.RunOutcome tid run point move (next value)) :
    m.RunOutcome tid run point move (m.bareCall tid run answer next) := by
  unfold bareCall
  split
  · exact .raises .nothing (.inl ⟨hcontained, hpoint⟩)
  · exact hnext _

theorem outcome_afterStream {hook : HookPoint V}
    (results : List (RenderedResult V)) (state : V) :
    m.RunOutcome tid run (.hook hook) move
      (m.afterStream tid run results state) := by
  unfold afterStream
  split <;> exact outcome_setPoint rfl

theorem outcome_resolveFailedSection (exc : PyExc) (now : Nat)
    (preview : Except PyExc Unit) :
    m.RunOutcome tid run (.resolveFailed exc) (.advance now preview)
      (m.resolveFailedSection tid run exc now) := by
  unfold resolveFailedSection
  split
  · next hentry =>
    exact .raises .nothing (.inl ⟨by simp [pointContained, hentry], nofun⟩)
  · next target job hentry =>
    dsimp only
    split
    · next htext =>
      exact .raisesAtEnd
        (.ends rfl hentry (by constructor <;> rfl) (.inr (.inl rfl)))
        (.inl ⟨by simp [pointContained, htext], nofun⟩)
    · exact .returns
        (.ends rfl hentry (by constructor <;> rfl) (.inr (.inl rfl)))

theorem outcome_missingHooksSection (now : Nat) (preview : Except PyExc Unit) :
    m.RunOutcome tid run .missingHooks (.advance now preview)
      (m.missingHooksSection tid run now preview) := by
  unfold missingHooksSection
  split
  · next hentry => exact .returns (.missing rfl hentry)
  · next target job hentry =>
    dsimp only
    split
    · exact .raisesAtEnd
        (.ends rfl hentry (by constructor <;> rfl) (.inr (.inl rfl)))
        (.inl ⟨by simp [pointContained, hentry, Except.isOk, Except.toBool],
          nofun⟩)
    · exact .returns
        (.ends rfl hentry (by constructor <;> rfl) (.inr (.inl rfl)))

theorem outcome_missingBlobSection (now : Nat) :
    m.RunOutcome tid run .missingBlob move
      (m.missingBlobSection tid run now) := by
  unfold missingBlobSection
  split
  · next hentry => exact .returns (.missing rfl hentry)
  · next target job hentry =>
    exact .returns (.ends rfl hentry (by constructor <;> rfl) (.inr (.inl rfl)))

theorem outcome_writebackSection (results : List (RenderedResult V)) (final : V)
    (now : Nat) (preview : Except PyExc Unit) :
    m.RunOutcome tid run (.hook (.writeback results final)) move
      (m.writebackSection tid run results final now preview) := by
  unfold writebackSection
  split
  · next hentry => exact .goesOn (.missing rfl hentry) rfl rfl
  · next target job hentry =>
    have hterminal : JobStatus.terminal
        (if job.cancelRequested then .cancelled else .succeeded) = true := by
      split <;> rfl
    dsimp only
    split
    · exact .goesOn (.ends rfl hentry ⟨rfl, rfl, rfl, rfl, rfl, rfl, hterminal⟩
        (.inl rfl)) rfl rfl
    · exact .goesOn (.ends rfl hentry ⟨rfl, rfl, rfl, rfl, rfl, rfl, hterminal⟩
        (.inr (.inl rfl))) rfl rfl

theorem outcome_hooksFailedSection (exc : PyExc) (now : Nat)
    (preview : Except PyExc Unit) :
    m.RunOutcome tid run (.hooksFailed exc) (.advance now preview)
      (m.hooksFailedSection tid run exc now preview) := by
  unfold hooksFailedSection
  split
  · next hentry => exact .goesOn (.missing rfl hentry) rfl rfl
  · next target job hentry =>
    dsimp only
    split
    · next htext =>
      exact .goesOn (.ends rfl hentry (by constructor <;> rfl) (.inr (.inr
        ⟨rfl, by simp [pointContained, hentry, htext]⟩))) rfl rfl
    · split
      · exact .goesOn (.ends rfl hentry (by constructor <;> rfl) (.inr (.inr
          ⟨rfl, by simp [pointContained, hentry, Except.isOk,
            Except.toBool]⟩))) rfl rfl
      · exact .goesOn (.ends rfl hentry (by constructor <;> rfl)
          (.inr (.inl rfl))) rfl rfl

theorem outcome_hookStep {hook : HookPoint V}
    (hstep : m.hookStep tid run hook move = some next) :
    m.RunOutcome tid run (.hook hook) move next := by
  unfold hookStep at hstep
  split at hstep
  case h_1 | h_2 | h_3 | h_5 | h_6 | h_10 | h_12 =>
    cases hstep
    exact outcome_tryCall fun _ => outcome_setPoint rfl
  case h_4 | h_7 | h_11 | h_13 =>
    cases hstep
    exact outcome_checkpoint _ rfl
  case h_8 results state answer =>
    cases hstep
    refine outcome_tryCall fun item => ?_
    cases item with
    | none => exact outcome_afterStream results state
    | some item => exact outcome_setPoint rfl
  case h_9 results state index result _ _ =>
    cases hstep
    unfold checkCancelSection
    split
    · exact outcome_afterStream results state
    · exact outcome_setPoint rfl
  case h_14 results final now preview =>
    cases hstep
    exact outcome_writebackSection results final now preview
  case h_15 => cases hstep

theorem outcome_runStep (hstep : m.runStep tid run point move = some next) :
    m.RunOutcome tid run point move next := by
  unfold runStep at hstep
  split at hstep
  case h_1 | h_3 =>
    cases hstep
    exact outcome_checkpoint _ rfl
  case h_2 =>
    split at hstep
    · cases hstep
      exact outcome_setPoint rfl
    · cases hstep
      exact .goesOn .nothing rfl rfl
  case h_4 exc now preview =>
    cases hstep
    exact outcome_resolveFailedSection exc now preview
  case h_5 | h_7 | h_8 =>
    cases hstep
    refine outcome_bareCall rfl nofun fun _ => outcome_setPoint ?_
    split <;> rfl
  case h_6 now preview =>
    cases hstep
    exact outcome_missingHooksSection now preview
  case h_9 now _ =>
    cases hstep
    exact outcome_missingBlobSection now
  case h_10 =>
    cases hstep
    exact outcome_bareCall rfl nofun fun _ => outcome_setPoint rfl
  case h_11 => exact outcome_hookStep hstep
  case h_12 exc now preview =>
    cases hstep
    exact outcome_hooksFailedSection exc now preview
  case h_13 pending answer =>
    cases hstep
    refine outcome_bareCall rfl nofun fun _ => ?_
    cases pending with
    | true => exact .raises .nothing (.inr ⟨answer, rfl, rfl⟩)
    | false => exact .returns .nothing
  case h_14 => cases hstep

end JobQueueManager

end PycloudParallel.JobQueue
