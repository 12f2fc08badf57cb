import PycloudParallel.JobQueueWaitingOrder

/-!
# The steps follow the waiting order

The public operations and the points of a run, each of which `Follows` the
state before it.
-/

namespace PycloudParallel.JobQueue

variable {V : Type}

namespace JobQueueManager

variable {m next : JobQueueManager V}

theorem follows_detachStaleRunning : m.Follows m.detachStaleRunning := by
  unfold detachStaleRunning
  split
  · exact .refl m
  · split
    · exact .of_same rfl rfl rfl
    · split
      · exact .of_same rfl rfl rfl
      · exact .refl m

theorem follows_ensureSchedulerThread : m.Follows m.ensureSchedulerThread := by
  unfold ensureSchedulerThread
  split
  · exact .refl m
  · split
    · exact .refl m
    · exact .of_same rfl rfl rfl

theorem follows_detachAndEnsure : m.Follows m.detachAndEnsure := by
  unfold detachAndEnsure
  dsimp only
  split
  · exact follows_detachStaleRunning.trans follows_ensureSchedulerThread
  · exact follows_detachStaleRunning

variable {now : Nat} {run : RunLocals V} {tid : ThreadId}

theorem follows_cancelJob {jobId : JobId} {digest : String}
    (hgood : m.ledger.WellFormed)
    (hcancel : m.cancelJob jobId digest now = .ok next) : m.Follows next := by
  unfold cancelJob at hcancel
  split at hcancel
  · cases hcancel
    exact .refl m
  · next ref job hentry =>
    obtain ⟨hlookup, hheap⟩ := entry_eq_some.mp hentry
    have hid : job.jobId = jobId := by
      obtain ⟨found, hfound, hid⟩ := hgood.table_sound jobId ref hlookup
      rw [show m.ledger.objects ref = m.heap ref from rfl, hheap] at hfound
      cases hfound
      exact hid
    split at hcancel
    · cases hcancel
    · split at hcancel
      · cases hcancel
        have hcancelled : m.Follows (m.modifyRef ref fun job =>
            { job with
              status := .cancelled
              finishedAt := some now
              cancelRequested := true }) :=
          follows_modifyRef fun job _ => .of_status ⟨rfl, rfl, rfl, rfl⟩ (by simp)
        refine hcancelled.trans
          (Follows.trans (follows_removeWaitingJob ?_) (.of_same rfl rfl rfl))
        rw [hid]
        have hchanged : (m.modifyRef ref fun job =>
            { job with
              status := .cancelled
              finishedAt := some now
              cancelRequested := true }).entry jobId = some (ref,
            { job with
              status := .cancelled
              finishedAt := some now
              cancelRequested := true }) :=
          entry_eq_some.mpr ⟨hlookup, by simp [modifyRef, hheap]⟩
        simp [pickableId, hchanged, JobState.pickable]
      · cases hcancel
        exact follows_modifyRef fun job _ =>
          ⟨⟨rfl, rfl, rfl, rfl⟩, fun h => by simp [JobState.pickable] at h⟩
      · cases hcancel
        exact .refl m
      · cases hcancel
        exact .refl m
      · cases hcancel
        exact .refl m

theorem follows_start (target : String) : m.Follows (m.start target) := by
  unfold start
  split <;> exact .of_same rfl rfl rfl

theorem follows_closeStep {index : Nat}
    (hstep : m.closeStep index now = some next) : m.Follows next := by
  unfold closeStep at hstep
  split at hstep
  · cases hstep
  · cases hstep
    exact .of_same rfl rfl rfl
  · cases hstep
    exact .of_same rfl rfl rfl
  · cases hstep
    exact .of_same rfl rfl rfl
  · next ref rest _ =>
    cases hstep
    exact (follows_releaseJobRefs ref now).trans (.of_same rfl rfl rfl)
  · cases hstep
    exact .of_same rfl rfl rfl

theorem follows_refWorkStep {index : Nat}
    (hstep : m.refWorkStep index now = some next) : m.Follows next := by
  unfold refWorkStep at hstep
  split at hstep
  · cases hstep
  · next work _ =>
    cases hstep
    have hdrop : m.Follows (m.dropRefWork index) := .of_same rfl rfl rfl
    exact hdrop.trans (follows_applyRefWork work now)

theorem follows_setPoint (tid : ThreadId) (run : RunLocals V)
    (point : RunPoint V) : m.Follows (m.setPoint tid run point) :=
  .of_same rfl rfl rfl

theorem follows_endRun (tid : ThreadId) (jobId : JobId) (ref : JobRef) :
    m.Follows (m.endRun tid jobId ref) :=
  .of_same rfl rfl rfl

theorem follows_escape (tid : ThreadId) (run : RunLocals V) :
    m.Follows (m.escape tid run) :=
  .of_same rfl rfl rfl

theorem follows_writes {point : RunPoint V} {move : SchedulerMove V}
    {stage : OwnerStage V} (hwrites : m.RunWrites run point move stage next) :
    m.Follows next := by
  cases hwrites with
  | nothing | missing _ _ => exact .refl m
  | checkpoint phase => exact follows_setCheckpoint run.jobId phase
  | ends _ hentry hends _ =>
    refine follows_writeTerminal hentry (.of_status ⟨hends.jobId,
      hends.priority, hends.submittedAt, hends.enqueueSeq⟩ fun hwaiting => ?_)
    have hterminal := hends.terminal
    rw [hwaiting] at hterminal
    cases hterminal

theorem follows_runStep {point : RunPoint V} {move : SchedulerMove V}
    (hstep : m.runStep tid run point move = some next) : m.Follows next := by
  cases outcome_runStep hstep with
  | goesOn hwrites _ _ =>
    exact (follows_writes hwrites).trans (follows_setPoint tid _ _)
  | returns hwrites =>
    exact (follows_writes hwrites).trans (follows_endRun tid _ _)
  | raises hwrites _ =>
    exact (follows_writes hwrites).trans (follows_escape tid run)

end JobQueueManager

end PycloudParallel.JobQueue
