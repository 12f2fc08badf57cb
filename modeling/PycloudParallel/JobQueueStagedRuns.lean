import PycloudParallel.JobQueueStagedRefs

/-!
# The references during a run

A run changes no table and no list of releases.  It makes terminal only the
job that the table has under its id, and as long as no exception leaves it, its
thread looks at that job again.
-/

namespace PycloudParallel.JobQueue

variable {V : Type}

namespace JobQueueManager

variable {m mid next : JobQueueManager V} {tid : ThreadId} {run : RunLocals V}

structure SameHolders (m next : JobQueueManager V) : Prop where
  jobs : next.jobs = m.jobs
  refWork : next.refWork = m.refWork
  closing : next.closing = m.closing
  threads : next.threads = m.threads
  enqueueSeq : next.enqueueSeq = m.enqueueSeq

/-- What changes of jobs may do while nobody moves on: lose the ids that are
being released, and make the objects of `settles` terminal. -/
structure Changes (calls : List RefId) (settles : JobRef → Prop)
    (m next : JobQueueManager V) : Prop extends SameHolders m next where
  objects : ∀ ref changed, next.heap ref = some changed →
    ∃ job, m.heap ref = some job ∧ job.Sheds calls changed ∧
      (changed.status.terminal = true →
        job.status.terminal = true ∨ settles ref)
  present : ∀ ref, next.heap ref = none → m.heap ref = none

variable {calls : List RefId} {settles : JobRef → Prop}

theorem Changes.of_same (hholders : m.SameHolders next)
    (hheap : next.heap = m.heap) : m.Changes calls settles next where
  toSameHolders := hholders
  objects ref job hjob := by
    rw [hheap] at hjob
    exact ⟨job, hjob, .of_same rfl rfl id, .inl⟩
  present ref hnone := by
    rw [hheap] at hnone
    exact hnone

theorem changes_refl (m : JobQueueManager V) : m.Changes calls settles m :=
  .of_same ⟨rfl, rfl, rfl, rfl, rfl⟩ rfl

theorem changes_modifyRef {ref : JobRef} {change : JobState V → JobState V}
    (hsheds : ∀ job, m.heap ref = some job → job.Sheds calls (change job))
    (hterminal : ∀ job, m.heap ref = some job →
      (change job).status.terminal = true →
        job.status.terminal = true ∨ settles ref) :
    m.Changes calls settles (m.modifyRef ref change) := by
  refine ⟨⟨rfl, rfl, rfl, rfl, rfl⟩, ?_, ?_⟩
  · intro other changed hchanged
    by_cases hsame : other = ref
    · subst hsame
      have hmap : (m.heap other).map change = some changed := by
        simpa [modifyRef] using hchanged
      obtain ⟨job, hjob, rfl⟩ := Option.map_eq_some_iff.mp hmap
      exact ⟨job, hjob, hsheds job hjob, hterminal job hjob⟩
    · have hold : m.heap other = some changed := by
        simpa [modifyRef, hsame] using hchanged
      exact ⟨changed, hold, .of_same rfl rfl id, .inl⟩
  · intro other hnone
    by_cases hsame : other = ref
    · subst hsame
      simpa [modifyRef] using hnone
    · simpa [modifyRef, hsame] using hnone

theorem changes_modifyEntry {jobId : JobId} {change : JobState V → JobState V}
    (hsheds : ∀ job : JobState V, job.Sheds calls (change job))
    (hterminal : ∀ job, (change job).status.terminal = job.status.terminal) :
    m.Changes calls settles (m.modifyEntry jobId change) := by
  unfold modifyEntry
  split
  · exact changes_refl m
  · refine changes_modifyRef (fun job _ => hsheds job) fun job _ hchanged => .inl ?_
    rw [← hterminal]
    exact hchanged

theorem changes_setCheckpoint (jobId : JobId) (phase : CheckpointPhase) :
    m.Changes calls settles (m.setCheckpoint jobId phase) :=
  changes_modifyEntry (fun _ => .of_same rfl rfl id) fun _ => rfl

theorem changes_writeTerminal {target : JobRef} {job written : JobState V}
    (hentry : m.entry run.jobId = some (target, job))
    (hpayload : written.payload = job.payload)
    (hstaged : written.stagedRefIds = job.stagedRefIds)
    (hterminal : written.status.terminal = true) :
    m.Changes [] (fun ref => m.jobs.lookup run.jobId = some ref)
      (m.writeTerminal run target written) := by
  obtain ⟨hlookup, hheap⟩ := entry_eq_some.mp hentry
  refine ⟨⟨rfl, rfl, rfl, rfl, rfl⟩, ?_, ?_⟩
  · intro ref changed hchanged
    by_cases hsame : ref = target
    · subst hsame
      have hwritten : written = changed := by simpa [writeTerminal] using hchanged
      subst hwritten
      exact ⟨job, hheap, .of_same hpayload hstaged fun _ => hterminal,
        fun _ => .inr hlookup⟩
    · have hold : m.heap ref = some changed := by
        simpa [writeTerminal, hsame] using hchanged
      exact ⟨changed, hold, .of_same rfl rfl id, .inl⟩
  · intro ref hnone
    by_cases hsame : ref = target
    · subst hsame
      simp [writeTerminal] at hnone
    · simpa [writeTerminal, hsame] using hnone

theorem changes_applyRefWork (work : RefWork) (now : Nat)
    (hcalls : m.controlplaneTarget ≠ "" → ∀ refId ∈ work.releasedIds,
      refId ∈ calls) : m.Changes calls settles (m.applyRefWork work now) := by
  unfold applyRefWork
  split
  · split
    · exact changes_refl m
    · exact changes_modifyEntry (fun _ => .of_same rfl rfl id) fun _ => rfl
  · next jobId refIds =>
    split
    · exact changes_refl m
    · next hopen =>
      have htarget : m.controlplaneTarget ≠ "" := fun hnone => hopen (by simp [hnone])
      refine changes_modifyEntry (fun job => ⟨rfl, id, ?_, ?_⟩) fun _ => rfl
      · intro refId hlisted
        exact (List.mem_filter.mp hlisted).1
      · intro refId hlisted
        by_cases hreleased : refId ∈ refIds
        · exact .inr (hcalls htarget refId hreleased)
        · exact .inl (List.mem_filter.mpr ⟨hlisted, by simpa using hreleased⟩)

theorem changes_releaseJobRefs (ref : JobRef) (now : Nat)
    (hcalls : m.controlplaneTarget ≠ "" → ∀ refId ∈ m.stagedIds ref,
      refId ∈ calls) : m.Changes calls settles (m.releaseJobRefs ref now) := by
  unfold releaseJobRefs
  split
  · exact changes_refl m
  · next job hjob =>
    refine changes_applyRefWork _ now fun htarget refId hlisted =>
      hcalls htarget refId (mem_stagedIds.mpr ⟨job, hjob, hlisted⟩)

def RunChanges (m : JobQueueManager V) (run : RunLocals V)
    (next : JobQueueManager V) : Prop :=
  m.Changes [] (fun ref => m.jobs.lookup run.jobId = some ref) next

/-- The run changes what it may, and its thread goes on with its job unless an
exception leaves the run. -/
def RunsOn (m next : JobQueueManager V) (tid : ThreadId) (run : RunLocals V)
    (raised : Bool) : Prop :=
  ∃ mid phase, m.RunChanges run mid ∧ next = mid.setPhase tid phase ∧
    phase.handsOver = [] ∧ phase.frees = none ∧
    (phase.attends = some run.jobId ∨ raised = true)

variable {raised : Bool}

theorem runsOn_setPoint {other : RunLocals V} (hchanges : m.RunChanges run mid)
    (hsame : other.jobId = run.jobId) (point : RunPoint V) :
    m.RunsOn (mid.setPoint tid other point) tid run raised :=
  ⟨mid, .running other point, hchanges, rfl, rfl, rfl,
    .inl (congrArg some hsame)⟩

theorem runsOn_endRun (hchanges : m.RunChanges run mid) :
    m.RunsOn (mid.endRun tid run.jobId run.ref) tid run raised := by
  refine ⟨mid.logEvent (.returned run.jobId run.ref), .afterRun run.jobId, ?_, rfl,
    rfl, rfl, .inl rfl⟩
  exact ⟨⟨hchanges.jobs, hchanges.refWork, hchanges.closing, hchanges.threads,
    hchanges.enqueueSeq⟩, hchanges.objects, hchanges.present⟩

theorem runsOn_escape (hchanges : m.RunChanges run mid)
    (hraised : raised = true) :
    m.RunsOn (mid.escape tid run) tid run raised := by
  refine ⟨mid.recordEscape run.ref, .exited, ?_, rfl, rfl, rfl, .inr hraised⟩
  exact ⟨⟨hchanges.jobs, hchanges.refWork, hchanges.closing, hchanges.threads,
    hchanges.enqueueSeq⟩, hchanges.objects, hchanges.present⟩

theorem changes_writes {point : RunPoint V} {move : SchedulerMove V}
    {stage : OwnerStage V} (hwrites : m.RunWrites run point move stage mid) :
    m.RunChanges run mid := by
  cases hwrites with
  | nothing | missing _ _ => exact changes_refl m
  | checkpoint phase => exact changes_setCheckpoint run.jobId phase
  | ends _ hentry hends _ =>
    exact changes_writeTerminal hentry hends.payload hends.stagedRefIds
      hends.terminal

theorem raisesOut_of_not_contained {point : RunPoint V}
    {move : SchedulerMove V} (hescapes : m.pointContained run point move = false)
    (hpoint : ∀ exc, point ≠ .hooksFailed exc) :
    m.raisesOut run point move = true := by
  unfold pointContained at hescapes
  split at hescapes
  case h_1 exc _ _ => cases htext : exc.text <;> simp_all [raisesOut]
  case h_2 answer | h_4 answer | h_5 answer | h_6 answer | h_8 _ answer =>
    cases answer with
    | error exc => rfl
    | ok value => cases hescapes
  case h_3 preview =>
    rw [Bool.or_eq_false_iff, Option.isNone_eq_false_iff] at hescapes
    cases preview with
    | error exc => exact hescapes.1
    | ok value => cases hescapes.2
  case h_7 exc _ _ => exact absurd rfl (hpoint exc)
  case h_9 => cases hescapes

theorem runsOn_runStep {point : RunPoint V} {move : SchedulerMove V}
    (hstep : m.runStep tid run point move = some next) :
    m.RunsOn next tid run (m.raisesOut run point move) := by
  cases outcome_runStep hstep with
  | goesOn hwrites hid _ => exact runsOn_setPoint (changes_writes hwrites) hid _
  | returns hwrites => exact runsOn_endRun (changes_writes hwrites)
  | raises hwrites hraises =>
    apply runsOn_escape (changes_writes hwrites)
    obtain ⟨hescapes, hpoint⟩ | ⟨answer, rfl, rfl⟩ := hraises
    · exact raisesOut_of_not_contained hescapes hpoint
    · cases answer <;> rfl

end JobQueueManager

end PycloudParallel.JobQueue
