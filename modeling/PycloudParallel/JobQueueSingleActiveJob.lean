import PycloudParallel.JobQueueRunRefinement

/-!
# Only one job is RUNNING

As long as the end of the loop does not clear the slot of a RUNNING job and no
submission takes over the id of one, the RUNNING job is the one the slot names
and a single thread owns it.  A thread that outlives `close` and reaches the end
of its loop after a second thread has picked a job breaks this.
-/

namespace PycloudParallel.JobQueue

variable {V : Type}

namespace JobLedger

def EntryNotRunning (ledger : JobLedger V) (jobId : JobId) : Prop :=
  ∀ ref job, ledger.table jobId = some ref → ledger.objects ref = some job →
    job.status ≠ .running

def singlePolicy : LedgerPolicy V where
  store := EntryNotRunning
  tail := fun ledger => ∀ jobId, ledger.slot = some jobId →
    ledger.EntryNotRunning jobId
  raise := True

structure SlotHoldsRunning (ledger : JobLedger V) : Prop where
  listed : ∀ ref job, ledger.objects ref = some job → job.status = .running →
    ledger.table job.jobId = some ref
  slot : ∀ ref job, ledger.objects ref = some job → job.status = .running →
    ledger.slot = some job.jobId

variable {ledger : JobLedger V}

theorem SlotHoldsRunning.none_running (hgood : ledger.SlotHoldsRunning)
    (hslot : ∀ jobId, ledger.slot = some jobId → ledger.EntryNotRunning jobId)
    {ref : JobRef} {job : JobState V} (hobject : ledger.objects ref = some job)
    : job.status ≠ .running := by
  intro hrunning
  exact hslot job.jobId (hgood.slot ref job hobject hrunning) ref job
    (hgood.listed ref job hobject hrunning) hobject hrunning

theorem SlotHoldsRunning.of_none_running
    (hnone : ∀ ref job, ledger.objects ref = some job → job.status ≠ .running) :
    ledger.SlotHoldsRunning :=
  ⟨fun ref job hobject hrunning => absurd hrunning (hnone ref job hobject),
    fun ref job hobject hrunning => absurd hrunning (hnone ref job hobject)⟩

variable (hgood : ledger.SlotHoldsRunning)

include hgood

theorem SlotHoldsRunning.store (job : JobState V)
    (hpolicy : ledger.EntryNotRunning job.jobId)
    (hwaiting : job.status = .waiting) : SlotHoldsRunning { ledger with
      objects := Function.update ledger.objects job.enqueueSeq (some job)
      table := Function.update ledger.table job.jobId (some job.enqueueSeq)
      count := job.enqueueSeq
      log := ledger.log ++ [.submitted job.enqueueSeq] } := by
  constructor
  · intro ref running hobject hrunning
    rcases update_object_cases hobject with ⟨-, rfl⟩ | ⟨-, hold⟩
    · simp [hwaiting] at hrunning
    · have hlisted := hgood.listed ref running hold hrunning
      by_cases hsame : running.jobId = job.jobId
      · rw [hsame] at hlisted
        exact absurd hrunning (hpolicy ref running hlisted hold)
      · simpa [hsame] using hlisted
  · intro ref running hobject hrunning
    rcases update_object_cases hobject with ⟨-, rfl⟩ | ⟨-, hold⟩
    · simp [hwaiting] at hrunning
    · exact hgood.slot ref running hold hrunning

theorem SlotHoldsRunning.ownerUpdate {policy : LedgerPolicy V}
    {next : JobLedger V} {tid : ThreadId} {owner : JobOwner V}
    (hupdate : OwnerUpdate policy ledger tid owner next) :
    next.SlotHoldsRunning := by
  cases hupdate with
  | write run target job written stage _ _ _ _ _ _ _ hterminal =>
    have hnot : written.status ≠ .running := by
      intro hrunning
      simp [hrunning, JobStatus.terminal] at hterminal
    constructor
    · intro ref running hobject hrunning
      rcases update_object_cases hobject with ⟨-, rfl⟩ | ⟨-, hold⟩
      · exact absurd hrunning hnot
      · exact hgood.listed ref running hold hrunning
    · intro ref running hobject hrunning
      rcases update_object_cases hobject with ⟨-, rfl⟩ | ⟨-, hold⟩
      · exact absurd hrunning hnot
      · exact hgood.slot ref running hold hrunning
  | execute | settleMissing | finish | raise | abandon =>
    exact ⟨hgood.listed, hgood.slot⟩

theorem SlotHoldsRunning.update {next : JobLedger V}
    (hupdate : Update singlePolicy ledger next) : next.SlotHoldsRunning := by
  cases hupdate with
  | revise change hrevise =>
    constructor
    · intro ref running hobject hrunning
      obtain ⟨job, hjob, rfl⟩ := Option.map_eq_some_iff.mp hobject
      have hrev := hrevise ref job hjob
      rw [hrev.jobId]
      refine hgood.listed ref job hjob ?_
      rcases hrev.status with hsame | ⟨-, hcancelled⟩
      · rwa [← hsame]
      · simp [hcancelled] at hrunning
    · intro ref running hobject hrunning
      obtain ⟨job, hjob, rfl⟩ := Option.map_eq_some_iff.mp hobject
      have hrev := hrevise ref job hjob
      rw [hrev.jobId]
      refine hgood.slot ref job hjob ?_
      rcases hrev.status with hsame | ⟨-, hcancelled⟩
      · rwa [← hsame]
      · simp [hcancelled] at hrunning
  | clearStale hstale =>
    refine .of_none_running fun ref job hobject => ?_
    refine hgood.none_running ?_ hobject
    intro jobId hslot ref' job' htable hobject' hrunning
    have hterminal := hstale jobId ref' job' hslot htable hobject'
    simp [hrunning, JobStatus.terminal] at hterminal
  | store job hpolicy hfresh hwaiting => exact hgood.store job hpolicy hwaiting
  | drop jobId hslot hterminal =>
    exact .of_none_running fun ref job hobject =>
      hgood.none_running (by simp [hslot]) hobject
  | pick tid ref job running hslot _ htable hobject _ _ hjobId =>
    have hnone : ∀ ref' job', ledger.objects ref' = some job' →
        job'.status ≠ .running :=
      fun _ _ hobject' => hgood.none_running (by simp [hslot]) hobject'
    constructor
    · intro ref' job' hobject' hrunning
      rcases update_object_cases hobject' with ⟨rfl, rfl⟩ | ⟨-, hold⟩
      · rw [hjobId]
        exact htable
      · exact absurd hrunning (hnone ref' job' hold)
    · intro ref' job' hobject' hrunning
      rcases update_object_cases hobject' with ⟨rfl, rfl⟩ | ⟨-, hold⟩
      · rw [hjobId]
      · exact absurd hrunning (hnone ref' job' hold)
  | owner tid owner next _ hownerUpdate => exact hgood.ownerUpdate hownerUpdate
  | tail hpolicy =>
    exact .of_none_running fun ref job hobject =>
      hgood.none_running hpolicy hobject

theorem SlotHoldsRunning.unique {ref ref' : JobRef} {job job' : JobState V}
    (hobject : ledger.objects ref = some job) (hrunning : job.status = .running)
    (hobject' : ledger.objects ref' = some job')
    (hrunning' : job'.status = .running) : ref = ref' := by
  have hslot := hgood.slot ref job hobject hrunning
  rw [hgood.slot ref' job' hobject' hrunning'] at hslot
  have hsame : job'.jobId = job.jobId := Option.some.inj hslot
  have hlisted := hgood.listed ref job hobject hrunning
  rw [← hsame, hgood.listed ref' job' hobject' hrunning'] at hlisted
  exact (Option.some.inj hlisted).symm

end JobLedger

namespace JobQueueManager

def entryRunning (m : JobQueueManager V) (jobId : JobId) : Bool :=
  (m.entry jobId).any fun item => item.2.status == .running

/-- Whether the thread has not finished the `_run_job` of a RUNNING job. -/
def activeOwner (m : JobQueueManager V) (tid : ThreadId) : Bool :=
  (m.threads[tid]?.bind SchedulerPhase.owner).any fun owner =>
    (m.heap owner.ref).any fun job => job.status == .running

/-- The condition for a single active job: an accepted submission does not
name a RUNNING job, and a thread at the end of its loop does not find a RUNNING
job in the slot. -/
def keepsRunningJob (m : JobQueueManager V) (label : JobQueueLabel V) : Bool :=
  match label with
  | .submit payload generatedId _ _ _ =>
    !(checkPayload payload).isOk ||
      !m.entryRunning (submittedJobId payload generatedId)
  | .scheduler tid _ =>
    match m.threads[tid]? with
    | some .tail => !m.runningJobId.any m.entryRunning
    | _ => true
  | _ => true

variable {m : JobQueueManager V}

theorem entryNotRunning_of_entryRunning {jobId : JobId}
    (hentry : m.entryRunning jobId = false) :
    m.ledger.EntryNotRunning jobId := by
  intro ref job htable hobject hrunning
  have hsome : m.entry jobId = some (ref, job) :=
    entry_eq_some.mpr ⟨htable, hobject⟩
  simp [entryRunning, hsome, hrunning] at hentry

theorem singlePolicy_allows {label : JobQueueLabel V}
    (hkeeps : m.keepsRunningJob label = true) :
    JobLedger.singlePolicy.Allows m label := by
  refine ⟨?_, ?_, fun hno => absurd trivial hno⟩
  · rintro payload generatedId generatedClient digest now rfl hcheck
    refine entryNotRunning_of_entryRunning ?_
    simp only [keepsRunningJob, hcheck, Except.isOk, Except.toBool, Bool.not_true,
      Bool.false_or, Bool.not_eq_true'] at hkeeps
    simpa only [entryRunning, entry_detachStaleRunning] using hkeeps
  · rintro tid move rfl hphase jobId hslot
    refine entryNotRunning_of_entryRunning ?_
    have hrunning : m.runningJobId = some jobId := hslot
    simpa [keepsRunningJob, hphase, hrunning] using hkeeps

theorem activeOwner_spec {tid : ThreadId} (hactive : m.activeOwner tid = true) :
    ∃ owner, m.ledger.owners tid = some owner ∧
      ∃ job, m.ledger.objects owner.ref = some job ∧ job.status = .running := by
  obtain ⟨owner, howner, hany⟩ := (Option.any_eq_true _ _).mp hactive
  obtain ⟨job, hobject, hrunning⟩ := (Option.any_eq_true _ _).mp hany
  exact ⟨owner, howner, job, hobject, by simpa using hrunning⟩

/-- In every run in which no RUNNING job loses its entry to a submission or
its slot to the end of a loop, any two RUNNING jobs are one, and at most one
thread that has not finished its `_run_job` owns a RUNNING job. -/
theorem single_active_job {retentionSec authTtlSec stagedRefTtlSec : Nat}
    (hrun : GuardedRun step (fun m label => m.keepsRunningJob label = true)
      (init retentionSec authTtlSec stagedRefTtlSec) m) :
    (∀ ref ref' job job', m.heap ref = some job → job.status = .running →
        m.heap ref' = some job' → job'.status = .running → ref = ref') ∧
      ∀ tid tid', m.activeOwner tid = true → m.activeOwner tid' = true →
        tid = tid' := by
  obtain ⟨hwell, hgood⟩ := run_invariant
    (fun _ _ hkeeps => singlePolicy_allows hkeeps) JobLedger.SlotHoldsRunning
    (by constructor <;> simp [ledger, init])
    (fun _ _ _ hgood hupdate => hgood.update hupdate) hrun
  refine ⟨?_, ?_⟩
  · intro ref ref' job job' hobject hrunning hobject' hrunning'
    exact hgood.unique hobject hrunning hobject' hrunning'
  · intro tid tid' hactive hactive'
    obtain ⟨owner, howner, job, hobject, hrunning⟩ := activeOwner_spec hactive
    obtain ⟨owner', howner', job', hobject', hrunning'⟩ :=
      activeOwner_spec hactive'
    exact hwell.owner_unique tid tid' owner owner' howner howner'
      (hgood.unique hobject hrunning hobject' hrunning')

/-- A first job runs and is closed over, a second thread is started and picks
a second job after the first thread is through with its loop. -/
def restartRun : List (JobQueueLabel Nat) :=
  [.start "infocenter:7000", submitHookJob "first"] ++ untilBlob 0 ++
    afterBlob 0 ++ [advance 0, advance 0, advance 0, .close 0, .closeStep 0 0,
      .start "infocenter:7000", submitHookJob "second", advance 1]

theorem single_active_job_restartRun :
    ∃ m, checkedRun step (fun m label => keepsRunningJob m label = true)
        (init 3600 86400 86400) restartRun = some m ∧
      (∃ job, m.heap 2 = some job ∧ job.status = .running) ∧
      ∀ ref job, m.heap ref = some job → job.status = .running → ref = 2 := by
  have hrun := guardedRun_of_checkedRun restartRun
    (show checkedRun step (fun m label => keepsRunningJob m label = true)
      (init 3600 86400 86400) restartRun = some _ from rfl)
  refine ⟨_, rfl, ⟨_, rfl, rfl⟩, ?_⟩
  intro ref job hobject hrunning
  exact (single_active_job hrun).1 ref 2 job _ hobject hrunning rfl rfl

/-- The first thread outlives `close`, whose join is bounded.  The second
thread clears the terminal first job and picks the second one; the first thread
reaches the end of its loop, clears the slot of the second job and picks the
third. -/
def overtakenTailRun : List (JobQueueLabel Nat) :=
  [.start "infocenter:7000", submitHookJob "first"] ++ untilBlob 0 ++
    afterBlob 0 ++ [advance 0, advance 0, .close 0, .closeStep 0 0,
      .start "infocenter:7000", submitHookJob "second", submitHookJob "third",
      advance 1, advance 0, advance 0]

theorem two_active_jobs_overtakenTail :
    ∃ m : JobQueueManager Nat, Reachable step (init 3600 86400 86400) m ∧
      m.activeOwner 0 = true ∧ m.activeOwner 1 = true ∧
      (m.heap 2).map (·.status) = some .running ∧
      (m.heap 3).map (·.status) = some .running :=
  ⟨_, reachable_of_runLabels overtakenTailRun rfl, by decide,
    by decide, rfl, rfl⟩

end JobQueueManager

end PycloudParallel.JobQueue
