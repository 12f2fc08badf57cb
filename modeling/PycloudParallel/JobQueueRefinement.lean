import PycloudParallel.JobQueueLedger

/-!
# The job queue keeps a ledger

Every step of the job queue is a sequence of ledger updates.  The end of the
loop and the storing of a submission use the disputed moves of the ledger, and
an exception leaves a run only at the steps that `errorsContained` excludes.
-/

namespace PycloudParallel.JobQueue

open OrderedDict

variable {V : Type}

namespace JobQueueManager

/-- The exceptions that `_run_job` and `_run_job_with_hooks` do not contain:
those of the calls in front of the `try` block, of `str(exc)` and the preview
refresh inside a handler, and of the `finally` clause; a failed resolution
also needs the entry to be there. -/
def pointContained (m : JobQueueManager V) (run : RunLocals V)
    (point : RunPoint V) (move : SchedulerMove V) : Bool :=
  match point, move with
  | .resolveFailed exc, .advance _ _ =>
    exc.text.isSome && (m.entry run.jobId).isSome
  | .chooseMode, .readFields answer => answer.isOk
  | .missingHooks, .advance _ preview =>
    (m.entry run.jobId).isNone || preview.isOk
  | .sourceMode, .readFields answer => answer.isOk
  | .readBlob, .readBlob answer => answer.isOk
  | .readFields, .readFields answer => answer.isOk
  | .hooksFailed exc, .advance _ preview =>
    (m.entry run.jobId).isNone || (exc.text.isSome && preview.isOk)
  | .finallyBlock _, .finallyBlock answer => answer.isOk
  | _, _ => true

/-- No exception leaves `_run_job` or, with a job to run, `_loop`: besides
`pointContained`, a section of the loop that gets past its wait finds an
integer staging lifetime in every waiting job with staged references, and the
maintenance executor takes the reference work found together with a job. -/
def errorsContained (m : JobQueueManager V) (label : JobQueueLabel V) : Bool :=
  match label with
  | .scheduler tid move =>
    match m.threads[tid]? with
    | some .loop =>
      m.stop || m.waitForRunning.isNone || m.jobStates.all fun item =>
        !item.2.pickable || item.2.stagedRefIds.isEmpty ||
          item.2.payload.stagingTtlSec.isSome
    | some (.dispatch (_ :: _) (some _)) => !m.maintenanceShutdown
    | some (.running run point) => m.pointContained run point move
    | _ => true
  | _ => true

end JobQueueManager

structure LedgerPolicy.Allows (policy : LedgerPolicy V) (m : JobQueueManager V)
    (label : JobQueueLabel V) : Prop where
  submit : ∀ payload generatedId generatedClient digest now,
    label = .submit payload generatedId generatedClient digest now →
      JobQueueManager.checkPayload payload = .ok () → policy.store m.detachStaleRunning.ledger
        (JobQueueManager.submittedJobId payload generatedId)
  tail : ∀ tid move, label = .scheduler tid move →
    m.threads[tid]? = some .tail → policy.tail m.ledger
  contained : ¬policy.raise → m.errorsContained label = true

def JobLedger.Updates (policy : LedgerPolicy V) :
    JobLedger V → JobLedger V → Prop :=
  Relation.ReflTransGen (JobLedger.Update policy)

variable {ledger next : JobLedger V}

theorem JobLedger.Updates.of_eq {policy : LedgerPolicy V} (heq : next = ledger)
    : JobLedger.Updates policy ledger next := by
  subst heq
  exact .refl

theorem JobLedger.Updates.single {policy : LedgerPolicy V}
    (hupdate : JobLedger.Update policy ledger next) :
    JobLedger.Updates policy ledger next :=
  Relation.ReflTransGen.single hupdate

theorem JobLedger.Updates.trans {policy : LedgerPolicy V} {mid : JobLedger V}
    (hfirst : JobLedger.Updates policy ledger mid)
    (hsecond : JobLedger.Updates policy mid next) :
    JobLedger.Updates policy ledger next :=
  Relation.ReflTransGen.trans hfirst hsecond

theorem JobLedger.WellFormed.updates {policy : LedgerPolicy V}
    (hgood : ledger.WellFormed)
    (hupdates : JobLedger.Updates policy ledger next) : next.WellFormed :=
  invariant_of_reflTransGen JobLedger.WellFormed
    (fun _ _ h hupdate => h.update hupdate) hupdates hgood

namespace JobQueueManager

variable {policy : LedgerPolicy V} {m : JobQueueManager V}

variable {jobId : JobId} {ref : JobRef} {tid : ThreadId}
  {next : JobQueueManager V} {now : Nat}

theorem entry_eq_some {job : JobState V} :
    m.entry jobId = some (ref, job) ↔
      m.jobs.lookup jobId = some ref ∧ m.heap ref = some job := by
  simp only [entry, Option.bind_eq_some_iff, Option.map_eq_some_iff,
    Prod.mk.injEq]
  constructor
  · rintro ⟨found, hlookup, old, hold, rfl, rfl⟩
    exact ⟨hlookup, hold⟩
  · rintro ⟨hlookup, hheap⟩
    exact ⟨ref, hlookup, job, hheap, rfl, rfl⟩

theorem table_eq_none_of_entry (hgood : m.ledger.WellFormed)
    (hentry : m.entry jobId = none) : m.ledger.table jobId = none := by
  by_contra hsome
  obtain ⟨ref, href⟩ := Option.ne_none_iff_exists'.mp hsome
  obtain ⟨job, hjob, -⟩ := hgood.table_sound jobId ref href
  have : m.entry jobId = some (ref, job) := entry_eq_some.mpr ⟨href, hjob⟩
  simp [hentry] at this

theorem mem_jobStates {job : JobState V} :
    (ref, job) ∈ m.jobStates ↔ ∃ jobId, m.entry jobId = some (ref, job) := by
  unfold jobStates
  simp only [List.mem_filterMap, mem_values, entry_eq_some]
  constructor
  · rintro ⟨found, ⟨jobId, hlookup⟩, hmap⟩
    obtain ⟨old, hold, heq⟩ := Option.map_eq_some_iff.mp hmap
    cases heq
    exact ⟨jobId, hlookup, hold⟩
  · rintro ⟨jobId, hlookup, hheap⟩
    exact ⟨ref, ⟨jobId, hlookup⟩, by simp [hheap]⟩

/-! ## The local changes -/

theorem ledger_owners {phase : SchedulerPhase V}
    (hphase : m.threads[tid]? = some phase) :
    m.ledger.owners tid = phase.owner := by
  simp [ledger, hphase]

theorem ledger_setPhase {old : SchedulerPhase V}
    (hphase : m.threads[tid]? = some old) (phase : SchedulerPhase V) :
    (m.setPhase tid phase).ledger =
      { m.ledger with
        owners := Function.update m.ledger.owners tid phase.owner } := by
  have hlt : tid < m.threads.length := (List.getElem?_eq_some_iff.mp hphase).1
  unfold setPhase ledger
  congr 1
  funext tid'
  by_cases heq : tid' = tid
  · subst heq
    simp [hlt]
  · simp [heq, Ne.symm heq]

theorem ledger_setPhase_same {old phase : SchedulerPhase V}
    (hphase : m.threads[tid]? = some old) (howner : phase.owner = old.owner) :
    (m.setPhase tid phase).ledger = m.ledger := by
  rw [ledger_setPhase hphase, howner, ← ledger_owners hphase,
    Function.update_eq_self]

theorem ledger_spawnThread : m.spawnThread.ledger = m.ledger := by
  unfold spawnThread ledger
  congr 1
  funext tid
  rcases Nat.lt_trichotomy tid m.threads.length with hlt | heq | hgt
  · simp [List.getElem?_append_left hlt]
  · subst heq
    simp [SchedulerPhase.owner]
  · have hnone : (m.threads ++ [.loop])[tid]? = none := by
      simp
      omega
    have hold : m.threads[tid]? = none := by
      simp
      omega
    rw [hnone, hold]

theorem ledger_ensureSchedulerThread :
    m.ensureSchedulerThread.ledger = m.ledger := by
  unfold ensureSchedulerThread
  split
  · rfl
  · split
    · rfl
    · exact ledger_spawnThread

theorem revises_refl (job : JobState V) : job.Revises job :=
  ⟨rfl, rfl, rfl, rfl, .inl rfl⟩

theorem updates_modifyRef {change : JobState V → JobState V}
    (hrevise : ∀ job, m.heap ref = some job → job.Revises (change job)) :
    JobLedger.Updates policy m.ledger (m.modifyRef ref change).ledger := by
  have hupdate : JobLedger.Update policy m.ledger _ :=
    .revise (fun ref' job => if ref' = ref then change job else job) (by
      intro ref' job hjob
      by_cases heq : ref' = ref
      · subst heq
        simpa using hrevise job hjob
      · simpa [heq] using revises_refl job)
  have heq : (m.modifyRef ref change).ledger =
      { m.ledger with
        objects := fun ref' => (m.ledger.objects ref').map
          fun job => if ref' = ref then change job else job } := by
    unfold modifyRef ledger
    congr 1
    funext ref'
    by_cases heq : ref' = ref
    · subst heq
      simp
    · simp [heq]
  rw [heq]
  exact .single hupdate

theorem updates_modifyEntry {change : JobState V → JobState V}
    (hrevise : ∀ job : JobState V, job.Revises (change job)) :
    JobLedger.Updates policy m.ledger (m.modifyEntry jobId change).ledger := by
  unfold modifyEntry
  split
  · exact .of_eq rfl
  · exact updates_modifyRef fun job _ => hrevise job

theorem updates_setCheckpoint (jobId : JobId) (phase : CheckpointPhase) :
    JobLedger.Updates policy m.ledger (m.setCheckpoint jobId phase).ledger :=
  updates_modifyEntry fun _ => ⟨rfl, rfl, rfl, rfl, .inl rfl⟩

@[simp] theorem modifyEntry_threads (jobId : JobId)
    (change : JobState V → JobState V) :
    (m.modifyEntry jobId change).threads = m.threads := by
  unfold modifyEntry modifyRef
  split <;> rfl

@[simp] theorem setCheckpoint_threads (jobId : JobId) (phase : CheckpointPhase) :
    (m.setCheckpoint jobId phase).threads = m.threads :=
  modifyEntry_threads jobId _

theorem slotStale_of_entry {current : JobId} (hslot : m.runningJobId = some current)
    (hstale : ∀ ref job, m.entry current = some (ref, job) →
      job.status.terminal = true) : m.ledger.SlotStale := by
  intro jobId ref job hrunning htable hobject
  have heq : current = jobId := by
    rw [show m.ledger.slot = m.runningJobId from rfl, hslot] at hrunning
    exact Option.some.inj hrunning
  subst heq
  exact hstale ref job (entry_eq_some.mpr ⟨htable, hobject⟩)

theorem updates_detachStaleRunning :
    JobLedger.Updates policy m.ledger m.detachStaleRunning.ledger := by
  unfold detachStaleRunning
  split
  · exact .of_eq rfl
  · next current hslot =>
    split
    · next hentry =>
      exact .single (.clearStale (slotStale_of_entry hslot (by simp [hentry])))
    · next found job hentry =>
      split
      · next hterminal =>
        exact .single (.clearStale (slotStale_of_entry hslot (by
          intro ref job' hentry'
          rw [hentry] at hentry'
          cases hentry'
          exact hterminal)))
      · exact .of_eq rfl

theorem entry_detachStaleRunning (jobId : JobId) :
    m.detachStaleRunning.entry jobId = m.entry jobId := by
  unfold detachStaleRunning
  split
  · rfl
  · split
    · rfl
    · split <;> rfl

/-! ## The public operations -/

theorem ledger_storeJob (job : JobState V) :
    (m.storeJob job).ledger =
      { m.ledger with
        objects := Function.update m.ledger.objects job.enqueueSeq (some job)
        table := Function.update m.ledger.table job.jobId (some job.enqueueSeq)
        count := job.enqueueSeq
        log := m.ledger.log ++ [.submitted job.enqueueSeq] } := by
  unfold storeJob ledger
  congr 1
  funext jobId
  by_cases heq : jobId = job.jobId
  · subst heq
    simp
  · simp [lookup_set, heq]

theorem updates_submitSection (payload : JobPayload V)
    (generatedId generatedClient digest : String) (now : Nat)
    (hpolicy : policy.store m.detachStaleRunning.ledger
      (submittedJobId payload generatedId)) :
    JobLedger.Updates policy m.ledger
      (m.submitSection payload generatedId generatedClient digest now).ledger := by
  unfold submitSection
  rw [ledger_ensureSchedulerThread]
  refine updates_detachStaleRunning.trans (.single ?_)
  change JobLedger.Update policy _ (storeJob _ _).ledger
  rw [ledger_storeJob]
  exact .store _ hpolicy rfl rfl rfl rfl

theorem updates_detachAndEnsure :
    JobLedger.Updates policy m.ledger m.detachAndEnsure.ledger := by
  unfold detachAndEnsure
  dsimp only
  split
  · rw [ledger_ensureSchedulerThread]
    exact updates_detachStaleRunning
  · exact updates_detachStaleRunning

theorem updates_cancelJob {digest : String}
    (hcancel : m.cancelJob jobId digest now = .ok next) :
    JobLedger.Updates policy m.ledger next.ledger := by
  unfold cancelJob at hcancel
  split at hcancel
  · cases hcancel
    exact .of_eq rfl
  · next ref job hentry =>
    split at hcancel
    · cases hcancel
    · split at hcancel
      · next hwaiting =>
        cases hcancel
        refine updates_modifyRef fun old hold => ?_
        rw [(entry_eq_some.mp hentry).2] at hold
        cases hold
        exact ⟨rfl, rfl, rfl, rfl, .inr ⟨hwaiting, rfl⟩⟩
      · cases hcancel
        exact updates_modifyRef fun _ _ => ⟨rfl, rfl, rfl, rfl, .inl rfl⟩
      all_goals
        cases hcancel
        exact .of_eq rfl

theorem ledger_reorderJob (jobId : JobId) (direction : MoveDirection) :
    (m.reorderJob jobId direction).ledger = m.ledger := by
  unfold reorderJob
  split
  · rfl
  · split
    · rfl
    · cases direction <;> dsimp only <;> split <;> rfl

theorem ledger_start (target : String) : (m.start target).ledger = m.ledger := by
  unfold start
  split
  · rfl
  · rw [ledger_spawnThread]
    rfl

theorem closeJob_revises (now : Nat) (job : JobState V) :
    job.Revises (closeJob now job) := by
  unfold closeJob
  split
  · next hwaiting => exact ⟨rfl, rfl, rfl, rfl, .inr ⟨hwaiting, rfl⟩⟩
  · exact revises_refl job

theorem ledger_stopAndCancel (now : Nat) :
    (m.stopAndCancel now).ledger =
      { m.ledger with
        objects := fun ref => (m.ledger.objects ref).map fun job =>
          if ref ∈ OrderedDict.values m.jobs then closeJob now job else job } := by
  unfold stopAndCancel ledger
  congr 1
  funext ref
  dsimp only
  split <;> simp

theorem updates_closeBegin (now : Nat) :
    JobLedger.Updates policy m.ledger (m.closeBegin now).ledger := by
  have hstop : JobLedger.Updates policy m.ledger (m.stopAndCancel now).ledger := by
    rw [ledger_stopAndCancel]
    refine .single (.revise (fun ref job =>
      if ref ∈ OrderedDict.values m.jobs then closeJob now job else job) ?_)
    intro ref job _
    split
    · exact closeJob_revises now job
    · exact revises_refl job
  refine hstop.trans ?_
  change JobLedger.Updates policy _ (m.stopAndCancel now).cancelRunning.ledger
  unfold cancelRunning
  split
  · exact .of_eq rfl
  · exact updates_modifyEntry fun _ => ⟨rfl, rfl, rfl, rfl, .inl rfl⟩

theorem updates_applyRefWork (work : RefWork) (now : Nat) :
    JobLedger.Updates policy m.ledger (m.applyRefWork work now).ledger := by
  unfold applyRefWork
  split <;> split
  · exact .of_eq rfl
  · exact updates_modifyEntry fun _ => ⟨rfl, rfl, rfl, rfl, .inl rfl⟩
  · exact .of_eq rfl
  · exact updates_modifyEntry fun _ => ⟨rfl, rfl, rfl, rfl, .inl rfl⟩

@[simp] theorem applyRefWork_threads (work : RefWork) (now : Nat) :
    (m.applyRefWork work now).threads = m.threads := by
  unfold applyRefWork
  split <;> split <;> simp

theorem updates_releaseJobRefs (ref : JobRef) (now : Nat) :
    JobLedger.Updates policy m.ledger (m.releaseJobRefs ref now).ledger := by
  unfold releaseJobRefs
  split
  · exact .of_eq rfl
  · exact updates_applyRefWork _ now

@[simp] theorem releaseJobRefs_threads (ref : JobRef) (now : Nat) :
    (m.releaseJobRefs ref now).threads = m.threads := by
  unfold releaseJobRefs
  split <;> simp

theorem updates_closeStep {index : Nat}
    (hstep : m.closeStep index now = some next) :
    JobLedger.Updates policy m.ledger next.ledger := by
  unfold closeStep at hstep
  split at hstep
  · cases hstep
  · cases hstep
    exact .of_eq rfl
  · cases hstep
    exact .of_eq rfl
  · cases hstep
    exact .of_eq rfl
  · next ref rest _ =>
    cases hstep
    exact updates_releaseJobRefs ref now
  · cases hstep
    exact .of_eq rfl

theorem updates_refWorkStep {index : Nat}
    (hstep : m.refWorkStep index now = some next) :
    JobLedger.Updates policy m.ledger next.ledger := by
  unfold refWorkStep at hstep
  split at hstep
  · cases hstep
  · next work _ =>
    cases hstep
    exact updates_applyRefWork (m := m.dropRefWork index) work now

/-! ## The section of the scheduler loop -/

theorem waitForRunning_spec (policy : LedgerPolicy V) {ready : JobQueueManager V}
    (hready : m.waitForRunning = some ready) :
    ready = m.clearRunning ∧
      JobLedger.Updates policy m.ledger ready.ledger := by
  unfold waitForRunning at hready
  split at hready
  · next hslot =>
    cases hready
    refine ⟨?_, .of_eq rfl⟩
    unfold clearRunning
    rw [← hslot]
  · next current hslot =>
    split at hready
    · next hentry =>
      cases hready
      exact ⟨rfl, .single (.clearStale
        (slotStale_of_entry hslot (by simp [hentry])))⟩
    · next found job hentry =>
      split at hready
      · next hterminal =>
        cases hready
        refine ⟨rfl, .single (.clearStale (slotStale_of_entry hslot ?_))⟩
        intro ref job' hentry'
        rw [hentry] at hentry'
        cases hentry'
        exact hterminal
      · cases hready

theorem ledger_popJob (jobId : JobId) :
    (m.popJob jobId).ledger =
      { m.ledger with table := Function.update m.ledger.table jobId none } := by
  unfold popJob removeWaitingJob setWaitingOrder ledger
  congr 1
  funext jobId'
  by_cases heq : jobId' = jobId
  · subst heq
    simp
  · simp [heq]

theorem dropJobs_spec (policy : LedgerPolicy V) (gone : List (JobId × JobRef))
    (hslot : m.runningJobId = none)
    (hterminal : ∀ item ∈ gone, ∀ ref job, m.jobs.lookup item.1 = some ref →
      m.heap ref = some job → job.status.terminal = true) :
    JobLedger.Updates policy m.ledger (m.dropJobs gone).ledger ∧
      (m.dropJobs gone).runningJobId = none ∧
      (m.dropJobs gone).threads = m.threads := by
  induction gone generalizing m with
  | nil => exact ⟨.of_eq rfl, hslot, rfl⟩
  | cons item rest ih =>
    obtain ⟨jobId, ref⟩ := item
    have hfirst : JobLedger.Updates policy m.ledger (m.popJob jobId).ledger := by
      rw [ledger_popJob]
      exact .single (.drop jobId hslot (hterminal (jobId, ref) (by simp)))
    obtain ⟨hupdates, hnone, hthreads⟩ := ih (m := m.popJob jobId) hslot (by
      intro item hmem ref' job hlookup hheap
      refine hterminal item (by simp [hmem]) ref' job ?_ hheap
      exact of_lookup_erase hlookup)
    exact ⟨hfirst.trans hupdates, hnone, hthreads⟩

theorem cleanupJobs_spec (policy : LedgerPolicy V) (now : Nat) (hslot : m.runningJobId = none) :
    JobLedger.Updates policy m.ledger (m.cleanupJobs now).1.ledger ∧
      (m.cleanupJobs now).1.runningJobId = none ∧
      (m.cleanupJobs now).1.threads = m.threads := by
  refine dropJobs_spec policy (m.expiredJobs now) hslot ?_
  intro item hmem ref job hlookup hheap
  obtain ⟨hitem, hexpired⟩ := List.mem_filter.mp hmem
  have hfound : m.jobs.lookup item.1 = some item.2 :=
    mem_items.mp hitem
  rw [hfound] at hlookup
  cases hlookup
  simp only [hheap, expired, Bool.and_eq_true] at hexpired
  exact hexpired.1

theorem pickNextJob_spec :
    (∃ order, m.pickNextJob.1 = m.setWaitingOrder order) ∧
      ∀ ref job, m.pickNextJob.2 = some (ref, job) →
        job.pickable = true ∧ ∃ jobId, m.entry jobId = some (ref, job) := by
  unfold pickNextJob
  dsimp only
  split
  · next item hfound =>
    refine ⟨⟨_, rfl⟩, ?_⟩
    rintro ref job hitem
    cases hitem
    obtain ⟨jobId, -, hfilter⟩ := List.exists_of_findSome?_eq_some hfound
    obtain ⟨hentry, hpickable⟩ := Option.filter_eq_some_iff.mp hfilter
    exact ⟨hpickable, jobId, hentry⟩
  · split
    · exact ⟨⟨_, rfl⟩, by simp⟩
    · next item rest hsorted =>
      refine ⟨⟨_, rfl⟩, ?_⟩
      rintro ref job hitem
      cases hitem
      have hmem : (ref, job) ∈ m.pruneWaitingOrder.sortedWaiting := by
        rw [hsorted]
        simp
      have hmem' : (ref, job) ∈ m.pruneWaitingOrder.waitingJobs :=
        (List.perm_insertionSort _ _).mem_iff.mp hmem
      obtain ⟨hjobs, hpickable⟩ := List.mem_filter.mp hmem'
      exact ⟨hpickable, mem_jobStates.mp hjobs⟩

theorem ledger_markPicked (ref : JobRef) (job : JobState V) (now : Nat)
    (hheap : m.heap ref = some job) :
    (m.markPicked ref job.jobId now).ledger =
      { m.ledger with
        objects := Function.update m.ledger.objects ref
          (some { job with
            status := .running
            startedAt := some now
            checkpoint := some .preparing })
        slot := some job.jobId
        log := m.ledger.log ++ [.picked ref] } := by
  unfold markPicked modifyRef removeWaitingJob setWaitingOrder ledger
  simp [hheap]

theorem updates_loopSection (now : Nat) (hgood : m.ledger.WellFormed)
    (hphase : m.threads[tid]? = some .loop) :
    JobLedger.Updates policy m.ledger (m.loopSection tid now).ledger := by
  unfold loopSection
  split
  · exact .of_eq (ledger_setPhase_same hphase rfl)
  split
  · exact .of_eq rfl
  next ready hready =>
  obtain ⟨hreadyEq, hreadyUpdates⟩ := waitForRunning_spec policy hready
  have hreadySlot : ready.runningJobId = none := by
    rw [hreadyEq]
    rfl
  have hreadyThreads : ready.threads = m.threads := by
    rw [hreadyEq]
    rfl
  obtain ⟨hcleanUpdates, hcleanSlot, hcleanThreads⟩ :=
    cleanupJobs_spec policy now hreadySlot
  have hsofar := hreadyUpdates.trans hcleanUpdates
  generalize ready.cleanupJobs now = cleanup at *
  obtain ⟨cleaned, releases⟩ := cleanup
  have hcleanPhase : cleaned.threads[tid]? = some .loop := by
    rw [hcleanThreads, hreadyThreads]
    exact hphase
  refine hsofar.trans ?_
  dsimp only at *
  split
  · exact .of_eq (ledger_setPhase_same hcleanPhase rfl)
  next touches _ =>
  obtain ⟨⟨order, horder⟩, hpicked⟩ := pickNextJob_spec (m := cleaned)
  split
  · next pruned hnone =>
    rw [hnone] at horder
    subst horder
    exact .of_eq (ledger_setPhase_same (m := cleaned.setWaitingOrder order)
      hcleanPhase rfl)
  · next pruned ref job hsome =>
    rw [hsome] at horder hpicked
    subst horder
    obtain ⟨hpickable, jobId, hentry⟩ := hpicked ref job rfl
    obtain ⟨hlookup, hheap⟩ := entry_eq_some.mp hentry
    have hcleanGood : cleaned.ledger.WellFormed := hgood.updates hsofar
    have hid : job.jobId = jobId := by
      obtain ⟨job', hjob', hid⟩ := hcleanGood.table_sound jobId ref hlookup
      rw [show cleaned.ledger.objects ref = some job from hheap] at hjob'
      cases hjob'
      exact hid
    subst hid
    have hwaiting : job.status = .waiting := by
      simp only [JobState.pickable, Bool.and_eq_true, beq_iff_eq] at hpickable
      exact hpickable.1
    rw [ledger_setPhase
        (m := (cleaned.setWaitingOrder order).markPicked ref job.jobId now)
        hcleanPhase,
      ledger_markPicked (m := cleaned.setWaitingOrder order) ref job now hheap]
    exact .single (.pick tid ref job _ hcleanSlot
      (ledger_owners hcleanPhase) hlookup hheap hwaiting rfl rfl rfl rfl rfl)

end JobQueueManager

end PycloudParallel.JobQueue
