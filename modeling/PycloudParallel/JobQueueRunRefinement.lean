import PycloudParallel.JobQueueRunOutcomes

/-!
# The scheduler threads keep the ledger

The second half of the refinement: the points of a run, the phases of a
scheduler thread and the whole step of the job queue.
-/

namespace PycloudParallel.JobQueue

variable {V : Type}

namespace JobQueueManager

variable {policy : LedgerPolicy V} {m : JobQueueManager V}

/-! ## The run of one job -/

variable {tid : ThreadId} {run : RunLocals V} {point : RunPoint V}
  {phase : SchedulerPhase V} {move : SchedulerMove V} {next : JobQueueManager V}

theorem updates_finish {owner : JobOwner V}
    (howner : m.ledger.owners tid = some owner)
    (hstage : owner.stage = .settled false) (hphase : tid < m.threads.length) :
    JobLedger.Updates policy m.ledger
      (m.endRun tid owner.jobId owner.ref).ledger := by
  have hview : (m.endRun tid owner.jobId owner.ref).ledger =
      { m.ledger with
        owners := Function.update m.ledger.owners tid none
        log := m.ledger.log ++ [.returned owner.jobId owner.ref] } :=
    ledger_setPhase (m := m.logEvent _) (List.getElem?_eq_getElem hphase) _
  rw [hview]
  exact .single (.owner tid owner _ howner (.finish hstage))

theorem updates_raise {owner : JobOwner V}
    (howner : m.ledger.owners tid = some owner) (href : owner.ref = run.ref)
    (hraise : policy.raise) (hphase : tid < m.threads.length) :
    JobLedger.Updates policy m.ledger (m.escape tid run).ledger := by
  have hview : (m.escape tid run).ledger =
      { m.ledger with
        owners := Function.update m.ledger.owners tid none
        escaped := m.ledger.escaped ++ [owner.ref] } := by
    rw [href]
    exact ledger_setPhase (m := m.recordEscape _)
      (List.getElem?_eq_getElem hphase) _
  rw [hview]
  exact .single (.owner tid owner _ howner (.raise hraise))

theorem threads_setPoint (hphase : m.threads[tid]? = some phase) :
    (m.setPoint tid run point).threads[tid]? = some (.running run point) := by
  have hlt : tid < m.threads.length := (List.getElem?_eq_some_iff.mp hphase).1
  simp [setPoint, setPhase, hlt]

theorem updates_settled_endRun (base : JobQueueManager V)
    (hphase : m.threads[tid]? = some phase)
    (hupdates : JobLedger.Updates policy base.ledger
      (m.setPoint tid run (.finallyBlock false)).ledger) :
    JobLedger.Updates policy base.ledger
      (m.endRun tid run.jobId run.ref).ledger := by
  have hset : (m.setPoint tid run (.finallyBlock false)).threads[tid]? = _ :=
    threads_setPoint hphase
  have hfinish : JobLedger.Updates policy _ _ :=
    updates_finish (ledger_owners hset) rfl (List.getElem?_eq_some_iff.mp hset).1
  have hview : (endRun (m.setPoint tid run (.finallyBlock false)) tid
      run.jobId run.ref).ledger = (m.endRun tid run.jobId run.ref).ledger := by
    simp [endRun, setPoint, setPhase, logEvent, ledger]
  rw [← hview]
  exact hupdates.trans hfinish

theorem updates_settled_escape (base : JobQueueManager V)
    (hphase : m.threads[tid]? = some phase) (hraise : policy.raise)
    (hupdates : JobLedger.Updates policy base.ledger
      (m.setPoint tid run point).ledger) :
    JobLedger.Updates policy base.ledger (m.escape tid run).ledger := by
  have hset : (m.setPoint tid run point).threads[tid]? = _ :=
    threads_setPoint hphase
  have hescape : JobLedger.Updates policy _
      (escape (m.setPoint tid run point) tid run).ledger :=
    updates_raise (ledger_owners hset) rfl hraise
      (List.getElem?_eq_some_iff.mp hset).1
  have hview : (escape (m.setPoint tid run point) tid run).ledger =
      (m.escape tid run).ledger := by
    simp [escape, recordEscape, setPoint, setPhase, ledger]
  rw [← hview]
  exact hupdates.trans hescape

variable {mid : JobQueueManager V}

theorem threads_writes {stage : OwnerStage V}
    (hwrites : m.RunWrites run point move stage mid) :
    mid.threads = m.threads := by
  cases hwrites with
  | nothing => rfl
  | checkpoint phase => simp
  | missing _ _ | ends _ _ _ _ => rfl

theorem updates_writes {other : RunLocals V} {onward : RunPoint V}
    (hgood : m.ledger.WellFormed)
    (hphase : m.threads[tid]? = some (.running run point))
    (hraise : m.pointContained run point move = false → policy.raise)
    (hwrites : m.RunWrites run point move (onward.stage other.snapshot) mid)
    (hid : other.jobId = run.jobId) (href : other.ref = run.ref) :
    JobLedger.Updates policy m.ledger
      (mid.setPoint tid other onward).ledger := by
  have howner := ledger_owners hphase
  have hkept : mid.threads[tid]? = some (.running run point) := by
    rw [threads_writes hwrites, hphase]
  have hsame : onward.stage other.snapshot = point.stage run.snapshot →
      (mid.setPoint tid other onward).ledger = mid.ledger := fun hstage =>
    ledger_setPhase_same hkept (by simp only [SchedulerPhase.owner, hid, href,
      hstage])
  generalize hstage : onward.stage other.snapshot = stage at hwrites hsame
  cases hwrites with
  | nothing => exact .of_eq (hsame rfl)
  | checkpoint phase =>
    rw [hsame rfl]
    exact updates_setCheckpoint run.jobId phase
  | missing hexecuting hentry =>
    rw [setPoint, ledger_setPhase hphase, SchedulerPhase.owner, hid, href,
      hstage]
    refine .single (.owner tid _ _ howner
      (.settleMissing ?_ (table_eq_none_of_entry hgood hentry)))
    simp [hexecuting]
  | ends hexecuting hentry hends hnext =>
    obtain ⟨hlookup, hheap⟩ := entry_eq_some.mp hentry
    rw [setPoint, ledger_setPhase hkept, SchedulerPhase.owner, hid, href,
      hstage]
    exact .single (.owner tid _ _ howner (.write run _ _ _ _ hexecuting rfl rfl
      hlookup hheap hends.jobId hends.payload hends.terminal
      (hnext.imp_right (.imp_right (.imp_right hraise)))))

theorem updates_runStep (hsound : m.ledger.Sound policy)
    (hphase : m.threads[tid]? = some (.running run point))
    (hcontained : ¬policy.raise → m.pointContained run point move = true)
    (hstep : m.runStep tid run point move = some next) :
    JobLedger.Updates policy m.ledger next.ledger := by
  have hgood := hsound.wellFormed
  have hraise : m.pointContained run point move = false → policy.raise := by
    intro hescapes
    by_contra hno
    rw [hcontained hno] at hescapes
    cases hescapes
  cases outcome_runStep hstep with
  | goesOn hwrites hid href =>
    exact updates_writes hgood hphase hraise hwrites hid href
  | returns hwrites =>
    have hkept := (congrArg (·[tid]?) (threads_writes hwrites)).trans hphase
    exact updates_settled_endRun m hkept
      (updates_writes hgood hphase hraise hwrites rfl rfl)
  | raises hwrites hraises =>
    have hkept := (congrArg (·[tid]?) (threads_writes hwrites)).trans hphase
    refine updates_settled_escape m hkept ?_
      (updates_writes hgood hphase hraise hwrites rfl rfl)
    obtain ⟨hescapes, -⟩ | ⟨_, rfl, -⟩ := hraises
    · exact hraise hescapes
    · exact hsound.pending tid _ (ledger_owners hphase) rfl

/-! ## The whole step -/

theorem updates_dispatchStep {work : List RefWork}
    {next : Option (JobId × JobRef)}
    (hphase : m.threads[tid]? = some (.dispatch work next))
    (hcontained : ¬policy.raise → work ≠ [] → next.isSome = true →
      m.maintenanceShutdown = false) :
    JobLedger.Updates policy m.ledger (m.dispatchStep tid work next).ledger := by
  unfold dispatchStep
  split
  · next first rest =>
    split
    · next hshutdown =>
      cases next with
      | none => exact .of_eq (ledger_setPhase_same hphase rfl)
      | some item =>
        have hraise : policy.raise := by
          by_contra hno
          have := hcontained hno (by simp) rfl
          simp [hshutdown] at this
        rw [ledger_setPhase hphase]
        exact .single (.owner tid _ _ (ledger_owners hphase) (.abandon hraise))
    · refine .of_eq (ledger_setPhase_same (m := m.pushRefWork first) hphase ?_)
      cases next <;> rfl
  · split <;> exact .of_eq (ledger_setPhase_same hphase rfl)

theorem updates_enterRun {jobId : JobId} {ref : JobRef}
    (hgood : m.ledger.WellFormed)
    (hphase : m.threads[tid]? = some (.enter jobId ref)) :
    JobLedger.Updates policy m.ledger (m.enterRun tid jobId ref).ledger := by
  have howner := ledger_owners hphase
  unfold enterRun
  split
  · next hentry =>
    have hview : (m.endRun tid jobId ref).ledger =
        { m.ledger with
          owners := Function.update m.ledger.owners tid none
          log := m.ledger.log ++ [.returned jobId ref] } :=
      ledger_setPhase (m := m.logEvent _) hphase _
    have hsettle : JobLedger.Update policy m.ledger
        { m.ledger with
          owners := Function.update m.ledger.owners tid
            (some ⟨jobId, ref, .settled false⟩) } :=
      .owner tid _ _ howner
        (.settleMissing (by simp) (table_eq_none_of_entry hgood hentry))
    have hfinish : JobLedger.Update policy
        { m.ledger with
          owners := Function.update m.ledger.owners tid
            (some ⟨jobId, ref, .settled false⟩) } _ :=
      .owner tid ⟨jobId, ref, .settled false⟩ _ (by simp) (.finish rfl)
    rw [Function.update_idem] at hfinish
    rw [hview]
    exact (JobLedger.Updates.single hsettle).trans (.single hfinish)
  · next target job hentry =>
    obtain ⟨hlookup, hheap⟩ := entry_eq_some.mp hentry
    rw [ledger_setPhase (m := m.logEvent _) hphase]
    exact .single (.owner tid _ _ howner (.execute target job rfl hlookup hheap))

@[simp] theorem detachStaleRunning_threads :
    m.detachStaleRunning.threads = m.threads := by
  unfold detachStaleRunning
  split
  · rfl
  · split
    · rfl
    · split <;> rfl

theorem ensureSchedulerThread_threads (hphase : m.threads[tid]? = some phase) :
    m.ensureSchedulerThread.threads[tid]? = some phase := by
  have hlt : tid < m.threads.length := (List.getElem?_eq_some_iff.mp hphase).1
  unfold ensureSchedulerThread spawnThread
  split
  · exact hphase
  · split
    · exact hphase
    · simpa [List.getElem?_append_left hlt] using hphase

theorem detachAndEnsure_threads (hphase : m.threads[tid]? = some phase) :
    m.detachAndEnsure.threads[tid]? = some phase := by
  unfold detachAndEnsure
  dsimp only
  split
  · exact ensureSchedulerThread_threads (by simpa using hphase)
  · simpa using hphase

theorem updates_afterRunStep {jobId : JobId}
    (hphase : m.threads[tid]? = some (.afterRun jobId)) :
    JobLedger.Updates policy m.ledger (m.afterRunStep tid jobId).ledger := by
  have hlooked := detachAndEnsure_threads hphase
  have hlook : JobLedger.Updates policy m.ledger m.detachAndEnsure.ledger :=
    updates_detachAndEnsure
  refine hlook.trans ?_
  unfold afterRunStep getJob
  dsimp only
  split
  · exact .of_eq (ledger_setPhase_same hlooked rfl)
  · split <;> exact .of_eq (ledger_setPhase_same hlooked rfl)

theorem updates_schedulerStep (hsound : m.ledger.Sound policy)
    (hallows : policy.Allows m (.scheduler tid move))
    (hstep : m.schedulerStep tid move = some next) :
    JobLedger.Updates policy m.ledger next.ledger := by
  have hcontained := hallows.contained
  unfold schedulerStep at hstep
  split at hstep
  · cases hstep
  next phase hphase =>
  simp only [errorsContained, hphase] at hcontained
  split at hstep
  case h_1 now _ =>
    cases hstep
    exact updates_loopSection now hsound.wellFormed hphase
  case h_2 work target _ _ =>
    cases hstep
    refine updates_dispatchStep hphase ?_
    intro hno hwork htarget
    have hallowed := hcontained hno
    cases work with
    | nil => exact absurd rfl hwork
    | cons first rest =>
      cases target with
      | none => cases htarget
      | some item => simpa using hallowed
  case h_3 =>
    cases hstep
    exact updates_enterRun hsound.wellFormed hphase
  case h_4 run point move => exact updates_runStep hsound hphase hcontained hstep
  case h_5 =>
    cases hstep
    exact updates_afterRunStep hphase
  case h_6 ref now _ =>
    cases hstep
    have hkept : (m.releaseJobRefs ref now).threads[tid]? =
        some (.releaseRefs ref) := by simpa using hphase
    exact (updates_releaseJobRefs ref now).trans
      (.of_eq (ledger_setPhase_same hkept rfl))
  case h_7 =>
    cases hstep
    have htail : JobLedger.Updates policy m.ledger m.clearRunning.ledger :=
      .single (.tail (hallows.tail tid _ rfl hphase))
    exact htail.trans
      (.of_eq (ledger_setPhase_same (m := m.clearRunning) hphase rfl))
  case h_8 =>
    cases hstep
    exact .of_eq (ledger_setPhase_same hphase rfl)
  case h_9 => cases hstep

theorem step_updates {label : JobQueueLabel V} (hsound : m.ledger.Sound policy)
    (hallows : policy.Allows m label) (hstep : m.step label = some next) :
    JobLedger.Updates policy m.ledger next.ledger := by
  cases label with
  | submit payload generatedId generatedClient digest now =>
    have hstore := hallows.submit _ _ _ _ _ rfl
    obtain ⟨text, -, rfl⟩ | ⟨hcheck, rfl⟩ := step_submit hstep
    · exact .of_eq rfl
    · exact updates_submitSection payload generatedId generatedClient digest
        now (hstore hcheck)
  | getJob | summary =>
    cases hstep
    exact updates_detachAndEnsure
  | cancel jobId digest now =>
    simp only [step] at hstep
    split at hstep
    · next hcancel =>
      cases hstep
      exact updates_cancelJob hcancel
    · cases hstep
      exact .of_eq rfl
  | reorder jobId direction =>
    cases hstep
    exact .of_eq (ledger_reorderJob jobId direction)
  | start target =>
    cases hstep
    exact .of_eq (ledger_start target)
  | close now =>
    cases hstep
    exact updates_closeBegin now
  | closeStep index now => exact updates_closeStep hstep
  | refWork index now => exact updates_refWorkStep hstep
  | scheduler tid move => exact updates_schedulerStep hsound hallows hstep

theorem init_sound (policy : LedgerPolicy V) (retentionSec authTtlSec stagedRefTtlSec : Nat) :
    ((init retentionSec authTtlSec stagedRefTtlSec :
      JobQueueManager V).ledger).Sound policy := by
  refine ⟨⟨?_, ?_, ?_, ?_⟩, ?_⟩
  · intro jobId ref htable
    cases htable
  · intro ref job hjob
    cases hjob
  · intro tid owner howner
    cases howner
  · intro tid tid' owner owner' howner
    cases howner
  · intro tid owner howner
    cases howner

theorem run_updates {ok : JobQueueManager V → JobQueueLabel V → Prop}
    (hok : ∀ m label, ok m label → policy.Allows m label)
    {retentionSec authTtlSec stagedRefTtlSec : Nat}
    (hrun : GuardedRun step ok (init retentionSec authTtlSec stagedRefTtlSec)
      m) :
    JobLedger.Updates policy
      (init retentionSec authTtlSec stagedRefTtlSec : JobQueueManager V).ledger
      m.ledger :=
  hrun.simulates (JobLedger.Sound policy) ledger
    (init_sound policy retentionSec authTtlSec stagedRefTtlSec)
    (fun _ _ hsound hupdate => hsound.update hupdate)
    fun _ label _ hsound hallowed hstep =>
      step_updates hsound (hok _ label hallowed) hstep

theorem run_invariant {ok : JobQueueManager V → JobQueueLabel V → Prop}
    (hok : ∀ m label, ok m label → policy.Allows m label)
    (good : JobLedger V → Prop) {retentionSec authTtlSec stagedRefTtlSec : Nat}
    (hinit : good
      (init retentionSec authTtlSec stagedRefTtlSec : JobQueueManager V).ledger)
    (hpreserved : ∀ ledger next : JobLedger V, ledger.WellFormed → good ledger →
      JobLedger.Update policy ledger next → good next)
    (hrun : GuardedRun step ok (init retentionSec authTtlSec stagedRefTtlSec)
      m) : m.ledger.WellFormed ∧ good m.ledger := by
  refine invariant_of_reflTransGen
    (fun ledger => ledger.WellFormed ∧ good ledger) ?_ (run_updates hok hrun)
    ⟨(init_sound policy _ _ _).wellFormed, hinit⟩
  rintro before after ⟨hwell, hgood⟩ hupdate
  exact ⟨hwell.update hupdate, hpreserved before after hwell hgood hupdate⟩

end JobQueueManager

end PycloudParallel.JobQueue
