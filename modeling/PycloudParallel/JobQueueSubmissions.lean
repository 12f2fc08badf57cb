import PycloudParallel.JobQueueRunRefinement

/-!
# Submissions are neither overwritten nor mixed up

As long as no submission takes the id of a job that is waiting, running or
about to be written, every waiting or running job keeps its object, whatever a
run writes goes to the object it picked and comes from that object's payload,
and every job that succeeds or fails was executed once.  `submit_job` does not
look for the id, so a second submission of it breaks all of this.
-/

namespace PycloudParallel.JobQueue

variable {V : Type}

def JobEvent.isExecuted (ref : JobRef) : JobEvent V → Bool
  | .executed started => started == ref
  | _ => false

def executions (log : List (JobEvent V)) (ref : JobRef) : Nat :=
  log.countP (JobEvent.isExecuted ref)

theorem executions_append (log : List (JobEvent V)) (event : JobEvent V)
    (ref : JobRef) :
    executions (log ++ [event]) ref =
      executions log ref + if event.isExecuted ref then 1 else 0 := by
  simp [executions, List.countP_append, List.countP_cons]

def OwnerStage.unsettled : OwnerStage V → Bool
  | .picked => true
  | .executing _ => true
  | .settled _ => false

namespace JobLedger

/-- A submission finds its id free: no waiting or running entry, and nobody who
is going to write to it. -/
def freshIdPolicy : LedgerPolicy V where
  store := fun ledger jobId =>
    (∀ ref job, ledger.table jobId = some ref → ledger.objects ref = some job →
      job.status.terminal = true) ∧
    ∀ tid owner, ledger.owners tid = some owner → owner.stage.unsettled = true →
      owner.jobId ≠ jobId
  tail := fun _ => True
  raise := True

structure Attributed (ledger : JobLedger V) : Prop where
  /-- The id of an unsettled claim names the claimed object or nothing. -/
  claim : ∀ tid owner ref, ledger.owners tid = some owner →
    owner.stage.unsettled = true → ledger.table owner.jobId = some ref →
      ref = owner.ref
  snapshot : ∀ tid owner payload, ledger.owners tid = some owner →
    owner.stage = .executing payload →
      ∃ job, ledger.objects owner.ref = some job ∧ job.payload = payload
  /-- A write goes to the picked object and comes from its payload. -/
  finished : ∀ run target written,
    JobEvent.finished run target written ∈ ledger.log →
      target = run.ref ∧ written.status.terminal = true ∧
        ∃ job, ledger.objects target = some job ∧ job.jobId = run.jobId ∧
          job.payload = run.snapshot
  /-- An outcome was written by a run. -/
  outcome : ∀ ref job, ledger.objects ref = some job →
    (job.status = .succeeded ∨ job.status = .failed ∨ job.results ≠ [] ∨
      job.finalResult ≠ none) →
      ∃ run written, JobEvent.finished run ref written ∈ ledger.log ∧
        written.results = job.results ∧
        written.finalResult = job.finalResult ∧ written.status = job.status

structure ExecutedOnce (ledger : JobLedger V) : Prop where
  unborn : ∀ ref, ledger.objects ref = none → executions ledger.log ref = 0
  waiting : ∀ ref job, ledger.objects ref = some job → job.status = .waiting →
    executions ledger.log ref = 0
  picked : ∀ tid owner, ledger.owners tid = some owner →
    owner.stage = .picked → executions ledger.log owner.ref = 0
  executing : ∀ tid owner payload, ledger.owners tid = some owner →
    owner.stage = .executing payload → executions ledger.log owner.ref = 1
  finished : ∀ run target written,
    JobEvent.finished run target written ∈ ledger.log →
      executions ledger.log target = 1
  atMostOnce : ∀ ref, executions ledger.log ref ≤ 1

variable {run : RunLocals V} {target ref : JobRef} {written job : JobState V}
  {ledger next : JobLedger V} {tid : ThreadId} {owner : JobOwner V}
  {policy : LedgerPolicy V}

theorem finished_of_append {log : List (JobEvent V)} {event : JobEvent V}
    (hne : event ≠ .finished run target written)
    (hmem : JobEvent.finished run target written ∈ log ++ [event]) :
    JobEvent.finished run target written ∈ log := by
  rcases List.mem_append.mp hmem with hold | hnew
  · exact hold
  · exact absurd (List.mem_singleton.mp hnew).symm hne

/-! ## Attribution -/

theorem Attributed.no_results (hgood : ledger.Attributed)
    (hobject : ledger.objects ref = some job)
    (hopen : job.status.terminal = false) :
    job.results = [] ∧ job.finalResult = none := by
  by_contra hsome
  have hany : job.results ≠ [] ∨ job.finalResult ≠ none := by
    by_contra hboth
    push Not at hboth
    exact hsome hboth
  obtain ⟨run, written, hmem, -, -, hstatus⟩ :=
    hgood.outcome ref job hobject (.inr (.inr hany))
  have hterminal := (hgood.finished run ref written hmem).2.1
  rw [hstatus, hopen] at hterminal
  cases hterminal

theorem Attributed.revise (hgood : ledger.Attributed)
    (change : JobRef → JobState V → JobState V)
    (hrevise : ∀ ref job, ledger.objects ref = some job →
      job.Revises (change ref job)) :
    Attributed { ledger with
      objects := fun ref => (ledger.objects ref).map (change ref) } := by
  refine ⟨hgood.claim, ?_, ?_, ?_⟩
  · intro tid owner payload howner hstage
    obtain ⟨job, hjob, hpayload⟩ := hgood.snapshot tid owner payload howner hstage
    exact ⟨change owner.ref job, by simp [hjob],
      (hrevise _ _ hjob).payload.trans hpayload⟩
  · intro run target written hmem
    obtain ⟨htarget, hterminal, job, hjob, hid, hpayload⟩ :=
      hgood.finished run target written hmem
    have hrev := hrevise target job hjob
    exact ⟨htarget, hterminal, change target job, by simp [hjob],
      hrev.jobId.trans hid, hrev.payload.trans hpayload⟩
  · intro ref revised hobject houtcome
    obtain ⟨job, hjob, rfl⟩ := Option.map_eq_some_iff.mp hobject
    have hrev := hrevise ref job hjob
    rcases hrev.status with hsame | ⟨hwaiting, hcancelled⟩
    · rw [hsame, hrev.results, hrev.finalResult] at houtcome
      rw [hsame, hrev.results, hrev.finalResult]
      exact hgood.outcome ref job hjob houtcome
    · obtain ⟨hresults, hfinal⟩ :=
        hgood.no_results hjob (by simp [hwaiting, JobStatus.terminal])
      simp [hcancelled, hrev.results, hrev.finalResult, hresults, hfinal]
        at houtcome

theorem Attributed.store (hwell : ledger.WellFormed) (hgood : ledger.Attributed)
    (job : JobState V) (hpolicy : freshIdPolicy.store ledger job.jobId)
    (hfresh : job.enqueueSeq = ledger.count + 1)
    (hwaiting : job.status = .waiting) (hresults : job.results = [])
    (hfinal : job.finalResult = none) :
    Attributed { ledger with
      objects := Function.update ledger.objects job.enqueueSeq (some job)
      table := Function.update ledger.table job.jobId (some job.enqueueSeq)
      count := job.enqueueSeq
      log := ledger.log ++ [.submitted job.enqueueSeq] } := by
  refine ⟨?_, ?_, ?_, ?_⟩
  · intro tid owner ref howner hopen htable
    have hne := hpolicy.2 tid owner howner hopen
    exact hgood.claim tid owner ref howner hopen (by simpa [hne] using htable)
  · intro tid owner payload howner hstage
    obtain ⟨old, hold, hpayload⟩ := hgood.snapshot tid owner payload howner hstage
    exact ⟨old, by simpa [hwell.ne_of_fresh hfresh hold] using hold, hpayload⟩
  · intro run target written hmem
    obtain ⟨htarget, hterminal, old, hold, hid, hpayload⟩ :=
      hgood.finished run target written (finished_of_append (by simp) hmem)
    exact ⟨htarget, hterminal, old,
      by simpa [hwell.ne_of_fresh hfresh hold] using hold, hid, hpayload⟩
  · intro ref old hobject houtcome
    rcases update_object_cases hobject with ⟨-, rfl⟩ | ⟨-, hold⟩
    · simp [hwaiting, hresults, hfinal] at houtcome
    · obtain ⟨run, written, hmem, hrest⟩ := hgood.outcome ref old hold houtcome
      exact ⟨run, written, List.mem_append_left _ hmem, hrest⟩

theorem Attributed.pick (hwell : ledger.WellFormed) (hgood : ledger.Attributed)
    {running : JobState V} (htable : ledger.table job.jobId = some ref)
    (hobject : ledger.objects ref = some job) (hwaiting : job.status = .waiting)
    (hrunning : running.status = .running) (hjobId : running.jobId = job.jobId)
    (hpayload : running.payload = job.payload)
    (hresults : running.results = job.results)
    (hfinal : running.finalResult = job.finalResult) :
    Attributed { ledger with
      objects := Function.update ledger.objects ref (some running)
      slot := some job.jobId
      owners := Function.update ledger.owners tid
        (some { jobId := job.jobId, ref := ref, stage := .picked })
      log := ledger.log ++ [.picked ref] } := by
  obtain ⟨hnoResults, hnoFinal⟩ :=
    hgood.no_results hobject (by simp [hwaiting, JobStatus.terminal])
  refine ⟨?_, ?_, ?_, ?_⟩
  · intro tid' claim ref' hclaim hopen hlisted
    rcases update_owner_cases hclaim with ⟨-, heq⟩ | ⟨-, hprev⟩
    · cases heq
      rw [show ledger.table job.jobId = some ref' from hlisted] at htable
      exact Option.some.inj htable
    · exact hgood.claim tid' claim ref' hprev hopen hlisted
  · intro tid' claim payload hclaim hstage
    rcases update_owner_cases hclaim with ⟨-, heq⟩ | ⟨-, hprev⟩
    · cases heq
      cases hstage
    · obtain ⟨old, hold, hpay⟩ := hgood.snapshot tid' claim payload hprev hstage
      by_cases hsame : claim.ref = ref
      · obtain ⟨found, hfound, -, hstatus⟩ :=
          hwell.owner_sound tid' claim hprev
        rw [hsame, hobject] at hfound
        cases hfound
        exact absurd hwaiting hstatus
      · exact ⟨old, by simpa [hsame] using hold, hpay⟩
  · intro run target written hmem
    obtain ⟨htarget, hterminal, old, hold, hid, hpay⟩ :=
      hgood.finished run target written (finished_of_append (by simp) hmem)
    by_cases hsame : target = ref
    · subst hsame
      rw [hobject] at hold
      cases hold
      exact ⟨htarget, hterminal, running, by simp, hjobId.trans hid,
        hpayload.trans hpay⟩
    · exact ⟨htarget, hterminal, old, by simpa [hsame] using hold, hid, hpay⟩
  · intro ref' old hobject' houtcome
    rcases update_object_cases hobject' with ⟨-, rfl⟩ | ⟨-, hold⟩
    · simp [hrunning, hresults, hfinal, hnoResults, hnoFinal] at houtcome
    · obtain ⟨run, written, hmem, hrest⟩ := hgood.outcome ref' old hold houtcome
      exact ⟨run, written, List.mem_append_left _ hmem, hrest⟩

theorem Attributed.write (hwell : ledger.WellFormed) (hgood : ledger.Attributed)
    (howner : ledger.owners tid = some owner) (stage : OwnerStage V)
    (hstage : owner.stage = .executing run.snapshot)
    (hid : run.jobId = owner.jobId) (href : run.ref = owner.ref)
    (htable : ledger.table owner.jobId = some target)
    (hobject : ledger.objects target = some job)
    (hjobId : written.jobId = job.jobId)
    (hpayload : written.payload = job.payload)
    (hterminal : written.status.terminal = true)
    (hnext : stage = .executing run.snapshot ∨ stage.unsettled = false) :
    Attributed { ledger with
      objects := Function.update ledger.objects target (some written)
      owners := Function.update ledger.owners tid
        (some { owner with stage := stage })
      log := ledger.log ++ [.finished run target written] } := by
  have htarget : target = owner.ref :=
    hgood.claim tid owner target howner (by simp [hstage, OwnerStage.unsettled])
      htable
  subst htarget
  obtain ⟨old, hold, hsnapshot⟩ := hgood.snapshot tid owner _ howner hstage
  obtain ⟨found, hfound, hfoundId, -⟩ := hwell.owner_sound tid owner howner
  rw [hobject] at hold hfound
  cases hold
  cases hfound
  refine ⟨?_, ?_, ?_, ?_⟩
  · intro tid' claim ref' hclaim hopen hlisted
    rcases update_owner_cases hclaim with ⟨-, heq⟩ | ⟨-, hprev⟩
    · cases heq
      exact hgood.claim tid owner ref' howner
        (by simp [hstage, OwnerStage.unsettled]) hlisted
    · exact hgood.claim tid' claim ref' hprev hopen hlisted
  · intro tid' claim payload hclaim hexec
    rcases update_owner_cases hclaim with ⟨-, heq⟩ | ⟨htid, hprev⟩
    · cases heq
      rcases hnext with hsame | hsettled
      · rw [hsame] at hexec
        cases hexec
        exact ⟨written, by simp, hpayload.trans hsnapshot⟩
      · simp only at hexec
        simp [hexec, OwnerStage.unsettled] at hsettled
    · obtain ⟨other, hother, hpay⟩ := hgood.snapshot tid' claim payload hprev hexec
      have hne : claim.ref ≠ owner.ref := fun heq =>
        htid (hwell.owner_unique _ _ _ _ hprev howner heq)
      exact ⟨other, by simpa [hne] using hother, hpay⟩
  · intro run' target' written' hmem
    rcases List.mem_append.mp hmem with hprev | hnew
    · obtain ⟨htarget', hterm', other, hother, hid', hpay⟩ :=
        hgood.finished run' target' written' hprev
      by_cases hsame : target' = owner.ref
      · subst hsame
        rw [hobject] at hother
        cases hother
        exact ⟨htarget', hterm', written, by simp, hjobId.trans hid',
          hpayload.trans hpay⟩
      · exact ⟨htarget', hterm', other, by simpa [hsame] using hother, hid', hpay⟩
    · cases List.mem_singleton.mp hnew
      exact ⟨href.symm, hterminal, written, by simp,
        (hjobId.trans hfoundId).trans hid.symm, hpayload.trans hsnapshot⟩
  · intro ref' other hobject' houtcome
    rcases update_object_cases hobject' with ⟨rfl, rfl⟩ | ⟨-, hother⟩
    · exact ⟨run, written, by simp, rfl, rfl, rfl⟩
    · obtain ⟨run', written', hmem, hrest⟩ := hgood.outcome ref' other hother houtcome
      exact ⟨run', written', List.mem_append_left _ hmem, hrest⟩

theorem Attributed.setClaim (hgood : ledger.Attributed)
    (howner : ledger.owners tid = some owner) {claim : Option (JobOwner V)}
    (hobjects : next.objects = ledger.objects)
    (htable : next.table = ledger.table)
    (howners : next.owners = Function.update ledger.owners tid claim)
    (hlog : ∀ run target written,
      JobEvent.finished run target written ∈ next.log ↔
        JobEvent.finished run target written ∈ ledger.log)
    (hclaim : ∀ changed, claim = some changed →
      changed.jobId = owner.jobId ∧ changed.ref = owner.ref ∧
        (changed.stage.unsettled = true → owner.stage.unsettled = true) ∧
        ∀ payload, changed.stage = .executing payload →
          ∃ job, ledger.objects owner.ref = some job ∧ job.payload = payload) :
    next.Attributed := by
  refine ⟨?_, ?_, ?_, ?_⟩
  · intro tid' changed ref hchanged hopen hlisted
    rw [howners] at hchanged
    rw [htable] at hlisted
    rcases update_owner_cases hchanged with ⟨-, heq⟩ | ⟨-, hprev⟩
    · obtain ⟨hid, href, hunsettled, -⟩ := hclaim changed heq
      rw [hid] at hlisted
      rw [href]
      exact hgood.claim tid owner ref howner (hunsettled hopen) hlisted
    · exact hgood.claim tid' changed ref hprev hopen hlisted
  · intro tid' changed payload hchanged hstage
    rw [howners] at hchanged
    rw [hobjects]
    rcases update_owner_cases hchanged with ⟨-, heq⟩ | ⟨-, hprev⟩
    · obtain ⟨-, href, -, hsnapshot⟩ := hclaim changed heq
      rw [href]
      exact hsnapshot payload hstage
    · exact hgood.snapshot tid' changed payload hprev hstage
  · intro run target written hmem
    rw [hobjects]
    exact hgood.finished run target written ((hlog run target written).mp hmem)
  · intro ref job hobject houtcome
    rw [hobjects] at hobject
    obtain ⟨run, written, hmem, hrest⟩ := hgood.outcome ref job hobject houtcome
    exact ⟨run, written, (hlog run ref written).mpr hmem, hrest⟩

theorem Attributed.ownerUpdate (hwell : ledger.WellFormed)
    (hgood : ledger.Attributed) (howner : ledger.owners tid = some owner)
    (hupdate : OwnerUpdate policy ledger tid owner next) : next.Attributed := by
  cases hupdate with
  | execute target job hstage htable hobject =>
    have hopen : owner.stage.unsettled = true := by
      simp [hstage, OwnerStage.unsettled]
    refine hgood.setClaim howner rfl rfl rfl (by simp) ?_
    rintro changed ⟨⟩
    refine ⟨rfl, rfl, fun _ => hopen, ?_⟩
    rintro payload ⟨⟩
    have htarget := hgood.claim tid owner target howner hopen htable
    exact ⟨job, htarget ▸ hobject, rfl⟩
  | write run target job written stage hstage hid href htable hobject hjobId
      hpayload hterminal hnext =>
      refine hgood.write hwell howner stage hstage hid href htable hobject hjobId
        hpayload hterminal ?_
      rcases hnext with hsame | hsettled | ⟨hsettled, -⟩
      · exact .inl hsame
      · exact .inr (by simp [hsettled, OwnerStage.unsettled])
      · exact .inr (by simp [hsettled, OwnerStage.unsettled])
  | settleMissing hstage htable =>
    refine hgood.setClaim howner rfl rfl rfl (fun _ _ _ => Iff.rfl) ?_
    rintro changed ⟨⟩
    exact ⟨rfl, rfl, by simp [OwnerStage.unsettled], by simp⟩
  | finish hstage => exact hgood.setClaim howner rfl rfl rfl (by simp) (by simp)
  | raise hraise | abandon hraise =>
    exact hgood.setClaim howner rfl rfl rfl (fun _ _ _ => Iff.rfl) (by simp)

theorem Attributed.update (hwell : ledger.WellFormed)
    (hgood : ledger.Attributed) (hupdate : Update freshIdPolicy ledger next) :
    next.Attributed := by
  cases hupdate with
  | revise change hrevise => exact hgood.revise change hrevise
  | clearStale hstale | tail hpolicy =>
    exact ⟨hgood.claim, hgood.snapshot, hgood.finished, hgood.outcome⟩
  | store job hpolicy hfresh hwaiting hresults hfinal =>
    exact hgood.store hwell job hpolicy hfresh hwaiting hresults hfinal
  | drop jobId hslot hterminal =>
    refine ⟨?_, hgood.snapshot, hgood.finished, hgood.outcome⟩
    intro tid owner ref howner hopen htable
    by_cases hsame : owner.jobId = jobId
    · simp [hsame] at htable
    · exact hgood.claim tid owner ref howner hopen (by simpa [hsame] using htable)
  | pick tid ref job running _ _ htable hobject hwaiting hrunning hjobId hpayload
      hresults hfinal =>
      exact hgood.pick hwell htable hobject hwaiting hrunning hjobId hpayload
        hresults hfinal
  | owner tid owner next howner hownerUpdate =>
    exact hgood.ownerUpdate hwell howner hownerUpdate

/-! ## Executions -/

theorem ExecutedOnce.transport (hgood : ledger.ExecutedOnce)
    (hexecutions : ∀ ref, executions next.log ref = executions ledger.log ref)
    (hunborn : ∀ ref, next.objects ref = none → ledger.objects ref = none)
    (hwaiting : ∀ ref job, next.objects ref = some job → job.status = .waiting →
      executions ledger.log ref = 0)
    (hpicked : ∀ tid owner, next.owners tid = some owner →
      owner.stage = .picked → executions ledger.log owner.ref = 0)
    (hexecuting : ∀ tid owner payload, next.owners tid = some owner →
      owner.stage = .executing payload → executions ledger.log owner.ref = 1)
    (hfinished : ∀ run target written,
      JobEvent.finished run target written ∈ next.log →
        executions ledger.log target = 1) : next.ExecutedOnce := by
  constructor
  · intro ref hnone
    rw [hexecutions]
    exact hgood.unborn ref (hunborn ref hnone)
  · intro ref job hobject hstatus
    rw [hexecutions]
    exact hwaiting ref job hobject hstatus
  · intro tid owner howner hstage
    rw [hexecutions]
    exact hpicked tid owner howner hstage
  · intro tid owner payload howner hstage
    rw [hexecutions]
    exact hexecuting tid owner payload howner hstage
  · intro run target written hmem
    rw [hexecutions]
    exact hfinished run target written hmem
  · intro ref
    rw [hexecutions]
    exact hgood.atMostOnce ref

theorem executions_append_other {log : List (JobEvent V)} {event : JobEvent V}
    (hother : ∀ ref, event.isExecuted ref = false) (ref : JobRef) :
    executions (log ++ [event]) ref = executions log ref := by
  rw [executions_append, hother ref]
  rfl

theorem update_object_none {objects : JobRef → Option (JobState V)}
    {ref' : JobRef}
    (hnone : Function.update objects ref (some written) ref' = none) :
    objects ref' = none := by
  by_cases hsame : ref' = ref
  · simp [hsame] at hnone
  · simpa [hsame] using hnone

theorem ExecutedOnce.setClaim (hgood : ledger.ExecutedOnce)
    {claim : Option (JobOwner V)}
    (hexecutions : ∀ ref, executions next.log ref = executions ledger.log ref)
    (hobjects : next.objects = ledger.objects)
    (howners : next.owners = Function.update ledger.owners tid claim)
    (hlog : ∀ run target written,
      JobEvent.finished run target written ∈ next.log →
        JobEvent.finished run target written ∈ ledger.log)
    (hsettled : ∀ changed, claim = some changed →
      changed.stage.unsettled = false) : next.ExecutedOnce := by
  refine hgood.transport hexecutions (by simp [hobjects]) ?_ ?_ ?_ ?_
  · intro ref job hobject hstatus
    rw [hobjects] at hobject
    exact hgood.waiting ref job hobject hstatus
  · intro tid' changed hchanged hstage
    rw [howners] at hchanged
    rcases update_owner_cases hchanged with ⟨-, heq⟩ | ⟨-, hprev⟩
    · have := hsettled changed heq
      simp [hstage, OwnerStage.unsettled] at this
    · exact hgood.picked tid' changed hprev hstage
  · intro tid' changed payload hchanged hstage
    rw [howners] at hchanged
    rcases update_owner_cases hchanged with ⟨-, heq⟩ | ⟨-, hprev⟩
    · have := hsettled changed heq
      simp [hstage, OwnerStage.unsettled] at this
    · exact hgood.executing tid' changed payload hprev hstage
  · intro run target written hmem
    exact hgood.finished run target written (hlog run target written hmem)

theorem ExecutedOnce.execute (hwell : ledger.WellFormed)
    (hgood : ledger.ExecutedOnce) (howner : ledger.owners tid = some owner)
    (hstage : owner.stage = .picked) (payload : JobPayload V) :
    ExecutedOnce { ledger with
      owners := Function.update ledger.owners tid
        (some { owner with stage := .executing payload })
      log := ledger.log ++ [.executed owner.ref] } := by
  have hself : executions (ledger.log ++ [.executed owner.ref]) owner.ref = 1 := by
    rw [executions_append, hgood.picked tid owner howner hstage]
    simp [JobEvent.isExecuted]
  have hother : ∀ ref, ref ≠ owner.ref →
      executions (ledger.log ++ [.executed owner.ref]) ref =
        executions ledger.log ref := by
    intro ref hne
    rw [executions_append]
    simp [JobEvent.isExecuted, Ne.symm hne]
  obtain ⟨job, hobject, -, hstatus⟩ := hwell.owner_sound tid owner howner
  constructor
  · intro ref hnone
    have hne : ref ≠ owner.ref := by
      rintro rfl
      rw [show ledger.objects owner.ref = none from hnone] at hobject
      cases hobject
    rw [hother ref hne]
    exact hgood.unborn ref hnone
  · intro ref other hothers hwaiting
    have hne : ref ≠ owner.ref := by
      rintro rfl
      rw [show ledger.objects owner.ref = some other from hothers] at hobject
      cases hobject
      exact hstatus hwaiting
    rw [hother ref hne]
    exact hgood.waiting ref other hothers hwaiting
  · intro tid' claim hclaim hpicked
    rcases update_owner_cases hclaim with ⟨-, heq⟩ | ⟨htid, hprev⟩
    · cases heq
      cases hpicked
    · have hne : claim.ref ≠ owner.ref := fun heq =>
        htid (hwell.owner_unique _ _ _ _ hprev howner heq)
      rw [hother claim.ref hne]
      exact hgood.picked tid' claim hprev hpicked
  · intro tid' claim payload' hclaim hexec
    rcases update_owner_cases hclaim with ⟨-, heq⟩ | ⟨htid, hprev⟩
    · cases heq
      exact hself
    · have hne : claim.ref ≠ owner.ref := fun heq =>
        htid (hwell.owner_unique _ _ _ _ hprev howner heq)
      rw [hother claim.ref hne]
      exact hgood.executing tid' claim payload' hprev hexec
  · intro run target written hmem
    have hone := hgood.finished run target written
      (finished_of_append (by simp) hmem)
    have hne : target ≠ owner.ref := by
      rintro rfl
      rw [hgood.picked tid owner howner hstage] at hone
      cases hone
    rw [hother target hne]
    exact hone
  · intro ref
    by_cases hsame : ref = owner.ref
    · rw [hsame]
      exact hself.le
    · rw [hother ref hsame]
      exact hgood.atMostOnce ref

theorem ExecutedOnce.write (hgood : ledger.ExecutedOnce)
    (howner : ledger.owners tid = some owner) (stage : OwnerStage V)
    (hstage : owner.stage = .executing run.snapshot)
    (htarget : target = owner.ref) (hterminal : written.status.terminal = true)
    (hnext : stage = .executing run.snapshot ∨ stage.unsettled = false) :
    ExecutedOnce { ledger with
      objects := Function.update ledger.objects target (some written)
      owners := Function.update ledger.owners tid
        (some { owner with stage := stage })
      log := ledger.log ++ [.finished run target written] } := by
  have hone := hgood.executing tid owner _ howner hstage
  refine hgood.transport (executions_append_other fun _ => rfl)
    (fun ref hnone => update_object_none hnone) ?_ ?_ ?_ ?_
  · intro ref job hobject hwaiting
    rcases update_object_cases hobject with ⟨-, rfl⟩ | ⟨-, hold⟩
    · simp [hwaiting, JobStatus.terminal] at hterminal
    · exact hgood.waiting ref job hold hwaiting
  · intro tid' claim hclaim hpicked
    rcases update_owner_cases hclaim with ⟨-, heq⟩ | ⟨-, hprev⟩
    · cases heq
      simp only at hpicked
      rcases hnext with hsame | hsettled
      · simp [hpicked] at hsame
      · simp [hpicked, OwnerStage.unsettled] at hsettled
    · exact hgood.picked tid' claim hprev hpicked
  · intro tid' claim payload hclaim hexec
    rcases update_owner_cases hclaim with ⟨-, heq⟩ | ⟨-, hprev⟩
    · cases heq
      exact hone
    · exact hgood.executing tid' claim payload hprev hexec
  · intro run' target' written' hmem
    rcases List.mem_append.mp hmem with hold | hnew
    · exact hgood.finished run' target' written' hold
    · cases List.mem_singleton.mp hnew
      rw [htarget]
      exact hone

theorem ExecutedOnce.ownerUpdate (hwell : ledger.WellFormed)
    (hattributed : ledger.Attributed) (hgood : ledger.ExecutedOnce)
    (howner : ledger.owners tid = some owner)
    (hupdate : OwnerUpdate policy ledger tid owner next) :
    next.ExecutedOnce := by
  cases hupdate with
  | execute target job hstage => exact hgood.execute hwell howner hstage _
  | write run target job written stage hstage hid href htable hobject hjobId
      hpayload hterminal hnext =>
      have htarget := hattributed.claim tid owner target howner
        (by simp [hstage, OwnerStage.unsettled]) htable
      refine hgood.write howner stage hstage htarget hterminal ?_
      rcases hnext with hsame | hsettled | ⟨hsettled, -⟩
      · exact .inl hsame
      · exact .inr (by simp [hsettled, OwnerStage.unsettled])
      · exact .inr (by simp [hsettled, OwnerStage.unsettled])
  | settleMissing hstage htable =>
    refine hgood.setClaim (fun _ => rfl) rfl rfl (fun _ _ _ => id) ?_
    rintro changed ⟨⟩
    rfl
  | finish hstage =>
    exact hgood.setClaim (executions_append_other fun _ => rfl) rfl rfl
      (fun _ _ _ hmem => finished_of_append (by simp) hmem) (by simp)
  | raise hraise | abandon hraise =>
    exact hgood.setClaim (fun _ => rfl) rfl rfl (fun _ _ _ => id) (by simp)

theorem ExecutedOnce.update (hwell : ledger.WellFormed)
    (hattributed : ledger.Attributed) (hgood : ledger.ExecutedOnce)
    (hupdate : Update policy ledger next) : next.ExecutedOnce := by
  cases hupdate with
  | revise change hrevise =>
    refine hgood.transport (fun _ => rfl) (fun ref hnone => by
      simpa using hnone) ?_ hgood.picked hgood.executing hgood.finished
    intro ref revised hobject hwaiting
    obtain ⟨job, hjob, rfl⟩ := Option.map_eq_some_iff.mp hobject
    refine hgood.waiting ref job hjob ?_
    rcases (hrevise ref job hjob).status with hsame | ⟨hold, -⟩
    · rwa [← hsame]
    · exact hold
  | clearStale _ | drop _ _ _ | tail _ =>
    exact ⟨hgood.unborn, hgood.waiting, hgood.picked, hgood.executing,
      hgood.finished, hgood.atMostOnce⟩
  | store job hpolicy hfresh =>
    refine hgood.transport (executions_append_other fun _ => rfl)
      (fun ref hnone => update_object_none hnone) ?_ hgood.picked
      hgood.executing
      fun run target written hmem => hgood.finished run target written
        (finished_of_append (by simp) hmem)
    intro ref old hobject hwaiting
    rcases update_object_cases hobject with ⟨rfl, -⟩ | ⟨-, hold⟩
    · refine hgood.unborn _ ?_
      by_contra hsome
      obtain ⟨found, hfound⟩ := Option.ne_none_iff_exists'.mp hsome
      exact hwell.ne_of_fresh hfresh hfound rfl
    · exact hgood.waiting ref old hold hwaiting
  | pick tid ref job running _ _ htable hobject hwaiting hrunning =>
    refine hgood.transport (executions_append_other fun _ => rfl)
      (fun ref hnone => update_object_none hnone) ?_ ?_ ?_
      fun run target written hmem => hgood.finished run target written
        (finished_of_append (by simp) hmem)
    · intro ref' old hobject' hstatus
      rcases update_object_cases hobject' with ⟨-, rfl⟩ | ⟨-, hold⟩
      · simp [hrunning] at hstatus
      · exact hgood.waiting ref' old hold hstatus
    · intro tid' claim hclaim hpicked
      rcases update_owner_cases hclaim with ⟨-, heq⟩ | ⟨-, hprev⟩
      · cases heq
        exact hgood.waiting ref job hobject hwaiting
      · exact hgood.picked tid' claim hprev hpicked
    · intro tid' claim payload hclaim hexec
      rcases update_owner_cases hclaim with ⟨-, heq⟩ | ⟨-, hprev⟩
      · cases heq
        cases hexec
      · exact hgood.executing tid' claim payload hprev hexec
  | owner tid owner next howner hownerUpdate =>
    exact hgood.ownerUpdate hwell hattributed howner hownerUpdate

end JobLedger

namespace JobQueueManager

def awaitingWrite (m : JobQueueManager V) (jobId : JobId) : Bool :=
  m.threads.any fun phase =>
    phase.owner.any fun owner => owner.jobId == jobId && owner.stage.unsettled

/-- The condition for submissions to stay apart: an accepted one finds its id
without a waiting or running job and without a run that still writes to it. -/
def submitsFreshId (m : JobQueueManager V) (label : JobQueueLabel V) : Bool :=
  match label with
  | .submit payload generatedId _ _ _ =>
    !(checkPayload payload).isOk ||
      ((m.entry (submittedJobId payload generatedId)).all
          (fun item => item.2.status.terminal) &&
        !m.awaitingWrite (submittedJobId payload generatedId))
  | _ => true

variable {m : JobQueueManager V}

theorem freshIdPolicy_allows {label : JobQueueLabel V}
    (hfresh : m.submitsFreshId label = true) :
    JobLedger.freshIdPolicy.Allows m label := by
  refine ⟨?_, fun _ _ _ _ => trivial, fun hno => absurd trivial hno⟩
  rintro payload generatedId generatedClient digest now rfl hcheck
  simp only [submitsFreshId, hcheck, Except.isOk, Except.toBool, Bool.not_true,
    Bool.false_or, Bool.and_eq_true, Bool.not_eq_true'] at hfresh
  obtain ⟨hentry, hawaiting⟩ := hfresh
  constructor
  · intro ref job htable hobject
    have hsome : m.detachStaleRunning.entry (submittedJobId payload generatedId) =
        some (ref, job) := entry_eq_some.mpr ⟨htable, hobject⟩
    rw [entry_detachStaleRunning] at hsome
    simpa [hsome] using hentry
  · intro tid owner howner hopen hid
    have howner' : (m.detachStaleRunning.threads[tid]?).bind
        SchedulerPhase.owner = some owner := howner
    rw [detachStaleRunning_threads] at howner'
    obtain ⟨phase, hphase, hclaim⟩ := Option.bind_eq_some_iff.mp howner'
    have hany : m.awaitingWrite (submittedJobId payload generatedId) = true :=
      List.any_eq_true.mpr ⟨phase, List.mem_of_getElem? hphase, by
        simp [hclaim, hid, hopen]⟩
    simp [hany] at hawaiting

variable {jobId : JobId}

theorem entry_storeJob (hwell : m.ledger.WellFormed) (job : JobState V)
    (hfresh : job.enqueueSeq = m.enqueueSeq + 1) (hne : jobId ≠ job.jobId) :
    (m.storeJob job).entry jobId = m.entry jobId := by
  unfold entry storeJob
  dsimp only
  rw [OrderedDict.lookup_set_ne _ _ hne]
  cases hlookup : m.jobs.lookup jobId with
  | none => rfl
  | some ref =>
    obtain ⟨old, hold, -⟩ := hwell.table_sound jobId ref hlookup
    simp [hwell.ne_of_fresh hfresh hold]

theorem entry_submitSection (hwell : m.ledger.WellFormed)
    (payload : JobPayload V) (generatedId generatedClient digest : String)
    (now : Nat) (hne : jobId ≠ submittedJobId payload generatedId) :
    (m.submitSection payload generatedId generatedClient digest now).entry jobId =
      m.entry jobId := by
  have hdetach : JobLedger.Updates JobLedger.freshIdPolicy m.ledger
      m.detachStaleRunning.ledger := updates_detachStaleRunning
  have hdetached := hwell.updates hdetach
  have hensure : ∀ q : JobQueueManager V,
      q.ensureSchedulerThread.entry jobId = q.entry jobId := by
    intro q
    unfold ensureSchedulerThread
    split
    · rfl
    · split <;> rfl
  unfold submitSection
  dsimp only
  rw [hensure]
  refine Eq.trans ?_ (entry_detachStaleRunning jobId)
  exact entry_storeJob hdetached (newJobState m.detachStaleRunning payload
    generatedId generatedClient digest now) rfl hne

theorem submit_keeps_entry (hwell : m.ledger.WellFormed)
    {payload : JobPayload V} {generatedId generatedClient digest : String}
    {now : Nat} {next : JobQueueManager V}
    (hfresh : m.submitsFreshId
      (.submit payload generatedId generatedClient digest now) = true)
    (hstep : m.step (.submit payload generatedId generatedClient digest now) =
      some next) {ref : JobRef} {job : JobState V}
    (hentry : m.entry jobId = some (ref, job))
    (hopen : job.status.terminal = false) :
    next.entry jobId = some (ref, job) := by
  obtain ⟨text, -, rfl⟩ | ⟨hcheck, rfl⟩ := step_submit hstep
  · exact hentry
  · have hne : jobId ≠ submittedJobId payload generatedId := by
      rintro rfl
      simp [submitsFreshId, hcheck, Except.isOk, Except.toBool, hentry, hopen]
        at hfresh
    rw [entry_submitSection hwell payload _ _ _ _ hne]
    exact hentry

/-- In every run whose submissions find their ids free: a further such
submission leaves every waiting or running job its own object; every terminal
write of a run goes to the object the run picked, under its id and from its
payload; every outcome and every result was written by such a run; and a job
that succeeded or failed was executed exactly once, a waiting one never. -/
theorem submissions_kept_and_attributed
    {retentionSec authTtlSec stagedRefTtlSec : Nat}
    (hrun : GuardedRun step (fun m label => m.submitsFreshId label = true)
      (init retentionSec authTtlSec stagedRefTtlSec) m) :
    (∀ payload generatedId generatedClient digest now next,
        m.submitsFreshId
            (.submit payload generatedId generatedClient digest now) = true →
          m.step (.submit payload generatedId generatedClient digest now) =
              some next →
            ∀ jobId ref job, m.entry jobId = some (ref, job) →
              job.status.terminal = false →
                next.entry jobId = some (ref, job)) ∧
      (∀ run target written, JobEvent.finished run target written ∈ m.log →
        target = run.ref ∧ ∃ job, m.heap target = some job ∧
          job.jobId = run.jobId ∧ job.payload = run.snapshot) ∧
      (∀ ref job, m.heap ref = some job →
        (job.status = .succeeded ∨ job.status = .failed ∨ job.results ≠ [] ∨
          job.finalResult ≠ none) →
          ∃ run written, JobEvent.finished run ref written ∈ m.log ∧
            written.results = job.results ∧
            written.finalResult = job.finalResult ∧
            written.status = job.status) ∧
      ∀ ref job, m.heap ref = some job →
        executions m.log ref ≤ 1 ∧
          (job.status = .waiting → executions m.log ref = 0) ∧
          (job.status = .succeeded ∨ job.status = .failed →
            executions m.log ref = 1) := by
  obtain ⟨hwell, hattributed, honce⟩ := run_invariant
    (fun _ _ hfresh => freshIdPolicy_allows hfresh)
    (fun ledger => ledger.Attributed ∧ ledger.ExecutedOnce)
    (by constructor <;> constructor <;> simp [ledger, init, executions])
    (fun _ _ hwell hgood hupdate => ⟨hgood.1.update hwell hupdate,
      hgood.2.update hwell hgood.1 hupdate⟩) hrun
  refine ⟨?_, ?_, hattributed.outcome, ?_⟩
  · intro payload generatedId generatedClient digest now next hfresh hstep jobId
      ref job hentry hopen
    exact submit_keeps_entry hwell hfresh hstep hentry hopen
  · intro run target written hmem
    obtain ⟨htarget, -, job, hjob, hid, hpayload⟩ :=
      hattributed.finished run target written hmem
    exact ⟨htarget, job, hjob, hid, hpayload⟩
  · intro ref job hobject
    refine ⟨honce.atMostOnce ref, honce.waiting ref job hobject, ?_⟩
    intro hdone
    obtain ⟨run, written, hmem, -⟩ := hattributed.outcome ref job hobject
      (hdone.imp id .inl)
    exact honce.finished run ref written hmem

def reusedIdRun : List (JobQueueLabel Nat) :=
  [.start "infocenter:7000", submitHookJob "first", submitHookJob "second"] ++
    untilBlob 0 ++ afterBlob 0 ++ [advance 0, advance 0, advance 0,
      submitHookJob "first"]

theorem submissions_kept_and_attributed_reusedIdRun :
    ∃ m, checkedRun step (fun m label => submitsFreshId m label = true)
        (init 3600 86400 86400) reusedIdRun = some m ∧
      (m.heap 1).map (·.status) = some .succeeded ∧
      executions m.log 1 = 1 ∧ executions m.log 3 = 0 := by
  have hrun := guardedRun_of_checkedRun reusedIdRun (show checkedRun step (fun m label => submitsFreshId m label = true)
      (init 3600 86400 86400) reusedIdRun = some _ from rfl)
  obtain ⟨-, -, -, honce⟩ := submissions_kept_and_attributed hrun
  exact ⟨_, rfl, rfl, (honce 1 _ rfl).2.2 (.inl rfl), (honce 3 _ rfl).2.1 rfl⟩

/-- A second submission of an id whose job is running, with another payload:
the run of the first payload writes into the second object. -/
def overwrittenRun : List (JobQueueLabel Nat) :=
  [.start "infocenter:7000", submitHookJob "report"] ++ untilBlob 0 ++
    [.submit { hookPayload "report" with body := 1 } "" "" "other-owner" 0] ++
    afterBlob 0

theorem submission_overwritten_and_mixed_up :
    ∃ m : JobQueueManager Nat, Reachable step (init 3600 86400 86400) m ∧
      (m.heap 1).map (·.status) = some .running ∧
      m.jobs.lookup "report" = some 2 ∧
      (m.heap 2).map (fun job => (job.payload.body, job.status,
        job.ownerTokenDigest)) = some (1, .succeeded, "other-owner") ∧
      executions m.log 2 = 0 ∧
      ∃ run written, m.log[4]? = some (.finished run 2 written) ∧
        run.ref = 1 ∧ run.snapshot.body = 0 :=
  ⟨_, reachable_of_runLabels overwrittenRun rfl, rfl, rfl, rfl, rfl,
    _, _, rfl, rfl, rfl⟩

end JobQueueManager

end PycloudParallel.JobQueue
