import PycloudParallel.JobQueueScheduler

/-!
# The ledger of a job queue

An abstract account of what a job queue is for: job objects, the table that
names the current object of each id, the one slot for the running job, and the
scheduler threads that own a picked job.  It forgets the waiting order, the
program points inside a run, reference work and `close` calls.

`JobLedger.Update` lists everything that can happen to a ledger.  Three of its
moves are subject to a `LedgerPolicy`: storing a new object under an id,
clearing the slot at the end of the loop whatever it holds, and letting an
exception leave a run.
-/

namespace PycloudParallel.JobQueue

variable {V : Type}

/-- How far the owner of a picked job is: before the run has read the table,
executing the payload it read, or after its last write.  `settled true` has an
exception in flight. -/
inductive OwnerStage (V : Type)
  | picked
  | executing (snapshot : JobPayload V)
  | settled (pending : Bool)

structure JobOwner (V : Type) where
  jobId : JobId
  ref : JobRef
  stage : OwnerStage V

structure JobLedger (V : Type) where
  objects : JobRef → Option (JobState V)
  table : JobId → Option JobRef
  slot : Option JobId
  owners : ThreadId → Option (JobOwner V)
  count : Nat
  log : List (JobEvent V)
  escaped : List JobRef

structure LedgerPolicy (V : Type) where
  store : JobLedger V → JobId → Prop
  tail : JobLedger V → Prop
  raise : Prop

/-- A change of one job object outside the terminal writes: identity, payload
and results stay, and the status stays or a waiting job is cancelled. -/
structure JobState.Revises (job revised : JobState V) : Prop where
  jobId : revised.jobId = job.jobId
  payload : revised.payload = job.payload
  results : revised.results = job.results
  finalResult : revised.finalResult = job.finalResult
  status : revised.status = job.status ∨
    job.status = .waiting ∧ revised.status = .cancelled

namespace JobLedger

def SlotStale (ledger : JobLedger V) : Prop :=
  ∀ jobId ref job, ledger.slot = some jobId →
    ledger.table jobId = some ref → ledger.objects ref = some job →
      job.status.terminal = true

inductive OwnerUpdate (policy : LedgerPolicy V) (ledger : JobLedger V)
    (tid : ThreadId) (owner : JobOwner V) : JobLedger V → Prop
  /-- `_run_job` reads the table and starts on the payload it finds. -/
  | execute (target : JobRef) (job : JobState V)
      (hstage : owner.stage = .picked)
      (htable : ledger.table owner.jobId = some target)
      (hobject : ledger.objects target = some job) :
      OwnerUpdate policy ledger tid owner
        { ledger with
          owners := Function.update ledger.owners tid
            (some { owner with stage := .executing job.payload })
          log := ledger.log ++ [.executed owner.ref] }
  /-- A terminal write, after which the owner is at `stage`. -/
  | write (run : RunLocals V) (target : JobRef) (job written : JobState V)
      (stage : OwnerStage V)
      (hstage : owner.stage = .executing run.snapshot)
      (hid : run.jobId = owner.jobId) (href : run.ref = owner.ref)
      (htable : ledger.table owner.jobId = some target)
      (hobject : ledger.objects target = some job)
      (hjobId : written.jobId = job.jobId)
      (hpayload : written.payload = job.payload)
      (hterminal : written.status.terminal = true)
      (hnext : stage = .executing run.snapshot ∨ stage = .settled false ∨
        stage = .settled true ∧ policy.raise) :
      OwnerUpdate policy ledger tid owner
        { ledger with
          objects := Function.update ledger.objects target (some written)
          owners := Function.update ledger.owners tid
            (some { owner with stage := stage })
          log := ledger.log ++ [.finished run target written] }
  /-- There is no entry left to write to. -/
  | settleMissing (hstage : owner.stage ≠ .settled true)
      (htable : ledger.table owner.jobId = none) :
      OwnerUpdate policy ledger tid owner
        { ledger with
          owners := Function.update ledger.owners tid
            (some { owner with stage := .settled false }) }
  /-- `_run_job` returns. -/
  | finish (hstage : owner.stage = .settled false) :
      OwnerUpdate policy ledger tid owner
        { ledger with
          owners := Function.update ledger.owners tid none
          log := ledger.log ++ [.returned owner.jobId owner.ref] }
  /-- An exception leaves `_run_job`. -/
  | raise (hraise : policy.raise) :
      OwnerUpdate policy ledger tid owner
        { ledger with
          owners := Function.update ledger.owners tid none
          escaped := ledger.escaped ++ [owner.ref] }
  /-- The thread ends between picking the job and running it. -/
  | abandon (hraise : policy.raise) :
      OwnerUpdate policy ledger tid owner
        { ledger with owners := Function.update ledger.owners tid none }

inductive Update (policy : LedgerPolicy V) (ledger : JobLedger V) :
    JobLedger V → Prop
  | revise (change : JobRef → JobState V → JobState V)
      (hrevise : ∀ ref job, ledger.objects ref = some job →
        job.Revises (change ref job)) :
      Update policy ledger
        { ledger with
          objects := fun ref => (ledger.objects ref).map (change ref) }
  /-- A missing or terminal job leaves the slot. -/
  | clearStale (hstale : ledger.SlotStale) :
      Update policy ledger { ledger with slot := none }
  /-- A submission stores its new object under its id. -/
  | store (job : JobState V) (hpolicy : policy.store ledger job.jobId)
      (hfresh : job.enqueueSeq = ledger.count + 1)
      (hwaiting : job.status = .waiting) (hresults : job.results = [])
      (hfinal : job.finalResult = none) :
      Update policy ledger
        { ledger with
          objects := Function.update ledger.objects job.enqueueSeq (some job)
          table := Function.update ledger.table job.jobId (some job.enqueueSeq)
          count := job.enqueueSeq
          log := ledger.log ++ [.submitted job.enqueueSeq] }
  /-- An expired terminal job leaves the table. -/
  | drop (jobId : JobId) (hslot : ledger.slot = none)
      (hterminal : ∀ ref job, ledger.table jobId = some ref →
        ledger.objects ref = some job → job.status.terminal = true) :
      Update policy ledger
        { ledger with table := Function.update ledger.table jobId none }
  /-- A thread picks a waiting job. -/
  | pick (tid : ThreadId) (ref : JobRef) (job running : JobState V)
      (hslot : ledger.slot = none) (hidle : ledger.owners tid = none)
      (htable : ledger.table job.jobId = some ref)
      (hobject : ledger.objects ref = some job)
      (hwaiting : job.status = .waiting)
      (hrunning : running.status = .running)
      (hjobId : running.jobId = job.jobId)
      (hpayload : running.payload = job.payload)
      (hresults : running.results = job.results)
      (hfinal : running.finalResult = job.finalResult) :
      Update policy ledger
        { ledger with
          objects := Function.update ledger.objects ref (some running)
          slot := some job.jobId
          owners := Function.update ledger.owners tid
            (some { jobId := job.jobId, ref := ref, stage := .picked })
          log := ledger.log ++ [.picked ref] }
  | owner (tid : ThreadId) (owner : JobOwner V) (next : JobLedger V)
      (howner : ledger.owners tid = some owner)
      (hupdate : OwnerUpdate policy ledger tid owner next) :
      Update policy ledger next
  /-- The end of the loop empties the slot whatever it holds. -/
  | tail (hpolicy : policy.tail ledger) :
      Update policy ledger { ledger with slot := none }

end JobLedger

def RunPoint.stage (snapshot : JobPayload V) : RunPoint V → OwnerStage V
  | .finallyBlock pending => .settled pending
  | _ => .executing snapshot

def SchedulerPhase.owner : SchedulerPhase V → Option (JobOwner V)
  | .dispatch _ (some (jobId, ref)) =>
    some { jobId := jobId, ref := ref, stage := .picked }
  | .enter jobId ref => some { jobId := jobId, ref := ref, stage := .picked }
  | .running run point =>
    some { jobId := run.jobId, ref := run.ref, stage := point.stage run.snapshot }
  | _ => none

/-- Whether a live scheduler thread has picked the job and not finished its
`_run_job`. -/
def JobQueueManager.executing (m : JobQueueManager V) (jobId : JobId) : Bool :=
  m.threads.any fun phase => phase.owner.any (·.jobId == jobId)

def JobQueueManager.ledger (m : JobQueueManager V) : JobLedger V where
  objects := m.heap
  table := fun jobId => m.jobs.lookup jobId
  slot := m.runningJobId
  owners := fun tid => m.threads[tid]?.bind SchedulerPhase.owner
  count := m.enqueueSeq
  log := m.log
  escaped := m.escaped

namespace JobLedger

/-- The table points to objects of its own ids, references are numbered by
`count`, and no two threads own one object. -/
structure WellFormed (ledger : JobLedger V) : Prop where
  table_sound : ∀ jobId ref, ledger.table jobId = some ref →
    ∃ job, ledger.objects ref = some job ∧ job.jobId = jobId
  fresh : ∀ ref job, ledger.objects ref = some job → ref ≤ ledger.count
  owner_sound : ∀ tid owner, ledger.owners tid = some owner →
    ∃ job, ledger.objects owner.ref = some job ∧ job.jobId = owner.jobId ∧
      job.status ≠ .waiting
  owner_unique : ∀ tid tid' owner owner', ledger.owners tid = some owner →
    ledger.owners tid' = some owner' → owner.ref = owner'.ref → tid = tid'

variable {owner : JobOwner V} {tid : ThreadId} {job : JobState V} {ref : JobRef}
  {ledger next : JobLedger V} {policy : LedgerPolicy V}

theorem update_owner_cases {owners : ThreadId → Option (JobOwner V)}
    {tid' : ThreadId} {claim : Option (JobOwner V)}
    (h : Function.update owners tid claim tid' = some owner) :
    tid' = tid ∧ claim = some owner ∨ tid' ≠ tid ∧ owners tid' = some owner := by
  by_cases heq : tid' = tid
  · subst heq
    exact .inl ⟨rfl, by simpa using h⟩
  · exact .inr ⟨heq, by simpa [heq] using h⟩

theorem update_object_cases {objects : JobRef → Option (JobState V)}
    {ref' : JobRef} {stored : JobState V}
    (h : Function.update objects ref (some stored) ref' = some job) :
    ref' = ref ∧ stored = job ∨ ref' ≠ ref ∧ objects ref' = some job := by
  by_cases heq : ref' = ref
  · subst heq
    exact .inl ⟨rfl, by simpa using h⟩
  · exact .inr ⟨heq, by simpa [heq] using h⟩

section

variable (hgood : ledger.WellFormed)

include hgood

theorem WellFormed.setOwner (stage : OwnerStage V)
    (howner : ledger.owners tid = some owner) (log : List (JobEvent V)) :
    WellFormed { ledger with
      owners := Function.update ledger.owners tid
        (some { owner with stage := stage })
      log := log } := by
  refine ⟨hgood.table_sound, hgood.fresh, ?_, ?_⟩
  · intro tid' claim hclaim
    rcases update_owner_cases hclaim with ⟨-, heq⟩ | ⟨-, hold⟩
    · cases heq
      exact hgood.owner_sound tid owner howner
    · exact hgood.owner_sound tid' claim hold
  · intro tid₁ tid₂ claim₁ claim₂ h₁ h₂ href
    rcases update_owner_cases h₁ with ⟨rfl, heq₁⟩ | ⟨-, hold₁⟩ <;>
      rcases update_owner_cases h₂ with ⟨rfl, heq₂⟩ | ⟨-, hold₂⟩
    · rfl
    · cases heq₁
      exact hgood.owner_unique _ _ _ _ howner hold₂ href
    · cases heq₂
      exact hgood.owner_unique _ _ _ _ hold₁ howner href
    · exact hgood.owner_unique _ _ _ _ hold₁ hold₂ href

theorem WellFormed.dropOwner (tid : ThreadId) (log : List (JobEvent V))
    (escaped : List JobRef) : WellFormed { ledger with
      owners := Function.update ledger.owners tid none
      log := log
      escaped := escaped } := by
  refine ⟨hgood.table_sound, hgood.fresh, ?_, ?_⟩
  · intro tid' claim hclaim
    rcases update_owner_cases hclaim with ⟨-, heq⟩ | ⟨-, hold⟩
    · cases heq
    · exact hgood.owner_sound tid' claim hold
  · intro tid₁ tid₂ claim₁ claim₂ h₁ h₂ href
    rcases update_owner_cases h₁ with ⟨-, heq₁⟩ | ⟨-, hold₁⟩
    · cases heq₁
    rcases update_owner_cases h₂ with ⟨-, heq₂⟩ | ⟨-, hold₂⟩
    · cases heq₂
    exact hgood.owner_unique _ _ _ _ hold₁ hold₂ href

theorem WellFormed.writeObject {written : JobState V}
    (hobject : ledger.objects ref = some job)
    (hjobId : written.jobId = job.jobId) (hstatus : written.status ≠ .waiting) :
    WellFormed { ledger with
      objects := Function.update ledger.objects ref (some written) } := by
  refine ⟨?_, ?_, ?_, hgood.owner_unique⟩
  · intro jobId ref' htable
    obtain ⟨old, hold, hid⟩ := hgood.table_sound jobId ref' htable
    by_cases heq : ref' = ref
    · subst heq
      rw [hold] at hobject
      cases hobject
      exact ⟨written, by simp, hjobId.trans hid⟩
    · exact ⟨old, by simpa [heq] using hold, hid⟩
  · intro ref' other hother
    rcases update_object_cases hother with ⟨rfl, -⟩ | ⟨-, hold⟩
    · exact hgood.fresh _ _ hobject
    · exact hgood.fresh _ _ hold
  · intro tid owner howner
    obtain ⟨old, hold, hid, hstat⟩ := hgood.owner_sound tid owner howner
    by_cases heq : owner.ref = ref
    · subst heq
      rw [hold] at hobject
      cases hobject
      exact ⟨written, by simp, hjobId.trans hid, hstatus⟩
    · exact ⟨old, by simpa [heq] using hold, hid, hstat⟩

theorem WellFormed.ownerUpdate (howner : ledger.owners tid = some owner)
    (hupdate : OwnerUpdate policy ledger tid owner next) : next.WellFormed := by
  cases hupdate with
  | execute target job hstage htable hobject =>
    exact hgood.setOwner _ howner _
  | write run target job written stage hstage hid href htable hobject hjobId
      hpayload hterminal hnext =>
      have hstatus : written.status ≠ .waiting := by
        intro hwaiting
        simp [hwaiting, JobStatus.terminal] at hterminal
      exact (hgood.writeObject hobject hjobId hstatus).setOwner stage howner _
  | settleMissing hstage htable => exact hgood.setOwner _ howner ledger.log
  | finish hstage => exact hgood.dropOwner tid _ ledger.escaped
  | raise hraise => exact hgood.dropOwner tid ledger.log _
  | abandon hraise => exact hgood.dropOwner tid ledger.log ledger.escaped

theorem WellFormed.revise (change : JobRef → JobState V → JobState V)
    (hrevise : ∀ ref job, ledger.objects ref = some job →
      job.Revises (change ref job)) : WellFormed { ledger with
      objects := fun ref => (ledger.objects ref).map (change ref) } := by
  refine ⟨?_, ?_, ?_, hgood.owner_unique⟩
  · intro jobId ref htable
    obtain ⟨job, hjob, hid⟩ := hgood.table_sound jobId ref htable
    exact ⟨change ref job, by simp [hjob], (hrevise ref job hjob).jobId.trans hid⟩
  · intro ref job hjob
    obtain ⟨old, hold, -⟩ := Option.map_eq_some_iff.mp hjob
    exact hgood.fresh ref old hold
  · intro tid owner howner
    obtain ⟨job, hjob, hid, hstatus⟩ := hgood.owner_sound tid owner howner
    have hrev := hrevise owner.ref job hjob
    refine ⟨change owner.ref job, by simp [hjob], hrev.jobId.trans hid, ?_⟩
    rcases hrev.status with hsame | ⟨hwaiting, -⟩
    · rwa [hsame]
    · exact absurd hwaiting hstatus

theorem WellFormed.ne_of_fresh (hfresh : job.enqueueSeq = ledger.count + 1)
    {old : JobState V} (hold : ledger.objects ref = some old) :
    ref ≠ job.enqueueSeq := by
  intro heq
  have hle : ref ≤ ledger.count := hgood.fresh ref old hold
  rw [heq, hfresh] at hle
  exact absurd hle (Nat.not_succ_le_self _)

theorem WellFormed.store (job : JobState V)
    (hfresh : job.enqueueSeq = ledger.count + 1) : WellFormed { ledger with
      objects := Function.update ledger.objects job.enqueueSeq (some job)
      table := Function.update ledger.table job.jobId (some job.enqueueSeq)
      count := job.enqueueSeq
      log := ledger.log ++ [.submitted job.enqueueSeq] } := by
  refine ⟨?_, ?_, ?_, hgood.owner_unique⟩
  · intro jobId ref htable
    by_cases heq : jobId = job.jobId
    · subst heq
      have href : job.enqueueSeq = ref := by simpa using htable
      subst href
      exact ⟨job, by simp, rfl⟩
    · have htable' : ledger.table jobId = some ref := by simpa [heq] using htable
      obtain ⟨old, hold, hid⟩ := hgood.table_sound jobId ref htable'
      exact ⟨old, by simpa [hgood.ne_of_fresh hfresh hold] using hold, hid⟩
  · intro ref old hold
    rcases update_object_cases hold with ⟨rfl, -⟩ | ⟨-, hold⟩
    · exact le_rfl
    · have hle : ref ≤ ledger.count := hgood.fresh ref old hold
      exact hle.trans (hfresh ▸ Nat.le_succ _)
  · intro tid owner howner
    obtain ⟨old, hold, hid, hstatus⟩ := hgood.owner_sound tid owner howner
    exact ⟨old, by simpa [hgood.ne_of_fresh hfresh hold] using hold, hid, hstatus⟩

theorem WellFormed.pick {running : JobState V}
    (hobject : ledger.objects ref = some job) (hwaiting : job.status = .waiting)
    (hrunning : running.status = .running) (hjobId : running.jobId = job.jobId)
    (slot : Option JobId) (log : List (JobEvent V)) : WellFormed { ledger with
      objects := Function.update ledger.objects ref (some running)
      slot := slot
      owners := Function.update ledger.owners tid
        (some { jobId := job.jobId, ref := ref, stage := .picked })
      log := log } := by
  have hwritten := hgood.writeObject hobject hjobId (by simp [hrunning])
  have hother : ∀ tid' owner, ledger.owners tid' = some owner →
      owner.ref ≠ ref := by
    intro tid' owner howner heq
    obtain ⟨old, hold, -, hstatus⟩ := hgood.owner_sound tid' owner howner
    rw [heq, hobject] at hold
    cases hold
    exact hstatus hwaiting
  refine ⟨hwritten.table_sound, hwritten.fresh, ?_, ?_⟩
  · intro tid' claim hclaim
    rcases update_owner_cases hclaim with ⟨-, heq⟩ | ⟨-, hold⟩
    · cases heq
      exact ⟨running, by simp, hjobId, by simp [hrunning]⟩
    · exact hwritten.owner_sound tid' claim hold
  · intro tid₁ tid₂ claim₁ claim₂ h₁ h₂ href
    rcases update_owner_cases h₁ with ⟨rfl, heq₁⟩ | ⟨-, hold₁⟩ <;>
      rcases update_owner_cases h₂ with ⟨rfl, heq₂⟩ | ⟨-, hold₂⟩
    · rfl
    · cases heq₁
      exact absurd href.symm (hother _ _ hold₂)
    · cases heq₂
      exact absurd href (hother _ _ hold₁)
    · exact hgood.owner_unique _ _ _ _ hold₁ hold₂ href

theorem WellFormed.update (hupdate : Update policy ledger next) :
    next.WellFormed := by
  cases hupdate with
  | revise change hrevise => exact hgood.revise change hrevise
  | clearStale hstale | tail hpolicy =>
    exact ⟨hgood.table_sound, hgood.fresh, hgood.owner_sound,
      hgood.owner_unique⟩
  | store job hpolicy hfresh hwaiting hresults hfinal =>
    exact hgood.store job hfresh
  | drop jobId hslot hterminal =>
    refine ⟨?_, hgood.fresh, hgood.owner_sound, hgood.owner_unique⟩
    intro jobId' ref' htable'
    by_cases heq : jobId' = jobId
    · simp [heq] at htable'
    · exact hgood.table_sound jobId' ref' (by simpa [heq] using htable')
  | pick tid ref job running hslot hidle htable hobject hwaiting hrunning
      hjobId hpayload hresults hfinal =>
      exact hgood.pick hobject hwaiting hrunning hjobId _ _
  | owner tid owner next howner hownerUpdate =>
    exact hgood.ownerUpdate howner hownerUpdate

end

/-- A well-formed ledger in which an exception is in flight only where the
policy allows exceptions to leave a run. -/
structure Sound (policy : LedgerPolicy V) (ledger : JobLedger V) : Prop where
  wellFormed : ledger.WellFormed
  pending : ∀ tid owner, ledger.owners tid = some owner →
    owner.stage = .settled true → policy.raise

theorem Sound.update (hsound : ledger.Sound policy)
    (hupdate : Update policy ledger next) : next.Sound policy := by
  refine ⟨hsound.wellFormed.update hupdate, ?_⟩
  have hold := hsound.pending
  cases hupdate with
  | revise _ _ | clearStale _ | store _ _ _ _ _ _ | drop _ _ _ | tail _ =>
    exact hold
  | pick tid ref job running =>
    intro tid' claim hclaim hstage
    rcases update_owner_cases hclaim with ⟨-, heq⟩ | ⟨-, hprev⟩
    · cases heq
      cases hstage
    · exact hold tid' claim hprev hstage
  | owner tid owner next howner hownerUpdate =>
    intro tid' claim hclaim hstage
    cases hownerUpdate with
    | execute target job | settleMissing =>
      rcases update_owner_cases hclaim with ⟨-, heq⟩ | ⟨-, hprev⟩
      · cases heq
        cases hstage
      · exact hold tid' claim hprev hstage
    | write run target job written stage _ _ _ _ _ _ _ _ hnext =>
      rcases update_owner_cases hclaim with ⟨-, heq⟩ | ⟨-, hprev⟩
      · cases heq
        simp only at hstage
        subst hstage
        rcases hnext with hnext | hnext | hnext
        · cases hnext
        · cases hnext
        · exact hnext.2
      · exact hold tid' claim hprev hstage
    | finish | raise | abandon =>
      rcases update_owner_cases hclaim with ⟨-, heq⟩ | ⟨-, hprev⟩
      · cases heq
      · exact hold tid' claim hprev hstage

end JobLedger

end PycloudParallel.JobQueue
