import PycloudParallel.JobQueuePriority

/-!
# Job objects never go back

Whatever is submitted, cancelled, closed and run in whatever order, a job object
keeps its id and its payload, one that has begun waits no more, one that has
ended stays so, and two threads never hold one object.
-/

namespace PycloudParallel.JobQueue

variable {V : Type}

structure JobState.Advances (job later : JobState V) : Prop where
  jobId : later.jobId = job.jobId
  payload : later.payload = job.payload
  begun : job.status ≠ .waiting → later.status ≠ .waiting
  ended : job.status.terminal = true → later.status.terminal = true

variable {job later last : JobState V}

theorem JobState.Advances.refl (job : JobState V) : job.Advances job :=
  ⟨rfl, rfl, id, id⟩

theorem JobState.Advances.trans (hfirst : job.Advances later)
    (hsecond : later.Advances last) : job.Advances last where
  jobId := hsecond.jobId.trans hfirst.jobId
  payload := hsecond.payload.trans hfirst.payload
  begun := hsecond.begun ∘ hfirst.begun
  ended := hsecond.ended ∘ hfirst.ended

theorem JobState.Revises.advances (hrevise : job.Revises later) :
    job.Advances later := by
  refine ⟨hrevise.jobId, hrevise.payload, ?_, ?_⟩
  · intro hbegun
    rcases hrevise.status with hsame | ⟨hwaiting, -⟩
    · rwa [hsame]
    · exact absurd hwaiting hbegun
  · intro hended
    rcases hrevise.status with hsame | ⟨-, hcancelled⟩
    · rwa [hsame]
    · rw [hcancelled]
      rfl

namespace JobLedger

def Advances (ledger next : JobLedger V) : Prop :=
  ∀ ref job, ledger.objects ref = some job →
    ∃ later, next.objects ref = some later ∧ job.Advances later

variable {ledger next : JobLedger V} {policy : LedgerPolicy V} {ref : JobRef}

theorem Advances.of_objects_eq (hsame : next.objects = ledger.objects) :
    ledger.Advances next :=
  fun ref job hjob => ⟨job, by rw [hsame, hjob], .refl job⟩

theorem Advances.setObject (hjob : ledger.objects ref = some job)
    (hobjects : next.objects = Function.update ledger.objects ref (some later))
    (hadvances : job.Advances later) : ledger.Advances next := by
  intro other found hfound
  rw [hobjects]
  by_cases hsame : other = ref
  · subst hsame
    rw [hjob] at hfound
    cases hfound
    exact ⟨later, Function.update_self _ _ _, hadvances⟩
  · exact ⟨found, by rwa [Function.update_of_ne hsame], .refl found⟩

theorem Update.advances (hwell : ledger.WellFormed)
    (hupdate : Update policy ledger next) : ledger.Advances next := by
  cases hupdate with
  | revise change hrevise =>
    intro ref job hjob
    exact ⟨change ref job, by simp [hjob], (hrevise ref job hjob).advances⟩
  | store job hpolicy hfresh hwaiting hresults hfinal =>
    intro ref old hold
    have hne : ref ≠ job.enqueueSeq := by
      have hle : ref ≤ ledger.count := hwell.fresh ref old hold
      rw [hfresh]
      exact Nat.ne_of_lt (Nat.lt_succ_of_le hle)
    exact ⟨old, by simpa [hne] using hold, .refl old⟩
  | pick tid ref job running hslot hidle htable hobject hwaiting hrunning hjobId
      hpayload hresults hfinal =>
    refine .setObject hobject rfl ⟨hjobId, hpayload, ?_, ?_⟩
    · exact fun hbegun => absurd hwaiting hbegun
    · intro hended
      rw [hwaiting] at hended
      cases hended
  | clearStale _ | drop _ _ _ | tail _ => exact .of_objects_eq rfl
  | owner tid owner next howner hchange =>
    cases hchange with
    | write run target job written stage hstage hid href htable hobject hjobId
        hpayload hterminal hnext =>
      refine .setObject hobject rfl ⟨hjobId, hpayload, ?_, fun _ => hterminal⟩
      intro _ hwaiting
      rw [hwaiting] at hterminal
      cases hterminal
    | execute _ _ _ _ _ | settleMissing _ _ | finish _ | raise _ | abandon _ =>
      exact .of_objects_eq rfl

end JobLedger

namespace JobQueueManager

variable {m next : JobQueueManager V}

/-- From any reachable state on, every object advances, and no object is held by
two threads. -/
theorem jobs_never_go_back {retentionSec authTtlSec stagedRefTtlSec : Nat}
    (hreach : Reachable step (init retentionSec authTtlSec stagedRefTtlSec) m)
    (hmore : Reachable step m next) :
    (∀ ref job, m.heap ref = some job →
      ∃ later, next.heap ref = some later ∧ job.Advances later) ∧
    ∀ (tid tid' : ThreadId) owner owner',
      next.threads[tid]?.bind SchedulerPhase.owner = some owner →
        next.threads[tid']?.bind SchedulerPhase.owner = some owner' →
          owner.ref = owner'.ref → tid = tid' := by
  have hsound := hreach.invariant (fun m => m.ledger.Sound anyPolicy)
    (init_sound anyPolicy _ _ _) fun _ _ _ hsound _ hstep => step_sound hsound hstep
  have hlater := hmore.invariant
    (fun next => next.ledger.Sound anyPolicy ∧ m.ledger.Advances next.ledger)
    ⟨hsound, .of_objects_eq rfl⟩ ?_
  · exact ⟨hlater.2, hlater.1.wellFormed.owner_unique⟩
  rintro before label after ⟨hbefore, hadvances⟩ - hstep
  refine invariant_of_reflTransGen
    (fun ledger => ledger.Sound anyPolicy ∧ m.ledger.Advances ledger) ?_
    (any_updates hbefore hstep) ⟨hbefore, hadvances⟩
  rintro ledger changed ⟨hledger, hso⟩ hupdate
  refine ⟨hledger.update hupdate, fun ref job hjob => ?_⟩
  obtain ⟨mid, hmid, hfirst⟩ := hso ref job hjob
  obtain ⟨final, hfinal, hsecond⟩ := hupdate.advances hledger.wellFormed ref mid hmid
  exact ⟨final, hfinal, hfirst.trans hsecond⟩

theorem jobs_never_go_back_urgentRun :
    ∃ m next : JobQueueManager Nat,
      runLabels step (init 3600 86400 86400) (urgentRun.take 2) = some m ∧
      runLabels step m (urgentRun.drop 2) = some next ∧
      ∃ job later, m.heap 2 = some job ∧ next.heap 2 = some later ∧
        job.status = .waiting ∧ job.Advances later ∧ later.status = .cancelled := by
  have hmoves : ∀ m next : JobQueueManager Nat,
      runLabels step (init 3600 86400 86400) (urgentRun.take 2) = some m →
      runLabels step m (urgentRun.drop 2) = some next → ∀ job, m.heap 2 = some job →
        ∃ later, next.heap 2 = some later ∧ job.Advances later :=
    fun _ _ hstart hrest => (jobs_never_go_back (reachable_of_runLabels _ hstart)
      (reachable_of_runLabels _ hrest)).1 2
  obtain ⟨later, hlater, hadvances⟩ := hmoves _ _ rfl rfl _ rfl
  refine ⟨_, _, rfl, rfl, _, later, rfl, hlater, rfl, hadvances, ?_⟩
  cases hlater
  rfl

end JobQueueManager

end PycloudParallel.JobQueue
