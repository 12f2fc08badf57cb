import PycloudParallel.JobQueueWedgeFreedom
import Mathlib.Data.String.Basic

/-!
# What the operations do to the waiting order

`_waiting_order` is a list of ids that is cleaned only when somebody prunes
it, while the jobs change elsewhere.  `Follows` says what every operation other
than a submission and a move does: entries keep their object and the fields of
their key, nobody becomes waiting again, and ids leave the order without
changing places, never while their job still waits.
-/

namespace PycloudParallel.JobQueue

variable {V : Type}

structure JobState.SameKey (job changed : JobState V) : Prop where
  jobId : changed.jobId = job.jobId
  priority : changed.priority = job.priority
  submittedAt : changed.submittedAt = job.submittedAt
  enqueueSeq : changed.enqueueSeq = job.enqueueSeq

theorem JobState.SameKey.refl (job : JobState V) : job.SameKey job :=
  ⟨rfl, rfl, rfl, rfl⟩

variable {job other : JobState V}

theorem JobState.SameKey.trans {changed last : JobState V}
    (hfirst : job.SameKey changed) (hsecond : changed.SameKey last) :
    job.SameKey last :=
  ⟨hsecond.jobId.trans hfirst.jobId, hsecond.priority.trans hfirst.priority,
    hsecond.submittedAt.trans hfirst.submittedAt,
    hsecond.enqueueSeq.trans hfirst.enqueueSeq⟩

theorem JobState.before_iff :
    job.before other = true ↔
      other.priority < job.priority ∨ job.priority = other.priority ∧
        (job.submittedAt < other.submittedAt ∨
          job.submittedAt = other.submittedAt ∧
            (job.enqueueSeq < other.enqueueSeq ∨
              job.enqueueSeq = other.enqueueSeq ∧ job.jobId < other.jobId)) := by
  unfold JobState.before
  by_cases hpriority : job.priority = other.priority
  · by_cases hsubmitted : job.submittedAt = other.submittedAt
    · by_cases hseq : job.enqueueSeq = other.enqueueSeq <;>
        simp [hpriority, hsubmitted, hseq]
    · simp [hpriority, hsubmitted]
  · simp [hpriority]

theorem JobState.before_congr {job' other' : JobState V}
    (hjob : job.SameKey job') (hother : other.SameKey other') :
    job'.before other' = job.before other := by
  simp only [JobState.before, hjob.jobId, hjob.priority, hjob.submittedAt,
    hjob.enqueueSeq, hother.jobId, hother.priority, hother.submittedAt,
    hother.enqueueSeq]

theorem JobState.before_trans {last : JobState V}
    (hfirst : job.before other = true) (hsecond : other.before last = true) :
    job.before last = true := by
  rw [JobState.before_iff] at hfirst hsecond ⊢
  rcases hfirst with hfirst | ⟨hpriority, hfirst⟩
  · left
    omega
  · rcases hsecond with hsecond | ⟨hpriority', hsecond⟩
    · left
      omega
    · refine .inr ⟨hpriority.trans hpriority', ?_⟩
      rcases hfirst with hfirst | ⟨hsubmitted, hfirst⟩
      · left
        omega
      · rcases hsecond with hsecond | ⟨hsubmitted', hsecond⟩
        · left
          omega
        · refine .inr ⟨hsubmitted.trans hsubmitted', ?_⟩
          rcases hfirst with hfirst | ⟨hseq, hfirst⟩
          · left
            omega
          · rcases hsecond with hsecond | ⟨hseq', hsecond⟩
            · left
              omega
            · exact .inr ⟨hseq.trans hseq', lt_trans hfirst hsecond⟩

theorem JobState.before_of_not_before (hne : job.jobId ≠ other.jobId)
    (hnot : ¬job.before other = true) : other.before job = true := by
  rw [JobState.before_iff] at hnot ⊢
  push Not at hnot
  obtain ⟨hpriority, hrest⟩ := hnot
  by_cases heq : job.priority = other.priority
  · obtain ⟨hsubmitted, hrest⟩ := hrest heq
    refine .inr ⟨heq.symm, ?_⟩
    by_cases heq : job.submittedAt = other.submittedAt
    · obtain ⟨hseq, hrest⟩ := hrest heq
      refine .inr ⟨heq.symm, ?_⟩
      by_cases heq : job.enqueueSeq = other.enqueueSeq
      · exact .inr ⟨heq.symm, lt_of_le_of_ne (hrest heq) hne.symm⟩
      · left
        omega
    · left
      omega
  · left
    omega

def JobState.Settles (job changed : JobState V) : Prop :=
  job.SameKey changed ∧ (changed.pickable = true → job.pickable = true)

theorem JobState.Settles.refl (job : JobState V) : JobState.Settles job job :=
  ⟨.refl job, fun h => h⟩

theorem JobState.Settles.of_status {changed : JobState V}
    (hkey : job.SameKey changed) (hstatus : changed.status ≠ .waiting) :
    JobState.Settles job changed := by
  refine ⟨hkey, fun hpickable => ?_⟩
  simp [JobState.pickable, hstatus] at hpickable

namespace JobQueueManager

variable {m next : JobQueueManager V}

variable {jobId : JobId}

theorem pickableId_iff :
    m.pickableId jobId = true ↔
      ∃ ref job, m.entry jobId = some (ref, job) ∧ job.pickable = true := by
  unfold pickableId
  cases hentry : m.entry jobId with
  | none => simp
  | some item =>
    obtain ⟨ref, job⟩ := item
    simp

structure Follows (m next : JobQueueManager V) : Prop where
  entry : ∀ jobId ref changed, next.entry jobId = some (ref, changed) →
    ∃ job, m.entry jobId = some (ref, job) ∧ job.SameKey changed ∧
      (changed.pickable = true → job.pickable = true)
  order : next.waitingOrder.Sublist m.waitingOrder
  present : ∀ jobId ∈ next.waitingOrder, (m.entry jobId).isSome = true →
    (next.entry jobId).isSome = true
  kept : ∀ jobId ∈ m.waitingOrder, next.pickableId jobId = true →
    jobId ∈ next.waitingOrder

theorem Follows.pickableId (hfollows : m.Follows next)
    (hpickable : next.pickableId jobId = true) : m.pickableId jobId = true := by
  obtain ⟨ref, changed, hentry, hchanged⟩ := pickableId_iff.mp hpickable
  obtain ⟨job, hjob, -, hback⟩ := hfollows.entry jobId ref changed hentry
  exact pickableId_iff.mpr ⟨ref, job, hjob, hback hchanged⟩

theorem Follows.trans {last : JobQueueManager V} (hfirst : m.Follows next)
    (hsecond : next.Follows last) : m.Follows last := by
  refine ⟨?_, hsecond.order.trans hfirst.order, ?_, ?_⟩
  · intro jobId ref changed hentry
    obtain ⟨mid, hmid, hmidKey, hmidBack⟩ := hsecond.entry jobId ref changed hentry
    obtain ⟨job, hjob, hkey, hback⟩ := hfirst.entry jobId ref mid hmid
    exact ⟨job, hjob, hkey.trans hmidKey, fun h => hback (hmidBack h)⟩
  · intro jobId hlisted hsome
    exact hsecond.present jobId hlisted
      (hfirst.present jobId (hsecond.order.subset hlisted) hsome)
  · intro jobId hlisted hpickable
    exact hsecond.kept jobId
      (hfirst.kept jobId hlisted (hsecond.pickableId hpickable)) hpickable

theorem Follows.of_same (hheap : next.heap = m.heap) (hjobs : next.jobs = m.jobs)
    (horder : next.waitingOrder = m.waitingOrder) : m.Follows next := by
  have hentry : ∀ jobId, next.entry jobId = m.entry jobId := by
    intro jobId
    simp only [JobQueueManager.entry, hheap, hjobs]
  refine ⟨?_, by rw [horder], ?_, ?_⟩
  · intro jobId ref job hjob
    rw [hentry] at hjob
    exact ⟨job, hjob, .refl job, fun h => h⟩
  · intro jobId _ hsome
    rw [hentry]
    exact hsome
  · intro jobId hlisted _
    rw [horder]
    exact hlisted

theorem Follows.refl (m : JobQueueManager V) : m.Follows m :=
  .of_same rfl rfl rfl

theorem follows_setPhase (tid : ThreadId) (phase : SchedulerPhase V) :
    m.Follows (m.setPhase tid phase) :=
  .of_same rfl rfl rfl

/-! ## Changes of the objects -/

theorem Follows.of_heap (hjobs : next.jobs = m.jobs)
    (horder : next.waitingOrder = m.waitingOrder)
    (hnone : ∀ ref, next.heap ref = none → m.heap ref = none)
    (hheap : ∀ ref changed, next.heap ref = some changed →
      ∃ job, m.heap ref = some job ∧ JobState.Settles job changed) :
    m.Follows next := by
  refine ⟨?_, by rw [horder], ?_, ?_⟩
  · intro jobId ref changed hentry
    obtain ⟨hlookup, hchanged⟩ := entry_eq_some.mp hentry
    rw [hjobs] at hlookup
    obtain ⟨job, hjob, hkey, hback⟩ := hheap ref changed hchanged
    exact ⟨job, entry_eq_some.mpr ⟨hlookup, hjob⟩, hkey, hback⟩
  · intro jobId _ hsome
    obtain ⟨⟨ref, job⟩, hentry⟩ := Option.isSome_iff_exists.mp hsome
    obtain ⟨hlookup, hjob⟩ := entry_eq_some.mp hentry
    cases hchanged : next.heap ref with
    | none =>
      rw [hnone ref hchanged] at hjob
      cases hjob
    | some changed =>
      have hfound : next.entry jobId = some (ref, changed) :=
        entry_eq_some.mpr ⟨by rw [hjobs]; exact hlookup, hchanged⟩
      rw [hfound]
      rfl
  · intro jobId hlisted _
    rw [horder]
    exact hlisted

theorem follows_modifyRef {ref : JobRef} {change : JobState V → JobState V}
    (hchange : ∀ job, m.heap ref = some job →
      JobState.Settles job (change job)) :
    m.Follows (m.modifyRef ref change) := by
  refine .of_heap rfl rfl ?_ ?_
  · intro ref' hnone
    by_cases heq : ref' = ref
    · subst heq
      simpa [modifyRef] using hnone
    · simpa [modifyRef, heq] using hnone
  · intro ref' changed hchanged
    by_cases heq : ref' = ref
    · subst heq
      have hmap : (m.heap ref').map change = some changed := by
        simpa [modifyRef] using hchanged
      obtain ⟨job, hjob, rfl⟩ := Option.map_eq_some_iff.mp hmap
      exact ⟨job, hjob, hchange job hjob⟩
    · have hsame : m.heap ref' = some changed := by
        simpa [modifyRef, heq] using hchanged
      exact ⟨changed, hsame, .refl changed⟩

theorem follows_modifyEntry {change : JobState V → JobState V}
    (hchange : ∀ job, JobState.Settles job (change job)) :
    m.Follows (m.modifyEntry jobId change) := by
  unfold modifyEntry
  split
  · exact .refl m
  · exact follows_modifyRef fun job _ => hchange job

theorem follows_setCheckpoint (jobId : JobId) (phase : CheckpointPhase) :
    m.Follows (m.setCheckpoint jobId phase) :=
  follows_modifyEntry fun _ => ⟨⟨rfl, rfl, rfl, rfl⟩, fun h => h⟩

theorem follows_applyRefWork (work : RefWork) (now : Nat) :
    m.Follows (m.applyRefWork work now) := by
  unfold applyRefWork
  split <;> split
  · exact .refl m
  · exact follows_modifyEntry fun _ => ⟨⟨rfl, rfl, rfl, rfl⟩, fun h => h⟩
  · exact .refl m
  · exact follows_modifyEntry fun _ => ⟨⟨rfl, rfl, rfl, rfl⟩, fun h => h⟩

theorem follows_releaseJobRefs (ref : JobRef) (now : Nat) :
    m.Follows (m.releaseJobRefs ref now) := by
  unfold releaseJobRefs
  split
  · exact .refl m
  · exact follows_applyRefWork _ now

theorem follows_writeTerminal {run : RunLocals V} {target : JobRef}
    {job written : JobState V} (hentry : m.entry jobId = some (target, job))
    (hwritten : JobState.Settles job written) :
    m.Follows (m.writeTerminal run target written) := by
  obtain ⟨-, hheap⟩ := entry_eq_some.mp hentry
  refine .of_heap rfl rfl ?_ ?_
  · intro ref hnone
    by_cases heq : ref = target
    · subst heq
      simp [writeTerminal] at hnone
    · simpa [writeTerminal, heq] using hnone
  · intro ref changed hchanged
    by_cases heq : ref = target
    · subst heq
      have hsame : written = changed := by simpa [writeTerminal] using hchanged
      subst hsame
      exact ⟨job, hheap, hwritten⟩
    · have hsame : m.heap ref = some changed := by
        simpa [writeTerminal, heq] using hchanged
      exact ⟨changed, hsame, .refl changed⟩

theorem follows_stopAndCancel (now : Nat) : m.Follows (m.stopAndCancel now) := by
  have hclose : ∀ job : JobState V, JobState.Settles job (closeJob now job) := by
    intro job
    unfold closeJob
    split
    · exact .of_status ⟨rfl, rfl, rfl, rfl⟩ (by simp)
    · exact .refl job
  refine .of_heap rfl rfl ?_ ?_
  · intro ref hnone
    simp only [stopAndCancel] at hnone
    split at hnone
    · exact Option.map_eq_none_iff.mp hnone
    · exact hnone
  · intro ref changed hchanged
    simp only [stopAndCancel] at hchanged
    split at hchanged
    · obtain ⟨job, hjob, rfl⟩ := Option.map_eq_some_iff.mp hchanged
      exact ⟨job, hjob, hclose job⟩
    · exact ⟨changed, hchanged, .refl changed⟩

theorem follows_closeBegin (now : Nat) : m.Follows (m.closeBegin now) := by
  refine (follows_stopAndCancel now).trans ?_
  have hcancel : (m.stopAndCancel now).Follows
      (m.stopAndCancel now).cancelRunning := by
    unfold cancelRunning
    split
    · exact .refl _
    · exact follows_modifyEntry fun job =>
        ⟨⟨rfl, rfl, rfl, rfl⟩, fun h => by simp [JobState.pickable] at h⟩
  exact hcancel.trans (.of_same rfl rfl rfl)

theorem follows_setWaitingOrder {order : List JobId}
    (hsub : order.Sublist m.waitingOrder)
    (hkept : ∀ jobId ∈ m.waitingOrder, m.pickableId jobId = true →
      jobId ∈ order) : m.Follows (m.setWaitingOrder order) := by
  refine ⟨?_, hsub, ?_, hkept⟩
  · intro jobId ref job hjob
    exact ⟨job, hjob, .refl job, fun h => h⟩
  · intro jobId _ hsome
    exact hsome

theorem follows_removeWaitingJob (hgone : m.pickableId jobId = false) :
    m.Follows (m.removeWaitingJob jobId) := by
  refine follows_setWaitingOrder List.filter_sublist ?_
  intro other hlisted hpickable
  refine List.mem_filter.mpr ⟨hlisted, ?_⟩
  have hne : other ≠ jobId := by
    rintro rfl
    rw [hgone] at hpickable
    cases hpickable
  simpa using hne

theorem follows_popJob (hgone : m.pickableId jobId = false) :
    m.Follows (m.popJob jobId) := by
  have hentry : ∀ other, other ≠ jobId →
      (m.popJob jobId).entry other = m.entry other := by
    intro other hne
    unfold entry popJob
    dsimp only [removeWaitingJob, setWaitingOrder]
    rw [AList.lookup_erase_ne hne]
  have herased : (m.popJob jobId).entry jobId = none := by
    unfold entry popJob
    dsimp only
    rw [AList.lookup_erase]
    rfl
  have hremoved := follows_removeWaitingJob hgone
  refine ⟨?_, hremoved.order, ?_, ?_⟩
  · intro other ref changed hchanged
    by_cases heq : other = jobId
    · subst heq
      rw [herased] at hchanged
      cases hchanged
    · rw [hentry other heq] at hchanged
      exact ⟨changed, hchanged, .refl changed, fun h => h⟩
  · intro other hlisted hsome
    have hne : other ≠ jobId := by
      simpa using (List.mem_filter.mp hlisted).2
    rw [hentry other hne]
    exact hsome
  · intro other hlisted hpickable
    obtain ⟨ref, job, hjob, hjobPickable⟩ := pickableId_iff.mp hpickable
    by_cases heq : other = jobId
    · subst heq
      rw [herased] at hjob
      cases hjob
    · rw [hentry other heq] at hjob
      exact hremoved.kept other hlisted
        (pickableId_iff.mpr ⟨ref, job, hjob, hjobPickable⟩)

theorem follows_dropJobs {gone : List (JobId × JobRef)}
    (hgone : ∀ item ∈ gone, m.pickableId item.1 = false) :
    m.Follows (m.dropJobs gone) := by
  induction gone generalizing m with
  | nil => exact .refl m
  | cons item rest ih =>
    obtain ⟨jobId, ref⟩ := item
    have hpop : m.Follows (m.popJob jobId) :=
      follows_popJob (hgone (jobId, ref) List.mem_cons_self)
    refine hpop.trans (ih ?_)
    intro other hother
    have hbefore := hgone other (List.mem_cons_of_mem _ hother)
    by_contra hpickable
    have hback := hpop.pickableId (Bool.eq_true_of_not_eq_false hpickable)
    rw [hbefore] at hback
    cases hback

theorem follows_cleanupJobs (now : Nat) : m.Follows (m.cleanupJobs now).1 := by
  refine follows_dropJobs ?_
  intro item hitem
  obtain ⟨hmem, hexpired⟩ := List.mem_filter.mp hitem
  by_contra hpickable
  obtain ⟨ref, job, hentry, hjob⟩ :=
    pickableId_iff.mp (Bool.eq_true_of_not_eq_false hpickable)
  obtain ⟨hlookup, hheap⟩ := entry_eq_some.mp hentry
  have href : item.2 = ref := by
    have hitems : m.jobs.lookup item.1 = some item.2 :=
      OrderedDict.mem_items.mp hmem
    rw [hlookup] at hitems
    exact (Option.some.inj hitems).symm
  rw [href, hheap] at hexpired
  simp only [expired, Bool.and_eq_true] at hexpired
  simp only [JobState.pickable, Bool.and_eq_true, beq_iff_eq] at hjob
  rw [hjob.1] at hexpired
  cases hexpired.1

theorem pruneFrom_sublist (seen order : List JobId) :
    (m.pruneFrom seen order).Sublist order := by
  induction order generalizing seen with
  | nil => exact .refl _
  | cons jobId rest ih =>
    unfold pruneFrom
    split
    · exact (ih seen).cons jobId
    · split
      · exact (ih _).cons_cons jobId
      · exact (ih _).cons jobId

theorem mem_pruneFrom {seen order : List JobId} :
    jobId ∈ m.pruneFrom seen order ↔
      jobId ∈ order ∧ jobId ∉ seen ∧ m.pickableId jobId = true := by
  induction order generalizing seen with
  | nil => simp [pruneFrom]
  | cons other rest ih =>
    unfold pruneFrom
    split
    · next hseen =>
      rw [ih]
      constructor
      · rintro ⟨hrest, hfresh, hpickable⟩
        exact ⟨List.mem_cons_of_mem _ hrest, hfresh, hpickable⟩
      · rintro ⟨hmem, hfresh, hpickable⟩
        rcases List.mem_cons.mp hmem with rfl | hrest
        · exact absurd hseen hfresh
        · exact ⟨hrest, hfresh, hpickable⟩
    · next hunseen =>
      split
      · next hother =>
        rw [List.mem_cons, ih, List.mem_cons, List.mem_cons]
        constructor
        · rintro (rfl | ⟨hrest, hfresh, hpickable⟩)
          · exact ⟨.inl rfl, hunseen, hother⟩
          · exact ⟨.inr hrest, fun h => hfresh (.inr h), hpickable⟩
        · rintro ⟨hmem, hfresh, hpickable⟩
          by_cases heq : jobId = other
          · exact .inl heq
          · refine .inr ⟨hmem.resolve_left heq, ?_, hpickable⟩
            rintro (h | h)
            · exact heq h
            · exact hfresh h
      · next hother =>
        rw [ih, List.mem_cons, List.mem_cons]
        constructor
        · rintro ⟨hrest, hfresh, hpickable⟩
          exact ⟨.inr hrest, fun h => hfresh (.inr h), hpickable⟩
        · rintro ⟨hmem, hfresh, hpickable⟩
          have hne : jobId ≠ other := by
            rintro rfl
            exact hother hpickable
          refine ⟨hmem.resolve_left hne, ?_, hpickable⟩
          rintro (h | h)
          · exact hne h
          · exact hfresh h

theorem nodup_pruneFrom (seen order : List JobId) :
    (m.pruneFrom seen order).Nodup := by
  induction order generalizing seen with
  | nil => exact .nil
  | cons jobId rest ih =>
    unfold pruneFrom
    split
    · exact ih seen
    · split
      · refine List.nodup_cons.mpr ⟨fun hmem => ?_, ih _⟩
        exact (mem_pruneFrom.mp hmem).2.1 List.mem_cons_self
      · exact ih _

theorem mem_pruneWaitingOrder :
    jobId ∈ m.pruneWaitingOrder.waitingOrder ↔
      jobId ∈ m.waitingOrder ∧ m.pickableId jobId = true := by
  unfold pruneWaitingOrder setWaitingOrder
  dsimp only
  rw [mem_pruneFrom]
  simp

theorem follows_pruneWaitingOrder : m.Follows m.pruneWaitingOrder :=
  follows_setWaitingOrder (pruneFrom_sublist [] m.waitingOrder)
    fun _ hlisted hpickable => mem_pruneWaitingOrder.mpr ⟨hlisted, hpickable⟩

end JobQueueManager

end PycloudParallel.JobQueue
