import PycloudParallel.JobQueueSubmissions
import PycloudParallel.JobQueueWaitingSteps

/-!
# Waiting jobs are picked by priority

`Queued` is the invariant of `_waiting_order`: no id twice, no id without an
entry, no waiting job left out.  It survives every operation when submissions
come with ids that are not in the table.  As long as nobody moves a job, the
order is also sorted by the key of the jobs, so that the first waiting id is
the one with the least key.
-/

namespace PycloudParallel.JobQueue

variable {V : Type}

namespace JobQueueManager

variable {m next : JobQueueManager V}

structure Queued (m : JobQueueManager V) : Prop where
  nodup : m.waitingOrder.Nodup
  present : ∀ jobId ∈ m.waitingOrder, (m.entry jobId).isSome = true
  complete : ∀ jobId, m.pickableId jobId = true → jobId ∈ m.waitingOrder

def Ahead (m : JobQueueManager V) (jobId otherId : JobId) : Prop :=
  ∀ ref job otherRef other, m.entry jobId = some (ref, job) →
    m.entry otherId = some (otherRef, other) → job.before other = true

def Sorted (m : JobQueueManager V) : Prop :=
  m.waitingOrder.Pairwise m.Ahead

theorem Queued.follows (hqueued : m.Queued) (hfollows : m.Follows next) :
    next.Queued := by
  refine ⟨hqueued.nodup.sublist hfollows.order, ?_, ?_⟩
  · intro jobId hlisted
    exact hfollows.present jobId hlisted
      (hqueued.present jobId (hfollows.order.subset hlisted))
  · intro jobId hpickable
    exact hfollows.kept jobId
      (hqueued.complete jobId (hfollows.pickableId hpickable)) hpickable

theorem Sorted.follows (hsorted : m.Sorted) (hfollows : m.Follows next) :
    next.Sorted := by
  have hbefore : next.waitingOrder.Pairwise m.Ahead :=
    List.Pairwise.sublist hfollows.order hsorted
  refine hbefore.imp ?_
  intro jobId otherId hahead ref changed otherRef otherChanged hentry hother
  obtain ⟨job, hjob, hkey, -⟩ := hfollows.entry _ _ _ hentry
  obtain ⟨other, hotherJob, hotherKey, -⟩ := hfollows.entry _ _ _ hother
  rw [JobState.before_congr hkey hotherKey]
  exact hahead ref job otherRef other hjob hotherJob

/-! ## The insertion of a submitted job -/

theorem insertByKey_perm (job : JobState V) (order : List JobId) :
    (m.insertByKey job order).Perm (job.jobId :: order) := by
  induction order with
  | nil => exact .refl _
  | cons other rest ih =>
    have hskip : (other :: m.insertByKey job rest).Perm
        (job.jobId :: other :: rest) :=
      (ih.cons other).trans (.swap job.jobId other rest)
    unfold insertByKey
    split
    · exact hskip
    · split
      · exact .refl _
      · exact hskip

theorem sublist_insertByKey (job : JobState V) (order : List JobId) :
    order.Sublist (m.insertByKey job order) := by
  induction order with
  | nil => exact List.nil_sublist _
  | cons other rest ih =>
    unfold insertByKey
    split
    · exact ih.cons_cons other
    · split
      · exact .cons _ (.refl _)
      · exact ih.cons_cons other

variable {job : JobState V} {ref : JobRef} {jobId : JobId}
  {label : JobQueueLabel V}

theorem insertByKey_sorted {order : List JobId}
    (hentry : m.entry job.jobId = some (ref, job))
    (hids : ∀ jobId otherRef other, m.entry jobId = some (otherRef, other) →
      other.jobId = jobId)
    (hpresent : ∀ jobId ∈ order, (m.entry jobId).isSome = true)
    (hfresh : job.jobId ∉ order) (hsorted : order.Pairwise m.Ahead) :
    (m.insertByKey job order).Pairwise m.Ahead := by
  induction order with
  | nil => exact List.pairwise_singleton _ _
  | cons otherId rest ih =>
    obtain ⟨hhead, hrest⟩ := List.pairwise_cons.mp hsorted
    obtain ⟨⟨otherRef, other⟩, hother⟩ := Option.isSome_iff_exists.mp
      (hpresent otherId List.mem_cons_self)
    unfold insertByKey
    rw [hother]
    dsimp only
    split
    · next hbefore =>
      refine List.pairwise_cons.mpr ⟨?_, hsorted⟩
      intro lastId hlast ref' job' lastRef last hjob' hlastEntry
      rw [hentry] at hjob'
      cases hjob'
      rcases List.mem_cons.mp hlast with rfl | hmem
      · rw [hother] at hlastEntry
        cases hlastEntry
        exact hbefore
      · exact JobState.before_trans hbefore
          (hhead lastId hmem otherRef other lastRef last hother hlastEntry)
    · next hnot =>
      have hne : job.jobId ≠ other.jobId := by
        rw [hids otherId otherRef other hother]
        intro heq
        exact hfresh (heq ▸ List.mem_cons_self)
      have hahead : m.Ahead otherId job.jobId := by
        intro ref' other' jobRef job' hother' hjob'
        rw [hother] at hother'
        cases hother'
        rw [hentry] at hjob'
        cases hjob'
        exact JobState.before_of_not_before hne hnot
      refine List.pairwise_cons.mpr ⟨?_, ih
        (fun jobId hmem => hpresent jobId (List.mem_cons_of_mem _ hmem))
        (fun hmem => hfresh (List.mem_cons_of_mem _ hmem)) hrest⟩
      intro lastId hlast
      rcases List.mem_cons.mp ((insertByKey_perm job rest).mem_iff.mp hlast) with
        rfl | hmem
      · exact hahead
      · exact hhead lastId hmem

structure Submits (m next : JobQueueManager V) (jobId : JobId) (ref : JobRef)
    (job : JobState V) : Prop where
  jobId_eq : job.jobId = jobId
  pickable : job.pickable = true
  new : m.entry jobId = none
  entry_self : next.entry jobId = some (ref, job)
  entry_other : ∀ other, other ≠ jobId → next.entry other = m.entry other
  order : next.waitingOrder =
    next.insertByKey job (m.pruneFrom [] m.waitingOrder)

theorem pruneFrom_congr (seen order : List JobId)
    (hsame : ∀ jobId ∈ order, next.pickableId jobId = m.pickableId jobId) :
    next.pruneFrom seen order = m.pruneFrom seen order := by
  induction order generalizing seen with
  | nil => rfl
  | cons jobId rest ih =>
    have hrest := fun seen => ih seen fun other hother =>
      hsame other (List.mem_cons_of_mem _ hother)
    unfold pruneFrom
    rw [hsame jobId List.mem_cons_self, hrest, hrest]

theorem insertByKey_congr (job : JobState V) (order : List JobId)
    (hsame : ∀ jobId ∈ order, next.entry jobId = m.entry jobId) :
    next.insertByKey job order = m.insertByKey job order := by
  induction order with
  | nil => rfl
  | cons jobId rest ih =>
    have hrest := ih fun other hother =>
      hsame other (List.mem_cons_of_mem _ hother)
    unfold insertByKey
    rw [hsame jobId List.mem_cons_self, hrest]

theorem ensureSchedulerThread_same :
    (∀ jobId, m.ensureSchedulerThread.entry jobId = m.entry jobId) ∧
      m.ensureSchedulerThread.waitingOrder = m.waitingOrder := by
  unfold ensureSchedulerThread
  split
  · exact ⟨fun _ => rfl, rfl⟩
  · split <;> exact ⟨fun _ => rfl, rfl⟩

theorem detachStaleRunning_same :
    m.detachStaleRunning.waitingOrder = m.waitingOrder ∧
      m.detachStaleRunning.enqueueSeq = m.enqueueSeq := by
  unfold detachStaleRunning
  split
  · exact ⟨rfl, rfl⟩
  · split
    · exact ⟨rfl, rfl⟩
    · split <;> exact ⟨rfl, rfl⟩

theorem submitSection_submits (hgood : m.ledger.WellFormed) (hqueued : m.Queued)
    (payload : JobPayload V) (generatedId generatedClient digest : String)
    (now : Nat) (hnew : m.entry (submittedJobId payload generatedId) = none) :
    m.Submits (m.submitSection payload generatedId generatedClient digest now)
      (submittedJobId payload generatedId) (m.enqueueSeq + 1)
      (m.detachStaleRunning.newJobState payload generatedId generatedClient digest
        now) := by
  obtain ⟨hdetachedOrder, hdetachedSeq⟩ := detachStaleRunning_same (m := m)
  have hother : ∀ other, other ≠ submittedJobId payload generatedId →
      (m.submitSection payload generatedId generatedClient digest now).entry
        other = m.entry other :=
    fun other hne => entry_submitSection hgood payload _ _ _ _ hne
  let job := m.detachStaleRunning.newJobState payload generatedId generatedClient
    digest now
  let stored := m.detachStaleRunning.storeJob job
  have hnextEntry : ∀ jobId, (m.submitSection payload generatedId generatedClient
      digest now).entry jobId = stored.entry jobId := fun jobId =>
    ensureSchedulerThread_same.1 jobId
  have hnextOrder : (m.submitSection payload generatedId generatedClient digest
      now).waitingOrder =
        stored.insertByKey job (stored.pruneFrom [] m.waitingOrder) := by
    have hensure : (m.submitSection payload generatedId generatedClient digest
        now).waitingOrder = (stored.insertWaitingJob job).waitingOrder :=
      ensureSchedulerThread_same.2
    rw [hensure, ← hdetachedOrder]
    exact insertByKey_congr job _ fun _ _ => rfl
  have hsame : ∀ jobId ∈ m.waitingOrder,
      stored.pickableId jobId = m.pickableId jobId := by
    intro jobId hlisted
    have hne : jobId ≠ submittedJobId payload generatedId := by
      rintro rfl
      have hsome := hqueued.present _ hlisted
      rw [hnew] at hsome
      cases hsome
    unfold pickableId
    rw [← hnextEntry, hother jobId hne]
  refine ⟨rfl, rfl, hnew, ?_, hother, ?_⟩
  · rw [hnextEntry, ← hdetachedSeq]
    exact entry_eq_some.mpr ⟨OrderedDict.lookup_set_self _ _ _, by
      simp [stored, storeJob, job, newJobState]⟩
  · rw [hnextOrder, pruneFrom_congr [] m.waitingOrder hsame]
    exact insertByKey_congr job _ fun jobId _ => (hnextEntry jobId).symm

section

variable (hsubmits : m.Submits next jobId ref job)

include hsubmits

theorem Submits.not_listed (hqueued : m.Queued) : jobId ∉ m.waitingOrder := by
  intro hlisted
  have hsome := hqueued.present jobId hlisted
  rw [hsubmits.new] at hsome
  cases hsome

theorem Submits.perm :
    next.waitingOrder.Perm (jobId :: m.pruneWaitingOrder.waitingOrder) := by
  rw [hsubmits.order, ← hsubmits.jobId_eq]
  exact insertByKey_perm job _

theorem Submits.queued (hqueued : m.Queued) : next.Queued := by
  have hperm := hsubmits.perm
  have hmem : ∀ other, other ∈ next.waitingOrder ↔
      other = jobId ∨ other ∈ m.waitingOrder ∧ m.pickableId other = true := by
    intro other
    rw [hperm.mem_iff, List.mem_cons, mem_pruneWaitingOrder]
  have hfresh := hsubmits.not_listed hqueued
  refine ⟨?_, ?_, ?_⟩
  · rw [hperm.nodup_iff, List.nodup_cons]
    exact ⟨fun hin => hfresh (mem_pruneWaitingOrder.mp hin).1,
      nodup_pruneFrom [] m.waitingOrder⟩
  · intro other hlisted
    rcases (hmem other).mp hlisted with rfl | ⟨hold, -⟩
    · rw [hsubmits.entry_self]
      rfl
    · have hne : other ≠ jobId := by
        rintro rfl
        exact hfresh hold
      rw [hsubmits.entry_other other hne]
      exact hqueued.present other hold
  · intro other hpickable
    refine (hmem other).mpr ?_
    by_cases heq : other = jobId
    · exact .inl heq
    · have hbefore : m.pickableId other = true := by
        unfold pickableId at hpickable ⊢
        rwa [← hsubmits.entry_other other heq]
      exact .inr ⟨hqueued.complete other hbefore, hbefore⟩

theorem Submits.sorted (hgood : next.ledger.WellFormed) (hqueued : m.Queued)
    (hsorted : m.Sorted) : next.Sorted := by
  have hfresh := hsubmits.not_listed hqueued
  have hlisted : ∀ other ∈ m.pruneFrom [] m.waitingOrder,
      other ∈ m.waitingOrder ∧ other ≠ jobId := by
    intro other hother
    have hold := (mem_pruneFrom.mp hother).1
    exact ⟨hold, fun heq => hfresh (heq ▸ hold)⟩
  have hpruned : (m.pruneFrom [] m.waitingOrder).Pairwise next.Ahead := by
    have hbefore : (m.pruneFrom [] m.waitingOrder).Pairwise m.Ahead :=
      List.Pairwise.sublist (pruneFrom_sublist [] _) hsorted
    refine hbefore.imp_of_mem ?_
    intro first second hfirst hsecond hahead ref job otherRef other hentry hother
    rw [hsubmits.entry_other first (hlisted first hfirst).2] at hentry
    rw [hsubmits.entry_other second (hlisted second hsecond).2] at hother
    exact hahead ref job otherRef other hentry hother
  unfold Sorted
  rw [hsubmits.order]
  have hself : next.entry job.jobId = some (ref, job) := by
    rw [hsubmits.jobId_eq]
    exact hsubmits.entry_self
  refine insertByKey_sorted hself ?_ ?_ ?_ hpruned
  · intro otherId otherRef other hother
    obtain ⟨hlookup, hheap⟩ := entry_eq_some.mp hother
    obtain ⟨found, hfound, hid⟩ := hgood.table_sound otherId otherRef hlookup
    rw [show next.ledger.objects otherRef = next.heap otherRef from rfl, hheap]
      at hfound
    cases hfound
    exact hid
  · intro other hother
    rw [hsubmits.entry_other other (hlisted other hother).2]
    exact hqueued.present other (hlisted other hother).1
  · rw [hsubmits.jobId_eq]
    intro hother
    exact (hlisted jobId hother).2 rfl

theorem Submits.relative_order (hqueued : m.Queued) :
    m.pruneWaitingOrder.waitingOrder.Sublist
      next.pruneWaitingOrder.waitingOrder := by
  have hfresh := hsubmits.not_listed hqueued
  have hkeeps : ∀ order : List JobId, order.Nodup →
      (∀ other ∈ order, next.pickableId other = true) →
        next.pruneFrom [] order = order := by
    intro order hnodup hall
    have hsub := pruneFrom_sublist (m := next) [] order
    refine hsub.eq_of_length_le ?_
    refine (List.subperm_of_subset hnodup ?_).length_le
    intro other hother
    exact mem_pruneFrom.mpr ⟨hother, by simp, hall other hother⟩
  have hpruned : next.pruneWaitingOrder.waitingOrder = next.waitingOrder := by
    refine hkeeps next.waitingOrder (hsubmits.queued hqueued).nodup ?_
    intro other hother
    rw [hsubmits.perm.mem_iff, List.mem_cons, mem_pruneWaitingOrder] at hother
    rcases hother with rfl | ⟨hold, hpickable⟩
    · exact pickableId_iff.mpr ⟨ref, job, hsubmits.entry_self, hsubmits.pickable⟩
    · have hne : other ≠ jobId := fun heq => hfresh (heq ▸ hold)
      unfold pickableId at hpickable ⊢
      rwa [hsubmits.entry_other other hne]
  rw [hpruned, hsubmits.order]
  exact sublist_insertByKey job _

end

theorem moveUp_perm (jobId : JobId) (order : List JobId) :
    (moveUp jobId order).Perm order := by
  fun_induction moveUp jobId order with
  | case1 | case2 | case3 => exact .refl _
  | case4 first rest => exact .swap _ _ _
  | case5 first second rest hfirst hsecond ih => exact ih.cons first

theorem moveDown_perm (jobId : JobId) (order : List JobId) :
    (moveDown jobId order).Perm order := by
  fun_induction moveDown jobId order with
  | case1 | case2 => exact .refl _
  | case3 second rest => exact .swap _ _ _
  | case4 first second rest hfirst ih => exact ih.cons first

section

variable (hqueued : m.Queued)

include hqueued

theorem Queued.permute {order : List JobId} (hperm : order.Perm m.waitingOrder) :
    (m.setWaitingOrder order).Queued := by
  refine ⟨hperm.nodup_iff.mpr hqueued.nodup, ?_, ?_⟩
  · intro jobId hlisted
    exact hqueued.present jobId (hperm.mem_iff.mp hlisted)
  · intro jobId hpickable
    exact hperm.mem_iff.mpr (hqueued.complete jobId hpickable)

theorem Queued.reorderJob (jobId : JobId) (direction : MoveDirection) :
    (m.reorderJob jobId direction).Queued := by
  have hpruned : m.pruneWaitingOrder.Queued :=
    hqueued.follows follows_pruneWaitingOrder
  unfold JobQueueManager.reorderJob
  split
  · exact hqueued
  · next ref job hentry =>
    split
    · exact hqueued
    · next hpickable =>
      have hlisted : jobId ∈ m.pruneWaitingOrder.waitingOrder := by
        have hwaits : m.pickableId jobId = true :=
          pickableId_iff.mpr ⟨ref, job, hentry, by simpa using hpickable⟩
        exact mem_pruneWaitingOrder.mpr ⟨hqueued.complete jobId hwaits, hwaits⟩
      dsimp only
      rw [if_pos hlisted]
      cases direction with
      | up => exact hpruned.permute (moveUp_perm jobId _)
      | down => exact hpruned.permute (moveDown_perm jobId _)
      | other => exact hpruned

/-! ## Picking a job -/

/-- With every waiting job in the order, a pick takes the first id that is
left after pruning, and never falls back on sorting the table. -/
theorem pickNextJob_cases : m.pickNextJob = (m.pruneWaitingOrder, none) ∧
        m.pruneWaitingOrder.waitingOrder = [] ∨
      ∃ jobId rest ref job, m.pruneWaitingOrder.waitingOrder = jobId :: rest ∧
        m.entry jobId = some (ref, job) ∧ job.pickable = true ∧
        m.pickNextJob = (m.pruneWaitingOrder, some (ref, job)) := by
  cases horder : m.pruneWaitingOrder.waitingOrder with
  | nil =>
    left
    have hnone : m.pruneWaitingOrder.sortedWaiting = [] := by
      have hempty : m.pruneWaitingOrder.waitingJobs = [] := by
        refine List.eq_nil_iff_forall_not_mem.mpr ?_
        rintro ⟨ref, job⟩ hwaiting
        obtain ⟨hjobs, hpickable⟩ := List.mem_filter.mp hwaiting
        obtain ⟨jobId, hentry⟩ := mem_jobStates.mp hjobs
        have hwaits : m.pickableId jobId = true :=
          pickableId_iff.mpr ⟨ref, job, hentry, hpickable⟩
        have hlisted := mem_pruneWaitingOrder.mpr
          ⟨hqueued.complete jobId hwaits, hwaits⟩
        rw [horder] at hlisted
        cases hlisted
      unfold sortedWaiting
      rw [hempty]
      rfl
    refine ⟨?_, rfl⟩
    unfold pickNextJob
    dsimp only
    rw [horder, hnone]
    rfl
  | cons jobId rest =>
    right
    have hhead : jobId ∈ m.pruneWaitingOrder.waitingOrder := by
      rw [horder]
      exact List.mem_cons_self
    obtain ⟨-, hpickable⟩ := mem_pruneWaitingOrder.mp hhead
    obtain ⟨ref, job, hentry, hjob⟩ := pickableId_iff.mp hpickable
    refine ⟨jobId, rest, ref, job, rfl, hentry, hjob, ?_⟩
    have hfound : (m.pruneWaitingOrder.entry jobId).filter
        (fun item => item.2.pickable) = some (ref, job) := by
      rw [show m.pruneWaitingOrder.entry jobId = m.entry jobId from rfl, hentry]
      simp [hjob]
    unfold pickNextJob
    dsimp only
    rw [horder, List.findSome?_cons, hfound]

theorem pickNextJob_least (hsorted : m.Sorted)
    (hpick : m.pickNextJob.2 = some (ref, job)) :
    ∃ jobId, m.entry jobId = some (ref, job) ∧ job.pickable = true ∧
      ∀ otherId otherRef other, m.entry otherId = some (otherRef, other) →
        other.pickable = true → otherId ≠ jobId → job.before other = true := by
  rcases pickNextJob_cases hqueued with ⟨hnone, -⟩ |
    ⟨jobId, rest, ref', job', horder, hentry, hpickable, hfound⟩
  · rw [hnone] at hpick
    cases hpick
  · rw [hfound] at hpick
    cases hpick
    refine ⟨jobId, hentry, hpickable, ?_⟩
    intro otherId otherRef other hother hwaits hne
    have hwaitsId : m.pickableId otherId = true :=
      pickableId_iff.mpr ⟨otherRef, other, hother, hwaits⟩
    have hlisted := mem_pruneWaitingOrder.mpr
      ⟨hqueued.complete otherId hwaitsId, hwaitsId⟩
    have hpruned : m.pruneWaitingOrder.waitingOrder.Pairwise m.Ahead :=
      List.Pairwise.sublist (pruneFrom_sublist [] _) hsorted
    rw [horder] at hpruned hlisted
    have hrest : otherId ∈ rest := (List.mem_cons.mp hlisted).resolve_left hne
    exact (List.pairwise_cons.mp hpruned).1 otherId hrest ref job otherRef other
      hentry hother

theorem follows_pickNextJob : m.Follows m.pickNextJob.1 := by
  rcases pickNextJob_cases hqueued with ⟨hnone, -⟩ |
    ⟨jobId, rest, ref, job, -, -, -, hfound⟩
  · rw [hnone]
    exact follows_pruneWaitingOrder
  · rw [hfound]
    exact follows_pruneWaitingOrder

end

theorem follows_markPicked (hentry : m.entry job.jobId = some (ref, job))
    (now : Nat) : m.Follows (m.markPicked ref job.jobId now) := by
  obtain ⟨hlookup, hheap⟩ := entry_eq_some.mp hentry
  have hmarked : m.Follows (m.modifyRef ref fun job =>
      { job with
        status := .running
        startedAt := some now
        checkpoint := some .preparing }) :=
    follows_modifyRef fun job _ => .of_status ⟨rfl, rfl, rfl, rfl⟩ (by simp)
  refine hmarked.trans (Follows.trans
    (follows_removeWaitingJob ?_) (.of_same rfl rfl rfl))
  have hchanged : (m.modifyRef ref fun job =>
      { job with
        status := .running
        startedAt := some now
        checkpoint := some .preparing }).entry job.jobId = some (ref,
      { job with
        status := .running
        startedAt := some now
        checkpoint := some .preparing }) :=
    entry_eq_some.mpr ⟨hlookup, by simp [modifyRef, hheap]⟩
  simp [pickableId, hchanged, JobState.pickable]

theorem dropJobs_log (gone : List (JobId × JobRef)) :
    (m.dropJobs gone).log = m.log := by
  induction gone generalizing m with
  | nil => rfl
  | cons item rest ih => exact ih (m := m.popJob item.1)

theorem cleanupJobs_entry (now : Nat)
    (hentry : (m.cleanupJobs now).1.entry jobId = some (ref, job)) :
    m.entry jobId = some (ref, job) := by
  obtain ⟨hheapEq, hback, -⟩ := dropJobs_lookup (m := m) (m.expiredJobs now)
  obtain ⟨hlookup, hheap⟩ := entry_eq_some.mp hentry
  refine entry_eq_some.mpr ⟨hback jobId ref hlookup, ?_⟩
  rw [← hheapEq]
  exact hheap

theorem entry_jobId (hgood : m.ledger.WellFormed)
    (hentry : m.entry jobId = some (ref, job)) : job.jobId = jobId := by
  obtain ⟨hlookup, hheap⟩ := entry_eq_some.mp hentry
  obtain ⟨found, hfound, hid⟩ := hgood.table_sound jobId ref hlookup
  rw [show m.ledger.objects ref = m.heap ref from rfl, hheap] at hfound
  cases hfound
  exact hid

theorem loopSection_spec (hgood : m.ledger.WellFormed) (hqueued : m.Queued)
    (tid : ThreadId) (now : Nat) :
    m.Follows (m.loopSection tid now) ∧
      ((m.loopSection tid now).log = m.log ∨
        ∃ ref job,
          (m.clearRunning.cleanupJobs now).1.pickNextJob.2 = some (ref, job) ∧
          (m.loopSection tid now).log = m.log ++ [.picked ref]) := by
  unfold loopSection
  split
  · exact ⟨follows_setPhase tid _, .inl rfl⟩
  split
  · exact ⟨.refl m, .inl rfl⟩
  next ready hready =>
  have hreadyEq : ready = m.clearRunning :=
    (waitForRunning_spec JobLedger.freshIdPolicy hready).1
  subst hreadyEq
  have hclear : m.Follows m.clearRunning := .of_same rfl rfl rfl
  have hclean := hclear.trans (follows_cleanupJobs (m := m.clearRunning) now)
  have hcleanLog : (m.clearRunning.cleanupJobs now).1.log = m.log :=
    dropJobs_log (m := m.clearRunning) _
  have hcleanEntry : ∀ jobId ref job,
      (m.clearRunning.cleanupJobs now).1.entry jobId = some (ref, job) →
        job.jobId = jobId := by
    intro jobId ref job hentry
    exact entry_jobId (m := m) hgood
      (cleanupJobs_entry (m := m.clearRunning) now hentry)
  generalize m.clearRunning.cleanupJobs now = cleanup at *
  obtain ⟨cleaned, releases⟩ := cleanup
  dsimp only at *
  have hcleanQueued : cleaned.Queued := hqueued.follows hclean
  have hpickLog : cleaned.pickNextJob.1.log = cleaned.log := by
    obtain ⟨⟨order, horder⟩, -⟩ := pickNextJob_spec (m := cleaned)
    rw [horder]
    rfl
  have hpickEntry : ∀ jobId, cleaned.pickNextJob.1.entry jobId =
      cleaned.entry jobId := by
    obtain ⟨⟨order, horder⟩, -⟩ := pickNextJob_spec (m := cleaned)
    rw [horder]
    exact fun _ => rfl
  have hpicked := (pickNextJob_spec (m := cleaned)).2
  have hpick := hclean.trans (follows_pickNextJob hcleanQueued)
  split
  · exact ⟨hclean.trans (follows_setPhase tid _), .inl hcleanLog⟩
  · generalize cleaned.pickNextJob = pick at *
    obtain ⟨pruned, found⟩ := pick
    cases found with
    | none =>
      exact ⟨hpick.trans (follows_setPhase tid _),
        .inl (hpickLog.trans hcleanLog)⟩
    | some item =>
      obtain ⟨ref, job⟩ := item
      obtain ⟨-, jobId, hentry⟩ := hpicked ref job rfl
      have hid := hcleanEntry jobId ref job hentry
      have hprunedEntry : pruned.entry job.jobId = some (ref, job) := by
        rw [hid]
        exact (hpickEntry jobId).trans hentry
      refine ⟨(hpick.trans (follows_markPicked hprunedEntry now)).trans
        (follows_setPhase tid _), .inr ⟨ref, job, rfl, ?_⟩⟩
      change pruned.log ++ [.picked ref] = m.log ++ [.picked ref]
      rw [hpickLog, hcleanLog]

theorem follows_schedulerStep (hgood : m.ledger.WellFormed) (hqueued : m.Queued)
    {tid : ThreadId} {move : SchedulerMove V}
    (hstep : m.schedulerStep tid move = some next) : m.Follows next := by
  unfold schedulerStep at hstep
  split at hstep
  · cases hstep
  split at hstep
  case h_1 now _ _ =>
    cases hstep
    exact (loopSection_spec hgood hqueued tid now).1
  case h_2 work target _ _ _ =>
    cases hstep
    unfold dispatchStep
    split
    · split
      · exact follows_setPhase tid _
      · exact .of_same rfl rfl rfl
    · split <;> exact follows_setPhase tid _
  case h_3 =>
    cases hstep
    unfold enterRun
    split
    · exact follows_endRun tid _ _
    · exact .of_same rfl rfl rfl
  case h_4 => exact follows_runStep hstep
  case h_5 =>
    cases hstep
    refine follows_detachAndEnsure.trans ?_
    unfold afterRunStep getJob
    dsimp only
    split
    · exact follows_setPhase tid _
    · split <;> exact follows_setPhase tid _
  case h_6 ref now _ _ =>
    cases hstep
    exact (follows_releaseJobRefs ref now).trans (follows_setPhase tid _)
  case h_7 =>
    cases hstep
    exact .of_same rfl rfl rfl
  case h_8 =>
    cases hstep
    exact follows_setPhase tid _
  case h_9 => cases hstep

/-! ## Runs -/

def submitsNewId (m : JobQueueManager V) (label : JobQueueLabel V) : Bool :=
  match label with
  | .submit payload generatedId _ _ _ =>
    !(checkPayload payload).isOk ||
      (m.entry (submittedJobId payload generatedId)).isNone
  | _ => true

def leavesOrder (label : JobQueueLabel V) : Bool :=
  match label with
  | .reorder _ _ => false
  | _ => true

theorem step_cases (hgood : m.ledger.WellFormed) (hqueued : m.Queued)
    (hnew : m.submitsNewId label = true) (hstep : m.step label = some next) :
    m.Follows next ∨ (∃ jobId job, m.Submits next jobId (m.enqueueSeq + 1) job) ∨
      ∃ jobId direction, label = .reorder jobId direction ∧
        next = m.reorderJob jobId direction := by
  cases label with
  | submit payload generatedId generatedClient digest now =>
    obtain ⟨text, -, rfl⟩ | ⟨hcheck, rfl⟩ := step_submit hstep
    · exact .inl (.refl _)
    · simp only [submitsNewId, hcheck, Except.isOk, Except.toBool,
        Bool.not_true, Bool.false_or, Option.isNone_iff_eq_none] at hnew
      exact .inr (.inl ⟨_, _, submitSection_submits hgood hqueued payload
        generatedId generatedClient digest now hnew⟩)
  | getJob | summary =>
    cases hstep
    exact .inl follows_detachAndEnsure
  | cancel jobId digest now =>
    simp only [step] at hstep
    split at hstep
    · next hcancel =>
      cases hstep
      exact .inl (follows_cancelJob hgood hcancel)
    · cases hstep
      exact .inl (.refl m)
  | reorder jobId direction =>
    cases hstep
    exact .inr (.inr ⟨jobId, direction, rfl, rfl⟩)
  | start target =>
    cases hstep
    exact .inl (follows_start target)
  | close now =>
    cases hstep
    exact .inl (follows_closeBegin now)
  | closeStep index now => exact .inl (follows_closeStep hstep)
  | refWork index now => exact .inl (follows_refWorkStep hstep)
  | scheduler tid move => exact .inl (follows_schedulerStep hgood hqueued hstep)

def anyPolicy : LedgerPolicy V where
  store := fun _ _ => True
  tail := fun _ => True
  raise := True

theorem any_updates (hsound : m.ledger.Sound anyPolicy)
    (hstep : m.step label = some next) :
    JobLedger.Updates anyPolicy m.ledger next.ledger :=
  step_updates hsound ⟨fun _ _ _ _ _ _ _ => trivial, fun _ _ _ _ => trivial,
    fun hno => absurd trivial hno⟩ hstep

theorem step_sound (hsound : m.ledger.Sound anyPolicy)
    (hstep : m.step label = some next) : next.ledger.Sound anyPolicy :=
  invariant_of_reflTransGen (JobLedger.Sound anyPolicy)
    (fun _ _ hgood hupdate => hgood.update hupdate) (any_updates hsound hstep)
    hsound

theorem step_queued (hgood : m.ledger.WellFormed) (hqueued : m.Queued)
    (hnew : m.submitsNewId label = true) (hstep : m.step label = some next) :
    next.Queued := by
  rcases step_cases hgood hqueued hnew hstep with hfollows |
    ⟨jobId, job, hsubmits⟩ | ⟨jobId, direction, -, rfl⟩
  · exact hqueued.follows hfollows
  · exact hsubmits.queued hqueued
  · exact hqueued.reorderJob jobId direction

theorem step_sorted (hgood : m.ledger.WellFormed)
    (hnextGood : next.ledger.WellFormed) (hqueued : m.Queued)
    (hsorted : m.Sorted) (hnew : m.submitsNewId label = true)
    (hleaves : leavesOrder label = true) (hstep : m.step label = some next) :
    next.Sorted := by
  rcases step_cases hgood hqueued hnew hstep with hfollows |
    ⟨jobId, job, hsubmits⟩ | ⟨jobId, direction, rfl, -⟩
  · exact hsorted.follows hfollows
  · exact hsubmits.sorted hnextGood hqueued hsorted
  · cases hleaves

theorem init_queued (retentionSec authTtlSec stagedRefTtlSec : Nat) :
    (init retentionSec authTtlSec stagedRefTtlSec : JobQueueManager V).Queued := by
  refine ⟨.nil, ?_, ?_⟩
  · intro jobId hlisted
    cases hlisted
  · intro jobId hpickable
    cases hpickable

theorem run_queued {retentionSec authTtlSec stagedRefTtlSec : Nat}
    (hrun : GuardedRun step (fun m label => m.submitsNewId label = true)
      (init retentionSec authTtlSec stagedRefTtlSec) m) :
    m.ledger.Sound anyPolicy ∧ m.Queued := by
  refine hrun.invariant (fun m => m.ledger.Sound anyPolicy ∧ m.Queued)
    ⟨init_sound anyPolicy _ _ _, init_queued _ _ _⟩ ?_
  rintro before label after ⟨hsound, hqueued⟩ hnew hstep
  exact ⟨step_sound hsound hstep,
    step_queued hsound.wellFormed hqueued hnew hstep⟩

theorem run_sorted {retentionSec authTtlSec stagedRefTtlSec : Nat}
    (hrun : GuardedRun step
      (fun m label => (m.submitsNewId label && leavesOrder label) = true)
      (init retentionSec authTtlSec stagedRefTtlSec) m) :
    m.ledger.Sound anyPolicy ∧ m.Queued ∧ m.Sorted := by
  refine hrun.invariant
    (fun m => m.ledger.Sound anyPolicy ∧ m.Queued ∧ m.Sorted)
    ⟨init_sound anyPolicy _ _ _, init_queued _ _ _, .nil⟩ ?_
  rintro before label after ⟨hsound, hqueued, hsorted⟩ hok hstep
  obtain ⟨hnew, hleaves⟩ := Bool.and_eq_true_iff.mp hok
  have hnext := step_sound hsound hstep
  exact ⟨hnext, step_queued hsound.wellFormed hqueued hnew hstep,
    step_sorted hsound.wellFormed hnext.wellFormed hqueued hsorted hnew hleaves
      hstep⟩

/-- An object that was there at the start of a run has the id and the key it
had there. -/
def ComesFrom (start m : JobQueueManager V) : Prop :=
  start.enqueueSeq ≤ m.enqueueSeq ∧
    ∀ jobId ref changed, m.entry jobId = some (ref, changed) →
      ref ≤ start.enqueueSeq →
        ∃ job, start.entry jobId = some (ref, job) ∧ job.SameKey changed

theorem update_count {ledger after : JobLedger V}
    (hupdate : JobLedger.Update anyPolicy ledger after) :
    ledger.count ≤ after.count := by
  cases hupdate with
  | revise | clearStale | drop | pick | tail => exact le_refl _
  | store job _ hfresh =>
    change ledger.count ≤ job.enqueueSeq
    omega
  | owner tid owner _ _ hchange => cases hchange <;> exact le_refl _

theorem ComesFrom.step {start : JobQueueManager V} (hcomes : start.ComesFrom m)
    (hsound : m.ledger.Sound anyPolicy) (hqueued : m.Queued)
    (hnew : m.submitsNewId label = true) (hstep : m.step label = some next) :
    start.ComesFrom next := by
  obtain ⟨hle, hentries⟩ := hcomes
  have hcount : m.enqueueSeq ≤ next.enqueueSeq :=
    invariant_of_reflTransGen (fun ledger => m.enqueueSeq ≤ ledger.count)
      (fun _ _ hbefore hupdate => hbefore.trans (update_count hupdate))
      (any_updates hsound hstep) (le_refl _)
  refine ⟨hle.trans hcount, ?_⟩
  intro jobId ref changed hentry href
  rcases step_cases hsound.wellFormed hqueued hnew hstep with hfollows |
    ⟨newId, newJob, hsubmits⟩ | ⟨movedId, direction, -, rfl⟩
  · obtain ⟨mid, hmid, hmidKey, -⟩ := hfollows.entry jobId ref changed hentry
    obtain ⟨job, hjob, hkey⟩ := hentries jobId ref mid hmid href
    exact ⟨job, hjob, hkey.trans hmidKey⟩
  · by_cases heq : jobId = newId
    · subst heq
      rw [hsubmits.entry_self] at hentry
      cases hentry
      exact absurd (href.trans hle) (Nat.not_succ_le_self _)
    · rw [hsubmits.entry_other jobId heq] at hentry
      exact hentries jobId ref changed hentry href
  · have hledger := ledger_reorderJob (m := m) movedId direction
    have htable := congrFun (congrArg JobLedger.table hledger) jobId
    have hobject := congrFun (congrArg JobLedger.objects hledger) ref
    obtain ⟨hlookup, hheap⟩ := entry_eq_some.mp hentry
    have hsame : m.entry jobId = some (ref, changed) :=
      entry_eq_some.mpr ⟨htable.symm.trans hlookup, hobject.symm.trans hheap⟩
    exact hentries jobId ref changed hsame href

theorem run_comesFrom {start : JobQueueManager V}
    (hsound : start.ledger.Sound anyPolicy) (hqueued : start.Queued)
    (hrun : GuardedRun step (fun m label => m.submitsNewId label = true) start m) :
    start.ComesFrom m := by
  have hall : m.ledger.Sound anyPolicy ∧ m.Queued ∧ start.ComesFrom m := by
    refine hrun.invariant
      (fun m => m.ledger.Sound anyPolicy ∧ m.Queued ∧ start.ComesFrom m)
      ⟨hsound, hqueued, le_refl _, fun _ _ job hjob _ => ⟨job, hjob, .refl job⟩⟩ ?_
    rintro before label after ⟨hsound, hqueued, hcomes⟩ hnew hstep
    exact ⟨step_sound hsound hstep,
      step_queued hsound.wellFormed hqueued hnew hstep,
      hcomes.step hsound hqueued hnew hstep⟩
  exact hall.2.2

def Picks (m : JobQueueManager V) (ref : JobRef) (job : JobState V)
    (next : JobQueueManager V) : Prop :=
  m.entry job.jobId = some (ref, job) ∧
    ∃ tid now preview, m.threads[tid]? = some .loop ∧
      m.step (.scheduler tid (.advance now preview)) = some next ∧
      next.log = m.log ++ [.picked ref]

theorem picks_least (hgood : m.ledger.WellFormed) (hqueued : m.Queued)
    (hsorted : m.Sorted) (hpicks : m.Picks ref job next) {otherId : JobId}
    {otherRef : JobRef} {other : JobState V}
    (hother : m.entry otherId = some (otherRef, other))
    (hwaits : other.pickable = true) (hne : otherRef ≠ ref) :
    job.before other = true := by
  obtain ⟨hentry, tid, now, preview, hphase, hstep, hlog⟩ := hpicks
  have hloop : m.loopSection tid now = next := by
    simp only [step, schedulerStep, hphase, Option.some.injEq] at hstep
    exact hstep
  subst hloop
  obtain ⟨-, hcases⟩ := loopSection_spec hgood hqueued tid now
  have hclear : m.Follows m.clearRunning := .of_same rfl rfl rfl
  have hclean := hclear.trans (follows_cleanupJobs (m := m.clearRunning) now)
  rcases hcases with hsame | ⟨foundRef, found, hfound, hfoundLog⟩
  · rw [hsame] at hlog
    have hlength := congrArg List.length hlog
    simp at hlength
  · rw [hfoundLog] at hlog
    have href : foundRef = ref := by
      have hlast := List.append_cancel_left hlog
      simpa using hlast
    subst href
    obtain ⟨jobId, hfoundEntry, -, hleast⟩ := pickNextJob_least
      (hqueued.follows hclean) (hsorted.follows hclean) hfound
    have hbefore : m.entry jobId = some (foundRef, found) :=
      cleanupJobs_entry (m := m.clearRunning) now hfoundEntry
    have hid := entry_jobId hgood hbefore
    obtain ⟨-, hheap⟩ := entry_eq_some.mp hbefore
    obtain ⟨-, hheap'⟩ := entry_eq_some.mp hentry
    rw [hheap] at hheap'
    cases hheap'
    have hotherClean : (m.clearRunning.cleanupJobs now).1.entry otherId =
        some (otherRef, other) :=
      cleanupJobs_keeps_pickable (m := m.clearRunning) now hother hwaits
    refine hleast otherId otherRef other hotherClean hwaits ?_
    rintro rfl
    rw [hbefore] at hother
    cases hother
    exact hne rfl

theorem submit_relative_order (hgood : m.ledger.WellFormed)
    (hqueued : m.Queued) {payload : JobPayload V}
    {generatedId generatedClient digest : String} {now : Nat}
    (hnew : m.submitsNewId
      (.submit payload generatedId generatedClient digest now) = true)
    (hstep : m.step (.submit payload generatedId generatedClient digest now) =
      some next) :
    m.pruneWaitingOrder.waitingOrder.Sublist
      next.pruneWaitingOrder.waitingOrder := by
  obtain ⟨text, -, rfl⟩ | ⟨hcheck, rfl⟩ := step_submit hstep
  · exact .refl _
  · simp only [submitsNewId, hcheck, Except.isOk, Except.toBool,
      Bool.not_true, Bool.false_or, Option.isNone_iff_eq_none] at hnew
    exact (submitSection_submits hgood hqueued payload generatedId
      generatedClient digest now hnew).relative_order hqueued

/-- In every run whose submissions come with new ids, the pruned waiting order
has no duplicates and consists of the waiting, uncancelled jobs, and a
submission leaves the jobs that already wait in their relative order.  If in
addition nobody moves a job, `_pick_next_job_locked` returns the waiting job of
the least key whenever there is one, a picked job comes before every job that
waits at the time, and so before each of them that is picked later. -/
theorem waiting_jobs_by_priority {retentionSec authTtlSec stagedRefTtlSec : Nat} :
    (∀ m : JobQueueManager V,
      GuardedRun step (fun m label => m.submitsNewId label = true)
          (init retentionSec authTtlSec stagedRefTtlSec) m →
        m.pruneWaitingOrder.waitingOrder.Nodup ∧
        (∀ jobId, jobId ∈ m.pruneWaitingOrder.waitingOrder ↔
          m.pickableId jobId = true) ∧
        ∀ payload generatedId generatedClient digest now next,
          m.submitsNewId
              (.submit payload generatedId generatedClient digest now) = true →
            m.step (.submit payload generatedId generatedClient digest now) =
                some next →
              m.pruneWaitingOrder.waitingOrder.Sublist
                next.pruneWaitingOrder.waitingOrder) ∧
    ∀ m : JobQueueManager V,
      GuardedRun step
          (fun m label => (m.submitsNewId label && leavesOrder label) = true)
          (init retentionSec authTtlSec stagedRefTtlSec) m →
        (m.pickNextJob.2 = none → ∀ jobId, m.pickableId jobId = false) ∧
        (∀ ref job, m.pickNextJob.2 = some (ref, job) →
          m.entry job.jobId = some (ref, job) ∧ job.pickable = true ∧
          ∀ otherId otherRef other, m.entry otherId = some (otherRef, other) →
            other.pickable = true → otherId ≠ job.jobId →
              job.before other = true) ∧
        ∀ ref job next, m.Picks ref job next →
          ∀ otherId otherRef other, m.entry otherId = some (otherRef, other) →
            other.pickable = true → otherRef ≠ ref →
              job.before other = true ∧
              ∀ later later' second,
                GuardedRun step (fun m label =>
                    (m.submitsNewId label && leavesOrder label) = true) next later →
                  later.Picks otherRef second later' →
                    job.before second = true := by
  refine ⟨fun m hrun => ?_, fun m hrun => ?_⟩
  · obtain ⟨hsound, hqueued⟩ := run_queued hrun
    refine ⟨nodup_pruneFrom [] _, ?_, ?_⟩
    · intro jobId
      rw [mem_pruneWaitingOrder]
      exact ⟨fun h => h.2, fun h => ⟨hqueued.complete jobId h, h⟩⟩
    · intro payload generatedId generatedClient digest now next hnew hstep
      exact submit_relative_order hsound.wellFormed hqueued hnew hstep
  · obtain ⟨hsound, hqueued, hsorted⟩ := run_sorted hrun
    have hgood := hsound.wellFormed
    refine ⟨?_, ?_, ?_⟩
    · intro hnone jobId
      by_contra hwaits
      obtain ⟨ref, job, hentry, hpickable⟩ :=
        pickableId_iff.mp (Bool.eq_true_of_not_eq_false hwaits)
      obtain ⟨found, hfound⟩ := pickNextJob_isSome hentry hpickable
      rw [hnone] at hfound
      cases hfound
    · intro ref job hpick
      obtain ⟨jobId, hentry, hpickable, hleast⟩ :=
        pickNextJob_least hqueued hsorted hpick
      have hid := entry_jobId hgood hentry
      subst hid
      exact ⟨hentry, hpickable, hleast⟩
    · intro ref job next hpicks otherId otherRef other hother hwaits hne
      have hbefore := picks_least hgood hqueued hsorted hpicks hother hwaits hne
      refine ⟨hbefore, ?_⟩
      intro later later' second hlater hsecond
      obtain ⟨tid, now, preview, -, hstep, -⟩ := hpicks.2
      have hwhole : GuardedRun step
          (fun m label => m.submitsNewId label = true) m later :=
        .prepend (.scheduler tid (.advance now preview)) rfl hstep
          (hlater.mono fun _ _ hok => (Bool.and_eq_true_iff.mp hok).1)
      have hcomes := run_comesFrom hsound hqueued hwhole
      obtain ⟨-, hotherHeap⟩ := entry_eq_some.mp hother
      obtain ⟨origin, horigin, hkey⟩ := hcomes.2 second.jobId otherRef second
        hsecond.1 (hgood.fresh otherRef other hotherHeap)
      obtain ⟨-, horiginHeap⟩ := entry_eq_some.mp horigin
      rw [hotherHeap] at horiginHeap
      cases horiginHeap
      rw [JobState.before_congr (.refl job) hkey]
      exact hbefore

/-- Three submissions, the last of which has the highest priority and the
second of which is cancelled. -/
def urgentRun : List (JobQueueLabel Nat) :=
  [submitHookJob "first", submitHookJob "second", .cancel "second" "" 0,
    .submit { hookPayload "urgent" with priority := 5 } "" "" "" 0]

theorem waiting_jobs_by_priority_urgentRun :
    ∃ m, checkedRun step
        (fun m label => (submitsNewId m label && leavesOrder label) = true)
        (init 3600 86400 86400) urgentRun = some m ∧
      m.pruneWaitingOrder.waitingOrder.Nodup ∧
      "first" ∈ m.pruneWaitingOrder.waitingOrder ∧
      ∃ urgent first, m.entry "urgent" = some (3, urgent) ∧
        m.entry "first" = some (1, first) ∧ urgent.before first = true := by
  have hrun := guardedRun_of_checkedRun urgentRun
    (show checkedRun step
        (fun m label => (submitsNewId m label && leavesOrder label) = true)
        (init 3600 86400 86400) urgentRun = some _ from rfl)
  obtain ⟨hplain, hunmoved⟩ := @waiting_jobs_by_priority Nat 3600 86400 86400
  obtain ⟨hnodup, hlisted, -⟩ := hplain _
    (hrun.mono fun _ _ hok => (Bool.and_eq_true_iff.mp hok).1)
  obtain ⟨-, hpick, -⟩ := hunmoved _ hrun
  refine ⟨_, rfl, hnodup, (hlisted "first").mpr rfl, _, _, rfl, rfl, ?_⟩
  exact (hpick 3 _ rfl).2.2 "first" 1 _ rfl rfl (by decide)

end JobQueueManager

end PycloudParallel.JobQueue
