import PycloudParallel.JobQueueRefsReleased

/-!
# Staged references outlive their jobs

The steps of `close`, the submissions, and the runs of the whole queue.
-/

namespace PycloudParallel.JobQueue

variable {V : Type}

namespace JobQueueManager

variable {m mid next : JobQueueManager V} {calls : List RefId}
  {snapshot : JobRef → List RefId}

/-! ## The steps of a call of `close` -/

variable {index : Nat} {ref : JobRef} {job : JobState V}

theorem joining_spec (hplace : m.closing[index]? = some .joining) :
    m.RefMoves (m.clearThread.setClosing index .gather) calls ∧
      m.KeepsOwed (m.clearThread.setClosing index .gather) calls := by
  have hcleared : m.Changes calls (fun _ => False) m.clearThread :=
    .of_same ⟨rfl, rfl, rfl, rfl, rfl⟩ rfl
  refine ⟨hcleared.moves_setClosing fun _ hmem => (by cases hmem),
    hcleared.keeps_setClosing hplace ?_⟩
  rintro ref job refId - - (hmem | ⟨-, hheld⟩)
  · cases hmem
  · exact .inl (.inr (.inr (.inr ⟨⟨.gather, mem_set_self hplace _, rfl⟩, hheld⟩)))

/-- The objects that a call of `close` has collected. -/
def gathered (m : JobQueueManager V) : List JobRef :=
  m.jobStates.filterMap fun item =>
    if item.2.stagedRefIds.isEmpty then none else some item.1

theorem mem_gathered : ref ∈ m.gathered ↔
    m.Holds ref ∧ ∃ job, m.heap ref = some job ∧ job.stagedRefIds ≠ [] := by
  unfold gathered
  rw [List.mem_filterMap]
  constructor
  · rintro ⟨⟨found, job⟩, hitem, hsome⟩
    obtain ⟨jobId, hentry⟩ := mem_jobStates.mp hitem
    obtain ⟨hlookup, hheap⟩ := entry_eq_some.mp hentry
    dsimp only at hsome
    split at hsome
    · cases hsome
    · next hlisted =>
      cases hsome
      exact ⟨⟨jobId, hlookup⟩, job, hheap, fun hnone => hlisted (by rw [hnone]; rfl)⟩
  · rintro ⟨⟨jobId, hlookup⟩, job, hheap, hlisted⟩
    refine ⟨(ref, job), mem_jobStates.mpr ⟨jobId, entry_eq_some.mpr ⟨hlookup, hheap⟩⟩, ?_⟩
    simp [List.isEmpty_iff, hlisted]

theorem gather_spec (hplace : m.closing[index]? = some .gather)
    (hbehind : ∀ ref job, m.Holds ref → m.heap ref = some job →
      job.stagedRefIds ≠ [] → job.status.terminal = true) :
    m.RefMoves (m.setClosing index (.release m.gathered)) calls ∧
      m.KeepsOwed (m.setClosing index (.release m.gathered)) calls := by
  refine ⟨(changes_none m).moves_setClosing ?_,
    (changes_none m).keeps_setClosing hplace ?_⟩
  · intro ref hmem
    obtain ⟨hheld, job, hheap, hlisted⟩ := mem_gathered.mp hmem
    exact .inr ⟨hheld, job, hheap, hbehind ref job hheld hheap hlisted⟩
  · rintro ref job refId hjob hlisted (hmem | ⟨-, hheld⟩)
    · cases hmem
    · have hgathered : ref ∈ m.gathered :=
        mem_gathered.mpr ⟨hheld, job, hjob, List.ne_nil_of_mem hlisted⟩
      exact .inl (.inr (.inl (.inr ⟨_, mem_set_self hplace _, hgathered⟩)))

theorem releaseNext_spec {now : Nat} {rest : List JobRef}
    (hplace : m.closing[index]? = some (.release (ref :: rest))) :
    m.RefMoves ((m.releaseJobRefs ref now).setClosing index (.release rest))
        (m.releaseCalls (.closeStep index now)) ∧
      ((m.controlplaneTarget = "" → m.dueRefs (.closeStep index now) = []) →
        m.KeepsOwed ((m.releaseJobRefs ref now).setClosing index (.release rest))
          (m.releaseCalls (.closeStep index now))) := by
  have hdue : m.dueRefs (.closeStep index now) = m.stagedIds ref := by
    simp only [dueRefs, hplace]
  have hcalls : m.controlplaneTarget ≠ "" →
      m.releaseCalls (.closeStep index now) = m.stagedIds ref := by
    intro htarget
    simp only [releaseCalls, beq_iff_eq, htarget, if_false, hdue]
  have hchanges : m.Changes (m.releaseCalls (.closeStep index now)) (fun _ => False)
      (m.releaseJobRefs ref now) := by
    refine changes_releaseJobRefs ref now fun htarget refId hlisted => ?_
    rw [hcalls htarget]
    exact hlisted
  refine ⟨hchanges.moves_setClosing ?_, fun htarget =>
    hchanges.keeps_setClosing hplace ?_⟩
  · intro other hmem
    exact .inl (.inr ⟨_, List.mem_of_getElem? hplace, List.mem_cons_of_mem _ hmem⟩)
  · rintro other job refId hjob hlisted (hmem | ⟨hnone, -⟩)
    · rcases List.mem_cons.mp hmem with rfl | hrest
      · right
        have hstaged : refId ∈ m.stagedIds other := mem_stagedIds.mpr ⟨job, hjob, hlisted⟩
        rw [hcalls]
        · exact hstaged
        · intro hnone
          rw [← hdue, htarget hnone] at hstaged
          cases hstaged
      · have hsame : (m.releaseJobRefs ref now).closing[index]? =
            some (.release (ref :: rest)) := by
          rw [hchanges.closing]
          exact hplace
        exact .inl (.inr (.inl (.inr ⟨_, mem_set_self hsame _, hrest⟩)))
    · cases hnone

theorem shutdown_spec (next : JobQueueManager V)
    (hplace : m.closing[index]? = some .shutdown)
    (hclosing : next.closing = m.closing.eraseIdx index)
    (hheap : next.heap = m.heap) (hjobs : next.jobs = m.jobs)
    (hwork : next.refWork = m.refWork) (hthreads : next.threads = m.threads)
    (hseq : next.enqueueSeq = m.enqueueSeq) :
    m.RefMoves next calls ∧ m.KeepsOwed next calls := by
  have hpending : ∀ refId, next.ReleasePending refId ↔ m.ReleasePending refId := by
    intro refId
    unfold ReleasePending
    rw [hwork, hthreads]
  have hholds : ∀ ref, next.Holds ref ↔ m.Holds ref := by
    intro ref
    unfold Holds
    rw [hjobs]
  refine ⟨⟨hseq, ?_, ?_, fun ref => (hholds ref).mp,
    fun refId h => .inl ((hpending refId).mp h), ?_⟩, ⟨?_, ?_⟩⟩
  · intro ref job hjob
    rw [hheap] at hjob
    exact ⟨job, hjob, .of_same rfl rfl id⟩
  · intro ref hnone
    rw [hheap] at hnone
    exact hnone
  · rintro ref (⟨phase, hmem, hfrees⟩ | ⟨phase, hmem, hfrees⟩)
    · rw [hthreads] at hmem
      exact .inl (.inl ⟨phase, hmem, hfrees⟩)
    · rw [hclosing] at hmem
      exact .inl (.inr ⟨phase, List.mem_of_mem_eraseIdx hmem, hfrees⟩)
  · intro ref job changed hjob hliving hchanged hterminal
    rw [hheap, hjob] at hchanged
    cases hchanged
    rw [hliving] at hterminal
    cases hterminal
  · rintro ref job - - refId - (howed | (⟨phase, hmem, hfrees⟩ | ⟨phase, hmem, hfrees⟩) |
      (⟨phase, hmem, jobId, hattends, hlookup⟩ | ⟨⟨phase, hmem, hgathers⟩, hheld⟩))
    · exact .inl (.inl ((hpending refId).mpr howed))
    · exact .inl (.inr (.inl (.inl ⟨phase, hthreads.symm ▸ hmem, hfrees⟩)))
    · rcases eq_or_mem_eraseIdx hplace hmem with rfl | hstill
      · cases hfrees
      · exact .inl (.inr (.inl (.inr ⟨phase, hclosing.symm ▸ hstill, hfrees⟩)))
    · exact .inl (.inr (.inr (.inl ⟨phase, hthreads.symm ▸ hmem, jobId, hattends,
        hjobs.symm ▸ hlookup⟩)))
    · rcases eq_or_mem_eraseIdx hplace hmem with rfl | hstill
      · cases hgathers
      · exact .inl (.inr (.inr (.inr ⟨⟨phase, hclosing.symm ▸ hstill, hgathers⟩,
          (hholds ref).mpr hheld⟩)))

theorem closeStep_spec {now : Nat} (hstep : m.closeStep index now = some next)
    (hapart : m.stagesApart snapshot (.closeStep index now)) :
    m.RefMoves next (m.releaseCalls (.closeStep index now)) ∧
      (m.handsOn (.closeStep index now) →
        m.KeepsOwed next (m.releaseCalls (.closeStep index now))) := by
  unfold closeStep at hstep
  split at hstep
  · cases hstep
  · next hplace =>
    cases hstep
    obtain ⟨hmoves, hkeeps⟩ := joining_spec hplace
    exact ⟨hmoves, fun _ => hkeeps⟩
  · next hplace =>
    cases hstep
    obtain ⟨hmoves, hkeeps⟩ := gather_spec hplace (hapart hplace)
    exact ⟨hmoves, fun _ => hkeeps⟩
  · next hplace =>
    cases hstep
    refine ⟨(changes_none m).moves_setClosing fun _ hmem => (by cases hmem), fun _ =>
      (changes_none m).keeps_setClosing hplace ?_⟩
    rintro ref job refId - - (hmem | ⟨hnone, -⟩)
    · cases hmem
    · cases hnone
  · next ref rest hplace =>
    cases hstep
    obtain ⟨hmoves, hkeeps⟩ := releaseNext_spec hplace
    exact ⟨hmoves, fun hhands => hkeeps hhands.1⟩
  · next hplace =>
    cases hstep
    obtain ⟨hmoves, hkeeps⟩ := shutdown_spec { m with
      maintenanceShutdown := true
      closing := m.closing.eraseIdx index } hplace rfl rfl rfl rfl rfl rfl
    exact ⟨hmoves, fun _ => hkeeps⟩

/-! ## Submissions -/

structure Accepts (m next : JobQueueManager V) (job : JobState V) : Prop where
  grown : m.QuietStep { next with
    heap := m.heap
    jobs := m.jobs
    enqueueSeq := m.enqueueSeq }
  enqueueSeq : next.enqueueSeq = m.enqueueSeq + 1
  heap : next.heap = Function.update m.heap next.enqueueSeq (some job)
  jobs : next.jobs = OrderedDict.set m.jobs job.jobId next.enqueueSeq

theorem accepts_stored {detached : JobQueueManager V}
    (hdetached : m.QuietStep detached)
    (hseq : job.enqueueSeq = m.enqueueSeq + 1) :
    m.Accepts ((detached.storeJob job).insertWaitingJob job).ensureSchedulerThread
      job := by
  have hstarted := quiet_ensureSchedulerThread
    (m := (detached.storeJob job).insertWaitingJob job)
  generalize ((detached.storeJob job).insertWaitingJob job).ensureSchedulerThread =
    next at hstarted
  have hnextSeq : next.enqueueSeq = job.enqueueSeq := hstarted.enqueueSeq
  refine ⟨⟨rfl, rfl, hstarted.refWork.trans hdetached.refWork,
    hstarted.closing.trans hdetached.closing, rfl, ?_⟩, hnextSeq.trans hseq, ?_, ?_⟩
  · obtain ⟨first, hfirst, hfirstLoop⟩ := hdetached.threads
    obtain ⟨second, hsecond, hsecondLoop⟩ := hstarted.threads
    refine ⟨first ++ second, ?_, ?_⟩
    · have hmiddle : next.threads = detached.threads ++ second := hsecond
      rw [hmiddle, hfirst, List.append_assoc]
    · intro phase hmem
      rcases List.mem_append.mp hmem with hmem | hmem
      · exact hfirstLoop phase hmem
      · exact hsecondLoop phase hmem
  · rw [hnextSeq, ← hdetached.heap]
    exact hstarted.heap
  · rw [hnextSeq, ← hdetached.jobs]
    exact hstarted.jobs

theorem accepts_submitSection (payload : JobPayload V)
    (generatedId generatedClient digest : String) (now : Nat) :
    ∃ job, m.Accepts (m.submitSection payload generatedId generatedClient digest now)
        job ∧
      job.jobId = submittedJobId payload generatedId ∧ job.status = .waiting ∧
      job.payload = payload ∧ job.stagedRefIds = payload.dataRefIds := by
  have hdetached : m.QuietStep m.detachStaleRunning := quiet_detachStaleRunning
  refine ⟨m.detachStaleRunning.newJobState payload generatedId generatedClient digest
    now, accepts_stored hdetached ?_, rfl, rfl, rfl, rfl⟩
  rw [← hdetached.enqueueSeq]
  rfl

section

variable (haccepts : m.Accepts next job)

include haccepts

theorem Accepts.pending {refId : RefId} :
    next.ReleasePending refId ↔ m.ReleasePending refId :=
  haccepts.grown.pending

theorem Accepts.frees : next.Frees ref ↔ m.Frees ref :=
  haccepts.grown.frees

theorem Accepts.found {found : JobState V} (hfound : next.heap ref = some found)
    : (ref = next.enqueueSeq ∧ found = job) ∨
      ref ≠ next.enqueueSeq ∧ m.heap ref = some found := by
  rw [haccepts.heap] at hfound
  by_cases hnew : ref = next.enqueueSeq
  · subst hnew
    rw [Function.update_self] at hfound
    cases hfound
    exact .inl ⟨rfl, rfl⟩
  · rw [Function.update_of_ne hnew] at hfound
    exact .inr ⟨hnew, hfound⟩

theorem Accepts.holds (hheld : next.Holds ref) :
    ref = next.enqueueSeq ∨ m.Holds ref := by
  obtain ⟨jobId, hlookup⟩ := hheld
  rw [haccepts.jobs, OrderedDict.lookup_set] at hlookup
  split at hlookup
  · cases hlookup
    exact .inl rfl
  · exact .inr ⟨jobId, hlookup⟩

end

theorem RefsApart.accepts (hapart : m.RefsApart snapshot)
    (haccepts : m.Accepts next job)
    (hunlisted : ∀ refId ∈ job.stagedRefIds, m.Unlisted snapshot refId) :
    next.RefsApart (m.snapshotAfter next snapshot) := by
  have hfresh : m.heap next.enqueueSeq = none :=
    hapart.born _ (by rw [haccepts.enqueueSeq]; exact Nat.lt_succ_self _)
  have hother : ∀ {ref : JobRef}, (m.heap ref).isSome = true →
      ref ≠ next.enqueueSeq := by
    rintro ref hsome rfl
    rw [hfresh] at hsome
    cases hsome
  refine ⟨?_, ?_, ?_, ?_, ?_⟩
  · intro ref hbeyond
    rw [haccepts.heap, Function.update_of_ne (Nat.ne_of_gt hbeyond)]
    refine hapart.born ref ?_
    rw [haccepts.enqueueSeq] at hbeyond
    exact Nat.lt_of_succ_lt hbeyond
  · intro ref hheld
    rw [haccepts.heap]
    rcases haccepts.holds hheld with rfl | hold
    · rw [Function.update_self]
      rfl
    · have hsome := hapart.known ref hold
      rw [Function.update_of_ne (hother hsome)]
      exact hsome
  · intro ref found other otherFound hfound hliving hotherFound hne hothers refId
      hlisted hotherListed
    rcases haccepts.found hfound with ⟨rfl, rfl⟩ | ⟨hold, hjob⟩
    · rcases haccepts.found hotherFound with ⟨rfl, rfl⟩ | ⟨hotherOld, hotherJob⟩
      · exact hne rfl
      · refine (hunlisted refId hlisted).jobs other otherFound hotherJob ?_ hotherListed
        exact hothers.imp_left fun hheld =>
          (haccepts.holds hheld).resolve_left hotherOld
    · rcases haccepts.found hotherFound with ⟨rfl, rfl⟩ | ⟨hotherOld, hotherJob⟩
      · exact (hunlisted refId hotherListed).jobs ref found hjob (.inr hliving) hlisted
      · refine hapart.apart ref found other otherFound hjob hliving hotherJob hne ?_
          refId hlisted hotherListed
        exact hothers.imp_left fun hheld =>
          (haccepts.holds hheld).resolve_left hotherOld
  · intro ref hfrees
    have hold := haccepts.frees.mp hfrees
    obtain ⟨hsome, hsnapshot⟩ := hapart.freed ref hold
    have hsame : next.heap ref = m.heap ref := by
      rw [haccepts.heap, Function.update_of_ne (hother hsome)]
    refine ⟨hsame.symm ▸ hsome, fun refId hlisted => ?_⟩
    unfold snapshotAfter
    rw [if_pos hold]
    unfold stagedIds at hlisted hsnapshot
    rw [hsame] at hlisted
    exact hsnapshot refId hlisted
  · intro refId hreleasing ref found hfound hliving hlisted
    have hold : m.Releasing snapshot refId := by
      rcases hreleasing with hpending | ⟨source, hfrees, hmem⟩
      · exact .inl (haccepts.pending.mp hpending)
      · have hsource := haccepts.frees.mp hfrees
        unfold snapshotAfter at hmem
        rw [if_pos hsource] at hmem
        exact .inr ⟨source, hsource, hmem⟩
    rcases haccepts.found hfound with ⟨rfl, rfl⟩ | ⟨-, hjob⟩
    · exact (hunlisted refId hlisted).releasing hold
    · exact hapart.releasing refId hold ref found hjob hliving hlisted

theorem Accepts.owed (haccepts : m.Accepts next job)
    (hnew : m.jobs.lookup job.jobId = none) {refId : RefId}
    (howed : m.Owed ref refId) : next.Owed ref refId := by
  have hlookup : ∀ {jobId : JobId}, m.jobs.lookup jobId = some ref →
      next.jobs.lookup jobId = some ref := by
    intro jobId hheld
    rw [haccepts.jobs, OrderedDict.lookup_set_ne]
    · exact hheld
    · rintro rfl
      rw [hnew] at hheld
      cases hheld
  rcases howed with hpending | hfrees | ⟨phase, hmem, jobId, hattends, hheld⟩ |
    ⟨⟨phase, hmem, hgathers⟩, jobId, hheld⟩
  · exact .inl (haccepts.pending.mpr hpending)
  · exact .inr (.inl (haccepts.frees.mpr hfrees))
  · exact .inr (.inr (.inl ⟨phase, haccepts.grown.threads_subset hmem, jobId, hattends,
      hlookup hheld⟩))
  · have hclosing : next.closing = m.closing := haccepts.grown.closing
    exact .inr (.inr (.inr ⟨⟨phase, hclosing.symm ▸ hmem, hgathers⟩, jobId,
      hlookup hheld⟩))

/-! ## All steps -/

theorem step_refs {label : JobQueueLabel V} (hstep : m.step label = some next)
    (hapart : m.stagesApart snapshot label) :
    (∃ payload generatedId generatedClient digest now job,
      label = .submit payload generatedId generatedClient digest now ∧
        (checkPayload payload).isOk = true ∧ m.Accepts next job ∧
        job.jobId = submittedJobId payload generatedId ∧ job.status = .waiting ∧
        job.payload = payload ∧ job.stagedRefIds = payload.dataRefIds) ∨
    m.RefMoves next (m.releaseCalls label) ∧
      (m.handsOn label → (∀ ref job, m.heap ref = some job → job.stagedRefIds ≠ [] →
        job.payload.stagingTtlSec.isSome = true) →
          m.KeepsOwed next (m.releaseCalls label)) := by
  have hquiet : ∀ {calls : List RefId} {P Q : Prop}, m.QuietStep next →
      m.RefMoves next calls ∧ (P → Q → m.KeepsOwed next calls) := by
    intro calls P Q hquiet
    exact ⟨hquiet.moves (moves_refl next calls), fun _ _ =>
      hquiet.keeps (keeps_refl next calls)⟩
  cases label with
  | submit payload generatedId generatedClient digest now =>
    obtain ⟨text, -, rfl⟩ | ⟨hcheck, rfl⟩ := step_submit hstep
    · exact .inr (hquiet (quiet_refl _))
    · obtain ⟨job, haccepts, hjob⟩ := accepts_submitSection (m := m) payload generatedId
        generatedClient digest now
      exact .inl ⟨payload, generatedId, generatedClient, digest, now, job, rfl,
        by rw [hcheck]; rfl, haccepts, hjob⟩
  | getJob | summary =>
    cases hstep
    exact .inr (hquiet quiet_detachAndEnsure)
  | cancel jobId digest now =>
    right
    simp only [step] at hstep
    split at hstep
    · next cancelled hcancel =>
      cases hstep
      obtain ⟨hmoves, hkeeps⟩ := cancelJob_spec hcancel
      exact ⟨hmoves, fun _ _ => hkeeps⟩
    · cases hstep
      exact hquiet (quiet_refl m)
  | reorder jobId direction =>
    cases hstep
    exact .inr (hquiet (quiet_reorderJob jobId direction))
  | start target =>
    cases hstep
    exact .inr (hquiet (quiet_start target))
  | close now =>
    cases hstep
    obtain ⟨hmoves, hkeeps⟩ := closeBegin_spec (m := m) now
    exact .inr ⟨hmoves, fun _ _ => hkeeps⟩
  | closeStep index now =>
    obtain ⟨hmoves, hkeeps⟩ := closeStep_spec hstep hapart
    exact .inr ⟨hmoves, fun hhands _ => hkeeps hhands⟩
  | refWork index now =>
    obtain ⟨hmoves, hkeeps⟩ := refWorkStep_spec hstep
    exact .inr ⟨hmoves, fun hhands _ => hkeeps hhands⟩
  | scheduler tid move =>
    exact .inr ⟨schedulerStep_moves hstep, schedulerStep_keeps hstep⟩

theorem RefsApart.step {label : JobQueueLabel V} (hapart : m.RefsApart snapshot)
    (hguard : m.stagesApart snapshot label) (hstep : m.step label = some next) :
    next.RefsApart (m.snapshotAfter next snapshot) := by
  rcases step_refs hstep hguard with
    ⟨payload, generatedId, generatedClient, digest, now, job, rfl, hok, haccepts, -, -,
      -, hstaged⟩ | ⟨hmoves, -⟩
  · refine hapart.accepts haccepts ?_
    rw [hstaged]
    exact hguard hok
  · exact hapart.moves hmoves

theorem refsApart_init (retentionSec authTtlSec stagedRefTtlSec : Nat) :
    (init retentionSec authTtlSec stagedRefTtlSec : JobQueueManager V).RefsApart
      fun _ => [] := by
  have hnone : ∀ ref (job : JobState V),
      (init retentionSec authTtlSec stagedRefTtlSec : JobQueueManager V).heap ref ≠
        some job :=
    fun _ _ hjob => by cases hjob
  refine ⟨fun _ _ => rfl, ?_, fun ref job _ _ hjob => absurd hjob (hnone ref job), ?_, ?_⟩
  · rintro ref ⟨jobId, hlookup⟩
    cases hlookup
  · rintro ref (⟨phase, hmem, -⟩ | ⟨phase, hmem, -⟩) <;> cases hmem
  · intro refId _ ref job hjob
    exact absurd hjob (hnone ref job)

end JobQueueManager

namespace StagedQueue

variable {q next : StagedQueue V}

variable {label : JobQueueLabel V}

theorem RefsKept.step (hkept : q.RefsKept)
    (hapart : q.manager.RefsApart q.snapshot)
    (hguard : q.manager.stagesApart q.snapshot label)
    (hhands : q.manager.handsOn label) (hstep : q.step label = some next) :
    next.RefsKept := by
  obtain ⟨manager, hmanager, hnext⟩ := Option.map_eq_some_iff.mp hstep
  have hsame : next.manager = manager := by rw [← hnext]
  rw [← hsame] at hmanager
  rcases JobQueueManager.step_refs hmanager hguard with
    ⟨payload, generatedId, generatedClient, digest, now, job, rfl, hok, haccepts, hid,
      hwaiting, hpayload, hstaged⟩ | ⟨hmoves, hkeeps⟩
  · obtain ⟨hentry, httl⟩ := hhands.2 hok
    have hnew : q.manager.jobs.lookup job.jobId = none := by
      rw [hid]
      cases hlookup : q.manager.jobs.lookup
        (JobQueueManager.submittedJobId payload generatedId) with
      | none => rfl
      | some ref =>
        obtain ⟨found, hfound⟩ := Option.isSome_iff_exists.mp
          (hapart.known ref ⟨_, hlookup⟩)
        rw [JobQueueManager.entry_eq_some.mpr ⟨hlookup, hfound⟩] at hentry
        cases hentry
    refine ⟨?_, ?_, ?_⟩
    · intro ref found hfound refId hlisted
      rcases haccepts.found hfound with ⟨rfl, rfl⟩ | ⟨-, hold⟩
      · left
        rw [hpayload] at hlisted
        rw [hstaged]
        exact hlisted
      · exact (hkept.listed ref found hold refId hlisted).imp_right (released_mono hstep)
    · intro ref found hfound hterminal refId hlisted
      rcases haccepts.found hfound with ⟨rfl, rfl⟩ | ⟨-, hold⟩
      · rw [hwaiting] at hterminal
        cases hterminal
      · exact (hkept.owed ref found hold hterminal refId hlisted).imp
          (released_mono hstep) (haccepts.owed hnew)
    · intro ref found hfound hsome
      rcases haccepts.found hfound with ⟨rfl, rfl⟩ | ⟨-, hold⟩
      · rw [hstaged] at hsome
        rw [hpayload]
        exact httl hsome
      · exact hkept.ttl ref found hold hsome
  · exact hkept.moves hapart hstep hmoves (hkeeps hhands hkept.ttl)

theorem refsKept_init (retentionSec authTtlSec stagedRefTtlSec : Nat) :
    (init retentionSec authTtlSec stagedRefTtlSec : StagedQueue V).RefsKept := by
  refine ⟨?_, ?_, ?_⟩ <;>
  · intro ref job hjob
    cases hjob

theorem refsApart_step (hapart : q.manager.RefsApart q.snapshot)
    (hguard : q.manager.stagesApart q.snapshot label)
    (hstep : q.step label = some next) :
    next.manager.RefsApart next.snapshot := by
  obtain ⟨manager, hmanager, rfl⟩ := Option.map_eq_some_iff.mp hstep
  exact hapart.step hguard hmanager

structure Resting (q : StagedQueue V) : Prop where
  work : ∀ work ∈ q.manager.refWork, work.releasedIds = []
  threads : ∀ phase ∈ q.manager.threads,
    (∀ work ∈ phase.handsOver, work.releasedIds = []) ∧ phase.frees = none ∧
      phase.attends = none
  closing : ∀ phase ∈ q.manager.closing, phase.frees = [] ∧ phase.gathers = false

theorem Resting.not_owed (hrests : q.Resting) {ref : JobRef} {refId : RefId} :
    ¬q.manager.Owed ref refId := by
  rintro ((⟨work, hmem, hlisted⟩ | ⟨phase, hmem, work, hwork, hlisted⟩) |
    (⟨phase, hmem, hfrees⟩ | ⟨phase, hmem, hfrees⟩) |
    (⟨phase, hmem, jobId, hattends, -⟩ | ⟨⟨phase, hmem, hgathers⟩, -⟩))
  · rw [hrests.work work hmem] at hlisted
    cases hlisted
  · rw [(hrests.threads phase hmem).1 work hwork] at hlisted
    cases hlisted
  · rw [(hrests.threads phase hmem).2.1] at hfrees
    cases hfrees
  · rw [(hrests.closing phase hmem).1] at hfrees
    cases hfrees
  · rw [(hrests.threads phase hmem).2.2] at hattends
    cases hattends
  · rw [(hrests.closing phase hmem).2] at hgathers
    cases hgathers

theorem refsApart_of_run {retentionSec authTtlSec stagedRefTtlSec : Nat}
    (hrun : GuardedRun step (fun q label => q.manager.stagesApart q.snapshot label)
      (init retentionSec authTtlSec stagedRefTtlSec) q) :
    q.manager.RefsApart q.snapshot := by
  refine hrun.invariant (fun q => q.manager.RefsApart q.snapshot)
    (JobQueueManager.refsApart_init retentionSec authTtlSec stagedRefTtlSec) ?_
  intro before label after hapart hguard hstep
  exact refsApart_step hapart hguard hstep

theorem refsKept_of_run {retentionSec authTtlSec stagedRefTtlSec : Nat}
    (hrun : GuardedRun step (fun q label =>
        q.manager.stagesApart q.snapshot label ∧ q.manager.handsOn label)
      (init retentionSec authTtlSec stagedRefTtlSec) q) : q.RefsKept := by
  have hboth : q.manager.RefsApart q.snapshot ∧ q.RefsKept := by
    refine hrun.invariant (fun q => q.manager.RefsApart q.snapshot ∧ q.RefsKept)
      ⟨JobQueueManager.refsApart_init retentionSec authTtlSec stagedRefTtlSec,
        refsKept_init retentionSec authTtlSec stagedRefTtlSec⟩ ?_
    rintro before label after ⟨hapart, hkept⟩ ⟨hguard, hhands⟩ hstep
    exact ⟨refsApart_step hapart hguard hstep,
      hkept.step hapart hguard hhands hstep⟩
  exact hboth.2

/-- Steps whose conditions are decided: neither a submission nor a step of
`close`. -/
def plainStep (m : JobQueueManager V) : JobQueueLabel V → Bool
  | .submit _ _ _ _ _ | .closeStep _ _ => false
  | .scheduler tid move => m.controlplaneTarget != "" &&
    match m.threads[tid]? with
    | some (.dispatch _ _) => !m.maintenanceShutdown
    | some (.running run point) => !m.raisesOut run point move
    | _ => true
  | _ => m.controlplaneTarget != ""

theorem plainStep_ok {m : JobQueueManager V} {snapshot : JobRef → List RefId}
    (hplain : plainStep m label = true) :
    m.stagesApart snapshot label ∧ m.handsOn label := by
  have htarget : ∀ {ids : List RefId}, (m.controlplaneTarget != "") = true →
      m.controlplaneTarget = "" → ids = [] := by
    intro ids hopen hnone
    rw [hnone] at hopen
    cases hopen
  cases label with
  | submit _ _ _ _ _ | closeStep _ _ => cases hplain
  | scheduler tid move =>
    obtain ⟨hopen, hthread⟩ := Bool.and_eq_true_iff.mp hplain
    refine ⟨trivial, htarget hopen, ?_⟩
    dsimp only
    split
    · next work chosen hphase =>
      intro hshut
      rw [hphase] at hthread
      simp [hshut] at hthread
    · next run point hphase =>
      rw [hphase] at hthread
      simpa using hthread
    · trivial
  | _ => exact ⟨trivial, htarget hplain, trivial⟩

/-- A hook job with the reference `"rows"`. -/
def submitRows (jobId : String) : JobQueueLabel Nat :=
  .submit { hookPayload jobId with dataRefIds := ["rows"] } "" "" "" 0

def started : StagedQueue Nat where
  manager := (JobQueueManager.init 3600 86400 86400).start "infocenter:7000"
  snapshot := fun _ => []
  released := fun _ _ => false

def queuedManager : JobQueueManager Nat :=
  started.manager.submitSection
    { hookPayload "first" with dataRefIds := ["rows"] } "" "" "" 0

def queued : StagedQueue Nat where
  manager := queuedManager
  snapshot := started.manager.snapshotAfter queuedManager fun _ => []
  released := fun _ _ => false

def losesNothing (q : StagedQueue Nat) (label : JobQueueLabel Nat) : Prop :=
  q.manager.stagesApart q.snapshot label ∧ q.manager.handsOn label

theorem start_ok :
    losesNothing (init 3600 86400 86400) (.start "infocenter:7000") :=
  ⟨trivial, fun _ => rfl, trivial⟩

theorem submitRows_ok : losesNothing started (submitRows "first") := by
  refine ⟨fun _ refId _ => ⟨?_, ?_⟩, fun _ => rfl, fun _ => ⟨rfl, fun _ => rfl⟩⟩
  · intro ref job hjob
    cases hjob
  · rintro ((⟨work, hmem, -⟩ | ⟨phase, hmem, work, hwork, -⟩) | ⟨ref, -, hlisted⟩)
    · cases hmem
    · rw [List.mem_singleton.mp hmem] at hwork
      cases hwork
    · cases hlisted

def wholeRun (tid : ThreadId) : List (JobQueueLabel Nat) :=
  untilBlob tid ++ afterBlob tid ++ [advance tid, advance tid, advance tid]

/-- Two jobs carry the same reference, and one job whose id is submitted again
before its thread looks at it. -/
def sharedRun : List (JobQueueLabel Nat) :=
  [.start "infocenter:7000", submitRows "first", submitRows "second"] ++
    untilBlob 0 ++ afterBlob 0 ++ [advance 0]

def resubmittedRun : List (JobQueueLabel Nat) :=
  [.start "infocenter:7000", submitRows "first"] ++ untilBlob 0 ++ afterBlob 0 ++
    [submitHookJob "first", advance 0, advance 0] ++ wholeRun 0

end StagedQueue

end PycloudParallel.JobQueue
