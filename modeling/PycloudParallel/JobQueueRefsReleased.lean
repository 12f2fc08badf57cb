import PycloudParallel.JobQueueStagedRuns

/-!
# Staged references outlive their jobs and are released

The steps of the queue, each with what it hands to a release and what it still
owes, and the runs.
-/

namespace PycloudParallel.JobQueue

variable {V : Type}

section Places

variable {α : Type} {list : List α} {place : Nat} {old element : α}

variable (hold : list[place]? = some old)

include hold

theorem eq_or_mem_set (hmem : element ∈ list) (next : α) :
    element = old ∨ element ∈ list.set place next := by
  obtain ⟨index, hindex, rfl⟩ := List.getElem_of_mem hmem
  by_cases hsame : place = index
  · subst hsame
    rw [List.getElem?_eq_getElem hindex] at hold
    exact .inl (Option.some.inj hold)
  · right
    refine List.mem_of_getElem? (i := index) ?_
    rw [List.getElem?_set_ne hsame]
    exact List.getElem?_eq_getElem hindex

theorem eq_or_mem_eraseIdx (hmem : element ∈ list) :
    element = old ∨ element ∈ list.eraseIdx place := by
  obtain ⟨index, hindex, rfl⟩ := List.getElem_of_mem hmem
  by_cases hsame : index = place
  · subst hsame
    rw [List.getElem?_eq_getElem hindex] at hold
    exact .inl (Option.some.inj hold)
  · right
    exact List.mem_eraseIdx_iff_getElem?.mpr
      ⟨index, hsame, List.getElem?_eq_getElem hindex⟩

theorem mem_set_self (next : α) : next ∈ list.set place next := by
  obtain ⟨hlt, -⟩ := List.getElem?_eq_some_iff.mp hold
  exact List.mem_set hlt next

end Places

namespace JobQueueManager

variable {m mid next : JobQueueManager V} {calls : List RefId}
  {settles : JobRef → Prop} {tid : ThreadId} {phase : SchedulerPhase V}

variable {refId : RefId} {ref : JobRef} {job : JobState V} {jobId : JobId}
  {work : RefWork} {now index : Nat}

section

variable (hsame : m.SameHolders next)

include hsame

theorem SameHolders.pending :
    next.ReleasePending refId ↔ m.ReleasePending refId := by
  unfold ReleasePending
  rw [hsame.refWork, hsame.threads]

theorem SameHolders.frees : next.Frees ref ↔ m.Frees ref := by
  unfold Frees
  rw [hsame.threads, hsame.closing]

theorem SameHolders.holds : next.Holds ref ↔ m.Holds ref := by
  unfold Holds
  rw [hsame.jobs]

theorem SameHolders.owed : next.Owed ref refId ↔ m.Owed ref refId := by
  unfold Owed Attended
  rw [hsame.pending, hsame.frees, hsame.holds, hsame.threads, hsame.closing,
    hsame.jobs]

end

theorem Changes.moves (hchanges : m.Changes calls settles next) :
    m.RefMoves next calls where
  enqueueSeq := hchanges.enqueueSeq
  objects ref changed hchanged := by
    obtain ⟨job, hjob, hsheds, -⟩ := hchanges.objects ref changed hchanged
    exact ⟨job, hjob, hsheds⟩
  present := hchanges.present
  holds _ := hchanges.holds.mp
  pending _ hpending := .inl (hchanges.pending.mp hpending)
  frees _ hfrees := .inl (hchanges.frees.mp hfrees)

theorem Changes.keeps (hchanges : m.Changes calls settles next)
    (howed : ∀ ref, settles ref → ∀ refId, next.Owed ref refId) :
    m.KeepsOwed next calls where
  settled ref job changed hjob hliving hchanged hterminal refId _ := by
    obtain ⟨old, hold, -, hsettles⟩ := hchanges.objects ref changed hchanged
    rw [hjob] at hold
    cases hold
    refine howed ref ((hsettles hterminal).resolve_left ?_) refId
    rw [hliving]
    exact Bool.false_ne_true
  owed _ _ _ _ _ _ hstill := .inl (hchanges.owed.mpr hstill)

theorem Changes.living (hchanges : m.Changes calls (fun _ => False) next)
    {changed : JobState V} (hjob : m.heap ref = some job)
    (hliving : job.status.terminal = false)
    (hchanged : next.heap ref = some changed) :
    changed.status.terminal = false := by
  obtain ⟨found, hfound, -, hsettles⟩ := hchanges.objects ref changed hchanged
  rw [hjob] at hfound
  cases hfound
  rw [← Bool.not_eq_true]
  intro hterminal
  rcases hsettles hterminal with hbefore | hnone
  · rw [hliving] at hbefore
    cases hbefore
  · exact hnone

/-! ## Steps that only start threads -/

/-- Nothing but the list of threads grows, by threads that have just been
started. -/
structure QuietStep (m next : JobQueueManager V) : Prop where
  heap : next.heap = m.heap
  jobs : next.jobs = m.jobs
  refWork : next.refWork = m.refWork
  closing : next.closing = m.closing
  enqueueSeq : next.enqueueSeq = m.enqueueSeq
  threads : ∃ started, next.threads = m.threads ++ started ∧
    ∀ phase ∈ started, phase = .loop

theorem QuietStep.of_same (hheap : next.heap = m.heap) (hjobs : next.jobs = m.jobs)
    (hwork : next.refWork = m.refWork) (hclosing : next.closing = m.closing)
    (hseq : next.enqueueSeq = m.enqueueSeq) (hthreads : next.threads = m.threads) :
    m.QuietStep next :=
  ⟨hheap, hjobs, hwork, hclosing, hseq, [], by rw [hthreads, List.append_nil],
    fun _ hmem => by cases hmem⟩

theorem quiet_refl (m : JobQueueManager V) : m.QuietStep m :=
  .of_same rfl rfl rfl rfl rfl rfl

theorem quiet_spawn (hheap : next.heap = m.heap) (hjobs : next.jobs = m.jobs)
    (hwork : next.refWork = m.refWork) (hclosing : next.closing = m.closing)
    (hseq : next.enqueueSeq = m.enqueueSeq)
    (hthreads : next.threads = m.threads ++ [.loop]) : m.QuietStep next :=
  ⟨hheap, hjobs, hwork, hclosing, hseq, [.loop], hthreads,
    fun _ hmem => List.mem_singleton.mp hmem⟩

theorem QuietStep.trans (hfirst : m.QuietStep mid) (hsecond : mid.QuietStep next) :
    m.QuietStep next := by
  obtain ⟨first, hfirstThreads, hfirstLoop⟩ := hfirst.threads
  obtain ⟨second, hsecondThreads, hsecondLoop⟩ := hsecond.threads
  refine ⟨hsecond.heap.trans hfirst.heap, hsecond.jobs.trans hfirst.jobs,
    hsecond.refWork.trans hfirst.refWork, hsecond.closing.trans hfirst.closing,
    hsecond.enqueueSeq.trans hfirst.enqueueSeq, first ++ second, ?_, ?_⟩
  · rw [hsecondThreads, hfirstThreads, List.append_assoc]
  · intro phase hmem
    rcases List.mem_append.mp hmem with hmem | hmem
    · exact hfirstLoop phase hmem
    · exact hsecondLoop phase hmem

section

variable (hquiet : m.QuietStep next)

include hquiet

theorem QuietStep.mem_threads (hmem : phase ∈ next.threads) :
    phase ∈ m.threads ∨ phase = .loop := by
  obtain ⟨started, hthreads, hloop⟩ := hquiet.threads
  rw [hthreads] at hmem
  exact (List.mem_append.mp hmem).imp_right (hloop phase)

theorem QuietStep.threads_subset (hmem : phase ∈ m.threads) :
    phase ∈ next.threads := by
  obtain ⟨started, hthreads, -⟩ := hquiet.threads
  rw [hthreads]
  exact List.mem_append_left _ hmem

theorem QuietStep.thread (hphase : m.threads[tid]? = some phase) :
    next.threads[tid]? = some phase := by
  obtain ⟨started, hthreads, -⟩ := hquiet.threads
  obtain ⟨hlt, -⟩ := List.getElem?_eq_some_iff.mp hphase
  rw [hthreads, List.getElem?_append_left hlt]
  exact hphase

theorem QuietStep.holds : next.Holds ref ↔ m.Holds ref := by
  unfold Holds
  rw [hquiet.jobs]

theorem QuietStep.pending :
    next.ReleasePending refId ↔ m.ReleasePending refId := by
  unfold ReleasePending
  rw [hquiet.refWork]
  refine or_congr_right ⟨?_, ?_⟩
  · rintro ⟨phase, hmem, work, hwork, hlisted⟩
    rcases hquiet.mem_threads hmem with hold | rfl
    · exact ⟨phase, hold, work, hwork, hlisted⟩
    · cases hwork
  · rintro ⟨phase, hmem, hwork⟩
    exact ⟨phase, hquiet.threads_subset hmem, hwork⟩

theorem QuietStep.frees : next.Frees ref ↔ m.Frees ref := by
  unfold Frees
  rw [hquiet.closing]
  refine or_congr_left ⟨?_, ?_⟩
  · rintro ⟨phase, hmem, hfrees⟩
    rcases hquiet.mem_threads hmem with hold | rfl
    · exact ⟨phase, hold, hfrees⟩
    · cases hfrees
  · rintro ⟨phase, hmem, hfrees⟩
    exact ⟨phase, hquiet.threads_subset hmem, hfrees⟩

theorem QuietStep.owed (howed : m.Owed ref refId) : next.Owed ref refId := by
  rcases howed with hpending | hfrees | hattended
  · exact .inl (hquiet.pending.mpr hpending)
  · exact .inr (.inl (hquiet.frees.mpr hfrees))
  · refine .inr (.inr (hattended.imp ?_ ?_))
    · rintro ⟨phase, hmem, jobId, hattends, hlookup⟩
      exact ⟨phase, hquiet.threads_subset hmem, jobId, hattends,
        hquiet.jobs.symm ▸ hlookup⟩
    · rintro ⟨hgathers, hheld⟩
      exact ⟨hquiet.closing.symm ▸ hgathers, hquiet.holds.mpr hheld⟩

end

theorem QuietStep.moves (hquiet : m.QuietStep mid)
    (hmoves : mid.RefMoves next calls) : m.RefMoves next calls where
  enqueueSeq := hmoves.enqueueSeq.trans hquiet.enqueueSeq
  objects ref changed hchanged := hquiet.heap ▸ hmoves.objects ref changed hchanged
  present ref hnone := hquiet.heap ▸ hmoves.present ref hnone
  holds ref hheld := hquiet.holds.mp (hmoves.holds ref hheld)
  pending refId hpending := by
    rcases hmoves.pending refId hpending with hold | ⟨ref, job, hheld, hrest⟩
    · exact .inl (hquiet.pending.mp hold)
    · exact .inr ⟨ref, job, hquiet.holds.mp hheld, hrest⟩
  frees ref hfrees := by
    rcases hmoves.frees ref hfrees with hold | ⟨hheld, hrest⟩
    · exact .inl (hquiet.frees.mp hold)
    · exact .inr ⟨hquiet.holds.mp hheld, hrest⟩

theorem QuietStep.keeps (hquiet : m.QuietStep mid)
    (hkeeps : mid.KeepsOwed next calls) : m.KeepsOwed next calls where
  settled ref job changed hjob :=
    hkeeps.settled ref job changed (hquiet.heap.symm ▸ hjob)
  owed ref job hjob hterminal refId hlisted howed :=
    hkeeps.owed ref job (hquiet.heap.symm ▸ hjob) hterminal refId hlisted
      (hquiet.owed howed)

theorem changes_none (m : JobQueueManager V) :
    m.Changes calls (fun _ => False) m :=
  changes_refl m

theorem moves_refl (m : JobQueueManager V) (calls : List RefId) :
    m.RefMoves m calls :=
  (changes_none m).moves

theorem keeps_refl (m : JobQueueManager V) (calls : List RefId) :
    m.KeepsOwed m calls :=
  (changes_none m).keeps fun _ hnone => hnone.elim

/-! ## A thread moves on -/

theorem pending_of_setPhase
    (hpending : (m.setPhase tid phase).ReleasePending refId) :
    m.ReleasePending refId ∨
      ∃ work ∈ phase.handsOver, refId ∈ work.releasedIds := by
  rcases hpending with hwork | ⟨found, hmem, hwork⟩
  · exact .inl (.inl hwork)
  · rcases List.mem_or_eq_of_mem_set hmem with hold | rfl
    · exact .inl (.inr ⟨found, hold, hwork⟩)
    · exact .inr hwork

theorem frees_of_setPhase (hfrees : (m.setPhase tid phase).Frees ref) :
    m.Frees ref ∨ phase.frees = some ref := by
  rcases hfrees with ⟨found, hmem, hfound⟩ | hclosing
  · rcases List.mem_or_eq_of_mem_set hmem with hold | rfl
    · exact .inl (.inl ⟨found, hold, hfound⟩)
    · exact .inr hfound
  · exact .inl (.inr hclosing)

theorem owed_setPhase {old : SchedulerPhase V}
    (hold : m.threads[tid]? = some old) (phase : SchedulerPhase V)
    (howed : m.Owed ref refId) :
    (m.setPhase tid phase).Owed ref refId ∨
      (∃ work ∈ old.handsOver, refId ∈ work.releasedIds) ∨
      old.frees = some ref ∨
      ∃ jobId, old.attends = some jobId ∧ m.jobs.lookup jobId = some ref := by
  rcases howed with (hwork | ⟨found, hmem, hwork⟩) |
    (⟨found, hmem, hfrees⟩ | hclosing) | (⟨found, hmem, hattends⟩ | hgathers)
  · exact .inl (.inl (.inl hwork))
  · rcases eq_or_mem_set hold hmem phase with rfl | hstill
    · exact .inr (.inl hwork)
    · exact .inl (.inl (.inr ⟨found, hstill, hwork⟩))
  · rcases eq_or_mem_set hold hmem phase with rfl | hstill
    · exact .inr (.inr (.inl hfrees))
    · exact .inl (.inr (.inl (.inl ⟨found, hstill, hfrees⟩)))
  · exact .inl (.inr (.inl (.inr hclosing)))
  · rcases eq_or_mem_set hold hmem phase with rfl | hstill
    · exact .inr (.inr (.inr hattends))
    · exact .inl (.inr (.inr (.inl ⟨found, hstill, hattends⟩)))
  · exact .inl (.inr (.inr (.inr hgathers)))

theorem owed_of_attends {old : SchedulerPhase V}
    (hold : m.threads[tid]? = some old) (hattends : phase.attends = some jobId)
    (hlookup : m.jobs.lookup jobId = some ref) :
    (m.setPhase tid phase).Owed ref refId :=
  .inr (.inr (.inl ⟨phase, mem_set_self hold phase, jobId, hattends, hlookup⟩))

theorem Changes.moves_setPhase (hchanges : m.Changes calls settles mid)
    (hhands : phase.handsOver = []) (hfrees : phase.frees = none) :
    m.RefMoves (mid.setPhase tid phase) calls where
  enqueueSeq := hchanges.enqueueSeq
  objects := hchanges.moves.objects
  present := hchanges.present
  holds _ := hchanges.holds.mp
  pending refId hpending := by
    rcases pending_of_setPhase hpending with hold | ⟨work, hwork, -⟩
    · exact .inl (hchanges.pending.mp hold)
    · rw [hhands] at hwork
      cases hwork
  frees ref hfreed := by
    rcases frees_of_setPhase hfreed with hold | hnew
    · exact .inl (hchanges.frees.mp hold)
    · rw [hfrees] at hnew
      cases hnew

theorem Changes.weaken (hchanges : m.Changes [] settles next) :
    m.Changes calls settles next where
  toSameHolders := hchanges.toSameHolders
  objects ref changed hchanged := by
    obtain ⟨job, hjob, hsheds, hsettles⟩ := hchanges.objects ref changed hchanged
    refine ⟨job, hjob, ⟨hsheds.payload, hsheds.terminal, hsheds.listed, ?_⟩, hsettles⟩
    intro refId hlisted
    exact .inl ((hsheds.shed refId hlisted).resolve_right List.not_mem_nil)
  present := hchanges.present

theorem Changes.keeps_setPhase {old : SchedulerPhase V}
    (hchanges : m.Changes calls settles mid) (hold : m.threads[tid]? = some old)
    (hsettles : ∀ ref, settles ref → ∀ refId,
      (mid.setPhase tid phase).Owed ref refId)
    (hgives : ∀ ref job refId, m.heap ref = some job →
      job.status.terminal = true → refId ∈ job.stagedRefIds →
      (∃ work ∈ old.handsOver, refId ∈ work.releasedIds) ∨ old.frees = some ref ∨
        (∃ jobId, old.attends = some jobId ∧ m.jobs.lookup jobId = some ref) →
      (mid.setPhase tid phase).Owed ref refId ∨ refId ∈ calls) :
    m.KeepsOwed (mid.setPhase tid phase) calls where
  settled ref job changed hjob hliving hchanged hterminal refId _ := by
    obtain ⟨found, hfound, -, hsettled⟩ := hchanges.objects ref changed hchanged
    rw [hjob] at hfound
    cases hfound
    refine hsettles ref ((hsettled hterminal).resolve_left ?_) refId
    rw [hliving]
    exact Bool.false_ne_true
  owed ref job hjob hterminal refId hlisted howed := by
    have hplace : mid.threads[tid]? = some old := by
      rw [hchanges.threads]
      exact hold
    rcases owed_setPhase hplace phase (hchanges.owed.mpr howed) with hstill | hgiven
    · exact .inl hstill
    · rw [hchanges.jobs] at hgiven
      exact hgives ref job refId hjob hterminal hlisted hgiven

/-! ## The scheduler threads -/

theorem RunsOn.moves {run : RunLocals V} {raised : Bool}
    (hruns : m.RunsOn next tid run raised) : m.RefMoves next calls := by
  obtain ⟨mid, phase, hchanges, rfl, hhands, hfrees, -⟩ := hruns
  exact (Changes.weaken hchanges).moves_setPhase hhands hfrees

theorem RunsOn.keeps {run : RunLocals V} {point : RunPoint V} {raised : Bool}
    (hruns : m.RunsOn next tid run raised)
    (hphase : m.threads[tid]? = some (.running run point))
    (hcalm : raised = false) : m.KeepsOwed next calls := by
  obtain ⟨mid, phase, hchanges, rfl, -, -, hattends⟩ := hruns
  have hnext : phase.attends = some run.jobId := by
    refine hattends.resolve_right ?_
    rw [hcalm]
    exact Bool.false_ne_true
  have hplace : mid.threads[tid]? = some (.running run point) := by
    rw [hchanges.threads]
    exact hphase
  have howed : ∀ ref refId, m.jobs.lookup run.jobId = some ref →
      (mid.setPhase tid phase).Owed ref refId := by
    intro ref refId hlookup
    refine owed_of_attends hplace hnext ?_
    rw [hchanges.jobs]
    exact hlookup
  refine (Changes.weaken hchanges).keeps_setPhase hphase
    (fun ref hlookup refId => howed ref refId hlookup) ?_
  rintro ref job refId - - - (⟨work, hwork, -⟩ | hfrees | ⟨jobId, hjobId, hlookup⟩)
  · cases hwork
  · cases hfrees
  · cases hjobId
    exact .inl (howed ref refId hlookup)

theorem idle_setPhase {old : SchedulerPhase V}
    (hchanges : m.Changes [] (fun _ => False) mid)
    (hold : m.threads[tid]? = some old) (hidle : old.handsOver = [])
    (hfree : old.frees = none) (hattends : old.attends = none)
    (hhands : phase.handsOver = []) (hfrees : phase.frees = none) :
    m.RefMoves (mid.setPhase tid phase) calls ∧
      m.KeepsOwed (mid.setPhase tid phase) calls := by
  have hweak : m.Changes calls (fun _ => False) mid := hchanges.weaken
  refine ⟨hweak.moves_setPhase hhands hfrees,
    hweak.keeps_setPhase hold (fun _ hnone => hnone.elim) ?_⟩
  rintro ref job refId - - - (⟨work, hwork, -⟩ | hfreed | ⟨jobId, hjobId, -⟩)
  · rw [hidle] at hwork
    cases hwork
  · rw [hfree] at hfreed
    cases hfreed
  · rw [hattends] at hjobId
    cases hjobId

theorem enterRun_spec (hphase : m.threads[tid]? = some (.enter jobId ref)) :
    m.RefMoves (m.enterRun tid jobId ref) calls ∧
      m.KeepsOwed (m.enterRun tid jobId ref) calls := by
  unfold enterRun
  split
  all_goals
    exact idle_setPhase (.of_same ⟨rfl, rfl, rfl, rfl, rfl⟩ rfl) hphase rfl rfl rfl
      rfl rfl

theorem pending_pushRefWork :
    (m.pushRefWork work).ReleasePending refId ↔
      m.ReleasePending refId ∨ refId ∈ work.releasedIds := by
  unfold ReleasePending pushRefWork
  simp only [List.mem_append, List.mem_singleton]
  constructor
  · rintro (⟨found, hfound | rfl, hlisted⟩ | hthread)
    · exact .inl (.inl ⟨found, hfound, hlisted⟩)
    · exact .inr hlisted
    · exact .inl (.inr hthread)
  · rintro ((⟨found, hfound, hlisted⟩ | hthread) | hlisted)
    · exact .inl ⟨found, .inl hfound, hlisted⟩
    · exact .inr hthread
    · exact .inl ⟨work, .inr rfl, hlisted⟩

theorem owed_pushRefWork (howed : m.Owed ref refId) :
    (m.pushRefWork work).Owed ref refId := by
  rcases howed with hpending | hrest
  · exact .inl (pending_pushRefWork.mpr (.inl hpending))
  · exact .inr hrest

theorem dispatchStep_moves {work : List RefWork}
    {chosen : Option (JobId × JobRef)}
    (hphase : m.threads[tid]? = some (.dispatch work chosen)) :
    m.RefMoves (m.dispatchStep tid work chosen) calls := by
  have hidle : ∀ phase : SchedulerPhase V, phase.handsOver = [] →
      phase.frees = none → m.RefMoves (m.setPhase tid phase) calls :=
    fun phase hhands hfrees =>
      (changes_none m).moves_setPhase hhands hfrees
  unfold dispatchStep
  split
  · next first rest =>
    split
    · exact hidle .exited rfl rfl
    · have hmem := List.mem_of_getElem? hphase
      refine ⟨rfl, fun ref job hjob => ⟨job, hjob, .of_same rfl rfl id⟩,
        fun _ hnone => hnone, fun _ hheld => hheld, ?_, ?_⟩
      · intro refId hpending
        left
        rcases pending_of_setPhase hpending with hpushed | ⟨item, hitem, hlisted⟩
        · rcases pending_pushRefWork.mp hpushed with hold | hlisted
          · exact hold
          · exact .inr ⟨_, hmem, first, List.mem_cons_self, hlisted⟩
        · exact .inr ⟨_, hmem, item, List.mem_cons_of_mem _ hitem, hlisted⟩
      · intro ref hfrees
        rcases frees_of_setPhase hfrees with hold | hnew
        · exact .inl hold
        · cases hnew
  · split
    · exact hidle .loop rfl rfl
    · exact hidle (.enter _ _) rfl rfl

theorem dispatchStep_keeps {work : List RefWork}
    {chosen : Option (JobId × JobRef)}
    (hphase : m.threads[tid]? = some (.dispatch work chosen))
    (hopen : m.maintenanceShutdown = true → ∀ item ∈ work, item.releasedIds = []) :
    m.KeepsOwed (m.dispatchStep tid work chosen) calls := by
  have hsame : m.Changes calls (fun _ => False) m := changes_refl m
  unfold dispatchStep
  split
  · next first rest =>
    split
    · next hshut =>
      refine hsame.keeps_setPhase hphase (fun _ hnone => hnone.elim) ?_
      rintro ref job refId - - - (⟨item, hitem, hlisted⟩ | hfrees | ⟨jobId, hjobId, -⟩)
      · rw [hopen hshut item hitem] at hlisted
        cases hlisted
      · cases hfrees
      · cases hjobId
    · refine ⟨?_, ?_⟩
      · intro ref job changed hjob hliving hchanged hterminal
        have hsameJob : m.heap ref = some changed := hchanged
        rw [hjob] at hsameJob
        cases hsameJob
        rw [hliving] at hterminal
        cases hterminal
      · intro ref job hjob hterminal refId hlisted howed
        left
        have hplace : (m.pushRefWork first).threads[tid]? =
            some (.dispatch (first :: rest) chosen) := hphase
        rcases owed_setPhase hplace (.dispatch rest chosen)
          (owed_pushRefWork howed) with
          hstill | ⟨item, hitem, hreleases⟩ | hfrees | ⟨jobId, hjobId, -⟩
        · exact hstill
        · rcases List.mem_cons.mp hitem with rfl | hrest
          · exact .inl (.inl ⟨item, List.mem_append_right _ (List.mem_singleton_self _),
              hreleases⟩)
          · exact .inl (.inr ⟨_, mem_set_self hplace _, item, hrest, hreleases⟩)
        · cases hfrees
        · cases hjobId
  · split <;> exact (idle_setPhase (changes_refl m) hphase rfl rfl rfl rfl rfl).2

theorem quiet_detachStaleRunning : m.QuietStep m.detachStaleRunning := by
  unfold detachStaleRunning
  split
  · exact quiet_refl m
  · split
    · exact .of_same rfl rfl rfl rfl rfl rfl
    · split
      · exact .of_same rfl rfl rfl rfl rfl rfl
      · exact quiet_refl m

theorem quiet_ensureSchedulerThread : m.QuietStep m.ensureSchedulerThread := by
  unfold ensureSchedulerThread
  split
  · exact quiet_refl m
  · split
    · exact quiet_refl m
    · exact quiet_spawn rfl rfl rfl rfl rfl rfl

theorem quiet_detachAndEnsure : m.QuietStep m.detachAndEnsure := by
  unfold detachAndEnsure
  dsimp only
  split
  · exact quiet_detachStaleRunning.trans quiet_ensureSchedulerThread
  · exact quiet_detachStaleRunning

theorem afterRunStep_moves (jobId : JobId) :
    m.RefMoves (m.afterRunStep tid jobId) calls := by
  refine (quiet_detachAndEnsure (m := m)).moves ?_
  unfold afterRunStep getJob
  generalize m.detachAndEnsure = looked
  have hsame : looked.Changes calls (fun _ => False) looked := changes_refl looked
  dsimp only
  split
  · exact hsame.moves_setPhase rfl rfl
  · next ref job hentry =>
    obtain ⟨hlookup, hheap⟩ := entry_eq_some.mp hentry
    split
    · next hterminal =>
      refine ⟨rfl, hsame.moves.objects, fun _ hnone => hnone, fun _ hheld => hheld,
        ?_, ?_⟩
      · intro refId hpending
        rcases pending_of_setPhase hpending with hold | ⟨work, hwork, -⟩
        · exact .inl hold
        · cases hwork
      · intro other hfrees
        rcases frees_of_setPhase hfrees with hold | hnew
        · exact .inl hold
        · cases hnew
          exact .inr ⟨⟨jobId, hlookup⟩, job, hheap, hterminal⟩
    · exact hsame.moves_setPhase rfl rfl

theorem afterRunStep_keeps (hphase : m.threads[tid]? = some (.afterRun jobId)) :
    m.KeepsOwed (m.afterRunStep tid jobId) calls := by
  have hquiet : m.QuietStep m.detachAndEnsure := quiet_detachAndEnsure
  refine hquiet.keeps ?_
  have hplace := hquiet.thread hphase
  unfold afterRunStep getJob
  generalize m.detachAndEnsure = looked at hplace
  have hsame : looked.Changes calls (fun _ => False) looked := changes_refl looked
  dsimp only
  split
  · next hnone =>
    refine hsame.keeps_setPhase hplace (fun _ hnone => hnone.elim) ?_
    rintro ref job refId hjob - - (⟨work, hwork, -⟩ | hfrees | ⟨found, hfound, hlookup⟩)
    · cases hwork
    · cases hfrees
    · cases hfound
      rw [entry_eq_some.mpr ⟨hlookup, hjob⟩] at hnone
      cases hnone
  · next ref job hentry =>
    obtain ⟨hentryLookup, hentryHeap⟩ := entry_eq_some.mp hentry
    split
    · refine hsame.keeps_setPhase hplace (fun _ hnone => hnone.elim) ?_
      rintro other found refId - - - (⟨work, hwork, -⟩ | hfrees | ⟨id, hid, hlookup⟩)
      · cases hwork
      · cases hfrees
      · cases hid
        rw [hentryLookup] at hlookup
        cases hlookup
        exact .inl (.inr (.inl (.inl ⟨_, mem_set_self hplace _, rfl⟩)))
    · next hliving =>
      refine hsame.keeps_setPhase hplace (fun _ hnone => hnone.elim) ?_
      rintro other found refId hfound hterminal -
        (⟨work, hwork, -⟩ | hfrees | ⟨id, hid, hlookup⟩)
      · cases hwork
      · cases hfrees
      · cases hid
        rw [hentryLookup] at hlookup
        cases hlookup
        rw [hentryHeap] at hfound
        cases hfound
        exact absurd hterminal hliving

theorem releaseRefs_spec (hphase : m.threads[tid]? = some (.releaseRefs ref))
    (hcalls : m.controlplaneTarget ≠ "" → ∀ refId ∈ m.stagedIds ref, refId ∈ calls)
    :
    m.RefMoves ((m.releaseJobRefs ref now).setPhase tid .tail) calls ∧
      ((m.controlplaneTarget = "" → m.stagedIds ref = []) →
        m.KeepsOwed ((m.releaseJobRefs ref now).setPhase tid .tail) calls) := by
  have hchanges : m.Changes calls (fun _ => False) (m.releaseJobRefs ref now) :=
    changes_releaseJobRefs ref now hcalls
  refine ⟨hchanges.moves_setPhase rfl rfl, fun htarget => ?_⟩
  refine hchanges.keeps_setPhase hphase (fun _ hnone => hnone.elim) ?_
  rintro other job refId hjob - hlisted (⟨work, hwork, -⟩ | hfrees | ⟨id, hid, -⟩)
  · cases hwork
  · cases hfrees
    have hstaged : refId ∈ m.stagedIds ref := mem_stagedIds.mpr ⟨job, hjob, hlisted⟩
    refine .inr (hcalls (fun hnone => ?_) refId hstaged)
    rw [htarget hnone] at hstaged
    cases hstaged
  · cases hid

/-! ### The section of the loop -/

theorem dropJobs_same (gone : List (JobId × JobRef)) :
    (m.dropJobs gone).refWork = m.refWork ∧
      (m.dropJobs gone).closing = m.closing ∧
      (m.dropJobs gone).threads = m.threads ∧
      (m.dropJobs gone).enqueueSeq = m.enqueueSeq := by
  induction gone generalizing m with
  | nil => exact ⟨rfl, rfl, rfl, rfl⟩
  | cons item rest ih => exact ih (m := m.popJob item.1)

theorem mem_expiredJobs (hmem : (jobId, ref) ∈ m.expiredJobs now) :
    m.jobs.lookup jobId = some ref ∧ ∃ job, m.heap ref = some job ∧
      job.status.terminal = true := by
  obtain ⟨hitem, hexpired⟩ := List.mem_filter.mp hmem
  refine ⟨OrderedDict.mem_items.mp hitem, ?_⟩
  cases hjob : m.heap ref with
  | none =>
    simp only [hjob] at hexpired
    cases hexpired
  | some job =>
    simp only [hjob, expired, Bool.and_eq_true] at hexpired
    exact ⟨job, rfl, hexpired.1⟩

theorem mem_cleanup_releases (hmem : work ∈ (m.cleanupJobs now).2)
    (hlisted : refId ∈ work.releasedIds) :
    ∃ ref job, m.Holds ref ∧ m.heap ref = some job ∧
      job.status.terminal = true ∧ refId ∈ job.stagedRefIds := by
  obtain ⟨⟨jobId, ref⟩, hgone, hwork⟩ := List.mem_filterMap.mp hmem
  obtain ⟨hlookup, job, hjob, hterminal⟩ := mem_expiredJobs hgone
  simp only [hjob] at hwork
  split at hwork
  · cases hwork
  · cases hwork
    exact ⟨ref, job, ⟨jobId, hlookup⟩, hjob, hterminal, hlisted⟩

theorem cleanup_lookup (hlookup : m.jobs.lookup jobId = some ref)
    (hjob : m.heap ref = some job) (hlisted : refId ∈ job.stagedRefIds) :
    (m.cleanupJobs now).1.jobs.lookup jobId = some ref ∨
      ∃ work ∈ (m.cleanupJobs now).2, refId ∈ work.releasedIds := by
  obtain ⟨-, -, hkeep⟩ := dropJobs_lookup (m := m) (m.expiredJobs now)
  by_cases hgone : ∀ item ∈ m.expiredJobs now, item.1 ≠ jobId
  · exact .inl ((hkeep jobId hgone).trans hlookup)
  · right
    push Not at hgone
    obtain ⟨⟨found, foundRef⟩, hmem, rfl⟩ := hgone
    have hsame := (mem_expiredJobs hmem).1
    rw [hlookup] at hsame
    cases hsame
    refine ⟨.release job.jobId job.stagedRefIds, ?_, hlisted⟩
    refine List.mem_filterMap.mpr ⟨(found, ref), hmem, ?_⟩
    have hsome : job.stagedRefIds.isEmpty = false := by
      rw [← Bool.not_eq_true, List.isEmpty_iff]
      rintro hnone
      rw [hnone] at hlisted
      cases hlisted
    simp [hjob, hsome]

theorem mem_refsToTouch {jobs : List (JobRef × JobState V)}
    {touches : List RefWork} (htouch : m.refsToTouch now jobs = some touches)
    (hmem : work ∈ touches) : work.releasedIds = [] := by
  induction jobs generalizing touches with
  | nil =>
    cases htouch
    cases hmem
  | cons item rest ih =>
    obtain ⟨ref, job⟩ := item
    rw [refsToTouch] at htouch
    split at htouch
    · cases htouch
    · next due hdue =>
      obtain ⟨others, hothers, rfl⟩ := Option.map_eq_some_iff.mp htouch
      split at hmem
      · rcases List.mem_cons.mp hmem with rfl | hrest
        · rfl
        · exact ih hothers hrest
      · exact ih hothers hmem

theorem waitForRunning_quiet (hready : m.waitForRunning = some mid) :
    m.QuietStep mid := by
  unfold waitForRunning at hready
  split at hready
  · cases hready
    exact quiet_refl m
  · split at hready
    · cases hready
      exact .of_same rfl rfl rfl rfl rfl rfl
    · split at hready
      · cases hready
        exact .of_same rfl rfl rfl rfl rfl rfl
      · cases hready

/-- The state in which the section of the loop hands over: jobs have been
dropped and one may have been picked. -/
structure HandsOver (now : Nat) (m next : JobQueueManager V) : Prop where
  jobs : next.jobs = (m.cleanupJobs now).1.jobs
  refWork : next.refWork = m.refWork
  closing : next.closing = m.closing
  threads : next.threads = m.threads
  enqueueSeq : next.enqueueSeq = m.enqueueSeq
  objects : ∀ ref changed, next.heap ref = some changed →
    ∃ job, m.heap ref = some job ∧ job.Sheds [] changed ∧
      (changed.status.terminal = true → job.status.terminal = true)
  present : ∀ ref, next.heap ref = none → m.heap ref = none

theorem handsOver_cleanup (now : Nat) (order : List JobId) :
    m.HandsOver now ((m.cleanupJobs now).1.setWaitingOrder order) := by
  obtain ⟨hwork, hclosing, hthreads, hseq⟩ := dropJobs_same (m := m) (m.expiredJobs now)
  obtain ⟨hheap, -, -⟩ := dropJobs_lookup (m := m) (m.expiredJobs now)
  refine ⟨rfl, hwork, hclosing, hthreads, hseq, ?_, ?_⟩
  · intro ref job hjob
    exact ⟨job, (congrFun hheap ref).symm.trans hjob, .of_same rfl rfl id, id⟩
  · intro ref hnone
    exact (congrFun hheap ref).symm.trans hnone

theorem HandsOver.markPicked (hhands : m.HandsOver now next) (jobId : JobId)
    (hliving : ∀ job, next.heap ref = some job → job.status.terminal = false) :
    m.HandsOver now (next.markPicked ref jobId now) := by
  have hmarked : next.Changes [] (fun _ => False) (next.modifyRef ref fun job =>
      { job with
        status := .running
        startedAt := some now
        checkpoint := some .preparing }) := by
    refine changes_modifyRef (fun job hjob => .of_same rfl rfl fun hterminal => ?_)
      fun job _ hterminal => by cases hterminal
    rw [hliving job hjob] at hterminal
    cases hterminal
  refine ⟨hhands.jobs, hhands.refWork, hhands.closing, hhands.threads,
    hhands.enqueueSeq, ?_, ?_⟩
  · intro other changed hchanged
    obtain ⟨mid, hmid, hmidSheds, hmidTerminal⟩ := hmarked.objects other changed hchanged
    obtain ⟨job, hjob, hsheds, hterminal⟩ := hhands.objects other mid hmid
    exact ⟨job, hjob, hsheds.trans hmidSheds,
      fun h => hterminal ((hmidTerminal h).resolve_right id)⟩
  · intro other hnone
    exact hhands.present other (hmarked.present other hnone)

theorem HandsOver.moves_dispatch (hhands : m.HandsOver now next)
    {touches : List RefWork}
    (htouches : ∀ work ∈ touches, work.releasedIds = [])
    (chosen : Option (JobId × JobRef)) :
    m.RefMoves (next.setPhase tid
      (.dispatch ((m.cleanupJobs now).2 ++ touches) chosen)) calls := by
  have hholds : ∀ ref, next.Holds ref → m.Holds ref := by
    rintro ref ⟨jobId, hlookup⟩
    rw [hhands.jobs] at hlookup
    obtain ⟨-, hback, -⟩ := dropJobs_lookup (m := m) (m.expiredJobs now)
    exact ⟨jobId, hback jobId ref hlookup⟩
  refine ⟨hhands.enqueueSeq, ?_, hhands.present, hholds, ?_, ?_⟩
  · intro ref changed hchanged
    obtain ⟨job, hjob, hsheds, -⟩ := hhands.objects ref changed hchanged
    exact ⟨job, hjob, hsheds.payload, hsheds.terminal, hsheds.listed,
      fun refId hlisted =>
        .inl ((hsheds.shed refId hlisted).resolve_right List.not_mem_nil)⟩
  · intro refId hpending
    rcases pending_of_setPhase hpending with hold | ⟨work, hwork, hlisted⟩
    · left
      unfold ReleasePending at *
      rw [hhands.refWork, hhands.threads] at hold
      exact hold
    · right
      rcases List.mem_append.mp hwork with hrelease | htouch
      · obtain ⟨ref, job, hheld, hjob, hterminal, hstaged⟩ :=
          mem_cleanup_releases hrelease hlisted
        cases hchanged : next.heap ref with
        | none =>
          rw [hhands.present ref hchanged] at hjob
          cases hjob
        | some changed =>
          obtain ⟨found, hfound, hsheds, -⟩ := hhands.objects ref changed hchanged
          rw [hjob] at hfound
          cases hfound
          exact ⟨ref, changed, hheld, hchanged, hsheds.terminal hterminal,
            (hsheds.shed refId hstaged).resolve_right List.not_mem_nil⟩
      · rw [htouches work htouch] at hlisted
        cases hlisted
  · intro ref hfrees
    rcases frees_of_setPhase hfrees with hold | hnew
    · left
      unfold Frees at *
      rw [hhands.threads, hhands.closing] at hold
      exact hold
    · cases hnew

theorem HandsOver.keeps_dispatch (hhands : m.HandsOver now next)
    (hphase : m.threads[tid]? = some .loop) (touches : List RefWork)
    (chosen : Option (JobId × JobRef)) :
    m.KeepsOwed (next.setPhase tid
      (.dispatch ((m.cleanupJobs now).2 ++ touches) chosen)) calls := by
  have hplace : next.threads[tid]? = some .loop := by
    rw [hhands.threads]
    exact hphase
  have hthread : ∀ {found : SchedulerPhase V}, found ∈ m.threads → found ≠ .loop →
      found ∈ next.threads.set tid
        (.dispatch ((m.cleanupJobs now).2 ++ touches) chosen) := by
    intro found hmem hother
    rw [← hhands.threads] at hmem
    exact (eq_or_mem_set hplace hmem _).resolve_left hother
  refine ⟨?_, ?_⟩
  · intro ref job changed hjob hliving hchanged hterminal
    obtain ⟨found, hfound, -, hback⟩ := hhands.objects ref changed hchanged
    rw [hjob] at hfound
    cases hfound
    rw [hback hterminal] at hliving
    cases hliving
  · intro ref job hjob hterminal refId hlisted howed
    left
    have hreleased : ∀ {jobId : JobId}, m.jobs.lookup jobId = some ref →
        next.jobs.lookup jobId = some ref ∨
          (next.setPhase tid (.dispatch ((m.cleanupJobs now).2 ++ touches)
            chosen)).ReleasePending refId := by
      intro jobId hlookup
      rw [hhands.jobs]
      rcases cleanup_lookup hlookup hjob hlisted with hstill | ⟨work, hwork, hids⟩
      · exact .inl hstill
      · exact .inr (.inr ⟨_, mem_set_self hplace _, work,
          List.mem_append_left _ hwork, hids⟩)
    rcases howed with (hwork | ⟨found, hmem, work, hwork, hids⟩) |
      (⟨found, hmem, hfrees⟩ | hclosing) |
      (⟨found, hmem, jobId, hattends, hlookup⟩ | ⟨hgathers, jobId, hlookup⟩)
    · exact .inl (.inl (hhands.refWork.symm ▸ hwork))
    · refine .inl (.inr ⟨found, hthread hmem ?_, work, hwork, hids⟩)
      rintro rfl
      cases hwork
    · refine .inr (.inl (.inl ⟨found, hthread hmem ?_, hfrees⟩))
      rintro rfl
      cases hfrees
    · exact .inr (.inl (.inr (hhands.closing.symm ▸ hclosing)))
    · rcases hreleased hlookup with hstill | hpending
      · refine .inr (.inr (.inl ⟨found, hthread hmem ?_, jobId, hattends, hstill⟩))
        rintro rfl
        cases hattends
      · exact .inl hpending
    · rcases hreleased hlookup with hstill | hpending
      · exact .inr (.inr (.inr ⟨hhands.closing.symm ▸ hgathers, jobId, hstill⟩))
      · exact .inl hpending

/-- The section of the loop leaves the references alone, or drops and picks
jobs and hands over.  It ends its thread only when the queue stops or a time to
live cannot be read. -/
theorem loopSection_cases (tid : Nat) (now : Nat) :
    (∃ ready, m.QuietStep ready ∧ m.loopSection tid now = ready) ∨
      (∃ ready, m.QuietStep ready ∧ m.loopSection tid now =
        ready.setPhase tid .exited) ∨
      (∃ ready, m.QuietStep ready ∧
        (ready.cleanupJobs now).1.refsToTouch now
          (ready.cleanupJobs now).1.jobStates = none ∧
        m.loopSection tid now = (ready.cleanupJobs now).1.setPhase tid .exited) ∨
      ∃ ready next touches chosen, m.QuietStep ready ∧ ready.HandsOver now next ∧
        (∀ work ∈ touches, RefWork.releasedIds work = []) ∧
        m.loopSection tid now = next.setPhase tid
          (.dispatch ((ready.cleanupJobs now).2 ++ touches) chosen) := by
  unfold loopSection
  split
  · exact .inr (.inl ⟨m, quiet_refl m, rfl⟩)
  split
  · exact .inl ⟨m, quiet_refl m, rfl⟩
  next ready hready =>
  have hquiet := waitForRunning_quiet hready
  dsimp only
  split
  · next hnone =>
    exact .inr (.inr (.inl ⟨ready, hquiet, hnone, rfl⟩))
  next touches htouches =>
  refine .inr (.inr (.inr ?_))
  obtain ⟨⟨order, horder⟩, hpick⟩ :=
    pickNextJob_spec (m := (ready.cleanupJobs now).1)
  split
  · next pruned hpruned =>
    rw [hpruned] at horder
    dsimp only at horder
    subst horder
    exact ⟨ready, _, touches, none, hquiet, handsOver_cleanup now order,
      fun work hmem => mem_refsToTouch htouches hmem, rfl⟩
  · next pruned ref job hpruned =>
    rw [hpruned] at horder hpick
    dsimp only at horder
    subst horder
    obtain ⟨hpickable, jobId, hentry⟩ := hpick ref job rfl
    obtain ⟨-, hheap⟩ := entry_eq_some.mp hentry
    refine ⟨ready, _, touches, some (job.jobId, ref), hquiet,
      (handsOver_cleanup now order).markPicked job.jobId ?_,
      fun work hmem => mem_refsToTouch htouches hmem, rfl⟩
    intro found hfound
    have hsame : (ready.cleanupJobs now).1.heap ref = some found := hfound
    rw [hheap] at hsame
    cases hsame
    simp only [JobState.pickable, Bool.and_eq_true, beq_iff_eq] at hpickable
    rw [hpickable.1]
    rfl

theorem loopSection_moves (now : Nat) :
    m.RefMoves (m.loopSection tid now) calls := by
  rcases loopSection_cases (m := m) tid now with ⟨ready, hquiet, heq⟩ |
    ⟨ready, hquiet, heq⟩ | ⟨ready, hquiet, -, heq⟩ |
    ⟨ready, next, touches, chosen, hquiet, hhands, htouches, heq⟩
  · rw [heq]
    exact hquiet.moves (moves_refl ready calls)
  · rw [heq]
    exact hquiet.moves ((changes_none ready).moves_setPhase rfl rfl)
  · rw [heq]
    refine hquiet.moves ?_
    have hhands := handsOver_cleanup (m := ready) now
      (ready.cleanupJobs now).1.waitingOrder
    have hmoves : ready.RefMoves (((ready.cleanupJobs now).1.setWaitingOrder
        (ready.cleanupJobs now).1.waitingOrder).setPhase tid (.dispatch
          ((ready.cleanupJobs now).2 ++ []) none)) calls :=
      hhands.moves_dispatch (fun _ hmem => by cases hmem) none
    refine ⟨hmoves.enqueueSeq, hmoves.objects, hmoves.present, hmoves.holds, ?_, ?_⟩
    · intro refId hpending
      rcases pending_of_setPhase hpending with hold | ⟨work, hwork, -⟩
      · left
        unfold ReleasePending at *
        rw [hhands.refWork.symm, hhands.threads.symm]
        exact hold
      · cases hwork
    · intro ref hfrees
      rcases frees_of_setPhase hfrees with hold | hnew
      · left
        unfold Frees at *
        rw [hhands.threads.symm, hhands.closing.symm]
        exact hold
      · cases hnew
  · rw [heq]
    exact hquiet.moves (hhands.moves_dispatch htouches chosen)

theorem loopSection_keeps (hphase : m.threads[tid]? = some .loop)
    (hreadable : ∀ ref job, m.heap ref = some job → job.stagedRefIds ≠ [] →
      job.payload.stagingTtlSec.isSome = true) :
    m.KeepsOwed (m.loopSection tid now) calls := by
  rcases loopSection_cases (m := m) tid now with ⟨ready, hquiet, heq⟩ |
    ⟨ready, hquiet, heq⟩ | ⟨ready, hquiet, hnone, heq⟩ |
    ⟨ready, next, touches, chosen, hquiet, hhands, -, heq⟩
  · rw [heq]
    exact hquiet.keeps (keeps_refl ready calls)
  · rw [heq]
    exact hquiet.keeps (idle_setPhase (changes_refl ready) (hquiet.thread hphase) rfl
      rfl rfl rfl rfl).2
  · exfalso
    obtain ⟨hheap, -, -⟩ := dropJobs_lookup (m := ready) (ready.expiredJobs now)
    have hread : ∀ item ∈ (ready.cleanupJobs now).1.jobStates,
        item.2.pickable = true → item.2.stagedRefIds.isEmpty = false →
          item.2.payload.stagingTtlSec.isSome = true := by
      rintro ⟨ref, job⟩ hitem - hlisted
      obtain ⟨jobId, hentry⟩ := mem_jobStates.mp hitem
      obtain ⟨-, hjob⟩ := entry_eq_some.mp hentry
      refine hreadable ref job ?_ fun hnil => ?_
      · rw [← hquiet.heap]
        exact (congrFun hheap ref).symm.trans hjob
      · rw [hnil] at hlisted
        cases hlisted
    have hsome := refsToTouch_isSome (m := (ready.cleanupJobs now).1) now _ hread
    rw [hnone] at hsome
    cases hsome
  · rw [heq]
    exact hquiet.keeps (hhands.keeps_dispatch (hquiet.thread hphase) touches chosen)

/-! ### All scheduler moves -/

theorem schedulerStep_moves {move : SchedulerMove V}
    (hstep : m.schedulerStep tid move = some next) :
    m.RefMoves next (m.releaseCalls (.scheduler tid move)) := by
  unfold schedulerStep at hstep
  split at hstep
  · cases hstep
  next phase hphase =>
  split at hstep
  · cases hstep
    exact loopSection_moves _
  · cases hstep
    exact dispatchStep_moves hphase
  · cases hstep
    exact (enterRun_spec hphase).1
  · exact (runsOn_runStep hstep).moves
  · cases hstep
    exact afterRunStep_moves _
  · next ref now preview =>
    cases hstep
    refine (releaseRefs_spec hphase fun htarget refId hlisted => ?_).1
    simp only [releaseCalls, beq_iff_eq, htarget, if_false, dueRefs, hphase]
    exact hlisted
  · cases hstep
    have hcleared : m.Changes [] (fun _ => False) m.clearRunning :=
      .of_same ⟨rfl, rfl, rfl, rfl, rfl⟩ rfl
    exact (idle_setPhase hcleared hphase rfl rfl rfl rfl rfl).1
  · cases hstep
    exact (idle_setPhase (changes_refl m) hphase rfl rfl rfl rfl rfl).1
  · cases hstep

theorem schedulerStep_keeps {move : SchedulerMove V}
    (hstep : m.schedulerStep tid move = some next)
    (hhands : m.handsOn (.scheduler tid move))
    (hreadable : ∀ ref job, m.heap ref = some job → job.stagedRefIds ≠ [] →
      job.payload.stagingTtlSec.isSome = true) :
    m.KeepsOwed next (m.releaseCalls (.scheduler tid move)) := by
  obtain ⟨htarget, hthread⟩ := hhands
  unfold schedulerStep at hstep
  split at hstep
  · cases hstep
  next phase hphase =>
  simp only [hphase] at hthread
  split at hstep
  · cases hstep
    exact loopSection_keeps hphase hreadable
  · cases hstep
    exact dispatchStep_keeps hphase hthread
  · cases hstep
    exact (enterRun_spec hphase).2
  · exact (runsOn_runStep hstep).keeps hphase hthread
  · cases hstep
    exact afterRunStep_keeps hphase
  · next ref now preview =>
    cases hstep
    refine (releaseRefs_spec hphase fun hopen refId hlisted => ?_).2 fun hnone => ?_
    · simp only [releaseCalls, beq_iff_eq, hopen, if_false, dueRefs, hphase]
      exact hlisted
    · have hdue := htarget hnone
      simp only [dueRefs, hphase] at hdue
      exact hdue
  · cases hstep
    have hcleared : m.Changes [] (fun _ => False) m.clearRunning :=
      .of_same ⟨rfl, rfl, rfl, rfl, rfl⟩ rfl
    exact (idle_setPhase hcleared hphase rfl rfl rfl rfl rfl).2
  · cases hstep
    exact (idle_setPhase (changes_refl m) hphase rfl rfl rfl rfl rfl).2
  · cases hstep

/-! ## The operations -/

theorem quiet_reorderJob (jobId : JobId) (direction : MoveDirection) :
    m.QuietStep (m.reorderJob jobId direction) := by
  unfold reorderJob
  split
  · exact quiet_refl m
  · split
    · exact quiet_refl m
    · dsimp only
      split <;> split <;> exact .of_same rfl rfl rfl rfl rfl rfl

theorem quiet_start (target : String) : m.QuietStep (m.start target) := by
  unfold start
  split
  · exact .of_same rfl rfl rfl rfl rfl rfl
  · exact quiet_spawn rfl rfl rfl rfl rfl rfl

theorem refWorkStep_spec (hstep : m.refWorkStep index now = some next) :
    m.RefMoves next (m.releaseCalls (.refWork index now)) ∧
      (m.handsOn (.refWork index now) →
        m.KeepsOwed next (m.releaseCalls (.refWork index now))) := by
  unfold refWorkStep at hstep
  split at hstep
  · cases hstep
  next work hwork =>
  cases hstep
  have hdue : m.dueRefs (.refWork index now) = work.releasedIds := by
    simp [dueRefs, hwork]
  have hchanges : (m.dropRefWork index).Changes (m.releaseCalls (.refWork index now))
      (fun _ => False) ((m.dropRefWork index).applyRefWork work now) := by
    refine changes_applyRefWork work now fun htarget refId hlisted => ?_
    have hopen : m.controlplaneTarget ≠ "" := htarget
    simp only [releaseCalls, beq_iff_eq, hopen, if_false, hdue]
    exact hlisted
  refine ⟨⟨hchanges.enqueueSeq, hchanges.moves.objects, hchanges.present,
    hchanges.moves.holds, ?_, hchanges.moves.frees⟩, fun hhands => ⟨?_, ?_⟩⟩
  · intro refId hpending
    left
    rcases hchanges.pending.mp hpending with ⟨item, hitem, hlisted⟩ | hthread
    · exact .inl ⟨item, List.mem_of_mem_eraseIdx hitem, hlisted⟩
    · exact .inr hthread
  · exact (hchanges.keeps fun _ hnone => hnone.elim).settled
  · intro ref job hjob hterminal refId hlisted howed
    have hdropped : (m.dropRefWork index).Owed ref refId ∨
        refId ∈ work.releasedIds := by
      rcases howed with (⟨item, hitem, hreleases⟩ | hthread) | hrest
      · rcases eq_or_mem_eraseIdx hwork hitem with rfl | hstill
        · exact .inr hreleases
        · exact .inl (.inl (.inl ⟨item, hstill, hreleases⟩))
      · exact .inl (.inl (.inr hthread))
      · exact .inl (.inr hrest)
    rcases hdropped with hstill | hreleases
    · exact .inl (hchanges.owed.mpr hstill)
    · right
      rw [← hdue] at hreleases
      unfold releaseCalls
      split
      · next hnone =>
        rw [hhands.1 (by simpa using hnone)] at hreleases
        cases hreleases
      · exact hreleases

/-! ### `cancel_job` and `close` -/

theorem cancelWaiting_spec (hentry : m.entry jobId = some (ref, job)) :
    m.RefMoves (((m.modifyRef ref fun job =>
        { job with
          status := .cancelled
          finishedAt := some now
          cancelRequested := true }).removeWaitingJob job.jobId).pushRefWork
            (.release job.jobId job.stagedRefIds)) calls ∧
      m.KeepsOwed (((m.modifyRef ref fun job =>
        { job with
          status := .cancelled
          finishedAt := some now
          cancelRequested := true }).removeWaitingJob job.jobId).pushRefWork
            (.release job.jobId job.stagedRefIds)) calls := by
  obtain ⟨hlookup, hheap⟩ := entry_eq_some.mp hentry
  have hcancelled : m.Changes calls (· = ref) (m.modifyRef ref fun job =>
      { job with
        status := .cancelled
        finishedAt := some now
        cancelRequested := true }) :=
    changes_modifyRef (fun _ _ => .of_same rfl rfl fun _ => rfl)
      fun _ _ _ => .inr rfl
  generalize hmid : (m.modifyRef ref fun job =>
      { job with
        status := .cancelled
        finishedAt := some now
        cancelRequested := true }) = mid at hcancelled
  have hnow : mid.heap ref = some { job with
      status := .cancelled
      finishedAt := some now
      cancelRequested := true } := by
    rw [← hmid]
    simp [modifyRef, hheap]
  have hremoved : m.Changes calls (· = ref) (mid.removeWaitingJob job.jobId) :=
    ⟨⟨hcancelled.jobs, hcancelled.refWork, hcancelled.closing, hcancelled.threads,
      hcancelled.enqueueSeq⟩, hcancelled.objects, hcancelled.present⟩
  refine ⟨⟨hremoved.enqueueSeq, hremoved.moves.objects, hremoved.present,
    hremoved.moves.holds, ?_, hremoved.moves.frees⟩, ⟨?_, ?_⟩⟩
  · intro refId hpending
    rcases pending_pushRefWork.mp hpending with hold | hlisted
    · exact .inl (hremoved.pending.mp hold)
    · exact .inr ⟨ref, _, ⟨jobId, hlookup⟩, hnow, rfl, hlisted⟩
  · intro other otherJob changed hother hliving hchanged hterminal refId hlisted
    have hchangedMid : mid.heap other = some changed := hchanged
    obtain ⟨found, hfound, -, hsettles⟩ := hcancelled.objects other changed hchangedMid
    rw [hother] at hfound
    cases hfound
    have hsame : other = ref := by
      refine (hsettles hterminal).resolve_left ?_
      rw [hliving]
      exact Bool.false_ne_true
    subst hsame
    rw [hnow] at hchangedMid
    cases hchangedMid
    exact .inl (pending_pushRefWork.mpr (.inr hlisted))
  · intro other otherJob hother hterminal refId hlisted howed
    exact .inl (owed_pushRefWork (hremoved.owed.mpr howed))

theorem cancelJob_spec {digest : String}
    (hcancel : m.cancelJob jobId digest now = .ok next) :
    m.RefMoves next calls ∧ m.KeepsOwed next calls := by
  unfold cancelJob at hcancel
  split at hcancel
  · cases hcancel
    exact ⟨moves_refl m calls, keeps_refl m calls⟩
  next ref job hentry =>
  split at hcancel
  · cases hcancel
  split at hcancel
  · cases hcancel
    exact cancelWaiting_spec hentry
  · cases hcancel
    have hasked : m.Changes calls (fun _ => False) (m.modifyRef ref fun job =>
        { job with cancelRequested := true }) :=
      changes_modifyRef (fun _ _ => .of_same rfl rfl id) fun _ _ => .inl
    exact ⟨hasked.moves, hasked.keeps fun _ hnone => hnone.elim⟩
  · cases hcancel
    exact ⟨moves_refl m calls, keeps_refl m calls⟩
  · cases hcancel
    exact ⟨moves_refl m calls, keeps_refl m calls⟩
  · cases hcancel
    exact ⟨moves_refl m calls, keeps_refl m calls⟩

theorem changes_stopAndCancel (now : Nat) :
    m.Changes calls m.Holds (m.stopAndCancel now) := by
  refine ⟨⟨rfl, rfl, rfl, rfl, rfl⟩, ?_, ?_⟩
  · intro ref changed hchanged
    simp only [stopAndCancel] at hchanged
    split at hchanged
    · next hheld =>
      obtain ⟨job, hjob, rfl⟩ := Option.map_eq_some_iff.mp hchanged
      refine ⟨job, hjob, ?_, fun _ => .inr (OrderedDict.mem_values.mp hheld)⟩
      unfold closeJob
      split
      · exact .of_same rfl rfl fun _ => rfl
      · exact .of_same rfl rfl id
    · exact ⟨changed, hchanged, .of_same rfl rfl id, .inl⟩
  · intro ref hnone
    simp only [stopAndCancel] at hnone
    split at hnone
    · exact Option.map_eq_none_iff.mp hnone
    · exact hnone

theorem owed_pushClosing {phase : ClosePhase} (howed : m.Owed ref refId) :
    (m.pushClosing phase).Owed ref refId := by
  rcases howed with hpending | (hthread | ⟨found, hmem, hfrees⟩) |
    (hattends | ⟨⟨found, hmem, hgathers⟩, hheld⟩)
  · exact .inl hpending
  · exact .inr (.inl (.inl hthread))
  · exact .inr (.inl (.inr ⟨found, List.mem_append_left _ hmem, hfrees⟩))
  · exact .inr (.inr (.inl hattends))
  · exact .inr (.inr (.inr ⟨⟨found, List.mem_append_left _ hmem, hgathers⟩, hheld⟩))

theorem closeBegin_spec (now : Nat) :
    m.RefMoves (m.closeBegin now) calls ∧ m.KeepsOwed (m.closeBegin now) calls := by
  have hstopped : m.Changes calls m.Holds (m.stopAndCancel now) :=
    changes_stopAndCancel now
  have hasked : (m.stopAndCancel now).Changes calls (fun _ => False)
      (m.stopAndCancel now).cancelRunning := by
    unfold cancelRunning
    split
    · exact changes_refl _
    · exact changes_modifyEntry (fun _ => .of_same rfl rfl id) fun _ => rfl
  unfold closeBegin
  generalize (m.stopAndCancel now).cancelRunning = asked at hasked
  generalize m.stopAndCancel now = stopped at hstopped hasked
  have hboth : m.Changes calls m.Holds asked := by
    refine ⟨⟨hasked.jobs.trans hstopped.jobs, hasked.refWork.trans hstopped.refWork,
      hasked.closing.trans hstopped.closing, hasked.threads.trans hstopped.threads,
      hasked.enqueueSeq.trans hstopped.enqueueSeq⟩, ?_, ?_⟩
    · intro ref changed hchanged
      obtain ⟨mid, hmid, hmidSheds, hmidTerminal⟩ := hasked.objects ref changed hchanged
      obtain ⟨job, hjob, hsheds, hterminal⟩ := hstopped.objects ref mid hmid
      refine ⟨job, hjob, ?_, fun h => hterminal ((hmidTerminal h).resolve_right id)⟩
      exact hsheds.trans hmidSheds
    · intro ref hnone
      exact hstopped.present ref (hasked.present ref hnone)
  refine ⟨⟨hboth.enqueueSeq, hboth.moves.objects, hboth.present, hboth.moves.holds,
    fun refId hpending => .inl (hboth.pending.mp hpending), ?_⟩, ⟨?_, ?_⟩⟩
  · rintro ref (hthread | ⟨found, hmem, hfrees⟩)
    · exact .inl (hboth.frees.mp (.inl hthread))
    · rcases List.mem_append.mp hmem with hold | hnew
      · exact .inl (hboth.frees.mp (.inr ⟨found, hold, hfrees⟩))
      · rw [List.mem_singleton.mp hnew] at hfrees
        cases hfrees
  · intro ref job changed hjob hliving hchanged hterminal refId hlisted
    obtain ⟨found, hfound, -, hsettles⟩ := hboth.objects ref changed hchanged
    rw [hjob] at hfound
    cases hfound
    have hheld : m.Holds ref := by
      refine (hsettles hterminal).resolve_left ?_
      rw [hliving]
      exact Bool.false_ne_true
    exact .inr (.inr (.inr ⟨⟨.joining, List.mem_append_right _
      (List.mem_singleton_self _), rfl⟩, hboth.holds.mpr hheld⟩))
  · intro ref job hjob hterminal refId hlisted howed
    exact .inl (owed_pushClosing (hboth.owed.mpr howed))

/-! ### The steps of a call of `close` -/

theorem frees_of_setClosing {phase : ClosePhase}
    (hfrees : (m.setClosing index phase).Frees ref) :
    m.Frees ref ∨ ref ∈ phase.frees := by
  rcases hfrees with hthread | ⟨found, hmem, hfound⟩
  · exact .inl (.inl hthread)
  · rcases List.mem_or_eq_of_mem_set hmem with hold | rfl
    · exact .inl (.inr ⟨found, hold, hfound⟩)
    · exact .inr hfound

theorem owed_setClosing {old : ClosePhase} (hold : m.closing[index]? = some old)
    (phase : ClosePhase) (howed : m.Owed ref refId) :
    (m.setClosing index phase).Owed ref refId ∨ ref ∈ old.frees ∨
      (old.gathers = true ∧ m.Holds ref) := by
  rcases howed with hpending | (hthread | ⟨found, hmem, hfrees⟩) |
    (hattends | ⟨⟨found, hmem, hgathers⟩, hheld⟩)
  · exact .inl (.inl hpending)
  · exact .inl (.inr (.inl (.inl hthread)))
  · rcases eq_or_mem_set hold hmem phase with rfl | hstill
    · exact .inr (.inl hfrees)
    · exact .inl (.inr (.inl (.inr ⟨found, hstill, hfrees⟩)))
  · exact .inl (.inr (.inr (.inl hattends)))
  · rcases eq_or_mem_set hold hmem phase with rfl | hstill
    · exact .inr (.inr ⟨hgathers, hheld⟩)
    · exact .inl (.inr (.inr (.inr ⟨⟨found, hstill, hgathers⟩, hheld⟩)))

theorem Changes.moves_setClosing (hchanges : m.Changes calls settles mid)
    {phase : ClosePhase}
    (hfrees : ∀ ref ∈ phase.frees, m.Frees ref ∨ m.Holds ref ∧
      ∃ job, mid.heap ref = some job ∧ job.status.terminal = true) :
    m.RefMoves (mid.setClosing index phase) calls where
  enqueueSeq := hchanges.enqueueSeq
  objects := hchanges.moves.objects
  present := hchanges.present
  holds _ := hchanges.holds.mp
  pending _ hpending := .inl (hchanges.pending.mp hpending)
  frees ref hfreed := by
    rcases frees_of_setClosing hfreed with hold | hnew
    · exact .inl (hchanges.frees.mp hold)
    · exact hfrees ref hnew

theorem Changes.keeps_setClosing
    (hchanges : m.Changes calls (fun _ => False) mid) {old phase : ClosePhase}
    (hold : m.closing[index]? = some old)
    (hgives : ∀ ref job refId, m.heap ref = some job → refId ∈ job.stagedRefIds →
      ref ∈ old.frees ∨ (old.gathers = true ∧ m.Holds ref) →
        (mid.setClosing index phase).Owed ref refId ∨ refId ∈ calls) :
    m.KeepsOwed (mid.setClosing index phase) calls where
  settled ref job changed hjob hliving hchanged hterminal := by
    rw [hchanges.living hjob hliving hchanged] at hterminal
    cases hterminal
  owed ref job hjob hterminal refId hlisted howed := by
    have hplace : mid.closing[index]? = some old := by
      rw [hchanges.closing]
      exact hold
    rcases owed_setClosing hplace phase (hchanges.owed.mpr howed) with
      hstill | hfreed | ⟨hgathers, hheld⟩
    · exact .inl hstill
    · exact hgives ref job refId hjob hlisted (.inl hfreed)
    · exact hgives ref job refId hjob hlisted
        (.inr ⟨hgathers, hchanges.holds.mp hheld⟩)

end JobQueueManager

end PycloudParallel.JobQueue
