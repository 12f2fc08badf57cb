import PycloudParallel.JobQueueRunRefinement

/-!
# The scheduler does not wedge

In runs whose steps contain their exceptions, `_run_job` ends with its job in a
terminal state, no exception reaches `_loop`, and the running slot never names
a job that nobody executes and that is not terminal.  An exception in front of
the `try` block of `_run_job_with_hooks` breaks all three.
-/

namespace PycloudParallel.JobQueue

variable {V : Type}

namespace JobLedger

def RefTerminal (ledger : JobLedger V) (jobId : JobId) (ref : JobRef) : Prop :=
  ledger.table jobId = some ref → ∃ job, ledger.objects ref = some job ∧
    job.status.terminal = true

def EntryTerminal (ledger : JobLedger V) (jobId : JobId) : Prop :=
  ∀ ref, ledger.RefTerminal jobId ref

def InProgress (ledger : JobLedger V) (jobId : JobId) : Prop :=
  ∃ tid owner, ledger.owners tid = some owner ∧ owner.jobId = jobId ∧
    ∀ pending, owner.stage ≠ .settled pending

/-- Exceptions stay inside the runs, and a submission comes after the stale
slot was emptied. -/
def containedPolicy : LedgerPolicy V where
  store := fun ledger _ => ∀ jobId, ledger.slot = some jobId →
    ¬ledger.EntryTerminal jobId
  tail := fun _ => True
  raise := False

structure Unwedged (ledger : JobLedger V) : Prop where
  slot_listed : ∀ jobId, ledger.slot = some jobId → ledger.table jobId ≠ none
  slot_live : ∀ jobId, ledger.slot = some jobId →
    ledger.InProgress jobId ∨ ledger.EntryTerminal jobId
  settled : ∀ tid owner pending, ledger.owners tid = some owner →
    owner.stage = .settled pending → ledger.RefTerminal owner.jobId owner.ref
  returned : ∀ jobId ref, JobEvent.returned jobId ref ∈ ledger.log →
    (∃ job, ledger.objects ref = some job) ∧ ledger.RefTerminal jobId ref
  escaped : ledger.escaped = []

structure ObjectsKept (ledger next : JobLedger V) : Prop where
  present : ∀ ref job, ledger.objects ref = some job →
    ∃ job', next.objects ref = some job'
  terminal : ∀ ref job, ledger.objects ref = some job →
    job.status.terminal = true →
      ∃ job', next.objects ref = some job' ∧ job'.status.terminal = true

variable {ledger next : JobLedger V} {ref : JobRef} {jobId : JobId}
  {tid : ThreadId} {owner : JobOwner V}

theorem ObjectsKept.of_eq (heq : next.objects = ledger.objects) :
    ledger.ObjectsKept next :=
  ⟨fun _ job hjob => ⟨job, heq ▸ hjob⟩,
    fun _ job hjob hterminal => ⟨job, heq ▸ hjob, hterminal⟩⟩

theorem ObjectsKept.of_write {written : JobState V}
    (heq : next.objects = Function.update ledger.objects ref (some written))
    (hterminal : ∀ job, ledger.objects ref = some job →
      job.status.terminal = true → written.status.terminal = true) :
    ledger.ObjectsKept next := by
  constructor
  · intro ref' job hjob
    by_cases hsame : ref' = ref
    · exact ⟨written, by simp [heq, hsame]⟩
    · exact ⟨job, by simpa [heq, hsame] using hjob⟩
  · intro ref' job hjob hterm
    by_cases hsame : ref' = ref
    · subst hsame
      exact ⟨written, by simp [heq], hterminal job hjob hterm⟩
    · exact ⟨job, by simpa [heq, hsame] using hjob, hterm⟩

theorem Update.objectsKept {policy : LedgerPolicy V} (hwell : ledger.WellFormed)
    (hupdate : Update policy ledger next) : ledger.ObjectsKept next := by
  cases hupdate with
  | revise change hrevise =>
    constructor
    · intro ref job hjob
      exact ⟨change ref job, by simp [hjob]⟩
    · intro ref job hjob hterminal
      refine ⟨change ref job, by simp [hjob], ?_⟩
      rcases (hrevise ref job hjob).status with hsame | ⟨-, hcancelled⟩
      · rwa [hsame]
      · rw [hcancelled]
        rfl
  | clearStale _ | drop _ _ _ | tail _ => exact .of_eq rfl
  | store job hpolicy hfresh =>
    refine .of_write rfl ?_
    intro old hold
    exact absurd rfl (hwell.ne_of_fresh hfresh hold)
  | pick tid ref job running _ _ _ hobject hwaiting =>
    refine .of_write rfl ?_
    intro old hold hterminal
    rw [hobject] at hold
    cases hold
    simp [hwaiting, JobStatus.terminal] at hterminal
  | owner tid owner next howner hownerUpdate =>
    cases hownerUpdate with
    | write run target job written stage _ _ _ _ _ _ _ hterminal =>
      exact .of_write rfl fun _ _ _ => hterminal
    | execute | settleMissing | finish | raise | abandon => exact .of_eq rfl

theorem RefTerminal.keep (hterm : ledger.RefTerminal jobId ref)
    (hkept : ledger.ObjectsKept next)
    (htable : next.table jobId = some ref → ledger.table jobId = some ref) :
    next.RefTerminal jobId ref := by
  intro hnext
  obtain ⟨job, hjob, hterminal⟩ := hterm (htable hnext)
  exact hkept.terminal ref job hjob hterminal

theorem returned_of_append {log : List (JobEvent V)} {event : JobEvent V}
    (hne : event ≠ .returned jobId ref)
    (hmem : JobEvent.returned jobId ref ∈ log ++ [event]) :
    JobEvent.returned jobId ref ∈ log := by
  rcases List.mem_append.mp hmem with hold | hnew
  · exact hold
  · exact absurd (List.mem_singleton.mp hnew).symm hne

theorem Unwedged.returned_keep (hgood : ledger.Unwedged)
    (hkept : ledger.ObjectsKept next)
    (htable : ∀ jobId ref, JobEvent.returned jobId ref ∈ ledger.log →
      next.table jobId = some ref → ledger.table jobId = some ref)
    (hmem : JobEvent.returned jobId ref ∈ ledger.log) :
    (∃ job, next.objects ref = some job) ∧ next.RefTerminal jobId ref := by
  obtain ⟨⟨job, hjob⟩, hterm⟩ := hgood.returned jobId ref hmem
  exact ⟨hkept.present ref job hjob, hterm.keep hkept (htable jobId ref hmem)⟩

theorem Unwedged.store (hwell : ledger.WellFormed) (hgood : ledger.Unwedged)
    (job : JobState V) (hpolicy : containedPolicy.store ledger job.jobId)
    (hfresh : job.enqueueSeq = ledger.count + 1)
    (hkept : ledger.ObjectsKept next)
    (htable : next.table =
      Function.update ledger.table job.jobId (some job.enqueueSeq))
    (hslot : next.slot = ledger.slot) (howners : next.owners = ledger.owners)
    (hlog : next.log = ledger.log ++ [.submitted job.enqueueSeq])
    (hescaped : next.escaped = ledger.escaped) : next.Unwedged := by
  have hold : ∀ jobId ref old, ledger.objects ref = some old →
      next.table jobId = some ref → ledger.table jobId = some ref := by
    intro jobId ref old hobject hnext
    by_cases hsame : jobId = job.jobId
    · subst hsame
      have href : job.enqueueSeq = ref := by simpa [htable] using hnext
      exact absurd href.symm (hwell.ne_of_fresh hfresh hobject)
    · simpa [htable, hsame] using hnext
  refine ⟨?_, ?_, ?_, ?_, ?_⟩
  · intro jobId hnext
    rw [hslot] at hnext
    by_cases hsame : jobId = job.jobId
    · simp [htable, hsame]
    · simpa [htable, hsame] using hgood.slot_listed jobId hnext
  · intro jobId hnext
    rw [hslot] at hnext
    rcases hgood.slot_live jobId hnext with hlive | hterm
    · obtain ⟨tid, owner, howner, hid, hstage⟩ := hlive
      exact .inl ⟨tid, owner, howners ▸ howner, hid, hstage⟩
    · exact absurd hterm (hpolicy jobId hnext)
  · intro tid owner pending howner hstage
    rw [howners] at howner
    obtain ⟨old, hobject, -⟩ := hwell.owner_sound tid owner howner
    exact (hgood.settled tid owner pending howner hstage).keep hkept
      (hold _ _ old hobject)
  · intro jobId ref hmem
    rw [hlog] at hmem
    have hmem := returned_of_append (by simp) hmem
    obtain ⟨⟨old, hobject⟩, -⟩ := hgood.returned jobId ref hmem
    exact hgood.returned_keep hkept (fun jobId ref hmem => by
      obtain ⟨⟨old, hobject⟩, -⟩ := hgood.returned jobId ref hmem
      exact hold jobId ref old hobject) hmem
  · rw [hescaped]
    exact hgood.escaped

theorem Unwedged.pick (hgood : ledger.Unwedged)
    (hkept : ledger.ObjectsKept next) (htable : next.table = ledger.table)
    (hlisted : ledger.table jobId = some ref) (hslot : next.slot = some jobId)
    (howners : next.owners = Function.update ledger.owners tid
      (some { jobId := jobId, ref := ref, stage := .picked }))
    (hlog : next.log = ledger.log ++ [.picked ref])
    (hescaped : next.escaped = ledger.escaped) : next.Unwedged := by
  refine ⟨?_, ?_, ?_, ?_, ?_⟩
  · intro jobId' hnext
    rw [hslot] at hnext
    cases hnext
    simp [htable, hlisted]
  · intro jobId' hnext
    rw [hslot] at hnext
    cases hnext
    exact .inl ⟨tid, ⟨jobId, ref, .picked⟩, by simp [howners], rfl, by simp⟩
  · intro tid' owner pending howner hstage
    rw [howners] at howner
    rcases update_owner_cases howner with ⟨-, heq⟩ | ⟨-, hprev⟩
    · cases heq
      cases hstage
    · exact (hgood.settled tid' owner pending hprev hstage).keep hkept
        (by simp [htable])
  · intro jobId' ref' hmem
    rw [hlog] at hmem
    exact hgood.returned_keep hkept (by simp [htable])
      (returned_of_append (by simp) hmem)
  · rw [hescaped]
    exact hgood.escaped

theorem Unwedged.setStage (hgood : ledger.Unwedged) (stage : OwnerStage V)
    (howner : ledger.owners tid = some owner) (hkept : ledger.ObjectsKept next)
    (htable : next.table = ledger.table) (hslot : next.slot = ledger.slot)
    (howners : next.owners = Function.update ledger.owners tid
      (some { owner with stage := stage }))
    (hlog : ∀ jobId ref, JobEvent.returned jobId ref ∈ next.log →
      JobEvent.returned jobId ref ∈ ledger.log)
    (hescaped : next.escaped = ledger.escaped)
    (hwritten : ∀ pending, stage = .settled pending →
      next.EntryTerminal owner.jobId) : next.Unwedged := by
  refine ⟨?_, ?_, ?_, ?_, ?_⟩
  · intro jobId hnext
    rw [hslot] at hnext
    rw [htable]
    exact hgood.slot_listed jobId hnext
  · intro jobId hnext
    rw [hslot] at hnext
    rcases hgood.slot_live jobId hnext with hlive | hterm
    · obtain ⟨tid', claim, hclaim, hid, hstage⟩ := hlive
      by_cases hsame : tid' = tid
      · subst hsame
        rw [howner] at hclaim
        cases hclaim
        by_cases hsettled : ∃ pending, stage = .settled pending
        · obtain ⟨pending, hpending⟩ := hsettled
          exact .inr (hid ▸ hwritten pending hpending)
        · exact .inl ⟨tid', { owner with stage := stage }, by simp [howners],
            hid, fun pending hpending => hsettled ⟨pending, hpending⟩⟩
      · exact .inl ⟨tid', claim, by simpa [howners, hsame] using hclaim, hid,
          hstage⟩
    · exact .inr fun ref => (hterm ref).keep hkept (by simp [htable])
  · intro tid' claim pending hclaim hstage
    rw [howners] at hclaim
    rcases update_owner_cases hclaim with ⟨-, heq⟩ | ⟨-, hprev⟩
    · cases heq
      exact hwritten pending hstage _
    · exact (hgood.settled tid' claim pending hprev hstage).keep hkept
        (by simp [htable])
  · intro jobId ref hmem
    exact hgood.returned_keep hkept (by simp [htable]) (hlog jobId ref hmem)
  · rw [hescaped]
    exact hgood.escaped

theorem Unwedged.finish (hwell : ledger.WellFormed) (hgood : ledger.Unwedged)
    (howner : ledger.owners tid = some owner)
    (hstage : owner.stage = .settled false) :
    Unwedged { ledger with
      owners := Function.update ledger.owners tid none
      log := ledger.log ++ [.returned owner.jobId owner.ref] } := by
  refine ⟨hgood.slot_listed, ?_, ?_, ?_, hgood.escaped⟩
  · intro jobId hslot
    rcases hgood.slot_live jobId hslot with hlive | hterm
    · obtain ⟨tid', claim, hclaim, hid, hopen⟩ := hlive
      have hother : tid' ≠ tid := by
        rintro rfl
        rw [howner] at hclaim
        cases hclaim
        exact hopen false hstage
      exact .inl ⟨tid', claim, by simpa [hother] using hclaim, hid, hopen⟩
    · exact .inr hterm
  · intro tid' claim pending hclaim hsettled
    rcases update_owner_cases hclaim with ⟨-, heq⟩ | ⟨-, hprev⟩
    · cases heq
    · exact hgood.settled tid' claim pending hprev hsettled
  · intro jobId ref hmem
    rcases List.mem_append.mp hmem with hold | hnew
    · exact hgood.returned jobId ref hold
    · obtain ⟨rfl, rfl⟩ : jobId = owner.jobId ∧ ref = owner.ref := by
        simpa using hnew
      obtain ⟨job, hjob, -⟩ := hwell.owner_sound tid owner howner
      exact ⟨⟨job, hjob⟩, hgood.settled tid owner false howner hstage⟩

theorem Unwedged.ownerUpdate (hwell : ledger.WellFormed)
    (hgood : ledger.Unwedged) (howner : ledger.owners tid = some owner)
    (hkept : ledger.ObjectsKept next)
    (hupdate : OwnerUpdate containedPolicy ledger tid owner next) :
    next.Unwedged := by
  cases hupdate with
  | execute target job =>
    exact hgood.setStage _ howner hkept rfl rfl rfl
      (fun _ _ hmem => returned_of_append (by simp) hmem) rfl (by simp)
  | write run target job written stage hstage hid href htable hobject hjobId
      hpayload hterminal hnext =>
      refine hgood.setStage stage howner hkept rfl rfl rfl
        (fun _ _ hmem => returned_of_append (by simp) hmem) rfl ?_
      intro pending _ ref hlisted
      have heq : target = ref := by
        have : some target = some ref := htable.symm.trans hlisted
        exact Option.some.inj this
      subst heq
      exact ⟨written, by simp, hterminal⟩
  | settleMissing hstage htable =>
    refine hgood.setStage _ howner hkept rfl rfl rfl (fun _ _ => id) rfl ?_
    intro pending _ ref hlisted
    simp [htable] at hlisted
  | finish hstage => exact hgood.finish hwell howner hstage
  | raise hraise | abandon hraise => exact absurd hraise id

theorem Unwedged.update (hwell : ledger.WellFormed) (hgood : ledger.Unwedged)
    (hupdate : Update containedPolicy ledger next) : next.Unwedged := by
  have hkept := hupdate.objectsKept hwell
  cases hupdate with
  | revise change hrevise =>
    refine ⟨hgood.slot_listed, ?_, ?_, ?_, hgood.escaped⟩
    · intro jobId hslot
      exact (hgood.slot_live jobId hslot).imp id
        fun hterm ref => (hterm ref).keep hkept id
    · intro tid owner pending howner hstage
      exact (hgood.settled tid owner pending howner hstage).keep hkept id
    · intro jobId ref hmem
      exact hgood.returned_keep hkept (fun _ _ _ => id) hmem
  | clearStale hstale | tail hpolicy =>
    exact ⟨by simp, by simp, hgood.settled, hgood.returned, hgood.escaped⟩
  | store job hpolicy hfresh =>
    exact hgood.store hwell job hpolicy hfresh hkept rfl rfl rfl rfl rfl
  | drop jobId hslot hterminal =>
    have htable : ∀ jobId' ref,
        Function.update ledger.table jobId none jobId' = some ref →
          ledger.table jobId' = some ref := by
      intro jobId' ref hnext
      by_cases hsame : jobId' = jobId
      · simp [hsame] at hnext
      · simpa [hsame] using hnext
    refine ⟨by simp [hslot], by simp [hslot], ?_, ?_, hgood.escaped⟩
    · intro tid owner pending howner hstage
      exact (hgood.settled tid owner pending howner hstage).keep hkept
        (htable _ _)
    · intro jobId' ref hmem
      exact hgood.returned_keep hkept (fun _ _ _ => htable _ _) hmem
  | pick tid ref job running _ _ hlisted =>
    exact hgood.pick hkept rfl hlisted rfl rfl rfl rfl
  | owner tid owner next howner hownerUpdate =>
    exact hgood.ownerUpdate hwell howner hkept hownerUpdate

end JobLedger

namespace JobQueueManager

variable {m : JobQueueManager V}

theorem containedPolicy_store (jobId : JobId) :
    JobLedger.containedPolicy.store m.detachStaleRunning.ledger jobId := by
  intro current hslot hterm
  unfold detachStaleRunning at hslot hterm
  split at hslot
  · next hnone => simp [ledger, hnone] at hslot
  · next found hfound =>
    split at hslot
    · cases hslot
    · next ref job hentry =>
      split at hslot
      · cases hslot
      · next hopen =>
        have hsame : found = current := by
          simpa [ledger, hfound] using hslot
        subst hsame
        simp only [hfound, hentry, hopen, Bool.false_eq_true, if_false] at hterm
        obtain ⟨hlookup, hheap⟩ := entry_eq_some.mp hentry
        obtain ⟨job', hjob', hterminal⟩ := hterm ref hlookup
        rw [show m.ledger.objects ref = some job from hheap] at hjob'
        cases hjob'
        exact hopen hterminal

theorem containedPolicy_allows {label : JobQueueLabel V}
    (hcontained : m.errorsContained label = true) :
    JobLedger.containedPolicy.Allows m label where
  submit := fun _ _ _ _ _ _ _ => containedPolicy_store _
  tail := fun _ _ _ _ => trivial
  contained := fun _ => hcontained

theorem unwedged_of_run {retentionSec authTtlSec stagedRefTtlSec : Nat}
    (hrun : GuardedRun step (fun m label => m.errorsContained label = true)
      (init retentionSec authTtlSec stagedRefTtlSec) m) :
    m.ledger.WellFormed ∧ m.ledger.Unwedged := by
  exact run_invariant (fun _ _ hcontained => containedPolicy_allows hcontained)
    JobLedger.Unwedged (by constructor <;> simp [ledger, init])
    (fun _ _ hwell hgood hupdate => hgood.update hwell hupdate) hrun

/-! ## The next waiting job can be picked -/

theorem waitForRunning_of_stale
    (hstale : ∀ jobId, m.runningJobId = some jobId →
      ∃ ref job, m.entry jobId = some (ref, job) ∧ job.status.terminal = true) :
    m.waitForRunning = some m.clearRunning := by
  unfold waitForRunning
  cases hslot : m.runningJobId with
  | none =>
    have hclear : m.clearRunning = m := by
      unfold clearRunning
      rw [← hslot]
    rw [hclear]
  | some current =>
    obtain ⟨ref, job, hentry, hterminal⟩ := hstale current hslot
    simp [hentry, hterminal]

theorem dropJobs_lookup (gone : List (JobId × JobRef)) :
    (m.dropJobs gone).heap = m.heap ∧
      (∀ jobId ref, (m.dropJobs gone).jobs.lookup jobId = some ref →
        m.jobs.lookup jobId = some ref) ∧
      ∀ jobId, (∀ item ∈ gone, item.1 ≠ jobId) →
        (m.dropJobs gone).jobs.lookup jobId = m.jobs.lookup jobId := by
  induction gone generalizing m with
  | nil => exact ⟨rfl, fun _ _ => id, fun _ _ => rfl⟩
  | cons item rest ih =>
    obtain ⟨gone, ref⟩ := item
    obtain ⟨hheap, hsub, hkeep⟩ := ih (m := m.popJob gone)
    refine ⟨hheap, ?_, ?_⟩
    · intro jobId ref' hlookup
      exact OrderedDict.of_lookup_erase (hsub jobId ref' hlookup)
    · intro jobId hne
      have hthis : jobId ≠ gone := fun heq => hne (gone, ref) (by simp) heq.symm
      have hrest := hkeep jobId fun item hmem => hne item (by simp [hmem])
      refine hrest.trans ?_
      change (m.jobs.erase gone).lookup jobId = _
      rw [OrderedDict.lookup_erase, if_neg hthis]

variable {job : JobState V} {jobId : JobId} {ref : JobRef}

theorem cleanupJobs_keeps_pickable (now : Nat)
    (hentry : m.entry jobId = some (ref, job)) (hpickable : job.pickable = true)
    : (m.cleanupJobs now).1.entry jobId = some (ref, job) := by
  obtain ⟨hlookup, hheap⟩ := entry_eq_some.mp hentry
  obtain ⟨hheapEq, -, hkeep⟩ := dropJobs_lookup (m := m) (m.expiredJobs now)
  refine entry_eq_some.mpr ⟨?_, ?_⟩
  · refine (hkeep jobId ?_).trans hlookup
    rintro ⟨jobId', ref'⟩ hmem rfl
    obtain ⟨hitem, hexpired⟩ := List.mem_filter.mp hmem
    have hfound : m.jobs.lookup jobId' = some ref' :=
      OrderedDict.mem_items.mp hitem
    rw [hlookup] at hfound
    cases hfound
    simp only [hheap, expired, Bool.and_eq_true] at hexpired
    simp only [JobState.pickable, Bool.and_eq_true, beq_iff_eq] at hpickable
    simp [hpickable.1, JobStatus.terminal] at hexpired
  · change (m.dropJobs (m.expiredJobs now)).heap ref = some job
    rw [hheapEq]
    exact hheap

theorem refsToTouch_isSome (now : Nat) (items : List (JobRef × JobState V))
    (hread : ∀ item ∈ items, item.2.pickable = true →
      item.2.stagedRefIds.isEmpty = false →
        item.2.payload.stagingTtlSec.isSome = true) :
    (m.refsToTouch now items).isSome = true := by
  induction items with
  | nil => rfl
  | cons item rest ih =>
    obtain ⟨ref, job⟩ := item
    have hrest := ih fun item hmem => hread item (by simp [hmem])
    have hjob := hread (ref, job) (by simp)
    have hdue : (m.needsRefTouch now job).isSome = true := by
      unfold needsRefTouch
      split
      · rfl
      · next hneeds =>
        simp only [Bool.or_eq_true, Bool.not_eq_true', not_or,
          Bool.not_eq_false, Bool.not_eq_true] at hneeds
        simpa [refTouchInterval] using hjob hneeds.1 hneeds.2
    obtain ⟨due, hdue⟩ := Option.isSome_iff_exists.mp hdue
    simp [refsToTouch, hdue, hrest]

theorem pickNextJob_isSome (hentry : m.entry jobId = some (ref, job))
    (hpickable : job.pickable = true) :
    ∃ found, m.pickNextJob.2 = some found := by
  unfold pickNextJob
  dsimp only
  split
  · exact ⟨_, rfl⟩
  · split
    · next hsorted =>
      have hmem : (ref, job) ∈ m.pruneWaitingOrder.waitingJobs :=
        List.mem_filter.mpr ⟨mem_jobStates.mpr ⟨jobId, hentry⟩, hpickable⟩
      have : (ref, job) ∈ m.pruneWaitingOrder.sortedWaiting :=
        (List.perm_insertionSort _ _).mem_iff.mpr hmem
      simp [hsorted] at this
    · exact ⟨_, rfl⟩

theorem loopSection_picks {tid : ThreadId} (now : Nat)
    (hphase : m.threads[tid]? = some .loop) (hstop : m.stop = false)
    (hstale : ∀ current, m.runningJobId = some current →
      ∃ ref job, m.entry current = some (ref, job) ∧ job.status.terminal = true)
    (hread : ∀ item ∈ m.jobStates, item.2.pickable = true →
      item.2.stagedRefIds.isEmpty = false →
        item.2.payload.stagingTtlSec.isSome = true)
    (hentry : m.entry jobId = some (ref, job)) (hpickable : job.pickable = true)
    :
    ∃ work pickedId pickedRef,
      (m.loopSection tid now).threads[tid]? =
          some (.dispatch work (some (pickedId, pickedRef))) ∧
        (m.loopSection tid now).runningJobId = some pickedId := by
  have hlt : tid < m.threads.length := (List.getElem?_eq_some_iff.mp hphase).1
  have hcleaned := cleanupJobs_keeps_pickable (m := m.clearRunning) now hentry
    hpickable
  have hthreads := (cleanupJobs_spec JobLedger.containedPolicy
    (m := m.clearRunning) now rfl).2.2
  have hread' : ∀ item ∈ (m.clearRunning.cleanupJobs now).1.jobStates,
      item.2.pickable = true → item.2.stagedRefIds.isEmpty = false →
        item.2.payload.stagingTtlSec.isSome = true := by
    rintro ⟨ref', job'⟩ hmem
    obtain ⟨jobId', hentry'⟩ := mem_jobStates.mp hmem
    obtain ⟨hlookup', hheap'⟩ := entry_eq_some.mp hentry'
    obtain ⟨hheapEq, hsub, -⟩ :=
      dropJobs_lookup (m := m.clearRunning) (m.clearRunning.expiredJobs now)
    refine hread (ref', job') (mem_jobStates.mpr ⟨jobId', entry_eq_some.mpr
      ⟨hsub jobId' ref' hlookup', ?_⟩⟩)
    exact (congrFun hheapEq ref').symm.trans hheap'
  unfold loopSection
  rw [if_neg (by simp [hstop]), waitForRunning_of_stale hstale]
  dsimp only
  generalize m.clearRunning.cleanupJobs now = cleanup at *
  obtain ⟨cleaned, releases⟩ := cleanup
  dsimp only at *
  have htouch := refsToTouch_isSome (m := cleaned) now cleaned.jobStates hread'
  obtain ⟨touches, htouches⟩ := Option.isSome_iff_exists.mp htouch
  obtain ⟨⟨foundRef, foundJob⟩, hfound⟩ := pickNextJob_isSome hcleaned hpickable
  obtain ⟨⟨order, horder⟩, -⟩ := pickNextJob_spec (m := cleaned)
  have hpair : cleaned.pickNextJob =
      (cleaned.setWaitingOrder order, some (foundRef, foundJob)) :=
    Prod.ext horder hfound
  rw [htouches, hpair]
  refine ⟨releases ++ touches, foundJob.jobId, foundRef, ?_, rfl⟩
  have hlen : tid < cleaned.threads.length := by
    rw [hthreads]
    exact hlt
  simp [setPhase, markPicked, modifyRef, removeWaitingJob, setWaitingOrder, hlen]

theorem executing_of_inProgress (hprogress : m.ledger.InProgress jobId) :
    m.executing jobId = true := by
  obtain ⟨tid, owner, howner, hid, -⟩ := hprogress
  obtain ⟨phase, hphase, hclaim⟩ := Option.bind_eq_some_iff.mp howner
  refine List.any_eq_true.mpr ⟨phase, List.mem_of_getElem? hphase, ?_⟩
  simp [hclaim, hid]

/-- In every run whose steps contain their exceptions: no exception escapes
into `_loop`; when `_run_job` has returned for an object that its id still
names, the object is terminal; a running slot whose job no live thread
executes names a terminal job; and then a thread in front of the loop section
picks a waiting job if there is one. -/
theorem scheduler_never_wedges
    {retentionSec authTtlSec stagedRefTtlSec : Nat} {m : JobQueueManager V}
    (hrun : GuardedRun step (fun m label => m.errorsContained label = true)
      (init retentionSec authTtlSec stagedRefTtlSec) m) :
    m.escaped = [] ∧
      (∀ jobId ref, JobEvent.returned jobId ref ∈ m.log →
        m.jobs.lookup jobId = some ref →
          ∃ job, m.heap ref = some job ∧ job.status.terminal = true) ∧
      (∀ jobId, m.runningJobId = some jobId → m.executing jobId = false →
        ∃ ref job, m.entry jobId = some (ref, job) ∧
          job.status.terminal = true) ∧
      ∀ tid now preview, m.threads[tid]? = some .loop → m.stop = false →
        (∀ jobId, m.runningJobId = some jobId → m.executing jobId = false) →
          m.errorsContained (.scheduler tid (.advance now preview)) = true →
            (∃ item ∈ m.jobStates, item.2.pickable = true) →
              ∃ next work jobId ref,
                m.step (.scheduler tid (.advance now preview)) = some next ∧
                  next.threads[tid]? =
                    some (.dispatch work (some (jobId, ref))) ∧
                  next.runningJobId = some jobId := by
  obtain ⟨hwell, hgood⟩ := unwedged_of_run hrun
  have hslot : ∀ jobId, m.runningJobId = some jobId →
      m.executing jobId = false → ∃ ref job, m.entry jobId = some (ref, job) ∧
        job.status.terminal = true := by
    intro jobId hrunning hidle
    obtain ⟨ref, href⟩ :=
      Option.ne_none_iff_exists'.mp (hgood.slot_listed jobId hrunning)
    rcases hgood.slot_live jobId hrunning with hprogress | hterm
    · simp [executing_of_inProgress hprogress] at hidle
    · obtain ⟨job, hjob, hterminal⟩ := hterm ref href
      exact ⟨ref, job, entry_eq_some.mpr ⟨href, hjob⟩, hterminal⟩
  refine ⟨hgood.escaped, ?_, hslot, ?_⟩
  · intro jobId ref hmem hlookup
    exact (hgood.returned jobId ref hmem).2 hlookup
  · rintro tid now preview hphase hstop hidle hcontained
      ⟨⟨ref, job⟩, hmem, hpickable⟩
    obtain ⟨jobId, hentry⟩ := mem_jobStates.mp hmem
    have hstale := fun current hcurrent =>
      hslot current hcurrent (hidle current hcurrent)
    have hread : ∀ item ∈ m.jobStates, item.2.pickable = true →
        item.2.stagedRefIds.isEmpty = false →
          item.2.payload.stagingTtlSec.isSome = true := by
      intro item hitem hpick hrefs
      simp only [errorsContained, hphase, hstop,
        waitForRunning_of_stale hstale, Option.isNone_some, Bool.false_or,
        List.all_eq_true] at hcontained
      have := hcontained item hitem
      simpa [hpick, hrefs] using this
    obtain ⟨work, pickedId, pickedRef, hpicked, hrunning⟩ :=
      loopSection_picks now hphase hstop hstale hread hentry hpickable
    refine ⟨m.loopSection tid now, work, pickedId, pickedRef, ?_, hpicked,
      hrunning⟩
    simp [step, schedulerStep, hphase]

def completedRun : List (JobQueueLabel Nat) :=
  [.start "infocenter:7000", submitHookJob "first", submitHookJob "second"] ++
    untilBlob 0 ++ afterBlob 0 ++ [advance 0, advance 0, advance 0, advance 0]

theorem scheduler_never_wedges_completedRun :
    ∃ m, checkedRun step (fun m label => errorsContained m label = true)
        (init 3600 86400 86400) completedRun = some m ∧
      m.escaped = [] ∧ m.runningJobId = some "second" ∧
      ∃ job, m.heap 1 = some job ∧ job.status.terminal = true := by
  have hrun := guardedRun_of_checkedRun completedRun
    (show checkedRun step (fun m label => errorsContained m label = true)
      (init 3600 86400 86400) completedRun = some _ from rfl)
  obtain ⟨hescaped, hreturned, -, -⟩ := scheduler_never_wedges hrun
  exact ⟨_, rfl, hescaped, rfl,
    hreturned "first" 1 (List.mem_of_getElem? (i := 5) rfl) rfl⟩

/-- A job whose blob does not decode: the exception leaves the run and the
thread ends, and the thread that `get_job` starts afterwards waits for the
RUNNING job that nobody executes. -/
def badBlobRun : List (JobQueueLabel Nat) :=
  [.start "infocenter:7000", submitHookJob "bad-blob", submitHookJob "next"] ++
    untilBlob 0 ++
    [.scheduler 0 (.readBlob (.error ⟨some "Incorrect padding"⟩)),
      .scheduler 0 .exit, .getJob, advance 1]

theorem scheduler_wedges_on_badBlob :
    ∃ m : JobQueueManager Nat, Reachable step (init 3600 86400 86400) m ∧
      m.escaped = [1] ∧ m.runningJobId = some "bad-blob" ∧
      m.executing "bad-blob" = false ∧
      (m.entry "bad-blob").map (·.2.status) = some .running ∧
      (m.entry "next").any (·.2.pickable) = true ∧
      m.waitForRunning.isNone = true :=
  ⟨_, reachable_of_runLabels badBlobRun rfl, rfl, rfl, by decide,
    by decide, by decide, by decide⟩

end JobQueueManager

end PycloudParallel.JobQueue
