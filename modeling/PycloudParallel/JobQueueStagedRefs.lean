import PycloudParallel.JobQueueWaitingSteps

/-!
# The staged references of the jobs

A job carries the ids of the references in its payload.  They are released
behind its run, when it is cancelled, when it is dropped, and by `close`; each
release knows the ids of one job only.  Beside the queue stands a record of
what has been released for which job.
-/

namespace PycloudParallel.JobQueue

variable {V : Type}

def RefWork.releasedIds : RefWork → List RefId
  | .touch _ _ => []
  | .release _ refIds => refIds

namespace SchedulerPhase

/-- The reference work that the thread still hands to the maintenance
workers. -/
def handsOver : SchedulerPhase V → List RefWork
  | .dispatch work _ => work
  | _ => []

def frees : SchedulerPhase V → Option JobRef
  | .releaseRefs ref => some ref
  | _ => none

def attends : SchedulerPhase V → Option JobId
  | .running run _ => some run.jobId
  | .afterRun jobId => some jobId
  | _ => none

end SchedulerPhase

namespace ClosePhase

def frees : ClosePhase → List JobRef
  | .release states => states
  | .joining | .gather | .shutdown => []

/-- The call of `close` has still to collect the jobs of the table. -/
def gathers : ClosePhase → Bool
  | .joining | .gather => true
  | .release _ | .shutdown => false

end ClosePhase

namespace JobQueueManager

section Holders

variable (m : JobQueueManager V)

def Holds (ref : JobRef) : Prop :=
  ∃ jobId, m.jobs.lookup jobId = some ref

def ReleasePending (refId : RefId) : Prop :=
  (∃ work ∈ m.refWork, refId ∈ work.releasedIds) ∨
    ∃ phase ∈ m.threads, ∃ work ∈ phase.handsOver, refId ∈ work.releasedIds

def Frees (ref : JobRef) : Prop :=
  (∃ phase ∈ m.threads, phase.frees = some ref) ∨
    ∃ phase ∈ m.closing, ref ∈ phase.frees

def Attended (ref : JobRef) : Prop :=
  (∃ phase ∈ m.threads, ∃ jobId, phase.attends = some jobId ∧
      m.jobs.lookup jobId = some ref) ∨
    (∃ phase ∈ m.closing, phase.gathers = true) ∧ m.Holds ref

def Owed (ref : JobRef) (refId : RefId) : Prop :=
  m.ReleasePending refId ∨ m.Frees ref ∨ m.Attended ref

def stagedIds (ref : JobRef) : List RefId :=
  ((m.heap ref).map JobState.stagedRefIds).getD []

instance (ref : JobRef) : Decidable (m.Frees ref) :=
  inferInstanceAs (Decidable (_ ∨ _))

/-- An id whose release may be under way: it is in work that is handed over, or
in the snapshot that a release of an object may have taken. -/
def Releasing (snapshot : JobRef → List RefId) (refId : RefId) : Prop :=
  m.ReleasePending refId ∨ ∃ ref, m.Frees ref ∧ refId ∈ snapshot ref

def dueRefs : JobQueueLabel V → List RefId
  | .refWork index _ =>
    ((m.refWork[index]?).map RefWork.releasedIds).getD []
  | .closeStep index _ =>
    match m.closing[index]? with
    | some (.release (ref :: _)) => m.stagedIds ref
    | _ => []
  | .scheduler tid (.advance _ _) =>
    match m.threads[tid]? with
    | some (.releaseRefs ref) => m.stagedIds ref
    | _ => []
  | _ => []

/-- The ids for which the step calls `DataRegistryClient.release`. -/
def releaseCalls (label : JobQueueLabel V) : List RefId :=
  if m.controlplaneTarget == "" then [] else m.dueRefs label

def snapshotAfter (next : JobQueueManager V) (snapshot : JobRef → List RefId) :
    JobRef → List RefId :=
  fun ref => if m.Frees ref then snapshot ref else next.stagedIds ref

end Holders

end JobQueueManager

/-- The queue and the releases.  A release of an object reads its ids some time
before it is over: `snapshot` has the ids that the object listed when its
release began.  An id is released for an object when it is released while the
job of the object is terminal. -/
structure StagedQueue (V : Type) where
  manager : JobQueueManager V
  snapshot : JobRef → List RefId
  released : JobRef → RefId → Bool

namespace StagedQueue

def init (retentionSec authTtlSec stagedRefTtlSec : Nat) : StagedQueue V where
  manager := .init retentionSec authTtlSec stagedRefTtlSec
  snapshot := fun _ => []
  released := fun _ _ => false

def step (q : StagedQueue V) (label : JobQueueLabel V) :
    Option (StagedQueue V) :=
  (q.manager.step label).map fun next =>
    { manager := next
      snapshot := q.manager.snapshotAfter next q.snapshot
      released := fun ref refId => q.released ref refId ||
        (decide (refId ∈ q.manager.releaseCalls label) &&
          (q.manager.heap ref).any fun job => job.status.terminal) }

end StagedQueue

/-! ## What is asked of a step -/

namespace JobQueueManager

section Conditions

variable (m : JobQueueManager V) (snapshot : JobRef → List RefId)

/-- No job of the table and no job that is still WAITING or RUNNING lists the
id, and no release of it is under way. -/
structure Unlisted (refId : RefId) : Prop where
  jobs : ∀ ref job, m.heap ref = some job →
    m.Holds ref ∨ job.status.terminal = false → refId ∉ job.stagedRefIds
  releasing : ¬m.Releasing snapshot refId

/-- References are staged for one job at a time, and `close` collects them
behind the jobs only. -/
def stagesApart : JobQueueLabel V → Prop
  | .submit payload _ _ _ _ => (checkPayload payload).isOk = true →
    ∀ refId ∈ payload.dataRefIds, m.Unlisted snapshot refId
  | .closeStep index _ => m.closing[index]? = some .gather →
    ∀ ref job, m.Holds ref → m.heap ref = some job →
      job.stagedRefIds ≠ [] → job.status.terminal = true
  | _ => True

def raisesOut (run : RunLocals V) (point : RunPoint V)
    (move : SchedulerMove V) : Bool :=
  match point, move with
  | .resolveFailed exc, _ =>
    exc.text.isNone || (m.entry run.jobId).isNone
  | .missingHooks, .advance _ (.error _) => (m.entry run.jobId).isSome
  | .chooseMode, .readFields (.error _) => true
  | .sourceMode, .readFields (.error _) => true
  | .readBlob, .readBlob (.error _) => true
  | .readFields, .readFields (.error _) => true
  | .finallyBlock pending, .finallyBlock (.ok _) => pending
  | .finallyBlock _, .finallyBlock (.error _) => true
  | _, _ => false

/-- The step loses no release: ids are not submitted again, `staging_ttl_sec`
can be read, there is a registry to release at, the maintenance workers take
the releases, and no exception leaves `_run_job`. -/
def handsOn (label : JobQueueLabel V) : Prop :=
  (m.controlplaneTarget = "" → m.dueRefs label = []) ∧
    match label with
    | .submit payload generatedId _ _ _ => (checkPayload payload).isOk = true →
      m.entry (submittedJobId payload generatedId) = none ∧
        (payload.dataRefIds ≠ [] → payload.stagingTtlSec.isSome = true)
    | .scheduler tid move =>
      match m.threads[tid]? with
      | some (.dispatch work _) => m.maintenanceShutdown = true →
        ∀ item ∈ work, item.releasedIds = []
      | some (.running run point) => m.raisesOut run point move = false
      | _ => True
    | _ => True

end Conditions

end JobQueueManager

/-- The job of an object lists no more ids than before, and loses only ids
that are being released. -/
structure JobState.Sheds (calls : List RefId) (job changed : JobState V) :
    Prop where
  payload : changed.payload = job.payload
  terminal : job.status.terminal = true → changed.status.terminal = true
  listed : ∀ refId ∈ changed.stagedRefIds, refId ∈ job.stagedRefIds
  shed : ∀ refId ∈ job.stagedRefIds, refId ∈ changed.stagedRefIds ∨ refId ∈ calls

theorem JobState.Sheds.of_same {calls : List RefId} {job changed : JobState V}
    (hpayload : changed.payload = job.payload)
    (hstaged : changed.stagedRefIds = job.stagedRefIds)
    (hterminal : job.status.terminal = true → changed.status.terminal = true) :
    job.Sheds calls changed where
  payload := hpayload
  terminal := hterminal
  listed _ hlisted := hstaged ▸ hlisted
  shed _ hlisted := .inl (hstaged ▸ hlisted)

theorem JobState.Sheds.trans {calls : List RefId} {job mid changed : JobState V}
    (hfirst : job.Sheds calls mid) (hsecond : mid.Sheds calls changed) :
    job.Sheds calls changed where
  payload := hsecond.payload.trans hfirst.payload
  terminal hterminal := hsecond.terminal (hfirst.terminal hterminal)
  listed refId hlisted := hfirst.listed refId (hsecond.listed refId hlisted)
  shed refId hlisted := by
    rcases hfirst.shed refId hlisted with hmid | hcall
    · exact hsecond.shed refId hmid
    · exact .inr hcall

namespace JobQueueManager

/-- A step that stages nothing: what it hands to a release belongs to a
terminal job of the table. -/
structure RefMoves (m next : JobQueueManager V) (calls : List RefId) : Prop where
  enqueueSeq : next.enqueueSeq = m.enqueueSeq
  objects : ∀ ref changed, next.heap ref = some changed →
    ∃ job, m.heap ref = some job ∧ job.Sheds calls changed
  present : ∀ ref, next.heap ref = none → m.heap ref = none
  holds : ∀ ref, next.Holds ref → m.Holds ref
  pending : ∀ refId, next.ReleasePending refId → m.ReleasePending refId ∨
    ∃ ref job, m.Holds ref ∧ next.heap ref = some job ∧
      job.status.terminal = true ∧ refId ∈ job.stagedRefIds
  frees : ∀ ref, next.Frees ref → m.Frees ref ∨ m.Holds ref ∧
    ∃ job, next.heap ref = some job ∧ job.status.terminal = true

structure KeepsOwed (m next : JobQueueManager V) (calls : List RefId) : Prop where
  settled : ∀ ref job changed, m.heap ref = some job →
    job.status.terminal = false → next.heap ref = some changed →
      changed.status.terminal = true →
        ∀ refId ∈ changed.stagedRefIds, next.Owed ref refId
  owed : ∀ ref job, m.heap ref = some job → job.status.terminal = true →
    ∀ refId ∈ job.stagedRefIds, m.Owed ref refId →
      next.Owed ref refId ∨ refId ∈ calls

/-! ## References apart -/

/-- What is going to be released is not listed by a job that is WAITING or
RUNNING. -/
structure RefsApart (m : JobQueueManager V) (snapshot : JobRef → List RefId) :
    Prop where
  born : ∀ ref, m.enqueueSeq < ref → m.heap ref = none
  known : ∀ ref, m.Holds ref → (m.heap ref).isSome = true
  apart : ∀ ref job other otherJob, m.heap ref = some job →
    job.status.terminal = false → m.heap other = some otherJob → other ≠ ref →
      m.Holds other ∨ otherJob.status.terminal = false →
        ∀ refId ∈ job.stagedRefIds, refId ∉ otherJob.stagedRefIds
  freed : ∀ ref, m.Frees ref → (m.heap ref).isSome = true ∧
    ∀ refId ∈ m.stagedIds ref, refId ∈ snapshot ref
  releasing : ∀ refId, m.Releasing snapshot refId → ∀ ref job,
    m.heap ref = some job → job.status.terminal = false → refId ∉ job.stagedRefIds

variable {m next : JobQueueManager V} {calls : List RefId}
  {snapshot : JobRef → List RefId}

variable {ref : JobRef} {refId : RefId}

theorem RefMoves.living (hmoves : m.RefMoves next calls) {changed : JobState V}
    (hchanged : next.heap ref = some changed)
    (hliving : changed.status.terminal = false) :
    ∃ job, m.heap ref = some job ∧ job.Sheds calls changed ∧
      job.status.terminal = false := by
  obtain ⟨job, hjob, hsheds⟩ := hmoves.objects ref changed hchanged
  refine ⟨job, hjob, hsheds, ?_⟩
  rw [← Bool.not_eq_true]
  intro hterminal
  rw [hsheds.terminal hterminal] at hliving
  cases hliving

theorem RefsApart.held_apart (hapart : m.RefsApart snapshot)
    (hmoves : m.RefMoves next calls) {changed : JobState V}
    (hheld : m.Holds ref) (hchanged : next.heap ref = some changed)
    (hterminal : changed.status.terminal = true) {other : JobRef}
    {otherJob : JobState V} (hother : next.heap other = some otherJob)
    (hliving : otherJob.status.terminal = false) :
    ∀ refId ∈ changed.stagedRefIds, refId ∉ otherJob.stagedRefIds := by
  intro refId hlisted hotherListed
  obtain ⟨job, hjob, hsheds⟩ := hmoves.objects ref changed hchanged
  obtain ⟨old, hold, holdSheds, holdLiving⟩ := hmoves.living hother hliving
  have hne : ref ≠ other := by
    rintro rfl
    rw [hchanged] at hother
    cases hother
    rw [hterminal] at hliving
    cases hliving
  exact hapart.apart other old ref job hold holdLiving hjob hne (.inl hheld) refId
    (holdSheds.listed refId hotherListed) (hsheds.listed refId hlisted)

theorem mem_stagedIds :
    refId ∈ m.stagedIds ref ↔
      ∃ job, m.heap ref = some job ∧ refId ∈ job.stagedRefIds := by
  unfold stagedIds
  cases m.heap ref with
  | none | some job => simp

theorem RefsApart.moves (hapart : m.RefsApart snapshot)
    (hmoves : m.RefMoves next calls) :
    next.RefsApart (m.snapshotAfter next snapshot) := by
  have hkeptApart : ∀ refId, m.Releasing snapshot refId → ∀ ref changed,
      next.heap ref = some changed → changed.status.terminal = false →
        refId ∉ changed.stagedRefIds := by
    intro refId hreleasing ref changed hchanged hliving hlisted
    obtain ⟨job, hjob, hsheds, hjobLiving⟩ := hmoves.living hchanged hliving
    exact hapart.releasing refId hreleasing ref job hjob hjobLiving
      (hsheds.listed refId hlisted)
  refine ⟨?_, ?_, ?_, ?_, ?_⟩
  · intro ref hbeyond
    rw [hmoves.enqueueSeq] at hbeyond
    cases hchanged : next.heap ref with
    | none => rfl
    | some changed =>
      obtain ⟨job, hjob, -⟩ := hmoves.objects ref changed hchanged
      rw [hapart.born ref hbeyond] at hjob
      cases hjob
  · intro ref hheld
    rw [Option.isSome_iff_ne_none]
    intro hnone
    have hsome := hapart.known ref (hmoves.holds ref hheld)
    rw [hmoves.present ref hnone] at hsome
    cases hsome
  · intro ref changed other otherChanged hchanged hliving hother hne hothers refId
      hlisted hotherListed
    obtain ⟨job, hjob, hsheds, hjobLiving⟩ := hmoves.living hchanged hliving
    obtain ⟨otherJob, hotherJob, hotherSheds⟩ :=
      hmoves.objects other otherChanged hother
    refine hapart.apart ref job other otherJob hjob hjobLiving hotherJob hne ?_
      refId (hsheds.listed refId hlisted) (hotherSheds.listed refId hotherListed)
    rcases hothers with hheld | hotherLiving
    · exact .inl (hmoves.holds other hheld)
    · obtain ⟨old, hold, -, hliving⟩ := hmoves.living hother hotherLiving
      rw [hotherJob] at hold
      cases hold
      exact .inr hliving
  · intro ref hfrees
    refine ⟨?_, ?_⟩
    · rw [Option.isSome_iff_ne_none]
      intro hnone
      rcases hmoves.frees ref hfrees with hold | ⟨-, job, hjob, -⟩
      · have hsome := (hapart.freed ref hold).1
        rw [hmoves.present ref hnone] at hsome
        cases hsome
      · rw [hnone] at hjob
        cases hjob
    · intro refId hlisted
      unfold snapshotAfter
      split
      · next hold =>
        obtain ⟨changed, hchanged, hlisted⟩ := mem_stagedIds.mp hlisted
        obtain ⟨job, hjob, hsheds⟩ := hmoves.objects ref changed hchanged
        exact (hapart.freed ref hold).2 refId
          (mem_stagedIds.mpr ⟨job, hjob, hsheds.listed refId hlisted⟩)
      · exact hlisted
  · rintro refId (hpending | ⟨source, hfrees, hsnapshot⟩) ref changed hchanged hliving
    · rcases hmoves.pending refId hpending with hold |
        ⟨source, sourceJob, hheld, hsource, hterminal, hsourceListed⟩
      · exact hkeptApart refId (.inl hold) ref changed hchanged hliving
      · exact hapart.held_apart hmoves hheld hsource hterminal hchanged hliving refId
          hsourceListed
    · unfold snapshotAfter at hsnapshot
      split at hsnapshot
      · next hold =>
        exact hkeptApart refId (.inr ⟨source, hold, hsnapshot⟩) ref changed hchanged
          hliving
      · next hnew =>
        obtain ⟨hheld, job, hjob, hterminal⟩ :=
          (hmoves.frees source hfrees).resolve_left hnew
        obtain ⟨found, hfound, hlisted⟩ := mem_stagedIds.mp hsnapshot
        rw [hjob] at hfound
        cases hfound
        exact hapart.held_apart hmoves hheld hjob hterminal hchanged hliving refId
          hlisted

theorem RefsApart.due_releasing (hapart : m.RefsApart snapshot)
    {label : JobQueueLabel V} (hdue : refId ∈ m.dueRefs label) :
    m.Releasing snapshot refId := by
  have hfreed : ∀ {source : JobRef}, m.Frees source → refId ∈ m.stagedIds source →
      m.Releasing snapshot refId := by
    intro source hfrees hlisted
    exact .inr ⟨source, hfrees, (hapart.freed source hfrees).2 refId hlisted⟩
  cases label with
  | refWork index now =>
    cases hwork : m.refWork[index]? with
    | none =>
      simp only [dueRefs, hwork] at hdue
      cases hdue
    | some work =>
      simp only [dueRefs, hwork] at hdue
      exact .inl (.inl ⟨work, List.mem_of_getElem? hwork, hdue⟩)
  | closeStep index now =>
    simp only [dueRefs] at hdue
    split at hdue
    · next source rest hphase =>
      exact hfreed (.inr ⟨_, List.mem_of_getElem? hphase, List.mem_cons_self⟩) hdue
    · cases hdue
  | scheduler tid move =>
    cases move with
    | advance now preview =>
      simp only [dueRefs] at hdue
      split at hdue
      · next source hphase =>
        exact hfreed (.inl ⟨_, List.mem_of_getElem? hphase, rfl⟩) hdue
      · cases hdue
    | _ => cases hdue
  | _ => cases hdue

theorem mem_dueRefs_of_call {label : JobQueueLabel V}
    (hcall : refId ∈ m.releaseCalls label) : refId ∈ m.dueRefs label := by
  unfold releaseCalls at hcall
  split at hcall
  · cases hcall
  · exact hcall

end JobQueueManager

/-- Every id of a payload is listed or has been released, and a terminal job
that lists one is owed its release. -/
structure StagedQueue.RefsKept (q : StagedQueue V) : Prop where
  listed : ∀ ref job, q.manager.heap ref = some job →
    ∀ refId ∈ job.payload.dataRefIds,
      refId ∈ job.stagedRefIds ∨ q.released ref refId = true
  owed : ∀ ref job, q.manager.heap ref = some job →
    job.status.terminal = true → ∀ refId ∈ job.stagedRefIds,
      q.released ref refId = true ∨ q.manager.Owed ref refId
  ttl : ∀ ref job, q.manager.heap ref = some job → job.stagedRefIds ≠ [] →
    job.payload.stagingTtlSec.isSome = true

namespace StagedQueue

variable {q next : StagedQueue V} {label : JobQueueLabel V}

theorem released_mono (hstep : q.step label = some next) {ref : JobRef}
    {refId : RefId} (hreleased : q.released ref refId = true) :
    next.released ref refId = true := by
  obtain ⟨manager, -, rfl⟩ := Option.map_eq_some_iff.mp hstep
  dsimp only
  rw [hreleased, Bool.true_or]

theorem released_of_call (hstep : q.step label = some next) {ref : JobRef}
    {job : JobState V} {refId : RefId}
    (hcall : refId ∈ q.manager.releaseCalls label)
    (hjob : q.manager.heap ref = some job)
    (hterminal : job.status.terminal = true) :
    next.released ref refId = true := by
  obtain ⟨manager, -, rfl⟩ := Option.map_eq_some_iff.mp hstep
  simp [hcall, hjob, hterminal]

theorem RefsKept.moves (hkept : q.RefsKept)
    (hapart : q.manager.RefsApart q.snapshot) (hstep : q.step label = some next)
    (hmoves : q.manager.RefMoves next.manager (q.manager.releaseCalls label))
    (howed : q.manager.KeepsOwed next.manager (q.manager.releaseCalls label)) :
    next.RefsKept := by
  refine ⟨?_, ?_, ?_⟩
  · intro ref changed hchanged refId hpayload
    obtain ⟨job, hjob, hsheds⟩ := hmoves.objects ref changed hchanged
    rw [hsheds.payload] at hpayload
    rcases hkept.listed ref job hjob refId hpayload with hlisted | hreleased
    · rcases hsheds.shed refId hlisted with hstill | hcall
      · exact .inl hstill
      · right
        refine released_of_call hstep hcall hjob ?_
        rw [← Bool.not_eq_false]
        intro hliving
        exact hapart.releasing refId
          (hapart.due_releasing (JobQueueManager.mem_dueRefs_of_call hcall)) ref job
          hjob hliving hlisted
    · exact .inr (released_mono hstep hreleased)
  · intro ref changed hchanged hterminal refId hlisted
    obtain ⟨job, hjob, hsheds⟩ := hmoves.objects ref changed hchanged
    cases hbefore : job.status.terminal with
    | false =>
      exact .inr (howed.settled ref job changed hjob hbefore hchanged hterminal
        refId hlisted)
    | true =>
      have hjobListed := hsheds.listed refId hlisted
      rcases hkept.owed ref job hjob hbefore refId hjobListed with hreleased | howes
      · exact .inl (released_mono hstep hreleased)
      · rcases howed.owed ref job hjob hbefore refId hjobListed howes with
          hstill | hcall
        · exact .inr hstill
        · exact .inl (released_of_call hstep hcall hjob hbefore)
  · intro ref changed hchanged hsome
    obtain ⟨job, hjob, hsheds⟩ := hmoves.objects ref changed hchanged
    rw [hsheds.payload]
    refine hkept.ttl ref job hjob fun hnone => hsome ?_
    rw [List.eq_nil_iff_forall_not_mem]
    intro refId hlisted
    have hold := hsheds.listed refId hlisted
    rw [hnone] at hold
    cases hold

end StagedQueue

end PycloudParallel.JobQueue
