import PycloudParallel.FoundationOrderedDict
import PycloudParallel.FoundationGuardedRun
import Mathlib.Data.List.Sort

/-!
# The job queue of the control plane

Data model of `JobQueueManager` and its lock-protected operations.  A
`JobState` object is identified by a `JobRef`: the table `_jobs` maps a job id
to the object it currently holds, and an object that a later submission
overwrote stays in `heap`, because a scheduler thread may still hold it.

Payload fields are kept as the source reads them, after
`str(… or "").strip()` and, for modes, `.lower()`.  Values of user code
(results, states, the business payload) are opaque and of type `V`.
Timing marks, previews, the summary cache and the shared task pool are not
part of the model: no status, result or scheduling decision reads them.
-/

namespace PycloudParallel.JobQueue

abbrev JobId := String
abbrev RefId := String
abbrev JobRef := Nat
abbrev ThreadId := Nat

/-- A Python exception, as far as the handlers look at it: `str(exc)`, or
`none` when `str(exc)` raises itself. -/
structure PyExc where
  text : Option String
deriving DecidableEq

inductive JobStatus
  | waiting
  | running
  | succeeded
  | failed
  | cancelled
deriving DecidableEq

/-- Membership in `{"SUCCEEDED", "FAILED", "CANCELLED"}`. -/
def JobStatus.terminal : JobStatus → Bool
  | .waiting => false
  | .running => false
  | .succeeded => true
  | .failed => true
  | .cancelled => true

inductive CheckpointPhase
  | preparing
  | resolvingRefs
  | selectingNodes
  | fanoutGlobals
  | runningTasks
  | finalize
  | terminalWriteback
  | terminalDone
deriving DecidableEq

structure JobPayload (V : Type) where
  jobId : String
  clientId : String
  priority : Nat
  jobMode : String
  taskGeneratorCallable : String
  handleResultCallable : String
  finalizeCallable : String
  updateGlobals : String
  policyId : String
  taskpoolPolicyId : String
  sourceMode : String
  /-- `_collect_payload_data_ref_ids` of the payload. -/
  dataRefIds : List RefId
  /-- The text that `_validate_delayed_resolve_refs` raises, if it does. -/
  delayedRefsError : Option String
  /-- `int(payload.get("staging_ttl_sec", 0) or 0)`, or `none` when `int`
  raises. -/
  stagingTtlSec : Option Nat
  /-- Every other field. -/
  body : V
deriving DecidableEq

def usesJobHooks {V : Type} (payload : JobPayload V) : Bool :=
  payload.jobMode == "hooks" ||
    [payload.taskGeneratorCallable, payload.handleResultCallable,
      payload.finalizeCallable, payload.updateGlobals].any (· != "")

/-- `_is_local_module_import_job`; the target is the value after
`.strip().lower()`. -/
def isLocalModuleImportJob {V : Type}
    (payload : JobPayload V) (controlplaneTarget : String) : Bool :=
  controlplaneTarget == "local" && payload.sourceMode == "module_import"

structure RenderedResult (V : Type) where
  index : Nat
  jobId : JobId
  result : V
deriving DecidableEq

structure JobState (V : Type) where
  jobId : JobId
  clientId : String
  priority : Nat
  status : JobStatus
  submittedAt : Nat
  startedAt : Option Nat
  finishedAt : Option Nat
  payload : JobPayload V
  checkpoint : Option CheckpointPhase
  cancelRequested : Bool
  error : String
  results : List (RenderedResult V)
  finalResult : Option V
  enqueueSeq : Nat
  ownerTokenDigest : String
  ownerTokenExpiresAt : Option Nat
  stagedRefIds : List RefId
  lastRefTouchAt : Option Nat
  payloadSchemaVersion : Nat
deriving DecidableEq

def JobState.pickable {V : Type} (job : JobState V) : Bool :=
  job.status == .waiting && !job.cancelRequested

/-- `key_state < key_other` for the keys
`(-priority, submitted_at, enqueue_seq, job_id)`. -/
def JobState.before {V : Type} (job other : JobState V) : Bool :=
  if job.priority != other.priority then other.priority < job.priority
  else if job.submittedAt != other.submittedAt then
    job.submittedAt < other.submittedAt
  else if job.enqueueSeq != other.enqueueSeq then
    job.enqueueSeq < other.enqueueSeq
  else job.jobId < other.jobId

/-- What a maintenance worker, or a caller that releases references, still has
to do for one job: `_touch_refs_for_job` or `_release_refs_for_job`. -/
inductive RefWork
  | touch (jobId : JobId) (refIds : List RefId)
  | release (jobId : JobId) (refIds : List RefId)
deriving DecidableEq

/-- The locals of one `_run_job` call: the object the loop picked, the id it
passes on, the payload copied at entry and the payload after resolution. -/
structure RunLocals (V : Type) where
  ref : JobRef
  jobId : JobId
  snapshot : JobPayload V
  payload : JobPayload V

/-- Program points inside the `try` block of `_run_job_with_hooks`. -/
inductive HookPoint (V : Type)
  | loadModule
  | prepareGlobals
  | preparePool (fanout : Bool)
  | markFanout
  | fanoutGlobals
  | generateTasks
  | markRunning (state : V)
  | nextResult (results : List (RenderedResult V)) (state : V)
  | checkCancel (results : List (RenderedResult V)) (state : V)
      (index : Nat) (result : V)
  | handleResult (results : List (RenderedResult V)) (state : V)
  | markFinalize (results : List (RenderedResult V)) (state : V)
  | callFinalize (results : List (RenderedResult V)) (state : V)
  | markWriteback (results : List (RenderedResult V)) (final : V)
  | writeback (results : List (RenderedResult V)) (final : V)

/-- Program points of `_run_job` and `_run_job_with_hooks` after the first
lock section.  `finallyBlock pending` is the `finally` clause; `pending` says
that an exception is in flight. -/
inductive RunPoint (V : Type)
  | markResolving
  | resolving
  | markSelecting
  | resolveFailed (exc : PyExc)
  | chooseMode
  | missingHooks
  | sourceMode
  | readBlob
  | missingBlob
  | readFields
  | hook (point : HookPoint V)
  | hooksFailed (exc : PyExc)
  | finallyBlock (pending : Bool)

/-- Where a scheduler thread is.  `exited` is a thread whose `_loop` has
returned or raised while `is_alive()` still holds, `dead` one for which it no
longer does. -/
inductive SchedulerPhase (V : Type)
  | loop
  | dispatch (work : List RefWork) (next : Option (JobId × JobRef))
  | enter (jobId : JobId) (ref : JobRef)
  | running (run : RunLocals V) (point : RunPoint V)
  | afterRun (jobId : JobId)
  | releaseRefs (ref : JobRef)
  | tail
  | exited
  | dead

/-- Where a caller of `close()` is after its first lock section. -/
inductive ClosePhase
  | joining
  | gather
  | release (states : List JobRef)
  | shutdown
deriving DecidableEq

/-- Ghost events: what happened to which object.  `finished` is a terminal
write of a run, with the object it wrote to and its value afterwards. -/
inductive JobEvent (V : Type)
  | submitted (ref : JobRef)
  | picked (ref : JobRef)
  | executed (ref : JobRef)
  | finished (run : RunLocals V) (target : JobRef) (written : JobState V)
  | returned (jobId : JobId) (ref : JobRef)

structure JobQueueManager (V : Type) where
  heap : JobRef → Option (JobState V)
  jobs : OrderedDict JobId JobRef
  waitingOrder : List JobId
  enqueueSeq : Nat
  runningJobId : Option JobId
  controlplaneTarget : String
  stop : Bool
  started : Bool
  thread : Option ThreadId
  maintenanceShutdown : Bool
  retentionSec : Nat
  authTtlSec : Nat
  stagedRefTtlSec : Nat
  refWork : List RefWork
  /-- The scheduler threads in the order they were started. -/
  threads : List (SchedulerPhase V)
  closing : List ClosePhase
  /-- Ghost: the events so far. -/
  log : List (JobEvent V)
  /-- Ghost: the objects whose `_run_job` let an exception escape into
  `_loop`. -/
  escaped : List JobRef

section Operations

variable {V : Type}

def JobQueueManager.init (retentionSec authTtlSec stagedRefTtlSec : Nat) :
    JobQueueManager V where
  heap := fun _ => none
  jobs := ∅
  waitingOrder := []
  enqueueSeq := 0
  runningJobId := none
  controlplaneTarget := ""
  stop := false
  started := false
  thread := none
  maintenanceShutdown := false
  retentionSec := max 60 retentionSec
  authTtlSec := authTtlSec
  stagedRefTtlSec := stagedRefTtlSec
  refWork := []
  threads := []
  closing := []
  log := []
  escaped := []

namespace JobQueueManager

variable (m : JobQueueManager V)

/-- `self._jobs.get(job_id)`, as the object it returns. -/
def entry (jobId : JobId) : Option (JobRef × JobState V) :=
  (m.jobs.lookup jobId).bind fun ref => (m.heap ref).map fun job => (ref, job)

/-- `self._jobs.values()` with the object identities. -/
def jobStates : List (JobRef × JobState V) :=
  (OrderedDict.values m.jobs).filterMap fun ref =>
    (m.heap ref).map fun job => (ref, job)

def modifyRef (ref : JobRef) (change : JobState V → JobState V) :
    JobQueueManager V :=
  { m with
    heap := Function.update m.heap ref ((m.heap ref).map change) }

/-- `state = self._jobs.get(job_id)`, then assign if it is not `None`. -/
def modifyEntry (jobId : JobId) (change : JobState V → JobState V) :
    JobQueueManager V :=
  match m.jobs.lookup jobId with
  | none => m
  | some ref => m.modifyRef ref change

def setPhase (tid : ThreadId) (phase : SchedulerPhase V) : JobQueueManager V :=
  { m with threads := m.threads.set tid phase }

def setWaitingOrder (order : List JobId) : JobQueueManager V :=
  { m with waitingOrder := order }

def clearRunning : JobQueueManager V :=
  { m with runningJobId := none }

def threadAlive : Bool :=
  match m.thread.bind fun tid => m.threads[tid]? with
  | none => false
  | some .dead => false
  | some _ => true

/-- `threading.Thread(target=self._loop)` and `start()` -/
def spawnThread : JobQueueManager V :=
  { m with
    thread := some m.threads.length
    threads := m.threads ++ [.loop] }

def detachStaleRunning : JobQueueManager V :=
  match m.runningJobId with
  | none => m
  | some current =>
    match m.entry current with
    | none => m.clearRunning
    | some (_, job) =>
      if job.status.terminal then m.clearRunning else m

def ensureSchedulerThread : JobQueueManager V :=
  if m.stop || !m.started || m.controlplaneTarget == "" then m
  else if m.threadAlive then m
  else m.spawnThread

def pickableId (jobId : JobId) : Bool :=
  match m.entry jobId with
  | none => false
  | some (_, job) => job.pickable

/-- The loop of `_prune_waiting_order_locked`, with `seen` so far. -/
def pruneFrom : List JobId → List JobId → List JobId
  | _, [] => []
  | seen, jobId :: rest =>
    if jobId ∈ seen then pruneFrom seen rest
    else if m.pickableId jobId then jobId :: pruneFrom (jobId :: seen) rest
    else pruneFrom (jobId :: seen) rest

def pruneWaitingOrder : JobQueueManager V :=
  m.setWaitingOrder (m.pruneFrom [] m.waitingOrder)

/-- The position search of `_insert_waiting_job_locked`: before the first job
of a greater key, at the end if there is none. -/
def insertByKey (job : JobState V) : List JobId → List JobId
  | [] => [job.jobId]
  | other :: rest =>
    match m.entry other with
    | none => other :: insertByKey job rest
    | some (_, otherJob) =>
      if job.before otherJob then job.jobId :: other :: rest
      else other :: insertByKey job rest

def insertWaitingJob (job : JobState V) : JobQueueManager V :=
  let pruned := m.pruneWaitingOrder
  pruned.setWaitingOrder (pruned.insertByKey job pruned.waitingOrder)

def removeWaitingJob (jobId : JobId) : JobQueueManager V :=
  m.setWaitingOrder (m.waitingOrder.filter (· != jobId))

/-- The entries of the table that `_pick_next_job_locked` sorts. -/
def waitingJobs : List (JobRef × JobState V) :=
  m.jobStates.filter fun item => item.2.pickable

/-- The fallback of `_pick_next_job_locked`: sort by key. -/
def sortedWaiting : List (JobRef × JobState V) :=
  m.waitingJobs.insertionSort fun a b => a.2.before b.2

def pickNextJob : JobQueueManager V × Option (JobRef × JobState V) :=
  let pruned := m.pruneWaitingOrder
  match pruned.waitingOrder.findSome? fun jobId =>
      (pruned.entry jobId).filter fun item => item.2.pickable with
  | some item => (pruned, some item)
  | none =>
    match pruned.sortedWaiting with
    | [] => (pruned, none)
    | item :: rest =>
      (pruned.setWaitingOrder
          ((item :: rest).map fun entry => entry.2.jobId),
        some item)

/-- The expiry test of `_cleanup_jobs_locked`. -/
def expired (now : Nat) (job : JobState V) : Bool :=
  job.status.terminal &&
    (job.finishedAt.getD job.submittedAt + m.retentionSec < now)

/-- `_remove_waiting_job_locked` and `self._jobs.pop(job_id, None)`. -/
def popJob (jobId : JobId) : JobQueueManager V :=
  { m.removeWaitingJob jobId with jobs := m.jobs.erase jobId }

/-- `_cleanup_jobs_locked` for the ids collected in `expired`. -/
def dropJobs : JobQueueManager V → List (JobId × JobRef) → JobQueueManager V
  | m, [] => m
  | m, (jobId, _) :: rest => dropJobs (m.popJob jobId) rest

/-- The ids (and objects) that `_cleanup_jobs_locked` pops. -/
def expiredJobs (now : Nat) : List (JobId × JobRef) :=
  (OrderedDict.items m.jobs).filter fun item =>
    match m.heap item.2 with
    | none => false
    | some job => m.expired now job

/-- `_cleanup_jobs_locked` and the `refs_to_release` that `_loop` builds from
its result. -/
def cleanupJobs (now : Nat) : JobQueueManager V × List RefWork :=
  let gone := m.expiredJobs now
  (m.dropJobs gone,
    gone.filterMap fun item =>
      match m.heap item.2 with
      | none => none
      | some job =>
        if job.stagedRefIds.isEmpty then none
        else some (.release job.jobId job.stagedRefIds))

/-- `_job_ref_touch_interval_sec`, in thirds of a second; `none` when reading
`staging_ttl_sec` raises. -/
def refTouchInterval (job : JobState V) : Option Nat :=
  job.payload.stagingTtlSec.map fun value =>
    let ttl := max 1 (if value == 0 then m.stagedRefTtlSec else value)
    max 3 (min ttl 900)

/-- Whether `_jobs_needing_ref_touch_locked` selects the job; `none` when it
raises. -/
def needsRefTouch (now : Nat) (job : JobState V) : Option Bool :=
  if !job.pickable || job.stagedRefIds.isEmpty then some false
  else (m.refTouchInterval job).map fun interval =>
    decide (interval ≤ 3 * (now - job.lastRefTouchAt.getD job.submittedAt))

/-- `_jobs_needing_ref_touch_locked` and the `refs_to_touch` of `_loop`. -/
def refsToTouch (now : Nat) : List (JobRef × JobState V) → Option (List RefWork)
  | [] => some []
  | (_, job) :: rest =>
    match m.needsRefTouch now job with
    | none => none
    | some due =>
      (refsToTouch now rest).map fun work =>
        if due then .touch job.jobId job.stagedRefIds :: work else work

end JobQueueManager

end Operations

end PycloudParallel.JobQueue
