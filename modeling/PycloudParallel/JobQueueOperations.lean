import PycloudParallel.JobQueueModel

/-!
# Public operations of the job queue

`submit_job`, `get_job`, `summary`, `cancel_job`, `reorder_job`, `start` and
`close`, and the reference work they leave to maintenance workers.  Each
definition is one lock-protected section of the source; `close` is cut into the
sections it goes through.
-/

namespace PycloudParallel.JobQueue

variable {V : Type}

namespace JobQueueManager

variable (m : JobQueueManager V)

/-- The checks of `submit_job` before the lock, in order. -/
def checkPayload (payload : JobPayload V) : Except String Unit :=
  if payload.policyId != "" || payload.taskpoolPolicyId != "" then
    .error "job submit policy_id/taskpool_policy_id is not supported; policy is owned by startup node/deployment"
  else if !usesJobHooks payload then
    .error "job submit requires hook mode; use JobQueue.submit(source=...) or provide job_mode='hooks' with task_generator_callable"
  else
    match payload.delayedRefsError with
    | some text => .error text
    | none => .ok ()

/-- The id `submit_job` uses: the payload's, or a fresh `jobq-…` one. -/
def submittedJobId (payload : JobPayload V) (generatedId : String) : JobId :=
  if payload.jobId == "" then generatedId else payload.jobId

def newJobState (payload : JobPayload V) (generatedId generatedClient : String)
    (digest : String) (now : Nat) : JobState V where
  jobId := submittedJobId payload generatedId
  clientId := if payload.clientId == "" then generatedClient else payload.clientId
  priority := payload.priority
  status := .waiting
  submittedAt := now
  startedAt := none
  finishedAt := none
  payload := payload
  checkpoint := none
  cancelRequested := false
  error := ""
  results := []
  finalResult := none
  enqueueSeq := m.enqueueSeq + 1
  ownerTokenDigest := digest
  ownerTokenExpiresAt := if digest == "" then none else some (now + m.authTtlSec)
  stagedRefIds := payload.dataRefIds
  lastRefTouchAt := if payload.dataRefIds.isEmpty then none else some now
  payloadSchemaVersion := if payload.dataRefIds.isEmpty then 1 else 2

def storeJob (job : JobState V) : JobQueueManager V :=
  { m with
    heap := Function.update m.heap job.enqueueSeq (some job)
    jobs := OrderedDict.set m.jobs job.jobId job.enqueueSeq
    enqueueSeq := job.enqueueSeq
    log := m.log ++ [.submitted job.enqueueSeq] }

def submitSection (payload : JobPayload V) (generatedId generatedClient : String)
    (digest : String) (now : Nat) : JobQueueManager V :=
  let detached := m.detachStaleRunning
  let job := detached.newJobState payload generatedId generatedClient digest now
  ((detached.storeJob job).insertWaitingJob job).ensureSchedulerThread

def submitJob (payload : JobPayload V) (generatedId generatedClient : String)
    (digest : String) (now : Nat) : Except String (JobQueueManager V) := do
  checkPayload payload
  return m.submitSection payload generatedId generatedClient digest now

/-- The section shared by `get_job` and `summary`. -/
def detachAndEnsure : JobQueueManager V :=
  let detached := m.detachStaleRunning
  if detached.jobStates.any fun item => item.2.pickable then
    detached.ensureSchedulerThread
  else detached

/-- `get_job`; the value it returns is `entry` of the result. -/
def getJob : JobQueueManager V := m.detachAndEnsure

/-- `summary`; the figures it computes are not part of the state. -/
def summary : JobQueueManager V := m.detachAndEnsure

/-- The owner-token guard of `cancel_job`. -/
def checkOwnerToken (job : JobState V) (digest : String) (now : Nat) :
    Except String Unit :=
  if job.ownerTokenDigest == "" then .ok ()
  else if job.ownerTokenExpiresAt.any (· < now) then
    .error "cancel auth expired"
  else if digest == "" || digest != job.ownerTokenDigest then
    .error "cancel auth failed"
  else .ok ()

def pushRefWork (work : RefWork) : JobQueueManager V :=
  { m with refWork := m.refWork ++ [work] }

/-- The lock section of `cancel_job`; the reference release that follows for a
waiting job is left as reference work. -/
def cancelJob (jobId : JobId) (digest : String) (now : Nat) :
    Except String (JobQueueManager V) :=
  match m.entry jobId with
  | none => .ok m
  | some (ref, job) =>
    match checkOwnerToken job digest now with
    | .error text => .error text
    | .ok () =>
      match job.status with
      | .waiting =>
        let cancelled := m.modifyRef ref fun job =>
          { job with
            status := .cancelled
            finishedAt := some now
            cancelRequested := true }
        .ok ((cancelled.removeWaitingJob job.jobId).pushRefWork
          (.release job.jobId job.stagedRefIds))
      | .running =>
        .ok (m.modifyRef ref fun job => { job with cancelRequested := true })
      | .succeeded | .failed | .cancelled => .ok m

/-- The `direction` of `reorder_job` after `.strip().lower()`. -/
inductive MoveDirection
  | up
  | down
  | other
deriving DecidableEq

def moveUp (jobId : JobId) : List JobId → List JobId
  | [] => []
  | [a] => [a]
  | a :: b :: rest =>
    if a = jobId then a :: b :: rest
    else if b = jobId then b :: a :: rest
    else a :: moveUp jobId (b :: rest)

def moveDown (jobId : JobId) : List JobId → List JobId
  | [] => []
  | [a] => [a]
  | a :: b :: rest =>
    if a = jobId then b :: a :: rest
    else a :: moveDown jobId (b :: rest)

/-- `reorder_job`.  A wrong direction raises after the pruning and the
insertion, whose effects stay. -/
def reorderJob (jobId : JobId) (direction : MoveDirection) : JobQueueManager V :=
  match m.entry jobId with
  | none => m
  | some (_, job) =>
    if !job.pickable then m
    else
      let pruned := m.pruneWaitingOrder
      let listed :=
        if jobId ∈ pruned.waitingOrder then pruned
        else pruned.insertWaitingJob job
      match direction with
      | .up => listed.setWaitingOrder (moveUp jobId listed.waitingOrder)
      | .down => listed.setWaitingOrder (moveDown jobId listed.waitingOrder)
      | .other => listed

def setTarget (target : String) : JobQueueManager V :=
  { m with controlplaneTarget := target, started := true }

def clearStop : JobQueueManager V :=
  { m with stop := false }

def start (target : String) : JobQueueManager V :=
  if m.threadAlive then m.setTarget target
  else (m.setTarget target).clearStop.spawnThread

def closeJob (now : Nat) (job : JobState V) : JobState V :=
  if job.status = .waiting then
    { job with
      cancelRequested := true
      status := .cancelled
      finishedAt := some (job.finishedAt.getD now) }
  else job

/-- `_stop`, `_started` and the loop over the table in `close`. -/
def stopAndCancel (now : Nat) : JobQueueManager V :=
  { m with
    stop := true
    started := false
    heap := fun ref =>
      if ref ∈ OrderedDict.values m.jobs then (m.heap ref).map (closeJob now)
      else m.heap ref }

def cancelRunning : JobQueueManager V :=
  match m.runningJobId with
  | none => m
  | some current =>
    m.modifyEntry current fun job => { job with cancelRequested := true }

def pushClosing (phase : ClosePhase) : JobQueueManager V :=
  { m with closing := m.closing ++ [phase] }

def closeBegin (now : Nat) : JobQueueManager V :=
  ((m.stopAndCancel now).cancelRunning).pushClosing .joining

/-- The lock section of `_touch_refs_for_job` (at least one touch succeeded)
or of `_release_refs_for_job`. -/
def applyRefWork (work : RefWork) (now : Nat) : JobQueueManager V :=
  match work with
  | .touch jobId refIds =>
    if m.controlplaneTarget == "" || refIds.isEmpty then m
    else m.modifyEntry jobId fun job => { job with lastRefTouchAt := some now }
  | .release jobId refIds =>
    if m.controlplaneTarget == "" || refIds.isEmpty then m
    else m.modifyEntry jobId fun job =>
      { job with stagedRefIds := job.stagedRefIds.filter (· ∉ refIds) }

def releaseJobRefs (ref : JobRef) (now : Nat) : JobQueueManager V :=
  match m.heap ref with
  | none => m
  | some job => m.applyRefWork (.release job.jobId job.stagedRefIds) now

def clearThread : JobQueueManager V :=
  { m with thread := none }

def setClosing (index : Nat) (phase : ClosePhase) : JobQueueManager V :=
  { m with closing := m.closing.set index phase }

/-- The next step of the `index`-th running `close` call.  The join before
`self._thread = None` is bounded, so the old thread may still be there. -/
def closeStep (index : Nat) (now : Nat) : Option (JobQueueManager V) :=
  match m.closing[index]? with
  | none => none
  | some .joining => some (m.clearThread.setClosing index .gather)
  | some .gather =>
    some (m.setClosing index (.release (m.jobStates.filterMap fun item =>
      if item.2.stagedRefIds.isEmpty then none else some item.1)))
  | some (.release []) => some (m.setClosing index .shutdown)
  | some (.release (ref :: rest)) =>
    some ((m.releaseJobRefs ref now).setClosing index (.release rest))
  | some .shutdown =>
    some { m with
      maintenanceShutdown := true
      closing := m.closing.eraseIdx index }

def dropRefWork (index : Nat) : JobQueueManager V :=
  { m with refWork := m.refWork.eraseIdx index }

/-- A worker, or the caller of `cancel_job`, finishes one piece of reference
work. -/
def refWorkStep (index : Nat) (now : Nat) : Option (JobQueueManager V) :=
  match m.refWork[index]? with
  | none => none
  | some work =>
    some ((m.dropRefWork index).applyRefWork work now)

end JobQueueManager

end PycloudParallel.JobQueue
