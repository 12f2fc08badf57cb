import PycloudParallel.JobQueueOperations

/-!
# The scheduler threads and the whole job queue

`_loop`, `_run_job` and `_run_job_with_hooks`, cut at their lock-protected
sections and at the calls whose outcome the outside world decides: every such
call may return or raise.  `step` interleaves the scheduler threads with the
public operations and with running `close` calls.
-/

namespace PycloudParallel.JobQueue

/-- A move of a scheduler thread.  `advance` is the next local step or lock
section, with the time it reads and the outcome of the preview refresh if it
makes one; the other moves carry the outcome of the call in front of which the
thread stands. -/
inductive SchedulerMove (V : Type)
  | advance (now : Nat) (preview : Except PyExc Unit)
  | resolvePayload (answer : Except PyExc (Option (JobPayload V)))
  | readFields (answer : Except PyExc Unit)
  | readBlob (answer : Except PyExc Bool)
  | call (answer : Except PyExc Unit)
  | prepareGlobals (answer : Except PyExc Bool)
  | generateTasks (answer : Except PyExc V)
  | nextResult (answer : Except PyExc (Option (Nat × V)))
  | handleResult (answer : Except PyExc V)
  | callFinalize (answer : Except PyExc (Option V))
  | finallyBlock (answer : Except PyExc Unit)
  | exit

inductive JobQueueLabel (V : Type)
  | submit (payload : JobPayload V) (generatedId generatedClient : String)
      (digest : String) (now : Nat)
  | getJob
  | summary
  | cancel (jobId : JobId) (digest : String) (now : Nat)
  | reorder (jobId : JobId) (direction : JobQueueManager.MoveDirection)
  | start (target : String)
  | close (now : Nat)
  | closeStep (index : Nat) (now : Nat)
  | refWork (index : Nat) (now : Nat)
  | scheduler (tid : ThreadId) (move : SchedulerMove V)

variable {V : Type}

namespace JobQueueManager

variable (m : JobQueueManager V)

/-- The wait loop at the top of `_loop`: `none` while it has to wait for the
running job, otherwise the state in which the rest of the section runs. -/
def waitForRunning : Option (JobQueueManager V) :=
  match m.runningJobId with
  | none => some m
  | some current =>
    match m.entry current with
    | none => some m.clearRunning
    | some (_, job) =>
      if job.status.terminal then some m.clearRunning
      else none

def markPicked (ref : JobRef) (jobId : JobId) (now : Nat) : JobQueueManager V :=
  let marked := m.modifyRef ref fun job =>
    { job with
      status := .running
      startedAt := some now
      checkpoint := some .preparing }
  { marked.removeWaitingJob jobId with
    runningJobId := some jobId
    log := m.log ++ [.picked ref] }

def loopSection (tid : ThreadId) (now : Nat) : JobQueueManager V :=
  if m.stop then m.setPhase tid .exited
  else
    match m.waitForRunning with
    | none => m
    | some ready =>
      let (cleaned, releases) := ready.cleanupJobs now
      match cleaned.refsToTouch now cleaned.jobStates with
      | none => cleaned.setPhase tid .exited
      | some touches =>
        match cleaned.pickNextJob with
        | (pruned, none) =>
          pruned.setPhase tid (.dispatch (releases ++ touches) none)
        | (pruned, some (ref, job)) =>
          (pruned.markPicked ref job.jobId now).setPhase tid
            (.dispatch (releases ++ touches) (some (job.jobId, ref)))

/-- One `_maintenance_executor.submit(…)` after the section, or the end of the
dispatch.  `submit` raises once the executor is shut down. -/
def dispatchStep (tid : ThreadId) (work : List RefWork)
    (next : Option (JobId × JobRef)) : JobQueueManager V :=
  match work with
  | first :: rest =>
    if m.maintenanceShutdown then m.setPhase tid .exited
    else (m.pushRefWork first).setPhase tid (.dispatch rest next)
  | [] =>
    match next with
    | none => m.setPhase tid .loop
    | some (jobId, ref) => m.setPhase tid (.enter jobId ref)

def logEvent (event : JobEvent V) : JobQueueManager V :=
  { m with log := m.log ++ [event] }

def endRun (tid : ThreadId) (jobId : JobId) (ref : JobRef) :
    JobQueueManager V :=
  (m.logEvent (.returned jobId ref)).setPhase tid (.afterRun jobId)

def recordEscape (ref : JobRef) : JobQueueManager V :=
  { m with escaped := m.escaped ++ [ref] }

/-- An exception leaves `_run_job` and ends the thread. -/
def escape (tid : ThreadId) (run : RunLocals V) : JobQueueManager V :=
  (m.recordEscape run.ref).setPhase tid .exited

def enterRun (tid : ThreadId) (jobId : JobId) (ref : JobRef) :
    JobQueueManager V :=
  match m.entry jobId with
  | none => m.endRun tid jobId ref
  | some (_, job) =>
    (m.logEvent (.executed ref)).setPhase tid
      (.running
        { ref := ref, jobId := jobId, snapshot := job.payload,
          payload := job.payload }
        .markResolving)

def setPoint (tid : ThreadId) (run : RunLocals V) (point : RunPoint V) :
    JobQueueManager V :=
  m.setPhase tid (.running run point)

def setHook (tid : ThreadId) (run : RunLocals V) (point : HookPoint V) :
    JobQueueManager V :=
  m.setPoint tid run (.hook point)

def setCheckpoint (jobId : JobId) (phase : CheckpointPhase) :
    JobQueueManager V :=
  m.modifyEntry jobId fun job => { job with checkpoint := some phase }

/-- A terminal write of a run into the object that `_jobs[job_id]` holds. -/
def writeTerminal (run : RunLocals V) (target : JobRef)
    (written : JobState V) : JobQueueManager V :=
  { m with
    heap := Function.update m.heap target (some written)
    log := m.log ++ [.finished run target written] }

/-- The handler of a failed reference resolution.  It assigns to the entry
without testing it. -/
def resolveFailedSection (tid : ThreadId) (run : RunLocals V) (exc : PyExc)
    (now : Nat) : JobQueueManager V :=
  match m.entry run.jobId with
  | none => m.escape tid run
  | some (target, job) =>
    let failed := { job with status := .failed, finishedAt := some now }
    match exc.text with
    | none => (m.writeTerminal run target failed).escape tid run
    | some text =>
      (m.writeTerminal run target { failed with error := text }).endRun
        tid run.jobId run.ref

def missingHooksSection (tid : ThreadId) (run : RunLocals V) (now : Nat)
    (preview : Except PyExc Unit) : JobQueueManager V :=
  match m.entry run.jobId with
  | none => m.endRun tid run.jobId run.ref
  | some (target, job) =>
    let written := m.writeTerminal run target
      { job with
        status := .failed
        finishedAt := some now
        error := "job submit requires hook mode" }
    match preview with
    | .error _ => written.escape tid run
    | .ok () => written.endRun tid run.jobId run.ref

def missingBlobSection (tid : ThreadId) (run : RunLocals V) (now : Nat) :
    JobQueueManager V :=
  match m.entry run.jobId with
  | none => m.endRun tid run.jobId run.ref
  | some (target, job) =>
    (m.writeTerminal run target
      { job with
        status := .failed
        finishedAt := some now
        error := "job hook mode requires blob_b64/blob_ref" }).endRun
      tid run.jobId run.ref

def writebackSection (tid : ThreadId) (run : RunLocals V)
    (results : List (RenderedResult V)) (final : V) (now : Nat)
    (preview : Except PyExc Unit) : JobQueueManager V :=
  match m.entry run.jobId with
  | none => m.setPoint tid run (.finallyBlock false)
  | some (target, job) =>
    let written := m.writeTerminal run target
      { job with
        results := results
        finalResult := some final
        finishedAt := some now
        status := if job.cancelRequested then .cancelled else .succeeded
        checkpoint := some .terminalDone }
    match preview with
    | .error exc => written.setPoint tid run (.hooksFailed exc)
    | .ok () => written.setPoint tid run (.finallyBlock false)

/-- The `except Exception` clause of `_run_job_with_hooks`. -/
def hooksFailedSection (tid : ThreadId) (run : RunLocals V) (exc : PyExc)
    (now : Nat) (preview : Except PyExc Unit) : JobQueueManager V :=
  match m.entry run.jobId with
  | none => m.setPoint tid run (.finallyBlock false)
  | some (target, job) =>
    let failed := { job with status := .failed, finishedAt := some now }
    match exc.text with
    | none =>
      (m.writeTerminal run target failed).setPoint tid run
        (.finallyBlock true)
    | some text =>
      let written := m.writeTerminal run target { failed with error := text }
      match preview with
      | .error _ => written.setPoint tid run (.finallyBlock true)
      | .ok () => written.setPoint tid run (.finallyBlock false)

/-- The end of the result stream: `finalize` is called when it is named. -/
def afterStream (tid : ThreadId) (run : RunLocals V)
    (results : List (RenderedResult V)) (state : V) : JobQueueManager V :=
  if run.payload.finalizeCallable == "" then
    m.setHook tid run (.markWriteback results state)
  else m.setHook tid run (.markFinalize results state)

/-- The section of the result loop that reads `cancel_requested`. -/
def checkCancelSection (tid : ThreadId) (run : RunLocals V)
    (results : List (RenderedResult V)) (state : V) (index : Nat) (result : V) :
    JobQueueManager V :=
  if (m.entry run.jobId).any fun item => item.2.cancelRequested then
    m.afterStream tid run results state
  else
    m.setHook tid run (.handleResult
      (results ++ [{ index := index, jobId := run.jobId, result := result }])
      state)

/-- Continue with the value of a call inside the `try` block, or go to its
handler. -/
def tryCall {α : Type} (tid : ThreadId) (run : RunLocals V)
    (answer : Except PyExc α) (next : α → JobQueueManager V) :
    JobQueueManager V :=
  match answer with
  | .error exc => m.setPoint tid run (.hooksFailed exc)
  | .ok value => next value

/-- Continue with the value of a call outside any `try` block, or let the
exception escape. -/
def bareCall {α : Type} (tid : ThreadId) (run : RunLocals V)
    (answer : Except PyExc α) (next : α → JobQueueManager V) :
    JobQueueManager V :=
  match answer with
  | .error _ => m.escape tid run
  | .ok value => next value

/-- The body of the `try` block of `_run_job_with_hooks`. -/
def hookStep (tid : ThreadId) (run : RunLocals V) (point : HookPoint V)
    (move : SchedulerMove V) : Option (JobQueueManager V) :=
  match point, move with
  | .loadModule, .call answer =>
    some (m.tryCall tid run answer fun _ => m.setHook tid run .prepareGlobals)
  | .prepareGlobals, .prepareGlobals answer =>
    some (m.tryCall tid run answer fun fanout =>
      m.setHook tid run (.preparePool fanout))
  | .preparePool fanout, .call answer =>
    some (m.tryCall tid run answer fun _ =>
      m.setHook tid run (if fanout then .markFanout else .generateTasks))
  | .markFanout, .advance _ _ =>
    some ((m.setCheckpoint run.jobId .fanoutGlobals).setHook tid run
      .fanoutGlobals)
  | .fanoutGlobals, .call answer =>
    some (m.tryCall tid run answer fun _ => m.setHook tid run .generateTasks)
  | .generateTasks, .generateTasks answer =>
    some (m.tryCall tid run answer fun state =>
      m.setHook tid run (.markRunning state))
  | .markRunning state, .advance _ _ =>
    some ((m.setCheckpoint run.jobId .runningTasks).setHook tid run
      (.nextResult [] state))
  | .nextResult results state, .nextResult answer =>
    some (m.tryCall tid run answer fun item =>
      match item with
      | none => m.afterStream tid run results state
      | some (index, result) =>
        m.setHook tid run (.checkCancel results state index result))
  | .checkCancel results state index result, .advance _ _ =>
    some (m.checkCancelSection tid run results state index result)
  | .handleResult results _, .handleResult answer =>
    some (m.tryCall tid run answer fun state =>
      m.setHook tid run (.nextResult results state))
  | .markFinalize results state, .advance _ _ =>
    some ((m.setCheckpoint run.jobId .finalize).setHook tid run
      (.callFinalize results state))
  | .callFinalize results state, .callFinalize answer =>
    some (m.tryCall tid run answer fun finalized =>
      m.setHook tid run (.markWriteback results (finalized.getD state)))
  | .markWriteback results final, .advance _ _ =>
    some ((m.setCheckpoint run.jobId .terminalWriteback).setHook tid run
      (.writeback results final))
  | .writeback results final, .advance now preview =>
    some (m.writebackSection tid run results final now preview)
  | _, _ => none

def runStep (tid : ThreadId) (run : RunLocals V) (point : RunPoint V)
    (move : SchedulerMove V) : Option (JobQueueManager V) :=
  match point, move with
  | .markResolving, .advance _ _ =>
    some ((m.setCheckpoint run.jobId .resolvingRefs).setPoint tid run
      .resolving)
  | .resolving, .resolvePayload answer =>
    match answer with
    | .error exc => some (m.setPoint tid run (.resolveFailed exc))
    | .ok resolved =>
      some (m.setPoint tid
        { run with payload := resolved.getD run.payload } .markSelecting)
  | .markSelecting, .advance _ _ =>
    some ((m.setCheckpoint run.jobId .selectingNodes).setPoint tid run
      .chooseMode)
  | .resolveFailed exc, .advance now _ =>
    some (m.resolveFailedSection tid run exc now)
  | .chooseMode, .readFields answer =>
    some (m.bareCall tid run answer fun _ =>
      m.setPoint tid run
        (if usesJobHooks run.payload then .sourceMode else .missingHooks))
  | .missingHooks, .advance now preview =>
    some (m.missingHooksSection tid run now preview)
  | .sourceMode, .readFields answer =>
    some (m.bareCall tid run answer fun _ =>
      m.setPoint tid run
        (if isLocalModuleImportJob run.payload m.controlplaneTarget then
          .readFields else .readBlob))
  | .readBlob, .readBlob answer =>
    some (m.bareCall tid run answer fun nonempty =>
      m.setPoint tid run (if nonempty then .readFields else .missingBlob))
  | .missingBlob, .advance now _ => some (m.missingBlobSection tid run now)
  | .readFields, .readFields answer =>
    some (m.bareCall tid run answer fun _ => m.setHook tid run .loadModule)
  | .hook hookPoint, move => m.hookStep tid run hookPoint move
  | .hooksFailed exc, .advance now preview =>
    some (m.hooksFailedSection tid run exc now preview)
  | .finallyBlock pending, .finallyBlock answer =>
    some (m.bareCall tid run answer fun _ =>
      if pending then m.escape tid run
      else m.endRun tid run.jobId run.ref)
  | _, _ => none

/-- `get_job` after the run and the test of the state it returns. -/
def afterRunStep (tid : ThreadId) (jobId : JobId) : JobQueueManager V :=
  let looked := m.getJob
  match looked.entry jobId with
  | none => looked.setPhase tid .tail
  | some (ref, job) =>
    if job.status.terminal then looked.setPhase tid (.releaseRefs ref)
    else looked.setPhase tid .tail

/-- The last section of `_loop`: it clears `_running_job_id` whatever it
is. -/
def tailSection (tid : ThreadId) : JobQueueManager V :=
  m.clearRunning.setPhase tid .loop

def schedulerStep (tid : ThreadId) (move : SchedulerMove V) :
    Option (JobQueueManager V) :=
  match m.threads[tid]? with
  | none => none
  | some phase =>
    match phase, move with
    | .loop, .advance now _ => some (m.loopSection tid now)
    | .dispatch work next, .advance _ _ =>
      some (m.dispatchStep tid work next)
    | .enter jobId ref, .advance _ _ => some (m.enterRun tid jobId ref)
    | .running run point, move => m.runStep tid run point move
    | .afterRun jobId, .advance _ _ => some (m.afterRunStep tid jobId)
    | .releaseRefs ref, .advance now _ =>
      some ((m.releaseJobRefs ref now).setPhase tid .tail)
    | .tail, .advance _ _ => some (m.tailSection tid)
    | .exited, .exit => some (m.setPhase tid .dead)
    | _, _ => none

/-- One atomic step of the job queue.  An operation that raises before it
changes anything leaves the state as it is. -/
def step (m : JobQueueManager V) (label : JobQueueLabel V) :
    Option (JobQueueManager V) :=
  match label with
  | .submit payload generatedId generatedClient digest now =>
    match m.submitJob payload generatedId generatedClient digest now with
    | .ok next => some next
    | .error _ => some m
  | .getJob => some m.getJob
  | .summary => some m.summary
  | .cancel jobId digest now =>
    match m.cancelJob jobId digest now with
    | .ok next => some next
    | .error _ => some m
  | .reorder jobId direction => some (m.reorderJob jobId direction)
  | .start target => some (m.start target)
  | .close now => some (m.closeBegin now)
  | .closeStep index now => m.closeStep index now
  | .refWork index now => m.refWorkStep index now
  | .scheduler tid move => m.schedulerStep tid move

theorem step_submit {m next : JobQueueManager V} {payload : JobPayload V}
    {generatedId generatedClient digest : String} {now : Nat}
    (hstep : m.step (.submit payload generatedId generatedClient digest now) =
      some next) :
    (∃ text, checkPayload payload = .error text ∧ next = m) ∨
      checkPayload payload = .ok () ∧
        next = m.submitSection payload generatedId generatedClient digest now := by
  simp only [step, submitJob] at hstep
  cases hcheck : checkPayload payload <;> rw [hcheck] at hstep <;> cases hstep
  · exact .inl ⟨_, rfl, rfl⟩
  · exact .inr ⟨rfl, rfl⟩

end JobQueueManager

def hookPayload (jobId : String) : JobPayload Nat where
  jobId := jobId
  clientId := "client"
  priority := 0
  jobMode := "hooks"
  taskGeneratorCallable := "task_generator"
  handleResultCallable := ""
  finalizeCallable := ""
  updateGlobals := ""
  policyId := ""
  taskpoolPolicyId := ""
  sourceMode := ""
  dataRefIds := []
  delayedRefsError := none
  stagingTtlSec := some 0
  body := 0

def submitHookJob (jobId : String) : JobQueueLabel Nat :=
  .submit (hookPayload jobId) "" "" "" 0

def advance (tid : ThreadId) : JobQueueLabel Nat :=
  .scheduler tid (.advance 0 (.ok ()))

def untilBlob (tid : ThreadId) : List (JobQueueLabel Nat) :=
  [advance tid, advance tid, advance tid, advance tid,
    .scheduler tid (.resolvePayload (.ok none)), advance tid,
    .scheduler tid (.readFields (.ok ())), .scheduler tid (.readFields (.ok ()))]

def afterBlob (tid : ThreadId) : List (JobQueueLabel Nat) :=
  [.scheduler tid (.readBlob (.ok true)), .scheduler tid (.readFields (.ok ())),
    .scheduler tid (.call (.ok ())), .scheduler tid (.prepareGlobals (.ok false)),
    .scheduler tid (.call (.ok ())), .scheduler tid (.generateTasks (.ok 0)),
    advance tid, .scheduler tid (.nextResult (.ok none)), advance tid,
    advance tid, .scheduler tid (.finallyBlock (.ok ()))]

end PycloudParallel.JobQueue
