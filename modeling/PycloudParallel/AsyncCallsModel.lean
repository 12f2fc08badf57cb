import PycloudParallel.FoundationGuardedRun
import PycloudParallel.FoundationParties

/-!
# Asynchronous calls of one service handle

`acall_balanced` and `acall_all` hand their remote calls to one executor of
threads, which the next call to find another computed capacity replaces.  The
event loop runs one coroutine at a time between two awaits; the threads of the
executors run beside it.  `shutdown` is the one that knows `cancel_futures`.
-/

namespace PycloudParallel.AsyncCalls

abbrev Outcome := Except ℕ ℕ

inductive TaskStatus
  | queued
  | running
  | finished (outcome : Outcome)
  | cancelled
deriving DecidableEq

structure RemoteTask where
  owner : ℕ
  executor : ℕ
  status : TaskStatus
  /-- Ghost: how often the call has been run. -/
  runs : ℕ
  /-- Ghost: the largest capacity in force since the call runs. -/
  largest : ℕ
  /-- Ghost: the callers that have got an outcome, with the outcome. -/
  delivered : List (ℕ × Outcome)
deriving DecidableEq

/-- Where a coroutine is: in front of its semaphore, with a permit of it, waiting
for a remote call, or over. -/
inductive CallPhase
  | waiting
  | inside
  | awaiting (task : ℕ)
  | ended
deriving DecidableEq

/-- A call of `acall_balanced`, or one `_call_single` of an `acall_all`. -/
structure Caller where
  semaphore : ℕ
  /-- How many remote calls it may still make. -/
  tries : ℕ
  phase : CallPhase
deriving DecidableEq

structure Gate where
  semaphore : ℕ
  capacity : ℕ
deriving DecidableEq

structure ServiceHandle where
  /-- What `_default_max_in_flight` computes now. -/
  capacity : ℕ
  gate : Option Gate
  /-- The free permits of every semaphore. -/
  semaphores : List ℕ
  /-- The `max_workers` of every executor, the one in use last. -/
  executors : List ℕ
  tasks : List RemoteTask
  callers : List Caller
deriving DecidableEq

inductive CallLabel
  | computeCapacity (maxInFlight : ℕ)
  | acallBalanced (tries : ℕ)
  | acallAll (maxConcurrency : ℕ) (calls : ℕ)
  | enter (caller : ℕ)
  | handOver (caller : ℕ)
  | run (task : ℕ)
  | finish (task : ℕ) (outcome : Outcome)
  | resume (caller : ℕ) (again : Bool)
  | leave (caller : ℕ)

/-- The remote call is run by a thread of executor `first` or of a later one. -/
def RemoteTask.runningFrom (first : ℕ) (task : RemoteTask) : ℕ :=
  if task.status = .running ∧ first ≤ task.executor then 1 else 0

/-- What happens to a remote call when executor `old` is replaced: `shutdown`
cancels what its threads have not taken yet. -/
def RemoteTask.replaced (old capacity : ℕ) (task : RemoteTask) : RemoteTask :=
  match task.status with
  | .queued => if task.executor = old then { task with status := .cancelled } else task
  | .running => { task with largest := max task.largest capacity }
  | .finished _ | .cancelled => task

namespace ServiceHandle

variable (s : ServiceHandle)

def init (maxInFlight : ℕ) : ServiceHandle where
  capacity := max 1 maxInFlight
  gate := none
  semaphores := []
  executors := []
  tasks := []
  callers := []

def renewGate : ServiceHandle :=
  { s with
    gate := some ⟨s.semaphores.length, s.capacity⟩
    semaphores := s.semaphores ++ [s.capacity] }

/-- `_get_async_call_gate`: the handle afterwards and the semaphore to enter by. -/
def getAsyncCallGate : ServiceHandle × ℕ :=
  match s.gate with
  | none => (s.renewGate, s.semaphores.length)
  | some gate =>
    if gate.capacity = s.capacity then (s, gate.semaphore)
    else (s.renewGate, s.semaphores.length)

def acallBalanced (tries : ℕ) : ServiceHandle :=
  let (handle, semaphore) := s.getAsyncCallGate
  { handle with callers := handle.callers ++ [⟨semaphore, max 1 tries, .waiting⟩] }

def acallAll (maxConcurrency calls : ℕ) : ServiceHandle :=
  { s with
    semaphores := s.semaphores ++ [maxConcurrency]
    callers := s.callers ++
      List.replicate calls ⟨s.semaphores.length, 1, .waiting⟩ }

def inUse : ℕ := s.executors.length - 1

def replaceExecutor : ServiceHandle :=
  { s with
    executors := s.executors ++ [s.capacity]
    tasks := s.tasks.map (RemoteTask.replaced s.inUse s.capacity) }

def getAsyncCallExecutor : ServiceHandle :=
  if s.executors.getLast? = some s.capacity then s else s.replaceExecutor

def setCaller (place : ℕ) (caller : Caller) : ServiceHandle :=
  { s with callers := s.callers.set place caller }

def setTask (index : ℕ) (task : RemoteTask) : ServiceHandle :=
  { s with tasks := s.tasks.set index task }

def release (semaphore : ℕ) : ServiceHandle :=
  { s with
    semaphores := s.semaphores.modify semaphore (· + 1) }

def submit (place : ℕ) (caller : Caller) : ServiceHandle :=
  { s with
    tasks := s.tasks ++ [
      { owner := place
        executor := s.inUse
        status := .queued
        runs := 0
        largest := 0
        delivered := [] }]
    callers := s.callers.set place
      { caller with
        tries := caller.tries - 1
        phase := .awaiting s.tasks.length } }

/-- `run_in_executor(self._get_async_call_executor(), ...)`; nothing comes between
the choice of the executor and the submission. -/
def handOver (place : ℕ) (caller : Caller) : Option ServiceHandle :=
  match caller.phase, caller.tries with
  | .inside, _ + 1 => some (s.getAsyncCallExecutor.submit place caller)
  | _, _ => none

def enter (place : ℕ) (caller : Caller) : Option ServiceHandle :=
  match caller.phase, s.semaphores[caller.semaphore]? with
  | .waiting, some (permits + 1) =>
    some ({ s with semaphores := s.semaphores.set caller.semaphore permits }.setCaller
      place { caller with phase := .inside })
  | _, _ => none

def run (index : ℕ) (task : RemoteTask) : Option ServiceHandle :=
  match task.status, s.executors[task.executor]? with
  | .queued, some maxWorkers =>
    if s.tasks.countP (fun other =>
        other.status = .running && other.executor = task.executor) < maxWorkers then
      some (s.setTask index { task with
        status := .running
        runs := task.runs + 1
        largest := (s.executors.getLast?).getD 0 })
    else none
  | _, _ => none

def finish (index : ℕ) (task : RemoteTask) (outcome : Outcome) : Option ServiceHandle :=
  match task.status with
  | .running => some (s.setTask index { task with status := .finished outcome })
  | _ => none

/-- The event loop goes on with a coroutine whose future is done: another attempt,
or the end of the call.  A cancelled future raises `CancelledError`, which no
`except Exception` catches. -/
def resume (place : ℕ) (caller : Caller) (again : Bool) : Option ServiceHandle :=
  match caller.phase with
  | .awaiting index =>
    (s.tasks[index]?).bind fun task =>
      match task.status with
      | .finished outcome =>
        let told := s.setTask index
          { task with delivered := (place, outcome) :: task.delivered }
        if again then some (told.setCaller place { caller with phase := .inside })
        else some ((told.setCaller place { caller with phase := .ended }).release
          caller.semaphore)
      | .cancelled =>
        some ((s.setCaller place { caller with phase := .ended }).release
          caller.semaphore)
      | .queued | .running => none
  | _ => none

/-- The call ends without another remote call: its breaker is open, or no attempt
is left. -/
def leave (place : ℕ) (caller : Caller) : Option ServiceHandle :=
  match caller.phase with
  | .inside =>
    some ((s.setCaller place { caller with phase := .ended }).release caller.semaphore)
  | _ => none

def step (s : ServiceHandle) : CallLabel → Option ServiceHandle
  | .computeCapacity maxInFlight => some { s with capacity := max 1 maxInFlight }
  | .acallBalanced tries => some (s.acallBalanced tries)
  | .acallAll maxConcurrency calls => some (s.acallAll maxConcurrency calls)
  | .enter place => (s.callers[place]?).bind (s.enter place)
  | .handOver place => (s.callers[place]?).bind (s.handOver place)
  | .run index => (s.tasks[index]?).bind (s.run index)
  | .finish index outcome => (s.tasks[index]?).bind (s.finish index · outcome)
  | .resume place again => (s.callers[place]?).bind (s.resume place · again)
  | .leave place => (s.callers[place]?).bind (s.leave place)

end ServiceHandle

end PycloudParallel.AsyncCalls
