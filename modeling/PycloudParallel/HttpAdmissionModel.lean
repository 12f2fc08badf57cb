import PycloudParallel.FoundationGuardedRun
import PycloudParallel.FoundationParties

/-!
# Bounded admission of HTTP connections

`BoundedThreadPoolHTTPServer`: the listening thread admits or refuses a
connection under the close lock, a fixed number of workers takes connections
from the queue, and calls of `server_close` take over what is left.  Admitted
connections are numbered in order.
-/

namespace PycloudParallel.HttpAdmission

abbrev Request := ℕ

/-- What `finish_request` does: it returns, or raises an `Exception`, or raises
something else such as `SystemExit`. -/
inductive Handling
  | returned
  | raised
  | raisedBase
deriving DecidableEq

/-- Where a worker is.  From `shutting` to `releasing` it is in the `finally`
block of `_process_request`; `dies` says that an exception is in flight. -/
inductive WorkerPhase
  | waiting
  | handling (request : Request)
  | shutting (request : Request) (dies : Bool)
  | discarding (request : Request) (dies : Bool)
  | releasing (request : Request) (dies : Bool)
  | stopped
deriving DecidableEq

inductive ClosePhase
  | entering
  | snapshot
  | forcing (active : List Request)
  | draining
  | discarding (request : Request)
  | releasing (request : Request)
  | shutting (request : Request)
  | stopping (left : ℕ)
  | joining
  | returned
deriving DecidableEq

structure Server where
  maxWorkers : ℕ
  queueCapacity : ℕ
  requestSlots : ℕ
  workersClosed : Bool
  queue : List (Option Request)
  activeRequests : List Request
  rejectedRequests : ℕ
  workers : List WorkerPhase
  closers : List ClosePhase
  /-- Ghost: how many connections have been admitted. -/
  accepted : ℕ
  /-- Ghost: the connections whose slots have been given back. -/
  released : List Request
  /-- Ghost: the connections whose sockets have been closed. -/
  closed : List Request
  /-- Ghost: a release that the semaphore has refused. -/
  overReleased : Bool
deriving DecidableEq

def Server.init (maxWorkers queueCapacity : ℕ) : Server where
  maxWorkers := maxWorkers
  queueCapacity := queueCapacity
  requestSlots := maxWorkers + queueCapacity
  workersClosed := false
  queue := []
  activeRequests := []
  rejectedRequests := 0
  workers := List.replicate maxWorkers .waiting
  closers := []
  accepted := 0
  released := []
  closed := []
  overReleased := false

inductive WorkerMove
  | take
  | finish (handling : Handling)
  | next
deriving DecidableEq

inductive ServerLabel
  | processRequest
  | worker (place : ℕ) (move : WorkerMove)
  | serverClose
  | closer (place : ℕ)
deriving DecidableEq

namespace Server

variable (s : Server)

def setWorker (place : ℕ) (phase : WorkerPhase) : Server :=
  { s with workers := s.workers.set place phase }

def setCloser (place : ℕ) (phase : ClosePhase) : Server :=
  { s with closers := s.closers.set place phase }

def discard (request : Request) : Server :=
  { s with activeRequests := s.activeRequests.filter (· ≠ request) }

def release (request : Request) : Server :=
  if s.requestSlots < s.maxWorkers + s.queueCapacity then
    { s with
      requestSlots := s.requestSlots + 1
      released := request :: s.released }
  else { s with overReleased := true }

def close (request : Request) : Server :=
  { s with closed := request :: s.closed }

def processRequest : Server :=
  if s.workersClosed || s.requestSlots == 0 then
    { s with rejectedRequests := s.rejectedRequests + 1 }
  else
    { s with
      requestSlots := s.requestSlots - 1
      activeRequests := s.accepted :: s.activeRequests
      queue := s.queue ++ [some s.accepted]
      accepted := s.accepted + 1 }

def dropFirst : Server := { s with queue := s.queue.tail }

def workerStep (place : ℕ) (phase : WorkerPhase) (move : WorkerMove) :
    Option Server :=
  match phase, move with
  | .waiting, .take =>
    match s.queue with
    | [] => none
    | none :: _ => some (s.dropFirst.setWorker place .stopped)
    | some request :: _ => some (s.dropFirst.setWorker place (.handling request))
  | .handling request, .finish handling =>
    some (s.setWorker place (.shutting request (handling = .raisedBase)))
  | .shutting request dies, .next =>
    some ((s.close request).setWorker place (.discarding request dies))
  | .discarding request dies, .next =>
    some ((s.discard request).setWorker place (.releasing request dies))
  | .releasing request dies, .next =>
    some ((s.release request).setWorker place (if dies then .stopped else .waiting))
  | _, _ => none

def closeStep (place : ℕ) (phase : ClosePhase) : Option Server :=
  match phase with
  | .entering =>
    if s.workersClosed then some (s.setCloser place .returned)
    else some ({ s with workersClosed := true }.setCloser place .snapshot)
  | .snapshot => some (s.setCloser place (.forcing s.activeRequests))
  | .forcing [] => some (s.setCloser place .draining)
  | .forcing (request :: rest) =>
    some ((s.close request).setCloser place (.forcing rest))
  | .draining =>
    match s.queue with
    | [] => some (s.setCloser place (.stopping s.maxWorkers))
    | none :: _ => some (s.dropFirst.setCloser place .draining)
    | some request :: _ => some (s.dropFirst.setCloser place (.discarding request))
  | .discarding request =>
    some ((s.discard request).setCloser place (.releasing request))
  | .releasing request =>
    some ((s.release request).setCloser place (.shutting request))
  | .shutting request => some ((s.close request).setCloser place .draining)
  | .stopping 0 => some (s.setCloser place .joining)
  | .stopping (left + 1) =>
    some ({ s with queue := s.queue ++ [none] }.setCloser place (.stopping left))
  | .joining => some (s.setCloser place .returned)
  | .returned => none

def step (s : Server) : ServerLabel → Option Server
  | .processRequest => some s.processRequest
  | .worker place move =>
    (s.workers[place]?).bind fun phase => s.workerStep place phase move
  | .serverClose => some { s with closers := s.closers ++ [.entering] }
  | .closer place => (s.closers[place]?).bind fun phase => s.closeStep place phase

end Server

end PycloudParallel.HttpAdmission
