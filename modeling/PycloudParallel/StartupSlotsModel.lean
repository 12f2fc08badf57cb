import PycloudParallel.FoundationGuardedRun
import PycloudParallel.FoundationParties

/-!
# The slots of a startup service

The execution gate of one `StaticServiceMount` and the calls that go through
`_invoke_mounted_startup_service` and `_iter_mounted_startup_service`, cut at
the gate, at each section under `execution_lock` and at what the layer above
does with a streaming response.
-/

namespace PycloudParallel.StartupSlots

/-- `invoke` is `_invoke_mounted_startup_service`, `iterate` the generator of
`_iter_mounted_startup_service`. -/
inductive CallKind
  | invoke
  | iterate
deriving DecidableEq

/-- Where a call is.  `created` is a generator that has not been started,
`handed` a streaming response whose body has not; `leaving` says whether the
gate was passed. -/
inductive Phase
  | created
  | entering
  | waiting
  | leaving (acquired : Bool)
  | counting
  | running
  | handed
  | streaming
  | releasing
  | giving
  | ended
deriving DecidableEq

structure Call where
  kind : CallKind
  phase : Phase
  /-- Ghost: how often it has taken and given back a permit. -/
  taken : ℕ
  given : ℕ
deriving DecidableEq

def Call.begin : CallKind → Call
  | .invoke => ⟨.invoke, .entering, 0, 0⟩
  | .iterate => ⟨.iterate, .created, 0, 0⟩

def Call.at (call : Call) (phase : Phase) : Call :=
  { call with phase := phase }

/-- The permits of the gate, the two counters under the lock, and the calls in
the order in which they came. -/
structure Slots where
  workerCount : ℕ
  permits : ℕ
  queued : ℕ
  inFlight : ℕ
  calls : List Call
deriving DecidableEq

def Slots.mount (workerCount : ℕ) : Slots where
  workerCount := max 1 workerCount
  permits := max 1 workerCount
  queued := 0
  inFlight := 0
  calls := []

/-- What a call does next.  `giveUp` is the wait that times out or raises,
`finish` the handler that returns or raises, or the stream that ends, fails or
is closed; `drop` throws a generator away that was never started. -/
inductive Move
  | enqueue
  | acquire
  | giveUp
  | dequeue
  | count
  | finish
  | hand
  | first
  | drop
  | uncount
  | release
deriving DecidableEq

inductive SlotLabel
  | arrive (kind : CallKind)
  | call (place : ℕ) (move : Move)
deriving DecidableEq

namespace Slots

variable (s : Slots) (place : ℕ) (call : Call)

def setCall : Slots :=
  { s with calls := s.calls.set place call }

def enqueue : Slots := { s with queued := s.queued + 1 }

def dequeue : Slots := { s with queued := s.queued - 1 }

def takePermit : Slots := { s with permits := s.permits - 1 }

def count : Slots := { s with inFlight := s.inFlight + 1 }

def uncount : Slots := { s with inFlight := s.inFlight - 1 }

def givePermit : Slots := { s with permits := s.permits + 1 }

/-- The next move of the call at a place.  A release beyond the bound of the
gate raises. -/
def moveCall (move : Move) : Option Slots :=
  match call.phase, move with
  | .created, .first => some (s.setCall place (call.at .entering))
  | .created, .drop => some (s.setCall place (call.at .ended))
  | .entering, .enqueue => some (s.enqueue.setCall place (call.at .waiting))
  | .waiting, .acquire =>
    if s.permits = 0 then none
    else some (s.takePermit.setCall place
      { call with phase := .leaving true, taken := call.taken + 1 })
  | .waiting, .giveUp => some (s.setCall place (call.at (.leaving false)))
  | .leaving acquired, .dequeue =>
    some (s.dequeue.setCall place
      (call.at (if acquired then .counting else .ended)))
  | .counting, .count => some (s.count.setCall place (call.at .running))
  | .running, .finish => some (s.setCall place (call.at .releasing))
  | .running, .hand =>
    match call.kind with
    | .invoke => some (s.setCall place (call.at .handed))
    | .iterate => none
  | .handed, .first => some (s.setCall place (call.at .streaming))
  | .handed, .drop => some (s.setCall place (call.at .ended))
  | .streaming, .finish => some (s.setCall place (call.at .releasing))
  | .releasing, .uncount => some (s.uncount.setCall place (call.at .giving))
  | .giving, .release =>
    if s.permits < s.workerCount then
      some (s.givePermit.setCall place
        { call with phase := .ended, given := call.given + 1 })
    else some (s.setCall place (call.at .ended))
  | _, _ => none

def step (s : Slots) : SlotLabel → Option Slots
  | .arrive kind => some { s with calls := s.calls ++ [.begin kind] }
  | .call place move => (s.calls[place]?).bind fun call => s.moveCall place call move

end Slots

end PycloudParallel.StartupSlots
