import PycloudParallel.FoundationGuardedRun
import Mathlib.Data.List.Sort

/-!
# Item calls of a service

`_service_iter_item_calls` makes one call for each payload with a window of futures
of a thread pool and yields the outcomes as they come in.
`_service_aiter_item_calls` does it with one task for each payload and a semaphore.
-/

namespace PycloudParallel.ServiceItems

variable {δ ρ : Type*}

inductive CallOutcome (ρ : Type*)
  | result (nodeId : String) (result : ρ)
  | exception (errorType errorMessage : String)
  /-- A `CancelledError`; for asyncio it is not an `Exception`. -/
  | cancelled

structure ExecutionItem (ρ : Type*) where
  index : ℕ
  ok : Bool
  result : Option ρ
  errorType : String
  errorMessage : String
  nodeId : String
  key : ℕ

def serviceItemSuccess (index : ℕ) (result : ρ) (nodeId : String) :
    ExecutionItem ρ :=
  ⟨index, true, some result, "", "", nodeId, index⟩

def serviceItemFailure (index : ℕ) (errorType errorMessage : String) :
    ExecutionItem ρ :=
  ⟨index, false, none, errorType, errorMessage, "", index⟩

def ExecutionItem.value (item : ExecutionItem ρ) : Option ρ :=
  if item.ok then item.result else none

/-- A `max_in_flight` that cannot be read counts as 0, a default that cannot be had
as 1. -/
def resolveGroupMaxInFlight (maxInFlight defaultMaxInFlight : Option ℤ)
    (itemCount : ℕ) : ℕ :=
  let resolved := (max 1 (min (defaultMaxInFlight.getD 1) itemCount)).toNat
  match maxInFlight with
  | none => resolved
  | some normalized =>
    if 0 < normalized then (max 1 (min normalized itemCount)).toNat else resolved

structure Batch (δ ρ : Type*) where
  /-- `none` is a payload that is not a dict. -/
  payloads : List (Option δ)
  maxInFlight : Option ℤ
  defaultMaxInFlight : Option ℤ
  answer : ℕ → CallOutcome ρ

namespace Batch

def count (batch : Batch δ ρ) : ℕ := batch.payloads.length

def limit (batch : Batch δ ρ) : ℕ :=
  resolveGroupMaxInFlight batch.maxInFlight batch.defaultMaxInFlight
    (max 1 batch.count)

def payload [EmptyCollection δ] (batch : Batch δ ρ) (idx : ℕ) : δ :=
  (batch.payloads.getD idx none).getD ∅

def item (batch : Batch δ ρ) (idx : ℕ) : ExecutionItem ρ :=
  match batch.answer idx with
  | .result nodeId result => serviceItemSuccess idx result nodeId
  | .exception errorType errorMessage => serviceItemFailure idx errorType errorMessage
  | .cancelled => serviceItemFailure idx "CancelledError" ""

def isCancelled (batch : Batch δ ρ) (idx : ℕ) : Bool :=
  match batch.answer idx with
  | .cancelled => true
  | _ => false

end Batch

structure Calls (δ ρ : Type*) where
  /-- Futures in the executor's queue, or tasks before the semaphore. -/
  waiting : List ℕ
  /-- Calls in progress. -/
  running : List ℕ
  /-- Futures or tasks that are done and not yielded yet, in that order. -/
  finished : List ℕ
  items : List (ExecutionItem ρ)
  /-- The calls made so far. -/
  made : List (ℕ × δ)

namespace Calls

def none : Calls δ ρ := ⟨[], [], [], [], []⟩

def begin [EmptyCollection δ] (batch : Batch δ ρ) (calls : Calls δ ρ) (idx : ℕ)
    (rest : List ℕ) : Calls δ ρ :=
  { calls with
    waiting := rest
    running := calls.running ++ [idx]
    made := calls.made ++ [(idx, batch.payload idx)] }

def finish (calls : Calls δ ρ) (idx : ℕ) : Calls δ ρ :=
  { calls with
    running := calls.running.erase idx
    finished := calls.finished ++ [idx] }

def deliver (batch : Batch δ ρ) (calls : Calls δ ρ) (idx : ℕ) : Calls δ ρ :=
  { calls with
    finished := calls.finished.erase idx
    items := calls.items ++ [batch.item idx] }

def pending (calls : Calls δ ρ) : List ℕ :=
  calls.waiting ++ calls.running ++ calls.finished

end Calls

inductive Phase
  | fresh
  /-- The consumer waits for the next item. -/
  | active
  /-- An item has been yielded. -/
  | suspended
  | ended
  /-- A `CancelledError` has left the iteration. -/
  | raised
  /-- The consumer has closed the iteration. -/
  | stopped
deriving DecidableEq

structure Iter (δ ρ : Type*) where
  calls : Calls δ ρ
  /-- How many payloads have been submitted. -/
  submitted : ℕ
  phase : Phase

def Iter.fresh : Iter δ ρ := ⟨.none, 0, .fresh⟩

inductive IterLabel
  | next
  /-- `_submit_next`. -/
  | submit
  /-- A thread of the pool takes the first queued call. -/
  | start
  | finish (idx : ℕ)
  | deliver (idx : ℕ)
  | leave
  /-- Leaving the `with` block waits for the queued calls too. -/
  | close

def Iter.submits (batch : Batch δ ρ) (s : Iter δ ρ) : Bool :=
  decide (s.calls.pending.length < batch.limit) && decide (s.submitted < batch.count)

def iterStep [EmptyCollection δ] (batch : Batch δ ρ) (s : Iter δ ρ) :
    IterLabel → Option (Iter δ ρ)
  | .next =>
    if s.phase = .fresh ∨ s.phase = .suspended then some { s with phase := .active }
    else none
  | .submit =>
    if s.phase = .active ∧ s.submits batch = true then
      some { s with
        calls := { s.calls with waiting := s.calls.waiting ++ [s.submitted] }
        submitted := s.submitted + 1 }
    else none
  | .start =>
    match s.calls.waiting with
    | [] => none
    | idx :: rest =>
      if s.calls.running.length < batch.limit then
        some { s with calls := s.calls.begin batch idx rest }
      else none
  | .finish idx =>
    if idx ∈ s.calls.running then some { s with calls := s.calls.finish idx }
    else none
  | .deliver idx =>
    if s.phase = .active ∧ s.submits batch = false ∧ idx ∈ s.calls.finished then
      some { s with calls := s.calls.deliver batch idx, phase := .suspended }
    else none
  | .leave =>
    if s.phase = .active ∧ s.submits batch = false ∧ s.calls.pending = [] then
      some { s with phase := .ended }
    else none
  | .close =>
    if s.phase = .fresh ∨ s.phase = .suspended then some { s with phase := .stopped }
    else none

structure Aiter (δ ρ : Type*) where
  calls : Calls δ ρ
  phase : Phase

def Aiter.fresh : Aiter δ ρ := ⟨.none, .fresh⟩

inductive AiterLabel
  | next
  /-- The first task at the semaphore gets a permit and makes its call. -/
  | enter
  | finish (idx : ℕ)
  /-- `await task` for the task that was done first. -/
  | deliver
  | leave
  | close

/-- The `finally` block cancels the tasks that are not done: those at the semaphore
never make their call. -/
def Aiter.abandon (s : Aiter δ ρ) (phase : Phase) : Aiter δ ρ :=
  { calls := { s.calls with waiting := [] }, phase := phase }

def aiterStep [EmptyCollection δ] (batch : Batch δ ρ) (s : Aiter δ ρ) :
    AiterLabel → Option (Aiter δ ρ)
  | .next =>
    if s.phase = .fresh then
      if batch.count = 0 then some { s with phase := .ended }
      else some
        { calls := { s.calls with waiting := List.range batch.count }
          phase := .active }
    else if s.phase = .suspended then some { s with phase := .active }
    else none
  | .enter =>
    match s.calls.waiting with
    | [] => none
    | idx :: rest =>
      if s.calls.running.length < batch.limit then
        some { s with calls := s.calls.begin batch idx rest }
      else none
  | .finish idx =>
    if idx ∈ s.calls.running then some { s with calls := s.calls.finish idx }
    else none
  | .deliver =>
    match s.phase, s.calls.finished with
    | .active, idx :: _ =>
      if batch.isCancelled idx = true then some (s.abandon .raised)
      else some { calls := s.calls.deliver batch idx, phase := .suspended }
    | _, _ => none
  | .leave =>
    if s.phase = .active ∧ s.calls.pending = [] then some { s with phase := .ended }
    else none
  | .close =>
    if s.phase = .fresh ∨ s.phase = .suspended then some (s.abandon .stopped)
    else none

/-- `map_calls` and `amap_calls`, from the items that were yielded. -/
def mapCalls (items : List (ExecutionItem ρ)) : List (Option ρ) :=
  (items.insertionSort fun first second => first.index ≤ second.index).map
    ExecutionItem.value

/-- `unordered_calls` and `aunordered_calls` without `return_items`. -/
def unorderedCalls (items : List (ExecutionItem ρ)) : List (ℕ × Option ρ) :=
  items.map fun item => (item.index, item.value)

/-- Every call is made once at most, with its payload; every item is that of the
call with its index, no index is yielded twice, and after the whole iteration none is
missing; and there are never too many calls at once. -/
structure Delivers [EmptyCollection δ] (batch : Batch δ ρ) (calls : Calls δ ρ)
    (phase : Phase) : Prop where
  made_once : (calls.made.map Prod.fst).Nodup
  payloads : ∀ call ∈ calls.made, call.1 < batch.count ∧ call.2 = batch.payload call.1
  items : ∀ item ∈ calls.items, item = batch.item item.index ∧
    item.index ∈ calls.made.map Prod.fst
  yielded_once : (calls.items.map ExecutionItem.index).Nodup
  complete : phase = .ended →
    (calls.items.map ExecutionItem.index).Perm (List.range batch.count)
  within_limit : calls.running.length ≤ batch.limit
  not_raised : phase ≠ .raised

structure IterDelivers [EmptyCollection δ] (batch : Batch δ ρ) (s : Iter δ ρ) :
    Prop where
  delivers : Delivers batch s.calls s.phase
  nothing_started : s.phase = .stopped → iterStep batch s .start = none
  /-- The iteration goes on until it has ended or is closed, and is not endless. -/
  goes_on : s.phase = .ended ∨ s.phase = .stopped ∨
    ∃ label, label ≠ .close ∧ (iterStep batch s label).isSome = true
  bounded : ∀ labels t, runLabels (iterStep batch) s labels = some t →
    labels.length ≤ 5 * batch.count + 2

structure AiterDelivers [EmptyCollection δ] (batch : Batch δ ρ) (s : Aiter δ ρ) :
    Prop where
  delivers : Delivers batch s.calls s.phase
  nothing_started : s.phase = .stopped → aiterStep batch s .enter = none
  goes_on : s.phase = .ended ∨ s.phase = .stopped ∨
    ∃ label, label ≠ .close ∧ (aiterStep batch s label).isSome = true
  bounded : ∀ labels t, runLabels (aiterStep batch) s labels = some t →
    labels.length ≤ 5 * batch.count + 2

end PycloudParallel.ServiceItems
