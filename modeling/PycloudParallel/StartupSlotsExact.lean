import PycloudParallel.StartupSlotsModel

/-!
# Slots are exact as long as every stream is started

A call holds its slot from the gate to its release.  One call changes the totals
at each step, so what the gate and the counters have follows from what that call
has before and behind it.
-/

namespace PycloudParallel.StartupSlots

open Parties

namespace Phase

/-- A call holds a slot from `acquire` to `release`. -/
def holds : Phase → ℕ
  | .leaving true | .counting | .running | .handed | .streaming | .releasing
  | .giving => 1
  | _ => 0

/-- A holder that `in_flight` counts. -/
def counted : Phase → ℕ
  | .running | .handed | .streaming | .releasing => 1
  | _ => 0

def uncounted : Phase → ℕ
  | .leaving true | .counting | .giving => 1
  | _ => 0

def queues : Phase → ℕ
  | .waiting | .leaving _ => 1
  | _ => 0

def early : Phase → Bool
  | .created | .entering | .waiting => true
  | _ => false

theorem holds_eq (phase : Phase) : phase.holds = phase.counted + phase.uncounted := by
  cases phase with
  | leaving acquired => cases acquired <;> rfl
  | _ => rfl

end Phase

namespace Call

variable (call : Call)

def holds : ℕ := call.phase.holds
def counted : ℕ := call.phase.counted
def uncounted : ℕ := call.phase.uncounted
def queues : ℕ := call.phase.queues

end Call

/-- The call takes at most one permit, and has given back what it does not
hold. -/
structure Call.Fair (call : Call) : Prop where
  once : call.taken ≤ 1
  balanced : call.given + call.holds = call.taken
  early : call.phase.early = true → call.taken = 0

/-- The free permits and the holders make up the workers; `in_flight` is the
number of holders, apart from those that stand between the gate and the counter;
`queued` is the number of calls from their entry into the wait to the line behind
it. -/
structure Slots.Exact (s : Slots) : Prop where
  free : s.permits + total Call.holds s.calls = s.workerCount
  inFlight : s.inFlight + total Call.uncounted s.calls =
    total Call.holds s.calls
  queued : s.queued = total Call.queues s.calls
  fair : ∀ call ∈ s.calls, call.Fair

/-- No streaming response of an invocation is thrown away before its body is
started. -/
def startsStreams (s : Slots) : SlotLabel → Bool
  | .call place .drop => s.calls[place]?.all fun call => call.phase != .handed
  | _ => true

theorem exact_mount (workerCount : ℕ) : (Slots.mount workerCount).Exact :=
  ⟨rfl, rfl, rfl, fun call hcall => by cases hcall⟩

section Steps

variable {s : Slots} {place : ℕ} {call : Call}

variable {next : Slots}

theorem Slots.Exact.move (hexact : s.Exact)
    (hcall : s.calls[place]? = some call) {changed : Call}
    (hcalls : next.calls = s.calls.set place changed)
    (hworkers : next.workerCount = s.workerCount)
    (hfree : next.permits + changed.holds = s.permits + call.holds)
    (hflight : next.inFlight + changed.uncounted + call.holds =
      s.inFlight + call.uncounted + changed.holds)
    (hqueued : next.queued + call.queues = s.queued + changed.queues)
    (hfair : changed.Fair) : next.Exact := by
  have hholds : total Call.holds (s.calls.set place changed) + call.holds =
      total Call.holds s.calls + changed.holds := total_set hcall changed
  have huncounted : total Call.uncounted (s.calls.set place changed) + call.uncounted =
      total Call.uncounted s.calls + changed.uncounted := total_set hcall changed
  have hqueues : total Call.queues (s.calls.set place changed) + call.queues =
      total Call.queues s.calls + changed.queues := total_set hcall changed
  obtain ⟨free, inFlight, queued, fair⟩ := hexact
  refine ⟨?_, ?_, ?_, ?_⟩
  · rw [hcalls, hworkers]
    omega
  · rw [hcalls]
    omega
  · rw [hcalls]
    omega
  · intro found hfound
    rw [hcalls] at hfound
    rcases List.mem_or_eq_of_mem_set hfound with hold | rfl
    · exact fair found hold
    · exact hfair

theorem Slots.Exact.counts (hexact : s.Exact) :
    s.inFlight = total Call.counted s.calls := by
  have hsplit : total Call.holds s.calls =
      total Call.counted s.calls +
        total Call.uncounted s.calls := by
    rw [← total_add]
    exact congrArg (total · s.calls) (funext fun call => call.phase.holds_eq)
  have hflight := hexact.inFlight
  omega

theorem Slots.Exact.moveCall (hexact : s.Exact)
    (hcall : s.calls[place]? = some call) {move : Move}
    (hstarts : call.phase = .handed → move ≠ .drop)
    (hmove : s.moveCall place call move = some next) : next.Exact := by
  have hmem := List.mem_of_getElem? hcall
  obtain ⟨once, balanced, early⟩ := hexact.fair call hmem
  have hqueue : call.queues ≤ s.queued := by
    rw [hexact.queued]
    exact le_total hmem
  have hflying : call.counted ≤ s.inFlight := by
    rw [hexact.counts]
    exact le_total hmem
  have hheld : s.permits + call.holds ≤ s.workerCount := by
    rw [← hexact.free]
    exact Nat.add_le_add_left (le_total hmem) _
  obtain ⟨kind, phase, taken, given⟩ := call
  simp only [Call.holds, Call.counted, Call.queues] at balanced early hqueue hflying hheld
  cases phase with
  | created =>
    cases move with
    | first | drop =>
      cases hmove
      exact hexact.move hcall rfl rfl rfl rfl rfl ⟨once, balanced, fun _ => early rfl⟩
    | _ => cases hmove
  | entering =>
    cases move with
    | enqueue =>
      cases hmove
      exact hexact.move hcall rfl rfl rfl rfl rfl ⟨once, balanced, fun _ => early rfl⟩
    | _ => cases hmove
  | waiting =>
    cases move with
    | acquire =>
      simp only [Slots.moveCall] at hmove
      split at hmove
      · cases hmove
      · next hfree =>
        cases hmove
        have htaken : taken = 0 := early rfl
        refine hexact.move hcall rfl rfl ?_ rfl rfl ⟨?_, ?_, fun h => by cases h⟩
        · change s.permits - 1 + 1 = s.permits + 0
          omega
        · change taken + 1 ≤ 1
          omega
        · exact congrArg (· + 1) balanced
    | giveUp =>
      cases hmove
      exact hexact.move hcall rfl rfl rfl rfl rfl ⟨once, balanced, fun h => by cases h⟩
    | _ => cases hmove
  | leaving acquired =>
    cases move with
    | dequeue =>
      cases hmove
      have hone : 1 ≤ s.queued := hqueue
      cases acquired with
      | true | false =>
        refine hexact.move hcall rfl rfl rfl rfl ?_ ⟨once, balanced, fun h => by cases h⟩
        change s.queued - 1 + 1 = s.queued + 0
        omega
    | _ => cases hmove
  | counting =>
    cases move with
    | count =>
      cases hmove
      refine hexact.move hcall rfl rfl rfl ?_ rfl ⟨once, balanced, fun h => by cases h⟩
      change s.inFlight + 1 + 0 + 1 = s.inFlight + 1 + 1
      rfl
    | _ => cases hmove
  | running =>
    cases move with
    | finish =>
      cases hmove
      exact hexact.move hcall rfl rfl rfl rfl rfl ⟨once, balanced, fun h => by cases h⟩
    | hand =>
      cases kind with
      | invoke =>
        cases hmove
        exact hexact.move hcall rfl rfl rfl rfl rfl ⟨once, balanced, fun h => by cases h⟩
      | iterate => cases hmove
    | _ => cases hmove
  | handed =>
    cases move with
    | first =>
      cases hmove
      exact hexact.move hcall rfl rfl rfl rfl rfl ⟨once, balanced, fun h => by cases h⟩
    | drop => exact absurd rfl (hstarts rfl)
    | _ => cases hmove
  | streaming =>
    cases move with
    | finish =>
      cases hmove
      exact hexact.move hcall rfl rfl rfl rfl rfl ⟨once, balanced, fun h => by cases h⟩
    | _ => cases hmove
  | releasing =>
    cases move with
    | uncount =>
      cases hmove
      have hone : 1 ≤ s.inFlight := hflying
      refine hexact.move hcall rfl rfl rfl ?_ rfl ⟨once, balanced, fun h => by cases h⟩
      change s.inFlight - 1 + 1 + 1 = s.inFlight + 0 + 1
      omega
    | _ => cases hmove
  | giving =>
    cases move with
    | release =>
      have hroom : s.permits < s.workerCount := hheld
      simp only [Slots.moveCall, hroom, if_true] at hmove
      cases hmove
      exact hexact.move hcall rfl rfl rfl rfl rfl ⟨once, balanced, fun h => by cases h⟩
    | _ => cases hmove
  | ended => cases hmove

theorem Call.fair_begin (kind : CallKind) : (Call.begin kind).Fair := by
  cases kind <;> exact ⟨Nat.zero_le 1, rfl, fun _ => rfl⟩

theorem Slots.Exact.step {label : SlotLabel} (hexact : s.Exact)
    (hstarts : startsStreams s label = true) (hstep : s.step label = some next) :
    next.Exact := by
  cases label with
  | arrive kind =>
    cases hstep
    obtain ⟨free, inFlight, queued, fair⟩ := hexact
    have hnone : (Call.begin kind).holds = 0 ∧ (Call.begin kind).uncounted = 0 ∧
        (Call.begin kind).queues = 0 := by
      cases kind <;> exact ⟨rfl, rfl, rfl⟩
    obtain ⟨hholds, huncounted, hqueues⟩ := hnone
    refine ⟨?_, ?_, ?_, ?_⟩
    · rw [total_append, total_cons, total_nil, hholds]
      exact free
    · rw [total_append, total_append, total_cons, total_cons, total_nil, total_nil,
        hholds, huncounted]
      exact inFlight
    · rw [total_append, total_cons, total_nil, hqueues]
      exact queued
    · intro call hcall
      rcases List.mem_append.mp hcall with hold | hnew
      · exact fair call hold
      · rw [List.mem_singleton.mp hnew]
        exact Call.fair_begin kind
  | call place move =>
    obtain ⟨call, hcall, hmove⟩ := Option.bind_eq_some_iff.mp hstep
    refine hexact.moveCall hcall ?_ hmove
    rintro hhanded rfl
    simp [startsStreams, hcall, hhanded] at hstarts

end Steps

/-! ## Service with no call in progress -/

def admission (place : ℕ) : List SlotLabel :=
  [.arrive .invoke, .call place .enqueue, .call place .acquire, .call place .dequeue,
    .call place .count]

def admissions : ℕ → ℕ → List SlotLabel
  | _, 0 => []
  | place, calls + 1 => admission place ++ admissions (place + 1) calls

def Call.served : Call := ⟨.invoke, .running, 1, 0⟩

def Slots.serve (s : Slots) : Slots :=
  { s with
    permits := s.permits - 1
    inFlight := s.inFlight + 1
    calls := s.calls ++ [.served] }

theorem admits {s : Slots} (hfree : s.permits ≠ 0) :
    runLabels Slots.step s (admission s.calls.length) = some s.serve := by
  simp [Slots.serve, admission, runLabels, Slots.step, Slots.moveCall, Slots.setCall, Slots.enqueue,
    Slots.takePermit, Slots.dequeue, Slots.count, Call.begin, Call.at, Call.served, hfree]

theorem admits_all {s : Slots} {calls : ℕ} (hfree : calls ≤ s.permits) :
    ∃ next, runLabels Slots.step s (admissions s.calls.length calls) = some next ∧
      next.calls = s.calls ++ List.replicate calls .served := by
  induction calls generalizing s with
  | zero => exact ⟨s, rfl, (List.append_nil _).symm⟩
  | succ calls ih =>
    rw [admissions, runLabels_append, admits (by omega), Option.bind_some]
    have hroom : calls ≤ s.serve.permits := by
      change calls ≤ s.permits - 1
      omega
    obtain ⟨next, hrun, hnext⟩ := ih hroom
    refine ⟨next, ?_, ?_⟩
    · rw [← hrun]
      simp [Slots.serve]
    · rw [hnext]
      simp [Slots.serve, List.replicate_succ]

def Slots.Idle (s : Slots) : Prop :=
  ∀ call ∈ s.calls, call.phase = .created ∨ call.phase = .ended

theorem Slots.Exact.idle {s : Slots} (hexact : s.Exact) (hidle : s.Idle) :
    s.permits = s.workerCount ∧ s.inFlight = 0 ∧ s.queued = 0 := by
  have hquiet : ∀ call ∈ s.calls,
      call.holds = 0 ∧ call.uncounted = 0 ∧ call.queues = 0 := by
    intro call hcall
    unfold Call.holds Call.uncounted Call.queues
    rcases hidle call hcall with hphase | hphase <;> rw [hphase] <;>
      exact ⟨rfl, rfl, rfl⟩
  have hholds : total Call.holds s.calls = 0 :=
    total_eq_zero_iff.mpr fun call hcall => (hquiet call hcall).1
  have huncounted : total Call.uncounted s.calls = 0 :=
    total_eq_zero_iff.mpr fun call hcall => (hquiet call hcall).2.1
  have hqueues : total Call.queues s.calls = 0 :=
    total_eq_zero_iff.mpr fun call hcall => (hquiet call hcall).2.2
  obtain ⟨free, inFlight, queued, -⟩ := hexact
  omega

/-- As long as every streaming response is started, the gate and the counters
are exact, each call has given back what it took once it has ended, and a
service with no call in progress accepts as many calls as it has workers. -/
theorem slots_never_leak (workerCount : ℕ) {s : Slots}
    (hrun : GuardedRun Slots.step (fun s label => startsStreams s label = true)
      (.mount workerCount) s) :
    s.Exact ∧
      (∀ call ∈ s.calls, call.phase = .ended → call.given = call.taken) ∧
      (s.Idle → s.permits = s.workerCount ∧ s.inFlight = 0 ∧ s.queued = 0 ∧
        ∃ next, runLabels Slots.step s
            (admissions s.calls.length s.workerCount) = some next ∧
          next.calls = s.calls ++ List.replicate s.workerCount .served) := by
  have hexact : s.Exact :=
    hrun.invariant Slots.Exact (exact_mount workerCount)
      fun _ _ _ hgood hstarts hstep => hgood.step hstarts hstep
  refine ⟨hexact, ?_, ?_⟩
  · intro call hcall hended
    have hbalanced := (hexact.fair call hcall).balanced
    rwa [Call.holds, hended] at hbalanced
  · intro hidle
    obtain ⟨hpermits, hflight, hqueued⟩ := hexact.idle hidle
    exact ⟨hpermits, hflight, hqueued, admits_all hpermits.ge⟩

def streamedRun : List SlotLabel :=
  admission 0 ++ [.call 0 .hand, .arrive .iterate, .call 1 .first, .call 1 .enqueue,
    .call 1 .giveUp, .call 1 .dequeue, .call 0 .first, .call 0 .finish, .call 0 .uncount,
    .call 0 .release]

theorem slots_never_leak_streamedRun :
    ∃ s, checkedRun Slots.step (fun s label => startsStreams s label = true)
        (.mount 1) streamedRun = some s ∧ s.permits = 1 ∧ s.inFlight = 0 := by
  have hrun := guardedRun_of_checkedRun streamedRun
    (show checkedRun Slots.step (fun s label => startsStreams s label = true)
      (.mount 1) streamedRun = some _ from rfl)
  obtain ⟨-, -, hidle⟩ := slots_never_leak 1 hrun
  obtain ⟨hpermits, hflight, -⟩ := hidle (by
    simp only [Slots.Idle]
    decide)
  exact ⟨_, rfl, hpermits, hflight⟩

/-- A streaming response whose headers cannot be written: the body is thrown
away unstarted, and the only slot of the service is gone. -/
theorem slot_leaks_with_unstarted_stream :
    ∃ s, Reachable Slots.step (.mount 1) s ∧ s.Idle ∧ s.permits = 0 ∧
      s.inFlight = 1 ∧
      ∃ call, s.calls = [call] ∧ call.phase = .ended ∧ call.taken = 1 ∧
        call.given = 0 := by
  refine ⟨_, reachable_of_runLabels (admission 0 ++ [.call 0 .hand, .call 0 .drop]) rfl,
    ?_, rfl, rfl, _, rfl, rfl, rfl, rfl⟩
  simp only [Slots.Idle]
  decide

end PycloudParallel.StartupSlots
