import PycloudParallel.AsyncCallsDeliveries
import PycloudParallel.AsyncCallsRooms

/-!
# Asynchronous calls survive changes of the capacity

An executor is replaced without harm when no remote call waits in it and the
running ones leave the new one room.
-/

namespace PycloudParallel.AsyncCalls

open Parties

/-- The remote call is not waiting, and if it runs, a new executor with a thread
for every place of the computed capacity stays within the capacities of its time. -/
def RemoteTask.leavesRoom (s : ServiceHandle) (task : RemoteTask) : Bool :=
  match task.status with
  | .queued => false
  | .running => s.runningFrom task.executor + s.capacity ≤ max task.largest s.capacity
  | .finished _ | .cancelled => true

def replacesAtRest (s : ServiceHandle) : CallLabel → Bool
  | .handOver _ =>
    s.executors.getLast? = some s.capacity || s.tasks.all (RemoteTask.leavesRoom s)
  | _ => true

/-- A step of a thread of an executor, or the event loop going on with a call. -/
def CallLabel.goesOn : CallLabel → Bool
  | .run _ | .finish _ _ | .resume _ _ => true
  | _ => false

def RemoteTask.work (task : RemoteTask) : ℕ :=
  match task.status with
  | .queued => 2
  | .running => 1
  | .finished _ | .cancelled => 0

def Caller.work (caller : Caller) : ℕ :=
  match caller.phase with
  | .awaiting _ => 1
  | .waiting | .inside | .ended => 0

namespace ServiceHandle

def work (s : ServiceHandle) : ℕ :=
  total RemoteTask.work s.tasks + total Caller.work s.callers

def Resting (s : ServiceHandle) : Prop :=
  ∀ label : CallLabel, label.goesOn = true → s.step label = none

structure CallsSurvive (s : ServiceHandle) : Prop where
  /-- No remote call is run twice or cancelled, and only its owner hears of it,
  once, what came out. -/
  sound : ∀ task ∈ s.tasks, task.Sound
  settles : ∀ labels next, (∀ label ∈ labels, label.goesOn = true) →
    runLabels step s labels = some next → labels.length ≤ s.work
  settled : s.Resting → ∀ task ∈ s.tasks, task.runs = 1 ∧
    ∃ outcome, task.status = .finished outcome ∧
      task.delivered = [(task.owner, outcome)]
  bounded : s.runningCalls.length ≤ s.largestWhileRunning

structure Orderly (s : ServiceHandle) : Prop where
  deliveries : s.Deliveries
  sound : ∀ task ∈ s.tasks, task.Sound
  rooms : s.Rooms

theorem orderly_init (maxInFlight : ℕ) : (init maxInFlight).Orderly :=
  ⟨deliveries_init maxInFlight, (fun _ hmem => by cases hmem), rooms_init maxInFlight⟩

variable {s next : ServiceHandle} {place index : ℕ} {caller : Caller} {task : RemoteTask}

section

variable (horderly : s.Orderly)

include horderly

theorem Orderly.setCaller (changed : Caller)
    (hcaller : s.callers[place]? = some caller)
    (hbefore : ∀ index, caller.phase ≠ .awaiting index)
    (hafter : ∀ index, changed.phase ≠ .awaiting index) :
    (s.setCaller place changed).Orderly :=
  ⟨horderly.deliveries.callerMoves hcaller rfl rfl hbefore hafter, horderly.sound,
    horderly.rooms.apart horderly.rooms.computed rfl rfl⟩

theorem Orderly.semaphores (semaphores : List ℕ) (gate : Option Gate) :
    ({ s with semaphores := semaphores, gate := gate } : ServiceHandle).Orderly :=
  ⟨⟨horderly.deliveries.awaited, horderly.deliveries.owned⟩, horderly.sound,
    horderly.rooms.apart horderly.rooms.computed rfl rfl⟩

theorem Orderly.callersJoin {joining : List Caller}
    (hwaiting : ∀ caller ∈ joining, caller.phase = .waiting) :
    ({ s with callers := s.callers ++ joining } : ServiceHandle).Orderly :=
  ⟨horderly.deliveries.callersJoin rfl rfl hwaiting, horderly.sound,
    horderly.rooms.apart horderly.rooms.computed rfl rfl⟩

theorem Orderly.acallBalanced (tries : ℕ) :
    (s.acallBalanced tries).Orderly := by
  have hgate : s.getAsyncCallGate.1.Orderly := by
    unfold getAsyncCallGate
    split
    · exact horderly.semaphores _ _
    · split
      · exact horderly
      · exact horderly.semaphores _ _
  refine hgate.callersJoin ?_
  intro caller hmem
  rw [List.mem_singleton.mp hmem]

theorem Orderly.acallAll (maxConcurrency calls : ℕ) :
    (s.acallAll maxConcurrency calls).Orderly := by
  refine (horderly.semaphores (s.semaphores ++ [maxConcurrency]) s.gate).callersJoin ?_
  intro caller hmem
  rw [(List.mem_replicate.mp hmem).2]

theorem Orderly.release (semaphore : ℕ) : (s.release semaphore).Orderly :=
  horderly.semaphores _ _

theorem Orderly.enter (hcaller : s.callers[place]? = some caller)
    (hstep : s.enter place caller = some next) : next.Orderly := by
  unfold ServiceHandle.enter at hstep
  split at hstep
  · next hphase _ =>
    cases hstep
    refine (horderly.semaphores _ s.gate).setCaller _ hcaller ?_ ?_
    · intro index hawaits
      rw [hphase] at hawaits
      cases hawaits
    · intro index hawaits
      cases hawaits
  · cases hstep

theorem Orderly.leave (hcaller : s.callers[place]? = some caller)
    (hstep : s.leave place caller = some next) : next.Orderly := by
  unfold ServiceHandle.leave at hstep
  split at hstep
  · next hphase =>
    cases hstep
    refine (horderly.setCaller _ hcaller ?_ ?_).release _
    · intro index hawaits
      rw [hphase] at hawaits
      cases hawaits
    · intro index hawaits
      cases hawaits
  · cases hstep

theorem Orderly.getAsyncCallExecutor
    (hok : (s.executors.getLast? = some s.capacity || s.tasks.all (RemoteTask.leavesRoom s))
      = true) : s.getAsyncCallExecutor.Orderly := by
  have hbooks := books_getAsyncCallExecutor (s := s)
  by_cases hsame : s.executors.getLast? = some s.capacity
  · unfold ServiceHandle.getAsyncCallExecutor
    rw [if_pos hsame]
    exact horderly
  · unfold ServiceHandle.getAsyncCallExecutor at hbooks ⊢
    rw [if_neg hsame] at hbooks ⊢
    rw [decide_eq_false hsame, Bool.false_or, List.all_eq_true] at hok
    have hempty : ∀ task ∈ s.tasks, task.status ≠ .queued := by
      intro task hmem hqueued
      have hleaves := hok task hmem
      unfold RemoteTask.leavesRoom at hleaves
      rw [hqueued] at hleaves
      cases hleaves
    refine ⟨horderly.deliveries.callersJoin hbooks (List.append_nil _).symm
      fun _ hmem => (by cases hmem), ?_, horderly.rooms.replaces hempty ?_⟩
    · intro found hfound
      obtain ⟨task, hmem, rfl⟩ := List.mem_map.mp hfound
      have hsound := horderly.sound task hmem
      unfold RemoteTask.replaced
      split
      · next hqueued => exact absurd hqueued (hempty task hmem)
      · exact ⟨hsound.once, hsound.kept, hsound.told⟩
      · exact hsound
      · exact hsound
    · intro task hmem hruns
      have hleaves := hok task hmem
      unfold RemoteTask.leavesRoom at hleaves
      rw [hruns] at hleaves
      exact of_decide_eq_true hleaves

end

theorem getAsyncCallExecutor_executors (s : ServiceHandle) :
    s.getAsyncCallExecutor.executors ≠ [] := by
  unfold ServiceHandle.getAsyncCallExecutor
  split
  · next hlast =>
    intro hnone
    rw [hnone] at hlast
    cases hlast
  · exact List.append_ne_nil_of_right_ne_nil _ (List.cons_ne_nil _ _)

theorem getAsyncCallExecutor_callers (s : ServiceHandle) :
    s.getAsyncCallExecutor.callers = s.callers := by
  unfold ServiceHandle.getAsyncCallExecutor
  split <;> rfl

section

variable (horderly : s.Orderly)

include horderly

theorem Orderly.handOver (hcaller : s.callers[place]? = some caller)
    (hok : replacesAtRest s (.handOver place) = true)
    (hstep : s.handOver place caller = some next) : next.Orderly := by
  unfold ServiceHandle.handOver at hstep
  split at hstep
  · next hphase _ =>
    cases hstep
    have hmid := horderly.getAsyncCallExecutor hok
    have hmidCaller : s.getAsyncCallExecutor.callers[place]? = some caller := by
      rw [getAsyncCallExecutor_callers]
      exact hcaller
    refine ⟨hmid.deliveries.handsOver hmidCaller List.map_append rfl ?_ ?_, ?_,
      hmid.rooms.submits (getAsyncCallExecutor_executors s) place caller⟩
    · intro index hawaits
      rw [hphase] at hawaits
      cases hawaits
    · exact congrArg CallPhase.awaiting (List.length_map RemoteTask.book).symm
    · intro found hfound
      rcases List.mem_append.mp hfound with hold | hnew
      · exact hmid.sound found hold
      · rw [List.mem_singleton.mp hnew]
        exact ⟨rfl, (fun hcancelled => by cases hcancelled), .inl rfl⟩
  · cases hstep

theorem Orderly.run (htask : s.tasks[index]? = some task)
    (hstep : s.run index task = some next) : next.Orderly := by
  unfold ServiceHandle.run at hstep
  split at hstep
  · next maxWorkers hqueued hexecutor =>
    split at hstep
    · next hfree =>
      cases hstep
      have hmem := List.mem_of_getElem? htask
      have hsound := horderly.sound task hmem
      have hnewest := horderly.rooms.newest task hmem hqueued
      rw [hnewest] at hexecutor
      rw [hnewest, runningOn_inUse horderly.rooms,
        ← inForce_of_getElem? hexecutor] at hfree
      refine ⟨?_, ?_, horderly.rooms.runs htask hqueued hfree _⟩
      · exact horderly.deliveries.callersJoin (books_setTask htask rfl)
          (List.append_nil _).symm fun _ hmem => (by cases hmem)
      · intro found hfound
        rcases List.mem_or_eq_of_mem_set hfound with hold | rfl
        · exact horderly.sound found hold
        · refine ⟨?_, (fun hcancelled => by cases hcancelled), ?_⟩
          · change task.runs + 1 = 1
            rw [hsound.once, hqueued]
            rfl
          · rcases hsound.told with hnone | ⟨outcome, -, hdone⟩
            · exact .inl hnone
            · rw [hqueued] at hdone
              cases hdone
    · cases hstep
  · cases hstep

theorem Orderly.finish (htask : s.tasks[index]? = some task) {outcome : Outcome}
    (hstep : s.finish index task outcome = some next) : next.Orderly := by
  unfold ServiceHandle.finish at hstep
  split at hstep
  · next hruns =>
    cases hstep
    have hsound := horderly.sound task (List.mem_of_getElem? htask)
    refine ⟨?_, ?_, horderly.rooms.finishes htask hruns outcome⟩
    · exact horderly.deliveries.callersJoin (books_setTask htask rfl)
        (List.append_nil _).symm fun _ hmem => (by cases hmem)
    · intro found hfound
      rcases List.mem_or_eq_of_mem_set hfound with hold | rfl
      · exact horderly.sound found hold
      · refine ⟨?_, (fun hcancelled => by cases hcancelled), ?_⟩
        · change task.runs = 1
          rw [hsound.once, hruns]
          rfl
        · rcases hsound.told with hnone | ⟨other, -, hdone⟩
          · exact .inl hnone
          · rw [hruns] at hdone
            cases hdone
  · cases hstep

theorem Orderly.tells (hcaller : s.callers[place]? = some caller)
    (hphase : caller.phase = .awaiting index)
    (htask : s.tasks[index]? = some task) {outcome : Outcome}
    (hdone : task.status = .finished outcome) (changed : Caller)
    (hafter : ∀ index, changed.phase ≠ .awaiting index) :
    ((s.setTask index { task with delivered := (place, outcome) :: task.delivered }).setCaller
      place changed).Orderly := by
  have hbook : task.book = (place, []) := by
    have hmine := horderly.deliveries.awaited place caller index hcaller hphase
    unfold books at hmine
    rw [List.getElem?_map, htask] at hmine
    exact Option.some.inj hmine
  have howner : task.owner = place := congrArg Prod.fst hbook
  have hnone : task.delivered = [] := congrArg Prod.snd hbook
  have hbooks : (s.setTask index
      { task with delivered := (place, outcome) :: task.delivered }).books =
        s.books.set index (place, [(place, outcome)]) := by
    change (s.tasks.set index _).map RemoteTask.book = _
    rw [List.map_set]
    unfold RemoteTask.book
    rw [howner, hnone]
    rfl
  have hsound := horderly.sound task (List.mem_of_getElem? htask)
  refine ⟨horderly.deliveries.hears hcaller hphase hbooks rfl hafter, ?_, ?_⟩
  · intro found hfound
    rcases List.mem_or_eq_of_mem_set hfound with hold | rfl
    · exact horderly.sound found hold
    · refine ⟨hsound.once, hsound.kept, .inr ⟨outcome, ?_, hdone⟩⟩
      change (place, outcome) :: task.delivered = [(task.owner, outcome)]
      rw [howner, hnone]
  · have hrooms := horderly.rooms.hears
      { task with delivered := (place, outcome) :: task.delivered } htask rfl rfl rfl
    exact hrooms.apart hrooms.computed rfl rfl

theorem Orderly.resume (hcaller : s.callers[place]? = some caller)
    {again : Bool} (hstep : s.resume place caller again = some next) :
    next.Orderly := by
  unfold ServiceHandle.resume at hstep
  split at hstep
  · next index hphase =>
    obtain ⟨task, htask, hends⟩ := Option.bind_eq_some_iff.mp hstep
    have hsound := horderly.sound task (List.mem_of_getElem? htask)
    dsimp only at hends
    split at hends
    · next outcome hdone =>
      split at hends
      · cases hends
        exact horderly.tells hcaller hphase htask hdone _ fun _ hawaits => (by cases hawaits)
      · cases hends
        exact (horderly.tells hcaller hphase htask hdone _
          fun _ hawaits => (by cases hawaits)).release _
    · next hcancelled => exact absurd hcancelled hsound.kept
    · cases hends
    · cases hends
  · cases hstep

theorem Orderly.step {label : CallLabel} (hok : replacesAtRest s label = true)
    (hstep : s.step label = some next) : next.Orderly := by
  cases label with
  | computeCapacity maxInFlight =>
    cases hstep
    exact ⟨⟨horderly.deliveries.awaited, horderly.deliveries.owned⟩, horderly.sound,
      horderly.rooms.apart (Nat.lt_of_lt_of_le Nat.one_pos (Nat.le_max_left _ _)) rfl rfl⟩
  | acallBalanced tries =>
    cases hstep
    exact horderly.acallBalanced tries
  | acallAll maxConcurrency calls =>
    cases hstep
    exact horderly.acallAll maxConcurrency calls
  | enter place =>
    obtain ⟨caller, hcaller, hmove⟩ := Option.bind_eq_some_iff.mp hstep
    exact horderly.enter hcaller hmove
  | handOver place =>
    obtain ⟨caller, hcaller, hmove⟩ := Option.bind_eq_some_iff.mp hstep
    exact horderly.handOver hcaller hok hmove
  | run index =>
    obtain ⟨task, htask, hmove⟩ := Option.bind_eq_some_iff.mp hstep
    exact horderly.run htask hmove
  | finish index outcome =>
    obtain ⟨task, htask, hmove⟩ := Option.bind_eq_some_iff.mp hstep
    exact horderly.finish htask hmove
  | resume place again =>
    obtain ⟨caller, hcaller, hmove⟩ := Option.bind_eq_some_iff.mp hstep
    exact horderly.resume hcaller hmove
  | leave place =>
    obtain ⟨caller, hcaller, hmove⟩ := Option.bind_eq_some_iff.mp hstep
    exact horderly.leave hcaller hmove

end

section Settling

theorem work_setTask (changed : RemoteTask) (htask : s.tasks[index]? = some task) :
    (s.setTask index changed).work + task.work = s.work + changed.work := by
  have hset : total RemoteTask.work (s.tasks.set index changed) + task.work =
      total RemoteTask.work s.tasks + changed.work := total_set htask changed
  change total RemoteTask.work (s.tasks.set index changed) + total Caller.work s.callers +
      task.work = total RemoteTask.work s.tasks + total Caller.work s.callers + changed.work
  omega

theorem work_setCaller (changed : Caller) (hcaller : s.callers[place]? = some caller) :
    (s.setCaller place changed).work + caller.work = s.work + changed.work := by
  have hset : total Caller.work (s.callers.set place changed) + caller.work =
      total Caller.work s.callers + changed.work := total_set hcaller changed
  change total RemoteTask.work s.tasks + total Caller.work (s.callers.set place changed) +
      caller.work = total RemoteTask.work s.tasks + total Caller.work s.callers + changed.work
  omega

theorem work_run (htask : s.tasks[index]? = some task)
    (hstep : s.run index task = some next) : next.work < s.work := by
  unfold ServiceHandle.run at hstep
  split at hstep
  · next hqueued _ =>
    split at hstep
    · cases hstep
      have hset := work_setTask { task with
        status := .running
        runs := task.runs + 1
        largest := (s.executors.getLast?).getD 0 } htask
      have hbefore : task.work = 2 := by
        unfold RemoteTask.work
        rw [hqueued]
      change _ = s.work + 1 at hset
      omega
    · cases hstep
  · cases hstep

theorem work_finish (htask : s.tasks[index]? = some task) {outcome : Outcome}
    (hstep : s.finish index task outcome = some next) : next.work < s.work := by
  unfold ServiceHandle.finish at hstep
  split at hstep
  · next hruns =>
    cases hstep
    have hset := work_setTask { task with status := .finished outcome } htask
    have hbefore : task.work = 1 := by
      unfold RemoteTask.work
      rw [hruns]
    change _ = s.work + 0 at hset
    omega
  · cases hstep

theorem work_resume (hcaller : s.callers[place]? = some caller) {again : Bool}
    (hstep : s.resume place caller again = some next) : next.work < s.work := by
  unfold ServiceHandle.resume at hstep
  split at hstep
  · next index hphase =>
    obtain ⟨task, htask, hends⟩ := Option.bind_eq_some_iff.mp hstep
    have hbefore : caller.work = 1 := by
      unfold Caller.work
      rw [hphase]
    -- A coroutine that is not waiting any more has less to wait for.
    have hset : ∀ (mid : ServiceHandle) (phase : CallPhase),
        mid.callers[place]? = some caller →
          ({ caller with phase := phase } : Caller).work = 0 →
            (mid.setCaller place { caller with phase := phase }).work < mid.work := by
      intro mid phase hmid hafter
      have hless := work_setCaller { caller with phase := phase } hmid
      omega
    dsimp only at hends
    split at hends
    · next outcome hdone =>
      have hsame := work_setTask
        { task with delivered := (place, outcome) :: task.delivered } htask
      have htold : (s.setTask index
          { task with delivered := (place, outcome) :: task.delivered }).work = s.work :=
        Nat.add_right_cancel hsame
      split at hends
      · cases hends
        exact (hset (s.setTask index _) .inside hcaller rfl).trans_eq htold
      · cases hends
        exact (hset (s.setTask index _) .ended hcaller rfl).trans_eq htold
    · cases hends
      exact hset s .ended hcaller rfl
    · cases hends
    · cases hends
  · cases hstep

theorem work_step {label : CallLabel} (hgoes : label.goesOn = true)
    (hstep : s.step label = some next) : next.work < s.work := by
  cases label with
  | computeCapacity maxInFlight | acallBalanced tries
  | acallAll maxConcurrency calls | enter place | handOver place | leave place =>
    cases hgoes
  | run index =>
    obtain ⟨task, htask, hmove⟩ := Option.bind_eq_some_iff.mp hstep
    exact work_run htask hmove
  | finish index outcome =>
    obtain ⟨task, htask, hmove⟩ := Option.bind_eq_some_iff.mp hstep
    exact work_finish htask hmove
  | resume place again =>
    obtain ⟨caller, hcaller, hmove⟩ := Option.bind_eq_some_iff.mp hstep
    exact work_resume hcaller hmove

theorem Resting.notRunning (hrest : s.Resting) : ∀ task ∈ s.tasks, task.status ≠ .running := by
  intro task hmem hruns
  obtain ⟨index, hindex, hfound⟩ := List.getElem_of_mem hmem
  have hstuck := hrest (.finish index (.ok 0)) rfl
  simp only [ServiceHandle.step, List.getElem?_eq_getElem hindex, hfound,
    Option.bind_some, ServiceHandle.finish, hruns] at hstuck
  cases hstuck

theorem Resting.notQueued (hrest : s.Resting) (hrooms : s.Rooms) :
    ∀ task ∈ s.tasks, task.status ≠ .queued := by
  intro task hmem hqueued
  obtain ⟨index, hindex, hfound⟩ := List.getElem_of_mem hmem
  have hplaced := hrooms.placed task hmem
  have hexecutor := List.getElem?_eq_getElem hplaced
  have hnone : s.tasks.countP (fun other =>
      other.status = .running && other.executor = task.executor) = 0 := by
    rw [List.countP_eq_zero]
    intro other hother
    simp [hrest.notRunning other hother]
  have hstuck := hrest (.run index) rfl
  simp only [ServiceHandle.step, List.getElem?_eq_getElem hindex, hfound,
    Option.bind_some, ServiceHandle.run, hqueued, hexecutor, hnone,
    if_pos (hrooms.positive _ (List.getElem_mem hplaced))] at hstuck
  cases hstuck

theorem Resting.finished (hrest : s.Resting) (horderly : s.Orderly) :
    ∀ task ∈ s.tasks, task.runs = 1 ∧ ∃ outcome, task.status = .finished outcome ∧
      task.delivered = [(task.owner, outcome)] := by
  intro task hmem
  have hsound := horderly.sound task hmem
  obtain ⟨index, hindex, hfound⟩ := List.getElem_of_mem hmem
  have htask : s.tasks[index]? = some task := by
    rw [List.getElem?_eq_getElem hindex, hfound]
  cases hstatus : task.status with
  | queued => exact absurd hstatus (hrest.notQueued horderly.rooms task hmem)
  | running => exact absurd hstatus (hrest.notRunning task hmem)
  | cancelled => exact absurd hstatus hsound.kept
  | finished outcome =>
    refine ⟨?_, outcome, rfl, ?_⟩
    · rw [hsound.once, hstatus]
      rfl
    · rcases hsound.told with hnone | ⟨told, htold, hdone⟩
      · exfalso
        have hbook : s.books[index]? = some (task.owner, []) := by
          unfold books
          rw [List.getElem?_map, htask]
          exact congrArg (fun told => some (task.owner, told)) hnone
        obtain ⟨caller, hcaller, hawaits⟩ := horderly.deliveries.owned _ _ hbook
        have hstuck := hrest (.resume task.owner true) rfl
        simp only [ServiceHandle.step, hcaller, Option.bind_some, ServiceHandle.resume,
          hawaits, htask, hstatus, if_pos] at hstuck
        cases hstuck
      · rw [hstatus] at hdone
        cases hdone
        exact htold

end Settling

theorem Orderly.callsSurvive (horderly : s.Orderly) : s.CallsSurvive where
  sound := horderly.sound
  settles := by
    intro labels next hgoes hrun
    have hlength := runLabels_length_le work (fun _ _ _ => work_step) labels hgoes hrun
    omega
  settled := fun hrest => hrest.finished horderly
  bounded := horderly.rooms.bounded

theorem async_calls_survive (maxInFlight : ℕ) (s : ServiceHandle)
    (hrun : GuardedRun step (fun s label => replacesAtRest s label = true)
      (init maxInFlight) s) : s.CallsSurvive := by
  have horderly : s.Orderly :=
    hrun.invariant Orderly (orderly_init maxInFlight)
      fun _ _ _ hgood hok hstep => hgood.step hok hstep
  exact horderly.callsSurvive

/-- The capacity falls from 5 to 4 while one call runs, and the next call replaces
the executor. -/
def smallerCapacity : List CallLabel :=
  [.acallBalanced 1, .enter 0, .handOver 0, .run 0, .computeCapacity 4,
    .acallAll 2 2, .enter 1, .handOver 1, .run 1, .finish 1 (.error 7), .resume 1 false,
    .finish 0 (.ok 3), .resume 0 false]

theorem async_calls_survive_smallerCapacity :
    ∃ s : ServiceHandle, s.executors = [5, 4] ∧ s.tasks.length = 2 ∧ s.CallsSurvive :=
  ⟨_, rfl, rfl,
    async_calls_survive 5 _
      (guardedRun_of_checkedRun smallerCapacity
        (show checkedRun step (fun s label => replacesAtRest s label = true)
          (init 5) smallerCapacity = some _ from rfl))⟩

/-- Two calls of an `acall_all` on a handle with one thread; the capacity rises and a
balanced call replaces the executor: the waiting call is cancelled.  Without waiting
calls, three calls run at once where the capacity was never more than two. -/
theorem async_calls_cancelled_and_too_many :
    (∃ s : ServiceHandle, Reachable step (init 1) s ∧
      (∃ task ∈ s.tasks, task.status = .cancelled) ∧ ¬s.CallsSurvive) ∧
    (∃ s : ServiceHandle, Reachable step (init 1) s ∧
      s.runningCalls.length = 3 ∧ s.largestWhileRunning = 2 ∧ ¬s.CallsSurvive) := by
  constructor
  · refine ⟨_, reachable_of_runLabels [.acallAll 2 2, .enter 0, .enter 1, .handOver 0,
      .handOver 1, .run 0, .computeCapacity 2, .acallBalanced 1, .enter 2, .handOver 2] rfl,
      ⟨_, List.mem_cons_of_mem _ List.mem_cons_self, rfl⟩, ?_⟩
    intro hsurvive
    exact (hsurvive.sound _ (List.mem_cons_of_mem _ List.mem_cons_self)).kept rfl
  · refine ⟨_, reachable_of_runLabels [.acallBalanced 1, .enter 0, .handOver 0, .run 0,
      .computeCapacity 2, .acallAll 2 2, .enter 1, .enter 2, .handOver 1, .run 1,
      .handOver 2, .run 2] rfl, rfl, rfl, ?_⟩
    intro hsurvive
    have hbound := hsurvive.bounded
    change 3 ≤ 2 at hbound
    omega

end ServiceHandle

end PycloudParallel.AsyncCalls
