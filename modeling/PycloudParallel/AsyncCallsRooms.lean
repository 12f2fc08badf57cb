import PycloudParallel.AsyncCallsModel
import Mathlib.Data.Finset.Max
import Mathlib.Data.List.MinMax

/-!
# Running calls and capacities

The calls that run on an executor or on a newer one, with all the threads the
executor in use may still employ, stay within the largest capacity in force since
any of them runs.
-/

namespace PycloudParallel.AsyncCalls

open Parties

namespace ServiceHandle

def inForce (s : ServiceHandle) : ℕ := (s.executors.getLast?).getD 0

def runningFrom (s : ServiceHandle) (first : ℕ) : ℕ :=
  total (RemoteTask.runningFrom first) s.tasks

structure Rooms (s : ServiceHandle) : Prop where
  computed : 0 < s.capacity
  positive : ∀ maxWorkers ∈ s.executors, 0 < maxWorkers
  placed : ∀ task ∈ s.tasks, task.executor < s.executors.length
  newest : ∀ task ∈ s.tasks, task.status = .queued → task.executor = s.inUse
  room : s.runningFrom s.inUse ≤ s.inForce
  spread : ∀ task ∈ s.tasks, task.status = .running →
    s.runningFrom task.executor + s.inForce ≤ task.largest + s.runningFrom s.inUse

theorem rooms_init (maxInFlight : ℕ) : (init maxInFlight).Rooms where
  computed := Nat.lt_of_lt_of_le Nat.one_pos (Nat.le_max_left _ _)
  positive := fun _ hmem => by cases hmem
  placed := fun _ hmem => by cases hmem
  newest := fun _ hmem => by cases hmem
  room := le_rfl
  spread := fun _ hmem => by cases hmem

variable {s next : ServiceHandle}

theorem Rooms.apart (hrooms : s.Rooms) (hcomputed : 0 < next.capacity)
    (hexecutors : next.executors = s.executors) (htasks : next.tasks = s.tasks) :
    next.Rooms := by
  have huse : next.inUse = s.inUse := by
    unfold inUse
    rw [hexecutors]
  have hforce : next.inForce = s.inForce := by
    unfold inForce
    rw [hexecutors]
  have hrunning : ∀ first, next.runningFrom first = s.runningFrom first := by
    intro first
    unfold runningFrom
    rw [htasks]
  refine ⟨hcomputed, ?_, ?_, ?_, ?_, ?_⟩
  · rw [hexecutors]
    exact hrooms.positive
  · rw [hexecutors, htasks]
    exact hrooms.placed
  · rw [huse, htasks]
    exact hrooms.newest
  · rw [huse, hforce, hrunning]
    exact hrooms.room
  · rw [htasks]
    intro task hmem hruns
    rw [huse, hforce, hrunning, hrunning]
    exact hrooms.spread task hmem hruns

variable {index : ℕ} {task : RemoteTask}

theorem runningFrom_setTask (changed : RemoteTask)
    (htask : s.tasks[index]? = some task) (first : ℕ) :
    (s.setTask index changed).runningFrom first + task.runningFrom first =
      s.runningFrom first + changed.runningFrom first :=
  total_set htask changed

theorem le_inUse (hrooms : s.Rooms) (hmem : task ∈ s.tasks) :
    task.executor ≤ s.inUse := by
  have hplaced := hrooms.placed task hmem
  unfold inUse
  omega

theorem runningOn_inUse (hrooms : s.Rooms) :
    s.tasks.countP (fun other =>
        other.status = .running && other.executor = s.inUse) =
      s.runningFrom s.inUse := by
  have hmeasure : ∀ tasks : List RemoteTask, (∀ task ∈ tasks, task.executor ≤ s.inUse) →
      tasks.countP (fun other =>
        other.status = .running && other.executor = s.inUse) =
      total (RemoteTask.runningFrom s.inUse) tasks := by
    intro tasks hle
    induction tasks with
    | nil => rfl
    | cons task rest ih =>
      have hrest := ih fun other hmem => hle other (List.mem_cons_of_mem _ hmem)
      have hfirst := hle task List.mem_cons_self
      rw [List.countP_cons, total_cons, hrest, Nat.add_comm]
      congr 1
      unfold RemoteTask.runningFrom
      simp only [Bool.and_eq_true, decide_eq_true_eq]
      refine if_congr ?_ rfl rfl
      constructor
      · rintro ⟨hruns, hhere⟩
        exact ⟨hruns, hhere.ge⟩
      · rintro ⟨hruns, hhere⟩
        exact ⟨hruns, hfirst.antisymm hhere⟩
  exact hmeasure s.tasks fun _ hmem => le_inUse hrooms hmem

theorem inForce_of_getElem? {maxWorkers : ℕ}
    (hfound : s.executors[s.inUse]? = some maxWorkers) : s.inForce = maxWorkers := by
  unfold inForce
  rw [List.getLast?_eq_getElem?]
  exact congrArg (Option.getD · 0) hfound

section

variable (hrooms : s.Rooms)

include hrooms

theorem Rooms.runs (htask : s.tasks[index]? = some task)
    (hqueued : task.status = .queued)
    (hfree : s.runningFrom s.inUse < s.inForce) (runs : ℕ) :
    (s.setTask index { task with
      status := .running
      runs := runs
      largest := s.inForce }).Rooms := by
  have hnewest := hrooms.newest task (List.mem_of_getElem? htask) hqueued
  have hcount : ∀ first ≤ s.inUse,
      (s.setTask index { task with
        status := .running
        runs := runs
        largest := s.inForce }).runningFrom first = s.runningFrom first + 1 := by
    intro first hfirst
    have hset := runningFrom_setTask { task with
      status := .running
      runs := runs
      largest := s.inForce } htask first
    have hbefore : task.runningFrom first = 0 := by
      unfold RemoteTask.runningFrom
      rw [hqueued]
      rfl
    have hafter : ({ task with
        status := .running
        runs := runs
        largest := s.inForce } : RemoteTask).runningFrom first = 1 := by
      unfold RemoteTask.runningFrom
      exact if_pos ⟨rfl, hfirst.trans hnewest.ge⟩
    omega
  refine ⟨hrooms.computed, hrooms.positive, ?_, ?_, ?_, ?_⟩
  · intro found hfound
    rcases List.mem_or_eq_of_mem_set hfound with hold | rfl
    · exact hrooms.placed found hold
    · exact hrooms.placed task (List.mem_of_getElem? htask)
  · intro found hfound hstatus
    rcases List.mem_or_eq_of_mem_set hfound with hold | rfl
    · exact hrooms.newest found hold hstatus
    · cases hstatus
  · have hnow := hcount s.inUse le_rfl
    change (s.setTask index _).runningFrom s.inUse ≤ s.inForce
    omega
  · intro found hfound hruns
    change (s.setTask index _).runningFrom found.executor + s.inForce ≤
      found.largest + (s.setTask index _).runningFrom s.inUse
    have hnow := hcount s.inUse le_rfl
    rcases List.mem_or_eq_of_mem_set hfound with hold | rfl
    · have hthen := hcount found.executor (le_inUse hrooms hold)
      have hspread := hrooms.spread found hold hruns
      omega
    · change (s.setTask index _).runningFrom task.executor + s.inForce ≤
        s.inForce + (s.setTask index _).runningFrom s.inUse
      rw [hnewest, Nat.add_comm]

theorem Rooms.finishes (htask : s.tasks[index]? = some task)
    (hruns : task.status = .running) (outcome : Outcome) :
    (s.setTask index { task with status := .finished outcome }).Rooms := by
  have hmem := List.mem_of_getElem? htask
  have hcount : ∀ first,
      (s.setTask index { task with status := .finished outcome }).runningFrom first +
        (if first ≤ task.executor then 1 else 0) = s.runningFrom first := by
    intro first
    have hset := runningFrom_setTask
      { task with status := .finished outcome } htask first
    have hbefore : task.runningFrom first = if first ≤ task.executor then 1 else 0 := by
      unfold RemoteTask.runningFrom
      simp only [hruns, true_and]
    have hafter :
        ({ task with status := .finished outcome } : RemoteTask).runningFrom first = 0 := by
      unfold RemoteTask.runningFrom
      rw [if_neg]
      rintro ⟨hstatus, -⟩
      cases hstatus
    omega
  refine ⟨hrooms.computed, hrooms.positive, ?_, ?_, ?_, ?_⟩
  · intro found hfound
    rcases List.mem_or_eq_of_mem_set hfound with hold | rfl
    · exact hrooms.placed found hold
    · exact hrooms.placed task hmem
  · intro found hfound hstatus
    rcases List.mem_or_eq_of_mem_set hfound with hold | rfl
    · exact hrooms.newest found hold hstatus
    · cases hstatus
  · have hnow := hcount s.inUse
    have hroom := hrooms.room
    change (s.setTask index _).runningFrom s.inUse ≤ s.inForce
    omega
  · intro found hfound hstatus
    change (s.setTask index _).runningFrom found.executor + s.inForce ≤
      found.largest + (s.setTask index _).runningFrom s.inUse
    rcases List.mem_or_eq_of_mem_set hfound with hold | rfl
    · -- What counts on the executor in use counts on the older one as well.
      have hnow := hcount s.inUse
      have hthen := hcount found.executor
      have hspread := hrooms.spread found hold hstatus
      have hle := le_inUse hrooms hold
      split at hnow <;> split at hthen <;> omega
    · cases hstatus

theorem Rooms.hears (changed : RemoteTask)
    (htask : s.tasks[index]? = some task)
    (hstatus : changed.status = task.status)
    (hexecutor : changed.executor = task.executor)
    (hlargest : changed.largest = task.largest) :
    (s.setTask index changed).Rooms := by
  have hmem := List.mem_of_getElem? htask
  have hcount : ∀ first,
      (s.setTask index changed).runningFrom first = s.runningFrom first := by
    intro first
    have hset := runningFrom_setTask changed htask first
    have hsame : changed.runningFrom first = task.runningFrom first := by
      unfold RemoteTask.runningFrom
      rw [hstatus, hexecutor]
    omega
  refine ⟨hrooms.computed, hrooms.positive, ?_, ?_, ?_, ?_⟩
  · intro found hfound
    rcases List.mem_or_eq_of_mem_set hfound with hold | rfl
    · exact hrooms.placed found hold
    · exact hexecutor.trans_lt (hrooms.placed task hmem)
  · intro found hfound hqueued
    rcases List.mem_or_eq_of_mem_set hfound with hold | rfl
    · exact hrooms.newest found hold hqueued
    · exact hexecutor.trans (hrooms.newest task hmem (hstatus.symm.trans hqueued))
  · rw [hcount]
    exact hrooms.room
  · intro found hfound hruns
    rw [hcount, hcount]
    rcases List.mem_or_eq_of_mem_set hfound with hold | rfl
    · exact hrooms.spread found hold hruns
    · rw [hexecutor, hlargest]
      exact hrooms.spread task hmem (hstatus.symm.trans hruns)

theorem Rooms.replaces (hempty : ∀ task ∈ s.tasks, task.status ≠ .queued)
    (hleaves : ∀ task ∈ s.tasks, task.status = .running →
      s.runningFrom task.executor + s.capacity ≤ max task.largest s.capacity) :
    s.replaceExecutor.Rooms := by
  have hsame : ∀ task ∈ s.tasks,
      (task.replaced s.inUse s.capacity).status = task.status ∧
        (task.replaced s.inUse s.capacity).executor = task.executor := by
    intro task hmem
    unfold RemoteTask.replaced
    split
    · next hqueued => exact absurd hqueued (hempty task hmem)
    · exact ⟨rfl, rfl⟩
    · exact ⟨rfl, rfl⟩
    · exact ⟨rfl, rfl⟩
  have hcount : ∀ first, s.replaceExecutor.runningFrom first = s.runningFrom first := by
    intro first
    refine total_map_eq fun task hmem => ?_
    obtain ⟨hstatus, hexecutor⟩ := hsame task hmem
    unfold RemoteTask.runningFrom
    rw [hstatus, hexecutor]
  have huse : s.replaceExecutor.inUse = s.executors.length := by
    change (s.executors ++ [s.capacity]).length - 1 = s.executors.length
    rw [List.length_append]
    rfl
  have hforce : s.replaceExecutor.inForce = s.capacity := by
    change ((s.executors ++ [s.capacity]).getLast?).getD 0 = s.capacity
    rw [List.getLast?_concat]
    rfl
  have hnone : s.runningFrom s.executors.length = 0 := by
    refine total_eq_zero_iff.mpr fun task hmem => ?_
    have hplaced := hrooms.placed task hmem
    unfold RemoteTask.runningFrom
    rw [if_neg]
    rintro ⟨-, hle⟩
    omega
  refine ⟨hrooms.computed, ?_, ?_, ?_, ?_, ?_⟩
  · intro maxWorkers hmem
    rcases List.mem_append.mp hmem with hold | hnew
    · exact hrooms.positive maxWorkers hold
    · rw [List.mem_singleton.mp hnew]
      exact hrooms.computed
  · intro found hfound
    obtain ⟨task, hmem, rfl⟩ := List.mem_map.mp hfound
    change (task.replaced s.inUse s.capacity).executor < (s.executors ++ [s.capacity]).length
    rw [(hsame task hmem).2, List.length_append]
    exact Nat.lt_add_right _ (hrooms.placed task hmem)
  · intro found hfound hqueued
    obtain ⟨task, hmem, rfl⟩ := List.mem_map.mp hfound
    exact absurd ((hsame task hmem).1.symm.trans hqueued) (hempty task hmem)
  · rw [hcount, huse, hnone]
    exact Nat.zero_le _
  · intro found hfound hruns
    obtain ⟨task, hmem, rfl⟩ := List.mem_map.mp hfound
    have hstatus := (hsame task hmem).1.symm.trans hruns
    have hlargest : (task.replaced s.inUse s.capacity).largest =
        max task.largest s.capacity := by
      unfold RemoteTask.replaced
      rw [hstatus]
    have hroom := hleaves task hmem hstatus
    rw [(hsame task hmem).2, hlargest, hcount, hcount, hforce, huse, hnone]
    exact hroom

theorem Rooms.submits (hmade : s.executors ≠ []) (place : ℕ)
    (caller : Caller) : (s.submit place caller).Rooms := by
  have hlength : 0 < s.executors.length := List.length_pos_iff.mpr hmade
  have hcount : ∀ first,
      (s.submit place caller).runningFrom first = s.runningFrom first := by
    intro first
    change total _ (s.tasks ++ [_]) = total _ s.tasks
    rw [total_append, total_cons, total_nil]
    rfl
  refine ⟨hrooms.computed, hrooms.positive, ?_, ?_, ?_, ?_⟩
  · intro found hfound
    rcases List.mem_append.mp hfound with hold | hnew
    · exact hrooms.placed found hold
    · rw [List.mem_singleton.mp hnew]
      exact Nat.sub_lt hlength Nat.one_pos
  · intro found hfound hqueued
    rcases List.mem_append.mp hfound with hold | hnew
    · exact hrooms.newest found hold hqueued
    · rw [List.mem_singleton.mp hnew]
      rfl
  · rw [hcount]
    exact hrooms.room
  · intro found hfound hruns
    rw [hcount, hcount]
    rcases List.mem_append.mp hfound with hold | hnew
    · exact hrooms.spread found hold hruns
    · rw [List.mem_singleton.mp hnew] at hruns
      cases hruns

end

def runningCalls (s : ServiceHandle) : List RemoteTask :=
  s.tasks.filter (·.status = .running)

/-- The largest capacity in force while the calls that run now have been running. -/
def largestWhileRunning (s : ServiceHandle) : ℕ :=
  (s.runningCalls.map RemoteTask.largest).foldr max 0

theorem length_runningCalls_le (s : ServiceHandle) (first : ℕ)
    (hall : ∀ task ∈ s.runningCalls, first ≤ task.executor) :
    s.runningCalls.length ≤ s.runningFrom first := by
  have hcount : ∀ tasks : List RemoteTask,
      (∀ task ∈ tasks.filter (·.status = .running), first ≤ task.executor) →
        (tasks.filter (·.status = .running)).length ≤
          total (RemoteTask.runningFrom first) tasks := by
    intro tasks hfrom
    induction tasks with
    | nil => exact Nat.zero_le _
    | cons task rest ih =>
      rw [total_cons]
      by_cases hruns : task.status = .running
      · rw [List.filter_cons_of_pos (by simpa using hruns)] at hfrom ⊢
        have hrest := ih fun other hmem => hfrom other (List.mem_cons_of_mem _ hmem)
        have hfirst := hfrom task List.mem_cons_self
        have hone : task.runningFrom first = 1 := if_pos ⟨hruns, hfirst⟩
        rw [List.length_cons]
        omega
      · rw [List.filter_cons_of_neg (by simpa using hruns)] at hfrom ⊢
        exact (ih hfrom).trans (Nat.le_add_left _ _)
  exact hcount s.tasks hall

theorem Rooms.bounded (hrooms : s.Rooms) :
    s.runningCalls.length ≤ s.largestWhileRunning := by
  rcases Finset.eq_empty_or_nonempty s.runningCalls.toFinset with hnone | hsome
  · rw [(List.toFinset_eq_empty_iff _).mp hnone]
    exact Nat.zero_le _
  · obtain ⟨oldest, holdest, hmin⟩ :=
      Finset.exists_min_image _ RemoteTask.executor hsome
    rw [List.mem_toFinset] at holdest
    obtain ⟨hmem, hruns⟩ := List.mem_filter.mp holdest
    have hcount := s.length_runningCalls_le oldest.executor fun task htask =>
      hmin task (List.mem_toFinset.mpr htask)
    have hspread := hrooms.spread oldest hmem (of_decide_eq_true hruns)
    have hroom := hrooms.room
    have hlargest : oldest.largest ≤ s.largestWhileRunning :=
      List.le_max_of_le' 0 (List.mem_map_of_mem holdest) le_rfl
    omega

end ServiceHandle

end PycloudParallel.AsyncCalls
