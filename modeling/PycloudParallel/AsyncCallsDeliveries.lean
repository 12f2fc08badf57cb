import PycloudParallel.AsyncCallsModel

/-!
# Every remote call has its caller

A remote call that nobody has heard of yet is the one that its owner waits for,
and nobody waits for another one.
-/

namespace PycloudParallel.AsyncCalls

def TaskStatus.ran : TaskStatus → ℕ
  | .queued | .cancelled => 0
  | .running | .finished _ => 1

namespace RemoteTask

def book (task : RemoteTask) : ℕ × List (ℕ × Outcome) := (task.owner, task.delivered)

/-- The call was run once if at all, was not cancelled, and its owner, if anybody,
has been told what came out, once. -/
structure Sound (task : RemoteTask) : Prop where
  once : task.runs = task.status.ran
  kept : task.status ≠ .cancelled
  told : task.delivered = [] ∨
    ∃ outcome, task.delivered = [(task.owner, outcome)] ∧ task.status = .finished outcome

theorem book_replaced (old capacity : ℕ) (task : RemoteTask) :
    (task.replaced old capacity).book = task.book := by
  unfold replaced
  split
  · split <;> rfl
  · rfl
  · rfl
  · rfl

end RemoteTask

namespace ServiceHandle

def books (s : ServiceHandle) : List (ℕ × List (ℕ × Outcome)) :=
  s.tasks.map RemoteTask.book

structure Deliveries (s : ServiceHandle) : Prop where
  awaited : ∀ (place : ℕ) (caller : Caller) (index : ℕ), s.callers[place]? = some caller →
    caller.phase = .awaiting index → s.books[index]? = some (place, [])
  owned : ∀ (index owner : ℕ), s.books[index]? = some (owner, []) →
    ∃ caller : Caller, s.callers[owner]? = some caller ∧ caller.phase = .awaiting index

theorem deliveries_init (maxInFlight : ℕ) : (init maxInFlight).Deliveries := by
  constructor
  · intro place caller index hcaller
    cases hcaller
  · intro index owner hbook
    cases hbook

variable {s next : ServiceHandle} {place : ℕ} {caller changed : Caller}

theorem getElem?_of_mem_set {α : Type*} {items : List α} {here other : ℕ} {item found : α}
    (hfound : (items.set here item)[other]? = some found) :
    here = other ∧ found = item ∨ here ≠ other ∧ items[other]? = some found := by
  rcases eq_or_ne here other with rfl | hne
  · rw [List.getElem?_set_self'] at hfound
    obtain ⟨_, -, hitem⟩ := Option.map_eq_some_iff.mp hfound
    exact .inl ⟨rfl, hitem.symm⟩
  · rw [List.getElem?_set_ne hne] at hfound
    exact .inr ⟨hne, hfound⟩

section

variable (hdeliveries : s.Deliveries)

include hdeliveries

theorem Deliveries.callerMoves (hcaller : s.callers[place]? = some caller)
    (hbooks : next.books = s.books)
    (hcallers : next.callers = s.callers.set place changed)
    (hbefore : ∀ index, caller.phase ≠ .awaiting index)
    (hafter : ∀ index, changed.phase ≠ .awaiting index) : next.Deliveries := by
  constructor
  · intro other found index hfound hphase
    rw [hcallers] at hfound
    rw [hbooks]
    rcases getElem?_of_mem_set hfound with ⟨rfl, rfl⟩ | ⟨-, hold⟩
    · exact absurd hphase (hafter index)
    · exact hdeliveries.awaited other found index hold hphase
  · intro index owner hbook
    rw [hbooks] at hbook
    obtain ⟨found, hfound, hphase⟩ := hdeliveries.owned index owner hbook
    refine ⟨found, ?_, hphase⟩
    have hne : place ≠ owner := by
      rintro rfl
      rw [hcaller] at hfound
      cases hfound
      exact hbefore index hphase
    rw [hcallers, List.getElem?_set_ne hne]
    exact hfound

theorem Deliveries.callersJoin {joining : List Caller}
    (hbooks : next.books = s.books)
    (hcallers : next.callers = s.callers ++ joining)
    (hwaiting : ∀ caller ∈ joining, caller.phase = .waiting) :
    next.Deliveries := by
  constructor
  · intro other found index hfound hphase
    rw [hcallers] at hfound
    rw [hbooks]
    rcases Nat.lt_or_ge other s.callers.length with hold | hnew
    · rw [List.getElem?_append_left hold] at hfound
      exact hdeliveries.awaited other found index hfound hphase
    · rw [List.getElem?_append_right hnew] at hfound
      rw [hwaiting found (List.mem_of_getElem? hfound)] at hphase
      cases hphase
  · intro index owner hbook
    rw [hbooks] at hbook
    obtain ⟨found, hfound, hphase⟩ := hdeliveries.owned index owner hbook
    refine ⟨found, ?_, hphase⟩
    obtain ⟨hplace, -⟩ := List.getElem?_eq_some_iff.mp hfound
    rw [hcallers, List.getElem?_append_left hplace]
    exact hfound

theorem Deliveries.handsOver (hcaller : s.callers[place]? = some caller)
    (hbooks : next.books = s.books ++ [(place, [])])
    (hcallers : next.callers = s.callers.set place changed)
    (hbefore : ∀ index, caller.phase ≠ .awaiting index)
    (hafter : changed.phase = .awaiting s.books.length) : next.Deliveries := by
  obtain ⟨hplace, -⟩ := List.getElem?_eq_some_iff.mp hcaller
  constructor
  · intro other found index hfound hphase
    rw [hcallers] at hfound
    rw [hbooks]
    rcases getElem?_of_mem_set hfound with ⟨rfl, rfl⟩ | ⟨-, hold⟩
    · rw [hafter] at hphase
      cases hphase
      exact List.getElem?_concat_length
    · have hbook := hdeliveries.awaited other found index hold hphase
      obtain ⟨hindex, -⟩ := List.getElem?_eq_some_iff.mp hbook
      rw [List.getElem?_append_left hindex]
      exact hbook
  · intro index owner hbook
    rw [hbooks] at hbook
    rw [hcallers]
    rcases Nat.lt_or_ge index s.books.length with hold | hnew
    · rw [List.getElem?_append_left hold] at hbook
      obtain ⟨found, hfound, hphase⟩ := hdeliveries.owned index owner hbook
      have hne : place ≠ owner := by
        rintro rfl
        rw [hcaller] at hfound
        cases hfound
        exact hbefore index hphase
      exact ⟨found, (List.getElem?_set_ne hne).trans hfound, hphase⟩
    · rw [List.getElem?_append_right hnew, List.getElem?_singleton] at hbook
      split at hbook
      · next hzero =>
        cases hbook
        refine ⟨changed, List.getElem?_set_self hplace, hafter.trans ?_⟩
        have hindex : index = s.books.length := by omega
        rw [hindex]
      · cases hbook

theorem Deliveries.hears {index : ℕ} {outcome : Outcome}
    (hcaller : s.callers[place]? = some caller)
    (hphase : caller.phase = .awaiting index)
    (hbooks : next.books = s.books.set index (place, [(place, outcome)]))
    (hcallers : next.callers = s.callers.set place changed)
    (hafter : ∀ index, changed.phase ≠ .awaiting index) : next.Deliveries := by
  have hmine := hdeliveries.awaited place caller index hcaller hphase
  constructor
  · intro other found here hfound hwaits
    rw [hcallers] at hfound
    rcases getElem?_of_mem_set hfound with ⟨rfl, rfl⟩ | ⟨hne, hold⟩
    · exact absurd hwaits (hafter here)
    · have hbook := hdeliveries.awaited other found here hold hwaits
      have hother : index ≠ here := by
        rintro rfl
        rw [hmine] at hbook
        cases hbook
        exact hne rfl
      rw [hbooks, List.getElem?_set_ne hother]
      exact hbook
  · intro here owner hbook
    rw [hbooks] at hbook
    rcases getElem?_of_mem_set hbook with ⟨-, htold⟩ | ⟨hne, hold⟩
    · cases htold
    · obtain ⟨found, hfound, hwaits⟩ := hdeliveries.owned here owner hold
      refine ⟨found, ?_, hwaits⟩
      have hother : place ≠ owner := by
        rintro rfl
        rw [hcaller] at hfound
        cases hfound
        rw [hphase] at hwaits
        cases hwaits
        exact hne rfl
      rw [hcallers, List.getElem?_set_ne hother]
      exact hfound

end

theorem books_setTask {index : ℕ} {task changed : RemoteTask}
    (htask : s.tasks[index]? = some task) (hbook : changed.book = task.book) :
    (s.setTask index changed).books = s.books := by
  obtain ⟨hindex, hfound⟩ := List.getElem?_eq_some_iff.mp htask
  change (s.tasks.set index changed).map RemoteTask.book = s.tasks.map RemoteTask.book
  have hmapped : index < (s.tasks.map RemoteTask.book).length := by
    rw [List.length_map]
    exact hindex
  have hsame : (s.tasks.map RemoteTask.book)[index] = changed.book := by
    rw [List.getElem_map, hfound, hbook]
  rw [List.map_set, ← hsame, List.set_getElem_self]

theorem books_getAsyncCallExecutor : s.getAsyncCallExecutor.books = s.books := by
  unfold getAsyncCallExecutor
  split
  · rfl
  · change (s.tasks.map _).map RemoteTask.book = _
    rw [List.map_map]
    exact List.map_congr_left fun task _ => RemoteTask.book_replaced _ _ task

end ServiceHandle

end PycloudParallel.AsyncCalls
