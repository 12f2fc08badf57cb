import PycloudParallel.HttpAdmissionSteps
import PycloudParallel.HttpAdmissionLifecycle
import PycloudParallel.HttpAdmissionSettles

/-!
# Exact admission and a pool that keeps its workers

As long as no handler of an open server raises anything but an `Exception`, the
accounts of the connections are exact and every worker stays.
-/

namespace PycloudParallel.HttpAdmission

open Parties

namespace Server

def unfinished (s : Server) : List Request :=
  (List.range s.accepted).filter (· ∉ s.released)

/-- No worker and no call of `server_close` can go on. -/
def Resting (s : Server) : Prop :=
  ∀ label : ServerLabel, label.inner = true → s.step label = none

structure ExactAdmission (maxWorkers queueCapacity : ℕ) (s : Server) : Prop where
  exact : s.unfinished.length + s.requestSlots = maxWorkers + queueCapacity
  bounded : s.overReleased = false
  /-- Each unfinished connection is queued, with one worker or with one call of
  `server_close`. -/
  held : ∀ request ∈ s.unfinished, s.owes request = 1
  refused : ∀ next, s.step .processRequest = some next →
    next.rejectedRequests ≠ s.rejectedRequests →
      s.workersClosed = true ∨ s.requestSlots = 0
  once : ∀ request, s.released.count request ≤ 1
  closed : ∀ request ∈ s.released,
    request ∈ s.closed ∨ .shutting request ∈ s.closers
  settled : s.Resting → ∀ request < s.accepted,
    s.released.count request = 1 ∧ request ∈ s.closed
  settles : ∀ labels next, (∀ label ∈ labels, label.inner = true) →
    runLabels step s labels = some next → labels.length ≤ s.work
  staffed : s.workersClosed = false →
    s.workers.length = maxWorkers ∧ ∀ phase ∈ s.workers, phase.serves = true
  takes : s.workersClosed = false → ∀ place, s.workers[place]? = some .waiting →
    s.queue ≠ [] → ∃ request next, s.step (.worker place .take) = some next ∧
      next.workers[place]? = some (.handling request)
  /-- A call that finds the server closed returns at once, so that another one
  may still be emptying the queue. -/
  emptied : .returned ∈ s.closers →
    (∃ phase ∈ s.closers, phase.drains = true) ∨ ∀ request, some request ∉ s.queue

variable {s : Server} {maxWorkers queueCapacity : ℕ}

theorem Books.count_le_one (hbooks : s.Books) (request : Request) :
    s.released.count request ≤ 1 := by
  have hplaced := hbooks.placed request
  split at hplaced <;> omega

theorem Books.lt_accepted (hbooks : s.Books) {request : Request}
    (hmem : request ∈ s.released) : request < s.accepted := by
  have hplaced := hbooks.placed request
  have hpos := List.count_pos_iff.mpr hmem
  split at hplaced
  · assumption
  · omega

theorem Books.unfinished_length (hbooks : s.Books) :
    s.unfinished.length + s.released.length = s.accepted := by
  have hperm : s.released.Perm ((List.range s.accepted).filter (· ∈ s.released)) := by
    rw [List.perm_ext_iff_of_nodup
      (List.nodup_iff_count_le_one.mpr hbooks.count_le_one)
      (List.Nodup.filter _ List.nodup_range)]
    intro request
    rw [List.mem_filter, List.mem_range, decide_eq_true_iff]
    exact ⟨fun hmem => ⟨hbooks.lt_accepted hmem, hmem⟩, fun hboth => hboth.2⟩
  have hrest : s.unfinished = (List.range s.accepted).filter
      (fun request => !decide (request ∈ s.released)) := by
    unfold unfinished
    refine List.filter_congr fun request _ => ?_
    exact decide_not
  have hsplit : s.accepted =
      ((List.range s.accepted).filter (· ∈ s.released)).length +
        s.unfinished.length := by
    rw [hrest]
    exact List.length_range.symm.trans (List.length_eq_length_filter_add _)
  have hkept := hperm.length_eq
  omega

theorem Books.held (hbooks : s.Books) {request : Request}
    (hmem : request ∈ s.unfinished) : s.owes request = 1 := by
  unfold unfinished at hmem
  rw [List.mem_filter, List.mem_range, decide_eq_true_iff] at hmem
  have hplaced := hbooks.placed request
  rw [if_pos hmem.1, List.count_eq_zero.mpr hmem.2] at hplaced
  exact hplaced

section Rest

theorem Resting.closers (hrest : s.Resting) :
    ∀ phase ∈ s.closers, phase = .returned := by
  intro phase hphase
  obtain ⟨place, hplace, hfound⟩ := List.getElem_of_mem hphase
  have hstuck : s.closeStep place phase = none := by
    have hnone := hrest (.closer place) rfl
    change (s.closers[place]?).bind _ = none at hnone
    rw [List.getElem?_eq_getElem hplace, hfound] at hnone
    exact hnone
  cases phase with
  | returned => rfl
  | entering | draining =>
    simp only [closeStep] at hstuck
    split at hstuck <;> cases hstuck
  | forcing active => cases active <;> cases hstuck
  | stopping left => cases left <;> cases hstuck
  | snapshot | discarding held | releasing held | shutting held | joining =>
    cases hstuck

theorem Resting.workers (hrest : s.Resting) :
    ∀ phase ∈ s.workers, phase = .stopped ∨ phase = .waiting ∧ s.queue = [] := by
  intro phase hphase
  obtain ⟨place, hplace, hfound⟩ := List.getElem_of_mem hphase
  have hstuck : ∀ move, s.workerStep place phase move = none := by
    intro move
    have hnone := hrest (.worker place move) rfl
    change (s.workers[place]?).bind _ = none at hnone
    rw [List.getElem?_eq_getElem hplace, hfound] at hnone
    exact hnone
  cases phase with
  | stopped => exact .inl rfl
  | waiting =>
    have hnone := hstuck .take
    simp only [workerStep] at hnone
    right
    refine ⟨rfl, ?_⟩
    cases hqueue : s.queue with
    | nil => rfl
    | cons item rest =>
      rw [hqueue] at hnone
      cases item <;> cases hnone
  | handling held => cases hstuck (.finish .returned)
  | shutting held dies | discarding held dies | releasing held dies =>
    cases hstuck .next

theorem Resting.queue (hrest : s.Resting)
    (hlife : s.Lifecycle maxWorkers queueCapacity) (hpos : 0 < maxWorkers)
    (request : Request) : some request ∉ s.queue := by
  cases hopen : s.workersClosed with
  | false =>
    have hlength : 0 < s.workers.length := by
      rw [hlife.staffed, hlife.sized.1]
      exact hpos
    have hfirst := List.getElem_mem hlength
    rcases hrest.workers _ hfirst with hstopped | ⟨-, hempty⟩
    · have hserves := hlife.serving hopen _ hfirst
      rw [hstopped] at hserves
      cases hserves
    · rw [hempty]
      exact List.not_mem_nil
  | true =>
    rcases hlife.drained hopen with ⟨phase, hphase, hdrains⟩ | hnone
    · rw [hrest.closers phase hphase] at hdrains
      cases hdrains
    · exact hnone request

theorem Resting.finished (hrest : s.Resting) (hbooks : s.Books)
    (hlife : s.Lifecycle maxWorkers queueCapacity) (hpos : 0 < maxWorkers)
    {request : Request} (hless : request < s.accepted) :
    s.released.count request = 1 ∧ request ∈ s.closed := by
  have howes : s.owes request = 0 := by
    have hqueue : s.queue.count (some request) = 0 :=
      List.count_eq_zero.mpr (hrest.queue hlife hpos request)
    have hworkers : total (WorkerPhase.holds request) s.workers = 0 := by
      rw [total_eq_zero_iff]
      intro phase hphase
      rcases hrest.workers phase hphase with rfl | ⟨rfl, -⟩ <;> rfl
    have hclosers : total (ClosePhase.holds request) s.closers = 0 := by
      rw [total_eq_zero_iff]
      intro phase hphase
      rw [hrest.closers phase hphase]
      rfl
    unfold owes
    omega
  have hplaced := hbooks.placed request
  rw [if_pos hless, howes, Nat.zero_add] at hplaced
  refine ⟨hplaced, ?_⟩
  have hreleased : request ∈ s.released := by
    refine List.count_pos_iff.mp ?_
    omega
  rcases hbooks.finished request hreleased with hclosed | hshutting
  · exact hclosed
  · cases hrest.closers _ hshutting

end Rest

theorem Lifecycle.takes (hlife : s.Lifecycle maxWorkers queueCapacity)
    (hopen : s.workersClosed = false) {place : ℕ}
    (hphase : s.workers[place]? = some .waiting) (hqueue : s.queue ≠ []) :
    ∃ request next, s.step (.worker place .take) = some next ∧
      next.workers[place]? = some (.handling request) := by
  obtain ⟨hplace, -⟩ := List.getElem?_eq_some_iff.mp hphase
  cases hitems : s.queue with
  | nil => exact absurd hitems hqueue
  | cons item rest =>
    cases item with
    | none =>
      refine absurd ?_ (hlife.unstopped hopen)
      rw [hitems]
      exact List.mem_cons_self
    | some request =>
      refine ⟨request, s.dropFirst.setWorker place (.handling request), ?_, ?_⟩
      · change (s.workers[place]?).bind _ = _
        rw [hphase, Option.bind_some]
        unfold Server.workerStep
        rw [hitems]
      · exact List.getElem?_set_self hplace

theorem refused_of_rejected {next : Server}
    (hstep : s.step .processRequest = some next)
    (hrejected : next.rejectedRequests ≠ s.rejectedRequests) :
    s.workersClosed = true ∨ s.requestSlots = 0 := by
  cases hstep
  unfold Server.processRequest at hrejected
  split at hrejected
  · next hrefuses =>
    rcases (Bool.or_eq_true _ _).mp hrefuses with hshut | hfull
    · exact .inl hshut
    · exact .inr (beq_iff_eq.mp hfull)
  · exact absurd rfl hrejected

theorem Lifecycle.exactAdmission (hlife : s.Lifecycle maxWorkers queueCapacity)
    (hbooks : s.Books) (hpos : 0 < maxWorkers) :
    s.ExactAdmission maxWorkers queueCapacity where
  exact := by
    have hslots := hbooks.slots
    have hlength := hbooks.unfinished_length
    rw [hlife.sized.1, hlife.sized.2] at hslots
    omega
  bounded := hbooks.bounded
  held := fun _ hmem => hbooks.held hmem
  refused := fun _ hstep hrejected => refused_of_rejected hstep hrejected
  once := hbooks.count_le_one
  closed := hbooks.finished
  settled := fun hrest _ hless => hrest.finished hbooks hlife hpos hless
  settles := by
    intro labels next hinner hrun
    have hlength := work_runLabels labels hinner hrun
    omega
  staffed := fun hopen => ⟨hlife.staffed.trans hlife.sized.1, hlife.serving hopen⟩
  takes := fun hopen _ hphase hqueue => hlife.takes hopen hphase hqueue
  emptied := by
    intro hreturned
    refine hlife.drained ?_
    cases hopen : s.workersClosed with
    | true => rfl
    | false => cases hlife.unclosed hopen _ hreturned

theorem admission_exact (maxWorkers queueCapacity : ℕ) (hpos : 0 < maxWorkers)
    (s : Server)
    (hrun : GuardedRun step (fun s label => handlersRaiseExceptions s label = true)
      (init maxWorkers queueCapacity) s) :
    s.ExactAdmission maxWorkers queueCapacity := by
  have hboth : s.Lifecycle maxWorkers queueCapacity ∧ s.Books :=
    hrun.invariant (fun s => s.Lifecycle maxWorkers queueCapacity ∧ s.Books)
      ⟨lifecycle_init, books_init maxWorkers queueCapacity⟩
      fun _ _ _ hgood hok hstep =>
        ⟨hgood.1.step hok hstep, hgood.2.step hstep⟩
  exact hboth.1.exactAdmission hboth.2 hpos

def closedWhileQueued : List ServerLabel :=
  [.processRequest, .processRequest, .processRequest, .worker 0 .take,
    .worker 0 (.finish .raised), .serverClose, .closer 0, .closer 0, .worker 0 .next,
    .closer 0, .closer 0, .closer 0, .closer 0, .closer 0, .worker 0 .next, .closer 0,
    .closer 0, .worker 0 .next, .closer 0, .closer 0, .closer 0, .closer 0,
    .worker 0 .take]

theorem admission_exact_closedWhileQueued :
    ∃ s : Server, s.accepted = 2 ∧ s.rejectedRequests = 1 ∧
      .returned ∈ s.closers ∧ s.ExactAdmission 1 1 :=
  ⟨_, rfl, rfl, by decide,
    admission_exact 1 1 Nat.one_pos _
      (guardedRun_of_checkedRun closedWhileQueued
        (show checkedRun step (fun s label => handlersRaiseExceptions s label = true)
          (init 1 1) closedWhileQueued = some _ from rfl))⟩

/-- One worker and no places to queue: after `SystemExit` out of the first
handler, the second connection is admitted, and no worker is left for it. -/
theorem worker_lost_to_systemExit :
    ∃ s : Server, Reachable step (init 1 0) s ∧ s.workersClosed = false ∧
      s.workers = [.stopped] ∧ s.queue = [some 1] ∧ ¬s.ExactAdmission 1 0 := by
  refine ⟨_, reachable_of_runLabels [.processRequest, .worker 0 .take,
    .worker 0 (.finish .raisedBase), .worker 0 .next, .worker 0 .next,
    .worker 0 .next, .processRequest] rfl, rfl, rfl, rfl, ?_⟩
  intro hexact
  have hserves := (hexact.staffed rfl).2 .stopped List.mem_cons_self
  cases hserves

end Server

end PycloudParallel.HttpAdmission
