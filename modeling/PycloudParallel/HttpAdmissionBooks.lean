import PycloudParallel.HttpAdmissionModel
import Mathlib.Data.List.Perm.Subperm
import Mathlib.Data.List.Nodup

/-!
# The books of the admitted connections

Each admitted connection stands in one place: in the queue, with a worker, with
a call of `server_close`, or among those whose slots have been given back.
-/

namespace PycloudParallel.HttpAdmission

open Parties

def WorkerPhase.holds (request : Request) : WorkerPhase → ℕ
  | .handling other | .shutting other _ | .discarding other _ | .releasing other _ =>
    if other = request then 1 else 0
  | .waiting | .stopped => 0

def ClosePhase.holds (request : Request) : ClosePhase → ℕ
  | .discarding other | .releasing other => if other = request then 1 else 0
  | _ => 0

def WorkerPhase.closes (request : Request) : WorkerPhase → Prop
  | .discarding other _ | .releasing other _ => other = request
  | _ => False

namespace Server

def owes (s : Server) (request : Request) : ℕ :=
  s.queue.count (some request) + total (WorkerPhase.holds request) s.workers +
    total (ClosePhase.holds request) s.closers

structure Books (s : Server) : Prop where
  placed : ∀ request, s.owes request + s.released.count request =
    if request < s.accepted then 1 else 0
  slots : s.requestSlots + s.accepted =
    s.maxWorkers + s.queueCapacity + s.released.length
  bounded : s.overReleased = false
  shut : ∀ phase ∈ s.workers, ∀ request, phase.closes request → request ∈ s.closed
  finished : ∀ request ∈ s.released,
    request ∈ s.closed ∨ .shutting request ∈ s.closers

theorem books_init (maxWorkers queueCapacity : ℕ) :
    (init maxWorkers queueCapacity).Books := by
  refine ⟨fun request => ?_, rfl, rfl, ?_, fun request hmem => by cases hmem⟩
  · have hworkers : total (WorkerPhase.holds request)
        (List.replicate maxWorkers .waiting) = 0 := by
      rw [total_eq_zero_iff]
      intro phase hphase
      rw [(List.mem_replicate.mp hphase).2]
      rfl
    simp [owes, init, hworkers]
  · intro phase hphase request hcloses
    rw [(List.mem_replicate.mp hphase).2] at hcloses
    cases hcloses

section Moves

variable {s next : Server} {place : ℕ}

structure SameSize (s next : Server) : Prop where
  maxWorkers : next.maxWorkers = s.maxWorkers
  queueCapacity : next.queueCapacity = s.queueCapacity
  accepted : next.accepted = s.accepted
  overReleased : next.overReleased = s.overReleased

theorem Books.workerMoves (hbooks : s.Books) (hsame : SameSize s next)
    {phase changed : WorkerPhase} (hphase : s.workers[place]? = some phase)
    (hworkers : next.workers = s.workers.set place changed)
    (hclosers : next.closers = s.closers)
    (hplaced : ∀ request, next.queue.count (some request) + changed.holds request +
        next.released.count request =
      s.queue.count (some request) + phase.holds request + s.released.count request)
    (hslots : next.requestSlots + s.released.length =
      s.requestSlots + next.released.length)
    (hclosed : ∀ request ∈ s.closed, request ∈ next.closed)
    (hshut : ∀ request, changed.closes request → request ∈ next.closed)
    (hfinished : ∀ request ∈ next.released,
      request ∈ s.released ∨ request ∈ next.closed) : next.Books := by
  refine ⟨?_, ?_, hsame.overReleased.trans hbooks.bounded, ?_, ?_⟩
  · intro request
    have htotal : total (WorkerPhase.holds request) (s.workers.set place changed) +
        phase.holds request =
          total (WorkerPhase.holds request) s.workers + changed.holds request :=
      total_set hphase changed
    have hold := hbooks.placed request
    have hnew := hplaced request
    unfold owes at hold ⊢
    rw [hworkers, hclosers, hsame.accepted]
    omega
  · rw [hsame.maxWorkers, hsame.queueCapacity, hsame.accepted]
    have hold := hbooks.slots
    omega
  · intro found hfound request hcloses
    rw [hworkers] at hfound
    rcases List.mem_or_eq_of_mem_set hfound with hold | rfl
    · exact hclosed request (hbooks.shut found hold request hcloses)
    · exact hshut request hcloses
  · intro request hmem
    rw [hclosers]
    rcases hfinished request hmem with hold | hnew
    · exact (hbooks.finished request hold).imp_left (hclosed request)
    · exact .inl hnew

theorem Books.closerMoves (hbooks : s.Books) (hsame : SameSize s next)
    {phase changed : ClosePhase} (hphase : s.closers[place]? = some phase)
    (hclosers : next.closers = s.closers.set place changed)
    (hworkers : next.workers = s.workers)
    (hplaced : ∀ request, next.queue.count (some request) + changed.holds request +
        next.released.count request =
      s.queue.count (some request) + phase.holds request + s.released.count request)
    (hslots : next.requestSlots + s.released.length =
      s.requestSlots + next.released.length)
    (hclosed : ∀ request ∈ s.closed, request ∈ next.closed)
    (hshut : ∀ request, phase = .shutting request → request ∈ next.closed)
    (hfinished : ∀ request ∈ next.released,
      request ∈ s.released ∨ changed = .shutting request) : next.Books := by
  obtain ⟨hplace, -⟩ := List.getElem?_eq_some_iff.mp hphase
  refine ⟨?_, ?_, hsame.overReleased.trans hbooks.bounded, ?_, ?_⟩
  · intro request
    have htotal : total (ClosePhase.holds request) (s.closers.set place changed) +
        phase.holds request =
          total (ClosePhase.holds request) s.closers + changed.holds request :=
      total_set hphase changed
    have hold := hbooks.placed request
    have hnew := hplaced request
    unfold owes at hold ⊢
    rw [hworkers, hclosers, hsame.accepted]
    omega
  · rw [hsame.maxWorkers, hsame.queueCapacity, hsame.accepted]
    have hold := hbooks.slots
    omega
  · intro found hfound request hcloses
    rw [hworkers] at hfound
    exact hclosed request (hbooks.shut found hfound request hcloses)
  · intro request hmem
    rw [hclosers]
    rcases hfinished request hmem with hold | hnew
    · rcases hbooks.finished request hold with hdone | hshutting
      · exact .inl (hclosed request hdone)
      · obtain ⟨other, hother, hfound⟩ := List.getElem_of_mem hshutting
        by_cases hhere : place = other
        · subst hhere
          rw [List.getElem?_eq_getElem hother, hfound] at hphase
          exact .inl (hshut request (Option.some.inj hphase).symm)
        · right
          refine List.mem_of_getElem? (i := other) ?_
          rw [List.getElem?_set_ne hhere, List.getElem?_eq_getElem hother, hfound]
    · rw [← hnew]
      exact .inr (List.mem_set hplace changed)

theorem Books.room (hbooks : s.Books) {request : Request} (howes : 0 < s.owes request) :
    s.requestSlots < s.maxWorkers + s.queueCapacity := by
  have hcount : ∀ other, s.released.count other ≤ 1 := by
    intro other
    have hplaced := hbooks.placed other
    split at hplaced <;> omega
  have hplaced := hbooks.placed request
  have hnew : request ∉ s.released := by
    intro hmem
    have hpos := List.count_pos_iff.mpr hmem
    split at hplaced <;> omega
  have hnodup : (request :: s.released).Nodup :=
    List.nodup_cons.mpr ⟨hnew, List.nodup_iff_count_le_one.mpr hcount⟩
  have hsubset : request :: s.released ⊆ List.range s.accepted := by
    intro other hmem
    rw [List.mem_range]
    have hother := hbooks.placed other
    rcases List.mem_cons.mp hmem with rfl | hold
    · split at hother
      · assumption
      · omega
    · have hpos := List.count_pos_iff.mpr hold
      split at hother
      · assumption
      · omega
  have hle := (hnodup.subperm hsubset).length_le
  rw [List.length_range, List.length_cons] at hle
  have hslots := hbooks.slots
  omega

theorem Books.release_eq (hbooks : s.Books) {request : Request}
    (howes : 0 < s.owes request) :
    s.release request = { s with
      requestSlots := s.requestSlots + 1
      released := request :: s.released } := by
  unfold release
  rw [if_pos (hbooks.room howes)]

end Moves

end Server

end PycloudParallel.HttpAdmission
