import PycloudParallel.HttpAdmissionModel

/-!
# The workers and the closing calls come to rest

Without new connections and new calls of `server_close`, each step leaves less
work: five steps for a waiting connection, and for a closing call what it has
still to force, to drain and to stop.
-/

namespace PycloudParallel.HttpAdmission

open Parties

def WorkerPhase.work : WorkerPhase → ℕ
  | .waiting | .stopped => 0
  | .handling _ => 4
  | .shutting _ _ => 3
  | .discarding _ _ => 2
  | .releasing _ _ => 1

def ClosePhase.work (maxWorkers active : ℕ) : ClosePhase → ℕ
  | .entering => 2 * maxWorkers + 6 + active
  | .snapshot => 2 * maxWorkers + 5 + active
  | .forcing rest => 2 * maxWorkers + 4 + rest.length
  | .discarding _ => 2 * maxWorkers + 6
  | .releasing _ => 2 * maxWorkers + 5
  | .shutting _ => 2 * maxWorkers + 4
  | .draining => 2 * maxWorkers + 3
  | .stopping left => 2 * left + 2
  | .joining => 1
  | .returned => 0

def itemWork : Option Request → ℕ
  | none => 1
  | some _ => 5

/-- A step of a worker or of a call of `server_close`. -/
def ServerLabel.inner : ServerLabel → Bool
  | .worker _ _ | .closer _ => true
  | .processRequest | .serverClose => false

namespace Server

def work (s : Server) : ℕ :=
  total itemWork s.queue + total WorkerPhase.work s.workers +
    total (ClosePhase.work s.maxWorkers s.activeRequests.length) s.closers

variable {s next : Server} {place : ℕ}

theorem closerWork_mono (maxWorkers : ℕ) {fewer more : ℕ} (hle : fewer ≤ more)
    (closers : List ClosePhase) :
    total (ClosePhase.work maxWorkers fewer) closers ≤
      total (ClosePhase.work maxWorkers more) closers := by
  induction closers with
  | nil => exact le_rfl
  | cons phase rest ih =>
    rw [total_cons, total_cons]
    refine Nat.add_le_add ?_ ih
    cases phase with
    | entering | snapshot => exact Nat.add_le_add_left hle _
    | forcing _ | draining | discarding _ | releasing _ | shutting _
    | stopping _ | joining | returned => exact le_rfl

theorem work_workerMoves {phase changed : WorkerPhase}
    (hphase : s.workers[place]? = some phase) (hmax : next.maxWorkers = s.maxWorkers)
    (hworkers : next.workers = s.workers.set place changed)
    (hclosers : next.closers = s.closers)
    (hactive : next.activeRequests.length ≤ s.activeRequests.length)
    (hless : total itemWork next.queue + changed.work <
      total itemWork s.queue + phase.work) : next.work < s.work := by
  have hset : total WorkerPhase.work (s.workers.set place changed) + phase.work =
      total WorkerPhase.work s.workers + changed.work := total_set hphase changed
  have hmono := closerWork_mono s.maxWorkers hactive s.closers
  unfold work
  rw [hmax, hworkers, hclosers]
  omega

theorem work_closerMoves {phase changed : ClosePhase}
    (hphase : s.closers[place]? = some phase) (hmax : next.maxWorkers = s.maxWorkers)
    (hworkers : next.workers = s.workers)
    (hclosers : next.closers = s.closers.set place changed)
    (hactive : next.activeRequests.length ≤ s.activeRequests.length)
    (hless : total itemWork next.queue +
        changed.work s.maxWorkers s.activeRequests.length <
      total itemWork s.queue + phase.work s.maxWorkers s.activeRequests.length) :
    next.work < s.work := by
  have hset :
      total (ClosePhase.work s.maxWorkers s.activeRequests.length)
          (s.closers.set place changed) +
        phase.work s.maxWorkers s.activeRequests.length =
      total (ClosePhase.work s.maxWorkers s.activeRequests.length) s.closers +
        changed.work s.maxWorkers s.activeRequests.length := total_set hphase changed
  have hmono := closerWork_mono s.maxWorkers hactive
    (s.closers.set place changed)
  unfold work
  rw [hmax, hworkers, hclosers]
  omega

theorem itemWork_dropFirst {item : Option Request} {rest : List (Option Request)}
    (hqueue : s.queue = item :: rest) :
    total itemWork s.dropFirst.queue + itemWork item = total itemWork s.queue := by
  change total itemWork s.queue.tail + itemWork item = total itemWork s.queue
  rw [hqueue, List.tail_cons, total_cons, Nat.add_comm]

theorem release_fields (s : Server) (request : Request) :
    (s.release request).maxWorkers = s.maxWorkers ∧
      (s.release request).queue = s.queue ∧
      (s.release request).activeRequests = s.activeRequests ∧
      (s.release request).workers = s.workers ∧
      (s.release request).closers = s.closers := by
  unfold release
  split <;> exact ⟨rfl, rfl, rfl, rfl, rfl⟩

theorem work_workerStep {phase : WorkerPhase} {move : WorkerMove}
    (hphase : s.workers[place]? = some phase)
    (hstep : s.workerStep place phase move = some next) : next.work < s.work := by
  unfold Server.workerStep at hstep
  split at hstep
  · split at hstep
    · cases hstep
    · next rest hqueue =>
      have hitems := itemWork_dropFirst hqueue
      cases hstep
      refine work_workerMoves hphase rfl rfl rfl le_rfl ?_
      change total itemWork s.dropFirst.queue + 0 < total itemWork s.queue + 0
      change total itemWork s.dropFirst.queue + 1 = _ at hitems
      omega
    · next taken rest hqueue =>
      have hitems := itemWork_dropFirst hqueue
      cases hstep
      refine work_workerMoves hphase rfl rfl rfl le_rfl ?_
      change total itemWork s.dropFirst.queue + 4 < total itemWork s.queue + 0
      change total itemWork s.dropFirst.queue + 5 = _ at hitems
      omega
  iterate 2
    · cases hstep
      exact work_workerMoves hphase rfl rfl rfl le_rfl (Nat.lt_succ_self _)
  · cases hstep
    exact work_workerMoves hphase rfl rfl rfl (List.length_filter_le _ _)
      (Nat.lt_succ_self _)
  · next held dies =>
    cases hstep
    obtain ⟨hmax, hqueue, hactive, hworkers, hclosers⟩ := release_fields s held
    have hset : ((s.release held).setWorker place
        (if dies then .stopped else .waiting)).workers =
          s.workers.set place (if dies then .stopped else .waiting) :=
      congrArg (List.set · place _) hworkers
    refine work_workerMoves hphase hmax hset hclosers ?_ ?_
    · exact (congrArg List.length hactive).le
    · change total itemWork (s.release held).queue + _ < total itemWork s.queue + 1
      rw [hqueue]
      cases dies <;> exact Nat.lt_succ_self _
  · cases hstep

theorem work_closeStep {phase : ClosePhase} (hphase : s.closers[place]? = some phase)
    (hstep : s.closeStep place phase = some next) : next.work < s.work := by
  cases phase with
  | entering =>
    simp only [Server.closeStep] at hstep
    split at hstep
    all_goals
      cases hstep
      refine work_closerMoves hphase rfl rfl rfl le_rfl ?_
      exact Nat.add_lt_add_left (by simp only [ClosePhase.work]; omega) _
  | snapshot =>
    cases hstep
    refine work_closerMoves hphase rfl rfl rfl le_rfl ?_
    exact Nat.add_lt_add_left (by simp only [ClosePhase.work]; omega) _
  | forcing active =>
    cases active with
    | nil =>
      cases hstep
      refine work_closerMoves hphase rfl rfl rfl le_rfl ?_
      exact Nat.add_lt_add_left (by simp only [ClosePhase.work]; omega) _
    | cons request rest =>
      cases hstep
      refine work_closerMoves hphase rfl rfl rfl le_rfl ?_
      refine Nat.add_lt_add_left ?_ _
      simp only [ClosePhase.work, List.length_cons]
      omega
  | draining =>
    simp only [Server.closeStep] at hstep
    cases hqueue : s.queue with
    | nil =>
      rw [hqueue] at hstep
      cases hstep
      refine work_closerMoves hphase rfl rfl rfl le_rfl ?_
      exact Nat.add_lt_add_left (by simp only [ClosePhase.work]; omega) _
    | cons item rest =>
      rw [hqueue] at hstep
      have hitems := itemWork_dropFirst hqueue
      cases item with
      | none =>
        cases hstep
        refine work_closerMoves hphase rfl rfl rfl le_rfl ?_
        change total itemWork s.dropFirst.queue + _ < total itemWork s.queue + _
        change total itemWork s.dropFirst.queue + 1 = _ at hitems
        omega
      | some taken =>
        cases hstep
        refine work_closerMoves hphase rfl rfl rfl le_rfl ?_
        change total itemWork s.dropFirst.queue + (2 * s.maxWorkers + 6) <
          total itemWork s.queue + (2 * s.maxWorkers + 3)
        change total itemWork s.dropFirst.queue + 5 = _ at hitems
        omega
  | discarding held =>
    cases hstep
    exact work_closerMoves hphase rfl rfl rfl (List.length_filter_le _ _)
      (Nat.lt_succ_self _)
  | releasing held =>
    cases hstep
    obtain ⟨hmax, hqueue, hactive, hworkers, hclosers⟩ := release_fields s held
    have hset : ((s.release held).setCloser place (.shutting held)).closers =
        s.closers.set place (.shutting held) :=
      congrArg (List.set · place _) hclosers
    refine work_closerMoves hphase hmax hworkers hset ?_ ?_
    · exact (congrArg List.length hactive).le
    · change total itemWork (s.release held).queue + (2 * s.maxWorkers + 4) <
        total itemWork s.queue + (2 * s.maxWorkers + 5)
      rw [hqueue]
      exact Nat.lt_succ_self _
  | shutting held | joining =>
    cases hstep
    exact work_closerMoves hphase rfl rfl rfl le_rfl (Nat.lt_succ_self _)
  | stopping left =>
    cases left with
    | zero =>
      cases hstep
      exact work_closerMoves hphase rfl rfl rfl le_rfl (Nat.lt_succ_self _)
    | succ left =>
      cases hstep
      refine work_closerMoves hphase rfl rfl rfl le_rfl ?_
      change total itemWork (s.queue ++ [none]) + (2 * left + 2) <
        total itemWork s.queue + (2 * (left + 1) + 2)
      rw [total_append, total_cons, total_nil]
      change total itemWork s.queue + (1 + 0) + _ < _
      omega
  | returned => cases hstep

theorem work_step {label : ServerLabel} (hinner : label.inner = true)
    (hstep : s.step label = some next) : next.work < s.work := by
  cases label with
  | processRequest | serverClose => cases hinner
  | worker place move =>
    obtain ⟨phase, hphase, hmove⟩ := Option.bind_eq_some_iff.mp hstep
    exact work_workerStep hphase hmove
  | closer place =>
    obtain ⟨phase, hphase, hmove⟩ := Option.bind_eq_some_iff.mp hstep
    exact work_closeStep hphase hmove

theorem work_runLabels (labels : List ServerLabel)
    (hinner : ∀ label ∈ labels, label.inner = true)
    (hrun : runLabels Server.step s labels = some next) :
    labels.length + next.work ≤ s.work :=
  runLabels_length_le work (fun _ _ _ => work_step) labels hinner hrun

end Server

end PycloudParallel.HttpAdmission
