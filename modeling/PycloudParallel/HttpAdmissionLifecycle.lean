import PycloudParallel.HttpAdmissionModel

/-!
# Workers and closing calls over a run

While the server is open its workers stay, and its queue holds connections only.
Once it is closed a call of `server_close` empties the queue.
-/

namespace PycloudParallel.HttpAdmission

def WorkerPhase.serves : WorkerPhase → Bool
  | .waiting | .handling _ => true
  | .shutting _ dies | .discarding _ dies | .releasing _ dies => !dies
  | .stopped => false

def ClosePhase.drains : ClosePhase → Bool
  | .snapshot | .forcing _ | .draining | .discarding _ | .releasing _ | .shutting _ => true
  | .entering | .stopping _ | .joining | .returned => false

/-- Until the server is closed, handlers raise nothing but an `Exception`. -/
def handlersRaiseExceptions (s : Server) : ServerLabel → Bool
  | .worker _ (.finish .raisedBase) => s.workersClosed
  | _ => true

namespace Server

structure Lifecycle (maxWorkers queueCapacity : ℕ) (s : Server) : Prop where
  sized : s.maxWorkers = maxWorkers ∧ s.queueCapacity = queueCapacity
  staffed : s.workers.length = s.maxWorkers
  serving : s.workersClosed = false → ∀ phase ∈ s.workers, phase.serves = true
  unstopped : s.workersClosed = false → none ∉ s.queue
  unclosed : s.workersClosed = false → ∀ phase ∈ s.closers, phase = .entering
  drained : s.workersClosed = true →
    (∃ phase ∈ s.closers, phase.drains = true) ∨ ∀ request, some request ∉ s.queue

variable {maxWorkers queueCapacity : ℕ}

theorem lifecycle_init :
    (init maxWorkers queueCapacity).Lifecycle maxWorkers queueCapacity where
  sized := ⟨rfl, rfl⟩
  staffed := List.length_replicate
  serving := by
    intro _ phase hphase
    rw [(List.mem_replicate.mp hphase).2]
    rfl
  unstopped := fun _ hmem => by cases hmem
  unclosed := fun _ _ hmem => by cases hmem
  drained := fun hclosed => by cases hclosed

variable {s next : Server} {place : ℕ}

theorem Lifecycle.workerMoves (hlife : s.Lifecycle maxWorkers queueCapacity)
    {changed : WorkerPhase}
    (hserves : s.workersClosed = false → changed.serves = true)
    (hqueue : ∀ item ∈ next.queue, item ∈ s.queue := by exact fun _ hmem => hmem)
    (hmax : next.maxWorkers = s.maxWorkers := by rfl)
    (hcapacity : next.queueCapacity = s.queueCapacity := by rfl)
    (hclosed : next.workersClosed = s.workersClosed := by rfl)
    (hworkers : next.workers = s.workers.set place changed := by rfl)
    (hclosers : next.closers = s.closers := by rfl) :
    next.Lifecycle maxWorkers queueCapacity where
  sized := ⟨hmax.trans hlife.sized.1, hcapacity.trans hlife.sized.2⟩
  staffed := by
    rw [hworkers, List.length_set, hmax]
    exact hlife.staffed
  serving := by
    intro hopen phase hphase
    rw [hclosed] at hopen
    rw [hworkers] at hphase
    rcases List.mem_or_eq_of_mem_set hphase with hold | rfl
    · exact hlife.serving hopen phase hold
    · exact hserves hopen
  unstopped := by
    intro hopen hmem
    rw [hclosed] at hopen
    exact hlife.unstopped hopen (hqueue none hmem)
  unclosed := by
    intro hopen
    rw [hclosed] at hopen
    rw [hclosers]
    exact hlife.unclosed hopen
  drained := by
    intro hshut
    rw [hclosed] at hshut
    rw [hclosers]
    refine (hlife.drained hshut).imp_right fun hnone request hmem => ?_
    exact hnone request (hqueue _ hmem)

variable {phase : ClosePhase}

variable (hlife : s.Lifecycle maxWorkers queueCapacity)

include hlife

theorem Lifecycle.closerMoves {changed : ClosePhase}
    (hphase : s.closers[place]? = some phase) (hshut : s.workersClosed = true)
    (hdrains : phase.drains = true →
      changed.drains = true ∨ ∀ request, some request ∉ next.queue)
    (hqueue : ∀ request, some request ∈ next.queue → some request ∈ s.queue := by
      exact fun _ hmem => hmem)
    (hmax : next.maxWorkers = s.maxWorkers := by rfl)
    (hcapacity : next.queueCapacity = s.queueCapacity := by rfl)
    (hclosed : next.workersClosed = true := by assumption)
    (hworkers : next.workers = s.workers := by rfl)
    (hclosers : next.closers = s.closers.set place changed := by rfl) :
    next.Lifecycle maxWorkers queueCapacity where
  sized := ⟨hmax.trans hlife.sized.1, hcapacity.trans hlife.sized.2⟩
  staffed := by
    rw [hworkers, hmax]
    exact hlife.staffed
  serving := by
    intro hopen
    rw [hclosed] at hopen
    cases hopen
  unstopped := by
    intro hopen
    rw [hclosed] at hopen
    cases hopen
  unclosed := by
    intro hopen
    rw [hclosed] at hopen
    cases hopen
  drained := by
    intro _
    rw [hclosers]
    obtain ⟨hplace, hfound⟩ := List.getElem?_eq_some_iff.mp hphase
    rcases hlife.drained hshut with ⟨other, hother, hworking⟩ | hnone
    · obtain ⟨index, hindex, hat⟩ := List.getElem_of_mem hother
      by_cases hhere : index = place
      · subst hhere
        rw [hfound] at hat
        subst hat
        refine (hdrains hworking).imp_left fun hstill => ?_
        exact ⟨changed, List.mem_set hplace changed, hstill⟩
      · left
        refine ⟨other, List.mem_of_getElem? (i := index) ?_, hworking⟩
        rw [List.getElem?_set_ne (Ne.symm hhere), List.getElem?_eq_getElem hindex, hat]
    · right
      intro request hmem
      exact hnone request (hqueue request hmem)

theorem Lifecycle.workerStep {phase : WorkerPhase} {move : WorkerMove}
    (hphase : s.workers[place]? = some phase)
    (hok : handlersRaiseExceptions s (.worker place move) = true)
    (hstep : s.workerStep place phase move = some next) :
    next.Lifecycle maxWorkers queueCapacity := by
  have hserving := fun hopen => hlife.serving hopen phase (List.mem_of_getElem? hphase)
  unfold Server.workerStep at hstep
  split at hstep
  · split at hstep
    · cases hstep
    · next rest hqueue =>
      cases hstep
      refine hlife.workerMoves ?_ fun _ hmem => List.mem_of_mem_tail hmem
      intro hopen
      refine absurd ?_ (hlife.unstopped hopen)
      rw [hqueue]
      exact List.mem_cons_self
    · cases hstep
      exact hlife.workerMoves (fun _ => rfl) fun _ hmem =>
        List.mem_of_mem_tail hmem
  · next held handling =>
    cases hstep
    refine hlife.workerMoves ?_
    intro hopen
    cases handling with
    | returned | raised => rfl
    | raisedBase =>
      change s.workersClosed = true at hok
      rw [hopen] at hok
      cases hok
  iterate 2
    · cases hstep
      refine hlife.workerMoves ?_
      exact hserving
  · next held dies =>
    have hback : s.workersClosed = false →
        (if dies then WorkerPhase.stopped else .waiting).serves = true := by
      intro hopen
      have halive := hserving hopen
      cases dies with
      | false => rfl
      | true => cases halive
    simp only [Server.release] at hstep
    split at hstep
    all_goals
      cases hstep
      exact hlife.workerMoves hback
  · cases hstep

theorem Lifecycle.shut (hphase : s.closers[place]? = some phase)
    (hinside : phase ≠ .entering) : s.workersClosed = true := by
  cases hopen : s.workersClosed with
  | true => rfl
  | false =>
    exact absurd (hlife.unclosed hopen phase (List.mem_of_getElem? hphase)) hinside

theorem Lifecycle.closeStep (hphase : s.closers[place]? = some phase)
    (hstep : s.closeStep place phase = some next) :
    next.Lifecycle maxWorkers queueCapacity := by
  cases phase with
  | entering =>
    simp only [Server.closeStep] at hstep
    split at hstep
    · next hshut =>
      cases hstep
      exact hlife.closerMoves hphase hshut fun hdrains => by cases hdrains
    · cases hstep
      obtain ⟨hplace, -⟩ := List.getElem?_eq_some_iff.mp hphase
      exact
        { sized := hlife.sized
          staffed := hlife.staffed
          serving := fun hopen => by cases hopen
          unstopped := fun hopen => by cases hopen
          unclosed := fun hopen => by cases hopen
          drained := fun _ => .inl ⟨_, List.mem_set hplace _, rfl⟩ }
  | snapshot | discarding held | shutting held =>
    have hshut := hlife.shut hphase (by simp)
    cases hstep
    exact hlife.closerMoves hphase hshut fun _ => .inl rfl
  | forcing active =>
    have hshut := hlife.shut hphase (by simp)
    cases active with
    | nil | cons request rest =>
      cases hstep
      exact hlife.closerMoves hphase hshut fun _ => .inl rfl
  | draining =>
    have hshut := hlife.shut hphase (by simp)
    simp only [Server.closeStep] at hstep
    cases hqueue : s.queue with
    | nil =>
      rw [hqueue] at hstep
      cases hstep
      refine hlife.closerMoves hphase hshut fun _ => .inr ?_
      intro request hmem
      change some request ∈ s.queue at hmem
      rw [hqueue] at hmem
      cases hmem
    | cons item rest =>
      rw [hqueue] at hstep
      cases item with
      | none | some taken =>
        cases hstep
        exact hlife.closerMoves hphase hshut (fun _ => .inl rfl) fun _ hmem =>
          List.mem_of_mem_tail hmem
  | releasing held =>
    have hshut := hlife.shut hphase (by simp)
    simp only [Server.closeStep, Server.release] at hstep
    split at hstep
    all_goals
      cases hstep
      exact hlife.closerMoves hphase hshut fun _ => .inl rfl
  | stopping left =>
    have hshut := hlife.shut hphase (by simp)
    cases left with
    | zero =>
      cases hstep
      exact hlife.closerMoves hphase hshut fun hdrains => by cases hdrains
    | succ left =>
      cases hstep
      refine hlife.closerMoves hphase hshut (fun hdrains => by cases hdrains) ?_
      intro request hmem
      rcases List.mem_append.mp hmem with hold | hnew
      · exact hold
      · cases List.mem_singleton.mp hnew
  | joining =>
    have hshut := hlife.shut hphase (by simp)
    cases hstep
    exact hlife.closerMoves hphase hshut fun hdrains => by cases hdrains
  | returned => cases hstep

theorem Lifecycle.processRequest :
    s.processRequest.Lifecycle maxWorkers queueCapacity := by
  unfold Server.processRequest
  split
  · exact ⟨hlife.sized, hlife.staffed, hlife.serving, hlife.unstopped,
      hlife.unclosed, hlife.drained⟩
  · next hadmits =>
    refine ⟨hlife.sized, hlife.staffed, hlife.serving, ?_, hlife.unclosed, ?_⟩
    · intro hopen hmem
      rcases List.mem_append.mp hmem with hold | hnew
      · exact hlife.unstopped hopen hold
      · cases List.mem_singleton.mp hnew
    · intro hshut
      change s.workersClosed = true at hshut
      rw [hshut] at hadmits
      exact absurd (Bool.true_or _) hadmits

theorem Lifecycle.step {label : ServerLabel}
    (hok : handlersRaiseExceptions s label = true)
    (hstep : s.step label = some next) :
    next.Lifecycle maxWorkers queueCapacity := by
  cases label with
  | processRequest =>
    cases hstep
    exact hlife.processRequest
  | worker place move =>
    obtain ⟨phase, hphase, hmove⟩ := Option.bind_eq_some_iff.mp hstep
    exact hlife.workerStep hphase hok hmove
  | serverClose =>
    cases hstep
    refine ⟨hlife.sized, hlife.staffed, hlife.serving, hlife.unstopped, ?_, ?_⟩
    · intro hopen phase hphase
      rcases List.mem_append.mp hphase with hold | hnew
      · exact hlife.unclosed hopen phase hold
      · exact List.mem_singleton.mp hnew
    · intro hshut
      refine (hlife.drained hshut).imp_left ?_
      rintro ⟨phase, hphase, hdrains⟩
      exact ⟨phase, List.mem_append_left _ hphase, hdrains⟩
  | closer place =>
    obtain ⟨phase, hphase, hmove⟩ := Option.bind_eq_some_iff.mp hstep
    exact hlife.closeStep hphase hmove

end Server

end PycloudParallel.HttpAdmission
