import PycloudParallel.HttpAdmissionBooks

/-!
# The books at every step

No step of the server, whatever a handler raises and however the calls of
`server_close` overlap, disturbs the books of the admitted connections.
-/

namespace PycloudParallel.HttpAdmission

open Parties

namespace Server

variable {s next : Server} {place : ℕ}

theorem count_tail {item : Option Request} {rest : List (Option Request)}
    (hqueue : s.queue = item :: rest) (request : Request) :
    s.dropFirst.queue.count (some request) + [item].count (some request) =
      s.queue.count (some request) := by
  change s.queue.tail.count (some request) + _ = _
  rw [hqueue, List.tail_cons, List.count_cons (l := rest), List.count_singleton]

theorem count_some (other request : Request) :
    [some other].count (some request) = if other = request then 1 else 0 := by
  rw [List.count_singleton]
  by_cases hsame : other = request
  · rw [hsame, beq_self_eq_true, if_pos rfl, if_pos rfl]
  · rw [if_neg hsame, if_neg]
    intro heq
    exact hsame (Option.some.inj (beq_iff_eq.mp heq))

theorem count_none (request : Request) :
    [(none : Option Request)].count (some request) = 0 := by
  rw [List.count_singleton]
  rfl

theorem count_cons_released (request other : Request) (released : List Request) :
    (request :: released).count other =
      released.count other + if request = other then 1 else 0 := by
  rw [List.count_cons]
  by_cases hsame : request = other
  · rw [hsame, beq_self_eq_true, if_pos rfl, if_pos rfl]
  · rw [if_neg hsame, if_neg]
    intro heq
    exact hsame (beq_iff_eq.mp heq)

theorem Books.processRequest (hbooks : s.Books) : s.processRequest.Books := by
  unfold Server.processRequest
  split
  · exact ⟨hbooks.placed, hbooks.slots, hbooks.bounded, hbooks.shut,
      hbooks.finished⟩
  · next hadmits =>
    have hfree : s.requestSlots ≠ 0 := by
      intro hzero
      rw [hzero] at hadmits
      exact hadmits (Bool.or_true _)
    refine ⟨?_, ?_, hbooks.bounded, hbooks.shut, hbooks.finished⟩
    · intro request
      have hplaced := hbooks.placed request
      unfold owes at hplaced ⊢
      change (s.queue ++ [some s.accepted]).count (some request) +
          total (WorkerPhase.holds request) s.workers +
          total (ClosePhase.holds request) s.closers + s.released.count request =
        if request < s.accepted + 1 then 1 else 0
      rw [List.count_append, count_some]
      -- The new connection is the only one whose place appears.
      rcases Nat.lt_trichotomy request s.accepted with hless | hsame | hmore
      · rw [if_pos hless] at hplaced
        rw [if_neg (Nat.ne_of_gt hless), if_pos (Nat.lt_succ_of_lt hless)]
        exact hplaced
      · rw [if_neg (Nat.not_lt.mpr hsame.ge)] at hplaced
        rw [if_pos hsame.symm, if_pos (Nat.lt_succ_of_le hsame.le)]
        omega
      · rw [if_neg (Nat.not_lt.mpr hmore.le)] at hplaced
        rw [if_neg (Nat.ne_of_lt hmore), if_neg (Nat.not_lt.mpr hmore)]
        exact hplaced
    · have hslots := hbooks.slots
      change s.requestSlots - 1 + (s.accepted + 1) =
        s.maxWorkers + s.queueCapacity + s.released.length
      omega

theorem owes_of_worker {phase : WorkerPhase} {request : Request}
    (hphase : s.workers[place]? = some phase) (hholds : 0 < phase.holds request) :
    0 < s.owes request := by
  have hle : phase.holds request ≤ total (WorkerPhase.holds request) s.workers :=
    le_total (List.mem_of_getElem? hphase)
  unfold owes
  omega

variable {phase : ClosePhase}

theorem owes_of_closer {request : Request}
    (hphase : s.closers[place]? = some phase) (hholds : 0 < phase.holds request)
    : 0 < s.owes request := by
  have hle : phase.holds request ≤ total (ClosePhase.holds request) s.closers :=
    le_total (List.mem_of_getElem? hphase)
  unfold owes
  omega

variable (hbooks : s.Books)

include hbooks

theorem Books.workerStep {phase : WorkerPhase} {move : WorkerMove}
    (hphase : s.workers[place]? = some phase)
    (hstep : s.workerStep place phase move = some next) : next.Books := by
  unfold Server.workerStep at hstep
  split at hstep
  · split at hstep
    · cases hstep
    · next rest hqueue =>
      cases hstep
      refine hbooks.workerMoves ⟨rfl, rfl, rfl, rfl⟩ hphase rfl rfl ?_ rfl
        (fun _ hmem => hmem) (fun _ hcloses => by cases hcloses)
        (fun _ hmem => .inl hmem)
      intro request
      have hone := count_tail hqueue request
      rw [count_none] at hone
      change s.dropFirst.queue.count (some request) + 0 + s.released.count request =
        s.queue.count (some request) + 0 + s.released.count request
      omega
    · next taken rest hqueue =>
      cases hstep
      refine hbooks.workerMoves ⟨rfl, rfl, rfl, rfl⟩ hphase rfl rfl ?_ rfl
        (fun _ hmem => hmem) (fun _ hcloses => by cases hcloses)
        (fun _ hmem => .inl hmem)
      intro request
      have hone := count_tail hqueue request
      rw [count_some] at hone
      change s.dropFirst.queue.count (some request) +
          (if taken = request then 1 else 0) + s.released.count request =
        s.queue.count (some request) + 0 + s.released.count request
      omega
  · cases hstep
    exact hbooks.workerMoves ⟨rfl, rfl, rfl, rfl⟩ hphase rfl rfl (fun _ => rfl) rfl
      (fun _ hmem => hmem) (fun _ hcloses => by cases hcloses)
      (fun _ hmem => .inl hmem)
  · cases hstep
    refine hbooks.workerMoves ⟨rfl, rfl, rfl, rfl⟩ hphase rfl rfl (fun _ => rfl)
      rfl (fun _ hmem => List.mem_cons_of_mem _ hmem) ?_ (fun _ hmem => .inl hmem)
    rintro request rfl
    exact List.mem_cons_self
  · cases hstep
    refine hbooks.workerMoves ⟨rfl, rfl, rfl, rfl⟩ hphase rfl rfl (fun _ => rfl)
      rfl (fun _ hmem => hmem) ?_ (fun _ hmem => .inl hmem)
    rintro request rfl
    exact hbooks.shut _ (List.mem_of_getElem? hphase) _ rfl
  · next held dies =>
    have howes : 0 < s.owes held := by
      refine owes_of_worker hphase ?_
      change 0 < if held = held then 1 else 0
      rw [if_pos rfl]
      exact Nat.one_pos
    rw [hbooks.release_eq howes] at hstep
    cases hstep
    have hclosed : held ∈ s.closed :=
      hbooks.shut _ (List.mem_of_getElem? hphase) held rfl
    have hidle : ∀ request,
        (if dies then WorkerPhase.stopped else .waiting).holds request = 0 := by
      intro request
      cases dies <;> rfl
    refine hbooks.workerMoves ⟨rfl, rfl, rfl, rfl⟩ hphase rfl rfl ?_ ?_
      (fun _ hmem => hmem) ?_ ?_
    · intro request
      rw [hidle request]
      change s.queue.count (some request) + 0 + (held :: s.released).count request =
        s.queue.count (some request) + (if held = request then 1 else 0) +
          s.released.count request
      rw [count_cons_released]
      omega
    · change s.requestSlots + 1 + s.released.length =
        s.requestSlots + (s.released.length + 1)
      omega
    · intro request hcloses
      cases dies <;> cases hcloses
    · intro request hmem
      rcases List.mem_cons.mp hmem with rfl | hold
      · exact .inr hclosed
      · exact .inl hold
  · cases hstep

theorem Books.closerGoesOn {changed : ClosePhase}
    (hphase : s.closers[place]? = some phase)
    (hholds : ∀ request, changed.holds request = phase.holds request)
    (hshutting : ∀ request, phase ≠ .shutting request) :
    (s.setCloser place changed).Books := by
  refine hbooks.closerMoves ⟨rfl, rfl, rfl, rfl⟩ hphase rfl rfl ?_ rfl (fun _ hmem => hmem)
    (fun request hshut => absurd hshut (hshutting request)) (fun _ hmem => .inl hmem)
  intro request
  rw [hholds request]
  rfl

theorem Books.closeStep (hphase : s.closers[place]? = some phase)
    (hstep : s.closeStep place phase = some next) : next.Books := by
  cases phase with
  | entering =>
    simp only [Server.closeStep] at hstep
    split at hstep
    · cases hstep
      exact hbooks.closerGoesOn hphase (fun _ => rfl) (fun _ h => by cases h)
    · cases hstep
      exact hbooks.closerMoves ⟨rfl, rfl, rfl, rfl⟩ hphase rfl rfl (fun _ => rfl)
        rfl (fun _ hmem => hmem) (fun _ h => by cases h) (fun _ hmem => .inl hmem)
  | snapshot | joining =>
    cases hstep
    exact hbooks.closerGoesOn hphase (fun _ => rfl) (fun _ h => by cases h)
  | forcing active =>
    cases active with
    | nil =>
      cases hstep
      exact hbooks.closerGoesOn hphase (fun _ => rfl) (fun _ h => by cases h)
    | cons request rest =>
      cases hstep
      exact hbooks.closerMoves ⟨rfl, rfl, rfl, rfl⟩ hphase rfl rfl (fun _ => rfl)
        rfl (fun _ hmem => List.mem_cons_of_mem _ hmem) (fun _ h => by cases h)
        (fun _ hmem => .inl hmem)
  | draining =>
    simp only [Server.closeStep] at hstep
    cases hqueue : s.queue with
    | nil =>
      rw [hqueue] at hstep
      cases hstep
      exact hbooks.closerGoesOn hphase (fun _ => rfl) (fun _ h => by cases h)
    | cons item rest =>
      rw [hqueue] at hstep
      have hcount := count_tail hqueue
      cases item with
      | none =>
        cases hstep
        refine hbooks.closerMoves ⟨rfl, rfl, rfl, rfl⟩ hphase rfl rfl ?_ rfl
          (fun _ hmem => hmem) (fun _ h => by cases h) (fun _ hmem => .inl hmem)
        intro request
        have hone := hcount request
        rw [count_none] at hone
        change s.dropFirst.queue.count (some request) + 0 + s.released.count request =
          s.queue.count (some request) + 0 + s.released.count request
        omega
      | some taken =>
        cases hstep
        refine hbooks.closerMoves ⟨rfl, rfl, rfl, rfl⟩ hphase rfl rfl ?_ rfl
          (fun _ hmem => hmem) (fun _ h => by cases h) (fun _ hmem => .inl hmem)
        intro request
        have hone := hcount request
        rw [count_some] at hone
        change s.dropFirst.queue.count (some request) +
            (if taken = request then 1 else 0) + s.released.count request =
          s.queue.count (some request) + 0 + s.released.count request
        omega
  | discarding held =>
    cases hstep
    exact hbooks.closerMoves ⟨rfl, rfl, rfl, rfl⟩ hphase rfl rfl (fun _ => rfl) rfl
      (fun _ hmem => hmem) (fun _ h => by cases h) (fun _ hmem => .inl hmem)
  | releasing held =>
    have howes : 0 < s.owes held := by
      refine owes_of_closer hphase ?_
      change 0 < if held = held then 1 else 0
      rw [if_pos rfl]
      exact Nat.one_pos
    simp only [Server.closeStep, hbooks.release_eq howes] at hstep
    cases hstep
    refine hbooks.closerMoves ⟨rfl, rfl, rfl, rfl⟩ hphase rfl rfl ?_ ?_
      (fun _ hmem => hmem) (fun _ h => by cases h) ?_
    · intro request
      change s.queue.count (some request) + 0 + (held :: s.released).count request =
        s.queue.count (some request) + (if held = request then 1 else 0) +
          s.released.count request
      rw [count_cons_released]
      omega
    · change s.requestSlots + 1 + s.released.length =
        s.requestSlots + (s.released.length + 1)
      omega
    · intro request hmem
      rcases List.mem_cons.mp hmem with rfl | hold
      · exact .inr rfl
      · exact .inl hold
  | shutting held =>
    cases hstep
    refine hbooks.closerMoves ⟨rfl, rfl, rfl, rfl⟩ hphase rfl rfl (fun _ => rfl) rfl
      (fun _ hmem => List.mem_cons_of_mem _ hmem) ?_ (fun _ hmem => .inl hmem)
    intro request hshut
    cases hshut
    exact List.mem_cons_self
  | stopping left =>
    cases left with
    | zero =>
      cases hstep
      exact hbooks.closerGoesOn hphase (fun _ => rfl) (fun _ h => by cases h)
    | succ left =>
      cases hstep
      refine hbooks.closerMoves ⟨rfl, rfl, rfl, rfl⟩ hphase rfl rfl ?_ rfl
        (fun _ hmem => hmem) (fun _ h => by cases h) (fun _ hmem => .inl hmem)
      intro request
      change (s.queue ++ [none]).count (some request) + 0 + _ =
        s.queue.count (some request) + 0 + _
      rw [List.count_append, count_none]
      rfl
  | returned => cases hstep

theorem Books.serverClose :
    ({ s with closers := s.closers ++ [.entering] } : Server).Books := by
  refine ⟨?_, hbooks.slots, hbooks.bounded, hbooks.shut, ?_⟩
  · intro request
    have hplaced := hbooks.placed request
    unfold owes at hplaced ⊢
    change _ + _ + total (ClosePhase.holds request) (s.closers ++ [.entering]) + _ = _
    rw [total_append, total_cons, total_nil]
    exact hplaced
  · intro request hmem
    exact (hbooks.finished request hmem).imp_right (List.mem_append_left _)

theorem Books.step {label : ServerLabel} (hstep : s.step label = some next) :
    next.Books := by
  cases label with
  | processRequest =>
    cases hstep
    exact hbooks.processRequest
  | worker place move =>
    obtain ⟨phase, hphase, hmove⟩ := Option.bind_eq_some_iff.mp hstep
    exact hbooks.workerStep hphase hmove
  | serverClose =>
    cases hstep
    exact hbooks.serverClose
  | closer place =>
    obtain ⟨phase, hphase, hmove⟩ := Option.bind_eq_some_iff.mp hstep
    exact hbooks.closeStep hphase hmove

end Server

end PycloudParallel.HttpAdmission
