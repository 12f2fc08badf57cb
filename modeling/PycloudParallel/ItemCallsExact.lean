import PycloudParallel.ItemCallsBooks

/-!
# Each payload's outcome, exactly once

The threads of the pool take what has been submitted also after the consumer has
closed the iteration, and a cancelled task ends the asynchronous one; apart from that
both variants yield the outcome of every payload once.
-/

namespace PycloudParallel.ServiceItems

variable {δ ρ : Type*} [EmptyCollection δ] {batch : Batch δ ρ}

/-! ## The threads -/

def iterOk (s : Iter δ ρ) : IterLabel → Bool
  | .close => s.calls.waiting.isEmpty
  | _ => true

structure Iter.Kept (batch : Batch δ ρ) (s : Iter δ ρ) : Prop where
  calls : s.calls.Kept batch
  ids : s.calls.ids.Perm (List.range s.submitted)
  submitted_le : s.submitted ≤ batch.count
  ended : s.phase = .ended → s.calls.pending = [] ∧ s.submitted = batch.count
  stopped : s.phase = .stopped → s.calls.waiting = []
  not_raised : s.phase ≠ .raised

theorem Iter.kept_fresh (batch : Batch δ ρ) : (Iter.fresh : Iter δ ρ).Kept batch :=
  ⟨Calls.kept_none batch, .refl _, Nat.zero_le _, by simp [fresh], by simp [fresh],
    by simp [fresh]⟩

theorem Iter.Kept.step {s t : Iter δ ρ} {label : IterLabel} (hkept : s.Kept batch)
    (hok : iterOk s label = true) (hstep : iterStep batch s label = some t) :
    t.Kept batch := by
  cases label with
  | next =>
    obtain ⟨hphase, hstep⟩ := Option.ite_none_right_eq_some.mp hstep
    cases hstep
    exact ⟨hkept.calls, hkept.ids, hkept.submitted_le, by simp, by simp, by simp⟩
  | submit =>
    obtain ⟨⟨hphase, hsubmits⟩, hstep⟩ := Option.ite_none_right_eq_some.mp hstep
    cases hstep
    simp only [Iter.submits, Bool.and_eq_true, decide_eq_true_eq] at hsubmits
    have hnew : s.submitted ∉ s.calls.ids := by
      rw [hkept.ids.mem_iff, List.mem_range]
      exact Nat.lt_irrefl _
    refine ⟨hkept.calls.submit hsubmits.2 hnew, ?_, hsubmits.2, by simp [hphase],
      by simp [hphase], hkept.not_raised⟩
    have hids : Calls.ids { s.calls with
        waiting := s.calls.waiting ++ [s.submitted] } =
        s.calls.waiting ++ [s.submitted] ++ s.calls.made.map Prod.fst := rfl
    rw [hids, List.append_assoc, List.range_succ]
    refine List.perm_middle.trans ?_
    exact (hkept.ids.cons s.submitted).trans (List.perm_append_singleton _ _).symm
  | start =>
    simp only [iterStep] at hstep
    split at hstep
    · cases hstep
    case h_2 idx rest hwaiting =>
      obtain ⟨hroom, hstep⟩ := Option.ite_none_right_eq_some.mp hstep
      cases hstep
      refine ⟨hkept.calls.begin hwaiting hroom,
        (Calls.ids_begin batch hwaiting).trans hkept.ids, hkept.submitted_le, ?_, ?_,
        hkept.not_raised⟩
      · intro hphase
        exact absurd (hkept.ended hphase).1 (Calls.pending_ne_nil_of_waiting hwaiting)
      · intro hphase
        rw [hkept.stopped hphase] at hwaiting
        cases hwaiting
  | finish idx =>
    obtain ⟨hrunning, hstep⟩ := Option.ite_none_right_eq_some.mp hstep
    cases hstep
    refine ⟨hkept.calls.finish hrunning, hkept.ids, hkept.submitted_le, ?_,
      hkept.stopped, hkept.not_raised⟩
    intro hphase
    exact absurd (hkept.ended hphase).1 (Calls.pending_ne_nil_of_running hrunning)
  | deliver idx =>
    obtain ⟨⟨hphase, -, hfinished⟩, hstep⟩ := Option.ite_none_right_eq_some.mp hstep
    cases hstep
    exact ⟨hkept.calls.deliver hfinished, hkept.ids, hkept.submitted_le, by simp,
      by simp, by simp⟩
  | leave =>
    obtain ⟨⟨hphase, hsubmits, hpending⟩, hstep⟩ :=
      Option.ite_none_right_eq_some.mp hstep
    cases hstep
    refine ⟨hkept.calls, hkept.ids, hkept.submitted_le, fun _ => ⟨hpending, ?_⟩,
      by simp, by simp⟩
    have hlimit := limit_pos batch
    have hle := hkept.submitted_le
    simp only [Iter.submits, hpending, List.length_nil, Bool.and_eq_false_iff,
      decide_eq_false_iff_not] at hsubmits
    change s.submitted = batch.count
    omega
  | close =>
    obtain ⟨-, hstep⟩ := Option.ite_none_right_eq_some.mp hstep
    cases hstep
    refine ⟨hkept.calls, hkept.ids, hkept.submitted_le, by simp, fun _ => ?_, by simp⟩
    exact List.isEmpty_iff.mp hok

/-! ### It goes on and ends -/

def Iter.measure (batch : Batch δ ρ) (s : Iter δ ρ) : ℕ :=
  5 * (batch.count - s.submitted) + s.calls.weight + s.phase.weight 2

theorem Iter.measure_step (s : Iter δ ρ) (label : IterLabel) (t : Iter δ ρ)
    (hstep : iterStep batch s label = some t) : t.measure batch < s.measure batch := by
  cases label with
  | next | close =>
    obtain ⟨hphase, hstep⟩ := Option.ite_none_right_eq_some.mp hstep
    cases hstep
    obtain hphase | hphase := hphase <;> simp [measure, Phase.weight, hphase]
  | submit =>
    obtain ⟨⟨-, hsubmits⟩, hstep⟩ := Option.ite_none_right_eq_some.mp hstep
    cases hstep
    simp only [Iter.submits, Bool.and_eq_true, decide_eq_true_eq] at hsubmits
    simp only [measure, Calls.weight, List.length_append, List.length_singleton]
    omega
  | start =>
    simp only [iterStep] at hstep
    split at hstep
    · cases hstep
    case h_2 idx rest hwaiting =>
      obtain ⟨-, hstep⟩ := Option.ite_none_right_eq_some.mp hstep
      cases hstep
      have hless := Calls.weight_begin batch hwaiting
      simp only [measure]
      omega
  | finish idx =>
    obtain ⟨hrunning, hstep⟩ := Option.ite_none_right_eq_some.mp hstep
    cases hstep
    have hless := Calls.weight_finish hrunning
    simp only [measure]
    omega
  | deliver idx =>
    obtain ⟨⟨hphase, -, hfinished⟩, hstep⟩ := Option.ite_none_right_eq_some.mp hstep
    cases hstep
    have hweight := Calls.weight_deliver batch hfinished
    simp only [measure, hphase, Phase.weight]
    omega
  | leave =>
    obtain ⟨⟨hphase, -⟩, hstep⟩ := Option.ite_none_right_eq_some.mp hstep
    cases hstep
    simp [measure, Phase.weight, hphase]

theorem Iter.goes_on {s : Iter δ ρ} (hkept : s.Kept batch) :
    s.phase = .ended ∨ s.phase = .stopped ∨
      ∃ label, label ≠ .close ∧ (iterStep batch s label).isSome = true := by
  cases hphase : s.phase with
  | ended => exact .inl rfl
  | stopped => exact .inr (.inl rfl)
  | raised => exact absurd hphase hkept.not_raised
  | fresh | suspended => exact .inr (.inr ⟨.next, by simp, by simp [iterStep, hphase]⟩)
  | active =>
    refine .inr (.inr ?_)
    cases hsubmits : s.submits batch with
    | true => exact ⟨.submit, by simp, by simp [iterStep, hphase, hsubmits]⟩
    | false =>
      cases hfinished : s.calls.finished with
      | cons idx rest =>
        exact ⟨.deliver idx, by simp, by simp [iterStep, hphase, hsubmits, hfinished]⟩
      | nil =>
        cases hrunning : s.calls.running with
        | cons idx rest => exact ⟨.finish idx, by simp, by simp [iterStep, hrunning]⟩
        | nil =>
          cases hwaiting : s.calls.waiting with
          | cons idx rest =>
            have hlimit := limit_pos batch
            exact ⟨.start, by simp, by simp [iterStep, hwaiting, hrunning]; omega⟩
          | nil =>
            have hpending : s.calls.pending = [] := by
              simp [Calls.pending, hfinished, hrunning, hwaiting]
            exact ⟨.leave, by simp, by simp [iterStep, hphase, hsubmits, hpending]⟩

theorem iterDelivers_of_guardedRun {s : Iter δ ρ}
    (hrun : GuardedRun (iterStep batch) (fun s label => iterOk s label = true)
      Iter.fresh s) : IterDelivers batch s := by
  have hkept : s.Kept batch := hrun.invariant (Iter.Kept batch) (Iter.kept_fresh batch)
    fun _ _ _ hgood hok hstep => hgood.step hok hstep
  refine ⟨hkept.calls.delivers ?_ hkept.not_raised, ?_, Iter.goes_on hkept, ?_⟩
  · intro hphase
    obtain ⟨hpending, hall⟩ := hkept.ended hphase
    exact ⟨hpending, hall ▸ hkept.ids⟩
  · intro hphase
    simp [iterStep, hkept.stopped hphase]
  · exact fun labels t hlabels =>
      hrun.length_le (Iter.measure batch) Iter.measure_step hlabels

/-! ## The tasks -/

def aiterOk (batch : Batch δ ρ) : AiterLabel → Bool
  | .finish idx => !batch.isCancelled idx
  | _ => true

structure Aiter.Kept (batch : Batch δ ρ) (s : Aiter δ ρ) : Prop where
  calls : s.calls.Kept batch
  fresh : s.phase = .fresh → s.calls = .none
  ids : s.phase ≠ .fresh → s.phase ≠ .stopped →
    s.calls.ids.Perm (List.range batch.count)
  not_cancelled : ∀ idx ∈ s.calls.finished, batch.isCancelled idx = false
  ended : s.phase = .ended → s.calls.pending = []
  stopped : s.phase = .stopped → s.calls.waiting = []
  not_raised : s.phase ≠ .raised

theorem Aiter.kept_fresh (batch : Batch δ ρ) : (Aiter.fresh : Aiter δ ρ).Kept batch :=
  ⟨Calls.kept_none batch, fun _ => rfl, by simp [fresh], by simp [fresh, Calls.none],
    by simp [fresh], by simp [fresh], by simp [fresh]⟩

variable {s : Aiter δ ρ}

theorem Aiter.Kept.step {t : Aiter δ ρ} {label : AiterLabel}
    (hkept : s.Kept batch) (hok : aiterOk batch label = true)
    (hstep : aiterStep batch s label = some t) : t.Kept batch := by
  cases label with
  | next =>
    simp only [aiterStep] at hstep
    split at hstep
    case isTrue hfresh =>
      have hnone := hkept.fresh hfresh
      split at hstep
      case isTrue hempty =>
        cases hstep
        refine ⟨hkept.calls, by simp, fun _ _ => ?_, hkept.not_cancelled, fun _ => ?_,
          by simp, by simp⟩
        · simp [hnone, Calls.none, Calls.ids, hempty]
        · simp [hnone, Calls.none, Calls.pending]
      case isFalse =>
        cases hstep
        rw [hnone]
        refine ⟨⟨.refl _, ?_, ?_, by simp [Calls.none], by simp [Calls.none],
          Nat.zero_le _⟩, by simp, fun _ _ => ?_, by simp [Calls.none], by simp,
          by simp, by simp⟩
        · simpa [Calls.none, Calls.ids] using List.nodup_range
        · simp [Calls.none, Calls.ids]
        · simp [Calls.none, Calls.ids]
    case isFalse hfresh =>
      obtain ⟨hphase, hstep⟩ := Option.ite_none_right_eq_some.mp hstep
      cases hstep
      exact ⟨hkept.calls, by simp, fun _ _ => hkept.ids hfresh (by simp [hphase]),
        hkept.not_cancelled, by simp, by simp, by simp⟩
  | enter =>
    simp only [aiterStep] at hstep
    split at hstep
    · cases hstep
    case h_2 idx rest hwaiting =>
      obtain ⟨hroom, hstep⟩ := Option.ite_none_right_eq_some.mp hstep
      cases hstep
      refine ⟨hkept.calls.begin hwaiting hroom, ?_,
        fun hfresh hstopped => (Calls.ids_begin batch hwaiting).trans
          (hkept.ids hfresh hstopped), hkept.not_cancelled, ?_, ?_, hkept.not_raised⟩
      · intro hphase
        rw [hkept.fresh hphase] at hwaiting
        cases hwaiting
      · intro hphase
        exact absurd (hkept.ended hphase) (Calls.pending_ne_nil_of_waiting hwaiting)
      · intro hphase
        rw [hkept.stopped hphase] at hwaiting
        cases hwaiting
  | finish idx =>
    obtain ⟨hrunning, hstep⟩ := Option.ite_none_right_eq_some.mp hstep
    cases hstep
    refine ⟨hkept.calls.finish hrunning, ?_, hkept.ids, ?_, ?_, hkept.stopped,
      hkept.not_raised⟩
    · intro hphase
      rw [hkept.fresh hphase] at hrunning
      cases hrunning
    · intro other hother
      obtain hold | hnew := List.mem_append.mp hother
      · exact hkept.not_cancelled other hold
      · rw [List.mem_singleton.mp hnew]
        simpa [aiterOk] using hok
    · intro hphase
      exact absurd (hkept.ended hphase) (Calls.pending_ne_nil_of_running hrunning)
  | deliver =>
    simp only [aiterStep] at hstep
    split at hstep
    case h_1 idx rest hphase hfinished =>
      have hmem : idx ∈ s.calls.finished := hfinished ▸ List.mem_cons_self
      rw [if_neg (by simp [hkept.not_cancelled idx hmem])] at hstep
      cases hstep
      refine ⟨hkept.calls.deliver hmem, by simp,
        fun _ _ => hkept.ids (by simp [hphase]) (by simp [hphase]), ?_, by simp,
        by simp, by simp⟩
      exact fun other hother =>
        hkept.not_cancelled other (List.mem_of_mem_erase hother)
    case h_2 => cases hstep
  | leave =>
    obtain ⟨⟨hphase, hpending⟩, hstep⟩ := Option.ite_none_right_eq_some.mp hstep
    cases hstep
    exact ⟨hkept.calls, by simp,
      fun _ _ => hkept.ids (by simp [hphase]) (by simp [hphase]), hkept.not_cancelled,
      fun _ => hpending, by simp, by simp⟩
  | close =>
    obtain ⟨-, hstep⟩ := Option.ite_none_right_eq_some.mp hstep
    cases hstep
    exact ⟨hkept.calls.dropWaiting, by simp [Aiter.abandon], by simp [Aiter.abandon],
      hkept.not_cancelled, by simp [Aiter.abandon], by simp [Aiter.abandon],
      by simp [Aiter.abandon]⟩

def Aiter.measure (batch : Batch δ ρ) (s : Aiter δ ρ) : ℕ :=
  s.calls.weight + s.phase.weight (5 * batch.count + 2)

theorem Aiter.measure_step (s : Aiter δ ρ) (label : AiterLabel) (t : Aiter δ ρ)
    (hstep : aiterStep batch s label = some t) : t.measure batch < s.measure batch := by
  cases label with
  | next =>
    simp only [aiterStep] at hstep
    split at hstep
    case isTrue hfresh =>
      split at hstep
      · cases hstep
        simp [measure, Phase.weight, hfresh]
      · cases hstep
        simp only [measure, Phase.weight, hfresh, Calls.weight, List.length_range]
        omega
    case isFalse =>
      obtain ⟨hphase, hstep⟩ := Option.ite_none_right_eq_some.mp hstep
      cases hstep
      simp [measure, Phase.weight, hphase]
  | enter =>
    simp only [aiterStep] at hstep
    split at hstep
    · cases hstep
    case h_2 idx rest hwaiting =>
      obtain ⟨-, hstep⟩ := Option.ite_none_right_eq_some.mp hstep
      cases hstep
      exact Nat.add_lt_add_right (Calls.weight_begin batch hwaiting) _
  | finish idx =>
    obtain ⟨hrunning, hstep⟩ := Option.ite_none_right_eq_some.mp hstep
    cases hstep
    exact Nat.add_lt_add_right (Calls.weight_finish hrunning) _
  | deliver =>
    simp only [aiterStep] at hstep
    split at hstep
    case h_1 idx rest hphase hfinished =>
      split at hstep
      · cases hstep
        simp only [abandon, measure, Phase.weight, hphase, Calls.weight, List.length_nil]
        omega
      · cases hstep
        have hmem : idx ∈ s.calls.finished := hfinished ▸ List.mem_cons_self
        have hweight := Calls.weight_deliver batch hmem
        simp only [measure, Phase.weight, hphase]
        omega
    case h_2 => cases hstep
  | leave =>
    obtain ⟨⟨hphase, -⟩, hstep⟩ := Option.ite_none_right_eq_some.mp hstep
    cases hstep
    simp [measure, Phase.weight, hphase]
  | close =>
    obtain ⟨hphase, hstep⟩ := Option.ite_none_right_eq_some.mp hstep
    cases hstep
    obtain hphase | hphase := hphase <;>
      simp only [abandon, measure, Phase.weight, hphase, Calls.weight, List.length_nil] <;>
      omega

theorem Aiter.goes_on (hkept : s.Kept batch) :
    s.phase = .ended ∨ s.phase = .stopped ∨
      ∃ label, label ≠ .close ∧ (aiterStep batch s label).isSome = true := by
  cases hphase : s.phase with
  | ended => exact .inl rfl
  | stopped => exact .inr (.inl rfl)
  | raised => exact absurd hphase hkept.not_raised
  | fresh =>
    refine .inr (.inr ⟨.next, by simp, ?_⟩)
    by_cases hempty : batch.count = 0 <;> simp [aiterStep, hphase, hempty]
  | suspended => exact .inr (.inr ⟨.next, by simp, by simp [aiterStep, hphase]⟩)
  | active =>
    refine .inr (.inr ?_)
    cases hfinished : s.calls.finished with
    | cons idx rest =>
      have hdone := hkept.not_cancelled idx (hfinished ▸ List.mem_cons_self)
      exact ⟨.deliver, by simp, by simp [aiterStep, hphase, hfinished, hdone]⟩
    | nil =>
      cases hrunning : s.calls.running with
      | cons idx rest => exact ⟨.finish idx, by simp, by simp [aiterStep, hrunning]⟩
      | nil =>
        cases hwaiting : s.calls.waiting with
        | cons idx rest =>
          have hlimit := limit_pos batch
          exact ⟨.enter, by simp, by simp [aiterStep, hwaiting, hrunning]; omega⟩
        | nil =>
          have hpending : s.calls.pending = [] := by
            simp [Calls.pending, hfinished, hrunning, hwaiting]
          exact ⟨.leave, by simp, by simp [aiterStep, hphase, hpending]⟩

theorem aiterDelivers_of_guardedRun
    (hrun : GuardedRun (aiterStep batch) (fun _ label => aiterOk batch label = true)
      Aiter.fresh s) : AiterDelivers batch s := by
  have hkept : s.Kept batch :=
    hrun.invariant (Aiter.Kept batch) (Aiter.kept_fresh batch)
      fun _ _ _ hgood hok hstep => hgood.step hok hstep
  refine ⟨hkept.calls.delivers ?_ hkept.not_raised, ?_, Aiter.goes_on hkept, ?_⟩
  · intro hphase
    exact ⟨hkept.ended hphase, hkept.ids (by simp [hphase]) (by simp [hphase])⟩
  · intro hphase
    simp [aiterStep, hkept.stopped hphase]
  · intro labels t hlabels
    have hlength := hrun.length_le (Aiter.measure batch) Aiter.measure_step hlabels
    simpa [Aiter.measure, Aiter.fresh, Calls.none, Calls.weight, Phase.weight]
      using hlength

/-! ## Both variants -/

/-- Both variants deliver the outcome of each payload exactly once, within the limit,
and agree with each other, as long as no task's call is cancelled and the synchronous
iteration is not closed while a submitted call is queued. -/
theorem item_calls_delivered (batch : Batch δ ρ) :
    (∀ s, GuardedRun (iterStep batch) (fun s label => iterOk s label = true)
      Iter.fresh s → IterDelivers batch s ∧
        (s.phase = .ended →
          mapCalls s.calls.items = (List.range batch.count).map batch.value)) ∧
    (∀ s, GuardedRun (aiterStep batch) (fun _ label => aiterOk batch label = true)
      Aiter.fresh s → AiterDelivers batch s ∧
        (s.phase = .ended →
          mapCalls s.calls.items = (List.range batch.count).map batch.value)) ∧
    ∀ s t, GuardedRun (iterStep batch) (fun s label => iterOk s label = true)
        Iter.fresh s →
      GuardedRun (aiterStep batch) (fun _ label => aiterOk batch label = true)
        Aiter.fresh t →
      s.phase = .ended → t.phase = .ended →
        s.calls.items.Perm t.calls.items ∧
          (unorderedCalls s.calls.items).Perm (unorderedCalls t.calls.items) := by
  refine ⟨fun s hrun => ?_, fun s hrun => ?_, fun s t hrun hrun' hended hended' => ?_⟩
  · have hdelivers := iterDelivers_of_guardedRun hrun
    exact ⟨hdelivers, mapCalls_eq hdelivers.delivers⟩
  · have hdelivers := aiterDelivers_of_guardedRun hrun
    exact ⟨hdelivers, mapCalls_eq hdelivers.delivers⟩
  · have hitems := items_perm (iterDelivers_of_guardedRun hrun).delivers hended
    have hitems' := items_perm (aiterDelivers_of_guardedRun hrun').delivers hended'
    have hperm := hitems.trans hitems'.symm
    exact ⟨hperm, hperm.map _⟩

def threePayloads (answer : ℕ → CallOutcome ℕ) : Batch (List (String × ℕ)) ℕ where
  payloads := [some [("x", 1)], none, some [("x", 3)]]
  maxInFlight := some 2
  defaultMaxInFlight := none
  answer := answer

def oneFails : ℕ → CallOutcome ℕ
  | 0 => .result "n1" 10
  | 1 => .exception "ValueError" "x is required"
  | _ => .result "n2" 30

/-- The second call of both variants fails before the first one returns. -/
theorem item_calls_delivered_oneFails :
    ∃ s t, Reachable (iterStep (threePayloads oneFails)) Iter.fresh s ∧
      Reachable (aiterStep (threePayloads oneFails)) Aiter.fresh t ∧
      (s.calls.items.map ExecutionItem.index, t.calls.items.map ExecutionItem.index) =
        ([1, 0, 2], [1, 2, 0]) ∧
      mapCalls s.calls.items = (List.range 3).map (threePayloads oneFails).value ∧
      s.calls.items.Perm t.calls.items := by
  have hview : (checkedRun (iterStep (threePayloads oneFails))
      (fun s label => iterOk s label = true) Iter.fresh
      [.next, .submit, .submit, .start, .start, .finish 1, .deliver 1, .next, .submit,
        .finish 0, .deliver 0, .next, .start, .finish 2, .deliver 2, .next, .leave]).map
      (fun s => (s.phase, s.calls.items.map ExecutionItem.index)) =
      some (.ended, [1, 0, 2]) := by decide
  have hview' : (checkedRun (aiterStep (threePayloads oneFails))
      (fun _ label => aiterOk (threePayloads oneFails) label = true) Aiter.fresh
      [.next, .enter, .enter, .finish 1, .enter, .deliver, .next, .finish 2, .finish 0,
        .deliver, .next, .deliver, .next, .leave]).map
      (fun s => (s.phase, s.calls.items.map ExecutionItem.index)) =
      some (.ended, [1, 2, 0]) := by decide
  obtain ⟨s, hlast, hs⟩ := Option.map_eq_some_iff.mp hview
  obtain ⟨t, hlast', ht⟩ := Option.map_eq_some_iff.mp hview'
  have hrun := guardedRun_of_checkedRun _ hlast
  have hrun' := guardedRun_of_checkedRun _ hlast'
  rw [Prod.mk.injEq] at hs ht
  obtain ⟨hiter, haiter, hboth⟩ := item_calls_delivered (threePayloads oneFails)
  exact ⟨s, t, hrun.reachable, hrun'.reachable, by rw [hs.2, ht.2],
    (hiter s hrun).2 hs.1, (hboth s t hrun hrun' hs.1 ht.1).1⟩

/-- A consumer that closes the iteration after the first item while the second call
is queued; and a task whose call is cancelled. -/
theorem item_calls_started_late_and_lost :
    (∃ s, Reachable (iterStep (threePayloads oneFails)) Iter.fresh s ∧
      s.phase = .stopped ∧ s.calls.made.map Prod.fst = [0] ∧
      (iterStep (threePayloads oneFails) s .start).isSome = true ∧
      ¬ IterDelivers (threePayloads oneFails) s) ∧
    ∃ s, Reachable (aiterStep (threePayloads fun _ => .cancelled)) Aiter.fresh s ∧
      s.phase = .raised ∧ s.calls.items.length = 0 ∧
      ¬ AiterDelivers (threePayloads fun _ => .cancelled) s := by
  constructor
  · have hview : (runLabels (iterStep (threePayloads oneFails)) Iter.fresh
        [.next, .submit, .submit, .start, .finish 0, .deliver 0, .close]).map
        (fun s => (s.phase, s.calls.made.map Prod.fst,
          (iterStep (threePayloads oneFails) s .start).isSome)) =
        some (.stopped, [0], true) := by decide
    obtain ⟨s, hlast, hs⟩ := Option.map_eq_some_iff.mp hview
    simp only [Prod.mk.injEq] at hs
    obtain ⟨hphase, hmade, hstart⟩ := hs
    refine ⟨s, reachable_of_runLabels _ hlast, hphase, hmade, hstart,
      fun hdelivers => ?_⟩
    rw [hdelivers.nothing_started hphase] at hstart
    cases hstart
  · have hview : (runLabels (aiterStep (threePayloads fun _ => .cancelled)) Aiter.fresh
        [.next, .enter, .finish 0, .deliver]).map
        (fun s => (s.phase, s.calls.items.length)) = some (.raised, 0) := by decide
    obtain ⟨s, hlast, hs⟩ := Option.map_eq_some_iff.mp hview
    rw [Prod.mk.injEq] at hs
    exact ⟨s, reachable_of_runLabels _ hlast, hs.1, hs.2,
      fun hdelivers => hdelivers.delivers.not_raised hs.1⟩

end PycloudParallel.ServiceItems
