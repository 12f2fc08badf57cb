import PycloudParallel.CandidateFailoverModel
import Mathlib.Data.List.Nodup

/-!
# Failover of an owner's handle

The loop calls one usable replica after the other.  The selection step is outside
the block that catches errors, so it hides the last one where it finds nothing more
while there are replicas that cannot be used.
-/

namespace PycloudParallel.CandidateFailover

open CallFailover (Text FailureKind shouldFailover)
open ServiceCalls (CandidateBreakerState)

variable {ι β : Type*} [DecidableEq ι]

theorem beforeProbe_of_allowed {breaker : CandidateBreakerState} {now : ℚ}
    (hallowed : (breaker.candidateAllowed now).2 = true) :
    ((breaker.candidateAllowed now).1.beforeProbe now).2 = true := by
  obtain ⟨state, failures, disabledUntil, openCount, probe⟩ := breaker
  cases state with
  | closed =>
    simp [CandidateBreakerState.candidateAllowed, CandidateBreakerState.beforeProbe]
  | halfOpen =>
    simp_all [CandidateBreakerState.candidateAllowed, CandidateBreakerState.beforeProbe]
  | opened =>
    by_cases hcool : disabledUntil ≤ now <;>
      simp_all [CandidateBreakerState.candidateAllowed,
        CandidateBreakerState.beforeProbe]

theorem shouldFailover_iff {kind : FailureKind} {alternative : Bool} :
    shouldFailover kind alternative = true ↔
      alternative = true ∧ shouldFailover kind true = true := by
  cases alternative <;> simp [shouldFailover]

namespace OwnerHandle

variable {handle : OwnerHandle ι} {strategy : Strategy ι} {refreshStatus : Bool}
  {now : ℚ} {outcome : ι → CallOutcome β}

def remaining (handle : OwnerHandle ι) (now : ℚ) (blacklist excluded : List ι) :
    List ι :=
  (handle.usable now blacklist).filter fun node => decide (node ∉ excluded)

variable {node : ι} {excluded sessions tries : ℕ} {lastError : Option Text}
  {remaining : List ι}

theorem mem_remaining {blacklist excluded : List ι} :
    node ∈ handle.remaining now blacklist excluded ↔
      node ∈ handle.usable now blacklist ∧ node ∉ excluded := by
  simp [remaining]

theorem nodup_usable (handle : OwnerHandle ι) (now : ℚ) (blacklist : List ι) :
    (handle.usable now blacklist).Nodup :=
  handle.nodup.filter _

theorem selectNode_eq (handle : OwnerHandle ι) (strategy : Strategy ι)
    (refreshStatus : Bool) (now : ℚ) (blacklist excluded : List ι) :
    (handle.remaining now blacklist excluded = [] →
      ∃ message, handle.selectNode strategy refreshStatus now blacklist excluded =
        .error message) ∧
    (handle.remaining now blacklist excluded ≠ [] →
      handle.selectNode strategy refreshStatus now blacklist excluded =
        .ok (strategy.pick excluded (handle.remaining now blacklist excluded))) := by
  have hready : (if refreshStatus then
        ((handle.sessions.filter fun node => decide (node ∉ excluded) &&
            decide (node ∉ blacklist) && handle.active node).filter fun node =>
          ((handle.breakers node).candidateAllowed now).2 &&
            (refreshStatus || handle.ready node)).filter handle.ready
      else
        (handle.sessions.filter fun node => decide (node ∉ excluded) &&
            decide (node ∉ blacklist) && handle.active node).filter fun node =>
          ((handle.breakers node).candidateAllowed now).2 &&
            (refreshStatus || handle.ready node)) =
      handle.remaining now blacklist excluded := by
    cases refreshStatus <;> simp only [remaining, usable, List.filter_filter] <;>
      refine List.filter_congr fun node _ => ?_ <;> grind
  have hnone : (handle.sessions.filter fun node => decide (node ∉ excluded) &&
          decide (node ∉ blacklist) && handle.active node).filter (fun node =>
        ((handle.breakers node).candidateAllowed now).2 &&
          (refreshStatus || handle.ready node)) = [] →
      handle.remaining now blacklist excluded = [] := by
    intro hnil
    rw [← hready, hnil]
    cases refreshStatus <;> rfl
  constructor
  · intro hnil
    simp only [selectNode, hready, hnil, if_true]
    split <;> exact ⟨_, rfl⟩
  · intro hne
    simp only [selectNode, hready]
    rw [if_neg fun hnil => hne (hnone hnil), if_neg hne]

theorem remaining_cons {blacklist excluded : List ι} (marked : Bool) :
    handle.remaining now (if marked then node :: blacklist else blacklist)
        (node :: excluded) =
      (handle.remaining now blacklist excluded).erase node := by
  have hnodup : (handle.remaining now blacklist excluded).Nodup :=
    (nodup_usable handle now blacklist).filter _
  rw [hnodup.erase_eq_filter]
  simp only [remaining, usable, List.filter_filter]
  refine List.filter_congr fun other _ => ?_
  cases marked <;> grind

/-! ## The loop -/

/-- What the loop does with so many tries, when `remaining` are left of so many
sessions and the others have been excluded. -/
structure LoopSpec (outcome : ι → CallOutcome β) (sessions tries excluded : ℕ)
    (remaining : List ι) (lastError : Option Text) (tape : CallTape ι β) : Prop where
  once : tape.attempts.Nodup
  within : ∀ node ∈ tape.attempts, node ∈ remaining
  stops : ∀ node ∈ tape.attempts, (outcome node).final = true →
    tape.attempts.getLast? = some node ∧ tape.ending = (outcome node).ending node
  exhausts : (∀ node ∈ tape.attempts, (outcome node).final = false) →
    tape.attempts.length = min tries remaining.length
  notSelected : (∃ message, tape.ending = .notSelected message) ↔
    (∀ node ∈ remaining, (outcome node).final = false) ∧ remaining.length < tries ∧
      (remaining = [] ∨ excluded + remaining.length < sessions)
  notReturned : (∀ node ∈ tape.attempts, (outcome node).final = false) →
    ∀ node value, tape.ending ≠ .returned node value
  failed : (∀ node ∈ tape.attempts, (outcome node).final = false) →
    ∀ message, tape.ending = .failed message →
      (tape.attempts = [] → errorText lastError <:+: message) ∧
      ∀ last ∈ tape.attempts.getLast?, ∃ failure,
        outcome last = .failed failure ∧ failure.message <:+: message

omit [DecidableEq ι] in
theorem LoopSpec.ofNone {message : Text} (hnil : remaining = []) :
    LoopSpec outcome sessions (tries + 1) excluded remaining lastError
      ⟨[], .notSelected message⟩ := by
  subst hnil
  constructor <;> simp

omit [DecidableEq ι] in
theorem LoopSpec.ofZero {detail : Text} :
    LoopSpec outcome sessions 0 excluded remaining lastError
      ⟨[], .failed (allFailedText lastError detail)⟩ := by
  constructor
  case failed =>
    intro _ message hending
    cases hending
    refine ⟨fun _ => ?_, by simp⟩
    exact ⟨_, _, rfl⟩
  all_goals simp

omit [DecidableEq ι] in
theorem LoopSpec.ofLast (hnode : node ∈ remaining)
    (hbound : excluded + remaining.length ≤ sessions)
    (hlast : (outcome node).final = true ∨ sessions ≤ excluded + 1) :
    LoopSpec outcome sessions (tries + 1) excluded remaining lastError
      ⟨[node], (outcome node).ending node⟩ := by
  have hpos := List.length_pos_of_mem hnode
  constructor
  case once => simp
  case within => simpa using hnode
  case stops => simp
  case exhausts =>
    intro hnonfinal
    have hfinal := hnonfinal node List.mem_cons_self
    simp only [hfinal, Bool.false_eq_true, false_or] at hlast
    simp only [List.length_singleton]
    omega
  case notSelected =>
    refine iff_of_false ?_ ?_
    · rintro ⟨message, hending⟩
      cases houtcome : outcome node <;> simp [houtcome, CallOutcome.ending] at hending
    · rintro ⟨hall, -, hrest⟩
      have hfinal := hall node hnode
      simp only [hfinal, Bool.false_eq_true, false_or] at hlast
      obtain rfl | hless := hrest
      · cases hnode
      · omega
  case notReturned =>
    intro hnonfinal other value hending
    have hfinal := hnonfinal node List.mem_cons_self
    cases houtcome : outcome node <;>
      simp [houtcome, CallOutcome.ending, CallOutcome.final] at hending hfinal
  case failed =>
    intro _ message hending
    refine ⟨by simp, ?_⟩
    intro last hmem
    simp only [List.getLast?_singleton, Option.mem_some_iff] at hmem
    subst hmem
    cases houtcome : outcome node with
    | result value => simp [houtcome, CallOutcome.ending] at hending
    | failed failure =>
      simp only [houtcome, CallOutcome.ending, CallEnding.failed.injEq] at hending
      exact ⟨failure, rfl, hending ▸ List.infix_rfl⟩

theorem LoopSpec.cons {failure : CallFailure} {tape : CallTape ι β}
    (hnode : node ∈ remaining) (hnodup : remaining.Nodup)
    (houtcome : outcome node = .failed failure)
    (hgoes : shouldFailover failure.kind
      (decide (excluded + 1 < sessions)) = true)
    (hrest : LoopSpec outcome sessions tries (excluded + 1) (remaining.erase node)
      (some failure.message) tape) :
    LoopSpec outcome sessions (tries + 1) excluded remaining lastError
      (tape.precededBy node) := by
  obtain ⟨hroom, hkind⟩ := shouldFailover_iff.mp hgoes
  rw [decide_eq_true_eq] at hroom
  have hfinal : (outcome node).final = false := by
    simp [houtcome, CallOutcome.final, hkind]
  have hlength := List.length_erase_of_mem hnode
  have hpos := List.length_pos_of_mem hnode
  have hnotin : node ∉ tape.attempts := fun hmem =>
    (hnodup.mem_erase_iff.mp (hrest.within node hmem)).1 rfl
  have hall : (∀ other ∈ node :: tape.attempts, (outcome other).final = false) ↔
      ∀ other ∈ tape.attempts, (outcome other).final = false := by
    simp [hfinal]
  constructor
  case once => exact List.nodup_cons.mpr ⟨hnotin, hrest.once⟩
  case within =>
    intro other hother
    obtain rfl | hother := List.mem_cons.mp hother
    · exact hnode
    · exact List.mem_of_mem_erase (hrest.within other hother)
  case stops =>
    intro other hother hother'
    obtain rfl | hother := List.mem_cons.mp hother
    · rw [hfinal] at hother'
      cases hother'
    · obtain ⟨hlast, hending⟩ := hrest.stops other hother hother'
      refine ⟨?_, hending⟩
      simp [FailoverTape.precededBy, List.getLast?_cons, hlast]
  case exhausts =>
    intro hnonfinal
    have hcount := hrest.exhausts (hall.mp hnonfinal)
    simp only [FailoverTape.precededBy, List.length_cons, hcount, hlength]
    omega
  case notSelected =>
    have hiff := hrest.notSelected
    have hsame : (∀ other ∈ remaining, (outcome other).final = false) ↔
        ∀ other ∈ remaining.erase node, (outcome other).final = false := by
      constructor
      · exact fun h other hother => h other (List.mem_of_mem_erase hother)
      · intro h other hother
        by_cases heq : other = node
        · rw [heq, hfinal]
        · exact h other (hnodup.mem_erase_iff.mpr ⟨heq, hother⟩)
    have hnil : remaining.erase node = [] ↔ remaining.length = 1 := by
      rw [← List.length_eq_zero_iff, hlength]
      omega
    have hne : remaining ≠ [] := List.ne_nil_of_mem hnode
    simp only [FailoverTape.precededBy]
    rw [hiff, hsame, hnil, hlength]
    simp only [hne, false_or]
    refine and_congr_right fun _ => ?_
    omega
  case notReturned => exact fun hnonfinal => hrest.notReturned (hall.mp hnonfinal)
  case failed =>
    intro hnonfinal message hending
    obtain ⟨hempty, hlast⟩ := hrest.failed (hall.mp hnonfinal) message hending
    refine ⟨by simp [FailoverTape.precededBy], fun last hmem => ?_⟩
    obtain ⟨hnil, rfl⟩ | hmem := FailoverTape.mem_getLast?_precededBy hmem
    · exact ⟨failure, houtcome, hempty hnil⟩
    · exact hlast last hmem

theorem callLoop_spec (handle : OwnerHandle ι) (strategy : Strategy ι)
    (refreshStatus : Bool) (now : ℚ) (outcome : ι → CallOutcome β) (tries : ℕ)
    (excluded blacklist : List ι) (lastError : Option Text)
    (hbound : excluded.length + (handle.remaining now blacklist excluded).length ≤
      handle.sessions.length) :
    LoopSpec outcome handle.sessions.length tries excluded.length
      (handle.remaining now blacklist excluded) lastError
      (handle.callLoop strategy refreshStatus now outcome tries excluded blacklist
        lastError) := by
  induction tries generalizing excluded blacklist lastError with
  | zero => exact LoopSpec.ofZero
  | succ tries ih =>
    obtain ⟨hnone, hsome⟩ :=
      selectNode_eq handle strategy refreshStatus now blacklist excluded
    by_cases hnil : handle.remaining now blacklist excluded = []
    · obtain ⟨message, hselect⟩ := hnone hnil
      rw [callLoop, hselect]
      exact LoopSpec.ofNone hnil
    · have hselect := hsome hnil
      generalize hpick : strategy.pick excluded
        (handle.remaining now blacklist excluded) = node at hselect
      have hnode : node ∈ handle.remaining now blacklist excluded :=
        hpick ▸ strategy.pick_mem _ _ hnil
      have hallowed : ((handle.breakers node).candidateAllowed now).2 = true := by
        have husable := (mem_remaining.mp hnode).1
        simp only [usable, List.mem_filter, Bool.and_eq_true] at husable
        exact husable.2.1.2
      have hinvoke : handle.breakerBeforeInvoke now node = true :=
        beforeProbe_of_allowed hallowed
      have hnodup : (handle.remaining now blacklist excluded).Nodup :=
        (nodup_usable handle now blacklist).filter _
      have hlength := List.length_erase_of_mem hnode
      have hpos := List.length_pos_of_mem hnode
      have hlast : (outcome node).final = true ∨
            handle.sessions.length ≤ excluded.length + 1 →
          LoopSpec outcome handle.sessions.length (tries + 1) excluded.length
            (handle.remaining now blacklist excluded) lastError
            ⟨[node], (outcome node).ending node⟩ := LoopSpec.ofLast hnode hbound
      rw [callLoop, hselect]
      simp only [hinvoke, Bool.true_eq_false, if_false]
      cases houtcome : outcome node with
      | result value =>
        rw [houtcome] at hlast
        exact hlast (.inl rfl)
      | failed failure =>
        simp only [List.length_cons]
        split
        case isTrue hgoes =>
          refine LoopSpec.cons hnode hnodup houtcome hgoes ?_
          have hnext := ih (node :: excluded)
            (if failure.dependency then node :: blacklist else blacklist)
            (some failure.message) (by
              rw [remaining_cons, List.length_cons, hlength]
              omega)
          rw [remaining_cons] at hnext
          exact hnext
        case isFalse hstays =>
          rw [houtcome] at hlast
          refine hlast ?_
          rw [shouldFailover_iff, decide_eq_true_eq, not_and_or] at hstays
          obtain hfull | hkind := hstays
          · exact .inr (by omega)
          · exact .inl (by simp [CallOutcome.final, hkind])

/-! ## When the error is hidden -/

def hidesError (handle : OwnerHandle ι) (now : ℚ) (outcome : ι → CallOutcome β)
    (blacklist : List ι) (maxAttempts : ℕ) : Prop :=
  handle.usable now blacklist ≠ [] ∧
    (handle.usable now blacklist).length < handle.sessions.length ∧
    (maxAttempts = 0 ∨ (handle.usable now blacklist).length < maxAttempts) ∧
    ∀ node ∈ handle.usable now blacklist, (outcome node).final = false

theorem remaining_nil (blacklist : List ι) :
    handle.remaining now blacklist [] = handle.usable now blacklist := by
  simp [remaining]

theorem usable_filter_called (blacklist called : List ι) :
    ((handle.usable now blacklist).filter fun node => decide (node ∈ called) ||
      decide (id node ∉ blacklistAfter outcome id blacklist called)) =
      handle.usable now blacklist := by
  rw [List.filter_eq_self]
  intro node hnode
  have hfree : node ∉ blacklist := by
    simp only [usable, List.mem_filter, Bool.and_eq_true, decide_eq_true_eq] at hnode
    exact hnode.2.1.1.1
  simp only [blacklistAfter, List.map_id, Bool.or_eq_true, decide_eq_true_eq, id_eq,
    List.mem_append, List.mem_filter, not_or]
  by_cases hcalled : node ∈ called
  · exact .inl hcalled
  · exact .inr ⟨fun hmem => hcalled hmem.1, hfree⟩

theorem callBalanced_failsOver_iff (handle : OwnerHandle ι) (strategy : Strategy ι)
    (refreshStatus : Bool) (now : ℚ) (outcome : ι → CallOutcome β)
    (blacklist : List ι) (maxAttempts : ℕ) :
    FailsOver outcome id blacklist (handle.usable now blacklist) maxAttempts
        (handle.callBalanced strategy refreshStatus now outcome blacklist
          maxAttempts) ↔
      ¬ handle.hidesError now outcome blacklist maxAttempts := by
  rw [callBalanced]
  split
  case isTrue hnone =>
    have husable : handle.usable now blacklist = [] := by simp [usable, hnone]
    refine iff_of_true ?_ fun hhides => hhides.1 husable
    constructor <;> simp [attemptsOf, husable]
  case isFalse hsessions =>
    have hpos := List.length_pos_iff.mpr hsessions
    have hle : (handle.usable now blacklist).length ≤ handle.sessions.length :=
      List.length_filter_le _ _
    have hspec := callLoop_spec handle strategy refreshStatus now outcome
      (max 1 (if maxAttempts = 0 then handle.sessions.length else maxAttempts)) []
      blacklist none (by
        rw [remaining_nil, List.length_nil, Nat.zero_add]
        exact hle)
    rw [remaining_nil] at hspec
    generalize handle.callLoop strategy refreshStatus now outcome _ [] blacklist none =
      tape at hspec ⊢
    have hcount : min (max 1 (if maxAttempts = 0 then handle.sessions.length
          else maxAttempts)) (handle.usable now blacklist).length =
        attemptsOf maxAttempts (handle.usable now blacklist).length := by
      rw [attemptsOf]
      split <;> omega
    have hhides : (∃ message, tape.ending = .notSelected message) ∧
          handle.usable now blacklist ≠ [] ↔
        handle.hidesError now outcome blacklist maxAttempts := by
      rw [hspec.notSelected, hidesError, List.length_nil]
      constructor
      · rintro ⟨⟨hall, hless, hrest⟩, hne⟩
        have hroom := hrest.resolve_left hne
        refine ⟨hne, by omega, ?_, hall⟩
        by_cases hzero : maxAttempts = 0
        · exact .inl hzero
        · rw [if_neg hzero] at hless
          exact .inr (by omega)
      · rintro ⟨hne, hroom, hlimit, hall⟩
        refine ⟨⟨hall, ?_, .inr (by omega)⟩, hne⟩
        split <;> omega
    rw [← hhides]
    constructor
    · rintro hfails ⟨⟨message, hending⟩, hne⟩
      have hall := (hspec.notSelected.mp ⟨message, hending⟩).1
      have hnonfinal : ∀ node ∈ tape.attempts, (outcome node).final = false :=
        fun node hnode => hall node (hspec.within node hnode)
      have hlength := hspec.exhausts hnonfinal
      have husable := List.length_pos_iff.mpr hne
      have hattempts : tape.attempts ≠ [] := by
        rw [← List.length_pos_iff, hlength]
        split <;> omega
      obtain ⟨-, failed, -, hfailed, -⟩ := hfails.carries hnonfinal _
        (List.getLast?_eq_some_getLast hattempts)
      rw [hending] at hfailed
      cases hfailed
    · intro hshown
      refine ⟨hspec.once, hspec.within, hspec.stops, ?_, ?_⟩
      · intro hnonfinal
        rw [usable_filter_called, hspec.exhausts hnonfinal, hcount]
      · intro hnonfinal last hlast
        have hattempts : tape.attempts ≠ [] := by
          intro hnil
          rw [hnil] at hlast
          cases hlast
        obtain ⟨first, hfirst⟩ := List.exists_mem_of_ne_nil _ hattempts
        have hne := List.ne_nil_of_mem (hspec.within first hfirst)
        cases hending : tape.ending with
        | returned node value => exact absurd hending (hspec.notReturned hnonfinal _ _)
        | notSelected message => exact absurd ⟨⟨message, hending⟩, hne⟩ hshown
        | failed message =>
          obtain ⟨failure, houtcome, hinfix⟩ :=
            (hspec.failed hnonfinal message hending).2 last hlast
          exact ⟨failure, message, houtcome, rfl, hinfix⟩

end OwnerHandle

end PycloudParallel.CandidateFailover
