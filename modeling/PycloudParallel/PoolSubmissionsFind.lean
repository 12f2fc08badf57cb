import PycloudParallel.PoolSubmissionsModel
import Mathlib.Data.List.Dedup

/-!
# When a submission finds a candidate

An available node stays available while a submission is planned, so the
planner fails exactly when the scheduler's state has disabled every available
node.  A node is disabled by each failure and enabled by a success or by its
removal only, so a node that is available again after its cooldown is not
selected.
-/

namespace PycloudParallel.PoolSubmissions

open ServiceCalls (CandidateBreakerState)
open Scheduler

/-! ## Asking for the available nodes -/

theorem candidateAllowed_later (later : ℚ) {breaker : CandidateBreakerState}
    {now : ℚ} (hallowed : (breaker.candidateAllowed now).2 = true) :
    (breaker.candidateAllowed now).1.candidateAllowed later =
      ((breaker.candidateAllowed now).1, true) ∧
      (breaker.candidateAllowed now).1.state ≠ .opened := by
  obtain ⟨state, failures, disabledUntil, openCount, probing⟩ := breaker
  cases state with
  | closed => exact ⟨rfl, by simp [CandidateBreakerState.candidateAllowed]⟩
  | halfOpen =>
    have hfree : probing = false := by
      simpa [CandidateBreakerState.candidateAllowed] using hallowed
    subst hfree
    exact ⟨rfl, by simp [CandidateBreakerState.candidateAllowed]⟩
  | opened =>
    by_cases hcool : disabledUntil ≤ now
    · simp [CandidateBreakerState.candidateAllowed, hcool]
    · simp [CandidateBreakerState.candidateAllowed, hcool] at hallowed

namespace PoolSession

structure SameButBreakers (s s' : PoolSession) : Prop where
  pools : s'.pools = s.pools
  nodes : s'.nodes = s.nodes
  activeReplicaIds : s'.activeReplicaIds = s.activeReplicaIds
  methodNodeBlacklist : s'.methodNodeBlacklist = s.methodNodeBlacklist
  schedulerState : s'.schedulerState = s.schedulerState
  poolCycle : s'.poolCycle = s.poolCycle

variable {s s' : PoolSession} {nodeId other : NodeId} {now : ℚ}
  {nodeIds : List NodeId}

theorem SameButBreakers.trans {mid : PoolSession}
    (hfirst : s.SameButBreakers mid) (hsecond : mid.SameButBreakers s') :
    s.SameButBreakers s' where
  pools := hsecond.pools.trans hfirst.pools
  nodes := hsecond.nodes.trans hfirst.nodes
  activeReplicaIds := hsecond.activeReplicaIds.trans hfirst.activeReplicaIds
  methodNodeBlacklist :=
    hsecond.methodNodeBlacklist.trans hfirst.methodNodeBlacklist
  schedulerState := hsecond.schedulerState.trans hfirst.schedulerState
  poolCycle := hsecond.poolCycle.trans hfirst.poolCycle

@[simp] theorem poolBreakerState_setBreaker_self (s : PoolSession)
    (nodeId : NodeId) (breaker : CandidateBreakerState) :
    (s.setBreaker nodeId breaker).poolBreakerState nodeId = breaker := by
  simp [poolBreakerState, setBreaker]

theorem poolBreakerState_setBreaker_ne (s : PoolSession)
    (breaker : CandidateBreakerState) (hne : other ≠ nodeId) :
    (s.setBreaker nodeId breaker).poolBreakerState other =
      s.poolBreakerState other := by
  rw [poolBreakerState, setBreaker, OrderedDict.lookup_set_ne _ _ hne]
  rfl

theorem sameButBreakers_availableAmong (now : ℚ) (nodeIds : List NodeId)
    (s : PoolSession) : s.SameButBreakers (s.availableAmong now nodeIds).2 := by
  induction nodeIds generalizing s with
  | nil => exact ⟨rfl, rfl, rfl, rfl, rfl, rfl⟩
  | cons nodeId nodeIds ih =>
    rw [availableAmong]
    split
    · have hset : s.SameButBreakers (s.setBreaker nodeId
          ((s.poolBreakerState nodeId).candidateAllowed now).1) :=
        ⟨rfl, rfl, rfl, rfl, rfl, rfl⟩
      have hothers := hset.trans (ih _)
      simp only
      split <;> exact hothers
    · exact ih s

structure IsAvailable (s : PoolSession) (now : ℚ) (nodeId : NodeId) : Prop where
  active : nodeId ∈ s.activeReplicaIds
  allowed : ((s.poolBreakerState nodeId).candidateAllowed now).2 = true
  listed : s.isTaskMethodNodeBlacklisted nodeId = false

theorem IsAvailable.congr (hsame : s.SameButBreakers s')
    (hbreaker : s'.poolBreakerState nodeId = s.poolBreakerState nodeId) :
    s'.IsAvailable now nodeId ↔ s.IsAvailable now nodeId := by
  have hlisted : s'.isTaskMethodNodeBlacklisted nodeId =
      s.isTaskMethodNodeBlacklisted nodeId := by
    rw [isTaskMethodNodeBlacklisted, hsame.methodNodeBlacklist]
    rfl
  constructor
  · rintro ⟨hactive, hallowed, hfree⟩
    exact ⟨hsame.activeReplicaIds ▸ hactive, hbreaker ▸ hallowed,
      hlisted ▸ hfree⟩
  · rintro ⟨hactive, hallowed, hfree⟩
    exact ⟨hsame.activeReplicaIds.symm ▸ hactive, hbreaker.symm ▸ hallowed,
      hlisted.symm ▸ hfree⟩

theorem poolBreakerState_availableAmong_ne (now : ℚ) (hother : other ∉ nodeIds)
    (s : PoolSession) :
    (s.availableAmong now nodeIds).2.poolBreakerState other =
      s.poolBreakerState other := by
  induction nodeIds generalizing s with
  | nil => rfl
  | cons nodeId nodeIds ih =>
    rw [List.mem_cons, not_or] at hother
    rw [availableAmong]
    split
    · have hrest := ih hother.2 (s.setBreaker nodeId
        ((s.poolBreakerState nodeId).candidateAllowed now).1)
      rw [poolBreakerState_setBreaker_ne _ _ hother.1] at hrest
      simp only
      split <;> exact hrest
    · exact ih hother.2 s

theorem mem_availableAmong (hnodup : nodeIds.Nodup) (s : PoolSession) :
    nodeId ∈ (s.availableAmong now nodeIds).1 ↔
      nodeId ∈ nodeIds ∧ s.IsAvailable now nodeId := by
  induction nodeIds generalizing s with
  | nil => simp [availableAmong]
  | cons first nodeIds ih =>
    obtain ⟨hfirst, hrest⟩ := List.nodup_cons.mp hnodup
    have hothers : ∀ t : PoolSession, s.SameButBreakers t →
        (∀ other, other ≠ first →
          t.poolBreakerState other = s.poolBreakerState other) →
        (nodeId ∈ (t.availableAmong now nodeIds).1 ↔
          nodeId ∈ nodeIds ∧ s.IsAvailable now nodeId) := by
      intro t hsame hbreakers
      rw [ih hrest t]
      apply and_congr_right
      intro hmem
      have hne : nodeId ≠ first := fun heq => hfirst (heq ▸ hmem)
      exact IsAvailable.congr hsame (hbreakers nodeId hne)
    rw [availableAmong]
    split
    case isFalse hactive =>
      rw [hothers s ⟨rfl, rfl, rfl, rfl, rfl, rfl⟩ fun _ _ => rfl,
        List.mem_cons, or_and_right]
      have hnot : ¬(nodeId = first ∧ s.IsAvailable now nodeId) := by
        rintro ⟨heq, havailable⟩
        rw [heq] at havailable
        exact hactive (List.contains_iff_mem.mpr havailable.active)
      exact (or_iff_right hnot).symm
    case isTrue hactive =>
      have hset := hothers (s.setBreaker first
        ((s.poolBreakerState first).candidateAllowed now).1)
        ⟨rfl, rfl, rfl, rfl, rfl, rfl⟩
        fun other hne => poolBreakerState_setBreaker_ne _ _ hne
      have havailable : ((s.poolBreakerState first).candidateAllowed now).2 =
          true ∧ s.isTaskMethodNodeBlacklisted first = false ↔
            s.IsAvailable now first :=
        ⟨fun h => ⟨List.contains_iff_mem.mp hactive, h.1, h.2⟩,
          fun h => ⟨h.allowed, h.listed⟩⟩
      simp only
      split
      case isTrue hasked =>
        rw [Bool.and_eq_true, Bool.not_eq_true', havailable] at hasked
        rw [List.mem_cons, hset, List.mem_cons, or_and_right]
        apply or_congr_left
        exact ⟨fun heq => ⟨heq, heq ▸ hasked⟩, fun h => h.1⟩
      case isFalse hasked =>
        rw [Bool.and_eq_true, Bool.not_eq_true', havailable] at hasked
        have hnot : ¬(nodeId = first ∧ s.IsAvailable now nodeId) :=
          fun hboth => hasked (hboth.1 ▸ hboth.2)
        rw [hset, List.mem_cons, or_and_right]
        exact (or_iff_right hnot).symm

theorem poolBreakerState_availableAmong (hnodup : nodeIds.Nodup)
    (hmem : nodeId ∈ nodeIds) (s : PoolSession)
    (hactive : nodeId ∈ s.activeReplicaIds) :
    (s.availableAmong now nodeIds).2.poolBreakerState nodeId =
      ((s.poolBreakerState nodeId).candidateAllowed now).1 := by
  induction nodeIds generalizing s with
  | nil => cases hmem
  | cons first nodeIds ih =>
    obtain ⟨hfirst, hrest⟩ := List.nodup_cons.mp hnodup
    rw [availableAmong]
    by_cases heq : nodeId = first
    · subst heq
      have hafter := poolBreakerState_availableAmong_ne now hfirst
        (s.setBreaker nodeId ((s.poolBreakerState nodeId).candidateAllowed now).1)
      rw [poolBreakerState_setBreaker_self] at hafter
      rw [if_pos (List.contains_iff_mem.mpr hactive)]
      simp only
      split <;> exact hafter
    · have htail : nodeId ∈ nodeIds := (List.mem_cons.mp hmem).resolve_left heq
      split
      · have hafter := ih hrest htail (s.setBreaker first
          ((s.poolBreakerState first).candidateAllowed now).1) hactive
        rw [poolBreakerState_setBreaker_ne _ _ heq] at hafter
        simp only
        split <;> exact hafter
      · exact ih hrest htail s hactive

theorem mem_availablePoolNodeIds :
    nodeId ∈ (s.availablePoolNodeIds now).1 ↔
      nodeId ∈ s.pools ∧ s.IsAvailable now nodeId := by
  rw [availablePoolNodeIds, mem_availableAmong s.pools.keys_nodup]
  rfl

theorem sameButBreakers_available (s : PoolSession) (now : ℚ) :
    s.SameButBreakers (s.availablePoolNodeIds now).2 :=
  sameButBreakers_availableAmong now _ s

theorem available_later (later : ℚ)
    (hmem : nodeId ∈ (s.availablePoolNodeIds now).1) :
    nodeId ∈ ((s.availablePoolNodeIds now).2.availablePoolNodeIds later).1 ∧
      (((s.availablePoolNodeIds now).2.availablePoolNodeIds
        later).2.poolBreakerState nodeId).state ≠ .opened := by
  obtain ⟨hpool, havailable⟩ := mem_availablePoolNodeIds.mp hmem
  have hsame := s.sameButBreakers_available now
  have hbreaker : (s.availablePoolNodeIds now).2.poolBreakerState nodeId =
      ((s.poolBreakerState nodeId).candidateAllowed now).1 :=
    poolBreakerState_availableAmong s.pools.keys_nodup hpool s
      havailable.active
  obtain ⟨hlater, hopen⟩ := candidateAllowed_later later
    havailable.allowed
  have hactive : nodeId ∈ (s.availablePoolNodeIds now).2.activeReplicaIds := by
    rw [hsame.activeReplicaIds]
    exact havailable.active
  have hpool' : nodeId ∈ (s.availablePoolNodeIds now).2.pools := by
    rw [hsame.pools]
    exact hpool
  have hlisted : (s.availablePoolNodeIds now).2.isTaskMethodNodeBlacklisted
      nodeId = false := by
    rw [isTaskMethodNodeBlacklisted, hsame.methodNodeBlacklist]
    exact havailable.listed
  constructor
  · rw [mem_availablePoolNodeIds]
    exact ⟨hpool', hactive, by rw [hbreaker, hlater], hlisted⟩
  · have hafter : ((s.availablePoolNodeIds now).2.availablePoolNodeIds
        later).2.poolBreakerState nodeId = _ :=
      poolBreakerState_availableAmong
        (s.availablePoolNodeIds now).2.pools.keys_nodup hpool' _ hactive
    rw [hafter, hbreaker, hlater]
    exact hopen

theorem planTargets_isSome_iff {profile : StrategyProfile}
    {candidates : List SchedulerCandidate} {count : ℕ} (hcount : 0 < count)
    (roundRobin : ℕ) (state : SchedulerState) :
    (planTargets profile candidates count roundRobin state).isSome = true ↔
      filterCandidates state candidates ≠ [] := by
  induction count generalizing roundRobin state with
  | zero => cases hcount
  | succ count ih =>
    have hfinds : (selectOneCandidate profile state roundRobin
        candidates).isSome = true ↔ filterCandidates state candidates ≠ [] :=
      selectOneCandidate_isSome_iff
    rw [planTargets, ← hfinds]
    cases hselect : selectOneCandidate profile state roundRobin candidates with
    | none => simp
    | some selected =>
      simp only [Option.bind_some, Option.isSome_map, Option.isSome_some,
        iff_true]
      cases count with
      | zero => rfl
      | succ left =>
        have hleft := selectOneCandidate_isSome_iff.mp
          (Option.isSome_iff_exists.mpr ⟨selected, hselect⟩)
        rw [ih (Nat.succ_pos left)]
        exact hleft

theorem isUsable_schedulerCandidate {active : List NodeId} {pool : PoolReplica}
    (hactive : nodeId ∈ active)
    (hopen : (s.poolBreakerState nodeId).state ≠ .opened) :
    (s.schedulerCandidate active nodeId pool).isUsable s.schedulerState = true ↔
      nodeId ∉ s.schedulerState.disabledCandidates := by
  have hcapacity : ¬(s.schedulerCandidate active nodeId pool).workerCapacity ≤
      0 := by
    simp only [schedulerCandidate]
    omega
  simp [SchedulerCandidate.isUsable, hcapacity]
  simp [schedulerCandidate, hactive, hopen]

theorem findsCandidate_iff {times : SubmitTimes} {count : ℕ}
    (hcount : 0 < count) {strategy : String} :
    FindsCandidate s times count strategy ↔
      (s.availablePoolNodeIds times.asked).1 = [] ∨
        ∃ nodeId ∈ (s.availablePoolNodeIds times.asked).1,
          nodeId ∉ s.schedulerState.disabledCandidates := by
  rw [FindsCandidate, ← or_iff_not_imp_left]
  by_cases hnone : (s.availablePoolNodeIds times.asked).1 = []
  · exact iff_of_true (Or.inl hnone) (Or.inl hnone)
  rw [or_iff_right hnone, or_iff_right hnone, planSubmit]
  have hlater := fun nodeId (hmem : nodeId ∈
    (s.availablePoolNodeIds times.asked).1) =>
      available_later times.planned hmem
  have hpools := fun nodeId (hmem : nodeId ∈
    (s.availablePoolNodeIds times.asked).1) =>
      (mem_availablePoolNodeIds.mp hmem).1
  have hsame := s.sameButBreakers_available times.asked
  generalize s.availablePoolNodeIds times.asked = asked at *
  obtain ⟨allowed, after⟩ := asked
  have hsame' := hsame.trans (after.sameButBreakers_available times.planned)
  simp only [planPoolNodeTargets, if_neg (Nat.ne_of_gt hcount),
    buildPoolSchedulerCandidates, if_neg hnone] at *
  generalize after.availablePoolNodeIds times.planned = planned at *
  obtain ⟨active, last⟩ := planned
  simp only at *
  have hcandidates : allowed.filterMap (fun nodeId =>
      (last.pools.lookup nodeId).map (last.schedulerCandidate active nodeId)) ≠
        [] := by
    obtain ⟨nodeId, hmem⟩ := List.exists_mem_of_ne_nil _ hnone
    obtain ⟨pool, hpool⟩ := OrderedDict.mem_iff_lookup.mp (hpools nodeId hmem)
    apply List.ne_nil_of_mem
    rw [List.mem_filterMap]
    exact ⟨nodeId, hmem, by rw [hsame'.pools, hpool, Option.map_some]⟩
  rw [if_neg hcandidates, planTargets_isSome_iff hcount]
  constructor
  · intro hleft
    obtain ⟨candidate, hcandidate⟩ := List.exists_mem_of_ne_nil _ hleft
    obtain ⟨hbuilt, husable⟩ := mem_filterCandidates.mp hcandidate
    obtain ⟨nodeId, hmem, hpool⟩ := List.mem_filterMap.mp hbuilt
    obtain ⟨pool, -, rfl⟩ := Option.map_eq_some_iff.mp hpool
    rw [isUsable_schedulerCandidate (hlater nodeId hmem).1
      (hlater nodeId hmem).2, hsame'.schedulerState] at husable
    exact ⟨nodeId, hmem, husable⟩
  · rintro ⟨nodeId, hmem, henabled⟩
    obtain ⟨pool, hpool⟩ := OrderedDict.mem_iff_lookup.mp (hpools nodeId hmem)
    apply List.ne_nil_of_mem
    rw [mem_filterCandidates, List.mem_filterMap]
    refine ⟨⟨nodeId, hmem, by rw [hsame'.pools, hpool, Option.map_some]⟩, ?_⟩
    rw [isUsable_schedulerCandidate (hlater nodeId hmem).1
      (hlater nodeId hmem).2, hsame'.schedulerState]
    exact henabled

/-! ## What a step does to the disabled nodes -/

def disabled (s : PoolSession) : List NodeId :=
  s.schedulerState.disabledCandidates

theorem SameButBreakers.disabled (hsame : s.SameButBreakers s') :
    s'.disabled = s.disabled :=
  congrArg SchedulerState.disabledCandidates hsame.schedulerState

@[simp] theorem mem_disabled_disable :
    other ∈ (s.disable nodeId).disabled ↔ other = nodeId ∨ other ∈ s.disabled :=
  List.mem_insert_iff

@[simp] theorem mem_disabled_enable :
    other ∈ (s.enable nodeId).disabled ↔ other ∈ s.disabled ∧ other ≠ nodeId := by
  simp [enable, disabled]

@[simp] theorem disabled_setBreaker (s : PoolSession) (nodeId : NodeId)
    (breaker : CandidateBreakerState) :
    (s.setBreaker nodeId breaker).disabled = s.disabled := rfl

@[simp] theorem disabled_countSubmitFailures (s : PoolSession) (nodeId : NodeId)
    (count : ℤ) : (s.countSubmitFailures nodeId count).disabled = s.disabled :=
  rfl

@[simp] theorem disabled_discardActiveReplica (s : PoolSession)
    (nodeId : NodeId) : (s.discardActiveReplica nodeId).disabled = s.disabled :=
  rfl

@[simp] theorem disabled_addActiveReplica (s : PoolSession) (nodeId : NodeId) :
    (s.addActiveReplica nodeId).disabled = s.disabled := rfl

@[simp] theorem disabled_blacklistForMethod (s : PoolSession)
    (nodeId : NodeId) : (s.blacklistForMethod nodeId).disabled = s.disabled :=
  rfl

theorem mem_disabled_markPoolSubmitSuccess :
    other ∈ (s.markPoolSubmitSuccess nodeId).disabled ↔
      other ∈ s.disabled ∧ other ≠ nodeId := by
  simp [markPoolSubmitSuccess]

theorem mem_disabled_markPoolSubmitFailure :
    other ∈ (s.markPoolSubmitFailure nodeId now).disabled ↔
      other = nodeId ∨ other ∈ s.disabled := by
  simp [markPoolSubmitFailure]

theorem disabled_planSubmit (s : PoolSession) (times : SubmitTimes)
    (count : ℕ) (strategy : String) :
    (s.planSubmit times count strategy).2.disabled = s.disabled := by
  have hasked := s.sameButBreakers_available times.asked
  have hfallback := (s.availablePoolNodeIds
    times.asked).2.sameButBreakers_available times.planned
  have hplanned : ∀ t : PoolSession, s.SameButBreakers t →
      (t.availablePoolNodeIds times.planned).2.disabled = s.disabled :=
    fun t hsame =>
      (hsame.trans (t.sameButBreakers_available times.planned)).disabled
  simp only [planSubmit, planPoolNodeTargets, buildPoolSchedulerCandidates]
  split
  · exact hasked.disabled
  split
  · split <;> exact hplanned _ (hasked.trans hfallback)
  · split <;> exact hplanned _ hasked

theorem mem_disabled_markSubmitted {targets : List NodeId} {failedAt : Option ℚ}
    :
    other ∈ (s.markSubmitted targets failedAt).disabled ↔
      match failedAt with
      | some _ => other ∈ targets ∨ other ∈ s.disabled
      | none => other ∈ s.disabled ∧ other ∉ targets := by
  have hfold : ∀ nodeIds : List NodeId,
      other ∈ (nodeIds.foldl (markSubmittedNode failedAt) s).disabled ↔
      match failedAt with
      | some _ => other ∈ nodeIds ∨ other ∈ s.disabled
      | none => other ∈ s.disabled ∧ other ∉ nodeIds := by
    intro nodeIds
    induction nodeIds generalizing s with
    | nil => cases failedAt <;> simp
    | cons nodeId nodeIds ih =>
      rw [List.foldl_cons, ih]
      cases failedAt with
      | some now =>
        simp only [markSubmittedNode, mem_disabled_markPoolSubmitFailure,
          List.mem_cons]
        tauto
      | none =>
        simp only [markSubmittedNode, mem_disabled_markPoolSubmitSuccess,
          List.mem_cons]
        tauto
  rw [markSubmitted, hfold]
  simp only [List.mem_dedup]

end PoolSession

open PoolSession

def PoolEvent.fails (nodeId : NodeId) : PoolEvent → Bool
  | .submitted _ _ _ targets (some _) => targets.contains nodeId
  | .submitFailed other _ | .nodeLost other _ | .dependencyFailed other
  | .methodFailuresReported other | .ownerBlacklisted other => nodeId == other
  | _ => false

def PoolEvent.recovers (nodeId : NodeId) : PoolEvent → Bool
  | .submitted _ _ _ targets none => targets.contains nodeId
  | .submitSucceeded other | .replicaRemoved other => nodeId == other
  | _ => false

/-- The last of the events that is a failure, a loss or a blacklisting of the
node, or a success or a removal of it, is one of the former. -/
def lastFailed (events : List PoolEvent) (nodeId : NodeId) : Bool :=
  events.foldl (fun failed event =>
    if event.recovers nodeId then false
    else if event.fails nodeId then true
    else failed) false

variable {s : PoolSession}

theorem mem_disabled_poolStep {t : PoolSession} {event : PoolEvent}
    (hstep : poolStep s event = some t) (nodeId : NodeId) :
    nodeId ∈ t.disabled ↔ event.recovers nodeId = false ∧
      (event.fails nodeId = true ∨ nodeId ∈ s.disabled) := by
  cases event with
  | looked now =>
    cases hstep
    rw [(s.sameButBreakers_available now).disabled]
    simp [PoolEvent.recovers, PoolEvent.fails]
  | submitted times count strategy targets failedAt =>
    rw [poolStep] at hstep
    simp only at hstep
    split at hstep
    case isFalse => cases hstep
    case isTrue =>
      cases hstep
      rw [mem_disabled_markSubmitted, disabled_planSubmit]
      cases failedAt with
      | some now => simp [PoolEvent.recovers, PoolEvent.fails]
      | none =>
        simp [PoolEvent.recovers, PoolEvent.fails]
        tauto
  | onlyPlanned times count strategy =>
    cases hstep
    rw [disabled_planSubmit]
    simp [PoolEvent.recovers, PoolEvent.fails]
  | submitSucceeded other =>
    cases hstep
    rw [mem_disabled_markPoolSubmitSuccess]
    simp [PoolEvent.recovers, PoolEvent.fails]
    tauto
  | submitFailed other now =>
    cases hstep
    rw [mem_disabled_markPoolSubmitFailure]
    simp [PoolEvent.recovers, PoolEvent.fails]
  | nodeLost other now =>
    cases hstep
    simp [PoolEvent.recovers, PoolEvent.fails, markTaskpoolNodeLost,
      mem_disabled_markPoolSubmitFailure]
  | dependencyFailed other =>
    cases hstep
    simp [PoolEvent.recovers, PoolEvent.fails, markTaskMethodNodeBlacklisted,
      markOwnerNodeInstanceBlacklisted]
  | methodFailuresReported other =>
    cases hstep
    simp [PoolEvent.recovers, PoolEvent.fails, onReplicaMethodFailuresReported,
      markOwnerNodeInstanceBlacklisted]
  | ownerBlacklisted other =>
    cases hstep
    simp [PoolEvent.recovers, PoolEvent.fails, markOwnerNodeInstanceBlacklisted]
  | replicaRemoved other =>
    cases hstep
    rw [removeOwnerReplica, disabled_discardActiveReplica, mem_disabled_enable,
      and_comm]
    show nodeId ≠ other ∧ nodeId ∈ s.disabled ↔ _
    simp [PoolEvent.recovers, PoolEvent.fails]
  | replicaAdded other pool node | keepaliveStarted | inflightChanged inflight =>
    cases hstep
    show nodeId ∈ s.disabled ↔ _
    simp [PoolEvent.recovers, PoolEvent.fails]
  | replicaActivated other | replicaDeactivated other =>
    cases hstep
    simp [PoolEvent.recovers, PoolEvent.fails]

theorem mem_disabled_runLabels {t : PoolSession} {events : List PoolEvent}
    (hrun : runLabels poolStep s events = some t) (nodeId : NodeId) :
    nodeId ∈ t.disabled ↔ events.foldl (fun failed event =>
      if event.recovers nodeId then false
      else if event.fails nodeId then true
      else failed) (decide (nodeId ∈ s.disabled)) = true := by
  induction events generalizing s with
  | nil =>
    cases hrun
    simp
  | cons event events ih =>
    rw [runLabels] at hrun
    cases hstep : poolStep s event with
    | none =>
      rw [hstep] at hrun
      cases hrun
    | some mid =>
      rw [hstep] at hrun
      have hmid := mem_disabled_poolStep hstep nodeId
      rw [ih hrun, List.foldl_cons]
      have hfirst : decide (nodeId ∈ mid.disabled) =
          if event.recovers nodeId then false
          else if event.fails nodeId then true
          else decide (nodeId ∈ s.disabled) := by
        cases hrecovers : event.recovers nodeId with
        | true => simp [hmid, hrecovers]
        | false =>
          cases hfails : event.fails nodeId with
          | true | false => simp [hmid, hrecovers, hfails]
      rw [hfirst]

theorem mem_disabled_iff_lastFailed {pools : OrderedDict NodeId PoolReplica}
    {nodes : OrderedDict NodeId PoolNode} {events : List PoolEvent}
    (hrun : runLabels poolStep (opened pools nodes) events = some s)
    (nodeId : NodeId) :
    nodeId ∈ s.disabled ↔ lastFailed events nodeId = true := by
  rw [mem_disabled_runLabels hrun]
  rfl

theorem submissions_find_candidate_iff (pools : OrderedDict NodeId PoolReplica)
    (nodes : OrderedDict NodeId PoolNode) {s : PoolSession}
    {events : List PoolEvent}
    (hrun : runLabels poolStep (opened pools nodes) events = some s)
    (times : SubmitTimes) {count : ℕ} (hcount : 0 < count) (strategy : String) :
    FindsCandidate s times count strategy ↔
      (s.availablePoolNodeIds times.asked).1 = [] ∨
        ∃ nodeId ∈ (s.availablePoolNodeIds times.asked).1,
          lastFailed events nodeId = false := by
  have hdisabled : ∀ nodeId, nodeId ∉ s.schedulerState.disabledCandidates ↔
      lastFailed events nodeId = false := by
    intro nodeId
    rw [← Bool.not_eq_true]
    exact not_congr (mem_disabled_iff_lastFailed hrun nodeId)
  rw [findsCandidate_iff hcount]
  simp only [hdisabled]

def onePool : OrderedDict NodeId PoolReplica :=
  OrderedDict.set ∅ "a" ⟨2⟩

def oneNode : OrderedDict NodeId PoolNode :=
  OrderedDict.set ∅ "a" ⟨0, 2, 2⟩

def failedOnceThenAccepted : List PoolEvent :=
  [.submitFailed "a" 0, .submitSucceeded "a"]

theorem submissions_find_candidate_acceptedAgain :
    ∃ s, runLabels poolStep (opened onePool oneNode) failedOnceThenAccepted =
        some s ∧ FindsCandidate s ⟨5, 5, le_refl 5⟩ 3 "taskpool_default" := by
  have hrun : runLabels poolStep (opened onePool oneNode)
      failedOnceThenAccepted = some _ := rfl
  refine ⟨_, hrun, (submissions_find_candidate_iff onePool oneNode hrun
    ⟨5, 5, le_refl 5⟩ (by decide) "taskpool_default").mpr
    (Or.inr ⟨"a", ?_, ?_⟩)⟩
  · decide
  · decide

/-- A node that failed once is available, and still no submission finds a
candidate, however long ago that was. -/
theorem failedNode_never_selected :
    ∃ s, runLabels poolStep (opened onePool oneNode)
        [.submitFailed "a" 0] = some s ∧
      (s.availablePoolNodeIds 1000).1 = ["a"] ∧
      ¬FindsCandidate s ⟨1000, 1000, le_refl 1000⟩ 1 "taskpool_default" := by
  refine ⟨_, rfl, ?_, ?_⟩
  · decide
  · rw [findsCandidate_iff (by decide)]
    decide

end PycloudParallel.PoolSubmissions
