import PycloudParallel.FoundationPicks
import PycloudParallel.TaskNodesModel

/-!
# The selection loop of a task pool

Each round of the loop takes a node out of its group whose score among those
that remain is best up to the scheduler's tolerance.
-/

namespace PycloudParallel.TaskNodes

open Texts Scheduler

def score (remaining : List InfoCenterNode) (node : InfoCenterNode) : ℚ :=
  scoreCandidate jobqueueDefault .empty
    (remaining.map InfoCenterNode.schedulerCandidate) node.schedulerCandidate

/-- No node that remains has a score better than this one's by more than the
tolerance. -/
def NearBest (remaining : List InfoCenterNode) (node : InfoCenterNode) : Prop :=
  ∀ other ∈ remaining,
    score remaining node ≤ score remaining other + scoreTolerance

variable {node : InfoCenterNode} {requireCredit : Bool}
  {pool : List InfoCenterNode}

theorem InfoCenterNode.isAdmitted_iff :
    node.isAdmitted true requireCredit = true ↔
      node.healthy = true ∧ node.schedulable = true ∧ node.drain = false ∧
        node.acceptServiceDeploy = true ∧ strip node.controlAddr ≠ "" ∧
        (requireCredit = true → 0 < node.credit) := by
  rw [isAdmitted, admissionBlockReason, deployCandidateBlockReason,
    decide_eq_true_eq]
  cases node.healthy <;> cases node.schedulable <;> cases node.drain <;>
    cases node.acceptServiceDeploy <;> simp
  by_cases haddr : strip node.controlAddr = "" <;>
    cases requireCredit <;> simp [haddr]

theorem InfoCenterNode.isUsable_of_isAdmitted
    (hadmitted : node.isAdmitted true requireCredit = true) :
    node.schedulerCandidate.isUsable .empty = true := by
  obtain ⟨hhealthy, -, hdrain, -⟩ := isAdmitted_iff.mp hadmitted
  have hcapacity : ¬node.schedulerCandidate.workerCapacity ≤ 0 := by
    simp only [schedulerCandidate]
    omega
  simp only [SchedulerCandidate.isUsable, hcapacity]
  simp [schedulerCandidate, SchedulerState.empty, hhealthy, hdrain]

theorem filterCandidates_admitted
    (hadmitted : ∀ node ∈ pool, node.isAdmitted true requireCredit = true) :
    filterCandidates .empty (pool.map InfoCenterNode.schedulerCandidate) =
      pool.map InfoCenterNode.schedulerCandidate := by
  rw [filterCandidates, List.filter_eq_self]
  intro candidate hmem
  obtain ⟨node, hnode, rfl⟩ := List.mem_map.mp hmem
  exact InfoCenterNode.isUsable_of_isAdmitted (hadmitted node hnode)

theorem find?_instanceKey
    (hdistinct : (pool.map InfoCenterNode.instanceKey).Nodup)
    (hmem : node ∈ pool) :
    pool.find? (fun other => other.instanceKey == node.instanceKey) =
      some node := by
  induction pool with
  | nil => cases hmem
  | cons first rest ih =>
    simp only [List.map_cons, List.nodup_cons] at hdistinct
    rw [List.find?_cons]
    obtain rfl | hrest := List.mem_cons.mp hmem
    · simp
    · have hother : first.instanceKey ≠ node.instanceKey := by
        intro hsame
        exact hdistinct.1 (hsame ▸ List.mem_map_of_mem hrest)
      rw [beq_false_of_ne hother]
      exact ih hdistinct.2 hrest

theorem eraseP_instanceKey
    (hdistinct : (pool.map InfoCenterNode.instanceKey).Nodup)
    (hmem : node ∈ pool) :
    pool.eraseP (fun other => other.instanceKey == node.instanceKey) =
      pool.erase node := by
  induction pool with
  | nil => cases hmem
  | cons first rest ih =>
    simp only [List.map_cons, List.nodup_cons] at hdistinct
    by_cases hsame : first = node
    · subst hsame
      simp
    · have hrest := (List.mem_cons.mp hmem).resolve_left (Ne.symm hsame)
      have hother : first.instanceKey ≠ node.instanceKey := by
        intro hkey
        exact hdistinct.1 (hkey ▸ List.mem_map_of_mem hrest)
      rw [List.eraseP_cons_of_neg (by simpa using hother),
        List.erase_cons_tail (by simpa using hsame), ih hdistinct.2 hrest]

theorem selectOneCandidate_pool
    (hadmitted : ∀ node ∈ pool, node.isAdmitted true requireCredit = true)
    (hpool : pool ≠ []) (rrCounter : ℕ) :
    ∃ node ∈ pool, NearBest pool node ∧
      selectOneCandidate jobqueueDefault .empty rrCounter
        (pool.map InfoCenterNode.schedulerCandidate) =
          some node.schedulerCandidate := by
  have hfilter := filterCandidates_admitted hadmitted
  have hsome : (selectOneCandidate jobqueueDefault .empty rrCounter
      (pool.map InfoCenterNode.schedulerCandidate)).isSome = true := by
    rw [selectOneCandidate_isSome_iff, hfilter]
    simpa using hpool
  obtain ⟨candidate, hselect⟩ := Option.isSome_iff_exists.mp hsome
  have hbest := selectOneCandidate_mem hselect
  rw [hfilter] at hbest
  obtain ⟨node, hnode, rfl⟩ := List.mem_map.mp (bestCandidates_subset hbest)
  refine ⟨node, hnode, ?_, hselect⟩
  intro other hother
  exact score_le_of_mem_bestCandidates hbest (List.mem_map_of_mem hother)

theorem selectFromGroup_spec (requestedCount : ℤ) {rounds : ℕ}
    (pool selected : List InfoCenterNode) (rrCounter : ℕ)
    (hrounds : pool.length ≤ rounds)
    (hdistinct : (pool.map InfoCenterNode.instanceKey).Nodup)
    (hadmitted : ∀ node ∈ pool, node.isAdmitted true requireCredit = true) :
    ∃ chosen left rrCounter', selectFromGroup requestedCount rounds pool
        selected rrCounter = some (selected ++ chosen, rrCounter') ∧
      Picks NearBest pool chosen left ∧
      (left = [] ∨ 0 < requestedCount ∧
        requestedCount ≤ (selected ++ chosen).length) ∧
      (0 < requestedCount → selected.length ≤ requestedCount →
        (selected ++ chosen).length ≤ requestedCount) := by
  induction rounds generalizing pool selected rrCounter with
  | zero =>
    have hpool := List.eq_nil_of_length_eq_zero (Nat.le_zero.mp hrounds)
    refine ⟨[], pool, rrCounter, ?_, .done pool, Or.inl hpool, ?_⟩
    · simp [selectFromGroup]
    · simp
  | succ rounds ih =>
    rw [selectFromGroup]
    by_cases hstop : pool = [] ∨
        ¬(requestedCount ≤ 0 ∨ (selected.length : ℤ) < requestedCount)
    · rw [if_pos hstop]
      refine ⟨[], pool, rrCounter, by simp, .done pool, ?_, by simp⟩
      refine hstop.imp id fun hfull => ?_
      rw [List.append_nil]
      omega
    · rw [if_neg hstop]
      obtain ⟨hpool, hmore⟩ := not_or.mp hstop
      obtain ⟨node, hnode, hbest, hselect⟩ :=
        selectOneCandidate_pool hadmitted hpool rrCounter
      have hfind : pool.find? (fun other : InfoCenterNode =>
          other.instanceKey == node.schedulerCandidate.id) = some node :=
        find?_instanceKey hdistinct hnode
      have herase : pool.eraseP (fun other : InfoCenterNode =>
          other.instanceKey == node.schedulerCandidate.id) = pool.erase node :=
        eraseP_instanceKey hdistinct hnode
      simp only [hselect, hfind, herase]
      have hsublist := List.erase_sublist (a := node) (l := pool)
      have hlength := List.length_erase_of_mem hnode
      obtain ⟨chosen, left, rrCounter', hrest, hpicks, hleft, hcount⟩ :=
        ih (pool.erase node) (selected ++ [node]) (rrCounter + 1)
          (by omega) (hdistinct.sublist (hsublist.map _))
          (fun other hother => hadmitted other (hsublist.subset hother))
      rw [List.append_assoc, List.singleton_append] at hrest hleft hcount
      refine ⟨node :: chosen, left, rrCounter', hrest,
        .pick hbest (List.perm_cons_erase hnode) hpicks, hleft, ?_⟩
      intro hpositive _
      apply hcount hpositive
      rw [List.length_append, List.length_singleton]
      omega

end PycloudParallel.TaskNodes
