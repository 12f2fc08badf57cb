import PycloudParallel.SchedulerModel
import Mathlib.Algebra.Order.BigOperators.Group.List
import Mathlib.Data.List.Rotate

/-!
# Dominance among the candidates

No weighted feature ranks a dominating candidate below the other one, so it
scores no worse; and counters one after the other go through the best candidates
in turn.
-/

namespace PycloudParallel.Scheduler

def serviceDefault : StrategyProfile where
  weights := [(.predictedBusy, 5), (.nodeInflight, 2), (.aliveWorkers, 3 / 2),
    (.workerCapacity, 1 / 2), (.recentFailures, 3 / 2)]
  tieBreak := .roundRobin
  failurePenalty := 10

def serviceLatencyFirst : StrategyProfile where
  weights := [(.predictedBusy, 6), (.nodeInflight, 5 / 2), (.aliveWorkers, 1),
    (.recentFailures, 3 / 2)]
  tieBreak := .roundRobin
  failurePenalty := 10

def builtinProfiles : List StrategyProfile :=
  [serviceDefault, serviceLatencyFirst, taskpoolDefault, taskpoolThroughput,
    jobqueueDefault]

variable (profile : StrategyProfile) (state : SchedulerState)

def AtLeastAsGood (feature : Feature) (first second : SchedulerCandidate) : Prop :=
  if higherIsBetter feature then
    rawFeatureValue state feature second ≤ rawFeatureValue state feature first
  else rawFeatureValue state feature first ≤ rawFeatureValue state feature second

structure Dominates (first second : SchedulerCandidate) : Prop where
  features : ∀ entry ∈ profile.weights, AtLeastAsGood state entry.1 first second
  failures : rawFeatureValue state .recentFailures first ≤
    rawFeatureValue state .recentFailures second

variable {profile state} {candidates : List SchedulerCandidate}
  {first second : SchedulerCandidate}

theorem builtin_rules (hprofile : profile ∈ builtinProfiles) :
    (∀ entry ∈ profile.weights, 0 ≤ entry.2) ∧ 0 ≤ profile.failurePenalty ∧
      profile.tieBreak = .roundRobin := by
  simp only [builtinProfiles, List.mem_cons, List.not_mem_nil, or_false] at hprofile
  rcases hprofile with rfl | rfl | rfl | rfl | rfl <;>
    norm_num [serviceDefault, serviceLatencyFirst, taskpoolDefault,
      taskpoolThroughput, jobqueueDefault]

/-- All candidates of one list are measured on one scale. -/
theorem normalize_scale (hids : (candidates.map (·.id)).Nodup) (feature : Feature) :
    ∃ scale : ℚ → ℚ,
      (if higherIsBetter feature then Antitone scale else Monotone scale) ∧
      ∀ candidate ∈ candidates,
        (normalizeFeatureValues state candidates feature).lookup candidate.id =
          some (scale (rawFeatureValue state feature candidate)) := by
  have hitems := OrderedDict.items_foldl_set (candidates.map fun candidate =>
    (candidate.id, rawFeatureValue state feature candidate)) ∅
    (by simpa [Function.comp_def] using hids) (fun row _ => AList.notMem_empty _)
  rw [List.foldl_map] at hitems
  simp only [normalizeFeatureValues, OrderedDict.lookup_mapValues]
  generalize List.foldl _ _ candidates = raw at hitems ⊢
  generalize (OrderedDict.values raw).min?.getD 0 = minimum
  generalize (OrderedDict.values raw).max?.getD 0 = maximum
  refine ⟨fun value => if maximum ≤ minimum then 0
    else if higherIsBetter feature then 1 - (value - minimum) / (maximum - minimum)
    else (value - minimum) / (maximum - minimum), ?_, fun candidate hmem => ?_⟩
  · have hratio (hwide : ¬maximum ≤ minimum) :
        Monotone fun value => (value - minimum) / (maximum - minimum) :=
      fun first second hle => div_le_div_of_nonneg_right
        (sub_le_sub_right hle _) (by linarith)
    split_ifs with hhigher hflat hflat
    · exact antitone_const
    · exact fun first second hle => sub_le_sub_left (hratio hflat hle) 1
    · exact monotone_const
    · exact hratio hflat
  · rw [OrderedDict.mem_items.mp (hitems ▸ List.mem_append_right _
      (List.mem_map_of_mem hmem))]
    rfl

theorem normalized_le (hids : (candidates.map (·.id)).Nodup)
    (hfirst : first ∈ candidates) (hsecond : second ∈ candidates)
    {feature : Feature} (hgood : AtLeastAsGood state feature first second) :
    ((normalizeFeatureValues state candidates feature).lookup first.id).getD 0 ≤
      ((normalizeFeatureValues state candidates feature).lookup
        second.id).getD 0 := by
  obtain ⟨scale, hscale, hlookup⟩ : ∃ scale : ℚ → ℚ, _ ∧ ∀ candidate ∈ candidates,
      (normalizeFeatureValues state candidates feature).lookup candidate.id = _ :=
    normalize_scale hids feature
  rw [hlookup first hfirst, hlookup second hsecond]
  unfold AtLeastAsGood at hgood
  split at hgood
  · next hhigher =>
    rw [if_pos hhigher] at hscale
    exact hscale hgood
  · next hlower =>
    rw [if_neg hlower] at hscale
    exact hscale hgood

theorem scoreCandidate_le (hprofile : profile ∈ builtinProfiles)
    (hids : (candidates.map (·.id)).Nodup)
    (hfirst : first ∈ candidates) (hsecond : second ∈ candidates)
    (hdominates : Dominates profile state first second) :
    scoreCandidate profile state candidates first ≤
      scoreCandidate profile state candidates second := by
  obtain ⟨hweights, hpenalty, -⟩ := builtin_rules hprofile
  apply add_le_add
  · apply List.sum_le_sum
    intro entry hentry
    exact mul_le_mul_of_nonneg_left
      (normalized_le hids hfirst hsecond (hdominates.features entry hentry))
      (hweights entry hentry)
  · exact mul_le_mul_of_nonneg_left (max_le_max_left 0 hdominates.failures)
      hpenalty

/-- The choices of as many counters, one after the other, as there are best
candidates. -/
def selections (profile : StrategyProfile) (state : SchedulerState) (counter : ℕ)
    (candidates : List SchedulerCandidate) : List (Option SchedulerCandidate) :=
  (List.range (bestCandidates profile state
    (filterCandidates state candidates)).length).map fun turn =>
      selectOneCandidate profile state (counter + turn) candidates

theorem selections_perm (hround : profile.tieBreak = .roundRobin) (counter : ℕ) :
    (selections profile state counter candidates).Perm
      ((bestCandidates profile state (filterCandidates state candidates)).map
        some) := by
  unfold selections selectOneCandidate
  simp only [hround]
  generalize bestCandidates profile state (filterCandidates state candidates) = best
  have hperm := List.perm_insertionSort (fun first second =>
    SchedulerCandidate.sortsBefore first second = true) best
  generalize best.insertionSort (fun first second =>
    SchedulerCandidate.sortsBefore first second = true) = ordered at hperm ⊢
  have hturns : (List.range best.length).map (fun turn =>
      ordered[(counter + turn) % ordered.length]?) =
      (ordered.rotate counter).map some := by
    apply List.ext_getElem
    · simp [hperm.length_eq]
    · intro turn hleft hright
      rw [List.length_map, List.length_range, ← hperm.length_eq] at hleft
      have hpos := Nat.zero_lt_of_lt hleft
      simp [List.getElem_rotate, Nat.add_comm, Nat.mod_lt _ hpos]
  rw [hturns]
  exact ((List.rotate_perm ordered counter).trans hperm).map some

/-- A choice is made as long as a candidate is left, and it is one of those left.
A candidate that dominates another scores no worse, and counters one after the
other take each of the best candidates once. -/
theorem choice_respects_dominance (hprofile : profile ∈ builtinProfiles)
    (hids : (candidates.map (·.id)).Nodup)
    (hleft : filterCandidates state candidates ≠ []) :
    (∀ counter, ∃ candidate ∈ filterCandidates state candidates,
      selectOneCandidate profile state counter candidates = some candidate) ∧
    (∀ first ∈ filterCandidates state candidates,
      ∀ second ∈ filterCandidates state candidates,
        Dominates profile state first second →
          scoreCandidate profile state (filterCandidates state candidates) first ≤
            scoreCandidate profile state (filterCandidates state candidates)
              second) ∧
    ∀ counter, (selections profile state counter candidates).Nodup ∧
      (selections profile state counter candidates).Perm
        ((bestCandidates profile state (filterCandidates state candidates)).map
          some) := by
  have hnodup : ((filterCandidates state candidates).map (·.id)).Nodup :=
    hids.sublist (List.filter_sublist.map _)
  refine ⟨fun counter => ?_, fun first hfirst second hsecond =>
    scoreCandidate_le hprofile hnodup hfirst hsecond, fun counter => ?_⟩
  · obtain ⟨candidate, hselect⟩ := Option.isSome_iff_exists.mp
      (selectOneCandidate_isSome_iff.mpr hleft)
    exact ⟨candidate, bestCandidates_subset (selectOneCandidate_mem hselect), hselect⟩
  · have hperm : (selections profile state counter candidates).Perm _ :=
      selections_perm (builtin_rules hprofile).2.2 counter
    have hbest : (bestCandidates profile state _).Nodup :=
      hnodup.of_map.sublist bestCandidates_sublist
    exact ⟨hperm.nodup_iff.mpr (hbest.map (Option.some_injective _)), hperm⟩

def idleCandidate (id : String) : SchedulerCandidate :=
  ⟨id, "", true, true, false, .closed, 0, 0, 1, 1, 0, 0⟩

theorem choice_respects_dominance_pair :
    (selections serviceDefault .empty 1
      [idleCandidate "a", idleCandidate "b"]).Nodup :=
  ((choice_respects_dominance (by simp [builtinProfiles]) (by simp [idleCandidate])
    (by simp [filterCandidates, SchedulerCandidate.isUsable, idleCandidate,
      SchedulerState.empty])).2.2 1).1

end PycloudParallel.Scheduler
