import PycloudParallel.ServiceBreakers
import Mathlib.Algebra.Order.Group.Abs
import Mathlib.Data.List.Sort
import Mathlib.Tactic.Linarith
import Mathlib.Tactic.NormNum

/-!
# The scheduler of candidates

`scheduler.py`: candidates that cannot take work are filtered out, the features
of the others are brought onto a common scale, and one of those with the least
score is taken.  The floating point numbers of the source are exact rationals
here.
-/

namespace PycloudParallel.Scheduler

open ServiceCalls (BreakerMode)

structure SchedulerCandidate where
  id : String
  nodeInstanceId : String
  healthy : Bool
  schedulable : Bool
  drain : Bool
  breakerState : BreakerMode
  predictedBusy : ℚ
  nodeInflight : ℤ
  aliveWorkers : ℤ
  workerCapacity : ℤ
  credit : ℤ
  recentFailures : ℤ
deriving DecidableEq

structure SchedulerState where
  localInflightByCandidate : OrderedDict String ℤ
  disabledCandidates : List String
  recentSubmitFailures : OrderedDict String ℤ

def SchedulerState.empty : SchedulerState :=
  ⟨∅, [], ∅⟩

inductive Feature
  | localInflight
  | nodeInflight
  | predictedBusy
  | aliveWorkers
  | workerCapacity
  | credit
  | recentFailures
deriving DecidableEq

inductive TieBreak
  | roundRobin
  | first
deriving DecidableEq

structure StrategyProfile where
  weights : List (Feature × ℚ)
  tieBreak : TieBreak
  failurePenalty : ℚ

def jobqueueDefault : StrategyProfile where
  weights := [(.predictedBusy, 4), (.nodeInflight, 2), (.aliveWorkers, 3 / 2),
    (.workerCapacity, 1), (.credit, 1), (.recentFailures, 3 / 2)]
  tieBreak := .roundRobin
  failurePenalty := 10

def taskpoolDefault : StrategyProfile where
  weights := [(.localInflight, 6), (.predictedBusy, 3), (.nodeInflight, 3 / 2),
    (.aliveWorkers, 1), (.workerCapacity, 3 / 4), (.recentFailures, 2)]
  tieBreak := .roundRobin
  failurePenalty := 10

def taskpoolThroughput : StrategyProfile where
  weights := [(.localInflight, 5), (.aliveWorkers, 2), (.workerCapacity, 3 / 2),
    (.predictedBusy, 2), (.recentFailures, 2)]
  tieBreak := .roundRobin
  failurePenalty := 10

/-- `resolve_taskpool_strategy` of a name that is stripped and in lower case;
the profile of `round_robin` has the weights of the default. -/
def resolveTaskpoolStrategy (strategy : String) : StrategyProfile :=
  if strategy = "taskpool_throughput" ∨ strategy = "throughput" then
    taskpoolThroughput
  else taskpoolDefault

variable (profile : StrategyProfile) (state : SchedulerState)

def SchedulerCandidate.isUsable (candidate : SchedulerCandidate) : Bool :=
  !state.disabledCandidates.contains candidate.id && candidate.healthy &&
    candidate.schedulable && !candidate.drain &&
    decide (candidate.breakerState ≠ .opened) &&
    !(decide (candidate.workerCapacity ≤ 0) &&
      decide (candidate.aliveWorkers ≤ 0))

def filterCandidates (candidates : List SchedulerCandidate) :
    List SchedulerCandidate :=
  candidates.filter (SchedulerCandidate.isUsable state)

def rawFeatureValue (feature : Feature) (candidate : SchedulerCandidate) : ℚ :=
  match feature with
  | .localInflight =>
    (state.localInflightByCandidate.lookup candidate.id).getD 0
  | .nodeInflight => candidate.nodeInflight
  | .predictedBusy => candidate.predictedBusy
  | .aliveWorkers => candidate.aliveWorkers
  | .workerCapacity => candidate.workerCapacity
  | .credit => candidate.credit
  | .recentFailures =>
    (state.recentSubmitFailures.lookup candidate.id).getD
      candidate.recentFailures

def higherIsBetter (feature : Feature) : Bool :=
  feature ∈ [Feature.aliveWorkers, .workerCapacity, .credit]

def normalizeFeatureValues (candidates : List SchedulerCandidate)
    (feature : Feature) : OrderedDict String ℚ :=
  let rawValues := candidates.foldl (fun values candidate =>
    OrderedDict.set values candidate.id
      (rawFeatureValue state feature candidate)) ∅
  let minimum := (OrderedDict.values rawValues).min?.getD 0
  let maximum := (OrderedDict.values rawValues).max?.getD 0
  OrderedDict.mapValues (fun _ value =>
    if maximum ≤ minimum then 0
    else
      let ratio := (value - minimum) / (maximum - minimum)
      if higherIsBetter feature then 1 - ratio else ratio) rawValues

def scoreCandidate (candidates : List SchedulerCandidate)
    (candidate : SchedulerCandidate) : ℚ :=
  let weighted := profile.weights.map fun entry =>
    entry.2 * ((normalizeFeatureValues state candidates entry.1).lookup
      candidate.id).getD 0
  weighted.sum + profile.failurePenalty *
    max 0 (rawFeatureValue state .recentFailures candidate)

/-! ## The choice -/

def scoreTolerance : ℚ := 1 / 1000000000

def SchedulerCandidate.sortsBefore (first second : SchedulerCandidate) : Bool :=
  let key := fun candidate : SchedulerCandidate =>
    if candidate.nodeInstanceId = "" then candidate.id
    else candidate.nodeInstanceId
  decide (key first < key second ∨
    key first = key second ∧ first.id ≤ second.id)

def bestCandidates (candidates : List SchedulerCandidate) :
    List SchedulerCandidate :=
  let scores := candidates.map (scoreCandidate profile state candidates)
  match scores.min? with
  | none => []
  | some bestScore => candidates.filter fun candidate =>
    decide (|scoreCandidate profile state candidates candidate - bestScore| ≤
      scoreTolerance)

/-- `select_one_candidate`; it raises when no candidate is left. -/
def selectOneCandidate (roundRobinCounter : ℕ)
    (candidates : List SchedulerCandidate) : Option SchedulerCandidate :=
  let best := bestCandidates profile state (filterCandidates state candidates)
  let ordered := best.insertionSort fun first second =>
    first.sortsBefore second = true
  match profile.tieBreak with
  | .roundRobin => ordered[roundRobinCounter % ordered.length]?
  | .first => ordered.head?

variable {profile state}

variable {candidate : SchedulerCandidate} {candidates : List SchedulerCandidate}

theorem mem_filterCandidates :
    candidate ∈ filterCandidates state candidates ↔
      candidate ∈ candidates ∧ candidate.isUsable state = true :=
  List.mem_filter

theorem bestCandidates_sublist :
    (bestCandidates profile state candidates).Sublist candidates := by
  rw [bestCandidates]
  split
  · exact List.nil_sublist _
  · exact List.filter_sublist

theorem bestCandidates_subset :
    bestCandidates profile state candidates ⊆ candidates :=
  bestCandidates_sublist.subset

theorem bestCandidates_ne_nil (hcandidates : candidates ≠ []) :
    bestCandidates profile state candidates ≠ [] := by
  have hscores : candidates.map (scoreCandidate profile state candidates) ≠ [] := by
    simpa using hcandidates
  rw [bestCandidates]
  split
  case h_1 hnone => exact absurd (List.min?_eq_none_iff.mp hnone) hscores
  case h_2 bestScore hsome =>
    obtain ⟨candidate, hmem, hscore⟩ :=
      List.mem_map.mp (List.min?_mem hsome)
    apply List.ne_nil_of_mem (a := candidate)
    rw [List.mem_filter, hscore, sub_self, abs_zero, decide_eq_true_eq]
    exact ⟨hmem, by rw [scoreTolerance]; norm_num⟩

theorem score_le_of_mem_bestCandidates {other : SchedulerCandidate}
    (hbest : candidate ∈ bestCandidates profile state candidates)
    (hother : other ∈ candidates) :
    scoreCandidate profile state candidates candidate ≤
      scoreCandidate profile state candidates other + scoreTolerance := by
  rw [bestCandidates] at hbest
  split at hbest
  case h_1 => cases hbest
  case h_2 bestScore hsome =>
    have hnear := of_decide_eq_true (List.mem_filter.mp hbest).2
    have hleast := (List.min?_eq_some_iff.mp hsome).2 _
      (List.mem_map_of_mem hother)
    have hupper := (abs_le.mp hnear).2
    linarith

theorem selectOneCandidate_mem {roundRobinCounter : ℕ}
    (hselect : selectOneCandidate profile state roundRobinCounter candidates =
      some candidate) :
    candidate ∈ bestCandidates profile state
      (filterCandidates state candidates) := by
  rw [selectOneCandidate] at hselect
  rw [← (List.perm_insertionSort (fun first second =>
    SchedulerCandidate.sortsBefore first second = true) _).mem_iff]
  split at hselect
  · exact List.mem_of_getElem? hselect
  · exact List.mem_of_head? hselect

theorem selectOneCandidate_isSome_iff {roundRobinCounter : ℕ} :
    (selectOneCandidate profile state roundRobinCounter candidates).isSome =
      true ↔ filterCandidates state candidates ≠ [] := by
  constructor
  · intro hsome hnil
    obtain ⟨candidate, hselect⟩ := Option.isSome_iff_exists.mp hsome
    have hbest := bestCandidates_subset (selectOneCandidate_mem hselect)
    rw [hnil] at hbest
    cases hbest
  · intro hleft
    have hbest : bestCandidates profile state
        (filterCandidates state candidates) ≠ [] := bestCandidates_ne_nil hleft
    rw [selectOneCandidate]
    generalize bestCandidates profile state (filterCandidates state candidates) =
      best at hbest
    have hlength : 0 < (best.insertionSort fun first second =>
        SchedulerCandidate.sortsBefore first second = true).length := by
      rw [List.length_insertionSort]
      exact List.length_pos_iff.mpr hbest
    cases profile.tieBreak with
    | roundRobin =>
      simp only [List.getElem?_eq_getElem (Nat.mod_lt roundRobinCounter hlength),
        Option.isSome_some]
    | first =>
      exact List.isSome_head?.mpr (List.ne_nil_of_length_pos hlength)

end PycloudParallel.Scheduler
