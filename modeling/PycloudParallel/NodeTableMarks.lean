import PycloudParallel.NodeTableRejections

/-!
# What queries leave behind

A query marks the late nodes that it visits: not healthy, not schedulable, and
with a reason.  While a node stays late the last query marks it again, so the
earlier marks do not show; they show when an operation reads or keeps them.
Two tables are alike at a time when marking every late node makes them equal.
-/

namespace PycloudParallel.NodeTable

open Texts OrderedDict

variable {ε μ ρ : Type} {platform : Platform ε μ}

/-! ## Marked nodes -/

namespace NodeState

variable {leaseTtlSec now : ℤ} {state : NodeState ε μ ρ}

def timeoutReason : String := "node heartbeat timeout"

theorem fenceIfStale_of_stale (hstale : state.isStale leaseTtlSec now) :
    state.fenceIfStale leaseTtlSec now = { state with
      healthy := false
      schedulable := false
      reason := orElse state.reason timeoutReason } := if_pos hstale

theorem fenceIfStale_of_fresh (hfresh : ¬state.isStale leaseTtlSec now) :
    state.fenceIfStale leaseTtlSec now = state := if_neg hfresh

theorem lastSeenAt_fenceIfStale :
    (state.fenceIfStale leaseTtlSec now).lastSeenAt = state.lastSeenAt := by
  unfold fenceIfStale
  split <;> rfl

theorem isStale_mono {later : ℤ} (hle : now ≤ later)
    (hstale : state.isStale leaseTtlSec now) :
    state.isStale leaseTtlSec later := by
  unfold isStale at hstale ⊢
  omega

theorem fenceIfStale_fenceIfStale {later : ℤ} (hle : now ≤ later) :
    (state.fenceIfStale leaseTtlSec now).fenceIfStale leaseTtlSec later =
      state.fenceIfStale leaseTtlSec later := by
  by_cases hstale : state.isStale leaseTtlSec now
  · rw [fenceIfStale_of_stale hstale,
      fenceIfStale_of_stale (isStale_mono hle hstale), fenceIfStale_of_stale]
    · simp only [NodeState.mk.injEq, true_and, and_true]
      unfold orElse
      split <;> rfl
    · exact isStale_mono hle hstale
  · rw [fenceIfStale_of_fresh hstale]

def unmarked (state : NodeState ε μ ρ) : NodeState ε μ ρ :=
  { state with
    healthy := false
    schedulable := false
    reason := "" }

theorem eq_of_unmarked {real clean : NodeState ε μ ρ}
    (hrest : real.unmarked = clean.unmarked)
    (hhealthy : real.healthy = clean.healthy)
    (hschedulable : real.schedulable = clean.schedulable)
    (hreason : real.reason = clean.reason) : real = clean := by
  obtain ⟨⟩ := real
  obtain ⟨⟩ := clean
  simp only [unmarked, NodeState.mk.injEq] at *
  tauto

theorem unmarked_fenceIfStale :
    (state.fenceIfStale leaseTtlSec now).unmarked = state.unmarked := by
  unfold fenceIfStale
  split <;> rfl

theorem unmarked_eq_of_alike {real clean : NodeState ε μ ρ}
    (halike : real.fenceIfStale leaseTtlSec now =
      clean.fenceIfStale leaseTtlSec now) : real.unmarked = clean.unmarked := by
  have hboth := congrArg unmarked halike
  rwa [unmarked_fenceIfStale, unmarked_fenceIfStale] at hboth

theorem fenceIfStale_congr {real clean : NodeState ε μ ρ}
    (hstale : real.isStale leaseTtlSec now)
    (hrest : real.unmarked = clean.unmarked)
    (hreason : orElse real.reason timeoutReason =
      orElse clean.reason timeoutReason) :
    real.fenceIfStale leaseTtlSec now = clean.fenceIfStale leaseTtlSec now := by
  have hseen : real.lastSeenAt = clean.lastSeenAt := by
    have hboth := congrArg NodeState.lastSeenAt hrest
    exact hboth
  have hother : clean.isStale leaseTtlSec now := by
    rwa [isStale, ← hseen]
  rw [fenceIfStale_of_stale hstale, fenceIfStale_of_stale hother]
  exact eq_of_unmarked hrest rfl rfl hreason

theorem eq_or_unmarked {real clean : NodeState ε μ ρ}
    (halike : real.fenceIfStale leaseTtlSec now =
      clean.fenceIfStale leaseTtlSec now) :
    real = clean ∨ real.isStale leaseTtlSec now ∧
      real.unmarked = clean.unmarked ∧
      orElse real.reason timeoutReason = orElse clean.reason timeoutReason := by
  have hseen : real.lastSeenAt = clean.lastSeenAt := by
    have hboth := congrArg NodeState.lastSeenAt halike
    rwa [lastSeenAt_fenceIfStale, lastSeenAt_fenceIfStale] at hboth
  by_cases hstale : real.isStale leaseTtlSec now
  · have hother : clean.isStale leaseTtlSec now := by
      rwa [isStale, ← hseen]
    have hrest : real.unmarked = clean.unmarked := unmarked_eq_of_alike halike
    rw [fenceIfStale_of_stale hstale, fenceIfStale_of_stale hother] at halike
    have hreason := congrArg NodeState.reason halike
    exact Or.inr ⟨hstale, hrest, hreason⟩
  · have hother : ¬clean.isStale leaseTtlSec now := by
      rwa [isStale, ← hseen]
    rw [fenceIfStale_of_fresh hstale, fenceIfStale_of_fresh hother] at halike
    exact Or.inl halike

theorem isHealthy_fenceIfStale :
    (state.fenceIfStale leaseTtlSec now).isHealthy leaseTtlSec now =
      state.isHealthy leaseTtlSec now := by
  by_cases hstale : state.isStale leaseTtlSec now
  · have hother : (state.fenceIfStale leaseTtlSec now).isStale leaseTtlSec
        now := by
      rwa [isStale, lastSeenAt_fenceIfStale]
    simp [isHealthy, hstale, hother]
  · rw [fenceIfStale_of_fresh hstale]

end NodeState

/-! ## Alike tables -/

namespace InfoCenterState

variable (table : InfoCenterState ε μ ρ) {now later : ℤ}

def marked (now : ℤ) : InfoCenterState ε μ ρ :=
  { table with
    nodes := table.nodes.mapValues fun _ state =>
      state.fenceIfStale table.leaseTtlSec now }

theorem fence_eq_marked {ids : List String}
    (hall : ∀ id state, table.nodes.lookup id = some state → id ∈ ids) :
    table.fence now ids = table.marked now := by
  have hnodes : (table.nodes.mapValues fun id state =>
      if id ∈ ids then state.fenceIfStale table.leaseTtlSec now else state) =
        table.nodes.mapValues fun _ state =>
          state.fenceIfStale table.leaseTtlSec now :=
    mapValues_congr fun id state hstate =>
      if_pos (hall id state hstate)
  rw [fence, marked, hnodes]

theorem fence_keys : table.fence now table.nodes.keys = table.marked now := by
  apply table.fence_eq_marked
  intro id state hstate
  exact AList.mem_keys.mp (mem_iff_lookup.mpr ⟨state, hstate⟩)

theorem marked_marked (hle : now ≤ later) :
    (table.marked now).marked later = table.marked later := by
  simp only [marked, mapValues_mapValues,
    NodeState.fenceIfStale_fenceIfStale hle]

theorem marked_fence (hle : now ≤ later) (ids : List String) :
    (table.fence now ids).marked later = table.marked later := by
  have hnodes : ((table.fence now ids).nodes.mapValues fun _ state =>
      state.fenceIfStale table.leaseTtlSec later) =
        table.nodes.mapValues fun _ state =>
          state.fenceIfStale table.leaseTtlSec later := by
    rw [fence, mapValues_mapValues]
    apply mapValues_congr
    intro id state _
    split
    · exact NodeState.fenceIfStale_fenceIfStale hle
    · rfl
  exact congrArg (fun nodes => { table with nodes := nodes }) hnodes

def AlikeAt (now : ℤ) (real clean : InfoCenterState ε μ ρ) : Prop :=
  real.marked now = clean.marked now

variable {table} {real clean : InfoCenterState ε μ ρ}

section

variable (halike : AlikeAt now real clean)

include halike

theorem AlikeAt.mono (hle : now ≤ later) : AlikeAt later real clean := by
  rw [AlikeAt, ← marked_marked real hle, ← marked_marked clean hle, halike]

theorem AlikeAt.marked_eq : real.marked now = clean.marked now := halike

theorem AlikeAt.leaseTtlSec : real.leaseTtlSec = clean.leaseTtlSec := by
  have hsame := congrArg InfoCenterState.leaseTtlSec halike.marked_eq
  exact hsame

theorem AlikeAt.servicesByName :
    real.servicesByName = clean.servicesByName := by
  have hsame := congrArg InfoCenterState.servicesByName halike.marked_eq
  exact hsame

theorem AlikeAt.profiles : real.profiles = clean.profiles := by
  have hsame := congrArg InfoCenterState.profiles halike.marked_eq
  exact hsame

theorem AlikeAt.dataRefs : real.dataRefs = clean.dataRefs := by
  have hsame := congrArg InfoCenterState.dataRefs halike.marked_eq
  exact hsame

theorem AlikeAt.keys : real.nodes.keys = clean.nodes.keys := by
  have hkeys := congrArg (fun table => table.nodes.keys)
    halike.marked_eq
  simpa only [marked, keys_mapValues] using hkeys

theorem AlikeAt.lookup (id : String) : (real.nodes.lookup id).map (fun state =>
        state.fenceIfStale real.leaseTtlSec now) =
      (clean.nodes.lookup id).map (fun state =>
        state.fenceIfStale real.leaseTtlSec now) := by
  have hlookup := congrArg (fun table => table.nodes.lookup id)
    halike.marked_eq
  simp only [marked, lookup_mapValues] at hlookup
  rwa [← halike.leaseTtlSec] at hlookup

end

theorem alikeAt_of_lookup (hlease : real.leaseTtlSec = clean.leaseTtlSec)
    (hindex : real.servicesByName = clean.servicesByName)
    (hprofiles : real.profiles = clean.profiles)
    (hrefs : real.dataRefs = clean.dataRefs)
    (hkeys : real.nodes.keys = clean.nodes.keys)
    (hlookup : ∀ id, (real.nodes.lookup id).map (fun state =>
        state.fenceIfStale real.leaseTtlSec now) =
      (clean.nodes.lookup id).map (fun state =>
        state.fenceIfStale real.leaseTtlSec now)) : AlikeAt now real clean := by
  have hnodes : (real.nodes.mapValues fun _ state =>
      state.fenceIfStale real.leaseTtlSec now) =
        clean.nodes.mapValues fun _ state =>
          state.fenceIfStale clean.leaseTtlSec now := by
    apply ext_of_keys
    · simp only [keys_mapValues, hkeys]
    · intro id
      rw [lookup_mapValues, lookup_mapValues,
        ← hlease]
      exact hlookup id
  rw [AlikeAt, marked, marked, hnodes, hlease, hindex, hprofiles, hrefs]

/-! ## What a query answers -/

theorem snapshots_fence (serviceName : String) (healthyOnly : Bool)
    (ids : List String) :
    (table.fence now ids).snapshots now healthyOnly serviceName ids =
      (table.marked now).snapshots now healthyOnly serviceName ids := by
  have hlookup : ids.filterMap (table.fence now ids).nodes.lookup =
      ids.filterMap (table.marked now).nodes.lookup := by
    apply List.filterMap_congr
    intro id hid
    simp only [lookup_fence, marked, lookup_mapValues, hid, if_true]
  have hlease : (table.fence now ids).leaseTtlSec =
      (table.marked now).leaseTtlSec := rfl
  rw [snapshots, snapshots, hlookup, hlease]

theorem candidateIds_marked (serviceName : String) :
    (table.marked now).candidateIds platform serviceName =
      table.candidateIds platform serviceName := by
  simp only [candidateIds, marked, keys_mapValues]

theorem candidateIds_fence (ids : List String) (serviceName : String) :
    (table.fence now ids).candidateIds platform serviceName =
      table.candidateIds platform serviceName := by
  simp only [candidateIds, fence, keys_mapValues]

theorem fenceIfStale_nodeId (state : NodeState ε μ ρ) (leaseTtlSec : ℤ) :
    (state.fenceIfStale leaseTtlSec now).nodeId = state.nodeId := by
  unfold NodeState.fenceIfStale
  split <;> rfl

theorem values_fence_instancesOf (nodeIds : List String) :
    ((table.fence now (table.instancesOf nodeIds)).nodes.values.filter
        fun state => strip state.nodeId ∈ strippedIds nodeIds) =
      (table.marked now).nodes.values.filter
        fun state => strip state.nodeId ∈ strippedIds nodeIds := by
  simp only [values_eq_items, fence, marked,
    items_mapValues, List.map_map, List.filter_map,
    Function.comp_def]
  have hsame : (table.nodes.items.filter fun item => decide (strip
      (if item.1 ∈ table.instancesOf nodeIds then
        item.2.fenceIfStale table.leaseTtlSec now else item.2).nodeId ∈
          strippedIds nodeIds)) =
      table.nodes.items.filter fun item => decide (strip
        (item.2.fenceIfStale table.leaseTtlSec now).nodeId ∈
          strippedIds nodeIds) := by
    apply List.filter_congr
    intro item _
    split
    · rfl
    · rw [fenceIfStale_nodeId]
  rw [hsame]
  apply List.map_congr_left
  intro item hitem
  obtain ⟨hmem, hfound⟩ := List.mem_filter.mp hitem
  rw [decide_eq_true_eq, fenceIfStale_nodeId] at hfound
  have hstripped : strip item.2.nodeId ≠ "" :=
    of_decide_eq_true (List.mem_filter.mp hfound).2
  apply if_pos
  exact List.mem_map.mpr ⟨item, List.mem_filter.mpr
    ⟨hmem, decide_eq_true ⟨hstripped, hfound⟩⟩, rfl⟩

section

variable [LinearOrder ε]

theorem ask_eq_answer_marked (query : Query) :
    table.ask platform now query =
      (table.marked now).answer platform now query := by
  cases query with
  | listNodes healthyOnly tags limit =>
    rw [ask, queried, visited, fence_keys]
  | listSelectedNodes healthyOnly tags limit nodeIds nodeInstanceIds =>
    rw [ask, queried, visited, answer, answer]
    split
    · congr 1
      have hlookup : (strippedIds nodeInstanceIds).filterMap
          (table.fence now (strippedIds nodeInstanceIds)).nodes.lookup =
            (strippedIds nodeInstanceIds).filterMap
              (table.marked now).nodes.lookup := by
        apply List.filterMap_congr
        intro id hid
        simp only [lookup_fence, marked, lookup_mapValues, hid,
          if_true]
      rw [nodesByInstance, nodesByInstance, hlookup]
      rfl
    · split
      · rw [nodesById, nodesById, values_fence_instancesOf]
        rfl
      · rw [fence_keys]
  | listServiceRoutes serviceName healthyOnly limit routeScope method =>
    rw [ask, queried, visited, answer, answer, serviceRoutes, serviceRoutes,
      candidateIds_fence, candidateIds_marked, snapshots_fence]
  | diagnoseServiceRoutes serviceName method healthyOnly limit =>
    rw [ask, queried, visited, answer, answer, candidateIds_fence,
      candidateIds_marked, snapshots_fence]

theorem AlikeAt.ask (halike : AlikeAt now real clean) (query : Query) :
    real.ask platform now query = clean.ask platform now query := by
  rw [ask_eq_answer_marked, ask_eq_answer_marked, halike]

end

end InfoCenterState

end PycloudParallel.NodeTable
