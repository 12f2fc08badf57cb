import PycloudParallel.NodeTableMarks

/-!
# The diagnosis of routes

`list_service_routes` leaves out the nodes that are not healthy and then the
routes with a reason against them; `diagnose_service_routes` only gives the
reasons.  Both speak of the same routes.
-/

namespace PycloudParallel.NodeTable

open Texts
open NodeReports (serviceRunning)

variable {ε μ ρ : Type} {platform : Platform ε μ}

namespace RouteSnapshot

variable {snapshot : RouteSnapshot ε μ ρ} {method : String}

/-- What `_service_call_route_exclusion_reasons` asks of a route.  The failures
of single methods excuse a degraded resource and a readiness that is due to
them. -/
structure Callable (platform : Platform ε μ) (snapshot : RouteSnapshot ε μ ρ)
    (method : String) : Prop where
  healthy : snapshot.isHealthy = true
  undrained : snapshot.state.drain = false
  running : snapshot.service.status = serviceRunning
  unstopped : strip snapshot.service.stopReason = ""
  sound : platform.casing.lower (strip snapshot.service.resourceHealth) ∉
    ["failed", "stopped", "node_lost"]
  undegraded : snapshot.service.methodFailures.keys = [] →
    snapshot.service.degraded = false ∧
      platform.casing.upper (strip snapshot.service.statusText) ≠ "DEGRADED"
  unblocked : method ≠ "" → snapshot.service.methodFailures.lookup method = none
  ready : platform.casing.lower (strip snapshot.service.readiness) ∉
      ["", "ready"] →
    snapshot.service.methodFailures.keys ≠ [] ∧
      (strip snapshot.service.readinessReason).startsWith
        "method dependency failure" = true

theorem admissionExclusions_eq_nil_iff :
    snapshot.admissionExclusions = [] ↔ snapshot.isHealthy = true ∧
      snapshot.state.drain = false ∧
      snapshot.service.status = serviceRunning := by
  cases hhealthy : snapshot.isHealthy <;> cases hdrain : snapshot.state.drain <;>
    by_cases hrunning : snapshot.service.status = serviceRunning <;>
    simp [admissionExclusions, effectiveStatus, isCallRoute, hhealthy, hdrain,
      hrunning]

theorem exclusions_eq_nil_iff :
    snapshot.exclusions platform method = [] ↔
      snapshot.Callable platform method := by
  have hsingle : ∀ (given : Prop) [Decidable given] (exclusion : Exclusion μ),
      (if given then [exclusion] else []) = [] ↔ ¬given := by
    intro given _ exclusion
    split <;> simp [*]
  rw [exclusions, List.append_eq_nil_iff, admissionExclusions_eq_nil_iff,
    reportedExclusions, List.append_eq_nil_iff, List.append_eq_nil_iff, hsingle,
    hsingle]
  constructor
  · rintro ⟨⟨hhealthy, hdrain, hrunning⟩, ⟨hdegraded, hblocked⟩, hready⟩
    constructor
    case unblocked =>
      intro hmethod
      rw [if_neg hmethod] at hblocked
      cases hfailure : snapshot.service.methodFailures.lookup method with
      | none => rfl
      | some failure => simp [hfailure] at hblocked
    all_goals grind
  · intro hcallable
    refine ⟨⟨hcallable.healthy, hcallable.undrained, hcallable.running⟩,
      ⟨?_, ?_⟩, ?_⟩
    · grind [hcallable.sound, hcallable.undegraded, hcallable.unstopped]
    · split
      · rfl
      · next failure hfailure =>
        split at hfailure
        · cases hfailure
        · next hmethod =>
          rw [hcallable.unblocked hmethod] at hfailure
          cases hfailure
    · grind [hcallable.ready]

end RouteSnapshot

theorem snapshots_healthy (table : InfoCenterState ε μ ρ) (now : ℤ)
    (serviceName : String) (ids : List String) :
    table.snapshots now true serviceName ids =
      (table.snapshots now false serviceName ids).filter
        RouteSnapshot.isHealthy := by
  rw [InfoCenterState.snapshots, InfoCenterState.snapshots, List.filter_flatMap]
  apply List.flatMap_congr
  intro state _
  cases hhealthy : state.isHealthy table.leaseTtlSec now <;>
    simp [List.filter_map, Function.comp_def]

theorem included_diagnosis (now : ℤ) (snapshot : RouteSnapshot ε μ ρ)
    (method : String) :
    (snapshot.diagnosis platform now true method).included =
      (snapshot.isHealthy && snapshot.admitted platform "call" method) := by
  have hadmitted : snapshot.admitted platform "call" method =
      (snapshot.exclusions platform method).isEmpty := by
    simp [RouteSnapshot.admitted]
  rw [RouteDiagnosis.included, RouteSnapshot.diagnosis, hadmitted, if_pos rfl,
    Bool.eq_iff_iff, Bool.and_eq_true, List.isEmpty_iff]
  exact ⟨fun hnone =>
    ⟨(RouteSnapshot.exclusions_eq_nil_iff.mp hnone).healthy, hnone⟩, And.right⟩

/-- The routes of a service, with those of nodes that are not healthy. -/
def InfoCenterState.visitedRoutes (platform : Platform ε μ)
    (table : InfoCenterState ε μ ρ) (now : ℤ) (serviceName : String) :
    List (RouteSnapshot ε μ ρ) :=
  (table.marked now).snapshots now false serviceName
    (table.candidateIds platform serviceName)

theorem serviceRoutes_call [LinearOrder ε] (platform : Platform ε μ)
    (table : InfoCenterState ε μ ρ) (now : ℤ) (serviceName method : String) :
    (table.marked now).serviceRoutes platform now true "call" method
        serviceName =
      ((table.visitedRoutes platform now serviceName).filter fun snapshot =>
        (snapshot.diagnosis platform now true method).included).map
          (RouteSnapshot.route platform now) := by
  rw [InfoCenterState.serviceRoutes, InfoCenterState.candidateIds_marked,
    snapshots_healthy, List.filter_filter, InfoCenterState.visitedRoutes]
  congr 1
  apply List.filter_congr
  intro snapshot _
  rw [included_diagnosis, Bool.and_comm]
  rfl

/-- With limits that cut nothing off, the routes that the diagnosis includes
are those that a query for calls gives, and there is no reason against a route
exactly if it can be called. -/
theorem diagnosis_agrees [LinearOrder ε] (platform : Platform ε μ)
    (table : InfoCenterState ε μ ρ) (now : ℤ) (serviceName method : String)
    (hlower : platform.casing.lower "call" = "call") (wide limit : ℕ)
    (hwide : (table.visitedRoutes platform now (strip serviceName)).length ≤
      wide)
    (hlimit : (table.visitedRoutes platform now (strip serviceName)).length ≤
      limit) :
    ∃ (included excluded : ℕ) (rows : List (RouteDiagnosis μ))
      (routes : List (ServiceRoute ε μ)),
    table.ask platform now
      (.diagnoseServiceRoutes serviceName method true wide) =
        .diagnosis included excluded rows ∧
    table.ask platform now
      (.listServiceRoutes serviceName true limit "call" method) =
        .routes routes ∧
    ((rows.filter RouteDiagnosis.included).map fun row =>
      (row.nodeInstanceId, row.serviceId)).Perm
        (routes.map fun route => (route.nodeInstanceId, route.serviceId)) ∧
    ∀ row ∈ rows, ∃ snapshot ∈ table.visitedRoutes platform now
        (strip serviceName),
      row = snapshot.diagnosis platform now true (strip method) ∧
      (row.excludedReasons = [] ↔ snapshot.Callable platform (strip method)) := by
  have hroutes := serviceRoutes_call platform table now (strip serviceName)
    (strip method)
  rw [InfoCenterState.ask_eq_answer_marked, InfoCenterState.ask_eq_answer_marked,
    InfoCenterState.answer, InfoCenterState.answer,
    InfoCenterState.candidateIds_marked, ← InfoCenterState.visitedRoutes]
  generalize table.visitedRoutes platform now (strip serviceName) = visited
    at hwide hlimit hroutes ⊢
  have hcall : strip (orElse "call" "call") = "call" := by decide
  simp only [hcall, hlower, hroutes]
  have hrows := List.perm_insertionSort RouteDiagnosis.before
    (visited.map (RouteSnapshot.diagnosis platform now true (strip method)))
  have hlisted := List.perm_insertionSort ServiceRoute.before
    ((visited.filter fun snapshot => (snapshot.diagnosis platform now true
      (strip method)).included).map (RouteSnapshot.route platform now))
  have hfewer := List.length_filter_le (fun snapshot : RouteSnapshot ε μ ρ =>
    (snapshot.diagnosis platform now true (strip method)).included) visited
  rw [List.take_of_length_le (by simp; omega),
    List.take_of_length_le (by simp; omega)]
  refine ⟨_, _, _, _, rfl, rfl, ?_, ?_⟩
  · refine ((hrows.filter _).map _).trans (.trans ?_ (hlisted.map _).symm)
    rw [List.filter_map, List.map_map, List.map_map]
    exact List.Perm.refl _
  · intro row hrow
    rw [hrows.mem_iff, List.mem_map] at hrow
    obtain ⟨snapshot, hsnapshot, rfl⟩ := hrow
    refine ⟨snapshot, hsnapshot, rfl, ?_⟩
    rw [← RouteSnapshot.exclusions_eq_nil_iff]
    rfl

theorem twoNodes_diagnosed :
    ∃ table included excluded rows routes,
      runLabels (InfoCenterState.step samplePlatform) noNodes twoNodes =
        some table ∧
      table.ask samplePlatform 3 (.diagnoseServiceRoutes "model" "" true 5) =
        .diagnosis included excluded rows ∧
      table.ask samplePlatform 3
        (.listServiceRoutes "model" true 5 "call" "") = .routes routes ∧
      ((rows.filter RouteDiagnosis.included).map fun row =>
        (row.nodeInstanceId, row.serviceId)).Perm
          (routes.map fun route => (route.nodeInstanceId, route.serviceId)) := by
  obtain ⟨table, htable, hvisited⟩ : ∃ table, runLabels
      (InfoCenterState.step samplePlatform) noNodes twoNodes = some table ∧
      (table.visitedRoutes samplePlatform 3 (strip "model")).length ≤ 5 :=
    ⟨_, rfl, by decide +kernel⟩
  obtain ⟨included, excluded, rows, routes, hrows, hroutes, hsame, -⟩ :=
    diagnosis_agrees samplePlatform table 3 "model" "" (by decide) 5 5 hvisited
      hvisited
  exact ⟨table, included, excluded, rows, routes, htable, hrows, hroutes, hsame⟩

end PycloudParallel.NodeTable
