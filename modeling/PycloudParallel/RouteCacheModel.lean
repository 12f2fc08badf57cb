import PycloudParallel.ServiceBreakers

/-!
# The route caches

`_DiscoveryRouteCache` and `GatewayRouteCache`: the routes of each service as
they were last listed, a breaker and a count of reservations for each route.
A route stands for the pair of its service name and its id, under which both
tables keep it; what else a row says is read by nothing that changes the cache.
-/

namespace PycloudParallel.ServiceRoutes

open ServiceCalls CallFailover

structure Route where
  serviceName : Text
  serviceId : Text
deriving DecidableEq

namespace Route

def stripped (route : Route) : Route :=
  ⟨strip route.serviceName, strip route.serviceId⟩

def unnamed (route : Route) : Bool :=
  route.stripped.serviceName.isEmpty || route.stripped.serviceId.isEmpty

end Route

inductive CacheKind
  | discovery
  | gateway
deriving DecidableEq

/-- The settings of a cache, with `open_sec` after `max(0.1, …)`. -/
structure CacheSettings where
  kind : CacheKind
  openSec : ℚ
  openSec_le : 1 / 10 ≤ openSec

def CacheSettings.breaker (settings : CacheSettings) : BreakerSettings :=
  ⟨1, settings.openSec, settings.openSec⟩

inductive Strategy
  | predictedBusy
  | serviceLatencyFirst
  | leastInflight
  | roundRobin
deriving DecidableEq

/-- `resolve_service_strategy`; `lower` is `str.lower`. -/
def resolveServiceStrategy (lower : Text → Text) (strategy : Text) : Strategy :=
  let normalized := orElse (lower (strip strategy)) "predicted_busy".toList
  if normalized = "predicted_busy".toList ∨
      normalized = "service_default".toList then .predictedBusy
  else if normalized = "service_latency_first".toList then .serviceLatencyFirst
  else if normalized = "least_inflight".toList then .leastInflight
  else if normalized = "round_robin".toList then .roundRobin
  else .predictedBusy

def Strategy.scores : Strategy → Bool
  | .predictedBusy | .serviceLatencyFirst => true
  | .leastInflight | .roundRobin => false

structure RouteCache where
  snapshots : Text → Option (List Route)
  localState : Route → Option CandidateBreakerState
  localInflight : Route → ℕ

namespace RouteCache

variable (cache : RouteCache)

def empty : RouteCache :=
  ⟨fun _ => none, fun _ => none, fun _ => 0⟩

def setBreaker (route : Route) (breaker : CandidateBreakerState) : RouteCache :=
  { cache with
    localState := Function.update cache.localState route (some breaker) }

def setCount (key : Route) (count : ℕ) : RouteCache :=
  { cache with localInflight := Function.update cache.localInflight key count }

/-- The breaker of a route, `CandidateBreakerState()` if there is none. -/
def breakerOf (route : Route) : CandidateBreakerState :=
  (cache.localState route).getD .fresh

def reserveRoute (route : Route) : RouteCache :=
  if route.unnamed then cache
  else cache.setCount route.stripped (cache.localInflight route.stripped + 1)

/-- `_release_route`; a count of one is popped. -/
def releaseRoute (route : Route) : RouteCache :=
  if route.unnamed then cache
  else
    let current := cache.localInflight route.stripped
    cache.setCount route.stripped (if current ≤ 1 then 0 else current - 1)

def routeAvailable (now : ℚ) (route : Route) : RouteCache × Bool :=
  match cache.localState route with
  | none => (cache, true)
  | some breaker =>
    let checked := breaker.candidateAllowed now
    (cache.setBreaker route checked.1, checked.2)

def beforeProbe (now : ℚ) (route : Route) : RouteCache × Bool :=
  let probed := (cache.breakerOf route).beforeProbe now
  (cache.setBreaker route probed.1, probed.2)

/-- The part of `mark_success` before the release. -/
def closeBreaker (route : Route) : RouteCache :=
  match cache.localState route with
  | none => cache
  | some breaker => cache.setBreaker route breaker.markSuccess

def markSuccess (route : Route) : RouteCache :=
  (cache.closeBreaker route).releaseRoute route

/-- The part of `mark_failure` before the release. -/
def openBreaker (settings : CacheSettings) (now : ℚ) (route : Route) :
    RouteCache :=
  cache.setBreaker route
    ((cache.breakerOf route).markFailure settings.breaker now)

def markFailure (settings : CacheSettings) (now : ℚ) (route : Route) :
    RouteCache :=
  (cache.openBreaker settings now route).releaseRoute route

def gone (name : Text) (rows : List Route) (key : Route) : Prop :=
  key.serviceName = name ∧ key.serviceId ∉ rows.map Route.serviceId

instance (name : Text) (rows : List Route) (key : Route) :
    Decidable (gone name rows key) :=
  inferInstanceAs (Decidable (_ ∧ _))

/-- The two loops of `refresh` that pop what the rows do not name. -/
def forget (name : Text) (rows : List Route) : RouteCache :=
  { cache with
    localState := fun key =>
      if gone name rows key then none else cache.localState key
    localInflight := fun key =>
      if gone name rows key then 0 else cache.localInflight key }

def setSnapshot (name : Text) (rows : List Route) : RouteCache :=
  { cache with snapshots := Function.update cache.snapshots name (some rows) }

/-- `refresh` of a stripped, nonempty name, from the answer of the listing on;
`none` is a listing that raised.  The gateway goes on with no rows then. -/
def refresh (kind : CacheKind) (name : Text) (force : Bool)
    (answer : Option (List Route)) : RouteCache :=
  match kind, answer with
  | .discovery, none => cache
  | .discovery, some rows => (cache.setSnapshot name rows).forget name rows
  | .gateway, none => cache.forget name []
  | .gateway, some rows =>
    if force = true ∨ cache.snapshots name = none ∨ rows ≠ [] then
      (cache.setSnapshot name rows).forget name rows
    else cache.forget name rows

/-! ## The breakers after each operation -/

@[simp] theorem reserveRoute_localState (route : Route) :
    (cache.reserveRoute route).localState = cache.localState := by
  unfold reserveRoute
  split <;> rfl

@[simp] theorem releaseRoute_localState (route : Route) :
    (cache.releaseRoute route).localState = cache.localState := by
  unfold releaseRoute
  split <;> rfl

theorem breakerOf_setBreaker (route other : Route)
    (breaker : CandidateBreakerState) :
    (cache.setBreaker route breaker).breakerOf other =
      if other = route then breaker else cache.breakerOf other := by
  unfold breakerOf setBreaker
  by_cases hsame : other = route <;> simp [hsame]

theorem breakerOf_of_localState {other : RouteCache}
    (hsame : other.localState = cache.localState) (route : Route) :
    other.breakerOf route = cache.breakerOf route := by
  unfold breakerOf
  rw [hsame]

theorem breakerOf_routeAvailable (now : ℚ) (route other : Route) :
    (cache.routeAvailable now route).1.breakerOf other =
      if other = route then ((cache.breakerOf route).candidateAllowed now).1
      else cache.breakerOf other := by
  unfold routeAvailable
  cases hstate : cache.localState route with
  | none =>
    dsimp only
    by_cases hsame : other = route
    · have hfresh : cache.breakerOf route = .fresh := by
        unfold breakerOf
        rw [hstate]
        rfl
      rw [if_pos hsame, hsame, hfresh]
      rfl
    · rw [if_neg hsame]
  | some breaker =>
    have hbreaker : cache.breakerOf route = breaker := by
      unfold breakerOf
      rw [hstate]
      rfl
    rw [breakerOf_setBreaker, hbreaker]

theorem routeAvailable_snd (now : ℚ) (route : Route) :
    (cache.routeAvailable now route).2 =
      ((cache.breakerOf route).candidateAllowed now).2 := by
  unfold routeAvailable breakerOf
  cases cache.localState route with
  | none | some breaker => rfl

theorem breakerOf_beforeProbe (now : ℚ) (route other : Route) :
    (cache.beforeProbe now route).1.breakerOf other =
      if other = route then ((cache.breakerOf route).beforeProbe now).1
      else cache.breakerOf other :=
  breakerOf_setBreaker cache route other _

theorem breakerOf_markSuccess (route other : Route) :
    (cache.markSuccess route).breakerOf other =
      if other = route then .fresh else cache.breakerOf other := by
  have hclosed : (cache.closeBreaker route).breakerOf other =
      if other = route then .fresh else cache.breakerOf other := by
    unfold closeBreaker
    cases hstate : cache.localState route with
    | none =>
      dsimp only
      by_cases hsame : other = route
      · rw [if_pos hsame, hsame]
        unfold breakerOf
        rw [hstate]
        rfl
      · rw [if_neg hsame]
    | some breaker => exact breakerOf_setBreaker cache route other _
  rw [markSuccess, breakerOf_of_localState _ (releaseRoute_localState _ _)]
  exact hclosed

theorem breakerOf_markFailure (settings : CacheSettings) (now : ℚ)
    (route other : Route) :
    (cache.markFailure settings now route).breakerOf other =
      if other = route then
        (cache.breakerOf route).markFailure settings.breaker now
      else cache.breakerOf other := by
  rw [markFailure, breakerOf_of_localState _ (releaseRoute_localState _ _)]
  exact breakerOf_setBreaker cache route other _

theorem breakerOf_refresh (kind : CacheKind) (name : Text) (force : Bool)
    (answer : Option (List Route)) (route : Route) :
    (cache.refresh kind name force answer).breakerOf route =
        cache.breakerOf route ∨
      (cache.refresh kind name force answer).breakerOf route = .fresh := by
  have hforget : ∀ (before : RouteCache) (rows : List Route),
      before.localState = cache.localState →
        (before.forget name rows).breakerOf route = cache.breakerOf route ∨
          (before.forget name rows).breakerOf route = .fresh := by
    intro before rows hsame
    unfold breakerOf forget
    dsimp only
    rw [hsame]
    split
    · exact .inr rfl
    · exact .inl rfl
  cases kind with
  | discovery =>
    cases answer with
    | none => exact .inl rfl
    | some rows => exact hforget (cache.setSnapshot name rows) rows rfl
  | gateway =>
    cases answer with
    | none => exact hforget cache [] rfl
    | some rows =>
      simp only [refresh]
      split
      · exact hforget (cache.setSnapshot name rows) rows rfl
      · exact hforget cache rows rfl

end RouteCache

end PycloudParallel.ServiceRoutes
