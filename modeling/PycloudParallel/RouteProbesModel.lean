import PycloudParallel.FoundationGuardedRun
import PycloudParallel.RouteCacheModel
import Mathlib.Data.Fintype.Basic

/-!
# Selections and the calls that end them

`select_route` of both route caches, cut at the points where another thread can
come in between, the three ways in which a call ends its selection, refreshes
and the clock.  The discovery cache holds its lock from the first look at a
breaker to the reservation, the gateway takes it anew for each step.  Which
candidate a strategy prefers is left open; which of them ask `before_probe` is
not.
-/

namespace PycloudParallel.ServiceRoutes

open ServiceCalls CallFailover

variable {κ : Type} [DecidableEq κ]

/-- Where a call is.  `taking` stands before the reservation, with `probe` for
the branch that has just put up the probe flag of a half-open route; `holding`
says whether the route was half open when `select_route` returned it. -/
inductive SelectPhase
  | checking (left kept : List Route)
  | choosing (kept : List Route)
  | probing (route : Route) (kept : List Route)
  | falling (kept : List Route)
  | taking (route : Route) (probe : Bool)
  | holding (route : Route) (halfOpen : Bool)
  | ended
deriving DecidableEq

structure RouteCall where
  strategy : Strategy
  phase : SelectPhase
deriving DecidableEq

inductive RouteOutcome
  | success
  | failure
  | release
deriving DecidableEq

structure RouteSystem (κ : Type) where
  cache : RouteCache
  clock : ℚ
  calls : κ → Option RouteCall
  /-- The call that is inside the lock section of the discovery cache. -/
  lock : Option κ

/-- The moves.  `start` brings the ids of the routes that pass the filters
which do not look at the breakers. -/
inductive RouteLabel (κ : Type)
  | start (id : κ) (strategy : Text) (name : Text) (ids : List Text)
  | check (id : κ)
  | choose (id : κ) (route : Route)
  | refuse (id : κ)
  | probe (id : κ)
  | fallBack (id : κ) (route : Route)
  | take (id : κ)
  | finish (id : κ) (outcome : RouteOutcome)
  | refresh (name : Text) (force : Bool) (answer : Option (List Route))
  | tick (now : ℚ)

namespace RouteSystem

variable (lower : Text → Text) (settings : CacheSettings) (s : RouteSystem κ)

def init : RouteSystem κ :=
  ⟨.empty, 0, fun _ => none, none⟩

def enabled (id : κ) : Prop :=
  s.lock = none ∨ s.lock = some id

instance (id : κ) : Decidable (s.enabled id) :=
  inferInstanceAs (Decidable (_ ∨ _))

def setPhase (id : κ) (call : RouteCall) (phase : SelectPhase) :
    RouteSystem κ :=
  { s with calls := Function.update s.calls id (some { call with phase := phase }) }

def setCache (cache : RouteCache) : RouteSystem κ :=
  { s with cache := cache }

def unlock : RouteSystem κ :=
  { s with lock := none }

def startStep (id : κ) (strategy name : Text) (ids : List Text) :
    Option (RouteSystem κ) :=
  match s.calls id with
  | some _ => none
  | none =>
    if s.enabled id then
      some { s with
        calls := Function.update s.calls id (some {
          strategy := resolveServiceStrategy lower strategy
          phase := .checking (ids.map fun serviceId => ⟨strip name, serviceId⟩) [] })
        lock :=
          match settings.kind with
          | .discovery => some id
          | .gateway => none }
    else none

/-- `_route_available` of the next candidate, or the end of the filter. -/
def checkStep (id : κ) (call : RouteCall) : Option (RouteSystem κ) :=
  match call.phase with
  | .checking [] kept => some (s.setPhase id call (.choosing kept))
  | .checking (route :: left) kept =>
    let asked := s.cache.routeAvailable s.clock route
    some ((s.setCache asked.1).setPhase id call
      (.checking left (if asked.2 = true then kept ++ [route] else kept)))
  | _ => none

/-- A candidate of the strategy's best tier, or one that
`select_one_candidate` scores best; the scheduler passes over open breakers. -/
def chooseStep (id : κ) (call : RouteCall) (route : Route) :
    Option (RouteSystem κ) :=
  match call.phase with
  | .choosing kept =>
    if route ∈ kept then
      if call.strategy.scores = true then
        if (s.cache.breakerOf route).state = .opened then none
        else some (s.setPhase id call (.probing route kept))
      else some (s.setPhase id call (.taking route false))
    else none
  | _ => none

/-- `select_route` raises: there is no candidate, or the scheduler is left
with none. -/
def refuseStep (id : κ) (call : RouteCall) : Option (RouteSystem κ) :=
  match call.phase with
  | .choosing kept =>
    if kept = [] ∨ call.strategy.scores = true ∧
        kept.all (fun route =>
          decide ((s.cache.breakerOf route).state = .opened)) = true then
      some (s.unlock.setPhase id call .ended)
    else none
  | _ => none

def probeStep (id : κ) (call : RouteCall) : Option (RouteSystem κ) :=
  match call.phase with
  | .probing route kept =>
    let asked := s.cache.beforeProbe s.clock route
    some ((s.setCache asked.1).setPhase id call
      (if asked.2 = true then
        .taking route (decide ((asked.1.breakerOf route).state = .halfOpen))
      else .falling kept))
  | _ => none

def fallBackStep (id : κ) (call : RouteCall) (route : Route) :
    Option (RouteSystem κ) :=
  match call.phase with
  | .falling kept =>
    if route ∈ kept then some (s.setPhase id call (.taking route false)) else none
  | _ => none

/-- The reservation, with which `select_route` returns. -/
def takeStep (id : κ) (call : RouteCall) : Option (RouteSystem κ) :=
  match call.phase with
  | .taking route _ =>
    some (((s.setCache (s.cache.reserveRoute route)).unlock).setPhase id call
      (.holding route (decide ((s.cache.breakerOf route).state = .halfOpen))))
  | _ => none

def finishStep (id : κ) (call : RouteCall) (outcome : RouteOutcome) :
    Option (RouteSystem κ) :=
  match call.phase with
  | .holding route _ =>
    let cache :=
      match outcome with
      | .success => s.cache.markSuccess route
      | .failure => s.cache.markFailure settings s.clock route
      | .release => s.cache.releaseRoute route
    some ((s.setCache cache).setPhase id call .ended)
  | _ => none

/-- A step of the call `id`, which waits while another call has the lock. -/
def callStep (id : κ) (move : RouteCall → Option (RouteSystem κ)) :
    Option (RouteSystem κ) :=
  match s.calls id with
  | none => none
  | some call => if s.enabled id then move call else none

def step : RouteLabel κ → Option (RouteSystem κ)
  | .start id strategy name ids => s.startStep lower settings id strategy name ids
  | .check id => s.callStep id (s.checkStep id)
  | .choose id route => s.callStep id fun call => s.chooseStep id call route
  | .refuse id => s.callStep id (s.refuseStep id)
  | .probe id => s.callStep id (s.probeStep id)
  | .fallBack id route => s.callStep id fun call => s.fallBackStep id call route
  | .take id => s.callStep id (s.takeStep id)
  | .finish id outcome =>
    s.callStep id fun call => s.finishStep settings id call outcome
  | .refresh name force answer =>
    if s.lock = none ∧ strip name ≠ [] then
      some (s.setCache (s.cache.refresh settings.kind (strip name) force answer))
    else none
  | .tick now => if s.clock ≤ now then some { s with clock := now } else none

end RouteSystem

/-- A running selection may still return the route, or a call holds it from
when it was half open. -/
def SelectPhase.involves (route : Route) : SelectPhase → Prop
  | .checking _ kept | .choosing kept | .falling kept => route ∈ kept
  | .probing chosen kept => route = chosen ∨ route ∈ kept
  | .taking chosen _ => route = chosen
  | .holding held halfOpen => route = held ∧ halfOpen = true
  | .ended => False

instance (route : Route) :
    (phase : SelectPhase) → Decidable (phase.involves route)
  | .checking _ kept => inferInstanceAs (Decidable (route ∈ kept))
  | .choosing kept => inferInstanceAs (Decidable (route ∈ kept))
  | .probing chosen kept => inferInstanceAs (Decidable (route = chosen ∨ route ∈ kept))
  | .falling kept => inferInstanceAs (Decidable (route ∈ kept))
  | .taking chosen _ => inferInstanceAs (Decidable (route = chosen))
  | .holding held halfOpen => inferInstanceAs (Decidable (route = held ∧ halfOpen = true))
  | .ended => inferInstanceAs (Decidable False)

namespace RouteSystem

variable (s : RouteSystem κ)

def phase (id : κ) : SelectPhase :=
  match s.calls id with
  | none => .ended
  | some call => call.phase

def returnsFlagged : SelectPhase → Prop
  | .taking route false => (s.cache.breakerOf route).state ≠ .halfOpen
  | _ => True

/-- A selection of a half-open route is not given back while the route is still
half open. -/
def givesBack : SelectPhase → Prop
  | .holding route true => (s.cache.breakerOf route).state ≠ .halfOpen
  | _ => True

def failsAlone (id : κ) : SelectPhase → Prop
  | .holding route _ => ∀ other, other ≠ id → ¬(s.phase other).involves route
  | _ => True

def ProbeKept (s : RouteSystem κ) : RouteLabel κ → Prop
  | .take id => s.returnsFlagged (s.phase id)
  | .finish id .release => s.givesBack (s.phase id)
  | .finish id .failure => s.failsAlone id (s.phase id)
  | _ => True

instance : (phase : SelectPhase) → Decidable (s.returnsFlagged phase)
  | .taking route false =>
    inferInstanceAs (Decidable ((s.cache.breakerOf route).state ≠ .halfOpen))
  | .taking _ true | .checking _ _ | .choosing _ | .probing _ _ | .falling _
  | .holding _ _ | .ended => .isTrue trivial

instance : (phase : SelectPhase) → Decidable (s.givesBack phase)
  | .holding route true =>
    inferInstanceAs (Decidable ((s.cache.breakerOf route).state ≠ .halfOpen))
  | .holding _ false | .checking _ _ | .choosing _ | .probing _ _ | .falling _
  | .taking _ _ | .ended => .isTrue trivial

instance [Fintype κ] (id : κ) :
    (phase : SelectPhase) → Decidable (s.failsAlone id phase)
  | .holding route _ => inferInstanceAs
      (Decidable (∀ other, other ≠ id → ¬(s.phase other).involves route))
  | .checking _ _ | .choosing _ | .probing _ _ | .falling _ | .taking _ _
  | .ended => .isTrue trivial

instance [Fintype κ] : (label : RouteLabel κ) → Decidable (s.ProbeKept label)
  | .take id => inferInstanceAs (Decidable (s.returnsFlagged (s.phase id)))
  | .finish id .release => inferInstanceAs (Decidable (s.givesBack (s.phase id)))
  | .finish id .failure => inferInstanceAs (Decidable (s.failsAlone id (s.phase id)))
  | .finish _ .success | .start _ _ _ _ | .check _ | .choose _ _ | .refuse _
  | .probe _ | .fallBack _ _ | .refresh _ _ _ | .tick _ => .isTrue trivial

end RouteSystem

end PycloudParallel.ServiceRoutes
