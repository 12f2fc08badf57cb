import PycloudParallel.FoundationGuardedRun
import PycloudParallel.FoundationParties
import PycloudParallel.RouteCacheModel

/-!
# The operations on a route cache

`list_methods` and `call` of `DiscoveryClient`, and the calls, streaming calls,
upload calls and method lists of the gateway, cut at the points where they
reserve a route, give it back or can raise.  Each helper may return or raise.
`select_route` never returns a route whose id it was told to exclude, so the
branches that give such a route back are not reached.
-/

namespace PycloudParallel.ServiceRoutes

open ServiceCalls CallFailover

inductive OperationKind
  | clientCall
  | clientMethods
  | gatewayCall
  | gatewayUpload
  | gatewayStream
  | gatewayMethods
deriving DecidableEq

def OperationKind.listsMethods : OperationKind → Bool
  | .clientMethods | .gatewayMethods => true
  | .clientCall | .gatewayCall | .gatewayUpload | .gatewayStream => false

/-- Where an operation is.  `calling` stands inside the `try` with a route,
`marked` behind `mark_success` in the same `try`, `handling` in front of
`preserve_failure` in the handler of the upload call, `streaming` and `streamed`
in the generator of a streaming call before and behind its last mark. -/
inductive OperationPoint
  | selecting
  | calling (route : Route)
  | marked (route : Route)
  | handling (route : Route)
  | streaming (route : Route)
  | streamed (route : Route)
  | refreshing
  | retrying
  | retryCalling (route : Route)
  | over
deriving DecidableEq

/-- An operation at these points has a route and has not yet said how it
fared. -/
def OperationPoint.holds : OperationPoint → List Route
  | .calling route | .handling route | .streaming route | .retryCalling route =>
    [route]
  | .selecting | .marked _ | .streamed _ | .refreshing | .retrying | .over => []

/-- An operation.  `taken` and `given` are ghosts: the routes it reserved and
those it released, in order. -/
structure Operation where
  kind : OperationKind
  point : OperationPoint
  tried : List Text
  taken : List Route
  given : List Route
deriving DecidableEq

/-- What happens to an operation.  `failover` is the verdict whether the route
is at fault and another one is tried. -/
inductive OperationEvent
  | selected (route : Route)
  | selectRaised
  | returned
  | callError (failover : Bool)
  | raised (failover : Bool)
  | abandoned
deriving DecidableEq

structure ReservationSystem where
  cache : RouteCache
  operations : List Operation

inductive ReservationLabel
  | begin (kind : OperationKind)
  | event (place : ℕ) (event : OperationEvent) (now : ℚ)
  | look (route : Route) (now : ℚ)
  | probe (route : Route) (now : ℚ)
  | refresh (name : Text) (force : Bool) (answer : Option (List Route))

inductive CacheAction
  | none
  | reserve (route : Route)
  | markSuccess (route : Route)
  | markFailure (route : Route)
  | release (route : Route)

namespace CacheAction

def apply (settings : CacheSettings) (now : ℚ) (cache : RouteCache) :
    CacheAction → RouteCache
  | .none => cache
  | .reserve route => cache.reserveRoute route
  | .markSuccess route => cache.markSuccess route
  | .markFailure route => cache.markFailure settings now route
  | .release route => cache.releaseRoute route

def taken : CacheAction → List Route
  | .reserve route => [route]
  | .none | .markSuccess _ | .markFailure _ | .release _ => []

def given : CacheAction → List Route
  | .markSuccess route | .markFailure route | .release route => [route]
  | .none | .reserve _ => []

end CacheAction

namespace Operation

def start (kind : OperationKind) : Operation :=
  ⟨kind, .selecting, [], [], []⟩

def judge (route : Route) : Bool → CacheAction × OperationPoint
  | true => (.markFailure route, .selecting)
  | false => (.release route, .over)

/-- Inside the `try` around the node, with a route. -/
def callingMove (kind : OperationKind) (route : Route) :
    OperationEvent → Option (CacheAction × OperationPoint)
  | .returned =>
    match kind with
    | .clientCall | .gatewayCall | .gatewayUpload =>
      some (.markSuccess route, .marked route)
    | .gatewayStream => some (.none, .streaming route)
    | .clientMethods | .gatewayMethods => some (.markSuccess route, .over)
  | .callError failover =>
    match kind with
    | .clientCall | .gatewayCall | .gatewayStream => some (judge route failover)
    | .gatewayUpload => some (.none, .handling route)
    | .clientMethods | .gatewayMethods => some (.markFailure route, .refreshing)
  | .raised failover =>
    match kind with
    | .clientCall => some (judge route failover)
    | .gatewayCall | .gatewayStream | .gatewayUpload =>
      some (.release route, .over)
    | .clientMethods | .gatewayMethods => some (.markFailure route, .refreshing)
  | .selected _ | .selectRaised | .abandoned => none

/-- Behind `mark_success`, still inside the `try`. -/
def markedMove (kind : OperationKind) (route : Route) :
    OperationEvent → Option (CacheAction × OperationPoint)
  | .returned => some (.none, .over)
  | .raised failover =>
    match kind with
    | .clientCall => some (judge route failover)
    | .gatewayCall | .gatewayUpload => some (.release route, .over)
    | .clientMethods | .gatewayMethods | .gatewayStream => none
  | .selected _ | .selectRaised | .callError _ | .abandoned => none

/-- `preserve_failure` in the handler of the upload call. -/
def handlingMove (route : Route) :
    OperationEvent → Option (CacheAction × OperationPoint)
  | .callError failover => some (judge route failover)
  | .raised _ => some (.none, .over)
  | .selected _ | .selectRaised | .returned | .abandoned => none

/-- The generator in front of its last mark: a `done` event that is ok, one that
is not, the end of the stream without one, an exception, or nobody who goes on
reading. -/
def streamingMove (route : Route) :
    OperationEvent → Option (CacheAction × OperationPoint)
  | .returned => some (.markSuccess route, .streamed route)
  | .callError true => some (.markFailure route, .streamed route)
  | .callError false => some (.release route, .streamed route)
  | .raised _ => some (.markFailure route, .over)
  | .abandoned => some (.none, .over)
  | .selected _ | .selectRaised => none

/-- The last line of the generator, inside its `try`. -/
def streamedMove (route : Route) :
    OperationEvent → Option (CacheAction × OperationPoint)
  | .returned | .abandoned => some (.none, .over)
  | .raised _ => some (.markFailure route, .over)
  | .selected _ | .selectRaised | .callError _ => none

def retryMove (kind : OperationKind) (route : Route) :
    OperationEvent → Option (CacheAction × OperationPoint)
  | .returned => some (.markSuccess route, .over)
  | .raised _ =>
    match kind with
    | .clientMethods => some (.none, .over)
    | .gatewayMethods => some (.markFailure route, .over)
    | .clientCall | .gatewayCall | .gatewayUpload | .gatewayStream => none
  | .selected _ | .selectRaised | .callError _ | .abandoned => none

variable (operation : Operation)

local instance : LawfulBEq Text := inferInstance

def move (event : OperationEvent) : Option (CacheAction × OperationPoint) :=
  match operation.point with
  | .selecting =>
    match event with
    | .selected route =>
      if route.serviceId ∈ operation.tried then none
      else some (.reserve route, .calling route)
    | .selectRaised =>
      some (.none, if operation.kind.listsMethods = true then .refreshing else .over)
    | .returned | .callError _ | .raised _ | .abandoned => none
  | .calling route => callingMove operation.kind route event
  | .marked route => markedMove operation.kind route event
  | .handling route => handlingMove route event
  | .streaming route => streamingMove route event
  | .streamed route => streamedMove route event
  | .refreshing =>
    match event with
    | .returned => some (.none, .retrying)
    | .raised _ => some (.none, .over)
    | .selected _ | .selectRaised | .callError _ | .abandoned => none
  | .retrying =>
    match event with
    | .selected route =>
      if route.serviceId ∈ operation.tried then none
      else some (.reserve route, .retryCalling route)
    | .selectRaised => some (.none, .over)
    | .returned | .callError _ | .raised _ | .abandoned => none
  | .retryCalling route => retryMove operation.kind route event
  | .over => none

def after (action : CacheAction) (point : OperationPoint) : Operation where
  kind := operation.kind
  point := point
  tried := operation.tried ++ action.taken.map Route.serviceId
  taken := operation.taken ++ action.taken
  given := operation.given ++ action.given

def holds : List Route :=
  operation.point.holds

def held (key : Route) : ℕ :=
  operation.holds.countP fun route => route.stripped = key

end Operation

namespace ReservationSystem

variable (settings : CacheSettings) (s : ReservationSystem)

def init : ReservationSystem :=
  ⟨.empty, []⟩

def setCache (cache : RouteCache) : ReservationSystem :=
  { s with cache := cache }

def eventStep (place : ℕ) (event : OperationEvent) (now : ℚ) :
    Option ReservationSystem :=
  match s.operations[place]? with
  | none => none
  | some operation =>
    match operation.move event with
    | none => none
    | some (action, point) => some {
        cache := action.apply settings now s.cache
        operations := s.operations.set place (operation.after action point) }

def step : ReservationLabel → Option ReservationSystem
  | .begin kind => some { s with operations := s.operations ++ [.start kind] }
  | .event place event now => s.eventStep settings place event now
  | .look route now => some (s.setCache (s.cache.routeAvailable now route).1)
  | .probe route now => some (s.setCache (s.cache.beforeProbe now route).1)
  | .refresh name force answer =>
    if strip name = [] then none
    else some (s.setCache (s.cache.refresh settings.kind (strip name) force answer))

/-- The event does not lead an operation past its release or to a second one:
nothing raises behind a mark in the same `try`, `preserve_failure` does not
raise, a stream is read to its end, and the second route of a method list of
the client does not fail. -/
def endsOnce (operation : Operation) (event : OperationEvent) : Bool :=
  match operation.point, event with
  | .marked _, .raised _ => false
  | .handling _, .raised _ => false
  | .streaming _, .abandoned => false
  | .streamed _, .raised _ => false
  | .retryCalling _, .raised _ => operation.kind != .clientMethods
  | _, _ => true

def keepsHeld (name : Text) (rows : List Route) : Prop :=
  ∀ operation ∈ s.operations, ∀ route ∈ operation.holds,
    ¬RouteCache.gone name rows route.stripped

def knowsNothing (name : Text) : Prop :=
  ∀ key : Route, key.serviceName = name →
    s.cache.localState key = none ∧ s.cache.localInflight key = 0

def Exact (settings : CacheSettings) (s : ReservationSystem) :
    ReservationLabel → Prop
  | .event place event _ =>
    ∀ operation ∈ s.operations[place]?, endsOnce operation event = true
  | .refresh name _ (some rows) => s.keepsHeld (strip name) rows
  | .refresh name _ none =>
    settings.kind = .discovery ∨ s.knowsNothing (strip name)
  | _ => True

instance (name : Text) (rows : List Route) : Decidable (s.keepsHeld name rows) :=
  inferInstanceAs (Decidable (∀ operation ∈ _, ∀ route ∈ _, ¬_))

end ReservationSystem

end PycloudParallel.ServiceRoutes
