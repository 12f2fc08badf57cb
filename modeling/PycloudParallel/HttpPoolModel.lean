import PycloudParallel.FoundationGuardedRun
import PycloudParallel.FoundationOrderedDict
import PycloudParallel.FoundationParties
import PycloudParallel.FoundationTexts
import Mathlib.Algebra.Order.Field.Rat

/-!
# The HTTP connection pool

`HttpConnectionPool`: its origins with their counts and idle connections, and
the requests that go through `_acquire`, the exchange with the server and
`_release`.  What runs under the lock is one step.

`Condition.wait` puts a request among the blocked ones; a `notify` or the
timeout makes it a woken one, which takes the lock again later.
-/

namespace PycloudParallel.HttpPool

structure PoolSettings where
  maxConnections : ℤ
  maxIdle : ℤ
  idleTtl : ℚ
  connections_pos : 0 < maxConnections
  idle_nonneg : 0 ≤ maxIdle

def PoolSettings.make (maxConnections maxIdle : ℤ) (idleTtl : ℚ) :
    Option PoolSettings :=
  if hconnections : maxConnections ≤ 0 then none
  else if hidle : maxIdle < 0 then none
  else some {
    maxConnections := maxConnections
    maxIdle := min maxConnections maxIdle
    idleTtl := max (1 / 10) idleTtl
    connections_pos := not_le.mp hconnections
    idle_nonneg := le_min (not_le.mp hconnections).le (not_lt.mp hidle) }

structure Connection (ω : Type) where
  origin : ω
  number : ℕ
deriving DecidableEq

/-- `_OriginState`; the oldest idle connection is the first. -/
structure OriginState (ω : Type) where
  connectionCount : ℤ
  idle : List (Connection ω × ℚ)

def OriginState.fresh {ω : Type} : OriginState ω := ⟨0, []⟩

/-! ## Requests -/

/-- The arguments of `request` behind `_origin`. -/
structure HttpCall (ω : Type) where
  origin : ω
  method : String
  timeoutSec : ℚ
  maxResponseBytes : Option ℤ
  retryConnectionError : Option Bool

structure Response where
  status : ℤ
  willClose : Bool
  connectionHeader : String
  bodyLength : ℕ

/-- What comes of an exchange: a response, an `OSError` or `HTTPException`, or
another exception. -/
inductive Exchange
  | returned (response : Response)
  | connectionError
  | broken

section Calls

variable {ω : Type} (casing : Texts.Casing) (call : HttpCall ω)

def HttpCall.timeout : ℚ := max (1 / 10) call.timeoutSec

def HttpCall.retryAllowed : Bool :=
  match call.retryConnectionError with
  | none => casing.upper call.method ∈ ["GET", "HEAD", "OPTIONS"]
  | some retry => retry

def HttpCall.attempts : ℕ := if call.retryAllowed casing then 2 else 1

def HttpCall.reusable : Exchange → Bool
  | .returned response =>
    (match call.maxResponseBytes with
      | none => true
      | some limit => response.bodyLength ≤ limit) &&
    decide (response.status < 400) && !response.willClose &&
    decide (casing.lower response.connectionHeader ≠ "close")
  | _ => false

def HttpCall.again (attempt : ℕ) : Exchange → Bool
  | .connectionError => attempt + 1 < call.attempts casing
  | _ => false

end Calls

/-- Where a request is.  `_acquire` runs from `calling` to `acquired`, where the
stale connections are still to be closed; behind `_release` its connection may
have to be closed. -/
inductive Phase (ω : Type)
  | calling
  | acquiring (deadline : ℚ)
  | blocked (deadline : ℚ) (stale : List (Connection ω))
  | woken (deadline : ℚ) (stale : List (Connection ω))
  | acquired (connection : Connection ω) (stale : List (Connection ω))
  | exchanging (connection : Connection ω)
  | closing (connection : Connection ω) (again : Bool)
  | ended

structure Request (ω : Type) where
  call : HttpCall ω
  attempt : ℕ
  phase : Phase ω

def Request.start {ω : Type} (call : HttpCall ω) : Request ω :=
  ⟨call, 0, .calling⟩

namespace Request

variable {ω : Type} (request : Request ω)

def origin : ω := request.call.origin

def requireFresh : Bool := 0 < request.attempt

def isBlocked : Bool :=
  match request.phase with
  | .blocked _ _ => true
  | _ => false

def isWoken : Bool :=
  match request.phase with
  | .woken _ _ => true
  | _ => false

def wake : Request ω :=
  match request.phase with
  | .blocked deadline stale => { request with phase := .woken deadline stale }
  | _ => request

def inUse : Option (Connection ω) :=
  match request.phase with
  | .acquired connection _ | .exchanging connection => some connection
  | _ => none

def held : List (Connection ω) :=
  match request.phase with
  | .blocked _ stale | .woken _ stale => stale
  | .acquired connection stale => connection :: stale
  | .exchanging connection | .closing connection _ => [connection]
  | _ => []

def next (again : Bool) : Request ω :=
  if again then { request with attempt := request.attempt + 1, phase := .calling }
  else { request with phase := .ended }

end Request

/-! ## The pool -/

structure Pool (ω : Type) [DecidableEq ω] where
  isClosed : Bool
  origins : OrderedDict ω (OriginState ω)
  requests : List (Request ω)
  /-- The connections that `close` has still to close. -/
  leaving : List (Connection ω)
  closed : List (Connection ω)
  /-- How many connections were made to an origin. -/
  opened : ω → ℕ

inductive Label (ω : Type)
  | start (call : HttpCall ω)
  | enter (place : ℕ) (now : ℚ)
  | acquire (place : ℕ) (now : ℚ) (constructorRaises : Bool)
  | timeOut (place : ℕ)
  | discard (place : ℕ)
  | release (place : ℕ) (now : ℚ) (exchange : Exchange) (wakes : Option ℕ)
  | closeReleased (place : ℕ)
  | close
  | closeIdle

variable {ω : Type} [DecidableEq ω]

def Pool.empty : Pool ω := ⟨false, ∅, [], [], [], fun _ => 0⟩

section Origins

variable (settings : PoolSettings) (now : ℚ)

def isStale (entry : Connection ω × ℚ) : Bool :=
  settings.idleTtl ≤ now - entry.2

/-- The first loop of `_acquire`, with the connections it takes out. -/
def expire (state : OriginState ω) : OriginState ω × List (Connection ω) :=
  let stale := state.idle.takeWhile (isStale settings now)
  (⟨state.connectionCount - stale.length,
    state.idle.dropWhile (isStale settings now)⟩, stale.map Prod.fst)

/-- With `require_fresh` one more. -/
def dropOne (state : OriginState ω) : OriginState ω × List (Connection ω) :=
  match state.idle with
  | [] => (state, [])
  | entry :: rest => (⟨state.connectionCount - 1, rest⟩, [entry.1])

def refresh (requireFresh : Bool) (state : OriginState ω) :
    OriginState ω × List (Connection ω) :=
  let expired := expire settings now state
  if requireFresh then
    let dropped := dropOne expired.1
    (dropped.1, expired.2 ++ dropped.2)
  else expired

end Origins

namespace Pool

variable (settings : PoolSettings) (casing : Texts.Casing) (s : Pool ω)

def setRequest (place : ℕ) (request : Request ω) : Pool ω :=
  { s with requests := s.requests.set place request }

def setOrigin (origin : ω) (state : OriginState ω) : Pool ω :=
  { s with origins := s.origins.set origin state }

/-- What the lock covers in `_acquire`, on the state of the origin whose stale
connections are taken out. -/
def takeStep (place : ℕ) (request : Request ω) (deadline now : ℚ)
    (constructorRaises : Bool) (stale : List (Connection ω))
    (state : OriginState ω) : Pool ω :=
  match state.idle.getLast?, request.requireFresh with
  | some entry, false =>
    (s.setOrigin request.origin
      { state with idle := state.idle.dropLast }).setRequest place
        { request with phase := .acquired entry.1 stale }
  | _, _ =>
    if state.connectionCount < settings.maxConnections then
      let counted := s.setOrigin request.origin
        { state with connectionCount := state.connectionCount + 1 }
      -- an exception of the constructor leaves the count as it is now
      if constructorRaises then
        counted.setRequest place { request with phase := .ended }
      else
        let connection : Connection ω :=
          ⟨request.origin, s.opened request.origin⟩
        let opened := Function.update s.opened request.origin
          (s.opened request.origin + 1)
        ({ counted with opened := opened }).setRequest place
          { request with phase := .acquired connection stale }
    else if deadline - now ≤ 0 then
      (s.setOrigin request.origin state).setRequest place
        { request with phase := .ended }
    else
      (s.setOrigin request.origin state).setRequest place
        { request with phase := .blocked deadline stale }

/-- One turn of the loop in `_acquire`. -/
def lockedStep (place : ℕ) (request : Request ω) (deadline now : ℚ)
    (constructorRaises : Bool) (stale : List (Connection ω)) : Pool ω :=
  if s.isClosed then s.setRequest place { request with phase := .ended }
  else
    let refreshed := refresh settings now request.requireFresh
      ((s.origins.lookup request.origin).getD .fresh)
    s.takeStep settings place request deadline now constructorRaises
      (stale ++ refreshed.2) refreshed.1

def acquireStep (place : ℕ) (now : ℚ) (constructorRaises : Bool) :
    Option (Pool ω) :=
  (s.requests[place]?).bind fun request =>
    match request.phase with
    | .acquiring deadline =>
      some (s.lockedStep settings place request deadline now constructorRaises
        [])
    | .woken deadline stale =>
      some (s.lockedStep settings place request deadline now constructorRaises
        stale)
    | _ => none

def notify (wakes : Option ℕ) : Option (Pool ω) :=
  if s.requests.any Request.isBlocked then
    wakes.bind fun place =>
      (s.requests[place]?).bind fun request =>
        if request.isBlocked then some (s.setRequest place request.wake)
        else none
  else if wakes.isNone then some s
  else none

/-- `_origins.pop` of an origin without connections. -/
def popUnused (origin : ω) (state : OriginState ω) : Pool ω :=
  if state.connectionCount ≤ 0 ∧ state.idle = [] then
    { s with origins := s.origins.erase origin }
  else s.setOrigin origin state

/-- What the lock covers in `_release` before the `notify`, and whether the
connection is to be closed. -/
def putBack (origin : ω) (connection : Connection ω) (reusable : Bool)
    (now : ℚ) : Pool ω × Bool :=
  match s.origins.lookup origin with
  | none => (s, true)
  | some state =>
    if s.isClosed || !reusable then
      (s.popUnused origin
        { state with connectionCount := state.connectionCount - 1 }, !reusable)
    else if (state.idle.length : ℤ) < settings.maxIdle then
      (s.setOrigin origin
        { state with idle := state.idle ++ [(connection, now)] }, false)
    else
      (s.popUnused origin
        { state with connectionCount := state.connectionCount - 1 }, true)

def releaseStep (place : ℕ) (now : ℚ) (exchange : Exchange)
    (wakes : Option ℕ) : Option (Pool ω) :=
  (s.requests[place]?).bind fun request =>
    match request.phase with
    | .exchanging connection =>
      let again := request.call.again casing request.attempt exchange
      let back := s.putBack settings request.origin connection
        (request.call.reusable casing exchange) now
      (back.1.setRequest place
        (if back.2 then { request with phase := .closing connection again }
          else request.next again)).notify wakes
    | _ => none

def closeStep : Pool ω :=
  if s.isClosed then s
  else
    { s with
      isClosed := true
      origins := ∅
      leaving := s.leaving ++
        s.origins.values.flatMap fun state => state.idle.map Prod.fst
      requests := s.requests.map Request.wake }

def step : Label ω → Option (Pool ω)
  | .start call => some { s with requests := s.requests ++ [.start call] }
  | .enter place now =>
    (s.requests[place]?).bind fun request =>
      match request.phase with
      | .calling => some (s.setRequest place
          { request with phase := .acquiring (now + request.call.timeout) })
      | _ => none
  | .acquire place now constructorRaises =>
    s.acquireStep settings place now constructorRaises
  | .timeOut place =>
    (s.requests[place]?).bind fun request =>
      if request.isBlocked then some (s.setRequest place request.wake) else none
  | .discard place =>
    (s.requests[place]?).bind fun request =>
      match request.phase with
      | .acquired connection (first :: rest) =>
        some (({ s with closed := first :: s.closed }).setRequest place
          { request with phase := .acquired connection rest })
      | .acquired connection [] =>
        some (s.setRequest place { request with phase := .exchanging connection })
      | _ => none
  | .release place now exchange wakes =>
    s.releaseStep settings casing place now exchange wakes
  | .closeReleased place =>
    (s.requests[place]?).bind fun request =>
      match request.phase with
      | .closing connection again =>
        some (({ s with closed := connection :: s.closed }).setRequest place
          (request.next again))
      | _ => none
  | .close => some s.closeStep
  | .closeIdle =>
    match s.leaving with
    | [] => none
    | first :: rest =>
      some { s with leaving := rest, closed := first :: s.closed }

end Pool

end PycloudParallel.HttpPool
