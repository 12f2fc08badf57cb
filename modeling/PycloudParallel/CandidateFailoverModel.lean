import PycloudParallel.ServiceBreakers

/-!
# Failover over the candidates of a service

One call of `call_balanced` or `acall_balanced` on an owner's handle, and one of
`call_balanced` on a connected handle that discovers its routes.  The candidates and
what is known of them stay as they are during the call; the call itself puts nodes on
the method's dependency blacklist.
-/

namespace PycloudParallel.CandidateFailover

open CallFailover (Text FailureKind shouldFailover)
open ServiceCalls (CandidateBreakerState)

variable {ι ν β : Type*} [DecidableEq ι] [DecidableEq ν]

/-- An exception of a call: its text, what `classify_service_error` makes of it, and
whether it is a dependency failure. -/
structure CallFailure where
  message : Text
  kind : FailureKind
  dependency : Bool
deriving DecidableEq

inductive CallOutcome (β : Type*)
  | result (value : β)
  | failed (failure : CallFailure)

def CallOutcome.final : CallOutcome β → Bool
  | .result _ => true
  | .failed failure => !shouldFailover failure.kind true

def CallOutcome.dependency : CallOutcome β → Bool
  | .result _ => false
  | .failed failure => failure.dependency

inductive CallEnding (ι β : Type*)
  | returned (candidate : ι) (value : β)
  /-- It raises the error of a call. -/
  | failed (message : Text)
  /-- It raises the selection step's own error. -/
  | notSelected (message : Text)

abbrev CallTape (ι β : Type*) := FailoverTape ι (CallEnding ι β)

def CallOutcome.ending (candidate : ι) : CallOutcome β → CallEnding ι β
  | .result value => .returned candidate value
  | .failed failure => .failed failure.message

structure Strategy (ι : Type*) where
  pick : List ι → List ι → ι
  pick_mem : ∀ taken candidates, candidates ≠ [] → pick taken candidates ∈ candidates

def errorText (lastError : Option Text) : Text :=
  lastError.getD "None".toList

structure OwnerHandle (ι : Type*) where
  sessions : List ι
  nodup : sessions.Nodup
  active : ι → Bool
  breakers : ι → CandidateBreakerState
  /-- By the session's record, or by its status where that is asked for. -/
  ready : ι → Bool
  /-- The text about the method's dependency blacklist. -/
  detail : List ι → Text

namespace OwnerHandle

def noNodeText : Text :=
  ("no available service node (all candidates may be initializing, failed, " ++
    "open-circuit, or dependency-blacklisted)").toList

def initializingText : Text :=
  "service initializing: no ready service replica".toList

def noReplicasText : Text :=
  "Service session has no active replicas".toList

def allFailedText (lastError : Option Text) (detail : Text) : Text :=
  "call failed on all candidate nodes: ".toList ++ errorText lastError ++ detail

variable (handle : OwnerHandle ι) (strategy : Strategy ι) (refreshStatus : Bool)
  (now : ℚ)

def selectNode (blacklist excluded : List ι) : Except Text ι :=
  let allCandidates := handle.sessions.filter fun node =>
    decide (node ∉ excluded) && decide (node ∉ blacklist) && handle.active node
  let candidates := allCandidates.filter fun node =>
    ((handle.breakers node).candidateAllowed now).2 &&
      (refreshStatus || handle.ready node)
  if candidates = [] then .error (noNodeText ++ handle.detail blacklist)
  else
    let readyCandidates :=
      if refreshStatus then candidates.filter handle.ready else candidates
    if readyCandidates = [] then .error initializingText
    else .ok (strategy.pick excluded readyCandidates)

/-- `_breaker_before_invoke` of a node that has just been selected. -/
def breakerBeforeInvoke (node : ι) : Bool :=
  (((handle.breakers node).candidateAllowed now).1.beforeProbe now).2

def callLoop (outcome : ι → CallOutcome β) :
    ℕ → List ι → List ι → Option Text → CallTape ι β
  | 0, _, blacklist, lastError =>
    ⟨[], .failed (allFailedText lastError (handle.detail blacklist))⟩
  | tries + 1, excluded, blacklist, lastError =>
    match handle.selectNode strategy refreshStatus now blacklist excluded with
    | .error message => ⟨[], .notSelected message⟩
    | .ok node =>
      if handle.breakerBeforeInvoke now node = false then
        callLoop outcome tries (node :: excluded) blacklist lastError
      else
        match outcome node with
        | .result value => ⟨[node], .returned node value⟩
        | .failed failure =>
          let marked := if failure.dependency then node :: blacklist else blacklist
          if shouldFailover failure.kind
              (decide ((node :: excluded).length < handle.sessions.length)) then
            (callLoop outcome tries (node :: excluded) marked
              (some failure.message)).precededBy node
          else ⟨[node], .failed failure.message⟩

def callBalanced (outcome : ι → CallOutcome β) (blacklist : List ι)
    (maxAttempts : ℕ) : CallTape ι β :=
  if handle.sessions = [] then ⟨[], .notSelected noReplicasText⟩
  else
    let tries := max 1
      (if maxAttempts = 0 then handle.sessions.length else maxAttempts)
    handle.callLoop strategy refreshStatus now outcome tries [] blacklist none

def acallBalanced (outcome : ι → CallOutcome β) (blacklist : List ι)
    (maxAttempts : ℕ) : CallTape ι β :=
  handle.callBalanced strategy refreshStatus now outcome blacklist maxAttempts

def usable (blacklist : List ι) : List ι :=
  handle.sessions.filter fun node =>
    decide (node ∉ blacklist) && handle.active node &&
      ((handle.breakers node).candidateAllowed now).2 && handle.ready node

end OwnerHandle

/-! ## A connected handle -/

structure ConnectedHandle (ι ν : Type*) where
  routes : List ι
  nodup : routes.Nodup
  nodeOf : ι → ν
  /-- Healthy, running, not drained, with an endpoint of its own, and let through by
  its breaker. -/
  available : ι → Bool
  /-- `route_limit` of the route cache, if there is one. -/
  routeLimit : Option ℕ
  detail : List ν → Text

namespace ConnectedHandle

def noRouteText : Text := "no available route".toList

def limitText (attempts : ℕ) (lastError : Option Text) : Text :=
  ("call failed after " ++ toString attempts ++ " attempt(s): ").toList ++
    errorText lastError

variable (handle : ConnectedHandle ι ν) (strategy : Strategy ι)

def untried (tried : List ι) : List ι :=
  handle.routes.filter fun route =>
    handle.available route && decide (route ∉ tried)

/-- The loop of `_select_route` over the routes of the cache.  A route of a
blacklisted node counts as tried; with the routes tried goes the one selected. -/
def selectCached (blacklist : List ν) : ℕ → List ι → List ι × Except Text ι
  | 0, tried => (tried, .error (noRouteText ++ handle.detail blacklist))
  | turns + 1, tried =>
    if handle.untried tried = [] then (tried, .error noRouteText)
    else
      let selected := strategy.pick tried (handle.untried tried)
      if handle.nodeOf selected ∉ blacklist then (tried, .ok selected)
      else selectCached blacklist turns (selected :: tried)

def selectRoute (attemptLimit attempts : ℕ) (blacklist : List ν) (tried : List ι) :
    List ι × Except Text ι :=
  match handle.routeLimit with
  | some routeLimit =>
    let maxRouteAttempts := max 1
      (if attemptLimit = 0 then routeLimit else attemptLimit - attempts)
    handle.selectCached strategy blacklist maxRouteAttempts tried
  | none =>
    let candidates := (handle.untried tried).filter fun route =>
      handle.nodeOf route ∉ blacklist
    if candidates = [] then (tried, .error noRouteText)
    else (tried, .ok (strategy.pick tried candidates))

/-- The loop of `call_balanced`; each turn but the last tries one route more. -/
def callLoop (outcome : ι → CallOutcome β) (attemptLimit : ℕ) :
    ℕ → ℕ → List ι → List ν → Option Text → CallTape ι β
  | 0, _, _, _, _ => ⟨[], .notSelected []⟩
  | turns + 1, attempts, tried, blacklist, lastError =>
    if attemptLimit ≠ 0 ∧ attemptLimit ≤ attempts then
      ⟨[], .failed (limitText attempts lastError)⟩
    else
      match handle.selectRoute strategy attemptLimit attempts blacklist tried with
      | (_, .error message) =>
        match lastError with
        | some error => ⟨[], .failed error⟩
        | none => ⟨[], .notSelected message⟩
      | (passed, .ok route) =>
        match outcome route with
        | .result value => ⟨[route], .returned route value⟩
        | .failed failure =>
          let marked :=
            if failure.dependency then handle.nodeOf route :: blacklist else blacklist
          if shouldFailover failure.kind true then
            (callLoop outcome attemptLimit turns (attempts + 1) (route :: passed) marked
              (some failure.message)).precededBy route
          else ⟨[route], .failed failure.message⟩

def callBalanced (outcome : ι → CallOutcome β) (blacklist : List ν)
    (maxAttempts : ℕ) : CallTape ι β :=
  handle.callLoop strategy outcome maxAttempts (handle.routes.length + 1) 0 []
    blacklist none

def usable (blacklist : List ν) : List ι :=
  handle.routes.filter fun route =>
    handle.available route && decide (handle.nodeOf route ∉ blacklist)

end ConnectedHandle

/-- At most `limit` of so many candidates, or all of them. -/
def attemptsOf (limit candidates : ℕ) : ℕ :=
  min (if limit = 0 then candidates else limit) candidates

def blacklistAfter (outcome : ι → CallOutcome β) (nodeOf : ι → ν)
    (blacklist : List ν) (called : List ι) : List ν :=
  ((called.filter fun candidate => (outcome candidate).dependency).map nodeOf) ++
    blacklist

/-- Each usable candidate is called once at most, the first result or user error is
returned or raised, and without one as many are called as may be, and the exception
carries the error of the last call.  A candidate whose node a call before has put on
the blacklist is not usable any more. -/
structure FailsOver (outcome : ι → CallOutcome β) (nodeOf : ι → ν)
    (blacklist : List ν) (usable : List ι) (limit : ℕ) (tape : CallTape ι β) :
    Prop where
  once : tape.attempts.Nodup
  onlyUsable : ∀ candidate ∈ tape.attempts, candidate ∈ usable
  stops : ∀ candidate ∈ tape.attempts, (outcome candidate).final = true →
    tape.attempts.getLast? = some candidate ∧
      tape.ending = (outcome candidate).ending candidate
  exhausts : (∀ candidate ∈ tape.attempts, (outcome candidate).final = false) →
    tape.attempts.length = attemptsOf limit (usable.filter fun candidate =>
      decide (candidate ∈ tape.attempts) ||
        decide (nodeOf candidate ∉
          blacklistAfter outcome nodeOf blacklist tape.attempts)).length
  carries : (∀ candidate ∈ tape.attempts, (outcome candidate).final = false) →
    ∀ last ∈ tape.attempts.getLast?, ∃ failure message,
      outcome last = .failed failure ∧ tape.ending = .failed message ∧
        failure.message <:+: message

end PycloudParallel.CandidateFailover
