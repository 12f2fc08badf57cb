import PycloudParallel.FoundationGuardedRun
import PycloudParallel.ServiceBreakers
import Mathlib.Data.Finset.Card
import Mathlib.Data.Finset.Image

/-!
# Calls on a connected service handle

`call_balanced`, `acall_balanced` and `acall_all` of a handle that selects
routes from its route cache.  The routes are those of a fixed set of ready
replicas whose endpoints do not conflict.  Which of the candidates a strategy
selects, and whether it asks the breaker again, is left open.
-/

namespace PycloudParallel.ServiceCalls

open CallFailover

variable {ρ ι κ β : Type} [DecidableEq ρ] [DecidableEq ι] [DecidableEq κ]

structure ConnectedSettings where
  openSec : ℚ
  routeLimit : ℕ
  lower : Text → Text
  repr : CallError → Text
  dependencyMode : DependencyPolicyMode
  noRoute : Text

def ConnectedSettings.breaker (settings : ConnectedSettings) :
    BreakerSettings :=
  ⟨1, settings.openSec, settings.openSec⟩

/-- What comes of sending a call along a route: a result, an exception of the
user function, any other `DiscoveryCallError`, or another exception before the
request or behind the reply. -/
inductive RouteReply (β : Type)
  | result (value : β)
  | raised (error : UserException)
  | refused (failure : CallError)
  | broken (message : Text)

/-- Where a call is.  Behind a failed reply the node may be put on the
blacklist, and behind that the breaker may count. -/
inductive ConnectedPhase (ρ β : Type)
  | selecting
  | sent (route : ρ)
  | answered (route : ρ) (value : β)
  | failing (route : ρ) (failure : CallError)
  | marking (route : ρ) (message : Text)
  | returned (route : ρ) (value : β)
  | raised (message : Text)

/-- A call, or with `leg` the part of `acall_all` for one route.  `looks` are
the turns left to `_select_route`. -/
structure ConnectedCall (ρ β : Type) where
  method : Text
  leg : Bool
  attemptLimit : ℕ
  attempts : ℕ
  looks : ℕ
  tried : List ρ
  lastError : Option Text
  asked : List (ρ × RouteReply β)
  phase : ConnectedPhase ρ β

/-- The handle with its route cache, the sessions behind the routes, what the
registry knows of them, and the calls. -/
structure ConnectedSystem (ρ ι κ β : Type) where
  routes : List ρ
  nodeOf : ρ → ι
  breakers : ρ → Option CandidateBreakerState
  methodBlacklist : Text → Finset ι
  snapshotFailures : ρ → Finset Text
  reportedFailures : ρ → Finset Text
  sessions : ρ → ServiceSession
  calls : κ → Option (ConnectedCall ρ β)

/-- The turns of the loop in `_select_route`. -/
def maxRouteAttempts (settings : ConnectedSettings)
    (attemptLimit attempts : ℕ) : ℕ :=
  max 1 (if attemptLimit = 0 then settings.routeLimit
    else attemptLimit - attempts)

namespace ConnectedSystem

variable (settings : ConnectedSettings) (s : ConnectedSystem ρ ι κ β)

def setCall (id : κ) (call : ConnectedCall ρ β) : ConnectedSystem ρ ι κ β :=
  { s with calls := Function.update s.calls id (some call) }

def setBreaker (route : ρ) (breaker : CandidateBreakerState) :
    ConnectedSystem ρ ι κ β :=
  { s with breakers := Function.update s.breakers route (some breaker) }

/-- `CandidateBreakerState()` where the cache has none yet. -/
def breakerOf (route : ρ) : CandidateBreakerState :=
  (s.breakers route).getD .fresh

/-- `refresh_for_method` without the excluded routes. -/
def methodRoutes (call : ConnectedCall ρ β) : List ρ :=
  s.routes.filter fun route =>
    route ∉ call.tried ∧
      (strip call.method = [] ∨
        strip call.method ∉ s.snapshotFailures route)

def routeAvailable (now : ℚ) (route : ρ) : Bool :=
  match s.breakers route with
  | none => true
  | some breaker => (breaker.candidateAllowed now).2

def candidates (call : ConnectedCall ρ β) (now : ℚ) : List ρ :=
  (s.methodRoutes call).filter fun route => s.routeAvailable now route

def askBreakers (call : ConnectedCall ρ β) (now : ℚ) :
    ConnectedSystem ρ ι κ β :=
  { s with breakers := fun route =>
      if route ∈ s.methodRoutes call then
        (s.breakers route).map fun breaker => (breaker.candidateAllowed now).1
      else s.breakers route }

/-- `_before_probe_locked`, which some strategies skip. -/
def probeRoute (probes : Bool) (route : ρ) (now : ℚ) :
    ConnectedSystem ρ ι κ β :=
  if probes = true then
    s.setBreaker route ((s.breakerOf route).beforeProbe now).1
  else s

def recordReply (route : ρ) (method : Text) : RouteReply β →
    ConnectedSystem ρ ι κ β
  | .raised error =>
    let report := workerReport settings.lower settings.dependencyMode error
    let session := (invokeFailure (s.sessions route) method report).2
    { s with sessions := Function.update s.sessions route session }
  | _ => s

def answerOf (error : UserException) : CallError :=
  raisedAnswer settings.lower settings.dependencyMode error

def discoveryCallError (failure : CallError) : UserException where
  raised := {
    className := "DiscoveryCallError".toList
    message := failure.str
    representation := settings.repr failure
    isImportError := false
    isInstallFailure := false
    isLargeResultError := false
    isObjectResolutionError := false
    missingModule := []
    urlReason := none }
  causes := []

def failureKind (failure : CallError) : FailureKind :=
  classifyServiceError settings.lower failure
    (isRouteFailure settings.lower failure)

def marksLeg : FailureKind → Bool
  | .routeUnavailable | .stagingFailed | .controlplaneUnavailable => true
  | .remoteInfraFailed | .remoteUserFailed => false

def replied (call : ConnectedCall ρ β) (route : ρ) :
    RouteReply β → ConnectedPhase ρ β
  | .result value => .answered route value
  | .raised error => .failing route (answerOf settings error)
  | .refused failure => .failing route failure
  | .broken message =>
    if call.leg = true ∧
        marksLeg (kindOfText (settings.lower (strip message))) = false then
      .raised message
    else .marking route message

def judged (call : ConnectedCall ρ β) (route : ρ) (failure : CallError) :
    ConnectedPhase ρ β :=
  let marks :=
    if call.leg = true then marksLeg (failureKind settings failure)
    else shouldFailover (failureKind settings failure) true
  if marks = true then .marking route failure.str else .raised failure.str

end ConnectedSystem

/-- The moves: a call starts, a leg of `acall_all` starts, a call gives up at
its limit, selects a route or finds none, gets a reply and works on it; a
heartbeat reports the failures of a node, and a refresh fetches them. -/
inductive ConnectedLabel (ρ κ β : Type)
  | startBalanced (id : κ) (method : Text) (maxAttempts : ℕ)
  | startLeg (id : κ) (method : Text) (route : ρ) (probes : Bool) (now : ℚ)
  | limit (id : κ)
  | select (id : κ) (route : ρ) (probes : Bool) (now : ℚ)
  | selectNone (id : κ) (now : ℚ)
  | reply (id : κ) (reply : RouteReply β)
  | accept (id : κ)
  | judge (id : κ)
  | mark (id : κ) (now : ℚ)
  | heartbeat (route : ρ)
  | refresh

namespace ConnectedSystem

variable (settings : ConnectedSettings) (s : ConnectedSystem ρ ι κ β)

def startCall (id : κ) (call : ConnectedCall ρ β) :
    Option (ConnectedSystem ρ ι κ β) :=
  match s.calls id with
  | none => some (s.setCall id call)
  | some _ => none

/-- `attempt_limit and attempt_count >= attempt_limit`. -/
def limitReached (call : ConnectedCall ρ β) : Prop :=
  call.attemptLimit ≠ 0 ∧ call.attemptLimit ≤ call.attempts

instance (call : ConnectedCall ρ β) : Decidable (limitReached call) :=
  inferInstanceAs (Decidable (_ ∧ _))

def limitText (call : ConnectedCall ρ β) : Text :=
  ("call failed after " ++ toString call.attempts ++
    " attempt(s): ").toList ++ call.lastError.getD "None".toList

def limitStep (id : κ) (call : ConnectedCall ρ β) :
    Option (ConnectedSystem ρ ι κ β) :=
  match call.phase with
  | .selecting =>
    if limitReached call then
      some (s.setCall id { call with phase := .raised (limitText call) })
    else none
  | _ => none

def selectStep (id : κ) (call : ConnectedCall ρ β) (route : ρ)
    (probes : Bool) (now : ℚ) : Option (ConnectedSystem ρ ι κ β) :=
  match call.phase with
  | .selecting =>
    if ¬limitReached call ∧ 0 < call.looks ∧
        route ∈ s.candidates call now then
      let asked := (s.askBreakers call now).probeRoute probes route now
      if s.nodeOf route ∈ s.methodBlacklist (strip call.method) then
        some (asked.setCall id { call with
          looks := call.looks - 1
          tried := route :: call.tried })
      else
        some (asked.setCall id { call with
          attempts := call.attempts + 1
          tried := route :: call.tried
          phase := .sent route })
    else none
  | _ => none

def selectNoneStep (id : κ) (call : ConnectedCall ρ β) (now : ℚ) :
    Option (ConnectedSystem ρ ι κ β) :=
  match call.phase with
  | .selecting =>
    if ¬limitReached call ∧
        (call.looks = 0 ∨ s.candidates call now = []) then
      some ((s.askBreakers call now).setCall id
        { call with phase := .raised (call.lastError.getD settings.noRoute) })
    else none
  | _ => none

def replyStep (id : κ) (call : ConnectedCall ρ β) (reply : RouteReply β) :
    Option (ConnectedSystem ρ ι κ β) :=
  match call.phase with
  | .sent route =>
    some ((s.recordReply settings route call.method reply).setCall id
      { call with
        asked := call.asked ++ [(route, reply)]
        phase := replied settings call route reply })
  | _ => none

/-- `mark_success`. -/
def acceptStep (id : κ) (call : ConnectedCall ρ β) :
    Option (ConnectedSystem ρ ι κ β) :=
  match call.phase with
  | .answered route value =>
    let closed := (s.breakers route).map CandidateBreakerState.markSuccess
    let marked := { s with
      breakers := Function.update s.breakers route closed }
    some (marked.setCall id { call with phase := .returned route value })
  | _ => none

/-- The branch for a `DiscoveryCallError`; a leg keeps no blacklist. -/
def judgeStep (id : κ) (call : ConnectedCall ρ β) :
    Option (ConnectedSystem ρ ι κ β) :=
  match call.phase with
  | .failing route failure =>
    let blacklist := insert (s.nodeOf route)
      (s.methodBlacklist (strip call.method))
    let noted :=
      if call.leg = false ∧ isDependencyRuntimeError settings.lower
          (discoveryCallError settings failure) = true then
        { s with methodBlacklist :=
            Function.update s.methodBlacklist (strip call.method) blacklist }
      else s
    some (noted.setCall id { call with
      lastError := some failure.str
      phase := judged settings call route failure })
  | _ => none

/-- `mark_failure`; a call then goes on to the next route. -/
def markStep (id : κ) (call : ConnectedCall ρ β) (now : ℚ) :
    Option (ConnectedSystem ρ ι κ β) :=
  match call.phase with
  | .marking route message =>
    some ((s.setBreaker route
        ((s.breakerOf route).markFailure settings.breaker now)).setCall id
      { call with
        lastError := some message
        looks := maxRouteAttempts settings call.attemptLimit call.attempts
        phase := if call.leg = true then .raised message else .selecting })
  | _ => none

def recordedMethods (route : ρ) : Finset Text :=
  (s.sessions route).methodFailures.keys.toFinset

def step : ConnectedLabel ρ κ β → Option (ConnectedSystem ρ ι κ β)
  | .startBalanced id method maxAttempts =>
    if s.routes = [] then none
    else
      s.startCall id {
        method := method
        leg := false
        attemptLimit := maxAttempts
        attempts := 0
        looks := maxRouteAttempts settings maxAttempts 0
        tried := []
        lastError := none
        asked := []
        phase := .selecting }
  | .startLeg id method route probes now =>
    let call := {
      method := method
      leg := true
      attemptLimit := 0
      attempts := 0
      looks := 0
      tried := []
      lastError := none
      asked := []
      phase := .sent route }
    if route ∈ s.candidates call now ∧
        s.nodeOf route ∉ s.methodBlacklist (strip method) then
      ((s.askBreakers call now).probeRoute probes route now).startCall id call
    else none
  | .limit id => (s.calls id).bind fun call => s.limitStep id call
  | .select id route probes now =>
    (s.calls id).bind fun call => s.selectStep id call route probes now
  | .selectNone id now =>
    (s.calls id).bind fun call => s.selectNoneStep settings id call now
  | .reply id reply =>
    (s.calls id).bind fun call => s.replyStep settings id call reply
  | .accept id => (s.calls id).bind fun call => s.acceptStep id call
  | .judge id => (s.calls id).bind fun call => s.judgeStep settings id call
  | .mark id now =>
    (s.calls id).bind fun call => s.markStep settings id call now
  | .heartbeat route =>
    some { s with reportedFailures :=
      Function.update s.reportedFailures route (s.recordedMethods route) }
  | .refresh => some { s with snapshotFailures := s.reportedFailures }

def initial (routes : List ρ) (nodeOf : ρ → ι) : ConnectedSystem ρ ι κ β where
  routes := routes
  nodeOf := nodeOf
  breakers _ := none
  methodBlacklist _ := ∅
  snapshotFailures _ := ∅
  reportedFailures _ := ∅
  sessions _ := ⟨∅, false⟩
  calls _ := none

end ConnectedSystem

end PycloudParallel.ServiceCalls
