import PycloudParallel.FoundationGuardedRun
import PycloudParallel.ServiceBreakers
import Mathlib.Data.Finset.Card
import Mathlib.Data.Finset.Image

/-!
# Calls on an owner's service handle

`call_balanced`, `acall_balanced` and `acall_all` over a fixed set of replicas.
Any number of calls are under way at once; a step is one section of one call, a
reply of a node or a heartbeat.  Which of the candidates a strategy selects is
left open.
-/

namespace PycloudParallel.ServiceCalls

open CallFailover

variable {ι κ β : Type} [DecidableEq ι] [DecidableEq κ]

/-- The breaker settings, the texts of exceptions and the methods that the
service exports. -/
structure OwnerSettings where
  breaker : BreakerSettings
  lower : Text → Text
  repr : Text → Text
  dependencyMode : DependencyPolicyMode
  exportedMethods : List Text

/-- What comes of sending a call to a replica: a result, an exception of the
user function, or any other exception on the way there or back. -/
inductive ReplicaOutcome (β : Type)
  | result (value : β)
  | raised (error : UserException)
  | broken (error : UserException)

/-- Where a call is.  Behind a failed reply its node is put on the blacklist,
the breaker counts, and then it is judged whether another node is tried. -/
inductive OwnerPhase (ι β : Type)
  | selecting
  | selected (node : ι)
  | sent (node : ι)
  | answered (node : ι) (value : β)
  | failing (node : ι) (error : UserException)
  | counting (node : ι) (error : UserException)
  | judging (node : ι) (error : UserException)
  | returned (node : ι) (value : β)
  | raised (message : Text)

/-- A call, or with `leg` the part of `acall_all` for one replica.  `asked`
remembers the replicas that got the call, with what came of it. -/
structure OwnerCall (ι β : Type) where
  method : Text
  leg : Bool
  tries : ℕ
  excluded : List ι
  lastError : Text
  asked : List (ι × ReplicaOutcome β)
  phase : OwnerPhase ι β

structure OwnerSystem (ι κ β : Type) where
  sessions : List ι
  active : Finset ι
  breakers : ι → CandidateBreakerState
  methodBlacklist : Text → Finset ι
  failureMethods : ι → Finset Text
  ownerBlacklist : Finset ι
  nodes : ι → ServiceSession
  calls : κ → Option (OwnerCall ι β)

namespace OwnerSystem

variable (settings : OwnerSettings) (s : OwnerSystem ι κ β)

def setCall (id : κ) (call : OwnerCall ι β) : OwnerSystem ι κ β :=
  { s with calls := Function.update s.calls id (some call) }

def setBreaker (node : ι) (breaker : CandidateBreakerState) :
    OwnerSystem ι κ β :=
  { s with breakers := Function.update s.breakers node breaker }

/-- The nodes that `_select_node` looks at. -/
def eligible (call : OwnerCall ι β) : List ι :=
  s.sessions.filter fun node =>
    node ∉ call.excluded ∧ node ∉ s.methodBlacklist (strip call.method) ∧
      node ∈ s.active

def candidates (call : OwnerCall ι β) (now : ℚ) : List ι :=
  (s.eligible call).filter fun node =>
    ((s.breakers node).candidateAllowed now).2

def askBreakers (call : OwnerCall ι β) (now : ℚ) : OwnerSystem ι κ β :=
  { s with breakers := fun node =>
      if node ∈ s.eligible call then
        ((s.breakers node).candidateAllowed now).1
      else s.breakers node }

def blacklistInstance (node : ι) : OwnerSystem ι κ β :=
  { s with
    ownerBlacklist := insert node s.ownerBlacklist
    active := s.active.erase node }

def maybeBlacklistInstance (node : ι) : OwnerSystem ι κ β :=
  let failed := (s.failureMethods node).card
  let total := (settings.exportedMethods.filter fun method =>
    strip method ≠ []).length
  if 2 < failed ∨ (0 < total ∧ 3 * total < 10 * failed) then
    s.blacklistInstance node
  else s

/-- `_mark_method_node_blacklisted` and `_on_replica_method_failures_reported`
for methods that are not blank. -/
def blacklistMethods (node : ι) (methods : Finset Text) :
    OwnerSystem ι κ β :=
  if methods = ∅ then s
  else
    maybeBlacklistInstance settings { s with
      methodBlacklist := fun method =>
        if method ∈ methods then insert node (s.methodBlacklist method)
        else s.methodBlacklist method
      failureMethods := Function.update s.failureMethods node
        (s.failureMethods node ∪ methods) } node

/-- The exception of `ServiceSessionClient.call` for an answer with an error. -/
def sessionCallError (failure : CallError) : UserException where
  raised := runtimeError settings.repr
    ("call failed: ".toList ++ failure.errorText)
  causes := [runtimeError settings.repr failure.errorText]

/-- `classify_service_error` of an exception without data. -/
def failureKind (error : UserException) : FailureKind :=
  kindOfText (settings.lower (strip error.raised.message))

def recordOutcome (node : ι) (method : Text) : ReplicaOutcome β →
    OwnerSystem ι κ β
  | .raised error =>
    let report := workerReport settings.lower settings.dependencyMode error
    let session := (invokeFailure (s.nodes node) method report).2
    { s with nodes := Function.update s.nodes node session }
  | _ => s

def untrustedReplica : Text := "service replica response ignored".toList

def replied (call : OwnerCall ι β) (node : ι)
    (outcome : ReplicaOutcome β) : OwnerPhase ι β :=
  match outcome with
  | .result value =>
    if call.leg = true ∨ node ∈ s.active then .answered node value
    else .failing node ⟨runtimeError settings.repr untrustedReplica, []⟩
  | .raised error =>
    let exception := sessionCallError settings
      (raisedAnswer settings.lower settings.dependencyMode error)
    if call.leg = true then .counting node exception
    else .failing node exception
  | .broken error =>
    if call.leg = true then .counting node error else .failing node error

end OwnerSystem

/-- The moves: a call starts, a leg of `acall_all` starts, a call selects a
node or finds none, gives up, asks the breaker, gets a reply and works on it; a
heartbeat reports the failures of a node. -/
inductive OwnerLabel (ι κ β : Type)
  | startBalanced (id : κ) (method : Text) (maxAttempts : ℕ)
  | startLeg (id : κ) (method : Text) (node : ι)
  | select (id : κ) (node : ι) (now : ℚ)
  | selectNone (id : κ) (now : ℚ)
  | exhaust (id : κ)
  | invoke (id : κ) (now : ℚ)
  | reply (id : κ) (outcome : ReplicaOutcome β)
  | accept (id : κ)
  | blacklist (id : κ)
  | count (id : κ) (now : ℚ)
  | judge (id : κ)
  | heartbeat (node : ι)

namespace OwnerSystem

variable (settings : OwnerSettings) (s : OwnerSystem ι κ β)

def startCall (id : κ) (call : OwnerCall ι β) : Option (OwnerSystem ι κ β) :=
  match s.calls id with
  | none => some (s.setCall id call)
  | some _ => none

def selectStep (id : κ) (call : OwnerCall ι β) (node : ι) (now : ℚ) :
    Option (OwnerSystem ι κ β) :=
  match call.phase with
  | .selecting =>
    if 0 < call.tries ∧ node ∈ s.candidates call now then
      some ((s.askBreakers call now).setCall id { call with
        tries := call.tries - 1
        excluded := node :: call.excluded
        phase := .selected node })
    else none
  | _ => none

def noNodeText : Text := "no available service node".toList

def selectNoneStep (id : κ) (call : OwnerCall ι β) (now : ℚ) :
    Option (OwnerSystem ι κ β) :=
  match call.phase with
  | .selecting =>
    if 0 < call.tries ∧ s.candidates call now = [] then
      some ((s.askBreakers call now).setCall id
        { call with phase := .raised noNodeText })
    else none
  | _ => none

def exhaustStep (id : κ) (call : OwnerCall ι β) :
    Option (OwnerSystem ι κ β) :=
  match call.phase with
  | .selecting =>
    if call.tries = 0 then
      let message :=
        "call failed on all candidate nodes: ".toList ++ call.lastError
      some (s.setCall id { call with phase := .raised message })
    else none
  | _ => none

/-- `_breaker_before_invoke`; a leg ends where a call goes on to select. -/
def invokeStep (id : κ) (call : OwnerCall ι β) (now : ℚ) :
    Option (OwnerSystem ι κ β) :=
  match call.phase with
  | .selected node =>
    let probed := (s.breakers node).beforeProbe now
    let phase :=
      if probed.2 = true then .sent node
      else if call.leg = true then .raised "circuit breaker open".toList
      else .selecting
    some ((s.setBreaker node probed.1).setCall id { call with phase := phase })
  | _ => none

def replyStep (id : κ) (call : OwnerCall ι β) (outcome : ReplicaOutcome β) :
    Option (OwnerSystem ι κ β) :=
  match call.phase with
  | .sent node =>
    some ((s.recordOutcome settings node call.method outcome).setCall id
      { call with
        asked := call.asked ++ [(node, outcome)]
        phase := s.replied settings call node outcome })
  | _ => none

def acceptStep (id : κ) (call : OwnerCall ι β) :
    Option (OwnerSystem ι κ β) :=
  match call.phase with
  | .answered node value =>
    some ((s.setBreaker node (s.breakers node).markSuccess).setCall id
      { call with phase := .returned node value })
  | _ => none

def blacklistStep (id : κ) (call : OwnerCall ι β) :
    Option (OwnerSystem ι κ β) :=
  match call.phase with
  | .failing node error =>
    let methods : Finset Text :=
      if isDependencyRuntimeError settings.lower error = true ∧
          strip call.method ≠ [] then {strip call.method}
      else ∅
    some ((s.blacklistMethods settings node methods).setCall id
      { call with phase := .counting node error })
  | _ => none

def countStep (id : κ) (call : OwnerCall ι β) (now : ℚ) :
    Option (OwnerSystem ι κ β) :=
  match call.phase with
  | .counting node error =>
    some ((s.setBreaker node
        ((s.breakers node).markFailure settings.breaker now)).setCall id
      { call with phase :=
          if call.leg = true then .raised error.raised.message
          else .judging node error })
  | _ => none

def judgeStep (id : κ) (call : OwnerCall ι β) :
    Option (OwnerSystem ι κ β) :=
  match call.phase with
  | .judging _ error =>
    let goesOn := shouldFailover (failureKind settings error)
      (call.excluded.length < s.sessions.length)
    some (s.setCall id { call with
      lastError := error.raised.message
      phase :=
        if goesOn = true then .selecting else .raised error.raised.message })
  | _ => none

def reportedMethods (node : ι) : Finset Text :=
  ((s.nodes node).methodFailures.keys.filter fun method =>
    strip method ≠ []).toFinset.image strip

def step : OwnerLabel ι κ β → Option (OwnerSystem ι κ β)
  | .startBalanced id method maxAttempts =>
    if s.sessions = [] then none
    else
      s.startCall id {
        method := method
        leg := false
        tries := max 1 (if maxAttempts = 0 then s.sessions.length
          else maxAttempts)
        excluded := []
        lastError := []
        asked := []
        phase := .selecting }
  | .startLeg id method node =>
    if node ∈ s.sessions ∧ node ∈ s.active then
      s.startCall id {
        method := method
        leg := true
        tries := 0
        excluded := [node]
        lastError := []
        asked := []
        phase := .selected node }
    else none
  | .select id node now =>
    (s.calls id).bind fun call => s.selectStep id call node now
  | .selectNone id now =>
    (s.calls id).bind fun call => s.selectNoneStep id call now
  | .exhaust id => (s.calls id).bind fun call => s.exhaustStep id call
  | .invoke id now => (s.calls id).bind fun call => s.invokeStep id call now
  | .reply id outcome =>
    (s.calls id).bind fun call => s.replyStep settings id call outcome
  | .accept id => (s.calls id).bind fun call => s.acceptStep id call
  | .blacklist id =>
    (s.calls id).bind fun call => s.blacklistStep settings id call
  | .count id now =>
    (s.calls id).bind fun call => s.countStep settings id call now
  | .judge id => (s.calls id).bind fun call => s.judgeStep settings id call
  | .heartbeat node =>
    some (s.blacklistMethods settings node (s.reportedMethods node))

def initial (sessions : List ι) : OwnerSystem ι κ β where
  sessions := sessions
  active := sessions.toFinset
  breakers _ := .fresh
  methodBlacklist _ := ∅
  failureMethods _ := ∅
  ownerBlacklist := ∅
  nodes _ := ⟨∅, false⟩
  calls _ := none

end OwnerSystem

end PycloudParallel.ServiceCalls
