import PycloudParallel.CallFailoverModel

/-!
# When a user error is final

A user error is final at the gateway as soon as the worker reports it as one.
The discovery client asks more: it gives up only on a text that calls itself a
user error, and on no other.
-/

namespace PycloudParallel.CallFailover

theorem workerReport_failedUser_iff (lower : Text → Text)
    (mode : DependencyPolicyMode) (error : UserException) :
    (workerReport lower mode error).status = .failedUser ↔
      error.raised.isLargeResultError = true ∨
        error.raised.isObjectResolutionError = false ∧
          isDependencyRuntimeError lower error = false := by
  rw [workerReport]
  cases hlarge : error.raised.isLargeResultError with
  | true => simp
  | false =>
    cases hobject : error.raised.isObjectResolutionError with
    | true => simp
    | false =>
      cases hdependency : isDependencyRuntimeError lower error with
      | true | false => simp

def reportedMessage (error : UserException) : Text :=
  if error.raised.isLargeResultError then error.raised.message
  else error.raised.representation

variable {error : UserException}

theorem workerReport_of_failedUser {lower : Text → Text}
    {mode : DependencyPolicyMode}
    (hstatus : (workerReport lower mode error).status = .failedUser) :
    workerReport lower mode error =
      ⟨.failedUser, error.raised.className, reportedMessage error⟩ := by
  have hclauses := (workerReport_failedUser_iff lower mode error).mp hstatus
  rw [workerReport, reportedMessage]
  cases hlarge : error.raised.isLargeResultError with
  | true => rfl
  | false =>
    rw [hlarge] at hclauses
    have hrest := hclauses.resolve_left Bool.false_ne_true
    rw [hrest.1, hrest.2]
    rfl

def answeredMessage (error : UserException) : Text :=
  orElse (reportedMessage error) "user error".toList

def userErrorAnswer (error : UserException) : CallError :=
  ⟨400, some (answeredMessage error),
    orElse error.raised.className "UserError".toList, []⟩

theorem invokeFailure_of_failedUser {lower : Text → Text}
    {mode : DependencyPolicyMode}
    (hstatus : (workerReport lower mode error).status = .failedUser)
    (session : ServiceSession) (method : Text) :
    invokeFailure session method (workerReport lower mode error) =
      (userErrorAnswer error, session) := by
  rw [workerReport_of_failedUser hstatus]
  rfl

theorem raisedAnswer_of_failedUser {lower : Text → Text}
    {mode : DependencyPolicyMode}
    (hstatus : (workerReport lower mode error).status = .failedUser) :
    raisedAnswer lower mode error = userErrorAnswer error := by
  rw [raisedAnswer, invokeFailure_of_failedUser hstatus]

theorem isRouteFailure_userErrorAnswer (lower : Text → Text)
    (error : UserException) :
    isRouteFailure lower (userErrorAnswer error) = false := by
  simp [isRouteFailure, userErrorAnswer]

theorem classifyServiceError_eq_remoteUserFailed_iff (lower : Text → Text)
    (failure : CallError) :
    classifyServiceError lower failure false = .remoteUserFailed ↔
      hasMarker (classifiedText lower failure) dependencyErrorMarkers =
          false ∧
        hasMarker (classifiedText lower failure) userErrorMarkers = true := by
  rw [classifyServiceError]
  cases hasMarker (classifiedText lower failure) dependencyErrorMarkers with
  | true => simp
  | false =>
    cases hasMarker (classifiedText lower failure) userErrorMarkers with
    | true => simp
    | false =>
      cases hasMarker (classifiedText lower failure) infraErrorMarkers with
      | true | false => simp

theorem shouldFailover_eq_false_iff (kind : FailureKind) :
    shouldFailover kind true = false ↔ kind = .remoteUserFailed := by
  cases kind with
  | remoteUserFailed | routeUnavailable | stagingFailed
  | controlplaneUnavailable | remoteInfraFailed => simp [shouldFailover]

theorem shouldFailover_remoteUserFailed (untried : Bool) :
    shouldFailover .remoteUserFailed untried = false := by
  rw [shouldFailover, Bool.and_false]

theorem judgeDiscovery_raised {lower : Text → Text}
    {mode : DependencyPolicyMode}
    (hstatus : (workerReport lower mode error).status = .failedUser)
    (route : Text) (untried : Bool) :
    judgeDiscovery lower mode ⟨route, .raised error, untried⟩ =
      if shouldFailover
          (classifyServiceError lower (userErrorAnswer error) false) untried
      then .another (userErrorAnswer error).str
      else .finish (.raised (userErrorAnswer error).str) := by
  have hturn : judgeDiscovery lower mode ⟨route, .raised error, untried⟩ =
      judgeDiscoveryCallError lower (raisedAnswer lower mode error) untried :=
    rfl
  rw [hturn, raisedAnswer_of_failedUser hstatus, judgeDiscoveryCallError,
    isRouteFailure_userErrorAnswer]

theorem judgeGateway_raised {lower : Text → Text} {mode : DependencyPolicyMode}
    (hstatus : (workerReport lower mode error).status = .failedUser)
    (route : Text) (untried : Bool) :
    judgeGateway lower mode ⟨route, .raised error, untried⟩ =
      .finish (.answered (userErrorAnswer error)) := by
  have hturn : judgeGateway lower mode ⟨route, .raised error, untried⟩ =
      judgeGatewayCallError lower (raisedAnswer lower mode error) :=
    rfl
  rw [hturn, raisedAnswer_of_failedUser hstatus, judgeGatewayCallError,
    gatewayIsRouteFailure_eq, isRouteFailure_userErrorAnswer]
  rfl

theorem answeredMessage_ne_nil (error : UserException) :
    answeredMessage error ≠ [] := by
  rw [answeredMessage, orElse]
  by_cases hempty : reportedMessage error = []
  · rw [if_pos hempty]
    decide +kernel
  · rw [if_neg hempty]
    exact hempty

theorem answeredMessage_infix_str (error : UserException) :
    answeredMessage error <:+: (userErrorAnswer error).str := by
  have hmessage : orElse (userErrorAnswer error).errorText
      (httpText (userErrorAnswer error).statusCode) =
        answeredMessage error :=
    if_neg (answeredMessage_ne_nil error)
  have htraceback : strip (userErrorAnswer error).traceback = [] := rfl
  rw [CallError.str, hmessage]
  simp only [htraceback, if_true]
  split
  · rw [List.append_assoc, List.append_assoc]
    exact (List.prefix_append _ _).isInfix
  · exact List.infix_rfl

/-! ## Finality -/

/-- The call ends at the attempt: no route is tried behind it, the function
was run there and nowhere else, and the ending tells the caller. -/
structure EndsAt {ω : Type} (call : FailoverTape Attempt ω)
    (before : List Attempt) (attempt : Attempt) (told : ω → Prop) :
    Prop where
  last : call.attempts = before ++ [attempt]
  once : executions call = [attempt.route]
  ending : told call.ending

/-- Wherever in a call the outcome is reached, the call ends there: whatever
routes are selected before it without running the function, and whatever
routes there are behind it. -/
def EndsCalls {ω : Type} (call : List Attempt → FailoverTape Attempt ω)
    (outcome : RouteOutcome) (told : ω → Prop) : Prop :=
  ∀ before after route untried,
    (∀ earlier ∈ before, earlier.outcome.executed = false) →
    ⟨route, outcome, untried⟩ ∈
      (call (before ++ ⟨route, outcome, untried⟩ :: after)).attempts →
    EndsAt (call (before ++ ⟨route, outcome, untried⟩ :: after)) before
      ⟨route, outcome, untried⟩ told

def DiscoveryEnding.Tells (message : Text) : DiscoveryEnding → Prop
  | .returned => False
  | .raised text => message <:+: text

def GatewayEnding.Tells (message : Text) : GatewayEnding → Prop
  | .returned => False
  | .answered failure =>
    failure.statusCode = 400 ∧ failure.error = some message

section Finality

variable (lower : Text → Text) (mode : DependencyPolicyMode)

/-- The worker reports a user error, the node answers 400 and records nothing,
and both callers are done with it. -/
structure UserErrorFinal (error : UserException) : Prop where
  reported : (workerReport lower mode error).status = .failedUser
  answered : ∀ session method,
    (invokeFailure session method
      (workerReport lower mode error)).1.statusCode = 400
  unrecorded : ∀ session method,
    (invokeFailure session method (workerReport lower mode error)).2 = session
  discovery : ∀ noCandidate noUntried,
    EndsCalls (discoveryCall lower mode noCandidate noUntried)
      (.raised error) (DiscoveryEnding.Tells (answeredMessage error))
  gateway : ∀ noCandidate noUntried,
    EndsCalls (gatewayCall lower mode noCandidate noUntried)
      (.raised error) (GatewayEnding.Tells (answeredMessage error))

structure ReplyFinal (postProcessing : Option Text) : Prop where
  discovery : ∀ noCandidate noUntried,
    EndsCalls (discoveryCall lower mode noCandidate noUntried)
      (.returned postProcessing) fun _ => True
  gateway : ∀ noCandidate noUntried,
    EndsCalls (gatewayCall lower mode noCandidate noUntried)
      (.returned postProcessing) fun _ => True

/-- The except clauses and the markers all take the exception for a user
error: no clause before the last one but that for large results, no dependency
marker in the chain, and in the text the client reads a user marker and no
dependency marker. -/
def ReadAsUserError (error : UserException) : Prop :=
  (error.raised.isLargeResultError = true ∨
    error.raised.isObjectResolutionError = false ∧
      isDependencyRuntimeError lower error = false) ∧
  hasMarker (classifiedText lower (userErrorAnswer error))
    dependencyErrorMarkers = false ∧
  hasMarker (classifiedText lower (userErrorAnswer error))
    userErrorMarkers = true

instance (error : UserException) :
    Decidable (ReadAsUserError lower error) :=
  inferInstanceAs (Decidable (_ ∧ _ ∧ _))

end Finality

theorem not_mem_of_not_executed {before : List Attempt} {attempt : Attempt}
    (hbefore : ∀ earlier ∈ before, earlier.outcome.executed = false)
    (hexecuted : attempt.outcome.executed = true) : attempt ∉ before := by
  intro hmem
  rw [hbefore attempt hmem] at hexecuted
  exact Bool.false_ne_true hexecuted

theorem executions_of_attempts {ω : Type} {call : FailoverTape Attempt ω}
    {before : List Attempt} {attempt : Attempt}
    (hattempts : call.attempts = before ++ [attempt])
    (hbefore : ∀ earlier ∈ before, earlier.outcome.executed = false)
    (hexecuted : attempt.outcome.executed = true) :
    executions call = [attempt.route] := by
  have hnone : before.filter (fun earlier => earlier.outcome.executed) =
      [] := by
    rw [List.filter_eq_nil_iff]
    intro earlier hmem hrun
    rw [hbefore earlier hmem] at hrun
    exact Bool.false_ne_true hrun
  have hlast : [attempt].filter (fun last => last.outcome.executed) =
      [attempt] := by
    simp [hexecuted]
  rw [executions, hattempts, List.filter_append, hnone, hlast]
  rfl

section Loops

variable {ω : Type} {judge : Attempt → Judgement ω Text}
variable {giveUp : GiveUp → Option Text → ω}
variable {outcome : RouteOutcome} {told : ω → Prop}

theorem endsCalls_of_finish {ending : ω} (hexecuted : outcome.executed = true)
    (hjudge : ∀ route untried, judge ⟨route, outcome, untried⟩ = .finish ending)
    (htold : told ending) :
    EndsCalls (fun routes => tryEach Attempt.route judge giveUp routes [] none)
      outcome told := by
  intro before after route untried hbefore hreached
  have hends : tryEach Attempt.route judge giveUp
      (before ++ ⟨route, outcome, untried⟩ :: after) [] none =
        ⟨before ++ [⟨route, outcome, untried⟩], ending⟩ :=
    tryEach_ends_at (not_mem_of_not_executed hbefore hexecuted)
      (hjudge route untried) hreached
  refine ⟨?_, ?_, ?_⟩
  · exact congrArg FailoverTape.attempts hends
  · exact executions_of_attempts (congrArg FailoverTape.attempts hends)
      hbefore hexecuted
  · rw [congrArg FailoverTape.ending hends]
    exact htold

theorem not_endsCalls_of_another {error : Text} (first second : Text)
    (hroutes : second ≠ first)
    (hjudge : judge ⟨first, outcome, true⟩ = .another error) :
    ¬EndsCalls
      (fun routes => tryEach Attempt.route judge giveUp routes [] none)
      outcome told := by
  intro hends
  have hfresh : second ∉ first :: ([] : List Text) := by
    rw [List.mem_singleton]
    exact hroutes
  have hattempts : (tryEach Attempt.route judge giveUp
      [⟨first, outcome, true⟩, ⟨second, outcome, true⟩] [] none).attempts =
        [⟨first, outcome, true⟩, ⟨second, outcome, true⟩] :=
    tryEach_goes_on List.not_mem_nil hfresh hjudge
  have hlast := (hends [] [⟨second, outcome, true⟩] first true
    (fun earlier hmem => absurd hmem List.not_mem_nil)
    (by rw [List.nil_append, hattempts]; exact List.mem_cons_self)).last
  rw [List.nil_append, hattempts] at hlast
  exact absurd (congrArg List.length hlast) (by simp)

end Loops

theorem userErrorFinal_iff (lower : Text → Text) (mode : DependencyPolicyMode)
    (error : UserException) :
    UserErrorFinal lower mode error ↔ ReadAsUserError lower error := by
  constructor
  · intro hfinal
    have hstatus := hfinal.reported
    refine ⟨(workerReport_failedUser_iff lower mode error).mp hstatus, ?_⟩
    rw [← classifyServiceError_eq_remoteUserFailed_iff,
      ← shouldFailover_eq_false_iff, ← Bool.not_eq_true]
    intro hfailover
    have hjudge := judgeDiscovery_raised hstatus ['a'] true
    rw [if_pos hfailover] at hjudge
    exact not_endsCalls_of_another ['a'] ['b'] (by decide) hjudge
      (hfinal.discovery [] [])
  · intro hread
    have hstatus :=
      (workerReport_failedUser_iff lower mode error).mpr hread.1
    have hkind :=
      (classifyServiceError_eq_remoteUserFailed_iff lower _).mpr hread.2
    constructor
    case reported => exact hstatus
    case answered =>
      intro session method
      rw [invokeFailure_of_failedUser hstatus]
      rfl
    case unrecorded =>
      intro session method
      rw [invokeFailure_of_failedUser hstatus]
    case discovery =>
      intro noCandidate noUntried
      have htold : DiscoveryEnding.Tells (answeredMessage error)
          (.raised (userErrorAnswer error).str) :=
        answeredMessage_infix_str error
      refine endsCalls_of_finish rfl ?_ htold
      intro route untried
      rw [judgeDiscovery_raised hstatus, hkind,
        shouldFailover_remoteUserFailed]
      rfl
    case gateway =>
      intro noCandidate noUntried
      refine endsCalls_of_finish rfl
        (fun route untried => judgeGateway_raised hstatus route untried) ?_
      exact ⟨rfl, rfl⟩

theorem replyFinal_iff (lower : Text → Text) (mode : DependencyPolicyMode)
    (postProcessing : Option Text) :
    ReplyFinal lower mode postProcessing ↔ postProcessing = none := by
  constructor
  · intro hfinal
    cases hpost : postProcessing with
    | none => rfl
    | some error =>
      rw [hpost] at hfinal
      have hjudge : judgeDiscovery lower mode
          ⟨['a'], .returned (some error), true⟩ = .another error := rfl
      exact absurd (hfinal.discovery [] [])
        (not_endsCalls_of_another ['a'] ['b'] (by decide) hjudge)
  · intro hpost
    rw [hpost]
    constructor
    case discovery =>
      intro noCandidate noUntried
      exact endsCalls_of_finish rfl (fun route untried => rfl) trivial
    case gateway =>
      intro noCandidate noUntried
      exact endsCalls_of_finish rfl (fun route untried => rfl) trivial

/-- `ValueError("bad")`, raised without a cause. -/
def badValue : UserException :=
  ⟨⟨"ValueError".toList, "bad".toList, "ValueError('bad')".toList, false,
    false, false, false, [], none⟩, []⟩

end PycloudParallel.CallFailover
