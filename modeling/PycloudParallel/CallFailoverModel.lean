import PycloudParallel.FoundationFailoverTape
import PycloudParallel.FoundationOrderedDict

/-!
# The verdict on a failed service call

The worker reports an exception of the user function as a status with a class
name and a text, the node answers the report with an HTTP status, and the
discovery client and the gateway decide from that answer whether another route
is tried.  Each of them looks for markers in the texts it is given.

Texts are lists of characters.  `lower` is `str.lower`.
-/

namespace PycloudParallel.CallFailover

abbrev Text := List Char

def contains (marker : Text) : Text → Bool
  | [] => marker.isEmpty
  | first :: rest =>
    marker.isPrefixOf (first :: rest) || contains marker rest

def hasMarker (text : Text) (markers : List Text) : Bool :=
  markers.any fun marker => contains marker text

def isSpace (letter : Char) : Bool :=
  letter.toNat ∈ [0x20, 0x85, 0xa0, 0x1680, 0x2028, 0x2029, 0x202f, 0x205f,
      0x3000] ||
    (0x09 ≤ letter.toNat && letter.toNat ≤ 0x0d) ||
    (0x1c ≤ letter.toNat && letter.toNat ≤ 0x1f) ||
    (0x2000 ≤ letter.toNat && letter.toNat ≤ 0x200a)

def strip (text : Text) : Text :=
  ((text.dropWhile isSpace).reverse.dropWhile isSpace).reverse

def orElse (text fallback : Text) : Text :=
  if text = [] then fallback else text

def joinNonempty (parts : List Text) : Text :=
  List.intercalate [' '] (parts.filter fun part => part ≠ [])

/-- An entry of `_iter_error_chain`. -/
inductive ChainItem
  | text (value : Text)
  | object (className message representation : Text)
deriving DecidableEq

/-- One exception of a chain: its class name, `str`, `repr`, the classes it is
an instance of as far as they are asked for, the name of a missing module and
the reason of an `URLError`. -/
structure RaisedError where
  className : Text
  message : Text
  representation : Text
  isImportError : Bool
  isInstallFailure : Bool
  isLargeResultError : Bool
  isObjectResolutionError : Bool
  missingModule : Text
  urlReason : Option ChainItem
deriving DecidableEq

structure UserException where
  raised : RaisedError
  causes : List RaisedError
deriving DecidableEq

def UserException.chain (error : UserException) : List RaisedError :=
  error.raised :: error.causes

/-- No `ImportError` and no failed dependency installation in the chain. -/
def UserException.FreeOfDependencies (error : UserException) : Prop :=
  ∀ item ∈ error.chain,
    item.isImportError = false ∧ item.isInstallFailure = false

def importErrorMarkers : List Text :=
  ["modulenotfounderror", "module not found error", "importerror",
    "import error", "no module named ", "cannot import name "].map
    String.toList

def dependencyMarkers : List Text :=
  ["dependency install failed", "dependency installation failed",
    "node environment is missing", "missing dependency"].map String.toList

def ChainItem.parts : ChainItem → List Text
  | .text value => [value]
  | .object className message representation =>
    [className] ++ (if message = [] then [] else [message]) ++
      (if representation = [] ∨ representation = message then []
        else [representation])

def iterErrorChain (error : UserException) : List ChainItem :=
  error.chain.flatMap fun item =>
    .object item.className item.message item.representation ::
      item.urlReason.toList

def errorText (lower : Text → Text) (error : UserException) : Text :=
  lower (strip (joinNonempty
    ((iterErrorChain error).flatMap ChainItem.parts)))

def isDependencyRuntimeError (lower : Text → Text) (error : UserException) :
    Bool :=
  hasMarker (errorText lower error) importErrorMarkers ||
    hasMarker (errorText lower error) dependencyMarkers

inductive FailureStatus
  | failedUser
  | failedDependency
  | failedInfra
deriving DecidableEq

/-- What `_execute_payload_in_subprocess` returns of a failed execution. -/
structure WorkerReport where
  status : FailureStatus
  errorType : Text
  errorMessage : Text
deriving DecidableEq

inductive DependencyPolicyMode
  | nodePreinstalled
  | allowInstall
  | prebuilt
deriving DecidableEq

def missingImportName (error : UserException) : Text :=
  ((error.chain.map RaisedError.missingModule).find? fun name =>
    name ≠ []).getD []

/-- `_dependency_policy_missing_import_hint` without a failed installation. -/
def missingImportHint (mode : DependencyPolicyMode) (missingImport : Text) :
    Text :=
  if missingImport = [] then []
  else
    match mode with
    | .nodePreinstalled =>
      (" artifact dependency policy is `node_preinstalled`; " ++
        "node environment is missing `").toList ++ missingImport ++
      ("`. Preinstall it on the node, " ++
        "or switch to a prebuilt artifact.").toList
    | .allowInstall =>
      " artifact dependency policy is `allow_install`; dependency `".toList ++
        missingImport ++
      ("` is still unavailable after preparation. Pin the version " ++
        "and verify node network/package index availability.").toList
    | .prebuilt =>
      (" artifact dependency policy is `prebuilt`; " ++
        "missing dependency `").toList ++ missingImport ++
      ("`. Rebuild the artifact with bundled dependencies, " ++
        "or switch to `ArtifactDeps.allow_install([...])`.").toList

def describeUserExecutionError (mode : DependencyPolicyMode)
    (error : UserException) : Text :=
  "user code execution failed: ".toList ++ error.raised.className ++
    ": ".toList ++ orElse error.raised.message error.raised.representation ++
    missingImportHint mode (missingImportName error)

/-- The except clauses of `_execute_payload_in_subprocess`, in their order. -/
def workerReport (lower : Text → Text) (mode : DependencyPolicyMode)
    (error : UserException) : WorkerReport :=
  if error.raised.isLargeResultError then
    ⟨.failedUser, error.raised.className, error.raised.message⟩
  else if error.raised.isObjectResolutionError then
    ⟨.failedInfra, error.raised.className, error.raised.message⟩
  else if isDependencyRuntimeError lower error then
    ⟨.failedDependency, "DependencyError".toList,
      describeUserExecutionError mode error⟩
  else ⟨.failedUser, error.raised.className, error.raised.representation⟩

/-- A failed call as `DiscoveryCallError` and `GatewayCallError` carry it: the
status and, of the decoded body, the texts that are read. -/
structure CallError where
  statusCode : ℕ
  error : Option Text
  errorType : Text
  traceback : Text
deriving DecidableEq

def CallError.errorText (failure : CallError) : Text :=
  failure.error.getD []

structure MethodFailure where
  method : Text
  error : Text
  count : ℕ
deriving DecidableEq

structure ServiceSession where
  methodFailures : OrderedDict Text MethodFailure
  degraded : Bool

def markServiceDependencyFailure (session : ServiceSession)
    (reason method : Text) : ServiceSession :=
  let normalizedMethod := orElse (strip method) "<unknown>".toList
  let count :=
    ((session.methodFailures.lookup normalizedMethod).map
      MethodFailure.count).getD 0
  { methodFailures := session.methodFailures.set normalizedMethod
      ⟨normalizedMethod, reason, count + 1⟩
    degraded := true }

def normalizeInvokeError (report : WorkerReport)
    (userFallback infraFallback : Text) : Text × Text :=
  match report.status with
  | .failedUser =>
    (orElse report.errorType "UserError".toList,
      orElse report.errorMessage userFallback)
  | .failedDependency =>
    (orElse report.errorType "DependencyError".toList,
      orElse report.errorMessage infraFallback)
  | .failedInfra =>
    (orElse report.errorType "InfraError".toList,
      orElse report.errorMessage infraFallback)

/-- The end of `_invoke_service_call` for a report that is no success. -/
def invokeFailure (session : ServiceSession) (method : Text)
    (report : WorkerReport) : CallError × ServiceSession :=
  match report.status with
  | .failedUser =>
    let (errorType, error) := normalizeInvokeError report
      "user error".toList "infra error".toList
    (⟨400, some error, errorType, []⟩, session)
  | .failedDependency =>
    let (errorType, error) := normalizeInvokeError report
      "user error".toList "dependency runtime error".toList
    (⟨503, some error, errorType, []⟩,
      markServiceDependencyFailure session error method)
  | .failedInfra =>
    let (errorType, error) := normalizeInvokeError report
      "user error".toList "infra error".toList
    (⟨503, some error, errorType, []⟩, session)

def userErrorMarkers : List Text :=
  ["usererror", "failed_user", "user error"].map String.toList

def dependencyErrorMarkers : List Text :=
  ["dependencyerror", "failed_dependency", "dependency runtime error"].map
    String.toList

def infraErrorMarkers : List Text :=
  ["infraerror", "failed_infra", "infra failure"].map String.toList

def routeFailureMarkers : List Text :=
  ["service not found", "service not running", "service executor stopped",
    "artifact missing"].map String.toList

def httpText (statusCode : ℕ) : Text :=
  ("http " ++ toString statusCode).toList

def CallError.str (failure : CallError) : Text :=
  let message := orElse failure.errorText (httpText failure.statusCode)
  let errorType := strip failure.errorType
  let typed :=
    if errorType ≠ [] ∧ contains errorType message = false then
      message ++ " (".toList ++ errorType ++ ")".toList
    else message
  let traceback := strip failure.traceback
  if traceback = [] then typed else typed ++ ['\n'] ++ traceback

def CallError.gatewayStr (failure : CallError) : Text :=
  failure.error.getD (httpText failure.statusCode)

def isRouteFailure (lower : Text → Text) (failure : CallError) : Bool :=
  let message := lower failure.errorText
  if hasMarker (lower failure.errorType ++ [' '] ++ message)
      userErrorMarkers then false
  else if failure.statusCode ∈ [502, 503, 504] then true
  else if failure.statusCode ∉ [404, 409, 500] then false
  else hasMarker message routeFailureMarkers

def gatewayIsRouteFailure (lower : Text → Text) (failure : CallError) :
    Bool :=
  let message := lower failure.errorText
  if hasMarker (lower failure.errorType ++ [' '] ++ message)
      userErrorMarkers then false
  else if failure.statusCode ∈ [502, 503, 504] then true
  else if failure.statusCode = 200 then false
  else if failure.statusCode ∉ [404, 409, 500] then false
  else hasMarker message routeFailureMarkers

theorem gatewayIsRouteFailure_eq (lower : Text → Text) (failure : CallError) :
    gatewayIsRouteFailure lower failure = isRouteFailure lower failure := by
  by_cases hstatus : failure.statusCode = 200
  · simp [gatewayIsRouteFailure, isRouteFailure, hstatus]
  · simp only [gatewayIsRouteFailure, isRouteFailure, if_neg hstatus]

inductive FailureKind
  | routeUnavailable
  | stagingFailed
  | controlplaneUnavailable
  | remoteInfraFailed
  | remoteUserFailed
deriving DecidableEq

/-- The text in which `classify_service_error` looks for markers. -/
def classifiedText (lower : Text → Text) (failure : CallError) : Text :=
  lower (joinNonempty
    [strip failure.str, failure.errorType, failure.errorText])

def classifyServiceError (lower : Text → Text) (failure : CallError)
    (routeFailure : Bool) : FailureKind :=
  let lowered := classifiedText lower failure
  if routeFailure then .routeUnavailable
  else if hasMarker lowered dependencyErrorMarkers then .remoteInfraFailed
  else if hasMarker lowered userErrorMarkers then .remoteUserFailed
  else if hasMarker lowered infraErrorMarkers then .remoteInfraFailed
  else .controlplaneUnavailable

def shouldFailover (kind : FailureKind) (hasAlternative : Bool) : Bool :=
  hasAlternative &&
    match kind with
    | .remoteUserFailed => false
    | _ => true

/-! ## The calls -/

/-- What comes of sending a call to one route.  `staging` is an exception
before anything is sent, `refused` an answer for which the function did not
run, `unreachable` a failed request, `unreadable` a successful reply that does
not decode, and `returned` a successful reply with what its post-processing
raised. -/
inductive RouteOutcome
  | staging (error : Text)
  | refused (failure : CallError)
  | unreachable (representation : Text)
  | raised (error : UserException)
  | unreadable (representation : Text)
  | returned (postProcessing : Option Text)
deriving DecidableEq

/-- One turn of a caller's loop: the selected route, what comes of it, and
what the cache then answers when it is asked for an untried route. -/
structure Attempt where
  route : Text
  outcome : RouteOutcome
  untried : Bool
deriving DecidableEq

def RouteOutcome.executed : RouteOutcome → Bool
  | .raised _ | .unreadable _ | .returned _ => true
  | .staging _ | .refused _ | .unreachable _ => false

/-- How `DiscoveryClient.call` ends. -/
inductive DiscoveryEnding
  | returned
  | raised (message : Text)

inductive GatewayEnding
  | returned
  | answered (failure : CallError)

section Calls

variable (lower : Text → Text) (mode : DependencyPolicyMode)

def raisedAnswer (error : UserException) : CallError :=
  (invokeFailure ⟨∅, false⟩ [] (workerReport lower mode error)).1

def badGateway (error : Text) : CallError :=
  ⟨502, some error, [], []⟩

/-- The branch for a `DiscoveryCallError`. -/
def judgeDiscoveryCallError (failure : CallError) (untried : Bool) :
    Judgement DiscoveryEnding Text :=
  if shouldFailover
      (classifyServiceError lower failure (isRouteFailure lower failure))
      untried then .another failure.str
  else .finish (.raised failure.str)

def judgeStagingFailure (error : Text) (untried : Bool) :
    Judgement DiscoveryEnding Text :=
  if shouldFailover .stagingFailed untried then .another error
  else .finish (.raised error)

/-- A turn of the loop of `DiscoveryClient.call`. -/
def judgeDiscovery (attempt : Attempt) : Judgement DiscoveryEnding Text :=
  match attempt.outcome with
  | .staging error => judgeStagingFailure error attempt.untried
  | .refused failure =>
    judgeDiscoveryCallError lower
      (if 400 ≤ failure.statusCode then failure
        else { failure with statusCode := 502 }) attempt.untried
  | .unreachable representation | .unreadable representation =>
    judgeDiscoveryCallError lower (badGateway representation) attempt.untried
  | .raised error =>
    judgeDiscoveryCallError lower (raisedAnswer lower mode error)
      attempt.untried
  | .returned none => .finish .returned
  | .returned (some error) => judgeStagingFailure error attempt.untried

def judgeGatewayCallError (failure : CallError) :
    Judgement GatewayEnding Text :=
  if gatewayIsRouteFailure lower failure then .another failure.gatewayStr
  else .finish (.answered failure)

/-- A turn of the loop of `GatewayHttpApp.handle_post`. -/
def judgeGateway (attempt : Attempt) : Judgement GatewayEnding Text :=
  match attempt.outcome with
  | .staging error =>
    .finish (.answered (badGateway ("gateway call failed: ".toList ++ error)))
  | .refused failure =>
    judgeGatewayCallError lower
      (if 400 ≤ failure.statusCode then failure
        else { failure with statusCode := 200 })
  | .unreachable representation | .unreadable representation =>
    judgeGatewayCallError lower (badGateway representation)
  | .raised error =>
    judgeGatewayCallError lower (raisedAnswer lower mode error)
  | .returned none => .finish .returned
  | .returned (some error) =>
    .finish (.answered (badGateway ("gateway call failed: ".toList ++ error)))

variable (noCandidate noUntried : Text)

def giveUpText (reason : GiveUp) (last : Option Text) : Text :=
  last.getD (match reason with
    | .noCandidate => noCandidate
    | .repeated => noUntried)

def discoveryCall (routes : List Attempt) :
    FailoverTape Attempt DiscoveryEnding :=
  tryEach Attempt.route (judgeDiscovery lower mode)
    (fun reason last =>
      .raised (giveUpText noCandidate noUntried reason last)) routes [] none

/-- `GatewayHttpApp.handle_post` over the routes that the cache selects. -/
def gatewayCall (routes : List Attempt) :
    FailoverTape Attempt GatewayEnding :=
  tryEach Attempt.route (judgeGateway lower mode)
    (fun reason last => .answered (badGateway ("gateway call failed: ".toList ++
      giveUpText noCandidate noUntried reason last))) routes [] none

end Calls

def executions {ω : Type} (call : FailoverTape Attempt ω) : List Text :=
  (call.attempts.filter fun attempt => attempt.outcome.executed).map
    Attempt.route

end PycloudParallel.CallFailover
