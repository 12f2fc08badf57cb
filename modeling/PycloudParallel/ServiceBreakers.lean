import PycloudParallel.CallFailoverModel
import Mathlib.Data.Rat.Init
import Mathlib.Algebra.Order.Field.Rat

/-!
# The breaker of a candidate

A handle keeps a breaker for each replica or route.  Failures close in on a
threshold, an open breaker lets a probe through after a cooldown, and a success
closes it again.
-/

namespace PycloudParallel.ServiceCalls

open CallFailover

inductive BreakerMode
  | closed
  | opened
  | halfOpen
deriving DecidableEq

structure CandidateBreakerState where
  state : BreakerMode
  consecutiveFailures : ℕ
  disabledUntil : ℚ
  openCount : ℕ
  probeInFlight : Bool
deriving DecidableEq

namespace CandidateBreakerState

def fresh : CandidateBreakerState :=
  ⟨.closed, 0, 0, 0, false⟩

def markSuccess (_breaker : CandidateBreakerState) : CandidateBreakerState :=
  fresh

end CandidateBreakerState

structure BreakerSettings where
  failureThreshold : ℕ
  cooldownSec : ℚ
  maxCooldownSec : ℚ

namespace BreakerSettings

def threshold (settings : BreakerSettings) : ℕ :=
  max 1 settings.failureThreshold

def cooldown (settings : BreakerSettings) (openCount : ℕ) : ℚ :=
  let least : ℚ := 1 / 10
  let longest :=
    if settings.maxCooldownSec = 0 then settings.cooldownSec
    else settings.maxCooldownSec
  min (max least longest)
    (max least settings.cooldownSec * 2 ^ (openCount - 1))

end BreakerSettings

namespace CandidateBreakerState

def markFailure (settings : BreakerSettings) (now : ℚ)
    (breaker : CandidateBreakerState) : CandidateBreakerState :=
  let failures :=
    match breaker.state with
    | .halfOpen => max breaker.consecutiveFailures settings.threshold
    | .closed => breaker.consecutiveFailures + 1
    | .opened => breaker.consecutiveFailures
  let counted := { breaker with
    consecutiveFailures := failures
    probeInFlight := false }
  if failures < settings.threshold then counted
  else { counted with
    state := .opened
    openCount := breaker.openCount + 1
    disabledUntil := now + settings.cooldown (breaker.openCount + 1) }

/-- `candidate_allowed`; it may move an open breaker to half open. -/
def candidateAllowed (now : ℚ) (breaker : CandidateBreakerState) :
    CandidateBreakerState × Bool :=
  match breaker.state with
  | .closed => (breaker, true)
  | .halfOpen => (breaker, !breaker.probeInFlight)
  | .opened =>
    if breaker.disabledUntil ≤ now then
      ({ breaker with state := .halfOpen, probeInFlight := false }, true)
    else (breaker, false)

def beforeProbe (now : ℚ) (breaker : CandidateBreakerState) :
    CandidateBreakerState × Bool :=
  let checked := breaker.candidateAllowed now
  if checked.2 = true ∧ checked.1.state = .halfOpen then
    ({ checked.1 with probeInFlight := true }, true)
  else checked

variable {breaker : CandidateBreakerState}

variable (hclosed : breaker.state = .closed)

include hclosed

theorem candidateAllowed_closed (now : ℚ) :
    breaker.candidateAllowed now = (breaker, true) := by
  rw [candidateAllowed, hclosed]

theorem beforeProbe_closed (now : ℚ) :
    breaker.beforeProbe now = (breaker, true) := by
  rw [beforeProbe, candidateAllowed_closed hclosed, if_neg]
  intro hhalf
  rw [hclosed] at hhalf
  cases hhalf.2

theorem markFailure_closed {settings : BreakerSettings}
    (hbelow : breaker.consecutiveFailures + 1 < settings.threshold) (now : ℚ) :
    (breaker.markFailure settings now).state = .closed := by
  simp only [markFailure, hclosed]
  rw [if_pos hbelow]

end CandidateBreakerState

/-- `classify_service_error` on the text in which it looks for markers. -/
def kindOfText (lowered : Text) : FailureKind :=
  if hasMarker lowered dependencyErrorMarkers then .remoteInfraFailed
  else if hasMarker lowered userErrorMarkers then .remoteUserFailed
  else if hasMarker lowered infraErrorMarkers then .remoteInfraFailed
  else .controlplaneUnavailable

def runtimeError (repr : Text → Text) (text : Text) : RaisedError where
  className := "RuntimeError".toList
  message := text
  representation := "RuntimeError(".toList ++ repr text ++ ")".toList
  isImportError := false
  isInstallFailure := false
  isLargeResultError := false
  isObjectResolutionError := false
  missingModule := []
  urlReason := none

theorem invokeFailure_unrecorded (session : ServiceSession) (method : Text)
    {report : WorkerReport} (hreport : report.status ≠ .failedDependency) :
    (invokeFailure session method report).2 = session := by
  rw [invokeFailure]
  cases hstatus : report.status with
  | failedUser => rfl
  | failedDependency => exact absurd hstatus hreport
  | failedInfra => rfl

end PycloudParallel.ServiceCalls
