import PycloudParallel.ConnectedCallsModel

/-!
# User errors on a connected handle

While the texts of user errors read as user errors, no breaker of the route
cache opens, no route is held back and every balanced call is sent once.  A
user error releases its route, so no count of them matters here.
-/

namespace PycloudParallel.ServiceCalls

open CallFailover

variable {ρ ι κ β : Type}

namespace ConnectedSystem

section Fits

variable (settings : ConnectedSettings)

/-- A balanced call puts no node on the blacklist for the answer and tries no
other route. -/
def EndsCall (failure : CallError) : Prop :=
  isDependencyRuntimeError settings.lower
      (discoveryCallError settings failure) = false ∧
    failureKind settings failure = .remoteUserFailed

/-- A result, or a user error that the node does not record, that ends a
balanced call, and for which a leg does not count. -/
def ReplyFits (call : ConnectedCall ρ β) : RouteReply β → Prop
  | .result _ => True
  | .raised error =>
    (workerReport settings.lower settings.dependencyMode error).status ≠
        .failedDependency ∧
      (call.leg = false → EndsCall settings (answerOf settings error)) ∧
      (call.leg = true →
        marksLeg (failureKind settings (answerOf settings error)) = false)
  | .refused _ => False
  | .broken _ => False

def Fits (s : ConnectedSystem ρ ι κ β) : ConnectedLabel ρ κ β → Prop
  | .reply id reply => ∀ call ∈ s.calls id, ReplyFits settings call reply
  | _ => True

instance (failure : CallError) : Decidable (EndsCall settings failure) :=
  inferInstanceAs (Decidable (_ ∧ _))

instance (call : ConnectedCall ρ β) : (reply : RouteReply β) →
    Decidable (ReplyFits settings call reply)
  | .result _ => isTrue trivial
  | .raised _ => inferInstanceAs (Decidable (_ ∧ _))
  | .refused _ | .broken _ => isFalse id

instance (s : ConnectedSystem ρ ι κ β) :
    (label : ConnectedLabel ρ κ β) → Decidable (Fits settings s label)
  | .reply id reply => inferInstanceAs (Decidable (∀ call ∈ s.calls id,
      ReplyFits settings call reply))
  | .startBalanced _ _ _ | .startLeg _ _ _ _ _ | .limit _ | .select _ _ _ _
  | .selectNone _ _ | .accept _ | .judge _ | .mark _ _ | .heartbeat _
  | .refresh => isTrue trivial

/-- The call was sent once, along the route, and was answered with a user
error. -/
def Raised (call : ConnectedCall ρ β) (route : ρ) (failure : CallError) :
    Prop :=
  ∃ error, call.asked = [(route, .raised error)] ∧
    failure = answerOf settings error

def BalancedOk (call : ConnectedCall ρ β) : Prop :=
  match call.phase with
  | .selecting => call.asked = [] ∧ call.tried = [] ∧ call.attempts = 0 ∧
      0 < call.looks
  | .sent _ => call.asked = []
  | .answered route value | .returned route value =>
    call.asked = [(route, .result value)]
  | .failing route failure =>
    Raised settings call route failure ∧ EndsCall settings failure
  | .marking _ _ => False
  | .raised message => ∃ route failure, Raised settings call route failure ∧
      message = failure.str

def LegOk (call : ConnectedCall ρ β) : Prop :=
  match call.phase with
  | .selecting | .marking _ _ => False
  | .failing _ failure => marksLeg (failureKind settings failure) = false
  | _ => True

structure CallOk (routes : List ρ) (call : ConnectedCall ρ β) : Prop where
  ready : routes ≠ []
  leg : call.leg = true → LegOk settings call
  balanced : call.leg = false → BalancedOk settings call

structure Calm (s : ConnectedSystem ρ ι κ β) : Prop where
  closed : ∀ route breaker, s.breakers route = some breaker →
    breaker.state = .closed
  methodBlacklist : ∀ method, s.methodBlacklist method = ∅
  snapshot : ∀ route, s.snapshotFailures route = ∅
  reported : ∀ route, s.reportedFailures route = ∅
  unrecorded : ∀ route, (s.sessions route).methodFailures = ∅
  calls : ∀ id call, s.calls id = some call →
    CallOk settings s.routes call

end Fits

variable {settings : ConnectedSettings} {s t : ConnectedSystem ρ ι κ β}

/-! ## Small steps of the state -/

theorem Calm.breakerOf (hcalm : Calm settings s) (route : ρ) :
    (s.breakerOf route).state = .closed := by
  rw [ConnectedSystem.breakerOf]
  cases hbreaker : s.breakers route with
  | none => rfl
  | some breaker => exact hcalm.closed route breaker hbreaker

variable {route : ρ} {call : ConnectedCall ρ β} {reply : RouteReply β}
  {routes : List ρ} {id : κ} {now : ℚ}

theorem Calm.setBreaker [DecidableEq ρ] (hcalm : Calm settings s)
    {breaker : CandidateBreakerState} (hclosed : breaker.state = .closed) :
    Calm settings (s.setBreaker route breaker) where
  closed other found hfound := by
    have hupdate : Function.update s.breakers route (some breaker) other =
        some found := hfound
    by_cases hroute : other = route
    · rw [hroute, Function.update_self, Option.some.injEq] at hupdate
      rwa [← hupdate]
    · rw [Function.update_of_ne hroute] at hupdate
      exact hcalm.closed other found hupdate
  methodBlacklist := hcalm.methodBlacklist
  snapshot := hcalm.snapshot
  reported := hcalm.reported
  unrecorded := hcalm.unrecorded
  calls := hcalm.calls

theorem askBreakers_of_calm [DecidableEq ρ] (hcalm : Calm settings s)
    (call : ConnectedCall ρ β) (now : ℚ) : s.askBreakers call now = s := by
  have hbreakers : (fun route => if route ∈ s.methodRoutes call then
      (s.breakers route).map fun breaker => (breaker.candidateAllowed now).1
        else s.breakers route) = s.breakers := by
    funext route
    cases hbreaker : s.breakers route with
    | none => exact ite_self _
    | some breaker =>
      rw [Option.map_some, CandidateBreakerState.candidateAllowed_closed
        (hcalm.closed route breaker hbreaker), ite_self]
  rw [askBreakers, hbreakers]

theorem Calm.probeRoute [DecidableEq ρ]
    (hcalm : Calm settings s) (probes : Bool) (route : ρ)
    (now : ℚ) : Calm settings (s.probeRoute probes route now) := by
  rw [ConnectedSystem.probeRoute]
  cases probes with
  | false => exact hcalm
  | true =>
    have hclosed := hcalm.breakerOf route
    rw [if_pos rfl, CandidateBreakerState.beforeProbe_closed hclosed]
    exact hcalm.setBreaker hclosed

theorem probeRoute_routes [DecidableEq ρ]
    (probes : Bool) (route : ρ) (now : ℚ) :
    (s.probeRoute probes route now).routes = s.routes := by
  rw [ConnectedSystem.probeRoute]
  split <;> rfl

theorem candidates_of_calm [DecidableEq ρ] (hcalm : Calm settings s)
    (htried : call.tried = []) (now : ℚ) :
    s.candidates call now = s.routes := by
  have hroutes : s.methodRoutes call = s.routes := by
    rw [methodRoutes, List.filter_eq_self]
    intro route _
    rw [htried, hcalm.snapshot, decide_eq_true_eq]
    exact ⟨List.not_mem_nil, Or.inr (Finset.notMem_empty _)⟩
  rw [candidates, hroutes, List.filter_eq_self]
  intro route _
  rw [routeAvailable.eq_def]
  cases hbreaker : s.breakers route with
  | none => rfl
  | some breaker =>
    simp only [CandidateBreakerState.candidateAllowed_closed
      (hcalm.closed route breaker hbreaker)]

theorem recordReply_of_fits [DecidableEq ρ]
    (hfits : ReplyFits settings call reply) (route : ρ) (method : Text) :
    s.recordReply settings route method reply = s := by
  cases reply with
  | result value => rfl
  | refused failure | broken message => exact hfits.elim
  | raised error =>
    have hsession :=
      invokeFailure_unrecorded (s.sessions route) method hfits.1
    simp [recordReply, hsession]

theorem CallOk.balanced_of (hcall : CallOk settings routes call)
    (hat : ¬LegOk settings call) : BalancedOk settings call := by
  cases hleg : call.leg with
  | false => exact hcall.balanced hleg
  | true => exact (hat (hcall.leg hleg)).elim

theorem callOk_replied (hcall : CallOk settings routes call)
    (hphase : call.phase = .sent route) (hfits : ReplyFits settings call reply)
    :
    CallOk settings routes { call with
      asked := call.asked ++ [(route, reply)]
      phase := replied settings call route reply } := by
  have hasked : call.leg = false →
      call.asked ++ [(route, reply)] = [(route, reply)] := by
    intro hleg
    have hbalanced := hcall.balanced hleg
    rw [BalancedOk, hphase] at hbalanced
    rw [hbalanced, List.nil_append]
  cases reply with
  | result value => exact ⟨hcall.ready, fun _ => trivial, hasked⟩
  | refused failure | broken message => exact hfits.elim
  | raised error =>
    exact ⟨hcall.ready, hfits.2.2,
      fun hleg => ⟨⟨error, hasked hleg, rfl⟩, hfits.2.1 hleg⟩⟩

/-! ## Steps -/

theorem Calm.setCall [DecidableEq κ] (hcalm : Calm settings s)
    (hcall : CallOk settings s.routes call) :
    Calm settings (s.setCall id call) where
  closed := hcalm.closed
  methodBlacklist := hcalm.methodBlacklist
  snapshot := hcalm.snapshot
  reported := hcalm.reported
  unrecorded := hcalm.unrecorded
  calls other found hfound := by
    have hupdate : Function.update s.calls id (some call) other =
        some found := hfound
    by_cases hid : other = id
    · rw [hid, Function.update_self, Option.some.injEq] at hupdate
      rw [← hupdate]
      exact hcall
    · rw [Function.update_of_ne hid] at hupdate
      exact hcalm.calls other found hupdate

theorem Calm.startCall [DecidableEq κ] (hcalm : Calm settings s)
    (hcall : CallOk settings s.routes call)
    (hstep : s.startCall id call = some t) : Calm settings t := by
  rw [ConnectedSystem.startCall] at hstep
  split at hstep
  · cases hstep
    exact hcalm.setCall hcall
  · cases hstep

theorem Calm.limitStep [DecidableEq κ] (hcall : CallOk settings s.routes call)
    (hstep : s.limitStep id call = some t) : False := by
  rw [ConnectedSystem.limitStep] at hstep
  split at hstep
  case h_2 => cases hstep
  case h_1 hphase =>
    have hbalanced := hcall.balanced_of (by rw [LegOk, hphase]; exact not_false)
    rw [BalancedOk, hphase] at hbalanced
    split at hstep
    case isTrue hlimit =>
      rw [limitReached, hbalanced.2.2.1] at hlimit
      exact hlimit.1 (Nat.le_zero.mp hlimit.2)
    case isFalse => cases hstep

section

variable (hcalm : Calm settings s)

include hcalm

section

variable (hcall : CallOk settings s.routes call)

include hcall

theorem Calm.selectStep [DecidableEq ρ] [DecidableEq ι] [DecidableEq κ]
    {probes : Bool} (hstep : s.selectStep id call route probes now = some t) :
    Calm settings t := by
  rw [ConnectedSystem.selectStep] at hstep
  split at hstep
  case h_2 => cases hstep
  case h_1 hphase =>
    have hbalanced := hcall.balanced_of (by rw [LegOk, hphase]; exact not_false)
    rw [BalancedOk, hphase] at hbalanced
    simp only [askBreakers_of_calm hcalm, hcalm.methodBlacklist,
      Finset.notMem_empty, if_false] at hstep
    split at hstep
    case isFalse => cases hstep
    case isTrue =>
      cases hstep
      apply (hcalm.probeRoute probes route now).setCall
      refine ⟨?_, fun _ => trivial, fun _ => hbalanced.1⟩
      rw [probeRoute_routes]
      exact hcall.ready

theorem Calm.selectNoneStep [DecidableEq ρ] [DecidableEq κ]
    (hstep : s.selectNoneStep settings id call now = some t) : False := by
  rw [ConnectedSystem.selectNoneStep] at hstep
  split at hstep
  case h_2 => cases hstep
  case h_1 hphase =>
    have hbalanced := hcall.balanced_of (by rw [LegOk, hphase]; exact not_false)
    rw [BalancedOk, hphase] at hbalanced
    obtain ⟨_, htried, _, hlooks⟩ := hbalanced
    split at hstep
    case isFalse => cases hstep
    case isTrue hnone =>
      rw [candidates_of_calm hcalm htried] at hnone
      cases hnone.2 with
      | inl hturns => omega
      | inr hroutes => exact hcall.ready hroutes

theorem Calm.replyStep [DecidableEq ρ] [DecidableEq κ]
    (hfits : ReplyFits settings call reply)
    (hstep : s.replyStep settings id call reply = some t) :
    Calm settings t := by
  rw [ConnectedSystem.replyStep] at hstep
  split at hstep
  case h_2 => cases hstep
  case h_1 route hphase =>
    simp only [recordReply_of_fits hfits, Option.some.injEq] at hstep
    subst hstep
    exact hcalm.setCall (callOk_replied hcall hphase hfits)

end

theorem Calm.markSuccess [DecidableEq ρ] (route : ρ) :
    let closed := (s.breakers route).map CandidateBreakerState.markSuccess
    Calm settings { s with
      breakers := Function.update s.breakers route closed } := by
  intro closed
  cases hbreaker : s.breakers route with
  | none =>
    have hclosed : closed = s.breakers route := by
      simp only [closed, hbreaker, Option.map_none]
    rw [hclosed, Function.update_eq_self]
    exact hcalm
  | some breaker =>
    have hclosed : closed = some .fresh := by
      simp only [closed, hbreaker, Option.map_some]
      rfl
    rw [hclosed]
    exact hcalm.setBreaker rfl

theorem Calm.acceptStep [DecidableEq ρ] [DecidableEq κ]
    (hcall : CallOk settings s.routes call)
    (hstep : s.acceptStep id call = some t) : Calm settings t := by
  rw [ConnectedSystem.acceptStep] at hstep
  split at hstep
  case h_2 => cases hstep
  case h_1 route value hphase =>
    cases hstep
    apply (hcalm.markSuccess route).setCall
    refine ⟨hcall.ready, fun _ => trivial, fun hleg => ?_⟩
    have hbalanced := hcall.balanced hleg
    rwa [BalancedOk, hphase] at hbalanced

theorem Calm.judgeStep [DecidableEq ι] [DecidableEq κ]
    (hcall : CallOk settings s.routes call)
    (hstep : s.judgeStep settings id call = some t) : Calm settings t := by
  rw [ConnectedSystem.judgeStep] at hstep
  split at hstep
  case h_2 => cases hstep
  case h_1 route failure hphase =>
    cases hstep
    cases hleg : call.leg with
    | true =>
      have hlegOk := hcall.leg hleg
      rw [LegOk, hphase] at hlegOk
      rw [if_neg (fun hboth => nomatch hboth.1)]
      apply hcalm.setCall
      refine ⟨hcall.ready, fun _ => ?_, nofun⟩
      rw [LegOk, judged, if_pos hleg, hlegOk]
      trivial
    | false =>
      have hbalanced := hcall.balanced hleg
      rw [BalancedOk, hphase] at hbalanced
      obtain ⟨hraised, hdependency, hkind⟩ := hbalanced
      rw [hdependency, if_neg (fun hboth => nomatch hboth.2)]
      apply hcalm.setCall
      refine ⟨hcall.ready, nofun, fun _ => ?_⟩
      have hjudged : judged settings call route failure =
          .raised failure.str := by
        rw [judged, hleg, hkind]
        rfl
      rw [BalancedOk, hjudged]
      exact ⟨route, failure, hraised, rfl⟩

end

theorem Calm.markStep [DecidableEq ρ] [DecidableEq κ]
    (hcall : CallOk settings s.routes call)
    (hstep : s.markStep settings id call now = some t) : False := by
  rw [ConnectedSystem.markStep] at hstep
  cases hphase : call.phase with
  | marking route message =>
    have hbalanced := hcall.balanced_of (by rw [LegOk, hphase]; exact not_false)
    rwa [BalancedOk, hphase] at hbalanced
  | _ =>
    rw [hphase] at hstep
    cases hstep

theorem recordedMethods_of_calm (hcalm : Calm settings s) (route : ρ) :
    s.recordedMethods route = ∅ := by
  rw [recordedMethods, hcalm.unrecorded]
  rfl

theorem Calm.heartbeat [DecidableEq ρ] (hcalm : Calm settings s) (route : ρ) :
    let methods := s.recordedMethods route
    Calm settings { s with
      reportedFailures :=
        Function.update s.reportedFailures route methods } := by
  intro methods
  have hmethods : methods = s.reportedFailures route := by
    rw [hcalm.reported]
    exact recordedMethods_of_calm hcalm route
  rw [hmethods, Function.update_eq_self]
  exact hcalm

theorem Calm.refresh (hcalm : Calm settings s) :
    Calm settings { s with snapshotFailures := s.reportedFailures } where
  closed := hcalm.closed
  methodBlacklist := hcalm.methodBlacklist
  snapshot := hcalm.reported
  reported := hcalm.reported
  unrecorded := hcalm.unrecorded
  calls := hcalm.calls

variable [DecidableEq ρ] [DecidableEq ι] [DecidableEq κ]

theorem Calm.startLeg (hcalm : Calm settings s) {method : Text} {probes : Bool}
    (hstep : s.step settings (.startLeg id method route probes now) = some t) :
    Calm settings t := by
  simp only [ConnectedSystem.step, askBreakers_of_calm hcalm] at hstep
  split at hstep
  case isFalse => cases hstep
  case isTrue hroute =>
    have hsession : route ∈ s.routes :=
      List.mem_of_mem_filter (List.mem_of_mem_filter hroute.1)
    refine (hcalm.probeRoute probes route now).startCall ?_ hstep
    refine ⟨?_, fun _ => trivial, nofun⟩
    rw [probeRoute_routes]
    exact List.ne_nil_of_mem hsession

theorem Calm.step (hcalm : Calm settings s) {label : ConnectedLabel ρ κ β}
    (hfits : Fits settings s label) (hstep : s.step settings label = some t) :
    Calm settings t := by
  cases label with
  | startBalanced id method maxAttempts =>
    simp only [ConnectedSystem.step] at hstep
    split at hstep
    case isTrue => cases hstep
    case isFalse hroutes =>
      refine hcalm.startCall ?_ hstep
      exact ⟨hroutes, nofun,
        fun _ => ⟨rfl, rfl, rfl, lt_max_of_lt_left Nat.zero_lt_one⟩⟩
  | startLeg id method route probes now => exact hcalm.startLeg hstep
  | limit id =>
    obtain ⟨call, hcall, hstep⟩ := Option.bind_eq_some_iff.mp hstep
    exact (Calm.limitStep (hcalm.calls id call hcall) hstep).elim
  | select id route probes now =>
    obtain ⟨call, hcall, hstep⟩ := Option.bind_eq_some_iff.mp hstep
    exact hcalm.selectStep (hcalm.calls id call hcall) hstep
  | selectNone id now =>
    obtain ⟨call, hcall, hstep⟩ := Option.bind_eq_some_iff.mp hstep
    exact (hcalm.selectNoneStep (hcalm.calls id call hcall) hstep).elim
  | reply id reply =>
    obtain ⟨call, hcall, hstep⟩ := Option.bind_eq_some_iff.mp hstep
    exact hcalm.replyStep (hcalm.calls id call hcall) (hfits call hcall) hstep
  | accept id =>
    obtain ⟨call, hcall, hstep⟩ := Option.bind_eq_some_iff.mp hstep
    exact hcalm.acceptStep (hcalm.calls id call hcall) hstep
  | judge id =>
    obtain ⟨call, hcall, hstep⟩ := Option.bind_eq_some_iff.mp hstep
    exact hcalm.judgeStep (hcalm.calls id call hcall) hstep
  | mark id now =>
    obtain ⟨call, hcall, hstep⟩ := Option.bind_eq_some_iff.mp hstep
    exact (Calm.markStep (hcalm.calls id call hcall) hstep).elim
  | heartbeat route =>
    cases hstep
    exact hcalm.heartbeat route
  | refresh =>
    cases hstep
    exact hcalm.refresh

omit [DecidableEq ρ] [DecidableEq ι] [DecidableEq κ] in
theorem calm_initial (settings : ConnectedSettings) (routes : List ρ)
    (nodeOf : ρ → ι) :
    Calm settings (initial routes nodeOf : ConnectedSystem ρ ι κ β) where
  closed := nofun
  methodBlacklist _ := rfl
  snapshot _ := rfl
  reported _ := rfl
  unrecorded _ := rfl
  calls := nofun

theorem calm_of_guardedRun {nodeOf : ρ → ι}
    (hrun : GuardedRun (ConnectedSystem.step (κ := κ) (β := β) settings)
      (Fits settings) (initial routes nodeOf) s) : Calm settings s :=
  hrun.invariant (Calm settings) (calm_initial settings routes nodeOf)
    fun _ _ _ hcalm hfits hstep => hcalm.step hfits hstep

end ConnectedSystem

end PycloudParallel.ServiceCalls
