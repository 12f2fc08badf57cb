import PycloudParallel.OwnerCallsModel

/-!
# User errors on an owner's handle

While the texts of user errors read as user errors and no breaker is brought to
its threshold, every breaker stays closed, no node is put on a blacklist and
every balanced call is sent once.
-/

namespace PycloudParallel.ServiceCalls

open CallFailover

variable {ι κ β : Type} [DecidableEq ι]

namespace OwnerSystem

section Fits

variable (settings : OwnerSettings)

def userException (error : UserException) : UserException :=
  sessionCallError settings
    (raisedAnswer settings.lower settings.dependencyMode error)

def EndsCall (sessions : List ι) (call : OwnerCall ι β)
    (error : UserException) : Prop :=
  (isDependencyRuntimeError settings.lower error = false ∨
      strip call.method = []) ∧
    (failureKind settings error = .remoteUserFailed ∨ call.tries = 0 ∨
      sessions.length ≤ call.excluded.length)

/-- A result, or a user error that the node does not record and that ends a
balanced call. -/
def OutcomeFits (sessions : List ι) (call : OwnerCall ι β) :
    ReplicaOutcome β → Prop
  | .result _ => True
  | .raised error =>
    (workerReport settings.lower settings.dependencyMode error).status ≠
        .failedDependency ∧
      (call.leg = false →
        EndsCall settings sessions call (userException settings error))
  | .broken _ => False

def counted (call : OwnerCall ι β) : Option ι :=
  match call.phase with
  | .counting node _ => some node
  | _ => none

def CountFits (s : OwnerSystem ι κ β) (call : OwnerCall ι β) : Prop :=
  ∀ node ∈ counted call,
    (s.breakers node).consecutiveFailures + 1 < settings.breaker.threshold

def Fits (s : OwnerSystem ι κ β) : OwnerLabel ι κ β → Prop
  | .reply id outcome => ∀ call ∈ s.calls id,
    OutcomeFits settings s.sessions call outcome
  | .count id _ => ∀ call ∈ s.calls id, CountFits settings s call
  | _ => True

instance (sessions : List ι) (call : OwnerCall ι β) (error : UserException) :
    Decidable (EndsCall settings sessions call error) :=
  inferInstanceAs (Decidable (_ ∧ _))

instance (sessions : List ι) (call : OwnerCall ι β) :
    (outcome : ReplicaOutcome β) →
      Decidable (OutcomeFits settings sessions call outcome)
  | .result _ => isTrue trivial
  | .raised _ => inferInstanceAs (Decidable (_ ∧ _))
  | .broken _ => isFalse id

instance (s : OwnerSystem ι κ β) (call : OwnerCall ι β) :
    Decidable (CountFits settings s call) :=
  inferInstanceAs (Decidable (∀ node ∈ counted call, _ < _))

instance (s : OwnerSystem ι κ β) :
    (label : OwnerLabel ι κ β) → Decidable (Fits settings s label)
  | .reply id outcome => inferInstanceAs (Decidable (∀ call ∈ s.calls id,
      OutcomeFits settings s.sessions call outcome))
  | .count id _ => inferInstanceAs (Decidable (∀ call ∈ s.calls id,
      CountFits settings s call))
  | .startBalanced _ _ _ | .startLeg _ _ _ | .select _ _ _
  | .selectNone _ _ | .exhaust _ | .invoke _ _ | .accept _ | .blacklist _
  | .judge _ | .heartbeat _ => isTrue trivial

def Raised (call : OwnerCall ι β) (node : ι) (error : UserException) : Prop :=
  ∃ raised, call.asked = [(node, .raised raised)] ∧
    error = userException settings raised

def BalancedOk (sessions : List ι) (call : OwnerCall ι β) : Prop :=
  match call.phase with
  | .selecting =>
    (call.asked = [] ∧ call.excluded = [] ∧ 0 < call.tries) ∨
      (call.tries = 0 ∧ ∃ node error, Raised settings call node error ∧
        call.lastError = error.raised.message)
  | .selected node | .sent node => call.asked = [] ∧ call.excluded = [node]
  | .answered node value | .returned node value =>
    call.asked = [(node, .result value)]
  | .failing node error | .counting node error | .judging node error =>
    Raised settings call node error ∧ EndsCall settings sessions call error
  | .raised message => ∃ node error, Raised settings call node error ∧
      error.raised.message <:+: message

def LegOk (call : OwnerCall ι β) : Prop :=
  match call.phase with
  | .selecting | .failing _ _ | .judging _ _ => False
  | _ => True

def AtReplica (sessions : List ι) (call : OwnerCall ι β) : Prop :=
  match call.phase with
  | .selected node | .sent node => node ∈ sessions
  | _ => True

structure CallOk (sessions : List ι) (call : OwnerCall ι β) : Prop where
  ready : sessions ≠ []
  replica : AtReplica sessions call
  leg : call.leg = true → LegOk call
  balanced : call.leg = false → BalancedOk settings sessions call

structure Calm (s : OwnerSystem ι κ β) : Prop where
  closed : ∀ node, (s.breakers node).state = .closed
  methodBlacklist : ∀ method, s.methodBlacklist method = ∅
  ownerBlacklist : s.ownerBlacklist = ∅
  active : s.active = s.sessions.toFinset
  unrecorded : ∀ node, (s.nodes node).methodFailures = ∅
  calls : ∀ id call, s.calls id = some call →
    CallOk settings s.sessions call

end Fits

variable {settings : OwnerSettings} {s t : OwnerSystem ι κ β}

variable {call : OwnerCall ι β}

omit [DecidableEq ι] in
theorem CallOk.balanced_of {sessions : List ι}
    (hcall : CallOk settings sessions call) (hat : ¬LegOk call) :
    call.leg = false := by
  cases hleg : call.leg with
  | false => rfl
  | true => exact (hat (hcall.leg hleg)).elim

theorem Calm.setBreaker (hcalm : Calm settings s) {node : ι}
    {breaker : CandidateBreakerState} (hclosed : breaker.state = .closed) :
    Calm settings (s.setBreaker node breaker) where
  closed other := by
    show (Function.update s.breakers node breaker other).state = .closed
    by_cases hnode : other = node
    · rw [hnode, Function.update_self]
      exact hclosed
    · rw [Function.update_of_ne hnode]
      exact hcalm.closed other
  methodBlacklist := hcalm.methodBlacklist
  ownerBlacklist := hcalm.ownerBlacklist
  active := hcalm.active
  unrecorded := hcalm.unrecorded
  calls := hcalm.calls

theorem askBreakers_of_calm (hcalm : Calm settings s) (call : OwnerCall ι β)
    (now : ℚ) : s.askBreakers call now = s := by
  have hbreakers : (fun node => if node ∈ s.eligible call then
      ((s.breakers node).candidateAllowed now).1 else s.breakers node) =
        s.breakers := by
    funext node
    rw [CandidateBreakerState.candidateAllowed_closed (hcalm.closed node),
      ite_self]
  rw [askBreakers, hbreakers]

theorem candidates_of_calm (hcalm : Calm settings s)
    (hexcluded : call.excluded = []) (now : ℚ) :
    s.candidates call now = s.sessions := by
  have heligible : s.eligible call = s.sessions := by
    rw [eligible, List.filter_eq_self]
    intro node hnode
    rw [hexcluded, hcalm.methodBlacklist, hcalm.active, decide_eq_true_eq]
    exact ⟨List.not_mem_nil, Finset.notMem_empty node,
      List.mem_toFinset.mpr hnode⟩
  rw [candidates, heligible, List.filter_eq_self]
  intro node _
  rw [CandidateBreakerState.candidateAllowed_closed (hcalm.closed node)]

theorem blacklistMethods_empty (node : ι) :
    s.blacklistMethods settings node ∅ = s := by
  rw [blacklistMethods, if_pos rfl]

theorem reportedMethods_of_calm (hcalm : Calm settings s) (node : ι) :
    s.reportedMethods node = ∅ := by
  rw [reportedMethods, hcalm.unrecorded]
  rfl

theorem recordOutcome_of_fits {outcome : ReplicaOutcome β}
    (hfits : OutcomeFits settings s.sessions call outcome) (node : ι)
    (method : Text) : s.recordOutcome settings node method outcome = s := by
  cases outcome with
  | result value => rfl
  | broken error => exact hfits.elim
  | raised error =>
    have hsession := invokeFailure_unrecorded (s.nodes node) method hfits.1
    simp [recordOutcome, hsession]

theorem callOk_replied (hcalm : Calm settings s)
    (hcall : CallOk settings s.sessions call) {node : ι}
    (hphase : call.phase = .sent node) {outcome : ReplicaOutcome β}
    (hfits : OutcomeFits settings s.sessions call outcome) :
    CallOk settings s.sessions { call with
      asked := call.asked ++ [(node, outcome)]
      phase := s.replied settings call node outcome } := by
  have hreplica := hcall.replica
  rw [AtReplica, hphase] at hreplica
  have hactive : node ∈ s.active := by
    rw [hcalm.active]
    exact List.mem_toFinset.mpr hreplica
  have hasked : call.leg = false →
      call.asked ++ [(node, outcome)] = [(node, outcome)] := by
    intro hleg
    have hbalanced := hcall.balanced hleg
    rw [BalancedOk, hphase] at hbalanced
    rw [hbalanced.1, List.nil_append]
  cases outcome with
  | broken error => exact hfits.elim
  | result value =>
    rw [replied, if_pos (Or.inr hactive)]
    exact ⟨hcall.ready, trivial, fun _ => trivial, hasked⟩
  | raised error =>
    rw [replied]
    cases hleg : call.leg with
    | true =>
      simp only [if_true]
      exact ⟨hcall.ready, trivial, fun _ => trivial, nofun⟩
    | false =>
      simp only [Bool.false_eq_true, if_false]
      exact ⟨hcall.ready, trivial, nofun,
        fun _ => ⟨⟨error, hasked hleg, rfl⟩, hfits.2 hleg⟩⟩

theorem Calm.heartbeat (hcalm : Calm settings s) (node : ι) :
    s.blacklistMethods settings node (s.reportedMethods node) = s := by
  rw [reportedMethods_of_calm hcalm, blacklistMethods_empty]

/-! ## Steps -/

section Steps

variable [DecidableEq κ]

variable {call : OwnerCall ι β} {id : κ} {now : ℚ}

section

variable (hcalm : Calm settings s)

include hcalm

variable (hcall : CallOk settings s.sessions call)

include hcall

theorem Calm.setCall : Calm settings (s.setCall id call) where
  closed := hcalm.closed
  methodBlacklist := hcalm.methodBlacklist
  ownerBlacklist := hcalm.ownerBlacklist
  active := hcalm.active
  unrecorded := hcalm.unrecorded
  calls other found hfound := by
    have hupdate : Function.update s.calls id (some call) other =
        some found := hfound
    by_cases hid : other = id
    · rw [hid, Function.update_self, Option.some.injEq] at hupdate
      rw [← hupdate]
      exact hcall
    · rw [Function.update_of_ne hid] at hupdate
      exact hcalm.calls other found hupdate

theorem Calm.startCall (hstep : s.startCall id call = some t) :
    Calm settings t := by
  rw [OwnerSystem.startCall] at hstep
  split at hstep
  · cases hstep
    exact hcalm.setCall hcall
  · cases hstep

theorem Calm.selectStep {node : ι}
    (hstep : s.selectStep id call node now = some t) : Calm settings t := by
  rw [OwnerSystem.selectStep] at hstep
  split at hstep
  case h_2 => cases hstep
  case h_1 hphase =>
    have hleg := hcall.balanced_of (by rw [LegOk, hphase]; exact not_false)
    simp only [askBreakers_of_calm hcalm] at hstep
    split at hstep
    case isFalse => cases hstep
    case isTrue hselect =>
      cases hstep
      have hsession : node ∈ s.sessions :=
        List.mem_of_mem_filter (List.mem_of_mem_filter hselect.2)
      refine hcalm.setCall
        ⟨hcall.ready, hsession, fun _ => trivial, fun _ => ?_⟩
      have hbalanced := hcall.balanced hleg
      rw [BalancedOk, hphase] at hbalanced
      cases hbalanced with
      | inl hfirst =>
        obtain ⟨hasked, hexcluded, _⟩ := hfirst
        show call.asked = [] ∧ node :: call.excluded = [node]
        rw [hexcluded]
        exact ⟨hasked, rfl⟩
      | inr hlast => omega

theorem Calm.selectNoneStep (hstep : s.selectNoneStep id call now = some t) :
    False := by
  rw [OwnerSystem.selectNoneStep] at hstep
  split at hstep
  case h_2 => cases hstep
  case h_1 hphase =>
    have hleg := hcall.balanced_of (by rw [LegOk, hphase]; exact not_false)
    have hbalanced := hcall.balanced hleg
    rw [BalancedOk, hphase] at hbalanced
    split at hstep
    case isFalse => cases hstep
    case isTrue hnone =>
      cases hbalanced with
      | inl hfirst =>
        rw [candidates_of_calm hcalm hfirst.2.1] at hnone
        exact hcall.ready hnone.2
      | inr hlast => omega

theorem Calm.exhaustStep (hstep : s.exhaustStep id call = some t) :
    Calm settings t := by
  rw [OwnerSystem.exhaustStep] at hstep
  split at hstep
  case h_2 => cases hstep
  case h_1 hphase =>
    split at hstep
    case isFalse => cases hstep
    case isTrue htries =>
      cases hstep
      refine hcalm.setCall ⟨hcall.ready, trivial, fun _ => trivial, ?_⟩
      intro hleg
      have hbalanced := hcall.balanced hleg
      rw [BalancedOk, hphase] at hbalanced
      cases hbalanced with
      | inl hfirst => omega
      | inr hlast =>
        obtain ⟨_, node, error, hraised, herror⟩ := hlast
        refine ⟨node, error, hraised, ?_⟩
        rw [← herror]
        exact (List.suffix_append _ _).isInfix

theorem Calm.invokeStep (hstep : s.invokeStep id call now = some t) :
    Calm settings t := by
  rw [OwnerSystem.invokeStep] at hstep
  split at hstep
  case h_2 => cases hstep
  case h_1 node hphase =>
    have hreplica := hcall.replica
    rw [AtReplica, hphase] at hreplica
    simp only [CandidateBreakerState.beforeProbe_closed (hcalm.closed node),
      if_true, Option.some.injEq] at hstep
    subst hstep
    refine (hcalm.setBreaker (hcalm.closed node)).setCall
      ⟨hcall.ready, hreplica, fun _ => trivial, ?_⟩
    intro hleg
    have hbalanced := hcall.balanced hleg
    rw [BalancedOk, hphase] at hbalanced
    exact hbalanced

theorem Calm.replyStep {outcome : ReplicaOutcome β}
    (hfits : OutcomeFits settings s.sessions call outcome)
    (hstep : s.replyStep settings id call outcome = some t) :
    Calm settings t := by
  rw [OwnerSystem.replyStep] at hstep
  split at hstep
  case h_2 => cases hstep
  case h_1 node hphase =>
    simp only [recordOutcome_of_fits hfits, Option.some.injEq] at hstep
    subst hstep
    exact hcalm.setCall (callOk_replied hcalm hcall hphase hfits)

theorem Calm.acceptStep (hstep : s.acceptStep id call = some t) :
    Calm settings t := by
  rw [OwnerSystem.acceptStep] at hstep
  split at hstep
  case h_2 => cases hstep
  case h_1 node value hphase =>
    cases hstep
    have hfresh : CandidateBreakerState.fresh.state = .closed := rfl
    refine (hcalm.setBreaker hfresh).setCall
      ⟨hcall.ready, trivial, fun _ => trivial, ?_⟩
    intro hleg
    have hbalanced := hcall.balanced hleg
    rwa [BalancedOk, hphase] at hbalanced

theorem Calm.blacklistStep (hstep : s.blacklistStep settings id call = some t) :
    Calm settings t := by
  rw [OwnerSystem.blacklistStep] at hstep
  split at hstep
  case h_2 => cases hstep
  case h_1 node error hphase =>
    have hleg := hcall.balanced_of (by rw [LegOk, hphase]; exact not_false)
    have hbalanced := hcall.balanced hleg
    rw [BalancedOk, hphase] at hbalanced
    have hnone : ¬(isDependencyRuntimeError settings.lower error = true ∧
        strip call.method ≠ []) := by
      intro hboth
      cases hbalanced.2.1 with
      | inl hdependency =>
        rw [hdependency] at hboth
        cases hboth.1
      | inr hblank => exact hboth.2 hblank
    simp only [if_neg hnone, blacklistMethods_empty, Option.some.injEq]
      at hstep
    subst hstep
    exact hcalm.setCall
      ⟨hcall.ready, trivial, fun _ => trivial, fun _ => hbalanced⟩

theorem Calm.countStep (hbelow : CountFits settings s call)
    (hstep : s.countStep settings id call now = some t) : Calm settings t := by
  rw [OwnerSystem.countStep] at hstep
  split at hstep
  case h_2 => cases hstep
  case h_1 node error hphase =>
    cases hstep
    have hcounted : counted call = some node := by
      rw [counted, hphase]
    have hclosed := CandidateBreakerState.markFailure_closed
      (hcalm.closed node) (hbelow node hcounted) now
    refine (hcalm.setBreaker hclosed).setCall ?_
    cases hleg : call.leg with
    | true => exact ⟨hcall.ready, trivial, fun _ => trivial, nofun⟩
    | false =>
      have hbalanced := hcall.balanced hleg
      rw [BalancedOk, hphase] at hbalanced
      exact ⟨hcall.ready, trivial, nofun, fun _ => hbalanced⟩

end

omit [DecidableEq ι] in
theorem endsCall_judged {sessions : List ι} {error : UserException}
    (hends : EndsCall settings sessions call error)
    (hgoesOn : shouldFailover (failureKind settings error)
      (call.excluded.length < sessions.length) = true) : call.tries = 0 := by
  have hleft : call.excluded.length < sessions.length := by
    rw [shouldFailover.eq_def, Bool.and_eq_true, decide_eq_true_eq]
      at hgoesOn
    exact hgoesOn.1
  obtain huser | htries | hnone := hends.2
  · rw [huser, shouldFailover, Bool.and_false] at hgoesOn
    cases hgoesOn
  · exact htries
  · omega

theorem Calm.judgeStep (hcalm : Calm settings s)
    (hcall : CallOk settings s.sessions call)
    (hstep : s.judgeStep settings id call = some t) : Calm settings t := by
  rw [OwnerSystem.judgeStep] at hstep
  split at hstep
  case h_2 => cases hstep
  case h_1 node error hphase =>
    have hleg := hcall.balanced_of (by rw [LegOk, hphase]; exact not_false)
    have hbalanced := hcall.balanced hleg
    rw [BalancedOk, hphase] at hbalanced
    obtain ⟨hraised, hends⟩ := hbalanced
    cases hstep
    apply hcalm.setCall
    split
    case isTrue hgoesOn =>
      have htries := endsCall_judged hends hgoesOn
      refine ⟨hcall.ready, trivial, fun hother => ?_, fun _ => Or.inr ?_⟩
      · rw [hleg] at hother
        cases hother
      · exact ⟨htries, node, error, hraised, rfl⟩
    case isFalse =>
      exact ⟨hcall.ready, trivial, fun _ => trivial,
        fun _ => ⟨node, error, hraised, List.infix_rfl⟩⟩

theorem Calm.step (hcalm : Calm settings s) {label : OwnerLabel ι κ β}
    (hfits : Fits settings s label) (hstep : s.step settings label = some t) :
    Calm settings t := by
  cases label with
  | startBalanced id method maxAttempts =>
    simp only [OwnerSystem.step] at hstep
    split at hstep
    case isTrue => cases hstep
    case isFalse hsessions =>
      refine hcalm.startCall ?_ hstep
      exact ⟨hsessions, trivial, nofun,
        fun _ => Or.inl ⟨rfl, rfl, lt_max_of_lt_left Nat.zero_lt_one⟩⟩
  | startLeg id method node =>
    simp only [OwnerSystem.step] at hstep
    split at hstep
    case isFalse => cases hstep
    case isTrue hnode =>
      refine hcalm.startCall ?_ hstep
      exact ⟨List.ne_nil_of_mem hnode.1, hnode.1, fun _ => trivial, nofun⟩
  | select id node now =>
    obtain ⟨call, hcall, hstep⟩ := Option.bind_eq_some_iff.mp hstep
    exact hcalm.selectStep (hcalm.calls id call hcall) hstep
  | selectNone id now =>
    obtain ⟨call, hcall, hstep⟩ := Option.bind_eq_some_iff.mp hstep
    exact (hcalm.selectNoneStep (hcalm.calls id call hcall) hstep).elim
  | exhaust id =>
    obtain ⟨call, hcall, hstep⟩ := Option.bind_eq_some_iff.mp hstep
    exact hcalm.exhaustStep (hcalm.calls id call hcall) hstep
  | invoke id now =>
    obtain ⟨call, hcall, hstep⟩ := Option.bind_eq_some_iff.mp hstep
    exact hcalm.invokeStep (hcalm.calls id call hcall) hstep
  | reply id outcome =>
    obtain ⟨call, hcall, hstep⟩ := Option.bind_eq_some_iff.mp hstep
    exact hcalm.replyStep (hcalm.calls id call hcall) (hfits call hcall) hstep
  | accept id =>
    obtain ⟨call, hcall, hstep⟩ := Option.bind_eq_some_iff.mp hstep
    exact hcalm.acceptStep (hcalm.calls id call hcall) hstep
  | blacklist id =>
    obtain ⟨call, hcall, hstep⟩ := Option.bind_eq_some_iff.mp hstep
    exact hcalm.blacklistStep (hcalm.calls id call hcall) hstep
  | count id now =>
    obtain ⟨call, hcall, hstep⟩ := Option.bind_eq_some_iff.mp hstep
    exact hcalm.countStep (hcalm.calls id call hcall) (hfits call hcall) hstep
  | judge id =>
    obtain ⟨call, hcall, hstep⟩ := Option.bind_eq_some_iff.mp hstep
    exact hcalm.judgeStep (hcalm.calls id call hcall) hstep
  | heartbeat node =>
    simp only [OwnerSystem.step, hcalm.heartbeat, Option.some.injEq] at hstep
    rwa [← hstep]

end Steps

theorem calm_initial (settings : OwnerSettings) (sessions : List ι) :
    Calm settings (initial sessions : OwnerSystem ι κ β) where
  closed _ := rfl
  methodBlacklist _ := rfl
  ownerBlacklist := rfl
  active := rfl
  unrecorded _ := rfl
  calls := nofun

theorem calm_of_guardedRun [DecidableEq κ] {sessions : List ι}
    (hrun : GuardedRun (OwnerSystem.step (κ := κ) (β := β) settings)
      (Fits settings) (initial sessions) s) : Calm settings s :=
  hrun.invariant (Calm settings) (calm_initial settings sessions)
    fun _ _ _ hcalm hfits hstep => hcalm.step hfits hstep

end OwnerSystem

end PycloudParallel.ServiceCalls
