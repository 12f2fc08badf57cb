import PycloudParallel.OwnerCallsHealth
import PycloudParallel.ConnectedCallsHealth

/-!
# Healthy handles

What calls that are answered with results and user errors may not change, for
an owner's handle and for a connected one.
-/

namespace PycloudParallel.ServiceCalls

open CallFailover

variable {ι κ ρ β : Type}

namespace OwnerSystem

/-- A balanced call is sent at most once, and when it has ended it was sent
once and ends with the answer. -/
def AnsweredOnce (settings : OwnerSettings) (call : OwnerCall ι β) : Prop :=
  match call.phase with
  | .returned node value => call.asked = [(node, .result value)]
  | .raised message => ∃ node error, Raised settings call node error ∧
      error.raised.message <:+: message
  | _ => call.asked.length ≤ 1

structure Healthy [DecidableEq ι] (settings : OwnerSettings)
    (s : OwnerSystem ι κ β) : Prop where
  closed : ∀ node, (s.breakers node).state = .closed
  methodBlacklist : ∀ method, s.methodBlacklist method = ∅
  ownerBlacklist : s.ownerBlacklist = ∅
  active : s.active = s.sessions.toFinset
  inRotation : ∀ call now, call.excluded = [] →
    s.candidates call now = s.sessions
  selects : ∀ id call, s.calls id = some call → call.leg = false →
    call.phase = .selecting → 0 < call.tries →
      call.excluded = [] ∧ s.sessions ≠ []
  answered : ∀ id call, s.calls id = some call → call.leg = false →
    AnsweredOnce settings call

variable [DecidableEq ι] {settings : OwnerSettings} {s : OwnerSystem ι κ β}

omit [DecidableEq ι] in
theorem BalancedOk.answeredOnce {sessions : List ι} {call : OwnerCall ι β}
    (hbalanced : BalancedOk settings sessions call) :
    AnsweredOnce settings call := by
  rw [BalancedOk.eq_def] at hbalanced
  rw [AnsweredOnce.eq_def]
  have hraised : ∀ {node error}, Raised settings call node error →
      call.asked.length ≤ 1 := by
    intro node error hraised
    obtain ⟨raised, hasked, _⟩ := hraised
    rw [hasked, List.length_singleton]
  cases hphase : call.phase with
  | selecting =>
    rw [hphase] at hbalanced
    cases hbalanced with
    | inl hfirst =>
      show call.asked.length ≤ 1
      rw [hfirst.1]
      exact Nat.zero_le 1
    | inr hlast =>
      obtain ⟨_, node, error, hlast, _⟩ := hlast
      exact hraised hlast
  | selected node | sent node =>
    rw [hphase] at hbalanced
    show call.asked.length ≤ 1
    rw [hbalanced.1]
    exact Nat.zero_le 1
  | answered node value =>
    rw [hphase] at hbalanced
    show call.asked.length ≤ 1
    rw [hbalanced, List.length_singleton]
  | failing node error | counting node error | judging node error =>
    rw [hphase] at hbalanced
    exact hraised hbalanced.1
  | returned node value | raised message =>
    rw [hphase] at hbalanced
    exact hbalanced

theorem Calm.healthy (hcalm : Calm settings s) : Healthy settings s where
  closed := hcalm.closed
  methodBlacklist := hcalm.methodBlacklist
  ownerBlacklist := hcalm.ownerBlacklist
  active := hcalm.active
  inRotation _ now hexcluded := candidates_of_calm hcalm hexcluded now
  selects id call hcall hleg hphase htries := by
    have hok := hcalm.calls id call hcall
    have hbalanced := hok.balanced hleg
    rw [BalancedOk, hphase] at hbalanced
    cases hbalanced with
    | inl hfirst => exact ⟨hfirst.2.1, hok.ready⟩
    | inr hlast => omega
  answered id call hcall hleg :=
    ((hcalm.calls id call hcall).balanced hleg).answeredOnce

end OwnerSystem

/-! ## The connected handle -/

namespace ConnectedSystem

def AnsweredOnce (settings : ConnectedSettings) (call : ConnectedCall ρ β) :
    Prop :=
  match call.phase with
  | .returned route value => call.asked = [(route, .result value)]
  | .raised message => ∃ route failure, Raised settings call route failure ∧
      message = failure.str
  | _ => call.asked.length ≤ 1

structure Healthy [DecidableEq ρ] (settings : ConnectedSettings)
    (s : ConnectedSystem ρ ι κ β) : Prop where
  closed : ∀ route breaker, s.breakers route = some breaker →
    breaker.state = .closed
  methodBlacklist : ∀ method, s.methodBlacklist method = ∅
  snapshot : ∀ route, s.snapshotFailures route = ∅
  inRotation : ∀ call now, call.tried = [] →
    s.candidates call now = s.routes
  selects : ∀ id call, s.calls id = some call → call.leg = false →
    call.phase = .selecting → call.tried = [] ∧ s.routes ≠ []
  answered : ∀ id call, s.calls id = some call → call.leg = false →
    AnsweredOnce settings call

variable {settings : ConnectedSettings} {s : ConnectedSystem ρ ι κ β}

theorem BalancedOk.answeredOnce {call : ConnectedCall ρ β}
    (hbalanced : BalancedOk settings call) : AnsweredOnce settings call := by
  rw [BalancedOk.eq_def] at hbalanced
  rw [AnsweredOnce.eq_def]
  cases hphase : call.phase with
  | selecting =>
    rw [hphase] at hbalanced
    show call.asked.length ≤ 1
    rw [hbalanced.1]
    exact Nat.zero_le 1
  | sent route =>
    rw [hphase] at hbalanced
    show call.asked.length ≤ 1
    rw [hbalanced]
    exact Nat.zero_le 1
  | answered route value =>
    rw [hphase] at hbalanced
    show call.asked.length ≤ 1
    rw [hbalanced, List.length_singleton]
  | failing route failure =>
    rw [hphase] at hbalanced
    obtain ⟨⟨error, hasked, _⟩, _⟩ := hbalanced
    show call.asked.length ≤ 1
    rw [hasked, List.length_singleton]
  | marking route message =>
    rw [hphase] at hbalanced
    exact hbalanced.elim
  | returned route value | raised message =>
    rw [hphase] at hbalanced
    exact hbalanced

theorem Calm.healthy [DecidableEq ρ] (hcalm : Calm settings s) :
    Healthy settings s where
  closed := hcalm.closed
  methodBlacklist := hcalm.methodBlacklist
  snapshot := hcalm.snapshot
  inRotation _ now htried := candidates_of_calm hcalm htried now
  selects id call hcall hleg hphase := by
    have hok := hcalm.calls id call hcall
    have hbalanced := hok.balanced hleg
    rw [BalancedOk, hphase] at hbalanced
    exact ⟨hbalanced.2.1, hok.ready⟩
  answered id call hcall hleg :=
    ((hcalm.calls id call hcall).balanced hleg).answeredOnce

end ConnectedSystem

/-- Along every run whose replies are results and user errors that read as user
errors, and in which no count reaches the threshold, both handles keep every
replica in rotation. -/
theorem handles_stay_healthy [DecidableEq ι] [DecidableEq κ] [DecidableEq ρ]
    (owner : OwnerSettings) (connected : ConnectedSettings) :
    (∀ (sessions : List ι) (s : OwnerSystem ι κ β),
      GuardedRun (OwnerSystem.step owner) (OwnerSystem.Fits owner)
        (.initial sessions) s → s.Healthy owner) ∧
    (∀ (routes : List ρ) (nodeOf : ρ → ι) (s : ConnectedSystem ρ ι κ β),
      GuardedRun (ConnectedSystem.step connected)
        (ConnectedSystem.Fits connected) (.initial routes nodeOf) s →
          s.Healthy connected) :=
  ⟨fun _ _ hrun => (OwnerSystem.calm_of_guardedRun hrun).healthy,
    fun _ _ _ hrun => (ConnectedSystem.calm_of_guardedRun hrun).healthy⟩

def sampleOwner : OwnerSettings where
  breaker := ⟨3, 5, 60⟩
  lower := List.map Char.toLower
  repr := id
  dependencyMode := .prebuilt
  exportedMethods := ["work".toList]

def sampleConnected : ConnectedSettings where
  openSec := 5
  routeLimit := 500
  lower := List.map Char.toLower
  repr _ := "DiscoveryCallError".toList
  dependencyMode := .prebuilt
  noRoute := "no available route".toList

def userError : UserException :=
  ⟨⟨"UserError".toList, "bad".toList, "UserError('bad')".toList, false,
    false, false, false, [], none⟩, []⟩

def ownerCall (error : UserException) (id : ℕ) : List (OwnerLabel ℕ ℕ ℕ) :=
  [.startBalanced id "work".toList 0, .select id 0 0, .invoke id 0,
    .reply id (.raised error), .blacklist id, .count id 0, .judge id]

def connectedCall (error : UserException) (id : ℕ) :
    List (ConnectedLabel ℕ ℕ ℕ) :=
  [.startBalanced id "work".toList 0, .select id 0 true 0,
    .reply id (.raised error), .judge id]

def ownerSample : Option (OwnerSystem ℕ ℕ ℕ) :=
  checkedRun (OwnerSystem.step sampleOwner) (OwnerSystem.Fits sampleOwner)
    (.initial [0, 1]) ((List.range 2).flatMap (ownerCall userError))

def connectedSample : Option (ConnectedSystem ℕ ℕ ℕ ℕ) :=
  checkedRun (ConnectedSystem.step sampleConnected)
    (ConnectedSystem.Fits sampleConnected) (.initial [0, 1] id)
    ((List.range 4).flatMap (connectedCall userError))

/-- Two user errors on the owner's handle and four on a connected one. -/
theorem samples_stay_healthy :
    (∃ s, ownerSample = some s ∧ s.Healthy sampleOwner) ∧
      ∃ s, connectedSample = some s ∧ s.Healthy sampleConnected := by
  have howner : ownerSample.isSome = true := by decide +kernel
  have hconnected : connectedSample.isSome = true := by decide +kernel
  obtain ⟨s, hs⟩ := Option.isSome_iff_exists.mp howner
  obtain ⟨t, ht⟩ := Option.isSome_iff_exists.mp hconnected
  have hhealthy := handles_stay_healthy (ι := ℕ) (κ := ℕ) (ρ := ℕ) (β := ℕ)
    sampleOwner sampleConnected
  exact ⟨⟨s, hs, hhealthy.1 _ s (guardedRun_of_checkedRun _ hs)⟩,
    t, ht, hhealthy.2 _ _ t (guardedRun_of_checkedRun _ ht)⟩

/-- Every answer is a result or an exception that is no `ImportError`. -/
def OwnerLabel.Answers : OwnerLabel ι κ β → Prop
  | .reply _ (.raised error) => error.FreeOfDependencies
  | .reply _ (.broken _) => False
  | _ => True

def ConnectedLabel.Answers : ConnectedLabel ρ κ β → Prop
  | .reply _ (.raised error) => error.FreeOfDependencies
  | .reply _ (.refused _) | .reply _ (.broken _) => False
  | _ => True

instance (error : UserException) : Decidable error.FreeOfDependencies :=
  inferInstanceAs (Decidable (∀ item ∈ error.chain, _ ∧ _))

instance : (label : OwnerLabel ι κ β) → Decidable label.Answers
  | .reply _ (.raised error) =>
    inferInstanceAs (Decidable error.FreeOfDependencies)
  | .reply _ (.broken _) => isFalse id
  | .reply _ (.result _) => isTrue trivial
  | .startBalanced _ _ _ | .startLeg _ _ _ | .select _ _ _
  | .selectNone _ _ | .exhaust _ | .invoke _ _ | .accept _ | .blacklist _
  | .count _ _ | .judge _ | .heartbeat _ => isTrue trivial

instance : (label : ConnectedLabel ρ κ β) → Decidable label.Answers
  | .reply _ (.raised error) =>
    inferInstanceAs (Decidable error.FreeOfDependencies)
  | .reply _ (.refused _) | .reply _ (.broken _) => isFalse id
  | .reply _ (.result _) => isTrue trivial
  | .startBalanced _ _ _ | .startLeg _ _ _ _ _ | .limit _ | .select _ _ _ _
  | .selectNone _ _ | .accept _ | .judge _ | .mark _ _ | .heartbeat _
  | .refresh => isTrue trivial

def valueError : UserException :=
  ⟨⟨"ValueError".toList, "bad".toList, "ValueError('bad')".toList, false,
    false, false, false, [], none⟩, []⟩

def ownerBroken : Option (OwnerSystem ℕ ℕ ℕ) :=
  checkedRun (OwnerSystem.step sampleOwner) (fun _ label => label.Answers)
    (.initial [0]) ((List.range 3).flatMap (ownerCall valueError))

def connectedBroken : Option (ConnectedSystem ℕ ℕ ℕ ℕ) :=
  checkedRun (ConnectedSystem.step sampleConnected)
    (fun _ label => label.Answers) (.initial [0] id)
    (connectedCall valueError 0 ++ [.mark 0 0])

/-- Three of them open the breaker of the owner's handle, and one opens that
of a connected handle. -/
theorem ordinary_exceptions_open_breakers :
    (∃ s, GuardedRun (OwnerSystem.step sampleOwner)
        (fun _ label => label.Answers) (.initial [0]) s ∧
      ownerBroken = some s ∧ ¬s.Healthy sampleOwner) ∧
    ∃ s, GuardedRun (ConnectedSystem.step sampleConnected)
        (fun _ label => label.Answers) (.initial [0] id) s ∧
      connectedBroken = some s ∧ ¬s.Healthy sampleConnected := by
  have howner : (ownerBroken.map fun s => (s.breakers 0).state) =
      some .opened := by
    decide +kernel
  have hconnected : (connectedBroken.bind fun s => (s.breakers 0).map
      CandidateBreakerState.state) = some .opened := by
    decide +kernel
  obtain ⟨s, hs, hopened⟩ := Option.map_eq_some_iff.mp howner
  obtain ⟨t, ht, hbreaker⟩ := Option.bind_eq_some_iff.mp hconnected
  obtain ⟨breaker, hbreaker, hhalted⟩ := Option.map_eq_some_iff.mp hbreaker
  constructor
  · refine ⟨s, guardedRun_of_checkedRun _ hs, hs, fun hhealthy => ?_⟩
    rw [hhealthy.closed 0] at hopened
    cases hopened
  · refine ⟨t, guardedRun_of_checkedRun _ ht, ht, fun hhealthy => ?_⟩
    rw [hhealthy.closed 0 breaker hbreaker] at hhalted
    cases hhalted

end PycloudParallel.ServiceCalls
