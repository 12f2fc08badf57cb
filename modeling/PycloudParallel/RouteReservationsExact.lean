import PycloudParallel.RouteReservationsModel
import Mathlib.Tactic.NormNum

/-!
# The ledger of reservations

One move of an operation takes or gives at most one reservation, and changes
the counts of the cache by it.  As long as operations end once and refreshes
drop no route that is held, the counts are those of the operations.
-/

namespace PycloudParallel.ServiceRoutes

open ServiceCalls CallFailover

/-! ## The counts after each action -/

def countUnder (key : Route) (routes : List Route) : ℕ :=
  routes.countP fun route => route.stripped = key

@[simp] theorem countUnder_nil (key : Route) : countUnder key [] = 0 := rfl

theorem countUnder_append (key : Route) (routes others : List Route) :
    countUnder key (routes ++ others) =
      countUnder key routes + countUnder key others :=
  List.countP_append

theorem countUnder_singleton (key route : Route) :
    countUnder key [route] = if route.stripped = key then 1 else 0 := by
  unfold countUnder
  by_cases hsame : route.stripped = key <;> simp [hsame]

theorem unnamed_congr {route other : Route}
    (hsame : route.stripped = other.stripped) : route.unnamed = other.unnamed := by
  unfold Route.unnamed
  rw [hsame]

namespace RouteCache

variable (cache : RouteCache)

theorem reserveRoute_count {other : Route} (hnamed : other.unnamed = false)
    (route : Route) :
    (cache.reserveRoute route).localInflight other.stripped =
      cache.localInflight other.stripped + countUnder other.stripped [route] := by
  rw [countUnder_singleton]
  unfold reserveRoute
  by_cases hsame : route.stripped = other.stripped
  · rw [unnamed_congr hsame, hnamed, if_pos hsame]
    simp [setCount, hsame]
  · rw [if_neg hsame]
    split
    · rfl
    · simp [setCount, Ne.symm hsame]

theorem releaseRoute_count {other : Route} (hnamed : other.unnamed = false)
    (route : Route)
    (hheld : countUnder other.stripped [route] ≤
      cache.localInflight other.stripped) :
    (cache.releaseRoute route).localInflight other.stripped +
        countUnder other.stripped [route] =
      cache.localInflight other.stripped := by
  rw [countUnder_singleton] at hheld ⊢
  unfold releaseRoute
  by_cases hsame : route.stripped = other.stripped
  · rw [if_pos hsame] at hheld ⊢
    rw [unnamed_congr hsame, hnamed]
    simp only [setCount, hsame, Bool.false_eq_true, if_false, Function.update_self]
    split <;> omega
  · rw [if_neg hsame]
    split
    · rfl
    · simp [setCount, Ne.symm hsame]

@[simp] theorem closeBreaker_localInflight (route : Route) :
    (cache.closeBreaker route).localInflight = cache.localInflight := by
  unfold closeBreaker
  split <;> rfl

@[simp] theorem routeAvailable_localInflight (now : ℚ) (route : Route) :
    (cache.routeAvailable now route).1.localInflight = cache.localInflight := by
  unfold routeAvailable
  split <;> rfl

theorem forget_nil (name : Text)
    (hnothing : ∀ key : Route, key.serviceName = name →
      cache.localState key = none ∧ cache.localInflight key = 0) :
    cache.forget name [] = cache := by
  unfold forget
  congr 1
  · funext key
    split
    · next hgone => exact (hnothing key hgone.1).1.symm
    · rfl
  · funext key
    split
    · next hgone => exact (hnothing key hgone.1).2.symm
    · rfl

end RouteCache

theorem CacheAction.apply_count {settings : CacheSettings} {now : ℚ}
    {cache : RouteCache} (action : CacheAction) {other : Route}
    (hnamed : other.unnamed = false)
    (hheld : countUnder other.stripped action.given ≤
      cache.localInflight other.stripped) :
    (action.apply settings now cache).localInflight other.stripped +
        countUnder other.stripped action.given =
      cache.localInflight other.stripped +
        countUnder other.stripped action.taken := by
  cases action with
  | none => rfl
  | reserve route => exact cache.reserveRoute_count hnamed route
  | markSuccess route =>
    have hclosed := cache.closeBreaker_localInflight route
    have hcount := (cache.closeBreaker route).releaseRoute_count hnamed route
      (by rw [hclosed]; exact hheld)
    rw [hclosed] at hcount
    exact hcount
  | markFailure route =>
    exact (cache.openBreaker settings now route).releaseRoute_count hnamed route
      hheld
  | release route => exact cache.releaseRoute_count hnamed route hheld

theorem CacheAction.taken_or_given (action : CacheAction) :
    action.taken = [] ∨ action.given = [] := by
  cases action with
  | reserve route => exact .inr rfl
  | none | markSuccess | markFailure | release => exact .inl rfl

/-! ## The reservations of an operation -/

namespace Operation

variable {operation : Operation} {action : CacheAction} {point : OperationPoint}

def Balances (before : List Route) (action : CacheAction)
    (point : OperationPoint) : Prop :=
  before ++ action.taken = action.given ++ point.holds

variable {route : Route} {event : OperationEvent}

theorem judge_balances {failover : Bool}
    (hmove : some (judge route failover) = some (action, point)) :
    Balances [route] action point := by
  cases failover with
  | true | false =>
    cases hmove
    rfl

theorem callingMove_balances {kind : OperationKind}
    (hmove : callingMove kind route event = some (action, point)) :
    Balances [route] action point := by
  cases event with
  | returned => cases kind <;> cases hmove <;> rfl
  | callError failover =>
    cases kind with
    | clientCall | gatewayCall | gatewayStream =>
      exact judge_balances hmove
    | gatewayUpload | clientMethods | gatewayMethods =>
      cases hmove
      rfl
  | raised failover =>
    cases kind with
    | clientCall =>
      exact judge_balances hmove
    | gatewayCall | gatewayStream | gatewayUpload | clientMethods
    | gatewayMethods =>
      cases hmove
      rfl
  | selected other | selectRaised | abandoned => cases hmove

theorem handlingMove_balances
    (hmove : handlingMove route event = some (action, point))
    (hquiet : ∀ failover, event ≠ .raised failover) :
    Balances [route] action point := by
  cases event with
  | callError failover =>
    exact judge_balances hmove
  | raised failover => exact absurd rfl (hquiet failover)
  | selected other | selectRaised | returned | abandoned => cases hmove

theorem streamingMove_balances
    (hmove : streamingMove route event = some (action, point))
    (hread : event ≠ .abandoned) : Balances [route] action point := by
  cases event with
  | returned | raised failover =>
    cases hmove
    rfl
  | callError failover => cases failover <;> cases hmove <;> rfl
  | abandoned => exact absurd rfl hread
  | selected other | selectRaised => cases hmove

theorem retryMove_balances {kind : OperationKind}
    (hmove : retryMove kind route event = some (action, point))
    (hquiet : ∀ failover, event = .raised failover → kind ≠ .clientMethods) :
    Balances [route] action point := by
  cases event with
  | returned =>
    cases hmove
    rfl
  | raised failover =>
    cases kind with
    | clientMethods => exact absurd rfl (hquiet failover rfl)
    | gatewayMethods =>
      cases hmove
      rfl
    | clientCall | gatewayCall | gatewayUpload | gatewayStream => cases hmove
  | selected other | selectRaised | callError failover | abandoned => cases hmove

theorem selectMove_balances {tried : List Text} {raised : OperationPoint}
    {calling : Route → OperationPoint}
    (hcalling : ∀ route, (calling route).holds = [route])
    (hraised : raised.holds = [])
    (hmove : (match event with
      | .selected route =>
        if route.serviceId ∈ tried then none
        else some (CacheAction.reserve route, calling route)
      | .selectRaised => some (.none, raised)
      | .returned | .callError _ | .raised _ | .abandoned => none) =
        some (action, point)) : Balances [] action point := by
  unfold Balances
  cases event with
  | selected route =>
    dsimp only at hmove
    split at hmove
    · cases hmove
    · cases hmove
      exact (hcalling route).symm
  | selectRaised =>
    cases hmove
    exact hraised.symm
  | returned | callError failover | raised failover | abandoned => cases hmove

theorem move_balances (hmove : operation.move event = some (action, point))
    (honce : ReservationSystem.endsOnce operation event = true) :
    Balances operation.holds action point := by
  unfold move at hmove
  unfold ReservationSystem.endsOnce at honce
  unfold holds
  cases hpoint : operation.point with
  | selecting =>
    rw [hpoint] at hmove
    refine selectMove_balances (fun _ => rfl) ?_ hmove
    split <;> rfl
  | calling route =>
    rw [hpoint] at hmove
    exact callingMove_balances hmove
  | marked route =>
    rw [hpoint] at hmove honce
    cases event with
    | returned =>
      cases hmove
      rfl
    | raised failover => cases honce
    | selected other | selectRaised | callError failover | abandoned => cases hmove
  | handling route =>
    rw [hpoint] at hmove honce
    refine handlingMove_balances hmove ?_
    rintro failover rfl
    cases honce
  | streaming route =>
    rw [hpoint] at hmove honce
    refine streamingMove_balances hmove ?_
    rintro rfl
    cases honce
  | streamed route =>
    rw [hpoint] at hmove honce
    cases event with
    | returned | abandoned =>
      cases hmove
      rfl
    | raised failover => cases honce
    | selected other | selectRaised | callError failover => cases hmove
  | refreshing =>
    rw [hpoint] at hmove
    cases event with
    | returned | raised =>
      cases hmove
      rfl
    | selected other | selectRaised | callError failover | abandoned => cases hmove
  | retrying =>
    rw [hpoint] at hmove
    exact selectMove_balances (fun _ => rfl) rfl hmove
  | retryCalling route =>
    rw [hpoint] at hmove honce
    refine retryMove_balances hmove ?_
    rintro failover rfl
    simpa using honce
  | «over» =>
    rw [hpoint] at hmove
    cases hmove

end Operation

namespace ReservationSystem

variable {settings : CacheSettings} {s next : ReservationSystem}

/-- The counts are those of the operations, and each operation has given back
everything it has taken but what it holds. -/
structure Ledger (s : ReservationSystem) : Prop where
  counted : ∀ route : Route, route.unnamed = false →
    s.cache.localInflight route.stripped =
      Parties.total (Operation.held · route.stripped) s.operations
  balanced : ∀ operation ∈ s.operations,
    operation.given ++ operation.holds = operation.taken

theorem Ledger.eventStep (hledger : s.Ledger) {place : ℕ}
    {event : OperationEvent} {now : ℚ}
    (hexact : Exact settings s (.event place event now))
    (hstep : s.eventStep settings place event now = some next) :
    next.Ledger := by
  unfold ReservationSystem.eventStep at hstep
  cases hplace : s.operations[place]? with
  | none =>
    rw [hplace] at hstep
    cases hstep
  | some operation =>
    rw [hplace] at hstep
    dsimp only at hstep
    cases hmove : operation.move event with
    | none =>
      rw [hmove] at hstep
      cases hstep
    | some result =>
      obtain ⟨action, point⟩ := result
      rw [hmove] at hstep
      cases hstep
      have hmem : operation ∈ s.operations := List.mem_of_getElem? hplace
      have hbalance : operation.holds ++ action.taken = action.given ++ point.holds :=
        Operation.move_balances hmove (hexact operation hplace)
      refine ⟨?_, ?_⟩
      · intro route hnamed
        have hcounts := congrArg (countUnder route.stripped) hbalance
        rw [countUnder_append, countUnder_append] at hcounts
        have hbefore := hledger.counted route hnamed
        have hle : operation.held route.stripped ≤
            Parties.total (Operation.held · route.stripped) s.operations :=
          @Parties.le_total _ (Operation.held · route.stripped) _ _ hmem
        have hset := @Parties.total_set _ (Operation.held · route.stripped) _ _ _
          hplace (operation.after action point)
        have hown : operation.held route.stripped =
          countUnder route.stripped operation.holds := rfl
        have hnext : (operation.after action point).held route.stripped =
          countUnder route.stripped point.holds := rfl
        have hgiven : countUnder route.stripped action.given ≤
            s.cache.localInflight route.stripped := by
          have hnothing := action.taken_or_given
          rcases hnothing with htaken | hgiven
          · rw [htaken] at hcounts
            simp only [countUnder_nil] at hcounts
            omega
          · rw [hgiven]
            exact Nat.zero_le _
        have hcache := @CacheAction.apply_count settings now _ action _ hnamed hgiven
        dsimp only at *
        omega
      · intro other hother
        rcases List.mem_or_eq_of_mem_set hother with hold | hnew
        · exact hledger.balanced other hold
        · subst hnew
          have hbefore := hledger.balanced operation hmem
          calc operation.given ++ action.given ++ point.holds
              = operation.given ++ (action.given ++ point.holds) :=
                List.append_assoc _ _ _
            _ = operation.given ++ (operation.holds ++ action.taken) := by
                rw [hbalance]
            _ = operation.given ++ operation.holds ++ action.taken :=
                (List.append_assoc _ _ _).symm
            _ = operation.taken ++ action.taken := by rw [hbefore]

theorem Ledger.of_same (hledger : s.Ledger)
    (hcounts : next.cache.localInflight = s.cache.localInflight)
    (hoperations : next.operations = s.operations) : next.Ledger := by
  refine ⟨?_, ?_⟩
  · intro route hnamed
    rw [hcounts, hoperations]
    exact hledger.counted route hnamed
  · rw [hoperations]
    exact hledger.balanced

theorem Ledger.forget (hledger : s.Ledger) {name : Text} {rows : List Route}
    (hheld : s.keepsHeld name rows)
    (hcounts : ∀ key, next.cache.localInflight key =
      if RouteCache.gone name rows key then 0 else s.cache.localInflight key)
    (hoperations : next.operations = s.operations) : next.Ledger := by
  refine ⟨?_, ?_⟩
  · intro route hnamed
    rw [hcounts, hoperations]
    split
    · next hgone =>
      symm
      rw [Parties.total_eq_zero_iff]
      intro operation hoperation
      refine List.countP_eq_zero.mpr ?_
      intro held hmem hsame
      have hstripped : held.stripped = route.stripped := by simpa using hsame
      refine hheld operation hoperation held hmem ?_
      rw [hstripped]
      exact hgone
    · exact hledger.counted route hnamed
  · rw [hoperations]
    exact hledger.balanced

theorem refresh_failed {name : Text} {force : Bool}
    (hexact : Exact settings s (.refresh name force none))
    (hstep : s.step settings (.refresh name force none) = some next) :
    next = s := by
  simp only [step] at hstep
  split at hstep
  · cases hstep
  · cases hstep
    have hsame : s.cache.refresh settings.kind (strip name) force none =
        s.cache := by
      rcases hexact with hkind | hnothing
      · rw [hkind]
        rfl
      · cases hkind : settings.kind with
        | discovery => rfl
        | gateway => exact s.cache.forget_nil (strip name) hnothing
    rw [hsame]
    rfl

theorem Ledger.step (hledger : s.Ledger) {label : ReservationLabel}
    (hexact : Exact settings s label)
    (hstep : s.step settings label = some next) : next.Ledger := by
  cases label with
  | begin kind =>
    cases hstep
    refine ⟨?_, ?_⟩
    · intro route hnamed
      refine (hledger.counted route hnamed).trans ?_
      rw [Parties.total_append]
      rfl
    · intro operation hoperation
      rcases List.mem_append.mp hoperation with hold | hnew
      · exact hledger.balanced operation hold
      · rw [List.mem_singleton.mp hnew]
        rfl
  | event place event now => exact hledger.eventStep hexact hstep
  | look route now =>
    cases hstep
    exact hledger.of_same (s.cache.routeAvailable_localInflight now route) rfl
  | probe route now =>
    cases hstep
    exact hledger.of_same rfl rfl
  | refresh name force answer =>
    cases answer with
    | none =>
      rw [refresh_failed hexact hstep]
      exact hledger
    | some rows =>
      simp only [ReservationSystem.step] at hstep
      split at hstep
      · cases hstep
      · cases hstep
        refine hledger.forget hexact ?_ rfl
        intro key
        cases hkind : settings.kind with
        | discovery => rfl
        | gateway =>
          change (RouteCache.refresh s.cache .gateway (strip name) force
            (some rows)).localInflight key = _
          simp only [RouteCache.refresh]
          split <;> rfl

/-- In every run of operations on either cache, with refreshes that succeed
with any rows or fail, in which each step leaves the ledger exact: the count of
a route is the number of reservations that operations hold on it, every
operation has given back what it took but for what it holds, and all of it when
it is over, and a refresh that fails changes nothing. -/
theorem reservations_exact
    (hrun : GuardedRun (step settings) (Exact settings) init s) :
    (∀ route : Route, route.unnamed = false →
      s.cache.localInflight route.stripped =
        Parties.total (Operation.held · route.stripped) s.operations) ∧
    (∀ operation ∈ s.operations,
      operation.given ++ operation.holds = operation.taken ∧
        (operation.point = .over → operation.given = operation.taken)) ∧
    ∀ name force next, Exact settings s (.refresh name force none) →
      s.step settings (.refresh name force none) = some next →
        next.cache = s.cache := by
  have hstart : (init : ReservationSystem).Ledger := by
    refine ⟨fun _ _ => rfl, ?_⟩
    intro operation hoperation
    cases hoperation
  have hledger := hrun.invariant Ledger hstart
    fun _ _ _ hledger hexact hstep => hledger.step hexact hstep
  refine ⟨hledger.counted, ?_, ?_⟩
  · intro operation hoperation
    have hbalanced := hledger.balanced operation hoperation
    refine ⟨hbalanced, fun hover => ?_⟩
    unfold Operation.holds at hbalanced
    rw [hover] at hbalanced
    exact (List.append_nil _).symm.trans hbalanced
  · intro name force next hexact hstep
    rw [refresh_failed hexact hstep]

/-! ## Runs -/

theorem usual_openSec : (1 / 10 : ℚ) ≤ 5 := by norm_num

def usualSettings (kind : CacheKind) : CacheSettings :=
  ⟨kind, 5, usual_openSec⟩

def someRoute : Route :=
  ⟨"svc".toList, "replica".toList⟩

def checkedExact (s : ReservationSystem) : ReservationLabel → Bool
  | .event place event _ =>
    s.operations[place]?.all fun operation => endsOnce operation event
  | .refresh name _ (some rows) => decide (s.keepsHeld (strip name) rows)
  | .refresh _ _ none => false
  | .begin _ | .look _ _ | .probe _ _ => true

theorem exact_of_checkedExact {label : ReservationLabel}
    (hchecked : s.checkedExact label = true) : Exact settings s label := by
  cases label with
  | event place event now =>
    intro operation hoperation
    simp only [checkedExact, Option.all_eq_true] at hchecked
    exact hchecked operation hoperation
  | refresh name force answer =>
    cases answer with
    | none => cases hchecked
    | some rows =>
      change s.keepsHeld (strip name) rows
      exact of_decide_eq_true hchecked
  | begin kind | look route now | probe route now => exact trivial

def refreshedCall : List ReservationLabel :=
  [.begin .gatewayCall, .event 0 (.selected someRoute) 0,
    .refresh "svc".toList true (some [someRoute]), .event 0 .returned 0,
    .event 0 .returned 0, .begin .gatewayCall, .event 1 (.selected someRoute) 0]

theorem reservations_exact_refreshedCall :
    ∃ s : ReservationSystem,
      s.operations.map Operation.point = [.over, .calling someRoute] ∧
      s.cache.localInflight someRoute.stripped =
        Parties.total (Operation.held · someRoute.stripped) s.operations ∧
      ∀ operation ∈ s.operations,
        operation.given ++ operation.holds = operation.taken := by
  have hcheck : (checkedRun (step (usualSettings .gateway))
      (fun s label => s.checkedExact label = true) init refreshedCall).map
        (fun s => s.operations.map Operation.point) =
      some [.over, .calling someRoute] := by
    decide +kernel
  obtain ⟨s, hrun, hpoints⟩ := Option.map_eq_some_iff.mp hcheck
  have hguarded := (guardedRun_of_checkedRun _ hrun).mono
    fun _ _ hchecked => @exact_of_checkedExact (usualSettings .gateway) _ _ hchecked
  obtain ⟨hcounted, hbalanced, -⟩ := reservations_exact hguarded
  exact ⟨s, hpoints, hcounted someRoute (by decide),
    fun operation hoperation => (hbalanced operation hoperation).1⟩

/-- A stream that is abandoned keeps its reservation for ever; a call that
raises behind its mark gives back that of another call; and a listing that fails
takes the counts and the breakers of the gateway with it. -/
theorem reservations_leak_and_vanish :
    (∃ s : ReservationSystem,
      Reachable (step (usualSettings .gateway)) init s ∧
      s.operations.map Operation.point = [.over] ∧
      s.cache.localInflight someRoute.stripped = 1) ∧
    (∃ s : ReservationSystem,
      Reachable (step (usualSettings .gateway)) init s ∧
      s.operations.map Operation.point = [.calling someRoute, .over] ∧
      s.cache.localInflight someRoute.stripped = 0) ∧
    ∃ s next : ReservationSystem,
      Reachable (step (usualSettings .gateway)) init s ∧
      s.step (usualSettings .gateway) (.refresh "svc".toList true none) = some next ∧
      s.cache.localInflight someRoute.stripped = 1 ∧
      next.cache.localInflight someRoute.stripped = 0 ∧
      (s.cache.localState someRoute).isSome = true ∧
      next.cache.localState someRoute = none := by
  refine ⟨?_, ?_, ?_⟩
  · have hleak : (runLabels (step (usualSettings .gateway)) init
        [.begin .gatewayStream, .event 0 (.selected someRoute) 0,
          .event 0 .returned 0, .event 0 .abandoned 0]).map
        (fun s => (s.operations.map Operation.point,
          s.cache.localInflight someRoute.stripped)) = some ([.over], 1) := by
      decide +kernel
    obtain ⟨s, hrun, hfacts⟩ := Option.map_eq_some_iff.mp hleak
    obtain ⟨hpoints, hcount⟩ := Prod.mk.inj hfacts
    exact ⟨s, reachable_of_runLabels _ hrun, hpoints, hcount⟩
  · have htwice : (runLabels (step (usualSettings .gateway)) init
        [.begin .gatewayCall, .event 0 (.selected someRoute) 0,
          .begin .gatewayCall, .event 1 (.selected someRoute) 0,
          .event 1 .returned 0, .event 1 (.raised false) 0]).map
        (fun s => (s.operations.map Operation.point,
          s.cache.localInflight someRoute.stripped)) =
          some ([.calling someRoute, .over], 0) := by
      decide +kernel
    obtain ⟨s, hrun, hfacts⟩ := Option.map_eq_some_iff.mp htwice
    obtain ⟨hpoints, hcount⟩ := Prod.mk.inj hfacts
    exact ⟨s, reachable_of_runLabels _ hrun, hpoints, hcount⟩
  · have hbefore : (runLabels (step (usualSettings .gateway)) init
        [.begin .gatewayCall, .event 0 (.selected someRoute) 0,
          .probe someRoute 0]).map
        (fun s => (s.cache.localInflight someRoute.stripped,
          (s.cache.localState someRoute).isSome)) = some (1, true) := by
      decide +kernel
    obtain ⟨s, hrun, hfacts⟩ := Option.map_eq_some_iff.mp hbefore
    obtain ⟨hcount, hstate⟩ := Prod.mk.inj hfacts
    refine ⟨s, _, reachable_of_runLabels _ hrun, rfl, hcount, rfl, hstate, rfl⟩

end ReservationSystem

end PycloudParallel.ServiceRoutes
