import PycloudParallel.CandidateFailoverDiscovery
import PycloudParallel.CandidateFailoverOwner

/-!
# When a connected handle tries every usable route

The loop of `call_balanced` over the selection step, and the exact condition on the
order of the routes under which it fails over as it should.
-/

namespace PycloudParallel.CandidateFailover

open CallFailover (Text FailureKind shouldFailover)

variable {ι ν β : Type*} [DecidableEq ι] [DecidableEq ν]

namespace ConnectedHandle

variable {handle : ConnectedHandle ι ν} {strategy : Strategy ι}
  {outcome : ι → CallOutcome β} {limit : ℕ}

def OrderUnhindered (handle : ConnectedHandle ι ν) (strategy : Strategy ι)
    (outcome : ι → CallOutcome β) (limit attempts : ℕ) (blacklist : List ν)
    (tried : List ι) : Prop :=
  ∀ routeLimit ∈ handle.routeLimit, Unhindered outcome handle.nodeOf limit routeLimit
    attempts blacklist 0 (handle.order strategy tried)

theorem selectRoute_ok {attempts : ℕ} {blacklist : List ν} {tried passed : List ι}
    {route : ι}
    (hselect : handle.selectRoute strategy limit attempts blacklist tried =
      (passed, .ok route)) :
    route ∈ handle.untried tried ∧ handle.nodeOf route ∉ blacklist ∧
    ∃ gap, passed = gap.reverse ++ tried ∧
      (∀ other ∈ gap, handle.nodeOf other ∈ blacklist) ∧
      ∀ routeLimit ∈ handle.routeLimit,
        gap.length < maxRouteAttempts limit routeLimit attempts ∧
        handle.order strategy tried =
          gap ++ route :: handle.order strategy (route :: passed) := by
  rw [selectRoute] at hselect
  cases hcache : handle.routeLimit with
  | none =>
    simp only [hcache] at hselect
    split at hselect
    · cases hselect
    · next hne =>
      cases hselect
      have hmem := strategy.pick_mem tried _ hne
      rw [List.mem_filter, decide_eq_true_iff] at hmem
      exact ⟨hmem.1, hmem.2, [], rfl, by simp, by simp⟩
  | some routeLimit =>
    simp only [hcache] at hselect
    obtain ⟨gap, hgap, hcase⟩ := selectCached_cases handle strategy blacklist
      (maxRouteAttempts limit routeLimit attempts) tried
    obtain ⟨found, hless, hfree, heq, horder⟩ | ⟨_, _, heq, -⟩ := hcase
    · obtain ⟨rfl, hroute⟩ := Prod.mk.inj (hselect.symm.trans heq)
      cases hroute
      refine ⟨?_, hfree, gap, rfl, hgap, ?_⟩
      · rw [← mem_order strategy, horder]
        simp
      · intro other hother
        rw [Option.mem_some_iff] at hother
        subst hother
        exact ⟨hless, horder⟩
    · cases hselect.symm.trans heq

theorem selectRoute_error {attempts : ℕ} {blacklist : List ν} {tried passed : List ι}
    {message : Text} (hopen : ¬(limit ≠ 0 ∧ limit ≤ attempts))
    (hselect : handle.selectRoute strategy limit attempts blacklist tried =
      (passed, .error message)) :
    handle.OrderUnhindered strategy outcome limit attempts blacklist tried ↔
      ∀ route ∈ handle.untried tried, handle.nodeOf route ∈ blacklist := by
  rw [selectRoute] at hselect
  cases hcache : handle.routeLimit with
  | none =>
    simp only [hcache] at hselect
    split at hselect
    · next hnil =>
      refine iff_of_true (by simp [OrderUnhindered, hcache]) fun route hroute => ?_
      simpa using List.filter_eq_nil_iff.mp hnil route hroute
    · cases hselect
  | some routeLimit =>
    simp only [hcache] at hselect
    obtain ⟨gap, hgap, hcase⟩ := selectCached_cases handle strategy blacklist
      (maxRouteAttempts limit routeLimit attempts) tried
    obtain ⟨_, -, -, heq, -⟩ | ⟨rest, _, -, horder, hend⟩ := hcase
    · cases hselect.symm.trans heq
    · have hall : (∀ route ∈ handle.untried tried, handle.nodeOf route ∈ blacklist) ↔
          ∀ route ∈ rest, handle.nodeOf route ∈ blacklist := by
        simp only [← mem_order strategy, horder, List.mem_append]
        exact ⟨fun h route hroute => h route (.inr hroute),
          fun h route hroute => hroute.elim (hgap route) (h route)⟩
      rw [hall]
      simp only [OrderUnhindered, hcache, Option.mem_some_iff, forall_eq', horder,
        unhindered_passed hopen hgap, Nat.zero_add]
      obtain rfl | hlength := hend
      · simp [Unhindered]
      · exact unhindered_over hopen (Nat.le_of_eq hlength.symm) rest

theorem orderUnhindered_step (outcome : ι → CallOutcome β) {attempts : ℕ}
    {blacklist : List ν} {tried passed : List ι} {route : ι}
    (hopen : ¬(limit ≠ 0 ∧ limit ≤ attempts))
    (hselect : handle.selectRoute strategy limit attempts blacklist tried =
      (passed, .ok route)) :
    handle.OrderUnhindered strategy outcome limit attempts blacklist tried ↔
      ((outcome route).final = false →
        handle.OrderUnhindered strategy outcome limit (attempts + 1)
          (if (outcome route).dependency then handle.nodeOf route :: blacklist
            else blacklist) (route :: passed)) := by
  obtain ⟨-, hfree, gap, -, hgap, hcached⟩ := selectRoute_ok hselect
  have hhead : ∀ routeLimit ∈ handle.routeLimit,
      (Unhindered outcome handle.nodeOf limit routeLimit attempts blacklist 0
          (handle.order strategy tried) ↔
        ((outcome route).final = false →
          Unhindered outcome handle.nodeOf limit routeLimit (attempts + 1)
            (if (outcome route).dependency then handle.nodeOf route :: blacklist
              else blacklist) 0 (handle.order strategy (route :: passed)))) := by
    intro routeLimit hcache
    obtain ⟨hless, horder⟩ := hcached routeLimit hcache
    rw [horder, unhindered_passed hopen hgap, Nat.zero_add, Unhindered, if_neg hopen,
      if_neg hfree]
    exact and_iff_right hless
  constructor
  · exact fun h hfinal routeLimit hcache =>
      (hhead routeLimit hcache).mp (h routeLimit hcache) hfinal
  · exact fun h routeLimit hcache =>
      (hhead routeLimit hcache).mpr fun hfinal => h hfinal routeLimit hcache

/-! ## The run -/

omit [DecidableEq ν] in
theorem length_untried_lt {tried passed : List ι} {route : ι}
    (hroute : route ∈ handle.untried tried) (hpassed : ∀ other ∈ tried, other ∈ passed) :
    (handle.untried (route :: passed)).length < (handle.untried tried).length := by
  have hnew : route ∉ handle.untried (route :: passed) := by
    simp [mem_untried]
  have hsubset : ∀ other ∈ route :: handle.untried (route :: passed),
      other ∈ handle.untried tried := by
    intro other hother
    obtain rfl | hother := List.mem_cons.mp hother
    · exact hroute
    · obtain ⟨hmem, havailable, hfresh⟩ := mem_untried.mp hother
      rw [List.mem_cons, not_or] at hfresh
      exact mem_untried.mpr
        ⟨hmem, havailable, fun htried => hfresh.2 (hpassed other htried)⟩
  exact (List.subperm_of_subset
    (List.nodup_cons.mpr ⟨hnew, nodup_untried handle _⟩) hsubset).length_le

theorem callLoop_spec (turns : ℕ) {attempts : ℕ} {tried : List ι} {blacklist : List ν}
    {lastError : Option Text} (hturns : (handle.untried tried).length < turns)
    (hle : limit ≠ 0 → attempts ≤ limit) :
    LoopSpec outcome handle.nodeOf limit attempts blacklist (handle.untried tried)
      lastError (handle.OrderUnhindered strategy outcome limit attempts blacklist tried)
      (handle.callLoop strategy outcome limit turns attempts tried blacklist
        lastError) := by
  induction turns generalizing attempts tried blacklist lastError with
  | zero => omega
  | succ turns ih =>
    rw [callLoop]
    split
    case isTrue hreached =>
      refine .ofLimit (fun routeLimit _ => ?_) hreached.1 hreached.2 (hle hreached.1)
      cases handle.order strategy tried with
      | nil => trivial
      | cons route rest => rw [Unhindered, if_pos hreached]; trivial
    case isFalse hopen =>
      split
      case h_1 passed message hselect =>
        exact .ofNone hopen (selectRoute_error hopen hselect)
      case h_2 passed route hselect =>
        obtain ⟨hroute, hfree, gap, rfl, hgap, -⟩ := selectRoute_ok hselect
        have hstep := orderUnhindered_step outcome hopen hselect
        cases houtcome : outcome route with
        | result value =>
          have hfinal : (outcome route).final = true := by
            rw [houtcome]
            rfl
          have hspec := LoopSpec.ofFinal lastError
            (hstep.mpr fun hnot => absurd (hfinal.symm.trans hnot) (by decide))
            hopen hroute hfree hfinal
          rwa [houtcome] at hspec
        | failed failure =>
          by_cases hkind : shouldFailover failure.kind true = true
          · have hfinal : (outcome route).final = false := by
              simp [houtcome, CallOutcome.final, hkind]
            have hdependency : (outcome route).dependency = failure.dependency := by
              rw [houtcome]
              rfl
            simp only [hfinal, true_implies, hdependency] at hstep
            simp only [if_pos hkind]
            rw [hstep]
            refine .cons hroute hfree houtcome hkind hopen (by simp [mem_untried]) ?_ ?_
              (ih ?_ ?_)
            · intro other hother
              obtain ⟨hmem, havailable, hfresh⟩ := mem_untried.mp hother
              exact mem_untried.mpr ⟨hmem, havailable, fun htried =>
                hfresh (List.mem_cons_of_mem _ (List.mem_append_right _ htried))⟩
            · intro other hother
              obtain ⟨hmem, havailable, hfresh⟩ := mem_untried.mp hother
              by_cases hgone : other ∈ gap
              · exact .inr (.inr (hgap other hgone))
              · by_cases hsame : other = route
                · exact .inl hsame
                · refine .inr (.inl (mem_untried.mpr ⟨hmem, havailable, ?_⟩))
                  simp [hsame, hgone, hfresh]
            · have hless := length_untried_lt hroute
                fun other htried => List.mem_append_right gap.reverse htried
              omega
            · intro hlimit
              rw [not_and] at hopen
              have hless := hopen hlimit
              omega
          · have hfinal : (outcome route).final = true := by
              simp [houtcome, CallOutcome.final, hkind]
            have hspec := LoopSpec.ofFinal lastError
              (hstep.mpr fun hnot => absurd (hfinal.symm.trans hnot) (by decide))
              hopen hroute hfree hfinal
            simp only [if_neg hkind]
            rwa [houtcome] at hspec

theorem mem_usable {blacklist : List ν} {route : ι} :
    route ∈ handle.usable blacklist ↔
      route ∈ handle.untried [] ∧ handle.nodeOf route ∉ blacklist := by
  simp [usable, mem_untried, and_assoc]

/-- A connected handle fails over as it should just if it has no route cache, or its
strategy gives no usable route behind too many routes of blacklisted nodes. -/
theorem callBalanced_failsOver_iff (handle : ConnectedHandle ι ν) (strategy : Strategy ι)
    (outcome : ι → CallOutcome β) (blacklist : List ν) (maxAttempts : ℕ) :
    FailsOver outcome handle.nodeOf blacklist (handle.usable blacklist) maxAttempts
        (handle.callBalanced strategy outcome blacklist maxAttempts) ↔
      handle.OrderUnhindered strategy outcome maxAttempts 0 blacklist [] := by
  have hspec : LoopSpec outcome handle.nodeOf maxAttempts 0 blacklist (handle.untried [])
      none (handle.OrderUnhindered strategy outcome maxAttempts 0 blacklist [])
      (handle.callBalanced strategy outcome blacklist maxAttempts) := by
    refine callLoop_spec _ ?_ fun _ => Nat.zero_le _
    exact Nat.lt_succ_of_le (List.length_filter_le _ _)
  set tape := handle.callBalanced strategy outcome blacklist maxAttempts
  set left := (handle.usable blacklist).filter fun route =>
    decide (route ∈ tape.attempts) || decide (handle.nodeOf route ∉
      blacklistAfter outcome handle.nodeOf blacklist tape.attempts) with hleft
  have hcalled : ∀ route ∈ tape.attempts, route ∈ handle.usable blacklist :=
    fun route hroute => mem_usable.mpr (hspec.within route hroute)
  have hmem : ∀ route ∈ tape.attempts, route ∈ left := fun route hroute => by
    simp [hleft, hcalled route hroute, hroute]
  have hnodup : left.Nodup := (handle.nodup.filter _).filter _
  have hle : tape.attempts.length ≤ left.length :=
    (List.subperm_of_subset hspec.once hmem).length_le
  have hbound := hspec.bound
  simp only [Nat.zero_le, true_implies, Nat.zero_add] at hbound
  have hall : tape.attempts.length = left.length ↔
      ∀ route ∈ handle.untried [], route ∈ tape.attempts ∨
        handle.nodeOf route ∈
          blacklistAfter outcome handle.nodeOf blacklist tape.attempts := by
    rw [length_eq_iff_forall_mem hspec.once hnodup hmem]
    constructor
    · intro h route hroute
      by_cases hmarked : handle.nodeOf route ∈
          blacklistAfter outcome handle.nodeOf blacklist tape.attempts
      · exact .inr hmarked
      · have hfree : handle.nodeOf route ∉ blacklist := fun hlisted =>
          hmarked (List.mem_append_right _ hlisted)
        refine .inl (h route ?_)
        simp [hleft, mem_usable, hroute, hfree, hmarked]
    · intro h route hroute
      simp only [hleft, List.mem_filter, mem_usable, Bool.or_eq_true,
        decide_eq_true_iff] at hroute
      obtain hdone | hmarked := h route hroute.1.1
      · exact hdone
      · exact hroute.2.resolve_right (not_not_intro hmarked)
  have hattempts : tape.attempts.length = attemptsOf maxAttempts left.length ↔
      (maxAttempts ≠ 0 ∧ 0 + tape.attempts.length = maxAttempts) ∨
        tape.attempts.length = left.length := by
    rw [attemptsOf]
    split
    case isTrue hzero => simp [hzero]
    case isFalse hlimit =>
      have hless := hbound hlimit
      omega
  rw [hspec.exhausts, ← hall, ← hattempts]
  constructor
  · exact fun h => h.exhausts
  · exact fun h => ⟨hspec.once, hcalled, hspec.stops, h, fun hnonfinal =>
      (hspec.carries hnonfinal).2⟩

end ConnectedHandle

/-- An owner's handle fails over as it should just if it does not come to the
selection step again with only unusable replicas left, a connected one just if no
usable route comes too late for the turns of the selection step. -/
theorem failsOver_iff (outcome : ι → CallOutcome β) (strategy : Strategy ι)
    (maxAttempts : ℕ) :
    (∀ (handle : OwnerHandle ι) (refreshStatus : Bool) (now : ℚ) (blacklist : List ι),
      (FailsOver outcome id blacklist (handle.usable now blacklist) maxAttempts
          (handle.callBalanced strategy refreshStatus now outcome blacklist
            maxAttempts) ↔
        ¬ handle.hidesError now outcome blacklist maxAttempts) ∧
      (FailsOver outcome id blacklist (handle.usable now blacklist) maxAttempts
          (handle.acallBalanced strategy refreshStatus now outcome blacklist
            maxAttempts) ↔
        ¬ handle.hidesError now outcome blacklist maxAttempts)) ∧
    ∀ (handle : ConnectedHandle ι ν) (blacklist : List ν),
      FailsOver outcome handle.nodeOf blacklist (handle.usable blacklist) maxAttempts
          (handle.callBalanced strategy outcome blacklist maxAttempts) ↔
        handle.OrderUnhindered strategy outcome maxAttempts 0 blacklist [] := by
  constructor
  · intro handle refreshStatus now blacklist
    have howner := OwnerHandle.callBalanced_failsOver_iff handle strategy refreshStatus
      now outcome blacklist maxAttempts
    exact ⟨howner, howner⟩
  · exact fun handle blacklist =>
      handle.callBalanced_failsOver_iff strategy outcome blacklist maxAttempts

def inOrder : Strategy ℕ where
  pick _ candidates := candidates.headD 0
  pick_mem := by
    intro _ candidates hne
    obtain ⟨first, rest, rfl⟩ := List.exists_cons_of_ne_nil hne
    exact List.mem_cons_self

def oneReady : OwnerHandle ℕ where
  sessions := [0, 1]
  nodup := by decide
  active _ := true
  breakers _ := .fresh
  ready node := node == 0
  detail _ := []

def twoRoutes : ConnectedHandle ℕ ℕ where
  routes := [0, 1]
  nodup := by decide
  nodeOf route := route
  available _ := true
  routeLimit := some 500
  detail _ := []

/-- An owner's call raises the selection step's error after one replica has timed out,
and a connected call with one attempt gives up at the route of a blacklisted node. -/
theorem selection_hides_error_and_route :
    ¬ FailsOver (β := Unit)
      (fun _ => .failed ⟨"timed out".toList, .controlplaneUnavailable, false⟩) id []
      (oneReady.usable 0 []) 0
      (oneReady.callBalanced inOrder false 0
        (fun _ => .failed ⟨"timed out".toList, .controlplaneUnavailable, false⟩) [] 0) ∧
    ¬ FailsOver (fun _ => .result ()) twoRoutes.nodeOf [0] (twoRoutes.usable [0]) 1
      (twoRoutes.callBalanced inOrder (fun _ => .result ()) [0] 1) := by
  constructor
  · rw [OwnerHandle.callBalanced_failsOver_iff, not_not]
    have husable : oneReady.usable 0 [] = [0] := by decide
    refine ⟨by simp [husable], ?_, .inl rfl, ?_⟩
    · rw [husable]
      decide
    · simp [husable, CallOutcome.final, shouldFailover]
  · intro hfails
    have hnone : (twoRoutes.callBalanced inOrder (fun _ => CallOutcome.result ()) [0]
        1).attempts = [] := by decide
    have hcount := hfails.exhausts (by simp [hnone])
    rw [hnone] at hcount
    exact absurd hcount (by decide)

end PycloudParallel.CandidateFailover
