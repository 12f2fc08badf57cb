import PycloudParallel.CandidateFailoverModel
import PycloudParallel.FoundationOffers
import Mathlib.Data.List.Nodup

/-!
# Failover of a connected handle

Here the selection step is inside a block that falls back on the last error.  With a
route cache it gives up after so many routes of blacklisted nodes in a row, although
it counts calls and not routes.
-/

namespace PycloudParallel.CandidateFailover

open CallFailover (Text FailureKind shouldFailover)

variable {ι ν β : Type*}

namespace ConnectedHandle

variable {handle : ConnectedHandle ι ν} {strategy : Strategy ι}
  {outcome : ι → CallOutcome β} {limit : ℕ}

section

variable [DecidableEq ι]

theorem nodup_untried (handle : ConnectedHandle ι ν) (tried : List ι) :
    (handle.untried tried).Nodup :=
  handle.nodup.filter _

theorem untried_cons (route : ι) (tried : List ι) :
    handle.untried (route :: tried) = (handle.untried tried).erase route := by
  rw [(nodup_untried handle tried).erase_eq_filter]
  simp only [untried, List.filter_filter]
  refine List.filter_congr fun other _ => ?_
  grind

end

/-- The turns of the loop in `_select_route`. -/
def maxRouteAttempts (attemptLimit routeLimit attempts : ℕ) : ℕ :=
  max 1 (if attemptLimit = 0 then routeLimit else attemptLimit - attempts)

/-- The order gives each usable route that comes to its turn behind fewer routes of
blacklisted nodes than the selection step has turns.  `passed` routes of such nodes
came directly before. -/
def Unhindered [DecidableEq ν] (outcome : ι → CallOutcome β) (nodeOf : ι → ν) (limit routeLimit : ℕ) :
    ℕ → List ν → ℕ → List ι → Prop
  | _, _, _, [] => True
  | attempts, blacklist, passed, route :: rest =>
    if limit ≠ 0 ∧ limit ≤ attempts then True
    else if nodeOf route ∈ blacklist then
      Unhindered outcome nodeOf limit routeLimit attempts blacklist (passed + 1) rest
    else
      passed < maxRouteAttempts limit routeLimit attempts ∧
        ((outcome route).final = false →
          Unhindered outcome nodeOf limit routeLimit (attempts + 1)
            (if (outcome route).dependency then nodeOf route :: blacklist
              else blacklist) 0 rest)

section

variable [DecidableEq ν] {nodeOf : ι → ν} {routeLimit attempts : ℕ} {blacklist : List ν}

theorem unhindered_passed (hopen : ¬(limit ≠ 0 ∧ limit ≤ attempts)) {gap : List ι}
    (hgap : ∀ route ∈ gap, nodeOf route ∈ blacklist) (passed : ℕ) (rest : List ι) :
    Unhindered outcome nodeOf limit routeLimit attempts blacklist passed (gap ++ rest) ↔
      Unhindered outcome nodeOf limit routeLimit attempts blacklist
        (passed + gap.length) rest := by
  induction gap generalizing passed with
  | nil => rfl
  | cons route gap ih =>
    rw [List.cons_append, Unhindered, if_neg hopen,
      if_pos (hgap route List.mem_cons_self),
      ih (fun other hother => hgap other (List.mem_cons_of_mem _ hother)),
      List.length_cons, Nat.add_assoc, Nat.add_comm 1]

theorem unhindered_over (hopen : ¬(limit ≠ 0 ∧ limit ≤ attempts)) {passed : ℕ}
    (hover : maxRouteAttempts limit routeLimit attempts ≤ passed) (order : List ι) :
    Unhindered outcome nodeOf limit routeLimit attempts blacklist passed order ↔
      ∀ route ∈ order, nodeOf route ∈ blacklist := by
  induction order generalizing passed with
  | nil => simp [Unhindered]
  | cons route rest ih =>
    rw [Unhindered, if_neg hopen, List.forall_mem_cons]
    split
    case isTrue hmem =>
      rw [ih (by omega)]
      simp [hmem]
    case isFalse hfree => exact iff_of_false (by omega) (fun hall => hfree hall.1)

end

/-! ## The loop -/

/-- What the loop does after so many calls with these routes left; `ok` says whether
it calls as many as it may. -/
structure LoopSpec (outcome : ι → CallOutcome β) (nodeOf : ι → ν) (limit attempts : ℕ)
    (blacklist : List ν) (routes : List ι) (lastError : Option Text) (ok : Prop)
    (tape : CallTape ι β) : Prop where
  once : tape.attempts.Nodup
  within : ∀ route ∈ tape.attempts, route ∈ routes ∧ nodeOf route ∉ blacklist
  stops : ∀ route ∈ tape.attempts, (outcome route).final = true →
    tape.attempts.getLast? = some route ∧ tape.ending = (outcome route).ending route
  bound : limit ≠ 0 → attempts ≤ limit → attempts + tape.attempts.length ≤ limit
  exhausts : ok ↔ ((∀ route ∈ tape.attempts, (outcome route).final = false) →
    (limit ≠ 0 ∧ attempts + tape.attempts.length = limit) ∨
      ∀ route ∈ routes, route ∈ tape.attempts ∨
        nodeOf route ∈ blacklistAfter outcome nodeOf blacklist tape.attempts)
  carries : (∀ route ∈ tape.attempts, (outcome route).final = false) →
    (∀ error ∈ lastError, tape.attempts = [] →
      ∃ message, tape.ending = .failed message ∧ error <:+: message) ∧
    ∀ last ∈ tape.attempts.getLast?, ∃ failure message,
      outcome last = .failed failure ∧ tape.ending = .failed message ∧
        failure.message <:+: message

section

variable {nodeOf : ι → ν} {attempts : ℕ} {blacklist : List ν} {routes : List ι}
  {lastError : Option Text}

variable {ok : Prop}

theorem LoopSpec.ofLimit (hok : ok) (hlimit : limit ≠ 0)
    (hreached : limit ≤ attempts) (hle : attempts ≤ limit) :
    LoopSpec outcome nodeOf limit attempts blacklist routes lastError ok
      ⟨[], .failed (limitText attempts lastError)⟩ := by
  constructor
  case bound => exact fun _ hle => by simpa using hle
  case exhausts =>
    exact iff_of_true hok fun _ => .inl ⟨hlimit, Nat.le_antisymm hle hreached⟩
  case carries =>
    intro _
    refine ⟨fun error herror _ => ⟨_, rfl, ?_⟩, by simp⟩
    rw [limitText, Option.mem_def.mp herror]
    exact (List.suffix_append _ _).isInfix
  all_goals simp

theorem LoopSpec.ofNone {message : Text}
    (hopen : ¬(limit ≠ 0 ∧ limit ≤ attempts))
    (hok : ok ↔ ∀ route ∈ routes, nodeOf route ∈ blacklist) :
    LoopSpec outcome nodeOf limit attempts blacklist routes lastError ok
      (match lastError with
        | some error => ⟨[], .failed error⟩
        | none => ⟨[], .notSelected message⟩) := by
  have hattempts : (match lastError with
        | some error => (⟨[], .failed error⟩ : CallTape ι β)
        | none => ⟨[], .notSelected message⟩).attempts = [] := by
    cases lastError <;> rfl
  constructor
  case once => simp [hattempts]
  case within => simp [hattempts]
  case stops => simp [hattempts]
  case bound =>
    intro _ hle
    simpa [hattempts] using hle
  case exhausts =>
    simp only [hattempts, List.length_nil, Nat.add_zero, List.not_mem_nil,
      false_implies, implies_true, true_implies, false_or, blacklistAfter,
      List.filter_nil, List.map_nil, List.nil_append]
    rw [hok]
    refine ⟨.inr, fun hor => hor.resolve_left ?_⟩
    rintro ⟨hlimit, heq⟩
    exact hopen ⟨hlimit, Nat.le_of_eq heq.symm⟩
  case carries =>
    intro _
    refine ⟨fun error herror _ => ?_, by simp [hattempts]⟩
    rw [Option.mem_def.mp herror]
    exact ⟨error, rfl, List.infix_rfl⟩

theorem LoopSpec.ofFinal {route : ι} (lastError : Option Text) (hok : ok)
    (hopen : ¬(limit ≠ 0 ∧ limit ≤ attempts)) (hroute : route ∈ routes)
    (hfree : nodeOf route ∉ blacklist) (hfinal : (outcome route).final = true) :
    LoopSpec outcome nodeOf limit attempts blacklist routes lastError ok
      ⟨[route], (outcome route).ending route⟩ := by
  constructor
  case once => simp
  case within => simpa using ⟨hroute, hfree⟩
  case stops => simp
  case bound =>
    intro hlimit _
    simp only [List.length_singleton]
    rw [not_and] at hopen
    have hless := hopen hlimit
    omega
  case exhausts =>
    refine iff_of_true hok fun hnonfinal => ?_
    rw [hnonfinal route List.mem_cons_self] at hfinal
    cases hfinal
  case carries =>
    intro hnonfinal
    rw [hnonfinal route List.mem_cons_self] at hfinal
    cases hfinal

theorem LoopSpec.cons {route : ι} {rest : List ι} {failure : CallFailure}
    {tape : CallTape ι β} (hroute : route ∈ routes)
    (hfree : nodeOf route ∉ blacklist)
    (houtcome : outcome route = .failed failure)
    (hkind : shouldFailover failure.kind true = true)
    (hopen : ¬(limit ≠ 0 ∧ limit ≤ attempts)) (hnew : route ∉ rest)
    (hsubset : ∀ other ∈ rest, other ∈ routes)
    (hleft : ∀ other ∈ routes,
      other = route ∨ other ∈ rest ∨ nodeOf other ∈ blacklist)
    (hrest : LoopSpec outcome nodeOf limit (attempts + 1)
      (if failure.dependency then nodeOf route :: blacklist else blacklist) rest
      (some failure.message) ok tape) :
    LoopSpec outcome nodeOf limit attempts blacklist routes lastError ok
      (tape.precededBy route) := by
  have hfinal : (outcome route).final = false := by
    simp [houtcome, CallOutcome.final, hkind]
  have hall : (∀ other ∈ (tape.precededBy route).attempts,
      (outcome other).final = false) ↔
      ∀ other ∈ tape.attempts, (outcome other).final = false := by
    simp [FailoverTape.precededBy, hfinal]
  have hafter : ∀ node, node ∈ blacklistAfter outcome nodeOf blacklist
        (route :: tape.attempts) ↔
      node ∈ blacklistAfter outcome nodeOf
        (if failure.dependency then nodeOf route :: blacklist else blacklist)
        tape.attempts := by
    intro node
    cases hdependency : failure.dependency with
    | false =>
      simp [blacklistAfter, houtcome, CallOutcome.dependency, hdependency]
    | true =>
      simp only [blacklistAfter, List.filter_cons, houtcome, CallOutcome.dependency,
        hdependency, if_true, List.map_cons, List.cons_append, List.mem_cons,
        List.mem_append]
      grind
  constructor
  case once =>
    exact List.nodup_cons.mpr
      ⟨fun hmem => hnew (hrest.within route hmem).1, hrest.once⟩
  case within =>
    intro other hother
    obtain rfl | hother := List.mem_cons.mp hother
    · exact ⟨hroute, hfree⟩
    · obtain ⟨hmem, hnotin⟩ := hrest.within other hother
      refine ⟨hsubset other hmem, fun hlisted => hnotin ?_⟩
      split
      · exact List.mem_cons_of_mem _ hlisted
      · exact hlisted
  case stops =>
    intro other hother hother'
    obtain rfl | hother := List.mem_cons.mp hother
    · rw [hfinal] at hother'
      cases hother'
    · obtain ⟨hlast, hending⟩ := hrest.stops other hother hother'
      refine ⟨?_, hending⟩
      simp [FailoverTape.precededBy, List.getLast?_cons, hlast]
  case bound =>
    intro hlimit hle
    rw [not_and] at hopen
    have hless := hopen hlimit
    have hbound := hrest.bound hlimit (by omega)
    simp only [FailoverTape.precededBy, List.length_cons]
    omega
  case exhausts =>
    rw [hrest.exhausts, hall]
    refine imp_congr_right fun _ => or_congr (and_congr_right fun _ => ?_) ?_
    · simp only [FailoverTape.precededBy, List.length_cons]
      omega
    · simp only [FailoverTape.precededBy, hafter, List.mem_cons]
      constructor
      · intro h other hother
        obtain rfl | hmem | hlisted := hleft other hother
        · exact .inl (.inl rfl)
        · obtain hcalled | hmarked := h other hmem
          · exact .inl (.inr hcalled)
          · exact .inr hmarked
        · refine .inr (List.mem_append_right _ ?_)
          split
          · exact List.mem_cons_of_mem _ hlisted
          · exact hlisted
      · intro h other hother
        obtain (rfl | hcalled) | hmarked := h other (hsubset other hother)
        · exact absurd hother hnew
        · exact .inl hcalled
        · exact .inr hmarked
  case carries =>
    intro hnonfinal
    obtain ⟨hempty, hlast⟩ := hrest.carries (hall.mp hnonfinal)
    refine ⟨by simp [FailoverTape.precededBy], fun last hmem => ?_⟩
    obtain ⟨hnil, rfl⟩ | hmem := FailoverTape.mem_getLast?_precededBy hmem
    · obtain ⟨message, hending, hinfix⟩ := hempty failure.message rfl hnil
      exact ⟨failure, message, houtcome, hending, hinfix⟩
    · exact hlast last hmem

end

variable [DecidableEq ι]

variable {tried : List ι}

theorem mem_untried {route : ι} :
    route ∈ handle.untried tried ↔
      route ∈ handle.routes ∧ handle.available route = true ∧ route ∉ tried := by
  simp [untried]

def order (handle : ConnectedHandle ι ν) (strategy : Strategy ι) (tried : List ι) :
    List ι :=
  offers strategy.pick tried (handle.untried tried)

theorem mem_order (strategy : Strategy ι) {route : ι} :
    route ∈ handle.order strategy tried ↔ route ∈ handle.untried tried :=
  (offers_perm strategy.pick_mem tried _).mem_iff

theorem order_eq_cons (strategy : Strategy ι) (hne : handle.untried tried ≠ []) :
    handle.order strategy tried = strategy.pick tried (handle.untried tried) ::
      handle.order strategy (strategy.pick tried (handle.untried tried) :: tried) := by
  rw [order, offers_cons hne (strategy.pick_mem tried _ hne), order, untried_cons]

theorem selectCached_cases [DecidableEq ν] (handle : ConnectedHandle ι ν) (strategy : Strategy ι)
    (blacklist : List ν) (turns : ℕ) (tried : List ι) :
    ∃ gap, (∀ route ∈ gap, handle.nodeOf route ∈ blacklist) ∧
      ((∃ route, gap.length < turns ∧ handle.nodeOf route ∉ blacklist ∧
        handle.selectCached strategy blacklist turns tried =
          (gap.reverse ++ tried, .ok route) ∧
        handle.order strategy tried =
          gap ++ route :: handle.order strategy (route :: (gap.reverse ++ tried))) ∨
      (∃ rest message, handle.selectCached strategy blacklist turns tried =
          (gap.reverse ++ tried, .error message) ∧
        handle.order strategy tried = gap ++ rest ∧
        (rest = [] ∨ gap.length = turns))) := by
  induction turns generalizing tried with
  | zero => exact ⟨[], by simp, .inr ⟨_, _, rfl, rfl, .inr rfl⟩⟩
  | succ turns ih =>
    by_cases hne : handle.untried tried = []
    · refine ⟨[], by simp, .inr ⟨[], noRouteText, ?_, ?_, .inl rfl⟩⟩
      · simp [selectCached, hne]
      · simp [order, hne]
    · set selected := strategy.pick tried (handle.untried tried) with hselected
      by_cases hlisted : handle.nodeOf selected ∈ blacklist
      · have hstep : handle.selectCached strategy blacklist (turns + 1) tried =
            handle.selectCached strategy blacklist turns (selected :: tried) := by
          simp [selectCached, hne, ← hselected, hlisted]
        have horder := order_eq_cons strategy hne
        obtain ⟨gap, hgap, hcase⟩ := ih (selected :: tried)
        refine ⟨selected :: gap, List.forall_mem_cons.mpr ⟨hlisted, hgap⟩, ?_⟩
        rw [hstep, horder, List.length_cons, List.reverse_cons, List.append_assoc,
          List.singleton_append, ← hselected]
        obtain ⟨route, hless, hfree, heq, hrest⟩ | ⟨rest, message, heq, hrest, hend⟩ := hcase
        · exact .inl ⟨route, by omega, hfree, heq, by rw [hrest, List.cons_append]⟩
        · exact .inr ⟨rest, message, heq, by rw [hrest, List.cons_append],
            hend.imp_right (congrArg (· + 1))⟩
      · refine ⟨[], by simp, .inl ⟨selected, by simp, hlisted, ?_, ?_⟩⟩
        · simp [selectCached, hne, ← hselected, hlisted]
        · rw [order_eq_cons strategy hne]
          rfl

end ConnectedHandle

end PycloudParallel.CandidateFailover
