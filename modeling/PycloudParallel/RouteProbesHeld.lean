import PycloudParallel.RouteProbesModel
import Mathlib.Tactic.Linarith

/-!
# Half-open routes are probed one at a time

As long as half-open routes are handed out by the branch that puts up their
flag, and nobody takes that flag down in front of its owner, the flag of a
half-open route has exactly one owner.
-/

namespace PycloudParallel.ServiceCalls.CandidateBreakerState

variable {breaker : CandidateBreakerState}

theorem candidateAllowed_of_ne (hopen : breaker.state ≠ .opened) (now : ℚ) :
    (breaker.candidateAllowed now).1 = breaker := by
  unfold candidateAllowed
  cases hstate : breaker.state with
  | closed | halfOpen => rfl
  | opened => exact absurd hstate hopen

theorem candidateAllowed_opened (hopen : breaker.state = .opened) (now : ℚ) :
    breaker.candidateAllowed now = (breaker, false) ∨
      breaker.disabledUntil ≤ now ∧ breaker.candidateAllowed now =
        ({ breaker with state := .halfOpen, probeInFlight := false }, true) := by
  unfold candidateAllowed
  rw [hopen]
  dsimp only
  by_cases htime : breaker.disabledUntil ≤ now
  · rw [if_pos htime]
    exact .inr ⟨htime, rfl⟩
  · rw [if_neg htime]
    exact .inl rfl

theorem not_opened_of_allowed {now : ℚ}
    (hallowed : (breaker.candidateAllowed now).2 = true) :
    (breaker.candidateAllowed now).1.state ≠ .opened := by
  by_cases hopen : breaker.state = .opened
  · rcases candidateAllowed_opened hopen now with hshut | ⟨-, hhalf⟩
    · rw [hshut] at hallowed
      cases hallowed
    · rw [hhalf]
      simp
  · rw [candidateAllowed_of_ne hopen]
    exact hopen

theorem beforeProbe_cases (hopen : breaker.state ≠ .opened) (now : ℚ) :
    breaker.state = .halfOpen ∧ breaker.probeInFlight = true ∧
        breaker.beforeProbe now = (breaker, false) ∨
      breaker.state = .halfOpen ∧ breaker.probeInFlight = false ∧
        breaker.beforeProbe now = ({ breaker with probeInFlight := true }, true) ∨
      breaker.state = .closed ∧ breaker.beforeProbe now = (breaker, true) := by
  unfold beforeProbe candidateAllowed
  cases hstate : breaker.state with
  | closed => simp [hstate]
  | opened => exact absurd hstate hopen
  | halfOpen =>
    cases hflag : breaker.probeInFlight with
    | true | false => simp [hstate]

end PycloudParallel.ServiceCalls.CandidateBreakerState

namespace PycloudParallel.ServiceRoutes

open ServiceCalls CallFailover

theorem CacheSettings.cooldown_le (settings : CacheSettings) (openCount : ℕ) :
    settings.breaker.cooldown openCount ≤ settings.openSec := by
  have hle := settings.openSec_le
  unfold BreakerSettings.cooldown CacheSettings.breaker
  dsimp only
  refine (min_le_left _ _).trans ?_
  rw [ite_self]
  exact max_le hle (le_refl _)

theorem markFailure_spec (settings : CacheSettings)
    (breaker : CandidateBreakerState) (now : ℚ) :
    (breaker.markFailure settings.breaker now).probeInFlight = false ∧
      ((breaker.markFailure settings.breaker now).disabledUntil ≤
          now + settings.openSec ∨
        (breaker.markFailure settings.breaker now).state = breaker.state ∧
          (breaker.markFailure settings.breaker now).disabledUntil =
            breaker.disabledUntil) := by
  have hcooldown := settings.cooldown_le (breaker.openCount + 1)
  have hopened : now + settings.breaker.cooldown (breaker.openCount + 1) ≤
      now + settings.openSec := by
    linarith
  unfold CandidateBreakerState.markFailure
  dsimp only
  split_ifs
  · exact ⟨rfl, .inr ⟨rfl, rfl⟩⟩
  · exact ⟨rfl, .inl hopened⟩

namespace RouteSystem

variable {κ : Type} [DecidableEq κ] {lower : Text → Text}
  {settings : CacheSettings} {s next : RouteSystem κ}

/-- The call has put up the probe flag of the route, or was given it half
open. -/
def Probes (s : RouteSystem κ) (id : κ) (route : Route) : Prop :=
  s.phase id = .taking route true ∨ s.phase id = .holding route true

omit [DecidableEq κ] in
theorem Probes.involves {id : κ} {route : Route} (hprobes : s.Probes id route) :
    (s.phase id).involves route := by
  rcases hprobes with htaking | hholding
  · rw [htaking]
    exact rfl
  · rw [hholding]
    exact ⟨rfl, rfl⟩

structure Kept (settings : CacheSettings) (s : RouteSystem κ) : Prop where
  usable : ∀ id route, (s.phase id).involves route →
    (s.cache.breakerOf route).state ≠ .opened
  flagged : ∀ id route, s.Probes id route →
    (s.cache.breakerOf route).state = .halfOpen →
      (s.cache.breakerOf route).probeInFlight = true
  unique : ∀ id other route, s.Probes id route → s.Probes other route →
    id = other
  owned : ∀ route, (s.cache.breakerOf route).state = .halfOpen →
    (s.cache.breakerOf route).probeInFlight = true → ∃ id, s.Probes id route
  cooled : ∀ route, (s.cache.breakerOf route).state = .opened →
    (s.cache.breakerOf route).disabledUntil ≤ s.clock + settings.openSec

theorem phase_update {id : κ} {call : RouteCall}
    (hcalls : next.calls = Function.update s.calls id (some call)) (other : κ) :
    next.phase other = if other = id then call.phase else s.phase other := by
  unfold RouteSystem.phase
  rw [hcalls]
  by_cases hsame : other = id <;> simp [hsame]

theorem phase_setPhase (id other : κ) (call : RouteCall) (phase : SelectPhase) :
    (s.setPhase id call phase).phase other =
      if other = id then phase else s.phase other := by
  have hcalls : (s.setPhase id call phase).calls =
      Function.update s.calls id (some { call with phase := phase }) := rfl
  exact phase_update hcalls other

omit [DecidableEq κ] in
/-- Every step but a new probe and a failure: calls involve nothing new that is
open, nobody gains a probe or loses one of a half-open route, and a breaker that
changes is left neither open nor half open with a flag. -/
theorem Kept.change (hkept : s.Kept settings) (hclock : s.clock ≤ next.clock)
    (hinvolves : ∀ id route, (next.phase id).involves route →
      (s.phase id).involves route ∨
        (next.cache.breakerOf route).state ≠ .opened)
    (hprobes : ∀ id route, next.Probes id route → s.Probes id route)
    (hkeeps : ∀ id route, s.Probes id route → next.Probes id route ∨
      (next.cache.breakerOf route).state ≠ .halfOpen)
    (hcalm : ∀ route, next.cache.breakerOf route = s.cache.breakerOf route ∨
      (next.cache.breakerOf route).state ≠ .opened ∧
        ((next.cache.breakerOf route).state = .halfOpen →
          (next.cache.breakerOf route).probeInFlight = false ∧
            ∀ id, ¬s.Probes id route)) : next.Kept settings := by
  refine ⟨?_, ?_, ?_, ?_, ?_⟩
  · intro id route hroute
    rcases hcalm route with hsame | ⟨hopen, -⟩
    · rcases hinvolves id route hroute with hbefore | hopen
      · rw [hsame]
        exact hkept.usable id route hbefore
      · exact hopen
    · exact hopen
  · intro id route hid hhalf
    rcases hcalm route with hsame | ⟨-, hfree⟩
    · rw [hsame] at hhalf ⊢
      exact hkept.flagged id route (hprobes id route hid) hhalf
    · exact absurd (hprobes id route hid) ((hfree hhalf).2 id)
  · intro id other route hid hother
    exact hkept.unique id other route (hprobes id route hid)
      (hprobes other route hother)
  · intro route hhalf hflag
    rcases hcalm route with hsame | ⟨-, hfree⟩
    · obtain ⟨owner, howner⟩ := hkept.owned route (by rwa [← hsame])
        (by rwa [← hsame])
      rcases hkeeps owner route howner with hnow | hnot
      · exact ⟨owner, hnow⟩
      · exact absurd hhalf hnot
    · rw [(hfree hhalf).1] at hflag
      cases hflag
  · intro route hopen
    rcases hcalm route with hsame | ⟨hnot, -⟩
    · rw [hsame] at hopen ⊢
      have hcooled := hkept.cooled route hopen
      linarith
    · exact absurd hopen hnot

theorem Kept.move (hkept : s.Kept settings) {id : κ} {call : RouteCall}
    {phase : SelectPhase} (hclock : next.clock = s.clock)
    (hphase : ∀ other, next.phase other =
      if other = id then phase else s.phase other)
    (hbreaker : ∀ route, next.cache.breakerOf route = s.cache.breakerOf route)
    (hcall : s.phase id = call.phase) (hidle : ∀ route, ¬s.Probes id route)
    (hinvolves : ∀ route, phase.involves route → call.phase.involves route)
    (hnone : ∀ route, phase ≠ .taking route true ∧ phase ≠ .holding route true) :
    next.Kept settings := by
  refine hkept.change (le_of_eq hclock.symm) ?_ ?_ ?_ fun route =>
    .inl (hbreaker route)
  · intro other route hroute
    rw [hphase other] at hroute
    by_cases hsame : other = id
    · rw [if_pos hsame] at hroute
      rw [hsame, hcall]
      exact .inl (hinvolves route hroute)
    · rw [if_neg hsame] at hroute
      exact .inl hroute
  · intro other route hother
    unfold Probes at hother ⊢
    rw [hphase other] at hother
    by_cases hsame : other = id
    · rw [if_pos hsame] at hother
      rcases hother with htaking | hholding
      · exact absurd htaking (hnone route).1
      · exact absurd hholding (hnone route).2
    · rwa [if_neg hsame] at hother
  · intro other route hother
    by_cases hsame : other = id
    · rw [hsame] at hother
      exact absurd hother (hidle route)
    · left
      unfold Probes at hother ⊢
      rwa [hphase other, if_neg hsame]

theorem callStep_spec {id : κ} {move : RouteCall → Option (RouteSystem κ)}
    (hstep : s.callStep id move = some next) :
    ∃ call, s.calls id = some call ∧ s.phase id = call.phase ∧
      move call = some next := by
  unfold callStep at hstep
  cases hcall : s.calls id with
  | none =>
    rw [hcall] at hstep
    cases hstep
  | some call =>
    rw [hcall] at hstep
    dsimp only at hstep
    split at hstep
    · refine ⟨call, rfl, ?_, hstep⟩
      unfold RouteSystem.phase
      rw [hcall]
    · cases hstep

omit [DecidableEq κ] in
theorem not_probes {id : κ} {phase : SelectPhase} (hphase : s.phase id = phase)
    (hnone : ∀ route, phase ≠ .taking route true ∧ phase ≠ .holding route true)
    (route : Route) : ¬s.Probes id route := by
  rintro (htaking | hholding)
  · exact (hnone route).1 (hphase.symm.trans htaking)
  · exact (hnone route).2 (hphase.symm.trans hholding)

section

variable (hkept : s.Kept settings)

include hkept

theorem Kept.startStep {id : κ} {strategy name : Text} {ids : List Text}
    (hstep : s.startStep lower settings id strategy name ids = some next) :
    next.Kept settings := by
  unfold RouteSystem.startStep at hstep
  cases hcall : s.calls id with
  | some call =>
    rw [hcall] at hstep
    cases hstep
  | none =>
    rw [hcall] at hstep
    dsimp only at hstep
    split at hstep
    · cases hstep
      have hended : s.phase id = .ended := by
        unfold RouteSystem.phase
        rw [hcall]
      have hbefore : s.phase id = (⟨.predictedBusy, .ended⟩ : RouteCall).phase :=
        hended
      refine hkept.move rfl (phase_update rfl) (fun _ => rfl) hbefore
        (not_probes hended (by simp)) ?_ (by simp)
      · intro route hroute
        cases hroute
    · cases hstep

theorem Kept.checkStep {id : κ} {call : RouteCall}
    (hcall : s.phase id = call.phase) (hstep : s.checkStep id call = some next)
    : next.Kept settings := by
  unfold RouteSystem.checkStep at hstep
  split at hstep
  · next kept hphase =>
    cases hstep
    refine hkept.move rfl (fun other => phase_setPhase id other call _)
      (fun _ => rfl) hcall (not_probes (hcall.trans hphase) (by simp)) ?_ (by simp)
    intro route hroute
    rw [hphase]
    exact hroute
  · next route left kept hphase =>
    cases hstep
    have hbefore : s.phase id = .checking (route :: left) kept :=
      hcall.trans hphase
    have hnext : ∀ other, RouteSystem.phase
        ((s.setCache (s.cache.routeAvailable s.clock route).1).setPhase id call
          (.checking left (if (s.cache.routeAvailable s.clock route).2 = true then
            kept ++ [route] else kept))) other =
        if other = id then .checking left
          (if (s.cache.routeAvailable s.clock route).2 = true then
            kept ++ [route] else kept) else s.phase other :=
      fun other => phase_setPhase id other call _
    have hallowed := RouteCache.routeAvailable_snd s.cache s.clock route
    have hbreaker := RouteCache.breakerOf_routeAvailable s.cache s.clock route
    have hprobes : ∀ other route', Probes
        ((s.setCache (s.cache.routeAvailable s.clock route).1).setPhase id call
          (.checking left (if (s.cache.routeAvailable s.clock route).2 = true then
            kept ++ [route] else kept))) other route' ↔ s.Probes other route' := by
      intro other route'
      unfold Probes
      rw [hnext other]
      by_cases hsame : other = id
      · rw [if_pos hsame, hsame, hbefore]
        simp
      · rw [if_neg hsame]
    refine hkept.change (le_refl _) ?_
      (fun other route' hother => (hprobes other route').mp hother)
      (fun other route' hother => .inl ((hprobes other route').mpr hother)) ?_
    · intro other route' hroute
      rw [hnext other] at hroute
      by_cases hsame : other = id
      · rw [if_pos hsame] at hroute
        change route' ∈ (if (s.cache.routeAvailable s.clock route).2 = true then
          kept ++ [route] else kept) at hroute
        split at hroute
        · next htrue =>
          rcases List.mem_append.mp hroute with hkeptRoute | hnew
          · left
            rw [hsame, hbefore]
            exact hkeptRoute
          · right
            rw [List.mem_singleton.mp hnew]
            change ((s.cache.routeAvailable s.clock route).1.breakerOf route).state ≠
              .opened
            rw [hbreaker route, if_pos rfl]
            exact CandidateBreakerState.not_opened_of_allowed
              (hallowed.symm.trans htrue)
        · left
          rw [hsame, hbefore]
          exact hroute
      · rw [if_neg hsame] at hroute
        exact .inl hroute
    · intro route'
      change (s.cache.routeAvailable s.clock route).1.breakerOf route' = _ ∨ _
      by_cases hsame : route' = route
      · subst hsame
        by_cases hopen : (s.cache.breakerOf route').state = .opened
        · rcases CandidateBreakerState.candidateAllowed_opened hopen s.clock with
            hshut | ⟨-, hhalf⟩
          · left
            rw [hbreaker route', if_pos rfl, hshut]
          · right
            change ((s.cache.routeAvailable s.clock route').1.breakerOf route').state ≠
              .opened ∧ (((s.cache.routeAvailable s.clock route').1.breakerOf
                route').state = .halfOpen →
              ((s.cache.routeAvailable s.clock route').1.breakerOf
                route').probeInFlight = false ∧ _)
            rw [hbreaker route', if_pos rfl, hhalf]
            refine ⟨by simp, fun _ => ⟨rfl, ?_⟩⟩
            intro other hother
            exact hkept.usable other route' hother.involves hopen
        · left
          rw [hbreaker route', if_pos rfl,
            CandidateBreakerState.candidateAllowed_of_ne hopen]
      · left
        rw [hbreaker route', if_neg hsame]
  · cases hstep

theorem Kept.chooseStep {id : κ} {call : RouteCall} {route : Route}
    (hcall : s.phase id = call.phase)
    (hstep : s.chooseStep id call route = some next) : next.Kept settings := by
  unfold RouteSystem.chooseStep at hstep
  split at hstep
  · next kept hphase =>
    have hidle := not_probes (hcall.trans hphase) (by simp)
    split at hstep
    · next hmem =>
      split at hstep
      · split at hstep
        · cases hstep
        · cases hstep
          refine hkept.move rfl (fun other => phase_setPhase id other call _)
            (fun _ => rfl) hcall hidle ?_ (by simp)
          rintro other (hsame | hother)
          · rw [hphase, hsame]
            exact hmem
          · rw [hphase]
            exact hother
      · cases hstep
        refine hkept.move rfl (fun other => phase_setPhase id other call _)
          (fun _ => rfl) hcall hidle ?_ (by simp)
        intro other hsame
        rw [hphase, show other = route from hsame]
        exact hmem
    · cases hstep
  · cases hstep

theorem Kept.refuseStep {id : κ} {call : RouteCall}
    (hcall : s.phase id = call.phase) (hstep : s.refuseStep id call = some next)
    : next.Kept settings := by
  unfold RouteSystem.refuseStep at hstep
  split at hstep
  · next kept hphase =>
    split at hstep
    · cases hstep
      refine hkept.move rfl
        (fun other => phase_setPhase (s := s.unlock) id other call _)
        (fun _ => rfl) hcall (not_probes (hcall.trans hphase) (by simp)) ?_ (by simp)
      intro other hother
      cases hother
    · cases hstep
  · cases hstep

theorem Kept.fallBackStep {id : κ} {call : RouteCall} {route : Route}
    (hcall : s.phase id = call.phase)
    (hstep : s.fallBackStep id call route = some next) :
    next.Kept settings := by
  unfold RouteSystem.fallBackStep at hstep
  split at hstep
  · next kept hphase =>
    split at hstep
    · next hmem =>
      cases hstep
      refine hkept.move rfl (fun other => phase_setPhase id other call _)
        (fun _ => rfl) hcall (not_probes (hcall.trans hphase) (by simp)) ?_ (by simp)
      intro other hsame
      rw [hphase, show other = route from hsame]
      exact hmem
    · cases hstep
  · cases hstep

theorem Kept.raiseFlag {id : κ} {route : Route} (hclock : next.clock = s.clock)
    (hphase : ∀ other, next.phase other =
      if other = id then .taking route true else s.phase other)
    (hidle : ∀ other, ¬s.Probes id other)
    (hfree : (s.cache.breakerOf route).probeInFlight = false)
    (hhalf : (s.cache.breakerOf route).state = .halfOpen)
    (hbreaker : ∀ other, next.cache.breakerOf other =
      if other = route then { s.cache.breakerOf route with probeInFlight := true }
      else s.cache.breakerOf other) : next.Kept settings := by
  have hunowned : ∀ other, ¬s.Probes other route := by
    intro other hother
    rw [hkept.flagged other route hother hhalf] at hfree
    cases hfree
  have hprobes : ∀ other route', next.Probes other route' ↔
      other = id ∧ route' = route ∨ s.Probes other route' := by
    intro other route'
    have hidleOther := hidle route'
    unfold Probes at hidleOther ⊢
    rw [hphase other]
    by_cases hsame : other = id
    · subst hsame
      rw [if_pos rfl]
      constructor
      · rintro (htaking | hholding)
        · cases htaking
          exact .inl ⟨rfl, rfl⟩
        · cases hholding
      · rintro (⟨-, rfl⟩ | hbefore)
        · exact .inl rfl
        · exact absurd hbefore hidleOther
    · rw [if_neg hsame]
      simp [hsame]
  refine ⟨?_, ?_, ?_, ?_, ?_⟩
  · intro other route' hroute
    rw [hbreaker route']
    by_cases hsame : route' = route
    · rw [if_pos hsame]
      simp [hhalf]
    · rw [if_neg hsame]
      rw [hphase other] at hroute
      by_cases hid : other = id
      · rw [if_pos hid] at hroute
        exact absurd hroute hsame
      · rw [if_neg hid] at hroute
        exact hkept.usable other route' hroute
  · intro other route' hother hhalf'
    rw [hbreaker route'] at hhalf' ⊢
    by_cases hsame : route' = route
    · rw [if_pos hsame]
    · rw [if_neg hsame] at hhalf' ⊢
      rcases (hprobes other route').mp hother with ⟨-, hroute⟩ | hbefore
      · exact absurd hroute hsame
      · exact hkept.flagged other route' hbefore hhalf'
  · intro other other' route' hother hother'
    rcases (hprobes other route').mp hother with ⟨hid, hroute⟩ | hbefore
    · rcases (hprobes other' route').mp hother' with ⟨hid', -⟩ | hbefore'
      · rw [hid, hid']
      · rw [hroute] at hbefore'
        exact absurd hbefore' (hunowned other')
    · rcases (hprobes other' route').mp hother' with ⟨-, hroute'⟩ | hbefore'
      · rw [hroute'] at hbefore
        exact absurd hbefore (hunowned other)
      · exact hkept.unique other other' route' hbefore hbefore'
  · intro route' hhalf' hflag
    rw [hbreaker route'] at hhalf' hflag
    by_cases hsame : route' = route
    · exact ⟨id, (hprobes id route').mpr (.inl ⟨rfl, hsame⟩)⟩
    · rw [if_neg hsame] at hhalf' hflag
      obtain ⟨owner, howner⟩ := hkept.owned route' hhalf' hflag
      exact ⟨owner, (hprobes owner route').mpr (.inr howner)⟩
  · intro route' hopen
    rw [hbreaker route'] at hopen ⊢
    by_cases hsame : route' = route
    · rw [if_pos hsame] at hopen
      rw [show (s.cache.breakerOf route).state = .opened from hopen] at hhalf
      cases hhalf
    · rw [if_neg hsame] at hopen ⊢
      rw [hclock]
      exact hkept.cooled route' hopen

theorem Kept.probeStep {id : κ} {call : RouteCall}
    (hcall : s.phase id = call.phase) (hstep : s.probeStep id call = some next)
    : next.Kept settings := by
  unfold RouteSystem.probeStep at hstep
  split at hstep
  · next route kept hphase =>
    have hbefore : s.phase id = .probing route kept := hcall.trans hphase
    have hidle := not_probes hbefore (by simp)
    have husable : (s.cache.breakerOf route).state ≠ .opened := by
      refine hkept.usable id route ?_
      rw [hbefore]
      exact .inl rfl
    have hbreaker := RouteCache.breakerOf_beforeProbe s.cache s.clock route
    have hasked : (s.cache.beforeProbe s.clock route).2 =
        ((s.cache.breakerOf route).beforeProbe s.clock).2 := rfl
    simp only [Option.some.injEq] at hstep
    rcases CandidateBreakerState.beforeProbe_cases husable s.clock with
      ⟨-, -, hresult⟩ | ⟨hhalf, hfree, hresult⟩ | ⟨hclosed, hresult⟩
    · rw [hasked, hresult, if_neg Bool.false_ne_true] at hstep
      subst hstep
      refine hkept.move rfl
        (fun other => phase_setPhase (s := s.setCache _) id other call _) ?_ hcall
        hidle ?_ (by simp)
      · intro other
        refine (hbreaker other).trans ?_
        rw [hresult]
        split
        · next hsame => rw [hsame]
        · rfl
      · intro other hother
        rw [hphase]
        exact .inr hother
    · rw [hasked, hresult, if_pos rfl] at hstep
      subst hstep
      have hnow := hbreaker route
      rw [if_pos rfl, hresult] at hnow
      refine hkept.raiseFlag rfl ?_ hidle hfree hhalf ?_
      · intro other
        refine (phase_setPhase (s := s.setCache _) id other call _).trans ?_
        rw [hnow]
        simp only [hhalf, decide_true]
        rfl
      · intro other
        refine (hbreaker other).trans ?_
        rw [hresult]
    · rw [hasked, hresult, if_pos rfl] at hstep
      subst hstep
      have hnow := hbreaker route
      rw [if_pos rfl, hresult] at hnow
      have hfalse : decide (((s.cache.beforeProbe s.clock route).1.breakerOf
          route).state = .halfOpen) = false := by
        rw [hnow]
        simp [hclosed]
      rw [hfalse]
      refine hkept.move rfl
        (fun other => phase_setPhase (s := s.setCache _) id other call _) ?_ hcall
        hidle ?_ (by simp)
      · intro other
        refine (hbreaker other).trans ?_
        rw [hresult]
        split
        · next hsame => rw [hsame]
        · rfl
      · intro other hother
        rw [hphase]
        exact .inl hother
  · cases hstep

theorem Kept.takeStep {id : κ} {call : RouteCall}
    (hcall : s.phase id = call.phase) (hok : ProbeKept s (.take id))
    (hstep : s.takeStep id call = some next) : next.Kept settings := by
  unfold RouteSystem.takeStep at hstep
  split at hstep
  · next route probe hphase =>
    have hbefore : s.phase id = .taking route probe := hcall.trans hphase
    have hnext : ∀ other, RouteSystem.phase
        ((((s.setCache (s.cache.reserveRoute route)).unlock).setPhase id call
          (.holding route (decide ((s.cache.breakerOf route).state = .halfOpen)))))
          other = if other = id then
            .holding route (decide ((s.cache.breakerOf route).state = .halfOpen))
          else s.phase other :=
      fun other => phase_setPhase
        (s := (s.setCache (s.cache.reserveRoute route)).unlock) id other call _
    have hbreaker : ∀ other, (s.cache.reserveRoute route).breakerOf other =
        s.cache.breakerOf other := fun other =>
      RouteCache.breakerOf_of_localState _
        (RouteCache.reserveRoute_localState _ _) other
    cases hstep
    refine hkept.change (le_refl _) ?_ ?_ ?_ fun other => .inl (hbreaker other)
    · intro other route' hroute
      rw [hnext other] at hroute
      by_cases hsame : other = id
      · rw [if_pos hsame] at hroute
        left
        rw [hsame, hbefore]
        exact hroute.1
      · rw [if_neg hsame] at hroute
        exact .inl hroute
    · intro other route' hother
      unfold Probes at hother ⊢
      rw [hnext other] at hother
      by_cases hsame : other = id
      · rw [if_pos hsame] at hother
        rcases hother with htaking | hholding
        · cases htaking
        · obtain ⟨hroute, hhalf⟩ := SelectPhase.holding.inj hholding
          subst hroute
          simp only [ProbeKept, hbefore] at hok
          cases probe with
          | true =>
            rw [hsame]
            exact .inl hbefore
          | false => exact absurd (of_decide_eq_true hhalf) hok
      · rwa [if_neg hsame] at hother
    · intro other route' hother
      by_cases hsame : other = id
      · have hroute : route' = route := by
          have hinvolved := hother.involves
          rw [hsame, hbefore] at hinvolved
          exact hinvolved
        subst hroute
        by_cases hhalf : (s.cache.breakerOf route').state = .halfOpen
        · left
          right
          rw [hnext other, if_pos hsame]
          simp [hhalf]
        · right
          change ((s.cache.reserveRoute route').breakerOf route').state ≠ .halfOpen
          rw [hbreaker route']
          exact hhalf
      · left
        unfold Probes at hother ⊢
        rwa [hnext other, if_neg hsame]
  · cases hstep

theorem Kept.endCall {id : κ} {route : Route} {halfOpen : Bool}
    (hbefore : s.phase id = .holding route halfOpen)
    (hclock : next.clock = s.clock)
    (hphase : ∀ other, next.phase other =
      if other = id then .ended else s.phase other)
    (hended : halfOpen = true → (next.cache.breakerOf route).state ≠ .halfOpen)
    (hcalm : ∀ other, next.cache.breakerOf other = s.cache.breakerOf other ∨
      (next.cache.breakerOf other).state ≠ .opened ∧
        (next.cache.breakerOf other).state ≠ .halfOpen) :
    next.Kept settings := by
  refine hkept.change (le_of_eq hclock.symm) ?_ ?_ ?_ ?_
  · intro other route' hroute
    rw [hphase other] at hroute
    by_cases hsame : other = id
    · rw [if_pos hsame] at hroute
      cases hroute
    · rw [if_neg hsame] at hroute
      exact .inl hroute
  · intro other route' hother
    unfold Probes at hother ⊢
    rw [hphase other] at hother
    by_cases hsame : other = id
    · rw [if_pos hsame] at hother
      rcases hother with htaking | hholding
      · cases htaking
      · cases hholding
    · rwa [if_neg hsame] at hother
  · intro other route' hother
    by_cases hsame : other = id
    · right
      have hinvolved := hother.involves
      rw [hsame, hbefore] at hinvolved
      rw [hinvolved.1]
      exact hended hinvolved.2
    · left
      unfold Probes at hother ⊢
      rwa [hphase other, if_neg hsame]
  · intro other
    rcases hcalm other with hsame | ⟨hopen, hhalf⟩
    · exact .inl hsame
    · exact .inr ⟨hopen, fun h => absurd h hhalf⟩

theorem Kept.endFailure {id : κ} {route : Route} {halfOpen : Bool}
    (hbefore : s.phase id = .holding route halfOpen)
    (halone : ∀ other, other ≠ id → ¬(s.phase other).involves route)
    (hclock : next.clock = s.clock)
    (hphase : ∀ other, next.phase other =
      if other = id then .ended else s.phase other)
    (hbreaker : ∀ other, next.cache.breakerOf other =
      if other = route then
        (s.cache.breakerOf route).markFailure settings.breaker s.clock
      else s.cache.breakerOf other) : next.Kept settings := by
  obtain ⟨hflag, htime⟩ :=
    markFailure_spec settings (s.cache.breakerOf route) s.clock
  have hinvolves : ∀ other route', (next.phase other).involves route' →
      route' ≠ route ∧ (s.phase other).involves route' := by
    intro other route' hroute
    rw [hphase other] at hroute
    by_cases hsame : other = id
    · rw [if_pos hsame] at hroute
      cases hroute
    · rw [if_neg hsame] at hroute
      refine ⟨?_, hroute⟩
      rintro rfl
      exact halone other hsame hroute
  have hprobes : ∀ other route', next.Probes other route' →
      route' ≠ route ∧ s.Probes other route' := by
    intro other route' hother
    refine ⟨(hinvolves other route' hother.involves).1, ?_⟩
    unfold Probes at hother ⊢
    rw [hphase other] at hother
    by_cases hsame : other = id
    · rw [if_pos hsame] at hother
      rcases hother with htaking | hholding
      · cases htaking
      · cases hholding
    · rwa [if_neg hsame] at hother
  refine ⟨?_, ?_, ?_, ?_, ?_⟩
  · intro other route' hroute
    obtain ⟨hne, hinvolved⟩ := hinvolves other route' hroute
    rw [hbreaker route', if_neg hne]
    exact hkept.usable other route' hinvolved
  · intro other route' hother hhalf
    obtain ⟨hne, hprobing⟩ := hprobes other route' hother
    rw [hbreaker route', if_neg hne] at hhalf ⊢
    exact hkept.flagged other route' hprobing hhalf
  · intro other other' route' hother hother'
    exact hkept.unique other other' route' (hprobes other route' hother).2
      (hprobes other' route' hother').2
  · intro route' hhalf hflag'
    rw [hbreaker route'] at hhalf hflag'
    by_cases hsame : route' = route
    · rw [if_pos hsame, hflag] at hflag'
      cases hflag'
    · rw [if_neg hsame] at hhalf hflag'
      obtain ⟨owner, howner⟩ := hkept.owned route' hhalf hflag'
      have hne : owner ≠ id := by
        rintro rfl
        have hinvolved := howner.involves
        rw [hbefore] at hinvolved
        exact hsame hinvolved.1
      refine ⟨owner, ?_⟩
      unfold Probes at howner ⊢
      rwa [hphase owner, if_neg hne]
  · intro route' hopen
    rw [hbreaker route'] at hopen ⊢
    rw [hclock]
    by_cases hsame : route' = route
    · rw [if_pos hsame] at hopen ⊢
      rcases htime with hle | ⟨hstate, huntil⟩
      · exact hle
      · rw [huntil]
        exact hkept.cooled route (hstate.symm.trans hopen)
    · rw [if_neg hsame] at hopen ⊢
      exact hkept.cooled route' hopen

theorem Kept.finishStep {id : κ} {call : RouteCall} {outcome : RouteOutcome}
    (hcall : s.phase id = call.phase) (hok : ProbeKept s (.finish id outcome))
    (hstep : s.finishStep settings id call outcome = some next) :
    next.Kept settings := by
  unfold RouteSystem.finishStep at hstep
  split at hstep
  · next route halfOpen hphase =>
    have hbefore : s.phase id = .holding route halfOpen := hcall.trans hphase
    cases outcome with
    | success =>
      have hbreaker := RouteCache.breakerOf_markSuccess s.cache route
      cases hstep
      refine hkept.endCall hbefore rfl
        (fun other => phase_setPhase (s := s.setCache _) id other call _) ?_ ?_
      · intro _
        change ((s.cache.markSuccess route).breakerOf route).state ≠ .halfOpen
        rw [hbreaker route, if_pos rfl]
        simp [CandidateBreakerState.fresh]
      · intro other
        by_cases hsame : other = route
        · right
          change ((s.cache.markSuccess route).breakerOf other).state ≠ .opened ∧
            ((s.cache.markSuccess route).breakerOf other).state ≠ .halfOpen
          rw [hbreaker other, if_pos hsame]
          simp [CandidateBreakerState.fresh]
        · exact .inl ((hbreaker other).trans (if_neg hsame))
    | failure =>
      cases hstep
      simp only [ProbeKept, hbefore, failsAlone] at hok
      exact hkept.endFailure hbefore hok rfl
        (fun other => phase_setPhase (s := s.setCache _) id other call _)
        (RouteCache.breakerOf_markFailure s.cache settings s.clock route)
    | release =>
      have hbreaker : ∀ other, (s.cache.releaseRoute route).breakerOf other =
          s.cache.breakerOf other := fun other =>
        RouteCache.breakerOf_of_localState _
          (RouteCache.releaseRoute_localState _ _) other
      cases hstep
      refine hkept.endCall hbefore rfl
        (fun other => phase_setPhase (s := s.setCache _) id other call _) ?_
        fun other => .inl (hbreaker other)
      rintro rfl
      change ((s.cache.releaseRoute route).breakerOf route).state ≠ .halfOpen
      rw [hbreaker route]
      simpa only [ProbeKept, hbefore, givesBack] using hok
  · cases hstep

theorem Kept.step {label : RouteLabel κ} (hok : ProbeKept s label)
    (hstep : s.step lower settings label = some next) : next.Kept settings := by
  cases label with
  | start id strategy name ids => exact hkept.startStep hstep
  | check id =>
    obtain ⟨call, -, hcall, hmove⟩ := callStep_spec hstep
    exact hkept.checkStep hcall hmove
  | choose id route =>
    obtain ⟨call, -, hcall, hmove⟩ := callStep_spec hstep
    exact hkept.chooseStep hcall hmove
  | refuse id =>
    obtain ⟨call, -, hcall, hmove⟩ := callStep_spec hstep
    exact hkept.refuseStep hcall hmove
  | probe id =>
    obtain ⟨call, -, hcall, hmove⟩ := callStep_spec hstep
    exact hkept.probeStep hcall hmove
  | fallBack id route =>
    obtain ⟨call, -, hcall, hmove⟩ := callStep_spec hstep
    exact hkept.fallBackStep hcall hmove
  | take id =>
    obtain ⟨call, -, hcall, hmove⟩ := callStep_spec hstep
    exact hkept.takeStep hcall hok hmove
  | finish id outcome =>
    obtain ⟨call, -, hcall, hmove⟩ := callStep_spec hstep
    exact hkept.finishStep hcall hok hmove
  | refresh name force answer =>
    simp only [RouteSystem.step] at hstep
    split at hstep
    · cases hstep
      refine hkept.change (le_refl _) (fun _ _ h => .inl h) (fun _ _ h => h)
        (fun _ _ h => .inl h) fun route => ?_
      rcases s.cache.breakerOf_refresh settings.kind (strip name) force answer route
        with hsame | hfresh
      · exact .inl hsame
      · right
        have hclosed : ((s.cache.refresh settings.kind (strip name) force
            answer).breakerOf route).state = .closed := by
          rw [hfresh]
          rfl
        exact ⟨fun hopen => (by cases hclosed.symm.trans hopen),
          fun hhalf => (by cases hclosed.symm.trans hhalf)⟩
    · cases hstep
  | tick now =>
    simp only [RouteSystem.step] at hstep
    split at hstep
    · next hle =>
      cases hstep
      exact hkept.change hle (fun _ _ h => .inl h) (fun _ _ h => h)
        (fun _ _ h => .inl h) fun _ => .inl rfl
    · cases hstep

end

/-- What half-open routes owe their callers.  `returned` is about the selection
that stands before its return, `regained` about every later time that is a
cooldown away. -/
structure ProbesSound (settings : CacheSettings) (s : RouteSystem κ) : Prop where
  returned : ∀ id route probe, s.phase id = .taking route probe →
    ¬((s.cache.breakerOf route).state = .opened ∧
      s.clock < (s.cache.breakerOf route).disabledUntil)
  one : ∀ id other route, s.phase id = .holding route true →
    s.phase other = .holding route true → id = other
  regained : ∀ route later, s.clock + settings.openSec ≤ later →
    (s.cache.routeAvailable later route).2 = true ∨ ∃ id, s.Probes id route

omit [DecidableEq κ] in
theorem Kept.sound (hkept : s.Kept settings) : s.ProbesSound settings := by
  refine ⟨?_, ?_, ?_⟩
  · rintro id route probe hphase ⟨hopen, -⟩
    refine hkept.usable id route ?_ hopen
    rw [hphase]
    exact rfl
  · intro id other route hid hother
    exact hkept.unique id other route (.inr hid) (.inr hother)
  · intro route later hlater
    rw [RouteCache.routeAvailable_snd]
    cases hstate : (s.cache.breakerOf route).state with
    | closed =>
      left
      rw [CandidateBreakerState.candidateAllowed_closed hstate]
    | opened =>
      left
      have hcooled := hkept.cooled route hstate
      unfold CandidateBreakerState.candidateAllowed
      rw [hstate]
      dsimp only
      rw [if_pos (hcooled.trans hlater)]
    | halfOpen =>
      cases hflag : (s.cache.breakerOf route).probeInFlight with
      | true => exact .inr (hkept.owned route hstate hflag)
      | false =>
        left
        unfold CandidateBreakerState.candidateAllowed
        rw [hstate]
        simp [hflag]

omit [DecidableEq κ] in
theorem init_kept : (init : RouteSystem κ).Kept settings := by
  refine ⟨?_, ?_, ?_, ?_, ?_⟩
  · intro id route hroute
    cases hroute
  · rintro id route (htaking | hholding)
    · cases htaking
    · cases hholding
  · rintro id other route (htaking | hholding)
    · cases htaking
    · cases hholding
  · intro route hhalf
    cases hhalf
  · intro route hopen
    cases hopen

/-- In every run of selections, calls that end, refreshes and the clock, on
either cache and under every strategy, in which each step keeps half-open routes
to one call: no selection returns a route that is shut, no two calls hold a
selection of one half-open route, and after a cooldown every route can be
selected unless a call still has its probe. -/
theorem half_open_routes_probed_once
    (hrun : GuardedRun (step lower settings) ProbeKept init s) :
    s.ProbesSound settings := by
  have hkept := hrun.invariant (Kept settings) init_kept
    fun _ _ _ hkept hok hstep => hkept.step hok hstep
  exact hkept.sound

def discoverySettings : CacheSettings :=
  ⟨.discovery, 5, by norm_num⟩

def onlyRoute : Route :=
  ⟨"svc".toList, "replica".toList⟩

def selects (id : κ) (strategy : String) (probes : Bool) : List (RouteLabel κ) :=
  [.start id strategy.toList "svc".toList ["replica".toList], .check id, .check id,
      .choose id onlyRoute] ++
    (if probes = true then [.probe id] else []) ++ [.take id]

def failsOnce (id : κ) : List (RouteLabel κ) :=
  selects id "round_robin" false ++ [.finish id .failure, .tick 5]

def probesOnce : List (RouteLabel (Fin 2)) :=
  failsOnce 0 ++ selects 1 "predicted_busy" true

theorem half_open_routes_probed_once_probesOnce :
    ∃ s : RouteSystem (Fin 2), s.phase 1 = .holding onlyRoute true ∧
      s.ProbesSound discoverySettings := by
  have hcheck : (checkedRun (step id discoverySettings) ProbeKept init
      probesOnce).map (fun s => s.phase 1) = some (.holding onlyRoute true) := by
    decide +kernel
  obtain ⟨s, hrun, hphase⟩ := Option.map_eq_some_iff.mp hcheck
  exact ⟨s, hphase, half_open_routes_probed_once (guardedRun_of_checkedRun _ hrun)⟩

/-- Two calls that choose round robin get the half-open route at the same
time; and a probe that is given back with `release_route` leaves its flag up for
ever. -/
theorem half_open_route_shared_and_lost :
    (∃ s : RouteSystem ℕ, Reachable (step id discoverySettings) init s ∧
      s.phase 1 = .holding onlyRoute true ∧
      s.phase 2 = .holding onlyRoute true) ∧
    ∃ s : RouteSystem ℕ, Reachable (step id discoverySettings) init s ∧
      s.phase 0 = .ended ∧ s.phase 1 = .ended ∧
      ∀ later, (s.cache.routeAvailable later onlyRoute).2 = false := by
  constructor
  · have hshared : (runLabels (step id discoverySettings) init
        (failsOnce 0 ++ selects 1 "round_robin" false ++
          selects 2 "round_robin" false)).map (fun s => (s.phase 1, s.phase 2)) =
        some (.holding onlyRoute true, .holding onlyRoute true) := by
      decide +kernel
    obtain ⟨s, hrun, hphases⟩ := Option.map_eq_some_iff.mp hshared
    obtain ⟨hfirst, hsecond⟩ := Prod.mk.inj hphases
    exact ⟨s, reachable_of_runLabels _ hrun, hfirst, hsecond⟩
  · have hlost : (runLabels (step id discoverySettings) init
        (failsOnce 0 ++ selects 1 "" true ++ [.finish 1 .release])).map
          (fun s => (s.phase 0, s.phase 1, s.cache.localState onlyRoute)) =
        some (.ended, .ended, some ⟨.halfOpen, 1, 5, 1, true⟩) := by
      decide +kernel
    obtain ⟨s, hrun, hfacts⟩ := Option.map_eq_some_iff.mp hlost
    obtain ⟨hfirst, hrest⟩ := Prod.mk.inj hfacts
    obtain ⟨hsecond, hstate⟩ := Prod.mk.inj hrest
    refine ⟨s, reachable_of_runLabels _ hrun, hfirst, hsecond, fun later => ?_⟩
    unfold RouteCache.routeAvailable
    rw [hstate]
    rfl

end RouteSystem

end PycloudParallel.ServiceRoutes
