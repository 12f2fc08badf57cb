import PycloudParallel.NodeTableMarks

/-!
# What becomes of the marks of a node

A heartbeat and a registration restore `healthy` and keep `schedulable` and
`reason`, but for what the profile of the node decides; a lost node keeps its
reason.
-/

namespace PycloudParallel.NodeTable

open Texts

variable {ε μ ρ : Type}

/-! ## What a profile decides of the marks -/

namespace NodeState

variable {platform : Platform ε μ} {state real clean : NodeState ε μ ρ}
  {profiles : OrderedDict String NodeProfile}
  {registrationTags : Option (List String)} {leaseTtlSec now : ℤ}

variable {profile : NodeProfile}

theorem capabilityTagsOf_unmarked :
    state.unmarked.capabilityTagsOf platform =
      state.capabilityTagsOf platform := by
  unfold capabilityTagsOf
  rfl

theorem unmarked_applyProfile (hrest : real.unmarked = clean.unmarked) :
    (real.applyProfile platform profiles registrationTags).unmarked =
      (clean.applyProfile platform profiles registrationTags).unmarked := by
  have hall (state : NodeState ε μ ρ) :
      (state.applyProfile platform profiles registrationTags).unmarked =
        { state.unmarked.tagged platform
            (profileOf platform profiles state.unmarked.controlAddr)
            registrationTags with
          drain := ((profileOf platform profiles
            state.unmarked.controlAddr).map NodeProfile.drain).getD
              state.unmarked.drain } := by
    rw [applyProfile_eq rfl, tagged, tagged, capabilityTagsOf_unmarked]
    simp only [unmarked]
  rw [hall real, hall clean, hrest]

theorem profiledReason_enabled (henabled : ¬profile.enabled = false)
    (hreason : orElse real.reason timeoutReason =
      orElse clean.reason timeoutReason) :
    orElse (profiledReason (some profile) real.reason) timeoutReason =
      orElse (profiledReason (some profile) clean.reason) timeoutReason := by
  have htimeout : timeoutReason ≠ disabledReason := by decide
  have hempty : disabledReason ≠ "" := by decide
  simp only [profiledReason, if_neg henabled]
  unfold orElse at hreason ⊢
  grind

def MarksDecided (profile : Option NodeProfile) (real clean : NodeState ε μ ρ) :
    Prop :=
  real.reason = clean.reason ∧
    (real.schedulable = clean.schedulable ∨
      ∃ managed, profile = some managed ∧
        (managed.enabled = false ∨ real.reason = disabledReason))

theorem MarksDecided.schedulable {profile : Option NodeProfile}
    (hdecided : MarksDecided profile real clean) :
    profiledSchedulable profile real.schedulable real.reason =
      profiledSchedulable profile clean.schedulable clean.reason := by
  obtain ⟨hreason, hsame | ⟨managed, rfl, hmanaged⟩⟩ := hdecided
  · rw [hreason, hsame]
  · rw [← hreason]
    unfold profiledSchedulable
    rcases hmanaged with hdisabled | hnoted
    · simp only [hdisabled, if_true]
    · simp only [hnoted, if_true]

theorem applyProfile_congr (hrest : real.unmarked = clean.unmarked)
    (hhealthy : real.healthy = clean.healthy)
    (hdecided : MarksDecided
      (profileOf platform profiles real.controlAddr) real clean) :
    real.applyProfile platform profiles registrationTags =
      clean.applyProfile platform profiles registrationTags := by
  have haddr : real.controlAddr = clean.controlAddr := by
    have hsame := congrArg NodeState.controlAddr hrest
    exact hsame
  apply eq_of_unmarked
  · exact unmarked_applyProfile hrest
  · rw [applyProfile_healthy, applyProfile_healthy, hhealthy]
  · rw [applyProfile_schedulable, applyProfile_schedulable,
      hdecided.schedulable, haddr]
  · rw [applyProfile_reason, applyProfile_reason, hdecided.1, haddr]

theorem applyProfile_alike (hstale : real.isStale leaseTtlSec now)
    (hrest : real.unmarked = clean.unmarked)
    (hreason : orElse real.reason timeoutReason =
      orElse clean.reason timeoutReason)
    (hdisabled : ∀ profile,
      profileOf platform profiles real.controlAddr = some profile →
        profile.enabled = false → real.reason = clean.reason) :
    (real.applyProfile platform profiles registrationTags).fenceIfStale
        leaseTtlSec now =
      (clean.applyProfile platform profiles registrationTags).fenceIfStale
        leaseTtlSec now := by
  have haddr : real.controlAddr = clean.controlAddr := by
    have hsame := congrArg NodeState.controlAddr hrest
    exact hsame
  apply fenceIfStale_congr
  · rwa [isStale, applyProfile_lastSeenAt]
  · exact unmarked_applyProfile hrest
  · rw [applyProfile_reason, applyProfile_reason, ← haddr]
    cases hprofile : profileOf platform profiles real.controlAddr with
    | none => exact hreason
    | some profile =>
      by_cases henabled : profile.enabled = false
      · rw [hdisabled profile hprofile henabled]
      · exact profiledReason_enabled henabled hreason

def remarked (healthy schedulable : Bool) (reason : String)
    (state : NodeState ε μ ρ) : NodeState ε μ ρ :=
  { state with
    healthy := healthy
    schedulable := schedulable
    reason := reason }

variable (hrest : real.unmarked = clean.unmarked)

include hrest

theorem eq_remarked :
    clean = real.remarked clean.healthy clean.schedulable clean.reason :=
  eq_of_unmarked hrest.symm rfl rfl rfl

theorem serviceNames_congr : real.serviceNames = clean.serviceNames := by
  have hsame := congrArg NodeState.serviceNames hrest
  exact hsame

theorem controlAddr_congr : real.controlAddr = clean.controlAddr := by
  have hsame := congrArg NodeState.controlAddr hrest
  exact hsame

end NodeState

/-! ## What operations make of marked nodes -/

variable {platform : Platform ε μ} {now : ℤ}
  {profiles : OrderedDict String NodeProfile} {known other : NodeState ε μ ρ}

theorem beatenNode_congr (call : Heartbeat ε μ ρ)
    (hrest : known.unmarked = other.unmarked)
    (hdecided : NodeState.MarksDecided
      (profileOf platform profiles known.controlAddr) known other) :
    beatenNode platform now call (some known) profiles =
      beatenNode platform now call (some other) profiles := by
  have hother := NodeState.eq_remarked hrest
  rw [beatenNode, beatenNode]
  apply NodeState.applyProfile_congr
  · rw [hother]
    rfl
  · rfl
  · exact hdecided

theorem registeredNode_congr (call : Registration ε μ ρ)
    (hrest : known.unmarked = other.unmarked)
    (hdecided : NodeState.MarksDecided
      (profileOf platform profiles call.controlAddr) known other) :
    registeredNode platform now call (some known) profiles =
      registeredNode platform now call (some other) profiles := by
  have hother := NodeState.eq_remarked hrest
  rw [registeredNode, registeredNode]
  apply NodeState.applyProfile_congr
  · rw [hother]
    rfl
  · rfl
  · exact hdecided

theorem lostNode_congr {leaseTtlSec : ℤ} {reason : String}
    (hrest : known.unmarked = other.unmarked)
    (hreason : reason = "" → known.reason = other.reason) :
    lostNode platform now leaseTtlSec reason known =
      lostNode platform now leaseTtlSec reason other := by
  have hnoted : orElse reason (orElse known.reason "node lost") =
      orElse reason (orElse other.reason "node lost") := by
    by_cases hblank : reason = ""
    · rw [hreason hblank]
    · rw [orElse, if_neg hblank, orElse, if_neg hblank]
  rw [lostNode, lostNode, hnoted]
  rw [NodeState.eq_remarked hrest]
  rfl

def enabledNode (profile : NodeProfile) (state : NodeState ε μ ρ) :
    NodeState ε μ ρ :=
  if profile.enabled = true ∧ state.reason = NodeState.disabledReason then
    { state with schedulable := true, reason := "" }
  else state

theorem enabledNode_reason (profile : NodeProfile) (state : NodeState ε μ ρ) :
    (enabledNode profile state).reason =
      if profile.enabled = true ∧ state.reason = NodeState.disabledReason then
        "" else state.reason := by
  unfold enabledNode
  split <;> rfl

theorem unmarked_enabledNode (profile : NodeProfile) (state : NodeState ε μ ρ) :
    (enabledNode profile state).unmarked = state.unmarked := by
  unfold enabledNode
  split <;> rfl

theorem profiledNode_alike {leaseTtlSec : ℤ} {profile : NodeProfile}
    (hsame : known.fenceIfStale leaseTtlSec now =
      other.fenceIfStale leaseTtlSec now)
    (hprofile : profileOf platform profiles known.controlAddr = some profile)
    (hdisabled : profile.enabled = false → known.reason = other.reason) :
    (profiledNode platform profile profiles known).fenceIfStale leaseTtlSec
        now =
      (profiledNode platform profile profiles other).fenceIfStale leaseTtlSec
        now := by
  obtain rfl | ⟨hstale, hrest, hreason⟩ := NodeState.eq_or_unmarked hsame
  · rfl
  have hboth : (enabledNode profile known).unmarked =
      (enabledNode profile other).unmarked := by
    rw [unmarked_enabledNode, unmarked_enabledNode, hrest]
  have haddr : (enabledNode profile known).controlAddr = known.controlAddr :=
    NodeState.controlAddr_congr (unmarked_enabledNode profile known)
  have hlate : (enabledNode profile known).isStale leaseTtlSec now := by
    have hseen := congrArg NodeState.lastSeenAt
      (unmarked_enabledNode profile known)
    have hseen : (enabledNode profile known).lastSeenAt =
        known.lastSeenAt := hseen
    rwa [NodeState.isStale, hseen]
  apply NodeState.applyProfile_alike hlate hboth
  · rw [enabledNode_reason, enabledNode_reason]
    have htimeout : NodeState.timeoutReason ≠ NodeState.disabledReason := by
      decide
    have hempty : NodeState.disabledReason ≠ "" := by
      decide
    unfold orElse at hreason ⊢
    grind
  · intro found hfound hoff
    rw [haddr, hprofile, Option.some.injEq] at hfound
    subst hfound
    rw [enabledNode_reason, enabledNode_reason, hdisabled hoff]

theorem scheduledNode_alike {leaseTtlSec : ℤ} (change : ScheduleChange)
    (hsame : known.fenceIfStale leaseTtlSec now =
      other.fenceIfStale leaseTtlSec now)
    (hdisabled : change.reason = none → ∀ profile,
      profileOf platform profiles known.controlAddr = some profile →
        profile.enabled = false → known.reason = other.reason) :
    (scheduledNode platform change profiles known).fenceIfStale leaseTtlSec
        now =
      (scheduledNode platform change profiles other).fenceIfStale leaseTtlSec
        now := by
  obtain rfl | ⟨hstale, hrest, hreason⟩ := NodeState.eq_or_unmarked hsame
  · rfl
  rw [scheduledNode, scheduledNode]
  apply NodeState.applyProfile_alike
  · exact hstale
  · rw [NodeState.eq_remarked hrest]
    rfl
  · cases hgiven : change.reason with
    | none => exact hreason
    | some reason => rfl
  · intro profile hprofile hoff
    cases hgiven : change.reason with
    | none => exact hdisabled hgiven profile hprofile hoff
    | some reason => rfl

end PycloudParallel.NodeTable
