import PycloudParallel.NodeTableProfiles

/-!
# A profile that is disabled and enabled again

While its profile is disabled a node keeps no other note of what it was than
its reason: the profile writes one where there is none, and only where it finds
its own it makes the node schedulable again.
-/

namespace PycloudParallel.NodeTable

open Texts NodeState OrderedDict

variable {ε μ ρ : Type} {platform : Platform ε μ}

def enabling (enabled : Bool) : ProfileChange :=
  ⟨none, [], [], some enabled, none, none⟩

def AtEndpoint (platform : Platform ε μ) (endpoint : String)
    (state : NodeState ε μ ρ) : Prop :=
  normalizeNodeProfileKey platform endpoint ≠ "" ∧
    normalizeNodeProfileKey platform state.controlAddr =
      normalizeNodeProfileKey platform endpoint

/-- What the next enabling of its profile finds. -/
structure SwitchedOff (platform : Platform ε μ) (endpoint reason : String)
    (state : NodeState ε μ ρ) : Prop where
  here : AtEndpoint platform endpoint state
  unschedulable : state.schedulable = false
  reason : state.reason = orElse reason disabledReason

section

variable {profiles : OrderedDict String NodeProfile} {profile : NodeProfile}
  {state : NodeState ε μ ρ} {registrationTags : Option (List String)}
  {endpoint reason : String}

theorem profileOf_endpoint (hhere : AtEndpoint platform endpoint state) :
    profileOf platform profiles state.controlAddr =
      profiles.lookup (normalizeNodeProfileKey platform endpoint) := by
  rw [profileOf, if_neg (hhere.2 ▸ hhere.1), hhere.2]

theorem switchedOff_applyProfile (hreason : state.reason = reason)
    (hhere : AtEndpoint platform endpoint state)
    (hprofile : profiles.lookup (normalizeNodeProfileKey platform endpoint) =
      some profile) (hdisabled : profile.enabled = false) :
    SwitchedOff platform endpoint reason
      (state.applyProfile platform profiles registrationTags) where
  here := ⟨hhere.1, by rw [applyProfile_controlAddr, hhere.2]⟩
  unschedulable := by
    rw [applyProfile_schedulable, profileOf_endpoint hhere, hprofile,
      profiledSchedulable, if_pos hdisabled]
  reason := by
    rw [applyProfile_reason, profileOf_endpoint hhere, hprofile,
      profiledReason, if_pos hdisabled, hreason]

theorem SwitchedOff.again (hoff : SwitchedOff platform endpoint reason state)
    {other : NodeState ε μ ρ}
    (hother : SwitchedOff platform endpoint state.reason other) :
    SwitchedOff platform endpoint reason other := by
  refine ⟨hother.here, hother.unschedulable, ?_⟩
  rw [hother.reason, hoff.reason]
  unfold orElse
  split <;> simp_all

/-- What becomes of a node that was switched off. -/
theorem profiledNode_enabled (hoff : SwitchedOff platform endpoint reason state)
    (hprofile : profiles.lookup (normalizeNodeProfileKey platform endpoint) =
      some profile) (henabled : profile.enabled = true) :
    (profiledNode platform profile profiles state).schedulable =
        decide (reason = "" ∨ reason = disabledReason) ∧
      (profiledNode platform profile profiles state).reason =
        if reason = disabledReason then "" else reason := by
  have hempty : disabledReason ≠ "" := by decide
  have haddr : (enabledNode profile state).controlAddr = state.controlAddr :=
    controlAddr_congr (unmarked_enabledNode profile state)
  have hhere : AtEndpoint platform endpoint (enabledNode profile state) :=
    ⟨hoff.here.1, by rw [haddr, hoff.here.2]⟩
  have hschedulable : (enabledNode profile state).schedulable =
      decide (state.reason = disabledReason) := by
    unfold enabledNode
    split <;> simp_all [hoff.unschedulable]
  change ((enabledNode profile state).applyProfile platform profiles
      none).schedulable = _ ∧ ((enabledNode profile state).applyProfile platform
        profiles none).reason = _
  rw [applyProfile_schedulable, applyProfile_reason, profileOf_endpoint hhere,
    hprofile, hschedulable, enabledNode_reason, hoff.reason]
  simp only [profiledSchedulable, profiledReason, henabled]
  unfold orElse
  grind

end

/-! ## The table -/

section

variable {table mid last : InfoCenterState ε μ ρ} {endpoint : String}

/-- Heartbeats, and queries that visit only nodes that are not late. -/
def Quiet (platform : Platform ε μ) (table : InfoCenterState ε μ ρ)
    (label : ℤ × Operation ε μ ρ) : Prop :=
  match label.2 with
  | .heartbeat _ => True
  | .query query => ∀ id ∈ table.visited platform query, ∀ state,
      table.nodes.lookup id = some state →
        ¬state.isStale table.leaseTtlSec label.1
  | _ => False

/-- The profile of the endpoint is disabled, and the nodes that were there are
switched off. -/
structure Suspended (platform : Platform ε μ) (endpoint : String)
    (table mid : InfoCenterState ε μ ρ) : Prop where
  profile : ∃ profile, mid.profiles.lookup
    (normalizeNodeProfileKey platform endpoint) = some profile ∧
      profile.enabled = false
  nodes : ∀ id state, table.nodes.lookup id = some state →
    AtEndpoint platform endpoint state →
      ∃ off, mid.nodes.lookup id = some off ∧
        SwitchedOff platform endpoint state.reason off

theorem suspended_disable
    (hendpoint : normalizeNodeProfileKey platform endpoint ≠ "") :
    Suspended platform endpoint table
      (updateNodeProfile platform endpoint (enabling false) table) := by
  unfold updateNodeProfile
  dsimp only
  rw [if_neg hendpoint]
  generalize hprofile : (enabling false).apply ((table.profiles.lookup
    (normalizeNodeProfileKey platform endpoint)).getD ⟨[], true, false, ""⟩) =
      profile
  have hdisabled : profile.enabled = false := by
    rw [← hprofile]
    rfl
  refine ⟨⟨profile, lookup_set_self _ _ _, hdisabled⟩, ?_⟩
  intro id state hstate hhere
  have hsame : enabledNode profile state = state := by
    simp [enabledNode, hdisabled]
  refine ⟨_, by rw [lookup_mapValues, hstate]; rfl, ?_⟩
  dsimp only
  rw [if_pos hhere.2]
  change SwitchedOff platform endpoint state.reason ((enabledNode profile
    state).applyProfile platform _ none)
  rw [hsame]
  exact switchedOff_applyProfile rfl hhere (lookup_set_self _ _ _)
    hdisabled

theorem Suspended.step {label : ℤ × Operation ε μ ρ}
    (hsuspended : Suspended platform endpoint table mid)
    (hquiet : Quiet platform mid label) :
    Suspended platform endpoint table
      (mid.perform platform label.1 label.2) := by
  obtain ⟨now, operation⟩ := label
  cases operation with
  | heartbeat call =>
    obtain ⟨profile, hprofile, hdisabled⟩ := hsuspended.profile
    simp only [InfoCenterState.perform, heartbeatRecord]
    split
    · exact hsuspended
    refine ⟨⟨profile, hprofile, hdisabled⟩, fun id state hstate hhere => ?_⟩
    obtain ⟨off, hoff, hswitched⟩ := hsuspended.nodes id state hstate hhere
    rw [lookup_set]
    split
    · next hid =>
      subst hid
      refine ⟨_, rfl, hswitched.again ?_⟩
      rw [hoff, beatenNode]
      exact switchedOff_applyProfile rfl ⟨hswitched.here.1, hswitched.here.2⟩
        hprofile hdisabled
    · exact ⟨off, hoff, hswitched⟩
  | query query =>
    refine ⟨hsuspended.profile, fun id state hstate hhere => ?_⟩
    obtain ⟨off, hoff, hswitched⟩ := hsuspended.nodes id state hstate hhere
    refine ⟨off, ?_, hswitched⟩
    simp only [InfoCenterState.perform, InfoCenterState.queried, lookup_fence,
      hoff, Option.map_some]
    split
    · next hvisited => rw [fenceIfStale_of_fresh (hquiet id hvisited off hoff)]
    · rfl
  | _ => cases hquiet

/-- The nodes of the endpoint are as schedulable as before, with the same
reasons. -/
def SameMarks (platform : Platform ε μ) (endpoint : String)
    (table last : InfoCenterState ε μ ρ) : Prop :=
  ∀ id state, table.nodes.lookup id = some state →
    AtEndpoint platform endpoint state →
      ∃ now, last.nodes.lookup id = some now ∧
        now.schedulable = state.schedulable ∧ now.reason = state.reason

/-- The node is schedulable without a reason, or not schedulable with one that
is not the profile's. -/
def Restorable (state : NodeState ε μ ρ) : Prop :=
  state.reason ≠ disabledReason ∧
    (state.schedulable = true ↔ state.reason = "")

/-- Disabling and enabling its profile leaves a node as it was exactly if it
was schedulable without a reason, or not schedulable with one that is not the
profile's. -/
theorem toggle_restores_iff (platform : Platform ε μ) (endpoint : String)
    (table mid : InfoCenterState ε μ ρ)
    (hrun : GuardedRun (InfoCenterState.step platform) (Quiet platform)
      (updateNodeProfile platform endpoint (enabling false) table) mid) :
    SameMarks platform endpoint table
        (updateNodeProfile platform endpoint (enabling true) mid) ↔
      ∀ id state, table.nodes.lookup id = some state →
        AtEndpoint platform endpoint state → Restorable state := by
  have hpoint : ∀ id state, table.nodes.lookup id = some state →
      AtEndpoint platform endpoint state →
        ((∃ now, (updateNodeProfile platform endpoint (enabling true)
            mid).nodes.lookup id = some now ∧
          now.schedulable = state.schedulable ∧ now.reason = state.reason) ↔
            Restorable state) := by
    intro id state hstate hhere
    have hsuspended := hrun.invariant (Suspended platform endpoint table)
      (suspended_disable hhere.1) (by
        intro before label after hbefore hquiet hstep
        cases hstep
        exact hbefore.step hquiet)
    obtain ⟨off, hoff, hswitched⟩ := hsuspended.nodes id state hstate hhere
    unfold updateNodeProfile
    dsimp only
    rw [if_neg hhere.1, lookup_mapValues, hoff, Option.map_some,
      if_pos hswitched.here.2]
    generalize hprofile : (enabling true).apply ((mid.profiles.lookup
      (normalizeNodeProfileKey platform endpoint)).getD
        ⟨[], true, false, ""⟩) = profile
    have henabled : profile.enabled = true := by
      rw [← hprofile]
      rfl
    obtain ⟨hschedulable, hreason⟩ := profiledNode_enabled hswitched
      (lookup_set_self mid.profiles _ profile) henabled
    simp only [Option.some.injEq, exists_eq_left', hschedulable, hreason,
      Restorable]
    have hempty : disabledReason ≠ "" := by decide
    grind
  constructor
  · intro hsame id state hstate hhere
    exact (hpoint id state hstate hhere).mp (hsame id state hstate hhere)
  · intro hrestorable id state hstate hhere
    exact (hpoint id state hstate hhere).mpr (hrestorable id state hstate hhere)

end

def registeredNode1 : ℤ × Operation ℤ Unit Unit :=
  (1, .register (sampleRegistration "node-1" "10.0.0.1:50061" ∅ ∅))

theorem idleNode_restored :
    ∃ table mid, runLabels (InfoCenterState.step samplePlatform) noNodes
        [registeredNode1] = some table ∧
      InfoCenterState.step samplePlatform
        (updateNodeProfile samplePlatform "10.0.0.1:50061" (enabling false)
          table) (3, .heartbeat (sampleHeartbeat "node-1")) = some mid ∧
      SameMarks samplePlatform "10.0.0.1:50061" table
        (updateNodeProfile samplePlatform "10.0.0.1:50061" (enabling true)
          mid) := by
  obtain ⟨table, htable, hmarks⟩ : ∃ table,
      runLabels (InfoCenterState.step samplePlatform) noNodes
        [registeredNode1] = some table ∧
      table.nodes.values.map (fun state => (state.schedulable, state.reason)) =
        [(true, "")] := ⟨_, rfl, by decide +kernel⟩
  refine ⟨table, _, htable, rfl, (toggle_restores_iff samplePlatform _ table _
    (.tail (3, .heartbeat (sampleHeartbeat "node-1")) .refl trivial rfl)).mpr
      ?_⟩
  intro id state hstate _
  have hmem := List.mem_map_of_mem
    (f := fun state => (state.schedulable, state.reason))
    (mem_values.mpr ⟨id, hstate⟩)
  rw [hmarks, List.mem_singleton, Prod.mk.injEq] at hmem
  obtain ⟨hschedulable, hreason⟩ := hmem
  rw [Restorable, hschedulable, hreason]
  decide

/-- A node that an operator has taken out without giving a reason is
schedulable when its profile is enabled again. -/
theorem cordon_lifted :
    ∃ table mid, Reachable (InfoCenterState.step samplePlatform) noNodes table ∧
      GuardedRun (InfoCenterState.step samplePlatform) (Quiet samplePlatform)
        (updateNodeProfile samplePlatform "10.0.0.1:50061" (enabling false)
          table) mid ∧
      ¬SameMarks samplePlatform "10.0.0.1:50061" table
        (updateNodeProfile samplePlatform "10.0.0.1:50061" (enabling true)
          mid) := by
  have hfacts : ((runLabels (InfoCenterState.step samplePlatform) noNodes
      [registeredNode1, (2, .updateSchedule "node-1"
        ⟨some false, none, none⟩)]).bind fun table =>
      (table.nodes.lookup "node-1").bind fun before =>
        ((updateNodeProfile samplePlatform "10.0.0.1:50061" (enabling true)
          (updateNodeProfile samplePlatform "10.0.0.1:50061" (enabling false)
            table)).nodes.lookup "node-1").map fun now =>
              (before.controlAddr, before.schedulable, now.schedulable)) =
      some ("10.0.0.1:50061", false, true) := by
    decide +kernel
  obtain ⟨table, htable, hfacts⟩ := Option.bind_eq_some_iff.mp hfacts
  obtain ⟨before, hbefore, hfacts⟩ := Option.bind_eq_some_iff.mp hfacts
  obtain ⟨now, hnow, hmarks⟩ := Option.map_eq_some_iff.mp hfacts
  simp only [Prod.mk.injEq] at hmarks
  obtain ⟨haddr, hcordoned, hlifted⟩ := hmarks
  refine ⟨table, _, reachable_of_runLabels _ htable, .refl, fun hsame => ?_⟩
  obtain ⟨final, hfinal, hschedulable, -⟩ := hsame "node-1" before hbefore
    ⟨by decide, by rw [haddr]⟩
  rw [hnow, Option.some.injEq] at hfinal
  rw [← hfinal, hlifted, hcordoned] at hschedulable
  cases hschedulable

end PycloudParallel.NodeTable
