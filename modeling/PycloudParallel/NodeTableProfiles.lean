import PycloudParallel.NodeTableHistories

/-!
# Managed profiles

Four of the operations apply the profile of a node to it.  The others write
`schedulable` or forget nodes, and an update of a profile visits every node at
its endpoint, so a node never disagrees with its profile.
-/

namespace PycloudParallel.NodeTable

open Texts OrderedDict

variable {ε μ ρ : Type} {platform : Platform ε μ}

def Plain (tags : List String) : Prop :=
  ∀ tag ∈ tags, tag ≠ "" ∧ strip tag = tag

theorem mem_sortedNames {values : List String} {name : String} :
    name ∈ sortedNames values ↔
      name ≠ "" ∧ ∃ value ∈ values, strip value = name := by
  simp [sortedNames, List.mem_insertionSort, and_comm]

theorem plain_sortedNames (values : List String) :
    Plain (sortedNames values) := by
  intro tag htag
  obtain ⟨hblank, value, -, rfl⟩ := mem_sortedNames.mp htag
  exact ⟨hblank, strip_strip value⟩

theorem sortedNames_pairwise (values : List String) :
    (sortedNames values).Pairwise (· < ·) := by
  have hsorted : (sortedNames values).Pairwise (· ≤ ·) :=
    List.pairwise_insertionSort _ _
  have hnodup : (sortedNames values).Nodup :=
    (List.perm_insertionSort _ _).nodup_iff.mpr (List.nodup_dedup _)
  exact (hsorted.and hnodup).imp fun hpair => lt_of_le_of_ne hpair.1 hpair.2

theorem mem_sortedNames_of_plain {values : List String} (hplain : Plain values)
    {name : String} : name ∈ sortedNames values ↔ name ∈ values := by
  rw [mem_sortedNames]
  constructor
  · rintro ⟨-, value, hvalue, rfl⟩
    rwa [(hplain value hvalue).2]
  · intro hname
    exact ⟨(hplain name hname).1, name, hname, (hplain name hname).2⟩

/-! ## One node -/

/-- What a profile demands of a node at its endpoint. -/
structure ManagedBy (profile : NodeProfile) (state : NodeState ε μ ρ) :
    Prop where
  drain : state.drain = profile.drain
  managedTags : state.managedTags = profile.managedTags
  sorted : state.tags.Pairwise (· < ·)
  mem_tags : ∀ tag, tag ∈ state.tags ↔ tag ∈ state.capabilityTags ∨
    tag ∈ state.managedTags ∨ tag ∈ state.legacyNodeTags
  unschedulable : profile.enabled = false → state.schedulable = false

/-- The tags of a node are those of its three lists. -/
structure TagsExact (state : NodeState ε μ ρ) : Prop where
  plain : Plain (state.capabilityTags ++ state.managedTags ++
    state.legacyNodeTags)
  tags : state.tags = sortedNames (state.capabilityTags ++ state.managedTags ++
    state.legacyNodeTags)

structure Enforced (platform : Platform ε μ)
    (profiles : OrderedDict String NodeProfile) (state : NodeState ε μ ρ) :
    Prop where
  exact : TagsExact state
  managed : ∀ profile, profileOf platform profiles state.controlAddr =
    some profile → state.drain = profile.drain ∧
      state.managedTags = profile.managedTags ∧
      (profile.enabled = false → state.schedulable = false)

variable {profiles : OrderedDict String NodeProfile}
  {state : NodeState ε μ ρ} {profile : NodeProfile}
  {registrationTags : Option (List String)}

theorem Enforced.managedBy (henforced : Enforced platform profiles state)
    (hprofile : profileOf platform profiles state.controlAddr = some profile) :
    ManagedBy profile state := by
  obtain ⟨hdrain, hmanaged, hdisabled⟩ := henforced.managed profile hprofile
  have htags := henforced.exact.tags
  refine ⟨hdrain, hmanaged, ?_, ?_, hdisabled⟩
  · rw [htags]
    exact sortedNames_pairwise _
  · intro tag
    rw [htags, mem_sortedNames_of_plain henforced.exact.plain,
      List.mem_append, List.mem_append, or_assoc]

theorem Enforced.legacy (henforced : Enforced platform profiles state) :
    Plain state.legacyNodeTags := fun tag htag =>
  henforced.exact.plain tag (List.mem_append_right _ htag)

def PlainProfiles (profiles : OrderedDict String NodeProfile) : Prop :=
  ∀ key profile, profiles.lookup key = some profile →
    Plain profile.managedTags

theorem plain_profileOf (hprofiles : PlainProfiles profiles)
    (controlAddr : String) :
    Plain (((profileOf platform profiles controlAddr).map
      NodeProfile.managedTags).getD []) := by
  intro tag htag
  cases hprofile : profileOf platform profiles controlAddr with
  | none => simp [hprofile] at htag
  | some profile =>
    rw [hprofile] at htag
    unfold profileOf at hprofile
    split at hprofile
    · cases hprofile
    · exact hprofiles _ profile hprofile tag htag

theorem enforced_applyProfile (hprofiles : PlainProfiles profiles)
    (hlegacy : Plain state.legacyNodeTags) :
    Enforced platform profiles
      (state.applyProfile platform profiles registrationTags) := by
  constructor
  · constructor
    · intro tag htag
      simp only [NodeState.applyProfile_eq rfl, NodeState.tagged,
        List.mem_append] at htag
      obtain (hcapability | hmanaged) | hgiven := htag
      · exact plain_sortedNames _ tag hcapability
      · exact plain_profileOf hprofiles _ tag hmanaged
      · cases registrationTags with
        | none => exact hlegacy tag hgiven
        | some tags => exact plain_sortedNames _ tag hgiven
    · simp only [NodeState.applyProfile_eq rfl, NodeState.tagged]
  · intro profile hprofile
    rw [NodeState.applyProfile_controlAddr] at hprofile
    simp only [NodeState.applyProfile_eq hprofile, NodeState.tagged,
      Option.map_some, Option.getD_some, true_and]
    intro hdisabled
    rw [NodeState.profiledSchedulable, if_pos hdisabled]

theorem Enforced.fenceIfStale (henforced : Enforced platform profiles state)
    (leaseTtlSec now : ℤ) :
    Enforced platform profiles (state.fenceIfStale leaseTtlSec now) := by
  unfold NodeState.fenceIfStale
  split
  · refine ⟨⟨henforced.exact.plain, henforced.exact.tags⟩, ?_⟩
    intro profile hprofile
    obtain ⟨hdrain, hmanaged, -⟩ := henforced.managed profile hprofile
    exact ⟨hdrain, hmanaged, fun _ => rfl⟩
  · exact henforced

theorem Enforced.lostNode (henforced : Enforced platform profiles state)
    (now leaseTtlSec : ℤ) (reason : String) :
    Enforced platform profiles
      (lostNode platform now leaseTtlSec reason state) := by
  refine ⟨⟨henforced.exact.plain, henforced.exact.tags⟩, ?_⟩
  intro profile hprofile
  obtain ⟨hdrain, hmanaged, -⟩ := henforced.managed profile hprofile
  exact ⟨hdrain, hmanaged, fun _ => rfl⟩

/-! ## The table -/

structure ProfilesEnforced (platform : Platform ε μ)
    (table : InfoCenterState ε μ ρ) : Prop where
  plain : PlainProfiles table.profiles
  enforced : ∀ id state, table.nodes.lookup id = some state →
    Enforced platform table.profiles state

namespace ProfilesEnforced

variable {table : InfoCenterState ε μ ρ} {now : ℤ}

variable (htable : ProfilesEnforced platform table)

include htable

theorem setNode {id : String} {servicesByName : SetIndex String String}
    (hstate : Enforced platform table.profiles state) :
    ProfilesEnforced platform { table with
      nodes := table.nodes.set id state
      servicesByName := servicesByName } := by
  refine ⟨htable.plain, fun other found hfound => ?_⟩
  obtain ⟨rfl, rfl⟩ | hfound := of_lookup_set hfound
  · exact hstate
  · exact htable.enforced other found hfound

theorem dropNodes (keys : List String) :
    ProfilesEnforced platform (dropNodes keys table) := by
  constructor
  · rw [profiles_dropNodes]
    exact htable.plain
  · intro id state hstate
    rw [profiles_dropNodes]
    exact htable.enforced id state (lookup_of_dropNodes hstate)

theorem register (call : Registration ε μ ρ) :
    ProfilesEnforced platform (registerNodeRecord platform now call table).1 := by
  unfold registerNodeRecord
  split
  · exact htable
  have hpruned := htable.dropNodes
    (replacedKeys platform call.instanceId call.controlAddr table)
  dsimp only
  split
  · dsimp only
    exact hpruned
  · next keys _ =>
    have hcleared := hpruned.dropNodes keys
    apply hcleared.setNode
    exact enforced_applyProfile hcleared.plain (plain_sortedNames _)

theorem heartbeat (call : Heartbeat ε μ ρ) :
    ProfilesEnforced platform (heartbeatRecord platform now call table) := by
  unfold heartbeatRecord
  split
  · exact htable
  apply htable.setNode
  apply enforced_applyProfile htable.plain
  cases hknown : table.nodes.lookup call.instanceId with
  | none => exact fun _ htag => absurd htag List.not_mem_nil
  | some known => exact (htable.enforced _ known hknown).legacy

theorem markLost (nodeInstanceId reason : String) : ProfilesEnforced platform
      (markNodeLost platform now nodeInstanceId reason table) := by
  unfold markNodeLost
  split
  · exact htable
  · next known hknown =>
    exact htable.setNode ((htable.enforced _ known hknown).lostNode _ _ _)

theorem updateSchedule (nodeInstanceId : String) (change : ScheduleChange) :
    ProfilesEnforced platform
      (updateNodeScheduleState platform nodeInstanceId change table) := by
  unfold updateNodeScheduleState
  split
  · exact htable
  · next known hknown =>
    have hlegacy := (htable.enforced _ known hknown).legacy
    apply htable.setNode
    exact enforced_applyProfile htable.plain hlegacy

theorem updateProfile (endpoint : String) (change : ProfileChange) :
    ProfilesEnforced platform
      (updateNodeProfile platform endpoint change table) := by
  unfold updateNodeProfile
  dsimp only
  split
  · exact htable
  next hkey =>
  generalize hprofile : change.apply ((table.profiles.lookup
    (normalizeNodeProfileKey platform endpoint)).getD ⟨[], true, false, ""⟩) =
      profile
  have hplain : PlainProfiles (table.profiles.set
      (normalizeNodeProfileKey platform endpoint) profile) := by
    intro key other hother
    obtain ⟨rfl, rfl⟩ | hother := of_lookup_set hother
    · rw [← hprofile]
      exact plain_sortedNames _
    · exact htable.plain key other hother
  refine ⟨hplain, fun id state hstate => ?_⟩
  rw [lookup_mapValues, Option.map_eq_some_iff] at hstate
  obtain ⟨known, hknown, rfl⟩ := hstate
  have henforced := htable.enforced id known hknown
  split
  · unfold profiledNode
    apply enforced_applyProfile hplain
    split <;> exact henforced.legacy
  · next hother =>
    refine ⟨henforced.exact, fun found hfound => henforced.managed found ?_⟩
    unfold profileOf at hfound ⊢
    rwa [lookup_set, if_neg hother] at hfound

theorem fence (ids : List String) :
    ProfilesEnforced platform (table.fence now ids) := by
  refine ⟨htable.plain, fun id state hstate => ?_⟩
  rw [InfoCenterState.fence, lookup_mapValues,
    Option.map_eq_some_iff] at hstate
  obtain ⟨known, hknown, rfl⟩ := hstate
  split
  · exact (htable.enforced id known hknown).fenceIfStale _ _
  · exact htable.enforced id known hknown

theorem perform (operation : Operation ε μ ρ) :
    ProfilesEnforced platform (table.perform platform now operation) := by
  cases operation with
  | register call => exact htable.register call
  | heartbeat call => exact htable.heartbeat call
  | markLost nodeInstanceId reason =>
    exact htable.markLost nodeInstanceId reason
  | updateProfile endpoint change => exact htable.updateProfile endpoint change
  | updateProfileForInstance nodeInstanceId change =>
    simp only [InfoCenterState.perform, updateNodeProfileForInstance]
    split
    · exact htable
    · exact htable.updateProfile _ change
  | updateSchedule nodeInstanceId change =>
    exact htable.updateSchedule nodeInstanceId change
  | query query => exact htable.fence _

end ProfilesEnforced

/-- `_load_profiles`, of what the profile file lists. -/
def loadedProfiles (listed : OrderedDict String NodeProfile) :
    OrderedDict String NodeProfile :=
  listed.mapValues fun _ item =>
    { item with managedTags := sortedNames item.managedTags }

theorem plain_loadedProfiles (listed : OrderedDict String NodeProfile) :
    PlainProfiles (loadedProfiles listed) := by
  intro key profile hprofile
  rw [loadedProfiles, lookup_mapValues,
    Option.map_eq_some_iff] at hprofile
  obtain ⟨item, -, rfl⟩ := hprofile
  exact plain_sortedNames _

/-- Every node obeys the profile that is stored for its endpoint. -/
theorem profiles_enforced (platform : Platform ε μ) (leaseTtlSec : ℤ)
    (listed : OrderedDict String NodeProfile) {table : InfoCenterState ε μ ρ}
    (hreach : Reachable (InfoCenterState.step platform)
      (.initial leaseTtlSec (loadedProfiles listed)) table)
    {id : String} {state : NodeState ε μ ρ} {profile : NodeProfile}
    (hstate : table.nodes.lookup id = some state)
    (hprofile : profileOf platform table.profiles state.controlAddr =
      some profile) : ManagedBy profile state := by
  have htable := hreach.invariant (ProfilesEnforced platform)
    ⟨plain_loadedProfiles listed, fun _ _ hfound => by cases hfound⟩ ?_
  · exact (htable.enforced id state hstate).managedBy hprofile
  · intro before label after hbefore _ hstep
    cases hstep
    exact hbefore.perform label.2

def disabledNode : List (ℤ × Operation ℤ Unit Unit) :=
  [(1, .register (sampleRegistration "node-1" "10.0.0.1:50061" ∅ ∅)),
    (2, .updateProfile "10.0.0.1:50061"
      ⟨none, ["gpu"], [], some false, none, none⟩)]

theorem disabledNode_managed :
    ∃ table state profile, runLabels (InfoCenterState.step samplePlatform)
        noNodes disabledNode = some table ∧
      table.nodes.lookup "node-1" = some state ∧
      profile.managedTags = ["gpu"] ∧ ManagedBy profile state := by
  have hfacts : ((runLabels (InfoCenterState.step samplePlatform) noNodes
      disabledNode).bind fun table =>
        (table.nodes.lookup "node-1").bind fun state =>
          (profileOf samplePlatform table.profiles state.controlAddr).map
            NodeProfile.managedTags) = some ["gpu"] := by
    decide +kernel
  obtain ⟨table, htable, hfacts⟩ := Option.bind_eq_some_iff.mp hfacts
  obtain ⟨state, hstate, hfacts⟩ := Option.bind_eq_some_iff.mp hfacts
  obtain ⟨profile, hprofile, htags⟩ := Option.map_eq_some_iff.mp hfacts
  exact ⟨table, state, profile, htable, hstate, htags,
    profiles_enforced samplePlatform 90 ∅ (reachable_of_runLabels _ htable)
      hstate hprofile⟩

end PycloudParallel.NodeTable
