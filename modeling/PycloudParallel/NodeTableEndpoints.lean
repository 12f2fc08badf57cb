import PycloudParallel.NodeTableHistories

/-!
# One node at an endpoint

A registration drops the other nodes at its control endpoint, a heartbeat enters
an unknown node without an address, and nothing else gives a node one.  An
address of white space is none.
-/

namespace PycloudParallel.NodeTable

open Texts OrderedDict

variable {ε μ ρ : Type} {platform : Platform ε μ} {now : ℤ}
  {table before after : InfoCenterState ε μ ρ}

/-- `_endpoint_from_url_or_addr` strips the text and finds no host in a blank
one. -/
structure EndpointLaws (platform : Platform ε μ) : Prop where
  endpoint_strip : ∀ text, platform.endpoint (strip text) = platform.endpoint text
  endpoint_blank : (platform.endpoint "").1 = ""

def SameEndpoint (platform : Platform ε μ) (first second : String) : Prop :=
  strip first ≠ "" ∧ strip first = strip second ∨
    normalizeNodeProfileKey platform first ≠ "" ∧
      normalizeNodeProfileKey platform first =
        normalizeNodeProfileKey platform second

def EndpointsApart (platform : Platform ε μ) (table : InfoCenterState ε μ ρ) :
    Prop :=
  ∀ id state other known, table.nodes.lookup id = some state →
    table.nodes.lookup other = some known → id ≠ other →
      ¬SameEndpoint platform state.controlAddr known.controlAddr

/-- Each node of the second table has no address or the one that it had. -/
def KeepsAddresses (before after : InfoCenterState ε μ ρ) : Prop :=
  ∀ id state, after.nodes.lookup id = some state → state.controlAddr = "" ∨
    ∃ known, before.nodes.lookup id = some known ∧
      known.controlAddr = state.controlAddr

theorem SameEndpoint.symm {first second : String}
    (hsame : SameEndpoint platform first second) :
    SameEndpoint platform second first := by
  rcases hsame with ⟨hsome, heq⟩ | ⟨hkey, heq⟩
  · exact .inl ⟨heq ▸ hsome, heq.symm⟩
  · exact .inr ⟨heq ▸ hkey, heq.symm⟩

theorem not_sameEndpoint_empty (laws : EndpointLaws platform) (addr : String) :
    ¬SameEndpoint platform "" addr := by
  rintro (⟨hsome, -⟩ | ⟨hkey, -⟩)
  · exact hsome rfl
  · exact hkey (if_pos (.inl laws.endpoint_blank))

theorem atControl_iff (laws : EndpointLaws platform) {addr : String}
    {state : NodeState ε μ ρ} :
    AtControl platform addr state ↔
      SameEndpoint platform addr state.controlAddr := by
  have hkey : normalizeNodeProfileKey platform (strip addr) =
      normalizeNodeProfileKey platform addr := by
    rw [normalizeNodeProfileKey, laws.endpoint_strip, normalizeNodeProfileKey]
  rw [AtControl, hkey]
  constructor
  · rintro ⟨hsome, haddr | ⟨hfound, hsame⟩⟩
    · exact .inl ⟨hsome, haddr.symm⟩
    · exact .inr ⟨hfound, hsame.symm⟩
  · rintro (⟨hsome, haddr⟩ | ⟨hfound, hsame⟩)
    · exact ⟨hsome, .inl haddr.symm⟩
    · refine ⟨fun hblank => hfound ?_, .inr ⟨hfound, hsame.symm⟩⟩
      rw [← hkey, hblank]
      exact if_pos (.inl laws.endpoint_blank)

/-! ## What keeps the addresses -/

theorem keepsAddresses_refl (table : InfoCenterState ε μ ρ) :
    KeepsAddresses table table :=
  fun _ state hstate => .inr ⟨state, hstate, rfl⟩

theorem keepsAddresses_setNode {id : String} {state : NodeState ε μ ρ}
    {servicesByName : SetIndex String String}
    (haddr : state.controlAddr = "" ∨ ∃ known, table.nodes.lookup id = some known ∧
      known.controlAddr = state.controlAddr) :
    KeepsAddresses table { table with
      nodes := table.nodes.set id state
      servicesByName := servicesByName } := by
  intro other found hfound
  obtain ⟨rfl, rfl⟩ | hold := of_lookup_set hfound
  · exact haddr
  · exact .inr ⟨found, hold, rfl⟩

theorem keepsAddresses_mapNodes {profiles : OrderedDict String NodeProfile}
    {change : String → NodeState ε μ ρ → NodeState ε μ ρ}
    (hchange : ∀ id state, (change id state).controlAddr = state.controlAddr) :
    KeepsAddresses table { table with
      profiles := profiles
      nodes := table.nodes.mapValues change } := by
  intro id state hstate
  rw [lookup_mapValues, Option.map_eq_some_iff] at hstate
  obtain ⟨known, hknown, rfl⟩ := hstate
  exact .inr ⟨known, hknown, (hchange id known).symm⟩

theorem keepsAddresses_heartbeat (call : Heartbeat ε μ ρ) :
    KeepsAddresses table (heartbeatRecord platform now call table) := by
  unfold heartbeatRecord
  split
  · exact keepsAddresses_refl table
  apply keepsAddresses_setNode
  rw [beatenNode, NodeState.applyProfile_controlAddr]
  cases hknown : table.nodes.lookup call.instanceId with
  | none => exact .inl rfl
  | some known => exact .inr ⟨known, rfl, rfl⟩

theorem keepsAddresses_updateProfile (endpoint : String) (change : ProfileChange) :
    KeepsAddresses table (updateNodeProfile platform endpoint change table) := by
  unfold updateNodeProfile
  dsimp only
  split
  · exact keepsAddresses_refl table
  apply keepsAddresses_mapNodes
  intro _ state
  split
  · rw [profiledNode, NodeState.applyProfile_controlAddr]
    split <;> rfl
  · rfl

theorem keepsAddresses_perform {operation : Operation ε μ ρ}
    (hother : ∀ call, operation ≠ .register call) :
    KeepsAddresses table (table.perform platform now operation) := by
  cases operation with
  | register call => exact absurd rfl (hother call)
  | heartbeat call => exact keepsAddresses_heartbeat call
  | markLost nodeInstanceId reason =>
    simp only [InfoCenterState.perform, markNodeLost]
    split
    · exact keepsAddresses_refl table
    · next known hknown => exact keepsAddresses_setNode (.inr ⟨known, hknown, rfl⟩)
  | updateProfile endpoint change =>
    exact keepsAddresses_updateProfile endpoint change
  | updateProfileForInstance nodeInstanceId change =>
    simp only [InfoCenterState.perform, updateNodeProfileForInstance]
    split
    · exact keepsAddresses_refl table
    · exact keepsAddresses_updateProfile _ change
  | updateSchedule nodeInstanceId change =>
    simp only [InfoCenterState.perform, updateNodeScheduleState]
    split
    · exact keepsAddresses_refl table
    · next known hknown =>
      refine keepsAddresses_setNode (.inr ⟨known, hknown, ?_⟩)
      rw [scheduledNode, NodeState.applyProfile_controlAddr]
  | query query =>
    refine keepsAddresses_mapNodes fun id state => ?_
    unfold NodeState.fenceIfStale
    split_ifs <;> rfl

/-! ## Nodes at one endpoint -/

namespace EndpointsApart

variable (laws : EndpointLaws platform)

include laws

theorem of_keepsAddresses (hapart : EndpointsApart platform before)
    (hkeeps : KeepsAddresses before after) : EndpointsApart platform after := by
  intro id state other known hstate hknown hne hsame
  obtain hnone | ⟨old, hold, haddr⟩ := hkeeps id state hstate
  · rw [hnone] at hsame
    exact not_sameEndpoint_empty laws _ hsame
  obtain hnone | ⟨old', hold', haddr'⟩ := hkeeps other known hknown
  · rw [hnone] at hsame
    exact not_sameEndpoint_empty laws _ hsame.symm
  rw [← haddr, ← haddr'] at hsame
  exact hapart id old other old' hold hold' hne hsame

theorem register (hapart : EndpointsApart platform table)
    (call : Registration ε μ ρ) :
    EndpointsApart platform (registerNodeRecord platform now call table).1 := by
  unfold registerNodeRecord
  split
  · exact hapart
  next hid =>
  have hdropped : ∀ keys, EndpointsApart platform (dropNodes keys table) :=
    fun keys id state other known hstate hknown =>
      hapart id state other known (lookup_of_dropNodes hstate)
        (lookup_of_dropNodes hknown)
  dsimp only
  split
  · exact hdropped _
  next keys _ =>
  -- Who is left in front of the entry is not at the endpoint of the caller.
  have hfree : ∀ other known, (dropNodes keys (dropNodes (replacedKeys platform
      call.instanceId call.controlAddr table) table)).nodes.lookup other =
        some known → other ≠ call.instanceId →
          ¬SameEndpoint platform call.controlAddr known.controlAddr := by
    intro other known hknown hne hsame
    have hpruned := lookup_of_dropNodes hknown
    rw [lookup_dropNodes] at hpruned
    split at hpruned
    · cases hpruned
    · next hkept =>
      exact hkept (mem_replacedKeys_iff.mpr
        ⟨hid, known, hpruned, hne, (atControl_iff laws).mpr hsame⟩)
  intro id state other known hstate hknown hne
  obtain ⟨rfl, rfl⟩ | hstate := of_lookup_set hstate <;>
    obtain ⟨rfl, rfl⟩ | hknown := of_lookup_set hknown
  · exact absurd rfl hne
  · rw [registeredNode, NodeState.applyProfile_controlAddr]
    exact hfree other known hknown hne.symm
  · rw [registeredNode, NodeState.applyProfile_controlAddr]
    exact fun hsame => hfree id state hstate hne hsame.symm
  · exact hdropped _ id state other known (lookup_of_dropNodes hstate)
      (lookup_of_dropNodes hknown) hne

end EndpointsApart

/-- Whatever is registered, reported and changed in whatever order, two nodes
are never at one control address or endpoint. -/
theorem endpoints_apart (laws : EndpointLaws platform) (leaseTtlSec : ℤ)
    (profiles : OrderedDict String NodeProfile)
    (hreach : Reachable (InfoCenterState.step platform)
      (.initial leaseTtlSec profiles) table) :
    EndpointsApart platform table := by
  refine hreach.invariant (EndpointsApart platform) ?_ ?_
  · intro id state other known hstate
    cases hstate
  · intro before label after hbefore _ hstep
    cases hstep
    by_cases hregister : ∃ call, label.2 = .register call
    · obtain ⟨call, hcall⟩ := hregister
      rw [hcall]
      exact hbefore.register laws call
    · exact hbefore.of_keepsAddresses laws
        (keepsAddresses_perform fun call hcall => hregister ⟨call, hcall⟩)

def strippingPlatform : Platform ℤ Unit :=
  { samplePlatform with endpoint := fun text => hostAndPort (strip text) }

theorem endpoints_apart_twoNodes :
    ∃ table, runLabels (InfoCenterState.step strippingPlatform) noNodes twoNodes =
        some table ∧
      EndpointsApart strippingPlatform table := by
  obtain ⟨table, htable⟩ : ∃ table, runLabels
      (InfoCenterState.step strippingPlatform) noNodes twoNodes = some table :=
    ⟨_, rfl⟩
  have laws : EndpointLaws strippingPlatform := by
    refine ⟨fun text => ?_, by decide⟩
    simp only [strippingPlatform, strip_strip]
  exact ⟨table, htable,
    endpoints_apart laws 90 ∅ (reachable_of_runLabels _ htable)⟩

end PycloudParallel.NodeTable
