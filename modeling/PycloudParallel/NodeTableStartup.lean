import PycloudParallel.NodeTableToggle

/-!
# Startup registrations

A registration of a startup node drops the nodes at its control endpoint and
the startup nodes that hold one of its names at a matching endpoint, or fails.
So no other healthy node keeps a name that it has registered, and the nodes
that stay are the ones they were.
-/

namespace PycloudParallel.NodeTable

open Texts OrderedDict

variable {ε μ ρ : Type} {platform : Platform ε μ}

/-- A service in `STARTING`, `RUNNING` or `DRAINING` of that name; a blank text
is no name. -/
def Holds (name : String) (service : NodeServiceState ε μ) : Prop :=
  isActive true service.status = true ∧ strip service.serviceName = name ∧
    name ≠ ""

def HoldsName (services : OrderedDict String (NodeServiceState ε μ))
    (name : String) : Prop :=
  ∃ service ∈ services.values, Holds name service

theorem incomingByName_spec {services : List (NodeServiceState ε μ)}
    {known incoming : OrderedDict String (NodeServiceState ε μ)}
    (hincoming : incomingByName services known = .ok incoming)
    (name : String) :
    ((∃ asked, known.lookup name = some asked) ∨
        (∃ service ∈ services, Holds name service) →
      ∃ asked, incoming.lookup name = some asked) ∧
    ∀ asked, incoming.lookup name = some asked →
      known.lookup name = some asked ∨ asked ∈ services ∧ Holds name asked := by
  induction services generalizing known with
  | nil =>
    cases hincoming
    simp
  | cons service rest ih =>
    unfold incomingByName at hincoming
    have hset := lookup_set known (strip service.serviceName) name service
    grind [Holds]

/-- A startup node with one of the services, which are its own, of an incoming
name at a matching endpoint. -/
def Replaceable (platform : Platform ε μ) (controlAddr : String)
    (incoming : OrderedDict String (NodeServiceState ε μ))
    (services : List (NodeServiceState ε μ))
    (state : NodeState ε μ ρ) : Prop :=
  isStartupService platform.casing state.metadata = true ∧
    ∃ service ∈ services, isActive true service.status = true ∧
      ∃ asked, incoming.lookup (strip service.serviceName) = some asked ∧
        endpointMatches (startupServiceEndpoint platform controlAddr asked)
          (startupServiceEndpoint platform state.controlAddr service) = true

section

variable {controlAddr : String} {state : NodeState ε μ ρ}
  {incoming : OrderedDict String (NodeServiceState ε μ)}

theorem startupReplaced_spec {services : List (NodeServiceState ε μ)}
    {replaced : Bool}
    (hreplaced : startupReplaced platform controlAddr incoming state services =
      .ok replaced) :
    if replaced = true then
      Replaceable platform controlAddr incoming services state
    else ∀ service ∈ services, isActive true service.status = true →
      incoming.lookup (strip service.serviceName) = none := by
  induction services with
  | nil =>
    cases hreplaced
    simp
  | cons service rest ih =>
    unfold startupReplaced at hreplaced
    grind [Replaceable]

theorem startupReplacedKeys_spec {now leaseTtlSec : ℤ} {nodeInstanceId : String}
    {items : List (String × NodeState ε μ ρ)} {keys : List String}
    (hkeys : startupReplacedKeys platform now leaseTtlSec nodeInstanceId
      controlAddr incoming items = .ok keys) :
    (∀ key ∈ keys, ∃ state, (key, state) ∈ items ∧ key ≠ nodeInstanceId ∧
      state.isHealthy leaseTtlSec now = true ∧
      Replaceable platform controlAddr incoming state.services.values state) ∧
    ∀ id state, (id, state) ∈ items → id ≠ nodeInstanceId →
      state.isHealthy leaseTtlSec now = true → id ∉ keys →
        ∀ service ∈ state.services.values,
          isActive true service.status = true →
            incoming.lookup (strip service.serviceName) = none := by
  induction items generalizing keys with
  | nil =>
    cases hkeys
    simp
  | cons item rest ih =>
    obtain ⟨key, state⟩ := item
    unfold startupReplacedKeys at hkeys
    split at hkeys
    · have hrest := ih hkeys
      grind
    split at hkeys
    · cases hkeys
    next replaced hreplaced =>
    have hspec := startupReplaced_spec hreplaced
    split at hkeys
    · cases hkeys
    next others hothers =>
    cases hkeys
    have hrest := ih hothers
    cases replaced with
    | false | true => grind

end

/-! ## The registration -/

/-- A startup node that holds the name of one of the services at a matching
endpoint. -/
def Rivals (platform : Platform ε μ) (controlAddr : String)
    (services : OrderedDict String (NodeServiceState ε μ))
    (state : NodeState ε μ ρ) : Prop :=
  isStartupService platform.casing state.metadata = true ∧
    ∃ name, ∃ service ∈ state.services.values, Holds name service ∧
      ∃ asked ∈ services.values, Holds name asked ∧
        endpointMatches (startupServiceEndpoint platform controlAddr asked)
          (startupServiceEndpoint platform state.controlAddr service) = true

structure SettlesNames (platform : Platform ε μ) (now : ℤ)
    (table after : InfoCenterState ε μ ρ) (id : String)
    (node : NodeState ε μ ρ) : Prop where
  registered : after.nodes.lookup id = some node
  exclusive : ∀ other state, after.nodes.lookup other = some state →
    other ≠ id → state.isHealthy after.leaseTtlSec now = true →
      ∀ name, HoldsName node.services name → ¬HoldsName state.services name
  evicted : ∀ other state, table.nodes.lookup other = some state →
    after.nodes.lookup other = none →
      AtControl platform node.controlAddr state ∨
        state.isHealthy table.leaseTtlSec now = true ∧
          Rivals platform node.controlAddr node.services state
  framed : ∀ other, other ≠ id → after.nodes.lookup other = none ∨
    after.nodes.lookup other = table.nodes.lookup other

theorem exists_stamped_iff {now : ℤ} {P : NodeServiceState ε μ → Prop}
    (known services : OrderedDict String (NodeServiceState ε μ))
    (hstamp : ∀ previous service,
      P (stampService now previous service) ↔ P service) :
    (∃ service ∈ (withFailureTimestamps now known services).values,
      P service) ↔ ∃ service ∈ services.values, P service := by
  simp only [mem_values, withFailureTimestamps, lookup_mapValues,
    Option.map_eq_some_iff]
  constructor
  · rintro ⟨_, ⟨key, service, hservice, rfl⟩, hholds⟩
    exact ⟨service, ⟨key, hservice⟩, (hstamp _ service).mp hholds⟩
  · rintro ⟨service, ⟨key, hservice⟩, hholds⟩
    exact ⟨_, ⟨key, service, hservice, rfl⟩, (hstamp _ service).mpr hholds⟩

theorem leaseTtlSec_dropNodes (keys : List String)
    (table : InfoCenterState ε μ ρ) :
    (dropNodes keys table).leaseTtlSec = table.leaseTtlSec := by
  induction keys generalizing table with
  | nil => rfl
  | cons key rest ih =>
    simp only [dropNodes, List.foldl_cons] at ih ⊢
    rw [ih]
    split <;> rfl

/-- What a startup registration drops, besides the nodes at its control
endpoint. -/
theorem validateStartupServiceNames_spec {now : ℤ}
    {call : Registration ε μ ρ} {table : InfoCenterState ε μ ρ}
    {keys : List String}
    (hstartup : isStartupService platform.casing call.metadata = true)
    (hkeys : validateStartupServiceNames platform now call table = .ok keys) :
    (∀ key ∈ keys, ∃ state, table.nodes.lookup key = some state ∧
      state.isHealthy table.leaseTtlSec now = true ∧
        Rivals platform call.controlAddr call.services state) ∧
    ∀ id state, table.nodes.lookup id = some state → id ≠ call.instanceId →
      state.isHealthy table.leaseTtlSec now = true → id ∉ keys →
        ∀ name, HoldsName call.services name →
          ¬HoldsName state.services name := by
  unfold validateStartupServiceNames at hkeys
  rw [if_neg (by simp [hstartup])] at hkeys
  split at hkeys
  · cases hkeys
  next incoming hincoming =>
  have hspec := incomingByName_spec hincoming
  have hasked : ∀ name, HoldsName call.services name →
      ∃ asked, incoming.lookup name = some asked :=
    fun name hholds => (hspec name).1 (.inr hholds)
  have hback : ∀ name asked, incoming.lookup name = some asked →
      asked ∈ call.services.values ∧ Holds name asked := by
    intro name asked hlookup
    obtain hempty | hin := (hspec name).2 asked hlookup
    · cases hempty
    · exact hin
  split at hkeys
  · next hnone =>
    cases hkeys
    refine ⟨nofun, fun _ _ _ _ _ _ name hholds => ?_⟩
    obtain ⟨asked, hlookup⟩ := hasked name hholds
    have hmem : name ∈ incoming.keys :=
      AList.mem_keys.mpr (mem_iff_lookup.mpr ⟨asked, hlookup⟩)
    rw [hnone] at hmem
    cases hmem
  · obtain ⟨hgone, hkept⟩ := startupReplacedKeys_spec hkeys
    constructor
    · intro key hkey
      obtain ⟨state, hitem, -, hhealthy, hstartup, service, hservice, hactive,
        asked, hlookup, hmatches⟩ := hgone key hkey
      obtain ⟨hin, hholds⟩ := hback _ asked hlookup
      exact ⟨state, mem_items.mp hitem, hhealthy, hstartup, _, service,
        hservice, ⟨hactive, rfl, hholds.2.2⟩, asked, hin, hholds, hmatches⟩
    · rintro id state hstate hother hhealthy hstays name hname
        ⟨service, hservice, hactive, rfl, -⟩
      obtain ⟨asked, hlookup⟩ := hasked _ hname
      rw [hkept id state (mem_items.mpr hstate) hother hhealthy hstays
        service hservice hactive] at hlookup
      cases hlookup

/-- A startup registration that succeeds leaves its names to no other healthy
node and drops only nodes that it may replace. -/
theorem startup_settles_names (platform : Platform ε μ) (now : ℤ)
    (call : Registration ε μ ρ) (table : InfoCenterState ε μ ρ)
    {node : NodeState ε μ ρ}
    (hstartup : isStartupService platform.casing call.metadata = true)
    (hregistered : (registerNodeRecord platform now call table).2 = .ok node) :
    SettlesNames platform now table
      (registerNodeRecord platform now call table).1 call.instanceId node := by
  unfold registerNodeRecord at hregistered ⊢
  split at hregistered
  · cases hregistered
  next hid =>
  rw [if_neg hid]
  dsimp only at hregistered ⊢
  generalize hpruned : dropNodes (replacedKeys platform call.instanceId
    call.controlAddr table) table = pruned at hregistered ⊢
  split at hregistered
  · cases hregistered
  next keys hkeys =>
  rw [Except.ok.injEq] at hregistered
  have haddr : node.controlAddr = call.controlAddr := by
    rw [← hregistered, registeredNode,
      NodeState.applyProfile_controlAddr]
  obtain ⟨known, hservices⟩ : ∃ known,
      node.services = withFailureTimestamps now known call.services := by
    rw [← hregistered, registeredNode, NodeState.applyProfile_services]
    exact ⟨_, rfl⟩
  rw [hregistered]
  obtain ⟨hgone, hkept⟩ := validateStartupServiceNames_spec hstartup hkeys
  have hlease : pruned.leaseTtlSec = table.leaseTtlSec := by
    rw [← hpruned, leaseTtlSec_dropNodes]
  have hlookup : ∀ other, other ≠ call.instanceId →
      ((dropNodes keys pruned).nodes.set call.instanceId node).lookup other =
        if other ∈ keys then none else pruned.nodes.lookup other := by
    intro other hother
    rw [lookup_set_ne _ _ hother, lookup_dropNodes]
  constructor
  · exact lookup_set_self _ _ _
  · intro other state hstate hother hhealthy name hholds
    rw [hlookup other hother] at hstate
    split at hstate
    · cases hstate
    next hstays =>
    rw [leaseTtlSec_dropNodes] at hhealthy
    rw [HoldsName, hservices, exists_stamped_iff _ _ fun _ _ => Iff.rfl]
      at hholds
    exact hkept other state hstate hother hhealthy hstays name hholds
  · intro other state hstate hnone
    have hother : other ≠ call.instanceId := by
      rintro rfl
      rw [lookup_set_self] at hnone
      cases hnone
    rw [hlookup other hother] at hnone
    split at hnone
    · next hdropped =>
      obtain ⟨found, hfound, hhealthy, hstartup, name, service, hservice,
        hholds, hasked⟩ := hgone other hdropped
      rw [← hpruned] at hfound
      rw [lookup_of_dropNodes hfound, Option.some.injEq] at hstate
      subst hstate
      rw [hlease] at hhealthy
      refine .inr ⟨hhealthy, hstartup, name, service, hservice, hholds, ?_⟩
      rw [hservices, exists_stamped_iff _ _ fun _ _ => Iff.rfl, haddr]
      exact hasked
    · rw [← hpruned, lookup_dropNodes, hstate] at hnone
      split at hnone
      · next hreplaced =>
        obtain ⟨-, found, hfound, -, hthere⟩ :=
          mem_replacedKeys_iff.mp hreplaced
        rw [hstate, Option.some.injEq] at hfound
        subst hfound
        rw [haddr]
        exact .inl hthere
      · cases hnone
  · intro other hother
    rw [hlookup other hother, ← hpruned, lookup_dropNodes]
    split
    · exact .inl rfl
    · split
      · exact .inl rfl
      · exact .inr rfl

/-- It takes the name over from a startup node behind the same port. -/
theorem rivalStartup_settles :
    ∃ table node, runLabels (InfoCenterState.step samplePlatform) noNodes
        nodeAndStartup = some table ∧
      SettlesNames samplePlatform 3 table (registerNodeRecord samplePlatform 3
        (rivalStartup "0.0.0.0:18080") table).1 "startup-2" node := by
  have hfacts : ((runLabels (InfoCenterState.step samplePlatform) noNodes
      nodeAndStartup).map fun table => (registerNodeRecord samplePlatform 3
        (rivalStartup "0.0.0.0:18080") table).2.isOk) = some true := by
    decide +kernel
  obtain ⟨table, htable, hok⟩ := Option.map_eq_some_iff.mp hfacts
  cases hresult : (registerNodeRecord samplePlatform 3
      (rivalStartup "0.0.0.0:18080") table).2 with
  | error error =>
    rw [hresult] at hok
    cases hok
  | ok node =>
    exact ⟨table, node, htable, startup_settles_names samplePlatform 3
      (rivalStartup "0.0.0.0:18080") table (by decide +kernel) hresult⟩

end PycloudParallel.NodeTable
