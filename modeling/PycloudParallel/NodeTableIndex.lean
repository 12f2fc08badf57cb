import Mathlib.Data.Finset.Sort
import PycloudParallel.NodeTableRoutes

/-!
# The index of services by name

The index names exactly the nodes that report a service of that name.  Each
operation changes records one at a time and moves their names in the index, so
one lemma says what a change of a record does; the queries by name follow.
-/

namespace PycloudParallel.NodeTable

open Texts DataRegistry OrderedDict

variable {ε μ ρ : Type}

theorem mem_serviceNames {state : NodeState ε μ ρ} {name : String} :
    name ∈ state.serviceNames ↔ name ≠ "" ∧
      ∃ serviceId service, state.services.lookup serviceId = some service ∧
        strip service.serviceName = name := by
  rw [NodeState.serviceNames, List.mem_dedup, List.mem_filter, List.mem_map,
    decide_eq_true_eq, and_comm]
  simp only [mem_values]
  constructor
  · rintro ⟨hname, service, ⟨serviceId, hservice⟩, heq⟩
    exact ⟨hname, serviceId, service, hservice, heq⟩
  · rintro ⟨hname, serviceId, service, hservice, heq⟩
    exact ⟨hname, service, ⟨serviceId, hservice⟩, heq⟩

def SameNames (first second : NodeState ε μ ρ) : Prop :=
  ∀ name, name ∈ first.serviceNames ↔ name ∈ second.serviceNames

theorem sameNames_of_services {first second : NodeState ε μ ρ}
    (heq : first.services = second.services) : SameNames first second := by
  intro name
  rw [mem_serviceNames, mem_serviceNames, heq]

theorem sameNames_mapValues {first second : NodeState ε μ ρ}
    (change : String → NodeServiceState ε μ → NodeServiceState ε μ)
    (hchange : ∀ serviceId service,
      (change serviceId service).serviceName = service.serviceName)
    (hservices : first.services = second.services.mapValues change) :
    SameNames first second := by
  intro name
  rw [mem_serviceNames, mem_serviceNames, hservices]
  simp only [lookup_mapValues, Option.map_eq_some_iff]
  constructor
  · rintro ⟨hname, serviceId, _, ⟨service, hservice, rfl⟩, heq⟩
    rw [hchange] at heq
    exact ⟨hname, serviceId, service, hservice, heq⟩
  · rintro ⟨hname, serviceId, service, hservice, heq⟩
    rw [← hchange serviceId service] at heq
    exact ⟨hname, serviceId, _, ⟨service, hservice, rfl⟩, heq⟩

/-! ## The invariant -/

/-- The records carry their own keys, and a node is under a name in the index
exactly when it reports a service of that name. -/
structure Indexed (table : InfoCenterState ε μ ρ) : Prop where
  keyed : ∀ id state, table.nodes.lookup id = some state →
    state.nodeInstanceId = id ∧ strip id = id ∧ id ≠ ""
  exact : ∀ name id, id ∈ table.servicesByName.members name ↔
    ∃ state, table.nodes.lookup id = some state ∧ name ∈ state.serviceNames
  tidy : table.servicesByName.Tidy

namespace Indexed

variable {table : InfoCenterState ε μ ρ} {id : String}

variable {state : NodeState ε μ ρ}

variable (hindexed : Indexed table)

include hindexed

theorem setNode {previousNames : List String} (hkey : state.nodeInstanceId = id)
    (hstripped : strip id = id) (hid : id ≠ "")
    (hprevious : ∀ name, name ∈ previousNames ↔
      ∃ known, table.nodes.lookup id = some known ∧
        name ∈ known.serviceNames) : Indexed { table with
      nodes := table.nodes.set id state
      servicesByName := reindexServices state previousNames
        table.servicesByName } := by
  have hreindex : reindexServices state previousNames table.servicesByName =
      (table.servicesByName.discardAll id previousNames).insertAll id
        state.serviceNames := by
    rw [reindexServices, hkey, hstripped, if_neg hid]
  rw [hreindex]
  constructor
  · intro other found hfound
    obtain ⟨rfl, rfl⟩ | hfound := of_lookup_set hfound
    · exact ⟨hkey, hstripped, hid⟩
    · exact hindexed.keyed other found hfound
  · intro name other
    simp only [SetIndex.members_insertAll, SetIndex.members_discardAll,
      lookup_set]
    by_cases heq : other = id
    · rw [heq, if_pos rfl]
      have hold := hindexed.exact name id
      rw [← hprevious] at hold
      by_cases hnew : name ∈ state.serviceNames
      · simp [hnew]
      · by_cases hprev : name ∈ previousNames
        · simp [hnew, hprev]
        · simp [hnew, hprev, hold]
    · rw [if_neg heq, ← hindexed.exact name other]
      split <;> split <;> simp [heq]
  · exact (hindexed.tidy.discardAll id previousNames).insertAll id
      state.serviceNames

theorem mapNodes (change : String → NodeState ε μ ρ → NodeState ε μ ρ)
    (hid : ∀ id state, (change id state).nodeInstanceId = state.nodeInstanceId)
    (hnames : ∀ id state, SameNames (change id state) state) :
    Indexed { table with nodes := table.nodes.mapValues change } := by
  constructor
  · intro id found hfound
    rw [lookup_mapValues, Option.map_eq_some_iff] at hfound
    obtain ⟨state, hstate, rfl⟩ := hfound
    rw [hid]
    exact hindexed.keyed id state hstate
  · intro name id
    rw [hindexed.exact name id]
    simp only [lookup_mapValues, Option.map_eq_some_iff]
    constructor
    · rintro ⟨state, hstate, hname⟩
      exact ⟨_, ⟨state, hstate, rfl⟩, (hnames id state name).mpr hname⟩
    · rintro ⟨_, ⟨state, hstate, rfl⟩, hname⟩
      exact ⟨state, hstate, (hnames id state name).mp hname⟩
  · exact hindexed.tidy

theorem keepNames (hkey : state.nodeInstanceId = id) (hstripped : strip id = id)
    (hid : id ≠ "")
    (hnames : ∀ name, name ∈ state.serviceNames ↔
      ∃ known, table.nodes.lookup id = some known ∧
        name ∈ known.serviceNames) :
    Indexed { table with nodes := table.nodes.set id state } := by
  constructor
  · intro other found hfound
    obtain ⟨rfl, rfl⟩ | hfound := of_lookup_set hfound
    · exact ⟨hkey, hstripped, hid⟩
    · exact hindexed.keyed other found hfound
  · intro name other
    rw [hindexed.exact name other]
    simp only [lookup_set]
    by_cases heq : other = id
    · rw [heq, if_pos rfl, ← hnames]
      simp
    · rw [if_neg heq]
  · exact hindexed.tidy

theorem dropNode (hstate : table.nodes.lookup id = some state) :
    Indexed { table with
      nodes := table.nodes.erase id
      servicesByName := removeServicesIndex state table.servicesByName } := by
  obtain ⟨hkey, hstripped, hid⟩ := hindexed.keyed id state hstate
  have hremove : removeServicesIndex state table.servicesByName =
      table.servicesByName.discardAll id state.serviceNames := by
    rw [removeServicesIndex, hkey, hstripped, if_neg hid]
  rw [hremove]
  constructor
  · intro other found hfound
    exact hindexed.keyed other found (of_lookup_erase hfound)
  · intro name other
    simp only [SetIndex.members_discardAll, lookup_erase]
    by_cases heq : other = id
    · rw [heq, if_pos rfl]
      by_cases hname : name ∈ state.serviceNames
      · simp [hname]
      · have habsent : id ∉ table.servicesByName.members name := by
          rw [hindexed.exact]
          rintro ⟨found, hfound, hnamed⟩
          rw [hstate] at hfound
          cases hfound
          exact hname hnamed
        simp [hname, habsent]
    · rw [if_neg heq, ← hindexed.exact name other]
      split <;> simp [heq]
  · exact hindexed.tidy.discardAll id state.serviceNames

theorem dropNodes (keys : List String) :
    Indexed (NodeTable.dropNodes keys table) := by
  induction keys generalizing table with
  | nil => exact hindexed
  | cons key rest ih =>
    apply ih
    dsimp only
    split
    · exact hindexed
    · next state hstate => exact hindexed.dropNode hstate

end Indexed

/-! ## The operations -/

section

variable {platform : Platform ε μ} {table : InfoCenterState ε μ ρ} {now : ℤ}

theorem mem_knownNames (known : Option (NodeState ε μ ρ)) (name : String) :
    name ∈ (known.map NodeState.serviceNames).getD [] ↔
      ∃ state, known = some state ∧ name ∈ state.serviceNames := by
  cases known <;> simp

theorem indexed_register (hindexed : Indexed table)
    (call : Registration ε μ ρ) :
    Indexed (registerNodeRecord platform now call table).1 := by
  unfold registerNodeRecord
  split
  · exact hindexed
  next hid =>
  have hpruned := hindexed.dropNodes
    (replacedKeys platform call.instanceId call.controlAddr table)
  dsimp only
  split
  · dsimp only
    exact hpruned
  · next keys _ =>
    apply (hpruned.dropNodes keys).setNode
    · rw [registeredNode, NodeState.applyProfile_nodeInstanceId]
    · exact strip_strip _
    · exact hid
    · exact mem_knownNames _

theorem indexed_heartbeat (hindexed : Indexed table) (call : Heartbeat ε μ ρ) :
    Indexed (heartbeatRecord platform now call table) := by
  unfold heartbeatRecord
  split
  · exact hindexed
  next hid =>
  have hkey : (beatenNode platform now call
      (table.nodes.lookup call.instanceId) table.profiles).nodeInstanceId =
        call.instanceId := by
    rw [beatenNode, NodeState.applyProfile_nodeInstanceId]
  dsimp only
  split
  · exact hindexed.setNode hkey (strip_strip _) hid (mem_knownNames _)
  · next hnone =>
    apply hindexed.keepNames hkey (strip_strip _) hid
    intro name
    have hsame : SameNames
        (beatenNode platform now call (table.nodes.lookup call.instanceId)
          table.profiles)
        ((table.nodes.lookup call.instanceId).getD
          (.fresh call.instanceId call.nodeId "" call.pythonVersion now
            (call.rest none))) := by
      cases hpooled : call.pooled with
      | false =>
        apply sameNames_of_services
        rw [beatenNode, NodeState.applyProfile_services]
        simp [hnone, hpooled]
      | true =>
        apply sameNames_mapValues fun serviceId service =>
          stampService now (AList.lookup serviceId
            ((table.nodes.lookup call.instanceId).getD
              (.fresh call.instanceId call.nodeId "" call.pythonVersion now
                (call.rest none))).services) service
        · exact fun _ _ => rfl
        · rw [beatenNode, NodeState.applyProfile_services]
          simp only [Option.not_isSome_iff_eq_none] at hnone
          simp [hnone, hpooled, withFailureTimestamps]
    rw [hsame]
    cases table.nodes.lookup call.instanceId with
    | none => simp [mem_serviceNames, NodeState.fresh]
    | some known => simp

theorem indexed_markLost (hindexed : Indexed table)
    (nodeInstanceId reason : String) :
    Indexed (markNodeLost platform now nodeInstanceId reason table) := by
  unfold markNodeLost
  split
  · exact hindexed
  · next known hknown =>
    obtain ⟨hkey, hstripped, hid⟩ := hindexed.keyed _ _ hknown
    have hlost : (lostNode platform now table.leaseTtlSec reason
        known).nodeInstanceId = nodeInstanceId := hkey
    apply hindexed.setNode hlost hstripped hid
    intro name
    simp [hknown]

theorem sameNames_profiled (profile : NodeProfile)
    (profiles : OrderedDict String NodeProfile) (state : NodeState ε μ ρ) :
    SameNames (profiledNode platform profile profiles state) state := by
  apply sameNames_of_services
  simp only [profiledNode, NodeState.applyProfile_services]
  split <;> rfl

theorem indexed_updateProfile (hindexed : Indexed table) (endpoint : String)
    (change : ProfileChange) :
    Indexed (updateNodeProfile platform endpoint change table) := by
  unfold updateNodeProfile
  dsimp only
  split
  · exact hindexed
  · have hmapped := hindexed.mapNodes
      (fun _ state =>
        if normalizeNodeProfileKey platform state.controlAddr =
            normalizeNodeProfileKey platform endpoint then
          profiledNode platform
            (change.apply ((table.profiles.lookup
              (normalizeNodeProfileKey platform endpoint)).getD
                ⟨[], true, false, ""⟩))
            (table.profiles.set (normalizeNodeProfileKey platform endpoint)
              (change.apply ((table.profiles.lookup
                (normalizeNodeProfileKey platform endpoint)).getD
                  ⟨[], true, false, ""⟩))) state
        else state) ?_ ?_
    · exact ⟨hmapped.keyed, hmapped.exact, hmapped.tidy⟩
    · intro id state
      split
      · simp only [profiledNode, NodeState.applyProfile_nodeInstanceId]
        split <;> rfl
      · rfl
    · intro id state
      split
      · exact sameNames_profiled _ _ state
      · exact fun _ => Iff.rfl

theorem indexed_updateSchedule (hindexed : Indexed table)
    (nodeInstanceId : String) (change : ScheduleChange) :
    Indexed (updateNodeScheduleState platform nodeInstanceId change table) := by
  unfold updateNodeScheduleState
  split
  · exact hindexed
  · next state hstate =>
    obtain ⟨hkey, hstripped, hid⟩ := hindexed.keyed _ _ hstate
    apply hindexed.keepNames _ hstripped hid
    · intro name
      have hsame : SameNames
          (scheduledNode platform change table.profiles state) state :=
        sameNames_of_services (by rw [scheduledNode, NodeState.applyProfile_services])
      rw [hsame name]
      simp [hstate]
    · rw [scheduledNode, NodeState.applyProfile_nodeInstanceId]
      exact hkey

theorem fenceIfStale_nodeInstanceId (state : NodeState ε μ ρ)
    (leaseTtlSec now : ℤ) :
    (state.fenceIfStale leaseTtlSec now).nodeInstanceId =
      state.nodeInstanceId := by
  unfold NodeState.fenceIfStale
  split <;> rfl

theorem fenceIfStale_services (state : NodeState ε μ ρ) (leaseTtlSec now : ℤ) :
    (state.fenceIfStale leaseTtlSec now).services = state.services := by
  unfold NodeState.fenceIfStale
  split <;> rfl

theorem indexed_fence (hindexed : Indexed table) (ids : List String) :
    Indexed (table.fence now ids) := by
  apply hindexed.mapNodes fun id state =>
    if id ∈ ids then state.fenceIfStale table.leaseTtlSec now else state
  · intro id state
    split
    · exact fenceIfStale_nodeInstanceId state _ now
    · rfl
  · intro id state
    split
    · exact sameNames_of_services (fenceIfStale_services state _ now)
    · exact fun _ => Iff.rfl

theorem indexed_perform (hindexed : Indexed table)
    (operation : Operation ε μ ρ) :
    Indexed (table.perform platform now operation) := by
  cases operation with
  | register call => exact indexed_register hindexed call
  | heartbeat call => exact indexed_heartbeat hindexed call
  | markLost nodeInstanceId reason =>
    exact indexed_markLost hindexed nodeInstanceId reason
  | updateProfile endpoint change =>
    exact indexed_updateProfile hindexed endpoint change
  | updateProfileForInstance nodeInstanceId change =>
    simp only [InfoCenterState.perform, updateNodeProfileForInstance]
    split
    · exact hindexed
    · exact indexed_updateProfile hindexed _ change
  | updateSchedule nodeInstanceId change =>
    exact indexed_updateSchedule hindexed nodeInstanceId change
  | query query => exact indexed_fence hindexed _

theorem indexed_initial (leaseTtlSec : ℤ)
    (profiles : OrderedDict String NodeProfile) :
    Indexed (InfoCenterState.initial (ε := ε) (μ := μ) (ρ := ρ) leaseTtlSec
      profiles) where
  keyed _ _ hfound := by cases hfound
  exact name id := by
    constructor
    · intro hmem
      exact absurd hmem (Finset.notMem_empty id)
    · rintro ⟨state, hstate, -⟩
      cases hstate
  tidy _ _ hfound := by cases hfound

end

/-! ## Queries by name -/

section

variable [LinearOrder ε] {platform : Platform ε μ}
  {table : InfoCenterState ε μ ρ} {now : ℤ}

def InfoCenterState.nodeRoutes (platform : Platform ε μ)
    (table : InfoCenterState ε μ ρ) (now : ℤ) (healthyOnly : Bool)
    (scope method serviceName id : String) : List (ServiceRoute ε μ) :=
  ((table.snapshots now healthyOnly serviceName [id]).filter fun snapshot =>
    !healthyOnly || snapshot.admitted platform scope method).map
      (RouteSnapshot.route platform now)

theorem serviceRoutes_eq_flatMap (healthyOnly : Bool)
    (scope method serviceName : String) :
    table.serviceRoutes platform now healthyOnly scope method serviceName =
      (table.candidateIds platform serviceName).flatMap
        (table.nodeRoutes platform now healthyOnly scope method serviceName) := by
  rw [InfoCenterState.serviceRoutes]
  generalize table.candidateIds platform serviceName = ids
  induction ids with
  | nil => rfl
  | cons id rest ih =>
    have hsplit : table.snapshots now healthyOnly serviceName (id :: rest) =
        table.snapshots now healthyOnly serviceName [id] ++
          table.snapshots now healthyOnly serviceName rest := by
      cases hfound : table.nodes.lookup id <;>
        simp [InfoCenterState.snapshots, hfound]
    rw [hsplit, List.filter_append, List.map_append, ih, List.flatMap_cons]
    rfl

variable {serviceName : String}

theorem nodeRoutes_eq_filter (healthyOnly : Bool) (scope method : String)
    (hname : serviceName ≠ "") (id : String) :
    table.nodeRoutes platform now healthyOnly scope method serviceName id =
      (table.nodeRoutes platform now healthyOnly scope method "" id).filter
        fun route => route.serviceName = serviceName := by
  cases hfound : table.nodes.lookup id with
  | none => simp [InfoCenterState.nodeRoutes, InfoCenterState.snapshots, hfound]
  | some state =>
    simp only [InfoCenterState.nodeRoutes, InfoCenterState.snapshots,
      List.filterMap_cons, List.filterMap_nil, hfound, List.flatMap_cons,
      List.flatMap_nil, List.append_nil]
    split
    · rfl
    · simp only [hname, false_or, true_or, decide_true, List.filter_true,
        List.filter_map, List.map_map, List.filter_filter,
        Function.comp_def, RouteSnapshot.route]
      congr 1
      apply List.filter_congr
      intro service _
      rw [Bool.and_comm]

theorem nodeRoutes_eq_nil (hindexed : Indexed table) (healthyOnly : Bool)
    (scope method : String) (hname : serviceName ≠ "")
    (hstripped : strip serviceName = serviceName) {id : String}
    (habsent : id ∉ table.servicesByName.members serviceName) :
    table.nodeRoutes platform now healthyOnly scope method serviceName id =
      [] := by
  cases hfound : table.nodes.lookup id with
  | none => simp [InfoCenterState.nodeRoutes, InfoCenterState.snapshots, hfound]
  | some state =>
    have hnone : ∀ service ∈ state.services.values,
        service.serviceName ≠ serviceName := by
      intro service hservice heq
      apply habsent
      rw [hindexed.exact]
      obtain ⟨serviceId, hlookup⟩ := mem_values.mp hservice
      refine ⟨state, hfound, mem_serviceNames.mpr
        ⟨hname, serviceId, service, hlookup, ?_⟩⟩
      rw [heq, hstripped]
    have hfilter : (state.services.values.filter fun service =>
        serviceName = "" ∨ service.serviceName = serviceName) = [] := by
      rw [List.filter_eq_nil_iff]
      intro service hservice
      simp [hname, hnone service hservice]
    simp only [InfoCenterState.nodeRoutes, InfoCenterState.snapshots,
      List.filterMap_cons, List.filterMap_nil, hfound, List.flatMap_cons,
      List.flatMap_nil, hfilter]
    split <;> rfl

theorem flatMap_perm_of_subset {α β : Type} [DecidableEq α]
    {part whole : List α} {f : α → List β} (hpart : part.Nodup)
    (hwhole : whole.Nodup) (hsub : part ⊆ whole)
    (hrest : ∀ item ∈ whole, item ∉ part → f item = []) :
    (part.flatMap f).Perm (whole.flatMap f) := by
  have hsplit : (whole.filter (· ∈ part) ++
      whole.filter fun item => !decide (item ∈ part)).Perm whole :=
    List.filter_append_perm _ whole
  have hpart' : (whole.filter (· ∈ part)).Perm part := by
    rw [List.perm_ext_iff_of_nodup (hwhole.filter _) hpart]
    intro item
    simp only [List.mem_filter, decide_eq_true_eq, and_iff_right_iff_imp]
    exact fun hitem => hsub hitem
  have hnil : (whole.filter fun item => !decide (item ∈ part)).flatMap f =
      [] := by
    rw [List.flatMap_eq_nil_iff]
    intro item hitem
    simp only [List.mem_filter, Bool.not_eq_true', decide_eq_false_iff_not]
      at hitem
    exact hrest item hitem.1 hitem.2
  calc (part.flatMap f).Perm ((whole.filter (· ∈ part)).flatMap f) :=
        hpart'.symm.flatMap_right f
    _ = (whole.filter (· ∈ part) ++
          whole.filter fun item => !decide (item ∈ part)).flatMap f := by
        rw [List.flatMap_append, hnil, List.append_nil]
    List.Perm _ (whole.flatMap f) := hsplit.flatMap_right f

theorem nodeRoutes_congr {first second : InfoCenterState ε μ ρ}
    (hlease : first.leaseTtlSec = second.leaseTtlSec) {id : String}
    (hnode : first.nodes.lookup id = second.nodes.lookup id)
    (healthyOnly : Bool) (scope method serviceName : String) :
    first.nodeRoutes platform now healthyOnly scope method serviceName id =
      second.nodeRoutes platform now healthyOnly scope method serviceName
        id := by
  simp only [InfoCenterState.nodeRoutes, InfoCenterState.snapshots, hlease,
    List.filterMap_cons, List.filterMap_nil, hnode]

omit [LinearOrder ε] in
theorem lookup_fence (ids : List String) (id : String) :
    (table.fence now ids).nodes.lookup id =
      (table.nodes.lookup id).map fun state =>
        if id ∈ ids then state.fenceIfStale table.leaseTtlSec now else state :=
  lookup_mapValues _ _ id

omit [LinearOrder ε] in
theorem keys_fence (ids : List String) :
    (table.fence now ids).nodes.keys = table.nodes.keys := by
  simp [InfoCenterState.fence, OrderedDict.mapValues, AList.keys, List.keys,
    Function.comp_def]

theorem serviceRoutes_by_name (hindexed : Indexed table) (healthyOnly : Bool)
    (scope method : String) (hname : serviceName ≠ "")
    (hstripped : strip serviceName = serviceName) :
    ((table.fence now (table.candidateIds platform serviceName)).serviceRoutes
      platform now healthyOnly scope method serviceName).Perm
    (((table.fence now table.nodes.keys).serviceRoutes platform now healthyOnly
      scope method "").filter fun route => route.serviceName = serviceName) := by
  let ids := table.candidateIds platform serviceName
  let marked := table.fence now table.nodes.keys
  have hmarked : Indexed marked := indexed_fence hindexed _
  have hids : ids = platform.listing
      (table.servicesByName.members serviceName) := if_neg hname
  have hmem : ∀ id, id ∈ ids ↔
      id ∈ table.servicesByName.members serviceName := by
    intro id
    rw [hids]
    exact platform.mem_listing _ id
  have hpresent : ids ⊆ table.nodes.keys := by
    intro id hid
    rw [hmem, hindexed.exact] at hid
    obtain ⟨state, hstate, -⟩ := hid
    exact AList.mem_keys.mp (mem_iff_lookup.mpr ⟨state, hstate⟩)
  have hsame : ((table.fence now ids).serviceRoutes platform now healthyOnly
      scope method serviceName) =
        ids.flatMap (marked.nodeRoutes platform now healthyOnly scope method
          serviceName) := by
    rw [serviceRoutes_eq_flatMap]
    have hcandidates : (table.fence now ids).candidateIds platform
        serviceName = ids := by
      rw [hids]
      exact if_neg hname
    rw [hcandidates]
    apply List.flatMap_congr
    intro id hid
    have hlookup : (table.fence now ids).nodes.lookup id =
        marked.nodes.lookup id := by
      rw [lookup_fence, lookup_fence]
      simp only [hid, hpresent hid]
    have hlease : (table.fence now ids).leaseTtlSec = marked.leaseTtlSec := rfl
    exact nodeRoutes_congr hlease hlookup healthyOnly scope method serviceName
  have hall : (marked.serviceRoutes platform now healthyOnly scope method
      "").filter (fun route => route.serviceName = serviceName) =
        table.nodes.keys.flatMap (marked.nodeRoutes platform now healthyOnly
          scope method serviceName) := by
    rw [serviceRoutes_eq_flatMap, List.filter_flatMap]
    have hkeys : marked.candidateIds platform "" = table.nodes.keys :=
      keys_fence _
    rw [hkeys]
    exact List.flatMap_congr fun id _ =>
      (nodeRoutes_eq_filter healthyOnly scope method hname id).symm
  rw [hsame, hall]
  apply flatMap_perm_of_subset
  · rw [hids]
    exact platform.listing_nodup _
  · exact table.nodes.nodupKeys
  · exact hpresent
  · intro id _ habsent
    apply nodeRoutes_eq_nil hmarked healthyOnly scope method hname hstripped
    intro hfound
    exact habsent ((hmem id).mpr hfound)

instance : Std.Total (ServiceRoute.before (ε := ε) (μ := μ)) where
  total first second := le_total first.key second.key

instance : IsTrans (ServiceRoute ε μ) ServiceRoute.before where
  trans _ _ _ hfirst hsecond := le_trans hfirst hsecond

/-- A query of routes gives, in the order of their keys and up to its limit,
the routes of that name that an unlimited query without a name gives. -/
def InfoCenterState.RoutesByName (platform : Platform ε μ)
    (table : InfoCenterState ε μ ρ) (now : ℤ)
    (serviceName scope method : String) (healthyOnly : Bool) : Prop :=
  ∃ enough, ∀ wide, enough ≤ wide → ∃ full own : List (ServiceRoute ε μ),
    table.ask platform now
      (.listServiceRoutes "" healthyOnly wide scope method) = .routes full ∧
    own.Perm (full.filter fun route => strip serviceName = "" ∨
      route.serviceName = strip serviceName) ∧
    own.Pairwise ServiceRoute.before ∧
    ∀ limit, table.ask platform now
      (.listServiceRoutes serviceName healthyOnly limit scope method) =
        .routes (own.take (max 1 limit))

theorem routesByName_of_indexed (hindexed : Indexed table)
    (serviceName scope method : String) (healthyOnly : Bool) :
    table.RoutesByName platform now serviceName scope method healthyOnly := by
  let asked := platform.casing.lower (strip (orElse scope "call"))
  let routesOf := fun name =>
    (table.fence now (table.candidateIds platform name)).serviceRoutes platform
      now healthyOnly asked (strip method) name
  have hask : ∀ name limit, table.ask platform now
      (.listServiceRoutes name healthyOnly limit scope method) =
        .routes (((routesOf (strip name)).insertionSort
          ServiceRoute.before).take (max 1 limit)) := fun _ _ => rfl
  have hblank : strip "" = "" := by decide
  refine ⟨(routesOf "").length, fun wide hwide => ⟨
    (routesOf "").insertionSort ServiceRoute.before,
    (routesOf (strip serviceName)).insertionSort ServiceRoute.before,
    ?_, ?_, List.pairwise_insertionSort _ _, fun limit => hask _ limit⟩⟩
  · rw [hask, hblank, List.take_of_length_le]
    rw [List.length_insertionSort]
    omega
  · by_cases hname : strip serviceName = ""
    · simp only [hname, true_or, decide_true, List.filter_true]
      exact List.Perm.refl _
    · have hall : table.candidateIds platform "" = table.nodes.keys :=
        if_pos rfl
      simp only [hname, false_or, routesOf, hall]
      refine (List.perm_insertionSort _ _).trans ?_
      refine .trans ?_ ((List.perm_insertionSort _ _).filter _).symm
      exact serviceRoutes_by_name hindexed healthyOnly asked (strip method)
        hname (strip_strip serviceName)

/-- In every reachable state the index is exact and tidy, and a query by name
gives the routes of that name that the full scan gives. -/
theorem index_is_exact (platform : Platform ε μ) (leaseTtlSec : ℤ)
    (profiles : OrderedDict String NodeProfile) {table : InfoCenterState ε μ ρ}
    (hreach : Reachable (InfoCenterState.step platform)
      (.initial leaseTtlSec profiles) table) :
    (∀ name id, id ∈ table.servicesByName.members name ↔
      ∃ state, table.nodes.lookup id = some state ∧
        name ∈ state.serviceNames) ∧
    table.servicesByName.Tidy ∧
    ∀ now serviceName scope method healthyOnly,
      table.RoutesByName platform now serviceName scope method healthyOnly := by
  have hindexed : Indexed table := by
    apply hreach.invariant Indexed (indexed_initial leaseTtlSec profiles)
    intro before label after hbefore _ hstep
    cases hstep
    exact indexed_perform hbefore label.2
  exact ⟨hindexed.exact, hindexed.tidy,
    fun _ serviceName scope method healthyOnly =>
      routesByName_of_indexed hindexed serviceName scope method healthyOnly⟩

end

def hostAndPort (address : String) : String × ℤ :=
  let digits := (address.toList.dropWhile (· ≠ ':')).drop 1
  if digits = [] then ("", 0)
  else (.ofList (address.toList.takeWhile (· ≠ ':')),
    digits.foldl (fun value digit => 10 * value + (digit.toNat - 48)) 0)

def samplePlatform : Platform ℤ Unit where
  casing := {
    lower := fun text => .ofList (text.toList.map Char.toLower)
    upper := fun text => .ofList (text.toList.map Char.toUpper) }
  isDigit := fun text => text ≠ "" ∧ text.toList.all Char.isDigit
  endpoint := hostAndPort
  zero := 0
  ratio := fun inFlight workers => inFlight / workers
  scaledRatio := fun inFlight ema workers => inFlight * ema / workers
  failureReason := fun _ => ""
  listing := fun names => names.sort (· ≤ ·)
  listing_nodup := fun names => names.sort_nodup (· ≤ ·)
  mem_listing := fun _ _ => Finset.mem_sort (· ≤ ·)

def runningService (serviceName serviceId : String) :
    NodeServiceState ℤ Unit where
  serviceName := serviceName
  serviceId := serviceId
  status := 2
  policyId := "default_safe"
  ownerClientId := "owner"
  codeVersion := "v1"
  entryModule := "main"
  entryCallable := "run"
  serializationMode := "auto"
  statusText := ""
  resourceHealth := ""
  degraded := false
  workerCount := 1
  aliveWorkers := 1
  inFlight := 0
  receivedCount := 0
  returnedCount := 0
  emaChildInvokeMs := 0
  emaSamples := 0
  createdAt := none
  leaseExpireAt := 0
  httpBaseUrl := ""
  stopReason := ""
  failureAt := none
  readiness := "ready"
  readinessReason := ""
  methodFailures := ∅
  createStage := ""
  operationId := ""
  operationUpdatedAt := none

def sampleRegistration (nodeInstanceId controlAddr : String)
    (metadata : OrderedDict String String)
    (services : OrderedDict String (NodeServiceState ℤ Unit)) :
    Registration ℤ Unit Unit where
  nodeInstanceId := nodeInstanceId
  nodeId := nodeInstanceId
  controlAddr := controlAddr
  tags := []
  metadata := metadata
  services := services
  serviceWorkerCapacity := 4
  serviceWorkerUsed := 0
  acceptServiceDeploy := true
  pythonVersion := "3.11.4"
  rest := fun _ => ()

def noNodes : InfoCenterState ℤ Unit Unit := .initial 90 ∅

def twoNodes : List (ℤ × Operation ℤ Unit Unit) :=
  [(1, .register (sampleRegistration "node-1" "10.0.0.1:50061" ∅
      (OrderedDict.set ∅ "s-1" (runningService "model" "s-1")))),
    (2, .register (sampleRegistration "node-2" "10.0.0.2:50061" ∅
      (OrderedDict.set ∅ "s-2" (runningService "other" "s-2"))))]

theorem twoNodes_indexed :
    ∃ table, runLabels (InfoCenterState.step samplePlatform) noNodes twoNodes =
        some table ∧
      table.servicesByName.Tidy ∧
      table.RoutesByName samplePlatform 3 "model" "call" "" true := by
  obtain ⟨table, htable⟩ : ∃ table, runLabels
      (InfoCenterState.step samplePlatform) noNodes twoNodes = some table :=
    ⟨_, rfl⟩
  obtain ⟨-, htidy, hroutes⟩ := index_is_exact samplePlatform 90 ∅
    (reachable_of_runLabels twoNodes htable)
  exact ⟨table, htable, htidy, hroutes 3 "model" "call" "" true⟩

end PycloudParallel.NodeTable
