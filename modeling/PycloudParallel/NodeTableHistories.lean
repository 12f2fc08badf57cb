import PycloudParallel.NodeTableMarkedNodes

/-!
# Histories with and without their queries

A history answers as it does without its queries when no operation keeps a mark
that a query has left: the tables of the two histories stay alike.
-/

namespace PycloudParallel.NodeTable

open Texts OrderedDict
open DataRegistry (secondTicks)

variable {ε μ ρ : Type} {platform : Platform ε μ} {now : ℤ}
  {known other : NodeState ε μ ρ}

/-! ## Operations on alike tables -/

def Operation.isQuery : Operation ε μ ρ → Bool
  | .query _ => true
  | _ => false

theorem replacedKeys_marked (nodeInstanceId controlAddr : String)
    (table : InfoCenterState ε μ ρ) :
    replacedKeys platform nodeInstanceId controlAddr (table.marked now) =
      replacedKeys platform nodeInstanceId controlAddr table := by
  have haddr : ∀ state : NodeState ε μ ρ,
      (state.fenceIfStale table.leaseTtlSec now).controlAddr =
        state.controlAddr := fun state =>
    NodeState.controlAddr_congr NodeState.unmarked_fenceIfStale
  unfold replacedKeys
  simp only [InfoCenterState.marked, items_mapValues,
    List.filter_map, List.map_map, Function.comp_def, haddr]

theorem startupReplaced_marked {leaseTtlSec : ℤ} (controlAddr : String)
    (incoming : OrderedDict String (NodeServiceState ε μ))
    (state : NodeState ε μ ρ) (services : List (NodeServiceState ε μ)) :
    startupReplaced platform controlAddr incoming
        (state.fenceIfStale leaseTtlSec now) services =
      startupReplaced platform controlAddr incoming state services := by
  have hrest : (state.fenceIfStale leaseTtlSec now).unmarked =
      state.unmarked := NodeState.unmarked_fenceIfStale
  have haddr := NodeState.controlAddr_congr hrest
  have hmetadata : (state.fenceIfStale leaseTtlSec now).metadata =
      state.metadata := by
    have hsame := congrArg NodeState.metadata hrest
    exact hsame
  induction services with
  | nil => rfl
  | cons service rest ih =>
    simp only [startupReplaced, ih, haddr, hmetadata]

theorem startupReplacedKeys_marked {leaseTtlSec : ℤ}
    (nodeInstanceId controlAddr : String)
    (incoming : OrderedDict String (NodeServiceState ε μ))
    (items : List (String × NodeState ε μ ρ)) :
    startupReplacedKeys platform now leaseTtlSec nodeInstanceId controlAddr
        incoming (items.map fun item =>
          (item.1, item.2.fenceIfStale leaseTtlSec now)) =
      startupReplacedKeys platform now leaseTtlSec nodeInstanceId controlAddr
        incoming items := by
  induction items with
  | nil => rfl
  | cons item rest ih =>
    have hrest : (item.2.fenceIfStale leaseTtlSec now).unmarked =
        item.2.unmarked := NodeState.unmarked_fenceIfStale
    have hservices : (item.2.fenceIfStale leaseTtlSec now).services =
        item.2.services := by
      have hsame := congrArg NodeState.services hrest
      exact hsame
    simp only [List.map_cons, startupReplacedKeys, ih,
      NodeState.isHealthy_fenceIfStale, startupReplaced_marked, hservices]

theorem validateStartupServiceNames_marked (call : Registration ε μ ρ)
    (table : InfoCenterState ε μ ρ) :
    validateStartupServiceNames platform now call (table.marked now) =
      validateStartupServiceNames platform now call table := by
  unfold validateStartupServiceNames
  simp only [InfoCenterState.marked, items_mapValues,
    startupReplacedKeys_marked]

theorem removeServicesIndex_congr (hrest : known.unmarked = other.unmarked)
    (servicesByName : SetIndex String String) :
    removeServicesIndex known servicesByName =
      removeServicesIndex other servicesByName := by
  have hid : known.nodeInstanceId = other.nodeInstanceId := by
    have hsame := congrArg NodeState.nodeInstanceId hrest
    exact hsame
  rw [removeServicesIndex, removeServicesIndex, hid,
    NodeState.serviceNames_congr hrest]

theorem lookup_of_dropNodes {table : InfoCenterState ε μ ρ} {keys : List String}
    {id : String} {state : NodeState ε μ ρ}
    (hfound : (dropNodes keys table).nodes.lookup id = some state) :
    table.nodes.lookup id = some state := by
  rw [lookup_dropNodes] at hfound
  split at hfound
  · cases hfound
  · exact hfound

theorem profiles_dropNodes (keys : List String)
    (table : InfoCenterState ε μ ρ) :
    (dropNodes keys table).profiles = table.profiles := by
  induction keys generalizing table with
  | nil => rfl
  | cons key rest ih =>
    simp only [dropNodes, List.foldl_cons] at ih ⊢
    rw [ih]
    split <;> rfl

theorem marked_dropNodes (keys : List String) (table : InfoCenterState ε μ ρ) :
    (dropNodes keys table).marked now = dropNodes keys (table.marked now) := by
  induction keys generalizing table with
  | nil => rfl
  | cons key rest ih =>
    simp only [dropNodes, List.foldl_cons] at ih ⊢
    rw [ih]
    simp only [InfoCenterState.marked, lookup_mapValues]
    cases hfound : table.nodes.lookup key with
    | none => rfl
    | some state =>
      have hrest : (state.fenceIfStale table.leaseTtlSec now).unmarked =
          state.unmarked := NodeState.unmarked_fenceIfStale
      have hindex := removeServicesIndex_congr hrest table.servicesByName
      simp only [Option.map_some, mapValues_erase, hindex]

namespace InfoCenterState

variable {real clean : InfoCenterState ε μ ρ}

section

variable (halike : AlikeAt now real clean)

include halike

theorem AlikeAt.dropNodes (keys : List String) :
    AlikeAt now (dropNodes keys real) (dropNodes keys clean) := by
  rw [AlikeAt, marked_dropNodes, marked_dropNodes, halike]

theorem AlikeAt.set (id : String) (servicesByName : SetIndex String String)
    (hstate : known.fenceIfStale real.leaseTtlSec now =
      other.fenceIfStale real.leaseTtlSec now) : AlikeAt now
      { real with
        nodes := real.nodes.set id known
        servicesByName := servicesByName }
      { clean with
        nodes := clean.nodes.set id other
        servicesByName := servicesByName } := by
  have hnodes : real.nodes.mapValues (fun _ state =>
      state.fenceIfStale real.leaseTtlSec now) =
        clean.nodes.mapValues fun _ state =>
          state.fenceIfStale clean.leaseTtlSec now := by
    have hsame := congrArg InfoCenterState.nodes halike.marked_eq
    exact hsame
  rw [halike.leaseTtlSec] at hstate hnodes
  simp only [AlikeAt, marked, mapValues_set, hnodes,
    halike.leaseTtlSec, halike.profiles, halike.dataRefs, hstate]

theorem AlikeAt.setNode (id : String)
    (hstate : known.fenceIfStale real.leaseTtlSec now =
      other.fenceIfStale real.leaseTtlSec now) :
    AlikeAt now { real with nodes := real.nodes.set id known }
      { clean with nodes := clean.nodes.set id other } := by
  have hset := halike.set id real.servicesByName hstate
  have hindex := halike.servicesByName
  obtain ⟨⟩ := clean
  obtain rfl := hindex
  exact hset

theorem AlikeAt.lookup_cases (id : String) :
    (real.nodes.lookup id = none ∧ clean.nodes.lookup id = none) ∨
      ∃ known other, real.nodes.lookup id = some known ∧
        clean.nodes.lookup id = some other ∧
        known.fenceIfStale real.leaseTtlSec now =
          other.fenceIfStale real.leaseTtlSec now := by
  have hlookup := halike.lookup id
  cases hknown : real.nodes.lookup id <;> cases hother : clean.nodes.lookup id
  · exact Or.inl ⟨rfl, rfl⟩
  · rw [hknown, hother] at hlookup
    cases hlookup
  · rw [hknown, hother] at hlookup
    cases hlookup
  · rw [hknown, hother] at hlookup
    exact Or.inr ⟨_, _, rfl, rfl, Option.some.inj hlookup⟩

theorem AlikeAt.serviceNames (id : String) :
    (real.nodes.lookup id).map NodeState.serviceNames =
      (clean.nodes.lookup id).map NodeState.serviceNames := by
  obtain ⟨hnone, hother⟩ | ⟨known, other, hknown, hother, hsame⟩ :=
    halike.lookup_cases id
  · rw [hnone, hother]
  · rw [hknown, hother, Option.map_some, Option.map_some,
      NodeState.serviceNames_congr (NodeState.unmarked_eq_of_alike hsame)]

end

/-! ## What an operation keeps -/

def profileDisabled (platform : Platform ε μ) (table : InfoCenterState ε μ ρ)
    (endpoint : String) (change : ProfileChange) : Prop :=
  change.enabled.getD (((table.profiles.lookup
    (normalizeNodeProfileKey platform endpoint)).map
      NodeProfile.enabled).getD true) = false

theorem profileDisabled_iff (table : InfoCenterState ε μ ρ) (endpoint : String)
    (change : ProfileChange) :
    table.profileDisabled platform endpoint change ↔
      (change.apply ((table.profiles.lookup
        (normalizeNodeProfileKey platform endpoint)).getD
          ⟨[], true, false, ""⟩)).enabled = false := by
  unfold profileDisabled
  cases table.profiles.lookup (normalizeNodeProfileKey platform endpoint) with
  | none | some profile => exact Iff.rfl

def NodesRelated (relation : NodeState ε μ ρ → NodeState ε μ ρ → Prop)
    (real clean : InfoCenterState ε μ ρ) (id : String) : Prop :=
  ∀ known other, real.nodes.lookup id = some known →
    clean.nodes.lookup id = some other → relation known other

def KeepsNoReason (platform : Platform ε μ) (real clean : InfoCenterState ε μ ρ)
    (endpoint : String) (change : ProfileChange) : Prop :=
  real.profileDisabled platform endpoint change →
    ∀ id, NodesRelated (fun known other =>
      normalizeNodeProfileKey platform known.controlAddr =
        normalizeNodeProfileKey platform endpoint →
      known.reason = other.reason) real clean id

/-- What an operation keeps of the marks of the first table is the same in the
second. -/
def KeepsNoMark (platform : Platform ε μ) (now : ℤ)
    (real clean : InfoCenterState ε μ ρ) : Operation ε μ ρ → Prop
  | .register call =>
    (∃ state, (registerNodeRecord platform now call real).2 = .ok state) →
      NodesRelated (fun known other => NodeState.MarksDecided
        (profileOf platform real.profiles call.controlAddr) known other)
        real clean call.instanceId
  | .heartbeat call =>
    NodesRelated (fun known other => NodeState.MarksDecided
      (profileOf platform real.profiles known.controlAddr) known other)
      real clean call.instanceId
  | .markLost nodeInstanceId reason =>
    reason = "" → NodesRelated (fun known other =>
      known.reason = other.reason) real clean nodeInstanceId
  | .updateProfile endpoint change =>
    KeepsNoReason platform real clean endpoint change
  | .updateProfileForInstance nodeInstanceId change =>
    ∀ state, real.nodes.lookup (strip nodeInstanceId) = some state →
      KeepsNoReason platform real clean
        (normalizeNodeProfileKey platform state.controlAddr) change
  | .updateSchedule nodeInstanceId change =>
    change.reason = none → NodesRelated (fun known other =>
      ∀ profile, profileOf platform real.profiles known.controlAddr =
        some profile → profile.enabled = false → known.reason = other.reason)
      real clean nodeInstanceId
  | .query _ => True

variable (halike : AlikeAt now real clean)

include halike

theorem AlikeAt.heartbeat (call : Heartbeat ε μ ρ)
    (hkeeps : KeepsNoMark platform now real clean (.heartbeat call)) :
    AlikeAt now (heartbeatRecord platform now call real)
      (heartbeatRecord platform now call clean) := by
  unfold heartbeatRecord
  split
  · exact halike
  · have hstate : beatenNode platform now call
        (real.nodes.lookup call.instanceId) real.profiles =
          beatenNode platform now call
            (clean.nodes.lookup call.instanceId) clean.profiles := by
      rw [← halike.profiles]
      obtain ⟨hnone, hother⟩ | ⟨known, other, hknown, hother, hsame⟩ :=
        halike.lookup_cases call.instanceId
      · rw [hnone, hother]
      · rw [hknown, hother]
        exact beatenNode_congr call (NodeState.unmarked_eq_of_alike hsame)
          (hkeeps known other hknown hother)
    dsimp only
    rw [hstate, halike.serviceNames, halike.servicesByName]
    exact halike.set call.instanceId _ rfl

theorem AlikeAt.markLost (nodeInstanceId reason : String)
    (hkeeps : KeepsNoMark platform now real clean
      (.markLost nodeInstanceId reason)) :
    AlikeAt now (markNodeLost platform now nodeInstanceId reason real)
      (markNodeLost platform now nodeInstanceId reason clean) := by
  unfold markNodeLost
  obtain ⟨hnone, hother⟩ | ⟨known, other, hknown, hother, hsame⟩ :=
    halike.lookup_cases nodeInstanceId
  · rw [hnone, hother]
    exact halike
  · have hrest := NodeState.unmarked_eq_of_alike hsame
    have hlost : lostNode platform now real.leaseTtlSec reason known =
        lostNode platform now clean.leaseTtlSec reason other := by
      rw [← halike.leaseTtlSec]
      exact lostNode_congr hrest fun hblank =>
        hkeeps hblank known other hknown hother
    rw [hknown, hother]
    dsimp only
    rw [hlost, NodeState.serviceNames_congr hrest, halike.servicesByName]
    exact halike.set nodeInstanceId _ rfl

theorem AlikeAt.updateSchedule (nodeInstanceId : String)
    (change : ScheduleChange)
    (hkeeps : KeepsNoMark platform now real clean
      (.updateSchedule nodeInstanceId change)) :
    AlikeAt now (updateNodeScheduleState platform nodeInstanceId change real)
      (updateNodeScheduleState platform nodeInstanceId change clean) := by
  unfold updateNodeScheduleState
  obtain ⟨hnone, hother⟩ | ⟨known, other, hknown, hother, hsame⟩ :=
    halike.lookup_cases nodeInstanceId
  · rw [hnone, hother]
    exact halike
  · have hstate : (scheduledNode platform change real.profiles
        known).fenceIfStale real.leaseTtlSec now =
          (scheduledNode platform change clean.profiles other).fenceIfStale
            real.leaseTtlSec now := by
      rw [← halike.profiles]
      exact scheduledNode_alike change hsame fun hgiven =>
        hkeeps hgiven known other hknown hother
    rw [hknown, hother]
    exact halike.setNode nodeInstanceId hstate

theorem AlikeAt.updateProfile (endpoint : String) (change : ProfileChange)
    (hkeeps : KeepsNoReason platform real clean endpoint change) :
    AlikeAt now (updateNodeProfile platform endpoint change real)
      (updateNodeProfile platform endpoint change clean) := by
  unfold updateNodeProfile
  dsimp only
  split
  · exact halike
  next hkey =>
  rw [← halike.profiles]
  generalize hprofile : change.apply ((real.profiles.lookup
    (normalizeNodeProfileKey platform endpoint)).getD ⟨[], true, false, ""⟩) =
      profile
  generalize hprofiles : real.profiles.set
    (normalizeNodeProfileKey platform endpoint) profile = profiles
  apply alikeAt_of_lookup
  · exact halike.leaseTtlSec
  · exact halike.servicesByName
  · rfl
  · exact halike.dataRefs
  · simp only [keys_mapValues, halike.keys]
  · intro id
    simp only [lookup_mapValues]
    obtain ⟨hnone, hother⟩ | ⟨known, other, hknown, hother, hsame⟩ :=
      halike.lookup_cases id
    · rw [hnone, hother]
    · have haddr := NodeState.controlAddr_congr
        (NodeState.unmarked_eq_of_alike hsame)
      rw [hknown, hother]
      simp only [Option.map_some, Option.some.injEq, ← haddr]
      split
      · next hsamekey =>
        apply profiledNode_alike hsame
        · rw [profileOf, if_neg (hsamekey ▸ hkey), hsamekey, ← hprofiles,
            lookup_set_self]
        · intro hoff
          refine hkeeps ?_ id known other hknown hother hsamekey
          rw [← hprofile] at hoff
          exact (profileDisabled_iff real endpoint change).mpr hoff
      · exact hsame

theorem AlikeAt.register (call : Registration ε μ ρ)
    (hkeeps : KeepsNoMark platform now real clean (.register call)) :
    AlikeAt now (registerNodeRecord platform now call real).1
      (registerNodeRecord platform now call clean).1 := by
  have hkeys : replacedKeys platform call.instanceId call.controlAddr real =
      replacedKeys platform call.instanceId call.controlAddr clean := by
    rw [← replacedKeys_marked, halike.marked_eq, replacedKeys_marked]
  have hdecided : (∃ state, (registerNodeRecord platform now call real).2 =
      .ok state) → NodesRelated (fun known other => NodeState.MarksDecided
        (profileOf platform real.profiles call.controlAddr) known other)
        real clean call.instanceId := hkeeps
  unfold registerNodeRecord at hdecided ⊢
  split
  · exact halike
  next hid =>
  rw [if_neg hid] at hdecided
  dsimp only at hdecided ⊢
  rw [← hkeys]
  generalize replacedKeys platform call.instanceId call.controlAddr real =
    replaced at hdecided
  have hpruned := halike.dropNodes replaced
  have hvalid : validateStartupServiceNames platform now call
      (NodeTable.dropNodes replaced real) =
        validateStartupServiceNames platform now call
          (NodeTable.dropNodes replaced clean) := by
    rw [← validateStartupServiceNames_marked, hpruned.marked_eq,
      validateStartupServiceNames_marked]
  rw [← hvalid]
  cases hstartup : validateStartupServiceNames platform now call
      (NodeTable.dropNodes replaced real) with
  | error error => exact hpruned
  | ok keys =>
    rw [hstartup] at hdecided
    have hcleared := hpruned.dropNodes keys
    have hprofiles : (NodeTable.dropNodes keys
        (NodeTable.dropNodes replaced real)).profiles = real.profiles := by
      rw [profiles_dropNodes, profiles_dropNodes]
    have hstate : registeredNode platform now call ((NodeTable.dropNodes keys
        (NodeTable.dropNodes replaced real)).nodes.lookup call.instanceId)
          (NodeTable.dropNodes keys
            (NodeTable.dropNodes replaced real)).profiles =
        registeredNode platform now call ((NodeTable.dropNodes keys
          (NodeTable.dropNodes replaced clean)).nodes.lookup call.instanceId)
            (NodeTable.dropNodes keys
              (NodeTable.dropNodes replaced clean)).profiles := by
      rw [← hcleared.profiles, hprofiles]
      obtain ⟨hnone, hother⟩ | ⟨known, other, hknown, hother, hsame⟩ :=
        hcleared.lookup_cases call.instanceId
      · rw [hnone, hother]
      · rw [hknown, hother]
        apply registeredNode_congr call (NodeState.unmarked_eq_of_alike hsame)
        exact hdecided ⟨_, rfl⟩ known other
          (lookup_of_dropNodes (lookup_of_dropNodes hknown))
          (lookup_of_dropNodes (lookup_of_dropNodes hother))
    dsimp only
    rw [hstate, hcleared.serviceNames, hcleared.servicesByName]
    exact hcleared.set call.instanceId _ rfl

theorem AlikeAt.queried (query : Query) :
    AlikeAt now (real.queried platform now query) clean := by
  rw [AlikeAt, InfoCenterState.queried, marked_fence _ le_rfl, halike.marked_eq]

theorem AlikeAt.perform {operation : Operation ε μ ρ}
    (hoperation : operation.isQuery = false)
    (hkeeps : KeepsNoMark platform now real clean operation) :
    AlikeAt now (real.perform platform now operation)
      (clean.perform platform now operation) := by
  cases operation with
  | register call => exact halike.register call hkeeps
  | heartbeat call => exact halike.heartbeat call hkeeps
  | markLost nodeInstanceId reason =>
    exact halike.markLost nodeInstanceId reason hkeeps
  | updateProfile endpoint change =>
    exact halike.updateProfile endpoint change hkeeps
  | updateProfileForInstance nodeInstanceId change =>
    simp only [InfoCenterState.perform, updateNodeProfileForInstance]
    obtain ⟨hnone, hother⟩ | ⟨known, other, hknown, hother, hsame⟩ :=
      halike.lookup_cases (strip nodeInstanceId)
    · rw [hnone, hother]
      exact halike
    · rw [hknown, hother]
      dsimp only
      rw [← NodeState.controlAddr_congr
        (NodeState.unmarked_eq_of_alike hsame)]
      exact halike.updateProfile _ change (hkeeps known hknown)
  | updateSchedule nodeInstanceId change =>
    exact halike.updateSchedule nodeInstanceId change hkeeps
  | query query => cases hoperation

end InfoCenterState

def afterHistory (platform : Platform ε μ) (table : InfoCenterState ε μ ρ)
    (history : List (ℤ × Operation ε μ ρ)) : InfoCenterState ε μ ρ :=
  history.foldl (fun table label => table.perform platform label.1 label.2)
    table

def withoutQueries (history : List (ℤ × Operation ε μ ρ)) :
    List (ℤ × Operation ε μ ρ) :=
  history.filter fun label => !label.2.isQuery

/-- No operation of the history keeps a mark that its queries have left: the
first table is that of the whole history, the second that of the one without
queries. -/
def MarksForgotten (platform : Platform ε μ) :
    InfoCenterState ε μ ρ → InfoCenterState ε μ ρ →
      List (ℤ × Operation ε μ ρ) → Prop
  | _, _, [] => True
  | real, clean, (now, operation) :: rest =>
    InfoCenterState.KeepsNoMark platform now real clean operation ∧
      MarksForgotten platform (real.perform platform now operation)
        (if operation.isQuery = true then clean
        else clean.perform platform now operation) rest

theorem alikeAt_afterHistory {real clean : InfoCenterState ε μ ρ}
    {history : List (ℤ × Operation ε μ ρ)}
    (halike : ∀ time ∈ history.map Prod.fst ++ [now],
      InfoCenterState.AlikeAt time real clean)
    (hclock : (history.map Prod.fst ++ [now]).Pairwise (· ≤ ·))
    (hforgotten : MarksForgotten platform real clean history) :
    InfoCenterState.AlikeAt now (afterHistory platform real history)
      (afterHistory platform clean (withoutQueries history)) := by
  induction history generalizing real clean with
  | nil => exact halike now (List.mem_singleton_self now)
  | cons label rest ih =>
    obtain ⟨time, operation⟩ := label
    obtain ⟨hkeeps, hrest⟩ := hforgotten
    rw [List.map_cons, List.cons_append, List.pairwise_cons] at hclock
    have hstart := halike time List.mem_cons_self
    cases hquery : operation.isQuery with
    | false =>
      rw [hquery] at hrest
      have hskip : withoutQueries ((time, operation) :: rest) =
          (time, operation) :: withoutQueries rest := by
        simp [withoutQueries, hquery]
      rw [hskip]
      refine ih ?_ hclock.2 hrest
      intro later hlater
      exact (hstart.perform hquery hkeeps).mono (hclock.1 later hlater)
    | true =>
      rw [hquery] at hrest
      have hskip : withoutQueries ((time, operation) :: rest) =
          withoutQueries rest := by
        simp [withoutQueries, hquery]
      rw [hskip]
      refine ih ?_ hclock.2 hrest
      intro later hlater
      cases operation with
      | query query => exact (hstart.queried query).mono (hclock.1 later hlater)
      | _ => cases hquery

/-- A query answers as if there had been none before it, when no operation of
the history keeps a mark of an earlier one. -/
theorem answers_without_queries [LinearOrder ε] (platform : Platform ε μ)
    (leaseTtlSec : ℤ) (profiles : OrderedDict String NodeProfile)
    (history : List (ℤ × Operation ε μ ρ)) (now : ℤ) (query : Query)
    (hclock : (history.map Prod.fst ++ [now]).Pairwise (· ≤ ·))
    (hforgotten : MarksForgotten platform
      (InfoCenterState.initial leaseTtlSec profiles)
      (InfoCenterState.initial leaseTtlSec profiles) history) :
    (afterHistory platform (InfoCenterState.initial leaseTtlSec profiles)
        history).ask platform now query =
      (afterHistory platform (InfoCenterState.initial leaseTtlSec profiles)
        (withoutQueries history)).ask platform now query := by
  apply InfoCenterState.AlikeAt.ask
  exact alikeAt_afterHistory (fun _ _ => rfl) hclock hforgotten

def sampleHeartbeat (nodeInstanceId : String) : Heartbeat ℤ Unit Unit where
  nodeInstanceId := nodeInstanceId
  nodeId := nodeInstanceId
  healthy := true
  metadata := none
  services := none
  pooled := false
  serviceWorkerCapacity := 0
  serviceWorkerUsed := 0
  acceptServiceDeploy := none
  pythonVersion := ""
  rest := fun _ => ()

def allNodes : Query := .listNodes false [] 10

/-- A node is late at 200 s, where it is asked for, and sends a heartbeat at
201 s. -/
def lateNode (before : List (ℤ × Operation ℤ Unit Unit)) :
    List (ℤ × Operation ℤ Unit Unit) :=
  (1, .register (sampleRegistration "node-1" "10.0.0.1:50061" ∅ ∅)) ::
    before ++
      [(200 * secondTicks, .query allNodes),
        (201 * secondTicks, .heartbeat (sampleHeartbeat "node-1"))]

def Answer.schedulable : Answer ε μ ρ → List Bool
  | .nodes listed => listed.map NodeState.schedulable
  | _ => []

def inMaintenance : List (ℤ × Operation ℤ Unit Unit) :=
  lateNode [(2, .updateSchedule "node-1" ⟨some false, none, some "upgrade"⟩)]

theorem inMaintenance_answers :
    ((afterHistory samplePlatform noNodes inMaintenance).ask samplePlatform
        (202 * secondTicks) allNodes) =
      (afterHistory samplePlatform noNodes (withoutQueries inMaintenance)).ask
        samplePlatform (202 * secondTicks) allNodes := by
  apply answers_without_queries samplePlatform 90 ∅ inMaintenance
  · decide
  refine ⟨?_, ?_, trivial, ?_, trivial⟩
  · intro _ known other hknown
    cases hknown
  · intro hnone
    cases hnone
  · intro known other hknown hother
    have hreal : ((afterHistory samplePlatform noNodes
        (inMaintenance.take 3)).nodes.lookup "node-1").map (fun state =>
          (state.reason, state.schedulable)) = some ("upgrade", false) := by
      decide +kernel
    have hclean : ((afterHistory samplePlatform noNodes
        (inMaintenance.take 2)).nodes.lookup "node-1").map (fun state =>
          (state.reason, state.schedulable)) = some ("upgrade", false) := by
      decide +kernel
    have hknown : (afterHistory samplePlatform noNodes
        (inMaintenance.take 3)).nodes.lookup "node-1" = some known := hknown
    have hother : (afterHistory samplePlatform noNodes
        (inMaintenance.take 2)).nodes.lookup "node-1" = some other := hother
    rw [hknown, Option.map_some, Option.some.injEq, Prod.mk.injEq] at hreal
    rw [hother, Option.map_some, Option.some.injEq, Prod.mk.injEq] at hclean
    exact ⟨hreal.1.trans hclean.1.symm, Or.inl (hreal.2.trans hclean.2.symm)⟩

/-- The node is not schedulable when it comes back because of the query. -/
theorem query_outlives_lateness :
    ¬∀ (history : List (ℤ × Operation ℤ Unit Unit)) (now : ℤ) (query : Query),
      (history.map Prod.fst ++ [now]).Pairwise (· ≤ ·) →
      (afterHistory samplePlatform noNodes history).ask samplePlatform now
          query =
        (afterHistory samplePlatform noNodes (withoutQueries history)).ask
          samplePlatform now query := by
  intro hall
  have hsame := congrArg Answer.schedulable
    (hall (lateNode []) (202 * secondTicks) allNodes (by decide))
  have hreal : ((afterHistory samplePlatform noNodes (lateNode [])).ask
      samplePlatform (202 * secondTicks) allNodes).schedulable = [false] := by
    decide +kernel
  have hclean : ((afterHistory samplePlatform noNodes
      (withoutQueries (lateNode []))).ask samplePlatform (202 * secondTicks)
        allNodes).schedulable = [true] := by
    decide +kernel
  rw [hreal, hclean] at hsame
  cases hsame

end PycloudParallel.NodeTable
