import PycloudParallel.NodeTableIndex

/-!
# Rejected registrations

A registration drops the nodes with its control endpoint before it validates
its startup names, so one that is rejected has changed nothing exactly when
there is no such node.
-/

namespace PycloudParallel.NodeTable

open Texts OrderedDict

variable {ε μ ρ : Type} {platform : Platform ε μ}
  {table : InfoCenterState ε μ ρ}

def EndpointTaken (platform : Platform ε μ)
    (nodeInstanceId controlAddr : String) (table : InfoCenterState ε μ ρ) :
    Prop :=
  nodeInstanceId ≠ "" ∧ strip controlAddr ≠ "" ∧
    ∃ id state, table.nodes.lookup id = some state ∧ id ≠ nodeInstanceId ∧
      (strip state.controlAddr = strip controlAddr ∨
        (normalizeNodeProfileKey platform (strip controlAddr) ≠ "" ∧
          normalizeNodeProfileKey platform state.controlAddr =
            normalizeNodeProfileKey platform (strip controlAddr)))

/-- The control endpoint of the node is the given one. -/
def AtControl (platform : Platform ε μ) (controlAddr : String)
    (state : NodeState ε μ ρ) : Prop :=
  strip controlAddr ≠ "" ∧
    (strip state.controlAddr = strip controlAddr ∨
      (normalizeNodeProfileKey platform (strip controlAddr) ≠ "" ∧
        normalizeNodeProfileKey platform state.controlAddr =
          normalizeNodeProfileKey platform (strip controlAddr)))

theorem mem_replacedKeys_iff {nodeInstanceId controlAddr id : String} :
    id ∈ replacedKeys platform nodeInstanceId controlAddr table ↔
      nodeInstanceId ≠ "" ∧ ∃ state, table.nodes.lookup id = some state ∧
        id ≠ nodeInstanceId ∧ AtControl platform controlAddr state := by
  unfold replacedKeys AtControl
  split
  · next hblank =>
    simp only [List.not_mem_nil, false_iff]
    rintro ⟨hid, _, -, -, haddr, -⟩
    exact hblank.elim hid haddr
  · next hgiven =>
    rw [not_or] at hgiven
    simp [hgiven, mem_items]

theorem mem_replacedKeys {nodeInstanceId controlAddr id : String}
    (hid : id ∈ replacedKeys platform nodeInstanceId controlAddr table) :
    ∃ state, table.nodes.lookup id = some state := by
  obtain ⟨-, state, hstate, -⟩ := mem_replacedKeys_iff.mp hid
  exact ⟨state, hstate⟩

theorem replacedKeys_ne_nil_iff {nodeInstanceId controlAddr : String} :
    replacedKeys platform nodeInstanceId controlAddr table ≠ [] ↔
      EndpointTaken platform nodeInstanceId controlAddr table := by
  simp only [ne_eq, List.eq_nil_iff_forall_not_mem, mem_replacedKeys_iff,
    not_forall, not_not, EndpointTaken, AtControl]
  grind

theorem dropNodes_cons (key : String) (rest : List String) :
    dropNodes (key :: rest) table = dropNodes rest
      (match table.nodes.lookup key with
      | none => table
      | some state => { table with
          nodes := table.nodes.erase key
          servicesByName := removeServicesIndex state
            table.servicesByName }) := rfl

theorem lookup_dropNodes (keys : List String) (id : String) :
    (dropNodes keys table).nodes.lookup id =
      if id ∈ keys then none else table.nodes.lookup id := by
  induction keys generalizing table with
  | nil => simp [dropNodes]
  | cons key rest ih =>
    rw [dropNodes_cons, ih]
    cases hfound : table.nodes.lookup key with
    | none =>
      by_cases heq : id = key
      · rw [heq, hfound]
        simp
      · simp [heq]
    | some state =>
      simp only [lookup_erase]
      by_cases heq : id = key <;> by_cases hrest : id ∈ rest <;>
        simp [heq, hrest]

theorem dropNodes_eq_self_iff {keys : List String}
    (hkeys : ∀ id ∈ keys, ∃ state, table.nodes.lookup id = some state) :
    dropNodes keys table = table ↔ keys = [] := by
  constructor
  · intro hsame
    rw [List.eq_nil_iff_forall_not_mem]
    intro id hid
    obtain ⟨state, hstate⟩ := hkeys id hid
    have hdropped : (dropNodes keys table).nodes.lookup id =
        if id ∈ keys then none else table.nodes.lookup id :=
      lookup_dropNodes keys id
    rw [hsame, if_pos hid, hstate] at hdropped
    cases hdropped
  · rintro rfl
    rfl

/-- A rejected registration has changed nothing exactly when no other node has
its control endpoint. -/
theorem rejected_registration_unchanged_iff (platform : Platform ε μ) (now : ℤ)
    (call : Registration ε μ ρ) (table : InfoCenterState ε μ ρ)
    {error : RegistrationError}
    (hrejected : (registerNodeRecord platform now call table).2 =
      .error error) :
    (registerNodeRecord platform now call table).1 = table ↔
      ¬EndpointTaken platform call.instanceId call.controlAddr table := by
  rw [← replacedKeys_ne_nil_iff, not_not]
  unfold registerNodeRecord at hrejected ⊢
  split at hrejected
  · next hblank =>
    rw [if_pos hblank]
    simp [replacedKeys, hblank]
  · next hid =>
    rw [if_neg hid]
    dsimp only at hrejected ⊢
    split at hrejected
    · dsimp only
      exact dropNodes_eq_self_iff fun _ => mem_replacedKeys
    · cases hrejected

def rejection {α : Type} : Except RegistrationError α → Option RegistrationError
  | .error error => some error
  | .ok _ => none

theorem eq_error_of_rejection {α : Type} {error : RegistrationError}
    {result : Except RegistrationError α} (hresult : rejection result = some error) :
    result = .error error := by
  cases result with
  | ok _ => cases hresult
  | error found => exact congrArg Except.error (Option.some.inj hresult)

def startupMetadata : OrderedDict String String :=
  OrderedDict.set ∅ "startup_service" "true"

def nodeAndStartup : List (ℤ × Operation ℤ Unit Unit) :=
  [(1, .register (sampleRegistration "node-1" "10.0.0.1:50061" ∅ ∅)),
    (2, .register (sampleRegistration "startup-1" "10.0.0.2:18080"
      startupMetadata
      (OrderedDict.set ∅ "s-1" (runningService "model" "s-1"))))]

def rivalStartup (controlAddr : String) : Registration ℤ Unit Unit :=
  sampleRegistration "startup-2" controlAddr startupMetadata
    (OrderedDict.set ∅ "s-2" (runningService "model" "s-2"))

/-- At a control address of its own it changes nothing. -/
theorem rivalStartup_unchanged :
    ∃ table, runLabels (InfoCenterState.step samplePlatform) noNodes
        nodeAndStartup = some table ∧
      (registerNodeRecord samplePlatform 3 (rivalStartup "10.0.0.3:18080")
        table).1 = table := by
  obtain ⟨table, htable⟩ : ∃ table, runLabels
      (InfoCenterState.step samplePlatform) noNodes nodeAndStartup =
        some table := ⟨_, rfl⟩
  have hfacts : (runLabels (InfoCenterState.step samplePlatform) noNodes
      nodeAndStartup).map (fun table =>
        (rejection (registerNodeRecord samplePlatform 3
          (rivalStartup "10.0.0.3:18080") table).2,
        replacedKeys samplePlatform "startup-2" "10.0.0.3:18080" table)) =
      some (some (.nameExists "model"), []) := by
    decide +kernel
  rw [htable, Option.map_some, Option.some.injEq, Prod.mk.injEq] at hfacts
  obtain ⟨hrejected, hnone⟩ := hfacts
  refine ⟨table, htable, ?_⟩
  rw [rejected_registration_unchanged_iff samplePlatform 3 _ table
    (eq_error_of_rejection hrejected), ← replacedKeys_ne_nil_iff, not_not]
  exact hnone

/-- At the control address of the node it is rejected, and the node is gone. -/
theorem rejected_registration_evicts :
    ∃ table, Reachable (InfoCenterState.step samplePlatform) noNodes table ∧
      (registerNodeRecord samplePlatform 3 (rivalStartup "10.0.0.1:50061")
        table).2 = .error (.nameExists "model") ∧
      (table.nodes.lookup "node-1").isSome = true ∧
      (registerNodeRecord samplePlatform 3 (rivalStartup "10.0.0.1:50061")
        table).1.nodes.lookup "node-1" = none := by
  obtain ⟨table, htable⟩ : ∃ table, runLabels
      (InfoCenterState.step samplePlatform) noNodes nodeAndStartup =
        some table := ⟨_, rfl⟩
  have hfacts : (runLabels (InfoCenterState.step samplePlatform) noNodes
      nodeAndStartup).map (fun table =>
        (rejection (registerNodeRecord samplePlatform 3
          (rivalStartup "10.0.0.1:50061") table).2,
        (table.nodes.lookup "node-1").isSome,
        ((registerNodeRecord samplePlatform 3 (rivalStartup "10.0.0.1:50061")
          table).1.nodes.lookup "node-1").isNone)) =
      some (some (.nameExists "model"), true, true) := by
    decide +kernel
  rw [htable, Option.map_some, Option.some.injEq, Prod.mk.injEq,
    Prod.mk.injEq] at hfacts
  obtain ⟨hrejected, hknown, hgone⟩ := hfacts
  exact ⟨table, reachable_of_runLabels _ htable,
    eq_error_of_rejection hrejected, hknown, Option.isNone_iff_eq_none.mp hgone⟩

end PycloudParallel.NodeTable
