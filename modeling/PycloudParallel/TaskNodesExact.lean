import PycloudParallel.CodeVersionAgreement
import PycloudParallel.TaskNodesPicks

/-!
# Which nodes a task pool gets

Without requested ids the selection takes as many eligible nodes as it is asked
for, those with the preferred runtime first and each one near the best that
remained.  With requested ids it takes exactly the nodes that carry them.
-/

namespace PycloudParallel.TaskNodes

open Texts OrderedDict
open CodeVersion (TextRules normalizePythonRuntimeSpec)

variable (rules : TextRules)

def Fits (runtime : String) (node : InfoCenterNode) : Prop :=
  runtime = "" ∨ fitsRuntime rules runtime node = some true

instance (runtime : String) (node : InfoCenterNode) :
    Decidable (Fits rules runtime node) :=
  inferInstanceAs (Decidable (_ ∨ _))

def Readable (runtime : String) (node : InfoCenterNode) : Prop :=
  runtime = "" ∨ fitsRuntime rules runtime node ≠ none

def eligible (runtime : String) (nodes : List InfoCenterNode)
    (requireCredit : Bool) : List InfoCenterNode :=
  nodes.filter fun node =>
    node.isAdmitted true requireCredit = true ∧ Fits rules runtime node

namespace SelectionRequest

def prefersRuntimeOf (request : SelectionRequest) (node : InfoCenterNode) : Bool :=
  decide (strip request.preferredRuntimeKey ≠ "") &&
    node.activeRuntimes.contains (strip request.preferredRuntimeKey)

def granted (request : SelectionRequest) (available : ℕ) : ℕ :=
  if request.nodeCount ≤ 0 then available
  else min request.nodeCount.toNat available

end SelectionRequest

/-- The nodes are as many as requested, all eligible, and taken one after the
other: first those that hold the preferred runtime, then the others once none of
the first is left, each near the best of its group. -/
structure SelectsByScore (candidates : List InfoCenterNode)
    (request : SelectionRequest) (selected : List InfoCenterNode) : Prop where
  length_eq : selected.length = request.granted candidates.length
  nodup : selected.Nodup
  subset : selected ⊆ candidates
  groups : ∃ hot hotLeft cold coldLeft,
    selected = hot ++ cold ∧
    Picks NearBest (candidates.filter request.prefersRuntimeOf) hot hotLeft ∧
    Picks NearBest
      (candidates.filter fun node => !request.prefersRuntimeOf node) cold
      coldLeft ∧
    (cold = [] ∨ hotLeft = [])

/-- The nodes carry exactly the requested ids, are listed, can be deployed to
and are not known to be incompatible; no credit is asked of them. -/
structure SelectsRequested (key : InfoCenterNode → String) (runtime : String)
    (nodes : List InfoCenterNode) (ids : List String)
    (selected : List InfoCenterNode) : Prop where
  ids_eq : selected.map key = ids
  listed : ∀ node ∈ selected, node ∈ nodes
  deployable : ∀ node ∈ selected, node.isAdmitted true false = true
  fits : ∀ node ∈ selected, Fits rules runtime node

variable {rules}

variable {nodes candidates selected : List InfoCenterNode} {runtime id : String}
  {found : OrderedDict String InfoCenterNode} {ids : List String}

theorem filterNodesByRuntime_eq_some {fitting : List InfoCenterNode} :
    filterNodesByRuntime rules runtime nodes = some fitting ↔
      (∀ node ∈ nodes, Readable rules runtime node) ∧
      fitting = nodes.filter fun node => Fits rules runtime node := by
  rw [filterNodesByRuntime]
  by_cases hruntime : runtime = ""
  · simp [hruntime, Readable, Fits, eq_comm]
  · rw [if_neg hruntime]
    simp only [Readable, Fits, hruntime, false_or]
    split
    case isTrue hall =>
      have hreadable : ∀ node ∈ nodes, fitsRuntime rules runtime node ≠ none := by
        simpa [List.all_eq_true, Option.isSome_iff_ne_none] using hall
      rw [Option.some_inj, eq_comm, and_iff_right hreadable]
    case isFalse hall =>
      refine iff_of_false (by simp) ?_
      rintro ⟨hreadable, -⟩
      apply hall
      simpa [List.all_eq_true, Option.isSome_iff_ne_none] using hreadable

/-! ## The groups -/

theorem SelectsByScore.of_groups {request : SelectionRequest}
    {hot hotLeft cold coldLeft : List InfoCenterNode}
    (hdistinct : candidates.Nodup)
    (hhot : Picks NearBest (candidates.filter request.prefersRuntimeOf) hot hotLeft)
    (hcold : Picks NearBest
      (candidates.filter fun node => !request.prefersRuntimeOf node) cold coldLeft)
    (hfirst : cold = [] ∨ hotLeft = [])
    (hstop : hotLeft ++ coldLeft = [] ∨ 0 < request.nodeCount ∧
      request.nodeCount ≤ (hot ++ cold).length)
    (hmax : 0 < request.nodeCount → (hot ++ cold).length ≤ request.nodeCount) :
    SelectsByScore candidates request (hot ++ cold) := by
  have hperm : candidates.Perm ((hot ++ cold) ++ (hotLeft ++ coldLeft)) :=
    calc
      candidates.Perm (candidates.filter request.prefersRuntimeOf ++
          candidates.filter fun node => !request.prefersRuntimeOf node) :=
        (List.filter_append_perm _ _).symm
      _ |>.Perm ((hot ++ hotLeft) ++ (cold ++ coldLeft)) :=
        hhot.perm.append hcold.perm
      _ |>.Perm ((hot ++ cold) ++ (hotLeft ++ coldLeft)) := by
        rw [List.append_assoc, List.append_assoc]
        apply List.Perm.append_left
        rw [← List.append_assoc, ← List.append_assoc]
        exact List.perm_append_comm.append_right _
  have hlength : candidates.length =
      (hot ++ cold).length + (hotLeft ++ coldLeft).length := by
    rw [hperm.length_eq, List.length_append]
  constructor
  case length_eq =>
    rw [SelectionRequest.granted]
    obtain hnone | ⟨hpositive, hreached⟩ := hstop
    · rw [hnone, List.length_nil] at hlength
      split
      · omega
      · have := hmax (by omega)
        omega
    · have := hmax hpositive
      split <;> omega
  case nodup =>
    exact (List.nodup_append.mp (hperm.nodup_iff.mp hdistinct)).1
  case subset =>
    intro node hmem
    exact hperm.mem_iff.mpr (List.mem_append_left _ hmem)
  case groups =>
    exact ⟨hot, hotLeft, cold, coldLeft, rfl, hhot, hcold, hfirst⟩

theorem selectFromGroups_spec (request : SelectionRequest)
    {requireCredit : Bool}
    (hdistinct : (candidates.map InfoCenterNode.instanceKey).Nodup)
    (hadmitted : ∀ node ∈ candidates, node.isAdmitted true requireCredit = true)
    :
    ∃ selected, selectFromGroups request.nodeCount
        (candidateGroups (strip request.preferredRuntimeKey) candidates) [] 0 =
          some selected ∧ SelectsByScore candidates request selected := by
  have hgroup := fun (holds : InfoCenterNode → Bool) (selected : List InfoCenterNode)
      (rrCounter : ℕ) =>
    selectFromGroup_spec request.nodeCount (candidates.filter holds) selected
      rrCounter le_rfl
      (hdistinct.sublist (List.filter_sublist.map _))
      (fun node hmem => hadmitted node (List.mem_filter.mp hmem).1)
  by_cases hpreferred : strip request.preferredRuntimeKey = ""
  · have hholds : request.prefersRuntimeOf = fun _ => false := by
      funext node
      simp [SelectionRequest.prefersRuntimeOf, hpreferred]
    obtain ⟨cold, coldLeft, rrCounter, hrun, hcold, hstop, hmax⟩ :=
      hgroup (fun node => !request.prefersRuntimeOf node) [] 0
    refine ⟨cold, ?_, ?_⟩
    · simp only [hholds, Bool.not_false, List.filter_true, List.nil_append] at hrun
      simp [candidateGroups, hpreferred, selectFromGroups, hrun]
    · have hhot : Picks NearBest (candidates.filter request.prefersRuntimeOf)
          [] [] := by
        rw [hholds, List.filter_false]
        exact .done []
      exact SelectsByScore.of_groups hdistinct.of_map hhot hcold (Or.inr rfl)
        hstop fun hpositive => hmax hpositive (by simp; omega)
  · obtain ⟨hot, hotLeft, rrCounter, hrunHot, hhot, hstopHot, hmaxHot⟩ :=
      hgroup request.prefersRuntimeOf [] 0
    obtain ⟨cold, coldLeft, rrCounter', hrunCold, hcold, hstop, hmax⟩ :=
      hgroup (fun node => !request.prefersRuntimeOf node) hot rrCounter
    have hholds : request.prefersRuntimeOf = fun node =>
        node.activeRuntimes.contains (strip request.preferredRuntimeKey) := by
      funext node
      simp [SelectionRequest.prefersRuntimeOf, hpreferred]
    have hmaxHot := fun hpositive => hmaxHot hpositive (by simp; omega)
    rw [List.nil_append] at hrunHot hstopHot hmaxHot
    simp only [hholds] at hrunHot hrunCold
    rw [candidateGroups, if_pos hpreferred, selectFromGroups, hrunHot]
    simp only [Option.bind_some]
    by_cases hfull : 0 < request.nodeCount ∧ request.nodeCount ≤ hot.length
    · rw [if_pos hfull]
      refine ⟨hot, rfl, ?_⟩
      have hselects := SelectsByScore.of_groups hdistinct.of_map hhot (.done _)
        (Or.inl rfl) (Or.inr (by simpa using hfull)) (by simpa using hmaxHot)
      rwa [List.append_nil] at hselects
    · rw [if_neg hfull, selectFromGroups, hrunCold]
      simp only [Option.bind_some, selectFromGroups, ite_self]
      refine ⟨hot ++ cold, rfl, ?_⟩
      have hleft := hstopHot.resolve_right hfull
      apply SelectsByScore.of_groups hdistinct.of_map hhot hcold (Or.inr hleft)
      · rwa [hleft, List.nil_append]
      · exact fun hpositive => hmax hpositive (hmaxHot hpositive)

/-! ## Requested ids -/

theorem lookup_discovered
    (hdistinct : (nodes.map InfoCenterNode.instanceKey).Nodup)
    (found : OrderedDict String InfoCenterNode) (id : String)
    (node : InfoCenterNode) :
    (nodes.foldl (fun found node =>
        OrderedDict.set found node.instanceKey node) found).lookup id = some node ↔
      node ∈ nodes ∧ node.instanceKey = id ∨
      (∀ other ∈ nodes, other.instanceKey ≠ id) ∧ found.lookup id = some node := by
  induction nodes generalizing found with
  | nil => simp
  | cons first rest ih =>
    simp only [List.map_cons, List.nodup_cons] at hdistinct
    rw [List.foldl_cons, ih hdistinct.2, lookup_set]
    by_cases hfirst : first.instanceKey = id
    · have hrest : ∀ other ∈ rest, other.instanceKey ≠ id := by
        rintro other hmem rfl
        exact hdistinct.1 (hfirst ▸ List.mem_map_of_mem hmem)
      subst hfirst
      simp only [List.mem_cons, if_true, Option.some_inj]
      constructor
      · rintro (⟨hmem, hkey⟩ | ⟨-, rfl⟩)
        · exact absurd hkey (hrest node hmem)
        · exact Or.inl ⟨Or.inl rfl, rfl⟩
      · rintro (⟨rfl | hmem, hkey⟩ | ⟨hnone, -⟩)
        · exact Or.inr ⟨hrest, rfl⟩
        · exact absurd hkey (hrest node hmem)
        · exact absurd rfl (hnone first (Or.inl rfl))
    · rw [if_neg (Ne.symm hfirst)]
      simp only [List.mem_cons, forall_eq_or_imp, ne_eq, hfirst, not_false_eq_true,
        true_and]
      constructor
      · rintro (⟨hmem, hkey⟩ | hnone)
        · exact Or.inl ⟨Or.inr hmem, hkey⟩
        · exact Or.inr hnone
      · rintro (⟨rfl | hmem, hkey⟩ | hnone)
        · exact absurd hkey hfirst
        · exact Or.inl ⟨hmem, hkey⟩
        · exact Or.inr hnone

def carriers (nodes : List InfoCenterNode) (id : String) : List InfoCenterNode :=
  nodes.filter fun node => strip node.nodeId = id

theorem carriers_cons (first : InfoCenterNode) (rest : List InfoCenterNode)
    (id : String) :
    carriers (first :: rest) id =
      if strip first.nodeId = id then first :: carriers rest id
      else carriers rest id := by
  simp [carriers, List.filter_cons]

theorem lookup_uniqueNodeIds (hid : id ≠ "")
    (found : OrderedDict String InfoCenterNode) (duplicates : List String) :
    (uniqueNodeIds nodes found duplicates).1.lookup id =
      (found.lookup id).or (carriers nodes id).head? := by
  induction nodes generalizing found duplicates with
  | nil => simp [uniqueNodeIds, carriers]
  | cons first rest ih =>
    rw [carriers_cons]
    by_cases hfirst : strip first.nodeId = id
    · subst hfirst
      simp only [if_true, List.head?_cons]
      by_cases hmem : strip first.nodeId ∈ found
      · simp only [uniqueNodeIds, hid, hmem, if_false, if_true, ih]
        obtain ⟨node, hlookup⟩ := mem_iff_lookup.mp hmem
        simp [hlookup]
      · simp only [uniqueNodeIds, hid, hmem, if_false, ih,
          lookup_set_self]
        simp [AList.lookup_eq_none.mpr hmem]
    · rw [if_neg hfirst]
      by_cases hblank : strip first.nodeId = ""
      · simp only [uniqueNodeIds, hblank, if_true, ih]
      · by_cases hmem : strip first.nodeId ∈ found
        · simp only [uniqueNodeIds, hblank, hmem, if_false, if_true, ih]
        · simp only [uniqueNodeIds, hblank, hmem, if_false, ih,
            lookup_set_ne found _ (Ne.symm hfirst)]

theorem mem_duplicates (hid : id ≠ "")
    (found : OrderedDict String InfoCenterNode) (duplicates : List String) :
    id ∈ (uniqueNodeIds nodes found duplicates).2 ↔ id ∈ duplicates ∨
      2 ≤ (if id ∈ found then 1 else 0) + (carriers nodes id).length := by
  induction nodes generalizing found duplicates with
  | nil =>
    have hle : ¬2 ≤ if id ∈ found then 1 else 0 := by split <;> omega
    simp [uniqueNodeIds, carriers, hle]
  | cons first rest ih =>
    rw [carriers_cons]
    by_cases hfirst : strip first.nodeId = id
    · subst hfirst
      simp only [if_true, List.length_cons]
      by_cases hmem : strip first.nodeId ∈ found
      · simp only [uniqueNodeIds, hid, hmem, if_false, if_true, ih,
          List.mem_insert_iff]
        simp only [true_or, true_iff]
        exact Or.inr (by omega)
      · simp only [uniqueNodeIds, hid, hmem, if_false, ih,
          mem_set]
        simp only [true_or, if_true]
        rw [Nat.zero_add, Nat.add_comm]
    · rw [if_neg hfirst]
      by_cases hblank : strip first.nodeId = ""
      · simp only [uniqueNodeIds, hblank, if_true, ih]
      · by_cases hmem : strip first.nodeId ∈ found
        · simp [uniqueNodeIds, hblank, hmem, ih, Ne.symm hfirst]
        · simp only [uniqueNodeIds, hblank, hmem, if_false, ih,
            mem_set, Ne.symm hfirst, false_or]

theorem map_lookup_eq_iff (hfound : ∀ id ∈ ids, (found.lookup id).isSome = true)
    :
    ids.map (fun id => found.lookup id) = selected.map some ↔
      ids.filterMap (fun id => found.lookup id) = selected := by
  have hall : ids.map (fun id => found.lookup id) =
      (ids.filterMap fun id => found.lookup id).map some := by
    induction ids with
    | nil => rfl
    | cons id ids ih =>
      obtain ⟨node, hnode⟩ :=
        Option.isSome_iff_exists.mp (hfound id (List.mem_cons_self))
      have hrest := ih fun other hmem => hfound other (List.mem_cons_of_mem id hmem)
      rw [List.map_cons, List.filterMap_cons, hnode, hrest, List.map_cons]
  rw [hall]
  exact (List.map_injective_iff.mpr (Option.some_injective _)).eq_iff

theorem selectRequested_eq_ok :
    selectRequested rules runtime found ids = .ok selected ↔
      ids.map (fun id => found.lookup id) = selected.map some ∧
      (∀ node ∈ selected, node.isAdmitted true false = true) ∧
      ∀ node ∈ selected, Fits rules runtime node := by
  simp only [selectRequested]
  by_cases hfound : ∀ id ∈ ids, (found.lookup id).isSome = true
  · have hmissing : (ids.filter fun id => (found.lookup id).isNone) = [] := by
      rw [List.filter_eq_nil_iff]
      intro id hid
      simpa [Option.isSome_iff_ne_none] using hfound id hid
    rw [if_neg (not_not.mpr hmissing), map_lookup_eq_iff hfound]
    generalize ids.filterMap (fun id => found.lookup id) = nodes
    by_cases hadmitted : ∀ node ∈ nodes, node.isAdmitted true false = true
    · have hblocked : (nodes.filter fun node => !node.isAdmitted true false) =
          [] := by
        simpa [List.filter_eq_nil_iff] using hadmitted
      rw [if_neg (not_not.mpr hblocked)]
      by_cases hreadable : ∀ node ∈ nodes, Readable rules runtime node
      · rw [filterNodesByRuntime_eq_some.mpr ⟨hreadable, rfl⟩]
        have hincompatible : (nodes.filter fun node =>
            !(nodes.filter fun node => Fits rules runtime node).contains node) =
              [] ↔ ∀ node ∈ nodes, Fits rules runtime node := by
          simp +contextual [List.filter_eq_nil_iff]
        simp only [ne_eq, hincompatible]
        split
        case isTrue hnot =>
          refine iff_of_false (by simp) ?_
          rintro ⟨rfl, -, hfits⟩
          exact hnot hfits
        case isFalse hfits =>
          rw [not_not] at hfits
          constructor
          · intro hselected
            cases hselected
            exact ⟨rfl, hadmitted, hfits⟩
          · rintro ⟨rfl, -, -⟩
            rfl
      · have hnone : filterNodesByRuntime rules runtime nodes = none := by
          rw [Option.eq_none_iff_forall_ne_some]
          intro fitting hsome
          exact hreadable (filterNodesByRuntime_eq_some.mp hsome).1
        rw [hnone]
        refine iff_of_false (by simp) ?_
        rintro ⟨rfl, -, hfits⟩
        exact hreadable fun node hmem => (hfits node hmem).imp_right (by simp_all)
    · have hblocked : (nodes.filter fun node => !node.isAdmitted true false) ≠
          [] := by
        simpa [List.filter_eq_nil_iff] using hadmitted
      rw [if_pos hblocked]
      refine iff_of_false (by simp) ?_
      rintro ⟨rfl, hall, -⟩
      exact hadmitted hall
  · have hmissing : (ids.filter fun id => (found.lookup id).isNone) ≠ [] := by
      intro hnil
      apply hfound
      intro id hid
      simpa [Option.isSome_iff_ne_none] using
        List.filter_eq_nil_iff.mp hnil id hid
    rw [if_pos hmissing]
    refine iff_of_false (by simp) ?_
    rintro ⟨hlookups, -⟩
    apply hfound
    intro id hid
    have hmem := List.mem_map_of_mem (f := fun id => found.lookup id) hid
    rw [hlookups] at hmem
    obtain ⟨node, -, hnode⟩ := List.mem_map.mp hmem
    rw [← hnode, Option.isSome_some]

theorem selectRequested_exact {key : InfoCenterNode → String}
    (hfound : ∀ id ∈ ids, ∀ node, found.lookup id = some node ↔
      node ∈ nodes ∧ key node = id) :
    selectRequested rules runtime found ids = .ok selected ↔
      SelectsRequested rules key runtime nodes ids selected := by
  have hlookups : ids.map (fun id => found.lookup id) = selected.map some ↔
      selected.map key = ids ∧ ∀ node ∈ selected, node ∈ nodes := by
    induction ids generalizing selected with
    | nil =>
      cases selected with
      | nil | cons node selected => simp
    | cons id ids ih =>
      have hrest := fun other hmem => hfound other (List.mem_cons_of_mem id hmem)
      cases selected with
      | nil => simp
      | cons node selected =>
        simp only [List.map_cons, List.cons.injEq, List.mem_cons, forall_eq_or_imp,
          ih hrest, hfound id (List.mem_cons_self)]
        tauto
  rw [selectRequested_eq_ok, hlookups]
  constructor
  · rintro ⟨⟨hids, hlisted⟩, hdeployable, hfits⟩
    exact ⟨hids, hlisted, hdeployable, hfits⟩
  · rintro ⟨hids, hlisted, hdeployable, hfits⟩
    exact ⟨⟨hids, hlisted⟩, hdeployable, hfits⟩

theorem buildUniqueNodeIdMap_eq_ok (hids : ∀ id ∈ ids, id ≠ "") :
    buildUniqueNodeIdMap nodes ids = .ok found ↔
      (∀ id ∈ ids, (carriers nodes id).length ≤ 1) ∧
        (uniqueNodeIds nodes ∅ []).1 = found := by
  have hduplicate : ∀ id ∈ ids, id ∈ (uniqueNodeIds nodes ∅ []).2 ↔
      ¬(carriers nodes id).length ≤ 1 := by
    intro id hid
    rw [mem_duplicates (hids id hid)]
    simp [AList.notMem_empty]
    omega
  simp only [buildUniqueNodeIdMap]
  split
  case isTrue hrelevant =>
    refine iff_of_false (by simp) ?_
    rintro ⟨hunique, -⟩
    apply hrelevant
    rw [List.filter_eq_nil_iff]
    intro id hid hrequested
    rw [List.contains_iff_mem] at hrequested
    exact (hduplicate id hrequested).mp hid (hunique id hrequested)
  case isFalse hnone =>
    rw [not_not, List.filter_eq_nil_iff] at hnone
    rw [Except.ok.injEq, and_iff_right]
    intro id hid
    by_contra hmany
    exact hnone id ((hduplicate id hid).mpr hmany)
      (List.contains_iff_mem.mpr hid)

theorem lookup_unique (hid : id ≠ "") (hunique : (carriers nodes id).length ≤ 1)
    (node : InfoCenterNode) :
    (uniqueNodeIds nodes ∅ []).1.lookup id = some node ↔
      node ∈ nodes ∧ strip node.nodeId = id := by
  have hcarrier : node ∈ nodes ∧ strip node.nodeId = id ↔
      node ∈ carriers nodes id := by
    simp [carriers]
  rw [lookup_uniqueNodeIds hid, hcarrier]
  simp only [AList.lookup_empty, Option.none_or]
  match carriers nodes id, hunique with
  | [], _ => simp
  | [first], _ => simp [eq_comm]

theorem selectNodeIds_exact (hids : ∀ id ∈ ids, id ≠ "") :
    ((buildUniqueNodeIdMap nodes ids).bind fun found =>
        selectRequested rules runtime found ids) = .ok selected ↔
      SelectsRequested rules (fun node => strip node.nodeId) runtime nodes ids
        selected ∧ ∀ id ∈ ids, (carriers nodes id).length ≤ 1 := by
  by_cases hunique : ∀ id ∈ ids, (carriers nodes id).length ≤ 1
  · have hfound := (buildUniqueNodeIdMap_eq_ok hids).mpr ⟨hunique, rfl⟩
    rw [hfound, and_iff_left hunique]
    exact selectRequested_exact fun id hid node =>
      lookup_unique (hids id hid) (hunique id hid) node
  · refine iff_of_false ?_ fun hselects => hunique hselects.2
    cases hbuild : buildUniqueNodeIdMap nodes ids with
    | error error => simp [Except.bind]
    | ok found =>
      exact absurd ((buildUniqueNodeIdMap_eq_ok hids).mp hbuild).1 hunique

theorem SelectsRequested.ne_nil {key : InfoCenterNode → String}
    (hselects : SelectsRequested rules key runtime nodes ids selected)
    (hids : ids ≠ []) : selected ≠ [] := by
  rintro rfl
  exact hids hselects.ids_eq.symm

theorem mem_nonblank_ne (hid : id ∈ nonblank ids) : id ≠ "" := by
  simpa using (List.mem_filter.mp hid).2

/-! ## The selection -/

theorem selectUnrequested_spec (rules : TextRules) (runtime : String)
    (hdistinct : (nodes.map InfoCenterNode.instanceKey).Nodup)
    (request : SelectionRequest) :
    (∀ selected, selectUnrequested rules runtime nodes request = .ok selected →
      SelectsByScore (eligible rules runtime nodes request.requireCredit)
        request selected) ∧
    ((∃ selected, selectUnrequested rules runtime nodes request = .ok selected) ↔
      (∀ node ∈ nodes, node.isAdmitted true request.requireCredit = true →
        Readable rules runtime node) ∧
      eligible rules runtime nodes request.requireCredit ≠ []) := by
  have hreadable : (∀ node ∈ nodes.filter fun node =>
      node.isAdmitted true request.requireCredit, Readable rules runtime node) ↔
      ∀ node ∈ nodes, node.isAdmitted true request.requireCredit = true →
        Readable rules runtime node := by
    simp
  have heligible : ((nodes.filter fun node =>
      node.isAdmitted true request.requireCredit).filter fun node =>
        Fits rules runtime node) =
      eligible rules runtime nodes request.requireCredit := by
    rw [List.filter_filter, eligible]
    apply List.filter_congr
    intro node _
    simp [and_comm]
  simp only [selectUnrequested]
  cases hfilter : filterNodesByRuntime rules runtime (nodes.filter fun node =>
      node.isAdmitted true request.requireCredit) with
  | none =>
    refine ⟨by simp, iff_of_false (by simp) ?_⟩
    rintro ⟨hall, -⟩
    rw [filterNodesByRuntime_eq_some.mpr ⟨hreadable.mpr hall, rfl⟩] at hfilter
    cases hfilter
  | some candidates =>
    obtain ⟨hall, hcandidates⟩ := filterNodesByRuntime_eq_some.mp hfilter
    rw [heligible] at hcandidates
    subst hcandidates
    cases hlist : eligible rules runtime nodes request.requireCredit with
    | nil =>
      by_cases hany : runtime = "" <;> simp [hany]
    | cons first rest =>
      have hadmitted : ∀ node ∈ eligible rules runtime nodes request.requireCredit,
          node.isAdmitted true request.requireCredit = true := by
        intro node hmem
        exact (of_decide_eq_true (List.mem_filter.mp hmem).2).1
      have hkeys : ((eligible rules runtime nodes request.requireCredit).map
          InfoCenterNode.instanceKey).Nodup :=
        hdistinct.sublist (List.filter_sublist.map _)
      obtain ⟨selected, hrun, hselects⟩ :=
        selectFromGroups_spec request hkeys hadmitted
      rw [hlist] at hrun hselects
      simp only [hrun]
      constructor
      · intro other hother
        cases hother
        exact hselects
      · exact iff_of_true ⟨selected, rfl⟩
          ⟨hreadable.mp hall, List.cons_ne_nil first rest⟩

theorem SelectsByScore.ne_nil {request : SelectionRequest}
    (hselects : SelectsByScore candidates request selected)
    (hcandidates : candidates ≠ []) : selected ≠ [] := by
  have hpositive := List.length_pos_iff.mpr hcandidates
  have hlength := hselects.length_eq
  rw [SelectionRequest.granted] at hlength
  apply List.ne_nil_of_length_pos
  split at hlength <;> omega

/-- Without requested ids a selection succeeds exactly if the runtimes can be
read and some node is eligible, and it selects by score; with requested ids it
returns exactly the nodes that carry them, and otherwise raises. -/
theorem selectTaskNodes_exact (rules : TextRules) {nodes : List InfoCenterNode}
    (hdistinct : (nodes.map InfoCenterNode.instanceKey).Nodup)
    (request : SelectionRequest) :
    (request.requestedInstanceIds = [] → request.requestedNodeIds = [] →
      (∀ selected, selectTaskNodes rules nodes request = .ok selected →
        ∃ runtime,
          normalizePythonRuntimeSpec rules request.runtime = some runtime ∧
          SelectsByScore (eligible rules runtime nodes request.requireCredit)
            request selected) ∧
      ((∃ selected, selectTaskNodes rules nodes request = .ok selected) ↔
        ∃ runtime,
          normalizePythonRuntimeSpec rules request.runtime = some runtime ∧
          (∀ node ∈ nodes, node.isAdmitted true request.requireCredit = true →
            Readable rules runtime node) ∧
          eligible rules runtime nodes request.requireCredit ≠ [])) ∧
    (request.requestedInstanceIds ≠ [] → ∀ selected,
      selectTaskNodes rules nodes request = .ok selected ↔ ∃ runtime,
        normalizePythonRuntimeSpec rules request.runtime = some runtime ∧
        SelectsRequested rules InfoCenterNode.instanceKey runtime nodes
          request.requestedInstanceIds selected) ∧
    (request.requestedInstanceIds = [] → request.requestedNodeIds ≠ [] →
      ∀ selected, selectTaskNodes rules nodes request = .ok selected ↔
        ∃ runtime,
          normalizePythonRuntimeSpec rules request.runtime = some runtime ∧
          SelectsRequested rules (fun node => strip node.nodeId) runtime nodes
            request.requestedNodeIds selected ∧
          ∀ id ∈ request.requestedNodeIds, (carriers nodes id).length ≤ 1) := by
  cases hruntime : normalizePythonRuntimeSpec rules request.runtime with
  | none => simp [selectTaskNodes, hruntime]
  | some runtime =>
    simp only [Option.some_inj, exists_eq_left']
    have hnonempty : ∀ (result : Except SelectionError (List InfoCenterNode))
        (selected : List InfoCenterNode),
        (result >>= fun selected => if selected = [] then
          .error .nothingSelected else .ok selected) = .ok selected ↔
            result = .ok selected ∧ selected ≠ [] := by
      intro result selected
      cases result with
      | error error => simp [bind, Except.bind]
      | ok taken =>
        simp only [bind, Except.bind, Except.ok.injEq]
        split
        case isTrue hnil =>
          subst hnil
          refine iff_of_false (by simp) ?_
          rintro ⟨rfl, hselected⟩
          exact hselected rfl
        case isFalse hsome =>
          rw [Except.ok.injEq]
          constructor
          · rintro rfl
            exact ⟨rfl, hsome⟩
          · exact And.left
    refine ⟨?_, ?_, ?_⟩
    · intro hinstances hnodes
      obtain ⟨hsound, hsucceeds⟩ :=
        selectUnrequested_spec rules runtime hdistinct request
      simp only [selectTaskNodes, hruntime, hinstances, hnodes, ne_eq,
        not_true_eq_false, if_false, hnonempty]
      constructor
      · intro selected hselected
        exact hsound selected hselected.1
      · rw [← hsucceeds]
        constructor
        · rintro ⟨selected, hselected, -⟩
          exact ⟨selected, hselected⟩
        · rintro ⟨selected, hselected⟩
          exact ⟨selected, hselected, (hsound selected hselected).ne_nil
            (hsucceeds.mp ⟨selected, hselected⟩).2⟩
    · intro hinstances selected
      simp only [selectTaskNodes, hruntime, hinstances, ne_eq, not_false_eq_true,
        if_true, hnonempty]
      rw [selectRequested_exact, and_iff_left_of_imp]
      · exact fun hselects => hselects.ne_nil hinstances
      · intro id hid node
        rw [discoveredInstanceMap, lookup_discovered hdistinct]
        simp [AList.lookup_empty]
    · intro hinstances hnodes selected
      simp only [selectTaskNodes, hruntime, hinstances, hnodes, ne_eq,
        not_true_eq_false, not_false_eq_true, if_false, if_true, hnonempty]
      have hids : ∀ id ∈ request.requestedNodeIds, id ≠ "" :=
        fun id => mem_nonblank_ne
      rw [selectNodeIds_exact hids, and_iff_left_of_imp]
      exact fun hselects => hselects.1.ne_nil hnodes

def deployableNode (id : String) (inflight : ℤ) : InfoCenterNode where
  nodeInstanceId := id
  nodeId := "host"
  controlAddr := "tcp"
  healthy := true
  capacity := 1
  inflight := inflight
  credit := 0
  pythonVersion := ""
  activeRuntimes := []
  taskPoolWorkerCapacity := 1
  taskPoolWorkerAvailable := 1
  acceptServiceDeploy := true
  schedulable := true
  drain := false

/-- The third node has so much work that the loads of the others are within the
tolerance. -/
def unevenNodes : List InfoCenterNode :=
  [deployableNode "a" 1, deployableNode "b" 0, deployableNode "c" 100000000000]

def oneNodeRequest : SelectionRequest := ⟨[], [], 1, false, "", ""⟩

theorem unevenNodes_selected :
    selectTaskNodes CodeVersion.sampleRules unevenNodes oneNodeRequest =
      .ok [deployableNode "a" 1] := by
  decide +kernel

theorem selectTaskNodes_exact_unevenNodes : ∃ runtime,
    normalizePythonRuntimeSpec CodeVersion.sampleRules oneNodeRequest.runtime =
        some runtime ∧
      SelectsByScore
        (eligible CodeVersion.sampleRules runtime unevenNodes false)
        oneNodeRequest [deployableNode "a" 1] :=
  ((selectTaskNodes_exact CodeVersion.sampleRules (by decide +kernel)
    oneNodeRequest).1 (by decide) (by decide)).1 _ unevenNodes_selected

/-- The better node is passed over, a requested node without credit is taken, an
id that several nodes carry is refused, and one malformed version is enough to
raise. -/
theorem taskNodes_not_as_asked :
    (selectTaskNodes CodeVersion.sampleRules unevenNodes oneNodeRequest =
        .ok [deployableNode "a" 1] ∧
      score unevenNodes (deployableNode "b" 0) <
        score unevenNodes (deployableNode "a" 1)) ∧
    (selectTaskNodes CodeVersion.sampleRules unevenNodes
        ⟨[], ["a"], 0, true, "", ""⟩ = .ok [deployableNode "a" 1] ∧
      (deployableNode "a" 1).isAdmitted true true = false) ∧
    selectTaskNodes CodeVersion.sampleRules unevenNodes
      ⟨["host"], [], 0, false, "", ""⟩ = .error (.ambiguous ["host"]) ∧
    selectTaskNodes CodeVersion.sampleRules
        [deployableNode "a" 1, { deployableNode "b" 0 with pythonVersion := "x" }]
        ⟨[], [], 0, false, "", "py3"⟩ = .error .malformedRuntime ∧
      eligible CodeVersion.sampleRules "py3"
        [deployableNode "a" 1, { deployableNode "b" 0 with pythonVersion := "x" }]
        false = [deployableNode "a" 1] := by
  refine ⟨⟨unevenNodes_selected, ?_⟩, ?_⟩ <;> decide +kernel

end PycloudParallel.TaskNodes
