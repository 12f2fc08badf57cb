import PycloudParallel.DataPinsModel
import PycloudParallel.DataRegistryTruth

/-!
# Pins that follow the registry

Under one reference id, each pin is needed by the record of that id or is about
to be released, and each place of the record is pinned or about to be.  That
holds in every state of a run in which no pinned record expires, a registration
covers what is pinned under its id, and a record is popped or written back with
the places that it has.
-/

namespace PycloudParallel.DataPins

open DataRegistry Texts OrderedDict

variable {ν : Type}

def Request.pendingFor (refId : String) : Request ν → List (Place ν)
  | .pinning name remaining => if name = refId then remaining else []
  | _ => []

def Request.leavingFor (refId : String) : Request ν → List (Place ν)
  | .unpinning name remaining => if name = refId then remaining else []
  | _ => []

namespace System

def pins (system : System ν) (refId : String) : List (Place ν) :=
  (system.store.items.filter fun item => refId ∈ item.2).map Prod.fst

def pending (system : System ν) (refId : String) : List (Place ν) :=
  system.requests.values.flatMap (Request.pendingFor refId)

def leaving (system : System ν) (refId : String) : List (Place ν) :=
  system.requests.values.flatMap (Request.leavingFor refId)

def KeepsPinned (system : System ν) (now : ℤ) : Prop :=
  ∀ item ∈ system.dataRefs.items, dataRefIsExpired now item.2 →
    system.pins item.1 = [] ∧ system.pending item.1 = []

/-- The condition on a step.  A registration covers what is pinned under its id
and runs beside no release of it; a record is written back with the places that
it has, and popped so beside no registration. -/
def Fits (hostOf : String → ν) (system : System ν) : Label → Prop
  | .pass now | .resolve now _ | .touchRead _ now _ | .releaseRead _ now _ =>
    system.KeepsPinned now
  | .register _ now call =>
    let entry := (registerDataRefRecord now call system.dataRefs).2
    system.KeepsPinned now ∧ system.leaving entry.refId = [] ∧
      ∀ place ∈ system.pins entry.refId ++ system.pending entry.refId,
        place ∈ places hostOf entry
  | .touchWrite thread now =>
    match system.requests.lookup thread with
    | some (.touching entry) =>
      system.KeepsPinned now ∧
        (system.dataRefs.lookup entry.refId).map (places hostOf) =
          some (places hostOf entry)
    | _ => True
  | .releasePop thread =>
    match system.requests.lookup thread with
    | some (.releasing _ entry) =>
      match system.dataRefs.lookup entry.refId with
      | none => True
      | some known => places hostOf known = places hostOf entry ∧
          system.pending entry.refId = []
    | _ => True
  | .pinNext _ | .unpinNext _ | .finish _ => True

def Quiet (system : System ν) : Prop :=
  system.requests.values = []

/-- The places of the live records are pinned, as far as they store the object,
and nothing else is. -/
structure PinsFollow (hostOf : String → ν) (system : System ν) : Prop where
  live_pinned : ∀ refId entry, system.dataRefs.lookup refId = some entry →
    ¬dataRefIsExpired system.clock entry → ∀ place ∈ places hostOf entry,
      place ∈ system.store → place ∈ system.pins refId
  pinned_live : ∀ refId, ∀ place ∈ system.pins refId,
    ∃ entry, system.dataRefs.lookup refId = some entry ∧
      ¬dataRefIsExpired system.clock entry ∧ place ∈ places hostOf entry

theorem mem_pins [DecidableEq ν] {system : System ν} {refId : String} {place : Place ν} :
    place ∈ system.pins refId ↔
      ∃ held, system.store.lookup place = some held ∧ refId ∈ held := by
  simp only [pins, List.mem_map, List.mem_filter, decide_eq_true_eq]
  constructor
  · rintro ⟨⟨found, held⟩, ⟨hheld, hmem⟩, rfl⟩
    exact ⟨held, mem_items.mp hheld, hmem⟩
  · rintro ⟨held, hheld, hmem⟩
    exact ⟨(place, held), ⟨mem_items.mpr hheld, hmem⟩, rfl⟩

end System

section

variable [DecidableEq ν]

variable {other place : Place ν} {refId : String}

theorem mem_pins_pinObject {system : System ν} {name : String} :
    other ∈ { system with store := pinObject place refId system.store }.pins
        name ↔
      other ∈ system.pins name ∨
        (other = place ∧ name = refId ∧ place ∈ system.store) := by
  simp only [System.mem_pins, pinObject]
  cases hheld : system.store.lookup place with
  | none =>
    have habsent : place ∉ system.store := by
      rw [mem_iff_lookup, hheld]
      simp
    simp [habsent]
  | some held =>
    have hpresent : place ∈ system.store :=
      mem_iff_lookup.mpr ⟨held, hheld⟩
    simp only [lookup_set]
    by_cases heq : other = place
    · rw [heq, if_pos rfl, hheld]
      simp [hpresent, or_comm]
    · simp [heq]

theorem mem_pins_releaseObject {system : System ν} {name : String} :
    other ∈ { system with store := releaseObject place refId system.store }.pins
        name ↔
      other ∈ system.pins name ∧ ¬(other = place ∧ name = refId) := by
  simp only [System.mem_pins, releaseObject]
  cases hheld : system.store.lookup place with
  | none =>
    constructor
    · rintro ⟨held, hother, hmem⟩
      refine ⟨⟨held, hother, hmem⟩, fun hsame => ?_⟩
      rw [hsame.1, hheld] at hother
      cases hother
    · exact fun hboth => hboth.1
  | some held =>
    by_cases heq : other = place
    · rw [heq, hheld]
      simp only [true_and, Option.some.injEq, exists_eq_left']
      split
      · next hempty =>
        have honly : ∀ pin ∈ held, pin = refId := by
          intro pin hpin
          by_contra hne
          have hmem : pin ∈ held.erase refId :=
            Finset.mem_erase.mpr ⟨hne, hpin⟩
          rw [hempty] at hmem
          exact Finset.notMem_empty pin hmem
        rw [lookup_erase, if_pos rfl]
        constructor
        · rintro ⟨_, hnone, -⟩
          cases hnone
        · rintro ⟨hmem, hne⟩
          exact absurd (honly name hmem) hne
      · rw [lookup_set_self]
        simp [and_comm]
    · dsimp only
      split
      · rw [lookup_erase, if_neg heq]
        simp [heq]
      · rw [lookup_set_ne _ _ heq]
        simp [heq]

theorem mem_store_pinObject {store : Store ν}
    (hmem : other ∈ pinObject place refId store) : other ∈ store := by
  unfold pinObject at hmem
  split at hmem
  · exact hmem
  · next held hheld =>
    rw [mem_set] at hmem
    obtain rfl | hmem := hmem
    · exact mem_iff_lookup.mpr ⟨held, hheld⟩
    · exact hmem

theorem mem_store_releaseObject {store : Store ν}
    (hmem : other ∈ releaseObject place refId store) : other ∈ store := by
  unfold releaseObject at hmem
  split at hmem
  · exact hmem
  · next held hheld =>
    split at hmem
    · exact (AList.mem_erase.mp hmem).2
    · rw [mem_set] at hmem
      obtain rfl | hmem := hmem
      · exact mem_iff_lookup.mpr ⟨held, hheld⟩
      · exact hmem

end

/-! ## The invariant -/

structure Tracks (hostOf : String → ν) (system : System ν) : Prop where
  ownIds : ∀ refId entry, system.dataRefs.lookup refId = some entry →
    entry.refId = refId ∧ strip refId = refId ∧ refId ≠ ""
  touching : ∀ thread entry,
    system.requests.lookup thread = some (.touching entry) →
      strip entry.refId = entry.refId ∧ entry.refId ≠ ""
  releasing : ∀ thread name entry,
    system.requests.lookup thread = some (.releasing name entry) →
      entry.refId = strip name ∧ strip name ≠ ""
  pinned : ∀ refId, ∀ place ∈ system.pins refId,
    (∃ entry, system.dataRefs.lookup refId = some entry ∧
      place ∈ places hostOf entry) ∨ place ∈ system.leaving refId
  held : ∀ refId entry, system.dataRefs.lookup refId = some entry →
    ∀ place ∈ places hostOf entry, place ∈ system.store →
      place ∈ system.pins refId ∨ place ∈ system.pending refId
  pending : ∀ refId, ∀ place ∈ system.pending refId,
    ∃ entry, system.dataRefs.lookup refId = some entry ∧
      place ∈ places hostOf entry
  leaving : ∀ refId, ∀ place ∈ system.leaving refId,
    system.dataRefs.lookup refId = none
  fresh : system.KeepsPinned system.clock

namespace Tracks

variable {hostOf : String → ν} {system : System ν} {now : ℤ}

variable {entry : DataRegistryEntry} {place : Place ν} {refId : String}
  {thread : ℕ}

theorem lookup_of_set {other : ℕ} {request found : Request ν}
    (hfound : (system.requests.set thread request).lookup other = some found)
    (hne : found ≠ request) : system.requests.lookup other = some found := by
  rw [lookup_set] at hfound
  split at hfound
  · exact absurd (Option.some.inj hfound).symm hne
  · exact hfound

theorem not_expired (hkeeps : system.KeepsPinned now)
    (hentry : system.dataRefs.lookup refId = some entry)
    (hplace : place ∈ system.pins refId ∨ place ∈ system.pending refId) :
    ¬dataRefIsExpired now entry := by
  intro hexpired
  obtain ⟨hpins, hpending⟩ :=
    hkeeps (refId, entry) (mem_items.mpr hentry) hexpired
  obtain hplace | hplace := hplace
  · rw [hpins] at hplace
    cases hplace
  · rw [hpending] at hplace
    cases hplace

theorem pass (htracks : Tracks hostOf system)
    (hkeeps : system.KeepsPinned now) :
    Tracks hostOf { system with clock := now } :=
  { htracks with fresh := hkeeps }

theorem lookup_prune_of_not_expired
    (hentry : system.dataRefs.lookup refId = some entry)
    (hfresh : ¬dataRefIsExpired now entry) :
    (pruneExpired now system.dataRefs).lookup refId = some entry := by
  rw [lookup_pruneExpired, hentry, Option.bind_some, if_neg hfresh]

theorem lookup_of_prune {dataRefs : DataRefs}
    (hentry : (pruneExpired now dataRefs).lookup refId = some entry) :
    dataRefs.lookup refId = some entry ∧ ¬dataRefIsExpired now entry := by
  rw [lookup_pruneExpired, Option.bind_eq_some_iff] at hentry
  obtain ⟨found, hfound, hkept⟩ := hentry
  split at hkept
  · cases hkept
  · next hfresh =>
    cases hkept
    exact ⟨hfound, hfresh⟩

section

variable (htracks : Tracks hostOf system)

include htracks

theorem prune (hkeeps : system.KeepsPinned now) : Tracks hostOf { system with
      clock := now
      dataRefs := pruneExpired now system.dataRefs } where
  ownIds refId entry hentry := htracks.ownIds refId entry
    (lookup_of_prune hentry).1
  touching := htracks.touching
  releasing := htracks.releasing
  pinned refId place hplace := by
    obtain ⟨entry, hentry, hneeded⟩ | hleaving :=
      htracks.pinned refId place hplace
    · exact .inl ⟨entry, lookup_prune_of_not_expired hentry
        (not_expired hkeeps hentry (.inl hplace)), hneeded⟩
    · exact .inr hleaving
  held refId entry hentry := htracks.held refId entry (lookup_of_prune hentry).1
  pending refId place hplace := by
    obtain ⟨entry, hentry, hneeded⟩ := htracks.pending refId place hplace
    exact ⟨entry, lookup_prune_of_not_expired hentry
      (not_expired hkeeps hentry (.inr hplace)), hneeded⟩
  leaving refId place hplace := by
    have hnone := htracks.leaving refId place hplace
    show (pruneExpired now system.dataRefs).lookup refId = none
    rw [lookup_pruneExpired, hnone]
    rfl
  fresh item hitem hexpired :=
    absurd hexpired (lookup_of_prune (mem_items.mp hitem)).2

theorem resolve (hkeeps : system.KeepsPinned now) (refId : String) :
    Tracks hostOf { system with
      clock := now
      dataRefs := (resolveDataRefRecord now refId system.dataRefs).1 } := by
  unfold resolveDataRefRecord
  split
  · exact htracks.pass hkeeps
  · exact htracks.prune hkeeps

theorem withRequests {requests : OrderedDict ℕ (Request ν)}
    (htouching : ∀ thread entry,
      requests.lookup thread = some (.touching entry) →
        strip entry.refId = entry.refId ∧ entry.refId ≠ "")
    (hreleasing : ∀ thread name entry,
      requests.lookup thread = some (.releasing name entry) →
        entry.refId = strip name ∧ strip name ≠ "")
    (hpending : ∀ refId place, place ∈
      { system with requests := requests }.pending refId ↔
        place ∈ system.pending refId)
    (hleaving : ∀ refId place, place ∈
      { system with requests := requests }.leaving refId ↔
        place ∈ system.leaving refId) :
    Tracks hostOf { system with requests := requests } where
  ownIds := htracks.ownIds
  touching := htouching
  releasing := hreleasing
  pinned refId place hplace := by
    rw [hleaving]
    exact htracks.pinned refId place hplace
  held refId entry hentry place hplace hstored := by
    rw [hpending]
    exact htracks.held refId entry hentry place hplace hstored
  pending refId place hplace :=
    htracks.pending refId place ((hpending refId place).mp hplace)
  leaving refId place hplace :=
    htracks.leaving refId place ((hleaving refId place).mp hplace)
  fresh item hitem hexpired := by
    obtain ⟨hpins, hnone⟩ := htracks.fresh item hitem hexpired
    refine ⟨hpins, List.eq_nil_iff_forall_not_mem.mpr fun place hplace => ?_⟩
    rw [hpending, hnone] at hplace
    cases hplace

theorem lookUp (hkeeps : system.KeepsPinned now)
    (hnew : thread ∉ system.requests) (refId : String)
    {request : DataRegistryEntry → Request ν}
    (hpending : ∀ entry name, (request entry).pendingFor name = [])
    (hleaving : ∀ entry name, (request entry).leavingFor name = [])
    (htouching : ∀ entry found, request entry = .touching found → found = entry)
    (hreleasing : ∀ entry name found, request entry = .releasing name found →
      found = entry ∧ name = refId) :
    Tracks hostOf (system.lookUp thread now refId request) := by
  have hresolved := htracks.resolve hkeeps refId
  rw [System.lookUp]
  split
  · exact hresolved
  next entry hentry =>
  have hnone : system.requests.lookup thread = none :=
    AList.lookup_eq_none.mpr hnew
  have hown : entry.refId = strip refId ∧ strip refId ≠ "" := by
    unfold resolveDataRefRecord at hentry
    split at hentry
    · cases hentry
    · next hnamed =>
      exact ⟨(htracks.ownIds _ _ (lookup_of_prune hentry).1).1, hnamed⟩
  apply hresolved.withRequests
  · intro other found hfound
    rw [lookup_set] at hfound
    split at hfound
    · rw [htouching entry found (Option.some.inj hfound), hown.1, strip_strip]
      exact ⟨rfl, hown.2⟩
    · exact htracks.touching other found hfound
  · intro other name found hfound
    rw [lookup_set] at hfound
    split at hfound
    · obtain ⟨rfl, rfl⟩ := hreleasing entry name found (Option.some.inj hfound)
      exact hown
    · exact htracks.releasing other name found hfound
  · exact fun name place => mem_flatMap_values_same hnone (by simp [hpending])
  · exact fun name place => mem_flatMap_values_same hnone (by simp [hleaving])

end

theorem not_expired_now (entry : DataRegistryEntry) (now : ℤ)
    (hnow : entry.lastAt = now) : ¬dataRefIsExpired now entry := by
  have hpos := entry.ttl_pos
  rw [dataRefIsExpired_iff, not_not, hnow, Int.sub_self, secondTicks]
  omega

theorem eq_nil_iff_of_mem_iff {α : Type} {list other : List α}
    (hmem : ∀ item, item ∈ list ↔ item ∈ other) : list = [] ↔ other = [] := by
  simp only [List.eq_nil_iff_forall_not_mem, hmem]

theorem register (htracks : Tracks hostOf system) {call : Registration}
    (hnew : thread ∉ system.requests)
    (hfits : system.Fits hostOf (.register thread now call)) :
    Tracks hostOf { system with
      clock := now
      dataRefs := (registerDataRefRecord now call system.dataRefs).1
      requests := system.requests.set thread
        (.pinning (registerDataRefRecord now call system.dataRefs).2.refId
          (places hostOf
            (registerDataRefRecord now call system.dataRefs).2)) } := by
  obtain ⟨hkeeps, hnoLeaving, hcovers⟩ := hfits
  have hpruned := htracks.prune hkeeps
  have hnone : system.requests.lookup thread = none :=
    AList.lookup_eq_none.mpr hnew
  generalize hentry : registeredEntry now call
    ((pruneExpired now system.dataRefs).lookup call.ref.refId) = entry
  have hregistered : registerDataRefRecord now call system.dataRefs =
      ((pruneExpired now system.dataRefs).set entry.refId entry, entry) := by
    rw [registerDataRefRecord, hentry]
  have hname : entry.refId = call.ref.refId := by
    rw [← hentry]
    rfl
  have hnow : entry.lastAt = now := by
    rw [← hentry]
    rfl
  simp only [hregistered] at hnoLeaving hcovers ⊢
  let after : System ν := { system with
    clock := now
    dataRefs := (pruneExpired now system.dataRefs).set entry.refId entry
    requests := system.requests.set thread
      (.pinning entry.refId (places hostOf entry)) }
  change Tracks hostOf after
  have hpending : ∀ name place, place ∈ after.pending name ↔
      (name = entry.refId ∧ place ∈ places hostOf entry) ∨
        place ∈ system.pending name := by
    intro name place
    simp only [after, System.pending, mem_flatMap_values_set,
      Request.pendingFor,
      mem_flatMap_values_iff (d := system.requests) thread, hnone]
    by_cases heq : entry.refId = name
    · simp [heq]
    · simp [heq, Ne.symm heq]
  have hleaving : ∀ name place, place ∈ after.leaving name ↔
      place ∈ system.leaving name :=
    fun _ _ => mem_flatMap_values_same hnone (by simp [Request.leavingFor])
  have hcovered : ∀ place, place ∈ system.pins entry.refId ∨
      place ∈ system.pending entry.refId → place ∈ places hostOf entry :=
    fun place hplace => hcovers place (List.mem_append.mpr hplace)
  have hlookup : ∀ name, after.dataRefs.lookup name =
      if name = entry.refId then some entry
      else (pruneExpired now system.dataRefs).lookup name :=
    fun _ => lookup_set _ _ _ _
  constructor
  case ownIds =>
    intro name found hfound
    rw [hlookup] at hfound
    split at hfound
    · next heq =>
      cases hfound
      rw [heq, hname]
      exact ⟨rfl, call.ref.stripped, call.ref.named⟩
    · exact hpruned.ownIds name found hfound
  case touching =>
    exact fun other found hfound =>
      htracks.touching other found (lookup_of_set hfound (by simp))
  case releasing =>
    exact fun other called found hfound =>
      htracks.releasing other called found (lookup_of_set hfound (by simp))
  case pinned =>
    intro name place hplace
    rw [hlookup]
    by_cases heq : name = entry.refId
    · rw [heq] at hplace
      rw [if_pos heq]
      exact .inl ⟨entry, rfl, hcovered place (.inl hplace)⟩
    · rw [if_neg heq, hleaving]
      exact hpruned.pinned name place hplace
  case held =>
    intro name found hfound place hplace hstored
    rw [hlookup] at hfound
    rw [hpending]
    split at hfound
    · next heq =>
      cases hfound
      exact .inr (.inl ⟨heq, hplace⟩)
    · exact (hpruned.held name found hfound place hplace hstored).imp_right
        .inr
  case pending =>
    intro name place hplace
    rw [hpending] at hplace
    rw [hlookup]
    by_cases heq : name = entry.refId
    · rw [if_pos heq]
      refine ⟨entry, rfl, ?_⟩
      obtain ⟨-, hplace⟩ | hplace := hplace
      · exact hplace
      · rw [heq] at hplace
        exact hcovered place (.inr hplace)
    · rw [if_neg heq]
      obtain ⟨hname, -⟩ | hplace := hplace
      · exact absurd hname heq
      · exact hpruned.pending name place hplace
  case leaving =>
    intro name place hplace
    rw [hleaving] at hplace
    rw [hlookup]
    split
    · next heq =>
      rw [heq, hnoLeaving] at hplace
      cases hplace
    · exact hpruned.leaving name place hplace
  case fresh =>
    intro item hitem hexpired
    have hfound := mem_items.mp hitem
    rw [hlookup] at hfound
    split at hfound
    · rw [← Option.some.inj hfound] at hexpired
      exact absurd hexpired (not_expired_now entry now hnow)
    · exact absurd hexpired (lookup_of_prune hfound).2

theorem places_touched (hostOf : String → ν) (entry : DataRegistryEntry)
    (now : ℤ) : places hostOf (entry.touched now) = places hostOf entry := by
  simp only [places, pinTargets, DataRegistryEntry.touched]
  cases normalizeObjectId (orElse entry.storageId entry.refId) <;> rfl

theorem touchWrite (htracks : Tracks hostOf system)
    (hhand : system.requests.lookup thread = some (.touching entry))
    (hkeeps : system.KeepsPinned now)
    (hplaces : (system.dataRefs.lookup entry.refId).map (places hostOf) =
      some (places hostOf entry)) :
    Tracks hostOf { system with
      clock := now
      dataRefs := writeTouched now entry system.dataRefs
      requests := system.requests.erase thread } := by
  obtain ⟨known, hknown, hsame⟩ := Option.map_eq_some_iff.mp hplaces
  obtain ⟨hstripped, hnamed⟩ := htracks.touching thread entry hhand
  let after : System ν := { system with
    clock := now
    dataRefs := writeTouched now entry system.dataRefs
    requests := system.requests.erase thread }
  change Tracks hostOf after
  have hpending : ∀ name place, place ∈ after.pending name ↔
      place ∈ system.pending name :=
    fun _ _ => mem_flatMap_values_erase hhand (by simp [Request.pendingFor])
  have hleaving : ∀ name place, place ∈ after.leaving name ↔
      place ∈ system.leaving name :=
    fun _ _ => mem_flatMap_values_erase hhand (by simp [Request.leavingFor])
  have hlookup : ∀ name, after.dataRefs.lookup name =
      if name = entry.refId then some (entry.touched now)
      else system.dataRefs.lookup name :=
    fun _ => lookup_set _ _ _ _
  -- The record and the copy that replaces it have the same places.
  have hrecord : ∀ name place,
      (∃ found, system.dataRefs.lookup name = some found ∧
        place ∈ places hostOf found) →
      ∃ found, after.dataRefs.lookup name = some found ∧
        place ∈ places hostOf found := by
    rintro name place ⟨found, hfound, hplace⟩
    rw [hlookup]
    by_cases heq : name = entry.refId
    · rw [heq, hknown] at hfound
      cases hfound
      rw [if_pos heq]
      rw [hsame] at hplace
      rw [← places_touched hostOf entry now] at hplace
      exact ⟨entry.touched now, rfl, hplace⟩
    · rw [if_neg heq]
      exact ⟨found, hfound, hplace⟩
  constructor
  case ownIds =>
    intro name found hfound
    rw [hlookup] at hfound
    split at hfound
    · next heq =>
      cases hfound
      rw [heq]
      exact ⟨rfl, hstripped, hnamed⟩
    · exact htracks.ownIds name found hfound
  case touching =>
    exact fun other found hfound =>
      htracks.touching other found (of_lookup_erase hfound)
  case releasing =>
    exact fun other name found hfound =>
      htracks.releasing other name found (of_lookup_erase hfound)
  case pinned =>
    intro name place hplace
    rw [hleaving]
    exact (htracks.pinned name place hplace).imp_left (hrecord name place)
  case held =>
    intro name found hfound place hplace hstored
    rw [hlookup] at hfound
    rw [hpending]
    split at hfound
    · next heq =>
      cases hfound
      rw [heq]
      apply htracks.held entry.refId known hknown place _ hstored
      rw [hsame, ← places_touched hostOf entry now]
      exact hplace
    · exact htracks.held name found hfound place hplace hstored
  case pending =>
    intro name place hplace
    rw [hpending] at hplace
    exact hrecord name place (htracks.pending name place hplace)
  case leaving =>
    intro name place hplace
    rw [hleaving] at hplace
    have hnone := htracks.leaving name place hplace
    rw [hlookup]
    split
    · next heq =>
      rw [heq, hknown] at hnone
      cases hnone
    · exact hnone
  case fresh =>
    intro item hitem hexpired
    have hfound := mem_items.mp hitem
    rw [hlookup] at hfound
    split at hfound
    · rw [← Option.some.inj hfound] at hexpired
      exact absurd hexpired (not_expired_now _ now rfl)
    · obtain ⟨hnoPins, hnoPending⟩ :=
        hkeeps item (mem_items.mpr hfound) hexpired
      rw [eq_nil_iff_of_mem_iff (hpending item.1)]
      exact ⟨hnoPins, hnoPending⟩

theorem releasePop (htracks : Tracks hostOf system) {name : String}
    (hhand : system.requests.lookup thread = some (.releasing name entry))
    (hfits : system.Fits hostOf (.releasePop thread)) :
    Tracks hostOf { system with
      dataRefs := (releaseDataRefRecord name system.dataRefs).1
      requests := system.requests.set thread (.unpinning entry.refId
        (if (releaseDataRefRecord name system.dataRefs).2 = true
          then places hostOf entry else [])) } := by
  obtain ⟨hname, hnamed⟩ := htracks.releasing thread name entry hhand
  rw [System.Fits, hhand] at hfits
  have hreleased : releaseDataRefRecord name system.dataRefs =
      (system.dataRefs.erase entry.refId,
        (system.dataRefs.lookup entry.refId).isSome) := by
    rw [releaseDataRefRecord, if_neg hnamed, hname]
  simp only [hreleased]
  let after : System ν := { system with
    dataRefs := system.dataRefs.erase entry.refId
    requests := system.requests.set thread (.unpinning entry.refId
      (if (system.dataRefs.lookup entry.refId).isSome = true
        then places hostOf entry else [])) }
  change Tracks hostOf after
  have hpending : ∀ other place, place ∈ after.pending other ↔
      place ∈ system.pending other :=
    fun _ _ => mem_flatMap_values_same hhand (by simp [Request.pendingFor])
  have hleaving : ∀ other place, place ∈ after.leaving other ↔
      (other = entry.refId ∧ (system.dataRefs.lookup entry.refId).isSome = true ∧
        place ∈ places hostOf entry) ∨ place ∈ system.leaving other := by
    intro other place
    simp only [after, System.leaving, mem_flatMap_values_set,
      mem_flatMap_values_iff (d := system.requests) thread, hhand]
    by_cases heq : entry.refId = other
    · cases hfound : system.dataRefs.lookup entry.refId <;>
        simp [Request.leavingFor, heq]
    · simp [Request.leavingFor, heq, Ne.symm heq]
  have hlookup : ∀ other, after.dataRefs.lookup other =
      if other = entry.refId then none else system.dataRefs.lookup other :=
    fun _ => lookup_erase _ _ _
  -- What was popped has the places of the copy, and none of them is pending.
  have hpopped : ∀ known, system.dataRefs.lookup entry.refId = some known →
      places hostOf known = places hostOf entry ∧
        system.pending entry.refId = [] := by
    intro known hknown
    simpa only [hknown] using hfits
  constructor
  case ownIds =>
    intro other found hfound
    rw [hlookup] at hfound
    split at hfound
    · cases hfound
    · exact htracks.ownIds other found hfound
  case touching =>
    exact fun other found hfound =>
      htracks.touching other found (lookup_of_set hfound (by simp))
  case releasing =>
    exact fun other called found hfound =>
      htracks.releasing other called found (lookup_of_set hfound (by simp))
  case pinned =>
    intro other place hplace
    rw [hlookup, hleaving]
    obtain ⟨found, hfound, hneeded⟩ | hgone :=
      htracks.pinned other place hplace
    · by_cases heq : other = entry.refId
      · rw [heq] at hfound
        rw [(hpopped found hfound).1] at hneeded
        exact .inr (.inl ⟨heq, by rw [hfound]; rfl, hneeded⟩)
      · rw [if_neg heq]
        exact .inl ⟨found, hfound, hneeded⟩
    · exact .inr (.inr hgone)
  case held =>
    intro other found hfound place hplace hstored
    rw [hlookup] at hfound
    rw [hpending]
    split at hfound
    · cases hfound
    · exact htracks.held other found hfound place hplace hstored
  case pending =>
    intro other place hplace
    rw [hpending] at hplace
    obtain ⟨found, hfound, hneeded⟩ := htracks.pending other place hplace
    rw [hlookup]
    by_cases heq : other = entry.refId
    · rw [heq] at hfound hplace
      rw [(hpopped found hfound).2] at hplace
      cases hplace
    · rw [if_neg heq]
      exact ⟨found, hfound, hneeded⟩
  case leaving =>
    intro other place hplace
    rw [hleaving] at hplace
    rw [hlookup]
    split
    · rfl
    · next hne =>
      obtain ⟨heq, -⟩ | hplace := hplace
      · exact absurd heq hne
      · exact htracks.leaving other place hplace
  case fresh =>
    intro item hitem hexpired
    have hfound := mem_items.mp hitem
    rw [hlookup] at hfound
    split at hfound
    · cases hfound
    · obtain ⟨hnoPins, hnoPending⟩ :=
        htracks.fresh item (mem_items.mpr hfound) hexpired
      rw [eq_nil_iff_of_mem_iff (hpending item.1)]
      exact ⟨hnoPins, hnoPending⟩

variable [DecidableEq ν]

variable (htracks : Tracks hostOf system)

include htracks

theorem pinNext {rest : List (Place ν)}
    (hhand : system.requests.lookup thread =
      some (.pinning refId (place :: rest))) : Tracks hostOf { system with
      store := pinObject place refId system.store
      requests := system.requests.set thread (.pinning refId rest) } := by
  let after : System ν := { system with
    store := pinObject place refId system.store
    requests := system.requests.set thread (.pinning refId rest) }
  change Tracks hostOf after
  have hpending : ∀ name other, other ∈ system.pending name ↔
      (name = refId ∧ other = place) ∨ other ∈ after.pending name := by
    intro name other
    simp only [after, System.pending, mem_flatMap_values_set,
      mem_flatMap_values_iff (d := system.requests) thread, hhand]
    by_cases heq : refId = name
    · simp [Request.pendingFor, heq, or_assoc]
    · simp [Request.pendingFor, heq, Ne.symm heq]
  have hleaving : ∀ name other, other ∈ after.leaving name ↔
      other ∈ system.leaving name :=
    fun _ _ => mem_flatMap_values_same hhand (by simp [Request.leavingFor])
  have hpins : ∀ name other, other ∈ after.pins name ↔
      other ∈ system.pins name ∨
        (other = place ∧ name = refId ∧ place ∈ system.store) :=
    fun _ _ => mem_pins_pinObject
  have hstore : ∀ other, other ∈ after.store → other ∈ system.store :=
    fun _ => mem_store_pinObject
  have hnext : place ∈ system.pending refId :=
    (hpending refId place).mpr (.inl ⟨rfl, rfl⟩)
  constructor
  case ownIds => exact htracks.ownIds
  case touching =>
    exact fun other found hfound =>
      htracks.touching other found (lookup_of_set hfound (by simp))
  case releasing =>
    exact fun other called found hfound =>
      htracks.releasing other called found (lookup_of_set hfound (by simp))
  case pinned =>
    intro name other hother
    rw [hpins] at hother
    rw [hleaving]
    obtain hother | ⟨rfl, rfl, -⟩ := hother
    · exact htracks.pinned name other hother
    · exact .inl (htracks.pending name other hnext)
  case held =>
    intro name found hfound other hother hstored
    rw [hpins]
    obtain hpinned | hwaiting :=
      htracks.held name found hfound other hother (hstore other hstored)
    · exact .inl (.inl hpinned)
    · rw [hpending] at hwaiting
      obtain ⟨rfl, rfl⟩ | hwaiting := hwaiting
      · exact .inl (.inr ⟨rfl, rfl, hstore other hstored⟩)
      · exact .inr hwaiting
  case pending =>
    intro name other hother
    exact htracks.pending name other ((hpending name other).mpr (.inr hother))
  case leaving =>
    intro name other hother
    rw [hleaving] at hother
    exact htracks.leaving name other hother
  case fresh =>
    intro item hitem hexpired
    obtain ⟨hnoPins, hnoPending⟩ := htracks.fresh item hitem hexpired
    have hother : item.1 ≠ refId := by
      intro heq
      rw [heq] at hnoPending
      rw [hnoPending] at hnext
      cases hnext
    constructor <;> refine List.eq_nil_iff_forall_not_mem.mpr fun other hmem => ?_
    · rw [hpins, hnoPins] at hmem
      obtain hmem | ⟨-, heq, -⟩ := hmem
      · cases hmem
      · exact hother heq
    · have hold := (hpending item.1 other).mpr (.inr hmem)
      rw [hnoPending] at hold
      cases hold

theorem unpinNext {rest : List (Place ν)}
    (hhand : system.requests.lookup thread =
      some (.unpinning refId (place :: rest))) : Tracks hostOf { system with
      store := releaseObject place refId system.store
      requests := system.requests.set thread (.unpinning refId rest) } := by
  let after : System ν := { system with
    store := releaseObject place refId system.store
    requests := system.requests.set thread (.unpinning refId rest) }
  change Tracks hostOf after
  have hpending : ∀ name other, other ∈ after.pending name ↔
      other ∈ system.pending name :=
    fun _ _ => mem_flatMap_values_same hhand (by simp [Request.pendingFor])
  have hleaving : ∀ name other, other ∈ system.leaving name ↔
      (name = refId ∧ other = place) ∨ other ∈ after.leaving name := by
    intro name other
    simp only [after, System.leaving, mem_flatMap_values_set,
      mem_flatMap_values_iff (d := system.requests) thread, hhand]
    by_cases heq : refId = name
    · simp [Request.leavingFor, heq, or_assoc]
    · simp [Request.leavingFor, heq, Ne.symm heq]
  have hpins : ∀ name other, other ∈ after.pins name ↔
      other ∈ system.pins name ∧ ¬(other = place ∧ name = refId) :=
    fun _ _ => mem_pins_releaseObject
  have hstore : ∀ other, other ∈ after.store → other ∈ system.store :=
    fun _ => mem_store_releaseObject
  have hgone : system.dataRefs.lookup refId = none :=
    htracks.leaving refId place ((hleaving refId place).mpr (.inl ⟨rfl, rfl⟩))
  constructor
  case ownIds => exact htracks.ownIds
  case touching =>
    exact fun other found hfound =>
      htracks.touching other found (lookup_of_set hfound (by simp))
  case releasing =>
    exact fun other called found hfound =>
      htracks.releasing other called found (lookup_of_set hfound (by simp))
  case pinned =>
    intro name other hother
    rw [hpins] at hother
    obtain hneeded | hleft := htracks.pinned name other hother.1
    · exact .inl hneeded
    · rw [hleaving] at hleft
      obtain ⟨hname, hplace⟩ | hleft := hleft
      · exact absurd ⟨hplace, hname⟩ hother.2
      · exact .inr hleft
  case held =>
    intro name found hfound other hother hstored
    rw [hpins, hpending]
    obtain hpinned | hwaiting :=
      htracks.held name found hfound other hother (hstore other hstored)
    · refine .inl ⟨hpinned, fun hsame => ?_⟩
      rw [hsame.2, hgone] at hfound
      cases hfound
    · exact .inr hwaiting
  case pending =>
    intro name other hother
    rw [hpending] at hother
    exact htracks.pending name other hother
  case leaving =>
    intro name other hother
    exact htracks.leaving name other ((hleaving name other).mpr (.inr hother))
  case fresh =>
    intro item hitem hexpired
    obtain ⟨hnoPins, hnoPending⟩ := htracks.fresh item hitem hexpired
    constructor
    · refine List.eq_nil_iff_forall_not_mem.mpr fun other hmem => ?_
      rw [hpins, hnoPins] at hmem
      cases hmem.1
    · rw [eq_nil_iff_of_mem_iff (hpending item.1)]
      exact hnoPending

omit [DecidableEq ν] in
theorem finish {request : Request ν}
    (hhand : system.requests.lookup thread = some request)
    (hpending : ∀ name, request.pendingFor name = [])
    (hleaving : ∀ name, request.leavingFor name = []) :
    Tracks hostOf { system with
      requests := system.requests.erase thread } := by
  apply htracks.withRequests
  · exact fun other found hfound =>
      htracks.touching other found (of_lookup_erase hfound)
  · exact fun other name found hfound =>
      htracks.releasing other name found (of_lookup_erase hfound)
  · exact fun name place => mem_flatMap_values_erase hhand (by simp [hpending])
  · exact fun name place => mem_flatMap_values_erase hhand (by simp [hleaving])

end Tracks

/-! ## Runs -/

section

variable [DecidableEq ν] {hostOf : String → ν}

theorem tracks_step {system after : System ν} {label : Label}
    (htracks : Tracks hostOf system) (hfits : system.Fits hostOf label)
    (hstep : system.step hostOf label = some after) : Tracks hostOf after := by
  cases label with
  | pass now =>
    obtain ⟨-, hstep⟩ := Option.ite_none_right_eq_some.mp hstep
    cases hstep
    exact htracks.pass hfits
  | resolve now refId =>
    obtain ⟨-, hstep⟩ := Option.ite_none_right_eq_some.mp hstep
    cases hstep
    exact htracks.resolve hfits refId
  | register thread now call =>
    obtain ⟨hcan, hstep⟩ := Option.ite_none_right_eq_some.mp hstep
    cases hstep
    exact htracks.register hcan.2 hfits
  | touchRead thread now refId =>
    obtain ⟨hcan, hstep⟩ := Option.ite_none_right_eq_some.mp hstep
    cases hstep
    exact htracks.lookUp hfits hcan.2 refId (fun _ _ => rfl)
      (fun _ _ => rfl) (fun _ _ hsame => by cases hsame; rfl)
      (fun _ _ _ hsame => by cases hsame)
  | releaseRead thread now refId =>
    obtain ⟨hcan, hstep⟩ := Option.ite_none_right_eq_some.mp hstep
    cases hstep
    exact htracks.lookUp hfits hcan.2 refId (fun _ _ => rfl)
      (fun _ _ => rfl) (fun _ _ hsame => by cases hsame)
      (fun _ _ _ hsame => by cases hsame; exact ⟨rfl, rfl⟩)
  | touchWrite thread now =>
    simp only [System.step] at hstep
    split at hstep
    case h_2 => cases hstep
    next entry hhand =>
      rw [System.Fits, hhand] at hfits
      rw [Option.ite_none_right_eq_some, Option.some.injEq] at hstep
      rw [← hstep.2]
      exact htracks.touchWrite hhand hfits.1 hfits.2
  | releasePop thread =>
    simp only [System.step] at hstep
    split at hstep
    case h_2 => cases hstep
    next name entry hhand =>
      rw [← Option.some.inj hstep]
      exact htracks.releasePop hhand hfits
  | pinNext thread =>
    simp only [System.step] at hstep
    split at hstep
    case h_2 => cases hstep
    next refId place rest hhand =>
      rw [← Option.some.inj hstep]
      exact htracks.pinNext hhand
  | unpinNext thread =>
    simp only [System.step] at hstep
    split at hstep
    case h_2 => cases hstep
    next refId place rest hhand =>
      rw [← Option.some.inj hstep]
      exact htracks.unpinNext hhand
  | finish thread =>
    simp only [System.step] at hstep
    split at hstep
    case h_3 => cases hstep
    all_goals
      next refId hhand =>
        rw [← Option.some.inj hstep]
        exact htracks.finish hhand
          (fun _ => by simp [Request.pendingFor])
          (fun _ => by simp [Request.leavingFor])

theorem tracks_initial (clock : ℤ) (stored : OrderedDict (Place ν) Unit) :
    Tracks hostOf (System.initial clock stored) where
  ownIds _ _ hfound := by cases hfound
  touching _ _ hfound := by cases hfound
  releasing _ _ _ hfound := by cases hfound
  pinned refId place hplace := by
    obtain ⟨held, hheld, hmem⟩ := System.mem_pins.mp hplace
    simp only [System.initial, lookup_mapValues,
      Option.map_eq_some_iff] at hheld
    obtain ⟨_, -, rfl⟩ := hheld
    exact absurd hmem (Finset.notMem_empty refId)
  held _ _ hfound := by cases hfound
  pending _ _ hplace := by cases hplace
  leaving _ _ _ := rfl
  fresh _ hitem := by cases hitem

omit [DecidableEq ν] in
theorem pinsFollow_of_quiet {system : System ν}
    (htracks : Tracks hostOf system) (hquiet : system.Quiet) :
    system.PinsFollow hostOf where
  live_pinned refId entry hentry _ place hplace hstored := by
    obtain hpinned | hwaiting :=
      htracks.held refId entry hentry place hplace hstored
    · exact hpinned
    · rw [System.pending, hquiet] at hwaiting
      cases hwaiting
  pinned_live refId place hplace := by
    obtain ⟨entry, hentry, hneeded⟩ | hleaving :=
      htracks.pinned refId place hplace
    · exact ⟨entry, hentry,
        Tracks.not_expired htracks.fresh hentry (.inl hplace), hneeded⟩
    · rw [System.leaving, hquiet] at hleaving
      cases hleaving

/-- In every run whose steps fit, the pins follow the registry whenever no
request is in progress. -/
theorem pins_follow_registry (hostOf : String → ν) (clock : ℤ)
    (stored : OrderedDict (Place ν) Unit) {system : System ν}
    (hrun : GuardedRun (System.step hostOf) (System.Fits hostOf)
      (System.initial clock stored) system) (hquiet : system.Quiet) :
    system.PinsFollow hostOf := by
  apply pinsFollow_of_quiet _ hquiet
  exact hrun.invariant (Tracks hostOf) (tracks_initial clock stored)
    fun _ _ _ htracks hfits hstep => tracks_step htracks hfits hstep

end

/-! ## Pins that are lost or kept -/

section

variable [DecidableEq ν]

instance (system : System ν) (now : ℤ) : Decidable (system.KeepsPinned now) :=
  inferInstanceAs (Decidable (∀ item ∈ system.dataRefs.items, _ → _ ∧ _))

instance (system : System ν) : Decidable system.Quiet :=
  inferInstanceAs (Decidable (_ = []))

instance (hostOf : String → ν) (system : System ν) : (label : Label) →
    Decidable (system.Fits hostOf label)
  | .pass now | .resolve now _ | .touchRead _ now _ | .releaseRead _ now _ =>
    inferInstanceAs (Decidable (system.KeepsPinned now))
  | .register _ _ _ => inferInstanceAs (Decidable (_ ∧ _ ∧ ∀ place ∈ _, _))
  | .touchWrite thread now =>
    match hhand : system.requests.lookup thread with
    | some (.touching entry) =>
      decidable_of_iff (system.KeepsPinned now ∧
        (system.dataRefs.lookup entry.refId).map (places hostOf) =
          some (places hostOf entry)) (by rw [System.Fits, hhand])
    | some (.releasing _ _) | some (.pinning _ _) | some (.unpinning _ _)
    | none => isTrue (by rw [System.Fits, hhand]; trivial)
  | .releasePop thread =>
    match hhand : system.requests.lookup thread with
    | some (.releasing _ entry) =>
      match hknown : system.dataRefs.lookup entry.refId with
      | none => isTrue (by simp only [System.Fits, hhand, hknown])
      | some known =>
        decidable_of_iff (places hostOf known = places hostOf entry ∧
          system.pending entry.refId = [])
          (by simp only [System.Fits, hhand, hknown])
    | some (.touching _) | some (.pinning _ _) | some (.unpinning _ _)
    | none => isTrue (by rw [System.Fits, hhand]; trivial)
  | .pinNext _ | .unpinNext _ | .finish _ => isTrue trivial

end

def zerosId : String :=
  .ofList ("sha256:".toList ++ List.replicate 64 '0')

def oneNode (refId : String) (hid : strip refId = refId ∧ refId ≠ "")
    (node : String) : Registration where
  ref := {
    sampleRef with
    refId := refId
    storageId := zerosId
    stripped := hid.1
    named := hid.2 }
  ttlSec := 60
  nodeId := ""
  nodeInstanceId := ""
  controlAddr := ""
  locatorKind := ""
  locatorToken := ""
  replicas := [⟨"", "", node⟩]

def ofA (node : String) : Registration :=
  oneNode "ref-a" (by decide +kernel) node

def ofB (node : String) : Registration :=
  oneNode "ref-b" (by decide +kernel) node

def twoStores : OrderedDict (Place String) Unit :=
  (OrderedDict.set ∅ ("node-1:1", zerosId) ()).set ("node-2:1", zerosId) ()

def registered (thread : ℕ) (now : ℤ) (call : Registration) : List Label :=
  [.register thread now call, .pinNext thread, .finish thread]

def orderlyRun : Option (System String) :=
  checkedRun (System.step id) (System.Fits id) (.initial 0 twoStores)
    (registered 0 1 (ofA "node-1:1") ++ registered 0 2 (ofB "node-1:1") ++
      [.touchRead 1 3 "ref-a", .touchWrite 1 4, .releaseRead 2 5 "ref-b",
        .releasePop 2, .unpinNext 2, .finish 2])

theorem orderlyRun_follows : ∃ system, orderlyRun = some system ∧
    system.pins "ref-a" = [("node-1:1", zerosId)] ∧
    system.pins "ref-b" = [] ∧ system.PinsFollow id := by
  have hfacts : (orderlyRun.map fun system =>
      (decide system.Quiet, system.pins "ref-a", system.pins "ref-b")) =
        some (true, [("node-1:1", zerosId)], []) := by
    decide +kernel
  obtain ⟨system, hsystem, hfacts⟩ := Option.map_eq_some_iff.mp hfacts
  simp only [Prod.mk.injEq, decide_eq_true_eq] at hfacts
  obtain ⟨hquiet, ha, hb⟩ := hfacts
  exact ⟨system, hsystem, ha, hb, pins_follow_registry id 0 twoStores
    (guardedRun_of_checkedRun _ hsystem) hquiet⟩

def expiredRun : Option (System String) :=
  runLabels (System.step id) (.initial 0 twoStores)
    (registered 0 1 (ofA "node-1:1") ++ [.pass 100000000])

def replacedRun : Option (System String) :=
  runLabels (System.step id) (.initial 0 twoStores)
    (registered 0 1 (ofA "node-1:1") ++ registered 0 2 (ofA "node-2:1"))

/-- A registration beside a release of the same id, with the object pinned by
another one too. -/
def overlappedRun : Option (System String) :=
  runLabels (System.step id) (.initial 0 twoStores)
    (registered 0 1 (ofB "node-1:1") ++ registered 0 2 (ofA "node-1:1") ++
      [.releaseRead 1 3 "ref-a", .releasePop 1] ++
      registered 2 4 (ofA "node-1:1") ++ [.unpinNext 1, .finish 1])

/-- A pin is left without a live record by the first two, and the live record
of the third is not pinned. -/
theorem pins_left_and_lost :
    (∃ system, Reachable (System.step id) (.initial 0 twoStores) system ∧
      system.Quiet ∧ expiredRun = some system ∧ ¬system.PinsFollow id) ∧
    (∃ system, Reachable (System.step id) (.initial 0 twoStores) system ∧
      system.Quiet ∧ replacedRun = some system ∧ ¬system.PinsFollow id) ∧
    ∃ system, Reachable (System.step id) (.initial 0 twoStores) system ∧
      system.Quiet ∧ overlappedRun = some system ∧ ¬system.PinsFollow id := by
  let place : Place String := ("node-1:1", zerosId)
  have hexpired : (expiredRun.map fun system =>
      (decide system.Quiet, decide (place ∈ system.pins "ref-a"),
        (system.dataRefs.lookup "ref-a").map fun entry =>
          decide (dataRefIsExpired system.clock entry))) =
        some (true, true, some true) := by
    decide +kernel
  have hreplaced : (replacedRun.map fun system =>
      (decide system.Quiet, decide (place ∈ system.pins "ref-a"),
        (system.dataRefs.lookup "ref-a").map fun entry =>
          decide (place ∈ places id entry))) =
        some (true, true, some false) := by
    decide +kernel
  have hoverlapped : (overlappedRun.map fun system =>
      (decide system.Quiet, (system.store.lookup place).isSome,
        decide (place ∈ system.pins "ref-a"),
        (system.dataRefs.lookup "ref-a").map fun entry =>
          (decide (place ∈ places id entry),
            decide (dataRefIsExpired system.clock entry)))) =
        some (true, true, false, some (true, false)) := by
    decide +kernel
  obtain ⟨expired, hrun, hfacts⟩ := Option.map_eq_some_iff.mp hexpired
  obtain ⟨replaced, hrun', hfacts'⟩ := Option.map_eq_some_iff.mp hreplaced
  obtain ⟨overlapped, hrun'', hfacts''⟩ := Option.map_eq_some_iff.mp hoverlapped
  simp only [Prod.mk.injEq, decide_eq_true_eq, decide_eq_false_iff_not,
    Option.map_eq_some_iff] at hfacts hfacts' hfacts''
  obtain ⟨hquiet, hpinned, entry, hentry, hgone⟩ := hfacts
  obtain ⟨hquiet', hpinned', entry', hentry', hmoved⟩ := hfacts'
  obtain ⟨hquiet'', hstored, hlost, entry'', hentry'', hneeded, hlive⟩ :=
    hfacts''
  refine ⟨⟨expired, reachable_of_runLabels _ hrun, hquiet, hrun, ?_⟩,
    ⟨replaced, reachable_of_runLabels _ hrun', hquiet', hrun', ?_⟩,
    ⟨overlapped, reachable_of_runLabels _ hrun'', hquiet'', hrun'', ?_⟩⟩
  · intro hfollow
    obtain ⟨found, hfound, hfresh, -⟩ :=
      hfollow.pinned_live "ref-a" place hpinned
    rw [hentry] at hfound
    cases hfound
    exact hfresh hgone
  · intro hfollow
    obtain ⟨found, hfound, -, hplace⟩ :=
      hfollow.pinned_live "ref-a" place hpinned'
    rw [hentry'] at hfound
    cases hfound
    exact hmoved hplace
  · intro hfollow
    exact hlost (hfollow.live_pinned "ref-a" entry'' hentry'' hlive place
      hneeded (AList.lookup_isSome.mp hstored))

end PycloudParallel.DataPins
