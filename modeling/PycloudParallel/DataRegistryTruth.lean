import PycloudParallel.DataRegistryModel
import PycloudParallel.FoundationGuardedRun

/-!
# What the data registry resolves

The ledger says what a reference should resolve to: the entry of its latest
registration, renewed by every touch that completes, and gone with a release.
A touch writes back what it read, so the registry follows the ledger as long as
the ledger still has that entry when it does.
-/

namespace PycloudParallel.DataRegistry

open Texts OrderedDict

/-- The entry of the latest registration behind which there is no release, with
the time of the latest registration or completed touch. -/
abbrev Ledger := String → Option DataRegistryEntry

def Ledger.live (ledger : Ledger) (now : ℤ) (refId : String) :
    Option DataRegistryEntry :=
  (ledger refId).bind fun entry =>
    if now - entry.lastAt ≤ entry.ttlSec * secondTicks then some entry else none

structure Recorded where
  system : System
  ledger : Ledger

namespace Recorded

def initial (clock : ℤ) : Recorded where
  system := .initial clock
  ledger := fun _ => none

def note (recorded : Recorded) (now : ℤ) : Section → Ledger
  | .register call =>
    Function.update recorded.ledger call.ref.refId
      (some (registeredEntry now call
        (recorded.ledger.live now call.ref.refId)))
  | .resolve _ => recorded.ledger
  | .touchRead _ _ => recorded.ledger
  | .touchWrite thread =>
    match recorded.system.touching.lookup thread with
    | none => recorded.ledger
    | some entry =>
      Function.update recorded.ledger entry.refId
        ((recorded.ledger entry.refId).map (·.touched now))
  | .release refId => Function.update recorded.ledger (strip refId) none

def step (recorded : Recorded) (label : ℤ × Section) : Option Recorded :=
  if recorded.system.clock ≤ label.1 then
    (recorded.system.take label.1 label.2).map fun system =>
      { system := system, ledger := recorded.note label.1 label.2 }
  else none

/-- A touch writes back while its reference is registered with the metadata
that it read. -/
def Fits (recorded : Recorded) : Section → Prop
  | .touchWrite thread =>
    ∀ entry, recorded.system.touching.lookup thread = some entry →
      (recorded.ledger entry.refId).map (·.touched entry.lastAt) = some entry
  | _ => True

def ResolvesByLedger (recorded : Recorded) : Prop :=
  ∀ now refId, recorded.system.clock ≤ now →
    (resolveDataRefRecord now refId recorded.system.dataRefs).2 =
      recorded.ledger.live now (strip refId)

end Recorded

/-! ## The registry against the ledger -/

theorem dataRefIsExpired_iff {now : ℤ} {entry : DataRegistryEntry} :
    dataRefIsExpired now entry ↔
      ¬now - entry.lastAt ≤ entry.ttlSec * secondTicks := by
  rw [dataRefIsExpired, max_eq_right entry.ttl_pos, not_le]

theorem dataRefIsExpired_mono {now later : ℤ} {entry : DataRegistryEntry}
    (hexpired : dataRefIsExpired now entry) (hle : now ≤ later) :
    dataRefIsExpired later entry := by
  unfold dataRefIsExpired at *
  omega

@[simp] theorem touched_touched (entry : DataRegistryEntry) (now later : ℤ) :
    (entry.touched now).touched later = entry.touched later := rfl

structure Agrees (clock : ℤ) (dataRefs : DataRefs) (ledger : Ledger) :
    Prop where
  kept : ∀ refId entry, dataRefs.lookup refId = some entry →
    ledger refId = some entry
  lost : ∀ refId entry, ledger refId = some entry →
    dataRefs.lookup refId = none → dataRefIsExpired clock entry
  named : ledger "" = none

namespace Agrees

variable {clock now : ℤ} {dataRefs : DataRefs} {ledger : Ledger}

theorem later (hagrees : Agrees clock dataRefs ledger) (hle : clock ≤ now) :
    Agrees now dataRefs ledger where
  kept := hagrees.kept
  lost refId entry hentry hnone :=
    dataRefIsExpired_mono (hagrees.lost refId entry hentry hnone) hle
  named := hagrees.named

variable (hagrees : Agrees now dataRefs ledger)

include hagrees

theorem lookup_prune (refId : String) :
    (pruneExpired now dataRefs).lookup refId = ledger.live now refId := by
  rw [lookup_pruneExpired, Ledger.live]
  cases hfound : dataRefs.lookup refId with
  | some entry =>
    rw [hagrees.kept refId entry hfound, Option.bind_some, Option.bind_some]
    by_cases hexpired : dataRefIsExpired now entry
    · rw [if_pos hexpired, if_neg (dataRefIsExpired_iff.mp hexpired)]
    · rw [if_neg hexpired, if_pos (by
        rwa [dataRefIsExpired_iff, not_not] at hexpired)]
  | none =>
    cases hledger : ledger refId with
    | none => rfl
    | some entry =>
      have hexpired := hagrees.lost refId entry hledger hfound
      rw [Option.bind_some, if_neg (dataRefIsExpired_iff.mp hexpired)]
      rfl

theorem prune : Agrees now (pruneExpired now dataRefs) ledger where
  kept refId entry hentry := by
    rw [hagrees.lookup_prune, Ledger.live, Option.bind_eq_some_iff] at hentry
    obtain ⟨found, hfound, hlive⟩ := hentry
    split at hlive
    · cases hlive
      exact hfound
    · cases hlive
  lost refId entry hentry hnone := by
    rw [hagrees.lookup_prune, Ledger.live, hentry, Option.bind_some] at hnone
    split at hnone
    · cases hnone
    · next hexpired => exact dataRefIsExpired_iff.mpr hexpired
  named := hagrees.named

theorem set {refId : String} (hnamed : refId ≠ "") (entry : DataRegistryEntry) :
    Agrees now (dataRefs.set refId entry)
      (Function.update ledger refId (some entry)) where
  kept other found hfound := by
    rw [lookup_set] at hfound
    rw [Function.update_apply]
    split at hfound
    · next heq => rw [if_pos heq, hfound]
    · next hne => rw [if_neg hne, hagrees.kept other found hfound]
  lost other found hfound hnone := by
    rw [lookup_set] at hnone
    rw [Function.update_apply] at hfound
    split at hnone
    · cases hnone
    · next hne =>
      rw [if_neg hne] at hfound
      exact hagrees.lost other found hfound hnone
  named := by
    rw [Function.update_of_ne hnamed.symm]
    exact hagrees.named

theorem erase (refId : String) :
    Agrees now (dataRefs.erase refId) (Function.update ledger refId none) where
  kept other found hfound := by
    rw [lookup_erase] at hfound
    rw [Function.update_apply]
    split at hfound
    · cases hfound
    · next hne => rw [if_neg hne, hagrees.kept other found hfound]
  lost other found hfound hnone := by
    rw [lookup_erase] at hnone
    rw [Function.update_apply] at hfound
    split at hfound
    · cases hfound
    · next hne =>
      rw [if_neg hne] at hnone
      exact hagrees.lost other found hfound hnone
  named := by
    rw [Function.update_apply]
    split
    · rfl
    · exact hagrees.named

theorem resolve (refId : String) : (resolveDataRefRecord now refId dataRefs).2 =
      ledger.live now (strip refId) := by
  unfold resolveDataRefRecord
  split
  · next hblank =>
    rw [hblank, Ledger.live, hagrees.named]
    rfl
  · exact hagrees.lookup_prune (strip refId)

theorem resolved (refId : String) :
    Agrees now (resolveDataRefRecord now refId dataRefs).1 ledger := by
  unfold resolveDataRefRecord
  split
  · exact hagrees
  · exact hagrees.prune

theorem release (refId : String) :
    Agrees now (releaseDataRefRecord refId dataRefs).1
      (Function.update ledger (strip refId) none) := by
  unfold releaseDataRefRecord
  split
  · next hblank =>
    have hsame : Function.update ledger (strip refId) none = ledger := by
      rw [Function.update_eq_self_iff, hblank]
      exact hagrees.named.symm
    rw [hsame]
    exact hagrees
  · exact hagrees.erase (strip refId)

end Agrees

/-! ## Runs -/

structure Recorded.Sound (recorded : Recorded) : Prop where
  agrees : Agrees recorded.system.clock recorded.system.dataRefs
    recorded.ledger
  inHand : ∀ thread entry, recorded.system.touching.lookup thread = some entry →
    strip entry.refId = entry.refId ∧ entry.refId ≠ ""
  ownIds : ∀ refId entry, recorded.ledger refId = some entry →
    entry.refId = refId

namespace Recorded.Sound

variable {recorded after : Recorded} {now : ℤ}

variable (hsound : recorded.Sound)

include hsound

theorem resolvesByLedger : recorded.ResolvesByLedger := by
  intro now refId hle
  exact (hsound.agrees.later hle).resolve refId

theorem ownIds_update {refId : String} {entry : Option DataRegistryEntry}
    (hentry : ∀ found, entry = some found → found.refId = refId)
    (other : String) (found : DataRegistryEntry)
    (hfound : Function.update recorded.ledger refId entry other = some found) :
    found.refId = other := by
  rw [Function.update_apply] at hfound
  split at hfound
  · next heq =>
    rw [heq]
    exact hentry found hfound
  · exact hsound.ownIds other found hfound

variable (hle : recorded.system.clock ≤ now)

include hle

theorem register {call : Registration}
    (hstep : recorded.step (now, .register call) = some after) :
    after.Sound := by
  rw [step, if_pos hle] at hstep
  cases hstep
  have hagrees := (hsound.agrees.later hle).prune
  have hlive := (hsound.agrees.later hle).lookup_prune call.ref.refId
  constructor
  · have hset := hagrees.set call.ref.named (registeredEntry now call
      (recorded.ledger.live now call.ref.refId))
    rw [← hlive] at hset
    simp only [note, ← hlive]
    exact hset
  · exact hsound.inHand
  · exact hsound.ownIds_update fun found hfound => by
      cases hfound
      rfl

theorem touchRead {thread : ℕ} {refId : String}
    (hstep : recorded.step (now, .touchRead thread refId) = some after) :
    after.Sound := by
  rw [step, if_pos hle] at hstep
  have hlater := hsound.agrees.later hle
  have hresolved := hlater.resolved refId
  have hresolve := hlater.resolve refId
  simp only [System.take] at hstep
  split at hstep
  · cases hstep
  split at hstep
  · cases hstep
    exact ⟨hresolved, hsound.inHand, hsound.ownIds⟩
  · next entry hentry =>
    cases hstep
    refine ⟨hresolved, ?_, hsound.ownIds⟩
    intro other found hfound
    obtain ⟨rfl, rfl⟩ | hfound := of_lookup_set hfound
    · rw [hentry] at hresolve
      obtain ⟨known, hknown, hlive⟩ := Option.bind_eq_some_iff.mp hresolve.symm
      split at hlive
      · cases hlive
        rw [hsound.ownIds _ _ hknown, strip_strip]
        refine ⟨rfl, fun hblank => ?_⟩
        rw [hblank, hsound.agrees.named] at hknown
        cases hknown
      · cases hlive
    · exact hsound.inHand other found hfound

theorem touchWrite {thread : ℕ} (hfits : recorded.Fits (.touchWrite thread))
    (hstep : recorded.step (now, .touchWrite thread) = some after) :
    after.Sound := by
  rw [step, if_pos hle] at hstep
  cases hhand : recorded.system.touching.lookup thread with
  | none =>
    rw [System.take, hhand] at hstep
    cases hstep
  | some entry =>
    rw [System.take, hhand] at hstep
    cases hstep
    obtain ⟨known, hknown, hsame⟩ :=
      Option.map_eq_some_iff.mp (hfits entry hhand)
    have hrenewed : (recorded.ledger entry.refId).map (·.touched now) =
        some (entry.touched now) := by
      rw [hknown, Option.map_some, ← hsame, touched_touched]
    simp only [note, hhand, hrenewed]
    constructor
    · exact (hsound.agrees.later hle).set (hsound.inHand thread entry hhand).2
        (entry.touched now)
    · intro other found hfound
      exact hsound.inHand other found (of_lookup_erase hfound)
    · exact hsound.ownIds_update fun found hfound => by
        cases hfound
        rfl

end Recorded.Sound

open Recorded

variable {label : ℤ × Section}

theorem clock_le_of_step {recorded after : Recorded}
    (hstep : recorded.step label = some after) :
    recorded.system.clock ≤ label.1 := by
  unfold step at hstep
  split at hstep
  · assumption
  · cases hstep

theorem sound_step {recorded after : Recorded} (hsound : recorded.Sound)
    (hfits : recorded.Fits label.2) (hstep : recorded.step label = some after) :
    after.Sound := by
  have hle := clock_le_of_step hstep
  obtain ⟨now, part⟩ := label
  have hlater := hsound.agrees.later hle
  cases part with
  | register call => exact hsound.register hle hstep
  | touchRead thread refId => exact hsound.touchRead hle hstep
  | touchWrite thread => exact hsound.touchWrite hle hfits hstep
  | resolve refId =>
    rw [step, if_pos hle] at hstep
    cases hstep
    exact ⟨hlater.resolved refId, hsound.inHand, hsound.ownIds⟩
  | release refId =>
    rw [step, if_pos hle] at hstep
    cases hstep
    exact ⟨hlater.release refId, hsound.inHand,
      hsound.ownIds_update fun found hfound => by cases hfound⟩

theorem sound_initial (clock : ℤ) : (initial clock).Sound where
  agrees := ⟨fun _ _ hfound => (by cases hfound), fun _ _ hfound =>
    (by cases hfound), rfl⟩
  inHand _ _ hfound := by cases hfound
  ownIds _ _ hfound := by cases hfound

theorem fits_of_resolvesByLedger {recorded after : Recorded}
    (hsound : recorded.Sound) (hstep : recorded.step label = some after)
    (hresolves : after.ResolvesByLedger) : recorded.Fits label.2 := by
  have hle := clock_le_of_step hstep
  obtain ⟨now, part⟩ := label
  cases part
  case touchWrite thread =>
    intro entry hhand
    rw [step, if_pos hle, System.take, hhand] at hstep
    cases hstep
    obtain ⟨hstripped, hnamed⟩ := hsound.inHand thread entry hhand
    have hwritten : (resolveDataRefRecord now entry.refId
        (writeTouched now entry recorded.system.dataRefs)).2 =
          some (entry.touched now) := by
      have hfresh : ¬dataRefIsExpired now (entry.touched now) := by
        rw [dataRefIsExpired_iff, not_not]
        have hpos := entry.ttl_pos
        have hzero : now - (entry.touched now).lastAt = 0 := Int.sub_self now
        have httl : (entry.touched now).ttlSec = entry.ttlSec := rfl
        rw [hzero, httl, secondTicks]
        omega
      rw [resolveDataRefRecord, hstripped, if_neg hnamed]
      simp only [lookup_pruneExpired, writeTouched,
        lookup_set_self, Option.bind_some, if_neg hfresh]
    have hlaw := hresolves now entry.refId (le_refl now)
    simp only [note, hhand] at hlaw
    rw [hwritten, hstripped] at hlaw
    obtain ⟨noted, hnoted, hlive⟩ := Option.bind_eq_some_iff.mp hlaw.symm
    split at hlive
    · cases hlive
      rw [Function.update_self, Option.map_eq_some_iff] at hnoted
      obtain ⟨known, hknown, hsame⟩ := hnoted
      rw [hknown, Option.map_some]
      exact congrArg some (congrArg (·.touched entry.lastAt) hsame)
    · cases hlive
  all_goals trivial

/-- In every run whose touches all fit, each resolution gives the live entry of
the ledger, and a further section keeps it so exactly when it fits too. -/
theorem resolves_by_ledger (clock : ℤ) {recorded : Recorded}
    (hrun : GuardedRun step (fun before label => before.Fits label.2)
      (initial clock) recorded) :
    recorded.ResolvesByLedger ∧
    ∀ label after, recorded.step label = some after →
      (after.ResolvesByLedger ↔ recorded.Fits label.2) := by
  have hsound : recorded.Sound :=
    hrun.invariant Recorded.Sound (sound_initial clock)
      fun _ _ _ hbefore hfits hstep => sound_step hbefore hfits hstep
  refine ⟨hsound.resolvesByLedger, fun label after hstep => ⟨?_, ?_⟩⟩
  · exact fits_of_resolvesByLedger hsound hstep
  · exact fun hfits => (sound_step hsound hfits hstep).resolvesByLedger

/-! ## A touch beside a release -/

instance (recorded : Recorded) : (part : Section) →
    Decidable (recorded.Fits part)
  | .touchWrite thread =>
    match hhand : recorded.system.touching.lookup thread with
    | none => isTrue fun entry hentry => by rw [hhand] at hentry; cases hentry
    | some entry =>
      decidable_of_iff
        ((recorded.ledger entry.refId).map (·.touched entry.lastAt) =
          some entry)
        ⟨fun hsame found hfound => by
          rw [hhand] at hfound
          cases hfound
          exact hsame, fun hall => hall entry hhand⟩
  | .register _ | .resolve _ | .touchRead _ _ | .release _ => isTrue trivial

def sampleRef : DataRef where
  refId := "ref-1"
  storageId := "ref-1"
  logicalType := "bytes"
  format := "bin"
  sizeBytes := 8
  materializeAs := "auto"
  locatorKind := "node_control"
  locatorToken := "node-1:50061"
  consumeOnRead := false
  nodeId := "node-1"
  nodeInstanceId := "instance-1"
  controlAddr := "node-1:50061"
  stripped := by decide +kernel
  named := by decide

def sampleCall (ttlSec : ℤ) : Registration where
  ref := sampleRef
  ttlSec := ttlSec
  nodeId := ""
  nodeInstanceId := ""
  controlAddr := ""
  locatorKind := ""
  locatorToken := ""
  replicas := []

def touchedRun : Option Recorded :=
  checkedRun step (fun before label => before.Fits label.2) (initial 0)
    [(1, .register (sampleCall 60)), (5, .touchRead 0 "ref-1"),
      (7, .resolve "ref-1"), (9, .touchWrite 0), (9, .touchRead 1 "ref-1")]

theorem touchedRun_resolves : ∃ recorded, touchedRun = some recorded ∧
    recorded.ResolvesByLedger := by
  have hsome : touchedRun.isSome = true := by decide +kernel
  obtain ⟨recorded, hrecorded⟩ := Option.isSome_iff_exists.mp hsome
  exact ⟨recorded, hrecorded,
    (resolves_by_ledger 0 (guardedRun_of_checkedRun _ hrecorded)).1⟩

/-- A release and a registration with another time to live, each between the
sections of a touch. -/
def revivedRun : Option Recorded :=
  runLabels step (initial 0)
    [(1, .register (sampleCall 60)), (2, .touchRead 0 "ref-1"),
      (3, .release "ref-1"), (4, .touchWrite 0)]

def restoredRun : Option Recorded :=
  runLabels step (initial 0)
    [(1, .register (sampleCall 60)), (2, .touchRead 0 "ref-1"),
      (3, .register (sampleCall 120)), (4, .touchWrite 0)]

/-- The first revives the reference, the second restores the older record. -/
theorem touch_revives_and_restores :
    (∃ recorded, Reachable step (initial 0) recorded ∧
      ((resolveDataRefRecord 5 "ref-1" recorded.system.dataRefs).2.isSome =
          true ∧ recorded.ledger "ref-1" = none) ∧
      ¬recorded.ResolvesByLedger) ∧
    ∃ recorded, Reachable step (initial 0) recorded ∧
      ((resolveDataRefRecord 5 "ref-1" recorded.system.dataRefs).2.map
          DataRegistryEntry.ttlSec = some 60 ∧
        (recorded.ledger "ref-1").map DataRegistryEntry.ttlSec = some 120) ∧
      ¬recorded.ResolvesByLedger := by
  have hrevived : (revivedRun.map fun recorded =>
      (recorded.system.clock,
        (resolveDataRefRecord 5 "ref-1" recorded.system.dataRefs).2.isSome,
        recorded.ledger "ref-1", recorded.ledger (strip "ref-1"))) =
      some (4, true, none, none) := by
    decide +kernel
  have hrestored : (restoredRun.map fun recorded =>
      (recorded.system.clock,
        (resolveDataRefRecord 5 "ref-1" recorded.system.dataRefs).2.map
          DataRegistryEntry.ttlSec,
        (recorded.ledger "ref-1").map DataRegistryEntry.ttlSec,
        (recorded.ledger.live 5 (strip "ref-1")).map
          DataRegistryEntry.ttlSec)) =
      some (4, some 60, some 120, some 120) := by
    decide +kernel
  obtain ⟨revived, hrun, hfacts⟩ := Option.map_eq_some_iff.mp hrevived
  obtain ⟨restored, hrun', hfacts'⟩ := Option.map_eq_some_iff.mp hrestored
  simp only [Prod.mk.injEq] at hfacts hfacts'
  obtain ⟨hclock, hresolved, hledger, hstripped⟩ := hfacts
  obtain ⟨hclock', hresolved', hledger', hlive'⟩ := hfacts'
  constructor
  · refine ⟨revived, reachable_of_runLabels _ hrun, ⟨hresolved, hledger⟩, ?_⟩
    intro hlaw
    rw [hlaw 5 "ref-1" (by omega), Ledger.live, hstripped] at hresolved
    cases hresolved
  · refine ⟨restored, reachable_of_runLabels _ hrun',
      ⟨hresolved', hledger'⟩, ?_⟩
    intro hlaw
    rw [hlaw 5 "ref-1" (by omega), hlive'] at hresolved'
    cases hresolved'

end PycloudParallel.DataRegistry
