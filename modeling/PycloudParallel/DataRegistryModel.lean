import Mathlib.Data.Int.Notation
import PycloudParallel.FoundationOrderedDict
import PycloudParallel.FoundationTexts

/-!
# The data registry of the InfoCenter

Records of data references with a time to live.  Registering, resolving and
listing prune what has expired; a touch resolves in one locked section and
writes its copy back in another.  Times are microseconds.
-/

namespace PycloudParallel.DataRegistry

open Texts

def secondTicks : ℤ := 1000000

/-- A `DataRef`, which strips its `ref_id` and refuses a blank one. -/
structure DataRef where
  refId : String
  storageId : String
  logicalType : String
  format : String
  sizeBytes : ℕ
  materializeAs : String
  locatorKind : String
  locatorToken : String
  consumeOnRead : Bool
  nodeId : String
  nodeInstanceId : String
  controlAddr : String
  stripped : strip refId = refId
  named : refId ≠ ""
deriving DecidableEq

structure Replica where
  nodeId : String
  nodeInstanceId : String
  controlAddr : String
deriving DecidableEq

structure DataRegistryEntry where
  refId : String
  storageId : String
  logicalType : String
  format : String
  sizeBytes : ℕ
  materializeAs : String
  locatorKind : String
  locatorToken : String
  consumeOnRead : Bool
  nodeId : String
  nodeInstanceId : String
  controlAddr : String
  replicas : List Replica
  createdAt : ℤ
  lastAt : ℤ
  ttlSec : ℤ
  ttl_pos : 1 ≤ ttlSec
deriving DecidableEq

abbrev DataRefs := OrderedDict String DataRegistryEntry

def intOr (value fallback : ℤ) : ℤ :=
  if value = 0 then fallback else value

def defaultTtlSec : ℤ := 3600

structure Registration where
  ref : DataRef
  ttlSec : ℤ
  nodeId : String
  nodeInstanceId : String
  controlAddr : String
  locatorKind : String
  locatorToken : String
  replicas : List Replica
deriving DecidableEq

def normalizedReplicas (replicas : List Replica) : List Replica :=
  (replicas.map fun item =>
    { nodeId := strip item.nodeId
      nodeInstanceId := strip item.nodeInstanceId
      controlAddr := strip item.controlAddr : Replica }).filter
    (·.controlAddr ≠ "")

def registeredEntry (now : ℤ) (call : Registration)
    (existing : Option DataRegistryEntry) : DataRegistryEntry where
  refId := call.ref.refId
  storageId := call.ref.storageId
  logicalType := call.ref.logicalType
  format := orElse call.ref.format "bin"
  sizeBytes := call.ref.sizeBytes
  materializeAs := orElse call.ref.materializeAs "auto"
  locatorKind := strip (orElse call.locatorKind call.ref.locatorKind)
  locatorToken := strip (orElse call.locatorToken call.ref.locatorToken)
  consumeOnRead := call.ref.consumeOnRead
  nodeId := strip (orElse call.nodeId call.ref.nodeId)
  nodeInstanceId := strip (orElse call.nodeInstanceId call.ref.nodeInstanceId)
  controlAddr := strip (orElse call.controlAddr call.ref.controlAddr)
  replicas := normalizedReplicas call.replicas
  createdAt := (existing.map DataRegistryEntry.createdAt).getD now
  lastAt := now
  ttlSec :=
    match existing with
    | none => max 1 (intOr call.ttlSec defaultTtlSec)
    | some entry =>
      max 1 (intOr call.ttlSec (intOr entry.ttlSec defaultTtlSec))
  ttl_pos := by
    cases existing <;> exact le_max_left _ _

def DataRegistryEntry.touched (entry : DataRegistryEntry) (now : ℤ) :
    DataRegistryEntry :=
  { entry with lastAt := now }

def dataRefIsExpired (now : ℤ) (entry : DataRegistryEntry) : Prop :=
  max 1 entry.ttlSec * secondTicks < now - entry.lastAt

instance (now : ℤ) (entry : DataRegistryEntry) :
    Decidable (dataRefIsExpired now entry) :=
  inferInstanceAs (Decidable (_ < _))

def pruneExpired (now : ℤ) (dataRefs : DataRefs) : DataRefs :=
  dataRefs.eraseAll ((dataRefs.items.filter fun item =>
    dataRefIsExpired now item.2).map Prod.fst)

def registerDataRefRecord (now : ℤ) (call : Registration)
    (dataRefs : DataRefs) : DataRefs × DataRegistryEntry :=
  let pruned := pruneExpired now dataRefs
  let entry := registeredEntry now call (pruned.lookup call.ref.refId)
  (pruned.set entry.refId entry, entry)

/-- `resolve_data_ref_record`; `none` for the `KeyError`. -/
def resolveDataRefRecord (now : ℤ) (refId : String) (dataRefs : DataRefs) :
    DataRefs × Option DataRegistryEntry :=
  if strip refId = "" then (dataRefs, none)
  else
    let pruned := pruneExpired now dataRefs
    (pruned, pruned.lookup (strip refId))

/-- The second section of `touch_data_ref_record`, with the entry of the
first. -/
def writeTouched (now : ℤ) (entry : DataRegistryEntry) (dataRefs : DataRefs) :
    DataRefs :=
  dataRefs.set entry.refId (entry.touched now)

def releaseDataRefRecord (refId : String) (dataRefs : DataRefs) :
    DataRefs × Bool :=
  if strip refId = "" then (dataRefs, false)
  else (dataRefs.erase (strip refId), (dataRefs.lookup (strip refId)).isSome)

theorem lookup_pruneExpired (now : ℤ) (dataRefs : DataRefs) (refId : String) :
    (pruneExpired now dataRefs).lookup refId =
      (dataRefs.lookup refId).bind fun entry =>
        if dataRefIsExpired now entry then none else some entry := by
  rw [pruneExpired, OrderedDict.lookup_eraseAll]
  have hmem : refId ∈ (dataRefs.items.filter fun item =>
      dataRefIsExpired now item.2).map Prod.fst ↔
      ∃ entry, dataRefs.lookup refId = some entry ∧
        dataRefIsExpired now entry := by
    simp only [List.mem_map, List.mem_filter, Prod.exists,
      OrderedDict.mem_items, decide_eq_true_eq]
    constructor
    · rintro ⟨_, entry, hentry, rfl⟩
      exact ⟨entry, hentry⟩
    · rintro ⟨entry, hentry⟩
      exact ⟨refId, entry, hentry, rfl⟩
  cases hfound : dataRefs.lookup refId with
  | none =>
    split <;> rfl
  | some entry =>
    by_cases hexpired : dataRefIsExpired now entry
    · rw [if_pos (hmem.mpr ⟨entry, hfound, hexpired⟩), Option.bind_some,
        if_pos hexpired]
    · have hkept : ¬∃ other, dataRefs.lookup refId = some other ∧
          dataRefIsExpired now other := by
        rintro ⟨other, hother, hother'⟩
        rw [hfound] at hother
        cases hother
        exact hexpired hother'
      rw [if_neg (hkept ∘ hmem.mp), Option.bind_some, if_neg hexpired]

structure System where
  clock : ℤ
  dataRefs : DataRefs
  touching : OrderedDict ℕ DataRegistryEntry

inductive Section
  | register (call : Registration)
  | resolve (refId : String)
  | touchRead (thread : ℕ) (refId : String)
  | touchWrite (thread : ℕ)
  | release (refId : String)

namespace System

def initial (clock : ℤ) : System where
  clock := clock
  dataRefs := ∅
  touching := ∅

def take (system : System) (now : ℤ) : Section → Option System
  | .register call => some { system with
      clock := now
      dataRefs := (registerDataRefRecord now call system.dataRefs).1 }
  | .resolve refId => some { system with
      clock := now
      dataRefs := (resolveDataRefRecord now refId system.dataRefs).1 }
  | .touchRead thread refId =>
    if thread ∈ system.touching then none
    else
      let resolved := resolveDataRefRecord now refId system.dataRefs
      match resolved.2 with
      | none => some { system with clock := now, dataRefs := resolved.1 }
      | some entry => some {
          clock := now
          dataRefs := resolved.1
          touching := system.touching.set thread entry }
  | .touchWrite thread =>
    (system.touching.lookup thread).map fun entry => {
      clock := now
      dataRefs := writeTouched now entry system.dataRefs
      touching := system.touching.erase thread }
  | .release refId => some { system with
      clock := now
      dataRefs := (releaseDataRefRecord refId system.dataRefs).1 }

end System

end PycloudParallel.DataRegistry
