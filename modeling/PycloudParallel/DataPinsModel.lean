import Mathlib.Data.Finset.Basic
import PycloudParallel.DataRegistryModel

/-!
# Pins of the objects behind data references

The InfoCenter's data endpoints change the registry and then ask nodes to pin
or release the object, one request to one node after the other.  A node keeps
for an object the reference ids that pin it and deletes an object whose last
pin is released.  Every request that is sent is carried out.
-/

namespace PycloudParallel.DataPins

open DataRegistry Texts

variable {ν : Type} [DecidableEq ν]

/-- `normalize_object_id`; `none` for the `ValueError`. -/
def normalizeObjectId (objectId : String) : Option String :=
  let text := ((strip objectId).toList).map Char.toLower
  let digest := text.drop 7
  if text.take 7 = "sha256:".toList ∧ digest.length = 64 ∧
      digest.all (fun char => "0123456789abcdef".toList.contains char) = true
    then some (.ofList text)
  else none

abbrev Place (ν : Type) := ν × String

abbrev Store (ν : Type) := OrderedDict (Place ν) (Finset String)

def pinTargets (entry : DataRegistryEntry) : List String :=
  if entry.replicas ≠ [] then entry.replicas.map Replica.controlAddr
  else if entry.controlAddr ≠ "" then [entry.controlAddr]
  else []

/-- The places that the requests for an entry reach, of the nodes behind its
control addresses. -/
def places (hostOf : String → ν) (entry : DataRegistryEntry) :
    List (Place ν) :=
  match normalizeObjectId (orElse entry.storageId entry.refId) with
  | none => []
  | some objectId => (pinTargets entry).map fun address =>
    (hostOf address, objectId)

/-- `pin_object`; an object that the node does not have is not pinned. -/
def pinObject (place : Place ν) (refId : String) (store : Store ν) : Store ν :=
  match store.lookup place with
  | none => store
  | some pins => store.set place (insert refId pins)

def releaseObject (place : Place ν) (refId : String) (store : Store ν) :
    Store ν :=
  match store.lookup place with
  | none => store
  | some pins =>
    if pins.erase refId = ∅ then store.erase place
    else store.set place (pins.erase refId)

/-- A request in progress: a touch or a release behind its look-up, and the
places that are still to be pinned or released. -/
inductive Request (ν : Type)
  | touching (entry : DataRegistryEntry)
  | releasing (name : String) (entry : DataRegistryEntry)
  | pinning (refId : String) (remaining : List (Place ν))
  | unpinning (refId : String) (remaining : List (Place ν))

structure System (ν : Type) where
  clock : ℤ
  dataRefs : DataRefs
  store : Store ν
  requests : OrderedDict ℕ (Request ν)

inductive Label
  | pass (now : ℤ)
  | register (thread : ℕ) (now : ℤ) (call : Registration)
  | resolve (now : ℤ) (refId : String)
  | touchRead (thread : ℕ) (now : ℤ) (refId : String)
  | touchWrite (thread : ℕ) (now : ℤ)
  | releaseRead (thread : ℕ) (now : ℤ) (refId : String)
  | releasePop (thread : ℕ)
  | pinNext (thread : ℕ)
  | unpinNext (thread : ℕ)
  | finish (thread : ℕ)

namespace System

def initial (clock : ℤ) (stored : OrderedDict (Place ν) Unit) : System ν where
  clock := clock
  dataRefs := ∅
  store := stored.mapValues fun _ _ => ∅
  requests := ∅

variable (hostOf : String → ν)

/-- A look-up that begins a request, which ends with the `KeyError`. -/
def lookUp (system : System ν) (thread : ℕ) (now : ℤ) (refId : String)
    (request : DataRegistryEntry → Request ν) : System ν :=
  let resolved := resolveDataRefRecord now refId system.dataRefs
  let after := { system with clock := now, dataRefs := resolved.1 }
  match resolved.2 with
  | none => after
  | some entry =>
    { after with requests := after.requests.set thread (request entry) }

def step (system : System ν) : Label → Option (System ν)
  | .pass now =>
    if system.clock ≤ now then some { system with clock := now }
    else none
  | .register thread now call =>
    if system.clock ≤ now ∧ thread ∉ system.requests then
      let registered := registerDataRefRecord now call system.dataRefs
      some { system with
        clock := now
        dataRefs := registered.1
        requests := system.requests.set thread
          (.pinning registered.2.refId (places hostOf registered.2)) }
    else none
  | .resolve now refId =>
    if system.clock ≤ now then
      some { system with
        clock := now
        dataRefs := (resolveDataRefRecord now refId system.dataRefs).1 }
    else none
  | .touchRead thread now refId =>
    if system.clock ≤ now ∧ thread ∉ system.requests then
      some (system.lookUp thread now refId .touching)
    else none
  | .touchWrite thread now =>
    match system.requests.lookup thread with
    | some (.touching entry) =>
      if system.clock ≤ now then
        some { system with
          clock := now
          dataRefs := writeTouched now entry system.dataRefs
          requests := system.requests.erase thread }
      else none
    | _ => none
  | .releaseRead thread now refId =>
    if system.clock ≤ now ∧ thread ∉ system.requests then
      some (system.lookUp thread now refId (.releasing refId))
    else none
  | .releasePop thread =>
    match system.requests.lookup thread with
    | some (.releasing name entry) =>
      let released := releaseDataRefRecord name system.dataRefs
      let held := if released.2 = true then places hostOf entry else []
      some { system with
        dataRefs := released.1
        requests := system.requests.set thread (.unpinning entry.refId held) }
    | _ => none
  | .pinNext thread =>
    match system.requests.lookup thread with
    | some (.pinning refId (place :: rest)) =>
      some { system with
        store := pinObject place refId system.store
        requests := system.requests.set thread (.pinning refId rest) }
    | _ => none
  | .unpinNext thread =>
    match system.requests.lookup thread with
    | some (.unpinning refId (place :: rest)) =>
      some { system with
        store := releaseObject place refId system.store
        requests := system.requests.set thread (.unpinning refId rest) }
    | _ => none
  | .finish thread =>
    match system.requests.lookup thread with
    | some (.pinning _ []) | some (.unpinning _ []) =>
      some { system with requests := system.requests.erase thread }
    | _ => none

end System

end PycloudParallel.DataPins
