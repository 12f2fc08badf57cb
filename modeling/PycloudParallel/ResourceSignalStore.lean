import PycloudParallel.FoundationOrderedDict
import Mathlib.Data.List.Sort

/-!
# Resource signals

`ResourceSignalStore`: progress, failure and stop signals are kept in a bounded
log, readiness signals only in their latest version for each resource.  Both
are merged for a reader that passes the cursor of its last answer.

The operations of the store, the payload of a signal and its time are left out:
no answer to a reader depends on them.
-/

namespace PycloudParallel.ResourceSignals

open OrderedDict

inductive SignalType
  | progress
  | failure
  | stop
  | readiness
  /-- A type that is neither retained nor coalesced. -/
  | other (text : String)
deriving DecidableEq

def SignalType.isRetained : SignalType → Bool
  | .progress | .failure | .stop => true
  | .readiness | .other _ => false

def SignalType.isCoalesced : SignalType → Bool
  | .readiness => true
  | .progress | .failure | .stop | .other _ => false

structure ResourceSignal where
  seq : ℕ
  nodeInstanceId : String
  resourceKind : String
  resourceId : String
  epoch : ℕ
  signalType : SignalType
  state : String
  reason : String
deriving DecidableEq

namespace ResourceSignal

def withSeq (signal : ResourceSignal) (seq : ℕ) : ResourceSignal :=
  { signal with seq := seq }

def isRetained (signal : ResourceSignal) : Bool := signal.signalType.isRetained

def isCoalesced (signal : ResourceSignal) : Bool := signal.signalType.isCoalesced

def resourceKey (signal : ResourceSignal) : String × String :=
  (signal.resourceKind, signal.resourceId)

def coalescedKey (signal : ResourceSignal) : String × String × SignalType :=
  (signal.resourceKind, signal.resourceId, signal.signalType)

end ResourceSignal

def sortedBySeq {α : Type*} (seq : α → ℕ) (items : List α) : List α :=
  items.insertionSort fun first second => seq first ≤ seq second

section

variable {α : Type*} (seq : α → ℕ) (items : List α)

@[simp] theorem mem_sortedBySeq {item : α} :
    item ∈ sortedBySeq seq items ↔ item ∈ items :=
  List.mem_insertionSort _

@[simp] theorem length_sortedBySeq :
    (sortedBySeq seq items).length = items.length :=
  List.length_insertionSort _ _

theorem perm_sortedBySeq : (sortedBySeq seq items).Perm items :=
  List.perm_insertionSort _ _

theorem pairwise_sortedBySeq :
    (sortedBySeq seq items).Pairwise fun first second =>
      seq first ≤ seq second := by
  have : Std.Total fun first second => seq first ≤ seq second :=
    ⟨fun first second => Nat.le_total _ _⟩
  have : IsTrans α fun first second => seq first ≤ seq second :=
    ⟨fun first second third => Nat.le_trans⟩
  exact List.pairwise_insertionSort _ _

end

abbrev CoalescedIndex :=
  OrderedDict (String × String × SignalType) ResourceSignal

structure SignalStore where
  maxlen : ℕ
  maxlen_pos : 0 < maxlen
  seq : ℕ
  signals : List ResourceSignal
  latest : OrderedDict (String × String) ResourceSignal
  coalescedIndex : CoalescedIndex

namespace SignalStore

variable (store : SignalStore)

theorem room_pos (maxlen : ℕ) : 0 < max 1 maxlen := by omega

def create (maxlen : ℕ) : SignalStore where
  maxlen := max 1 maxlen
  maxlen_pos := room_pos maxlen
  seq := 0
  signals := []
  latest := ∅
  coalescedIndex := ∅

def surplusKeys (maxlen : ℕ) (index : CoalescedIndex) :
    List (String × String × SignalType) :=
  let items := sortedBySeq (fun item => item.2.seq) index.items
  (items.take (items.length - maxlen)).map Prod.fst

def eraseKeys (index : CoalescedIndex) :
    List (String × String × SignalType) → CoalescedIndex
  | [] => index
  | key :: rest => eraseKeys (index.erase key) rest

def trim : SignalStore :=
  { store with
    signals := store.signals.drop (store.signals.length - store.maxlen)
    coalescedIndex := eraseKeys store.coalescedIndex
      (surplusKeys store.maxlen store.coalescedIndex) }

/-- `publish` in front of its trimming. -/
def record (published : ResourceSignal) : SignalStore :=
  { store with
    seq := published.seq
    signals :=
      if published.isRetained then store.signals ++ [published]
      else store.signals
    latest := store.latest.set published.resourceKey published
    coalescedIndex :=
      if published.isCoalesced then
        store.coalescedIndex.set published.coalescedKey published
      else store.coalescedIndex }

def publish (signal : ResourceSignal) : SignalStore :=
  (store.record (signal.withSeq (store.seq + 1))).trim

def unseen (cursor : ℕ) : List ResourceSignal :=
  sortedBySeq ResourceSignal.seq
    ((store.signals ++ store.coalescedIndex.values).filter fun signal =>
      cursor < signal.seq)

def normalizedLimit (limit : ℕ) : ℕ := if limit = 0 then 100 else limit

def since (cursor limit : ℕ) : List ResourceSignal :=
  (store.unseen cursor).take (normalizedLimit limit)

end SignalStore

section

variable {store : SignalStore} {index : CoalescedIndex}

theorem lookup_eraseKeys (keys : List (String × String × SignalType))
    (key : String × String × SignalType) :
    (SignalStore.eraseKeys index keys).lookup key =
      if key ∈ keys then none else index.lookup key := by
  induction keys generalizing index with
  | nil => simp [SignalStore.eraseKeys]
  | cons first rest ih =>
    rw [SignalStore.eraseKeys, ih, lookup_erase]
    by_cases hfirst : key = first <;> by_cases hrest : key ∈ rest <;>
      simp [hfirst, hrest]

theorem surplusKeys_eq_nil {maxlen : ℕ} (hroom : index.items.length ≤ maxlen) :
    SignalStore.surplusKeys maxlen index = [] := by
  unfold SignalStore.surplusKeys
  dsimp only
  rw [length_sortedBySeq, Nat.sub_eq_zero_of_le hroom]
  rfl

theorem oldest_of_mem_surplusKeys {maxlen : ℕ} {key : String × String × SignalType}
    {signal other : ResourceSignal} (hlength : index.items.length ≤ maxlen + 1)
    (hkey : key ∈ SignalStore.surplusKeys maxlen index)
    (hlookup : index.lookup key = some signal)
    (hother : other ∈ index.values) : signal.seq ≤ other.seq := by
  unfold SignalStore.surplusKeys at hkey
  dsimp only at hkey
  rw [length_sortedBySeq] at hkey
  have hsorted := pairwise_sortedBySeq
    (fun item : (String × String × SignalType) × ResourceSignal => item.2.seq)
    index.items
  obtain ⟨otherKey, hotherLookup⟩ := mem_values.mp hother
  have hmem : ∀ item, item ∈ sortedBySeq (fun item => item.2.seq) index.items ↔
      item ∈ index.items := fun _ => mem_sortedBySeq _ _
  have hotherMem := (hmem (otherKey, other)).mpr
    (mem_items.mpr hotherLookup)
  generalize sortedBySeq (fun item => item.2.seq) index.items = sorted
    at hkey hsorted hotherMem hmem
  cases sorted with
  | nil => simp at hkey
  | cons oldest rest =>
    have holdest : key = oldest.1 := by
      obtain hcount | hcount : index.items.length - maxlen = 0 ∨
          index.items.length - maxlen = 1 := by omega
      · simp [hcount] at hkey
      · simpa [hcount] using hkey
    have hfound := mem_items.mp
      ((hmem oldest).mp List.mem_cons_self)
    rw [← holdest, hlookup] at hfound
    cases hfound
    rw [List.mem_cons] at hotherMem
    cases hotherMem with
    | inl hsame => rw [← hsame]
    | inr hlater => exact List.rel_of_pairwise_cons hsorted hlater

end

end PycloudParallel.ResourceSignals
