import PycloudParallel.ResultDeliveryFidelity

/-!
# The two lanes of a task payload

A task pool sends the payload of a task as a protobuf Struct or as transport
bytes.  The node decodes a Struct and converts the result, and wraps bytes into
a carrier.  The worker unwraps a carrier, converts once more and resolves the
references before it calls the function.
-/

namespace PycloudParallel.TaskPayload

open Transport Transport.PyValue ResultDelivery

variable {φ α ρ : Type}

/-- The ISO text that the Struct lane makes of a date or time, the limits of the
client and of the node, and the object store of the worker. -/
structure SubmitPolicy (φ α ρ : Type) where
  isoformat : α → Option String
  clientStructFits : PyValue φ α ρ → Bool
  clientBlobFits : Blob → Bool
  nodeBlobFits : Blob → Bool
  resolve : ρ → Option (PyValue φ α ρ)

variable (codecs : Codecs φ α ρ) (policy : SubmitPolicy φ α ρ)

inductive Lane
  | struct (mode : Mode)
  | bytes (mode : Mode)

def inlineScalar : PyValue φ α ρ → PyValue φ α ρ
  | .object other =>
    match policy.isoformat other with
    | some text => .str text
    | none => .object other
  | scalar => scalar

def normalizeInlineStructScalars (value : PyValue φ α ρ) : PyValue φ α ρ :=
  mapAtoms (inlineScalar policy) value

def isTransportEnvelope : PyValue φ α ρ → Bool
  | .dict entries => (entries.lookup transportEnvelopeSentinel).isSome
  | _ => false

def serializeInlinePayload (mode : Mode) (payload : PyValue φ α ρ) :
    Option (PyValue φ α ρ) :=
  let inlineData := normalizeInlineStructScalars policy payload
  let transportValue :=
    if isTransportEnvelope inlineData then some inlineData
    else encodeTransportValue codecs mode inlineData
  ((transportValue.bind (serializeArrowCompatible codecs)).bind
    (structUpdate codecs)).bind fun fields =>
      if policy.clientStructFits fields then some fields else none

inductive TaskSubmitItem (φ α ρ : Type)
  | struct (fields : PyValue φ α ρ)
  | transportPayload (codec : Mode) (blob : Blob)

def buildTaskSubmitItem (lane : Lane) (payload : PyValue φ α ρ) :
    Option (TaskSubmitItem φ α ρ) :=
  match lane with
  | .struct mode =>
    (serializeInlinePayload codecs policy mode payload).map .struct
  | .bytes mode =>
    (encodeTransportPayloadBytes codecs mode payload).bind fun blob =>
      if policy.clientBlobFits blob then some (.transportPayload mode blob)
      else none

inductive KeptPayload (φ α ρ : Type)
  | carrier (codec : Mode) (blob : Blob)
  | decoded (value : PyValue φ α ρ)

/-- The payload that `submit_pool_tasks` keeps of an item; a Struct goes through
`decode_payload_from_transport`, as a result does. -/
def submitPoolTask : TaskSubmitItem φ α ρ → Option (KeptPayload φ α ρ)
  | .transportPayload codec blob =>
    if policy.nodeBlobFits blob then some (.carrier codec blob) else none
  | .struct fields => (ResultDelivery.decodeResultFromTransport codecs fields).map .decoded

mutual

def resolveObjectRefs : PyValue φ α ρ → Option (PyValue φ α ρ)
  | .ref dataRef => policy.resolve dataRef
  | .list items => (resolveItems items).map .list
  | .tuple items => (resolveItems items).map .tuple
  | .dict entries =>
    match dataRefPayload entries with
    | some payload => (codecs.refFrom payload).bind policy.resolve
    | none => (resolveEntries entries).map .dict
  | scalar => some scalar

def resolveItems : List (PyValue φ α ρ) → Option (List (PyValue φ α ρ))
  | [] => some []
  | item :: rest =>
    (resolveObjectRefs item).bind fun result =>
      (resolveItems rest).map (result :: ·)

def resolveEntries : Entries φ α ρ → Option (Entries φ α ρ)
  | [] => some []
  | (key, value) :: rest =>
    (resolveObjectRefs value).bind fun result =>
      (resolveEntries rest).map ((key, result) :: ·)

end

def normalizeInboundPayload (payload : PyValue φ α ρ) :
    Option (PyValue φ α ρ) :=
  (convertDictToArrow codecs payload).bind (resolveObjectRefs codecs policy)

def workerPayload : KeptPayload φ α ρ → Option (PyValue φ α ρ)
  | .carrier codec blob =>
    (decodeTransportPayloadBytes codecs codec blob).bind
      (normalizeInboundPayload codecs policy)
  | .decoded value => normalizeInboundPayload codecs policy value

def acceptedPayload (lane : Lane) (payload : PyValue φ α ρ) :
    Option (KeptPayload φ α ρ) :=
  (buildTaskSubmitItem codecs policy lane payload).bind
    (submitPoolTask codecs policy)

/-! ## What arrives -/

/-- What a lane makes of a scalar: the Struct lane has texts for dates and times
and doubles for the ints that are not tagged. -/
def laneScalar (lane : Lane) (scalar : PyValue φ α ρ) : PyValue φ α ρ :=
  match lane with
  | .struct mode =>
    if mode.isPickle then inlineScalar policy scalar
    else untaggedInts (structNumber codecs) (inlineScalar policy scalar)
  | .bytes _ => scalar

/-- The payload is not nested deeper than the worker converts.  Where the client
encodes with the same limit there is nothing to ask. -/
def WithinNesting (lane : Lane) (payload : PyValue φ α ρ) : Prop :=
  match lane with
  | .struct _ => True
  | .bytes .legacyV1 => True
  | .bytes mode => nesting (throughBytes mode payload) ≤ maxArrowRecursionDepth

variable {codecs policy}

theorem resolveItems_returnable {items : List (PyValue φ α ρ)}
    (hitems : ∀ item ∈ items, item.all returnableNode = true →
      resolveObjectRefs codecs policy item = some item)
    (hall : allItems returnableNode items = true) :
    resolveItems codecs policy items = some items := by
  induction items with
  | nil => rfl
  | cons item rest ih =>
    rw [List.forall_mem_cons] at hitems
    rw [allItems, Bool.and_eq_true] at hall
    rw [resolveItems, hitems.1 hall.1, ih hitems.2 hall.2]
    rfl

theorem resolveEntries_returnable {entries : Entries φ α ρ}
    (hentries : ∀ entry ∈ entries, entry.2.all returnableNode = true →
      resolveObjectRefs codecs policy entry.2 = some entry.2)
    (hall : allEntries returnableNode entries = true) :
    resolveEntries codecs policy entries = some entries := by
  induction entries with
  | nil => rfl
  | cons entry rest ih =>
    rw [List.forall_mem_cons] at hentries
    rw [allEntries, Bool.and_eq_true] at hall
    rw [resolveEntries, hentries.1 hall.1, ih hentries.2 hall.2]
    rfl

theorem resolveObjectRefs_returnable (value : PyValue φ α ρ)
    (hall : value.all returnableNode = true) :
    resolveObjectRefs codecs policy value = some value := by
  induction value using PyValue.induction with
  | atom value hatom =>
    rw [all_atom _ hatom] at hall
    cases value with
    | list items | tuple items | dict entries => cases hatom
    | ref dataRef => cases hall
    | _ => rfl
  | list items ih | tuple items ih =>
    rw [all, Bool.and_eq_true] at hall
    rw [resolveObjectRefs, resolveItems_returnable ih hall.2]
    rfl
  | dict entries ih =>
    rw [all, Bool.and_eq_true] at hall
    have hplain : dataRefPayload entries = none :=
      dataRefPayload_eq_none
        (not_mem_keys_of_plain hall.1 rfl (by decide))
    rw [resolveObjectRefs, hplain]
    simp only [resolveEntries_returnable ih hall.2, Option.map_some]

variable {value payload : PyValue φ α ρ} {mode : Mode}
  {task : KeptPayload φ α ρ}

section

variable (hall : value.all returnableNode = true)

include hall

theorem normalizeInboundPayload_returnable :
    normalizeInboundPayload codecs policy value =
      if nesting value ≤ maxArrowRecursionDepth then some value else none := by
  rw [normalizeInboundPayload, convertDictToArrow,
    rewrite_convert_carried value 0 (all_carried hall), Nat.zero_add]
  split
  · exact resolveObjectRefs_returnable value hall
  · rfl

theorem all_asLists_returnable : value.asLists.all returnableNode = true := by
  refine all_mapAtoms ?_ (fun _ => rfl)
    (fun _ _ hkeys => plainEntries_of_keys hkeys) value hall
  intro atom hatom hnode
  rw [id_eq, all_atom _ hatom]
  exact hnode

theorem all_throughBytes_returnable :
    (throughBytes mode value).all returnableNode = true := by
  rw [throughBytes]
  split
  · exact hall
  · exact all_asLists_returnable hall

end

theorem throughBytes_asLists (mode : Mode) (value : PyValue φ α ρ) :
    (throughBytes mode value).asLists = value.asLists := by
  rw [throughBytes]
  split
  · rfl
  · exact asLists_asLists value

theorem acceptedPayload_bytes
    (haccepted : acceptedPayload codecs policy (.bytes mode) payload =
      some task) :
    ∃ blob, encodeTransportPayloadBytes codecs mode payload = some blob ∧
      task = .carrier mode blob := by
  rw [acceptedPayload, buildTaskSubmitItem, Option.bind_eq_some_iff]
    at haccepted
  obtain ⟨item, hitem, htask⟩ := haccepted
  rw [Option.bind_eq_some_iff] at hitem
  obtain ⟨blob, hencode, hfits⟩ := hitem
  split at hfits
  · rw [Option.some.injEq] at hfits
    rw [← hfits, submitPoolTask] at htask
    split at htask
    · rw [Option.some.injEq] at htask
      exact ⟨blob, hencode, htask.symm⟩
    · cases htask
  · cases hfits

theorem nesting_throughBytes {blob : Blob}
    (hall : payload.all carriedNode = true)
    (hencode : encodeTransportPayloadBytes codecs mode payload = some blob)
    (hnesting : WithinNesting (.bytes mode) payload) :
    nesting (throughBytes mode payload) ≤ maxArrowRecursionDepth := by
  cases mode with
  | legacyV1 =>
    rw [encodeTransportPayloadBytes, Option.bind_eq_some_iff] at hencode
    obtain ⟨json, hserialize, _⟩ := hencode
    have hshallow := shallow payload 0 json hall hserialize
    rw [Nat.zero_add] at hshallow
    exact hshallow
  | structuredV1 | pickleStableV1 | pickleNativeV1 => exact hnesting

theorem arrives_bytes (laws : CodecLaws codecs)
    (hpayload : payload.all returnableNode = true)
    (haccepted : acceptedPayload codecs policy (.bytes mode) payload =
      some task) (hnesting : WithinNesting (.bytes mode) payload) :
    workerPayload codecs policy task = some (throughBytes mode payload) := by
  obtain ⟨blob, hencode, htask⟩ := acceptedPayload_bytes haccepted
  have hcarried := all_carried hpayload
  have hdecode := decode_encodeTransportPayloadBytes_eq laws hcarried hencode
  rw [htask, workerPayload, hdecode, Option.bind_some,
    normalizeInboundPayload_returnable (all_throughBytes_returnable hpayload),
    if_pos (nesting_throughBytes hcarried hencode hnesting)]

/-! ## The Struct lane -/

theorem isAtom_inlineScalar (hatom : value.isAtom = true) :
    (inlineScalar policy value).isAtom = true := by
  cases value with
  | object other =>
    rw [inlineScalar.eq_def]
    simp only
    split <;> rfl
  | _ => exact hatom

theorem all_inlined_returnable (hall : payload.all returnableNode = true) :
    (normalizeInlineStructScalars policy payload).all returnableNode =
      true := by
  refine all_mapAtoms ?_ (fun _ => rfl)
    (fun _ _ hkeys => plainEntries_of_keys hkeys) payload hall
  intro atom hatom hnode
  rw [all_atom _ (isAtom_inlineScalar hatom)]
  cases atom with
  | object other =>
    rw [inlineScalar.eq_def]
    simp only
    split <;> rfl
  | _ => exact hnode

theorem isTransportEnvelope_of_returnable (hnode : returnableNode value = true)
    : isTransportEnvelope value = false := by
  cases value with
  | dict entries =>
    have hkey := lookup_eq_none_of_key
      (not_mem_keys_of_plain hnode rfl
        (show transportEnvelopeSentinel ∈ reservedKeys by decide))
    rw [isTransportEnvelope, hkey]
    rfl
  | _ => rfl

theorem acceptedPayload_struct (hpayload : payload.all returnableNode = true)
    (haccepted : acceptedPayload codecs policy (.struct mode) payload =
      some task) :
    ∃ fields data,
      structOf codecs mode (normalizeInlineStructScalars policy payload) =
          some fields ∧
        ResultDelivery.decodeResultFromTransport codecs fields = some data ∧
        task = .decoded data := by
  rw [acceptedPayload, buildTaskSubmitItem, Option.bind_eq_some_iff]
    at haccepted
  obtain ⟨item, hitem, htask⟩ := haccepted
  rw [Option.map_eq_some_iff] at hitem
  obtain ⟨fields, hfields, hstruct⟩ := hitem
  have hplain : isTransportEnvelope
      (normalizeInlineStructScalars policy payload) = false :=
    isTransportEnvelope_of_returnable
      (test_of_all (all_inlined_returnable hpayload))
  rw [serializeInlinePayload] at hfields
  simp only [hplain, Bool.false_eq_true, if_false] at hfields
  rw [Option.bind_eq_some_iff] at hfields
  obtain ⟨encoded, hencoded, hfits⟩ := hfields
  split at hfits
  · rw [Option.some.injEq] at hfits
    rw [← hstruct, submitPoolTask, Option.map_eq_some_iff] at htask
    obtain ⟨data, hdata, htask⟩ := htask
    rw [hfits] at hencoded
    exact ⟨fields, data, hencoded, hdata, htask.symm⟩
  · cases hfits

theorem throughStruct_inlined (mode : Mode) (payload : PyValue φ α ρ) :
    (throughStruct codecs mode
      (normalizeInlineStructScalars policy payload)).asLists =
        mapAtoms (laneScalar codecs policy (.struct mode)) payload := by
  have hatoms : ∀ atom : PyValue φ α ρ, atom.isAtom = true →
      mapAtoms (untaggedInts (structNumber codecs)) (inlineScalar policy atom)
        = untaggedInts (structNumber codecs) (inlineScalar policy atom) :=
    fun atom hatom => mapAtoms_atom _ (isAtom_inlineScalar hatom)
  rw [throughStruct, normalizeInlineStructScalars]
  split
  case isTrue hpickle =>
    rw [asLists_mapAtoms fun atom hatom => isAtom_inlineScalar hatom]
    refine mapAtoms_congr ?_ payload
    intro atom _
    rw [laneScalar, if_pos hpickle]
  case isFalse hpickle =>
    rw [asLists_mapAtoms fun atom hatom => isAtom_untaggedInts hatom,
      mapAtoms_mapAtoms]
    refine mapAtoms_congr ?_ payload
    intro atom hatom
    rw [hatoms atom hatom, laneScalar, if_neg hpickle]

theorem arrives_struct (laws : CodecLaws codecs)
    (hpayload : payload.all returnableNode = true)
    (haccepted : acceptedPayload codecs policy (.struct mode) payload =
      some task) :
    workerPayload codecs policy task = some (throughStruct codecs mode
      (normalizeInlineStructScalars policy payload)) := by
  obtain ⟨fields, data, hstruct, hdata, htask⟩ :=
    acceptedPayload_struct hpayload haccepted
  have hinlined : (normalizeInlineStructScalars policy payload).all
      returnableNode = true :=
    all_inlined_returnable hpayload
  rw [ResultDelivery.decodeResultFromTransport, Option.bind_eq_some_iff] at hdata
  obtain ⟨decoded, hdecoded, hconvert⟩ := hdata
  have hthrough :=
    decode_structOf laws (all_carried hinlined) hstruct hdecoded
  have hreturnable : decoded.all returnableNode = true := by
    rw [hthrough]
    exact all_throughStruct (fun _ => rfl) (fun _ => rfl) (fun _ => rfl)
      (fun _ _ hkeys => plainEntries_of_keys hkeys) hinlined
  -- The node has converted the value, so the worker can convert it again.
  rw [convertDictToArrow,
    rewrite_convert_carried decoded 0 (all_carried hreturnable),
    Nat.zero_add] at hconvert
  split at hconvert
  case isFalse => cases hconvert
  case isTrue hnesting =>
    rw [Option.some.injEq] at hconvert
    rw [htask, ← hconvert, workerPayload,
      normalizeInboundPayload_returnable hreturnable, if_pos hnesting,
      hthrough]

def samplePolicy : SubmitPolicy ℤ String String where
  isoformat := some
  clientStructFits _ := true
  clientBlobFits _ := true
  nodeBlobFits _ := true
  resolve _ := none

def samplePayload : SampleValue :=
  .dict [("n", .int 3), ("at", .object sampleDay)]

def sampleArrived : SampleValue :=
  .dict [("n", .float 3), ("at", .str sampleDay)]

end PycloudParallel.TaskPayload
