import Mathlib
import PycloudParallel.ResultDeliveryModel
import PycloudParallel.TransportRoundTrips

/-!
# What arrives of a result

A value comes back as it is through transport bytes.  A Struct makes doubles of
its ints and a dict of `None`, and the caller reads the text of a stored value
without undoing its tags.
-/

namespace PycloudParallel.ResultDelivery

open Transport Transport.PyValue

variable {φ α ρ : Type}
variable {codecs : Codecs φ α ρ} {policy : ResultPolicy φ α ρ}

def returnableNode : PyValue φ α ρ → Bool
  | .ref _ => false
  | value => carriedNode value

def returnedValue (returned : PyValue φ α ρ) : PyValue φ α ρ :=
  (unpackStatus returned).2.1

/-- A stored value is read as it was written, so nothing in it may be tagged.
A value that is not stored comes back through transport bytes, and through a
Struct unless it is `None` or has plain ints and is no pickle. -/
def ArrivesIntact (codecs : Codecs φ α ρ) (policy : ResultPolicy φ α ρ)
    (useTransportResult : Option Bool) (mode : Mode)
    (value : PyValue φ α ρ) : Prop :=
  if storesAsJson codecs policy value = true then
    value.all untaggedNode = true
  else
    usesTransportResult useTransportResult mode = true ∨
      value ≠ .null ∧
        (mode.isPickle = true ∨ value.all noPlainIntNode = true)

theorem carriedNode_of_returnable (value : PyValue φ α ρ)
    (hnode : returnableNode value = true) : carriedNode value = true := by
  cases value with
  | ref dataRef => rfl
  | _ => exact hnode

variable {value data : PyValue φ α ρ} {mode : Mode} {useTransport : Bool}
  {useTransportResult : Option Bool}

theorem all_carried (hall : value.all returnableNode = true) :
    value.all carriedNode = true :=
  all_mono carriedNode_of_returnable value hall

theorem returnableNode_asLists (value : PyValue φ α ρ) :
    returnableNode value.asLists = returnableNode value := by
  cases value with
  | dict entries =>
    rw [asLists, mapAtoms, returnableNode, returnableNode, carriedNode,
      carriedNode, plainEntries, plainEntries, keys_mapEntries]
    · exact fun dataRef heq => by cases heq
    · exact fun dataRef heq => by cases heq
  | _ => rfl

theorem maybeDataRef_of_returnable (hnode : returnableNode value = true) :
    maybeDataRef codecs value = none := by
  cases value with
  | ref dataRef => cases hnode
  | dict entries =>
    exact maybeDataRef_dict_eq_none
      (not_mem_keys_of_plain hnode rfl (by decide))
  | _ => rfl

theorem maybeDataRef_of_asLists {out : PyValue φ α ρ}
    (hall : value.all returnableNode = true)
    (hsame : out.asLists = value.asLists) : maybeDataRef codecs out = none := by
  refine maybeDataRef_of_returnable ?_
  rw [← returnableNode_asLists, hsame, returnableNode_asLists]
  exact test_of_all hall

theorem mem_of_lookup {key : String} {entries : Entries φ α ρ}
    (hlookup : entries.lookup key = some value) : (key, value) ∈ entries := by
  rw [List.lookup_eq_some_iff] at hlookup
  obtain ⟨before, after, hentries, _⟩ := hlookup
  rw [hentries]
  exact List.mem_append_right before List.mem_cons_self

theorem all_returnedValue {returned : PyValue φ α ρ}
    (hall : returned.all returnableNode = true) :
    (returnedValue returned).all returnableNode = true := by
  rw [returnedValue, unpackStatus.eq_def]
  split
  case h_1 status result errorType errorMessage =>
    rw [all, Bool.and_eq_true, allItems_iff] at hall
    exact hall.2 result (by simp)
  case h_2 entries =>
    split
    case h_1 status hstatus =>
      cases hresult : entries.lookup "result" with
      | none => rfl
      | some result =>
        rw [all, Bool.and_eq_true, allEntries_iff] at hall
        exact hall.2 _ (mem_of_lookup hresult)
    case h_2 hstatus => exact hall
  case h_3 => exact hall

inductive Held (codecs : Codecs φ α ρ) (policy : ResultPolicy φ α ρ)
    (mode : Mode) (value : PyValue φ α ρ) : Option (TaskValue φ α ρ) → Prop
  | plain (result : Option (TaskValue φ α ρ))
      (hstores : storesAsJson codecs policy value = false)
      (htask : taskValue result = some value) : Held codecs policy mode value
        result
  | carrier (blob : Blob)
      (hstores : storesAsJson codecs policy value = false)
      (hencode : encodeTransportPayloadBytes codecs mode value = some blob) :
      Held codecs policy mode value (some (.carrier mode blob))
  | stored (blob : Blob) (hstores : storesAsJson codecs policy value = true)
      (hjson : resultJson codecs value = some blob) :
      Held codecs policy mode value (some (.stored (policy.store blob)))

theorem held_of_tryInlineResult {result : TaskValue φ α ρ}
    (hstores : storesAsJson codecs policy value = false)
    (hinline : tryInlineResult codecs policy useTransport mode value =
      some result) : Held codecs policy mode value (some result) := by
  rw [tryInlineResult] at hinline
  split at hinline
  · rw [Option.bind_eq_some_iff] at hinline
    obtain ⟨blob, hencode, hfits⟩ := hinline
    split at hfits
    · rw [Option.some.injEq] at hfits
      rw [← hfits]
      exact .carrier blob hstores hencode
    · cases hfits
  · rw [Option.bind_eq_some_iff] at hinline
    obtain ⟨struct, _, hfits⟩ := hinline
    split at hfits
    · rw [Option.some.injEq] at hfits
      rw [← hfits]
      exact .plain (some (.plain value)) hstores rfl
    · cases hfits

theorem held_of_normalizeResultValue {result : TaskValue φ α ρ}
    (hnormalize : normalizeResultValue codecs policy useTransport mode value =
      some result) : Held codecs policy mode value (some result) := by
  rw [normalizeResultValue] at hnormalize
  split at hnormalize
  case isTrue hstores =>
    rw [Option.map_eq_some_iff] at hnormalize
    obtain ⟨blob, hjson, hresult⟩ := hnormalize
    rw [← hresult]
    exact .stored blob hstores hjson
  case isFalse hstores =>
    exact held_of_tryInlineResult ((Bool.not_eq_true _).mp hstores)
      hnormalize

theorem held_of_normalizeUserReturn {returned : PyValue φ α ρ}
    {report : ExecutionStatus × Option (TaskValue φ α ρ)}
    (hnormalize : normalizeUserReturn codecs policy useTransport mode
      returned = some report) :
    Held codecs policy mode (returnedValue returned) report.2 := by
  rw [normalizeUserReturn] at hnormalize
  rw [returnedValue]
  split at hnormalize
  case h_1 status hunpack =>
    rw [Option.some.injEq] at hnormalize
    rw [← hnormalize, hunpack]
    exact .plain none rfl rfl
  case h_2 status value _ hunpack =>
    rw [Option.map_eq_some_iff] at hnormalize
    obtain ⟨result, hresult, hreport⟩ := hnormalize
    rw [← hreport, hunpack]
    exact held_of_normalizeResultValue hresult

/-! ## What the caller decodes -/

inductive Decoded (codecs : Codecs φ α ρ) (useTransportResult : Option Bool)
    (mode : Mode) (value data : PyValue φ α ρ) : Prop
  | transport (huses : usesTransportResult useTransportResult mode = true)
      (hsame : data.asLists = value.asLists)
  | emptyStruct (huses : usesTransportResult useTransportResult mode = false)
      (hvalue : value = .null) (hdata : data = .dict [])
  | struct (huses : usesTransportResult useTransportResult mode = false)
      (hvalue : value ≠ .null)
      (hdata : data.asLists = (throughStruct codecs mode value).asLists)

theorem asLists_of_transportResult (laws : CodecLaws codecs) {blob : Blob}
    (hall : value.all carriedNode = true)
    (hencode : encodeTransportPayloadBytes codecs mode value = some blob)
    (hdecode : decodeMessage codecs (.transportResult mode blob) = some data) :
    data.asLists = value.asLists := by
  obtain ⟨out, hout, hsame⟩ :=
    decode_encodeTransportPayloadBytes laws hall hencode
  rw [decodeMessage, hout, Option.some.injEq] at hdecode
  rw [← hdecode]
  exact hsame

theorem all_throughStruct {test : PyValue φ α ρ → Bool}
    (hints : ∀ number, test (.int number) = true)
    (hfloats : ∀ number, test (.float number) = true)
    (hlists : ∀ items, test (.list items) = true)
    (hdicts : ∀ entries out : Entries φ α ρ,
      out.map Prod.fst = entries.map Prod.fst →
        test (.dict entries) = true → test (.dict out) = true)
    (hall : value.all test = true) :
    (throughStruct codecs mode value).all test = true := by
  rw [throughStruct]
  split
  · exact hall
  · refine all_mapAtoms ?_ hlists hdicts value hall
    intro atom hatom htest
    cases atom with
    | list items | tuple items | dict entries => cases hatom
    | int number =>
      rw [untaggedInts]
      split
      · exact hints number
      · exact hfloats _
    | _ => exact htest

theorem plainEntries_of_keys {entries out : Entries φ α ρ}
    (hkeys : out.map Prod.fst = entries.map Prod.fst)
    (hplain : plainEntries entries = true) : plainEntries out = true := by
  rw [plainEntries, hkeys]
  exact hplain

theorem decodeResultFromTransport_nil :
    decodeResultFromTransport codecs (.dict []) = some (.dict []) := by
  simp [decodeResultFromTransport, decodeTransportValue, convertDictToArrow,
    rewrite, rewriteEntries, convertStop, dataRefPayload,
    maxArrowRecursionDepth]

theorem asLists_of_struct (laws : CodecLaws codecs) {fields : PyValue φ α ρ}
    (hall : value.all carriedNode = true)
    (hstruct : structOf codecs mode value = some fields)
    (hdecode : decodeMessage codecs (.struct fields) = some data) :
    data.asLists = (throughStruct codecs mode value).asLists := by
  rw [decodeMessage, decodeResultFromTransport, Option.bind_eq_some_iff]
    at hdecode
  obtain ⟨decoded, hdecoded, hconvert⟩ := hdecode
  have hthrough := decode_structOf laws hall hstruct hdecoded
  have hcarried : (throughStruct codecs mode value).all carriedNode = true :=
    all_throughStruct (fun _ => rfl) (fun _ => rfl) (fun _ => rfl)
      (fun _ _ hkeys => plainEntries_of_keys hkeys) hall
  rw [hthrough] at hconvert
  exact settles_convert.unchanged _ 0 data hcarried hconvert

theorem decoded_of_asResult (laws : CodecLaws codecs)
    {result : Option (TaskValue φ α ρ)} {message : ResultMessage φ α ρ}
    (hall : value.all carriedNode = true)
    (htask : taskValue result = some value)
    (hresult : asResult codecs policy useTransportResult mode result =
      some message) (hdecode : decodeMessage codecs message = some data) :
    Decoded codecs useTransportResult mode value data := by
  rw [asResult] at hresult
  split at hresult
  case isTrue huses =>
    refine .transport huses ?_
    have hpayload : ((taskValue result).bind
        (encodeTransportPayloadBytes codecs mode)).bind (fun blob =>
          if policy.blobFits blob then
            some (ResultMessage.transportResult mode blob) else none) =
        some message := by
      rw [valueToTransportPayload.eq_def] at hresult
      split at hresult
      · cases htask
      · exact hresult
    rw [htask, Option.bind_some, Option.bind_eq_some_iff] at hpayload
    obtain ⟨blob, hencode, hfits⟩ := hpayload
    split at hfits
    · rw [Option.some.injEq] at hfits
      rw [← hfits] at hdecode
      exact asLists_of_transportResult laws hall hencode hdecode
    · cases hfits
  case isFalse huses =>
    rw [Bool.not_eq_true] at huses
    rw [htask, Option.bind_some, Option.map_eq_some_iff] at hresult
    obtain ⟨fields, hfields, hmessage⟩ := hresult
    rw [← hmessage] at hdecode
    rw [dictToStruct.eq_def] at hfields
    split at hfields
    case h_1 =>
      rw [Option.some.injEq] at hfields
      rw [← hfields, decodeMessage, decodeResultFromTransport_nil,
        Option.some.injEq] at hdecode
      exact .emptyStruct huses rfl hdecode.symm
    case h_2 hnull =>
      exact .struct huses hnull (asLists_of_struct laws hall hfields hdecode)

theorem throughStruct_ref (mode : Mode) (dataRef : ρ) :
    (throughStruct codecs mode (.ref dataRef)).asLists = .ref dataRef := by
  rw [throughStruct]
  split <;> rfl

theorem Decoded.eq_ref {dataRef : ρ}
    (hdecoded : Decoded codecs useTransportResult mode (.ref dataRef) data) :
    data = .ref dataRef := by
  cases hdecoded with
  | transport _ hsame => exact asLists_atom rfl hsame
  | emptyStruct _ hvalue _ => cases hvalue
  | struct _ _ hdata =>
    rw [throughStruct_ref] at hdata
    exact asLists_atom rfl hdata

theorem isAtom_untaggedInts (hatom : value.isAtom = true) :
    (untaggedInts (structNumber codecs) value).isAtom = true := by
  cases value with
  | int number =>
    rw [untaggedInts]
    split <;> rfl
  | _ => exact hatom

theorem throughStruct_intact_iff (mode : Mode) (value : PyValue φ α ρ) :
    (throughStruct codecs mode value).asLists = value.asLists ↔
      mode.isPickle = true ∨ value.all noPlainIntNode = true := by
  rw [throughStruct]
  split
  case isTrue hpickle => simp [hpickle]
  case isFalse hpickle =>
    rw [asLists_mapAtoms fun atom hatom => isAtom_untaggedInts hatom,
      throughStruct_eq_asLists_iff]
    simp [hpickle]

theorem Decoded.eq_iff
    (hdecoded : Decoded codecs useTransportResult mode value data) :
    data.asLists = value.asLists ↔
      usesTransportResult useTransportResult mode = true ∨
        value ≠ .null ∧
          (mode.isPickle = true ∨ value.all noPlainIntNode = true) := by
  cases hdecoded with
  | transport huses hsame =>
    exact ⟨fun _ => .inl huses, fun _ => hsame⟩
  | emptyStruct huses hvalue hdata =>
    rw [hvalue, hdata, huses]
    simp [asLists, mapAtoms]
  | struct huses hvalue hdata =>
    rw [hdata, throughStruct_intact_iff, huses]
    simp [hvalue]

theorem Decoded.maybeDataRef (hall : value.all returnableNode = true)
    (hdecoded : Decoded codecs useTransportResult mode value data) :
    maybeDataRef codecs data = none := by
  cases hdecoded with
  | transport _ hsame => exact maybeDataRef_of_asLists hall hsame
  | emptyStruct _ _ hdata => rw [hdata]; rfl
  | struct _ _ hdata =>
    refine maybeDataRef_of_asLists ?_ hdata
    exact all_throughStruct (fun _ => rfl) (fun _ => rfl) (fun _ => rfl)
      (fun _ _ hkeys => plainEntries_of_keys hkeys) hall

theorem fetch_stored_eq_iff (laws : CodecLaws codecs)
    (hstore : ∀ blob other, policy.download (policy.store blob) = some other →
      other = blob) {out : PyValue φ α ρ} {blob : Blob}
    (hall : value.all carriedNode = true)
    (hjson : resultJson codecs value = some blob)
    (hfetch : fetchResultRefData codecs policy (policy.store blob) = some out) :
    out.asLists = value.asLists ↔ value.all untaggedNode = true := by
  rw [resultJson, Option.bind_eq_some_iff] at hjson
  obtain ⟨encoded, hserialize, hdumps⟩ := hjson
  obtain ⟨hencoded, _⟩ := all_of_serialize laws hall hserialize
  rw [fetchResultRefData, Option.bind_eq_some_iff] at hfetch
  obtain ⟨content, hdownload, hloads⟩ := hfetch
  rw [hstore blob content hdownload, laws.json encoded blob hencoded hdumps,
    Option.some.injEq] at hloads
  rw [← hloads, asLists_of_json encoded hencoded]
  exact taggedOnly laws value 0 encoded hall hserialize

/-- A value arrives as the function returned it exactly if `ArrivesIntact`. -/
theorem deliver_intact_iff (laws : CodecLaws codecs)
    (hstore : ∀ blob other, policy.download (policy.store blob) = some other →
      other = blob) (useTransportResult : Option Bool) (mode : Mode)
    {returned out : PyValue φ α ρ}
    (hreturned : returned.all returnableNode = true)
    (hdeliver : deliver codecs policy useTransportResult mode returned =
      some out) :
    out.asLists = (returnedValue returned).asLists ↔
      ArrivesIntact codecs policy useTransportResult mode
        (returnedValue returned) := by
  rw [deliver, Option.bind_eq_some_iff] at hdeliver
  obtain ⟨report, hnormalize, hreport⟩ := hdeliver
  split at hreport
  case isFalse => cases hreport
  case isTrue =>
    rw [Option.bind_eq_some_iff] at hreport
    obtain ⟨message, hresult, hfetch⟩ := hreport
    rw [fetchResultData, Option.bind_eq_some_iff] at hfetch
    obtain ⟨data, hdecode, hdata⟩ := hfetch
    have hvalue := all_returnedValue hreturned
    have hcarried := all_carried hvalue
    have hheld := held_of_normalizeUserReturn hnormalize
    generalize returnedValue returned = value at hvalue hcarried hheld ⊢
    generalize report.2 = result at hresult hheld
    rw [ArrivesIntact]
    cases hheld with
    | plain _ hstores htask =>
      have hdecoded := decoded_of_asResult laws hcarried htask hresult hdecode
      rw [hdecoded.maybeDataRef hvalue, Option.some.injEq] at hdata
      rw [← hdata, hstores, if_neg Bool.false_ne_true]
      exact hdecoded.eq_iff
    | carrier blob hstores hencode =>
      rw [asResult] at hresult
      split at hresult
      case isTrue huses =>
        rw [valueToTransportPayload, Option.some.injEq] at hresult
        rw [← hresult] at hdecode
        have hsame :=
          asLists_of_transportResult laws hcarried hencode hdecode
        rw [maybeDataRef_of_asLists hvalue hsame, Option.some.injEq] at hdata
        rw [← hdata, hstores, if_neg Bool.false_ne_true]
        exact ⟨fun _ => .inl huses, fun _ => hsame⟩
      case isFalse huses => cases hresult
    | stored blob hstores hjson =>
      have hcarries : (PyValue.ref (policy.store blob) : PyValue φ α ρ).all
          carriedNode = true := rfl
      have hdecoded := decoded_of_asResult laws hcarries rfl hresult hdecode
      rw [hdecoded.eq_ref, maybeDataRef] at hdata
      rw [if_pos hstores]
      exact fetch_stored_eq_iff laws hstore hcarried hjson hdata

/-! ## A list of one datetime over the threshold -/

def blobText (blob : Blob) : String :=
  .ofList (blob.map fun byte => Char.ofNat byte.toNat)

def textBlob (text : String) : Blob :=
  text.toList.map fun char => UInt8.ofNat char.toNat

theorem textBlob_blobText (blob : Blob) : textBlob (blobText blob) = blob := by
  have hbytes : ∀ bytes : Blob, (bytes.map fun byte => Char.ofNat byte.toNat).map
      (fun char => UInt8.ofNat char.toNat) = bytes := by
    intro bytes
    induction bytes with
    | nil => rfl
    | cons byte rest ih =>
      have hvalid : byte.toNat.isValidChar := by
        have hbound := byte.toNat_lt
        exact Or.inl (by omega)
      rw [List.map_cons, List.map_cons, ih, Char.toNat_ofNat, if_pos hvalid,
        UInt8.ofNat_toNat]
  rw [textBlob, blobText, String.toList_ofList]
  exact hbytes blob

abbrev SampleValue := PyValue ℤ String String

def sampleDay : String := "2024-05-01T00:00:00"

def sampleTagged : SampleValue :=
  .dict [(typeKey, .str "datetime"), ("value", .str sampleDay)]

def sampleBlob : Blob :=
  textBlob ("[\x7b\"__type__\":\"datetime\",\"value\":\"" ++ sampleDay ++
    "\"\x7d]")

/-- Datetimes are their ISO texts, references are texts, and JSON is known of
one list. -/
def sampleCodecs : Codecs ℤ String String where
  refEntries dataRef := [("object_id", .str dataRef)]
  refFrom entries :=
    match entries.lookup "object_id" with
    | some (.str dataRef) => some dataRef
    | _ => none
  encodeObject day := some [(typeKey, .str "datetime"), ("value", .str day)]
  decodeObject _ entries :=
    match entries.lookup "value" with
    | some (.str day) => some day
    | _ => none
  intOf
    | .str text => text.toInt?
    | _ => none
  ofInt := id
  truncate := id
  isZero number := number == 0
  base64 := blobText
  restoreBlob
    | .dict entries =>
      match entries.lookup "data" with
      | some (.str text) => some (textBlob text)
      | _ => none
    | _ => none
  jsonDumps
    | .list [.dict [(tagKey, .str tag), (dayKey, .str day)]] =>
      if tagKey = typeKey ∧ tag = "datetime" ∧ dayKey = "value" ∧
          day = sampleDay then some sampleBlob
      else none
    | _ => none
  jsonLoads blob :=
    if blob = sampleBlob then some (.list [sampleTagged]) else none
  pickleDumps _ _ := none
  pickleLoads _ _ := none

theorem codecLaws_sample : CodecLaws sampleCodecs where
  temporal day := ⟨"datetime", by decide, day, rfl, rfl⟩
  intOf value := Int.toInt?_repr value
  refFrom dataRef := rfl
  refFrom_struct dataRef := rfl
  refEntries dataRef := by
    refine ⟨by simp [sampleCodecs, plainEntries, reservedKeys, typeKey,
      dataRefSentinel, transportEnvelopeSentinel,
      inlineTransportCarrierSentinel, structuredSentinel,
      structuredBytesSentinel], ?_⟩
    intro entry hentry
    rw [show entry = ("object_id", .str dataRef) from
      List.mem_singleton.mp hentry]
    exact ⟨rfl, rfl, fun number heq => by cases heq⟩
  json value blob _ hdumps := by
    rw [sampleCodecs] at hdumps ⊢
    simp only at hdumps ⊢
    split at hdumps
    · split at hdumps
      case isTrue hkeys =>
        obtain ⟨htagKey, htag, hdayKey, hday⟩ := hkeys
        rw [Option.some.injEq] at hdumps
        rw [← hdumps, if_pos rfl, sampleTagged, htagKey, htag, hdayKey, hday]
      case isFalse => cases hdumps
    · cases hdumps
  pickle mode value blob _ hdumps := by cases hdumps
  base64 blob := by
    simp [sampleCodecs, adaptBlobForJsonTransport, List.lookup,
      textBlob_blobText]
  truncate := rfl

def samplePolicy : ResultPolicy ℤ String String where
  inlineResultThreshold := 64
  structFits _ := true
  blobFits _ := true
  store := blobText
  download dataRef := some (textBlob dataRef)
  objectSize _ := 72

theorem samplePolicy_store (blob other : Blob)
    (hdownload : samplePolicy.download (samplePolicy.store blob) =
      some other) : other = blob := by
  rw [← Option.some.injEq, ← hdownload]
  exact congrArg some (textBlob_blobText blob)

def sampleReturned : SampleValue := .list [.object sampleDay]

/-- The datetime comes back as its tagged dict, while a node would read it. -/
theorem stored_datetime_arrives_tagged :
    CodecLaws sampleCodecs ∧ sampleReturned.all returnableNode = true ∧
      returnedValue sampleReturned = sampleReturned ∧
      deliver sampleCodecs samplePolicy none .legacyV1 sampleReturned =
        some (.list [sampleTagged]) ∧
      materializeOnNode sampleCodecs samplePolicy
        (samplePolicy.store sampleBlob) = some sampleReturned ∧
      asLists (.list [sampleTagged]) ≠ sampleReturned.asLists := by
  refine ⟨codecLaws_sample, rfl, rfl, rfl, rfl, ?_⟩
  simp [sampleTagged, sampleReturned, asLists, mapAtoms, mapItems]

theorem sample_datetime_intact_iff :
    asLists (.list [sampleTagged]) = (returnedValue sampleReturned).asLists ↔
      ArrivesIntact sampleCodecs samplePolicy none .legacyV1
        (returnedValue sampleReturned) :=
  deliver_intact_iff codecLaws_sample samplePolicy_store none .legacyV1 rfl rfl

/-- An int comes back from a Struct as a double. -/
example : deliver sampleCodecs samplePolicy none .legacyV1
    (.dict [("n", .int 3)]) = some (.dict [("n", .float 3)]) := by
  rfl

end PycloudParallel.ResultDelivery
