import PycloudParallel.ResultDeliveryFidelity
import PycloudParallel.TransportStructuredRoundTrip

/-!
# `structured_v1` with data references

The round trip with the payloads of data references.  A data reference that has
a control address and no locator token is made by a token of white space; its
payload reads as a reference with the address for a token.
-/

namespace PycloudParallel.Transport

open PyValue KeyedValue

section DataRefs

variable {κ φ α : Type} {casing : Texts.Casing}
  {codecs : Codecs φ α (DataRef casing)}
  {builtins : Builtins φ α (DataRef casing)} {keyText : κ → String}

def DataRef.HasToken (dataRef : DataRef casing) : Prop :=
  dataRef.fields.locatorToken = "" → dataRef.fields.controlAddr = ""

theorem JsonLaws.withDataRefs (laws : JsonLaws codecs) :
    JsonLaws (codecs.withDataRefs builtins) where
  temporal := laws.temporal
  intOf := laws.intOf
  json := laws.json
  base64 := laws.base64

theorem all_json_payload (dataRef : DataRef casing) :
    (dataRefToPayload (codecs.withDataRefs builtins) dataRef).all jsonNode =
      true := by
  simp [dataRefToPayload, Codecs.withDataRefs, DataRefFields.payload, all,
    allEntries, jsonNode]

/-- `structured_loads` gives back what `structured_dumps` was given exactly if
the value is readable and each data reference in it has its token. -/
theorem structured_round_trip_iff (lower : LowerLaws casing)
    (builtin : BuiltinLaws builtins) (laws : JsonLaws codecs)
    (value : KeyedValue κ φ α (DataRef casing)) (blob : Blob)
    (hdumps : keyedStructuredDumps (codecs.withDataRefs builtins) keyText
      value = some blob) :
    structuredLoads (codecs.withDataRefs builtins) blob =
        some (asRead keyText value) ↔
      Readable (codecs.withDataRefs builtins) keyText DataRef.HasToken value :=
  structuredLoads_iff laws.withDataRefs
    (fun dataRef => refFrom_payload_iff lower builtin dataRef)
    all_json_payload hdumps

end DataRefs

section Casing

open Texts (strip isBlank spaceCodes trim trim_map strip_eq_self)

def asciiCasing : Texts.Casing where
  lower text := .ofList (text.toList.map Char.toLower)
  upper text := .ofList (text.toList.map Char.toUpper)

theorem isBlank_toLower (char : Char) : isBlank char.toLower = isBlank char := by
  by_cases hupper : char.isUpper = true
  · have hrange : 65 ≤ char.toNat ∧ char.toNat ≤ 90 := by
      simpa [Char.isUpper, UInt32.le_iff_toNat_le, ← Char.toNat_val]
        using hupper
    have hvalid : (char.toNat + 32).isValidChar := Or.inl (by omega)
    have hlower : char.toLower.toNat = char.toNat + 32 := by
      rw [Char.toLower_eq_of_isUpper hupper, Char.toNat_ofNat, if_pos hvalid]
    rw [isBlank, isBlank, hlower, Bool.eq_iff_iff, List.contains_iff_mem,
      List.contains_iff_mem]
    simp only [spaceCodes, List.mem_cons, List.not_mem_nil, or_false]
    omega
  · rw [Char.toLower_eq_of_not_isUpper hupper]

theorem lowerLaws_ascii : LowerLaws asciiCasing where
  lower_strip text hstrip := by
    have htrim : trim isBlank text.toList = text.toList := by
      rw [← String.toList_ofList (l := trim isBlank text.toList)]
      exact congrArg String.toList hstrip
    rw [asciiCasing, strip, String.toList_ofList, trim_map isBlank_toLower,
      htrim]
  lower_lower text := by
    have htwice : Char.toLower ∘ Char.toLower = Char.toLower :=
      funext Char.toLower_toLower_eq_toLower
    rw [asciiCasing]
    dsimp only
    rw [String.toList_ofList, List.map_map, htwice]
  noCapital text char hchar := by
    rw [asciiCasing, String.toList_ofList, List.mem_map] at hchar
    obtain ⟨first, _, rfl⟩ := hchar
    exact Char.isUpper_toLower_eq_false first
  plain text hplain := by
    have hsame : text.toList.map Char.toLower = text.toList.map id := by
      apply List.map_congr_left
      intro char hchar
      rw [Char.toLower_eq_of_not_isUpper (by simp [(hplain char hchar).2])]
      rfl
    rw [asciiCasing]
    dsimp only
    rw [hsame, List.map_id, String.ofList_toList]

end Casing

/-! ## Keys that are written alike -/

section Samples

open ResultDelivery (textBlob blobText textBlob_blobText)

abbrev SampleRef := DataRef asciiCasing

abbrev IntOrText := ℤ ⊕ String

def IntOrText.text : IntOrText → String
  | .inl value => toString value
  | .inr text => text

def structuredText (payload : String) : Blob :=
  textBlob ("\x7b\"__pycloud_structured_v1__\":\x7b\"version\":1,\"payload\":" ++
    payload ++ "\x7d\x7d")

def keyedCodecs : Codecs ℤ Unit SampleRef where
  refEntries _ := []
  refFrom _ := none
  encodeObject _ := some [(typeKey, .str "date"), ("value", .str "2024-05-01")]
  decodeObject _ _ := some ()
  intOf
    | .str text => text.toInt?
    | _ => none
  ofInt := id
  truncate := id
  isZero number := number == 0
  base64 := blobText
  restoreBlob
    | .dict entries =>
      match entries.lookup "data" with
      | some (.str text) => some (textBlob text)
      | _ => none
    | _ => none
  jsonDumps
    | .dict [(sentinel, .dict [(version, .int number), (payload,
        .dict [(key, part)])])] =>
      if sentinel = structuredSentinel ∧ version = "version" ∧ number = 1 ∧
          payload = "payload" ∧ key = "1" then
        match part with
        | .int 3 => some (structuredText "\x7b\"1\":3\x7d")
        | .list [.int 2] => some (structuredText "\x7b\"1\":[2]\x7d")
        | _ => none
      else none
    | _ => none
  jsonLoads blob :=
    let document (part : PyValue ℤ Unit SampleRef) :=
      PyValue.dict [(structuredSentinel,
        .dict [("version", .int 1), ("payload", .dict [("1", part)])])]
    if blob = structuredText "\x7b\"1\":3\x7d" then some (document (.int 3))
    else if blob = structuredText "\x7b\"1\":[2]\x7d" then
      some (document (.list [.int 2]))
    else none
  pickleDumps _ _ := none
  pickleLoads _ _ := none

def keyedBuiltins : Builtins ℤ Unit SampleRef where
  casing := asciiCasing
  str
    | .str text => text
    | _ => ""
  int
    | .int value => some value
    | _ => none
  bytes _ := none
  dict
    | .dict entries => some entries
    | _ => none
  sha256 _ := ""

theorem builtinLaws_keyed : BuiltinLaws keyedBuiltins where
  str _ := rfl
  int _ := rfl
  int_dict _ := rfl

theorem jsonLaws_keyed : JsonLaws keyedCodecs where
  temporal _ := ⟨"date", by decide, "2024-05-01", rfl, rfl⟩
  intOf value := Int.toInt?_repr value
  json value blob _ hdumps := by
    rw [keyedCodecs] at hdumps ⊢
    simp only at hdumps ⊢
    split at hdumps
    · split at hdumps
      case isTrue hkeys =>
        obtain ⟨rfl, rfl, rfl, rfl, rfl⟩ := hkeys
        split at hdumps
        · rw [Option.some.injEq] at hdumps
          rw [← hdumps, if_pos rfl]
        · rw [Option.some.injEq] at hdumps
          rw [← hdumps, if_neg (by decide +kernel), if_pos rfl]
        · cases hdumps
      case isFalse => cases hdumps
    · cases hdumps
  base64 blob := by
    simp [keyedCodecs, adaptBlobForJsonTransport, List.lookup,
      textBlob_blobText]

def twoKeys : KeyedValue IntOrText ℤ Unit SampleRef :=
  .dict [(.inl 1, .scalar (.int 2)), (.inr "1", .scalar (.int 3))]

/-- The first of two entries whose keys are written alike is lost. -/
theorem keys_written_alike_merge :
    BuiltinLaws keyedBuiltins ∧ JsonLaws keyedCodecs ∧
      (keyedStructuredDumps (keyedCodecs.withDataRefs keyedBuiltins)
        IntOrText.text twoKeys).bind
          (structuredLoads (keyedCodecs.withDataRefs keyedBuiltins)) =
        some (.dict [("1", .int 3)]) ∧
      asRead IntOrText.text twoKeys = .dict [("1", .int 2), ("1", .int 3)] :=
  ⟨builtinLaws_keyed, jsonLaws_keyed, rfl, rfl⟩

def oneKey : KeyedValue IntOrText ℤ Unit SampleRef :=
  .dict [(.inl 1, .tuple [.scalar (.int 2)])]

theorem one_key_round_trip :
    structuredLoads (keyedCodecs.withDataRefs keyedBuiltins)
        (structuredText "\x7b\"1\":[2]\x7d") =
        some (asRead IntOrText.text oneKey) ↔
      Readable (keyedCodecs.withDataRefs keyedBuiltins) IntOrText.text
        DataRef.HasToken oneKey :=
  structured_round_trip_iff lowerLaws_ascii builtinLaws_keyed jsonLaws_keyed
    oneKey _ rfl

end Samples

end PycloudParallel.Transport
