import PycloudParallel.DataRefPayloads
import PycloudParallel.TransportKeyedValues

/-!
# `structured_v1` on the values of callers

The encoder makes the keys of a dict texts and leaves its other entries as they
are, so that a key can look like one of its own.  The decoder takes a dict with
such a key for bytes, or hands it to `convert_dict_to_arrow`, and that one knows
other keys.  `Readable` and `Convertible` say what the two give back.
-/

namespace PycloudParallel.Transport

open PyValue KeyedValue

variable {κ φ α ρ : Type}

section Definitions

variable (codecs : Codecs φ α ρ) (keyText : κ → String)

mutual

/-- `_encode_value`. -/
def structuredEncode : KeyedValue κ φ α ρ → Option (PyValue φ α ρ)
  | .bytes _ content =>
    some (.dict [(structuredBytesSentinel,
      adaptBlobForJsonTransport codecs content)])
  | .dict entries =>
    (structuredEncodeEntries entries).map fun items =>
      .dict (comprehension items)
  | .list items => (structuredEncodeItems items).map .list
  | .tuple items => (structuredEncodeItems items).map .list
  | .scalar value => serializeArrowCompatible codecs value.value

def structuredEncodeItems :
    List (KeyedValue κ φ α ρ) → Option (List (PyValue φ α ρ))
  | [] => some []
  | item :: rest =>
    (structuredEncode item).bind fun result =>
      (structuredEncodeItems rest).map (result :: ·)

def structuredEncodeEntries : KeyedEntries κ φ α ρ → Option (Entries φ α ρ)
  | [] => some []
  | (key, value) :: rest =>
    (structuredEncode value).bind fun result =>
      (structuredEncodeEntries rest).map ((keyText key, result) :: ·)

end

/-- `structured_dumps`. -/
def keyedStructuredDumps (value : KeyedValue κ φ α ρ) : Option Blob :=
  ((structuredEncode codecs keyText value).map fun payload =>
    PyValue.dict [(structuredSentinel,
      .dict [("version", .int 1), ("payload", payload)])]).bind
        codecs.jsonDumps

/-! ## What reads back -/

variable (refReads : ρ → Prop)

def ScalarReads : Scalar φ α ρ → Prop
  | .ref dataRef => refReads dataRef
  | _ => True

def encodesToDict : KeyedValue κ φ α ρ → Bool
  | .dict _ | .bytes _ _ | .scalar (.ref _) | .scalar (.object _) => true
  | .scalar (.int value) => isBigInt value
  | _ => false

def isFalsy : KeyedValue κ φ α ρ → Bool
  | .scalar .null => true
  | .scalar (.bool value) => !value
  | .scalar (.int value) => value = 0
  | .scalar (.float value) => codecs.isZero value
  | .scalar (.str value) => value = ""
  | .list items | .tuple items => items.isEmpty
  | .dict entries => entries.isEmpty
  | _ => false

def isRefPayload : KeyedEntries κ φ α ρ → Bool
  | [(key, value)] => keyText key = dataRefSentinel && encodesToDict value
  | _ => false

mutual

/-- `convert_dict_to_arrow` gives the value back: no bytes in it, no `__type__`
but `None`, and nothing that looks like a data reference or is too deep. -/
def Convertible (depth : ℕ) : KeyedValue κ φ α ρ → Prop
  | .scalar value => depth ≤ maxArrowRecursionDepth ∧ ScalarReads refReads value
  | .bytes _ _ => False
  | .list items =>
    depth ≤ maxArrowRecursionDepth ∧ ConvertibleItems (depth + 1) items
  | .tuple items =>
    depth ≤ maxArrowRecursionDepth ∧ ConvertibleItems (depth + 1) items
  | .dict entries =>
    depth ≤ maxArrowRecursionDepth ∧ (keyTexts keyText entries).Nodup ∧
      isRefPayload keyText entries = false ∧
      (∀ entry ∈ entries, keyText entry.1 = typeKey →
        entry.2 = .scalar .null) ∧
      ConvertibleEntries (depth + 1) entries

def ConvertibleItems (depth : ℕ) : List (KeyedValue κ φ α ρ) → Prop
  | [] => True
  | item :: rest => Convertible depth item ∧ ConvertibleItems depth rest

def ConvertibleEntries (depth : ℕ) : KeyedEntries κ φ α ρ → Prop
  | [] => True
  | (_, value) :: rest =>
    Convertible depth value ∧ ConvertibleEntries depth rest

end

mutual

/-- `structured_loads` gives the value back: the texts of the keys of each dict
are different, none is the sentinel of bytes, a `__type__` is false, and a dict
with the sentinel of data references is convertible. -/
def Readable : KeyedValue κ φ α ρ → Prop
  | .scalar value => ScalarReads refReads value
  | .bytes _ _ => True
  | .list items => ReadableItems items
  | .tuple items => ReadableItems items
  | .dict entries =>
    structuredBytesSentinel ∉ keyTexts keyText entries ∧
      (dataRefSentinel ∈ keyTexts keyText entries →
        Convertible keyText refReads 0 (.dict entries)) ∧
      (dataRefSentinel ∉ keyTexts keyText entries →
        (keyTexts keyText entries).Nodup ∧
        (∀ entry ∈ entries, keyText entry.1 = typeKey →
          isFalsy codecs entry.2 = true) ∧
        ReadableEntries entries)

def ReadableItems : List (KeyedValue κ φ α ρ) → Prop
  | [] => True
  | item :: rest => Readable item ∧ ReadableItems rest

def ReadableEntries : KeyedEntries κ φ α ρ → Prop
  | [] => True
  | (_, value) :: rest => Readable value ∧ ReadableEntries rest

end

end Definitions

section Parts

variable {codecs : Codecs φ α ρ} {refReads : ρ → Prop} {keyText : κ → String}

theorem convertibleItems_iff {depth : ℕ} {items : List (KeyedValue κ φ α ρ)} :
    ConvertibleItems keyText refReads depth items ↔
      ∀ item ∈ items, Convertible keyText refReads depth item := by
  induction items with
  | nil => simp [ConvertibleItems]
  | cons item rest ih => rw [ConvertibleItems, List.forall_mem_cons, ih]

theorem convertibleEntries_iff {depth : ℕ} {entries : KeyedEntries κ φ α ρ} :
    ConvertibleEntries keyText refReads depth entries ↔
      ∀ entry ∈ entries, Convertible keyText refReads depth entry.2 := by
  induction entries with
  | nil => simp [ConvertibleEntries]
  | cons entry rest ih => rw [ConvertibleEntries, List.forall_mem_cons, ih]

theorem readableItems_iff {items : List (KeyedValue κ φ α ρ)} :
    ReadableItems codecs keyText refReads items ↔
      ∀ item ∈ items, Readable codecs keyText refReads item := by
  induction items with
  | nil => simp [ReadableItems]
  | cons item rest ih => rw [ReadableItems, List.forall_mem_cons, ih]

theorem readableEntries_iff {entries : KeyedEntries κ φ α ρ} :
    ReadableEntries codecs keyText refReads entries ↔
      ∀ entry ∈ entries, Readable codecs keyText refReads entry.2 := by
  induction entries with
  | nil => simp [ReadableEntries]
  | cons entry rest ih => rw [ReadableEntries, List.forall_mem_cons, ih]

end Parts

/-- What is assumed of JSON and base64 and of the texts of ints and temporal
objects. -/
structure JsonLaws (codecs : Codecs φ α ρ) : Prop where
  temporal : ∀ object, ∃ tag ∈ ["datetime", "date", "time"], ∃ text,
    codecs.encodeObject object =
        some [(typeKey, .str tag), ("value", .str text)] ∧
      codecs.decodeObject tag
        [(typeKey, .str tag), ("value", .str text)] = some object
  intOf : ∀ value, codecs.intOf (.str (toString value)) = some value
  json : ∀ value blob, value.all jsonNode = true →
    codecs.jsonDumps value = some blob →
      codecs.jsonLoads blob = some value
  base64 : ∀ blob,
    codecs.restoreBlob (adaptBlobForJsonTransport codecs blob) = some blob

def ReadsRefs (codecs : Codecs φ α ρ) (refReads : ρ → Prop) : Prop :=
  ∀ dataRef, codecs.refFrom (codecs.refEntries dataRef) = some dataRef ↔
    refReads dataRef

variable {codecs : Codecs φ α ρ} {refReads : ρ → Prop} {keyText : κ → String}

/-! ## Encoded values -/

theorem forall₂_structuredEncodeItems {items : List (KeyedValue κ φ α ρ)}
    {parts : List (PyValue φ α ρ)}
    (hencode : structuredEncodeItems codecs keyText items = some parts) :
    List.Forall₂ (fun item part =>
      structuredEncode codecs keyText item = some part) items parts := by
  induction items generalizing parts with
  | nil =>
    rw [structuredEncodeItems, Option.some.injEq] at hencode
    rw [← hencode]
    exact .nil
  | cons item rest ih =>
    rw [structuredEncodeItems, Option.bind_eq_some_iff] at hencode
    obtain ⟨first, hfirst, htail⟩ := hencode
    rw [Option.map_eq_some_iff] at htail
    obtain ⟨tail, hrest, rfl⟩ := htail
    exact .cons hfirst (ih hrest)

theorem encodedEntries_structured {entries : KeyedEntries κ φ α ρ}
    {items : Entries φ α ρ}
    (hencode : structuredEncodeEntries codecs keyText entries = some items) :
    EncodedEntries keyText (fun value part =>
      structuredEncode codecs keyText value = some part) entries items := by
  induction entries generalizing items with
  | nil =>
    rw [structuredEncodeEntries, Option.some.injEq] at hencode
    rw [← hencode]
    exact .nil
  | cons entry rest ih =>
    rw [structuredEncodeEntries, Option.bind_eq_some_iff] at hencode
    obtain ⟨first, hfirst, htail⟩ := hencode
    rw [Option.map_eq_some_iff] at htail
    obtain ⟨tail, hrest, rfl⟩ := htail
    exact .cons hfirst (ih hrest)

def Scalar.isPlain : Scalar φ α ρ → Bool
  | .ref _ | .object _ => false
  | .int value => !isBigInt value
  | _ => true

/-- What `serialize_arrow_compatible` makes of a scalar. -/
inductive EncodedAs (codecs : Codecs φ α ρ) :
    Scalar φ α ρ → PyValue φ α ρ → Prop
  | bigInt (value : ℤ) (hbig : isBigInt value = true) :
    EncodedAs codecs (.int value) (.dict [(typeKey, .str "int64"),
      ("value", .str (toString value))])
  | ref (dataRef : ρ) :
    EncodedAs codecs (.ref dataRef) (dataRefToPayload codecs dataRef)
  | object (object : α) (tag text : String)
    (htag : tag ∈ ["datetime", "date", "time"])
    (hdecode : codecs.decodeObject tag
      [(typeKey, .str tag), ("value", .str text)] = some object) :
    EncodedAs codecs (.object object)
      (.dict [(typeKey, .str tag), ("value", .str text)])
  | plain (scalar : Scalar φ α ρ) (hplain : scalar.isPlain = true) :
    EncodedAs codecs scalar scalar.value

variable {depth : ℕ} {scalar : Scalar φ α ρ}

theorem encodedAs_of_serialize (laws : JsonLaws codecs)
    {encoded : PyValue φ α ρ}
    (hencode : rewrite (serializeStop codecs) depth scalar.value = some encoded)
    : depth ≤ maxArrowRecursionDepth ∧ EncodedAs codecs scalar encoded := by
  rw [rewrite_atom _ _ scalar.isAtom_value] at hencode
  unfold serializeStop at hencode
  by_cases hdepth : maxArrowRecursionDepth < depth
  · rw [if_pos hdepth] at hencode
    cases hencode
  refine ⟨not_lt.mp hdepth, ?_⟩
  rw [if_neg hdepth] at hencode
  cases scalar with
  | ref dataRef =>
    cases hencode
    exact .ref dataRef
  | object object =>
    obtain ⟨tag, htag, text, hobject, hdecode⟩ := laws.temporal object
    simp only [Scalar.value, hobject, Option.map_some, Option.getD_some,
      Option.some.injEq] at hencode
    rw [← hencode]
    exact .object object tag text htag hdecode
  | int value =>
    by_cases hbig : isBigInt value = true
    · simp only [Scalar.value, hbig, if_true, Option.getD_some,
        Option.some.injEq] at hencode
      rw [← hencode]
      exact .bigInt value hbig
    · simp only [Scalar.value, if_neg hbig, Option.getD_none,
        Option.some.injEq] at hencode
      rw [← hencode]
      exact .plain (.int value) (by simp [Scalar.isPlain, hbig])
  | _ =>
    cases hencode
    exact .plain _ rfl

theorem EncodedAs.null_iff {encoded : PyValue φ α ρ}
    (hencoded : EncodedAs codecs scalar encoded) :
    encoded = .null ↔ scalar = .null := by
  cases hencoded with
  | plain scalar hplain => cases scalar <;> simp [Scalar.value]
  | _ => simp [dataRefToPayload]

theorem EncodedAs.isDict {encoded : PyValue φ α ρ}
    (hencoded : EncodedAs codecs scalar encoded) :
    encodesToDict (κ := κ) (.scalar scalar) = true ↔
      ∃ entries, encoded = .dict entries := by
  cases hencoded with
  | plain scalar hplain =>
    cases scalar <;> simp_all [Scalar.value, encodesToDict, Scalar.isPlain]
  | bigInt value hbig => simp [encodesToDict, hbig]
  | ref dataRef => simp [encodesToDict, dataRefToPayload]
  | object object tag text htag hdecode => simp [encodesToDict]

theorem EncodedAs.truthy {encoded : PyValue φ α ρ}
    (hencoded : EncodedAs codecs scalar encoded) :
    truthy codecs encoded = !isFalsy (κ := κ) codecs (.scalar scalar) := by
  cases hencoded with
  | plain scalar hplain =>
    cases scalar <;>
      simp_all [Scalar.value, isFalsy, Scalar.isPlain, Transport.truthy]
  | bigInt value hbig =>
    have hzero : value ≠ 0 := by
      rintro rfl
      cases hbig
    simp [isFalsy, Transport.truthy, hzero]
  | ref dataRef => simp [isFalsy, dataRefToPayload, Transport.truthy]
  | object object tag text htag hdecode => simp [isFalsy, Transport.truthy]

theorem EncodedAs.convert_iff (laws : JsonLaws codecs)
    (refs : ReadsRefs codecs refReads) {encoded : PyValue φ α ρ}
    (hencoded : EncodedAs codecs scalar encoded) (depth : ℕ) :
    rewrite (convertStop codecs) depth encoded = some scalar.value ↔
      depth ≤ maxArrowRecursionDepth ∧ ScalarReads refReads scalar := by
  by_cases hdepth : maxArrowRecursionDepth < depth
  · have hraise : rewrite (convertStop codecs) depth encoded = none := by
      have hstop : convertStop codecs depth encoded = some none := if_pos hdepth
      cases encoded <;> simp [rewrite, hstop]
    rw [hraise]
    simp [not_le.mpr hdepth]
  · have hshallow : depth ≤ maxArrowRecursionDepth := not_lt.mp hdepth
    cases hencoded with
    | bigInt value hbig =>
      have hkey : ("value" == typeKey) = false := by decide
      have hint : codecs.intOf (.str value.repr) = some value :=
        laws.intOf value
      simp [rewrite, convertStop, hdepth, hshallow, dataRefPayload, List.lookup,
        hkey, hint, Scalar.value, ScalarReads]
    | ref dataRef =>
      simp [rewrite, convertStop, hdepth, hshallow, dataRefPayload,
        dataRefToPayload, Scalar.value, ScalarReads, refs dataRef]
    | object object tag text htag hdecode =>
      have hother : tag ≠ "int64" := by
        rintro rfl
        revert htag
        decide
      simp [rewrite, convertStop, hdepth, hshallow, dataRefPayload, List.lookup,
        hother, hdecode, Scalar.value, ScalarReads]
    | plain scalar hplain =>
      have hreads : ScalarReads refReads scalar := by
        cases scalar with
        | ref dataRef => cases hplain
        | _ => trivial
      rw [rewrite_atom _ _ scalar.isAtom_value]
      cases scalar <;>
        simp [convertStop, hdepth, hshallow, Scalar.value, hreads]

/-! ## Encoded dicts -/

theorem convert_dict_iff {entries out : Entries φ α ρ} :
    rewrite (convertStop codecs) depth (.dict entries) = some (.dict out) ↔
      depth ≤ maxArrowRecursionDepth ∧ dataRefPayload entries = none ∧
        (entries.lookup typeKey = none ∨
          entries.lookup typeKey = some .null) ∧
        rewriteEntries (convertStop codecs) (depth + 1) entries = some out := by
  rw [rewrite]
  by_cases hdepth : maxArrowRecursionDepth < depth
  · have hstop : convertStop codecs depth (.dict entries) = some none :=
      if_pos hdepth
    simp [hstop, not_le.mpr hdepth]
  have hshallow : depth ≤ maxArrowRecursionDepth := not_lt.mp hdepth
  cases hpayload : dataRefPayload entries with
  | some payload => simp [convertStop, hdepth, hpayload]
  | none =>
    cases htag : entries.lookup typeKey with
    | none => simp [convertStop, hdepth, hpayload, htag, hshallow]
    | some tag =>
      cases tag with
      | null => simp [convertStop, hdepth, hpayload, htag, hshallow]
      | str name =>
        by_cases hint : name = "int64" <;>
          simp [convertStop, hdepth, hpayload, htag, hint]
      | _ => simp [convertStop, hdepth, hpayload, htag]

theorem structuredDecode_dict_iff {entries out : Entries φ α ρ} :
    rewrite (structuredDecodeStop codecs) depth (.dict entries) =
        some (.dict out) ↔
      entries.lookup structuredBytesSentinel = none ∧
        if ((entries.lookup typeKey).any fun tag => truthy codecs tag) ||
            (entries.lookup dataRefSentinel).isSome then
          convertDictToArrow codecs (.dict entries) = some (.dict out)
        else
          rewriteEntries (structuredDecodeStop codecs) (depth + 1) entries =
            some out := by
  rw [rewrite]
  cases hbytes : entries.lookup structuredBytesSentinel with
  | some payload => simp [structuredDecodeStop, hbytes]
  | none =>
    simp only [structuredDecodeStop, hbytes, true_and]
    split <;> simp

section Encoded

variable {value : KeyedValue κ φ α ρ} {encoded : PyValue φ α ρ}

theorem encoded_scalar (laws : JsonLaws codecs) {scalar : Scalar φ α ρ}
    (hencode : structuredEncode codecs keyText (.scalar scalar) =
      some encoded) : EncodedAs codecs scalar encoded := by
  rw [structuredEncode] at hencode
  exact (encodedAs_of_serialize laws hencode).2

theorem encoded_list {items : List (KeyedValue κ φ α ρ)}
    (hencode : structuredEncode codecs keyText (.list items) = some encoded) :
    ∃ parts, structuredEncodeItems codecs keyText items = some parts ∧
      encoded = .list parts := by
  rw [structuredEncode, Option.map_eq_some_iff] at hencode
  obtain ⟨parts, hparts, hencoded⟩ := hencode
  exact ⟨parts, hparts, hencoded.symm⟩

theorem encoded_tuple {items : List (KeyedValue κ φ α ρ)}
    (hencode : structuredEncode codecs keyText (.tuple items) = some encoded) :
    ∃ parts, structuredEncodeItems codecs keyText items = some parts ∧
      encoded = .list parts := by
  rw [structuredEncode, Option.map_eq_some_iff] at hencode
  obtain ⟨parts, hparts, hencoded⟩ := hencode
  exact ⟨parts, hparts, hencoded.symm⟩

theorem encoded_dict {entries : KeyedEntries κ φ α ρ}
    (hencode : structuredEncode codecs keyText (.dict entries) = some encoded) :
    ∃ items, structuredEncodeEntries codecs keyText entries = some items ∧
      encoded = .dict (comprehension items) := by
  rw [structuredEncode, Option.map_eq_some_iff] at hencode
  obtain ⟨items, hitems, hencoded⟩ := hencode
  exact ⟨items, hitems, hencoded.symm⟩

theorem isEmpty_of_forall₂ {β γ : Type} {relation : β → γ → Prop}
    {first : List β} {second : List γ}
    (hrelated : List.Forall₂ relation first second) :
    second.isEmpty = first.isEmpty := by
  cases hrelated <;> rfl

theorem encoded_null_iff (laws : JsonLaws codecs)
    (hencode : structuredEncode codecs keyText value = some encoded) :
    encoded = .null ↔ value = .scalar .null := by
  cases value with
  | scalar scalar =>
    rw [(encoded_scalar laws hencode).null_iff, KeyedValue.scalar.injEq]
  | bytes kind content =>
    rw [structuredEncode, Option.some.injEq] at hencode
    simp [← hencode]
  | list items =>
    obtain ⟨parts, -, rfl⟩ := encoded_list hencode
    simp
  | tuple items =>
    obtain ⟨parts, -, rfl⟩ := encoded_tuple hencode
    simp
  | dict entries =>
    obtain ⟨items, -, rfl⟩ := encoded_dict hencode
    simp

theorem encodesToDict_iff (laws : JsonLaws codecs)
    (hencode : structuredEncode codecs keyText value = some encoded) :
    encodesToDict value = true ↔ ∃ entries, encoded = .dict entries := by
  cases value with
  | scalar scalar => exact (encoded_scalar laws hencode).isDict
  | bytes kind content =>
    rw [structuredEncode, Option.some.injEq] at hencode
    simp [← hencode, encodesToDict]
  | list items =>
    obtain ⟨parts, -, rfl⟩ := encoded_list hencode
    simp [encodesToDict]
  | tuple items =>
    obtain ⟨parts, -, rfl⟩ := encoded_tuple hencode
    simp [encodesToDict]
  | dict entries =>
    obtain ⟨items, -, rfl⟩ := encoded_dict hencode
    simp [encodesToDict]

theorem truthy_encoded (laws : JsonLaws codecs)
    (hencode : structuredEncode codecs keyText value = some encoded) :
    truthy codecs encoded = !isFalsy codecs value := by
  cases value with
  | scalar scalar => exact (encoded_scalar laws hencode).truthy
  | bytes kind content =>
    rw [structuredEncode, Option.some.injEq] at hencode
    simp [← hencode, truthy, isFalsy]
  | list items =>
    obtain ⟨parts, hparts, rfl⟩ := encoded_list hencode
    rw [truthy, isFalsy,
      isEmpty_of_forall₂ (forall₂_structuredEncodeItems hparts)]
  | tuple items =>
    obtain ⟨parts, hparts, rfl⟩ := encoded_tuple hencode
    rw [truthy, isFalsy,
      isEmpty_of_forall₂ (forall₂_structuredEncodeItems hparts)]
  | dict entries =>
    obtain ⟨items, hitems, rfl⟩ := encoded_dict hencode
    have hkeys := (encodedEntries_structured hitems).keys
    have hempty : comprehension items = [] ↔ entries = [] := by
      rw [comprehension_eq_nil_iff, ← List.map_eq_nil_iff, hkeys, keyTexts,
        List.map_eq_nil_iff]
    rw [truthy, isFalsy]
    congr 1
    rw [Bool.eq_iff_iff, List.isEmpty_iff, List.isEmpty_iff, hempty]

variable {entries : KeyedEntries κ φ α ρ} {items : Entries φ α ρ}

theorem dataRefPayload_encoded_iff (laws : JsonLaws codecs)
    (hencode : structuredEncodeEntries codecs keyText entries = some items) :
    dataRefPayload items = none ↔ isRefPayload keyText entries = false := by
  match entries with
  | [] =>
    rw [structuredEncodeEntries, Option.some.injEq] at hencode
    rw [← hencode]
    exact ⟨fun _ => rfl, fun _ => rfl⟩
  | [(key, value)] =>
    rw [structuredEncodeEntries, Option.bind_eq_some_iff] at hencode
    obtain ⟨encoded, hvalue, htail⟩ := hencode
    rw [structuredEncodeEntries, Option.map_some, Option.some.injEq] at htail
    have hdict := encodesToDict_iff laws hvalue
    rw [← htail, isRefPayload]
    by_cases hkey : keyText key = dataRefSentinel
    · cases encoded with
      | dict payload =>
        have hyes : encodesToDict value = true := hdict.mpr ⟨payload, rfl⟩
        simp [dataRefPayload, hkey, hyes]
      | _ =>
        have hno : encodesToDict value = false := by
          rw [Bool.eq_false_iff]
          intro hyes
          obtain ⟨payload, hpayload⟩ := hdict.mp hyes
          cases hpayload
        simp [dataRefPayload, hno]
    · cases encoded <;> simp [dataRefPayload, hkey]
  | first :: second :: rest =>
    have hkeys := (encodedEntries_structured hencode).keys
    match items with
    | [] => cases hkeys
    | [_] => simp [keyTexts] at hkeys
    | _ :: _ :: _ => simp [dataRefPayload, isRefPayload]

end Encoded

end PycloudParallel.Transport
