import PycloudParallel.TransportEncodings
import Mathlib

/-!
# The encoders of values and their decoders

The encoders of the transport and their decoders undo each other on values
without reserved keys.  Between the two the ints that are not tagged may have
become doubles, as in a Struct: then the decoder gives doubles.
-/

namespace PycloudParallel.Transport

open PyValue

variable {φ α ρ : Type}

def reservedKeys : List String :=
  [typeKey, dataRefSentinel, transportEnvelopeSentinel,
    inlineTransportCarrierSentinel, structuredSentinel,
    structuredBytesSentinel, "__codec__"]

def plainEntries (entries : Entries φ α ρ) : Bool :=
  decide ((entries.map Prod.fst).Nodup ∧
    ∀ key ∈ reservedKeys, key ∉ entries.map Prod.fst)

def carriedNode : PyValue φ α ρ → Bool
  | .bytes _ => false
  | .dict entries => plainEntries entries
  | _ => true

def temporalTags : List String :=
  ["datetime", "date", "time"]

/-- The documented behaviour of the parts that are parameters: a datetime, date
or time reads back from its ISO format, an int from its digits, a reference from its payload,
also with doubles for its ints, and a JSON text and a pickle as the value. -/
structure CodecLaws (codecs : Codecs φ α ρ) : Prop where
  temporal : ∀ object, ∃ tag ∈ temporalTags, ∃ text,
    codecs.encodeObject object =
        some [(typeKey, .str tag), ("value", .str text)] ∧
      codecs.decodeObject tag
        [(typeKey, .str tag), ("value", .str text)] = some object
  intOf : ∀ value, codecs.intOf (.str (toString value)) = some value
  refFrom : ∀ dataRef, codecs.refFrom (codecs.refEntries dataRef) =
    some dataRef
  refFrom_struct : ∀ dataRef,
    codecs.refFrom
      (mapEntries (structNumber codecs) (codecs.refEntries dataRef)) =
        some dataRef
  refEntries : ∀ dataRef, plainEntries (codecs.refEntries dataRef) = true ∧
    ∀ entry ∈ codecs.refEntries dataRef,
      entry.2.isAtom = true ∧ jsonNode entry.2 = true ∧
        ∀ number, entry.2 = .int number → isBigInt number = false
  json : ∀ value blob, value.all jsonNode = true →
    codecs.jsonDumps value = some blob →
      codecs.jsonLoads blob = some value
  pickle : ∀ mode value blob, value.all carriedNode = true →
    codecs.pickleDumps mode value = some blob →
      codecs.pickleLoads mode blob = some value
  base64 : ∀ blob,
    codecs.restoreBlob (adaptBlobForJsonTransport codecs blob) = some blob
  truncate : codecs.truncate (codecs.ofInt 1) = 1

theorem ne_of_mem_temporalTags {tag other : String}
    (htag : tag ∈ temporalTags) (hother : other ∉ temporalTags) : tag ≠ other :=
  fun heq => hother (heq ▸ htag)

variable {entries : Entries φ α ρ}

theorem lookup_eq_none_of_key {key : String} (hkey : key ∉ entries.map Prod.fst) :
    entries.lookup key = none := by
  rw [List.lookup_eq_none_iff]
  intro entry hentry
  rw [bne_iff_ne]
  intro heq
  exact hkey (heq ▸ List.mem_map_of_mem hentry)

theorem dataRefPayload_eq_none (hkey : dataRefSentinel ∉ entries.map Prod.fst) :
    dataRefPayload entries = none := by
  rw [dataRefPayload.eq_def]
  split
  case h_1 key payload =>
    rw [if_neg]
    intro heq
    rw [heq] at hkey
    exact hkey List.mem_cons_self
  case h_2 => rfl

theorem not_mem_keys_of_plain {out : Entries φ α ρ} {key : String}
    (hplain : plainEntries entries = true)
    (hkeys : out.map Prod.fst = entries.map Prod.fst)
    (hkey : key ∈ reservedKeys) : key ∉ out.map Prod.fst := by
  rw [hkeys]
  exact (of_decide_eq_true hplain).2 key hkey

/-! ## `serialize_arrow_compatible` and `convert_dict_to_arrow` -/

structure ScalarChange (change : PyValue φ α ρ → PyValue φ α ρ) : Prop where
  int : ∀ value, (∃ number, change (.int value) = .int number) ∨
    ∃ number, change (.int value) = .float number
  fixed : ∀ value : PyValue φ α ρ, value.isAtom = true →
    (∀ number, value ≠ .int number) → change value = value

def untaggedInts (change : PyValue φ α ρ → PyValue φ α ρ) :
    PyValue φ α ρ → PyValue φ α ρ
  | .int value => if isBigInt value then .int value else change (.int value)
  | other => other

theorem scalarChange_id :
    ScalarChange (id : PyValue φ α ρ → PyValue φ α ρ) where
  int value := .inl ⟨value, rfl⟩
  fixed _ _ _ := rfl

theorem scalarChange_structNumber (codecs : Codecs φ α ρ) :
    ScalarChange (structNumber codecs) where
  int value := .inr ⟨codecs.ofInt value, rfl⟩
  fixed value _ hint := by
    cases value with
    | int number => exact absurd rfl (hint number)
    | _ => rfl

section Inverse

variable {codecs : Codecs φ α ρ}
variable {change : PyValue φ α ρ → PyValue φ α ρ}

variable {depth : ℕ} {value result : PyValue φ α ρ} {entries : Entries φ α ρ}

theorem depth_of_serializeStop
    (hstop : serializeStop codecs depth value ≠ some none) :
    ¬maxArrowRecursionDepth < depth := by
  intro hdepth
  rw [serializeStop.eq_def, if_pos hdepth] at hstop
  exact hstop rfl

theorem depth_of_serialize_eq_some {rest : Option (PyValue φ α ρ)}
    (hserialize : (serializeStop codecs depth value).getD rest = some result) :
    ¬maxArrowRecursionDepth < depth := by
  have hstop : serializeStop codecs depth value ≠ some none := by
    intro hraised
    rw [hraised] at hserialize
    cases hserialize
  exact depth_of_serializeStop hstop

section

variable (hdepth : ¬maxArrowRecursionDepth < depth)

include hdepth

theorem convertStop_tagged {tag text : String} (htag : tag ≠ "int64") :
    convertStop codecs depth
        (.dict [(typeKey, .str tag), ("value", .str text)]) =
      some ((codecs.decodeObject tag
        [(typeKey, .str tag), ("value", .str text)]).map .object) := by
  simp [convertStop, hdepth, dataRefPayload, typeKey, htag]

theorem convertStop_int64 {text : String} : convertStop codecs depth
        (.dict [(typeKey, .str "int64"), ("value", .str text)]) =
      some ((codecs.intOf (.str text)).map .int) := by
  simp [convertStop, hdepth, dataRefPayload, typeKey, List.lookup]

theorem convertStop_dataRef {payload : Entries φ α ρ} :
    convertStop codecs depth (.dict [(dataRefSentinel, .dict payload)]) =
      some ((codecs.refFrom payload).map .ref) := by
  simp [convertStop, hdepth, dataRefPayload]

end

/-- What `serializeStop` makes of a scalar: itself, a tagged text, or the payload
of a reference. -/
inductive SerializedAtom (codecs : Codecs φ α ρ) :
    PyValue φ α ρ → PyValue φ α ρ → Prop
  | same (value : PyValue φ α ρ) (hjson : jsonNode value = true)
      (hsmall : ∀ number, value = .int number → isBigInt number = false) :
      SerializedAtom codecs value value
  | bigInt (number : ℤ) (hbig : isBigInt number = true) :
      SerializedAtom codecs (.int number)
        (.dict [(typeKey, .str "int64"), ("value", .str (toString number))])
  | temporal (other : α) (tag text : String) (htag : tag ∈ temporalTags)
      (hdecode : codecs.decodeObject tag
        [(typeKey, .str tag), ("value", .str text)] = some other) :
      SerializedAtom codecs (.object other)
        (.dict [(typeKey, .str tag), ("value", .str text)])
  | dataRef (dataRef : ρ) :
      SerializedAtom codecs (.ref dataRef) (dataRefToPayload codecs dataRef)

theorem serializedAtom (laws : CodecLaws codecs) (hatom : value.isAtom = true)
    (hserialize : rewrite (serializeStop codecs) depth value = some result) :
    SerializedAtom codecs value result := by
  rw [rewrite_atom _ _ hatom] at hserialize
  have hdepth := depth_of_serialize_eq_some hserialize
  have hself (hjson : jsonNode value = true)
      (hsmall : ∀ number, value = .int number → isBigInt number = false)
      (hstop : serializeStop codecs depth value = none) :
      SerializedAtom codecs value result := by
    rw [hstop, Option.getD_none, Option.some.injEq] at hserialize
    rw [← hserialize]
    exact .same value hjson hsmall
  cases value with
  | list items | tuple items | dict entries => cases hatom
  | bytes content => simp [serializeStop, hdepth] at hserialize
  | int number =>
    by_cases hbig : isBigInt number = true
    · have hresult : result = .dict [(typeKey, .str "int64"),
          ("value", .str (toString number))] := by
        simpa [serializeStop, hdepth, hbig] using hserialize.symm
      rw [hresult]
      exact .bigInt number hbig
    · refine hself rfl ?_ (by simp [serializeStop, hdepth, hbig])
      intro found hfound
      rw [← PyValue.int.inj hfound]
      exact (Bool.not_eq_true _).mp hbig
  | ref dataRef =>
    have hresult : result = dataRefToPayload codecs dataRef := by
      simpa [serializeStop, hdepth] using hserialize.symm
    rw [hresult]
    exact .dataRef dataRef
  | object other =>
    obtain ⟨tag, htag, text, hencode, hdecode⟩ := laws.temporal other
    have hresult : result = .dict [(typeKey, .str tag),
        ("value", .str text)] := by
      simpa [serializeStop, hdepth, hencode] using hserialize.symm
    rw [hresult]
    exact .temporal other tag text htag hdecode
  | _ => exact hself rfl (by simp) (by simp [serializeStop, hdepth])

theorem convert_serialize_atom (laws : CodecLaws codecs)
    (hchange : ScalarChange change)
    (hrefs : ∀ dataRef, codecs.refFrom
      (mapEntries change (codecs.refEntries dataRef)) = some dataRef)
    (hatom : value.isAtom = true)
    (hserialize : rewrite (serializeStop codecs) depth value = some result) :
    rewrite (convertStop codecs) depth (mapAtoms change result) =
      some (untaggedInts change value) := by
  have hserialized := serializedAtom laws hatom hserialize
  rw [rewrite_atom _ _ hatom] at hserialize
  have hdepth := depth_of_serialize_eq_some hserialize
  have htagged (tag text : String) :
      mapAtoms change (.dict [(typeKey, .str tag), ("value", .str text)]) =
        .dict [(typeKey, .str tag), ("value", .str text)] := by
    have hstr : ∀ text, change (.str text) = .str text := fun text =>
      hchange.fixed _ rfl (by simp)
    simp [mapAtoms, mapEntries, hstr]
  cases hserialized with
  | same _ _ hsmall =>
    rw [mapAtoms_atom _ hatom]
    cases value with
    | list items | tuple items | dict entries => cases hatom
    | int number =>
      rw [untaggedInts, hsmall number rfl]
      cases hchange.int number with
      | inl hint =>
        obtain ⟨found, hfound⟩ := hint
        rw [hfound, rewrite_atom _ _ rfl]
        simp [convertStop, hdepth]
      | inr hfloat =>
        obtain ⟨found, hfound⟩ := hfloat
        rw [hfound, rewrite_atom _ _ rfl]
        simp [convertStop, hdepth]
    | _ =>
      rw [hchange.fixed _ rfl (by simp), rewrite_atom _ _ rfl]
      simp [convertStop, hdepth, untaggedInts]
  | bigInt number hbig =>
    rw [htagged, rewrite, convertStop_int64 hdepth, laws.intOf, untaggedInts,
      if_pos hbig]
    rfl
  | temporal other tag text htag hdecode =>
    rw [htagged, rewrite,
      convertStop_tagged hdepth (ne_of_mem_temporalTags htag (by decide)),
      hdecode]
    rfl
  | dataRef dataRef =>
    rw [dataRefToPayload, mapAtoms, mapEntries, mapAtoms, mapEntries,
      rewrite, convertStop_dataRef hdepth, hrefs]
    rfl

theorem convertStop_plain (hdepth : ¬maxArrowRecursionDepth < depth)
    (htag : typeKey ∉ entries.map Prod.fst)
    (href : dataRefSentinel ∉ entries.map Prod.fst) :
    convertStop codecs depth (.dict entries) = none := by
  simp [convertStop, hdepth, dataRefPayload_eq_none href,
    lookup_eq_none_of_key htag]

theorem maybeDataRef_dict_eq_none
    (href : dataRefSentinel ∉ entries.map Prod.fst) :
    maybeDataRef codecs (.dict entries) = none := by
  rw [maybeDataRef, dataRefPayload_eq_none href]
  rfl

theorem passes_serialize : Passes (serializeStop codecs) carriedNode := by
  intro depth value hatom hnode
  by_cases hdepth : maxArrowRecursionDepth < depth
  · right
    rw [serializeStop.eq_def, if_pos hdepth]
  · left
    cases value with
    | list items | tuple items => simp [serializeStop, hdepth]
    | dict entries =>
      have href : dataRefSentinel ∉ entries.map Prod.fst :=
        not_mem_keys_of_plain hnode rfl (by decide)
      simp [serializeStop, hdepth, maybeDataRef_dict_eq_none href]
    | _ => cases hatom

theorem inverts_legacy (laws : CodecLaws codecs) (hchange : ScalarChange change)
    (hrefs : ∀ dataRef, codecs.refFrom
      (mapEntries change (codecs.refEntries dataRef)) = some dataRef) :
    Inverts (serializeStop codecs) (convertStop codecs) change
      (untaggedInts change) carriedNode where
  passes := passes_serialize
  atom depth value result hatom _ hserialize :=
    convert_serialize_atom laws hchange hrefs hatom hserialize
  items depth value out _ hstop := by
    have hdepth := depth_of_serializeStop
      (by rw [hstop]; exact fun heq => by cases heq)
    simp [convertStop, hdepth]
  entries depth entries out hkeys hnode hstop := by
    have hdepth := depth_of_serializeStop
      (by rw [hstop]; exact fun heq => by cases heq)
    exact convertStop_plain hdepth
      (not_mem_keys_of_plain hnode hkeys (by decide))
      (not_mem_keys_of_plain hnode hkeys (by decide))

/-! ## `structured_v1` -/

/-- What the encoders make of a scalar: a JSON scalar with no big int, a tagged
text, or the payload of a reference. -/
inductive EncodedScalar (codecs : Codecs φ α ρ) : PyValue φ α ρ → Prop
  | scalar (value : PyValue φ α ρ) (hatom : value.isAtom = true)
      (hjson : jsonNode value = true)
      (hint : ∀ number, value = .int number → isBigInt number = false) :
      EncodedScalar codecs value
  | tagged (tag text : String) (htag : tag ≠ "") : EncodedScalar codecs
      (.dict [(typeKey, .str tag), ("value", .str text)])
  | dataRef (dataRef : ρ) :
      EncodedScalar codecs (dataRefToPayload codecs dataRef)

theorem encodedScalar_of_serialize (laws : CodecLaws codecs)
    (hatom : value.isAtom = true)
    (hserialize : rewrite (serializeStop codecs) depth value = some result) :
    EncodedScalar codecs result := by
  cases serializedAtom laws hatom hserialize with
  | same _ hjson hsmall => exact .scalar _ hatom hjson hsmall
  | bigInt number hbig => exact .tagged _ _ (by decide)
  | temporal other tag text htag hdecode =>
    exact .tagged _ _ (ne_of_mem_temporalTags htag (by decide))
  | dataRef dataRef => exact .dataRef dataRef

theorem rewrite_structuredEncode_atom (hatom : value.isAtom = true)
    (hnode : carriedNode value = true) :
    rewrite (structuredEncodeStop codecs) depth value =
      serializeArrowCompatible codecs value := by
  rw [rewrite_atom _ _ hatom]
  cases value with
  | list items | tuple items | dict entries => cases hatom
  | bytes content => cases hnode
  | _ => rfl

theorem rewrite_structuredDecode_atom (hatom : value.isAtom = true) :
    rewrite (structuredDecodeStop codecs) depth value =
      convertDictToArrow codecs value := by
  rw [rewrite_atom _ _ hatom]
  cases value with
  | list items | tuple items | dict entries => cases hatom
  | _ => rfl

theorem ScalarChange.isAtom (hchange : ScalarChange change)
    (hatom : value.isAtom = true) : (change value).isAtom = true := by
  by_cases hint : ∃ number, value = .int number
  · obtain ⟨number, hnumber⟩ := hint
    rw [hnumber]
    cases hchange.int number with
    | inl h | inr h =>
      obtain ⟨result, hresult⟩ := h
      rw [hresult]
      rfl
  · rw [hchange.fixed value hatom (fun number heq => hint ⟨number, heq⟩)]
    exact hatom

theorem structuredDecode_encodedScalar (hchange : ScalarChange change)
    (hencoded : EncodedScalar codecs value) :
    rewrite (structuredDecodeStop codecs) depth (mapAtoms change value) =
      convertDictToArrow codecs (mapAtoms change value) := by
  cases hencoded with
  | scalar _ hatom _ _ =>
    rw [mapAtoms_atom change hatom]
    exact rewrite_structuredDecode_atom (hchange.isAtom hatom)
  | tagged tag text htag =>
    have hstr : change (.str tag) = .str tag :=
      hchange.fixed _ rfl (fun number heq => by cases heq)
    rw [mapAtoms, mapEntries, mapAtoms_atom change rfl, hstr, rewrite]
    simp [structuredDecodeStop, typeKey, structuredBytesSentinel, truthy,
      htag, List.lookup, mapEntries]
  | dataRef dataRef =>
    rw [dataRefToPayload, mapAtoms, mapEntries, rewrite]
    simp [structuredDecodeStop, dataRefSentinel, structuredBytesSentinel,
      List.lookup, mapEntries]

theorem inverts_structured (laws : CodecLaws codecs)
    (hchange : ScalarChange change)
    (hrefs : ∀ dataRef, codecs.refFrom
      (mapEntries change (codecs.refEntries dataRef)) = some dataRef) :
    Inverts (structuredEncodeStop codecs) (structuredDecodeStop codecs) change
      (untaggedInts change) carriedNode where
  passes depth value hatom _ := by
    left
    cases value with
    | list items | tuple items | dict entries => rfl
    | _ => cases hatom
  atom depth value result hatom hnode hencode := by
    rw [rewrite_structuredEncode_atom hatom hnode] at hencode
    rw [structuredDecode_encodedScalar hchange
      (encodedScalar_of_serialize laws hatom hencode)]
    exact convert_serialize_atom laws hchange hrefs hatom hencode
  items depth value out _ _ := rfl
  entries depth entries out hkeys hnode _ := by
    have hbytes := lookup_eq_none_of_key
      (not_mem_keys_of_plain hnode hkeys
        (show structuredBytesSentinel ∈ reservedKeys by decide))
    have htag := lookup_eq_none_of_key
      (not_mem_keys_of_plain hnode hkeys
        (show typeKey ∈ reservedKeys by decide))
    have href := lookup_eq_none_of_key
      (not_mem_keys_of_plain hnode hkeys
        (show dataRefSentinel ∈ reservedKeys by decide))
    simp [structuredDecodeStop, hbytes, htag, href]

/-! ## What is encoded is JSON -/

noncomputable def settledNode (codecs : Codecs φ α ρ) : PyValue φ α ρ → Bool
  | .bytes _ | .ref _ | .object _ => false
  | .int value => !isBigInt value
  | .dict entries =>
    open Classical in
    decide (dataRefPayload entries = none ∨
      ∃ dataRef, dict entries = dataRefToPayload codecs dataRef)
  | _ => true

theorem allEntries_of_atoms {test : PyValue φ α ρ → Bool}
    (hentries : ∀ entry ∈ entries, entry.2.isAtom = true ∧ test entry.2 = true)
    : allEntries test entries = true := by
  induction entries with
  | nil => rfl
  | cons entry rest ih =>
    rw [List.forall_mem_cons] at hentries
    rw [allEntries, all_atom test hentries.1.1, hentries.1.2, ih hentries.2]
    rfl

theorem settledNode_atom (hatom : value.isAtom = true)
    (hjson : jsonNode value = true)
    (hint : ∀ number, value = .int number → isBigInt number = false) :
    settledNode codecs value = true := by
  cases value with
  | list items | tuple items | dict entries => cases hatom
  | bytes content | ref dataRef | object other => cases hjson
  | int number => rw [settledNode, hint number rfl]; rfl
  | _ => rfl

theorem settledNode_dict_iff :
    settledNode codecs (.dict entries) = true ↔
      dataRefPayload entries = none ∨
        ∃ dataRef, dict entries = dataRefToPayload codecs dataRef := by
  simp only [settledNode, decide_eq_true_eq]

theorem settledNode_dict (hentries : dataRefPayload entries = none) :
    settledNode codecs (.dict entries) = true :=
  settledNode_dict_iff.mpr (.inl hentries)

theorem all_settled_dict (hpayload : dataRefPayload entries = none)
    (hentries : allEntries (settledNode codecs) entries = true) :
    (dict entries).all (settledNode codecs) = true := by
  rw [all, settledNode_dict hpayload, hentries]
  rfl

theorem jsonNode_dict (hkeys : (entries.map Prod.fst).Nodup) :
    jsonNode (.dict entries) = true :=
  decide_eq_true hkeys

theorem nodup_of_plain {out : Entries φ α ρ}
    (hplain : plainEntries entries = true)
    (hkeys : out.map Prod.fst = entries.map Prod.fst) :
    (out.map Prod.fst).Nodup := by
  rw [hkeys]
  exact (of_decide_eq_true hplain).1

theorem asLists_of_json (value : PyValue φ α ρ)
    (hall : value.all jsonNode = true) : value.asLists = value := by
  rw [asLists]
  induction value using PyValue.induction with
  | atom value hatom => exact mapAtoms_atom id hatom
  | list items ih =>
    rw [all, Bool.and_eq_true] at hall
    have hitems : ∀ rest : List (PyValue φ α ρ),
        (∀ item ∈ rest, item.all jsonNode = true → mapAtoms id item = item) →
        allItems jsonNode rest = true → mapItems id rest = rest := by
      intro rest hsame hrest
      induction rest with
      | nil => rfl
      | cons item tail htail =>
        rw [List.forall_mem_cons] at hsame
        rw [allItems, Bool.and_eq_true] at hrest
        rw [mapItems, hsame.1 hrest.1, htail hsame.2 hrest.2]
    rw [mapAtoms, hitems items ih hall.2]
  | tuple items => cases hall
  | dict entries ih =>
    rw [all, Bool.and_eq_true] at hall
    have hentries : ∀ rest : Entries φ α ρ,
        (∀ entry ∈ rest, entry.2.all jsonNode = true →
          mapAtoms id entry.2 = entry.2) →
        allEntries jsonNode rest = true → mapEntries id rest = rest := by
      intro rest hsame hrest
      induction rest with
      | nil => rfl
      | cons entry tail htail =>
        rw [List.forall_mem_cons] at hsame
        rw [allEntries, Bool.and_eq_true] at hrest
        rw [mapEntries, hsame.1 hrest.1, htail hsame.2 hrest.2]
    rw [mapAtoms, hentries entries ih hall.2]

section

variable (laws : CodecLaws codecs)

include laws

theorem all_json_of_encodedScalar
    (hencoded : EncodedScalar codecs value) : value.all jsonNode = true := by
  cases hencoded with
  | scalar _ hatom hjson _ => rw [all_atom _ hatom, hjson]
  | tagged tag text _ => simp [all, allEntries, jsonNode, typeKey]
  | dataRef dataRef =>
    obtain ⟨hplain, hatoms⟩ := laws.refEntries dataRef
    have hpayload : allEntries jsonNode (codecs.refEntries dataRef) = true :=
      allEntries_of_atoms fun entry hentry =>
        ⟨(hatoms entry hentry).1, (hatoms entry hentry).2.1⟩
    have hnode : jsonNode (dict (codecs.refEntries dataRef)) = true :=
      jsonNode_dict (nodup_of_plain hplain rfl)
    simp [dataRefToPayload, all, allEntries, jsonNode, hpayload] at hnode ⊢
    exact hnode

theorem all_settled_of_encodedScalar (hencoded : EncodedScalar codecs value) :
    value.all (settledNode codecs) = true := by
  cases hencoded with
  | scalar _ hatom hjson hint =>
    rw [all_atom _ hatom, settledNode_atom hatom hjson hint]
  | tagged tag text _ => exact all_settled_dict rfl rfl
  | dataRef dataRef =>
    obtain ⟨hplain, hatoms⟩ := laws.refEntries dataRef
    have hpayload : allEntries (settledNode codecs)
        (codecs.refEntries dataRef) = true :=
      allEntries_of_atoms fun entry hentry =>
        ⟨(hatoms entry hentry).1, settledNode_atom (hatoms entry hentry).1
          (hatoms entry hentry).2.1 (hatoms entry hentry).2.2⟩
    have hinner : settledNode codecs (dict (codecs.refEntries dataRef)) =
        true :=
      settledNode_dict (dataRefPayload_eq_none
        (not_mem_keys_of_plain hplain rfl (by decide)))
    have houter : settledNode codecs (dataRefToPayload codecs dataRef) =
        true :=
      settledNode_dict_iff.mpr (.inr ⟨dataRef, rfl⟩)
    rw [dataRefToPayload] at houter ⊢
    rw [all, allEntries, houter, all, hinner, hpayload]
    rfl

theorem all_of_encodes {stop : Stop φ α ρ}
    (hpasses : Passes stop carriedNode)
    (hatoms : ∀ depth value result, value.isAtom = true →
      carriedNode value = true → rewrite stop depth value = some result →
        EncodedScalar codecs result) (hall : value.all carriedNode = true)
    (hrewrite : rewrite stop depth value = some result) :
    result.all jsonNode = true ∧ result.all (settledNode codecs) = true := by
  constructor
  · refine rewrite_kept hpasses ?_ (fun items => rfl) ?_ value depth result
      hall hrewrite
    · intro depth value result hatom hnode hresult
      exact all_json_of_encodedScalar laws
        (hatoms depth value result hatom hnode hresult)
    · intro entries out hkeys hnode
      exact jsonNode_dict (nodup_of_plain hnode hkeys)
  · refine rewrite_kept hpasses ?_ (fun items => rfl) ?_ value depth result
      hall hrewrite
    · intro depth value result hatom hnode hresult
      exact all_settled_of_encodedScalar laws
        (hatoms depth value result hatom hnode hresult)
    · intro entries out hkeys hnode
      exact settledNode_dict (dataRefPayload_eq_none
        (not_mem_keys_of_plain hnode hkeys (by decide)))

theorem all_of_serialize (hall : value.all carriedNode = true)
    (hserialize : serializeArrowCompatible codecs value = some result) :
    result.all jsonNode = true ∧ result.all (settledNode codecs) = true :=
  all_of_encodes laws passes_serialize
    (fun _ _ _ hatom _ hresult =>
      encodedScalar_of_serialize laws hatom hresult) hall hserialize

theorem all_of_structuredEncode (hall : value.all carriedNode = true)
    (hencode : rewrite (structuredEncodeStop codecs) 0 value = some result) :
    result.all jsonNode = true ∧ result.all (settledNode codecs) = true := by
  refine all_of_encodes laws ?_ ?_ hall hencode
  · intro depth value hatom _
    left
    cases value with
    | list items | tuple items | dict entries => rfl
    | _ => cases hatom
  · intro depth value result hatom hnode hresult
    rw [rewrite_structuredEncode_atom hatom hnode] at hresult
    exact encodedScalar_of_serialize laws hatom hresult

theorem settles_serialize :
    Settles (serializeStop codecs) (settledNode codecs) := by
  intro depth value hnode
  by_cases hdepth : maxArrowRecursionDepth < depth
  · right
    left
    rw [serializeStop.eq_def, if_pos hdepth]
  · cases value with
    | bytes content | ref dataRef | object other => cases hnode
    | int number =>
      left
      rw [settledNode, Bool.not_eq_true'] at hnode
      simp [serializeStop, hdepth, hnode]
    | dict entries =>
      cases settledNode_dict_iff.mp hnode with
      | inl hnone =>
        left
        simp [serializeStop, hdepth, maybeDataRef, hnone]
      | inr hpayload =>
        obtain ⟨dataRef, heq⟩ := hpayload
        right
        right
        have hread : maybeDataRef codecs (.dict entries) = some dataRef := by
          rw [heq, dataRefToPayload, maybeDataRef, dataRefPayload, if_pos rfl,
            Option.bind_some, laws.refFrom]
        rw [serializeStop.eq_def, if_neg hdepth]
        simp only [hread, Option.map_some, ← heq]
    | _ =>
      left
      simp [serializeStop, hdepth]

end

theorem settles_convert : Settles (convertStop codecs) carriedNode := by
  intro depth value hnode
  by_cases hdepth : maxArrowRecursionDepth < depth
  · right
    left
    rw [convertStop.eq_def, if_pos hdepth]
  · cases value with
    | tuple items =>
      right
      right
      simp [convertStop, hdepth]
    | dict entries =>
      left
      exact convertStop_plain hdepth
        (not_mem_keys_of_plain hnode rfl (by decide))
        (not_mem_keys_of_plain hnode rfl (by decide))
    | _ =>
      left
      simp [convertStop, hdepth]

/-! ## How deep a value may be nested -/

theorem convertStop_deep (hdeep : maxArrowRecursionDepth < depth) :
    convertStop codecs depth value = some none := by
  rw [convertStop.eq_def, if_pos hdeep]

theorem rewriteItems_carried {items : List (PyValue φ α ρ)}
    (hitems : ∀ item ∈ items, ∀ depth, item.all carriedNode = true →
      rewrite (convertStop codecs) depth item =
        if depth + nesting item ≤ maxArrowRecursionDepth then some item
        else none) (hdepth : depth ≤ maxArrowRecursionDepth)
    (hall : allItems carriedNode items = true) :
    rewriteItems (convertStop codecs) (depth + 1) items =
      if depth + nestingItems items ≤ maxArrowRecursionDepth then some items
      else none := by
  induction items with
  | nil =>
    rw [rewriteItems, nestingItems, Nat.add_zero, if_pos hdepth]
  | cons item rest ih =>
    rw [List.forall_mem_cons] at hitems
    rw [allItems, Bool.and_eq_true] at hall
    rw [rewriteItems, hitems.1 (depth + 1) hall.1, ih hitems.2 hall.2,
      nestingItems]
    by_cases hitem : depth + 1 + nesting item ≤ maxArrowRecursionDepth
    · by_cases hrest : depth + nestingItems rest ≤ maxArrowRecursionDepth
      · rw [if_pos hitem, if_pos hrest, if_pos (by omega)]
        rfl
      · rw [if_pos hitem, if_neg hrest, if_neg (by omega)]
        rfl
    · have hmax : ¬depth + max (nesting item + 1) (nestingItems rest) ≤
          maxArrowRecursionDepth := by
        omega
      rw [if_neg hitem, if_neg hmax]
      rfl

theorem rewriteEntries_carried
    (hentries : ∀ entry ∈ entries, ∀ depth,
      entry.2.all carriedNode = true →
        rewrite (convertStop codecs) depth entry.2 =
          if depth + nesting entry.2 ≤ maxArrowRecursionDepth then
            some entry.2 else none) (hdepth : depth ≤ maxArrowRecursionDepth)
    (hall : allEntries carriedNode entries = true) :
    rewriteEntries (convertStop codecs) (depth + 1) entries =
      if depth + nestingEntries entries ≤ maxArrowRecursionDepth then
        some entries else none := by
  induction entries with
  | nil =>
    rw [rewriteEntries, nestingEntries, Nat.add_zero, if_pos hdepth]
  | cons entry rest ih =>
    rw [List.forall_mem_cons] at hentries
    rw [allEntries, Bool.and_eq_true] at hall
    rw [rewriteEntries, hentries.1 (depth + 1) hall.1, ih hentries.2 hall.2,
      nestingEntries]
    by_cases hvalue : depth + 1 + nesting entry.2 ≤ maxArrowRecursionDepth
    · by_cases hrest : depth + nestingEntries rest ≤ maxArrowRecursionDepth
      · rw [if_pos hvalue, if_pos hrest, if_pos (by omega)]
        rfl
      · rw [if_pos hvalue, if_neg hrest, if_neg (by omega)]
        rfl
    · have hmax : ¬depth + max (nesting entry.2 + 1) (nestingEntries rest) ≤
          maxArrowRecursionDepth := by
        omega
      rw [if_neg hvalue, if_neg hmax]
      rfl

theorem rewrite_convert_carried (value : PyValue φ α ρ) (depth : ℕ)
    (hall : value.all carriedNode = true) :
    rewrite (convertStop codecs) depth value =
      if depth + nesting value ≤ maxArrowRecursionDepth then some value
      else none := by
  induction value using PyValue.induction generalizing depth with
  | atom value hatom =>
    rw [rewrite_atom _ _ hatom, nesting_atom hatom]
    by_cases hdeep : maxArrowRecursionDepth < depth
    · rw [convertStop_deep hdeep, if_neg (by omega)]
      rfl
    · rw [if_pos (by omega)]
      cases value with
      | list items | tuple items | dict entries => cases hatom
      | _ => simp [convertStop, hdeep]
  | list items ih =>
    rw [all, Bool.and_eq_true] at hall
    rw [rewrite, nesting]
    by_cases hdeep : maxArrowRecursionDepth < depth
    · rw [convertStop_deep hdeep, if_neg (by omega)]
      rfl
    · rw [rewriteItems_carried ih (Nat.le_of_not_lt hdeep) hall.2]
      by_cases hfits : depth + nestingItems items ≤ maxArrowRecursionDepth
      · rw [if_pos hfits, if_pos hfits]
        simp [convertStop, hdeep]
      · rw [if_neg hfits, if_neg hfits]
        simp [convertStop, hdeep]
  | tuple items =>
    have hflat : nesting (tuple items) = 0 := rfl
    rw [rewrite, hflat]
    by_cases hdeep : maxArrowRecursionDepth < depth
    · rw [convertStop_deep hdeep, if_neg (by omega)]
      rfl
    · rw [if_pos (by omega)]
      simp [convertStop, hdeep]
  | dict entries ih =>
    rw [all, Bool.and_eq_true] at hall
    rw [rewrite, nesting]
    by_cases hdeep : maxArrowRecursionDepth < depth
    · rw [convertStop_deep hdeep, if_neg (by omega)]
      rfl
    · rw [rewriteEntries_carried ih (Nat.le_of_not_lt hdeep) hall.2,
        convertStop_plain hdeep
        (not_mem_keys_of_plain hall.1 rfl (by decide))
        (not_mem_keys_of_plain hall.1 rfl (by decide))]
      by_cases hfits : depth + nestingEntries entries ≤ maxArrowRecursionDepth
      · rw [if_pos hfits, if_pos hfits]
        rfl
      · rw [if_neg hfits, if_neg hfits]
        rfl

/-- The encoder of `legacy_v1` raises where the decoder would. -/
theorem shallow (value : PyValue φ α ρ) (depth : ℕ) (result : PyValue φ α ρ)
    (hall : value.all carriedNode = true)
    (hserialize : rewrite (serializeStop codecs) depth value = some result) :
    depth + nesting value.asLists ≤ maxArrowRecursionDepth := by
  refine rewrite_induction (motive := fun depth value _ =>
    depth + nesting value.asLists ≤ maxArrowRecursionDepth)
    passes_serialize ?_ ?_ ?_ value depth result hall hserialize
  · intro depth value result hatom _ hresult
    rw [rewrite_atom _ _ hatom] at hresult
    have hdepth := depth_of_serialize_eq_some hresult
    rw [asLists, mapAtoms_atom _ hatom, id_eq, nesting_atom hatom]
    omega
  · intro depth value items out hvalue _ hnone hitems
    have hstop : serializeStop codecs depth value ≠ some none := by
      simp [hnone]
    have hdepth := depth_of_serializeStop hstop
    have hbelow : depth + nestingItems (mapItems id items) ≤
        maxArrowRecursionDepth := by
      clear hvalue hnone hstop
      induction hitems with
      | nil => exact Nat.le_of_not_lt hdepth
      | cons hhead _ ih =>
        rw [asLists] at hhead
        rw [mapItems, nestingItems]
        omega
    obtain rfl | rfl := hvalue <;> exact hbelow
  · intro depth entries out htest hnone hkeys hentries
    have hstop : serializeStop codecs depth (dict entries) ≠ some none := by
      simp [hnone]
    have hdepth := depth_of_serializeStop hstop
    have hbelow : depth + nestingEntries (mapEntries id entries) ≤
        maxArrowRecursionDepth := by
      clear htest hnone hstop hkeys
      induction hentries with
      | nil => exact Nat.le_of_not_lt hdepth
      | cons hhead _ ih =>
        have hvalue := hhead.2
        rw [asLists] at hvalue
        rw [mapEntries, nestingEntries]
        omega
    exact hbelow

end Inverse

/-! ## Payloads -/

section Payloads

variable {codecs : Codecs φ α ρ}

theorem mapAtoms_untaggedInts_id (value : PyValue φ α ρ) :
    mapAtoms (untaggedInts id) value = value.asLists := by
  refine mapAtoms_congr ?_ value
  intro atom _
  cases atom with
  | int number =>
    rw [untaggedInts]
    split <;> rfl
  | _ => rfl

theorem refFrom_id (laws : CodecLaws codecs) (dataRef : ρ) :
    codecs.refFrom (mapEntries id (codecs.refEntries dataRef)) =
      some dataRef := by
  have hsame : ∀ entries : Entries φ α ρ,
      (∀ entry ∈ entries, entry.2.isAtom = true) →
        mapEntries id entries = entries := by
    intro entries hatoms
    induction entries with
    | nil => rfl
    | cons entry rest ih =>
      rw [List.forall_mem_cons] at hatoms
      rw [mapEntries, mapAtoms_atom id hatoms.1, ih hatoms.2]
      rfl
  rw [hsame _ fun entry hentry =>
    ((laws.refEntries dataRef).2 entry hentry).1]
  exact laws.refFrom dataRef

variable {document value : PyValue φ α ρ}

theorem structuredDocument_eq_some
    (hdocument : structuredDocument codecs value = some document) :
    ∃ payload, rewrite (structuredEncodeStop codecs) 0 value = some payload ∧
      document = .dict [(structuredSentinel,
        .dict [("version", .int 1), ("payload", payload)])] := by
  rw [structuredDocument, Option.map_eq_some_iff] at hdocument
  obtain ⟨payload, hpayload, heq⟩ := hdocument
  exact ⟨payload, hpayload, heq.symm⟩

theorem all_of_structuredDocument (laws : CodecLaws codecs)
    (hall : value.all carriedNode = true)
    (hdocument : structuredDocument codecs value = some document) :
    document.all jsonNode = true ∧
      document.all (settledNode codecs) = true := by
  obtain ⟨payload, hpayload, heq⟩ := structuredDocument_eq_some hdocument
  obtain ⟨hjson, hsettled⟩ := all_of_structuredEncode laws hall hpayload
  constructor
  · rw [heq]
    simp [all, allEntries, jsonNode, hjson]
  · have hversion : settledNode codecs (.int 1) = true := rfl
    have hinner : (dict [("version", .int 1), ("payload", payload)]).all
        (settledNode codecs) = true :=
      all_settled_dict rfl (by simp [allEntries, all, hversion, hsettled])
    rw [heq]
    exact all_settled_dict rfl (by simp [allEntries, hinner])

theorem structuredRead_document (laws : CodecLaws codecs)
    {change : PyValue φ α ρ → PyValue φ α ρ} (hchange : ScalarChange change)
    (hrefs : ∀ dataRef, codecs.refFrom
      (mapEntries change (codecs.refEntries dataRef)) = some dataRef)
    (hversion : versionNumber codecs (change (.int 1)) = 1)
    (hall : value.all carriedNode = true)
    (hdocument : structuredDocument codecs value = some document) :
    structuredRead codecs (mapAtoms change document) =
      some (mapAtoms (untaggedInts change) value) := by
  obtain ⟨payload, hpayload, heq⟩ := structuredDocument_eq_some hdocument
  have hback := (inverts_structured laws hchange hrefs).rewrite_rewrite value 0
    payload hall hpayload
  rw [heq]
  simp [mapAtoms, mapEntries, structuredRead, List.lookup, hversion, hback]

def throughBytes (mode : Mode) (value : PyValue φ α ρ) : PyValue φ α ρ :=
  if mode.isPickle then value else value.asLists

theorem decode_encodeTransportPayloadBytes_eq (laws : CodecLaws codecs)
    {mode : Mode} {blob : Blob} (hall : value.all carriedNode = true)
    (hencode : encodeTransportPayloadBytes codecs mode value = some blob) :
    decodeTransportPayloadBytes codecs mode blob =
      some (throughBytes mode value) := by
  have hrefs := refFrom_id laws
  cases mode with
  | legacyV1 =>
    rw [encodeTransportPayloadBytes, Option.bind_eq_some_iff] at hencode
    obtain ⟨json, hserialize, hdumps⟩ := hencode
    have hloads := laws.json json blob (all_of_serialize laws hall
      hserialize).1 hdumps
    have hsame : mapAtoms id json = json :=
      asLists_of_json json (all_of_serialize laws hall hserialize).1
    have hback := (inverts_legacy laws scalarChange_id hrefs).rewrite_rewrite
      value 0 json hall hserialize
    rw [mapAtoms_untaggedInts_id, hsame] at hback
    rw [decodeTransportPayloadBytes, hloads, Option.bind_some]
    exact hback
  | structuredV1 =>
    rw [encodeTransportPayloadBytes, structuredDumps,
      Option.bind_eq_some_iff] at hencode
    obtain ⟨document, hdocument, hdumps⟩ := hencode
    have hloads := laws.json document blob (all_of_structuredDocument laws
      hall hdocument).1 hdumps
    have hsame : mapAtoms id document = document :=
      asLists_of_json document (all_of_structuredDocument laws hall
        hdocument).1
    have hback := structuredRead_document laws scalarChange_id hrefs rfl hall
      hdocument
    rw [mapAtoms_untaggedInts_id, hsame] at hback
    rw [decodeTransportPayloadBytes, structuredLoads, hloads,
      Option.bind_some]
    exact hback
  | pickleStableV1 | pickleNativeV1 => exact laws.pickle _ value blob hall hencode

theorem decode_encodeTransportPayloadBytes (laws : CodecLaws codecs)
    {mode : Mode} {blob : Blob} (hall : value.all carriedNode = true)
    (hencode : encodeTransportPayloadBytes codecs mode value = some blob) :
    ∃ out, decodeTransportPayloadBytes codecs mode blob = some out ∧
      out.asLists = value.asLists := by
  refine ⟨throughBytes mode value,
    decode_encodeTransportPayloadBytes_eq laws hall hencode, ?_⟩
  rw [throughBytes]
  split
  · rfl
  · exact asLists_asLists value

end Payloads

/-! ## Structs -/

section Structs

variable {codecs : Codecs φ α ρ}

variable {value fields : PyValue φ α ρ} {mode : Mode}

theorem noEnvelope_of_serialize (laws : CodecLaws codecs)
    {entries : Entries φ α ρ} (hall : value.all carriedNode = true)
    (hserialize : serializeArrowCompatible codecs value = some (.dict entries))
    : transportEnvelopeSentinel ∉ entries.map Prod.fst := by
  have hscalar : value.isAtom = true →
      transportEnvelopeSentinel ∉ entries.map Prod.fst := by
    intro hatom
    have hencoded := encodedScalar_of_serialize laws hatom hserialize
    generalize hresult : dict entries = result at hencoded
    cases hencoded with
    | scalar _ hscalar _ _ => rw [← hresult] at hscalar; cases hscalar
    | tagged tag text _ =>
      rw [PyValue.dict.inj hresult]
      simp [transportEnvelopeSentinel, typeKey]
    | dataRef dataRef =>
      rw [dataRefToPayload] at hresult
      rw [PyValue.dict.inj hresult]
      simp [transportEnvelopeSentinel, dataRefSentinel]
  cases value with
  | list items | tuple items =>
    rw [all, Bool.and_eq_true] at hall
    rw [serializeArrowCompatible, rewrite] at hserialize
    obtain ⟨_, out, _, hresult⟩ :=
      passes_serialize.eq_some rfl hall.1 hserialize
    cases hresult
  | dict original =>
    rw [all, Bool.and_eq_true] at hall
    rw [serializeArrowCompatible, rewrite] at hserialize
    obtain ⟨_, out, hout, hresult⟩ :=
      passes_serialize.eq_some rfl hall.1 hserialize
    rw [PyValue.dict.inj hresult]
    exact not_mem_keys_of_plain hall.1 (keys_rewriteEntries hout) (by decide)
  | _ => exact hscalar rfl

theorem structUpdate_eq_some (hupdate : structUpdate codecs value = some fields)
    :
    fields = mapAtoms (structNumber codecs) value ∧
      ∃ entries, value = .dict entries := by
  cases value with
  | dict entries =>
    rw [structUpdate] at hupdate
    split at hupdate
    · exact ⟨(Option.some.inj hupdate).symm, entries, rfl⟩
    · cases hupdate
  | _ => cases hupdate

theorem structOf_eq_some (laws : CodecLaws codecs) {encoded : PyValue φ α ρ}
    (hencode : encodeTransportValue codecs mode value = some encoded)
    (hsettled : encoded.all (settledNode codecs) = true)
    (hstruct : structOf codecs mode value = some fields) :
    fields = mapAtoms (structNumber codecs) encoded := by
  rw [structOf, hencode, Option.bind_some, Option.bind_eq_some_iff]
    at hstruct
  obtain ⟨again, hagain, hupdate⟩ := hstruct
  have hsame : again.asLists = encoded.asLists :=
    (settles_serialize laws).unchanged encoded 0 again hsettled hagain
  rw [(structUpdate_eq_some hupdate).1, ← mapAtoms_asLists, hsame,
    mapAtoms_asLists]

theorem all_json_structNumber (hall : value.all jsonNode = true) :
    (mapAtoms (structNumber codecs) value).all jsonNode = true := by
  refine all_mapAtoms ?_ (fun items => rfl) ?_ value hall
  · intro atom hatom hnode
    cases atom with
    | list items | tuple items | dict entries => cases hatom
    | int number => rfl
    | _ => exact hnode
  · intro entries out hkeys hnode
    refine jsonNode_dict ?_
    rw [hkeys]
    exact of_decide_eq_true hnode

theorem all_settled_envelope {payload : PyValue φ α ρ}
    (hpayload : payload.all (settledNode codecs) = true) :
    (transportEnvelope mode payload).all (settledNode codecs) = true := by
  have hversion : settledNode codecs (.int 1) = true := rfl
  have hcodec : settledNode codecs (.str mode.name) = true := rfl
  have hinner : (dict [("codec", .str mode.name), ("version", .int 1),
      ("payload", payload)]).all (settledNode codecs) = true :=
    all_settled_dict rfl (by simp [allEntries, all, hversion, hcodec, hpayload])
  exact all_settled_dict rfl (by simp [allEntries, hinner])

/-- What a Struct brings of a value: a pickle is a text in it, anything else
has doubles for the ints that are not tagged. -/
def throughStruct (codecs : Codecs φ α ρ) (mode : Mode)
    (value : PyValue φ α ρ) : PyValue φ α ρ :=
  if mode.isPickle then value
  else mapAtoms (untaggedInts (structNumber codecs)) value

theorem decode_structOf_legacy (laws : CodecLaws codecs)
    (hall : value.all carriedNode = true)
    (hstruct : structOf codecs .legacyV1 value = some fields) :
    decodeTransportValue codecs fields =
      some (throughStruct codecs .legacyV1 value) := by
  obtain ⟨encoded, hencode⟩ :
      ∃ encoded, encodeTransportValue codecs .legacyV1 value =
        some encoded := by
    rw [structOf, Option.bind_eq_some_iff] at hstruct
    obtain ⟨again, hagain, _⟩ := hstruct
    rw [Option.bind_eq_some_iff] at hagain
    obtain ⟨encoded, hencode, _⟩ := hagain
    exact ⟨encoded, hencode⟩
  have hsettled := (all_of_serialize laws hall hencode).2
  have hfields := structOf_eq_some laws hencode hsettled hstruct
  have hback := (inverts_legacy laws (scalarChange_structNumber codecs)
    laws.refFrom_struct).rewrite_rewrite value 0 encoded hall hencode
  have hconvert : decodeTransportValue codecs fields =
      convertDictToArrow codecs fields := by
    cases hshape : fields with
    | dict entries =>
      have hkeys : transportEnvelopeSentinel ∉ entries.map Prod.fst := by
        rw [hfields] at hshape
        cases encoded with
        | dict original =>
          rw [mapAtoms, PyValue.dict.injEq] at hshape
          rw [← hshape, keys_mapEntries]
          exact noEnvelope_of_serialize laws hall hencode
        | int number | _ => cases hshape
      rw [decodeTransportValue, lookup_eq_none_of_key hkeys]
    | _ => rfl
  rw [hconvert, hfields]
  exact hback

theorem modeOfName_name (mode : Mode) : modeOfName mode.name = some mode := by
  cases mode with
  | legacyV1 | structuredV1 | pickleStableV1 | pickleNativeV1 => decide +kernel

theorem decode_structOf_structured (laws : CodecLaws codecs)
    (hall : value.all carriedNode = true)
    (hstruct : structOf codecs .structuredV1 value = some fields)
    {decoded : PyValue φ α ρ}
    (hdecode : decodeTransportValue codecs fields = some decoded) :
    decoded = throughStruct codecs .structuredV1 value := by
  obtain ⟨document, hdocument, blob, hdumps, hloads⟩ :
      ∃ document, structuredDocument codecs value = some document ∧
        ∃ blob, codecs.jsonDumps document = some blob ∧
          codecs.jsonLoads blob = some document := by
    rw [structOf, encodeTransportValue, structuredDumps] at hstruct
    rw [Option.bind_eq_some_iff] at hstruct
    obtain ⟨again, hagain, _⟩ := hstruct
    rw [Option.bind_eq_some_iff] at hagain
    obtain ⟨encoded, hencode, _⟩ := hagain
    rw [Option.map_eq_some_iff] at hencode
    obtain ⟨loaded, hloaded, _⟩ := hencode
    rw [Option.bind_eq_some_iff] at hloaded
    obtain ⟨blob, hblob, _⟩ := hloaded
    rw [Option.bind_eq_some_iff] at hblob
    obtain ⟨document, hdocument, hdumps⟩ := hblob
    exact ⟨document, hdocument, blob, hdumps, laws.json document blob
      (all_of_structuredDocument laws hall hdocument).1 hdumps⟩
  have hencode : encodeTransportValue codecs .structuredV1 value =
      some (transportEnvelope .structuredV1 document) := by
    rw [encodeTransportValue, structuredDumps, hdocument, Option.bind_some,
      hdumps, Option.bind_some, hloads, Option.map_some]
  obtain ⟨hjson, hsettled⟩ := all_of_structuredDocument laws hall hdocument
  have hfields := structOf_eq_some laws hencode (all_settled_envelope hsettled)
    hstruct
  have hversion : versionNumber codecs (structNumber codecs (.int 1)) = 1 :=
    laws.truncate
  have hback := structuredRead_document laws
    (scalarChange_structNumber codecs) laws.refFrom_struct hversion hall
    hdocument
  have hread : decodeTransportValue codecs fields =
      ((codecs.jsonDumps (mapAtoms (structNumber codecs) document)).bind
        codecs.jsonLoads).bind (structuredRead codecs) := by
    rw [hfields, transportEnvelope]
    simp [mapAtoms, mapEntries, structNumber, decodeTransportValue,
      List.lookup, modeOfName_name]
  rw [hread, Option.bind_eq_some_iff] at hdecode
  obtain ⟨loaded, hloaded, hdecoded⟩ := hdecode
  rw [Option.bind_eq_some_iff] at hloaded
  obtain ⟨again, hagain, hagainLoads⟩ := hloaded
  rw [laws.json _ again (all_json_structNumber hjson) hagain,
    Option.some.injEq] at hagainLoads
  rw [← hagainLoads, hback, Option.some.injEq] at hdecoded
  rw [← hdecoded]
  rfl

theorem decode_structOf_pickle (laws : CodecLaws codecs)
    (hmode : mode.isPickle = true) (hall : value.all carriedNode = true)
    (hstruct : structOf codecs mode value = some fields) :
    decodeTransportValue codecs fields = some value := by
  have hencodes : encodeTransportValue codecs mode value =
      (codecs.pickleDumps mode value).map fun blob =>
        transportEnvelope mode (adaptBlobForJsonTransport codecs blob) := by
    cases mode with
    | legacyV1 | structuredV1 => cases hmode
    | _ => rfl
  obtain ⟨blob, hdumps⟩ : ∃ blob, codecs.pickleDumps mode value =
      some blob := by
    rw [structOf, hencodes] at hstruct
    cases hblob : codecs.pickleDumps mode value with
    | none =>
      rw [hblob] at hstruct
      cases hstruct
    | some blob => exact ⟨blob, rfl⟩
  have hencode : encodeTransportValue codecs mode value =
      some (transportEnvelope mode
        (adaptBlobForJsonTransport codecs blob)) := by
    rw [hencodes, hdumps, Option.map_some]
  have hsettled : (adaptBlobForJsonTransport codecs blob).all
      (settledNode codecs) = true :=
    all_settled_dict rfl rfl
  have hfields := structOf_eq_some laws hencode
    (all_settled_envelope hsettled) hstruct
  have hblob := laws.base64 blob
  have hloads := laws.pickle mode value blob hall hdumps
  rw [adaptBlobForJsonTransport] at hblob
  rw [hfields, transportEnvelope, adaptBlobForJsonTransport]
  cases mode with
  | legacyV1 | structuredV1 => cases hmode
  | pickleStableV1 | pickleNativeV1 =>
    simp [mapAtoms, mapEntries, structNumber, decodeTransportValue,
      List.lookup, modeOfName_name, hblob, hloads]

theorem decode_structOf (laws : CodecLaws codecs)
    (hall : value.all carriedNode = true)
    (hstruct : structOf codecs mode value = some fields)
    {decoded : PyValue φ α ρ}
    (hdecode : decodeTransportValue codecs fields = some decoded) :
    decoded = throughStruct codecs mode value := by
  cases mode with
  | legacyV1 =>
    rw [decode_structOf_legacy laws hall hstruct, Option.some.injEq]
      at hdecode
    exact hdecode.symm
  | structuredV1 =>
    exact decode_structOf_structured laws hall hstruct hdecode
  | pickleStableV1 | pickleNativeV1 =>
    rw [decode_structOf_pickle laws rfl hall hstruct, Option.some.injEq]
      at hdecode
    exact hdecode.symm

end Structs

/-! ## What encoding and a Struct change -/

section Changes

variable {codecs : Codecs φ α ρ}

def untaggedNode : PyValue φ α ρ → Bool
  | .object _ | .ref _ => false
  | .int value => !isBigInt value
  | _ => true

def noPlainIntNode : PyValue φ α ρ → Bool
  | .int value => isBigInt value
  | _ => true

theorem throughStruct_eq_asLists_iff (value : PyValue φ α ρ) :
    mapAtoms (untaggedInts (structNumber codecs)) value = value.asLists ↔
      value.all noPlainIntNode = true := by
  refine mapAtoms_eq_iff ?_ ?_ value
  · intro atom hatom
    cases atom with
    | list items | tuple items | dict entries => cases hatom
    | int number =>
      rw [untaggedInts, noPlainIntNode]
      by_cases hbig : isBigInt number = true
      · rw [if_pos hbig]
        exact ⟨fun _ => hbig, fun _ => rfl⟩
      · rw [if_neg hbig]
        exact ⟨fun heq => (by cases heq), fun h => absurd h hbig⟩
    | _ => exact ⟨fun _ => rfl, fun _ => rfl⟩
  · intro value hatom
    cases value with
    | list items | tuple items | dict entries => rfl
    | _ => cases hatom

theorem encodedScalar_eq_iff (laws : CodecLaws codecs) {depth : ℕ}
    {value result : PyValue φ α ρ} (hatom : value.isAtom = true)
    (hserialize : rewrite (serializeStop codecs) depth value = some result) :
    result = value ↔ untaggedNode value = true := by
  cases serializedAtom laws hatom hserialize with
  | same _ hjson hsmall =>
    refine iff_of_true rfl ?_
    cases value with
    | int number => simp [untaggedNode, hsmall number rfl]
    | ref dataRef | object other => cases hjson
    | _ => rfl
  | bigInt number hbig => simp [untaggedNode, hbig]
  | temporal other tag text htag hdecode => simp [untaggedNode]
  | dataRef dataRef => simp [untaggedNode, dataRefToPayload]

/-- The encoding of a value is the value exactly if nothing in it is tagged. -/
theorem taggedOnly (laws : CodecLaws codecs) (value : PyValue φ α ρ) (depth : ℕ)
    (result : PyValue φ α ρ) (hall : value.all carriedNode = true)
    (hserialize : rewrite (serializeStop codecs) depth value = some result) :
    result = value.asLists ↔ value.all untaggedNode = true := by
  refine rewrite_induction (motive := fun _ value result =>
    result = value.asLists ↔ value.all untaggedNode = true)
    passes_serialize ?_ ?_ ?_ value depth result hall hserialize
  · intro depth value result hatom _ hresult
    rw [all_atom _ hatom, asLists, mapAtoms_atom _ hatom]
    exact encodedScalar_eq_iff laws hatom hresult
  · intro depth value items out hvalue _ _ hitems
    have hout : out = mapItems id items ↔ allItems untaggedNode items = true := by
      clear hvalue
      induction hitems with
      | nil => simp [mapItems, allItems]
      | cons hhead _ ih =>
        rw [asLists] at hhead
        rw [mapItems, allItems, List.cons.injEq, Bool.and_eq_true, hhead, ih]
    obtain rfl | rfl := hvalue <;>
      simp [asLists, mapAtoms, all, untaggedNode, hout]
  · intro depth entries out htest hnone hkeys hentries
    have hout : out = mapEntries id entries ↔
        allEntries untaggedNode entries = true := by
      clear htest hnone hkeys
      induction hentries with
      | nil => simp [mapEntries, allEntries]
      | @cons entry result _ _ hhead _ ih =>
        have hvalue := hhead.2
        rw [asLists] at hvalue
        rw [mapEntries, allEntries, List.cons.injEq, Bool.and_eq_true, ih,
          ← hvalue, Prod.ext_iff, hhead.1]
        simp only [true_and]
    simp [asLists, mapAtoms, all, untaggedNode, hout]

end Changes

end PycloudParallel.Transport
