import PycloudParallel.TransportRoundTrips
import PycloudParallel.TransportStructured

/-!
# `structured_v1` round trips

`structured_loads` gives back what `structured_dumps` was given, up to tuples,
kinds of bytes and the texts of keys, exactly for the readable values.
-/

namespace PycloudParallel.Transport

open PyValue KeyedValue

variable {κ φ α ρ : Type} {codecs : Codecs φ α ρ} {refReads : ρ → Prop}
  {keyText : κ → String}

/-- What `convert_dict_to_arrow` makes of the encoding of a value. -/
def ConvertsBack (codecs : Codecs φ α ρ) (keyText : κ → String)
    (refReads : ρ → Prop) (value : KeyedValue κ φ α ρ) : Prop :=
  ∀ depth encoded, structuredEncode codecs keyText value = some encoded →
    (rewrite (convertStop codecs) depth encoded =
        some (asRead keyText value) ↔
      Convertible keyText refReads depth value)

theorem comprehension_encoded {entries : KeyedEntries κ φ α ρ}
    {items : Entries φ α ρ}
    (hencode : structuredEncodeEntries codecs keyText entries = some items)
    (hnodup : (keyTexts keyText entries).Nodup) : comprehension items = items :=
  comprehension_of_nodup ((encodedEntries_structured hencode).keys ▸ hnodup)

variable {items : List (KeyedValue κ φ α ρ)} {parts : List (PyValue φ α ρ)}

theorem convertsBack_list
    (hitems : ∀ item ∈ items, ConvertsBack codecs keyText refReads item)
    {depth : ℕ}
    (hencode : structuredEncodeItems codecs keyText items = some parts) :
    rewrite (convertStop codecs) depth (.list parts) =
        some (.list (asReadItems keyText items)) ↔
      depth ≤ maxArrowRecursionDepth ∧
        ConvertibleItems keyText refReads (depth + 1) items := by
  rw [convertibleItems_iff, ← rewriteItems_eq_asRead_iff
    (forall₂_structuredEncodeItems hencode) fun item hitem =>
      hitems item hitem (depth + 1), rewrite]
  by_cases hdepth : maxArrowRecursionDepth < depth
  · simp [convertStop, hdepth, not_le.mpr hdepth]
  · simp [convertStop, hdepth, not_lt.mp hdepth]

theorem convertsBack (laws : JsonLaws codecs)
    (refs : ReadsRefs codecs refReads) (value : KeyedValue κ φ α ρ) :
    ConvertsBack codecs keyText refReads value := by
  induction value using KeyedValue.induction with
  | scalar scalar =>
    intro depth encoded hencode
    rw [asRead, Convertible]
    exact (encoded_scalar laws hencode).convert_iff laws refs depth
  | bytes kind content =>
    intro depth encoded hencode
    rw [structuredEncode, Option.some.injEq] at hencode
    rw [← hencode, asRead, Convertible, iff_false]
    intro hback
    have hkey : dataRefSentinel ≠ structuredBytesSentinel := by decide
    have htype : (typeKey == structuredBytesSentinel) = false := by decide
    rw [rewrite] at hback
    by_cases hdepth : maxArrowRecursionDepth < depth
    · simp [convertStop, hdepth] at hback
    · simp [convertStop, hdepth, adaptBlobForJsonTransport, dataRefPayload,
        hkey.symm, List.lookup, htype] at hback
  | list items ih =>
    intro depth encoded hencode
    obtain ⟨parts, hparts, rfl⟩ := encoded_list hencode
    rw [asRead, Convertible]
    exact convertsBack_list ih hparts
  | tuple items ih =>
    intro depth encoded hencode
    obtain ⟨parts, hparts, rfl⟩ := encoded_tuple hencode
    rw [asRead, Convertible]
    exact convertsBack_list ih hparts
  | dict entries ih =>
    intro depth encoded hencode
    obtain ⟨items, hitems, rfl⟩ := encoded_dict hencode
    rw [asRead, Convertible, convert_dict_iff]
    have hparts : (keyTexts keyText entries).Nodup →
        ((dataRefPayload (comprehension items) = none ∧
          ((comprehension items).lookup typeKey = none ∨
            (comprehension items).lookup typeKey = some .null) ∧
          rewriteEntries (convertStop codecs) (depth + 1)
            (comprehension items) = some (asReadEntries keyText entries)) ↔
        (isRefPayload keyText entries = false ∧
          (∀ entry ∈ entries, keyText entry.1 = typeKey →
            entry.2 = .scalar .null) ∧
          ConvertibleEntries keyText refReads (depth + 1) entries)) := by
      intro hnodup
      have hforall := encodedEntries_structured hitems
      rw [comprehension_encoded hitems hnodup,
        dataRefPayload_encoded_iff laws hitems, convertibleEntries_iff,
        rewriteEntries_eq_asRead_iff hforall fun entry hentry =>
          ih entry hentry (depth + 1),
        ← hforall.lookup_forall_iff hnodup fun value encoded hvalue =>
          encoded_null_iff laws hvalue]
      cases items.lookup typeKey <;> simp
    constructor
    · rintro ⟨hdepth, hpayload, htag, hrest⟩
      have hnodup := nodup_of_rewriteEntries hrest
      exact ⟨hdepth, hnodup, (hparts hnodup).mp ⟨hpayload, htag, hrest⟩⟩
    · rintro ⟨hdepth, hnodup, hclauses⟩
      exact ⟨hdepth, (hparts hnodup).mpr hclauses⟩

/-! ## `_decode_value` on encoded values -/

/-- What `_decode_value` makes of the encoding of a value. -/
def DecodesBack (codecs : Codecs φ α ρ) (keyText : κ → String)
    (refReads : ρ → Prop) (value : KeyedValue κ φ α ρ) : Prop :=
  ∀ depth encoded, structuredEncode codecs keyText value = some encoded →
    (rewrite (structuredDecodeStop codecs) depth encoded =
        some (asRead keyText value) ↔
      Readable codecs keyText refReads value)

theorem EncodedAs.decode_iff (laws : JsonLaws codecs)
    (refs : ReadsRefs codecs refReads)
    {scalar : Scalar φ α ρ} {encoded : PyValue φ α ρ}
    (hencoded : EncodedAs codecs scalar encoded) (depth : ℕ) :
    rewrite (structuredDecodeStop codecs) depth encoded = some scalar.value ↔
      ScalarReads refReads scalar := by
  have hconvert : convertDictToArrow codecs encoded = some scalar.value ↔
      ScalarReads refReads scalar := by
    rw [convertDictToArrow, hencoded.convert_iff laws refs]
    exact and_iff_right (Nat.zero_le _)
  have hbytes : (structuredBytesSentinel == typeKey) = false := by decide
  have hvalue : (structuredBytesSentinel == "value") = false := by decide
  rw [← hconvert]
  cases hencoded with
  | bigInt value hbig =>
    simp [rewrite, structuredDecodeStop, List.lookup, hbytes, hvalue,
      Transport.truthy]
  | ref dataRef =>
    have hsentinel : (structuredBytesSentinel == dataRefSentinel) = false := by
      decide
    have htype : (typeKey == dataRefSentinel) = false := by decide
    simp [rewrite, structuredDecodeStop, dataRefToPayload, List.lookup,
      hsentinel, htype]
  | object object tag text htag hdecode =>
    have hsome : tag ≠ "" := by
      rintro rfl
      revert htag
      decide
    simp [rewrite, structuredDecodeStop, List.lookup, hbytes, hvalue,
      Transport.truthy, hsome]
  | plain scalar hplain =>
    cases scalar with
    | ref dataRef | object object => cases hplain
    | _ => simp [rewrite, structuredDecodeStop, Scalar.value]

theorem decodesBack_list
    (hitems : ∀ item ∈ items, DecodesBack codecs keyText refReads item)
    {depth : ℕ}
    (hencode : structuredEncodeItems codecs keyText items = some parts) :
    rewrite (structuredDecodeStop codecs) depth (.list parts) =
        some (.list (asReadItems keyText items)) ↔
      ReadableItems codecs keyText refReads items := by
  rw [readableItems_iff, ← rewriteItems_eq_asRead_iff
    (forall₂_structuredEncodeItems hencode) fun item hitem =>
      hitems item hitem (depth + 1), rewrite]
  simp [structuredDecodeStop]

theorem decodesBack (laws : JsonLaws codecs)
    (refs : ReadsRefs codecs refReads) (value : KeyedValue κ φ α ρ) :
    DecodesBack codecs keyText refReads value := by
  induction value using KeyedValue.induction with
  | scalar scalar =>
    intro depth encoded hencode
    rw [asRead, Readable]
    exact (encoded_scalar laws hencode).decode_iff laws refs depth
  | bytes kind content =>
    intro depth encoded hencode
    rw [structuredEncode, Option.some.injEq] at hencode
    rw [← hencode, asRead, Readable, iff_true, rewrite]
    simp [structuredDecodeStop, List.lookup, laws.base64]
  | list items ih =>
    intro depth encoded hencode
    obtain ⟨parts, hparts, rfl⟩ := encoded_list hencode
    rw [asRead, Readable]
    exact decodesBack_list ih hparts
  | tuple items ih =>
    intro depth encoded hencode
    obtain ⟨parts, hparts, rfl⟩ := encoded_tuple hencode
    rw [asRead, Readable]
    exact decodesBack_list ih hparts
  | dict entries ih =>
    intro depth encoded hencode
    have hback : ConvertsBack codecs keyText refReads (.dict entries) :=
      convertsBack laws refs (.dict entries)
    have hconvert := hback 0 encoded hencode
    obtain ⟨items, hitems, rfl⟩ := encoded_dict hencode
    have hforall := encodedEntries_structured hitems
    have habsent : ∀ key, (comprehension items).lookup key = none ↔
        key ∉ keyTexts keyText entries := by
      intro key
      rw [← hforall.keys, ← mem_keys_comprehension]
      exact lookup_eq_none_iff_key
    rw [asRead] at hconvert ⊢
    rw [Readable, structuredDecode_dict_iff, habsent]
    apply and_congr_right
    intro _
    by_cases href : dataRefSentinel ∈ keyTexts keyText entries
    · have hflagged : ((comprehension items).lookup dataRefSentinel).isSome =
          true := by
        rw [Option.isSome_iff_ne_none, ne_eq, habsent, not_not]
        exact href
      simp only [hflagged, Bool.or_true, if_true, href, true_implies,
        not_true_eq_false, false_implies, and_true]
      exact hconvert
    · have hunflagged : ((comprehension items).lookup
          dataRefSentinel).isSome = false := by
        rw [Option.isSome_eq_false_iff, Option.isNone_iff_eq_none, habsent]
        exact href
      simp only [hunflagged, Bool.or_false, href, false_implies, true_and,
        not_false_eq_true, true_implies]
      have hparts : (keyTexts keyText entries).Nodup →
          ((((comprehension items).lookup typeKey).any
              (fun tag => truthy codecs tag) = false ∧
            rewriteEntries (structuredDecodeStop codecs) (depth + 1)
              (comprehension items) = some (asReadEntries keyText entries)) ↔
          ((∀ entry ∈ entries, keyText entry.1 = typeKey →
              isFalsy codecs entry.2 = true) ∧
            ReadableEntries codecs keyText refReads entries)) := by
        intro hnodup
        have hfalse : ∀ value part,
            structuredEncode codecs keyText value = some part →
              (truthy codecs part = false ↔ isFalsy codecs value = true) := by
          intro value part hvalue
          rw [truthy_encoded laws hvalue, Bool.not_eq_false']
        have hfalsy : (∀ tag, items.lookup typeKey = some tag →
            truthy codecs tag = false) ↔
            ∀ entry ∈ entries, keyText entry.1 = typeKey →
              isFalsy codecs entry.2 = true :=
          hforall.lookup_forall_iff hnodup hfalse
        rw [comprehension_encoded hitems hnodup, ← hfalsy, readableEntries_iff,
          rewriteEntries_eq_asRead_iff hforall fun entry hentry =>
            ih entry hentry (depth + 1)]
        cases items.lookup typeKey <;> simp
      cases htag : ((comprehension items).lookup typeKey).any
          (fun tag => truthy codecs tag) with
      | true =>
        -- the dict goes to `convert_dict_to_arrow`, which only knows `None`
        rw [if_pos rfl, convertDictToArrow, convert_dict_iff]
        constructor
        · rintro ⟨_, _, hnone | hnull, _⟩
          · simp [hnone] at htag
          · simp [hnull, truthy] at htag
        · rintro ⟨hnodup, hclauses⟩
          have hfalse := ((hparts hnodup).mpr hclauses).1
          rw [htag] at hfalse
          cases hfalse
      | false =>
        rw [if_neg Bool.false_ne_true]
        constructor
        · intro hrest
          have hnodup := nodup_of_rewriteEntries hrest
          exact ⟨hnodup, (hparts hnodup).mp ⟨htag, hrest⟩⟩
        · rintro ⟨hnodup, hclauses⟩
          exact ((hparts hnodup).mpr hclauses).2

/-! ## Documents -/

theorem EncodedAs.all_json
    (hrefs : ∀ dataRef, (dataRefToPayload codecs dataRef).all jsonNode = true)
    {scalar : Scalar φ α ρ} {encoded : PyValue φ α ρ}
    (hencoded : EncodedAs codecs scalar encoded) :
    encoded.all jsonNode = true := by
  cases hencoded with
  | bigInt value hbig => simp [all, allEntries, jsonNode, typeKey]
  | ref dataRef => exact hrefs dataRef
  | object object tag text htag hdecode =>
    simp [all, allEntries, jsonNode, typeKey]
  | plain scalar hplain =>
    cases scalar with
    | ref dataRef | object object => cases hplain
    | _ => rfl

theorem all_json_items
    (hencode : structuredEncodeItems codecs keyText items = some parts)
    (hitems : ∀ item ∈ items, ∀ part,
      structuredEncode codecs keyText item = some part →
        part.all jsonNode = true) :
    (PyValue.list parts).all jsonNode = true := by
  have hparts : allItems jsonNode parts = true := by
    have hforall := forall₂_structuredEncodeItems hencode
    clear hencode
    induction hforall with
    | nil => rfl
    | cons hfirst _ ih =>
      rw [List.forall_mem_cons] at hitems
      rw [allItems, hitems.1 _ hfirst, ih hitems.2]
      rfl
  rw [all, hparts]
  rfl

theorem all_json_entries {entries : KeyedEntries κ φ α ρ}
    {items : Entries φ α ρ}
    (hencode : structuredEncodeEntries codecs keyText entries = some items)
    (hentries : ∀ entry ∈ entries, ∀ part,
      structuredEncode codecs keyText entry.2 = some part →
        part.all jsonNode = true) :
    (PyValue.dict (comprehension items)).all jsonNode = true := by
  have hitems : ∀ item ∈ items, item.2.all jsonNode = true := by
    have hforall := encodedEntries_structured hencode
    clear hencode
    induction hforall with
    | nil => exact fun item hitem => absurd hitem List.not_mem_nil
    | cons hvalue _ ih =>
      rw [List.forall_mem_cons] at hentries ⊢
      exact ⟨hentries.1 _ hvalue, ih hentries.2⟩
  rw [all, jsonNode_dict (nodup_comprehension items),
    allEntries_iff.mpr (all_comprehension hitems)]
  rfl

theorem all_json_structuredEncode (laws : JsonLaws codecs)
    (hrefs : ∀ dataRef, (dataRefToPayload codecs dataRef).all jsonNode = true)
    (value : KeyedValue κ φ α ρ) : ∀ encoded,
    structuredEncode codecs keyText value = some encoded →
      encoded.all jsonNode = true := by
  induction value using KeyedValue.induction with
  | scalar scalar =>
    intro encoded hencode
    exact (encoded_scalar laws hencode).all_json hrefs
  | bytes kind content =>
    intro encoded hencode
    rw [structuredEncode, Option.some.injEq] at hencode
    rw [← hencode]
    simp [adaptBlobForJsonTransport, all, allEntries, jsonNode]
  | list items ih =>
    intro encoded hencode
    obtain ⟨parts, hparts, rfl⟩ := encoded_list hencode
    exact all_json_items hparts ih
  | tuple items ih =>
    intro encoded hencode
    obtain ⟨parts, hparts, rfl⟩ := encoded_tuple hencode
    exact all_json_items hparts ih
  | dict entries ih =>
    intro encoded hencode
    obtain ⟨items, hitems, rfl⟩ := encoded_dict hencode
    exact all_json_entries hitems ih

theorem structuredLoads_iff (laws : JsonLaws codecs)
    (refs : ReadsRefs codecs refReads)
    (hrefs : ∀ dataRef, (dataRefToPayload codecs dataRef).all jsonNode = true)
    {value : KeyedValue κ φ α ρ} {blob : Blob}
    (hdumps : keyedStructuredDumps codecs keyText value = some blob) :
    structuredLoads codecs blob = some (asRead keyText value) ↔
      Readable codecs keyText refReads value := by
  rw [keyedStructuredDumps, Option.bind_eq_some_iff] at hdumps
  obtain ⟨document, hdocument, hblob⟩ := hdumps
  rw [Option.map_eq_some_iff] at hdocument
  obtain ⟨payload, hpayload, rfl⟩ := hdocument
  have hjson := all_json_structuredEncode laws hrefs value payload hpayload
  have hloads := laws.json _ blob
    (by simp [all, allEntries, jsonNode, hjson]) hblob
  rw [structuredLoads, hloads, Option.bind_some, structuredRead,
    ← decodesBack laws refs value 0 payload hpayload]
  simp [List.lookup, versionNumber]

end PycloudParallel.Transport
