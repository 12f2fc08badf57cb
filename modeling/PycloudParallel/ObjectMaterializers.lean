import Mathlib.Data.List.Basic

/-!
# The three materializers of an object

A node materializes an object from a file or from a segment, a client from its
download.  Each tests the format and the way of materializing in an order of its
own.  What the readers of numpy, pandas and the codecs make of some bytes is a
parameter; an exception is `none`.
-/

namespace PycloudParallel.ObjectStore

/-- The formats that `deserialize_by_mode` reads. -/
inductive Codec
  | structuredV1
  | pickleStableV1
  | pickleNativeV1
deriving DecidableEq

inductive MaterializeAs
  | auto
  | path
  | dataframe
  | series
  | ndarray
  | json
  | bytes
  | text
deriving DecidableEq

def codecOf (fmt : String) : Option Codec :=
  if fmt = "structured_v1" then some .structuredV1
  else if fmt = "pickle_stable_v1" then some .pickleStableV1
  else if fmt = "pickle_native_v1" then some .pickleNativeV1
  else none

/-- `resolve_data_ref_materialize_as` on a reference without a logical type of its
own: `_infer_logical_type` goes by the format. -/
def resolveMaterializeAs (fmt : String) : MaterializeAs → MaterializeAs
  | .auto =>
    if fmt = "dfbundle" then .dataframe
    else if fmt = "seriesbundle" then .series
    else if fmt = "npy" then .ndarray
    else if fmt = "json" then .json
    else if fmt ∈ ["txt", "text", "log", "md", "sql"] then .text
    else if fmt ∈ ["zip", "tar.gz", "whl"] then .path
    else .bytes
  | preference => preference

/-- What a text file opened without `newline` reads. -/
def universalNewlines : List Char → List Char
  | [] => []
  | '\r' :: '\n' :: rest => '\n' :: universalNewlines rest
  | '\r' :: rest => '\n' :: universalNewlines rest
  | letter :: rest => letter :: universalNewlines rest

/-- The libraries: `V` are Python values and `F` data frames. -/
structure Readers (V F : Type*) where
  deserialize : Codec → List UInt8 → Option V
  decodeUtf8 : List UInt8 → Option (List Char)
  jsonLoads : List Char → Option V
  /-- A carriage return of a JSON text is white space. -/
  jsonLoads_universalNewlines : ∀ text, jsonLoads (universalNewlines text) = jsonLoads text
  convertDictToArrow : V → Option V
  npLoad : List UInt8 → Option V
  readParquet : List UInt8 → Option F
  /-- The members of an archive. -/
  openZip : List UInt8 → Option (String → Option (List UInt8))
  jsonLoad : List UInt8 → Option V
  dataframe : F → V
  deserializeDataframe : V → F → Option V
  deserializeSeries : V → V → Option V
  columns : F → ℕ
  isEmpty : F → Bool
  firstColumn : F → V
  emptySeries : V

inductive Resolved (V : Type*)
  | path (blob : List UInt8)
  | bytes (blob : List UInt8)
  | text (letters : List Char)
  | object (value : V)
deriving DecidableEq

section

variable {V F : Type*} (readers : Readers V F) (limit : ℕ)

/-- `validate_bytes_materialize_size` in front of a result. -/
def sizeChecked (blob : List UInt8) (result : Option (Resolved V)) :
    Option (Resolved V) :=
  if blob.length > limit then none else result

def readFrame (blob : List UInt8) : Option (Resolved V) :=
  (readers.readParquet blob).map fun frame => .object (readers.dataframe frame)

def readSeries (blob : List UInt8) : Option (Resolved V) :=
  (readers.readParquet blob).bind fun frame =>
    if readers.columns frame ≠ 1 then none
    else some (.object (readers.firstColumn frame))

def bundleMembers (blob : List UInt8) :
    Option (Option (List UInt8 × List UInt8)) :=
  (readers.openZip blob).map fun member =>
    match member "data.parquet", member "meta.json" with
    | some parquet, some meta' => some (parquet, meta')
    | _, _ => none

def readFrameBundle (parquet meta' : List UInt8) : Option (Resolved V) :=
  (readers.readParquet parquet).bind fun frame =>
    (readers.jsonLoad meta').bind fun spec =>
      (readers.deserializeDataframe spec frame).map .object

def readSeriesBundle (parquet meta' : List UInt8) : Option (Resolved V) :=
  (readers.readParquet parquet).bind fun frame =>
    (readers.jsonLoad meta').bind fun spec =>
      if readers.columns frame ≠ 1 then none
      else (readers.deserializeSeries spec (readers.firstColumn frame)).map .object

def readBundleOr (blob : List UInt8)
    (bundle : List UInt8 → List UInt8 → Option (Resolved V))
    (otherwise : Option (Resolved V)) : Option (Resolved V) :=
  (bundleMembers readers blob).bind fun members =>
    match members with
    | some (parquet, meta') => bundle parquet meta'
    | none => otherwise

def materializeFile (fmt : String) (as : MaterializeAs) (blob : List UInt8) :
    Option (Resolved V) :=
  match codecOf fmt with
  | some codec => sizeChecked limit blob ((readers.deserialize codec blob).map .object)
  | none =>
    match as with
    | .path => some (.path blob)
    | .bytes => sizeChecked limit blob (some (.bytes blob))
    | .text => (readers.decodeUtf8 blob).map fun text => .text (universalNewlines text)
    | .json =>
      (readers.decodeUtf8 blob).bind fun text =>
        (readers.jsonLoads (universalNewlines text)).bind fun value =>
          (readers.convertDictToArrow value).map .object
    | .ndarray => (readers.npLoad blob).map .object
    | .dataframe =>
      if fmt = "dfbundle" then
        readBundleOr readers blob (readFrameBundle readers) (readFrame readers blob)
      else readFrame readers blob
    | .series =>
      if fmt = "seriesbundle" then
        readBundleOr readers blob (readSeriesBundle readers) (readSeries readers blob)
      else readSeries readers blob
    | .auto => none

def materializeObjectBytes (fmt : String) (as : MaterializeAs) (blob : List UInt8) :
    Option (Resolved V) :=
  match codecOf fmt with
  | some codec => (readers.deserialize codec blob).map .object
  | none =>
    match as with
    | .bytes => some (.bytes blob)
    | .text => (readers.decodeUtf8 blob).map .text
    | .json =>
      (readers.decodeUtf8 blob).bind fun text =>
        (readers.jsonLoads text).bind fun value =>
          (readers.convertDictToArrow value).map .object
    | .ndarray => (readers.npLoad blob).map .object
    | .dataframe =>
      if fmt = "dfbundle" then
        readBundleOr readers blob (readFrameBundle readers) none
      else readFrame readers blob
    | .series =>
      if fmt = "seriesbundle" then
        readBundleOr readers blob (readSeriesBundle readers) none
      else
        (readers.readParquet blob).map fun frame =>
          if readers.isEmpty frame then .object readers.emptySeries
          else .object (readers.firstColumn frame)
    | .path | .auto => none

def materializeSegment (fmt : String) (as : MaterializeAs) (blob : List UInt8) :
    Option (Resolved V) :=
  if as = .path then some (.path blob) else materializeObjectBytes readers fmt as blob

def materializeDownloaded (fmt : String) (as : MaterializeAs) (blob : List UInt8) :
    Option (Resolved V) :=
  if as = .path then some (.path blob)
  else
    match codecOf fmt with
    | some codec => sizeChecked limit blob ((readers.deserialize codec blob).map .object)
    | none =>
      match as with
      | .bytes => sizeChecked limit blob (some (.bytes blob))
      | .text => (readers.decodeUtf8 blob).map fun text => .text (universalNewlines text)
      | .json =>
        (readers.decodeUtf8 blob).bind fun text =>
          (readers.jsonLoads (universalNewlines text)).map .object
      | .ndarray => (readers.npLoad blob).map .object
      | .dataframe =>
        if fmt = "dfbundle" then
          readBundleOr readers blob (readFrameBundle readers) (readFrame readers blob)
        else readFrame readers blob
      | .series =>
        if fmt = "seriesbundle" then
          readBundleOr readers blob (readSeriesBundle readers)
            (readSeries readers blob)
        else readSeries readers blob
      | .path | .auto => none

/-- When the three materializers do the same: a codec's object is not asked for as
a path and is not too large, a text has no carriage return, a JSON value has no
tagged part, a bundle has its members and a plain series has one column and is
not empty. -/
def Agrees (fmt : String) (as : MaterializeAs) (blob : List UInt8) : Prop :=
  match codecOf fmt with
  | some codec =>
    as ≠ .path ∧ (blob.length ≤ limit ∨ readers.deserialize codec blob = none)
  | none =>
    match as with
    | .auto | .path | .ndarray => True
    | .bytes => blob.length ≤ limit
    | .text => ∀ text, readers.decodeUtf8 blob = some text → '\r' ∉ text
    | .json => ∀ text value, readers.decodeUtf8 blob = some text →
        readers.jsonLoads text = some value →
          readers.convertDictToArrow value = some value
    | .dataframe => fmt = "dfbundle" → bundleMembers readers blob = some none →
        readFrame readers blob = none
    | .series =>
      if fmt = "seriesbundle" then
        bundleMembers readers blob = some none → readSeries readers blob = none
      else
        ∀ frame, readers.readParquet blob = some frame →
          readers.columns frame = 1 ∧ (readers.isEmpty frame = true →
            readers.firstColumn frame = readers.emptySeries)

end

inductive Reading
  | codec (codec : Codec)
  | bundle
  | plain
deriving DecidableEq

def reading (fmt : String) (as : MaterializeAs) : Reading :=
  match codecOf fmt with
  | some codec => .codec codec
  | none =>
    if as = .dataframe ∧ fmt = "dfbundle" ∨ as = .series ∧ fmt = "seriesbundle" then
      .bundle
    else .plain

theorem return_notMem_universalNewlines (text : List Char) :
    '\r' ∉ universalNewlines text := by
  fun_induction universalNewlines text with
  | case1 => simp
  | case2 rest ih | case3 rest _ ih => simpa using ih
  | case4 letter rest _ hletter ih =>
    rw [List.mem_cons, not_or]
    exact ⟨fun hsame => hletter hsame.symm, ih⟩

theorem universalNewlines_eq_self_iff (text : List Char) :
    universalNewlines text = text ↔ '\r' ∉ text := by
  constructor
  · intro hsame
    rw [← hsame]
    exact return_notMem_universalNewlines text
  · intro hnone
    fun_induction universalNewlines text with
    | case1 => rfl
    | case2 rest ih | case3 rest _ ih => exact absurd List.mem_cons_self hnone
    | case4 letter rest _ _ ih =>
      rw [ih fun hmem => hnone (List.mem_cons_of_mem _ hmem)]

section

variable {V F : Type*} (readers : Readers V F) (limit : ℕ)

theorem materialize_codec_agree_iff {fmt : String} {codec : Codec}
    (hcodec : codecOf fmt = some codec) (as : MaterializeAs) (blob : List UInt8) :
    (materializeFile readers limit fmt as blob =
        materializeDownloaded readers limit fmt as blob ∧
      materializeSegment readers fmt as blob =
        materializeDownloaded readers limit fmt as blob) ↔
      as ≠ .path ∧ (blob.length ≤ limit ∨ readers.deserialize codec blob = none) := by
  unfold materializeFile materializeSegment materializeObjectBytes materializeDownloaded
  simp only [hcodec]
  by_cases hpath : as = .path
  · simp only [if_pos hpath]
    constructor
    · intro hsame
      have hfile := hsame.1
      unfold sizeChecked at hfile
      split at hfile
      · cases hfile
      · cases hvalue : readers.deserialize codec blob with
        | none | some value =>
          rw [hvalue] at hfile
          cases hfile
    · intro hagrees
      exact absurd hpath hagrees.1
  · simp only [true_and, ne_eq, hpath, if_false, not_false_eq_true]
    unfold sizeChecked
    by_cases hsize : blob.length > limit
    · rw [if_pos hsize]
      have hlarge : ¬ blob.length ≤ limit := Nat.not_le.mpr hsize
      simp [hlarge]
    · rw [if_neg hsize]
      simp [Nat.not_lt.mp hsize]

theorem readBundleOr_eq_iff (blob : List UInt8)
    (bundle : List UInt8 → List UInt8 → Option (Resolved V))
    (otherwise : Option (Resolved V)) :
    readBundleOr readers blob bundle none = readBundleOr readers blob bundle otherwise ↔
      (bundleMembers readers blob = some none → otherwise = none) := by
  unfold readBundleOr
  cases hmembers : bundleMembers readers blob with
  | none => simp
  | some members =>
    cases members with
    | none => simp [eq_comm]
    | some members => simp

theorem materialize_agree_iff (fmt : String) (as : MaterializeAs) (blob : List UInt8) :
    (materializeFile readers limit fmt as blob =
        materializeDownloaded readers limit fmt as blob ∧
      materializeSegment readers fmt as blob =
        materializeDownloaded readers limit fmt as blob) ↔
      Agrees readers limit fmt as blob := by
  cases hcodec : codecOf fmt with
  | some codec =>
    rw [materialize_codec_agree_iff readers limit hcodec]
    unfold Agrees
    rw [hcodec]
  | none =>
    unfold materializeFile materializeSegment materializeObjectBytes
      materializeDownloaded Agrees
    simp only [hcodec]
    cases as with
    | auto | path | ndarray => simp
    | bytes =>
      simp only [reduceCtorEq, if_false, true_and]
      unfold sizeChecked
      split
      · next hsize => simp [Nat.not_le.mpr hsize]
      · next hsize => simp [Nat.not_lt.mp hsize]
    | text =>
      simp only [reduceCtorEq, if_false, true_and]
      cases htext : readers.decodeUtf8 blob with
      | none => simp
      | some text =>
        simp only [Option.map_some, Option.some.injEq, Resolved.text.injEq,
          forall_eq']
        rw [eq_comm, universalNewlines_eq_self_iff]
    | json =>
      simp only [reduceCtorEq, if_false]
      cases htext : readers.decodeUtf8 blob with
      | none => simp
      | some text =>
        simp only [Option.bind_some, readers.jsonLoads_universalNewlines,
          Option.some.injEq]
        have hread (P : V → Prop) :
            (∀ other value, text = other →
              readers.jsonLoads other = some value → P value) ↔
            ∀ value, readers.jsonLoads text = some value → P value :=
          ⟨fun hall value => hall text value rfl,
            fun hall other value hsame => hsame ▸ hall value⟩
        rw [hread]
        cases hvalue : readers.jsonLoads text with
        | none => simp
        | some value =>
          cases hconvert : readers.convertDictToArrow value <;>
            simp [hconvert]
    | dataframe =>
      simp only [reduceCtorEq, if_false]
      by_cases hbundle : fmt = "dfbundle"
      · simp only [hbundle, if_true, true_and, forall_const]
        exact readBundleOr_eq_iff readers blob _ _
      · simp [hbundle]
    | series =>
      simp only [reduceCtorEq, if_false]
      by_cases hbundle : fmt = "seriesbundle"
      · simp only [hbundle, if_true, true_and]
        exact readBundleOr_eq_iff readers blob _ _
      · simp only [hbundle, if_false, true_and]
        unfold readSeries
        cases hframe : readers.readParquet blob with
        | none => simp
        | some frame =>
          by_cases hcolumns : readers.columns frame = 1
          · by_cases hempty : readers.isEmpty frame = true
            · simp only [Option.map_some, Option.bind_some, hempty, hcolumns,
                if_true, ne_eq, not_true_eq_false, if_false, Option.some.injEq,
                Resolved.object.injEq, forall_eq', true_and, forall_const]
              exact eq_comm
            · simp [hcolumns, hempty]
          · simp [hcolumns]

end

theorem codecOf_eq_of_reading_eq {fmt other : String} {as : MaterializeAs}
    (hreading : reading fmt as = reading other as) : codecOf fmt = codecOf other := by
  unfold reading at hreading
  cases hfmt : codecOf fmt with
  | some codec =>
    cases hother : codecOf other with
    | some codec' =>
      rw [hfmt, hother] at hreading
      rw [Reading.codec.inj hreading]
    | none =>
      simp only [hfmt, hother] at hreading
      split at hreading <;> cases hreading
  | none =>
    cases hother : codecOf other with
    | some codec' =>
      simp only [hfmt, hother] at hreading
      split at hreading <;> cases hreading
    | none => rfl

theorem reading_cases {fmt other : String} {as : MaterializeAs}
    (hreading : reading fmt as = reading other as) :
    (∃ codec, codecOf fmt = some codec ∧ codecOf other = some codec) ∨
      codecOf fmt = none ∧ codecOf other = none ∧
        ((as = .dataframe ∧ fmt = "dfbundle" ∨ as = .series ∧ fmt = "seriesbundle") ↔
          (as = .dataframe ∧ other = "dfbundle" ∨
            as = .series ∧ other = "seriesbundle")) := by
  have hfmt := codecOf_eq_of_reading_eq hreading
  cases hother : codecOf other with
  | some codec => exact .inl ⟨codec, hfmt.trans hother, rfl⟩
  | none =>
    rw [hother] at hfmt
    refine .inr ⟨hfmt, rfl, ?_⟩
    unfold reading at hreading
    simp only [hfmt, hother] at hreading
    split at hreading
    · next hbundle =>
      split at hreading
      · next hbundle' => exact iff_of_true hbundle hbundle'
      · cases hreading
    · next hplain =>
      split at hreading
      · cases hreading
      · next hplain' => exact iff_of_false hplain hplain'

section

variable {V F : Type*} (readers : Readers V F) (limit : ℕ) {fmt other : String}
  {as : MaterializeAs}

variable (hreading : reading fmt as = reading other as)

include hreading

variable (blob : List UInt8)

include blob

theorem materializeFile_congr :
    materializeFile readers limit fmt as blob =
      materializeFile readers limit other as blob := by
  unfold materializeFile
  obtain ⟨codec, hfmt, hother⟩ | ⟨hfmt, hother, hbundle⟩ := reading_cases hreading
  · rw [hfmt, hother]
  · cases as <;> simp_all

theorem materializeObjectBytes_congr :
    materializeObjectBytes readers fmt as blob =
      materializeObjectBytes readers other as blob := by
  unfold materializeObjectBytes
  obtain ⟨codec, hfmt, hother⟩ | ⟨hfmt, hother, hbundle⟩ := reading_cases hreading
  · rw [hfmt, hother]
  · cases as <;> simp_all

theorem materializeSegment_congr :
    materializeSegment readers fmt as blob = materializeSegment readers other as blob := by
  unfold materializeSegment
  rw [materializeObjectBytes_congr readers hreading]

theorem materializeDownloaded_congr :
    materializeDownloaded readers limit fmt as blob =
      materializeDownloaded readers limit other as blob := by
  unfold materializeDownloaded
  obtain ⟨codec, hfmt, hother⟩ | ⟨hfmt, hother, hbundle⟩ := reading_cases hreading
  · rw [hfmt, hother]
  · cases as <;> simp_all

end

end PycloudParallel.ObjectStore
