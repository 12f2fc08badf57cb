import PycloudParallel.TransportReceived
import Mathlib

/-!
# Data references and their payloads

A `DataRef` is what `__post_init__` makes of its fields.  Its payload is read by
making a `DataRef` of the fields again, so it reads back where `__post_init__`
leaves its own result as it is.
-/

namespace PycloudParallel.Transport

open Texts (strip orElse Casing trim strip_strip trim_trim)

/-- `str.lower` is idempotent, keeps white space, leaves no capital letter of
ASCII and texts of ASCII without such as they are. -/
structure LowerLaws (casing : Casing) : Prop where
  lower_strip : ∀ text, strip text = text →
    strip (casing.lower text) = casing.lower text
  lower_lower : ∀ text, casing.lower (casing.lower text) = casing.lower text
  noCapital : ∀ text, ∀ char ∈ (casing.lower text).toList,
    char.isUpper = false
  plain : ∀ text : String, (∀ char ∈ text.toList,
    char.toNat < 128 ∧ char.isUpper = false) → casing.lower text = text

section Formats

/-- What `_OBJECT_FORMAT_RE` keeps. -/
def isFormatChar (char : Char) : Bool :=
  char.isAlphanum || char = '.' || char = '_' || char = '-'

/-- `_OBJECT_FORMAT_RE.sub("_", text)`; `inRun` tells that the last character
was replaced. -/
def replaceRuns (inRun : Bool) : List Char → List Char
  | [] => []
  | char :: rest =>
    if isFormatChar char = true then char :: replaceRuns false rest
    else if inRun = true then replaceRuns true rest
    else '_' :: replaceRuns true rest

def isFormatEdge (char : Char) : Bool :=
  char = '.' || char = '_'

variable (casing : Casing)

/-- `normalize_object_format` without a file name, with the default `bin`. -/
def normalizeObjectFormat (format : String) : String :=
  let text := (casing.lower (strip format)).toList.dropWhile (· = '.')
  if text = [] then "bin"
  else orElse (.ofList (trim isFormatEdge (replaceRuns false text))) "bin"

def isHexDigit (char : Char) : Bool :=
  ('0' ≤ char && char ≤ '9') || ('a' ≤ char && char ≤ 'f')

def isObjectId (text : String) : Bool :=
  text.toList.take 7 = "sha256:".toList && text.toList.length = 71 &&
    (text.toList.drop 7).all isHexDigit

def normalizeObjectId (objectId : String) : Option String :=
  let text := casing.lower (strip objectId)
  if isObjectId text = true then some text else none

def normalizeStorageId (storageId fallback : String) : Option String :=
  let text := strip (orElse storageId fallback)
  if text = "" then none
  else if text.toList.take 7 = "sha256:".toList then
    normalizeObjectId casing text
  else some text

def normalizeDataRefId (refId : String) : Option String :=
  if strip refId = "" then none else some (strip refId)

def materializePrefs : List String :=
  ["auto", "path", "dataframe", "series", "ndarray", "json", "bytes", "text"]

def normalizeMaterializeAs (value : String) : Option String :=
  let text := orElse (casing.lower (strip value)) "auto"
  if text ∈ materializePrefs then some text else none

def archiveFormats : List String := ["zip", "tar.gz", "whl"]

def textFormats : List String := ["txt", "text", "log", "md", "sql"]

def logicalTypeOf (format materializeAs : String) : String :=
  if materializeAs ≠ "auto" then
    if materializeAs = "path" then
      if format ∈ archiveFormats then "archive" else "file"
    else materializeAs
  else if format = "dfbundle" then "dataframe"
  else if format = "seriesbundle" then "series"
  else if format = "npy" then "ndarray"
  else if format = "json" then "json"
  else if format ∈ textFormats then "text"
  else if format ∈ archiveFormats then "archive"
  else "bytes"

/-- `_infer_logical_type`, of a format and a preference that are normal. -/
def inferLogicalType (logicalType format materializeAs : String) : String :=
  orElse (casing.lower (strip logicalType)) (logicalTypeOf format materializeAs)

end Formats

/-! ## Data references -/

structure DataRefFields where
  refId : String
  storageId : String
  logicalType : String
  format : String
  sizeBytes : ℤ
  materializeAs : String
  locatorKind : String
  locatorToken : String
  consumeOnRead : Bool
  nodeId : String
  nodeInstanceId : String
  controlAddr : String
deriving DecidableEq

def DataRefFields.postInit (casing : Casing) (raw : DataRefFields) :
    Option DataRefFields := do
  let refId ← normalizeDataRefId (orElse raw.refId raw.storageId)
  let storageId ← normalizeStorageId casing raw.storageId refId
  let format := normalizeObjectFormat casing raw.format
  let materializeAs ← normalizeMaterializeAs casing raw.materializeAs
  let givenKind := orElse
    (casing.lower (strip (orElse raw.locatorKind "controlplane")))
    "controlplane"
  let controlAddr := strip raw.controlAddr
  let locatorToken := strip (orElse raw.locatorToken controlAddr)
  let locatorKind :=
    if controlAddr ≠ "" ∧ givenKind = "controlplane" then "node_control"
    else givenKind
  some {
    refId := refId
    storageId := storageId
    logicalType :=
      inferLogicalType casing raw.logicalType format materializeAs
    format := format
    sizeBytes := max 0 raw.sizeBytes
    materializeAs := materializeAs
    locatorKind := locatorKind
    locatorToken := locatorToken
    consumeOnRead := raw.consumeOnRead
    nodeId := strip raw.nodeId
    nodeInstanceId := strip raw.nodeInstanceId
    controlAddr :=
      if locatorKind = "node_control" then orElse controlAddr locatorToken
      else controlAddr }

structure DataRef (casing : Casing) where
  fields : DataRefFields
  made : ∃ raw : DataRefFields, raw.postInit casing = some fields

theorem DataRef.ext {casing : Casing} {first second : DataRef casing}
    (hfields : first.fields = second.fields) : first = second := by
  obtain ⟨fields, made⟩ := first
  obtain ⟨other, again⟩ := second
  obtain rfl := hfields
  rfl

def DataRef.make (casing : Casing) (raw : DataRefFields) :
    Option (DataRef casing) :=
  match hmade : raw.postInit casing with
  | none => none
  | some fields => some ⟨fields, raw, hmade⟩

section Payloads

variable {φ α ρ : Type}

/-- The dict under the sentinel that `to_payload` gives. -/
def DataRefFields.payload (fields : DataRefFields) : Entries φ α ρ :=
  [("ref_id", .str fields.refId), ("storage_id", .str fields.storageId),
    ("logical_type", .str fields.logicalType), ("format", .str fields.format),
    ("size_bytes", .int fields.sizeBytes),
    ("materialize_as", .str fields.materializeAs),
    ("locator_kind", .str fields.locatorKind),
    ("locator_token", .str fields.locatorToken),
    ("consume_on_read", .bool fields.consumeOnRead),
    ("node_id", .str fields.nodeId),
    ("node_instance_id", .str fields.nodeInstanceId),
    ("control_addr", .str fields.controlAddr)]

variable (codecs : Codecs φ α ρ) (builtins : Builtins φ α ρ)

def payloadText (payload : Entries φ α ρ) (key : String) : String :=
  textOr codecs builtins ((payload.lookup key).getD (.str ""))

/-- The fields that `data_ref_from_payload` passes to `DataRef`. -/
def payloadFields (payload : Entries φ α ρ) : Option DataRefFields :=
  match intOr codecs builtins ((payload.lookup "size_bytes").getD (.int 0)) with
  | .error _ => none
  | .ok sizeBytes =>
    let text := payloadText codecs builtins payload
    some {
      refId := orElse (text "ref_id") (text "storage_id")
      storageId := orElse (text "storage_id") (text "ref_id")
      logicalType := text "logical_type"
      format := text "format"
      sizeBytes := sizeBytes
      materializeAs := orElse (text "materialize_as") "auto"
      locatorKind := orElse (text "locator_kind") "controlplane"
      locatorToken := text "locator_token"
      consumeOnRead := truthy codecs
        ((payload.lookup "consume_on_read").getD (.bool false))
      nodeId := text "node_id"
      nodeInstanceId := text "node_instance_id"
      controlAddr := text "control_addr" }

end Payloads

def Codecs.withDataRefs {φ α : Type} {casing : Casing}
    (codecs : Codecs φ α (DataRef casing))
    (builtins : Builtins φ α (DataRef casing)) :
    Codecs φ α (DataRef casing) :=
  { codecs with
    refEntries := fun dataRef => dataRef.fields.payload
    refFrom := fun payload =>
      (payloadFields codecs builtins payload).bind (DataRef.make casing) }

section Normal

variable {casing : Casing}

/-- `str(text).strip().lower()` changes the text no more. -/
structure NormalText (casing : Casing) (text : String) : Prop where
  strip : strip text = text
  lower : casing.lower text = text

theorem normalText_lower_strip (laws : LowerLaws casing) (text : String) :
    NormalText casing (casing.lower (strip text)) where
  strip := laws.lower_strip _ (strip_strip text)
  lower := laws.lower_lower _

variable {text fallback : String} {char : Char}

theorem NormalText.eq (hnormal : NormalText casing text) :
    casing.lower (Texts.strip text) = text := by
  rw [hnormal.strip, hnormal.lower]

def isPlainChar (char : Char) : Bool :=
  decide (char.toNat < 128) && !char.isUpper && !Texts.isBlank char

theorem normalText_of_plain (laws : LowerLaws casing)
    (hplain : text.toList.all isPlainChar = true) : NormalText casing text := by
  rw [List.all_eq_true] at hplain
  constructor
  · apply Texts.strip_eq_self
    intro char hchar
    have hthis := hplain char hchar
    simp only [isPlainChar, Bool.and_eq_true, Bool.not_eq_true'] at hthis
    exact hthis.2
  · apply laws.plain
    intro char hchar
    have hthis := hplain char hchar
    simp only [isPlainChar, Bool.and_eq_true, Bool.not_eq_true',
      decide_eq_true_eq] at hthis
    exact hthis.1

theorem NormalText.orElse (htext : NormalText casing text)
    (hfallback : NormalText casing fallback) :
    NormalText casing (orElse text fallback) := by
  unfold Texts.orElse
  split
  · exact hfallback
  · exact htext

theorem strip_orElse (htext : strip text = text)
    (hfallback : strip fallback = fallback) :
    strip (orElse text fallback) = orElse text fallback := by
  unfold orElse
  split
  · exact hfallback
  · exact htext

theorem orElse_ne_empty (hfallback : fallback ≠ "") :
    orElse text fallback ≠ "" := by
  unfold orElse
  split
  · exact hfallback
  · next hsome => exact hsome

/-! ## Formats -/

theorem isFormatChar_of_mem_replaceRuns {inRun : Bool} {text : List Char}
    (hchar : char ∈ replaceRuns inRun text) :
    isFormatChar char = true ∧ (char ∈ text ∨ char = '_') := by
  induction text generalizing inRun with
  | nil => cases hchar
  | cons head rest ih =>
    unfold replaceRuns at hchar
    split at hchar
    · next hhead =>
      obtain rfl | hrest := List.mem_cons.mp hchar
      · exact ⟨hhead, Or.inl List.mem_cons_self⟩
      · obtain ⟨hformat, hfrom⟩ := ih hrest
        exact ⟨hformat, hfrom.imp_left (List.mem_cons_of_mem _)⟩
    · split at hchar
      · obtain ⟨hformat, hfrom⟩ := ih hchar
        exact ⟨hformat, hfrom.imp_left (List.mem_cons_of_mem _)⟩
      · obtain rfl | hrest := List.mem_cons.mp hchar
        · exact ⟨rfl, Or.inr rfl⟩
        · obtain ⟨hformat, hfrom⟩ := ih hrest
          exact ⟨hformat, hfrom.imp_left (List.mem_cons_of_mem _)⟩

theorem replaceRuns_eq_self {text : List Char}
    (hformat : ∀ char ∈ text, isFormatChar char = true) (inRun : Bool) :
    replaceRuns inRun text = text := by
  induction text generalizing inRun with
  | nil => rfl
  | cons char rest ih =>
    rw [List.forall_mem_cons] at hformat
    rw [replaceRuns, if_pos hformat.1, ih hformat.2]

theorem isFormatChar_range (hformat : isFormatChar char = true) :
    45 ≤ char.toNat ∧ char.toNat ≤ 122 := by
  simp only [isFormatChar, Char.isAlphanum, Char.isAlpha, Char.isUpper,
    Char.isLower, Char.isDigit, Bool.or_eq_true, Bool.and_eq_true,
    decide_eq_true_eq, UInt32.le_iff_toNat_le, ge_iff_le] at hformat
  rcases hformat with
    ((((⟨hge, hle⟩ | ⟨hge, hle⟩) | ⟨hge, hle⟩) | rfl) | rfl) | rfl
  · simp at hge hle
    omega
  · simp at hge hle
    omega
  · simp at hge hle
    omega
  · decide
  · decide
  · decide

theorem isPlainChar_of_format (hformat : isFormatChar char = true)
    (hcapital : char.isUpper = false) : isPlainChar char = true := by
  obtain ⟨hge, hle⟩ := isFormatChar_range hformat
  have hblank : Texts.isBlank char = false := by
    rw [Texts.isBlank, List.contains_eq_mem, decide_eq_false_iff_not]
    intro hmem
    have hcodes : ∀ code ∈ Texts.spaceCodes, code < 45 ∨ 122 < code := by
      decide
    have hcode := hcodes char.toNat hmem
    omega
  have hascii : char.toNat < 128 := by omega
  simp [isPlainChar, hcapital, hblank, hascii]

theorem trim_subset {blank : Char → Bool} {text : List Char}
    (hchar : char ∈ trim blank text) : char ∈ text :=
  Texts.mem_of_mem_trim hchar

theorem not_edge_of_trim {edge : Char → Bool} {rest : List Char}
    (htrimmed : trim edge (char :: rest) = char :: rest) :
    edge char = false := by
  by_contra hedge
  rw [Bool.not_eq_false] at hedge
  have hlength := congrArg List.length htrimmed
  rw [trim, List.dropWhile_cons, if_pos hedge, List.length_cons] at hlength
  have hshorter := ((List.rdropWhile_prefix edge
    (rest.dropWhile edge)).length_le).trans
      (List.dropWhile_suffix edge).length_le
  omega

/-- The text of a format that is normal: plain, and with no dot or underscore at
its ends. -/
structure NormalFormat (text : String) : Prop where
  plain : ∀ char ∈ text.toList, isFormatChar char = true ∧ char.isUpper = false
  trimmed : trim isFormatEdge text.toList = text.toList
  nonempty : text ≠ ""

theorem normalFormat_normalize (laws : LowerLaws casing) (format : String) :
    NormalFormat (normalizeObjectFormat casing format) := by
  have hplain : ∀ char ∈ ['b', 'i', 'n'],
      isFormatChar char = true ∧ char.isUpper = false := by
    intro char hmem
    rcases List.mem_cons.mp hmem with rfl | hmem
    · exact ⟨rfl, rfl⟩
    rcases List.mem_cons.mp hmem with rfl | hmem
    · exact ⟨rfl, rfl⟩
    · rw [List.mem_singleton.mp hmem]
      exact ⟨rfl, rfl⟩
  have hbin : NormalFormat "bin" := ⟨hplain, by decide, by decide⟩
  unfold normalizeObjectFormat
  dsimp only
  split
  · exact hbin
  generalize htext : (casing.lower (strip format)).toList.dropWhile (· = '.') =
    text
  unfold orElse
  split
  · exact hbin
  · next hsome =>
    refine ⟨?_, ?_, hsome⟩
    · intro char hchar
      rw [String.toList_ofList] at hchar
      obtain ⟨hformat, hfrom⟩ :=
        isFormatChar_of_mem_replaceRuns (trim_subset hchar)
      refine ⟨hformat, ?_⟩
      obtain hold | rfl := hfrom
      · apply laws.noCapital (strip format)
        rw [← htext] at hold
        exact (List.dropWhile_suffix _).subset hold
      · rfl
    · rw [String.toList_ofList, trim_trim]

theorem NormalFormat.normalize (laws : LowerLaws casing)
    (hformat : NormalFormat text) :
    normalizeObjectFormat casing text = text := by
  have hplain : text.toList.all isPlainChar = true := by
    rw [List.all_eq_true]
    intro char hchar
    obtain ⟨hkept, hcapital⟩ := hformat.plain char hchar
    exact isPlainChar_of_format hkept hcapital
  have hlower := (normalText_of_plain laws hplain).eq
  have hdots : text.toList.dropWhile (· = '.') = text.toList := by
    cases hlist : text.toList with
    | nil => rfl
    | cons char rest =>
      have hfirst := not_edge_of_trim (hlist ▸ hformat.trimmed)
      rw [List.dropWhile_cons, if_neg]
      rw [decide_eq_true_eq]
      rintro rfl
      cases hfirst
  have hsome : text.toList ≠ [] := by
    intro hnil
    apply hformat.nonempty
    rw [← String.ofList_toList (s := text), hnil]
  unfold normalizeObjectFormat
  dsimp only
  rw [hlower, hdots, if_neg hsome,
    replaceRuns_eq_self fun char hchar => (hformat.plain char hchar).1,
    hformat.trimmed, String.ofList_toList,
    Texts.orElse_of_ne hformat.nonempty]

/-! ## Normal fields -/

/-- What `__post_init__` gives. -/
structure NormalFields (casing : Casing) (fields : DataRefFields) : Prop where
  refId : strip fields.refId = fields.refId ∧ fields.refId ≠ ""
  storageId : normalizeStorageId casing fields.storageId fields.refId =
    some fields.storageId
  storage_ne : fields.storageId ≠ ""
  logicalType : NormalText casing fields.logicalType ∧ fields.logicalType ≠ ""
  format : NormalFormat fields.format
  sizeBytes : 0 ≤ fields.sizeBytes
  materializeAs : NormalText casing fields.materializeAs ∧
    fields.materializeAs ∈ materializePrefs
  locatorKind : NormalText casing fields.locatorKind ∧ fields.locatorKind ≠ ""
  locatorToken : strip fields.locatorToken = fields.locatorToken
  nodeId : strip fields.nodeId = fields.nodeId
  nodeInstanceId : strip fields.nodeInstanceId = fields.nodeInstanceId
  controlAddr : strip fields.controlAddr = fields.controlAddr
  onNode : fields.controlAddr ≠ "" → fields.locatorKind ≠ "controlplane"
  located : fields.locatorKind = "node_control" → fields.controlAddr = "" →
    fields.locatorToken = ""

section

variable (laws : LowerLaws casing)

include laws

theorem normalizeStorageId_stable {given storageId : String}
    (hstorage : normalizeStorageId casing given fallback = some storageId)
    (other : String) :
    normalizeStorageId casing storageId other = some storageId ∧
      storageId ≠ "" := by
  unfold normalizeStorageId at hstorage
  dsimp only at hstorage
  split at hstorage
  · cases hstorage
  next hsome =>
  have hstable : strip storageId = storageId ∧ storageId ≠ "" ∧
      (storageId.toList.take 7 = "sha256:".toList →
        normalizeObjectId casing storageId = some storageId) := by
    split at hstorage
    · unfold normalizeObjectId at hstorage
      dsimp only at hstorage
      split at hstorage
      · next hobject =>
        cases hstorage
        have hnormal := normalText_lower_strip laws
          (strip (orElse given fallback))
        refine ⟨hnormal.strip, ?_, ?_⟩
        · intro hempty
          rw [hempty] at hobject
          cases hobject
        · intro _
          rw [normalizeObjectId, hnormal.eq, if_pos hobject]
      · cases hstorage
    · next hother =>
      cases hstorage
      exact ⟨strip_strip _, hsome, fun hsha => absurd hsha hother⟩
  obtain ⟨hstrip, hne, hobject⟩ := hstable
  refine ⟨?_, hne⟩
  unfold normalizeStorageId
  dsimp only
  rw [Texts.orElse_of_ne hne, hstrip, if_neg hne]
  split
  · next hsha => exact hobject hsha
  · rfl

theorem logicalTypeOf_normal (format : String) {materializeAs : String}
    (hprefs : materializeAs ∈ materializePrefs) :
    NormalText casing (logicalTypeOf format materializeAs) ∧
      logicalTypeOf format materializeAs ≠ "" := by
  have hplain : ∀ text ∈ ["archive", "file", "dataframe", "series", "ndarray",
      "json", "text", "bytes"] ++ materializePrefs,
      text.toList.all isPlainChar = true ∧ text ≠ "" := by
    decide +kernel
  have hmem : logicalTypeOf format materializeAs ∈ ["archive", "file",
      "dataframe", "series", "ndarray", "json", "text", "bytes"] ++
        materializePrefs := by
    unfold logicalTypeOf
    have hlater := List.mem_append_right ["archive", "file", "dataframe",
      "series", "ndarray", "json", "text", "bytes"] hprefs
    split
    · split
      · split <;> decide
      · exact hlater
    · repeat' split
      all_goals decide
  obtain ⟨hchars, hne⟩ := hplain _ hmem
  exact ⟨normalText_of_plain laws hchars, hne⟩

theorem normalizeMaterializeAs_normal {value materializeAs : String}
    (hmaterialize : normalizeMaterializeAs casing value = some materializeAs) :
    NormalText casing materializeAs ∧ materializeAs ∈ materializePrefs := by
  unfold normalizeMaterializeAs at hmaterialize
  dsimp only at hmaterialize
  split at hmaterialize
  · next hprefs =>
    cases hmaterialize
    exact ⟨(normalText_lower_strip laws value).orElse
      (normalText_of_plain laws (by decide)), hprefs⟩
  · cases hmaterialize

theorem normalFields_postInit
    {raw fields : DataRefFields} (hmade : raw.postInit casing = some fields) :
    NormalFields casing fields := by
  unfold DataRefFields.postInit at hmade
  simp only [Option.bind_eq_bind, Option.bind_eq_some_iff] at hmade
  obtain ⟨refId, hrefId, storageId, hstorageId, materializeAs, hmaterialize,
    hfields⟩ := hmade
  obtain ⟨hstorage, hstoragene⟩ :=
    normalizeStorageId_stable laws hstorageId refId
  have hmaterial := normalizeMaterializeAs_normal laws hmaterialize
  have hdefault : NormalText casing "controlplane" :=
    normalText_of_plain laws (by decide)
  have hnode : NormalText casing "node_control" :=
    normalText_of_plain laws (by decide)
  have hkind := (normalText_lower_strip laws
    (orElse raw.locatorKind "controlplane")).orElse hdefault
  have hkindne : orElse (casing.lower (strip (orElse raw.locatorKind
      "controlplane"))) "controlplane" ≠ "" := orElse_ne_empty (by decide)
  generalize orElse (casing.lower (strip (orElse raw.locatorKind
    "controlplane"))) "controlplane" = kind at hkind hkindne hfields
  obtain ⟨hlogical, hlogicalne⟩ := logicalTypeOf_normal laws
    (normalizeObjectFormat casing raw.format) hmaterial.2
  have haddr := strip_strip raw.controlAddr
  have htoken := strip_strip (orElse raw.locatorToken (strip raw.controlAddr))
  generalize strip (orElse raw.locatorToken (strip raw.controlAddr)) = token
    at hfields htoken
  generalize strip raw.controlAddr = addr at hfields haddr
  generalize hlocator : (if addr ≠ "" ∧ kind = "controlplane" then
    "node_control" else kind) = locator at hfields
  have hlocatorNormal : NormalText casing locator ∧ locator ≠ "" := by
    rw [← hlocator]
    split
    · exact ⟨hnode, by decide⟩
    · exact ⟨hkind, hkindne⟩
  have honNode : addr ≠ "" → locator ≠ "controlplane" := by
    intro hsome
    rw [← hlocator]
    split
    · decide
    · next hother => exact fun heq => hother ⟨hsome, heq⟩
  cases hfields
  refine ⟨?_, hstorage, hstoragene, ⟨?_, ?_⟩, ?_, ?_, hmaterial,
    hlocatorNormal, htoken, ?_, ?_, ?_, ?_, ?_⟩
  · unfold normalizeDataRefId at hrefId
    split at hrefId
    · cases hrefId
    · next hsome =>
      cases hrefId
      exact ⟨strip_strip _, hsome⟩
  · exact (normalText_lower_strip laws raw.logicalType).orElse hlogical
  · exact orElse_ne_empty hlogicalne
  · exact normalFormat_normalize laws raw.format
  · exact le_max_left 0 raw.sizeBytes
  · exact strip_strip raw.nodeId
  · exact strip_strip raw.nodeInstanceId
  · dsimp only
    split
    · exact strip_orElse haddr htoken
    · exact haddr
  · dsimp only
    intro hsome heq
    rw [heq, if_neg (by decide)] at hsome
    exact honNode hsome heq
  · dsimp only
    intro hnodekind hnone
    rw [if_pos hnodekind] at hnone
    by_cases hgiven : addr = ""
    · rwa [hgiven, Texts.orElse_empty] at hnone
    · rw [Texts.orElse_of_ne hgiven] at hnone
      exact absurd hnone hgiven

/-- Fields that are normal but for the location. -/
theorem NormalFields.postInit_relocated
    {fields : DataRefFields} (hnormal : NormalFields casing fields)
    (kind token nodeId nodeInstanceId addr : String) :
    let given := orElse (casing.lower (strip (orElse kind "controlplane")))
      "controlplane"
    let locator :=
      if strip addr ≠ "" ∧ given = "controlplane" then "node_control" else given
    { fields with
      locatorKind := kind
      locatorToken := token
      nodeId := nodeId
      nodeInstanceId := nodeInstanceId
      controlAddr := addr }.postInit casing = some { fields with
        locatorKind := locator
        locatorToken := strip (orElse token (strip addr))
        nodeId := strip nodeId
        nodeInstanceId := strip nodeInstanceId
        controlAddr :=
          if locator = "node_control" then
            orElse (strip addr) (strip (orElse token (strip addr)))
          else strip addr } := by
  have hrefId : normalizeDataRefId (orElse fields.refId fields.storageId) =
      some fields.refId := by
    rw [Texts.orElse_of_ne hnormal.refId.2, normalizeDataRefId,
      hnormal.refId.1, if_neg hnormal.refId.2]
  have hmaterialize : normalizeMaterializeAs casing fields.materializeAs =
      some fields.materializeAs := by
    have hne : fields.materializeAs ≠ "" := by
      intro hempty
      have hprefs := hnormal.materializeAs.2
      rw [hempty] at hprefs
      revert hprefs
      decide
    unfold normalizeMaterializeAs
    dsimp only
    rw [hnormal.materializeAs.1.eq, Texts.orElse_of_ne hne,
      if_pos hnormal.materializeAs.2]
  have hlogical : inferLogicalType casing fields.logicalType fields.format
      fields.materializeAs = fields.logicalType := by
    rw [inferLogicalType, hnormal.logicalType.1.eq,
      Texts.orElse_of_ne hnormal.logicalType.2]
  simp only [DataRefFields.postInit, hrefId, hnormal.storageId, hmaterialize,
    Option.bind_eq_bind, Option.bind_some, hlogical,
    hnormal.format.normalize laws, max_eq_right hnormal.sizeBytes]

theorem postInit_eq_self_iff
    {fields : DataRefFields} (hnormal : NormalFields casing fields) :
    fields.postInit casing = some fields ↔
      (fields.locatorToken = "" → fields.controlAddr = "") := by
  have hkind : orElse (casing.lower (strip (orElse fields.locatorKind
      "controlplane"))) "controlplane" = fields.locatorKind := by
    rw [Texts.orElse_of_ne hnormal.locatorKind.2, hnormal.locatorKind.1.eq,
      Texts.orElse_of_ne hnormal.locatorKind.2]
  have hgiven : ¬(fields.controlAddr ≠ "" ∧
      fields.locatorKind = "controlplane") := fun hboth =>
    hnormal.onNode hboth.1 hboth.2
  have hmade := hnormal.postInit_relocated laws fields.locatorKind
    fields.locatorToken fields.nodeId fields.nodeInstanceId fields.controlAddr
  simp only [hkind, hnormal.controlAddr, if_neg hgiven, hnormal.nodeId,
    hnormal.nodeInstanceId] at hmade
  rw [hmade]
  rw [Option.some.injEq]
  by_cases htoken : fields.locatorToken = ""
  · rw [htoken, Texts.orElse_empty, hnormal.controlAddr]
    constructor
    · intro hsame _
      have hback := congrArg DataRefFields.locatorToken hsame
      exact hback.trans htoken
    · intro hnone
      have haddr := hnone rfl
      obtain ⟨⟩ := fields
      simp only at htoken haddr
      simp [htoken, haddr]
  · rw [Texts.orElse_of_ne htoken, hnormal.locatorToken]
    simp only [htoken, false_implies, iff_true]
    have haddr : (if fields.locatorKind = "node_control" then
        orElse fields.controlAddr fields.locatorToken
        else fields.controlAddr) = fields.controlAddr := by
      split
      · next hnode =>
        by_cases hgiven : fields.controlAddr = ""
        · exact absurd (hnormal.located hnode hgiven) htoken
        · exact Texts.orElse_of_ne hgiven _
      · rfl
    rw [haddr]

theorem DataRef.normal (dataRef : DataRef casing) :
    NormalFields casing dataRef.fields := by
  obtain ⟨raw, hmade⟩ := dataRef.made
  exact normalFields_postInit laws hmade

end

theorem DataRef.make_eq_some_iff {raw : DataRefFields}
    {dataRef : DataRef casing} :
    DataRef.make casing raw = some dataRef ↔
      raw.postInit casing = some dataRef.fields := by
  unfold DataRef.make
  split
  · next hnone => simp [hnone]
  · next fields hsome =>
    rw [Option.some.injEq]
    constructor
    · rintro rfl
      exact hsome
    · intro hother
      rw [hsome, Option.some.injEq] at hother
      exact DataRef.ext hother

end Normal

section Reading

variable {φ α : Type} {casing : Casing}
  {codecs : Codecs φ α (DataRef casing)}
  {builtins : Builtins φ α (DataRef casing)}

/-- `str` of a text, and `int` of an int and of a dict, which raises. -/
structure BuiltinLaws {ρ : Type} (builtins : Builtins φ α ρ) : Prop where
  str : ∀ text, builtins.str (.str text) = text
  int : ∀ value, builtins.int (.int value) = some value
  int_dict : ∀ entries, builtins.int (.dict entries) = none

theorem textOr_str (laws : BuiltinLaws builtins) (text : String) :
    textOr codecs builtins (.str text) = text := by
  by_cases hempty : text = ""
  · simp [textOr, truthy, hempty]
  · simp [textOr, truthy, hempty, laws.str]

theorem intOr_int (laws : BuiltinLaws builtins) (value : ℤ) :
    intOr codecs builtins (.int value) = .ok value := by
  by_cases hzero : value = 0
  · simp [intOr, truthy, hzero]
  · simp [intOr, truthy, hzero, laws.int, orRaise]

theorem payloadFields_payload (laws : BuiltinLaws builtins)
    {fields : DataRefFields} (hnormal : NormalFields casing fields) :
    payloadFields codecs builtins fields.payload = some fields := by
  have hmaterial : fields.materializeAs ≠ "" := by
    intro hempty
    have hprefs := hnormal.materializeAs.2
    rw [hempty] at hprefs
    revert hprefs
    decide
  simp [payloadFields, DataRefFields.payload, payloadText, List.lookup,
    textOr_str laws, intOr_int laws, Texts.orElse_of_ne hnormal.refId.2,
    Texts.orElse_of_ne hnormal.storage_ne, Texts.orElse_of_ne hmaterial,
    Texts.orElse_of_ne hnormal.locatorKind.2, truthy]

theorem refFrom_payload_iff (lower : LowerLaws casing)
    (laws : BuiltinLaws builtins) (dataRef : DataRef casing) :
    (codecs.withDataRefs builtins).refFrom
        ((codecs.withDataRefs builtins).refEntries dataRef) = some dataRef ↔
      (dataRef.fields.locatorToken = "" → dataRef.fields.controlAddr = "") := by
  have hnormal := dataRef.normal lower
  rw [Codecs.withDataRefs]
  dsimp only
  rw [payloadFields_payload laws hnormal, Option.bind_some,
    DataRef.make_eq_some_iff, postInit_eq_self_iff lower hnormal]

end Reading

end PycloudParallel.Transport
