import PycloudParallel.CodeVersionModel

/-!
# The fields that the two sides hash

What the client hashes for an artifact, and what the node hashes for a request
with the fields of that artifact.
-/

namespace PycloudParallel.CodeVersion

open Texts

variable {rules : TextRules} {sha : Sha256}

/-! ## The hashed texts -/

variable {text callable entryModule : String} {format : PackageFormat}
  {prepared : PreparedFields}

theorem plain_of_hex
    (hhex : ∀ char ∈ text.toList, char ∈ "0123456789abcdef".toList) :
    strip text = text ∧ PlainText text := by
  have hfree : spaceFree "0123456789abcdef" = true := by decide
  have hplain : PlainText "0123456789abcdef" := by decide
  constructor
  · exact strip_eq_self fun char hchar =>
      isBlank_of_spaceFree hfree (hhex char hchar)
  · exact fun char hchar => hplain char (hhex char hchar)

theorem lower_strip_hexdigest (blob : ByteArray) :
    rules.lower (strip (sha.hexdigest blob)) = sha.hexdigest blob := by
  obtain ⟨hstrip, hplain⟩ := plain_of_hex (sha.digits blob)
  rw [hstrip, rules.lower_plain _ hplain]

theorem hexdigest_ne_empty (blob : ByteArray) : sha.hexdigest blob ≠ "" := by
  intro hempty
  have hlength := sha.length blob
  rw [hempty] at hlength
  exact absurd hlength (by decide)

theorem codeVersionFromDigest_eq (blob : ByteArray) (payload : VariantPayload) :
    codeVersionFromDigest rules sha (sha.hexdigest blob) payload =
      (payload.normalized rules).map fun variant =>
        "sha256:" ++ sha.hexdigest blob ++ "." ++
          sha.prefixDigits variant.stableJsonBytes := by
  simp only [codeVersionFromDigest, lower_strip_hexdigest]
  rw [if_neg (hexdigest_ne_empty blob)]

theorem version_inj {blob other : ByteArray} {first second : String}
    (heq : "sha256:" ++ sha.hexdigest blob ++ "." ++ first =
      "sha256:" ++ sha.hexdigest other ++ "." ++ second) :
    sha.hexdigest blob = sha.hexdigest other ∧ first = second := by
  have htexts := congrArg String.toList heq
  simp only [String.toList_append, List.append_assoc] at htexts
  have htail := List.append_cancel_left htexts
  have hlength : (sha.hexdigest blob).toList.length =
      (sha.hexdigest other).toList.length := by
    rw [String.length_toList, String.length_toList, sha.length, sha.length]
  obtain ⟨hdigest, hrest⟩ := List.append_inj htail hlength
  exact ⟨String.toList_injective hdigest,
    String.toList_injective (List.append_cancel_left hrest)⟩

theorem map_toList_injective : Function.Injective (List.map String.toList) :=
  List.map_injective_iff.mpr fun _ _ heq => String.toList_injective heq

theorem stableJsonBytes_injective :
    Function.Injective VariantPayload.stableJsonBytes := by
  intro first second heq
  have htexts : JsonText.object first.fields = JsonText.object second.fields := by
    rw [VariantPayload.stableJsonBytes, VariantPayload.stableJsonBytes,
      String.toUTF8_eq_toByteArray, String.toUTF8_eq_toByteArray,
      String.toByteArray_inj] at heq
    exact String.ofList_injective heq
  have hshape : JsonText.SameShape first.fields second.fields := by
    simp [JsonText.SameShape, VariantPayload.fields, JsonText.Field.sameKind]
  have hfields := JsonText.object_inj hshape htexts
  simp only [VariantPayload.fields, List.cons.injEq, Prod.mk.injEq,
    JsonText.Field.text.injEq, JsonText.Field.names.injEq, true_and, and_true,
    map_toList_injective.eq_iff, String.toList_inj] at hfields
  obtain ⟨hallowlist, hpolicy, hcallable, hmodule, hdecorator, hmethods, hmode,
    hformat, hruntime⟩ := hfields
  exact VariantPayload.ext hruntime hmodule hcallable hformat hmode hmethods
    hdecorator hpolicy hallowlist

theorem erased_of_notMem {pattern text : List Char} {first : Char}
    {rest : List Char} (hpattern : pattern = first :: rest)
    (hfirst : first ∉ text) : erased pattern 0 text = text := by
  induction text with
  | nil => rfl
  | cons char tail ih =>
    rw [List.mem_cons, not_or] at hfirst
    have hprefix : pattern.isPrefixOf (char :: tail) = false := by
      rw [hpattern, List.isPrefixOf_cons_cons, beq_false_of_ne hfirst.1,
        Bool.false_and]
    rw [erased, hprefix, if_neg Bool.false_ne_true, ih hfirst.2]

theorem erased_sha256 (blob : ByteArray) :
    erased "sha256:".toList 0 ("sha256:" ++ sha.hexdigest blob).toList =
      (sha.hexdigest blob).toList := by
  have hletter : 's' ∉ (sha.hexdigest blob).toList := by
    intro hmem
    exact absurd (sha.digits blob 's' hmem) (by decide)
  have hrest : erased "sha256:".toList 0 (sha.hexdigest blob).toList =
      (sha.hexdigest blob).toList := erased_of_notMem rfl hletter
  rw [String.toList_append]
  exact hrest

theorem putCode_eq {node : NodePlace} {request : CreateServiceMeta}
    {blob : ByteArray}
    (hsha : request.sha256 = "sha256:" ++ sha.hexdigest blob) :
    putCode rules sha node request blob =
      (nodePayload rules node request).bind
        (codeVersionFromDigest rules sha (sha.hexdigest blob)) := by
  have hexpected : rules.lower (strip (.ofList
      (erased "sha256:".toList 0 request.sha256.toList))) =
      sha.hexdigest blob := by
    rw [hsha, erased_sha256, String.ofList_toList, lower_strip_hexdigest]
  simp only [putCode, hexpected, lower_strip_hexdigest]
  rw [if_neg (hexdigest_ne_empty blob), if_neg]
  exact fun hwrong => hwrong.2 rfl

theorem lower_strip_plain (hstrip : strip text = text) (hplain : PlainText text) :
    rules.lower (strip text) = text := by
  rw [hstrip, rules.lower_plain _ hplain]

theorem dependencyMode_text (mode : DependencyMode) :
    strip mode.text = mode.text ∧ PlainText mode.text ∧
      DependencyMode.ofText mode.text = some mode := by
  cases mode <;> exact ⟨strip_of_spaceFree (by decide), by decide, rfl⟩

theorem exportMode_text (mode : ExportMode) :
    strip mode.text = mode.text ∧ PlainText mode.text ∧
      ExportMode.ofText mode.text = some mode := by
  cases mode <;> exact ⟨strip_of_spaceFree (by decide), by decide, rfl⟩

theorem dependencyMode_text_injective :
    Function.Injective DependencyMode.text := by
  intro first second heq
  have hmodes := congrArg DependencyMode.ofText heq
  rw [(dependencyMode_text first).2.2, (dependencyMode_text second).2.2]
    at hmodes
  exact Option.some.inj hmodes

theorem exportMode_text_injective : Function.Injective ExportMode.text := by
  intro first second heq
  have hmodes := congrArg ExportMode.ofText heq
  rw [(exportMode_text first).2.2, (exportMode_text second).2.2] at hmodes
  exact Option.some.inj hmodes

theorem namesFrom_allowlist (deps : ArtifactDeps) :
    namesFrom [] deps.dependencyAllowlist = deps.dependencyAllowlist := by
  rw [ArtifactDeps.dependencyAllowlist]
  split
  · rfl
  · exact namesFrom_eq_self deps.normal fun _ _ => List.not_mem_nil

theorem normalizeDependencyPolicyMode_deps (deps : ArtifactDeps) :
    normalizeDependencyPolicyMode rules deps.mode.text
      deps.dependencyAllowlist = some deps.mode := by
  obtain ⟨hstrip, hplain, hmode⟩ := dependencyMode_text deps.mode
  rw [normalizeDependencyPolicyMode, lower_strip_plain hstrip hplain, hmode]
  simp only
  rw [if_neg]
  rintro ⟨hinstall, hnames⟩
  rw [namesFrom_allowlist, ArtifactDeps.dependencyAllowlist,
    if_pos hinstall] at hnames
  exact hnames rfl

/-! ## Runtimes, formats and modules -/

theorem isBlank_of_mem_toString {number : ℕ} {char : Char}
    (hchar : char ∈ (toString number).toList) : isBlank char = false := by
  have hdigits : ∀ code, 48 ≤ code → code ≤ 57 → code ∉ spaceCodes := by
    intro code hlow hhigh hmem
    have hrange : ∀ code ∈ spaceCodes, code < 48 ∨ 57 < code := by decide
    have := hrange code hmem
    omega
  rw [Nat.toString_eq_ofList_toDigits, String.toList_ofList] at hchar
  have hdigit := Nat.isDigit_of_mem_toDigits (by decide) (by decide) hchar
  have hcode : 48 ≤ char.toNat ∧ char.toNat ≤ 57 := by
    rw [Char.isDigit, Bool.and_eq_true, decide_eq_true_eq,
      decide_eq_true_eq] at hdigit
    exact ⟨UInt32.le_iff_toNat_le.mp hdigit.1,
      UInt32.le_iff_toNat_le.mp hdigit.2⟩
  rw [isBlank, List.contains_eq_mem, decide_eq_false_iff_not]
  exact hdigits _ hcode.1 hcode.2

theorem strip_normalized (spec : PythonRuntimeSpec) :
    strip spec.normalized = spec.normalized ∧ spec.normalized ≠ "" := by
  have hop : spaceFree spec.op.text = true := by cases spec.op <;> decide
  have hpy : spaceFree "py" = true := by decide
  have hdot : spaceFree "." = true := by decide
  constructor
  · apply strip_eq_self
    intro char hchar
    cases hminor : spec.minor with
    | none =>
      simp only [PythonRuntimeSpec.normalized, hminor, String.toList_append,
        List.mem_append] at hchar
      rcases hchar with hchar | hchar | hchar
      · exact isBlank_of_spaceFree hop hchar
      · exact isBlank_of_spaceFree hpy hchar
      · exact isBlank_of_mem_toString hchar
    | some minor =>
      simp only [PythonRuntimeSpec.normalized, hminor, String.toList_append,
        List.mem_append] at hchar
      rcases hchar with hchar | ((hchar | hchar) | hchar) | hchar
      · exact isBlank_of_spaceFree hop hchar
      · exact isBlank_of_spaceFree hpy hchar
      · exact isBlank_of_mem_toString hchar
      · exact isBlank_of_spaceFree hdot hchar
      · exact isBlank_of_mem_toString hchar
  · intro hempty
    have hmem : 'p' ∈ spec.normalized.toList := by
      cases hminor : spec.minor with
      | none | some minor => simp [PythonRuntimeSpec.normalized, hminor]
    rw [hempty] at hmem
    cases hmem

theorem strip_normalizePythonRuntimeSpec {normal : String}
    (hnormal : normalizePythonRuntimeSpec rules text = some normal) :
    strip normal = normal := by
  rw [normalizePythonRuntimeSpec, Option.map_eq_some_iff] at hnormal
  obtain ⟨spec, _, rfl⟩ := hnormal
  cases spec with
  | none => exact strip_of_spaceFree (by decide)
  | some constraint => exact (strip_normalized constraint).1

theorem validatePythonRuntimeOrRaise_eq_some {nodeVersion normal : String}
    (hvalid : validatePythonRuntimeOrRaise rules nodeVersion text = some normal) :
    normalizePythonRuntimeSpec rules text = some normal := by
  rw [validatePythonRuntimeOrRaise, Option.bind_eq_some_iff] at hvalid
  obtain ⟨found, hfound, hrest⟩ := hvalid
  split at hrest
  case isTrue hempty =>
    cases hrest
    rw [hfound, hempty]
  case isFalse =>
    split at hrest
    · cases hrest
      exact hfound
    · cases hrest

def keptFormats : List String :=
  ["py", "tar.gz", "zip", "whl"]

theorem text_mem_keptFormats (hformat : format ≠ .bin) :
    format.text ∈ keptFormats := by
  cases format <;> first | decide | exact absurd rfl hformat

theorem keptFormat_plain {format : String} (hkept : format ∈ keptFormats) :
    strip format = format ∧ PlainText format ∧ format ≠ "" := by
  have hall : ∀ format ∈ keptFormats,
      spaceFree format = true ∧ PlainText format ∧ format ≠ "" := by decide
  obtain ⟨hfree, hplain, hnonblank⟩ := hall format hkept
  exact ⟨strip_of_spaceFree hfree, hplain, hnonblank⟩

theorem resolvePackageFormat_kept {format filename fallback : String}
    (hkept : format ∈ keptFormats) :
    resolvePackageFormat rules format filename fallback = format := by
  obtain ⟨hstrip, hplain, hnonblank⟩ := keptFormat_plain hkept
  rw [resolvePackageFormat, lower_strip_plain hstrip hplain]
  exact if_pos hnonblank

theorem normalizePackageFormat_kept {format path : String}
    (hkept : format ∈ keptFormats) :
    (normalizePackageFormat rules format path).text = format := by
  obtain ⟨hstrip, hplain, _⟩ := keptFormat_plain hkept
  rw [normalizePackageFormat, lower_strip_plain hstrip hplain]
  simp only [keptFormats, List.mem_cons, List.not_mem_nil, or_false] at hkept
  rcases hkept with rfl | rfl | rfl | rfl <;> rfl

theorem stripped_of_stripped (hstripped : Stripped text) :
    strippedOr text "run" = text := by
  rw [strippedOr, if_neg, hstripped.strip]
  rw [hstripped.strip]
  exact hstripped.nonblank

structure PreparedFields.Sound (prepared : PreparedFields) : Prop where
  runtime : Stripped prepared.runtime
  entryCallable : Stripped prepared.entryCallable
  packageFormat : strip prepared.packageFormat = prepared.packageFormat
  single : prepared.exports.mode = .single →
    prepared.exports.methods = [prepared.entryCallable]

theorem strip_resolvePackageFormat (format filename : String) :
    strip (resolvePackageFormat rules format filename "py") =
      resolvePackageFormat rules format filename "py" := by
  have hformats : ∀ inferred : PackageFormat,
      strip inferred.text = inferred.text := by
    intro inferred
    cases inferred <;> exact strip_of_spaceFree (by decide)
  have hlower : ∀ text, strip (rules.lower (strip text)) =
      rules.lower (strip text) :=
    fun text => rules.lower_strip _ (strip_strip text)
  simp only [resolvePackageFormat]
  split
  · exact hlower format
  · split
    · exact hformats _
    · split
      · exact hformats .bin
      · exact hlower "py"

theorem inferEntryDefaults_callable (artifact : Artifact) (format : String) :
    Stripped (inferEntryDefaults rules artifact format).2 := by
  have hcallable : Stripped
      (if artifact.entryCallable = "run" then
        strippedOr artifact.source.functionName "run"
      else artifact.entryCallable) := by
    split
    · exact stripped_strippedOr stripped_run
    · exact artifact.callableStripped
  simpa only [inferEntryDefaults, apply_ite Prod.snd, ite_self] using hcallable

theorem namesFrom_callable (hcallable : Stripped callable) :
    namesFrom [] [strippedOr callable "run"] = [callable] := by
  rw [stripped_of_stripped hcallable]
  apply namesFrom_eq_self
  · constructor
    · exact List.nodup_singleton callable
    · intro name hname
      rw [List.mem_singleton.mp hname]
      exact ⟨hcallable.nonblank, hcallable.strip⟩
  · exact fun _ _ => List.not_mem_nil

theorem normalized_single {exports : ArtifactExports}
    (hcallable : Stripped callable)
    (hsingle : (exports.normalized callable).mode = .single) :
    (exports.normalized callable).methods = [callable] := by
  by_cases hmode : exports.mode = .single
  · have hmethods : (exports.normalized callable).methods =
        namesFrom [] [strippedOr callable "run"] := by
      rw [ArtifactExports.normalized, if_pos hmode]
    rw [hmethods]
    exact namesFrom_callable hcallable
  · rw [ArtifactExports.normalized, if_neg hmode] at hsingle
    exact absurd hsingle hmode

theorem resolvedExports_single {artifact : Artifact}
    (hcallable : Stripped callable)
    (hsingle : (resolvedExports artifact callable).mode = .single) :
    (resolvedExports artifact callable).methods = [callable] := by
  have hall : ArtifactExports.exportAll.mode ≠ .single := nofun
  rw [resolvedExports] at hsingle ⊢
  cases hexports : artifact.exports with
  | none =>
    rw [hexports] at hsingle
    exact absurd hsingle hall
  | some exports =>
    rw [hexports] at hsingle
    exact normalized_single hcallable hsingle

theorem preparedFields_sound (rules : TextRules) (artifact : Artifact) :
    (preparedFields rules artifact).Sound where
  runtime := artifact.runtimeStripped
  entryCallable := inferEntryDefaults_callable artifact _
  packageFormat := strip_resolvePackageFormat _ _
  single := resolvedExports_single (inferEntryDefaults_callable artifact _)

/-! ## What each side hashes -/

def clientVariant (prepared : PreparedFields) : VariantPayload :=
  { prepared.payload with entryModule := strip prepared.entryModule }

theorem payload_normalized (hsound : prepared.Sound) :
    prepared.payload.normalized rules = some (clientVariant prepared) := by
  have hmode : normalizeDependencyPolicyMode rules
      prepared.payload.dependencyPolicyMode
      prepared.payload.dependencyAllowlist =
        some prepared.dependencyPolicy.mode :=
    normalizeDependencyPolicyMode_deps _
  rw [VariantPayload.normalized, hmode, Option.map_some]
  simp only [clientVariant, PreparedFields.payload, hsound.runtime.strip,
    hsound.entryCallable.strip, hsound.packageFormat,
    prepared.exports.stripped.strip, (exportMode_text _).1]

theorem prepareArtifact_eq_some {artifact : Artifact}
    {prepared : PreparedArtifact}
    (hprepared : prepareArtifact rules sha artifact = some prepared) :
    prepared.toPreparedFields = preparedFields rules artifact ∧
      prepared.codeVersion = "sha256:" ++ sha.hexdigest prepared.blob ++ "." ++
        sha.prefixDigits (clientVariant prepared.toPreparedFields).stableJsonBytes := by
  have hsound := preparedFields_sound rules artifact
  rw [prepareArtifact, codeVersionFromDigest_eq, payload_normalized hsound,
    Option.map_some, Option.map_some, Option.some.injEq] at hprepared
  rw [← hprepared]
  exact ⟨rfl, rfl⟩

/-- What the node hashes for a request with the fields of a prepared artifact. -/
structure NodeVariant (rules : TextRules) (prepared : PreparedFields)
    (variant : VariantPayload) : Prop where
  runtime : normalizePythonRuntimeSpec rules prepared.runtime =
    some variant.runtime
  moduleStripped : Stripped variant.entryModule
  entryModule : strip prepared.entryModule ≠ "" →
    variant.entryModule = strip prepared.entryModule
  archive : prepared.packageFormat ∈ keptFormats →
    prepared.packageFormat ≠ "py" → strip prepared.entryModule ≠ ""
  entryCallable : variant.entryCallable = prepared.entryCallable
  packageFormat : variant.packageFormat ∈ keptFormats
  sameFormat : prepared.packageFormat ∈ keptFormats →
    variant.packageFormat = prepared.packageFormat
  exportMode : variant.exportMode = prepared.exports.mode.text
  exportMethods : variant.exportMethods =
    if prepared.exports.mode = .single then [prepared.entryCallable]
    else sortedNames prepared.exports.methods
  exportDecorator : variant.exportDecorator = defaultExportDecorator
  dependencyPolicyMode : variant.dependencyPolicyMode =
    prepared.dependencyPolicy.mode.text
  dependencyAllowlist : variant.dependencyAllowlist =
    prepared.dependencyPolicy.dependencyAllowlist

theorem normalizeExportSpec_eq {mode : ExportMode} {methods : List String}
    (hcallable : Stripped callable) :
    normalizeExportSpec rules mode.text methods callable =
      (mode, if mode = .single then [callable] else sortedNames methods,
        defaultExportDecorator) := by
  obtain ⟨hstrip, hplain, hmode⟩ := exportMode_text mode
  rw [normalizeExportSpec, lower_strip_plain hstrip hplain, hmode,
    stripped_of_stripped hcallable]
  simp only
  split <;> rfl

theorem createServiceFromBytes_eq (hsound : prepared.Sound) :
    createServiceFromBytes rules sha prepared = some {
      sha256 := "sha256:" ++ sha.hexdigest prepared.blob
      runtime := prepared.runtime
      entryModule := defaultEntryModuleForPackage rules
        (resolvePackageFormat rules prepared.packageFormat "" "py")
        prepared.entryModule "service_artifact"
      entryCallable := prepared.entryCallable
      packageFormat := resolvePackageFormat rules prepared.packageFormat "" "py"
      exportMode := prepared.exports.mode.text
      exportMethods := prepared.exports.methods
      exportDecorator := defaultExportDecorator
      dependencyPolicyMode := prepared.dependencyPolicy.mode.text
      dependencyAllowlist := prepared.dependencyPolicy.dependencyAllowlist } := by
  rw [createServiceFromBytes, normalizeDependencyPolicyMode_deps,
    Option.map_some, if_neg hsound.entryCallable.nonblank]

theorem uploadedModule_stripped (hbin : format ≠ .bin)
    (harchive : ¬(format ≠ .py ∧ format ≠ .bin ∧
      uploadedModule format entryModule = "")) :
    Stripped (uploadedModule format entryModule) := by
  have hnonblank : uploadedModule format entryModule ≠ "" := by
    intro hempty
    by_cases hpy : format = .py
    · rw [uploadedModule] at hempty
      split at hempty
      case isTrue => exact absurd hempty (by decide)
      case isFalse hmodule => exact hmodule ⟨hempty, hpy⟩
    · exact harchive ⟨hpy, hbin, hempty⟩
  refine ⟨?_, hnonblank⟩
  rw [uploadedModule]
  split
  · exact strip_of_spaceFree (by decide)
  · exact strip_strip entryModule

theorem uploadedModule_eq {packageFormat stem : String}
    (hmodule : strip entryModule ≠ "") :
    uploadedModule format (defaultEntryModuleForPackage rules packageFormat
      entryModule stem) = strip entryModule := by
  rw [defaultEntryModuleForPackage, if_pos hmodule, uploadedModule, strip_strip,
    if_neg]
  exact fun hempty => hmodule hempty.1

theorem uploadedModule_archive {packageFormat stem : String}
    (hkept : packageFormat ∈ keptFormats) (hpy : packageFormat ≠ "py")
    (hformat : format ≠ .py) (hmodule : strip entryModule = "") :
    uploadedModule format (defaultEntryModuleForPackage rules packageFormat
      entryModule stem) = "" := by
  have hblank : strip "" = "" := strip_of_spaceFree (by decide)
  rw [defaultEntryModuleForPackage, if_neg (not_not.mpr hmodule),
    resolvePackageFormat_kept hkept, if_pos hpy, uploadedModule, hblank, if_neg]
  exact fun hpackage => hformat hpackage.2

theorem nodeVariant_of_nodePayload {node : NodePlace}
    {request : CreateServiceMeta} {variant : VariantPayload}
    (hsound : prepared.Sound)
    (hrequest : createServiceFromBytes rules sha prepared = some request)
    (hnode : nodePayload rules node request = some variant) :
    NodeVariant rules prepared variant := by
  rw [createServiceFromBytes_eq hsound, Option.some.injEq] at hrequest
  subst hrequest
  rw [nodePayload, Option.bind_eq_some_iff] at hnode
  obtain ⟨runtime, hruntime, hnode⟩ := hnode
  simp only [stripped_of_stripped hsound.entryCallable,
    normalizeExportSpec_eq hsound.entryCallable, namesFrom_allowlist,
    normalizeDependencyPolicyMode_deps, Option.map_some] at hnode
  have hkeeps : prepared.packageFormat ∈ keptFormats →
      resolvePackageFormat rules prepared.packageFormat "" "py" =
        prepared.packageFormat ∧
      (uploadedFormat rules node
        (resolvePackageFormat rules prepared.packageFormat "" "py")).text =
        prepared.packageFormat := by
    intro hkept
    rw [resolvePackageFormat_kept hkept]
    exact ⟨rfl, normalizePackageFormat_kept hkept⟩
  generalize uploadedFormat rules node
    (resolvePackageFormat rules prepared.packageFormat "" "py") = format
    at hnode hkeeps
  by_cases harchive : format ≠ .py ∧ format ≠ .bin ∧
      uploadedModule format (defaultEntryModuleForPackage rules
        (resolvePackageFormat rules prepared.packageFormat "" "py")
        prepared.entryModule "service_artifact") = ""
  · rw [if_pos harchive] at hnode
    cases hnode
  by_cases hbin : format = .bin
  · rw [if_neg harchive, if_pos hbin] at hnode
    cases hnode
  rw [if_neg harchive, if_neg hbin, Option.some.injEq] at hnode
  have hmodule : prepared.packageFormat ∈ keptFormats →
      prepared.packageFormat ≠ "py" → strip prepared.entryModule ≠ "" := by
    intro hkept hpy hmodule
    obtain ⟨hresolve, htext⟩ := hkeeps hkept
    have hformat : format ≠ .py := by
      intro heq
      rw [heq] at htext
      exact hpy htext.symm
    refine harchive ⟨hformat, hbin, ?_⟩
    rw [hresolve]
    exact uploadedModule_archive hkept hpy hformat hmodule
  have huploaded : variant.entryModule = uploadedModule format
      (defaultEntryModuleForPackage rules
        (resolvePackageFormat rules prepared.packageFormat "" "py")
        prepared.entryModule "service_artifact") := by
    rw [← hnode]
  have hstripped : Stripped variant.entryModule := by
    rw [huploaded]
    exact uploadedModule_stripped hbin harchive
  have hsame : strip prepared.entryModule ≠ "" →
      variant.entryModule = strip prepared.entryModule := by
    intro hnonblank
    rw [huploaded]
    exact uploadedModule_eq hnonblank
  have hruntime := validatePythonRuntimeOrRaise_eq_some hruntime
  have hformat := text_mem_keptFormats hbin
  clear huploaded
  subst hnode
  exact ⟨hruntime, hstripped, hsame, hmodule, rfl, hformat,
    fun hkept => (hkeeps hkept).2, rfl, rfl, rfl, rfl, rfl⟩

theorem NodeVariant.normalized {variant : VariantPayload}
    (hsound : prepared.Sound) (hvariant : NodeVariant rules prepared variant) :
    variant.normalized rules = some variant := by
  have hmode : normalizeDependencyPolicyMode rules variant.dependencyPolicyMode
      variant.dependencyAllowlist = some prepared.dependencyPolicy.mode := by
    rw [hvariant.dependencyPolicyMode, hvariant.dependencyAllowlist]
    exact normalizeDependencyPolicyMode_deps _
  have hcallable : strip variant.entryCallable = variant.entryCallable := by
    rw [hvariant.entryCallable]
    exact hsound.entryCallable.strip
  have hexports : strip variant.exportMode = variant.exportMode := by
    rw [hvariant.exportMode]
    exact (exportMode_text _).1
  have hdecorator : strip variant.exportDecorator = variant.exportDecorator := by
    rw [hvariant.exportDecorator]
    exact stripped_default.strip
  rw [VariantPayload.normalized, hmode, Option.map_some,
    strip_normalizePythonRuntimeSpec hvariant.runtime,
    hvariant.moduleStripped.strip, hcallable, hexports, hdecorator,
    (keptFormat_plain hvariant.packageFormat).1, ← hvariant.dependencyPolicyMode]

end PycloudParallel.CodeVersion
