import PycloudParallel.CodeVersionVariants
import Mathlib

/-!
# When the client and the node agree on a code version

The node brings the fields of a request into shape before it hashes them, the
client hashes what it prepared.  The two versions agree for the artifacts whose
fields the node leaves as they are.
-/

namespace PycloudParallel.CodeVersion

open Texts

variable {rules : TextRules} {sha : Sha256}

theorem exportMethods_eq_iff {prepared : PreparedFields}
    {variant : VariantPayload} (hsound : prepared.Sound)
    (hvariant : NodeVariant rules prepared variant) :
    variant.exportMethods = prepared.exports.methods ↔
      prepared.exports.mode = .single ∨
        prepared.exports.methods.Pairwise (· ≤ ·) := by
  rw [hvariant.exportMethods]
  by_cases hsingle : prepared.exports.mode = .single
  · rw [if_pos hsingle, hsound.single hsingle]
    exact iff_of_true rfl (Or.inl hsingle)
  · rw [if_neg hsingle, sortedNames_eq_self_iff prepared.exports.normal]
    exact ⟨Or.inr, fun hkept => hkept.resolve_left hsingle⟩

structure PreparedFields.Kept (rules : TextRules) (prepared : PreparedFields) :
    Prop where
  runtime : normalizePythonRuntimeSpec rules prepared.runtime =
    some prepared.runtime
  packageFormat : prepared.packageFormat ∈ keptFormats
  exportMethods : prepared.exports.mode = .single ∨
    prepared.exports.methods.Pairwise (· ≤ ·)
  exportDecorator : prepared.exports.decorator = defaultExportDecorator
  entryModule : strip prepared.entryModule ≠ ""

theorem variant_eq_iff {prepared : PreparedFields} {variant : VariantPayload}
    (hsound : prepared.Sound) (hvariant : NodeVariant rules prepared variant) :
    variant = clientVariant prepared ↔ prepared.Kept rules := by
  constructor
  · intro heq
    have hruntime : variant.runtime = prepared.runtime := by rw [heq]; rfl
    have hformat : variant.packageFormat = prepared.packageFormat := by
      rw [heq]
      rfl
    have hmethods : variant.exportMethods = prepared.exports.methods := by
      rw [heq]
      rfl
    have hdecorator : variant.exportDecorator = prepared.exports.decorator := by
      rw [heq]
      rfl
    have hmodule : variant.entryModule = strip prepared.entryModule := by
      rw [heq]
      rfl
    exact {
      runtime := by rw [hvariant.runtime, hruntime]
      packageFormat := hformat ▸ hvariant.packageFormat
      exportMethods := (exportMethods_eq_iff hsound hvariant).mp hmethods
      exportDecorator := by rw [← hdecorator, hvariant.exportDecorator]
      entryModule := hmodule ▸ hvariant.moduleStripped.nonblank }
  · intro hkept
    have hruntime : variant.runtime = prepared.runtime := by
      have hnormal := hvariant.runtime
      rw [hkept.runtime, Option.some.injEq] at hnormal
      exact hnormal.symm
    have hmethods := (exportMethods_eq_iff hsound hvariant).mpr
      hkept.exportMethods
    have hdecorator : variant.exportDecorator = prepared.exports.decorator := by
      rw [hvariant.exportDecorator, hkept.exportDecorator]
    have hformat := hvariant.sameFormat hkept.packageFormat
    have hmodule := hvariant.entryModule hkept.entryModule
    exact VariantPayload.ext hruntime hmodule hvariant.entryCallable hformat
      hvariant.exportMode hmethods hdecorator hvariant.dependencyPolicyMode
      hvariant.dependencyAllowlist

/-! ## The condition on the artifact -/

theorem isBlank_of_plainFileChar {char : Char}
    (hplain : plainFileChar char = true) : isBlank char = false := by
  have hcodes : ∀ code ∈ spaceCodes, plainFileChar (.ofNat code) = false := by
    decide
  by_contra hspace
  rw [Bool.not_eq_false, isBlank, List.contains_eq_mem, decide_eq_true_eq]
    at hspace
  have hother := hcodes _ hspace
  rw [Char.ofNat_toNat, hplain] at hother
  cases hother

theorem plainFileChar_of_mem {replaced : Bool} {text : List Char} {char : Char}
    (hchar : char ∈ plainFileName replaced text) : plainFileChar char = true := by
  induction text generalizing replaced with
  | nil => cases hchar
  | cons first rest ih =>
    rw [plainFileName] at hchar
    split at hchar
    case isTrue hplain =>
      rw [List.mem_cons] at hchar
      cases hchar with
      | inl heq => exact heq ▸ hplain
      | inr hrest => exact ih hrest
    case isFalse =>
      split at hchar
      · exact ih hchar
      · rw [List.mem_cons] at hchar
        cases hchar with
        | inl heq => exact heq ▸ rfl
        | inr hrest => exact ih hrest

theorem artifactStem_ne_nil (fallbackStem : String) :
    artifactStem fallbackStem ≠ [] := by
  simp only [artifactStem]
  split
  · decide
  case isFalse hplain => exact hplain

theorem isBlank_of_mem_artifactStem {fallbackStem : String} {char : Char}
    (hchar : char ∈ artifactStem fallbackStem) : isBlank char = false := by
  simp only [artifactStem] at hchar
  split at hchar
  · have hartifact : spaceFree "artifact" = true := by decide
    exact isBlank_of_spaceFree hartifact hchar
  · exact isBlank_of_plainFileChar (plainFileChar_of_mem
      (mem_of_mem_trim hchar))

theorem fileStem_py {stem : List Char} (hstem : stem ≠ []) :
    fileStem (stem ++ ".py".toList) = stem := by
  have hending : (stem ++ ".py".toList).reverse.takeWhile (· ≠ '.') =
      ['y', 'p'] := by
    rw [List.reverse_append]
    rfl
  have hlength : (stem ++ ".py".toList).length - ['y', 'p'].length - 1 =
      stem.length := by
    rw [List.length_append]
    exact Nat.add_sub_cancel stem.length 3
  have hdot : '.' ∈ stem ++ ".py".toList :=
    List.mem_append_right _ (by decide)
  simp only [fileStem, hending, hlength, List.take_left']
  rw [if_pos]
  exact ⟨hdot, hstem, by decide⟩

theorem strip_defaultEntryModule_ne_empty (fallbackStem : String) :
    strip (defaultEntryModuleForPackage rules "py" "" fallbackStem) ≠ "" := by
  have hkept : "py" ∈ keptFormats := by decide
  have hmodule : defaultEntryModuleForPackage rules "py" "" fallbackStem =
      .ofList (artifactStem fallbackStem) := by
    have hblank : ¬strip "" ≠ "" := not_not.mpr (strip_of_spaceFree (by decide))
    have hformat : ¬resolvePackageFormat rules "py" "" "py" ≠ "py" :=
      not_not.mpr (resolvePackageFormat_kept hkept)
    rw [defaultEntryModuleForPackage, if_neg hblank, if_neg hformat,
      defaultArtifactFilename, resolvePackageFormat_kept hkept]
    exact congrArg String.ofList (fileStem_py (artifactStem_ne_nil _))
  rw [hmodule, strip_eq_self]
  · intro hempty
    exact artifactStem_ne_nil fallbackStem (String.ofList_injective hempty)
  · intro char hchar
    rw [String.toList_ofList] at hchar
    exact isBlank_of_mem_artifactStem hchar

/-- The artifacts whose fields the node hashes as they are: the runtime is its
own normal form, the format goes by the name the node has for it or is found
from the file, the methods are sorted unless there is one, the decorator is the
default, and a module that is found from the source is not all blanks. -/
structure KeptByNode (rules : TextRules) (artifact : Artifact) : Prop where
  runtime : normalizePythonRuntimeSpec rules artifact.runtime =
    some artifact.runtime
  packageFormat : rules.lower artifact.packageFormat ∈ "" :: keptFormats
  exports : ∀ exports, artifact.exports = some exports →
    (exports.mode = .single ∨ exports.methods.Pairwise (· ≤ ·)) ∧
      exports.decorator = defaultExportDecorator
  entryModule : artifact.entryModule = "" → artifact.source.moduleName ≠ "" →
    strip artifact.source.moduleName ≠ ""

theorem resolvePackageFormat_mem_iff (rules : TextRules) {format : String}
    (filename : String) (hformat : strip format = format) :
    resolvePackageFormat rules format filename "py" ∈ keptFormats ↔
      rules.lower format ∈ "" :: keptFormats := by
  rw [resolvePackageFormat, hformat, List.mem_cons]
  by_cases hexplicit : rules.lower format = ""
  · have hpy : rules.lower (strip "py") = "py" :=
      lower_strip_plain (strip_of_spaceFree (by decide)) (by decide)
    have hmem : "py" ∈ keptFormats := by decide
    simp only [hexplicit, ne_eq, not_true_eq_false, if_false, true_or, iff_true]
    split
    case isTrue hinferred => exact text_mem_keptFormats hinferred
    case isFalse =>
      rw [hpy]
      exact hmem
  · simp [hexplicit]

theorem resolvedExports_kept_iff (artifact : Artifact) (callable : String) :
    (((resolvedExports artifact callable).mode = .single ∨
        (resolvedExports artifact callable).methods.Pairwise (· ≤ ·)) ∧
      (resolvedExports artifact callable).decorator = defaultExportDecorator) ↔
    ∀ exports, artifact.exports = some exports →
      (exports.mode = .single ∨ exports.methods.Pairwise (· ≤ ·)) ∧
        exports.decorator = defaultExportDecorator := by
  rw [resolvedExports]
  cases artifact.exports with
  | none =>
    have hall : (ArtifactExports.exportAll.mode = .single ∨
        ArtifactExports.exportAll.methods.Pairwise (· ≤ ·)) ∧
        ArtifactExports.exportAll.decorator = defaultExportDecorator :=
      ⟨Or.inr List.Pairwise.nil, rfl⟩
    refine iff_of_true hall ?_
    intro exports hexports
    cases hexports
  | some exports =>
    have hnormalized : (exports.normalized callable).mode = exports.mode ∧
        (exports.normalized callable).decorator = exports.decorator ∧
        (exports.mode ≠ .single →
          (exports.normalized callable).methods = exports.methods) := by
      rw [ArtifactExports.normalized]
      split
      case isTrue hsingle => exact ⟨rfl, rfl, absurd hsingle⟩
      case isFalse => exact ⟨rfl, rfl, fun _ => rfl⟩
    obtain ⟨hmode, hdecorator, hmethods⟩ := hnormalized
    simp only [Option.some.injEq, forall_eq', hmode, hdecorator]
    by_cases hsingle : exports.mode = .single
    · simp only [hsingle, true_or]
    · rw [hmethods hsingle]

theorem entryModule_kept_iff {artifact : Artifact}
    (harchive : (preparedFields rules artifact).packageFormat ≠ "py" →
      strip (preparedFields rules artifact).entryModule ≠ "") :
    strip (preparedFields rules artifact).entryModule ≠ "" ↔
      (artifact.entryModule = "" → artifact.source.moduleName ≠ "" →
        strip artifact.source.moduleName ≠ "") := by
  generalize hpackage : (preparedFields rules artifact).packageFormat = format
    at harchive
  have hmodule : (preparedFields rules artifact).entryModule =
      (inferEntryDefaults rules artifact format).1 := by
    rw [← hpackage]
    rfl
  rw [hmodule] at harchive ⊢
  by_cases hgiven : artifact.entryModule = ""
  · by_cases hfound : artifact.source.moduleName = ""
    · have hright : artifact.entryModule = "" →
          artifact.source.moduleName ≠ "" →
          strip artifact.source.moduleName ≠ "" :=
        fun _ hname => absurd hfound hname
      refine iff_of_true ?_ hright
      by_cases hpy : format = "py"
      · simp only [inferEntryDefaults, hgiven, hfound, hpy, ne_eq,
          not_true_eq_false, if_false, and_self, if_true]
        exact strip_defaultEntryModule_ne_empty _
      · exact harchive hpy
    · have hentry : (inferEntryDefaults rules artifact format).1 =
          artifact.source.moduleName := by
        simp [inferEntryDefaults, hgiven, hfound]
      rw [hentry]
      exact ⟨fun hname _ _ => hname, fun hname => hname hgiven hfound⟩
  · have hentry : (inferEntryDefaults rules artifact format).1 =
        artifact.entryModule := by
      simp [inferEntryDefaults, hgiven]
    rw [hentry, artifact.moduleStripped]
    exact iff_of_true hgiven fun hempty => absurd hempty hgiven

theorem kept_iff {artifact : Artifact} {variant : VariantPayload}
    (hvariant : NodeVariant rules (preparedFields rules artifact) variant) :
    (preparedFields rules artifact).Kept rules ↔ KeptByNode rules artifact := by
  have hpackage := resolvePackageFormat_mem_iff rules artifact.source.filename
    artifact.formatStripped
  have hexports := resolvedExports_kept_iff artifact
    (preparedFields rules artifact).entryCallable
  constructor
  · intro hkept
    have harchive := hvariant.archive hkept.packageFormat
    exact {
      runtime := hkept.runtime
      packageFormat := hpackage.mp hkept.packageFormat
      exports := hexports.mp ⟨hkept.exportMethods, hkept.exportDecorator⟩
      entryModule := (entryModule_kept_iff harchive).mp
        hkept.entryModule }
  · intro hkept
    have hformat := hpackage.mpr hkept.packageFormat
    obtain ⟨hmethods, hdecorator⟩ := hexports.mpr hkept.exports
    exact {
      runtime := hkept.runtime
      packageFormat := hformat
      exportMethods := hmethods
      exportDecorator := hdecorator
      entryModule := (entryModule_kept_iff (hvariant.archive hformat)).mpr
        hkept.entryModule }

/-! ## Deployments -/

structure Deployed (rules : TextRules) (sha : Sha256) where
  artifact : Artifact
  prepared : PreparedArtifact
  node : NodePlace
  request : CreateServiceMeta
  version : String
  prepares : prepareArtifact rules sha artifact = some prepared
  asks : createServiceFromBytes rules sha prepared.toPreparedFields =
    some request
  accepts : putCode rules sha node request prepared.blob = some version

def Deployed.hashedTexts (deployed : Deployed rules sha) : Set ByteArray :=
  {text | text =
      (clientVariant deployed.prepared.toPreparedFields).stableJsonBytes ∨
    ∃ variant, nodePayload rules deployed.node deployed.request = some variant ∧
      text = variant.stableJsonBytes}

structure NoCollision (first second : Deployed rules sha) : Prop where
  blobs : Set.InjOn sha.hexdigest {first.prepared.blob, second.prepared.blob}
  texts : Set.InjOn sha.prefixDigits (first.hashedTexts ∪ second.hashedTexts)

/-- Equal content, entry, export mode, exported methods and dependencies; blanks
around the name of the entry module do not count. -/
structure SameCode (first second : PreparedFields) : Prop where
  blob : first.blob = second.blob
  entryModule : strip first.entryModule = strip second.entryModule
  entryCallable : first.entryCallable = second.entryCallable
  exportMode : first.exports.mode = second.exports.mode
  exportMethods : ∀ name, name ∈ first.exports.methods ↔
    name ∈ second.exports.methods
  dependencyMode : first.dependencyPolicy.mode = second.dependencyPolicy.mode
  requirements : first.dependencyPolicy.requirements =
    second.dependencyPolicy.requirements

/-- The node and the client agree on the versions of two deployments, and no
two codes share one. -/
structure VersionsAgree (first second : Deployed rules sha) : Prop where
  ofFirst : first.version = first.prepared.codeVersion
  ofSecond : second.version = second.prepared.codeVersion
  onClient : first.prepared.codeVersion = second.prepared.codeVersion →
    SameCode first.prepared.toPreparedFields second.prepared.toPreparedFields
  onNode : first.version = second.version →
    SameCode first.prepared.toPreparedFields second.prepared.toPreparedFields

theorem Deployed.sound (deployed : Deployed rules sha) :
    deployed.prepared.toPreparedFields.Sound := by
  rw [(prepareArtifact_eq_some deployed.prepares).1]
  exact preparedFields_sound rules deployed.artifact

theorem Deployed.version_eq (deployed : Deployed rules sha) :
    ∃ variant,
      NodeVariant rules deployed.prepared.toPreparedFields variant ∧
      variant.stableJsonBytes ∈ deployed.hashedTexts ∧
      deployed.version = "sha256:" ++ sha.hexdigest deployed.prepared.blob ++
        "." ++ sha.prefixDigits variant.stableJsonBytes := by
  have hsound := deployed.sound
  have hsha : deployed.request.sha256 =
      "sha256:" ++ sha.hexdigest deployed.prepared.blob := by
    have hasks := deployed.asks
    rw [createServiceFromBytes_eq hsound, Option.some.injEq] at hasks
    rw [← hasks]
  have haccepts := deployed.accepts
  rw [putCode_eq hsha, Option.bind_eq_some_iff] at haccepts
  obtain ⟨variant, hnode, hversion⟩ := haccepts
  have hvariant := nodeVariant_of_nodePayload hsound deployed.asks hnode
  rw [codeVersionFromDigest_eq, hvariant.normalized hsound, Option.map_some,
    Option.some.injEq] at hversion
  exact ⟨variant, hvariant, Or.inr ⟨variant, hnode, rfl⟩, hversion.symm⟩

theorem Deployed.version_eq_iff (deployed : Deployed rules sha)
    (htexts : Set.InjOn sha.prefixDigits deployed.hashedTexts) :
    deployed.version = deployed.prepared.codeVersion ↔
      KeptByNode rules deployed.artifact := by
  obtain ⟨variant, hvariant, hhashed, hversion⟩ := deployed.version_eq
  obtain ⟨hfields, hclient⟩ := prepareArtifact_eq_some deployed.prepares
  have hsound := deployed.sound
  have hkept : deployed.prepared.toPreparedFields.Kept rules ↔
      KeptByNode rules deployed.artifact := by
    rw [hfields] at hvariant ⊢
    exact kept_iff hvariant
  rw [hversion, hclient, ← hkept, ← variant_eq_iff hsound hvariant]
  constructor
  · intro heq
    exact stableJsonBytes_injective
      (htexts hhashed (Or.inl rfl) (version_inj heq).2)
  · intro heq
    rw [heq]

theorem sameDependencies {first second : ArtifactDeps}
    (hmode : first.mode.text = second.mode.text)
    (hallowlist : first.dependencyAllowlist = second.dependencyAllowlist) :
    first.mode = second.mode ∧ first.requirements = second.requirements := by
  have hsame := dependencyMode_text_injective hmode
  refine ⟨hsame, ?_⟩
  rw [ArtifactDeps.dependencyAllowlist, ArtifactDeps.dependencyAllowlist,
    ← hsame] at hallowlist
  by_cases hinstall : first.mode = .allowInstall
  · rwa [if_neg (not_not.mpr hinstall), if_neg (not_not.mpr hinstall)]
      at hallowlist
  · rw [first.installs hinstall, second.installs (hsame ▸ hinstall)]

theorem sameCode_of_codeVersion_eq {first second : Deployed rules sha}
    (hcollision : NoCollision first second)
    (heq : first.prepared.codeVersion = second.prepared.codeVersion) :
    SameCode first.prepared.toPreparedFields
      second.prepared.toPreparedFields := by
  rw [(prepareArtifact_eq_some first.prepares).2,
    (prepareArtifact_eq_some second.prepares).2] at heq
  obtain ⟨hdigest, hprefix⟩ := version_inj heq
  have hblob := hcollision.blobs (Set.mem_insert _ _)
    (Set.mem_insert_of_mem _ rfl) hdigest
  have hvariant := stableJsonBytes_injective (hcollision.texts
    (Or.inl (Or.inl rfl)) (Or.inr (Or.inl rfl)) hprefix)
  have hdependencies := sameDependencies
    (congrArg VariantPayload.dependencyPolicyMode hvariant)
    (congrArg VariantPayload.dependencyAllowlist hvariant)
  have hmethods : first.prepared.exports.methods =
      second.prepared.exports.methods :=
    congrArg VariantPayload.exportMethods hvariant
  have hmodule := congrArg VariantPayload.entryModule hvariant
  simp only [clientVariant] at hmodule
  exact {
    blob := hblob
    entryModule := hmodule
    entryCallable := congrArg VariantPayload.entryCallable hvariant
    exportMode := exportMode_text_injective
      (congrArg VariantPayload.exportMode hvariant)
    exportMethods := fun name => by rw [hmethods]
    dependencyMode := hdependencies.1
    requirements := hdependencies.2 }

theorem versions_agree_iff_kept (first second : Deployed rules sha)
    (hcollision : NoCollision first second) :
    VersionsAgree first second ↔
      KeptByNode rules first.artifact ∧ KeptByNode rules second.artifact := by
  have hfirst := first.version_eq_iff
    (hcollision.texts.mono Set.subset_union_left)
  have hsecond := second.version_eq_iff
    (hcollision.texts.mono Set.subset_union_right)
  have hclient := sameCode_of_codeVersion_eq hcollision
  constructor
  · intro hagree
    exact ⟨hfirst.mp hagree.ofFirst, hsecond.mp hagree.ofSecond⟩
  · intro hkept
    have hleft := hfirst.mpr hkept.1
    have hright := hsecond.mpr hkept.2
    have hnode : first.version = second.version →
        SameCode first.prepared.toPreparedFields
          second.prepared.toPreparedFields := by
      intro heq
      rw [hleft, hright] at heq
      exact hclient heq
    exact ⟨hleft, hright, hclient, hnode⟩

/-! ## Samples -/

theorem toLower_of_not_upper {char : Char} (hupper : char.isUpper = false) :
    char.toLower = char := by
  rw [Char.isUpper, decide_eq_false_iff_not] at hupper
  rw [Char.toLower, dif_neg hupper]

theorem isBlank_toLower (char : Char) : isBlank char.toLower = isBlank char := by
  have hascii : ∀ code < 128, isBlank (Char.ofNat code).toLower =
      isBlank (.ofNat code) := by decide
  by_cases hupper : char.isUpper = true
  · have hcode : char.toNat < 128 := by
      rw [Char.isUpper, decide_eq_true_eq] at hupper
      have hlast := UInt32.le_iff_toNat_le.mp hupper.2
      exact Nat.lt_of_le_of_lt hlast (by decide)
    have hletter := hascii _ hcode
    rwa [Char.ofNat_toNat] at hletter
  · rw [Bool.not_eq_true] at hupper
    rw [toLower_of_not_upper hupper]

def sampleRules : TextRules where
  lower text := .ofList (text.toList.map Char.toLower)
  digitValue char := if char.isDigit then some (char.toNat - 48) else none
  lower_plain text hplain := by
    have hmap : text.toList.map Char.toLower = text.toList := by
      conv_rhs => rw [← List.map_id text.toList]
      exact List.map_congr_left fun char hchar =>
        toLower_of_not_upper (hplain char hchar).2
    rw [hmap, String.ofList_toList]
  lower_strip text hstrip := by
    have htrim := congrArg String.toList hstrip
    rw [strip, String.toList_ofList] at htrim
    rw [strip, String.toList_ofList, trim_map isBlank_toLower, htrim]

def sampleSha : Sha256 where
  hexdigest bytes :=
    .ofList (List.replicate 64 (JsonText.hexDigit (bytes.size % 16)))
  length bytes := by simp
  digits bytes char hchar := by
    have hdigits : ∀ value < 16,
        JsonText.hexDigit value ∈ "0123456789abcdef".toList := by decide
    rw [String.toList_ofList] at hchar
    rw [List.eq_of_mem_replicate hchar]
    exact hdigits _ (Nat.mod_lt _ (by decide))

def sampleNode : NodePlace where
  pythonVersion := "3.11"
  uploadStem := "/artifacts/pycloud-upload-1"

def sampleArtifact (runtime : String) : Artifact :=
  .create ⟨"def run(): return 1".toUTF8, "", "", ""⟩ runtime "main" "run" "py"
    none none

def Deployed.ofVariant (artifact : Artifact) (node : NodePlace)
    (request : CreateServiceMeta) (variant : VariantPayload)
    (hasks : createServiceFromBytes rules sha (preparedFields rules artifact) =
      some request)
    (hnode : nodePayload rules node request = some variant) :
    Deployed rules sha where
  artifact := artifact
  prepared := {
    preparedFields rules artifact with
    codeVersion := "sha256:" ++ sha.hexdigest artifact.source.blob ++ "." ++
      sha.prefixDigits
        (clientVariant (preparedFields rules artifact)).stableJsonBytes }
  node := node
  request := request
  version := "sha256:" ++ sha.hexdigest artifact.source.blob ++ "." ++
    sha.prefixDigits variant.stableJsonBytes
  prepares := by
    rw [prepareArtifact, codeVersionFromDigest_eq,
      payload_normalized (preparedFields_sound _ artifact), Option.map_some,
      Option.map_some]
    rfl
  asks := hasks
  accepts := by
    have hsound := preparedFields_sound rules artifact
    have hsha : request.sha256 =
        "sha256:" ++ sha.hexdigest artifact.source.blob := by
      rw [createServiceFromBytes_eq hsound, Option.some.injEq] at hasks
      rw [← hasks]
      rfl
    have hvariant := nodeVariant_of_nodePayload hsound hasks hnode
    show putCode rules sha node request artifact.source.blob = _
    rw [putCode_eq hsha, hnode, Option.bind_some, codeVersionFromDigest_eq,
      hvariant.normalized hsound, Option.map_some]

def sampleRequest (runtime : String)
    (hasks : (createServiceFromBytes sampleRules sampleSha
      (preparedFields sampleRules (sampleArtifact runtime))).isSome = true) :
    CreateServiceMeta :=
  (createServiceFromBytes sampleRules sampleSha
    (preparedFields sampleRules (sampleArtifact runtime))).get hasks

theorem sample_asks (runtime : String) :
    (createServiceFromBytes sampleRules sampleSha
      (preparedFields sampleRules (sampleArtifact runtime))).isSome = true := by
  rw [createServiceFromBytes_eq (preparedFields_sound _ _)]
  rfl

def sampleDeployed (runtime : String)
    (haccepts : (nodePayload sampleRules sampleNode
      (sampleRequest runtime (sample_asks runtime))).isSome = true) :
    Deployed sampleRules sampleSha :=
  .ofVariant (sampleArtifact runtime) sampleNode
    (sampleRequest runtime (sample_asks runtime))
    ((nodePayload sampleRules sampleNode
      (sampleRequest runtime (sample_asks runtime))).get haccepts)
    (Option.some_get _).symm (Option.some_get _).symm

def sampleVariant (runtime : String) : VariantPayload where
  runtime := runtime
  entryModule := "main"
  entryCallable := "run"
  packageFormat := "py"
  exportMode := "all"
  exportMethods := []
  exportDecorator := "pycloud_export"
  dependencyPolicyMode := "prebuilt"
  dependencyAllowlist := []

/-- The sample under a runtime as the node hashes it, with the spelling that it
gives to the runtime. -/
structure SampleHashed (runtime spelling : String) : Prop where
  node : nodePayload sampleRules sampleNode
    (sampleRequest runtime (sample_asks runtime)) = some (sampleVariant spelling)
  client : clientVariant (preparedFields sampleRules (sampleArtifact runtime)) =
    sampleVariant runtime

theorem SampleHashed.accepted {runtime spelling : String}
    (hashed : SampleHashed runtime spelling) :
    (nodePayload sampleRules sampleNode
      (sampleRequest runtime (sample_asks runtime))).isSome = true := by
  rw [hashed.node]
  rfl

theorem SampleHashed.runtime {runtime spelling : String}
    (hashed : SampleHashed runtime spelling) :
    normalizePythonRuntimeSpec sampleRules (sampleArtifact runtime).runtime =
      some spelling :=
  (nodeVariant_of_nodePayload (preparedFields_sound _ _)
    (Option.some_get (sample_asks runtime)).symm hashed.node).runtime

theorem samples_hashed : SampleHashed "py3" "py3" ∧
    SampleHashed "py3.11" "py3.11" ∧ SampleHashed "3" "py3" := by
  have hnode : nodePayload sampleRules sampleNode
        (sampleRequest "py3" (sample_asks "py3")) = some (sampleVariant "py3") ∧
      nodePayload sampleRules sampleNode
        (sampleRequest "py3.11" (sample_asks "py3.11")) =
          some (sampleVariant "py3.11") ∧
      nodePayload sampleRules sampleNode
        (sampleRequest "3" (sample_asks "3")) = some (sampleVariant "py3") := by
    decide +kernel
  have hclient : ∀ runtime ∈ ["py3", "py3.11", "3"],
      clientVariant (preparedFields sampleRules (sampleArtifact runtime)) =
        sampleVariant runtime := by
    decide +kernel
  exact ⟨⟨hnode.1, hclient _ (by simp)⟩, ⟨hnode.2.1, hclient _ (by simp)⟩,
    ⟨hnode.2.2, hclient _ (by simp)⟩⟩

theorem sample_py3_accepted : (nodePayload sampleRules sampleNode
    (sampleRequest "py3" (sample_asks "py3"))).isSome = true :=
  samples_hashed.1.accepted

theorem sample_py311_accepted : (nodePayload sampleRules sampleNode
    (sampleRequest "py3.11" (sample_asks "py3.11"))).isSome = true :=
  samples_hashed.2.1.accepted

theorem sample_three_accepted : (nodePayload sampleRules sampleNode
    (sampleRequest "3" (sample_asks "3"))).isSome = true :=
  samples_hashed.2.2.accepted

theorem hashedTexts_subset {deployed : Deployed rules sha}
    {variant : VariantPayload}
    (hnode : nodePayload rules deployed.node deployed.request = some variant) :
    deployed.hashedTexts ⊆
      {(clientVariant deployed.prepared.toPreparedFields).stableJsonBytes,
        variant.stableJsonBytes} := by
  rintro text (hclient | ⟨found, hfound, htext⟩)
  · exact Or.inl hclient
  · rw [hnode, Option.some.injEq] at hfound
    exact Or.inr (hfound ▸ htext)

theorem noCollision_self {deployed : Deployed rules sha}
    {variant : VariantPayload}
    (hnode : nodePayload rules deployed.node deployed.request = some variant)
    (hapart : sha.prefixDigits
        (clientVariant deployed.prepared.toPreparedFields).stableJsonBytes ≠
      sha.prefixDigits variant.stableJsonBytes) :
    NoCollision deployed deployed where
  blobs := by
    rw [Set.pair_eq_singleton]
    exact Set.injOn_singleton _ _
  texts := by
    rw [Set.union_self]
    exact (Set.injOn_pair.mpr fun heq => absurd heq hapart).mono
      (hashedTexts_subset hnode)

theorem noCollision_of_kept {first second : Deployed rules sha}
    (hfirst : nodePayload rules first.node first.request =
      some (clientVariant first.prepared.toPreparedFields))
    (hsecond : nodePayload rules second.node second.request =
      some (clientVariant second.prepared.toPreparedFields))
    (hblob : first.prepared.blob = second.prepared.blob)
    (hapart : sha.prefixDigits
        (clientVariant first.prepared.toPreparedFields).stableJsonBytes ≠
      sha.prefixDigits
        (clientVariant second.prepared.toPreparedFields).stableJsonBytes) :
    NoCollision first second where
  blobs := by
    rw [hblob, Set.pair_eq_singleton]
    exact Set.injOn_singleton _ _
  texts := by
    have htexts := Set.union_subset_union (hashedTexts_subset hfirst)
      (hashedTexts_subset hsecond)
    rw [Set.pair_eq_singleton, Set.pair_eq_singleton] at htexts
    exact (Set.injOn_pair.mpr fun heq => absurd heq hapart).mono htexts

theorem sampleVariant_size (runtime : String) :
    (sampleVariant runtime).stableJsonBytes.size =
      String.utf8Len (JsonText.object (sampleVariant runtime).fields) :=
  String.utf8ByteSize_ofList _

theorem sampleVariant_sizes_apart :
    (sampleVariant "3").stableJsonBytes.size % 16 ≠
        (sampleVariant "py3").stableJsonBytes.size % 16 ∧
      (sampleVariant "py3").stableJsonBytes.size % 16 ≠
        (sampleVariant "py3.11").stableJsonBytes.size % 16 := by
  simp only [sampleVariant_size]
  decide +kernel

theorem sampleSha_apart {first second : ByteArray}
    (hsize : first.size % 16 ≠ second.size % 16) :
    sampleSha.prefixDigits first ≠ sampleSha.prefixDigits second := by
  intro heq
  have hdigits := congrArg (fun text : String => text.toList.head?) heq
  simp only [Sha256.prefixDigits, sampleSha, String.toList_ofList,
    List.take_replicate, List.head?_replicate] at hdigits
  have hdigit : JsonText.hexDigit (first.size % 16) =
      JsonText.hexDigit (second.size % 16) := by simpa using hdigits
  have hvalue := congrArg JsonText.hexValue hdigit
  rw [JsonText.hexValue_hexDigit (Nat.mod_lt _ (by decide)),
    JsonText.hexValue_hexDigit (Nat.mod_lt _ (by decide))] at hvalue
  exact hsize hvalue

theorem sampleDeployed_three_collision :
    NoCollision (sampleDeployed "3" sample_three_accepted)
      (sampleDeployed "3" sample_three_accepted) := by
  have hclient : clientVariant
      (sampleDeployed "3" sample_three_accepted).prepared.toPreparedFields =
        sampleVariant "3" := samples_hashed.2.2.client
  have hnode : nodePayload sampleRules
      (sampleDeployed "3" sample_three_accepted).node
      (sampleDeployed "3" sample_three_accepted).request =
        some (sampleVariant "py3") := samples_hashed.2.2.node
  apply noCollision_self hnode
  rw [hclient]
  exact sampleSha_apart sampleVariant_sizes_apart.1

theorem runtime_three_not_recognised :
    ¬∀ (rules : TextRules) (sha : Sha256) (first second : Deployed rules sha),
      NoCollision first second → VersionsAgree first second := by
  intro hagree
  have hcollision := sampleDeployed_three_collision
  have hthree := hagree sampleRules sampleSha _ _ hcollision
  have hkept := (Deployed.version_eq_iff _
    (hcollision.texts.mono Set.subset_union_left)).mp hthree.ofFirst
  have heq := hkept.runtime.symm.trans samples_hashed.2.2.runtime
  exact absurd (Option.some.inj heq) (by decide)

theorem sample_kept {runtime : String}
    (hruntime : normalizePythonRuntimeSpec sampleRules
      (sampleArtifact runtime).runtime = some (sampleArtifact runtime).runtime) :
    KeptByNode sampleRules (sampleArtifact runtime) where
  runtime := hruntime
  packageFormat := by
    show sampleRules.lower (strip "py") ∈ "" :: keptFormats
    rw [lower_strip_plain (strip_of_spaceFree (by decide)) (by decide)]
    decide
  exports exports hexports := by
    rw [sampleArtifact, Artifact.create] at hexports
    cases hexports
  entryModule hempty := by
    have hmodule : strip "main" = "main" := strip_of_spaceFree (by decide)
    have hmain : strip "main" = "" := hempty
    rw [hmodule] at hmain
    exact absurd hmain (by decide)

theorem sampleDeployed_collision :
    NoCollision (sampleDeployed "py3" sample_py3_accepted)
      (sampleDeployed "py3.11" sample_py311_accepted) := by
  have hfirst : clientVariant
      (sampleDeployed "py3" sample_py3_accepted).prepared.toPreparedFields =
        sampleVariant "py3" := samples_hashed.1.client
  have hsecond : clientVariant
      (sampleDeployed "py3.11" sample_py311_accepted).prepared.toPreparedFields =
        sampleVariant "py3.11" := samples_hashed.2.1.client
  apply noCollision_of_kept
  · rw [hfirst]
    exact samples_hashed.1.node
  · rw [hsecond]
    exact samples_hashed.2.1.node
  · rfl
  · rw [hfirst, hsecond]
    exact sampleSha_apart sampleVariant_sizes_apart.2

theorem sample_versions_agree :
    VersionsAgree (sampleDeployed "py3" sample_py3_accepted)
      (sampleDeployed "py3.11" sample_py311_accepted) :=
  (versions_agree_iff_kept _ _ sampleDeployed_collision).mpr
    ⟨sample_kept samples_hashed.1.runtime, sample_kept samples_hashed.2.1.runtime⟩

end PycloudParallel.CodeVersion
