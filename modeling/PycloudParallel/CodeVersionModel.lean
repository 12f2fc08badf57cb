import PycloudParallel.FoundationJsonText
import PycloudParallel.FoundationTexts

/-!
# Code versions on the client and on the node

Both sides hash the same nine fields of an artifact.  The client takes them from
the artifact it prepares, the node from a request to create a service, and each
side brings them into shape with helpers of its own.
-/

namespace PycloudParallel.CodeVersion

open Texts

def PlainText (text : String) : Prop :=
  ∀ char ∈ text.toList, char.toNat < 128 ∧ char.isUpper = false

instance (text : String) : Decidable (PlainText text) :=
  decidable_of_iff (text.toList.all fun char =>
      decide (char.toNat < 128) && !char.isUpper) (by
    simp [PlainText])

/-- `str.lower`, and the value of a decimal digit of any script. -/
structure TextRules where
  lower : String → String
  digitValue : Char → Option ℕ
  lower_plain : ∀ text, PlainText text → lower text = text
  lower_strip : ∀ text, strip text = text → strip (lower text) = lower text

structure Sha256 where
  hexdigest : ByteArray → String
  length : ∀ bytes, (hexdigest bytes).length = 64
  digits : ∀ bytes, ∀ char ∈ (hexdigest bytes).toList,
    char ∈ "0123456789abcdef".toList

variable (rules : TextRules) (sha : Sha256)

def endsWith (text ending : String) : Bool :=
  ending.toList.isSuffixOf text.toList

def strippedOr (text fallback : String) : String :=
  if strip text = "" then fallback else strip text

/-! ## Runtimes -/

inductive Comparator
  | exact
  | atLeast
  | atMost
  | above
  | below
deriving DecidableEq

def Comparator.text : Comparator → String
  | exact => ""
  | atLeast => ">="
  | atMost => "<="
  | above => ">"
  | below => "<"

structure PythonRuntimeSpec where
  op : Comparator
  major : ℕ
  minor : Option ℕ
deriving DecidableEq

namespace PythonRuntimeSpec

def normalized (spec : PythonRuntimeSpec) : String :=
  let version := match spec.minor with
    | none => "py" ++ toString spec.major
    | some minor => "py" ++ toString spec.major ++ "." ++ toString minor
  spec.op.text ++ version

def comparable (spec : PythonRuntimeSpec) : ℕ × ℕ :=
  (spec.major, spec.minor.getD 0)

end PythonRuntimeSpec

def splitComparator : List Char → Comparator × List Char
  | '>' :: '=' :: rest => (.atLeast, rest)
  | '<' :: '=' :: rest => (.atMost, rest)
  | '>' :: rest => (.above, rest)
  | '<' :: rest => (.below, rest)
  | rest => (.exact, rest)

def dropPy : List Char → List Char
  | first :: second :: rest =>
    if (first = 'p' ∨ first = 'P') ∧ (second = 'y' ∨ second = 'Y') then rest
    else first :: second :: rest
  | rest => rest

def isDigit (char : Char) : Bool :=
  (rules.digitValue char).isSome

def digitsValue (digits : List Char) : ℕ :=
  digits.foldl
    (fun value digit => value * 10 + (rules.digitValue digit).getD 0) 0

def runtimeMatch (text : List Char) : Option PythonRuntimeSpec :=
  let (op, constrained) := splitComparator text
  let version := dropPy (constrained.dropWhile isBlank)
  let major := version.takeWhile (isDigit rules)
  if major = [] then none
  else
    match version.dropWhile (isDigit rules) with
    | [] => some ⟨op, digitsValue rules major, none⟩
    | '.' :: minor =>
      if minor ≠ [] ∧ minor.all (isDigit rules) = true then
        some ⟨op, digitsValue rules major, some (digitsValue rules minor)⟩
      else none
    | _ => none

/-- The constraint of a text; blank texts have none, and other texts that do not
match are refused. -/
def parsePythonRuntimeSpec (text : String) :
    Option (Option PythonRuntimeSpec) :=
  if strip text = "" then some none
  else (runtimeMatch rules (strip text).toList).map some

def normalizePythonRuntimeSpec (text : String) : Option String :=
  (parsePythonRuntimeSpec rules text).map fun spec =>
    match spec with
    | none => ""
    | some constraint => constraint.normalized

def runtimeFits (node constraint : PythonRuntimeSpec) : Bool :=
  let reached := node.comparable
  let wanted := constraint.comparable
  match constraint.op with
  | .exact =>
    match constraint.minor with
    | none => node.major == constraint.major
    | some minor => node.major == constraint.major && node.minor == some minor
  | .atLeast => decide (wanted.1 < reached.1 ∨
      wanted.1 = reached.1 ∧ wanted.2 ≤ reached.2)
  | .atMost => decide (reached.1 < wanted.1 ∨
      wanted.1 = reached.1 ∧ reached.2 ≤ wanted.2)
  | .above => decide (wanted.1 < reached.1 ∨
      wanted.1 = reached.1 ∧ wanted.2 < reached.2)
  | .below => decide (reached.1 < wanted.1 ∨
      wanted.1 = reached.1 ∧ reached.2 < wanted.2)

def matchesPythonRuntime (nodePythonVersion runtimeSpec : String) :
    Option Bool :=
  (parsePythonRuntimeSpec rules runtimeSpec).bind fun
    | none => some true
    | some constraint =>
      (parsePythonRuntimeSpec rules nodePythonVersion).bind fun
        | none => some false
        | some node =>
          if node.op ≠ .exact then none else some (runtimeFits node constraint)

def validatePythonRuntimeOrRaise (nodePythonVersion runtime : String) :
    Option String :=
  (normalizePythonRuntimeSpec rules runtime).bind fun normalized =>
    if normalized = "" then some ""
    else if matchesPythonRuntime rules nodePythonVersion normalized = some true
    then some normalized
    else none

inductive PackageFormat
  | py
  | tarGz
  | zip
  | whl
  | bin
deriving DecidableEq

namespace PackageFormat

def text : PackageFormat → String
  | py => "py"
  | tarGz => "tar.gz"
  | zip => "zip"
  | whl => "whl"
  | bin => "bin"

def suffix : PackageFormat → String
  | py => ".py"
  | tarGz => ".tar.gz"
  | zip => ".zip"
  | whl => ".whl"
  | bin => ".bin"

end PackageFormat

def formatOfName (lowerName : String) : PackageFormat :=
  if endsWith lowerName ".tar.gz" ∨ endsWith lowerName ".tgz" then .tarGz
  else if endsWith lowerName ".zip" then .zip
  else if endsWith lowerName ".whl" then .whl
  else if endsWith lowerName ".py" then .py
  else .bin

def packageFormatFromFilename (filename : String) : PackageFormat :=
  formatOfName (rules.lower filename)

/-- `_resolve_package_format`; the format that is asked for stays a text. -/
def resolvePackageFormat (packageFormat filename fallback : String) : String :=
  let explicit := rules.lower (strip packageFormat)
  if explicit ≠ "" then explicit
  else
    let inferred := packageFormatFromFilename rules filename
    if inferred ≠ .bin then inferred.text
    else
      let last := rules.lower (strip fallback)
      if last = "" then "bin" else last

def normalizePackageFormat (packageFormat artifactPath : String) :
    PackageFormat :=
  let raw : String := .ofList ((rules.lower (strip packageFormat)).toList.filter
    fun char => char ≠ '_' ∧ char ≠ '.')
  if raw = "py" ∨ raw = "python" then .py
  else if raw = "targz" ∨ raw = "tgz" ∨ raw = "tar" then .tarGz
  else if raw = "zip" then .zip
  else if raw = "whl" then .whl
  else formatOfName (rules.lower (strip artifactPath))

/-! ## Dependencies and exports -/

inductive DependencyMode
  | prebuilt
  | nodePreinstalled
  | allowInstall
deriving DecidableEq

namespace DependencyMode

def text : DependencyMode → String
  | prebuilt => "prebuilt"
  | nodePreinstalled => "node_preinstalled"
  | allowInstall => "allow_install"

def ofText (text : String) : Option DependencyMode :=
  if text = "prebuilt" then some prebuilt
  else if text = "node_preinstalled" then some nodePreinstalled
  else if text = "allow_install" then some allowInstall
  else none

end DependencyMode

/-- `_normalize_dependency_policy_mode`; fails for an allowlist beside a mode
that installs nothing. -/
def normalizeDependencyPolicyMode (mode : String) (allowlist : List String) :
    Option DependencyMode :=
  let names := namesFrom [] allowlist
  match DependencyMode.ofText (rules.lower (strip mode)) with
  | none => some (if names = [] then .prebuilt else .allowInstall)
  | some known => if known ≠ .allowInstall ∧ names ≠ [] then none else some known

structure ArtifactDeps where
  mode : DependencyMode
  requirements : List String
  normal : NamesNormal requirements
  installs : mode ≠ .allowInstall → requirements = []

namespace ArtifactDeps

def prebuilt : ArtifactDeps where
  mode := .prebuilt
  requirements := []
  normal := ⟨List.nodup_nil, fun _ hname => nomatch hname⟩
  installs _ := rfl

def dependencyAllowlist (deps : ArtifactDeps) : List String :=
  if deps.mode ≠ .allowInstall then [] else deps.requirements

end ArtifactDeps

theorem requirements_nil {mode : String} {requirements : List String}
    {resolved : DependencyMode}
    (hmode : normalizeDependencyPolicyMode rules mode
      (namesFrom [] requirements) = some resolved)
    (hinstall : resolved ≠ .allowInstall) : namesFrom [] requirements = [] := by
  have hnormal := namesNormal_namesFrom [] requirements
  rw [normalizeDependencyPolicyMode,
    namesFrom_eq_self hnormal fun _ _ => List.not_mem_nil] at hmode
  split at hmode
  · split at hmode
    case isTrue hnil => exact hnil
    case isFalse =>
      cases hmode
      exact absurd rfl hinstall
  · split at hmode
    case isTrue => cases hmode
    case isFalse hallowed =>
      cases hmode
      by_contra hnames
      exact hallowed ⟨hinstall, hnames⟩

def ArtifactDeps.create (mode : String) (requirements : List String) :
    Option ArtifactDeps :=
  match hmode : normalizeDependencyPolicyMode rules mode
      (namesFrom [] requirements) with
  | none => none
  | some resolved => some {
      mode := resolved
      requirements := namesFrom [] requirements
      normal := namesNormal_namesFrom [] requirements
      installs := requirements_nil rules hmode }

inductive ExportMode
  | decorator
  | explicit
  | all
  | single
deriving DecidableEq

namespace ExportMode

def text : ExportMode → String
  | decorator => "decorator"
  | explicit => "explicit"
  | all => "all"
  | single => "single"

def ofText (text : String) : Option ExportMode :=
  if text = "decorator" then some decorator
  else if text = "explicit" then some explicit
  else if text = "all" then some all
  else if text = "single" then some single
  else none

end ExportMode

def defaultExportDecorator : String := "pycloud_export"

variable {fallback text : String}

theorem strip_strippedOr (hfallback : strip fallback = fallback) :
    strip (strippedOr text fallback) = strippedOr text fallback := by
  rw [strippedOr]
  split
  · exact hfallback
  · exact strip_strip text

theorem strippedOr_ne_empty (hfallback : fallback ≠ "") :
    strippedOr text fallback ≠ "" := by
  rw [strippedOr]
  split
  case isTrue => exact hfallback
  case isFalse htext => exact htext

structure Stripped (text : String) : Prop where
  strip : strip text = text
  nonblank : text ≠ ""

theorem stripped_strippedOr (hfallback : Stripped fallback) :
    Stripped (strippedOr text fallback) :=
  ⟨strip_strippedOr hfallback.strip, strippedOr_ne_empty hfallback.nonblank⟩

theorem stripped_default : Stripped defaultExportDecorator :=
  ⟨strip_of_spaceFree (by decide), by decide⟩

theorem stripped_run : Stripped "run" :=
  ⟨strip_of_spaceFree (by decide), by decide⟩

theorem stripped_py3 : Stripped "py3" :=
  ⟨strip_of_spaceFree (by decide), by decide⟩

structure ArtifactExports where
  mode : ExportMode
  methods : List String
  decorator : String
  normal : NamesNormal methods
  stripped : Stripped decorator

namespace ArtifactExports

def create (mode : String) (methods : List String) (decorator : String) :
    Option ArtifactExports :=
  (ExportMode.ofText (rules.lower (strip mode))).map fun known => {
    mode := known
    methods := namesFrom [] methods
    decorator := strippedOr decorator defaultExportDecorator
    normal := namesNormal_namesFrom [] methods
    stripped := stripped_strippedOr stripped_default }

def exportAll : ArtifactExports where
  mode := .all
  methods := []
  decorator := defaultExportDecorator
  normal := ⟨List.nodup_nil, fun _ hname => nomatch hname⟩
  stripped := stripped_default

def normalized (exports : ArtifactExports) (entryCallable : String) :
    ArtifactExports :=
  if exports.mode = .single then
    { exports with
      methods := namesFrom [] [strippedOr entryCallable "run"]
      normal := namesNormal_namesFrom [] _ }
  else exports

end ArtifactExports

/-- What reading the source of an artifact gives: the packed bytes, the name of
the file, nothing for bytes, and the names of the module and of the function
that the source has. -/
structure ArtifactSource where
  blob : ByteArray
  filename : String
  moduleName : String
  functionName : String

structure Artifact where
  source : ArtifactSource
  runtime : String
  entryModule : String
  entryCallable : String
  packageFormat : String
  exports : Option ArtifactExports
  deps : Option ArtifactDeps
  runtimeStripped : Stripped runtime
  moduleStripped : strip entryModule = entryModule
  callableStripped : Stripped entryCallable
  formatStripped : strip packageFormat = packageFormat

def Artifact.create (source : ArtifactSource)
    (runtime entryModule entryCallable packageFormat : String)
    (exports : Option ArtifactExports) (deps : Option ArtifactDeps) :
    Artifact where
  source := source
  runtime := strippedOr runtime "py3"
  entryModule := strip entryModule
  entryCallable := strippedOr entryCallable "run"
  packageFormat := strip packageFormat
  exports := exports
  deps := deps
  runtimeStripped := stripped_strippedOr stripped_py3
  moduleStripped := strip_strip entryModule
  callableStripped := stripped_strippedOr stripped_run
  formatStripped := strip_strip packageFormat

/-- `Path(name).stem` of a file name without a folder. -/
def fileStem (name : List Char) : List Char :=
  let ending := name.reverse.takeWhile (· ≠ '.')
  let stem := name.take (name.length - ending.length - 1)
  if '.' ∈ name ∧ stem ≠ [] ∧ ending ≠ [] then stem else name

def plainFileChar (char : Char) : Bool :=
  char.isAlphanum || char = '.' || char = '_' || char = '-'

def plainFileName (replaced : Bool) : List Char → List Char
  | [] => []
  | char :: rest =>
    if plainFileChar char then char :: plainFileName false rest
    else if replaced then plainFileName true rest
    else '_' :: plainFileName true rest

def artifactStem (fallbackStem : String) : List Char :=
  let stem := strippedOr fallbackStem "artifact"
  let plain := trim (fun char => char = '.' ∨ char = '_')
    (plainFileName false stem.toList)
  if plain = [] then "artifact".toList else plain

/-- `_default_artifact_filename` without an entry module. -/
def defaultArtifactFilename (packageFormat fallbackStem : String) :
    List Char :=
  let resolved := resolvePackageFormat rules packageFormat "" "py"
  let suffix :=
    if resolved = "tar.gz" then ".tar.gz"
    else if resolved = "zip" then ".zip"
    else if resolved = "whl" then ".whl"
    else if resolved = "py" then ".py"
    else ".bin"
  artifactStem fallbackStem ++ suffix.toList

def defaultEntryModuleForPackage (packageFormat entryModule
    fallbackStem : String) : String :=
  if strip entryModule ≠ "" then strip entryModule
  else if resolvePackageFormat rules packageFormat "" "py" ≠ "py" then ""
  else .ofList (fileStem (defaultArtifactFilename rules packageFormat
    fallbackStem))

def inferEntryDefaults (artifact : Artifact) (packageFormat : String) :
    String × String :=
  let entryModule :=
    if artifact.entryModule ≠ "" then artifact.entryModule
    else artifact.source.moduleName
  let entryCallable :=
    if artifact.entryCallable = "run" then
      strippedOr artifact.source.functionName "run"
    else artifact.entryCallable
  if entryModule = "" ∧ packageFormat = "py" then
    let filename := artifact.source.filename
    let fallbackStem : String :=
      if filename ≠ "" then .ofList (fileStem filename.toList) else "artifact"
    (defaultEntryModuleForPackage rules packageFormat "" fallbackStem,
      entryCallable)
  else (entryModule, entryCallable)

/-! ## The code version -/

@[ext]
structure VariantPayload where
  runtime : String
  entryModule : String
  entryCallable : String
  packageFormat : String
  exportMode : String
  exportMethods : List String
  exportDecorator : String
  dependencyPolicyMode : String
  dependencyAllowlist : List String
deriving DecidableEq

namespace VariantPayload

def fields (payload : VariantPayload) : List (List Char × JsonText.Field) :=
  [("dependency_allowlist".toList,
      .names (payload.dependencyAllowlist.map String.toList)),
    ("dependency_policy_mode".toList,
      .text payload.dependencyPolicyMode.toList),
    ("entry_callable".toList, .text payload.entryCallable.toList),
    ("entry_module".toList, .text payload.entryModule.toList),
    ("export_decorator".toList, .text payload.exportDecorator.toList),
    ("export_methods".toList,
      .names (payload.exportMethods.map String.toList)),
    ("export_mode".toList, .text payload.exportMode.toList),
    ("package_format".toList, .text payload.packageFormat.toList),
    ("runtime".toList, .text payload.runtime.toList)]

def stableJsonBytes (payload : VariantPayload) : ByteArray :=
  (String.ofList (JsonText.object payload.fields)).toUTF8

/-- The fields as `_code_version_from_digest` hashes them. -/
def normalized (payload : VariantPayload) : Option VariantPayload :=
  (normalizeDependencyPolicyMode rules payload.dependencyPolicyMode
    payload.dependencyAllowlist).map fun mode => {
      runtime := strip payload.runtime
      entryModule := strip payload.entryModule
      entryCallable := strip payload.entryCallable
      packageFormat := strip payload.packageFormat
      exportMode := strip payload.exportMode
      exportMethods := payload.exportMethods
      exportDecorator := strip payload.exportDecorator
      dependencyPolicyMode := mode.text
      dependencyAllowlist := payload.dependencyAllowlist }

end VariantPayload

def Sha256.prefixDigits (bytes : ByteArray) : String :=
  .ofList ((sha.hexdigest bytes).toList.take 16)

def codeVersionFromDigest (digest : String) (payload : VariantPayload) :
    Option String :=
  let normalizedDigest := rules.lower (strip digest)
  if normalizedDigest = "" then none
  else
    (payload.normalized rules).map fun variant =>
      "sha256:" ++ normalizedDigest ++ "." ++
        sha.prefixDigits variant.stableJsonBytes

/-- A `PreparedArtifact` before its code version is known. -/
structure PreparedFields where
  blob : ByteArray
  packageFormat : String
  runtime : String
  entryModule : String
  entryCallable : String
  exports : ArtifactExports
  dependencyPolicy : ArtifactDeps

namespace PreparedFields

def payload (prepared : PreparedFields) : VariantPayload where
  runtime := prepared.runtime
  entryModule := prepared.entryModule
  entryCallable := prepared.entryCallable
  packageFormat := prepared.packageFormat
  exportMode := prepared.exports.mode.text
  exportMethods := prepared.exports.methods
  exportDecorator := prepared.exports.decorator
  dependencyPolicyMode := prepared.dependencyPolicy.mode.text
  dependencyAllowlist := prepared.dependencyPolicy.dependencyAllowlist

end PreparedFields

structure PreparedArtifact extends PreparedFields where
  codeVersion : String

def resolvedExports (artifact : Artifact) (entryCallable : String) :
    ArtifactExports :=
  match artifact.exports with
  | some exports => exports.normalized entryCallable
  | none => .exportAll

def preparedFields (artifact : Artifact) : PreparedFields :=
  let packageFormat := resolvePackageFormat rules artifact.packageFormat
    artifact.source.filename "py"
  let entry := inferEntryDefaults rules artifact packageFormat
  { blob := artifact.source.blob
    packageFormat := packageFormat
    runtime := artifact.runtime
    entryModule := entry.1
    entryCallable := entry.2
    exports := resolvedExports artifact entry.2
    dependencyPolicy := artifact.deps.getD .prebuilt }

def prepareArtifact (artifact : Artifact) : Option PreparedArtifact :=
  let prepared := preparedFields rules artifact
  (codeVersionFromDigest rules sha (sha.hexdigest prepared.blob)
    prepared.payload).map fun codeVersion =>
      { prepared with codeVersion := codeVersion }

structure CreateServiceMeta where
  sha256 : String
  runtime : String
  entryModule : String
  entryCallable : String
  packageFormat : String
  exportMode : String
  exportMethods : List String
  exportDecorator : String
  dependencyPolicyMode : String
  dependencyAllowlist : List String

/-- `create_service_from_bytes` with the fields that were prepared. -/
def createServiceFromBytes (prepared : PreparedFields) :
    Option CreateServiceMeta :=
  let effectiveFormat :=
    resolvePackageFormat rules prepared.packageFormat "" "py"
  let deps := prepared.dependencyPolicy
  (normalizeDependencyPolicyMode rules deps.mode.text
    deps.dependencyAllowlist).map fun mode => {
      sha256 := "sha256:" ++ sha.hexdigest prepared.blob
      runtime := prepared.runtime
      entryModule := defaultEntryModuleForPackage rules effectiveFormat
        prepared.entryModule "service_artifact"
      entryCallable :=
        if prepared.entryCallable = "" then "run" else prepared.entryCallable
      packageFormat := effectiveFormat
      exportMode := prepared.exports.mode.text
      exportMethods := prepared.exports.methods
      exportDecorator := defaultExportDecorator
      dependencyPolicyMode := mode.text
      dependencyAllowlist := deps.dependencyAllowlist }

/-- The version of the node's Python, and the path without its suffix that it
uploads the code to. -/
structure NodePlace where
  pythonVersion : String
  uploadStem : String

/-- `_normalize_export_spec`; the decorator that is asked for is not read. -/
def normalizeExportSpec (mode : String) (methods : List String)
    (entryCallable : String) : ExportMode × List String × String :=
  let fallbackCallable := strippedOr entryCallable "run"
  let methodNames := sortedNames methods
  let exportMode :=
    match ExportMode.ofText (rules.lower (strip mode)) with
    | some known => known
    | none => if methodNames ≠ [] then .explicit else .single
  if exportMode = .single then
    (exportMode, [fallbackCallable], defaultExportDecorator)
  else (exportMode, methodNames, defaultExportDecorator)

def uploadedFormat (node : NodePlace) (packageFormat : String) :
    PackageFormat :=
  let uploadSuffix := (normalizePackageFormat rules packageFormat "").suffix
  normalizePackageFormat rules packageFormat (node.uploadStem ++ uploadSuffix)

def uploadedModule (format : PackageFormat) (entryModule : String) : String :=
  if strip entryModule = "" ∧ format = .py then "artifact"
  else strip entryModule

/-- The fields that `put_code_from_uploaded_file` passes on to be hashed. -/
def nodePayload (node : NodePlace) (request : CreateServiceMeta) :
    Option VariantPayload :=
  let format := uploadedFormat rules node request.packageFormat
  let entryModule := uploadedModule format request.entryModule
  let entryCallable := strippedOr request.entryCallable "run"
  (validatePythonRuntimeOrRaise rules node.pythonVersion request.runtime).bind
    fun runtime =>
      if format ≠ .py ∧ format ≠ .bin ∧ entryModule = "" then none
      else if format = .bin then none
      else
        let exports := normalizeExportSpec rules request.exportMode
          request.exportMethods entryCallable
        let allowlist := namesFrom [] request.dependencyAllowlist
        (normalizeDependencyPolicyMode rules request.dependencyPolicyMode
          allowlist).map fun mode => {
            runtime := runtime
            entryModule := entryModule
            entryCallable := entryCallable
            packageFormat := format.text
            exportMode := exports.1.text
            exportMethods := exports.2.1
            exportDecorator := exports.2.2
            dependencyPolicyMode := mode.text
            dependencyAllowlist := allowlist }

/-- `str.replace` of a text by nothing; the number is how many characters of an
occurrence are still to be passed over. -/
def erased (pattern : List Char) : ℕ → List Char → List Char
  | _, [] => []
  | skipped + 1, _ :: rest => erased pattern skipped rest
  | 0, char :: rest =>
    if pattern.isPrefixOf (char :: rest) then
      erased pattern (pattern.length - 1) rest
    else char :: erased pattern 0 rest

/-- The code version with which `put_code` accepts the bytes of a request. -/
def putCode (node : NodePlace) (request : CreateServiceMeta)
    (blob : ByteArray) : Option String :=
  let expected := rules.lower (strip
    (.ofList (erased "sha256:".toList 0 request.sha256.toList)))
  let digest := rules.lower (strip (sha.hexdigest blob))
  if digest = "" then none
  else if expected ≠ "" ∧ expected ≠ digest then none
  else (nodePayload rules node request).bind
    (codeVersionFromDigest rules sha digest)

end PycloudParallel.CodeVersion
