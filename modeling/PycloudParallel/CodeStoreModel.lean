import PycloudParallel.FoundationFileTree
import PycloudParallel.FoundationOrderedDict
import Mathlib.Data.Finset.Insert

/-!
# The code store of a node

What `put_code` does with an uploaded archive: the directories of its content
and of its variant, the extraction entry by entry, the preparation of the
artifact, and the table of artifacts.

Hashes in names of versions and directories are modelled by what is hashed.
What user code, `pip` and the operating system answer is the environment.
Times, sizes, client tokens and the code index are left out: nothing here
reads them.
-/

namespace PycloudParallel.CodeStore

abbrev Digest := String

inductive PackageFormat
  | py
  | tarGz
  | zip
  | whl
  | bin
deriving DecidableEq

inductive DependencyPolicyMode
  /-- The empty text. -/
  | unset
  /-- A text outside `_VALID_DEP_MODES`. -/
  | unknown
  | prebuilt
  | nodePreinstalled
  | allowInstall
deriving DecidableEq

inductive ExportMode
  | decorator
  | explicit
  | all
  | single
deriving DecidableEq

structure CodeVersion where
  digest : Digest
  runtime : String
  entryModule : String
  entryCallable : String
  packageFormat : PackageFormat
  exportMode : ExportMode
  exportMethods : List String
  dependencyPolicyMode : DependencyPolicyMode
  dependencyAllowlist : List String
deriving DecidableEq

inductive PathPart
  | name (text : String)
  | content (digest : Digest)
  | subversion (version : CodeVersion)
deriving DecidableEq

abbrev Path := List PathPart

structure CodeArtifact where
  codeVersion : CodeVersion
  path : Path
  dependencyPolicyMode : DependencyPolicyMode
  dependencyAllowlist : List String
  dependencyPath : Option Path
deriving DecidableEq

inductive FileContent
  | bytes (bytes : List UInt8)
  /-- The uploaded file. -/
  | upload (digest : Digest)
  /-- `meta.json` of an artifact. -/
  | codeMeta (artifact : CodeArtifact)
deriving DecidableEq

inductive Node
  | directory (mode : Nat)
  | file (mode : Nat) (content : FileContent)
deriving DecidableEq

abbrev FileSystem := FileTree PathPart Node

/-- The name of an archive entry as `pathlib` reads it. -/
structure EntryName where
  absolute : Bool
  parts : List String
deriving DecidableEq

inductive EntryKind
  | file
  | directory
  | link
  /-- A device or a FIFO. -/
  | special
  | other
deriving DecidableEq

inductive EntryBody
  | whole (bytes : List UInt8)
  /-- The copy raises after these bytes. -/
  | broken (bytes : List UInt8)
  /-- Opening the entry raises. -/
  | unreadable
deriving DecidableEq

structure ArchiveEntry where
  name : EntryName
  kind : EntryKind
  mode : Nat
  body : EntryBody
deriving DecidableEq

/-- An uploaded file, and the entries it has when it is opened as a zip and as
a gzipped tar file; `none` if opening it raises. -/
structure Archive where
  digest : Digest
  zipEntries : Option (List ArchiveEntry)
  tarEntries : Option (List ArchiveEntry)

def Archive.entries (archive : Archive) : PackageFormat →
    Option (List ArchiveEntry)
  | .zip | .whl => archive.zipEntries
  | .tarGz => archive.tarEntries
  | .py | .bin => none

inductive UploadError
  | emptyUpload
  | shaMismatch (expected actual : Digest)
  | runtimeMismatch (runtime : String)
  | entryModuleRequired (format : PackageFormat)
  | unsupportedFormat
  | dependencyPolicy (mode : DependencyPolicyMode)
  | unreadableArchive
  | escapesDestination (name : EntryName)
  | zipLinkEntry (name : EntryName)
  | tarLinkEntry (name : EntryName)
  | tarSpecialEntry (name : EntryName)
  | tarMemberType (name : EntryName)
  | unreadableEntry (name : EntryName)
  | osError (path : Path)
  | dependencyInstall (requirements : List String)
  | userArtifact (message : String)
deriving DecidableEq

/-- How loading the code fails; `missingImport` as `_missing_import_name`. -/
structure DiscoverError where
  message : String
  missingImport : Bool
deriving DecidableEq

structure DiscoveredModule where
  methods : List String
  attributes : Finset String
  appliesManagedGlobals : Bool

structure Environment where
  /-- `NodeControlState._artifact_dir`. -/
  artifactDir : Path
  supportsRuntime : String → Bool
  /-- The target of a symbolic link, resolved. -/
  linkTarget : Path → Option Path
  /-- The operating system does not let a path be made or written, given the
  tree it is to stand in. -/
  refuses : FileSystem → Path → Bool
  /-- What `pip install --target` puts into the directory. -/
  packages : List String → Option FileSystem
  /-- `_discover_callable_methods`, from the code and the dependencies. -/
  discover : FileSystem → Option FileSystem → CodeVersion →
    Except DiscoverError DiscoveredModule

section paths

variable (env : Environment)

def codeContentDir (digest : Digest) : Path :=
  env.artifactDir ++ [.name "codes", .content digest]

def codeVariantDir (version : CodeVersion) : Path :=
  codeContentDir env version.digest ++ [.name "subversions", .subversion version]

def codeDataDir (version : CodeVersion) : Path :=
  codeVariantDir env version ++ [.name "data"]

def codeDependencyDir (version : CodeVersion) : Path :=
  codeVariantDir env version ++ [.name "deps"]

def codeMetaPath (version : CodeVersion) : Path :=
  codeVariantDir env version ++ [.name "meta.json"]

def codePkgDir (digest : Digest) : Path :=
  codeContentDir env digest ++ [.name "pkg"]

def codeArchivePath (digest : Digest) (format : PackageFormat) : Path :=
  codeContentDir env digest ++
    [.name (match format with
      | .tarGz => "artifact.tar.gz"
      | .whl => "artifact.whl"
      | _ => "artifact.zip")]

def codeExecPath (digest : Digest) : PackageFormat → Path
  | .py => codePkgDir env digest ++ [.name "artifact.py"]
  | _ => codePkgDir env digest

end paths

section extraction

variable (env : Environment)

/-- One part of a name: `resolve` follows a link right away. -/
def resolvePart (stack : Path) (part : String) : Path :=
  if part = "" || part = "." then stack
  else if part = ".." then stack.dropLast
  else
    let path := stack ++ [.name part]
    (env.linkTarget path).getD path

/-- `(root / name).resolve()`. -/
def resolve (root : Path) (name : EntryName) : Path :=
  name.parts.foldl (resolvePart env) (if name.absolute then [] else root)

/-- `_safe_join`: the path of the entry below the output directory. -/
def safeJoin (root : Path) (name : EntryName) : Except UploadError Path :=
  let candidate := resolve env root name
  if root <+: candidate then .ok (candidate.drop root.length)
  else .error (.escapesDestination name)

def ArchiveEntry.reject (entry : ArchiveEntry) (format : PackageFormat) :
    Except UploadError Unit :=
  match format, entry.kind with
  | .tarGz, .link => .error (.tarLinkEntry entry.name)
  | .tarGz, .special => .error (.tarSpecialEntry entry.name)
  | .tarGz, .other => .error (.tarMemberType entry.name)
  | _, .link => .error (.zipLinkEntry entry.name)
  | _, _ => .ok ()

/-- `mkdir(exist_ok=True)` of one directory below the output directory. -/
def makeDirectory (root : Path) (fs : FileSystem) (path : Path) :
    FileSystem × Except UploadError Unit :=
  match fs (root ++ path) with
  | some (.directory _) => (fs, .ok ())
  | some (.file _ _) => (fs, .error (.osError path))
  | none =>
    if env.refuses (fs.below root) path then (fs, .error (.osError path))
    else (fs.place (root ++ path) (.directory 0), .ok ())

/-- `mkdir(parents=True)`, from the top down. -/
def makeDirectories (root : Path) : FileSystem → List Path →
    FileSystem × Except UploadError Unit
  | fs, [] => (fs, .ok ())
  | fs, path :: rest =>
    match makeDirectory env root fs path with
    | (fs, .ok ()) => makeDirectories root fs rest
    | (fs, .error error) => (fs, .error error)

def applyMode (fs : FileSystem) (path : Path) (mode : Nat) : FileSystem :=
  if mode % 0o1000 = 0 then fs
  else
    match fs path with
    | none => fs
    | some (.directory _) => fs.place path (.directory (mode % 0o1000))
    | some (.file _ content) => fs.place path (.file (mode % 0o1000) content)

def extractDirectory (root : Path) (fs : FileSystem) (entry : ArchiveEntry)
    (path : Path) : FileSystem × Except UploadError Unit :=
  match makeDirectories env root fs path.inits with
  | (fs, .ok ()) => (applyMode fs (root ++ path) entry.mode, .ok ())
  | (fs, .error error) => (fs, .error error)

/-- `open("wb")` and the copy of the bytes. -/
def writeBytes (root : Path) (fs : FileSystem) (path : Path)
    (bytes : List UInt8) : FileSystem × Except UploadError Unit :=
  match fs (root ++ path) with
  | some (.directory _) => (fs, .error (.osError path))
  | some (.file mode _) =>
    if env.refuses (fs.below root) path then (fs, .error (.osError path))
    else (fs.place (root ++ path) (.file mode (.bytes bytes)), .ok ())
  | none =>
    if env.refuses (fs.below root) path then (fs, .error (.osError path))
    else (fs.place (root ++ path) (.file 0 (.bytes bytes)), .ok ())

def writeEntry (root : Path) (fs : FileSystem) (entry : ArchiveEntry)
    (path : Path) : FileSystem × Except UploadError Unit :=
  match entry.body with
  | .unreadable => (fs, .error (.unreadableEntry entry.name))
  | .broken bytes =>
    match writeBytes env root fs path bytes with
    | (fs, .ok ()) => (fs, .error (.unreadableEntry entry.name))
    | (fs, .error error) => (fs, .error error)
  | .whole bytes =>
    match writeBytes env root fs path bytes with
    | (fs, .ok ()) => (applyMode fs (root ++ path) entry.mode, .ok ())
    | (fs, .error error) => (fs, .error error)

def extractFile (root : Path) (fs : FileSystem) (entry : ArchiveEntry)
    (path : Path) : FileSystem × Except UploadError Unit :=
  match makeDirectories env root fs path.dropLast.inits with
  | (fs, .ok ()) => writeEntry env root fs entry path
  | (fs, .error error) => (fs, .error error)

def extractEntry (format : PackageFormat) (root : Path) (fs : FileSystem)
    (entry : ArchiveEntry) : FileSystem × Except UploadError Unit :=
  match safeJoin env root entry.name, entry.reject format with
  | .error error, _ => (fs, .error error)
  | .ok _, .error error => (fs, .error error)
  | .ok path, .ok () =>
    if entry.kind = .directory then extractDirectory env root fs entry path
    else extractFile env root fs entry path

def extractEntries (format : PackageFormat) (root : Path) :
    FileSystem → List ArchiveEntry → FileSystem × Except UploadError Unit
  | fs, [] => (fs, .ok ())
  | fs, entry :: rest =>
    match extractEntry env format root fs entry with
    | (fs, .ok ()) => extractEntries format root fs rest
    | (fs, .error error) => (fs, .error error)

def extractArchive (archive : Archive) (format : PackageFormat) (outDir : Path)
    (fs : FileSystem) : FileSystem × Except UploadError Unit :=
  let fs := (fs.prune outDir).place outDir (.directory 0)
  match archive.entries format with
  | none => (fs, .error .unreadableArchive)
  | some entries => extractEntries env format outDir fs entries

end extraction

section readiness

def normalizeDependencyAllowlist (requirements : List String) : List String :=
  (requirements.filter (· ≠ "")).foldl
    (fun kept name => if name ∈ kept then kept else kept ++ [name]) []

def normalizeDependencyPolicyMode (mode : DependencyPolicyMode)
    (allowlist : List String) : Except UploadError DependencyPolicyMode :=
  match mode with
  | .unset | .unknown =>
    .ok (if allowlist = [] then .prebuilt else .allowInstall)
  | .allowInstall => .ok .allowInstall
  | mode =>
    if allowlist = [] then .ok mode else .error (.dependencyPolicy mode)

/-- What a caller asks of `_ensure_artifact_ready`. -/
structure ReadyRequest where
  dependencyPolicyMode : DependencyPolicyMode
  dependencyAllowlist : List String
  managedGlobalNames : Finset String
  prepareScope : String
  prepareKey : String
deriving DecidableEq

/-- The local variables of `_ensure_artifact_ready` up to the installation. -/
structure ReadyPlan where
  policyMode : DependencyPolicyMode
  effectiveAllowlist : List String
  /-- The dependencies are to be installed. -/
  install : Bool
  candidatePath : Option Path
deriving DecidableEq

structure MethodCacheKey where
  codeVersion : CodeVersion
  path : Option Path
  policyMode : DependencyPolicyMode
  allowlist : List String
  managedGlobalNames : Finset String
  prepareScope : String
  prepareKey : String
deriving DecidableEq

variable (env : Environment)

def planReady (artifact : CodeArtifact) (request : ReadyRequest) :
    Except UploadError ReadyPlan :=
  let allowlist := normalizeDependencyAllowlist request.dependencyAllowlist
  let mode :=
    if request.dependencyPolicyMode = .unset then artifact.dependencyPolicyMode
    else request.dependencyPolicyMode
  match normalizeDependencyPolicyMode mode
      (if allowlist = [] then artifact.dependencyAllowlist else allowlist) with
  | .error error => .error error
  | .ok policyMode =>
    let effective :=
      if policyMode = .allowInstall then
        normalizeDependencyAllowlist (artifact.dependencyAllowlist ++ allowlist)
      else []
    let install := effective ≠ [] &&
      (artifact.dependencyPath = none ||
        effective ≠ artifact.dependencyAllowlist)
    .ok {
      policyMode := policyMode
      effectiveAllowlist := effective
      install := install
      candidatePath :=
        if install then some (codeDependencyDir env artifact.codeVersion)
        else artifact.dependencyPath }

def ReadyPlan.cacheKey (plan : ReadyPlan) (artifact : CodeArtifact)
    (request : ReadyRequest) (path : Option Path) : MethodCacheKey where
  codeVersion := artifact.codeVersion
  path := path
  policyMode := plan.policyMode
  allowlist := plan.effectiveAllowlist
  managedGlobalNames := request.managedGlobalNames
  prepareScope := request.prepareScope
  prepareKey := request.prepareKey

/-- `_install_dependency_allowlist`: the new directory replaces the old one. -/
def installDependencies (fs : FileSystem) (path : Path)
    (installed : Option FileSystem) : Option FileSystem :=
  installed.map fun tree => (fs.graft path tree).place path (.directory 0)

def validateManagedGlobalNames (names : Finset String)
    (module : DiscoveredModule) : Except DiscoverError (List String) :=
  if module.appliesManagedGlobals || names ⊆ module.attributes then
    .ok module.methods
  else
    .error {
      message := "managed globals not found in entry module"
      missingImport := false }

def validateArtifactMethods (fs : FileSystem) (artifact : CodeArtifact)
    (dependencyPath : Option Path) (names : Finset String) :
    Except DiscoverError (List String) :=
  match env.discover (fs.below artifact.path) (dependencyPath.map fs.below)
      artifact.codeVersion with
  | .error error => .error error
  | .ok module => validateManagedGlobalNames names module

/-- The fields that `_ensure_artifact_ready` writes when the code has loaded
at once. -/
def CodeArtifact.settle (artifact : CodeArtifact) (plan : ReadyPlan) :
    CodeArtifact :=
  let artifact := { artifact with dependencyPolicyMode := plan.policyMode }
  if plan.effectiveAllowlist ≠ [] ∧ plan.candidatePath.isSome then
    { artifact with
      dependencyAllowlist := plan.effectiveAllowlist
      dependencyPath := plan.candidatePath }
  else if artifact.dependencyPath.isSome ∧ plan.effectiveAllowlist = [] then
    { artifact with dependencyAllowlist := [], dependencyPath := none }
  else artifact

def CodeArtifact.repair (artifact : CodeArtifact) (plan : ReadyPlan) :
    CodeArtifact :=
  { artifact with
    dependencyPolicyMode := plan.policyMode
    dependencyAllowlist := plan.effectiveAllowlist
    dependencyPath := some (codeDependencyDir env artifact.codeVersion) }

def writeCodeMeta (fs : FileSystem) (artifact : CodeArtifact) : FileSystem :=
  (fs.place (codeVariantDir env artifact.codeVersion) (.directory 0)).place
    (codeMetaPath env artifact.codeVersion) (.file 0 (.codeMeta artifact))

end readiness

structure Store where
  fs : FileSystem
  /-- `_codes`. -/
  codes : OrderedDict CodeVersion CodeArtifact
  artifactMethodCache : OrderedDict MethodCacheKey (List String)

structure Preparation where
  store : Store
  artifact : CodeArtifact

section preparation

variable (env : Environment)

/-- The repair: install and validate once more; a failure removes the
dependencies. -/
def repairArtifact (prep : Preparation) (request : ReadyRequest)
    (plan : ReadyPlan) : Preparation × Except UploadError (List String) :=
  let target := codeDependencyDir env prep.artifact.codeVersion
  let removed (fs : FileSystem) : Preparation :=
    { prep with store := { prep.store with fs := fs.prune target } }
  match installDependencies prep.store.fs target
      (env.packages plan.effectiveAllowlist) with
  | none =>
    (removed prep.store.fs,
      .error (.dependencyInstall plan.effectiveAllowlist))
  | some fs =>
    match validateArtifactMethods env fs prep.artifact (some target)
        request.managedGlobalNames with
    | .error error => (removed fs, .error (.userArtifact error.message))
    | .ok methods =>
      let artifact := prep.artifact.repair env plan
      ({ store :=
          { prep.store with
            fs := writeCodeMeta env fs artifact
            artifactMethodCache := prep.store.artifactMethodCache.set
              (plan.cacheKey artifact request artifact.dependencyPath)
              methods }
         artifact := artifact }, .ok methods)

/-- `_ensure_artifact_ready` once the dependencies are installed. -/
def validateArtifact (prep : Preparation) (request : ReadyRequest)
    (plan : ReadyPlan) : Preparation × Except UploadError (List String) :=
  match prep.store.artifactMethodCache.lookup
      (plan.cacheKey prep.artifact request plan.candidatePath) with
  | some methods => (prep, .ok methods)
  | none =>
    match validateArtifactMethods env prep.store.fs prep.artifact
        plan.candidatePath request.managedGlobalNames with
    | .ok methods =>
      let artifact := prep.artifact.settle plan
      let written :=
        plan.effectiveAllowlist ≠ [] && plan.candidatePath.isSome ||
          prep.artifact.dependencyPath.isSome &&
            plan.effectiveAllowlist = []
      ({ store :=
          { prep.store with
            fs := if written then writeCodeMeta env prep.store.fs artifact
              else prep.store.fs
            artifactMethodCache := prep.store.artifactMethodCache.set
              (plan.cacheKey artifact request
                (artifact.dependencyPath.or plan.candidatePath))
              methods }
         artifact := artifact }, .ok methods)
    | .error error =>
      if plan.effectiveAllowlist ≠ [] ∧ error.missingImport then
        repairArtifact env prep request plan
      else
        ({ prep with
           store :=
            { prep.store with
              fs := if plan.install then
                  prep.store.fs.prune
                    (codeDependencyDir env prep.artifact.codeVersion)
                else prep.store.fs } },
          .error (.userArtifact error.message))

def ensureArtifactReady (prep : Preparation) (request : ReadyRequest) :
    Preparation × Except UploadError (List String) :=
  match planReady env prep.artifact request with
  | .error error => (prep, .error error)
  | .ok plan =>
    if plan.install then
      match installDependencies prep.store.fs
          (codeDependencyDir env prep.artifact.codeVersion)
          (env.packages plan.effectiveAllowlist) with
      | none => (prep, .error (.dependencyInstall plan.effectiveAllowlist))
      | some fs =>
        validateArtifact env
          { prep with store := { prep.store with fs := fs } } request plan
    else validateArtifact env prep request plan

end preparation

section upload

/-- The arguments of `put_code`, with the uploaded file beside them. -/
structure CodeRequest where
  /-- Empty for no expectation. -/
  sha256 : Digest
  runtime : String
  entryModule : String
  entryCallable : String
  packageFormat : PackageFormat
  /-- `none` for a text that is no mode. -/
  exportMode : Option ExportMode
  exportMethods : List String
  dependencyPolicyMode : DependencyPolicyMode
  dependencyAllowlist : List String
  managedGlobalNames : Finset String
  validateLoad : Bool
deriving DecidableEq

variable (env : Environment)

/-- `_normalize_export_spec`; the methods come sorted and without repetition. -/
def normalizeExportSpec (mode : Option ExportMode) (methods : List String)
    (entryCallable : String) : ExportMode × List String :=
  let mode := mode.getD (if methods = [] then .single else .explicit)
  (mode, if mode = .single then [entryCallable] else methods)

def CodeRequest.callable (request : CodeRequest) : String :=
  if request.entryCallable = "" then "run" else request.entryCallable

def CodeRequest.codeVersion (request : CodeRequest) (digest : Digest) :
    Except UploadError CodeVersion :=
  if digest = "" then .error .emptyUpload
  else if request.sha256 ≠ "" ∧ request.sha256 ≠ digest then
    .error (.shaMismatch request.sha256 digest)
  else if request.runtime ≠ "" ∧ !env.supportsRuntime request.runtime then
    .error (.runtimeMismatch request.runtime)
  else if request.entryModule = "" ∧ request.packageFormat ≠ .py ∧
      request.packageFormat ≠ .bin then
    .error (.entryModuleRequired request.packageFormat)
  else if request.packageFormat = .bin then .error .unsupportedFormat
  else
    let allowlist := normalizeDependencyAllowlist request.dependencyAllowlist
    match normalizeDependencyPolicyMode request.dependencyPolicyMode
        allowlist with
    | .error error => .error error
    | .ok policyMode =>
      let exports := normalizeExportSpec request.exportMode
        request.exportMethods request.callable
      .ok {
        digest := digest
        runtime := request.runtime
        entryModule :=
          if request.entryModule = "" then "artifact" else request.entryModule
        entryCallable := request.callable
        packageFormat := request.packageFormat
        exportMode := exports.1
        exportMethods := exports.2
        dependencyPolicyMode := policyMode
        dependencyAllowlist := allowlist }

def CodeRequest.readyRequest (request : CodeRequest) (version : CodeVersion) :
    ReadyRequest where
  dependencyPolicyMode := version.dependencyPolicyMode
  dependencyAllowlist := version.dependencyAllowlist
  managedGlobalNames := request.managedGlobalNames
  prepareScope := ""
  prepareKey := ""

def CodeArtifact.ofVersion (version : CodeVersion) : CodeArtifact where
  codeVersion := version
  path := codeExecPath env version.digest version.packageFormat
  dependencyPolicyMode := version.dependencyPolicyMode
  dependencyAllowlist := version.dependencyAllowlist
  dependencyPath := none

def makeCodeDirs (fs : FileSystem) (version : CodeVersion) : FileSystem :=
  let make (fs : FileSystem) (path : Path) : FileSystem :=
    if (fs path).isSome then fs else fs.place path (.directory 0)
  make (make (make (make fs (codeContentDir env version.digest))
    (codeContentDir env version.digest ++ [.name "subversions"]))
    (codeVariantDir env version)) (codeDataDir env version)

def storeUpload (fs : FileSystem) (archive : Archive) (path : Path) :
    FileSystem :=
  if (fs path).isSome then fs
  else fs.place path (.file 0 (.upload archive.digest))

/-- The files of the code: an archive is extracted only if its directory does
not exist. -/
def storeCode (fs : FileSystem) (archive : Archive) (version : CodeVersion) :
    FileSystem × Except UploadError Unit :=
  let exec := codeExecPath env version.digest version.packageFormat
  match version.packageFormat with
  | .py =>
    let pkg := codePkgDir env version.digest
    let fs := if (fs pkg).isSome then fs else fs.place pkg (.directory 0)
    (storeUpload fs archive exec, .ok ())
  | format =>
    let fs := storeUpload fs archive
      (codeArchivePath env version.digest format)
    if (fs exec).isSome then (fs, .ok ())
    else extractArchive env archive format exec fs

/-- `validate_load` of a new artifact: a failure removes the variant. -/
def loadNewArtifact (store : Store) (artifact : CodeArtifact)
    (request : ReadyRequest) :
    Store × Except UploadError CodeArtifact :=
  match ensureArtifactReady env ⟨store, artifact⟩ request with
  | (prep, .ok _) => (prep.store, .ok prep.artifact)
  | (prep, .error error) =>
    ({ prep.store with
       fs := prep.store.fs.prune (codeVariantDir env artifact.codeVersion) },
      .error error)

def registerArtifact (store : Store) (artifact : CodeArtifact) : Store :=
  { store with
    codes := store.codes.set artifact.codeVersion artifact
    fs := writeCodeMeta env store.fs artifact }

/-- The part of `put_code` for a version that has no artifact yet. -/
def putNewCode (store : Store) (archive : Archive) (request : CodeRequest)
    (version : CodeVersion) :
    Store × Except UploadError (CodeArtifact × Bool) :=
  match storeCode env (makeCodeDirs env store.fs version) archive version with
  | (fs, .error error) => ({ store with fs := fs }, .error error)
  | (fs, .ok ()) =>
    let store := { store with fs := fs }
    let artifact := CodeArtifact.ofVersion env version
    if request.validateLoad then
      match loadNewArtifact env store artifact
          (request.readyRequest version) with
      | (store, .error error) => (store, .error error)
      | (store, .ok artifact) =>
        (registerArtifact env store artifact, .ok (artifact, false))
    else (registerArtifact env store artifact, .ok (artifact, false))

def reuseCode (store : Store) (existing : CodeArtifact)
    (request : CodeRequest) (version : CodeVersion) :
    Store × Except UploadError (CodeArtifact × Bool) :=
  if request.validateLoad then
    match ensureArtifactReady env ⟨store, existing⟩
        (request.readyRequest version) with
    | (prep, .error error) =>
      ({ prep.store with
         codes := prep.store.codes.set version prep.artifact }, .error error)
    | (prep, .ok _) =>
      ({ prep.store with
         codes := prep.store.codes.set version prep.artifact },
        .ok (prep.artifact, true))
  else (store, .ok (existing, true))

def putCode (store : Store) (archive : Archive) (request : CodeRequest) :
    Store × Except UploadError (CodeArtifact × Bool) :=
  match request.codeVersion env archive.digest with
  | .error error => (store, .error error)
  | .ok version =>
    match store.codes.lookup version with
    | some existing => reuseCode env store existing request version
    | none => putNewCode env store archive request version

end upload

end PycloudParallel.CodeStore
