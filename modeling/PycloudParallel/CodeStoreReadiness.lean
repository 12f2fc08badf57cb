import PycloudParallel.CodeStoreExtraction

/-!
# Preparing an artifact

`_ensure_artifact_ready` on an artifact as uploads leave it succeeds exactly
if the code loads with its dependencies installed and has the managed globals,
whatever was tried before.
-/

namespace PycloudParallel.CodeStore

open FileTree (AgreeOff)

section allowlists

variable {names : List String}

variable {kept : List String}

theorem foldl_known (hknown : ∀ name ∈ names, name ∈ kept) :
    names.foldl
      (fun kept name => if name ∈ kept then kept else kept ++ [name]) kept =
        kept := by
  induction names with
  | nil => rfl
  | cons name rest ih =>
    have hname : name ∈ kept := hknown name List.mem_cons_self
    rw [List.foldl_cons, if_pos hname]
    apply ih
    intro other hother
    exact hknown other (List.mem_cons_of_mem name hother)

theorem foldl_new (hnodup : (kept ++ names).Nodup) :
    names.foldl
      (fun kept name => if name ∈ kept then kept else kept ++ [name]) kept =
        kept ++ names := by
  induction names generalizing kept with
  | nil => simp
  | cons name rest ih =>
    have hname : name ∉ kept := by
      intro hmem
      rw [List.nodup_append] at hnodup
      exact hnodup.2.2 name hmem name List.mem_cons_self rfl
    rw [List.foldl_cons, if_neg hname, ih (by simpa using hnodup)]
    simp

theorem nodup_foldl (hnodup : kept.Nodup) :
    (names.foldl
      (fun kept name => if name ∈ kept then kept else kept ++ [name])
        kept).Nodup := by
  induction names generalizing kept with
  | nil => exact hnodup
  | cons name rest ih =>
    rw [List.foldl_cons]
    apply ih
    split
    · exact hnodup
    · next hname =>
      rw [List.nodup_append]
      refine ⟨hnodup, List.nodup_singleton name, ?_⟩
      intro first hfirst second hsecond heq
      rw [List.mem_singleton] at hsecond
      rw [heq, hsecond] at hfirst
      exact hname hfirst

theorem mem_foldl {name : String}
    (hmem : name ∈ names.foldl
      (fun kept name => if name ∈ kept then kept else kept ++ [name]) kept) :
    name ∈ kept ∨ name ∈ names := by
  induction names generalizing kept with
  | nil => exact .inl hmem
  | cons first rest ih =>
    rw [List.foldl_cons] at hmem
    cases ih hmem with
    | inl hkept =>
      split at hkept
      · exact .inl hkept
      · rw [List.mem_append, List.mem_singleton] at hkept
        cases hkept with
        | inl hold => exact .inl hold
        | inr heq => exact .inr (heq ▸ List.mem_cons_self)
    | inr hrest => exact .inr (List.mem_cons_of_mem first hrest)

def IsAllowlist (names : List String) : Prop :=
  names.Nodup ∧ "" ∉ names

theorem isAllowlist_normalize : IsAllowlist (normalizeDependencyAllowlist names) := by
  constructor
  · exact nodup_foldl List.nodup_nil
  · intro hmem
    cases mem_foldl hmem with
    | inl hnil => cases hnil
    | inr hfiltered => simp at hfiltered

theorem IsAllowlist.filter (hnames : IsAllowlist names) :
    names.filter (· ≠ "") = names := by
  apply List.filter_eq_self.mpr
  intro name hname
  have hne : name ≠ "" := by
    rintro rfl
    exact hnames.2 hname
  simpa using hne

theorem IsAllowlist.normalize (hnames : IsAllowlist names) :
    normalizeDependencyAllowlist names = names := by
  unfold normalizeDependencyAllowlist
  rw [hnames.filter, foldl_new (by simpa using hnames.1)]
  rfl

theorem IsAllowlist.normalize_append_self (hnames : IsAllowlist names) :
    normalizeDependencyAllowlist (names ++ names) = names := by
  have hfirst := hnames.normalize
  unfold normalizeDependencyAllowlist at hfirst ⊢
  rw [hnames.filter] at hfirst
  rw [List.filter_append, hnames.filter, List.foldl_append, hfirst]
  exact foldl_known fun _ hname => hname

end allowlists

/-- The version of an artifact as `put_code` makes it. -/
structure CodeVersion.Normal (version : CodeVersion) : Prop where
  allowlist : IsAllowlist version.dependencyAllowlist
  known : version.dependencyPolicyMode ≠ .unset ∧
    version.dependencyPolicyMode ≠ .unknown
  install : version.dependencyPolicyMode ≠ .allowInstall →
    version.dependencyAllowlist = []

theorem normalizeDependencyPolicyMode_ok {mode policyMode : DependencyPolicyMode}
    {names : List String}
    (hok : normalizeDependencyPolicyMode mode names = .ok policyMode) :
    (policyMode ≠ .unset ∧ policyMode ≠ .unknown) ∧
      (policyMode ≠ .allowInstall → names = []) := by
  unfold normalizeDependencyPolicyMode at hok
  split at hok
  · split at hok
    · next hnil =>
      cases hok
      simp [hnil]
    · cases hok
      simp
  · split at hok
    · next hnil =>
      cases hok
      simp [hnil]
    · cases hok
      simp
  · cases hok
    simp
  · next hunset hunknown hinstall =>
    split at hok
    · next hnil =>
      cases hok
      exact ⟨⟨hunset, hunknown⟩, fun _ => hnil⟩
    · cases hok

theorem CodeVersion.Normal.policyMode {version : CodeVersion}
    (hnormal : version.Normal) :
    normalizeDependencyPolicyMode version.dependencyPolicyMode
      version.dependencyAllowlist = .ok version.dependencyPolicyMode := by
  have hknown := hnormal.known
  have hinstall := hnormal.install
  unfold normalizeDependencyPolicyMode
  split
  · next heq => exact absurd heq hknown.1
  · next heq => exact absurd heq hknown.2
  · next heq => rw [heq]
  · next hne => rw [if_pos (hinstall hne)]

theorem CodeRequest.codeVersion_ok {env : Environment} {request : CodeRequest}
    {digest : Digest} {version : CodeVersion}
    (hok : request.codeVersion env digest = .ok version) :
    version.Normal ∧ version.digest = digest ∧
      version.packageFormat = request.packageFormat := by
  unfold CodeRequest.codeVersion at hok
  split at hok
  · cases hok
  · split at hok
    · cases hok
    · split at hok
      · cases hok
      · split at hok
        · cases hok
        · split at hok
          · cases hok
          · dsimp only at hok
            split at hok
            · cases hok
            · next policyMode hmode =>
              cases hok
              obtain ⟨hknown, hinstall⟩ := normalizeDependencyPolicyMode_ok hmode
              exact ⟨⟨isAllowlist_normalize, hknown, hinstall⟩, rfl, rfl⟩

section paths

variable {env : Environment} {digest : Digest} {version other : CodeVersion}
  {fs fs' : FileSystem}

theorem codePkgDir_beside_variant (path : Path) :
    ¬codeVariantDir env version <+: codePkgDir env digest ++ path := by
  simp [codeVariantDir, codePkgDir, codeContentDir, List.append_assoc,
    List.prefix_append_right_inj, List.cons_prefix_cons]

theorem dependencyDir_beside_variant (hne : version ≠ other) (path : Path) :
    ¬codeVariantDir env version <+: codeDependencyDir env other ++ path := by
  simp [codeVariantDir, codeDependencyDir, codeContentDir, List.append_assoc,
    List.prefix_append_right_inj, List.cons_prefix_cons, hne]

theorem dependencyDir_beside_pkg (path : Path) :
    ¬codePkgDir env digest <+: codeDependencyDir env version ++ path := by
  simp [codeVariantDir, codeDependencyDir, codePkgDir, codeContentDir,
    List.append_assoc, List.prefix_append_right_inj, List.cons_prefix_cons]

def IsRecord (env : Environment) (version : CodeVersion) (path : Path) : Prop :=
  path = codeContentDir env version.digest ∨
    path = codeContentDir env version.digest ++ [.name "subversions"] ∨
    path = codeVariantDir env version ∨ path = codeDataDir env version ∨
    path = codeMetaPath env version ∨
    ∃ format, path = codeArchivePath env version.digest format

variable {path : Path}

theorem IsRecord.beside_pkg (hrecord : IsRecord env version path) :
    ¬codePkgDir env digest <+: path := by
  rcases hrecord with rfl | rfl | rfl | rfl | rfl | ⟨format, rfl⟩
  all_goals
    try cases format
    all_goals
      simp [codePkgDir, codeVariantDir, codeDataDir, codeMetaPath,
        codeArchivePath, codeContentDir, List.append_assoc,
        List.prefix_append_right_inj, List.cons_prefix_cons]

theorem IsRecord.beside_dependencies (hrecord : IsRecord env version path) :
    ¬codeDependencyDir env other <+: path := by
  rcases hrecord with rfl | rfl | rfl | rfl | rfl | ⟨format, rfl⟩
  all_goals
    try cases format
    all_goals
      simp [codeDependencyDir, codeVariantDir, codeDataDir, codeMetaPath,
        codeArchivePath, codeContentDir, List.append_assoc,
        List.prefix_append_right_inj, List.cons_prefix_cons]

/-- Two file systems with the same code of a content and the same dependencies
of its versions. -/
structure SameCode (env : Environment) (digest : Digest)
    (fs fs' : FileSystem) : Prop where
  code : fs'.below (codePkgDir env digest) = fs.below (codePkgDir env digest)
  dependencies : ∀ version : CodeVersion, version.digest = digest →
    fs'.below (codeDependencyDir env version) =
      fs.below (codeDependencyDir env version)

theorem SameCode.refl : SameCode env digest fs fs :=
  ⟨rfl, fun _ _ => rfl⟩

theorem SameCode.trans {fs'' : FileSystem} (hfirst : SameCode env digest fs fs')
    (hsecond : SameCode env digest fs' fs'') : SameCode env digest fs fs'' :=
  ⟨hsecond.code.trans hfirst.code, fun version hversion =>
    (hsecond.dependencies version hversion).trans
      (hfirst.dependencies version hversion)⟩

theorem sameCode_place {node : Node} (hrecord : IsRecord env version path) :
    SameCode env digest fs (fs.place path node) := by
  constructor
  · exact FileTree.below_place_beside hrecord.beside_pkg
  · intro other hother
    apply FileTree.below_place_beside
    exact hrecord.beside_dependencies

theorem sameCode_writeCodeMeta {artifact : CodeArtifact} :
    SameCode env digest fs (writeCodeMeta env fs artifact) := by
  have hvariant : IsRecord env artifact.codeVersion
      (codeVariantDir env artifact.codeVersion) := .inr (.inr (.inl rfl))
  have hmeta : IsRecord env artifact.codeVersion
      (codeMetaPath env artifact.codeVersion) :=
    .inr (.inr (.inr (.inr (.inl rfl))))
  exact (sameCode_place hvariant).trans (sameCode_place hmeta)

theorem sameCode_makeCodeDirs :
    SameCode env digest fs (makeCodeDirs env fs version) := by
  have hmake : ∀ {fs : FileSystem} {path : Path}, IsRecord env version path →
      SameCode env digest fs
        (if (fs path).isSome then fs else fs.place path (.directory 0)) := by
    intro fs path hrecord
    split
    · exact .refl
    · exact sameCode_place hrecord
  unfold makeCodeDirs
  apply SameCode.trans
  · apply SameCode.trans
    · apply SameCode.trans
      · exact hmake (.inl rfl)
      · exact hmake (.inr (.inl rfl))
    · exact hmake (.inr (.inr (.inl rfl)))
  · exact hmake (.inr (.inr (.inr (.inl rfl))))

theorem sameCode_storeUpload (env : Environment) (fs : FileSystem)
    (archive : Archive) (format : PackageFormat) :
    SameCode env archive.digest fs
      (storeUpload fs archive (codeArchivePath env archive.digest format)) := by
  unfold storeUpload
  split
  · exact .refl
  · have hrecord : ∀ version : CodeVersion, version.digest = archive.digest →
        IsRecord env version (codeArchivePath env archive.digest format) := by
      intro version hversion
      rw [← hversion]
      exact .inr (.inr (.inr (.inr (.inr ⟨format, rfl⟩))))
    constructor
    · apply FileTree.below_place_beside
      cases format <;>
        simp [codePkgDir, codeArchivePath, List.prefix_append_right_inj,
          List.cons_prefix_cons]
    · intro version hversion
      apply FileTree.below_place_beside
      exact (hrecord version hversion).beside_dependencies

end paths

def CodeVersion.requirements (version : CodeVersion) : List String :=
  if version.dependencyPolicyMode = .allowInstall then
    version.dependencyAllowlist
  else []

/-- A directory that `pip` has filled. -/
def installedTree (tree : FileSystem) : FileSystem :=
  tree.place [] (.directory 0)

def Dependencies (env : Environment) (version : CodeVersion)
    (dependencies : Option FileSystem) : Prop :=
  if version.requirements = [] then dependencies = none
  else ∃ tree, env.packages version.requirements = some tree ∧
    dependencies = some (installedTree tree)

def Loads (env : Environment) (code : FileSystem) (version : CodeVersion)
    (names : Finset String) : Prop :=
  ∃ dependencies module methods, Dependencies env version dependencies ∧
    env.discover code dependencies version = .ok module ∧
    validateManagedGlobalNames names module = .ok methods

/-- The artifact of a version as it stands in the table.  Its dependencies are
recorded only when the code has loaded with them. -/
structure Registered (env : Environment) (fs : FileSystem)
    (version : CodeVersion) (artifact : CodeArtifact) : Prop where
  codeVersion : artifact.codeVersion = version
  path : artifact.path = codePkgDir env version.digest
  policyMode : artifact.dependencyPolicyMode = version.dependencyPolicyMode
  allowlist : artifact.dependencyAllowlist = version.dependencyAllowlist
  dependencies : artifact.dependencyPath = none ∨
    version.requirements ≠ [] ∧
      artifact.dependencyPath = some (codeDependencyDir env version) ∧
      ∃ tree module, env.packages version.requirements = some tree ∧
        fs.below (codeDependencyDir env version) = installedTree tree ∧
        env.discover (fs.below (codePkgDir env version.digest))
          (some (installedTree tree)) version = .ok module

def CacheSound (env : Environment) (code : FileSystem) (digest : Digest)
    (cache : OrderedDict MethodCacheKey (List String)) : Prop :=
  ∀ key : MethodCacheKey, key.codeVersion.digest = digest → key ∈ cache →
    Loads env code key.codeVersion key.managedGlobalNames

section ready

variable {env : Environment} {version : CodeVersion} {fs fs' : FileSystem}
  {artifact : CodeArtifact} {prep : Preparation} {request : ReadyRequest}

theorem Registered.of_sameCode (hregistered : Registered env fs version artifact)
    (hsame : SameCode env version.digest fs fs') :
    Registered env fs' version artifact := by
  obtain ⟨hversion, hpath, hmode, hallowlist, hdependencies⟩ := hregistered
  refine ⟨hversion, hpath, hmode, hallowlist, ?_⟩
  cases hdependencies with
  | inl hnone => exact .inl hnone
  | inr hsome =>
    obtain ⟨hne, hsome, tree, module, hpackages, htree, hdiscover⟩ := hsome
    refine .inr ⟨hne, hsome, tree, module, hpackages, ?_, ?_⟩
    · rw [hsame.dependencies version rfl, htree]
    · rw [hsame.code]
      exact hdiscover

theorem Registered.of_agreeOff {other : CodeVersion}
    (hregistered : Registered env fs version artifact) (hne : other ≠ version)
    (hagree : AgreeOff (codeVariantDir env other) fs fs') :
    Registered env fs' version artifact := by
  obtain ⟨hversion, hpath, hmode, hallowlist, hdependencies⟩ := hregistered
  refine ⟨hversion, hpath, hmode, hallowlist, ?_⟩
  cases hdependencies with
  | inl hnone => exact .inl hnone
  | inr hsome =>
    obtain ⟨hrequired, hsome, tree, module, hpackages, htree, hdiscover⟩ := hsome
    refine .inr ⟨hrequired, hsome, tree, module, hpackages, ?_, ?_⟩
    · rw [hagree.below_eq (dependencyDir_beside_variant hne), htree]
    · rw [hagree.below_eq codePkgDir_beside_variant]
      exact hdiscover

theorem requirements_allowlist (hne : version.requirements ≠ []) :
    version.requirements = version.dependencyAllowlist := by
  unfold CodeVersion.requirements at hne ⊢
  split at hne
  · next hinstall => rw [if_pos hinstall]
  · exact absurd rfl hne

def CodeArtifact.plan (env : Environment) (version : CodeVersion)
    (artifact : CodeArtifact) : ReadyPlan where
  policyMode := version.dependencyPolicyMode
  effectiveAllowlist := version.requirements
  install := version.requirements ≠ [] && artifact.dependencyPath = none
  candidatePath :=
    if version.requirements = [] then none
    else some (codeDependencyDir env version)

theorem planReady_registered {codeRequest : CodeRequest}
    (hnormal : version.Normal)
    (hregistered : Registered env fs version artifact) :
    planReady env artifact (codeRequest.readyRequest version) =
      .ok (artifact.plan env version) := by
  have hallowlist := hnormal.allowlist
  unfold CodeArtifact.plan
  unfold planReady CodeRequest.readyRequest
  simp only [hallowlist.normalize, if_neg hnormal.known.1,
    hregistered.allowlist, ite_self, hnormal.policyMode,
    hallowlist.normalize_append_self, hregistered.codeVersion]
  unfold CodeVersion.requirements
  by_cases hinstall : version.dependencyPolicyMode = .allowInstall
  · by_cases hnil : version.dependencyAllowlist = []
    · have hnone : artifact.dependencyPath = none := by
        cases hregistered.dependencies with
        | inl hnone => exact hnone
        | inr hsome =>
          refine absurd ?_ hsome.1
          simp [CodeVersion.requirements, hinstall, hnil]
      simp [hinstall, hnil, hnone]
    · cases hregistered.dependencies with
      | inl hnone => simp [hinstall, hnil, hnone]
      | inr hsome => simp [hinstall, hnil, hsome.2.1]
  · have hnone : artifact.dependencyPath = none := by
      cases hregistered.dependencies with
      | inl hnone => exact hnone
      | inr hsome =>
        refine absurd ?_ hsome.1
        simp [CodeVersion.requirements, hinstall]
    simp [hinstall, hnone]

theorem loads_iff {dependencies : Option FileSystem} {names : Finset String}
    {code : FileSystem} (hdependencies : Dependencies env version dependencies) :
    Loads env code version names ↔
      ∃ module methods, env.discover code dependencies version = .ok module ∧
        validateManagedGlobalNames names module = .ok methods := by
  have hunique : ∀ other, Dependencies env version other →
      other = dependencies := by
    intro other hother
    unfold Dependencies at hdependencies hother
    split at hdependencies
    · next hnil =>
      rw [if_pos hnil] at hother
      rw [hother, hdependencies]
    · next hnil =>
      rw [if_neg hnil] at hother
      obtain ⟨tree, htree, rfl⟩ := hdependencies
      obtain ⟨tree', htree', rfl⟩ := hother
      rw [htree] at htree'
      cases htree'
      rfl
  constructor
  · rintro ⟨other, module, methods, hother, hdiscover, hnames⟩
    rw [hunique other hother] at hdiscover
    exact ⟨module, methods, hdiscover, hnames⟩
  · rintro ⟨module, methods, hdiscover, hnames⟩
    exact ⟨dependencies, module, methods, hdependencies, hdiscover, hnames⟩

theorem validateArtifactMethods_ok {dependencyPath : Option Path}
    (names : Finset String) (hversion : artifact.codeVersion = version)
    (hpath : artifact.path = codePkgDir env version.digest)
    (hdependencies : Dependencies env version (dependencyPath.map fs.below)) :
    (∃ methods, validateArtifactMethods env fs artifact dependencyPath names =
        .ok methods) ↔
      Loads env (fs.below (codePkgDir env version.digest)) version names := by
  rw [loads_iff hdependencies]
  unfold validateArtifactMethods
  rw [hversion, hpath]
  constructor
  · rintro ⟨methods, hmethods⟩
    split at hmethods
    · cases hmethods
    · next module hdiscover => exact ⟨module, methods, hdiscover, hmethods⟩
  · rintro ⟨module, methods, hdiscover, hnames⟩
    refine ⟨methods, ?_⟩
    rw [hdiscover]
    exact hnames

theorem missingImport_of_error {dependencyPath : Option Path}
    {names : Finset String} {error : DiscoverError} {module : DiscoveredModule}
    (hdiscover : env.discover (fs.below artifact.path)
      (dependencyPath.map fs.below) artifact.codeVersion = .ok module)
    (herror : validateArtifactMethods env fs artifact dependencyPath names =
      .error error) : error.missingImport = false := by
  unfold validateArtifactMethods at herror
  rw [hdiscover] at herror
  unfold validateManagedGlobalNames at herror
  dsimp only at herror
  split at herror
  · cases herror
  · cases herror
    rfl

theorem installDependencies_some {path : Path} {tree fs' : FileSystem}
    (hinstalled : installDependencies fs path (some tree) = some fs') :
    fs'.below path = installedTree tree ∧ AgreeOff path fs fs' := by
  unfold installDependencies at hinstalled
  cases hinstalled
  have hplaced := FileTree.agreeOff_place path [] (Node.directory 0)
    (fs.graft path tree)
  have hbelow : ((fs.graft path tree).place (path ++ [])
      (.directory 0)).below path = installedTree tree := by
    rw [FileTree.below_place, FileTree.below_graft]
    rfl
  rw [List.append_nil] at hplaced hbelow
  exact ⟨hbelow, (FileTree.agreeOff_graft path tree fs).trans hplaced⟩

theorem dependencyDir_below_variant :
    codeVariantDir env version <+: codeDependencyDir env version :=
  List.prefix_append _ _

theorem agreeOff_writeCodeMeta (hversion : artifact.codeVersion = version) :
    AgreeOff (codeVariantDir env version) fs (writeCodeMeta env fs artifact) := by
  have hself := FileTree.agreeOff_place (codeVariantDir env version) []
    (Node.directory 0) fs
  rw [List.append_nil] at hself
  unfold writeCodeMeta codeMetaPath
  rw [hversion]
  exact hself.trans (FileTree.agreeOff_place _ _ _ _)

/-- What `_ensure_artifact_ready` starts from. -/
structure Preparable (env : Environment) (version : CodeVersion)
    (prep : Preparation) : Prop where
  normal : version.Normal
  registered : Registered env prep.store.fs version prep.artifact
  cache : CacheSound env
    (prep.store.fs.below (codePkgDir env version.digest)) version.digest
    prep.store.artifactMethodCache

structure Readied (env : Environment) (version : CodeVersion)
    (names : Finset String) (prep : Preparation)
    (outcome : Preparation × Except UploadError (List String)) : Prop where
  off : AgreeOff (codeVariantDir env version) prep.store.fs outcome.1.store.fs
  codes : outcome.1.store.codes = prep.store.codes
  registered : Registered env outcome.1.store.fs version outcome.1.artifact
  cache : CacheSound env
    (prep.store.fs.below (codePkgDir env version.digest)) version.digest
    outcome.1.store.artifactMethodCache
  answer : (∃ methods, outcome.2 = .ok methods) ↔
    Loads env (prep.store.fs.below (codePkgDir env version.digest)) version names

theorem code_of_agreeOff (hagree : AgreeOff (codeVariantDir env version) fs fs') :
    fs'.below (codePkgDir env version.digest) =
      fs.below (codePkgDir env version.digest) :=
  hagree.below_eq codePkgDir_beside_variant

theorem Registered.of_none (hregistered : Registered env fs version artifact)
    (hnone : artifact.dependencyPath = none) :
    Registered env fs' version artifact :=
  ⟨hregistered.codeVersion, hregistered.path, hregistered.policyMode,
    hregistered.allowlist, .inl hnone⟩

theorem CacheSound.set {code : FileSystem} {digest : Digest}
    {cache : OrderedDict MethodCacheKey (List String)} {key : MethodCacheKey}
    {methods : List String} (hsound : CacheSound env code digest cache)
    (hloads : Loads env code key.codeVersion key.managedGlobalNames) :
    CacheSound env code digest (cache.set key methods) := by
  intro other hdigest hmem
  rw [OrderedDict.mem_set] at hmem
  cases hmem with
  | inl heq =>
    rw [heq]
    exact hloads
  | inr hold => exact hsound other hdigest hold

theorem installed_tree
    (hinstalled : installDependencies prep.store.fs
      (codeDependencyDir env version) (env.packages
        (prep.artifact.plan env version).effectiveAllowlist) = some fs) :
    ∃ tree, env.packages version.requirements = some tree ∧
      fs.below (codeDependencyDir env version) = installedTree tree ∧
      AgreeOff (codeVariantDir env version) prep.store.fs fs := by
  rw [show (prep.artifact.plan env version).effectiveAllowlist =
    version.requirements from rfl] at hinstalled
  cases hpackages : env.packages version.requirements with
  | none =>
    rw [hpackages] at hinstalled
    cases hinstalled
  | some tree =>
    rw [hpackages] at hinstalled
    obtain ⟨hbelow, hagree⟩ := installDependencies_some hinstalled
    exact ⟨tree, rfl, hbelow, hagree.mono dependencyDir_below_variant⟩

theorem repairArtifact_readied {codeRequest : CodeRequest}
    (hprep : Preparable env version prep)
    (hrequired : version.requirements ≠ [])
    (hnone : prep.artifact.dependencyPath = none)
    (hfails : ¬Loads env
      (prep.store.fs.below (codePkgDir env version.digest)) version
      codeRequest.managedGlobalNames) :
    Readied env version codeRequest.managedGlobalNames prep
      (repairArtifact env prep (codeRequest.readyRequest version)
        (prep.artifact.plan env version)) := by
  have hregistered := hprep.registered
  have hremoved : ∀ {fs : FileSystem} {error : UploadError},
      AgreeOff (codeVariantDir env version) prep.store.fs fs →
      Readied env version codeRequest.managedGlobalNames prep
        ({ prep with store := { prep.store with
            fs := fs.prune (codeDependencyDir env version) } },
          .error error) := by
    intro fs error hagree
    constructor
    · apply hagree.trans
      exact (FileTree.agreeOff_prune _ fs).mono dependencyDir_below_variant
    · rfl
    · exact hregistered.of_none hnone
    · exact hprep.cache
    · constructor
      · rintro ⟨methods, hmethods⟩
        cases hmethods
      · intro hloads
        exact absurd hloads hfails
  unfold repairArtifact
  rw [hregistered.codeVersion]
  dsimp only
  split
  · exact hremoved (.refl _ _)
  · next fs hinstalled =>
    obtain ⟨tree, htree, hbelow, hagree⟩ := installed_tree hinstalled
    have hdependencies : Dependencies env version
        ((some (codeDependencyDir env version)).map fs.below) := by
      unfold Dependencies
      rw [if_neg hrequired]
      exact ⟨tree, htree, congrArg some hbelow⟩
    split
    · exact hremoved hagree
    · next methods hmethods =>
      have hloads := (validateArtifactMethods_ok _ hregistered.codeVersion
        hregistered.path hdependencies).mp ⟨methods, hmethods⟩
      rw [code_of_agreeOff hagree] at hloads
      exact absurd hloads hfails

theorem Registered.dependencyPath_eq_none
    (hregistered : Registered env fs version artifact)
    (hnil : version.requirements = []) : artifact.dependencyPath = none := by
  cases hregistered.dependencies with
  | inl hnone => exact hnone
  | inr hsome => exact absurd hnil hsome.1

theorem settle_registered {names : Finset String} {methods : List String}
    (hprep : Preparable env version prep)
    (hdependencies : Dependencies env version
      ((prep.artifact.plan env version).candidatePath.map prep.store.fs.below))
    (hmethods : validateArtifactMethods env prep.store.fs prep.artifact
      (prep.artifact.plan env version).candidatePath names = .ok methods) :
    Registered env prep.store.fs version
      (prep.artifact.settle (prep.artifact.plan env version)) := by
  have hregistered := hprep.registered
  unfold CodeArtifact.settle
  by_cases hnil : version.requirements = []
  · have hnone := hregistered.dependencyPath_eq_none hnil
    simp only [CodeArtifact.plan, hnil, hnone, ne_eq, not_true_eq_false,
      false_and, if_false, Option.isSome_none, Bool.false_eq_true]
    exact ⟨hregistered.codeVersion, hregistered.path, rfl,
      hregistered.allowlist, .inl rfl⟩
  · have hcandidate : (prep.artifact.plan env version).candidatePath =
        some (codeDependencyDir env version) := if_neg hnil
    rw [hcandidate] at hdependencies hmethods
    have hknown : (prep.artifact.plan env version).effectiveAllowlist ≠ [] ∧
        (prep.artifact.plan env version).candidatePath.isSome = true := by
      rw [hcandidate]
      exact ⟨hnil, rfl⟩
    dsimp only
    rw [if_pos hknown]
    unfold Dependencies at hdependencies
    rw [if_neg hnil] at hdependencies
    obtain ⟨tree, htree, hbelow⟩ := hdependencies
    obtain ⟨module, hmodule⟩ : ∃ module, env.discover
        (prep.store.fs.below (codePkgDir env version.digest))
          (some (installedTree tree)) version = .ok module := by
      unfold validateArtifactMethods at hmethods
      rw [hregistered.codeVersion, hregistered.path, hbelow] at hmethods
      split at hmethods
      · cases hmethods
      · next module hdiscover => exact ⟨module, hdiscover⟩
    refine ⟨hregistered.codeVersion, hregistered.path, rfl, ?_, .inr ⟨hnil,
      hcandidate, tree, module, htree, ?_, hmodule⟩⟩
    · exact requirements_allowlist hnil
    · exact Option.some.inj hbelow

theorem validateArtifact_readied (codeRequest : CodeRequest)
    (hprep : Preparable env version prep)
    (hdependencies : Dependencies env version
      ((prep.artifact.plan env version).candidatePath.map
        prep.store.fs.below)) :
    Readied env version codeRequest.managedGlobalNames prep
      (validateArtifact env prep (codeRequest.readyRequest version)
        (prep.artifact.plan env version)) := by
  have hregistered := hprep.registered
  have hanswer := validateArtifactMethods_ok codeRequest.managedGlobalNames
    hregistered.codeVersion hregistered.path hdependencies
  unfold validateArtifact
  split
  · next methods hcached =>
    constructor
    · exact .refl _ _
    · rfl
    · exact hregistered
    · exact hprep.cache
    · constructor
      · intro _
        have hmem : (prep.artifact.plan env version).cacheKey prep.artifact
            (codeRequest.readyRequest version)
            (prep.artifact.plan env version).candidatePath ∈
              prep.store.artifactMethodCache := by
          apply AList.lookup_isSome.mp
          rw [hcached]
          rfl
        have hloads := hprep.cache _ (congrArg CodeVersion.digest
          hregistered.codeVersion) hmem
        rw [show CodeVersion.digest _ = _ from rfl] at hloads
        unfold ReadyPlan.cacheKey at hloads
        rw [hregistered.codeVersion] at hloads
        exact hloads
      · intro _
        exact ⟨methods, rfl⟩
  · split
    · next methods hmethods =>
      have hsettled := settle_registered hprep hdependencies hmethods
      have hloads := hanswer.mp ⟨methods, hmethods⟩
      have hversion := hsettled.codeVersion
      constructor
      · dsimp only
        split
        · exact agreeOff_writeCodeMeta hversion
        · exact .refl _ _
      · rfl
      · dsimp only
        split
        · apply hsettled.of_sameCode
          exact sameCode_writeCodeMeta
        · exact hsettled
      · apply hprep.cache.set
        unfold ReadyPlan.cacheKey
        rw [hversion]
        exact hloads
      · exact ⟨fun _ => hloads, fun _ => ⟨methods, rfl⟩⟩
    · next error herror =>
      have hfails : ¬Loads env
          (prep.store.fs.below (codePkgDir env version.digest)) version
            codeRequest.managedGlobalNames := by
        intro hloads
        obtain ⟨methods, hmethods⟩ := hanswer.mpr hloads
        rw [show (codeRequest.readyRequest version).managedGlobalNames =
          codeRequest.managedGlobalNames from rfl, hmethods] at herror
        cases herror
      split
      · next hrepair =>
        obtain ⟨hrequired, hmissing⟩ := hrepair
        apply repairArtifact_readied hprep hrequired _ hfails
        cases hregistered.dependencies with
        | inl hnone => exact hnone
        | inr hsome =>
          -- the entry module has loaded with these dependencies before
          obtain ⟨-, hpath, tree, module, -, hbelow, hdiscover⟩ := hsome
          have hcandidate : (prep.artifact.plan env version).candidatePath =
              some (codeDependencyDir env version) := if_neg hrequired
          have hloaded : env.discover
              (prep.store.fs.below prep.artifact.path)
              ((prep.artifact.plan env version).candidatePath.map
                prep.store.fs.below) prep.artifact.codeVersion =
                  .ok module := by
            rw [hcandidate, hregistered.path, hregistered.codeVersion]
            show env.discover _ (some (prep.store.fs.below _)) version = _
            rw [hbelow]
            exact hdiscover
          rw [missingImport_of_error hloaded herror] at hmissing
          cases hmissing
      · constructor
        · dsimp only
          split
          · rw [hregistered.codeVersion]
            exact (FileTree.agreeOff_prune _ _).mono dependencyDir_below_variant
          · exact .refl _ _
        · rfl
        · dsimp only
          split
          · next hinstall =>
            apply hregistered.of_none
            simp only [CodeArtifact.plan, Bool.and_eq_true,
              decide_eq_true_eq] at hinstall
            exact hinstall.2
          · exact hregistered
        · exact hprep.cache
        · constructor
          · rintro ⟨methods, hmethods⟩
            cases hmethods
          · intro hloads
            exact absurd hloads hfails

theorem ensureArtifactReady_readied (codeRequest : CodeRequest)
    (hprep : Preparable env version prep) :
    Readied env version codeRequest.managedGlobalNames prep
      (ensureArtifactReady env prep (codeRequest.readyRequest version)) := by
  have hregistered := hprep.registered
  unfold ensureArtifactReady
  rw [planReady_registered hprep.normal hregistered]
  dsimp only
  split
  · next hinstall =>
    simp only [CodeArtifact.plan, Bool.and_eq_true, decide_eq_true_eq] at hinstall
    obtain ⟨hrequired, hnone⟩ := hinstall
    rw [hregistered.codeVersion]
    split
    · next hinstalled =>
      have hpackages : env.packages version.requirements = none := by
        rw [show (prep.artifact.plan env version).effectiveAllowlist =
          version.requirements from rfl] at hinstalled
        unfold installDependencies at hinstalled
        simpa using hinstalled
      constructor
      · exact .refl _ _
      · rfl
      · exact hregistered
      · exact hprep.cache
      · constructor
        · rintro ⟨methods, hmethods⟩
          cases hmethods
        · rintro ⟨dependencies, module, methods, hdependencies, -⟩
          unfold Dependencies at hdependencies
          rw [if_neg hrequired] at hdependencies
          obtain ⟨tree, htree, -⟩ := hdependencies
          rw [hpackages] at htree
          cases htree
    · next fs hinstalled =>
      obtain ⟨tree, htree, hbelow, hagree⟩ := installed_tree hinstalled
      have hcode := code_of_agreeOff hagree
      have hnext : Preparable env version
          { prep with store := { prep.store with fs := fs } } := by
        constructor
        · exact hprep.normal
        · exact hregistered.of_none hnone
        · show CacheSound env (fs.below _) _ _
          rw [hcode]
          exact hprep.cache
      have hdone := validateArtifact_readied codeRequest hnext
        (by
          show Dependencies env version
            ((prep.artifact.plan env version).candidatePath.map fs.below)
          rw [show (prep.artifact.plan env version).candidatePath =
            some (codeDependencyDir env version) from if_neg hrequired]
          unfold Dependencies
          rw [if_neg hrequired]
          exact ⟨tree, htree, congrArg some hbelow⟩)
      constructor
      · exact hagree.trans hdone.off
      · exact hdone.codes
      · exact hdone.registered
      · rw [← hcode]
        exact hdone.cache
      · rw [← hcode]
        exact hdone.answer
  · next hinstall =>
    apply validateArtifact_readied codeRequest hprep
    unfold Dependencies
    split
    · next hnil =>
      rw [show (prep.artifact.plan env version).candidatePath = none from
        if_pos hnil]
      rfl
    · next hrequired =>
      rw [show (prep.artifact.plan env version).candidatePath =
        some (codeDependencyDir env version) from if_neg hrequired]
      cases hregistered.dependencies with
      | inl hnone =>
        simp [CodeArtifact.plan, hrequired, hnone] at hinstall
      | inr hsome =>
        obtain ⟨-, -, tree, module, htree, hbelow, -⟩ := hsome
        exact ⟨tree, htree, congrArg some hbelow⟩

end ready

end PycloudParallel.CodeStore
