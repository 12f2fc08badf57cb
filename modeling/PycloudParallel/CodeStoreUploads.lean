import PycloudParallel.CodeStoreReadiness

/-!
# Uploads of one archive

An upload finds the package directory of its content or extracts the archive
into it.  Once it is there no upload changes it, so what an upload is told
depends on its arguments alone, provided that the extraction went through.
-/

namespace PycloudParallel.CodeStore

open OrderedDict

open FileTree (AgreeOff)

def PackageFormat.isArchive : PackageFormat → Bool
  | .zip | .whl | .tarGz => true
  | .py | .bin => false

def AllExtractable (env : Environment) (archive : Archive)
    (formats : Finset PackageFormat) : Prop :=
  ∀ format ∈ formats, format.isArchive = true → archive.Extractable env format

def SameFiles (env : Environment) (archive : Archive)
    (formats : Finset PackageFormat) : Prop :=
  ∀ first ∈ formats, ∀ second ∈ formats, first.isArchive = true →
    second.isArchive = true →
      archive.files env first = archive.files env second

structure Store.FreshFor (env : Environment) (store : Store) (digest : Digest) :
    Prop where
  code : store.fs (codePkgDir env digest) = none
  codes : ∀ version : CodeVersion, version.digest = digest →
    version ∉ store.codes
  cache : ∀ key : MethodCacheKey, key.codeVersion.digest = digest →
    key ∉ store.artifactMethodCache

/-- The package directory has the files of the archive, and what the tables
say of its versions is true of it. -/
structure StoreSound (env : Environment) (archive : Archive)
    (formats : Finset PackageFormat) (store : Store) : Prop where
  files : (store.fs (codePkgDir env archive.digest)).isSome = true →
    ∀ format ∈ formats, format.isArchive = true → ∀ path,
      fileAt (store.fs.below (codePkgDir env archive.digest)) path =
        (archive.files env format path).map .bytes
  registered : ∀ version artifact, version.digest = archive.digest →
    store.codes.lookup version = some artifact →
      (store.fs (codePkgDir env archive.digest)).isSome = true ∧
        version.Normal ∧ Registered env store.fs version artifact
  cached : ∀ key : MethodCacheKey, key.codeVersion.digest = archive.digest →
    key ∈ store.artifactMethodCache →
      (store.fs (codePkgDir env archive.digest)).isSome = true
  cache : CacheSound env (store.fs.below (codePkgDir env archive.digest))
    archive.digest store.artifactMethodCache

section

variable {env : Environment} {archive : Archive}
  {formats : Finset PackageFormat} {store store' : Store}
  {version : CodeVersion} {fs : FileSystem}

theorem StoreSound.of_fresh (hfresh : store.FreshFor env archive.digest) :
    StoreSound env archive formats store := by
  constructor
  · intro hsome
    rw [hfresh.code] at hsome
    cases hsome
  · intro version artifact hdigest hlookup
    refine absurd ?_ (hfresh.codes version hdigest)
    apply AList.lookup_isSome.mp
    rw [hlookup]
    rfl
  · intro key hdigest hmem
    exact absurd hmem (hfresh.cache key hdigest)
  · intro key hdigest hmem
    exact absurd hmem (hfresh.cache key hdigest)

theorem isSome_code {digest : Digest} {fs' : FileSystem}
    (hsame : fs'.below (codePkgDir env digest) = fs.below (codePkgDir env digest)) :
    (fs' (codePkgDir env digest)).isSome =
      (fs (codePkgDir env digest)).isSome := by
  have hroot := congrFun hsame []
  unfold FileTree.below at hroot
  rw [List.append_nil] at hroot
  rw [hroot]

theorem StoreSound.of_variant (hsound : StoreSound env archive formats store)
    (hdigest : version.digest = archive.digest)
    (hpresent : (store.fs (codePkgDir env archive.digest)).isSome = true)
    (hoff : AgreeOff (codeVariantDir env version) store.fs store'.fs)
    (hcache : CacheSound env (store.fs.below (codePkgDir env archive.digest))
      archive.digest store'.artifactMethodCache)
    (hothers : ∀ other, other ≠ version →
      store'.codes.lookup other = store.codes.lookup other)
    (hself : ∀ artifact, store'.codes.lookup version = some artifact →
      version.Normal ∧ Registered env store'.fs version artifact) :
    StoreSound env archive formats store' := by
  have hcode : store'.fs.below (codePkgDir env archive.digest) =
      store.fs.below (codePkgDir env archive.digest) :=
    hoff.below_eq codePkgDir_beside_variant
  have hpresent' : (store'.fs (codePkgDir env archive.digest)).isSome = true := by
    rw [isSome_code hcode]
    exact hpresent
  constructor
  · rw [hcode]
    intro _
    exact hsound.files hpresent
  · intro other artifact hother hlookup
    refine ⟨hpresent', ?_⟩
    by_cases heq : other = version
    · subst heq
      exact hself artifact hlookup
    · rw [hothers other heq] at hlookup
      obtain ⟨-, hnormal, hregistered⟩ :=
        hsound.registered other artifact hother hlookup
      refine ⟨hnormal, hregistered.of_agreeOff (Ne.symm heq) hoff⟩
  · intro _ _ _
    exact hpresent'
  · rw [hcode]
    exact hcache

theorem storeCode_archive (env : Environment) (archive : Archive)
    (fs : FileSystem)
    (harchive : version.packageFormat.isArchive = true) :
    codeExecPath env version.digest version.packageFormat =
        codePkgDir env version.digest ∧
      storeCode env fs archive version =
        (let fs := storeUpload fs archive
            (codeArchivePath env version.digest version.packageFormat)
        if (fs (codePkgDir env version.digest)).isSome then (fs, .ok ())
        else extractArchive env archive version.packageFormat
          (codePkgDir env version.digest) fs) := by
  unfold storeCode
  cases hformat : version.packageFormat with
  | py | bin =>
    rw [hformat] at harchive
    cases harchive
  | zip | whl | tarGz => exact ⟨rfl, rfl⟩

theorem storeCode_extractable (fs : FileSystem)
    (hdigest : version.digest = archive.digest)
    (harchive : version.packageFormat.isArchive = true)
    (hextractable : archive.Extractable env version.packageFormat) :
    ∃ fs', storeCode env fs archive version = (fs', .ok ()) ∧
      (fs' (codePkgDir env archive.digest)).isSome = true ∧
      (∀ other : CodeVersion, other.digest = archive.digest →
        fs'.below (codeDependencyDir env other) =
          fs.below (codeDependencyDir env other)) ∧
      if (fs (codePkgDir env archive.digest)).isSome then
        fs'.below (codePkgDir env archive.digest) =
          fs.below (codePkgDir env archive.digest)
      else ∀ path, fileAt (fs'.below (codePkgDir env archive.digest)) path =
        (archive.files env version.packageFormat path).map .bytes := by
  rw [(storeCode_archive env archive fs harchive).2, hdigest]
  have hsame := sameCode_storeUpload env fs archive version.packageFormat
  generalize hstored : storeUpload fs archive
    (codeArchivePath env archive.digest version.packageFormat) = stored at hsame
  dsimp only
  rw [isSome_code hsame.code]
  split
  · next hpresent =>
    refine ⟨stored, rfl, ?_, hsame.dependencies, hsame.code⟩
    rw [isSome_code hsame.code]
    exact hpresent
  · have hdone := @extractArchive_extracts env version.packageFormat
      (codePkgDir env archive.digest) stored archive
    obtain ⟨hok, htree⟩ := hdone.ok hextractable
    refine ⟨_, Prod.ext rfl hok, ?_, ?_, ?_⟩
    · exact extractArchive_makes_outDir archive
    · intro other hother
      rw [hdone.off.below_eq dependencyDir_beside_pkg,
        hsame.dependencies other hother]
    · intro path
      rw [htree]
      exact fileAt_extracted archive version.packageFormat path

theorem StoreSound.of_stored (hsound : StoreSound env archive formats store)
    (hsame : SameFiles env archive formats)
    (hmem : version.packageFormat ∈ formats)
    (harchive : version.packageFormat.isArchive = true)
    (hpresent : (fs (codePkgDir env archive.digest)).isSome = true)
    (hdependencies : ∀ other : CodeVersion, other.digest = archive.digest →
      fs.below (codeDependencyDir env other) =
        store.fs.below (codeDependencyDir env other))
    (hcode : if (store.fs (codePkgDir env archive.digest)).isSome then
        fs.below (codePkgDir env archive.digest) =
          store.fs.below (codePkgDir env archive.digest)
      else ∀ path, fileAt (fs.below (codePkgDir env archive.digest)) path =
        (archive.files env version.packageFormat path).map .bytes) :
    StoreSound env archive formats { store with fs := fs } := by
  constructor
  · intro _ format hformat hisArchive path
    split at hcode
    · next hold =>
      show fileAt (fs.below _) path = _
      rw [hcode]
      exact hsound.files hold format hformat hisArchive path
    · rw [hsame format hformat _ hmem hisArchive harchive]
      exact hcode path
  · intro other artifact hother hlookup
    obtain ⟨hold, hnormal, hregistered⟩ :=
      hsound.registered other artifact hother hlookup
    rw [if_pos hold] at hcode
    refine ⟨hpresent, hnormal, hregistered.of_sameCode ⟨?_, ?_⟩⟩
    · rw [hother]
      exact hcode
    · intro version hversion
      exact hdependencies version (hversion.trans hother)
  · intro _ _ _
    exact hpresent
  · intro key hkey hcached
    have hold := hsound.cached key hkey hcached
    rw [if_pos hold] at hcode
    show Loads env (fs.below _) _ _
    rw [hcode]
    exact hsound.cache key hkey hcached

structure Uploaded (env : Environment) (archive : Archive)
    (formats : Finset PackageFormat) (store : Store) (request : CodeRequest)
    (version : CodeVersion)
    (outcome : Store × Except UploadError (CodeArtifact × Bool)) : Prop where
  sound : StoreSound env archive formats outcome.1
  present : (outcome.1.fs (codePkgDir env archive.digest)).isSome = true
  kept : (store.fs (codePkgDir env archive.digest)).isSome = true →
    outcome.1.fs.below (codePkgDir env archive.digest) =
      store.fs.below (codePkgDir env archive.digest)
  path : ∀ artifact cached, outcome.2 = .ok (artifact, cached) →
    artifact.path = codePkgDir env archive.digest
  answer : (∃ result, outcome.2 = .ok result) ↔
    (request.validateLoad = true →
      Loads env (outcome.1.fs.below (codePkgDir env archive.digest)) version
        request.managedGlobalNames)

variable {request : CodeRequest}

section

variable (hsound : StoreSound env archive formats store)

include hsound

theorem reuseCode_uploaded {existing : CodeArtifact}
    (hdigest : version.digest = archive.digest)
    (hexisting : store.codes.lookup version = some existing) :
    Uploaded env archive formats store request version
      (reuseCode env store existing request version) := by
  obtain ⟨hpresent, hnormal, hregistered⟩ :=
    hsound.registered version existing hdigest hexisting
  unfold reuseCode
  split
  · next hvalidate =>
    have hprep : Preparable env version ⟨store, existing⟩ := by
      constructor
      · exact hnormal
      · exact hregistered
      · show CacheSound env (store.fs.below _) _ _
        rw [hdigest]
        exact hsound.cache
    have hready := ensureArtifactReady_readied request hprep
    generalize ensureArtifactReady env ⟨store, existing⟩
      (request.readyRequest version) = ensured at hready
    obtain ⟨⟨ready, artifact⟩, result⟩ := ensured
    obtain ⟨hoff, hcodes, hregistered', hcache, hanswer⟩ := hready
    dsimp only at hoff hcodes hregistered' hcache hanswer
    rw [hdigest] at hcache hanswer
    have hpath := hregistered'.path
    rw [hdigest] at hpath
    have hcode : ready.fs.below (codePkgDir env archive.digest) =
        store.fs.below (codePkgDir env archive.digest) :=
      hoff.below_eq codePkgDir_beside_variant
    have hpresent' : (ready.fs (codePkgDir env archive.digest)).isSome = true :=
      (isSome_code hcode).trans hpresent
    have hnext : StoreSound env archive formats
        { ready with codes := ready.codes.set version artifact } := by
      refine hsound.of_variant hdigest hpresent hoff hcache ?_ ?_
      · intro other hne
        show (OrderedDict.set _ _ _).lookup other = _
        rw [lookup_set_ne _ _ hne, hcodes]
      · intro found hlookup
        have hfound : (ready.codes.set version artifact).lookup version =
            some found := hlookup
        rw [lookup_set_self] at hfound
        cases hfound
        exact ⟨hnormal, hregistered'⟩
    cases result with
    | error error =>
      constructor
      · exact hnext
      · exact hpresent'
      · exact fun _ => hcode
      · intro artifact cached hresult
        cases hresult
      · constructor
        · rintro ⟨result, hresult⟩
          cases hresult
        · intro hloads
          have hloads := hloads hvalidate
          rw [show ready.fs.below _ = _ from hcode] at hloads
          obtain ⟨methods, hmethods⟩ := hanswer.mpr hloads
          cases hmethods
    | ok methods =>
      constructor
      · exact hnext
      · exact hpresent'
      · exact fun _ => hcode
      · intro artifact cached hresult
        cases hresult
        exact hpath
      · constructor
        · intro _ _
          rw [show ready.fs.below _ = _ from hcode]
          exact hanswer.mp ⟨methods, rfl⟩
        · intro _
          exact ⟨_, rfl⟩
  · next hvalidate =>
    constructor
    · exact hsound
    · exact hpresent
    · exact fun _ => rfl
    · intro artifact cached hresult
      cases hresult
      rw [← hdigest]
      exact hregistered.path
    · constructor
      · intro _ htrue
        exact absurd htrue hvalidate
      · intro _
        exact ⟨_, rfl⟩

theorem StoreSound.storeNewCode (hdigest : version.digest = archive.digest)
    (hmem : version.packageFormat ∈ formats)
    (harchive : version.packageFormat.isArchive = true)
    (hextractable : AllExtractable env archive formats)
    (hsame : SameFiles env archive formats) :
    ∃ fs, storeCode env (makeCodeDirs env store.fs version) archive version =
        (fs, .ok ()) ∧
      StoreSound env archive formats { store with fs := fs } ∧
      (fs (codePkgDir env archive.digest)).isSome = true ∧
      ((store.fs (codePkgDir env archive.digest)).isSome = true →
        fs.below (codePkgDir env archive.digest) =
          store.fs.below (codePkgDir env archive.digest)) := by
  have hdirs : SameCode env archive.digest store.fs
      (makeCodeDirs env store.fs version) := sameCode_makeCodeDirs
  obtain ⟨fs, hstored, hpresent, hdependencies, hcode⟩ :=
    storeCode_extractable (makeCodeDirs env store.fs version) hdigest harchive
      (hextractable _ hmem harchive)
  rw [isSome_code hdirs.code, hdirs.code] at hcode
  refine ⟨fs, hstored, ?_, hpresent, ?_⟩
  · refine hsound.of_stored hsame hmem harchive hpresent ?_ hcode
    intro other hother
    rw [hdependencies other hother, hdirs.dependencies other hother]
  · intro hold
    rw [if_pos hold] at hcode
    exact hcode

theorem StoreSound.registerArtifact {artifact : CodeArtifact}
    (hdigest : version.digest = archive.digest)
    (hpresent : (store.fs (codePkgDir env archive.digest)).isSome = true)
    (hnormal : version.Normal)
    (hregistered : Registered env store.fs version artifact) :
    StoreSound env archive formats (registerArtifact env store artifact) := by
  have hversion := hregistered.codeVersion
  refine hsound.of_variant hdigest hpresent (agreeOff_writeCodeMeta hversion)
    hsound.cache ?_ ?_
  · intro other hne
    unfold CodeStore.registerArtifact
    rw [hversion, lookup_set_ne _ _ hne]
  · intro found hlookup
    unfold CodeStore.registerArtifact at hlookup
    rw [hversion, lookup_set_self] at hlookup
    cases hlookup
    exact ⟨hnormal, hregistered.of_sameCode sameCode_writeCodeMeta⟩

end

theorem code_registerArtifact (env : Environment) (store : Store)
    (digest : Digest) (artifact : CodeArtifact) :
    (registerArtifact env store artifact).fs.below (codePkgDir env digest) =
      store.fs.below (codePkgDir env digest) :=
  (agreeOff_writeCodeMeta rfl).below_eq codePkgDir_beside_variant

theorem loadNewArtifact_uploaded (request : CodeRequest)
    (hsound : StoreSound env archive formats store)
    (hdigest : version.digest = archive.digest)
    (hpresent : (store.fs (codePkgDir env archive.digest)).isSome = true)
    (hnormal : version.Normal) (habsent : version ∉ store.codes)
    (hregistered : Registered env store.fs version
      (CodeArtifact.ofVersion env version)) :
    let outcome := loadNewArtifact env store
      (CodeArtifact.ofVersion env version) (request.readyRequest version)
    StoreSound env archive formats outcome.1 ∧
      outcome.1.fs.below (codePkgDir env archive.digest) =
        store.fs.below (codePkgDir env archive.digest) ∧
      (∀ artifact, outcome.2 = .ok artifact →
        Registered env outcome.1.fs version artifact) ∧
      ((∃ artifact, outcome.2 = .ok artifact) ↔
        Loads env (store.fs.below (codePkgDir env archive.digest)) version
          request.managedGlobalNames) := by
  have hprep : Preparable env version
      ⟨store, CodeArtifact.ofVersion env version⟩ := by
    constructor
    · exact hnormal
    · exact hregistered
    · show CacheSound env (store.fs.below _) _ _
      rw [hdigest]
      exact hsound.cache
  have hready := ensureArtifactReady_readied request hprep
  unfold loadNewArtifact
  generalize ensureArtifactReady env
    ⟨store, CodeArtifact.ofVersion env version⟩
      (request.readyRequest version) = ensured at hready
  obtain ⟨⟨ready, artifact⟩, result⟩ := ensured
  obtain ⟨hoff, hcodes, hregistered', hcache, hanswer⟩ := hready
  dsimp only at hoff hcodes hregistered' hcache hanswer
  rw [hdigest] at hcache hanswer
  have hlookup : ready.codes.lookup version = none := by
    rw [hcodes]
    exact AList.lookup_eq_none.mpr habsent
  cases result with
  | error error =>
    have hpruned := FileTree.agreeOff_prune
      (codeVariantDir env version) ready.fs
    have hoff' := hoff.trans hpruned
    refine ⟨?_, ?_, ?_, ?_⟩
    · refine hsound.of_variant hdigest hpresent hoff' hcache ?_ ?_
      · intro other hne
        exact congrArg (AList.lookup other) hcodes
      · intro found hfound
        rw [show ready.codes.lookup version = _ from hfound] at hlookup
        cases hlookup
    · exact hoff'.below_eq codePkgDir_beside_variant
    · intro found hfound
      cases hfound
    · constructor
      · rintro ⟨found, hfound⟩
        cases hfound
      · intro hloads
        obtain ⟨methods, hmethods⟩ := hanswer.mpr hloads
        cases hmethods
  | ok methods =>
    refine ⟨?_, ?_, ?_, ?_⟩
    · refine hsound.of_variant hdigest hpresent hoff hcache ?_ ?_
      · intro other hne
        exact congrArg (AList.lookup other) hcodes
      · intro found hfound
        rw [show ready.codes.lookup version = _ from hfound] at hlookup
        cases hlookup
    · exact hoff.below_eq codePkgDir_beside_variant
    · intro found hfound
      cases hfound
      exact hregistered'
    · constructor
      · intro _
        exact hanswer.mp ⟨methods, rfl⟩
      · intro _
        exact ⟨artifact, rfl⟩

theorem putNewCode_uploaded (hsound : StoreSound env archive formats store)
    (hnormal : version.Normal) (hdigest : version.digest = archive.digest)
    (hmem : version.packageFormat ∈ formats)
    (harchive : version.packageFormat.isArchive = true)
    (habsent : version ∉ store.codes)
    (hextractable : AllExtractable env archive formats)
    (hsame : SameFiles env archive formats) :
    Uploaded env archive formats store request version
      (putNewCode env store archive request version) := by
  obtain ⟨fs, hstored, hsound', hpresent, hkept⟩ :=
    hsound.storeNewCode hdigest hmem harchive hextractable hsame
  have hregistered : Registered env fs version
      (CodeArtifact.ofVersion env version) := by
    refine ⟨rfl, ?_, rfl, rfl, .inl rfl⟩
    exact (storeCode_archive env archive fs harchive).1
  unfold putNewCode
  rw [hstored]
  dsimp only
  split
  · next hvalidate =>
    have hloaded := loadNewArtifact_uploaded request hsound' hdigest
      hpresent hnormal habsent hregistered
    dsimp only at hloaded
    generalize loadNewArtifact env { store with fs := fs }
      (CodeArtifact.ofVersion env version) (request.readyRequest version) =
        loaded at hloaded
    obtain ⟨ready, result⟩ := loaded
    obtain ⟨hsound'', hcode, hready, hanswer⟩ := hloaded
    dsimp only at hsound'' hcode hready hanswer
    have hpresent' : (ready.fs (codePkgDir env archive.digest)).isSome = true :=
      (isSome_code hcode).trans hpresent
    cases result with
    | error error =>
      constructor
      · exact hsound''
      · exact hpresent'
      · exact fun hold => hcode.trans (hkept hold)
      · intro artifact cached hresult
        cases hresult
      · constructor
        · rintro ⟨result, hresult⟩
          cases hresult
        · intro hloads
          have hloads := hloads hvalidate
          rw [show ready.fs.below _ = _ from hcode] at hloads
          obtain ⟨artifact, hartifact⟩ := hanswer.mpr hloads
          cases hartifact
    | ok artifact =>
      have hregistered' := hready artifact rfl
      have hmeta := code_registerArtifact env ready archive.digest artifact
      constructor
      · exact hsound''.registerArtifact hdigest hpresent' hnormal hregistered'
      · exact (isSome_code hmeta).trans hpresent'
      · exact fun hold => hmeta.trans (hcode.trans (hkept hold))
      · intro found cached hresult
        cases hresult
        rw [← hdigest]
        exact hregistered'.path
      · constructor
        · intro _ _
          rw [show (CodeStore.registerArtifact env ready artifact).fs.below _ =
            _ from hmeta.trans hcode]
          exact hanswer.mp ⟨artifact, rfl⟩
        · intro _
          exact ⟨_, rfl⟩
  · next hvalidate =>
    have hmeta := code_registerArtifact env { store with fs := fs }
      archive.digest (CodeArtifact.ofVersion env version)
    constructor
    · exact hsound'.registerArtifact hdigest hpresent hnormal hregistered
    · exact (isSome_code hmeta).trans hpresent
    · exact fun hold => hmeta.trans (hkept hold)
    · intro found cached hresult
      cases hresult
      rw [← hdigest]
      exact hregistered.path
    · constructor
      · intro _ htrue
        exact absurd htrue hvalidate
      · intro _
        exact ⟨_, rfl⟩

theorem putCode_uploaded (hsound : StoreSound env archive formats store)
    (hmem : request.packageFormat ∈ formats)
    (harchive : request.packageFormat.isArchive = true)
    (hextractable : AllExtractable env archive formats)
    (hsame : SameFiles env archive formats)
    (hversion : request.codeVersion env archive.digest = .ok version) :
    Uploaded env archive formats store request version
      (putCode env store archive request) := by
  obtain ⟨hnormal, hdigest, hformat⟩ := CodeRequest.codeVersion_ok hversion
  unfold putCode
  rw [hversion]
  dsimp only
  split
  · next existing hexisting => exact reuseCode_uploaded hsound hdigest hexisting
  · next hnone =>
    rw [← hformat] at hmem harchive
    exact putNewCode_uploaded hsound hnormal hdigest hmem harchive
      (AList.lookup_eq_none.mp hnone) hextractable hsame

end

def uploadAll (env : Environment) (archive : Archive) (store : Store)
    (uploads : List CodeRequest) : Store :=
  uploads.foldl (fun store request => (putCode env store archive request).1) store

def IsUpload (formats : Finset PackageFormat) (request : CodeRequest) : Prop :=
  request.packageFormat ∈ formats ∧ request.packageFormat.isArchive = true

/-- Whatever was uploaded before: an artifact that is returned has the files
of the archive, and an upload that raises is not accepted later. -/
def UploadsKept (env : Environment) (archive : Archive)
    (formats : Finset PackageFormat) (store : Store) : Prop :=
  ∀ earlier request, (∀ upload ∈ earlier, IsUpload formats upload) →
    IsUpload formats request →
    let outcome := putCode env (uploadAll env archive store earlier) archive request
    (∀ artifact cached, outcome.2 = .ok (artifact, cached) → ∀ path,
      fileAt (outcome.1.fs.below artifact.path) path =
        (archive.files env request.packageFormat path).map .bytes) ∧
    (∀ error, outcome.2 = .error error → ∀ later,
      (∀ upload ∈ later, IsUpload formats upload) → ∃ error',
        (putCode env (uploadAll env archive outcome.1 later) archive
          request).2 = .error error')

section

variable {env : Environment} {archive : Archive}
  {formats : Finset PackageFormat} {store : Store}

theorem putCode_of_error {request : CodeRequest} {error : UploadError}
    (herror : request.codeVersion env archive.digest = .error error) :
    putCode env store archive request = (store, .error error) := by
  unfold putCode
  rw [herror]

theorem StoreSound.putCode {request : CodeRequest}
    (hsound : StoreSound env archive formats store)
    (hupload : IsUpload formats request)
    (hextractable : AllExtractable env archive formats)
    (hsame : SameFiles env archive formats) :
    StoreSound env archive formats (putCode env store archive request).1 ∧
      ((store.fs (codePkgDir env archive.digest)).isSome = true →
        (CodeStore.putCode env store archive request).1.fs.below
            (codePkgDir env archive.digest) =
          store.fs.below (codePkgDir env archive.digest)) := by
  cases hversion : request.codeVersion env archive.digest with
  | error error =>
    rw [putCode_of_error hversion]
    exact ⟨hsound, fun _ => rfl⟩
  | ok version =>
    have hdone := putCode_uploaded hsound hupload.1 hupload.2 hextractable
      hsame hversion
    exact ⟨hdone.sound, hdone.kept⟩

theorem StoreSound.uploadAll {uploads : List CodeRequest}
    (hsound : StoreSound env archive formats store)
    (huploads : ∀ upload ∈ uploads, IsUpload formats upload)
    (hextractable : AllExtractable env archive formats)
    (hsame : SameFiles env archive formats) :
    StoreSound env archive formats (uploadAll env archive store uploads) ∧
      ((store.fs (codePkgDir env archive.digest)).isSome = true →
        (CodeStore.uploadAll env archive store uploads).fs.below
            (codePkgDir env archive.digest) =
          store.fs.below (codePkgDir env archive.digest)) := by
  induction uploads generalizing store with
  | nil => exact ⟨hsound, fun _ => rfl⟩
  | cons request rest ih =>
    obtain ⟨hnext, hkept⟩ := hsound.putCode
      (huploads request List.mem_cons_self) hextractable hsame
    obtain ⟨hlast, hrest⟩ := ih hnext fun upload hupload =>
      huploads upload (List.mem_cons_of_mem request hupload)
    refine ⟨hlast, ?_⟩
    intro hpresent
    have hfirst := hkept hpresent
    exact (hrest ((isSome_code hfirst).trans hpresent)).trans hfirst

theorem error_of_not_ok {α : Type} {result : Except UploadError α}
    (hnot : ¬∃ value, result = .ok value) : ∃ error, result = .error error := by
  cases result with
  | error error => exact ⟨error, rfl⟩
  | ok value => exact absurd ⟨value, rfl⟩ hnot

theorem uploadsKept_of_extractable (hfresh : store.FreshFor env archive.digest)
    (hextractable : AllExtractable env archive formats)
    (hsame : SameFiles env archive formats) :
    UploadsKept env archive formats store := by
  intro earlier request hearlier hupload
  obtain ⟨hsound, -⟩ := (StoreSound.of_fresh hfresh).uploadAll hearlier
    hextractable hsame
  dsimp only
  generalize CodeStore.uploadAll env archive store earlier = store at hsound
  cases hversion : request.codeVersion env archive.digest with
  | error error =>
    rw [putCode_of_error hversion]
    constructor
    · intro artifact cached hresult
      cases hresult
    · intro _ _ later _
      rw [putCode_of_error hversion]
      exact ⟨error, rfl⟩
  | ok version =>
    have hdone := putCode_uploaded hsound hupload.1 hupload.2 hextractable
      hsame hversion
    constructor
    · intro artifact cached hresult path
      rw [hdone.path artifact cached hresult]
      exact hdone.sound.files hdone.present _ hupload.1 hupload.2 path
    · intro error hresult later hlater
      obtain ⟨hsound', hkept⟩ := hdone.sound.uploadAll hlater hextractable hsame
      have hcode := hkept hdone.present
      have hagain := putCode_uploaded hsound' hupload.1 hupload.2 hextractable
        hsame hversion
      have hcode' := hagain.kept ((isSome_code hcode).trans hdone.present)
      apply error_of_not_ok
      intro hok
      have hloads := hagain.answer.mp hok
      rw [hcode', hcode] at hloads
      obtain ⟨result, hresult'⟩ := hdone.answer.mpr hloads
      rw [hresult] at hresult'
      cases hresult'

end

def Store.empty : Store where
  fs := fun _ => none
  codes := ∅
  artifactMethodCache := ∅

theorem Store.freshFor_empty (env : Environment) (digest : Digest) :
    Store.empty.FreshFor env digest := by
  constructor
  · rfl
  · intro version _ hmem
    cases hmem
  · intro key _ hmem
    cases hmem

def unloadedUpload (format : PackageFormat) : CodeRequest where
  sha256 := ""
  runtime := ""
  entryModule := "main"
  entryCallable := "run"
  packageFormat := format
  exportMode := none
  exportMethods := []
  dependencyPolicyMode := .unset
  dependencyAllowlist := []
  managedGlobalNames := ∅
  validateLoad := false

section

variable {env : Environment} {archive : Archive}
  {formats : Finset PackageFormat} {store : Store} {format : PackageFormat}

theorem codeVersion_unloadedUpload (env : Environment)
    (hdigest : archive.digest ≠ "") (harchive : format.isArchive = true) :
    ∃ version, (unloadedUpload format).codeVersion env archive.digest =
      .ok version := by
  unfold CodeRequest.codeVersion
  rw [if_neg hdigest]
  cases format with
  | py | bin => cases harchive
  | zip | whl | tarGz => exact ⟨_, rfl⟩

theorem putNewCode_present (store : Store) (request : CodeRequest)
    {version : CodeVersion} (hdigest : version.digest = archive.digest)
    (harchive : version.packageFormat.isArchive = true)
    (hunloaded : request.validateLoad = false)
    (hpresent : (store.fs (codePkgDir env archive.digest)).isSome = true) :
    ∃ store' artifact,
      putNewCode env store archive request version =
        (store', .ok (artifact, false)) ∧
      artifact.path = codePkgDir env archive.digest ∧
      store'.fs.below (codePkgDir env archive.digest) =
        store.fs.below (codePkgDir env archive.digest) := by
  have hdirs : SameCode env archive.digest store.fs
      (makeCodeDirs env store.fs version) := sameCode_makeCodeDirs
  have hstored := sameCode_storeUpload env (makeCodeDirs env store.fs version)
    archive version.packageFormat
  obtain ⟨hexec, hcode⟩ := storeCode_archive env archive
    (makeCodeDirs env store.fs version) harchive
  rw [hdigest] at hcode hexec
  unfold putNewCode
  rw [hcode]
  dsimp only
  rw [isSome_code hstored.code, isSome_code hdirs.code, if_pos hpresent]
  dsimp only
  rw [hunloaded, if_neg Bool.false_ne_true]
  refine ⟨_, _, rfl, ?_, ?_⟩
  · show codeExecPath env version.digest version.packageFormat = _
    rw [hdigest]
    exact hexec
  · rw [code_registerArtifact]
    exact hstored.code.trans hdirs.code

theorem putCode_new {request : CodeRequest} {version : CodeVersion}
    (hversion : request.codeVersion env archive.digest = .ok version)
    (habsent : store.codes.lookup version = none) :
    putCode env store archive request =
      putNewCode env store archive request version := by
  unfold putCode
  rw [hversion]
  dsimp only
  rw [habsent]

theorem putNewCode_failed (store : Store) (request : CodeRequest)
    {version : CodeVersion}
    (hdigest : version.digest = archive.digest)
    (harchive : version.packageFormat.isArchive = true)
    (hnot : ¬archive.Extractable env version.packageFormat)
    (hnone : store.fs (codePkgDir env archive.digest) = none) :
    ∃ fs error, putNewCode env store archive request version =
        ({ store with fs := fs }, .error error) ∧
      (fs (codePkgDir env archive.digest)).isSome = true := by
  have hdirs : SameCode env archive.digest store.fs
      (makeCodeDirs env store.fs version) := sameCode_makeCodeDirs
  have hstored := sameCode_storeUpload env (makeCodeDirs env store.fs version)
    archive version.packageFormat
  have hcode := (storeCode_archive env archive
    (makeCodeDirs env store.fs version) harchive).2
  rw [hdigest] at hcode
  dsimp only at hcode
  rw [isSome_code hstored.code, isSome_code hdirs.code, hnone,
    if_neg (show ¬(none : Option Node).isSome = true from Bool.false_ne_true)]
    at hcode
  generalize storeUpload (makeCodeDirs env store.fs version) archive
    (codeArchivePath env archive.digest version.packageFormat) = stored at hcode
  have hfailed := (@extractArchive_extracts env version.packageFormat
    (codePkgDir env archive.digest) stored archive).failed hnot
  have houtDir := @extractArchive_makes_outDir env version.packageFormat
    (codePkgDir env archive.digest) stored archive
  generalize extractArchive env archive version.packageFormat
    (codePkgDir env archive.digest) stored = extracted at hfailed houtDir hcode
  obtain ⟨fs, result⟩ := extracted
  obtain ⟨error, rfl⟩ := hfailed
  refine ⟨fs, error, ?_, houtDir⟩
  unfold putNewCode
  rw [hcode]

theorem extractable_of_kept (hdigest : archive.digest ≠ "")
    (hkept : UploadsKept env archive formats Store.empty)
    (hmem : format ∈ formats) (harchive : format.isArchive = true) :
    archive.Extractable env format := by
  by_contra hnot
  obtain ⟨version, hversion⟩ := codeVersion_unloadedUpload env hdigest harchive
  obtain ⟨-, hversionDigest, hformat⟩ := CodeRequest.codeVersion_ok hversion
  have hversionArchive : version.packageFormat.isArchive = true := by
    rw [hformat]
    exact harchive
  obtain ⟨fs, error, hfailed, hpresent⟩ := putNewCode_failed
    Store.empty (unloadedUpload format) hversionDigest
      hversionArchive (by rw [hformat]; exact hnot) rfl
  have hfirst : putCode env Store.empty archive (unloadedUpload format) =
      ({ Store.empty with fs := fs }, .error error) := by
    rw [putCode_new hversion rfl]
    exact hfailed
  have hstays : ∀ error', (putCode env Store.empty archive
      (unloadedUpload format)).2 = .error error' → ∀ later,
        (∀ upload ∈ later, IsUpload formats upload) → ∃ error',
          (putCode env (uploadAll env archive (putCode env Store.empty archive
            (unloadedUpload format)).1 later) archive
              (unloadedUpload format)).2 = .error error' :=
    (hkept [] (unloadedUpload format) (by simp) ⟨hmem, harchive⟩).2
  rw [hfirst] at hstays
  obtain ⟨error', herror'⟩ := hstays error rfl [] (by simp)
  obtain ⟨store', artifact, haccepted, -⟩ := putNewCode_present
    { Store.empty with fs := fs } (unloadedUpload format) hversionDigest
      hversionArchive rfl hpresent
  have hagain : putCode env { Store.empty with fs := fs } archive
      (unloadedUpload format) = (store', .ok (artifact, false)) := by
    rw [putCode_new hversion rfl]
    exact haccepted
  rw [show uploadAll env archive { Store.empty with fs := fs } [] =
    { Store.empty with fs := fs } from rfl, hagain] at herror'
  cases herror'

theorem sameFiles_of_kept (hdigest : archive.digest ≠ "")
    (hkept : UploadsKept env archive formats Store.empty) :
    SameFiles env archive formats := by
  intro first hfirst second hsecond hfirstArchive hsecondArchive
  by_cases heq : first = second
  · rw [heq]
  have honly : AllExtractable env archive {first} := by
    intro format hformat harchive
    rw [Finset.mem_singleton] at hformat
    rw [hformat]
    exact extractable_of_kept hdigest hkept hfirst hfirstArchive
  have hsame : SameFiles env archive {first} := by
    intro one hone two htwo _ _
    rw [Finset.mem_singleton] at hone htwo
    rw [hone, htwo]
  obtain ⟨version, hversion⟩ :=
    codeVersion_unloadedUpload env hdigest hfirstArchive
  obtain ⟨version', hversion'⟩ :=
    codeVersion_unloadedUpload env hdigest hsecondArchive
  obtain ⟨-, hversionDigest, hformat⟩ := CodeRequest.codeVersion_ok hversion'
  have hdone := putCode_uploaded (StoreSound.of_fresh
    (Store.freshFor_empty env archive.digest)) (Finset.mem_singleton_self first)
      hfirstArchive honly hsame hversion
  have hfiles := hdone.sound.files hdone.present first
    (Finset.mem_singleton_self first) hfirstArchive
  obtain ⟨store', artifact, cached, hagain, hpath, hcode⟩ :
      ∃ store' artifact cached,
        putCode env (putCode env Store.empty archive
          (unloadedUpload first)).1 archive (unloadedUpload second) =
            (store', .ok (artifact, cached)) ∧
        artifact.path = codePkgDir env archive.digest ∧
        store'.fs.below (codePkgDir env archive.digest) =
          (putCode env Store.empty archive
            (unloadedUpload first)).1.fs.below
              (codePkgDir env archive.digest) := by
    cases hlookup : (putCode env Store.empty archive
        (unloadedUpload first)).1.codes.lookup version' with
    | none =>
      rw [putCode_new hversion' hlookup]
      obtain ⟨store', artifact, haccepted, hpath, hcode⟩ :=
        putNewCode_present _ (unloadedUpload second) hversionDigest
          (by rw [hformat]; exact hsecondArchive) rfl hdone.present
      exact ⟨store', artifact, false, haccepted, hpath, hcode⟩
    | some existing =>
      obtain ⟨-, -, hregistered⟩ :=
        hdone.sound.registered version' existing hversionDigest hlookup
      refine ⟨_, existing, true, ?_, ?_, rfl⟩
      · unfold putCode
        rw [hversion']
        dsimp only
        rw [show AList.lookup version' _ = some existing from hlookup]
        rfl
      · rw [← hversionDigest]
        exact hregistered.path
  obtain ⟨hwhole, -⟩ := hkept [unloadedUpload first] (unloadedUpload second)
    (by
      intro upload hupload
      rw [List.mem_singleton] at hupload
      rw [hupload]
      exact ⟨hfirst, hfirstArchive⟩)
    ⟨hsecond, hsecondArchive⟩
  have hwhole : ∀ artifact cached, (putCode env (putCode env Store.empty
      archive (unloadedUpload first)).1 archive (unloadedUpload second)).2 =
        .ok (artifact, cached) → ∀ path, fileAt ((putCode env (putCode env
          Store.empty archive (unloadedUpload first)).1 archive
            (unloadedUpload second)).1.fs.below artifact.path) path =
              (archive.files env second path).map .bytes := hwhole
  rw [hagain] at hwhole
  funext path
  have hpathFiles := hwhole artifact cached rfl path
  rw [hpath, show store'.fs.below _ = _ from hcode, hfiles path] at hpathFiles
  exact Option.map_injective (fun _ _ h => by cases h; rfl) hpathFiles

end

section runs

def plainEnvironment : Environment where
  artifactDir := [.name "code_cache"]
  supportsRuntime := fun _ => true
  linkTarget := fun _ => none
  refuses := fun _ _ => false
  packages := fun _ => none
  discover := fun _ _ _ => .error { message := "", missingImport := false }

def escapingArchive : Archive where
  digest := "d1"
  zipEntries := some [
    { name := ⟨false, ["main.py"]⟩, kind := .file, mode := 0
      body := .whole [1] },
    { name := ⟨false, ["..", "evil.py"]⟩, kind := .file, mode := 0
      body := .whole [2] }]
  tarEntries := none

end runs

end PycloudParallel.CodeStore
