import PycloudParallel.CodeCreatesInvariant

/-!
# Uploads of the creates that share code

What a change of the files leaves of a version, how a create turns from phase
to phase, and that the sections of `put_code` keep the store sound for all
creates.
-/

namespace PycloudParallel.CodeStore

open OrderedDict

open FileTree (AgreeOff)

section files

variable {env : Environment} {fs fs' fs'' : FileSystem}
  {version other : CodeVersion} {digest : Digest}

structure Keeps (env : Environment) (version : CodeVersion)
    (fs fs' : FileSystem) : Prop where
  variant : (fs (codeVariantDir env version)).isSome = true →
    (fs' (codeVariantDir env version)).isSome = true
  dependencies : fs'.below (codeDependencyDir env version) =
    fs.below (codeDependencyDir env version)

theorem Keeps.refl : Keeps env version fs fs :=
  ⟨fun hsome => hsome, rfl⟩

theorem Keeps.trans (hfirst : Keeps env version fs fs')
    (hsecond : Keeps env version fs' fs'') : Keeps env version fs fs'' :=
  ⟨fun hsome => hsecond.variant (hfirst.variant hsome),
    hsecond.dependencies.trans hfirst.dependencies⟩

theorem isSome_of_below_eq {path : Path} (hbelow : fs'.below path = fs.below path) :
    (fs' path).isSome = (fs path).isSome := by
  have hroot := congrFun hbelow []
  unfold FileTree.below at hroot
  rw [List.append_nil] at hroot
  rw [hroot]

theorem Keeps.present (hkeeps : Keeps env version fs fs')
    (hsome : (fs (codeDependencyDir env version)).isSome = true) :
    (fs' (codeDependencyDir env version)).isSome = true := by
  rw [isSome_of_below_eq hkeeps.dependencies]
  exact hsome

theorem variantDir_beside_variant (hne : version ≠ other) (path : Path) :
    ¬codeVariantDir env version <+: codeVariantDir env other ++ path := by
  simp [codeVariantDir, codeContentDir, List.append_assoc,
    List.prefix_append_right_inj, List.cons_prefix_cons, hne]

theorem variantDir_beside_dependencies :
    ¬codeDependencyDir env version <+: codeVariantDir env other := by
  simp [codeVariantDir, codeDependencyDir, codeContentDir, List.append_assoc,
    List.prefix_append_right_inj, List.cons_prefix_cons]

theorem variantDir_beside_pkg (path : Path) :
    ¬codePkgDir env digest <+: codeVariantDir env version ++ path := by
  simp [codeVariantDir, codePkgDir, codeContentDir, List.append_assoc,
    List.prefix_append_right_inj, List.cons_prefix_cons]

theorem keeps_place {path : Path} {node : Node}
    (hrecord : IsRecord env other path) :
    Keeps env version fs (fs.place path node) :=
  ⟨grows_place node _, FileTree.below_place_beside hrecord.beside_dependencies⟩

theorem keeps_writeCodeMeta {artifact : CodeArtifact} :
    Keeps env version fs (writeCodeMeta env fs artifact) := by
  have hvariant : IsRecord env artifact.codeVersion
      (codeVariantDir env artifact.codeVersion) := .inr (.inr (.inl rfl))
  have hmeta : IsRecord env artifact.codeVersion
      (codeMetaPath env artifact.codeVersion) :=
    .inr (.inr (.inr (.inr (.inl rfl))))
  exact (keeps_place hvariant).trans (keeps_place hmeta)

theorem variant_writeCodeMeta (artifact : CodeArtifact) :
    (writeCodeMeta env fs artifact
      (codeVariantDir env artifact.codeVersion)).isSome = true := by
  apply grows_place
  rw [FileTree.place_self]
  rfl

theorem keeps_makeCodeDirs :
    Keeps env version fs (makeCodeDirs env fs other) := by
  have hmake : ∀ {fs : FileSystem} {path : Path}, IsRecord env other path →
      Keeps env version fs
        (if (fs path).isSome then fs else fs.place path (.directory 0)) := by
    intro fs path hrecord
    split
    · exact .refl
    · exact keeps_place hrecord
  unfold makeCodeDirs
  apply Keeps.trans
  · apply Keeps.trans
    · apply Keeps.trans
      · exact hmake (.inl rfl)
      · exact hmake (.inr (.inl rfl))
    · exact hmake (.inr (.inr (.inl rfl)))
  · exact hmake (.inr (.inr (.inr (.inl rfl))))

theorem keeps_of_pkg (hagree : AgreeOff (codePkgDir env digest) fs fs') :
    Keeps env version fs fs' := by
  constructor
  · intro hsome
    rw [hagree]
    · exact hsome
    · have hbeside := @variantDir_beside_pkg env version digest []
      rw [List.append_nil] at hbeside
      exact hbeside
  · exact hagree.below_eq dependencyDir_beside_pkg

theorem keeps_storeUpload (archive : Archive) (format : PackageFormat) :
    Keeps env version fs
      (storeUpload fs archive (codeArchivePath env other.digest format)) := by
  unfold storeUpload
  split
  · exact .refl
  · exact keeps_place (.inr (.inr (.inr (.inr (.inr ⟨format, rfl⟩)))))

theorem keeps_storeModule (archive : Archive) :
    Keeps env version fs
      (let pkg := codePkgDir env digest
      let fs := if (fs pkg).isSome then fs else fs.place pkg (.directory 0)
      storeUpload fs archive (codeExecPath env digest .py)) := by
  have hupload : ∀ fs : FileSystem, AgreeOff (codePkgDir env digest) fs
      (storeUpload fs archive (codeExecPath env digest .py)) := by
    intro fs
    unfold storeUpload
    split
    · exact .refl _ _
    · exact FileTree.agreeOff_place _ _ _ _
  have hmake : AgreeOff (codePkgDir env digest) fs
      (if (fs (codePkgDir env digest)).isSome then fs
        else fs.place (codePkgDir env digest) (.directory 0)) := by
    split
    · exact .refl _ _
    · have hplace := FileTree.agreeOff_place (codePkgDir env digest) []
        (Node.directory 0) fs
      rw [List.append_nil] at hplace
      exact hplace
  exact keeps_of_pkg (hmake.trans (hupload _))

theorem keeps_storeCode (archive : Archive) :
    Keeps env version fs (storeCode env fs archive other).1 := by
  have harchive : ∀ format, Keeps env version fs
      (let exec := codePkgDir env other.digest
      let fs := storeUpload fs archive (codeArchivePath env other.digest format)
      if (fs exec).isSome then (fs, .ok ())
      else extractArchive env archive format exec fs : FileSystem ×
        Except UploadError Unit).1 := by
    intro format
    dsimp only
    split
    · exact keeps_storeUpload archive format
    · exact (keeps_storeUpload archive format).trans
        (keeps_of_pkg (extractArchive_inside archive))
  unfold storeCode
  cases other.packageFormat with
  | py => exact keeps_storeModule archive
  | zip => exact harchive .zip
  | tarGz => exact harchive .tarGz
  | whl => exact harchive .whl
  | bin => exact harchive .bin

theorem keeps_of_dependencies (hne : version ≠ other)
    (hagree : AgreeOff (codeDependencyDir env other) fs fs') :
    Keeps env version fs fs' := by
  constructor
  · intro hsome
    rw [hagree _ variantDir_beside_dependencies]
    exact hsome
  · have hvariant : AgreeOff (codeVariantDir env other) fs fs' :=
      hagree.mono dependencyDir_below_variant
    exact hvariant.below_eq (dependencyDir_beside_variant hne.symm)

theorem keeps_of_variant (hne : version ≠ other)
    (hagree : AgreeOff (codeVariantDir env other) fs fs') :
    Keeps env version fs fs' := by
  constructor
  · intro hsome
    have hbeside := @variantDir_beside_variant env other version hne.symm []
    rw [List.append_nil] at hbeside
    rw [hagree _ hbeside]
    exact hsome
  · exact hagree.below_eq (dependencyDir_beside_variant hne.symm)

end files

/-- The sections of `put_code` that come before the artifact is there for
everybody. -/
def CreatePhase.isUpload : CreatePhase → Bool
  | .started | .storing | .stored | .registered => true
  | _ => false

section

variable {env : Environment} {node node' : CodeNode} {create create' : Create}
  {id : CreateId} {fs : FileSystem} {version : CodeVersion}
  {phase : CreatePhase}

theorem Create.live_iff : create.live = true ↔ create.artifact.isSome = true ∧
    (create.running = true ∨ create.phase.usesArtifact = true) := by
  unfold Create.live
  rw [Bool.and_eq_true, Bool.or_eq_true]

theorem Create.isEarly_of_relies (hrelies : create.relies = true) :
    create.phase.isEarly = true := by
  unfold Create.relies at hrelies
  split at hrelies
  · next hphase => rw [hphase]; rfl
  · next hphase => rw [hphase]; rfl
  · next hphase => rw [hphase]; rfl
  · cases hrelies

theorem CreatePhase.holdsLock_of_isUpload (hupload : phase.isUpload = false) :
    phase.holdsLock = false ∧ phase ≠ .registered := by
  cases phase <;> simp_all [CreatePhase.isUpload, CreatePhase.holdsLock]

theorem CreateOk.of_keeps (hok : CreateOk env node create)
    (hsame : SameTables node node')
    (hkeeps : create.live = true → Keeps env create.version node.fs node'.fs) :
    CreateOk env node' create := by
  apply hok.of_sameTables hsame
  · intro hlive
    exact (hkeeps hlive).variant
  · intro hlive _
    exact (hkeeps hlive).present
  · intro hlive _
    exact (hkeeps hlive).dependencies

theorem CreateOk.turn {running : Bool} (hok : CreateOk env node create)
    (hupload : phase.isUpload = false)
    (hearly : phase.isEarly = true →
      create.phase.isEarly = true ∧ running = create.running)
    (hready : running = true ∨ phase = .prepared ∨ phase = .announced →
      create.prepared.isSome = true)
    (hlive : running = true ∨ phase.usesArtifact = true →
      create.running = true ∨ create.phase.usesArtifact = true)
    (hrelied : { create with phase := phase, running := running }.relies = true →
      (node.fs (codeDependencyDir env create.version)).isSome = true) :
    CreateOk env node { create with phase := phase, running := running } := by
  have hwas : { create with phase := phase, running := running }.live = true →
      create.live = true := by
    intro hnow
    obtain ⟨hartifact, huses⟩ := Create.live_iff.mp hnow
    exact Create.live_iff.mpr ⟨hartifact, hlive huses⟩
  constructor
  · exact hok.object
  · intro hnow
    obtain ⟨hbefore, hsame⟩ := hearly hnow
    rw [hsame]
    exact hok.early hbefore
  · rintro (rfl | rfl | rfl) <;> cases hupload
  · exact hready
  · exact fun hnow => hok.held (hlive hnow)
  · exact hok.plan
  · exact hok.path
  · rintro (rfl | rfl) <;> cases hupload
  · rintro rfl
    cases hupload
  · intro hnow
    exact hok.entry (hwas hnow)
  · intro hnow
    exact hok.variant (hwas hnow)
  · intro _ hrelies
    exact hrelied hrelies
  · intro hnow code hcode
    exact hok.kept (hwas hnow) code hcode

theorem CreateOk.of_upload (hrunning : create.running = false)
    (hprepared : create.prepared = none)
    (huses : create.phase.usesArtifact = false)
    (hobject : ∀ ref, create.artifact = some ref → ref < node.nextArtifact ∧
      ∃ artifact, node.artifacts.lookup ref = some artifact ∧
        artifact.codeVersion = create.version)
    (hbefore : create.phase = .started ∨ create.phase = .storing ∨
      create.phase = .stored → create.artifact = none)
    (hplan : ∀ plan, create.plan = some plan → plan.candidatePath = none ∨
      plan.candidatePath = some (codeDependencyDir env create.version))
    (habsent : create.phase = .storing ∨ create.phase = .stored →
      node.codes.lookup create.version = none)
    (hregistered : create.phase = .registered →
      create.artifact.isSome = true ∧
        node.codes.lookup create.version = create.artifact) :
    CreateOk env node create := by
  have hdead : create.live = true → False := by
    intro hlive
    obtain ⟨_, hnow⟩ := Create.live_iff.mp hlive
    rw [hrunning, huses] at hnow
    simp at hnow
  constructor
  · exact hobject
  · intro _
    exact ⟨hrunning, hprepared⟩
  · exact hbefore
  · rintro (hnow | hphase | hphase)
    · rw [hrunning] at hnow
      cases hnow
    · rw [hphase] at huses
      cases huses
    · rw [hphase] at huses
      cases huses
  · rintro (hnow | hnow)
    · rw [hrunning] at hnow
      cases hnow
    · rw [huses] at hnow
      cases hnow
  · exact hplan
  · intro code hcode
    rw [hprepared] at hcode
    cases hcode
  · exact habsent
  · exact hregistered
  · exact fun hlive => (hdead hlive).elim
  · exact fun hlive => (hdead hlive).elim
  · exact fun hlive => (hdead hlive).elim
  · exact fun hlive => (hdead hlive).elim

namespace CodeNode.Sound

theorem turn {running : Bool} (hsound : node.Sound env)
    (hcreate : node.creates.lookup id = some create)
    (hlate : create.phase.isUpload = false) (hupload : phase.isUpload = false)
    (hearly : phase.isEarly = true →
      create.phase.isEarly = true ∧ running = create.running)
    (hready : running = true ∨ phase = .prepared ∨ phase = .announced →
      create.prepared.isSome = true)
    (hlive : running = true ∨ phase.usesArtifact = true →
      create.running = true ∨ create.phase.usesArtifact = true)
    (hrelied : { create with phase := phase, running := running }.relies = true →
      (node.fs (codeDependencyDir env create.version)).isSome = true) :
    (node.setCreate id
      { create with phase := phase, running := running }).Sound env := by
  obtain ⟨hunlocked, hnew⟩ := CreatePhase.holdsLock_of_isUpload hupload
  obtain ⟨_, hold⟩ := CreatePhase.holdsLock_of_isUpload hlate
  refine hsound.of_turn hcreate rfl ?_ ?_ ?_ ?_
  · intro hholds
    rw [hunlocked] at hholds
    cases hholds
  · constructor
    · intro hregistered
      exact (hnew hregistered).elim
    · intro hregistered
      exact (hold hregistered).elim
  · exact (hsound.creates id create hcreate).turn hupload hearly hready hlive
      hrelied
  · refine hsound.alone_of_same hcreate rfl ?_
    intro hregistered
    exact (hnew hregistered).elim

theorem leave (hsound : node.Sound env)
    (hcreate : node.creates.lookup id = some create)
    (hlate : create.phase.isUpload = false) (hupload : phase.isUpload = false)
    (hearly : phase.isEarly = false) (huses : phase.usesArtifact = false) :
    (node.setPhase id create phase).Sound env := by
  apply hsound.turn hcreate hlate hupload
  · intro hnow
    rw [hearly] at hnow
    cases hnow
  · rintro (hrunning | rfl | rfl)
    · exact (hsound.creates id create hcreate).ready (.inl hrunning)
    · cases huses
    · cases huses
  · intro hnow
    rw [huses] at hnow
    left
    simpa using hnow
  · intro hrelies
    have hnow := Create.isEarly_of_relies hrelies
    rw [hearly] at hnow
    cases hnow

theorem not_registered (hfree : node.lockFree version.digest = true) {other : CreateId}
    {found : Create} (hfound : node.creates.lookup other = some found)
    (hversion : found.version = version) : found.phase ≠ .registered := by
  intro hregistered
  have hunlocked := lockFree_iff hfree hfound (congrArg _ hversion)
  rw [hregistered] at hunlocked
  cases hunlocked

variable (hsound : node.Sound env)

include hsound

theorem version_of_artifact {other : CreateId} {found : Create}
    {ref : ArtifactRef} {artifact : CodeArtifact}
    (hfound : node.creates.lookup other = some found)
    (href : found.artifact = some ref)
    (hlookup : node.artifacts.lookup ref = some artifact) :
    found.version = artifact.codeVersion := by
  obtain ⟨_, artifact', hlookup', hversion⟩ :=
    (hsound.creates other found hfound).object ref href
  rw [hlookup] at hlookup'
  cases hlookup'
  exact hversion.symm

variable (hcreate : node.creates.lookup id = some create)

include hcreate

theorem findCode (hstep : node.findCode id create = some node') :
    node'.Sound env := by
  have hok := hsound.creates id create hcreate
  unfold CodeNode.findCode at hstep
  split at hstep
  · next henabled =>
    obtain ⟨hstarted, hfree⟩ := henabled
    obtain ⟨hrunning, hprepared⟩ := hok.early (by rw [hstarted]; rfl)
    split at hstep
    · next ref hlookup =>
      cases hstep
      have htable := hsound.table create.version ref hlookup
      obtain ⟨artifact, hartifact, hversion, _⟩ := htable.artifact
      refine hsound.of_turn hcreate rfl ?_ ?_ ?_ ?_
      · nofun
      · rw [hstarted]
        exact ⟨nofun, nofun⟩
      · constructor
        · intro ref' href'
          cases href'
          exact ⟨(hsound.heap ref artifact hartifact).1, artifact, hartifact,
            hversion⟩
        · intro _
          exact ⟨hrunning, hprepared⟩
        · rintro (h | h | h) <;> cases h
        · rintro (h | h | h)
          · exact hok.ready (.inl h)
          · cases h
          · cases h
        · exact fun _ => rfl
        · exact hok.plan
        · exact hok.path
        · rintro (h | h) <;> cases h
        · nofun
        · intro _
          exact hlookup
        · intro _
          cases htable.variant with
          | inl hsome => exact hsome
          | inr hregistered =>
            obtain ⟨other, found, hfound, hphase, hsame⟩ := hregistered
            exact (not_registered hfree hfound hsame hphase).elim
        · intro _ hrelies
          cases hrelies
        · intro _ code hcode
          have hnone : create.prepared = some code := hcode
          rw [hprepared] at hnone
          cases hnone
      · intro other found ref' hne hfound href href'
        cases href'
        refine ⟨?_, nofun⟩
        apply not_registered hfree hfound
        rw [hsound.version_of_artifact hfound href hartifact, hversion]
    · next hlookup =>
      cases hstep
      refine hsound.of_turn hcreate rfl ?_ ?_ ?_ ?_
      · intro _
        exact .inr hfree
      · rw [hstarted]
        exact ⟨nofun, nofun⟩
      · have hartifact := hok.before (.inl hstarted)
        refine CreateOk.of_upload hrunning hprepared rfl hok.object ?_ ?_ ?_ ?_
        · exact fun _ => hartifact
        · exact hok.plan
        · exact fun _ => hlookup
        · nofun
      · refine hsound.alone_of_same hcreate rfl ?_
        nofun
  · cases hstep

theorem of_files (hkeeps : ∀ version, Keeps env version node.fs fs)
    (hversion : create'.version = create.version)
    (hlock : create'.phase.holdsLock = true → create.phase.holdsLock = true)
    (hartifact : create'.artifact = create.artifact)
    (hphase : create'.phase ≠ .registered)
    (hvariant : create.phase = .registered →
      (fs (codeVariantDir env create.version)).isSome = true)
    (hself : CreateOk env { node with fs := fs } create') :
    ({ node with fs := fs }.setCreate id create').Sound env := by
  have hsame : SameTables node ({ node with fs := fs }.setCreate id create') :=
    ⟨rfl, rfl, rfl⟩
  apply hsound.of_step hcreate rfl hversion
  · exact fun hholds => .inl (hlock hholds)
  · exact hsound.heap
  · intro version ref hlookup
    apply (hsound.table version ref hlookup).frame hcreate rfl
    · intro heq hregistered
      rw [← heq]
      exact .inr (hvariant hregistered)
    · intro artifact hlookup' hcode hdependencies
      exact ⟨artifact, hlookup', hcode, fun hne =>
        (hkeeps version).present (hdependencies hne)⟩
    · exact (hkeeps version).variant
  · exact hself.of_keeps ⟨rfl, rfl, rfl⟩ fun _ => .refl
  · intro other found _ hfound
    exact (hsound.creates other found hfound).of_keeps hsame fun _ => hkeeps _
  · refine hsound.alone_of_same hcreate hartifact ?_
    intro hregistered
    exact (hphase hregistered).elim

theorem storeFiles (hstep : node.storeFiles env id create = some node') :
    node'.Sound env := by
  have hok := hsound.creates id create hcreate
  unfold CodeNode.storeFiles at hstep
  split at hstep
  · next hstoring =>
    obtain ⟨hrunning, hprepared⟩ := hok.early (by rw [hstoring]; rfl)
    have hkeeps : ∀ version, Keeps env version node.fs (storeCode env
        (makeCodeDirs env node.fs create.version) create.archive
          create.version).1 :=
      fun _ => keeps_makeCodeDirs.trans (keeps_storeCode create.archive)
    have hold : create.phase = .registered → False := by
      rw [hstoring]
      nofun
    generalize storeCode env (makeCodeDirs env node.fs create.version)
      create.archive create.version = stored at hstep hkeeps
    obtain ⟨fs, answer⟩ := stored
    cases answer with
    | ok answer =>
      cases hstep
      refine hsound.of_files hcreate hkeeps rfl ?_ rfl ?_ ?_ ?_
      · rw [hstoring]
        exact fun _ => rfl
      · nofun
      · exact fun hregistered => (hold hregistered).elim
      · refine CreateOk.of_upload hrunning hprepared rfl hok.object ?_ ?_ ?_ ?_
        · exact fun _ => hok.before (.inr (.inl hstoring))
        · exact hok.plan
        · exact fun _ => hok.absent (.inl hstoring)
        · nofun
    | error error =>
      cases hstep
      refine hsound.of_files hcreate hkeeps rfl ?_ rfl ?_ ?_ ?_
      · nofun
      · nofun
      · exact fun hregistered => (hold hregistered).elim
      · refine CreateOk.of_upload hrunning hprepared rfl hok.object ?_ ?_ ?_ ?_
        · exact fun _ => hok.before (.inr (.inl hstoring))
        · exact hok.plan
        · rintro (h | h) <;> cases h
        · nofun
  · cases hstep

theorem writeMeta (hstep : node.writeMeta env id create = some node') :
    node'.Sound env := by
  have hok := hsound.creates id create hcreate
  unfold CodeNode.writeMeta at hstep
  split at hstep
  · next artifact hregistered hartifact =>
    cases hstep
    obtain ⟨hrunning, hprepared⟩ := hok.early (by rw [hregistered]; rfl)
    obtain ⟨hsome, hentry⟩ := hok.registered hregistered
    obtain ⟨ref, href⟩ := Option.isSome_iff_exists.mp hsome
    have hversion : create.version = artifact.codeVersion := by
      apply hsound.version_of_artifact hcreate href
      unfold CodeNode.artifactOf at hartifact
      rw [href] at hartifact
      exact hartifact
    have hvariant := @variant_writeCodeMeta env node.fs artifact
    rw [← hversion] at hvariant
    refine hsound.of_files hcreate (fun _ => keeps_writeCodeMeta) rfl ?_ rfl ?_ ?_
      ?_
    · nofun
    · nofun
    · exact fun _ => hvariant
    · constructor
      · exact hok.object
      · exact fun _ => ⟨hrunning, hprepared⟩
      · rintro (h | h | h) <;> cases h
      · rintro (h | h | h)
        · exact hok.ready (.inl h)
        · cases h
        · cases h
      · exact fun _ => hsome
      · exact hok.plan
      · exact hok.path
      · rintro (h | h) <;> cases h
      · nofun
      · exact fun _ => hentry
      · exact fun _ => hvariant
      · intro _ hrelies
        cases hrelies
      · intro _ code hcode
        have hnone : create.prepared = some code := hcode
        rw [hprepared] at hnone
        cases hnone
  · cases hstep

theorem register (hstep : node.register env id create = some node') :
    node'.Sound env := by
  have hok := hsound.creates id create hcreate
  unfold CodeNode.register at hstep
  split at hstep
  · next hstored =>
    cases hstep
    obtain ⟨hrunning, hprepared⟩ := hok.early (by rw [hstored]; rfl)
    have habsent := hok.absent (.inr hstored)
    have hold : ∀ ref artifact, node.artifacts.lookup ref = some artifact →
        ref ≠ node.nextArtifact := by
      intro ref artifact hlookup
      exact Nat.ne_of_lt (hsound.heap ref artifact hlookup).1
    refine hsound.of_step hcreate rfl rfl ?_ ?_ ?_ ?_ ?_ ?_
    · intro _
      left
      rw [hstored]
      rfl
    · intro ref artifact hlookup
      dsimp only [CodeNode.setCreate] at hlookup ⊢
      obtain ⟨rfl, rfl⟩ | hlookup := of_lookup_set hlookup
      · exact ⟨Nat.lt_succ_self _, .inl rfl⟩
      · obtain ⟨hlt, hpath⟩ := hsound.heap ref artifact hlookup
        exact ⟨Nat.lt_succ_of_lt hlt, hpath⟩
    · intro version ref hlookup
      dsimp only [CodeNode.setCreate] at hlookup
      obtain ⟨rfl, rfl⟩ | hlookup := of_lookup_set hlookup
      · constructor
        · refine ⟨_, lookup_set_self _ _ _, rfl, ?_⟩
          exact fun hne => (hne rfl).elim
        · exact .inr ⟨id, _, lookup_set_self _ _ _, rfl, rfl⟩
      · apply (hsound.table version ref hlookup).frame hcreate rfl
        · rw [hstored]
          nofun
        · intro artifact hartifact hcode hdependencies
          refine ⟨artifact, ?_, hcode, hdependencies⟩
          exact (lookup_set_ne _ _ (hold ref artifact hartifact)).trans
            hartifact
        · exact fun hsome => hsome
    · refine CreateOk.of_upload hrunning hprepared rfl ?_ ?_ hok.plan ?_ ?_
      · intro ref href
        cases href
        exact ⟨Nat.lt_succ_self _, _, lookup_set_self _ _ _, rfl⟩
      · rintro (h | h | h) <;> cases h
      · rintro (h | h) <;> cases h
      · intro _
        exact ⟨rfl, lookup_set_self _ _ _⟩
    · intro other found hne hfound
      have hfoundOk := hsound.creates other found hfound
      have hartifact : ∀ ref artifact, node.artifacts.lookup ref = some artifact →
          (node.artifacts.set node.nextArtifact
            (CodeArtifact.ofVersion env create.version)).lookup ref =
              some artifact := by
        intro ref artifact hlookup
        rw [lookup_set_ne _ _ (hold ref artifact hlookup)]
        exact hlookup
      apply hfoundOk.frame
      · exact Nat.le_succ _
      · intro ref artifact hlookup
        exact ⟨artifact, hartifact ref artifact hlookup, rfl⟩
      · intro huses
        apply lookup_set_ne
        intro heq
        cases huses with
        | inl hlive =>
          have hentry := hfoundOk.entry hlive
          rw [heq, habsent] at hentry
          rw [Create.live_iff, ← hentry] at hlive
          cases hlive.1
        | inr hholds =>
          apply hne
          apply hsound.exclusive other id found create hfound hcreate
          · rw [heq]
          · exact hholds
          · rw [hstored]
            rfl
      · exact fun _ hsome => hsome
      · exact fun _ _ hsome => hsome
      · intro hlive hsome
        obtain ⟨code, hcode⟩ := Option.isSome_iff_exists.mp hsome
        have hkept := (hfoundOk.kept hlive code hcode).1
        rw [hkept]
        unfold CodeNode.artifactOf at hkept ⊢
        cases href : found.artifact with
        | none =>
          rw [href] at hkept
          cases hkept
        | some ref =>
          rw [href] at hkept
          exact hartifact ref code.artifact hkept
      · exact fun _ _ => rfl
    · intro other found ref hne hfound href href'
      cases href'
      exact (Nat.lt_irrefl _
        ((hsound.creates other found hfound).object _ href).1).elim
  · cases hstep

end CodeNode.Sound

end

end PycloudParallel.CodeStore
