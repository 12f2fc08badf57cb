import PycloudParallel.CodeCreatesUploads

/-!
# Preparing shared code

`_ensure_artifact_ready` while other creates use the artifact: the dependencies
are installed, replaced or removed, and the fields of the artifact are
rewritten in place.  A step that meets its condition keeps the store sound.
-/

namespace PycloudParallel.CodeStore

open OrderedDict

open FileTree (AgreeOff)

section

variable {env : Environment} {node node' : CodeNode} {create create' : Create}
  {id : CreateId} {fs : FileSystem} {version : CodeVersion}
  {phase : CreatePhase}

theorem planReady_candidatePath {artifact : CodeArtifact}
    {request : ReadyRequest} {plan : ReadyPlan}
    (hplan : planReady env artifact request = .ok plan) :
    plan.candidatePath =
      if plan.install then some (codeDependencyDir env artifact.codeVersion)
      else artifact.dependencyPath := by
  unfold planReady at hplan
  dsimp only at hplan
  split at hplan
  · cases hplan
  · cases hplan
    rfl

theorem installDependencies_present {path : Path} {fs' : FileSystem}
    {installed : Option FileSystem}
    (hinstalled : installDependencies fs path installed = some fs') :
    installed.isSome = true ∧ AgreeOff path fs fs' ∧
      (fs' path).isSome = true := by
  cases installed with
  | none => cases hinstalled
  | some tree =>
    obtain ⟨hbelow, hagree⟩ := installDependencies_some hinstalled
    refine ⟨rfl, hagree, ?_⟩
    have hroot := congrFun hbelow []
    unfold FileTree.below at hroot
    rw [List.append_nil] at hroot
    rw [hroot]
    rfl

theorem CreateOk.of_dependencies (hok : CreateOk env node create)
    (hsame : SameTables node node')
    (hagree : AgreeOff (codeDependencyDir env version) node.fs node'.fs)
    (hunused : create.version = version → create.live = true →
      create.hasDependencies = false ∧ (create.relies = true →
        (node'.fs (codeDependencyDir env version)).isSome = true)) :
    CreateOk env node' create := by
  by_cases hversion : create.version = version
  · apply hok.of_sameTables hsame
    · intro _ hsome
      rw [hagree _ variantDir_beside_dependencies]
      exact hsome
    · intro hlive hrelies _
      rw [hversion]
      exact (hunused hversion hlive).2 hrelies
    · intro hlive hhas
      rw [(hunused hversion hlive).1] at hhas
      cases hhas
  · exact hok.of_keeps hsame fun _ => keeps_of_dependencies hversion hagree

theorem CodeArtifact.settle_codeVersion (artifact : CodeArtifact)
    (plan : ReadyPlan) :
    (artifact.settle plan).codeVersion = artifact.codeVersion := by
  unfold CodeArtifact.settle
  dsimp only
  split
  · rfl
  · split <;> rfl

theorem CodeArtifact.settle_dependencyPath (artifact : CodeArtifact)
    (plan : ReadyPlan) :
    (artifact.settle plan).dependencyPath = none ∨
      (artifact.settle plan).dependencyPath = artifact.dependencyPath ∨
      (artifact.settle plan).dependencyPath = plan.candidatePath := by
  unfold CodeArtifact.settle
  dsimp only
  split
  · exact .inr (.inr rfl)
  · split
    · exact .inl rfl
    · exact .inr (.inl rfl)

theorem CreateOk.prepare (hok : CreateOk env node create)
    (huses : create.phase.usesArtifact = true) {artifact : CodeArtifact}
    (hartifact : node.artifactOf create = some artifact)
    (hpath : artifact.dependencyPath = none ∨ artifact.dependencyPath =
      some (codeDependencyDir env create.version))
    (hpresent : artifact.dependencyPath ≠ none →
      (node.fs (codeDependencyDir env create.version)).isSome = true) :
    CreateOk env node { create with
      phase := .prepared, prepared := some (node.preparedCode artifact) } := by
  have hwas : { create with
      phase := .prepared
      prepared := some (node.preparedCode artifact) }.live = true →
      create.live = true := by
    intro hnow
    rw [Create.live_iff] at hnow ⊢
    exact ⟨hnow.1, .inr huses⟩
  constructor
  · exact hok.object
  · nofun
  · rintro (h | h | h) <;> cases h
  · exact fun _ => rfl
  · exact fun _ => hok.held (.inr huses)
  · exact hok.plan
  · intro code hcode
    cases hcode
    exact hpath
  · rintro (h | h) <;> cases h
  · nofun
  · exact fun hnow => hok.entry (hwas hnow)
  · exact fun hnow => hok.variant (hwas hnow)
  · nofun
  · intro _ code hcode
    cases hcode
    exact ⟨hartifact, rfl, hpresent⟩

namespace CodeNode.Sound

theorem artifactOf_uses (hsound : node.Sound env)
    (hcreate : node.creates.lookup id = some create)
    (hrunning : create.phase.usesArtifact = true) {artifact : CodeArtifact}
    (hartifact : node.artifactOf create = some artifact) :
    artifact.codeVersion = create.version ∧
      (artifact.dependencyPath = none ∨ artifact.dependencyPath =
        some (codeDependencyDir env create.version)) ∧
      (artifact.dependencyPath ≠ none →
        (node.fs (codeDependencyDir env create.version)).isSome = true) := by
  have hok := hsound.creates id create hcreate
  unfold CodeNode.artifactOf at hartifact
  cases href : create.artifact with
  | none =>
    rw [href] at hartifact
    cases hartifact
  | some ref =>
    rw [href] at hartifact
    change node.artifacts.lookup ref = some artifact at hartifact
    have hversion := hsound.version_of_artifact hcreate href hartifact
    have hlive : create.live = true := by
      rw [Create.live_iff, href]
      exact ⟨rfl, .inr hrunning⟩
    have hentry := hok.entry hlive
    rw [href] at hentry
    obtain ⟨artifact', hlookup, _, hdependencies⟩ :=
      (hsound.table create.version ref hentry).artifact
    rw [hartifact] at hlookup
    cases hlookup
    have hpath := (hsound.heap ref artifact hartifact).2
    rw [← hversion] at hpath
    exact ⟨hversion.symm, hpath, hdependencies⟩

theorem plan (hsound : node.Sound env)
    (hcreate : node.creates.lookup id = some create)
    (hstep : node.plan env id create = some node') : node'.Sound env := by
  have hok := hsound.creates id create hcreate
  unfold CodeNode.plan at hstep
  split at hstep
  · next artifact huploaded hartifact =>
    obtain ⟨hversion, hpath, hdependencies⟩ :=
      hsound.artifactOf_uses hcreate (by rw [huploaded]; rfl) hartifact
    obtain ⟨hrunning, hprepared⟩ := hok.early (by rw [huploaded]; rfl)
    split at hstep
    · cases hstep
      apply hsound.leave hcreate
      · rw [huploaded]
        rfl
      · rfl
      · rfl
      · rfl
    · next plan hplan =>
      have hcandidate := planReady_candidatePath hplan
      rw [hversion] at hcandidate
      cases hstep
      generalize hnext : (if plan.install = true then CreatePhase.planned
        else CreatePhase.installed) = phase
      have hphase : phase = .planned ∨ phase = .installed ∧
          plan.candidatePath = artifact.dependencyPath := by
        rw [← hnext]
        split
        · exact .inl rfl
        · next hinstall =>
          rw [if_neg hinstall] at hcandidate
          exact .inr ⟨rfl, hcandidate⟩
      refine hsound.of_turn hcreate rfl ?_ ?_ ?_ ?_
      · rcases hphase with rfl | ⟨rfl, _⟩ <;> nofun
      · rw [huploaded]
        rcases hphase with rfl | ⟨rfl, _⟩ <;> exact ⟨nofun, nofun⟩
      · have hwas : { create with plan := some plan, phase := phase }.live =
            true → create.live = true := by
          intro hnow
          rw [Create.live_iff] at hnow ⊢
          rw [huploaded]
          exact ⟨hnow.1, .inr rfl⟩
        constructor
        · exact hok.object
        · exact fun _ => ⟨hrunning, hprepared⟩
        · rcases hphase with rfl | ⟨rfl, _⟩ <;> rintro (h | h | h) <;> cases h
        · rintro (h | h | h)
          · exact hok.ready (.inl h)
          · rcases hphase with rfl | ⟨rfl, _⟩ <;> cases h
          · rcases hphase with rfl | ⟨rfl, _⟩ <;> cases h
        · intro _
          apply hok.held
          rw [huploaded]
          exact .inr rfl
        · intro plan' hplan'
          cases hplan'
          rw [hcandidate]
          split
          · exact .inr rfl
          · exact hpath
        · exact hok.path
        · rcases hphase with rfl | ⟨rfl, _⟩ <;> rintro (h | h) <;> cases h
        · rcases hphase with rfl | ⟨rfl, _⟩ <;> nofun
        · exact fun hnow => hok.entry (hwas hnow)
        · exact fun hnow => hok.variant (hwas hnow)
        · intro _ hrelies
          rcases hphase with rfl | ⟨rfl, hfound⟩
          · cases hrelies
          · apply hdependencies
            rw [← hfound]
            intro hnone
            change plan.candidatePath.isSome = true at hrelies
            rw [hnone] at hrelies
            cases hrelies
        · exact fun hnow code hcode => hok.kept (hwas hnow) code hcode
      · refine hsound.alone_of_same hcreate rfl ?_
        rcases hphase with rfl | ⟨rfl, _⟩ <;> nofun
  · cases hstep

theorem of_dependencies (hsound : node.Sound env)
    (hcreate : node.creates.lookup id = some create)
    (hlate : create.phase.isUpload = false) (hupload : phase.isUpload = false)
    (hagree : AgreeOff (codeDependencyDir env create.version) node.fs fs)
    (hunused : ∀ other found, other ≠ id →
      node.creates.lookup other = some found →
      found.version = create.version → found.live = true →
      found.hasDependencies = false ∧ (found.relies = true →
        (fs (codeDependencyDir env create.version)).isSome = true))
    (hpath : ∀ ref artifact, node.codes.lookup create.version = some ref →
      node.artifacts.lookup ref = some artifact →
      artifact.dependencyPath ≠ none →
      (fs (codeDependencyDir env create.version)).isSome = true)
    (hself : CreateOk env { node with fs := fs }
      { create with phase := phase }) :
    ({ node with fs := fs }.setPhase id create phase).Sound env := by
  obtain ⟨hunlocked, hnew⟩ := CreatePhase.holdsLock_of_isUpload hupload
  obtain ⟨_, hold⟩ := CreatePhase.holdsLock_of_isUpload hlate
  refine hsound.of_step hcreate rfl rfl ?_ hsound.heap ?_ ?_ ?_ ?_
  · intro hholds
    change phase.holdsLock = true at hholds
    rw [hunlocked] at hholds
    cases hholds
  · intro version ref hlookup
    apply (hsound.table version ref hlookup).frame hcreate rfl
    · exact fun _ hregistered => (hold hregistered).elim
    · intro artifact hartifact hcode hdependencies
      refine ⟨artifact, hartifact, hcode, ?_⟩
      intro hne
      by_cases hversion : version = create.version
      · rw [hversion] at hlookup ⊢
        exact hpath ref artifact hlookup hartifact hne
      · exact (keeps_of_dependencies hversion hagree).present
          (hdependencies hne)
    · intro hsome
      change (fs _).isSome = true
      rw [hagree _ variantDir_beside_dependencies]
      exact hsome
  · exact hself.of_keeps ⟨rfl, rfl, rfl⟩ fun _ => .refl
  · intro other found hne hfound
    refine (hsound.creates other found hfound).of_dependencies ⟨rfl, rfl, rfl⟩
      hagree ?_
    exact hunused other found hne hfound
  · refine hsound.alone_of_same hcreate rfl ?_
    intro hregistered
    exact (hnew hregistered).elim

variable {installed : Option FileSystem}

variable (hsound : node.Sound env)

include hsound

variable (hcreate : node.creates.lookup id = some create)

include hcreate

theorem of_installed
    (hold : create.phase = .planned ∨ create.phase = .repairing)
    (hnew : phase = .installed ∨ phase = .revalidating)
    (hinstalled : installDependencies node.fs
      (codeDependencyDir env create.version) installed = some fs)
    (hreplace : node.mayReplace id create.version = true) :
    ({ node with fs := fs }.setPhase id create phase).Sound env := by
  have hok := hsound.creates id create hcreate
  obtain ⟨_, hagree, hpresent⟩ := installDependencies_present hinstalled
  have hupload : phase.isUpload = false := by
    rcases hnew with rfl | rfl <;> rfl
  have hlate : create.phase.isUpload = false := by
    rcases hold with h | h <;> rw [h] <;> rfl
  have huses : create.phase.usesArtifact = true := by
    rcases hold with h | h <;> rw [h] <;> rfl
  have hearly : create.phase.isEarly = true := by
    rcases hold with h | h <;> rw [h] <;> rfl
  obtain ⟨hrunning, hprepared⟩ := hok.early hearly
  apply hsound.of_dependencies hcreate hlate hupload hagree
  · intro other found hne hfound hversion hlive
    exact ⟨noOther_iff hreplace hne hfound hversion hlive, fun _ => hpresent⟩
  · exact fun _ _ _ _ _ => hpresent
  · have hframed : CreateOk env { node with fs := fs } create := by
      refine hok.of_dependencies ⟨rfl, rfl, rfl⟩ hagree ?_
      intro _ _
      refine ⟨?_, fun _ => hpresent⟩
      unfold Create.hasDependencies
      rw [hprepared]
      rfl
    refine hframed.turn hupload ?_ ?_ ?_ ?_
    · exact fun _ => ⟨hearly, rfl⟩
    · rintro (h | h | h)
      · exact hok.ready (.inl h)
      · rcases hnew with rfl | rfl <;> cases h
      · rcases hnew with rfl | rfl <;> cases h
    · exact fun _ => .inr huses
    · exact fun _ => hpresent

theorem of_dropped (hlate : create.phase.isUpload = false)
    (hearly : create.phase.isEarly = true)
    (hdrop : node.mayDrop id create.version = true) :
    (node.dropDependencies env id create).Sound env := by
  have hok := hsound.creates id create hcreate
  obtain ⟨hrunning, hprepared⟩ := hok.early hearly
  have hagree := FileTree.agreeOff_prune
    (codeDependencyDir env create.version) node.fs
  unfold CodeNode.mayDrop at hdrop
  rw [Bool.and_eq_true] at hdrop
  obtain ⟨hothers, htable⟩ := hdrop
  apply hsound.of_dependencies hcreate hlate rfl hagree
  · intro other found hne hfound hversion hlive
    have hfree := noOther_iff hothers hne hfound hversion hlive
    rw [Bool.or_eq_false_iff] at hfree
    refine ⟨hfree.2, ?_⟩
    intro hrelies
    rw [hfree.1] at hrelies
    cases hrelies
  · intro ref artifact hlookup hartifact hne
    rw [hlookup] at htable
    simp [hartifact, hne] at htable
  · have hdead : { create with phase := .failing }.live = false := by
      unfold Create.live
      rw [hrunning]
      exact Bool.and_false _
    have hturned : CreateOk env node { create with phase := .failing } := by
      refine hok.turn rfl nofun ?_ ?_ nofun
      · rintro (h | h | h)
        · exact hok.ready (.inl h)
        · cases h
        · cases h
      · rintro (h | h)
        · exact .inl h
        · cases h
    refine hturned.of_dependencies ⟨rfl, rfl, rfl⟩ hagree ?_
    intro _ hlive
    rw [hdead] at hlive
    cases hlive

theorem install
    (hok : (installed.isNone || node.mayReplace id create.version) = true)
    (hstep : node.install env id create installed = some node') :
    node'.Sound env := by
  unfold CodeNode.install at hstep
  split at hstep
  · next hplanned =>
    split at hstep
    · cases hstep
      apply hsound.leave hcreate
      · rw [hplanned]
        rfl
      · rfl
      · rfl
      · rfl
    · next fs hinstalled =>
      cases hstep
      apply hsound.of_installed hcreate (.inl hplanned) (.inl rfl) hinstalled
      obtain ⟨hsome, _⟩ := installDependencies_present hinstalled
      rw [Bool.or_eq_true, Option.isNone_iff_eq_none] at hok
      cases hok with
      | inl hnone =>
        rw [hnone] at hsome
        cases hsome
      | inr hreplace => exact hreplace
  · cases hstep

theorem repair
    (hok : (if installed.isNone = true then node.mayDrop id create.version
      else node.mayReplace id create.version) = true)
    (hstep : node.repair env id create installed = some node') :
    node'.Sound env := by
  unfold CodeNode.repair at hstep
  split at hstep
  · next hrepairing =>
    split at hstep
    · next hnone =>
      cases hstep
      apply hsound.of_dropped hcreate
      · rw [hrepairing]
        rfl
      · rw [hrepairing]
        rfl
      · cases installed with
        | none => exact hok
        | some tree => cases hnone
    · next fs hinstalled =>
      cases hstep
      apply hsound.of_installed hcreate (.inr hrepairing) (.inr rfl) hinstalled
      obtain ⟨hsome, _⟩ := installDependencies_present hinstalled
      cases installed with
      | none => cases hsome
      | some tree => exact hok
  · cases hstep

theorem lookupMethods (hstep : node.lookupMethods id create = some node') :
    node'.Sound env := by
  have hok := hsound.creates id create hcreate
  unfold CodeNode.lookupMethods at hstep
  split at hstep
  · next plan artifact hinstalled hplan hartifact =>
    have huses : create.phase.usesArtifact = true := by
      rw [hinstalled]
      rfl
    split at hstep
    · cases hstep
      obtain ⟨_, hpath, hpresent⟩ :=
        hsound.artifactOf_uses hcreate huses hartifact
      refine hsound.of_turn hcreate rfl nofun ?_ ?_ ?_
      · rw [hinstalled]
        exact ⟨nofun, nofun⟩
      · exact hok.prepare huses hartifact hpath hpresent
      · exact hsound.alone_of_same hcreate rfl nofun
    · cases hstep
      refine hsound.turn hcreate (by rw [hinstalled]; rfl) rfl ?_ ?_ ?_ ?_
      · rw [hinstalled]
        exact fun _ => ⟨rfl, rfl⟩
      · rintro (h | h | h)
        · exact hok.ready (.inl h)
        · cases h
        · cases h
      · exact fun _ => .inr huses
      · intro hrelies
        apply hok.relied
        · rw [Create.live_iff]
          refine ⟨?_, .inr huses⟩
          unfold CodeNode.artifactOf at hartifact
          cases href : create.artifact with
          | none =>
            rw [href] at hartifact
            cases hartifact
          | some ref => rfl
        · unfold Create.relies at hrelies ⊢
          rw [hinstalled]
          exact hrelies
  · cases hstep

theorem settle {ref : ArtifactRef} {artifact settled : CodeArtifact}
    {written : Bool} {key : MethodCacheKey} {methods : List String}
    (hphase : create.phase = .validating ∨ create.phase = .revalidating)
    (href : create.artifact = some ref)
    (hartifact : node.artifacts.lookup ref = some artifact)
    (hversion : settled.codeVersion = artifact.codeVersion)
    (hpath : settled.dependencyPath = none ∨ settled.dependencyPath =
      some (codeDependencyDir env create.version))
    (hpresent : settled.dependencyPath ≠ none →
      (node.fs (codeDependencyDir env create.version)).isSome = true)
    (hmay : node.maySettle id create artifact settled = true) :
    (node.settle env id create ref settled written key methods).Sound env := by
  have hok := hsound.creates id create hcreate
  have huses : create.phase.usesArtifact = true := by
    rcases hphase with h | h <;> rw [h] <;> rfl
  obtain ⟨hrunning, hprepared⟩ :=
    hok.early (by rcases hphase with h | h <;> rw [h] <;> rfl)
  have hsame := hsound.version_of_artifact hcreate href hartifact
  have hkeeps : ∀ version, Keeps env version node.fs
      (if written then writeCodeMeta env node.fs settled else node.fs) := by
    intro version
    split
    · exact keeps_writeCodeMeta
    · exact .refl
  unfold CodeNode.settle
  generalize (if written = true then writeCodeMeta env node.fs settled
    else node.fs) = fs at hkeeps
  have hobjects : ∀ ref' artifact', node.artifacts.lookup ref' = some artifact' →
      ∃ artifact'', (node.artifacts.set ref settled).lookup ref' =
        some artifact'' ∧ artifact''.codeVersion = artifact'.codeVersion := by
    intro ref' artifact' hlookup
    rw [lookup_set]
    split
    · next heq =>
      rw [heq, hartifact] at hlookup
      cases hlookup
      exact ⟨settled, rfl, hversion⟩
    · exact ⟨artifact', hlookup, rfl⟩
  refine hsound.of_step hcreate rfl rfl nofun ?_ ?_ ?_ ?_ ?_
  · intro ref' artifact' hlookup
    dsimp only [CodeNode.setPrepared, CodeNode.setCreate] at hlookup
    obtain ⟨rfl, rfl⟩ | hlookup := of_lookup_set hlookup
    · rw [hversion, ← hsame]
      exact ⟨(hsound.heap _ artifact hartifact).1, hpath⟩
    · exact hsound.heap ref' artifact' hlookup
  · intro version ref' hlookup
    apply (hsound.table version ref' hlookup).frame hcreate rfl
    · intro _ hregistered
      rcases hphase with h | h <;> rw [h] at hregistered <;> cases hregistered
    · intro artifact' hlookup' hcode hdependencies
      dsimp only [CodeNode.setPrepared, CodeNode.setCreate]
      rw [lookup_set]
      split
      · next heq =>
        rw [heq, hartifact] at hlookup'
        cases hlookup'
        refine ⟨settled, rfl, hversion.trans hcode, ?_⟩
        intro hne
        apply (hkeeps version).present
        rw [← hcode, ← hsame]
        exact hpresent hne
      · exact ⟨artifact', hlookup', hcode, fun hne =>
          (hkeeps version).present (hdependencies hne)⟩
    · exact (hkeeps version).variant
  · have hframed : CreateOk env
        { node with
          fs := fs
          artifacts := node.artifacts.set ref settled
          artifactMethodCache := node.artifactMethodCache.set key methods }
        create := by
      refine hok.frame (le_refl _) hobjects (fun _ => rfl) ?_ ?_ ?_ ?_
      · exact fun _ => (hkeeps _).variant
      · exact fun _ _ => (hkeeps _).present
      · intro _ hsome
        rw [hprepared] at hsome
        cases hsome
      · exact fun _ _ => (hkeeps _).dependencies
    have hnow : CodeNode.artifactOf
        { node with
          fs := fs
          artifacts := node.artifacts.set ref settled
          artifactMethodCache := node.artifactMethodCache.set key methods }
        create = some settled := by
      unfold CodeNode.artifactOf
      rw [href]
      exact lookup_set_self _ _ _
    have hready := hframed.prepare huses hnow hpath
      fun hne => (hkeeps _).present (hpresent hne)
    exact hready.of_keeps ⟨rfl, rfl, rfl⟩ fun _ => .refl
  · intro other found hne hfound
    refine (hsound.creates other found hfound).frame (le_refl _) hobjects
      (fun _ => rfl) ?_ ?_ ?_ ?_
    · exact fun _ => (hkeeps _).variant
    · exact fun _ _ => (hkeeps _).present
    · intro hlive hsome
      dsimp only [CodeNode.setPrepared, CodeNode.setCreate, CodeNode.artifactOf]
      cases hother : found.artifact with
      | none => rfl
      | some ref' =>
        change (node.artifacts.set ref settled).lookup ref' =
          node.artifacts.lookup ref'
        rw [lookup_set]
        split
        · next heq =>
          rw [heq] at hother ⊢
          have hfoundVersion : found.version = create.version := by
            rw [hsound.version_of_artifact hfound hother hartifact, hsame]
          unfold CodeNode.maySettle at hmay
          rw [Bool.or_eq_true, decide_eq_true_eq] at hmay
          cases hmay with
          | inl hunchanged => rw [hunchanged, hartifact]
          | inr hnone =>
            have hfree := noOther_iff hnone hne hfound hfoundVersion hlive
            simp [hsome, hother, href] at hfree
        · rfl
    · exact fun _ _ => (hkeeps _).dependencies
  · exact hsound.alone_of_same hcreate rfl nofun

theorem validated {answer : Except DiscoverError (List String)}
    (hintact : node.intactCreate env create (.validated id answer) = true)
    (hstep : node.validated env id create answer = some node') :
    node'.Sound env := by
  have hok := hsound.creates id create hcreate
  unfold CodeNode.validated at hstep
  split at hstep
  · next plan ref artifact hvalidating hplan href hartifact =>
    have huses : create.phase.usesArtifact = true := by
      rw [hvalidating]
      rfl
    have hearly : create.phase.isEarly = true := by
      rw [hvalidating]
      rfl
    have hlate : create.phase.isUpload = false := by
      rw [hvalidating]
      rfl
    split at hstep
    · cases hstep
      obtain ⟨_, hpath, hpresent⟩ :=
        hsound.artifactOf_uses hcreate huses hartifact
      have hlookup : node.artifacts.lookup ref = some artifact := by
        unfold CodeNode.artifactOf at hartifact
        rw [href] at hartifact
        exact hartifact
      have hlive : create.live = true := by
        rw [Create.live_iff, href]
        exact ⟨rfl, .inr huses⟩
      apply hsound.settle hcreate (.inl hvalidating) href hlookup
      · exact artifact.settle_codeVersion plan
      · rcases artifact.settle_dependencyPath plan with h | h | h
        · exact .inl h
        · rw [h]
          exact hpath
        · rw [h]
          exact hok.plan plan hplan
      · intro hne
        rcases artifact.settle_dependencyPath plan with h | h | h
        · exact (hne h).elim
        · rw [h] at hne
          exact hpresent hne
        · rw [h] at hne
          apply hok.relied hlive
          unfold Create.relies
          rw [hvalidating, hplan]
          exact Option.isSome_iff_ne_none.mpr hne
      · unfold CodeNode.intactCreate at hintact
        rw [hplan, hartifact] at hintact
        exact hintact
    · next error =>
      split at hstep
      · cases hstep
        refine hsound.turn hcreate hlate rfl ?_ ?_ ?_ nofun
        · exact fun _ => ⟨hearly, rfl⟩
        · rintro (h | h | h)
          · exact hok.ready (.inl h)
          · cases h
          · cases h
        · exact fun _ => .inr huses
      · next hmissing =>
        split at hstep
        · next hinstall =>
          cases hstep
          apply hsound.of_dropped hcreate hlate hearly
          unfold CodeNode.intactCreate at hintact
          rw [hplan, hartifact] at hintact
          dsimp only at hintact
          rw [hinstall] at hintact
          by_cases hallowlist : plan.effectiveAllowlist = []
          · simpa [hallowlist] using hintact
          · have hpresent : error.missingImport = false := by
              by_contra hne
              exact hmissing ⟨hallowlist, by simpa using hne⟩
            simpa [hpresent] using hintact
        · cases hstep
          exact hsound.leave hcreate hlate rfl rfl rfl
  · cases hstep

theorem revalidated {answer : Except DiscoverError (List String)}
    (hintact : node.intactCreate env create (.revalidated id answer) = true)
    (hstep : node.revalidated env id create answer = some node') :
    node'.Sound env := by
  have hok := hsound.creates id create hcreate
  unfold CodeNode.revalidated at hstep
  split at hstep
  · next plan ref artifact hrevalidating hplan href hartifact =>
    have huses : create.phase.usesArtifact = true := by
      rw [hrevalidating]
      rfl
    unfold CodeNode.intactCreate at hintact
    split at hstep
    · cases hstep
      obtain ⟨hversion, _, _⟩ :=
        hsound.artifactOf_uses hcreate huses hartifact
      have hlookup : node.artifacts.lookup ref = some artifact := by
        unfold CodeNode.artifactOf at hartifact
        rw [href] at hartifact
        exact hartifact
      refine hsound.settle hcreate (.inr hrevalidating) href hlookup rfl ?_ ?_ ?_
      · right
        rw [← hversion]
        rfl
      · intro _
        apply hok.relied
        · rw [Create.live_iff, href]
          exact ⟨rfl, .inr huses⟩
        · unfold Create.relies
          rw [hrevalidating]
      · rw [hplan, hartifact] at hintact
        exact hintact
    · cases hstep
      apply hsound.of_dropped hcreate
      · rw [hrevalidating]
        rfl
      · rw [hrevalidating]
        rfl
      · rw [hplan, hartifact] at hintact
        exact hintact
  · cases hstep

end CodeNode.Sound

end

end PycloudParallel.CodeStore
