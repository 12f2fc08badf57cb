import PycloudParallel.CodeCreatesModel
import PycloudParallel.CodeStoreReadiness

/-!
# What the creates that share code leave each other

A create that is going on with an artifact, or has its service or pool
RUNNING, finds the artifact in the table, its variant directory, and the
dependencies it was prepared with.  A clean-up keeps this up if nobody else
uses what it takes away.
-/

namespace PycloudParallel.CodeStore

open OrderedDict

open FileTree (AgreeOff)

def Create.live (create : Create) : Bool :=
  create.artifact.isSome && (create.running || create.phase.usesArtifact)

def Create.relies (create : Create) : Bool :=
  match create.phase with
  | .installed | .validating =>
    create.plan.any fun plan => plan.candidatePath.isSome
  | .revalidating => true
  | _ => false

def Create.hasDependencies (create : Create) : Bool :=
  create.prepared.any fun code => code.artifact.dependencyPath.isSome

namespace CodeNode

variable (node : CodeNode)

def noOther (id : CreateId) (version : CodeVersion) (property : Create → Bool) :
    Bool :=
  node.creates.items.all fun entry =>
    entry.1 = id || entry.2.version ≠ version || !entry.2.live ||
      !property entry.2

def mayReplace (id : CreateId) (version : CodeVersion) : Bool :=
  node.noOther id version Create.hasDependencies

def mayDrop (id : CreateId) (version : CodeVersion) : Bool :=
  (node.noOther id version fun create =>
    create.relies || create.hasDependencies) &&
  match (node.codes.lookup version).bind fun ref => node.artifacts.lookup ref with
  | none => true
  | some artifact => artifact.dependencyPath = none

def maySettle (id : CreateId) (create : Create)
    (artifact settled : CodeArtifact) : Bool :=
  settled = artifact ||
    node.noOther id create.version fun other =>
      other.prepared.isSome && other.artifact = create.artifact

/-- The clean-up of a create takes away nothing that is used: the entry of the
table only if no other create uses it and its own service or pool is not
RUNNING, the directories only if the version is not in the table, and the
dependencies only if nobody goes on with them. -/
def intactCreate (env : Environment) (create : Create) : CreateLabel → Bool
  | .install id installed =>
    installed.isNone || node.mayReplace id create.version
  | .validated id answer =>
    match create.plan, node.artifactOf create, answer with
    | some plan, some artifact, .ok _ =>
      node.maySettle id create artifact (artifact.settle plan)
    | some plan, _, .error error =>
      plan.effectiveAllowlist ≠ [] && error.missingImport ||
        !plan.install || node.mayDrop id create.version
    | _, _, _ => true
  | .repair id installed =>
    if installed.isNone then node.mayDrop id create.version
    else node.mayReplace id create.version
  | .revalidated id answer =>
    match create.plan, node.artifactOf create, answer with
    | some plan, some artifact, .ok _ =>
      node.maySettle id create artifact (artifact.repair env plan)
    | _, _, .error _ => node.mayDrop id create.version
    | _, _, _ => true
  | .discardEntry id =>
    create.cached || node.codes.lookup create.version ≠ create.artifact ||
      !create.running && node.noOther id create.version fun _ => true
  | .discardVariant _ => node.codes.lookup create.version = none
  | .discardDependencies _ =>
    node.codes.lookup create.version = none ||
      match node.artifactOf create with
      | none => true
      | some artifact => artifact.dependencyPath = none
  | _ => true

def intact (env : Environment) (label : CreateLabel) : Bool :=
  match node.creates.lookup label.id with
  | none => true
  | some create => node.intactCreate env create label

end CodeNode

/-- The steps in front of the return of `_ensure_artifact_ready`. -/
def CreatePhase.isEarly : CreatePhase → Bool
  | .started | .storing | .stored | .registered | .uploaded | .planned
  | .installed | .validating | .repairing | .revalidating => true
  | _ => false

structure CreateOk (env : Environment) (node : CodeNode) (create : Create) :
    Prop where
  object : ∀ ref, create.artifact = some ref → ref < node.nextArtifact ∧
    ∃ artifact, node.artifacts.lookup ref = some artifact ∧
      artifact.codeVersion = create.version
  early : create.phase.isEarly = true →
    create.running = false ∧ create.prepared = none
  before : create.phase = .started ∨ create.phase = .storing ∨
    create.phase = .stored → create.artifact = none
  ready : create.running = true ∨ create.phase = .prepared ∨
    create.phase = .announced → create.prepared.isSome = true
  held : create.running = true ∨ create.phase.usesArtifact = true →
    create.artifact.isSome = true
  plan : ∀ plan, create.plan = some plan → plan.candidatePath = none ∨
    plan.candidatePath = some (codeDependencyDir env create.version)
  path : ∀ code, create.prepared = some code →
    code.artifact.dependencyPath = none ∨
      code.artifact.dependencyPath =
        some (codeDependencyDir env create.version)
  absent : create.phase = .storing ∨ create.phase = .stored →
    node.codes.lookup create.version = none
  registered : create.phase = .registered →
    create.artifact.isSome = true ∧
      node.codes.lookup create.version = create.artifact
  entry : create.live = true →
    node.codes.lookup create.version = create.artifact
  variant : create.live = true →
    (node.fs (codeVariantDir env create.version)).isSome = true
  relied : create.live = true → create.relies = true →
    (node.fs (codeDependencyDir env create.version)).isSome = true
  kept : create.live = true → ∀ code, create.prepared = some code →
    node.artifactOf create = some code.artifact ∧
      code.artifact.dependencyPath.map node.fs.below = code.dependencies ∧
      (code.artifact.dependencyPath ≠ none →
        (node.fs (codeDependencyDir env create.version)).isSome = true)

structure TableOk (env : Environment) (node : CodeNode) (version : CodeVersion)
    (ref : ArtifactRef) : Prop where
  artifact : ∃ artifact, node.artifacts.lookup ref = some artifact ∧
    artifact.codeVersion = version ∧
    (artifact.dependencyPath ≠ none →
      (node.fs (codeDependencyDir env version)).isSome = true)
  variant : (node.fs (codeVariantDir env version)).isSome = true ∨
    ∃ id create, node.creates.lookup id = some create ∧
      create.phase = .registered ∧ create.version = version

structure CodeNode.Sound (env : Environment) (node : CodeNode) : Prop where
  heap : ∀ ref artifact, node.artifacts.lookup ref = some artifact →
    ref < node.nextArtifact ∧ (artifact.dependencyPath = none ∨
      artifact.dependencyPath =
        some (codeDependencyDir env artifact.codeVersion))
  table : ∀ version ref, node.codes.lookup version = some ref →
    TableOk env node version ref
  creates : ∀ id create, node.creates.lookup id = some create →
    CreateOk env node create
  exclusive : ∀ first second create create',
    node.creates.lookup first = some create →
    node.creates.lookup second = some create' →
    create.version.digest = create'.version.digest →
    create.phase.holdsLock = true → create'.phase.holdsLock = true →
    first = second
  alone : ∀ first second create create' ref,
    node.creates.lookup first = some create →
    node.creates.lookup second = some create' →
    create.phase = .registered → create.artifact = some ref →
    create'.artifact = some ref → first = second

section

variable {env : Environment} {node node' : CodeNode} {create create' : Create}
  {id : CreateId}

theorem CreateOk.frame (hok : CreateOk env node create)
    (hnext : node.nextArtifact ≤ node'.nextArtifact)
    (hobjects : ∀ ref artifact, node.artifacts.lookup ref = some artifact →
      ∃ artifact', node'.artifacts.lookup ref = some artifact' ∧
        artifact'.codeVersion = artifact.codeVersion)
    (hcodes : create.live = true ∨ create.phase.holdsLock = true →
      node'.codes.lookup create.version = node.codes.lookup create.version)
    (hvariant : create.live = true →
      (node.fs (codeVariantDir env create.version)).isSome = true →
      (node'.fs (codeVariantDir env create.version)).isSome = true)
    (hrelied : create.live = true → create.relies = true →
      (node.fs (codeDependencyDir env create.version)).isSome = true →
      (node'.fs (codeDependencyDir env create.version)).isSome = true)
    (hkept : create.live = true → create.prepared.isSome = true →
      node'.artifactOf create = node.artifactOf create)
    (hdependencies : create.live = true → create.hasDependencies = true →
      node'.fs.below (codeDependencyDir env create.version) =
        node.fs.below (codeDependencyDir env create.version)) :
    CreateOk env node' create := by
  have hlock : ∀ {phase : CreatePhase}, create.phase = phase →
      phase.holdsLock = true →
        node'.codes.lookup create.version = node.codes.lookup create.version := by
    intro phase hphase hholds
    apply hcodes
    right
    rw [hphase]
    exact hholds
  constructor
  · intro ref href
    obtain ⟨hlt, artifact, hlookup, hversion⟩ := hok.object ref href
    obtain ⟨artifact', hlookup', hversion'⟩ := hobjects ref artifact hlookup
    exact ⟨lt_of_lt_of_le hlt hnext, artifact', hlookup', hversion'.trans hversion⟩
  · exact hok.early
  · exact hok.before
  · exact hok.ready
  · exact hok.held
  · exact hok.plan
  · exact hok.path
  · intro hphase
    have habsent := hok.absent hphase
    cases hphase with
    | inl hphase | inr hphase => rw [hlock hphase rfl, habsent]
  · intro hphase
    obtain ⟨hsome, hentry⟩ := hok.registered hphase
    rw [hlock hphase rfl]
    exact ⟨hsome, hentry⟩
  · intro hlive
    rw [hcodes (.inl hlive)]
    exact hok.entry hlive
  · intro hlive
    exact hvariant hlive (hok.variant hlive)
  · intro hlive hrelies
    exact hrelied hlive hrelies (hok.relied hlive hrelies)
  · intro hlive code hcode
    obtain ⟨hartifact, hdeps, hpresent⟩ := hok.kept hlive code hcode
    have hsome : create.prepared.isSome = true := by rw [hcode]; rfl
    refine ⟨(hkept hlive hsome).trans hartifact, ?_, ?_⟩
    · cases hok.path code hcode with
      | inl hnone =>
        rw [hnone] at hdeps ⊢
        exact hdeps
      | inr hpath =>
        have hhas : create.hasDependencies = true := by
          simp [Create.hasDependencies, hcode, hpath]
        rw [hpath] at hdeps ⊢
        rw [← hdeps]
        exact congrArg some (hdependencies hlive hhas)
    · intro hne
      have hhas : create.hasDependencies = true := by
        simp [Create.hasDependencies, hcode, Option.isSome_iff_ne_none.mpr hne]
      have hroot := congrFun (hdependencies hlive hhas) []
      unfold FileTree.below at hroot
      rw [List.append_nil] at hroot
      rw [hroot]
      exact hpresent hne

structure SameTables (node node' : CodeNode) : Prop where
  codes : node'.codes = node.codes
  artifacts : node'.artifacts = node.artifacts
  nextArtifact : node'.nextArtifact = node.nextArtifact

theorem CreateOk.of_sameTables (hok : CreateOk env node create)
    (hsame : SameTables node node')
    (hvariant : create.live = true →
      (node.fs (codeVariantDir env create.version)).isSome = true →
      (node'.fs (codeVariantDir env create.version)).isSome = true)
    (hrelied : create.live = true → create.relies = true →
      (node.fs (codeDependencyDir env create.version)).isSome = true →
      (node'.fs (codeDependencyDir env create.version)).isSome = true)
    (hdependencies : create.live = true → create.hasDependencies = true →
      node'.fs.below (codeDependencyDir env create.version) =
        node.fs.below (codeDependencyDir env create.version)) :
    CreateOk env node' create := by
  apply hok.frame
  · exact le_of_eq hsame.nextArtifact.symm
  · intro ref artifact hlookup
    rw [hsame.artifacts]
    exact ⟨artifact, hlookup, rfl⟩
  · intro _
    rw [hsame.codes]
  · exact hvariant
  · exact hrelied
  · intro _ _
    unfold CodeNode.artifactOf
    rw [hsame.artifacts]
  · exact hdependencies

theorem noOther_iff {version : CodeVersion} {property : Create → Bool}
    (hnone : node.noOther id version property = true) {other : CreateId}
    (hne : other ≠ id) (hcreate : node.creates.lookup other = some create)
    (hversion : create.version = version) (hlive : create.live = true) :
    property create = false := by
  unfold CodeNode.noOther at hnone
  rw [List.all_eq_true] at hnone
  have hentry := hnone (other, create)
    (mem_items.mpr hcreate)
  simpa [hne, hversion, hlive] using hentry

theorem lockFree_iff {digest : Digest} (hfree : node.lockFree digest = true)
    {other : CreateId} (hcreate : node.creates.lookup other = some create)
    (hdigest : create.version.digest = digest) :
    create.phase.holdsLock = false := by
  unfold CodeNode.lockFree at hfree
  rw [List.all_eq_true] at hfree
  have hentry := hfree create (mem_values.mpr ⟨other, hcreate⟩)
  simpa [hdigest] using hentry

theorem CodeNode.Sound.of_step (hsound : node.Sound env)
    (hcreate : node.creates.lookup id = some create)
    (hcreates : node'.creates = node.creates.set id create')
    (hversion : create'.version = create.version)
    (hlock : create'.phase.holdsLock = true → create.phase.holdsLock = true ∨
      node.lockFree create.version.digest = true)
    (hheap : ∀ ref artifact, node'.artifacts.lookup ref = some artifact →
      ref < node'.nextArtifact ∧ (artifact.dependencyPath = none ∨
        artifact.dependencyPath =
          some (codeDependencyDir env artifact.codeVersion)))
    (htable : ∀ version ref, node'.codes.lookup version = some ref →
      TableOk env node' version ref) (hself : CreateOk env node' create')
    (hothers : ∀ other found, other ≠ id →
      node.creates.lookup other = some found → CreateOk env node' found)
    (halone : ∀ other found ref, other ≠ id →
      node.creates.lookup other = some found →
      found.artifact = some ref → create'.artifact = some ref →
      found.phase ≠ .registered ∧ create'.phase ≠ .registered) :
    node'.Sound env := by
  have hholder : ∀ {other : CreateId} {found : Create}, other ≠ id →
      node.creates.lookup other = some found →
      found.version.digest = create.version.digest →
      found.phase.holdsLock = true → create'.phase.holdsLock = true → False := by
    intro other found hne hfound hdigest hholds hholds'
    cases hlock hholds' with
    | inl hold =>
      exact hne (hsound.exclusive other id found create hfound hcreate hdigest
        hholds hold)
    | inr hfree =>
      rw [lockFree_iff hfree hfound hdigest] at hholds
      cases hholds
  constructor
  · exact hheap
  · exact htable
  · intro other found hfound
    rw [hcreates, lookup_set] at hfound
    split at hfound
    · cases hfound
      exact hself
    · next hne => exact hothers other found hne hfound
  · intro first second one two hone htwo hdigest hholds hholds'
    rw [hcreates, lookup_set] at hone htwo
    split at hone
    · next hfirst =>
      cases hone
      split at htwo
      · next hsecond => exact hfirst.trans hsecond.symm
      · next hne =>
        rw [hversion] at hdigest
        exact (hholder hne htwo hdigest.symm hholds' hholds).elim
    · next hne =>
      split at htwo
      · cases htwo
        rw [hversion] at hdigest
        exact (hholder hne hone hdigest hholds hholds').elim
      · exact hsound.exclusive first second one two hone htwo hdigest hholds
          hholds'
  · intro first second one two ref hone htwo hregistered href href'
    rw [hcreates, lookup_set] at hone htwo
    split at hone
    · next hfirst =>
      cases hone
      split at htwo
      · next hsecond => exact hfirst.trans hsecond.symm
      · next hne => exact ((halone second two ref hne htwo href' href).2
          hregistered).elim
    · next hne =>
      split at htwo
      · cases htwo
        exact ((halone first one ref hne hone href href').1 hregistered).elim
      · exact hsound.alone first second one two ref hone htwo hregistered href
          href'

theorem CodeNode.Sound.alone_of_same (hsound : node.Sound env)
    (hcreate : node.creates.lookup id = some create)
    (hartifact : create'.artifact = create.artifact)
    (hphase : create'.phase = .registered → create.phase = .registered)
    (other : CreateId) (found : Create) (ref : ArtifactRef) (hne : other ≠ id)
    (hfound : node.creates.lookup other = some found)
    (href : found.artifact = some ref) (href' : create'.artifact = some ref) :
    found.phase ≠ .registered ∧ create'.phase ≠ .registered := by
  rw [hartifact] at href'
  constructor
  · intro hregistered
    exact hne (hsound.alone other id found create ref hfound hcreate hregistered
      href href')
  · intro hregistered
    exact hne (hsound.alone id other create found ref hcreate hfound
      (hphase hregistered) href' href).symm

theorem TableOk.frame {version : CodeVersion} {ref : ArtifactRef}
    (htable : TableOk env node version ref)
    (hcreate : node.creates.lookup id = some create)
    (hcreates : node'.creates = node.creates.set id create')
    (hphase : create.version = version → create.phase = .registered →
      create'.phase = .registered ∧ create'.version = version ∨
        (node'.fs (codeVariantDir env version)).isSome = true)
    (hartifact : ∀ artifact, node.artifacts.lookup ref = some artifact →
      artifact.codeVersion = version →
      (artifact.dependencyPath ≠ none →
        (node.fs (codeDependencyDir env version)).isSome = true) →
      ∃ artifact', node'.artifacts.lookup ref = some artifact' ∧
        artifact'.codeVersion = version ∧
        (artifact'.dependencyPath ≠ none →
          (node'.fs (codeDependencyDir env version)).isSome = true))
    (hvariant : (node.fs (codeVariantDir env version)).isSome = true →
      (node'.fs (codeVariantDir env version)).isSome = true) :
    TableOk env node' version ref := by
  constructor
  · obtain ⟨artifact, hlookup, hversion, hdependencies⟩ := htable.artifact
    exact hartifact artifact hlookup hversion hdependencies
  · cases htable.variant with
    | inl hsome => exact .inl (hvariant hsome)
    | inr hregistered =>
      obtain ⟨other, found, hfound, hfoundPhase, hfoundVersion⟩ := hregistered
      by_cases heq : other = id
      · rw [heq, hcreate] at hfound
        cases hfound
        cases hphase hfoundVersion hfoundPhase with
        | inr hsome => exact .inl hsome
        | inl hstill =>
          refine .inr ⟨id, create', ?_, hstill⟩
          rw [hcreates]
          exact lookup_set_self _ _ _
      · refine .inr ⟨other, found, ?_, hfoundPhase, hfoundVersion⟩
        rw [hcreates, lookup_set_ne _ _ heq]
        exact hfound

theorem CodeNode.Sound.of_turn (hsound : node.Sound env)
    (hcreate : node.creates.lookup id = some create)
    (hversion : create'.version = create.version)
    (hlock : create'.phase.holdsLock = true → create.phase.holdsLock = true ∨
      node.lockFree create.version.digest = true)
    (hphase : create'.phase = .registered ↔ create.phase = .registered)
    (hself : CreateOk env node create')
    (halone : ∀ other found ref, other ≠ id →
      node.creates.lookup other = some found →
      found.artifact = some ref → create'.artifact = some ref →
      found.phase ≠ .registered ∧ create'.phase ≠ .registered) :
    (node.setCreate id create').Sound env := by
  have hsame : SameTables node (node.setCreate id create') := ⟨rfl, rfl, rfl⟩
  have hturned : ∀ {found : Create}, CreateOk env node found →
      CreateOk env (node.setCreate id create') found := by
    intro found hok
    apply hok.of_sameTables hsame
    · exact fun _ hsome => hsome
    · exact fun _ _ hsome => hsome
    · exact fun _ _ => rfl
  apply hsound.of_step hcreate rfl hversion hlock
  · exact hsound.heap
  · intro version ref hlookup
    apply (hsound.table version ref hlookup).frame hcreate rfl
    · intro heq hregistered
      exact .inl ⟨hphase.mpr hregistered, hversion.trans heq⟩
    · intro artifact hartifact hcode hdependencies
      exact ⟨artifact, hartifact, hcode, hdependencies⟩
    · exact fun hsome => hsome
  · exact hturned hself
  · intro other found _ hfound
    exact hturned (hsound.creates other found hfound)
  · exact halone

end

end PycloudParallel.CodeStore
