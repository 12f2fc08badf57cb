import PycloudParallel.CodeCreatesReadiness
import PycloudParallel.CodeStoreUploads

/-!
# The code of what is running

A service or pool that is RUNNING keeps its entry of the table, its variant
directory and its dependencies in every run in which no create takes away, or
rewrites, what another one uses.
-/

namespace PycloudParallel.CodeStore

open OrderedDict

/-- The code of a create is there, and what it was prepared with is as it
was. -/
structure CodeKept (env : Environment) (node : CodeNode) (create : Create)
    (ref : ArtifactRef) : Prop where
  artifact : create.artifact = some ref
  entry : node.codes.lookup create.version = some ref
  variant : (node.fs (codeVariantDir env create.version)).isSome = true
  prepared : ∀ code, create.prepared = some code →
    node.artifacts.lookup ref = some code.artifact ∧
      code.artifact.dependencyPath.map node.fs.below = code.dependencies ∧
      ∀ path, code.artifact.dependencyPath = some path →
        (node.fs path).isSome = true

section

variable {env : Environment} {node node' : CodeNode} {create : Create}
  {id : CreateId} {fs : FileSystem} {phase : CreatePhase}

namespace CodeNode.Sound

section

variable (hsound : node.Sound env)

include hsound

section

variable (hcreate : node.creates.lookup id = some create)

include hcreate

theorem publish (hstep : node.publish id create = some node') :
    node'.Sound env := by
  have hok := hsound.creates id create hcreate
  unfold CodeNode.publish at hstep
  split at hstep
  · next hprepared =>
    cases hstep
    have hready := hok.ready (.inr (.inl hprepared))
    have huses : create.phase.usesArtifact = true := by
      rw [hprepared]
      rfl
    generalize hnext : (if create.waitReady = true then CreatePhase.ended
      else CreatePhase.announced) = phase
    have hphase : phase = .ended ∨ phase = .announced := by
      rw [← hnext]
      split
      · exact .inl rfl
      · exact .inr rfl
    refine hsound.turn hcreate (by rw [hprepared]; rfl) ?_ ?_ ?_ ?_ ?_
    · rcases hphase with rfl | rfl <;> rfl
    · rcases hphase with rfl | rfl <;> nofun
    · exact fun _ => hready
    · exact fun _ => .inr huses
    · rcases hphase with rfl | rfl <;> nofun
  · cases hstep

theorem finish (hstep : node.finish id create = some node') :
    node'.Sound env := by
  have hok := hsound.creates id create hcreate
  unfold CodeNode.finish at hstep
  split at hstep
  · next hannounced =>
    cases hstep
    refine hsound.turn hcreate ?_ rfl nofun ?_ ?_ nofun
    · rw [hannounced]
      rfl
    · exact fun _ => hok.ready (.inr (.inr hannounced))
    · intro _
      right
      rw [hannounced]
      rfl
  · cases hstep

theorem raise (hstep : node.raise id create = some node') :
    node'.Sound env := by
  unfold CodeNode.raise at hstep
  split at hstep
  · next hphase _ =>
    cases hstep
    exact hsound.leave hcreate (by rw [hphase]; rfl) rfl rfl rfl
  · next hphase _ =>
    cases hstep
    exact hsound.leave hcreate (by rw [hphase]; rfl) rfl rfl rfl
  · next hphase =>
    cases hstep
    exact hsound.leave hcreate (by rw [hphase]; rfl) rfl rfl rfl
  · cases hstep

theorem markStopped (hstep : node.markStopped id create = some node') :
    node'.Sound env := by
  unfold CodeNode.markStopped at hstep
  split at hstep
  · next hphase =>
    cases hstep
    refine hsound.turn hcreate (by rw [hphase]; rfl) rfl nofun ?_ ?_ nofun
    · rintro (h | h | h) <;> cases h
    · rintro (h | h) <;> cases h
  · cases hstep

theorem stop (hstep : node.stop id create = some node') : node'.Sound env := by
  have hok := hsound.creates id create hcreate
  unfold CodeNode.stop at hstep
  cases hstep
  cases hrunning : create.running with
  | false =>
    have hsame : { create with running := false } = create := by
      rw [← hrunning]
    rw [hsame]
    exact hsound.of_turn hcreate rfl .inl Iff.rfl hok
      (hsound.alone_of_same hcreate rfl fun h => h)
  | true =>
    have hlate : create.phase.isEarly = false := by
      cases hearly : create.phase.isEarly with
      | false => rfl
      | true =>
        rw [(hok.early hearly).1] at hrunning
        cases hrunning
    have hupload : create.phase.isUpload = false := by
      cases hphase : create.phase <;> rw [hphase] at hlate <;>
        first | rfl | cases hlate
    refine hsound.turn hcreate hupload hupload ?_ ?_ ?_ ?_
    · intro hearly
      rw [hlate] at hearly
      cases hearly
    · exact fun _ => hok.ready (.inl hrunning)
    · exact fun _ => .inl hrunning
    · intro hrelies
      have hearly := Create.isEarly_of_relies hrelies
      change create.phase.isEarly = true at hearly
      rw [hlate] at hearly
      cases hearly

theorem discardEntry
    (hintact : node.intactCreate env create (.discardEntry id) = true)
    (hstep : node.discardEntry id create = some node') : node'.Sound env := by
  have hok := hsound.creates id create hcreate
  unfold CodeNode.discardEntry at hstep
  split at hstep
  · next hfailing =>
    have hlate : create.phase.isUpload = false := by
      rw [hfailing]
      rfl
    split at hstep
    · cases hstep
      exact hsound.leave hcreate hlate rfl rfl rfl
    · next hcached =>
      split at hstep
      · next howned =>
        obtain ⟨hsome, hentry⟩ := howned
        cases hstep
        obtain ⟨ref, href⟩ := Option.isSome_iff_exists.mp hsome
        have hfree : create.running = false ∧
            node.noOther id create.version (fun _ => true) = true := by
          unfold CodeNode.intactCreate at hintact
          simpa [hcached, hentry] using hintact
        have hdead : { create with phase := .discardingVariant }.live =
            true → False := by
          intro hlive
          rw [Create.live_iff] at hlive
          rcases hlive.2 with h | h
          · rw [hfree.1] at h
            cases h
          · cases h
        refine hsound.of_step hcreate rfl rfl nofun hsound.heap ?_ ?_ ?_ ?_
        · intro version ref' hlookup
          dsimp only [CodeNode.setPhase, CodeNode.setCreate] at hlookup
          by_cases heq : version = create.version
          · rw [heq, AList.lookup_erase] at hlookup
            cases hlookup
          · rw [AList.lookup_erase_ne heq] at hlookup
            apply (hsound.table version ref' hlookup).frame hcreate rfl
            · exact fun hversion => (heq hversion.symm).elim
            · exact fun artifact hartifact hcode hdependencies =>
                ⟨artifact, hartifact, hcode, hdependencies⟩
            · exact fun hpresent => hpresent
        · have hturned : CreateOk env node
              { create with phase := .discardingVariant } := by
            refine hok.turn rfl nofun ?_ ?_ nofun
            · rintro (h | h | h)
              · exact hok.ready (.inl h)
              · cases h
              · cases h
            · rintro (h | h)
              · exact .inl h
              · cases h
          refine hturned.frame (le_refl _) ?_ ?_ ?_ ?_ ?_ ?_
          · exact fun _ artifact hlookup => ⟨artifact, hlookup, rfl⟩
          · rintro (h | h)
            · exact (hdead h).elim
            · cases h
          · exact fun _ hpresent => hpresent
          · exact fun _ _ hpresent => hpresent
          · exact fun _ _ => rfl
          · exact fun _ _ => rfl
        · intro other found hne hfound
          have hfoundOk := hsound.creates other found hfound
          refine hfoundOk.frame (le_refl _) ?_ ?_ ?_ ?_ ?_ ?_
          · exact fun _ artifact hlookup => ⟨artifact, hlookup, rfl⟩
          · intro huses
            apply AList.lookup_erase_ne
            intro hversion
            cases huses with
            | inl hlive =>
              cases noOther_iff hfree.2 hne hfound hversion hlive
            | inr hholds =>
              have hregistered : found.phase = .registered ∨
                  found.phase = .storing ∨ found.phase = .stored := by
                cases hphase : found.phase <;> rw [hphase] at hholds <;>
                  first | cases hholds; done | simp
              rcases hregistered with h | h
              · have hfoundEntry := (hfoundOk.registered h).2
                rw [hversion, hentry, href] at hfoundEntry
                exact hne (hsound.alone other id found create ref hfound
                  hcreate h hfoundEntry.symm href)
              · have habsent := hfoundOk.absent h
                rw [hversion, hentry, href] at habsent
                cases habsent
          · exact fun _ hpresent => hpresent
          · exact fun _ _ hpresent => hpresent
          · exact fun _ _ => rfl
          · exact fun _ _ => rfl
        · exact hsound.alone_of_same hcreate rfl nofun
      · cases hstep
        exact hsound.leave hcreate hlate rfl rfl rfl
  · cases hstep

theorem of_removed (hupload : phase.isUpload = false)
    (hearly : phase.isEarly = false) (huses : phase.usesArtifact = false)
    (hnone : node.codes.lookup create.version = none)
    (hkeeps : ∀ version, version ≠ create.version →
      Keeps env version node.fs fs) :
    ({ node with fs := fs }.setPhase id create phase).Sound env := by
  obtain ⟨hunlocked, hnew⟩ := CreatePhase.holdsLock_of_isUpload hupload
  have hdead : ∀ {other : CreateId} {found : Create},
      node.creates.lookup other = some found →
      found.version = create.version → found.live = true → False := by
    intro other found hfound hversion hlive
    have hentry := (hsound.creates other found hfound).entry hlive
    rw [hversion, hnone] at hentry
    rw [Create.live_iff, ← hentry] at hlive
    cases hlive.1
  have hothers : ∀ {other : CreateId} {found : Create},
      node.creates.lookup other = some found →
      CreateOk env { node with fs := fs } found := by
    intro other found hfound
    refine (hsound.creates other found hfound).of_keeps ⟨rfl, rfl, rfl⟩ ?_
    intro hlive
    apply hkeeps
    exact fun hversion => hdead hfound hversion hlive
  refine hsound.of_step hcreate rfl rfl ?_ hsound.heap ?_ ?_ ?_ ?_
  · intro hholds
    change phase.holdsLock = true at hholds
    rw [hunlocked] at hholds
    cases hholds
  · intro version ref hlookup
    have hne : version ≠ create.version := by
      rintro rfl
      change node.codes.lookup create.version = some ref at hlookup
      rw [hnone] at hlookup
      cases hlookup
    apply (hsound.table version ref hlookup).frame hcreate rfl
    · exact fun hversion => (hne hversion.symm).elim
    · intro artifact hartifact hcode hdependencies
      exact ⟨artifact, hartifact, hcode, fun hpath =>
        (hkeeps version hne).present (hdependencies hpath)⟩
    · exact (hkeeps version hne).variant
  · have hself := hothers hcreate
    have hturned : CreateOk env { node with fs := fs }
        { create with phase := phase } := by
      refine hself.turn hupload ?_ ?_ ?_ ?_
      · intro hnow
        rw [hearly] at hnow
        cases hnow
      · rintro (h | rfl | rfl)
        · exact hself.ready (.inl h)
        · cases huses
        · cases huses
      · intro hnow
        rw [huses] at hnow
        left
        simpa using hnow
      · intro hrelies
        have hnow := Create.isEarly_of_relies hrelies
        rw [hearly] at hnow
        cases hnow
    exact hturned.of_keeps ⟨rfl, rfl, rfl⟩ fun _ => .refl
  · intro other found _ hfound
    exact (hothers hfound).of_keeps ⟨rfl, rfl, rfl⟩ fun _ => .refl
  · refine hsound.alone_of_same hcreate rfl ?_
    intro hregistered
    exact (hnew hregistered).elim

theorem discardVariant
    (hintact : node.intactCreate env create (.discardVariant id) = true)
    (hstep : node.discardVariant env id create = some node') :
    node'.Sound env := by
  unfold CodeNode.discardVariant at hstep
  split at hstep
  · next hphase =>
    cases hstep
    apply hsound.of_removed hcreate rfl rfl rfl
    · exact of_decide_eq_true hintact
    · intro version hne
      exact keeps_of_variant hne (FileTree.agreeOff_prune _ _)
  · cases hstep

theorem discardDependencies
    (hintact : node.intactCreate env create (.discardDependencies id) = true)
    (hstep : node.discardDependencies id create = some node') :
    node'.Sound env := by
  unfold CodeNode.discardDependencies at hstep
  split at hstep
  · next artifact hphase hartifact =>
    have hlate : create.phase.isUpload = false := by
      rw [hphase]
      rfl
    split at hstep
    · cases hstep
      exact hsound.leave hcreate hlate rfl rfl rfl
    · next path hpath =>
      cases hstep
      have hversion : create.version = artifact.codeVersion ∧
          path = codeDependencyDir env create.version := by
        unfold CodeNode.artifactOf at hartifact
        cases href : create.artifact with
        | none =>
          rw [href] at hartifact
          cases hartifact
        | some ref =>
          rw [href] at hartifact
          have hsame := hsound.version_of_artifact hcreate href hartifact
          refine ⟨hsame, ?_⟩
          rcases (hsound.heap ref artifact hartifact).2 with h | h
          · rw [h] at hpath
            cases hpath
          · rw [hpath, ← hsame] at h
            exact Option.some.inj h
      apply hsound.of_removed hcreate rfl rfl rfl
      · unfold CodeNode.intactCreate at hintact
        simpa [hartifact, hpath] using hintact
      · intro version hne
        rw [hversion.2]
        exact keeps_of_dependencies hne (FileTree.agreeOff_prune _ _)
  · cases hstep

end

theorem begin {archive : Archive} {request : CodeRequest} {ready : ReadyRequest}
    {waitReady : Bool}
    (hstep : node.begin env id archive request ready waitReady = some node') :
    node'.Sound env := by
  unfold CodeNode.begin at hstep
  split at hstep
  · cases hstep
  · next hnew =>
    have hne : ∀ {other : CreateId} {found : Create},
        node.creates.lookup other = some found → other ≠ id := by
      rintro other found hfound rfl
      exact hnew (mem_iff_lookup.mpr ⟨found, hfound⟩)
    split at hstep
    · cases hstep
      exact hsound
    · next version hversion =>
      cases hstep
      constructor
      · exact hsound.heap
      · intro version' ref hlookup
        have htable := hsound.table version' ref hlookup
        constructor
        · exact htable.artifact
        · cases htable.variant with
          | inl hpresent => exact .inl hpresent
          | inr hregistered =>
            obtain ⟨other, found, hfound, hphase, hsame⟩ := hregistered
            refine .inr ⟨other, found, ?_, hphase, hsame⟩
            exact (lookup_set_ne _ _ (hne hfound)).trans hfound
      · intro other found hfound
        dsimp only [CodeNode.setCreate] at hfound
        obtain ⟨rfl, rfl⟩ | hfound := of_lookup_set hfound
        · apply CreateOk.of_upload rfl rfl rfl
          · nofun
          · exact fun _ => rfl
          · nofun
          · rintro (h | h) <;> cases h
          · nofun
        · exact (hsound.creates other found hfound).of_keeps ⟨rfl, rfl, rfl⟩
            fun _ => .refl
      · intro first second one two hone htwo hdigest hholds hholds'
        dsimp only [CodeNode.setCreate] at hone htwo
        rw [lookup_set] at hone htwo
        split at hone
        · cases hone
          cases hholds
        · split at htwo
          · cases htwo
            cases hholds'
          · exact hsound.exclusive first second one two hone htwo hdigest hholds
              hholds'
      · intro first second one two ref hone htwo hregistered href href'
        dsimp only [CodeNode.setCreate] at hone htwo
        rw [lookup_set] at hone htwo
        split at hone
        · cases hone
          cases hregistered
        · split at htwo
          · cases htwo
            cases href'
          · exact hsound.alone first second one two ref hone htwo hregistered
              href href'

theorem step {label : CreateLabel} (hintact : node.intact env label = true)
    (hstep : node.step env label = some node') : node'.Sound env := by
  unfold CodeNode.step at hstep
  split at hstep
  · exact hsound.begin hstep
  · split at hstep
    · cases hstep
    · next create hcreate =>
      unfold CodeNode.intact at hintact
      rw [hcreate] at hintact
      cases label with
      | begin => cases hstep
      | findCode => exact hsound.findCode hcreate hstep
      | storeFiles => exact hsound.storeFiles hcreate hstep
      | register => exact hsound.register hcreate hstep
      | writeMeta => exact hsound.writeMeta hcreate hstep
      | plan => exact hsound.plan hcreate hstep
      | install => exact hsound.install hcreate hintact hstep
      | lookupMethods => exact hsound.lookupMethods hcreate hstep
      | validated => exact hsound.validated hcreate hintact hstep
      | repair => exact hsound.repair hcreate hintact hstep
      | revalidated => exact hsound.revalidated hcreate hintact hstep
      | publish => exact hsound.publish hcreate hstep
      | finish => exact hsound.finish hcreate hstep
      | raise => exact hsound.raise hcreate hstep
      | discardEntry => exact hsound.discardEntry hcreate hintact hstep
      | discardVariant => exact hsound.discardVariant hcreate hintact hstep
      | discardDependencies =>
        exact hsound.discardDependencies hcreate hintact hstep
      | markStopped => exact hsound.markStopped hcreate hstep
      | stop => exact hsound.stop hcreate hstep

end

theorem initial (env : Environment) (fs : FileSystem) :
    (CodeNode.initial fs).Sound env := by
  constructor
  · intro _ _ hlookup
    cases hlookup
  · intro _ _ hlookup
    cases hlookup
  · intro _ _ hlookup
    cases hlookup
  · intro _ _ _ _ hlookup
    cases hlookup
  · intro _ _ _ _ _ hlookup
    cases hlookup

theorem codeKept (hsound : node.Sound env)
    (hcreate : node.creates.lookup id = some create)
    (hlive : create.running = true ∨ create.phase.usesArtifact = true) :
    ∃ ref, CodeKept env node create ref := by
  have hok := hsound.creates id create hcreate
  have hheld := hok.held hlive
  have huses : create.live = true := Create.live_iff.mpr ⟨hheld, hlive⟩
  obtain ⟨ref, href⟩ := Option.isSome_iff_exists.mp hheld
  refine ⟨ref, href, ?_, hok.variant huses, ?_⟩
  · rw [hok.entry huses, href]
  · intro code hcode
    obtain ⟨hartifact, hdependencies, hpresent⟩ := hok.kept huses code hcode
    unfold CodeNode.artifactOf at hartifact
    rw [href] at hartifact
    refine ⟨hartifact, hdependencies, ?_⟩
    intro path hpath
    rcases hok.path code hcode with h | h
    · rw [h] at hpath
      cases hpath
    · rw [h] at hpath
      cases hpath
      apply hpresent
      rw [h]
      nofun

end CodeNode.Sound

/-- The code of every service or pool that is RUNNING, and of every create that
is going on with an artifact, is kept in every run whose steps all leave alone
what another one uses. -/
theorem running_code_kept (env : Environment) (fs : FileSystem)
    {last : CodeNode}
    (hrun : GuardedRun (CodeNode.step env)
      (fun node label => node.intact env label = true) (CodeNode.initial fs)
      last) (hcreate : last.creates.lookup id = some create)
    (hlive : create.running = true ∨ create.phase.usesArtifact = true) :
    (∃ ref, CodeKept env last create ref) ∧
      (create.running = true → create.prepared.isSome = true) := by
  have hsound : last.Sound env := by
    apply hrun.invariant (CodeNode.Sound env)
    · exact .initial env fs
    · exact fun _ _ _ hsound hintact hstep => hsound.step hintact hstep
  refine ⟨hsound.codeKept hcreate hlive, ?_⟩
  exact fun hrunning => (hsound.creates id create hcreate).ready (.inl hrunning)

end

section runs

def packagedModule : CodeRequest :=
  { unloadedUpload .py with dependencyAllowlist := ["numpy"] }

def moduleArchive : Archive where
  digest := "d1"
  zipEntries := none
  tarEntries := none

/-- What `pip` puts into the directory of the dependencies. -/
def installedPackage : FileSystem := fun path =>
  if path = [.name "numpy"] then some (.directory 0) else none

/-- An asynchronous create uploads the module and a blocking create takes it
from the table. -/
def sharedUpload : List CreateLabel := [
  .begin 0 moduleArchive packagedModule ∅ "service" "s" false,
  .findCode 0, .storeFiles 0, .register 0, .writeMeta 0, .plan 0,
  .install 0 (some installedPackage), .lookupMethods 0, .validated 0 (.ok []),
  .begin 1 moduleArchive packagedModule ∅ "pool" "p" true,
  .findCode 1, .plan 1, .lookupMethods 1, .validated 1 (.ok []), .publish 1]

def uploaderStops : List CreateLabel := [.publish 0, .finish 0, .stop 0]

def uploaderFails : List CreateLabel :=
  [.raise 0, .discardEntry 0, .discardVariant 0]

/-- The pool of the second create runs with the code of the first. -/
theorem shared_upload_kept :
    ∃ last create, checkedRun (CodeNode.step plainEnvironment)
        (fun node label => node.intact plainEnvironment label = true)
        (CodeNode.initial fun _ => none) (sharedUpload ++ uploaderStops) =
          some last ∧
      last.creates.lookup 1 = some create ∧ create.running = true ∧
      (∃ ref, CodeKept plainEnvironment last create ref) ∧
      create.hasDependencies = true := by
  have hrun : (checkedRun (CodeNode.step plainEnvironment)
      (fun node label => node.intact plainEnvironment label = true)
      (CodeNode.initial fun _ => none)
      (sharedUpload ++ uploaderStops)).any (fun last =>
        (last.creates.lookup 1).any fun create =>
          create.running && create.hasDependencies) = true := by
    decide +kernel
  rw [Option.any_eq_true] at hrun
  obtain ⟨last, hlast, hfound⟩ := hrun
  rw [Option.any_eq_true] at hfound
  obtain ⟨create, hcreate, hstate⟩ := hfound
  rw [Bool.and_eq_true] at hstate
  refine ⟨last, create, hlast, hcreate, hstate.1, ?_, hstate.2⟩
  exact (running_code_kept plainEnvironment (fun _ => none)
    (guardedRun_of_checkedRun _ hlast) hcreate (.inl hstate.1)).1

/-- The clean-up of a failed create takes the code of a running pool. -/
theorem reused_code_discarded :
    ¬∀ (env : Environment) (fs : FileSystem) (last : CodeNode) (id : CreateId)
        (create : Create),
      Reachable (CodeNode.step env) (CodeNode.initial fs) last →
      last.creates.lookup id = some create → create.running = true →
      ∃ ref, CodeKept env last create ref := by
  intro hclaim
  have hrun : (runLabels (CodeNode.step plainEnvironment)
      (CodeNode.initial fun _ => none) (sharedUpload ++ uploaderFails)).any
      (fun last => (last.creates.lookup 1).any fun create =>
        create.running && last.codes.lookup create.version = none) = true := by
    decide +kernel
  rw [Option.any_eq_true] at hrun
  obtain ⟨last, hlast, hfound⟩ := hrun
  rw [Option.any_eq_true] at hfound
  obtain ⟨create, hcreate, hstate⟩ := hfound
  rw [Bool.and_eq_true, decide_eq_true_eq] at hstate
  obtain ⟨ref, hkept⟩ := hclaim plainEnvironment (fun _ => none) last 1 create
    (reachable_of_runLabels _ hlast) hcreate hstate.1
  have hentry := hkept.entry
  rw [hstate.2] at hentry
  cases hentry

end runs

end PycloudParallel.CodeStore
