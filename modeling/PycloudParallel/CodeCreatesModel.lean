import PycloudParallel.FoundationGuardedRun
import PycloudParallel.CodeStoreModel

/-!
# Creates that share code

The creates of services and task pools, as far as they touch the code store:
`put_code`, `_ensure_artifact_ready` and the clean-up
`_discard_new_code_artifact`.  The sections of `put_code` for one content
exclude each other; everything else runs between them.

What `pip` installs and how the code loads is the answer in a label.  A create
of a service from a module of the node itself uploads nothing and is left out.
-/

namespace PycloudParallel.CodeStore

abbrev ArtifactRef := ℕ

abbrev CreateId := ℕ

/-- What `_ensure_artifact_ready` has left to a create: the artifact, and what
stands in its dependency directory. -/
structure PreparedCode where
  artifact : CodeArtifact
  dependencies : Option FileSystem

inductive CreatePhase
  /-- In front of `put_code`. -/
  | started
  /-- In `put_code`, with no artifact of the version in the table. -/
  | storing
  | stored
  /-- In the table, its `meta.json` still to be written. -/
  | registered
  | uploaded
  /-- In `_ensure_artifact_ready`. -/
  | planned
  | installed
  | validating
  | repairing
  | revalidating
  /-- `_ensure_artifact_ready` has returned. -/
  | prepared
  /-- The entry of an asynchronous create is RUNNING and its globals are
  warmed up. -/
  | announced
  /-- In front of the clean-up. -/
  | failing
  | discardingVariant
  | discardingDependencies
  /-- In front of the section that stops the entry. -/
  | cleanedUp
  | ended
deriving DecidableEq

/-- A create in one of the sections of `put_code` that hold the lock of the
content. -/
def CreatePhase.holdsLock : CreatePhase → Bool
  | .storing | .stored | .registered => true
  | _ => false

def CreatePhase.usesArtifact : CreatePhase → Bool
  | .uploaded | .planned | .installed | .validating | .repairing
  | .revalidating | .prepared | .announced => true
  | _ => false

structure Create where
  archive : Archive
  version : CodeVersion
  ready : ReadyRequest
  waitReady : Bool
  phase : CreatePhase
  artifact : Option ArtifactRef
  cached : Bool
  plan : Option ReadyPlan
  /-- The status of its service or pool is RUNNING. -/
  running : Bool
  /-- Recorded when the artifact is ready; nothing reads it. -/
  prepared : Option PreparedCode

structure CodeNode where
  fs : FileSystem
  /-- `_codes`. -/
  codes : OrderedDict CodeVersion ArtifactRef
  artifacts : OrderedDict ArtifactRef CodeArtifact
  artifactMethodCache : OrderedDict MethodCacheKey (List String)
  nextArtifact : ℕ
  creates : OrderedDict CreateId Create

inductive CreateLabel
  | begin (id : CreateId) (archive : Archive) (request : CodeRequest)
      (names : Finset String) (scope key : String) (waitReady : Bool)
  /-- The checks of `put_code` and its first locked section. -/
  | findCode (id : CreateId)
  | storeFiles (id : CreateId)
  | register (id : CreateId)
  | writeMeta (id : CreateId)
  | plan (id : CreateId)
  | install (id : CreateId) (installed : Option FileSystem)
  | lookupMethods (id : CreateId)
  | validated (id : CreateId) (answer : Except DiscoverError (List String))
  | repair (id : CreateId) (installed : Option FileSystem)
  | revalidated (id : CreateId) (answer : Except DiscoverError (List String))
  /-- The entry becomes RUNNING. -/
  | publish (id : CreateId)
  /-- An asynchronous create is over. -/
  | finish (id : CreateId)
  /-- A callee raises after the artifact is ready. -/
  | raise (id : CreateId)
  | discardEntry (id : CreateId)
  | discardVariant (id : CreateId)
  | discardDependencies (id : CreateId)
  | markStopped (id : CreateId)
  /-- The service or pool is stopped. -/
  | stop (id : CreateId)

namespace CodeNode

variable (env : Environment) (node : CodeNode)

def initial (fs : FileSystem) : CodeNode where
  fs := fs
  codes := ∅
  artifacts := ∅
  artifactMethodCache := ∅
  nextArtifact := 0
  creates := ∅

def setCreate (id : CreateId) (create : Create) : CodeNode :=
  { node with creates := node.creates.set id create }

def setPhase (id : CreateId) (create : Create) (phase : CreatePhase) : CodeNode :=
  node.setCreate id { create with phase := phase }

/-- The arguments with which a create calls `_ensure_artifact_ready`. -/
def readyArguments (request : CodeRequest) (names : Finset String)
    (scope key : String) : ReadyRequest where
  dependencyPolicyMode := request.dependencyPolicyMode
  dependencyAllowlist := request.dependencyAllowlist
  managedGlobalNames := names
  prepareScope := scope
  prepareKey := key

def begin (id : CreateId) (archive : Archive) (request : CodeRequest)
    (ready : ReadyRequest) (waitReady : Bool) : Option CodeNode :=
  if id ∈ node.creates then none
  else
    match request.codeVersion env archive.digest with
    | .error _ => some node
    | .ok version =>
      some (node.setCreate id {
        archive := archive
        version := version
        ready := ready
        waitReady := waitReady
        phase := .started
        artifact := none
        cached := true
        plan := none
        running := false
        prepared := none })

def lockFree (digest : Digest) : Bool :=
  node.creates.values.all fun create =>
    create.version.digest ≠ digest || !create.phase.holdsLock

def findCode (id : CreateId) (create : Create) : Option CodeNode :=
  if create.phase = .started ∧ node.lockFree create.version.digest then
    match node.codes.lookup create.version with
    | some ref =>
      some (node.setCreate id { create with
        phase := .uploaded, artifact := some ref, cached := true })
    | none => some (node.setPhase id create .storing)
  else none

def storeFiles (id : CreateId) (create : Create) : Option CodeNode :=
  if create.phase = .storing then
    match storeCode env (makeCodeDirs env node.fs create.version) create.archive
        create.version with
    | (fs, .ok ()) => some ({ node with fs := fs }.setPhase id create .stored)
    | (fs, .error _) => some ({ node with fs := fs }.setPhase id create .ended)
  else none

def register (id : CreateId) (create : Create) : Option CodeNode :=
  if create.phase = .stored then
    some ({ node with
      codes := node.codes.set create.version node.nextArtifact
      artifacts := node.artifacts.set node.nextArtifact
        (CodeArtifact.ofVersion env create.version)
      nextArtifact := node.nextArtifact + 1 }.setCreate id { create with
        phase := .registered, artifact := some node.nextArtifact
        cached := false })
  else none

def artifactOf (create : Create) : Option CodeArtifact :=
  create.artifact.bind fun ref => node.artifacts.lookup ref

def writeMeta (id : CreateId) (create : Create) : Option CodeNode :=
  match create.phase, node.artifactOf create with
  | .registered, some artifact =>
    some ({ node with fs := writeCodeMeta env node.fs artifact }.setPhase id
      create .uploaded)
  | _, _ => none

def plan (id : CreateId) (create : Create) : Option CodeNode :=
  match create.phase, node.artifactOf create with
  | .uploaded, some artifact =>
    match planReady env artifact create.ready with
    | .error _ => some (node.setPhase id create .failing)
    | .ok plan =>
      some (node.setCreate id { create with
        plan := some plan
        phase := if plan.install then .planned else .installed })
  | _, _ => none

def install (id : CreateId) (create : Create) (installed : Option FileSystem) :
    Option CodeNode :=
  if create.phase = .planned then
    match installDependencies node.fs (codeDependencyDir env create.version)
        installed with
    | none => some (node.setPhase id create .failing)
    | some fs => some ({ node with fs := fs }.setPhase id create .installed)
  else none

def preparedCode (artifact : CodeArtifact) : PreparedCode where
  artifact := artifact
  dependencies := artifact.dependencyPath.map node.fs.below

def setPrepared (id : CreateId) (create : Create) (artifact : CodeArtifact) :
    CodeNode :=
  node.setCreate id { create with
    phase := .prepared, prepared := some (node.preparedCode artifact) }

def lookupMethods (id : CreateId) (create : Create) : Option CodeNode :=
  match create.phase, create.plan, node.artifactOf create with
  | .installed, some plan, some artifact =>
    if plan.cacheKey artifact create.ready plan.candidatePath ∈
        node.artifactMethodCache then
      some (node.setPrepared id create artifact)
    else some (node.setPhase id create .validating)
  | _, _, _ => none

/-- The artifact object gets its fields, `meta.json` is written and the methods
are cached. -/
def settle (id : CreateId) (create : Create) (ref : ArtifactRef)
    (artifact : CodeArtifact) (written : Bool) (key : MethodCacheKey)
    (methods : List String) : CodeNode :=
  { node with
    fs := if written then writeCodeMeta env node.fs artifact else node.fs
    artifacts := node.artifacts.set ref artifact
    artifactMethodCache := node.artifactMethodCache.set key methods }.setPrepared
      id create artifact

def dropDependencies (id : CreateId) (create : Create) : CodeNode :=
  { node with
    fs := node.fs.prune (codeDependencyDir env create.version) }.setPhase id
      create .failing

def validated (id : CreateId) (create : Create)
    (answer : Except DiscoverError (List String)) : Option CodeNode :=
  match create.phase, create.plan, create.artifact, node.artifactOf create with
  | .validating, some plan, some ref, some artifact =>
    match answer with
    | .ok methods =>
      let settled := artifact.settle plan
      let written :=
        plan.effectiveAllowlist ≠ [] && plan.candidatePath.isSome ||
          artifact.dependencyPath.isSome && plan.effectiveAllowlist = []
      some (node.settle env id create ref settled written
        (plan.cacheKey settled create.ready
          (settled.dependencyPath.or plan.candidatePath)) methods)
    | .error error =>
      if plan.effectiveAllowlist ≠ [] ∧ error.missingImport then
        some (node.setPhase id create .repairing)
      else if plan.install then some (node.dropDependencies env id create)
      else some (node.setPhase id create .failing)
  | _, _, _, _ => none

def repair (id : CreateId) (create : Create) (installed : Option FileSystem) :
    Option CodeNode :=
  if create.phase = .repairing then
    match installDependencies node.fs (codeDependencyDir env create.version)
        installed with
    | none => some (node.dropDependencies env id create)
    | some fs => some ({ node with fs := fs }.setPhase id create .revalidating)
  else none

def revalidated (id : CreateId) (create : Create)
    (answer : Except DiscoverError (List String)) : Option CodeNode :=
  match create.phase, create.plan, create.artifact, node.artifactOf create with
  | .revalidating, some plan, some ref, some artifact =>
    match answer with
    | .ok methods =>
      let repaired := artifact.repair env plan
      some (node.settle env id create ref repaired true
        (plan.cacheKey repaired create.ready repaired.dependencyPath)
        methods)
    | .error _ => some (node.dropDependencies env id create)
  | _, _, _, _ => none

def publish (id : CreateId) (create : Create) : Option CodeNode :=
  if create.phase = .prepared then
    some (node.setCreate id { create with
      phase := if create.waitReady then .ended else .announced, running := true })
  else none

def finish (id : CreateId) (create : Create) : Option CodeNode :=
  if create.phase = .announced then
    some (node.setCreate id { create with phase := .ended, running := true })
  else none

def raise (id : CreateId) (create : Create) : Option CodeNode :=
  match create.phase, create.waitReady with
  | .prepared, true => some (node.setPhase id create .ended)
  | .prepared, false | .announced, _ => some (node.setPhase id create .failing)
  | _, _ => none

/-- `_discard_new_code_artifact` up to the directories. -/
def discardEntry (id : CreateId) (create : Create) : Option CodeNode :=
  if create.phase = .failing then
    if create.cached then some (node.setPhase id create .cleanedUp)
    else if create.artifact.isSome ∧
        node.codes.lookup create.version = create.artifact then
      some ({ node with codes := node.codes.erase create.version }.setPhase id
        create .discardingVariant)
    else some (node.setPhase id create .discardingVariant)
  else none

def discardVariant (id : CreateId) (create : Create) : Option CodeNode :=
  if create.phase = .discardingVariant then
    some ({ node with
      fs := node.fs.prune (codeVariantDir env create.version) }.setPhase id
        create .discardingDependencies)
  else none

def discardDependencies (id : CreateId) (create : Create) : Option CodeNode :=
  match create.phase, node.artifactOf create with
  | .discardingDependencies, some artifact =>
    match artifact.dependencyPath with
    | none => some (node.setPhase id create .cleanedUp)
    | some path =>
      some ({ node with fs := node.fs.prune path }.setPhase id create
        .cleanedUp)
  | _, _ => none

def markStopped (id : CreateId) (create : Create) : Option CodeNode :=
  if create.phase = .cleanedUp then
    some (node.setCreate id { create with phase := .ended, running := false })
  else none

def stop (id : CreateId) (create : Create) : Option CodeNode :=
  some (node.setCreate id { create with running := false })

def stepCreate (create : Create) (id : CreateId) :
    CreateLabel → Option CodeNode
  | .begin .. => none
  | .findCode _ => node.findCode id create
  | .storeFiles _ => node.storeFiles env id create
  | .register _ => node.register env id create
  | .writeMeta _ => node.writeMeta env id create
  | .plan _ => node.plan env id create
  | .install _ installed => node.install env id create installed
  | .lookupMethods _ => node.lookupMethods id create
  | .validated _ answer => node.validated env id create answer
  | .repair _ installed => node.repair env id create installed
  | .revalidated _ answer => node.revalidated env id create answer
  | .publish _ => node.publish id create
  | .finish _ => node.finish id create
  | .raise _ => node.raise id create
  | .discardEntry _ => node.discardEntry id create
  | .discardVariant _ => node.discardVariant env id create
  | .discardDependencies _ => node.discardDependencies id create
  | .markStopped _ => node.markStopped id create
  | .stop _ => node.stop id create

end CodeNode

def CreateLabel.id : CreateLabel → CreateId
  | .begin id _ _ _ _ _ _ | .findCode id | .storeFiles id | .register id
  | .writeMeta id | .plan id | .install id _ | .lookupMethods id
  | .validated id _ | .repair id _ | .revalidated id _ | .publish id
  | .finish id | .raise id | .discardEntry id | .discardVariant id
  | .discardDependencies id | .markStopped id | .stop id => id

def CodeNode.step (env : Environment) (node : CodeNode) (label : CreateLabel) :
    Option CodeNode :=
  match label with
  | .begin id archive request names scope key waitReady =>
    node.begin env id archive request
      (readyArguments request names scope key) waitReady
  | label =>
    match node.creates.lookup label.id with
    | none => none
    | some create => node.stepCreate env create label.id label

end PycloudParallel.CodeStore
