import PycloudParallel.FoundationGuardedRun
import PycloudParallel.PackagingMembers

/-!
# Cached builds of packages

Builds run side by side, with edits of the source files between their steps.  A
build takes the fingerprints, looks its key up in the package cache, and where
that has nothing writes the archive and stores it.
-/

namespace PycloudParallel.Packaging

variable {Digest Key : Type}

/-- Where a call of `_write_cached_deterministic_targz` is. -/
inductive BuildPhase (Digest Key : Type)
  | fingerprinting (done : List (Fingerprint Digest)) (left : List TarSourceEntry)
  | lookingUp (key : Key)
  | writing (key : Key) (tar : TarFile) (left : List TarSourceEntry)
  | reading (key : Key) (tar : TarFile) (info : TarInfo) (path : Path)
      (left : List TarSourceEntry)
  | storing (key : Key) (members : List Member)
  | finished (members : List Member)
  | failed

structure Build (Digest Key : Type) where
  cacheScope : Name
  entries : List TarSourceEntry
  /-- Ghost: the files as they were when the last fingerprint was taken. -/
  seen : Disk
  phase : BuildPhase Digest Key

structure PackageBuilds (Digest Key : Type) where
  disk : Disk
  cache : Key → Option (List Member)
  builds : List (Build Digest Key)

inductive PackagingLabel (Key : Type)
  | edit (path : Path) (stat : FileStat)
  | start (cacheScope : Name) (entries : List TarSourceEntry)
  /-- The next step of a build; `caching` is what the environment says there. -/
  | build (place : ℕ) (caching : Bool)
  | prune (key : Key)

namespace Build

def watches (build : Build Digest Key) : Bool :=
  match build.phase with
  | .fingerprinting done _ => !done.isEmpty
  | .lookingUp _ | .writing _ _ _ | .reading _ _ _ _ _ => true
  | .storing _ _ | .finished _ | .failed => false

def sources (build : Build Digest Key) : List Path :=
  build.entries.filterMap TarSourceEntry.sourcePath

def goTo (build : Build Digest Key) (phase : BuildPhase Digest Key) : Build Digest Key :=
  { build with phase := phase }

end Build

namespace PackageBuilds

variable (platform : Platform Digest Key) (s : PackageBuilds Digest Key)

def init (disk : Disk) : PackageBuilds Digest Key :=
  ⟨disk, fun _ => none, []⟩

def setBuild (place : ℕ) (build : Build Digest Key) : PackageBuilds Digest Key :=
  { s with builds := s.builds.set place build }

/-- The archive after an `addfile`, or the `OSError` of one. -/
def added (key : Key) (left : List TarSourceEntry) :
    Option TarFile → BuildPhase Digest Key
  | none => .failed
  | some tar => .writing key tar left

variable [DecidableEq Key]

def buildStep (place : ℕ) (build : Build Digest Key) (caching : Bool) :
    Option (PackageBuilds Digest Key) :=
  match build.phase with
  | .fingerprinting done (entry :: left) =>
    some (s.setBuild place { build with
      seen := s.disk
      phase := .fingerprinting (done ++ [platform.fingerprint s.disk entry]) left })
  | .fingerprinting done [] =>
    some (s.setBuild place
      (build.goTo (.lookingUp (platform.digest ⟨build.cacheScope, done⟩))))
  | .lookingUp key =>
    match if caching then s.cache key else none with
    | some members => some (s.setBuild place (build.goTo (.finished members)))
    | none =>
      some (s.setBuild place
        (build.goTo (.writing key TarFile.empty (sortedEntries build.entries))))
  | .writing key tar [] =>
    some (s.setBuild place (build.goTo (.storing key tar.members)))
  | .writing key tar (entry :: left) =>
    match entry.sourcePath with
    | none =>
      some (s.setBuild place (build.goTo
        (added key left (tar.addfile (dataInfo entry.arcname entry.data) entry.data))))
    | some path =>
      let (info, tar) := tar.gettarinfo (s.disk path) entry.arcname
      match info.type with
      | .link => some (s.setBuild place (build.goTo (.writing key tar left)))
      | .regular =>
        some (s.setBuild place (build.goTo
          (.reading key tar (scrubbed info (s.disk path).executable) path left)))
  | .reading key tar info path left =>
    some (s.setBuild place (build.goTo
      (added key left (tar.addfile info (platform.read s.disk path)))))
  | .storing key members =>
    match caching, s.cache key with
    | true, some stored => some (s.setBuild place (build.goTo (.finished stored)))
    | true, none =>
      some ({ s with cache := Function.update s.cache key (some members) }.setBuild place
        (build.goTo (.finished members)))
    | false, _ => some (s.setBuild place (build.goTo (.finished members)))
  | .finished _ | .failed => none

def step (s : PackageBuilds Digest Key) :
    PackagingLabel Key → Option (PackageBuilds Digest Key)
  | .edit path stat => some { s with disk := Function.update s.disk path stat }
  | .start cacheScope entries =>
    some { s with builds := s.builds ++
      [⟨cacheScope, entries, s.disk, .fingerprinting [] entries⟩] }
  | .build place caching =>
    (s.builds[place]?).bind fun build => s.buildStep platform place build caching
  | .prune key => some { s with cache := Function.update s.cache key none }

end PackageBuilds

/-- No file is edited between the first fingerprint and the last read of a build
that has it, and the entries are separate where a build looks its key up. -/
def filesHoldStill (s : PackageBuilds Digest Key) : PackagingLabel Key → Bool
  | .edit path _ =>
    s.builds.all fun build => !(build.watches && decide (path ∈ build.sources))
  | .build place _ =>
    match s.builds[place]? with
    | some ⟨_, entries, _, .lookingUp _⟩ => decide (Separate s.disk entries)
    | _ => true
  | .start _ _ | .prune _ => true

end PycloudParallel.Packaging
