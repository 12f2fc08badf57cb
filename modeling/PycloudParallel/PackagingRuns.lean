import PycloudParallel.PackagingBuilds
import PycloudParallel.PackagingWriter

/-!
# A cached build is a fresh build

The cache holds under a key what a fresh build of files with these fingerprints
gives.  Every build under way has worked on the files it has fingerprinted.
-/

namespace PycloudParallel.Packaging

variable {Digest Key : Type} (platform : Platform Digest Key)

namespace Platform

def view (disk : Disk) (entry : TarSourceEntry) : Name × Bytes × Bool :=
  (normalizeArcname entry.arcname, platform.holding disk entry)

theorem asMap_eq (disk : Disk) (entries : List TarSourceEntry) (name : Name) :
    platform.asMap disk entries name =
      if name = [] then none
      else ((entries.map (platform.view disk)).reverse.find? (·.1 = name)).map Prod.snd := by
  unfold asMap
  by_cases hname : name = []
  · rw [if_pos hname, if_pos hname]
  · rw [if_neg hname, if_neg hname, ← List.map_reverse, List.find?_map, Option.map_map]
    rfl

theorem asMap_congr {disk disk' : Disk} {entries entries' : List TarSourceEntry}
    (hviews : entries.map (platform.view disk) = entries'.map (platform.view disk'))
    (name : Name) :
    platform.asMap disk entries name = platform.asMap disk' entries' name := by
  rw [asMap_eq, asMap_eq, hviews]

theorem normalizedFileMode_inj {executable executable' : Bool}
    (hmode : normalizedFileMode executable = normalizedFileMode executable') :
    executable = executable' := by
  cases executable <;> cases executable' <;> simp_all [normalizedFileMode]

theorem view_eq_of_fingerprint (hsha : Function.Injective platform.sha256)
    {disk disk' : Disk} {entry entry' : TarSourceEntry}
    (hprint : platform.fingerprint disk entry = platform.fingerprint disk' entry') :
    platform.view disk entry = platform.view disk' entry' := by
  obtain ⟨arcname, sourcePath, data⟩ := entry
  obtain ⟨arcname', sourcePath', data'⟩ := entry'
  cases sourcePath with
  | none =>
    cases sourcePath' with
    | none =>
      simp only [fingerprint, Fingerprint.data.injEq] at hprint
      obtain ⟨hname, -, hdigest⟩ := hprint
      have hdata := hsha hdigest
      simp only [view, holding, hname, hdata]
    | some path' => cases hprint
  | some path =>
    cases sourcePath' with
    | none => cases hprint
    | some path' =>
      simp only [fingerprint, Fingerprint.file.injEq] at hprint
      obtain ⟨hname, hpath, hmode, hsize, hmtime⟩ := hprint
      have hexecutable := normalizedFileMode_inj hmode
      subst hpath
      simp only [view, holding, read, hname, hsize, hmtime, hexecutable]

theorem views_eq_of_fingerprints (hsha : Function.Injective platform.sha256)
    {disk disk' : Disk} {entries entries' : List TarSourceEntry}
    (hprints : entries.map (platform.fingerprint disk) =
      entries'.map (platform.fingerprint disk')) :
    entries.map (platform.view disk) = entries'.map (platform.view disk') := by
  induction entries generalizing entries' with
  | nil =>
    cases entries' with
    | nil => rfl
    | cons entry' rest' => cases hprints
  | cons entry rest ih =>
    cases entries' with
    | nil => cases hprints
    | cons entry' rest' =>
      rw [List.map_cons, List.map_cons, List.cons.injEq] at hprints
      rw [List.map_cons, List.map_cons, ih hprints.2,
        platform.view_eq_of_fingerprint hsha hprints.1]

theorem writeDeterministicTargz_congr {disk disk' : Disk}
    {entries entries' : List TarSourceEntry}
    (hagree : ∀ name, platform.asMap disk entries name = platform.asMap disk' entries' name)
    (hseparate : Separate disk entries) (hseparate' : Separate disk' entries') :
    platform.writeDeterministicTargz disk entries =
      platform.writeDeterministicTargz disk' entries' := by
  rw [(platform.writeDeterministicTargz_eq_iff disk entries).mpr hseparate,
    (platform.writeDeterministicTargz_eq_iff disk' entries').mpr hseparate',
    platform.expectedMembers_congr hagree]

end Platform

def SameFiles (disk disk' : Disk) (entries : List TarSourceEntry) : Prop :=
  ∀ entry ∈ entries, ∀ path, entry.sourcePath = some path → disk path = disk' path

section SameFiles

variable {disk disk' : Disk} {entries : List TarSourceEntry}

theorem mem_of_sortedEntries {entry : TarSourceEntry} (hmem : entry ∈ sortedEntries entries) :
    ∃ found ∈ entries, found.sourcePath = entry.sourcePath := by
  rw [sortedEntries_eq] at hmem
  obtain ⟨name, -, hlast⟩ := List.mem_filterMap.mp hmem
  obtain ⟨found, hfound, rfl⟩ := Option.map_eq_some_iff.mp hlast
  exact ⟨found, List.mem_reverse.mp (List.mem_of_find?_eq_some hfound), rfl⟩

variable (hsame : SameFiles disk disk' entries)

include hsame

theorem SameFiles.sorted : SameFiles disk disk' (sortedEntries entries) := by
  intro entry hentry path hpath
  obtain ⟨found, hfound, hsource⟩ := mem_of_sortedEntries hentry
  exact hsame found hfound path (hsource.trans hpath)

theorem SameFiles.separate (hseparate : Separate disk entries) :
    Separate disk' entries := by
  refine ⟨hseparate.unrooted, hseparate.unlinked.imp_of_mem ?_⟩
  intro first second hfirst hsecond hunlinked
  unfold linked at hunlinked ⊢
  split
  · next path other hpath hother =>
    rw [hpath, hother] at hunlinked
    dsimp only at hunlinked
    rw [hsame.sorted first hfirst path hpath, hsame.sorted second hsecond other hother]
      at hunlinked
    exact hunlinked
  · rfl

theorem SameFiles.fingerprint {entry : TarSourceEntry} (hmem : entry ∈ entries)
    : platform.fingerprint disk entry = platform.fingerprint disk' entry := by
  unfold Platform.fingerprint
  split
  · rfl
  · next path hpath => rw [hsame entry hmem path hpath]

end SameFiles

namespace Build

variable {build : Build Digest Key}

def key (build : Build Digest Key) : Key :=
  platform.digest ⟨build.cacheScope,
    build.entries.map (platform.fingerprint build.seen)⟩

def Fresh (build : Build Digest Key) (members : List Member) : Prop :=
  platform.writeDeterministicTargz build.seen build.entries = some members

def Good (disk : Disk) (build : Build Digest Key) : Prop :=
  match build.phase with
  | .fingerprinting done left =>
    ∃ before, build.entries = before ++ left ∧
      done = before.map (platform.fingerprint build.seen) ∧
      (done ≠ [] → SameFiles disk build.seen build.entries)
  | .lookingUp key => key = build.key platform ∧ SameFiles disk build.seen build.entries
  | .writing key tar left => key = build.key platform ∧
      SameFiles disk build.seen build.entries ∧ Separate build.seen build.entries ∧
      ∃ before, sortedEntries build.entries = before ++ left ∧
        before.foldlM (platform.addEntry build.seen) TarFile.empty = some tar
  | .reading key tar info path left => key = build.key platform ∧
      SameFiles disk build.seen build.entries ∧ Separate build.seen build.entries ∧
      ∃ before entry opened, sortedEntries build.entries = before ++ entry :: left ∧
        before.foldlM (platform.addEntry build.seen) TarFile.empty = some opened ∧
        entry.sourcePath = some path ∧
        platform.addEntry build.seen opened entry =
          tar.addfile info (platform.read build.seen path)
  | .storing key members => key = build.key platform ∧
      Separate build.seen build.entries ∧ build.Fresh platform members
  | .finished members => build.Fresh platform members
  | .failed => False

theorem Good.edit {disk : Disk} (hgood : build.Good platform disk) {path : Path}
    {stat : FileStat} (hstill : build.watches = true → path ∉ build.sources) :
    build.Good platform (Function.update disk path stat) := by
  have hsame : build.watches = true → SameFiles disk build.seen build.entries →
      SameFiles (Function.update disk path stat) build.seen build.entries := by
    intro hwatches hsame entry hentry other hother
    have hne : other ≠ path := by
      rintro rfl
      exact hstill hwatches (List.mem_filterMap.mpr ⟨entry, hentry, hother⟩)
    rw [Function.update_of_ne hne]
    exact hsame entry hentry other hother
  obtain ⟨scope, entries, seen, phase⟩ := build
  cases phase with
  | fingerprinting done left =>
    obtain ⟨before, hentries, hdone, hseen⟩ := hgood
    refine ⟨before, hentries, hdone, fun hne => hsame ?_ (hseen hne)⟩
    cases done with
    | nil => exact absurd rfl hne
    | cons _ _ => rfl
  | lookingUp key => exact ⟨hgood.1, hsame rfl hgood.2⟩
  | writing key tar left | reading key tar info path left =>
    exact ⟨hgood.1, hsame rfl hgood.2.1, hgood.2.2⟩
  | storing key members | finished members | failed => exact hgood

end Build

namespace PackageBuilds

variable [DecidableEq Key] {s next : PackageBuilds Digest Key}

/-- An archive is kept under the key of separate files that a fresh build would make
it of. -/
def CacheGood (s : PackageBuilds Digest Key) : Prop :=
  ∀ key members, s.cache key = some members →
    ∃ scope entries disk, Separate disk entries ∧
      key = platform.digest ⟨scope, entries.map (platform.fingerprint disk)⟩ ∧
      platform.writeDeterministicTargz disk entries = some members

structure Good (s : PackageBuilds Digest Key) : Prop where
  cache : s.CacheGood platform
  builds : ∀ build ∈ s.builds, build.Good platform s.disk

omit [DecidableEq Key] in
theorem Good.setBuild (hgood : s.Good platform) {place : ℕ} {build : Build Digest Key}
    (hbuild : build.Good platform s.disk) : (s.setBuild place build).Good platform := by
  refine ⟨hgood.cache, ?_⟩
  intro found hfound
  rcases List.mem_or_eq_of_mem_set hfound with hold | rfl
  · exact hgood.builds found hold
  · exact hbuild

omit [DecidableEq Key] in
theorem CacheGood.fresh (hcache : s.CacheGood platform)
    (hsha : Function.Injective platform.sha256)
    (hdigest : Function.Injective platform.digest) {build : Build Digest Key}
    {members : List Member} (hfound : s.cache (build.key platform) = some members)
    (hseparate : Separate build.seen build.entries) : build.Fresh platform members := by
  obtain ⟨scope, entries, disk, hother, hkey, hwritten⟩ := hcache _ _ hfound
  have hpayload := hdigest hkey
  have hprints := congrArg KeyPayload.entries hpayload
  have hviews := platform.views_eq_of_fingerprints hsha hprints
  unfold Build.Fresh
  rw [platform.writeDeterministicTargz_congr (platform.asMap_congr hviews) hseparate hother]
  exact hwritten

omit [DecidableEq Key] in
theorem Good.fingerprints (hgood : s.Good platform) {build : Build Digest Key}
    (hbuild : build.Good platform s.disk) {done : List (Fingerprint Digest)}
    {entry : TarSourceEntry} {left : List TarSourceEntry}
    (hphase : build.phase = .fingerprinting done (entry :: left)) (place : ℕ) :
    (s.setBuild place { build with
      seen := s.disk
      phase := .fingerprinting (done ++ [platform.fingerprint s.disk entry]) left }).Good
        platform := by
  refine hgood.setBuild platform ?_
  unfold Build.Good at hbuild
  rw [hphase] at hbuild
  obtain ⟨before, hentries, hdone, hseen⟩ := hbuild
  refine ⟨before ++ [entry], ?_, ?_, fun _ _ _ _ _ => rfl⟩
  · rw [List.append_assoc]
    exact hentries
  · rw [List.map_append]
    refine congrArg (· ++ [_]) (hdone.trans ?_)
    -- What was fingerprinted before is still as it was.
    cases before with
    | nil => rfl
    | cons first rest =>
      have hsame := hseen (by rw [hdone]; exact List.cons_ne_nil _ _)
      refine List.map_congr_left fun other hother => ?_
      have hmem : other ∈ build.entries := by
        rw [hentries]
        exact List.mem_append_left _ hother
      exact (hsame.fingerprint platform hmem).symm

omit [DecidableEq Key] in
theorem Good.adds (hgood : s.Good platform) {build : Build Digest Key} {key : Key}
    {before left : List TarSourceEntry} {entry : TarSourceEntry} {opened : TarFile}
    (hkey : key = build.key platform) (hsame : SameFiles s.disk build.seen build.entries)
    (hseparate : Separate build.seen build.entries)
    (hsorted : sortedEntries build.entries = before ++ entry :: left)
    (hopened : before.foldlM (platform.addEntry build.seen) TarFile.empty = some opened)
    (adding : Option TarFile) (hadding : platform.addEntry build.seen opened entry = adding)
    (place : ℕ) :
    (s.setBuild place (build.goTo (added key left adding))).Good platform := by
  have hsome : ∃ after, platform.addEntry build.seen opened entry = some after := by
    rcases platform.addEntry_spec build.seen opened entry with ⟨-, hadd⟩ | ⟨-, hadd⟩ <;>
      exact ⟨_, hadd⟩
  obtain ⟨after, hadd⟩ := hsome
  rw [hadd] at hadding
  subst hadding
  refine hgood.setBuild platform ⟨hkey, hsame, hseparate, before ++ [entry], ?_, ?_⟩
  · rw [List.append_assoc]
    exact hsorted
  · change (before ++ [entry]).foldlM (platform.addEntry build.seen) TarFile.empty = some after
    rw [List.foldlM_append, hopened]
    exact (bind_pure _).trans hadd

theorem Good.buildStep (hsha : Function.Injective platform.sha256)
    (hdigest : Function.Injective platform.digest) (hgood : s.Good platform) {place : ℕ}
    {build : Build Digest Key} {caching : Bool} (hbuild : s.builds[place]? = some build)
    (hok : filesHoldStill s (.build place caching) = true)
    (hstep : s.buildStep platform place build caching = some next) :
    next.Good platform := by
  have hthis := hgood.builds build (List.mem_of_getElem? hbuild)
  obtain ⟨scope, entries, seen, phase⟩ := build
  cases phase with
  | fingerprinting done left =>
    cases left with
    | cons entry left =>
      cases hstep
      exact hgood.fingerprints platform hthis rfl place
    | nil =>
      cases hstep
      obtain ⟨before, hentries, hdone, hseen⟩ := hthis
      rw [List.append_nil] at hentries
      subst hentries
      refine hgood.setBuild platform ⟨?_, ?_⟩
      · rw [hdone]
        rfl
      · cases hentries : entries with
        | nil => exact fun entry hentry => (by cases hentry)
        | cons first rest =>
          have hne : done ≠ [] := by
            rw [hdone, hentries]
            exact List.cons_ne_nil _ _
          rw [← hentries]
          exact hseen hne
  | lookingUp key =>
    obtain ⟨hkey, hsame⟩ := hthis
    have hseparate : Separate seen entries := by
      simp only [filesHoldStill, hbuild, decide_eq_true_eq] at hok
      exact hsame.separate hok
    simp only [PackageBuilds.buildStep] at hstep
    split at hstep
    · next members hfound =>
      cases hstep
      refine hgood.setBuild platform ?_
      cases caching with
      | false => cases hfound
      | true =>
        rw [if_pos rfl, hkey] at hfound
        exact hgood.cache.fresh platform hsha hdigest hfound hseparate
    · cases hstep
      exact hgood.setBuild platform ⟨hkey, hsame, hseparate, [], rfl, rfl⟩
  | writing key tar left =>
    obtain ⟨hkey, hsame, hseparate, before, hsorted, hopened⟩ := hthis
    cases left with
    | nil =>
      cases hstep
      rw [List.append_nil] at hsorted
      refine hgood.setBuild platform ⟨hkey, hseparate, ?_⟩
      change platform.writeDeterministicTargz seen entries = some tar.members
      unfold Platform.writeDeterministicTargz
      change sortedEntries entries = before at hsorted
      rw [hsorted, hopened]
      rfl
    | cons entry left =>
      simp only [PackageBuilds.buildStep] at hstep
      split at hstep
      · next hpath =>
        cases hstep
        refine hgood.adds platform hkey hsame hseparate hsorted hopened _ ?_ place
        simp only [Platform.addEntry, hpath]
      · next path hpath =>
        have hentry : entry ∈ sortedEntries entries := by
          rw [show sortedEntries entries = before ++ entry :: left from hsorted]
          exact List.mem_append_right _ List.mem_cons_self
        have hdisk : s.disk path = seen path := hsame.sorted entry hentry path hpath
        rw [hdisk] at hstep
        split at hstep
        · next hlink =>
          cases hstep
          refine hgood.adds platform hkey hsame hseparate hsorted hopened
            (some (tar.gettarinfo (seen path) entry.arcname).2) ?_ place
          simp only [Platform.addEntry, hpath, hlink]
        · next hregular =>
          cases hstep
          have hadd : platform.addEntry seen tar entry =
              (tar.gettarinfo (seen path) entry.arcname).2.addfile
                (scrubbed (tar.gettarinfo (seen path) entry.arcname).1 (seen path).executable)
                (platform.read seen path) := by
            simp only [Platform.addEntry, hpath, hregular]
          exact hgood.setBuild platform
            ⟨hkey, hsame, hseparate, before, entry, tar, hsorted, hopened, hpath, hadd⟩
  | reading key tar info path left =>
    obtain ⟨hkey, hsame, hseparate, before, entry, opened, hsorted, hopened, hpath, hadd⟩ := hthis
    cases hstep
    have hentry : entry ∈ sortedEntries entries := by
      rw [show sortedEntries entries = before ++ entry :: left from hsorted]
      exact List.mem_append_right _ List.mem_cons_self
    have hdisk : s.disk path = seen path := hsame.sorted entry hentry path hpath
    refine hgood.adds platform hkey hsame hseparate hsorted hopened _ ?_ place
    rw [hadd]
    unfold Platform.read
    rw [hdisk]
  | storing key members =>
    obtain ⟨hkey, hseparate, hfresh⟩ := hthis
    simp only [PackageBuilds.buildStep] at hstep
    split at hstep
    · next stored _ hfound =>
      cases hstep
      rw [hkey] at hfound
      exact hgood.setBuild platform
        (hgood.cache.fresh platform hsha hdigest hfound hseparate)
    · cases hstep
      have hstored : ({ s with cache := Function.update s.cache key (some members) } :
          PackageBuilds Digest Key).Good platform := by
        refine ⟨?_, hgood.builds⟩
        intro other kept hfound
        change Function.update s.cache key (some members) other = some kept at hfound
        rcases eq_or_ne other key with rfl | hne
        · rw [Function.update_self] at hfound
          cases hfound
          exact ⟨scope, entries, seen, hseparate, hkey, hfresh⟩
        · rw [Function.update_of_ne hne] at hfound
          exact hgood.cache other kept hfound
      exact hstored.setBuild platform hfresh
    · cases hstep
      exact hgood.setBuild platform hfresh
  | finished members | failed => cases hstep

theorem Good.step (hsha : Function.Injective platform.sha256)
    (hdigest : Function.Injective platform.digest) (hgood : s.Good platform)
    {label : PackagingLabel Key} (hok : filesHoldStill s label = true)
    (hstep : s.step platform label = some next) : next.Good platform := by
  cases label with
  | edit path stat =>
    cases hstep
    refine ⟨hgood.cache, fun build hbuild => ?_⟩
    refine (hgood.builds build hbuild).edit platform ?_
    intro hwatches hmem
    have hstill := List.all_eq_true.mp hok build hbuild
    rw [hwatches, decide_eq_true hmem] at hstill
    cases hstill
  | start scope entries =>
    cases hstep
    refine ⟨hgood.cache, fun build hbuild => ?_⟩
    rcases List.mem_append.mp hbuild with hold | hnew
    · exact hgood.builds build hold
    · rw [List.mem_singleton.mp hnew]
      exact ⟨[], rfl, rfl, fun hne => absurd rfl hne⟩
  | build place caching =>
    obtain ⟨build, hbuild, hmove⟩ := Option.bind_eq_some_iff.mp hstep
    exact hgood.buildStep platform hsha hdigest hbuild hok hmove
  | prune key =>
    cases hstep
    refine ⟨?_, hgood.builds⟩
    intro other kept hfound
    change Function.update s.cache key none other = some kept at hfound
    rcases eq_or_ne other key with rfl | hne
    · rw [Function.update_self] at hfound
      cases hfound
    · rw [Function.update_of_ne hne] at hfound
      exact hgood.cache other kept hfound

end PackageBuilds

/-- The build has not failed, and if it is over it has given the archive that a fresh
build of the files it has fingerprinted gives. -/
def Build.Faithful (build : Build Digest Key) : Prop :=
  match build.phase with
  | .finished members => build.Fresh platform members
  | .failed => False
  | _ => True

theorem packages_depend_on_contents [DecidableEq Key]
    (hsha : Function.Injective platform.sha256)
    (hdigest : Function.Injective platform.digest) :
    (∀ disk entries, platform.writeDeterministicTargz disk entries =
        some (platform.expectedMembers disk entries) ↔ Separate disk entries) ∧
      (∀ disk disk' entries entries',
        (∀ name, platform.asMap disk entries name = platform.asMap disk' entries' name) →
          platform.expectedMembers disk entries = platform.expectedMembers disk' entries') ∧
      ∀ (disk : Disk) (s : PackageBuilds Digest Key),
        GuardedRun (PackageBuilds.step platform)
            (fun s label => filesHoldStill s label = true) (PackageBuilds.init disk) s →
          ∀ build ∈ s.builds, build.Faithful platform := by
  refine ⟨platform.writeDeterministicTargz_eq_iff, ?_, ?_⟩
  · intro disk disk' entries entries' hagree
    exact platform.expectedMembers_congr hagree
  · intro disk s hrun build hbuild
    have hgood : s.Good platform :=
      hrun.invariant (PackageBuilds.Good platform)
        ⟨fun _ _ hfound => (by cases hfound), fun _ hmem => (by cases hmem)⟩
        fun _ _ _ hgood hok hstep => hgood.step platform hsha hdigest hok hstep
    have hthis := hgood.builds build hbuild
    obtain ⟨scope, entries, seen, phase⟩ := build
    cases phase with
    | finished members => exact hthis
    | failed => exact hthis
    | fingerprinting done left => exact trivial
    | lookingUp key => exact trivial
    | writing key tar left => exact trivial
    | reading key tar info path left => exact trivial
    | storing key members => exact trivial

def repeatedBytes : Platform Bytes (KeyPayload Bytes) where
  contents _ _ size mtimeNs := List.replicate size (.ofNat mtimeNs.toNat)
  contents_length _ _ _ _ := List.length_replicate
  sha256 := id
  digest := id

/-- A file of two bytes; `mark` tells the versions apart. -/
def sampleStat (inode links : ℕ) (mark : ℤ) : FileStat where
  inode := (inode, 1)
  links := links
  executable := false
  size := 2
  mtimeNs := mark
  mode := 384
  uid := 5
  gid := 5
  uname := []
  gname := []

def sampleFile (name : Char) : TarSourceEntry := ⟨[name], some [name], []⟩

/-- A build of two files, an edit, and two more builds, the last one out of the cache. -/
def threeBuilds : List (PackagingLabel (KeyPayload Bytes)) :=
  [.start [] [sampleFile 'b', sampleFile 'a']] ++ List.replicate 10 (.build 0 true) ++
    [.edit ['a'] (sampleStat 1 1 9), .start [] [sampleFile 'b', sampleFile 'a']] ++
    List.replicate 10 (.build 1 true) ++ [.start [] [sampleFile 'b', sampleFile 'a']] ++
    List.replicate 4 (.build 2 true)

def sampleDisk : Disk := fun path =>
  sampleStat (if path = ['a'] then 1 else 2) 1 (if path = ['a'] then 3 else 4)

theorem packages_depend_on_contents_threeBuilds :
    ∃ s : PackageBuilds Bytes (KeyPayload Bytes),
      s.builds.map (fun build => match build.phase with
        | .finished members => members.map fun member => member.2
        | _ => []) = [[[3, 3], [4, 4]], [[9, 9], [4, 4]], [[9, 9], [4, 4]]] ∧
      ∀ build ∈ s.builds, build.Faithful repeatedBytes :=
  ⟨_, rfl,
    (packages_depend_on_contents repeatedBytes Function.injective_id
      Function.injective_id).2.2 sampleDisk _
      (guardedRun_of_checkedRun threeBuilds
        (show checkedRun (PackageBuilds.step repeatedBytes)
          (fun s label => filesHoldStill s label = true)
          (PackageBuilds.init sampleDisk) threeBuilds = some _ from rfl))⟩

/-- Two names of one file: only the first gets a member.  And a file that is edited
after its fingerprint: the build ends with the later content. -/
theorem package_loses_link_and_keeps_edit :
    (∃ disk entries,
      (repeatedBytes.writeDeterministicTargz disk entries).map List.length = some 1 ∧
        (repeatedBytes.expectedMembers disk entries).length = 2) ∧
    ∃ s : PackageBuilds Bytes (KeyPayload Bytes),
      Reachable (PackageBuilds.step repeatedBytes) (PackageBuilds.init sampleDisk) s ∧
        ∃ build ∈ s.builds, ¬build.Faithful repeatedBytes := by
  constructor
  · exact ⟨fun _ => sampleStat 1 2 3, [sampleFile 'a', sampleFile 'b'], rfl, rfl⟩
  · refine ⟨_, reachable_of_runLabels ([.start [] [sampleFile 'a'], .build 0 true,
      .edit ['a'] (sampleStat 1 1 9)] ++ List.replicate 6 (.build 0 true)) rfl, _,
      List.mem_cons_self, ?_⟩
    intro hfaithful
    have hbytes := congrArg (Option.map fun members => members.map Prod.snd) hfaithful
    change some [[3, 3]] = some [[9, 9]] at hbytes
    exact absurd hbytes (by decide)

end PycloudParallel.Packaging
