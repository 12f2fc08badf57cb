import PycloudParallel.PackagingMembers

/-!
# What the writer leaves out

The writer adds one member for each entry, but for an entry whose file it has met
through another link.
-/

namespace PycloudParallel.Packaging

/-- The name that `tarfile` writes for an entry. -/
def shownName (entry : TarSourceEntry) : Name :=
  match entry.sourcePath with
  | none => entry.arcname
  | some _ => entry.arcname.dropWhile (· = '/')

theorem shownName_eq_iff {entry : TarSourceEntry} :
    shownName entry = entry.arcname ↔ rooted entry = false := by
  obtain ⟨arcname, sourcePath, data⟩ := entry
  cases sourcePath with
  | none => exact iff_of_true rfl rfl
  | some path =>
    change arcname.dropWhile (· = '/') = arcname ↔ _
    unfold rooted
    cases arcname with
    | nil => exact iff_of_true rfl rfl
    | cons char rest =>
      by_cases hslash : char = '/'
      · rw [List.dropWhile_cons_of_pos (by simpa using hslash)]
        refine iff_of_false ?_ ?_
        · intro hsame
          have hle := (List.dropWhile_sublist (l := rest) (p := (· = '/'))).length_le
          rw [hsame, List.length_cons] at hle
          omega
        · simp [hslash]
      · rw [List.dropWhile_cons_of_neg (by simpa using hslash)]
        exact iff_of_true rfl (by simp [hslash])

/-- `gettarinfo` reports the entry as a link. -/
def skips (disk : Disk) (tar : TarFile) (entry : TarSourceEntry) : Prop :=
  ∃ path first, entry.sourcePath = some path ∧ 1 < (disk path).links ∧
    tar.inodes.lookup (disk path).inode = some first ∧ shownName entry ≠ first

def rememberedInodes (disk : Disk) (tar : TarFile) (entry : TarSourceEntry) :
    List ((ℕ × ℕ) × Name) :=
  match entry.sourcePath with
  | none => tar.inodes
  | some path =>
    if (disk path).inode.1 = 0 then tar.inodes
    else ((disk path).inode, shownName entry) :: tar.inodes

namespace Platform

variable {Digest Key : Type} (platform : Platform Digest Key) {disk : Disk}

theorem length_read (disk : Disk) (path : Path) :
    (platform.read disk path).length = (disk path).size :=
  platform.contents_length _ _ _ _

theorem addfile_whole (tar : TarFile) {info : TarInfo} {content : Bytes}
    (hsize : content.length = info.size) :
    tar.addfile info content =
      some { tar with members := tar.members ++ [(info, content)] } := by
  unfold TarFile.addfile
  rw [if_neg (Nat.not_lt.mpr hsize.ge), ← hsize, List.take_length]

theorem addEntry_spec (disk : Disk) (tar : TarFile) (entry : TarSourceEntry) :
    skips disk tar entry ∧ platform.addEntry disk tar entry = some tar ∨
      ¬skips disk tar entry ∧ platform.addEntry disk tar entry = some
        { inodes := rememberedInodes disk tar entry
          members := tar.members ++
            [expectedMember (shownName entry) (platform.holding disk entry)] } := by
  obtain ⟨arcname, sourcePath, data⟩ := entry
  cases sourcePath with
  | none =>
    right
    refine ⟨?_, addfile_whole tar rfl⟩
    rintro ⟨path, first, hpath, -⟩
    cases hpath
  | some path =>
    have hlength := platform.length_read disk path
    have hregular : ∀ remembered : TarFile, remembered.members = tar.members →
        remembered.addfile
          (scrubbed
            { name := arcname.dropWhile (· = '/')
              size := (disk path).size
              mode := (disk path).mode
              mtime := (disk path).mtimeNs / 1000000000
              uid := (disk path).uid
              gid := (disk path).gid
              uname := (disk path).uname
              gname := (disk path).gname
              type := .regular
              linkname := [] } (disk path).executable) (platform.read disk path) =
          some ⟨remembered.inodes, tar.members ++
            [expectedMember (arcname.dropWhile (· = '/'))
              (platform.read disk path, (disk path).executable)]⟩ := by
      intro remembered hmembers
      rw [addfile_whole _ hlength, hmembers]
      congr 3
      rw [expectedMember, dataInfo, hlength]
      rfl
    have hremembered : ∀ tar' : TarFile, tar' = (if (disk path).inode.1 = 0 then tar
        else { tar with inodes :=
          ((disk path).inode, arcname.dropWhile (· = '/')) :: tar.inodes }) →
        tar'.members = tar.members ∧
          tar'.inodes = rememberedInodes disk tar ⟨arcname, some path, data⟩ := by
      rintro tar' rfl
      unfold rememberedInodes
      dsimp only
      split <;> exact ⟨rfl, rfl⟩
    obtain ⟨hmembers, hinodes⟩ := hremembered _ rfl
    have hadded := hregular _ hmembers
    rw [hinodes] at hadded
    cases hlookup : tar.inodes.lookup (disk path).inode with
    | none =>
      right
      refine ⟨?_, ?_⟩
      · rintro ⟨other, first, hother, -, hfirst, -⟩
        cases hother
        rw [hlookup] at hfirst
        cases hfirst
      · simp only [addEntry, TarFile.gettarinfo, hlookup]
        exact hadded
    | some first =>
      by_cases hlink : 1 < (disk path).links ∧ arcname.dropWhile (· = '/') ≠ first
      · left
        refine ⟨⟨path, first, rfl, hlink.1, hlookup, hlink.2⟩, ?_⟩
        simp only [addEntry, TarFile.gettarinfo, hlookup, if_pos hlink]
      · right
        refine ⟨?_, ?_⟩
        · rintro ⟨other, found, hother, hlinks, hfound, hname⟩
          cases hother
          rw [hlookup] at hfound
          cases hfound
          exact hlink ⟨hlinks, hname⟩
        · simp only [addEntry, TarFile.gettarinfo, hlookup, if_neg hlink]
          exact hadded

theorem addEntries_length (disk : Disk) (left : List TarSourceEntry) (tar : TarFile) :
    ∃ after, left.foldlM (platform.addEntry disk) tar = some after ∧
      ∃ added, after.members = tar.members ++ added ∧ added.length ≤ left.length := by
  induction left generalizing tar with
  | nil => exact ⟨tar, rfl, [], (List.append_nil _).symm, le_rfl⟩
  | cons entry rest ih =>
    rw [List.foldlM_cons]
    rcases platform.addEntry_spec disk tar entry with ⟨-, hadd⟩ | ⟨-, hadd⟩
    · obtain ⟨after, hfold, added, hmembers, hlength⟩ := ih tar
      rw [hadd]
      exact ⟨after, hfold, added, hmembers, hlength.trans (Nat.le_succ _)⟩
    · rw [hadd]
      obtain ⟨after, hfold, added, hmembers, hlength⟩ := ih
        { inodes := rememberedInodes disk tar entry
          members := tar.members ++
            [expectedMember (shownName entry) (platform.holding disk entry)] }
      refine ⟨after, hfold, _ :: added, hmembers.trans (List.append_assoc _ _ _), ?_⟩
      exact Nat.succ_le_succ hlength

end Platform

/-- The remembered inodes are those of the files met so far, under their names. -/
structure Met (disk : Disk) (done : List TarSourceEntry) (tar : TarFile) : Prop where
  known : ∀ inode name, tar.inodes.lookup inode = some name → inode.1 ≠ 0 ∧
    ∃ entry ∈ done, ∃ path, entry.sourcePath = some path ∧
      (disk path).inode = inode ∧ entry.arcname = name
  met : ∀ entry ∈ done, ∀ path, entry.sourcePath = some path →
    (disk path).inode.1 ≠ 0 → (tar.inodes.lookup (disk path).inode).isSome

theorem met_empty (disk : Disk) : Met disk [] TarFile.empty :=
  ⟨fun _ _ hlookup => (by cases hlookup), fun _ hmem => (by cases hmem)⟩

theorem Met.add {disk : Disk} {done : List TarSourceEntry} {tar : TarFile}
    (hmet : Met disk done tar) (entry : TarSourceEntry)
    (hshown : shownName entry = entry.arcname) (members : List Member) :
    Met disk (done ++ [entry]) ⟨rememberedInodes disk tar entry, members⟩ := by
  have hinodes : ∀ inode, (rememberedInodes disk tar entry).lookup inode =
      if ∃ path, entry.sourcePath = some path ∧ (disk path).inode = inode ∧ inode.1 ≠ 0 then
        some entry.arcname
      else tar.inodes.lookup inode := by
    intro inode
    unfold rememberedInodes
    cases hpath : entry.sourcePath with
    | none => simp
    | some path =>
      dsimp only
      by_cases hzero : (disk path).inode.1 = 0
      · rw [if_pos hzero, if_neg]
        rintro ⟨other, hother, rfl, hne⟩
        cases hother
        exact hne hzero
      · rw [if_neg hzero, hshown, List.lookup_cons]
        by_cases hsame : inode = (disk path).inode
        · rw [hsame, beq_self_eq_true]
          exact (if_pos ⟨path, rfl, rfl, hzero⟩).symm
        · rw [beq_false_of_ne hsame, if_neg]
          rintro ⟨other, hother, hinode, -⟩
          cases hother
          exact hsame hinode.symm
  constructor
  · intro inode name hlookup
    change (rememberedInodes disk tar entry).lookup inode = some name at hlookup
    rw [hinodes inode] at hlookup
    split at hlookup
    · next hhere =>
      obtain ⟨path, hpath, hinode, hne⟩ := hhere
      cases hlookup
      exact ⟨hne, entry, List.mem_append_right _ List.mem_cons_self, path, hpath, hinode, rfl⟩
    · obtain ⟨hne, found, hfound, hrest⟩ := hmet.known inode name hlookup
      exact ⟨hne, found, List.mem_append_left _ hfound, hrest⟩
  · intro found hfound path hpath hne
    change ((rememberedInodes disk tar entry).lookup (disk path).inode).isSome
    rw [hinodes]
    split
    · rfl
    · next hnot =>
      rcases List.mem_append.mp hfound with hold | hnew
      · exact hmet.met found hold path hpath hne
      · rw [List.mem_singleton.mp hnew] at hpath
        exact absurd ⟨path, hpath, rfl, hne⟩ hnot

theorem Met.skips_iff {disk : Disk} {done : List TarSourceEntry} {tar : TarFile}
    (hmet : Met disk done tar) {entry : TarSourceEntry}
    (hshown : shownName entry = entry.arcname)
    (hnew : ∀ earlier ∈ done, earlier.arcname ≠ entry.arcname) :
    skips disk tar entry ↔ ∃ earlier ∈ done, linked disk earlier entry = true := by
  constructor
  · rintro ⟨path, first, hpath, hlinks, hlookup, -⟩
    obtain ⟨hne, earlier, hearlier, other, hother, hinode, -⟩ := hmet.known _ _ hlookup
    refine ⟨earlier, hearlier, ?_⟩
    unfold linked
    rw [hother, hpath]
    dsimp only
    rw [hinode]
    simp [hne, hlinks]
  · rintro ⟨earlier, hearlier, hlinked⟩
    unfold linked at hlinked
    split at hlinked
    · next path other hpath hother =>
      simp only [ne_eq, Bool.and_eq_true, decide_eq_true_eq] at hlinked
      obtain ⟨⟨hne, hinode⟩, hlinks⟩ := hlinked
      obtain ⟨first, hlookup⟩ :=
        Option.isSome_iff_exists.mp (hmet.met earlier hearlier path hpath hne)
      rw [hinode] at hlookup
      obtain ⟨-, found, hfound, -, -, -, hname⟩ := hmet.known _ _ hlookup
      refine ⟨other, first, hother, hlinks, hlookup, ?_⟩
      rw [hshown, ← hname]
      exact (hnew found hfound).symm
    · cases hlinked

namespace Platform

variable {Digest Key : Type} (platform : Platform Digest Key) {disk : Disk}

theorem addEntries_of_skip {entry : TarSourceEntry} {rest : List TarSourceEntry}
    {tar : TarFile} (hadd : platform.addEntry disk tar entry = some tar)
    (expected : TarSourceEntry → Member) :
    ((entry :: rest).foldlM (platform.addEntry disk) tar).map TarFile.members ≠
      some (tar.members ++ (entry :: rest).map expected) := by
  obtain ⟨after, hfold, added, hmembers, hlength⟩ :=
    platform.addEntries_length disk rest tar
  have hall : (entry :: rest).foldlM (platform.addEntry disk) tar = some after := by
    rw [List.foldlM_cons, hadd]
    exact hfold
  rw [hall, Option.map_some, hmembers]
  intro hsame
  have hadded := List.append_cancel_left (Option.some.inj hsame)
  rw [hadded, List.length_map, List.length_cons] at hlength
  omega

theorem addEntries_of_renamed {entry : TarSourceEntry} {rest : List TarSourceEntry}
    {tar next : TarFile} (hadd : platform.addEntry disk tar entry = some next)
    (hmembers : next.members = tar.members ++
      [expectedMember (shownName entry) (platform.holding disk entry)])
    (hshown : shownName entry ≠ entry.arcname) :
    ((entry :: rest).foldlM (platform.addEntry disk) tar).map TarFile.members ≠
      some (tar.members ++ (entry :: rest).map fun entry =>
        expectedMember entry.arcname (platform.holding disk entry)) := by
  obtain ⟨after, hfold, added, hafter, -⟩ :=
    platform.addEntries_length disk rest next
  have hall : (entry :: rest).foldlM (platform.addEntry disk) tar = some after := by
    rw [List.foldlM_cons, hadd]
    exact hfold
  rw [hall, Option.map_some, hafter, hmembers, List.append_assoc, List.map_cons]
  intro hsame
  have hadded := List.append_cancel_left (Option.some.inj hsame)
  have hfirst := (List.cons.inj hadded).1
  exact hshown (congrArg (fun member : Member => member.1.name) hfirst)

/-- The loop writes what is expected of the entries ahead exactly when none of them
is rooted or has a file met before through another link. -/
theorem addEntries_exact (disk : Disk) (left done : List TarSourceEntry) (tar : TarFile)
    (hmet : Met disk done tar)
    (hnames : ((done ++ left).map TarSourceEntry.arcname).Nodup) :
    (left.foldlM (platform.addEntry disk) tar).map TarFile.members =
        some (tar.members ++ left.map fun entry =>
          expectedMember entry.arcname (platform.holding disk entry)) ↔
      (∀ entry ∈ left, rooted entry = false) ∧
        (∀ earlier ∈ done, ∀ entry ∈ left, linked disk earlier entry = false) ∧
        left.Pairwise fun first second => linked disk first second = false := by
  induction left generalizing done tar with
  | nil => simp
  | cons entry rest ih =>
    have hfresh : ∀ earlier ∈ done, earlier.arcname ≠ entry.arcname := by
      intro earlier hearlier hsame
      rw [List.map_append] at hnames
      exact (List.nodup_append.mp hnames).2.2 _ (List.mem_map_of_mem hearlier) _
        List.mem_cons_self hsame
    by_cases hrooted : rooted entry = false
    · have hshown := shownName_eq_iff.mpr hrooted
      have hskips := hmet.skips_iff hshown hfresh
      rcases platform.addEntry_spec disk tar entry with ⟨hskip, hadd⟩ | ⟨hstay, hadd⟩
      · obtain ⟨earlier, hearlier, hlinked⟩ := hskips.mp hskip
        refine iff_of_false (platform.addEntries_of_skip hadd _) ?_
        rintro ⟨-, hdone, -⟩
        rw [hdone earlier hearlier entry List.mem_cons_self] at hlinked
        cases hlinked
      · have hunlinked : ∀ earlier ∈ done, linked disk earlier entry = false := by
          intro earlier hearlier
          rw [← Bool.not_eq_true]
          intro hlinked
          exact hstay (hskips.mpr ⟨earlier, hearlier, hlinked⟩)
        have hrest := ih (done ++ [entry]) _
          (hmet.add entry hshown (tar.members ++
            [expectedMember (shownName entry) (platform.holding disk entry)]))
          (by rwa [List.append_assoc])
        have hmembers : tar.members ++ (entry :: rest).map (fun entry =>
              expectedMember entry.arcname (platform.holding disk entry)) =
            tar.members ++ [expectedMember (shownName entry)
              (platform.holding disk entry)] ++ rest.map (fun entry =>
                expectedMember entry.arcname (platform.holding disk entry)) := by
          rw [hshown, List.append_assoc]
          rfl
        rw [List.foldlM_cons, hadd, hmembers]
        refine hrest.trans ?_
        rw [List.forall_mem_cons, List.pairwise_cons]
        constructor
        · rintro ⟨hall, hbefore, hpairs⟩
          refine ⟨⟨hrooted, hall⟩, ?_, fun later hlater => ?_, hpairs⟩
          · intro earlier hearlier later hlater
            rcases List.mem_cons.mp hlater with rfl | hrestmem
            · exact hunlinked earlier hearlier
            · exact hbefore earlier (List.mem_append_left _ hearlier) later hrestmem
          · exact hbefore entry (List.mem_append_right _ List.mem_cons_self) later hlater
        · rintro ⟨⟨-, hall⟩, hbefore, hfirst, hpairs⟩
          refine ⟨hall, ?_, hpairs⟩
          intro earlier hearlier later hlater
          rcases List.mem_append.mp hearlier with hold | hnew
          · exact hbefore earlier hold later (List.mem_cons_of_mem _ hlater)
          · rw [List.mem_singleton.mp hnew]
            exact hfirst later hlater
    · have hshown : shownName entry ≠ entry.arcname := fun hsame =>
        hrooted (shownName_eq_iff.mp hsame)
      refine iff_of_false ?_ fun hall => hrooted (hall.1 entry List.mem_cons_self)
      rcases platform.addEntry_spec disk tar entry with ⟨-, hadd⟩ | ⟨-, hadd⟩
      · exact platform.addEntries_of_skip hadd _
      · exact platform.addEntries_of_renamed hadd rfl hshown

theorem writeDeterministicTargz_eq_iff (disk : Disk) (entries : List TarSourceEntry) :
    platform.writeDeterministicTargz disk entries =
        some (platform.expectedMembers disk entries) ↔ Separate disk entries := by
  have hnames : (([] ++ sortedEntries entries).map TarSourceEntry.arcname).Nodup := by
    rw [List.nil_append, arcnames_sortedEntries]
    exact nodup_sortedArcnames
  have hexact := platform.addEntries_exact disk (sortedEntries entries) []
    TarFile.empty (met_empty disk) hnames
  rw [expectedMembers_eq]
  refine hexact.trans ⟨fun h => ⟨h.1, h.2.2⟩, fun h => ⟨h.unrooted, ?_, h.unlinked⟩⟩
  intro earlier hearlier
  cases hearlier

end Platform

end PycloudParallel.Packaging
