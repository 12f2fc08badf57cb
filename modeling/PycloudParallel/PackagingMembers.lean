import PycloudParallel.PackagingModel
import Mathlib.Data.List.Dedup
import Mathlib.Data.List.Induction

/-!
# The members of a package

What a package should hold is said by the entries as a map from names to
contents.  The writer comes to it when no file is met a second time through
another of its links.
-/

namespace PycloudParallel.Packaging

def sortedArcnames (entries : List TarSourceEntry) : List Name :=
  (((entries.map fun entry => normalizeArcname entry.arcname).filter
    (· ≠ [])).dedup).insertionSort (· ≤ ·)

def lastOf (entries : List TarSourceEntry) (name : Name) : Option TarSourceEntry :=
  entries.reverse.find? fun entry => normalizeArcname entry.arcname = name

def expectedMember (name : Name) (holding : Bytes × Bool) : Member :=
  ({ dataInfo name holding.1 with mode := normalizedFileMode holding.2 }, holding.1)

/-- The second entry has a file that the first one has as well, through another
link. -/
def linked (disk : Disk) (first second : TarSourceEntry) : Bool :=
  match first.sourcePath, second.sourcePath with
  | some path, some other =>
    (disk path).inode.1 ≠ 0 && (disk path).inode = (disk other).inode &&
      1 < (disk other).links
  | _, _ => false

/-- A file under a name that `gettarinfo` shortens. -/
def rooted (entry : TarSourceEntry) : Bool :=
  entry.sourcePath.isSome && entry.arcname.head? = some '/'

structure Separate (disk : Disk) (entries : List TarSourceEntry) : Prop where
  unrooted : ∀ entry ∈ sortedEntries entries, rooted entry = false
  unlinked : (sortedEntries entries).Pairwise fun first second =>
    linked disk first second = false

instance (disk : Disk) (entries : List TarSourceEntry) : Decidable (Separate disk entries) :=
  decidable_of_iff
    ((∀ entry ∈ sortedEntries entries, rooted entry = false) ∧
      (sortedEntries entries).Pairwise fun first second => linked disk first second = false)
    ⟨fun h => ⟨h.1, h.2⟩, fun h => ⟨h.unrooted, h.unlinked⟩⟩

section Dedup

variable {entries : List TarSourceEntry} {name : Name} {entry : TarSourceEntry}

theorem deduped_concat (entries : List TarSourceEntry) (entry : TarSourceEntry) :
    deduped (entries ++ [entry]) =
      if normalizeArcname entry.arcname = [] then deduped entries
      else OrderedDict.set (deduped entries) (normalizeArcname entry.arcname)
        { entry with arcname := normalizeArcname entry.arcname } := by
  unfold deduped
  rw [List.foldl_append]
  rfl

theorem lastOf_concat (entries : List TarSourceEntry) (entry : TarSourceEntry)
    (name : Name) :
    lastOf (entries ++ [entry]) name =
      if normalizeArcname entry.arcname = name then some entry else lastOf entries name := by
  unfold lastOf
  rw [List.reverse_append]
  change List.find? _ (entry :: entries.reverse) = _
  by_cases hsame : normalizeArcname entry.arcname = name
  · rw [if_pos hsame, List.find?_cons_of_pos (by simpa using hsame)]
  · rw [if_neg hsame, List.find?_cons_of_neg (by simpa using hsame)]

theorem lookup_deduped (entries : List TarSourceEntry) (name : Name) :
    (deduped entries).lookup name =
      if name = [] then none
      else (lastOf entries name).map fun entry => { entry with arcname := name } := by
  induction entries using List.reverseRecOn with
  | nil =>
    split <;> rfl
  | append_singleton entries entry ih =>
    rw [deduped_concat, lastOf_concat]
    by_cases hempty : normalizeArcname entry.arcname = []
    · rw [if_pos hempty, ih]
      by_cases hname : name = []
      · rw [if_pos hname, if_pos hname]
      · have hother : normalizeArcname entry.arcname ≠ name := by
          rw [hempty]
          exact Ne.symm hname
        rw [if_neg hname, if_neg hname, if_neg hother]
    · rw [if_neg hempty, OrderedDict.lookup_set, ih]
      by_cases hsame : name = normalizeArcname entry.arcname
      · rw [if_pos hsame, if_pos hsame.symm, if_neg (hsame.trans_ne hempty), hsame]
        rfl
      · rw [if_neg hsame, if_neg (Ne.symm hsame)]

theorem mem_lastOf (entries : List TarSourceEntry) (name : Name) :
    (lastOf entries name).isSome ↔
      ∃ entry ∈ entries, normalizeArcname entry.arcname = name := by
  unfold lastOf
  rw [List.find?_isSome]
  simp

theorem mem_sortedArcnames (entries : List TarSourceEntry) (name : Name) :
    name ∈ sortedArcnames entries ↔ name ≠ [] ∧ (lastOf entries name).isSome := by
  rw [mem_lastOf]
  unfold sortedArcnames
  rw [List.mem_insertionSort, List.mem_dedup, List.mem_filter, List.mem_map,
    decide_eq_true_eq, and_comm]

theorem mem_keys_deduped :
    name ∈ (deduped entries).keys ↔ name ≠ [] ∧ (lastOf entries name).isSome := by
  rw [← AList.mem_keys, OrderedDict.mem_iff_lookup, lookup_deduped]
  by_cases hname : name = []
  · rw [if_pos hname]
    simp [hname]
  · rw [if_neg hname]
    simp [hname, Option.isSome_iff_exists]

theorem nodup_sortedArcnames : (sortedArcnames entries).Nodup :=
  (List.perm_insertionSort _ _).nodup_iff.mpr (List.nodup_dedup _)

theorem sorted_eq_of_mem_iff {first second : List Name} (hfirst : first.Nodup)
    (hsecond : second.Nodup) (hmem : ∀ name, name ∈ first ↔ name ∈ second) :
    first.insertionSort (· ≤ ·) = second.insertionSort (· ≤ ·) := by
  have hperm : first.Perm second := (List.perm_ext_iff_of_nodup hfirst hsecond).mpr hmem
  refine List.Perm.eq_of_pairwise' ?_ ?_
    (((List.perm_insertionSort _ first).trans hperm).trans
      (List.perm_insertionSort _ second).symm) (r := (· ≤ ·))
  · exact List.pairwise_insertionSort (· ≤ ·) first
  · exact List.pairwise_insertionSort (· ≤ ·) second

theorem sorted_keys_deduped (entries : List TarSourceEntry) :
    (deduped entries).keys.insertionSort (· ≤ ·) = sortedArcnames entries := by
  refine sorted_eq_of_mem_iff (AList.keys_nodup _) (List.nodup_dedup _) fun name => ?_
  rw [mem_keys_deduped, List.mem_dedup, List.mem_filter, List.mem_map, mem_lastOf,
    decide_eq_true_eq, and_comm]

theorem sortedEntries_eq (entries : List TarSourceEntry) :
    sortedEntries entries = (sortedArcnames entries).filterMap fun name =>
      (lastOf entries name).map fun entry => { entry with arcname := name } := by
  unfold sortedEntries
  rw [sorted_keys_deduped]
  refine List.filterMap_congr fun name hname => ?_
  rw [lookup_deduped, if_neg ((mem_sortedArcnames _ _).mp hname).1]

theorem arcnames_sortedEntries (entries : List TarSourceEntry) :
    (sortedEntries entries).map TarSourceEntry.arcname = sortedArcnames entries := by
  rw [sortedEntries_eq]
  have hall : ∀ names : List Name, (∀ name ∈ names, (lastOf entries name).isSome) →
      (names.filterMap fun name => (lastOf entries name).map fun entry =>
        { entry with arcname := name }).map TarSourceEntry.arcname = names := by
    intro names hsome
    induction names with
    | nil => rfl
    | cons name rest ih =>
      obtain ⟨entry, hentry⟩ := Option.isSome_iff_exists.mp (hsome name List.mem_cons_self)
      have hrest := ih fun other hmem => hsome other (List.mem_cons_of_mem _ hmem)
      simp only [List.filterMap_cons, hentry, Option.map_some, List.map_cons]
      rw [hrest]
  exact hall _ fun name hname => ((mem_sortedArcnames _ _).mp hname).2

end Dedup

namespace Platform

variable {Digest Key : Type} (platform : Platform Digest Key)

def holding (disk : Disk) (entry : TarSourceEntry) : Bytes × Bool :=
  match entry.sourcePath with
  | none => (entry.data, false)
  | some path => (platform.read disk path, (disk path).executable)

def asMap (disk : Disk) (entries : List TarSourceEntry) (name : Name) :
    Option (Bytes × Bool) :=
  if name = [] then none else (lastOf entries name).map (platform.holding disk)

def expectedMembers (disk : Disk) (entries : List TarSourceEntry) : List Member :=
  (sortedArcnames entries).filterMap fun name =>
    (platform.asMap disk entries name).map (expectedMember name)

theorem expectedMembers_congr {disk disk' : Disk} {entries entries' : List TarSourceEntry}
    (hagree : ∀ name, platform.asMap disk entries name = platform.asMap disk' entries' name) :
    platform.expectedMembers disk entries = platform.expectedMembers disk' entries' := by
  have hkeys : ∀ (disk : Disk) (entries : List TarSourceEntry) (name : Name),
      (platform.asMap disk entries name).isSome ↔
        name ≠ [] ∧ (lastOf entries name).isSome := by
    intro disk entries name
    unfold asMap
    by_cases hname : name = []
    · rw [if_pos hname]
      simp [hname]
    · rw [if_neg hname]
      simp [hname]
  have hnames : sortedArcnames entries = sortedArcnames entries' := by
    refine sorted_eq_of_mem_iff (List.nodup_dedup _) (List.nodup_dedup _) fun name => ?_
    have hboth := mem_sortedArcnames entries name
    have hboth' := mem_sortedArcnames entries' name
    unfold sortedArcnames at hboth hboth'
    rw [List.mem_insertionSort] at hboth hboth'
    rw [hboth, hboth', ← hkeys disk, ← hkeys disk', hagree]
  unfold expectedMembers
  rw [hnames]
  refine List.filterMap_congr fun name _ => ?_
  rw [hagree]

theorem expectedMembers_eq (disk : Disk) (entries : List TarSourceEntry) :
    platform.expectedMembers disk entries = (sortedEntries entries).map fun entry =>
      expectedMember entry.arcname (platform.holding disk entry) := by
  unfold expectedMembers
  rw [sortedEntries_eq, List.map_filterMap]
  refine List.filterMap_congr fun name hname => ?_
  unfold asMap
  rw [if_neg ((mem_sortedArcnames _ _).mp hname).1, Option.map_map, Option.map_map]
  rfl

end Platform

end PycloudParallel.Packaging
