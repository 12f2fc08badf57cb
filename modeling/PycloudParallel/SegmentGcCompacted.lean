import PycloudParallel.SegmentGcExact

/-!
# What a complete compaction leaves

Every object is read back from the new file.  Compacting it again changes nothing
just when the rows come back in the order in which they were written.
-/

namespace PycloudParallel.SegmentGc

open OrderedDict

section

variable {relpath : String} {dir : ObjectDir}

theorem compaction_of_needs
    (hneeds : (segmentCompactionPlan dir
      (segmentRefRows relpath dir)).needsCompaction = true) :
    (compaction relpath dir).1 = .openTmp ::
        (rewriteOps relpath dir.segment 0
            (wholeRows dir.segment (segmentRefRows relpath dir)) ++
          if wholeRows dir.segment (segmentRefRows relpath dir) =
            segmentRefRows relpath dir then [.replace] else []) ∧
      ((compaction relpath dir).2 = none ↔
        wholeRows dir.segment (segmentRefRows relpath dir) =
          segmentRefRows relpath dir) := by
  have hopened : Recorded relpath (applyOp dir .openTmp)
      (segmentRefRows relpath dir) :=
    ⟨(recorded_segmentRefRows relpath dir).loaded, nodup_segmentRefRows relpath dir⟩
  obtain ⟨hops, herror⟩ := compactRefs_eq 0 hopened
  rw [segment_openTmp] at hops herror
  simp only [compaction, compactSegmentFile, hneeds, if_true, hops, herror]
  exact ⟨rfl, trivial⟩

theorem compaction_of_not_needs
    (hneeds : (segmentCompactionPlan dir
      (segmentRefRows relpath dir)).needsCompaction = false) :
    compaction relpath dir = ([], none) := by
  simp [compaction, compactSegmentFile, hneeds]

theorem needsCompaction_eq_false_iff {refs : List SegmentRow} (hne : refs ≠ []) :
    (segmentCompactionPlan dir refs).needsCompaction = false ↔
      (refs.map (·.segmentLength)).sum = dir.segment.length ∧
        Contiguous SegmentRow.segmentOffset SegmentRow.segmentLength 0 refs := by
  have hnonempty : refs.isEmpty = false := by simpa using hne
  simp [segmentCompactionPlan, hnonempty, ← offsetsFrom_iff]

def compactedDir (relpath : String) (dir : ObjectDir) : ObjectDir :=
  applyOps dir (.openTmp :: (rewriteOps relpath dir.segment 0
    (segmentRefRows relpath dir) ++ [.replace]))

theorem segment_compactedDir (relpath : String) (dir : ObjectDir) :
    (compactedDir relpath dir).segment =
      ((segmentRefRows relpath dir).map fun ref =>
        slice dir.segment ref.segmentOffset ref.segmentLength).flatten := by
  rw [compactedDir, applyOps_cons, applyOps_append, applyOps_cons, applyOps_nil,
    segment_replace, tmp_rewriteOps]
  simp

theorem loadJson_compactedDir (objectId : ObjectId) :
    loadJson (compactedDir relpath dir) objectId =
      loadJson (applyOps (applyOp dir .openTmp) (rewriteOps relpath dir.segment 0
        (segmentRefRows relpath dir))) objectId := by
  rw [compactedDir, applyOps_cons, applyOps_append, applyOps_cons, applyOps_nil,
    loadJson_replace]

theorem loadJson_compactedDir_moved :
    ∀ pair ∈ relocate 0 (segmentRefRows relpath dir),
      loadJson (compactedDir relpath dir) pair.1.objectId =
        .segment relpath pair.2 pair.1.segmentLength := by
  intro pair hpair
  rw [loadJson_compactedDir]
  exact loadJson_rewriteOps (nodup_segmentRefRows relpath dir) pair hpair

section

variable (hwhole : ∀ row ∈ segmentRefRows relpath dir, row.inside dir.segment)

include hwhole

theorem slice_compactedDir : ∀ pair ∈ relocate 0 (segmentRefRows relpath dir),
      slice (compactedDir relpath dir).segment pair.2 pair.1.segmentLength =
        slice dir.segment pair.1.segmentOffset pair.1.segmentLength := by
  have hcontent : (segmentRefRows relpath dir).map (fun ref =>
      slice dir.segment ref.segmentOffset ref.segmentLength) =
      (relocate 0 (segmentRefRows relpath dir)).map (fun pair =>
        slice dir.segment pair.1.segmentOffset pair.1.segmentLength) := by
    conv_lhs => rw [← map_fst_relocate 0 (segmentRefRows relpath dir)]
    rw [List.map_map]
    rfl
  have hlength : ∀ pair ∈ relocate 0 (segmentRefRows relpath dir),
      (slice dir.segment pair.1.segmentOffset pair.1.segmentLength).length =
        pair.1.segmentLength := by
    intro pair hpair
    have hrow : pair.1 ∈ segmentRefRows relpath dir := by
      rw [← map_fst_relocate 0 (segmentRefRows relpath dir)]
      exact List.mem_map_of_mem hpair
    exact (slice_whole _ _ _).mpr (hwhole pair.1 hrow)
  rw [segment_compactedDir, hcontent]
  exact (contiguous_relocate 0 _).slice_flatten hlength [] rfl

theorem preservesObjects_compactedDir :
    PreservesObjects relpath dir (compactedDir relpath dir) := by
  intro row hrow _
  rw [← map_fst_relocate 0 (segmentRefRows relpath dir)] at hrow
  obtain ⟨pair, hpair, rfl⟩ := List.mem_map.mp hrow
  rw [readObject_of_loadJson (loadJson_compactedDir_moved pair hpair),
    slice_compactedDir hwhole pair hpair]

theorem sum_movedRows :
    ((movedRows (segmentRefRows relpath dir)).map (·.segmentLength)).sum =
      (compactedDir relpath dir).segment.length := by
  rw [segment_compactedDir, List.length_flatten, List.map_map,
    map_movedRows (·.segmentLength) _ fun _ => rfl]
  congr 1
  refine List.map_congr_left fun row hrow => ?_
  exact ((slice_whole _ _ _).mpr (hwhole row hrow)).symm

end

/-! ## The next compaction -/

theorem mem_rows_compactedDir {row : SegmentRow} :
    row ∈ segmentRefRows relpath (compactedDir relpath dir) ↔
      row ∈ movedRows (segmentRefRows relpath dir) := by
  rw [mem_segmentRefRows, movedRows, List.mem_map]
  constructor
  · intro hload
    by_cases hmem : row.objectId ∈
        (segmentRefRows relpath dir).map (·.objectId)
    · rw [← map_fst_relocate 0 (segmentRefRows relpath dir), List.map_map] at hmem
      obtain ⟨pair, hpair, hsame⟩ := List.mem_map.mp hmem
      have hmoved := loadJson_compactedDir_moved pair hpair
      simp only [Function.comp_apply] at hsame
      rw [hsame, hload] at hmoved
      refine ⟨pair, hpair, ?_⟩
      cases row
      simp_all [movedRow]
    · have hother := loadJson_rewriteOps_of_notMem relpath dir.segment
        (applyOp dir .openTmp) 0 hmem
      rw [← loadJson_compactedDir, hload, loadJson_openTmp] at hother
      exact absurd (List.mem_map_of_mem (mem_segmentRefRows.mpr hother.symm)) hmem
  · rintro ⟨pair, hpair, rfl⟩
    exact loadJson_compactedDir_moved pair hpair

theorem rows_compactedDir (relpath : String) (dir : ObjectDir) :
    segmentRefRows relpath (compactedDir relpath dir) =
      (movedRows (segmentRefRows relpath dir)).insertionSort rowBefore := by
  have hnodup : (movedRows (segmentRefRows relpath dir)).Nodup := by
    refine List.Nodup.of_map (·.objectId) ?_
    rw [map_movedRows (·.objectId) _ fun _ => rfl]
    exact nodup_segmentRefRows relpath dir
  have hperm : (segmentRefRows relpath (compactedDir relpath dir)).Perm
      (movedRows (segmentRefRows relpath dir)) :=
    (List.perm_ext_iff_of_nodup (nodup_segmentRefRows _ _).of_map hnodup).mpr
      fun _ => mem_rows_compactedDir
  refine List.Perm.eq_of_pairwise ?_
    (List.pairwise_insertionSort _ _) (List.pairwise_insertionSort _ _)
    (hperm.trans (List.perm_insertionSort _ _).symm)
  intro first second hfirst hsecond hle hge
  rw [List.mem_insertionSort, ← mem_rows_compactedDir] at hsecond
  refine eq_of_objectId_eq hfirst hsecond ?_
  obtain hless | ⟨hsame, hid⟩ := hle <;> obtain hless' | ⟨hsame', hid'⟩ := hge
  · omega
  · omega
  · omega
  · exact le_antisymm hid hid'

theorem contiguous_rows_iff (relpath : String) (dir : ObjectDir) :
    Contiguous SegmentRow.segmentOffset SegmentRow.segmentLength 0
        (segmentRefRows relpath (compactedDir relpath dir)) ↔
      EmptyRowsFirst (segmentRefRows relpath dir) := by
  rw [rows_compactedDir, contiguous_insertionSort_iff rowBefore
    (contiguous_movedRows _) fun _ _ => Or.inl, EmptyRowsFirst]
  refine ⟨fun hrows => hrows.imp ?_, fun hrows => hrows.imp ?_⟩
  · intro first second hbefore hsame hlength
    obtain hless | hid := hbefore hsame hlength
    · exact absurd hsame (Nat.ne_of_lt hless)
    · exact hid.2
  · intro first second hid hsame hlength
    exact .inr ⟨hsame, hid hsame hlength⟩

theorem unchanged_iff (hne : segmentRefRows relpath dir ≠ [])
    (hwhole : ∀ row ∈ segmentRefRows relpath dir, row.inside dir.segment) :
    applyOps (compactedDir relpath dir)
        (compaction relpath (compactedDir relpath dir)).1 =
        compactedDir relpath dir ↔
      EmptyRowsFirst (segmentRefRows relpath dir) := by
  rw [← contiguous_rows_iff]
  have hperm : (segmentRefRows relpath (compactedDir relpath dir)).Perm
      (movedRows (segmentRefRows relpath dir)) := by
    rw [rows_compactedDir]
    exact List.perm_insertionSort _ _
  have hlive : ((segmentRefRows relpath (compactedDir relpath dir)).map
      (·.segmentLength)).sum = (compactedDir relpath dir).segment.length := by
    rw [(hperm.map _).sum_eq, sum_movedRows hwhole]
  have hnonempty : segmentRefRows relpath (compactedDir relpath dir) ≠ [] := by
    intro hnil
    rw [hnil] at hperm
    have hlength := hperm.length_eq
    rw [movedRows, List.length_map, ← List.length_map (f := Prod.fst),
      map_fst_relocate] at hlength
    exact hne (List.eq_nil_of_length_eq_zero hlength.symm)
  constructor
  · intro hunchanged
    by_contra hnot
    have hneeds : (segmentCompactionPlan (compactedDir relpath dir)
        (segmentRefRows relpath (compactedDir relpath dir))).needsCompaction =
        true := by
      rw [← Bool.not_eq_false, needsCompaction_eq_false_iff hnonempty]
      exact fun hcompact => hnot hcompact.2
    have hall : wholeRows (compactedDir relpath dir).segment
        (segmentRefRows relpath (compactedDir relpath dir)) =
        segmentRefRows relpath (compactedDir relpath dir) := by
      rw [wholeRows, List.takeWhile_eq_self_iff]
      intro row hrow
      rw [mem_rows_compactedDir, movedRows] at hrow
      obtain ⟨pair, hpair, rfl⟩ := List.mem_map.mp hrow
      have hold : pair.1 ∈ segmentRefRows relpath dir := by
        rw [← map_fst_relocate 0 (segmentRefRows relpath dir)]
        exact List.mem_map_of_mem hpair
      refine decide_eq_true ((slice_whole _ _ _).mp ?_)
      rw [movedRow, slice_compactedDir hwhole pair hpair]
      exact (slice_whole _ _ _).mpr (hwhole pair.1 hold)
    have hagain : applyOps (compactedDir relpath dir)
        (compaction relpath (compactedDir relpath dir)).1 =
        compactedDir relpath (compactedDir relpath dir) := by
      rw [(compaction_of_needs hneeds).1, hall, if_pos rfl]
      rfl
    rw [hagain] at hunchanged
    refine hnot (contiguous_of_relocate fun pair hpair => ?_)
    have hmoved := loadJson_compactedDir_moved pair hpair
    have hold : pair.1 ∈ segmentRefRows relpath (compactedDir relpath dir) := by
      rw [← map_fst_relocate 0 (segmentRefRows relpath (compactedDir relpath dir))]
      exact List.mem_map_of_mem hpair
    rw [hunchanged, mem_segmentRefRows.mp hold] at hmoved
    simpa using hmoved
  · intro hcontiguous
    rw [compaction_of_not_needs
      ((needsCompaction_eq_false_iff hnonempty).mpr ⟨hlive, hcontiguous⟩)]
    rfl

theorem compacted_compactedDir_iff (hne : segmentRefRows relpath dir ≠ [])
    (hwhole : ∀ row ∈ segmentRefRows relpath dir, row.inside dir.segment) :
    Compacted relpath dir (compactedDir relpath dir) ↔
      EmptyRowsFirst (segmentRefRows relpath dir) := by
  rw [← unchanged_iff hne hwhole]
  refine ⟨Compacted.unchanged, fun hunchanged => ⟨?_, hunchanged⟩⟩
  refine ⟨movedRows (segmentRefRows relpath dir),
    map_movedRows (·.objectId) _ fun _ => rfl, ?_,
    contiguous_movedRows _, (contiguous_movedRows _).pairwise, sum_movedRows hwhole⟩
  intro row hrow
  exact mem_segmentRefRows.mp (mem_rows_compactedDir.mpr hrow)

end

/-! ## Stopping anywhere -/

theorem preservesObjects_self (relpath : String) (dir : ObjectDir) :
    PreservesObjects relpath dir dir := fun _ hrow _ =>
  readObject_of_loadJson (mem_segmentRefRows.mp hrow)

variable {count : ℕ}

theorem keepsObjects_of_not_needs {relpath : String} {dir : ObjectDir}
    (hneeds : (segmentCompactionPlan dir
      (segmentRefRows relpath dir)).needsCompaction = false) :
    KeepsObjects relpath dir count ↔ Compacted relpath dir dir := by
  have hstopped : stoppedAfter relpath dir count = dir := by
    rw [stoppedAfter, compaction_of_not_needs hneeds, List.take_nil, applyOps_nil]
  have hcompletes : completes relpath dir count := by
    rw [completes, compaction_of_not_needs hneeds]
    exact ⟨rfl, Nat.zero_le count⟩
  rw [KeepsObjects, hstopped]
  exact ⟨fun hkeeps => hkeeps.2 hcompletes,
    fun hcompact => ⟨preservesObjects_self relpath dir, fun _ => hcompact⟩⟩

theorem compacted_of_no_rows {relpath : String} {dir : ObjectDir}
    (hnone : segmentRefRows relpath dir = []) :
    Compacted relpath dir dir ↔ dir.segment = [] := by
  have hneeds : (segmentCompactionPlan dir
      (segmentRefRows relpath dir)).needsCompaction = false := by
    simp [segmentCompactionPlan, hnone]
  constructor
  · intro hcompact
    obtain ⟨moved, hids, -, -, -, hsum⟩ := hcompact.contiguous
    rw [hnone, List.map_nil, List.map_eq_nil_iff] at hids
    rw [hids] at hsum
    exact List.eq_nil_of_length_eq_zero hsum.symm
  · intro hempty
    refine ⟨⟨[], ?_, ?_, trivial, List.Pairwise.nil, ?_⟩, ?_⟩
    · rw [hnone]
    · simp
    · rw [hempty]
      rfl
    · rw [compaction_of_not_needs hneeds, applyOps_nil]

theorem compacted_of_compact {relpath : String} {dir : ObjectDir}
    (hne : segmentRefRows relpath dir ≠ [])
    (hneeds : (segmentCompactionPlan dir
      (segmentRefRows relpath dir)).needsCompaction = false) :
    Compacted relpath dir dir := by
  obtain ⟨hlive, hcontiguous⟩ := (needsCompaction_eq_false_iff hne).mp hneeds
  refine ⟨⟨segmentRefRows relpath dir, rfl, ?_, hcontiguous, hcontiguous.pairwise,
    hlive⟩, ?_⟩
  · exact fun row hrow => mem_segmentRefRows.mp hrow
  · rw [compaction_of_not_needs hneeds, applyOps_nil]

theorem inside_of_wholeRows {segment : Bytes} {refs : List SegmentRow}
    (hall : wholeRows segment refs = refs) : ∀ row ∈ refs, row.inside segment := by
  intro row hrow
  rw [← hall] at hrow
  exact (mem_wholeRows hrow).2

theorem keepsObjects_of_completes {relpath : String} {dir : ObjectDir}
    (hne : segmentRefRows relpath dir ≠ [])
    (hneeds : (segmentCompactionPlan dir
      (segmentRefRows relpath dir)).needsCompaction = true)
    (hall : wholeRows dir.segment (segmentRefRows relpath dir) =
      segmentRefRows relpath dir)
    (hcount : 3 * (segmentRefRows relpath dir).length + 2 ≤ count) :
    KeepsObjects relpath dir count ↔
      EmptyRowsFirst (segmentRefRows relpath dir) := by
  obtain ⟨hops, herror⟩ := compaction_of_needs hneeds
  rw [hall, if_pos rfl] at hops
  have hlength : (compaction relpath dir).1.length ≤ count := by
    rw [hops]
    simp only [List.length_cons, List.length_append, length_rewriteOps, List.length_nil]
    omega
  have hstopped : stoppedAfter relpath dir count = compactedDir relpath dir := by
    rw [stoppedAfter, List.take_of_length_le hlength, hops, compactedDir]
  have hinside := inside_of_wholeRows hall
  rw [KeepsObjects, hstopped, ← compacted_compactedDir_iff hne hinside]
  exact ⟨fun hkeeps => hkeeps.2 ⟨herror.mpr hall, hlength⟩,
    fun hcompact => ⟨preservesObjects_compactedDir hinside, fun _ => hcompact⟩⟩

theorem keepsObjects_of_stopped {relpath : String} {dir : ObjectDir}
    (hneeds : (segmentCompactionPlan dir
      (segmentRefRows relpath dir)).needsCompaction = true)
    (hstop : wholeRows dir.segment (segmentRefRows relpath dir) =
        segmentRefRows relpath dir →
      count < 3 * (segmentRefRows relpath dir).length + 2) :
    KeepsObjects relpath dir count ↔
      RewritesSafely dir.segment 0
        (wholeRows dir.segment (segmentRefRows relpath dir)) (count - 1) := by
  obtain ⟨hops, herror⟩ := compaction_of_needs hneeds
  have hcompletes : ¬ completes relpath dir count := by
    rintro ⟨hnone, hlength⟩
    have hall := herror.mp hnone
    rw [hops, hall, if_pos rfl] at hlength
    simp only [List.length_cons, List.length_append, length_rewriteOps,
      List.length_nil] at hlength
    have hless := hstop hall
    omega
  have hkeeps : KeepsObjects relpath dir count ↔
      PreservesObjects relpath dir (stoppedAfter relpath dir count) :=
    and_iff_left fun hdone => absurd hdone hcompletes
  rw [hkeeps]
  cases count with
  | zero =>
    have hsafe : RewritesSafely dir.segment 0
        (wholeRows dir.segment (segmentRefRows relpath dir)) (0 - 1) := by
      simp [RewritesSafely]
    exact iff_of_true (preservesObjects_self relpath dir) hsafe
  | succ count =>
    have hstopped : stoppedAfter relpath dir (count + 1) =
        applyOps (applyOp dir .openTmp) ((rewriteOps relpath dir.segment 0
          (wholeRows dir.segment (segmentRefRows relpath dir))).take count) := by
      rw [stoppedAfter, hops, List.take_succ_cons, applyOps_cons]
      by_cases hall : wholeRows dir.segment (segmentRefRows relpath dir) =
          segmentRefRows relpath dir
      · have hless := hstop hall
        rw [List.take_append_of_le_length]
        rw [length_rewriteOps, hall]
        omega
      · rw [if_neg hall, List.append_nil]
    rw [hstopped]
    exact preservesObjects_iff relpath dir count

/-- A compaction that is stopped after any number of its file operations keeps every
object, and leaves the segment compact if it completes, if and only if it stops
safely. -/
theorem keepsObjects_iff (relpath : String) (dir : ObjectDir) (count : ℕ) :
    KeepsObjects relpath dir count ↔ StopsSafely relpath dir count := by
  rw [StopsSafely]
  split
  case isTrue hnone =>
    have hneeds : (segmentCompactionPlan dir
        (segmentRefRows relpath dir)).needsCompaction = false := by
      simp [segmentCompactionPlan, hnone]
    rw [keepsObjects_of_not_needs hneeds, compacted_of_no_rows hnone]
  case isFalse hne =>
    split
    case isTrue hneeds =>
      rw [keepsObjects_of_not_needs hneeds]
      exact iff_of_true (compacted_of_compact hne hneeds) trivial
    case isFalse hneeds =>
      rw [Bool.not_eq_false] at hneeds
      split
      case isTrue hends => exact keepsObjects_of_completes hne hneeds hends.1 hends.2
      case isFalse hstops =>
        refine keepsObjects_of_stopped hneeds fun hall => ?_
        by_contra hcount
        exact hstops ⟨hall, Nat.not_lt.mp hcount⟩

def segmentDir (segment : Bytes) (rows : List SegmentRow) : ObjectDir where
  segment := segment
  tmp := none
  metas := rows.foldl (fun metas row => set metas row.objectId
    (.segment "segments/s.bin" row.segmentOffset row.segmentLength)) ∅

/-- Two dead bytes in front of the object `a`: its metadata is empty for a while and
then reads the dead bytes.  With an object `b` that reaches past the end the call
raises and leaves it so.  An empty object `z` in front of `a` comes back behind it. -/
theorem objects_lost_while_compacting :
    (readObject "segments/s.bin" (stoppedAfter "segments/s.bin"
        (segmentDir [1, 2, 3, 4] [⟨"a", 2, 2⟩]) 3) "a" = none ∧
      ¬ KeepsObjects "segments/s.bin" (segmentDir [1, 2, 3, 4] [⟨"a", 2, 2⟩]) 3) ∧
    ((compaction "segments/s.bin"
        (segmentDir [1, 2, 3, 4] [⟨"a", 2, 2⟩, ⟨"b", 4, 1⟩])).2 =
        some (truncatedRead "b") ∧
      readObject "segments/s.bin" (stoppedAfter "segments/s.bin"
        (segmentDir [1, 2, 3, 4] [⟨"a", 2, 2⟩, ⟨"b", 4, 1⟩]) 4) "a" = some [1, 2] ∧
      ¬ KeepsObjects "segments/s.bin"
        (segmentDir [1, 2, 3, 4] [⟨"a", 2, 2⟩, ⟨"b", 4, 1⟩]) 4) ∧
    ¬ KeepsObjects "segments/s.bin"
      (segmentDir [1, 2, 3] [⟨"z", 0, 0⟩, ⟨"a", 1, 2⟩]) 8 := by
  refine ⟨⟨by decide, fun hkeeps => ?_⟩, ⟨by decide, by decide, fun hkeeps => ?_⟩,
    fun hkeeps => ?_⟩
  · exact absurd (hkeeps.1 ⟨"a", 2, 2⟩ (by decide) (by decide)) (by decide)
  · exact absurd (hkeeps.1 ⟨"a", 2, 2⟩ (by decide) (by decide)) (by decide)
  · have hcompact := hkeeps.2 ⟨by decide, by decide⟩
    have hload := congrArg (fun dir => loadJson dir "z") hcompact.unchanged
    exact absurd hload (by decide)

end PycloudParallel.SegmentGc
