import PycloudParallel.SegmentGcModel

/-!
# The rows of a compaction

What the loop over the rows does to the files, and what is left of it when the call
is stopped.
-/

namespace PycloudParallel.SegmentGc

open OrderedDict

/-! ## The rows of a segment -/

instance : Std.Total rowBefore where
  total first second := by
    simp only [rowBefore]
    grind

instance : IsTrans SegmentRow rowBefore where
  trans first second third hfirst hsecond := by
    obtain hless | ⟨hsame, hid⟩ := hfirst
    · obtain hless' | ⟨hsame', -⟩ := hsecond
      · exact .inl (hless.trans hless')
      · exact .inl (hsame' ▸ hless)
    · obtain hless' | ⟨hsame', hid'⟩ := hsecond
      · exact .inl (hsame ▸ hless')
      · exact .inr ⟨hsame.trans hsame', hid.trans hid'⟩

theorem segmentRow_eq_some_iff {relpath : String} {item : ObjectId × MetaFile}
    {row : SegmentRow} :
    segmentRow relpath item = some row ↔
      item = (row.objectId, .segment relpath row.segmentOffset row.segmentLength) := by
  obtain ⟨objectId, metaFile⟩ := item
  obtain ⟨rowId, offset, length⟩ := row
  cases metaFile with
  | segment path start size =>
    simp [segmentRow]
    grind
  | _ => simp [segmentRow]

theorem mem_segmentRefRows {relpath : String} {dir : ObjectDir} {row : SegmentRow} :
    row ∈ segmentRefRows relpath dir ↔
      loadJson dir row.objectId =
        .segment relpath row.segmentOffset row.segmentLength := by
  rw [segmentRefRows, List.mem_insertionSort, List.mem_filterMap]
  simp only [segmentRow_eq_some_iff, exists_eq_right, mem_items, loadJson]
  cases dir.metas.lookup row.objectId <;> simp

theorem nodup_segmentRefRows (relpath : String) (dir : ObjectDir) :
    ((segmentRefRows relpath dir).map (·.objectId)).Nodup := by
  have hperm := (List.perm_insertionSort rowBefore
    ((items dir.metas).filterMap (segmentRow relpath))).map (·.objectId)
  rw [segmentRefRows, hperm.nodup_iff]
  have hsub : ((items dir.metas).filterMap (segmentRow relpath)).map (·.objectId) =
      ((items dir.metas).filter
        fun item => (segmentRow relpath item).isSome).map Prod.fst := by
    induction items dir.metas with
    | nil => rfl
    | cons item rest ih =>
      cases hrow : segmentRow relpath item with
      | none => simpa [hrow] using ih
      | some row =>
        have hitem : item.1 = row.objectId :=
          congrArg Prod.fst (segmentRow_eq_some_iff.mp hrow)
        simpa [hrow, hitem] using ih
  rw [hsub]
  have hkeys : ((items dir.metas).map Prod.fst).Nodup := by
    have heq : (items dir.metas).map Prod.fst = dir.metas.keys := by
      simp [items, AList.keys, List.keys]
    rw [heq]
    exact dir.metas.keys_nodup
  exact hkeys.sublist (List.filter_sublist.map _)

theorem offsetsFrom_iff {current : ℕ} {refs : List SegmentRow} :
    offsetsFrom current refs = true ↔
      Contiguous SegmentRow.segmentOffset SegmentRow.segmentLength current refs := by
  induction refs generalizing current with
  | nil => simp [offsetsFrom, Contiguous]
  | cons ref refs ih =>
    rw [offsetsFrom, Contiguous, ← ih]
    split
    case isTrue hne => simp [hne]
    case isFalse heq => simp [not_not.mp heq]

def relocate : ℕ → List SegmentRow → List (SegmentRow × ℕ)
  | _, [] => []
  | current, ref :: refs =>
    (ref, current) :: relocate (current + ref.segmentLength) refs

def movedRow (pair : SegmentRow × ℕ) : SegmentRow :=
  { pair.1 with segmentOffset := pair.2 }

def movedRows (refs : List SegmentRow) : List SegmentRow :=
  (relocate 0 refs).map movedRow

@[simp] theorem map_fst_relocate (current : ℕ) (refs : List SegmentRow) :
    (relocate current refs).map Prod.fst = refs := by
  induction refs generalizing current with
  | nil => rfl
  | cons ref refs ih => simp [relocate, ih]

theorem contiguous_relocate (current : ℕ) (refs : List SegmentRow) :
    Contiguous Prod.snd (fun pair => pair.1.segmentLength) current
      (relocate current refs) := by
  induction refs generalizing current with
  | nil => trivial
  | cons ref refs ih => exact ⟨rfl, ih _⟩

theorem contiguous_movedRows (refs : List SegmentRow) :
    Contiguous SegmentRow.segmentOffset SegmentRow.segmentLength 0 (movedRows refs) :=
  contiguous_map.mpr (contiguous_relocate 0 refs)

theorem map_movedRows {β : Type*} (field : SegmentRow → β) (refs : List SegmentRow)
    (hfield : ∀ pair, field (movedRow pair) = field pair.1) :
    (movedRows refs).map field = refs.map field := by
  rw [movedRows, List.map_map]
  have hcomp : field ∘ movedRow = field ∘ Prod.fst := funext hfield
  rw [hcomp, ← List.map_map, map_fst_relocate]

theorem contiguous_of_relocate {current : ℕ} {refs : List SegmentRow}
    (hsame : ∀ pair ∈ relocate current refs, pair.1.segmentOffset = pair.2) :
    Contiguous SegmentRow.segmentOffset SegmentRow.segmentLength current refs := by
  induction refs generalizing current with
  | nil => trivial
  | cons ref refs ih =>
    exact ⟨hsame (ref, current) List.mem_cons_self,
      ih fun pair hpair => hsame pair (List.mem_cons_of_mem _ hpair)⟩

section

variable (relpath : String) (segment : Bytes)

def rewriteOps : ℕ → List SegmentRow → List FileOp
  | _, [] => []
  | current, ref :: refs =>
    .write (slice segment ref.segmentOffset ref.segmentLength) ::
      .truncateMeta ref.objectId ::
      .writeMeta ref.objectId (.segment relpath current ref.segmentLength) ::
      rewriteOps (current + ref.segmentLength) refs

def wholeRows (refs : List SegmentRow) : List SegmentRow :=
  refs.takeWhile fun ref => decide (ref.inside segment)

@[simp] theorem length_rewriteOps (current : ℕ) (refs : List SegmentRow) :
    (rewriteOps relpath segment current refs).length = 3 * refs.length := by
  induction refs generalizing current with
  | nil => rfl
  | cons ref refs ih =>
    simp only [rewriteOps, List.length_cons, ih]
    omega

/-- The rows have the metadata that they were taken from, and no two are one
object's. -/
structure Recorded (dir : ObjectDir) (refs : List SegmentRow) : Prop where
  loaded : ∀ ref ∈ refs, loadJson dir ref.objectId =
    .segment relpath ref.segmentOffset ref.segmentLength
  nodup : (refs.map (·.objectId)).Nodup

end

theorem recorded_segmentRefRows (relpath : String) (dir : ObjectDir) :
    Recorded relpath dir (segmentRefRows relpath dir) :=
  ⟨fun _ href => mem_segmentRefRows.mp href, nodup_segmentRefRows relpath dir⟩

section

variable (dir : ObjectDir) (objectId other : ObjectId) (metaFile : MetaFile)
  (blob : Bytes)

@[simp] theorem segment_openTmp : (applyOp dir .openTmp).segment = dir.segment := rfl

@[simp] theorem segment_write :
    (applyOp dir (.write blob)).segment = dir.segment := rfl

@[simp] theorem segment_truncateMeta :
    (applyOp dir (.truncateMeta objectId)).segment = dir.segment := rfl

@[simp] theorem segment_writeMeta :
    (applyOp dir (.writeMeta objectId metaFile)).segment = dir.segment := rfl

@[simp] theorem segment_replace :
    (applyOp dir .replace).segment = dir.tmp.getD dir.segment := rfl

@[simp] theorem loadJson_openTmp :
    loadJson (applyOp dir .openTmp) other = loadJson dir other := rfl

@[simp] theorem loadJson_write :
    loadJson (applyOp dir (.write blob)) other = loadJson dir other := rfl

@[simp] theorem loadJson_replace :
    loadJson (applyOp dir .replace) other = loadJson dir other := rfl

@[simp] theorem loadJson_truncateMeta :
    loadJson (applyOp dir (.truncateMeta objectId)) other =
      if other = objectId then .broken else loadJson dir other := by
  simp only [applyOp, loadJson, lookup_set]
  split <;> rfl

@[simp] theorem loadJson_writeMeta :
    loadJson (applyOp dir (.writeMeta objectId metaFile)) other =
      if other = objectId then metaFile else loadJson dir other := by
  simp only [applyOp, loadJson, lookup_set]
  split <;> rfl

@[simp] theorem tmp_openTmp : (applyOp dir .openTmp).tmp = some [] := rfl

@[simp] theorem tmp_writeMeta :
    (applyOp dir (.writeMeta objectId metaFile)).tmp = dir.tmp := rfl

@[simp] theorem tmp_truncateMeta :
    (applyOp dir (.truncateMeta objectId)).tmp = dir.tmp := rfl

@[simp] theorem tmp_write :
    (applyOp dir (.write blob)).tmp = dir.tmp.map (· ++ blob) := rfl

end

@[simp] theorem applyOps_nil (dir : ObjectDir) : applyOps dir [] = dir := rfl

@[simp] theorem applyOps_cons (dir : ObjectDir) (op : FileOp) (ops : List FileOp) :
    applyOps dir (op :: ops) = applyOps (applyOp dir op) ops := rfl

theorem applyOps_append (dir : ObjectDir) (first second : List FileOp) :
    applyOps dir (first ++ second) = applyOps (applyOps dir first) second :=
  List.foldl_append

/-! ## Runs of the loop -/

section

variable {relpath : String} {segment : Bytes}

variable {refs : List SegmentRow}

theorem loadJson_rewriteOps_other {dir : ObjectDir} {current : ℕ}
    {objectId : ObjectId} (hother : objectId ∉ refs.map (·.objectId))
    (count : ℕ) :
    loadJson (applyOps dir ((rewriteOps relpath segment current refs).take count))
      objectId = loadJson dir objectId := by
  induction refs generalizing dir current count with
  | nil => simp [rewriteOps]
  | cons ref refs ih =>
    simp only [List.map_cons, List.mem_cons, not_or] at hother
    match count with
    | 0 => rfl
    | 1 => simp [rewriteOps]
    | 2 => simp [rewriteOps, hother.1]
    | count + 3 => simp [rewriteOps, ih hother.2, hother.1]

theorem loadJson_rewriteOps_of_notMem (relpath : String) (segment : Bytes)
    (dir : ObjectDir) (current : ℕ) {objectId : ObjectId}
    (hother : objectId ∉ refs.map (·.objectId)) :
    loadJson (applyOps dir (rewriteOps relpath segment current refs)) objectId =
      loadJson dir objectId := by
  rw [← List.take_length (l := rewriteOps relpath segment current refs)]
  exact loadJson_rewriteOps_other hother _

@[simp] theorem segment_rewriteOps (dir : ObjectDir) (current : ℕ)
    (refs : List SegmentRow) (count : ℕ) :
    (applyOps dir ((rewriteOps relpath segment current refs).take count)).segment =
      dir.segment := by
  induction refs generalizing dir current count with
  | nil => simp [rewriteOps]
  | cons ref refs ih =>
    match count with
    | 0 => rfl
    | 1 | 2 => simp [rewriteOps]
    | count + 3 => simp [rewriteOps, ih]

theorem tmp_rewriteOps (dir : ObjectDir) (current : ℕ) (refs : List SegmentRow) :
    (applyOps dir (rewriteOps relpath segment current refs)).tmp =
      dir.tmp.map (· ++ (refs.map fun ref =>
        slice segment ref.segmentOffset ref.segmentLength).flatten) := by
  induction refs generalizing dir current with
  | nil => simp [rewriteOps]
  | cons ref refs ih => simp [rewriteOps, ih, Function.comp_def]

theorem loadJson_rewriteOps {dir : ObjectDir} {current : ℕ}
    (hnodup : (refs.map (·.objectId)).Nodup) :
    ∀ pair ∈ relocate current refs,
      loadJson (applyOps dir (rewriteOps relpath segment current refs))
          pair.1.objectId = .segment relpath pair.2 pair.1.segmentLength := by
  induction refs generalizing dir current with
  | nil => simp [relocate]
  | cons ref refs ih =>
    rw [List.map_cons, List.nodup_cons] at hnodup
    intro pair hpair
    simp only [rewriteOps, applyOps_cons]
    obtain rfl | hrest := List.mem_cons.mp hpair
    · rw [loadJson_rewriteOps_of_notMem _ _ _ _ hnodup.1]
      simp
    · exact ih hnodup.2 pair hrest

/-- The loop does the operations for the rows before the first one that reaches
past the end of the file, and raises if there is such a row. -/
theorem compactRefs_eq {dir : ObjectDir} (current : ℕ)
    (hrefs : Recorded relpath dir refs) :
    (compactRefs dir current refs).1 =
        rewriteOps relpath dir.segment current (wholeRows dir.segment refs) ∧
      ((compactRefs dir current refs).2 = none ↔
        wholeRows dir.segment refs = refs) := by
  induction refs generalizing dir current with
  | nil => simp [compactRefs, wholeRows, rewriteOps]
  | cons ref refs ih =>
    have hloaded := hrefs.loaded ref List.mem_cons_self
    have hnodup := hrefs.nodup
    rw [List.map_cons, List.nodup_cons] at hnodup
    by_cases hinside : ref.inside dir.segment
    · have hwhole := (slice_whole dir.segment ref.segmentOffset _).mpr hinside
      have hrest : Recorded relpath (applyOps dir (rowOps dir current ref)) refs := by
        refine ⟨fun other hother => ?_, hnodup.2⟩
        have hne : other.objectId ≠ ref.objectId := fun hsame =>
          hnodup.1 (hsame ▸ List.mem_map_of_mem hother)
        simpa [rowOps, hne] using
          hrefs.loaded other (List.mem_cons_of_mem _ hother)
      obtain ⟨hops, herror⟩ := ih (current + ref.segmentLength) hrest
      have hsegment : (applyOps dir (rowOps dir current ref)).segment =
          dir.segment := by simp [rowOps]
      rw [hsegment] at hops herror
      simp only [compactRefs, hwhole, ne_eq, not_true_eq_false, if_false, hops]
      constructor
      · simp [wholeRows, hinside, rewriteOps, rowOps, hloaded, MetaFile.moveTo]
      · rw [herror]
        simp [wholeRows, hinside]
    · have hshort : (slice dir.segment ref.segmentOffset ref.segmentLength).length ≠
          ref.segmentLength := fun hwhole => hinside ((slice_whole _ _ _).mp hwhole)
      simp [compactRefs, hshort, wholeRows, hinside, rewriteOps]

end

end PycloudParallel.SegmentGc
