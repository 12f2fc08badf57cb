import PycloudParallel.SegmentGcRows
import Mathlib.Data.List.TakeWhile

/-!
# When a compaction keeps every object

The metadata is rewritten while the old file is still there.  A call that is stopped
before the replacement keeps the objects only if what it has rewritten happens to
read the same bytes in the old file.
-/

namespace PycloudParallel.SegmentGc

open OrderedDict

/-- The loop stops well after `count` operations: no metadata file is just emptied,
and the rows that have got their new offsets find the same bytes there in the old
file. -/
def RewritesSafely (segment : Bytes) (current : ℕ) (refs : List SegmentRow)
    (count : ℕ) : Prop :=
  (count ≤ 3 * refs.length → count % 3 ≠ 2) ∧
    ∀ pair ∈ (relocate current refs).take (count / 3),
      slice segment pair.2 pair.1.segmentLength =
        slice segment pair.1.segmentOffset pair.1.segmentLength

/-- No empty row is followed, at its new offset, by a longer row with a smaller
object id. -/
def EmptyRowsFirst (refs : List SegmentRow) : Prop :=
  (movedRows refs).Pairwise fun first second =>
    first.segmentOffset = second.segmentOffset → 0 < second.segmentLength →
      first.objectId ≤ second.objectId

/-- The call may be stopped after `count` operations. -/
def StopsSafely (relpath : String) (dir : ObjectDir) (count : ℕ) : Prop :=
  if segmentRefRows relpath dir = [] then dir.segment = []
  else if (segmentCompactionPlan dir (segmentRefRows relpath dir)).needsCompaction =
      false then True
  else if wholeRows dir.segment (segmentRefRows relpath dir) =
        segmentRefRows relpath dir ∧
      3 * (segmentRefRows relpath dir).length + 2 ≤ count then
    EmptyRowsFirst (segmentRefRows relpath dir)
  else
    RewritesSafely dir.segment 0
      (wholeRows dir.segment (segmentRefRows relpath dir)) (count - 1)

/-! ## Stops before the replacement -/

section

variable {relpath : String} {dir : ObjectDir} {refs : List SegmentRow}

theorem readObject_of_loadJson {objectId : ObjectId} {offset length : ℕ}
    (hload : loadJson dir objectId = .segment relpath offset length) :
    readObject relpath dir objectId = some (slice dir.segment offset length) := by
  simp [readObject, hload]

theorem eq_of_objectId_eq {first second : SegmentRow}
    (hfirst : first ∈ segmentRefRows relpath dir)
    (hsecond : second ∈ segmentRefRows relpath dir)
    (hsame : first.objectId = second.objectId) : first = second := by
  have hload := (mem_segmentRefRows.mp hfirst).symm
  rw [hsame, mem_segmentRefRows.mp hsecond] at hload
  obtain ⟨id, offset, length⟩ := first
  cases second
  simp_all

theorem reads_rewriteOps_iff {segment : Bytes} (hsegment : dir.segment = segment)
    {current : ℕ} (hrefs : Recorded relpath dir refs) (count : ℕ) :
    (∀ row ∈ refs, readObject relpath
        (applyOps dir ((rewriteOps relpath segment current refs).take count))
        row.objectId =
      some (slice segment row.segmentOffset row.segmentLength)) ↔
      RewritesSafely segment current refs count := by
  induction refs generalizing dir current count with
  | nil =>
    simp only [RewritesSafely, relocate, List.length_nil, List.take_nil,
      List.not_mem_nil, false_implies, implies_true, and_true, true_iff]
    omega
  | cons ref refs ih =>
    have hnodup := hrefs.nodup
    rw [List.map_cons, List.nodup_cons] at hnodup
    have hread : ∀ row ∈ ref :: refs, readObject relpath dir row.objectId =
        some (slice segment row.segmentOffset row.segmentLength) := by
      intro row hrow
      rw [readObject_of_loadJson (hrefs.loaded row hrow), hsegment]
    rcases count with _ | _ | _ | count
    · simpa [RewritesSafely] using hread
    · have hsame : ∀ row ∈ ref :: refs,
          readObject relpath (applyOp dir
            (.write (slice segment ref.segmentOffset ref.segmentLength)))
            row.objectId =
          some (slice segment row.segmentOffset row.segmentLength) := hread
      simpa [RewritesSafely, rewriteOps] using hsame
    · have hlost : readObject relpath
          (applyOps dir ((rewriteOps relpath segment current (ref :: refs)).take 2))
          ref.objectId = none := by
        simp [rewriteOps, readObject]
      have hunsafe : ¬ RewritesSafely segment current (ref :: refs) 2 := fun hsafe =>
        hsafe.1 (by rw [List.length_cons]; omega) rfl
      refine iff_of_false (fun hall => ?_) hunsafe
      have hfound := hall ref List.mem_cons_self
      rw [hlost] at hfound
      cases hfound
    · let moved := applyOps dir [.write (slice segment ref.segmentOffset
        ref.segmentLength), .truncateMeta ref.objectId,
        .writeMeta ref.objectId (.segment relpath current ref.segmentLength)]
      have hmoved : moved.segment = segment := by simp [moved, hsegment]
      have hrest : Recorded relpath moved refs := by
        refine ⟨fun other hother => ?_, hnodup.2⟩
        have hne : other.objectId ≠ ref.objectId := fun hsame =>
          hnodup.1 (hsame ▸ List.mem_map_of_mem hother)
        simpa [moved, hne] using hrefs.loaded other (List.mem_cons_of_mem _ hother)
      have hops : applyOps dir
          ((rewriteOps relpath segment current (ref :: refs)).take (count + 3)) =
          applyOps moved ((rewriteOps relpath segment (current + ref.segmentLength)
            refs).take count) := rfl
      have hhead : readObject relpath (applyOps moved
          ((rewriteOps relpath segment (current + ref.segmentLength) refs).take
            count)) ref.objectId =
          some (slice segment current ref.segmentLength) := by
        have hload : loadJson (applyOps moved
            ((rewriteOps relpath segment (current + ref.segmentLength) refs).take
              count)) ref.objectId =
            .segment relpath current ref.segmentLength := by
          rw [loadJson_rewriteOps_other hnodup.1]
          simp [moved]
        rw [readObject_of_loadJson hload, segment_rewriteOps, hmoved]
      have hmod : (count + 3) % 3 = count % 3 := by omega
      have hdiv : (count + 3) / 3 = count / 3 + 1 := by omega
      have hle : count + 3 ≤ 3 * (refs.length + 1) ↔ count ≤ 3 * refs.length := by
        omega
      rw [List.forall_mem_cons, hops, hhead, ih hmoved hrest count, Option.some_inj]
      simp only [RewritesSafely, relocate, List.length_cons, hmod, hdiv, hle,
        List.take_succ_cons, List.forall_mem_cons]
      exact and_left_comm

theorem mem_wholeRows {segment : Bytes} {row : SegmentRow}
    (hrow : row ∈ wholeRows segment refs) : row ∈ refs ∧ row.inside segment :=
  ⟨(List.takeWhile_sublist _).subset hrow,
    of_decide_eq_true (List.mem_takeWhile_imp (p := fun ref : SegmentRow =>
      decide (ref.inside segment)) hrow)⟩

theorem recorded_wholeRows (relpath : String) (dir : ObjectDir) :
    Recorded relpath dir
      (wholeRows dir.segment (segmentRefRows relpath dir)) := by
  have hrefs := recorded_segmentRefRows relpath dir
  exact ⟨fun ref href => hrefs.loaded ref (mem_wholeRows href).1,
    hrefs.nodup.sublist ((List.takeWhile_sublist _).map _)⟩

theorem preservesObjects_iff (relpath : String) (dir : ObjectDir) (count : ℕ) :
    PreservesObjects relpath dir (applyOps (applyOp dir .openTmp)
        ((rewriteOps relpath dir.segment 0
          (wholeRows dir.segment (segmentRefRows relpath dir))).take count)) ↔
      RewritesSafely dir.segment 0
        (wholeRows dir.segment (segmentRefRows relpath dir)) count := by
  have hopened : Recorded relpath (applyOp dir .openTmp)
      (wholeRows dir.segment (segmentRefRows relpath dir)) :=
    ⟨(recorded_wholeRows relpath dir).loaded, (recorded_wholeRows relpath dir).nodup⟩
  rw [← reads_rewriteOps_iff (segment_openTmp dir) hopened count]
  constructor
  · intro hkeeps row hrow
    exact hkeeps row (mem_wholeRows hrow).1 (mem_wholeRows hrow).2
  · intro hreads row hrow _
    by_cases hwhole : row ∈ wholeRows dir.segment (segmentRefRows relpath dir)
    · exact hreads row hwhole
    · have hother : row.objectId ∉
          (wholeRows dir.segment (segmentRefRows relpath dir)).map (·.objectId) := by
        intro hmem
        obtain ⟨other, hother, hsame⟩ := List.mem_map.mp hmem
        exact hwhole (eq_of_objectId_eq (mem_wholeRows hother).1 hrow hsame ▸ hother)
      have hload : loadJson (applyOps (applyOp dir .openTmp)
          ((rewriteOps relpath dir.segment 0
            (wholeRows dir.segment (segmentRefRows relpath dir))).take count))
          row.objectId =
          .segment relpath row.segmentOffset row.segmentLength := by
        rw [loadJson_rewriteOps_other hother, loadJson_openTmp]
        exact mem_segmentRefRows.mp hrow
      rw [readObject_of_loadJson hload, segment_rewriteOps, segment_openTmp]

end

end PycloudParallel.SegmentGc
