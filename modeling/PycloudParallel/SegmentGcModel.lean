import PycloudParallel.FoundationLayouts
import PycloudParallel.FoundationOrderedDict
import Mathlib.Algebra.BigOperators.Group.List.Basic
import Mathlib.Data.Prod.Lex
import Mathlib.Data.String.Basic

/-!
# Compaction of segment files

Objects may be stored in one segment file, each with a metadata file that records
its range.  `pycloudctl gc` copies the ranges that are still recorded to a new file,
one after another, rewrites each metadata file on the way, and then puts the new
file in the place of the old one.
-/

namespace PycloudParallel.SegmentGc

open OrderedDict

abbrev ObjectId := String

abbrev Bytes := List UInt8

/-- What `_load_json` makes of the metadata file of an object.  The store writes the
length of a range as `segment_length` and as `size_bytes`. -/
inductive MetaFile
  /-- Empty or cut off: it is read as an empty object. -/
  | broken
  /-- `storage_backend` is `file`. -/
  | file (sizeBytes : ℕ)
  | segment (segmentRelpath : String) (segmentOffset segmentLength : ℕ)
deriving DecidableEq

/-- One segment file, its `.tmp` file and the metadata files. -/
structure ObjectDir where
  segment : Bytes
  tmp : Option Bytes
  metas : OrderedDict ObjectId MetaFile

structure SegmentRow where
  objectId : ObjectId
  segmentOffset : ℕ
  segmentLength : ℕ
deriving DecidableEq

def loadJson (dir : ObjectDir) (objectId : ObjectId) : MetaFile :=
  (dir.metas.lookup objectId).getD .broken

/-- The bytes that an object of the segment `relpath` is read back with. -/
def readObject (relpath : String) (dir : ObjectDir) (objectId : ObjectId) :
    Option Bytes :=
  match loadJson dir objectId with
  | .segment path offset length =>
    if path = relpath then some (slice dir.segment offset length) else none
  | _ => none

def rowBefore (first second : SegmentRow) : Prop :=
  first.segmentOffset < second.segmentOffset ∨
    (first.segmentOffset = second.segmentOffset ∧ first.objectId ≤ second.objectId)

instance : DecidableRel rowBefore := fun _ _ => instDecidableOr

def segmentRow (relpath : String) : ObjectId × MetaFile → Option SegmentRow
  | (objectId, .segment path offset length) =>
    if path = relpath then some ⟨objectId, offset, length⟩ else none
  | _ => none

def segmentRefRows (relpath : String) (dir : ObjectDir) : List SegmentRow :=
  ((items dir.metas).filterMap (segmentRow relpath)).insertionSort rowBefore

structure CompactionPlan where
  fileSize : ℕ
  liveBytes : ℕ
  wastedBytes : ℕ
  needsCompaction : Bool

/-- The loop of `_segment_compaction_plan` over the offsets. -/
def offsetsFrom : ℕ → List SegmentRow → Bool
  | _, [] => true
  | currentOffset, item :: refs =>
    if item.segmentOffset ≠ currentOffset then false
    else offsetsFrom (currentOffset + item.segmentLength) refs

def segmentCompactionPlan (dir : ObjectDir) (refs : List SegmentRow) :
    CompactionPlan :=
  let liveBytes := (refs.map (·.segmentLength)).sum
  let fileSize := dir.segment.length
  let alreadyCompact := decide (liveBytes = fileSize) && offsetsFrom 0 refs
  { fileSize := fileSize
    liveBytes := liveBytes
    wastedBytes := fileSize - liveBytes
    needsCompaction := !refs.isEmpty && !alreadyCompact }

/-- The file operations of `_compact_segment_file`. -/
inductive FileOp
  | openTmp
  | write (blob : Bytes)
  /-- `write_text` opens the metadata file; it is empty until the text is there. -/
  | truncateMeta (objectId : ObjectId)
  | writeMeta (objectId : ObjectId) (metaFile : MetaFile)
  | replace

def applyOp (dir : ObjectDir) : FileOp → ObjectDir
  | .openTmp => { dir with tmp := some [] }
  | .write blob => { dir with tmp := dir.tmp.map (· ++ blob) }
  | .truncateMeta objectId => { dir with metas := set dir.metas objectId .broken }
  | .writeMeta objectId metaFile =>
    { dir with metas := set dir.metas objectId metaFile }
  | .replace => { dir with segment := dir.tmp.getD dir.segment, tmp := none }

def applyOps (dir : ObjectDir) (ops : List FileOp) : ObjectDir :=
  ops.foldl applyOp dir

def MetaFile.moveTo (offset length : ℕ) : MetaFile → MetaFile
  | .segment path _ _ => .segment path offset length
  | metaFile => metaFile

def truncatedRead (objectId : ObjectId) : String :=
  "segment compaction failed: truncated read for " ++ objectId

def rowOps (dir : ObjectDir) (currentOffset : ℕ) (ref : SegmentRow) : List FileOp :=
  [.write (slice dir.segment ref.segmentOffset ref.segmentLength),
    .truncateMeta ref.objectId,
    .writeMeta ref.objectId
      ((loadJson dir ref.objectId).moveTo currentOffset ref.segmentLength)]

/-- The loop over the rows: the operations it does, and the error that it raises. -/
def compactRefs : ObjectDir → ℕ → List SegmentRow → List FileOp × Option String
  | _, _, [] => ([], none)
  | dir, currentOffset, ref :: refs =>
    let blob := slice dir.segment ref.segmentOffset ref.segmentLength
    if blob.length ≠ ref.segmentLength then ([], some (truncatedRead ref.objectId))
    else
      let ops := rowOps dir currentOffset ref
      let rest := compactRefs (applyOps dir ops)
        (currentOffset + ref.segmentLength) refs
      (ops ++ rest.1, rest.2)

def compactSegmentFile (dir : ObjectDir) (refs : List SegmentRow) :
    List FileOp × Option String :=
  if (segmentCompactionPlan dir refs).needsCompaction then
    let loop := compactRefs (applyOp dir .openTmp) 0 refs
    (.openTmp :: loop.1 ++ (if loop.2 = none then [.replace] else []), loop.2)
  else ([], none)

def compaction (relpath : String) (dir : ObjectDir) : List FileOp × Option String :=
  compactSegmentFile dir (segmentRefRows relpath dir)

/-- The files after the first `count` operations; the rest is never done. -/
def stoppedAfter (relpath : String) (dir : ObjectDir) (count : ℕ) : ObjectDir :=
  applyOps dir ((compaction relpath dir).1.take count)

def completes (relpath : String) (dir : ObjectDir) (count : ℕ) : Prop :=
  (compaction relpath dir).2 = none ∧ (compaction relpath dir).1.length ≤ count

def SegmentRow.inside (row : SegmentRow) (segment : Bytes) : Prop :=
  row.segmentLength ≤ segment.length - row.segmentOffset

instance (row : SegmentRow) (segment : Bytes) : Decidable (row.inside segment) :=
  inferInstanceAs (Decidable (_ ≤ _))

def PreservesObjects (relpath : String) (before after : ObjectDir) : Prop :=
  ∀ row ∈ segmentRefRows relpath before, row.inside before.segment →
    readObject relpath after row.objectId =
      some (slice before.segment row.segmentOffset row.segmentLength)

structure Compacted (relpath : String) (before after : ObjectDir) : Prop where
  contiguous : ∃ moved : List SegmentRow,
    moved.map (·.objectId) =
      (segmentRefRows relpath before).map (·.objectId) ∧
    (∀ row ∈ moved, loadJson after row.objectId =
      .segment relpath row.segmentOffset row.segmentLength) ∧
    Contiguous SegmentRow.segmentOffset SegmentRow.segmentLength 0 moved ∧
    (moved.Pairwise fun first second =>
      first.segmentOffset + first.segmentLength ≤ second.segmentOffset) ∧
    (moved.map (·.segmentLength)).sum = after.segment.length
  unchanged : applyOps after (compaction relpath after).1 = after

/-- The call, stopped after `count` operations, keeps every object, and it leaves
the segment compact if it completes. -/
def KeepsObjects (relpath : String) (dir : ObjectDir) (count : ℕ) : Prop :=
  PreservesObjects relpath dir (stoppedAfter relpath dir count) ∧
    (completes relpath dir count →
      Compacted relpath dir (stoppedAfter relpath dir count))

end PycloudParallel.SegmentGc
