import PycloudParallel.FoundationGuardedRun
import PycloudParallel.FoundationOrderedDict
import PycloudParallel.ObjectMaterializers

/-!
# The objects of a node

Objects are kept under the hash of their bytes: as files, one path for a format,
or in segments, to which bytes are only appended.  One metadata record a hash says
where the object is and what its format is; the node process has such records in
memory as well.

Formats are normalised names.  Sizes are those of the bytes, times are left out.
-/

namespace PycloudParallel.ObjectStore

inductive Backend
  | file
  | segment (index offset length : ℕ)
deriving DecidableEq

/-- `ObjectArtifact`, and what a metadata file has of it. -/
structure Record where
  format : String
  backend : Backend
deriving DecidableEq

structure DataRef (ι : Type*) where
  objectId : ι
  format : String
  materializeAs : MaterializeAs
deriving DecidableEq

structure StoredRef (ι : Type*) where
  ref : DataRef ι
  declared : String
  blob : List UInt8
  record : Record
deriving DecidableEq

structure Store (ι : Type*) where
  files : OrderedDict (ι × String) (List UInt8)
  segments : List (List UInt8)
  metas : OrderedDict ι Record
  /-- `_objects` of the node process. -/
  objects : OrderedDict ι Record
  /-- Nothing reads it. -/
  returned : List (StoredRef ι)

namespace Store

variable {ι : Type*} [DecidableEq ι]

def empty : Store ι where
  files := ∅
  segments := []
  metas := ∅
  objects := ∅
  returned := []

/-- `_artifact_exists`. -/
def isThere (s : Store ι) (id : ι) (record : Record) : Bool :=
  match record.backend with
  | .file => (s.files.lookup (id, record.format)).isSome
  | .segment index _ _ => index < s.segments.length

/-- `_read_object_artifact_bytes`. -/
def readRecord (s : Store ι) (id : ι) (record : Record) : Option (List UInt8) :=
  match record.backend with
  | .file => s.files.lookup (id, record.format)
  | .segment index offset length =>
    s.segments[index]?.map fun content => (content.drop offset).take length

def existing (s : Store ι) (records : OrderedDict ι Record) (id : ι) : Option Record :=
  (records.lookup id).filter fun record => s.isThere id record

/-- `_append_bytes_to_segment` and `_append_file_to_segment` up to the metadata: to
the writer's own segment, or to a new one. -/
def appendSegment (s : Store ι) (blob : List UInt8) (segment : ℕ) : Store ι × Backend :=
  match s.segments[segment]? with
  | some content =>
    ({ s with segments := s.segments.set segment (content ++ blob) },
      .segment segment content.length blob.length)
  | none =>
    ({ s with segments := s.segments ++ [blob] },
      .segment s.segments.length 0 blob.length)

def putFile (s : Store ι) (id : ι) (fmt : String) (blob : List UInt8)
    (overwrite : Bool) : Store ι :=
  if (s.files.lookup (id, fmt)).isSome && !overwrite then s
  else { s with files := s.files.set (id, fmt) blob }

def writeMeta (s : Store ι) (id : ι) (record : Record) : Store ι :=
  { s with metas := s.metas.set id record }

def keep (s : Store ι) (id : ι) (record : Record) : Store ι :=
  { s with objects := s.objects.set id record }

def giveRef (s : Store ι) (id : ι) (declared : String) (as : MaterializeAs)
    (blob : List UInt8) (record : Record) : Store ι :=
  { s with returned := s.returned ++
      [⟨⟨id, record.format, as⟩, declared, blob, record⟩] }

def putUploaded (s : Store ι) (segmentMax : ℕ) (id : ι) (fmt : String)
    (blob : List UInt8) (segment : ℕ) : Store ι × Record :=
  match s.existing s.objects id with
  | some record => (s, record)
  | none =>
    match s.existing s.metas id with
    | some record => (s.keep id record, record)
    | none =>
      if blob.length ≤ segmentMax then
        let appended := s.appendSegment blob segment
        let record := ⟨fmt, appended.2⟩
        ((appended.1.writeMeta id record).keep id record, record)
      else
        let record := ⟨fmt, .file⟩
        (((s.putFile id fmt blob false).writeMeta id record).keep id record, record)

def getObjectArtifact (s : Store ι) (id : ι) : Option (Store ι × Record) :=
  match s.existing s.objects id with
  | some record => some (s, record)
  | none =>
    match s.existing s.metas id with
    | some record => some (s.keep id record, record)
    | none =>
      if (s.files.lookup (id, "bin")).isSome then
        some (s.keep id ⟨"bin", .file⟩, ⟨"bin", .file⟩)
      else none

end Store

inductive Label
  /-- `_object_ref_if_exists` in front of an upload. -/
  | precheck (blob : List UInt8) (fmt : String) (as : MaterializeAs)
  | upload (blob : List UInt8) (fmt : String) (as : MaterializeAs) (segment : ℕ)
  | commitFile (blob : List UInt8) (fmt : String) (as : MaterializeAs)
      (copySource : Bool)
  | commitSegment (blob : List UInt8) (fmt : String) (as : MaterializeAs) (segment : ℕ)
  /-- `_register_stored_result_artifact_locked`. -/
  | register (index : ℕ)
  | cacheRemote (blob : List UInt8) (fmt : String) (as : MaterializeAs)

section

variable {ι : Type*} [DecidableEq ι] (sha256 : List UInt8 → ι) (segmentMax : ℕ)

def step (s : Store ι) : Label → Option (Store ι)
  | .precheck blob fmt as =>
    match s.getObjectArtifact (sha256 blob) with
    | none => some s
    | some (t, record) => some (t.giveRef (sha256 blob) fmt as blob record)
  | .upload blob fmt as segment =>
    let put := s.putUploaded segmentMax (sha256 blob) fmt blob segment
    some (put.1.giveRef (sha256 blob) fmt as blob put.2)
  | .commitFile blob fmt as copySource =>
    some (((s.putFile (sha256 blob) fmt blob copySource).writeMeta (sha256 blob)
      ⟨fmt, .file⟩).giveRef (sha256 blob) fmt as blob ⟨fmt, .file⟩)
  | .commitSegment blob fmt as segment =>
    let appended := s.appendSegment blob segment
    some ((appended.1.writeMeta (sha256 blob) ⟨fmt, appended.2⟩).giveRef
      (sha256 blob) fmt as blob ⟨fmt, appended.2⟩)
  | .register index =>
    match s.returned[index]? with
    | none => none
    | some stored => some (s.keep stored.ref.objectId stored.record)
  | .cacheRemote blob fmt as =>
    some (((s.putFile (sha256 blob) fmt blob false).writeMeta (sha256 blob)
      ⟨fmt, .file⟩).giveRef (sha256 blob) fmt as blob ⟨fmt, .file⟩)

end

section

variable {ι V F : Type*} [DecidableEq ι] (readers : Readers V F) (limit : ℕ)

/-- `_materialize_object_artifact`. -/
def materializeRecord (s : Store ι) (id : ι) (as : MaterializeAs) (record : Record) :
    Option (Resolved V) :=
  (s.readRecord id record).bind fun blob =>
    match record.backend with
    | .file => materializeFile readers limit record.format as blob
    | .segment _ _ _ => materializeSegment readers record.format as blob

def resolveSingleDataRef (s : Store ι) (ref : DataRef ι) : Option (Resolved V) :=
  let as := resolveMaterializeAs ref.format ref.materializeAs
  match s.existing s.metas ref.objectId with
  | some record => materializeRecord readers limit s ref.objectId as record
  | none =>
    if (s.files.lookup (ref.objectId, ref.format)).isSome then
      materializeRecord readers limit s ref.objectId as ⟨ref.format, .file⟩
    else none

def fetchResultRefData (s : Store ι) (ref : DataRef ι) : Option (Resolved V) :=
  (s.getObjectArtifact ref.objectId).bind fun found =>
    (s.readRecord ref.objectId found.2).bind fun blob =>
      materializeDownloaded readers limit ref.format
        (resolveMaterializeAs ref.format ref.materializeAs) blob

/-- The value of some bytes under a declared format: what a client makes of them. -/
def declaredValue (fmt : String) (as : MaterializeAs) (blob : List UInt8) :
    Option (Resolved V) :=
  materializeDownloaded readers limit fmt (resolveMaterializeAs fmt as) blob

/-- Every reference that was returned means what was declared, on the node and at a
client. -/
def Store.Truthful (s : Store ι) : Prop :=
  ∀ stored ∈ s.returned,
    resolveSingleDataRef readers limit s stored.ref =
        declaredValue readers limit stored.declared stored.ref.materializeAs
          stored.blob ∧
      fetchResultRefData readers limit s stored.ref =
        declaredValue readers limit stored.declared stored.ref.materializeAs
          stored.blob

def readAs (fmt : String) (as : MaterializeAs) : MaterializeAs × Reading :=
  (resolveMaterializeAs fmt as, reading fmt (resolveMaterializeAs fmt as))

/-- The condition on an operation: the materializers agree on its object, and no
operation before declared the same bytes to have a format that is read in another
way. -/
def mayStore (sha256 : List UInt8 → ι) (s : Store ι) (blob : List UInt8) (fmt : String)
    (as : MaterializeAs) : Prop :=
  Agrees readers limit fmt (resolveMaterializeAs fmt as) blob ∧
    ∀ stored ∈ s.returned, stored.ref.objectId = sha256 blob →
      readAs stored.declared as = readAs fmt as ∧
        readAs stored.declared stored.ref.materializeAs =
          readAs fmt stored.ref.materializeAs

def undisturbed (sha256 : List UInt8 → ι) (s : Store ι) : Label → Prop
  | .precheck blob fmt as | .upload blob fmt as _ | .commitFile blob fmt as _
  | .commitSegment blob fmt as _ | .cacheRemote blob fmt as =>
    mayStore readers limit sha256 s blob fmt as
  | .register _ => True

end

end PycloudParallel.ObjectStore
