import PycloudParallel.FoundationOrderedDict
import Mathlib.Data.List.Sort
import Mathlib.Data.List.Lex
import Mathlib.Data.Char

/-!
# Packages of source files

`_write_deterministic_targz` writes the last entry of every archive name, sorted by
name, with scrubbed headers; `tarfile` remembers the inodes it has met and reports
a second path of a file with several links as a link to the first.  Paths stand
for what they resolve to.
-/

namespace PycloudParallel.Packaging

abbrev Bytes := List UInt8

abbrev Name := List Char

abbrev Path := List Char

/-- What `lstat` and `os.access` report of a regular file. -/
structure FileStat where
  /-- `st_ino` and `st_dev` -/
  inode : ℕ × ℕ
  links : ℕ
  executable : Bool
  size : ℕ
  mtimeNs : ℤ
  mode : ℕ
  uid : ℕ
  gid : ℕ
  uname : Name
  gname : Name
deriving DecidableEq

abbrev Disk := Path → FileStat

structure TarSourceEntry where
  arcname : Name
  sourcePath : Option Path
  data : Bytes
deriving DecidableEq

def slash : Name := ['/']

def dot : Name := ['.']

def splitSlashes : List Char → List Name
  | [] => [[]]
  | char :: rest =>
    if char = '/' then [] :: splitSlashes rest
    else
      match splitSlashes rest with
      | [] => [[char]]
      | part :: parts => (char :: part) :: parts

def pathRoot : List Char → Name
  | '/' :: '/' :: '/' :: _ => slash
  | '/' :: '/' :: _ => slash ++ slash
  | '/' :: _ => slash
  | _ => []

def pathParts (text : List Char) : List Name :=
  (pathRoot text :: splitSlashes text).filter fun part => part ≠ [] ∧ part ≠ dot

def joinParts : List Name → Name
  | [] => dot
  | first :: rest =>
    if first = slash ++ slash then first ++ List.intercalate slash rest
    else List.intercalate slash (first :: rest)

def normalizeArcname (arcname : Name) : Name :=
  joinParts ((pathParts arcname).filter fun part =>
    part ≠ [] ∧ part ≠ dot ∧ part ≠ slash)

/-- `_normalized_file_mode`: `0o755` or `0o644`. -/
def normalizedFileMode (executable : Bool) : ℕ :=
  if executable then 493 else 420

inductive Fingerprint (Digest : Type)
  | data (arcname : Name) (size : ℕ) (sha256 : Digest)
  | file (arcname : Name) (path : Path) (mode size : ℕ) (mtimeNs : ℤ)
deriving DecidableEq

/-- What `_entries_cache_key` digests. -/
structure KeyPayload (Digest : Type) where
  scope : Name
  entries : List (Fingerprint Digest)
deriving DecidableEq

/-- What stands outside of the repository: the contents behind what `stat` tells of
a file, and the digests of bytes and of the JSON text of a payload. -/
structure Platform (Digest Key : Type) where
  contents : Path → ℕ → ℕ → ℤ → Bytes
  contents_length : ∀ path mode size mtimeNs,
    (contents path mode size mtimeNs).length = size
  sha256 : Bytes → Digest
  digest : KeyPayload Digest → Key

inductive MemberType
  | regular
  | link
deriving DecidableEq

structure TarInfo where
  name : Name
  size : ℕ
  mode : ℕ
  mtime : ℤ
  uid : ℕ
  gid : ℕ
  uname : Name
  gname : Name
  type : MemberType
  linkname : Name
deriving DecidableEq

abbrev Member := TarInfo × Bytes

structure TarFile where
  inodes : List ((ℕ × ℕ) × Name)
  members : List Member
deriving DecidableEq

namespace TarFile

def empty : TarFile := ⟨[], []⟩

def gettarinfo (tar : TarFile) (stat : FileStat) (arcname : Name) :
    TarInfo × TarFile :=
  let name := arcname.dropWhile (· = '/')
  let info (size : ℕ) (type : MemberType) (linkname : Name) : TarInfo :=
    { name := name
      size := size
      mode := stat.mode
      mtime := stat.mtimeNs / 1000000000
      uid := stat.uid
      gid := stat.gid
      uname := stat.uname
      gname := stat.gname
      type := type
      linkname := linkname }
  let remembered : TarFile :=
    if stat.inode.1 = 0 then tar
    else { tar with inodes := (stat.inode, name) :: tar.inodes }
  match tar.inodes.lookup stat.inode with
  | none => (info stat.size .regular [], remembered)
  | some first =>
    if 1 < stat.links ∧ name ≠ first then (info 0 .link first, tar)
    else (info stat.size .regular [], remembered)

/-- `addfile` copies as many bytes as the header says, and raises `OSError` at an
earlier end of the file. -/
def addfile (tar : TarFile) (info : TarInfo) (content : Bytes) : Option TarFile :=
  if content.length < info.size then none
  else some { tar with members := tar.members ++ [(info, content.take info.size)] }

end TarFile

def scrubbed (info : TarInfo) (executable : Bool) : TarInfo :=
  { info with
    uid := 0
    gid := 0
    uname := []
    gname := []
    mtime := 0
    mode := normalizedFileMode executable }

def dataInfo (arcname : Name) (data : Bytes) : TarInfo where
  name := arcname
  size := data.length
  mode := 420
  mtime := 0
  uid := 0
  gid := 0
  uname := []
  gname := []
  type := .regular
  linkname := []

namespace Platform

variable {Digest Key : Type} (platform : Platform Digest Key)

def read (disk : Disk) (path : Path) : Bytes :=
  platform.contents path (normalizedFileMode (disk path).executable) (disk path).size
    (disk path).mtimeNs

def fingerprint (disk : Disk) (entry : TarSourceEntry) : Fingerprint Digest :=
  match entry.sourcePath with
  | none =>
    .data (normalizeArcname entry.arcname) entry.data.length (platform.sha256 entry.data)
  | some path =>
    .file (normalizeArcname entry.arcname) path
      (normalizedFileMode (disk path).executable) (disk path).size (disk path).mtimeNs

def addEntry (disk : Disk) (tar : TarFile) (entry : TarSourceEntry) : Option TarFile :=
  match entry.sourcePath with
  | none => tar.addfile (dataInfo entry.arcname entry.data) entry.data
  | some path =>
    let (info, tar) := tar.gettarinfo (disk path) entry.arcname
    match info.type with
    | .link => some tar
    | .regular =>
      tar.addfile (scrubbed info (disk path).executable) (platform.read disk path)

end Platform

def deduped (entries : List TarSourceEntry) : OrderedDict Name TarSourceEntry :=
  entries.foldl (fun out entry =>
    let arcname := normalizeArcname entry.arcname
    if arcname = [] then out
    else OrderedDict.set out arcname { entry with arcname := arcname }) ∅

def sortedEntries (entries : List TarSourceEntry) : List TarSourceEntry :=
  ((deduped entries).keys.insertionSort (· ≤ ·)).filterMap (deduped entries).lookup

def Platform.writeDeterministicTargz {Digest Key : Type} (platform : Platform Digest Key) (disk : Disk)
    (entries : List TarSourceEntry) : Option (List Member) :=
  ((sortedEntries entries).foldlM (platform.addEntry disk) TarFile.empty).map
    TarFile.members

end PycloudParallel.Packaging
