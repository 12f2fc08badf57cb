import PycloudParallel.CodeStoreModel

/-!
# Extraction of an archive

Extraction stays below its output directory whatever the entries are.  It
raises exactly if some entry does not fit the tree that the entries before it
have made; otherwise the files below the directory are those of the archive.
-/

namespace PycloudParallel.CodeStore

open FileTree (AgreeOff)

def fileAt (tree : FileSystem) (path : Path) : Option FileContent :=
  match tree path with
  | some (.file _ content) => some content
  | _ => none

def isDirectory (tree : FileSystem) (path : Path) : Bool :=
  match tree path with
  | some (.directory _) => true
  | _ => false

def emptyTree : FileSystem := fun path =>
  if path = [] then some (.directory 0) else none

def placeDirectories : FileSystem → List Path → FileSystem
  | tree, [] => tree
  | tree, path :: rest =>
    placeDirectories
      (if (tree path).isSome then tree else tree.place path (.directory 0)) rest

def DirectoriesFit (env : Environment) : FileSystem → List Path → Prop
  | _, [] => True
  | tree, path :: rest =>
    (isDirectory tree path = true ∨
      tree path = none ∧ env.refuses tree path = false) ∧
    DirectoriesFit env
      (if (tree path).isSome then tree else tree.place path (.directory 0)) rest

def ArchiveEntry.directories (entry : ArchiveEntry) (path : Path) : List Path :=
  if entry.kind = .directory then path.inits else path.dropLast.inits

def ArchiveEntry.bytes (entry : ArchiveEntry) : List UInt8 :=
  match entry.body with
  | .whole bytes | .broken bytes => bytes
  | .unreadable => []

def ArchiveEntry.write (entry : ArchiveEntry) (tree : FileSystem) (path : Path) :
    FileSystem :=
  match tree path with
  | some (.file mode _) =>
    applyMode (tree.place path (.file mode (.bytes entry.bytes))) path entry.mode
  | _ => applyMode (tree.place path (.file 0 (.bytes entry.bytes))) path entry.mode

def ArchiveEntry.place (entry : ArchiveEntry) (tree : FileSystem) (path : Path) :
    FileSystem :=
  let tree := placeDirectories tree (entry.directories path)
  if entry.kind = .directory then applyMode tree path entry.mode
  else entry.write tree path

section

variable (env : Environment) (format : PackageFormat) (root : Path)

def entryPath (entry : ArchiveEntry) : Path :=
  (resolve env root entry.name).drop root.length

/-- An entry can be extracted into a tree: its name stays inside, it is a file
or a directory, the directories it needs are there or can be made, and a file
can be read and can be written in its place. -/
structure ArchiveEntry.Fits (tree : FileSystem) (entry : ArchiveEntry) :
    Prop where
  inside : root <+: resolve env root entry.name
  supported : entry.kind = .file ∨ entry.kind = .directory ∨
    format ≠ .tarGz ∧ entry.kind ≠ .link
  directories :
    DirectoriesFit env tree (entry.directories (entryPath env root entry))
  readable : entry.kind ≠ .directory → ∃ bytes, entry.body = .whole bytes
  room : entry.kind ≠ .directory →
    let tree := placeDirectories tree
      (entry.directories (entryPath env root entry))
    isDirectory tree (entryPath env root entry) = false ∧
      env.refuses tree (entryPath env root entry) = false

def EntriesFit : FileSystem → List ArchiveEntry → Prop
  | _, [] => True
  | tree, entry :: rest =>
    entry.Fits env format root tree ∧
      EntriesFit (entry.place tree (entryPath env root entry)) rest

def placeEntries : FileSystem → List ArchiveEntry → FileSystem
  | tree, [] => tree
  | tree, entry :: rest =>
    placeEntries (entry.place tree (entryPath env root entry)) rest

/-- The files that a list of entries names; a later one replaces an earlier
one of the same path. -/
def entryFiles : (Path → Option (List UInt8)) → List ArchiveEntry →
    Path → Option (List UInt8)
  | files, [] => files
  | files, entry :: rest =>
    entryFiles
      (if entry.kind = .directory then files
      else fun path =>
        if path = entryPath env root entry then some entry.bytes
        else files path) rest

end

def Archive.Extractable (env : Environment) (archive : Archive)
    (format : PackageFormat) : Prop :=
  ∃ entries, archive.entries format = some entries ∧
    EntriesFit env format (codePkgDir env archive.digest) emptyTree entries

def Archive.files (env : Environment) (archive : Archive)
    (format : PackageFormat) : Path → Option (List UInt8) :=
  entryFiles env (codePkgDir env archive.digest) (fun _ => none)
    ((archive.entries format).getD [])

/-- What a part of the extraction does below its directory: it succeeds
exactly on what fits. -/
structure Extracts (root : Path) (fs : FileSystem)
    (outcome : FileSystem × Except UploadError Unit) (fits : Prop)
    (tree : FileSystem) : Prop where
  off : AgreeOff root fs outcome.1
  ok : fits → outcome.2 = .ok () ∧ outcome.1.below root = tree
  failed : ¬fits → ∃ error, outcome.2 = .error error

namespace Extracts

variable {root : Path} {fs made tree next : FileSystem}
  {outcome : FileSystem × Except UploadError Unit} {error : UploadError}
  {fits rest : Prop}

theorem succeeds (hoff : AgreeOff root fs made) (hfits : fits)
    (htree : made.below root = tree) :
    Extracts root fs (made, .ok ()) fits tree :=
  ⟨hoff, fun _ => ⟨rfl, htree⟩, fun hnot => absurd hfits hnot⟩

theorem fails (hoff : AgreeOff root fs made) (hnot : ¬fits) :
    Extracts root fs (made, .error error) fits tree :=
  ⟨hoff, fun hfits => absurd hfits hnot, fun _ => ⟨error, rfl⟩⟩

theorem fits_of_ok (hdone : Extracts root fs (made, .ok ()) fits tree) :
    fits := by
  by_contra hnot
  obtain ⟨error, herror⟩ := hdone.failed hnot
  cases herror

theorem not_fits (hdone : Extracts root fs (made, .error error) fits tree) :
    ¬fits := by
  intro hfits
  cases (hdone.ok hfits).1

theorem andThen (hfirst : Extracts root fs (made, .ok ()) fits tree)
    (hnext : made.below root = tree → Extracts root made outcome rest next) :
    Extracts root fs outcome (fits ∧ rest) next := by
  have hfits := hfirst.fits_of_ok
  obtain ⟨hoff, hok, hfailed⟩ := hnext (hfirst.ok hfits).2
  constructor
  · exact hfirst.off.trans hoff
  · exact fun hboth => hok hboth.2
  · exact fun hnot => hfailed fun hrest => hnot ⟨hfits, hrest⟩

theorem congr (hdone : Extracts root fs outcome fits tree)
    (hiff : rest ↔ fits) (htree : tree = next) :
    Extracts root fs outcome rest next := by
  rw [← htree]
  constructor
  · exact hdone.off
  · exact fun hrest => hdone.ok (hiff.mp hrest)
  · exact fun hnot => hdone.failed fun hfits => hnot (hiff.mpr hfits)

end Extracts

section

variable {env : Environment} {format : PackageFormat} {root path : Path}
  {fs tree : FileSystem} {entry : ArchiveEntry}

theorem below_apply : fs.below root path = fs (root ++ path) := rfl

theorem agreeOff_applyMode (mode : ℕ) :
    AgreeOff root fs (applyMode fs (root ++ path) mode) := by
  unfold applyMode
  split
  · exact .refl root fs
  · split
    · exact .refl root fs
    · exact FileTree.agreeOff_place root path _ fs
    · exact FileTree.agreeOff_place root path _ fs

theorem below_applyMode (mode : ℕ) :
    (applyMode fs (root ++ path) mode).below root =
      applyMode (fs.below root) path mode := by
  unfold applyMode
  rw [below_apply]
  split
  · rfl
  · split
    · rfl
    · exact FileTree.below_place
    · exact FileTree.below_place

theorem makeDirectory_extracts :
    Extracts root fs (makeDirectory env root fs path)
      (isDirectory (fs.below root) path = true ∨
        fs.below root path = none ∧ env.refuses (fs.below root) path = false)
      (if (fs.below root path).isSome then fs.below root
        else (fs.below root).place path (.directory 0)) := by
  unfold makeDirectory isDirectory
  rw [below_apply]
  cases hnode : fs (root ++ path) with
  | none =>
    cases hrefused : env.refuses (fs.below root) path with
    | true => exact .fails (.refl root fs) (by simp)
    | false =>
      apply Extracts.succeeds
      · exact FileTree.agreeOff_place root path _ fs
      · simp
      · exact FileTree.below_place
  | some node =>
    cases node with
    | directory mode => exact .succeeds (.refl root fs) (by simp) rfl
    | file mode content => exact .fails (.refl root fs) (by simp)

theorem makeDirectories_extracts (paths : List Path) :
    Extracts root fs (makeDirectories env root fs paths)
      (DirectoriesFit env (fs.below root) paths)
      (placeDirectories (fs.below root) paths) := by
  induction paths generalizing fs with
  | nil => exact .succeeds (.refl root fs) trivial rfl
  | cons path rest ih =>
    have hfirst := @makeDirectory_extracts env root path fs
    unfold makeDirectories DirectoriesFit placeDirectories
    split
    · next made houtcome =>
      rw [houtcome] at hfirst
      apply hfirst.andThen
      intro htree
      rw [← htree]
      exact ih
    · next made error houtcome =>
      rw [houtcome] at hfirst
      exact .fails hfirst.off fun hfits => hfirst.not_fits hfits.1

theorem extractDirectory_extracts :
    Extracts root fs (extractDirectory env root fs entry path)
      (DirectoriesFit env (fs.below root) path.inits)
      (applyMode (placeDirectories (fs.below root) path.inits) path
        entry.mode) := by
  have hmade := @makeDirectories_extracts env root fs path.inits
  unfold extractDirectory
  split
  · next made houtcome =>
    rw [houtcome] at hmade
    have hfits := hmade.fits_of_ok
    apply Extracts.succeeds
    · exact hmade.off.trans (agreeOff_applyMode entry.mode)
    · exact hfits
    · rw [below_applyMode, (hmade.ok hfits).2]
  · next made error houtcome =>
    rw [houtcome] at hmade
    exact .fails hmade.off hmade.not_fits

theorem writeBytes_extracts (bytes : List UInt8) :
    Extracts root fs (writeBytes env root fs path bytes)
      (isDirectory (fs.below root) path = false ∧
        env.refuses (fs.below root) path = false)
      (match fs.below root path with
        | some (.file mode _) =>
          (fs.below root).place path (.file mode (.bytes bytes))
        | _ => (fs.below root).place path (.file 0 (.bytes bytes))) := by
  unfold writeBytes isDirectory
  rw [below_apply]
  cases hrefused : env.refuses (fs.below root) path with
  | true =>
    cases hnode : fs (root ++ path) with
    | none => exact .fails (.refl root fs) (by simp)
    | some node => cases node <;> exact .fails (.refl root fs) (by simp)
  | false =>
    have hplaced := fun node => FileTree.agreeOff_place root path node fs
    cases hnode : fs (root ++ path) with
    | none =>
      exact .succeeds (hplaced _) (by simp) FileTree.below_place
    | some node =>
      cases node with
      | directory mode => exact .fails (.refl root fs) (by simp)
      | file mode content =>
        exact .succeeds (hplaced _) (by simp) FileTree.below_place

theorem writeEntry_extracts :
    Extracts root fs (writeEntry env root fs entry path)
      ((∃ bytes, entry.body = .whole bytes) ∧
        isDirectory (fs.below root) path = false ∧
        env.refuses (fs.below root) path = false)
      (entry.write (fs.below root) path) := by
  unfold writeEntry
  split
  · next hbody =>
    apply Extracts.fails (.refl root fs)
    rintro ⟨⟨bytes, hwhole⟩, -⟩
    rw [hbody] at hwhole
    cases hwhole
  · next bytes hbody =>
    have hwritten := @writeBytes_extracts env root path fs bytes
    have hnot : ¬∃ bytes, entry.body = .whole bytes := by
      rintro ⟨bytes, hwhole⟩
      rw [hbody] at hwhole
      cases hwhole
    split
    · next made houtcome =>
      rw [houtcome] at hwritten
      exact .fails hwritten.off fun hfits => hnot hfits.1
    · next made error houtcome =>
      rw [houtcome] at hwritten
      exact .fails hwritten.off fun hfits => hnot hfits.1
  · next bytes hbody =>
    have hwritten := @writeBytes_extracts env root path fs bytes
    split
    · next made houtcome =>
      rw [houtcome] at hwritten
      have hroom := hwritten.fits_of_ok
      apply Extracts.succeeds
      · exact hwritten.off.trans (agreeOff_applyMode entry.mode)
      · exact ⟨⟨bytes, hbody⟩, hroom⟩
      · rw [below_applyMode, (hwritten.ok hroom).2]
        unfold ArchiveEntry.write ArchiveEntry.bytes
        rw [hbody]
        split <;> rfl
    · next made error houtcome =>
      rw [houtcome] at hwritten
      exact .fails hwritten.off fun hfits => hwritten.not_fits hfits.2

theorem reject_ok :
    entry.reject format = .ok () ↔
      entry.kind = .file ∨ entry.kind = .directory ∨
        format ≠ .tarGz ∧ entry.kind ≠ .link := by
  unfold ArchiveEntry.reject
  cases format <;> cases entry.kind <;> simp

theorem safeJoin_ok {name : EntryName} (hinside : root <+: resolve env root name) :
    safeJoin env root name = .ok ((resolve env root name).drop root.length) := by
  unfold safeJoin
  exact if_pos hinside

theorem extractFile_extracts (hkind : entry.kind ≠ .directory)
    (hdirectories : entry.directories path = path.dropLast.inits) :
    Extracts root fs (extractFile env root fs entry path)
      (DirectoriesFit env (fs.below root) (entry.directories path) ∧
        (∃ bytes, entry.body = .whole bytes) ∧
        isDirectory (placeDirectories (fs.below root) (entry.directories path))
          path = false ∧
        env.refuses (placeDirectories (fs.below root) (entry.directories path))
          path = false) (entry.place (fs.below root) path) := by
  have hmade := @makeDirectories_extracts env root fs path.dropLast.inits
  unfold extractFile ArchiveEntry.place
  rw [hdirectories]
  split
  · next made houtcome =>
    rw [houtcome] at hmade
    apply hmade.andThen
    intro htree
    dsimp only
    rw [if_neg hkind, ← htree]
    exact writeEntry_extracts
  · next made error houtcome =>
    rw [houtcome] at hmade
    exact .fails hmade.off fun hfits => hmade.not_fits hfits.1

theorem extractEntry_extracts :
    Extracts root fs (extractEntry env format root fs entry)
      (entry.Fits env format root (fs.below root))
      (entry.place (fs.below root) (entryPath env root entry)) := by
  unfold extractEntry
  by_cases hinside : root <+: resolve env root entry.name
  · rw [safeJoin_ok hinside]
    cases hreject : entry.reject format with
    | error error =>
      apply Extracts.fails (.refl root fs)
      intro hfits
      rw [reject_ok.mpr hfits.supported] at hreject
      cases hreject
    | ok _ =>
      have hsupported := reject_ok.mp hreject
      dsimp only
      split
      · next hkind =>
        have hdone := @extractDirectory_extracts env root
          (entryPath env root entry) fs entry
        have hneeded : entry.directories (entryPath env root entry) =
            (entryPath env root entry).inits := by
          unfold ArchiveEntry.directories
          rw [if_pos hkind]
        apply hdone.congr
        · rw [← hneeded]
          constructor
          · exact fun hfits => hfits.directories
          · intro hfit
            constructor
            · exact hinside
            · exact hsupported
            · exact hfit
            · exact fun hne => absurd hkind hne
            · exact fun hne => absurd hkind hne
        · unfold ArchiveEntry.place
          dsimp only
          rw [hneeded, if_pos hkind]
      · next hkind =>
        have hneeded : entry.directories (entryPath env root entry) =
            (entryPath env root entry).dropLast.inits := by
          unfold ArchiveEntry.directories
          rw [if_neg hkind]
        have hdone := @extractFile_extracts env root _ fs entry hkind hneeded
        refine hdone.congr ⟨?_, ?_⟩ rfl
        · exact fun hfits => ⟨hfits.directories, hfits.readable hkind,
            hfits.room hkind⟩
        · rintro ⟨hfit, hreadable, hroom⟩
          exact ⟨hinside, hsupported, hfit, fun _ => hreadable, fun _ => hroom⟩
  · have hescapes : safeJoin env root entry.name =
        .error (.escapesDestination entry.name) := by
      unfold safeJoin
      exact if_neg hinside
    rw [hescapes]
    exact .fails (.refl root fs) fun hfits => hinside hfits.inside

theorem extractEntries_extracts (entries : List ArchiveEntry) :
    Extracts root fs (extractEntries env format root fs entries)
      (EntriesFit env format root (fs.below root) entries)
      (placeEntries env root (fs.below root) entries) := by
  induction entries generalizing fs with
  | nil => exact .succeeds (.refl root fs) trivial rfl
  | cons entry rest ih =>
    have hfirst := @extractEntry_extracts env format root fs entry
    unfold extractEntries EntriesFit placeEntries
    split
    · next made houtcome =>
      rw [houtcome] at hfirst
      apply hfirst.andThen
      intro htree
      rw [← htree]
      exact ih
    · next made error houtcome =>
      rw [houtcome] at hfirst
      exact .fails hfirst.off fun hfits => hfirst.not_fits hfits.1

theorem below_emptied :
    ((fs.prune root).place root (.directory 0)).below root = emptyTree := by
  funext path
  by_cases hpath : path = []
  · simp [FileTree.below, FileTree.place, emptyTree, hpath]
  · simp [FileTree.below, FileTree.place, FileTree.prune, emptyTree, hpath]

theorem agreeOff_emptied :
    AgreeOff root fs ((fs.prune root).place root (.directory 0)) := by
  have hplaced := FileTree.agreeOff_place root [] (Node.directory 0)
    (fs.prune root)
  rw [List.append_nil] at hplaced
  exact (FileTree.agreeOff_prune root fs).trans hplaced

theorem extractArchive_extracts (archive : Archive) :
    Extracts root fs (extractArchive env archive format root fs)
      (∃ entries, archive.entries format = some entries ∧
        EntriesFit env format root emptyTree entries)
      (placeEntries env root emptyTree ((archive.entries format).getD [])) := by
  unfold extractArchive
  cases hentries : archive.entries format with
  | none =>
    apply Extracts.fails agreeOff_emptied
    rintro ⟨entries, hsome, -⟩
    cases hsome
  | some entries =>
    have hdone := @extractEntries_extracts env format root
      ((fs.prune root).place root (.directory 0)) entries
    rw [below_emptied] at hdone
    constructor
    · exact agreeOff_emptied.trans hdone.off
    · rintro ⟨found, hfound, hfit⟩
      cases hfound
      exact hdone.ok hfit
    · intro hnot
      apply hdone.failed
      intro hfit
      exact hnot ⟨entries, rfl, hfit⟩

theorem extractArchive_inside (archive : Archive) :
    AgreeOff root fs (extractArchive env archive format root fs).1 :=
  (extractArchive_extracts archive).off

end

def Grows (fs fs' : FileSystem) : Prop :=
  ∀ path, (fs path).isSome = true → (fs' path).isSome = true

section growth

variable {env : Environment} {format : PackageFormat} {root path : Path}
  {fs fs' fs'' : FileSystem} {entry : ArchiveEntry}

theorem Grows.refl : Grows fs fs :=
  fun _ hsome => hsome

theorem Grows.trans (hfirst : Grows fs fs') (hsecond : Grows fs' fs'') :
    Grows fs fs'' :=
  fun path hsome => hsecond path (hfirst path hsome)

theorem grows_place (node : Node) : Grows fs (fs.place path node) := by
  intro other hsome
  by_cases heq : other = path
  · simp [FileTree.place, heq]
  · rw [FileTree.place_ne heq]
    exact hsome

theorem grows_applyMode (mode : ℕ) : Grows fs (applyMode fs path mode) := by
  unfold applyMode
  split
  · exact .refl
  · cases fs path with
    | none => exact .refl
    | some node => cases node <;> exact grows_place _

theorem grows_makeDirectory : Grows fs (makeDirectory env root fs path).1 := by
  unfold makeDirectory
  split
  · exact .refl
  · exact .refl
  · split
    · exact .refl
    · exact grows_place _

theorem grows_makeDirectories (paths : List Path) :
    Grows fs (makeDirectories env root fs paths).1 := by
  induction paths generalizing fs with
  | nil => exact .refl
  | cons path rest ih =>
    have hfirst := @grows_makeDirectory env root path fs
    unfold makeDirectories
    split
    · next made houtcome =>
      rw [houtcome] at hfirst
      exact hfirst.trans ih
    · next made error houtcome =>
      rw [houtcome] at hfirst
      exact hfirst

theorem grows_writeBytes (bytes : List UInt8) :
    Grows fs (writeBytes env root fs path bytes).1 := by
  unfold writeBytes
  split
  · exact .refl
  · split
    · exact .refl
    · exact grows_place _
  · split
    · exact .refl
    · exact grows_place _

theorem grows_writeEntry : Grows fs (writeEntry env root fs entry path).1 := by
  unfold writeEntry
  split
  · exact .refl
  · next bytes _ =>
    have hwritten := @grows_writeBytes env root path fs bytes
    split <;> next houtcome =>
      rw [houtcome] at hwritten
      exact hwritten
  · next bytes _ =>
    have hwritten := @grows_writeBytes env root path fs bytes
    split
    · next houtcome =>
      rw [houtcome] at hwritten
      exact hwritten.trans (grows_applyMode _)
    · next houtcome =>
      rw [houtcome] at hwritten
      exact hwritten

theorem grows_extractEntry :
    Grows fs (extractEntry env format root fs entry).1 := by
  unfold extractEntry
  split
  · exact .refl
  · exact .refl
  · next path _ _ =>
    split
    · have hmade := @grows_makeDirectories env root fs path.inits
      unfold extractDirectory
      split
      · next houtcome =>
        rw [houtcome] at hmade
        exact hmade.trans (grows_applyMode _)
      · next houtcome =>
        rw [houtcome] at hmade
        exact hmade
    · have hmade := @grows_makeDirectories env root fs path.dropLast.inits
      unfold extractFile
      split
      · next houtcome =>
        rw [houtcome] at hmade
        exact hmade.trans grows_writeEntry
      · next houtcome =>
        rw [houtcome] at hmade
        exact hmade

theorem grows_extractEntries (entries : List ArchiveEntry) :
    Grows fs (extractEntries env format root fs entries).1 := by
  induction entries generalizing fs with
  | nil => exact .refl
  | cons entry rest ih =>
    have hfirst := @grows_extractEntry env format root fs entry
    unfold extractEntries
    split
    · next made houtcome =>
      rw [houtcome] at hfirst
      exact hfirst.trans ih
    · next made error houtcome =>
      rw [houtcome] at hfirst
      exact hfirst

theorem extractArchive_makes_outDir (archive : Archive) :
    ((extractArchive env archive format root fs).1 root).isSome = true := by
  have hroot : (((fs.prune root).place root (.directory 0) :
      FileSystem) root).isSome = true := by simp
  unfold extractArchive
  split
  · exact hroot
  · exact grows_extractEntries _ root hroot

end growth

section files

variable {env : Environment} {root path : Path} {tree : FileSystem}
  {entry : ArchiveEntry}

theorem fileAt_place_directory {mode : ℕ} (hnone : tree path = none) :
    fileAt (tree.place path (.directory mode)) = fileAt tree := by
  funext other
  by_cases heq : other = path
  · simp [fileAt, FileTree.place, heq, hnone]
  · simp [fileAt, FileTree.place, heq]

theorem fileAt_place_file {mode : ℕ} {content : FileContent} :
    fileAt (tree.place path (.file mode content)) =
      fun other => if other = path then some content else fileAt tree other := by
  funext other
  by_cases heq : other = path <;> simp [fileAt, FileTree.place, heq]

theorem fileAt_applyMode (mode : ℕ) :
    fileAt (applyMode tree path mode) = fileAt tree := by
  unfold applyMode
  split
  · rfl
  · cases hnode : tree path with
    | none => rfl
    | some node =>
      funext other
      by_cases heq : other = path
      · cases node <;> simp [fileAt, FileTree.place, heq, hnode]
      · cases node <;> simp [fileAt, FileTree.place, heq]

theorem fileAt_placeDirectories (paths : List Path) :
    fileAt (placeDirectories tree paths) = fileAt tree := by
  induction paths generalizing tree with
  | nil => rfl
  | cons path rest ih =>
    unfold placeDirectories
    rw [ih]
    split
    · rfl
    · next hnone => exact fileAt_place_directory (by simpa using hnone)

theorem fileAt_write :
    fileAt (entry.write tree path) =
      fun other => if other = path then some (.bytes entry.bytes)
        else fileAt tree other := by
  unfold ArchiveEntry.write
  split <;> rw [fileAt_applyMode, fileAt_place_file]

theorem fileAt_placeEntries (entries : List ArchiveEntry)
    {files : Path → Option (List UInt8)}
    (hfiles : ∀ path, fileAt tree path = (files path).map .bytes) (path : Path) :
    fileAt (placeEntries env root tree entries) path =
      (entryFiles env root files entries path).map .bytes := by
  induction entries generalizing tree files with
  | nil => exact hfiles path
  | cons entry rest ih =>
    unfold placeEntries entryFiles
    apply ih
    intro other
    unfold ArchiveEntry.place
    dsimp only
    split
    · rw [fileAt_applyMode, fileAt_placeDirectories]
      exact hfiles other
    · rw [fileAt_write, fileAt_placeDirectories]
      dsimp only
      split
      · rfl
      · exact hfiles other

theorem fileAt_extracted (archive : Archive) (format : PackageFormat)
    (path : Path) :
    fileAt (placeEntries env (codePkgDir env archive.digest) emptyTree
        ((archive.entries format).getD [])) path =
      (archive.files env format path).map .bytes := by
  apply fileAt_placeEntries
  intro other
  by_cases heq : other = [] <;> simp [fileAt, emptyTree, heq]

end files

end PycloudParallel.CodeStore
