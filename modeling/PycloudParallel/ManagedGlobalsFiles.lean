import PycloudParallel.FoundationOverlay
import PycloudParallel.ManagedGlobalsModel

/-!
# What a digest of managed globals names

A manifest that was written with its values reads back as the snapshot it was
made of, and keeps doing so as further files are written.
-/

namespace PycloudParallel.ManagedGlobals

def SerializedValue.Storable (json : JsonText) : SerializedValue → Prop
  | .json text => json.stable text = some text
  | .binary codec _ => isPickleMode codec = true

def Storable (json : JsonText) (allowedNames : List Name) (values : Snapshot) :
    Prop :=
  ∀ name value, values name = some value →
    name ∈ allowedNames ∧ value.Storable json

theorem storable_empty (json : JsonText) (allowedNames : List Name) :
    Storable json allowedNames fun _ => none := by
  intro name value hvalue
  cases hvalue

variable {allowedNames : List Name} {json : JsonText} {files : ScopeFiles}
  {values : Snapshot}

theorem Storable.overlay {base change : Snapshot}
    (hbase : Storable json allowedNames base)
    (hchange : Storable json allowedNames change) :
    Storable json allowedNames (overlay base change) := by
  intro name value hvalue
  cases hname : change name with
  | none =>
    rw [overlay_of_none hname] at hvalue
    exact hbase name value hvalue
  | some other =>
    rw [overlay_of_some hname] at hvalue
    exact hchange name value (hname.trans hvalue)

theorem Storable.overlayAll {change : UpdateId → Snapshot} {base : Snapshot}
    {ids : List UpdateId} (hbase : Storable json allowedNames base)
    (hchange : ∀ id ∈ ids, Storable json allowedNames (change id)) :
    Storable json allowedNames (overlayAll change base ids) := by
  induction ids generalizing base with
  | nil => exact hbase
  | cons id rest ih =>
    apply ih (hbase.overlay (hchange id (by simp)))
    intro other hother
    exact hchange other (by simp [hother])

structure Stored (files : ScopeFiles) (manifest : Manifest) : Prop where
  manifest_mem : manifest ∈ files.manifests
  values_mem : ∀ name entry, (name, entry) ∈ manifest.values →
    entry.file ∈ files.values

def Names (files : ScopeFiles) (allowedNames : List Name)
    (digest : GlobalsDigest) (values : Snapshot) : Prop :=
  match digest with
  | none => values = fun _ => none
  | some manifest =>
    manifest = manifestOf allowedNames values ∧ Stored files manifest

structure ScopeFiles.Within (files larger : ScopeFiles) : Prop where
  manifests : ∀ manifest ∈ files.manifests, manifest ∈ larger.manifests
  values : ∀ file ∈ files.values, file ∈ larger.values

theorem ScopeFiles.Within.refl (files : ScopeFiles) : files.Within files :=
  ⟨fun _ hmem => hmem, fun _ hmem => hmem⟩

theorem ScopeFiles.within_writeSnapshot (files : ScopeFiles)
    (manifest : Manifest) : files.Within (files.writeSnapshot manifest) := by
  constructor
  · intro other hother
    exact List.mem_insert_of_mem hother
  · intro file hfile
    exact List.mem_union_iff.mpr (.inr hfile)

theorem Names.mono {larger : ScopeFiles} {digest : GlobalsDigest}
    (hnames : Names files allowedNames digest values)
    (hwithin : files.Within larger) :
    Names larger allowedNames digest values := by
  cases digest with
  | none => exact hnames
  | some manifest =>
    obtain ⟨heq, hstored⟩ := hnames
    constructor
    · exact heq
    · constructor
      · exact hwithin.manifests _ hstored.manifest_mem
      · intro name entry hmem
        exact hwithin.values _ (hstored.values_mem name entry hmem)

theorem names_writeSnapshot (files : ScopeFiles) (allowedNames : List Name)
    (values : Snapshot) :
    Names (files.writeSnapshot (manifestOf allowedNames values)) allowedNames
      (some (manifestOf allowedNames values)) values := by
  refine ⟨rfl, ?_⟩
  constructor
  · exact List.mem_insert_self
  · intro name entry hmem
    apply List.mem_union_iff.mpr
    exact .inl (List.mem_map.mpr ⟨(name, entry), hmem, rfl⟩)

theorem lookup_manifestOf (allowedNames : List Name) (values : Snapshot)
    (name : Name) :
    (manifestOf allowedNames values).values.lookup name =
      if name ∈ allowedNames then (values name).map SerializedValue.entry
      else none := by
  unfold manifestOf
  induction allowedNames with
  | nil => rfl
  | cons first rest ih =>
    by_cases heq : name = first
    · subst heq
      cases hvalue : values name with
      | none => simpa [hvalue] using ih
      | some value => simp [hvalue]
    · have hmem : name ∈ first :: rest ↔ name ∈ rest := by simp [heq]
      cases hvalue : values first with
      | none =>
        simp only [List.filterMap_cons, hvalue, Option.map_none, hmem]
        exact ih
      | some value =>
        have hne : (name == first) = false := by simpa using heq
        simp only [List.filterMap_cons, hvalue, Option.map_some,
          List.lookup_cons, hne, hmem]
        exact ih

theorem mem_manifestOf {name : Name} {value : SerializedValue}
    (hname : name ∈ allowedNames) (hvalue : values name = some value) :
    (name, value.entry) ∈ (manifestOf allowedNames values).values := by
  unfold manifestOf
  apply List.mem_filterMap.mpr
  exact ⟨name, hname, by simp [hvalue]⟩

theorem SerializedValue.load_entry {value : SerializedValue}
    (hstorable : value.Storable json) (hfile : value.entry.file ∈ files.values)
    : value.entry.load json files = some (some value) := by
  unfold ManifestEntry.load
  rw [if_neg (not_not_intro hfile)]
  cases value with
  | json text =>
    have hne : text ≠ "" := by
      intro hempty
      simp only [Storable, hempty, json.stable_empty] at hstorable
      cases hstorable
    have hcodec : isPickleMode "json" = false := by decide
    simp only [Storable] at hstorable
    simp [entry, hcodec, hne, hstorable]
  | binary codec payload =>
    simp only [Storable] at hstorable
    simp [entry, hstorable]

theorem Names.load {digest : GlobalsDigest}
    (hnames : Names files allowedNames digest values)
    (hstorable : Storable json allowedNames values) :
    files.loadSnapshot json allowedNames digest = some values := by
  cases digest with
  | none => rw [show values = fun _ => none from hnames]; rfl
  | some manifest =>
    obtain ⟨rfl, hstored⟩ := hnames
    have hread : ∀ name ∈ allowedNames,
        files.read json (manifestOf allowedNames values) name =
          some (values name) := by
      intro name hname
      unfold ScopeFiles.read
      rw [lookup_manifestOf, if_pos hname]
      cases hvalue : values name with
      | none => rfl
      | some value =>
        apply SerializedValue.load_entry (hstorable name value hvalue).2
        exact hstored.values_mem _ _ (mem_manifestOf hname hvalue)
    simp only [ScopeFiles.loadSnapshot]
    rw [if_neg (not_not_intro hstored.manifest_mem), if_pos]
    · congr 1
      funext name
      by_cases hname : name ∈ allowedNames
      · rw [if_pos hname, hread name hname]
        rfl
      · rw [if_neg hname]
        cases hvalue : values name with
        | none => rfl
        | some value => exact absurd (hstorable name value hvalue).1 hname
    · rw [List.all_eq_true]
      intro name hname
      rw [hread name hname]
      rfl

end PycloudParallel.ManagedGlobals
