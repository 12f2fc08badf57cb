import PycloudParallel.TransportDataRefs

/-!
# Data references on their way

A reference is relocated as it passes a node, a gateway or the control plane.
No order of relocations raises or changes the object that is referred to, and a
new locator lets the payload of any reference read back.
-/

namespace PycloudParallel.Transport

open Texts (strip orElse Casing strip_strip)

variable {casing : Casing}

def withDataRefControlAddr (controlAddr : String) (dataRef : DataRef casing) :
    Option (DataRef casing) :=
  let controlAddr := strip controlAddr
  if controlAddr = "" ∨ dataRef.fields.controlAddr ≠ "" then some dataRef
  else DataRef.make casing { dataRef.fields with
    locatorKind := "node_control"
    locatorToken := controlAddr
    controlAddr := controlAddr }

def withDataRefLocator
    (locatorKind locatorToken nodeId nodeInstanceId controlAddr : String)
    (dataRef : DataRef casing) : Option (DataRef casing) :=
  let kind := casing.lower (strip locatorKind)
  let token := strip locatorToken
  if kind = "" ∨ token = "" then some dataRef
  else DataRef.make casing { dataRef.fields with
    locatorKind := kind
    locatorToken := token
    nodeId := strip (orElse nodeId dataRef.fields.nodeId)
    nodeInstanceId :=
      strip (orElse nodeInstanceId dataRef.fields.nodeInstanceId)
    controlAddr :=
      if kind = "controlplane" ∧ strip controlAddr = "" then ""
      else strip (orElse controlAddr dataRef.fields.controlAddr) }

def withDataRefPublicControlplaneLocator
    (locatorToken nodeId nodeInstanceId : String) (dataRef : DataRef casing) :
    Option (DataRef casing) :=
  let token := strip locatorToken
  if token = "" then some dataRef
  else DataRef.make casing { dataRef.fields with
    locatorKind := "controlplane"
    locatorToken := token
    nodeId := strip (orElse nodeId dataRef.fields.nodeId)
    nodeInstanceId :=
      strip (orElse nodeInstanceId dataRef.fields.nodeInstanceId)
    controlAddr := "" }

inductive Relocation
  | controlAddr (controlAddr : String)
  | locator (locatorKind locatorToken nodeId nodeInstanceId controlAddr : String)
  | publicControlplane (locatorToken nodeId nodeInstanceId : String)
deriving DecidableEq

def DataRef.relocate (dataRef : DataRef casing) :
    Relocation → Option (DataRef casing)
  | .controlAddr controlAddr => withDataRefControlAddr controlAddr dataRef
  | .locator locatorKind locatorToken nodeId nodeInstanceId controlAddr =>
    withDataRefLocator locatorKind locatorToken nodeId nodeInstanceId controlAddr
      dataRef
  | .publicControlplane locatorToken nodeId nodeInstanceId =>
    withDataRefPublicControlplaneLocator locatorToken nodeId nodeInstanceId
      dataRef

/-- The relocation gives every reference a new locator. -/
def Relocation.Relocates (casing : Casing) : Relocation → Prop
  | .controlAddr _ => False
  | .locator locatorKind locatorToken _ _ _ =>
    casing.lower (strip locatorKind) ≠ "" ∧ strip locatorToken ≠ ""
  | .publicControlplane locatorToken _ _ => strip locatorToken ≠ ""

/-- What a relocation leaves of a reference. -/
def DataRefFields.unplaced (fields : DataRefFields) : DataRefFields :=
  { fields with
    locatorKind := ""
    locatorToken := ""
    nodeId := ""
    nodeInstanceId := ""
    controlAddr := "" }

/-! ## One relocation -/

variable (lower : LowerLaws casing)

include lower

/-- `replace` of the fields of the location. -/
theorem make_relocated (dataRef : DataRef casing)
    (kind token nodeId nodeInstanceId addr : String) :
    ∃ later : DataRef casing,
      DataRef.make casing { dataRef.fields with
        locatorKind := kind
        locatorToken := token
        nodeId := nodeId
        nodeInstanceId := nodeInstanceId
        controlAddr := addr } = some later ∧
      later.fields.unplaced = dataRef.fields.unplaced ∧
      later.fields.locatorToken = strip (orElse token (strip addr)) ∧
      (kind = "controlplane" → addr = "" →
        later.fields.locatorKind = kind ∧ later.fields.controlAddr = addr) := by
  have hmade := (dataRef.normal lower).postInit_relocated lower kind token nodeId
    nodeInstanceId addr
  refine ⟨⟨_, _, hmade⟩, DataRef.make_eq_some_iff.mpr hmade,
    rfl, rfl, ?_⟩
  rintro rfl rfl
  have hplain : NormalText casing "controlplane" :=
    normalText_of_plain lower (by decide)
  simp [orElse, hplain.eq, show strip "" = "" from rfl]

theorem relocate_spec (dataRef : DataRef casing) (relocation : Relocation) :
    ∃ later, dataRef.relocate relocation = some later ∧
      later.fields.unplaced = dataRef.fields.unplaced ∧
      (later.HasToken ↔ dataRef.HasToken ∨ relocation.Relocates casing) := by
  have htoken : ∀ {later : DataRef casing} {token addr},
      later.fields.locatorToken = strip (orElse (strip token) (strip addr)) →
        strip token ≠ "" → later.HasToken := by
    intro later token addr hgiven hsome hnone
    rw [hgiven, Texts.orElse_of_ne hsome, strip_strip] at hnone
    exact absurd hnone hsome
  cases relocation with
  | controlAddr addr =>
    simp only [DataRef.relocate, withDataRefControlAddr, Relocation.Relocates,
      or_false]
    split
    · exact ⟨dataRef, rfl, rfl, Iff.rfl⟩
    · next hgiven =>
      rw [not_or, not_not] at hgiven
      obtain ⟨later, hmade, hobject, hlater, -⟩ := make_relocated lower dataRef
        "node_control" (strip addr) dataRef.fields.nodeId
        dataRef.fields.nodeInstanceId (strip addr)
      exact ⟨later, hmade, hobject, iff_of_true (htoken hlater hgiven.1)
        fun _ => hgiven.2⟩
  | locator kind token nodeId nodeInstanceId addr =>
    simp only [DataRef.relocate, withDataRefLocator, Relocation.Relocates]
    split
    · next hblank =>
      exact ⟨dataRef, rfl, rfl,
        (or_iff_left fun hboth => hblank.elim hboth.1 hboth.2).symm⟩
    · next hgiven =>
      rw [not_or] at hgiven
      obtain ⟨later, hmade, hobject, hlater, -⟩ := make_relocated lower dataRef
        (casing.lower (strip kind)) (strip token) _ _ _
      exact ⟨later, hmade, hobject,
        iff_of_true (htoken hlater hgiven.2) (.inr hgiven)⟩
  | publicControlplane token nodeId nodeInstanceId =>
    simp only [DataRef.relocate, withDataRefPublicControlplaneLocator,
      Relocation.Relocates]
    split
    · next hblank =>
      exact ⟨dataRef, rfl, rfl,
        (or_iff_left fun hsome => hsome hblank).symm⟩
    · next hgiven =>
      obtain ⟨later, hmade, hobject, hlater, -⟩ := make_relocated lower dataRef
        "controlplane" (strip token) _ _ _
      exact ⟨later, hmade, hobject,
        iff_of_true (htoken hlater hgiven) (.inr hgiven)⟩

theorem relocate_public (dataRef : DataRef casing) {token : String}
    (hsome : strip token ≠ "") (nodeId nodeInstanceId : String)
    {later : DataRef casing} (hlater : dataRef.relocate
      (.publicControlplane token nodeId nodeInstanceId) = some later) :
    later.fields.locatorKind = "controlplane" ∧ later.fields.controlAddr = "" ∧
      later.fields.locatorToken = strip token := by
  simp only [DataRef.relocate, withDataRefPublicControlplaneLocator,
    if_neg hsome] at hlater
  obtain ⟨made, hmade, -, htoken, hplace⟩ := make_relocated lower dataRef
    "controlplane" (strip token) _ _ ""
  rw [hmade, Option.some.injEq] at hlater
  rw [← hlater, htoken, Texts.orElse_of_ne hsome, strip_strip]
  exact ⟨(hplace rfl rfl).1, (hplace rfl rfl).2, rfl⟩

/-! ## Any order of relocations -/

variable {φ α : Type} {codecs : Codecs φ α (DataRef casing)}
  {builtins : Builtins φ α (DataRef casing)}

/-- Relocations never raise, and refer to one object.  A payload reads back
exactly if it did so before or some relocation gave a new locator. -/
theorem relocations_keep_object (builtin : BuiltinLaws builtins)
    (dataRef : DataRef casing) (relocations : List Relocation) :
    let full := codecs.withDataRefs builtins
    ∃ later, relocations.foldlM DataRef.relocate dataRef = some later ∧
      later.fields.unplaced = dataRef.fields.unplaced ∧
      (full.refFrom (full.refEntries later) = some later ↔
        full.refFrom (full.refEntries dataRef) = some dataRef ∨
          ∃ relocation ∈ relocations, relocation.Relocates casing) ∧
      ∀ token nodeId nodeInstanceId, strip token ≠ "" →
        relocations.getLast? =
          some (.publicControlplane token nodeId nodeInstanceId) →
        later.fields.locatorKind = "controlplane" ∧
          later.fields.controlAddr = "" ∧
          later.fields.locatorToken = strip token := by
  intro full
  have hreads : ∀ found : DataRef casing,
      full.refFrom (full.refEntries found) = some found ↔ found.HasToken :=
    refFrom_payload_iff lower builtin
  simp only [hreads]
  induction relocations using List.reverseRecOn with
  | nil =>
    exact ⟨dataRef, rfl, rfl, by simp, by simp⟩
  | append_singleton front last ih =>
    obtain ⟨mid, hmid, hsame, htoken, -⟩ := ih
    obtain ⟨later, hlater, hobject, hlast⟩ := relocate_spec lower mid last
    refine ⟨later, ?_, hobject.trans hsame, ?_, ?_⟩
    · rw [List.foldlM_append, hmid]
      simp [hlater]
    · rw [hlast, htoken, or_assoc]
      simp [or_and_right, exists_or]
    · intro token nodeId nodeInstanceId hsome hpublic
      rw [List.getLast?_concat, Option.some.injEq] at hpublic
      rw [hpublic] at hlater
      exact relocate_public lower mid hsome nodeId nodeInstanceId hlater

def blankToken : DataRefFields :=
  ⟨"r", "", "", "", 0, "", "", " ", false, "", "", "10.0.0.1:50061"⟩

omit lower in
theorem relocations_keep_object_blankToken :
    ∃ dataRef later : SampleRef,
      [.controlAddr "10.0.0.2:50061", .publicControlplane "t" "" ""].foldlM
        DataRef.relocate dataRef = some later ∧
      later.fields.unplaced = dataRef.fields.unplaced ∧
      (keyedCodecs.withDataRefs keyedBuiltins).refFrom
        ((keyedCodecs.withDataRefs keyedBuiltins).refEntries later) =
          some later := by
  obtain ⟨fields, hmade⟩ : ∃ fields,
      blankToken.postInit asciiCasing = some fields := ⟨_, rfl⟩
  obtain ⟨later, hlater, hsame, hreads, -⟩ :=
    @relocations_keep_object _ lowerLaws_ascii _ _ keyedCodecs keyedBuiltins
      builtinLaws_keyed ⟨fields, _, hmade⟩
      [.controlAddr "10.0.0.2:50061", .publicControlplane "t" "" ""]
  exact ⟨_, later, hlater, hsame, hreads.mpr
    (.inr ⟨.publicControlplane "t" "" "", by simp,
      show strip "t" ≠ "" by decide⟩)⟩

end PycloudParallel.Transport
