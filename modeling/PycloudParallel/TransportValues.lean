import Mathlib.Algebra.Order.Ring.Nat
import Mathlib.Data.Int.Notation
import Mathlib.Data.List.Basic

/-!
# The values that are transported

Python values as far as the encoders tell them apart: scalars, bytes, data
references, other objects, and lists, tuples and dicts of values.  Keys are
strings, and a dict carries its entries in the order of their insertion.

Every encoder and decoder walks a value from the top: at a node it stops with a
result, or it goes on with the parts.  `rewrite` is that walk.
-/

namespace PycloudParallel.Transport

inductive PyValue (φ α ρ : Type)
  | null
  | bool (value : Bool)
  | int (value : ℤ)
  | float (value : φ)
  | str (value : String)
  | bytes (content : List UInt8)
  | ref (value : ρ)
  | object (value : α)
  | list (items : List (PyValue φ α ρ))
  | tuple (items : List (PyValue φ α ρ))
  | dict (entries : List (String × PyValue φ α ρ))

variable {φ α ρ : Type}

abbrev Entries (φ α ρ : Type) := List (String × PyValue φ α ρ)

namespace PyValue

def isAtom : PyValue φ α ρ → Bool
  | list _ | tuple _ | dict _ => false
  | _ => true

@[elab_as_elim]
theorem induction {motive : PyValue φ α ρ → Prop}
    (atom : ∀ value : PyValue φ α ρ, value.isAtom = true → motive value)
    (list : ∀ items, (∀ item ∈ items, motive item) → motive (.list items))
    (tuple : ∀ items, (∀ item ∈ items, motive item) → motive (.tuple items))
    (dict : ∀ entries : Entries φ α ρ, (∀ entry ∈ entries, motive entry.2) →
      motive (.dict entries)) (value : PyValue φ α ρ) : motive value := by
  refine @PyValue.rec φ α ρ motive
    (fun items => ∀ item ∈ items, motive item)
    (fun entries => ∀ entry ∈ entries, motive entry.2)
    (fun entry => motive entry.2)
    (atom _ rfl) (fun _ => atom _ rfl) (fun _ => atom _ rfl)
    (fun _ => atom _ rfl) (fun _ => atom _ rfl) (fun _ => atom _ rfl)
    (fun _ => atom _ rfl) (fun _ => atom _ rfl) list tuple dict
    ?_ ?_ ?_ ?_ ?_ value
  · exact fun item hmem => absurd hmem List.not_mem_nil
  · exact fun head tail hhead htail => List.forall_mem_cons.mpr ⟨hhead, htail⟩
  · exact fun entry hmem => absurd hmem List.not_mem_nil
  · exact fun head tail hhead htail => List.forall_mem_cons.mpr ⟨hhead, htail⟩
  · exact fun key value hvalue => hvalue

/-! ## Walks -/

section Walks

/-- What a walk does at a node: nothing, or it stops with a result or with an
exception. -/
abbrev Stop (φ α ρ : Type) :=
  ℕ → PyValue φ α ρ → Option (Option (PyValue φ α ρ))

mutual

def rewrite (stop : Stop φ α ρ) (depth : ℕ) :
    PyValue φ α ρ → Option (PyValue φ α ρ)
  | list items =>
    (stop depth (list items)).getD
      ((rewriteItems stop (depth + 1) items).map list)
  | tuple items =>
    (stop depth (tuple items)).getD
      ((rewriteItems stop (depth + 1) items).map list)
  | dict entries =>
    (stop depth (dict entries)).getD
      ((rewriteEntries stop (depth + 1) entries).map dict)
  | atom => (stop depth atom).getD (some atom)

def rewriteItems (stop : Stop φ α ρ) (depth : ℕ) :
    List (PyValue φ α ρ) → Option (List (PyValue φ α ρ))
  | [] => some []
  | item :: rest =>
    (rewrite stop depth item).bind fun result =>
      (rewriteItems stop depth rest).map (result :: ·)

def rewriteEntries (stop : Stop φ α ρ) (depth : ℕ) :
    Entries φ α ρ → Option (Entries φ α ρ)
  | [] => some []
  | (key, value) :: rest =>
    (rewrite stop depth value).bind fun result =>
      (rewriteEntries stop depth rest).map ((key, result) :: ·)

end

mutual

def mapAtoms (change : PyValue φ α ρ → PyValue φ α ρ) :
    PyValue φ α ρ → PyValue φ α ρ
  | list items => list (mapItems change items)
  | tuple items => list (mapItems change items)
  | dict entries => dict (mapEntries change entries)
  | atom => change atom

def mapItems (change : PyValue φ α ρ → PyValue φ α ρ) :
    List (PyValue φ α ρ) → List (PyValue φ α ρ)
  | [] => []
  | item :: rest => mapAtoms change item :: mapItems change rest

def mapEntries (change : PyValue φ α ρ → PyValue φ α ρ) :
    Entries φ α ρ → Entries φ α ρ
  | [] => []
  | (key, value) :: rest =>
    (key, mapAtoms change value) :: mapEntries change rest

end

mutual

def all (test : PyValue φ α ρ → Bool) : PyValue φ α ρ → Bool
  | list items => test (list items) && allItems test items
  | tuple items => test (tuple items) && allItems test items
  | dict entries => test (dict entries) && allEntries test entries
  | atom => test atom

def allItems (test : PyValue φ α ρ → Bool) : List (PyValue φ α ρ) → Bool
  | [] => true
  | item :: rest => all test item && allItems test rest

def allEntries (test : PyValue φ α ρ → Bool) : Entries φ α ρ → Bool
  | [] => true
  | (_, value) :: rest => all test value && allEntries test rest

end

mutual

def nesting : PyValue φ α ρ → ℕ
  | list items => nestingItems items
  | dict entries => nestingEntries entries
  | _ => 0

def nestingItems : List (PyValue φ α ρ) → ℕ
  | [] => 0
  | item :: rest => max (nesting item + 1) (nestingItems rest)

def nestingEntries : Entries φ α ρ → ℕ
  | [] => 0
  | (_, value) :: rest => max (nesting value + 1) (nestingEntries rest)

end

def asLists : PyValue φ α ρ → PyValue φ α ρ :=
  mapAtoms id

variable {value : PyValue φ α ρ}

theorem rewrite_atom (stop : Stop φ α ρ) (depth : ℕ)
    (hatom : value.isAtom = true) :
    rewrite stop depth value = (stop depth value).getD (some value) := by
  cases value with
  | list items | tuple items | dict entries => cases hatom
  | _ => rfl

theorem mapAtoms_atom (change : PyValue φ α ρ → PyValue φ α ρ)
    (hatom : value.isAtom = true) : mapAtoms change value = change value := by
  cases value with
  | list items | tuple items | dict entries => cases hatom
  | _ => rfl

theorem all_atom (test : PyValue φ α ρ → Bool) (hatom : value.isAtom = true) :
    all test value = test value := by
  cases value with
  | list items | tuple items | dict entries => cases hatom
  | _ => rfl

theorem nesting_atom (hatom : value.isAtom = true) : nesting value = 0 := by
  cases value with
  | list items | tuple items | dict entries => cases hatom
  | _ => rfl

theorem test_of_all {test : PyValue φ α ρ → Bool} (hall : value.all test = true) :
    test value = true := by
  cases value with
  | list items | tuple items | dict entries => exact (Bool.and_eq_true _ _ ▸ hall).1
  | _ => exact hall

theorem allItems_iff {test : PyValue φ α ρ → Bool}
    {items : List (PyValue φ α ρ)} :
    allItems test items = true ↔ ∀ item ∈ items, item.all test = true := by
  induction items with
  | nil => simp [allItems]
  | cons item rest ih =>
    rw [allItems, Bool.and_eq_true, List.forall_mem_cons, ih]

theorem allEntries_iff {test : PyValue φ α ρ → Bool} {entries : Entries φ α ρ} :
    allEntries test entries = true ↔
      ∀ entry ∈ entries, entry.2.all test = true := by
  induction entries with
  | nil => simp [allEntries]
  | cons entry rest ih =>
    rw [allEntries, Bool.and_eq_true, List.forall_mem_cons, ih]

theorem all_mono {test weaker : PyValue φ α ρ → Bool}
    (hweaker : ∀ value, test value = true → weaker value = true)
    (value : PyValue φ α ρ) (hall : value.all test = true) :
    value.all weaker = true := by
  induction value using PyValue.induction with
  | atom value hatom =>
    rw [all_atom _ hatom] at hall ⊢
    exact hweaker value hall
  | list items ih | tuple items ih =>
    rw [all, Bool.and_eq_true, allItems_iff] at hall ⊢
    exact ⟨hweaker _ hall.1, fun item hitem =>
      ih item hitem (hall.2 item hitem)⟩
  | dict entries ih =>
    rw [all, Bool.and_eq_true, allEntries_iff] at hall ⊢
    exact ⟨hweaker _ hall.1, fun entry hentry =>
      ih entry hentry (hall.2 entry hentry)⟩

theorem asLists_atom {atom : PyValue φ α ρ} (hatom : atom.isAtom = true)
    (hsame : value.asLists = atom) : value = atom := by
  cases value with
  | list items | tuple items | dict entries => rw [← hsame] at hatom; cases hatom
  | _ => exact hsame

theorem keys_mapEntries (change : PyValue φ α ρ → PyValue φ α ρ)
    (entries : Entries φ α ρ) :
    (mapEntries change entries).map Prod.fst = entries.map Prod.fst := by
  induction entries with
  | nil => rfl
  | cons entry rest ih =>
    rw [mapEntries, List.map_cons, List.map_cons, ih]

theorem keys_rewriteEntries {stop : Stop φ α ρ} {depth : ℕ}
    {entries out : Entries φ α ρ}
    (hrewrite : rewriteEntries stop depth entries = some out) :
    out.map Prod.fst = entries.map Prod.fst := by
  induction entries generalizing out with
  | nil =>
    rw [rewriteEntries, Option.some.injEq] at hrewrite
    rw [← hrewrite]
  | cons entry rest ih =>
    rw [rewriteEntries, Option.bind_eq_some_iff] at hrewrite
    obtain ⟨value, hvalue, htail⟩ := hrewrite
    rw [Option.map_eq_some_iff] at htail
    obtain ⟨tail, hrest, hout⟩ := htail
    rw [← hout, List.map_cons, List.map_cons, ih hrest]

/-- The walk stops at no list, tuple or dict that passes the test, unless with
an exception. -/
def Passes (stop : Stop φ α ρ) (test : PyValue φ α ρ → Bool) : Prop :=
  ∀ depth value, value.isAtom = false → test value = true →
    stop depth value = none ∨ stop depth value = some none

theorem Passes.eq_some {stop : Stop φ α ρ} {test : PyValue φ α ρ → Bool}
    (hpasses : Passes stop test) {depth : ℕ} {result : PyValue φ α ρ}
    (hatom : value.isAtom = false) (htest : test value = true) {β : Type}
    {parts : Option β} {build : β → PyValue φ α ρ}
    (hrewrite : (stop depth value).getD (parts.map build) = some result) :
    stop depth value = none ∧ ∃ out, parts = some out ∧ result = build out := by
  cases hpasses depth value hatom htest with
  | inl hnone =>
    rw [hnone, Option.getD_none, Option.map_eq_some_iff] at hrewrite
    obtain ⟨out, hout, hresult⟩ := hrewrite
    exact ⟨hnone, out, hout, hresult.symm⟩
  | inr hraised =>
    rw [hraised, Option.getD_some] at hrewrite
    cases hrewrite

section Rule

variable {stop : Stop φ α ρ} {depth : ℕ}

theorem forall₂_rewriteItems (related : PyValue φ α ρ → PyValue φ α ρ → Prop)
    {items out : List (PyValue φ α ρ)}
    (hitems : ∀ item ∈ items, ∀ result,
      rewrite stop depth item = some result → related item result)
    (hrewrite : rewriteItems stop depth items = some out) :
    List.Forall₂ related items out := by
  induction items generalizing out with
  | nil =>
    cases Option.some.inj hrewrite
    exact .nil
  | cons item rest ih =>
    rw [List.forall_mem_cons] at hitems
    rw [rewriteItems, Option.bind_eq_some_iff] at hrewrite
    obtain ⟨value, hvalue, htail⟩ := hrewrite
    obtain ⟨tail, hrest, rfl⟩ := Option.map_eq_some_iff.mp htail
    exact .cons (hitems.1 value hvalue) (ih hitems.2 hrest)

theorem forall₂_rewriteEntries (related : PyValue φ α ρ → PyValue φ α ρ → Prop)
    {entries out : Entries φ α ρ}
    (hentries : ∀ entry ∈ entries, ∀ result,
      rewrite stop depth entry.2 = some result → related entry.2 result)
    (hrewrite : rewriteEntries stop depth entries = some out) :
    List.Forall₂ (fun entry result => result.1 = entry.1 ∧
      related entry.2 result.2) entries out := by
  induction entries generalizing out with
  | nil =>
    cases Option.some.inj hrewrite
    exact .nil
  | cons entry rest ih =>
    rw [List.forall_mem_cons] at hentries
    rw [rewriteEntries, Option.bind_eq_some_iff] at hrewrite
    obtain ⟨value, hvalue, htail⟩ := hrewrite
    obtain ⟨tail, hrest, rfl⟩ := Option.map_eq_some_iff.mp htail
    exact .cons ⟨rfl, hentries.1 value hvalue⟩ (ih hentries.2 hrest)

/-- Induction over a walk that ends with a result; it stops at scalars only. -/
theorem rewrite_induction {test : PyValue φ α ρ → Bool} (hpasses : Passes stop test)
    {motive : ℕ → PyValue φ α ρ → PyValue φ α ρ → Prop}
    (atom : ∀ depth value result, value.isAtom = true → test value = true →
      rewrite stop depth value = some result → motive depth value result)
    (sequence : ∀ depth value items out, value = list items ∨ value = tuple items →
      test value = true → stop depth value = none →
      List.Forall₂ (motive (depth + 1)) items out → motive depth value (list out))
    (dict : ∀ depth entries out, test (dict entries) = true →
      stop depth (.dict entries) = none →
      out.map Prod.fst = entries.map Prod.fst →
      List.Forall₂ (fun entry result => result.1 = entry.1 ∧
        motive (depth + 1) entry.2 result.2) entries out →
      motive depth (.dict entries) (.dict out))
    (value : PyValue φ α ρ) (depth : ℕ) (result : PyValue φ α ρ)
    (hall : value.all test = true) (hrewrite : rewrite stop depth value = some result) :
    motive depth value result := by
  induction value using PyValue.induction generalizing depth result with
  | atom value hatom =>
    rw [all_atom test hatom] at hall
    exact atom depth value result hatom hall hrewrite
  | list items ih =>
    rw [all, Bool.and_eq_true, allItems_iff] at hall
    rw [rewrite] at hrewrite
    obtain ⟨hnone, out, hout, rfl⟩ := hpasses.eq_some rfl hall.1 hrewrite
    exact sequence depth _ items out (.inl rfl) hall.1 hnone (forall₂_rewriteItems
      _ (fun item hitem result => ih item hitem _ result (hall.2 item hitem)) hout)
  | tuple items ih =>
    rw [all, Bool.and_eq_true, allItems_iff] at hall
    rw [rewrite] at hrewrite
    obtain ⟨hnone, out, hout, rfl⟩ := hpasses.eq_some rfl hall.1 hrewrite
    exact sequence depth _ items out (.inr rfl) hall.1 hnone (forall₂_rewriteItems
      _ (fun item hitem result => ih item hitem _ result (hall.2 item hitem)) hout)
  | dict entries ih =>
    rw [all, Bool.and_eq_true, allEntries_iff] at hall
    rw [rewrite] at hrewrite
    obtain ⟨hnone, out, hout, rfl⟩ := hpasses.eq_some rfl hall.1 hrewrite
    exact dict depth entries out hall.1 hnone (keys_rewriteEntries hout)
      (forall₂_rewriteEntries
        _ (fun entry hentry result => ih entry hentry _ result (hall.2 entry hentry)) hout)

end Rule

theorem rewrite_kept {stop : Stop φ α ρ} {test kept : PyValue φ α ρ → Bool}
    (hpasses : Passes stop test)
    (hatoms : ∀ depth value result, value.isAtom = true →
      test value = true → rewrite stop depth value = some result →
      result.all kept = true) (hlists : ∀ items, kept (list items) = true)
    (hdicts : ∀ entries out, out.map Prod.fst = entries.map Prod.fst →
      test (dict entries) = true → kept (dict out) = true)
    (value : PyValue φ α ρ) (depth : ℕ) (result : PyValue φ α ρ)
    (hall : value.all test = true)
    (hrewrite : rewrite stop depth value = some result) :
    result.all kept = true := by
  refine rewrite_induction (motive := fun _ _ result => result.all kept = true)
    hpasses hatoms ?_ ?_ value depth result hall hrewrite
  · intro depth value items out hvalue _ _ hitems
    have hout : allItems kept out = true := by
      clear hvalue
      induction hitems with
      | nil => rfl
      | cons hhead _ ih => simp [allItems, hhead, ih]
    simp [all, hlists, hout]
  · intro depth entries out htest hnone hkeys hentries
    have hout : allEntries kept out = true := by
      clear htest hnone hkeys
      induction hentries with
      | nil => rfl
      | cons hhead _ ih => simp [allEntries, hhead.2, ih]
    simp [all, hdicts entries out hkeys htest, hout]

/-- The walk `back` undoes the walk `forth` on the values that pass the test,
with `change` done to the scalars in between and `effect` left of it. -/
structure Inverts (forth back : Stop φ α ρ)
    (change effect : PyValue φ α ρ → PyValue φ α ρ)
    (test : PyValue φ α ρ → Bool) : Prop where
  passes : Passes forth test
  atom : ∀ depth value result, value.isAtom = true → test value = true →
    rewrite forth depth value = some result →
    rewrite back depth (mapAtoms change result) = some (effect value)
  items : ∀ depth value out, value.isAtom = false →
    forth depth value = none → back depth (list out) = none
  entries : ∀ depth entries out,
    out.map Prod.fst = entries.map Prod.fst → test (dict entries) = true →
    forth depth (dict entries) = none → back depth (dict out) = none

section Inverts

variable {forth back : Stop φ α ρ}
variable {change effect : PyValue φ α ρ → PyValue φ α ρ}
variable {test : PyValue φ α ρ → Bool}

theorem Inverts.rewrite_rewrite
    (hinverts : Inverts forth back change effect test)
    (value : PyValue φ α ρ) (depth : ℕ) (result : PyValue φ α ρ)
    (hall : value.all test = true)
    (hrewrite : rewrite forth depth value = some result) :
    rewrite back depth (mapAtoms change result) = some (mapAtoms effect value) := by
  refine rewrite_induction (motive := fun depth value result =>
    rewrite back depth (mapAtoms change result) = some (mapAtoms effect value))
    hinverts.passes ?_ ?_ ?_ value depth result hall hrewrite
  · intro depth value result hatom htest hresult
    rw [mapAtoms_atom effect hatom]
    exact hinverts.atom depth value result hatom htest hresult
  · intro depth value items out hvalue _ hnone hitems
    have hout : rewriteItems back (depth + 1) (mapItems change out) =
        some (mapItems effect items) := by
      clear hvalue
      induction hitems with
      | nil => rfl
      | cons hhead _ ih => simp [mapItems, rewriteItems, hhead, ih]
    have hback : back depth (list (mapItems change out)) = none := by
      obtain rfl | rfl := hvalue <;> exact hinverts.items depth _ _ rfl hnone
    obtain rfl | rfl := hvalue <;> simp [mapAtoms, rewrite, hback, hout]
  · intro depth entries out htest hnone hkeys hentries
    have hout : rewriteEntries back (depth + 1) (mapEntries change out) =
        some (mapEntries effect entries) := by
      clear htest hnone hkeys
      induction hentries with
      | nil => rfl
      | cons hhead _ ih => simp [mapEntries, rewriteEntries, hhead.1, hhead.2, ih]
    have hback : back depth (dict (mapEntries change out)) = none :=
      hinverts.entries depth entries _ ((keys_mapEntries change out).trans hkeys)
        htest hnone
    simp [mapAtoms, rewrite, hback, hout]

end Inverts

section Unchanged

variable {stop : Stop φ α ρ} {test : PyValue φ α ρ → Bool}

theorem mapItems_mapItems {after before : PyValue φ α ρ → PyValue φ α ρ}
    {items : List (PyValue φ α ρ)}
    (hitems : ∀ item ∈ items, mapAtoms after (mapAtoms before item) =
      mapAtoms (fun atom => mapAtoms after (before atom)) item) :
    mapItems after (mapItems before items) =
      mapItems (fun atom => mapAtoms after (before atom)) items := by
  induction items with
  | nil => rfl
  | cons item rest ih =>
    rw [List.forall_mem_cons] at hitems
    rw [mapItems, mapItems, mapItems, hitems.1, ih hitems.2]

theorem mapEntries_mapEntries
    {after before : PyValue φ α ρ → PyValue φ α ρ} {entries : Entries φ α ρ}
    (hentries : ∀ entry ∈ entries, mapAtoms after (mapAtoms before entry.2) =
      mapAtoms (fun atom => mapAtoms after (before atom)) entry.2) :
    mapEntries after (mapEntries before entries) =
      mapEntries (fun atom => mapAtoms after (before atom)) entries := by
  induction entries with
  | nil => rfl
  | cons entry rest ih =>
    rw [List.forall_mem_cons] at hentries
    rw [mapEntries, mapEntries, mapEntries, hentries.1, ih hentries.2]

theorem mapAtoms_eq_iff {first second : PyValue φ α ρ → PyValue φ α ρ}
    (hatoms : ∀ atom : PyValue φ α ρ, atom.isAtom = true →
      (first atom = second atom ↔ test atom = true))
    (hparts : ∀ value : PyValue φ α ρ, value.isAtom = false →
      test value = true) (value : PyValue φ α ρ) :
    mapAtoms first value = mapAtoms second value ↔ value.all test = true := by
  have hitems : ∀ items : List (PyValue φ α ρ),
      (∀ item ∈ items, mapAtoms first item = mapAtoms second item ↔
        item.all test = true) →
      (mapItems first items = mapItems second items ↔
        allItems test items = true) := by
    intro items ih
    induction items with
    | nil => simp [mapItems, allItems]
    | cons item rest hrest =>
      rw [List.forall_mem_cons] at ih
      rw [mapItems, mapItems, allItems, List.cons.injEq, Bool.and_eq_true,
        ih.1, hrest ih.2]
  induction value using PyValue.induction with
  | atom value hatom =>
    rw [mapAtoms_atom _ hatom, mapAtoms_atom _ hatom, all_atom test hatom]
    exact hatoms value hatom
  | list items ih | tuple items ih =>
    rw [mapAtoms, mapAtoms, all, hparts _ rfl, Bool.true_and, list.injEq]
    exact hitems items ih
  | dict entries ih =>
    have hentries : ∀ rest : Entries φ α ρ,
        (∀ entry ∈ rest, mapAtoms first entry.2 = mapAtoms second entry.2 ↔
          entry.2.all test = true) →
        (mapEntries first rest = mapEntries second rest ↔
          allEntries test rest = true) := by
      intro rest hrest
      induction rest with
      | nil => simp [mapEntries, allEntries]
      | cons entry tail htail =>
        rw [List.forall_mem_cons] at hrest
        rw [mapEntries, mapEntries, allEntries, List.cons.injEq,
          Bool.and_eq_true, Prod.mk.injEq, hrest.1, htail hrest.2]
        simp only [true_and]
    rw [mapAtoms, mapAtoms, all, hparts _ rfl, Bool.true_and, dict.injEq]
    exact hentries entries ih

theorem mapAtoms_mapAtoms (after before : PyValue φ α ρ → PyValue φ α ρ)
    (value : PyValue φ α ρ) :
    mapAtoms after (mapAtoms before value) =
      mapAtoms (fun atom => mapAtoms after (before atom)) value := by
  induction value using PyValue.induction with
  | atom value hatom => rw [mapAtoms_atom _ hatom, mapAtoms_atom _ hatom]
  | list items ih | tuple items ih =>
    rw [mapAtoms, mapAtoms, mapAtoms, mapItems_mapItems ih]
  | dict entries ih =>
    rw [mapAtoms, mapAtoms, mapAtoms, mapEntries_mapEntries ih]

theorem mapAtoms_congr {first second : PyValue φ α ρ → PyValue φ α ρ}
    (hatoms : ∀ atom : PyValue φ α ρ, atom.isAtom = true →
      first atom = second atom) (value : PyValue φ α ρ) :
    mapAtoms first value = mapAtoms second value := by
  have hitems : ∀ items : List (PyValue φ α ρ),
      (∀ item ∈ items, mapAtoms first item = mapAtoms second item) →
        mapItems first items = mapItems second items := by
    intro items ih
    induction items with
    | nil => rfl
    | cons item rest hrest =>
      rw [List.forall_mem_cons] at ih
      rw [mapItems, mapItems, ih.1, hrest ih.2]
  induction value using PyValue.induction with
  | atom value hatom =>
    rw [mapAtoms_atom _ hatom, mapAtoms_atom _ hatom, hatoms value hatom]
  | list items ih | tuple items ih => rw [mapAtoms, mapAtoms, hitems items ih]
  | dict entries ih =>
    have hentries : mapEntries first entries = mapEntries second entries := by
      induction entries with
      | nil => rfl
      | cons entry rest hrest =>
        rw [List.forall_mem_cons] at ih
        rw [mapEntries, mapEntries, ih.1, hrest ih.2]
    rw [mapAtoms, mapAtoms, hentries]

theorem asLists_mapAtoms {change : PyValue φ α ρ → PyValue φ α ρ}
    (hatoms : ∀ atom : PyValue φ α ρ, atom.isAtom = true →
      (change atom).isAtom = true) (value : PyValue φ α ρ) :
    (mapAtoms change value).asLists = mapAtoms change value := by
  rw [asLists, mapAtoms_mapAtoms]
  exact mapAtoms_congr
    (fun atom hatom => mapAtoms_atom id (hatoms atom hatom)) value

theorem mapAtoms_asLists (change : PyValue φ α ρ → PyValue φ α ρ)
    (value : PyValue φ α ρ) :
    mapAtoms change value.asLists = mapAtoms change value := by
  rw [asLists, mapAtoms_mapAtoms]
  exact mapAtoms_congr (fun atom hatom => mapAtoms_atom change hatom) value

theorem asLists_asLists (value : PyValue φ α ρ) :
    value.asLists.asLists = value.asLists :=
  mapAtoms_asLists id value

section Mapped

variable {kept : PyValue φ α ρ → Bool}
variable {change : PyValue φ α ρ → PyValue φ α ρ}

theorem allItems_mapItems {items : List (PyValue φ α ρ)}
    (hitems : ∀ item ∈ items, item.all test = true →
      (mapAtoms change item).all kept = true)
    (hall : allItems test items = true) :
    allItems kept (mapItems change items) = true := by
  induction items with
  | nil => rfl
  | cons item rest ih =>
    rw [List.forall_mem_cons] at hitems
    rw [allItems, Bool.and_eq_true] at hall
    rw [mapItems, allItems, hitems.1 hall.1, ih hitems.2 hall.2]
    rfl

theorem allEntries_mapEntries {entries : Entries φ α ρ}
    (hentries : ∀ entry ∈ entries, entry.2.all test = true →
      (mapAtoms change entry.2).all kept = true)
    (hall : allEntries test entries = true) :
    allEntries kept (mapEntries change entries) = true := by
  induction entries with
  | nil => rfl
  | cons entry rest ih =>
    rw [List.forall_mem_cons] at hentries
    rw [allEntries, Bool.and_eq_true] at hall
    rw [mapEntries, allEntries, hentries.1 hall.1, ih hentries.2 hall.2]
    rfl

theorem all_mapAtoms
    (hatoms : ∀ value : PyValue φ α ρ, value.isAtom = true →
      test value = true → (change value).all kept = true)
    (hlists : ∀ items, kept (list items) = true)
    (hdicts : ∀ entries out, out.map Prod.fst = entries.map Prod.fst →
      test (dict entries) = true → kept (dict out) = true)
    (value : PyValue φ α ρ) (hall : value.all test = true) :
    (mapAtoms change value).all kept = true := by
  induction value using PyValue.induction with
  | atom value hatom =>
    rw [all_atom test hatom] at hall
    rw [mapAtoms_atom change hatom]
    exact hatoms value hatom hall
  | list items ih | tuple items ih =>
    rw [all, Bool.and_eq_true] at hall
    rw [mapAtoms, all, hlists, allItems_mapItems ih hall.2]
    rfl
  | dict entries ih =>
    rw [all, Bool.and_eq_true] at hall
    rw [mapAtoms, all,
      hdicts entries _ (keys_mapEntries change entries) hall.1,
      allEntries_mapEntries ih hall.2]
    rfl

end Mapped

def Unchanged (stop : Stop φ α ρ) (test : PyValue φ α ρ → Bool)
    (value : PyValue φ α ρ) : Prop :=
  ∀ depth result, value.all test = true →
    rewrite stop depth value = some result → result.asLists = value.asLists

theorem rewriteItems_unchanged {items : List (PyValue φ α ρ)}
    (hitems : ∀ item ∈ items, Unchanged stop test item) {depth : ℕ}
    {out : List (PyValue φ α ρ)} (hall : allItems test items = true)
    (hrewrite : rewriteItems stop depth items = some out) :
    mapItems id out = mapItems id items := by
  rw [allItems_iff] at hall
  have hpaired := forall₂_rewriteItems
    (fun item result => result.asLists = item.asLists)
    (fun item hitem result hresult =>
      hitems item hitem depth result (hall item hitem) hresult) hrewrite
  clear hitems hall hrewrite
  induction hpaired with
  | nil => rfl
  | cons hhead _ ih =>
    simp only [asLists] at hhead
    rw [mapItems, mapItems, hhead, ih]

theorem rewriteEntries_unchanged {entries : Entries φ α ρ}
    (hentries : ∀ entry ∈ entries, Unchanged stop test entry.2) {depth : ℕ}
    {out : Entries φ α ρ} (hall : allEntries test entries = true)
    (hrewrite : rewriteEntries stop depth entries = some out) :
    mapEntries id out = mapEntries id entries := by
  rw [allEntries_iff] at hall
  have hpaired := forall₂_rewriteEntries
    (fun value result => result.asLists = value.asLists)
    (fun entry hentry result hresult =>
      hentries entry hentry depth result (hall entry hentry) hresult) hrewrite
  clear hentries hall hrewrite
  induction hpaired with
  | nil => rfl
  | cons hhead _ ih =>
    obtain ⟨hkey, hvalue⟩ := hhead
    simp only [asLists] at hvalue
    rw [mapEntries, mapEntries, hkey, hvalue, ih]

def Settles (stop : Stop φ α ρ) (test : PyValue φ α ρ → Bool) : Prop :=
  ∀ depth value, test value = true →
    stop depth value = none ∨ stop depth value = some none ∨
      stop depth value = some (some value)

theorem Settles.asLists_eq (hsettles : Settles stop test) {depth : ℕ}
    {value result : PyValue φ α ρ} {rest : Option (PyValue φ α ρ)}
    (htest : test value = true)
    (hrewrite : (stop depth value).getD rest = some result)
    (hrest : ∀ out, rest = some out → out.asLists = value.asLists) :
    result.asLists = value.asLists := by
  cases hsettles depth value htest with
  | inl hnone =>
    rw [hnone, Option.getD_none] at hrewrite
    exact hrest result hrewrite
  | inr hstopped =>
    cases hstopped with
    | inl hraised =>
      rw [hraised, Option.getD_some] at hrewrite
      cases hrewrite
    | inr hitself =>
      rw [hitself, Option.getD_some, Option.some.injEq] at hrewrite
      rw [hrewrite]

theorem Settles.unchanged (hsettles : Settles stop test)
    (value : PyValue φ α ρ) : Unchanged stop test value := by
  induction value using PyValue.induction with
  | atom value hatom =>
    intro depth result hall hrewrite
    rw [rewrite_atom stop depth hatom] at hrewrite
    rw [all_atom test hatom] at hall
    refine hsettles.asLists_eq hall hrewrite ?_
    rintro out ⟨⟩
    rfl
  | list items ih | tuple items ih =>
    intro depth result hall hrewrite
    rw [all, Bool.and_eq_true] at hall
    refine hsettles.asLists_eq hall.1 hrewrite ?_
    intro rest hrest
    obtain ⟨out, hout, rfl⟩ := Option.map_eq_some_iff.mp hrest
    rw [asLists, mapAtoms, rewriteItems_unchanged ih hall.2 hout]
    rfl
  | dict entries ih =>
    intro depth result hall hrewrite
    rw [all, Bool.and_eq_true] at hall
    refine hsettles.asLists_eq hall.1 hrewrite ?_
    intro rest hrest
    obtain ⟨out, hout, rfl⟩ := Option.map_eq_some_iff.mp hrest
    rw [asLists, mapAtoms, rewriteEntries_unchanged ih hall.2 hout]
    rfl

end Unchanged

end Walks

end PyValue
end PycloudParallel.Transport
