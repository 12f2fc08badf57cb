import PycloudParallel.TransportEncodings

/-!
# Values of callers

The values that callers hand to the encoders: dicts have keys of any type, and
bytes are `bytes`, `bytearray` or `memoryview`.  `asRead` is the value that a
decoder should give: tuples as lists, bytes as `bytes` and keys as their texts.

A dict comprehension over keys that are changed keeps the first place and the
last value of a key.
-/

namespace PycloudParallel.Transport

variable {κ φ α ρ : Type}

inductive BytesKind
  | bytes
  | bytearray
  | memoryview
deriving DecidableEq

inductive Scalar (φ α ρ : Type)
  | null
  | bool (value : Bool)
  | int (value : ℤ)
  | float (value : φ)
  | str (value : String)
  | ref (value : ρ)
  | object (value : α)

inductive KeyedValue (κ φ α ρ : Type)
  | scalar (value : Scalar φ α ρ)
  | bytes (kind : BytesKind) (content : Blob)
  | list (items : List (KeyedValue κ φ α ρ))
  | tuple (items : List (KeyedValue κ φ α ρ))
  | dict (entries : List (κ × KeyedValue κ φ α ρ))

abbrev KeyedEntries (κ φ α ρ : Type) := List (κ × KeyedValue κ φ α ρ)

def Scalar.value : Scalar φ α ρ → PyValue φ α ρ
  | .null => .null
  | .bool value => .bool value
  | .int value => .int value
  | .float value => .float value
  | .str value => .str value
  | .ref value => .ref value
  | .object value => .object value

theorem Scalar.isAtom_value (scalar : Scalar φ α ρ) :
    scalar.value.isAtom = true := by
  cases scalar <;> rfl

namespace KeyedValue

@[elab_as_elim]
theorem induction {motive : KeyedValue κ φ α ρ → Prop}
    (scalar : ∀ value, motive (.scalar value))
    (bytes : ∀ kind content, motive (.bytes kind content))
    (list : ∀ items, (∀ item ∈ items, motive item) → motive (.list items))
    (tuple : ∀ items, (∀ item ∈ items, motive item) → motive (.tuple items))
    (dict : ∀ entries : KeyedEntries κ φ α ρ,
      (∀ entry ∈ entries, motive entry.2) → motive (.dict entries))
    (value : KeyedValue κ φ α ρ) : motive value := by
  refine @KeyedValue.rec κ φ α ρ motive
    (fun items => ∀ item ∈ items, motive item)
    (fun entries => ∀ entry ∈ entries, motive entry.2)
    (fun entry => motive entry.2) scalar bytes list tuple dict
    ?_ ?_ ?_ ?_ ?_ value
  · exact fun item hmem => absurd hmem List.not_mem_nil
  · exact fun head tail hhead htail => List.forall_mem_cons.mpr ⟨hhead, htail⟩
  · exact fun entry hmem => absurd hmem List.not_mem_nil
  · exact fun head tail hhead htail => List.forall_mem_cons.mpr ⟨hhead, htail⟩
  · exact fun key value hvalue => hvalue

variable (keyText : κ → String)

mutual

/-- The value with its tuples as lists, its bytes as `bytes` and the texts of
its keys. -/
def asRead : KeyedValue κ φ α ρ → PyValue φ α ρ
  | .scalar value => value.value
  | .bytes _ content => .bytes content
  | .list items => .list (asReadItems items)
  | .tuple items => .list (asReadItems items)
  | .dict entries => .dict (asReadEntries entries)

def asReadItems : List (KeyedValue κ φ α ρ) → List (PyValue φ α ρ)
  | [] => []
  | item :: rest => asRead item :: asReadItems rest

def asReadEntries : KeyedEntries κ φ α ρ → Entries φ α ρ
  | [] => []
  | (key, value) :: rest => (keyText key, asRead value) :: asReadEntries rest

end

def keyTexts (entries : KeyedEntries κ φ α ρ) : List String :=
  entries.map fun entry => keyText entry.1

theorem keys_asReadEntries (entries : KeyedEntries κ φ α ρ) :
    (asReadEntries keyText entries).map Prod.fst = keyTexts keyText entries := by
  induction entries with
  | nil => rfl
  | cons entry rest ih =>
    rw [asReadEntries, List.map_cons, ih]
    rfl

end KeyedValue

/-! ## Comprehensions -/

section Comprehensions

def setEntry (out : Entries φ α ρ) (key : String) (value : PyValue φ α ρ) :
    Entries φ α ρ :=
  if key ∈ out.map Prod.fst then
    out.map fun entry => if entry.1 = key then (key, value) else entry
  else out ++ [(key, value)]

def comprehension (items : Entries φ α ρ) : Entries φ α ρ :=
  items.foldl (fun out item => setEntry out item.1 item.2) []

theorem keys_setEntry (out : Entries φ α ρ) (key : String)
    (value : PyValue φ α ρ) :
    (setEntry out key value).map Prod.fst =
      if key ∈ out.map Prod.fst then out.map Prod.fst
      else out.map Prod.fst ++ [key] := by
  unfold setEntry
  split
  · rw [List.map_map]
    apply List.map_congr_left
    intro entry _
    rw [Function.comp_apply]
    split
    · next heq => exact heq.symm
    · rfl
  · rw [List.map_append, List.map_singleton]

variable {out items : Entries φ α ρ}

theorem setEntry_of_new {key : String} (hnew : key ∉ out.map Prod.fst)
    (value : PyValue φ α ρ) :
    setEntry out key value = out ++ [(key, value)] := if_neg hnew

theorem nodup_setEntry (hnodup : (out.map Prod.fst).Nodup) (key : String)
    (value : PyValue φ α ρ) :
    ((setEntry out key value).map Prod.fst).Nodup := by
  rw [keys_setEntry]
  split
  · exact hnodup
  · next hnew =>
    rw [List.nodup_append]
    refine ⟨hnodup, List.pairwise_singleton _ key, ?_⟩
    intro first hfirst second hsecond heq
    rw [List.mem_singleton] at hsecond
    exact hnew (hsecond ▸ heq ▸ hfirst)

theorem setEntry_ne_nil (hout : out ≠ []) (key : String) (value : PyValue φ α ρ) :
    setEntry out key value ≠ [] := by
  unfold setEntry
  split
  · exact fun hnil => hout (List.map_eq_nil_iff.mp hnil)
  · exact List.append_ne_nil_of_right_ne_nil _ (List.cons_ne_nil _ _)

theorem all_setEntry {test : PyValue φ α ρ → Bool} {value : PyValue φ α ρ}
    (hout : ∀ entry ∈ out, entry.2.all test = true)
    (hvalue : value.all test = true) (key : String) :
    ∀ entry ∈ setEntry out key value, entry.2.all test = true := by
  intro entry hentry
  unfold setEntry at hentry
  split at hentry
  · obtain ⟨old, hold, rfl⟩ := List.mem_map.mp hentry
    split
    · exact hvalue
    · exact hout old hold
  · obtain hold | hnew := List.mem_append.mp hentry
    · exact hout entry hold
    · rw [List.mem_singleton.mp hnew]
      exact hvalue

theorem nodup_comprehension (items : Entries φ α ρ) :
    ((comprehension items).map Prod.fst).Nodup := by
  have hfold : ∀ out : Entries φ α ρ, (out.map Prod.fst).Nodup →
      ((items.foldl (fun out item => setEntry out item.1 item.2)
        out).map Prod.fst).Nodup := by
    induction items with
    | nil => exact fun out hnodup => hnodup
    | cons item rest ih =>
      intro out hnodup
      exact ih _ (nodup_setEntry hnodup item.1 item.2)
  exact hfold [] List.nodup_nil

theorem comprehension_of_nodup (hnodup : (items.map Prod.fst).Nodup) :
    comprehension items = items := by
  have hfold : ∀ out : Entries φ α ρ,
      ((out ++ items).map Prod.fst).Nodup →
      items.foldl (fun out item => setEntry out item.1 item.2) out =
        out ++ items := by
    induction items with
    | nil =>
      intro out _
      exact (List.append_nil out).symm
    | cons item rest ih =>
      intro out hboth
      have hnew : item.1 ∉ out.map Prod.fst := by
        intro hmem
        rw [List.map_append, List.nodup_append] at hboth
        exact hboth.2.2 item.1 hmem item.1 List.mem_cons_self rfl
      rw [List.foldl_cons, setEntry_of_new hnew]
      have hrest : (out ++ [item] ++ rest) = out ++ item :: rest := by
        rw [List.append_assoc, List.singleton_append]
      rw [ih (List.nodup_cons.mp hnodup).2, hrest]
      rwa [hrest]
  exact hfold [] hnodup

theorem mem_keys_comprehension {key : String} :
    key ∈ (comprehension items).map Prod.fst ↔ key ∈ items.map Prod.fst := by
  have hfold : ∀ out : Entries φ α ρ,
      key ∈ (items.foldl (fun out item => setEntry out item.1 item.2)
        out).map Prod.fst ↔
      key ∈ out.map Prod.fst ∨ key ∈ items.map Prod.fst := by
    induction items with
    | nil => simp
    | cons item rest ih =>
      intro out
      have hset : key ∈ (setEntry out item.1 item.2).map Prod.fst ↔
          key ∈ out.map Prod.fst ∨ key = item.1 := by
        rw [keys_setEntry]
        split
        · next hold =>
          constructor
          · exact Or.inl
          · rintro (hmem | rfl)
            · exact hmem
            · exact hold
        · rw [List.mem_append, List.mem_singleton]
      rw [List.foldl_cons, ih, hset, List.map_cons, List.mem_cons, or_assoc]
  rw [comprehension, hfold]
  simp

theorem comprehension_eq_nil_iff : comprehension items = [] ↔ items = [] := by
  constructor
  · intro hempty
    cases items with
    | nil => rfl
    | cons item rest =>
      have hkept : ∀ (out : Entries φ α ρ), out ≠ [] →
          rest.foldl (fun out item => setEntry out item.1 item.2) out ≠ [] := by
        clear hempty
        induction rest with
        | nil => exact fun out hout => hout
        | cons next rest ih =>
          intro out hout
          exact ih _ (setEntry_ne_nil hout next.1 next.2)
      exact absurd hempty (hkept [item] (List.cons_ne_nil _ _))
  · rintro rfl
    rfl

theorem all_comprehension {test : PyValue φ α ρ → Bool}
    (hitems : ∀ item ∈ items, item.2.all test = true) :
    ∀ entry ∈ comprehension items, entry.2.all test = true := by
  have hfold : ∀ out : Entries φ α ρ, (∀ entry ∈ out, entry.2.all test = true) →
      ∀ entry ∈ items.foldl (fun out item => setEntry out item.1 item.2) out,
        entry.2.all test = true := by
    induction items with
    | nil => exact fun out hout => hout
    | cons item rest ih =>
      rw [List.forall_mem_cons] at hitems
      intro out hout
      exact ih hitems.2 _ (all_setEntry hout hitems.1 item.1)
  exact hfold [] (List.forall_mem_nil _)

end Comprehensions

/-! ## Reading parts back -/

section Parts

open PyValue KeyedValue

/-- The items are the entries with the texts of their keys and their values
encoded. -/
inductive EncodedEntries (keyText : κ → String)
    (encodes : KeyedValue κ φ α ρ → PyValue φ α ρ → Prop) :
    KeyedEntries κ φ α ρ → Entries φ α ρ → Prop
  | nil : EncodedEntries keyText encodes [] []
  | cons {key : κ} {value : KeyedValue κ φ α ρ} {part : PyValue φ α ρ}
    {rest : KeyedEntries κ φ α ρ} {others : Entries φ α ρ}
    (hvalue : encodes value part)
    (hrest : EncodedEntries keyText encodes rest others) :
    EncodedEntries keyText encodes ((key, value) :: rest)
      ((keyText key, part) :: others)

variable {stop : Stop φ α ρ} {depth : ℕ} {keyText : κ → String}
  {encodes : KeyedValue κ φ α ρ → PyValue φ α ρ → Prop}
  {reads : KeyedValue κ φ α ρ → Prop}

theorem rewriteItems_eq_asRead_iff {items : List (KeyedValue κ φ α ρ)}
    {parts : List (PyValue φ α ρ)} (hencoded : List.Forall₂ encodes items parts)
    (hitems : ∀ item ∈ items, ∀ part, encodes item part →
      (rewrite stop depth part = some (asRead keyText item) ↔ reads item)) :
    rewriteItems stop depth parts = some (asReadItems keyText items) ↔
      ∀ item ∈ items, reads item := by
  induction hencoded with
  | nil => simp [rewriteItems, asReadItems]
  | cons hfirst _ ih =>
    rw [List.forall_mem_cons] at hitems ⊢
    rw [← hitems.1 _ hfirst, ← ih hitems.2, rewriteItems, asReadItems]
    simp only [Option.bind_eq_some_iff, Option.map_eq_some_iff,
      List.cons.injEq]
    constructor
    · rintro ⟨value, hvalue, others, hothers, rfl, rfl⟩
      exact ⟨hvalue, hothers⟩
    · rintro ⟨hvalue, hothers⟩
      exact ⟨_, hvalue, _, hothers, rfl, rfl⟩

variable {entries : KeyedEntries κ φ α ρ} {items : Entries φ α ρ} {key : String}

section

variable (hencoded : EncodedEntries keyText encodes entries items)

include hencoded

theorem rewriteEntries_eq_asRead_iff
    (hentries : ∀ entry ∈ entries, ∀ part, encodes entry.2 part →
      (rewrite stop depth part = some (asRead keyText entry.2) ↔
        reads entry.2)) :
    rewriteEntries stop depth items = some (asReadEntries keyText entries) ↔
      ∀ entry ∈ entries, reads entry.2 := by
  induction hencoded with
  | nil => simp [rewriteEntries, asReadEntries]
  | cons hvalue _ ih =>
    rw [List.forall_mem_cons] at hentries ⊢
    rw [← hentries.1 _ hvalue, ← ih hentries.2, rewriteEntries, asReadEntries]
    simp only [Option.bind_eq_some_iff, Option.map_eq_some_iff,
      List.cons.injEq, Prod.mk.injEq, true_and]
    constructor
    · rintro ⟨value, hvalue, others, hothers, rfl, rfl⟩
      exact ⟨hvalue, hothers⟩
    · rintro ⟨hvalue, hothers⟩
      exact ⟨_, hvalue, _, hothers, rfl, rfl⟩

theorem EncodedEntries.keys :
    items.map Prod.fst = keyTexts keyText entries := by
  induction hencoded with
  | nil => rfl
  | cons _ _ ih =>
    rw [List.map_cons, ih]
    rfl

theorem EncodedEntries.lookup (hnodup : (keyTexts keyText entries).Nodup)
    {entry : κ × KeyedValue κ φ α ρ} (hentry : entry ∈ entries) :
    ∃ part, encodes entry.2 part ∧
      items.lookup (keyText entry.1) = some part := by
  induction hencoded with
  | nil => cases hentry
  | @cons key value part rest others hvalue _ ih =>
    obtain ⟨hnew, hothers⟩ := List.nodup_cons.mp hnodup
    obtain rfl | htail := List.mem_cons.mp hentry
    · exact ⟨part, hvalue, List.lookup_cons_self⟩
    · have hother : keyText entry.1 ≠ keyText key := by
        intro heq
        exact hnew (List.mem_map.mpr ⟨entry, htail, heq⟩)
      obtain ⟨found, hfound, hlookup⟩ := ih hothers htail
      refine ⟨found, hfound, ?_⟩
      rw [List.lookup_cons, beq_eq_false_iff_ne.mpr hother]
      exact hlookup

end

theorem lookup_eq_none_iff_key :
    items.lookup key = none ↔ key ∉ items.map Prod.fst := by
  rw [List.lookup_eq_none_iff]
  simp only [bne_iff_ne, List.mem_map, not_exists, not_and]
  exact ⟨fun hnone item hitem heq => hnone item hitem heq.symm,
    fun hnone item hitem heq => hnone item hitem heq.symm⟩

theorem EncodedEntries.lookup_eq_none_iff
    (hencoded : EncodedEntries keyText encodes entries items) :
    items.lookup key = none ↔ key ∉ keyTexts keyText entries := by
  rw [← hencoded.keys, lookup_eq_none_iff_key]

theorem EncodedEntries.lookup_forall_iff
    (hencoded : EncodedEntries keyText encodes entries items)
    (hnodup : (keyTexts keyText entries).Nodup) {test : PyValue φ α ρ → Prop}
    (htest : ∀ value part, encodes value part → (test part ↔ reads value)) :
    (∀ part, items.lookup key = some part → test part) ↔
      ∀ entry ∈ entries, keyText entry.1 = key → reads entry.2 := by
  constructor
  · intro hall entry hentry hkey
    obtain ⟨part, hpart, hlookup⟩ := hencoded.lookup hnodup hentry
    rw [hkey] at hlookup
    exact (htest _ _ hpart).mp (hall part hlookup)
  · intro hall part hfound
    have hmem : key ∈ keyTexts keyText entries := by
      by_contra habsent
      rw [hencoded.lookup_eq_none_iff.mpr habsent] at hfound
      cases hfound
    obtain ⟨entry, hentry, rfl⟩ := List.mem_map.mp hmem
    obtain ⟨other, hother, hlookup⟩ := hencoded.lookup hnodup hentry
    rw [hlookup, Option.some.injEq] at hfound
    rw [← hfound]
    exact (htest _ _ hother).mpr (hall entry hentry rfl)

theorem nodup_of_rewriteEntries
    (hrewrite : rewriteEntries stop depth (comprehension items) =
      some (asReadEntries keyText entries)) :
    (keyTexts keyText entries).Nodup := by
  rw [← keys_asReadEntries, keys_rewriteEntries hrewrite]
  exact nodup_comprehension items

end Parts

end PycloudParallel.Transport
