import Mathlib.Algebra.Order.Ring.Nat
import Mathlib.Data.List.AList

/-!
# Insertion-ordered dictionaries

A dictionary that keeps the order in which its keys were first inserted, over
Mathlib's association lists: assigning to a present key replaces the value in
its place, assigning to an absent key appends the entry at the end.  That no
key occurs twice is a field of `AList`, so a dictionary with a repeated key
cannot be built.
-/

namespace PycloudParallel

universe u v

variable {κ : Type u} {ν : Type v} [DecidableEq κ]

/-- A dictionary from `κ` to `ν` that remembers insertion order. -/
abbrev OrderedDict (κ : Type u) (ν : Type v) := AList (fun _ : κ => ν)

namespace OrderedDict

/-- Replace the value of `k`, if there is one, in its place. -/
def overwrite (d : OrderedDict κ ν) (k : κ) (v : ν) : OrderedDict κ ν :=
  ⟨d.entries.map (Sigma.map id fun k' old => if k' = k then v else old), by
    have hkeys : (d.entries.map (Sigma.map id
        fun k' old => if k' = k then v else old)).keys = d.entries.keys := by
      simp [List.keys, Sigma.map, Function.comp_def]
    rw [List.NodupKeys, hkeys]
    exact d.nodupKeys⟩

/-- `d[k] = v`: in place when `k` is present, at the end otherwise. -/
def set (d : OrderedDict κ ν) (k : κ) (v : ν) : OrderedDict κ ν :=
  if h : k ∈ d then overwrite d k v
  else
    ⟨d.entries ++ [⟨k, v⟩], by
      have hk : k ∉ d.entries.keys := fun hmem => h (AList.mem_keys.mpr hmem)
      have hnodup : d.entries.keys.Nodup := d.nodupKeys
      simp only [List.NodupKeys, List.keys, List.map_append, List.map_cons,
        List.map_nil] at hk hnodup ⊢
      exact List.nodup_append.mpr ⟨hnodup, by simp, by
        intro a ha b hb
        simp only [List.mem_singleton] at hb
        subst hb
        exact fun heq => hk (heq ▸ ha)⟩⟩

def values (d : OrderedDict κ ν) : List ν :=
  d.entries.map Sigma.snd

def items (d : OrderedDict κ ν) : List (κ × ν) :=
  d.entries.map fun entry => (entry.1, entry.2)

variable {d e : OrderedDict κ ν} {k : κ} {v : ν} {μ : Type v} {α : Type*}
  {test : κ → Bool}

theorem mem_items : (k, v) ∈ items d ↔ d.lookup k = some v := by
  rw [← Option.mem_def, AList.mem_lookup_iff, items]
  constructor
  · intro hmem
    obtain ⟨entry, hentry, heq⟩ := List.mem_map.mp hmem
    cases heq
    exact hentry
  · intro hmem
    exact List.mem_map.mpr ⟨⟨k, v⟩, hmem, rfl⟩

theorem mem_values : v ∈ values d ↔ ∃ k, d.lookup k = some v := by
  simp only [← mem_items, values, items, List.mem_map, Prod.mk.injEq]
  constructor
  · rintro ⟨entry, hmem, rfl⟩
    exact ⟨entry.1, entry, hmem, rfl, rfl⟩
  · rintro ⟨k, entry, hmem, -, rfl⟩
    exact ⟨entry, hmem, rfl⟩

theorem mem_iff_lookup : k ∈ d ↔ ∃ v, d.lookup k = some v := by
  rw [← AList.lookup_isSome, Option.isSome_iff_exists]

theorem lookup_overwrite (d : OrderedDict κ ν) (k k' : κ) (v : ν) :
    (overwrite d k v).lookup k' =
      (d.lookup k').map fun old => if k' = k then v else old :=
  List.dlookup_map₂ k'

@[simp] theorem lookup_set_self (d : OrderedDict κ ν) (k : κ) (v : ν) :
    (set d k v).lookup k = some v := by
  unfold set
  split
  · next hmem =>
    obtain ⟨old, hold⟩ := mem_iff_lookup.mp hmem
    simp [lookup_overwrite, hold]
  · next hmem =>
    have hnone : d.entries.dlookup k = none :=
      List.dlookup_eq_none.mpr fun h => hmem (AList.mem_keys.mpr h)
    simp [AList.lookup, List.dlookup_append, hnone]

theorem lookup_set_ne (d : OrderedDict κ ν) {k' : κ} (v : ν) (hne : k' ≠ k) :
    (set d k v).lookup k' = d.lookup k' := by
  unfold set
  split
  · simp [lookup_overwrite, hne]
  · have hnone : List.dlookup k' [(⟨k, v⟩ : Sigma fun _ : κ => ν)] = none := by
      rw [List.dlookup_cons_ne _ _ hne]
      rfl
    simp [AList.lookup, List.dlookup_append, hnone]

theorem lookup_set (d : OrderedDict κ ν) (k k' : κ) (v : ν) :
    (set d k v).lookup k' = if k' = k then some v else d.lookup k' := by
  split
  · next heq =>
    subst heq
    exact lookup_set_self d k' v
  · next hne => exact lookup_set_ne d v hne

theorem of_lookup_set {k' : κ} {v' : ν} (hfound : (set d k v).lookup k' = some v') :
    (k' = k ∧ v' = v) ∨ d.lookup k' = some v' := by
  rw [lookup_set] at hfound
  split at hfound
  · next heq => exact .inl ⟨heq, (Option.some.inj hfound).symm⟩
  · exact .inr hfound

theorem lookup_erase (d : OrderedDict κ ν) (k k' : κ) :
    (d.erase k).lookup k' = if k' = k then none else d.lookup k' := by
  split
  · next heq =>
    subst heq
    exact AList.lookup_erase k' d
  · next hne => exact AList.lookup_erase_ne hne

theorem of_lookup_erase {k' : κ} (hfound : (d.erase k).lookup k' = some v) :
    d.lookup k' = some v := by
  rw [lookup_erase] at hfound
  split at hfound
  · cases hfound
  · exact hfound

def eraseAll (d : OrderedDict κ ν) (keys : List κ) : OrderedDict κ ν :=
  keys.foldl (fun out k => out.erase k) d

theorem lookup_eraseAll (d : OrderedDict κ ν) (keys : List κ) (k : κ) :
    (eraseAll d keys).lookup k = if k ∈ keys then none else d.lookup k := by
  induction keys generalizing d with
  | nil => simp [eraseAll]
  | cons first rest ih =>
    have hstep : eraseAll d (first :: rest) = eraseAll (d.erase first) rest :=
      rfl
    rw [hstep, ih, lookup_erase]
    by_cases heq : k = first <;> by_cases hrest : k ∈ rest <;>
      simp [heq, hrest]

@[simp] theorem mem_set {k' : κ} : k' ∈ set d k v ↔ k' = k ∨ k' ∈ d := by
  rw [mem_iff_lookup, mem_iff_lookup, lookup_set]
  by_cases heq : k' = k <;> simp [heq]

theorem values_set_of_notMem (v : ν) (hk : k ∉ d) :
    values (set d k v) = values d ++ [v] := by
  simp [set, hk, values]

theorem items_set_of_notMem (v : ν) (hk : k ∉ d) :
    items (set d k v) = items d ++ [(k, v)] := by
  simp [set, hk, items]

omit [DecidableEq κ] in
theorem values_eq_items (d : OrderedDict κ ν) :
    values d = (items d).map Prod.snd := by
  simp [values, items, Function.comp_def]

theorem items_foldl_set (rows : List (κ × ν)) (d : OrderedDict κ ν)
    (hnodup : (rows.map Prod.fst).Nodup) (hnew : ∀ row ∈ rows, row.1 ∉ d) :
    items (rows.foldl (fun out row => set out row.1 row.2) d) =
      items d ++ rows := by
  induction rows generalizing d with
  | nil => simp
  | cons row rest ih =>
    rw [List.map_cons, List.nodup_cons] at hnodup
    rw [List.foldl_cons, ih _ hnodup.2]
    · rw [items_set_of_notMem _ (hnew row List.mem_cons_self),
        List.append_assoc]
      rfl
    · intro later hlater hmem
      rw [mem_set] at hmem
      obtain heq | hold := hmem
      · apply hnodup.1
        rw [← heq]
        exact List.mem_map_of_mem hlater
      · exact hnew later (List.mem_cons_of_mem _ hlater) hold

def mapValues {μ : Type v} (change : κ → ν → μ) (d : OrderedDict κ ν) :
    OrderedDict κ μ :=
  ⟨d.entries.map fun entry => ⟨entry.1, change entry.1 entry.2⟩, by
    have hkeys : (d.entries.map fun entry => (⟨entry.1, change entry.1 entry.2⟩ :
        Sigma fun _ : κ => μ)).keys = d.entries.keys := by
      simp [List.keys, Function.comp_def]
    rw [List.NodupKeys, hkeys]
    exact d.nodupKeys⟩

variable (change : κ → ν → μ)

@[simp] theorem lookup_mapValues (d : OrderedDict κ ν) (k : κ) :
    (mapValues change d).lookup k = (d.lookup k).map (change k) :=
  List.dlookup_map₂ k

theorem ext_of_keys (hkeys : d.keys = e.keys)
    (hlookup : ∀ k, d.lookup k = e.lookup k) : d = e := by
  obtain ⟨first, hfirst⟩ := d
  obtain ⟨second, hsecond⟩ := e
  apply AList.ext
  change first = second
  replace hkeys : first.keys = second.keys := hkeys
  replace hlookup : ∀ k, first.dlookup k = second.dlookup k := hlookup
  induction first generalizing second with
  | nil =>
    cases second with
    | nil => rfl
    | cons entry rest => cases hkeys
  | cons entry rest ih =>
    cases second with
    | nil => cases hkeys
    | cons other others =>
      obtain ⟨k, v⟩ := entry
      obtain ⟨k', w⟩ := other
      rw [List.keys_cons, List.keys_cons, List.cons.injEq] at hkeys
      obtain ⟨hhead, htail⟩ := hkeys
      dsimp only at hhead
      subst hhead
      rw [List.nodupKeys_cons] at hfirst hsecond
      have hvalue := hlookup k
      rw [List.dlookup_cons_eq, List.dlookup_cons_eq, Option.some.injEq]
        at hvalue
      subst hvalue
      congr 1
      apply ih hfirst.2 others hsecond.2 htail
      intro k'
      by_cases heq : k' = k
      · subst heq
        rw [List.dlookup_eq_none.mpr hfirst.1, List.dlookup_eq_none.mpr hsecond.1]
      · have hother := hlookup k'
        rwa [List.dlookup_cons_ne _ _ heq, List.dlookup_cons_ne _ _ heq]
          at hother

omit [DecidableEq κ] in
@[simp] theorem keys_mapValues (d : OrderedDict κ ν) :
    (mapValues change d).keys = d.keys := by
  simp [mapValues, AList.keys, List.keys, Function.comp_def]

theorem keys_set (d : OrderedDict κ ν) (k : κ) (v : ν) :
    (set d k v).keys = if k ∈ d then d.keys else d.keys ++ [k] := by
  unfold set
  split
  · simp [overwrite, AList.keys, List.keys, Sigma.map, Function.comp_def]
  · simp [AList.keys, List.keys]

omit [DecidableEq κ] in
theorem mem_mapValues {change : κ → ν → μ} :
    k ∈ mapValues change d ↔ k ∈ d := by
  rw [AList.mem_keys, keys_mapValues, AList.mem_keys]

theorem mapValues_set (d : OrderedDict κ ν) (k : κ) (v : ν) :
    mapValues change (set d k v) = set (mapValues change d) k (change k v) := by
  apply ext_of_keys
  · simp only [keys_mapValues, keys_set, mem_mapValues]
  · intro other
    rw [lookup_mapValues, lookup_set, lookup_set, lookup_mapValues]
    split
    · next heq => rw [heq, Option.map_some]
    · rfl

theorem mapValues_erase (d : OrderedDict κ ν) (k : κ) :
    mapValues change (d.erase k) = (mapValues change d).erase k := by
  apply ext_of_keys
  · simp only [keys_mapValues, AList.keys_erase]
  · intro other
    rw [lookup_mapValues, lookup_erase, lookup_erase, lookup_mapValues]
    split <;> rfl

theorem mapValues_mapValues {ξ : Type v} (again : κ → μ → ξ)
    (d : OrderedDict κ ν) : mapValues again (mapValues change d) =
      mapValues (fun k v => again k (change k v)) d := by
  apply ext_of_keys
  · simp only [keys_mapValues]
  · intro k
    simp only [lookup_mapValues, Option.map_map, Function.comp_def]

theorem mapValues_congr {change other : κ → ν → μ}
    (hsame : ∀ k v, d.lookup k = some v → change k v = other k v) :
    mapValues change d = mapValues other d := by
  apply ext_of_keys
  · simp only [keys_mapValues]
  · intro k
    rw [lookup_mapValues, lookup_mapValues]
    cases hvalue : d.lookup k with
    | none => rfl
    | some v => rw [Option.map_some, Option.map_some, hsame k v hvalue]

omit [DecidableEq κ] in
theorem items_mapValues (d : OrderedDict κ ν) : items (mapValues change d) =
      (items d).map fun item => (item.1, change item.1 item.2) := by
  simp [items, mapValues, Function.comp_def]

theorem values_foldl_set_key {key : ν → κ} {rows : List ν}
    (hnodup : (rows.map key).Nodup) :
    values (rows.foldl (fun out row => set out (key row) row)
      (∅ : OrderedDict κ ν)) = rows := by
  have hitems := items_foldl_set (rows.map fun row => (key row, row))
    (∅ : OrderedDict κ ν)
    (by simpa [Function.comp_def] using hnodup) (fun row _ => AList.notMem_empty _)
  rw [List.foldl_map] at hitems
  rw [values_eq_items, hitems]
  simp [items, Function.comp_def]

theorem values_foldl_set_items (d : OrderedDict κ ν) (change : κ × ν → μ) :
    values (d.items.foldl (fun out entry => set out entry.1 (change entry))
      (∅ : OrderedDict κ μ)) = d.items.map change := by
  have hnodup : ((d.items.map fun entry =>
      (entry.1, change entry)).map Prod.fst).Nodup := by
    have hkeys : (d.entries.map Sigma.fst).Nodup := d.nodupKeys
    simpa [items, Function.comp_def] using hkeys
  have hitems := items_foldl_set _ (∅ : OrderedDict κ μ) hnodup
    (fun row _ => AList.notMem_empty _)
  rw [List.foldl_map] at hitems
  rw [values_eq_items, hitems]
  simp [items, Function.comp_def]

theorem values_perm_erase (hv : d.lookup k = some v) :
    (values d).Perm (v :: values (d.erase k)) := by
  have hk : k ∈ d.entries.keys :=
    AList.mem_keys.mp (mem_iff_lookup.mpr ⟨v, hv⟩)
  obtain ⟨w, before, after, hbefore, hentries, herase⟩ :=
    List.exists_of_kerase hk
  have hw : w = v := by
    have hfound : d.entries.dlookup k = some w := by
      rw [hentries, List.dlookup_append,
        List.dlookup_eq_none.mpr hbefore]
      simp
    exact Option.some.inj (hfound.symm.trans hv)
  subst hw
  have hvalues : values (d.erase k) = (before ++ after).map Sigma.snd := by
    rw [← herase]
    rfl
  rw [hvalues, values, hentries, List.map_append, List.map_append,
    List.map_cons]
  exact List.perm_middle

theorem mem_flatMap_values {gather : ν → List α} {item : α} :
    item ∈ (values d).flatMap gather ↔
      ∃ k v, d.lookup k = some v ∧ item ∈ gather v := by
  simp only [List.mem_flatMap, mem_values]
  constructor
  · rintro ⟨v, ⟨k, hk⟩, hitem⟩
    exact ⟨k, v, hk, hitem⟩
  · rintro ⟨k, v, hk, hitem⟩
    exact ⟨v, ⟨k, hk⟩, hitem⟩

theorem mem_flatMap_values_set {gather : ν → List α} {item : α} :
    item ∈ (values (set d k v)).flatMap gather ↔
      item ∈ gather v ∨ item ∈ (values (d.erase k)).flatMap gather := by
  simp only [mem_flatMap_values, lookup_set, lookup_erase]
  constructor
  · rintro ⟨k', found, hfound, hitem⟩
    split at hfound
    · cases hfound
      exact .inl hitem
    · next hne => exact .inr ⟨k', found, by rw [if_neg hne, hfound], hitem⟩
  · rintro (hitem | ⟨k', found, hfound, hitem⟩)
    · exact ⟨k, v, if_pos rfl, hitem⟩
    · split at hfound
      · cases hfound
      · next hne => exact ⟨k', found, by rw [if_neg hne, hfound], hitem⟩

theorem mem_flatMap_values_iff {gather : ν → List α} {item : α} (k : κ) :
    item ∈ (values d).flatMap gather ↔
      (∃ v, d.lookup k = some v ∧ item ∈ gather v) ∨
        item ∈ (values (d.erase k)).flatMap gather := by
  simp only [mem_flatMap_values, lookup_erase]
  constructor
  · rintro ⟨k', v, hv, hitem⟩
    by_cases heq : k' = k
    · rw [heq] at hv
      exact .inl ⟨v, hv, hitem⟩
    · exact .inr ⟨k', v, by rw [if_neg heq, hv], hitem⟩
  · rintro (⟨v, hv, hitem⟩ | ⟨k', v, hv, hitem⟩)
    · exact ⟨k, v, hv, hitem⟩
    · split at hv
      · cases hv
      · exact ⟨k', v, hv, hitem⟩

theorem mem_flatMap_values_same {old : Option ν} {gather : ν → List α} {item : α}
    (hold : d.lookup k = old)
    (hsame : (∃ w, old = some w ∧ item ∈ gather w) ↔ item ∈ gather v) :
    item ∈ (values (set d k v)).flatMap gather ↔
      item ∈ (values d).flatMap gather := by
  rw [mem_flatMap_values_set, mem_flatMap_values_iff (d := d) k, hold, hsame]

theorem mem_flatMap_values_erase {gather : ν → List α} {item : α}
    (hold : d.lookup k = some v) (hnone : item ∉ gather v) :
    item ∈ (values (d.erase k)).flatMap gather ↔
      item ∈ (values d).flatMap gather := by
  rw [mem_flatMap_values_iff (d := d) k, hold]
  simp [hnone]

theorem entries_perm_of_lookup_eq (heq : ∀ k, d.lookup k = e.lookup k) :
    d.entries.Perm e.entries := by
  apply List.lookup_ext d.nodupKeys e.nodupKeys
  intro k v
  have hlookup := heq k
  simp only [AList.lookup] at hlookup
  rw [hlookup]

def total (measure : ν → ℕ) (d : OrderedDict κ ν) : ℕ :=
  ((values d).map measure).sum

theorem total_congr (measure : ν → ℕ) (heq : ∀ k, d.lookup k = e.lookup k) :
    total measure d = total measure e := by
  have hvalues : (values d).Perm (values e) := by
    unfold values
    exact (entries_perm_of_lookup_eq heq).map _
  exact (hvalues.map measure).sum_nat

theorem total_erase (measure : ν → ℕ) (d : OrderedDict κ ν) (k : κ) :
    total measure (d.erase k) + (d.lookup k).elim 0 measure =
      total measure d := by
  cases hlookup : d.lookup k with
  | none =>
    have hsame : total measure (d.erase k) = total measure d := by
      apply total_congr
      intro k'
      rw [lookup_erase]
      split
      · next heq => rw [heq, hlookup]
      · rfl
    simpa using hsame
  | some v =>
    have hperm := ((values_perm_erase hlookup).map measure).sum_nat
    simp only [List.map_cons, List.sum_cons] at hperm
    simp only [total, Option.elim_some]
    omega

theorem total_set (measure : ν → ℕ) (d : OrderedDict κ ν) (k : κ) (v : ν) :
    total measure (set d k v) + (d.lookup k).elim 0 measure =
      total measure d + measure v := by
  have hset := total_erase measure (set d k v) k
  have hold := total_erase measure d k
  have hrest : total measure ((set d k v).erase k) =
      total measure (d.erase k) := by
    apply total_congr
    intro k'
    rw [lookup_erase, lookup_erase]
    split
    · rfl
    · next hne => exact lookup_set_ne d v hne
  rw [lookup_set_self, Option.elim_some] at hset
  omega

theorem items_set_of_mem (v : ν) (hk : k ∈ d) :
    items (set d k v) =
      (items d).map fun item => if item.1 = k then (item.1, v) else item := by
  simp only [set, hk, dif_pos, overwrite, items, List.map_map]
  refine List.map_congr_left fun entry _ => ?_
  by_cases hsame : entry.1 = k <;> simp [hsame, Sigma.map]

def itemsWhere (test : κ → Bool) (d : OrderedDict κ ν) : List (κ × ν) :=
  (items d).filter fun item => test item.1

theorem mem_itemsWhere :
    (k, v) ∈ itemsWhere test d ↔ d.lookup k = some v ∧ test k = true := by
  rw [itemsWhere, List.mem_filter, mem_items]

theorem filter_replaced (test : κ → Bool) (rows : List (κ × ν)) (k : κ) (v : ν) :
    ((rows.map fun row => if row.1 = k then (row.1, v) else row).filter
        fun row => test row.1) =
      (rows.filter fun row => test row.1).map
        fun row => if row.1 = k then (row.1, v) else row := by
  rw [List.filter_map]
  have hkeys : (fun row : κ × ν => test row.1) ∘
      (fun row => if row.1 = k then (row.1, v) else row) =
        fun row => test row.1 := by
    funext row
    by_cases hsame : row.1 = k <;> simp [hsame]
  rw [hkeys]

theorem itemsWhere_set_other (v : ν) (hother : test k = false) :
    itemsWhere test (set d k v) = itemsWhere test d := by
  unfold itemsWhere
  by_cases hk : k ∈ d
  · rw [items_set_of_mem v hk, filter_replaced]
    refine (List.map_congr_left fun row hrow => ?_).trans (List.map_id _)
    have hpasses := (List.mem_filter.mp hrow).2
    have hne : row.1 ≠ k := by
      rintro rfl
      rw [hother] at hpasses
      cases hpasses
    exact if_neg hne
  · rw [items_set_of_notMem v hk, List.filter_append]
    simp [hother]

theorem itemsWhere_set (v : ν) (hpasses : test k = true)
    (hsame : itemsWhere test d = items e) :
    itemsWhere test (set d k v) = items (set e k v) := by
  have hmem : k ∈ d ↔ k ∈ e := by
    rw [mem_iff_lookup, mem_iff_lookup]
    refine exists_congr fun found => ?_
    rw [← mem_items (d := e), ← hsame, mem_itemsWhere]
    simp [hpasses]
  by_cases hk : k ∈ d
  · rw [itemsWhere, items_set_of_mem v hk, filter_replaced,
      items_set_of_mem v (hmem.mp hk), ← hsame]
    rfl
  · rw [itemsWhere, items_set_of_notMem v hk, List.filter_append,
      items_set_of_notMem v (fun h => hk (hmem.mpr h)), ← hsame]
    simp [hpasses, itemsWhere]

theorem itemsWhere_erase (hother : test k = false) :
    itemsWhere test (d.erase k) = itemsWhere test d := by
  unfold itemsWhere items
  have hentries : (d.erase k).entries = d.entries.kerase k := rfl
  rw [hentries]
  induction d.entries with
  | nil => rfl
  | cons entry rest ih =>
    by_cases hsame : k = entry.1
    · subst hsame
      simp [List.kerase_cons_eq, hother]
    · rw [List.kerase_cons_ne hsame, List.map_cons, List.map_cons, List.filter_cons,
        List.filter_cons, ih]

theorem itemsWhere_eraseAll {keys : List κ}
    (hother : ∀ k ∈ keys, test k = false) (d : OrderedDict κ ν) :
    itemsWhere test (eraseAll d keys) = itemsWhere test d := by
  induction keys generalizing d with
  | nil => rfl
  | cons first rest ih =>
    refine (ih (fun k hk => hother k (List.mem_cons_of_mem _ hk)) (d.erase first)).trans ?_
    exact itemsWhere_erase (hother first List.mem_cons_self)

end OrderedDict

end PycloudParallel
