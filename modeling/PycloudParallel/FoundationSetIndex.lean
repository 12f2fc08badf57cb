import Mathlib.Data.Finset.Basic
import PycloudParallel.FoundationOrderedDict

/-!
# Sets of members under keys

An index keeps a set of members under each key, as a dictionary of sets in which
an emptied set is dropped.  What matters is which members a key has; an index is
tidy when no set in it is empty.
-/

namespace PycloudParallel

open OrderedDict

abbrev SetIndex (κ α : Type*) := OrderedDict κ (Finset α)

namespace SetIndex

variable {κ α : Type*} [DecidableEq κ]

def members (index : SetIndex κ α) (key : κ) : Finset α :=
  (index.lookup key).getD ∅

def Tidy (index : SetIndex κ α) : Prop :=
  ∀ key found, index.lookup key = some found → found.Nonempty

variable {index : SetIndex κ α}

theorem members_of_lookup {key : κ} {found : Finset α}
    (hfound : index.lookup key = some found) : index.members key = found := by
  rw [members, hfound]
  rfl

variable [DecidableEq α]

/-- `index.setdefault(key, set()).add(member)`. -/
def insertUnder (index : SetIndex κ α) (member : α) (key : κ) : SetIndex κ α :=
  index.set key (insert member (index.members key))

/-- `discard(member)` from the set of the key, which is dropped when it is
empty then. -/
def discardUnder (index : SetIndex κ α) (member : α) (key : κ) :
    SetIndex κ α :=
  match index.lookup key with
  | none => index
  | some found =>
    if found.erase member = ∅ then index.erase key
    else index.set key (found.erase member)

theorem members_insertUnder (index : SetIndex κ α) (member : α) (key other : κ) :
    (index.insertUnder member key).members other =
      if other = key then insert member (index.members other)
      else index.members other := by
  unfold insertUnder
  rw [members, lookup_set]
  split
  · next heq => rw [heq, Option.getD_some]
  · rfl

theorem members_discardUnder (index : SetIndex κ α) (member : α)
    (key other : κ) :
    (index.discardUnder member key).members other =
      if other = key then (index.members other).erase member
      else index.members other := by
  unfold discardUnder
  split
  · next hnone =>
    split
    · next heq =>
      rw [heq, members, hnone]
      rfl
    · rfl
  · next found hfound =>
    by_cases heq : other = key
    · rw [if_pos heq, heq, members_of_lookup hfound]
      split
      · next hempty =>
        rw [members, lookup_erase, if_pos rfl, hempty]
        rfl
      · rw [members, lookup_set_self]
        rfl
    · rw [if_neg heq]
      split
      · rw [members, lookup_erase, if_neg heq, members]
      · rw [members, lookup_set_ne _ _ heq, members]

theorem Tidy.insertUnder (htidy : index.Tidy) (member : α) (key : κ) :
    (index.insertUnder member key).Tidy := by
  intro other found hfound
  rw [SetIndex.insertUnder, lookup_set] at hfound
  split at hfound
  · cases hfound
    exact Finset.insert_nonempty member _
  · exact htidy other found hfound

theorem Tidy.discardUnder (htidy : index.Tidy) (member : α) (key : κ) :
    (index.discardUnder member key).Tidy := by
  intro other found hfound
  unfold SetIndex.discardUnder at hfound
  split at hfound
  · exact htidy other found hfound
  · split at hfound
    · exact htidy other found (of_lookup_erase hfound)
    · next hkept =>
      obtain ⟨rfl, rfl⟩ | hfound := of_lookup_set hfound
      · exact Finset.nonempty_iff_ne_empty.mpr hkept
      · exact htidy other found hfound

def insertAll (index : SetIndex κ α) (member : α) (keys : List κ) :
    SetIndex κ α :=
  keys.foldl (fun out key => out.insertUnder member key) index

def discardAll (index : SetIndex κ α) (member : α) (keys : List κ) :
    SetIndex κ α :=
  keys.foldl (fun out key => out.discardUnder member key) index

theorem members_insertAll (index : SetIndex κ α) (member : α) (keys : List κ)
    (other : κ) :
    (index.insertAll member keys).members other =
      if other ∈ keys then insert member (index.members other)
      else index.members other := by
  induction keys generalizing index with
  | nil => simp [insertAll]
  | cons key rest ih =>
    have hstep : index.insertAll member (key :: rest) =
        (index.insertUnder member key).insertAll member rest := rfl
    rw [hstep, ih, members_insertUnder]
    by_cases heq : other = key <;> by_cases hrest : other ∈ rest <;>
      simp [heq, hrest]

theorem members_discardAll (index : SetIndex κ α) (member : α) (keys : List κ)
    (other : κ) :
    (index.discardAll member keys).members other =
      if other ∈ keys then (index.members other).erase member
      else index.members other := by
  induction keys generalizing index with
  | nil => simp [discardAll]
  | cons key rest ih =>
    have hstep : index.discardAll member (key :: rest) =
        (index.discardUnder member key).discardAll member rest := rfl
    rw [hstep, ih, members_discardUnder]
    by_cases heq : other = key <;> by_cases hrest : other ∈ rest <;>
      simp [heq, hrest]

theorem Tidy.insertAll (htidy : index.Tidy) (member : α) (keys : List κ) :
    (index.insertAll member keys).Tidy := by
  induction keys generalizing index with
  | nil => exact htidy
  | cons key rest ih => exact ih (htidy.insertUnder member key)

theorem Tidy.discardAll (htidy : index.Tidy) (member : α) (keys : List κ) :
    (index.discardAll member keys).Tidy := by
  induction keys generalizing index with
  | nil => exact htidy
  | cons key rest ih => exact ih (htidy.discardUnder member key)

end SetIndex

end PycloudParallel
