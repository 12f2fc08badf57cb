import Mathlib.Data.List.Perm.Subperm

/-!
# The order in which candidates are offered

A choice that is told what it has given before, and what is left, goes through a list
in some order.
-/

namespace PycloudParallel

variable {α : Type*} [DecidableEq α]

/-- The candidates in the order in which `pick` gives them, at most so many. -/
def offersUpTo (pick : List α → List α → α) : ℕ → List α → List α → List α
  | 0, _, _ => []
  | _ + 1, _, [] => []
  | count + 1, given, first :: rest =>
    let next := pick given (first :: rest)
    next :: offersUpTo pick count (next :: given) ((first :: rest).erase next)

/-- The candidates in the order in which `pick` gives them. -/
def offers (pick : List α → List α → α) (given candidates : List α) : List α :=
  offersUpTo pick candidates.length given candidates

variable {pick : List α → List α → α}

@[simp] theorem offers_nil (given : List α) : offers pick given [] = [] := rfl

theorem offers_cons {given candidates : List α} (hne : candidates ≠ [])
    (hpick : pick given candidates ∈ candidates) :
    offers pick given candidates = pick given candidates ::
      offers pick (pick given candidates :: given)
        (candidates.erase (pick given candidates)) := by
  obtain ⟨first, rest, rfl⟩ := List.exists_cons_of_ne_nil hne
  rw [offers, List.length_cons, offersUpTo, offers, List.length_erase_of_mem hpick,
    List.length_cons, Nat.add_sub_cancel]

theorem offers_perm (hpick : ∀ given candidates, candidates ≠ [] →
      pick given candidates ∈ candidates) (given candidates : List α) :
    (offers pick given candidates).Perm candidates := by
  induction hcount : candidates.length generalizing given candidates with
  | zero =>
    rw [List.length_eq_zero_iff.mp hcount]
    exact .refl _
  | succ count ih =>
    have hne : candidates ≠ [] := by
      rintro rfl
      cases hcount
    have hmem := hpick given candidates hne
    rw [offers_cons hne hmem]
    have hlength := List.length_erase_of_mem hmem
    exact ((ih _ _ (by omega)).cons _).trans (List.perm_cons_erase hmem).symm

omit [DecidableEq α] in
theorem length_eq_iff_forall_mem {some all : List α} (hsome : some.Nodup)
    (hall : all.Nodup) (hsubset : ∀ x ∈ some, x ∈ all) :
    some.length = all.length ↔ ∀ x ∈ all, x ∈ some := by
  have hsubperm : some.Subperm all := List.subperm_of_subset hsome hsubset
  constructor
  · intro hlength x hx
    exact (hsubperm.perm_of_length_le (Nat.le_of_eq hlength.symm)).mem_iff.mpr hx
  · intro hmem
    exact ((List.perm_ext_iff_of_nodup hsome hall).mpr
      fun x => ⟨hsubset x, hmem x⟩).length_eq

end PycloudParallel
