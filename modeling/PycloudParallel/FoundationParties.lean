import Mathlib.Algebra.Order.BigOperators.Group.List
import Mathlib.Algebra.Order.Ring.Nat

/-!
# Totals over parties

The parties of a system stand in a list and are named by their places in it.  A
total adds up what each has.  When one moves, the totals change by what it has
more or less, and nothing else has to be looked at.
-/

namespace PycloudParallel.Parties

variable {α : Type*} {measure : α → ℕ} {parties : List α}

def total (measure : α → ℕ) (parties : List α) : ℕ :=
  (parties.map measure).sum

@[simp] theorem total_nil : total measure [] = 0 := rfl

@[simp] theorem total_cons (party : α) :
    total measure (party :: parties) = measure party + total measure parties :=
  List.sum_cons

theorem total_append (others : List α) :
    total measure (parties ++ others) =
      total measure parties + total measure others := by
  rw [total, List.map_append, List.sum_append]
  rfl

theorem total_add (other : α → ℕ) :
    total (fun party => measure party + other party) parties =
      total measure parties + total other parties := by
  induction parties with
  | nil => rfl
  | cons first rest ih =>
    rw [total_cons, total_cons, total_cons, ih]
    omega

variable {party : α}

theorem total_set {place : ℕ} (hparty : parties[place]? = some party)
    (other : α) :
    total measure (parties.set place other) + measure party =
      total measure parties + measure other := by
  induction parties generalizing place with
  | nil => cases hparty
  | cons first rest ih =>
    cases place with
    | zero =>
      rw [List.getElem?_cons_zero, Option.some.injEq] at hparty
      subst hparty
      rw [List.set_cons_zero, total_cons, total_cons]
      omega
    | succ place =>
      rw [List.getElem?_cons_succ] at hparty
      rw [List.set_cons_succ, total_cons, total_cons]
      have hrest := ih hparty
      omega

theorem total_map_eq {change : α → α}
    (hchange : ∀ party ∈ parties, measure (change party) = measure party) :
    total measure (parties.map change) = total measure parties := by
  rw [total, List.map_map]
  exact congrArg List.sum (List.map_congr_left hchange)

theorem total_eq_zero_iff :
    total measure parties = 0 ↔ ∀ party ∈ parties, measure party = 0 := by
  rw [total, List.sum_eq_zero_iff, List.forall_mem_map]

theorem le_total (hparty : party ∈ parties) :
    measure party ≤ total measure parties :=
  List.single_le_sum (fun _ _ => Nat.zero_le _) _
    (List.mem_map.mpr ⟨party, hparty, rfl⟩)

theorem total_pos_iff :
    0 < total measure parties ↔ ∃ party ∈ parties, 0 < measure party := by
  constructor
  · intro hpos
    by_contra hnone
    have hzero : total measure parties = 0 := by
      rw [total_eq_zero_iff]
      intro party hparty
      by_contra hne
      exact hnone ⟨party, hparty, Nat.pos_of_ne_zero hne⟩
    omega
  · rintro ⟨party, hparty, hpos⟩
    have hle : measure party ≤ total measure parties := le_total hparty
    omega

theorem add_le_total {first second : ℕ} {other : α}
    (hparty : parties[first]? = some party)
    (hother : parties[second]? = some other) (hne : first ≠ second) :
    measure party + measure other ≤ total measure parties := by
  induction parties generalizing first second with
  | nil => cases hparty
  | cons head rest ih =>
    rw [total_cons]
    cases first with
    | zero =>
      rw [List.getElem?_cons_zero, Option.some.injEq] at hparty
      subst hparty
      cases second with
      | zero => exact absurd rfl hne
      | succ second =>
        rw [List.getElem?_cons_succ] at hother
        have hle : measure other ≤ total measure rest :=
          le_total (List.mem_of_getElem? hother)
        omega
    | succ first =>
      rw [List.getElem?_cons_succ] at hparty
      cases second with
      | zero =>
        rw [List.getElem?_cons_zero, Option.some.injEq] at hother
        subst hother
        have hle : measure party ≤ total measure rest :=
          le_total (List.mem_of_getElem? hparty)
        omega
      | succ second =>
        rw [List.getElem?_cons_succ] at hother
        have hrest := ih hparty hother (by omega)
        omega

end PycloudParallel.Parties
