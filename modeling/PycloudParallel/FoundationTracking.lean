import Mathlib.Data.Int.Interval
import Mathlib.Data.Rat.Floor
import Mathlib.Order.OrderIsoNat
import Mathlib.Tactic.Linarith

/-!
# A position that follows a target

An integer position that moves towards its target, by at least one wherever it
differs and never past it, is at the target for good once the target rests; and
a bounded monotone target comes to rest.  Rounding a half to the even
neighbour is monotone, so that the rounding of a monotone quantity is.
-/

namespace PycloudParallel

/-- From `position` to `next` towards `target`: not away from it, not past it,
and not staying elsewhere. -/
structure MovesToward (position target next : ℤ) : Prop where
  within : position ≤ next ∧ next ≤ target ∨ target ≤ next ∧ next ≤ position
  strict : position ≠ target → next ≠ position

theorem MovesToward.refl (position : ℤ) :
    MovesToward position position position :=
  ⟨.inl ⟨le_refl _, le_refl _⟩, fun hne => absurd rfl hne⟩

def SettlesAt (values : ℕ → ℤ) (value : ℤ) : Prop :=
  ∃ enough, ∀ n, enough ≤ n → values n = value

variable {position target : ℕ → ℤ} {value bound : ℤ}

theorem SettlesAt.of_shift {values : ℕ → ℤ} (places : ℕ)
    (hsettles : SettlesAt (fun n => values (n + places)) value) :
    SettlesAt values value := by
  obtain ⟨enough, hrest⟩ := hsettles
  refine ⟨enough + places, fun n hle => ?_⟩
  obtain ⟨later, rfl⟩ := Nat.exists_eq_add_of_le hle
  rw [Nat.add_right_comm]
  exact hrest (enough + later) (Nat.le_add_right _ _)

theorem settles_of_monotone (hmonotone : ∀ n, target n ≤ target (n + 1))
    (hbound : ∀ n, target n ≤ bound) : ∃ value, SettlesAt target value := by
  have hmono : Monotone target := monotone_nat_of_le_succ hmonotone
  let inside : ℕ →o Set.Icc (target 0) bound :=
    ⟨fun n => ⟨target n, hmono (Nat.zero_le n), hbound n⟩, fun _ _ hle => hmono hle⟩
  obtain ⟨enough, hrest⟩ := WellFoundedGT.monotone_chain_condition inside
  refine ⟨target enough, enough, fun n hle => ?_⟩
  exact (congrArg Subtype.val (hrest n hle)).symm

theorem settles_of_antitone (hantitone : ∀ n, target (n + 1) ≤ target n)
    (hbound : ∀ n, bound ≤ target n) : ∃ value, SettlesAt target value := by
  obtain ⟨value, enough, hrest⟩ := settles_of_monotone
    (fun n => neg_le_neg (hantitone n)) fun n => neg_le_neg (hbound n)
  refine ⟨-value, enough, fun n hle => ?_⟩
  rw [← hrest n hle, neg_neg]

theorem MovesToward.closer {position target next : ℤ}
    (hmove : MovesToward position target next) :
    (next - target).natAbs ≤ (position - target).natAbs - 1 := by
  obtain ⟨hwithin, hstrict⟩ := hmove
  omega

theorem MovesToward.settles
    (hmoves : ∀ n, MovesToward (position n) (target n) (position (n + 1)))
    (htarget : SettlesAt target value) : SettlesAt position value := by
  obtain ⟨enough, hrest⟩ := htarget
  let distance := (position enough - value).natAbs
  have hcloser (moves : ℕ) :
      (position (enough + moves) - value).natAbs ≤ distance - moves := by
    induction moves with
    | zero => exact le_refl distance
    | succ moves ih =>
      have hmove := hmoves (enough + moves)
      rw [hrest _ (Nat.le_add_right enough moves)] at hmove
      have hless := hmove.closer
      rw [Nat.add_assoc] at hless
      omega
  refine ⟨enough + distance, fun n hle => ?_⟩
  obtain ⟨moves, rfl⟩ := Nat.exists_eq_add_of_le hle
  have hzero := hcloser (distance + moves)
  rw [Nat.add_assoc]
  omega

/-- The nearest integer, of a half the even neighbour: Python's `round`. -/
def roundHalfEven (x : ℚ) : ℤ :=
  if x - ⌊x⌋ < 1 / 2 then ⌊x⌋
  else if 1 / 2 < x - ⌊x⌋ then ⌊x⌋ + 1
  else if ⌊x⌋ % 2 = 0 then ⌊x⌋
  else ⌊x⌋ + 1

theorem roundHalfEven_mono {x y : ℚ} (hle : x ≤ y) :
    roundHalfEven x ≤ roundHalfEven y := by
  have hfloor : ⌊x⌋ ≤ ⌊y⌋ := Int.floor_mono hle
  have hbelow (z : ℚ) : ⌊z⌋ ≤ roundHalfEven z := by
    unfold roundHalfEven
    split_ifs <;> omega
  have habove (z : ℚ) : roundHalfEven z ≤ ⌊z⌋ + 1 := by
    unfold roundHalfEven
    split_ifs <;> omega
  rcases hfloor.lt_or_eq with hlt | heq
  · exact (habove x).trans (le_trans hlt (hbelow y))
  · unfold roundHalfEven
    rw [heq]
    split_ifs <;> first | omega | linarith
end PycloudParallel
