import Mathlib.Data.List.Basic
import Mathlib.Data.List.Perm.Basic

/-!
# Elements taken out of a list one after the other

Each element is chosen in view of those that are left, as a scheduler does that
ranks the rest anew after each choice.
-/

namespace PycloudParallel

variable {α : Type*} {good : List α → α → Prop}

/-- `Picks good before chosen left`: the elements `chosen` were taken out of
`before` in this order, each `good` in the list that it was taken from, and
`left` remains. -/
inductive Picks (good : List α → α → Prop) : List α → List α → List α → Prop
  | done (before : List α) : Picks good before [] before
  | pick {before rest chosen left : List α} {first : α} :
      good before first → before.Perm (first :: rest) →
        Picks good rest chosen left → Picks good before (first :: chosen) left

namespace Picks

theorem perm {before chosen left : List α} (hpicks : Picks good before chosen left) :
    before.Perm (chosen ++ left) := by
  induction hpicks with
  | done before => exact List.Perm.refl before
  | pick _ hperm _ ih => exact hperm.trans (ih.cons _)

end Picks

end PycloudParallel
