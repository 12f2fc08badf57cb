import Mathlib.Data.List.Basic
import Mathlib.Data.Option.Basic

/-!
# Overlaying partial maps

A partial map is changed by laying others over it, one after the other: the
last one that defines a key decides.  This is what a store does that is only
ever written by merging changes into what it holds.
-/

namespace PycloudParallel

universe u v w

variable {κ : Type u} {ν : Type v} {ι : Type w}

/-- The map `base` with the entries of `change` put over its own. -/
def overlay (base change : κ → Option ν) : κ → Option ν :=
  fun k => (change k).or (base k)

def overlayAll (change : ι → κ → Option ν) (base : κ → Option ν) :
    List ι → κ → Option ν
  | [] => base
  | i :: rest => overlayAll change (overlay base (change i)) rest

variable {base : κ → Option ν} {k : κ} {change : ι → κ → Option ν}
  {changes : List ι}

theorem overlay_of_none {change : κ → Option ν} (hnone : change k = none) :
    overlay base change k = base k := by
  simp [overlay, hnone]

theorem overlay_of_some {change : κ → Option ν} {v : ν}
    (hsome : change k = some v) : overlay base change k = some v := by
  simp [overlay, hsome]

theorem overlay_congr {other change : κ → Option ν}
    (hagree : ∀ k, change k = none → base k = other k) :
    overlay base change = overlay other change := by
  funext k
  cases hchange : change k with
  | none => rw [overlay_of_none hchange, overlay_of_none hchange, hagree k hchange]
  | some v => rw [overlay_of_some hchange, overlay_of_some hchange]

theorem overlayAll_append (change : ι → κ → Option ν) (base : κ → Option ν)
    (before after : List ι) :
    overlayAll change base (before ++ after) =
      overlayAll change (overlayAll change base before) after := by
  induction before generalizing base with
  | nil => rfl
  | cons i rest ih => exact ih _

theorem overlayAll_concat (change : ι → κ → Option ν) (base : κ → Option ν)
    (before : List ι) (i : ι) :
    overlayAll change base (before ++ [i]) =
      overlay (overlayAll change base before) (change i) :=
  overlayAll_append change base before [i]

theorem overlayAll_congr {other : ι → κ → Option ν} (base : κ → Option ν)
    (hsame : ∀ i ∈ changes, change i = other i) :
    overlayAll change base changes = overlayAll other base changes := by
  induction changes generalizing base with
  | nil => rfl
  | cons i rest ih =>
    have hi : change i = other i := hsame i (by simp)
    simp only [overlayAll, hi]
    apply ih
    intro j hj
    exact hsame j (by simp [hj])

theorem overlayAll_of_none (base : κ → Option ν)
    (hnone : ∀ i ∈ changes, change i k = none) :
    overlayAll change base changes k = base k := by
  induction changes generalizing base with
  | nil => rfl
  | cons i rest ih =>
    have hi : change i k = none := hnone i (by simp)
    have hrest := ih (overlay base (change i)) fun j hj =>
      hnone j (by simp [hj])
    rw [overlayAll, hrest, overlay_of_none hi]

theorem overlayAll_last (base : κ → Option ν)
    (hsome : ∃ i ∈ changes, change i k ≠ none) :
    ∃ before i after, changes = before ++ i :: after ∧ change i k ≠ none ∧
      overlayAll change base changes k = change i k ∧
      ∀ j ∈ after, change j k = none := by
  induction changes generalizing base with
  | nil =>
    obtain ⟨i, hi, -⟩ := hsome
    cases hi
  | cons i rest ih =>
    by_cases hrest : ∃ j ∈ rest, change j k ≠ none
    · obtain ⟨before, j, after, hsplit, hj, hvalue, hafter⟩ :=
        ih (overlay base (change i)) hrest
      exact ⟨i :: before, j, after, by rw [hsplit]; rfl, hj, hvalue, hafter⟩
    · have hnone : ∀ j ∈ rest, change j k = none := by
        intro j hj
        by_contra hne
        exact hrest ⟨j, hj, hne⟩
      have hi : change i k ≠ none := by
        obtain ⟨j, hj, hne⟩ := hsome
        rcases List.mem_cons.mp hj with rfl | hmem
        · exact hne
        · exact absurd ⟨j, hmem, hne⟩ hrest
      have hvalue : overlayAll change base (i :: rest) k = change i k := by
        rw [overlayAll, overlayAll_of_none _ hnone]
        obtain ⟨v, hv⟩ := Option.ne_none_iff_exists'.mp hi
        rw [overlay_of_some hv, hv]
      exact ⟨[], i, rest, rfl, hi, hvalue, hnone⟩

end PycloudParallel
