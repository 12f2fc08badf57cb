import Mathlib.Data.List.Sort

/-!
# Pieces laid out one after another

A file is cut into pieces that each have an offset and a length.  The pieces of a
list are contiguous when each begins where the one before it ends; then each of
them is a slice of the joined contents.

Empty pieces share their offset with the piece after them, so an order by offsets
need not give the pieces back in the order in which they were laid out.
-/

namespace PycloudParallel

section

variable {α : Type*}

/-- `seek(offset)`, then `read(length)`. -/
def slice (xs : List α) (offset length : ℕ) : List α :=
  (xs.drop offset).take length

theorem length_slice (xs : List α) (offset length : ℕ) :
    (slice xs offset length).length = min length (xs.length - offset) := by
  simp [slice]

theorem slice_whole (xs : List α) (offset length : ℕ) :
    (slice xs offset length).length = length ↔ length ≤ xs.length - offset := by
  rw [length_slice]
  omega

theorem slice_append (front piece back : List α) :
    slice (front ++ (piece ++ back)) front.length piece.length = piece := by
  rw [slice, List.drop_left, List.take_left]

end

section

variable {ι : Type*} {offset length : ι → ℕ}

def Contiguous (offset length : ι → ℕ) : ℕ → List ι → Prop
  | _, [] => True
  | start, x :: xs => offset x = start ∧ Contiguous offset length (start + length x) xs

variable {start : ℕ} {xs : List ι}

theorem contiguous_map {κ : Type*} {f : κ → ι} {xs : List κ} :
    Contiguous offset length start (xs.map f) ↔
      Contiguous (fun x => offset (f x)) (fun x => length (f x)) start xs := by
  induction xs generalizing start with
  | nil => exact Iff.rfl
  | cons x xs ih => exact and_congr_right fun _ => ih

section

variable (hxs : Contiguous offset length start xs)

include hxs

theorem Contiguous.le_offset : ∀ x ∈ xs, start ≤ offset x := by
  induction xs generalizing start with
  | nil => simp
  | cons y ys ih =>
    intro x hx
    obtain rfl | hys := List.mem_cons.mp hx
    · exact Nat.le_of_eq hxs.1.symm
    · exact Nat.le_trans (Nat.le_add_right _ _) (ih hxs.2 x hys)

theorem Contiguous.pairwise :
    xs.Pairwise fun x y => offset x + length x ≤ offset y := by
  induction xs generalizing start with
  | nil => exact List.Pairwise.nil
  | cons x xs ih =>
    refine List.pairwise_cons.mpr ⟨fun y hy => ?_, ih hxs.2⟩
    rw [hxs.1]
    exact hxs.2.le_offset y hy

theorem Contiguous.slice_flatten {α : Type*} {content : ι → List α}
    (hlength : ∀ x ∈ xs, (content x).length = length x) (front : List α)
    (hfront : front.length = start) :
    ∀ x ∈ xs, slice (front ++ (xs.map content).flatten) (offset x) (length x) =
      content x := by
  induction xs generalizing start front with
  | nil => simp
  | cons y ys ih =>
    intro x hx
    have hy := hlength y List.mem_cons_self
    rw [List.map_cons, List.flatten_cons]
    obtain rfl | hys := List.mem_cons.mp hx
    · rw [hxs.1, ← hfront, ← hy]
      exact slice_append _ _ _
    · rw [← List.append_assoc]
      refine ih hxs.2 (fun z hz => hlength z (List.mem_cons_of_mem _ hz)) _ ?_ x hys
      rw [List.length_append, hfront, hy]

end

variable (r : ι → ι → Prop) [DecidableRel r]

theorem Contiguous.orderedInsert {x : ι}
    (hxs : Contiguous offset length start xs) (hoffset : offset x = start)
    (hempty : length x = 0)
    (hfirst : ∀ y ∈ xs, offset y = start → 0 < length y → r x y) :
    Contiguous offset length start (xs.orderedInsert r x) := by
  induction xs with
  | nil => exact ⟨hoffset, trivial⟩
  | cons y ys ih =>
    rw [List.orderedInsert_cons]
    split
    case isTrue =>
      refine ⟨hoffset, ?_⟩
      rw [hempty]
      exact hxs
    case isFalse hlater =>
      have hzero : length y = 0 := by
        by_contra hlength
        exact hlater (hfirst y List.mem_cons_self hxs.1 (Nat.pos_of_ne_zero hlength))
      have hys : Contiguous offset length start ys := by
        simpa [hzero] using hxs.2
      refine ⟨hxs.1, ?_⟩
      rw [hzero, Nat.add_zero]
      exact ih hys fun z hz => hfirst z (List.mem_cons_of_mem _ hz)

variable [Std.Total r] [IsTrans ι r]

/-- Sorting by an order that refines the one by offsets keeps the pieces contiguous
just when no empty piece is moved behind a longer one at its offset. -/
theorem contiguous_insertionSort_iff (hxs : Contiguous offset length start xs)
    (hrefines : ∀ x y, offset x < offset y → r x y) :
    Contiguous offset length start (xs.insertionSort r) ↔
      xs.Pairwise fun x y => offset x = offset y → 0 < length y → r x y := by
  constructor
  · intro hsorted
    have heither : (xs.insertionSort r).Pairwise fun x y =>
        (r x y ∧ offset x + length x ≤ offset y) ∨
          (r y x ∧ offset y + length y ≤ offset x) :=
      ((List.pairwise_insertionSort r xs).and hsorted.pairwise).imp Or.inl
    have hswap : xs.Pairwise fun x y =>
        (r x y ∧ offset x + length x ≤ offset y) ∨
          (r y x ∧ offset y + length y ≤ offset x) :=
      (List.perm_insertionSort r xs).pairwise heither Or.symm
    refine hswap.imp ?_
    intro x y hxy hoffset hlength
    obtain hbefore | hafter := hxy
    · exact hbefore.1
    · omega
  · intro hfirst
    induction xs generalizing start with
    | nil => trivial
    | cons x xs ih =>
      obtain ⟨hx, hrest⟩ := List.pairwise_cons.mp hfirst
      have hsorted := ih hxs.2 hrest
      by_cases hempty : length x = 0
      · rw [hempty, Nat.add_zero] at hsorted
        refine hsorted.orderedInsert r hxs.1 hempty ?_
        intro y hy hoffset
        exact hx y ((List.mem_insertionSort r).mp hy) (hxs.1.trans hoffset.symm)
      · rw [List.insertionSort_cons_of_forall_rel]
        · exact ⟨hxs.1, hsorted⟩
        · intro y hy
          have hle := hxs.2.le_offset y hy
          have hstart := hxs.1
          exact hrefines x y (by omega)

end

end PycloudParallel
