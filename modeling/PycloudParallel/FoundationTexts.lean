import Mathlib.Data.List.Dedup
import Mathlib.Data.List.DropRight
import Mathlib.Data.List.Sort
import Mathlib.Data.String.Basic

/-!
# Texts and lists of names

Trimming white space, lists of names without blanks and repeats, and sorting a
list of names.
-/

namespace PycloudParallel.Texts

def trim (blank : Char → Bool) (text : List Char) : List Char :=
  (text.dropWhile blank).rdropWhile blank

variable {blank : Char → Bool} {text : String}

theorem trim_eq_self {text : List Char}
    (hplain : ∀ char ∈ text, blank char = false) : trim blank text = text := by
  have hfront : text.dropWhile blank = text := by
    cases text with
    | nil => rfl
    | cons char rest =>
      rw [List.dropWhile_cons, hplain char List.mem_cons_self]
      rfl
  rw [trim, hfront, List.rdropWhile_eq_self_iff]
  intro hnil hlast
  rw [hplain _ (List.getLast_mem hnil)] at hlast
  cases hlast

theorem trim_trim (blank : Char → Bool) (text : List Char) :
    trim blank (trim blank text) = trim blank text := by
  generalize hfront : text.dropWhile blank = front
  have htrim : trim blank text = front.rdropWhile blank := by
    rw [trim, hfront]
  have hstable : (front.rdropWhile blank).dropWhile blank =
      front.rdropWhile blank := by
    obtain ⟨rest, hrest⟩ := front.rdropWhile_prefix blank
    cases hkept : front.rdropWhile blank with
    | nil => rfl
    | cons char tail =>
      have hidem : front.dropWhile blank = front := by
        rw [← hfront]
        exact List.dropWhile_idempotent blank text
      have hchar : blank char = false := by
        rw [← hrest, hkept, List.cons_append, List.dropWhile_cons] at hidem
        by_contra hblank
        rw [Bool.not_eq_false] at hblank
        rw [if_pos hblank] at hidem
        have hlength := congrArg List.length hidem
        have hshorter := (List.dropWhile_suffix (l := tail ++ rest)
          blank).length_le
        rw [List.length_cons] at hlength
        omega
      rw [List.dropWhile_cons, hchar]
      rfl
  rw [htrim, trim, hstable]
  exact List.rdropWhile_idempotent blank front

theorem trim_map {change : Char → Char}
    (hchange : ∀ char, blank (change char) = blank char) (text : List Char) :
    trim blank (text.map change) = (trim blank text).map change := by
  have hblank : blank ∘ change = blank := funext hchange
  rw [trim, trim, List.dropWhile_map, hblank, List.rdropWhile, List.rdropWhile,
    ← List.map_reverse, List.dropWhile_map, hblank, List.map_reverse]

theorem mem_of_mem_trim {text : List Char} {char : Char}
    (hchar : char ∈ trim blank text) : char ∈ text :=
  (List.dropWhile_suffix blank).subset
    ((List.rdropWhile_prefix blank _).subset hchar)

/-- The code points that `str.isspace` takes for white space. -/
def spaceCodes : List ℕ :=
  [9, 10, 11, 12, 13, 28, 29, 30, 31, 32, 133, 160, 5760, 8192, 8193, 8194,
    8195, 8196, 8197, 8198, 8199, 8200, 8201, 8202, 8232, 8233, 8239, 8287,
    12288]

def isBlank (char : Char) : Bool :=
  spaceCodes.contains char.toNat

def strip (text : String) : String :=
  .ofList (trim isBlank text.toList)

theorem strip_strip (text : String) : strip (strip text) = strip text := by
  rw [strip, strip, String.toList_ofList, trim_trim]

theorem strip_eq_self (hplain : ∀ char ∈ text.toList, isBlank char = false) :
    strip text = text := by
  rw [strip, trim_eq_self hplain, String.ofList_toList]

def orElse (text fallback : String) : String :=
  if text = "" then fallback else text

@[simp] theorem orElse_empty (fallback : String) :
    orElse "" fallback = fallback := rfl

theorem orElse_of_ne (hne : text ≠ "") (fallback : String) :
    orElse text fallback = text := if_neg hne

@[simp] theorem orElse_self (text : String) : orElse text text = text := by
  unfold orElse
  split <;> rfl

structure Casing where
  lower : String → String
  upper : String → String

def spaceFree (text : String) : Bool :=
  text.toList.all fun char => !isBlank char

theorem isBlank_of_spaceFree (hfree : spaceFree text = true) {char : Char}
    (hchar : char ∈ text.toList) : isBlank char = false := by
  have hplain := List.all_eq_true.mp hfree char hchar
  rwa [Bool.not_eq_true'] at hplain

theorem strip_of_spaceFree (hfree : spaceFree text = true) :
    strip text = text :=
  strip_eq_self fun _ hchar => isBlank_of_spaceFree hfree hchar

def namesFrom (seen : List String) : List String → List String
  | [] => []
  | value :: rest =>
    let name := strip value
    if name = "" ∨ name ∈ seen then namesFrom seen rest
    else name :: namesFrom (name :: seen) rest

structure NamesNormal (names : List String) : Prop where
  nodup : names.Nodup
  stripped : ∀ name ∈ names, name ≠ "" ∧ strip name = name

theorem mem_namesFrom {seen values : List String} {name : String}
    (hname : name ∈ namesFrom seen values) :
    name ∉ seen ∧ name ≠ "" ∧ strip name = name := by
  induction values generalizing seen with
  | nil => cases hname
  | cons value rest ih =>
    rw [namesFrom] at hname
    split at hname
    case isTrue => exact ih hname
    case isFalse hnew =>
      rw [not_or] at hnew
      rw [List.mem_cons] at hname
      cases hname with
      | inl heq =>
        rw [heq]
        exact ⟨hnew.2, hnew.1, strip_strip value⟩
      | inr htail =>
        obtain ⟨hseen, hplain⟩ := ih htail
        exact ⟨fun hmem => hseen (List.mem_cons_of_mem _ hmem), hplain⟩

theorem namesNormal_namesFrom (seen values : List String) :
    NamesNormal (namesFrom seen values) where
  nodup := by
    induction values generalizing seen with
    | nil => exact List.nodup_nil
    | cons value rest ih =>
      rw [namesFrom]
      split
      · exact ih seen
      · rw [List.nodup_cons]
        exact ⟨fun hmem => (mem_namesFrom hmem).1 List.mem_cons_self, ih _⟩
  stripped name hname := (mem_namesFrom hname).2

theorem namesFrom_eq_self {seen names : List String}
    (hnormal : NamesNormal names) (hseen : ∀ name ∈ names, name ∉ seen) :
    namesFrom seen names = names := by
  induction names generalizing seen with
  | nil => rfl
  | cons name rest ih =>
    obtain ⟨hblank, hstrip⟩ := hnormal.stripped name List.mem_cons_self
    obtain ⟨hfresh, hnodup⟩ := List.nodup_cons.mp hnormal.nodup
    have hrest : namesFrom (name :: seen) rest = rest := by
      refine ih ⟨hnodup, fun other hother => hnormal.stripped other
        (List.mem_cons_of_mem _ hother)⟩ ?_
      intro other hother hmem
      rw [List.mem_cons] at hmem
      cases hmem with
      | inl heq => exact hfresh (heq ▸ hother)
      | inr hold => exact hseen other (List.mem_cons_of_mem _ hother) hold
    rw [namesFrom]
    simp only [hstrip]
    rw [if_neg, hrest]
    rw [not_or]
    exact ⟨hblank, hseen name List.mem_cons_self⟩

def sortedNames (values : List String) : List String :=
  (((values.map strip).filter (· ≠ "")).dedup).insertionSort (· ≤ ·)

theorem sortedNames_eq_self_iff {names : List String}
    (hnormal : NamesNormal names) :
    sortedNames names = names ↔ names.Pairwise (· ≤ ·) := by
  have hmap : names.map strip = names := by
    conv_rhs => rw [← List.map_id names]
    exact List.map_congr_left fun name hname =>
      (hnormal.stripped name hname).2
  have hfilter : names.filter (· ≠ "") = names := by
    rw [List.filter_eq_self]
    intro name hname
    exact decide_eq_true (hnormal.stripped name hname).1
  rw [sortedNames, hmap, hfilter, hnormal.nodup.dedup]
  constructor
  · intro heq
    rw [← heq]
    exact List.pairwise_insertionSort (· ≤ ·) names
  · intro hsorted
    exact List.Pairwise.insertionSort_eq hsorted

end PycloudParallel.Texts
