import PycloudParallel.AdminTokensModel

/-!
# Rotating the admin tokens

A run pushes its token to the front of the window when it ends, so the tokens of
the last three runs stay in it; what a node holds is the token of the last run
that reached it.
-/

namespace PycloudParallel.AdminTokens

open Texts
open ObjectStore (universalNewlines universalNewlines_eq_self_iff)

def isPlain (token : Token) : Bool :=
  isAscii token && !token.toList.contains '\r'

theorem trim_concat {blank : Char → Bool} {char : Char} (hblank : blank char = true)
    (text : List Char) : trim blank (text ++ [char]) = trim blank text := by
  rw [trim, trim, List.dropWhile_append]
  split
  case isTrue hnil =>
    rw [List.isEmpty_iff] at hnil
    rw [hnil, List.dropWhile_cons, if_pos hblank]
    rfl
  case isFalse => exact List.rdropWhile_concat_pos _ _ _ hblank

variable {token : Token}

theorem configuredAdminToken_write (hstrip : strip token = token)
    (hplain : isPlain token = true) :
    configuredAdminToken (writeAdminToken token) = token := by
  have hreturn : '\r' ∉ token.toList ++ ['\n'] := by
    rw [isPlain, Bool.and_eq_true] at hplain
    simpa using hplain.2
  rw [writeAdminToken, hstrip, configuredAdminToken,
    (universalNewlines_eq_self_iff _).mpr hreturn, strip, String.toList_ofList,
    trim_concat (by decide)]
  exact hstrip

/-! ## The window -/

structure LoadedTokens (tokens : List Token) : Prop where
  stripped : ∀ token ∈ tokens, strip token = token
  nonblank : ∀ token ∈ tokens, token ≠ ""

theorem oldAdminTokens_loaded (tokenFile : TokenFile) :
    LoadedTokens (oldAdminTokens (loadLocalAdminTokenWindow tokenFile)) := by
  have hstripped : ∀ token ∈ (loadLocalAdminTokenWindow tokenFile).1 ::
      (loadLocalAdminTokenWindow tokenFile).2, strip token = token := by
    intro token hmem
    cases tokenFile with
    | missing =>
      rw [List.mem_singleton.mp hmem]
      decide
    | plain text =>
      rw [List.mem_singleton.mp hmem]
      exact strip_strip text
    | window current previous =>
      obtain rfl | hprevious := List.mem_cons.mp hmem
      · exact strip_strip current
      · have hkept := (List.mem_filter.mp (List.mem_of_mem_take hprevious)).1
        obtain ⟨item, -, rfl⟩ := List.mem_map.mp hkept
        exact strip_strip item
  constructor
  · intro token hmem
    exact hstripped token (List.mem_filter.mp (List.mem_of_mem_take hmem)).1
  · intro token hmem
    simpa using (List.mem_filter.mp (List.mem_of_mem_take hmem)).2

theorem localTokens_eq (tokenFile : TokenFile) :
    localTokens (loadLocalAdminTokenWindow tokenFile) =
      oldAdminTokens (loadLocalAdminTokenWindow tokenFile) := by
  cases tokenFile with
  | missing => rfl
  | plain text =>
    by_cases hblank : strip text = "" <;>
      simp [localTokens, oldAdminTokens, loadLocalAdminTokenWindow, hblank]
  | window current previous =>
    have hshort : (((previous.map strip).filter (· ≠ "")).take 2).length ≤ 2 :=
      List.length_take_le _ _
    have hnonblank : (((previous.map strip).filter (· ≠ "")).take 2).filter
        (· ≠ "") = ((previous.map strip).filter (· ≠ "")).take 2 := by
      rw [List.filter_eq_self]
      intro token hmem
      exact (List.mem_filter.mp (List.mem_of_mem_take hmem)).2
    rw [localTokens, oldAdminTokens, loadLocalAdminTokenWindow]
    generalize ((previous.map strip).filter (· ≠ "")).take 2 = kept at *
    rw [List.filter_cons, hnonblank]
    by_cases hblank : strip current = ""
    · rw [if_neg (by simpa using hblank), if_neg (by simpa using hblank),
        List.take_of_length_le (by omega)]
    · rw [if_pos (by simpa using hblank), if_pos (by simpa using hblank),
        List.take_of_length_le (by rw [List.length_cons]; omega)]

theorem keepPrevious_loaded (room : ℕ) (seen tokens : List Token) :
    (keepPrevious room seen tokens).length ≤ room ∧
      (∀ token ∈ keepPrevious room seen tokens,
        (∃ item ∈ tokens, strip item = token) ∧ token ≠ "" ∧ token ∉ seen) := by
  fun_induction keepPrevious room seen tokens with
  | case1 | case2 => simp
  | case3 room seen item items hskip ih =>
    refine ⟨ih.1, fun token hmem => ?_⟩
    obtain ⟨⟨other, hother, hstrip⟩, hrest⟩ := ih.2 token hmem
    exact ⟨⟨other, List.mem_cons_of_mem _ hother, hstrip⟩, hrest⟩
  | case4 room seen item items hkeep ih =>
    rw [not_or] at hkeep
    refine ⟨Nat.succ_le_succ ih.1, fun token hmem => ?_⟩
    obtain rfl | hrest := List.mem_cons.mp hmem
    · exact ⟨⟨item, List.mem_cons_self, rfl⟩, hkeep⟩
    · obtain ⟨⟨other, hother, hstrip⟩, hne, hseen⟩ := ih.2 token hrest
      exact ⟨⟨other, List.mem_cons_of_mem _ hother, hstrip⟩, hne,
        fun hold => hseen (List.mem_cons_of_mem _ hold)⟩

theorem mem_take_keepPrevious {room count : ℕ} {seen tokens : List Token}
    (hloaded : LoadedTokens tokens) (hcount : count ≤ room)
    (hmem : token ∈ tokens.take count) (hseen : token ∉ seen) :
    token ∈ (keepPrevious room seen tokens).take count := by
  fun_induction keepPrevious room seen tokens generalizing count with
  | case1 =>
    rw [Nat.le_zero.mp hcount] at hmem
    cases hmem
  | case2 => simp at hmem
  | case3 room seen item items hskip ih =>
    have hitem := hloaded.stripped item List.mem_cons_self
    rw [hitem] at hskip
    have hseenItem := hskip.resolve_left (hloaded.nonblank item List.mem_cons_self)
    cases count with
    | zero => cases hmem
    | succ count =>
      rw [List.take_succ_cons] at hmem
      have hrest : token ∈ items.take count :=
        (List.mem_cons.mp hmem).resolve_left fun hsame => hseen (hsame ▸ hseenItem)
      have hkept := ih
        ⟨fun other hother => hloaded.stripped other (List.mem_cons_of_mem _ hother),
          fun other hother => hloaded.nonblank other (List.mem_cons_of_mem _ hother)⟩
        (Nat.le_of_succ_le hcount) hrest hseen
      exact (List.take_subset_take_left _ (Nat.le_succ count)) hkept
  | case4 room seen item items hkeep ih =>
    have hitem := hloaded.stripped item List.mem_cons_self
    cases count with
    | zero => cases hmem
    | succ count =>
      rw [List.take_succ_cons] at hmem ⊢
      rw [hitem] at ih ⊢
      by_cases hsame : token = item
      · rw [hsame]
        exact List.mem_cons_self
      · refine List.mem_cons_of_mem _ (ih ?_ (Nat.le_of_succ_le_succ hcount) ?_ ?_)
        · exact ⟨fun other hother =>
              hloaded.stripped other (List.mem_cons_of_mem _ hother),
            fun other hother =>
              hloaded.nonblank other (List.mem_cons_of_mem _ hother)⟩
        · exact (List.mem_cons.mp hmem).resolve_left hsame
        · rw [List.mem_cons, not_or]
          exact ⟨hsame, hseen⟩

theorem oldAdminTokens_write (hstrip : strip token = token) (hne : token ≠ "")
    (tokens : List Token) :
    oldAdminTokens (loadLocalAdminTokenWindow
      (writeLocalAdminTokenWindow token tokens)) =
      token :: keepPrevious 2 [token] tokens := by
  obtain ⟨hlength, hkept⟩ := keepPrevious_loaded 2 [token] tokens
  have hmap : (keepPrevious 2 [token] tokens).map strip =
      keepPrevious 2 [token] tokens := by
    refine (List.map_congr_left ?_).trans (List.map_id _)
    intro kept hmem
    obtain ⟨⟨item, -, rfl⟩, -, -⟩ := hkept kept hmem
    exact strip_strip item
  have hfilter : (keepPrevious 2 [token] tokens).filter (· ≠ "") =
      keepPrevious 2 [token] tokens := by
    rw [List.filter_eq_self]
    intro kept hmem
    exact decide_eq_true (hkept kept hmem).2.1
  rw [writeLocalAdminTokenWindow, hstrip, loadLocalAdminTokenWindow, oldAdminTokens,
    hstrip, hmap, hfilter, List.take_of_length_le hlength, List.filter_cons,
    if_pos (decide_eq_true hne), hfilter,
    List.take_of_length_le (Nat.succ_le_succ hlength)]

end PycloudParallel.AdminTokens
