import Mathlib.Data.List.DropRight

/-!
# Lines of text in a cut stream of bytes

A sender writes one text a line; the receiver gets the first bytes of them and
splits what it got at the line ends.  A text is that of an object, so it starts
and ends with a brace, and nothing short of the whole text can be read.
-/

namespace PycloudParallel

/-- White space of ASCII, as `bytes.strip` takes it. -/
def isSpace (byte : UInt8) : Bool :=
  byte = 32 || 9 ≤ byte && byte ≤ 13

def stripBytes (text : List UInt8) : List UInt8 :=
  (text.dropWhile isSpace).rdropWhile isSpace

/-- What `readline` returns one after the other; the last line may have no line
end. -/
def splitLines : List UInt8 → List (List UInt8)
  | [] => []
  | byte :: rest =>
    if byte = 10 then [byte] :: splitLines rest
    else
      match splitLines rest with
      | [] => [[byte]]
      | line :: lines => (byte :: line) :: lines

structure ObjectText (ε : Type*) where
  encode : ε → List UInt8
  decode : List UInt8 → Option ε
  decode_encode : ∀ entry, decode (encode entry) = some entry
  opens : ∀ entry, ∃ rest, encode entry = 123 :: rest
  closes : ∀ entry, ∃ front, encode entry = front ++ [125]
  newline_notMem : ∀ entry, 10 ∉ encode entry
  decode_front : ∀ entry front, front <+: encode entry → front ≠ encode entry →
    decode front = none

section

variable {ε : Type*} (format : ObjectText ε)

def textLines (entries : List ε) : List UInt8 :=
  entries.flatMap fun entry => format.encode entry ++ [10]

def wholeEntries : List ε → ℕ → List ε
  | [], _ => []
  | entry :: rest, cut =>
    if (format.encode entry).length ≤ cut then
      entry :: wholeEntries rest (cut - (format.encode entry).length - 1)
    else []

/-- A reader of lines: it skips blank ones and stops at the first it cannot
read.  The flag says that it stopped there and not at the end. -/
def readObjects : List (List UInt8) → List ε × Bool
  | [] => ([], false)
  | line :: rest =>
    if stripBytes line = [] then readObjects rest
    else
      match format.decode (stripBytes line) with
      | none => ([], true)
      | some entry => (entry :: (readObjects rest).1, (readObjects rest).2)

def cutInside : List ε → ℕ → Bool
  | [], _ => false
  | entry :: rest, cut =>
    if (format.encode entry).length ≤ cut then
      cutInside rest (cut - (format.encode entry).length - 1)
    else 0 < cut

end

theorem splitLines_append_newline {text : List UInt8} (hline : 10 ∉ text)
    (rest : List UInt8) :
    splitLines (text ++ 10 :: rest) = (text ++ [10]) :: splitLines rest := by
  induction text with
  | nil => simp [splitLines]
  | cons byte text ih =>
    rw [List.mem_cons, not_or] at hline
    rw [List.cons_append, splitLines, if_neg (Ne.symm hline.1), ih hline.2]
    rfl

theorem splitLines_of_notMem {text : List UInt8} (hline : 10 ∉ text)
    (hne : text ≠ []) : splitLines text = [text] := by
  induction text with
  | nil => exact absurd rfl hne
  | cons byte text ih =>
    rw [List.mem_cons, not_or] at hline
    rw [splitLines, if_neg (Ne.symm hline.1)]
    cases text with
    | nil => rfl
    | cons next text => rw [ih hline.2 (List.cons_ne_nil _ _)]

namespace ObjectText

variable {ε : Type*} (format : ObjectText ε) (entry : ε)

theorem encode_ne_nil : format.encode entry ≠ [] := by
  obtain ⟨rest, hopens⟩ := format.opens entry
  rw [hopens]
  exact List.cons_ne_nil _ _

theorem dropWhile_isSpace_cons (rest : List UInt8) :
    (123 :: rest).dropWhile isSpace = 123 :: rest := rfl

theorem strip_encode_newline :
    stripBytes (format.encode entry ++ [10]) = format.encode entry := by
  obtain ⟨rest, hopens⟩ := format.opens entry
  obtain ⟨front, hcloses⟩ := format.closes entry
  unfold stripBytes
  have hstart : (format.encode entry ++ [10]).dropWhile isSpace =
      format.encode entry ++ [10] := by
    rw [hopens, List.cons_append, dropWhile_isSpace_cons]
  rw [hstart, List.rdropWhile_concat_pos _ _ _ (by decide), hcloses,
    List.rdropWhile_concat_neg _ _ _ (by decide)]

theorem strip_encode : stripBytes (format.encode entry) = format.encode entry := by
  obtain ⟨rest, hopens⟩ := format.opens entry
  obtain ⟨front, hcloses⟩ := format.closes entry
  unfold stripBytes
  have hstart : (format.encode entry).dropWhile isSpace = format.encode entry := by
    rw [hopens, dropWhile_isSpace_cons]
  rw [hstart, hcloses, List.rdropWhile_concat_neg _ _ _ (by decide)]

theorem strip_front {front : List UInt8} (hfront : front <+: format.encode entry)
    (hshort : front ≠ format.encode entry) (hne : front ≠ []) :
    stripBytes front ≠ [] ∧ format.decode (stripBytes front) = none := by
  obtain ⟨rest, hopens⟩ := format.opens entry
  obtain ⟨byte, tail, hcons⟩ := List.exists_cons_of_ne_nil hne
  have hbyte : byte = 123 := by
    rw [hcons, hopens, List.cons_prefix_cons] at hfront
    exact hfront.1
  have hstart : front.dropWhile isSpace = front := by
    rw [hcons, hbyte, dropWhile_isSpace_cons]
  unfold stripBytes
  rw [hstart]
  have hshorter : front.rdropWhile isSpace <+: front :=
    List.rdropWhile_prefix isSpace front
  constructor
  · intro hblank
    rw [List.rdropWhile_eq_nil_iff] at hblank
    have hspace := hblank byte (by rw [hcons]; exact List.mem_cons_self)
    rw [hbyte] at hspace
    cases hspace
  · apply format.decode_front entry _ (hshorter.trans hfront)
    intro hwhole
    apply hshort
    have hlength := hshorter.length_le
    rw [hwhole] at hlength
    exact hfront.eq_of_length_le hlength

theorem readObjects_cons {line : List UInt8} {entry : ε}
    (hstrip : stripBytes line = format.encode entry) (rest : List (List UInt8)) :
    readObjects format (line :: rest) =
      (entry :: (readObjects format rest).1, (readObjects format rest).2) := by
  rw [readObjects, hstrip, if_neg (format.encode_ne_nil entry), format.decode_encode]

theorem readObjects_take (entries : List ε) (cut : ℕ) :
    readObjects format (splitLines ((textLines format entries).take cut)) =
      (wholeEntries format entries cut, cutInside format entries cut) := by
  induction entries generalizing cut with
  | nil => simp [textLines, splitLines, readObjects, wholeEntries, cutInside]
  | cons entry rest ih =>
    have hline := format.newline_notMem entry
    have htext : textLines format (entry :: rest) =
        format.encode entry ++ 10 :: textLines format rest := by
      simp [textLines]
    rw [htext, List.take_append, wholeEntries, cutInside]
    by_cases hwhole : (format.encode entry).length ≤ cut
    · rw [if_pos hwhole, if_pos hwhole, List.take_of_length_le hwhole]
      cases hleft : cut - (format.encode entry).length with
      | zero =>
        have hend : readObjects format (splitLines []) =
            (wholeEntries format rest 0, cutInside format rest 0) := ih 0
        rw [splitLines] at hend
        rw [List.take_zero, List.append_nil,
          splitLines_of_notMem hline (format.encode_ne_nil entry),
          readObjects_cons format (format.strip_encode entry), hend]
      | succ left =>
        rw [List.take_succ_cons, splitLines_append_newline hline,
          readObjects_cons format (format.strip_encode_newline entry), ih,
          Nat.add_sub_cancel]
    · rw [if_neg hwhole, if_neg hwhole]
      rw [not_le] at hwhole
      rw [Nat.sub_eq_zero_of_le hwhole.le, List.take_zero, List.append_nil]
      have hfront : (format.encode entry).take cut <+: format.encode entry :=
        List.take_prefix _ _
      by_cases hnone : cut = 0
      · subst hnone
        simp [splitLines, readObjects]
      · have hlength : ((format.encode entry).take cut).length = cut :=
          List.length_take_of_le hwhole.le
        have hne : (format.encode entry).take cut ≠ [] := by
          intro hnil
          rw [hnil] at hlength
          exact hnone hlength.symm
        have hshort : (format.encode entry).take cut ≠ format.encode entry := by
          intro hsame
          rw [hsame] at hlength
          omega
        have hfrontline : 10 ∉ (format.encode entry).take cut := fun hmem =>
          hline (hfront.subset hmem)
        have hread := format.strip_front entry hfront hshort hne
        rw [splitLines_of_notMem hfrontline hne, readObjects, if_neg hread.1, hread.2]
        simp [Nat.pos_of_ne_zero hnone]

def flat (body : ε → List UInt8) (parse : List UInt8 → Option ε)
    (hparse : ∀ entry, parse (body entry) = some entry)
    (hline : ∀ entry, 10 ∉ body entry) (hbrace : ∀ entry, 125 ∉ body entry) :
    ObjectText ε where
  encode entry := 123 :: (body entry ++ [125])
  decode text :=
    if text.head? = some 123 ∧ text.getLast? = some 125 then
      parse text.tail.dropLast
    else none
  decode_encode entry := by
    have hlast : (123 :: (body entry ++ [125])).getLast? = some 125 := by
      rw [← List.cons_append, List.getLast?_concat]
    simp [hparse, hlast]
  opens entry := ⟨_, rfl⟩
  closes entry := ⟨123 :: body entry, rfl⟩
  newline_notMem entry := by simp [hline]
  decode_front entry front hfront hshort := by
    have hbody : front <+: 123 :: body entry := by
      rw [← List.cons_append, List.prefix_concat_iff] at hfront
      exact hfront.resolve_left hshort
    apply if_neg
    rintro ⟨-, hlast⟩
    have hmem := hbody.subset (List.mem_of_getLast? hlast)
    simp [hbrace] at hmem

end ObjectText

end PycloudParallel
