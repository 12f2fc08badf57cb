import Mathlib.Data.List.Basic
import Mathlib.Data.Nat.Notation
import Mathlib.Data.String.Basic

/-!
# JSON texts of objects of strings

The JSON text of strings, of lists of strings and of objects with such fields,
without blanks between the parts and without ASCII escapes.  Each text says
where it ends, so objects with the same keys and kinds are told apart by their
texts.
-/

namespace PycloudParallel.JsonText

def hexDigit (value : ℕ) : Char :=
  if value < 10 then .ofNat (48 + value) else .ofNat (87 + value)

def hexValue (digit : Char) : ℕ :=
  if digit.toNat < 58 then digit.toNat - 48 else digit.toNat - 87

theorem hexValue_hexDigit {value : ℕ} (hvalue : value < 16) :
    hexValue (hexDigit value) = value := by
  revert value
  decide

def shortEscape (char : Char) : Option Char :=
  if char = '"' then some '"'
  else if char = '\\' then some '\\'
  else if char.toNat = 8 then some 'b'
  else if char.toNat = 9 then some 't'
  else if char.toNat = 10 then some 'n'
  else if char.toNat = 12 then some 'f'
  else if char.toNat = 13 then some 'r'
  else none

def escape (char : Char) : List Char :=
  match shortEscape char with
  | some letter => ['\\', letter]
  | none =>
    if char.toNat < 32 then
      ['\\', 'u', '0', '0', hexDigit (char.toNat / 16),
        hexDigit (char.toNat % 16)]
    else [char]

def shortEscaped (letter : Char) : Char :=
  if letter = 'b' then .ofNat 8
  else if letter = 't' then .ofNat 9
  else if letter = 'n' then .ofNat 10
  else if letter = 'f' then .ofNat 12
  else if letter = 'r' then .ofNat 13
  else letter

def readCode : List Char → Option (Char × List Char)
  | _ :: _ :: high :: low :: rest =>
    some (.ofNat (hexValue high * 16 + hexValue low), rest)
  | _ => none

def readChar : List Char → Option (Char × List Char)
  | [] => none
  | char :: rest =>
    if char = '"' then none
    else if char = '\\' then
      match rest with
      | [] => none
      | letter :: tail =>
        if letter = 'u' then readCode tail
        else some (shortEscaped letter, tail)
    else some (char, rest)

theorem shortEscape_eq_some {char letter : Char}
    (hshort : shortEscape char = some letter) :
    letter ≠ 'u' ∧ shortEscaped letter = char := by
  have hnamed : ∀ code : ℕ, char.toNat = code → Char.ofNat code = char := by
    intro code hcode
    rw [← hcode, Char.ofNat_toNat]
  unfold shortEscape at hshort
  split at hshort
  case isTrue hchar =>
    cases hshort
    rw [hchar]
    decide
  split at hshort
  case isTrue hchar =>
    cases hshort
    rw [hchar]
    decide
  split at hshort
  case isTrue hcode => cases hshort; exact ⟨by decide, hnamed 8 hcode⟩
  split at hshort
  case isTrue hcode => cases hshort; exact ⟨by decide, hnamed 9 hcode⟩
  split at hshort
  case isTrue hcode => cases hshort; exact ⟨by decide, hnamed 10 hcode⟩
  split at hshort
  case isTrue hcode => cases hshort; exact ⟨by decide, hnamed 12 hcode⟩
  split at hshort
  case isTrue hcode => cases hshort; exact ⟨by decide, hnamed 13 hcode⟩
  cases hshort

theorem readChar_escape (char : Char) (rest : List Char) :
    readChar (escape char ++ rest) = some (char, rest) := by
  have hbackslash : ('\\' : Char) ≠ '"' := by decide
  cases hshort : shortEscape char with
  | some letter =>
    obtain ⟨hletter, hback⟩ := shortEscape_eq_some hshort
    rw [escape, hshort]
    show readChar ('\\' :: letter :: rest) = some (char, rest)
    rw [readChar, if_neg hbackslash, if_pos rfl, if_neg hletter, hback]
  | none =>
    simp only [escape, hshort]
    by_cases hcontrol : char.toNat < 32
    · have hhigh : hexValue (hexDigit (char.toNat / 16)) = char.toNat / 16 :=
        hexValue_hexDigit (by omega)
      have hlow : hexValue (hexDigit (char.toNat % 16)) = char.toNat % 16 :=
        hexValue_hexDigit (Nat.mod_lt _ (by omega))
      rw [if_pos hcontrol]
      show readChar ('\\' :: 'u' :: '0' :: '0' :: hexDigit (char.toNat / 16) ::
        hexDigit (char.toNat % 16) :: rest) = some (char, rest)
      rw [readChar, if_neg hbackslash, if_pos rfl, if_pos rfl, readCode, hhigh,
        hlow, Nat.div_add_mod', Char.ofNat_toNat]
    · have hquote : char ≠ '"' := by
        intro heq
        rw [heq] at hshort
        cases hshort
      have hplain : char ≠ '\\' := by
        intro heq
        rw [heq] at hshort
        cases hshort
      rw [if_neg hcontrol, List.singleton_append, readChar.eq_def]
      simp only [if_neg hquote, if_neg hplain]

def quoted (text : List Char) : List Char :=
  '"' :: (text.flatMap escape ++ ['"'])

variable {others rest : List Char}

theorem escaped_append_inj {first second : List Char}
    (heq : first.flatMap escape ++ '"' :: rest =
      second.flatMap escape ++ '"' :: others) :
    first = second ∧ rest = others := by
  have hend : ∀ tail : List Char, readChar ('"' :: tail) = none := fun _ => rfl
  induction first generalizing second with
  | nil =>
    cases second with
    | nil => exact ⟨rfl, (List.cons.inj heq).2⟩
    | cons char more =>
      have hread := congrArg readChar heq
      rw [List.flatMap_cons, List.append_assoc, readChar_escape] at hread
      rw [List.flatMap_nil, List.nil_append, hend] at hread
      cases hread
  | cons char more ih =>
    have hread := congrArg readChar heq
    rw [List.flatMap_cons, List.append_assoc, readChar_escape] at hread
    cases second with
    | nil =>
      rw [List.flatMap_nil, List.nil_append, hend] at hread
      cases hread
    | cons char' more' =>
      rw [List.flatMap_cons, List.append_assoc, readChar_escape] at hread
      obtain ⟨hchar, hmore⟩ := Prod.mk.inj (Option.some.inj hread)
      obtain ⟨htexts, hrest⟩ := ih hmore
      rw [hchar, htexts]
      exact ⟨rfl, hrest⟩

theorem quoted_append_inj {first second : List Char}
    (heq : quoted first ++ rest = quoted second ++ others) :
    first = second ∧ rest = others := by
  apply escaped_append_inj
  have htail := (List.cons.inj heq).2
  simpa [List.append_assoc] using htail

def moreItems : List (List Char) → List Char
  | [] => [']']
  | item :: rest => ',' :: (quoted item ++ moreItems rest)

def array : List (List Char) → List Char
  | [] => ['[', ']']
  | item :: rest => '[' :: (quoted item ++ moreItems rest)

theorem moreItems_append_inj {first second : List (List Char)}
    (heq : moreItems first ++ rest = moreItems second ++ others) :
    first = second ∧ rest = others := by
  induction first generalizing second with
  | nil =>
    cases second with
    | nil => exact ⟨rfl, (List.cons.inj heq).2⟩
    | cons item more => exact absurd (List.cons.inj heq).1 (by decide)
  | cons item more ih =>
    cases second with
    | nil => exact absurd (List.cons.inj heq).1 (by decide)
    | cons item' more' =>
      have htail := (List.cons.inj heq).2
      rw [List.append_eq, List.append_assoc, List.append_eq,
        List.append_assoc] at htail
      obtain ⟨hitem, hmore⟩ := quoted_append_inj htail
      obtain ⟨hitems, hrest⟩ := ih hmore
      rw [hitem, hitems]
      exact ⟨rfl, hrest⟩

theorem array_append_inj {first second : List (List Char)}
    (heq : array first ++ rest = array second ++ others) :
    first = second ∧ rest = others := by
  cases first with
  | nil =>
    cases second with
    | nil => exact ⟨rfl, (List.cons.inj (List.cons.inj heq).2).2⟩
    | cons item more =>
      exact absurd (List.cons.inj (List.cons.inj heq).2).1 (by decide)
  | cons item more =>
    cases second with
    | nil => exact absurd (List.cons.inj (List.cons.inj heq).2).1 (by decide)
    | cons item' more' =>
      have hitems : moreItems (item :: more) ++ rest =
          moreItems (item' :: more') ++ others :=
        congrArg (List.cons ',') (List.cons.inj heq).2
      exact moreItems_append_inj hitems

inductive Field
  | text (value : List Char)
  | names (values : List (List Char))
deriving DecidableEq

def Field.sameKind : Field → Field → Bool
  | .text _, .text _ => true
  | .names _, .names _ => true
  | _, _ => false

def Field.json : Field → List Char
  | .text value => quoted value
  | .names values => array values

theorem Field.json_append_inj {first second : Field}
    (hkind : first.sameKind second = true)
    (heq : first.json ++ rest = second.json ++ others) :
    first = second ∧ rest = others := by
  cases first with
  | text value =>
    cases second with
    | text value' =>
      obtain ⟨hvalue, hrest⟩ := quoted_append_inj heq
      rw [hvalue]
      exact ⟨rfl, hrest⟩
    | names values => cases hkind
  | names values =>
    cases second with
    | text value => cases hkind
    | names values' =>
      obtain ⟨hvalues, hrest⟩ := array_append_inj heq
      rw [hvalues]
      exact ⟨rfl, hrest⟩

def members : Char → List (List Char × Field) → List Char
  | _, [] => ['\x7d']
  | sign, (key, field) :: rest =>
    sign :: (quoted key ++ ':' :: (field.json ++ members ',' rest))

def object (fields : List (List Char × Field)) : List Char :=
  members '\x7b' fields

def SameShape (first second : List (List Char × Field)) : Prop :=
  List.Forall₂ (fun left right => left.1 = right.1 ∧
    left.2.sameKind right.2 = true) first second

theorem members_inj {sign : Char} {first second : List (List Char × Field)}
    (hshape : SameShape first second)
    (heq : members sign first = members sign second) : first = second := by
  induction hshape generalizing sign with
  | nil => rfl
  | @cons left right first second hhead _ ih =>
    obtain ⟨key, field⟩ := left
    obtain ⟨key', field'⟩ := right
    have htail := (List.cons.inj heq).2
    obtain ⟨hkey, hafter⟩ := quoted_append_inj htail
    have hkind : field.sameKind field' = true := hhead.2
    obtain ⟨hfield, hmore⟩ := Field.json_append_inj hkind
      (List.cons.inj hafter).2
    rw [hkey, hfield, ih hmore]

theorem object_inj {first second : List (List Char × Field)}
    (hshape : SameShape first second) (heq : object first = object second) :
    first = second :=
  members_inj hshape heq

end PycloudParallel.JsonText
