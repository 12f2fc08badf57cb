import Mathlib.Data.List.Basic

/-!
# Trying candidates in turn

A caller takes candidates from a source, one after the other and no key twice,
until one of them finishes the call or the source gives none that is new.  The
source is a tape: the candidates in the order in which it would give them.
-/

namespace PycloudParallel

universe u v w x

/-- What one candidate comes to: the call ends, or another candidate is tried. -/
inductive Judgement (ω : Type u) (ε : Type v)
  | finish (ending : ω)
  | another (error : ε)

inductive GiveUp
  | noCandidate
  | repeated
deriving DecidableEq

structure FailoverTape (α : Type w) (ω : Type u) where
  attempts : List α
  ending : ω

def FailoverTape.precededBy {α : Type w} {ω : Type u} (candidate : α)
    (tape : FailoverTape α ω) : FailoverTape α ω :=
  { tape with attempts := candidate :: tape.attempts }

theorem FailoverTape.mem_getLast?_precededBy {α : Type w} {ω : Type u}
    {candidate last : α} {tape : FailoverTape α ω}
    (hlast : last ∈ (tape.precededBy candidate).attempts.getLast?) :
    tape.attempts = [] ∧ last = candidate ∨ last ∈ tape.attempts.getLast? := by
  rw [precededBy, List.getLast?_cons] at hlast
  cases hattempts : tape.attempts.getLast? with
  | none =>
    rw [hattempts] at hlast
    exact .inl ⟨List.getLast?_eq_none_iff.mp hattempts, (Option.some.inj hlast).symm⟩
  | some found =>
    rw [hattempts] at hlast
    exact .inr hlast

variable {α : Type w} {κ : Type x} {ω : Type u} {ε : Type v} [DecidableEq κ]
variable (key : α → κ) (judge : α → Judgement ω ε)
variable (giveUp : GiveUp → Option ε → ω)

def tryEach : List α → List κ → Option ε → FailoverTape α ω
  | [], _, last => ⟨[], giveUp .noCandidate last⟩
  | candidate :: rest, tried, last =>
    if key candidate ∈ tried then ⟨[], giveUp .repeated last⟩
    else
      match judge candidate with
      | .finish ending => ⟨[candidate], ending⟩
      | .another error =>
        (tryEach rest (key candidate :: tried) (some error)).precededBy candidate

variable {key judge giveUp}

variable {candidate : α} {last : Option ε} {rest : List α} {tried : List κ}

theorem tryEach_repeated (htried : key candidate ∈ tried) :
    tryEach key judge giveUp (candidate :: rest) tried last =
      ⟨[], giveUp .repeated last⟩ := by
  rw [tryEach, if_pos htried]

theorem tryEach_finish {ending : ω} (hfresh : key candidate ∉ tried)
    (hjudge : judge candidate = .finish ending) :
    tryEach key judge giveUp (candidate :: rest) tried last =
      ⟨[candidate], ending⟩ := by
  rw [tryEach, if_neg hfresh, hjudge]

theorem tryEach_another {error : ε} (hfresh : key candidate ∉ tried)
    (hjudge : judge candidate = .another error) :
    tryEach key judge giveUp (candidate :: rest) tried last =
      (tryEach key judge giveUp rest (key candidate :: tried)
        (some error)).precededBy candidate := by
  rw [tryEach, if_neg hfresh, hjudge]

theorem tryEach_reached {before after : List α} (hnew : candidate ∉ before)
    (hreached : candidate ∈
      (tryEach key judge giveUp (before ++ candidate :: after) tried
        last).attempts) :
    ∃ keys error, key candidate ∉ keys ∧
      tryEach key judge giveUp (before ++ candidate :: after) tried last =
        before.foldr FailoverTape.precededBy
          (tryEach key judge giveUp (candidate :: after) keys error) := by
  induction before generalizing tried last with
  | nil =>
    refine ⟨tried, last, ?_, rfl⟩
    intro htried
    rw [List.nil_append, tryEach_repeated htried] at hreached
    exact List.not_mem_nil hreached
  | cons first before ih =>
    rw [List.mem_cons, not_or] at hnew
    rw [List.cons_append] at hreached ⊢
    by_cases htried : key first ∈ tried
    · rw [tryEach_repeated htried] at hreached
      exact absurd hreached List.not_mem_nil
    · cases hjudge : judge first with
      | finish ending =>
        rw [tryEach_finish htried hjudge, List.mem_singleton] at hreached
        exact absurd hreached hnew.1
      | another error =>
        rw [tryEach_another htried hjudge] at hreached
        have hrest : candidate ∈ (tryEach key judge giveUp
            (before ++ candidate :: after) (key first :: tried)
            (some error)).attempts :=
          (List.mem_cons.mp hreached).resolve_left hnew.1
        obtain ⟨keys, lastError, hfresh, heq⟩ := ih hnew.2 hrest
        refine ⟨keys, lastError, hfresh, ?_⟩
        rw [tryEach_another htried hjudge, heq, List.foldr_cons]

theorem FailoverTape.attempts_foldr_precededBy (before : List α)
    (tape : FailoverTape α ω) :
    (before.foldr FailoverTape.precededBy tape).attempts =
      before ++ tape.attempts := by
  induction before with
  | nil => rfl
  | cons first before ih =>
    rw [List.foldr_cons, FailoverTape.precededBy, ih, List.cons_append]

theorem FailoverTape.ending_foldr_precededBy (before : List α)
    (tape : FailoverTape α ω) :
    (before.foldr FailoverTape.precededBy tape).ending = tape.ending := by
  induction before with
  | nil => rfl
  | cons first before ih =>
    rw [List.foldr_cons, FailoverTape.precededBy, ih]

theorem tryEach_ends_at {before after : List α} {ending : ω}
    (hnew : candidate ∉ before) (hjudge : judge candidate = .finish ending)
    (hreached : candidate ∈
      (tryEach key judge giveUp (before ++ candidate :: after) tried
        last).attempts) :
    tryEach key judge giveUp (before ++ candidate :: after) tried last =
      ⟨before ++ [candidate], ending⟩ := by
  obtain ⟨keys, error, hfresh, heq⟩ := tryEach_reached hnew hreached
  rw [heq, tryEach_finish hfresh hjudge]
  have hattempts := FailoverTape.attempts_foldr_precededBy before
    (⟨[candidate], ending⟩ : FailoverTape α ω)
  have hending := FailoverTape.ending_foldr_precededBy before
    (⟨[candidate], ending⟩ : FailoverTape α ω)
  rw [← hattempts]
  exact congrArg (FailoverTape.mk _) hending

theorem tryEach_goes_on {first second : α} {error : ε}
    (hfirst : key first ∉ tried) (hsecond : key second ∉ key first :: tried)
    (hjudge : judge first = .another error) :
    (tryEach key judge giveUp [first, second] tried last).attempts =
      [first, second] := by
  rw [tryEach_another hfirst hjudge]
  cases hnext : judge second with
  | finish ending =>
    rw [tryEach_finish hsecond hnext]
    rfl
  | another error =>
    rw [tryEach_another hsecond hnext]
    rfl

end PycloudParallel
