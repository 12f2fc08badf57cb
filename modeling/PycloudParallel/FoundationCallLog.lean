import Mathlib.Data.List.Basic

/-!
# Computations that note what they call

A computation may raise, and notes the functions that it calls, also those that
it called before it raised.  `Keeps` says that all its calls are of a kind,
`Calls` that it returns nothing without a call.
-/

namespace PycloudParallel

variable {ε ι β γ : Type}

abbrev CallLog (ε ι β : Type) := ExceptT ε (StateM (List ι)) β

namespace CallLog

def runFrom (computation : CallLog ε ι β) (before : List ι) :
    Except ε β × List ι :=
  computation.run.run before

def calls (computation : CallLog ε ι β) : List ι :=
  (computation.runFrom []).2

def outcome (computation : CallLog ε ι β) : Except ε β :=
  (computation.runFrom []).1

def lift (result : Except ε β) : CallLog ε ι β :=
  ExceptT.mk (pure result)

def call (name : ι) (result : Except ε β) : CallLog ε ι β :=
  ExceptT.mk do
    modify (· ++ [name])
    pure result

@[simp] theorem runFrom_lift (result : Except ε β) (before : List ι) :
    (lift result).runFrom before = (result, before) := rfl

@[simp] theorem runFrom_call (name : ι) (result : Except ε β)
    (before : List ι) :
    (call name result).runFrom before = (result, before ++ [name]) := rfl

theorem runFrom_bind (first : CallLog ε ι β) (rest : β → CallLog ε ι γ)
    (before : List ι) :
    (first >>= rest).runFrom before =
      match first.runFrom before with
      | (.ok value, behind) => (rest value).runFrom behind
      | (.error error, behind) => (.error error, behind) := by
  simp only [runFrom, ExceptT.run_bind, StateT.run_bind]
  generalize StateT.run (ExceptT.run first) before = ran
  obtain ⟨result, behind⟩ := ran
  cases result <;> rfl

def Keeps (kind : ι → Prop) (computation : CallLog ε ι β) : Prop :=
  ∀ before, (∀ name ∈ before, kind name) →
    ∀ name ∈ (computation.runFrom before).2, kind name

def Calls (computation : CallLog ε ι β) : Prop :=
  ∀ before value, (computation.runFrom before).1 = .ok value →
    (computation.runFrom before).2 ≠ []

section Rules

variable {kind : ι → Prop} {first : CallLog ε ι β} {rest : β → CallLog ε ι γ}

theorem keeps_lift (result : Except ε β) :
    Keeps kind (lift result : CallLog ε ι β) :=
  fun _ hbefore => hbefore

theorem keeps_call {name : ι} (hname : kind name) (result : Except ε β) :
    Keeps kind (call name result) := by
  intro before hbefore other hother
  rw [runFrom_call, List.mem_append, List.mem_singleton] at hother
  obtain hold | rfl := hother
  · exact hbefore other hold
  · exact hname

theorem Keeps.bind (hfirst : Keeps kind first)
    (hrest : ∀ value, Keeps kind (rest value)) :
    Keeps kind (first >>= rest) := by
  intro before hbefore
  have hbehind := hfirst before hbefore
  rw [runFrom_bind]
  split
  · next value behind hrun =>
    rw [hrun] at hbehind
    exact hrest value behind hbehind
  · next error behind hrun =>
    rw [hrun] at hbehind
    exact hbehind

theorem keeps_lift_bind {result : Except ε β}
    (hrest : ∀ value, result = .ok value → Keeps kind (rest value)) :
    Keeps kind (lift result >>= rest) := by
  intro before hbefore
  rw [runFrom_bind, runFrom_lift]
  cases result with
  | ok value => exact hrest value rfl before hbefore
  | error error => exact hbefore

theorem calls_call (name : ι) (result : Except ε β) :
    Calls (call name result) := by
  intro before value _
  rw [runFrom_call]
  exact List.append_ne_nil_of_right_ne_nil before (List.cons_ne_nil name [])

theorem calls_bind (hrest : ∀ value, Calls (rest value)) :
    Calls (first >>= rest) := by
  intro before value
  rw [runFrom_bind]
  split
  · exact hrest _ _ value
  · intro hraised
    cases hraised

theorem calls_error (error : ε) : Calls (lift (.error error) : CallLog ε ι β) := by
  intro before value hraised
  cases hraised

theorem Keeps.calls (hkeeps : Keeps kind first) {name : ι}
    (hname : name ∈ first.calls) : kind name :=
  hkeeps [] (fun _ hnone => absurd hnone List.not_mem_nil) name hname

theorem Calls.calls_ne_nil (hcalls : Calls first) {value : β}
    (hvalue : first.outcome = .ok value) : first.calls ≠ [] :=
  hcalls [] value hvalue

end Rules

end CallLog

end PycloudParallel
