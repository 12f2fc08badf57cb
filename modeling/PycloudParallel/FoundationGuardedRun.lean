import Mathlib.Data.Nat.Notation
import Mathlib.Data.Option.Basic
import Mathlib.Logic.Relation

/-!
# Guarded runs of a labelled step function

A system is given by a partial step function `step : σ → ℓ → Option σ`: the
label names the party that moves and carries whatever the outside world
answers, and `none` means that the move is not enabled.  A run is a finite
sequence of enabled steps.

A *guarded* run is one whose every step meets a condition on the state before
it.  The plain notion of a reachable state is the case where the condition is
always true.  Safety properties are proved once per step and lifted here.
-/

namespace PycloudParallel

section

variable {σ ℓ : Type*} {step : σ → ℓ → Option σ} {ok : σ → ℓ → Prop}

/-- `GuardedRun step ok s t`: the state `t` is reached from `s` by steps that
all meet `ok` in the state they are taken from. -/
inductive GuardedRun (step : σ → ℓ → Option σ) (ok : σ → ℓ → Prop)
    (start : σ) : σ → Prop
  | refl : GuardedRun step ok start start
  | tail {mid last : σ} (label : ℓ) :
      GuardedRun step ok start mid → ok mid label →
        step mid label = some last → GuardedRun step ok start last

def Reachable (step : σ → ℓ → Option σ) (start last : σ) : Prop :=
  GuardedRun step (fun _ _ => True) start last

variable {last start : σ}

theorem GuardedRun.invariant (good : σ → Prop)
    (hrun : GuardedRun step ok start last) (hstart : good start)
    (hstep : ∀ s label t, good s → ok s label → step s label = some t → good t)
    : good last := by
  induction hrun with
  | refl => exact hstart
  | tail label _ hok htake hgood => exact hstep _ label _ hgood hok htake

theorem GuardedRun.mono {weaker : σ → ℓ → Prop}
    (hrun : GuardedRun step ok start last)
    (himp : ∀ s label, ok s label → weaker s label) :
    GuardedRun step weaker start last := by
  induction hrun with
  | refl => exact .refl
  | tail label _ hok htake hprev => exact .tail label hprev (himp _ _ hok) htake

theorem GuardedRun.reachable (hrun : GuardedRun step ok start last) :
    Reachable step start last :=
  hrun.mono fun _ _ _ => trivial

theorem invariant_of_reflTransGen {τ : Type*} {update : τ → τ → Prop}
    (good : τ → Prop) (hpreserved : ∀ a b, good a → update a b → good b)
    {a b : τ} (hmany : Relation.ReflTransGen update a b) (ha : good a) :
    good b := by
  induction hmany with
  | refl => exact ha
  | tail _ hlast hgood => exact hpreserved _ _ hgood hlast

/-- Refinement of an abstract system: under an abstract invariant every guarded
step is matched by abstract updates, so every guarded run is.  The invariant
is established on the way. -/
theorem GuardedRun.simulates {τ : Type*} {update : τ → τ → Prop}
    (good : τ → Prop) (view : σ → τ) (hrun : GuardedRun step ok start last)
    (hstart : good (view start))
    (hpreserved : ∀ a b, good a → update a b → good b)
    (hmatch : ∀ s label t, good (view s) → ok s label →
      step s label = some t → Relation.ReflTransGen update (view s) (view t)) :
    Relation.ReflTransGen update (view start) (view last) := by
  have hboth :
      Relation.ReflTransGen update (view start) (view last) ∧
        good (view last) := by
    refine hrun.invariant
      (fun s => Relation.ReflTransGen update (view start) (view s) ∧
        good (view s)) ⟨.refl, hstart⟩ ?_
    rintro s label t ⟨hsofar, hgood⟩ hok htake
    have hmany := hmatch s label t hgood hok htake
    exact ⟨hsofar.trans hmany,
      invariant_of_reflTransGen good hpreserved hmany hgood⟩
  exact hboth.1

/-- Execute a list of labels; `none` if one of them is not enabled. -/
def runLabels (step : σ → ℓ → Option σ) : σ → List ℓ → Option σ
  | s, [] => some s
  | s, label :: rest =>
    match step s label with
    | none => none
    | some t => runLabels step t rest

/-- Execute a list of labels and stop with `none` at the first step that does
not meet the (decidable) condition. -/
def checkedRun (step : σ → ℓ → Option σ) (ok : σ → ℓ → Prop)
    [∀ s label, Decidable (ok s label)] : σ → List ℓ → Option σ
  | s, [] => some s
  | s, label :: rest =>
    if ok s label then
      match step s label with
      | none => none
      | some t => checkedRun step ok t rest
    else none

theorem runLabels_append (start : σ) (first second : List ℓ) :
    runLabels step start (first ++ second) =
      (runLabels step start first).bind fun mid => runLabels step mid second := by
  induction first generalizing start with
  | nil => rfl
  | cons label rest ih =>
    simp only [List.cons_append, runLabels]
    cases step start label with
    | none => rfl
    | some mid => exact ih mid

theorem runLabels_length_le (measure : σ → ℕ) {lowers : ℓ → Prop}
    (hless : ∀ s label t, lowers label → step s label = some t → measure t < measure s)
    (labels : List ℓ) (hall : ∀ label ∈ labels, lowers label)
    (hrun : runLabels step start labels = some last) :
    labels.length + measure last ≤ measure start := by
  induction labels generalizing start with
  | nil =>
    cases hrun
    exact Nat.le_of_eq (Nat.zero_add _)
  | cons label rest ih =>
    simp only [runLabels] at hrun
    cases htake : step start label with
    | none =>
      rw [htake] at hrun
      cases hrun
    | some mid =>
      rw [htake] at hrun
      have hfirst := hless start label mid (hall label List.mem_cons_self) htake
      have hrest := ih (fun other hmem => hall other (List.mem_cons_of_mem _ hmem)) hrun
      rw [List.length_cons]
      omega

/-- Where every step lowers the measure, no run goes on for longer than the measure
of its first state. -/
theorem GuardedRun.length_le (measure : σ → ℕ)
    (hless : ∀ s label t, step s label = some t → measure t < measure s)
    (hrun : GuardedRun step ok init start) {labels : List ℓ}
    (hmore : runLabels step start labels = some last) :
    labels.length ≤ measure init := by
  have hstart : measure start ≤ measure init :=
    hrun.invariant (fun s => measure s ≤ measure init) (Nat.le_refl _)
      fun s label t hle _ hstep => Nat.le_trans (Nat.le_of_lt (hless s label t hstep)) hle
  have hlength := runLabels_length_le measure
    (fun s label t (_ : True) => hless s label t) labels (fun _ _ => trivial) hmore
  omega

theorem GuardedRun.prepend {mid : σ} (label : ℓ) (hok : ok start label)
    (htake : step start label = some mid) (hrun : GuardedRun step ok mid last) :
    GuardedRun step ok start last := by
  induction hrun with
  | refl => exact .tail label .refl hok htake
  | tail next _ hnext hstep hprev => exact .tail next hprev hnext hstep

theorem reachable_of_runLabels (labels : List ℓ)
    (hrun : runLabels step start labels = some last) :
    Reachable step start last := by
  induction labels generalizing start with
  | nil =>
    simp only [runLabels, Option.some.injEq] at hrun
    subst hrun
    exact .refl
  | cons label rest ih =>
    simp only [runLabels] at hrun
    split at hrun
    · cases hrun
    · next mid htake => exact .prepend label trivial htake (ih hrun)

theorem guardedRun_of_checkedRun [∀ s label, Decidable (ok s label)]
    (labels : List ℓ) (hrun : checkedRun step ok start labels = some last) :
    GuardedRun step ok start last := by
  induction labels generalizing start with
  | nil =>
    simp only [checkedRun, Option.some.injEq] at hrun
    subst hrun
    exact .refl
  | cons label rest ih =>
    simp only [checkedRun] at hrun
    split at hrun
    · next hok =>
      split at hrun
      · cases hrun
      · next mid htake => exact .prepend label hok htake (ih hrun)
    · cases hrun

end

end PycloudParallel
