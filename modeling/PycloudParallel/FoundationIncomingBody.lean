import Mathlib.Data.List.TakeDrop
import Mathlib.Order.Lattice
import Mathlib.Data.Nat.Notation

/-!
# The body of a response as its reader sees it

A body has the length that was announced for it, the items that still arrive,
and the way in which the connection ends behind them.  A read with an amount
gives a shorter chunk where the connection is closed, and an empty one from
there on; a read of the whole body misses what was announced.
-/

namespace PycloudParallel

inductive StreamEnd
  | closed
  | reset
deriving DecidableEq

structure IncomingBody (α : Type*) where
  length : Option ℕ
  rest : List α
  ending : StreamEnd

namespace IncomingBody

variable {α : Type*}

def nextChunk (amount : ℕ) (body : IncomingBody α) : List α :=
  match body.length with
  | none => body.rest.take amount
  | some left => body.rest.take (min left amount)

def skip (body : IncomingBody α) (count : ℕ) : IncomingBody α where
  length := body.length.map fun left => left - count
  rest := body.rest.drop count
  ending := body.ending

def read (amount : ℕ) (body : IncomingBody α) :
    Option (List α × IncomingBody α) :=
  let chunk := body.nextChunk amount
  if chunk = [] ∧ body.length ≠ some 0 ∧ body.ending = .reset then none
  else some (chunk, body.skip chunk.length)

def readAll (body : IncomingBody α) : Option (List α) :=
  match body.length with
  | none => if body.ending = .closed then some body.rest else none
  | some left =>
    if left ≤ body.rest.length then some (body.rest.take left) else none

def delivered (body : IncomingBody α) : List α :=
  match body.length with
  | none => body.rest
  | some left => body.rest.take left

def finishes (body : IncomingBody α) : Bool :=
  body.ending = .closed ||
    match body.length with
    | none => false
    | some left => left ≤ body.rest.length

theorem nextChunk_length_le (amount : ℕ) (body : IncomingBody α) :
    (body.nextChunk amount).length ≤ body.rest.length := by
  rw [nextChunk.eq_def]
  split <;> exact List.length_take_le' _ _

variable {amount : ℕ} {body : IncomingBody α}

theorem read_eq_none_iff :
    body.read amount = none ↔ body.nextChunk amount = [] ∧
      body.length ≠ some 0 ∧ body.ending = .reset := by
  rw [read]
  split
  case isTrue hends => exact ⟨fun _ => hends, fun _ => rfl⟩
  case isFalse hends => exact ⟨nofun, fun hfails => (hends hfails).elim⟩

theorem read_eq_some_iff {next : IncomingBody α} {chunk : List α} :
    body.read amount = some (chunk, next) ↔ body.nextChunk amount = chunk ∧
      (chunk = [] → body.length ≠ some 0 → body.ending = .closed) ∧
        next = body.skip chunk.length := by
  rw [read]
  split
  case isTrue hends =>
    refine ⟨nofun, fun hall => ?_⟩
    have hclosed := hall.2.1 (hall.1.symm.trans hends.1) hends.2.1
    rw [hends.2.2] at hclosed
    cases hclosed
  case isFalse hends =>
    rw [Option.some.injEq, Prod.mk.injEq]
    constructor
    · intro hread
      obtain ⟨hpiece, hnext⟩ := hread
      refine ⟨hpiece, fun hchunk hlength => ?_, ?_⟩
      · cases hending : body.ending with
        | closed => rfl
        | reset =>
          exact (hends ⟨hpiece.trans hchunk, hlength, hending⟩).elim
      · rw [← hnext, hpiece]
    · intro hall
      refine ⟨hall.1, ?_⟩
      rw [hall.1, hall.2.2]

theorem rest_length_lt_of_read {next : IncomingBody α} {chunk : List α}
    (hread : body.read amount = some (chunk, next)) (hchunk : chunk ≠ []) :
    next.rest.length < body.rest.length := by
  obtain ⟨hpiece, _, hnext⟩ := read_eq_some_iff.mp hread
  have hpositive := List.length_pos_iff.mpr hchunk
  have hle := nextChunk_length_le amount body
  rw [hpiece] at hle
  rw [hnext, skip, List.length_drop]
  omega

/-- The chunks that a loop copies until it reads an empty one, and whether it
ends without an exception.  The amounts of its reads are arbitrary. -/
def copy (amounts : ℕ → ℕ) (turn : ℕ) (body : IncomingBody α) :
    List (List α) × Bool :=
  match hread : body.read (max 1 (amounts turn)) with
  | none => ([], false)
  | some (chunk, next) =>
    if hchunk : chunk = [] then ([], true)
    else
      let copied := next.copy amounts (turn + 1)
      (chunk :: copied.1, copied.2)
termination_by body.rest.length
decreasing_by exact rest_length_lt_of_read hread hchunk

theorem nextChunk_length (amount : ℕ) (body : IncomingBody α) :
    body.rest.take (body.nextChunk amount).length = body.nextChunk amount := by
  rw [nextChunk.eq_def]
  split <;>
  · rw [List.length_take, List.take_eq_take_iff]
    omega

theorem delivered_eq_append (amount : ℕ) (body : IncomingBody α) :
    body.delivered = body.nextChunk amount ++
      (body.skip (body.nextChunk amount).length).delivered := by
  have hchunk := nextChunk_length amount body
  rw [delivered.eq_def, delivered.eq_def]
  cases hlength : body.length with
  | none =>
    simp only [skip, hlength, Option.map_none]
    calc body.rest = body.rest.take (body.nextChunk amount).length ++
          body.rest.drop (body.nextChunk amount).length :=
        (List.take_append_drop _ _).symm
      _ = _ := by rw [hchunk]
  | some left =>
    have hle : (body.nextChunk amount).length ≤ left := by
      rw [nextChunk, hlength, List.length_take]
      omega
    have hsplit : left = (body.nextChunk amount).length +
        (left - (body.nextChunk amount).length) := by
      omega
    simp only [skip, hlength, Option.map_some]
    conv_lhs => rw [hsplit, List.take_add, hchunk]

theorem finishes_skip (amount : ℕ) (body : IncomingBody α) :
    (body.skip (body.nextChunk amount).length).finishes = body.finishes := by
  have hrest := nextChunk_length_le amount body
  rw [finishes.eq_def, finishes.eq_def]
  cases hlength : body.length with
  | none => simp only [skip, hlength, Option.map_none]
  | some left =>
    have hleft : (body.nextChunk amount).length ≤ left := by
      rw [nextChunk, hlength, List.length_take]
      omega
    have hiff : left - (body.nextChunk amount).length ≤
        body.rest.length - (body.nextChunk amount).length ↔
          left ≤ body.rest.length := by
      omega
    simp [skip, hlength, hiff]

theorem delivered_of_nextChunk_nil (hamount : 0 < amount)
    (hchunk : body.nextChunk amount = []) :
    body.delivered = [] ∧ (body.length ≠ some 0 → body.rest = []) := by
  rw [nextChunk.eq_def] at hchunk
  rw [delivered.eq_def]
  cases hlength : body.length with
  | none =>
    rw [hlength] at hchunk
    have hrest := (List.take_eq_nil_iff.mp hchunk).resolve_left (by omega)
    exact ⟨hrest, fun _ => hrest⟩
  | some left =>
    rw [hlength] at hchunk
    cases List.take_eq_nil_iff.mp hchunk with
    | inl hzero =>
      have hleft : left = 0 := by omega
      exact ⟨List.take_eq_nil_iff.mpr (Or.inl hleft), fun hne =>
        absurd (congrArg some hleft) hne⟩
    | inr hrest =>
      exact ⟨List.take_eq_nil_iff.mpr (Or.inr hrest), fun _ => hrest⟩

theorem copy_eq (amounts : ℕ → ℕ) (turn : ℕ) (body : IncomingBody α) :
    (body.copy amounts turn).1.flatten = body.delivered ∧
      (body.copy amounts turn).2 = body.finishes := by
  fun_induction copy amounts turn body with
  | case1 turn body hread =>
    obtain ⟨hchunk, hlength, hending⟩ := read_eq_none_iff.mp hread
    obtain ⟨hdelivered, hrest⟩ :=
      delivered_of_nextChunk_nil (Nat.le_max_left 1 _) hchunk
    refine ⟨hdelivered.symm, ?_⟩
    rw [finishes.eq_def, hending, hrest hlength]
    cases hleft : body.length with
    | none => rfl
    | some left =>
      rw [hleft, ne_eq, Option.some.injEq] at hlength
      simp only [List.length_nil, Nat.le_zero_eq, hlength]
      rfl
  | case2 turn body next hread =>
    obtain ⟨hchunk, hends, _⟩ := read_eq_some_iff.mp hread
    obtain ⟨hdelivered, hrest⟩ :=
      delivered_of_nextChunk_nil (Nat.le_max_left 1 _) hchunk
    refine ⟨hdelivered.symm, ?_⟩
    rw [finishes.eq_def]
    by_cases hlength : body.length = some 0
    · rw [hlength]
      simp
    · have hending := hends rfl hlength
      simp [hending]
  | case3 turn body chunk next hread hchunk copied ih =>
    obtain ⟨hpiece, _, hnext⟩ := read_eq_some_iff.mp hread
    constructor
    · rw [List.flatten_cons, ih.1, hnext, ← hpiece]
      exact (delivered_eq_append _ body).symm
    · show copied.2 = body.finishes
      rw [ih.2, hnext, ← hpiece, finishes_skip]

end IncomingBody

end PycloudParallel
