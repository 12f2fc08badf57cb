import PycloudParallel.HttpPoolRuns

/-!
# The pool is exact and wakes the right request

In every run without an exception of a constructor, and in which each release
wakes a request of its own origin if one is blocked there, the counts are exact,
no connection is handed out twice or lost, and no request waits for what is free.
-/

namespace PycloudParallel.HttpPool

open Parties

variable {ω : Type} [DecidableEq ω] {settings : PoolSettings}
  {casing : Texts.Casing} {s : Pool ω}

structure Sound (settings : PoolSettings) (casing : Texts.Casing)
    (s : Pool ω) : Prop where
  counted : s.isClosed = false → ∀ origin,
    (s.originState origin).connectionCount =
      s.inUse origin + (s.originState origin).idle.length
  limited : ∀ origin,
    (s.originState origin).connectionCount ≤ settings.maxConnections
  /-- No connection is with two requests. -/
  single : ∀ (first second : ℕ) (request other : Request ω)
      (connection : Connection ω),
    s.requests[first]? = some request → s.requests[second]? = some other →
      connection ∈ request.held → connection ∈ other.held → first = second
  /-- Each connection that was made is with a request or with `close`, idle, or
  closed. -/
  kept : ∀ connection, connection.number < s.opened connection.origin →
    (∃ request ∈ s.requests, connection ∈ request.held) ∨
      connection ∈ s.leaving ∨
      connection ∈ (s.originState connection.origin).idleConnections ∨
      connection ∈ s.closed
  /-- A request that has a connection goes on. -/
  enabled : ∀ request ∈ s.requests, request.held ≠ [] →
    ∃ label, (s.step settings casing label).isSome = true
  awake : ∀ request ∈ s.requests, request.isBlocked = true →
    (s.originState request.origin).idle ≠ [] ∨
      (s.originState request.origin).connectionCount <
        settings.maxConnections →
    ∃ other ∈ s.requests, other.origin = request.origin ∧
      other.isWoken = true

theorem covered_empty : Covered settings (Pool.empty : Pool ω) where
  covers _ _ := le_rfl
  bounded _ := settings.connections_pos.le
  homes _ _ hmem := absurd hmem List.not_mem_nil
  placed _ hmem := absurd hmem List.not_mem_nil
  unstale _ hmem := absurd hmem List.not_mem_nil
  emptied hclosed := by cases hclosed

theorem exact_empty : Exact (Pool.empty : Pool ω) where
  counted _ _ := rfl
  located _ := rfl

theorem awake_empty : Awake settings (Pool.empty : Pool ω) where
  woken _ _ hsome := absurd hsome (lt_irrefl 0)
  unblocked hclosed := by cases hclosed

def Undisturbed (s : Pool ω) (label : Label ω) : Prop :=
  label.Constructs ∧ WakesOwn s label

instance (s : Pool ω) (label : Label ω) : Decidable (Undisturbed s label) :=
  inferInstanceAs (Decidable (_ ∧ _))

theorem invariants_of_run
    (hrun : GuardedRun (Pool.step settings casing) Undisturbed Pool.empty s) :
    Covered settings s ∧ Exact s ∧ Awake settings s := by
  refine hrun.invariant (fun s => Covered settings s ∧ Exact s ∧
    Awake settings s) ⟨covered_empty, exact_empty, awake_empty⟩ ?_
  rintro before label after ⟨covered, exact, awake⟩ ⟨hconstructs, hown⟩ hstep
  exact ⟨covered.step hstep, exact.step covered hconstructs hstep,
    awake.step covered hown hstep⟩

theorem exists_notify (s : Pool ω) : ∃ wakes, (s.notify wakes).isSome = true := by
  by_cases hsome : s.requests.any Request.isBlocked = true
  · obtain ⟨request, hrequest, hblocked⟩ := List.any_eq_true.mp hsome
    obtain ⟨place, hplace⟩ := List.getElem?_of_mem hrequest
    refine ⟨some place, ?_⟩
    rw [Pool.notify, if_pos hsome, Option.bind_some, hplace, Option.bind_some,
      if_pos hblocked]
    rfl
  · refine ⟨none, ?_⟩
    rw [Pool.notify, if_neg hsome]
    rfl

variable {request : Request ω}

theorem Covered.exists_step (covered : Covered settings s)
    (hrequest : request ∈ s.requests) (hheld : request.held ≠ []) :
    ∃ label, (s.step settings casing label).isSome = true := by
  obtain ⟨place, hplace⟩ := List.getElem?_of_mem hrequest
  have hunstale := covered.unstale request hrequest
  obtain ⟨call, attempt, phase⟩ := request
  cases phase with
  | blocked deadline stale => exact absurd (hunstale (Or.inl rfl)) hheld
  | woken deadline stale => exact absurd (hunstale (Or.inr rfl)) hheld
  | acquired connection stale =>
    refine ⟨.discard place, ?_⟩
    cases stale <;> simp [Pool.step, hplace]
  | exchanging connection =>
    let back := s.putBack settings call.origin connection false 0
    obtain ⟨wakes, hwakes⟩ := exists_notify (back.1.setRequest place
      (if back.2 then ⟨call, attempt, .closing connection false⟩
        else Request.next ⟨call, attempt, .exchanging connection⟩ false))
    refine ⟨.release place 0 .broken wakes, ?_⟩
    simp only [Pool.step, Pool.releaseStep, hplace, Option.bind_some]
    exact hwakes
  | closing connection again =>
    exact ⟨.closeReleased place, by simp [Pool.step, hplace]⟩
  | _ => exact absurd rfl hheld

theorem Exact.single (exact : Exact s) {first second : ℕ} {other : Request ω}
    {connection : Connection ω} (hfirst : s.requests[first]? = some request)
    (hsecond : s.requests[second]? = some other)
    (hheld : connection ∈ request.held) (hother : connection ∈ other.held) :
    first = second := by
  by_contra hne
  have hboth : request.holds connection + other.holds connection ≤
      total (Request.holds connection) s.requests :=
    add_le_total hfirst hsecond hne
  have hone := List.count_pos_iff.mpr hheld
  have htwo := List.count_pos_iff.mpr hother
  have hplaces := exact.located connection
  rw [Pool.places, Pool.isOpened] at hplaces
  rw [Request.holds, Request.holds] at hboth
  split at hplaces <;> omega

theorem Exact.kept (exact : Exact s) {connection : Connection ω}
    (hopened : connection.number < s.opened connection.origin) :
    (∃ request ∈ s.requests, connection ∈ request.held) ∨
      connection ∈ s.leaving ∨
      connection ∈ (s.originState connection.origin).idleConnections ∨
      connection ∈ s.closed := by
  have hplaces := exact.located connection
  rw [Pool.places, Pool.isOpened, if_pos hopened] at hplaces
  by_contra hnowhere
  simp only [not_or, not_exists, not_and] at hnowhere
  obtain ⟨hheld, hleaving, hidle, hclosed⟩ := hnowhere
  have hnone : total (Request.holds connection) s.requests = 0 :=
    total_eq_zero_iff.mpr fun request hrequest =>
      List.count_eq_zero_of_not_mem (hheld request hrequest)
  rw [hnone, List.count_eq_zero_of_not_mem hleaving,
    List.count_eq_zero_of_not_mem hidle,
    List.count_eq_zero_of_not_mem hclosed] at hplaces
  omega

theorem Awake.exists_woken (awake : Awake settings s)
    (covered : Covered settings s) (hrequest : request ∈ s.requests)
    (hblocked : request.isBlocked = true)
    (hfree : (s.originState request.origin).idle ≠ [] ∨
      (s.originState request.origin).connectionCount <
        settings.maxConnections) :
    ∃ other ∈ s.requests, other.origin = request.origin ∧
      other.isWoken = true := by
  have hopen : s.isClosed = false := by
    by_contra hclosed
    rw [Bool.not_eq_false] at hclosed
    rw [awake.unblocked hclosed request hrequest] at hblocked
    cases hblocked
  have hbounded := covered.bounded request.origin
  have hwoken := awake.woken hopen request.origin
    (blockedAt_pos_iff.mpr ⟨request, hrequest, rfl, hblocked⟩)
  have hpos : 0 < s.wokenAt request.origin := by
    rw [OriginState.free] at hwoken
    obtain hidle | hroom := hfree
    · have hlength := List.length_pos_iff.mpr hidle
      omega
    · omega
  obtain ⟨other, hother, hone⟩ := total_pos_iff.mp hpos
  refine ⟨other, hother, ?_⟩
  rw [Request.wakes] at hone
  split at hone
  · next hboth => exact hboth
  · omega

theorem pool_exact_and_wakes_right (settings : PoolSettings)
    (casing : Texts.Casing) (s : Pool ω)
    (hrun : GuardedRun (Pool.step settings casing) Undisturbed Pool.empty s) :
    Sound settings casing s := by
  obtain ⟨covered, exact, awake⟩ := invariants_of_run hrun
  exact {
    counted := exact.counted
    limited := covered.bounded
    single := fun first second request other connection hfirst hsecond =>
      exact.single hfirst hsecond
    kept := fun connection => exact.kept
    enabled := fun request hrequest => covered.exists_step hrequest
    awake := fun request hrequest => awake.exists_woken covered hrequest }

def oneConnection : PoolSettings where
  maxConnections := 1
  maxIdle := 1
  idleTtl := 1
  connections_pos := by decide
  idle_nonneg := by decide

def plainCasing : Texts.Casing := ⟨id, id⟩

def portCall (port : ℕ) : HttpCall ℕ := ⟨port, "POST", 5, none, none⟩

def okResponse : Exchange := .returned ⟨200, false, "", 2⟩

def connects (port place : ℕ) : List (Label ℕ) :=
  [.start (portCall port), .enter place 0, .acquire place 0 false,
    .discard place]

def blocks (port place : ℕ) : List (Label ℕ) :=
  [.start (portCall port), .enter place 0, .acquire place 0 false]

def crossedWakeUp : List (Label ℕ) :=
  connects 80 0 ++ connects 81 1 ++ blocks 80 2 ++ blocks 81 3 ++
    [.release 0 1 okResponse (some 3), .acquire 3 1 false]

def isForgotten (s : Pool ℕ) (request : Request ℕ) : Bool :=
  request.isBlocked && !(s.originState request.origin).idle.isEmpty &&
    s.requests.all fun other =>
      other.origin ≠ request.origin || !other.isWoken

def leakedCount (s : Pool ℕ) : Bool :=
  s.requests.all (fun request => request.held = []) &&
    (s.originState 80).idle.isEmpty &&
    (s.originState 80).connectionCount = 1

/-- A request stays blocked beside an idle connection, and a constructor that
raises is counted for ever. -/
theorem wake_up_crosses_and_count_leaks :
    (∃ s : Pool ℕ, Reachable (Pool.step oneConnection plainCasing) .empty s ∧
      ∃ request ∈ s.requests, isForgotten s request = true) ∧
    ∃ s : Pool ℕ, Reachable (Pool.step oneConnection plainCasing) .empty s ∧
      leakedCount s = true := by
  constructor
  · have hrun : (runLabels (Pool.step oneConnection plainCasing) .empty
        crossedWakeUp).map (fun s => s.requests.any (isForgotten s)) =
          some true := by decide +kernel
    obtain ⟨s, hs, hany⟩ := Option.map_eq_some_iff.mp hrun
    obtain ⟨request, hrequest, hforgotten⟩ := List.any_eq_true.mp hany
    exact ⟨s, reachable_of_runLabels _ hs, request, hrequest, hforgotten⟩
  · have hrun : (runLabels (Pool.step oneConnection plainCasing) .empty
        [.start (portCall 80), .enter 0 0, .acquire 0 0 true]).map
          leakedCount = some true := by decide +kernel
    obtain ⟨s, hs, hleaked⟩ := Option.map_eq_some_iff.mp hrun
    exact ⟨s, reachable_of_runLabels _ hs, hleaked⟩

/-- The release wakes the request that waits for its connection. -/
theorem own_wake_up_sound : ∃ s : Pool ℕ,
    GuardedRun (Pool.step oneConnection plainCasing) Undisturbed .empty s ∧
      s.requests.map Request.isWoken = [false, true] ∧
      Sound oneConnection plainCasing s := by
  have hrun : (checkedRun (Pool.step oneConnection plainCasing) Undisturbed
      .empty (connects 80 0 ++ blocks 80 1 ++
        [.release 0 1 okResponse (some 1)])).map
          (fun s => s.requests.map Request.isWoken) = some [false, true] := by
    decide +kernel
  obtain ⟨s, hs, hwoken⟩ := Option.map_eq_some_iff.mp hrun
  have hguarded := guardedRun_of_checkedRun _ hs
  exact ⟨s, hguarded, hwoken,
    pool_exact_and_wakes_right oneConnection plainCasing s hguarded⟩

end PycloudParallel.HttpPool
