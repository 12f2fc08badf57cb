import PycloudParallel.HttpPoolBooks

/-!
# Runs of the pool

What a step does to the books, and from it what holds in every run: of the
counts and connections while no constructor raises, and of the blocked requests
while each release wakes one of its own origin.
-/

namespace PycloudParallel.HttpPool

open Parties OrderedDict

variable {ω : Type} [DecidableEq ω] {settings : PoolSettings}
  {casing : Texts.Casing} {s s' : Pool ω}

/-! ## What a step does -/

structure Quiet (s s' : Pool ω) (place : ℕ) (request after : Request ω) :
    Prop where
  moves : Moves s s' place request after (s.originState request.origin)
  origins : s'.origins = s.origins
  opened : s'.opened = s.opened
  inUse : after.inUse = request.inUse
  held : ∀ connection, after.holds connection + s'.closed.count connection =
    request.holds connection + s.closed.count connection
  unstale : after.isBlocked = true ∨ after.isWoken = true → after.held = []
  unblocked : after.isBlocked = false
  woken : request.isWoken = true → s.isClosed = true

/-- The effect of `_release` before its `notify`. -/
structure Returned (s s' : Pool ω) (place : ℕ) (request after : Request ω)
    (connection : Connection ω) (state : OriginState ω) : Prop where
  moves : Moves s s' place request after state
  inUse : request.inUse = some connection
  unused : after.inUse = none
  unblocked : request.isBlocked = false ∧ after.isBlocked = false
  unwoken : request.isWoken = false ∧ after.isWoken = false
  count : s.isClosed = false →
    state.connectionCount - state.idle.length =
      (s.originState request.origin).connectionCount -
        (s.originState request.origin).idle.length - 1
  bounded : state.connectionCount ≤
    (s.originState request.origin).connectionCount
  held : ∀ other, after.holds other + state.idleConnections.count other =
    request.holds other +
      (s.originState request.origin).idleConnections.count other
  idle : ∀ other ∈ state.idleConnections, other = connection ∨
    other ∈ (s.originState request.origin).idleConnections
  emptied : s.isClosed = true → s'.origins = s.origins
  closed : s'.closed = s.closed
  opened : s'.opened = s.opened

inductive Notified (s s' : Pool ω) (wakes : Option ℕ) : Prop
  | nobody (same : s' = s)
      (unblocked : ∀ request ∈ s.requests, request.isBlocked = false)
  | somebody (place : ℕ) (request : Request ω) (wakes : wakes = some place)
      (blocked : request.isBlocked = true)
      (quiet : Quiet s s' place request request.wake)

inductive Effect (settings : PoolSettings) (s : Pool ω) (label : Label ω)
    (s' : Pool ω) : Prop
  | joined (call : HttpCall ω)
      (eq : s' = { s with requests := s.requests ++ [.start call] })
  | quiet (place : ℕ) (request after : Request ω)
      (quiet : Quiet s s' place request after)
  | locked (place : ℕ) (request : Request ω) (deadline now : ℚ) (raises : Bool)
      (label_eq : label = .acquire place now raises)
      (isOpen : s.isClosed = false)
      (waits : request.inUse = none ∧ request.held = [] ∧
        request.isBlocked = false)
      (locked : Locked settings s s' place request deadline raises [])
  | released (place : ℕ) (now : ℚ) (exchange : Exchange) (wakes : Option ℕ)
      (label_eq : label = .release place now exchange wakes)
      (request after : Request ω) (connection : Connection ω)
      (state : OriginState ω) (mid : Pool ω)
      (returned : Returned s mid place request after connection state)
      (notified : Notified mid s' wakes)
  | closed (eq : s' = s.closeStep)
  | closedIdle (first : Connection ω) (rest : List (Connection ω))
      (leaving : s.leaving = first :: rest)
      (eq : s' = { s with leaving := rest, closed := first :: s.closed })

section Effects

variable {place : ℕ} {request after : Request ω} {label : Label ω}

theorem moves_setRequest (hrequest : s.requests[place]? = some request)
    (hcall : after.call = request.call) (closed : List (Connection ω)) :
    Moves s (({ s with closed := closed } : Pool ω).setRequest place after)
      place request after (s.originState request.origin) := by
  refine ⟨hrequest, hcall, rfl, ?_, rfl, rfl⟩
  intro origin
  split
  · next heq =>
    rw [heq]
    rfl
  · rfl

theorem quiet_setRequest (hrequest : s.requests[place]? = some request)
    (hcall : after.call = request.call) (hinUse : after.inUse = request.inUse)
    (hheld : after.held = request.held)
    (hunstale : after.isBlocked = true ∨ after.isWoken = true → after.held = [])
    (hunblocked : after.isBlocked = false)
    (hwoken : request.isWoken = true → s.isClosed = true) :
    Quiet s (s.setRequest place after) place request after where
  moves := moves_setRequest hrequest hcall s.closed
  origins := rfl
  opened := rfl
  inUse := hinUse
  held connection := by
    rw [Request.holds, Request.holds, hheld]
    rfl
  unstale := hunstale
  unblocked := hunblocked
  woken := hwoken

theorem quiet_wake (covered : Covered settings s)
    (hrequest : s.requests[place]? = some request)
    (hblocked : request.isBlocked = true) :
    Quiet s (s.setRequest place request.wake) place request request.wake := by
  have hheld := covered.unstale request (List.mem_of_getElem? hrequest)
    (Or.inl hblocked)
  obtain ⟨call, attempt, phase⟩ := request
  cases phase with
  | blocked deadline stale =>
    exact quiet_setRequest hrequest rfl rfl rfl (fun _ => hheld) rfl
      fun hwoken => by cases hwoken
  | _ => cases hblocked

theorem notified_of_notify (covered : Covered settings s) {wakes : Option ℕ}
    (hnotify : s.notify wakes = some s') : Notified s s' wakes := by
  rw [Pool.notify] at hnotify
  split at hnotify
  · rw [Option.bind_eq_some_iff] at hnotify
    obtain ⟨place, hwakes, hplace⟩ := hnotify
    rw [Option.bind_eq_some_iff] at hplace
    obtain ⟨request, hrequest, hwake⟩ := hplace
    split at hwake
    · next hblocked =>
      cases hwake
      exact .somebody place request hwakes hblocked
        (quiet_wake covered hrequest hblocked)
    · cases hwake
  · next hnobody =>
    split at hnotify
    · cases hnotify
      refine .nobody rfl fun request hrequest => ?_
      by_contra hblocked
      rw [Bool.not_eq_false] at hblocked
      exact hnobody (List.any_eq_true.mpr ⟨request, hrequest, hblocked⟩)
    · cases hnotify

theorem one_le_inUse (hmem : request ∈ s.requests)
    (hsome : request.inUse.isSome = true) : 1 ≤ s.inUse request.origin := by
  have hone : Request.users request.origin request = 1 := if_pos ⟨rfl, hsome⟩
  have hle : Request.users request.origin request ≤ s.inUse request.origin :=
    le_total hmem
  omega

omit [DecidableEq ω] in
theorem next_fields (request : Request ω) (again : Bool) :
    (request.next again).call = request.call ∧
      (request.next again).inUse = none ∧ (request.next again).held = [] ∧
      (request.next again).isBlocked = false ∧
      (request.next again).isWoken = false := by
  cases again <;> exact ⟨rfl, rfl, rfl, rfl, rfl⟩

theorem isClosed_of_lookup_none (covered : Covered settings s)
    (hmem : request ∈ s.requests) (hsome : request.inUse.isSome = true)
    (hnone : s.origins.lookup request.origin = none) : s.isClosed = true := by
  by_contra hopen
  rw [Bool.not_eq_true] at hopen
  have hcovers := covered.covers hopen request.origin
  rw [originState_of_none hnone] at hcovers
  have hone := one_le_inUse hmem hsome
  simp only [OriginState.fresh, List.length_nil] at hcovers
  omega

variable {connection : Connection ω}

theorem returned_of_state (back : Pool ω) (after : Request ω)
    (state : OriginState ω) (hrequest : s.requests[place]? = some request)
    (hphase : request.phase = .exchanging connection)
    (hfields : back.requests = s.requests ∧ back.isClosed = s.isClosed ∧
      back.leaving = s.leaving ∧ back.closed = s.closed ∧
      back.opened = s.opened)
    (horigins : ∀ origin, back.originState origin =
      if origin = request.origin then state else s.originState origin)
    (hcall : after.call = request.call) (hunused : after.inUse = none)
    (hresting : after.isBlocked = false ∧ after.isWoken = false)
    (hcount : s.isClosed = false →
      state.connectionCount - state.idle.length =
        (s.originState request.origin).connectionCount -
          (s.originState request.origin).idle.length - 1)
    (hbounded : state.connectionCount ≤
      (s.originState request.origin).connectionCount)
    (hidle : after.held ++ state.idleConnections =
        [connection] ++ (s.originState request.origin).idleConnections ∨
      after.held ++ state.idleConnections =
        (s.originState request.origin).idleConnections ++ [connection])
    (hemptied : s.isClosed = true → back.origins = s.origins) :
    Returned s (back.setRequest place after) place request after connection
      state := by
  obtain ⟨hrequests, hclosed, hleaving, hclosedList, hopened⟩ := hfields
  have hheld : request.held = [connection] := by
    rw [Request.held, hphase]
  constructor
  · refine ⟨hrequest, hcall, ?_, horigins, hleaving, hclosed⟩
    rw [Pool.setRequest, hrequests]
  · rw [Request.inUse, hphase]
  · exact hunused
  · refine ⟨?_, hresting.1⟩
    rw [Request.isBlocked, hphase]
  · refine ⟨?_, hresting.2⟩
    rw [Request.isWoken, hphase]
  · exact hcount
  · exact hbounded
  · intro other
    rw [Request.holds, Request.holds, hheld, ← List.count_append,
      ← List.count_append]
    obtain hleft | hright := hidle
    · rw [hleft]
    · rw [hright, List.count_append, List.count_append, Nat.add_comm]
  · intro other hother
    have hmem : other ∈ after.held ++ state.idleConnections :=
      List.mem_append_right _ hother
    obtain hleft | hright := hidle
    · rw [hleft] at hmem
      exact List.mem_cons.mp hmem
    · rw [hright, List.mem_append, List.mem_singleton] at hmem
      exact hmem.symm
  · exact hemptied
  · exact hclosedList
  · exact hopened

theorem returned_of_putBack (covered : Covered settings s)
    (hrequest : s.requests[place]? = some request)
    (hphase : request.phase = .exchanging connection) (reusable again : Bool)
    (now : ℚ) :
    let back := s.putBack settings request.origin connection reusable now
    let after := if back.2 then { request with phase := .closing connection again }
      else request.next again
    ∃ state, Returned s (back.1.setRequest place after) place request after
      connection state := by
  have hmem := List.mem_of_getElem? hrequest
  have hsome : request.inUse.isSome = true := by
    rw [Request.inUse, hphase]
    rfl
  obtain ⟨hcall, hunused, hnothing, hunblocked, hunwoken⟩ :=
    next_fields request again
  unfold Pool.putBack
  split
  · next hnone =>
    have hclosed := isClosed_of_lookup_none covered hmem hsome hnone
    refine ⟨_, returned_of_state s _ (s.originState request.origin) hrequest
      hphase ⟨rfl, rfl, rfl, rfl, rfl⟩ ?_ rfl rfl ⟨rfl, rfl⟩ ?_ le_rfl
      (Or.inl rfl) fun _ => rfl⟩
    · intro origin
      split
      · next heq => rw [heq]
      · rfl
    · intro hopen
      rw [hclosed] at hopen
      cases hopen
  · next state hstate =>
    have hopen : s.isClosed = false := by
      by_contra hclosed
      rw [Bool.not_eq_false] at hclosed
      rw [covered.emptied hclosed] at hstate
      cases hstate
    have hsame : s.originState request.origin = state := by
      rw [Pool.originState, hstate]
      rfl
    have hcovers := covered.covers hopen request.origin
    have hone := one_le_inUse hmem hsome
    rw [hsame] at hcovers
    have hstill : ∀ back : Pool ω, s.isClosed = true →
        back.origins = s.origins := by
      intro back hclosed
      rw [hopen] at hclosed
      cases hclosed
    have hdropped := returned_of_state
      (s.popUnused request.origin
        { state with connectionCount := state.connectionCount - 1 })
      { request with phase := .closing connection again }
      { state with connectionCount := state.connectionCount - 1 } hrequest
      hphase popUnused_fields
      (fun origin => originState_popUnused (by dsimp only; omega)) rfl rfl
      ⟨rfl, rfl⟩ (fun _ => by rw [hsame]; dsimp only; omega)
      (by rw [hsame]; dsimp only; omega) (Or.inl (by rw [hsame]; rfl))
      (hstill _)
    rw [hopen, Bool.false_or]
    cases reusable with
    | false => exact ⟨_, hdropped⟩
    | true =>
      rw [Bool.not_true, if_neg Bool.false_ne_true]
      by_cases hroom : (state.idle.length : ℤ) < settings.maxIdle
      · rw [if_pos hroom]
        refine ⟨_, returned_of_state _ _ _ hrequest hphase
          ⟨rfl, rfl, rfl, rfl, rfl⟩ (fun origin => originState_setOrigin) hcall
          hunused ⟨hunblocked, hunwoken⟩ ?_ ?_ ?_ (hstill _)⟩
        · intro _
          rw [hsame]
          simp only [List.length_append, List.length_singleton]
          omega
        · rw [hsame]
        · right
          rw [hsame]
          simp only [Bool.false_eq_true, if_false]
          rw [hnothing, OriginState.idleConnections, List.map_append]
          rfl
      · rw [if_neg hroom]
        exact ⟨_, hdropped⟩

theorem Covered.quiet (covered : Covered settings s)
    (quiet : Quiet s s' place request after) : Covered settings s' := by
  have huses : after.uses = request.uses := by
    rw [Request.uses, Request.uses, quiet.inUse]
  refine covered.move quiet.moves (fun _ => ?_) (covered.bounded _)
    (covered.homes _) ?_ quiet.unstale ?_
  · rw [huses]
  · rw [quiet.inUse]
    exact covered.placed request quiet.moves.request_mem
  · rw [quiet.moves.isClosed, quiet.origins]
    exact covered.emptied

theorem Exact.quiet (exact : Exact s)
    (quiet : Quiet s s' place request after) : Exact s' := by
  have huses : after.uses = request.uses := by
    rw [Request.uses, Request.uses, quiet.inUse]
  refine exact.move quiet.moves (fun _ => ?_) fun connection => ?_
  · rw [huses]
  · have hheld := quiet.held connection
    rw [Pool.isOpened, Pool.isOpened, quiet.opened, Pool.originState,
      Pool.originState, quiet.origins]
    omega

theorem Covered.returned (covered : Covered settings s) {state : OriginState ω}
    (returned : Returned s s' place request after connection state) :
    Covered settings s' := by
  have hhome := covered.placed request returned.moves.request_mem connection
    returned.inUse
  have huses : request.uses = 1 := by
    rw [Request.uses, returned.inUse]
    rfl
  refine covered.move returned.moves ?_
    (returned.bounded.trans (covered.bounded _)) ?_ ?_ ?_ ?_
  · intro hopen
    have hcount := returned.count hopen
    rw [uses_of_inUse_none returned.unused, huses]
    omega
  · intro other hother
    obtain rfl | hold := returned.idle other hother
    · exact hhome
    · exact covered.homes _ other hold
  · rw [returned.unused]
    rintro other hother
    cases hother
  · rintro (hblocked | hwoken)
    · rw [returned.unblocked.2] at hblocked
      cases hblocked
    · rw [returned.unwoken.2] at hwoken
      cases hwoken
  · intro hclosed
    rw [returned.moves.isClosed] at hclosed
    rw [returned.emptied hclosed]
    exact covered.emptied hclosed

theorem Exact.returned (exact : Exact s) (covered : Covered settings s)
    {state : OriginState ω}
    (returned : Returned s s' place request after connection state) :
    Exact s' := by
  have huses : request.uses = 1 := by
    rw [Request.uses, returned.inUse]
    rfl
  refine exact.move returned.moves ?_ ?_
  · intro hopen
    have hcount := returned.count hopen
    rw [uses_of_inUse_none returned.unused, huses]
    omega
  · intro other
    have hheld := returned.held other
    rw [Pool.isOpened, Pool.isOpened, returned.opened, returned.closed,
      returned.moves.origins]
    by_cases horigin : other.origin = request.origin
    · rw [if_pos horigin, horigin]
      omega
    · have hhome := covered.placed request returned.moves.request_mem
        connection returned.inUse
      have hold : other ∉
          (s.originState request.origin).idleConnections := fun hmem =>
        horigin (covered.homes _ other hmem)
      have hnew : other ∉ state.idleConnections := by
        intro hmem
        obtain rfl | hmem := returned.idle other hmem
        · exact horigin hhome
        · exact hold hmem
      rw [if_neg horigin]
      rw [List.count_eq_zero_of_not_mem hold,
        List.count_eq_zero_of_not_mem hnew] at hheld
      omega

theorem effect_of_step (covered : Covered settings s)
    (hstep : s.step settings casing label = some s') :
    Effect settings s label s' := by
  cases label with
  | start call =>
    cases hstep
    exact .joined call rfl
  | enter place now =>
    simp only [Pool.step, Option.bind_eq_some_iff] at hstep
    obtain ⟨⟨call, attempt, phase⟩, hrequest, hphase⟩ := hstep
    cases phase with
    | calling =>
      cases hphase
      exact .quiet place _ _ (quiet_setRequest hrequest rfl rfl rfl
        (fun _ => rfl) rfl fun hwoken => by cases hwoken)
    | _ => cases hphase
  | acquire place now raises =>
    simp only [Pool.step, Pool.acquireStep, Option.bind_eq_some_iff] at hstep
    obtain ⟨request, hrequest, hphase⟩ := hstep
    have heffect : ∀ deadline, request.inUse = none → request.held = [] →
        request.isBlocked = false →
        Effect settings s (.acquire place now raises)
          (s.lockedStep settings place request deadline now raises []) := by
      intro deadline hunused hheld hunblocked
      by_cases hclosed : s.isClosed = true
      · rw [Pool.lockedStep, if_pos hclosed]
        exact .quiet place request _ (quiet_setRequest hrequest rfl
          hunused.symm hheld.symm (fun _ => rfl) rfl fun _ => hclosed)
      · rw [Bool.not_eq_true] at hclosed
        exact .locked place request deadline now raises rfl hclosed
          ⟨hunused, hheld, hunblocked⟩
          (locked_of_lockedStep hclosed (covered.bounded _) hrequest)
    have hunstale := covered.unstale request (List.mem_of_getElem? hrequest)
    obtain ⟨call, attempt, phase⟩ := request
    cases phase with
    | acquiring deadline =>
      cases hphase
      exact heffect deadline rfl rfl rfl
    | woken deadline stale =>
      cases hphase
      have hnothing : stale = [] := hunstale (Or.inr rfl)
      subst hnothing
      exact heffect deadline rfl rfl rfl
    | _ => cases hphase
  | timeOut place =>
    simp only [Pool.step, Option.bind_eq_some_iff] at hstep
    obtain ⟨request, hrequest, hwake⟩ := hstep
    split at hwake
    · next hblocked =>
      cases hwake
      exact .quiet place request _ (quiet_wake covered hrequest hblocked)
    · cases hwake
  | discard place =>
    simp only [Pool.step, Option.bind_eq_some_iff] at hstep
    obtain ⟨⟨call, attempt, phase⟩, hrequest, hphase⟩ := hstep
    cases phase with
    | acquired connection stale =>
      cases stale with
      | nil =>
        cases hphase
        exact .quiet place _ _ (quiet_setRequest hrequest rfl rfl rfl
          (fun hrest => by simp [Request.isBlocked, Request.isWoken] at hrest)
          rfl fun hwoken => by cases hwoken)
      | cons first rest =>
        cases hphase
        refine .quiet place ⟨call, attempt, .acquired connection (first :: rest)⟩
          ⟨call, attempt, .acquired connection rest⟩
          ⟨moves_setRequest hrequest (by rfl) (first :: s.closed), rfl, rfl,
            rfl, fun other => ?_, fun hrest => ?_, rfl, fun hwoken => ?_⟩
        · simp only [Request.holds, Request.held, Pool.setRequest,
            List.count_cons]
          omega
        · simp [Request.isBlocked, Request.isWoken] at hrest
        · cases hwoken
    | _ => cases hphase
  | release place now exchange wakes =>
    simp only [Pool.step, Pool.releaseStep, Option.bind_eq_some_iff] at hstep
    obtain ⟨request, hrequest, hphase⟩ := hstep
    split at hphase
    · next connection hconnection =>
      obtain ⟨state, hreturned⟩ := returned_of_putBack covered hrequest
        hconnection (request.call.reusable casing exchange)
        (request.call.again casing request.attempt exchange) now
      exact .released place now exchange wakes rfl request _ connection state _
        hreturned (notified_of_notify (covered.returned hreturned) hphase)
    · cases hphase
  | closeReleased place =>
    simp only [Pool.step, Option.bind_eq_some_iff] at hstep
    obtain ⟨⟨call, attempt, phase⟩, hrequest, hphase⟩ := hstep
    cases phase with
    | closing connection again =>
      cases hphase
      obtain ⟨hcall, hunused, hnothing, hunblocked, hunwoken⟩ :=
        next_fields ⟨call, attempt, .closing connection again⟩ again
      refine .quiet place ⟨call, attempt, .closing connection again⟩ _
        ⟨moves_setRequest hrequest hcall (connection :: s.closed), rfl, rfl,
          hunused, fun other => ?_, fun _ => hnothing, hunblocked,
          fun hwoken => by cases hwoken⟩
      rw [Request.holds, Request.holds, hnothing]
      simp only [Request.held, Pool.setRequest, List.count_cons, List.count_nil]
      omega
    | _ => cases hphase
  | close =>
    cases hstep
    exact .closed rfl
  | closeIdle =>
    simp only [Pool.step] at hstep
    split at hstep
    · cases hstep
    · next first rest hleaving =>
      cases hstep
      exact .closedIdle first rest hleaving rfl

end Effects

/-! ## The books in every run -/

section Runs

variable {label : Label ω}

theorem Covered.joined (covered : Covered settings s) (call : HttpCall ω) :
    Covered settings { s with requests := s.requests ++ [.start call] } := by
  have hmem : ∀ request ∈ s.requests ++ [.start call],
      request ∈ s.requests ∨ request = .start call := by
    intro request hrequest
    rw [List.mem_append, List.mem_singleton] at hrequest
    exact hrequest
  constructor
  · intro hopen origin
    have hold := covered.covers hopen origin
    have huses : Request.users origin (.start call) = 0 := if_neg (by
      rintro ⟨_, hsome⟩
      cases hsome)
    rw [Pool.inUse, total_append, total_cons, total_nil, huses]
    exact hold
  · exact covered.bounded
  · exact covered.homes
  · intro request hrequest
    obtain hold | rfl := hmem request hrequest
    · exact covered.placed request hold
    · rintro connection hconnection
      cases hconnection
  · intro request hrequest
    obtain hold | rfl := hmem request hrequest
    · exact covered.unstale request hold
    · exact fun _ => rfl
  · exact covered.emptied

theorem Exact.joined (exact : Exact s) (call : HttpCall ω) :
    Exact { s with requests := s.requests ++ [.start call] } := by
  constructor
  · intro hopen origin
    have hold := exact.counted hopen origin
    have huses : Request.users origin (.start call) = 0 := if_neg (by
      rintro ⟨_, hsome⟩
      cases hsome)
    rw [Pool.inUse, total_append, total_cons, total_nil, huses]
    exact hold
  · intro connection
    have hold := exact.located connection
    have hholds : Request.holds connection (.start call) = 0 := rfl
    rw [Pool.places, total_append, total_cons, total_nil, hholds]
    exact hold

omit [DecidableEq ω] in
theorem wake_fields (request : Request ω) :
    request.wake.call = request.call ∧ request.wake.inUse = request.inUse ∧
      request.wake.held = request.held ∧ request.wake.isBlocked = false := by
  obtain ⟨call, attempt, phase⟩ := request
  cases phase <;> exact ⟨rfl, rfl, rfl, rfl⟩

theorem originState_closeStep (hopen : s.isClosed = false) (origin : ω) :
    s.closeStep.originState origin = .fresh := by
  rw [Pool.closeStep, hopen, if_neg Bool.false_ne_true]
  rfl

theorem Covered.closed (covered : Covered settings s) :
    Covered settings s.closeStep := by
  by_cases hclosed : s.isClosed = true
  · rw [Pool.closeStep, if_pos hclosed]
    exact covered
  rw [Bool.not_eq_true] at hclosed
  have hfresh := originState_closeStep hclosed
  have hmem : ∀ request ∈ s.closeStep.requests, ∃ before ∈ s.requests,
      request = before.wake := by
    intro request hrequest
    rw [Pool.closeStep, hclosed, if_neg Bool.false_ne_true] at hrequest
    obtain ⟨before, hbefore, rfl⟩ := List.mem_map.mp hrequest
    exact ⟨before, hbefore, rfl⟩
  have hisClosed : s.closeStep.isClosed = true := by
    rw [Pool.closeStep, hclosed, if_neg Bool.false_ne_true]
  constructor
  · intro hopen
    rw [hisClosed] at hopen
    cases hopen
  · intro origin
    rw [hfresh]
    exact settings.connections_pos.le
  · intro origin connection hconnection
    rw [hfresh] at hconnection
    cases hconnection
  · intro request hrequest
    obtain ⟨before, hbefore, rfl⟩ := hmem request hrequest
    obtain ⟨hcall, hinUse, _, _⟩ := wake_fields before
    rw [hinUse, Request.origin, hcall]
    exact covered.placed before hbefore
  · intro request hrequest hrests
    obtain ⟨before, hbefore, rfl⟩ := hmem request hrequest
    obtain ⟨_, _, hheld, hunblocked⟩ := wake_fields before
    rw [hheld]
    apply covered.unstale before hbefore
    obtain ⟨call, attempt, phase⟩ := before
    cases phase <;> simp_all [Request.wake, Request.isBlocked, Request.isWoken]
  · intro _ origin
    rw [Pool.closeStep, hclosed, if_neg Bool.false_ne_true]
    rfl

theorem count_idle_values (covered : Covered settings s)
    (connection : Connection ω) :
    (s.origins.values.flatMap fun state => state.idle.map Prod.fst).count
        connection =
      (s.originState connection.origin).idleConnections.count connection := by
  have hhome : ∀ origin state, s.origins.lookup origin = some state →
      connection ∈ state.idleConnections → connection.origin = origin := by
    intro origin state hstate hmem
    apply covered.homes origin
    rw [Pool.originState, hstate]
    exact hmem
  cases hstate : s.origins.lookup connection.origin with
  | none =>
    rw [originState_of_none hstate]
    apply List.count_eq_zero_of_not_mem
    intro hmem
    obtain ⟨origin, state, hlookup, hidle⟩ :=
      mem_flatMap_values.mp hmem
    rw [hhome origin state hlookup hidle, hlookup] at hstate
    cases hstate
  | some state =>
    have hrest : connection ∉ (OrderedDict.values (s.origins.erase
        connection.origin)).flatMap fun state => state.idle.map Prod.fst := by
      intro hmem
      obtain ⟨origin, other, hlookup, hidle⟩ :=
        mem_flatMap_values.mp hmem
      rw [lookup_erase] at hlookup
      split at hlookup
      · cases hlookup
      · next hne => exact hne (hhome origin other hlookup hidle).symm
    have hperm := (values_perm_erase hstate).flatMap_right
      fun state => state.idle.map Prod.fst
    rw [hperm.count_eq, List.flatMap_cons, List.count_append,
      List.count_eq_zero_of_not_mem hrest, Pool.originState, hstate]
    rfl

theorem Exact.closed (exact : Exact s) (covered : Covered settings s) :
    Exact s.closeStep := by
  by_cases hclosed : s.isClosed = true
  · rw [Pool.closeStep, if_pos hclosed]
    exact exact
  rw [Bool.not_eq_true] at hclosed
  have hfresh := originState_closeStep hclosed
  constructor
  · intro hopen
    rw [Pool.closeStep, hclosed, if_neg Bool.false_ne_true] at hopen
    cases hopen
  · intro connection
    have hold := exact.located connection
    have hvalues := count_idle_values covered connection
    have hholds : total (Request.holds connection) (s.requests.map
        Request.wake) = total (Request.holds connection) s.requests :=
      total_map_eq fun request _ => by
        rw [Request.holds, Request.holds, (wake_fields request).2.2.1]
    rw [Pool.places] at hold ⊢
    rw [hfresh]
    rw [Pool.closeStep, hclosed, if_neg Bool.false_ne_true]
    dsimp only
    rw [hholds, List.count_append, hvalues]
    have hnone : (OriginState.fresh : OriginState ω).idleConnections.count
        connection = 0 := rfl
    have hsame : Pool.isOpened ({ s with
        isClosed := true
        origins := ∅
        leaving := s.leaving ++
          s.origins.values.flatMap fun state => state.idle.map Prod.fst
        requests := s.requests.map Request.wake }) connection =
          s.isOpened connection := rfl
    rw [hnone, hsame]
    omega

theorem Covered.step (covered : Covered settings s)
    (hstep : s.step settings casing label = some s') : Covered settings s' := by
  cases effect_of_step covered hstep with
  | joined call eq =>
    rw [eq]
    exact covered.joined call
  | quiet place request after quiet => exact covered.quiet quiet
  | locked place request deadline now raises label_eq isOpen waits locked =>
    exact covered.locked isOpen waits.1 rfl locked
  | released place now exchange wakes label_eq request after connection state
      mid returned notified =>
    have hmid := covered.returned returned
    cases notified with
    | nobody same unblocked =>
      rw [same]
      exact hmid
    | somebody place request wakes blocked quiet => exact hmid.quiet quiet
  | closed eq =>
    rw [eq]
    exact covered.closed
  | closedIdle first rest leaving eq =>
    rw [eq]
    exact ⟨covered.covers, covered.bounded, covered.homes, covered.placed,
      covered.unstale, covered.emptied⟩

def Label.Constructs : Label ω → Prop
  | .acquire _ _ raises => raises = false
  | _ => True

instance : (label : Label ω) → Decidable label.Constructs
  | .acquire _ _ raises => inferInstanceAs (Decidable (raises = false))
  | .start _ | .enter _ _ | .timeOut _ | .discard _ | .release _ _ _ _
  | .closeReleased _ | .close | .closeIdle => .isTrue trivial

theorem Exact.step (exact : Exact s) (covered : Covered settings s)
    (hquiet : label.Constructs)
    (hstep : s.step settings casing label = some s') : Exact s' := by
  cases effect_of_step covered hstep with
  | joined call eq =>
    rw [eq]
    exact exact.joined call
  | quiet place request after quiet => exact exact.quiet quiet
  | locked place request deadline now raises label_eq isOpen waits locked =>
    subst label_eq
    obtain rfl : raises = false := hquiet
    exact exact.locked covered waits.1 waits.2.1 rfl locked
  | released place now exchange wakes label_eq request after connection state
      mid returned notified =>
    have hmid := exact.returned covered returned
    cases notified with
    | nobody same unblocked =>
      rw [same]
      exact hmid
    | somebody place request wakes blocked quiet => exact hmid.quiet quiet
  | closed eq =>
    rw [eq]
    exact exact.closed covered
  | closedIdle first rest leaving eq =>
    rw [eq]
    refine ⟨exact.counted, fun connection => ?_⟩
    have hold := exact.located connection
    rw [Pool.places, leaving, List.count_cons] at hold
    change total (Request.holds connection) s.requests +
      rest.count connection + (first :: s.closed).count connection +
      (s.originState connection.origin).idleConnections.count connection =
        s.isOpened connection
    rw [List.count_cons]
    omega

end Runs

/-! ## Wake-ups -/

section Waking

variable {place : ℕ} {request after : Request ω} {state : OriginState ω}
  {label : Label ω}

def Request.blocking (request : Request ω) : ℕ :=
  if request.isBlocked = true then 1 else 0

def Request.waking (request : Request ω) : ℕ :=
  if request.isWoken = true then 1 else 0

theorem blocks_eq (request : Request ω) (origin : ω) :
    request.blocks origin =
      if request.origin = origin then request.blocking else 0 := by
  rw [Request.blocks, Request.blocking]
  by_cases horigin : request.origin = origin <;> simp [horigin]

theorem wakes_eq (request : Request ω) (origin : ω) :
    request.wakes origin =
      if request.origin = origin then request.waking else 0 := by
  rw [Request.wakes, Request.waking]
  by_cases horigin : request.origin = origin <;> simp [horigin]

section

variable (hmoves : Moves s s' place request after state)

include hmoves

theorem Moves.at_other {origin : ω} (hother : request.origin ≠ origin) :
    s'.blockedAt origin = s.blockedAt origin ∧
      s'.wokenAt origin = s.wokenAt origin ∧
      s'.originState origin = s.originState origin := by
  have hblocked := hmoves.total (Request.blocks origin)
  have hwoken := hmoves.total (Request.wakes origin)
  rw [blocks_eq, blocks_eq, hmoves.origin_eq, if_neg hother, if_neg hother]
    at hblocked
  rw [wakes_eq, wakes_eq, hmoves.origin_eq, if_neg hother, if_neg hother]
    at hwoken
  refine ⟨hblocked, hwoken, ?_⟩
  rw [hmoves.origins, if_neg (Ne.symm hother)]

theorem Moves.at_origin : s'.blockedAt request.origin + request.blocking =
        s.blockedAt request.origin + after.blocking ∧
      s'.wokenAt request.origin + request.waking =
        s.wokenAt request.origin + after.waking ∧
      s'.originState request.origin = state := by
  have hblocked := hmoves.total (Request.blocks request.origin)
  have hwoken := hmoves.total (Request.wakes request.origin)
  rw [blocks_eq, blocks_eq, hmoves.origin_eq, if_pos rfl, if_pos rfl]
    at hblocked
  rw [wakes_eq, wakes_eq, hmoves.origin_eq, if_pos rfl, if_pos rfl] at hwoken
  refine ⟨hblocked, hwoken, ?_⟩
  rw [hmoves.origins, if_pos rfl]

theorem Moves.unblocked
    (hunblocked : s.isClosed = true → ∀ request ∈ s.requests,
      request.isBlocked = false)
    (hafter : s.isClosed = true → after.isBlocked = false) :
    s'.isClosed = true → ∀ request ∈ s'.requests, request.isBlocked = false := by
  intro hclosed other hother
  rw [hmoves.isClosed] at hclosed
  obtain hold | rfl := hmoves.mem hother
  · exact hunblocked hclosed other hold
  · exact hafter hclosed

end

theorem Awake.move (awake : Awake settings s)
    (hmoves : Moves s s' place request after state)
    (hblocked : after.isBlocked = true → request.isBlocked = true)
    (hfree : s.isClosed = false →
      state.free settings + request.waking ≤
        (s.originState request.origin).free settings + after.waking) :
    Awake settings s' := by
  constructor
  · intro hopen origin hsome
    rw [hmoves.isClosed] at hopen
    by_cases horigin : request.origin = origin
    · subst horigin
      obtain ⟨hblocks, hwakes, hstate⟩ := hmoves.at_origin
      have hless : after.blocking ≤ request.blocking := by
        rw [Request.blocking, Request.blocking]
        split
        · next hafter => rw [if_pos (hblocked hafter)]
        · exact Nat.zero_le _
      have hold := awake.woken hopen request.origin (by omega)
      have hnew := hfree hopen
      rw [hstate]
      omega
    · obtain ⟨hblocks, hwakes, hstate⟩ := hmoves.at_other horigin
      rw [hblocks] at hsome
      rw [hwakes, hstate]
      exact awake.woken hopen origin hsome
  · apply hmoves.unblocked awake.unblocked
    intro hclosed
    by_contra hafter
    rw [Bool.not_eq_false] at hafter
    have hbefore := hblocked hafter
    rw [awake.unblocked hclosed request hmoves.request_mem] at hbefore
    cases hbefore

theorem Awake.full (awake : Awake settings s)
    (hmoves : Moves s s' place request after state)
    (hopen : s.isClosed = false) (hfull : state.free settings ≤ 0) :
    Awake settings s' := by
  constructor
  · intro _ origin hsome
    by_cases horigin : request.origin = origin
    · subst horigin
      obtain ⟨_, _, hstate⟩ := hmoves.at_origin
      rw [hstate]
      omega
    · obtain ⟨hblocks, hwakes, hstate⟩ := hmoves.at_other horigin
      rw [hblocks] at hsome
      rw [hwakes, hstate]
      exact awake.woken hopen origin hsome
  · intro hclosed
    rw [hmoves.isClosed, hopen] at hclosed
    cases hclosed

omit [DecidableEq ω] in
theorem waking_le (request : Request ω) : request.waking ≤ 1 := by
  rw [Request.waking]
  split <;> omega

theorem Awake.locked (awake : Awake settings s) (hopen : s.isClosed = false)
    {deadline : ℚ} {raises : Bool} {stale : List (Connection ω)}
    (hlocked : Locked settings s s' place request deadline raises stale) :
    Awake settings s' := by
  have hwaking := waking_le request
  cases hlocked with
  | handed connection taken state moves idle count closed opened =>
    have hall := congrArg List.length idle
    simp only [OriginState.length_idleConnections, List.length_append,
      List.length_singleton] at hall
    refine awake.move moves (fun hblocked => by cases hblocked) fun _ => ?_
    rw [OriginState.free, OriginState.free]
    omega
  | made taken state moves idle count room closed opened
  | raised taken state raises moves idle count room =>
    have hall := congrArg List.length idle
    simp only [OriginState.length_idleConnections, List.length_append] at hall
    refine awake.move moves (fun hblocked => by cases hblocked) fun _ => ?_
    rw [OriginState.free, OriginState.free]
    omega
  | refused phase state waits moves idle same count full closed opened =>
    apply awake.full moves hopen
    rw [OriginState.free, same, List.length_nil]
    omega

theorem Awake.quiet (awake : Awake settings s)
    (quiet : Quiet s s' place request after) : Awake settings s' := by
  refine awake.move quiet.moves (fun hblocked => ?_) fun hopen => ?_
  · rw [quiet.unblocked] at hblocked
    cases hblocked
  · have hnone : request.waking = 0 := by
      rw [Request.waking, if_neg]
      intro hwoken
      rw [quiet.woken hwoken] at hopen
      cases hopen
    omega

def WakesOwn (s : Pool ω) : Label ω → Prop
  | .release place _ _ wakes => ∀ request ∈ s.requests[place]?,
      (∃ other ∈ s.requests,
        other.origin = request.origin ∧ other.isBlocked = true) →
      ∀ woken ∈ wakes.bind (fun place => s.requests[place]?),
        woken.origin = request.origin
  | _ => True

instance (s : Pool ω) : (label : Label ω) → Decidable (WakesOwn s label)
  | .release place _ _ wakes => inferInstanceAs (Decidable
      (∀ request ∈ s.requests[place]?,
        (∃ other ∈ s.requests,
          other.origin = request.origin ∧ other.isBlocked = true) →
        ∀ woken ∈ wakes.bind (fun place => s.requests[place]?),
          woken.origin = request.origin))
  | .start _ | .enter _ _ | .acquire _ _ _ | .timeOut _ | .discard _
  | .closeReleased _ | .close | .closeIdle => .isTrue trivial

theorem blockedAt_pos_iff {origin : ω} :
    0 < s.blockedAt origin ↔ ∃ other ∈ s.requests,
      other.origin = origin ∧ other.isBlocked = true := by
  rw [Pool.blockedAt, total_pos_iff]
  constructor
  · rintro ⟨other, hother, hpos⟩
    rw [Request.blocks] at hpos
    split at hpos
    · next hboth => exact ⟨other, hother, hboth⟩
    · omega
  · rintro ⟨other, hother, hboth⟩
    refine ⟨other, hother, ?_⟩
    rw [Request.blocks, if_pos hboth]
    omega

omit [DecidableEq ω] in
theorem waking_wake (hblocked : request.isBlocked = true) :
    request.blocking = 1 ∧ request.waking = 0 ∧ request.wake.blocking = 0 ∧
      request.wake.waking = 1 := by
  obtain ⟨call, attempt, phase⟩ := request
  cases phase with
  | blocked deadline stale => exact ⟨rfl, rfl, rfl, rfl⟩
  | _ => cases hblocked

omit [DecidableEq ω] in
theorem resting_of_unblocked (hblocked : request.isBlocked = false)
    (hwoken : request.isWoken = false) :
    request.blocking = 0 ∧ request.waking = 0 := by
  rw [Request.blocking, Request.waking, hblocked, hwoken]
  exact ⟨rfl, rfl⟩

variable (awake : Awake settings s)

include awake

theorem Awake.released {mid : Pool ω}
    {connection : Connection ω} {wakes : Option ℕ}
    (returned : Returned s mid place request after connection state)
    (notified : Notified mid s' wakes)
    (hwakes : (∃ other ∈ s.requests,
        other.origin = request.origin ∧ other.isBlocked = true) →
      ∀ woken ∈ wakes.bind (fun place => s.requests[place]?),
        woken.origin = request.origin) : Awake settings s' := by
  have hunblocked := returned.moves.unblocked awake.unblocked
    fun _ => returned.unblocked.2
  cases notified with
  | nobody same unblocked =>
    rw [same]
    refine ⟨fun _ origin hsome => ?_, hunblocked⟩
    obtain ⟨other, hother, _, hblocked⟩ := blockedAt_pos_iff.mp hsome
    rw [unblocked other hother] at hblocked
    cases hblocked
  | somebody number woken hnumber hblocked quiet =>
    have hopen : s.isClosed = false := by
      by_contra hclosed
      rw [Bool.not_eq_false] at hclosed
      have hfalse := hunblocked (returned.moves.isClosed.trans hclosed) woken
        quiet.moves.request_mem
      rw [hblocked] at hfalse
      cases hfalse
    have hbefore : s.requests[number]? = some woken := by
      have hmid := quiet.moves.before
      rw [returned.moves.requests, List.getElem?_set] at hmid
      split at hmid
      · split at hmid
        · rw [Option.some.injEq] at hmid
          rw [← hmid, returned.unblocked.2] at hblocked
          cases hblocked
        · cases hmid
      · exact hmid
    have hown : 0 < s.blockedAt request.origin →
        woken.origin = request.origin := by
      intro hsome
      apply hwakes (blockedAt_pos_iff.mp hsome)
      rw [hnumber]
      exact hbefore
    refine ⟨fun _ origin hsome => ?_, quiet.moves.unblocked hunblocked
      fun _ => quiet.unblocked⟩
    obtain ⟨hone, hzero, hnone, hwake⟩ := waking_wake hblocked
    obtain ⟨hblocks, hwakens, hstate⟩ := returned.moves.at_origin
    obtain ⟨hrequest, hrequestWakes⟩ := resting_of_unblocked
      returned.unblocked.1 returned.unwoken.1
    obtain ⟨hafter, hafterWakes⟩ := resting_of_unblocked
      returned.unblocked.2 returned.unwoken.2
    have hfree : state.free settings =
        (s.originState request.origin).free settings + 1 := by
      have hcount := returned.count hopen
      rw [OriginState.free, OriginState.free]
      omega
    by_cases hwokenOrigin : woken.origin = origin
    · subst hwokenOrigin
      obtain ⟨hmidBlocks, hmidWakes, hmidState⟩ := quiet.moves.at_origin
      rw [hmidState]
      by_cases horigin : request.origin = woken.origin
      · rw [← horigin] at hmidBlocks hmidWakes hsome ⊢
        have hold := awake.woken hopen request.origin (by omega)
        rw [hstate]
        omega
      · obtain ⟨hsameBlocks, hsameWakes, hsameState⟩ :=
          returned.moves.at_other horigin
        have hold := awake.woken hopen woken.origin (by omega)
        rw [hsameState]
        omega
    · obtain ⟨hmidBlocks, hmidWakes, hmidState⟩ :=
        quiet.moves.at_other hwokenOrigin
      rw [hmidState]
      by_cases horigin : request.origin = origin
      · -- the wake-up went elsewhere, so nobody is blocked here
        subst horigin
        exact absurd (hown (by omega)) hwokenOrigin
      · obtain ⟨hsameBlocks, hsameWakes, hsameState⟩ :=
          returned.moves.at_other horigin
        have hold := awake.woken hopen origin (by omega)
        rw [hsameState]
        omega

theorem Awake.joined (call : HttpCall ω) :
    Awake settings { s with requests := s.requests ++ [.start call] } := by
  constructor
  · intro hopen origin hsome
    have hblocks : Request.blocks origin (.start call) = 0 := if_neg (by
      rintro ⟨_, hblocked⟩
      cases hblocked)
    have hwakes : Request.wakes origin (.start call) = 0 := if_neg (by
      rintro ⟨_, hwoken⟩
      cases hwoken)
    rw [Pool.blockedAt, total_append, total_cons, total_nil, hblocks] at hsome
    rw [Pool.wokenAt, total_append, total_cons, total_nil, hwakes]
    exact awake.woken hopen origin hsome
  · intro hclosed request hrequest
    rw [List.mem_append, List.mem_singleton] at hrequest
    obtain hold | rfl := hrequest
    · exact awake.unblocked hclosed request hold
    · rfl

theorem Awake.closed :
    Awake settings s.closeStep := by
  by_cases hclosed : s.isClosed = true
  · rw [Pool.closeStep, if_pos hclosed]
    exact awake
  rw [Pool.closeStep, if_neg hclosed]
  constructor
  · intro hopen
    cases hopen
  · intro _ request hrequest
    obtain ⟨before, _, rfl⟩ := List.mem_map.mp hrequest
    exact (wake_fields before).2.2.2

theorem Awake.step (covered : Covered settings s)
    (hown : WakesOwn s label)
    (hstep : s.step settings casing label = some s') : Awake settings s' := by
  cases effect_of_step covered hstep with
  | joined call eq =>
    rw [eq]
    exact awake.joined call
  | quiet place request after quiet => exact awake.quiet quiet
  | locked place request deadline now raises label_eq isOpen waits locked =>
    exact awake.locked isOpen locked
  | released place now exchange wakes label_eq request after connection state
      mid returned notified =>
    subst label_eq
    exact awake.released returned notified
      (hown request returned.moves.before)
  | closed eq =>
    rw [eq]
    exact awake.closed
  | closedIdle first rest leaving eq =>
    rw [eq]
    exact ⟨awake.woken, awake.unblocked⟩

end Waking

end PycloudParallel.HttpPool
