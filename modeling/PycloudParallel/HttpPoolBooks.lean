import PycloudParallel.HttpPoolModel

/-!
# The books of the pool

A count is never less than the connections in use and the idle ones, and never
more than the limit.  Where no constructor raises it is exact, and then each
connection that was made is in one place: with one request, idle at its origin,
with `close`, or closed.
-/

namespace PycloudParallel.HttpPool

open Parties

variable {ω : Type} [DecidableEq ω] {settings : PoolSettings}
  {casing : Texts.Casing} {s s' : Pool ω}

def Pool.originState (s : Pool ω) (origin : ω) : OriginState ω :=
  (s.origins.lookup origin).getD .fresh

def OriginState.idleConnections (state : OriginState ω) :
    List (Connection ω) :=
  state.idle.map Prod.fst

omit [DecidableEq ω] in
theorem OriginState.length_idleConnections (state : OriginState ω) :
    state.idleConnections.length = state.idle.length :=
  List.length_map _

def OriginState.free (settings : PoolSettings) (state : OriginState ω) : ℤ :=
  settings.maxConnections - state.connectionCount + state.idle.length

def Request.users (origin : ω) (request : Request ω) : ℕ :=
  if request.origin = origin ∧ request.inUse.isSome = true then 1 else 0

def Request.holds (connection : Connection ω) (request : Request ω) : ℕ :=
  request.held.count connection

def Pool.inUse (s : Pool ω) (origin : ω) : ℕ :=
  total (Request.users origin) s.requests

def Request.blocks (origin : ω) (request : Request ω) : ℕ :=
  if request.origin = origin ∧ request.isBlocked = true then 1 else 0

def Request.wakes (origin : ω) (request : Request ω) : ℕ :=
  if request.origin = origin ∧ request.isWoken = true then 1 else 0

def Pool.blockedAt (s : Pool ω) (origin : ω) : ℕ :=
  total (Request.blocks origin) s.requests

def Pool.wokenAt (s : Pool ω) (origin : ω) : ℕ :=
  total (Request.wakes origin) s.requests

def Pool.isOpened (s : Pool ω) (connection : Connection ω) : ℕ :=
  if connection.number < s.opened connection.origin then 1 else 0

def Pool.places (s : Pool ω) (connection : Connection ω) : ℕ :=
  total (Request.holds connection) s.requests + s.leaving.count connection +
    s.closed.count connection +
    (s.originState connection.origin).idleConnections.count connection

structure Covered (settings : PoolSettings) (s : Pool ω) : Prop where
  covers : s.isClosed = false → ∀ origin,
    (s.inUse origin : ℤ) + (s.originState origin).idle.length ≤
      (s.originState origin).connectionCount
  bounded : ∀ origin,
    (s.originState origin).connectionCount ≤ settings.maxConnections
  homes : ∀ origin, ∀ connection ∈ (s.originState origin).idleConnections,
    connection.origin = origin
  placed : ∀ request ∈ s.requests, ∀ connection ∈ request.inUse,
    connection.origin = request.origin
  unstale : ∀ request ∈ s.requests,
    request.isBlocked = true ∨ request.isWoken = true → request.held = []
  emptied : s.isClosed = true → ∀ origin, s.origins.lookup origin = none

structure Exact (s : Pool ω) : Prop where
  counted : s.isClosed = false → ∀ origin,
    (s.originState origin).connectionCount =
      s.inUse origin + (s.originState origin).idle.length
  located : ∀ connection, s.places connection = s.isOpened connection

/-- Where a request is blocked, those that were woken will find all that is
free. -/
structure Awake (settings : PoolSettings) (s : Pool ω) : Prop where
  woken : s.isClosed = false → ∀ origin, 0 < s.blockedAt origin →
    (s.originState origin).free settings ≤ s.wokenAt origin
  unblocked : s.isClosed = true → ∀ request ∈ s.requests,
    request.isBlocked = false

section OriginStates

variable {place : ℕ} {request : Request ω} {origin other : ω}
  {state : OriginState ω}

theorem originState_of_none (hnone : s.origins.lookup origin = none) :
    s.originState origin = .fresh := by
  rw [Pool.originState, hnone]
  rfl

theorem originState_setOrigin :
    (s.setOrigin origin state).originState other =
      if other = origin then state else s.originState other := by
  rw [Pool.originState, Pool.setOrigin, OrderedDict.lookup_set]
  split <;> rfl

theorem originState_popUnused (hcount : 0 ≤ state.connectionCount) :
    (s.popUnused origin state).originState other =
      if other = origin then state else s.originState other := by
  rw [Pool.popUnused]
  split
  · next hunused =>
    rw [Pool.originState]
    dsimp only
    rw [OrderedDict.lookup_erase]
    split
    · obtain ⟨count, idle⟩ := state
      obtain ⟨hle, rfl⟩ := hunused
      obtain rfl : count = 0 := le_antisymm hle hcount
      rfl
    · rfl
  · exact originState_setOrigin

theorem popUnused_fields :
    (s.popUnused origin state).requests = s.requests ∧
      (s.popUnused origin state).isClosed = s.isClosed ∧
      (s.popUnused origin state).leaving = s.leaving ∧
      (s.popUnused origin state).closed = s.closed ∧
      (s.popUnused origin state).opened = s.opened := by
  rw [Pool.popUnused]
  split <;> exact ⟨rfl, rfl, rfl, rfl, rfl⟩

omit [DecidableEq ω]

structure Takes (state after : OriginState ω) (taken : List (Connection ω)) :
    Prop where
  idle : state.idleConnections = taken ++ after.idleConnections
  count : after.connectionCount = state.connectionCount - taken.length

theorem Takes.trans {state after last : OriginState ω}
    {taken more : List (Connection ω)} (htakes : Takes state after taken)
    (hmore : Takes after last more) : Takes state last (taken ++ more) := by
  constructor
  · rw [htakes.idle, hmore.idle, List.append_assoc]
  · rw [hmore.count, htakes.count, List.length_append]
    omega

theorem takes_expire (settings : PoolSettings) (now : ℚ)
    (state : OriginState ω) :
    Takes state (expire settings now state).1
      (expire settings now state).2 := by
  constructor
  · rw [expire, OriginState.idleConnections, OriginState.idleConnections,
      ← List.map_append, List.takeWhile_append_dropWhile]
  · rw [expire, List.length_map]

theorem takes_dropOne (state : OriginState ω) :
    Takes state (dropOne state).1 (dropOne state).2 ∧
      ((dropOne state).2 = [] → (dropOne state).1.idle = []) := by
  obtain ⟨count, idle⟩ := state
  cases idle with
  | nil => exact ⟨⟨rfl, by simp [dropOne]⟩, fun _ => rfl⟩
  | cons entry rest =>
    exact ⟨⟨rfl, by simp [dropOne]⟩, fun hnone => by cases hnone⟩

theorem takes_refresh (settings : PoolSettings) (now : ℚ) (requireFresh : Bool)
    (state : OriginState ω) :
    Takes state (refresh settings now requireFresh state).1
        (refresh settings now requireFresh state).2 ∧
      (requireFresh = true →
        (refresh settings now requireFresh state).2 = [] →
          (refresh settings now requireFresh state).1.idle = []) := by
  have hexpire := takes_expire settings now state
  cases requireFresh with
  | false => exact ⟨hexpire, fun hfresh => by cases hfresh⟩
  | true =>
    obtain ⟨hdrop, hidle⟩ := takes_dropOne (expire settings now state).1
    refine ⟨hexpire.trans hdrop, ?_⟩
    intro _ hnone
    exact hidle (List.append_eq_nil_iff.mp hnone).2

end OriginStates

/-! ## A request moves -/

/-- A request at its place becomes another one and its origin gets a new state.
Connections may be closed or opened on the way. -/
structure Moves (s s' : Pool ω) (place : ℕ) (request after : Request ω)
    (state : OriginState ω) : Prop where
  before : s.requests[place]? = some request
  call : after.call = request.call
  requests : s'.requests = s.requests.set place after
  origins : ∀ origin, s'.originState origin =
    if origin = request.origin then state else s.originState origin
  leaving : s'.leaving = s.leaving
  isClosed : s'.isClosed = s.isClosed

section Moving

variable {place : ℕ} {request after : Request ω} {state : OriginState ω}

section

variable (hmoves : Moves s s' place request after state)

include hmoves

theorem Moves.total (measure : Request ω → ℕ) :
    total measure s'.requests + measure request =
      total measure s.requests + measure after := by
  rw [hmoves.requests]
  exact total_set hmoves.before after

theorem Moves.mem {other : Request ω} (hother : other ∈ s'.requests) :
    other ∈ s.requests ∨ other = after := by
  rw [hmoves.requests] at hother
  exact List.mem_or_eq_of_mem_set hother

theorem Moves.request_mem : request ∈ s.requests :=
  List.mem_of_getElem? hmoves.before

theorem Moves.origin_eq : after.origin = request.origin :=
  congrArg HttpCall.origin hmoves.call

end

def Request.uses (request : Request ω) : ℕ :=
  if request.inUse.isSome = true then 1 else 0

theorem users_eq (request : Request ω) (origin : ω) :
    request.users origin =
      if request.origin = origin then request.uses else 0 := by
  rw [Request.users, Request.uses]
  by_cases horigin : request.origin = origin <;> simp [horigin]

theorem Moves.inUse_eq (hmoves : Moves s s' place request after state)
    (origin : ω) :
    (s'.inUse origin : ℤ) = s.inUse origin +
      if request.origin = origin then (after.uses : ℤ) - request.uses
      else 0 := by
  have htotal := hmoves.total (Request.users origin)
  rw [users_eq, users_eq, hmoves.origin_eq] at htotal
  rw [Pool.inUse, Pool.inUse]
  by_cases horigin : request.origin = origin
  · rw [if_pos horigin, if_pos horigin] at htotal
    rw [if_pos horigin]
    omega
  · rw [if_neg horigin, if_neg horigin] at htotal
    rw [if_neg horigin]
    omega

theorem Covered.move (covered : Covered settings s)
    (hmoves : Moves s s' place request after state)
    (hcovers : s.isClosed = false →
      (after.uses : ℤ) + state.idle.length - state.connectionCount ≤
        request.uses + (s.originState request.origin).idle.length -
          (s.originState request.origin).connectionCount)
    (hbounded : state.connectionCount ≤ settings.maxConnections)
    (hhomes : ∀ connection ∈ state.idleConnections,
      connection.origin = request.origin)
    (hplaced : ∀ connection ∈ after.inUse, connection.origin = request.origin)
    (hunstale : after.isBlocked = true ∨ after.isWoken = true → after.held = [])
    (hemptied : s'.isClosed = true →
      ∀ origin, s'.origins.lookup origin = none) : Covered settings s' := by
  constructor
  · intro hopen origin
    rw [hmoves.isClosed] at hopen
    have hold := covered.covers hopen origin
    have hnew := hcovers hopen
    rw [hmoves.origins, hmoves.inUse_eq]
    by_cases horigin : request.origin = origin
    · subst horigin
      rw [if_pos rfl, if_pos rfl]
      omega
    · rw [if_neg horigin, if_neg (Ne.symm horigin)]
      omega
  · intro origin
    rw [hmoves.origins]
    split
    · exact hbounded
    · exact covered.bounded origin
  · intro origin
    rw [hmoves.origins]
    split
    · next heq =>
      rw [heq]
      exact hhomes
    · exact covered.homes origin
  · intro other hother
    obtain hold | rfl := hmoves.mem hother
    · exact covered.placed other hold
    · rw [hmoves.origin_eq]
      exact hplaced
  · intro other hother
    obtain hold | rfl := hmoves.mem hother
    · exact covered.unstale other hold
    · exact hunstale
  · exact hemptied

theorem Exact.move (exact : Exact s)
    (hmoves : Moves s s' place request after state)
    (hcounted : s.isClosed = false →
      (after.uses : ℤ) + state.idle.length - state.connectionCount =
        request.uses + (s.originState request.origin).idle.length -
          (s.originState request.origin).connectionCount)
    (hlocated : ∀ connection,
      after.holds connection + s'.closed.count connection +
          (s'.originState connection.origin).idleConnections.count connection +
          s.isOpened connection =
        request.holds connection + s.closed.count connection +
          (s.originState connection.origin).idleConnections.count connection +
          s'.isOpened connection) : Exact s' := by
  constructor
  · intro hopen origin
    rw [hmoves.isClosed] at hopen
    have hold := exact.counted hopen origin
    have hnew := hcounted hopen
    rw [hmoves.origins, hmoves.inUse_eq]
    by_cases horigin : request.origin = origin
    · subst horigin
      rw [if_pos rfl, if_pos rfl]
      omega
    · rw [if_neg horigin, if_neg (Ne.symm horigin)]
      omega
  · intro connection
    have htotal := hmoves.total (Request.holds connection)
    have hold := exact.located connection
    have hnew := hlocated connection
    rw [Pool.places] at hold ⊢
    rw [hmoves.leaving]
    omega

theorem Moves.count_idle (hmoves : Moves s s' place request after state)
    (out into : List (Connection ω))
    (hout : ∀ connection ∈ out, connection.origin = request.origin)
    (hinto : ∀ connection ∈ into, connection.origin = request.origin)
    (hsum : ∀ connection,
      state.idleConnections.count connection + out.count connection =
        (s.originState request.origin).idleConnections.count connection +
          into.count connection) (connection : Connection ω) :
    (s'.originState connection.origin).idleConnections.count connection +
        out.count connection =
      (s.originState connection.origin).idleConnections.count connection +
        into.count connection := by
  rw [hmoves.origins]
  by_cases horigin : connection.origin = request.origin
  · rw [if_pos horigin, horigin]
    exact hsum connection
  · rw [if_neg horigin, List.count_eq_zero_of_not_mem fun hmem =>
      horigin (hout connection hmem), List.count_eq_zero_of_not_mem fun hmem =>
      horigin (hinto connection hmem)]

end Moving

theorem isOpened_of_update {origin : ω}
    (hopened : s'.opened = Function.update s.opened origin
      (s.opened origin + 1)) (connection : Connection ω) :
    s'.isOpened connection = s.isOpened connection +
      [(⟨origin, s.opened origin⟩ : Connection ω)].count connection := by
  obtain ⟨home, number⟩ := connection
  rw [Pool.isOpened, Pool.isOpened, hopened, List.count_singleton]
  by_cases horigin : home = origin
  · subst horigin
    rw [Function.update_self]
    by_cases hnew : number = s.opened home
    · subst hnew
      simp
    · have hother : (⟨home, s.opened home⟩ : Connection ω) ≠ ⟨home, number⟩ := by
        intro heq
        cases heq
        exact hnew rfl
      have hlt : number < s.opened home + 1 ↔ number < s.opened home := by
        omega
      simp [hother, hlt]
  · have hother : (⟨origin, s.opened origin⟩ : Connection ω) ≠
        ⟨home, number⟩ := by
      intro heq
      cases heq
      exact horigin rfl
    simp [hother, horigin]

/-! ## `_acquire` under the lock -/

section Acquiring

variable {place : ℕ} {request : Request ω} {deadline now : ℚ} {raises : Bool}
  {stale : List (Connection ω)}

/-- What the lock covers in `_acquire` on an open pool: an idle connection is
handed over, a new one is made, the constructor raises, or there is nothing
free. -/
inductive Locked (settings : PoolSettings) (s s' : Pool ω) (place : ℕ)
    (request : Request ω) (deadline : ℚ) (raises : Bool)
    (stale : List (Connection ω)) : Prop
  | handed (connection : Connection ω) (taken : List (Connection ω))
      (state : OriginState ω)
      (moves : Moves s s' place request
        { request with phase := .acquired connection (stale ++ taken) } state)
      (idle : (s.originState request.origin).idleConnections =
        taken ++ state.idleConnections ++ [connection])
      (count : state.connectionCount =
        (s.originState request.origin).connectionCount - taken.length)
      (closed : s'.closed = s.closed) (opened : s'.opened = s.opened)
  | made (taken : List (Connection ω)) (state : OriginState ω)
      (moves : Moves s s' place request
        { request with
          phase := .acquired ⟨request.origin, s.opened request.origin⟩
            (stale ++ taken) } state)
      (idle : (s.originState request.origin).idleConnections =
        taken ++ state.idleConnections)
      (count : state.connectionCount =
        (s.originState request.origin).connectionCount - taken.length + 1)
      (room : state.connectionCount ≤ settings.maxConnections)
      (closed : s'.closed = s.closed)
      (opened : s'.opened = Function.update s.opened request.origin
        (s.opened request.origin + 1))
  | raised (taken : List (Connection ω)) (state : OriginState ω)
      (raises : raises = true)
      (moves : Moves s s' place request { request with phase := .ended } state)
      (idle : (s.originState request.origin).idleConnections =
        taken ++ state.idleConnections)
      (count : state.connectionCount =
        (s.originState request.origin).connectionCount - taken.length + 1)
      (room : state.connectionCount ≤ settings.maxConnections)
  | refused (phase : Phase ω) (state : OriginState ω)
      (waits : phase = .ended ∨ phase = .blocked deadline stale)
      (moves : Moves s s' place request { request with phase := phase } state)
      (idle : (s.originState request.origin).idle = [])
      (same : state.idle = [])
      (count : state.connectionCount =
        (s.originState request.origin).connectionCount)
      (full : settings.maxConnections ≤ state.connectionCount)
      (closed : s'.closed = s.closed) (opened : s'.opened = s.opened)

theorem locked_of_lockedStep (hopen : s.isClosed = false)
    (hbounded : (s.originState request.origin).connectionCount ≤
      settings.maxConnections) (hrequest : s.requests[place]? = some request) :
    Locked settings s
      (s.lockedStep settings place request deadline now raises stale) place
      request deadline raises stale := by
  rw [Pool.lockedStep, hopen, if_neg Bool.false_ne_true]
  obtain ⟨htakes, hfresh⟩ := takes_refresh settings now request.requireFresh
    (s.originState request.origin)
  rw [Pool.originState] at htakes hfresh
  generalize refresh settings now request.requireFresh
    ((s.origins.lookup request.origin).getD .fresh) = refreshed
    at htakes hfresh
  obtain ⟨state, taken⟩ := refreshed
  have hmoves : ∀ (after : Request ω) (result : OriginState ω),
      after.call = request.call →
      Moves s ((s.setOrigin request.origin result).setRequest place after) place
        request after result := by
    intro after result hcall
    exact ⟨hrequest, hcall, rfl, fun origin => originState_setOrigin, rfl, rfl⟩
  dsimp only at htakes hfresh ⊢
  unfold Pool.takeStep
  split
  · next entry hlast hnotFresh =>
    have hsplit := congrArg (List.map Prod.fst)
      (List.dropLast_append_getLast? entry hlast)
    rw [List.map_append] at hsplit
    refine .handed entry.1 taken _ (hmoves _ _ rfl) ?_ htakes.count rfl rfl
    rw [List.append_assoc]
    exact htakes.idle.trans (congrArg (taken ++ ·) hsplit.symm)
  · next hnone =>
    by_cases hroom : state.connectionCount < settings.maxConnections
    · rw [if_pos hroom]
      cases raises with
      | true =>
        refine .raised taken _ rfl (hmoves _ _ rfl) htakes.idle ?_ ?_
        · rw [htakes.count]
          rfl
        · exact hroom
      | false =>
        refine .made taken ⟨state.connectionCount + 1, state.idle⟩
          ⟨hrequest, rfl, rfl, fun origin => ?_, rfl, rfl⟩ htakes.idle ?_ hroom
          rfl rfl
        · exact originState_setOrigin
        · rw [htakes.count]
          rfl
    · rw [if_neg hroom]
      have hkept : taken = [] := by
        have hcount := htakes.count
        rw [Pool.originState] at hbounded
        by_contra hne
        have hpos := List.length_pos_iff.mpr hne
        omega
      subst hkept
      have hnoIdle : state.idle = [] := by
        cases hfirst : request.requireFresh with
        | true => exact hfresh hfirst rfl
        | false =>
          rw [← List.getLast?_eq_none_iff]
          cases hlast : state.idle.getLast? with
          | none => rfl
          | some entry => exact absurd hfirst (hnone entry hlast)
      have hwasNoIdle : (s.originState request.origin).idle = [] := by
        have hidle := htakes.idle
        rw [OriginState.idleConnections, OriginState.idleConnections, hnoIdle]
          at hidle
        exact List.map_eq_nil_iff.mp hidle
      have hcount : state.connectionCount =
          (s.originState request.origin).connectionCount := by
        rw [htakes.count]
        exact sub_zero _
      rw [List.append_nil]
      split
      · exact .refused .ended state (Or.inl rfl) (hmoves _ _ rfl) hwasNoIdle
          hnoIdle hcount (not_lt.mp hroom) rfl rfl
      · exact .refused _ state (Or.inr rfl) (hmoves _ _ rfl) hwasNoIdle
          hnoIdle hcount (not_lt.mp hroom) rfl rfl

omit [DecidableEq ω] in
theorem uses_of_inUse_some {request : Request ω} {connection : Connection ω}
    (hsome : request.inUse = some connection) : request.uses = 1 := by
  rw [Request.uses, hsome]
  rfl

omit [DecidableEq ω] in
theorem uses_of_inUse_none {request : Request ω} (hnone : request.inUse = none) :
    request.uses = 0 := by
  rw [Request.uses, hnone]
  rfl

theorem Covered.locked (covered : Covered settings s)
    (hopen : s.isClosed = false) (hunused : request.inUse = none)
    (hstale : stale = [])
    (hlocked : Locked settings s s' place request deadline raises stale) :
    Covered settings s' := by
  have hbounded := covered.bounded request.origin
  have hhomes := covered.homes request.origin
  have hstill : ∀ after state, Moves s s' place request after state →
      s'.isClosed = true → ∀ origin, s'.origins.lookup origin = none := by
    intro after state hmoves hclosed
    rw [hmoves.isClosed, hopen] at hclosed
    cases hclosed
  have hunuse := uses_of_inUse_none hunused
  cases hlocked with
  | handed connection taken state moves idle count closed opened =>
    have hall := congrArg List.length idle
    simp only [OriginState.length_idleConnections, List.length_append,
      List.length_singleton] at hall
    rw [idle] at hhomes
    refine covered.move moves ?_ (by omega) ?_ ?_ ?_ (hstill _ _ moves)
    · intro _
      rw [hunuse, uses_of_inUse_some rfl]
      omega
    · intro other hother
      exact hhomes other (by simp [hother])
    · rintro other hother
      cases hother
      exact hhomes connection (by simp)
    · rintro (hblocked | hwoken)
      · cases hblocked
      · cases hwoken
  | made taken state moves idle count room closed opened =>
    have hall := congrArg List.length idle
    simp only [OriginState.length_idleConnections, List.length_append] at hall
    rw [idle] at hhomes
    refine covered.move moves ?_ room ?_ ?_ ?_ (hstill _ _ moves)
    · intro _
      rw [hunuse, uses_of_inUse_some rfl]
      omega
    · intro other hother
      exact hhomes other (by simp [hother])
    · rintro other hother
      cases hother
      rfl
    · rintro (hblocked | hwoken)
      · cases hblocked
      · cases hwoken
  | raised taken state raises moves idle count room =>
    have hall := congrArg List.length idle
    simp only [OriginState.length_idleConnections, List.length_append] at hall
    rw [idle] at hhomes
    refine covered.move moves ?_ room ?_ ?_ ?_ (hstill _ _ moves)
    · intro _
      rw [hunuse, uses_of_inUse_none rfl]
      omega
    · intro other hother
      exact hhomes other (by simp [hother])
    · rintro other hother
      cases hother
    · rintro (hblocked | hwoken)
      · cases hblocked
      · cases hwoken
  | refused phase state waits moves idle same count full closed opened =>
    have hnone : ({ request with phase := phase } : Request ω).inUse = none := by
      obtain rfl | rfl := waits <;> rfl
    refine covered.move moves ?_ (by omega) ?_ ?_ ?_ (hstill _ _ moves)
    · intro _
      rw [hunuse, uses_of_inUse_none hnone, idle, same]
      omega
    · rw [OriginState.idleConnections, same]
      exact fun other hother => absurd hother List.not_mem_nil
    · rw [hnone]
      rintro other hother
      cases hother
    · rintro _
      subst hstale
      obtain rfl | rfl := waits <;> rfl

theorem Exact.locked (exact : Exact s) (covered : Covered settings s)
    (hunused : request.inUse = none) (hheld : request.held = [])
    (hstale : stale = [])
    (hlocked : Locked settings s s' place request deadline false stale) :
    Exact s' := by
  have hunuse := uses_of_inUse_none hunused
  cases hlocked with
  | handed connection taken state moves idle count closed opened =>
    have hall := congrArg List.length idle
    simp only [OriginState.length_idleConnections, List.length_append,
      List.length_singleton] at hall
    refine exact.move moves ?_ ?_
    · intro _
      rw [hunuse, uses_of_inUse_some rfl]
      omega
    · have hhome := covered.homes request.origin
      rw [idle] at hhome
      have hmoved := moves.count_idle (connection :: taken) [] (fun other hother => hhome other (by
          simp only [List.mem_append, List.mem_cons] at hother ⊢
          tauto)) (List.forall_mem_nil _) fun other => by
            rw [idle]
            simp only [List.count_append, List.count_cons, List.count_nil]
            omega
      intro other
      have hother := hmoved other
      rw [closed, Pool.isOpened, Pool.isOpened, opened, Request.holds,
        Request.holds, hheld]
      simp only [Request.held, hstale, List.nil_append, List.count_cons,
        List.count_nil] at hother ⊢
      omega
  | made taken state moves idle count room closed opened =>
    have hall := congrArg List.length idle
    simp only [OriginState.length_idleConnections, List.length_append] at hall
    refine exact.move moves ?_ ?_
    · intro _
      rw [hunuse, uses_of_inUse_some rfl]
      omega
    · have hhome := covered.homes request.origin
      rw [idle] at hhome
      have hmoved := moves.count_idle taken []
        (fun other hother => hhome other (List.mem_append_left _ hother))
        (List.forall_mem_nil _) fun other => by
          rw [idle, List.count_append, List.count_nil]
          omega
      intro other
      have hother := hmoved other
      have hnew := isOpened_of_update opened other
      rw [closed, hnew, Request.holds, Request.holds, hheld]
      simp only [Request.held, hstale, List.nil_append, List.count_cons,
        List.count_nil] at hother ⊢
      omega
  | raised taken state raises => cases raises
  | refused phase state waits moves idle same count full closed opened =>
    have hnone : ({ request with phase := phase } : Request ω).inUse = none := by
      obtain rfl | rfl := waits <;> rfl
    refine exact.move moves ?_ ?_
    · intro _
      rw [hunuse, uses_of_inUse_none hnone, idle, same]
      omega
    · intro other
      have hother := moves.count_idle [] []
        (List.forall_mem_nil _) (List.forall_mem_nil _) (fun connection => by
          rw [OriginState.idleConnections, OriginState.idleConnections, idle,
            same]) other
      have hnothing : ({ request with phase := phase } : Request ω).held =
          [] := by
        obtain rfl | rfl := waits
        · rfl
        · exact hstale
      rw [closed, Pool.isOpened, Pool.isOpened, opened, Request.holds,
        Request.holds, hheld, hnothing]
      omega

end Acquiring

end PycloudParallel.HttpPool
