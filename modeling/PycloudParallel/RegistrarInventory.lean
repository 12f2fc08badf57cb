import PycloudParallel.RegistrarModel

/-!
# Inventory updates of the registrar

A change of the node is followed by `request_sync`, which raises the flag that
the next exchange reads; the reply to an exchange with an inventory clears it.
Where changes and exchanges with an inventory do not overlap, the flag is only
cleared for a snapshot with all the changes, and the InfoCenter never stores an
older inventory over a newer one.
-/

namespace PycloudParallel.Registrar

open OrderedDict

def Call.contains (change : ℕ) : Call → Bool
  | .waiting _ _ (some contained) _ => change ≤ contained
  | _ => true

def Call.isWaiting : Call → Bool
  | .waiting _ _ _ _ => true
  | _ => false

def Call.bringsInventory : Call → Bool
  | .register _ => true
  | .heartbeat includeInventory _ => includeInventory
  | _ => false

def Request.pendingInventory {ι : Type*} (request : Request ι) : Bool :=
  match request.stage with
  | .sent | .looked _ => request.body.inventory?.isSome
  | .replied _ _ => false

namespace System

variable {ι : Type*} {system middle after : System ι}

/-- `request_sync` is not called for a change while an exchange is under way
whose inventory is from before it, and no snapshot with an inventory is taken
while the InfoCenter has still to handle an earlier one. -/
def keepsOrder (system : System ι) : Label ι → Bool
  | .requestSync change => system.calls.values.all (Call.contains change)
  | .snapshot thread =>
    !(system.calls.lookup thread).any Call.bringsInventory ||
      system.requests.values.all fun request => !request.pendingInventory
  | _ => true

def CallSound (requested : ℕ) : Call → Prop
  | .waiting _ registration changes _ =>
    (registration = true → changes.isSome = true) ∧
      ∀ contained, changes = some contained → requested ≤ contained
  | _ => True

structure FlagSound (system : System ι) : Prop where
  requested : system.requested ≤ system.inventory.changes
  unrequested : ∀ change ∈ system.unrequested, change ≤ system.inventory.changes
  calls : ∀ thread call, system.calls.lookup thread = some call →
    CallSound system.requested call
  cleared : ∀ reply ∈ system.cleared, reply.1 ≤ reply.2
  raised : system.forceInventorySync = true ∨
    ∃ reply ∈ system.cleared, system.requested ≤ reply.2

structure StoredSound (system : System ι) : Prop where
  sorted : system.stored.Pairwise (· ≤ ·)
  current : ∀ changes ∈ system.stored, changes ≤ system.inventory.changes
  pending : ∀ request entry inventory,
    system.requests.lookup request = some entry →
    entry.pendingInventory = true → entry.body.inventory? = some inventory →
    inventory.changes ≤ system.inventory.changes ∧
      ∀ changes ∈ system.stored, changes ≤ inventory.changes
  single : ∀ one two first second, system.requests.lookup one = some first →
    system.requests.lookup two = some second → first.pendingInventory = true →
    second.pendingInventory = true → one = two

/-- A step that leaves the flag and the exchanges alone: threads end or go on,
and none of them starts to wait. -/
structure Quiet (system after : System ι) : Prop where
  inventory : after.inventory = system.inventory
  unrequested : after.unrequested = system.unrequested
  flag : after.forceInventorySync = system.forceInventorySync
  requests : after.requests = system.requests
  requested : after.requested = system.requested
  cleared : after.cleared = system.cleared
  stored : after.stored = system.stored
  calls : ∀ thread call, after.calls.lookup thread = some call →
    system.calls.lookup thread = some call ∨ call.isWaiting = false

theorem Quiet.trans (hfirst : Quiet system middle) (hsecond : Quiet middle after) :
    Quiet system after where
  inventory := hsecond.inventory.trans hfirst.inventory
  unrequested := hsecond.unrequested.trans hfirst.unrequested
  flag := hsecond.flag.trans hfirst.flag
  requests := hsecond.requests.trans hfirst.requests
  requested := hsecond.requested.trans hfirst.requested
  cleared := hsecond.cleared.trans hfirst.cleared
  stored := hsecond.stored.trans hfirst.stored
  calls := by
    intro thread call hlookup
    cases hsecond.calls thread call hlookup with
    | inl hmiddle => exact hfirst.calls thread call hmiddle
    | inr hnew => exact .inr hnew

section

variable (system : System ι) (thread : ℕ)

theorem quiet_update (registered : Bool) (heartbeatFuture : Option ℕ)
    (futures : OrderedDict ℕ Outcome) (answers : List Bool) :
    Quiet system { system with
      registered := registered
      heartbeatFuture := heartbeatFuture
      futures := futures
      answers := answers } :=
  ⟨rfl, rfl, rfl, rfl, rfl, rfl, rfl, fun _ _ hlookup => .inl hlookup⟩

theorem quiet_setCall {call : Call} (hcall : call.isWaiting = false) :
    Quiet system (system.setCall thread call) := by
  refine ⟨rfl, rfl, rfl, rfl, rfl, rfl, rfl, ?_⟩
  intro other found hlookup
  unfold setCall at hlookup
  obtain ⟨rfl, rfl⟩ | hlookup := of_lookup_set hlookup
  · exact .inr hcall
  · exact .inl hlookup

theorem quiet_endCall : Quiet system (system.endCall thread) := by
  refine ⟨rfl, rfl, rfl, rfl, rfl, rfl, rfl, ?_⟩
  intro other found hlookup
  unfold endCall at hlookup
  dsimp only at hlookup
  exact .inl (of_lookup_erase hlookup)

theorem quiet_continueWith (next : Continuation) :
    Quiet system (system.continueWith thread next) := by
  cases next with
  | decide context | submit => exact quiet_setCall system thread rfl
  | finish => exact quiet_endCall system thread

theorem quiet_handleSyncException (error : ExchangeError) (wasRegistered : Bool)
    (next : Continuation) :
    Quiet system
      (system.handleSyncException thread error wasRegistered next) := by
  unfold handleSyncException
  have hcleared := quiet_update system false system.heartbeatFuture
    system.futures system.answers
  dsimp only
  split
  · exact hcleared.trans (quiet_setCall _ thread rfl)
  · exact hcleared.trans (quiet_continueWith _ thread next)

theorem quiet_drain (leaseExpired : Bool) (next : Continuation) :
    Quiet system (system.drain thread leaseExpired next) := by
  unfold drain
  split
  · exact quiet_continueWith system thread next
  · split
    · exact quiet_setCall system thread rfl
    · have hexpired := quiet_update system (system.registered && !leaseExpired)
        system.heartbeatFuture system.futures system.answers
      exact hexpired.trans (quiet_continueWith _ thread next)

theorem quiet_consume (outcome : Outcome) (next : Continuation) :
    Quiet system (system.consume thread outcome next) := by
  unfold consume
  have htaken := quiet_update system system.registered none system.futures
    system.answers
  cases outcome with
  | returned => exact htaken.trans (quiet_continueWith _ thread next)
  | raised error =>
    exact htaken.trans (quiet_handleSyncException _ thread error true next)

theorem quiet_decide (context : SyncContext) :
    Quiet system (system.decide thread context) := by
  unfold decide
  split
  · exact quiet_setCall system thread rfl
  · split <;> exact quiet_setCall system thread rfl

theorem quiet_submit {background : ℕ}
    (hsubmit : system.submit thread background = some after) :
    Quiet system after := by
  unfold submit at hsubmit
  dsimp only at hsubmit
  split at hsubmit
  · cases hsubmit
    exact quiet_endCall system thread
  · split at hsubmit
    · cases hsubmit
    · cases hsubmit
      have hbegun := (quiet_endCall system thread).trans
        (quiet_setCall _ background
          (rfl : (Call.beginHeartbeat false .background).isWaiting = false))
      exact hbegun.trans (quiet_update _ _ _ _ _)

theorem quiet_returned (purpose : Purpose) :
    Quiet system (system.returned thread purpose) := by
  have hended := quiet_endCall system thread
  cases purpose with
  | sync wasRegistered => exact hended
  | background | final => exact hended.trans (quiet_update _ _ _ _ _)
  | reregister next => exact quiet_continueWith system thread next

theorem quiet_raised (error : ExchangeError) (purpose : Purpose) :
    Quiet system (system.raised thread error purpose) := by
  have hended := quiet_endCall system thread
  cases purpose with
  | sync wasRegistered =>
    exact quiet_handleSyncException system thread error wasRegistered _
  | background | final => exact hended.trans (quiet_update _ _ _ _ _)
  | reregister next => exact quiet_continueWith system thread next

end

theorem FlagSound.quiet (hsound : system.FlagSound)
    (hquiet : Quiet system after) : after.FlagSound where
  requested := by
    rw [hquiet.requested, hquiet.inventory]
    exact hsound.requested
  unrequested := by
    rw [hquiet.unrequested, hquiet.inventory]
    exact hsound.unrequested
  calls := by
    intro thread call hlookup
    rw [hquiet.requested]
    cases hquiet.calls thread call hlookup with
    | inl hold => exact hsound.calls thread call hold
    | inr hnew =>
      cases call with
      | waiting request registration changes purpose => cases hnew
      | _ => trivial
  cleared := by
    rw [hquiet.cleared]
    exact hsound.cleared
  raised := by
    rw [hquiet.cleared, hquiet.flag, hquiet.requested]
    exact hsound.raised

theorem FlagSound.congr (hsound : system.FlagSound)
    (hinventory : after.inventory = system.inventory)
    (hunrequested : after.unrequested = system.unrequested)
    (hcalls : after.calls = system.calls)
    (hrequested : after.requested = system.requested)
    (hcleared : after.cleared = system.cleared)
    (hflag : after.forceInventorySync = system.forceInventorySync) :
    after.FlagSound where
  requested := by
    rw [hrequested, hinventory]
    exact hsound.requested
  unrequested := by
    rw [hunrequested, hinventory]
    exact hsound.unrequested
  calls := by
    rw [hcalls, hrequested]
    exact hsound.calls
  cleared := by
    rw [hcleared]
    exact hsound.cleared
  raised := by
    rw [hflag, hcleared, hrequested]
    exact hsound.raised

section

variable (hsound : system.StoredSound)

include hsound

theorem StoredSound.congr (hinventory : after.inventory = system.inventory)
    (hrequests : after.requests = system.requests)
    (hstored : after.stored = system.stored) : after.StoredSound where
  sorted := by
    rw [hstored]
    exact hsound.sorted
  current := by
    rw [hstored, hinventory]
    exact hsound.current
  pending := by
    rw [hrequests, hinventory, hstored]
    exact hsound.pending
  single := by
    rw [hrequests]
    exact hsound.single

theorem StoredSound.quiet (hquiet : Quiet system after) : after.StoredSound :=
  hsound.congr hquiet.inventory hquiet.requests hquiet.stored

theorem StoredSound.narrow {requests : OrderedDict ℕ (Request ι)}
    (hnarrow : ∀ request entry, requests.lookup request = some entry →
      entry.pendingInventory = true →
      ∃ earlier, system.requests.lookup request = some earlier ∧
        earlier.pendingInventory = true ∧
        earlier.body.inventory? = entry.body.inventory?) :
    ({ system with requests := requests } : System ι).StoredSound where
  sorted := hsound.sorted
  current := hsound.current
  pending := by
    intro request entry inventory hlookup hpending hbody
    obtain ⟨earlier, hearlier, hwas, hsame⟩ :=
      hnarrow request entry hlookup hpending
    exact hsound.pending request earlier inventory hearlier hwas
      (hsame.trans hbody)
  single := by
    intro one two first second hfirst hsecond honePending htwoPending
    obtain ⟨_, hone, hfirstWas, _⟩ := hnarrow one first hfirst honePending
    obtain ⟨_, htwo, hsecondWas, _⟩ := hnarrow two second hsecond htwoPending
    exact hsound.single one two _ _ hone htwo hfirstWas hsecondWas

theorem StoredSound.eraseRequest (request : ℕ) :
    ({ system with requests := system.requests.erase request } :
      System ι).StoredSound := by
  apply hsound.narrow
  intro other entry hlookup hpending
  exact ⟨entry, of_lookup_erase hlookup, hpending, rfl⟩

end

variable {body : RequestBody ι} {request : ℕ} {stage : RequestStage}
  {purpose : Purpose} {registration : Bool} {changes : Option ℕ}

theorem StoredSound.setStage {next : RequestStage} (hsound : system.StoredSound)
    (hlookup : system.requests.lookup request = some ⟨body, stage⟩)
    (hnext : (⟨body, next⟩ : Request ι).pendingInventory = true →
      (⟨body, stage⟩ : Request ι).pendingInventory = true) :
    (system.setStage request body next).StoredSound := by
  apply hsound.narrow
  intro other entry hother hpending
  obtain ⟨rfl, rfl⟩ | hother := of_lookup_set hother
  · exact ⟨_, hlookup, hnext hpending, rfl⟩
  · exact ⟨entry, hother, hpending, rfl⟩

theorem StoredSound.store {record : NodeRecord ι} {reply : Reply}
    (hsound : system.StoredSound)
    (hlookup : system.requests.lookup request = some ⟨body, stage⟩)
    (hpending : ∀ inventory, body.inventory? = some inventory →
      (⟨body, stage⟩ : Request ι).pendingInventory = true) :
    ((system.storeRecord record body.inventory?).setStage request body
      (.replied reply system.era)).StoredSound := by
  have hhandled : ({ system with
      requests := system.requests.set request ⟨body, .replied reply system.era⟩ } :
        System ι).StoredSound := by
    apply hsound.setStage hlookup
    nofun
  cases hinventory : body.inventory? with
  | none =>
    refine hhandled.congr rfl rfl ?_
    exact List.append_nil _
  | some inventory =>
    obtain ⟨hcurrent, hlater⟩ := hsound.pending request _ inventory hlookup
      (hpending inventory hinventory) hinventory
    have hstored : ((system.storeRecord record (some inventory)).setStage
        request body (.replied reply system.era)).stored =
          system.stored ++ [inventory.changes] := rfl
    have hothers : ∀ other entry,
        (system.requests.set request
          ⟨body, .replied reply system.era⟩).lookup other = some entry →
        entry.pendingInventory ≠ true := by
      intro other entry hother hwaits
      rw [lookup_set] at hother
      split at hother
      · cases hother
        cases hwaits
      · next hne =>
        exact hne (hsound.single other request entry _ hother hlookup hwaits
          (hpending inventory hinventory))
    constructor
    · rw [hstored, List.pairwise_append]
      refine ⟨hsound.sorted, List.pairwise_singleton _ _, ?_⟩
      intro changes hchanges last hlast
      rw [List.mem_singleton] at hlast
      rw [hlast]
      exact hlater changes hchanges
    · intro changes hchanges
      rw [hstored, List.mem_append, List.mem_singleton] at hchanges
      cases hchanges with
      | inl hold => exact hsound.current changes hold
      | inr hnew =>
        rw [hnew]
        exact hcurrent
    · intro other entry _ hother hwaits
      exact absurd hwaits (hothers other entry hother)
    · intro one _ first _ hone _ hwaits
      exact absurd hwaits (hothers one first hone)

theorem StoredSound.send {thread : ℕ} (hsound : system.StoredSound)
    (hbody : ∀ inventory, body.inventory? = some inventory →
      inventory = system.inventory)
    (halone : body.inventory?.isSome = true →
      ∀ entry ∈ system.requests.values, entry.pendingInventory = false) :
    (system.send thread body registration purpose).StoredSound := by
  have hold : ∀ request entry, system.requests.lookup request = some entry →
      entry.pendingInventory = true → body.inventory?.isSome ≠ true := by
    intro request entry hlookup hpending hsome
    have hnone := halone hsome entry (mem_values.mpr ⟨_, hlookup⟩)
    rw [hpending] at hnone
    cases hnone
  refine ⟨hsound.sorted, hsound.current, ?_, ?_⟩
  · intro request entry inventory hlookup hpending hentry
    unfold System.send at hlookup
    obtain ⟨rfl, rfl⟩ | hlookup := of_lookup_set hlookup
    · rw [hbody inventory hentry]
      exact ⟨le_refl _, hsound.current⟩
    · exact hsound.pending request entry inventory hlookup hpending hentry
  · intro one two first second hone htwo hfirst hsecond
    unfold System.send at hone htwo
    dsimp only at hone htwo
    rw [lookup_set] at hone htwo
    split at hone
    · next honeNew =>
      split at htwo
      · next htwoNew => rw [honeNew, htwoNew]
      · cases hone
        exact absurd hfirst (hold two second htwo hsecond)
    · split at htwo
      · cases htwo
        exact absurd hsecond (hold one first hone hfirst)
      · exact hsound.single one two first second hone htwo hfirst hsecond

theorem FlagSound.send {thread : ℕ} (hsound : system.FlagSound)
    (hbody : ∀ inventory, body.inventory? = some inventory →
      inventory = system.inventory)
    (hregistration : registration = true → body.inventory?.isSome = true) :
    (system.send thread body registration purpose).FlagSound := by
  refine ⟨hsound.requested, hsound.unrequested, ?_, hsound.cleared,
    hsound.raised⟩
  intro other call hlookup
  unfold System.send setCall at hlookup
  obtain ⟨rfl, rfl⟩ | hlookup := of_lookup_set hlookup
  · refine ⟨?_, ?_⟩
    · intro hregister
      rw [Option.isSome_map]
      exact hregistration hregister
    · intro contained hcontained
      rw [Option.map_eq_some_iff] at hcontained
      obtain ⟨inventory, hinventory, rfl⟩ := hcontained
      rw [hbody inventory hinventory]
      exact hsound.requested
  · exact hsound.calls other call hlookup

theorem FlagSound.clear {contained : ℕ} {registered : Bool}
    (hsound : system.FlagSound) (hcontained : system.requested ≤ contained) :
    ({ system with
      registered := registered
      forceInventorySync := false
      cleared := system.cleared ++ [(system.requested, contained)] } :
        System ι).FlagSound := by
  refine ⟨hsound.requested, hsound.unrequested, hsound.calls, ?_, ?_⟩
  · intro reply hreply
    rw [List.mem_append, List.mem_singleton] at hreply
    cases hreply with
    | inl hold => exact hsound.cleared reply hold
    | inr hnew =>
      rw [hnew]
      exact hcontained
  · exact .inr ⟨_, List.mem_append_right _ (List.mem_singleton_self _), hcontained⟩

theorem FlagSound.answered {inventoryRequired : Bool}
    (hsound : system.FlagSound)
    (hregistration : registration = true → changes.isSome = true)
    (hcontained : ∀ contained, changes = some contained →
      system.requested ≤ contained) :
    (if registration then system.registerAnswered changes
      else system.heartbeatAnswered changes inventoryRequired).FlagSound := by
  cases registration with
  | true =>
    obtain ⟨contained, hchanges⟩ :=
      Option.isSome_iff_exists.mp (hregistration rfl)
    rw [if_pos rfl, hchanges]
    exact hsound.clear (hcontained contained hchanges)
  | false =>
    rw [if_neg Bool.false_ne_true]
    unfold heartbeatAnswered
    split
    · exact ⟨hsound.requested, hsound.unrequested, hsound.calls,
        hsound.cleared, .inl rfl⟩
    · cases hchanges : changes with
      | none => exact hsound
      | some contained => exact hsound.clear (hcontained contained hchanges)

theorem storedSound_answered {inventoryRequired : Bool}
    (hsound : system.StoredSound) :
    (if registration then system.registerAnswered changes
      else system.heartbeatAnswered changes inventoryRequired).StoredSound := by
  split
  · exact hsound.congr rfl rfl rfl
  · unfold heartbeatAnswered
    split
    · exact hsound.congr rfl rfl rfl
    · cases changes with
      | none => exact hsound
      | some contained => exact hsound.congr rfl rfl rfl

theorem quiet_noteReply (system : System ι) (reply : Reply) (era : ℕ) :
    Quiet system (system.noteReply reply era) := by
  unfold noteReply
  split <;> exact quiet_update system _ _ _ _

theorem storedSound_store (hsound : system.StoredSound)
    (hlookup : system.requests.lookup request = some ⟨body, stage⟩)
    (hstore : system.store request body stage = some after) :
    after.StoredSound := by
  unfold System.store at hstore
  split at hstore
  · split at hstore
    · next inventory =>
      cases hstore
      refine StoredSound.store hsound hlookup ?_
      exact fun _ _ => rfl
    · cases hstore
  · split at hstore
    · cases hstore
    · next inventory =>
      cases hstore
      refine StoredSound.store hsound hlookup ?_
      intro found hfound
      exact Option.isSome_of_eq_some hfound
  · cases hstore

theorem flagSound_store (hsound : system.FlagSound)
    (hstore : system.store request body stage = some after) :
    after.FlagSound := by
  unfold System.store at hstore
  split at hstore
  · split at hstore
    · cases hstore
      exact hsound.congr rfl rfl rfl rfl rfl rfl
    · cases hstore
  · split at hstore
    · cases hstore
    · cases hstore
      exact hsound.congr rfl rfl rfl rfl rfl rfl
  · cases hstore

structure InventorySound (system : System ι) : Prop where
  flag : system.FlagSound
  stored : system.StoredSound

section

variable (hsound : system.InventorySound)

include hsound

theorem InventorySound.quiet (hquiet : Quiet system after) :
    after.InventorySound :=
  ⟨hsound.flag.quiet hquiet, hsound.stored.quiet hquiet⟩

theorem InventorySound.change {reports : ι} : ({ system with
      inventory := ⟨reports, system.inventory.changes + 1⟩
      unrequested := system.unrequested ++ [system.inventory.changes + 1]
      history := system.history ++
        [⟨reports, system.inventory.changes + 1⟩] } :
          System ι).InventorySound := by
  refine ⟨⟨?_, ?_, hsound.flag.calls, hsound.flag.cleared, hsound.flag.raised⟩,
    ⟨hsound.stored.sorted, ?_, ?_, hsound.stored.single⟩⟩
  · exact hsound.flag.requested.trans (Nat.le_succ _)
  · intro change hchange
    rw [List.mem_append, List.mem_singleton] at hchange
    cases hchange with
    | inl hold =>
      exact (hsound.flag.unrequested change hold).trans (Nat.le_succ _)
    | inr hnew => exact hnew.le
  · intro changes hchanges
    exact (hsound.stored.current changes hchanges).trans (Nat.le_succ _)
  · intro request entry inventory hlookup hpending hbody
    obtain ⟨hcurrent, hlater⟩ :=
      hsound.stored.pending request entry inventory hlookup hpending hbody
    exact ⟨hcurrent.trans (Nat.le_succ _), hlater⟩

theorem InventorySound.requestSync {change : ℕ}
    (hmem : change ∈ system.unrequested)
    (hkeeps : ∀ call ∈ system.calls.values, call.contains change = true) :
    ({ system with
      unrequested := system.unrequested.erase change
      forceInventorySync := true
      requested := max system.requested change } :
        System ι).InventorySound := by
  refine ⟨⟨?_, ?_, ?_, hsound.flag.cleared, .inl rfl⟩,
    hsound.stored.congr rfl rfl rfl⟩
  · exact Nat.max_le.mpr
      ⟨hsound.flag.requested, hsound.flag.unrequested change hmem⟩
  · intro other hother
    exact hsound.flag.unrequested other (List.mem_of_mem_erase hother)
  · intro thread call hlookup
    have hcall := hsound.flag.calls thread call hlookup
    have hcontains := hkeeps call (mem_values.mpr ⟨_, hlookup⟩)
    cases call with
    | waiting request registration changes purpose =>
      refine ⟨hcall.1, ?_⟩
      rintro contained rfl
      exact Nat.max_le.mpr
        ⟨hcall.2 contained rfl, of_decide_eq_true hcontains⟩
    | _ => trivial

theorem InventorySound.snapshot {thread : ℕ} {call : Call}
    (hkeeps : system.keepsOrder (.snapshot thread) = true)
    (hcall : system.calls.lookup thread = some call)
    (hbrings : body.inventory?.isSome = true → call.bringsInventory = true)
    (hbody : ∀ inventory, body.inventory? = some inventory →
      inventory = system.inventory)
    (hregistration : registration = true → body.inventory?.isSome = true) :
    (system.send thread body registration purpose).InventorySound := by
  refine ⟨hsound.flag.send hbody hregistration, hsound.stored.send hbody ?_⟩
  intro hsome entry hentry
  simp only [keepsOrder, hcall, Option.any_some, hbrings hsome, Bool.not_true,
    Bool.false_or, List.all_eq_true, Bool.not_eq_true'] at hkeeps
  exact hkeeps entry hentry

theorem InventorySound.answer {thread : ℕ} {reply : Reply} {era : ℕ}
    (hlookup : system.calls.lookup thread =
      some (.waiting request registration changes purpose)) :
    (system.answer thread request registration changes purpose reply
      era).InventorySound := by
  have hcall := hsound.flag.calls thread _ hlookup
  have herased : ({ system with requests := system.requests.erase request } :
      System ι).InventorySound :=
    ⟨hsound.flag.congr rfl rfl rfl rfl rfl rfl,
      hsound.stored.eraseRequest request⟩
  have hquiet := quiet_noteReply
    { system with requests := system.requests.erase request } reply era
  have hnoted := herased.quiet hquiet
  unfold System.answer
  dsimp only
  apply InventorySound.quiet _ (quiet_returned _ thread purpose)
  split
  · exact hnoted
  · refine ⟨hnoted.flag.answered hcall.1 ?_, storedSound_answered hnoted.stored⟩
    intro contained hcontained
    rw [hquiet.requested]
    exact hcall.2 contained hcontained

theorem inventorySound_step {label : Label ι}
    (hkeeps : system.keepsOrder label = true)
    (hstep : system.step label = some after) : after.InventorySound := by
  cases label with
  | change reports =>
    simp only [step, Option.some.injEq] at hstep
    subst hstep
    exact hsound.change
  | requestSync change =>
    simp only [step] at hstep
    split at hstep
    · next hmem =>
      cases hstep
      exact hsound.requestSync hmem (List.all_eq_true.mp hkeeps)
    · cases hstep
  | enter thread syncHeartbeat | close thread =>
    simp only [step] at hstep
    split at hstep
    · cases hstep
    · cases hstep
      exact hsound.quiet (quiet_setCall system thread rfl)
  | drain thread leaseExpired =>
    simp only [step] at hstep
    split at hstep
    · cases hstep
      exact hsound.quiet (quiet_drain system thread leaseExpired _)
    · cases hstep
  | consume thread =>
    simp only [step] at hstep
    split at hstep
    · cases hstep
      exact hsound.quiet (quiet_consume system thread _ _)
    · cases hstep
  | decide thread =>
    simp only [step] at hstep
    split at hstep
    · cases hstep
      exact hsound.quiet (quiet_decide system thread _)
    · cases hstep
  | submit thread background =>
    simp only [step] at hstep
    split at hstep
    · exact hsound.quiet (quiet_submit system thread hstep)
    · cases hstep
  | beginHeartbeat thread inventoryDue =>
    simp only [step] at hstep
    split at hstep
    · cases hstep
      exact hsound.quiet (quiet_setCall system thread rfl)
    · cases hstep
  | snapshot thread =>
    simp only [step] at hstep
    split at hstep
    · next hlookup =>
      cases hstep
      apply hsound.snapshot hkeeps hlookup
      · exact fun _ => rfl
      · rintro _ ⟨⟩
        rfl
      · exact fun _ => rfl
    · next includeInventory purpose hlookup =>
      cases hstep
      apply hsound.snapshot hkeeps hlookup
      · cases includeInventory with
        | false => nofun
        | true => exact fun _ => rfl
      · cases includeInventory with
        | false => nofun
        | true =>
          rintro _ ⟨⟩
          rfl
      · nofun
    · cases hstep
  | answer thread =>
    simp only [step] at hstep
    split at hstep
    · next hlookup =>
      split at hstep
      · cases hstep
        exact hsound.answer hlookup
      · cases hstep
    · cases hstep
  | fail thread error =>
    simp only [step] at hstep
    split at hstep
    all_goals
      first
      | cases hstep
        have hnoted := quiet_update system system.registered
          system.heartbeatFuture system.futures (system.answers ++ [false])
        exact hsound.quiet (hnoted.trans (quiet_raised _ thread error _))
      | cases hstep
  | look request listed =>
    simp only [step] at hstep
    split at hstep
    · next hlookup =>
      cases hstep
      refine ⟨hsound.flag.congr rfl rfl rfl rfl rfl rfl, ?_⟩
      exact hsound.stored.setStage hlookup fun hpending => hpending
    · cases hstep
  | store request =>
    simp only [step] at hstep
    split at hstep
    · next body stage hlookup =>
      exact ⟨flagSound_store hsound.flag hstep,
        storedSound_store hsound.stored hlookup hstep⟩
    · cases hstep
  | reject request =>
    simp only [step] at hstep
    split at hstep
    · cases hstep
    · next hlookup =>
      cases hstep
      refine ⟨hsound.flag.congr rfl rfl rfl rfl rfl rfl, ?_⟩
      apply hsound.stored.setStage hlookup
      nofun
    · cases hstep
  | discard request =>
    simp only [step] at hstep
    split at hstep
    · cases hstep
      exact ⟨hsound.flag.congr rfl rfl rfl rfl rfl rfl,
        hsound.stored.eraseRequest request⟩
    · cases hstep
  | lose =>
    simp only [step, Option.some.injEq] at hstep
    subst hstep
    exact ⟨hsound.flag.congr rfl rfl rfl rfl rfl rfl,
      hsound.stored.congr rfl rfl rfl⟩

end

theorem inventorySound_initial (identity : NodeIdentity) (reports : ι) :
    (initial identity reports).InventorySound where
  flag :=
    { requested := le_refl 0
      unrequested := nofun
      calls := nofun
      cleared := nofun
      raised := .inl rfl }
  stored :=
    { sorted := .nil
      current := nofun
      pending := nofun
      single := nofun }

theorem beginHeartbeat_includes {thread : ℕ} {inventoryDue : Bool}
    (hflag : system.forceInventorySync = true)
    (hbegin : system.step (.beginHeartbeat thread inventoryDue) = some after) :
    ∃ purpose, after.calls.lookup thread = some (.heartbeat true purpose) := by
  simp only [step] at hbegin
  split at hbegin
  · next forceInventory purpose _ =>
    cases hbegin
    refine ⟨purpose, ?_⟩
    unfold setCall
    dsimp only
    rw [lookup_set_self, hflag, Bool.or_true, Bool.true_or]
  · cases hbegin

/-- No update is lost or overtaken: each reply that cleared the flag was to a
snapshot with all changes requested by then, and inventories are stored in the
order of their snapshots. -/
theorem inventory_updates_kept {identity : NodeIdentity} {reports : ι}
    (hrun : GuardedRun step (fun system label => system.keepsOrder label = true)
      (initial identity reports) system) :
    (∀ reply ∈ system.cleared, reply.1 ≤ reply.2) ∧
    (system.forceInventorySync = true ∨
      ∃ reply ∈ system.cleared, system.requested ≤ reply.2) ∧
    (system.forceInventorySync = true → ∀ thread inventoryDue after,
      system.step (.beginHeartbeat thread inventoryDue) = some after →
      ∃ purpose, after.calls.lookup thread = some (.heartbeat true purpose)) ∧
    system.stored.Pairwise (· ≤ ·) := by
  have hsound : system.InventorySound := hrun.invariant InventorySound
    (inventorySound_initial identity reports)
    fun _ _ _ hsound hkeeps hstep => inventorySound_step hsound hkeeps hstep
  refine ⟨hsound.flag.cleared, hsound.flag.raised, ?_, hsound.stored.sorted⟩
  intro hflag thread inventoryDue after hbegin
  exact beginHeartbeat_includes hflag hbegin

/-- A node that registers, changes and sends a heartbeat with the change. -/
theorem sample_inventory_updates_kept : ∃ system : System ℕ,
    system.cleared = [(0, 0), (1, 1)] ∧ system.stored = [0, 1] ∧
    ∀ reply ∈ system.cleared, reply.1 ≤ reply.2 := by
  have hrun : (checkedRun step
      (fun system label => system.keepsOrder label = true)
      (initial (.create "10.0.0.5:50061" 4 64 []) 7)
      [.enter 1 true, .drain 1 false, .decide 1, .snapshot 1, .store 0,
        .answer 1, .change 8, .requestSync 1, .enter 2 true, .drain 2 false,
        .decide 2, .beginHeartbeat 2 false, .snapshot 2, .look 1 true, .store 1,
        .answer 2]).any (fun system =>
          system.cleared = [(0, 0), (1, 1)] ∧ system.stored = [0, 1]) =
            true := by
    decide +kernel
  rw [Option.any_eq_true] at hrun
  obtain ⟨system, hsystem, hfacts⟩ := hrun
  obtain ⟨hcleared, hstored⟩ := of_decide_eq_true hfacts
  have hkept := inventory_updates_kept (guardedRun_of_checkedRun _ hsystem)
  exact ⟨system, hcleared, hstored, hkept.1⟩

/-- A change behind the snapshot of a registration: its reply clears the flag
that the change raised, and no inventory has the change. -/
theorem inventory_update_lost : ∃ system : System ℕ,
    Reachable step (initial (.create "10.0.0.5:50061" 4 64 []) 7) system ∧
    system.forceInventorySync = false ∧ system.requested = 1 ∧
    system.cleared = [(1, 0)] ∧ system.stored = [0] := by
  have hrun : (runLabels step (initial (.create "10.0.0.5:50061" 4 64 []) 7)
      [.enter 1 true, .drain 1 false, .decide 1, .snapshot 1, .change 8,
        .requestSync 1, .store 0, .answer 1]).any (fun system =>
          system.forceInventorySync = false ∧ system.requested = 1 ∧
          system.cleared = [(1, 0)] ∧ system.stored = [0]) = true := by
    decide +kernel
  rw [Option.any_eq_true] at hrun
  obtain ⟨system, hsystem, hfacts⟩ := hrun
  exact ⟨system, reachable_of_runLabels _ hsystem, of_decide_eq_true hfacts⟩

end System

end PycloudParallel.Registrar
