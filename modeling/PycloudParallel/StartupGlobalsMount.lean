import PycloudParallel.StartupGlobalsReplay

/-!
# A service that is mounted behind its updates

The globals of a service are those of a service that is mounted first exactly
if no update that an address keeps is refused and the updates that were
replaced, or replaced out of their order, give no name another value.
-/

namespace PycloudParallel.StartupGlobals

open PycloudParallel.Texts (strip)

variable {V : Type}

namespace NodeEvent

def isUpdate : NodeEvent V → Bool
  | .update _ _ _ => true
  | .mount _ => false

end NodeEvent

section Orders

variable (around : Surroundings V) (service : Service V) (events : List (NodeEvent V))

def mountedAfter : Node V × Except GlobalsError Unit :=
  (Node.init.run around events).mountStartupService around service

def mountedBefore : Node V :=
  (Node.init.mountStartupService around service).1.run around
    (events.filter NodeEvent.isUpdate)

def globalsOf (node : Node V) : Option (Globals V) :=
  (node.startupServices.lookup service.serviceId).map Service.globals

/-- The globals do not depend on when the service is mounted, and a mount that
raises leaves no trace. -/
structure CountAlike : Prop where
  globals : globalsOf service (mountedAfter around service events).1 =
    globalsOf service (mountedBefore around service events)
  undone : ∀ exc, (mountedAfter around service events).2 = .error exc →
    (mountedAfter around service events).1.startupServices.lookup
        service.serviceId = none ∧
      (mountedAfter around service events).1.pendingStartupGlobals =
        (Node.init.run around events).pendingStartupGlobals

/-- The last updates of the addresses are not refused and give every name the
value that the updates give it one after the other. -/
structure LastUpdatesSuffice (updates : List (Address × Values V)) : Prop where
  accepted : ∀ item ∈ lastUpdates updates, service.rejects around item.2 = false
  values : ∀ name,
    (given (allValues (lastUpdates updates)) name).or (service.globals name) =
      (given (allValues (acceptedUpdates service around updates)) name).or
        (service.globals name)

end Orders

variable {around : Surroundings V} {service : Service V} {events : List (NodeEvent V)}

def NoneHooks (service : Service V) (events : List (NodeEvent V)) : Prop :=
  ∀ item ∈ updatesFor service events, Unhooked item.2

theorem unhooked_allValues {updates : List (Address × Values V)}
    (hunhooked : ∀ item ∈ updates, Unhooked item.2) : Unhooked (allValues updates) := by
  induction updates with
  | nil => rfl
  | cons item rest ih =>
    exact given_append_none (hunhooked item List.mem_cons_self)
      (ih fun found hfound => hunhooked found (List.mem_cons_of_mem _ hfound))

theorem mem_lastUpdates {updates : List (Address × Values V)}
    {item : Address × Values V} (hmem : item ∈ lastUpdates updates) : item ∈ updates := by
  obtain ⟨address, -, hvalues⟩ := List.mem_filterMap.mp hmem
  obtain ⟨values, hlast, rfl⟩ := Option.map_eq_some_iff.mp hvalues
  obtain ⟨found, hfound, rfl⟩ := Option.map_eq_some_iff.mp hlast
  have hsame := List.find?_some hfound
  have haddress : found.1 = address := by simpa using hsame
  subst haddress
  exact List.mem_reverse.mp (List.mem_of_find?_eq_some hfound)

theorem mountedBefore_globals (hhookless : service.Hookless)
    (hnone : NoneHooks service events) :
    globalsOf service (mountedBefore around service events) =
      some (assignGlobals service.globals
        (allValues (acceptedUpdates service around (updatesFor service events)))) := by
  have honly : OnlyService (mountedBefore around service events) service
      (assignGlobals service.globals
        (allValues (acceptedUpdates service around (updatesFor service events)))) := by
    unfold mountedBefore
    induction events using List.reverseRecOn with
    | nil =>
      have hfirst : OnlyService (Node.init.setService service.serviceId service) service
          service.globals := rfl
      exact onlyService_set hfirst
    | append_singleton before event ih =>
      have hbefore : NoneHooks service before := by
        intro item hitem
        refine hnone item ?_
        rw [updatesFor_append]
        exact List.mem_append_left _ hitem
      have hstart := ih hbefore
      cases event with
      | mount other =>
        have hsame : updatesFor service (before ++ [.mount other]) =
            updatesFor service before := by
          rw [updatesFor_append]
          exact List.append_nil _
        rw [hsame, List.filter_append]
        simpa [NodeEvent.isUpdate] using hstart
      | update values serviceId serviceName =>
        have hunhooked : Unhooked (allValues (acceptedUpdates service around
            (updatesFor service before))) := by
          refine unhooked_allValues fun item hitem => hbefore item ?_
          exact (List.mem_filter.mp hitem).1
        have hstep := onlyService_update around hstart
          (hhookless.assign hunhooked) values serviceId serviceName
        rw [List.filter_append, updatesFor_append]
        simp only [List.filter_cons, NodeEvent.isUpdate, if_true, List.filter_nil,
          Node.run, List.foldl_append, List.foldl_cons, List.foldl_nil]
        rw [acceptedUpdates, List.filter_append, allValues, List.flatMap_append,
          assignGlobals_append]
        exact hstep
  unfold globalsOf
  rw [honly, OrderedDict.lookup_set_self]
  rfl

theorem pending_at_mount (around : Surroundings V)
    (hunclaimed : Unclaimed service events) :
    (OrderedDict.items (Node.init.run around events).pendingStartupGlobals).filter
        (fun item => addresses item.1 service) =
      lastUpdates (updatesFor service events) := by
  have hkept := keptFor_run around hunclaimed events fun _ hmem => hmem
  exact hkept.pending.trans (items_keep _)

/-- Updates before the mount count like updates behind it exactly if the last
updates of the addresses suffice. -/
theorem pending_updates_count_iff (hunclaimed : Unclaimed service events)
    (hhookless : service.Hookless) (hnone : NoneHooks service events) :
    CountAlike around service events ↔
      LastUpdatesSuffice around service (updatesFor service events) := by
  have hitems : ∀ item ∈ OrderedDict.items
      (Node.init.run around events).pendingStartupGlobals,
      addresses item.1 service = true →
        item ∈ lastUpdates (updatesFor service events) := by
    intro item hitem hmatch
    rw [← pending_at_mount around hunclaimed]
    exact List.mem_filter.mpr ⟨hitem, hmatch⟩
  have hunhooked : ∀ item ∈ lastUpdates (updatesFor service events), Unhooked item.2 :=
    fun item hitem => hnone item (mem_lastUpdates hitem)
  by_cases haccepted : ∀ item ∈ lastUpdates (updatesFor service events),
      service.rejects around item.2 = false
  · obtain ⟨keys, happly⟩ := applyItems_accepted around
      (OrderedDict.items (Node.init.run around events).pendingStartupGlobals) hhookless
      fun item hitem hmatch => ⟨haccepted item (hitems item hitem hmatch),
        hunhooked item (hitems item hitem hmatch)⟩
    rw [pending_at_mount around hunclaimed] at happly
    have hafter : globalsOf service (mountedAfter around service events).1 =
        some (assignGlobals service.globals
          (allValues (lastUpdates (updatesFor service events)))) := by
      unfold mountedAfter Node.mountStartupService globalsOf
      simp only [happly]
      change ((OrderedDict.set _ service.serviceId _).lookup service.serviceId).map _ = _
      rw [OrderedDict.lookup_set_self]
      rfl
    have hreturns : (mountedAfter around service events).2 = .ok () := by
      unfold mountedAfter Node.mountStartupService
      simp only [happly]
    constructor
    · intro halike
      refine ⟨haccepted, fun name => ?_⟩
      have hsame := halike.globals
      rw [hafter, mountedBefore_globals hhookless hnone] at hsame
      have hname := congrFun (Option.some.inj hsame) name
      rw [assignGlobals_eq, assignGlobals_eq] at hname
      exact hname
    · intro hsuffice
      refine ⟨?_, fun exc hexc => ?_⟩
      · rw [hafter, mountedBefore_globals hhookless hnone]
        refine congrArg some (funext fun name => ?_)
        rw [assignGlobals_eq, assignGlobals_eq]
        exact hsuffice.values name
      · rw [hreturns] at hexc
        cases hexc
  · have hrejected : ∃ item ∈ lastUpdates (updatesFor service events),
        service.rejects around item.2 = true := by
      push Not at haccepted
      obtain ⟨item, hitem, hrejects⟩ := haccepted
      exact ⟨item, hitem, by simpa using hrejects⟩
    constructor
    · intro halike
      obtain ⟨item, hitem, hrejects⟩ := hrejected
      rw [← pending_at_mount around hunclaimed] at hitem
      obtain ⟨hpending, hmatch⟩ := List.mem_filter.mp hitem
      obtain ⟨last, exc, happly⟩ := applyItems_rejected around
        (OrderedDict.items (Node.init.run around events).pendingStartupGlobals) hhookless
        (fun found hfound hmatches => hunhooked found (hitems found hfound hmatches))
        ⟨item, hpending, hmatch, hrejects⟩
      -- the service has been entered before the update is refused
      have hraises : (mountedAfter around service events).2 = .error exc := by
        unfold mountedAfter Node.mountStartupService
        simp only [happly]
      have hentered := (halike.undone exc hraises).1
      unfold mountedAfter Node.mountStartupService at hentered
      simp only [happly] at hentered
      change (OrderedDict.set _ service.serviceId _).lookup service.serviceId = none
        at hentered
      rw [OrderedDict.lookup_set_self] at hentered
      cases hentered
    · intro hsuffice
      exact absurd hsuffice.accepted haccepted

def worker : Service Nat where
  serviceId := "w"
  serviceName := "worker"
  hasModule := true
  managedGlobalNames := []
  globals := fun _ => none

def plainly : Surroundings Nat where
  digestible := fun _ => true
  callHook := fun _ service _ => (service.globals, .returned none)

def assigns (name : String) (value : Nat) : Values Nat := [(⟨name, true⟩, value)]

def byId (name : String) (value : Nat) : NodeEvent Nat :=
  .update (assigns name value) "w" ""

def byName (name : String) (value : Nat) : NodeEvent Nat :=
  .update (assigns name value) "" "worker"

theorem unclaimed_updates {events : List (NodeEvent Nat)}
    (hupdates : ∀ event ∈ events, ∃ name value,
      event = byId name value ∨ event = byName name value) :
    Unclaimed worker events := by
  refine ⟨?_, ?_⟩
  · rintro event hevent address haddress - hempty
    obtain ⟨name, value, rfl | rfl⟩ := hupdates event hevent
    · cases haddress
      exact absurd hempty.1 (by decide)
    · cases haddress
      exact absurd hempty.2 (by decide)
  · intro _ _ _ _ _ other hother
    obtain ⟨name, value, hsame | hsame⟩ := hupdates _ hother <;> cases hsame

theorem pending_updates_count_twoAddresses :
    CountAlike plainly worker [byId "rate" 1, byName "limit" 2] := by
  refine (pending_updates_count_iff (unclaimed_updates ?_) rfl ?_).mpr ⟨?_, ?_⟩
  · simp only [List.forall_mem_cons, List.not_mem_nil, false_imp_iff, implies_true,
      and_true]
    exact ⟨⟨"rate", 1, .inl rfl⟩, "limit", 2, .inr rfl⟩
  · show ∀ item ∈ [(("w", ""), assigns "rate" 1), (("", "worker"), assigns "limit" 2)],
      Unhooked item.2
    simp only [List.forall_mem_cons, List.not_mem_nil, false_imp_iff, implies_true,
      and_true, Unhooked]
    decide
  · decide
  · intro name
    rfl

/-- A second update of one address replaces the first, an update that comes
back to an address counts in its old place, and a refused update leaves the
service entered. -/
theorem pending_updates_lost :
    ¬CountAlike plainly worker [byId "rate" 1, byId "limit" 2] ∧
      ¬CountAlike plainly worker [byId "rate" 1, byName "rate" 2, byId "rate" 3] ∧
      ¬CountAlike plainly { worker with managedGlobalNames := ["rate"] }
        [byId "limit" 2] := by
  refine ⟨fun halike => ?_, fun halike => ?_, fun halike => ?_⟩
  · have hrate := congrArg (Option.bind · fun globals => globals "rate") halike.globals
    revert hrate
    decide
  · have hrate := congrArg (Option.bind · fun globals => globals "rate") halike.globals
    revert hrate
    decide
  · have hentered := (halike.undone (.notDeclared ["limit"]) (by decide)).1
    have hnone := congrArg Option.isNone hentered
    revert hnone
    decide

end PycloudParallel.StartupGlobals
