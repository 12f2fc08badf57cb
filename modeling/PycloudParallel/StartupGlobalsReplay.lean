import PycloudParallel.StartupGlobalsModel
import PycloudParallel.FoundationOverlay

/-!
# Updates before the mount and after it

The updates that stay pending under one address leave only the last of them,
in the place of the first.  The updates of a mounted service are applied one
after the other.
-/

namespace PycloudParallel.StartupGlobals

open OrderedDict

open PycloudParallel.Texts (strip)

variable {V : Type} {around : Surroundings V}

def given : Values V → String → Option V
  | [], _ => none
  | (name, value) :: rest, asked =>
    (given rest asked).or
      (if name.normalized ≠ "" ∧ name.normalized = asked then some value else none)

theorem assignGlobals_eq (globals : Globals V) (values : Values V) :
    assignGlobals globals values = overlay globals (given values) := by
  induction values generalizing globals with
  | nil => rfl
  | cons item rest ih =>
    obtain ⟨name, value⟩ := item
    funext asked
    unfold assignGlobals
    split
    · next hempty =>
      rw [ih]
      simp [overlay, given, hempty]
    · next hnamed =>
      rw [ih]
      by_cases hsame : name.normalized = asked
      · subst hsame
        cases hrest : given rest name.normalized with
        | none => simp [overlay, given, hrest, hnamed]
        | some later => simp [overlay, given, hrest]
      · simp [overlay, given, hnamed, hsame, Function.update_of_ne (Ne.symm hsame)]

theorem assignGlobals_append (globals : Globals V) (first second : Values V) :
    assignGlobals globals (first ++ second) =
      assignGlobals (assignGlobals globals first) second := by
  induction first generalizing globals with
  | nil => rfl
  | cons item rest ih =>
    obtain ⟨name, value⟩ := item
    simp only [List.cons_append, assignGlobals]
    split
    · exact ih globals
    · exact ih _

theorem given_append_none {first second : Values V} {name : String}
    (hfirst : given first name = none) (hsecond : given second name = none) :
    given (first ++ second) name = none := by
  induction first with
  | nil => exact hsecond
  | cons item rest ih =>
    simp only [given, Option.or_eq_none_iff] at hfirst
    simp only [List.cons_append, given, Option.or_eq_none_iff]
    exact ⟨ih hfirst.1, hfirst.2⟩

namespace Service

/-- What `_apply_startup_service_globals` refuses before it writes. -/
def rejects (service : Service V) (around : Surroundings V) (values : Values V) :
    Bool :=
  !service.hasModule || service.unknown values != [] || !around.digestible values

def Hookless (service : Service V) : Prop :=
  service.globals "apply_managed_globals" = none

variable {service : Service V} {values : Values V}

theorem applyGlobals_of_rejects (hrejects : service.rejects around values = true) :
    ∃ exc, service.applyGlobals around values = (service, .error exc) := by
  unfold applyGlobals
  split
  · exact ⟨_, rfl⟩
  · next hmodule =>
    split
    · exact ⟨_, rfl⟩
    · next hknown =>
      have hdigest : (!around.digestible values) = true := by
        simpa [rejects, hmodule, hknown] using hrejects
      rw [if_pos hdigest]
      exact ⟨_, rfl⟩

theorem applyGlobals_of_accepts (haccepts : service.rejects around values = false)
    (hhookless : service.Hookless) :
    service.applyGlobals around values =
      (service.withGlobals (assignGlobals service.globals values), .ok ()) := by
  simp only [rejects, Bool.or_eq_false_iff] at haccepts
  obtain ⟨⟨hmodule, hknown⟩, hdigest⟩ := haccepts
  unfold applyGlobals
  rw [hmodule, hknown, hdigest, hhookless]
  rfl

theorem Hookless.assign (hhookless : service.Hookless)
    (hunnamed : given values "apply_managed_globals" = none) :
    (service.withGlobals (assignGlobals service.globals values)).Hookless := by
  unfold Hookless
  change assignGlobals service.globals values "apply_managed_globals" = none
  rw [assignGlobals_eq, overlay_of_none hunnamed]
  exact hhookless

end Service

/-! ## The updates that a service is to get -/

def updatesFor (service : Service V) : List (NodeEvent V) → List (Address × Values V)
  | [] => []
  | .mount _ :: rest => updatesFor service rest
  | .update values serviceId serviceName :: rest =>
    if addresses (strip serviceId, strip serviceName) service then
      ((strip serviceId, strip serviceName), values) :: updatesFor service rest
    else updatesFor service rest

def firstUses (updates : List (Address × Values V)) : List Address :=
  (updates.map Prod.fst).reverse.dedup.reverse

def lastOf (updates : List (Address × Values V)) (address : Address) :
    Option (Values V) :=
  (updates.reverse.find? fun item => item.1 == address).map Prod.snd

/-- The last update of each address, in the order in which the addresses were
first used. -/
def lastUpdates (updates : List (Address × Values V)) : List (Address × Values V) :=
  (firstUses updates).filterMap fun address =>
    (lastOf updates address).map fun values => (address, values)

def acceptedUpdates (service : Service V) (around : Surroundings V)
    (updates : List (Address × Values V)) : List (Address × Values V) :=
  updates.filter fun item => !service.rejects around item.2

def allValues (updates : List (Address × Values V)) : Values V :=
  updates.flatMap Prod.snd

def keep (pending : OrderedDict Address (Values V))
    (updates : List (Address × Values V)) : OrderedDict Address (Values V) :=
  updates.foldl (fun out item => OrderedDict.set out item.1 item.2) pending

variable {address : Address} {updates : List (Address × Values V)}

theorem mem_keep :
    address ∈ keep ∅ updates ↔ address ∈ updates.map Prod.fst := by
  induction updates using List.reverseRecOn with
  | nil => simp [keep]
  | append_singleton before item ih =>
    rw [keep, List.foldl_append, List.foldl_cons, List.foldl_nil,
      mem_set, List.map_append, List.mem_append]
    change address = item.1 ∨ address ∈ keep ∅ before ↔ _
    rw [ih]
    simp [or_comm]

theorem firstUses_concat (updates : List (Address × Values V))
    (item : Address × Values V) :
    firstUses (updates ++ [item]) =
      if item.1 ∈ updates.map Prod.fst then firstUses updates
      else firstUses updates ++ [item.1] := by
  simp only [firstUses, List.map_append, List.map_cons, List.map_nil,
    List.reverse_append, List.reverse_cons, List.reverse_nil, List.nil_append,
    List.cons_append]
  split
  · next hmem => rw [List.dedup_cons_of_mem (List.mem_reverse.mpr hmem)]
  · next hnew =>
    rw [List.dedup_cons_of_notMem (fun h => hnew (List.mem_reverse.mp h)),
      List.reverse_cons]

theorem mem_firstUses :
    address ∈ firstUses updates ↔ address ∈ updates.map Prod.fst := by
  rw [firstUses, List.mem_reverse, List.mem_dedup, List.mem_reverse]

theorem lastOf_concat (updates : List (Address × Values V))
    (item : Address × Values V) (address : Address) :
    lastOf (updates ++ [item]) address =
      if item.1 = address then some item.2 else lastOf updates address := by
  simp only [lastOf, List.reverse_append, List.reverse_cons, List.reverse_nil,
    List.nil_append, List.cons_append, List.find?_cons]
  by_cases hsame : item.1 = address
  · simp [hsame]
  · have hother : (item.1 == address) = false := by simpa using hsame
    rw [hother, if_neg hsame]

theorem lastOf_isSome (hmem : address ∈ updates.map Prod.fst) :
    (lastOf updates address).isSome := by
  induction updates using List.reverseRecOn with
  | nil => cases hmem
  | append_singleton before item ih =>
    rw [lastOf_concat]
    split
    · rfl
    · next hother =>
      refine ih ?_
      rw [List.map_append, List.mem_append] at hmem
      refine hmem.resolve_right fun hlast => hother ?_
      exact (List.mem_singleton.mp hlast).symm

theorem items_keep (updates : List (Address × Values V)) :
    OrderedDict.items (keep ∅ updates) = lastUpdates updates := by
  induction updates using List.reverseRecOn with
  | nil => rfl
  | append_singleton before item ih =>
    have hstep : keep ∅ (before ++ [item]) =
        OrderedDict.set (keep ∅ before) item.1 item.2 := by
      rw [keep, List.foldl_append]
      rfl
    rw [hstep]
    by_cases hmem : item.1 ∈ before.map Prod.fst
    · rw [items_set_of_mem _ (mem_keep.mpr hmem), ih, lastUpdates,
        lastUpdates, firstUses_concat, if_pos hmem, List.map_filterMap]
      refine List.filterMap_congr fun address haddress => ?_
      rw [lastOf_concat]
      obtain ⟨old, hold⟩ := Option.isSome_iff_exists.mp
        (lastOf_isSome (mem_firstUses.mp haddress))
      by_cases hsame : item.1 = address
      · subst hsame
        simp [hold]
      · simp [hold, hsame, Ne.symm hsame]
    · rw [items_set_of_notMem _ (fun h => hmem (mem_keep.mp h)), ih,
        lastUpdates, lastUpdates, firstUses_concat, if_neg hmem,
        List.filterMap_append]
      refine congrArg₂ (· ++ ·) (List.filterMap_congr fun address haddress => ?_) ?_
      · rw [lastOf_concat, if_neg]
        rintro rfl
        exact hmem (mem_firstUses.mp haddress)
      · simp [lastOf_concat]

/-! ## The pending updates -/

structure SameName (service other : Service V) : Prop where
  serviceId : service.serviceId = other.serviceId
  serviceName : service.serviceName = other.serviceName

theorem SameName.addresses {service other : Service V}
    (hsame : SameName service other) (address : Address) :
    addresses address service = addresses address other := by
  unfold StartupGlobals.addresses
  rw [hsame.serviceId, hsame.serviceName]

theorem applyGlobals_sameName (around : Surroundings V) (service : Service V)
    (values : Values V) :
    SameName (service.applyGlobals around values).1 service := by
  unfold Service.applyGlobals
  split
  · exact ⟨rfl, rfl⟩
  · split
    · exact ⟨rfl, rfl⟩
    · split
      · exact ⟨rfl, rfl⟩
      · split
        · exact ⟨rfl, rfl⟩
        · dsimp only
          split <;> exact ⟨rfl, rfl⟩

theorem applyItems_sameName (around : Surroundings V)
    (items : List (Address × Values V)) (service : Service V) :
    SameName (Node.applyItems around service items).1 service := by
  induction items generalizing service with
  | nil => exact ⟨rfl, rfl⟩
  | cons item rest ih =>
    obtain ⟨address, values⟩ := item
    simp only [Node.applyItems]
    split
    · exact ih service
    · have hfirst := applyGlobals_sameName around service values
      generalize service.applyGlobals around values = applied at hfirst
      obtain ⟨changed, result⟩ := applied
      cases result with
      | error exc => exact hfirst
      | ok _ =>
        have hrest := ih changed
        dsimp only
        generalize Node.applyItems around changed rest = more at hrest
        obtain ⟨last, result⟩ := more
        have hboth : SameName last service :=
          ⟨hrest.serviceId.trans hfirst.serviceId,
            hrest.serviceName.trans hfirst.serviceName⟩
        cases result with
        | error exc | ok keys => exact hboth

theorem applyItems_keys {items : List (Address × Values V)} {service last : Service V}
    {keys : List Address} (happly : Node.applyItems around service items =
      (last, .ok keys)) : ∀ key ∈ keys, addresses key service = true ∧
        ∃ values, (key, values) ∈ items := by
  induction items generalizing service keys with
  | nil =>
    cases happly
    intro key hkey
    cases hkey
  | cons item rest ih =>
    obtain ⟨address, values⟩ := item
    simp only [Node.applyItems] at happly
    split at happly
    · intro key hkey
      obtain ⟨hmatch, found, hfound⟩ := ih happly key hkey
      exact ⟨hmatch, found, List.mem_cons_of_mem _ hfound⟩
    · next hmatch =>
      have hsame := applyGlobals_sameName around service values
      generalize service.applyGlobals around values = applied at happly hsame
      obtain ⟨changed, result⟩ := applied
      cases result with
      | error exc => cases happly
      | ok _ =>
        dsimp only at happly
        split at happly
        · cases happly
        · next more found hfound =>
          cases happly
          intro key hkey
          rcases List.mem_cons.mp hkey with rfl | hkey
          · exact ⟨by simpa using hmatch, values, List.mem_cons_self⟩
          · rw [← hsame.addresses]
            obtain ⟨hmatch, item, hitem⟩ := ih hfound key hkey
            exact ⟨hmatch, item, List.mem_cons_of_mem _ hitem⟩

section History

variable {service : Service V}

/-- The updates that address the service name something, and match no service
that is mounted before it. -/
structure Unclaimed (service : Service V) (events : List (NodeEvent V)) : Prop where
  addressed : ∀ event ∈ events, ∀ address, event.address = some address →
    addresses address service = true → ¬(address.1 = "" ∧ address.2 = "")
  unmatched : ∀ event ∈ events, ∀ address, event.address = some address →
    addresses address service = true → ∀ other, .mount other ∈ events →
      addresses address other = false

/-- The services of the node are mounted by events, and the updates that the
service is to get of those so far are pending. -/
structure KeptFor (service : Service V) (events sofar : List (NodeEvent V))
    (node : Node V) : Prop where
  services : ∀ item ∈ OrderedDict.items node.startupServices, ∃ other,
    .mount other ∈ events ∧ SameName item.2 other
  pending : OrderedDict.itemsWhere (fun address => addresses address service)
    node.pendingStartupGlobals = OrderedDict.items (keep ∅ (updatesFor service sofar))

theorem updatesFor_append (first second : List (NodeEvent V)) :
    updatesFor service (first ++ second) =
      updatesFor service first ++ updatesFor service second := by
  induction first with
  | nil => rfl
  | cons event rest ih =>
    cases event with
    | mount other => exact ih
    | update values serviceId serviceName =>
      simp only [List.cons_append, updatesFor]
      split
      · rw [ih]
        rfl
      · exact ih

variable {node : Node V} {events : List (NodeEvent V)} {globals : Globals V}

theorem mem_setService {key : String} {entered : Service V}
    {item : String × Service V}
    (hmem : item ∈ OrderedDict.items (node.setService key entered).startupServices)
    : item ∈ OrderedDict.items node.startupServices ∨ item.2 = entered := by
  obtain ⟨found, other⟩ := item
  rw [mem_items] at hmem ⊢
  change (OrderedDict.set node.startupServices key entered).lookup found = _ at hmem
  obtain ⟨rfl, rfl⟩ | hmem := of_lookup_set hmem
  · exact .inr rfl
  · exact .inl hmem

theorem applyToAll_pending (values : Values V) (mounts : List (String × Service V))
    (node : Node V) :
    (Node.applyToAll around values node mounts).1.pendingStartupGlobals =
      node.pendingStartupGlobals := by
  induction mounts generalizing node with
  | nil => rfl
  | cons item rest ih =>
    obtain ⟨key, other⟩ := item
    simp only [Node.applyToAll]
    split
    · rfl
    · exact ih _

theorem applyToAll_services (good : Service V → Prop) {values : Values V}
    {mounts : List (String × Service V)}
    (hgood : ∀ {one two : Service V}, SameName one two → good two → good one)
    (hmounts : ∀ item ∈ mounts, good item.2)
    (hnode : ∀ item ∈ OrderedDict.items node.startupServices, good item.2) :
    ∀ item ∈ OrderedDict.items
      (Node.applyToAll around values node mounts).1.startupServices, good item.2 := by
  induction mounts generalizing node with
  | nil => exact hnode
  | cons item rest ih =>
    obtain ⟨key, other⟩ := item
    have hchanged : good (other.applyGlobals around values).1 :=
      hgood (applyGlobals_sameName around other values) (hmounts _ List.mem_cons_self)
    have hset : ∀ found ∈ OrderedDict.items (node.setService key
        (other.applyGlobals around values).1).startupServices, good found.2 := by
      intro found hfound
      rcases mem_setService hfound with hold | hnew
      · exact hnode found hold
      · rw [hnew]
        exact hchanged
    simp only [Node.applyToAll]
    split
    · exact hset
    · exact ih (fun found hfound => hmounts found (List.mem_cons_of_mem _ hfound)) hset

theorem KeptFor.update {sofar : List (NodeEvent V)}
    (hkept : KeptFor service events sofar node)
    (hunclaimed : Unclaimed service events) {values : Values V}
    {serviceId serviceName : String}
    (hmem : .update values serviceId serviceName ∈ events) :
    KeptFor service events (sofar ++ [.update values serviceId serviceName])
      (node.updateStartupServiceGlobals around values serviceId serviceName).1 := by
  have hunmatched : addresses (strip serviceId, strip serviceName) service = true →
      node.matching (strip serviceId, strip serviceName) = [] := by
    intro hmatch
    rw [Node.matching, List.filter_eq_nil_iff]
    intro item hitem hmatched
    obtain ⟨other, hother, hsame⟩ := hkept.services item hitem
    rw [hsame.addresses, hunclaimed.unmatched _ hmem _ rfl hmatch other hother] at hmatched
    cases hmatched
  have hset : KeptFor service events (sofar ++ [.update values serviceId serviceName])
      (node.setPending (strip serviceId, strip serviceName) values) := by
    refine ⟨hkept.services, ?_⟩
    rw [updatesFor_append]
    simp only [updatesFor]
    split
    · next hmatch =>
      rw [keep, List.foldl_append]
      exact itemsWhere_set values hmatch hkept.pending
    · next hother =>
      rw [List.append_nil]
      exact (itemsWhere_set_other values (by simpa using hother)).trans
        hkept.pending
  have hsame : addresses (strip serviceId, strip serviceName) service = false →
      ∀ {changed : Node V}, changed.pendingStartupGlobals = node.pendingStartupGlobals →
        (∀ item ∈ OrderedDict.items changed.startupServices, ∃ other,
          .mount other ∈ events ∧ SameName item.2 other) →
          KeptFor service events (sofar ++ [.update values serviceId serviceName])
            changed := by
    intro hother changed hpending hservices
    refine ⟨hservices, ?_⟩
    rw [hpending, updatesFor_append]
    simp only [updatesFor, hother, Bool.false_eq_true, if_false, List.append_nil]
    exact hkept.pending
  unfold Node.updateStartupServiceGlobals
  dsimp only
  split
  · split
    · next hempty =>
      refine hsame ?_ rfl hkept.services
      rw [← Bool.not_eq_true]
      intro hmatch
      exact hunclaimed.addressed _ hmem _ rfl hmatch hempty
    · split <;> exact hset
  · next hmounts =>
    have hother : addresses (strip serviceId, strip serviceName) service = false := by
      rw [← Bool.not_eq_true]
      intro hmatch
      exact hmounts (hunmatched hmatch)
    refine hsame hother (applyToAll_pending values _ node) ?_
    refine applyToAll_services (fun found => ∃ other,
      .mount other ∈ events ∧ SameName found other) ?_ ?_ hkept.services
    · rintro one two htwo ⟨other, hother, hnames⟩
      exact ⟨other, hother, htwo.serviceId.trans hnames.serviceId,
        htwo.serviceName.trans hnames.serviceName⟩
    · intro item hitem
      exact hkept.services item (List.mem_filter.mp hitem).1

theorem mem_updatesFor {item : Address × Values V}
    (hmem : item ∈ updatesFor service events) :
    addresses item.1 service = true ∧ ∃ event ∈ events, event.address = some item.1 := by
  induction events with
  | nil => cases hmem
  | cons event rest ih =>
    have hrest : item ∈ updatesFor service rest → addresses item.1 service = true ∧
        ∃ event' ∈ event :: rest, event'.address = some item.1 := by
      intro hlater
      obtain ⟨hmatch, found, hfound, haddress⟩ := ih hlater
      exact ⟨hmatch, found, List.mem_cons_of_mem _ hfound, haddress⟩
    cases event with
    | mount other => exact hrest hmem
    | update values serviceId serviceName =>
      simp only [updatesFor] at hmem
      split at hmem
      · next hmatch =>
        rcases List.mem_cons.mp hmem with rfl | hlater
        · exact ⟨hmatch, _, List.mem_cons_self, rfl⟩
        · exact hrest hlater
      · exact hrest hmem

theorem KeptFor.mount {sofar : List (NodeEvent V)}
    (hkept : KeptFor service events sofar node)
    (hunclaimed : Unclaimed service events)
    (hsofar : ∀ event ∈ sofar, event ∈ events) {other : Service V}
    (hmem : .mount other ∈ events) :
    KeptFor service events (sofar ++ [.mount other])
      (node.mountStartupService around other).1 := by
  have hnames := applyItems_sameName around
    (OrderedDict.items node.pendingStartupGlobals) other
  have hkeys : ∀ last keys, Node.applyItems around other
      (OrderedDict.items node.pendingStartupGlobals) = (last, .ok keys) →
        ∀ key ∈ keys, addresses key other = true ∧ ∃ values,
          (key, values) ∈ OrderedDict.items node.pendingStartupGlobals :=
    fun _ _ happly => applyItems_keys happly
  unfold Node.mountStartupService
  dsimp only
  generalize Node.applyItems around other
    (OrderedDict.items node.pendingStartupGlobals) = applied at hnames hkeys
  obtain ⟨changed, result⟩ := applied
  have hservices : ∀ item ∈ OrderedDict.items
      ((node.setService other.serviceId other).setService other.serviceId
        changed).startupServices, ∃ mounted, .mount mounted ∈ events ∧
          SameName item.2 mounted := by
    intro item hitem
    rcases mem_setService hitem with hold | hnew
    · rcases mem_setService hold with hold | hnew
      · exact hkept.services item hold
      · exact ⟨other, hmem, by rw [hnew]; exact ⟨rfl, rfl⟩⟩
    · exact ⟨other, hmem, by rw [hnew]; exact hnames⟩
  have hupdates : updatesFor service (sofar ++ [.mount other]) =
      updatesFor service sofar := by
    rw [updatesFor_append]
    exact List.append_nil _
  cases result with
  | error exc =>
    refine ⟨hservices, ?_⟩
    rw [hupdates]
    exact hkept.pending
  | ok keys =>
    refine ⟨hservices, ?_⟩
    rw [hupdates, ← hkept.pending]
    refine itemsWhere_eraseAll (fun key hkey => ?_) _
    obtain ⟨hmatch, values, hitem⟩ := hkeys changed keys rfl key hkey
    -- a key of the service's own is one that no other service matches
    rw [← Bool.not_eq_true]
    intro hown
    have hpending : (key, values) ∈ OrderedDict.itemsWhere
        (fun address => addresses address service) node.pendingStartupGlobals :=
      List.mem_filter.mpr ⟨hitem, hown⟩
    rw [hkept.pending, mem_items] at hpending
    have hkeyed : key ∈ (updatesFor service sofar).map Prod.fst :=
      mem_keep.mp (mem_iff_lookup.mpr ⟨values, hpending⟩)
    obtain ⟨item, hupdate, rfl⟩ := List.mem_map.mp hkeyed
    obtain ⟨-, event, hevent, haddress⟩ := mem_updatesFor hupdate
    rw [hunclaimed.unmatched event (hsofar event hevent) item.1 haddress hown other
      hmem] at hmatch
    cases hmatch

theorem keptFor_run (around : Surroundings V)
    (hunclaimed : Unclaimed service events) (sofar : List (NodeEvent V))
    (hsofar : ∀ event ∈ sofar, event ∈ events) :
    KeptFor service events sofar (Node.init.run around sofar) := by
  induction sofar using List.reverseRecOn with
  | nil => exact ⟨fun item hitem => (by cases hitem), rfl⟩
  | append_singleton before event ih =>
    have hkept := ih fun found hfound => hsofar found (List.mem_append_left _ hfound)
    have hmem := hsofar event (List.mem_append_right _ (List.mem_singleton_self _))
    rw [Node.run, List.foldl_append]
    cases event with
    | update values serviceId serviceName => exact hkept.update hunclaimed hmem
    | mount other =>
      exact hkept.mount hunclaimed
        (fun found hfound => hsofar found (List.mem_append_left _ hfound)) hmem

def Unhooked (values : Values V) : Prop :=
  given values "apply_managed_globals" = none

theorem applyItems_accepted (around : Surroundings V)
    (items : List (Address × Values V)) (hhookless : service.Hookless)
    (haccepted : ∀ item ∈ items, addresses item.1 service = true →
      service.rejects around item.2 = false ∧ Unhooked item.2) :
    ∃ keys, Node.applyItems around service items =
      (service.withGlobals (assignGlobals service.globals (allValues
        (items.filter fun item => addresses item.1 service))), .ok keys) := by
  induction items generalizing service with
  | nil => exact ⟨[], rfl⟩
  | cons item rest ih =>
    obtain ⟨address, values⟩ := item
    have hrest : ∀ item ∈ rest, addresses item.1 service = true →
        service.rejects around item.2 = false ∧ Unhooked item.2 :=
      fun item hitem => haccepted item (List.mem_cons_of_mem _ hitem)
    simp only [Node.applyItems]
    by_cases hmatch : addresses address service = true
    · obtain ⟨haccepts, hunhooked⟩ := haccepted _ List.mem_cons_self hmatch
      obtain ⟨keys, hkeys⟩ := ih (hhookless.assign hunhooked) hrest
      refine ⟨address :: keys, ?_⟩
      rw [Service.applyGlobals_of_accepts haccepts hhookless]
      simp only [hmatch, Bool.not_true, Bool.false_eq_true, if_false, hkeys,
        List.filter_cons, if_true]
      refine congrArg (fun globals => (service.withGlobals globals, _)) ?_
      exact (assignGlobals_append service.globals values _).symm
    · obtain ⟨keys, hkeys⟩ := ih hhookless hrest
      refine ⟨keys, ?_⟩
      simp [hmatch, hkeys]

theorem applyItems_rejected (around : Surroundings V)
    (items : List (Address × Values V)) (hhookless : service.Hookless)
    (hunhooked : ∀ item ∈ items, addresses item.1 service = true → Unhooked item.2)
    (hrejected : ∃ item ∈ items, addresses item.1 service = true ∧
      service.rejects around item.2 = true) :
    ∃ last exc, Node.applyItems around service items = (last, .error exc) := by
  induction items generalizing service with
  | nil =>
    obtain ⟨item, hitem, -⟩ := hrejected
    cases hitem
  | cons item rest ih =>
    obtain ⟨address, values⟩ := item
    have hrest : ∀ item ∈ rest, addresses item.1 service = true → Unhooked item.2 :=
      fun item hitem => hunhooked item (List.mem_cons_of_mem _ hitem)
    simp only [Node.applyItems]
    by_cases hmatch : addresses address service = true
    · simp only [hmatch, Bool.not_true, Bool.false_eq_true, if_false]
      cases hfirst : service.rejects around values with
      | true =>
        obtain ⟨exc, happly⟩ := Service.applyGlobals_of_rejects hfirst
        rw [happly]
        exact ⟨service, exc, rfl⟩
      | false =>
        rw [Service.applyGlobals_of_accepts hfirst hhookless]
        obtain ⟨found, hfound, hmatches, hrejects⟩ := hrejected
        have hlater : found ∈ rest := by
          refine (List.mem_cons.mp hfound).resolve_left ?_
          rintro rfl
          rw [hfirst] at hrejects
          cases hrejects
        have hnext := hhookless.assign (hunhooked _ List.mem_cons_self hmatch)
        obtain ⟨last, exc, hlast⟩ := ih hnext hrest ⟨found, hlater, hmatches, hrejects⟩
        dsimp only
        rw [hlast]
        exact ⟨last, exc, rfl⟩
    · simp only [hmatch, Bool.not_false, if_true]
      obtain ⟨found, hfound, hmatches, hrejects⟩ := hrejected
      refine ih hhookless hrest ⟨found, ?_, hmatches, hrejects⟩
      refine (List.mem_cons.mp hfound).resolve_left ?_
      rintro rfl
      exact hmatch hmatches

def OnlyService (node : Node V) (service : Service V) (globals : Globals V) : Prop :=
  node.startupServices =
    OrderedDict.set ∅ service.serviceId (service.withGlobals globals)

theorem onlyService_set {before : Globals V}
    (honly : OnlyService node service before) :
    OnlyService (node.setService service.serviceId (service.withGlobals globals))
      service globals := by
  unfold OnlyService Node.setService
  rw [honly]
  refine ext_of_keys ?_ fun key => ?_
  · simp [keys_set]
  · simp only [lookup_set]
    split <;> rfl

theorem onlyService_matching (honly : OnlyService node service globals)
    (address : Address) :
    node.matching address = if addresses address service then
      [(service.serviceId, service.withGlobals globals)] else [] := by
  have hsame : addresses address (service.withGlobals globals) =
      addresses address service := rfl
  unfold Node.matching
  rw [honly, items_set_of_notMem _ (AList.notMem_empty _)]
  simp only [OrderedDict.items, AList.empty_entries, List.map_nil, List.nil_append,
    List.filter_cons, List.filter_nil, hsame]

theorem onlyService_update (around : Surroundings V)
    (honly : OnlyService node service globals)
    (hhookless : (service.withGlobals globals).Hookless) (values : Values V)
    (serviceId serviceName : String) :
    OnlyService
      (node.updateStartupServiceGlobals around values serviceId serviceName).1 service
      (assignGlobals globals (allValues (acceptedUpdates service around
        (updatesFor service [.update values serviceId serviceName])))) := by
  unfold Node.updateStartupServiceGlobals
  dsimp only
  rw [onlyService_matching honly]
  simp only [updatesFor]
  by_cases hmatch : addresses (strip serviceId, strip serviceName) service = true
  · rw [if_pos hmatch, if_pos hmatch]
    dsimp only [Node.applyToAll]
    cases hrejects : service.rejects around values with
    | true =>
      obtain ⟨exc, happly⟩ := Service.applyGlobals_of_rejects
        (show (service.withGlobals globals).rejects around values = true from hrejects)
      rw [happly]
      have hnone : acceptedUpdates service around
          [((strip serviceId, strip serviceName), values)] = [] := by
        simp [acceptedUpdates, hrejects]
      rw [hnone]
      exact onlyService_set honly
    | false =>
      rw [Service.applyGlobals_of_accepts
        (show (service.withGlobals globals).rejects around values = false from hrejects)
        hhookless]
      have hall : allValues (acceptedUpdates service around
          [((strip serviceId, strip serviceName), values)]) = values := by
        simp [acceptedUpdates, allValues, hrejects]
      rw [hall]
      exact onlyService_set honly
  · rw [if_neg hmatch, if_neg hmatch]
    dsimp only
    split
    · exact honly
    · split <;> exact honly

end History

end PycloudParallel.StartupGlobals
