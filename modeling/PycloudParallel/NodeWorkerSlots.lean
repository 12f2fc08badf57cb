import PycloudParallel.NodeEntryChanges
import PycloudParallel.FoundationGuardedRun

/-!
# Worker slots of a node

The reservation counter of a kind is the sum of what its creates hold, and
together with the workers that own an executor it stays within the capacity, as
long as the count a create read still covers the workers in use, an entry is
published only where its workers fit twice, no create gives its slots back a
second time while another holds some, and no create is finalised after a stop.
-/

namespace PycloudParallel.NodeResources

open OrderedDict

def Resource.ownedWeight (kind : ResourceKind) (resource : Resource) : ℕ :=
  if resource.isRunning kind && resource.executorReady then resource.workerCount
  else 0

theorem Resource.ownedWeight_of_not_ready {kind : ResourceKind}
    {resource : Resource} (hready : resource.executorReady = false) :
    resource.ownedWeight kind = 0 := by
  simp [ownedWeight, hready]

theorem Resource.ownedWeight_le (kind : ResourceKind) (resource : Resource) :
    resource.ownedWeight kind ≤ resource.workerCount := by
  unfold ownedWeight
  split
  · exact le_rfl
  · exact Nat.zero_le _

def Create.heldOf (kind : ResourceKind) (create : Create) : ℕ :=
  if create.request.kind = kind then create.holding else 0

namespace Node

variable {node next : Node}

def heldSlots (node : Node) (kind : ResourceKind) : ℕ :=
  total (Create.heldOf kind) node.creates

theorem ownedWorkers_eq_total (node : Node) (kind : ResourceKind) :
    node.ownedWorkers kind =
      total (Resource.ownedWeight kind) (node.resources kind) := by
  unfold ownedWorkers total
  induction values (node.resources kind) with
  | nil => rfl
  | cons resource rest ih =>
    rw [List.map_cons, List.sum_cons, ← ih, Resource.ownedWeight]
    by_cases howned : (resource.isRunning kind && resource.executorReady) = true
    · rw [List.filter_cons_of_pos (by exact howned), if_pos howned]
      rfl
    · rw [List.filter_cons_of_neg (by exact howned), if_neg howned,
        Nat.zero_add]

theorem ownedWorkers_setEntry (node : Node) (kind : ResourceKind)
    (id : ResourceId) (resource : Resource) :
    (node.setEntry kind id resource).ownedWorkers kind +
        (node.entry kind id).elim 0 (Resource.ownedWeight kind) =
      node.ownedWorkers kind + resource.ownedWeight kind := by
  rw [ownedWorkers_eq_total, ownedWorkers_eq_total]
  simp only [setEntry, Function.update_self]
  exact total_set _ _ _ _

variable {kind : ResourceKind} {id : ResourceId} {resource : Resource}

theorem ownedWorkers_setEntry_ne (node : Node) {other : ResourceKind}
    (id : ResourceId) (resource : Resource) (hne : other ≠ kind) :
    (node.setEntry kind id resource).ownedWorkers other =
      node.ownedWorkers other := by
  simp only [ownedWorkers, setEntry, Function.update_of_ne hne]

theorem ownedWorkers_setEntry_le {old : Resource}
    (hentry : node.entry kind id = some old)
    (hweight : resource.ownedWeight kind ≤ old.ownedWeight kind)
    (other : ResourceKind) :
    (node.setEntry kind id resource).ownedWorkers other ≤
      node.ownedWorkers other := by
  by_cases hkind : other = kind
  · subst hkind
    have hsum := node.ownedWorkers_setEntry other id resource
    rw [hentry, Option.elim_some] at hsum
    omega
  · exact (node.ownedWorkers_setEntry_ne id resource hkind).le

theorem ownedWorkers_setEntry_le_add (node : Node) (kind : ResourceKind)
    (id : ResourceId) (resource : Resource) :
    (node.setEntry kind id resource).ownedWorkers kind ≤
      node.ownedWorkers kind + resource.ownedWeight kind := by
  have hsum := node.ownedWorkers_setEntry kind id resource
  omega

theorem ownedWorkers_setEntry_le_of_not_ready (node : Node)
    (kind : ResourceKind) (id : ResourceId)
    (hready : resource.executorReady = false) (other : ResourceKind) :
    (node.setEntry kind id resource).ownedWorkers other ≤
      node.ownedWorkers other := by
  by_cases hkind : other = kind
  · subst hkind
    have hle := node.ownedWorkers_setEntry_le_add other id resource
    rwa [Resource.ownedWeight_of_not_ready hready, Nat.add_zero] at hle
  · exact (node.ownedWorkers_setEntry_ne id resource hkind).le

/-- A step that touches neither reservations nor creates and adds no workers
that own an executor. -/
structure SlotNeutral (node next : Node) : Prop where
  capacity : next.workerCapacity = node.workerCapacity
  reserved : next.workerReserved = node.workerReserved
  creates : next.creates = node.creates
  owned : ∀ kind, next.ownedWorkers kind ≤ node.ownedWorkers kind

theorem SlotNeutral.refl (node : Node) : SlotNeutral node node :=
  ⟨rfl, rfl, rfl, fun _ => le_rfl⟩

theorem SlotNeutral.trans {mid : Node} (hfirst : SlotNeutral node mid)
    (hsecond : SlotNeutral mid next) : SlotNeutral node next where
  capacity := hsecond.capacity.trans hfirst.capacity
  reserved := hsecond.reserved.trans hfirst.reserved
  creates := hsecond.creates.trans hfirst.creates
  owned kind := (hsecond.owned kind).trans (hfirst.owned kind)

theorem SlotNeutral.setEntry {old : Resource}
    (hentry : node.entry kind id = some old)
    (hweight : resource.ownedWeight kind ≤ old.ownedWeight kind) :
    SlotNeutral node (node.setEntry kind id resource) :=
  ⟨rfl, rfl, rfl, ownedWorkers_setEntry_le hentry hweight⟩

theorem SlotNeutral.setHost (node : Node) (host : HostRef)
    (state : ExecutorHost) : SlotNeutral node (node.setHost host state) :=
  ⟨rfl, rfl, rfl, fun _ => le_rfl⟩

theorem SlotNeutral.applyRestored (node : Node) (target : RestoreTarget)
    (error : Option String) :
    SlotNeutral node (node.applyRestored target error) := by
  unfold Node.applyRestored
  split
  · exact .refl node
  · next resource hentry =>
    split
    · exact .refl node
    · cases error with
      | none => exact .setEntry hentry le_rfl
      | some reason =>
        apply SlotNeutral.setEntry hentry
        rw [Resource.ownedWeight_of_not_ready rfl]
        exact Nat.zero_le _

theorem SlotNeutral.applyAllRestored
    (results : List (RestoreTarget × Option String)) (node : Node) :
    SlotNeutral node (applyAllRestored results node) := by
  induction results generalizing node with
  | nil => exact .refl node
  | cons result rest ih =>
    exact (SlotNeutral.applyRestored node result.1 result.2).trans (ih _)

theorem SlotNeutral.eraseEntry (node : Node) (kind : ResourceKind)
    (id : ResourceId) : SlotNeutral node (node.eraseEntry kind id) := by
  refine ⟨rfl, rfl, rfl, fun other => ?_⟩
  rw [ownedWorkers_eq_total, ownedWorkers_eq_total, Node.eraseEntry]
  by_cases hkind : other = kind
  · subst hkind
    have hsum := total_erase (Resource.ownedWeight other)
      (node.resources other) id
    simp only [Function.update_self]
    omega
  · simp only [Function.update_of_ne hkind, le_refl]

theorem SlotNeutral.eraseEntries (kind : ResourceKind) (ids : List ResourceId)
    (node : Node) : SlotNeutral node (eraseEntries kind ids node) := by
  induction ids generalizing node with
  | nil => exact .refl node
  | cons id rest ih =>
    exact (SlotNeutral.eraseEntry node kind id).trans (ih _)

theorem SlotNeutral.same (hresources : next.resources = node.resources)
    (hslots : SameSlots node next) : SlotNeutral node next :=
  ⟨hslots.capacity, hslots.reserved, hslots.creates, fun kind => by
    rw [ownedWorkers, ownedWorkers, hresources]⟩

theorem slotNeutral_rules : RoutineRules SlotNeutral where
  same _ _ hresources hslots := .same hresources hslots
  andThen hfirst hresources hslots := hfirst.trans (.same hresources hslots)
  change node kind id old new hentry _ hready := by
    apply SlotNeutral.setEntry hentry
    obtain hready | ⟨hready, hstatus, hworkers⟩ := hready
    · rw [Resource.ownedWeight_of_not_ready hready]
      exact Nat.zero_le _
    · unfold Resource.ownedWeight Resource.isRunning
      rw [hready, hstatus, hworkers]
  prune node _ := (SlotNeutral.eraseEntries _ _ node).trans
    (SlotNeutral.eraseEntries _ _ _)

theorem SlotNeutral.step {label : NodeLabel}
    (hbegin : ∀ id request, label ≠ .beginCreate id request)
    (hcreate : ∀ id move, label ≠ .create id move)
    (hstep : node.step label = some next) : SlotNeutral node next := by
  refine slotNeutral_rules.step ?_ hbegin hcreate hstep
  cases label with
  | create id move => exact absurd rfl (hcreate id move)
  | rebuild move =>
    cases move with
    | finish => exact fun rebuild _ => .applyAllRestored rebuild.results node
    | _ => trivial
  | workerPids kind id pids | serviceDependencyFailure id =>
    exact fun _ hentry => .setEntry hentry le_rfl
  | _ => trivial

end Node

def Create.SlotsMatch (create : Create) : Prop :=
  match create.progress with
  | .reserved workers _ | .executorCreated workers _ | .published workers _ =>
    create.holding = workers
  | .failing workers _ _ plan =>
    create.holding = 0 ∨ create.holding = workers ∧ .release ∈ plan
  | .requested | .accepted | .preparing | .prepared | .counted _ | .warming _ _
  | .ended => create.holding = 0

namespace Node

variable {node next : Node}

def showsExecutor (node : Node) (request : CreateRequest) : Bool :=
  request.waitReady ||
    (node.entry request.kind request.resourceId).any (·.status ≠ .stopped)

def CreateSlotGuard (node : Node) (create : Create) (move : CreateMove) : Prop :=
  let request := create.request
  let kind := request.kind
  match move, create.progress with
  | .reserve, .counted activeWorkers =>
    match reserveWorkerSlots kind (node.workerCapacity kind) activeWorkers
        (node.workerReserved kind) request.requestedWorkers with
    | .ok _ => node.ownedWorkers kind ≤ activeWorkers
    | .error _ => activeWorkers ≤ node.ownedWorkers kind
  | .publish _, .executorCreated workers _ =>
    node.showsExecutor request = true →
      node.ownedWorkers kind + node.workerReserved kind + workers ≤
        node.workerCapacity kind
  | .finalise, .warming _ _ =>
    ∀ resource ∈ node.entry kind request.resourceId,
      (resource.isRunning kind && resource.executorReady) = true
  | .rollback, .failing _ _ _ (.release :: _) =>
    create.holding = 0 → node.workerReserved kind = 0
  | _, _ => True

instance (node : Node) (create : Create) (move : CreateMove) :
    Decidable (node.CreateSlotGuard create move) := by
  unfold CreateSlotGuard
  dsimp only
  split
  · split <;> infer_instance
  · infer_instance
  · infer_instance
  · infer_instance
  · infer_instance

def SlotGuard (node : Node) : NodeLabel → Prop
  | .create id move =>
    ∀ create ∈ node.creates.lookup id, node.CreateSlotGuard create move
  | _ => True

instance (node : Node) : ∀ label, Decidable (node.SlotGuard label)
  | .create _ _ => inferInstanceAs (Decidable (∀ create ∈ _, _))
  | .beginCreate _ _ | .endService _ _ _ _ | .closeTaskPool _ _ _ _
  | .heartbeatService _ _ _ | .heartbeatTaskPool _ _ _ | .serviceHealth _ _
  | .taskPoolHealth _ _ | .reportedLiveness _ _ _ | .missingLiveness _ _
  | .workerPids _ _ _ | .serviceDependencyFailure _
  | .taskPoolDependencyFailure _ _ | .cleanup _ | .rebuild _ | .globals _ _
  | .prune _ => inferInstanceAs (Decidable True)

structure SlotsAccounted (node : Node) : Prop where
  reserved : ∀ kind, node.workerReserved kind = node.heldSlots kind
  within : ∀ kind, node.ownedWorkers kind + node.workerReserved kind ≤
    node.workerCapacity kind
  holdings : ∀ id create, node.creates.lookup id = some create →
    create.SlotsMatch

theorem SlotsAccounted.initial (services taskPools : ℕ) :
    SlotsAccounted (Node.initial services taskPools) where
  reserved _ := rfl
  within _ := Nat.zero_le _
  holdings id create hlookup := by cases hlookup

theorem SlotsAccounted.neutral (hgood : node.SlotsAccounted)
    (hneutral : SlotNeutral node next) : next.SlotsAccounted where
  reserved kind := by
    rw [hneutral.reserved, hgood.reserved kind, heldSlots, heldSlots,
      hneutral.creates]
  within kind := by
    have hwithin := hgood.within kind
    have howned := hneutral.owned kind
    rw [hneutral.reserved, hneutral.capacity]
    omega
  holdings id create hlookup := by
    rw [hneutral.creates] at hlookup
    exact hgood.holdings id create hlookup

variable {create : Create} {id : CreateId} {mid : Node} {active workers : ℕ}
  {host : HostRef}

section

variable (hgood : node.SlotsAccounted)

include hgood

theorem SlotsAccounted.replaceCreate (next : Node) {old : Create}
    (hlookup : node.creates.lookup id = some old)
    (hcreates : next.creates = node.creates.set id create)
    (hcapacity : next.workerCapacity = node.workerCapacity)
    (hreserved : ∀ kind, next.workerReserved kind + old.heldOf kind =
      node.workerReserved kind + create.heldOf kind)
    (hwithin : ∀ kind, next.ownedWorkers kind + next.workerReserved kind ≤
      node.workerCapacity kind) (hmatch : create.SlotsMatch) :
    next.SlotsAccounted where
  reserved kind := by
    have hsum := total_set (Create.heldOf kind) node.creates id create
    rw [hlookup, Option.elim_some, ← hcreates] at hsum
    have hold := hgood.reserved kind
    have hmove := hreserved kind
    unfold heldSlots at hold ⊢
    omega
  within kind := by
    rw [hcapacity]
    exact hwithin kind
  holdings other create' hlookup' := by
    rw [hcreates, lookup_set] at hlookup'
    split at hlookup'
    · cases hlookup'
      exact hmatch
    · exact hgood.holdings other create' hlookup'

theorem SlotsAccounted.advance {old : Create}
    (hlookup : node.creates.lookup id = some old)
    (hneutral : SlotNeutral node mid) (create : Create)
    (hrequest : create.request = old.request)
    (hholding : create.holding = old.holding) (hmatch : create.SlotsMatch) :
    (mid.setCreate id create).SlotsAccounted := by
  apply hgood.replaceCreate (mid.setCreate id create) hlookup _
    hneutral.capacity _ _ hmatch
  · rw [setCreate, hneutral.creates]
  · intro kind
    have hheld : create.heldOf kind = old.heldOf kind := by
      rw [Create.heldOf, Create.heldOf, hrequest, hholding]
    rw [hheld, setCreate, hneutral.reserved]
  · intro kind
    have hwithin := hgood.within kind
    have howned := hneutral.owned kind
    change mid.ownedWorkers kind + mid.workerReserved kind ≤ _
    rw [hneutral.reserved]
    omega

theorem SlotsAccounted.move (hlookup : node.creates.lookup id = some create)
    (hneutral : SlotNeutral node mid) (progress : CreateProgress)
    (hmatch : Create.SlotsMatch { create with progress := progress }) :
    (mid.advanceCreate id create progress).SlotsAccounted :=
  hgood.advance hlookup hneutral _ rfl rfl hmatch

theorem SlotsAccounted.withNextRef (ref : ResourceRef) :
    SlotsAccounted { node with nextRef := ref } :=
  ⟨hgood.reserved, hgood.within, hgood.holdings⟩

end

theorem SlotNeutral.skeleton (node : Node) (request : CreateRequest)
    (ref : ResourceRef) :
    SlotNeutral node (node.setEntry request.kind request.resourceId
      (request.skeleton ref)) :=
  ⟨rfl, rfl, rfl, node.ownedWorkers_setEntry_le_of_not_ready _ _ rfl⟩

theorem SlotNeutral.failedEntry (node : Node) (request : CreateRequest)
    (ref : ResourceRef) (workers : ℕ) (reason : String) :
    SlotNeutral node (node.setEntry request.kind request.resourceId
      (request.failedEntry ref workers reason)) :=
  ⟨rfl, rfl, rfl, node.ownedWorkers_setEntry_le_of_not_ready _ _ rfl⟩

theorem reserveWorkerSlots_ok {kind : ResourceKind}
    {capacity reserved requested : ℕ}
    (hok : reserveWorkerSlots kind capacity active reserved requested =
      .ok workers) : active + reserved + workers ≤ capacity := by
  simp only [reserveWorkerSlots] at hok
  split at hok
  · cases hok
  · next havailable =>
    cases hok
    omega

theorem reserveWorkerSlots_error {kind : ResourceKind}
    {capacity reserved requested : ℕ} {reason : String}
    (herror : reserveWorkerSlots kind capacity active reserved requested =
      .error reason) : capacity ≤ active + reserved := by
  simp only [reserveWorkerSlots] at herror
  split at herror
  · omega
  · cases herror

theorem SlotsAccounted.reserve (hgood : node.SlotsAccounted)
    (hlookup : node.creates.lookup id = some create)
    (hprogress : create.progress = .counted active)
    (hguard : node.CreateSlotGuard create .reserve) :
    (node.reserveForCreate id create active).SlotsAccounted := by
  have hnone : create.holding = 0 := by
    have hmatch := hgood.holdings id create hlookup
    rwa [Create.SlotsMatch, hprogress] at hmatch
  simp only [CreateSlotGuard, hprogress] at hguard
  unfold reserveForCreate
  cases hreserve : reserveWorkerSlots create.request.kind
      (node.workerCapacity create.request.kind) active
      (node.workerReserved create.request.kind)
      create.request.requestedWorkers with
  | error reason =>
    simp only [hreserve]
    exact hgood.advance hlookup (.refl node) _ rfl rfl (Or.inl hnone)
  | ok workers =>
    simp only [hreserve] at hguard ⊢
    have hfits := reserveWorkerSlots_ok hreserve
    -- both branches record the reservation in the counter and the create
    have hrecord : ∀ progress, Create.SlotsMatch
        { create with holding := workers, progress := progress } →
        ((node.setReserved create.request.kind
          (node.workerReserved create.request.kind + workers)).setCreate id
            { create with holding := workers, progress := progress }
              ).SlotsAccounted := by
      intro progress hmatch
      refine hgood.replaceCreate ((node.setReserved _ _).setCreate id _)
        hlookup rfl rfl ?_ ?_ hmatch
      · intro kind
        simp only [setCreate, setReserved, Create.heldOf, hnone]
        by_cases hkind : create.request.kind = kind
        · subst hkind
          simp
        · simp [hkind, Function.update_of_ne (Ne.symm hkind)]
      · intro kind
        have hwithin := hgood.within kind
        change node.ownedWorkers kind + Function.update node.workerReserved
          create.request.kind (node.workerReserved create.request.kind +
            workers) kind ≤ _
        by_cases hkind : kind = create.request.kind
        · subst hkind
          rw [Function.update_self]
          omega
        · rwa [Function.update_of_ne hkind]
    split
    · next host _ => exact hrecord (.reserved workers host) rfl
    · exact hrecord (.failing workers none _ _)
        (Or.inr ⟨rfl, List.mem_cons_self ..⟩)

theorem SlotsAccounted.publish (hgood : node.SlotsAccounted)
    (resource : Resource) (hlookup : node.creates.lookup id = some create)
    (hmid : mid = node.setEntry create.request.kind create.request.resourceId
      resource) (hworkers : resource.workerCount = workers)
    (hfits : node.ownedWorkers create.request.kind +
      node.workerReserved create.request.kind + workers ≤
        node.workerCapacity create.request.kind) (progress : CreateProgress)
    (hmatch : Create.SlotsMatch { create with progress := progress }) :
    (mid.advanceCreate id create progress).SlotsAccounted := by
  subst hmid
  refine hgood.replaceCreate (setCreate _ id _) hlookup rfl rfl
    (fun _ => rfl) (fun kind => ?_) hmatch
  change (node.setEntry _ _ resource).ownedWorkers kind +
    node.workerReserved kind ≤ _
  by_cases hkind : kind = create.request.kind
  · subst hkind
    have hadd := node.ownedWorkers_setEntry_le_add create.request.kind
      create.request.resourceId resource
    have hweight := resource.ownedWeight_le create.request.kind
    omega
  · rw [node.ownedWorkers_setEntry_ne _ _ hkind]
    exact hgood.within kind

theorem SlotsAccounted.release (hgood : node.SlotsAccounted)
    (hlookup : node.creates.lookup id = some create)
    (hheld : create.holding = workers ∨
      create.holding = 0 ∧ node.workerReserved create.request.kind = 0)
    (progress : CreateProgress)
    (hmatch : Create.SlotsMatch
      { create with progress := progress, holding := 0 }) :
    ((node.releaseReserved create.request.kind workers).setCreate id
      { create with progress := progress, holding := 0 }).SlotsAccounted := by
  have hbound : create.heldOf create.request.kind ≤
      node.workerReserved create.request.kind := by
    rw [hgood.reserved, heldSlots]
    have hsum := total_erase (Create.heldOf create.request.kind) node.creates id
    rw [hlookup, Option.elim_some] at hsum
    omega
  rw [Create.heldOf, if_pos rfl] at hbound
  refine hgood.replaceCreate
    ((node.releaseReserved create.request.kind workers).setCreate id _)
    hlookup rfl rfl (fun kind => ?_) (fun kind => ?_) hmatch
  · simp only [setCreate, releaseReserved, setReserved, Create.heldOf]
    by_cases hkind : kind = create.request.kind
    · subst hkind
      simp only [Function.update_self, if_true]
      omega
    · simp only [Function.update_of_ne hkind, if_neg (Ne.symm hkind)]
  · have hwithin := hgood.within kind
    change node.ownedWorkers kind + Function.update node.workerReserved
      create.request.kind (node.workerReserved create.request.kind - workers)
        kind ≤ _
    by_cases hkind : kind = create.request.kind
    · subst hkind
      rw [Function.update_self]
      omega
    · rwa [Function.update_of_ne hkind]

theorem SlotNeutral.rollbackAction (node : Node) (request : CreateRequest)
    (workers : ℕ) (host : Option HostRef) (reason : String)
    {action : RollbackAction} (haction : action ≠ .release) :
    SlotNeutral node (node.rollbackAction request workers host reason action) := by
  cases action with
  | release => exact absurd rfl haction
  | stopExecutor =>
    cases host with
    | none => exact .refl node
    | some host => exact .setHost node host _
  | rememberFailed =>
    have hentry := SlotNeutral.failedEntry node request node.nextRef workers
      reason
    exact ⟨hentry.capacity, hentry.reserved, hentry.creates, hentry.owned⟩
  | markFailed =>
    simp only [Node.rollbackAction]
    split
    · exact .refl node
    · exact ⟨rfl, rfl, rfl,
        node.ownedWorkers_setEntry_le_of_not_ready _ _ rfl⟩
  | publishFailure stage =>
    simp only [Node.rollbackAction]
    split
    · exact .refl node
    · next resource hentry => exact .setEntry hentry le_rfl

theorem SlotsAccounted.rollback (hgood : node.SlotsAccounted)
    {host : Option HostRef} {reason : String} {plan : List RollbackAction}
    (hlookup : node.creates.lookup id = some create)
    (hprogress : create.progress = .failing workers host reason plan)
    (hguard : node.CreateSlotGuard create .rollback) :
    (node.rollbackCreate id create workers host reason plan).SlotsAccounted := by
  have hmatch := hgood.holdings id create hlookup
  rw [Create.SlotsMatch, hprogress] at hmatch
  cases plan with
  | nil =>
    have hnone : create.holding = 0 := by
      obtain hnone | ⟨-, hmem⟩ := hmatch
      · exact hnone
      · cases hmem
    exact hgood.advance hlookup (.refl node) _ rfl rfl hnone
  | cons action rest =>
    by_cases haction : action = .release
    · subst haction
      simp only [CreateSlotGuard, hprogress] at hguard
      apply hgood.release hlookup _ (.failing workers host reason rest)
        (Or.inl rfl)
      obtain hnone | ⟨hheld, -⟩ := hmatch
      · exact Or.inr ⟨hnone, hguard hnone⟩
      · exact Or.inl hheld
    · have hholding : holdingAfter create.holding action = create.holding := by
        cases action <;> first | rfl | exact absurd rfl haction
      refine hgood.advance hlookup
        (SlotNeutral.rollbackAction node _ workers host reason haction)
        { create with
          progress := .failing workers host reason rest
          holding := holdingAfter create.holding action } rfl hholding ?_
      rw [Create.SlotsMatch]
      obtain hnone | ⟨hheld, hmem⟩ := hmatch
      · exact Or.inl (hholding.trans hnone)
      · refine Or.inr ⟨hholding.trans hheld, ?_⟩
        exact (List.mem_cons.mp hmem).resolve_left (Ne.symm haction)

theorem SlotsAccounted.start (hgood : node.SlotsAccounted)
    (hlookup : node.creates.lookup id = some create)
    (hnone : create.holding = 0) :
    (node.startCreate id create).SlotsAccounted := by
  unfold startCreate
  dsimp only
  split
  · exact hgood.advance hlookup (.refl node) _ rfl rfl (Or.inl hnone)
  · next resource hentry =>
    split
    · exact hgood.advance hlookup (.refl node) _ rfl rfl (Or.inl hnone)
    · refine hgood.move hlookup (.setEntry hentry ?_) .preparing hnone
      exact le_rfl

theorem SlotsAccounted.count (hgood : node.SlotsAccounted)
    (hlookup : node.creates.lookup id = some create)
    (hnone : create.holding = 0) :
    (node.countActiveWorkers id create).SlotsAccounted := by
  unfold countActiveWorkers
  dsimp only
  split
  · split <;> exact hgood.advance hlookup (.refl node) _ rfl rfl hnone
  · split
    · exact hgood.advance hlookup (.refl node) _ rfl rfl (Or.inl hnone)
    · next resource hentry =>
      split
      · exact hgood.advance hlookup (.refl node) _ rfl rfl (Or.inl hnone)
      · refine hgood.move hlookup (.setEntry hentry ?_) (.counted _) hnone
        exact le_rfl

theorem mem_skeletonRollback (kind : ResourceKind) (waitReady : Bool) :
    RollbackAction.release ∈ skeletonRollback kind waitReady := by
  cases kind <;> cases waitReady <;> exact List.mem_cons_self ..

theorem mem_publishRollback (kind : ResourceKind) (waitReady : Bool) :
    RollbackAction.release ∈ publishRollback kind waitReady := by
  cases kind <;> cases waitReady <;> exact List.mem_cons_self ..

variable (hgood : node.SlotsAccounted)

include hgood

theorem SlotsAccounted.createExecutor {outcome : ExecutorOutcome}
    {error : String} (hlookup : node.creates.lookup id = some create)
    (hheld : create.holding = workers)
    (hstep : node.createExecutor id create workers host outcome error =
      some next) : next.SlotsAccounted := by
  simp only [Node.createExecutor, Option.bind_eq_bind,
    Option.bind_eq_some_iff] at hstep
  obtain ⟨state, -, hstep⟩ := hstep
  split at hstep <;> cases hstep
  · exact hgood.advance hlookup (.setHost node host state) _ rfl rfl
      (Or.inr ⟨hheld, mem_skeletonRollback _ _⟩)
  · exact hgood.advance hlookup (.setHost node host state) _ rfl rfl hheld

theorem SlotsAccounted.publishBackground (error : Option String)
    (hlookup : node.creates.lookup id = some create)
    (hheld : create.holding = workers)
    (hfits : node.showsExecutor create.request = true →
      node.ownedWorkers create.request.kind +
        node.workerReserved create.request.kind + workers ≤
          node.workerCapacity create.request.kind) :
    (node.publishBackground id create workers host error).SlotsAccounted := by
  have hfailed : create.holding = 0 ∨ create.holding = workers ∧
      RollbackAction.release ∈
        publishRollback create.request.kind create.request.waitReady :=
    Or.inr ⟨hheld, mem_publishRollback _ _⟩
  unfold Node.publishBackground
  dsimp only
  split
  · exact hgood.advance hlookup (.refl node) _ rfl rfl hfailed
  · next resource hentry =>
    split
    · exact hgood.advance hlookup (.refl node) _ rfl rfl hfailed
    · next hlive =>
      have hshown : node.showsExecutor create.request = true := by
        simp [showsExecutor, hentry, hlive]
      cases error with
      | none =>
        exact hgood.publish _ hlookup rfl rfl (hfits hshown) _ hheld
      | some reason =>
        exact hgood.publish _ hlookup rfl rfl (hfits hshown) _ hfailed

theorem SlotsAccounted.finalise (hlookup : node.creates.lookup id = some create)
    (hnone : create.holding = 0)
    (hguard : ∀ resource, node.entry create.request.kind
      create.request.resourceId = some resource →
        (resource.isRunning create.request.kind &&
          resource.executorReady) = true) :
    (node.finaliseCreate id create workers host).SlotsAccounted := by
  unfold finaliseCreate
  dsimp only
  split
  · exact hgood.advance hlookup (.refl node) _ rfl rfl (Or.inl hnone)
  · next resource hentry =>
    apply hgood.move hlookup (.setEntry hentry _) .ended hnone
    have hold : resource.ownedWeight create.request.kind =
        resource.workerCount := by
      rw [Resource.ownedWeight, if_pos (hguard resource hentry)]
    rw [hold]
    exact (resource.finalise workers).ownedWeight_le _

theorem SlotsAccounted.createStep {move : CreateMove}
    (hlookup : node.creates.lookup id = some create)
    (hguard : node.CreateSlotGuard create move)
    (hstep : node.createStep id create move = some next) :
    next.SlotsAccounted := by
  have hmatch := hgood.holdings id create hlookup
  unfold Node.createStep at hstep
  split at hstep
  all_goals rename_i hprogress
  all_goals try rw [Create.SlotsMatch, hprogress] at hmatch
  · -- accept
    cases hstep
    exact (hgood.move hlookup (.skeleton node _ _) .accepted
      hmatch).withNextRef _
  · -- start
    cases hstep
    exact hgood.start hlookup hmatch
  · -- prepare
    cases hstep
    unfold prepareCreate
    obtain ⟨hosts, hopened⟩ := node.openClient_eq
      (create.request.kind, create.request.resourceId) _
    rw [hopened]
    have hneutral : SlotNeutral node { node with hosts := hosts } :=
      ⟨rfl, rfl, rfl, fun _ => le_rfl⟩
    dsimp only
    split
    · exact hgood.advance hlookup hneutral _ rfl rfl (Or.inl hmatch)
    · exact hgood.advance hlookup hneutral _ rfl rfl hmatch
  · -- count
    cases hstep
    exact hgood.count hlookup hmatch
  · -- the host raises
    cases hstep
    exact hgood.advance hlookup (.refl node) _ rfl rfl (Or.inl hmatch)
  · -- reserve
    cases hstep
    exact hgood.reserve hlookup hprogress hguard
  · -- create the executor
    exact hgood.createExecutor hlookup hmatch hstep
  · -- the preload raises
    cases hstep
    exact hgood.advance hlookup (.refl node) _ rfl rfl
      (Or.inr ⟨hmatch, mem_skeletonRollback _ _⟩)
  · -- publish
    simp only [CreateSlotGuard, hprogress] at hguard
    split at hstep <;> cases hstep
    · next hwait =>
      have hshown : node.showsExecutor create.request = true := by
        simp [showsExecutor, hwait]
      exact (hgood.publish (create.request.session node.nextRef _) hlookup rfl
        rfl (hguard hshown) (.published _ _) hmatch).withNextRef _
    · exact hgood.publishBackground _ hlookup hmatch hguard
  · -- release
    cases hstep
    apply hgood.release hlookup (Or.inl hmatch)
    split <;> rfl
  · -- announce the warmup
    split at hstep <;> cases hstep
    unfold beginWarmup
    dsimp only
    split
    · exact hgood
    · next resource hentry => exact hgood.neutral (.setEntry hentry le_rfl)
  · -- the warmup raises before the entry shows the executor
    split at hstep <;> cases hstep
    exact hgood.advance hlookup (.refl node) _ rfl rfl
      (Or.inr ⟨hmatch, mem_publishRollback _ _⟩)
  · -- the warmup raises after the release
    split at hstep <;> cases hstep
    exact hgood.advance hlookup (.refl node) _ rfl rfl (Or.inl hmatch)
  · -- finalise
    cases hstep
    simp only [CreateSlotGuard, hprogress] at hguard
    exact hgood.finalise hlookup hmatch hguard
  · -- roll back
    cases hstep
    exact hgood.rollback hlookup hprogress hguard
  · cases hstep

theorem SlotsAccounted.begin {request : CreateRequest}
    (hstep : node.beginCreate id request = some next) :
    next.SlotsAccounted := by
  unfold beginCreate at hstep
  split at hstep
  · cases hstep
  · next hmem =>
    split at hstep
    · cases hstep
    · cases hstep
      have hlookup : node.creates.lookup id = none :=
        AList.lookup_eq_none.mpr hmem
      refine ⟨fun kind => ?_, hgood.within, fun other create hother => ?_⟩
      · have hsum := total_set (Create.heldOf kind) node.creates id
          ⟨request, if request.waitReady then .preparing else .requested, 0⟩
        rw [hlookup, Option.elim_none] at hsum
        have hold := hgood.reserved kind
        simp only [Create.heldOf, ite_self, Nat.add_zero] at hsum
        rw [heldSlots] at hold
        exact hold.trans hsum.symm
      · simp only [setCreate, lookup_set] at hother
        split at hother
        · cases hother
          cases hwait : request.waitReady <;> exact rfl
        · exact hgood.holdings other create hother

theorem SlotsAccounted.step {label : NodeLabel} (hguard : node.SlotGuard label)
    (hstep : node.step label = some next) : next.SlotsAccounted := by
  by_cases hbegin : ∃ id request, label = .beginCreate id request
  · obtain ⟨id, request, rfl⟩ := hbegin
    exact hgood.begin hstep
  · by_cases hcreate : ∃ id move, label = .create id move
    · obtain ⟨id, move, rfl⟩ := hcreate
      simp only [Node.step] at hstep
      split at hstep
      · cases hstep
      · next create hlookup =>
        exact hgood.createStep hlookup (hguard create hlookup) hstep
    · exact hgood.neutral (.step
        (fun id request heq => hbegin ⟨id, request, heq⟩)
        (fun id move heq => hcreate ⟨id, move, heq⟩) hstep)

end Node

/-- A run whose steps all meet `SlotGuard` keeps the worker slots accounted
for, and refuses a create as exhausted only where the capacity is used up. -/
theorem workerSlots_accounted {services taskPools : ℕ} {node : Node}
    (hrun : GuardedRun Node.step Node.SlotGuard
      (Node.initial services taskPools) node) :
    (∀ kind, node.workerReserved kind = node.heldSlots kind) ∧
    (∀ kind, node.ownedWorkers kind + node.workerReserved kind ≤
      node.workerCapacity kind) ∧
    (∀ id create, node.creates.lookup id = some create →
      create.progress = .ended → create.holding = 0) ∧
    ∀ id create active reason, node.creates.lookup id = some create →
      create.progress = .counted active →
      node.SlotGuard (.create id .reserve) →
      reserveWorkerSlots create.request.kind
        (node.workerCapacity create.request.kind) active
        (node.workerReserved create.request.kind)
        create.request.requestedWorkers = .error reason →
      node.workerCapacity create.request.kind ≤
        node.ownedWorkers create.request.kind +
          node.workerReserved create.request.kind := by
  have hgood : node.SlotsAccounted :=
    hrun.invariant Node.SlotsAccounted (.initial services taskPools)
      fun _ _ _ hgood hguard hstep => hgood.step hguard hstep
  refine ⟨hgood.reserved, hgood.within, ?_, ?_⟩
  · intro id create hlookup hended
    have hmatch := hgood.holdings id create hlookup
    rwa [Create.SlotsMatch, hended] at hmatch
  · intro id create active reason hlookup hprogress hguard herror
    have hcreate := hguard create hlookup
    simp only [Node.CreateSlotGuard, hprogress, herror] at hcreate
    have hfull := Node.reserveWorkerSlots_error herror
    omega

section runs

def poolRequest (id : ResourceId) (waitReady : Bool) : CreateRequest where
  kind := .taskPool
  resourceId := id
  ownerClientId := "owner"
  name := id
  token := "token"
  sha256 := "sha"
  codeVersion := "code"
  requestedWorkers := 2
  waitReady := waitReady
  initialGlobals := false

def poolCreateRun (id : CreateId) (resourceId : ResourceId) : List NodeLabel :=
  [.beginCreate id (poolRequest resourceId true), .create id (.prepare true none),
    .create id .count, .create id .reserve,
    .create id (.createExecutor .created ""), .create id (.publish none),
    .create id .release]

theorem workerSlots_accounted_poolCreated :
    ∃ node : Node,
      GuardedRun Node.step Node.SlotGuard (Node.initial 4 4) node ∧
      node.ownedWorkers .taskPool = 2 ∧
      node.workerReserved .taskPool = node.heldSlots .taskPool := by
  have hrun : GuardedRun Node.step Node.SlotGuard (Node.initial 4 4)
      ((checkedRun Node.step Node.SlotGuard (Node.initial 4 4)
        (poolCreateRun 0 "a")).getD (Node.initial 4 4)) :=
    guardedRun_of_checkedRun (poolCreateRun 0 "a") rfl
  exact ⟨_, hrun, by decide, (workerSlots_accounted hrun).1 .taskPool⟩

/-- Pool `a` holds two slots while the create of pool `b` fails in the executor
and gives its two slots back twice: the counter forgets the slots of `a`. -/
theorem doubleRelease_forgets_reservation :
    ∃ node : Node, Reachable Node.step (Node.initial 4 4) node ∧
      node.heldSlots .taskPool = 2 ∧ node.workerReserved .taskPool = 0 :=
  ⟨_, reachable_of_runLabels
    [.beginCreate 0 (poolRequest "a" true), .create 0 (.prepare true none),
      .create 0 .count, .create 0 .reserve,
      .beginCreate 1 (poolRequest "b" true), .create 1 (.prepare true none),
      .create 1 .count, .create 1 .reserve,
      .create 1 (.createExecutor .raised "no process"),
      .create 1 .rollback, .create 1 .rollback, .create 1 .rollback] rfl,
    by decide, by decide⟩

end runs

end PycloudParallel.NodeResources
