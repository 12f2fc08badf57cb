import PycloudParallel.FoundationGuardedRun
import PycloudParallel.FoundationOrderedDict
import Mathlib.Data.List.Sort

/-!
# The registrar of a node and its record at the InfoCenter

`NodeInfoCenterRegistrar` keeps the record of one node instance at the
InfoCenter by registrations and heartbeats.  Threads run `_sync_now` and
background heartbeats side by side; the flags are read and written in sections,
and an exchange takes its snapshot, is handled by the InfoCenter and is answered
in steps of their own.

What is sent and stored beside the identity of the node and its inventory
(metrics, metadata, worker counts, capability) is left out.  Whether a lease
has expired and whether a periodic inventory is due are answers in the labels.
-/

namespace PycloudParallel.Registrar

/-- The service and task pool reports of a snapshot.  `changes` counts the
changes of the node that they contain; nothing reads it. -/
structure Inventory (ι : Type*) where
  reports : ι
  changes : ℕ
deriving DecidableEq

structure NodeIdentity where
  controlAddr : String
  capacity : ℕ
  queueCapacity : ℕ
  tags : List String
  capacity_pos : 0 < capacity
  queueCapacity_pos : 0 < queueCapacity

def NodeIdentity.create (controlAddr : String) (capacity queueCapacity : ℕ)
    (tags : List String) : NodeIdentity where
  controlAddr := controlAddr
  capacity := max 1 capacity
  queueCapacity := max 1 queueCapacity
  tags := tags
  capacity_pos := by omega
  queueCapacity_pos := by omega

def strip (text : String) : String :=
  .ofList ((text.toList.dropWhile Char.isWhitespace).reverse.dropWhile
    Char.isWhitespace).reverse

def normalizeTags (tags : List String) : List String :=
  ((tags.map strip).filter (· ≠ "")).dedup.insertionSort (· ≤ ·)

/-- `NodeState` of the InfoCenter; no inventory is one that was never sent. -/
structure NodeRecord (ι : Type*) where
  controlAddr : String
  capacity : ℕ
  queueCapacity : ℕ
  legacyNodeTags : List String
  inventory : Option (Inventory ι)
deriving DecidableEq

namespace NodeRecord

variable {ι : Type*}

/-- The record that `heartbeat_record` makes of an unknown node. -/
def ofHeartbeat : NodeRecord ι where
  controlAddr := ""
  capacity := 1
  queueCapacity := 1
  legacyNodeTags := []
  inventory := none

/-- `register_node_record`; nothing of the old record is kept. -/
def ofRegistration (identity : NodeIdentity) (inventory : Inventory ι) :
    NodeRecord ι where
  controlAddr := identity.controlAddr
  capacity := identity.capacity
  queueCapacity := identity.queueCapacity
  legacyNodeTags := normalizeTags identity.tags
  inventory := some inventory

def heartbeat (record : NodeRecord ι) (inventory : Option (Inventory ι)) :
    NodeRecord ι :=
  { record with inventory := inventory.or record.inventory }

def hasIdentity (record : NodeRecord ι) (identity : NodeIdentity) : Bool :=
  record.controlAddr = identity.controlAddr &&
    record.capacity = identity.capacity &&
    record.queueCapacity = identity.queueCapacity &&
    record.legacyNodeTags = normalizeTags identity.tags

end NodeRecord

inductive RequestBody (ι : Type*)
  | register (inventory : Inventory ι)
  /-- No inventory is `inventory_included=False`. -/
  | heartbeat (inventory : Option (Inventory ι))
deriving DecidableEq

def RequestBody.inventory? {ι : Type*} : RequestBody ι → Option (Inventory ι)
  | .register inventory => some inventory
  | .heartbeat inventory => inventory

structure Reply where
  accepted : Bool
  inventoryRequired : Bool
deriving DecidableEq

inductive RequestStage
  | sent
  /-- The handler of a heartbeat has looked for the node. -/
  | looked (wasKnown : Bool)
  /-- `era` counts the losses of the record in front of the reply; nothing
  reads it. -/
  | replied (reply : Reply) (era : ℕ)
deriving DecidableEq

structure Request (ι : Type*) where
  body : RequestBody ι
  stage : RequestStage

inductive ExchangeError
  | unknownNode
  | connectFailure
  | other
deriving DecidableEq

inductive Outcome
  | returned
  | raised (error : ExchangeError)
deriving DecidableEq

/-- What `_sync_now` reads in its first section, with its argument. -/
structure SyncContext where
  syncHeartbeat : Bool
  wasRegistered : Bool
  forceInventory : Bool
deriving DecidableEq

/-- What a thread does behind `_drain_heartbeat_future` or behind an exception. -/
inductive Continuation
  | decide (context : SyncContext)
  | submit
  | finish
deriving DecidableEq

inductive Purpose
  | sync (wasRegistered : Bool)
  /-- The thread of `_submit_heartbeat_async`. -/
  | background
  /-- `_register_once` of `_handle_sync_exception`. -/
  | reregister (next : Continuation)
  /-- `_mark_lost_before_close`. -/
  | final
deriving DecidableEq

inductive Call
  | drain (next : Continuation)
  /-- The future was found done. -/
  | consume (outcome : Outcome) (next : Continuation)
  | decide (context : SyncContext)
  | submit
  | beginHeartbeat (forceInventory : Bool) (purpose : Purpose)
  | heartbeat (includeInventory : Bool) (purpose : Purpose)
  | register (purpose : Purpose)
  /-- The request is sent.  `changes` is that of its inventory. -/
  | waiting (request : ℕ) (registration : Bool) (changes : Option ℕ)
      (purpose : Purpose)
deriving DecidableEq

structure System (ι : Type*) where
  identity : NodeIdentity
  /-- The node. -/
  inventory : Inventory ι
  /-- The changes whose `request_sync` is still to come. -/
  unrequested : List ℕ
  /-- The registrar. -/
  registered : Bool
  forceInventorySync : Bool
  /-- The thread of `_heartbeat_future`. -/
  heartbeatFuture : Option ℕ
  /-- The futures that are done. -/
  futures : OrderedDict ℕ Outcome
  calls : OrderedDict ℕ Call
  /-- The network and the InfoCenter. -/
  nextRequest : ℕ
  requests : OrderedDict ℕ (Request ι)
  record : Option (NodeRecord ι)
  /-- The inventories the node has had, the latest change that was requested,
  for each reply that cleared the flag the changes requested then and those in
  its snapshot, and the inventories in the order they were stored.  Nothing
  reads these, nor the next two. -/
  history : List (Inventory ι)
  requested : ℕ
  cleared : List (ℕ × ℕ)
  stored : List ℕ
  /-- How often the record was lost, and the answers since: those accepted that
  were given since the loss, and exchanges that failed or were rejected. -/
  era : ℕ
  answers : List Bool

inductive Label (ι : Type*)
  | change (reports : ι)
  | requestSync (change : ℕ)
  /-- The first section of `_sync_now`. -/
  | enter (thread : ℕ) (syncHeartbeat : Bool)
  | close (thread : ℕ)
  | drain (thread : ℕ) (leaseExpired : Bool)
  | consume (thread : ℕ)
  | decide (thread : ℕ)
  | submit (thread background : ℕ)
  /-- The first section of `_heartbeat_once`. -/
  | beginHeartbeat (thread : ℕ) (inventoryDue : Bool)
  | snapshot (thread : ℕ)
  | answer (thread : ℕ)
  | fail (thread : ℕ) (error : ExchangeError)
  /-- `list_nodes` of the handler of a heartbeat. -/
  | look (request : ℕ) (listed : Bool)
  | store (request : ℕ)
  | reject (request : ℕ)
  /-- A request is lost on its way. -/
  | discard (request : ℕ)
  /-- The InfoCenter restarts or drops the record. -/
  | lose

namespace System

variable {ι : Type*} (system : System ι)

def initial (identity : NodeIdentity) (reports : ι) : System ι where
  identity := identity
  inventory := ⟨reports, 0⟩
  unrequested := []
  registered := false
  forceInventorySync := true
  heartbeatFuture := none
  futures := ∅
  calls := ∅
  nextRequest := 0
  requests := ∅
  record := none
  history := [⟨reports, 0⟩]
  requested := 0
  cleared := []
  stored := []
  era := 0
  answers := []

def setCall (thread : ℕ) (call : Call) : System ι :=
  { system with calls := system.calls.set thread call }

def endCall (thread : ℕ) : System ι :=
  { system with calls := system.calls.erase thread }

def continueWith (thread : ℕ) : Continuation → System ι
  | .decide context => system.setCall thread (.decide context)
  | .submit => system.setCall thread .submit
  | .finish => system.endCall thread

/-- `_handle_sync_exception`.  An expired lease only clears `_registered`, and
that is cleared here anyway. -/
def handleSyncException (thread : ℕ) (error : ExchangeError)
    (wasRegistered : Bool) (next : Continuation) : System ι :=
  let system := { system with registered := false }
  if wasRegistered && error = .unknownNode then
    system.setCall thread (.register (.reregister next))
  else system.continueWith thread next

def drain (thread : ℕ) (leaseExpired : Bool) (next : Continuation) : System ι :=
  match system.heartbeatFuture with
  | none => system.continueWith thread next
  | some future =>
    match system.futures.lookup future with
    | some outcome => system.setCall thread (.consume outcome next)
    | none =>
      { system with
        registered := system.registered && !leaseExpired }.continueWith
          thread next

def consume (thread : ℕ) (outcome : Outcome) (next : Continuation) : System ι :=
  let system := { system with heartbeatFuture := none }
  match outcome with
  | .returned => system.continueWith thread next
  | .raised error => system.handleSyncException thread error true next

/-- `_sync_now` behind the draining. -/
def decide (thread : ℕ) (context : SyncContext) : System ι :=
  if context.wasRegistered && !context.forceInventory && !context.syncHeartbeat
  then system.setCall thread (.drain .submit)
  else if context.wasRegistered then
    system.setCall thread (.beginHeartbeat false (.sync true))
  else system.setCall thread (.register (.sync false))

/-- `_submit_heartbeat_async` behind its draining. -/
def submit (thread background : ℕ) : Option (System ι) :=
  let pending := system.heartbeatFuture.any fun future =>
    future ∉ system.futures
  if pending then some (system.endCall thread)
  else if background ∈ system.calls || background ∈ system.futures then none
  else
    some { (system.endCall thread).setCall background
        (.beginHeartbeat false .background) with
      heartbeatFuture := some background }

def send (thread : ℕ) (body : RequestBody ι) (registration : Bool)
    (purpose : Purpose) : System ι :=
  { system.setCall thread (.waiting system.nextRequest registration
      (body.inventory?.map Inventory.changes) purpose) with
    nextRequest := system.nextRequest + 1
    requests := system.requests.set system.nextRequest ⟨body, .sent⟩ }

/-- The section of `_register_once` behind an accepted answer. -/
def registerAnswered (changes : Option ℕ) : System ι :=
  { system with
    registered := true
    forceInventorySync := false
    cleared := system.cleared ++ changes.toList.map fun contained =>
      (system.requested, contained) }

/-- The section of `_heartbeat_once` behind an accepted answer. -/
def heartbeatAnswered (changes : Option ℕ) (inventoryRequired : Bool) :
    System ι :=
  if inventoryRequired then { system with forceInventorySync := true }
  else
    match changes with
    | none => system
    | some contained =>
      { system with
        forceInventorySync := false
        cleared := system.cleared ++ [(system.requested, contained)] }

def returned (thread : ℕ) : Purpose → System ι
  | .sync _ => system.endCall thread
  | .background =>
    { system.endCall thread with
      futures := system.futures.set thread .returned }
  | .reregister next => system.continueWith thread next
  | .final => { system.endCall thread with registered := false }

def raised (thread : ℕ) (error : ExchangeError) : Purpose → System ι
  | .sync wasRegistered =>
    system.handleSyncException thread error wasRegistered .finish
  | .background =>
    { system.endCall thread with
      futures := system.futures.set thread (.raised error) }
  | .reregister next => system.continueWith thread next
  | .final => { system.endCall thread with registered := false }

def noteAnswer (accepted : Bool) : System ι :=
  { system with answers := system.answers ++ [accepted] }

def noteReply (reply : Reply) (era : ℕ) : System ι :=
  if reply.accepted && era ≠ system.era then system
  else system.noteAnswer reply.accepted

def answer (thread request : ℕ) (registration : Bool) (changes : Option ℕ)
    (purpose : Purpose) (reply : Reply) (era : ℕ) : System ι :=
  let system := { system with requests := system.requests.erase request }
  let system := system.noteReply reply era
  let system :=
    if !reply.accepted then system
    else if registration then system.registerAnswered changes
    else system.heartbeatAnswered changes reply.inventoryRequired
  system.returned thread purpose

def setStage (request : ℕ) (body : RequestBody ι) (stage : RequestStage) :
    System ι :=
  { system with requests := system.requests.set request ⟨body, stage⟩ }

def storeRecord (record : NodeRecord ι) (inventory : Option (Inventory ι)) :
    System ι :=
  { system with
    record := some record
    stored := system.stored ++ (inventory.map Inventory.changes).toList }

/-- The handlers of `/nodes/register` and `/nodes/heartbeat`. -/
def store (request : ℕ) (body : RequestBody ι) : RequestStage →
    Option (System ι)
  | .sent =>
    match body with
    | .register inventory =>
      some ((system.storeRecord (.ofRegistration system.identity inventory)
        (some inventory)).setStage request body
          (.replied ⟨true, false⟩ system.era))
    | .heartbeat _ => none
  | .looked wasKnown =>
    match body with
    | .register _ => none
    | .heartbeat inventory =>
      let record := (system.record.getD .ofHeartbeat).heartbeat inventory
      some ((system.storeRecord record inventory).setStage request body
        (.replied ⟨true, !wasKnown && inventory.isNone⟩ system.era))
  | .replied _ _ => none

def step : Label ι → Option (System ι)
  | .change reports =>
    let inventory := ⟨reports, system.inventory.changes + 1⟩
    some { system with
      inventory := inventory
      unrequested := system.unrequested ++ [inventory.changes]
      history := system.history ++ [inventory] }
  | .requestSync change =>
    if change ∈ system.unrequested then
      some { system with
        unrequested := system.unrequested.erase change
        forceInventorySync := true
        requested := max system.requested change }
    else none
  | .enter thread syncHeartbeat =>
    if thread ∈ system.calls || thread ∈ system.futures then none
    else
      some (system.setCall thread (.drain (.decide
        ⟨syncHeartbeat, system.registered, system.forceInventorySync⟩)))
  | .close thread =>
    if thread ∈ system.calls || thread ∈ system.futures || !system.registered
    then none
    else some (system.setCall thread (.beginHeartbeat true .final))
  | .drain thread leaseExpired =>
    match system.calls.lookup thread with
    | some (.drain next) => some (system.drain thread leaseExpired next)
    | _ => none
  | .consume thread =>
    match system.calls.lookup thread with
    | some (.consume outcome next) => some (system.consume thread outcome next)
    | _ => none
  | .decide thread =>
    match system.calls.lookup thread with
    | some (.decide context) => some (system.decide thread context)
    | _ => none
  | .submit thread background =>
    match system.calls.lookup thread with
    | some .submit => system.submit thread background
    | _ => none
  | .beginHeartbeat thread inventoryDue =>
    match system.calls.lookup thread with
    | some (.beginHeartbeat forceInventory purpose) =>
      some (system.setCall thread (.heartbeat
        (forceInventory || system.forceInventorySync || inventoryDue)
        purpose))
    | _ => none
  | .snapshot thread =>
    match system.calls.lookup thread with
    | some (.register purpose) =>
      some (system.send thread (.register system.inventory) true purpose)
    | some (.heartbeat includeInventory purpose) =>
      some (system.send thread (.heartbeat
        (if includeInventory then some system.inventory else none)) false
        purpose)
    | _ => none
  | .answer thread =>
    match system.calls.lookup thread with
    | some (.waiting request registration changes purpose) =>
      match system.requests.lookup request with
      | some ⟨_, .replied reply era⟩ =>
        some (system.answer thread request registration changes purpose
          reply era)
      | _ => none
    | _ => none
  | .fail thread error =>
    match system.calls.lookup thread with
    | some (.waiting _ _ _ purpose) | some (.register purpose) |
      some (.heartbeat _ purpose) =>
        some ((system.noteAnswer false).raised thread error purpose)
    | _ => none
  | .look request listed =>
    match system.requests.lookup request with
    | some ⟨.heartbeat inventory, .sent⟩ =>
      some (system.setStage request (.heartbeat inventory)
        (.looked (system.record.isSome && listed)))
    | _ => none
  | .store request =>
    match system.requests.lookup request with
    | some ⟨body, stage⟩ => system.store request body stage
    | none => none
  | .reject request =>
    match system.requests.lookup request with
    | some ⟨_, .replied _ _⟩ => none
    | some ⟨body, _⟩ =>
      some (system.setStage request body (.replied ⟨false, false⟩ system.era))
    | none => none
  | .discard request =>
    match system.requests.lookup request with
    | some ⟨_, .sent⟩ =>
      some { system with requests := system.requests.erase request }
    | _ => none
  | .lose =>
    some { system with
      record := none
      era := system.era + 1
      answers := [] }

end System

end PycloudParallel.Registrar
