import PycloudParallel.FoundationOrderedDict
import PycloudParallel.FoundationTexts

/-!
# Startup services and their managed globals

`NodeRuntimeBase` as far as managed globals go: updates that match no mounted
service stay pending under their address, and `mount_startup_service` applies
the pending updates that match the new service.  Digests are reported only, so
the model keeps of them whether they can be computed.
-/

namespace PycloudParallel.StartupGlobals

open PycloudParallel.Texts (strip)

/-- A key of a dict of values: `str(name)`, and whether the key is true in
Python. -/
structure GlobalName where
  text : String
  truthy : Bool
deriving DecidableEq

def GlobalName.normalized (name : GlobalName) : String :=
  if name.truthy then strip name.text else ""

abbrev Values (V : Type) := List (GlobalName × V)

abbrev Globals (V : Type) := String → Option V

structure Service (V : Type) where
  serviceId : String
  serviceName : String
  hasModule : Bool
  managedGlobalNames : List String
  globals : Globals V

inductive GlobalsError
  | moduleUnavailable
  | notDeclared (unknown : List String)
  | noDigest
  | hookNotCallable
  | hookRaised
  | hookResult
  | serviceNotFound
deriving DecidableEq

/-- What `apply_managed_globals` of a module returns. -/
inductive HookResult (V : Type)
  | notCallable
  | raised
  | returned (values : Option (Values V))
  | other

/-- Code that is not of the runtime: whether `_startup_globals_digest` can be
computed, and what a value does as the hook of a module. -/
structure Surroundings (V : Type) where
  digestible : Values V → Bool
  callHook : V → Service V → Values V → Globals V × HookResult V

variable {V : Type}

def assignGlobals (globals : Globals V) : Values V → Globals V
  | [] => globals
  | (name, value) :: rest =>
    if name.normalized = "" then assignGlobals globals rest
    else assignGlobals (Function.update globals name.normalized (some value)) rest

namespace Service

variable (service : Service V)

def withGlobals (globals : Globals V) : Service V :=
  { service with globals := globals }

/-- `managed_global_names` after `strip` and without the empty ones. -/
def allowedNames : List String :=
  (service.managedGlobalNames.map strip).filter (· != "")

def unknown (values : Values V) : List String :=
  if service.allowedNames.isEmpty then []
  else ((values.map fun item => item.1.text).filter
    (· ∉ service.allowedNames)).insertionSort (· ≤ ·)

def applyGlobals (around : Surroundings V) (values : Values V) :
    Service V × Except GlobalsError Unit :=
  if !service.hasModule then (service, .error .moduleUnavailable)
  else if service.unknown values != [] then
    (service, .error (.notDeclared (service.unknown values)))
  else if !around.digestible values then (service, .error .noDigest)
  else
    match service.globals "apply_managed_globals" with
    | none => (service.withGlobals (assignGlobals service.globals values), .ok ())
    | some hook =>
      let (globals, result) := around.callHook hook service values
      match result with
      | .notCallable => (service, .error .hookNotCallable)
      | .raised => (service.withGlobals globals, .error .hookRaised)
      | .other => (service.withGlobals globals, .error .hookResult)
      | .returned none => (service.withGlobals globals, .ok ())
      | .returned (some fallback) =>
        (service.withGlobals (assignGlobals globals fallback), .ok ())

end Service

/-- A `service_id` and a `service_name`, either of which may be empty. -/
abbrev Address := String × String

/-- The test of `_matching_startup_services` and of
`_apply_pending_startup_globals`. -/
def addresses (address : Address) (service : Service V) : Bool :=
  (address.1 == "" || address.1 == service.serviceId) &&
    (address.2 == "" || address.2 == service.serviceName)

structure Node (V : Type) where
  startupServices : OrderedDict String (Service V)
  pendingStartupGlobals : OrderedDict Address (Values V)

def Node.init : Node V where
  startupServices := ∅
  pendingStartupGlobals := ∅

namespace Node

variable (node : Node V) (around : Surroundings V)

def setService (key : String) (service : Service V) : Node V :=
  { node with
    startupServices := OrderedDict.set node.startupServices key service }

def setPending (address : Address) (values : Values V) : Node V :=
  { node with
    pendingStartupGlobals :=
      OrderedDict.set node.pendingStartupGlobals address values }

def matching (address : Address) : List (String × Service V) :=
  (OrderedDict.items node.startupServices).filter fun item =>
    addresses address item.2

/-- The loop of `update_startup_service_globals` over the matching services. -/
def applyToAll (values : Values V) :
    Node V → List (String × Service V) → Node V × Except GlobalsError Unit
  | node, [] => (node, .ok ())
  | node, (key, service) :: rest =>
    let (changed, result) := service.applyGlobals around values
    match result with
    | .error exc => (node.setService key changed, .error exc)
    | .ok () => applyToAll values (node.setService key changed) rest

/-- `update_startup_service_globals`.  A pending update is recorded before its
digest is computed. -/
def updateStartupServiceGlobals (values : Values V) (serviceId serviceName : String) :
    Node V × Except GlobalsError Unit :=
  let address := (strip serviceId, strip serviceName)
  match node.matching address with
  | [] =>
    if address.1 = "" ∧ address.2 = "" then (node, .error .serviceNotFound)
    else if around.digestible values then (node.setPending address values, .ok ())
    else (node.setPending address values, .error .noDigest)
  | mounts => applyToAll around values node mounts

/-- The loop of `_apply_pending_startup_globals`, with the keys it has
applied. -/
def applyItems (service : Service V) :
    List (Address × Values V) → Service V × Except GlobalsError (List Address)
  | [] => (service, .ok [])
  | (address, values) :: rest =>
    if !addresses address service then applyItems service rest
    else
      match service.applyGlobals around values with
      | (changed, .error exc) => (changed, .error exc)
      | (changed, .ok ()) =>
        match applyItems changed rest with
        | (last, .error exc) => (last, .error exc)
        | (last, .ok keys) => (last, .ok (address :: keys))

/-- `mount_startup_service`: the service is entered before the pending updates
are applied. -/
def mountStartupService (service : Service V) :
    Node V × Except GlobalsError Unit :=
  let entered := node.setService service.serviceId service
  match applyItems around service (OrderedDict.items node.pendingStartupGlobals) with
  | (changed, .error exc) =>
    (entered.setService service.serviceId changed, .error exc)
  | (changed, .ok keys) =>
    ({ entered.setService service.serviceId changed with
        pendingStartupGlobals :=
          OrderedDict.eraseAll node.pendingStartupGlobals keys }, .ok ())

end Node

inductive NodeEvent (V : Type)
  | update (values : Values V) (serviceId serviceName : String)
  | mount (service : Service V)

def NodeEvent.address : NodeEvent V → Option Address
  | .update _ serviceId serviceName => some (strip serviceId, strip serviceName)
  | .mount _ => none

namespace Node

def step (around : Surroundings V) (node : Node V) : NodeEvent V → Node V
  | .update values serviceId serviceName =>
    (node.updateStartupServiceGlobals around values serviceId serviceName).1
  | .mount service => (node.mountStartupService around service).1

def run (around : Surroundings V) (node : Node V) (events : List (NodeEvent V)) :
    Node V :=
  events.foldl (step around) node

end Node

end PycloudParallel.StartupGlobals
