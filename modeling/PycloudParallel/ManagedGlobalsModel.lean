import PycloudParallel.FoundationOrderedDict

/-!
# Managed globals of a service, a pool or a runtime

`update_service_globals` and `update_runtime_globals` on one scope, cut at the
lock sections and at the three file operations between them: loading the
snapshot, writing the merged one, writing the current pointer.

A SHA-256 digest is modelled by the content it is taken of, so a manifest is
its own digest and a value file is known by its bytes.  The kind and the key of
the scope, which stand in every manifest of it, are left out.
-/

namespace PycloudParallel.ManagedGlobals

abbrev Name := String
abbrev UpdateId := Nat

/-- Whose globals the scope holds: a `ServiceSession`'s, or those of a runtime
key with the pool of that client. -/
inductive ScopeKind
  | service
  | runtime
deriving DecidableEq

def pickleSerializationModes : List String :=
  ["pickle_stable_v1", "pickle_native_v1"]

def isPickleMode (mode : String) : Bool :=
  pickleSerializationModes.contains mode

/-- Reading a JSON text and writing it again with `_stable_json_bytes`; `none`
where it is no JSON. -/
structure JsonText where
  stable : String → Option String
  stable_idem : ∀ {source text : String},
    stable source = some text → stable text = some text
  stable_empty : stable "" = none

/-- A value of an update by how it serialises; `none` where that raises. -/
inductive GivenValue
  /-- A module, a function, a class or another callable. -/
  | callable
  | data (json pickle : Option String)
  /-- A mapping with the key `__pycloud_managed_global_binary__` that names a
  codec. -/
  | reserved (codec payload : String) (pickle : Option String)
deriving DecidableEq

/-- An entry of `current_values`: JSON data, or a binary value. -/
inductive SerializedValue
  | json (text : String)
  | binary (codec payload : String)
deriving DecidableEq

abbrev Snapshot := Name → Option SerializedValue

structure ManifestEntry where
  bytes : String
  codec : String
deriving DecidableEq

structure Manifest where
  allowedNames : List Name
  values : List (Name × ManifestEntry)
deriving DecidableEq

/-- A `globals_digest`; `none` is the empty text. -/
abbrev GlobalsDigest := Option Manifest

/-- The files of a scope directory: the manifests, the value files with whether
their suffix is `.bin`, and `current.json`. -/
structure ScopeFiles where
  manifests : List Manifest
  values : List (String × Bool)
  current : GlobalsDigest
deriving DecidableEq

structure UpdateRequest where
  serializationMode : String
  values : OrderedDict Name GivenValue

namespace GivenValue

/-- `_update_managed_globals_state` on one value. -/
def serialize (json : JsonText) (mode : String) :
    GivenValue → Option SerializedValue
  | callable => none
  | data text pickle =>
    if isPickleMode mode then pickle.map (.binary mode)
    else (text.bind json.stable).map .json
  | reserved codec payload pickle =>
    if isPickleMode mode then pickle.map (.binary mode)
    else some (.binary codec payload)

end GivenValue

namespace SerializedValue

/-- The value file and the codec that `_write_managed_globals_snapshot`
chooses. -/
def entry : SerializedValue → ManifestEntry
  | json text => ⟨text, "json"⟩
  | binary codec payload => ⟨payload, codec⟩

end SerializedValue

namespace ManifestEntry

def file (entry : ManifestEntry) : String × Bool :=
  (entry.bytes, isPickleMode entry.codec)

/-- One value in `_load_managed_globals_snapshot_serialized`: it raises, is
skipped because its file is missing, or is read. -/
def load (json : JsonText) (files : ScopeFiles) (entry : ManifestEntry) :
    Option (Option SerializedValue) :=
  if entry.file ∉ files.values then some none
  else if isPickleMode entry.codec then
    some (some (.binary entry.codec entry.bytes))
  else
    (json.stable (if entry.bytes = "" then "null" else entry.bytes)).map
      fun text => some (.json text)

end ManifestEntry

namespace UpdateRequest

variable (request : UpdateRequest)

def unknown (allowedNames : List Name) : Bool :=
  !(OrderedDict.items request.values).all fun (name, _) =>
    name ∈ allowedNames

def refused (allowedNames : List Name) : Bool :=
  request.unknown allowedNames ||
    (OrderedDict.values request.values).any fun value => value = .callable

/-- The serialised values; `none` where one of them raises. -/
def changes (json : JsonText) : Option Snapshot :=
  let mode := request.serializationMode
  if (OrderedDict.values request.values).all fun value =>
      (value.serialize json mode).isSome then
    some fun name => (request.values.lookup name).bind
      (GivenValue.serialize json mode)
  else none

end UpdateRequest

def manifestOf (allowedNames : List Name) (values : Snapshot) : Manifest where
  allowedNames := allowedNames
  values := allowedNames.filterMap fun name =>
    (values name).map fun value => (name, value.entry)

namespace ScopeFiles

def empty : ScopeFiles := { manifests := [], values := [], current := none }

/-- `_write_managed_globals_snapshot`; a file that exists is kept. -/
def writeSnapshot (files : ScopeFiles) (manifest : Manifest) : ScopeFiles :=
  { files with
    manifests := files.manifests.insert manifest
    values := (manifest.values.map fun (_, entry) => entry.file).union
      files.values }

def read (files : ScopeFiles) (json : JsonText) (manifest : Manifest)
    (name : Name) : Option (Option SerializedValue) :=
  match manifest.values.lookup name with
  | none => some none
  | some entry => entry.load json files

/-- `_load_managed_globals_snapshot_serialized`; `none` where it raises. -/
def loadSnapshot (files : ScopeFiles) (json : JsonText)
    (allowedNames : List Name) : GlobalsDigest → Option Snapshot
  | none => some fun _ => none
  | some manifest =>
    if manifest ∉ files.manifests then some fun _ => none
    else if allowedNames.all fun name =>
        (files.read json manifest name).isSome then
      some fun name =>
        if name ∈ allowedNames then (files.read json manifest name).join
        else none
    else none

end ScopeFiles

inductive UpdateProgress
  /-- After its first section. -/
  | started
  /-- The snapshot is loaded, its values not yet merged. -/
  | loaded (base : Snapshot)
  /-- The merged snapshot is written. -/
  | written (base : Snapshot)
  /-- The current pointer is written: the digest it returns with. -/
  | pointed (base : Snapshot) (digest : GlobalsDigest) (age : Nat)
  /-- Its last section is over and the workers are warmed up. -/
  | published
  | returned
  | raised

/-- A call of `update_service_globals` or `update_runtime_globals`.  `before`
is not in the source: the updates that had returned when this one started. -/
structure Update where
  request : UpdateRequest
  /-- The digest in its own `ManagedGlobalsState`, for a service. -/
  ownDigest : GlobalsDigest
  progress : UpdateProgress
  before : List UpdateId

structure GlobalsStore where
  kind : ScopeKind
  allowedNames : List Name
  files : ScopeFiles
  /-- The session has its scope directory; the runtime key has its state. -/
  ready : Bool
  /-- `managed_globals_digest` of the session or of the pool. -/
  sessionDigest : GlobalsDigest
  /-- The digest in the `ManagedGlobalsState` that the updates of a runtime key
  share. -/
  runtimeDigest : GlobalsDigest
  updates : OrderedDict UpdateId Update
  /-- Not in the source: the updates whose merge became the current one, in
  order, and how many of them the pool's digest takes in. -/
  commits : List UpdateId
  sessionAge : Nat

inductive UpdateMove
  /-- The first section. -/
  | start (request : UpdateRequest)
  /-- The names are checked and the snapshot is loaded. -/
  | load
  /-- The values are serialised and the merged snapshot is written. -/
  | write
  /-- The current pointer is written. -/
  | point
  /-- The last section. -/
  | publish
  /-- The workers are warmed up, which may raise. -/
  | warmup (raises : Bool)

namespace GlobalsStore

variable (json : JsonText) (store : GlobalsStore)

def initial (kind : ScopeKind) (allowedNames : List Name) : GlobalsStore where
  kind := kind
  allowedNames := allowedNames
  files := .empty
  ready := false
  sessionDigest := none
  runtimeDigest := none
  updates := ∅
  commits := []
  sessionAge := 0

def setUpdate (id : UpdateId) (update : Update) : GlobalsStore :=
  { store with updates := store.updates.set id update }

def advance (id : UpdateId) (update : Update) (progress : UpdateProgress) :
    GlobalsStore :=
  store.setUpdate id { update with progress := progress }

def snapshot (digest : GlobalsDigest) : Snapshot :=
  (store.files.loadSnapshot json store.allowedNames digest).getD fun _ => none

/-- `_new_managed_globals_state`, and where its digest goes. -/
def newManagedGlobalsState : GlobalsStore :=
  let manifest := manifestOf store.allowedNames fun _ => none
  let files := store.files.writeSnapshot manifest
  { store with
    ready := true
    files := { files with current := some manifest }
    sessionDigest := match store.kind with
      | .service => some manifest
      | .runtime => store.sessionDigest
    runtimeDigest := match store.kind with
      | .service => store.runtimeDigest
      | .runtime => some manifest }

/-- `_ensure_service_managed_globals_state_locked` and
`_ensure_runtime_managed_globals_state_locked`. -/
def ensureManagedGlobalsState : GlobalsStore :=
  if store.ready then store else store.newManagedGlobalsState

def stateDigest (update : Update) : GlobalsDigest :=
  match store.kind with
  | .service => update.ownDigest
  | .runtime => store.runtimeDigest

def committedDigest : GlobalsDigest :=
  match store.kind with
  | .service => store.sessionDigest
  | .runtime => store.runtimeDigest

def returnedUpdates : List UpdateId :=
  ((OrderedDict.items store.updates).filter fun (_, update) =>
    match update.progress with
    | .returned => true
    | _ => false).map Prod.fst

def startUpdate (id : UpdateId) (request : UpdateRequest) : GlobalsStore :=
  let store := store.ensureManagedGlobalsState
  store.setUpdate id
    { request := request
      ownDigest := store.sessionDigest
      progress := .started
      before := store.returnedUpdates }

def loadUpdate (id : UpdateId) (update : Update) : GlobalsStore :=
  if update.request.values.entries.isEmpty ||
      update.request.unknown store.allowedNames then
    store.advance id update .raised
  else
    match store.files.loadSnapshot json store.allowedNames
        (store.stateDigest update) with
    | none => store.advance id update .raised
    | some base => store.advance id update (.loaded base)

def recordSnapshot (id : UpdateId) (update : Update) (base : Snapshot)
    (manifest : Manifest) : GlobalsStore :=
  match store.kind with
  | .service =>
    { store with files := store.files.writeSnapshot manifest }.setUpdate id
      { update with
        ownDigest := some manifest
        progress := .written base }
  | .runtime =>
    { { store with files := store.files.writeSnapshot manifest }.advance id
        update (.written base) with
      runtimeDigest := some manifest
      commits := store.commits ++ [id] }

def writeUpdate (id : UpdateId) (update : Update) (base : Snapshot) :
    GlobalsStore :=
  match update.request.changes json with
  | none => store.advance id update .raised
  | some changes =>
    store.recordSnapshot id update base
      (manifestOf store.allowedNames fun name =>
        (changes name).or (base name))

def pointUpdate (id : UpdateId) (update : Update) (base : Snapshot) :
    GlobalsStore :=
  let digest := store.stateDigest update
  { store.advance id update (.pointed base digest store.commits.length) with
    files := { store.files with current := digest } }

def publishUpdate (id : UpdateId) (update : Update) (digest : GlobalsDigest)
    (age : Nat) : GlobalsStore :=
  match store.kind with
  | .service =>
    { store.advance id update .published with
      sessionDigest := digest
      commits := store.commits ++ [id] }
  | .runtime =>
    { store.advance id update .published with
      sessionDigest := digest
      sessionAge := age }

def updateStep (id : UpdateId) (update : Update) (move : UpdateMove) :
    Option GlobalsStore :=
  match move, update.progress with
  | .load, .started => some (store.loadUpdate json id update)
  | .write, .loaded base => some (store.writeUpdate json id update base)
  | .point, .written base => some (store.pointUpdate id update base)
  | .publish, .pointed _ digest age =>
    some (store.publishUpdate id update digest age)
  | .warmup raises, .published =>
    some (store.advance id update (if raises then .raised else .returned))
  | _, _ => none

def step (label : UpdateId × UpdateMove) : Option GlobalsStore :=
  match store.updates.lookup label.1, label.2 with
  | none, .start request => some (store.startUpdate label.1 request)
  | none, _ => none
  | some update, move => store.updateStep json label.1 update move

end GlobalsStore

end PycloudParallel.ManagedGlobals
