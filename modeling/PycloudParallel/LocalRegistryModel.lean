import PycloudParallel.FoundationGuardedRun
import Mathlib.Data.List.Basic

/-!
# The registry of the local services of one name

Servers, clients and tools share a metadata file and socket files.  A move is
one file read, replacement, unlink, bind or connect; the moves of all parties
are interleaved.  What a move finds outside (a ping answered in time, a call
that fails, a deadline that has passed) is in its label.

A server is known by its number: that stands for its token, its address and its
entry in the file.  The socket files are those of `AF_UNIX`.
-/

namespace PycloudParallel.LocalRegistry

inductive StartPhase
  | idle
  | pinging (entry : ℕ)
  | removing
  | unlinking
  | binding
  | writing
  | replacing
  | serving
  | refused
deriving DecidableEq

def StartPhase.isMidway : StartPhase → Bool
  | .pinging _ | .removing | .unlinking | .binding | .writing | .replacing => true
  | .idle | .serving | .refused => false

inductive ClosePhase
  | notCalled
  | listenerClosed
  | ownsMetadata
  | metadataRemoved
  | closed
deriving DecidableEq

structure Server where
  start : StartPhase
  close : ClosePhase
  /-- Its process runs. -/
  alive : Bool
  listening : Bool
  /-- `stop_local_service` was called for it. -/
  stopRequested : Bool
deriving DecidableEq

def Server.created : Server where
  start := .idle
  close := .notCalled
  alive := true
  listening := false
  stopRequested := false

def Server.isLive (server : Server) : Bool :=
  server.start = .serving && server.close = .notCalled && server.alive &&
    !server.stopRequested

inductive Actor
  | idle
  | constructStale (entry : ℕ)
  | constructPing (entry : ℕ)
  | calling (client : ℕ)
  | refreshing (client : ℕ)
  | streaming (client : ℕ)
  | streamRefreshing (client : ℕ)
  | streamingAgain (client : ℕ)
  | cleanupPing (entry : ℕ)
  | stopping (entry : ℕ)
  /-- In `_discard_metadata_if_current`: before the token is read, before the
  metadata is removed, before the socket is unlinked. -/
  | discard (entry : ℕ)
  | discardMetadata (entry : ℕ)
  | discardSocket (entry : ℕ)
deriving DecidableEq

structure System where
  /-- The metadata file. -/
  registry : Option ℕ
  /-- Its `.json.tmp`, which the servers of a name share. -/
  tmp : Option ℕ
  sockets : List ℕ
  servers : List Server
  /-- The metadata of each client. -/
  clients : List ℕ
  actors : List Actor
deriving DecidableEq

namespace System

def initial (servers actors : ℕ) : System where
  registry := none
  tmp := none
  sockets := []
  servers := List.replicate servers Server.created
  clients := []
  actors := List.replicate actors .idle

def isLive (s : System) (entry : ℕ) : Bool :=
  s.servers[entry]?.any Server.isLive

def isAlive (s : System) (entry : ℕ) : Bool :=
  s.servers[entry]?.any Server.alive

def isReachable (s : System) (entry : ℕ) : Bool :=
  entry ∈ s.sockets &&
    s.servers[entry]?.any fun server => server.alive && server.listening

def setServer (s : System) (id : ℕ) (server : Server) : System :=
  { s with servers := s.servers.set id server }

def setActor (s : System) (id : ℕ) (actor : Actor) : System :=
  { s with actors := s.actors.set id actor }

def requestStop (s : System) (entry : ℕ) : System :=
  match s.servers[entry]? with
  | none => s
  | some server => s.setServer entry { server with stopRequested := true }

end System

inductive ServerMove
  | read
  | ping (answered : Bool)
  | remove
  | unlink
  | bind
  | write
  | replace
  | closeListener
  | closeRead
  | closeRemove
  | closeUnlink
  /-- The process ends. -/
  | die

inductive ActorMove
  | constructRead
  | constructStale (pidRunning : Bool)
  | constructPing (answered : Bool)
  | call (client : ℕ)
  | request (answered : Bool)
  | refresh (expired : Bool)
  | stream (client : ℕ)
  | streamOnce (completed : Bool)
  | streamRefresh
  | cleanupRead
  | cleanupPing (pidRunning answered : Bool)
  | stopRead
  | stopEnd (cleanup : Bool)
  | readToken
  | removeMetadata
  | unlinkSocket

inductive Label
  | server (id : ℕ) (move : ServerMove)
  | actor (id : ℕ) (move : ActorMove)

/-- `start`, and `close` beside it. -/
def serverStep (s : System) (id : ℕ) (server : Server) : ServerMove → Option System
  | .read =>
    if server.start = .idle then
      match s.registry with
      | none => some (s.setServer id { server with start := .removing })
      | some entry => some (s.setServer id { server with start := .pinging entry })
    else none
  | .ping answered =>
    match server.start with
    | .pinging entry =>
      if answered then
        if s.isReachable entry then
          some (s.setServer id { server with start := .refused })
        else none
      else some (s.setServer id { server with start := .removing })
    | _ => none
  | .remove =>
    if server.start = .removing then
      some { s.setServer id { server with start := .unlinking } with registry := none }
    else none
  | .unlink =>
    if server.start = .unlinking then
      some { s.setServer id { server with start := .binding } with
        sockets := s.sockets.filter (· ≠ id) }
    else none
  | .bind =>
    if server.start = .binding then
      some { s.setServer id { server with start := .writing, listening := true } with
        sockets := id :: s.sockets }
    else none
  | .write =>
    if server.start = .writing then
      some { s.setServer id { server with start := .replacing } with tmp := some id }
    else none
  | .replace =>
    if server.start = .replacing then
      match s.tmp with
      | none => some (s.setServer id { server with start := .refused })
      | some entry =>
        some { s.setServer id { server with start := .serving } with
          registry := some entry, tmp := none }
    else none
  | .closeListener =>
    if server.close = .notCalled then
      some { s.setServer id { server with
          close := .listenerClosed, listening := false } with
        sockets := s.sockets.filter (· ≠ id) }
    else none
  | .closeRead =>
    if server.close = .listenerClosed then
      if s.registry = some id then
        some (s.setServer id { server with close := .ownsMetadata })
      else some (s.setServer id { server with close := .closed })
    else none
  | .closeRemove =>
    if server.close = .ownsMetadata then
      some { s.setServer id { server with close := .metadataRemoved } with
        registry := none }
    else none
  | .closeUnlink =>
    if server.close = .metadataRemoved then
      some { s.setServer id { server with close := .closed } with
        sockets := s.sockets.filter (· ≠ id) }
    else none
  | .die => some (s.setServer id { server with alive := false, listening := false })

/-- `LocalServiceClient`, `cleanup_stale_local_services`, `stop_local_service` and
`_discard_metadata_if_current`. -/
def actorStep (s : System) (id : ℕ) : Actor → ActorMove → Option System
  | .idle, .constructRead =>
    match s.registry with
    | none => some s
    | some entry => some (s.setActor id (.constructStale entry))
  | .constructStale entry, .constructStale pidRunning =>
    if s.isAlive entry ≤ pidRunning then
      if pidRunning && entry ∈ s.sockets then
        some (s.setActor id (.constructPing entry))
      else some (s.setActor id (.discard entry))
    else none
  | .constructPing entry, .constructPing answered =>
    if answered then
      if s.isReachable entry then
        some { s.setActor id .idle with clients := s.clients ++ [entry] }
      else none
    else some (s.setActor id (.discard entry))
  | .idle, .call client =>
    if client < s.clients.length then some (s.setActor id (.calling client)) else none
  | .calling client, .request answered =>
    if answered then some (s.setActor id .idle)
    else some (s.setActor id (.refreshing client))
  | .refreshing client, .refresh expired =>
    match s.clients[client]?, s.registry with
    | none, _ => none
    | some previous, none => some (s.setActor id (.discard previous))
    | some _, some entry =>
      -- with the same token or another, it is this entry that is discarded
      some { s.setActor id
          (if expired then .discard entry else .calling client) with
        clients := s.clients.set client entry }
  | .idle, .stream client =>
    if client < s.clients.length then some (s.setActor id (.streaming client))
    else none
  | .streaming client, .streamOnce completed =>
    if completed then some (s.setActor id .idle)
    else some (s.setActor id (.streamRefreshing client))
  | .streamRefreshing client, .streamRefresh =>
    match s.clients[client]?, s.registry with
    | none, _ => none
    | some previous, none => some (s.setActor id (.discard previous))
    | some previous, some entry =>
      some { s.setActor id
          (if entry = previous then .discard entry else .streamingAgain client) with
        clients := s.clients.set client entry }
  | .streamingAgain client, .streamOnce completed =>
    if completed then some (s.setActor id .idle)
    else
      match s.clients[client]? with
      | none => none
      | some entry => some (s.setActor id (.discard entry))
  | .idle, .cleanupRead =>
    match s.registry with
    | none => some s
    | some entry => some (s.setActor id (.cleanupPing entry))
  | .cleanupPing entry, .cleanupPing pidRunning answered =>
    if s.isAlive entry ≤ pidRunning ∧ (answered → s.isReachable entry) then
      if pidRunning && answered then some (s.setActor id .idle)
      else some (s.setActor id (.discard entry))
    else none
  | .idle, .stopRead =>
    match s.registry with
    | none => some s
    | some entry => some ((s.requestStop entry).setActor id (.stopping entry))
  | .stopping entry, .stopEnd cleanup =>
    some (s.setActor id (if cleanup then .discard entry else .idle))
  | .discard entry, .readToken =>
    if s.registry = some entry then some (s.setActor id (.discardMetadata entry))
    else some (s.setActor id .idle)
  | .discardMetadata entry, .removeMetadata =>
    some { s.setActor id (.discardSocket entry) with registry := none }
  | .discardSocket entry, .unlinkSocket =>
    some { s.setActor id .idle with sockets := s.sockets.filter (· ≠ entry) }
  | _, _ => none

def step (s : System) : Label → Option System
  | .server id move =>
    match s.servers[id]? with
    | none => none
    | some server => if server.alive then serverStep s id server move else none
  | .actor id move =>
    match s.actors[id]? with
    | none => none
    | some actor => actorStep s id actor move

def Actor.hasCompared : Actor → Bool
  | .discardMetadata _ => true
  | _ => false

namespace System

/-- No other party is between a look at the registry and what it does on it, and
the temporary file is the server's own. -/
def hasTurn (s : System) (id : ℕ) : Bool :=
  s.tmp = some id &&
    decide (∀ other < s.servers.length, other ≠ id →
      s.servers[other]?.all (fun server => !server.start.isMidway) = true) &&
    s.servers.all (fun server => server.close ≠ .ownsMetadata) &&
    s.actors.all fun actor => !actor.hasCompared

/-- A live server answers a ping in time, and a call or a stream is given up for
it only when it is not live. -/
def answersInTime (s : System) : Actor → ActorMove → Bool
  | .constructPing entry, .constructPing false => !s.isLive entry
  | .cleanupPing entry, .cleanupPing _ false => !s.isLive entry
  | .refreshing _, .refresh true => s.registry.all fun entry => !s.isLive entry
  | .streamRefreshing client, .streamRefresh =>
    s.registry.all fun entry => s.clients[client]? ≠ some entry || !s.isLive entry
  | .streamingAgain client, .streamOnce false =>
    s.clients[client]?.all fun entry => !s.isLive entry
  | _, _ => true

def undisturbed (s : System) : Label → Bool
  | .server id (.ping false) =>
    s.servers[id]?.all fun server =>
      match server.start with
      | .pinging entry => !s.isLive entry
      | _ => true
  | .server id .replace => s.hasTurn id
  | .server _ _ => true
  | .actor id move => s.actors[id]?.all fun actor => s.answersInTime actor move

structure Truthful (s : System) : Prop where
  one : ∀ id other, s.isLive id = true → s.isLive other = true → id = other
  kept : ∀ id, s.isLive id = true → s.registry = some id ∧ id ∈ s.sockets
  connects : ∀ id actor, s.isLive id = true → s.actors[actor]? = some .idle →
    ∃ t, runLabels step s [.actor actor .constructRead,
      .actor actor (.constructStale true), .actor actor (.constructPing true)] = some t ∧
      t.clients = s.clients ++ [id]

end System

end PycloudParallel.LocalRegistry
