import PycloudParallel.FoundationTextLines
import Mathlib.Data.List.Basic

/-!
# The readers of a service stream

A node sends the events of a stream, one JSON object a line or one message of a
socket each.  On the discovery route the caller reads the node's lines, on the
gateway route the gateway reads them and writes lines of its own for the
caller, and on the local route the caller reads the messages of a socket.

Of an event the readers use its name, the data of an item and the `ok` and the
`error` of a done event.
-/

namespace PycloudParallel.ServiceStream

inductive StreamEvent (β : Type*)
  | item (data : β)
  | done (ok : Bool) (error : Option String)
deriving DecidableEq

def StreamEvent.isDone {β : Type*} : StreamEvent β → Bool
  | .item _ => false
  | .done _ _ => true

inductive StreamEnd
  | returned
  | raised (error : String)
deriving DecidableEq

structure Consumed (γ : Type*) where
  yielded : List γ
  ending : StreamEnd

def Consumed.yield {γ : Type*} (value : γ) (rest : Consumed γ) : Consumed γ :=
  { rest with yielded := value :: rest.yielded }

/-- What reading the events of a connection gives: those that came, and the
exception the reader raised behind them. -/
structure Upstream (β : Type*) where
  events : List (StreamEvent β)
  error : Option String

/-- What the readers do with the data of an item: `restore` is
`_restore_stream_transport_carrier`, `attach` adds the locator at the gateway
and encodes the event again, `value` decodes a carrier and resolves a reference
for the caller.  Each may raise. -/
structure ItemCodec (β γ : Type*) where
  restore : β → Except String β
  attach : β → Except String β
  value : β → Except String γ

variable {β γ : Type*}

/-- The generator of `_iter_route_http_stream` over the entries of its lines. -/
def restoreEvents (codec : ItemCodec β γ) (invalid : Bool) :
    List (StreamEvent β) → Upstream β
  | [] => ⟨[], if invalid then some "invalid stream event" else none⟩
  | .done ok error :: rest =>
    { restoreEvents codec invalid rest with
      events := .done ok error :: (restoreEvents codec invalid rest).events }
  | .item data :: rest =>
    match codec.restore data with
    | .error error => ⟨[], some error⟩
    | .ok data =>
      { restoreEvents codec invalid rest with
        events := .item data :: (restoreEvents codec invalid rest).events }

/-- `_iter_route_http_stream` on the bytes of a body: they end where the
connection was cut. -/
def iterRouteHttpStream (codec : ItemCodec β γ)
    (format : ObjectText (StreamEvent β)) (body : List UInt8) : Upstream β :=
  let read := readObjects format (splitLines body)
  restoreEvents codec read.2 read.1

/-- The loop of each iterator of `stream_call` over its transport. -/
def consumeEvents (codec : ItemCodec β γ) (error : Option String) :
    List (StreamEvent β) → Consumed γ
  | [] =>
    match error with
    | none => ⟨[], .returned⟩
    | some error => ⟨[], .raised error⟩
  | .item data :: rest =>
    match codec.value data with
    | .error error => ⟨[], .raised error⟩
    | .ok value => (consumeEvents codec error rest).yield value
  | .done true _ :: _ => ⟨[], .returned⟩
  | .done false error :: _ => ⟨[], .raised (error.getD "service stream failed")⟩

def Upstream.consume (codec : ItemCodec β γ) (upstream : Upstream β) : Consumed γ :=
  consumeEvents codec upstream.error upstream.events

/-- `_iter_stream` of the gateway over its upstream. -/
def forwardEvents (codec : ItemCodec β γ) (error : Option String) :
    List (StreamEvent β) → List (StreamEvent β)
  | [] =>
    match error with
    | none => [.done false (some "service stream ended without final response")]
    | some error => [.done false (some s!"gateway stream failed: {error}")]
  | .item data :: rest =>
    match codec.attach data with
    | .error error => [.done false (some s!"gateway stream failed: {error}")]
    | .ok data => .item data :: forwardEvents codec error rest
  | .done ok error :: _ => [.done ok error]

def Upstream.forward (codec : ItemCodec β γ) (upstream : Upstream β) :
    List (StreamEvent β) :=
  forwardEvents codec upstream.error upstream.events

/-- `stream_call` on the discovery route: the node's events and the position of
the cut. -/
def discoveryStreamCall (codec : ItemCodec β γ)
    (format : ObjectText (StreamEvent β)) (events : List (StreamEvent β))
    (cut : ℕ) : Consumed γ :=
  (iterRouteHttpStream codec format
    ((textLines format events).take cut)).consume codec

def gatewayEvents (codec : ItemCodec β γ)
    (format : ObjectText (StreamEvent β)) (events : List (StreamEvent β))
    (cut : ℕ) : List (StreamEvent β) :=
  (iterRouteHttpStream codec format
    ((textLines format events).take cut)).forward codec

/-- `stream_call` on the gateway route, with a cut on either connection. -/
def gatewayStreamCall (codec : ItemCodec β γ)
    (format : ObjectText (StreamEvent β)) (events : List (StreamEvent β))
    (nodeCut gatewayCut : ℕ) : Consumed γ :=
  discoveryStreamCall codec format (gatewayEvents codec format events nodeCut)
    gatewayCut

def wholeMessages (size : StreamEvent β → ℕ) :
    List (StreamEvent β) → ℕ → List (StreamEvent β)
  | [], _ => []
  | event :: rest, cut =>
    if size event ≤ cut then event :: wholeMessages size rest (cut - size event)
    else []

/-- `_stream_once` on the messages that came: `recv` raises behind them, and
nothing is received after a done event. -/
def streamOnce : List (StreamEvent β) → Upstream β
  | [] => ⟨[], some "EOFError"⟩
  | .item data :: rest =>
    { streamOnce rest with events := .item data :: (streamOnce rest).events }
  | .done ok error :: _ => ⟨[.done ok error], none⟩

/-- What `_read_metadata` gives after a failed stream. -/
inductive RefreshedMetadata (β : Type*)
  | unreadable
  | sameToken
  | replaced (events : List (StreamEvent β)) (cut : ℕ)

def RefreshedMetadata.received (size : StreamEvent β → ℕ) :
    RefreshedMetadata β → List (StreamEvent β)
  | .unreadable | .sameToken => []
  | .replaced events cut => wholeMessages size events cut

/-- `LocalServiceClient.stream_call` on the messages that came: a stream that
raises is followed by the one of a server that replaced the first. -/
def localClientStream (size : StreamEvent β → ℕ) (received : List (StreamEvent β))
    (refreshed : RefreshedMetadata β) : Upstream β :=
  match (streamOnce received).error with
  | none => streamOnce received
  | some _ =>
    match refreshed with
    | .unreadable =>
      { streamOnce received with
        error := some "the local service process is not running" }
    | .sameToken =>
      { streamOnce received with
        error := some "removed stale local service registry entry" }
    | .replaced events cut =>
      let second := streamOnce (wholeMessages size events cut)
      { events := (streamOnce received).events ++ second.events
        error := second.error.map fun _ =>
          "the replacement local service process is not accepting connections" }

/-- `stream_call` on the local route.  An item is pickled as it is, so only
`value` has a part in it. -/
def localStreamCall (codec : ItemCodec β γ) (size : StreamEvent β → ℕ)
    (events : List (StreamEvent β)) (cut : ℕ) (refreshed : RefreshedMetadata β) :
    Consumed γ :=
  (localClientStream size (wholeMessages size events cut) refreshed).consume codec

end PycloudParallel.ServiceStream
