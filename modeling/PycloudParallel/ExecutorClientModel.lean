import PycloudParallel.FoundationOrderedDict
import Mathlib.Data.Finset.Basic

/-!
# The client of the executor host

`ExecutorHostClient`: callers that send requests and wait for their responses
or read a stream, the reader thread that sorts the host's messages into the
tables, and the host at the other end of the pipe.  Every locked section is one
step.

Worker pids and the host's other events go past the five tables and are left
out.  Time enters as the answer whether a deadline has passed.
-/

namespace PycloudParallel.ExecutorClient

abbrev RequestId := Nat

inductive HostMessage
  | response (requestId : RequestId) (ok : Bool) (body : String)
  | streamItem (requestId : RequestId) (size : Nat) (body : String)
deriving DecidableEq

def HostMessage.requestId : HostMessage → RequestId
  | response requestId _ _ => requestId
  | streamItem requestId _ _ => requestId

def HostMessage.isResponse : HostMessage → Bool
  | response _ _ _ => true
  | streamItem _ _ _ => false

/-- An entry of `_responses`: a message of the host, or the error that the
reader leaves for a stream that its consumer does not keep up with. -/
inductive Response
  | host (requestId : RequestId) (ok : Bool) (body : String)
  | bufferLimitExceeded
deriving DecidableEq

def Response.ok : Response → Bool
  | host _ ok _ => ok
  | bufferLimitExceeded => false

structure StreamItem where
  requestId : RequestId
  size : Nat
  body : String
deriving DecidableEq

inductive RequestKind
  | plain
  | stream
deriving DecidableEq

inductive Outcome
  | returned (response : Response)
  /-- `RuntimeError` with the error of the response of a stream. -/
  | failed (response : Response)
  | sendTimedOut
  | timedOut
  | hostDied
  /-- The consumer dropped the iterator. -/
  | abandoned
deriving DecidableEq

inductive RequestProgress
  /-- The id is taken and the message is not in the request queue yet. -/
  | sending
  /-- In `_wait_response`, or in front of the next section of the iterator. -/
  | waiting (started : Bool)
  /-- The iterator is on its way to its `finally` block. -/
  | closing (completed : Bool) (outcome : Outcome)
  | ended (outcome : Outcome)
deriving DecidableEq

/-- A call of `_request` or of `call_service_stream`.  `received` is what its
consumer was handed. -/
structure Request where
  kind : RequestKind
  progress : RequestProgress
  received : List StreamItem
deriving DecidableEq

def Request.sent (request : Request) : Bool :=
  match request.progress with
  | .sending | .ended .sendTimedOut => false
  | _ => true

structure Client where
  responses : OrderedDict RequestId Response
  streamEvents : OrderedDict RequestId (List StreamItem)
  streamBufferBytes : OrderedDict RequestId Nat
  overflowedStreams : Finset RequestId
  expiredRequests : Finset RequestId
  seq : Nat
  closed : Bool
  /-- `_event_q`. -/
  pipe : List HostMessage
  processAlive : Bool
  /-- The requests the host has put its response into the pipe for. -/
  answered : Finset RequestId
  requests : OrderedDict RequestId Request

inductive ClientLabel
  /-- The section that takes the id. -/
  | request (kind : RequestKind)
  /-- `_request_q.put` returns or raises. -/
  | put (id : RequestId) (accepted : Bool)
  /-- A turn of the waiting loop of `_wait_response` or of the iterator. -/
  | wake (id : RequestId) (deadlinePassed : Bool)
  /-- The `finally` block of the iterator. -/
  | finally (id : RequestId)
  /-- The consumer closes the iterator. -/
  | abandon (id : RequestId)
  /-- A turn of `_reader_loop`. -/
  | read
  | emit (message : HostMessage)
  | hostDies
  | close

namespace Client

variable (client : Client)

def initial : Client where
  responses := ∅
  streamEvents := ∅
  streamBufferBytes := ∅
  overflowedStreams := ∅
  expiredRequests := ∅
  seq := 0
  closed := false
  pipe := []
  processAlive := true
  answered := ∅
  requests := ∅

def putResponse (id : RequestId) (response : Response) : Client :=
  { client with responses := client.responses.set id response }

def popResponse (id : RequestId) : Client :=
  { client with responses := client.responses.erase id }

def putEvents (id : RequestId) (items : List StreamItem) : Client :=
  { client with streamEvents := client.streamEvents.set id items }

def popEvents (id : RequestId) : Client :=
  { client with streamEvents := client.streamEvents.erase id }

def putBytes (id : RequestId) (bytes : Nat) : Client :=
  { client with streamBufferBytes := client.streamBufferBytes.set id bytes }

def popBytes (id : RequestId) : Client :=
  { client with streamBufferBytes := client.streamBufferBytes.erase id }

def addOverflowed (id : RequestId) : Client :=
  { client with overflowedStreams := insert id client.overflowedStreams }

def discardOverflowed (id : RequestId) : Client :=
  { client with overflowedStreams := client.overflowedStreams.erase id }

def addExpired (id : RequestId) : Client :=
  { client with expiredRequests := insert id client.expiredRequests }

def discardExpired (id : RequestId) : Client :=
  { client with expiredRequests := client.expiredRequests.erase id }

def setRequest (id : RequestId) (request : Request) : Client :=
  { client with requests := client.requests.set id request }

def setProgress (id : RequestId) (request : Request)
    (progress : RequestProgress) : Client :=
  client.setRequest id { request with progress := progress }

/-- The section of `_send_request`; a closed client raises in front of it. -/
def takeId (kind : RequestKind) : Client :=
  if client.closed then client
  else
    { client.setRequest (client.seq + 1)
        { kind := kind, progress := .sending, received := [] } with
      seq := client.seq + 1 }

def putRequest (id : RequestId) (request : Request) (accepted : Bool) : Client :=
  client.setProgress id request
    (if accepted then .waiting false else .ended .sendTimedOut)

def waitResponse (id : RequestId) (request : Request) (deadlinePassed : Bool) :
    Client :=
  match client.responses.lookup id with
  | some response =>
    (client.popResponse id).setProgress id request (.ended (.returned response))
  | none =>
    if deadlinePassed then
      ((client.popResponse id).addExpired id).setProgress id request
        (.ended .timedOut)
    else if !client.processAlive then
      client.setProgress id request (.ended .hostDied)
    else client

def takeItem (id : RequestId) (request : Request) (item : StreamItem)
    (rest : List StreamItem) : Client :=
  let bytes := (client.streamBufferBytes.lookup id).getD 0 - item.size
  let client := client.putBytes id bytes
  let client :=
    if rest.isEmpty then client.popEvents id else client.putEvents id rest
  client.setRequest id { request with
    progress := .waiting true
    received := request.received ++ [item] }

/-- A turn of the loop of the iterator.  An empty queue does not stand in
`_stream_events`. -/
def nextItem (id : RequestId) (request : Request) (deadlinePassed : Bool) :
    Client :=
  match client.streamEvents.lookup id, client.responses.lookup id with
  | some (item :: rest), _ => client.takeItem id request item rest
  | _, some response =>
    (client.popResponse id).setProgress id request
      (.closing true
        (if response.ok then .returned response else .failed response))
  | _, none =>
    if deadlinePassed then
      (((client.popResponse id).popEvents id).addExpired id).setProgress id
        request (.closing false .timedOut)
    else if !client.processAlive then
      client.setProgress id request (.closing false .hostDied)
    else client.setProgress id request (.waiting true)

/-- The `finally` block of the iterator. -/
def cleanUp (id : RequestId) (request : Request) (completed : Bool)
    (outcome : Outcome) : Client :=
  let client := ((client.popEvents id).popBytes id).popResponse id
  let client := if completed then client else client.addExpired id
  client.setProgress id request (.ended outcome)

def readResponse (id : RequestId) (ok : Bool) (body : String) : Client :=
  if id ∈ client.overflowedStreams then client.discardOverflowed id
  else if id ∈ client.expiredRequests then client.discardExpired id
  else client.putResponse id (.host id ok body)

def bufferedBytes (id : RequestId) : Nat :=
  (client.streamBufferBytes.lookup id).getD 0

def bufferedItems (id : RequestId) : List StreamItem :=
  (client.streamEvents.lookup id).getD []

def bufferFull (id : RequestId) (size : Nat) : Bool :=
  8 * 1024 * 1024 < client.bufferedBytes id + size ||
    128 ≤ (client.bufferedItems id).length

def readItem (id : RequestId) (size : Nat) (body : String) : Client :=
  if id ∈ client.overflowedStreams then client
  else if id ∈ client.expiredRequests then client
  else if client.bufferFull id size then
    (((client.addOverflowed id).popEvents id).popBytes id).putResponse id
      .bufferLimitExceeded
  else
    (client.putBytes id (client.bufferedBytes id + size)).putEvents id
      (client.bufferedItems id ++ [⟨id, size, body⟩])

def readMessage (message : HostMessage) (rest : List HostMessage) : Client :=
  let client := { client with pipe := rest }
  match message with
  | .response id ok body => client.readResponse id ok body
  | .streamItem id size body => client.readItem id size body

/-- The host takes each request from the queue, sends the items of a stream and
then one response. -/
def mayEmit (message : HostMessage) : Bool :=
  client.processAlive && message.requestId ∉ client.answered &&
    match client.requests.lookup message.requestId with
    | none => false
    | some request =>
      request.sent && (message.isResponse || request.kind = .stream)

def emitMessage (message : HostMessage) : Client :=
  { client with
    pipe := client.pipe ++ [message]
    answered :=
      if message.isResponse then insert message.requestId client.answered
      else client.answered }

def wake (id : RequestId) (request : Request) (deadlinePassed : Bool) :
    Option Client :=
  match request.kind, request.progress with
  | .plain, .waiting _ => some (client.waitResponse id request deadlinePassed)
  | .stream, .waiting _ => some (client.nextItem id request deadlinePassed)
  | _, _ => none

/-- An iterator that was never advanced has no `finally` block to run. -/
def abandonIterator (id : RequestId) (request : Request) : Option Client :=
  match request.kind, request.progress with
  | .stream, .waiting started =>
    some (client.setProgress id request
      (if started then .closing false .abandoned else .ended .abandoned))
  | _, _ => none

def step : ClientLabel → Option Client
  | .request kind => some (client.takeId kind)
  | .put id accepted =>
    match client.requests.lookup id with
    | none => none
    | some request =>
      if request.progress = .sending then
        some (client.putRequest id request accepted)
      else none
  | .wake id deadlinePassed =>
    match client.requests.lookup id with
    | none => none
    | some request => client.wake id request deadlinePassed
  | .finally id =>
    match client.requests.lookup id with
    | none => none
    | some request =>
      match request.progress with
      | .closing completed outcome =>
        some (client.cleanUp id request completed outcome)
      | _ => none
  | .abandon id =>
    match client.requests.lookup id with
    | none => none
    | some request => client.abandonIterator id request
  | .read =>
    match client.closed, client.pipe with
    | false, message :: rest => some (client.readMessage message rest)
    | _, _ => none
  | .emit message =>
    if client.mayEmit message then some (client.emitMessage message) else none
  | .hostDies => some { client with processAlive := false }
  | .close => some { client with closed := true }

end Client

end PycloudParallel.ExecutorClient
