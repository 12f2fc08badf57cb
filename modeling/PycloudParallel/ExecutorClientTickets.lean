import PycloudParallel.FoundationGuardedRun
import PycloudParallel.ExecutorClientModel
import Mathlib.Data.Finset.Insert

/-!
# One request of the client

The tables of the client are keyed by request id and no section touches the
entries of two requests.  The ticket of a request is all that the client, the
pipe and the host hold of it; what is proved of a client is proved ticket by
ticket.
-/

namespace PycloudParallel.ExecutorClient

open OrderedDict

structure Ticket where
  request : Option Request
  response : Option Response
  events : Option (List StreamItem)
  bytes : Option Nat
  overflowed : Prop
  expired : Prop
  /-- Its messages in the pipe. -/
  inFlight : List HostMessage
  answered : Prop

namespace Client

variable (client : Client)

def ticket (id : RequestId) : Ticket where
  request := client.requests.lookup id
  response := client.responses.lookup id
  events := client.streamEvents.lookup id
  bytes := client.streamBufferBytes.lookup id
  overflowed := id ∈ client.overflowedStreams
  expired := id ∈ client.expiredRequests
  inFlight := client.pipe.filter fun message => message.requestId = id
  answered := id ∈ client.answered

variable {client} {id other : RequestId}

@[simp] theorem ticket_putResponse (response : Response) :
    (client.putResponse id response).ticket other =
      if other = id then { client.ticket other with response := some response }
      else client.ticket other := by
  by_cases heq : other = id <;>
    simp [ticket, putResponse, lookup_set, heq]

@[simp] theorem ticket_popResponse :
    (client.popResponse id).ticket other =
      if other = id then { client.ticket other with response := none }
      else client.ticket other := by
  by_cases heq : other = id <;>
    simp [ticket, popResponse, lookup_erase, heq]

@[simp] theorem ticket_putEvents (items : List StreamItem) :
    (client.putEvents id items).ticket other =
      if other = id then { client.ticket other with events := some items }
      else client.ticket other := by
  by_cases heq : other = id <;>
    simp [ticket, putEvents, lookup_set, heq]

@[simp] theorem ticket_popEvents :
    (client.popEvents id).ticket other =
      if other = id then { client.ticket other with events := none }
      else client.ticket other := by
  by_cases heq : other = id <;>
    simp [ticket, popEvents, lookup_erase, heq]

@[simp] theorem ticket_putBytes (bytes : ℕ) :
    (client.putBytes id bytes).ticket other =
      if other = id then { client.ticket other with bytes := some bytes }
      else client.ticket other := by
  by_cases heq : other = id <;>
    simp [ticket, putBytes, lookup_set, heq]

@[simp] theorem ticket_popBytes :
    (client.popBytes id).ticket other =
      if other = id then { client.ticket other with bytes := none }
      else client.ticket other := by
  by_cases heq : other = id <;>
    simp [ticket, popBytes, lookup_erase, heq]

@[simp] theorem ticket_addOverflowed :
    (client.addOverflowed id).ticket other =
      if other = id then { client.ticket other with overflowed := True }
      else client.ticket other := by
  by_cases heq : other = id <;> simp [ticket, addOverflowed, heq]

@[simp] theorem ticket_discardOverflowed :
    (client.discardOverflowed id).ticket other =
      if other = id then { client.ticket other with overflowed := False }
      else client.ticket other := by
  by_cases heq : other = id <;> simp [ticket, discardOverflowed, heq]

@[simp] theorem ticket_addExpired :
    (client.addExpired id).ticket other =
      if other = id then { client.ticket other with expired := True }
      else client.ticket other := by
  by_cases heq : other = id <;> simp [ticket, addExpired, heq]

@[simp] theorem ticket_discardExpired :
    (client.discardExpired id).ticket other =
      if other = id then { client.ticket other with expired := False }
      else client.ticket other := by
  by_cases heq : other = id <;> simp [ticket, discardExpired, heq]

@[simp] theorem ticket_setRequest (request : Request) :
    (client.setRequest id request).ticket other =
      if other = id then { client.ticket other with request := some request }
      else client.ticket other := by
  by_cases heq : other = id <;>
    simp [ticket, setRequest, lookup_set, heq]

theorem ticket_dropHead {message : HostMessage} {rest : List HostMessage}
    (hpipe : client.pipe = message :: rest) :
    ({ client with pipe := rest } : Client).ticket other =
      if other = message.requestId then
        { client.ticket other with
          inFlight := (client.ticket other).inFlight.tail }
      else client.ticket other := by
  by_cases heq : other = message.requestId
  · simp [ticket, hpipe, heq]
  · have hne : message.requestId ≠ other := fun h => heq h.symm
    simp [ticket, hpipe, heq, hne]

theorem inFlight_of_head {message : HostMessage} {rest : List HostMessage}
    (hpipe : client.pipe = message :: rest) :
    (client.ticket message.requestId).inFlight =
      message :: rest.filter fun m => m.requestId = message.requestId := by
  simp [ticket, hpipe]

theorem ticket_emitMessage (message : HostMessage) :
    (client.emitMessage message).ticket other =
      if other = message.requestId then
        { client.ticket other with
          inFlight := (client.ticket other).inFlight ++ [message]
          answered := message.isResponse = true ∨
            (client.ticket other).answered }
      else client.ticket other := by
  by_cases heq : other = message.requestId
  · cases hresponse : message.isResponse <;>
      simp [ticket, emitMessage, heq, hresponse, List.filter_append]
  · have hne : message.requestId ≠ other := fun h => heq h.symm
    cases hresponse : message.isResponse <;>
      simp [ticket, emitMessage, heq, hne, hresponse, List.filter_append]

end Client

end PycloudParallel.ExecutorClient
