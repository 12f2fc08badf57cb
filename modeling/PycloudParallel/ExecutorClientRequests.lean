import PycloudParallel.ExecutorClientCleanUp

/-!
# Requests get their own answer

Whatever the host and the callers do, nothing is handed out under another id:
that needs no condition on the run.  What a request ends with is justified by
the state its caller saw, and in a tidy run nothing of it stays behind.
-/

namespace PycloudParallel.ExecutorClient

open OrderedDict

def Response.IsFor (id : RequestId) : Response → Prop
  | .host requestId _ _ => requestId = id
  | .bufferLimitExceeded => True

def Outcome.IsFor (id : RequestId) : Outcome → Prop
  | .returned response | .failed response => response.IsFor id
  | .sendTimedOut | .timedOut | .hostDied | .abandoned => True

def RequestProgress.outcome : RequestProgress → Option Outcome
  | .sending | .waiting _ => none
  | .closing _ outcome | .ended outcome => some outcome

structure Request.IsFor (id : RequestId) (request : Request) : Prop where
  outcome : ∀ outcome, request.progress.outcome = some outcome →
    outcome.IsFor id
  received : ∀ item ∈ request.received, item.requestId = id

namespace Ticket

structure Addressed (id : RequestId) (ticket : Ticket) : Prop where
  response : ∀ response, ticket.response = some response → response.IsFor id
  events : ∀ items, ticket.events = some items →
    ∀ item ∈ items, item.requestId = id
  request : ∀ request, ticket.request = some request → request.IsFor id

variable {id : RequestId} {ticket : Ticket}

variable (haddressed : ticket.Addressed id)

include haddressed

theorem Addressed.setRequest {request : Request} (hrequest : request.IsFor id) :
    ({ ticket with request := some request } : Ticket).Addressed id := by
  constructor
  · exact haddressed.response
  · exact haddressed.events
  · intro found hfound
    cases hfound
    exact hrequest

theorem Addressed.popResponse :
    ({ ticket with response := none } : Ticket).Addressed id := by
  constructor
  · intro response hresponse
    cases hresponse
  · exact haddressed.events
  · exact haddressed.request

theorem Addressed.popEvents :
    ({ ticket with events := none } : Ticket).Addressed id := by
  constructor
  · exact haddressed.response
  · intro items hitems
    cases hitems
  · exact haddressed.request

theorem Addressed.putResponse {response : Response}
    (hresponse : response.IsFor id) :
    ({ ticket with response := some response } : Ticket).Addressed id := by
  constructor
  · intro found hfound
    cases hfound
    exact hresponse
  · exact haddressed.events
  · exact haddressed.request

theorem Addressed.putEvents {items : List StreamItem}
    (hitems : ∀ item ∈ items, item.requestId = id) :
    ({ ticket with events := some items } : Ticket).Addressed id := by
  constructor
  · exact haddressed.response
  · intro found hfound
    cases hfound
    exact hitems
  · exact haddressed.request

end Ticket

namespace Client

variable {client : Client} {id : RequestId}

def Addressed (client : Client) : Prop :=
  ∀ id, (client.ticket id).Addressed id

theorem Addressed.initial : Client.initial.Addressed := by
  intro id
  constructor <;> intro _ hsome <;> cases hsome

variable (haddressed : client.Addressed)

include haddressed

theorem Addressed.setRequest {request : Request} (hrequest : request.IsFor id) :
    (client.setRequest id request).Addressed := by
  intro other
  rw [ticket_setRequest]
  split
  · next heq =>
    rw [heq]
    exact (haddressed id).setRequest hrequest
  · exact haddressed other

theorem Addressed.setProgress {request : Request} {progress : RequestProgress}
    (hreceived : ∀ item ∈ request.received, item.requestId = id)
    (houtcome : ∀ outcome, progress.outcome = some outcome → outcome.IsFor id) :
    (client.setProgress id request progress).Addressed :=
  haddressed.setRequest ⟨houtcome, hreceived⟩

theorem Addressed.popResponse : (client.popResponse id).Addressed := by
  intro other
  rw [ticket_popResponse]
  split
  · exact (haddressed other).popResponse
  · exact haddressed other

theorem Addressed.popEvents : (client.popEvents id).Addressed := by
  intro other
  rw [ticket_popEvents]
  split
  · exact (haddressed other).popEvents
  · exact haddressed other

theorem Addressed.putResponse {response : Response}
    (hresponse : response.IsFor id) :
    (client.putResponse id response).Addressed := by
  intro other
  rw [ticket_putResponse]
  split
  · next heq =>
    rw [heq]
    exact (haddressed id).putResponse hresponse
  · exact haddressed other

theorem Addressed.putEvents {items : List StreamItem}
    (hitems : ∀ item ∈ items, item.requestId = id) :
    (client.putEvents id items).Addressed := by
  intro other
  rw [ticket_putEvents]
  split
  · next heq =>
    rw [heq]
    exact (haddressed id).putEvents hitems
  · exact haddressed other

theorem Addressed.of_tables {t : Client}
    (hresponses : t.responses = client.responses)
    (hevents : t.streamEvents = client.streamEvents)
    (hrequests : t.requests = client.requests) : t.Addressed := by
  intro id
  obtain ⟨hresponse, hitems, hrequest⟩ := haddressed id
  constructor
  · rw [ticket, hresponses]
    exact hresponse
  · rw [ticket, hevents]
    exact hitems
  · rw [ticket, hrequests]
    exact hrequest

theorem Addressed.waitResponse {request : Request}
    (hreceived : ∀ item ∈ request.received, item.requestId = id)
    (deadlinePassed : Bool) :
    (client.waitResponse id request deadlinePassed).Addressed := by
  unfold Client.waitResponse
  split
  · next response hresponse =>
    apply haddressed.popResponse.setProgress hreceived
    intro outcome houtcome
    cases houtcome
    exact (haddressed id).response response hresponse
  · split
    · have hexpired : ((client.popResponse id).addExpired id).Addressed := by
        apply haddressed.popResponse.of_tables <;> rfl
      apply hexpired.setProgress hreceived
      intro outcome houtcome
      cases houtcome
      trivial
    · split
      · apply haddressed.setProgress hreceived
        intro outcome houtcome
        cases houtcome
        trivial
      · exact haddressed

theorem Addressed.takeItem {request : Request} {item : StreamItem}
    {rest : List StreamItem}
    (hreceived : ∀ item ∈ request.received, item.requestId = id)
    (hevents : client.streamEvents.lookup id = some (item :: rest)) :
    (client.takeItem id request item rest).Addressed := by
  have hown := (haddressed id).events (item :: rest) hevents
  have hput : (client.putBytes id
      ((client.streamBufferBytes.lookup id).getD 0 - item.size)).Addressed := by
    apply haddressed.of_tables <;> rfl
  have hreceived' : ∀ other ∈ request.received ++ [item],
      other.requestId = id := by
    intro other hother
    rw [List.mem_append, List.mem_singleton] at hother
    cases hother with
    | inl hold => exact hreceived other hold
    | inr heq =>
      rw [heq]
      exact hown item List.mem_cons_self
  have hrequest : Request.IsFor id
      { request with
        progress := .waiting true
        received := request.received ++ [item] } := by
    constructor
    · intro outcome houtcome
      cases houtcome
    · exact hreceived'
  unfold Client.takeItem
  split
  · exact hput.popEvents.setRequest hrequest
  · apply Addressed.setRequest
    · apply hput.putEvents
      intro other hother
      exact hown other (List.mem_cons_of_mem item hother)
    · exact hrequest

theorem Addressed.nextItem {request : Request}
    (hreceived : ∀ item ∈ request.received, item.requestId = id)
    (deadlinePassed : Bool) :
    (client.nextItem id request deadlinePassed).Addressed := by
  unfold Client.nextItem
  split
  · next item rest hevents => exact haddressed.takeItem hreceived hevents
  · next response hresponse _ =>
    apply haddressed.popResponse.setProgress hreceived
    intro outcome houtcome
    have hown := (haddressed id).response response hresponse
    cases houtcome
    split <;> exact hown
  · split
    · have hexpired : (((client.popResponse id).popEvents id).addExpired
          id).Addressed := by
        apply haddressed.popResponse.popEvents.of_tables <;> rfl
      apply hexpired.setProgress hreceived
      intro outcome houtcome
      cases houtcome
      trivial
    · split
      · apply haddressed.setProgress hreceived
        intro outcome houtcome
        cases houtcome
        trivial
      · apply haddressed.setProgress hreceived
        intro outcome houtcome
        cases houtcome

theorem Addressed.cleanUp {request : Request} {completed : Bool}
    {outcome : Outcome} (hrequest : request.IsFor id)
    (hprogress : request.progress = .closing completed outcome) :
    (client.cleanUp id request completed outcome).Addressed := by
  have hbytes : ((client.popEvents id).popBytes id).Addressed := by
    apply haddressed.popEvents.of_tables <;> rfl
  have htold : ∀ told, (RequestProgress.ended outcome).outcome = some told →
      told.IsFor id := by
    intro told htold
    apply hrequest.outcome
    rw [hprogress]
    exact htold
  unfold Client.cleanUp
  split
  · exact hbytes.popResponse.setProgress hrequest.received htold
  · apply Addressed.setProgress
    · apply hbytes.popResponse.of_tables <;> rfl
    · exact hrequest.received
    · exact htold

theorem Addressed.readMessage (message : HostMessage) (rest : List HostMessage)
    : (client.readMessage message rest).Addressed := by
  have hpopped : ({ client with pipe := rest } : Client).Addressed := by
    apply haddressed.of_tables <;> rfl
  generalize hclient : ({ client with pipe := rest } : Client) = popped at hpopped
  unfold Client.readMessage
  rw [hclient]
  cases message with
  | response id ok body =>
    show (popped.readResponse id ok body).Addressed
    unfold Client.readResponse
    split
    · apply hpopped.of_tables <;> rfl
    · split
      · apply hpopped.of_tables <;> rfl
      · apply hpopped.putResponse
        rfl
  | streamItem id size body =>
    show (popped.readItem id size body).Addressed
    have hbuffered : ∀ item ∈ popped.bufferedItems id,
        item.requestId = id := by
      intro item hitem
      unfold bufferedItems at hitem
      cases hevents : popped.streamEvents.lookup id with
      | none =>
        rw [hevents] at hitem
        cases hitem
      | some items =>
        rw [hevents] at hitem
        exact (hpopped id).events items hevents item hitem
    unfold Client.readItem
    split
    · exact hpopped
    · split
      · exact hpopped
      · split
        · apply Addressed.putResponse
          · have hmarked : (popped.addOverflowed id).Addressed := by
              apply hpopped.of_tables <;> rfl
            apply hmarked.popEvents.of_tables <;> rfl
          · trivial
        · apply Addressed.putEvents
          · apply hpopped.of_tables <;> rfl
          · intro item hitem
            rw [List.mem_append, List.mem_singleton] at hitem
            cases hitem with
            | inl hold => exact hbuffered item hold
            | inr hnew => rw [hnew]

theorem Addressed.step {t : Client} {label : ClientLabel}
    (hstep : client.step label = some t) : t.Addressed := by
  have hrequestOf : ∀ {id request}, client.requests.lookup id = some request →
      request.IsFor id := fun {id request} hrequest =>
    (haddressed id).request request hrequest
  cases label with
  | request kind =>
    cases hstep
    unfold Client.takeId
    split
    · exact haddressed
    · have hset : (client.setRequest (client.seq + 1)
          { kind := kind, progress := .sending, received := [] }).Addressed := by
        apply haddressed.setRequest
        constructor
        · intro outcome houtcome
          cases houtcome
        · intro item hitem
          cases hitem
      apply hset.of_tables <;> rfl
  | put id accepted =>
    simp only [Client.step] at hstep
    split at hstep
    · cases hstep
    · next request hrequest =>
      split at hstep
      · cases hstep
        apply haddressed.setProgress (hrequestOf hrequest).received
        intro outcome houtcome
        cases accepted with
        | true => cases houtcome
        | false =>
          cases houtcome
          trivial
      · cases hstep
  | wake id deadlinePassed =>
    simp only [Client.step] at hstep
    split at hstep
    · cases hstep
    · next request hrequest =>
      have hreceived := (hrequestOf hrequest).received
      unfold Client.wake at hstep
      split at hstep
      · cases hstep
        exact haddressed.waitResponse hreceived deadlinePassed
      · cases hstep
        exact haddressed.nextItem hreceived deadlinePassed
      · cases hstep
  | «finally» id =>
    simp only [Client.step] at hstep
    split at hstep
    · cases hstep
    · next request hrequest =>
      split at hstep
      · next completed outcome hprogress =>
        cases hstep
        exact haddressed.cleanUp (hrequestOf hrequest) hprogress
      · cases hstep
  | abandon id =>
    simp only [Client.step] at hstep
    split at hstep
    · cases hstep
    · next request hrequest =>
      unfold Client.abandonIterator at hstep
      split at hstep
      · next started _ _ =>
        cases hstep
        apply haddressed.setProgress (hrequestOf hrequest).received
        intro outcome houtcome
        cases started with
        | true | false =>
          cases houtcome
          trivial
      · cases hstep
  | read =>
    simp only [Client.step] at hstep
    split at hstep
    · cases hstep
      exact haddressed.readMessage _ _
    · cases hstep
  | emit message =>
    simp only [Client.step] at hstep
    split at hstep
    · cases hstep
      apply haddressed.of_tables <;> rfl
    · cases hstep
  | hostDies | close =>
    cases hstep
    apply haddressed.of_tables <;> rfl

end Client


namespace Client

variable {client t : Client} {label : ClientLabel} {id : RequestId}

def Warrants (client : Client) (label : ClientLabel) (id : RequestId)
    (request : Request) : Outcome → Prop
  | .returned response => client.responses.lookup id = some response
  | .failed response =>
    request.kind = .stream ∧ client.responses.lookup id = some response ∧
      response.ok = false
  | .sendTimedOut => label = .put id false
  | .timedOut => label = .wake id true ∧ client.responses.lookup id = none
  | .hostDied =>
    client.processAlive = false ∧ client.responses.lookup id = none
  | .abandoned => request.kind = .stream ∧ label = .abandon id

structure Decides (client : Client) (label : ClientLabel) (t : Client) :
    Prop where
  warranted : ∀ id request request' outcome,
    client.requests.lookup id = some request →
      t.requests.lookup id = some request' →
      request.progress.outcome = none →
      request'.progress.outcome = some outcome →
      client.Warrants label id request outcome
  final : ∀ id request outcome, client.requests.lookup id = some request →
    request.progress.outcome = some outcome →
      ∃ request', t.requests.lookup id = some request' ∧
        request'.progress.outcome = some outcome

theorem Decides.of_same (hsame : t.requests = client.requests) :
    client.Decides label t := by
  constructor
  · intro id request request' outcome hrequest hrequest' hopen hdecided
    rw [hsame, hrequest] at hrequest'
    cases hrequest'
    rw [hopen] at hdecided
    cases hdecided
  · intro id request outcome hrequest hdecided
    rw [hsame]
    exact ⟨request, hrequest, hdecided⟩

theorem Decides.of_open {caller new : Request}
    (hset : t.requests = client.requests.set id new)
    (hcaller : client.requests.lookup id = some caller)
    (hopen : caller.progress.outcome = none)
    (htold : ∀ outcome, new.progress.outcome = some outcome →
      client.Warrants label id caller outcome) : client.Decides label t := by
  constructor
  · intro other request request' outcome hrequest hrequest' hnone hdecided
    rw [hset, lookup_set] at hrequest'
    split at hrequest'
    · next heq =>
      rw [heq, hcaller] at hrequest
      cases hrequest
      cases hrequest'
      rw [heq]
      exact htold outcome hdecided
    · rw [hrequest] at hrequest'
      cases hrequest'
      rw [hnone] at hdecided
      cases hdecided
  · intro other request outcome hrequest hdecided
    have hne : other ≠ id := by
      rintro rfl
      rw [hcaller] at hrequest
      cases hrequest
      rw [hopen] at hdecided
      cases hdecided
    rw [hset, lookup_set_ne _ _ hne]
    exact ⟨request, hrequest, hdecided⟩

theorem Decides.of_told {caller new : Request}
    (hset : t.requests = client.requests.set id new)
    (hcaller : client.requests.lookup id = some caller)
    (htold : new.progress.outcome = caller.progress.outcome) :
    client.Decides label t := by
  constructor
  · intro other request request' outcome hrequest hrequest' hnone hdecided
    rw [hset, lookup_set] at hrequest'
    split at hrequest'
    · next heq =>
      rw [heq, hcaller] at hrequest
      cases hrequest
      cases hrequest'
      rw [htold, hnone] at hdecided
      cases hdecided
    · rw [hrequest] at hrequest'
      cases hrequest'
      rw [hnone] at hdecided
      cases hdecided
  · intro other request outcome hrequest hdecided
    rw [hset, lookup_set]
    split
    · next heq =>
      rw [heq, hcaller] at hrequest
      cases hrequest
      exact ⟨new, rfl, htold.trans hdecided⟩
    · exact ⟨request, hrequest, hdecided⟩

theorem decides_takeId (hsound : client.Sound) (kind : RequestKind) :
    client.Decides label (client.takeId kind) := by
  unfold Client.takeId
  split
  · exact .of_same rfl
  · have hfree := hsound.fresh _ (Nat.lt_succ_self client.seq)
    have hne : ∀ {other request},
        client.requests.lookup other = some request →
          other ≠ client.seq + 1 := by
      rintro other request hrequest rfl
      rw [hfree] at hrequest
      cases hrequest
    constructor
    · intro other request request' outcome hrequest hrequest' hopen hdecided
      have hkept : client.requests.lookup other = some request' := by
        rw [← hrequest']
        exact (lookup_set_ne _ _ (hne hrequest)).symm
      rw [hrequest] at hkept
      cases hkept
      rw [hopen] at hdecided
      cases hdecided
    · intro other request outcome hrequest hdecided
      refine ⟨request, ?_, hdecided⟩
      rw [← hrequest]
      exact lookup_set_ne _ _ (hne hrequest)

theorem decides_waitResponse {request : Request} {deadlinePassed : Bool}
    (hrequest : client.requests.lookup id = some request)
    (hopen : request.progress.outcome = none) :
    client.Decides (.wake id deadlinePassed)
      (client.waitResponse id request deadlinePassed) := by
  unfold Client.waitResponse
  split
  · next response hresponse =>
    apply Decides.of_open rfl hrequest hopen
    intro outcome htold
    cases htold
    exact hresponse
  · next hnone =>
    split
    · next hdeadline =>
      apply Decides.of_open rfl hrequest hopen
      intro outcome htold
      cases htold
      exact ⟨by rw [hdeadline], hnone⟩
    · split
      · next hdead =>
        apply Decides.of_open rfl hrequest hopen
        intro outcome htold
        cases htold
        exact ⟨by simpa using hdead, hnone⟩
      · exact .of_same rfl

theorem requests_takeItem {request : Request} {item : StreamItem}
    {rest : List StreamItem} :
    (client.takeItem id request item rest).requests =
      client.requests.set id { request with
        progress := .waiting true
        received := request.received ++ [item] } := by
  unfold Client.takeItem
  split <;> rfl

theorem decides_nextItem {request : Request} {deadlinePassed : Bool}
    (hrequest : client.requests.lookup id = some request)
    (hkind : request.kind = .stream) (hopen : request.progress.outcome = none) :
    client.Decides (.wake id deadlinePassed)
      (client.nextItem id request deadlinePassed) := by
  unfold Client.nextItem
  split
  · apply Decides.of_open requests_takeItem hrequest hopen
    intro outcome htold
    cases htold
  · next response hresponse _ =>
    apply Decides.of_open rfl hrequest hopen
    intro outcome htold
    simp only [RequestProgress.outcome, Option.some.injEq] at htold
    split at htold
    · rw [← htold]
      exact hresponse
    · next hfailed =>
      rw [← htold]
      exact ⟨hkind, hresponse, by simpa using hfailed⟩
  · next hnone _ =>
    split
    · next hdeadline =>
      apply Decides.of_open rfl hrequest hopen
      intro outcome htold
      cases htold
      exact ⟨by rw [hdeadline], hnone⟩
    · split
      · next hdead =>
        apply Decides.of_open rfl hrequest hopen
        intro outcome htold
        cases htold
        exact ⟨by simpa using hdead, hnone⟩
      · apply Decides.of_open rfl hrequest hopen
        intro outcome htold
        cases htold

theorem requests_cleanUp {request : Request} {completed : Bool}
    {outcome : Outcome} :
    (client.cleanUp id request completed outcome).requests =
      client.requests.set id { request with progress := .ended outcome } := by
  cases completed <;> rfl

theorem requests_readMessage (message : HostMessage) (rest : List HostMessage) :
    (client.readMessage message rest).requests = client.requests := by
  cases message with
  | response id ok body =>
    unfold Client.readMessage Client.readResponse
    dsimp only
    split
    · rfl
    · split <;> rfl
  | streamItem id size body =>
    unfold Client.readMessage Client.readItem
    dsimp only
    split
    · rfl
    · split
      · rfl
      · split <;> rfl

theorem decides_step (hsound : client.Sound)
    (hstep : client.step label = some t) : client.Decides label t := by
  cases label with
  | request kind =>
    cases hstep
    exact decides_takeId hsound kind
  | put id accepted =>
    simp only [Client.step] at hstep
    split at hstep
    · cases hstep
    · next request hrequest =>
      split at hstep
      · next hprogress =>
        cases hstep
        apply Decides.of_open rfl hrequest (by rw [hprogress]; rfl)
        intro outcome htold
        cases accepted with
        | true => cases htold
        | false =>
          cases htold
          rfl
      · cases hstep
  | wake id deadlinePassed =>
    simp only [Client.step] at hstep
    split at hstep
    · cases hstep
    · next request hrequest =>
      unfold Client.wake at hstep
      split at hstep
      · next hprogress =>
        cases hstep
        exact decides_waitResponse hrequest (by rw [hprogress]; rfl)
      · next hkind hprogress =>
        cases hstep
        exact decides_nextItem hrequest hkind (by rw [hprogress]; rfl)
      · cases hstep
  | «finally» id =>
    simp only [Client.step] at hstep
    split at hstep
    · cases hstep
    · next request hrequest =>
      split at hstep
      · next completed outcome hprogress =>
        cases hstep
        apply Decides.of_told requests_cleanUp hrequest
        rw [hprogress]
        rfl
      · cases hstep
  | abandon id =>
    simp only [Client.step] at hstep
    split at hstep
    · cases hstep
    · next request hrequest =>
      unfold Client.abandonIterator at hstep
      split at hstep
      · next started hkind hprogress =>
        cases hstep
        apply Decides.of_open rfl hrequest (by rw [hprogress]; rfl)
        intro outcome htold
        cases started with
        | true | false =>
          cases htold
          exact ⟨hkind, rfl⟩
      · cases hstep
  | read =>
    simp only [Client.step] at hstep
    split at hstep
    · cases hstep
      exact .of_same (requests_readMessage _ _)
    · cases hstep
  | emit message =>
    simp only [Client.step] at hstep
    split at hstep
    · cases hstep
      exact .of_same rfl
    · cases hstep
  | hostDies | close =>
    cases hstep
    exact .of_same rfl

theorem wake_ends {request : Request} {started : Bool}
    (hrequest : client.requests.lookup id = some request)
    (hkind : request.kind = .plain)
    (hprogress : request.progress = .waiting started) :
    ∃ next request' outcome, client.step (.wake id true) = some next ∧
      next.requests.lookup id = some request' ∧
      request'.progress = .ended outcome := by
  have hstep : client.step (.wake id true) =
      some (client.waitResponse id request true) := by
    simp [Client.step, Client.wake, hrequest, hkind, hprogress]
  exists client.waitResponse id request true
  cases hresponse : client.responses.lookup id with
  | some response =>
    refine ⟨{ request with progress := .ended (.returned response) }, _,
      hstep, ?_, rfl⟩
    unfold waitResponse
    rw [hresponse]
    exact lookup_set_self _ _ _
  | none =>
    refine ⟨{ request with progress := .ended .timedOut }, _, hstep, ?_, rfl⟩
    unfold waitResponse
    rw [hresponse]
    exact lookup_set_self _ _ _

structure NoEntry (client : Client) (id : RequestId) : Prop where
  responses : id ∉ client.responses
  streamEvents : id ∉ client.streamEvents
  streamBufferBytes : id ∉ client.streamBufferBytes
  overflowedStreams : id ∉ client.overflowedStreams
  expiredRequests : id ∉ client.expiredRequests

/-- The host does not put anything into the pipe for it any more, and the
reader is through with what it put there. -/
def MessagesArrived (client : Client) (id : RequestId) (request : Request) :
    Prop :=
  (∀ message ∈ client.pipe, message.requestId ≠ id) ∧
    (request.sent = true → client.processAlive = true → id ∈ client.answered)

end Client

namespace Ticket

variable {ticket : Ticket} {alive : Bool} {id : RequestId} {request : Request}

theorem Fits.over {outcome : Outcome} (hfits : ticket.Fits alive id request)
    (hprogress : request.progress = .ended outcome) :
    ticket.Fresh ∨ request.sent = true ∧ ticket.Over alive := by
  unfold Fits at hfits
  split at hfits
  · next hsending =>
    rw [hsending] at hprogress
    cases hprogress
  · exact .inl hfits
  · next hwaiting =>
    rw [hwaiting] at hprogress
    cases hprogress
  · next hwaiting =>
    rw [hwaiting] at hprogress
    cases hprogress
  · exact hfits.elim
  · next hclosing =>
    rw [hclosing] at hprogress
    cases hprogress
  · next hclosing =>
    rw [hclosing] at hprogress
    cases hprogress
  · next told hsent _ htold =>
    refine .inr ⟨?_, hfits.2.1⟩
    unfold Request.sent
    rw [htold]
    cases told <;> first | rfl | exact absurd rfl hsent
  · next told hsent _ htold =>
    refine .inr ⟨?_, hfits⟩
    unfold Request.sent
    rw [htold]
    cases told <;> first | rfl | exact absurd rfl hsent

end Ticket

namespace Client

variable {client : Client} {id : RequestId} {request : Request}

theorem returned_host (hsound : client.Sound)
    (hrequest : client.requests.lookup id = some request)
    (hkind : request.kind = .plain) {response : Response}
    (hreturned : request.progress = .ended (.returned response)) :
    ∃ ok body, response = .host id ok body := by
  have hfits := (hsound.ticket id).fits request hrequest
  simp only [Ticket.Fits, hkind, hreturned] at hfits
  exact hfits.2.2 response rfl

theorem noResponse_of_ended (hsound : client.Sound)
    (hrequest : client.requests.lookup id = some request) {outcome : Outcome}
    (hended : request.progress = .ended outcome) : id ∉ client.responses := by
  apply not_mem_responses.mpr
  cases ((hsound.ticket id).fits request hrequest).over hended with
  | inl hfresh => exact hfresh.response
  | inr hover => exact hover.2.response

theorem noEntry_of_ended (hsound : client.Sound)
    (hrequest : client.requests.lookup id = some request) {outcome : Outcome}
    (hended : request.progress = .ended outcome)
    (harrived : client.MessagesArrived id request) : client.NoEntry id := by
  have hflight : (client.ticket id).inFlight = [] := by
    apply List.filter_eq_nil_iff.mpr
    intro message hmem
    simpa using harrived.1 message hmem
  cases ((hsound.ticket id).fits request hrequest).over hended with
  | inl hfresh =>
    constructor
    · exact not_mem_responses.mpr hfresh.response
    · exact AList.lookup_eq_none.mp hfresh.events
    · exact AList.lookup_eq_none.mp hfresh.bytes
    · exact hfresh.overflowed
    · exact hfresh.expired
  | inr hover =>
    obtain ⟨hsent, hover⟩ := hover
    have hlast : ¬(client.ticket id).ToCome client.processAlive := by
      rintro (⟨message, hmem, -⟩ | ⟨halive, hopen⟩)
      · rw [hflight] at hmem
        cases hmem
      · exact hopen (harrived.2 hsent halive)
    constructor
    · exact not_mem_responses.mpr hover.response
    · exact AList.lookup_eq_none.mp hover.events
    · exact AList.lookup_eq_none.mp hover.bytes
    · exact fun hmark => hlast (hover.overflowed hmark)
    · exact fun hmark => hlast (hover.expired hmark)

end Client

section runs

/-- A plain request is answered after its deadline; a stream hands out an item
and ends. -/
def lateAnswerRun : List ClientLabel :=
  [.request .plain, .put 1 true, .wake 1 true, .request .stream, .put 2 true,
    .emit (.streamItem 2 3 "abc"), .emit (.response 1 true "late"),
    .emit (.response 2 true ""), .read, .wake 2 false, .read, .read,
    .wake 2 false, .finally 2]

/-- The caller sees the dead process before the reader comes to the response
that is already in the pipe. -/
def deadHostRun : List ClientLabel :=
  [.request .plain, .put 1 true, .emit (.response 1 true "done"), .hostDies,
    .wake 1 false, .read]

end runs

end PycloudParallel.ExecutorClient
