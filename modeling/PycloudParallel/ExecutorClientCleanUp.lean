import PycloudParallel.ExecutorClientTickets

/-!
# What is left of a request in the tables

A request that is over leaves an entry only where a message of it is still to
come, and that message takes the entry away: the expired and the overflowed
mark are made while the response is still to be read.
-/

namespace PycloudParallel.ExecutorClient

namespace Ticket

def responseInFlight (ticket : Ticket) : Prop :=
  ∃ message ∈ ticket.inFlight, message.isResponse = true

def ToCome (alive : Bool) (ticket : Ticket) : Prop :=
  ticket.responseInFlight ∨ alive = true ∧ ¬ticket.answered

inductive PipeShape : List HostMessage → Prop → Prop
  | items {inFlight : List HostMessage} {answered : Prop}
      (hitems : ∀ message ∈ inFlight, message.isResponse = false)
      (hanswered : answered → inFlight = []) : PipeShape inFlight answered
  | response {items : List HostMessage} {message : HostMessage}
      {answered : Prop}
      (hitems : ∀ message ∈ items, message.isResponse = false)
      (hresponse : message.isResponse = true) (hanswered : answered) :
      PipeShape (items ++ [message]) answered

structure Fresh (ticket : Ticket) : Prop where
  response : ticket.response = none
  events : ticket.events = none
  bytes : ticket.bytes = none
  overflowed : ¬ticket.overflowed
  expired : ¬ticket.expired
  inFlight : ticket.inFlight = []
  answered : ¬ticket.answered

def HasOwnResponse (id : RequestId) (ticket : Ticket) : Prop :=
  (∀ response, ticket.response = some response →
    (∃ ok body, response = .host id ok body) ∧ ticket.inFlight = [] ∧
      ticket.answered) ∧
  (ticket.answered → ticket.inFlight = [] → ticket.response ≠ none)

structure NoStream (ticket : Ticket) : Prop where
  events : ticket.events = none
  bytes : ticket.bytes = none
  overflowed : ¬ticket.overflowed
  responses : ∀ message ∈ ticket.inFlight, message.isResponse = true

structure Streaming (alive : Bool) (id : RequestId) (ticket : Ticket) :
    Prop where
  expired : ¬ticket.expired
  items : ∀ items, ticket.events = some items →
    items ≠ [] ∧ ∀ item ∈ items, item.requestId = id
  kept : ticket.response ≠ some .bufferLimitExceeded →
    ¬ticket.overflowed ∧ HasOwnResponse id ticket
  dropped : ticket.response = some .bufferLimitExceeded →
    ticket.events = none ∧ ticket.bytes = none ∧
      (ticket.overflowed → ToCome alive ticket) ∧
      (¬ticket.overflowed → ticket.inFlight = [] ∧ ticket.answered)

structure Completed (alive : Bool) (ticket : Ticket) : Prop where
  response : ticket.response = none
  events : ticket.events = none
  expired : ¬ticket.expired
  kept : ¬ticket.overflowed → ticket.inFlight = [] ∧ ticket.answered
  dropped : ticket.overflowed → ToCome alive ticket

structure Over (alive : Bool) (ticket : Ticket) : Prop where
  response : ticket.response = none
  events : ticket.events = none
  bytes : ticket.bytes = none
  expired : ticket.expired → ToCome alive ticket
  overflowed : ticket.overflowed → ToCome alive ticket
  oneMark : ticket.expired → ¬ticket.overflowed
  marked : ticket.inFlight ≠ [] ∨ alive = true ∧ ¬ticket.answered →
    ticket.expired ∨ ticket.overflowed

def Fits (alive : Bool) (id : RequestId) (ticket : Ticket) (request : Request) :
    Prop :=
  match request.kind, request.progress with
  | _, .sending => Fresh ticket
  | _, .ended .sendTimedOut => Fresh ticket
  | .plain, .waiting _ =>
    NoStream ticket ∧ ¬ticket.expired ∧ HasOwnResponse id ticket
  | .stream, .waiting _ => Streaming alive id ticket
  | .plain, .closing _ _ => False
  | .stream, .closing true outcome =>
    Completed alive ticket ∧ outcome ≠ .sendTimedOut
  | .stream, .closing false outcome => outcome ≠ .sendTimedOut
  | .plain, .ended outcome =>
    NoStream ticket ∧ Over alive ticket ∧
      ∀ response, outcome = .returned response →
        ∃ ok body, response = .host id ok body
  | .stream, .ended _ => Over alive ticket

theorem fits_ended {alive : Bool} {id : RequestId} {ticket : Ticket}
    {request : Request} {outcome : Outcome} (hkind : request.kind = .stream)
    (hprogress : request.progress = .ended outcome)
    (hsent : outcome ≠ .sendTimedOut) (hover : Over alive ticket) :
    Fits alive id ticket request := by
  unfold Fits
  rw [hkind, hprogress]
  cases outcome with
  | sendTimedOut => exact absurd rfl hsent
  | returned response | failed response | timedOut | hostDied | abandoned => exact hover

structure Sound (alive : Bool) (id : RequestId) (ticket : Ticket) : Prop where
  shape : PipeShape ticket.inFlight ticket.answered
  absent : ticket.request = none → Fresh ticket
  received : ∀ request, ticket.request = some request →
    ∀ item ∈ request.received, item.requestId = id
  fits : ∀ request, ticket.request = some request →
    Fits alive id ticket request

variable {answered : Prop} {message : HostMessage}

theorem PipeShape.answered_of_mem {inFlight : List HostMessage}
    (hshape : PipeShape inFlight answered) (hmem : message ∈ inFlight)
    (hresponse : message.isResponse = true) : answered := by
  cases hshape with
  | items hitems hanswered =>
    rw [hitems message hmem] at hresponse
    cases hresponse
  | response hitems hlast hanswered => exact hanswered

theorem PipeShape.of_cons {rest : List HostMessage}
    (hshape : PipeShape (message :: rest) answered) :
    PipeShape rest answered ∧
      (message.isResponse = true → rest = [] ∧ answered) ∧
      (message.isResponse = false → answered →
        ∃ later ∈ rest, later.isResponse = true) := by
  generalize hlist : message :: rest = inFlight at hshape
  cases hshape with
  | items hitems hanswered =>
    subst hlist
    refine ⟨.items (fun m hm => hitems m (by simp [hm])) ?_, ?_, ?_⟩
    · intro h
      cases hanswered h
    · intro h
      rw [hitems message (by simp)] at h
      cases h
    · intro _ h
      cases hanswered h
  | @response items last answered hitems hresponse hanswered =>
    cases items with
    | nil =>
      simp only [List.nil_append, List.cons.injEq] at hlist
      obtain ⟨rfl, rfl⟩ := hlist
      refine ⟨.items (by simp) (fun _ => rfl), fun _ => ⟨rfl, hanswered⟩, ?_⟩
      intro h
      rw [hresponse] at h
      cases h
    | cons first items =>
      simp only [List.cons_append, List.cons.injEq] at hlist
      obtain ⟨rfl, rfl⟩ := hlist
      refine ⟨.response (fun m hm => hitems m (by simp [hm])) hresponse
        hanswered, ?_, ?_⟩
      · intro h
        rw [hitems message (by simp)] at h
        cases h
      · intro _ _
        exact ⟨last, by simp, hresponse⟩

theorem PipeShape.concat {inFlight : List HostMessage}
    (hshape : PipeShape inFlight answered) (hopen : ¬answered) :
    PipeShape (inFlight ++ [message])
      (message.isResponse = true ∨ answered) := by
  cases hshape with
  | response hitems hlast hanswered => exact absurd hanswered hopen
  | items hitems hanswered =>
    cases hresponse : message.isResponse with
    | true => exact .response hitems hresponse (.inl rfl)
    | false =>
      apply PipeShape.items
      · intro other hother
        rw [List.mem_append, List.mem_singleton] at hother
        cases hother with
        | inl hold => exact hitems other hold
        | inr heq => rw [heq, hresponse]
      · intro h
        cases h with
        | inl h => cases h
        | inr h => exact absurd h hopen

end Ticket

namespace Ticket

variable {alive : Bool} {new ticket : Ticket}

theorem Sound.readResponse {id : RequestId} {ok : Bool} {body : String}
    {rest : List HostMessage} (hsound : ticket.Sound alive id)
    (hhead : ticket.inFlight = .response id ok body :: rest)
    (hsame : new.request = ticket.request ∧ new.events = ticket.events ∧
      new.bytes = ticket.bytes ∧ new.inFlight = rest ∧
        new.answered = ticket.answered)
    (hread : ticket.overflowed ∧ ¬new.overflowed ∧
        new.expired = ticket.expired ∧ new.response = ticket.response ∨
      ¬ticket.overflowed ∧ ticket.expired ∧ ¬new.overflowed ∧ ¬new.expired ∧
        new.response = ticket.response ∨
      ¬ticket.overflowed ∧ ¬ticket.expired ∧ ¬new.overflowed ∧ ¬new.expired ∧
        new.response = some (.host id ok body)) : new.Sound alive id := by
  obtain ⟨hrequest, hevents, hbytes, hflight, hanswered⟩ := hsame
  have hshape := hsound.shape
  rw [hhead] at hshape
  obtain ⟨hrest, hlast, -⟩ := hshape.of_cons
  obtain ⟨rfl, hdone⟩ := hlast rfl
  have hsome : ticket.inFlight ≠ [] := by simp [hhead]
  have hdone' : new.answered := by rw [hanswered]; exact hdone
  have hover : Over alive ticket → Over alive new := by
    intro hover
    have hmark := hover.marked (.inl hsome)
    have hclear : ¬new.expired ∧ ¬new.overflowed ∧ new.response = none := by
      rcases hread with ⟨hov, hnov, hexp, hresp⟩ | ⟨-, -, hnov, hnexp, hresp⟩ |
        ⟨hov, hexp, -, -, -⟩
      · refine ⟨?_, hnov, hresp.trans hover.response⟩
        rw [hexp]
        exact fun h => hover.oneMark h hov
      · exact ⟨hnexp, hnov, hresp.trans hover.response⟩
      · cases hmark with
        | inl h => exact absurd h hexp
        | inr h => exact absurd h hov
    refine ⟨hclear.2.2, hevents.trans hover.events, hbytes.trans hover.bytes,
      fun h => absurd h hclear.1, fun h => absurd h hclear.2.1,
      fun h => absurd h hclear.1, ?_⟩
    rintro (hne | ⟨-, hopen⟩)
    · exact absurd hflight hne
    · exact absurd hdone' hopen
  have hfresh : ¬ticket.Fresh := fun hfresh => hsome hfresh.inFlight
  have hown : new.response = some (.host id ok body) →
      HasOwnResponse id new := by
    intro hresponse
    constructor
    · intro response hgiven
      rw [hresponse] at hgiven
      cases hgiven
      exact ⟨⟨ok, body, rfl⟩, hflight, hdone'⟩
    · intro _ _
      simp [hresponse]
  constructor
  · rw [hflight]
    exact .items (by simp) fun _ => rfl
  · intro hnone
    rw [hrequest] at hnone
    exact absurd (hsound.absent hnone) hfresh
  · intro request hgiven
    rw [hrequest] at hgiven
    exact hsound.received request hgiven
  · intro request hgiven
    rw [hrequest] at hgiven
    have hfits := hsound.fits request hgiven
    unfold Fits at hfits ⊢
    split at hfits
    · exact absurd hfits hfresh
    · exact absurd hfits hfresh
    · -- a plain request that waits
      obtain ⟨hclean, hexpired, -⟩ := hfits
      rcases hread with ⟨hov, -⟩ | ⟨-, hexp, -⟩ | ⟨-, -, hnov, hnexp, hresp⟩
      · exact absurd hov hclean.overflowed
      · exact absurd hexp hexpired
      · refine ⟨⟨hevents.trans hclean.events, hbytes.trans hclean.bytes, hnov, ?_⟩,
          hnexp, hown hresp⟩
        intro message hmem
        rw [hflight] at hmem
        cases hmem
    · -- a stream with a consumer
      rcases hread with ⟨hov, hnov, hexp, hresp⟩ | ⟨-, hexp, -⟩ |
        ⟨hov, -, hnov, hnexp, hresp⟩
      · have hresponse : ticket.response = some .bufferLimitExceeded := by
          by_contra hne
          exact (hfits.kept hne).1 hov
        obtain ⟨hnoEvents, hnoBytes, -, -⟩ := hfits.dropped hresponse
        refine ⟨?_, ?_, ?_, ?_⟩
        · rw [hexp]
          exact hfits.expired
        · rw [hevents]
          exact hfits.items
        · intro hne
          rw [hresp] at hne
          exact absurd hresponse hne
        · intro _
          exact ⟨hevents.trans hnoEvents, hbytes.trans hnoBytes,
            fun h => absurd h hnov, fun _ => ⟨hflight, hdone'⟩⟩
      · exact absurd hexp hfits.expired
      · refine ⟨hnexp, ?_, fun _ => ⟨hnov, hown hresp⟩, ?_⟩
        · rw [hevents]
          exact hfits.items
        · intro hresponse
          rw [hresp] at hresponse
          cases hresponse
    · exact hfits
    · -- a stream whose consumer took the error of the reader
      obtain ⟨hcompleted, hsent⟩ := hfits
      have hov : ticket.overflowed := by
        by_contra hkept
        exact hsome (hcompleted.kept hkept).1
      rcases hread with ⟨-, hnov, hexp, hresp⟩ | ⟨hkept, -⟩ | ⟨hkept, -⟩
      · refine ⟨⟨hresp.trans hcompleted.response, hevents.trans hcompleted.events,
          ?_, fun _ => ⟨hflight, hdone'⟩, fun h => absurd h hnov⟩, hsent⟩
        rw [hexp]
        exact hcompleted.expired
      · exact absurd hov hkept
      · exact absurd hov hkept
    · exact hfits
    · obtain ⟨hclean, hold, hreturned⟩ := hfits
      refine ⟨⟨hevents.trans hclean.events, hbytes.trans hclean.bytes, ?_, ?_⟩,
        hover hold, hreturned⟩
      · rcases hread with ⟨-, hnov, -⟩ | ⟨-, -, hnov, -⟩ | ⟨-, -, hnov, -⟩
        all_goals exact hnov
      · intro message hmem
        rw [hflight] at hmem
        cases hmem
    · exact hover hfits

theorem Sound.readItem {id : RequestId} {size : ℕ} {body : String}
    {rest : List HostMessage} (hsound : ticket.Sound alive id)
    (hhead : ticket.inFlight = .streamItem id size body :: rest)
    (hsame : new.request = ticket.request ∧ new.inFlight = rest ∧
      new.answered = ticket.answered ∧ new.expired = ticket.expired)
    (hread : (ticket.overflowed ∨ ticket.expired) ∧
        new.overflowed = ticket.overflowed ∧ new.response = ticket.response ∧
          new.events = ticket.events ∧ new.bytes = ticket.bytes ∨
      ¬ticket.overflowed ∧ ¬ticket.expired ∧
        new.overflowed ∧ new.response = some .bufferLimitExceeded ∧
          new.events = none ∧ new.bytes = none ∧ ticket.ToCome alive ∨
      ¬ticket.overflowed ∧ ¬ticket.expired ∧ ¬new.overflowed ∧
        new.response = ticket.response ∧
          new.events = some (ticket.events.getD [] ++ [⟨id, size, body⟩])) :
    new.Sound alive id := by
  obtain ⟨hrequest, hflight, hanswered, hexpired⟩ := hsame
  have hshape := hsound.shape
  rw [hhead] at hshape
  obtain ⟨hrest, -, hlater⟩ := hshape.of_cons
  have hlater := hlater rfl
  have hsome : ticket.inFlight ≠ [] := by simp [hhead]
  have hfresh : ¬ticket.Fresh := fun hfresh => hsome hfresh.inFlight
  have hcome : ticket.ToCome alive → new.ToCome alive := by
    rintro (⟨message, hmem, hresponse⟩ | ⟨halive, hopen⟩)
    · rw [hhead, List.mem_cons] at hmem
      cases hmem with
      | inl heq =>
        rw [heq] at hresponse
        cases hresponse
      | inr hmem => exact .inl ⟨message, by rw [hflight]; exact hmem, hresponse⟩
    · exact .inr ⟨halive, by rw [hanswered]; exact hopen⟩
  have hmore : new.answered → new.inFlight ≠ [] := by
    rw [hanswered, hflight]
    intro hdone
    obtain ⟨later, hmem, -⟩ := hlater hdone
    exact List.ne_nil_of_mem hmem
  have hover : Over alive ticket → Over alive new := by
    intro hover
    have hmark := hover.marked (.inl hsome)
    rcases hread with ⟨-, hov, hresp, hevents, hbytes⟩ | ⟨hov, hexp, -⟩ |
      ⟨hov, hexp, -⟩
    · refine ⟨hresp.trans hover.response, hevents.trans hover.events,
        hbytes.trans hover.bytes, ?_, ?_, ?_, ?_⟩
      · rw [hexpired]
        exact fun h => hcome (hover.expired h)
      · rw [hov]
        exact fun h => hcome (hover.overflowed h)
      · rw [hexpired, hov]
        exact hover.oneMark
      · rw [hexpired, hov]
        exact fun _ => hmark
    · cases hmark with
      | inl h => exact absurd h hexp
      | inr h => exact absurd h hov
    · cases hmark with
      | inl h => exact absurd h hexp
      | inr h => exact absurd h hov
  -- a plain request has no items in the pipe
  have hplain : ¬ticket.NoStream := by
    intro hclean
    have hfalse := hclean.responses (.streamItem id size body) (by simp [hhead])
    cases hfalse
  constructor
  · rw [hflight, hanswered]
    exact hrest
  · intro hnone
    rw [hrequest] at hnone
    exact absurd (hsound.absent hnone) hfresh
  · intro request hgiven
    rw [hrequest] at hgiven
    exact hsound.received request hgiven
  · intro request hgiven
    rw [hrequest] at hgiven
    have hfits := hsound.fits request hgiven
    unfold Fits at hfits ⊢
    split at hfits
    · exact absurd hfits hfresh
    · exact absurd hfits hfresh
    · exact absurd hfits.1 hplain
    · have hfull : ticket.response = some .bufferLimitExceeded →
          ticket.overflowed := by
        intro hresponse
        by_contra hkept
        exact hsome ((hfits.dropped hresponse).2.2.2 hkept).1
      have hnone : ¬ticket.overflowed → ticket.response = none := by
        intro hkept
        have hne : ticket.response ≠ some .bufferLimitExceeded :=
          fun h => hkept (hfull h)
        cases hresponse : ticket.response with
        | none => rfl
        | some response =>
          have hempty := ((hfits.kept hne).2.1 response hresponse).2.1
          exact absurd hempty hsome
      have hclear : ¬new.expired := by
        rw [hexpired]
        exact hfits.expired
      rcases hread with ⟨hov | hexp, hnov, hresp, hevents, hbytes⟩ |
        ⟨-, -, hnov, hresp, hevents, hbytes, hwait⟩ |
        ⟨hov, -, hnov, hresp, hevents⟩
      · have hresponse : ticket.response = some .bufferLimitExceeded := by
          by_contra hne
          exact (hfits.kept hne).1 hov
        obtain ⟨hnoEvents, hnoBytes, hwait, -⟩ := hfits.dropped hresponse
        refine ⟨hclear, ?_, ?_, ?_⟩
        · rw [hevents]
          exact hfits.items
        · intro hne
          rw [hresp] at hne
          exact absurd hresponse hne
        · intro _
          refine ⟨hevents.trans hnoEvents, hbytes.trans hnoBytes,
            fun _ => hcome (hwait hov), ?_⟩
          intro hkept
          rw [hnov] at hkept
          exact absurd hov hkept
      · exact absurd hexp hfits.expired
      · refine ⟨hclear, ?_, fun hne => absurd hresp hne, ?_⟩
        · intro items hitems
          rw [hevents] at hitems
          cases hitems
        · intro _
          exact ⟨hevents, hbytes, fun _ => hcome hwait, fun h => absurd hnov h⟩
      · refine ⟨hclear, ?_, ?_, ?_⟩
        · intro items hitems
          rw [hevents] at hitems
          cases hitems
          refine ⟨by simp, ?_⟩
          intro item hitem
          rw [List.mem_append, List.mem_singleton] at hitem
          cases hitem with
          | inr heq => rw [heq]
          | inl hold =>
            cases hbuffer : ticket.events with
            | none =>
              rw [hbuffer] at hold
              cases hold
            | some items =>
              rw [hbuffer] at hold
              exact (hfits.items items hbuffer).2 item hold
        · intro _
          refine ⟨hnov, ?_, ?_⟩
          · intro response hgiven
            rw [hresp, hnone hov] at hgiven
            cases hgiven
          · intro hdone hempty
            exact absurd hempty (hmore hdone)
        · intro hresponse
          rw [hresp, hnone hov] at hresponse
          cases hresponse
    · exact hfits
    · obtain ⟨hcompleted, hsent⟩ := hfits
      have hov : ticket.overflowed := by
        by_contra hkept
        exact hsome (hcompleted.kept hkept).1
      rcases hread with ⟨-, hnov, hresp, hevents, hbytes⟩ | ⟨hkept, -⟩ |
        ⟨hkept, -⟩
      · refine ⟨⟨hresp.trans hcompleted.response, hevents.trans hcompleted.events,
          ?_, ?_, fun _ => hcome (hcompleted.dropped hov)⟩, hsent⟩
        · rw [hexpired]
          exact hcompleted.expired
        · intro hkept
          rw [hnov] at hkept
          exact absurd hov hkept
      · exact absurd hov hkept
      · exact absurd hov hkept
    · exact hfits
    · exact absurd hfits.1 hplain
    · exact hover hfits

theorem Sound.emit {id : RequestId} {message : HostMessage} {request : Request}
    (hsound : ticket.Sound true id) (hopen : ¬ticket.answered)
    (hrequest : ticket.request = some request) (hsent : request.sent = true)
    (hkind : message.isResponse = true ∨ request.kind = .stream)
    (hsame : new.request = ticket.request ∧ new.response = ticket.response ∧
      new.events = ticket.events ∧ new.bytes = ticket.bytes ∧
        new.overflowed = ticket.overflowed ∧ new.expired = ticket.expired)
    (hflight : new.inFlight = ticket.inFlight ++ [message])
    (hanswered : new.answered = (message.isResponse = true ∨ ticket.answered)) :
    new.Sound true id := by
  obtain ⟨hrequest', hresponse, hevents, hbytes, hov, hexp⟩ := hsame
  have hcome : new.ToCome true := by
    cases hlast : message.isResponse with
    | true => exact .inl ⟨message, by simp [hflight], hlast⟩
    | false =>
      refine .inr ⟨rfl, ?_⟩
      rw [hanswered, hlast]
      simp [hopen]
  have hown : HasOwnResponse id ticket → HasOwnResponse id new := by
    rintro ⟨hgiven, -⟩
    constructor
    · intro response hsome
      rw [hresponse] at hsome
      exact absurd (hgiven response hsome).2.2 hopen
    · intro _ hempty
      rw [hflight] at hempty
      simp at hempty
  have hover : Over true ticket → Over true new := by
    intro hover
    refine ⟨hresponse.trans hover.response, hevents.trans hover.events,
      hbytes.trans hover.bytes, fun _ => hcome, fun _ => hcome, ?_, ?_⟩
    · rw [hexp, hov]
      exact hover.oneMark
    · intro _
      rw [hexp, hov]
      exact hover.marked (.inr ⟨rfl, hopen⟩)
  have hclean : request.kind = .plain → ticket.NoStream → new.NoStream := by
    intro hplain hclean
    refine ⟨hevents.trans hclean.events, hbytes.trans hclean.bytes, ?_, ?_⟩
    · rw [hov]
      exact hclean.overflowed
    · intro other hother
      rw [hflight, List.mem_append, List.mem_singleton] at hother
      cases hother with
      | inl hold => exact hclean.responses other hold
      | inr heq =>
        rw [heq]
        cases hkind with
        | inl hlast => exact hlast
        | inr hstream =>
          rw [hplain] at hstream
          cases hstream
  constructor
  · rw [hflight, hanswered]
    exact hsound.shape.concat hopen
  · intro hnone
    rw [hrequest', hrequest] at hnone
    cases hnone
  · intro found hfound
    rw [hrequest'] at hfound
    exact hsound.received found hfound
  · intro found hfound
    rw [hrequest', hrequest] at hfound
    cases hfound
    have hfits := hsound.fits request hrequest
    unfold Fits at hfits ⊢
    split at hfits
    · next hprogress =>
      simp [Request.sent, hprogress] at hsent
    · next hprogress =>
      simp [Request.sent, hprogress] at hsent
    · next hplain _ =>
      refine ⟨hclean hplain hfits.1, ?_, hown hfits.2.2⟩
      rw [hexp]
      exact hfits.2.1
    · refine ⟨?_, ?_, ?_, ?_⟩
      · rw [hexp]
        exact hfits.expired
      · rw [hevents]
        exact hfits.items
      · rw [hresponse, hov]
        intro hne
        exact ⟨(hfits.kept hne).1, hown (hfits.kept hne).2⟩
      · rw [hresponse, hevents, hbytes, hov]
        intro hfull
        obtain ⟨hnoEvents, hnoBytes, -, hkept⟩ := hfits.dropped hfull
        exact ⟨hnoEvents, hnoBytes, fun _ => hcome,
          fun h => absurd (hkept h).2 hopen⟩
    · exact hfits
    · obtain ⟨hcompleted, houtcome⟩ := hfits
      refine ⟨⟨hresponse.trans hcompleted.response,
        hevents.trans hcompleted.events, ?_, ?_, fun _ => hcome⟩, houtcome⟩
      · rw [hexp]
        exact hcompleted.expired
      · rw [hov]
        exact fun h => absurd (hcompleted.kept h).2 hopen
    · exact hfits
    · next hplain _ =>
      exact ⟨hclean hplain hfits.1, hover hfits.2.1, hfits.2.2⟩
    · exact hover hfits

theorem Sound.hostDies {id : RequestId} (hsound : ticket.Sound alive id)
    (hmarks : ticket.expired ∨ ticket.overflowed → ticket.answered) :
    ticket.Sound false id := by
  have hcome : ticket.answered → ticket.ToCome alive →
      ticket.ToCome false := by
    rintro hdone (hflight | ⟨-, hopen⟩)
    · exact .inl hflight
    · exact absurd hdone hopen
  have hover : Over alive ticket → Over false ticket := by
    intro hover
    refine ⟨hover.response, hover.events, hover.bytes, ?_, ?_, hover.oneMark,
      ?_⟩
    · exact fun h => hcome (hmarks (.inl h)) (hover.expired h)
    · exact fun h => hcome (hmarks (.inr h)) (hover.overflowed h)
    · rintro (hflight | ⟨hfalse, -⟩)
      · exact hover.marked (.inl hflight)
      · cases hfalse
  refine ⟨hsound.shape, hsound.absent, hsound.received, ?_⟩
  intro request hrequest
  have hfits := hsound.fits request hrequest
  unfold Fits at hfits ⊢
  split at hfits
  · exact hfits
  · exact hfits
  · exact hfits
  · refine ⟨hfits.expired, hfits.items, hfits.kept, ?_⟩
    intro hfull
    obtain ⟨hnoEvents, hnoBytes, hwait, hkept⟩ := hfits.dropped hfull
    exact ⟨hnoEvents, hnoBytes, fun h => hcome (hmarks (.inr h)) (hwait h), hkept⟩
  · exact hfits
  · obtain ⟨hcompleted, houtcome⟩ := hfits
    exact ⟨⟨hcompleted.response, hcompleted.events, hcompleted.expired,
      hcompleted.kept,
      fun h => hcome (hmarks (.inr h)) (hcompleted.dropped h)⟩, houtcome⟩
  · exact hfits
  · exact ⟨hfits.1, hover hfits.2.1, hfits.2.2⟩
  · exact hover hfits

end Ticket

namespace Client

variable {client : Client} {id : RequestId}

structure Sound (client : Client) : Prop where
  ticket : ∀ id, (client.ticket id).Sound client.processAlive id
  fresh : ∀ id, client.seq < id → client.requests.lookup id = none

def toCome (client : Client) (id : RequestId) : Bool :=
  (client.pipe.any fun message =>
    message.requestId = id && message.isResponse) ||
    client.processAlive && id ∉ client.answered

def untouched (client : Client) (id : RequestId) : Bool :=
  id ∉ client.responses && id ∉ client.streamEvents &&
    id ∉ client.streamBufferBytes && id ∉ client.overflowedStreams &&
      client.pipe.all fun message => message.requestId ≠ id

/-- The steps that leave nothing behind: what is marked as expired or
overflowed is still to be answered, and no response comes for a caller that
left without a mark. -/
def tidy (client : Client) : ClientLabel → Bool
  | .wake id deadlinePassed =>
    match client.requests.lookup id with
    | some ⟨.plain, .waiting _, _⟩ =>
      id ∈ client.responses ||
        (if deadlinePassed then client.toCome id
        else client.processAlive || id ∉ client.answered)
    | _ => true
  | .finally id =>
    match client.requests.lookup id with
    | some ⟨_, .closing false _, _⟩ =>
      client.toCome id && id ∉ client.overflowedStreams
    | _ => true
  | .abandon id =>
    match client.requests.lookup id with
    | some ⟨_, .waiting false, _⟩ => client.untouched id && !client.toCome id
    | _ => true
  | .read =>
    match client.pipe with
    | .streamItem id size _ :: _ =>
      !client.bufferFull id size || client.toCome id
    | _ => true
  | .hostDies =>
    decide (client.expiredRequests ∪ client.overflowedStreams ⊆
      client.answered)
  | .request _ | .put _ _ | .emit _ | .close => true

theorem toCome_iff :
    client.toCome id = true ↔
      (client.ticket id).ToCome client.processAlive := by
  simp [toCome, Ticket.ToCome, Ticket.responseInFlight, ticket, and_assoc]

theorem not_mem_responses :
    id ∉ client.responses ↔ (client.ticket id).response = none := by
  rw [← AList.lookup_eq_none]
  rfl

variable {t : Client} {request : Request} {deadlinePassed started : Bool}
  {message : HostMessage} {rest : List HostMessage}

theorem Sound.of_ticket (id : RequestId) (hsound : client.Sound)
    (halive : t.processAlive = client.processAlive)
    (hfresh : ∀ other, t.seq < other → t.requests.lookup other = none)
    (hother : ∀ other, other ≠ id → t.ticket other = client.ticket other)
    (hself : (t.ticket id).Sound client.processAlive id) : t.Sound := by
  constructor
  · intro other
    rw [halive]
    by_cases heq : other = id
    · rw [heq]
      exact hself
    · rw [hother other heq]
      exact hsound.ticket other
  · exact hfresh

section

variable (hsound : client.Sound)

include hsound

theorem Sound.fresh_of_set {request' : Request}
    (hrequest : client.requests.lookup id = some request)
    (hseq : t.seq = client.seq)
    (hset : t.requests = client.requests.set id request') :
    ∀ other, t.seq < other → t.requests.lookup other = none := by
  intro other hlater
  rw [hseq] at hlater
  have hnone := hsound.fresh other hlater
  have hne : other ≠ id := by
    rintro rfl
    rw [hrequest] at hnone
    cases hnone
  rw [hset, OrderedDict.lookup_set_ne _ _ hne, hnone]

theorem Sound.takeId (kind : RequestKind) : (client.takeId kind).Sound := by
  unfold Client.takeId
  split
  · exact hsound
  · have hnone : client.requests.lookup (client.seq + 1) = none :=
      hsound.fresh _ (Nat.lt_succ_self _)
    have hfree : (client.ticket (client.seq + 1)).Fresh :=
      (hsound.ticket _).absent hnone
    generalize hnew : ({ kind := kind, progress := .sending, received := [] } :
      Request) = request
    have hticket : ∀ other,
        ({ client.setRequest (client.seq + 1) request with
          seq := client.seq + 1 } : Client).ticket other =
          (client.setRequest (client.seq + 1) request).ticket other :=
      fun _ => rfl
    have hself : (client.setRequest (client.seq + 1) request).ticket
          (client.seq + 1) =
        { client.ticket (client.seq + 1) with request := some request } := by
      simp
    apply Sound.of_ticket (client.seq + 1) hsound
    · rfl
    · intro other hlater
      have hlater : client.seq + 1 < other := hlater
      show (client.requests.set (client.seq + 1) request).lookup other = none
      rw [OrderedDict.lookup_set_ne _ _ (by omega)]
      exact hsound.fresh other (by omega)
    · intro other hne
      rw [hticket, ticket_setRequest, if_neg hne]
    · rw [hticket, hself]
      constructor
      · exact (hsound.ticket _).shape
      · intro hnone
        cases hnone
      · intro found hfound item hitem
        cases hfound
        rw [← hnew] at hitem
        cases hitem
      · intro found hfound
        cases hfound
        rw [← hnew]
        exact ⟨hfree.1, hfree.2, hfree.3, hfree.4, hfree.5, hfree.6, hfree.7⟩

variable (hrequest : client.requests.lookup id = some request)

include hrequest

theorem Sound.of_request {request' : Request}
    (hreceived : ∀ item ∈ request'.received, item.requestId = id)
    (hfits : Ticket.Fits client.processAlive id
      { t.ticket id with request := some request' } request')
    (hsame : t.processAlive = client.processAlive ∧ t.seq = client.seq ∧
      t.requests = client.requests := by exact ⟨rfl, rfl, rfl⟩)
    (hother : ∀ other, other ≠ id → t.ticket other = client.ticket other := by
      intro other hne; simp [hne])
    (hflight : (t.ticket id).inFlight = (client.ticket id).inFlight ∧
      (t.ticket id).answered = (client.ticket id).answered := by simp) :
    (t.setRequest id request').Sound := by
  apply Sound.of_ticket id hsound
  · exact hsame.1
  · apply Sound.fresh_of_set hsound hrequest
    · exact hsame.2.1
    · rw [← hsame.2.2]
      rfl
  · intro other hne
    rw [ticket_setRequest, if_neg hne, hother other hne]
  · rw [ticket_setRequest, if_pos rfl]
    constructor
    · show Ticket.PipeShape (t.ticket id).inFlight (t.ticket id).answered
      rw [hflight.1, hflight.2]
      exact (hsound.ticket id).shape
    · intro hnone
      cases hnone
    · intro found hfound
      cases hfound
      exact hreceived
    · intro found hfound
      cases hfound
      exact hfits

theorem Sound.putRequest (hprogress : request.progress = .sending)
    (accepted : Bool) : (client.putRequest id request accepted).Sound := by
  have hticket := hsound.ticket id
  have hfits := hticket.fits request hrequest
  have hfree : (client.ticket id).Fresh := by
    cases hkind : request.kind <;>
      simpa [Ticket.Fits, hkind, hprogress] using hfits
  unfold Client.putRequest
  refine hsound.of_request hrequest (hticket.received request hrequest) ?_
  cases accepted with
  | false =>
    cases hkind : request.kind <;>
      exact ⟨hfree.1, hfree.2, hfree.3, hfree.4, hfree.5, hfree.6, hfree.7⟩
  | true =>
    have hown : Ticket.HasOwnResponse id (client.ticket id) := by
      constructor
      · intro response hresponse
        rw [hfree.response] at hresponse
        cases hresponse
      · intro hanswered
        exact absurd hanswered hfree.answered
    cases hkind : request.kind with
    | plain =>
      refine ⟨⟨hfree.events, hfree.bytes, hfree.overflowed, ?_⟩,
        hfree.expired, hown⟩
      intro message hmem
      simp [hfree.inFlight] at hmem
    | stream =>
      refine ⟨hfree.expired, ?_, fun _ => ⟨hfree.overflowed, hown⟩, ?_⟩
      · intro items hitems
        rw [show _ = none from hfree.events] at hitems
        cases hitems
      · intro hresponse
        rw [show _ = none from hfree.response] at hresponse
        cases hresponse

theorem Sound.waitResponse (hkind : request.kind = .plain)
    (hprogress : request.progress = .waiting started)
    (hgiveUp : client.responses.lookup id = none →
      if deadlinePassed then client.toCome id = true
      else client.processAlive = true ∨ id ∉ client.answered) :
    (client.waitResponse id request deadlinePassed).Sound := by
  have hticket := hsound.ticket id
  have hreceived := hticket.received request hrequest
  have hfits := hticket.fits request hrequest
  simp only [Ticket.Fits, hkind, hprogress] at hfits
  obtain ⟨hclean, hexpired, hown⟩ := hfits
  unfold Client.waitResponse
  cases hlookup : client.responses.lookup id with
  | some response =>
    obtain ⟨⟨ok, body, rfl⟩, hempty, hanswered⟩ := hown.1 response hlookup
    dsimp only
    refine hsound.of_request hrequest hreceived ?_
    simp only [ticket_popResponse, if_true, Ticket.Fits, hkind]
    refine ⟨⟨hclean.events, hclean.bytes, hclean.overflowed,
      hclean.responses⟩, ⟨rfl, hclean.events, hclean.bytes, ?_, ?_, ?_, ?_⟩,
      ?_⟩
    · exact fun h => absurd h hexpired
    · exact fun h => absurd h hclean.overflowed
    · exact fun _ => hclean.overflowed
    · rintro (hflight | ⟨-, hopen⟩)
      · exact absurd hempty hflight
      · exact absurd hanswered hopen
    · intro response hreturned
      cases hreturned
      exact ⟨ok, body, rfl⟩
  | none =>
    have hmissing : (client.ticket id).response = none := hlookup
    have hallowed := hgiveUp hlookup
    dsimp only
    split
    · next hpassed =>
      rw [if_pos hpassed, toCome_iff] at hallowed
      refine hsound.of_request hrequest hreceived ?_
      simp only [ticket_popResponse, ticket_addExpired, if_true, Ticket.Fits,
        hkind]
      refine ⟨⟨hclean.events, hclean.bytes, hclean.overflowed,
        hclean.responses⟩, ⟨rfl, hclean.events, hclean.bytes, ?_, ?_, ?_, ?_⟩,
        ?_⟩
      · exact fun _ => hallowed
      · exact fun h => absurd h hclean.overflowed
      · exact fun _ => hclean.overflowed
      · exact fun _ => .inl trivial
      · intro response hreturned
        cases hreturned
    · next hpassed =>
      rw [if_neg hpassed] at hallowed
      split
      · next hdead =>
        have hdead : client.processAlive = false := by simpa using hdead
        have hopen : ¬(client.ticket id).answered := by
          cases hallowed with
          | inl halive =>
            rw [hdead] at halive
            cases halive
          | inr hopen => exact hopen
        refine hsound.of_request hrequest hreceived ?_
        simp only [Ticket.Fits, hkind]
        refine ⟨⟨hclean.events, hclean.bytes, hclean.overflowed,
          hclean.responses⟩,
          ⟨hmissing, hclean.events, hclean.bytes, ?_, ?_, ?_, ?_⟩, ?_⟩
        · exact fun h => absurd h hexpired
        · exact fun h => absurd h hclean.overflowed
        · exact fun _ => hclean.overflowed
        · rintro (hflight | ⟨halive, -⟩)
          · obtain ⟨message, hmem⟩ := List.exists_mem_of_ne_nil _ hflight
            exact absurd (hticket.shape.answered_of_mem hmem
              (hclean.responses message hmem)) hopen
          · rw [hdead] at halive
            cases halive
        · intro response hreturned
          cases hreturned
      · exact hsound

theorem Sound.takeItem {item : StreamItem} {rest : List StreamItem}
    (hkind : request.kind = .stream)
    (hprogress : request.progress = .waiting started)
    (hevents : client.streamEvents.lookup id = some (item :: rest)) :
    (client.takeItem id request item rest).Sound := by
  have hticket := hsound.ticket id
  have hfits := hticket.fits request hrequest
  simp only [Ticket.Fits, hkind, hprogress] at hfits
  obtain ⟨-, hitems⟩ := hfits.items _ hevents
  have hkept : (client.ticket id).response ≠ some .bufferLimitExceeded := by
    intro hresponse
    have hnone : client.streamEvents.lookup id = none :=
      (hfits.dropped hresponse).1
    rw [hevents] at hnone
    cases hnone
  have hreceived : ∀ got ∈ request.received ++ [item], got.requestId = id := by
    intro got hgot
    rw [List.mem_append, List.mem_singleton] at hgot
    cases hgot with
    | inl hold => exact hticket.received request hrequest got hold
    | inr heq => rw [heq]; exact hitems item (by simp)
  have hown := hfits.kept hkept
  unfold Client.takeItem
  dsimp only
  split
  · refine hsound.of_request hrequest hreceived ?_
    simp only [ticket_popEvents, ticket_putBytes, if_true, Ticket.Fits, hkind]
    refine ⟨hfits.expired, ?_, fun _ => hown, fun h => absurd h hkept⟩
    intro items hnone
    cases hnone
  · next hrest =>
    refine hsound.of_request hrequest hreceived ?_
    simp only [ticket_putEvents, ticket_putBytes, if_true, Ticket.Fits, hkind]
    refine ⟨hfits.expired, ?_, fun _ => hown, fun h => absurd h hkept⟩
    intro items hsome
    cases hsome
    constructor
    · rintro rfl
      exact hrest rfl
    · intro got hgot
      exact hitems got (by simp [hgot])

theorem Sound.nextItem (hkind : request.kind = .stream)
    (hprogress : request.progress = .waiting started) :
    (client.nextItem id request deadlinePassed).Sound := by
  have hticket := hsound.ticket id
  have hreceived := hticket.received request hrequest
  have hfits := hticket.fits request hrequest
  simp only [Ticket.Fits, hkind, hprogress] at hfits
  unfold Client.nextItem
  split
  · next hevents =>
    exact hsound.takeItem hrequest hkind hprogress hevents
  · next response hresponse hqueue =>
    -- the queue is empty, so the response is taken
    have hevents : client.streamEvents.lookup id = none := by
      cases hlookup : client.streamEvents.lookup id with
      | none => rfl
      | some items =>
        cases items with
        | nil => exact absurd rfl (hfits.items [] hlookup).1
        | cons item rest => exact absurd hlookup (hqueue item rest)
    refine hsound.of_request hrequest hreceived ?_
    simp only [ticket_popResponse, if_true, Ticket.Fits, hkind]
    refine ⟨⟨rfl, hevents, hfits.expired, ?_, ?_⟩, ?_⟩
    · intro hkept
      by_cases hfull : (client.ticket id).response = some .bufferLimitExceeded
      · exact (hfits.dropped hfull).2.2.2 hkept
      · exact ((hfits.kept hfull).2.1 response hresponse).2
    · intro hoverflowed
      by_cases hfull : (client.ticket id).response = some .bufferLimitExceeded
      · exact (hfits.dropped hfull).2.2.1 hoverflowed
      · exact absurd hoverflowed (hfits.kept hfull).1
    · split <;> simp
  · split
    · refine hsound.of_request hrequest hreceived ?_
      simp [Ticket.Fits, hkind]
    · split
      · refine hsound.of_request hrequest hreceived ?_
        simp [Ticket.Fits, hkind]
      · refine hsound.of_request hrequest hreceived ?_
        simp only [Ticket.Fits, hkind]
        exact ⟨hfits.expired, hfits.items, hfits.kept, hfits.dropped⟩

theorem Sound.cleanUp {completed : Bool} {outcome : Outcome}
    (hprogress : request.progress = .closing completed outcome)
    (hmark : completed = false →
      client.toCome id = true ∧ id ∉ client.overflowedStreams) :
    (client.cleanUp id request completed outcome).Sound := by
  have hticket := hsound.ticket id
  have hreceived := hticket.received request hrequest
  have hfits := hticket.fits request hrequest
  have hkind : request.kind = .stream := by
    cases hkind : request.kind with
    | stream => rfl
    | plain => simp [Ticket.Fits, hkind, hprogress] at hfits
  unfold Client.cleanUp
  cases completed with
  | true =>
    simp only [Ticket.Fits, hkind, hprogress] at hfits
    obtain ⟨hdone, hsent⟩ := hfits
    refine hsound.of_request hrequest hreceived ?_
    apply Ticket.fits_ended
    · exact hkind
    · rfl
    · exact hsent
    simp only [ticket_popEvents, ticket_popBytes, ticket_popResponse,
      if_true]
    refine ⟨rfl, rfl, rfl, fun h => absurd h hdone.expired, hdone.dropped,
      fun h => absurd h hdone.expired, ?_⟩
    intro hflight
    by_cases hoverflowed : (client.ticket id).overflowed
    · exact .inr hoverflowed
    · obtain ⟨hempty, hanswered⟩ := hdone.kept hoverflowed
      cases hflight with
      | inl hne => exact absurd hempty hne
      | inr hopen => exact absurd hanswered hopen.2
  | false =>
    simp only [Ticket.Fits, hkind, hprogress] at hfits
    obtain ⟨hcome, hkept⟩ := hmark rfl
    rw [toCome_iff] at hcome
    refine hsound.of_request hrequest hreceived ?_
    apply Ticket.fits_ended
    · exact hkind
    · rfl
    · exact hfits
    simp only [Bool.false_eq_true, if_false, ticket_popEvents,
      ticket_popBytes, ticket_popResponse, ticket_addExpired, if_true]
    exact ⟨rfl, rfl, rfl, fun _ => hcome, fun h => absurd h hkept,
      fun _ => hkept, fun _ => .inl trivial⟩

end

theorem ticket_of_untouched (hclear : client.untouched id = true) :
    (client.ticket id).response = none ∧ (client.ticket id).events = none ∧
      (client.ticket id).bytes = none ∧ ¬(client.ticket id).overflowed ∧
        (client.ticket id).inFlight = [] := by
  simp only [untouched, Bool.and_eq_true, decide_eq_true_eq,
    List.all_eq_true] at hclear
  obtain ⟨⟨⟨⟨hresponse, hevents⟩, hbytes⟩, hoverflowed⟩, hpipe⟩ := hclear
  refine ⟨AList.lookup_eq_none.mpr hresponse, AList.lookup_eq_none.mpr hevents,
    AList.lookup_eq_none.mpr hbytes, hoverflowed, ?_⟩
  apply List.filter_eq_nil_iff.mpr
  intro message hmem
  simpa using hpipe message hmem

theorem Sound.abandonIterator (hsound : client.Sound)
    (hrequest : client.requests.lookup id = some request)
    (hclear : request.progress = .waiting false →
      client.untouched id = true ∧ client.toCome id = false)
    (hstep : client.abandonIterator id request = some t) : t.Sound := by
  have hticket := hsound.ticket id
  have hreceived := hticket.received request hrequest
  have hfits := hticket.fits request hrequest
  unfold Client.abandonIterator at hstep
  split at hstep
  · next started hkind hprogress =>
    cases hstep
    simp only [Ticket.Fits, hkind, hprogress] at hfits
    refine hsound.of_request hrequest hreceived ?_
    cases started with
    | true => simp [Ticket.Fits, hkind]
    | false =>
      obtain ⟨hclear, hcome⟩ := hclear hprogress
      obtain ⟨hresponse, hevents, hbytes, hkept, hflight⟩ :=
        ticket_of_untouched hclear
      have hcome : ¬(client.ticket id).ToCome client.processAlive := by
        rw [← toCome_iff, hcome]
        exact Bool.false_ne_true
      simp only [Bool.false_eq_true, if_false, Ticket.Fits, hkind]
      refine ⟨hresponse, hevents, hbytes, fun h => absurd h hfits.expired,
        fun h => absurd h hkept, fun _ => hkept, ?_⟩
      rintro (hne | hopen)
      · exact absurd hflight hne
      · exact absurd (.inr hopen) hcome
  · cases hstep

theorem ticket_withoutHead (hpipe : client.pipe = message :: rest)
    (hid : message.requestId = id) :
    (client.ticket id).inFlight =
        message :: rest.filter (fun m => m.requestId = id) ∧
      ({ client with pipe := rest } : Client).ticket id =
        { client.ticket id with
          inFlight := rest.filter fun m => m.requestId = id } ∧
      ∀ other, other ≠ id →
        ({ client with pipe := rest } : Client).ticket other =
          client.ticket other := by
  constructor
  · rw [← hid]
    exact inFlight_of_head hpipe
  · constructor
    · rfl
    · intro other hne
      rw [ticket_dropHead hpipe, hid, if_neg hne]

theorem Sound.readResponse (hsound : client.Sound) {ok : Bool} {body : String}
    (hpipe : client.pipe = .response id ok body :: rest) :
    (({ client with pipe := rest } : Client).readResponse id ok body).Sound := by
  have hid : (HostMessage.response id ok body).requestId = id := rfl
  obtain ⟨hhead, hdrop, hothers⟩ := ticket_withoutHead hpipe hid
  have hticket := hsound.ticket id
  unfold Client.readResponse
  split
  · next hov =>
    have hov : (client.ticket id).overflowed := hov
    refine hsound.of_ticket id rfl hsound.fresh ?_ ?_
    · intro other hne
      rw [ticket_discardOverflowed, if_neg hne, hothers other hne]
    · rw [ticket_discardOverflowed, if_pos rfl, hdrop]
      apply hticket.readResponse hhead
      · exact ⟨rfl, rfl, rfl, rfl, rfl⟩
      · exact .inl ⟨hov, not_false, rfl, rfl⟩
  · next hov =>
    have hov : ¬(client.ticket id).overflowed := hov
    split
    · next hexp =>
      have hexp : (client.ticket id).expired := hexp
      refine hsound.of_ticket id rfl hsound.fresh ?_ ?_
      · intro other hne
        rw [ticket_discardExpired, if_neg hne, hothers other hne]
      · rw [ticket_discardExpired, if_pos rfl, hdrop]
        apply hticket.readResponse hhead
        · exact ⟨rfl, rfl, rfl, rfl, rfl⟩
        · exact .inr (.inl ⟨hov, hexp, hov, not_false, rfl⟩)
    · next hexp =>
      have hexp : ¬(client.ticket id).expired := hexp
      refine hsound.of_ticket id rfl hsound.fresh ?_ ?_
      · intro other hne
        rw [ticket_putResponse, if_neg hne, hothers other hne]
      · rw [ticket_putResponse, if_pos rfl, hdrop]
        apply hticket.readResponse hhead
        · exact ⟨rfl, rfl, rfl, rfl, rfl⟩
        · exact .inr (.inr ⟨hov, hexp, hov, hexp, rfl⟩)

theorem Sound.readItem (hsound : client.Sound) {size : ℕ} {body : String}
    (hpipe : client.pipe = .streamItem id size body :: rest)
    (hroom : client.bufferFull id size = true → client.toCome id = true) :
    (({ client with pipe := rest } : Client).readItem id size body).Sound := by
  have hid : (HostMessage.streamItem id size body).requestId = id := rfl
  obtain ⟨hhead, hdrop, hothers⟩ := ticket_withoutHead hpipe hid
  have hticket := hsound.ticket id
  unfold Client.readItem
  split
  · next hov =>
    have hov : (client.ticket id).overflowed := hov
    refine hsound.of_ticket id rfl hsound.fresh ?_ ?_
    · exact hothers
    · rw [hdrop]
      apply hticket.readItem hhead
      · exact ⟨rfl, rfl, rfl, rfl⟩
      · exact .inl ⟨.inl hov, rfl, rfl, rfl, rfl⟩
  · next hov =>
    have hov : ¬(client.ticket id).overflowed := hov
    split
    · next hexp =>
      have hexp : (client.ticket id).expired := hexp
      refine hsound.of_ticket id rfl hsound.fresh ?_ ?_
      · exact hothers
      · rw [hdrop]
        apply hticket.readItem hhead
        · exact ⟨rfl, rfl, rfl, rfl⟩
        · exact .inl ⟨.inr hexp, rfl, rfl, rfl, rfl⟩
    · next hexp =>
      have hexp : ¬(client.ticket id).expired := hexp
      split
      · next hfull =>
        refine hsound.of_ticket id rfl hsound.fresh ?_ ?_
        · intro other hne
          simp [hne, hothers other hne]
        · simp only [ticket_putResponse, ticket_popBytes, ticket_popEvents,
            ticket_addOverflowed, if_true, hdrop]
          apply hticket.readItem hhead
          · exact ⟨rfl, rfl, rfl, rfl⟩
          · exact .inr (.inl ⟨hov, hexp, trivial, rfl, rfl, rfl,
            toCome_iff.mp (hroom hfull)⟩)
      · refine hsound.of_ticket id rfl hsound.fresh ?_ ?_
        · intro other hne
          simp [hne, hothers other hne]
        · simp only [ticket_putEvents, ticket_putBytes, if_true, hdrop]
          apply hticket.readItem hhead
          · exact ⟨rfl, rfl, rfl, rfl⟩
          · exact .inr (.inr ⟨hov, hexp, hov, rfl, rfl⟩)

theorem Sound.emitMessage (hsound : client.Sound)
    (hmay : client.mayEmit message = true) :
    (client.emitMessage message).Sound := by
  unfold mayEmit at hmay
  simp only [Bool.and_eq_true, decide_eq_true_eq] at hmay
  obtain ⟨⟨halive, hopen⟩, hmay⟩ := hmay
  split at hmay
  · cases hmay
  · next request hrequest =>
    simp only [Bool.and_eq_true, Bool.or_eq_true, decide_eq_true_eq] at hmay
    obtain ⟨hsent, hkind⟩ := hmay
    have hticket := hsound.ticket message.requestId
    rw [halive] at hticket
    refine hsound.of_ticket message.requestId rfl hsound.fresh ?_ ?_
    · intro other hne
      rw [ticket_emitMessage, if_neg hne]
    · rw [ticket_emitMessage, if_pos rfl, halive]
      apply hticket.emit hopen hrequest hsent hkind
      · exact ⟨rfl, rfl, rfl, rfl, rfl, rfl⟩
      · rfl
      · rfl

theorem Sound.hostDies (hsound : client.Sound)
    (hmarks : client.expiredRequests ∪ client.overflowedStreams ⊆
      client.answered) :
    ({ client with processAlive := false } : Client).Sound := by
  constructor
  · intro id
    show (client.ticket id).Sound false id
    apply (hsound.ticket id).hostDies
    intro hmark
    apply hmarks
    exact Finset.mem_union.mpr hmark
  · exact hsound.fresh

theorem lateResponse_of_tidy
    (hrequest : client.requests.lookup id = some request)
    (hkind : request.kind = .plain)
    (hprogress : request.progress = .waiting started)
    (hok : client.tidy (.wake id deadlinePassed) = true)
    (hnone : client.responses.lookup id = none) :
    if deadlinePassed then client.toCome id = true
    else client.processAlive = true ∨ id ∉ client.answered := by
  obtain ⟨kind, progress, received⟩ := request
  cases hkind
  cases hprogress
  have habsent : id ∉ client.responses := AList.lookup_eq_none.mp hnone
  simp only [tidy, hrequest, Bool.or_eq_true, decide_eq_true_eq] at hok
  cases hok with
  | inl hmem => exact absurd hmem habsent
  | inr hlate =>
    cases deadlinePassed with
    | true => exact hlate
    | false => simpa using hlate

theorem Sound.wake (hsound : client.Sound)
    (hrequest : client.requests.lookup id = some request)
    (hok : client.tidy (.wake id deadlinePassed) = true)
    (hstep : client.wake id request deadlinePassed = some t) : t.Sound := by
  unfold Client.wake at hstep
  split at hstep
  · next hkind hprogress =>
    cases hstep
    apply hsound.waitResponse hrequest hkind hprogress
    exact lateResponse_of_tidy hrequest hkind hprogress hok
  · next hkind hprogress =>
    cases hstep
    exact hsound.nextItem hrequest hkind hprogress
  · cases hstep

theorem Sound.readMessage (hsound : client.Sound)
    (hpipe : client.pipe = message :: rest) (hok : client.tidy .read = true) :
    (client.readMessage message rest).Sound := by
  cases message with
  | response id ok body => exact hsound.readResponse hpipe
  | streamItem id size body =>
    apply hsound.readItem hpipe
    intro hfull
    simpa [tidy, hpipe, hfull] using hok

theorem Sound.step {label : ClientLabel} (hsound : client.Sound)
    (hok : client.tidy label = true) (hstep : client.step label = some t) :
    t.Sound := by
  cases label with
  | request kind =>
    cases hstep
    exact hsound.takeId kind
  | put id accepted =>
    simp only [Client.step] at hstep
    split at hstep
    · cases hstep
    · next request hrequest =>
      split at hstep
      · next hprogress =>
        cases hstep
        exact hsound.putRequest hrequest hprogress accepted
      · cases hstep
  | wake id deadlinePassed =>
    simp only [Client.step] at hstep
    split at hstep
    · cases hstep
    · next request hrequest => exact hsound.wake hrequest hok hstep
  | «finally» id =>
    simp only [Client.step] at hstep
    split at hstep
    · cases hstep
    · next request hrequest =>
      split at hstep
      · next completed outcome hprogress =>
        cases hstep
        apply hsound.cleanUp hrequest hprogress
        intro hfalse
        obtain ⟨kind, progress, received⟩ := request
        cases hprogress
        cases hfalse
        simpa [tidy, hrequest] using hok
      · cases hstep
  | abandon id =>
    simp only [Client.step] at hstep
    split at hstep
    · cases hstep
    · next request hrequest =>
      apply hsound.abandonIterator hrequest
      · intro hprogress
        obtain ⟨kind, progress, received⟩ := request
        cases hprogress
        simpa [tidy, hrequest] using hok
      · exact hstep
  | read =>
    simp only [Client.step] at hstep
    split at hstep
    · next message rest hopen hpipe =>
      cases hstep
      exact hsound.readMessage hpipe hok
    · cases hstep
  | emit message =>
    simp only [Client.step] at hstep
    split at hstep
    · next hmay =>
      cases hstep
      exact hsound.emitMessage hmay
    · cases hstep
  | hostDies =>
    cases hstep
    apply hsound.hostDies
    simpa [tidy] using hok
  | close =>
    cases hstep
    exact ⟨hsound.ticket, hsound.fresh⟩

theorem Sound.initial : Client.initial.Sound := by
  constructor
  · intro id
    constructor
    · apply Ticket.PipeShape.items
      · intro message hmem
        cases hmem
      · exact fun _ => rfl
    · intro _
      exact ⟨rfl, rfl, rfl, Finset.notMem_empty id, Finset.notMem_empty id, rfl,
        Finset.notMem_empty id⟩
    · intro request hrequest
      cases hrequest
    · intro request hrequest
      cases hrequest
  · intro _ _
    rfl

end Client

end PycloudParallel.ExecutorClient
