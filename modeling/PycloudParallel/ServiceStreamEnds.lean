import PycloudParallel.ServiceStreamModel
import Mathlib.Logic.Encodable.Basic
import Mathlib.Logic.Equiv.List

/-!
# How the streams of a service end

The caller's iterator should end normally exactly when it got a done event with
`ok`, and should have yielded the values of the items it got.  An end of file
is not told from a done event by the two readers of lines.
-/

namespace PycloudParallel.ServiceStream

variable {β γ : Type*}

def ItemCodec.read (codec : ItemCodec β γ) (data : β) : Except String γ :=
  (codec.restore data).bind codec.value

def ItemCodec.relay (codec : ItemCodec β γ) (data : β) : Except String β :=
  (codec.restore data).bind codec.attach

def endsReading (value : β → Except String γ) : StreamEvent β → Bool
  | .item data => !(value data).isOk
  | .done _ _ => true

def beforeEnd (value : β → Except String γ) : List (StreamEvent β) → List (StreamEvent β)
  | [] => []
  | event :: rest =>
    if endsReading value event then [event] else event :: beforeEnd value rest

def itemValue (value : β → Except String γ) : StreamEvent β → Option γ
  | .item data => (value data).toOption
  | .done _ _ => none

structure Truthful (value : β → Except String γ) (received : List (StreamEvent β))
    (consumed : Consumed γ) : Prop where
  ending : consumed.ending = .returned ↔
    ∃ error, StreamEvent.done true error ∈ beforeEnd value received
  yielded : consumed.yielded = (beforeEnd value received).filterMap (itemValue value)

/-- What the caller receives is what the node sent, event by event, cut
somewhere or ended by an event that reports a failure. -/
inductive Relayed (relay : β → Except String β) :
    List (StreamEvent β) → List (StreamEvent β) → Prop
  | cut (sent) : Relayed relay sent []
  | failed (sent error) : Relayed relay sent [.done false error]
  | item {data data' sent received} : relay data = .ok data' →
      Relayed relay sent received →
      Relayed relay (.item data :: sent) (.item data' :: received)
  | done (ok error sent) : Relayed relay (.done ok error :: sent) [.done ok error]

/-- The bytes that came show where the stream ends: with a done event or an item
without a value, or inside a text. -/
def endShown (value : β → Except String γ) (format : ObjectText (StreamEvent β))
    (events : List (StreamEvent β)) (cut : ℕ) : Bool :=
  (wholeEntries format events cut).any (endsReading value) ||
    cutInside format events cut

def lastReceived (value : β → Except String γ) (size : StreamEvent β → ℕ)
    (received : List (StreamEvent β)) (refreshed : RefreshedMetadata β) :
    List (StreamEvent β) :=
  if received.any (endsReading value) then received
  else
    match refreshed with
    | .unreadable | .sameToken => received
    | .replaced events cut => wholeMessages size events cut

def noneRepeated (value : β → Except String γ) (received : List (StreamEvent β)) :
    RefreshedMetadata β → Bool
  | .unreadable | .sameToken => true
  | .replaced _ _ => received.any (endsReading value) || received.isEmpty

section

variable {value : β → Except String γ} {received : List (StreamEvent β)}

theorem beforeEnd_append_of_any (hend : received.any (endsReading value) = true)
    (rest : List (StreamEvent β)) :
    beforeEnd value (received ++ rest) = beforeEnd value received := by
  induction received with
  | nil => simp at hend
  | cons event received ih =>
    rw [List.cons_append, beforeEnd, beforeEnd]
    by_cases hevent : endsReading value event = true
    · rw [if_pos hevent, if_pos hevent]
    · rw [if_neg hevent, if_neg hevent]
      simp only [List.any_cons, hevent, Bool.false_or] at hend
      rw [ih hend]

theorem beforeEnd_append_of_not_any
    (hend : ¬ received.any (endsReading value) = true) (rest : List (StreamEvent β)) :
    beforeEnd value (received ++ rest) = received ++ beforeEnd value rest := by
  induction received with
  | nil => rfl
  | cons event received ih =>
    simp only [List.any_cons, Bool.or_eq_true, not_or] at hend
    rw [List.cons_append, beforeEnd, if_neg hend.1, ih hend.2, List.cons_append]

theorem any_of_done_mem_beforeEnd {ok : Bool} {error : Option String}
    (hdone : StreamEvent.done ok error ∈ beforeEnd value received) :
    received.any (endsReading value) = true := by
  by_contra hend
  have hall := beforeEnd_append_of_not_any hend []
  rw [List.append_nil, beforeEnd, List.append_nil] at hall
  rw [hall] at hdone
  exact hend (List.any_eq_true.mpr ⟨_, hdone, rfl⟩)

end

section

variable (codec : ItemCodec β γ)

theorem yield_yielded (value : γ) (rest : Consumed γ) :
    (rest.yield value).yielded = value :: rest.yielded := rfl

theorem yield_ending (value : γ) (rest : Consumed γ) :
    (rest.yield value).ending = rest.ending := rfl

/-- The caller's loop over some events: it yields the values of what is received
before the end, and an end of the events counts as a good end. -/
theorem consumeEvents_spec (error : Option String) (events : List (StreamEvent β)) :
    (consumeEvents codec error events).yielded =
        (beforeEnd codec.value events).filterMap (itemValue codec.value) ∧
      ((consumeEvents codec error events).ending = .returned ↔
        (∃ text, StreamEvent.done true text ∈ beforeEnd codec.value events) ∨
          events.any (endsReading codec.value) = false ∧ error = none) := by
  induction events with
  | nil => cases error <;> simp [consumeEvents, beforeEnd]
  | cons event events ih =>
    cases event with
    | done ok text =>
      cases ok <;> simp [consumeEvents, beforeEnd, endsReading, itemValue]
    | item data =>
      cases hvalue : codec.value data with
      | error text =>
        simp [consumeEvents, beforeEnd, endsReading, itemValue, hvalue,
          Except.isOk, Except.toBool, Except.toOption]
      | ok value =>
        have hgoes : endsReading codec.value (.item data) = false := by
          simp [endsReading, hvalue, Except.isOk, Except.toBool]
        have hitem : itemValue codec.value (.item data) = some value := by
          simp [itemValue, hvalue, Except.toOption]
        rw [consumeEvents, hvalue, beforeEnd]
        simp [hgoes, yield_yielded, yield_ending, hitem, ih.1, ih.2]

theorem truthful_consumeEvents (error : Option String) (events : List (StreamEvent β)) :
    Truthful codec.value events (consumeEvents codec error events) ↔
      events.any (endsReading codec.value) = true ∨ error ≠ none := by
  obtain ⟨hyielded, hending⟩ := consumeEvents_spec codec error events
  constructor
  · intro htruthful
    by_contra hopen
    rw [not_or, Bool.not_eq_true, not_not] at hopen
    obtain ⟨text, hdone⟩ := htruthful.ending.mp (hending.mpr (Or.inr hopen))
    have hend := any_of_done_mem_beforeEnd hdone
    rw [hopen.1] at hend
    cases hend
  · intro hshown
    refine ⟨hending.trans (or_iff_left ?_), hyielded⟩
    rintro ⟨hnone, hclean⟩
    cases hshown with
    | inl hend =>
      rw [hnone] at hend
      cases hend
    | inr hraised => exact hraised hclean

def ItemCodec.direct : ItemCodec β γ :=
  { codec with value := codec.read }

theorem consume_restoreEvents (invalid : Bool) (received : List (StreamEvent β)) :
    (restoreEvents codec invalid received).consume codec =
      consumeEvents codec.direct
        (if invalid then some "invalid stream event" else none) received := by
  induction received with
  | nil => rfl
  | cons event received ih =>
    cases event with
    | done ok error => cases ok <;> rfl
    | item data =>
      have hdirect : codec.direct.value data =
          (codec.restore data).bind codec.value := rfl
      rw [restoreEvents, consumeEvents, hdirect]
      cases hrestore : codec.restore data with
      | error error => rfl
      | ok restored =>
        simp only [Except.bind]
        rw [Upstream.consume, consumeEvents]
        cases hvalue : codec.value restored with
        | error error => rfl
        | ok value =>
          rw [← ih]
          rfl

theorem discoveryStreamCall_eq (format : ObjectText (StreamEvent β))
    (events : List (StreamEvent β)) (cut : ℕ) :
    discoveryStreamCall codec format events cut =
      consumeEvents codec.direct
        (if cutInside format events cut then some "invalid stream event" else none)
        (wholeEntries format events cut) := by
  unfold discoveryStreamCall iterRouteHttpStream
  rw [ObjectText.readObjects_take]
  exact consume_restoreEvents codec _ _

theorem truthful_discoveryStreamCall (format : ObjectText (StreamEvent β))
    (events : List (StreamEvent β)) (cut : ℕ) :
    Truthful codec.read (wholeEntries format events cut)
        (discoveryStreamCall codec format events cut) ↔
      endShown codec.read format events cut = true := by
  rw [discoveryStreamCall_eq, endShown, Bool.or_eq_true]
  refine (truthful_consumeEvents codec.direct _ _).trans (or_congr_right ?_)
  cases cutInside format events cut <;> simp

end

section

variable (codec : ItemCodec β γ)

theorem relayed_forward_restoreEvents (invalid : Bool)
    (received : List (StreamEvent β)) :
    Relayed codec.relay received
      ((restoreEvents codec invalid received).forward codec) := by
  induction received with
  | nil => cases invalid <;> exact Relayed.failed _ _
  | cons event received ih =>
    cases event with
    | done ok error => exact Relayed.done _ _ _
    | item data =>
      rw [restoreEvents]
      cases hrestore : codec.restore data with
      | error error => exact Relayed.failed _ _
      | ok restored =>
        simp only
        rw [Upstream.forward, forwardEvents]
        cases hattach : codec.attach restored with
        | error error => exact Relayed.failed _ _
        | ok sent =>
          refine Relayed.item ?_ ih
          rw [ItemCodec.relay, hrestore]
          exact hattach

theorem Relayed.of_prefix {relay : β → Except String β}
    {sent received front : List (StreamEvent β)} (hrelayed : Relayed relay sent received)
    (hfront : front <+: received) : Relayed relay sent front := by
  induction hrelayed generalizing front with
  | cut sent =>
    rw [List.prefix_nil.mp hfront]
    exact Relayed.cut _
  | failed sent error =>
    cases front with
    | nil => exact Relayed.cut _
    | cons event front =>
      rw [List.cons_prefix_cons] at hfront
      rw [hfront.1, List.prefix_nil.mp hfront.2]
      exact Relayed.failed _ _
  | done ok error sent =>
    cases front with
    | nil => exact Relayed.cut _
    | cons event front =>
      rw [List.cons_prefix_cons] at hfront
      rw [hfront.1, List.prefix_nil.mp hfront.2]
      exact Relayed.done _ _ _
  | item hrelay _ ih =>
    cases front with
    | nil => exact Relayed.cut _
    | cons event front =>
      rw [List.cons_prefix_cons] at hfront
      rw [hfront.1]
      exact Relayed.item hrelay (ih hfront.2)

theorem wholeEntries_isInitial {ε : Type*} (format : ObjectText ε) (entries : List ε)
    (cut : ℕ) : wholeEntries format entries cut <+: entries := by
  induction entries generalizing cut with
  | nil => exact List.nil_prefix
  | cons entry rest ih =>
    rw [wholeEntries]
    split
    · exact (List.prefix_cons_inj entry).mpr (ih _)
    · exact List.nil_prefix

theorem relayed_gatewayEvents (format : ObjectText (StreamEvent β))
    (events : List (StreamEvent β)) (nodeCut gatewayCut : ℕ) :
    Relayed codec.relay (wholeEntries format events nodeCut)
      (wholeEntries format (gatewayEvents codec format events nodeCut) gatewayCut) := by
  have hwhole : Relayed codec.relay (wholeEntries format events nodeCut)
      (gatewayEvents codec format events nodeCut) := by
    unfold gatewayEvents iterRouteHttpStream
    rw [ObjectText.readObjects_take]
    exact relayed_forward_restoreEvents codec _ _
  exact hwhole.of_prefix (wholeEntries_isInitial format _ _)

end

section

variable (codec : ItemCodec β γ)

theorem streamOnce_error_eq_none (received : List (StreamEvent β)) :
    (streamOnce received).error = none ↔ received.any StreamEvent.isDone = true := by
  induction received with
  | nil => simp [streamOnce]
  | cons event received ih =>
    cases event with
    | item data => simpa [streamOnce, StreamEvent.isDone] using ih
    | done ok error => simp [streamOnce, StreamEvent.isDone]

theorem any_endsReading_of_any_isDone {value : β → Except String γ}
    {received : List (StreamEvent β)}
    (hdone : received.any StreamEvent.isDone = true) :
    received.any (endsReading value) = true := by
  rw [List.any_eq_true] at hdone ⊢
  obtain ⟨event, hmem, hevent⟩ := hdone
  cases event with
  | item data => cases hevent
  | done ok error => exact ⟨_, hmem, rfl⟩

theorem streamOnce_events_of_error {received : List (StreamEvent β)} {text : String}
    (herror : (streamOnce received).error = some text) :
    (streamOnce received).events = received := by
  induction received with
  | nil => rfl
  | cons event received ih =>
    cases event with
    | done ok error => cases herror
    | item data =>
      rw [streamOnce]
      exact congrArg _ (ih herror)

theorem consumeEvents_streamOnce (error : Option String)
    (front received : List (StreamEvent β)) :
    consumeEvents codec error (front ++ (streamOnce received).events) =
      consumeEvents codec error (front ++ received) := by
  induction front with
  | nil =>
    rw [List.nil_append, List.nil_append]
    induction received with
    | nil => rfl
    | cons event received ih =>
      cases event with
      | done ok error => cases ok <;> rfl
      | item data =>
        rw [streamOnce]
        simp only [consumeEvents, ih]
  | cons event front ih =>
    cases event with
    | done ok error => cases ok <;> rfl
    | item data => simp only [List.cons_append, consumeEvents, ih]

theorem Truthful.congr {value : β → Except String γ}
    {received received' : List (StreamEvent β)} {consumed : Consumed γ}
    (hsame : beforeEnd value received = beforeEnd value received')
    (htruthful : Truthful value received consumed) :
    Truthful value received' consumed := by
  refine ⟨?_, ?_⟩
  · rw [← hsame]
    exact htruthful.ending
  · rw [← hsame]
    exact htruthful.yielded

theorem truthful_localStreamCall (size : StreamEvent β → ℕ)
    (events : List (StreamEvent β)) (cut : ℕ) (refreshed : RefreshedMetadata β) :
    Truthful codec.value (wholeMessages size events cut ++ refreshed.received size)
      (localStreamCall codec size events cut refreshed) := by
  unfold localStreamCall localClientStream
  generalize wholeMessages size events cut = received
  have hfirst (error : Option String) :
      consumeEvents codec error (streamOnce received).events =
        consumeEvents codec error received :=
    consumeEvents_streamOnce codec error [] received
  cases herror : (streamOnce received).error with
  | none =>
    have hend : received.any (endsReading codec.value) = true :=
      any_endsReading_of_any_isDone ((streamOnce_error_eq_none received).mp herror)
    refine Truthful.congr (beforeEnd_append_of_any hend _).symm ?_
    simp only [Upstream.consume]
    rw [hfirst]
    exact (truthful_consumeEvents codec _ _).mpr (Or.inl hend)
  | some text =>
    cases refreshed with
    | unreadable | sameToken =>
      simp only [Upstream.consume, RefreshedMetadata.received, List.append_nil]
      rw [hfirst]
      exact (truthful_consumeEvents codec _ _).mpr (Or.inr (Option.some_ne_none _))
    | replaced events' cut' =>
      simp only [Upstream.consume, RefreshedMetadata.received]
      rw [streamOnce_events_of_error herror, consumeEvents_streamOnce]
      apply (truthful_consumeEvents codec _ _).mpr
      cases hsecond : (streamOnce (wholeMessages size events' cut')).error with
      | some error => exact Or.inr (Option.some_ne_none _)
      | none =>
        left
        rw [List.any_append, Bool.or_eq_true]
        right
        exact any_endsReading_of_any_isDone
          ((streamOnce_error_eq_none _).mp hsecond)

end

section

variable (codec : ItemCodec β γ)

theorem filterMap_itemValue_length {value : β → Except String γ}
    {received : List (StreamEvent β)}
    (hopen : ¬ received.any (endsReading value) = true) :
    (received.filterMap (itemValue value)).length = received.length := by
  induction received with
  | nil => rfl
  | cons event received ih =>
    simp only [List.any_cons, Bool.or_eq_true, not_or] at hopen
    cases event with
    | done ok error => exact absurd rfl hopen.1
    | item data =>
      cases hvalue : value data with
      | error error =>
        simp [endsReading, hvalue, Except.isOk, Except.toBool] at hopen
      | ok item =>
        have hitem : itemValue value (.item data) = some item := by
          simp [itemValue, hvalue, Except.toOption]
        rw [List.filterMap_cons, hitem]
        exact congrArg Nat.succ (ih hopen.2)

theorem truthful_localStreamCall_last (size : StreamEvent β → ℕ)
    (events : List (StreamEvent β)) (cut : ℕ) (refreshed : RefreshedMetadata β) :
    Truthful codec.value
        (lastReceived codec.value size (wholeMessages size events cut) refreshed)
        (localStreamCall codec size events cut refreshed) ↔
      noneRepeated codec.value (wholeMessages size events cut) refreshed = true := by
  have htruthful := truthful_localStreamCall codec size events cut refreshed
  generalize wholeMessages size events cut = received at htruthful ⊢
  generalize localStreamCall codec size events cut refreshed = consumed at htruthful ⊢
  unfold lastReceived
  by_cases hend : received.any (endsReading codec.value) = true
  · rw [if_pos hend]
    have hnone : noneRepeated codec.value received refreshed = true := by
      cases refreshed <;> simp [noneRepeated, hend]
    exact iff_of_true (htruthful.congr (beforeEnd_append_of_any hend _)) hnone
  · rw [if_neg hend]
    cases refreshed with
    | unreadable | sameToken =>
      rw [RefreshedMetadata.received, List.append_nil] at htruthful
      exact iff_of_true htruthful rfl
    | replaced events' cut' =>
      simp only [RefreshedMetadata.received] at htruthful
      simp only [noneRepeated, hend, Bool.false_or]
      constructor
      · intro hlast
        have hsame := hlast.yielded
        rw [htruthful.yielded, beforeEnd_append_of_not_any hend,
          List.filterMap_append] at hsame
        have hlength := congrArg List.length hsame
        rw [List.length_append, filterMap_itemValue_length hend] at hlength
        have hnone : received.length = 0 := by omega
        rw [List.length_eq_zero_iff.mp hnone]
        rfl
      · intro hnone
        rw [List.isEmpty_iff.mp hnone, List.nil_append] at htruthful
        exact htruthful

end

section

variable (codec : ItemCodec β γ)

/-- When the ends of the three routes can be trusted: a reader of lines must not
meet an end of file between two lines before it has met the end of the stream. -/
theorem stream_call_truthful (format : ObjectText (StreamEvent β))
    (size : StreamEvent β → ℕ) (events : List (StreamEvent β))
    (nodeCut gatewayCut : ℕ) (refreshed : RefreshedMetadata β) :
    (Truthful codec.read (wholeEntries format events nodeCut)
        (discoveryStreamCall codec format events nodeCut) ↔
      endShown codec.read format events nodeCut = true) ∧
    ((Relayed codec.relay (wholeEntries format events nodeCut)
          (wholeEntries format (gatewayEvents codec format events nodeCut)
            gatewayCut) ∧
        Truthful codec.read
          (wholeEntries format (gatewayEvents codec format events nodeCut) gatewayCut)
          (gatewayStreamCall codec format events nodeCut gatewayCut)) ↔
      endShown codec.read format (gatewayEvents codec format events nodeCut)
        gatewayCut = true) ∧
    Truthful codec.value
      (wholeMessages size events nodeCut ++ refreshed.received size)
      (localStreamCall codec size events nodeCut refreshed) ∧
    (Truthful codec.value
        (lastReceived codec.value size (wholeMessages size events nodeCut) refreshed)
        (localStreamCall codec size events nodeCut refreshed) ↔
      noneRepeated codec.value (wholeMessages size events nodeCut) refreshed =
        true) := by
  refine ⟨truthful_discoveryStreamCall codec format events nodeCut, ?_,
    truthful_localStreamCall codec size events nodeCut refreshed,
    truthful_localStreamCall_last codec size events nodeCut refreshed⟩
  have hrelayed := relayed_gatewayEvents codec format events nodeCut gatewayCut
  rw [and_iff_right hrelayed]
  exact truthful_discoveryStreamCall codec format _ gatewayCut

end

section

def StreamEvent.toSum : StreamEvent ℕ → ℕ ⊕ Bool × Option (List ℕ)
  | .item data => .inl data
  | .done ok error => .inr (ok, error.map fun text => text.toList.map Char.toNat)

def StreamEvent.ofSum : ℕ ⊕ Bool × Option (List ℕ) → StreamEvent ℕ
  | .inl data => .item data
  | .inr (ok, error) =>
    .done ok (error.map fun codes => String.ofList (codes.map Char.ofNat))

instance : Encodable (StreamEvent ℕ) :=
  Encodable.ofLeftInverse StreamEvent.toSum StreamEvent.ofSum fun event => by
    cases event with
    | item data => rfl
    | done ok error =>
      cases error with
      | none => rfl
      | some text =>
        simp [StreamEvent.toSum, StreamEvent.ofSum, Function.comp_def]

def textBytes (text : String) : List UInt8 :=
  text.toList.map fun letter => UInt8.ofNat letter.toNat

def itemBody : List UInt8 :=
  textBytes "\"event\": \"item\", \"index\": 0, \"data\": 7"

def doneBody : List UInt8 :=
  textBytes "\"event\": \"done\", \"ok\": true, \"item_count\": 1"

def sampleBody (event : StreamEvent ℕ) : List UInt8 :=
  if event = .item 7 then itemBody
  else if event = .done true none then doneBody
  else List.replicate (Encodable.encode event) 49

def sampleParse (body : List UInt8) : Option (StreamEvent ℕ) :=
  if body = itemBody then some (.item 7)
  else if body = doneBody then some (.done true none)
  else Encodable.decode body.length

theorem replicate_ne_itemBody (count : ℕ) : List.replicate count 49 ≠ itemBody := by
  intro hsame
  have hmem : 34 ∈ List.replicate count (49 : UInt8) := by
    rw [hsame]
    decide
  cases List.eq_of_mem_replicate hmem

theorem replicate_ne_doneBody (count : ℕ) : List.replicate count 49 ≠ doneBody := by
  intro hsame
  have hmem : 34 ∈ List.replicate count (49 : UInt8) := by
    rw [hsame]
    decide
  cases List.eq_of_mem_replicate hmem

def sampleFormat : ObjectText (StreamEvent ℕ) :=
  ObjectText.flat sampleBody sampleParse
    (fun event => by
      unfold sampleBody
      split
      · next hitem => rw [hitem]; decide
      · split
        · next hdone => rw [hdone]; decide
        · simp [sampleParse, replicate_ne_itemBody, replicate_ne_doneBody])
    (fun event => by
      unfold sampleBody
      split
      · decide
      · split
        · decide
        · simp)
    (fun event => by
      unfold sampleBody
      split
      · decide
      · split
        · decide
        · simp)

def sampleCodec : ItemCodec ℕ ℕ where
  restore := .ok
  attach := .ok
  value := .ok

/-- A node that dies behind its first item looks like one that has finished. -/
theorem truncated_stream_returns :
    (discoveryStreamCall sampleCodec sampleFormat [.item 7, .done true none] 41).ending =
      .returned ∧
    wholeEntries sampleFormat [.item 7, .done true none] 41 = [.item 7] ∧
    ¬ Truthful sampleCodec.read
      (wholeEntries sampleFormat [.item 7, .done true none] 41)
      (discoveryStreamCall sampleCodec sampleFormat [.item 7, .done true none] 41) := by
  have hwhole : wholeEntries sampleFormat [.item 7, .done true none] 41 = [.item 7] := by
    decide +kernel
  have hcut : cutInside sampleFormat [.item 7, .done true none] 41 = false := by
    decide +kernel
  have hreturned : (discoveryStreamCall sampleCodec sampleFormat
      [.item 7, .done true none] 41).ending = .returned := by
    rw [discoveryStreamCall_eq, hwhole, hcut]
    rfl
  refine ⟨hreturned, hwhole, ?_⟩
  intro htruthful
  obtain ⟨error, hdone⟩ := htruthful.ending.mp hreturned
  rw [hwhole] at hdone
  cases hdone with
  | tail _ hrest => cases hrest

end

end PycloudParallel.ServiceStream
