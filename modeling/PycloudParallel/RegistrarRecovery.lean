import PycloudParallel.RegistrarModel

/-!
# Recovery of a lost record

The InfoCenter makes a record of every heartbeat of an unknown node, and only a
registration gives it the values of the node.  Where no heartbeat is handled on
such a record, two accepted exchanges after a loss are enough for a full one.
-/

namespace PycloudParallel.Registrar

open OrderedDict

namespace System

variable {ι : Type*}

/-- A heartbeat finds no record, or one with the values of the node, and with
an inventory unless it brings one. -/
def keepsRecord (system : System ι) : Label ι → Bool
  | .store request =>
    match system.requests.lookup request, system.record with
    | some ⟨.heartbeat inventory, .looked _⟩, some record =>
      record.hasIdentity system.identity &&
        (inventory.isSome || record.inventory.isSome)
    | _, _ => true
  | _ => true

/-- The InfoCenter has the values of the node and an inventory that the node
has had. -/
def HasFullRecord (system : System ι) : Prop :=
  ∃ record, system.record = some record ∧
    record.hasIdentity system.identity = true ∧
    ∃ inventory ∈ system.history, record.inventory = some inventory

structure RecordSide (ι : Type*) where
  identity : NodeIdentity
  inventory : Inventory ι
  requests : OrderedDict ℕ (Request ι)
  record : Option (NodeRecord ι)
  history : List (Inventory ι)
  era : ℕ
  answers : List Bool

def recordSide (system : System ι) : RecordSide ι where
  identity := system.identity
  inventory := system.inventory
  requests := system.requests
  record := system.record
  history := system.history
  era := system.era
  answers := system.answers

end System

def Request.accepted {ι : Type*} (era : ℕ) (request : Request ι) : ℕ :=
  match request.stage with
  | .replied ⟨true, _⟩ given => if given = era then 1 else 0
  | _ => 0

namespace System

variable {ι : Type*} {system after : System ι} {identity : NodeIdentity}

/-- How many exchanges were handled and accepted since the latest loss, the
answers that are still under way among them. -/
def handled (system : System ι) : ℕ :=
  system.answers.count true +
    system.requests.total (Request.accepted system.era)

structure RecordSound (system : System ι) (identity : NodeIdentity) : Prop where
  own : system.identity = identity
  current : system.inventory ∈ system.history
  sent : ∀ request entry inventory, system.requests.lookup request = some entry →
    entry.body.inventory? = some inventory → inventory ∈ system.history
  given : ∀ request entry reply era, system.requests.lookup request = some entry →
    entry.stage = .replied reply era → era ≤ system.era
  known : ∀ record inventory, system.record = some record →
    record.inventory = some inventory → inventory ∈ system.history
  absent : system.record = none → system.handled = 0
  full : system.HasFullRecord ∨ system.handled ≤ 1

theorem RecordSound.congr (hsound : system.RecordSound identity)
    (hsame : after.recordSide = system.recordSide) : after.RecordSound identity := by
  obtain ⟨identity, inventory, _, _, _, _, _, _, _, requests, record, history, _,
    _, _, era, answers⟩ := after
  cases hsame
  exact ⟨hsound.own, hsound.current, hsound.sent, hsound.given, hsound.known, hsound.absent,
    hsound.full⟩

section

variable (system : System ι) (thread : ℕ)

@[simp] theorem recordSide_continueWith (next : Continuation) :
    (system.continueWith thread next).recordSide = system.recordSide := by
  cases next <;> rfl

@[simp] theorem recordSide_handleSyncException (error : ExchangeError)
    (wasRegistered : Bool) (next : Continuation) :
    (system.handleSyncException thread error wasRegistered next).recordSide =
      system.recordSide := by
  unfold handleSyncException
  dsimp only
  split
  · rfl
  · rw [recordSide_continueWith]
    rfl

@[simp] theorem recordSide_drain (leaseExpired : Bool) (next : Continuation) :
    (system.drain thread leaseExpired next).recordSide = system.recordSide := by
  unfold drain
  split
  · exact recordSide_continueWith system thread next
  · split
    · rfl
    · rw [recordSide_continueWith]
      rfl

@[simp] theorem recordSide_consume (outcome : Outcome) (next : Continuation) :
    (system.consume thread outcome next).recordSide = system.recordSide := by
  unfold consume
  cases outcome with
  | returned =>
    dsimp only
    rw [recordSide_continueWith]
    rfl
  | raised error =>
    dsimp only
    rw [recordSide_handleSyncException]
    rfl

@[simp] theorem recordSide_decide (context : SyncContext) :
    (system.decide thread context).recordSide = system.recordSide := by
  unfold decide
  split
  · rfl
  · split <;> rfl

theorem recordSide_submit {system after : System ι} {thread background : ℕ}
    (hsubmit : system.submit thread background = some after) :
    after.recordSide = system.recordSide := by
  unfold submit at hsubmit
  dsimp only at hsubmit
  split at hsubmit
  · cases hsubmit
    rfl
  · split at hsubmit
    · cases hsubmit
    · cases hsubmit
      rfl

@[simp] theorem recordSide_returned (purpose : Purpose) :
    (system.returned thread purpose).recordSide = system.recordSide := by
  cases purpose with
  | reregister next => exact recordSide_continueWith system thread next
  | sync wasRegistered | background | final => rfl

@[simp] theorem recordSide_raised (error : ExchangeError) (purpose : Purpose) :
    (system.raised thread error purpose).recordSide = system.recordSide := by
  cases purpose with
  | reregister next => exact recordSide_continueWith system thread next
  | sync wasRegistered =>
    exact recordSide_handleSyncException system thread error wasRegistered _
  | background | final => rfl

@[simp] theorem recordSide_heartbeatAnswered (changes : Option ℕ)
    (inventoryRequired : Bool) :
    (system.heartbeatAnswered changes inventoryRequired).recordSide =
      system.recordSide := by
  unfold heartbeatAnswered
  split
  · rfl
  · cases changes <;> rfl

end

/-! ## What the exchanges do to the record -/

variable {era request : ℕ} {body : RequestBody ι}

theorem accepted_eq_zero {entry : Request ι}
    (hstage : ∀ given inventoryRequired,
      entry.stage ≠ .replied ⟨true, inventoryRequired⟩ given) :
    entry.accepted era = 0 := by
  unfold Request.accepted
  split
  · next hreply => exact absurd hreply (hstage _ _)
  · rfl

theorem RecordSound.noteAnswer (hsound : system.RecordSound identity) :
    (system.noteAnswer false).RecordSound identity := by
  have hhandled : (system.noteAnswer false).handled = system.handled := by
    unfold handled System.noteAnswer
    rw [List.count_append]
    rfl
  refine ⟨hsound.own, hsound.current, hsound.sent, hsound.given, hsound.known, ?_, ?_⟩
  · rw [hhandled]
    exact hsound.absent
  · rw [hhandled]
    exact hsound.full

theorem handled_noteReply {reply : Reply}
    (hlookup : system.requests.lookup request = some ⟨body, .replied reply era⟩)
    :
    ({ system with requests := system.requests.erase request }.noteReply
      reply era).handled = system.handled := by
  have htotal := total_erase (Request.accepted system.era)
    system.requests request
  rw [hlookup, Option.elim_some] at htotal
  obtain ⟨accepted, inventoryRequired⟩ := reply
  cases accepted with
  | false =>
    have hzero : Request.accepted system.era
        (⟨body, .replied ⟨false, inventoryRequired⟩ era⟩ : Request ι) = 0 := rfl
    rw [hzero] at htotal
    unfold handled noteReply System.noteAnswer
    rw [Bool.false_and, if_neg Bool.false_ne_true]
    dsimp only
    rw [List.count_append]
    have hcount : [false].count true = 0 := rfl
    omega
  | true =>
    have hmeasure : Request.accepted system.era
        (⟨body, .replied ⟨true, inventoryRequired⟩ era⟩ : Request ι) =
          if era = system.era then 1 else 0 := rfl
    rw [hmeasure] at htotal
    unfold handled noteReply System.noteAnswer
    by_cases hera : era = system.era
    · rw [if_neg (by simp [hera])]
      rw [if_pos hera] at htotal
      dsimp only
      rw [List.count_append]
      have hcount : [true].count true = 1 := rfl
      omega
    · rw [if_pos (by simp [hera])]
      rw [if_neg hera] at htotal
      dsimp only
      omega

section

variable (hsound : system.RecordSound identity)

include hsound

theorem RecordSound.erased {answers : List Bool}
    (herased : after = { system with
      requests := system.requests.erase request
      answers := answers })
    (habsent : system.record = none → after.handled = 0)
    (hfull : system.HasFullRecord ∨ after.handled ≤ 1) :
    after.RecordSound identity := by
  subst herased
  refine ⟨hsound.own, hsound.current, ?_, ?_, hsound.known, habsent, hfull⟩
  · intro other entry inventory hother
    exact hsound.sent other entry inventory (of_lookup_erase hother)
  · intro other entry reply given hother
    exact hsound.given other entry reply given (of_lookup_erase hother)

theorem RecordSound.noteReply {reply : Reply}
    (hlookup : system.requests.lookup request = some ⟨body, .replied reply era⟩)
    :
    ({ system with requests := system.requests.erase request }.noteReply
      reply era).RecordSound identity := by
  have hhandled := handled_noteReply hlookup
  have hside : ∃ answers, { system with
      requests := system.requests.erase request }.noteReply reply era =
        { system with
          requests := system.requests.erase request
          answers := answers } := by
    unfold System.noteReply
    split <;> exact ⟨_, rfl⟩
  obtain ⟨answers, hside⟩ := hside
  rw [hside] at hhandled ⊢
  apply hsound.erased rfl
  · rw [hhandled]
    exact hsound.absent
  · rw [hhandled]
    exact hsound.full

theorem RecordSound.setRequest {nextRequest : ℕ} {stage : RequestStage}
    (hstage : ∀ given inventoryRequired,
      stage ≠ .replied ⟨true, inventoryRequired⟩ given)
    (hgiven : ∀ reply era, stage = .replied reply era → era ≤ system.era)
    (hbody : ∀ inventory, body.inventory? = some inventory →
      inventory ∈ system.history) : ({ system with
      nextRequest := nextRequest
      requests := system.requests.set request ⟨body, stage⟩ } :
        System ι).RecordSound identity := by
  have htotal := total_set (Request.accepted system.era)
    system.requests request ⟨body, stage⟩
  have hzero : Request.accepted system.era (⟨body, stage⟩ : Request ι) = 0 :=
    accepted_eq_zero hstage
  have hhandled : ({ system with
      nextRequest := nextRequest
      requests := system.requests.set request ⟨body, stage⟩ } :
        System ι).handled ≤ system.handled := by
    unfold handled
    dsimp only
    omega
  refine ⟨hsound.own, hsound.current, ?_, ?_, hsound.known, ?_, ?_⟩
  · intro other entry inventory hother
    obtain ⟨rfl, rfl⟩ | hother := of_lookup_set hother
    · exact hbody inventory
    · exact hsound.sent other entry inventory hother
  · intro other entry reply given hother
    obtain ⟨rfl, rfl⟩ | hother := of_lookup_set hother
    · exact hgiven reply given
    · exact hsound.given other entry reply given hother
  · intro habsent
    have hnone := hsound.absent habsent
    omega
  · cases hsound.full with
    | inl hfull => exact .inl hfull
    | inr hone => exact .inr (by omega)

theorem RecordSound.storeRecord {record : NodeRecord ι}
    {inventory : Option (Inventory ι)} {inventoryRequired : Bool}
    (hbody : ∀ inventory, body.inventory? = some inventory →
      inventory ∈ system.history)
    (hknown : ∀ inventory, record.inventory = some inventory →
      inventory ∈ system.history)
    (hstored : system.record = none ∨
      record.hasIdentity system.identity = true ∧
        record.inventory.isSome = true) :
    ((system.storeRecord record inventory).setStage request body
      (.replied ⟨true, inventoryRequired⟩ system.era)).RecordSound identity := by
  have htotal := total_set (Request.accepted system.era)
    system.requests request
      ⟨body, .replied ⟨true, inventoryRequired⟩ system.era⟩
  have hone : Request.accepted system.era
      (⟨body, .replied ⟨true, inventoryRequired⟩ system.era⟩ : Request ι) = 1 :=
    if_pos rfl
  have hhandled : ((system.storeRecord record inventory).setStage request body
      (.replied ⟨true, inventoryRequired⟩ system.era)).handled ≤
        system.handled + 1 := by
    unfold handled setStage System.storeRecord
    dsimp only
    omega
  refine ⟨hsound.own, hsound.current, ?_, ?_, ?_, nofun, ?_⟩
  · intro other entry found hother
    unfold setStage System.storeRecord at hother
    obtain ⟨rfl, rfl⟩ | hother := of_lookup_set hother
    · exact hbody found
    · exact hsound.sent other entry found hother
  · intro other entry reply given hother
    unfold setStage System.storeRecord at hother
    obtain ⟨rfl, rfl⟩ | hother := of_lookup_set hother
    · rintro ⟨⟩
      exact le_refl _
    · exact hsound.given other entry reply given hother
  · rintro _ found ⟨⟩
    exact hknown found
  · cases hstored with
    | inl habsent =>
      have hnone := hsound.absent habsent
      exact .inr (by omega)
    | inr hfull =>
      obtain ⟨found, hfound⟩ := Option.isSome_iff_exists.mp hfull.2
      exact .inl ⟨record, rfl, hfull.1, found, hknown found hfound, hfound⟩

theorem RecordSound.store {stage : RequestStage}
    (hlookup : system.requests.lookup request = some ⟨body, stage⟩)
    (hkeeps : system.keepsRecord (.store request) = true)
    (hstore : system.store request body stage = some after) :
    after.RecordSound identity := by
  have hbody : ∀ inventory, body.inventory? = some inventory →
      inventory ∈ system.history :=
    fun inventory => hsound.sent request _ inventory hlookup
  unfold System.store at hstore
  split at hstore
  · split at hstore
    · next inventory =>
      cases hstore
      apply hsound.storeRecord hbody
      · intro found hfound
        exact hbody found hfound
      · right
        refine ⟨?_, rfl⟩
        simp [NodeRecord.hasIdentity, NodeRecord.ofRegistration]
    · cases hstore
  · split at hstore
    · cases hstore
    · next inventory =>
      cases hstore
      apply hsound.storeRecord hbody
      · intro found hfound
        unfold NodeRecord.heartbeat at hfound
        dsimp only at hfound
        cases inventory with
        | some sent =>
          rw [Option.some_or] at hfound
          exact hbody found hfound
        | none =>
          rw [Option.none_or] at hfound
          cases hrecord : system.record with
          | none =>
            rw [hrecord] at hfound
            cases hfound
          | some record =>
            rw [hrecord] at hfound
            exact hsound.known record found hrecord hfound
      · cases hrecord : system.record with
        | none => exact .inl rfl
        | some record =>
          right
          rw [Option.getD_some]
          simp only [keepsRecord, hlookup, hrecord, Bool.and_eq_true,
            Bool.or_eq_true] at hkeeps
          refine ⟨hkeeps.1, ?_⟩
          unfold NodeRecord.heartbeat
          cases inventory with
          | some sent => rfl
          | none => exact hkeeps.2.resolve_left Bool.false_ne_true
  · cases hstore

theorem RecordSound.lose : ({ system with
      record := none
      era := system.era + 1
      answers := [] } : System ι).RecordSound identity := by
  have hhandled : ({ system with
      record := none
      era := system.era + 1
      answers := [] } : System ι).handled = 0 := by
    unfold handled OrderedDict.total
    dsimp only
    rw [List.count_nil, Nat.zero_add, List.sum_eq_zero_iff_forall_eq_nat]
    intro measured hmeasured
    rw [List.mem_map] at hmeasured
    obtain ⟨entry, hentry, hmeasure⟩ := hmeasured
    obtain ⟨request, hlookup⟩ := mem_values.mp hentry
    rw [← hmeasure]
    unfold Request.accepted
    split
    · next inventoryRequired given hstage =>
      have hearlier := hsound.given request entry _ given hlookup hstage
      rw [if_neg (by omega)]
    · rfl
  refine ⟨hsound.own, hsound.current, hsound.sent, ?_, nofun, fun _ => hhandled, ?_⟩
  · intro request entry reply given hlookup hstage
    exact (hsound.given request entry reply given hlookup hstage).trans
      (Nat.le_succ _)
  · right
    rw [hhandled]
    exact Nat.zero_le 1

theorem RecordSound.send {thread : ℕ} {registration : Bool} {purpose : Purpose}
    (hbody : ∀ inventory, body.inventory? = some inventory →
      inventory ∈ system.history) :
    (system.send thread body registration purpose).RecordSound identity := by
  have hrequests : ({ system with
      nextRequest := system.nextRequest + 1
      requests := system.requests.set system.nextRequest ⟨body, .sent⟩ } :
        System ι).RecordSound identity := by
    apply hsound.setRequest
    · nofun
    · nofun
    · exact hbody
  exact hrequests.congr rfl

theorem recordSound_step {label : Label ι}
    (hkeeps : system.keepsRecord label = true)
    (hstep : system.step label = some after) : after.RecordSound identity := by
  cases label with
  | change reports =>
    simp only [step, Option.some.injEq] at hstep
    subst hstep
    have hlater : ∀ inventory ∈ system.history, inventory ∈ system.history ++
        [⟨reports, system.inventory.changes + 1⟩] :=
      fun _ hmem => List.mem_append_left _ hmem
    refine ⟨hsound.own, List.mem_append_right _ (List.mem_singleton_self _), ?_,
      hsound.given, ?_, hsound.absent, ?_⟩
    · intro request entry inventory hlookup hbody
      exact hlater _ (hsound.sent request entry inventory hlookup hbody)
    · intro record inventory hrecord hinventory
      exact hlater _ (hsound.known record inventory hrecord hinventory)
    · cases hsound.full with
      | inl hfull =>
        obtain ⟨record, hrecord, hidentity, inventory, hmem, hfull⟩ := hfull
        exact .inl ⟨record, hrecord, hidentity, inventory, hlater _ hmem, hfull⟩
      | inr hone => exact .inr hone
  | requestSync change | beginHeartbeat thread inventoryDue =>
    simp only [step] at hstep
    split at hstep
    · cases hstep
      exact hsound.congr rfl
    · cases hstep
  | enter thread syncHeartbeat | close thread =>
    simp only [step] at hstep
    split at hstep
    · cases hstep
    · cases hstep
      exact hsound.congr rfl
  | drain thread leaseExpired =>
    simp only [step] at hstep
    split at hstep
    · cases hstep
      exact hsound.congr (recordSide_drain ..)
    · cases hstep
  | consume thread =>
    simp only [step] at hstep
    split at hstep
    · cases hstep
      exact hsound.congr (recordSide_consume ..)
    · cases hstep
  | decide thread =>
    simp only [step] at hstep
    split at hstep
    · cases hstep
      exact hsound.congr (recordSide_decide ..)
    · cases hstep
  | submit thread background =>
    simp only [step] at hstep
    split at hstep
    · exact hsound.congr (recordSide_submit hstep)
    · cases hstep
  | snapshot thread =>
    simp only [step] at hstep
    split at hstep
    · cases hstep
      apply hsound.send
      rintro _ ⟨⟩
      exact hsound.current
    · next includeInventory purpose _ =>
      cases hstep
      apply hsound.send
      cases includeInventory with
      | false => nofun
      | true =>
        rintro _ ⟨⟩
        exact hsound.current
    · cases hstep
  | answer thread =>
    simp only [step] at hstep
    split at hstep
    · split at hstep
      · next reply era hlookup =>
        cases hstep
        have hnoted := hsound.noteReply hlookup
        unfold System.answer
        dsimp only
        apply hnoted.congr
        rw [recordSide_returned]
        split
        · rfl
        · split
          · rfl
          · rw [recordSide_heartbeatAnswered]
      · cases hstep
    · cases hstep
  | fail thread error =>
    simp only [step] at hstep
    split at hstep
    all_goals
      first
      | cases hstep
        exact hsound.noteAnswer.congr (recordSide_raised ..)
      | cases hstep
  | look request listed =>
    simp only [step] at hstep
    split at hstep
    · next inventory hlookup =>
      cases hstep
      apply hsound.setRequest
      · nofun
      · nofun
      · intro found
        exact hsound.sent request _ found hlookup
    · cases hstep
  | store request =>
    simp only [step] at hstep
    split at hstep
    · next hlookup => exact hsound.store hlookup hkeeps hstep
    · cases hstep
  | reject request =>
    simp only [step] at hstep
    split at hstep
    · cases hstep
    · next body stage _ hlookup =>
      cases hstep
      apply hsound.setRequest
      · nofun
      · rintro _ _ ⟨⟩
        exact le_refl _
      · intro found
        exact hsound.sent request _ found hlookup
    · cases hstep
  | discard request =>
    simp only [step] at hstep
    split at hstep
    · cases hstep
      have htotal := total_erase (Request.accepted system.era)
        system.requests request
      have hhandled : ({ system with
          requests := system.requests.erase request } :
            System ι).handled ≤ system.handled := by
        unfold handled
        dsimp only
        omega
      apply hsound.erased rfl
      · intro habsent
        have hnone := hsound.absent habsent
        omega
      · cases hsound.full with
        | inl hfull => exact .inl hfull
        | inr hone => exact .inr (hhandled.trans hone)
    · cases hstep
  | lose =>
    simp only [step, Option.some.injEq] at hstep
    subst hstep
    exact hsound.lose

end

theorem recordSound_initial (identity : NodeIdentity) (reports : ι) :
    (initial identity reports).RecordSound identity where
  own := rfl
  current := List.mem_singleton_self _
  sent := nofun
  given := nofun
  known := nofun
  absent := fun _ => rfl
  full := .inr (Nat.zero_le 1)

def sampleIdentity : NodeIdentity :=
  .create "10.0.0.5:50061" 4 64 ["compute"]

def registration (thread request : ℕ) : List (Label ℕ) :=
  [.enter thread true, .drain thread false, .decide thread, .snapshot thread,
    .store request, .answer thread]

def answeredHeartbeat (thread request : ℕ) : List (Label ℕ) :=
  [.enter thread true, .drain thread false, .decide thread,
    .beginHeartbeat thread false, .snapshot thread, .look request true,
    .store request, .answer thread]

def lostHeartbeat (thread request : ℕ) : List (Label ℕ) :=
  [.enter thread true, .drain thread false, .decide thread,
    .beginHeartbeat thread false, .snapshot thread, .discard request,
    .fail thread .connectFailure]

end System

end PycloudParallel.Registrar
