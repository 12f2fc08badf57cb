import PycloudParallel.TaskPoolImapTasks

/-!
# The index ledger of `imap_unordered`

Where each payload index is at any moment: in the buffer, in a replay record,
in the hands of the running code, or in an item.  Every function of the
generator keeps the ledger.
-/

namespace PycloudParallel.TaskPool

variable {V D : Type}

/-! ### The supply of payloads -/

/-- `out` are the indices that left the buffer and did not come back; `extra`
are those that orphans brought out a second time. -/
structure ImapSupply (payloads : List (RawPayload V)) (out extra : List Nat)
    (buffer : IndexedPayloadBuffer V) : Prop where
  retry : ∀ entry ∈ buffer.retryPayloads, PayloadAt payloads entry.1 entry.2
  source : buffer.payloadIter = payloads.drop buffer.nextIndex
  bounded : buffer.nextIndex ≤ payloads.length
  exhausted : buffer.inputExhausted = true → buffer.payloadIter = []
  balance : ∀ index,
    (buffer.retryPayloads.map Prod.fst).count index + out.count index =
      (List.range buffer.nextIndex).count index + extra.count index

namespace ImapSupply

variable {payloads : List (RawPayload V)} {out extra : List Nat}
  {buffer : IndexedPayloadBuffer V}

theorem new (payloads : List (RawPayload V)) :
    ImapSupply payloads [] [] (IndexedPayloadBuffer.new payloads) := by
  constructor <;> simp [IndexedPayloadBuffer.new]

section

variable (h : ImapSupply payloads out extra buffer)

include h

theorem move {out' : List Nat}
    (hcount : ∀ index, out'.count index = out.count index) :
    ImapSupply payloads out' extra buffer :=
  ⟨h.retry, h.source, h.bounded, h.exhausted, fun index => by
    rw [hcount]
    exact h.balance index⟩

theorem next {entry : Nat × Payload V} {buffer' : IndexedPayloadBuffer V}
    (hnext : buffer.next = (some entry, buffer')) :
    ImapSupply payloads (entry.1 :: out) extra buffer' ∧
      PayloadAt payloads entry.1 entry.2 := by
  unfold IndexedPayloadBuffer.next at hnext
  split at hnext
  · next first entries hretry =>
    cases hnext
    refine ⟨⟨?_, h.source, h.bounded, h.exhausted, ?_⟩, ?_⟩
    · intro other hother
      exact h.retry other (hretry ▸ List.mem_cons_of_mem _ hother)
    · intro index
      have hbalance := h.balance index
      simp only [hretry, List.map_cons, List.count_cons] at hbalance ⊢
      omega
    · exact h.retry entry (hretry ▸ List.mem_cons_self ..)
  · next hretry =>
    split at hnext
    · cases hnext
    · next hopen =>
      split at hnext
      · cases hnext
      · next raw rest hiter =>
        have hsource := h.source
        rw [hiter] at hsource
        have hlt : buffer.nextIndex < payloads.length := by
          by_contra hnot
          rw [List.drop_of_length_le (Nat.le_of_not_lt hnot)] at hsource
          cases hsource
        rw [List.drop_eq_getElem_cons hlt, List.cons.injEq] at hsource
        cases hnext
        refine ⟨⟨h.retry, hsource.2, hlt, ?_, ?_⟩, ?_⟩
        · intro hexhausted
          exact absurd hexhausted hopen
        · intro index
          have hbalance := h.balance index
          simp only [List.count_cons, List.range_succ, List.count_append,
            List.count_nil] at hbalance ⊢
          omega
        · simp [PayloadAt, hlt, hsource.1]

theorem next_none {buffer' : IndexedPayloadBuffer V}
    (hnext : buffer.next = (none, buffer')) :
    ImapSupply payloads out extra buffer' := by
  unfold IndexedPayloadBuffer.next at hnext
  split at hnext
  · cases hnext
  · split at hnext
    · cases hnext
      exact h
    · split at hnext
      · next hiter =>
        cases hnext
        exact ⟨h.retry, h.source, h.bounded, fun _ => hiter, h.balance⟩
      · cases hnext

end

theorem requeueFront {entries : List (Nat × Payload V)}
    (h : ImapSupply payloads (entries.map Prod.fst ++ out) extra buffer)
    (hat : ∀ entry ∈ entries, PayloadAt payloads entry.1 entry.2) :
    ImapSupply payloads out extra (buffer.requeueFront entries) := by
  refine ⟨?_, h.source, h.bounded, h.exhausted, ?_⟩
  · intro entry hmem
    rcases List.mem_append.mp hmem with hnew | hold
    · exact hat entry hnew
    · exact h.retry entry hold
  · intro index
    have hbalance := h.balance index
    simp only [IndexedPayloadBuffer.requeueFront, List.map_append,
      List.count_append] at hbalance ⊢
    omega

theorem orphaned (index : Nat) (h : ImapSupply payloads out extra buffer) :
    ImapSupply payloads (index :: out) (index :: extra) buffer := by
  refine ⟨h.retry, h.source, h.bounded, h.exhausted, ?_⟩
  intro other
  have hbalance := h.balance other
  simp only [List.count_cons]
  omega

end ImapSupply

/-! ### The ledger -/

namespace ImapCore

/-- All items so far; `completed` are those on their way to `ready_items`. -/
def items (core : ImapCore V D) (completed : List (ExecutionItem D)) :
    List (ExecutionItem D) :=
  core.yieldedItems ++ core.readyItems ++ completed

def outIndices (core : ImapCore V D) (hand : List (Held V))
    (completed : List (ExecutionItem D)) : List Nat :=
  core.session.recordIndices ++ hand.map Held.index ++
    (core.items completed).map fun item => item.index.toNat

end ImapCore

structure ImapLedger (world : World V D) (payloads : List (RawPayload V))
    (hand : List (Held V)) (completed : List (ExecutionItem D))
    (core : ImapCore V D) : Prop where
  tasks : ImapTasks world payloads hand (core.items completed) core
  supply : ∃ extra : List Nat, extra.length =
      (orphanLedger core.session.history).delivered.length ∧
    ImapSupply payloads (core.outIndices hand completed) extra
      core.payloadBuffer

namespace ImapLedger

variable {world : World V D} {payloads : List (RawPayload V)}
  {hand : List (Held V)} {completed : List (ExecutionItem D)}
  {core : ImapCore V D}

theorem perm {hand' : List (Held V)}
    (h : ImapLedger world payloads hand completed core)
    (hperm : hand.Perm hand') :
    ImapLedger world payloads hand' completed core := by
  obtain ⟨extra, hlength, hsupply⟩ := h.supply
  refine ⟨h.tasks.perm hperm, extra, hlength, hsupply.move ?_⟩
  intro index
  simp only [ImapCore.outIndices, List.count_append,
    (hperm.map Held.index).count_eq]

variable {session : Session V D} {nodeId : NodeId}

section

variable (h : ImapLedger world payloads hand completed core)

include h

theorem same (hsession : core.session.SameTasks session) :
    ImapLedger world payloads hand completed (core.setSession session) := by
  obtain ⟨extra, hlength, hsupply⟩ := h.supply
  refine ⟨h.tasks.same hsession fun _ => rfl, extra, ?_, hsupply.move ?_⟩
  · exact hlength.trans (by rw [← hsession.orphans]; rfl)
  · intro index
    simp only [ImapCore.outIndices, ImapCore.setSession, ImapCore.items,
      hsession.recordIndices]

theorem tick : ImapLedger world payloads hand completed core.tick :=
  h.same core.session.sameTasks_tick

theorem drawId (hsession : session = core.session.nextTaskId.2.tick) :
    ImapLedger world payloads hand completed (core.setSession session) := by
  obtain ⟨extra, hlength, hsupply⟩ := h.supply
  refine ⟨h.tasks.drawId hsession, extra, ?_, ?_⟩
  · rw [hsession]
    exact hlength
  · rw [hsession]
    exact hsupply

theorem draw {index : Nat} {payload : Payload V}
    {buffer : IndexedPayloadBuffer V}
    (hnext : core.payloadBuffer.next = (some (index, payload), buffer)) :
    ImapLedger world payloads
      (⟨index, core.session.submitSeq + 1, payload⟩ :: hand) completed
      (((core.setBuffer buffer).setSession
        (core.session.withBuilt payload)).setTaskIndex
          (core.session.submitSeq + 1) index) := by
  obtain ⟨extra, hlength, hsupply⟩ := h.supply
  obtain ⟨hbuffer, hat⟩ := hsupply.next hnext
  refine ⟨?_, extra, ?_, hbuffer.move ?_⟩
  · exact (h.tasks.drawTask hat).same (Session.sameTasks_refl _) fun _ => rfl
  · rw [hlength]
    simp only [ImapCore.setTaskIndex, ImapCore.setSession, Session.withBuilt,
      Session.note, orphanLedger_append, OrphanLedger.advance]
    rfl
  · intro other
    have hsame : (((core.setBuffer buffer).setSession
        (core.session.withBuilt payload)).setTaskIndex
          (core.session.submitSeq + 1) index).session.recordIndices =
        core.session.recordIndices := rfl
    simp only [ImapCore.outIndices, hsame, List.map_cons, List.count_append,
      List.count_cons]
    simp only [ImapCore.items, ImapCore.setTaskIndex, ImapCore.setSession,
      ImapCore.setBuffer]
    omega

theorem build (payload : Payload V) : ImapLedger world payloads hand completed
      (core.setSession (core.session.withBuilt payload)) := by
  obtain ⟨extra, hlength, hsupply⟩ := h.supply
  refine ⟨h.tasks.build payload, extra, ?_, hsupply⟩
  · rw [hlength]
    simp only [ImapCore.setSession, Session.withBuilt, Session.note,
      orphanLedger_append, OrphanLedger.advance]
    rfl

theorem setBuffer_of_next_none {buffer : IndexedPayloadBuffer V}
    (hnext : core.payloadBuffer.next = (none, buffer)) :
    ImapLedger world payloads hand completed (core.setBuffer buffer) := by
  obtain ⟨extra, hlength, hsupply⟩ := h.supply
  exact ⟨h.tasks.same (Session.sameTasks_refl _) fun _ => rfl, extra, hlength,
    hsupply.next_none hnext⟩

end

theorem complete {held : Held V} {item : ExecutionItem D}
    (h : ImapLedger world payloads (held :: hand) completed core)
    (hid : item.taskId = held.taskId)
    (hindex : item.index = Int.ofNat held.index)
    (houtcome : CarriesOutcome world core.session.history item) :
    ImapLedger world payloads hand (completed ++ [item]) core := by
  obtain ⟨extra, hlength, hsupply⟩ := h.supply
  refine ⟨?_, extra, hlength, hsupply.move ?_⟩
  · have hitems : core.items (completed ++ [item]) =
        core.items completed ++ [item] := by simp [ImapCore.items]
    exact hitems ▸ h.tasks.complete hid hindex houtcome
  · intro index
    have htoNat : item.index.toNat = held.index := by rw [hindex]; rfl
    simp only [ImapCore.outIndices, ImapCore.items, List.map_append,
      List.map_cons, List.map_nil, List.count_append, List.count_cons,
      List.count_nil, htoNat]
    omega

theorem giveUp {record : TaskReplayRecord V}
    (h : ImapLedger world payloads (record.held :: hand) completed core)
    (message : String) :
    ImapLedger world payloads hand
      (completed ++ [replayFailureItem record message]) core :=
  h.complete rfl rfl (Or.inr ⟨rfl, rfl⟩)

theorem requeue {dropped : List (Held V)} {entries : List (Nat × Payload V)}
    (h : ImapLedger world payloads (dropped ++ hand) completed core)
    (hentries : entries = dropped.map fun held => (held.index, held.payload)) :
    ImapLedger world payloads hand completed (core.requeueFront entries) := by
  obtain ⟨extra, hlength, hsupply⟩ := h.supply
  refine ⟨(h.tasks.drop _).same (Session.sameTasks_refl _) fun _ => rfl, extra,
    hlength, ?_⟩
  have hindices : entries.map Prod.fst = dropped.map Held.index := by
    simp [hentries, Function.comp_def]
  apply ImapSupply.requeueFront
  · apply hsupply.move
    intro index
    simp only [ImapCore.outIndices, ImapCore.requeueFront, ImapCore.setBuffer,
      ImapCore.items, hindices, List.map_append, List.count_append]
    omega
  · intro entry hmem
    rw [hentries] at hmem
    obtain ⟨held, hheld, rfl⟩ := List.mem_map.mp hmem
    exact (h.tasks.held held (List.mem_append_left _ hheld)).1.1.payloadAt

theorem accept (records : List (TaskReplayRecord V))
    (h : ImapLedger world payloads
      (records.map TaskReplayRecord.held ++ hand) completed core)
    (hacc : Session.Accepted nodeId records core.session session)
    (hnode : ∀ record ∈ records, record.currentNodeId = nodeId) :
    ImapLedger world payloads hand completed (core.setSession session) := by
  obtain ⟨extra, hlength, hsupply⟩ := h.supply
  refine ⟨h.tasks.accept _ hacc hnode, extra, ?_, hsupply.move ?_⟩
  · simp only [ImapCore.setSession, hacc.history]
    exact hlength
  · intro index
    have hindices : (records.map TaskReplayRecord.held).map Held.index =
        records.map TaskReplayRecord.logicalIndex := by
      rw [List.map_map]
      rfl
    simp only [ImapCore.outIndices, ImapCore.setSession, ImapCore.items,
      List.map_append, hindices, hacc.recordIndices.count_eq,
      List.count_append]
    omega

theorem orphan {dropped : List (Held V)} {registered : List TaskId}
    {entries : List (Nat × Payload V)}
    (h : ImapLedger world payloads (dropped ++ hand) completed core)
    (hreg : Session.Registered nodeId registered core.session session)
    (hdropped : registered ⊆ dropped.map Held.taskId)
    (hhistory : session.history =
      core.session.history ++ [.submitRaised nodeId registered])
    (hentries : entries = dropped.map fun held => (held.index, held.payload)) :
    ImapLedger world payloads hand completed
      ((core.setSession session).requeueFront entries) := by
  obtain ⟨extra, hlength, hsupply⟩ := (h.requeue hentries).supply
  refine ⟨?_, extra, ?_, hsupply.move ?_⟩
  · exact (h.tasks.orphan hreg hdropped hhistory).same
      (Session.sameTasks_refl _) fun _ => rfl
  · simp only [ImapCore.requeueFront, ImapCore.setBuffer, ImapCore.setSession,
      hhistory, orphanLedger_append, OrphanLedger.advance]
    exact hlength
  · intro index
    have hsame : session.recordIndices = core.session.recordIndices := by
      unfold Session.recordIndices
      rw [hreg.replayRecords]
    simp only [ImapCore.outIndices, ImapCore.requeueFront, ImapCore.setBuffer,
      ImapCore.setSession, ImapCore.items, hsame]

section

variable (h : ImapLedger world payloads hand completed core)

include h

theorem release (nodeId : NodeId) : ImapLedger world payloads
      ((core.session.releaseNodeTasks world nodeId).1.map
        TaskReplayRecord.held ++ hand) completed
      (core.setSession (core.session.releaseNodeTasks world nodeId).2.2) := by
  obtain ⟨extra, hlength, hsupply⟩ := h.supply
  refine ⟨h.tasks.release nodeId, extra, ?_, hsupply.move ?_⟩
  · have hhistory := (Session.dropped_takeTasks
      (world.setOrder (core.session.nodeTaskIds nodeId))
      (core.session.note (.released nodeId))).history
    simp only [ImapCore.setSession, Session.releaseNodeTasks, hhistory]
    simp only [Session.note, orphanLedger_append, OrphanLedger.advance]
    exact hlength
  · intro index
    have hperm := (Session.recordIndices_takeTasks
      (world.setOrder (core.session.nodeTaskIds nodeId))
      (core.session.note (.released nodeId))).count_eq index
    have hsame : (core.session.note (.released nodeId)).recordIndices =
        core.session.recordIndices := rfl
    rw [hsame, List.count_append] at hperm
    have hindices : ∀ records : List (TaskReplayRecord V),
        (records.map TaskReplayRecord.held).map Held.index =
          records.map TaskReplayRecord.logicalIndex := by
      intro records
      rw [List.map_map]
      rfl
    simp only [ImapCore.outIndices, ImapCore.setSession, ImapCore.items,
      Session.releaseNodeTasks, List.map_append, hindices, List.count_append]
    omega

/-- The code has read a result of a pending task and holds its payload; the
result of an orphan brings the payload out a second time. -/
theorem consume (nodeId : NodeId) {result : TaskResult D}
    (hpending : result.taskId ∈ core.session.pendingTaskIds) :
    let pulled := core.setSession
      (core.session.note (.pulled nodeId result))
    ∃ held : Held V, held.taskId = result.taskId ∧
      (∀ record, (consumeResult pulled result.taskId).1 = some record →
        held = record.held) ∧
      ImapLedger world payloads (held :: hand) completed
        (consumeResult pulled result.taskId).2 := by
  intro pulled
  obtain ⟨extra, hlength, hsupply⟩ := h.supply
  have hhistory : (consumeResult pulled result.taskId).2.session.history =
      (core.session.note (.pulled nodeId result)).history :=
    (ImapTasks.dropped_consumeResult pulled result.taskId).history
  have hindices := fun index =>
    (ImapTasks.recordIndices_consumeResult pulled result.taskId).count_eq index
  have hfst : (consumeResult pulled result.taskId).1 =
      core.session.replayRecords.lookup result.taskId :=
    Session.removeReplayRecord_fst _ _
  have hlookup : pulled.session.replayRecords.lookup result.taskId =
      core.session.replayRecords.lookup result.taskId := rfl
  have hbefore : pulled.session.recordIndices = core.session.recordIndices :=
    rfl
  cases hrecord : core.session.replayRecords.lookup result.taskId with
  | some record =>
    obtain ⟨htasks, hquiet⟩ := h.tasks.consumeRecorded nodeId hrecord
    refine ⟨record.held, (h.tasks.record _ record hrecord).1, ?_, htasks, extra,
      ?_, hsupply.move ?_⟩
    · intro other hother
      rw [hfst, hrecord, Option.some.injEq] at hother
      rw [hother]
    · rw [hhistory, hquiet]
      exact hlength
    · intro index
      have hcount := hindices index
      rw [hlookup, hrecord, hbefore] at hcount
      have hheld : record.held.index = record.logicalIndex := rfl
      simp only [Option.toList_some, List.map_cons, List.map_nil,
        List.cons_append, List.nil_append, List.count_cons] at hcount
      simp only [ImapCore.outIndices, List.map_cons, List.count_append,
        List.count_cons, hheld]
      simp only [ImapCore.items, consumeResult, pulled, ImapCore.setSession]
        at hcount ⊢
      omega
  | none =>
    obtain ⟨held, hid, htasks, hdelivered⟩ :=
      h.tasks.consumeOrphan nodeId hpending hrecord
    refine ⟨held, hid, ?_, htasks, held.index :: extra, ?_,
      (hsupply.orphaned held.index).move ?_⟩
    · intro other hother
      rw [hfst, hrecord] at hother
      cases hother
    · rw [hhistory, hdelivered, List.length_append, List.length_cons, hlength]
      rfl
    · intro index
      have hcount := hindices index
      rw [hlookup, hrecord, hbefore] at hcount
      simp only [Option.toList_none, List.map_nil, List.nil_append] at hcount
      simp only [ImapCore.outIndices, List.map_cons, List.count_append,
        List.count_cons]
      simp only [ImapCore.items, consumeResult, pulled, ImapCore.setSession]
        at hcount ⊢
      omega

theorem ignore (nodeId : NodeId) {result : TaskResult D}
    (hpending : result.taskId ∉ core.session.pendingTaskIds) :
    ImapLedger world payloads hand completed
      (core.setSession (core.session.note (.pulled nodeId result))) :=
  h.same (Session.sameTasks_notePulled nodeId fun _ hlive =>
    hpending (h.tasks.live_pending hlive))

end

theorem replay {record next : TaskReplayRecord V}
    (h : ImapLedger world payloads (record.held :: hand) completed core)
    (hacc : Session.Registered nodeId [next.currentTaskId]
      (core.session.withBuilt record.originalPayload) session)
    (hhistory : session.history =
      (core.session.withBuilt record.originalPayload).history)
    (hid : next.currentTaskId = core.session.submitSeq + 1)
    (hnode : next.currentNodeId = nodeId)
    (hindex : next.logicalIndex = record.logicalIndex)
    (hpayload : next.originalPayload = record.originalPayload) :
    ImapLedger world payloads hand completed
      (acceptReplay (core.setSession session) record next) := by
  obtain ⟨extra, hlength, hsupply⟩ := h.supply
  have hheld := h.tasks.held record.held (List.mem_cons_self ..)
  -- The new task is drawn and the old one retired before the submit.
  have hdrawn := h.tasks.drawTask hheld.1.1.payloadAt
  have hdrawn := hdrawn.perm (List.Perm.swap _ _ _)
  generalize hcore : ((core.setSession (core.session.withBuilt
    record.held.payload)).setTaskIndex (core.session.submitSeq + 1)
      record.held.index) = drawn at hdrawn
  have hdrawnSession : drawn.session =
      core.session.withBuilt record.originalPayload := by
    rw [← hcore]
    rfl
  have hdrawnIndex : ∀ taskId, drawn.taskIndexById.lookup taskId =
      if taskId = next.currentTaskId then some record.logicalIndex
      else core.taskIndexById.lookup taskId := by
    intro taskId
    rw [← hcore, hid]
    exact OrderedDict.lookup_set _ _ _ _
  have hne : record.currentTaskId ≠ next.currentTaskId := by
    rw [hid]
    exact Nat.ne_of_lt (Nat.lt_succ_of_le
      (h.tasks.held_drawn (List.mem_cons_self ..)))
  have hfresh : core.session.replayRecords.lookup next.currentTaskId = none := by
    apply h.tasks.record_none
    rw [hid]
    exact fun hmem => Nat.not_succ_le_self _ (h.tasks.pending_drawn hmem)
  generalize hfinal : acceptReplay (core.setSession session) record next = final
  have hfinalIndex : ∀ taskId, taskId ≠ record.held.taskId →
      final.taskIndexById.lookup taskId =
        drawn.taskIndexById.lookup taskId := by
    intro taskId hother
    have hother : taskId ≠ record.currentTaskId := hother
    rw [hdrawnIndex, ← hfinal]
    simp only [acceptReplay, ImapCore.setTaskIndex, ImapCore.popTaskIndex,
      ImapCore.setSession, OrderedDict.lookup_set, OrderedDict.lookup_erase,
      if_neg hother, hindex]
  have hretired := ImapTasks.retire hdrawn
    (rfl : (final.setSession (drawn.session.note (.replaced record.held.taskId
      next.currentTaskId))).session = _) hfinalIndex
  have hregistered : Session.Registered nodeId [next.currentTaskId]
      (drawn.session.note (.replaced record.held.taskId next.currentTaskId))
      (session.note (.replaced record.held.taskId next.currentTaskId)) := by
    rw [hdrawnSession]
    exact ⟨⟨hacc.replayRecords, hacc.replayNodeIndex, hacc.bufferedResultItems,
      hacc.submitSeq⟩, hacc.pending, hacc.nodeIds⟩
  have hrecords := Session.recordsRegistered_foldl [next]
    (session.note (.replaced record.held.taskId next.currentTaskId))
    (List.nodup_singleton _) (by
      intro other hother
      rw [List.mem_singleton] at hother
      subst hother
      exact (congrArg (fun dict => AList.lookup _ dict)
        hacc.replayRecords).trans hfresh)
  have haccepted : Session.Accepted nodeId [next]
      (drawn.session.note (.replaced record.held.taskId next.currentTaskId))
      final.session := by
    have hsession : final.session = [next].foldl Session.registerReplayRecord
        (session.note (.replaced record.held.taskId next.currentTaskId)) := by
      rw [← hfinal]
      rfl
    rw [hsession]
    apply Session.Registered.accepted hregistered ?_ hrecords
    simp only [Session.note, hhistory, hdrawnSession]
  have hheldNext : (⟨record.held.index, core.session.submitSeq + 1,
      record.held.payload⟩ : Held V) = next.held := by
    simp only [TaskReplayRecord.held, hid, hindex, hpayload]
  rw [hheldNext] at hretired
  have htasks : ImapTasks world payloads hand (core.items completed)
      ((final.setSession (drawn.session.note (.replaced record.held.taskId
        next.currentTaskId))).setSession final.session) :=
    ImapTasks.accept [next] hretired haccepted (by simpa using hnode)
  have hitems : final.items completed = core.items completed := by
    rw [← hfinal]
    rfl
  have hbuffer : final.payloadBuffer = core.payloadBuffer := by
    rw [← hfinal]
    rfl
  refine ⟨hitems ▸ htasks, extra, ?_, hbuffer ▸ hsupply.move ?_⟩
  · rw [haccepted.history, hdrawnSession]
    simp only [Session.note, Session.withBuilt, orphanLedger_append,
      OrphanLedger.advance]
    exact hlength
  · intro index
    have hcount := haccepted.recordIndices.count_eq index
    have hbefore : (drawn.session.note (.replaced record.held.taskId
        next.currentTaskId)).recordIndices = core.session.recordIndices := by
      rw [hdrawnSession]
      rfl
    have hrecord : record.held.index = next.logicalIndex := hindex.symm
    rw [hbefore] at hcount
    simp only [ImapCore.outIndices, hitems, List.map_cons, List.map_nil,
      List.count_append, List.count_cons, List.count_nil, hrecord]
      at hcount ⊢
    omega

end ImapLedger

end PycloudParallel.TaskPool
