import PycloudParallel.TaskPoolImapRun
import PycloudParallel.TaskPoolDrainInvariant

/-!
# `imap_unordered` yields every index once

When the generator finishes, every payload index was yielded once, with the
outcome of a task built for its payload, unless the result of an orphan was
handed out: then its index came out twice.
-/

namespace PycloudParallel.TaskPool

variable {V D : Type} {world : World V D} {payloads : List (RawPayload V)}

/-- What every operation of a session leaves behind: only pending tasks have a
node or a replay record. -/
structure Session.Consistent (s : Session V D) : Prop where
  mapped : ∀ taskId nodeId, s.pendingTaskNodeIds.lookup taskId = some nodeId →
    taskId ∈ s.pendingTaskIds
  recorded : ∀ taskId record, s.replayRecords.lookup taskId = some record →
    taskId ∈ s.pendingTaskIds
  index : s.IndexSound

theorem Session.consistent_opened :
    (Session.opened : Session V D).Consistent := by
  refine ⟨?_, ?_, ?_⟩
  · intro taskId nodeId hnode
    simp [Session.opened] at hnode
  · intro taskId record hrecord
    simp [Session.opened] at hrecord
  · intro nodeId taskIds taskId hlookup
    simp [Session.opened] at hlookup

theorem imapStart_ledger {session : Session V D} (h : session.Consistent)
    (hclean : session.pendingTaskIds = ∅) :
    ImapLedger world payloads [] [] (imapStart payloads session) := by
  have hnone : ∀ taskId, taskId ∉ session.pendingTaskIds := by
    rw [hclean]
    exact fun taskId hmem => Finset.notMem_empty taskId hmem
  have hrecords : ∀ taskId record,
      session.replayRecords.lookup taskId ≠ some record :=
    fun taskId record hrecord => hnone taskId (h.recorded taskId record hrecord)
  have htasks : ImapTasks world payloads [] [] (imapStart payloads session) := by
    constructor
    · intro task hmem
      cases hmem
    · intro task other hmem
      cases hmem
    · intro taskId hmem
      exact absurd hmem (hnone taskId)
    · intro taskId
      exact ⟨fun hmem => absurd hmem (hnone taskId),
        fun ⟨nodeId, hnode⟩ => h.mapped taskId nodeId hnode⟩
    · intro taskId record hrecord
      exact absurd hrecord (hrecords taskId record)
    · exact h.index
    · intro held hmem
      cases hmem
    · exact List.nodup_nil
    · intro item hmem
      cases hmem
    · intro old new hmem
      cases hmem
    · intro taskId nodeId
      constructor
      · intro hmem
        cases hmem
      · rintro ⟨hnode, -⟩
        exact absurd (h.mapped taskId nodeId hnode) (hnone taskId)
  refine ⟨htasks, [], rfl, (ImapSupply.new payloads).move ?_⟩
  intro index
  have hidle : (imapStart payloads session).session.pendingResultCount = 0 :=
    Finset.card_eq_zero.mpr hclean
  rw [ImapCore.outIndices, recordIndices_of_idle htasks hidle]
  rfl

variable {core : ImapCore V D}

theorem imapUnordered_ledger (params : ImapParams) {session : Session V D}
    (hsession : session.Consistent) {rounds : Nat}
    (hrun : imapUnordered world params payloads session rounds =
      some (.ok core)) :
    ImapLedger world payloads [] [] core ∧ ImapDone core := by
  rw [imapUnordered] at hrun
  split at hrun
  · cases hrun
  · next hclean =>
    have hempty : session.pendingTaskIds = ∅ := by
      by_contra hne
      exact hclean (Or.inl hne)
    have hnodup := world.availablePoolNodeIds_nodup session.clock
    simp only at hrun
    split at hrun
    · cases hrun
    · split at hrun
      · cases hrun
      · next submitted control filled hfill =>
        have hstart : ImapLedger world payloads [] []
            (imapStart payloads session).tick :=
          (imapStart_ledger hsession hempty).tick
        have hfilled := fillImapFromQuota_ledger hnodup hstart hfill
        split at hrun
        · next hdrained =>
          simp only [Option.some.injEq, Except.ok.injEq] at hrun
          subst hrun
          exact ⟨hfilled, imapDone_of_drained hfilled
            (fillImapFromQuota_frame hfill).1 hdrained⟩
        · exact imapLoop_ledger params hnodup rounds control filled core hfilled
            hrun

/-- Every index comes out once, with the outcome of a task that was built for
its payload and not replaced by a replay. -/
structure DeliveredExactlyOnce (world : World V D)
    (payloads : List (RawPayload V)) (core : ImapCore V D) : Prop where
  indices : (core.yieldedItems.map ExecutionItem.index).Perm
    ((List.range payloads.length).map Int.ofNat)
  outcome : ∀ item ∈ core.yieldedItems,
    ItemFor world payloads core.session.history item ∧
    ∀ task, SessionEvent.built task ∈ core.session.history →
      task.taskId = item.taskId →
        PayloadAt payloads item.index.toNat task.payload
  current : ∀ item ∈ core.yieldedItems, ∀ new,
    SessionEvent.replaced item.taskId new ∉ core.session.history

section

variable (h : ImapLedger world payloads [] [] core)

include h

theorem yieldedIndices_count (hdone : ImapDone core) :
    ∃ extra : List Nat, extra.length =
        (orphanLedger core.session.history).delivered.length ∧
      ∀ index, (core.yieldedItems.map fun item => item.index.toNat).count
        index = (List.range payloads.length).count index + extra.count index := by
  obtain ⟨extra, hlength, hsupply⟩ := h.supply
  refine ⟨extra, hlength, ?_⟩
  have hall : core.payloadBuffer.nextIndex = payloads.length := by
    have hsource := hsupply.source
    rw [hsupply.exhausted hdone.exhausted] at hsource
    exact Nat.le_antisymm hsupply.bounded
      (List.drop_eq_nil_iff.mp hsource.symm)
  intro index
  have hbalance := hsupply.balance index
  simpa [ImapCore.outIndices, ImapCore.items, hdone.records, hdone.ready,
    hdone.retry, hall] using hbalance

theorem yielded_itemFor {item : ExecutionItem D}
    (hmem : item ∈ core.yieldedItems) :
    ItemFor world payloads core.session.history item ∧
      (∀ task, SessionEvent.built task ∈ core.session.history →
        task.taskId = item.taskId →
          PayloadAt payloads item.index.toNat task.payload) ∧
      ∀ new, SessionEvent.replaced item.taskId new ∉ core.session.history := by
  have hitems : item ∈ core.items [] := by
    simp [ImapCore.items, hmem]
  obtain ⟨hitem, -, -⟩ := h.tasks.item item hitems
  refine ⟨hitem, ?_, ?_⟩
  · obtain ⟨index, payload, hindex, hbuilt, -⟩ := hitem
    intro task htask hid
    have heq := h.tasks.unique task ⟨item.taskId, payload⟩ htask hbuilt.built hid
    rw [heq, hindex]
    exact hbuilt.payloadAt
  · intro new hevent
    exact (h.tasks.replaced item.taskId new hevent).2.2.2 item hitems rfl

theorem ofNat_toNat_index :
    (core.yieldedItems.map fun item => item.index.toNat).map Int.ofNat =
      core.yieldedItems.map ExecutionItem.index := by
  rw [List.map_map]
  apply List.map_congr_left
  intro item hmem
  obtain ⟨⟨index, -, hindex, -⟩, -⟩ := yielded_itemFor h hmem
  rw [Function.comp_apply, hindex]
  rfl

end

/-- A generator that finishes has yielded every index exactly once, with the
outcome of a task for its payload, if and only if no result of an orphan was
handed out. -/
theorem imapUnordered_exactlyOnce_iff (world : World V D)
    (payloads : List (RawPayload V)) (params : ImapParams)
    {session : Session V D} (hsession : session.Consistent) (rounds : Nat)
    {core : ImapCore V D}
    (hrun : imapUnordered world params payloads session rounds =
      some (.ok core)) :
    DeliveredExactlyOnce world payloads core ↔
      (orphanLedger core.session.history).delivered = [] := by
  obtain ⟨h, hdone⟩ := imapUnordered_ledger params hsession hrun
  obtain ⟨extra, hlength, hcount⟩ := yieldedIndices_count h hdone
  constructor
  · intro hexact
    have hperm : (core.yieldedItems.map fun item => item.index.toNat).Perm
        (List.range payloads.length) := by
      have hmapped := hexact.indices.map Int.toNat
      simpa [List.map_map, Function.comp_def] using hmapped
    have hextra : extra = [] := by
      rw [List.eq_nil_iff_forall_not_mem]
      intro index hmem
      have hbalance := hcount index
      rw [hperm.count_eq] at hbalance
      have hpositive := List.count_pos_iff.mpr hmem
      omega
    rw [hextra] at hlength
    exact List.eq_nil_of_length_eq_zero hlength.symm
  · intro hnone
    rw [hnone, List.length_nil] at hlength
    have hextra := List.eq_nil_of_length_eq_zero hlength
    subst hextra
    refine ⟨?_, ?_, ?_⟩
    · have hperm : (core.yieldedItems.map fun item => item.index.toNat).Perm
          (List.range payloads.length) := by
        rw [List.perm_iff_count]
        exact hcount
      rw [← ofNat_toNat_index h]
      exact hperm.map Int.ofNat
    · intro item hmem
      obtain ⟨hitem, hunique, -⟩ := yielded_itemFor h hmem
      exact ⟨hitem, hunique⟩
    · intro item hmem
      exact (yielded_itemFor h hmem).2.2

/-- Two nodes; `failsAt` says which submits raise and `answers` what a pull
returns. -/
def twoNodeWorld (failsAt : NodeId → List TaskId → Bool)
    (answers : Nat → NodeId → Except String (List (TaskResult Unit))) :
    World Unit Unit where
  capabilityLimits := fun _ => [1024]
  itemSize := fun _ => 512
  prepareError := fun _ _ => none
  submitTasks := fun _ nodeId items =>
    if failsAt nodeId (items.map TaskSubmitItem.taskId) then
      .error "connection reset"
    else .ok fun _ => true
  pullResults := fun clock nodeId _ => answers clock nodeId
  fetchResultData := fun result => .ok result.data
  availablePoolNodeIds := fun _ => ["a", "b"]
  availablePoolNodeIds_nodup := fun _ => by decide
  canAcceptResultFromNode := fun _ _ => true
  selectOneCandidate := fun _ disabled =>
    if disabled.contains "a" then some "b" else some "a"
  adaptiveWindow := fun _ => 3
  defaultMaxInFlight := 3
  deadlineReached := fun _ => false
  isDependencyError := fun _ => false
  dependencyFailureReason := TaskResult.errorMessage
  setOrder := id
  setOrder_perm := List.Perm.refl

def doneResult (taskId : TaskId) : TaskResult Unit :=
  ⟨taskId, .succeeded, "", "", some ()⟩

def unitPayloads (count : Nat) : List (RawPayload Unit) :=
  List.replicate count (.mapping ∅)

/-- Node `a` accepts two tasks and is lost; both are replayed on `b`. -/
def lostNodeWorld : World Unit Unit :=
  twoNodeWorld (fun _ _ => false) fun _ nodeId =>
    if nodeId = "a" then .error "connection reset"
    else .ok [doneResult 1, doneResult 3, doneResult 4]

theorem lostNode_exactlyOnce :
    ∃ core, imapUnordered lostNodeWorld ⟨some 3, 1, false, 1⟩ (unitPayloads 2)
        Session.opened 20 = some (.ok core) ∧
      core.yieldedItems.map ExecutionItem.taskId = [3, 4] ∧
      DeliveredExactlyOnce lostNodeWorld (unitPayloads 2) core :=
  ⟨_, rfl, rfl, (imapUnordered_exactlyOnce_iff lostNodeWorld (unitPayloads 2)
    ⟨some 3, 1, false, 1⟩ Session.consistent_opened 20 rfl).mpr rfl⟩

/-- Each task is a batch of its own.  The submit of the tasks 4 and 5 to node
`a` raises at the second batch, while task 3 keeps the node polled. -/
def partialSubmitWorld : World Unit Unit :=
  twoNodeWorld (fun nodeId taskIds => nodeId = "a" && taskIds.contains 5)
    fun clock nodeId =>
      if nodeId = "b" then .ok [doneResult 6, doneResult 7]
      else if clock < 20 then .ok [doneResult 1, doneResult 2]
      else .ok [doneResult 3, doneResult 4]

theorem partialSubmit_yields_index_twice :
    ∃ core, imapUnordered partialSubmitWorld ⟨some 3, 1, false, 1⟩
        (unitPayloads 5) Session.opened 30 = some (.ok core) ∧
      core.yieldedItems.map (fun item => (item.index, item.taskId)) =
        [(0, 1), (1, 2), (2, 3), (3, 4), (3, 6), (4, 7)] ∧
      ¬(core.yieldedItems.map ExecutionItem.index).Perm
        ((List.range 5).map Int.ofNat) := by
  refine ⟨_, rfl, rfl, ?_⟩
  intro hperm
  exact absurd hperm.length_eq (by decide)

end PycloudParallel.TaskPool
