import PycloudParallel.TaskPoolImapPaths
import Mathlib.Algebra.BigOperators.Group.List.Basic

/-!
# The window of `imap_unordered`

Between any two steps of a run the tasks that the generator counts as in flight
are exactly the pending ones, each with one replay record under its node, and
there are never more of them than the window has room for.
-/

namespace PycloudParallel.TaskPool

open OrderedDict

variable {V D : Type}

def explicitWindow (world : World V D) (requested : ℤ) : ℕ :=
  if 0 < requested then requested.toNat else world.defaultMaxInFlight

/-- The counts of the generator agree with the session and stay in the window;
each pending task has one replay record, filed under the node of the task. -/
structure ImapPoint.Agrees (maxPending : ℕ) (point : ImapPoint V D) : Prop where
  sum_eq : point.control.totalInflight = point.core.session.pendingTaskIds.card
  filed : ∀ taskId ∈ point.core.session.pendingTaskIds, ∃ nodeId record,
    point.core.session.pendingTaskNodeIds.lookup taskId = some nodeId ∧
    point.core.session.replayRecords.lookup taskId = some record ∧
    record.currentTaskId = taskId ∧ record.currentNodeId = nodeId ∧
    ∀ other, taskId ∈ point.core.session.filed other ↔ other = nodeId
  window : point.control.totalInflight ≤ maxPending

theorem ImapPoint.InWindow.agrees {home : TaskId → NodeId} {maxPending : ℕ}
    {point : ImapPoint V D} (h : point.InWindow home maxPending) :
    point.Agrees maxPending where
  sum_eq := h.total
  filed := by
    intro taskId hpending
    obtain ⟨record, hrecord, hid, hat⟩ := h.books.recorded taskId hpending
    refine ⟨record.currentNodeId, record, hat, hrecord, hid, rfl, ?_⟩
    intro other
    rw [h.books.index taskId other, hrecord]
    simp [eq_comm]
  window := (Nat.le_add_right _ _).trans h.window

/-! ## Runs -/

def imapStartPoint (world : World V D) (payloads : List (RawPayload V))
    (session : Session V D) : ImapPoint V D where
  control := imapControl (world.availablePoolNodeIds session.clock)
  core := (imapStart payloads session).tick
  hand := []

def imapRounds (world : World V D) (params : ImapParams) (nodeIds : List NodeId) :
    ℕ → ImapControl → ImapCore V D → Option (ImapControl × ImapCore V D)
  | 0, control, core => some (control, core)
  | rounds + 1, control, core =>
    match imapRound world params nodeIds control core with
    | .goesOn control core => imapRounds world params nodeIds rounds control core
    | .finished _ => none
    | .raised _ _ => none

def imapRunning (world : World V D) (params : ImapParams)
    (payloads : List (RawPayload V)) (session : Session V D) (rounds : ℕ) :
    Option (ImapControl × ImapCore V D) :=
  let nodeIds := world.availablePoolNodeIds session.clock
  let maxPending := params.maxPending world session.clock
  match fillImapFromQuota world maxPending nodeIds maxPending
      (imapControl nodeIds) (imapStart payloads session).tick with
  | (.error _, _, _) => none
  | (.ok _, control, core) =>
    imapRounds world params nodeIds rounds control core

theorem inflight_imapControl (nodeIds : List NodeId) (nodeId : NodeId) :
    (imapControl nodeIds).inflight nodeId = 0 := by
  have hzero : ∀ (counts : OrderedDict NodeId ℕ),
      (counts.lookup nodeId).getD 0 = 0 →
      ((nodeIds.foldl (fun counts nodeId => OrderedDict.set counts nodeId 0)
        counts).lookup nodeId).getD 0 = 0 := by
    induction nodeIds with
    | nil => exact fun _ hcounts => hcounts
    | cons first rest ih =>
      intro counts hcounts
      apply ih
      rw [lookup_set]
      split
      · rfl
      · exact hcounts
  exact hzero ∅ rfl

theorem totalInflight_imapControl (nodeIds : List NodeId) :
    (imapControl nodeIds).totalInflight = 0 := by
  have hzero : ∀ (counts : OrderedDict NodeId ℕ),
      (∀ count ∈ OrderedDict.values counts, count = 0) →
      ∀ count ∈ OrderedDict.values (nodeIds.foldl (fun counts nodeId =>
        OrderedDict.set counts nodeId 0) counts), count = 0 := by
    induction nodeIds with
    | nil => exact fun _ hcounts => hcounts
    | cons first rest ih =>
      intro counts hcounts
      apply ih
      intro count hmem
      obtain ⟨nodeId, hlookup⟩ := mem_values.mp hmem
      rw [lookup_set] at hlookup
      split at hlookup
      · exact (Option.some.inj hlookup).symm
      · exact hcounts count (mem_values.mpr ⟨nodeId, hlookup⟩)
  exact List.sum_eq_zero (hzero ∅ (by simp [OrderedDict.values]))

theorem imapStartPoint_inWindow (world : World V D)
    (payloads : List (RawPayload V)) {session : Session V D}
    (hsession : session.Consistent) (hclean : session.pendingTaskIds = ∅)
    (home : TaskId → NodeId) (maxPending : ℕ) :
    (imapStartPoint world payloads session).InWindow home maxPending := by
  have hnone : ∀ taskId, taskId ∉ session.pendingTaskIds := by
    rw [hclean]
    exact fun taskId hmem => Finset.notMem_empty taskId hmem
  have hrecords : ∀ taskId record,
      session.replayRecords.lookup taskId ≠ some record :=
    fun taskId record hrecord =>
      hnone taskId (hsession.recorded taskId record hrecord)
  have hbooks : (imapStartPoint world payloads session).core.session.Books
      home := by
    constructor
    · exact fun taskId hmem => absurd hmem (hnone taskId)
    · exact fun taskId nodeId hat =>
        absurd (hsession.mapped taskId nodeId hat) (hnone taskId)
    · exact fun taskId hmem => absurd hmem (hnone taskId)
    · exact fun taskId record hrecord => absurd hrecord (hrecords taskId record)
    · intro taskId nodeId
      constructor
      · intro hfiled
        have hlisted : taskId ∈ (session.replayNodeIndex.lookup nodeId).getD [] :=
          hfiled
        cases hindex : session.replayNodeIndex.lookup nodeId with
        | none => simp [hindex] at hlisted
        | some taskIds =>
          rw [hindex] at hlisted
          exact hsession.index nodeId taskIds taskId hindex hlisted
      · rintro ⟨record, hrecord, -⟩
        exact absurd hrecord (hrecords taskId record)
  have hempty : (imapStartPoint world payloads session).core.session.pendingTaskIds =
      ∅ := hclean
  constructor
  · exact hbooks
  · intro taskId hmem
    cases hmem
  · exact List.nodup_nil
  · intro nodeId
    rw [Session.mappedTo, hempty]
    exact inflight_imapControl _ nodeId
  · rw [hempty]
    exact totalInflight_imapControl _
  · have htotal := totalInflight_imapControl
      (world.availablePoolNodeIds session.clock)
    have hhand : (imapStartPoint world payloads session).hand = [] := rfl
    rw [hhand]
    exact (Nat.add_zero _).trans_le (htotal.trans_le (Nat.zero_le _))

theorem imapRounds_path {world : World V D} {home : TaskId → NodeId}
    {maxPending : ℕ} (hworld : world.Unlimited) (hown : world.ReportsOwn home)
    {params : ImapParams} {nodeIds : List NodeId} (hnodup : nodeIds.Nodup)
    (hmax : ∀ clock, params.maxPending world clock = maxPending) {rounds : ℕ}
    {control control' : ImapControl} {core core' : ImapCore V D}
    (hrun : imapRounds world params nodeIds rounds control core =
      some (control', core')) :
    ImapPath world maxPending ⟨control, core, []⟩ ⟨control', core', []⟩ := by
  induction rounds generalizing control core with
  | zero =>
    cases hrun
    exact .refl
  | succ rounds ih =>
    have hround := imapRound_follows hworld hown params hnodup control core hmax
    rw [imapRounds] at hrun
    cases houtcome : imapRound world params nodeIds control core with
    | goesOn control core =>
      rw [houtcome] at hrun hround
      exact Relation.ReflTransGen.trans hround (ih hrun)
    | finished core | raised error core =>
      rw [houtcome] at hrun
      cases hrun

/-- A run with an explicit `max_in_flight` is a sequence of steps, from its start
to the end of each of its rounds, and at every point between two steps the
counts agree with the session and stay in the window. -/
theorem imap_window_agrees (world : World V D) {home : TaskId → NodeId}
    (hworld : world.Unlimited) (hown : world.ReportsOwn home) {params : ImapParams}
    {requested : ℤ} (hexplicit : params.maxInFlight = some requested)
    (payloads : List (RawPayload V)) {session : Session V D}
    (hsession : session.Consistent) (hclean : session.pendingTaskIds = ∅) :
    (∀ point, ImapPath world (explicitWindow world requested)
        (imapStartPoint world payloads session) point →
      point.Agrees (explicitWindow world requested)) ∧
    ∀ rounds control core,
      imapRunning world params payloads session rounds = some (control, core) →
      ImapPath world (explicitWindow world requested)
        (imapStartPoint world payloads session) ⟨control, core, []⟩ ∧
      (imapRound world params (world.availablePoolNodeIds session.clock) control
        core).Follows world (explicitWindow world requested)
          ⟨control, core, []⟩ := by
  have hmax : ∀ clock, params.maxPending world clock =
      explicitWindow world requested := by
    intro clock
    rw [ImapParams.maxPending, hexplicit, explicitWindow]
  have hnodup := world.availablePoolNodeIds_nodup session.clock
  constructor
  · intro point hpath
    have hstart := imapStartPoint_inWindow world payloads hsession hclean home
      (explicitWindow world requested)
    have hpoint : point.InWindow home (explicitWindow world requested) := by
      induction hpath with
      | refl => exact hstart
      | tail _ hstep ih => exact hstep.inWindow hworld hown ih
    exact hpoint.agrees
  · intro rounds control core hrun
    refine ⟨?_, imapRound_follows hworld hown params hnodup control core hmax⟩
    obtain ⟨hand, hfilled, hdone⟩ := fillImapFromQuota_path world
      (explicitWindow world requested) hnodup (explicitWindow world requested)
      (imapControl (world.availablePoolNodeIds session.clock))
      (imapStart payloads session).tick
    simp only [imapRunning, hmax] at hrun
    cases hfill : fillImapFromQuota world (explicitWindow world requested)
        (world.availablePoolNodeIds session.clock)
        (explicitWindow world requested)
        (imapControl (world.availablePoolNodeIds session.clock))
        (imapStart payloads session).tick with
    | mk answer after =>
      rw [hfill] at hfilled hdone hrun
      cases answer with
      | error error => cases hrun
      | ok submitted =>
        have hhand := hdone submitted rfl
        subst hhand
        exact hfilled.trans (imapRounds_path hworld hown hnodup hmax hrun)

def silentNodeWorld : World Unit Unit where
  capabilityLimits := fun _ => []
  itemSize := fun _ => 512
  prepareError := fun _ _ => none
  submitTasks := fun _ nodeId _ => .ok fun _ => nodeId = "a"
  pullResults := fun _ _ _ => .ok []
  fetchResultData := fun result => .ok result.data
  availablePoolNodeIds := fun _ => ["a"]
  availablePoolNodeIds_nodup := fun _ => by decide
  canAcceptResultFromNode := fun _ _ => true
  selectOneCandidate := fun _ _ => some "a"
  adaptiveWindow := fun _ => 3
  defaultMaxInFlight := 3
  deadlineReached := fun _ => false
  isDependencyError := fun _ => false
  dependencyFailureReason := TaskResult.errorMessage
  setOrder := id
  setOrder_perm := List.Perm.refl

theorem silentNode_reportsOwn : silentNodeWorld.ReportsOwn fun _ => "a" where
  accepted := by
    intro clock nodeId items accepts hanswer item _ haccepted
    cases hanswer
    exact (of_decide_eq_true haccepted).symm
  reported := by
    intro clock nodeId limit results hpull result hresult
    cases hpull
    cases hresult

/-- With room for two tasks, two of three payloads are in flight after the first
round. -/
theorem imap_window_agrees_silentNode :
    ∃ control core, imapRunning silentNodeWorld ⟨some 2, 1, false, 1⟩
        (unitPayloads 3) Session.opened 1 = some (control, core) ∧
      control.totalInflight = 2 ∧
      (⟨control, core, []⟩ : ImapPoint Unit Unit).Agrees 2 := by
  have hparams : (⟨some 2, 1, false, 1⟩ : ImapParams).maxInFlight = some 2 := rfl
  have hagrees := imap_window_agrees silentNodeWorld (fun _ => rfl)
    silentNode_reportsOwn hparams (unitPayloads 3) Session.consistent_opened rfl
  exact ⟨_, _, rfl, rfl, hagrees.1 _ (hagrees.2 1 _ _ rfl).1⟩

/-- Node `b` reports the task that node `a` has accepted. -/
def foreignReportWorld : World Unit Unit :=
  { twoNodeWorld (fun _ _ => false) fun _ nodeId =>
      if nodeId = "b" then .ok [doneResult 1] else .ok [] with
    capabilityLimits := fun _ => [] }

/-- A window of zero tasks counts as not given; and a result that comes from a
node that never had the task leaves its own node's count behind. -/
theorem imap_window_disagrees :
    (∃ control core, imapRunning silentNodeWorld ⟨some 0, 1, false, 1⟩
        (unitPayloads 3) Session.opened 0 = some (control, core) ∧
      ¬(control.totalInflight : ℤ) ≤ 0) ∧
    ∃ control core, imapRunning foreignReportWorld ⟨some 2, 1, false, 1⟩
        (unitPayloads 1) Session.opened 1 = some (control, core) ∧
      control.totalInflight ≠ core.session.pendingTaskIds.card :=
  ⟨⟨_, _, rfl, by decide⟩, ⟨_, _, rfl, by decide⟩⟩

end PycloudParallel.TaskPool
