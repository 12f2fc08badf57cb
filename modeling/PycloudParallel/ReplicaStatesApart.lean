import PycloudParallel.ReplicaStatesModel

/-!
# Terminal replicas stay apart

Of the methods that move replicas between the sets, two can leave a terminal
replica among the retry probes: a terminal heartbeat failure of a task pool
that is being probed, and a failed attach of a replica that is terminal.
-/

namespace PycloudParallel.ReplicaStates

variable {ι : Type} [DecidableEq ι]

namespace ReplicaSets

def Separate (sets : ReplicaSets ι) : Prop :=
  ∀ nodeId ∈ sets.terminal,
    nodeId ∉ sets.active ∧ nodeId ∉ sets.retryProbe

variable {sets : ReplicaSets ι}

variable (hapart : sets.Separate)

include hapart

theorem Separate.discardActive (nodeId : ι) :
    (sets.discardActive nodeId).Separate := by
  intro other hother
  obtain ⟨hactive, hprobe⟩ := hapart other hother
  exact ⟨fun hmem => hactive (Finset.mem_of_mem_erase hmem), hprobe⟩

theorem Separate.discardRetryProbes (nodeIds : Finset ι) :
    (sets.discardRetryProbes nodeIds).Separate := by
  intro other hother
  obtain ⟨hactive, hprobe⟩ := hapart other hother
  exact ⟨hactive, fun hmem => hprobe (Finset.mem_sdiff.mp hmem).1⟩

theorem Separate.discardTerminal (nodeId : ι) :
    (sets.discardTerminal nodeId).Separate :=
  fun other hother => hapart other (Finset.mem_of_mem_erase hother)

theorem Separate.addActive (nodeId : ι) : (sets.addActive nodeId).Separate := by
  intro other hother
  obtain ⟨hne, hterminal⟩ := Finset.mem_erase.mp hother
  obtain ⟨hactive, hprobe⟩ := hapart other hterminal
  refine ⟨fun hmem => ?_, hprobe⟩
  exact (Finset.mem_insert.mp hmem).elim hne hactive

theorem Separate.markRetryProbe_iff (now : ℤ) (nodeId : ι) :
    (sets.markRetryProbe now nodeId).Separate ↔ nodeId ∉ sets.terminal := by
  constructor
  · intro hmarked hterminal
    exact (hmarked nodeId hterminal).2 (Finset.mem_insert_self nodeId _)
  · intro hliving other hother
    obtain ⟨hactive, hprobe⟩ := hapart other hother
    refine ⟨hactive, fun hmem => ?_⟩
    rcases Finset.mem_insert.mp hmem with heq | hold
    · exact hliving (heq ▸ hother)
    · exact hprobe hold

theorem Separate.markTerminal_iff {nodeId : ι} (hidle : nodeId ∉ sets.active) :
    (sets.markTerminal nodeId).Separate ↔ nodeId ∉ sets.retryProbe := by
  constructor
  · intro hmarked
    exact (hmarked nodeId (Finset.mem_insert_self nodeId _)).2
  · intro hprobe other hother
    rcases Finset.mem_insert.mp hother with heq | hold
    · rw [heq]
      exact ⟨hidle, hprobe⟩
    · exact hapart other hold

theorem Separate.retire (nodeId : ι) : (sets.retire nodeId).Separate := by
  have hleft := (hapart.discardActive nodeId).discardRetryProbes {nodeId}
  apply (hleft.markTerminal_iff (Finset.notMem_erase nodeId _)).mpr
  intro hmem
  exact (Finset.mem_sdiff.mp hmem).2 (Finset.mem_singleton_self nodeId)

end ReplicaSets

/-! ## What each method does to the sets -/

namespace ExecutionSession

variable {platform : Platform} {now : ℤ} {s : ExecutionSession ι}

omit [DecidableEq ι] in
@[simp] theorem sets_changeSets (change : ReplicaSets ι → ReplicaSets ι) :
    (s.changeSets change).sets = change s.sets := rfl

variable (nodeId : ι)

@[simp] theorem sets_noteFailure (message : String) :
    (s.noteFailure nodeId message).sets = s.sets := rfl

@[simp] theorem sets_forgetZeroAlive :
    (s.forgetZeroAlive nodeId).sets = s.sets := rfl

@[simp] theorem sets_markReplicaBlacklisted (reason : String) :
    (s.markReplicaBlacklisted nodeId reason).sets = s.sets := rfl

@[simp] theorem sets_countFailure (count : ℕ) :
    (s.countFailure nodeId count).sets = s.sets := rfl

@[simp] theorem sets_changeReplica (change : Replica → Replica) :
    (s.changeReplica nodeId change).sets = s.sets := by
  unfold changeReplica
  split <;> rfl

theorem sets_markOwnerBlacklisted (reason : String) :
    (s.markOwnerBlacklisted nodeId reason).sets = s.sets.retire nodeId := by
  simp [markOwnerBlacklisted]

theorem sets_methodFailuresReported :
    (s.methodFailuresReported platform nodeId).sets = s.sets ∨
      (s.methodFailuresReported platform nodeId).sets =
        s.sets.retire nodeId := by
  unfold methodFailuresReported
  split
  · exact Or.inl rfl
  · split
    · unfold taskPoolFailuresReported
      split
      · exact Or.inl rfl
      · exact Or.inr (sets_markOwnerBlacklisted nodeId _)
    · unfold serviceFailuresReported
      split
      · exact Or.inl rfl
      · dsimp only
        split
        · exact Or.inr (sets_markOwnerBlacklisted nodeId _)
        · exact Or.inl rfl

theorem sets_disconnectZeroAlive (elapsed : ℤ) (nodeId : ι)
    (replica : Replica) :
    (s.disconnectZeroAlive platform now elapsed nodeId replica).sets =
      s.sets.retire nodeId := by
  unfold disconnectZeroAlive
  dsimp only
  split <;> simp

theorem sets_handleZeroAlive : (s.handleZeroAlive platform now nodeId).2.sets =
      if (s.handleZeroAlive platform now nodeId).1 = true then
        s.sets.retire nodeId else s.sets := by
  unfold handleZeroAlive
  split
  · rfl
  · split
    · rfl
    · dsimp only
      split
      · rfl
      · split
        · rfl
        · exact sets_disconnectZeroAlive _ nodeId _

theorem sets_recordDisconnect (error : HeartbeatError) :
    (s.recordDisconnect now nodeId error).2.sets =
      if (s.recordDisconnect now nodeId error).1 = true then
        s.sets.retire nodeId else s.sets := by
  unfold recordDisconnect
  dsimp only
  split
  · rfl
  · simp

section

variable (hapart : s.sets.Separate)

include hapart

theorem living_of_canAccept {nodeId : ι} {handle : ℕ}
    (haccept : s.canAcceptHeartbeat nodeId handle false = true) :
    nodeId ∉ s.sets.terminal := by
  simp only [canAcceptHeartbeat, Bool.false_or, Bool.and_eq_true,
    decide_eq_true_eq] at haccept
  intro hterminal
  obtain ⟨hactive, hprobe⟩ := hapart nodeId hterminal
  exact haccept.2.elim hactive hprobe

/-! ## What each method keeps -/

theorem separate_markHeartbeatSuccess (nodeId : ι) (handle : ℕ)
    (allowNew : Bool) : (s.markHeartbeatSuccess platform now nodeId handle
      allowNew).sets.Separate := by
  unfold markHeartbeatSuccess
  split
  · exact hapart
  have hreported :
      (s.methodFailuresReported platform nodeId).sets.Separate := by
    have hsets : (s.methodFailuresReported platform nodeId).sets = s.sets ∨
        (s.methodFailuresReported platform nodeId).sets =
          s.sets.retire nodeId := sets_methodFailuresReported nodeId
    rcases hsets with hsame | hretired
    · rw [hsame]
      exact hapart
    · rw [hretired]
      exact hapart.retire nodeId
  dsimp only
  generalize s.methodFailuresReported platform nodeId = reported at hreported
  split
  · exact hreported
  split
  · exact hreported
  have hcleared : (reported.clearFailures nodeId).sets.Separate :=
    (hreported.discardTerminal nodeId).discardRetryProbes {nodeId}
  generalize reported.clearFailures nodeId = cleared at hcleared
  have hhandled : (cleared.handleZeroAlive platform now nodeId).2.sets =
      if (cleared.handleZeroAlive platform now nodeId).1 = true then
        cleared.sets.retire nodeId
      else cleared.sets := sets_handleZeroAlive nodeId
  split
  · next hgone =>
    rw [hhandled, if_pos hgone]
    exact hcleared.retire nodeId
  · next hkept =>
    rw [sets_changeSets, hhandled, if_neg hkept]
    exact hcleared.addActive nodeId

theorem separate_recordFailure (nodeId : ι) (handle : ℕ)
    (error : HeartbeatError) :
    (s.recordFailure now nodeId handle error).sets.Separate := by
  unfold recordFailure
  split
  · exact hapart
  next haccept =>
  have hliving : nodeId ∉ s.sets.terminal :=
    living_of_canAccept hapart (Bool.not_eq_false _ ▸ haccept)
  have hprobed : (s.sets.markRetryProbe now nodeId).Separate :=
    (hapart.markRetryProbe_iff now nodeId).mpr hliving
  dsimp only
  split
  · split
    · generalize hcounted : s.countFailure nodeId
        (s.keepaliveFailureCounts nodeId + 1) = counted
      have hsets : (counted.recordDisconnect now nodeId error).2.sets =
          if (counted.recordDisconnect now nodeId error).1 = true then
            counted.sets.retire nodeId
          else counted.sets := sets_recordDisconnect nodeId error
      rw [← hcounted] at hsets ⊢
      split
      · next hgone =>
        rw [hsets, if_pos hgone]
        exact hapart.retire nodeId
      · next hkept =>
        rw [if_neg hkept, sets_countFailure] at hsets
        simp only [sets_changeSets, markProbeFailure, sets_forgetZeroAlive,
          sets_changeReplica, sets_noteFailure, hsets]
        have hleft := hapart.discardActive nodeId
        have hmarked := (hleft.markRetryProbe_iff now nodeId).mpr hliving
        exact (hmarked.markRetryProbe_iff now nodeId).mpr hliving
    · exact hprobed
  · split
    · simp only [markHeartbeatFailure, sets_changeSets, sets_forgetZeroAlive,
        sets_changeReplica, sets_noteFailure, sets_countFailure]
      exact hapart.discardActive nodeId
    · exact hapart

theorem separate_removeOwnerReplica (nodeId : ι) (clearFailure : Bool) :
    (s.removeOwnerReplica nodeId clearFailure).sets.Separate :=
  (hapart.discardActive nodeId).discardRetryProbes {nodeId}

theorem separate_recordTerminalFailure_iff (nodeId : ι) (handle : ℕ)
    (error : HeartbeatError) :
    (s.recordTerminalFailure nodeId handle error).sets.Separate ↔
      (s.canAcceptHeartbeat nodeId handle false = true →
        s.kind = .taskPool → nodeId ∉ s.sets.retryProbe) := by
  unfold recordTerminalFailure
  split
  · next hrefused => simp [hrefused, hapart]
  next haccept =>
  rw [Bool.not_eq_false] at haccept
  have hleft := hapart.discardActive nodeId
  have hidle : nodeId ∉ (s.sets.discardActive nodeId).active :=
    Finset.notMem_erase nodeId _
  have hmarked : (((s.countFailure nodeId (s.thresholdOf
      nodeId)).markHeartbeatFailure nodeId error).changeSets
        fun sets => sets.markTerminal nodeId).sets =
          (s.sets.discardActive nodeId).markTerminal nodeId := by
    simp [markHeartbeatFailure]
  dsimp only
  cases hkind : s.kind with
  | taskPool =>
    dsimp only
    rw [hmarked, hleft.markTerminal_iff hidle]
    exact ⟨fun hprobe _ _ => hprobe, fun hprobe => hprobe haccept rfl⟩
  | service =>
    refine ⟨fun _ _ hpool => (nomatch hpool), fun _ => ?_⟩
    -- The hook takes the replica out of both other sets behind the marking.
    intro other hother
    have hsame : other ∈ ((s.sets.discardActive nodeId).markTerminal
        nodeId).terminal := hmarked ▸ hother
    simp only [removeOwnerReplica, hmarked]
    refine ⟨fun hactive => ?_, fun hprobe => ?_⟩
    · obtain ⟨hne, hactive⟩ := Finset.mem_erase.mp hactive
      rcases Finset.mem_insert.mp hsame with heq | hold
      · exact hne heq
      · exact (hleft other hold).1 hactive
    · obtain ⟨hprobe, hne⟩ := Finset.mem_sdiff.mp hprobe
      rcases Finset.mem_insert.mp hsame with heq | hold
      · exact hne (Finset.mem_singleton.mpr heq)
      · exact (hleft other hold).2 hprobe

end

/-! ## Runs -/

/-- The event leaves terminal replicas apart: a terminal heartbeat failure that
counts is not one of a task pool that is probed, and an attach that fails, but
not because the service has ended, is not one of a terminal replica. -/
def LeavesApart (s : ExecutionSession ι) : ℤ × Event ι → Prop
  | (_, .heartbeatFailed nodeId handle error) =>
    error.kind = .terminal → s.canAcceptHeartbeat nodeId handle false = true →
      s.kind = .taskPool → nodeId ∉ s.sets.retryProbe
  | (_, .attachFailed nodeId error) =>
    error.isServiceTerminal = false → nodeId ∉ s.sets.terminal
  | _ => True

theorem separate_startKeepalive : s.startKeepalive.sets.Separate := by
  intro nodeId hterminal
  cases hterminal

theorem separate_perform_iff (hapart : s.sets.Separate) (event : Event ι) :
    (s.perform platform now event).sets.Separate ↔
      s.LeavesApart (now, event) := by
  cases event with
  | keepaliveStarted => exact iff_of_true separate_startKeepalive trivial
  | heartbeatReported nodeId handle report =>
    refine iff_of_true ?_ trivial
    simp only [perform]
    split
    · simpa using hapart
    · exact hapart
  | heartbeatSucceeded nodeId handle =>
    exact iff_of_true (separate_markHeartbeatSuccess hapart _ _ _) trivial
  | heartbeatFailed nodeId handle error =>
    simp only [perform, handleHeartbeatException, LeavesApart]
    split
    · next hterminal =>
      rw [separate_recordTerminalFailure_iff hapart]
      exact ⟨fun hprobe _ => hprobe, fun hprobe => hprobe hterminal⟩
    · next hother =>
      exact iff_of_true (separate_recordFailure hapart _ _ _)
        fun hterminal => absurd hterminal hother
  | failureRecorded nodeId handle error =>
    exact iff_of_true (separate_recordFailure hapart _ _ _) trivial
  | activeDiscarded nodeId message =>
    refine iff_of_true ?_ trivial
    cases message <;> exact hapart.discardActive nodeId
  | ownerBlacklisted nodeId reason =>
    refine iff_of_true ?_ trivial
    rw [perform, sets_markOwnerBlacklisted]
    exact hapart.retire nodeId
  | createFailed nodeId message blacklist =>
    refine iff_of_true ?_ trivial
    cases blacklist <;> exact hapart
  | probesExpired => exact iff_of_true (hapart.discardRetryProbes _) trivial
  | compensationAsked active desired current candidates =>
    refine iff_of_true ?_ trivial
    simp only [perform, compensationDeferred, effectiveProbes]
    split
    · exact (hapart.discardRetryProbes _).discardRetryProbes _
    · split <;> exact (hapart.discardRetryProbes _).discardRetryProbes _
  | replicaAdded nodeId replica =>
    refine iff_of_true ?_ trivial
    exact separate_markHeartbeatSuccess
      (s := { s with replicas := s.replicas.set nodeId replica }) hapart
      nodeId replica.handle true
  | replicaPopped nodeId => exact iff_of_true hapart trivial
  | replicaRemoved nodeId clearFailure =>
    exact iff_of_true (separate_removeOwnerReplica hapart _ _) trivial
  | replicaAttached nodeId replica =>
    refine iff_of_true ?_ trivial
    exact separate_markHeartbeatSuccess
      (s := { s with
        replicas := s.replicas.set nodeId replica
        failures := s.failures.erase nodeId }) hapart
      nodeId replica.handle true
  | attachFailed nodeId error =>
    simp only [perform, attachFailed, LeavesApart]
    split
    · next hended =>
      exact iff_of_true hapart fun hliving => by
        rw [hended] at hliving
        cases hliving
    · next hliving =>
      rw [sets_changeSets, sets_noteFailure, hapart.markRetryProbe_iff]
      exact ⟨fun hterminal _ => hterminal,
        fun hterminal => hterminal (Bool.not_eq_true _ ▸ hliving)⟩

/-- Nothing is asked of terminal replicas: no results, no place among the
active ones, no say in compensation. -/
structure TerminalsLeftAlone (s : ExecutionSession ι) : Prop where
  separate : s.sets.Separate
  notPolled : ∀ nodeId ∈ s.sets.terminal,
    s.canAcceptResultFromNode nodeId = false
  notActive : ∀ nodeId ∈ s.sets.terminal,
    nodeId ∉ s.sets.active ∧ nodeId ∉ s.compensationActive
  notDeferring : ∀ nodeId ∈ s.sets.terminal, ∀ now current candidates,
    nodeId ∉ (s.effectiveProbes now current candidates).1

theorem mem_effectiveProbes {nodeId : ι} {current candidates : Option (Finset ι)}
    (hmem : nodeId ∈ (s.effectiveProbes now current candidates).1) :
    nodeId ∈ s.sets.retryProbe := by
  have hlive : ∀ other, other ∈ (current.map fun nodeIds =>
      (s.expireRetryProbes now).sets.retryProbe ∩ nodeIds).getD
        (s.expireRetryProbes now).sets.retryProbe →
      other ∈ s.sets.retryProbe := by
    intro other hother
    have hexpired : other ∈ (s.expireRetryProbes now).sets.retryProbe := by
      cases current with
      | none => exact hother
      | some nodeIds => exact (Finset.mem_inter.mp hother).1
    exact (Finset.mem_sdiff.mp hexpired).1
  simp only [effectiveProbes] at hmem
  split at hmem
  · exact hlive nodeId hmem
  · split at hmem
    · cases hmem
    · exact hlive nodeId (Finset.mem_inter.mp hmem).1

theorem terminalsLeftAlone_of_separate (hapart : s.sets.Separate) :
    s.TerminalsLeftAlone := by
  refine ⟨hapart, ?_, ?_, ?_⟩
  · intro nodeId hterminal
    obtain ⟨hactive, hprobe⟩ := hapart nodeId hterminal
    simp [canAcceptResultFromNode, hactive, hprobe]
  · intro nodeId hterminal
    have hactive := (hapart nodeId hterminal).1
    exact ⟨hactive, fun hmem => hactive (Finset.mem_filter.mp hmem).1⟩
  · intro nodeId hterminal now current candidates hmem
    exact (hapart nodeId hterminal).2 (mem_effectiveProbes hmem)

/-- From the start of the keepalive on, terminal replicas are left alone as
long as every event leaves them apart, and no longer. -/
theorem terminal_replicas_left_alone (platform : Platform)
    (start : ExecutionSession ι) {s : ExecutionSession ι}
    (hrun : GuardedRun (ExecutionSession.step platform) LeavesApart
      start.startKeepalive s) :
    s.TerminalsLeftAlone ∧
      ∀ now event, (s.perform platform now event).TerminalsLeftAlone ↔
        s.LeavesApart (now, event) := by
  have hapart : s.sets.Separate := by
    apply hrun.invariant (fun s => s.sets.Separate) separate_startKeepalive
    rintro before ⟨now, event⟩ after hbefore hleaves hstep
    cases hstep
    exact (separate_perform_iff hbefore event).mpr hleaves
  refine ⟨terminalsLeftAlone_of_separate hapart, fun now event => ?_⟩
  rw [← separate_perform_iff hapart]
  exact ⟨TerminalsLeftAlone.separate, terminalsLeftAlone_of_separate⟩

/-! ### Two task pools -/

def samplePlatform : Platform where
  casing := {
    lower := fun text => .ofList (text.toList.map Char.toLower)
    upper := fun text => .ofList (text.toList.map Char.toUpper) }
  seconds := fun ticks => toString (ticks / secondTicks)
  dependencyFailureReason := fun reason _ => reason
  severe := fun failed exported => 2 < failed ∨ 3 * exported < 10 * failed
  severeReason := fun _ _ lastReason => lastReason

def runningPool (handle : ℕ) : Replica where
  status := .taskPool "RUNNING"
  readiness := "ready"
  workerCount := 1
  aliveWorkers := 1
  methodFailures := ∅
  handle := handle
  heartbeatFailureThreshold := 3
  heartbeatTimeoutSec := 30
  failed := false
  lastError := ""

def twoPools : ExecutionSession String where
  kind := .taskPool
  taskMethod := "run"
  exportedMethodCount := 0
  replicas := (OrderedDict.set ∅ "node-1" (runningPool 1)).set "node-2"
    (runningPool 2)
  failures := ∅
  sets := ⟨∅, ∅, ∅, fun _ => none⟩
  keepaliveFailureCounts := fun _ => 0
  zeroAliveStartedAt := fun _ => none
  zeroAliveLastFailureAt := fun _ => none
  disconnectLastFailureAt := fun _ => none
  ownerNodeBlacklist := ∅
  dependencyFailureMethods := fun _ => ∅

def refused : HeartbeatError :=
  ⟨"ConnectionRefusedError('connection refused')", false, false, true, false⟩

def poolGone : HeartbeatError :=
  ⟨"RuntimeError('task pool not found')", false, true, false, false⟩

/-- One pool misses a heartbeat, the other one is gone. -/
theorem two_pools_left_alone :
    ∃ s, GuardedRun (ExecutionSession.step samplePlatform) LeavesApart
        twoPools.startKeepalive s ∧
      "node-1" ∈ s.sets.retryProbe ∧ "node-2" ∈ s.sets.terminal ∧
      s.canAcceptResultFromNode "node-2" = false := by
  let missed := twoPools.startKeepalive.perform samplePlatform 1000000
    (.heartbeatFailed "node-1" 1 refused)
  let gone := missed.perform samplePlatform 2000000
    (.heartbeatFailed "node-2" 2 poolGone)
  have hmissed : LeavesApart twoPools.startKeepalive
      (1000000, .heartbeatFailed "node-1" 1 refused) :=
    fun hterminal => absurd hterminal (by decide)
  have hgone : LeavesApart missed
      (2000000, .heartbeatFailed "node-2" 2 poolGone) :=
    fun _ _ _ => by decide
  have hrun : GuardedRun (ExecutionSession.step samplePlatform) LeavesApart
      twoPools.startKeepalive gone :=
    .tail _ (.tail _ .refl hmissed rfl) hgone rfl
  have hterminal : "node-2" ∈ gone.sets.terminal := by decide
  obtain ⟨halone, -⟩ := terminal_replicas_left_alone samplePlatform twoPools
    hrun
  exact ⟨gone, hrun, by decide, hterminal,
    halone.notPolled "node-2" hterminal⟩

/-- The pool that misses a heartbeat is gone at the next one: it is terminal
and probed, results are asked of it, and it defers compensation. -/
theorem probed_pool_terminal :
    ∃ s, Reachable (ExecutionSession.step samplePlatform)
        twoPools.startKeepalive s ∧
      "node-1" ∈ s.sets.terminal ∧ "node-1" ∈ s.sets.retryProbe ∧
      s.canAcceptResultFromNode "node-1" = true ∧
      (s.compensationDeferred 3000000 {"node-2"} 2
        (some {"node-1", "node-2"}) (some {"node-1"})).1 = true := by
  refine ⟨_, reachable_of_runLabels
    [(1000000, .heartbeatFailed "node-1" 1 refused),
      (2000000, .heartbeatFailed "node-1" 1 poolGone)] rfl, ?_, ?_, ?_, ?_⟩ <;>
    decide

end ExecutionSession

end PycloudParallel.ReplicaStates
