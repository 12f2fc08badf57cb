import PycloudParallel.ReplicaHeartbeatsModel
import PycloudParallel.ReplicaStatesApart

/-!
# No replica comes back

Within one keepalive lifetime a node that is on the blacklist does not become
active again, and a replica that was terminal, or that was replaced or removed,
does not become active through its own heartbeats.
-/

namespace PycloudParallel.ReplicaStates

open OrderedDict

variable {ι : Type} [DecidableEq ι]

namespace ExecutionSession

def isBlacklisted (s : ExecutionSession ι) (nodeId : ι) : Bool :=
  (s.ownerNodeBlacklist.lookup nodeId).isSome

/-- Nothing comes back but on the nodes of `free`, and no replica is new. -/
structure Declines (free : Set ι) (s t : ExecutionSession ι) : Prop where
  blacklist : ∀ nodeId, s.isBlacklisted nodeId = true →
    t.isBlacklisted nodeId = true
  current : ∀ nodeId handle, t.isCurrentReplica nodeId handle = true →
    s.isCurrentReplica nodeId handle = true
  terminal : ∀ nodeId ∉ free, nodeId ∈ s.sets.terminal →
    nodeId ∈ t.sets.terminal
  active : ∀ nodeId ∉ free, nodeId ∈ t.sets.active → nodeId ∈ s.sets.active

variable {free : Set ι} {platform : Platform} {now : ℤ}
  {s t u : ExecutionSession ι}

theorem Declines.trans (hfirst : s.Declines free t) (hsecond : t.Declines free u) :
    s.Declines free u where
  blacklist nodeId hlisted := hsecond.blacklist nodeId (hfirst.blacklist nodeId hlisted)
  current nodeId handle hcurrent :=
    hfirst.current nodeId handle (hsecond.current nodeId handle hcurrent)
  terminal nodeId hbound hterminal :=
    hsecond.terminal nodeId hbound (hfirst.terminal nodeId hbound hterminal)
  active nodeId hbound hactive :=
    hfirst.active nodeId hbound (hsecond.active nodeId hbound hactive)

theorem Declines.of_same (hblacklist : t.ownerNodeBlacklist = s.ownerNodeBlacklist)
    (hreplicas : t.replicas = s.replicas) (hsets : t.sets = s.sets) :
    s.Declines free t where
  blacklist nodeId hlisted := by
    unfold isBlacklisted
    rw [hblacklist]
    exact hlisted
  current nodeId handle hcurrent := by
    unfold isCurrentReplica at *
    rw [← hreplicas]
    exact hcurrent
  terminal nodeId _ hterminal := hsets ▸ hterminal
  active nodeId _ hactive := hsets ▸ hactive

theorem declines_refl (s : ExecutionSession ι) : s.Declines free s :=
  .of_same rfl rfl rfl

theorem Declines.setBlacklist (hdeclines : s.Declines free t) (nodeId : ι)
    (text : String) :
    s.Declines free
      { t with ownerNodeBlacklist := t.ownerNodeBlacklist.set nodeId text } := by
  refine hdeclines.trans ⟨?_, fun _ _ hcurrent => hcurrent,
    fun _ _ hterminal => hterminal, fun _ _ hactive => hactive⟩
  intro other hlisted
  unfold isBlacklisted at *
  dsimp only
  rw [lookup_set]
  split
  · rfl
  · exact hlisted

theorem Declines.markReplicaBlacklisted (hdeclines : s.Declines free t)
    (nodeId : ι) (reason : String) :
    s.Declines free (t.markReplicaBlacklisted nodeId reason) :=
  hdeclines.setBlacklist nodeId _

theorem ownerNodeBlacklist_changeReplica (nodeId : ι) (change : Replica → Replica) :
    (s.changeReplica nodeId change).ownerNodeBlacklist = s.ownerNodeBlacklist := by
  unfold changeReplica
  split <;> rfl

variable {nodeId : ι} {event : Event ι}

theorem current_of_changeReplica {other : ι} {handle : ℕ}
    {change : Replica → Replica}
    (hhandle : ∀ replica, (change replica).handle = replica.handle)
    (hcurrent : (s.changeReplica nodeId change).isCurrentReplica other handle =
      true) : s.isCurrentReplica other handle = true := by
  unfold isCurrentReplica changeReplica at *
  cases hfound : s.replicas.lookup nodeId with
  | none =>
    rw [hfound] at hcurrent
    exact hcurrent
  | some replica =>
    rw [hfound] at hcurrent
    dsimp only at hcurrent
    rw [lookup_set] at hcurrent
    split at hcurrent
    · next hsame =>
      rw [hsame, hfound]
      rw [Option.any_some, hhandle] at hcurrent
      exact hcurrent
    · exact hcurrent

section

variable (hdeclines : s.Declines free t)

include hdeclines

theorem Declines.changeReplica (nodeId : ι) {change : Replica → Replica}
    (hhandle : ∀ replica, (change replica).handle = replica.handle) :
    s.Declines free (t.changeReplica nodeId change) := by
  refine hdeclines.trans ⟨?_, fun _ _ => current_of_changeReplica hhandle, ?_, ?_⟩
  · intro other hlisted
    unfold isBlacklisted at *
    rw [ownerNodeBlacklist_changeReplica]
    exact hlisted
  · intro other _ hterminal
    rw [sets_changeReplica]
    exact hterminal
  · intro other _ hactive
    rw [sets_changeReplica] at hactive
    exact hactive

theorem Declines.same (hblacklist : u.ownerNodeBlacklist = t.ownerNodeBlacklist)
    (hreplicas : u.replicas = t.replicas) (hsets : u.sets = t.sets) :
    s.Declines free u :=
  hdeclines.trans (.of_same hblacklist hreplicas hsets)

theorem Declines.noteFailure (nodeId : ι) (message : String) :
    s.Declines free (t.noteFailure nodeId message) :=
  hdeclines.same rfl rfl rfl

theorem Declines.countFailures (counts : ι → ℕ) :
    s.Declines free { t with keepaliveFailureCounts := counts } :=
  hdeclines.same rfl rfl rfl

theorem Declines.forgetZeroAlive (nodeId : ι) :
    s.Declines free (t.forgetZeroAlive nodeId) :=
  hdeclines.same rfl rfl rfl

theorem Declines.failReplica (nodeId : ι) (message : String) : s.Declines free
      (t.changeReplica nodeId fun replica => replica.failedWith message) :=
  hdeclines.changeReplica nodeId fun _ => rfl

theorem Declines.changeSets {change : ReplicaSets ι → ReplicaSets ι}
    (hterminal : ∀ nodeId ∉ free, nodeId ∈ t.sets.terminal →
      nodeId ∈ (change t.sets).terminal)
    (hactive : ∀ nodeId ∉ free, nodeId ∈ (change t.sets).active →
      nodeId ∈ t.sets.active) : s.Declines free (t.changeSets change) :=
  hdeclines.trans ⟨fun _ hlisted => hlisted, fun _ _ hcurrent => hcurrent,
    hterminal, hactive⟩

theorem Declines.discardActive (nodeId : ι) :
    s.Declines free (t.changeSets fun sets => sets.discardActive nodeId) :=
  hdeclines.changeSets (fun _ _ hterminal => hterminal)
    fun _ _ hactive => Finset.mem_of_mem_erase hactive

theorem Declines.retire (nodeId : ι) :
    s.Declines free (t.changeSets fun sets => sets.retire nodeId) :=
  hdeclines.changeSets (fun _ _ hterminal => Finset.mem_insert_of_mem hterminal)
    fun _ _ hactive => Finset.mem_of_mem_erase hactive

theorem Declines.markRetryProbe (nodeId : ι) :
    s.Declines free (t.changeSets fun sets => sets.markRetryProbe now nodeId) :=
  hdeclines.changeSets (fun _ _ hterminal => hterminal) fun _ _ hactive => hactive

theorem Declines.discardRetryProbes (nodeIds : Finset ι) : s.Declines free
      (t.changeSets fun sets => sets.discardRetryProbes nodeIds) :=
  hdeclines.changeSets (fun _ _ hterminal => hterminal) fun _ _ hactive => hactive

end

theorem current_of_erase {other : ι} {handle : ℕ}
    (hcurrent : ((s.replicas.erase nodeId).lookup other).any
      (fun replica => replica.handle = handle) = true) :
    s.isCurrentReplica other handle = true := by
  rw [lookup_erase] at hcurrent
  split at hcurrent
  · cases hcurrent
  · exact hcurrent

theorem Declines.removeOwnerReplica (hdeclines : s.Declines free t) (nodeId : ι)
    (clearFailure : Bool) :
    s.Declines free (t.removeOwnerReplica nodeId clearFailure) :=
  hdeclines.trans ⟨fun _ hlisted => hlisted, fun _ _ => current_of_erase,
    fun _ _ hterminal => hterminal,
    fun _ _ hactive => Finset.mem_of_mem_erase hactive⟩

theorem declines_markOwnerBlacklisted (nodeId : ι) (reason : String) :
    s.Declines free (s.markOwnerBlacklisted nodeId reason) := by
  have hlisted : s.Declines free (s.markReplicaBlacklisted nodeId reason) :=
    (declines_refl s).markReplicaBlacklisted nodeId reason
  exact ((hlisted.noteFailure nodeId _).failReplica nodeId _).retire nodeId

theorem declines_recordDisconnect (now : ℤ) (nodeId : ι) (error : HeartbeatError) :
    s.Declines free (s.recordDisconnect now nodeId error).2 := by
  have hnoted : s.Declines free { s with
      disconnectLastFailureAt :=
        Function.update s.disconnectLastFailureAt nodeId (some now) } :=
    .of_same rfl rfl rfl
  unfold recordDisconnect
  dsimp only
  split
  · exact hnoted
  · exact (((hnoted.markReplicaBlacklisted nodeId _).noteFailure nodeId
      _).failReplica nodeId _).retire nodeId

theorem Declines.markHeartbeatFailure (hdeclines : s.Declines free t)
    (nodeId : ι) (error : HeartbeatError) :
    s.Declines free (t.markHeartbeatFailure nodeId error) := by
  have hfailed : s.Declines free ((t.noteFailure nodeId
      error.repr).changeReplica nodeId fun replica =>
        (replica.failedWith error.repr).stopped) :=
    (hdeclines.noteFailure nodeId _).changeReplica nodeId fun _ => rfl
  exact (hfailed.forgetZeroAlive nodeId).discardActive nodeId

theorem Declines.markProbeFailure (hdeclines : s.Declines free t)
    (nodeId : ι) (error : HeartbeatError) :
    s.Declines free (t.markProbeFailure now nodeId error) := by
  have hfailed := (hdeclines.noteFailure nodeId error.repr).failReplica nodeId
    error.repr
  exact ((hfailed.forgetZeroAlive nodeId).discardActive nodeId).markRetryProbe nodeId

theorem declines_recordFailure (nodeId : ι) (handle : ℕ)
    (error : HeartbeatError) :
    s.Declines free (s.recordFailure now nodeId handle error) := by
  have hcounted : s.Declines free
      (s.countFailure nodeId (s.keepaliveFailureCounts nodeId + 1)) :=
    .of_same rfl rfl rfl
  unfold recordFailure
  split
  · exact declines_refl s
  dsimp only
  split
  · split
    · have hdisconnect := hcounted.trans
        (declines_recordDisconnect now nodeId error)
      split
      · exact hdisconnect
      · exact (hdisconnect.markProbeFailure nodeId error).markRetryProbe nodeId
    · exact hcounted.markRetryProbe nodeId
  · split
    · exact hcounted.markHeartbeatFailure nodeId error
    · exact hcounted

theorem declines_handleHeartbeatException (nodeId : ι) (handle : ℕ)
    (error : HeartbeatError) :
    s.Declines free (s.handleHeartbeatException now nodeId handle error) := by
  unfold handleHeartbeatException
  split
  · unfold recordTerminalFailure
    split
    · exact declines_refl s
    · have hcounted : s.Declines free
          (s.countFailure nodeId (s.thresholdOf nodeId)) := .of_same rfl rfl rfl
      have hmarked : s.Declines free (((s.countFailure nodeId (s.thresholdOf
          nodeId)).markHeartbeatFailure nodeId error).changeSets
            fun sets => sets.markTerminal nodeId) :=
        (hcounted.markHeartbeatFailure nodeId error).changeSets
          (fun _ _ hterminal => Finset.mem_insert_of_mem hterminal)
          fun _ _ hactive => hactive
      dsimp only
      split
      · exact hmarked
      · exact hmarked.removeOwnerReplica nodeId _
  · exact declines_recordFailure nodeId handle error

/-! ## Heartbeats that arrive -/

theorem declines_methodFailuresReported (nodeId : ι) :
    s.Declines free (s.methodFailuresReported platform nodeId) := by
  unfold methodFailuresReported
  split
  · exact declines_refl s
  · split
    · unfold taskPoolFailuresReported
      split
      · exact declines_refl s
      · exact declines_markOwnerBlacklisted nodeId _
    · unfold serviceFailuresReported
      split
      · exact declines_refl s
      · dsimp only
        have hnoted : ∀ methods, s.Declines free { s with
            dependencyFailureMethods := Function.update
              s.dependencyFailureMethods nodeId methods } :=
          fun _ => .of_same rfl rfl rfl
        split
        · exact (hnoted _).trans (declines_markOwnerBlacklisted nodeId _)
        · exact hnoted _

theorem declines_disconnectZeroAlive (elapsed : ℤ) (nodeId : ι)
    (replica : Replica) :
    s.Declines free
      (s.disconnectZeroAlive platform now elapsed nodeId replica) := by
  have hnoted : s.Declines free { s with
      zeroAliveLastFailureAt :=
        Function.update s.zeroAliveLastFailureAt nodeId (some now) } :=
    .of_same rfl rfl rfl
  have hfinish : ∀ {listed : ExecutionSession ι} (message : String),
      s.Declines free listed →
      s.Declines free ((listed.noteFailure nodeId message).changeReplica nodeId
        fun replica => replica.failedWith message) :=
    fun message hlisted => (hlisted.noteFailure nodeId message).failReplica
      nodeId message
  unfold disconnectZeroAlive
  dsimp only
  split
  · exact (((hfinish _ (hnoted.markReplicaBlacklisted nodeId _)).countFailures
      _).retire nodeId).forgetZeroAlive nodeId
  · exact (((hfinish _ hnoted).countFailures _).retire nodeId).forgetZeroAlive
      nodeId

theorem declines_handleZeroAlive (nodeId : ι) :
    s.Declines free (s.handleZeroAlive platform now nodeId).2 := by
  unfold handleZeroAlive
  split
  · exact declines_refl s
  · split
    · exact .of_same rfl rfl rfl
    · dsimp only
      split
      · exact .of_same rfl rfl rfl
      · split
        · exact declines_refl s
        · exact declines_disconnectZeroAlive _ nodeId _

theorem blacklist_handleZeroAlive
    (hkept : ¬(s.handleZeroAlive platform now nodeId).1 = true) :
    (s.handleZeroAlive platform now nodeId).2.ownerNodeBlacklist =
      s.ownerNodeBlacklist := by
  unfold handleZeroAlive at *
  split
  · rfl
  · split
    · rfl
    · dsimp only at *
      split
      · rfl
      · split
        · rfl
        · next replica hfound hdeployed hstarted helapsed =>
          simp_all

theorem declines_clearFailures (nodeId : ι) :
    s.Declines {nodeId} (s.clearFailures nodeId) := by
  have hrecovered : s.Declines {nodeId} (s.changeReplica nodeId Replica.recovered) :=
    (declines_refl s).changeReplica nodeId fun _ => rfl
  refine hrecovered.trans ⟨fun _ hlisted => hlisted, fun _ _ hcurrent => hcurrent,
    ?_, ?_⟩
  · intro other hbound hterminal
    rw [sets_changeReplica] at hterminal
    exact Finset.mem_erase.mpr ⟨hbound, hterminal⟩
  · intro other _ hactive
    rw [sets_changeReplica]
    exact hactive

theorem Declines.addActive (hdeclines : s.Declines {nodeId} t) :
    s.Declines {nodeId} (t.changeSets fun sets => sets.addActive nodeId) :=
  hdeclines.changeSets
    (fun _ hbound hterminal => Finset.mem_erase.mpr ⟨hbound, hterminal⟩)
    fun _ hbound hactive => (Finset.mem_insert.mp hactive).resolve_left hbound

/-- A heartbeat that arrives activates a node that is not blacklisted, and a
terminal one only for a new replica. -/
structure Activates (s t : ExecutionSession ι) (nodeId : ι) (handle : ℕ)
    (allowNew : Bool) : Prop where
  current : s.isCurrentReplica nodeId handle = true
  unlisted : t.isBlacklisted nodeId = false
  living : allowNew = false → nodeId ∉ s.sets.terminal

theorem markHeartbeatSuccess_spec (nodeId : ι) (handle : ℕ) (allowNew : Bool) :
    s.Declines ∅ (s.markHeartbeatSuccess platform now nodeId handle allowNew) ∨
      (s.Declines {nodeId}
          (s.markHeartbeatSuccess platform now nodeId handle allowNew) ∧
        (allowNew = false → nodeId ∉ s.sets.terminal) ∧
        (nodeId ∈ (s.markHeartbeatSuccess platform now nodeId handle
            allowNew).sets.active →
          s.Activates (s.markHeartbeatSuccess platform now nodeId handle allowNew)
            nodeId handle allowNew)) := by
  unfold markHeartbeatSuccess
  split
  · exact .inl (declines_refl s)
  next haccept =>
  have hcurrent : s.isCurrentReplica nodeId handle = true := by
    rw [Bool.not_eq_false, canAcceptHeartbeat, Bool.and_eq_true] at haccept
    exact haccept.1
  have hreported : ∀ {free : Set ι}, s.Declines free
      (s.methodFailuresReported platform nodeId) :=
    declines_methodFailuresReported nodeId
  dsimp only
  generalize s.methodFailuresReported platform nodeId = reported at hreported
  split
  · exact .inl hreported
  next hunlisted =>
  split
  · exact .inl hreported
  next hallowed =>
  right
  have hliving : allowNew = false → nodeId ∉ s.sets.terminal := by
    intro hold hterminal
    have hplain : s.Declines ∅ reported := hreported
    refine hallowed ⟨hplain.terminal nodeId (Set.notMem_empty _) hterminal,
      fun hnew => ?_⟩
    rw [hold] at hnew
    cases hnew.1
  have hcleared : s.Declines {nodeId} (reported.clearFailures nodeId) :=
    hreported.trans (declines_clearFailures nodeId)
  have hhandled : s.Declines {nodeId} ((reported.clearFailures
      nodeId).handleZeroAlive platform now nodeId).2 :=
    hcleared.trans (declines_handleZeroAlive nodeId)
  split
  · next hgone =>
    refine ⟨hhandled, hliving, fun hactive => ?_⟩
    rw [sets_handleZeroAlive, if_pos hgone] at hactive
    exact absurd rfl (Finset.mem_erase.mp hactive).1
  · next hkept =>
    refine ⟨hhandled.addActive, hliving, fun _ => ⟨hcurrent, ?_, hliving⟩⟩
    have hsame : ((reported.clearFailures nodeId).handleZeroAlive platform now
        nodeId).2.ownerNodeBlacklist = reported.ownerNodeBlacklist := by
      rw [blacklist_handleZeroAlive hkept]
      exact ownerNodeBlacklist_changeReplica nodeId _
    unfold isBlacklisted
    change (((reported.clearFailures nodeId).handleZeroAlive platform now
      nodeId).2.ownerNodeBlacklist.lookup nodeId).isSome = false
    rw [hsame]
    exact Bool.not_eq_true _ ▸ hunlisted

/-! ## Events -/

theorem declines_perform (hlifetime : event ≠ .keepaliveStarted)
    (harrived : ∀ nodeId handle, event ≠ .heartbeatSucceeded nodeId handle)
    (hinstalls : event.installs = none) :
    s.Declines ∅ (s.perform platform now event) := by
  cases event with
  | keepaliveStarted => exact absurd rfl hlifetime
  | heartbeatReported nodeId handle report =>
    simp only [perform]
    split
    · exact (declines_refl s).changeReplica nodeId fun _ => rfl
    · exact declines_refl s
  | heartbeatSucceeded nodeId handle => exact absurd rfl (harrived nodeId handle)
  | heartbeatFailed nodeId handle error =>
    exact declines_handleHeartbeatException nodeId handle error
  | failureRecorded nodeId handle error =>
    exact declines_recordFailure nodeId handle error
  | activeDiscarded nodeId message =>
    cases message with
    | none => exact (declines_refl s).discardActive nodeId
    | some message =>
      exact ((declines_refl s).discardActive nodeId).noteFailure nodeId message
  | ownerBlacklisted nodeId reason => exact declines_markOwnerBlacklisted nodeId reason
  | createFailed nodeId message blacklist =>
    have hnoted : s.Declines ∅ (s.noteFailure nodeId message) :=
      (declines_refl s).noteFailure nodeId message
    cases blacklist with
    | none => exact hnoted
    | some text => exact hnoted.setBlacklist nodeId text
  | probesExpired => exact (declines_refl s).discardRetryProbes _
  | compensationAsked active desired current candidates =>
    have hexpired : s.Declines ∅ (s.expireRetryProbes now) :=
      (declines_refl s).discardRetryProbes _
    simp only [perform, compensationDeferred, effectiveProbes]
    split
    · exact hexpired.discardRetryProbes _
    · split <;> exact hexpired.discardRetryProbes _
  | replicaAdded nodeId replica | replicaAttached nodeId replica => cases hinstalls
  | replicaPopped nodeId =>
    exact ⟨fun _ hlisted => hlisted, fun _ _ => current_of_erase,
      fun _ _ hterminal => hterminal, fun _ _ hactive => hactive⟩
  | replicaRemoved nodeId clearFailure =>
    exact (declines_refl s).removeOwnerReplica nodeId clearFailure
  | attachFailed nodeId error =>
    have hnoted : s.Declines ∅ (s.noteFailure nodeId error.repr) :=
      (declines_refl s).noteFailure nodeId error.repr
    simp only [perform, ExecutionSession.attachFailed]
    split
    · exact hnoted
    · exact hnoted.markRetryProbe nodeId

theorem Declines.mono {other : Set ι} (hdeclines : s.Declines free t)
    (hsubset : free ⊆ other) : s.Declines other t where
  blacklist := hdeclines.blacklist
  current := hdeclines.current
  terminal nodeId hbound := hdeclines.terminal nodeId fun hfree => hbound (hsubset hfree)
  active nodeId hbound := hdeclines.active nodeId fun hfree => hbound (hsubset hfree)

/-- A session that has got a new replica, and the one behind the event that
brings it. -/
structure Installs (s t : ExecutionSession ι) (nodeId : ι) (replica : Replica) :
    Prop where
  blacklist : ∀ other, s.isBlacklisted other = true → t.isBlacklisted other = true
  current : ∀ other handle, t.isCurrentReplica other handle = true →
    s.isCurrentReplica other handle = true ∨ other = nodeId ∧ handle = replica.handle
  replaced : ∀ handle, t.isCurrentReplica nodeId handle = true →
    handle = replica.handle
  terminal : ∀ other ≠ nodeId, other ∈ s.sets.terminal → other ∈ t.sets.terminal
  active : ∀ other ≠ nodeId, other ∈ t.sets.active → other ∈ s.sets.active
  unlisted : nodeId ∈ t.sets.active → nodeId ∉ s.sets.active →
    t.isBlacklisted nodeId = false

theorem installs_of_success {installed : ExecutionSession ι} {replica : Replica}
    {failures : OrderedDict ι String}
    (hblacklist : installed.ownerNodeBlacklist = s.ownerNodeBlacklist)
    (hsets : installed.sets = s.sets)
    (hreplicas : installed.replicas = s.replicas.set nodeId replica) :
    s.Installs
      { installed.markHeartbeatSuccess platform now nodeId replica.handle true with
        failures := failures } nodeId replica := by
  have hspec := @markHeartbeatSuccess_spec _ _ platform now installed nodeId
    replica.handle true
  generalize installed.markHeartbeatSuccess platform now nodeId
    replica.handle true = marked at hspec
  have hdeclines : installed.Declines {nodeId}
      { marked with failures := failures } := by
    rcases hspec with hsame | ⟨hfree, -, -⟩
    · exact (hsame.mono (Set.empty_subset _)).same rfl rfl rfl
    · exact hfree.same rfl rfl rfl
  have hlookup : ∀ other handle, installed.isCurrentReplica other handle = true →
      (other = nodeId ∧ handle = replica.handle) ∨
        (other ≠ nodeId ∧ s.isCurrentReplica other handle = true) := by
    intro other handle hcurrent
    unfold isCurrentReplica at *
    rw [hreplicas, lookup_set] at hcurrent
    split at hcurrent
    · next hsame =>
      rw [Option.any_some, decide_eq_true_eq] at hcurrent
      exact .inl ⟨hsame, hcurrent.symm⟩
    · next hother => exact .inr ⟨hother, hcurrent⟩
  refine ⟨?_, ?_, ?_, ?_, ?_, ?_⟩
  · intro other hlisted
    refine hdeclines.blacklist other ?_
    unfold isBlacklisted at *
    rw [hblacklist]
    exact hlisted
  · intro other handle hcurrent
    rcases hlookup other handle (hdeclines.current other handle hcurrent) with
      hnew | ⟨-, hold⟩
    · exact .inr hnew
    · exact .inl hold
  · intro handle hcurrent
    rcases hlookup nodeId handle (hdeclines.current nodeId handle hcurrent) with
      ⟨-, hnew⟩ | ⟨hother, -⟩
    · exact hnew
    · exact absurd rfl hother
  · intro other hother hterminal
    exact hdeclines.terminal other hother (hsets ▸ hterminal)
  · intro other hother hactive
    exact hsets ▸ hdeclines.active other hother hactive
  · intro hactive hidle
    rcases hspec with hsame | ⟨-, -, hactivates⟩
    · refine absurd ?_ hidle
      rw [← hsets]
      exact hsame.active nodeId (Set.notMem_empty _) hactive
    · exact (hactivates hactive).unlisted

theorem perform_installs {replica : Replica}
    (hinstalls : event.installs = some (nodeId, replica)) :
    s.Installs (s.perform platform now event) nodeId replica := by
  cases event with
  | replicaAdded otherId other | replicaAttached otherId other =>
    cases hinstalls
    exact installs_of_success rfl rfl rfl
  | _ => cases hinstalls

theorem perform_cases (hlifetime : event ≠ .keepaliveStarted) :
    s.Declines ∅ (s.perform platform now event) ∨
      (∃ nodeId handle, event = .heartbeatSucceeded nodeId handle ∧
        s.Declines {nodeId} (s.perform platform now event) ∧
        nodeId ∉ s.sets.terminal ∧
        (nodeId ∈ (s.perform platform now event).sets.active →
          s.Activates (s.perform platform now event) nodeId handle false)) ∨
      ∃ nodeId replica, event.installs = some (nodeId, replica) ∧
        s.Installs (s.perform platform now event) nodeId replica := by
  cases hinstalls : event.installs with
  | some installed =>
    exact .inr (.inr ⟨installed.1, installed.2, rfl, perform_installs hinstalls⟩)
  | none =>
    by_cases harrived : ∃ nodeId handle, event = .heartbeatSucceeded nodeId handle
    · obtain ⟨nodeId, handle, rfl⟩ := harrived
      have hspec := @markHeartbeatSuccess_spec _ _ platform now s nodeId handle false
      rcases hspec with hsame | ⟨hfree, hliving, hactivates⟩
      · exact .inl hsame
      · exact .inr (.inl ⟨nodeId, handle, rfl, hfree, hliving rfl, hactivates⟩)
    · left
      push Not at harrived
      exact declines_perform hlifetime harrived hinstalls

end ExecutionSession

/-! ## The keepalive -/

namespace Keepalive

variable {platform : Platform} {settings : HeartbeatSettings}
  {k after : Keepalive ι} {label : ℤ × KeepaliveMove ι}

/-- The move brings the session the news that a heartbeat of the replica has
arrived. -/
def Delivers (k : Keepalive ι) (nodeId : ι) (handle : ℕ) :
    KeepaliveMove ι → Prop
  | .elsewhere (.heartbeatSucceeded other otherHandle) =>
    other = nodeId ∧ otherHandle = handle
  | .examine other _ | .collect other =>
    other = nodeId ∧ ∃ pending, k.pending.lookup nodeId = some pending ∧
      pending.handle = handle ∧ pending.future = .succeeded
  | _ => False

def InLifetime (k : Keepalive ι) (label : ℤ × KeepaliveMove ι) : Prop :=
  match label.2 with
  | .elsewhere event =>
    event.beginsLifetime = false ∧ Disjoint event.newHandles k.handles
  | _ => True

instance (k : Keepalive ι) (label : ℤ × KeepaliveMove ι) :
    Decidable (k.InLifetime label) :=
  match label with
  | (_, .elsewhere event) => inferInstanceAs (Decidable
      (event.beginsLifetime = false ∧ Disjoint event.newHandles k.handles))
  | (_, .threadRuns _) | (_, .rpcStarts _) | (_, .rpcEnds _ _)
  | (_, .examine _ _) | (_, .submit _ _ _) | (_, .collect _)
  | (_, .dropStale _) => isTrue trivial

def Ended (k : Keepalive ι) (nodeId : ι) (handle : ℕ) : Prop :=
  handle ∈ k.handles ∧ (nodeId ∈ k.session.sets.terminal ∨
    k.session.isCurrentReplica nodeId handle = false)

structure Performs (k after : Keepalive ι) (label : ℤ × KeepaliveMove ι)
    (event : Event ι) (platform : Platform) : Prop where
  session : after.session = k.session.perform platform label.1 event
  handles : after.handles = k.handles ∪ event.newHandles
  lifetime : k.InLifetime label → event ≠ .keepaliveStarted
  fresh : k.InLifetime label → Disjoint event.newHandles k.handles
  arrived : ∀ nodeId handle, event = .heartbeatSucceeded nodeId handle →
    k.Delivers nodeId handle label.2
  installs : ∀ installed, event.installs = some installed →
    label.2 = .elsewhere event

variable {event : Event ι} {nodeId : ι} {handle : ℕ}

theorem performs_of_own
    (hsession : after.session = k.session.perform platform label.1 event)
    (hhandles : after.handles = k.handles) (hnone : event.installs = none)
    (hlifetime : event ≠ .keepaliveStarted)
    (harrived : ∀ nodeId handle, event = .heartbeatSucceeded nodeId handle →
      k.Delivers nodeId handle label.2) :
    k.Performs after label event platform := by
  have hnew : event.newHandles = ∅ := by
    unfold Event.newHandles
    rw [hnone]
    rfl
  refine ⟨hsession, ?_, fun _ => hlifetime, ?_, harrived, ?_⟩
  · rw [hnew, Finset.union_empty]
    exact hhandles
  · rw [hnew]
    exact fun _ => Finset.disjoint_empty_left _
  · rw [hnone]
    rintro _ ⟨⟩

theorem conclude_performs {now : ℤ} {pending : HeartbeatPending}
    {popped : Keepalive ι} {move : KeepaliveMove ι}
    (hsession : popped.session = k.session)
    (hhandles : popped.handles = k.handles) (hdone : pending.future.done = true)
    (hdelivers : pending.future = .succeeded →
      k.Delivers nodeId pending.handle move) :
    ∃ event, k.Performs (popped.conclude platform now nodeId pending) (now, move)
      event platform := by
  unfold conclude
  cases hfuture : pending.future with
  | waiting | running => rw [hfuture] at hdone; cases hdone
  | succeeded =>
    refine ⟨.heartbeatSucceeded nodeId pending.handle, performs_of_own ?_ hhandles
      rfl (fun h => by cases h) ?_⟩
    · dsimp only
      rw [hsession]
      rfl
    · rintro _ _ ⟨⟩
      exact hdelivers hfuture
  | failed error =>
    refine ⟨.heartbeatFailed nodeId pending.handle error, performs_of_own ?_
      hhandles rfl (fun h => by cases h) (fun _ _ h => by cases h)⟩
    dsimp only
    rw [hsession]
    rfl

theorem changeHeartbeat_kept
    {change : HeartbeatPending → Option HeartbeatPending}
    (hchange : k.changeHeartbeat nodeId change = some after) :
    after.session = k.session ∧ after.handles = k.handles := by
  unfold changeHeartbeat at hchange
  split at hchange
  · obtain ⟨changed, -, rfl⟩ := Option.map_eq_some_iff.mp hchange
    exact ⟨rfl, rfl⟩
  · obtain ⟨changed, -, rfl⟩ := Option.map_eq_some_iff.mp hchange
    exact ⟨rfl, rfl⟩
  · cases hchange

theorem examine_performs {now tickStartedAt : ℤ}
    (hexamine : k.examine platform settings now tickStartedAt nodeId =
      some after) :
    (after.session = k.session ∧ after.handles = k.handles) ∨
      ∃ event, k.Performs after (now, .examine nodeId tickStartedAt) event
        platform := by
  unfold examine at hexamine
  split at hexamine
  · cases hexamine
  next pending hpending =>
  dsimp only at hexamine
  split at hexamine
  · left
    split at hexamine <;> cases hexamine <;> exact ⟨rfl, rfl⟩
  next replica hreplica =>
  split at hexamine
  · left
    split at hexamine <;> cases hexamine <;> exact ⟨rfl, rfl⟩
  split at hexamine
  · next hdone =>
    cases hexamine
    exact .inr (conclude_performs rfl rfl hdone fun hsucceeded =>
      ⟨rfl, pending, hpending, rfl, hsucceeded⟩)
  split at hexamine
  · cases hexamine
    exact .inl ⟨rfl, rfl⟩
  · right
    refine ⟨.failureRecorded nodeId pending.handle
      (pending.timeoutError platform tickStartedAt), ?_⟩
    split at hexamine <;> cases hexamine <;>
      exact performs_of_own rfl rfl rfl (fun h => by cases h)
        (fun _ _ h => by cases h)

theorem submit_performs {now : ℤ} {heartbeatIds : Finset ι} {globalSlot : Bool}
    (hsubmit : k.submit settings now nodeId heartbeatIds globalSlot =
      some after) :
    (after.session = k.session ∧ after.handles = k.handles) ∨
      ∃ event, k.Performs after (now, .submit nodeId heartbeatIds globalSlot)
        event platform := by
  unfold submit at hsubmit
  split at hsubmit
  · cases hsubmit
  split at hsubmit
  · cases hsubmit
    exact .inl ⟨rfl, rfl⟩
  split at hsubmit
  · cases hsubmit
    exact .inr ⟨.activeDiscarded nodeId none, performs_of_own rfl rfl rfl
      (fun h => by cases h) (fun _ _ h => by cases h)⟩
  · left
    split at hsubmit <;> cases hsubmit <;> exact ⟨rfl, rfl⟩

theorem collect_performs {now : ℤ}
    (hcollect : k.collect platform now nodeId = some after) :
    (after.session = k.session ∧ after.handles = k.handles) ∨
      ∃ event, k.Performs after (now, .collect nodeId) event platform := by
  unfold collect at hcollect
  split at hcollect
  · cases hcollect
  next pending hpending =>
  split at hcollect
  · cases hcollect
    exact .inl ⟨rfl, rfl⟩
  next hdone =>
  dsimp only at hcollect
  split at hcollect
  · cases hcollect
    exact .inl ⟨rfl, rfl⟩
  · cases hcollect
    exact .inr (conclude_performs rfl rfl (Bool.not_eq_false _ ▸ hdone)
      fun hsucceeded => ⟨rfl, pending, hpending, rfl, hsucceeded⟩)

theorem step_performs (hstep : k.step platform settings label = some after) :
    (after.session = k.session ∧ after.handles = k.handles) ∨
      ∃ event, k.Performs after label event platform := by
  obtain ⟨now, move⟩ := label
  cases move with
  | elsewhere event =>
    cases hstep
    refine .inr ⟨event, rfl, rfl, ?_, ?_, ?_, fun _ _ => rfl⟩
    · rintro ⟨hlifetime, -⟩ rfl
      cases hlifetime
    · exact fun hlifetime => hlifetime.2
    · rintro nodeId handle rfl
      exact ⟨rfl, rfl⟩
  | threadRuns nodeId | rpcStarts nodeId | rpcEnds nodeId error =>
    exact .inl (changeHeartbeat_kept hstep)
  | examine nodeId tickStartedAt => exact examine_performs hstep
  | submit nodeId heartbeatIds globalSlot => exact submit_performs hstep
  | collect nodeId => exact collect_performs hstep
  | dropStale nodeId =>
    simp only [step, dropStale] at hstep
    split at hstep
    · cases hstep
    · split at hstep <;> cases hstep <;> exact .inl ⟨rfl, rfl⟩

/-! ## What a move cannot bring back -/

theorem blacklist_kept (hlifetime : k.InLifetime label)
    (hstep : k.step platform settings label = some after)
    (hlisted : k.session.isBlacklisted nodeId = true) :
    after.session.isBlacklisted nodeId = true := by
  rcases step_performs hstep with ⟨hsame, -⟩ | ⟨event, hperforms⟩
  · rw [hsame]
    exact hlisted
  rw [hperforms.session]
  rcases ExecutionSession.perform_cases (hperforms.lifetime hlifetime) with
    hdeclines | ⟨_, _, -, hdeclines, -⟩ | ⟨_, _, -, hinstalls⟩
  · exact hdeclines.blacklist nodeId hlisted
  · exact hdeclines.blacklist nodeId hlisted
  · exact hinstalls.blacklist nodeId hlisted

theorem handles_subset (hstep : k.step platform settings label = some after) :
    k.handles ⊆ after.handles := by
  rcases step_performs hstep with ⟨-, hsame⟩ | ⟨event, hperforms⟩
  · rw [hsame]
  · rw [hperforms.handles]
    exact Finset.subset_union_left

omit [DecidableEq ι] in
theorem newHandles_installs {replica : Replica}
    (hinstalls : event.installs = some (nodeId, replica)) :
    event.newHandles = {replica.handle} := by
  unfold Event.newHandles
  rw [hinstalls]
  rfl

section

variable (hlifetime : k.InLifetime label)

include hlifetime

variable (hstep : k.step platform settings label = some after)

include hstep

theorem current_of_step
    (hcurrent : after.session.isCurrentReplica nodeId handle = true) :
    k.session.isCurrentReplica nodeId handle = true ∨
      (handle ∉ k.handles ∧ handle ∈ after.handles) := by
  rcases step_performs hstep with ⟨hsame, -⟩ | ⟨event, hperforms⟩
  · rw [hsame] at hcurrent
    exact .inl hcurrent
  rw [hperforms.session] at hcurrent
  rcases ExecutionSession.perform_cases (hperforms.lifetime hlifetime) with
    hdeclines | ⟨_, _, -, hdeclines, -⟩ | ⟨other, replica, hbrings, hinstalls⟩
  · exact .inl (hdeclines.current nodeId handle hcurrent)
  · exact .inl (hdeclines.current nodeId handle hcurrent)
  · rcases hinstalls.current nodeId handle hcurrent with hold | ⟨-, hnew⟩
    · exact .inl hold
    · right
      have hfresh := hperforms.fresh hlifetime
      rw [newHandles_installs hbrings, Finset.disjoint_singleton_left,
        ← hnew] at hfresh
      rw [hperforms.handles, newHandles_installs hbrings, ← hnew]
      exact ⟨hfresh, Finset.mem_union_right _ (Finset.mem_singleton_self _)⟩

theorem terminal_of_step (hterminal : nodeId ∈ k.session.sets.terminal) :
    nodeId ∈ after.session.sets.terminal ∨
      ∀ handle ∈ k.handles,
        after.session.isCurrentReplica nodeId handle = false := by
  rcases step_performs hstep with ⟨hsame, -⟩ | ⟨event, hperforms⟩
  · rw [hsame]
    exact .inl hterminal
  rw [hperforms.session]
  rcases ExecutionSession.perform_cases (hperforms.lifetime hlifetime) with
    hdeclines | ⟨other, _, -, hdeclines, hliving, -⟩ |
      ⟨other, replica, hbrings, hinstalls⟩
  · exact .inl (hdeclines.terminal nodeId (Set.notMem_empty _) hterminal)
  · left
    refine hdeclines.terminal nodeId ?_ hterminal
    rintro rfl
    exact hliving hterminal
  · by_cases hsame : nodeId = other
    · right
      intro handle hknown
      rw [← Bool.not_eq_true]
      intro hcurrent
      subst hsame
      have hfresh := hperforms.fresh hlifetime
      rw [newHandles_installs hbrings, Finset.disjoint_singleton_left] at hfresh
      exact hfresh (hinstalls.replaced handle hcurrent ▸ hknown)
    · exact .inl (hinstalls.terminal nodeId hsame hterminal)

theorem ended_kept (hended : k.Ended nodeId handle) : after.Ended nodeId handle := by
  obtain ⟨hknown, hgone⟩ := hended
  refine ⟨handles_subset hstep hknown, ?_⟩
  rcases hgone with hterminal | hreplaced
  · exact (terminal_of_step hlifetime hstep hterminal).imp_right
      fun hnone => hnone handle hknown
  · right
    rw [← Bool.not_eq_true] at *
    intro hcurrent
    rcases current_of_step hlifetime hstep hcurrent with hold | ⟨hnew, -⟩
    · exact hreplaced hold
    · exact hnew hknown

theorem active_of_step (hidle : nodeId ∉ k.session.sets.active)
    (hactive : nodeId ∈ after.session.sets.active) :
    after.session.isBlacklisted nodeId = false ∧
      ((∃ handle, k.Delivers nodeId handle label.2 ∧
          k.session.isCurrentReplica nodeId handle = true ∧
          nodeId ∉ k.session.sets.terminal) ∨
        ∃ event replica, label.2 = .elsewhere event ∧
          event.installs = some (nodeId, replica) ∧
          replica.handle ∉ k.handles) := by
  rcases step_performs hstep with ⟨hsame, -⟩ | ⟨event, hperforms⟩
  · exact absurd (hsame ▸ hactive) hidle
  rw [hperforms.session] at hactive ⊢
  rcases ExecutionSession.perform_cases (hperforms.lifetime hlifetime) with
    hdeclines | ⟨other, handle, rfl, hdeclines, hliving, hactivates⟩ |
      ⟨other, replica, hbrings, hinstalls⟩
  · exact absurd (hdeclines.active nodeId (Set.notMem_empty _) hactive) hidle
  · by_cases hsame : nodeId = other
    · subst hsame
      have hnow := hactivates hactive
      exact ⟨hnow.unlisted, .inl ⟨handle, hperforms.arrived nodeId handle rfl,
        hnow.current, hliving⟩⟩
    · exact absurd (hdeclines.active nodeId hsame hactive) hidle
  · by_cases hsame : nodeId = other
    · subst hsame
      have hfresh := hperforms.fresh hlifetime
      rw [newHandles_installs hbrings, Finset.disjoint_singleton_left] at hfresh
      exact ⟨hinstalls.unlisted hactive hidle, .inr ⟨event, replica,
        hperforms.installs _ hbrings, hbrings, hfresh⟩⟩
    · exact absurd (hinstalls.active nodeId hsame hactive) hidle

end

/-! ## Runs -/

theorem blacklist_of_run {later : Keepalive ι}
    (hrun : GuardedRun (step platform settings) InLifetime k later)
    (hlisted : k.session.isBlacklisted nodeId = true) :
    later.session.isBlacklisted nodeId = true ∧
      (nodeId ∈ later.session.sets.active → nodeId ∈ k.session.sets.active) := by
  refine hrun.invariant (fun later => later.session.isBlacklisted nodeId = true ∧
    (nodeId ∈ later.session.sets.active → nodeId ∈ k.session.sets.active))
    ⟨hlisted, id⟩ ?_
  rintro mid label next ⟨hmid, hback⟩ hlifetime hstep
  have hnext := blacklist_kept hlifetime hstep hmid
  refine ⟨hnext, fun hactive => hback ?_⟩
  by_contra hidle
  obtain ⟨hunlisted, -⟩ := active_of_step hlifetime hstep hidle hactive
  rw [hnext] at hunlisted
  cases hunlisted

theorem ended_of_run {later : Keepalive ι}
    (hrun : GuardedRun (step platform settings) InLifetime k later)
    (hended : k.Ended nodeId handle) : later.Ended nodeId handle :=
  hrun.invariant (fun later => later.Ended nodeId handle) hended
    fun _ _ _ hmid hlifetime hstep => ended_kept hlifetime hstep hmid

theorem delivers_unique {other : ℕ} {move : KeepaliveMove ι}
    (hdelivers : k.Delivers nodeId handle move)
    (hother : k.Delivers nodeId other move) : handle = other := by
  have hpending : ∀ {place : ι},
      (place = nodeId ∧ ∃ pending, k.pending.lookup nodeId = some pending ∧
        pending.handle = handle ∧ pending.future = .succeeded) →
      (place = nodeId ∧ ∃ pending, k.pending.lookup nodeId = some pending ∧
        pending.handle = other ∧ pending.future = .succeeded) →
      handle = other := by
    rintro _ ⟨-, pending, hfound, rfl, -⟩ ⟨-, same, hsame, rfl, -⟩
    rw [hfound] at hsame
    cases hsame
    rfl
  cases move with
  | examine place tickStartedAt | collect place => exact hpending hdelivers hother
  | elsewhere event =>
    cases event with
    | heartbeatSucceeded place found =>
      exact hdelivers.2.symm.trans hother.2
    | _ => exact hdelivers.elim
  | _ => exact hdelivers.elim

theorem installs_of_delivers
    (hdelivers : k.Delivers nodeId handle (.elsewhere event)) :
    event.installs = none := by
  cases event with
  | heartbeatSucceeded place found => rfl
  | _ => exact hdelivers.elim

theorem active_of_ended (hended : k.Ended nodeId handle)
    (hlifetime : k.InLifetime label)
    (hdelivers : k.Delivers nodeId handle label.2)
    (hstep : k.step platform settings label = some after)
    (hactive : nodeId ∈ after.session.sets.active) :
    nodeId ∈ k.session.sets.active := by
  by_contra hidle
  obtain ⟨-, hcause⟩ := active_of_step hlifetime hstep hidle hactive
  rcases hcause with ⟨other, hother, hcurrent, hliving⟩ |
    ⟨event, replica, hmove, hinstalls, -⟩
  · rw [← delivers_unique hdelivers hother] at hcurrent
    rcases hended.2 with hterminal | hreplaced
    · exact hliving hterminal
    · rw [hcurrent] at hreplaced
      cases hreplaced
  · rw [hmove] at hdelivers
    rw [installs_of_delivers hdelivers] at hinstalls
    cases hinstalls

theorem known_begin (session : ExecutionSession ι)
    (stalePending : OrderedDict ι HeartbeatPending)
    (hcurrent : (begin session stalePending).session.isCurrentReplica nodeId
      handle = true) : handle ∈ (begin session stalePending).handles := by
  unfold ExecutionSession.isCurrentReplica begin ExecutionSession.startKeepalive
    at hcurrent
  rw [lookup_mapValues] at hcurrent
  cases hfound : session.replicas.lookup nodeId with
  | none =>
    rw [hfound] at hcurrent
    cases hcurrent
  | some replica =>
    rw [hfound, Option.map_some, Option.any_some, decide_eq_true_eq] at hcurrent
    refine List.mem_toFinset.mpr (List.mem_map.mpr ⟨replica, ?_, hcurrent⟩)
    exact mem_values.mpr ⟨nodeId, hfound⟩

theorem known_of_run {session : ExecutionSession ι}
    {stalePending : OrderedDict ι HeartbeatPending}
    (hrun : GuardedRun (step platform settings) InLifetime
      (begin session stalePending) k)
    (hcurrent : k.session.isCurrentReplica nodeId handle = true) :
    handle ∈ k.handles := by
  refine hrun.invariant (fun k => ∀ nodeId handle,
    k.session.isCurrentReplica nodeId handle = true → handle ∈ k.handles)
    (fun _ _ => known_begin session stalePending) ?_ nodeId handle hcurrent
  intro mid label next hmid hlifetime hstep place found hfound
  rcases current_of_step hlifetime hstep hfound with hold | ⟨-, hnew⟩
  · exact handles_subset hstep (hmid place found hold)
  · exact hnew

/-- Within one keepalive lifetime, whatever the order of ticks, heartbeats,
failures and compensations: a blacklisted node stays blacklisted and out of the
active set, an ended replica stays ended and its heartbeats activate nothing,
and what makes a node active is a heartbeat of its living replica or a new
replica, on a node that is not blacklisted. -/
theorem no_replica_comes_back (platform : Platform) (settings : HeartbeatSettings)
    (session : ExecutionSession ι)
    (stalePending : OrderedDict ι HeartbeatPending)
    (hrun : GuardedRun (step platform settings) InLifetime
      (begin session stalePending) k) :
    (∀ nodeId handle, k.session.isCurrentReplica nodeId handle = true →
      handle ∈ k.handles) ∧
    (∀ nodeId later, k.session.isBlacklisted nodeId = true →
      GuardedRun (step platform settings) InLifetime k later →
        later.session.isBlacklisted nodeId = true ∧
          (nodeId ∈ later.session.sets.active →
            nodeId ∈ k.session.sets.active)) ∧
    (∀ nodeId handle later, k.Ended nodeId handle →
      GuardedRun (step platform settings) InLifetime k later →
        later.Ended nodeId handle ∧
          ∀ label after, later.InLifetime label →
            later.Delivers nodeId handle label.2 →
            later.step platform settings label = some after →
              nodeId ∈ after.session.sets.active →
                nodeId ∈ later.session.sets.active) ∧
    ∀ nodeId label after, k.InLifetime label →
      k.step platform settings label = some after →
        nodeId ∉ k.session.sets.active →
          nodeId ∈ after.session.sets.active →
            k.session.isBlacklisted nodeId = false ∧
              ((∃ handle, k.Delivers nodeId handle label.2 ∧
                  k.session.isCurrentReplica nodeId handle = true ∧
                  nodeId ∉ k.session.sets.terminal) ∨
                ∃ event replica, label.2 = .elsewhere event ∧
                  event.installs = some (nodeId, replica) ∧
                  replica.handle ∉ k.handles) := by
  refine ⟨fun _ _ => known_of_run hrun, fun _ _ hlisted hmore =>
    blacklist_of_run hmore hlisted, ?_, ?_⟩
  · intro nodeId handle later hended hmore
    have hlater := ended_of_run hmore hended
    exact ⟨hlater, fun _ _ hlifetime hdelivers hstep =>
      active_of_ended hlater hlifetime hdelivers hstep⟩
  · intro nodeId label after hlifetime hstep hidle hactive
    obtain ⟨hunlisted, hcause⟩ := active_of_step hlifetime hstep hidle hactive
    refine ⟨?_, hcause⟩
    rw [← Bool.not_eq_true] at *
    exact fun hlisted => hunlisted (blacklist_kept hlifetime hstep hlisted)

/-! ### A pool that is gone and comes back as another one -/

def usualHeartbeats : HeartbeatSettings :=
  ⟨0, 0, 0, 0, 256, 10 * secondTicks⟩

def goneRun : List (ℤ × KeepaliveMove String) :=
  [(1000000, .submit "node-2" {"node-1", "node-2"} true),
    (1000001, .threadRuns "node-2"), (1000002, .rpcStarts "node-2"),
    (1200000, .rpcEnds "node-2" (some ExecutionSession.poolGone)),
    (2000000, .examine "node-2" 2000000)]

def replacedRun : List (ℤ × KeepaliveMove String) :=
  [(3000000, .elsewhere (.heartbeatSucceeded "node-2" 2)),
    (4000000, .elsewhere (.replicaAdded "node-2" (ExecutionSession.runningPool 3)))]

theorem no_replica_comes_back_twoPools :
    ∃ k later : Keepalive String,
      checkedRun (step ExecutionSession.samplePlatform usualHeartbeats) InLifetime
        (begin ExecutionSession.twoPools ∅) goneRun = some k ∧
      checkedRun (step ExecutionSession.samplePlatform usualHeartbeats) InLifetime
        k replacedRun = some later ∧
      k.Ended "node-2" 2 ∧ later.Ended "node-2" 2 ∧
      "node-2" ∉ k.session.sets.active ∧
      "node-2" ∈ later.session.sets.active := by
  have hcheck : (checkedRun
      (step ExecutionSession.samplePlatform usualHeartbeats) InLifetime
        (begin ExecutionSession.twoPools ∅) goneRun).map (fun k =>
      (decide (2 ∈ k.handles), decide ("node-2" ∈ k.session.sets.terminal),
        decide ("node-2" ∈ k.session.sets.active),
        (checkedRun (step ExecutionSession.samplePlatform usualHeartbeats)
          InLifetime k replacedRun).map fun later =>
            decide ("node-2" ∈ later.session.sets.active))) =
      some (true, true, false, some true) := by
    decide +kernel
  obtain ⟨k, hrun, hfacts⟩ := Option.map_eq_some_iff.mp hcheck
  simp only [Prod.mk.injEq, decide_eq_true_eq, decide_eq_false_iff_not] at hfacts
  obtain ⟨hknown, hterminal, hidle, hlater⟩ := hfacts
  obtain ⟨later, hmore, hactive⟩ := Option.map_eq_some_iff.mp hlater
  have hended : k.Ended "node-2" 2 := ⟨hknown, .inl hterminal⟩
  obtain ⟨-, -, hends, -⟩ := no_replica_comes_back ExecutionSession.samplePlatform
    usualHeartbeats ExecutionSession.twoPools ∅ (guardedRun_of_checkedRun _ hrun)
  exact ⟨k, later, hrun, hmore, hended,
    (hends "node-2" 2 later hended (guardedRun_of_checkedRun _ hmore)).1, hidle,
    of_decide_eq_true hactive⟩

end Keepalive

end PycloudParallel.ReplicaStates
