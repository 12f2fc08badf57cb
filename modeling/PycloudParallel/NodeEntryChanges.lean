import PycloudParallel.NodeResourceRebuild

/-!
# What the steps of a node do to its entries

Most steps change one entry in a way that needs no knowledge of the step: a
stop, a heartbeat, a liveness report.  A relation between nodes that allows
these *routine* changes and composes holds of every step, once the few steps
that insert an entry or write to one late are shown to satisfy it.
-/

namespace PycloudParallel.NodeResources

inductive Resource.RoutineChange (kind : ResourceKind) (old : Resource) :
    Resource → Prop
  | stop (reason : String) : RoutineChange kind old (old.stop reason)
  | failDependency (reason : String) :
      RoutineChange kind old (old.failDependency reason)
  | heartbeat (hlive : old.status ≠ .stopped) :
      RoutineChange kind old old.heartbeat
  | reportedAlive (aliveCount : ℕ) (hlive : old.status ≠ .stopped) :
      RoutineChange kind old { old with aliveWorkers := aliveCount }
  | noWorkers : RoutineChange kind old { old with aliveWorkers := 0 }
  | createStage (stage : CreateStage) :
      RoutineChange kind old { old with createStage := stage }
  | announce (codeVersion : String) (workers : ℕ) (initialGlobals : Bool)
      (hlive : old.status ≠ .stopped) :
      RoutineChange kind old
        (old.announceExecutor kind codeVersion workers initialGlobals)
  | markCreateFailed (reason : String) :
      RoutineChange kind old (old.markCreateFailed reason)
  | publishFailure (stage : CreateStage) :
      RoutineChange kind old (old.publishFailure stage)

namespace Node

variable {node next : Node}

@[simp] theorem entry_setEntry (node : Node) (kind other : ResourceKind)
    (id id' : ResourceId) (resource : Resource) :
    (node.setEntry kind id resource).entry other id' =
      if other = kind ∧ id' = id then some resource else node.entry other id' := by
  unfold entry setEntry
  by_cases hkind : other = kind
  · subst hkind
    simp only [Function.update_self, true_and, OrderedDict.lookup_set]
  · simp [hkind]

@[simp] theorem entry_eraseEntry (node : Node) (kind other : ResourceKind)
    (id id' : ResourceId) :
    (node.eraseEntry kind id).entry other id' =
      if other = kind ∧ id' = id then none else node.entry other id' := by
  unfold entry eraseEntry
  by_cases hkind : other = kind
  · subst hkind
    simp only [Function.update_self, true_and, OrderedDict.lookup_erase]
  · simp [hkind]

theorem entry_eraseEntries_ne (kind other : ResourceKind)
    (ids : List ResourceId) (node : Node) (id : ResourceId)
    (hne : other ≠ kind) :
    (eraseEntries kind ids node).entry other id = node.entry other id := by
  induction ids generalizing node with
  | nil => rfl
  | cons first rest ih =>
    rw [eraseEntries, ih, entry_eraseEntry, if_neg fun hkey => hne hkey.1]

theorem entry_eraseEntries (kind : ResourceKind) (ids : List ResourceId)
    (node : Node) (id : ResourceId) :
    (eraseEntries kind ids node).entry kind id =
      if id ∈ ids then none else node.entry kind id := by
  induction ids generalizing node with
  | nil => simp [eraseEntries]
  | cons first rest ih =>
    rw [eraseEntries, ih, entry_eraseEntry]
    by_cases hfirst : id = first <;> by_cases hrest : id ∈ rest <;>
      simp [hfirst, hrest]

variable {id : ResourceId} {kind : ResourceKind}

theorem not_running_of_mem_prunedIds {limit : ℕ}
    (hid : id ∈ node.prunedIds kind limit) {old : Resource}
    (hentry : node.entry kind id = some old) : old.isRunning kind = false := by
  have hinactive := List.mem_of_mem_take hid
  obtain ⟨⟨id', found⟩, hmem, hfst⟩ := List.mem_map.mp hinactive
  cases hfst
  obtain ⟨hitem, hnot⟩ := List.mem_filter.mp hmem
  have hlookup := OrderedDict.mem_items.mp hitem
  cases hentry.symm.trans hlookup
  simpa using hnot

theorem entry_prune (node : Node) (limit : ℕ) (kind : ResourceKind)
    (id : ResourceId) :
    (node.pruneInactiveResourceHistoryLocked limit).entry kind id =
      if id ∈ node.prunedIds kind limit then none else node.entry kind id := by
  unfold pruneInactiveResourceHistoryLocked
  cases kind with
  | service =>
    rw [entry_eraseEntries_ne .taskPool .service _ _ _ (by decide),
      entry_eraseEntries]
  | taskPool =>
    rw [entry_eraseEntries,
      entry_eraseEntries_ne .service .taskPool _ _ _ (by decide)]

theorem entry_of_prune {limit : ℕ} {resource : Resource}
    (hentry : (node.pruneInactiveResourceHistoryLocked limit).entry kind id =
      some resource) : node.entry kind id = some resource := by
  rw [entry_prune] at hentry
  split at hentry
  · cases hentry
  · exact hentry

theorem entry_prune_of_running {resource : Resource} (limit : ℕ)
    (hentry : node.entry kind id = some resource)
    (hrunning : resource.isRunning kind = true) :
    (node.pruneInactiveResourceHistoryLocked limit).entry kind id =
      some resource := by
  rw [entry_prune, if_neg, hentry]
  intro hmem
  have hnot := not_running_of_mem_prunedIds hmem hentry
  rw [hrunning] at hnot
  cases hnot

theorem nextRef_eraseEntries (kind : ResourceKind) (ids : List ResourceId)
    (node : Node) : (eraseEntries kind ids node).nextRef = node.nextRef := by
  induction ids generalizing node with
  | nil => rfl
  | cons first rest ih => exact ih _

theorem nextRef_prune (node : Node) (limit : ℕ) :
    (node.pruneInactiveResourceHistoryLocked limit).nextRef = node.nextRef := by
  unfold pruneInactiveResourceHistoryLocked
  rw [nextRef_eraseEntries, nextRef_eraseEntries]

structure EntryRules (R : Node → Node → Prop) : Prop where
  same : ∀ node next : Node, next.resources = node.resources →
    next.nextRef = node.nextRef → R node next
  andThen : ∀ {node mid next : Node}, R node mid →
    next.resources = mid.resources → next.nextRef = mid.nextRef → R node next
  change : ∀ (node : Node) kind id old new, node.entry kind id = some old →
    Resource.RoutineChange kind old new → R node (node.setEntry kind id new)
  prune : ∀ (node : Node) limit,
    R node (node.pruneInactiveResourceHistoryLocked limit)

/-- What steps outside the creates leave of a node but its entries. -/
structure SameSlots (node next : Node) : Prop where
  nextRef : next.nextRef = node.nextRef
  capacity : next.workerCapacity = node.workerCapacity
  reserved : next.workerReserved = node.workerReserved
  creates : next.creates = node.creates

theorem SameSlots.refl (node : Node) : SameSlots node node :=
  ⟨rfl, rfl, rfl, rfl⟩

/-- The rules for the steps outside the creates: no entry gets an executor. -/
structure RoutineRules (R : Node → Node → Prop) : Prop where
  same : ∀ node next : Node, next.resources = node.resources →
    SameSlots node next → R node next
  andThen : ∀ {node mid next : Node}, R node mid →
    next.resources = mid.resources → SameSlots mid next → R node next
  change : ∀ (node : Node) kind id old new, node.entry kind id = some old →
    Resource.RoutineChange kind old new →
      (new.executorReady = false ∨ new.executorReady = old.executorReady ∧
        new.status = old.status ∧ new.workerCount = old.workerCount) →
        R node (node.setEntry kind id new)
  prune : ∀ (node : Node) limit,
    R node (node.pruneInactiveResourceHistoryLocked limit)

def insertEntry (node : Node) (kind : ResourceKind) (id : ResourceId)
    (resource : Resource) : Node :=
  { node.setEntry kind id resource with nextRef := node.nextRef + 1 }

def SpecialSteps (R : Node → Node → Prop) (node : Node) : NodeLabel → Prop
  | .create id move =>
    ∀ create ∈ node.creates.lookup id,
      let request := create.request
      let kind := request.kind
      let resourceId := request.resourceId
      match move, create.progress with
      | .accept, .requested =>
        R node (node.insertEntry kind resourceId
          (request.skeleton node.nextRef))
      | .count, .prepared =>
        ∀ resource ∈ node.entry kind resourceId,
          request.waitReady = false → resource.status ≠ .stopped →
          R node (node.setEntry kind resourceId { resource with
            codeVersion := request.codeVersion
            createStage := .executorCreate })
      | .publish _, .executorCreated workers _ =>
        request.waitReady = true →
          R node (node.insertEntry kind resourceId
            (request.session node.nextRef workers))
      | .finalise, .warming workers _ =>
        ∀ resource ∈ node.entry kind resourceId,
          R node (node.setEntry kind resourceId (resource.finalise workers))
      | .rollback, .failing workers _ reason (.rememberFailed :: _) =>
        R node (node.insertEntry kind resourceId
          (request.failedEntry node.nextRef workers reason))
      | _, _ => True
  | .rebuild .finish =>
    ∀ rebuild ∈ node.rebuild, R node (applyAllRestored rebuild.results node)
  | .workerPids kind id pids =>
    ∀ resource ∈ node.entry kind id,
      R node (node.setEntry kind id { resource with aliveWorkers := pids })
  | .serviceDependencyFailure id =>
    ∀ session ∈ node.entry .service id,
      R node (node.setEntry .service id { session with readiness := .ready })
  | _ => True

variable {R : Node → Node → Prop}

namespace RoutineRules

variable (rules : RoutineRules R)

include rules

theorem refl (node : Node) : R node node :=
  rules.same node node rfl (.refl node)

theorem submitStop {mid : Node} (hfirst : R node mid)
    (host : Option HostRef) (key : ResourceKind × ResourceId) :
    R node (mid.submitStop host key) := by
  cases host <;> exact rules.andThen hfirst rfl ⟨rfl, rfl, rfl, rfl⟩

theorem stopService {id : ResourceId}
    {session : Resource} (hentry : node.entry .service id = some session)
    (reason : String) :
    R node (node.stopServiceResourceLocked id session reason) := by
  unfold stopServiceResourceLocked
  split
  · exact rules.refl node
  · exact rules.submitStop (rules.change node _ _ _ _ hentry (.stop _) (.inl rfl)) _ _

theorem stopTaskPool {id : ResourceId}
    {pool : Resource} (hentry : node.entry .taskPool id = some pool)
    (reason : String) :
    R node (node.stopTaskPoolResourceLocked id pool reason) :=
  rules.submitStop (rules.change node _ _ _ _ hentry (.stop _) (.inl rfl)) _ _

theorem rebuildStep {move : RebuildMove}
    (hspecial : node.SpecialSteps R (.rebuild move))
    (hstep : node.rebuildStep move = some next) : R node next := by
  unfold Node.rebuildStep at hstep
  split at hstep
  · cases hstep
    exact rules.same _ _ rfl ⟨rfl, rfl, rfl, rfl⟩
  · split at hstep
    · cases hstep
    · split at hstep <;> cases hstep <;> exact rules.same _ _ rfl ⟨rfl, rfl, rfl, rfl⟩
  · split at hstep
    · simp only [restoreTarget, Option.bind_eq_bind, Option.bind_eq_some_iff,
        Option.some.injEq] at hstep
      obtain ⟨state, -, rfl⟩ := hstep
      exact rules.same _ _ rfl ⟨rfl, rfl, rfl, rfl⟩
    · cases hstep
  · split at hstep
    · cases hstep
      unfold closeOldHost
      split <;> exact rules.same _ _ rfl ⟨rfl, rfl, rfl, rfl⟩
    · cases hstep
  · next rebuild hrebuild =>
    split at hstep
    · cases hstep
      exact rules.andThen (hspecial rebuild hrebuild) rfl ⟨rfl, rfl, rfl, rfl⟩
    · cases hstep
  · cases hstep

theorem globalsStep {id : UpdateId} {move : GlobalsMove}
    (hstep : node.globalsStep id move = some next) : R node next := by
  unfold Node.globalsStep at hstep
  split at hstep
  · unfold startGlobalsUpdate at hstep
    repeat' split at hstep
    all_goals cases hstep
    all_goals exact rules.same _ _ rfl ⟨rfl, rfl, rfl, rfl⟩
  · cases hstep
    exact rules.same _ _ rfl ⟨rfl, rfl, rfl, rfl⟩
  · split at hstep <;> cases hstep
    exact rules.same _ _ rfl ⟨rfl, rfl, rfl, rfl⟩
  · split at hstep
    · simp only [recreateExecutor, Option.bind_eq_bind,
        Option.bind_eq_some_iff, Option.some.injEq] at hstep
      obtain ⟨state, -, rfl⟩ := hstep
      exact rules.same _ _ rfl ⟨rfl, rfl, rfl, rfl⟩
    · cases hstep
  · cases hstep

theorem step {label : NodeLabel}
    (hspecial : node.SpecialSteps R label)
    (hbegin : ∀ id request, label ≠ .beginCreate id request)
    (hcreate : ∀ id move, label ≠ .create id move)
    (hstep : node.step label = some next) : R node next := by
  cases label with
  | beginCreate id request => exact absurd rfl (hbegin id request)
  | create id move => exact absurd rfl (hcreate id move)
  | endService ownerClientId id token reason =>
    simp only [Node.step, endService] at hstep
    split at hstep
    · cases hstep
    · next session hentry =>
      split_ifs at hstep
      cases hstep
      exact rules.stopService hentry reason
  | closeTaskPool ownerClientId id token reason =>
    simp only [Node.step, closeTaskPool] at hstep
    split at hstep
    · cases hstep
    · next pool hentry =>
      split_ifs at hstep <;> cases hstep <;> exact rules.stopTaskPool hentry _
  | heartbeatService ownerClientId id token =>
    simp only [Node.step, heartbeatService] at hstep
    split at hstep
    · cases hstep
    · next session hentry =>
      split_ifs at hstep with _ _ hlive
      cases hstep
      exact rules.change node _ _ _ _ hentry (.heartbeat hlive) (.inr ⟨rfl, rfl, rfl⟩)
  | heartbeatTaskPool ownerClientId id token =>
    simp only [Node.step, heartbeatTaskPool] at hstep
    split at hstep
    · cases hstep
    · next pool hentry =>
      split_ifs at hstep with _ _ hrunning
      cases hstep
      have hlive : pool.status ≠ .stopped := by
        rw [not_not.mp hrunning]
        nofun
      exact rules.change node _ _ _ _ hentry (.heartbeat hlive) (.inr ⟨rfl, rfl, rfl⟩)
  | serviceHealth id leaseExpired =>
    simp only [Node.step, handleServiceResourceHealthLocked] at hstep
    split at hstep
    · cases hstep
    · next session hentry =>
      split_ifs at hstep <;> cases hstep
      · exact rules.refl node
      · exact rules.refl node
      · exact rules.stopService hentry _
      · exact rules.refl node
  | taskPoolHealth id leaseExpired =>
    simp only [Node.step, handleTaskPoolResourceHealthLocked] at hstep
    split at hstep
    · cases hstep
    · next pool hentry =>
      split_ifs at hstep <;> cases hstep
      · exact rules.refl node
      · exact rules.refl node
      · exact rules.stopTaskPool hentry _
      · exact rules.refl node
  | reportedLiveness kind id aliveCount =>
    simp only [Node.step, applyReportedLiveness] at hstep
    split at hstep
    · cases hstep
      exact rules.refl node
    · next resource hentry =>
      split_ifs at hstep with hskipped <;> cases hstep
      · exact rules.refl node
      · have hlive : resource.status ≠ .stopped := by
          intro hstopped
          cases kind <;>
            simp [Resource.livenessSkipped, Resource.isRunning, hstopped]
              at hskipped
        exact rules.change node _ _ _ _ hentry (.reportedAlive aliveCount hlive)
          (.inr ⟨rfl, rfl, rfl⟩)
  | missingLiveness kind id =>
    simp only [Node.step, applyMissingLiveness] at hstep
    split at hstep
    · cases hstep
    · next resource hentry =>
      split_ifs at hstep <;> cases hstep
      · exact rules.change node _ _ _ _ hentry .noWorkers
          (.inr ⟨rfl, rfl, rfl⟩)
      · exact rules.refl node
  | workerPids kind id pids =>
    simp only [Node.step, executorWorkerPids, Option.some.injEq] at hstep
    split at hstep <;> subst hstep
    · exact rules.refl node
    · next resource hentry => exact hspecial resource hentry
  | serviceDependencyFailure id =>
    simp only [Node.step, markServiceDependencyFailureLocked,
      Option.some.injEq] at hstep
    split at hstep <;> subst hstep
    · exact rules.refl node
    · next session hentry => exact hspecial session hentry
  | taskPoolDependencyFailure id reason =>
    simp only [Node.step, markTaskPoolDependencyFailureLocked,
      Option.some.injEq] at hstep
    split at hstep
    · subst hstep
      exact rules.refl node
    · next pool hentry =>
      split at hstep <;> subst hstep
      · exact rules.refl node
      · exact rules.submitStop
          (rules.change node _ _ _ _ hentry (.failDependency reason)
            (.inl rfl)) _ _
  | cleanup stop =>
    simp only [Node.step, cleanupStep] at hstep
    split_ifs at hstep
    cases hstep
    exact rules.same _ _ rfl ⟨rfl, rfl, rfl, rfl⟩
  | rebuild move => exact rules.rebuildStep hspecial hstep
  | globals id move => exact rules.globalsStep hstep
  | prune limit =>
    simp only [Node.step, pruneInactiveResourceHistoryLocked,
      Option.some.injEq] at hstep
    subst hstep
    exact rules.prune node limit

end RoutineRules

namespace EntryRules

variable (rules : EntryRules R)

include rules

theorem routine : RoutineRules R where
  same node next hresources hslots :=
    rules.same node next hresources hslots.nextRef
  andThen hfirst hresources hslots :=
    rules.andThen hfirst hresources hslots.nextRef
  change node kind id old new hentry hchange _ :=
    rules.change node kind id old new hentry hchange
  prune := rules.prune

theorem rollback {id : CreateId} {create : Create}
    {workers : ℕ} {host : Option HostRef} {reason : String}
    {plan : List RollbackAction}
    (hlookup : node.creates.lookup id = some create)
    (hprogress : create.progress = .failing workers host reason plan)
    (hspecial : node.SpecialSteps R (.create id .rollback)) :
    R node (node.rollbackCreate id create workers host reason plan) := by
  cases plan with
  | nil => exact rules.same _ _ rfl rfl
  | cons action rest =>
    have haction : R node
        (node.rollbackAction create.request workers host reason action) := by
      cases action with
      | release => exact rules.same _ _ rfl rfl
      | stopExecutor => cases host <;> exact rules.same _ _ rfl rfl
      | rememberFailed =>
        have hinsert := hspecial create hlookup
        simp only [hprogress] at hinsert
        exact hinsert
      | markFailed =>
        simp only [rollbackAction]
        split
        · exact rules.routine.refl node
        · next resource hentry =>
          exact rules.change node _ _ _ _ hentry (.markCreateFailed reason)
      | publishFailure stage =>
        simp only [rollbackAction]
        split
        · exact rules.routine.refl node
        · next resource hentry =>
          exact rules.change node _ _ _ _ hentry (.publishFailure stage)
    exact rules.andThen haction rfl rfl

theorem publishBackground (node : Node) (id : CreateId)
    (create : Create) (workers : ℕ) (host : HostRef) (error : Option String) :
    R node (node.publishBackground id create workers host error) := by
  unfold Node.publishBackground
  dsimp only
  split
  · exact rules.same _ _ rfl rfl
  · next resource hentry =>
    split
    · exact rules.same _ _ rfl rfl
    · next hlive =>
      have hshown := rules.change node _ _ _ _ hentry
        (.announce create.request.codeVersion workers
          create.request.initialGlobals hlive)
      split <;> exact rules.andThen hshown rfl rfl

theorem createStep {id : CreateId} {create : Create}
    {move : CreateMove} (hlookup : node.creates.lookup id = some create)
    (hspecial : node.SpecialSteps R (.create id move))
    (hstep : node.createStep id create move = some next) : R node next := by
  have hcreate := hspecial create hlookup
  unfold Node.createStep at hstep
  split at hstep
  all_goals rename_i hprogress
  all_goals try simp only [hprogress] at hcreate
  · -- accept
    cases hstep
    exact rules.andThen hcreate rfl rfl
  · -- start
    cases hstep
    unfold startCreate
    dsimp only
    split
    · exact rules.same _ _ rfl rfl
    · next resource hentry =>
      split
      · exact rules.same _ _ rfl rfl
      · exact rules.andThen
          (rules.change node _ _ _ _ hentry (.createStage .artifactPrepare))
          rfl rfl
  · -- prepare
    cases hstep
    unfold prepareCreate
    obtain ⟨hosts, hopened⟩ := node.openClient_eq
      (create.request.kind, create.request.resourceId) _
    rw [hopened]
    dsimp only
    split <;> exact rules.same _ _ rfl rfl
  · -- count
    cases hstep
    unfold countActiveWorkers
    dsimp only
    split
    · split <;> exact rules.same _ _ rfl rfl
    · next hwait =>
      split
      · exact rules.same _ _ rfl rfl
      · next resource hentry =>
        split
        · exact rules.same _ _ rfl rfl
        · next hlive =>
          exact rules.andThen
            (hcreate resource hentry (by simpa using hwait) hlive) rfl rfl
  · -- the host raises
    cases hstep
    exact rules.same _ _ rfl rfl
  · -- reserve
    cases hstep
    unfold reserveForCreate
    dsimp only
    split
    · exact rules.same _ _ rfl rfl
    · split <;> exact rules.same _ _ rfl rfl
  · -- create the executor
    simp only [createExecutor, Option.bind_eq_bind,
      Option.bind_eq_some_iff] at hstep
    obtain ⟨state, -, hstep⟩ := hstep
    split at hstep <;> cases hstep <;> exact rules.same _ _ rfl rfl
  · -- the preload raises
    cases hstep
    exact rules.same _ _ rfl rfl
  · -- publish
    split at hstep <;> cases hstep
    · next hwait => exact rules.andThen (hcreate hwait) rfl rfl
    · exact rules.publishBackground node id create _ _ _
  · -- release
    cases hstep
    exact rules.same _ _ rfl rfl
  · -- announce the warmup
    split at hstep <;> cases hstep
    unfold beginWarmup
    dsimp only
    split
    · exact rules.routine.refl node
    · next resource hentry =>
      exact rules.change node _ _ _ _ hentry (.createStage .globalsWarmup)
  · -- the warmup raises before the entry shows the executor
    split at hstep <;> cases hstep
    exact rules.same _ _ rfl rfl
  · -- the warmup raises after the release
    split at hstep <;> cases hstep
    exact rules.same _ _ rfl rfl
  · -- finalise
    cases hstep
    unfold finaliseCreate
    dsimp only
    split
    · exact rules.same _ _ rfl rfl
    · next resource hentry =>
      exact rules.andThen (hcreate resource hentry) rfl rfl
  · -- roll back
    cases hstep
    exact rules.rollback hlookup hprogress hspecial
  · cases hstep

theorem step {label : NodeLabel}
    (hspecial : node.SpecialSteps R label)
    (hstep : node.step label = some next) : R node next := by
  by_cases hbegin : ∃ id request, label = .beginCreate id request
  · obtain ⟨id, request, rfl⟩ := hbegin
    simp only [Node.step, beginCreate] at hstep
    split at hstep
    · cases hstep
    · split at hstep <;> cases hstep
      exact rules.same _ _ rfl rfl
  · by_cases hcreate : ∃ id move, label = .create id move
    · obtain ⟨id, move, rfl⟩ := hcreate
      simp only [Node.step] at hstep
      split at hstep
      · cases hstep
      · next create hlookup => exact rules.createStep hlookup hspecial hstep
    · exact rules.routine.step hspecial
        (fun id request heq => hbegin ⟨id, request, heq⟩)
        (fun id move heq => hcreate ⟨id, move, heq⟩) hstep

end EntryRules

end Node

end PycloudParallel.NodeResources
