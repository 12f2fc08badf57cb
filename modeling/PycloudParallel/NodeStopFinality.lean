import PycloudParallel.NodeEntryChanges
import PycloudParallel.FoundationGuardedRun

/-!
# Stop is final

An entry that has been STOPPED stays STOPPED, without executor, live workers or
the readiness `ready`, as long as no late step writes to it: the end of an
asynchronous create, the end of a rebuild, a report of worker processes or a
dependency failure of a late call.  `Evolves` says what a step may do to the
entries; it is closed under composition, so it holds between any two states of
a run.
-/

namespace PycloudParallel.NodeResources

namespace Resource

variable {old new : Resource}

def Final (resource : Resource) : Prop :=
  resource.executorReady = false ∧ resource.aliveWorkers = 0 ∧
    resource.readiness ≠ .ready

def FinalIfStopped (resource : Resource) : Prop :=
  resource.status = .stopped → resource.Final

structure Follows (old new : Resource) : Prop where
  ref : new.ref = old.ref
  stopped : old.status = .stopped → new.status = .stopped
  final : old.FinalIfStopped → new.FinalIfStopped

theorem Follows.refl (resource : Resource) : resource.Follows resource :=
  ⟨rfl, id, id⟩

theorem Follows.trans {mid : Resource} (hfirst : old.Follows mid)
    (hsecond : mid.Follows new) : old.Follows new :=
  ⟨hsecond.ref.trans hfirst.ref, hsecond.stopped ∘ hfirst.stopped,
    hsecond.final ∘ hfirst.final⟩

theorem Follows.of_final (href : new.ref = old.ref)
    (hstopped : new.status = .stopped) (hfinal : new.Final) : old.Follows new :=
  ⟨href, fun _ => hstopped, fun _ _ => hfinal⟩

theorem Follows.of_live (href : new.ref = old.ref)
    (hold : old.status ≠ .stopped) (hnew : new.status ≠ .stopped) :
    old.Follows new :=
  ⟨href, fun hstopped => absurd hstopped hold,
    fun _ hstopped => absurd hstopped hnew⟩

theorem follows_publishFailure (resource : Resource) (stage : CreateStage) :
    resource.Follows (resource.publishFailure stage) where
  ref := rfl
  stopped := id
  final hold hstopped :=
    have hfinal := hold hstopped
    ⟨hfinal.1, hfinal.2.1, nofun⟩

theorem follows_noWorkers (resource : Resource) :
    resource.Follows { resource with aliveWorkers := 0 } where
  ref := rfl
  stopped := id
  final hold hstopped :=
    have hfinal := hold hstopped
    ⟨hfinal.1, rfl, hfinal.2.2⟩

/-- The end of a rebuild may touch the entry of a target: the entry is not
STOPPED, and a failed target was not ready. -/
def restoreSafe (resource : Resource) (error : Option String) : Bool :=
  resource.status ≠ .stopped &&
    (error.isNone || resource.readiness ≠ .ready)

theorem follows_restored {resource : Resource}
    (hlive : resource.status ≠ .stopped) : resource.Follows resource.restored :=
  .of_live rfl hlive hlive

theorem follows_restoreFailed {resource : Resource} (reason : String)
    (hready : resource.readiness ≠ .ready) :
    resource.Follows (resource.restoreFailed reason) :=
  .of_final rfl rfl ⟨rfl, rfl, hready⟩

end Resource

namespace Node

variable {node next : Node}

/-- What a step may do to the entries: an entry was there and is followed, or
it is a new object. -/
structure Evolves (node next : Node) : Prop where
  nextRef : node.nextRef ≤ next.nextRef
  entries : ∀ kind id resource, next.entry kind id = some resource →
    (node.nextRef ≤ resource.ref ∧ resource.ref < next.nextRef ∧
      resource.FinalIfStopped) ∨
    ∃ old, node.entry kind id = some old ∧ old.Follows resource

theorem Evolves.of_resources (hresources : next.resources = node.resources)
    (hnextRef : next.nextRef = node.nextRef) : Evolves node next where
  nextRef := hnextRef.ge
  entries kind id resource hentry := by
    right
    refine ⟨resource, ?_, .refl resource⟩
    rwa [entry, ← hresources]

theorem Evolves.refl (node : Node) : Evolves node node := .of_resources rfl rfl

theorem Evolves.trans {mid : Node} (hfirst : Evolves node mid)
    (hsecond : Evolves mid next) : Evolves node next where
  nextRef := hfirst.nextRef.trans hsecond.nextRef
  entries kind id resource hentry := by
    obtain ⟨hnew, hbelow, hfinal⟩ | ⟨middle, hmiddle, hfollows⟩ :=
      hsecond.entries kind id resource hentry
    · exact Or.inl ⟨hfirst.nextRef.trans hnew, hbelow, hfinal⟩
    · obtain ⟨hnew, hbelow, hfinal⟩ | ⟨old, hold, hfollows'⟩ :=
        hfirst.entries kind id middle hmiddle
      · left
        rw [hfollows.ref]
        exact ⟨hnew, hbelow.trans_le hsecond.nextRef, hfollows.final hfinal⟩
      · exact Or.inr ⟨old, hold, hfollows'.trans hfollows⟩

variable {id : ResourceId} {kind : ResourceKind}

theorem Evolves.setEntry {old new : Resource}
    (hentry : node.entry kind id = some old) (hfollows : old.Follows new) :
    Evolves node (node.setEntry kind id new) where
  nextRef := le_rfl
  entries other id' resource hresource := by
    right
    rw [entry_setEntry] at hresource
    split at hresource
    · next hkey =>
      obtain ⟨rfl, rfl⟩ := hkey
      cases hresource
      exact ⟨old, hentry, hfollows⟩
    · exact ⟨resource, hresource, .refl resource⟩

theorem Evolves.newEntry (node : Node) (kind : ResourceKind) (id : ResourceId)
    (resource : Resource) (href : resource.ref = node.nextRef)
    (hfinal : resource.FinalIfStopped) :
    Evolves node (node.insertEntry kind id resource) where
  nextRef := Nat.le_succ _
  entries other id' found hfound := by
    change (node.setEntry kind id resource).entry other id' = some found at hfound
    rw [entry_setEntry] at hfound
    split at hfound
    · cases hfound
      left
      exact ⟨href.ge, href.trans_lt (Nat.lt_succ_self _), hfinal⟩
    · exact Or.inr ⟨found, hfound, .refl found⟩

theorem Evolves.prune (node : Node) (limit : ℕ) :
    Evolves node (node.pruneInactiveResourceHistoryLocked limit) where
  nextRef := (nextRef_prune node limit).ge
  entries _ _ resource hresource :=
    Or.inr ⟨resource, entry_of_prune hresource, .refl resource⟩

def restoreSafe (node : Node) (target : RestoreTarget)
    (error : Option String) : Bool :=
  (node.entry target.kind target.resourceId).all fun resource =>
    resource.ref ≠ target.ref || resource.restoreSafe error

def allRestoreSafe : List (RestoreTarget × Option String) → Node → Bool
  | [], _ => true
  | (target, error) :: rest, node =>
    node.restoreSafe target error &&
      allRestoreSafe rest (node.applyRestored target error)

theorem Evolves.applyRestored {target : RestoreTarget}
    {error : Option String} (hsafe : node.restoreSafe target error = true) :
    Evolves node (node.applyRestored target error) := by
  unfold Node.applyRestored
  split
  · exact .refl node
  · next resource hentry =>
    split
    · exact .refl node
    · next href =>
      simp only [Node.restoreSafe, hentry, Option.all_some, href,
        decide_false, Bool.false_or, Resource.restoreSafe, Bool.and_eq_true,
        decide_eq_true_eq, Bool.or_eq_true] at hsafe
      obtain ⟨hlive, hready⟩ := hsafe
      cases error with
      | none => exact .setEntry hentry (Resource.follows_restored hlive)
      | some reason =>
        have hnot : resource.readiness ≠ .ready := by simpa using hready
        exact .setEntry hentry (Resource.follows_restoreFailed reason hnot)

theorem Evolves.applyAllRestored
    {results : List (RestoreTarget × Option String)} {node : Node}
    (hsafe : allRestoreSafe results node = true) :
    Evolves node (applyAllRestored results node) := by
  induction results generalizing node with
  | nil => exact .refl node
  | cons result rest ih =>
    obtain ⟨target, error⟩ := result
    rw [allRestoreSafe, Bool.and_eq_true] at hsafe
    exact (Evolves.applyRestored hsafe.1).trans (ih hsafe.2)

def notStopped (node : Node) (kind : ResourceKind) (id : ResourceId) : Bool :=
  (node.entry kind id).all (·.status ≠ .stopped)

/-- A late step meets no STOPPED entry, and no failed create or failed restore
leaves the readiness `ready` in a STOPPED one. -/
def FinalityGuard (node : Node) : NodeLabel → Bool
  | .create id .finalise =>
    (node.creates.lookup id).all fun create =>
      node.notStopped create.request.kind create.request.resourceId
  | .create id .rollback =>
    (node.creates.lookup id).all fun create =>
      match create.progress with
      | .failing _ _ _ (.rememberFailed :: _) => false
      | _ => true
  | .rebuild .finish =>
    node.rebuild.all fun rebuild => allRestoreSafe rebuild.results node
  | .workerPids kind id pids => pids = 0 || node.notStopped kind id
  | .serviceDependencyFailure id => node.notStopped .service id
  | _ => true

theorem follows_of_routine {old new : Resource}
    (hchange : Resource.RoutineChange kind old new) : old.Follows new := by
  cases hchange with
  | stop reason | failDependency reason => exact .of_final rfl rfl ⟨rfl, rfl, nofun⟩
  | heartbeat hlive | reportedAlive aliveCount hlive => exact .of_live rfl hlive hlive
  | noWorkers => exact old.follows_noWorkers
  | createStage stage => exact ⟨rfl, id, id⟩
  | announce codeVersion workers initialGlobals hlive =>
    exact .of_live rfl hlive nofun
  | markCreateFailed reason => exact .of_final rfl rfl ⟨rfl, rfl, nofun⟩
  | publishFailure stage => exact old.follows_publishFailure stage

theorem evolves_rules : EntryRules Evolves where
  same _ _ hresources hnextRef := .of_resources hresources hnextRef
  andThen hfirst hresources hnextRef :=
    hfirst.trans (.of_resources hresources hnextRef)
  change _ _ _ _ _ hentry hchange := .setEntry hentry (follows_of_routine hchange)
  prune := .prune

theorem evolves_special {label : NodeLabel}
    (hguard : node.FinalityGuard label = true) :
    node.SpecialSteps Evolves label := by
  cases label with
  | create id move =>
    intro create hlookup
    dsimp only
    split
    · -- accept
      apply Evolves.newEntry _ _ _ _ rfl
      intro hstopped
      cases hkind : create.request.kind <;>
        simp [CreateRequest.skeleton, hkind] at hstopped
    · -- count
      intro resource hentry _ hlive
      exact .setEntry hentry (.of_live rfl hlive hlive)
    · -- publish
      intro _
      exact Evolves.newEntry _ _ _ _ rfl nofun
    · -- finalise
      intro resource hentry
      have hlive : resource.status ≠ .stopped := by
        rw [Option.mem_def] at hlookup hentry
        simpa [FinalityGuard, hlookup, notStopped, hentry] using hguard
      exact .setEntry hentry (.of_live rfl hlive nofun)
    · -- remember the failed create
      next hprogress =>
      rw [Option.mem_def] at hlookup
      simp [FinalityGuard, hlookup, hprogress] at hguard
    · trivial
  | rebuild move =>
    cases move with
    | finish =>
      intro rebuild hrebuild
      rw [Option.mem_def] at hrebuild
      simp only [FinalityGuard, hrebuild, Option.all_some] at hguard
      exact .applyAllRestored hguard
    | start | createBackend raises | restore outcome error | closeOld =>
      trivial
  | workerPids kind id pids =>
    intro resource hentry
    by_cases hpids : pids = 0
    · subst hpids
      exact .setEntry hentry resource.follows_noWorkers
    · have hlive : resource.status ≠ .stopped := by
        rw [Option.mem_def] at hentry
        simpa [FinalityGuard, hpids, notStopped, hentry] using hguard
      exact .setEntry hentry (.of_live rfl hlive hlive)
  | serviceDependencyFailure id =>
    intro session hentry
    have hlive : session.status ≠ .stopped := by
      rw [Option.mem_def] at hentry
      simpa [FinalityGuard, notStopped, hentry] using hguard
    exact .setEntry hentry (.of_live rfl hlive hlive)
  | _ => trivial

theorem Evolves.run {start last : Node}
    (hrun : GuardedRun Node.step (fun node label => node.FinalityGuard label)
      start last) : Evolves start last :=
  hrun.invariant (Evolves start) (.refl start)
    fun _ _ _ hsofar hguard hstep => hsofar.trans (evolves_rules.step (evolves_special hguard) hstep)

theorem stopReason_applyAllRestored
    {results : List (RestoreTarget × Option String)} {node : Node}
    (hsafe : allRestoreSafe results node = true) {resource : Resource}
    (hentry : node.entry kind id = some resource)
    (hstopped : resource.status = .stopped) :
    (applyAllRestored results node).entry kind id = some resource := by
  induction results generalizing node with
  | nil => exact hentry
  | cons result rest ih =>
    obtain ⟨target, error⟩ := result
    rw [allRestoreSafe, Bool.and_eq_true] at hsafe
    apply ih hsafe.2
    unfold applyRestored
    split
    · exact hentry
    · next found hfound =>
      split
      · exact hentry
      · next href =>
        rw [entry_setEntry]
        split
        · next hkey =>
          obtain ⟨rfl, rfl⟩ := hkey
          cases hentry.symm.trans hfound
          have hforbidden : node.restoreSafe target error = false := by
            simp [Node.restoreSafe, hentry, Resource.restoreSafe, hstopped,
              not_not.mp href]
          simp [hforbidden] at hsafe
        · exact hentry

theorem invokeServiceCall_of_stopped {session : Resource}
    (hentry : node.entry .service id = some session)
    (hstopped : session.status = .stopped) (token : String)
    (methodKnown artifactKnown : Bool) :
    node.invokeServiceCall id token methodKnown artifactKnown = .error 409 := by
  simp [invokeServiceCall, hentry, hstopped]

theorem submitPoolTasks_of_stopped {pool : Resource}
    (hentry : node.entry .taskPool id = some pool)
    (hstopped : pool.status = .stopped) (token : String) (artifactKnown : Bool)
    : ∃ error, node.submitPoolTasks id token artifactKnown = .error error := by
  simp only [submitPoolTasks, hentry, hstopped]
  split <;> exact ⟨_, rfl⟩

end Node

/-- In a run whose steps all meet `FinalityGuard`, a service or pool that has
been STOPPED stays so, without executor, live workers or readiness, calls and
submits to it are refused, and no end of a rebuild replaces its reason. -/
theorem stop_isFinal {services taskPools : ℕ} {node later : Node}
    (hrun : GuardedRun Node.step (fun node label => node.FinalityGuard label)
      (Node.initial services taskPools) node)
    (hlater : GuardedRun Node.step (fun node label => node.FinalityGuard label)
      node later)
    {kind : ResourceKind} {id : ResourceId} {stopped resource : Resource}
    (hentry : node.entry kind id = some stopped)
    (hstopped : stopped.status = .stopped)
    (hresource : later.entry kind id = some resource)
    (hsame : resource.ref = stopped.ref) :
    resource.status = .stopped ∧ resource.executorReady = false ∧
    resource.aliveWorkers = 0 ∧ resource.readiness ≠ .ready ∧
    (kind = .service → ∀ token methodKnown artifactKnown,
      later.invokeServiceCall id token methodKnown artifactKnown =
        .error 409) ∧
    (kind = .taskPool → ∀ token artifactKnown, ∃ error,
      later.submitPoolTasks id token artifactKnown = .error error) ∧
    ∀ next, later.FinalityGuard (.rebuild .finish) = true →
      later.step (.rebuild .finish) = some next →
      next.entry kind id = some resource := by
  -- the entry came into being in the run and is final if it is STOPPED
  obtain ⟨hbelow, hfinal⟩ : stopped.ref < node.nextRef ∧
      stopped.FinalIfStopped := by
    obtain ⟨-, hbelow, hfinal⟩ | ⟨old, hold, -⟩ :=
      (Node.Evolves.run hrun).entries kind id stopped hentry
    · exact ⟨hbelow, hfinal⟩
    · cases hold
  obtain ⟨hnew, -⟩ | ⟨old, hold, hfollows⟩ :=
    (Node.Evolves.run hlater).entries kind id resource hresource
  · have hlt : stopped.ref < stopped.ref := by
      calc stopped.ref < node.nextRef := hbelow
        _ ≤ resource.ref := hnew
        _ = stopped.ref := hsame
    exact absurd hlt (lt_irrefl _)
  · cases hentry.symm.trans hold
    have hstill := hfollows.stopped hstopped
    obtain ⟨hready, halive, hnotReady⟩ := hfollows.final hfinal hstill
    refine ⟨hstill, hready, halive, hnotReady, ?_, ?_, ?_⟩
    · rintro rfl token methodKnown artifactKnown
      exact Node.invokeServiceCall_of_stopped hresource hstill token
        methodKnown artifactKnown
    · rintro rfl token artifactKnown
      exact Node.submitPoolTasks_of_stopped hresource hstill token artifactKnown
    · intro next hguard hstep
      simp only [Node.step, Node.rebuildStep] at hstep
      split at hstep
      · next hmove _ => cases hmove
      · next hmove _ => cases hmove
      · next hmove _ => cases hmove
      · next hmove _ => cases hmove
      · next rebuild hrebuild =>
        split at hstep
        · cases hstep
          simp only [Node.FinalityGuard, hrebuild, Option.all_some] at hguard
          exact Node.stopReason_applyAllRestored hguard hresource hstill
        · cases hstep
      · cases hstep

section runs

def serviceRequest (id : ResourceId) (waitReady : Bool) : CreateRequest where
  kind := .service
  resourceId := id
  ownerClientId := "owner"
  name := id
  token := "token"
  sha256 := "sha"
  codeVersion := "code"
  requestedWorkers := 1
  waitReady := waitReady
  initialGlobals := false

def endedServiceRun : List NodeLabel :=
  [.beginCreate 0 (serviceRequest "s" true), .create 0 (.prepare true none),
    .create 0 .count, .create 0 .reserve,
    .create 0 (.createExecutor .created ""), .create 0 (.publish none),
    .create 0 .release, .endService "owner" "s" "token" "done",
    .endService "owner" "s" "token" "again"]

def endedSession : Resource where
  ref := 0
  ownerClientId := "owner"
  name := "s"
  token := "token"
  codeVersion := "code"
  workerCount := 1
  status := .stopped
  executorReady := false
  aliveWorkers := 0
  readiness := .stopped
  createStage := .createSucceeded
  stopReason := "done"

theorem stop_isFinal_endedService :
    ∃ node : Node, node.entry .service "s" = some endedSession ∧
      endedSession.status = .stopped ∧ endedSession.aliveWorkers = 0 := by
  have hrun : GuardedRun Node.step (fun node label => node.FinalityGuard label)
      (Node.initial 4 4)
      ((checkedRun Node.step (fun node label => node.FinalityGuard label)
        (Node.initial 4 4) endedServiceRun).getD (Node.initial 4 4)) :=
    guardedRun_of_checkedRun endedServiceRun rfl
  have hentry : ((checkedRun Node.step
      (fun node label => node.FinalityGuard label) (Node.initial 4 4)
      endedServiceRun).getD (Node.initial 4 4)).entry .service "s" =
        some endedSession := by decide
  have hfinal := stop_isFinal hrun .refl hentry rfl hentry rfl
  exact ⟨_, hentry, hfinal.1, hfinal.2.2.1⟩

/-- The owner ends a service while its create is about to finish; the create
makes it RUNNING again. -/
theorem finalise_revives_stopped :
    ∃ node later : Node,
      Reachable Node.step (Node.initial 4 4) node ∧
      Reachable Node.step node later ∧
      (node.entry .service "s").map (fun session =>
        (session.ref, session.status)) = some (0, .stopped) ∧
      (later.entry .service "s").map (fun session =>
        (session.ref, session.status)) = some (0, .running) :=
  ⟨_, _, reachable_of_runLabels
    [.beginCreate 0 (serviceRequest "s" false), .create 0 .accept,
      .create 0 .start, .create 0 (.prepare true none), .create 0 .count,
      .create 0 .reserve, .create 0 (.createExecutor .created ""),
      .create 0 (.publish none), .create 0 .release,
      .endService "owner" "s" "token" "done"] rfl,
    reachable_of_runLabels [.create 0 .finalise] rfl, by decide, by decide⟩

end runs

end PycloudParallel.NodeResources
