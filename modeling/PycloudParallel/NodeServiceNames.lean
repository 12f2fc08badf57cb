import PycloudParallel.NodeEntryChanges
import PycloudParallel.FoundationGuardedRun

/-!
# Service names and ids are exclusive

Two live services of a node have different names, and a live service stays the
object it is, as long as every section that inserts a service finds its name
and its id free and no late section of a create writes to the entry of another.
The code checks the name in a section of its own before the entry is inserted
and never looks for a live entry with the id.
-/

namespace PycloudParallel.NodeResources

structure Resource.Continues (old new : Resource) : Prop where
  ref : new.ref = old.ref
  owner : new.ownerClientId = old.ownerClientId
  token : new.token = old.token
  name : new.name = old.name
  live : new.isRunning .service = true → old.isRunning .service = true
  code : old.status = .running → new.codeVersion = old.codeVersion

theorem Resource.Continues.refl (session : Resource) :
    session.Continues session :=
  ⟨rfl, rfl, rfl, rfl, id, fun _ => rfl⟩

theorem Resource.isRunning_service {session : Resource} :
    session.isRunning .service = true ↔ session.status ≠ .stopped := by
  unfold isRunning
  cases session.status <;> decide

theorem Resource.RoutineChange.continues {old new : Resource}
    (hchange : RoutineChange .service old new) : old.Continues new := by
  cases hchange with
  | stop reason | failDependency reason | markCreateFailed reason =>
    exact ⟨rfl, rfl, rfl, rfl, fun hlive => absurd rfl
      (isRunning_service.mp hlive), fun _ => rfl⟩
  | announce codeVersion workers initialGlobals hlive =>
    exact ⟨rfl, rfl, rfl, rfl, fun _ => isRunning_service.mpr hlive,
      fun _ => rfl⟩
  | heartbeat hlive | reportedAlive aliveCount hlive | noWorkers
  | createStage stage | publishFailure stage =>
    exact ⟨rfl, rfl, rfl, rfl, id, fun _ => rfl⟩

theorem Resource.continues_afterRestore (session : Resource)
    (error : Option String) : session.Continues (session.afterRestore error) ∧
      (session.afterRestore error).codeVersion = session.codeVersion := by
  cases error with
  | none => exact ⟨⟨rfl, rfl, rfl, rfl, fun hlive => hlive, fun _ => rfl⟩, rfl⟩
  | some reason =>
    exact ⟨⟨rfl, rfl, rfl, rfl, fun hlive => absurd rfl
      (isRunning_service.mp hlive), fun _ => rfl⟩, rfl⟩

namespace Node

variable {node next : Node}

def NamesUnique (node : Node) : Prop :=
  ∀ id id' session session', node.entry .service id = some session →
    node.entry .service id' = some session' →
    session.isRunning .service = true → session'.isRunning .service = true →
    session.name = session'.name → id = id'

theorem namesUnique_initial (services taskPools : ℕ) :
    (Node.initial services taskPools).NamesUnique := by
  intro id id' session session' hentry
  cases hentry

/-- Every live service of `next` was one of `node` under the same id. -/
def SessionsCame (node next : Node) : Prop :=
  ∀ id new, next.entry .service id = some new →
    new.isRunning .service = true →
    ∃ old, node.entry .service id = some old ∧ old.Continues new

theorem NamesUnique.of_came (hunique : node.NamesUnique)
    (hcame : SessionsCame node next) : next.NamesUnique := by
  intro id id' session session' hentry hentry' hlive hlive' hname
  obtain ⟨old, hold, hcontinues⟩ := hcame id session hentry hlive
  obtain ⟨old', hold', hcontinues'⟩ := hcame id' session' hentry' hlive'
  apply hunique id id' old old' hold hold' (hcontinues.live hlive)
    (hcontinues'.live hlive')
  rw [← hcontinues.name, ← hcontinues'.name, hname]

structure SessionsKept (node next : Node) : Prop where
  kept : ∀ id old, node.entry .service id = some old →
    old.isRunning .service = true →
    ∃ new, next.entry .service id = some new ∧ old.Continues new
  unique : node.NamesUnique → next.NamesUnique

theorem SessionsKept.of_entries
    (hentries : ∀ id, next.entry .service id = node.entry .service id) :
    SessionsKept node next where
  kept id old hentry _ :=
    ⟨old, (hentries id).trans hentry, .refl old⟩
  unique hunique := hunique.of_came fun id new hentry _ =>
    ⟨new, (hentries id).symm.trans hentry, .refl new⟩

theorem SessionsKept.andThen {mid : Node} (hfirst : SessionsKept node mid)
    (hresources : next.resources = mid.resources) : SessionsKept node next := by
  have hentries : ∀ id, next.entry .service id = mid.entry .service id := by
    intro id
    rw [entry, entry, hresources]
  refine ⟨fun id old hentry hlive => ?_, fun hunique => ?_⟩
  · obtain ⟨new, hnew, hcontinues⟩ := hfirst.kept id old hentry hlive
    exact ⟨new, (hentries id).trans hnew, hcontinues⟩
  · exact (SessionsKept.of_entries hentries).unique (hfirst.unique hunique)

theorem entry_setEntry_taskPool (node : Node) (id id' : ResourceId)
    (pool : Resource) : (node.setEntry .taskPool id pool).entry .service id' =
      node.entry .service id' := by
  rw [entry_setEntry, if_neg fun hkey => nomatch hkey.1]

variable {id : ResourceId} {session : Resource}

theorem SessionsKept.setEntry {kind : ResourceKind} {old new : Resource}
    (hentry : node.entry kind id = some old)
    (hcontinues : kind = .service → old.Continues new) :
    SessionsKept node (node.setEntry kind id new) := by
  cases kind with
  | taskPool => exact .of_entries fun id' => entry_setEntry_taskPool ..
  | service =>
    refine ⟨fun id' found hfound _ => ?_, fun hunique => hunique.of_came ?_⟩
    · rw [entry_setEntry]
      by_cases hid : id' = id
      · subst hid
        cases hentry.symm.trans hfound
        exact ⟨new, if_pos ⟨rfl, rfl⟩, hcontinues rfl⟩
      · exact ⟨found, by rw [if_neg fun hkey => hid hkey.2, hfound],
          .refl found⟩
    · intro id' found hfound _
      rw [entry_setEntry] at hfound
      split at hfound
      · next hkey =>
        cases hfound
        rw [hkey.2]
        exact ⟨old, hentry, hcontinues rfl⟩
      · exact ⟨found, hfound, .refl found⟩

theorem SessionsKept.prune (node : Node) (limit : ℕ) :
    SessionsKept node (node.pruneInactiveResourceHistoryLocked limit) where
  kept _ old hentry hlive :=
    ⟨old, entry_prune_of_running limit hentry hlive, .refl old⟩
  unique hunique := hunique.of_came fun _ new hentry _ =>
    ⟨new, entry_of_prune hentry, .refl new⟩

theorem sessionsKept_rules : EntryRules SessionsKept where
  same node next hresources _ := .of_entries fun id => by
    rw [entry, entry, hresources]
  andThen hfirst hresources _ := hfirst.andThen hresources
  change node kind id old new hentry hchange := by
    apply SessionsKept.setEntry hentry
    rintro rfl
    exact hchange.continues
  prune := .prune

def noLiveService (node : Node) (id : ResourceId) : Bool :=
  (node.entry .service id).all fun session => !session.isRunning .service

theorem noLiveService_eq_true (hfree : node.noLiveService id = true)
    (hentry : node.entry .service id = some session) :
    session.isRunning .service = false := by
  simpa [noLiveService, hentry] using hfree

theorem name_ne_of_available {other : ResourceId} {name : String}
    (havailable : node.serviceNameAvailable id name = true) (hne : other ≠ id)
    (hentry : node.entry .service other = some session)
    (hlive : session.isRunning .service = true) : session.name ≠ name := by
  have hitem := OrderedDict.mem_items.mpr hentry
  have hall := List.all_eq_true.mp havailable _ hitem
  simpa [hne, hlive] using hall

theorem SessionsKept.insert (hfree : node.noLiveService id = true)
    (hname : session.isRunning .service = true →
      node.serviceNameAvailable id session.name = true) :
    SessionsKept node (node.insertEntry .service id session) := by
  have hentry : ∀ id', (node.insertEntry .service id session).entry .service id' =
      if id' = id then some session else node.entry .service id' := by
    intro id'
    have hset := node.entry_setEntry .service .service id id' session
    simp only [true_and] at hset
    exact hset
  refine ⟨fun id' old hold hlive => ?_, fun hunique => ?_⟩
  · have hne : id' ≠ id := by
      rintro rfl
      rw [noLiveService_eq_true hfree hold] at hlive
      cases hlive
    exact ⟨old, by rw [hentry, if_neg hne, hold], .refl old⟩
  · intro first second one two hone htwo hliveOne hliveTwo hsame
    rw [hentry] at hone htwo
    by_cases hfirst : first = id <;> by_cases hsecond : second = id
    · rw [hfirst, hsecond]
    · rw [if_pos hfirst, Option.some.injEq] at hone
      rw [if_neg hsecond] at htwo
      subst hone
      exact absurd hsame.symm
        (name_ne_of_available (hname hliveOne) hsecond htwo hliveTwo)
    · rw [if_neg hfirst] at hone
      rw [if_pos hsecond, Option.some.injEq] at htwo
      subst htwo
      exact absurd hsame
        (name_ne_of_available (hname hliveTwo) hfirst hone hliveOne)
    · rw [if_neg hfirst] at hone
      rw [if_neg hsecond] at htwo
      exact hunique first second one two hone htwo hliveOne hliveTwo hsame

theorem SessionsKept.insert_taskPool (node : Node) (id : ResourceId)
    (pool : Resource) : SessionsKept node (node.insertEntry .taskPool id pool) :=
  .of_entries fun id' => entry_setEntry_taskPool node id id' pool

structure EntriesRestored (node next : Node) : Prop where
  kept : ∀ id old, node.entry .service id = some old →
    ∃ new, next.entry .service id = some new ∧ old.Continues new ∧
      new.codeVersion = old.codeVersion
  came : ∀ id new, next.entry .service id = some new →
    ∃ old, node.entry .service id = some old ∧ old.Continues new

theorem Resource.Continues.trans_code {old mid new : Resource}
    (hfirst : old.Continues mid) (hsecond : mid.Continues new)
    (hcode : new.codeVersion = mid.codeVersion) : old.Continues new :=
  ⟨hsecond.ref.trans hfirst.ref, hsecond.owner.trans hfirst.owner,
    hsecond.token.trans hfirst.token, hsecond.name.trans hfirst.name,
    hfirst.live ∘ hsecond.live,
    fun hrunning => hcode.trans (hfirst.code hrunning)⟩

theorem EntriesRestored.refl (node : Node) : EntriesRestored node node :=
  ⟨fun _ old hentry => ⟨old, hentry, .refl old, rfl⟩,
    fun _ new hentry => ⟨new, hentry, .refl new⟩⟩

theorem EntriesRestored.trans {mid : Node} (hfirst : EntriesRestored node mid)
    (hsecond : EntriesRestored mid next) : EntriesRestored node next where
  kept id old hentry := by
    obtain ⟨middle, hmiddle, hcontinues, hcode⟩ := hfirst.kept id old hentry
    obtain ⟨new, hnew, hcontinues', hcode'⟩ := hsecond.kept id middle hmiddle
    exact ⟨new, hnew, Resource.Continues.trans_code hcontinues hcontinues' hcode',
      hcode'.trans hcode⟩
  came id new hentry := by
    obtain ⟨middle, hmiddle, hcontinues'⟩ := hsecond.came id new hentry
    obtain ⟨old, hold, hcontinues⟩ := hfirst.came id middle hmiddle
    obtain ⟨new', hnew', -, hcode⟩ := hsecond.kept id middle hmiddle
    cases hentry.symm.trans hnew'
    exact ⟨old, hold, Resource.Continues.trans_code hcontinues hcontinues' hcode⟩

theorem EntriesRestored.applyRestored (node : Node) (target : RestoreTarget)
    (error : Option String) :
    EntriesRestored node (node.applyRestored target error) := by
  unfold Node.applyRestored
  split
  · exact .refl node
  · next resource hentry =>
    split
    · exact .refl node
    · obtain ⟨hcontinues, hcode⟩ := resource.continues_afterRestore error
      refine ⟨fun id old hold => ?_, fun id found hfound => ?_⟩
      · rw [entry_setEntry]
        split
        · next hkey =>
          rw [hkey.1, hkey.2] at hold
          cases hentry.symm.trans hold
          exact ⟨_, rfl, hcontinues, hcode⟩
        · exact ⟨old, hold, .refl old, rfl⟩
      · rw [entry_setEntry] at hfound
        split at hfound
        · next hkey =>
          cases hfound
          rw [hkey.1, hkey.2]
          exact ⟨resource, hentry, hcontinues⟩
        · exact ⟨found, hfound, .refl found⟩

theorem EntriesRestored.applyAllRestored
    (results : List (RestoreTarget × Option String)) (node : Node) :
    EntriesRestored node (applyAllRestored results node) := by
  induction results generalizing node with
  | nil => exact .refl node
  | cons result rest ih =>
    exact (EntriesRestored.applyRestored node result.1 result.2).trans (ih _)

/-- The section of a service create that inserts or writes finds what it
assumes: a free name and id to insert, its own entry to write to. -/
def createNameGuard (node : Node) (create : Create) (move : CreateMove) : Bool :=
  let request := create.request
  let id := request.resourceId
  match move, create.progress with
  | .accept, .requested =>
    node.serviceNameAvailable id request.name && node.noLiveService id
  | .count, .prepared =>
    request.waitReady || (node.entry .service id).all (·.status ≠ .running)
  | .publish _, .executorCreated _ _ =>
    !request.waitReady ||
      (node.serviceNameAvailable id request.name && node.noLiveService id)
  | .finalise, .warming _ _ =>
    (node.entry .service id).all (·.status ≠ .stopped)
  | .rollback, .failing _ _ _ (.rememberFailed :: _) => node.noLiveService id
  | _, _ => true

def NameGuard (node : Node) : NodeLabel → Bool
  | .create id move =>
    (node.creates.lookup id).all fun create =>
      create.request.kind ≠ .service || node.createNameGuard create move
  | _ => true

theorem sessionsKept_special {label : NodeLabel}
    (hguard : node.NameGuard label = true) :
    node.SpecialSteps SessionsKept label := by
  cases label with
  | create id move =>
    intro create hlookup
    dsimp only
    rw [Option.mem_def] at hlookup
    simp only [NameGuard, hlookup, Option.all_some, Bool.or_eq_true,
      decide_eq_true_eq] at hguard
    split
    all_goals rename_i hprogress
    all_goals simp only [createNameGuard, hprogress, Bool.and_eq_true,
      Bool.or_eq_true, Bool.not_eq_true'] at hguard
    · -- accept
      cases hkind : create.request.kind with
      | taskPool => exact .insert_taskPool _ _ _
      | service =>
        obtain hne | ⟨hname, hfree⟩ := hguard
        · exact absurd hkind hne
        · exact .insert hfree fun _ => hname
    · -- count
      intro resource hentry hwait hlive
      apply SessionsKept.setEntry hentry
      intro hkind
      obtain hne | hwait' | hother := hguard
      · exact absurd hkind hne
      · rw [hwait] at hwait'
        cases hwait'
      · rw [hkind, Option.mem_def] at hentry
        have hstarting : resource.status ≠ .running := by
          simpa [hentry] using hother
        exact ⟨rfl, rfl, rfl, rfl, fun hlive => hlive,
          fun hrunning => absurd hrunning hstarting⟩
    · -- publish
      intro hwait
      cases hkind : create.request.kind with
      | taskPool => exact .insert_taskPool _ _ _
      | service =>
        obtain hne | hwait' | ⟨hname, hfree⟩ := hguard
        · exact absurd hkind hne
        · rw [hwait] at hwait'
          cases hwait'
        · exact .insert hfree fun _ => hname
    · -- finalise
      intro resource hentry
      apply SessionsKept.setEntry hentry
      intro hkind
      rw [hkind, Option.mem_def] at hentry
      obtain hne | hlive := hguard
      · exact absurd hkind hne
      · have hnot : resource.status ≠ .stopped := by
          simpa [hentry] using hlive
        exact ⟨rfl, rfl, rfl, rfl,
          fun _ => Resource.isRunning_service.mpr hnot, fun _ => rfl⟩
    · -- remember the failed create
      cases hkind : create.request.kind with
      | taskPool => exact .insert_taskPool _ _ _
      | service =>
        obtain hne | hfree := hguard
        · exact absurd hkind hne
        · exact .insert hfree fun hlive =>
            absurd rfl (Resource.isRunning_service.mp hlive)
    · trivial
  | rebuild move =>
    cases move with
    | finish =>
      intro rebuild _
      have hrestored := EntriesRestored.applyAllRestored rebuild.results node
      refine ⟨fun id old hentry _ => ?_, fun hunique =>
        hunique.of_came fun id new hentry _ => hrestored.came id new hentry⟩
      obtain ⟨new, hnew, hcontinues, -⟩ := hrestored.kept id old hentry
      exact ⟨new, hnew, hcontinues⟩
    | start | createBackend raises | restore outcome error | closeOld =>
      trivial
  | workerPids kind id pids =>
    intro resource hentry
    exact .setEntry hentry fun _ =>
      ⟨rfl, rfl, rfl, rfl, fun hlive => hlive, fun _ => rfl⟩
  | serviceDependencyFailure id =>
    intro session hentry
    exact .setEntry hentry fun _ =>
      ⟨rfl, rfl, rfl, rfl, fun hlive => hlive, fun _ => rfl⟩
  | _ => trivial

end Node

section runs

/-- A blocking request for a service called `echo`. -/
def echoRequest (id : ResourceId) : CreateRequest where
  kind := .service
  resourceId := id
  ownerClientId := "owner"
  name := "echo"
  token := "token"
  sha256 := "sha"
  codeVersion := "code"
  requestedWorkers := 1
  waitReady := true
  initialGlobals := false

def echoCreateRun (create : CreateId) (id : ResourceId) : List NodeLabel :=
  [.beginCreate create (echoRequest id), .create create (.prepare true none),
    .create create .count, .create create .reserve,
    .create create (.createExecutor .created "")]

def echoServiceRun : List NodeLabel :=
  echoCreateRun 0 "s" ++ [.create 0 (.publish none)]

end runs

end PycloudParallel.NodeResources
