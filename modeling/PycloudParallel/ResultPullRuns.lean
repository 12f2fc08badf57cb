import PycloudParallel.ResultPullModel
import Mathlib.Tactic.Abel
import Mathlib.Algebra.Order.Group.Multiset

/-!
# Runs of pull requests

Any number of pull requests of any pools, each in its sections: the results
leave the queue, the records are forgotten, the reply is encoded, the client
decodes it.  A request can be lost in front of every section but the first.
-/

namespace PycloudParallel.ResultPull

open OrderedDict

inductive PullStage
  | taken
  | forgotten
  | replied (reply : PullReply)

structure PullRequest where
  poolId : String
  results : List TaskResult
  nextCursor : ℕ
  stage : PullStage

/-- The node with its clients.  `finished` and `delivered` are the results that
were pushed and those in replies that were decoded; nothing reads them. -/
structure PullSystem where
  hook : ResultHook
  tasks : OrderedDict String TaskStatus
  pulls : OrderedDict ℕ PullRequest
  finished : String → List TaskResult
  delivered : String → List TaskResult

inductive PullLabel
  | submit (taskId : String)
  | finish (poolId : String) (result : TaskResult)
  | pull (request : ℕ) (poolId : String) (limit : ℕ)
  | forget (request : ℕ)
  | encode (request : ℕ)
  /-- An exception on the node, a lost connection, or a reply that the client
  gives up on. -/
  | lose (request : ℕ)
  | receive (request : ℕ)
  /-- The records of a stopped pool are pruned. -/
  | clearPool (poolId : String)

namespace PullSystem

def initial (perClientLimit : ℕ) : PullSystem where
  hook := .create perClientLimit
  tasks := ∅
  pulls := ∅
  finished := fun _ => []
  delivered := fun _ => []

def finish (system : PullSystem) (poolId : String) (result : TaskResult) :
    Option PullSystem :=
  match system.tasks.lookup result.taskId with
  | none => none
  | some status =>
    if status.isTerminal || !result.status.isTerminal then none
    else
      some { system with
        hook := system.hook.push poolId result
        tasks := system.tasks.set result.taskId result.status
        finished := Function.update system.finished poolId
          (system.finished poolId ++ [result]) }

def startPull (system : PullSystem) (request : ℕ) (poolId : String)
    (limit : ℕ) : Option PullSystem :=
  if request ∈ system.pulls then none
  else
    let (results, nextCursor, hook) := system.hook.pull poolId limit
    some { system with
      hook := hook
      pulls := system.pulls.set request ⟨poolId, results, nextCursor, .taken⟩ }

def step (system : PullSystem) : PullLabel → Option PullSystem
  | .submit taskId =>
    if taskId ∈ system.tasks then none
    else some { system with tasks := system.tasks.set taskId .queued }
  | .finish poolId result => system.finish poolId result
  | .pull request poolId limit => system.startPull request poolId limit
  | .forget request =>
    match system.pulls.lookup request with
    | some ⟨poolId, results, nextCursor, .taken⟩ =>
      some { system with
        tasks := results.foldl forgetTask system.tasks
        pulls := system.pulls.set request
          ⟨poolId, results, nextCursor, .forgotten⟩ }
    | _ => none
  | .encode request =>
    match system.pulls.lookup request with
    | some ⟨poolId, results, nextCursor, .forgotten⟩ =>
      match encodeReply results with
      | some reply =>
        some { system with
          pulls := system.pulls.set request
            ⟨poolId, results, nextCursor, .replied reply⟩ }
      | none => some { system with pulls := system.pulls.erase request }
    | _ => none
  | .lose request =>
    if request ∈ system.pulls then
      some { system with pulls := system.pulls.erase request }
    else none
  | .receive request =>
    match system.pulls.lookup request with
    | some ⟨poolId, _, _, .replied reply⟩ =>
      match reply.decode with
      | none => some { system with pulls := system.pulls.erase request }
      | some results =>
        some { system with
          pulls := system.pulls.erase request
          delivered := Function.update system.delivered poolId
            (system.delivered poolId ++ results) }
    | _ => none
  | .clearPool poolId =>
    some { system with hook := system.hook.clearClient poolId }

/-- No queue overflows or is dropped with results in it, all that a request took
can be encoded, and no request with results is lost. -/
def keeps (system : PullSystem) : PullLabel → Bool
  | .finish poolId _ =>
    (system.hook.queues poolId).length < system.hook.perClientLimit
  | .encode request =>
    ((system.pulls.lookup request).map fun pull =>
      pull.results.all TaskResult.isEncodable).getD true
  | .lose request =>
    ((system.pulls.lookup request).map fun pull => pull.results.isEmpty).getD true
  | .clearPool poolId => (system.hook.queues poolId).isEmpty
  | .submit _ | .pull _ _ _ | .forget _ | .receive _ => true

def queued (system : PullSystem) (poolId : String) : List TaskResult :=
  (system.hook.queues poolId).map QueuedResult.result

end PullSystem

def PullRequest.resultsOf (poolId : String) (pull : PullRequest) :
    List TaskResult :=
  if pull.poolId = poolId then pull.results else []

def inFlight (pulls : OrderedDict ℕ PullRequest) (poolId : String) :
    List TaskResult :=
  pulls.values.flatMap (PullRequest.resultsOf poolId)

structure PullSystem.Sound (system : PullSystem) : Prop where
  placed : ∀ poolId, (system.finished poolId).Perm
    (system.queued poolId ++
      (inFlight system.pulls poolId ++ system.delivered poolId))
  replies : ∀ request pull reply, system.pulls.lookup request = some pull →
    pull.stage = .replied reply → reply.decode = some pull.results

section

variable {pulls : OrderedDict ℕ PullRequest} {request : ℕ}
  {pull : PullRequest} {poolId : String}

theorem inFlight_erase (hlookup : pulls.lookup request = some pull) :
    (inFlight pulls poolId).Perm
      (pull.resultsOf poolId ++ inFlight (pulls.erase request) poolId) :=
  (values_perm_erase hlookup).flatMap_right _

theorem inFlight_congr {others : OrderedDict ℕ PullRequest}
    (hsame : ∀ request, pulls.lookup request = others.lookup request) :
    (inFlight pulls poolId).Perm (inFlight others poolId) := by
  unfold inFlight OrderedDict.values
  exact ((entries_perm_of_lookup_eq hsame).map _).flatMap_right _

theorem inFlight_set (pull : PullRequest) :
    (inFlight (pulls.set request pull) poolId).Perm
      (pull.resultsOf poolId ++ inFlight (pulls.erase request) poolId) := by
  have hself := lookup_set_self pulls request pull
  refine (inFlight_erase hself).trans (List.Perm.append_left _ ?_)
  apply inFlight_congr
  intro other
  rw [lookup_erase, lookup_erase]
  split
  · rfl
  · next hne => exact lookup_set_ne pulls pull hne

theorem inFlight_set_same {next : PullRequest}
    (hlookup : pulls.lookup request = some pull)
    (hpool : next.poolId = pull.poolId) (hresults : next.results = pull.results) :
    (inFlight (pulls.set request next) poolId).Perm (inFlight pulls poolId) := by
  have hsame : next.resultsOf poolId = pull.resultsOf poolId := by
    unfold PullRequest.resultsOf
    rw [hpool, hresults]
  have hnext : (inFlight (pulls.set request next) poolId).Perm
      (next.resultsOf poolId ++ inFlight (pulls.erase request) poolId) :=
    inFlight_set next
  rw [hsame] at hnext
  exact hnext.trans (inFlight_erase hlookup).symm

theorem inFlight_set_new (hnew : request ∉ pulls) (pull : PullRequest) :
    inFlight (pulls.set request pull) poolId =
      inFlight pulls poolId ++ pull.resultsOf poolId := by
  unfold inFlight
  rw [values_set_of_notMem pull hnew, List.flatMap_append,
    List.flatMap_singleton]

end

namespace PullSystem

theorem queued_push (system : PullSystem) {poolId : String}
    (result : TaskResult) (other : String)
    (hroom : (system.hook.queues poolId).length < system.hook.perClientLimit) :
    ((system.hook.push poolId result).queues other).map QueuedResult.result =
      if other = poolId then system.queued other ++ [result]
      else system.queued other := by
  unfold ResultHook.push queued
  dsimp only
  rw [if_neg (by omega), Function.update_apply]
  split
  · next heq => rw [heq, List.map_append, List.map_singleton]
  · rfl

theorem sound_initial (perClientLimit : ℕ) : (initial perClientLimit).Sound where
  placed := fun _ => .refl _
  replies := nofun

section

variable {system after : PullSystem} {request : ℕ}

variable (hsound : system.Sound)

include hsound

theorem Sound.endPull {pull : PullRequest}
    {delivered : String → List TaskResult}
    (hlookup : system.pulls.lookup request = some pull)
    (hdelivered : ∀ poolId, delivered poolId =
      system.delivered poolId ++ pull.resultsOf poolId) : ({ system with
      pulls := system.pulls.erase request
      delivered := delivered } : PullSystem).Sound where
  placed := by
    intro poolId
    apply (hsound.placed poolId).trans
    apply List.Perm.append_left
    dsimp only
    rw [hdelivered, ← List.append_assoc]
    apply (List.Perm.append_right _ (inFlight_erase hlookup)).trans
    rw [List.append_assoc]
    exact List.perm_append_comm
  replies := by
    intro other next reply hnext hstage
    dsimp only at hnext
    exact hsound.replies other next reply (of_lookup_erase hnext) hstage

theorem Sound.advance {pull : PullRequest}
    {tasks : OrderedDict String TaskStatus} {stage : PullStage}
    (hlookup : system.pulls.lookup request = some pull)
    (hstage : ∀ reply, stage = .replied reply →
      reply.decode = some pull.results) : ({ system with
      tasks := tasks
      pulls := system.pulls.set request { pull with stage := stage } } :
        PullSystem).Sound where
  placed := by
    intro poolId
    apply (hsound.placed poolId).trans
    apply List.Perm.append_left
    apply List.Perm.append_right
    apply List.Perm.symm
    apply inFlight_set_same hlookup
    · rfl
    · rfl
  replies := by
    intro other next reply hnext hreply
    obtain ⟨rfl, rfl⟩ | hnext := of_lookup_set hnext
    · exact hstage reply hreply
    · exact hsound.replies other next reply hnext hreply

theorem Sound.finish {poolId : String} {result : TaskResult}
    (hroom : (system.hook.queues poolId).length < system.hook.perClientLimit)
    (hfinish : system.finish poolId result = some after) : after.Sound := by
  unfold PullSystem.finish at hfinish
  split at hfinish
  · cases hfinish
  split at hfinish
  · cases hfinish
  cases hfinish
  refine ⟨?_, hsound.replies⟩
  intro other
  dsimp only [queued]
  rw [queued_push system result other hroom, Function.update_apply]
  split
  · next heq =>
    subst heq
    rw [List.append_assoc]
    apply (List.Perm.append_right _ (hsound.placed other)).trans
    rw [List.append_assoc]
    exact List.Perm.append_left _ List.perm_append_comm
  · exact hsound.placed other

theorem Sound.startPull {poolId : String} {limit : ℕ}
    (hpull : system.startPull request poolId limit = some after) :
    after.Sound := by
  unfold PullSystem.startPull ResultHook.pull at hpull
  split at hpull
  · cases hpull
  next hnew =>
  cases hpull
  constructor
  · intro other
    dsimp only [queued]
    rw [inFlight_set_new hnew, Function.update_apply]
    apply (hsound.placed other).trans
    unfold PullRequest.resultsOf queued
    dsimp only
    by_cases heq : other = poolId
    · rw [if_pos heq, if_pos heq.symm, heq]
      have hsplit : (system.hook.queues poolId).map QueuedResult.result =
          ((system.hook.queues poolId).take (max 1 limit)).map
              QueuedResult.result ++
            ((system.hook.queues poolId).drop (max 1 limit)).map
              QueuedResult.result := by
        rw [← List.map_append, List.take_append_drop]
      rw [hsplit, ← Multiset.coe_eq_coe]
      simp only [← Multiset.coe_add]
      abel
    · rw [if_neg heq, if_neg (Ne.symm heq), List.append_nil]
  · intro other next reply hnext hstage
    obtain ⟨rfl, rfl⟩ | hnext := of_lookup_set hnext
    · cases hstage
    · exact hsound.replies other next reply hnext hstage

theorem sound_step {label : PullLabel} (hkeeps : system.keeps label = true)
    (hstep : system.step label = some after) : after.Sound := by
  cases label with
  | submit taskId =>
    simp only [step] at hstep
    split at hstep
    · cases hstep
    · cases hstep
      exact ⟨hsound.placed, hsound.replies⟩
  | finish poolId result =>
    exact hsound.finish (of_decide_eq_true hkeeps) hstep
  | pull request poolId limit => exact hsound.startPull hstep
  | forget request =>
    simp only [step] at hstep
    split at hstep
    · next poolId results nextCursor hlookup =>
      cases hstep
      exact hsound.advance hlookup nofun
    · cases hstep
  | encode request =>
    simp only [step] at hstep
    split at hstep
    · next poolId results nextCursor hlookup =>
      have hencodable : (encodeReply results).isSome = true := by
        rw [encodeReply_isSome]
        simpa only [keeps, hlookup, Option.map_some, Option.getD_some]
          using hkeeps
      split at hstep
      · next reply hreply =>
        cases hstep
        apply hsound.advance hlookup
        rintro _ ⟨⟩
        exact decode_encodeReply hreply
      · next hnone =>
        rw [hnone] at hencodable
        cases hencodable
    · cases hstep
  | lose request =>
    simp only [step] at hstep
    split at hstep
    · next hmem =>
      cases hstep
      obtain ⟨pull, hlookup⟩ := mem_iff_lookup.mp hmem
      simp only [keeps, hlookup, Option.map_some, Option.getD_some,
        List.isEmpty_iff] at hkeeps
      apply hsound.endPull hlookup
      intro poolId
      unfold PullRequest.resultsOf
      rw [hkeeps, ite_self, List.append_nil]
    · cases hstep
  | receive request =>
    simp only [step] at hstep
    split at hstep
    · next poolId results nextCursor reply hlookup =>
      have hdecode := hsound.replies request _ reply hlookup rfl
      rw [hdecode] at hstep
      cases hstep
      apply hsound.endPull hlookup
      intro other
      unfold PullRequest.resultsOf
      dsimp only
      rw [Function.update_apply]
      by_cases heq : other = poolId
      · rw [if_pos heq, if_pos heq.symm, heq]
      · rw [if_neg heq, if_neg (Ne.symm heq), List.append_nil]
    · cases hstep
  | clearPool poolId =>
    simp only [step, Option.some.injEq] at hstep
    subst hstep
    refine ⟨?_, hsound.replies⟩
    intro other
    apply (hsound.placed other).trans
    apply List.Perm.append_right
    unfold queued ResultHook.clearClient
    dsimp only
    rw [Function.update_apply]
    split
    · next heq =>
      have hempty : system.hook.queues poolId = [] :=
        List.isEmpty_iff.mp hkeeps
      rw [heq, hempty]
    · exact .refl _

end

/-- No result is lost: each is queued on the node, taken by a request that is
still going on, or in a reply that a client decoded. -/
theorem results_kept {perClientLimit : ℕ} {system : PullSystem}
    (hrun : GuardedRun step (fun system label => system.keeps label = true)
      (initial perClientLimit) system) (poolId : String) :
    (system.finished poolId).Perm (system.queued poolId ++
      (inFlight system.pulls poolId ++ system.delivered poolId)) ∧
    (inFlight system.pulls poolId = [] → ∀ result ∈ system.finished poolId,
      result ∈ system.queued poolId ∨ result ∈ system.delivered poolId) := by
  have hsound : system.Sound := hrun.invariant Sound (sound_initial _)
    fun _ _ _ hsound hkeeps hstep => sound_step hsound hkeeps hstep
  refine ⟨hsound.placed poolId, ?_⟩
  intro hidle result hresult
  have hplace := (hsound.placed poolId).mem_iff.mp hresult
  rwa [hidle, List.nil_append, List.mem_append] at hplace

def sampleResult (taskId : String) (number : NumberValue) : TaskResult where
  taskId := taskId
  jobId := "job-1"
  status := .succeeded
  attempt := 1
  error := ⟨"", ""⟩
  value := .result [("x", .numberValue number)]

/-- Two tasks, a pull that takes one result and is answered, and a pull that
takes nothing and is lost. -/
theorem sample_results_kept : ∃ system : PullSystem,
    (system.finished "pool-1").map TaskResult.taskId = ["t1", "t2"] ∧
    (system.delivered "pool-1").map TaskResult.taskId = ["t1"] ∧
    ∀ result ∈ system.finished "pool-1",
      result ∈ system.queued "pool-1" ∨ result ∈ system.delivered "pool-1" := by
  have hrun : (checkedRun step (fun system label => system.keeps label = true)
      (initial 20000)
      [.submit "t1", .submit "t2",
        .finish "pool-1" (sampleResult "t1" (.finite 1)),
        .pull 1 "pool-1" 1, .forget 1,
        .finish "pool-1" (sampleResult "t2" .nan), .encode 1, .receive 1,
        .pull 2 "pool-2" 100, .lose 2]).any (fun system =>
          (system.finished "pool-1").map TaskResult.taskId = ["t1", "t2"] ∧
          (system.delivered "pool-1").map TaskResult.taskId = ["t1"] ∧
          (inFlight system.pulls "pool-1").isEmpty = true) = true := by
    decide +kernel
  rw [Option.any_eq_true] at hrun
  obtain ⟨system, hsystem, hfacts⟩ := hrun
  obtain ⟨hfinished, hdelivered, hidle⟩ := of_decide_eq_true hfacts
  have hkept := results_kept (guardedRun_of_checkedRun _ hsystem) "pool-1"
  exact ⟨system, hfinished, hdelivered, hkept.2 (List.isEmpty_iff.mp hidle)⟩

/-- One result with an infinite number makes the other result of the same pull
disappear: it is in no queue, in no request and in no reply, and its record is
gone. -/
theorem results_lost : ∃ system : PullSystem,
    Reachable step (initial 20000) system ∧
    (system.finished "pool-1").map TaskResult.taskId = ["t1", "t2"] ∧
    (system.queued "pool-1").isEmpty = true ∧
    (inFlight system.pulls "pool-1").isEmpty = true ∧
    (system.delivered "pool-1").isEmpty = true ∧ "t1" ∉ system.tasks := by
  have hrun : (runLabels step (initial 20000)
      [.submit "t1", .submit "t2",
        .finish "pool-1" (sampleResult "t1" (.finite 1)),
        .finish "pool-1" (sampleResult "t2" (.infinity false)),
        .pull 1 "pool-1" 100, .forget 1, .encode 1]).any (fun system =>
          (system.finished "pool-1").map TaskResult.taskId = ["t1", "t2"] ∧
          (system.queued "pool-1").isEmpty = true ∧
          (inFlight system.pulls "pool-1").isEmpty = true ∧
          (system.delivered "pool-1").isEmpty = true ∧
          "t1" ∉ system.tasks) = true := by
    decide +kernel
  rw [Option.any_eq_true] at hrun
  obtain ⟨system, hsystem, hfacts⟩ := hrun
  exact ⟨system, reachable_of_runLabels _ hsystem, of_decide_eq_true hfacts⟩

end PullSystem

end PycloudParallel.ResultPull
