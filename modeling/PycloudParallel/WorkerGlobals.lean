import PycloudParallel.FoundationGuardedRun
import PycloudParallel.FoundationTexts
import Mathlib.Data.List.Nodup

/-!
# Managed globals in a worker process

`_execute_payload_in_subprocess` with `_apply_managed_globals_to_router`: the
executions of one resource in one worker.  A digest names a manifest, the cache
remembers the digest that was applied last, and the hook and the functions of
the user may write any globals.
-/

namespace PycloudParallel.WorkerGlobals

open Texts (strip)

variable {γ ν : Type}

structure ValueMeta where
  sha256 : String
  codec : String
deriving DecidableEq

/-- The values of a manifest.  `_write_managed_globals_snapshot` writes names
that are stripped, not empty and all different, each with a digest. -/
structure Manifest where
  values : List (String × ValueMeta)
  plain : ∀ entry ∈ values, strip entry.1 = entry.1 ∧ entry.1 ≠ ""
  digested : ∀ entry ∈ values, strip entry.2.sha256 ≠ ""
  nodup : (values.map Prod.fst).Nodup

/-- A function of the router: its module's globals, and whether it has a
`__globals__`. -/
structure Exported (γ : Type) where
  namespaceOf : γ
  hasGlobals : Bool

/-- The resource of the worker: the entry module's globals, the router, whether
the module has an `apply_managed_globals`, the manifests by digest, and the
values of the value files. -/
structure Resource (γ ν : Type) where
  entry : γ
  router : List (String × Exported γ)
  hasHook : Bool
  manifests : String → Manifest
  valueOf : ValueMeta → ν

/-- What the hook returns: the dict it was given, another dict, `None`, or
something else. -/
inductive HookResult (ν : Type)
  | input
  | dict (values : List (String × ν))
  | nothing
  | other

structure Write (γ ν : Type) where
  target : γ
  name : String
  value : ν

structure HookRun (γ ν : Type) where
  writes : List (Write γ ν)
  result : Option (HookResult ν)

structure Execution (γ ν : Type) where
  digest : String
  method : String
  /-- The router is loaded. -/
  loads : Bool
  /-- The manifest is there and is read. -/
  manifestRead : Bool
  /-- The value of a name is there, is read, and its references are resolved. -/
  valueRead : String → Bool
  hook : HookRun γ ν
  /-- How many assignments are made before one raises. -/
  assignmentsMade : Option ℕ
  /-- The payload is decoded. -/
  decodes : Bool
  warmupOnly : Bool
  userWrites : List (Write γ ν)

abbrev Globals (γ ν : Type) := γ → String → Option ν

structure Invocation (γ ν : Type) where
  digest : String
  namespaceOf : γ
  globals : Globals γ ν

structure Worker (γ ν : Type) where
  cache : Option String
  globals : Globals γ ν
  invoked : List (Invocation γ ν)

def Worker.start (globals : Globals γ ν) : Worker γ ν := ⟨none, globals, []⟩

section Definitions

variable [DecidableEq γ]

def assignGlobal (globals : Globals γ ν) (write : Write γ ν) : Globals γ ν :=
  fun target name =>
    if target = write.target ∧ name = write.name then some write.value
    else globals target name

def writeAll (globals : Globals γ ν) (writes : List (Write γ ν)) :
    Globals γ ν :=
  writes.foldl assignGlobal globals

variable (resource : Resource γ ν) (execution : Execution γ ν)

def Resource.valuesOf (digest : String) : List (String × ν) :=
  (resource.manifests digest).values.map fun entry =>
    (entry.1, resource.valueOf entry.2)

/-- `resolved_values`; items without a digest are passed over. -/
def resolveValues (digest : String) : Option (List (String × ν)) :=
  if !execution.manifestRead then none
  else if (resource.manifests digest).values.any (fun entry =>
      decide (strip entry.2.sha256 ≠ "") && !execution.valueRead entry.1) then
    none
  else some (((resource.manifests digest).values.filter fun entry =>
    strip entry.2.sha256 ≠ "").map fun entry =>
      (entry.1, resource.valueOf entry.2))

def assignments (values : List (String × ν)) (target : γ) :
    List (Write γ ν) :=
  values.filterMap fun entry =>
    if strip entry.1 = "" then none
    else some ⟨target, strip entry.1, entry.2⟩

def Resource.routerNamespaces : List γ :=
  ((resource.router.filter fun entry => entry.2.hasGlobals).map
    fun entry => entry.2.namespaceOf).eraseDups

/-- What the hook leaves to be assigned, and where; `none` is an exception. -/
def fallbackAssignments (values : List (String × ν)) :
    Option (List (Write γ ν)) :=
  if !resource.hasHook then
    some (resource.routerNamespaces.flatMap (assignments values))
  else
    match execution.hook.result with
    | some .input => some (assignments values resource.entry)
    | some (.dict other) => some (assignments other resource.entry)
    | some .nothing => some []
    | _ => none

def hookWrites : List (Write γ ν) :=
  if resource.hasHook then execution.hook.writes else []

/-- `_apply_managed_globals_to_router` behind the look into the cache: the
writes it makes, and whether it gets to its end. -/
def applyWrites (digest : String) : List (Write γ ν) × Bool :=
  match resolveValues resource execution digest with
  | none => ([], false)
  | some values =>
    let written := hookWrites resource execution
    match fallbackAssignments resource execution values with
    | none => (written, false)
    | some assigned =>
      match execution.assignmentsMade with
      | some count =>
        if count < assigned.length then (written ++ assigned.take count, false)
        else (written ++ assigned, true)
      | none => (written ++ assigned, true)

/-- `_apply_managed_globals_to_router`; `true` if it does not raise. -/
def applyManagedGlobals (worker : Worker γ ν) : Worker γ ν × Bool :=
  let digest := strip execution.digest
  if digest = "" then (worker, true)
  else if worker.cache = some digest then (worker, true)
  else
    let applied := applyWrites resource execution digest
    ({ worker with
      cache := if applied.2 then some digest else worker.cache
      globals := writeAll worker.globals applied.1 }, applied.2)

def invoke (worker : Worker γ ν) (target : Exported γ) : Worker γ ν :=
  { worker with
    invoked := ⟨strip execution.digest, target.namespaceOf, worker.globals⟩ ::
      worker.invoked
    globals := writeAll worker.globals execution.userWrites }

def execute (worker : Worker γ ν) : Worker γ ν :=
  if !execution.loads then worker
  else
    match resource.router.lookup execution.method with
    | none => worker
    | some target =>
      let applied := applyManagedGlobals resource execution worker
      if !applied.2 || !execution.decodes || execution.warmupOnly then applied.1
      else invoke execution applied.1 target

def step (worker : Worker γ ν) (execution : Execution γ ν) :
    Option (Worker γ ν) :=
  some (execute resource execution worker)

def Resource.assignedNamespaces : List γ :=
  if resource.hasHook then [resource.entry] else resource.routerNamespaces

def ReturnsInput : Prop :=
  resource.hasHook = true → execution.hook.result = none ∨
    execution.hook.result = some .input

def LeavesRemembered (worker : Worker γ ν) (writes : List (Write γ ν)) : Prop :=
  ∀ digest, worker.cache = some digest →
    ∀ target ∈ resource.assignedNamespaces,
      ∀ entry ∈ resource.valuesOf digest,
        writeAll worker.globals writes target entry.1 =
          worker.globals target entry.1

/-- The function is one whose globals are assigned, an application that raises
has not changed a remembered value, and neither has the user function. -/
structure Unspoiled (worker : Worker γ ν) (execution : Execution γ ν) :
    Prop where
  returnsInput : ReturnsInput resource execution
  assigned : ∀ target, resource.router.lookup execution.method = some target →
    resource.valuesOf (strip execution.digest) ≠ [] →
      target.namespaceOf ∈ resource.assignedNamespaces
  raised : worker.cache ≠ some (strip execution.digest) →
    (applyWrites resource execution (strip execution.digest)).2 = false →
      LeavesRemembered resource worker
        (applyWrites resource execution (strip execution.digest)).1
  user : LeavesRemembered resource
    (applyManagedGlobals resource execution worker).1 execution.userWrites

def ReadsOwn (invocation : Invocation γ ν) : Prop :=
  invocation.digest ≠ "" →
    ∀ entry ∈ resource.valuesOf invocation.digest,
      invocation.globals invocation.namespaceOf entry.1 = some entry.2

structure Remembers (worker : Worker γ ν) : Prop where
  cached : ∀ digest, worker.cache = some digest →
    ∀ target ∈ resource.assignedNamespaces,
      ∀ entry ∈ resource.valuesOf digest,
        worker.globals target entry.1 = some entry.2
  invoked : ∀ invocation ∈ worker.invoked, ReadsOwn resource invocation

end Definitions

section Writes

variable [DecidableEq γ] {globals : Globals γ ν} {writes : List (Write γ ν)}
  {target : γ} {name : String} {value : ν}

theorem writeAll_append (globals : Globals γ ν)
    (first second : List (Write γ ν)) :
    writeAll globals (first ++ second) =
      writeAll (writeAll globals first) second :=
  List.foldl_append

theorem writeAll_kept (hkept : globals target name = some value)
    (hsame : ∀ write ∈ writes, write.target = target → write.name = name →
      write.value = value) :
    writeAll globals writes target name = some value := by
  induction writes generalizing globals with
  | nil => exact hkept
  | cons first rest ih =>
    rw [List.forall_mem_cons] at hsame
    refine ih ?_ hsame.2
    unfold assignGlobal
    split
    · next heq => rw [hsame.1 heq.1.symm heq.2.symm]
    · exact hkept

theorem writeAll_eq
    (hwritten : ∃ write ∈ writes, write.target = target ∧ write.name = name)
    (hsame : ∀ write ∈ writes, write.target = target → write.name = name →
      write.value = value) :
    writeAll globals writes target name = some value := by
  induction writes generalizing globals with
  | nil =>
    obtain ⟨write, hwrite, _⟩ := hwritten
    cases hwrite
  | cons first rest ih =>
    rw [List.forall_mem_cons] at hsame
    by_cases hfirst : first.target = target ∧ first.name = name
    · change writeAll (assignGlobal globals first) rest target name = some value
      refine writeAll_kept ?_ hsame.2
      rw [assignGlobal, if_pos ⟨hfirst.1.symm, hfirst.2.symm⟩,
        hsame.1 hfirst.1 hfirst.2]
    · obtain ⟨other, hother, hboth⟩ := hwritten
      obtain rfl | hrest := List.mem_cons.mp hother
      · exact absurd hboth hfirst
      · exact ih ⟨other, hrest, hboth⟩ hsame.2

end Writes

/-! ## Applying -/

section Applying

variable [DecidableEq γ] {resource : Resource γ ν}
  {execution : Execution γ ν} {worker worker' : Worker γ ν} {digest : String}

omit [DecidableEq γ] in
theorem nodup_valuesOf (resource : Resource γ ν) (digest : String) :
    ((resource.valuesOf digest).map Prod.fst).Nodup := by
  rw [Resource.valuesOf, List.map_map]
  exact (resource.manifests digest).nodup

variable {entry : String × ν} {values : List (String × ν)}

omit [DecidableEq γ] in
theorem plain_valuesOf (hentry : entry ∈ resource.valuesOf digest) :
    strip entry.1 = entry.1 ∧ entry.1 ≠ "" := by
  obtain ⟨item, hitem, rfl⟩ := List.mem_map.mp hentry
  exact (resource.manifests digest).plain item hitem

omit [DecidableEq γ] in
theorem resolveValues_eq_some
    (hresolve : resolveValues resource execution digest = some values) :
    values = resource.valuesOf digest := by
  rw [resolveValues] at hresolve
  split at hresolve
  · cases hresolve
  · split at hresolve
    · cases hresolve
    · cases hresolve
      have hall : (resource.manifests digest).values.filter (fun entry =>
          strip entry.2.sha256 ≠ "") = (resource.manifests digest).values :=
        List.filter_eq_self.mpr fun entry hentry =>
          decide_eq_true ((resource.manifests digest).digested entry hentry)
      rw [hall]
      rfl

omit [DecidableEq γ] in
theorem mem_assignments {target : γ} {made : Write γ ν} :
    made ∈ assignments values target ↔ ∃ entry ∈ values,
      strip entry.1 ≠ "" ∧ made = ⟨target, strip entry.1, entry.2⟩ := by
  rw [assignments, List.mem_filterMap]
  constructor
  · rintro ⟨entry, hentry, hmade⟩
    split at hmade
    · cases hmade
    · next hsome =>
      cases hmade
      exact ⟨entry, hentry, hsome, rfl⟩
  · rintro ⟨entry, hentry, hsome, rfl⟩
    exact ⟨entry, hentry, if_neg hsome⟩

theorem writeAll_assigned (globals : Globals γ ν) (targets : List γ)
    {target : γ} (htarget : target ∈ targets)
    (hentry : entry ∈ resource.valuesOf digest) :
    writeAll globals (targets.flatMap (assignments (resource.valuesOf digest)))
      target entry.1 = some entry.2 := by
  obtain ⟨hplain, hsome⟩ := plain_valuesOf hentry
  apply writeAll_eq
  · refine ⟨⟨target, entry.1, entry.2⟩, ?_, rfl, rfl⟩
    rw [List.mem_flatMap]
    refine ⟨target, htarget, mem_assignments.mpr ⟨entry, hentry, ?_, ?_⟩⟩
    · rwa [hplain]
    · rw [hplain]
  · intro made hmade htargetEq hname
    obtain ⟨other, _, hother⟩ := List.mem_flatMap.mp hmade
    obtain ⟨item, hitem, _, rfl⟩ := mem_assignments.mp hother
    rw [(plain_valuesOf hitem).1] at hname
    have hsame : item = entry :=
      List.inj_on_of_nodup_map (nodup_valuesOf resource digest) hitem hentry
        hname
    rw [hsame]

theorem fallbackAssignments_eq (hinput : ReturnsInput resource execution)
    {assigned : List (Write γ ν)}
    (hfallback : fallbackAssignments resource execution values = some assigned)
    : assigned = resource.assignedNamespaces.flatMap (assignments values) := by
  rw [fallbackAssignments] at hfallback
  rw [Resource.assignedNamespaces]
  cases hhook : resource.hasHook with
  | false =>
    rw [hhook] at hfallback
    cases hfallback
    rfl
  | true =>
    rw [hhook] at hfallback
    obtain hnone | hreturned := hinput hhook
    · rw [hnone] at hfallback
      cases hfallback
    · rw [hreturned] at hfallback
      cases hfallback
      simp

theorem writeAll_applyWrites (hinput : ReturnsInput resource execution)
    (happlied : (applyWrites resource execution digest).2 = true)
    (globals : Globals γ ν) {target : γ}
    (htarget : target ∈ resource.assignedNamespaces)
    (hentry : entry ∈ resource.valuesOf digest) :
    writeAll globals (applyWrites resource execution digest).1 target entry.1 =
      some entry.2 := by
  have hassigned : ∀ values assigned,
      resolveValues resource execution digest = some values →
      fallbackAssignments resource execution values = some assigned →
      writeAll globals (hookWrites resource execution ++ assigned) target
        entry.1 = some entry.2 := by
    intro values assigned hresolve hfallback
    rw [fallbackAssignments_eq hinput hfallback,
      resolveValues_eq_some hresolve, writeAll_append]
    exact writeAll_assigned _ _ htarget hentry
  unfold applyWrites at happlied ⊢
  cases hresolve : resolveValues resource execution digest with
  | none =>
    rw [hresolve] at happlied
    cases happlied
  | some values =>
    simp only [hresolve] at happlied ⊢
    cases hfallback : fallbackAssignments resource execution values with
    | none =>
      rw [hfallback] at happlied
      cases happlied
    | some assigned =>
      simp only [hfallback] at happlied ⊢
      have hdone := hassigned values assigned hresolve hfallback
      split at happlied
      · split at happlied
        · cases happlied
        · next hcount => simpa only [if_neg hcount] using hdone
      · exact hdone

/-! ## Executions -/

theorem applyManagedGlobals_cases (resource : Resource γ ν)
    (execution : Execution γ ν) (worker : Worker γ ν) :
    (strip execution.digest = "" ∧
        applyManagedGlobals resource execution worker = (worker, true)) ∨
      (worker.cache = some (strip execution.digest) ∧
        applyManagedGlobals resource execution worker = (worker, true)) ∨
      (worker.cache ≠ some (strip execution.digest) ∧
        (applyWrites resource execution (strip execution.digest)).2 = true ∧
        applyManagedGlobals resource execution worker =
          ({ worker with
            cache := some (strip execution.digest)
            globals := writeAll worker.globals
              (applyWrites resource execution (strip execution.digest)).1 },
            true)) ∨
      (worker.cache ≠ some (strip execution.digest) ∧
        (applyWrites resource execution (strip execution.digest)).2 = false ∧
        applyManagedGlobals resource execution worker =
          ({ worker with
            globals := writeAll worker.globals
              (applyWrites resource execution (strip execution.digest)).1 },
            false)) := by
  unfold applyManagedGlobals
  by_cases hempty : strip execution.digest = ""
  · exact Or.inl ⟨hempty, if_pos hempty⟩
  by_cases hcached : worker.cache = some (strip execution.digest)
  · exact Or.inr (Or.inl ⟨hcached, by simp [hcached]⟩)
  cases happlied : (applyWrites resource execution
      (strip execution.digest)).2 with
  | true =>
    exact Or.inr (Or.inr (Or.inl ⟨hcached, rfl, by
      simp [hempty, hcached, happlied]⟩))
  | false =>
    exact Or.inr (Or.inr (Or.inr ⟨hcached, rfl, by
      simp [hempty, hcached, happlied]⟩))

theorem Remembers.applied (hremembers : Remembers resource worker)
    (hunspoiled : Unspoiled resource worker execution) :
    Remembers resource (applyManagedGlobals resource execution worker).1 ∧
      ((applyManagedGlobals resource execution worker).2 = true →
        strip execution.digest = "" ∨
          (applyManagedGlobals resource execution worker).1.cache =
            some (strip execution.digest)) := by
  obtain ⟨hempty, heq⟩ | ⟨hcached, heq⟩ | ⟨hother, hdone, heq⟩ |
    ⟨hother, hraised, heq⟩ := applyManagedGlobals_cases resource execution worker
  · rw [heq]
    exact ⟨hremembers, fun _ => Or.inl hempty⟩
  · rw [heq]
    exact ⟨hremembers, fun _ => Or.inr hcached⟩
  · rw [heq]
    refine ⟨⟨?_, hremembers.invoked⟩, fun _ => Or.inr rfl⟩
    intro digest hdigest target htarget entry hentry
    cases hdigest
    exact writeAll_applyWrites hunspoiled.returnsInput hdone worker.globals
      htarget hentry
  · rw [heq]
    refine ⟨⟨?_, hremembers.invoked⟩, fun hdone => by cases hdone⟩
    -- the cache still names the old digest, whose values are to be there
    intro digest hdigest target htarget entry hentry
    have hkept := hunspoiled.raised hother hraised digest hdigest target htarget
      entry hentry
    dsimp only
    rw [hkept]
    exact hremembers.cached digest hdigest target htarget entry hentry

theorem Remembers.execute (hremembers : Remembers resource worker)
    (hunspoiled : Unspoiled resource worker execution) :
    Remembers resource (execute resource execution worker) := by
  obtain ⟨happlied, hcache⟩ := hremembers.applied hunspoiled
  unfold WorkerGlobals.execute
  split
  · exact hremembers
  split
  · exact hremembers
  · next target htarget =>
    dsimp only
    split
    · exact happlied
    · next hreached =>
      have hdone : (applyManagedGlobals resource execution worker).2 = true := by
        by_contra hraised
        rw [Bool.not_eq_true] at hraised
        simp [hraised] at hreached
      rw [invoke]
      constructor
      · intro digest hdigest namespaceOf hassigned entry hentry
        dsimp only at hdigest ⊢
        have hkept := hunspoiled.user digest hdigest namespaceOf hassigned entry
          hentry
        rw [hkept]
        exact happlied.cached digest hdigest namespaceOf hassigned entry hentry
      · intro invocation hinvocation
        dsimp only at hinvocation
        obtain rfl | hold := List.mem_cons.mp hinvocation
        · intro hdigest entry hentry
          dsimp only at hdigest hentry ⊢
          obtain hempty | hcached := hcache hdone
          · exact absurd hempty hdigest
          · exact happlied.cached _ hcached _
              (hunspoiled.assigned target htarget (List.ne_nil_of_mem hentry))
              entry hentry
        · exact happlied.invoked invocation hold

end Applying

/-- In every run of executions that are not spoiled, each user function that is
reached finds the values of its own manifest. -/
theorem executions_read_own [DecidableEq γ] (resource : Resource γ ν)
    (globals : Globals γ ν) (worker : Worker γ ν)
    (hrun : GuardedRun (step resource) (Unspoiled resource) (.start globals)
      worker) :
    ∀ invocation ∈ worker.invoked, ReadsOwn resource invocation := by
  have hstart : Remembers resource (.start globals) :=
    ⟨fun _ hcache => (by cases hcache),
      fun _ hmem => absurd hmem List.not_mem_nil⟩
  have hremembers := hrun.invariant (Remembers resource) hstart fun before
      execution after hbefore hunspoiled hstep => by
    cases hstep
    exact hbefore.execute hunspoiled
  exact hremembers.invoked

/-! ## A hook that raises behind its first write -/

def manifestOfX (sha256 : String) (hdigest : strip sha256 ≠ "") : Manifest where
  values := [("x", ⟨sha256, "json"⟩)]
  plain entry hentry := by
    rw [List.mem_singleton.mp hentry]
    exact (by decide +kernel : strip "x" = "x" ∧ "x" ≠ "")
  digested entry hentry := by
    rw [List.mem_singleton.mp hentry]
    exact hdigest
  nodup := List.nodup_singleton _

/-- One module with one function `run`; `d1` gives `x` the value `1`, and every
other digest `2`. -/
def sampleResource (hasHook : Bool) : Resource Unit String where
  entry := ()
  router := [("run", ⟨(), true⟩)]
  hasHook := hasHook
  manifests digest :=
    if digest = "d1" then manifestOfX "1" (by decide +kernel)
    else manifestOfX "2" (by decide +kernel)
  valueOf item := item.sha256

def sampleExecution (digest : String) (hook : HookRun Unit String) :
    Execution Unit String where
  digest := digest
  method := "run"
  loads := true
  manifestRead := true
  valueRead _ := true
  hook := hook
  assignmentsMade := none
  decodes := true
  warmupOnly := false
  userWrites := []

def returningHook : HookRun Unit String := ⟨[], some .input⟩

def raisingHook : HookRun Unit String := ⟨[⟨(), "x", "2"⟩], none⟩

/-- The execution with `d1` runs with the `x` of `d2`. -/
theorem raised_hook_mistaken : ∃ worker : Worker Unit String,
    GuardedRun (step (sampleResource true))
        (fun _ execution => ReturnsInput (sampleResource true) execution)
        (.start fun _ _ => none) worker ∧
      ∃ invocation ∈ worker.invoked,
        ¬ReadsOwn (sampleResource true) invocation := by
  let first := sampleExecution "d1" returningHook
  let second := sampleExecution "d2" raisingHook
  let worker := execute (sampleResource true) first
    (execute (sampleResource true) second
      (execute (sampleResource true) first (.start fun _ _ => none)))
  refine ⟨worker, .tail first (.tail second (.tail first .refl
    (fun _ => Or.inr rfl) rfl) (fun _ => Or.inl rfl) rfl)
    (fun _ => Or.inr rfl) rfl, ?_⟩
  have hlast : worker.invoked.map (fun invocation =>
      (invocation.digest, invocation.namespaceOf,
        invocation.globals () "x")) =
      [("d1", (), some "2"), ("d1", (), some "1")] := by decide +kernel
  obtain ⟨invocation, hmem, hseen⟩ := List.mem_map.mp
    (hlast ▸ List.mem_cons_self : ("d1", (), some "2") ∈ worker.invoked.map _)
  refine ⟨invocation, hmem, fun hreads => ?_⟩
  rw [Prod.mk.injEq, Prod.mk.injEq] at hseen
  obtain ⟨hdigest, _, hvalue⟩ := hseen
  have hown := hreads (by rw [hdigest]; decide) ("x", "1") (by
    rw [hdigest]
    exact List.mem_singleton_self _)
  rw [hvalue] at hown
  revert hown
  decide

theorem unspoiled_sample {worker : Worker Unit String} (digest : String)
    (hdone : (applyWrites (sampleResource false)
      (sampleExecution digest returningHook) (strip digest)).2 = true) :
    Unspoiled (sampleResource false) worker
      (sampleExecution digest returningHook) where
  returnsInput hhook := by cases hhook
  assigned target htarget _ := by
    obtain ⟨⟩ := target.namespaceOf
    exact List.mem_singleton_self ()
  raised _ hraised := by
    rw [sampleExecution] at hraised hdone
    rw [hdone] at hraised
    cases hraised
  user _ _ _ _ _ _ := rfl

theorem two_digests_read_own : ∃ worker : Worker Unit String,
    GuardedRun (step (sampleResource false)) (Unspoiled (sampleResource false))
        (.start fun _ _ => none) worker ∧
      worker.invoked.map (fun invocation =>
        (invocation.digest, invocation.globals () "x")) =
          [("d2", some "2"), ("d1", some "1")] ∧
      ∀ invocation ∈ worker.invoked,
        ReadsOwn (sampleResource false) invocation := by
  have hrun : GuardedRun (step (sampleResource false))
      (Unspoiled (sampleResource false)) (.start fun _ _ => none)
      (execute (sampleResource false) (sampleExecution "d2" returningHook)
        (execute (sampleResource false) (sampleExecution "d1" returningHook)
          (.start fun _ _ => none))) :=
    .tail _ (.tail _ .refl (unspoiled_sample "d1" (by decide +kernel)) rfl)
      (unspoiled_sample "d2" (by decide +kernel)) rfl
  exact ⟨_, hrun, by decide +kernel,
    executions_read_own (sampleResource false) _ _ hrun⟩

end PycloudParallel.WorkerGlobals
