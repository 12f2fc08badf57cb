import Mathlib.Data.List.Forall2
import Mathlib.Data.List.Perm.Subperm
import PycloudParallel.NodeReportsModel

/-!
# Reports as clients read them

Each report is parsed, stamped and serialised on its own, so the list that a
client reads pairs with the list of reports: one entry for each of them, in the
client's order.  What an entry says of its report is stated once for services
and once for pools.
-/

namespace PycloudParallel.NodeReports

open Texts OrderedDict

variable {δ : Type}

section Pairs

variable {α β γ : Type*} {R : α → β → Prop}

theorem forall₂_filterMap {f : α → Option β} {p : α → Prop} [DecidablePred p]
    (htaken : ∀ a, p a ↔ (f a).isSome = true) (list : List α) :
    List.Forall₂ (fun a b => f a = some b) (list.filter fun a => p a)
      (list.filterMap f) := by
  induction list with
  | nil => exact .nil
  | cons a rest ih =>
    cases hf : f a with
    | none =>
      have hnot : ¬p a := by simp [htaken, hf]
      simpa [hf, hnot] using ih
    | some b =>
      have htake : p a := by simp [htaken, hf]
      simpa [hf, htake] using ih

theorem map_eq_of_forall₂ {g : β → γ} {h : α → γ} {list : List α}
    {others : List β} (hpairs : List.Forall₂ R list others)
    (heq : ∀ a b, R a b → g b = h a) : others.map g = list.map h := by
  induction hpairs with
  | nil => rfl
  | cons hab _ ih => rw [List.map_cons, List.map_cons, heq _ _ hab, ih]

theorem exists_perm_forall₂ {list : List α} {others sorted : List β}
    (hpairs : List.Forall₂ R list others) (hperm : sorted.Perm others) :
    ∃ order, order.Perm list ∧ List.Forall₂ R order sorted := by
  obtain ⟨order, hsorted, horder⟩ :=
    List.perm_comp_forall₂ hperm (List.Forall₂.flip (R := flip R) hpairs)
  exact ⟨order, horder, hsorted.flip⟩

end Pairs

/-- A failure has the reported time, or one that the InfoCenter noted, and
without a reason there is none. -/
def FailureSeen (reason : String) (reported seen : Option Moment) : Prop :=
  if reason = "" then seen = none
  else
    match reported with
    | some moment => seen = some moment.toUtc
    | none => seen.isSome = true

def ServiceReport.PlainHealth (casing : Casing) (report : ServiceReport δ) :
    Prop :=
  report.status ∈ [serviceStarting, serviceRunning, serviceDraining,
    serviceStopped] ∧
  casing.lower (strip report.readiness) ≠ "failed" ∧
  report.degraded = false ∧ report.methodFailures.keys = []

structure ServiceSeen (casing : Casing) (report : ServiceReport δ)
    (seen : InfoCenterNodeService δ) : Prop where
  serviceName : seen.serviceName = strip report.serviceName
  serviceId : seen.serviceId = strip report.serviceId
  status : seen.status = report.status
  policyId : seen.policyId = normalizePolicyId casing report.policyId
  ownerClientId : seen.ownerClientId = report.ownerClientId
  codeVersion : seen.codeVersion = report.codeVersion
  entryModule : seen.entryModule = report.entryModule
  entryCallable : seen.entryCallable = report.entryCallable
  serializationMode : seen.serializationMode = report.serializationMode
  statusText : seen.statusText = serviceStatusText report.status
  resourceHealth : report.PlainHealth casing →
    seen.resourceHealth = report.resourceHealth
  workerCount : seen.workerCount = report.workerCount
  aliveWorkers : seen.aliveWorkers = report.aliveWorkers
  inFlight : seen.inFlight = report.inFlight
  httpBaseUrl : seen.httpBaseUrl = report.httpBaseUrl
  stopReason : seen.stopReason = report.stopReason
  failureAt : FailureSeen (strip report.stopReason) report.failureAt
    seen.failureAt
  readiness : seen.readiness = report.readiness
  readinessReason : seen.readinessReason = report.readinessReason
  methodFailures : seen.methodFailures = report.methodFailures
  createStage : seen.createStage = report.createStage
  operationId : seen.operationId = report.operationId
  operationUpdatedAt : seen.operationUpdatedAt =
    report.operationUpdatedAt.map Moment.toUtc

structure PoolSeen (report : NodeTaskPoolInfo δ)
    (seen : InfoCenterNodeTaskPool δ) : Prop where
  poolId : seen.poolId = strip report.poolId
  ownerClientId : seen.ownerClientId = report.ownerClientId
  poolName : seen.poolName = report.poolName
  codeVersion : seen.codeVersion = report.codeVersion
  status : seen.status = report.status
  resourceHealth : seen.resourceHealth = report.resourceHealth
  degraded : seen.degraded = report.degraded
  workerCount : seen.workerCount = report.workerCount
  aliveWorkers : seen.aliveWorkers = report.aliveWorkers
  taskCount : seen.taskCount = report.taskCount
  inFlight : seen.inFlight = report.inflight
  inflight : seen.inflight = report.inflight
  receivedCount : seen.receivedCount = report.receivedCount
  returnedCount : seen.returnedCount = report.returnedCount
  stopReason : seen.stopReason = strip report.stopReason
  failureReason : seen.failureReason = strip report.failureReason
  failureAt : FailureSeen (strip report.stopReason) report.failureAt
    seen.failureAt
  readiness : seen.readiness = report.readiness
  readinessReason : seen.readinessReason = report.readinessReason
  methodFailures : report.methodFailures = ∅ →
    seen.methodFailures = report.methodFailures
  createStage : seen.createStage = report.createStage
  operationId : seen.operationId = report.operationId
  operationUpdatedAt : seen.operationUpdatedAt =
    report.operationUpdatedAt.map Moment.toUtc

/-! ## One report -/

theorem normalizePolicyId_ne_empty (casing : Casing) (policyId : String) :
    normalizePolicyId casing policyId ≠ "" := by
  unfold normalizePolicyId orElse
  split
  · decide
  · assumption

@[simp] theorem map_toUtc_map_toUtc (moment : Option Moment) :
    (moment.map Moment.toUtc).map Moment.toUtc = moment.map Moment.toUtc := by
  cases moment <;> rfl

theorem failureSeen_stamped (now : Moment) (reason : String)
    (reported : Option Moment) (earlier : Option (String × Option Moment)) :
    FailureSeen reason reported
      ((stampedFailure now reason (reported.map Moment.toUtc) earlier).map
        Moment.toUtc) := by
  unfold FailureSeen stampedFailure
  split
  · rfl
  · cases reported with
    | some moment | none => rfl

theorem parseService_isSome (report : ServiceReport δ) :
    (strip report.serviceId ≠ "" ∧ strip report.serviceName ≠ "") ↔
      (parseService report).isSome = true := by
  unfold parseService
  split
  · next hblank => simpa [or_iff_not_imp_left] using hblank
  · next hnamed => simpa using hnamed

theorem parseService_serviceId {report : ServiceReport δ}
    {service : NodeServiceState δ} (hparse : parseService report = some service) :
    service.serviceId = strip report.serviceId := by
  unfold parseService at hparse
  split at hparse
  · cases hparse
  · cases hparse
    rfl

theorem parseTaskPool_isSome (item : TaskPoolPayload δ) :
    strip item.poolId ≠ "" ↔ (parseTaskPool item).isSome = true := by
  unfold parseTaskPool
  split
  · next hblank => simpa using hblank
  · next hnamed => simpa using hnamed

theorem parseTaskPool_poolId {item : TaskPoolPayload δ}
    {pool : NodeTaskPoolInfo δ} (hparse : parseTaskPool item = some pool) :
    pool.poolId = strip item.poolId := by
  unfold parseTaskPool at hparse
  split at hparse
  · cases hparse
  · cases hparse
    rfl

variable {casing : Casing}

theorem serviceResourceHealthText_plain {session : ServiceSession δ}
    {inFlight : ℕ}
    (hplain : (buildServiceReportPayload casing session inFlight).PlainHealth
      casing) :
    serviceResourceHealthText true session.status session.stopReason =
      serviceResourceHealth casing session := by
  obtain ⟨hstatus, hready, hdegraded, hfailures⟩ := hplain
  change session.status ∈ _ at hstatus
  change casing.lower (strip session.readiness) ≠ "failed" at hready
  change session.degraded = false at hdegraded
  change session.methodFailures.keys = [] at hfailures
  have hrunning : session.isRunning ↔ session.status ≠ serviceStopped := by
    simp only [List.mem_cons, List.not_mem_nil, or_false, serviceStarting,
      serviceRunning, serviceDraining, serviceStopped] at hstatus
    simp only [ServiceSession.isRunning, List.mem_cons, List.not_mem_nil,
      or_false, serviceStarting, serviceRunning, serviceDraining,
      serviceStopped]
    omega
  unfold serviceResourceHealthText serviceResourceHealth
  rw [if_neg (by simp), if_neg hready]
  by_cases hstopped : session.status = serviceStopped
  · have hnot : ¬session.isRunning := by rwa [hrunning, not_not]
    rw [if_pos hstopped, if_pos hnot]
  · have hlive : ¬¬session.isRunning := by rwa [hrunning, not_not]
    rw [if_neg hstopped, if_neg hlive]
    have hwell : ¬(session.degraded = true ∨
        session.methodFailures.keys ≠ []) := by
      simp [hdegraded, hfailures]
    rw [if_neg hwell]

theorem serviceSeen_of_parse {session : ServiceSession δ} {inFlight : ℕ}
    {service : NodeServiceState δ} (now : Moment)
    (earlier : Option (String × Option Moment))
    (hparse : parseService (buildServiceReportPayload casing session inFlight) =
      some service) :
    ServiceSeen casing (buildServiceReportPayload casing session inFlight)
      (readService casing true { service with
        failureAt := stampedFailure now service.reason service.failureAt
          earlier }) := by
  generalize hreport :
    buildServiceReportPayload casing session inFlight = report at hparse
  have hpolicy : report.policyId ≠ "" := by
    rw [← hreport]
    exact normalizePolicyId_ne_empty casing session.policyId
  have hhealth : report.PlainHealth casing →
      serviceResourceHealthText true report.status report.stopReason =
        report.resourceHealth := by
    rw [← hreport]
    exact serviceResourceHealthText_plain
  unfold parseService at hparse
  split at hparse
  · cases hparse
  cases hparse
  constructor
  case policyId =>
    rw [← orElse_of_ne (normalizePolicyId_ne_empty casing report.policyId)
      "default_safe"]
    simp only [readService, orElse_of_ne hpolicy]
  case resourceHealth => exact hhealth
  case failureAt => exact failureSeen_stamped now _ _ earlier
  case operationUpdatedAt => exact map_toUtc_map_toUtc _
  all_goals rfl

theorem taskPoolResourceHealth_ne_empty (casing : Casing)
    (pool : TaskPoolState δ) : taskPoolResourceHealth casing pool ≠ "" := by
  unfold taskPoolResourceHealth
  split_ifs <;> decide

theorem poolSeen_of_parse {report : NodeTaskPoolInfo δ}
    {pool : NodeTaskPoolInfo δ} (now : Moment)
    (earlier : Option (String × Option Moment))
    (hbuilt : ∃ state inFlight, report = buildTaskPoolInfo casing state inFlight)
    (hparse : parseTaskPool (taskPoolPayload report) = some pool) :
    PoolSeen report (readTaskPool casing true { pool with
      stopReason := pool.reason
      failureReason := pool.reason
      failureAt := stampedFailure now pool.reason pool.failureAt earlier }) := by
  have hhealth : report.resourceHealth ≠ "" := by
    obtain ⟨state, inFlight, rfl⟩ := hbuilt
    exact taskPoolResourceHealth_ne_empty casing state
  have hreason : orElse report.stopReason report.failureReason =
      report.stopReason := by
    obtain ⟨state, inFlight, rfl⟩ := hbuilt
    exact orElse_self _
  have hsame : report.failureReason = report.stopReason := by
    obtain ⟨state, inFlight, rfl⟩ := hbuilt
    rfl
  unfold parseTaskPool at hparse
  split at hparse
  · cases hparse
  cases hparse
  have hstripped : strip (orElse (taskPoolPayload report).stopReason
      (taskPoolPayload report).failureReason) = strip report.stopReason :=
    congrArg strip hreason
  constructor
  case resourceHealth =>
    simp only [readTaskPool, parsedHealth, taskPoolPayload,
      orElse_of_ne hhealth]
  case stopReason =>
    simp only [readTaskPool, NodeTaskPoolInfo.reason, hstripped, orElse_self]
  case failureReason =>
    simp only [readTaskPool, NodeTaskPoolInfo.reason, hstripped, hsame]
  case failureAt =>
    simp only [readTaskPool, NodeTaskPoolInfo.reason, hstripped]
    exact failureSeen_stamped now (strip report.stopReason) report.failureAt
      earlier
  case methodFailures => exact fun hnone => hnone.symm
  case operationUpdatedAt => exact map_toUtc_map_toUtc _
  all_goals rfl

/-! ## The lists -/

theorem values_parsed {α β : Type} {f : α → Option β} {key : β → String}
    {name : α → String} {list : List α} {p : α → Prop} [DecidablePred p]
    (htaken : ∀ a, p a ↔ (f a).isSome = true)
    (hkey : ∀ a b, f a = some b → key b = name a)
    (hnodup : (list.map name).Nodup) :
    ((list.filterMap f).foldl (fun out row => out.set (key row) row)
      (∅ : OrderedDict String β)).values = list.filterMap f := by
  apply values_foldl_set_key
  rw [map_eq_of_forall₂ (forall₂_filterMap htaken list) hkey]
  exact hnodup.sublist (List.filter_sublist.map name)

theorem forall₂_kept {α β : Type} {f : α → Option β} {list : List α}
    {p : α → Prop} [DecidablePred p] (htaken : ∀ a, p a ↔ (f a).isSome = true)
    {parsed : OrderedDict String β} (hparsed : parsed.values = list.filterMap f)
    {kept : List β} {change : String × β → β}
    (hkept : kept = parsed.items.map change) :
    List.Forall₂ (fun a b => ∃ entry, f a = some entry.2 ∧ b = change entry)
      (list.filter fun a => p a) kept := by
  have hpairs := forall₂_filterMap htaken list
  rw [← hparsed, values_eq_items, List.forall₂_map_right_iff]
    at hpairs
  rw [hkept, List.forall₂_map_right_iff]
  exact hpairs.imp fun _ entry hentry => ⟨entry, hentry, rfl⟩

def stampService (now : Moment)
    (previous : OrderedDict String (NodeServiceState δ))
    (entry : String × NodeServiceState δ) : NodeServiceState δ :=
  { entry.2 with
    failureAt := stampedFailure now entry.2.reason entry.2.failureAt
      ((previous.lookup entry.1).map fun service =>
        (service.reason, service.failureAt)) }

theorem values_stampServices (now : Moment)
    (previous incoming : OrderedDict String (NodeServiceState δ)) :
    (stampServices now previous incoming).values =
      incoming.items.map (stampService now previous) :=
  values_foldl_set_items incoming (stampService now previous)

def stampTaskPool (now : Moment)
    (previous : OrderedDict String (NodeTaskPoolInfo δ))
    (entry : String × NodeTaskPoolInfo δ) : NodeTaskPoolInfo δ :=
  { entry.2 with
    stopReason := entry.2.reason
    failureReason := entry.2.reason
    failureAt := stampedFailure now entry.2.reason entry.2.failureAt
      ((previous.lookup entry.1).map fun pool =>
        (pool.reason, pool.failureAt)) }

theorem values_stampTaskPools (now : Moment)
    (previous incoming : OrderedDict String (NodeTaskPoolInfo δ)) :
    (stampTaskPools now previous incoming).values =
      incoming.items.map (stampTaskPool now previous) :=
  values_foldl_set_items incoming (stampTaskPool now previous)

def Inventory.namedServices (inventory : Inventory δ) :
    List (ServiceSession δ × ℕ) :=
  inventory.services.filter fun row =>
    strip row.1.serviceId ≠ "" ∧ strip row.1.serviceName ≠ ""

def Inventory.sentPools (casing : Casing) (inventory : Inventory δ) :
    List (NodeTaskPoolInfo δ) :=
  (limitTaskPoolReports casing (inventory.taskPoolReports casing)).filter
    fun pool => strip pool.poolId ≠ ""

theorem reportedNode_services (casing : Casing) (now : Moment)
    (previous : Option (NodeState δ)) (inventory : Inventory δ) :
    (reportedNode casing now previous inventory).services =
      ((stampServices now ((previous.map NodeState.services).getD ∅)
        (parseServices (inventory.serviceReports casing))).values.insertionSort
          serviceBefore).map (readService casing true) := rfl

theorem reportedNode_taskPools (casing : Casing) (now : Moment)
    (previous : Option (NodeState δ)) (inventory : Inventory δ) :
    (reportedNode casing now previous inventory).taskPools =
      ((stampTaskPools now ((previous.map NodeState.taskPools).getD ∅)
        (parseTaskPools ((limitTaskPoolReports casing
          (inventory.taskPoolReports casing)).map
            taskPoolPayload))).values.insertionSort poolLater).map
              (readTaskPool casing true) := rfl

theorem services_listed (casing : Casing) (now : Moment)
    (previous : Option (NodeState δ)) (inventory : Inventory δ) :
    ∃ order, order.Perm inventory.namedServices ∧
      List.Forall₂ (fun row seen => ServiceSeen casing
        (buildServiceReportPayload casing row.1 row.2) seen)
        order (reportedNode casing now previous inventory).services := by
  let parse := fun row : ServiceSession δ × ℕ =>
    parseService (buildServiceReportPayload casing row.1 row.2)
  have htaken : ∀ row : ServiceSession δ × ℕ,
      (strip row.1.serviceId ≠ "" ∧ strip row.1.serviceName ≠ "") ↔
        (parse row).isSome = true :=
    fun row => parseService_isSome
      (buildServiceReportPayload casing row.1 row.2)
  have hparsed : (parseServices (inventory.serviceReports casing)).values =
      inventory.services.filterMap parse := by
    have hmap : (inventory.serviceReports casing).filterMap parseService =
        inventory.services.filterMap parse := List.filterMap_map
    rw [parseServices, hmap]
    exact values_parsed htaken
      (fun row service hparse => parseService_serviceId hparse)
      inventory.serviceIds
  have hkept := forall₂_kept htaken hparsed (values_stampServices now
    ((previous.map NodeState.services).getD ∅) _)
  obtain ⟨order, hperm, hlisted⟩ := exists_perm_forall₂ hkept
    (List.perm_insertionSort serviceBefore _)
  rw [reportedNode_services]
  refine ⟨order, hperm, List.forall₂_map_right_iff.mpr (hlisted.imp ?_)⟩
  rintro row service ⟨entry, hparse, rfl⟩
  exact serviceSeen_of_parse now _ hparse

/-! ## The cut of the pools -/

theorem limitTaskPoolReports_subperm (casing : Casing)
    (reports : List (NodeTaskPoolInfo δ)) :
    (limitTaskPoolReports casing reports).Subperm reports := by
  let inactive := reports.filter fun pool => ¬pool.Running casing
  let running := reports.filter fun pool => pool.Running casing
  have hcut : ((inactive.insertionSort heartbeatLater).take
      maxRecentInactiveTaskPoolReports).Subperm inactive :=
    (List.take_sublist _ _).subperm.trans
      (List.perm_insertionSort heartbeatLater inactive).subperm
  have hsplit : (running ++ inactive).Perm reports := by
    have happend := List.filter_append_perm
      (fun pool : NodeTaskPoolInfo δ => decide (pool.Running casing)) reports
    simpa only [running, inactive, decide_not] using happend
  exact ((List.subperm_append_left running).mpr hcut).trans hsplit.subperm

theorem taskPoolReports_poolIds (casing : Casing) (inventory : Inventory δ) :
    ((inventory.taskPoolReports casing).map fun pool =>
      strip pool.poolId).Nodup := by
  rw [Inventory.taskPoolReports, List.map_map]
  exact inventory.poolIds.sublist (List.filter_sublist.map _)

theorem built_of_mem_limit {inventory : Inventory δ}
    {report : NodeTaskPoolInfo δ}
    (hmem : report ∈ limitTaskPoolReports casing
      (inventory.taskPoolReports casing)) :
    ∃ state inFlight, report = buildTaskPoolInfo casing state inFlight := by
  have hreport := (limitTaskPoolReports_subperm casing _).subset hmem
  rw [Inventory.taskPoolReports, List.mem_map] at hreport
  obtain ⟨row, -, rfl⟩ := hreport
  exact ⟨row.1, row.2, rfl⟩

theorem pools_listed (casing : Casing) (now : Moment)
    (previous : Option (NodeState δ)) (inventory : Inventory δ) :
    ∃ order, order.Perm (inventory.sentPools casing) ∧
      List.Forall₂ PoolSeen order
        (reportedNode casing now previous inventory).taskPools := by
  let limited := limitTaskPoolReports casing (inventory.taskPoolReports casing)
  let parse := fun pool : NodeTaskPoolInfo δ =>
    parseTaskPool (taskPoolPayload pool)
  have htaken : ∀ pool : NodeTaskPoolInfo δ,
      strip pool.poolId ≠ "" ↔ (parse pool).isSome = true :=
    fun pool => parseTaskPool_isSome (taskPoolPayload pool)
  have hids : (limited.map fun pool => strip pool.poolId).Nodup := by
    obtain ⟨kept, hperm, hsub⟩ := limitTaskPoolReports_subperm casing
      (inventory.taskPoolReports casing)
    exact ((hperm.map _).nodup_iff).mp
      ((taskPoolReports_poolIds casing inventory).sublist (hsub.map _))
  have hparsed : (parseTaskPools (limited.map taskPoolPayload)).values =
      limited.filterMap parse := by
    have hmap : (limited.map taskPoolPayload).filterMap parseTaskPool =
        limited.filterMap parse := List.filterMap_map
    rw [parseTaskPools, hmap]
    exact values_parsed htaken
      (fun pool parsed hparse => parseTaskPool_poolId hparse) hids
  have hbuilt : ∀ pool ∈ inventory.sentPools casing,
      ∃ state inFlight, pool = buildTaskPoolInfo casing state inFlight :=
    fun pool hpool => built_of_mem_limit (List.mem_of_mem_filter hpool)
  have hkept := forall₂_kept htaken hparsed (values_stampTaskPools now
    ((previous.map NodeState.taskPools).getD ∅) _)
  obtain ⟨order, hperm, hlisted⟩ := exists_perm_forall₂
    ((List.forall₂_and_left _ _).mpr ⟨hbuilt, hkept⟩)
    (List.perm_insertionSort poolLater _)
  rw [reportedNode_taskPools]
  refine ⟨order, hperm, List.forall₂_map_right_iff.mpr (hlisted.imp ?_)⟩
  rintro report pool ⟨hreport, entry, hparse, rfl⟩
  exact poolSeen_of_parse now _ hreport hparse

theorem mem_sentPools_of_running {inventory : Inventory δ}
    {row : TaskPoolState δ × ℕ} (hrow : row ∈ inventory.taskPools)
    (hid : strip row.1.poolId ≠ "") (hrunning : row.1.isRunning casing)
    (hsound : row.1.degraded = false) :
    buildTaskPoolInfo casing row.1 row.2 ∈ inventory.sentPools casing := by
  have hreport : buildTaskPoolInfo casing row.1 row.2 ∈
      inventory.taskPoolReports casing := by
    rw [Inventory.taskPoolReports]
    apply List.mem_map_of_mem
    rw [List.mem_filter]
    exact ⟨hrow, by simp [hrunning]⟩
  have hkept : (buildTaskPoolInfo casing row.1 row.2).Running casing := by
    have hstatus : (buildTaskPoolInfo casing row.1 row.2).status =
        row.1.status := by
      simp [buildTaskPoolInfo, hsound]
    rw [NodeTaskPoolInfo.Running, hstatus]
    exact hrunning
  rw [Inventory.sentPools, List.mem_filter]
  constructor
  · rw [limitTaskPoolReports, List.mem_append, List.mem_filter]
    exact .inl ⟨hreport, by simpa using hkept⟩
  · exact decide_eq_true hid

/-- What clients read of a node behind an accepted report of its inventory, to
the plain health of a service and the method failures of a pool. -/
theorem reports_are_listed (casing : Casing) (now : Moment)
    (previous : Option (NodeState δ)) (inventory : Inventory δ) :
    (∃ order, order.Perm inventory.namedServices ∧
      List.Forall₂ (fun row seen => ServiceSeen casing
        (buildServiceReportPayload casing row.1 row.2) seen)
        order (reportedNode casing now previous inventory).services) ∧
    (∃ order, order.Perm (inventory.sentPools casing) ∧
      List.Forall₂ PoolSeen order
        (reportedNode casing now previous inventory).taskPools) ∧
    ∀ row ∈ inventory.taskPools, strip row.1.poolId ≠ "" →
      row.1.isRunning casing → row.1.degraded = false →
      buildTaskPoolInfo casing row.1 row.2 ∈ inventory.sentPools casing :=
  ⟨services_listed casing now previous inventory,
    pools_listed casing now previous inventory,
    fun _ hrow hid hrunning hsound =>
      mem_sentPools_of_running hrow hid hrunning hsound⟩

def asciiCasing : Casing where
  lower := fun text => String.ofList (text.toList.map Char.toLower)
  upper := fun text => String.ofList (text.toList.map Char.toUpper)

def startOfTime : Moment := ⟨0, 0⟩

def failures : OrderedDict String String :=
  OrderedDict.set ∅ "predict" "failed"

def degradedSession : ServiceSession String where
  serviceId := "service-1"
  ownerClientId := "owner"
  serviceName := "model"
  policyId := "default_safe"
  codeVersion := "v1"
  entryModule := "main"
  entryCallable := "run"
  serializationMode := "auto"
  status := serviceRunning
  degraded := true
  workerCount := 2
  aliveWorkers := 1
  httpBaseUrl := ""
  stopReason := ""
  failureAt := none
  readiness := "ready"
  readinessReason := ""
  methodFailures := failures
  createStage := ""
  operationId := ""
  operationUpdatedAt := none

def failingPool : TaskPoolState String where
  poolId := "pool-1"
  ownerClientId := "owner"
  poolName := "pool"
  codeVersion := "v1"
  status := "RUNNING"
  degraded := false
  workerCount := 2
  aliveWorkers := 2
  taskCount := 0
  returnedCount := 0
  timed := false
  createdAt := startOfTime
  lastHeartbeatAt := startOfTime
  stopReason := ""
  failureAt := none
  methodFailures := failures
  readiness := "ready"
  readinessReason := ""
  createStage := ""
  operationId := ""
  operationUpdatedAt := none

def ailingInventory : Inventory String where
  services := [(degradedSession, 0)]
  taskPools := [(failingPool, 0)]
  serviceIds := List.nodup_singleton _
  poolIds := List.nodup_singleton _

def ailingNode : InfoCenterNode String :=
  reportedNode asciiCasing startOfTime none ailingInventory

/-- The degraded service is listed as running, and the failures of the pool are
not listed. -/
theorem ailing_node_listed_well :
    (ailingInventory.serviceReports asciiCasing).map
        (fun report => (report.statusText, report.resourceHealth)) =
      [("DEGRADED", "degraded")] ∧
    ailingNode.services.map
        (fun seen => (seen.statusText, seen.resourceHealth)) =
      [("RUNNING", "running")] ∧
    (ailingInventory.taskPoolReports asciiCasing).map
        (fun report => report.methodFailures.keys) = [["predict"]] ∧
    ailingNode.taskPools.map (fun seen => seen.methodFailures.keys) = [[]] := by
  decide +kernel

end PycloudParallel.NodeReports
