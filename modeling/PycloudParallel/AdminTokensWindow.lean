import PycloudParallel.AdminTokensRotation

/-!
# No node is locked out

As long as the runs that store their token also write it to the window, every node
that a recent run reached holds a token of the window.
-/

namespace PycloudParallel.AdminTokens

open Texts

/-- The window has what the nodes have: the token is stored nowhere, or it is the
current token already. -/
def Running.leavesWindow (run : Running) : Bool :=
  run.stored.isEmpty || decide (run.adminToken = run.loaded.1)

def rotationOk (s : Rotation) (label : RotationLabel) : Bool :=
  match label, s.running with
  | .start .., _ => true
  | _, none => true
  | .request delivery, some run =>
    match run.nodes with
    | [] => true
    | node :: _ =>
      decide (delivery = .neverArrives) ||
        (run.accepted s.nodeFiles node).isNone || isPlain run.adminToken
  | .finish, some run =>
    if run.writes then isPlain run.adminToken else run.leavesWindow
  | .kill, some run => run.leavesWindow

structure Running.Sound (run : Running) (s : Rotation) : Prop where
  loaded : run.loaded = loadLocalAdminTokenWindow s.tokenFile
  stripped : strip run.adminToken = run.adminToken
  nonblank : run.adminToken ≠ ""
  stored : ∀ node ∈ run.stored,
    configuredAdminToken (s.nodeFiles node) = run.adminToken

/-- The invariant of the rotation.  The token of the run `index` places back is
among the first `index + 1` of the window, and a node that this run reached holds
its token or that of a later run. -/
structure Rotation.Kept (s : Rotation) : Prop where
  plain : ∀ token ∈ s.windowTokens, isPlain token = true
  recent : ∀ (index : ℕ) (run : StoringRun), s.history[index]? = some run → index < 3 →
    run.adminToken ∈ s.windowTokens.take (index + 1)
  held : ∀ (index : ℕ) (run : StoringRun), s.history[index]? = some run →
    ∀ node ∈ run.nodes, (∀ now, s.running = some now → node ∉ now.stored) →
      ∃ place ≤ index, ∃ later : StoringRun, s.history[place]? = some later ∧
        configuredAdminToken (s.nodeFiles node) = later.adminToken
  running : ∀ run, s.running = some run → run.Sound s

theorem kept_start {tokenFile : TokenFile}
    (hplain : ∀ token ∈ oldAdminTokens (loadLocalAdminTokenWindow tokenFile),
      isPlain token = true) : (Rotation.start tokenFile).Kept where
  plain := hplain
  recent := by simp [Rotation.start]
  held := by simp [Rotation.start]
  running := by simp [Rotation.start]

variable {run : Running} {s : Rotation} {node : NodeId}

theorem Rotation.Kept.goOn {next : Running} (hkept : s.Kept)
    (hrun : s.running = some run) (htoken : next.adminToken = run.adminToken)
    (hloaded : next.loaded = run.loaded) (hstored : next.stored = run.stored) :
    Rotation.Kept { s with running := some next } := by
  have hsound := hkept.running run hrun
  refine ⟨hkept.plain, hkept.recent, ?_, ?_⟩
  · intro index old hold node hnode hfree
    refine hkept.held index old hold node hnode ?_
    intro now hnow
    rw [hrun, Option.some_inj] at hnow
    rw [← hnow, ← hstored]
    exact hfree next rfl
  · rintro now ⟨⟩
    exact ⟨hloaded.trans hsound.loaded, by rw [htoken]; exact hsound.stripped,
      by rw [htoken]; exact hsound.nonblank,
      by rw [hstored, htoken]; exact hsound.stored⟩

theorem Rotation.Kept.store {next : Running} (hkept : s.Kept)
    (hrun : s.running = some run) (hplain : isPlain run.adminToken = true)
    (htoken : next.adminToken = run.adminToken)
    (hloaded : next.loaded = run.loaded)
    (hstored : next.stored = run.stored ++ [node]) :
    Rotation.Kept { s with
      nodeFiles := Function.update s.nodeFiles node
        (writeAdminToken run.adminToken)
      running := some next } := by
  have hsound := hkept.running run hrun
  refine ⟨hkept.plain, hkept.recent, ?_, ?_⟩
  · intro index old hold other hother hfree
    have hnot := hfree next rfl
    rw [hstored, List.mem_append, List.mem_singleton, not_or] at hnot
    obtain ⟨place, hplace, later, hlater, htokenOf⟩ :=
      hkept.held index old hold other hother (by
        intro now hnow
        rw [hrun, Option.some_inj] at hnow
        rw [← hnow]
        exact hnot.1)
    refine ⟨place, hplace, later, hlater, ?_⟩
    simp only
    rw [Function.update_of_ne hnot.2]
    exact htokenOf
  · rintro now ⟨⟩
    refine ⟨hloaded.trans hsound.loaded, by rw [htoken]; exact hsound.stripped,
      by rw [htoken]; exact hsound.nonblank, ?_⟩
    intro other hother
    rw [hstored, List.mem_append, List.mem_singleton] at hother
    simp only
    rw [htoken]
    by_cases hsame : other = node
    · rw [hsame, Function.update_self]
      exact configuredAdminToken_write hsound.stripped hplain
    · rw [Function.update_of_ne hsame]
      exact hsound.stored other (hother.resolve_right hsame)

theorem accepted_eq_some {nodeFiles : NodeId → NodeFile} {file : NodeFile}
    (hstripped : strip run.adminToken = run.adminToken)
    (haccepted : run.accepted nodeFiles node = some file) :
    file = writeAdminToken run.adminToken := by
  simp only [Running.accepted, setAdminToken, hstripped] at haccepted
  split at haccepted
  · cases haccepted
  · split at haccepted
    · exact (Option.some_inj.mp haccepted).symm
    · split at haccepted
      · exact (Option.some_inj.mp haccepted).symm
      · cases haccepted

theorem Rotation.Kept.contact {rest : List NodeId} {delivery : Delivery}
    (hkept : s.Kept) (hrun : s.running = some run)
    (hok : delivery = .neverArrives ∨ run.accepted s.nodeFiles node = none ∨
      isPlain run.adminToken = true) :
    (s.contact run node rest delivery).Kept := by
  have hfail : Rotation.Kept { s with running := some (run.fail rest) } :=
    hkept.goOn hrun rfl rfl rfl
  cases haccepted : run.accepted s.nodeFiles node with
  | none => cases delivery <;> simpa [Rotation.contact, haccepted] using hfail
  | some file =>
    have hfile := accepted_eq_some (hkept.running run hrun).stripped haccepted
    have hplain : delivery ≠ .neverArrives → isPlain run.adminToken = true := by
      intro hne
      simpa [hne, haccepted] using hok
    cases delivery with
    | neverArrives => simpa [Rotation.contact] using hfail
    | answered | answerLost =>
      simp only [Rotation.contact, haccepted, hfile]
      exact hkept.store hrun (hplain (by decide)) rfl rfl rfl

theorem Rotation.Kept.record {tokenFile : TokenFile} (hkept : s.Kept)
    (hrun : s.running = some run)
    (hplain : ∀ token ∈ oldAdminTokens (loadLocalAdminTokenWindow tokenFile),
      isPlain token = true)
    (hfirst : run.adminToken ∈
      (oldAdminTokens (loadLocalAdminTokenWindow tokenFile)).take 1)
    (holder : ∀ count ≤ 2, ∀ token ∈ s.windowTokens.take count,
      token ∈ (oldAdminTokens (loadLocalAdminTokenWindow tokenFile)).take (count + 1))
    :
    Rotation.Kept { s with
      tokenFile := tokenFile
      running := none
      history := ⟨run.adminToken, run.stored⟩ :: s.history } := by
  refine ⟨hplain, ?_, ?_, by simp⟩
  · intro index old hold hindex
    cases index with
    | zero =>
      rw [List.getElem?_cons_zero, Option.some_inj] at hold
      rw [← hold]
      exact hfirst
    | succ index =>
      rw [List.getElem?_cons_succ] at hold
      exact holder (index + 1) (by omega) old.adminToken
        (hkept.recent index old hold (by omega))
  · intro index old hold node hnode _
    by_cases hstored : node ∈ run.stored
    · exact ⟨0, Nat.zero_le index, _, rfl,
        (hkept.running run hrun).stored node hstored⟩
    · cases index with
      | zero =>
        rw [List.getElem?_cons_zero, Option.some_inj] at hold
        rw [← hold] at hnode
        exact absurd hnode hstored
      | succ index =>
        rw [List.getElem?_cons_succ] at hold
        obtain ⟨place, hplace, later, hlater, htoken⟩ :=
          hkept.held index old hold node hnode (by
            intro now hnow
            rw [hrun, Option.some_inj] at hnow
            rw [← hnow]
            exact hstored)
        exact ⟨place + 1, Nat.succ_le_succ hplace, later, hlater, htoken⟩

theorem Rotation.Kept.leave (hkept : s.Kept) (hrun : s.running = some run)
    (hleaves : run.leavesWindow = true) :
    (s.leave run s.tokenFile false).Kept := by
  have hsound := hkept.running run hrun
  rw [Rotation.leave, Bool.false_or]
  by_cases hstored : run.stored = []
  · rw [if_neg (by simp [hstored])]
    refine ⟨hkept.plain, hkept.recent, ?_, by simp⟩
    intro index old hold node hnode _
    refine hkept.held index old hold node hnode ?_
    intro now hnow
    rw [hrun, Option.some_inj] at hnow
    rw [← hnow, hstored]
    exact List.not_mem_nil
  · rw [if_pos (by simpa using hstored)]
    refine hkept.record hrun hkept.plain ?_ ?_
    · have hcurrent : run.adminToken = run.loaded.1 := by
        simpa [Running.leavesWindow, hstored] using hleaves
      rw [← hsound.loaded, oldAdminTokens, ← hcurrent, List.filter_cons,
        if_pos (decide_eq_true hsound.nonblank), List.take_take]
      exact List.mem_cons_self
    · intro count _ token hmem
      exact List.take_subset_take_left _ (Nat.le_succ count) hmem

theorem Rotation.Kept.write (hkept : s.Kept) (hrun : s.running = some run)
    (hplain : isPlain run.adminToken = true) :
    (s.leave run (writeLocalAdminTokenWindow run.adminToken
      (localTokens run.loaded)) true).Kept := by
  have hsound := hkept.running run hrun
  have hlocal : localTokens run.loaded = s.windowTokens := by
    rw [hsound.loaded]
    exact localTokens_eq s.tokenFile
  have hwindow := oldAdminTokens_write hsound.stripped hsound.nonblank s.windowTokens
  rw [Rotation.leave, Bool.true_or, if_pos rfl, hlocal]
  refine hkept.record hrun ?_ ?_ ?_
  · intro token hmem
    rw [hwindow] at hmem
    obtain rfl | hrest := List.mem_cons.mp hmem
    · exact hplain
    · obtain ⟨⟨item, hitem, hstrip⟩, -, -⟩ :=
        (keepPrevious_loaded _ _ _).2 token hrest
      rw [← hstrip, (oldAdminTokens_loaded s.tokenFile).stripped item hitem]
      exact hkept.plain item hitem
  · rw [hwindow]
    exact List.mem_cons_self
  · intro count hcount token hmem
    rw [hwindow, List.take_succ_cons]
    by_cases hsame : token = run.adminToken
    · rw [hsame]
      exact List.mem_cons_self
    · exact List.mem_cons_of_mem _
        (mem_take_keepPrevious (oldAdminTokens_loaded s.tokenFile) hcount hmem
          (by simpa using hsame))

/-! ## Runs -/

theorem rotationStep_keeps {t : Rotation} {label : RotationLabel}
    (hkept : s.Kept) (hok : rotationOk s label = true)
    (hstep : rotationStep s label = some t) : t.Kept := by
  cases hrun : s.running with
  | none =>
    cases label with
    | start adminToken generateOnly continueOnError nodes =>
      simp only [rotationStep, hrun] at hstep
      split at hstep
      · cases hstep
      case isFalse hne =>
        cases hstep
        refine ⟨hkept.plain, hkept.recent, ?_, ?_⟩
        · intro index old hold node hnode _
          exact hkept.held index old hold node hnode (by simp [hrun])
        · rintro now ⟨⟩
          exact ⟨rfl, strip_strip adminToken, hne, by simp⟩
    | request delivery | finish | kill => simp [rotationStep, hrun] at hstep
  | some run =>
    cases label with
    | start adminToken generateOnly continueOnError nodes =>
      simp [rotationStep, hrun] at hstep
    | request delivery =>
      simp only [rotationStep, hrun] at hstep
      simp only [rotationOk, hrun] at hok
      cases hnodes : run.nodes with
      | nil => simp [hnodes] at hstep
      | cons node rest =>
        simp only [hnodes, Option.some_inj] at hstep
        obtain rfl := hstep
        refine hkept.contact hrun ?_
        simpa [hnodes, or_assoc] using hok
    | finish =>
      simp only [rotationStep, hrun] at hstep
      simp only [rotationOk, hrun] at hok
      split at hstep
      · cases hstep
      · split at hstep
        case isTrue hwrites =>
          cases hstep
          rw [if_pos hwrites] at hok
          exact hkept.write hrun hok
        case isFalse hwrites =>
          cases hstep
          rw [if_neg hwrites] at hok
          exact hkept.leave hrun hok
    | kill =>
      simp only [rotationStep, hrun, Option.some_inj] at hstep
      obtain rfl := hstep
      exact hkept.leave hrun (by simpa [rotationOk, hrun] using hok)

theorem anyMatches_of_mem {current : Token} {tokens : List Token}
    (hascii : ∀ token ∈ tokens, isAscii token = true) (hmem : current ∈ tokens) :
    anyMatches current tokens = some true := by
  have hcurrent := hascii current hmem
  induction tokens with
  | nil => cases hmem
  | cons token tokens ih =>
    have htoken := hascii token List.mem_cons_self
    by_cases hsame : token = current
    · simp [anyMatches, compareDigest, hsame, hcurrent]
    · have hrest : current ∈ tokens :=
        (List.mem_cons.mp hmem).resolve_left (Ne.symm hsame)
      simpa [anyMatches, compareDigest, hsame, hcurrent, htoken] using
        ih (fun other hother => hascii other (List.mem_cons_of_mem _ hother)) hrest

theorem setAdminToken_isSome {file : NodeFile} {next : Token} {tokens : List Token}
    (hloaded : LoadedTokens tokens)
    (hascii : ∀ token ∈ tokens, isAscii token = true)
    (hmem : configuredAdminToken file ∈ tokens) (hnext : strip next ≠ "") :
    (setAdminToken file next tokens).isSome = true := by
  have hmap : tokens.map strip = tokens :=
    (List.map_congr_left hloaded.stripped).trans (List.map_id _)
  have hfilter : tokens.filter (· ≠ "") = tokens := by
    rw [List.filter_eq_self]
    intro token htoken
    exact decide_eq_true (hloaded.nonblank token htoken)
  simp only [setAdminToken]
  rw [if_neg hnext, hmap, hfilter, if_neg (hloaded.nonblank _ hmem),
    if_pos (anyMatches_of_mem hascii hmem)]
  rfl

theorem Rotation.Kept.noNodeLockedOut (hkept : s.Kept)
    (hquiet : s.running = none) : s.NoNodeLockedOut := by
  intro run hmem node hnode
  obtain ⟨index, hindex⟩ := List.mem_iff_getElem?.mp hmem
  rw [List.getElem?_take] at hindex
  split at hindex
  case isFalse => cases hindex
  case isTrue hthree =>
    obtain ⟨place, hplace, later, hlater, htoken⟩ :=
      hkept.held index run hindex node hnode (by simp [hquiet])
    have hwindow : configuredAdminToken (s.nodeFiles node) ∈ s.windowTokens := by
      rw [htoken]
      exact List.mem_of_mem_take (hkept.recent place later hlater (by omega))
    refine ⟨hwindow, fun next hnext => ?_⟩
    refine setAdminToken_isSome (oldAdminTokens_loaded s.tokenFile) ?_ hwindow hnext
    intro token htoken'
    exact ((Bool.and_eq_true _ _).mp (hkept.plain token htoken')).1

/-- No node is locked out after runs that store plain tokens only, and that put a
token that they have stored into the window unless it is its current one. -/
theorem noNodeLockedOut_of_guardedRun {tokenFile : TokenFile} {s : Rotation}
    (hplain : ∀ token ∈ oldAdminTokens (loadLocalAdminTokenWindow tokenFile),
      isPlain token = true)
    (hrun : GuardedRun rotationStep (fun s label => rotationOk s label = true)
      (Rotation.start tokenFile) s)
    (hquiet : s.running = none) : s.NoNodeLockedOut := by
  have hkept : s.Kept := hrun.invariant Rotation.Kept (kept_start hplain)
    fun _ _ _ hgood hok hstep => rotationStep_keeps hgood hok hstep
  exact hkept.noNodeLockedOut hquiet

/-- Two runs with a generated token between them; the second node stores the first
token, but its answer is lost. -/
def lostAnswerRun : List RotationLabel :=
  [.start "first" false false ["a", "b"], .request .answered, .request .answerLost,
    .finish, .start "second" true false [], .finish,
    .start "third" false false ["a"], .request .answered, .finish]

theorem noNodeLockedOut_of_guardedRun_lostAnswer :
    ∃ s, Reachable rotationStep (Rotation.start .missing) s ∧
      (s.running.isNone, configuredAdminToken (s.nodeFiles "a"),
        configuredAdminToken (s.nodeFiles "b"), s.windowTokens) =
          (true, "third", "first", ["third", "second", "first"]) ∧
      s.NoNodeLockedOut := by
  have hview : (checkedRun rotationStep (fun s label => rotationOk s label = true)
      (Rotation.start .missing) lostAnswerRun).map
        (fun s => (s.running.isNone, configuredAdminToken (s.nodeFiles "a"),
          configuredAdminToken (s.nodeFiles "b"), s.windowTokens)) =
      some (true, "third", "first", ["third", "second", "first"]) := by decide
  obtain ⟨s, hlast, hs⟩ := Option.map_eq_some_iff.mp hview
  have hrun := guardedRun_of_checkedRun _ hlast
  have hquiet : s.running = none := Option.isNone_iff_eq_none.mp (Prod.mk.inj hs).1
  exact ⟨s, hrun.reachable, hs,
    noNodeLockedOut_of_guardedRun (by decide) hrun hquiet⟩

def singleNodeRun (adminToken : Token) (delivery : Delivery) : List RotationLabel :=
  [.start adminToken false false ["a"], .request delivery, .finish]

theorem singleNodeRun_locksOut {adminToken : Token} {delivery : Delivery}
    {window : List Token}
    (hview : (runLabels rotationStep (Rotation.start .missing)
        (singleNodeRun adminToken delivery)).map
      (fun s => (s.running.isNone, s.windowTokens, s.history,
        (setAdminToken (s.nodeFiles "a") "next" s.windowTokens).isSome)) =
      some (true, window, [⟨adminToken, ["a"]⟩], false)) :
    ∃ s, Reachable rotationStep (Rotation.start .missing) s ∧ s.running = none ∧
      s.windowTokens = window ∧ ¬ s.NoNodeLockedOut := by
  obtain ⟨s, hlast, hs⟩ := Option.map_eq_some_iff.mp hview
  simp only [Prod.mk.injEq] at hs
  obtain ⟨hquiet, hwindow, hhistory, hrefused⟩ := hs
  refine ⟨s, reachable_of_runLabels _ hlast, Option.isNone_iff_eq_none.mp hquiet,
    hwindow, fun hnone => ?_⟩
  have htaken := (hnone ⟨adminToken, ["a"]⟩ (by simp [hhistory]) "a"
    List.mem_cons_self).2 "next" (by decide)
  rw [hrefused] at htaken
  cases htaken

/-- The answer of the only node is lost: the run counts no success and drops the
token that the node has stored.  A token that is not ASCII is kept, but a node that
holds a token cannot compare it. -/
theorem storedToken_locksOut :
    (∃ s, Reachable rotationStep (Rotation.start .missing) s ∧ s.running = none ∧
      s.windowTokens = [] ∧ ¬ s.NoNodeLockedOut) ∧
    ∃ s, Reachable rotationStep (Rotation.start .missing) s ∧ s.running = none ∧
      s.windowTokens = ["jetón"] ∧ ¬ s.NoNodeLockedOut := by
  constructor
  · have hview : (runLabels rotationStep (Rotation.start .missing)
        (singleNodeRun "token" .answerLost)).map
      (fun s => (s.running.isNone, s.windowTokens, s.history,
        (setAdminToken (s.nodeFiles "a") "next" s.windowTokens).isSome)) =
      some (true, [], [⟨"token", ["a"]⟩], false) := by decide
    exact singleNodeRun_locksOut hview
  · have hview : (runLabels rotationStep (Rotation.start .missing)
        (singleNodeRun "jetón" .answered)).map
      (fun s => (s.running.isNone, s.windowTokens, s.history,
        (setAdminToken (s.nodeFiles "a") "next" s.windowTokens).isSome)) =
      some (true, ["jetón"], [⟨"jetón", ["a"]⟩], false) := by decide
    exact singleNodeRun_locksOut hview

end PycloudParallel.AdminTokens
