import Mathlib.Tactic.NormNum
import PycloudParallel.FoundationGuardedRun
import PycloudParallel.FoundationTracking

/-!
# The adaptive in-flight controller

The window follows a target that comes from the average result interval.  A
batch with a constant interval moves the average to one side only, so the
target moves to one side only, within the bounds, and comes to rest; the window
reaches it then.  Times and intervals are exact rationals.
-/

namespace PycloudParallel.TaskPool

/-- `_AdaptiveInflightController`, without what only its log reads. -/
structure AdaptiveInflightController where
  minWindow : ℤ
  maxWindow : ℤ
  window : ℤ
  targetBacklogSec : ℚ
  emaAlpha : ℚ
  emaResultIntervalSec : Option ℚ
  lastResultAt : Option ℚ
deriving DecidableEq

def numberOr {α : Type*} [Zero α] [DecidableEq α] (value fallback : α) : α :=
  if value = 0 then fallback else value

/-- The shortest interval that counts. -/
def leastInterval : ℚ := 1 / 1000

/-- `interval` in `observe_result_batch`. -/
def resultInterval (count : ℤ) (last now : ℚ) : ℚ :=
  max leastInterval (max leastInterval (now - last) / count)

namespace AdaptiveInflightController

def create (activeWorkers initialWindow : ℤ) (targetBacklogSec emaAlpha : ℚ)
    (maxWindow : Option ℤ) : AdaptiveInflightController :=
  let workers := max 1 (numberOr activeWorkers 1)
  let start := max workers (numberOr initialWindow workers)
  let upper := maxWindow.getD (max start (workers * 8))
  { minWindow := workers
    maxWindow := max start upper
    window := min (max start upper) start
    targetBacklogSec := max 1 (numberOr targetBacklogSec 60)
    emaAlpha := min 1 (max (1 / 100) (numberOr emaAlpha (1 / 5)))
    emaResultIntervalSec := none
    lastResultAt := none }

variable (controller : AdaptiveInflightController)

def windowFor (interval : ℚ) : ℤ :=
  let raw := roundHalfEven
    (controller.targetBacklogSec / max leastInterval interval)
  min controller.maxWindow (max controller.minWindow raw)

def targetWindow : ℤ :=
  match controller.emaResultIntervalSec with
  | none => controller.window
  | some interval => controller.windowFor interval

/-- `ema_result_interval_sec` behind an interval. -/
def averaged (interval : ℚ) : ℚ :=
  match controller.emaResultIntervalSec with
  | none => interval
  | some average =>
    controller.emaAlpha * interval + (1 - controller.emaAlpha) * average

/-- `_move_toward`, and whether the window has changed. -/
def moveToward (target : ℤ) : AdaptiveInflightController × Bool :=
  let old := controller.window
  if target = old then (controller, false)
  else
    let smoothed := roundHalfEven (7 / 10 * old + 3 / 10 * target)
    let moved :=
      if old < target then min target (max (old + 1) smoothed)
      else max target (min (old - 1) smoothed)
    let window := min controller.maxWindow (max controller.minWindow moved)
    ({ controller with window := window }, window ≠ old)

def observeResultBatch (count : ℤ) (now : ℚ) :
    AdaptiveInflightController × Bool :=
  let normalizedCount := max 0 count
  if normalizedCount ≤ 0 then (controller, false)
  else
    match controller.lastResultAt with
    | none => ({ controller with lastResultAt := some now }, false)
    | some last =>
      let average :=
        controller.averaged (resultInterval normalizedCount last now)
      let observed := { controller with
        emaResultIntervalSec := some average
        lastResultAt := some now }
      observed.moveToward observed.targetWindow

def onTimeout : AdaptiveInflightController × Bool :=
  let window := max controller.minWindow ⌈(controller.window : ℚ) * (1 / 2)⌉
  ({ controller with window := window }, window ≠ controller.window)

/-- The calls. `imap_unordered` also sets `last_result_at`, once it has
submitted its first tasks. -/
inductive Label
  | observe (count : ℤ) (now : ℚ)
  | timeout
  | submitted (now : ℚ)

def step : Label → Option AdaptiveInflightController
  | .observe count now => some (controller.observeResultBatch count now).1
  | .timeout => some controller.onTimeout.1
  | .submitted now => some { controller with lastResultAt := some now }

/-- The controller behind so many batches, each with its count and time. -/
def afterBatches (batches : ℕ → ℤ × ℚ) : ℕ → AdaptiveInflightController
  | 0 => controller
  | n + 1 =>
    ((afterBatches batches n).observeResultBatch (batches n).1 (batches n).2).1

/-- Every batch has results, and each one that is measured comes to the
interval. -/
def ConstantInterval (batches : ℕ → ℤ × ℚ) (interval : ℚ) : Prop :=
  ∀ n, 0 < (batches n).1 ∧
    ∀ last ∈ (controller.afterBatches batches n).lastResultAt,
      resultInterval (batches n).1 last (batches n).2 = interval

/-! ## The bounds -/

structure Sound : Prop where
  positive : 1 ≤ controller.minWindow
  least : controller.minWindow ≤ controller.window
  most : controller.window ≤ controller.maxWindow
  backlog : 0 < controller.targetBacklogSec
  alpha : 0 ≤ controller.emaAlpha ∧ controller.emaAlpha ≤ 1
  measured : controller.lastResultAt = none →
    controller.emaResultIntervalSec = none

theorem sound_create (activeWorkers initialWindow : ℤ)
    (targetBacklogSec emaAlpha : ℚ) (maxWindow : Option ℤ) :
    (create activeWorkers initialWindow targetBacklogSec emaAlpha
      maxWindow).Sound where
  positive := le_max_left _ _
  least := by
    dsimp only [create]
    omega
  most := min_le_left _ _
  backlog := lt_of_lt_of_le one_pos (le_max_left _ _)
  alpha := by
    refine ⟨le_min zero_le_one (le_trans ?_ (le_max_left _ _)), min_le_left _ _⟩
    norm_num
  measured _ := rfl

variable {controller} {count : ℤ} {now interval other : ℚ}

theorem observe_of_nonpos (hcount : count ≤ 0) :
    controller.observeResultBatch count now = (controller, false) :=
  if_pos (max_le (le_refl 0) hcount)

section

variable (hsound : controller.Sound)

include hsound

theorem Sound.windowFor_mem (interval : ℚ) :
    controller.minWindow ≤ controller.windowFor interval ∧
      controller.windowFor interval ≤ controller.maxWindow :=
  ⟨le_min (hsound.least.trans hsound.most) (le_max_left _ _), min_le_left _ _⟩

theorem Sound.windowFor_anti (hle : interval ≤ other) :
    controller.windowFor other ≤ controller.windowFor interval := by
  have hleast : 0 < leastInterval := by
    norm_num [leastInterval]
  have hround := roundHalfEven_mono (div_le_div_of_nonneg_left
    hsound.backlog.le (lt_max_of_lt_left hleast)
      (max_le_max_left leastInterval hle))
  exact min_le_min_left _ (max_le_max_left _ hround)

theorem Sound.moveToward {target : ℤ} (hleast : controller.minWindow ≤ target)
    (hmost : target ≤ controller.maxWindow) :
    ∃ window, (controller.moveToward target).1 =
        { controller with window := window } ∧
      MovesToward controller.window target window := by
  unfold AdaptiveInflightController.moveToward
  dsimp only
  split
  · next heq => exact ⟨controller.window, rfl, heq ▸ .refl target⟩
  · refine ⟨_, rfl, ?_⟩
    have hle := hsound.least
    generalize roundHalfEven _ = smoothed
    split <;> constructor <;> omega

/-- The first batch only sets the clock; the others are measured. -/
theorem Sound.observe (now : ℚ) (hcount : 0 < count) :
    (controller.lastResultAt = none ∧
      (controller.observeResultBatch count now).1 =
        { controller with lastResultAt := some now }) ∨
    ∃ last window, controller.lastResultAt = some last ∧
      (controller.observeResultBatch count now).1 =
        { controller with
          window := window
          emaResultIntervalSec :=
            some (controller.averaged (resultInterval count last now))
          lastResultAt := some now } ∧
      MovesToward controller.window (controller.windowFor
        (controller.averaged (resultInterval count last now))) window := by
  simp only [observeResultBatch, max_eq_right hcount.le,
    if_neg (not_le.mpr hcount)]
  cases hlast : controller.lastResultAt with
  | none => exact .inl ⟨rfl, rfl⟩
  | some last =>
    have hmem := hsound.windowFor_mem
      (controller.averaged (resultInterval count last now))
    have hobserved : ({ controller with
        emaResultIntervalSec :=
          some (controller.averaged (resultInterval count last now))
        lastResultAt := some now } : AdaptiveInflightController).Sound :=
      { hsound with measured := nofun }
    obtain ⟨window, hnext, hmove⟩ := hobserved.moveToward hmem.1 hmem.2
    exact .inr ⟨last, window, rfl, hnext, hmove⟩

theorem Sound.observed (count : ℤ) (now : ℚ) :
    (controller.observeResultBatch count now).1.Sound := by
  rcases le_or_gt count 0 with hcount | hcount
  · rw [observe_of_nonpos hcount]
    exact hsound
  obtain ⟨-, hnext⟩ | ⟨last, window, -, hnext, hmove⟩ :=
    hsound.observe now hcount
  · rw [hnext]
    exact { hsound with measured := nofun }
  · have hmem := hsound.windowFor_mem
      (controller.averaged (resultInterval count last now))
    have hwithin := hmove.within
    have hle := hsound.least
    have hge := hsound.most
    rw [hnext]
    exact { hsound with
      least := show controller.minWindow ≤ window by omega
      most := show window ≤ controller.maxWindow by omega
      measured := nofun }

theorem Sound.onTimeout : controller.onTimeout.1.Sound := by
  have hhalf : ⌈(controller.window : ℚ) * (1 / 2)⌉ ≤ controller.window := by
    have hle := hsound.positive.trans hsound.least
    have hcast : (1 : ℚ) ≤ controller.window := by
      exact_mod_cast hle
    rw [Int.ceil_le]
    linarith
  exact { hsound with
    least := le_max_left _ _
    most := max_le (hsound.least.trans hsound.most) (hhalf.trans hsound.most) }

theorem Sound.step {label : Label} {next : AdaptiveInflightController}
    (hstep : controller.step label = some next) : next.Sound := by
  cases label with
  | observe count now =>
    cases hstep
    exact hsound.observed count now
  | timeout =>
    cases hstep
    exact hsound.onTimeout
  | submitted now =>
    cases hstep
    exact { hsound with measured := nofun }

theorem Sound.movesToward (now : ℚ) (hcount : 0 < count) :
    MovesToward controller.window
      (controller.observeResultBatch count now).1.targetWindow
      (controller.observeResultBatch count now).1.window := by
  obtain ⟨hlast, hnext⟩ | ⟨last, window, -, hnext, hmove⟩ :=
    hsound.observe now hcount
  · simp only [hnext, targetWindow, hsound.measured hlast]
    exact .refl _
  · rw [hnext]
    exact hmove

end

/-! ## Batches of one interval -/

/-- What a measured batch of the interval does. -/
structure Follows (interval : ℚ) (controller next : AdaptiveInflightController) :
    Prop where
  sound : controller.Sound
  target : next.windowFor = controller.windowFor
  average : next.emaResultIntervalSec = some (controller.averaged interval)
  moves : MovesToward controller.window
    (controller.windowFor (controller.averaged interval)) next.window

section

variable {state : ℕ → AdaptiveInflightController}
  (hfollows : ∀ n, Follows interval (state n) (state (n + 1)))

include hfollows

theorem targetWindow_follows (n : ℕ) : (state (n + 1)).targetWindow =
    (state 0).windowFor ((state n).averaged interval) := by
  have hsame : (state (n + 1)).windowFor = (state 0).windowFor := by
    induction n with
    | zero => exact (hfollows 0).target
    | succ n ih => exact (hfollows (n + 1)).target.trans ih
  simp only [targetWindow, (hfollows n).average, hsame]

theorem averaged_follows (n : ℕ) : ∃ alpha : ℚ, 0 ≤ alpha ∧ alpha ≤ 1 ∧
    (state (n + 1)).averaged interval =
      alpha * interval + (1 - alpha) * (state n).averaged interval := by
  have halpha := (hfollows (n + 1)).sound.alpha
  refine ⟨_, halpha.1, halpha.2, ?_⟩
  simp only [averaged, (hfollows n).average]

theorem targets_settle : ∃ target,
    SettlesAt (fun n => (state (n + 1)).targetWindow) target := by
  have hsound := (hfollows 0).sound
  simp only [targetWindow_follows hfollows]
  rcases le_total ((state 0).averaged interval) interval with hstart | hstart
  · have hbelow (n : ℕ) : (state n).averaged interval ≤ interval := by
      induction n with
      | zero => exact hstart
      | succ n ih =>
        obtain ⟨alpha, -, hle, heq⟩ := averaged_follows hfollows n
        rw [heq]
        nlinarith
    refine settles_of_antitone (fun n => hsound.windowFor_anti ?_)
      fun n => (hsound.windowFor_mem _).1
    obtain ⟨alpha, hpos, -, heq⟩ := averaged_follows hfollows n
    have hle := hbelow n
    rw [heq]
    nlinarith
  · have habove (n : ℕ) : interval ≤ (state n).averaged interval := by
      induction n with
      | zero => exact hstart
      | succ n ih =>
        obtain ⟨alpha, -, hle, heq⟩ := averaged_follows hfollows n
        rw [heq]
        nlinarith
    refine settles_of_monotone (fun n => hsound.windowFor_anti ?_)
      fun n => (hsound.windowFor_mem _).2
    obtain ⟨alpha, hpos, -, heq⟩ := averaged_follows hfollows n
    have hle := habove n
    rw [heq]
    nlinarith

theorem settles_of_follows : ∃ target,
    SettlesAt (fun n => (state n).window) target ∧
      SettlesAt (fun n => (state (n + 1)).targetWindow) target ∧
      ((state 0).averaged interval = interval →
        target = (state 0).windowFor interval) := by
  obtain ⟨target, hsettles⟩ := targets_settle hfollows
  refine ⟨target, MovesToward.settles (fun n => ?_) hsettles, hsettles,
    fun hstart => ?_⟩
  · simp only [targetWindow, (hfollows n).average, (hfollows n).target]
    exact (hfollows n).moves
  · have hstays (n : ℕ) : (state n).averaged interval = interval := by
      induction n with
      | zero => exact hstart
      | succ n ih =>
        obtain ⟨alpha, -, -, heq⟩ := averaged_follows hfollows n
        rw [heq, ih]
        ring
    obtain ⟨enough, hrest⟩ := hsettles
    have hvalue := hrest enough le_rfl
    simp only [targetWindow_follows hfollows, hstays] at hvalue
    exact hvalue.symm

end

section

variable (hsound : controller.Sound) {batches : ℕ → ℤ × ℚ}

include hsound

theorem Sound.behind (n : ℕ) : (controller.afterBatches batches n).Sound := by
  induction n with
  | zero => exact hsound
  | succ n ih => exact ih.observed _ _

theorem Sound.lastResultAt_behind {n : ℕ} (hcount : 0 < (batches n).1) :
    (controller.afterBatches batches (n + 1)).lastResultAt =
      some (batches n).2 := by
  rw [afterBatches]
  obtain ⟨-, hnext⟩ | ⟨_, _, -, hnext, -⟩ :=
    (hsound.behind n).observe (batches n).2 hcount
  · rw [hnext]
  · rw [hnext]

variable (hconstant : controller.ConstantInterval batches interval)

include hconstant

theorem Sound.follows (n : ℕ) : Follows interval
    (controller.afterBatches batches (n + 1))
    (controller.afterBatches batches (n + 2)) := by
  have hlast := hsound.lastResultAt_behind (hconstant n).1
  obtain ⟨hcount, hinterval⟩ := hconstant (n + 1)
  have hhere : (controller.afterBatches batches (n + 1)).Sound := hsound.behind _
  obtain ⟨hnone, -⟩ | ⟨last, window, hsome, hnext, hmove⟩ :=
    hhere.observe (batches (n + 1)).2 hcount
  · rw [hlast] at hnone
    cases hnone
  · rw [hinterval last hsome] at hnext hmove
    have hnext : controller.afterBatches batches (n + 2) = _ := hnext
    rw [hnext]
    exact ⟨hhere, rfl, rfl, hmove⟩

end

theorem averaged_eq
    (hexact : ∀ average ∈ controller.emaResultIntervalSec, average = interval) :
    controller.averaged interval = interval := by
  unfold averaged
  split
  · rfl
  · next average haverage =>
    rw [hexact average haverage]
    ring

theorem Sound.settles (hsound : controller.Sound) {batches : ℕ → ℤ × ℚ}
    (hconstant : controller.ConstantInterval batches interval) : ∃ target,
    SettlesAt (fun n => (controller.afterBatches batches n).window) target ∧
      SettlesAt (fun n => (controller.afterBatches batches n).targetWindow) target ∧
      ((∀ average ∈ controller.emaResultIntervalSec, average = interval) →
        target = controller.windowFor interval) := by
  obtain ⟨target, hwindow, htarget, hvalue⟩ :=
    settles_of_follows (hsound.follows hconstant)
  refine ⟨target, hwindow.of_shift 1, htarget.of_shift 2, fun hexact => ?_⟩
  obtain ⟨hcount, hinterval⟩ := hconstant 0
  have hfirst : (controller.afterBatches batches 1).windowFor =
        controller.windowFor ∧
      (controller.afterBatches batches 1).averaged interval = interval := by
    rw [afterBatches, afterBatches]
    obtain ⟨-, hnext⟩ | ⟨last, window, hsome, hnext, -⟩ :=
      hsound.observe (batches 0).2 hcount
    · rw [hnext]
      exact ⟨rfl, averaged_eq hexact⟩
    · rw [hnext, hinterval last hsome, averaged_eq hexact]
      exact ⟨rfl, averaged_eq fun _ hmem => (Option.some.inj hmem).symm⟩
  rw [hvalue hfirst.2, hfirst.1]

/-- The window of every controller stays between its bounds.  A batch with
results moves it towards the target of that batch, a batch without any does
nothing, and under a constant interval it comes to be the target and stays. -/
theorem window_follows_target (activeWorkers initialWindow : ℤ)
    (targetBacklogSec emaAlpha : ℚ) (maxWindow : Option ℤ)
    {controller : AdaptiveInflightController}
    (hreach : Reachable step (create activeWorkers initialWindow
      targetBacklogSec emaAlpha maxWindow) controller) :
    (controller.minWindow ≤ controller.window ∧
      controller.window ≤ controller.maxWindow) ∧
    (∀ count now, 0 < count → MovesToward controller.window
      (controller.observeResultBatch count now).1.targetWindow
      (controller.observeResultBatch count now).1.window) ∧
    (∀ count now, count ≤ 0 →
      controller.observeResultBatch count now = (controller, false)) ∧
    ∀ batches interval, controller.ConstantInterval batches interval → ∃ target,
      SettlesAt (fun n => (controller.afterBatches batches n).window) target ∧
      SettlesAt (fun n => (controller.afterBatches batches n).targetWindow) target ∧
      ((∀ average ∈ controller.emaResultIntervalSec, average = interval) →
        target = controller.windowFor interval) := by
  have hsound : controller.Sound :=
    hreach.invariant Sound (sound_create _ _ _ _ _)
      fun _ _ _ hbefore _ hstep => hbefore.step hstep
  exact ⟨⟨hsound.least, hsound.most⟩, fun _ now => hsound.movesToward now,
    fun _ _ => observe_of_nonpos, fun _ _ => hsound.settles⟩

/-- A batch of one result every ten seconds, for two workers. -/
theorem window_follows_tenSeconds :
    ∃ controller : AdaptiveInflightController,
      Reachable step (create 2 24 60 1 (some 48)) controller ∧
      controller.window = 24 ∧
      SettlesAt (fun n => (controller.afterBatches
        (fun n => (1, 10 * (n : ℚ))) n).window) 6 := by
  have hconstant : (create 2 24 60 1 (some 48)).ConstantInterval
      (fun n => (1, 10 * (n : ℚ))) 10 := by
    intro n
    refine ⟨one_pos, fun last hlast => ?_⟩
    cases n with
    | zero => cases hlast
    | succ n =>
      rw [(sound_create _ _ _ _ _).lastResultAt_behind one_pos] at hlast
      cases hlast
      have hten : 10 * ((n + 1 : ℕ) : ℚ) - 10 * n = 10 := by
        push_cast
        ring
      simp only [resultInterval, hten]
      norm_num [leastInterval]
  obtain ⟨-, -, -, hsettles⟩ := window_follows_target 2 24 60 1 (some 48) .refl
  obtain ⟨target, hwindow, -, htarget⟩ := hsettles _ _ hconstant
  have hsix : target = 6 := (htarget nofun).trans (by decide +kernel)
  exact ⟨_, .refl, by decide +kernel, hsix ▸ hwindow⟩

end AdaptiveInflightController

end PycloudParallel.TaskPool
