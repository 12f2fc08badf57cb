import PycloudParallel.FoundationGuardedRun
import PycloudParallel.ResourceSignalStore

/-!
# A consumer that polls resource signals

`list_resource_signals` reads the signals and the cursor of its answer in two
critical sections; signals may be published in front of, between and behind
them.  The consumer passes the cursor of the last answer to its next call.
-/

namespace PycloudParallel.ResourceSignals

/-- The store with one consumer.  `log` is everything that was published, in
order; nothing reads it. -/
structure Polling where
  store : SignalStore
  log : List ResourceSignal
  cursor : ℕ
  /-- The signals of a call that has still to read its cursor. -/
  pending : Option (List ResourceSignal)
  received : List ResourceSignal

inductive PollingLabel
  | publish (signal : ResourceSignal)
  | readSignals (limit : ℕ)
  | readCursor

namespace Polling

def initial (maxlen : ℕ) : Polling where
  store := .create maxlen
  log := []
  cursor := 0
  pending := none
  received := []

def step (polling : Polling) : PollingLabel → Option Polling
  | .publish signal =>
    some { polling with
      store := polling.store.publish signal
      log := polling.log ++ [signal.withSeq (polling.store.seq + 1)] }
  | .readSignals limit =>
    match polling.pending with
    | some _ => none
    | none =>
      some { polling with
        pending := some (polling.store.since polling.cursor limit) }
  | .readCursor =>
    match polling.pending with
    | none => none
    | some signals =>
      some { polling with
        cursor := polling.store.seq
        pending := none
        received := polling.received ++ signals }

def unseenRetained (polling : Polling) : List ResourceSignal :=
  polling.store.signals.filter fun signal => polling.cursor < signal.seq

/-- A readiness signal finds a place in the index, or takes that of a signal
that was returned. -/
def indexRoom (polling : Polling) (signal : ResourceSignal) : Bool :=
  signal.coalescedKey ∈ polling.store.coalescedIndex ||
    polling.store.coalescedIndex.items.length < polling.store.maxlen ||
    polling.store.coalescedIndex.values.any fun other =>
      other.seq ≤ polling.cursor

/-- Nothing that a reader gets is published between the two sections of a call,
the limit of a call is not smaller than what there is to return, and no signal
is trimmed before it was returned. -/
def complete (polling : Polling) : PollingLabel → Bool
  | .publish signal =>
    (polling.pending.isNone || !signal.isRetained && !signal.isCoalesced) &&
    (!signal.isRetained ||
      polling.unseenRetained.length < polling.store.maxlen) &&
    (!signal.isCoalesced || polling.indexRoom signal)
  | .readSignals limit =>
    (polling.store.unseen polling.cursor).length ≤
      SignalStore.normalizedLimit limit
  | .readCursor => true

end Polling

def IsLatest (log : List ResourceSignal) (signal : ResourceSignal) : Prop :=
  signal ∈ log ∧ signal.isCoalesced = true ∧
    ∀ other ∈ log, other.coalescedKey = signal.coalescedKey →
      other.seq ≤ signal.seq

structure StoreSound (store : SignalStore) (log : List ResourceSignal)
    (cursor : ℕ) : Prop where
  sorted : log.Pairwise fun first second => first.seq < second.seq
  bounded : ∀ signal ∈ log, 0 < signal.seq ∧ signal.seq ≤ store.seq
  retained : ∃ dropped, log.filter ResourceSignal.isRetained =
      dropped ++ store.signals ∧ ∀ signal ∈ dropped, signal.seq ≤ cursor
  kept : store.signals.length ≤ store.maxlen
  within : store.coalescedIndex.items.length ≤ store.maxlen
  indexed : ∀ key signal, store.coalescedIndex.lookup key = some signal →
    IsLatest log signal ∧ signal.coalescedKey = key
  coalesced : ∀ signal, IsLatest log signal → signal.seq ≤ cursor ∨
    store.coalescedIndex.lookup signal.coalescedKey = some signal

/-- The signals of a list are all that was published from one cursor to
another. -/
structure Returns (log signals : List ResourceSignal) (first last : ℕ) :
    Prop where
  retained : signals.filter ResourceSignal.isRetained =
    (log.filter ResourceSignal.isRetained).filter fun signal =>
      first < signal.seq ∧ signal.seq ≤ last
  latest : ∀ signal, IsLatest log signal → first < signal.seq →
    signal.seq ≤ last → signal ∈ signals
  sorted : signals.Pairwise fun one two => one.seq < two.seq
  bounded : ∀ signal ∈ signals, first < signal.seq ∧ signal.seq ≤ last

structure Polling.Sound (polling : Polling) : Prop where
  store : StoreSound polling.store polling.log polling.cursor
  cursor : polling.cursor ≤ polling.store.seq
  received : Returns polling.log polling.received 0 polling.cursor
  pending : ∀ signals, polling.pending = some signals →
    Returns polling.log signals polling.cursor polling.store.seq

section

variable {store : SignalStore} {log signals : List ResourceSignal}
  {signal : ResourceSignal} {cursor first last : ℕ}

theorem seq_injective
    (hsorted : log.Pairwise fun first second => first.seq < second.seq)
    {one two : ResourceSignal} (hone : one ∈ log) (htwo : two ∈ log)
    (hseq : one.seq = two.seq) : one = two := by
  induction hsorted with
  | nil => cases hone
  | cons hhead _ ih =>
    rw [List.mem_cons] at hone htwo
    cases hone with
    | inl hone =>
      cases htwo with
      | inl htwo => rw [hone, htwo]
      | inr htwo =>
        have hlt := hhead two htwo
        rw [← hone] at hlt
        omega
    | inr hone =>
      cases htwo with
      | inl htwo =>
        have hlt := hhead one hone
        rw [← htwo] at hlt
        omega
      | inr htwo => exact ih hone htwo

theorem not_both (signal : ResourceSignal) :
    signal.isRetained = true → signal.isCoalesced = false := by
  unfold ResourceSignal.isRetained ResourceSignal.isCoalesced
  cases signal.signalType <;> simp [SignalType.isRetained, SignalType.isCoalesced]

theorem mem_log_of_mem_signals (hsound : StoreSound store log cursor)
    (hmem : signal ∈ store.signals) :
    signal ∈ log ∧ signal.isRetained = true := by
  obtain ⟨dropped, hretained, _⟩ := hsound.retained
  have hfiltered : signal ∈ log.filter ResourceSignal.isRetained := by
    rw [hretained]
    exact List.mem_append_right _ hmem
  exact List.mem_filter.mp hfiltered

theorem mem_log_of_mem_index (hsound : StoreSound store log cursor)
    (hmem : signal ∈ store.coalescedIndex.values) : IsLatest log signal := by
  obtain ⟨key, hlookup⟩ := OrderedDict.mem_values.mp hmem
  exact (hsound.indexed key signal hlookup).1

theorem eq_of_sorted {one two : List ResourceSignal}
    (hone : one.Pairwise fun first second => first.seq < second.seq)
    (htwo : two.Pairwise fun first second => first.seq < second.seq)
    (hmem : ∀ found, found ∈ one ↔ found ∈ two) : one = two := by
  have hnodup : ∀ {signals : List ResourceSignal},
      signals.Pairwise (fun first second => first.seq < second.seq) →
      signals.Nodup := by
    intro signals hsignals
    apply hsignals.imp
    rintro first second hlt rfl
    exact Nat.lt_irrefl _ hlt
  have hperm : one.Perm two :=
    (List.perm_ext_iff_of_nodup (hnodup hone) (hnodup htwo)).mpr hmem
  have hantisymm : ∀ first second, first ∈ one → second ∈ two →
      first.seq < second.seq → second.seq < first.seq → first = second := by
    intro first second _ _ hfirst hsecond
    omega
  exact hperm.eq_of_pairwise hantisymm hone htwo

section

variable (hsound : StoreSound store log cursor)

include hsound

theorem StoreSound.nodup_values :
    store.coalescedIndex.values.Nodup := by
  have hentries : store.coalescedIndex.entries.Nodup :=
    store.coalescedIndex.nodupKeys.nodup
  unfold OrderedDict.values
  apply hentries.map_on
  intro one hone two htwo heq
  have hkey : ∀ entry ∈ store.coalescedIndex.entries,
      entry.2.coalescedKey = entry.1 := by
    intro entry hentry
    have hlookup : store.coalescedIndex.lookup entry.1 = some entry.2 :=
      OrderedDict.mem_items.mp (List.mem_map.mpr ⟨entry, hentry, rfl⟩)
    exact (hsound.indexed entry.1 entry.2 hlookup).2
  have hsame : one.1 = two.1 := by
    rw [← hkey one hone, ← hkey two htwo, heq]
  obtain ⟨firstKey, firstSignal⟩ := one
  obtain ⟨secondKey, secondSignal⟩ := two
  cases hsame
  cases heq
  rfl

theorem StoreSound.sorted_unseen :
    (store.unseen cursor).Pairwise fun one two => one.seq < two.seq := by
  obtain ⟨dropped, hretained, _⟩ := hsound.retained
  have hsignals : store.signals.Pairwise fun one two => one.seq < two.seq := by
    have hfiltered := hsound.sorted.filter ResourceSignal.isRetained
    rw [hretained] at hfiltered
    exact (List.pairwise_append.mp hfiltered).2.1
  have hnodup : (store.signals ++ store.coalescedIndex.values).Nodup := by
    rw [List.nodup_append]
    refine ⟨?_, hsound.nodup_values, ?_⟩
    · apply hsignals.imp
      rintro one two hlt rfl
      exact Nat.lt_irrefl _ hlt
    · rintro one hone two htwo rfl
      have hkind := (mem_log_of_mem_signals hsound hone).2
      have hcoalesced := (mem_log_of_mem_index hsound htwo).2.1
      rw [not_both one hkind] at hcoalesced
      cases hcoalesced
  unfold SignalStore.unseen
  have hweak := pairwise_sortedBySeq ResourceSignal.seq
    ((store.signals ++ store.coalescedIndex.values).filter fun signal =>
      decide (cursor < signal.seq))
  have hdistinct := (perm_sortedBySeq ResourceSignal.seq _).nodup_iff.mpr
    (hnodup.filter fun signal => decide (cursor < signal.seq))
  have hmem : ∀ found ∈ sortedBySeq ResourceSignal.seq
      ((store.signals ++ store.coalescedIndex.values).filter fun signal =>
        decide (cursor < signal.seq)), found ∈ log := by
    intro found hfound
    rw [mem_sortedBySeq, List.mem_filter, List.mem_append] at hfound
    cases hfound.1 with
    | inl hsignal => exact (mem_log_of_mem_signals hsound hsignal).1
    | inr hindex => exact (mem_log_of_mem_index hsound hindex).1
  apply (hweak.and hdistinct).imp_of_mem
  rintro one two hone htwo ⟨hle, hne⟩
  by_contra hnot
  apply hne
  apply seq_injective hsound.sorted (hmem one hone) (hmem two htwo)
  omega

theorem StoreSound.returns_unseen :
    Returns log (store.unseen cursor) cursor store.seq := by
  have hmem : ∀ found, found ∈ store.unseen cursor ↔
      (found ∈ store.signals ∨ found ∈ store.coalescedIndex.values) ∧
        cursor < found.seq := by
    intro found
    unfold SignalStore.unseen
    rw [mem_sortedBySeq, List.mem_filter, List.mem_append,
      decide_eq_true_eq]
  have hlog : ∀ found ∈ store.unseen cursor, found ∈ log := by
    intro found hfound
    cases ((hmem found).mp hfound).1 with
    | inl hsignal => exact (mem_log_of_mem_signals hsound hsignal).1
    | inr hindex => exact (mem_log_of_mem_index hsound hindex).1
  have hsorted := hsound.sorted_unseen
  constructor
  · obtain ⟨dropped, hretained, hdropped⟩ := hsound.retained
    have hlogSorted : ((log.filter ResourceSignal.isRetained).filter
        fun found => decide (cursor < found.seq ∧ found.seq ≤ store.seq)).Pairwise
          fun one two => one.seq < two.seq :=
      (hsound.sorted.filter _).filter _
    apply eq_of_sorted (hsorted.filter _) hlogSorted
    intro found
    rw [List.mem_filter, List.mem_filter, hmem, decide_eq_true_eq, hretained,
      List.mem_append]
    constructor
    · rintro ⟨⟨hplace, hlt⟩, hkind⟩
      cases hplace with
      | inl hsignal =>
        have hbound := hsound.bounded found
          (mem_log_of_mem_signals hsound hsignal).1
        exact ⟨.inr hsignal, hlt, hbound.2⟩
      | inr hindex =>
        have hcoalesced := (mem_log_of_mem_index hsound hindex).2.1
        rw [not_both found hkind] at hcoalesced
        cases hcoalesced
    · rintro ⟨hplace, hlt, _⟩
      cases hplace with
      | inl hgone =>
        have hseen := hdropped found hgone
        omega
      | inr hsignal =>
        exact ⟨⟨.inl hsignal, hlt⟩, (mem_log_of_mem_signals hsound hsignal).2⟩
  · intro found hlatest hlt _
    rw [hmem]
    cases hsound.coalesced found hlatest with
    | inl hseen => omega
    | inr hlookup => exact ⟨.inr (OrderedDict.mem_values.mpr ⟨_, hlookup⟩), hlt⟩
  · exact hsorted
  · intro found hfound
    exact ⟨((hmem found).mp hfound).2, (hsound.bounded found (hlog found hfound)).2⟩

end

theorem seen_of_mem_take {maxlen : ℕ}
    (hsorted : signals.Pairwise fun one two => one.seq < two.seq)
    (hunseen : (signals.filter fun found => cursor < found.seq).length ≤ maxlen)
    (hmem : signal ∈ signals.take (signals.length - maxlen)) :
    signal.seq ≤ cursor := by
  induction hsorted with
  | nil => simp at hmem
  | @cons oldest rest hhead _ ih =>
    rw [List.length_cons] at hmem
    obtain hfew | hmany : rest.length + 1 - maxlen = 0 ∨
        rest.length + 1 - maxlen = (rest.length - maxlen) + 1 := by omega
    · simp [hfew] at hmem
    rw [hmany, List.take_succ_cons, List.mem_cons] at hmem
    by_cases hseen : oldest.seq ≤ cursor
    · cases hmem with
      | inl hsame => rwa [hsame]
      | inr hrest =>
        rw [List.filter_cons_of_neg (by simpa using hseen)] at hunseen
        exact ih hunseen hrest
    · have hall : (oldest :: rest).filter (fun found => cursor < found.seq) =
          oldest :: rest := by
        apply List.filter_eq_self.mpr
        intro found hfound
        rw [List.mem_cons] at hfound
        rw [decide_eq_true_eq]
        cases hfound with
        | inl hsame =>
          rw [hsame]
          omega
        | inr hrest =>
          have hlater := hhead found hrest
          omega
      rw [hall, List.length_cons] at hunseen
      omega

theorem IsLatest.of_append {published : ResourceSignal}
    (hlatest : IsLatest (log ++ [published]) signal)
    (hne : signal ≠ published) : IsLatest log signal := by
  obtain ⟨hmem, hcoalesced, hbeyond⟩ := hlatest
  rw [List.mem_append, List.mem_singleton] at hmem
  cases hmem with
  | inl hold =>
    refine ⟨hold, hcoalesced, ?_⟩
    intro other hother
    exact hbeyond other (List.mem_append_left _ hother)
  | inr hnew => exact absurd hnew hne

theorem Returns.of_published {published : ResourceSignal}
    (hreturns : Returns log signals first last)
    (hlater : last < published.seq) :
    Returns (log ++ [published]) signals first last where
  retained := by
    have hbeyond : (([published].filter ResourceSignal.isRetained).filter
        fun found => decide (first < found.seq ∧ found.seq ≤ last)) = [] := by
      rw [List.filter_filter, List.filter_eq_nil_iff]
      intro found hfound
      rw [List.mem_singleton] at hfound
      rw [hfound, Bool.and_eq_true, decide_eq_true_eq]
      omega
    rw [hreturns.retained, List.filter_append, List.filter_append, hbeyond,
      List.append_nil]
  latest := by
    intro found hlatest hfirst hlast
    have hne : found ≠ published := by
      rintro rfl
      omega
    exact hreturns.latest found (hlatest.of_append hne) hfirst hlast
  sorted := hreturns.sorted
  bounded := hreturns.bounded

theorem Returns.widen {wider : ℕ} (hreturns : Returns log signals first last)
    (hwider : last ≤ wider)
    (hquiet : ∀ found ∈ log, last < found.seq →
      found.isRetained = false ∧ found.isCoalesced = false) :
    Returns log signals first wider where
  retained := by
    rw [hreturns.retained]
    apply List.filter_congr
    intro found hfound
    rw [List.mem_filter] at hfound
    have hplace : found.seq ≤ last := by
      by_contra hbeyond
      have hkind := (hquiet found hfound.1 (by omega)).1
      rw [hfound.2] at hkind
      cases hkind
    rw [decide_eq_decide]
    omega
  latest := by
    intro found hlatest hfirst _
    have hplace : found.seq ≤ last := by
      by_contra hbeyond
      have hkind := (hquiet found hlatest.1 (by omega)).2
      rw [hlatest.2.1] at hkind
      cases hkind
    exact hreturns.latest found hlatest hfirst hplace
  sorted := hreturns.sorted
  bounded := by
    intro found hfound
    have hplace := hreturns.bounded found hfound
    omega

theorem Returns.append {between : ℕ} {later : List ResourceSignal}
    (hsorted : log.Pairwise fun one two => one.seq < two.seq)
    (hearlier : Returns log signals first between)
    (hlater : Returns log later between last)
    (hfirst : first ≤ between) (hlast : between ≤ last) :
    Returns log (signals ++ later) first last := by
  have hjoined : (signals ++ later).Pairwise fun one two => one.seq < two.seq := by
    rw [List.pairwise_append]
    refine ⟨hearlier.sorted, hlater.sorted, ?_⟩
    intro one hone two htwo
    have honePlace := hearlier.bounded one hone
    have htwoPlace := hlater.bounded two htwo
    omega
  constructor
  · apply eq_of_sorted (hjoined.filter _) ((hsorted.filter _).filter _)
    intro found
    rw [List.filter_append, List.mem_append, hearlier.retained, hlater.retained]
    simp only [List.mem_filter (p := fun found => decide _), decide_eq_true_eq]
    rw [← and_or_left]
    constructor
    all_goals
      rintro ⟨hmem, hplace⟩
      exact ⟨hmem, by omega⟩
  · intro found hlatest hafter hbefore
    rw [List.mem_append]
    by_cases hplace : found.seq ≤ between
    · exact .inl (hearlier.latest found hlatest hafter hplace)
    · exact .inr (hlater.latest found hlatest (by omega) hbefore)
  · exact hjoined
  · intro found hfound
    rw [List.mem_append] at hfound
    cases hfound with
    | inl hmem =>
      have hplace := hearlier.bounded found hmem
      omega
    | inr hmem =>
      have hplace := hlater.bounded found hmem
      omega

end

end PycloudParallel.ResourceSignals
