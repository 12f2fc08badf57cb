import PycloudParallel.ResourceSignalPolling

/-!
# What a polling consumer gets

Publishing and polling keep the store and the answers whole, so a consumer
whose polls are complete has every retained signal once and in order, and the
latest readiness of every resource.
-/

namespace PycloudParallel.ResourceSignals

open OrderedDict

section

variable {store : SignalStore} {log : List ResourceSignal}
  {signal : ResourceSignal} {cursor : ℕ}

/-- The index as `publish` finds it when it trims. -/
def SignalStore.recordedIndex (store : SignalStore) (signal : ResourceSignal) :
    CoalescedIndex :=
  (store.record (signal.withSeq (store.seq + 1))).coalescedIndex

theorem lookup_publish (key : String × String × SignalType) :
    (store.publish signal).coalescedIndex.lookup key =
      if key ∈ SignalStore.surplusKeys store.maxlen (store.recordedIndex signal)
      then none else (store.recordedIndex signal).lookup key :=
  lookup_eraseKeys _ key

theorem recordedIndex_eq :
    store.recordedIndex signal =
      if signal.isCoalesced then store.coalescedIndex.set signal.coalescedKey
        (signal.withSeq (store.seq + 1))
      else store.coalescedIndex := rfl

theorem lookup_recordedIndex (key : String × String × SignalType) :
    (store.recordedIndex signal).lookup key =
      if signal.isCoalesced = true ∧ key = signal.coalescedKey then
        some (signal.withSeq (store.seq + 1))
      else store.coalescedIndex.lookup key := by
  rw [recordedIndex_eq]
  by_cases hcoalesced : signal.isCoalesced = true
  · rw [if_pos hcoalesced, lookup_set]
    simp [hcoalesced]
  · rw [if_neg hcoalesced, if_neg (by simp [hcoalesced])]

theorem length_items (index : CoalescedIndex) :
    index.items.length = index.values.length := by
  unfold OrderedDict.items OrderedDict.values
  rw [List.length_map, List.length_map]

theorem length_recordedIndex :
    (store.recordedIndex signal).items.length =
      if signal.isCoalesced = true ∧ signal.coalescedKey ∉ store.coalescedIndex
      then store.coalescedIndex.items.length + 1
      else store.coalescedIndex.items.length := by
  rw [recordedIndex_eq]
  by_cases hcoalesced : signal.isCoalesced = true
  · rw [if_pos hcoalesced]
    by_cases hpresent : signal.coalescedKey ∈ store.coalescedIndex
    · rw [if_neg (by simp [hpresent])]
      simp [OrderedDict.items, OrderedDict.set, hpresent, OrderedDict.overwrite]
    · rw [if_pos ⟨hcoalesced, hpresent⟩]
      simp [OrderedDict.items, OrderedDict.set, hpresent]
  · rw [if_neg hcoalesced, if_neg (by simp [hcoalesced])]

variable {found : ResourceSignal}

theorem seen_of_mem_surplusKeys (hsound : StoreSound store log cursor)
    (hroom : signal.isCoalesced = true →
      signal.coalescedKey ∈ store.coalescedIndex ∨
      store.coalescedIndex.items.length < store.maxlen ∨
      ∃ other ∈ store.coalescedIndex.values, other.seq ≤ cursor)
    {key : String × String × SignalType}
    (hkey : key ∈ SignalStore.surplusKeys store.maxlen
      (store.recordedIndex signal))
    (hlookup : (store.recordedIndex signal).lookup key = some found) :
    found.seq ≤ cursor := by
  have hwithin := hsound.within
  have hlength := @length_recordedIndex store signal
  have hsurplus : store.maxlen < (store.recordedIndex signal).items.length := by
    by_contra hfits
    rw [surplusKeys_eq_nil (by omega)] at hkey
    cases hkey
  split at hlength
  · next hnew =>
    obtain hpresent | hfew | ⟨other, hother, hseen⟩ := hroom hnew.1
    · exact absurd hpresent hnew.2
    · omega
    · obtain ⟨otherKey, hotherLookup⟩ := mem_values.mp hother
      have hotherKey : otherKey ≠ signal.coalescedKey := by
        rintro rfl
        exact hnew.2 (mem_iff_lookup.mpr ⟨other, hotherLookup⟩)
      have hrecorded : other ∈ (store.recordedIndex signal).values := by
        rw [mem_values]
        refine ⟨otherKey, ?_⟩
        rw [lookup_recordedIndex, if_neg (by simp [hotherKey]), hotherLookup]
      have hole := oldest_of_mem_surplusKeys (by omega) hkey hlookup hrecorded
      omega
  · omega

theorem length_eraseKeys_surplusKeys {index : CoalescedIndex} {maxlen : ℕ}
    (hlength : index.items.length ≤ maxlen + 1) :
    (SignalStore.eraseKeys index
      (SignalStore.surplusKeys maxlen index)).items.length ≤ maxlen := by
  by_cases hfits : index.items.length ≤ maxlen
  · rw [surplusKeys_eq_nil hfits]
    exact hfits
  have hone : index.items.length - maxlen = 1 := by omega
  unfold SignalStore.surplusKeys
  dsimp only
  rw [length_sortedBySeq, hone]
  have hmem : ∀ item ∈ sortedBySeq (fun item => item.2.seq) index.items,
      item ∈ index.items := fun _ hitem => (mem_sortedBySeq _ _).mp hitem
  have hcount := length_sortedBySeq
    (fun item : (String × String × SignalType) × ResourceSignal => item.2.seq)
    index.items
  generalize sortedBySeq (fun item => item.2.seq) index.items = sorted
    at hmem hcount
  cases sorted with
  | nil =>
    rw [List.length_nil] at hcount
    omega
  | cons oldest rest =>
    have hfound := mem_items.mp
      (hmem oldest List.mem_cons_self)
    have herased := (values_perm_erase hfound).length_eq
    rw [List.length_cons, ← length_items, ← length_items] at herased
    rw [List.take_succ_cons, List.take_zero, List.map_cons, List.map_nil,
      SignalStore.eraseKeys, SignalStore.eraseKeys]
    omega

section

variable (hsound : StoreSound store log cursor)

include hsound

theorem StoreSound.lt_published (hfound : found ∈ log) :
    found.seq < (signal.withSeq (store.seq + 1)).seq := by
  have hbound := hsound.bounded found hfound
  have hseq : (signal.withSeq (store.seq + 1)).seq = store.seq + 1 := rfl
  omega

theorem StoreSound.sorted_publish :
    (log ++ [signal.withSeq (store.seq + 1)]).Pairwise
      fun first second => first.seq < second.seq := by
  rw [List.pairwise_append]
  refine ⟨hsound.sorted, List.pairwise_singleton _ _, ?_⟩
  intro found hfound last hlast
  rw [List.mem_singleton] at hlast
  rw [hlast]
  exact hsound.lt_published hfound

theorem StoreSound.retained_publish (hunseen : signal.isRetained = true →
      (store.signals.filter fun found => cursor < found.seq).length <
        store.maxlen) :
    ∃ dropped, (log ++ [signal.withSeq (store.seq + 1)]).filter
        ResourceSignal.isRetained = dropped ++ (store.publish signal).signals ∧
      ∀ found ∈ dropped, found.seq ≤ cursor := by
  obtain ⟨dropped, hretained, hdropped⟩ := hsound.retained
  have hsignals : (store.publish signal).signals =
      (if signal.isRetained then store.signals ++ [signal.withSeq (store.seq + 1)]
        else store.signals).drop
        ((if signal.isRetained then
          store.signals ++ [signal.withSeq (store.seq + 1)]
          else store.signals).length - store.maxlen) := rfl
  have hnew : (signal.withSeq (store.seq + 1)).isRetained =
      signal.isRetained := rfl
  have hpublished : (log ++ [signal.withSeq (store.seq + 1)]).Pairwise
      fun first second => first.seq < second.seq := hsound.sorted_publish
  have hsorted := hpublished.filter ResourceSignal.isRetained
  rw [List.filter_append, hretained, List.filter_singleton, hnew] at hsorted ⊢
  rw [hsignals]
  by_cases hkind : signal.isRetained = true
  · rw [hkind, cond_true, List.append_assoc] at hsorted
    rw [if_pos hkind, hkind, cond_true]
    have hlist := (List.pairwise_append.mp hsorted).2.1
    refine ⟨dropped ++ (store.signals ++ [signal.withSeq (store.seq + 1)]).take
      ((store.signals ++ [signal.withSeq (store.seq + 1)]).length -
        store.maxlen), ?_, ?_⟩
    · rw [List.append_assoc, List.append_assoc, List.take_append_drop]
    · intro found hfound
      rw [List.mem_append] at hfound
      cases hfound with
      | inl hgone => exact hdropped found hgone
      | inr htaken =>
        apply seen_of_mem_take hlist _ htaken
        have hfew := hunseen hkind
        have hlater := List.length_filter_le
          (fun found : ResourceSignal => decide (cursor < found.seq))
          [signal.withSeq (store.seq + 1)]
        rw [List.length_singleton] at hlater
        rw [List.filter_append, List.length_append]
        omega
  · have hkept : store.signals.length - store.maxlen = 0 := by
      have hlength := hsound.kept
      omega
    rw [Bool.not_eq_true] at hkind
    rw [if_neg (by simp [hkind]), hkind, cond_false, hkept, List.append_nil,
      List.drop_zero]
    exact ⟨dropped, rfl, hdropped⟩

end

theorem coalesced_of_key {other : ResourceSignal}
    (hkey : signal.coalescedKey = other.coalescedKey)
    (hcoalesced : other.isCoalesced = true) : signal.isCoalesced = true := by
  have htype : signal.signalType = other.signalType :=
    congrArg (fun triple => triple.2.2) hkey
  unfold ResourceSignal.isCoalesced at hcoalesced ⊢
  rw [htype, hcoalesced]

variable (hsound : StoreSound store log cursor)

include hsound

theorem StoreSound.indexed_publish {key : String × String × SignalType}
    (hlookup : (store.publish signal).coalescedIndex.lookup key = some found) :
    IsLatest (log ++ [signal.withSeq (store.seq + 1)]) found ∧
      found.coalescedKey = key := by
  rw [lookup_publish] at hlookup
  split at hlookup
  · cases hlookup
  rw [lookup_recordedIndex] at hlookup
  split at hlookup
  · next hself =>
    cases hlookup
    refine ⟨⟨List.mem_append_right _ (List.mem_singleton_self _), hself.1, ?_⟩,
      hself.2.symm⟩
    intro other hother _
    rw [List.mem_append, List.mem_singleton] at hother
    cases hother with
    | inl hold => exact (hsound.lt_published hold).le
    | inr hlast => rw [hlast]
  · next hother =>
    obtain ⟨⟨hmem, hcoalesced, hlatest⟩, hkey⟩ :=
      hsound.indexed key found hlookup
    refine ⟨⟨List.mem_append_left _ hmem, hcoalesced, ?_⟩, hkey⟩
    intro other hmember hsame
    rw [List.mem_append, List.mem_singleton] at hmember
    cases hmember with
    | inl hold => exact hlatest other hold hsame
    | inr hlast =>
      rw [hlast] at hsame
      have hsameKey : signal.coalescedKey = found.coalescedKey := hsame
      have hself := coalesced_of_key hsameKey hcoalesced
      exact absurd ⟨hself, hkey.symm.trans hsameKey.symm⟩ hother

theorem StoreSound.coalesced_publish
    (hroom : signal.isCoalesced = true →
      signal.coalescedKey ∈ store.coalescedIndex ∨
      store.coalescedIndex.items.length < store.maxlen ∨
      ∃ other ∈ store.coalescedIndex.values, other.seq ≤ cursor)
    (hlatest : IsLatest (log ++ [signal.withSeq (store.seq + 1)]) found) :
    found.seq ≤ cursor ∨
      (store.publish signal).coalescedIndex.lookup found.coalescedKey =
        some found := by
  have hrecorded : found.seq ≤ cursor ∨
      (store.recordedIndex signal).lookup found.coalescedKey = some found := by
    rw [lookup_recordedIndex]
    by_cases hlast : found = signal.withSeq (store.seq + 1)
    · have hcoalesced : signal.isCoalesced = true := by
        have hkind := hlatest.2.1
        rw [hlast] at hkind
        exact hkind
      right
      rw [hlast]
      exact if_pos ⟨hcoalesced, rfl⟩
    · have hold := hlatest.of_append hlast
      have hkey : found.coalescedKey ≠ signal.coalescedKey := by
        intro hsame
        have hbeyond := hlatest.2.2 _
          (List.mem_append_right _ (List.mem_singleton_self _)) hsame.symm
        have hbound : found.seq < (signal.withSeq (store.seq + 1)).seq :=
          hsound.lt_published hold.1
        omega
      rw [if_neg (by simp [hkey])]
      exact hsound.coalesced found hold
  rw [lookup_publish]
  cases hrecorded with
  | inl hseen => exact .inl hseen
  | inr hlookup =>
    split
    · next hsurplus =>
      exact .inl (seen_of_mem_surplusKeys hsound hroom hsurplus hlookup)
    · exact .inr hlookup

theorem StoreSound.publish
    (hunseen : signal.isRetained = true →
      (store.signals.filter fun found => cursor < found.seq).length <
        store.maxlen)
    (hroom : signal.isCoalesced = true →
      signal.coalescedKey ∈ store.coalescedIndex ∨
      store.coalescedIndex.items.length < store.maxlen ∨
      ∃ other ∈ store.coalescedIndex.values, other.seq ≤ cursor) :
    StoreSound (store.publish signal)
      (log ++ [signal.withSeq (store.seq + 1)]) cursor where
  sorted := hsound.sorted_publish
  bounded := by
    intro found hfound
    have hseq : (store.publish signal).seq = store.seq + 1 := rfl
    rw [List.mem_append, List.mem_singleton] at hfound
    rw [hseq]
    cases hfound with
    | inl hold =>
      have hbound := hsound.bounded found hold
      omega
    | inr hlast =>
      rw [hlast]
      exact ⟨Nat.succ_pos _, le_refl _⟩
  retained := hsound.retained_publish hunseen
  kept := by
    unfold SignalStore.publish SignalStore.trim
    dsimp only
    rw [List.length_drop]
    have hmaxlen : (store.record (signal.withSeq (store.seq + 1))).maxlen =
        store.maxlen := rfl
    omega
  within := by
    apply length_eraseKeys_surplusKeys
    have hlength := @length_recordedIndex store signal
    have hwithin := hsound.within
    unfold SignalStore.recordedIndex at hlength
    split at hlength
    · exact hlength.le.trans (Nat.succ_le_succ hwithin)
    · exact hlength.le.trans (Nat.le_succ_of_le hwithin)
  indexed := fun _ _ hlookup => hsound.indexed_publish hlookup
  coalesced := fun _ hlatest => hsound.coalesced_publish hroom hlatest

theorem StoreSound.later_cursor {later : ℕ} (hlater : cursor ≤ later) :
    StoreSound store log later where
  sorted := hsound.sorted
  bounded := hsound.bounded
  retained := by
    obtain ⟨dropped, hretained, hdropped⟩ := hsound.retained
    refine ⟨dropped, hretained, ?_⟩
    intro found hfound
    exact (hdropped found hfound).trans hlater
  kept := hsound.kept
  within := hsound.within
  indexed := hsound.indexed
  coalesced := by
    intro found hlatest
    cases hsound.coalesced found hlatest with
    | inl hseen => exact .inl (hseen.trans hlater)
    | inr hlookup => exact .inr hlookup

end

namespace Polling

theorem sound_initial (maxlen : ℕ) : (initial maxlen).Sound where
  store :=
    { sorted := .nil
      bounded := nofun
      retained := ⟨[], rfl, nofun⟩
      kept := Nat.zero_le _
      within := Nat.zero_le _
      indexed := nofun
      coalesced := fun _ hlatest => nomatch hlatest.1 }
  cursor := le_refl 0
  received :=
    { retained := rfl
      latest := fun _ hlatest => nomatch hlatest.1
      sorted := .nil
      bounded := nofun }
  pending := nofun

variable {polling : Polling}

theorem sound_step {after : Polling} {label : PollingLabel}
    (hsound : polling.Sound) (hcomplete : polling.complete label = true)
    (hstep : polling.step label = some after) : after.Sound := by
  cases label with
  | publish signal =>
    simp only [step, Option.some.injEq] at hstep
    subst hstep
    simp only [complete, unseenRetained, indexRoom, Bool.and_eq_true,
      Bool.or_eq_true, Bool.not_eq_true', decide_eq_true_eq, List.any_eq_true,
      Option.isNone_iff_eq_none] at hcomplete
    obtain ⟨⟨hquiet, hunseen⟩, hroom⟩ := hcomplete
    have hseq : (polling.store.publish signal).seq = polling.store.seq + 1 := rfl
    have hcursor := hsound.cursor
    constructor
    · apply hsound.store.publish
      · intro hkind
        exact of_decide_eq_true (hunseen.resolve_left (by simp [hkind]))
      · intro hkind
        have hplace := hroom.resolve_left (by simp [hkind])
        rwa [or_assoc] at hplace
    · dsimp only
      omega
    · apply hsound.received.of_published
      exact Nat.lt_succ_of_le hcursor
    · intro signals hpending
      dsimp only at hpending
      have hkind := hquiet.resolve_left (by simp [hpending])
      have hlater : polling.store.seq <
          (signal.withSeq (polling.store.seq + 1)).seq := Nat.lt_succ_self _
      have hreturns := (hsound.pending signals hpending).of_published hlater
      apply hreturns.widen (Nat.le_succ _)
      intro found hfound hlater
      rw [List.mem_append, List.mem_singleton] at hfound
      cases hfound with
      | inl hold =>
        have hbound := hsound.store.bounded found hold
        omega
      | inr hlast =>
        rw [hlast]
        exact hkind
  | readSignals limit =>
    simp only [complete, decide_eq_true_eq] at hcomplete
    simp only [step] at hstep
    split at hstep
    · cases hstep
    cases hstep
    refine ⟨hsound.store, hsound.cursor, hsound.received, ?_⟩
    rintro signals ⟨⟩
    unfold SignalStore.since
    rw [List.take_of_length_le hcomplete]
    exact hsound.store.returns_unseen
  | readCursor =>
    simp only [step] at hstep
    split at hstep
    · cases hstep
    next signals hpending =>
    cases hstep
    have hreturns := hsound.pending signals hpending
    refine ⟨hsound.store.later_cursor hsound.cursor, le_refl _, ?_, nofun⟩
    exact hsound.received.append hsound.store.sorted hreturns (Nat.zero_le _)
      hsound.cursor

theorem sound_run {maxlen : ℕ}
    (hrun : GuardedRun step (fun polling label => polling.complete label = true)
      (initial maxlen) polling) : polling.Sound :=
  hrun.invariant Sound (sound_initial maxlen)
    fun _ _ _ hsound hcomplete hstep => sound_step hsound hcomplete hstep

/-- Whatever was published up to the cursor was received: the retained signals
once and in order, the latest readiness of each resource. -/
theorem Sound.received_up_to_cursor (hsound : polling.Sound) :
    polling.received.filter ResourceSignal.isRetained =
      (polling.log.filter ResourceSignal.isRetained).filter
        (fun signal => signal.seq ≤ polling.cursor) ∧
    ∀ signal, IsLatest polling.log signal → signal.seq ≤ polling.cursor →
      signal ∈ polling.received := by
  constructor
  · rw [hsound.received.retained]
    apply List.filter_congr
    intro found hfound
    have hbound := hsound.store.bounded found (List.mem_filter.mp hfound).1
    rw [decide_eq_decide]
    omega
  · intro signal hlatest hbefore
    exact hsound.received.latest signal hlatest
      (hsound.store.bounded signal hlatest.1).1 hbefore

theorem Sound.received_all (hsound : polling.Sound)
    (hcursor : polling.cursor = polling.store.seq) :
    polling.received.filter ResourceSignal.isRetained =
      polling.log.filter ResourceSignal.isRetained ∧
    ∀ signal, IsLatest polling.log signal → signal ∈ polling.received := by
  obtain ⟨hretained, hlatest⟩ := hsound.received_up_to_cursor
  constructor
  · rw [hretained, hcursor, List.filter_eq_self]
    intro found hfound
    rw [decide_eq_true_eq]
    exact (hsound.store.bounded found (List.mem_filter.mp hfound).1).2
  · intro signal hfound
    apply hlatest signal hfound
    rw [hcursor]
    exact (hsound.store.bounded signal hfound.1).2

/-- Polling misses nothing where no answer is cut, nothing is published between
the two sections of a call and nothing is trimmed before it was returned. -/
theorem complete_polls_miss_nothing {maxlen : ℕ} {polling : Polling}
    (hrun : GuardedRun step (fun polling label => polling.complete label = true)
      (initial maxlen) polling) :
    polling.received.Pairwise (fun first second => first.seq < second.seq) ∧
    polling.received.filter ResourceSignal.isRetained =
      (polling.log.filter ResourceSignal.isRetained).filter
        (fun signal => signal.seq ≤ polling.cursor) ∧
    ∀ limit reading after,
      polling.complete (.readSignals limit) = true →
      polling.step (.readSignals limit) = some reading →
      reading.step .readCursor = some after →
      after.received.filter ResourceSignal.isRetained =
        after.log.filter ResourceSignal.isRetained ∧
      ∀ signal, IsLatest after.log signal → signal ∈ after.received := by
  have hsound := sound_run hrun
  refine ⟨hsound.received.sorted, hsound.received_up_to_cursor.1, ?_⟩
  intro limit reading after hcomplete hsignals hcursor
  have hafter := sound_step (sound_step hsound hcomplete hsignals) rfl hcursor
  apply hafter.received_all
  simp only [step] at hcursor
  split at hcursor
  · cases hcursor
  · cases hcursor
    rfl

def sampleFailure (reason : String) : ResourceSignal where
  seq := 0
  nodeInstanceId := "node-1"
  resourceKind := "service"
  resourceId := "svc-1"
  epoch := 1
  signalType := .failure
  state := "FAILED"
  reason := reason

/-- Three signals and two calls, with limits that are large enough. -/
theorem sample_polls_miss_nothing :
    ∃ polling : Polling,
      polling.received.map ResourceSignal.reason = ["first", "second", "third"] ∧
      polling.received.Pairwise fun first second => first.seq < second.seq := by
  have hrun : (checkedRun step
      (fun polling label => polling.complete label = true) (initial 2)
      [.publish (sampleFailure "first"), .publish (sampleFailure "second"),
        .readSignals 2, .readCursor, .publish (sampleFailure "third"),
        .readSignals 100, .readCursor]).any (fun polling =>
          polling.received.map ResourceSignal.reason =
            ["first", "second", "third"]) = true := by decide +kernel
  rw [Option.any_eq_true] at hrun
  obtain ⟨polling, hpolling, hreasons⟩ := hrun
  have hwhole := complete_polls_miss_nothing
    (guardedRun_of_checkedRun _ hpolling)
  exact ⟨polling, of_decide_eq_true hreasons, hwhole.1⟩

theorem never_received {after : Polling} {signal : ResourceSignal}
    (hrun : Reachable step polling after)
    (hpassed : signal.seq ≤ polling.cursor)
    (hcursor : polling.cursor ≤ polling.store.seq)
    (hpending : polling.pending = none) (hmissed : signal ∉ polling.received) :
    signal ∉ after.received := by
  have hgood : signal.seq ≤ after.cursor ∧ after.cursor ≤ after.store.seq ∧
      (∀ signals, after.pending = some signals → signal ∉ signals) ∧
      signal ∉ after.received := by
    apply hrun.invariant (fun polling => signal.seq ≤ polling.cursor ∧
      polling.cursor ≤ polling.store.seq ∧
      (∀ signals, polling.pending = some signals → signal ∉ signals) ∧
      signal ∉ polling.received)
    · refine ⟨hpassed, hcursor, ?_, hmissed⟩
      intro signals hsome
      rw [hpending] at hsome
      cases hsome
    · intro before label next hbefore _ hstep
      obtain ⟨hseen, hbound, hanswer, hnot⟩ := hbefore
      cases label with
      | publish published =>
        simp only [step, Option.some.injEq] at hstep
        subst hstep
        exact ⟨hseen, hbound.trans (Nat.le_succ _), hanswer, hnot⟩
      | readSignals limit =>
        simp only [step] at hstep
        split at hstep
        · cases hstep
        cases hstep
        refine ⟨hseen, hbound, ?_, hnot⟩
        rintro signals ⟨⟩ hmem
        have hunseen := List.mem_of_mem_take hmem
        unfold SignalStore.unseen at hunseen
        rw [mem_sortedBySeq, List.mem_filter, decide_eq_true_eq] at hunseen
        omega
      | readCursor =>
        simp only [step] at hstep
        split at hstep
        · cases hstep
        next signals hsome =>
        cases hstep
        refine ⟨hseen.trans hbound, le_refl _, nofun, ?_⟩
        rw [List.mem_append]
        exact not_or.mpr ⟨hnot, hanswer signals hsome⟩
  exact hgood.2.2.2

/-- One call with limit 1 behind two signals: the second is lost. -/
theorem second_signal_lost :
    ∃ polling : Polling, Reachable step (initial 2000) polling ∧
      polling.log.map ResourceSignal.reason = ["first", "second"] ∧
      ∃ signal ∈ polling.log, signal.isRetained = true ∧
        ∀ after, Reachable step polling after → signal ∉ after.received := by
  have hrun : (runLabels step (initial 2000)
      [.publish (sampleFailure "first"), .publish (sampleFailure "second"),
        .readSignals 1, .readCursor]).any (fun polling =>
          polling.log.map ResourceSignal.reason = ["first", "second"] ∧
          (sampleFailure "second").withSeq 2 ∈ polling.log ∧
          2 ≤ polling.cursor ∧ polling.cursor ≤ polling.store.seq ∧
          polling.pending.isNone = true ∧
          (sampleFailure "second").withSeq 2 ∉ polling.received) = true := by
    decide +kernel
  rw [Option.any_eq_true] at hrun
  obtain ⟨polling, hpolling, hfacts⟩ := hrun
  obtain ⟨hlog, hmem, hpassed, hcursor, hpending, hmissed⟩ :=
    of_decide_eq_true hfacts
  refine ⟨polling, reachable_of_runLabels _ hpolling, hlog, _, hmem, rfl, ?_⟩
  intro after hlater
  exact never_received hlater hpassed hcursor
    (Option.isNone_iff_eq_none.mp hpending) hmissed

end Polling

end PycloudParallel.ResourceSignals
