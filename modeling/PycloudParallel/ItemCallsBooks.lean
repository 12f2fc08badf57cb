import PycloudParallel.ItemCallsModel

/-!
# The books of the calls

What holds of the calls of an iteration, whichever variant makes them.
-/

namespace PycloudParallel.ServiceItems

variable {δ ρ : Type*}

@[simp] theorem index_item (batch : Batch δ ρ) (idx : ℕ) :
    (batch.item idx).index = idx := by
  rw [Batch.item]
  split <;> rfl

theorem limit_pos (batch : Batch δ ρ) : 1 ≤ batch.limit := by
  have hresolved : ∀ limit : ℤ, 1 ≤ (max 1 limit).toNat := by omega
  simp only [Batch.limit, resolveGroupMaxInFlight]
  split
  · exact hresolved _
  · split <;> exact hresolved _

def Phase.weight (fresh : ℕ) : Phase → ℕ
  | .fresh => fresh
  | .active => 1
  | .suspended => 2
  | _ => 0

namespace Calls

variable {calls : Calls δ ρ}

def weight (calls : Calls δ ρ) : ℕ :=
  4 * calls.waiting.length + 3 * calls.running.length + 2 * calls.finished.length

variable {idx : ℕ}

theorem weight_begin [EmptyCollection δ] (batch : Batch δ ρ) {rest : List ℕ}
    (hwaiting : calls.waiting = idx :: rest) :
    (calls.begin batch idx rest).weight < calls.weight := by
  simp only [weight, begin, hwaiting, List.length_cons, List.length_append,
    List.length_nil]
  omega

theorem weight_finish (hrunning : idx ∈ calls.running) :
    (calls.finish idx).weight < calls.weight := by
  have hlength := List.length_erase_of_mem hrunning
  have hpos := List.length_pos_of_mem hrunning
  simp only [weight, finish, hlength, List.length_append, List.length_singleton]
  omega

theorem weight_deliver (batch : Batch δ ρ) (hfinished : idx ∈ calls.finished) :
    (calls.deliver batch idx).weight + 2 = calls.weight := by
  have hlength := List.length_erase_of_mem hfinished
  have hpos := List.length_pos_of_mem hfinished
  simp only [weight, deliver, hlength]
  omega

theorem pending_ne_nil_of_waiting {rest : List ℕ}
    (hwaiting : calls.waiting = idx :: rest) : calls.pending ≠ [] := by
  simp [pending, hwaiting]

theorem pending_ne_nil_of_running (hrunning : idx ∈ calls.running) :
    calls.pending ≠ [] := by
  intro hnil
  simp only [pending, List.append_eq_nil_iff] at hnil
  rw [hnil.1.2] at hrunning
  cases hrunning

end Calls

/-! ## The invariant -/

variable [EmptyCollection δ] {batch : Batch δ ρ} {calls : Calls δ ρ}

namespace Calls

def ids (calls : Calls δ ρ) : List ℕ :=
  calls.waiting ++ calls.made.map Prod.fst

structure Kept (batch : Batch δ ρ) (calls : Calls δ ρ) : Prop where
  made_perm : (calls.made.map Prod.fst).Perm
    (calls.running ++ calls.finished ++ calls.items.map ExecutionItem.index)
  nodup : calls.ids.Nodup
  ids_lt : ∀ idx ∈ calls.ids, idx < batch.count
  payloads : ∀ call ∈ calls.made, call.2 = batch.payload call.1
  items : ∀ item ∈ calls.items, item = batch.item item.index
  within_limit : calls.running.length ≤ batch.limit

theorem kept_none (batch : Batch δ ρ) : (none : Calls δ ρ).Kept batch :=
  ⟨.refl _, List.nodup_nil, by simp [none, ids], by simp [none], by simp [none],
    Nat.zero_le _⟩

variable {idx : ℕ}

theorem Kept.submit (hkept : calls.Kept batch) (hlt : idx < batch.count)
    (hnew : idx ∉ calls.ids) :
    Kept batch { calls with waiting := calls.waiting ++ [idx] } := by
  refine ⟨hkept.made_perm, ?_, ?_, hkept.payloads, hkept.items, hkept.within_limit⟩
  · have hperm : ((calls.waiting ++ [idx]) ++ calls.made.map Prod.fst).Perm
        (idx :: calls.ids) := by
      rw [List.append_assoc]
      exact List.perm_middle
    exact hperm.nodup_iff.mpr (List.nodup_cons.mpr ⟨hnew, hkept.nodup⟩)
  · intro other hother
    simp only [ids, List.mem_append, List.mem_singleton] at hother
    obtain (hwaiting | rfl) | hmade := hother
    · exact hkept.ids_lt other (List.mem_append_left _ hwaiting)
    · exact hlt
    · exact hkept.ids_lt other (List.mem_append_right _ hmade)

theorem ids_begin (batch : Batch δ ρ) {rest : List ℕ}
    (hwaiting : calls.waiting = idx :: rest) :
    (calls.begin batch idx rest).ids.Perm calls.ids := by
  simp only [ids, begin, hwaiting, List.map_append, List.map_cons, List.map_nil,
    ← List.append_assoc, List.cons_append]
  exact List.perm_append_singleton _ _

variable (hkept : calls.Kept batch)

include hkept

theorem Kept.begin {rest : List ℕ} (hwaiting : calls.waiting = idx :: rest)
    (hroom : calls.running.length < batch.limit) :
    (calls.begin batch idx rest).Kept batch := by
  have hids := ids_begin batch hwaiting
  refine ⟨?_, hids.nodup_iff.mpr hkept.nodup, ?_, ?_, hkept.items, ?_⟩
  · simp only [Calls.begin, List.map_append, List.map_cons, List.map_nil]
    have hnew : (calls.made.map Prod.fst ++ [idx]).Perm
        ((calls.running ++ calls.finished ++ calls.items.map ExecutionItem.index) ++
          [idx]) := hkept.made_perm.append_right _
    have hlast : ((calls.finished ++ calls.items.map ExecutionItem.index) ++
        [idx]).Perm ([idx] ++ (calls.finished ++
          calls.items.map ExecutionItem.index)) := List.perm_append_comm
    refine hnew.trans ?_
    simpa only [List.append_assoc] using hlast.append_left calls.running
  · exact fun other hother => hkept.ids_lt other (hids.mem_iff.mp hother)
  · intro call hcall
    simp only [Calls.begin, List.mem_append, List.mem_singleton] at hcall
    obtain hold | rfl := hcall
    · exact hkept.payloads call hold
    · rfl
  · simp only [Calls.begin, List.length_append, List.length_singleton]
    exact hroom

theorem Kept.finish (hrunning : idx ∈ calls.running)
    : (calls.finish idx).Kept batch := by
  refine ⟨?_, hkept.nodup, hkept.ids_lt, hkept.payloads, hkept.items, ?_⟩
  · refine hkept.made_perm.trans ?_
    simp only [Calls.finish]
    refine List.Perm.append_right _ ?_
    have hrun := List.perm_cons_erase hrunning
    refine (hrun.append_right calls.finished).trans ?_
    rw [List.cons_append, ← List.append_assoc]
    exact (List.perm_append_singleton _ _).symm
  · simp only [Calls.finish]
    exact Nat.le_trans (List.length_erase_le ..) hkept.within_limit

theorem Kept.deliver (hfinished : idx ∈ calls.finished) :
    (calls.deliver batch idx).Kept batch := by
  refine ⟨?_, hkept.nodup, hkept.ids_lt, hkept.payloads, ?_, hkept.within_limit⟩
  · refine hkept.made_perm.trans ?_
    simp only [Calls.deliver, List.map_append, List.map_cons, List.map_nil, index_item]
    have hfin := List.perm_cons_erase hfinished
    rw [List.append_assoc, List.append_assoc]
    refine List.Perm.append_left _ ((hfin.append_right _).trans ?_)
    rw [← List.append_assoc]
    exact (List.perm_append_singleton _ _).symm
  · intro item hitem
    simp only [Calls.deliver, List.mem_append, List.mem_singleton] at hitem
    obtain hold | rfl := hitem
    · exact hkept.items item hold
    · rw [index_item]

theorem Kept.dropWaiting : Kept batch { calls with waiting := [] } := by
  refine ⟨hkept.made_perm, ?_, ?_, hkept.payloads, hkept.items, hkept.within_limit⟩
  · exact hkept.nodup.of_append_right
  · exact fun idx hidx => hkept.ids_lt idx (List.mem_append_right _ hidx)

theorem Kept.delivers {phase : Phase}
    (hended : phase = .ended → calls.pending = [] ∧
      calls.ids.Perm (List.range batch.count)) (hraised : phase ≠ .raised) :
    Delivers batch calls phase := by
  refine ⟨hkept.nodup.of_append_right, ?_, ?_, ?_, ?_, hkept.within_limit, hraised⟩
  · intro call hcall
    exact ⟨hkept.ids_lt _ (List.mem_append_right _ (List.mem_map_of_mem hcall)),
      hkept.payloads call hcall⟩
  · intro item hitem
    refine ⟨hkept.items item hitem, hkept.made_perm.mem_iff.mpr ?_⟩
    exact List.mem_append_right _ (List.mem_map_of_mem hitem)
  · have hmade : (calls.made.map Prod.fst).Nodup := hkept.nodup.of_append_right
    exact (hkept.made_perm.nodup_iff.mp hmade).of_append_right
  · intro hphase
    obtain ⟨hpending, hall⟩ := hended hphase
    simp only [pending, List.append_eq_nil_iff] at hpending
    obtain ⟨⟨hwaiting, hrunning⟩, hfinished⟩ := hpending
    have hmade := hkept.made_perm
    rw [hrunning, hfinished] at hmade
    rw [ids, hwaiting] at hall
    exact hmade.symm.trans hall

end Calls

def Batch.value (batch : Batch δ ρ) (idx : ℕ) : Option ρ :=
  (batch.item idx).value

theorem items_perm {phase : Phase} (hdelivers : Delivers batch calls phase)
    (hended : phase = .ended) :
    calls.items.Perm ((List.range batch.count).map batch.item) := by
  have hitems : calls.items =
      (calls.items.map ExecutionItem.index).map batch.item := by
    rw [List.map_map]
    refine (List.map_id _).symm.trans (List.map_congr_left ?_)
    exact fun item hitem => (hdelivers.items item hitem).1
  rw [hitems]
  exact (hdelivers.complete hended).map _

theorem mapCalls_eq {phase : Phase} (hdelivers : Delivers batch calls phase)
    (hended : phase = .ended) :
    mapCalls calls.items = (List.range batch.count).map batch.value := by
  have hperm := items_perm hdelivers hended
  have hsorted : calls.items.insertionSort
      (fun first second => first.index ≤ second.index) =
      (List.range batch.count).map batch.item := by
    have htotal : Std.Total fun first second : ExecutionItem ρ =>
        first.index ≤ second.index := ⟨fun _ _ => Nat.le_total _ _⟩
    have htrans : IsTrans (ExecutionItem ρ) fun first second =>
        first.index ≤ second.index := ⟨fun _ _ _ => Nat.le_trans⟩
    refine List.Perm.eq_of_pairwise ?_ (List.pairwise_insertionSort _ _) ?_
      ((List.perm_insertionSort _ _).trans hperm)
    · intro first second hfirst hsecond hle hge
      rw [List.mem_insertionSort] at hfirst
      obtain ⟨idx, -, rfl⟩ := List.mem_map.mp hsecond
      rw [(hdelivers.items first hfirst).1, Nat.le_antisymm hle hge, index_item]
    · refine List.pairwise_map.mpr (List.pairwise_lt_range.imp ?_)
      intro first second hless
      simpa using Nat.le_of_lt hless
  rw [mapCalls, hsorted, List.map_map]
  rfl

end PycloudParallel.ServiceItems
