import PycloudParallel.ManagedGlobalsUpdates

/-!
# Updates of managed globals are not lost

In a run whose merges are all made from an up-to-date snapshot, the digest that
is shown once every call is over names, for each global, the value of an update
that no other update of it follows.
-/

namespace PycloudParallel.ManagedGlobals

namespace GlobalsStore

variable (json : JsonText)

def settled (store : GlobalsStore) : Bool :=
  (OrderedDict.values store.updates).all fun update =>
    match update.progress with
    | .returned | .raised => true
    | _ => false

def Updated (store : GlobalsStore) (name : Name) (id : UpdateId)
    (update : Update) : Prop :=
  store.updates.lookup id = some update ∧ update.progress = .returned ∧
    name ∈ update.request.values

/-- The digest names, for each declared global, the value of a successful
update that no other update of it follows, and nothing for a global that was
not updated. -/
def NamesLastUpdates (store : GlobalsStore) (digest : GlobalsDigest) : Prop :=
  ∀ name ∈ store.allowedNames,
    ((∃ id update, store.Updated name id update) →
      ∃ id update, store.Updated name id update ∧
        update.request.change json name ≠ none ∧
        store.snapshot json digest name = update.request.change json name ∧
        ∀ later other, store.Updated name later other → id ∉ other.before) ∧
    ((¬∃ id update, store.Updated name id update) →
      store.snapshot json digest name = none)

def refusedStep (store : GlobalsStore) (label : UpdateId × UpdateMove) : Bool :=
  match store.updates.lookup label.1, label.2 with
  | none, .start request => request.refused store.allowedNames
  | some update, _ => update.request.refused store.allowedNames
  | none, _ => false

variable {json}

theorem kept_initial (kind : ScopeKind) (allowedNames : List Name) :
    Kept json (initial kind allowedNames) := by
  constructor
  · cases kind <;> rfl
  · cases kind <;> rfl
  · exact le_rfl
  · intro id hid
    cases hid
  · intro id hid
    cases hid
  · intro _
    rfl
  · intro id update hupdate
    cases hupdate
  · intro id update hupdate
    cases hupdate
  · intro id update hupdate
    cases hupdate
  · exact List.nodup_nil
  · exact List.Pairwise.nil

variable {store : GlobalsStore}

theorem over_of_settled (hsettled : store.settled = true) {id : UpdateId}
    {update : Update} (hupdate : store.updates.lookup id = some update) :
    update.progress = .returned ∨ update.progress = .raised := by
  have hover := List.all_eq_true.mp hsettled update
    (OrderedDict.mem_values.mpr ⟨id, hupdate⟩)
  cases hprogress : update.progress <;> simp_all

theorem Kept.mem_commits (hkept : Kept json store)
    (hsettled : store.settled = true) {id : UpdateId} :
    id ∈ store.commits ↔
      ∃ update, store.updates.lookup id = some update ∧
        update.progress = .returned := by
  constructor
  · intro hid
    obtain ⟨update, hupdate⟩ :=
      OrderedDict.mem_iff_lookup.mp (hkept.present id hid)
    refine ⟨update, hupdate, ?_⟩
    cases over_of_settled hsettled hupdate with
    | inl hreturned => exact hreturned
    | inr hraised =>
      have hfits := hkept.fits id update hupdate
      simp only [UpdateFits, hraised] at hfits
      exact absurd hid hfits
  · rintro ⟨update, hupdate, hreturned⟩
    have hfits := hkept.fits id update hupdate
    simp only [UpdateFits, hreturned] at hfits
    exact published_subset store id hfits.2

theorem Kept.published_eq (hkept : Kept json store)
    (hsettled : store.settled = true) : store.published = store.commits := by
  cases hkind : store.kind with
  | service => simp [published, hkind]
  | runtime =>
    simp only [published, hkind]
    apply List.take_of_length_le
    by_contra hshort
    -- the last commit would be shown, so it would stand twice in the list
    have hlast : store.commits.length - 1 < store.commits.length := by omega
    have hid : store.commits[store.commits.length - 1] ∈ store.commits :=
      List.getElem_mem hlast
    obtain ⟨update, hupdate, hreturned⟩ := (hkept.mem_commits hsettled).mp hid
    have hfits := hkept.fits _ update hupdate
    simp only [UpdateFits, hreturned, published, hkind] at hfits
    obtain ⟨i, hi, heq⟩ := List.getElem_of_mem hfits.2
    rw [List.length_take] at hi
    rw [List.getElem_take] at heq
    have hnodup : store.commits.Nodup := hkept.nodup
    have hsame := hnodup.getElem_inj_iff.mp heq
    omega

theorem Kept.namesLastUpdates (hkept : Kept json store)
    (hsettled : store.settled = true) {digest : GlobalsDigest}
    (hnames : Names store.files store.allowedNames digest
      (store.merged json store.commits)) :
    store.NamesLastUpdates json digest := by
  have hsnapshot : store.snapshot json digest =
      store.merged json store.commits := by
    unfold snapshot
    rw [hnames.load ((storable_empty json _).overlayAll hkept.storable)]
    rfl
  have hgiven : ∀ {id update name}, store.updates.lookup id = some update →
      update.progress = .returned →
      (store.change json id name ≠ none ↔ name ∈ update.request.values) := by
    intro id update name hupdate hreturned
    rw [change_of_lookup hupdate]
    have hfits := hkept.fits id update hupdate
    simp only [UpdateFits, hreturned] at hfits
    constructor
    · intro hvalue
      obtain ⟨value, hvalue⟩ := Option.ne_none_iff_exists'.mp hvalue
      obtain ⟨given, hlookup, -⟩ := UpdateRequest.mem_of_change hvalue
      exact OrderedDict.mem_iff_lookup.mpr ⟨given, hlookup⟩
    · exact UpdateRequest.change_ne_none hfits.1
  intro name _
  rw [hsnapshot]
  constructor
  · rintro ⟨id, update, hupdate, hreturned, hname⟩
    have hid := (hkept.mem_commits hsettled).mpr ⟨update, hupdate, hreturned⟩
    obtain ⟨before, last, after, hsplit, hvalue, hmerged, hafter⟩ :=
      overlayAll_last (fun _ => none)
        ⟨id, hid, (hgiven hupdate hreturned).mpr hname⟩
    have hlast : last ∈ store.commits := by simp [hsplit]
    obtain ⟨found, hfound, hdone⟩ := (hkept.mem_commits hsettled).mp hlast
    refine ⟨last, found, ⟨hfound, hdone, (hgiven hfound hdone).mp hvalue⟩,
      ?_, ?_, ?_⟩
    · rw [← change_of_lookup hfound]
      exact hvalue
    · rw [← change_of_lookup hfound]
      exact hmerged
    · rintro later other ⟨hother, hover, hmentions⟩ hmem
      have hlater :=
        (hkept.mem_commits hsettled).mpr ⟨other, hother, hover⟩
      rw [hsplit, List.mem_append, List.mem_cons] at hlater
      rcases hlater with hbefore | rfl | hbehind
      · have horder := hkept.order
        rw [hsplit, List.pairwise_append] at horder
        exact horder.2.2 later hbefore last (by simp) other hother hmem
      · exact (hkept.before later other hother later hmem).1 rfl
      · exact (hgiven hother hover).mpr hmentions (hafter later hbehind)
  · intro hnone
    apply overlayAll_of_none
    intro id hid
    obtain ⟨update, hupdate, hreturned⟩ := (hkept.mem_commits hsettled).mp hid
    by_contra hvalue
    exact hnone ⟨id, update, hupdate, hreturned,
      (hgiven hupdate hreturned).mp hvalue⟩

theorem Kept.refused_unchanged {t : GlobalsStore}
    {label : UpdateId × UpdateMove} (hkept : Kept json store)
    (hok : store.keepsUpdates json label = true)
    (hrefused : store.refusedStep label = true)
    (hstep : store.step json label = some t) :
    t.sessionDigest = store.sessionDigest ∧
      t.runtimeDigest = store.runtimeDigest ∧ t.files = store.files := by
  obtain ⟨id, move⟩ := label
  simp only [GlobalsStore.step] at hstep
  simp only [refusedStep] at hrefused
  simp only [keepsUpdates] at hok
  cases hupdate : store.updates.lookup id with
  | none =>
    simp only [hupdate] at hstep hrefused
    split at hstep
    · rename_i request _
      cases hstep
      have hnames : request.refused store.allowedNames = true := hrefused
      simp only [hnames, Bool.not_true, Bool.or_false,
        Bool.and_eq_true] at hok
      simp [GlobalsStore.startUpdate, ensureManagedGlobalsState, hok.2,
        setUpdate]
    · cases hstep
    · next heq => cases heq
  | some update =>
    simp only [hupdate] at hstep hrefused
    have hfits := hkept.fits id update hupdate
    -- an update that got past the writing was not refused
    have hcontra : update.request.unknown store.allowedNames = false →
        (update.request.changes json).isSome = true → False := by
      intro hknown hsome
      obtain ⟨changes, hchanges⟩ := Option.isSome_iff_exists.mp hsome
      rw [UpdateRequest.not_refused hchanges hknown] at hrefused
      cases hrefused
    unfold updateStep at hstep
    split at hstep
    · cases hstep
      unfold GlobalsStore.loadUpdate
      split
      · exact ⟨rfl, rfl, rfl⟩
      · split <;> exact ⟨rfl, rfl, rfl⟩
    · next base hprogress =>
      cases hstep
      simp only [UpdateFits, hprogress] at hfits
      unfold GlobalsStore.writeUpdate
      split
      · exact ⟨rfl, rfl, rfl⟩
      · next changes hchanges =>
        exact absurd (by simp [hchanges]) (hcontra hfits.1)
    · next base hprogress =>
      simp only [UpdateFits, hprogress] at hfits
      exact absurd hfits.2.1 (hcontra hfits.1)
    · next base digest age hprogress =>
      simp only [UpdateFits, hprogress] at hfits
      exact absurd hfits.2.1 (hcontra hfits.1)
    · cases hstep
      exact ⟨rfl, rfl, rfl⟩
    · cases hstep

/-- No update is lost while every merge is made from an up-to-date snapshot,
no pool shows an older digest than it did, no JSON value uses the reserved key
and no warmup raises; a refused call on a scope that has its state changes
nothing. -/
theorem updates_notLost (json : JsonText) (kind : ScopeKind)
    (allowedNames : List Name) {store : GlobalsStore}
    (hrun : GuardedRun (GlobalsStore.step json)
      (fun store label => store.keepsUpdates json label = true)
      (initial kind allowedNames) store) :
    (store.settled = true →
      store.NamesLastUpdates json store.sessionDigest ∧
        store.NamesLastUpdates json store.committedDigest) ∧
    ∀ label t, store.keepsUpdates json label = true →
      store.refusedStep label = true → store.step json label = some t →
        t.sessionDigest = store.sessionDigest ∧
          t.runtimeDigest = store.runtimeDigest ∧ t.files = store.files := by
  have hkept : Kept json store :=
    hrun.invariant (Kept json) (kept_initial kind allowedNames)
      fun _ _ _ hgood hok hstep => hgood.step hok hstep
  constructor
  · intro hsettled
    constructor
    · apply hkept.namesLastUpdates hsettled
      rw [← hkept.published_eq hsettled]
      exact hkept.session
    · exact hkept.namesLastUpdates hsettled hkept.committed
  · intro label t hok hrefused hstep
    exact hkept.refused_unchanged hok hrefused hstep

def stableText : JsonText where
  stable source := if source = "" then none else some source
  stable_idem := by
    intro source text hstable
    split at hstable
    · cases hstable
    · next hne =>
      cases hstable
      simp [hne]
  stable_empty := rfl

def jsonUpdate (name : Name) (text : String) : UpdateRequest where
  serializationMode := "structured_v1"
  values := AList.singleton name (.data (some text) none)

def separateUpdates : List (UpdateId × UpdateMove) :=
  [(1, .start (jsonUpdate "a" "1")), (1, .load), (1, .write), (1, .point),
    (1, .publish), (1, .warmup false),
    (2, .start (jsonUpdate "b" "2")), (2, .load), (2, .write), (2, .point),
    (2, .publish), (2, .warmup false)]

theorem updates_notLost_separate :
    ∃ store, GuardedRun (GlobalsStore.step stableText)
        (fun store label => store.keepsUpdates stableText label = true)
        (initial .service ["a", "b"]) store ∧
      store.settled = true ∧
      store.snapshot stableText store.sessionDigest "a" = some (.json "1") ∧
      store.snapshot stableText store.sessionDigest "b" = some (.json "2") ∧
      store.NamesLastUpdates stableText store.sessionDigest := by
  refine ⟨_, guardedRun_of_checkedRun separateUpdates rfl, by decide, by decide,
    by decide, ?_⟩
  exact ((updates_notLost stableText .service ["a", "b"]
    (guardedRun_of_checkedRun separateUpdates rfl)).1 (by decide)).1

def overlappingUpdates : List (UpdateId × UpdateMove) :=
  [(1, .start (jsonUpdate "a" "1")), (2, .start (jsonUpdate "b" "2")),
    (1, .load), (2, .load), (1, .write), (1, .point), (1, .publish),
    (2, .write), (2, .point), (2, .publish), (1, .warmup false),
    (2, .warmup false)]

/-- Of two overlapping updates of different globals one is lost. -/
theorem overlapping_update_lost :
    ∃ store, Reachable (GlobalsStore.step stableText)
        (initial .service ["a", "b"]) store ∧
      store.settled = true ∧
      (∃ update, store.Updated "a" 1 update) ∧
      store.snapshot stableText store.sessionDigest "a" = none ∧
      ¬store.NamesLastUpdates stableText store.sessionDigest := by
  refine ⟨_, reachable_of_runLabels overlappingUpdates rfl, by decide,
    ⟨_, rfl, rfl, by decide⟩, by decide, ?_⟩
  intro hlast
  obtain ⟨id, update, -, hgiven, hsnapshot, -⟩ :=
    (hlast "a" (by decide)).1 ⟨1, _, rfl, rfl, by decide⟩
  rw [← hsnapshot] at hgiven
  exact hgiven (by decide)

end GlobalsStore

end PycloudParallel.ManagedGlobals
