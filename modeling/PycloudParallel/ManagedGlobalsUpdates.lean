import PycloudParallel.FoundationGuardedRun
import PycloudParallel.ManagedGlobalsFiles

/-!
# Which updates of managed globals survive

Every merge that becomes the current one is laid over those before it, as long
as it was made from a snapshot that agrees with the current one off its own
names.  Then the last update of each name decides its value.
-/

namespace PycloudParallel.ManagedGlobals

open OrderedDict

variable {json : JsonText}

namespace UpdateRequest

def change (json : JsonText) (request : UpdateRequest) : Snapshot :=
  fun name => (request.values.lookup name).bind
    (GivenValue.serialize json request.serializationMode)

def plain (request : UpdateRequest) : Bool :=
  isPickleMode request.serializationMode ||
    (OrderedDict.values request.values).all fun value =>
      match value with
      | .reserved _ _ _ => false
      | .callable | .data _ _ => true

variable {request : UpdateRequest}

theorem changes_eq {changes : Snapshot}
    (hchanges : request.changes json = some changes) :
    changes = request.change json := by
  simp only [UpdateRequest.changes] at hchanges
  split at hchanges
  · exact (Option.some.inj hchanges).symm
  · cases hchanges

theorem mem_of_change {name : Name} {value : SerializedValue}
    (hvalue : request.change json name = some value) :
    ∃ given, request.values.lookup name = some given ∧
      given.serialize json request.serializationMode = some value := by
  unfold change at hvalue
  exact Option.bind_eq_some_iff.mp hvalue

theorem serialize_storable {given : GivenValue} {mode : String}
    {value : SerializedValue} (hvalue : given.serialize json mode = some value)
    (hplain : isPickleMode mode = false →
      ∀ codec payload pickle, given ≠ .reserved codec payload pickle) :
    value.Storable json := by
  cases given with
  | callable => cases hvalue
  | data text pickle =>
    simp only [GivenValue.serialize] at hvalue
    split at hvalue
    · next hmode =>
      obtain ⟨payload, -, rfl⟩ := Option.map_eq_some_iff.mp hvalue
      exact hmode
    · obtain ⟨stable, hstable, rfl⟩ := Option.map_eq_some_iff.mp hvalue
      obtain ⟨source, -, hsource⟩ := Option.bind_eq_some_iff.mp hstable
      exact json.stable_idem hsource
  | reserved codec payload pickle =>
    simp only [GivenValue.serialize] at hvalue
    split at hvalue
    · next hmode =>
      obtain ⟨bytes, -, rfl⟩ := Option.map_eq_some_iff.mp hvalue
      exact hmode
    · next hmode =>
      exact absurd rfl (hplain (by simpa using hmode) codec payload pickle)

theorem change_storable {allowedNames : List Name}
    (hplain : request.plain = true)
    (hknown : request.unknown allowedNames = false) :
    Storable json allowedNames (request.change json) := by
  intro name value hvalue
  obtain ⟨given, hgiven, hserialized⟩ := mem_of_change hvalue
  constructor
  · simp only [unknown, Bool.not_eq_false', List.all_eq_true,
      decide_eq_true_eq] at hknown
    exact hknown (name, given) (mem_items.mpr hgiven)
  · apply serialize_storable hserialized
    rintro hmode codec payload pickle rfl
    simp only [plain, hmode, Bool.false_or, List.all_eq_true] at hplain
    have hfalse := hplain _ (mem_values.mpr ⟨name, hgiven⟩)
    cases hfalse

theorem change_ne_none (hchanges : (request.changes json).isSome = true)
    {name : Name} (hname : name ∈ request.values) :
    request.change json name ≠ none := by
  simp only [UpdateRequest.changes] at hchanges
  split at hchanges
  · next hall =>
    obtain ⟨given, hgiven⟩ := mem_iff_lookup.mp hname
    have hsome := List.all_eq_true.mp hall given
      (mem_values.mpr ⟨name, hgiven⟩)
    intro hnone
    rw [change, hgiven, Option.bind_some] at hnone
    rw [hnone] at hsome
    cases hsome
  · cases hchanges

theorem not_refused {allowedNames : List Name} {changes : Snapshot}
    (hchanges : request.changes json = some changes)
    (hknown : request.unknown allowedNames = false) :
    request.refused allowedNames = false := by
  simp only [refused, hknown, Bool.false_or, List.any_eq_false,
    decide_eq_true_eq]
  rintro value hvalue rfl
  simp only [UpdateRequest.changes] at hchanges
  split at hchanges
  · next hall =>
    have hsome := List.all_eq_true.mp hall _ hvalue
    cases hsome
  · cases hchanges

end UpdateRequest

namespace GlobalsStore

variable (json)

def change (store : GlobalsStore) (id : UpdateId) : Snapshot :=
  match store.updates.lookup id with
  | none => fun _ => none
  | some update => update.request.change json

def merged (store : GlobalsStore) (ids : List UpdateId) : Snapshot :=
  overlayAll (store.change json) (fun _ => none) ids

/-- The current snapshot agrees with the one an update started from, off the
names of the update. -/
def mergesCurrent (store : GlobalsStore) (update : Update) (base : Snapshot) :
    Bool :=
  store.allowedNames.all fun name =>
    name ∈ update.request.values ||
      store.snapshot json store.committedDigest name = base name

def keepsUpdates (store : GlobalsStore) (label : UpdateId × UpdateMove) : Bool :=
  match label.2, store.updates.lookup label.1 with
  | .start request, _ =>
    request.plain && (store.ready || !request.refused store.allowedNames)
  | .write, some update =>
    match store.kind, update.progress with
    | .runtime, .loaded base => store.mergesCurrent json update base
    | _, _ => true
  | .publish, some update =>
    match store.kind, update.progress with
    | .service, .pointed base _ _ => store.mergesCurrent json update base
    | .runtime, .pointed _ _ age => store.sessionAge ≤ age
    | _, _ => true
  | .warmup raises, _ => !raises
  | _, _ => true

variable {json}

def published (store : GlobalsStore) : List UpdateId :=
  match store.kind with
  | .service => store.commits
  | .runtime => store.commits.take store.sessionAge

def UpdateFits (json : JsonText) (store : GlobalsStore) (id : UpdateId)
    (update : Update) : Prop :=
  let request := update.request
  let names := Names store.files store.allowedNames
  let known := request.unknown store.allowedNames = false
  let accepted := (request.changes json).isSome = true
  match update.progress with
  | .started =>
    id ∉ store.commits ∧
      ∃ values, Storable json store.allowedNames values ∧
        names update.ownDigest values
  | .loaded base =>
    known ∧ Storable json store.allowedNames base ∧ id ∉ store.commits
  | .written base =>
    known ∧ accepted ∧ Storable json store.allowedNames base ∧
      match store.kind with
      | .service =>
        id ∉ store.commits ∧
          names update.ownDigest (overlay base (request.change json))
      | .runtime => id ∈ store.commits
  | .pointed base digest age =>
    known ∧ accepted ∧ Storable json store.allowedNames base ∧
      match store.kind with
      | .service =>
        id ∉ store.commits ∧
          names digest (overlay base (request.change json))
      | .runtime =>
        age ≤ store.commits.length ∧ id ∈ store.commits.take age ∧
          names digest (store.merged json (store.commits.take age))
  | .published | .returned => accepted ∧ id ∈ store.published
  | .raised => id ∉ store.commits

structure Kept (json : JsonText) (store : GlobalsStore) : Prop where
  committed : Names store.files store.allowedNames store.committedDigest
    (store.merged json store.commits)
  session : Names store.files store.allowedNames store.sessionDigest
    (store.merged json store.published)
  sessionAge : store.sessionAge ≤ store.commits.length
  present : ∀ id ∈ store.commits, id ∈ store.updates
  storable : ∀ id ∈ store.commits,
    Storable json store.allowedNames (store.change json id)
  unready : store.ready = false → store.updates = ∅
  plain : ∀ id update, store.updates.lookup id = some update →
    update.request.plain = true
  fits : ∀ id update, store.updates.lookup id = some update →
    UpdateFits json store id update
  before : ∀ id update, store.updates.lookup id = some update →
    ∀ other ∈ update.before, other ≠ id ∧
      other ∈ store.returnedUpdates
  nodup : store.commits.Nodup
  order : store.commits.Pairwise fun first later =>
    ∀ update, store.updates.lookup first = some update →
      later ∉ update.before

variable {id : UpdateId} {store t : GlobalsStore} {update : Update}
  {added : List UpdateId} {base : Snapshot}

theorem mem_returnedUpdates :
    id ∈ store.returnedUpdates ↔
      ∃ update, store.updates.lookup id = some update ∧
        update.progress = .returned := by
  unfold returnedUpdates
  rw [List.mem_map]
  constructor
  · rintro ⟨⟨other, update⟩, hmem, rfl⟩
    rw [List.mem_filter] at hmem
    obtain ⟨hitem, hprogress⟩ := hmem
    refine ⟨update, mem_items.mp hitem, ?_⟩
    cases hcase : update.progress <;> simp_all
  · rintro ⟨update, hupdate, hprogress⟩
    refine ⟨(id, update), ?_, rfl⟩
    rw [List.mem_filter]
    exact ⟨mem_items.mpr hupdate, by simp [hprogress]⟩

theorem change_of_lookup (hupdate : store.updates.lookup id = some update) :
    store.change json id = update.request.change json := by
  simp [change, hupdate]

theorem unchanged_of_set (json : JsonText) {update' : Update}
    (hupdate : store.updates.lookup id = some update)
    (hset : t.updates = store.updates.set id update')
    (hrequest : update'.request = update.request) :
    t.change json = store.change json ∧
      t.merged json = store.merged json := by
  have hchange : t.change json = store.change json := by
    funext other
    unfold change
    rw [hset, lookup_set]
    by_cases heq : other = id
    · rw [if_pos heq, heq, hupdate]
      simp only [hrequest]
    · rw [if_neg heq]
  refine ⟨hchange, ?_⟩
  unfold GlobalsStore.merged
  rw [hchange]

structure Extends (json : JsonText) (store t : GlobalsStore)
    (added : List UpdateId) : Prop where
  kind : t.kind = store.kind
  allowedNames : t.allowedNames = store.allowedNames
  files : store.files.Within t.files
  commits : t.commits = store.commits ++ added
  change : ∀ id ∈ store.commits, t.change json id = store.change json id
  published : ∀ id ∈ store.published, id ∈ t.published

theorem Extends.merged (hextends : Extends json store t added)
    {ids : List UpdateId} (hids : ∀ id ∈ ids, id ∈ store.commits) :
    t.merged json ids = store.merged json ids := by
  unfold GlobalsStore.merged
  apply overlayAll_congr
  intro id hid
  exact hextends.change id (hids id hid)

theorem UpdateFits.extends (hfits : UpdateFits json store id update)
    (hextends : Extends json store t added) (hother : id ∉ added) :
    UpdateFits json t id update := by
  have hcommits : id ∈ t.commits ↔ id ∈ store.commits := by
    rw [hextends.commits, List.mem_append]
    simp [hother]
  unfold UpdateFits at hfits ⊢
  rw [hextends.allowedNames, hextends.kind]
  cases hprogress : update.progress with
  | started =>
    simp only [hprogress, hcommits] at hfits ⊢
    obtain ⟨hnew, values, hstorable, hnames⟩ := hfits
    exact ⟨hnew, values, hstorable, hnames.mono hextends.files⟩
  | loaded base | raised =>
    simp only [hprogress, hcommits] at hfits ⊢
    exact hfits
  | written base =>
    simp only [hprogress, hcommits] at hfits ⊢
    obtain ⟨hknown, haccepted, hbase, hrest⟩ := hfits
    refine ⟨hknown, haccepted, hbase, ?_⟩
    cases hkind : store.kind with
    | service =>
      simp only [hkind] at hrest ⊢
      exact ⟨hrest.1, hrest.2.mono hextends.files⟩
    | runtime =>
      simp only [hkind] at hrest ⊢
      exact hrest
  | pointed base digest age =>
    simp only [hprogress, hcommits] at hfits ⊢
    obtain ⟨hknown, haccepted, hbase, hrest⟩ := hfits
    refine ⟨hknown, haccepted, hbase, ?_⟩
    cases hkind : store.kind with
    | service =>
      simp only [hkind] at hrest ⊢
      exact ⟨hrest.1, hrest.2.mono hextends.files⟩
    | runtime =>
      simp only [hkind] at hrest ⊢
      obtain ⟨hage, hmem, hnames⟩ := hrest
      have htake : t.commits.take age = store.commits.take age := by
        rw [hextends.commits, List.take_append_of_le_length hage]
      rw [htake, hextends.merged fun other hother =>
        List.mem_of_mem_take hother]
      refine ⟨?_, hmem, hnames.mono hextends.files⟩
      rw [hextends.commits, List.length_append]
      omega
  | published | returned =>
    simp only [hprogress] at hfits ⊢
    exact ⟨hfits.1, hextends.published id hfits.2⟩

section

variable (hkept : Kept json store)

include hkept

section

variable (hupdate : store.updates.lookup id = some update)

include hupdate

theorem Kept.move {update' : Update} (hopen : update.progress ≠ .returned)
    (hset : t.updates = store.updates.set id update')
    (hrequest : update'.request = update.request)
    (hbefore : update'.before = update.before) (hready : t.ready = store.ready)
    (hextends : Extends json store t added)
    (hadded : ∀ other ∈ added, other = id ∧ id ∉ store.commits ∧
      Storable json store.allowedNames (update.request.change json))
    (hdup : added.length ≤ 1)
    (hcommitted : Names t.files t.allowedNames t.committedDigest
      (t.merged json t.commits))
    (hsession : Names t.files t.allowedNames t.sessionDigest
      (t.merged json t.published)) (hage : t.sessionAge ≤ t.commits.length)
    (hfits : UpdateFits json t id update') : Kept json t := by
  have hlookup : ∀ other, t.updates.lookup other =
      if other = id then some update' else store.updates.lookup other := by
    intro other
    rw [hset, lookup_set]
  have hchange : t.change json = store.change json :=
    (unchanged_of_set json hupdate hset hrequest).1
  have hreturned : id ∉ store.returnedUpdates := by
    rw [mem_returnedUpdates]
    rintro ⟨found, hfound, hprogress⟩
    rw [hupdate] at hfound
    cases hfound
    exact hopen hprogress
  have hstill : ∀ other ∈ store.returnedUpdates,
      other ∈ t.returnedUpdates := by
    intro other hother
    have hne : other ≠ id := fun heq => hreturned (heq ▸ hother)
    obtain ⟨found, hfound, hprogress⟩ := mem_returnedUpdates.mp hother
    apply mem_returnedUpdates.mpr
    exact ⟨found, by rw [hlookup, if_neg hne, hfound], hprogress⟩
  -- the lists of earlier updates stay as they are
  have hlists : ∀ other found, t.updates.lookup other = some found →
      ∃ old, store.updates.lookup other = some old ∧
        found.before = old.before := by
    intro other found hfound
    rw [hlookup] at hfound
    split at hfound
    · next heq =>
      cases hfound
      exact ⟨update, heq ▸ hupdate, hbefore⟩
    · exact ⟨found, hfound, rfl⟩
  constructor
  · exact hcommitted
  · exact hsession
  · exact hage
  · intro other hother
    rw [hset, mem_set]
    rw [hextends.commits, List.mem_append] at hother
    cases hother with
    | inl hold => exact .inr (hkept.present other hold)
    | inr hnew => exact .inl (hadded other hnew).1
  · intro other hother
    rw [hextends.allowedNames, hchange]
    rw [hextends.commits, List.mem_append] at hother
    cases hother with
    | inl hold => exact hkept.storable other hold
    | inr hnew =>
      obtain ⟨rfl, -, hstorable⟩ := hadded other hnew
      rw [change_of_lookup hupdate]
      exact hstorable
  · intro hunready
    rw [hready] at hunready
    rw [hkept.unready hunready] at hupdate
    cases hupdate
  · intro other found hfound
    rw [hlookup] at hfound
    split at hfound
    · next heq =>
      cases hfound
      rw [hrequest]
      exact hkept.plain id update hupdate
    · exact hkept.plain other found hfound
  · intro other found hfound
    rw [hlookup] at hfound
    split at hfound
    · next heq =>
      cases hfound
      rw [heq]
      exact hfits
    · next hne =>
      apply (hkept.fits other found hfound).extends hextends
      exact fun hmem => hne (hadded other hmem).1
  · intro other found hfound earlier hearlier
    obtain ⟨old, hold, heq⟩ := hlists other found hfound
    rw [heq] at hearlier
    obtain ⟨hne, hmem⟩ := hkept.before other old hold earlier hearlier
    exact ⟨hne, hstill earlier hmem⟩
  · rw [hextends.commits]
    match added, hdup with
    | [], _ => simpa using hkept.nodup
    | [other], _ =>
      obtain ⟨rfl, hnew, -⟩ := hadded other (by simp)
      rw [List.nodup_append]
      refine ⟨hkept.nodup, by simp, ?_⟩
      rintro first hfirst last hlast rfl
      rw [List.mem_singleton] at hlast
      exact hnew (hlast ▸ hfirst)
  · rw [hextends.commits, List.pairwise_append]
    refine ⟨hkept.order.imp ?_, ?_, ?_⟩
    · intro first later hlater found hfound
      obtain ⟨old, hold, heq⟩ := hlists first found hfound
      rw [heq]
      exact hlater old hold
    · match added, hdup with
      | [], _ => exact List.Pairwise.nil
      | [_], _ => exact List.pairwise_singleton _ _
    · intro first hfirst later hlater found hfound hmem
      obtain ⟨old, hold, heq⟩ := hlists first found hfound
      rw [heq] at hmem
      obtain ⟨rfl, -, -⟩ := hadded later hlater
      exact hreturned (hkept.before first old hold later hmem).2

/-- A move that commits nothing. -/
theorem Kept.writeFiles {files : ScopeFiles} {update' : Update}
    (hopen : update.progress ≠ .returned) (hwithin : store.files.Within files)
    (hfits : UpdateFits json ({ store with files := files }.setUpdate id update')
      id update')
    (hrequest : update'.request = update.request := by rfl)
    (hbefore : update'.before = update.before := by rfl) :
    Kept json ({ store with files := files }.setUpdate id update') := by
  let t : GlobalsStore := { store with files := files }.setUpdate id update'
  change Kept json t
  have hset : t.updates = store.updates.set id update' := rfl
  obtain ⟨hchange, hmerged⟩ := unchanged_of_set json hupdate hset hrequest
  have hextends : Extends json store t [] := by
    constructor
    · rfl
    · rfl
    · exact hwithin
    · simp [t, setUpdate]
    · intro other _
      rw [hchange]
    · exact fun other hother => hother
  apply hkept.move hupdate hopen hset hrequest hbefore rfl hextends
  · intro other hother
    cases hother
  · simp
  · rw [hmerged]
    exact hkept.committed.mono hwithin
  · rw [hmerged]
    exact hkept.session.mono hwithin
  · exact hkept.sessionAge
  · exact hfits

theorem Kept.advance {progress : UpdateProgress}
    (hopen : update.progress ≠ .returned)
    (hfits : UpdateFits json (store.advance id update progress) id
      { update with progress := progress }) :
    Kept json (store.advance id update progress) :=
  hkept.writeFiles hupdate hopen (.refl _) hfits

theorem Kept.loadUpdate (hprogress : update.progress = .started) :
    Kept json (store.loadUpdate json id update) := by
  have hopen : update.progress ≠ .returned := by simp [hprogress]
  have hfits := hkept.fits id update hupdate
  simp only [UpdateFits, hprogress] at hfits
  obtain ⟨hnew, values, hstorable, hnames⟩ := hfits
  unfold GlobalsStore.loadUpdate
  split
  · apply hkept.advance hupdate hopen
    exact hnew
  · next hcheck =>
    simp only [Bool.or_eq_true, not_or, Bool.not_eq_true] at hcheck
    obtain ⟨read, hread, hstate⟩ : ∃ read,
        Storable json store.allowedNames read ∧
          Names store.files store.allowedNames (store.stateDigest update)
            read := by
      cases hkind : store.kind with
      | service => exact ⟨values, hstorable, by simpa [stateDigest, hkind]⟩
      | runtime =>
        refine ⟨store.merged json store.commits, ?_, ?_⟩
        · exact (storable_empty json _).overlayAll hkept.storable
        · have hcommitted := hkept.committed
          simpa [stateDigest, committedDigest, hkind] using hcommitted
    rw [hstate.load hread]
    apply hkept.advance hupdate hopen
    exact ⟨hcheck.2, hread, hnew⟩

end

theorem Kept.snapshot_committed : store.snapshot json store.committedDigest =
      store.merged json store.commits := by
  unfold snapshot
  rw [hkept.committed.load ((storable_empty json _).overlayAll hkept.storable)]
  rfl

theorem Kept.merged_concat (hupdate : store.updates.lookup id = some update)
    (hbase : Storable json store.allowedNames base)
    (hchanges : (update.request.changes json).isSome = true)
    (hagree : store.mergesCurrent json update base = true) :
    store.merged json (store.commits ++ [id]) =
      overlay base (update.request.change json) := by
  have hmerged : Storable json store.allowedNames
      (store.merged json store.commits) :=
    (storable_empty json _).overlayAll hkept.storable
  rw [GlobalsStore.merged, overlayAll_concat, change_of_lookup hupdate]
  change overlay (store.merged json store.commits) _ = _
  symm
  apply overlay_congr
  intro name hnone
  by_cases hallowed : name ∈ store.allowedNames
  · simp only [mergesCurrent, hkept.snapshot_committed, List.all_eq_true,
      Bool.or_eq_true, decide_eq_true_eq] at hagree
    cases hagree name hallowed with
    | inr heq => exact heq.symm
    | inl hgiven =>
      exact absurd hnone (UpdateRequest.change_ne_none hchanges hgiven)
  · have hout : ∀ values, Storable json store.allowedNames values →
        values name = none := by
      intro values hstorable
      cases hvalue : values name with
      | none => rfl
      | some value => exact absurd (hstorable name value hvalue).1 hallowed
    rw [hout base hbase, hout _ hmerged]

variable (hupdate : store.updates.lookup id = some update)

include hupdate

section

variable (hprogress : update.progress = .loaded base)

include hprogress

theorem Kept.recordService (hkind : store.kind = .service)
    (hchanges : (update.request.changes json).isSome = true) :
    let manifest := manifestOf store.allowedNames
      (overlay base (update.request.change json))
    Kept json
      ({ store with files := store.files.writeSnapshot manifest }.setUpdate id
        { update with
          ownDigest := some manifest
          progress := .written base }) := by
  intro manifest
  have hopen : update.progress ≠ .returned := by simp [hprogress]
  have hfits := hkept.fits id update hupdate
  simp only [UpdateFits, hprogress] at hfits
  obtain ⟨hknown, hbase, hnew⟩ := hfits
  refine hkept.writeFiles hupdate hopen
    (store.files.within_writeSnapshot manifest) ?_
  simp only [UpdateFits, setUpdate, hkind]
  exact ⟨hknown, hchanges, hbase, hnew, names_writeSnapshot _ _ _⟩

theorem Kept.recordRuntime (hkind : store.kind = .runtime)
    (hchanges : (update.request.changes json).isSome = true)
    (hagree : store.mergesCurrent json update base = true) :
    let manifest := manifestOf store.allowedNames
      (overlay base (update.request.change json))
    Kept json
      { { store with files := store.files.writeSnapshot manifest }.advance id
          update (.written base) with
        runtimeDigest := some manifest
        commits := store.commits ++ [id] } := by
  intro manifest
  have hopen : update.progress ≠ .returned := by simp [hprogress]
  have hfits := hkept.fits id update hupdate
  simp only [UpdateFits, hprogress] at hfits
  obtain ⟨hknown, hbase, hnew⟩ := hfits
  have hwithin := store.files.within_writeSnapshot manifest
  let t : GlobalsStore := { { store with
      files := store.files.writeSnapshot manifest }.advance id update
        (.written base) with
    runtimeDigest := some manifest
    commits := store.commits ++ [id] }
  change Kept json t
  have hset : t.updates = store.updates.set id { update with
      progress := .written base } := rfl
  obtain ⟨hchange, hmerged⟩ := unchanged_of_set json hupdate hset rfl
  have hcommits : t.commits = store.commits ++ [id] := rfl
  have hpublished : t.published = store.published := by
    simp only [t, GlobalsStore.published, GlobalsStore.advance, setUpdate, hkind]
    exact List.take_append_of_le_length hkept.sessionAge
  have hextends : Extends json store t [id] := by
    constructor
    · rfl
    · rfl
    · exact hwithin
    · exact hcommits
    · intro other _
      rw [hchange]
    · rw [hpublished]
      exact fun other hother => hother
  apply hkept.move hupdate hopen hset rfl rfl rfl hextends
  · intro other hother
    refine ⟨List.mem_singleton.mp hother, hnew, ?_⟩
    exact UpdateRequest.change_storable (hkept.plain id update hupdate) hknown
  · simp
  · rw [hmerged, hcommits,
      hkept.merged_concat hupdate hbase hchanges hagree]
    simp only [t, committedDigest, GlobalsStore.advance, setUpdate, hkind]
    exact names_writeSnapshot _ _ _
  · rw [hmerged, hpublished]
    exact hkept.session.mono hwithin
  · rw [hcommits, List.length_append]
    have hage := hkept.sessionAge
    simp only [t, GlobalsStore.advance, setUpdate]
    omega
  · simp only [t, UpdateFits, GlobalsStore.advance, setUpdate, hkind]
    exact ⟨hknown, hchanges, hbase, by simp⟩

theorem Kept.writeUpdate (hguard : store.kind = .runtime →
      store.mergesCurrent json update base = true) :
    Kept json (store.writeUpdate json id update base) := by
  have hopen : update.progress ≠ .returned := by simp [hprogress]
  have hfits := hkept.fits id update hupdate
  simp only [UpdateFits, hprogress] at hfits
  obtain ⟨hknown, hbase, hnew⟩ := hfits
  unfold GlobalsStore.writeUpdate
  cases hchanges : update.request.changes json with
  | none =>
    apply hkept.advance hupdate hopen
    exact hnew
  | some changes =>
    have hsome : (update.request.changes json).isSome = true := by
      rw [hchanges]
      rfl
    rw [UpdateRequest.changes_eq hchanges]
    show Kept json (store.recordSnapshot id update base
      (manifestOf store.allowedNames
        (overlay base (update.request.change json))))
    unfold GlobalsStore.recordSnapshot
    split
    · next hkind => exact hkept.recordService hupdate hprogress hkind hsome
    · next hkind =>
      exact hkept.recordRuntime hupdate hprogress hkind hsome (hguard hkind)

end

theorem Kept.pointUpdate (hprogress : update.progress = .written base) :
    Kept json (store.pointUpdate id update base) := by
  have hopen : update.progress ≠ .returned := by simp [hprogress]
  have hfits := hkept.fits id update hupdate
  simp only [UpdateFits, hprogress] at hfits
  obtain ⟨hknown, hchanges, hbase, hrest⟩ := hfits
  have hset : (store.pointUpdate id update base).updates =
      store.updates.set id { update with
        progress := .pointed base (store.stateDigest update)
          store.commits.length } := rfl
  obtain ⟨-, hmerged⟩ := unchanged_of_set json hupdate hset rfl
  have hwithin : store.files.Within
      (store.pointUpdate id update base).files :=
    ⟨fun _ hmem => hmem, fun _ hmem => hmem⟩
  refine hkept.writeFiles hupdate hopen hwithin ?_
  change UpdateFits json (store.pointUpdate id update base) id _
  simp only [UpdateFits, hmerged]
  refine ⟨hknown, hchanges, hbase, ?_⟩
  cases hkind : store.kind with
  | service =>
    simp only [GlobalsStore.pointUpdate, GlobalsStore.advance, setUpdate,
      stateDigest, hkind] at hrest ⊢
    exact ⟨hrest.1, hrest.2.mono ⟨fun _ hmem => hmem, fun _ hmem => hmem⟩⟩
  | runtime =>
    have hcommitted := hkept.committed.mono hwithin
    simp only [GlobalsStore.pointUpdate, GlobalsStore.advance, setUpdate,
      stateDigest, committedDigest, hkind] at hrest hcommitted ⊢
    simp only [List.take_length]
    exact ⟨le_rfl, hrest, hcommitted⟩

theorem Kept.publishService {digest : GlobalsDigest} {age : ℕ}
    (hprogress : update.progress = .pointed base digest age)
    (hkind : store.kind = .service)
    (hagree : store.mergesCurrent json update base = true) : Kept json
      { store.advance id update .published with
        sessionDigest := digest
        commits := store.commits ++ [id] } := by
  have hopen : update.progress ≠ .returned := by simp [hprogress]
  have hfits := hkept.fits id update hupdate
  simp only [UpdateFits, hprogress, hkind] at hfits
  obtain ⟨hknown, hchanges, hbase, hnew, hnames⟩ := hfits
  let t : GlobalsStore := { store.advance id update .published with
    sessionDigest := digest
    commits := store.commits ++ [id] }
  change Kept json t
  have hset : t.updates = store.updates.set id { update with
      progress := .published } := rfl
  obtain ⟨hchange, hmerged⟩ := unchanged_of_set json hupdate hset rfl
  have hcommits : t.commits = store.commits ++ [id] := rfl
  have hpublished : t.published = store.commits ++ [id] := by
    simp [t, GlobalsStore.published, GlobalsStore.advance, setUpdate, hkind]
  have hextends : Extends json store t [id] := by
    constructor
    · rfl
    · rfl
    · exact .refl _
    · exact hcommits
    · intro other _
      rw [hchange]
    · intro other hother
      rw [hpublished]
      simp only [GlobalsStore.published, hkind] at hother
      exact List.mem_append_left _ hother
  have hshown : Names t.files t.allowedNames digest
      (t.merged json (store.commits ++ [id])) := by
    rw [hmerged, hkept.merged_concat hupdate hbase hchanges hagree]
    exact hnames
  apply hkept.move hupdate hopen hset rfl rfl rfl hextends
  · intro other hother
    refine ⟨List.mem_singleton.mp hother, hnew, ?_⟩
    exact UpdateRequest.change_storable (hkept.plain id update hupdate) hknown
  · simp
  · rw [hcommits]
    have hdigest : t.committedDigest = digest := by
      simp [t, committedDigest, GlobalsStore.advance, setUpdate, hkind]
    rw [hdigest]
    exact hshown
  · rw [hpublished]
    have hdigest : t.sessionDigest = digest := rfl
    rw [hdigest]
    exact hshown
  · rw [hcommits, List.length_append]
    have hage := hkept.sessionAge
    simp only [t, GlobalsStore.advance, setUpdate]
    omega
  · simp only [UpdateFits]
    refine ⟨hchanges, ?_⟩
    rw [hpublished]
    simp

theorem Kept.publishRuntime {digest : GlobalsDigest} {age : ℕ}
    (hprogress : update.progress = .pointed base digest age)
    (hkind : store.kind = .runtime) (hlater : store.sessionAge ≤ age) :
    Kept json
      { store.advance id update .published with
        sessionDigest := digest
        sessionAge := age } := by
  have hopen : update.progress ≠ .returned := by simp [hprogress]
  have hfits := hkept.fits id update hupdate
  simp only [UpdateFits, hprogress, hkind] at hfits
  obtain ⟨hknown, hchanges, hbase, hage, hmem, hnames⟩ := hfits
  let t : GlobalsStore := { store.advance id update .published with
    sessionDigest := digest
    sessionAge := age }
  change Kept json t
  have hset : t.updates = store.updates.set id { update with
      progress := .published } := rfl
  obtain ⟨hchange, hmerged⟩ := unchanged_of_set json hupdate hset rfl
  have hcommits : t.commits = store.commits := rfl
  have hpublished : t.published = store.commits.take age := by
    simp [t, GlobalsStore.published, GlobalsStore.advance, setUpdate, hkind]
  have hextends : Extends json store t [] := by
    constructor
    · rfl
    · rfl
    · exact .refl _
    · rw [hcommits, List.append_nil]
    · intro other _
      rw [hchange]
    · intro other hother
      rw [hpublished]
      simp only [GlobalsStore.published, hkind] at hother
      exact List.take_subset_take_left _ hlater hother
  apply hkept.move hupdate hopen hset rfl rfl rfl hextends
  · intro other hother
    cases hother
  · simp
  · rw [hcommits, hmerged]
    have hcommitted := hkept.committed
    simp only [t, committedDigest, GlobalsStore.advance, setUpdate,
      hkind] at hcommitted ⊢
    exact hcommitted
  · rw [hpublished, hmerged]
    exact hnames
  · rw [hcommits]
    exact hage
  · simp only [UpdateFits]
    refine ⟨hchanges, ?_⟩
    rw [hpublished]
    exact hmem

end

theorem published_subset (store : GlobalsStore) :
    ∀ id ∈ store.published, id ∈ store.commits := by
  intro id hid
  cases hkind : store.kind with
  | service => simpa [published, hkind] using hid
  | runtime =>
    simp only [published, hkind] at hid
    exact List.mem_of_mem_take hid

theorem Kept.ensure (hkept : Kept json store) :
    Kept json store.ensureManagedGlobalsState ∧
      store.ensureManagedGlobalsState.ready = true ∧
      store.ensureManagedGlobalsState.updates = store.updates := by
  unfold ensureManagedGlobalsState
  split
  · next hready => exact ⟨hkept, hready, rfl⟩
  · next hready =>
    have hempty : store.updates = ∅ := hkept.unready (by simpa using hready)
    have hcommits : store.commits = [] := by
      rw [List.eq_nil_iff_forall_not_mem]
      intro id hid
      have hmem := hkept.present id hid
      rw [hempty] at hmem
      exact absurd hmem (AList.notMem_empty id)
    have hwithin := store.files.within_writeSnapshot
      (manifestOf store.allowedNames fun _ => none)
    have hgrown : store.files.Within store.newManagedGlobalsState.files :=
      ⟨hwithin.manifests, hwithin.values⟩
    have hfresh : Names store.newManagedGlobalsState.files store.allowedNames
        (some (manifestOf store.allowedNames fun _ => none))
        fun _ => none := by
      have hnames := names_writeSnapshot store.files store.allowedNames
        fun _ => none
      exact ⟨rfl, ⟨hnames.2.manifest_mem, hnames.2.values_mem⟩⟩
    have hnone : ∀ id, store.newManagedGlobalsState.updates.lookup id =
        none := by
      intro id
      show store.updates.lookup id = none
      rw [hempty]
      rfl
    have hpublished : store.newManagedGlobalsState.published = [] := by
      unfold published
      split
      · exact hcommits
      · show store.commits.take store.sessionAge = []
        simp [hcommits]
    refine ⟨?_, rfl, rfl⟩
    constructor
    · have hthere : store.newManagedGlobalsState.commits = [] := hcommits
      have hdigest : store.newManagedGlobalsState.committedDigest =
          some (manifestOf store.allowedNames fun _ => none) := by
        unfold committedDigest newManagedGlobalsState
        cases store.kind <;> rfl
      rw [hthere, hdigest]
      exact hfresh
    · rw [hpublished]
      have hsession := hkept.session
      have hold : store.published = [] := by
        rw [List.eq_nil_iff_forall_not_mem]
        intro id hid
        have hmem := published_subset store id hid
        rw [hcommits] at hmem
        cases hmem
      rw [hold] at hsession
      have hdigest : store.newManagedGlobalsState.sessionDigest =
            some (manifestOf store.allowedNames fun _ => none) ∨
          store.newManagedGlobalsState.sessionDigest =
            store.sessionDigest := by
        unfold newManagedGlobalsState
        cases store.kind
        · exact .inl rfl
        · exact .inr rfl
      cases hdigest with
      | inl heq =>
        rw [heq]
        exact hfresh
      | inr heq =>
        rw [heq]
        exact hsession.mono hgrown
    · exact hkept.sessionAge
    · exact hkept.present
    · exact hkept.storable
    · intro hunready
      cases hunready
    · intro id update hupdate
      rw [hnone] at hupdate
      cases hupdate
    · intro id update hupdate
      rw [hnone] at hupdate
      cases hupdate
    · intro id update hupdate
      rw [hnone] at hupdate
      cases hupdate
    · exact hkept.nodup
    · exact hkept.order

theorem Kept.startUpdate {request : UpdateRequest} (hstart : Kept json store)
    (habsent : store.updates.lookup id = none) (hplain : request.plain = true) :
    Kept json (store.startUpdate id request) := by
  obtain ⟨hkept, hready, hupdates⟩ := hstart.ensure
  simp only [GlobalsStore.startUpdate]
  generalize store.ensureManagedGlobalsState = store at hkept hready hupdates
  have hnew : store.updates.lookup id = none := by rw [hupdates, habsent]
  have hcommits : id ∉ store.commits := by
    intro hid
    obtain ⟨update, hupdate⟩ :=
      mem_iff_lookup.mp (hkept.present id hid)
    rw [hnew] at hupdate
    cases hupdate
  generalize hfresh : ({ request := request
                         ownDigest := store.sessionDigest
                         progress := .started
                         before := store.returnedUpdates } : Update) = update'
  have hlookup : ∀ other, (store.setUpdate id update').updates.lookup other =
      if other = id then some update' else store.updates.lookup other := by
    intro other
    exact lookup_set _ _ _ _
  have hchange : ∀ other, other ≠ id →
      (store.setUpdate id update').change json other =
        store.change json other := by
    intro other hne
    unfold change
    rw [hlookup, if_neg hne]
  have hextends : Extends json store (store.setUpdate id update') [] := by
    constructor
    · rfl
    · rfl
    · exact .refl _
    · simp [setUpdate]
    · intro other hother
      exact hchange other fun heq => hcommits (heq ▸ hother)
    · exact fun other hother => hother
  have hstill : ∀ other ∈ store.returnedUpdates,
      other ≠ id ∧ other ∈ (store.setUpdate id update').returnedUpdates := by
    intro other hother
    obtain ⟨found, hfound, hprogress⟩ := mem_returnedUpdates.mp hother
    have hne : other ≠ id := by
      rintro rfl
      rw [hnew] at hfound
      cases hfound
    refine ⟨hne, mem_returnedUpdates.mpr ⟨found, ?_, hprogress⟩⟩
    rw [hlookup, if_neg hne, hfound]
  have hcommitted := hkept.committed
  rw [← hextends.merged fun other hother => hother] at hcommitted
  have hsession := hkept.session
  rw [← hextends.merged (published_subset store)] at hsession
  constructor
  · exact hcommitted
  · exact hsession
  · exact hkept.sessionAge
  · intro other hother
    exact mem_set.mpr (.inr (hkept.present other hother))
  · intro other hother
    rw [hchange other fun heq => hcommits (heq ▸ hother)]
    exact hkept.storable other hother
  · intro hunready
    exact absurd hunready (by simp [setUpdate, hready])
  · intro other found hfound
    rw [hlookup] at hfound
    split at hfound
    · cases hfound
      rw [← hfresh]
      exact hplain
    · exact hkept.plain other found hfound
  · intro other found hfound
    rw [hlookup] at hfound
    split at hfound
    · next heq =>
      cases hfound
      rw [heq, ← hfresh]
      refine ⟨hcommits, store.merged json store.published, ?_, hkept.session⟩
      apply (storable_empty json _).overlayAll
      intro earlier hearlier
      exact hkept.storable earlier (published_subset store earlier hearlier)
    · exact (hkept.fits other found hfound).extends hextends (by simp)
  · intro other found hfound earlier hearlier
    rw [hlookup] at hfound
    split at hfound
    · next heq =>
      cases hfound
      rw [← hfresh] at hearlier
      rw [heq]
      exact hstill earlier hearlier
    · obtain ⟨hne, hmem⟩ := hkept.before other found hfound earlier hearlier
      exact ⟨hne, (hstill earlier hmem).2⟩
  · exact hkept.nodup
  · apply hkept.order.imp_of_mem
    intro first later hfirst _ hlater found hfound
    have hne : first ≠ id := by
      rintro rfl
      exact hcommits hfirst
    rw [hlookup, if_neg hne] at hfound
    exact hlater found hfound

theorem Kept.step {label : UpdateId × UpdateMove} (hkept : Kept json store)
    (hok : store.keepsUpdates json label = true)
    (hstep : store.step json label = some t) : Kept json t := by
  obtain ⟨id, move⟩ := label
  simp only [GlobalsStore.step] at hstep
  simp only [keepsUpdates] at hok
  cases hupdate : store.updates.lookup id with
  | none =>
    simp only [hupdate] at hstep
    split at hstep
    · cases hstep
      simp only [Bool.and_eq_true] at hok
      exact hkept.startUpdate hupdate hok.1
    · cases hstep
    · next heq => cases heq
  | some update =>
    simp only [hupdate] at hstep
    unfold updateStep at hstep
    split at hstep
    · next hprogress =>
      cases hstep
      exact hkept.loadUpdate hupdate hprogress
    · next base hprogress =>
      cases hstep
      apply hkept.writeUpdate hupdate hprogress
      intro hkind
      simpa [hupdate, hkind, hprogress] using hok
    · next base hprogress =>
      cases hstep
      exact hkept.pointUpdate hupdate hprogress
    · next base digest age hprogress =>
      cases hstep
      unfold GlobalsStore.publishUpdate
      cases hkind : store.kind with
      | service =>
        simp only [hupdate, hkind, hprogress] at hok
        exact hkept.publishService hupdate hprogress hkind hok
      | runtime =>
        simp only [hupdate, hkind, hprogress, decide_eq_true_eq] at hok
        exact hkept.publishRuntime hupdate hprogress hkind hok
    · next raises hprogress =>
      cases hstep
      have hquiet : raises = false := by simpa using hok
      subst hquiet
      have hfits := hkept.fits id update hupdate
      simp only [UpdateFits, hprogress] at hfits
      apply hkept.advance hupdate (by simp [hprogress])
      exact hfits
    · cases hstep

end GlobalsStore

end PycloudParallel.ManagedGlobals
