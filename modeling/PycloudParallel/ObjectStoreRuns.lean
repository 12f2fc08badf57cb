import PycloudParallel.ObjectStoreModel

/-!
# Objects with equal bytes

Whatever is stored, a record keeps its bytes: files are not changed and segments
are only appended to.  What a reference means depends on the record that is found
for its hash, which the last writer made; so it is kept as long as all operations
on the same bytes declare formats that are read alike.
-/

namespace PycloudParallel.ObjectStore

open OrderedDict

namespace Store

section

variable {ι : Type*} [DecidableEq ι]

def holds (s : Store ι) (id : ι) (record : Record) (blob : List UInt8) : Prop :=
  match record.backend with
  | .file => s.files.lookup (id, record.format) = some blob
  | .segment index offset length => ∃ front rest,
      s.segments[index]? = some (front ++ blob ++ rest) ∧ front.length = offset ∧
        blob.length = length

def Declared (s : Store ι) (id : ι) (fmt : String) : Prop :=
  ∃ stored ∈ s.returned, stored.ref.objectId = id ∧ stored.declared = fmt

def isKnown (s : Store ι) (id : ι) : Prop :=
  ∃ record, s.metas.lookup id = some record

structure Grows (s t : Store ι) : Prop where
  files : ∀ key blob, s.files.lookup key = some blob → t.files.lookup key = some blob
  segments : ∀ (index : ℕ) (content : List UInt8), s.segments[index]? = some content →
    ∃ more, t.segments[index]? = some (content ++ more)

variable {s t : Store ι}

theorem holds_readRecord {id : ι} {record : Record} {blob : List UInt8}
    (hholds : s.holds id record blob) : s.readRecord id record = some blob := by
  unfold holds at hholds
  unfold readRecord
  cases hbackend : record.backend with
  | file =>
    rw [hbackend] at hholds
    exact hholds
  | segment index offset length =>
    rw [hbackend] at hholds
    obtain ⟨front, rest, hsegment, hfront, hblob⟩ := hholds
    simp [hsegment, ← hfront, ← hblob]

theorem holds_isThere {id : ι} {record : Record} {blob : List UInt8}
    (hholds : s.holds id record blob) : s.isThere id record = true := by
  unfold holds at hholds
  unfold isThere
  cases hbackend : record.backend with
  | file =>
    rw [hbackend] at hholds
    simp only [hholds, Option.isSome_some]
  | segment index offset length =>
    rw [hbackend] at hholds
    obtain ⟨front, rest, hsegment, -, -⟩ := hholds
    exact decide_eq_true (List.getElem?_eq_some_iff.mp hsegment).1

theorem holds_mono (hgrows : Grows s t) {id : ι} {record : Record} {blob : List UInt8}
    (hholds : s.holds id record blob) : t.holds id record blob := by
  unfold holds at hholds ⊢
  cases hbackend : record.backend with
  | file =>
    rw [hbackend] at hholds
    exact hgrows.files _ _ hholds
  | segment index offset length =>
    rw [hbackend] at hholds
    obtain ⟨front, rest, hsegment, hfront, hblob⟩ := hholds
    obtain ⟨more, hmore⟩ := hgrows.segments index _ hsegment
    exact ⟨front, rest ++ more, by rw [hmore, List.append_assoc], hfront, hblob⟩

theorem existing_eq_some {records : OrderedDict ι Record} {id : ι} {record : Record} :
    s.existing records id = some record ↔
      records.lookup id = some record ∧ s.isThere id record = true := by
  rw [existing, Option.filter_eq_some_iff]

theorem Grows.refl (s : Store ι) : Grows s s :=
  ⟨fun _ _ hfile => hfile, fun _ content hsegment => ⟨[], by rw [hsegment, List.append_nil]⟩⟩

theorem appendSegment_grows (s : Store ι) (blob : List UInt8) (segment : ℕ) :
    Grows s (s.appendSegment blob segment).1 := by
  unfold appendSegment
  cases hsegment : s.segments[segment]? with
  | none =>
    refine ⟨fun _ _ hfile => hfile, ?_⟩
    intro index content hindex
    refine ⟨[], ?_⟩
    have hlength : index < s.segments.length := (List.getElem?_eq_some_iff.mp hindex).1
    simp only [List.append_nil]
    rw [List.getElem?_append_left hlength, hindex]
  | some old =>
    refine ⟨fun _ _ hfile => hfile, ?_⟩
    intro index content hindex
    have hlength : index < s.segments.length := (List.getElem?_eq_some_iff.mp hindex).1
    simp only
    rw [List.getElem?_set]
    by_cases hsame : segment = index
    · rw [if_pos hsame]
      rw [← hsame, hsegment, Option.some.injEq] at hindex
      rw [← hsame] at hlength
      exact ⟨blob, by rw [if_pos hlength, hindex]⟩
    · rw [if_neg hsame]
      exact ⟨[], by rw [hindex, List.append_nil]⟩

theorem appendSegment_holds (s : Store ι) (id : ι) (fmt : String) (blob : List UInt8)
    (segment : ℕ) :
    (s.appendSegment blob segment).1.holds id
      ⟨fmt, (s.appendSegment blob segment).2⟩ blob := by
  unfold appendSegment
  cases hsegment : s.segments[segment]? with
  | none =>
    refine ⟨[], [], ?_, rfl, rfl⟩
    simp
  | some old =>
    have hlength : segment < s.segments.length :=
      (List.getElem?_eq_some_iff.mp hsegment).1
    refine ⟨old, [], ?_, rfl, rfl⟩
    simp [hlength]

end

end Store

section

variable {ι V F : Type*} [DecidableEq ι] (readers : Readers V F) (limit : ℕ)
  (sha256 : List UInt8 → ι)

namespace Store

def Fits (s : Store ι) (id : ι) (record : Record) : Prop :=
  (∃ blob, sha256 blob = id ∧ s.holds id record blob) ∧ s.Declared id record.format

structure StoredFits (s : Store ι) (stored : StoredRef ι) : Prop where
  id : sha256 stored.blob = stored.ref.objectId
  holds : s.holds stored.ref.objectId stored.record stored.blob
  declared : s.Declared stored.ref.objectId stored.record.format
  format : stored.ref.format = stored.record.format
  known : s.isKnown stored.ref.objectId
  agrees : Agrees readers limit stored.declared
    (resolveMaterializeAs stored.declared stored.ref.materializeAs) stored.blob

structure Sound (s : Store ι) : Prop where
  files : ∀ id name content, s.files.lookup (id, name) = some content →
    sha256 content = id ∧ s.Declared id name
  metas : ∀ id record, s.metas.lookup id = some record → s.Fits sha256 id record
  objects : ∀ id record, s.objects.lookup id = some record → s.Fits sha256 id record
  returned : ∀ stored ∈ s.returned, s.StoredFits readers limit sha256 stored
  alike : ∀ stored ∈ s.returned, ∀ other ∈ s.returned,
    stored.ref.objectId = other.ref.objectId →
      readAs stored.declared other.ref.materializeAs =
        readAs other.declared other.ref.materializeAs

structure Stores (s t : Store ι) (blob : List UInt8) (fmt : String) (record : Record) :
    Prop where
  grows : Grows s t
  returned : t.returned = s.returned
  holds : t.holds (sha256 blob) record blob
  format : record.format = fmt ∨ s.Declared (sha256 blob) record.format
  files : ∀ id name content, t.files.lookup (id, name) = some content →
    s.files.lookup (id, name) = some content ∨
      id = sha256 blob ∧ name = fmt ∧ content = blob
  metas : ∀ id old, t.metas.lookup id = some old →
    s.metas.lookup id = some old ∨ id = sha256 blob ∧ old = record
  objects : ∀ id old, t.objects.lookup id = some old →
    s.objects.lookup id = some old ∨ id = sha256 blob ∧ old = record
  known : ∀ id, s.isKnown id → t.isKnown id
  knownNew : t.isKnown (sha256 blob)

variable {readers limit sha256} {s t : Store ι}

theorem Sound.giveRef (hs : s.Sound readers limit sha256) {blob : List UInt8}
    {fmt : String} {as : MaterializeAs} {record : Record}
    (hstores : Stores sha256 s t blob fmt record)
    (hok : mayStore readers limit sha256 s blob fmt as) :
    (t.giveRef (sha256 blob) fmt as blob record).Sound readers limit sha256 := by
  have hreturned : (t.giveRef (sha256 blob) fmt as blob record).returned =
      s.returned ++ [⟨⟨sha256 blob, record.format, as⟩, fmt, blob, record⟩] := by
    rw [Store.giveRef, hstores.returned]
  have hdeclared {id : ι} {name : String} (hold : s.Declared id name) :
      (t.giveRef (sha256 blob) fmt as blob record).Declared id name := by
    obtain ⟨stored, hmem, hfacts⟩ := hold
    exact ⟨stored, by rw [hreturned]; exact List.mem_append_left _ hmem, hfacts⟩
  have hdeclaredNew : (t.giveRef (sha256 blob) fmt as blob record).Declared
      (sha256 blob) fmt :=
    ⟨_, by rw [hreturned]; exact List.mem_append_right _ List.mem_cons_self, rfl, rfl⟩
  have hformat : (t.giveRef (sha256 blob) fmt as blob record).Declared (sha256 blob)
      record.format := by
    cases hstores.format with
    | inl hsame =>
      rw [hsame]
      exact hdeclaredNew
    | inr hold => exact hdeclared hold
  have hholds {id : ι} {old : Record} {content : List UInt8}
      (hold : s.holds id old content) :
      (t.giveRef (sha256 blob) fmt as blob record).holds id old content :=
    holds_mono hstores.grows hold
  have hfits {id : ι} {old : Record} (hold : s.Fits sha256 id old) :
      (t.giveRef (sha256 blob) fmt as blob record).Fits sha256 id old := by
    obtain ⟨⟨content, hid, hcontent⟩, hname⟩ := hold
    exact ⟨⟨content, hid, hholds hcontent⟩, hdeclared hname⟩
  have hfitsNew : (t.giveRef (sha256 blob) fmt as blob record).Fits sha256
      (sha256 blob) record := ⟨⟨blob, rfl, hstores.holds⟩, hformat⟩
  refine ⟨?_, ?_, ?_, ?_, ?_⟩
  · intro id name content hfile
    cases hstores.files id name content hfile with
    | inl hold =>
      have hcontent := hs.files id name content hold
      exact ⟨hcontent.1, hdeclared hcontent.2⟩
    | inr hnew =>
      obtain ⟨hid, hname, hcontent⟩ := hnew
      rw [hid, hname, hcontent]
      exact ⟨rfl, hdeclaredNew⟩
  · intro id old hmeta
    cases hstores.metas id old hmeta with
    | inl hold => exact hfits (hs.metas id old hold)
    | inr hnew =>
      rw [hnew.1, hnew.2]
      exact hfitsNew
  · intro id old hobject
    cases hstores.objects id old hobject with
    | inl hold => exact hfits (hs.objects id old hold)
    | inr hnew =>
      rw [hnew.1, hnew.2]
      exact hfitsNew
  · intro stored hmem
    rw [hreturned] at hmem
    cases List.mem_append.mp hmem with
    | inl hold =>
      have hstored := hs.returned stored hold
      exact ⟨hstored.id, hholds hstored.holds, hdeclared hstored.declared,
        hstored.format, hstores.known _ hstored.known, hstored.agrees⟩
    | inr hnew =>
      rw [List.mem_singleton.mp hnew]
      exact ⟨rfl, hstores.holds, hformat, rfl, hstores.knownNew, hok.1⟩
  · intro stored hmem other hother hsame
    rw [hreturned] at hmem hother
    cases List.mem_append.mp hmem with
    | inl hold =>
      cases List.mem_append.mp hother with
      | inl hold' => exact hs.alike stored hold other hold' hsame
      | inr hnew' =>
        rw [List.mem_singleton.mp hnew'] at hsame ⊢
        exact (hok.2 stored hold hsame).1
    | inr hnew =>
      rw [List.mem_singleton.mp hnew] at hsame ⊢
      cases List.mem_append.mp hother with
      | inl hold' => exact (hok.2 other hold' hsame.symm).2.symm
      | inr hnew' =>
        rw [List.mem_singleton.mp hnew']

theorem known_of_declared (hs : s.Sound readers limit sha256) {id : ι} {name : String}
    (hdeclared : s.Declared id name) : s.isKnown id := by
  obtain ⟨stored, hmem, hid, -⟩ := hdeclared
  rw [← hid]
  exact (hs.returned stored hmem).known

theorem Stores.keep {blob : List UInt8} {fmt : String} {record : Record}
    (hstores : Stores sha256 s t blob fmt record) :
    Stores sha256 s (t.keep (sha256 blob) record) blob fmt record := by
  refine { hstores with grows := ⟨hstores.grows.files, hstores.grows.segments⟩, objects := ?_ }
  intro id old hobject
  rw [Store.keep, lookup_set] at hobject
  by_cases hid : id = sha256 blob
  · rw [if_pos hid, Option.some.injEq] at hobject
    exact Or.inr ⟨hid, hobject.symm⟩
  · rw [if_neg hid] at hobject
    exact hstores.objects id old hobject

theorem stores_of_fits (hinjective : Function.Injective sha256)
    (hs : s.Sound readers limit sha256) {blob : List UInt8} {record : Record}
    (hfits : s.Fits sha256 (sha256 blob) record) (fmt : String) :
    Stores sha256 s s blob fmt record := by
  obtain ⟨⟨content, hid, hcontent⟩, hdeclared⟩ := hfits
  rw [hinjective hid] at hcontent
  exact ⟨Grows.refl s, rfl, hcontent, Or.inr hdeclared, fun _ _ _ hfile => Or.inl hfile,
    fun _ _ hmeta => Or.inl hmeta, fun _ _ hobject => Or.inl hobject, fun _ hknown => hknown,
    known_of_declared hs hdeclared⟩

theorem stores_writeMeta {blob : List UInt8} {fmt : String} {record : Record}
    (hgrows : Grows s t) (hreturned : t.returned = s.returned)
    (hholds : t.holds (sha256 blob) record blob) (hformat : record.format = fmt)
    (hfiles : ∀ id name content, t.files.lookup (id, name) = some content →
      s.files.lookup (id, name) = some content ∨
        id = sha256 blob ∧ name = fmt ∧ content = blob)
    (hmetas : t.metas = s.metas) (hobjects : t.objects = s.objects) :
    Stores sha256 s (t.writeMeta (sha256 blob) record) blob fmt record := by
  have hlookup (id : ι) : (t.writeMeta (sha256 blob) record).metas.lookup id =
      if id = sha256 blob then some record else s.metas.lookup id := by
    rw [Store.writeMeta, lookup_set, hmetas]
  refine ⟨⟨hgrows.files, hgrows.segments⟩, hreturned, hholds, Or.inl hformat, hfiles,
    ?_, ?_, ?_, ?_⟩
  · intro id old hmeta
    rw [hlookup] at hmeta
    by_cases hid : id = sha256 blob
    · rw [if_pos hid, Option.some.injEq] at hmeta
      exact Or.inr ⟨hid, hmeta.symm⟩
    · rw [if_neg hid] at hmeta
      exact Or.inl hmeta
  · intro id old hobject
    left
    rw [← hobjects]
    exact hobject
  · intro id hknown
    unfold isKnown
    rw [hlookup]
    by_cases hid : id = sha256 blob
    · rw [if_pos hid]
      exact ⟨record, rfl⟩
    · rw [if_neg hid]
      exact hknown
  · unfold isKnown
    rw [hlookup, if_pos rfl]
    exact ⟨record, rfl⟩

theorem lookup_putFile (hinjective : Function.Injective sha256)
    (hs : s.Sound readers limit sha256) (blob : List UInt8) (fmt : String)
    (overwrite : Bool) (key : ι × String) :
    (s.putFile (sha256 blob) fmt blob overwrite).files.lookup key =
      if key = (sha256 blob, fmt) then some blob else s.files.lookup key := by
  unfold putFile
  split
  · next hthere =>
    by_cases hkey : key = (sha256 blob, fmt)
    · rw [if_pos hkey, hkey]
      rw [Bool.and_eq_true, Option.isSome_iff_exists] at hthere
      obtain ⟨content, hcontent⟩ := hthere.1
      rw [hcontent, hinjective (hs.files _ _ _ hcontent).1]
    · rw [if_neg hkey]
  · rw [lookup_set]

theorem stores_putFile (hinjective : Function.Injective sha256)
    (hs : s.Sound readers limit sha256) (blob : List UInt8) (fmt : String)
    (overwrite : Bool) :
    Stores sha256 s ((s.putFile (sha256 blob) fmt blob overwrite).writeMeta (sha256 blob)
      ⟨fmt, .file⟩) blob fmt ⟨fmt, .file⟩ := by
  have hlookup := lookup_putFile hinjective hs blob fmt overwrite
  have hsame (p : Store ι → Prop) (hold : p s)
      (hnew : p { s with files := s.files.set (sha256 blob, fmt) blob }) :
      p (s.putFile (sha256 blob) fmt blob overwrite) := by
    unfold putFile
    split
    · exact hold
    · exact hnew
  have hsegments : (s.putFile (sha256 blob) fmt blob overwrite).segments = s.segments :=
    hsame (fun t => t.segments = s.segments) rfl rfl
  refine stores_writeMeta ⟨?_, ?_⟩ (hsame (fun t => t.returned = s.returned) rfl rfl) ?_
    rfl ?_ (hsame (fun t => t.metas = s.metas) rfl rfl)
    (hsame (fun t => t.objects = s.objects) rfl rfl)
  · intro key content hfile
    rw [hlookup]
    by_cases hkey : key = (sha256 blob, fmt)
    · rw [hkey] at hfile
      rw [if_pos hkey, hinjective (hs.files _ _ _ hfile).1]
    · rw [if_neg hkey]
      exact hfile
  · intro index content hsegment
    exact ⟨[], by rw [hsegments, hsegment, List.append_nil]⟩
  · change (s.putFile (sha256 blob) fmt blob overwrite).files.lookup
      (sha256 blob, fmt) = some blob
    rw [hlookup, if_pos rfl]
  · intro id name content hfile
    rw [hlookup] at hfile
    by_cases hkey : (id, name) = (sha256 blob, fmt)
    · rw [if_pos hkey, Option.some.injEq] at hfile
      exact Or.inr ⟨congrArg Prod.fst hkey, congrArg Prod.snd hkey, hfile.symm⟩
    · rw [if_neg hkey] at hfile
      exact Or.inl hfile

theorem stores_appendSegment (s : Store ι) (blob : List UInt8) (fmt : String)
    (segment : ℕ) :
    Stores sha256 s ((s.appendSegment blob segment).1.writeMeta (sha256 blob)
      ⟨fmt, (s.appendSegment blob segment).2⟩) blob fmt
      ⟨fmt, (s.appendSegment blob segment).2⟩ := by
  have hholds := appendSegment_holds s (sha256 blob) fmt blob segment
  have hgrows := appendSegment_grows s blob segment
  have hsame : (s.appendSegment blob segment).1.returned = s.returned ∧
      (s.appendSegment blob segment).1.files = s.files ∧
      (s.appendSegment blob segment).1.metas = s.metas ∧
      (s.appendSegment blob segment).1.objects = s.objects := by
    unfold appendSegment
    cases s.segments[segment]? <;> exact ⟨rfl, rfl, rfl, rfl⟩
  refine stores_writeMeta hgrows hsame.1 hholds rfl ?_ hsame.2.2.1 hsame.2.2.2
  intro id name content hfile
  rw [hsame.2.1] at hfile
  exact Or.inl hfile

theorem stores_putUploaded (hinjective : Function.Injective sha256)
    (hs : s.Sound readers limit sha256) (segmentMax : ℕ) (blob : List UInt8)
    (fmt : String) (segment : ℕ) :
    Stores sha256 s (s.putUploaded segmentMax (sha256 blob) fmt blob segment).1 blob fmt
      (s.putUploaded segmentMax (sha256 blob) fmt blob segment).2 := by
  unfold putUploaded
  split
  · next record hrecord =>
    have hobject := (existing_eq_some.mp hrecord).1
    exact stores_of_fits hinjective hs (hs.objects _ _ hobject) fmt
  · split
    · next record hrecord =>
      have hmeta := (existing_eq_some.mp hrecord).1
      exact (stores_of_fits hinjective hs (hs.metas _ _ hmeta) fmt).keep
    · split
      · exact (stores_appendSegment s blob fmt segment).keep
      · exact (stores_putFile hinjective hs blob fmt false).keep

theorem stores_getObjectArtifact (hinjective : Function.Injective sha256)
    (hs : s.Sound readers limit sha256) {blob : List UInt8} {record : Record}
    (hfound : s.getObjectArtifact (sha256 blob) = some (t, record)) (fmt : String) :
    Stores sha256 s t blob fmt record := by
  unfold getObjectArtifact at hfound
  split at hfound
  · next old hrecord =>
    cases hfound
    have hobject := (existing_eq_some.mp hrecord).1
    exact stores_of_fits hinjective hs (hs.objects _ _ hobject) fmt
  · split at hfound
    · next old hrecord =>
      cases hfound
      have hmeta := (existing_eq_some.mp hrecord).1
      exact (stores_of_fits hinjective hs (hs.metas _ _ hmeta) fmt).keep
    · split at hfound
      · next hthere =>
        cases hfound
        obtain ⟨content, hcontent⟩ := Option.isSome_iff_exists.mp hthere
        have hfile := hs.files _ _ _ hcontent
        have hfits : s.Fits sha256 (sha256 blob) ⟨"bin", .file⟩ :=
          ⟨⟨content, hfile.1, hcontent⟩, hfile.2⟩
        exact (stores_of_fits hinjective hs hfits fmt).keep
      · cases hfound

theorem Sound.register (hs : s.Sound readers limit sha256) {stored : StoredRef ι}
    (hmem : stored ∈ s.returned) :
    (s.keep stored.ref.objectId stored.record).Sound readers limit sha256 := by
  have hstored := hs.returned stored hmem
  refine ⟨hs.files, hs.metas, ?_, ?_, hs.alike⟩
  · intro id old hobject
    rw [Store.keep, lookup_set] at hobject
    by_cases hid : id = stored.ref.objectId
    · rw [if_pos hid, Option.some.injEq] at hobject
      rw [hid, ← hobject]
      exact ⟨⟨stored.blob, hstored.id, hstored.holds⟩, hstored.declared⟩
    · rw [if_neg hid] at hobject
      exact hs.objects id old hobject
  · intro other hother
    have hfits := hs.returned other hother
    exact ⟨hfits.id, hfits.holds, hfits.declared, hfits.format, hfits.known, hfits.agrees⟩

theorem Sound.step (hinjective : Function.Injective sha256)
    (hs : s.Sound readers limit sha256) {segmentMax : ℕ} {label : Label}
    (hok : undisturbed readers limit sha256 s label)
    (htake : ObjectStore.step sha256 segmentMax s label = some t) :
    t.Sound readers limit sha256 := by
  cases label with
  | precheck blob fmt as =>
    simp only [ObjectStore.step] at htake
    split at htake
    · cases htake
      exact hs
    · next found record hfound =>
      cases htake
      exact hs.giveRef (stores_getObjectArtifact hinjective hs hfound fmt) hok
  | upload blob fmt as segment =>
    cases htake
    exact hs.giveRef (stores_putUploaded hinjective hs segmentMax blob fmt segment) hok
  | commitFile blob fmt as copySource =>
    cases htake
    exact hs.giveRef (stores_putFile hinjective hs blob fmt copySource) hok
  | commitSegment blob fmt as segment =>
    cases htake
    exact hs.giveRef (stores_appendSegment s blob fmt segment) hok
  | register index =>
    simp only [ObjectStore.step] at htake
    split at htake
    · cases htake
    · next stored hstored =>
      cases htake
      exact hs.register (List.mem_of_getElem? hstored)
  | cacheRemote blob fmt as =>
    cases htake
    exact hs.giveRef (stores_putFile hinjective hs blob fmt false) hok

theorem existing_metas_of_known (hs : s.Sound readers limit sha256) {id : ι}
    (hknown : s.isKnown id) :
    ∃ record, s.existing s.metas id = some record ∧ s.Fits sha256 id record := by
  obtain ⟨record, hmeta⟩ := hknown
  have hfits := hs.metas id record hmeta
  obtain ⟨content, -, hcontent⟩ := hfits.1
  exact ⟨record, existing_eq_some.mpr ⟨hmeta, holds_isThere hcontent⟩, hfits⟩

theorem getObjectArtifact_of_known (hs : s.Sound readers limit sha256) {id : ι}
    (hknown : s.isKnown id) :
    ∃ found, s.getObjectArtifact id = some found ∧ s.Fits sha256 id found.2 := by
  obtain ⟨record, hexisting, hfits⟩ := existing_metas_of_known hs hknown
  unfold getObjectArtifact
  cases hobject : s.existing s.objects id with
  | some old => exact ⟨_, rfl, hs.objects id old (existing_eq_some.mp hobject).1⟩
  | none =>
    simp only [hexisting]
    exact ⟨_, rfl, hfits⟩

theorem readRecord_of_fits (hinjective : Function.Injective sha256)
    {blob : List UInt8} {id : ι} {record : Record} (hid : sha256 blob = id)
    (hfits : s.Fits sha256 id record) : s.readRecord id record = some blob := by
  obtain ⟨⟨content, hcontent, hholds⟩, -⟩ := hfits
  rw [← hid] at hcontent
  rw [hinjective hcontent] at hholds
  exact holds_readRecord hholds

theorem readAs_of_declared (hs : s.Sound readers limit sha256) {stored : StoredRef ι}
    (hmem : stored ∈ s.returned) {name : String}
    (hdeclared : s.Declared stored.ref.objectId name) :
    resolveMaterializeAs name stored.ref.materializeAs =
        resolveMaterializeAs stored.declared stored.ref.materializeAs ∧
      reading name (resolveMaterializeAs stored.declared stored.ref.materializeAs) =
        reading stored.declared
          (resolveMaterializeAs stored.declared stored.ref.materializeAs) := by
  obtain ⟨other, hother, hid, hname⟩ := hdeclared
  have halike := hs.alike other hother stored hmem hid
  rw [hname] at halike
  have hresolve : resolveMaterializeAs name stored.ref.materializeAs =
      resolveMaterializeAs stored.declared stored.ref.materializeAs :=
    congrArg Prod.fst halike
  have hreading := congrArg Prod.snd halike
  simp only [readAs] at hreading
  rw [hresolve] at hreading
  exact ⟨hresolve, hreading⟩

theorem Sound.truthful (hinjective : Function.Injective sha256)
    (hs : s.Sound readers limit sha256) : s.Truthful readers limit := by
  intro stored hmem
  have hstored := hs.returned stored hmem
  have hagree := (materialize_agree_iff readers limit _ _ _).mpr hstored.agrees
  have hformat := hstored.declared
  rw [← hstored.format] at hformat
  have href := readAs_of_declared hs hmem hformat
  constructor
  · obtain ⟨record, hexisting, hfits⟩ := existing_metas_of_known hs hstored.known
    have hread := readRecord_of_fits hinjective hstored.id hfits
    have hrecord := readAs_of_declared hs hmem hfits.2
    simp only [resolveSingleDataRef, hexisting, materializeRecord, hread,
      Option.bind_some, href.1, declaredValue]
    cases record.backend with
    | file =>
      simp only
      rw [materializeFile_congr readers limit hrecord.2]
      exact hagree.1
    | segment index offset length =>
      simp only
      rw [materializeSegment_congr readers hrecord.2]
      exact hagree.2
  · obtain ⟨found, hfound, hfits⟩ := getObjectArtifact_of_known hs hstored.known
    have hread := readRecord_of_fits hinjective hstored.id hfits
    simp only [fetchResultRefData, hfound, hread, Option.bind_some, href.1,
      declaredValue]
    exact materializeDownloaded_congr readers limit href.2 _

theorem empty_sound : (Store.empty : Store ι).Sound readers limit sha256 := by
  refine ⟨?_, ?_, ?_, ?_, ?_⟩
  · intro id name content hfile
    cases hfile
  · intro id record hmeta
    cases hmeta
  · intro id record hobject
    cases hobject
  · intro stored hmem
    cases hmem
  · intro stored hmem
    cases hmem

end Store

/-- References keep their meaning while equal bytes are declared to have formats
that are read alike, and the materializers agree on an object exactly then. -/
theorem objects_do_not_interfere (hinjective : Function.Injective sha256)
    (segmentMax : ℕ) :
    (∀ fmt as blob, (materializeFile readers limit fmt as blob =
          materializeDownloaded readers limit fmt as blob ∧
        materializeSegment readers fmt as blob =
          materializeDownloaded readers limit fmt as blob) ↔
      Agrees readers limit fmt as blob) ∧
    ∀ s : Store ι, GuardedRun (step sha256 segmentMax)
      (undisturbed readers limit sha256) Store.empty s → s.Truthful readers limit := by
  refine ⟨materialize_agree_iff readers limit, ?_⟩
  intro s hrun
  have hsound : s.Sound readers limit sha256 :=
    hrun.invariant (Store.Sound readers limit sha256) Store.empty_sound
      (fun _ _ _ hs hok htake => hs.step hinjective hok htake)
  exact hsound.truthful hinjective

end

/-- Readers that know ASCII texts and the pickle of `None`. -/
def sampleReaders : Readers String Unit where
  deserialize codec blob :=
    if codec = .pickleNativeV1 ∧ blob = [128, 5, 78, 46] then some "None" else none
  decodeUtf8 blob :=
    if blob.all (· < 128) then some (blob.map fun byte => Char.ofNat byte.toNat) else none
  jsonLoads _ := none
  jsonLoads_universalNewlines _ := rfl
  convertDictToArrow := some
  npLoad _ := none
  readParquet _ := none
  openZip _ := none
  jsonLoad _ := none
  dataframe _ := "frame"
  deserializeDataframe _ _ := none
  deserializeSeries _ _ := none
  columns _ := 1
  isEmpty _ := false
  firstColumn _ := "column"
  emptySeries := "empty"

theorem agrees_sampleText (fmt : String) (hfmt : codecOf fmt = none) :
    Agrees sampleReaders 100 fmt .text [104, 105] := by
  unfold Agrees
  rw [hfmt]
  intro text htext
  have hletters : some text = some ['h', 'i'] := htext.symm
  rw [Option.some.injEq] at hletters
  rw [hletters]
  decide

/-- A text is stored as a file and uploaded again as a log.  The bytes themselves
stand for their hash. -/
theorem sample_objects_do_not_interfere : ∃ s : Store (List UInt8),
    s.returned.map (fun stored => stored.ref.format) = ["txt", "txt"] ∧
      s.Truthful sampleReaders 100 := by
  have hfirst : undisturbed sampleReaders 100 id Store.empty
      (.commitFile [104, 105] "txt" .text true) :=
    ⟨agrees_sampleText "txt" (by decide), fun _ hmem => by cases hmem⟩
  obtain ⟨s, hs⟩ : ∃ s, step id 0 Store.empty
      (.commitFile [104, 105] "txt" .text true) = some s := ⟨_, rfl⟩
  have hreturned : s.returned =
      [⟨⟨[104, 105], "txt", .text⟩, "txt", [104, 105], ⟨"txt", .file⟩⟩] := by
    cases hs
    rfl
  have hsecond : undisturbed sampleReaders 100 id s
      (.upload [104, 105] "log" .text 0) := by
    refine ⟨agrees_sampleText "log" (by decide), ?_⟩
    intro stored hmem _
    rw [hreturned, List.mem_singleton] at hmem
    rw [hmem]
    decide
  obtain ⟨t, ht⟩ : ∃ t, step id 0 s (.upload [104, 105] "log" .text 0) = some t :=
    ⟨_, rfl⟩
  refine ⟨t, ?_, (objects_do_not_interfere sampleReaders 100 id Function.injective_id
    0).2 t (.tail _ (.tail _ .refl hfirst hs) hsecond ht)⟩
  cases hs
  cases ht
  decide +kernel

/-- The pickle of `None` is stored, then a result file with the same bytes and no
format: the first reference means those bytes. -/
theorem equal_bytes_interfere : ∃ s : Store (List UInt8),
    Reachable (step id 0) Store.empty s ∧
    ∃ stored ∈ s.returned, stored.declared = "pickle_native_v1" ∧
      resolveSingleDataRef sampleReaders 100 s stored.ref =
        some (.bytes [128, 5, 78, 46]) ∧
      declaredValue sampleReaders 100 stored.declared stored.ref.materializeAs
        stored.blob = some (.object "None") ∧
      ¬ s.Truthful sampleReaders 100 := by
  have hrun : (runLabels (step id 0) Store.empty
      [.upload [128, 5, 78, 46] "pickle_native_v1" .auto 0,
        .commitFile [128, 5, 78, 46] "bin" .path true]).any (fun s =>
        s.returned.any fun stored =>
          stored.declared = "pickle_native_v1" ∧
          resolveSingleDataRef sampleReaders 100 s stored.ref =
            some (.bytes [128, 5, 78, 46]) ∧
          declaredValue sampleReaders 100 stored.declared stored.ref.materializeAs
            stored.blob = some (.object "None")) = true := by
    decide +kernel
  rw [Option.any_eq_true] at hrun
  obtain ⟨s, hs, hany⟩ := hrun
  rw [List.any_eq_true] at hany
  obtain ⟨stored, hmem, hfacts⟩ := hany
  obtain ⟨hdeclared, hresolved, hvalue⟩ := of_decide_eq_true hfacts
  refine ⟨s, reachable_of_runLabels _ hs, stored, hmem, hdeclared, hresolved, hvalue, ?_⟩
  intro htruthful
  have hsame := (htruthful stored hmem).1
  rw [hresolved, hvalue] at hsame
  cases hsame

end PycloudParallel.ObjectStore
