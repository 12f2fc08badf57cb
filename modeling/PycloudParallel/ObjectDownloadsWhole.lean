import PycloudParallel.ObjectDownloadsModel

/-!
# Whole downloads

A loop that copies chunks takes a connection that is closed too early for the
end of the object, so what it delivers depends on where the connections end.
-/

namespace PycloudParallel.ObjectDownloads

variable {α ρ ν γ : Type}

def Carriage.count (sent : ℕ) : Carriage → ℕ
  | .refused => 0
  | .carried => sent
  | .cut position _ => min position sent

/-- With how many bytes a copy of a response ends without an exception, where
`size` bytes are announced and `sent` are sent. -/
def Carriage.endsAt (size sent : ℕ) : Carriage → Option ℕ
  | .refused => none
  | .carried => some sent
  | .cut position ending =>
    if sent < position then some sent
    else if ending = .closed ∨ (0 < size ∧ size ≤ position) then some position
    else none

def Circumstances.endsAt (c : Circumstances ν) (size : ℕ) (relayed : Bool) :
    Option ℕ :=
  if relayed = true then
    match c.node with
    | .refused => none
    | _ => c.relay.endsAt size (c.node.count size)
  else c.node.endsAt size size

theorem Carriage.count_le (sent : ℕ) (carriage : Carriage) :
    carriage.count sent ≤ sent := by
  cases carriage with
  | refused => exact Nat.zero_le sent
  | carried => exact Nat.le_refl sent
  | cut position ending => exact Nat.min_le_right position sent

variable {carriage : Carriage} {size : ℕ} {sent : List α}

theorem Carriage.endsAt_le {sent count : ℕ}
    (hends : carriage.endsAt size sent = some count) : count ≤ sent := by
  cases carriage with
  | refused => cases hends
  | carried =>
    cases hends
    exact Nat.le_refl sent
  | cut position ending =>
    rw [Carriage.endsAt] at hends
    split at hends
    · cases hends
      exact Nat.le_refl sent
    · split at hends
      · cases hends
        omega
      · cases hends

theorem Circumstances.endsAt_le {c : Circumstances ν} {count : ℕ}
    {relayed : Bool} (hends : c.endsAt size relayed = some count) :
    count ≤ size := by
  rw [Circumstances.endsAt] at hends
  split at hends
  · split at hends
    · cases hends
    · exact (Carriage.endsAt_le hends).trans (c.node.count_le size)
  · exact Carriage.endsAt_le hends

theorem StoredObject.iterFileChunks_flatten (object : StoredObject α)
    (amounts : ℕ → ℕ) :
    (object.iterFileChunks amounts).flatten = object.bytes ∧
      object.sourceLength = object.bytes.length := by
  have hstored := object.stored
  have hsize := object.size
  have hcopied := (IncomingBody.copy_eq amounts 0
    ⟨some object.sourceLength, object.content.drop object.sourceOffset,
      .closed⟩).1
  have hchunks : (object.iterFileChunks amounts).flatten =
      (object.content.drop object.sourceOffset).take object.sourceLength :=
    hcopied
  rw [hchunks, ObjectArtifact.sourceLength, ObjectArtifact.sourceOffset]
  cases hbackend : object.backend with
  | file =>
    rw [hbackend] at hstored
    simp only at hstored
    have hlength : (if object.sizeBytes = 0 then object.bytes.length
        else object.sizeBytes) = object.bytes.length := by
      rw [hsize, ite_self]
    simp [hstored, hlength]
  | segment =>
    rw [hbackend] at hstored
    simp only at hstored
    have hlength : (if object.segmentLength = 0 then object.sizeBytes
        else object.segmentLength) = object.bytes.length := by
      rw [hstored.1, hsize, ite_self]
    simp only [hlength, hstored.2, and_self]

theorem copyToFile_eq (amounts : ℕ → ℕ) (body : IncomingBody α) :
    copyToFile amounts body =
      if body.finishes = true then some body.delivered else none := by
  have hcopied := IncomingBody.copy_eq amounts 0 body
  rw [copyToFile, hcopied.1, hcopied.2]

theorem announced_body {rest : List α} (hsize : rest.length ≤ size)
    (ending : StreamEnd) :
    let body : IncomingBody α :=
      ⟨if 0 < size then some size else none, rest, ending⟩
    body.delivered = rest ∧ body.length.getD 0 = size ∧
      (body.finishes = true ↔
        ending = .closed ∨ (0 < size ∧ size ≤ rest.length)) := by
  intro body
  by_cases hpositive : 0 < size
  · have hbody : body = ⟨some size, rest, ending⟩ := by
      simp only [body, if_pos hpositive]
    rw [hbody]
    refine ⟨List.take_of_length_le hsize, rfl, ?_⟩
    simp [IncomingBody.finishes, hpositive]
  · have hbody : body = ⟨none, rest, ending⟩ := by
      simp only [body, if_neg hpositive]
    rw [hbody]
    refine ⟨rfl, (Nat.eq_zero_of_not_pos hpositive).symm, ?_⟩
    simp [IncomingBody.finishes, hpositive]

theorem deliver_copyToFile (carriage : Carriage) (amounts : ℕ → ℕ)
    (hsize : sent.length ≤ size) :
    (carriage.deliver sent size).bind (copyToFile amounts) =
      (carriage.endsAt size sent.length).map fun count => sent.take count := by
  obtain ⟨hwhole, _, hclosed⟩ := announced_body hsize .closed
  cases carriage with
  | refused => rfl
  | carried =>
    rw [Carriage.deliver, Option.bind_some, copyToFile_eq,
      if_pos (hclosed.mpr (Or.inl rfl)), hwhole, Carriage.endsAt,
      Option.map_some, List.take_length]
  | cut position ending =>
    rw [Carriage.endsAt]
    by_cases hposition : position ≤ sent.length
    · have hlength : (sent.take position).length = position := by
        rw [List.length_take]
        omega
      have htaken : (sent.take position).length ≤ size := by
        omega
      obtain ⟨hrest, _, hfinishes⟩ := announced_body htaken ending
      rw [hlength] at hfinishes
      simp only [Carriage.deliver, if_pos hposition, Option.bind_some,
        copyToFile_eq, hrest, hfinishes, if_neg (Nat.not_lt.mpr hposition)]
      split <;> rfl
    · simp only [Carriage.deliver, if_neg hposition, Option.bind_some,
        copyToFile_eq, if_pos (hclosed.mpr (Or.inl rfl)), hwhole,
        if_pos (Nat.lt_of_not_le hposition), Option.map_some,
        List.take_length]

theorem deliver_copy (amounts : ℕ → ℕ) {body : IncomingBody α}
    (hbody : carriage.deliver sent sent.length = some body) :
    (body.copy amounts 0).1.flatten =
        sent.take (carriage.count sent.length) ∧
      body.length.getD 0 = sent.length := by
  have hcopied := (IncomingBody.copy_eq amounts 0 body).1
  obtain ⟨hwhole, hlength, _⟩ := announced_body (Nat.le_refl sent.length) .closed
  cases carriage with
  | refused => cases hbody
  | carried =>
    cases hbody
    rw [hcopied, hwhole, Carriage.count, List.take_length]
    exact ⟨rfl, hlength⟩
  | cut position ending =>
    rw [Carriage.deliver] at hbody
    split at hbody
    case isTrue hposition =>
      have htaken : (sent.take position).length ≤ sent.length :=
        List.length_take_le' position sent
      obtain ⟨hrest, hannounced, _⟩ := announced_body htaken ending
      cases hbody
      rw [hcopied, hrest, Carriage.count, Nat.min_eq_left hposition]
      exact ⟨rfl, hannounced⟩
    case isFalse hposition =>
      cases hbody
      rw [hcopied, hwhole, Carriage.count,
        Nat.min_eq_right (Nat.le_of_not_le hposition), List.take_length]
      exact ⟨rfl, hlength⟩

theorem deliver_eq_none_iff :
    carriage.deliver sent size = none ↔ carriage = .refused := by
  cases carriage with
  | refused => exact ⟨fun _ => rfl, fun _ => rfl⟩
  | carried => exact ⟨nofun, nofun⟩
  | cut position ending =>
    rw [Carriage.deliver]
    split <;> exact ⟨nofun, nofun⟩

/-! ## Transfers -/

section Transfers

variable {s : RefState α ρ ν} {c : Circumstances ν} {node : NodeObject α ρ}

section

variable (hnode : s.nodes c.source = some node)

include hnode

theorem openNodeObjectDownload_stored :
    openNodeObjectDownload s c =
      c.node.deliver node.object.bytes node.object.bytes.length := by
  obtain ⟨hchunks, hlength⟩ :=
    node.object.iterFileChunks_flatten c.nodeAmounts
  rw [openNodeObjectDownload, hnode, Option.bind_some]
  simp only [hchunks, hlength]

theorem downloadObjectToFile_eq :
    downloadObjectToFile s c =
      (c.endsAt node.object.bytes.length false).map fun count =>
        node.object.bytes.take count := by
  rw [downloadObjectToFile, openNodeObjectDownload_stored hnode,
    deliver_copyToFile c.node c.clientAmounts (Nat.le_refl _)]
  rfl

theorem downloadRefToFile_eq {targets : List ν} (hentry : s.entry = some targets) :
    downloadRefToFile s c =
      (c.endsAt node.object.bytes.length true).map fun count =>
        node.object.bytes.take count := by
  rw [downloadRefToFile, downloadRef, hentry, Option.bind_some,
    openNodeObjectDownload_stored hnode]
  cases hbody : c.node.deliver node.object.bytes node.object.bytes.length with
  | none =>
    rw [Circumstances.endsAt, deliver_eq_none_iff.mp hbody]
    rfl
  | some body =>
    obtain ⟨hread, hlength⟩ := deliver_copy c.relayAmounts hbody
    have hcount := c.node.count_le node.object.bytes.length
    have htaken : (node.object.bytes.take
        (c.node.count node.object.bytes.length)).length =
          c.node.count node.object.bytes.length := by
      rw [List.length_take]
      omega
    have hends : c.endsAt node.object.bytes.length true =
        c.relay.endsAt node.object.bytes.length
          (c.node.count node.object.bytes.length) := by
      rw [Circumstances.endsAt, if_pos rfl]
      cases hcarriage : c.node with
      | refused =>
        rw [hcarriage] at hbody
        cases hbody
      | carried | cut position ending => rfl
    rw [Option.bind_some, hread, hlength,
      deliver_copyToFile c.relay c.clientAmounts (htaken.trans_le hcount),
      htaken, hends]
    apply Option.map_congr
    intro count hmem
    rw [List.take_take, Nat.min_eq_left (Carriage.endsAt_le hmem)]

end

theorem deliver_readAll {carriage : Carriage} {sent content : List α}
    {body : IncomingBody α}
    (hbody : carriage.deliver sent sent.length = some body)
    (hread : body.readAll = some content) : content = sent := by
  have hannounced : ∃ count ending, body =
      ⟨if 0 < sent.length then some sent.length else none, sent.take count,
        ending⟩ := by
    cases carriage with
    | refused => cases hbody
    | carried =>
      cases hbody
      exact ⟨sent.length, .closed, by rw [List.take_length]⟩
    | cut position ending =>
      rw [Carriage.deliver] at hbody
      split at hbody
      · cases hbody
        exact ⟨position, ending, rfl⟩
      · cases hbody
        exact ⟨sent.length, .closed, by rw [List.take_length]⟩
  obtain ⟨count, ending, hbody⟩ := hannounced
  rw [hbody] at hread
  by_cases hpositive : 0 < sent.length
  · simp only [IncomingBody.readAll, if_pos hpositive, List.length_take]
      at hread
    split at hread
    case isFalse => cases hread
    case isTrue hlength =>
      cases hread
      rw [List.take_take, List.take_of_length_le (by omega)]
  · have hnil : sent = [] := 
      List.length_eq_zero_iff.mp (Nat.eq_zero_of_not_pos hpositive)
    subst hnil
    simp only [IncomingBody.readAll, if_neg hpositive, List.take_nil] at hread
    split at hread
    · cases hread
      rfl
    · cases hread

theorem downloadObjectBytes_whole (hnode : s.nodes c.source = some node)
    {content : List α} (hcontent : downloadObjectBytes s c = some content) :
    content = node.object.bytes := by
  rw [downloadObjectBytes, hnode] at hcontent
  split at hcontent
  case h_2 => cases hcontent
  case h_1 found _ hfound _ =>
    split at hcontent
    case isFalse => cases hcontent
    case isTrue =>
      rw [openNodeObjectDownload_stored hnode] at hcontent
      obtain ⟨body, hbody, hread⟩ := Option.bind_eq_some_iff.mp hcontent
      split at hread
      · exact deliver_readAll hbody hread
      · cases hread

end Transfers

section Calls

variable [DecidableEq ρ] [DecidableEq ν]

structure Circumstances.Calm (c : Circumstances ν) (size : ℕ) : Prop where
  metaAnswered : c.metaAnswered = true
  limit : size ≤ c.materializeLimit
  node : c.node = .carried
  relay : c.relay = .carried

/-- A call delivers the bytes of the object or raises, and if its download is
not whole, then it leaves the object and its entry as they are, so that the
download can be made again. -/
structure WholeAndKept (s : RefState α ρ ν) (c : Circumstances ν)
    (ref : ResultRef ρ) (materialize : List α → Option γ) (bytes : List α)
    (call : DownloadCall) : Prop where
  whole : ∀ content, (call.run s c ref materialize).1 = some content →
    content = bytes
  kept : call.transfer s c ≠ some bytes →
    (call.run s c ref materialize).2 = s
  again : call.transfer s c ≠ some bytes → ∀ later : Circumstances ν,
    later.source = c.source → later.Calm bytes.length →
      call.transfer (call.run s c ref materialize).2 later = some bytes

def EndsWhole (c : Circumstances ν) (size : ℕ) (relayed : Bool) : Prop :=
  ∀ count, c.endsAt size relayed = some count → count = size

/-- The first part of the object that a copy takes for the whole does not go
through the materialiser. -/
def PartsRaise (c : Circumstances ν) (bytes : List α) (relayed : Bool)
    (materialize : List α → Option γ) : Prop :=
  ∀ count, c.endsAt bytes.length relayed = some count →
    count ≠ bytes.length → materialize (bytes.take count) = none

def Meets (s : RefState α ρ ν) (c : Circumstances ν) (ref : ResultRef ρ)
    (materialize : List α → Option γ) (bytes : List α) :
    DownloadCall → Prop
  | .objectBytes => True
  | .objectToFile | .nodeResultToFile | .nodeResultData true =>
    EndsWhole c bytes.length false
  | .nodeResultData false => PartsRaise c bytes false materialize ∧
      (releaseObjectIfConsumed s c ref ≠ s → EndsWhole c bytes.length false)
  | .refToFile => EndsWhole c bytes.length true
  | .gatewayResultToFile | .gatewayResultData true =>
    EndsWhole c bytes.length true ∧
      (releaseDataRefIfConsumed s c ref ≠ s →
        c.endsAt bytes.length true = some bytes.length)
  | .gatewayResultData false => PartsRaise c bytes true materialize ∧
      (releaseDataRefIfConsumed s c ref ≠ s →
        c.endsAt bytes.length true = some bytes.length)

end Calls

/-! ## When they meet it -/

section Copies

variable {c : Circumstances ν} {bytes : List α} {relayed : Bool}
  {copied : Option (List α)}

theorem take_eq_self_iff {count : ℕ} (hcount : count ≤ bytes.length) :
    bytes.take count = bytes ↔ count = bytes.length := by
  rw [List.take_eq_self_iff]
  omega

variable (hcopied : copied =
  (c.endsAt bytes.length relayed).map fun count => bytes.take count)

include hcopied

theorem copied_whole_iff :
    copied = some bytes ↔
      c.endsAt bytes.length relayed = some bytes.length := by
  rw [hcopied]
  constructor
  · intro hwhole
    obtain ⟨count, hends, htake⟩ := Option.map_eq_some_iff.mp hwhole
    rw [hends, (take_eq_self_iff (Circumstances.endsAt_le hends)).mp htake]
  · intro hends
    rw [hends, Option.map_some, List.take_length]

theorem copied_endsWhole_iff :
    (∀ content, copied = some content → content = bytes) ↔
      EndsWhole c bytes.length relayed := by
  constructor
  · intro hwhole count hends
    have htaken : copied = some (bytes.take count) := by
      rw [hcopied, hends, Option.map_some]
    exact (take_eq_self_iff (Circumstances.endsAt_le hends)).mp
      (hwhole _ htaken)
  · intro hends content hcontent
    rw [hcopied] at hcontent
    obtain ⟨count, hcount, htake⟩ := Option.map_eq_some_iff.mp hcontent
    rw [← htake, hends count hcount, List.take_length]

theorem fetched_target_iff (materialize : List α → Option γ) :
    (∀ content, (copied.bind (materializeDownloaded materialize true)).map
      Fetched.bytes = some content → content = bytes) ↔
        EndsWhole c bytes.length relayed := by
  have hfetched : (copied.bind
      (materializeDownloaded materialize true)).map Fetched.bytes = copied := by
    cases copied <;> rfl
  rw [hfetched]
  exact copied_endsWhole_iff hcopied

theorem fetched_temporary_iff (materialize : List α → Option γ) :
    (∀ content, (copied.bind (materializeDownloaded materialize false)).map
      Fetched.bytes = some content → content = bytes) ↔
        PartsRaise c bytes relayed materialize := by
  have hfetched : ∀ count, c.endsAt bytes.length relayed = some count →
      (copied.bind (materializeDownloaded materialize false)).map
        Fetched.bytes = (materialize (bytes.take count)).map
          fun _ => bytes.take count := by
    intro count hends
    rw [hcopied, hends, Option.map_some, Option.bind_some,
      materializeDownloaded, if_neg Bool.false_ne_true, Option.map_map]
    rfl
  constructor
  · intro hwhole count hends hpart
    cases hvalue : materialize (bytes.take count) with
    | none => rfl
    | some value =>
      have hgiven := hwhole (bytes.take count) (by
        rw [hfetched count hends, hvalue, Option.map_some])
      exact (hpart ((take_eq_self_iff
        (Circumstances.endsAt_le hends)).mp hgiven)).elim
  · intro hraise content hcontent
    cases hends : c.endsAt bytes.length relayed with
    | none =>
      rw [hcopied, hends] at hcontent
      cases hcontent
    | some count =>
      rw [hfetched count hends] at hcontent
      obtain ⟨value, hvalue, htake⟩ := Option.map_eq_some_iff.mp hcontent
      by_cases hpart : count = bytes.length
      · rw [← htake, hpart, List.take_length]
      · rw [hraise count hends hpart] at hvalue
        cases hvalue

end Copies

section Calls

variable [DecidableEq ρ] [DecidableEq ν] {s : RefState α ρ ν}
  {c : Circumstances ν} {node : NodeObject α ρ}

omit [DecidableEq ρ] [DecidableEq ν] in
theorem downloadObjectBytes_of_calm (hnode : s.nodes c.source = some node)
    (hcalm : c.Calm node.object.bytes.length) :
    downloadObjectBytes s c = some node.object.bytes := by
  have hlimit := hcalm.limit
  obtain ⟨_, hlength, _⟩ := announced_body (Nat.le_refl
    node.object.bytes.length) .closed
  have hsize : withinLimit c node.object.sizeBytes = true := by
    rw [withinLimit, node.object.size, decide_eq_true_eq]
    exact hlimit
  simp only [downloadObjectBytes, hnode, hcalm.metaAnswered, hsize, if_true,
    openNodeObjectDownload_stored hnode, hcalm.node, Carriage.deliver,
    Option.bind_some, hlength]
  rw [withinLimit, if_pos (decide_eq_true hlimit)]
  by_cases hpositive : 0 < node.object.bytes.length
  · simp only [IncomingBody.readAll, if_pos hpositive, Nat.le_refl, if_true,
      List.take_length]
  · simp only [IncomingBody.readAll, if_neg hpositive, if_true]

variable {targets : List ν}

section

variable (hnode : s.nodes c.source = some node)

include hnode

omit [DecidableEq ρ] [DecidableEq ν] in
theorem transfer_of_calm (hentry : s.entry = some targets)
    (hcalm : c.Calm node.object.bytes.length) (call : DownloadCall) :
    call.transfer s c = some node.object.bytes := by
  have hdirect : downloadObjectToFile s c = some node.object.bytes := by
    rw [copied_whole_iff (downloadObjectToFile_eq hnode),
      Circumstances.endsAt, hcalm.node]
    rfl
  have hrelayed : downloadRefToFile s c = some node.object.bytes := by
    rw [copied_whole_iff (downloadRefToFile_eq hnode hentry),
      Circumstances.endsAt, hcalm.node, hcalm.relay]
    rfl
  cases call with
  | objectBytes => exact downloadObjectBytes_of_calm hnode hcalm
  | objectToFile | nodeResultToFile | nodeResultData _ => exact hdirect
  | refToFile | gatewayResultToFile | gatewayResultData _ => exact hrelayed

theorem wholeAndKept_of_kept (hentry : s.entry = some targets)
    (ref : ResultRef ρ) (materialize : List α → Option γ) (call : DownloadCall)
    (hwhole : ∀ content, (call.run s c ref materialize).1 = some content →
      content = node.object.bytes)
    (hkept : call.transfer s c ≠ some node.object.bytes →
      (call.run s c ref materialize).2 = s) :
    WholeAndKept s c ref materialize node.object.bytes call where
  whole := hwhole
  kept := hkept
  again hpart later hsource hcalm := by
    rw [hkept hpart]
    rw [← hsource] at hnode
    exact transfer_of_calm hnode hentry hcalm call

theorem nodeResult_kept_iff (ref : ResultRef ρ) :
    (downloadObjectToFile s c ≠ some node.object.bytes →
      (downloadNodeResultToFile s c ref).2 = s) ↔
        (releaseObjectIfConsumed s c ref ≠ s →
          EndsWhole c node.object.bytes.length false) := by
  have hcopied := downloadObjectToFile_eq hnode
  rw [ne_eq, copied_whole_iff hcopied, downloadNodeResultToFile, hcopied]
  constructor
  · intro hkept hreleases count hends
    rw [hends, Option.map_some] at hkept
    by_contra hpart
    exact hreleases (hkept fun hwhole => hpart (Option.some.inj hwhole))
  · intro hends hpart
    cases hcount : c.endsAt node.object.bytes.length false with
    | none => rfl
    | some count =>
      rw [Option.map_some]
      by_contra hreleases
      have hwhole := hends hreleases count hcount
      exact hpart (by rw [hcount, hwhole])

theorem gatewayResult_kept_iff (hentry : s.entry = some targets)
    (ref : ResultRef ρ) : (downloadRefToFile s c ≠ some node.object.bytes →
      releaseDataRefIfConsumed s c ref = s) ↔
        (releaseDataRefIfConsumed s c ref ≠ s →
          c.endsAt node.object.bytes.length true =
            some node.object.bytes.length) := by
  rw [ne_eq, copied_whole_iff (downloadRefToFile_eq hnode hentry)]
  exact not_imp_comm

end

/-- A call delivers the whole object or raises and loses nothing exactly if no
connection ends early in a way that a copy takes for the end of the object and
nothing is released behind a failed download. -/
theorem wholeAndKept_iff (hnode : s.nodes c.source = some node)
    {targets : List ν} (hentry : s.entry = some targets) (ref : ResultRef ρ)
    (materialize : List α → Option γ) (call : DownloadCall) :
    WholeAndKept s c ref materialize node.object.bytes call ↔
      Meets s c ref materialize node.object.bytes call := by
  have hdirect := downloadObjectToFile_eq hnode
  have hrelayed := downloadRefToFile_eq hnode hentry
  have hnodeResult : (downloadNodeResultToFile s c ref).1 =
      downloadObjectToFile s c := by
    rw [downloadNodeResultToFile]
    cases downloadObjectToFile s c <;> rfl
  have hnodeKept := nodeResult_kept_iff hnode ref
  have hgatewayKept := gatewayResult_kept_iff hnode hentry ref
  have hkept := wholeAndKept_of_kept hnode hentry ref materialize
  cases call with
  | objectBytes =>
    exact ⟨fun _ => trivial,
      fun _ => hkept _ (fun _ => downloadObjectBytes_whole hnode) fun _ => rfl⟩
  | objectToFile =>
    have hwhole := copied_endsWhole_iff hdirect
    exact ⟨fun hok => hwhole.mp hok.whole,
      fun hends => hkept _ (hwhole.mpr hends) fun _ => rfl⟩
  | refToFile =>
    have hwhole := copied_endsWhole_iff hrelayed
    exact ⟨fun hok => hwhole.mp hok.whole,
      fun hends => hkept _ (hwhole.mpr hends) fun _ => rfl⟩
  | nodeResultToFile =>
    have hwhole := copied_endsWhole_iff (hnodeResult.trans hdirect)
    exact ⟨fun hok => hwhole.mp hok.whole,
      fun hends => hkept _ (hwhole.mpr hends) (hnodeKept.mpr fun _ => hends)⟩
  | nodeResultData toTarget =>
    cases toTarget with
    | true =>
      have hwhole := fetched_target_iff (hnodeResult.trans hdirect) materialize
      exact ⟨fun hok => hwhole.mp hok.whole,
        fun hends => hkept _ (hwhole.mpr hends) (hnodeKept.mpr fun _ => hends)⟩
    | false =>
      have hwhole :=
        fetched_temporary_iff (hnodeResult.trans hdirect) materialize
      exact ⟨fun hok => ⟨hwhole.mp hok.whole, hnodeKept.mp hok.kept⟩,
        fun hmeets => hkept _ (hwhole.mpr hmeets.1) (hnodeKept.mpr hmeets.2)⟩
  | gatewayResultToFile =>
    have hwhole := copied_endsWhole_iff hrelayed
    exact ⟨fun hok => ⟨hwhole.mp hok.whole, hgatewayKept.mp hok.kept⟩,
      fun hmeets => hkept _ (hwhole.mpr hmeets.1) (hgatewayKept.mpr hmeets.2)⟩
  | gatewayResultData toTarget =>
    cases toTarget with
    | true =>
      have hwhole := fetched_target_iff hrelayed materialize
      exact ⟨fun hok => ⟨hwhole.mp hok.whole, hgatewayKept.mp hok.kept⟩,
        fun hmeets => hkept _ (hwhole.mpr hmeets.1) (hgatewayKept.mpr hmeets.2)⟩
    | false =>
      have hwhole := fetched_temporary_iff hrelayed materialize
      exact ⟨fun hok => ⟨hwhole.mp hok.whole, hgatewayKept.mp hok.kept⟩,
        fun hmeets => hkept _ (hwhole.mpr hmeets.1) (hgatewayKept.mpr hmeets.2)⟩

end Calls

def sampleObject : StoredObject ℕ where
  backend := .segment
  content := [9, 1, 2, 3, 9]
  sizeBytes := 3
  segmentOffset := 1
  segmentLength := 3
  bytes := [1, 2, 3]
  size := rfl
  stored := ⟨rfl, rfl⟩

def sampleState : RefState ℕ ℕ ℕ where
  nodes := Function.update (fun _ => none) 0 (some ⟨sampleObject, [7]⟩)
  entry := some [0]

def sampleCircumstances (node : Carriage) : Circumstances ℕ where
  source := 0
  metaAnswered := true
  materializeLimit := 1000
  node := node
  relay := .carried
  nodeAmounts _ := 2
  relayAmounts _ := 2
  clientAmounts _ := 2
  releaseArrives := true
  nodeReleaseArrives _ := true

def sampleRef : ResultRef ℕ :=
  ⟨some 7, true⟩

theorem sampleState_stored (node : Carriage) :
    sampleState.nodes (sampleCircumstances node).source =
      some ⟨sampleObject, [7]⟩ :=
  rfl

/-- A download that is reset in the middle raises, and nothing is lost. -/
theorem reset_download_kept :
    WholeAndKept sampleState (sampleCircumstances (.cut 1 .reset)) sampleRef
      (fun content => some content.length) [1, 2, 3] (.nodeResultData false) :=
  (wholeAndKept_iff (sampleState_stored (.cut 1 .reset)) rfl sampleRef
    (fun content => some content.length) (.nodeResultData false)).mpr
    ⟨nofun, fun _ => nofun⟩

/-- A download that is closed in the middle returns the first part and
releases the object, and the client of a gateway releases the entry behind a
download that was refused. -/
theorem closed_download_lost :
    ¬WholeAndKept sampleState (sampleCircumstances (.cut 1 .closed)) sampleRef
        (fun content => some content.length) [1, 2, 3] .nodeResultToFile ∧
      ¬WholeAndKept sampleState (sampleCircumstances .refused) sampleRef
        (fun content => some content.length) [1, 2, 3]
          .gatewayResultToFile := by
  constructor
  · intro hok
    have hcopied :=
      downloadObjectToFile_eq (sampleState_stored (.cut 1 .closed))
    have hpart : downloadObjectToFile sampleState
        (sampleCircumstances (.cut 1 .closed)) = some [1] := hcopied
    have hreturned : (DownloadCall.nodeResultToFile.run sampleState
        (sampleCircumstances (.cut 1 .closed)) sampleRef
        fun content => some content.length).1 = some [1] := by
      rw [DownloadCall.run, downloadNodeResultToFile, hpart]
    exact absurd (hok.whole [1] hreturned) (by decide)
  · intro hok
    have hkept := congrArg RefState.entry (hok.kept nofun)
    cases hkept

end PycloudParallel.ObjectDownloads
