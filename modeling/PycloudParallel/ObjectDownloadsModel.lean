import PycloudParallel.FoundationIncomingBody

/-!
# Downloads of stored objects

A node streams an object from its file, the control plane relays such a stream,
and clients read it into memory or copy it to a file.  A result that is consumed
on reading is released by the call that fetches it.  The chunks of every loop
and what the connections do to the streams are arbitrary.
-/

namespace PycloudParallel.ObjectDownloads

variable {α ρ ν γ : Type}

/-! ## The node -/

inductive StorageBackend
  | file
  | segment
deriving DecidableEq

/-- An `ObjectArtifact` with the content of the file that it names. -/
structure ObjectArtifact (α : Type) where
  backend : StorageBackend
  content : List α
  sizeBytes : ℕ
  segmentOffset : ℕ
  segmentLength : ℕ

namespace ObjectArtifact

def sourceOffset (artifact : ObjectArtifact α) : ℕ :=
  match artifact.backend with
  | .segment => artifact.segmentOffset
  | .file => 0

def sourceLength (artifact : ObjectArtifact α) : ℕ :=
  match artifact.backend with
  | .segment =>
    if artifact.segmentLength = 0 then artifact.sizeBytes
    else artifact.segmentLength
  | .file =>
    if artifact.sizeBytes = 0 then artifact.content.length
    else artifact.sizeBytes

/-- `_iter_file_chunks`; a read asks for no more than what remains. -/
def iterFileChunks (artifact : ObjectArtifact α) (amounts : ℕ → ℕ) :
    List (List α) :=
  let source : IncomingBody α :=
    ⟨some artifact.sourceLength, artifact.content.drop artifact.sourceOffset,
      .closed⟩
  (source.copy amounts 0).1

end ObjectArtifact

structure StoredObject (α : Type) extends ObjectArtifact α where
  bytes : List α
  size : sizeBytes = bytes.length
  stored : match backend with
    | .file => content = bytes
    | .segment => segmentLength = bytes.length ∧
        (content.drop segmentOffset).take bytes.length = bytes

structure NodeObject (α ρ : Type) where
  object : StoredObject α
  pins : List ρ

/-- `release_object`: with a ref only its pin goes, and the object when no pin
is left. -/
def releaseObject [DecidableEq ρ] (refId : Option ρ) :
    Option (NodeObject α ρ) → Option (NodeObject α ρ)
  | none => none
  | some node =>
    match refId with
    | none => none
    | some ref =>
      let pins := node.pins.filter fun pin => pin ≠ ref
      if pins = [] then none else some { node with pins := pins }

/-- What a connection does to a response: there is none or an error, it is
carried, or the connection ends behind that many of its bytes. -/
inductive Carriage
  | refused
  | carried
  | cut (position : ℕ) (ending : StreamEnd)

def Carriage.deliver (sent : List α) (contentLength : ℕ) :
    Carriage → Option (IncomingBody α)
  | .refused => none
  | .carried =>
    some ⟨if 0 < contentLength then some contentLength else none, sent,
      .closed⟩
  | .cut position ending =>
    let announced := if 0 < contentLength then some contentLength else none
    if position ≤ sent.length then
      some ⟨announced, sent.take position, ending⟩
    else some ⟨announced, sent, .closed⟩

/-- The connections of a call and the sizes of all chunks, with the limit for
reads into memory, the node that is asked and which requests get through. -/
structure Circumstances (ν : Type) where
  source : ν
  metaAnswered : Bool
  materializeLimit : ℕ
  node : Carriage
  relay : Carriage
  nodeAmounts : ℕ → ℕ
  relayAmounts : ℕ → ℕ
  clientAmounts : ℕ → ℕ
  releaseArrives : Bool
  nodeReleaseArrives : ν → Bool

/-- The object of a ref on the nodes, and the nodes that the registry entry of
the ref names, if there is one. -/
structure RefState (α ρ ν : Type) where
  nodes : ν → Option (NodeObject α ρ)
  entry : Option (List ν)

structure ResultRef (ρ : Type) where
  refId : Option ρ
  consumeOnRead : Bool

section Calls

variable [DecidableEq ρ] [DecidableEq ν]
variable (s : RefState α ρ ν) (c : Circumstances ν) (ref : ResultRef ρ)

def RefState.releaseOnNode (refId : Option ρ) (node : ν) : RefState α ρ ν :=
  { s with nodes :=
    Function.update s.nodes node (releaseObject refId (s.nodes node)) }

def RefState.releaseDataRef (refId : Option ρ) : RefState α ρ ν :=
  match s.entry with
  | none => s
  | some targets =>
    (targets.filter fun node => c.nodeReleaseArrives node).foldl
      (fun state node => state.releaseOnNode refId node)
      { s with entry := none }

/-- The response of a node to a download, `_handle_download`. -/
def openNodeObjectDownload : Option (IncomingBody α) :=
  (s.nodes c.source).bind fun node =>
    let artifact := node.object.toObjectArtifact
    c.node.deliver (artifact.iterFileChunks c.nodeAmounts).flatten
      artifact.sourceLength

/-- `validate_bytes_materialize_size`. -/
def withinLimit (size : ℕ) : Bool :=
  size ≤ c.materializeLimit

def downloadObjectBytes : Option (List α) :=
  match s.nodes c.source, c.metaAnswered with
  | some node, true =>
    if withinLimit c node.object.sizeBytes = true then
      (openNodeObjectDownload s c).bind fun body =>
        if withinLimit c (body.length.getD 0) = true then body.readAll
        else none
    else none
  | _, _ => none

def copyToFile (amounts : ℕ → ℕ) (body : IncomingBody α) : Option (List α) :=
  let copied := body.copy amounts 0
  if copied.2 = true then some copied.1.flatten else none

def downloadObjectToFile : Option (List α) :=
  (openNodeObjectDownload s c).bind (copyToFile c.clientAmounts)

/-- `DataPlaneHttpApp._download_ref`: what has been read is sent on, also in
front of an exception. -/
def downloadRef : Option (IncomingBody α) :=
  s.entry.bind fun _ =>
    (openNodeObjectDownload s c).bind fun body =>
      c.relay.deliver (body.copy c.relayAmounts 0).1.flatten
        (body.length.getD 0)

def downloadRefToFile : Option (List α) :=
  (downloadRef s c).bind (copyToFile c.clientAmounts)

/-- What a call that fetches a result returns: a file, or what is materialised
from one. -/
inductive Fetched (α γ : Type)
  | file (content : List α)
  | value (given : List α) (value : γ)

def Fetched.bytes : Fetched α γ → List α
  | .file content => content
  | .value given _ => given

variable (materialize : List α → Option γ) (toTarget : Bool)

def materializeDownloaded (content : List α) : Option (Fetched α γ) :=
  if toTarget = true then some (.file content)
  else (materialize content).map fun value => .value content value

/-- `_release_data_ref_if_consumed` of the client of a node. -/
def releaseObjectIfConsumed : RefState α ρ ν :=
  if ref.consumeOnRead = true ∧ c.releaseArrives = true then
    s.releaseOnNode ref.refId c.source
  else s

/-- `download_result_to_file` of the client of a node: the release comes behind
a download that has returned. -/
def downloadNodeResultToFile : Option (List α) × RefState α ρ ν :=
  match downloadObjectToFile s c with
  | none => (none, s)
  | some content => (some content, releaseObjectIfConsumed s c ref)

def fetchResultRefData : Option (Fetched α γ) × RefState α ρ ν :=
  let downloaded := downloadNodeResultToFile s c ref
  (downloaded.1.bind (materializeDownloaded materialize toTarget),
    downloaded.2)

def releaseDataRefIfConsumed : RefState α ρ ν :=
  if ref.consumeOnRead = true ∧ c.releaseArrives = true then
    s.releaseDataRef c ref.refId
  else s

/-- `download_result_to_file` of the client of the gateway: the release stands
in a `finally` block. -/
def downloadGatewayResultToFile : Option (List α) × RefState α ρ ν :=
  (downloadRefToFile s c, releaseDataRefIfConsumed s c ref)

def fetchGatewayResultData : Option (Fetched α γ) × RefState α ρ ν :=
  ((downloadRefToFile s c).bind (materializeDownloaded materialize toTarget),
    releaseDataRefIfConsumed s c ref)

inductive DownloadCall
  | objectBytes
  | objectToFile
  | refToFile
  | nodeResultToFile
  | nodeResultData (toTarget : Bool)
  | gatewayResultToFile
  | gatewayResultData (toTarget : Bool)

def DownloadCall.transfer : DownloadCall → Option (List α)
  | .objectBytes => downloadObjectBytes s c
  | .objectToFile | .nodeResultToFile | .nodeResultData _ =>
    downloadObjectToFile s c
  | .refToFile | .gatewayResultToFile | .gatewayResultData _ =>
    downloadRefToFile s c

/-- The bytes that a call returns, leaves in the target file or has given to
the materialiser, if it returns, and the state behind it. -/
def DownloadCall.run : DownloadCall → Option (List α) × RefState α ρ ν
  | .objectBytes => (downloadObjectBytes s c, s)
  | .objectToFile => (downloadObjectToFile s c, s)
  | .refToFile => (downloadRefToFile s c, s)
  | .nodeResultToFile => downloadNodeResultToFile s c ref
  | .nodeResultData toTarget =>
    let fetched := fetchResultRefData s c ref materialize toTarget
    (fetched.1.map Fetched.bytes, fetched.2)
  | .gatewayResultToFile => downloadGatewayResultToFile s c ref
  | .gatewayResultData toTarget =>
    let fetched := fetchGatewayResultData s c ref materialize toTarget
    (fetched.1.map Fetched.bytes, fetched.2)

end Calls

end PycloudParallel.ObjectDownloads
