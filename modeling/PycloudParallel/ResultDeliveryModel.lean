import PycloudParallel.TransportEncodings

/-!
# The ways of a result

The worker keeps the value that a user function returns, puts it into an inline
carrier, or stores it as a JSON object and keeps a reference.  The node sends
the result of a task as transport bytes or as a protobuf Struct, and the caller
decodes it and fetches the object of a reference.
-/

namespace PycloudParallel.ResultDelivery

open Transport Transport.PyValue

variable {φ α ρ : Type}

/-- The limits of a result, the object store and the sizes of other objects.
`structFits` and `blobFits` are the checks of the inline limit, `download` gives
the bytes of a reference if they can be had. -/
structure ResultPolicy (φ α ρ : Type) where
  inlineResultThreshold : ℕ
  structFits : PyValue φ α ρ → Bool
  blobFits : Blob → Bool
  store : Blob → ρ
  download : ρ → Option Blob
  objectSize : α → ℕ

variable (codecs : Codecs φ α ρ) (policy : ResultPolicy φ α ρ)

mutual

def estimatePayloadInlineSize : PyValue φ α ρ → ℕ
  | .null | .bool _ | .int _ | .float _ => 32
  | .str text => text.utf8ByteSize + 16
  | .bytes content => content.length
  | .ref _ => 256
  | .object other => policy.objectSize other
  | .list items | .tuple items => 2 + estimateItems items
  | .dict entries =>
    if (maybeDataRef codecs (.dict entries)).isSome then 256
    else 2 + estimateEntries entries

def estimateItems : List (PyValue φ α ρ) → ℕ
  | [] => 0
  | item :: rest => estimatePayloadInlineSize item + 2 + estimateItems rest

def estimateEntries : Entries φ α ρ → ℕ
  | [] => 0
  | (key, value) :: rest =>
    key.utf8ByteSize + 16 + estimatePayloadInlineSize value + 4 +
      estimateEntries rest

end

inductive TaskValue (φ α ρ : Type)
  | plain (value : PyValue φ α ρ)
  | carrier (codec : Mode) (blob : Blob)
  | stored (dataRef : ρ)

/-- `serialize_inline_result`, which takes `None` for an empty dict. -/
def serializeInlineResult (mode : Mode) (value : PyValue φ α ρ) :
    Option (PyValue φ α ρ) :=
  match value with
  | .null => structOf codecs mode (.dict [])
  | value => structOf codecs mode value

def tryInlineResult (useTransport : Bool) (mode : Mode)
    (value : PyValue φ α ρ) : Option (TaskValue φ α ρ) :=
  if useTransport then
    (encodeTransportPayloadBytes codecs mode value).bind fun blob =>
      if policy.blobFits blob then some (.carrier mode blob) else none
  else
    (serializeInlineResult codecs mode value).bind fun struct =>
      if policy.structFits struct then some (.plain value) else none

def storesAsJson : PyValue φ α ρ → Bool
  | .dict entries =>
    policy.inlineResultThreshold <
      estimatePayloadInlineSize codecs policy (.dict entries)
  | .list items =>
    policy.inlineResultThreshold <
      estimatePayloadInlineSize codecs policy (.list items)
  | _ => false

def resultJson (value : PyValue φ α ρ) : Option Blob :=
  (serializeArrowCompatible codecs value).bind codecs.jsonDumps

def normalizeResultValue (useTransport : Bool) (mode : Mode)
    (value : PyValue φ α ρ) : Option (TaskValue φ α ρ) :=
  if storesAsJson codecs policy value then
    (resultJson codecs value).map fun blob => .stored (policy.store blob)
  else tryInlineResult codecs policy useTransport mode value

inductive ExecutionStatus
  | succeeded
  | failedUser
  | failedInfra
  | failedDependency
deriving DecidableEq

def normalizeStatus : PyValue φ α ρ → ExecutionStatus
  | .str text =>
    let name := normalizeName text
    if name = "failed_user" then .failedUser
    else if name = "failed_infra" then .failedInfra
    else if name = "failed_dependency" then .failedDependency
    else .succeeded
  | _ => .succeeded

/-- The status and the value of what the function returned: a tuple of four, a
dict with a status, or the value itself. -/
def unpackStatus : PyValue φ α ρ → ExecutionStatus × PyValue φ α ρ × Bool
  | .tuple [status, result, _, _] => (normalizeStatus status, result, true)
  | .dict entries =>
    match entries.lookup "status" with
    | some status =>
      (normalizeStatus status, (entries.lookup "result").getD .null, true)
    | none => (.succeeded, .dict entries, false)
  | value => (.succeeded, value, false)

/-- `_normalize_user_return`: `None` next to a status is kept as it is. -/
def normalizeUserReturn (useTransport : Bool) (mode : Mode)
    (returned : PyValue φ α ρ) :
    Option (ExecutionStatus × Option (TaskValue φ α ρ)) :=
  match unpackStatus returned with
  | (status, .null, true) => some (status, none)
  | (status, value, _) =>
    (normalizeResultValue codecs policy useTransport mode value).map
      fun result => (status, some result)

inductive ResultMessage (φ α ρ : Type)
  | transportResult (codec : Mode) (blob : Blob)
  | struct (fields : PyValue φ α ρ)

def prefersRawBytesPayload (mode : Mode) : Bool :=
  mode ≠ .legacyV1

/-- `should_use_raw_bytes_payload` where the task does not say. -/
def usesTransportResult (useTransportResult : Option Bool) (mode : Mode) :
    Bool :=
  useTransportResult.getD (prefersRawBytesPayload mode)

def taskValue : Option (TaskValue φ α ρ) → Option (PyValue φ α ρ)
  | none => some .null
  | some (.plain value) => some value
  | some (.stored dataRef) => some (.ref dataRef)
  | some (.carrier _ _) => none

def valueToTransportPayload (mode : Mode) (result : Option (TaskValue φ α ρ)) :
    Option (ResultMessage φ α ρ) :=
  match result with
  | some (.carrier codec blob) => some (.transportResult codec blob)
  | result =>
    ((taskValue result).bind (encodeTransportPayloadBytes codecs mode)).bind
      fun blob =>
        if policy.blobFits blob then some (.transportResult mode blob)
        else none

def asResult (useTransportResult : Option Bool) (mode : Mode)
    (result : Option (TaskValue φ α ρ)) : Option (ResultMessage φ α ρ) :=
  if usesTransportResult useTransportResult mode then
    valueToTransportPayload codecs policy mode result
  else
    ((taskValue result).bind (dictToStruct codecs mode)).map .struct

/-- `decode_result_from_transport`, which converts what it has decoded. -/
def decodeResultFromTransport (fields : PyValue φ α ρ) :
    Option (PyValue φ α ρ) :=
  (decodeTransportValue codecs fields).bind (convertDictToArrow codecs)

def decodeMessage : ResultMessage φ α ρ → Option (PyValue φ α ρ)
  | .transportResult codec blob => decodeTransportPayloadBytes codecs codec blob
  | .struct fields => decodeResultFromTransport codecs fields

/-- `fetch_result_ref_data` of a JSON object: `_materialize_downloaded_result`
reads the text and converts nothing. -/
def fetchResultRefData (dataRef : ρ) : Option (PyValue φ α ρ) :=
  (policy.download dataRef).bind codecs.jsonLoads

def materializeOnNode (dataRef : ρ) : Option (PyValue φ α ρ) :=
  (fetchResultRefData codecs policy dataRef).bind (convertDictToArrow codecs)

def fetchResultData (message : ResultMessage φ α ρ) :
    Option (PyValue φ α ρ) :=
  (decodeMessage codecs message).bind fun data =>
    match maybeDataRef codecs data with
    | some dataRef => fetchResultRefData codecs policy dataRef
    | none => some data

/-- The way of a returned value to the caller; `none` if the caller gets an
error. -/
def deliver (useTransportResult : Option Bool) (mode : Mode)
    (returned : PyValue φ α ρ) : Option (PyValue φ α ρ) :=
  (normalizeUserReturn codecs policy (useTransportResult.getD false) mode
    returned).bind fun report =>
      if report.1 = .succeeded then
        (asResult codecs policy useTransportResult mode report.2).bind
          (fetchResultData codecs policy)
      else none

end PycloudParallel.ResultDelivery
