import PycloudParallel.FoundationCallLog
import PycloudParallel.FoundationTexts
import PycloudParallel.TransportEncodings

/-!
# Received values

What the receivers of values, payload bytes and inline carriers make of the
codec that a sender declares, and which decoders they call.

The builtins `str`, `int`, `bytes` and `dict` on an arbitrary value, `str.lower`
and SHA-256 are parameters beside the codecs.
-/

namespace PycloudParallel.Transport

open Texts (strip orElse Casing)

variable {φ α ρ : Type}

structure Builtins (φ α ρ : Type) where
  casing : Casing
  str : PyValue φ α ρ → String
  int : PyValue φ α ρ → Option ℤ
  bytes : PyValue φ α ρ → Option Blob
  dict : PyValue φ α ρ → Option (Entries φ α ρ)
  sha256 : Blob → String

inductive TransportError
  | unsupportedMode (name : String)
  | notAllowed (mode : Mode) (context : String)
  | internalOnly (context : String)
  | unsupportedVersion (version : ℤ)
  | inlineLimit (context : String) (size limit : ℕ)
  | conversion
  | missingCodec
  | missingEnvelope (context : String) (mode : Mode)
  | byteEncoding
  | notACarrier
  | carrierMetadata
  | unsupportedCarrier
  | sizeMismatch (declared : ℤ) (actual : ℕ)
  | checksumMismatch
  | undecodable
deriving DecidableEq

inductive Loader
  | convertDictToArrow
  | structuredLoads
  | stablePickleLoads
  | pickleLoads
deriving DecidableEq

def Loader.unpickles : Loader → Bool
  | .stablePickleLoads | .pickleLoads => true
  | .convertDictToArrow | .structuredLoads => false

abbrev Receiving (β : Type) := CallLog TransportError Loader β

/-! ## Modes -/

def supportedModes : List Mode :=
  [.legacyV1, .structuredV1, .pickleStableV1, .pickleNativeV1]

def pickleRestrictedContexts : List String :=
  ["gateway_public", "untrusted_transport"]

def internalPickleNativeContexts : List String :=
  ["service_internal", "service_owner", "taskpool_session", "service_result",
    "local_ipc"]

section Modes

variable (casing : Casing)

def normalizedText (text : String) : String :=
  casing.lower (strip text)

def normalizeSerializationMode (value : String) :
    Except TransportError (Option Mode) :=
  let normalized := normalizedText casing value
  if normalized = "" then .ok none
  else
    match supportedModes.find? fun mode => mode.name = normalized with
    | some mode => .ok (some mode)
    | none => .error (.unsupportedMode normalized)

/-- `validate_mode_for_context`, which computes a trust mode and drops it. -/
def validateModeForContext (mode context _trustMode : String) (strict : Bool) :
    Except TransportError Mode := do
  let normalized := (← normalizeSerializationMode casing mode).getD .legacyV1
  let normalizedContext := normalizedText casing context
  if normalized.isPickle ∧ normalizedContext ∈ pickleRestrictedContexts then
    if strict = false then .ok .structuredV1
    else .error (.notAllowed normalized normalizedContext)
  else .ok normalized

def resolveDeclaredTransportMode (declaredMode defaultMode : String) :
    Except TransportError Mode := do
  match ← normalizeSerializationMode casing declaredMode with
  | some declared => .ok declared
  | none =>
    .ok ((← normalizeSerializationMode casing defaultMode).getD .legacyV1)

def resolveReceivedTransportMode
    (declaredMode defaultMode context trustMode : String) :
    Except TransportError Mode := do
  let resolved ← resolveDeclaredTransportMode casing declaredMode defaultMode
  validateModeForContext casing resolved.name context trustMode true

end Modes

variable (codecs : Codecs φ α ρ) (builtins : Builtins φ α ρ)

def orRaise {β : Type} (error : TransportError) (result : Option β) :
    Except TransportError β :=
  match result with
  | some value => .ok value
  | none => .error error

def load (loader : Loader) (result : Option (PyValue φ α ρ)) :
    Receiving (PyValue φ α ρ) :=
  .call loader (orRaise .undecodable result)

def textOr (value : PyValue φ α ρ) : String :=
  if truthy codecs value = true then builtins.str value else ""

def intOr (value : PyValue φ α ρ) : Except TransportError ℤ :=
  if truthy codecs value = true then orRaise .conversion (builtins.int value)
  else .ok 0

def dictOr (value : PyValue φ α ρ) :
    Except TransportError (Entries φ α ρ) :=
  if truthy codecs value = true then orRaise .conversion (builtins.dict value)
  else .ok []

def payloadBytesMode (codec context trustMode : String) :
    Except TransportError Mode :=
  if normalizedText builtins.casing codec = Mode.pickleNativeV1.name then
    if normalizedText builtins.casing context ∈
        internalPickleNativeContexts then
      .ok .pickleNativeV1
    else .error (.internalOnly (normalizedText builtins.casing context))
  else
    resolveReceivedTransportMode builtins.casing codec Mode.legacyV1.name
      context trustMode

def validateTransportPayloadBytes (codec : String) (version : ℤ)
    (payload : Blob) (context trustMode : String) (limitBytes : ℤ) :
    Except TransportError (Mode × Blob × ℕ) := do
  let normalized ← payloadBytesMode builtins codec context trustMode
  if version ≠ 1 then .error (.unsupportedVersion version)
  else if 0 < limitBytes ∧ limitBytes < payload.length then
    .error (.inlineLimit context payload.length limitBytes.toNat)
  else .ok (normalized, payload, payload.length)

/-- `decode_transport_payload_bytes`. -/
def receiveTransportPayloadBytes (codec : String) (version : ℤ)
    (payload : Blob) (context trustMode : String) (limitBytes : ℤ) :
    Receiving (PyValue φ α ρ) := do
  let (normalized, raw, _) ← .lift (validateTransportPayloadBytes builtins
    codec version payload context trustMode limitBytes)
  match normalized with
  | .legacyV1 =>
    load .convertDictToArrow
      ((if raw.isEmpty then some .null else codecs.jsonLoads raw).bind
        (convertDictToArrow codecs))
  | .pickleNativeV1 => load .pickleLoads (codecs.pickleLoads .pickleNativeV1 raw)
  | .pickleStableV1 =>
    load .stablePickleLoads (codecs.pickleLoads .pickleStableV1 raw)
  | .structuredV1 => load .structuredLoads (structuredLoads codecs raw)

def receiveEnvelope (codec : Mode) (payload : PyValue φ α ρ) :
    Receiving (PyValue φ α ρ) :=
  match codec with
  | .legacyV1 => load .convertDictToArrow (convertDictToArrow codecs payload)
  | .structuredV1 =>
    load .structuredLoads
      ((codecs.jsonDumps payload).bind (structuredLoads codecs))
  | .pickleStableV1 => do
    let raw ← .lift (orRaise .byteEncoding (codecs.restoreBlob payload))
    load .stablePickleLoads (codecs.pickleLoads .pickleStableV1 raw)
  | .pickleNativeV1 => do
    let raw ← .lift (orRaise .byteEncoding (codecs.restoreBlob payload))
    load .pickleLoads (codecs.pickleLoads .pickleNativeV1 raw)

def envelopeOf : PyValue φ α ρ → Option (PyValue φ α ρ)
  | .dict entries => entries.lookup transportEnvelopeSentinel
  | _ => none

/-- `decode_transport_value`. -/
def receiveTransportValue (value : PyValue φ α ρ)
    (mode context trustMode : String) : Receiving (PyValue φ α ρ) := do
  let normalized ← .lift (resolveReceivedTransportMode builtins.casing "" mode
    context trustMode)
  match envelopeOf value with
  | some wrapped =>
    let envelope ← .lift (dictOr codecs builtins wrapped)
    let declaredCodec := normalizedText builtins.casing
      (textOr codecs builtins ((envelope.lookup "codec").getD (.str "")))
    if declaredCodec = "" then .lift (.error .missingCodec)
    else
      let codec ← .lift (resolveReceivedTransportMode builtins.casing
        declaredCodec mode context trustMode)
      receiveEnvelope codecs codec ((envelope.lookup "payload").getD .null)
  | none =>
    if normalized ≠ .legacyV1 then
      .lift (.error (.missingEnvelope context normalized))
    else load .convertDictToArrow (convertDictToArrow codecs value)

/-- `decode_payload_from_transport`, with its `normalize_inbound_payload`. -/
def decodePayloadFromTransport (payload : PyValue φ α ρ)
    (mode context trustMode : String) : Receiving (PyValue φ α ρ) := do
  let decoded ← receiveTransportValue codecs builtins payload mode context
    trustMode
  load .convertDictToArrow (convertDictToArrow codecs decoded)

def decodeResultFromTransport (payload : PyValue φ α ρ)
    (mode context trustMode : String) : Receiving (PyValue φ α ρ) :=
  decodePayloadFromTransport codecs builtins payload mode context trustMode

def inlineTransportCarrierMeta (value : PyValue φ α ρ) :
    Except TransportError (Entries φ α ρ) :=
  match value with
  | .dict entries =>
    match entries.lookup inlineTransportCarrierSentinel with
    | none => .error .notACarrier
    | some (.dict carrier) =>
      if normalizedText builtins.casing (textOr codecs builtins
          ((carrier.lookup "carrier").getD (.str ""))) = "inline_bytes" then
        .ok carrier
      else .error .unsupportedCarrier
    | some _ => .error .carrierMetadata
  | _ => .error .notACarrier

def coercePayloadBytes : PyValue φ α ρ → Except TransportError Blob
  | .bytes content => .ok content
  | other =>
    if truthy codecs other = true then
      orRaise .conversion (builtins.bytes other)
    else .ok []

/-- `validate_inline_transport_carrier`; the version that it returns is that of
every payload. -/
def validateInlineTransportCarrier (value : PyValue φ α ρ)
    (context trustMode : String) (limitBytes : ℤ) :
    Except TransportError (Mode × Blob) := do
  let carrier ← inlineTransportCarrierMeta codecs builtins value
  let raw ← coercePayloadBytes codecs builtins
    ((carrier.lookup "content_bytes").getD (.bytes []))
  let version ← intOr codecs builtins
    ((carrier.lookup "version").getD (.int 0))
  let (normalized, raw, size) ← validateTransportPayloadBytes builtins
    (textOr codecs builtins ((carrier.lookup "codec").getD (.str ""))) version
    raw context trustMode limitBytes
  let declaredSize ← intOr codecs builtins
    ((carrier.lookup "content_size").getD (.int size))
  let checksum := normalizedText builtins.casing
    (textOr codecs builtins ((carrier.lookup "checksum").getD (.str "")))
  if declaredSize ≠ size then .error (.sizeMismatch declaredSize size)
  else if checksum ≠ "" ∧ checksum ≠ "sha256:" ++ builtins.sha256 raw then
    .error .checksumMismatch
  else .ok (normalized, raw)

def decodeInlineTransportCarrier (value : PyValue φ α ρ)
    (context trustMode : String) (limitBytes : ℤ) :
    Receiving (PyValue φ α ρ) := do
  let (codec, raw) ← .lift (validateInlineTransportCarrier codecs builtins
    value context trustMode limitBytes)
  receiveTransportPayloadBytes codecs builtins codec.name 1 raw context
    trustMode 0

end PycloudParallel.Transport
