import PycloudParallel.TransportValues

/-!
# The encoders of values

`serialize_arrow_compatible` makes a JSON value, `convert_dict_to_arrow` reads
it, `structured_v1` has an encoder and a decoder of its own around the two, and
the transport puts the result into bytes or into an envelope.  `none` is an
exception.

A protobuf Struct holds JSON with doubles for numbers.

What a data reference and an object that is no container are encoded as and
read from, JSON texts, pickles, base64 and the conversions of numbers are
parameters.
-/

namespace PycloudParallel.Transport

open PyValue

variable {φ α ρ : Type}

abbrev Blob := List UInt8

inductive Mode
  | legacyV1
  | structuredV1
  | pickleStableV1
  | pickleNativeV1
deriving DecidableEq

def Mode.name : Mode → String
  | .legacyV1 => "legacy_v1"
  | .structuredV1 => "structured_v1"
  | .pickleStableV1 => "pickle_stable_v1"
  | .pickleNativeV1 => "pickle_native_v1"

def Mode.isPickle : Mode → Bool
  | .pickleStableV1 | .pickleNativeV1 => true
  | .legacyV1 | .structuredV1 => false

/-- `str.strip` and `str.lower` of an ASCII name. -/
def normalizeName (name : String) : String :=
  .ofList ((((name.toList.dropWhile Char.isWhitespace).reverse.dropWhile
    Char.isWhitespace).reverse).map Char.toLower)

/-- `resolve_declared_transport_mode` on a codec that is not empty. -/
def modeOfName (name : String) : Option Mode :=
  [Mode.legacyV1, .structuredV1, .pickleStableV1, .pickleNativeV1].find?
    fun mode => mode.name = normalizeName name

def typeKey : String := "__type__"
def dataRefSentinel : String := "__pycloud_data_ref__"
def transportEnvelopeSentinel : String := "__pycloud_transport__"
def inlineTransportCarrierSentinel : String := "__pycloud_inline_transport__"
def structuredSentinel : String := "__pycloud_structured_v1__"
def structuredBytesSentinel : String := "__pycloud_structured_v1_bytes__"

/-- The parts of the encoders that are not modelled: the payload of a data
reference, the tagged dict of an object, `int` of a text and of a float,
base64, JSON texts and pickles. -/
structure Codecs (φ α ρ : Type) where
  refEntries : ρ → Entries φ α ρ
  refFrom : Entries φ α ρ → Option ρ
  encodeObject : α → Option (Entries φ α ρ)
  decodeObject : String → Entries φ α ρ → Option α
  intOf : PyValue φ α ρ → Option ℤ
  ofInt : ℤ → φ
  truncate : φ → ℤ
  isZero : φ → Bool
  base64 : Blob → String
  restoreBlob : PyValue φ α ρ → Option Blob
  jsonDumps : PyValue φ α ρ → Option Blob
  jsonLoads : Blob → Option (PyValue φ α ρ)
  pickleDumps : Mode → PyValue φ α ρ → Option Blob
  pickleLoads : Mode → Blob → Option (PyValue φ α ρ)

variable (codecs : Codecs φ α ρ)

def truthy : PyValue φ α ρ → Bool
  | .null => false
  | .bool value => value
  | .int value => value ≠ 0
  | .float value => !codecs.isZero value
  | .str value => value ≠ ""
  | .bytes content => !content.isEmpty
  | .ref _ | .object _ => true
  | .list items | .tuple items => !items.isEmpty
  | .dict entries => !entries.isEmpty

def dataRefPayload : Entries φ α ρ → Option (Entries φ α ρ)
  | [(key, .dict payload)] => if key = dataRefSentinel then some payload else none
  | _ => none

def maybeDataRef : PyValue φ α ρ → Option ρ
  | .ref dataRef => some dataRef
  | .dict entries => (dataRefPayload entries).bind codecs.refFrom
  | _ => none

def dataRefToPayload (dataRef : ρ) : PyValue φ α ρ :=
  .dict [(dataRefSentinel, .dict (codecs.refEntries dataRef))]

def maxArrowRecursionDepth : ℕ := 200

def isBigInt (value : ℤ) : Bool :=
  2 ^ 53 < value.natAbs

def serializeStop : Stop φ α ρ := fun depth value =>
  if maxArrowRecursionDepth < depth then some none
  else
    match value with
    | .int value =>
      if isBigInt value then
        some (some (.dict [(typeKey, .str "int64"),
          ("value", .str (toString value))]))
      else none
    | .bytes _ => some none
    | .ref dataRef => some (some (dataRefToPayload codecs dataRef))
    | .object other => some ((codecs.encodeObject other).map .dict)
    | .dict entries =>
      (maybeDataRef codecs (.dict entries)).map fun dataRef =>
        some (dataRefToPayload codecs dataRef)
    | _ => none

def serializeArrowCompatible (value : PyValue φ α ρ) :
    Option (PyValue φ α ρ) :=
  rewrite (serializeStop codecs) 0 value

def convertStop : Stop φ α ρ := fun depth value =>
  if maxArrowRecursionDepth < depth then some none
  else
    match value with
    | .tuple items => some (some (.tuple items))
    | .dict entries =>
      match dataRefPayload entries with
      | some payload => some ((codecs.refFrom payload).map .ref)
      | none =>
        match entries.lookup typeKey with
        | none => none
        | some .null => none
        | some (.str tag) =>
          if tag = "int64" then
            some ((codecs.intOf
              ((entries.lookup "value").getD (.str "0"))).map .int)
          else some ((codecs.decodeObject tag entries).map .object)
        | some _ => some none
    | _ => none

def convertDictToArrow (value : PyValue φ α ρ) : Option (PyValue φ α ρ) :=
  rewrite (convertStop codecs) 0 value

def adaptBlobForJsonTransport (blob : Blob) : PyValue φ α ρ :=
  .dict [("encoding", .str "base64"), ("data", .str (codecs.base64 blob))]

def structuredEncodeStop : Stop φ α ρ := fun _ value =>
  match value with
  | .bytes content =>
    some (some (.dict [(structuredBytesSentinel,
      adaptBlobForJsonTransport codecs content)]))
  | .list _ | .tuple _ | .dict _ => none
  | atom => some (serializeArrowCompatible codecs atom)

def structuredDecodeStop : Stop φ α ρ := fun _ value =>
  match value with
  | .list _ => none
  | .dict entries =>
    match entries.lookup structuredBytesSentinel with
    | some payload => some ((codecs.restoreBlob payload).map .bytes)
    | none =>
      if ((entries.lookup typeKey).any fun tag => truthy codecs tag) ||
          (entries.lookup dataRefSentinel).isSome then
        some (convertDictToArrow codecs (.dict entries))
      else none
  | atom => some (convertDictToArrow codecs atom)

def structuredDocument (value : PyValue φ α ρ) : Option (PyValue φ α ρ) :=
  (rewrite (structuredEncodeStop codecs) 0 value).map fun payload =>
    .dict [(structuredSentinel,
      .dict [("version", .int 1), ("payload", payload)])]

def structuredDumps (value : PyValue φ α ρ) : Option Blob :=
  (structuredDocument codecs value).bind codecs.jsonDumps

/-- `int(version or 0)` of a version that is a number. -/
def versionNumber : PyValue φ α ρ → ℤ
  | .int value => value
  | .float value => codecs.truncate value
  | .bool true => 1
  | _ => 0

def structuredRead : PyValue φ α ρ → Option (PyValue φ α ρ)
  | .dict entries =>
    match entries.lookup structuredSentinel with
    | some (.dict envelope) =>
      if versionNumber codecs ((envelope.lookup "version").getD .null) = 1 then
        rewrite (structuredDecodeStop codecs) 0
          ((envelope.lookup "payload").getD .null)
      else none
    | _ => none
  | _ => none

def structuredLoads (blob : Blob) : Option (PyValue φ α ρ) :=
  (codecs.jsonLoads blob).bind (structuredRead codecs)

def encodeTransportPayloadBytes (mode : Mode) (value : PyValue φ α ρ) :
    Option Blob :=
  match mode with
  | .legacyV1 => (serializeArrowCompatible codecs value).bind codecs.jsonDumps
  | .structuredV1 => structuredDumps codecs value
  | mode => codecs.pickleDumps mode value

def decodeTransportPayloadBytes (mode : Mode) (blob : Blob) :
    Option (PyValue φ α ρ) :=
  match mode with
  | .legacyV1 => (codecs.jsonLoads blob).bind (convertDictToArrow codecs)
  | .structuredV1 => structuredLoads codecs blob
  | mode => codecs.pickleLoads mode blob

def transportEnvelope (mode : Mode) (payload : PyValue φ α ρ) :
    PyValue φ α ρ :=
  .dict [(transportEnvelopeSentinel, .dict [("codec", .str mode.name),
    ("version", .int 1), ("payload", payload)])]

def encodeTransportValue (mode : Mode) (value : PyValue φ α ρ) :
    Option (PyValue φ α ρ) :=
  match mode with
  | .legacyV1 => serializeArrowCompatible codecs value
  | .structuredV1 =>
    ((structuredDumps codecs value).bind codecs.jsonLoads).map
      (transportEnvelope .structuredV1)
  | mode =>
    (codecs.pickleDumps mode value).map fun blob =>
      transportEnvelope mode (adaptBlobForJsonTransport codecs blob)

/-- `detect_transport_mode` and the decoding of `decode_transport_value` in the
mode it gives. -/
def decodeTransportValue (value : PyValue φ α ρ) : Option (PyValue φ α ρ) :=
  match value with
  | .dict entries =>
    match entries.lookup transportEnvelopeSentinel with
    | some (.dict envelope) =>
      let payload := (envelope.lookup "payload").getD .null
      match (envelope.lookup "codec").getD .null with
      | .str name =>
        match modeOfName name with
        | some .legacyV1 => convertDictToArrow codecs payload
        | some .structuredV1 =>
          ((codecs.jsonDumps payload).bind codecs.jsonLoads).bind
            (structuredRead codecs)
        | some mode =>
          (codecs.restoreBlob payload).bind (codecs.pickleLoads mode)
        | none => none
      | _ => none
    | some _ => none
    | none => convertDictToArrow codecs value
  | _ => convertDictToArrow codecs value

def structNumber : PyValue φ α ρ → PyValue φ α ρ
  | .int value => .float (codecs.ofInt value)
  | other => other

/-- What JSON has: no bytes, tuples, references and other objects, and no key
twice. -/
def jsonNode : PyValue φ α ρ → Bool
  | .bytes _ | .tuple _ | .ref _ | .object _ => false
  | .dict entries => decide ((entries.map Prod.fst).Nodup)
  | _ => true

/-- `Struct.update` of a dict and, on the other side, `struct_to_python`. -/
def structUpdate : PyValue φ α ρ → Option (PyValue φ α ρ)
  | .dict entries =>
    if (dict entries).all jsonNode then
      some (mapAtoms (structNumber codecs) (.dict entries))
    else none
  | _ => none

def structOf (mode : Mode) (value : PyValue φ α ρ) :
    Option (PyValue φ α ρ) :=
  ((encodeTransportValue codecs mode value).bind
    (serializeArrowCompatible codecs)).bind (structUpdate codecs)

def dictToStruct (mode : Mode) (value : PyValue φ α ρ) :
    Option (PyValue φ α ρ) :=
  match value with
  | .null => some (.dict [])
  | value => structOf codecs mode value

end PycloudParallel.Transport
