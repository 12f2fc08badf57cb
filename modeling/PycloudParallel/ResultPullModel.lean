import PycloudParallel.FoundationGuardedRun
import PycloudParallel.FoundationOrderedDict
import Mathlib.Data.Rat.Init

/-!
# Pulling the results of a task pool

`InMemoryResultHook` queues the result of every finished task under its pool.
A pull request takes results out of the queue, forgets their task records,
encodes a reply of rows and raw bytes and sends it; the client decodes it.

The times of a result are left out, and so is the JSON text of the rows: it
reads back as the rows it was written from.
-/

namespace PycloudParallel.ResultPull

inductive TaskStatus
  | queued
  | running
  | succeeded
  | failedUser
  | failedInfra
  | cancelled
deriving DecidableEq

def TaskStatus.isTerminal : TaskStatus → Bool
  | .succeeded | .failedUser | .failedInfra | .cancelled => true
  | .queued | .running => false

inductive NumberValue
  | finite (value : ℚ)
  | infinity (negative : Bool)
  | nan
deriving DecidableEq

inductive StructValue
  | nullValue
  | numberValue (number : NumberValue)
  | stringValue (text : String)
  | boolValue (flag : Bool)
  | listValue (values : List StructValue)
  | structValue (fields : List (String × StructValue))

mutual

/-- `MessageToDict` has a JSON value for the protobuf value. -/
def StructValue.isSerializable : StructValue → Bool
  | .nullValue | .stringValue _ | .boolValue _ => true
  | .numberValue (.finite _) => true
  | .numberValue (.infinity _) | .numberValue .nan => false
  | .listValue values => allSerializable values
  | .structValue fields => fieldsSerializable fields

def allSerializable : List StructValue → Bool
  | [] => true
  | value :: rest => value.isSerializable && allSerializable rest

def fieldsSerializable : List (String × StructValue) → Bool
  | [] => true
  | (_, value) :: rest => value.isSerializable && fieldsSerializable rest

end

/-- The codecs of `encode_transport_payload_bytes`; none of their names is
blank. -/
inductive TransportCodec
  | legacy
  | structured
  | pickleStable
  | pickleNative
deriving DecidableEq

structure TransportPayload where
  codec : TransportCodec
  version : ℕ
  payload : List UInt8
deriving DecidableEq

/-- The value of a result goes either way, see `as_result`. -/
inductive ResultValue
  | result (fields : List (String × StructValue))
  | transportResult (transport : TransportPayload)

structure TaskError where
  type : String
  message : String
deriving DecidableEq

structure TaskResult where
  taskId : String
  jobId : String
  status : TaskStatus
  attempt : ℕ
  error : TaskError
  value : ResultValue

inductive ReplyRow
  | message (item : TaskResult)
  | transport (item : TaskResult) (codec : TransportCodec) (version payloadSize : ℕ)

structure PullReply where
  results : List ReplyRow
  raw : List UInt8

/-- One turn of the loop of `_pull_pool_results_bytes`: the row and its chunk.
`none` is an exception of `_message_to_dict`. -/
def encodeItem (item : TaskResult) : Option (ReplyRow × List UInt8) :=
  match item.value with
  | .transportResult transport =>
    some (.transport { item with value := .result [] } transport.codec
      transport.version transport.payload.length, transport.payload)
  | .result fields =>
    if fieldsSerializable fields then some (.message item, []) else none

def encodeReply : List TaskResult → Option PullReply
  | [] => some ⟨[], []⟩
  | item :: rest =>
    match encodeItem item, encodeReply rest with
    | some (row, chunk), some reply =>
      some ⟨row :: reply.results, chunk ++ reply.raw⟩
    | _, _ => none

/-- The loop of the client's `pull_pool_results` over the bytes that are left;
`none` is a truncated payload or bytes behind the last one. -/
def decodeRows : List ReplyRow → List UInt8 → Option (List TaskResult)
  | [], raw => if raw.isEmpty then some [] else none
  | .message item :: rest, raw => (decodeRows rest raw).map (item :: ·)
  | .transport item codec version payloadSize :: rest, raw =>
    let chunk := raw.take payloadSize
    if chunk.length ≠ payloadSize then none
    else
      (decodeRows rest (raw.drop payloadSize)).map
        ({ item with value := .transportResult ⟨codec, version, chunk⟩ } :: ·)

/-- The client's `pull_pool_results` on an answer it received whole. -/
def PullReply.decode (reply : PullReply) : Option (List TaskResult) :=
  decodeRows reply.results reply.raw

def TaskResult.isEncodable (item : TaskResult) : Bool :=
  match item.value with
  | .transportResult _ => true
  | .result fields => fieldsSerializable fields

theorem encodeItem_isSome (item : TaskResult) :
    (encodeItem item).isSome = item.isEncodable := by
  unfold encodeItem TaskResult.isEncodable
  cases item.value with
  | transportResult transport => rfl
  | result fields => cases hfields : fieldsSerializable fields <;> simp [hfields]

theorem encodeReply_isSome (items : List TaskResult) :
    (encodeReply items).isSome = items.all TaskResult.isEncodable := by
  induction items with
  | nil => rfl
  | cons item rest ih =>
    rw [List.all_cons, ← ih, ← encodeItem_isSome, encodeReply]
    cases encodeItem item <;> cases encodeReply rest <;> rfl

theorem decode_encodeReply {items : List TaskResult} {reply : PullReply}
    (hencode : encodeReply items = some reply) : reply.decode = some items := by
  induction items generalizing reply with
  | nil =>
    cases hencode
    rfl
  | cons item rest ih =>
    rw [encodeReply] at hencode
    split at hencode
    · next row chunk later hitem hrest =>
      cases hencode
      have hlater : decodeRows later.results later.raw = some rest := ih hrest
      unfold PullReply.decode
      unfold encodeItem at hitem
      split at hitem
      · next transport hvalue =>
        cases hitem
        dsimp only
        rw [decodeRows, List.take_left, List.drop_left, if_neg (by simp),
          hlater, Option.map_some]
        have hitem : { item with value := .transportResult transport } = item := by
          rw [← hvalue]
        exact congrArg (fun first => some (first :: rest)) hitem
      · split at hitem
        · cases hitem
          dsimp only
          rw [decodeRows, List.nil_append, hlater, Option.map_some]
        · cases hitem
    · cases hencode

structure QueuedResult where
  seq : ℕ
  result : TaskResult

structure ResultHook where
  perClientLimit : ℕ
  seq : ℕ
  queues : String → List QueuedResult

namespace ResultHook

variable (hook : ResultHook)

def create (perClientLimit : ℕ) : ResultHook where
  perClientLimit := max 1 perClientLimit
  seq := 0
  queues := fun _ => []

def push (clientId : String) (result : TaskResult) : ResultHook :=
  let queue := hook.queues clientId
  let kept := if hook.perClientLimit ≤ queue.length then queue.drop 1 else queue
  { hook with
    seq := hook.seq + 1
    queues := Function.update hook.queues clientId
      (kept ++ [⟨hook.seq + 1, result⟩]) }

def pull (clientId : String) (limit : ℕ) : List TaskResult × ℕ × ResultHook :=
  let queue := hook.queues clientId
  let taken := queue.take (max 1 limit)
  (taken.map QueuedResult.result,
    (taken.getLast?.map QueuedResult.seq).getD 0,
    { hook with
      queues := Function.update hook.queues clientId
        (queue.drop (max 1 limit)) })

def clearClient (clientId : String) : ResultHook :=
  { hook with queues := Function.update hook.queues clientId [] }

end ResultHook

/-- The record that `pull_pool_results` pops for every result it took. -/
def forgetTask (tasks : OrderedDict String TaskStatus) (item : TaskResult) :
    OrderedDict String TaskStatus :=
  if item.taskId = "" then tasks
  else
    match tasks.lookup item.taskId with
    | none => tasks
    | some status => if status.isTerminal then tasks.erase item.taskId else tasks

end PycloudParallel.ResultPull
