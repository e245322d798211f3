import SelfWriter.Lib.Varint

/-!
# Receiving requests over the serial port

`protobuf_server` and its `SerialStream` (`threads/protobuf_server.rs`), the
message header (`protobuf/md.rs`) and the message body
(`protobuf/message_body.rs`).

The magick byte and the decoding of a request come from the generated message
module; both are parameters.  How many of the pending bytes a call of
`SerialPort::read` returns is decided by `sizes`, indexed by the calls made
before.
-/

namespace SelfWriter.Protobuf

open SelfWriter.Lib

/-- The pending bytes and the number of calls that returned some. -/
structure SerialPort where
  pending : List UInt8
  calls : Nat
  deriving DecidableEq, Repr

/-- `none` is a thread blocked for good: nothing is pending any more. -/
abbrev SerialM := StateT SerialPort Option

@[simp]
theorem pure_apply {α : Type} (value : α) (port : SerialPort) :
    (pure value : SerialM α) port = some (value, port) :=
  rfl

@[simp]
theorem bind_apply {α β : Type} (first : SerialM α) (next : α → SerialM β)
    (port : SerialPort) :
    (first >>= next) port =
      (first port).bind (fun answer => next answer.1 answer.2) :=
  rfl

@[simp]
theorem map_apply {α β : Type} (change : α → β) (first : SerialM α)
    (port : SerialPort) :
    (change <$> first) port =
      (first port).map (fun answer => (change answer.1, answer.2)) := by
  change (first port).bind _ = _
  cases first port <;> rfl

inductive DecodeError where
  | invalidMagick (byte : UInt8)
  | invalidVarint
  | invalidMessageLength (length : Nat)
  | invalidBody
  deriving DecidableEq, Repr

/-- What the server does with one message. -/
inductive Received (Request : Type) where
  | request (request : Request)
  | error (error : DecodeError)
  deriving DecidableEq, Repr

section Stream

variable (sizes : Nat → Nat)

/-- Bytes returned by one `serial.read`: at least one, at most the buffer and
the pending bytes. -/
def returned (port : SerialPort) (bufLen : Nat) : Nat :=
  min (max 1 (sizes port.calls)) (min bufLen port.pending.length)

/-- `SerialStream::read` answers after the first call that returned bytes; the
rest of the buffer stays as it was. -/
def read (buf : List UInt8) : SerialM (List UInt8) := fun port =>
  if port.pending = [] then
    none
  else
    let count := returned sizes port buf.length
    some (port.pending.take count ++ buf.drop count,
      { pending := port.pending.drop count, calls := port.calls + 1 })

def readByte : SerialM UInt8 := do
  let v ← read sizes [0]
  pure (v.headD 0)

def readAll (maxSize : Nat) : SerialM (List UInt8) :=
  read sizes (List.replicate maxSize 0)

end Stream

section Server

variable {Request : Type} (magick : UInt8)
variable (decode : List UInt8 → Option Request) (sizes : Nat → Nat)

/-- The bytes of a message size: at most `capacity`, up to the first without
its high bit. -/
def readMsgSize : Nat → SerialM (List UInt8)
  | 0 => pure []
  | capacity + 1 => do
      let b ← readByte sizes
      if b < 0x80 then
        pure [b]
      else do
        let rest ← readMsgSize capacity
        pure (b :: rest)

def decodeMsgSize : SerialM (Except DecodeError Nat) := do
  let data ← readMsgSize sizes 4
  match Varint.decode data with
  | some v =>
      if v = 0 ∨ v > 1500 then pure (.error (.invalidMessageLength v))
      else pure (.ok v)
  | none => pure (.error .invalidVarint)

def reciveMdHeader : SerialM (Except DecodeError Nat) := do
  let v ← readByte sizes
  if v ≠ magick then pure (.error (.invalidMagick v))
  else decodeMsgSize sizes

def reciveMessageBody (msgSize : Nat) :
    SerialM (Except DecodeError Request) := do
  let data ← readAll sizes msgSize
  match decode data with
  | some request => pure (.ok request)
  | none => pure (.error .invalidBody)

/-- One round of the server's loop. -/
def serveOne : SerialM (Received Request) := do
  let header ← reciveMdHeader magick sizes
  match header with
  | .error error => pure (.error error)
  | .ok msgSize => do
      let body ← reciveMessageBody decode sizes msgSize
      match body with
      | .error error => pure (.error error)
      | .ok request => pure (.request request)

/-- At most the given number of rounds, fewer when the server blocks. -/
def serveRounds : Nat → SerialPort → List (Received Request)
  | 0, _ => []
  | rounds + 1, port =>
      match serveOne magick decode sizes port with
      | some (received, after) => received :: serveRounds rounds after
      | none => []

/-- Every round takes at least one byte, so the server blocks after at most as
many rounds as there are bytes. -/
def protobufServer (bytes : List UInt8) : List (Received Request) :=
  serveRounds magick decode sizes bytes.length { pending := bytes, calls := 0 }

end Server

end SelfWriter.Protobuf
