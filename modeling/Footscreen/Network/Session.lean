import Footscreen.Network.MessageData

/-!
# `Network.Session` — the read loop and the write queue of a connection

`NetworkServerSession` and `NetworkClient` read and write a connection in the same way. A read loop
asks for a header, then for the body the header announces, and starts over; a write queue keeps one
`async_write` going, of the message at its front. Both are state transformers here: an asynchronous
operation is recorded as pending when the code starts it, and its completion calls the handler.

A handler returns `none` where the code leaves its buffers or takes the front of an empty queue.
-/

namespace Footscreen

/-- Which end of the connection runs the loop. -/
inductive Side where
  | server
  | client
deriving DecidableEq

/-- The signals that a session or a network client emits. -/
inductive Signal where
  | onMessageReceived (m : MessageData)
  | onClosed
  | onConnectionClosed
  | onConnectionEstablished
  | onConnectionFailed

/-- What a failed read or write is reported with: `onClosed` by a session, `onConnectionClosed` by the
    client. -/
def Side.closed : Side → Signal
  | .server => .onClosed
  | .client => .onConnectionClosed

/-! ## The read loop -/

/-- The completion handler of an `async_read`. -/
inductive ReadHandler where
  | header
  | body
deriving DecidableEq

/-- An `async_read` into `m_readBuffer`: it completes with exactly `length` bytes. -/
structure AsyncRead where
  length  : Nat
  handler : ReadHandler

/-- The reading half of a connection: `m_readBuffer`, `m_currentMessage`, the read in progress. -/
structure ReadLoop where
  readBuffer     : Buffer
  currentMessage : MessageData
  pending        : Option AsyncRead

namespace ReadLoop

/-- Start an `async_read` of `length` bytes into `m_readBuffer`; `none` when they do not fit. -/
def asyncRead (r : ReadLoop) (length : Nat) (handler : ReadHandler) : Option ReadLoop :=
  if length ≤ maxMessageLength then some { r with pending := some ⟨length, handler⟩ } else none

theorem asyncRead_pending {r r' : ReadLoop} {length : Nat} {handler : ReadHandler}
    (h : r.asyncRead length handler = some r') : r'.pending.isSome = true := by
  unfold asyncRead at h
  split at h
  · cases h
    rfl
  · cases h

/-- `start`: wait for the first message and read its header. -/
def start (r : ReadLoop) : Option ReadLoop := r.asyncRead headerLength .header

/-- `handleReadHeader`. -/
def handleReadHeader (side : Side) (r : ReadLoop) (error : Bool) :
    Option (ReadLoop × List Signal) :=
  if error then some (r, [side.closed])
  else do
    let message := r.currentMessage.copyHeaderFrom r.readBuffer
    -- the length is the peer's; it is not compared with `maxMessageLength`
    let r ← { r with currentMessage := message }.asyncRead message.contentLength.toNat .body
    return (r, [])

/-- `handleReadBody`. -/
def handleReadBody (side : Side) (r : ReadLoop) (error : Bool) :
    Option (ReadLoop × List Signal) :=
  if error then some (r, [side.closed])
  else do
    let message ← r.currentMessage.copyContentFrom r.readBuffer
    let r ← { r with currentMessage := message }.asyncRead headerLength .header
    return (r, [.onMessageReceived message])

end ReadLoop

/-! ## The write queue -/

/-- An `async_write` of the first `dataLength` bytes of a queued message. -/
structure AsyncWrite where
  message    : MessageData
  dataLength : Nat

/-- The bytes that an `async_write` puts on the stream. -/
def AsyncWrite.bytes (w : AsyncWrite) : List UInt8 := w.message.objectBytes w.dataLength

/-- The `async_write` that the code starts for a message: header and content. -/
def AsyncWrite.full (m : MessageData) : AsyncWrite := ⟨m, headerLength + m.contentLength.toNat⟩

/-- The writing half of a connection: `m_writeMessageQueue` and the writes in progress. -/
structure WriteQueue where
  queue       : List MessageData
  outstanding : List AsyncWrite

namespace WriteQueue

/-- The queue of a new object. -/
def empty : WriteQueue := ⟨[], []⟩

/-- Start an `async_write` of `m_writeMessageQueue.front()`. -/
def writeFront (q : WriteQueue) : Option WriteQueue :=
  match q.queue with
  | []     => none
  | m :: _ => some { q with outstanding := q.outstanding ++ [AsyncWrite.full m] }

/-- `handleWrite`. The completed `async_write` is no longer among the outstanding ones. -/
def handleWrite (side : Side) (q : WriteQueue) (error : Bool) : Option (WriteQueue × List Signal) :=
  if error then some (q, [side.closed])
  else
    match q.queue with
    | []        => none
    | _ :: rest =>
        -- the written message leaves, and the next one is started
        if rest.isEmpty then some ({ q with queue := rest }, [])
        else ({ q with queue := rest }.writeFront).map fun q => (q, [])

end WriteQueue

/-! ## The members of `NetworkServerSession` -/

namespace NetworkServerSession

def start : ReadLoop → Option ReadLoop := ReadLoop.start
def handleReadHeader : ReadLoop → Bool → Option (ReadLoop × List Signal) :=
  ReadLoop.handleReadHeader .server
def handleReadBody : ReadLoop → Bool → Option (ReadLoop × List Signal) :=
  ReadLoop.handleReadBody .server
def handleWrite : WriteQueue → Bool → Option (WriteQueue × List Signal) :=
  WriteQueue.handleWrite .server

/-- `deliver`, which `send` calls. -/
def deliver (q : WriteQueue) (m : MessageData) : Option WriteQueue :=
  let isWriteInProgress := !q.queue.isEmpty
  let q := { q with queue := q.queue ++ [m] }
  if isWriteInProgress then some q else q.writeFront

end NetworkServerSession

/-! ## The members of `NetworkClient` -/

namespace NetworkClient

def handleReadHeader : ReadLoop → Bool → Option (ReadLoop × List Signal) :=
  ReadLoop.handleReadHeader .client
def handleReadBody : ReadLoop → Bool → Option (ReadLoop × List Signal) :=
  ReadLoop.handleReadBody .client
def handleWrite : WriteQueue → Bool → Option (WriteQueue × List Signal) :=
  WriteQueue.handleWrite .client

/-- `deliver`. Unlike a session, the client starts no write while it is not connected. -/
def deliver (isConnected : Bool) (q : WriteQueue) (m : MessageData) : Option WriteQueue :=
  let isWriteInProgress := !q.queue.isEmpty
  let q := { q with queue := q.queue ++ [m] }
  if !isConnected || isWriteInProgress then some q else q.writeFront

/-- While it is connected, the client delivers as a session does. -/
theorem deliver_connected : deliver true = NetworkServerSession.deliver := by
  funext q m
  simp only [deliver, NetworkServerSession.deliver, Bool.not_true, Bool.false_or]

/-- While it is not connected, the client only queues. -/
theorem deliver_disconnected (q : WriteQueue) (m : MessageData) :
    deliver false q m = some { q with queue := q.queue ++ [m] } := rfl

end NetworkClient

/-! ## Either side of an established connection -/

namespace Side

/-- The handler of a completed read. -/
def handleRead : Side → ReadHandler → ReadLoop → Bool → Option (ReadLoop × List Signal)
  | .server, .header => NetworkServerSession.handleReadHeader
  | .server, .body   => NetworkServerSession.handleReadBody
  | .client, .header => NetworkClient.handleReadHeader
  | .client, .body   => NetworkClient.handleReadBody

def handleWrite : Side → WriteQueue → Bool → Option (WriteQueue × List Signal)
  | .server => NetworkServerSession.handleWrite
  | .client => NetworkClient.handleWrite

def deliver : Side → WriteQueue → MessageData → Option WriteQueue
  | .server => NetworkServerSession.deliver
  | .client => NetworkClient.deliver true

theorem handleRead_header (side : Side) :
    side.handleRead .header = ReadLoop.handleReadHeader side := by
  cases side <;> rfl

theorem handleRead_body (side : Side) : side.handleRead .body = ReadLoop.handleReadBody side := by
  cases side <;> rfl

theorem handleWrite_eq (side : Side) : side.handleWrite = WriteQueue.handleWrite side := by
  cases side <;> rfl

theorem deliver_eq (side : Side) : side.deliver = NetworkServerSession.deliver := by
  cases side with
  | server => rfl
  | client => exact NetworkClient.deliver_connected

/-- The read in progress completes: `bytes` is what it read, or `none` when it failed. -/
def completeRead (side : Side) (r : ReadLoop) (read : AsyncRead) (bytes : Option (List UInt8)) :
    Option (ReadLoop × List Signal) :=
  match bytes with
  | none => side.handleRead read.handler { r with pending := none } true
  | some bytes => do
      let buffer ← r.readBuffer.copyIn bytes
      side.handleRead read.handler { r with readBuffer := buffer, pending := none } false

end Side

end Footscreen
