import Footscreen.Network.Session
import Footscreen.Lib.Run

/-!
# `Network.NetworkClient` — the client's connections over its lifetime

The state machine of one `NetworkClient`. `run()` is the network thread: it waits for an address, sets
up an `io_service` and a socket (`load`, `startAccept`), executes the service's handlers one at a time
until the service is stopped or out of work, and starts over. Other threads call `connectToServer`,
`stop` and `send`; they run between any two steps of the network thread, except that
`m_waitForConnectionMutex` keeps `connectToServer` out while `run()` is past its wait.

An `io_service` owns the handlers waiting on it: when it is destroyed, they are discarded uncalled.
An exception leaves a handler where it calls into other code, at the signals it emits, and ends in the
`catch` clause of `run()`.
-/

namespace Footscreen

/-- The connection behind a socket, as the callbacks have reported it. -/
inductive ConnectionStatus where
  | opening
  | established
  | failed
deriving DecidableEq

/-- A socket, created on an `io_service`. -/
structure Socket where
  service : Nat
  status  : ConnectionStatus

/-- A handler posted to the `io_service`. -/
inductive Posted where
  | deliver (m : MessageData)
  | unload (failed : Bool)

/-- An `io_service` with the posted handlers and the `async_connect` waiting on it. The reads and writes
    waiting on it are those of `NetworkClient.reads` and `NetworkClient.writes`. -/
structure IoService where
  id         : Nat
  connecting : Bool
  posted     : List Posted

/-- Where the network thread is in `run()`: waiting for an address, inside `load()`, or inside
    `m_ioService->run()`. -/
inductive RunPoint where
  | waiting
  | resolving
  | running
deriving DecidableEq

/-- The data members of `NetworkClient`; then the position of `run()`, the calls of `send` that are past
    their wait but have not posted yet, the signals emitted, and whether a `send` has posted through an
    empty `m_ioService`. -/
structure NetworkClient where
  ioService     : Option IoService
  socket        : Option Socket
  isConnected   : Bool
  serverAddress : String
  reads         : ReadLoop
  writes        : WriteQueue
  runPoint      : RunPoint
  senders       : List MessageData
  signals       : List Signal
  nullPost      : Bool
  nextService   : Nat

namespace NetworkClient

/-- A new client; its buffers hold anything. -/
def new (reads : ReadLoop) : NetworkClient where
  ioService     := none
  socket        := none
  isConnected   := false
  serverAddress := ""
  reads         := { reads with pending := none }
  writes        := .empty
  runPoint      := .waiting
  senders       := []
  signals       := []
  nullPost      := false
  nextService   := 0

/-! ## Pieces of the code -/

def emit (c : NetworkClient) (signals : List Signal) : NetworkClient :=
  { c with signals := c.signals ++ signals }

/-- `m_ioService->post`. -/
def post (c : NetworkClient) (io : IoService) (p : Posted) : NetworkClient :=
  { c with ioService := some { io with posted := io.posted ++ [p] } }

/-- Destroying the `io_service` discards the handlers waiting on it. -/
def resetService (c : NetworkClient) : NetworkClient :=
  { c with ioService := none, reads := { c.reads with pending := none },
           writes := { c.writes with outstanding := [] } }

/-- An error has been reported for the current socket. -/
def failSocket (c : NetworkClient) : NetworkClient :=
  { c with socket := c.socket.map fun k => { k with status := .failed } }

/-- `stop`. -/
def stop (c : NetworkClient) (failed : Bool) : NetworkClient :=
  match c.ioService with
  | some io => c.post io (.unload failed)
  | none    => c.emit [.onConnectionClosed]

/-- The rest of the loop body of `run()`: the address is cleared and the mutex released. -/
def endIteration (c : NetworkClient) : NetworkClient :=
  { c with serverAddress := "", runPoint := .waiting }

/-- The `catch` clause of `run()`. -/
def caught (c : NetworkClient) : NetworkClient := (c.stop true).endIteration

/-- Leave a handler: normally, or by an exception that a slot of its last signal throws. -/
def leave (c : NetworkClient) (throws : Bool) : NetworkClient := if throws then c.caught else c

/-- `load` up to the resolver: a new `io_service` replaces the old one. -/
def load (c : NetworkClient) : NetworkClient :=
  { c.resetService with
    ioService := some ⟨c.nextService, false, []⟩, nextService := c.nextService + 1,
    runPoint := .resolving }

/-- The rest of `load` and `startAccept`: a new socket, and an `async_connect` on it. -/
def startAccept (c : NetworkClient) (io : IoService) : NetworkClient :=
  { c with socket := some ⟨io.id, .opening⟩, ioService := some { io with connecting := true },
           runPoint := .running }

/-- `unload`. When it throws, it does so before it clears `m_isConnected`. -/
def unload (c : NetworkClient) (failed throws : Bool) : NetworkClient :=
  let c := { c.resetService with socket := none }
  -- the service is gone by now, so `stop` only emits `onConnectionClosed`
  let c := if failed then (c.stop false).emit [.onConnectionFailed] else c
  if throws then c.caught else { c.emit [.onConnectionClosed] with isConnected := false }

/-- `handleConnect`. -/
def handleConnect (c : NetworkClient) (error : Bool) : Option NetworkClient :=
  if error then some ((c.failSocket.stop false).emit [.onConnectionFailed])
  else do
    -- the read is started before the flag is set and the signal emitted
    let reads ← c.reads.start
    let socket := c.socket.map fun k => { k with status := .established }
    let c := { c with reads := reads, socket := socket, isConnected := true }
    return c.emit [.onConnectionEstablished]

/-! ## Steps -/

/-- The events. `throws` says that the handler is left by an exception. -/
inductive Event where
  /-- another thread calls `connectToServer` -/
  | connectToServer (address : String)
  /-- `run()` leaves its wait and `load()` creates the `io_service` -/
  | load
  /-- the resolver answers, or throws -/
  | resolve (found : Bool)
  /-- the `async_connect` completes -/
  | connect (error throws : Bool)
  /-- the pending `async_read` completes with these bytes, or fails -/
  | read (bytes : Option (List UInt8)) (throws : Bool)
  /-- the `i`-th outstanding `async_write` completes -/
  | write (i : Nat) (error throws : Bool)
  /-- the `i`-th posted handler runs -/
  | runPosted (i : Nat) (throws : Bool)
  /-- `m_ioService->run()` returns: stopped, or out of work -/
  | runReturns
  /-- another thread calls `stop` (`disconnectFromServer`) -/
  | stop (failed : Bool)
  /-- a call of `send` finds `m_isConnected` set -/
  | send (m : MessageData)
  /-- the `i`-th waiting call of `send` posts its message -/
  | post (i : Nat)

/-- No handler is left to run. -/
def outOfWork (c : NetworkClient) (io : IoService) : Bool :=
  !io.connecting && io.posted.isEmpty && c.reads.pending.isNone && c.writes.outstanding.isEmpty

/-- The `async_connect` completes. -/
def onConnect (c : NetworkClient) (io : IoService) (error throws : Bool) : Option NetworkClient :=
  if io.connecting then do
    let c := { c with ioService := some { io with connecting := false } }
    let c ← c.handleConnect error
    return c.leave throws
  else none

/-- The pending `async_read` completes. A slot that throws keeps the next read from starting. -/
def onRead (c : NetworkClient) (bytes : Option (List UInt8)) (throws : Bool) :
    Option NetworkClient := do
  let read ← c.reads.pending
  if bytes.all (fun w => w.length = read.length) then
    let (reads, signals) ← Side.client.completeRead c.reads read bytes
    let c := if bytes.isNone then c.failSocket else c
    if throws then
      let c := { c with reads := { reads with pending := none } }
      if signals.isEmpty then none else some (c.emit signals).caught
    else
      let c := { c with reads := reads }
      some (c.emit signals)
  else none

/-- The `i`-th outstanding `async_write` completes. -/
def onWrite (c : NetworkClient) (i : Nat) (error throws : Bool) : Option NetworkClient :=
  if i < c.writes.outstanding.length then do
    let running := { c.writes with outstanding := c.writes.outstanding.eraseIdx i }
    let (writes, signals) ← Side.client.handleWrite running error
    let c := if error then c.failSocket else c
    let c := { c with writes := writes }
    -- without a signal there is nothing that could throw
    if throws && signals.isEmpty then none else some ((c.emit signals).leave throws)
  else none

/-- The `i`-th posted handler runs. `deliver` emits no signal; it writes to `*m_socket`. -/
def onPosted (c : NetworkClient) (io : IoService) (i : Nat) (throws : Bool) :
    Option NetworkClient := do
  let p ← io.posted[i]?
  let c := { c with ioService := some { io with posted := io.posted.eraseIdx i } }
  match p with
  | .deliver m => do
      let writes ← deliver c.isConnected c.writes m
      -- the socket has been reset only together with the service that runs this handler
      if throws || c.socket.isNone then none else some { c with writes := writes }
  | .unload failed => some (c.unload failed throws)

/-- One step of the client; `none` when the event cannot happen. -/
def step (c : NetworkClient) : Event → Option NetworkClient
  | .connectToServer address =>
      if c.runPoint = .waiting then some { c with serverAddress := address } else none
  | .load => if c.runPoint = .waiting ∧ c.serverAddress ≠ "" then some c.load else none
  | .resolve found => do
      let io ← c.ioService
      if c.runPoint = .resolving then
        some (if found then c.startAccept io else c.caught)
      else none
  | .connect error throws => do
      let io ← c.ioService
      if c.runPoint = .running then c.onConnect io error throws else none
  | .read bytes throws =>
      if c.runPoint = .running ∧ c.ioService.isSome then c.onRead bytes throws else none
  | .write i error throws =>
      if c.runPoint = .running ∧ c.ioService.isSome then c.onWrite i error throws else none
  | .runPosted i throws => do
      let io ← c.ioService
      if c.runPoint = .running then c.onPosted io i throws else none
  | .runReturns =>
      if c.runPoint = .running ∧ c.ioService.all c.outOfWork then
        some c.resetService.endIteration
      else none
  | .stop failed => some (c.stop failed)
  | .send m => if c.isConnected then some { c with senders := c.senders ++ [m] } else none
  | .post i => do
      let m ← c.senders[i]?
      let c := { c with senders := c.senders.eraseIdx i }
      match c.ioService with
      | some io => some (c.post io (.deliver m))
      | none    => some { c with nullPost := true }

/-- The current socket belongs to the current `io_service` and its connection is up. -/
def Live (c : NetworkClient) : Prop :=
  ∃ io k, c.ioService = some io ∧ c.socket = some k ∧ k.service = io.id ∧ k.status = .established

end NetworkClient

end Footscreen
