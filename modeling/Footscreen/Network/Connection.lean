import Footscreen.Network.Correctness.Framing

/-!
# `Network.Connection` — one direction of an established connection

The write queue of one end, the read loop of the other, and the stream between them. TCP delivers the bytes
in order; an `async_write` puts its bytes on the stream in pieces of any size, and several that are
outstanding at once do so independently of each other. Calls of `deliver`, completions of writes and reads,
and the pieces follow each other in any order.
-/

namespace Footscreen

/-- More bytes are on the stream. -/
def StreamReader.arrive (s : StreamReader) (bytes : List UInt8) : StreamReader :=
  { s with rest := s.rest ++ bytes }

/-- The message that a signal hands over. -/
def Signal.message : Signal → Option MessageData
  | .onMessageReceived m => some m
  | _                    => none

/-- The messages that have been received. -/
def StreamReader.messages (s : StreamReader) : List MessageData := s.signals.filterMap Signal.message

/-- `transmitted` says how many bytes of each outstanding write are on the stream. What of them has not been
    read is the reader's `rest`. -/
structure Connection where
  writes      : WriteQueue
  transmitted : List Nat
  reader      : StreamReader

namespace Connection

/-- A new connection: nothing is queued, and the reader waits for the first header. -/
def start (loop : ReadLoop) : Connection := ⟨.empty, [], .start loop []⟩

/-- Writes that have just been started are at their first byte. -/
def started (q : WriteQueue) (transmitted : List Nat) : List Nat :=
  transmitted ++ List.replicate (q.outstanding.length - transmitted.length) 0

/-- What a handler has made of the queue. -/
def withWrites (c : Connection) (q : WriteQueue) (transmitted : List Nat) : Connection :=
  { c with writes := q, transmitted := started q transmitted }

inductive Event where
  | deliver (m : MessageData)
  /-- The `i`-th outstanding write puts its next `n` bytes on the stream. -/
  | transmit (i n : Nat)
  /-- The `i`-th outstanding write completes. -/
  | completeWrite (i : Nat) (error : Bool)
  | completeRead (e : ReadCompletion)

/-- One step. A write succeeds when all its bytes are on the stream; it can fail at any time. -/
def step (sender receiver : Side) (c : Connection) : Event → Option Connection
  | .deliver m => (sender.deliver c.writes m).map fun q => c.withWrites q c.transmitted
  | .transmit i n => do
      let write ← c.writes.outstanding[i]?
      let k ← c.transmitted[i]?
      if 0 < n ∧ k + n ≤ write.bytes.length then
        some { c with transmitted := c.transmitted.set i (k + n)
                      reader := c.reader.arrive ((write.bytes.drop k).take n) }
      else none
  | .completeWrite i error => do
      let write ← c.writes.outstanding[i]?
      let k ← c.transmitted[i]?
      if error || k = write.bytes.length then
        let running := { c.writes with outstanding := c.writes.outstanding.eraseIdx i }
        let (q, _) ← sender.handleWrite running error
        some (c.withWrites q (c.transmitted.eraseIdx i))
      else none
  | .completeRead e => (c.reader.step receiver e).map fun reader => { c with reader := reader }

/-- What has been delivered, in order. -/
def delivered : List Event → List MessageData
  | []               => []
  | .deliver m :: es => m :: delivered es
  | _ :: es          => delivered es

/-- Nothing fails, and nothing new is delivered. -/
def Event.isProgress : Event → Bool
  | .transmit _ _ | .completeWrite _ false | .completeRead .success => true
  | .deliver _ | .completeWrite _ true | .completeRead .error       => false

/-- Nothing fails. -/
def Event.isSound : Event → Bool
  | .completeWrite _ true | .completeRead .error => false
  | _                                            => true

theorem delivered_snoc (es : List Event) (e : Event) :
    delivered (es ++ [e]) = delivered es ++ delivered [e] := by
  induction es with
  | nil => rfl
  | cons e' es ih =>
      cases e' with
      | deliver m => exact congrArg (m :: ·) ih
      | transmit _ _ | completeWrite _ _ | completeRead _ => exact ih

end Connection

end Footscreen
