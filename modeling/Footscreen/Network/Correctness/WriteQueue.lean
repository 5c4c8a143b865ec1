import Footscreen.Network.Session

/-!
# `Network.Correctness.WriteQueue` — one write at a time, in order

`deliver` and `handleWrite` share the rule for who starts the next `async_write`: `deliver` on an empty
queue, `handleWrite` on a non-empty rest. `WriteQueue.Single` is what both keep — the outstanding write
is the one of the front element, and there is none exactly when the queue is empty. From it,
`write_queue_fifo`: in every interleaving the completed writes followed by the queue are the delivered
messages, in order.
-/

namespace Footscreen

open Lib

/-! ## The rule -/

/-- One write is outstanding, of the front element, exactly when the queue is not empty. -/
def WriteQueue.Single (q : WriteQueue) : Prop :=
  q.outstanding = (q.queue.head?.map AsyncWrite.full).toList

variable {side : Side} {q q' : WriteQueue} {m : MessageData}

theorem WriteQueue.single_empty : WriteQueue.empty.Single := rfl

/-- What `deliver` does under the rule: the message goes to the end, and if it is alone its write
    starts. -/
theorem deliver_single (side : Side) (m : MessageData) (hq : q.Single) :
    ∃ q', side.deliver q m = some q' ∧ q'.queue = q.queue ++ [m] ∧ q'.Single := by
  obtain ⟨queue, outstanding⟩ := q
  have houtstanding : outstanding = (queue.head?.map AsyncWrite.full).toList := hq
  rw [Side.deliver_eq]
  cases queue with
  | nil => exact ⟨_, rfl, rfl, by rw [houtstanding]; rfl⟩
  | cons front rest => exact ⟨_, rfl, rfl, houtstanding⟩

/-- What a completion does under the rule: the front element leaves, and the write of the next one
    starts. The outstanding write that completes has left the list already. -/
theorem handleWrite_single (side : Side) {rest : List MessageData} (hqueue : q.queue = m :: rest)
    (hout : q.outstanding = []) :
    ∃ q', side.handleWrite q false = some (q', []) ∧ q'.queue = rest ∧ q'.Single := by
  obtain ⟨queue, outstanding⟩ := q
  subst hqueue hout
  rw [Side.handleWrite_eq]
  cases rest with
  | nil => exact ⟨_, rfl, rfl, rfl⟩
  | cons next rest => exact ⟨_, rfl, rfl, rfl⟩

/-! ## Runs -/

/-- A write queue with the history of its calls. -/
structure WriteHistory where
  writes    : WriteQueue
  delivered : List MessageData
  completed : List AsyncWrite

/-- A connection that starts with an empty queue. -/
def WriteHistory.start : WriteHistory := ⟨.empty, [], []⟩

/-- A call of `deliver`, or the successful completion of the `i`-th outstanding write. -/
inductive WriteEvent where
  | deliver (m : MessageData)
  | complete (i : Nat)

/-- One event; both functions run under `m_writeMessageQueueMutex`, so events do not overlap. -/
def WriteHistory.step (side : Side) (s : WriteHistory) : WriteEvent → Option WriteHistory
  | .deliver m => do
      let writes ← side.deliver s.writes m
      return { s with writes := writes, delivered := s.delivered ++ [m] }
  | .complete i => do
      let write ← s.writes.outstanding[i]?
      let running := { s.writes with outstanding := s.writes.outstanding.eraseIdx i }
      let (writes, _) ← side.handleWrite running false
      return { s with writes := writes, completed := s.completed ++ [write] }

/-- The invariant: the rule, and that nothing is lost, repeated or reordered. -/
structure WriteHistory.Ordered (s : WriteHistory) : Prop where
  single : s.writes.Single
  fifo   : s.completed ++ s.writes.queue.map AsyncWrite.full = s.delivered.map AsyncWrite.full

variable {s s' : WriteHistory} {e : WriteEvent}

/-- In an ordered state every call of `deliver` goes through. -/
theorem WriteHistory.step_deliver (side : Side) (m : MessageData) (hs : s.Ordered) :
    ∃ s', s.step side (.deliver m) = some s' ∧ s'.Ordered := by
  obtain ⟨writes, hdeliver, hqueue, hsingle⟩ := deliver_single side m hs.single
  refine ⟨{ s with writes := writes, delivered := s.delivered ++ [m] }, ?_, hsingle, ?_⟩
  · rw [WriteHistory.step, hdeliver]
    rfl
  · show s.completed ++ writes.queue.map AsyncWrite.full = (s.delivered ++ [m]).map AsyncWrite.full
    rw [hqueue, List.map_append, ← List.append_assoc, hs.fifo, List.map_append]

/-- In an ordered state the outstanding write, if there is one, is the full frame of the front element,
    and its completion goes through. -/
theorem WriteHistory.step_complete (side : Side) {i : Nat} {w : AsyncWrite} (hs : s.Ordered)
    (hw : s.writes.outstanding[i]? = some w) :
    ∃ s', s.step side (.complete i) = some s' ∧ s'.Ordered := by
  have hsingle : s.writes.outstanding = (s.writes.queue.head?.map AsyncWrite.full).toList := hs.single
  cases hqueue : s.writes.queue with
  | nil =>
      rw [hsingle, hqueue] at hw
      exact absurd hw (by simp)
  | cons front rest =>
      rw [hqueue] at hsingle
      have hout : s.writes.outstanding = [AsyncWrite.full front] := hsingle
      -- only one write is outstanding, so it is this one that completes
      have hi : i = 0 ∧ w = AsyncWrite.full front := by
        rw [hout, List.getElem?_singleton] at hw
        split at hw
        · next h => exact ⟨h, (Option.some.inj hw).symm⟩
        · exact absurd hw (by simp)
      obtain ⟨rfl, rfl⟩ := hi
      have herase : s.writes.outstanding.eraseIdx 0 = [] := by rw [hout]; rfl
      obtain ⟨writes, hhandle, hrest, hsingle'⟩ :=
        handleWrite_single side
          (q := { s.writes with outstanding := s.writes.outstanding.eraseIdx 0 }) hqueue herase
      refine ⟨{ s with writes := writes, completed := s.completed ++ [AsyncWrite.full front] },
        ?_, hsingle', ?_⟩
      · simp only [WriteHistory.step, hw, Option.bind_eq_bind, Option.bind_some, hhandle,
          Option.pure_def]
      · have hfifo := hs.fifo
        rw [hqueue, List.map_cons] at hfifo
        show s.completed ++ [AsyncWrite.full front] ++ writes.queue.map AsyncWrite.full = _
        rw [hrest, List.append_assoc, List.singleton_append]
        exact hfifo

theorem WriteHistory.ordered_step (hs : s.Ordered) (hstep : s.step side e = some s') :
    s'.Ordered := by
  cases e with
  | deliver m =>
      obtain ⟨t, ht, hordered⟩ := WriteHistory.step_deliver side m hs
      rw [ht] at hstep
      exact Option.some.inj hstep ▸ hordered
  | complete i =>
      cases hw : s.writes.outstanding[i]? with
      | none =>
          rw [WriteHistory.step, hw] at hstep
          exact absurd hstep (by simp)
      | some w =>
          obtain ⟨t, ht, hordered⟩ := WriteHistory.step_complete side hs hw
          rw [ht] at hstep
          exact Option.some.inj hstep ▸ hordered

/-- The invariant holds after every run of a connection that starts with an empty queue. -/
theorem WriteHistory.ordered_run {es : List WriteEvent}
    (h : exec (WriteHistory.step side) .start es = some s) : s.Ordered :=
  exec_invariant WriteHistory.ordered_step ⟨WriteQueue.single_empty, rfl⟩ h

/-- **The write queue loses, duplicates and reorders nothing.** After any interleaving of `deliver` and
    successful completions: no write is outstanding on an empty queue, and exactly one on a non-empty
    queue, of all bytes of the front message's frame; the completed writes followed by the queue are the
    delivered messages in the order of their calls; and neither call can fail. -/
theorem write_queue_fifo (side : Side) {es : List WriteEvent} {s : WriteHistory}
    (h : exec (WriteHistory.step side) .start es = some s) :
    (s.writes.queue = [] → s.writes.outstanding = []) ∧
    (∀ front rest, s.writes.queue = front :: rest →
      ∃ w, s.writes.outstanding = [w] ∧ w = ⟨front, headerLength + front.contentLength.toNat⟩ ∧
        w.bytes = Lib.Framing.wire messageFormat front.frame) ∧
    s.completed ++ s.writes.queue.map AsyncWrite.full = s.delivered.map AsyncWrite.full ∧
    (∀ m, (s.step side (.deliver m)).isSome) ∧
    (∀ i, i < s.writes.outstanding.length → (s.step side (.complete i)).isSome) := by
  have hordered := WriteHistory.ordered_run h
  have hsingle : s.writes.outstanding = (s.writes.queue.head?.map AsyncWrite.full).toList :=
    hordered.single
  refine ⟨?_, ?_, hordered.fifo, ?_, ?_⟩
  · intro hqueue
    rw [hsingle, hqueue]
    rfl
  · intro front rest hqueue
    rw [hqueue] at hsingle
    exact ⟨_, hsingle, rfl, front.objectBytes_eq_wire⟩
  · intro m
    obtain ⟨t, ht, _⟩ := WriteHistory.step_deliver side m hordered
    rw [ht]
    rfl
  · intro i hi
    obtain ⟨t, ht, _⟩ :=
      WriteHistory.step_complete side hordered (List.getElem?_eq_getElem hi)
    rw [ht]
    rfl

/-- Two messages are delivered, and the write of the first completes. -/
theorem write_queue_fifo_two :
    ∃ s, exec (WriteHistory.step .client) .start
        [.deliver ⟨⟨3, 6, 0, 1⟩, .zero, none⟩, .deliver ⟨⟨4, 6, 0, 2⟩, .zero, none⟩, .complete 0] =
          some s ∧
      s.completed ++ s.writes.queue.map AsyncWrite.full = s.delivered.map AsyncWrite.full ∧
      ∃ w, s.writes.outstanding = [w] := by
  obtain ⟨s, hrun, hqueue⟩ : ∃ s, exec (WriteHistory.step .client) .start
      [.deliver ⟨⟨3, 6, 0, 1⟩, .zero, none⟩, .deliver ⟨⟨4, 6, 0, 2⟩, .zero, none⟩, .complete 0] =
        some s ∧ s.writes.queue = [⟨⟨4, 6, 0, 2⟩, .zero, none⟩] := ⟨_, rfl, rfl⟩
  obtain ⟨_, hfront, hfifo, _⟩ := write_queue_fifo .client hrun
  obtain ⟨w, hw, _⟩ := hfront _ _ hqueue
  exact ⟨s, hrun, hfifo, w, hw⟩

end Footscreen
