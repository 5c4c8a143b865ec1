import Footscreen.Network.Connection
import Footscreen.Network.Correctness.WriteQueue
import Footscreen.Lib.Channel
import Footscreen.Lib.Refinement

/-!
# `Network.Correctness.Delivery` — a connection is a reliable channel in order

A connection as a whole, from `deliver` at one end to `onMessageReceived` at the other. `Writing` is what
the write queue keeps of the stream (`deliver`, pieces and completions in any order), and `Receiving` what
the read loop keeps of it; `Carrying` puts the two together over one stream.

* `connection_simulates` — every step of a connection is a step of `Lib.Channel`, or none;
* `connection_delivers` — what has been received is the start of what has been delivered, on every run;
* `connection_drains` — as long as nothing fails, whatever order the pieces and completions come in, they
  come to an end, and then everything has been received.
-/

namespace Footscreen

open Lib Lib.Framing

/-! ## The reader -/

/-- The reader on the stream so far: it reads, or it has been stopped by an error after some frames. -/
inductive Receiving (stream : List UInt8) (s : StreamReader) : Prop where
  | reading (r : Reader MessageHeader UInt8) (hreads : Reads s r)
      (hsplit : r.Split messageFormat Fits stream)
  | closed (hin : s.outOfBounds = false) (hpending : s.loop.pending = none)
      (hexact : ∀ f ∈ s.messages.map MessageData.frame, Exact messageFormat f)
      (hstream : ∃ rest, stream = wires messageFormat (s.messages.map MessageData.frame) ++ rest)

/-- Frames that the sender may write: their content fits in a package. -/
def Sendable (f : Frame MessageHeader UInt8) : Prop := Exact messageFormat f ∧ Fits f.1

variable {side sender receiver : Side} {s s' : StreamReader} {r : Reader MessageHeader UInt8}
  {stream : List UInt8} {gs : List (Frame MessageHeader UInt8)}

theorem headerLength_pos : 0 < messageFormat.headerLength := by decide

/-- The frames that the abstract reader has taken apart are the messages received. -/
theorem Reads.messages_frame (h : Reads s r) : s.messages.map MessageData.frame = r.frames := by
  obtain ⟨ms, hsignals, hframes⟩ := h.signals
  have hmessages : s.messages = ms := by
    unfold StreamReader.messages
    rw [hsignals, List.filterMap_map]
    exact List.filterMap_some
  rw [hmessages, hframes]

theorem Reads.arrive (h : Reads s r) (bytes : List UInt8) :
    Reads (s.arrive bytes) { r with rest := r.rest ++ bytes } where
  inBounds := h.inBounds
  rest     := congrArg (· ++ bytes) h.rest
  signals  := h.signals
  phase    := h.phase

theorem Receiving.arrive (h : Receiving stream s) (bytes : List UInt8) :
    Receiving (stream ++ bytes) (s.arrive bytes) := by
  cases h with
  | reading r hreads hsplit => exact .reading _ (hreads.arrive bytes) (hsplit.arrive bytes)
  | closed hin hpending hexact hstream =>
      obtain ⟨rest, hstream⟩ := hstream
      exact .closed hin hpending hexact ⟨rest ++ bytes, by rw [hstream, List.append_assoc]; rfl⟩

theorem receiving_start (loop : ReadLoop) : Receiving [] (.start loop []) :=
  .reading _ (reads_start loop []) (split_start [])

theorem Receiving.inBounds (h : Receiving stream s) : s.outOfBounds = false := by
  cases h with
  | reading r hreads _ => exact hreads.inBounds
  | closed hin _ _ _ => exact hin

/-- Waiting for a header on a stream of sendable frames: the frames received are the first ones. -/
theorem split_header_position {rest : List UInt8} {frames : List (Frame MessageHeader UInt8)}
    (hsplit : Reader.Split messageFormat Fits stream ⟨.header, rest, frames⟩)
    (hgs : ∀ g ∈ gs, Sendable g) (hpre : stream <+: wires messageFormat gs) :
    ∃ gs', gs = frames ++ gs' ∧ rest <+: wires messageFormat gs' := by
  have hstream : stream = wires messageFormat frames ++ rest := hsplit.2
  rw [hstream] at hpre
  exact frames_unique headerLength_pos (fun f hf => (hsplit.1 f hf).1) (fun g hg => (hgs g hg).1) hpre

/-- Waiting for a body: the header is that of the next frame. -/
theorem split_body_position {h : MessageHeader} {rest : List UInt8}
    {frames : List (Frame MessageHeader UInt8)}
    (hsplit : Reader.Split messageFormat Fits stream ⟨.body h, rest, frames⟩)
    (hgs : ∀ g ∈ gs, Sendable g) (hpre : stream <+: wires messageFormat gs) :
    ∃ body gs', gs = frames ++ (h, body) :: gs' ∧ rest <+: body ++ wires messageFormat gs' := by
  obtain ⟨-, hstream⟩ := hsplit.2
  rw [hstream] at hpre
  obtain ⟨gs', rfl, hrest⟩ := frames_unique headerLength_pos (fun f hf => (hsplit.1 f hf).1)
    (fun g hg => (hgs g hg).1) hpre
  obtain ⟨body, gs'', rfl, hbody⟩ := header_unique headerLength_pos hrest
  exact ⟨body, gs'', rfl, hbody⟩

/-- **What has been received** are the first of the frames on the stream. -/
theorem Receiving.messages_prefix (h : Receiving stream s) (hgs : ∀ g ∈ gs, Sendable g)
    (hpre : stream <+: wires messageFormat gs) : s.messages.map MessageData.frame <+: gs := by
  cases h with
  | reading r hreads hsplit =>
      rw [hreads.messages_frame]
      obtain ⟨phase, rest, frames⟩ := r
      cases phase with
      | header =>
          obtain ⟨gs', rfl, -⟩ := split_header_position hsplit hgs hpre
          exact List.prefix_append _ _
      | body hd =>
          obtain ⟨body, gs', rfl, -⟩ := split_body_position hsplit hgs hpre
          exact List.prefix_append _ _
  | closed _ _ hexact hstream =>
      obtain ⟨rest, rfl⟩ := hstream
      obtain ⟨gs', rfl, -⟩ :=
        frames_unique headerLength_pos hexact (fun g hg => (hgs g hg).1) hpre
      exact List.prefix_append _ _

/-- A completed read on a stream of sendable frames: the header it reads, if it reads one, fits. -/
theorem Receiving.step_success (hreads : Reads s r) (hsplit : r.Split messageFormat Fits stream)
    (hgs : ∀ g ∈ gs, Sendable g) (hpre : stream <+: wires messageFormat gs)
    (hstep : s.step side .success = some s') :
    ∃ r', advance messageFormat r = some r' ∧ Reads s' r' ∧ r'.Split messageFormat Fits stream := by
  obtain ⟨r', hadv⟩ := advance_of_step hreads hstep
  have hfits : ∀ h, r'.phase = .body h → Fits h := by
    intro h hh
    obtain ⟨phase, rest, frames⟩ := r
    cases phase with
    | body hd =>
        simp only [advance, Option.ite_none_right_eq_some, Option.some.injEq] at hadv
        rw [← hadv.2] at hh
        cases hh
    | header =>
        simp only [advance, Option.ite_none_right_eq_some, Option.some.injEq] at hadv
        obtain ⟨hle, rfl⟩ := hadv
        cases hh
        -- the header read is that of the next frame on the stream
        rw [split_header hsplit hle] at hpre
        obtain ⟨gs', rfl, hrest⟩ := frames_unique headerLength_pos
          (fun f hf => (hsplit.1 f hf).1) (fun g hg => (hgs g hg).1) hpre
        obtain ⟨body, gs'', rfl, -⟩ := header_unique headerLength_pos hrest
        exact (hgs _ (List.mem_append_right _ List.mem_cons_self)).2
  obtain ⟨t, ht, hreads'⟩ := sim_success side hreads hadv hfits
  rw [ht] at hstep
  cases hstep
  exact ⟨r', hadv, hreads', advance_split hsplit hadv hfits⟩

theorem step_error_messages (hstep : s.step side .error = some s') : s'.messages = s.messages := by
  unfold StreamReader.step at hstep
  split at hstep
  · cases hstep
  · next read _ =>
      obtain ⟨length, handler⟩ := read
      rw [← Option.some.inj hstep]
      cases handler <;> cases side <;>
        simp [Side.completeRead, Side.handleRead_header, Side.handleRead_body,
          ReadLoop.handleReadHeader, ReadLoop.handleReadBody, StreamReader.finish,
          StreamReader.messages, Side.closed, Signal.message]

/-- A step of the abstract reader takes at most one frame off the stream. -/
theorem advance_frames {r' : Reader MessageHeader UInt8} (hadv : advance messageFormat r = some r') :
    r'.frames = r.frames ∨ ∃ f, r'.frames = r.frames ++ [f] := by
  obtain ⟨phase, rest, frames⟩ := r
  cases phase with
  | header =>
      simp only [advance, Option.ite_none_right_eq_some, Option.some.injEq] at hadv
      exact Or.inl (hadv.2 ▸ rfl)
  | body h =>
      simp only [advance, Option.ite_none_right_eq_some, Option.some.injEq] at hadv
      rw [← hadv.2]
      exact Or.inr ⟨_, rfl⟩

/-- **One completed or failed read** of a stream of sendable frames. -/
theorem Receiving.step {e : ReadCompletion} (h : Receiving stream s) (hgs : ∀ g ∈ gs, Sendable g)
    (hpre : stream <+: wires messageFormat gs) (hstep : s.step side e = some s') :
    Receiving stream s' ∧
      (s'.messages.map MessageData.frame = s.messages.map MessageData.frame ∨
        ∃ f, s'.messages.map MessageData.frame = s.messages.map MessageData.frame ++ [f]) := by
  cases h with
  | closed _ hpending _ _ =>
      rw [StreamReader.step, hpending] at hstep
      cases hstep
  | reading r hreads hsplit =>
      cases e with
      | success =>
          obtain ⟨r', hadv, hreads', hsplit'⟩ :=
            Receiving.step_success hreads hsplit hgs hpre hstep
          refine ⟨.reading r' hreads' hsplit', ?_⟩
          rw [hreads.messages_frame, hreads'.messages_frame]
          exact advance_frames hadv
      | error =>
          obtain ⟨hin, hpending⟩ := step_error hreads hstep
          have hmessages := step_error_messages hstep
          refine ⟨.closed hin hpending ?_ ?_, Or.inl (by rw [hmessages])⟩
          · rw [hmessages, hreads.messages_frame]
            exact fun f hf => (hsplit.1 f hf).1
          · rw [hmessages, hreads.messages_frame]
            obtain ⟨phase, rest, frames⟩ := r
            cases phase with
            | header  => exact ⟨rest, hsplit.2⟩
            | body hd => exact ⟨_, hsplit.2.2⟩

/-! ## The writer -/

/-- The write queue and the bytes `part` of its front message that are on the stream. -/
inductive Writing : WriteQueue → List Nat → List UInt8 → Prop where
  | idle : Writing ⟨[], []⟩ [] []
  | busy (front : MessageData) (rest : List MessageData) (k : Nat)
      (hle : k ≤ (AsyncWrite.full front).bytes.length) :
      Writing ⟨front :: rest, [.full front]⟩ [k] ((AsyncWrite.full front).bytes.take k)
  /-- The write has failed; no other one is started. -/
  | failed (front : MessageData) (rest : List MessageData) (part : List UInt8)
      (hpart : part <+: (AsyncWrite.full front).bytes) : Writing ⟨front :: rest, []⟩ [] part

variable {c c' : Connection} {q : WriteQueue} {transmitted : List Nat} {part : List UInt8}
  {m : MessageData}

/-- The part on the stream is the start of what the queue has still to write. -/
theorem Writing.part_prefix (h : Writing q transmitted part) :
    part <+: wires messageFormat (q.queue.map MessageData.frame) := by
  cases h with
  | idle => exact List.prefix_refl []
  | busy front rest k _ =>
      rw [List.map_cons, wires_cons, ← front.objectBytes_eq_wire]
      exact (List.take_prefix _ _).trans (List.prefix_append _ _)
  | failed front rest part hpart =>
      rw [List.map_cons, wires_cons, ← front.objectBytes_eq_wire]
      exact hpart.trans (List.prefix_append _ _)

/-- `deliver` goes through, and puts nothing on the stream. -/
theorem Writing.deliver (h : Writing q transmitted part) (sender : Side) (m : MessageData) :
    ∃ q', sender.deliver q m = some q' ∧ q'.queue = q.queue ++ [m] ∧
      Writing q' (Connection.started q' transmitted) part := by
  rw [Side.deliver_eq]
  cases h with
  | idle => exact ⟨_, rfl, rfl, .busy m [] 0 (Nat.zero_le _)⟩
  | busy front rest k hle => exact ⟨_, rfl, rfl, .busy front (rest ++ [m]) k hle⟩
  | failed front rest part hpart => exact ⟨_, rfl, rfl, .failed front (rest ++ [m]) part hpart⟩

/-- An outstanding write is the one of the front message. -/
theorem Writing.outstanding {i : Nat} {w : AsyncWrite} (h : Writing q transmitted part)
    (hw : q.outstanding[i]? = some w) :
    ∃ front rest k, i = 0 ∧ w = .full front ∧ q = ⟨front :: rest, [.full front]⟩ ∧
      transmitted = [k] ∧ k ≤ (AsyncWrite.full front).bytes.length ∧
      part = (AsyncWrite.full front).bytes.take k := by
  cases h with
  | idle => cases hw
  | failed front rest part hpart => cases hw
  | busy front rest k hle =>
      cases i with
      | zero =>
          cases hw
          exact ⟨front, rest, k, rfl, rfl, rfl, rfl, hle, rfl⟩
      | succ i => cases hw

/-- The write of the front message succeeds: the message leaves, and the next write starts. -/
theorem handleWrite_full (sender : Side) (front : MessageData) (rest : List MessageData) :
    ∃ q', sender.handleWrite ⟨front :: rest, []⟩ false = some (q', []) ∧ q'.queue = rest ∧
      q'.Single ∧ Writing q' (Connection.started q' []) [] := by
  rw [Side.handleWrite_eq]
  cases rest with
  | nil => exact ⟨_, rfl, rfl, rfl, .idle⟩
  | cons next rest => exact ⟨_, rfl, rfl, rfl, .busy next rest 0 (Nat.zero_le _)⟩

/-- The write of the front message fails: nothing else changes. -/
theorem handleWrite_error (sender : Side) (q : WriteQueue) :
    sender.handleWrite q true = some (q, [sender.closed]) := by
  rw [Side.handleWrite_eq]
  rfl

/-! ## The connection -/

namespace Connection

/-- The invariant: after some completed messages `done`, the writer is in the middle of the next one, and
    the reader somewhere on the stream that both make up. -/
structure Carrying (c : Connection) (ms : List MessageData) : Prop where
  fits    : ∀ m ∈ ms, Fits m.header
  carried : ∃ done part, ms = done ++ c.writes.queue ∧ Writing c.writes c.transmitted part ∧
    Receiving (wires messageFormat (done.map MessageData.frame) ++ part) c.reader

variable {ms done : List MessageData}

theorem carrying_start (loop : ReadLoop) : (start loop).Carrying [] :=
  ⟨fun _ hm => absurd hm List.not_mem_nil, [], [], rfl, .idle, receiving_start loop⟩

theorem sendable_frames (hfits : ∀ m ∈ ms, Fits m.header) :
    ∀ g ∈ ms.map MessageData.frame, Sendable g := by
  intro g hg
  obtain ⟨m, hm, rfl⟩ := List.mem_map.mp hg
  exact ⟨MessageData.frame_exact (hfits m hm), hfits m hm⟩

/-- What is on the stream is the start of the delivered frames. -/
theorem stream_isPrefix (h : Writing q transmitted part) :
    wires messageFormat (done.map MessageData.frame) ++ part <+:
      wires messageFormat ((done ++ q.queue).map MessageData.frame) := by
  rw [List.map_append, wires_append]
  exact (List.prefix_append_right_inj _).mpr h.part_prefix

/-- **What has been received** is the start of what has been delivered. -/
theorem Carrying.received (h : c.Carrying ms) :
    c.reader.messages.map MessageData.frame <+: ms.map MessageData.frame := by
  obtain ⟨done, part, rfl, hwriting, hreceiving⟩ := h.carried
  exact hreceiving.messages_prefix (sendable_frames h.fits) (stream_isPrefix hwriting)

/-- `deliver`. -/
theorem Carrying.deliver (h : c.Carrying ms) (hm : Fits m.header) (sender receiver : Side) :
    ∃ c', c.step sender receiver (.deliver m) = some c' ∧ c'.Carrying (ms ++ [m]) ∧
      c'.reader = c.reader := by
  obtain ⟨done, part, rfl, hwriting, hreceiving⟩ := h.carried
  obtain ⟨q', hdeliver, hqueue, hwriting'⟩ := hwriting.deliver sender m
  refine ⟨c.withWrites q' c.transmitted, ?_, ⟨?_, done, part, ?_, hwriting', hreceiving⟩, rfl⟩
  · rw [step, hdeliver]
    rfl
  · intro m' hm'
    rcases List.mem_append.mp hm' with hm' | hm'
    · exact h.fits m' hm'
    · rw [List.mem_singleton.mp hm']
      exact hm
  · show _ = done ++ q'.queue
    rw [hqueue, List.append_assoc]

/-- A piece of a write. -/
theorem Carrying.transmit {i n : Nat} (h : c.Carrying ms)
    (hstep : c.step sender receiver (.transmit i n) = some c') :
    c'.Carrying ms ∧ c'.reader.messages = c.reader.messages ∧
      c'.reader.loop = c.reader.loop := by
  obtain ⟨done, part, rfl, hwriting, hreceiving⟩ := h.carried
  obtain ⟨w, hw, hstep⟩ := Option.bind_eq_some_iff.mp hstep
  obtain ⟨front, rest, k, rfl, rfl, hq, ht, hle, rfl⟩ := hwriting.outstanding hw
  obtain ⟨writes, _, reader⟩ := c
  obtain rfl : writes = _ := hq
  obtain rfl := ht
  simp only [List.getElem?_cons_zero, Option.bind_eq_bind, Option.bind_some,
    Option.ite_none_right_eq_some, Option.some.injEq] at hstep
  obtain ⟨⟨_, hroom⟩, rfl⟩ := hstep
  refine ⟨⟨h.fits, done, _, rfl, .busy front rest (k + n) hroom, ?_⟩, rfl, rfl⟩
  -- the piece follows the part
  have harrive := hreceiving.arrive (((AsyncWrite.full front).bytes.drop k).take n)
  rw [List.append_assoc, ← List.take_add] at harrive
  exact harrive

/-- A completion, successful or not. -/
theorem Carrying.completeWrite {i : Nat} {error : Bool} (h : c.Carrying ms)
    (hstep : c.step sender receiver (.completeWrite i error) = some c') :
    c'.Carrying ms ∧ c'.reader = c.reader := by
  obtain ⟨done, part, rfl, hwriting, hreceiving⟩ := h.carried
  obtain ⟨w, hw, hstep⟩ := Option.bind_eq_some_iff.mp hstep
  obtain ⟨front, rest, k, rfl, rfl, hq, ht, hle, rfl⟩ := hwriting.outstanding hw
  obtain ⟨writes, _, reader⟩ := c
  obtain rfl : writes = _ := hq
  obtain rfl := ht
  cases error with
  | true =>
      simp only [List.getElem?_cons_zero, Option.bind_eq_bind, Option.bind_some, Bool.true_or,
        if_true, List.eraseIdx_cons_zero, handleWrite_error, Option.some.injEq] at hstep
      subst hstep
      exact ⟨⟨h.fits, done, _, rfl, .failed front rest _ (List.take_prefix _ _), hreceiving⟩, rfl⟩
  | false =>
      obtain ⟨q', hhandle, hqueue, -, hwriting'⟩ := handleWrite_full sender front rest
      simp only [List.getElem?_cons_zero, Option.bind_eq_bind, Option.bind_some, Bool.false_or,
        decide_eq_true_eq, List.eraseIdx_cons_zero, hhandle, Option.ite_none_right_eq_some,
        Option.some.injEq] at hstep
      obtain ⟨rfl, rfl⟩ := hstep
      refine ⟨⟨h.fits, done ++ [front], [], ?_, hwriting', ?_⟩, rfl⟩
      · show done ++ front :: rest = done ++ [front] ++ q'.queue
        rw [hqueue, List.append_assoc, List.singleton_append]
      · rw [List.take_length] at hreceiving
        rw [List.append_nil, List.map_append, wires_append, List.map_singleton, wires_cons,
          wires_nil, List.append_nil, ← front.objectBytes_eq_wire]
        exact hreceiving

/-- A read, successful or not: at most one more message is received. -/
theorem Carrying.completeRead {e : ReadCompletion} (h : c.Carrying ms)
    (hstep : c.step sender receiver (.completeRead e) = some c') :
    c'.Carrying ms ∧
      (c'.reader.messages.map MessageData.frame = c.reader.messages.map MessageData.frame ∨
        ∃ f, c'.reader.messages.map MessageData.frame =
          c.reader.messages.map MessageData.frame ++ [f]) := by
  obtain ⟨done, part, rfl, hwriting, hreceiving⟩ := h.carried
  obtain ⟨reader, hreader, rfl⟩ := Option.map_eq_some_iff.mp hstep
  obtain ⟨hreceiving', hmessages⟩ :=
    hreceiving.step (sendable_frames h.fits) (stream_isPrefix hwriting) hreader
  exact ⟨⟨h.fits, done, part, rfl, hwriting, hreceiving'⟩, hmessages⟩

/-! ## The channel -/

/-- What is delivered fits in a package. -/
def Event.Sendable : Event → Prop
  | .deliver m => Fits m.header
  | _          => True

/-- **One step** keeps the invariant. -/
theorem carrying_step {e : Event} (h : c.Carrying ms) (hok : e.Sendable)
    (hstep : c.step sender receiver e = some c') : c'.Carrying (ms ++ delivered [e]) := by
  cases e with
  | deliver m =>
      obtain ⟨t, ht, hc', -⟩ := h.deliver hok sender receiver
      exact Option.some.inj (ht.symm.trans hstep) ▸ hc'
  | transmit i n =>
      show c'.Carrying (ms ++ [])
      rw [List.append_nil]
      exact (h.transmit hstep).1
  | completeWrite i error =>
      show c'.Carrying (ms ++ [])
      rw [List.append_nil]
      exact (h.completeWrite hstep).1
  | completeRead e =>
      show c'.Carrying (ms ++ [])
      rw [List.append_nil]
      exact (h.completeRead hstep).1

/-- A step receives at most one more message. -/
theorem messages_step {e : Event} (h : c.Carrying ms)
    (hstep : c.step sender receiver e = some c') :
    c'.reader.messages.map MessageData.frame = c.reader.messages.map MessageData.frame ∨
      ∃ f, c'.reader.messages.map MessageData.frame =
        c.reader.messages.map MessageData.frame ++ [f] := by
  cases e with
  | deliver m =>
      obtain ⟨q, -, rfl⟩ := Option.map_eq_some_iff.mp hstep
      exact Or.inl rfl
  | transmit i n => exact Or.inl (by rw [(h.transmit hstep).2.1])
  | completeWrite i error => exact Or.inl (by rw [(h.completeWrite hstep).2])
  | completeRead e => exact (h.completeRead hstep).2

/-- What a channel of frames does while the connection does `e`: what is delivered is sent, and a completed
    read may receive. -/
inductive Shows : Event → List (Channel.Event (Frame MessageHeader UInt8)) → Prop where
  | deliver (m : MessageData) : Shows (.deliver m) [.send m.frame]
  | receive (e : ReadCompletion) : Shows (.completeRead e) [.receive]
  | internal {e : Event} (hdelivered : delivered [e] = []) : Shows e []

/-- The channel has received what the connection has, and what is delivered besides is in transit. -/
structure Carries (c : Connection) (ch : Channel (Frame MessageHeader UInt8)) : Prop where
  received  : ch.received = c.reader.messages.map MessageData.frame
  delivered : ∃ ms, c.Carrying ms ∧ ch.received ++ ch.inTransit = ms.map MessageData.frame

variable {ch : Channel (Frame MessageHeader UInt8)}

theorem carries_start (loop : ReadLoop) : Carries (start loop) .empty :=
  ⟨rfl, [], carrying_start loop, rfl⟩

/-- Nothing is delivered or received. -/
theorem Carries.internal (h : Carries c ch)
    (hcarrying : ∀ ms, c.Carrying ms → c'.Carrying ms)
    (hmessages : c'.reader.messages.map MessageData.frame =
      c.reader.messages.map MessageData.frame) : Carries c' ch := by
  obtain ⟨ms, hc, hframes⟩ := h.delivered
  exact ⟨h.received.trans hmessages.symm, ms, hcarrying ms hc, hframes⟩

/-- **A connection is a channel.** -/
theorem connection_simulates (sender receiver : Side) :
    Simulates (step sender receiver) Channel.step (fun _ e => e.Sendable) Shows Carries := by
  refine ⟨fun {c e c' ch} h hok hstep => ?_⟩
  cases e with
  | deliver m =>
      obtain ⟨ms, hc, hframes⟩ := h.delivered
      obtain ⟨t, ht, hc', hreader⟩ := hc.deliver hok sender receiver
      obtain rfl : t = c' := Option.some.inj (ht.symm.trans hstep)
      refine ⟨_, _, .deliver m, rfl, ?_, _, hc', ?_⟩
      · rw [hreader]
        exact h.received
      · show ch.received ++ (ch.inTransit ++ [m.frame]) = _
        rw [← List.append_assoc, hframes, List.map_append]
        rfl
  | transmit i n =>
      obtain ⟨ms, hc, -⟩ := h.delivered
      exact ⟨[], ch, .internal rfl, rfl, h.internal (fun _ hms => (hms.transmit hstep).1)
        (by rw [(hc.transmit hstep).2.1])⟩
  | completeWrite i error =>
      obtain ⟨ms, hc, -⟩ := h.delivered
      exact ⟨[], ch, .internal rfl, rfl, h.internal (fun _ hms => (hms.completeWrite hstep).1)
        (by rw [(hc.completeWrite hstep).2])⟩
  | completeRead e =>
      obtain ⟨ms, hc, hframes⟩ := h.delivered
      obtain ⟨hc', hsame | ⟨f, hmore⟩⟩ := hc.completeRead hstep
      · exact ⟨[], ch, .internal rfl, rfl,
          h.internal (fun _ hms => (hms.completeRead hstep).1) hsame⟩
      · -- what is received next is the first in transit
        obtain ⟨inTransit, received⟩ := ch
        have hreceived : received = c.reader.messages.map MessageData.frame := h.received
        have hpre := hc'.received
        rw [hmore, ← hframes, ← hreceived, List.prefix_append_right_inj] at hpre
        obtain ⟨rest, rfl⟩ := hpre
        refine ⟨[.receive], ⟨rest, received ++ [f]⟩, .receive e, rfl, ?_, ms, hc', ?_⟩
        · show received ++ [f] = _
          rw [hmore, hreceived]
        · rw [← hframes]
          exact List.append_assoc _ _ _

theorem sends_flatten {es : List Event}
    {fss : List (List (Channel.Event (Frame MessageHeader UInt8)))}
    (h : List.Forall₂ Shows es fss) :
    Channel.sends fss.flatten = (Connection.delivered es).map MessageData.frame := by
  induction h with
  | nil => rfl
  | @cons e fs es fss hshows _ ih =>
      have hcons : Connection.delivered (e :: es) =
          Connection.delivered [e] ++ Connection.delivered es := by
        cases e <;> rfl
      rw [List.flatten_cons, Channel.sends_append, ih, hcons, List.map_append]
      cases hshows with
      | deliver m => rfl
      | receive e => rfl
      | internal hdelivered => rw [hdelivered]; rfl

theorem guarded_sendable {es : List Event} (s : Connection)
    (hfits : ∀ m ∈ Connection.delivered es, m.contentLength.toNat ≤ maxMessageLength) :
    Guarded (step sender receiver) (fun _ e => e.Sendable) s es := by
  refine guarded_of_mem fun e he _ => ?_
  cases e with
  | deliver m =>
      refine hfits m ?_
      obtain ⟨es₁, es₂, rfl⟩ := List.append_of_mem he
      clear he hfits
      induction es₁ with
      | nil => exact List.mem_cons_self
      | cons e' es₁ ih =>
          cases e' with
          | deliver m' => exact List.mem_cons_of_mem _ ih
          | transmit _ _ | completeWrite _ _ | completeRead _ => exact ih
  | transmit _ _ | completeWrite _ _ | completeRead _ => trivial

/-- A run of a connection is one of a channel that has been sent what the connection has delivered. -/
theorem connection_run {loop : ReadLoop} {es : List Event}
    (hfits : ∀ m ∈ Connection.delivered es, m.contentLength.toNat ≤ maxMessageLength)
    (h : exec (step sender receiver) (start loop) es = some c) :
    ∃ fss ch, List.Forall₂ Shows es fss ∧ exec Channel.step .empty fss.flatten = some ch ∧
      Carries c ch :=
  (connection_simulates sender receiver).run (carries_start loop) (guarded_sendable _ hfits) h

/-- Prefixes of frames are frames of prefixes. -/
theorem sameMessage_prefix {ms ms' : List MessageData}
    (h : ms'.map MessageData.frame <+: ms.map MessageData.frame) :
    ∃ sent, sent <+: ms ∧ List.Forall₂ SameMessage sent ms' := by
  refine ⟨ms.take ms'.length, List.take_prefix _ _, forall₂_sameMessage ?_⟩
  rw [List.prefix_iff_eq_take.mp h, List.length_map, List.map_take]

/-- **A connection delivers.** Whatever the order of calls of `deliver`, pieces on the stream, completions
    and errors at either end: the messages received are the first of those delivered, in order; the read
    loop stays within its buffers; no two writes are outstanding; and neither `deliver` nor a completion
    of a write can go wrong. -/
theorem connection_delivers (sender receiver : Side) (loop : ReadLoop) {es : List Event}
    {c : Connection} (hfits : ∀ m ∈ delivered es, m.contentLength.toNat ≤ maxMessageLength)
    (h : exec (step sender receiver) (start loop) es = some c) :
    (∃ sent, sent <+: delivered es ∧ List.Forall₂ SameMessage sent c.reader.messages) ∧
    c.reader.outOfBounds = false ∧
    c.writes.outstanding.length ≤ 1 ∧
    (∀ m, (c.step sender receiver (.deliver m)).isSome) ∧
    (∀ i w, c.writes.outstanding[i]? = some w →
      (c.step sender receiver (.completeWrite i true)).isSome ∧
      (c.transmitted[i]? = some w.bytes.length →
        (c.step sender receiver (.completeWrite i false)).isSome)) := by
  obtain ⟨fss, ch, hshows, hchannel, hcarries⟩ := connection_run hfits h
  obtain ⟨ms, hc, hframes⟩ := hcarries.delivered
  obtain ⟨done, part, rfl, hwriting, hreceiving⟩ := hc.carried
  refine ⟨?_, hreceiving.inBounds, ?_, ?_, ?_⟩
  · apply sameMessage_prefix
    rw [← hcarries.received, ← sends_flatten hshows, ← Channel.exec_conserves hchannel]
    exact List.prefix_append _ _
  · cases hlen : c.writes.outstanding with
    | nil => exact Nat.zero_le _
    | cons w ws =>
        obtain ⟨front, rest, k, -, -, hq, -⟩ := hwriting.outstanding (i := 0) (by rw [hlen]; rfl)
        rw [← hlen, hq]
        exact Nat.le_refl _
  · intro m
    obtain ⟨q', hdeliver, -⟩ := hwriting.deliver sender m
    rw [step, hdeliver]
    rfl
  · intro i w hw
    obtain ⟨front, rest, k, rfl, rfl, hq, ht, hle, -⟩ := hwriting.outstanding hw
    obtain ⟨q', hhandle, -⟩ := handleWrite_full sender front rest
    refine ⟨?_, ?_⟩
    · simp [step, hq, ht, handleWrite_error]
    · intro hk
      rw [ht, List.getElem?_cons_zero, Option.some.injEq] at hk
      simp [step, hq, ht, hk, hhandle]

/-- The client receives a message while the next one is on its way. -/
def twoMessages : List Event :=
  [.deliver ⟨⟨3, messageGameUnit, 0, 2⟩, .zero, none⟩, .transmit 0 7,
   .deliver ⟨⟨4, messageGameUnit, 0, 0⟩, .zero, none⟩, .completeRead .success, .transmit 0 1,
   .completeWrite 0 false, .completeRead .success, .transmit 0 3]

/-- A read loop that has done nothing. -/
def idleLoop : ReadLoop := ⟨.zero, ⟨⟨0, 0, 0, 0⟩, .zero, none⟩, none⟩

theorem twoMessages_run :
    (exec (step .server .client) (start idleLoop) twoMessages).isSome = true := by
  decide +kernel

theorem twoMessages_fit : ∀ m ∈ delivered twoMessages, m.contentLength.toNat ≤ maxMessageLength := by
  decide

theorem connection_delivers_one :
    ∃ c, exec (step .server .client) (start idleLoop) twoMessages = some c ∧
      c.reader.messages.length = 1 ∧
      ∃ sent, sent <+: delivered twoMessages ∧ List.Forall₂ SameMessage sent c.reader.messages := by
  obtain ⟨hsent, -⟩ := connection_delivers .server .client idleLoop twoMessages_fit
    (Option.some_get twoMessages_run).symm
  exact ⟨_, (Option.some_get twoMessages_run).symm, by decide +kernel, hsent⟩

end Connection

end Footscreen
