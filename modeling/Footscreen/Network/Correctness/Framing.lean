import Footscreen.Network.Session

/-!
# `Network.Correctness.Framing` — reading messages back from a stream

`StreamReader` runs the read loop of either side over the bytes that the peer sends: each pending
`async_read` completes with exactly the bytes it asked for, or fails. `Reads` relates it to the
abstract reader of `Lib.Framing` over `messageFormat`; `sim_success` is the step diagram. It holds as
long as the header read announces a body that fits `m_readBuffer`, which nothing in the loops checks.

* `read_roundtrip` — messages written as their objects lie in memory are read back one for one;
* `read_within_bounds_iff` — the loops leave their buffers exactly on the streams that contain, after
  some number of complete frames, a header announcing more than `maxMessageLength` bytes.
-/

namespace Footscreen

open Lib Lib.Framing

/-- A read loop, the bytes it has still to read, the signals emitted so far, and whether the loop has
    left its buffers. -/
structure StreamReader where
  loop        : ReadLoop
  rest        : List UInt8
  signals     : List Signal
  outOfBounds : Bool

/-- How the pending `async_read` completes. -/
inductive ReadCompletion where
  | success
  | error

namespace StreamReader

/-- Continue with what a handler returned. -/
def finish (s : StreamReader) (rest : List UInt8) :
    Option (ReadLoop × List Signal) → StreamReader
  | some (loop, signals) => { s with loop := loop, rest := rest, signals := s.signals ++ signals }
  | none => { s with loop := { s.loop with pending := none }, rest := rest, outOfBounds := true }

/-- A connection that starts to read `stream`, whatever its buffers hold. -/
def start (loop : ReadLoop) (stream : List UInt8) : StreamReader :=
  finish ⟨loop, stream, [], false⟩ stream (loop.start.map fun loop => (loop, []))

/-- The pending read completes; `none` when there is none, or too few bytes have arrived. -/
def step (side : Side) (s : StreamReader) (e : ReadCompletion) : Option StreamReader :=
  match s.loop.pending with
  | none => none
  | some read =>
      match e with
      | .success =>
          if read.length ≤ s.rest.length then
            some (s.finish (s.rest.drop read.length)
              (side.completeRead s.loop read (some (s.rest.take read.length))))
          else none
      | .error => some (s.finish s.rest (side.completeRead s.loop read none))

end StreamReader

/-! ## The simulation -/

/-- The body that the header announces fits `m_readBuffer`. -/
def Fits (h : MessageHeader) : Prop := h.contentLength.toNat ≤ maxMessageLength

/-- The read loop waits for what the abstract reader waits for, and has emitted its frames. -/
structure Reads (s : StreamReader) (r : Reader MessageHeader UInt8) : Prop where
  inBounds : s.outOfBounds = false
  rest     : s.rest = r.rest
  signals  : ∃ ms : List MessageData,
    s.signals = ms.map .onMessageReceived ∧ ms.map MessageData.frame = r.frames
  phase    : match r.phase with
    | .header => s.loop.pending = some ⟨headerLength, .header⟩
    | .body h => s.loop.pending = some ⟨h.contentLength.toNat, .body⟩ ∧
        s.loop.currentMessage.header = h ∧ Fits h

variable {side : Side} {s s' : StreamReader} {r r' : Reader MessageHeader UInt8}

theorem reads_start (loop : ReadLoop) (stream : List UInt8) :
    Reads (.start loop stream) (.start stream) where
  inBounds := rfl
  rest     := rfl
  signals  := ⟨[], rfl, rfl⟩
  phase    := rfl

/-- A header arrives: the loop copies it and asks for the body, or leaves its buffer. -/
theorem step_header (side : Side) {rest : List UInt8} {frames : List (Frame MessageHeader UInt8)}
    (hs : Reads s ⟨.header, rest, frames⟩) (hle : headerLength ≤ rest.length) :
    let h := MessageHeader.ofBytes (rest.take headerLength)
    ∃ s', s.step side .success = some s' ∧
      (Fits h → Reads s' ⟨.body h, rest.drop headerLength, frames⟩) ∧
      (¬ Fits h → s'.outOfBounds = true ∧ s'.loop.pending = none) := by
  intro h
  have hpending : s.loop.pending = some ⟨headerLength, .header⟩ := hs.phase
  have hrest : s.rest = rest := hs.rest
  have hword : (rest.take headerLength).length = headerLength := by
    rw [List.length_take, Nat.min_eq_left hle]
  have hword_le : (rest.take headerLength).length ≤ maxMessageLength := by rw [hword]; decide
  obtain ⟨buffer, hcopy, htake⟩ := s.loop.readBuffer.copyIn_of_le _ hword_le
  have hheader : MessageHeader.ofBytes (buffer.bytes.take headerLength) = h := by
    rw [hword] at htake
    rw [htake]
  have hstep : s.step side .success = some (s.finish (rest.drop headerLength)
      (side.completeRead s.loop ⟨headerLength, .header⟩ (some (rest.take headerLength)))) := by
    simp only [StreamReader.step, hpending, hrest, if_pos hle]
  refine ⟨_, hstep, ?_, ?_⟩
  · intro hfits
    have hlen : h.contentLength.toNat ≤ maxMessageLength := hfits
    simp only [Side.completeRead, hcopy, Option.bind_eq_bind, Option.bind_some,
      Side.handleRead_header, ReadLoop.handleReadHeader, Bool.false_eq_true, if_false,
      MessageData.copyHeaderFrom, MessageData.contentLength, hheader, ReadLoop.asyncRead,
      if_pos hlen, Option.pure_def, StreamReader.finish, List.append_nil]
    exact ⟨hs.inBounds, rfl, hs.signals, rfl, rfl, hfits⟩
  · intro hfits
    have hlen : ¬ h.contentLength.toNat ≤ maxMessageLength := hfits
    simp only [Side.completeRead, hcopy, Option.bind_eq_bind, Option.bind_some,
      Side.handleRead_header, ReadLoop.handleReadHeader, Bool.false_eq_true, if_false,
      MessageData.copyHeaderFrom, MessageData.contentLength, hheader, ReadLoop.asyncRead,
      if_neg hlen, Option.bind_none, StreamReader.finish, and_self]

/-- A body arrives: the loop emits the message and asks for the next header. -/
theorem step_body {h : MessageHeader} {rest : List UInt8}
    {frames : List (Frame MessageHeader UInt8)} (hs : Reads s ⟨.body h, rest, frames⟩)
    (hle : h.contentLength.toNat ≤ rest.length) :
    ∃ s', s.step side .success = some s' ∧
      Reads s' ⟨.header, rest.drop h.contentLength.toNat,
        frames ++ [(h, rest.take h.contentLength.toNat)]⟩ := by
  obtain ⟨hpending, hheader, hfits⟩ := hs.phase
  obtain ⟨ms, hsignals, hframes⟩ := hs.signals
  have hrest : s.rest = rest := hs.rest
  have hword : (rest.take h.contentLength.toNat).length = h.contentLength.toNat := by
    rw [List.length_take, Nat.min_eq_left hle]
  obtain ⟨buffer, hcopy, htake⟩ :=
    s.loop.readBuffer.copyIn_of_le _ (Nat.le_trans (Nat.le_of_eq hword) hfits)
  rw [hword] at htake
  -- the header was copied into the message before, so the body has its length
  have hlen : s.loop.currentMessage.contentLength = h.contentLength := by
    rw [MessageData.contentLength, hheader]
  obtain ⟨m, hcontent, hframe⟩ :=
    MessageData.copyContentFrom_of_le s.loop.currentMessage buffer
      (by rw [hlen]; exact hfits)
  rw [hheader, hlen, htake] at hframe
  have hsix : headerLength ≤ maxMessageLength := by decide
  have hstep : s.step side .success = some (s.finish (rest.drop h.contentLength.toNat)
      (side.completeRead s.loop ⟨h.contentLength.toNat, .body⟩
        (some (rest.take h.contentLength.toNat)))) := by
    simp only [StreamReader.step, hpending, hrest, if_pos hle]
  refine ⟨_, hstep, ?_⟩
  simp only [Side.completeRead, hcopy, Option.bind_eq_bind, Option.bind_some,
    Side.handleRead_body, ReadLoop.handleReadBody, Bool.false_eq_true, if_false, hcontent,
    ReadLoop.asyncRead, if_pos hsix, Option.pure_def, StreamReader.finish]
  refine ⟨hs.inBounds, rfl, ⟨ms ++ [m], ?_, ?_⟩, rfl⟩
  · rw [hsignals, List.map_append]
    rfl
  · rw [List.map_append, hframes]
    show frames ++ [m.frame] = _
    rw [hframe]

/-- **The step diagram.** The loop follows the abstract reader as long as the header read fits. -/
theorem sim_success (side : Side) (hs : Reads s r) (hadv : advance messageFormat r = some r')
    (hfits : ∀ h, r'.phase = .body h → Fits h) :
    ∃ s', s.step side .success = some s' ∧ Reads s' r' := by
  obtain ⟨phase, rest, frames⟩ := r
  cases phase with
  | header =>
      simp only [advance, Option.ite_none_right_eq_some, Option.some.injEq] at hadv
      obtain ⟨hle, rfl⟩ := hadv
      obtain ⟨s', hstep, hreads, _⟩ := step_header side hs hle
      exact ⟨s', hstep, hreads (hfits _ rfl)⟩
  | body h =>
      simp only [advance, Option.ite_none_right_eq_some, Option.some.injEq] at hadv
      obtain ⟨hle, rfl⟩ := hadv
      exact step_body hs hle

/-- The loop completes a read only where the abstract reader does. -/
theorem advance_of_step (hs : Reads s r) (hstep : s.step side .success = some s') :
    ∃ r', advance messageFormat r = some r' := by
  obtain ⟨phase, rest, frames⟩ := r
  have hrest : s.rest = rest := hs.rest
  cases phase with
  | header =>
      have hpending : s.loop.pending = some ⟨headerLength, .header⟩ := hs.phase
      simp only [StreamReader.step, hpending, hrest, Option.ite_none_right_eq_some] at hstep
      exact ⟨_, if_pos hstep.1⟩
  | body h =>
      have hpending : s.loop.pending = some ⟨h.contentLength.toNat, .body⟩ := hs.phase.1
      simp only [StreamReader.step, hpending, hrest, Option.ite_none_right_eq_some] at hstep
      exact ⟨_, if_pos hstep.1⟩

/-- A failed read ends the loop: nothing is pending any more. -/
theorem step_error (hs : Reads s r) (hstep : s.step side .error = some s') :
    s'.outOfBounds = false ∧ s'.loop.pending = none := by
  unfold StreamReader.step at hstep
  split at hstep
  · exact absurd hstep (by simp)
  · next read _ =>
      obtain ⟨length, handler⟩ := read
      rw [← Option.some.inj hstep]
      cases handler <;>
        simp only [Side.completeRead, Side.handleRead_header, Side.handleRead_body,
          ReadLoop.handleReadHeader, ReadLoop.handleReadBody, if_true, StreamReader.finish] <;>
        exact ⟨hs.inBounds, trivial⟩

/-! ## The round trip -/

/-- What a writer puts on the stream for a list of messages. -/
def written (ms : List MessageData) : List UInt8 :=
  ms.flatMap fun m => m.objectBytes (headerLength + m.contentLength.toNat)

theorem written_eq_wires (ms : List MessageData) :
    written ms = wires messageFormat (ms.map MessageData.frame) := by
  rw [written, wires, List.flatMap_map]
  exact congrArg (List.flatMap · ms) (funext MessageData.objectBytes_eq_wire)

/-- Two messages agree on the header fields and on the content the header announces. -/
def SameMessage (m m' : MessageData) : Prop :=
  m'.messageID = m.messageID ∧ m'.contentType = m.contentType ∧
  m'.contentLength = m.contentLength ∧
  m'.content.bytes.take m.contentLength.toNat = m.content.bytes.take m.contentLength.toNat

theorem sameMessage_of_frame {m m' : MessageData} (h : m'.frame = m.frame) : SameMessage m m' := by
  obtain ⟨hheader, hcontent⟩ := Prod.mk.inj h
  have hlen : m'.contentLength = m.contentLength := congrArg MessageHeader.contentLength hheader
  refine ⟨congrArg MessageHeader.messageID hheader, congrArg MessageHeader.contentType hheader,
    hlen, ?_⟩
  rwa [hlen] at hcontent

theorem forall₂_sameMessage {ms ms' : List MessageData}
    (h : ms'.map MessageData.frame = ms.map MessageData.frame) :
    List.Forall₂ SameMessage ms ms' := by
  induction ms generalizing ms' with
  | nil =>
      rw [List.map_nil, List.map_eq_nil_iff] at h
      rw [h]
      exact .nil
  | cons m ms ih =>
      cases ms' with
      | nil => exact absurd h (by simp)
      | cons m' ms' =>
          rw [List.map_cons, List.map_cons, List.cons.injEq] at h
          exact .cons (sameMessage_of_frame h.1) (ih h.2)

/-- **Framing round trip.** Whatever the buffers hold at first, after two completed reads for each
    message `onMessageReceived` has fired once per message, in order, with the message sent; the stream
    is consumed exactly, and the loop waits for more. -/
theorem read_roundtrip (side : Side) (loop : ReadLoop) (ms : List MessageData)
    (hms : ∀ m ∈ ms, m.contentLength.toNat ≤ maxMessageLength) :
    ∃ s, exec (StreamReader.step side) (.start loop (written ms))
          (List.replicate (2 * ms.length) .success) = some s ∧
      (∃ received, s.signals = received.map .onMessageReceived ∧
        List.Forall₂ SameMessage ms received) ∧
      s.rest = [] ∧ s.outOfBounds = false ∧ s.step side .success = none := by
  have hframes : ∀ f ∈ ms.map MessageData.frame, Exact messageFormat f ∧ Fits f.1 := by
    intro f hf
    obtain ⟨m, hm, rfl⟩ := List.mem_map.mp hf
    exact ⟨MessageData.frame_exact (hms m hm), hms m hm⟩
  have hstart : Reads (.start loop (written ms))
      ⟨.header, wires messageFormat (ms.map MessageData.frame) ++ [], []⟩ := by
    rw [List.append_nil, ← written_eq_wires]
    exact reads_start loop _
  obtain ⟨s, hrun, hreads⟩ := reads_wires (sim_success side) hframes hstart
  rw [List.length_map] at hrun
  rw [List.nil_append] at hreads
  obtain ⟨received, hsignals, hreceived⟩ := hreads.signals
  have hpending : s.loop.pending = some ⟨headerLength, .header⟩ := hreads.phase
  have hwaits : s.step side .success = none := by
    simp only [StreamReader.step, hpending, hreads.rest]
    rfl
  exact ⟨s, hrun, ⟨received, hsignals, forall₂_sameMessage hreceived⟩, hreads.rest,
    hreads.inBounds, hwaits⟩

/-- A unit update followed by a message without content, on the session's side. -/
theorem read_roundtrip_pair :
    let unit : MessageData := ⟨⟨3, messageGameUnit, 0, 16⟩, .zero, none⟩
    let empty : MessageData := ⟨⟨4, messageGameUnit, 0, 0⟩, .zero, none⟩
    ∃ s, exec (StreamReader.step .server) (.start ⟨.zero, empty, none⟩ (written [unit, empty]))
        (List.replicate 4 .success) = some s ∧
      (∃ received, s.signals = received.map .onMessageReceived ∧
        List.Forall₂ SameMessage [unit, empty] received) ∧
      s.rest = [] ∧ s.outOfBounds = false ∧ s.step .server .success = none := by
  intro unit empty
  exact read_roundtrip .server ⟨.zero, empty, none⟩ [unit, empty] (by decide)

/-! ## Bounds -/

/-- The stream contains, after some complete frames that fit, a header whose body does not. -/
def Oversized (stream : List UInt8) : Prop :=
  ∃ fs h rest, (∀ f ∈ fs, Exact messageFormat f ∧ Fits f.1) ∧ ¬ Fits h ∧
    stream = wires messageFormat fs ++ (h.toBytes ++ rest)

/-- Where a loop can be on a stream: still reading, closed by an error, or out of its buffers. -/
inductive ReadStatus (stream : List UInt8) (s : StreamReader) : Prop where
  | reading (r : Reader MessageHeader UInt8) (hreads : Reads s r)
      (hsplit : r.Split messageFormat Fits stream)
  | closed (hin : s.outOfBounds = false) (hpending : s.loop.pending = none)
  | overrun (hout : s.outOfBounds = true) (hpending : s.loop.pending = none)
      (hstream : Oversized stream)

/-- One completed or failed read. -/
theorem readStatus_step {stream : List UInt8} {e : ReadCompletion} (hs : ReadStatus stream s)
    (hstep : s.step side e = some s') : ReadStatus stream s' := by
  cases hs with
  | closed _ hpending =>
      rw [StreamReader.step, hpending] at hstep
      exact absurd hstep (by simp)
  | overrun _ hpending _ =>
      rw [StreamReader.step, hpending] at hstep
      exact absurd hstep (by simp)
  | reading r hreads hsplit =>
      cases e with
      | error =>
          obtain ⟨hin, hpending⟩ := step_error hreads hstep
          exact .closed hin hpending
      | success =>
          obtain ⟨r', hadv⟩ := advance_of_step hreads hstep
          by_cases hfits : ∀ h, r'.phase = .body h → Fits h
          · obtain ⟨t, ht, hreads'⟩ := sim_success _ hreads hadv hfits
            rw [ht] at hstep
            exact .reading r' (Option.some.inj hstep ▸ hreads') (advance_split hsplit hadv hfits)
          · -- only a header step can read something unacceptable
            obtain ⟨phase, rest, frames⟩ := r
            cases phase with
            | body h =>
                simp only [advance, Option.ite_none_right_eq_some, Option.some.injEq] at hadv
                exact absurd (fun h hh => by rw [← hadv.2] at hh; cases hh) hfits
            | header =>
                simp only [advance, Option.ite_none_right_eq_some, Option.some.injEq] at hadv
                obtain ⟨hle, rfl⟩ := hadv
                simp only [Phase.body.injEq, forall_eq'] at hfits
                obtain ⟨t, ht, _, hover⟩ := step_header side hreads hle
                rw [ht] at hstep
                obtain ⟨hout, hpending⟩ := Option.some.inj hstep ▸ hover hfits
                exact .overrun hout hpending
                  ⟨frames, _, _, hsplit.1, hfits, split_header hsplit hle⟩

theorem readStatus_run {stream : List UInt8} {loop : ReadLoop} {es : List ReadCompletion}
    (h : exec (StreamReader.step side) (.start loop stream) es = some s) :
    ReadStatus stream s :=
  exec_invariant readStatus_step (.reading _ (reads_start loop stream) (split_start stream)) h

/-- On an oversized stream the loop leaves its buffers. -/
theorem overruns_of_oversized (side : Side) (loop : ReadLoop) {stream : List UInt8}
    (h : Oversized stream) :
    ∃ es s, exec (StreamReader.step side) (.start loop stream) es = some s ∧
      s.outOfBounds = true := by
  obtain ⟨fs, hd, rest, hfs, hlong, rfl⟩ := h
  have hstart := reads_start loop (wires messageFormat fs ++ (hd.toBytes ++ rest))
  obtain ⟨t, hrun, hreads⟩ := reads_wires (sim_success side) hfs hstart
  have hle : headerLength ≤ (hd.toBytes ++ rest).length := by
    rw [List.length_append, hd.toBytes_length]
    exact Nat.le_add_right _ _
  obtain ⟨s, hstep, _, hover⟩ := step_header side hreads hle
  have hhd : MessageHeader.ofBytes ((hd.toBytes ++ rest).take headerLength) = hd := by
    rw [← hd.toBytes_length, List.take_left, MessageHeader.ofBytes_toBytes]
  rw [hhd] at hover
  exact ⟨_, s, exec_snoc.mpr ⟨t, hrun, hstep⟩, (hover hlong).1⟩

/-- **The read loops stay within their buffers** on every run over a stream, errors included, if and
    only if the stream holds no header announcing more than `maxMessageLength` bytes where a header is
    read. -/
theorem read_within_bounds_iff (side : Side) (loop : ReadLoop) (stream : List UInt8) :
    (∀ es s, exec (StreamReader.step side) (.start loop stream) es = some s →
      s.outOfBounds = false) ↔ ¬ Oversized stream := by
  constructor
  · intro hall hover
    obtain ⟨es, s, hrun, hout⟩ := overruns_of_oversized side loop hover
    rw [hall es s hrun] at hout
    exact Bool.false_ne_true hout
  · intro hnot es s hrun
    cases readStatus_run hrun with
    | reading r hreads _ => exact hreads.inBounds
    | closed hin _ => exact hin
    | overrun _ _ hstream => exact absurd hstream hnot

/-- A header announcing 513 bytes takes either loop out of its buffer. -/
theorem overruns_on_long_header :
    (∃ s, exec (StreamReader.step .server)
        (.start ⟨.zero, ⟨⟨0, 0, 0, 0⟩, .zero, none⟩, none⟩ [3, 0, 2, 0, 1, 2]) [.success] = some s ∧
      s.outOfBounds = true) ∧
    (∃ s, exec (StreamReader.step .client)
        (.start ⟨.zero, ⟨⟨0, 0, 0, 0⟩, .zero, none⟩, none⟩ [3, 0, 2, 0, 1, 2]) [.success] = some s ∧
      s.outOfBounds = true) :=
  ⟨⟨_, rfl, rfl⟩, ⟨_, rfl, rfl⟩⟩

end Footscreen
