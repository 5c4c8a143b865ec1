import Footscreen.Network.Correctness.Delivery
import Mathlib.Algebra.GroupWithZero.Nat

/-!
# `Network.Correctness.Draining` — everything that is delivered arrives

A connection on which nothing fails (`Open`) cannot go on forever without new messages, and it cannot come
to rest early: each piece, completion and read takes one off `work` (`Carrying.progress`), and where none of
them is possible, the queue is empty and everything has been received (`Carrying.at_rest`).
-/

namespace Footscreen

open Lib Lib.Framing

/-- Under the rule of the queue, a queued message is being written. -/
theorem WriteQueue.Single.writes {q : WriteQueue} (h : q.Single) (hne : q.queue ≠ []) :
    q.outstanding ≠ [] := by
  have houtstanding : q.outstanding = (q.queue.head?.map AsyncWrite.full).toList := h
  rw [houtstanding]
  cases hqueue : q.queue with
  | nil => exact absurd hqueue hne
  | cons front rest => exact List.cons_ne_nil _ _

/-- Whether the header of a message has been read and its body has not, as a number. -/
def StreamReader.bodyPending (s : StreamReader) : Nat :=
  if s.loop.pending.map (·.handler) = some .body then 1 else 0

/-- A loop that reads has a read pending: that of a header, or of a body. -/
theorem Reads.pending {s : StreamReader} {r : Reader MessageHeader UInt8} (h : Reads s r) :
    s.loop.pending.isSome = true ∧ s.messages.length = r.frames.length ∧
      (r.phase = .header → s.bodyPending = 0) ∧ ∀ hd, r.phase = .body hd → s.bodyPending = 1 := by
  have hlength : s.messages.length = r.frames.length := by
    rw [← h.messages_frame, List.length_map]
  obtain ⟨phase, rest, frames⟩ := r
  unfold StreamReader.bodyPending
  cases phase with
  | header =>
      have hpending : s.loop.pending = some ⟨headerLength, .header⟩ := h.phase
      rw [hpending]
      exact ⟨rfl, hlength, fun _ => rfl, nofun⟩
  | body hd =>
      have hpending : s.loop.pending = some ⟨hd.contentLength.toNat, .body⟩ := h.phase.1
      rw [hpending]
      exact ⟨rfl, hlength, nofun, fun _ _ => rfl⟩

namespace Connection

/-- Neither end has stopped: a queued message is being written, and a read is pending. -/
structure Open (c : Connection) : Prop where
  writing : c.writes.queue ≠ [] → c.writes.outstanding ≠ []
  reading : c.reader.loop.pending.isSome = true

/-- How many pieces and completions the queued messages can take. -/
def writeWork (c : Connection) : Nat :=
  (c.writes.queue.map fun m => (AsyncWrite.full m).bytes.length + 1).sum - c.transmitted.sum

/-- How many reads are left, when `n` messages have been delivered. -/
def readWork (c : Connection) (n : Nat) : Nat :=
  2 * (n - c.reader.messages.length) - c.reader.bodyPending

def work (c : Connection) (n : Nat) : Nat := c.writeWork + c.readWork n

variable {sender receiver : Side} {c c' : Connection} {ms : List MessageData} {loop : ReadLoop}
  {es : List Event} {e : Event}

/-! ## The writer -/

/-- What an open connection writes: nothing, or the front message. -/
theorem Carrying.writer (h : c.Carrying ms) (hopen : c.Open) :
    (c.writes = ⟨[], []⟩ ∧ c.transmitted = []) ∨
      ∃ front rest k, c.writes = ⟨front :: rest, [.full front]⟩ ∧ c.transmitted = [k] ∧
        k ≤ (AsyncWrite.full front).bytes.length := by
  obtain ⟨done, part, -, hwriting, -⟩ := h.carried
  cases hlen : c.writes.outstanding with
  | nil =>
      have hqueue : c.writes.queue = [] := by
        by_contra hne
        exact hopen.writing hne hlen
      refine Or.inl ⟨?_, ?_⟩
      · obtain ⟨⟨queue, outstanding⟩, transmitted, reader⟩ := c
        obtain rfl : queue = [] := hqueue
        obtain rfl : outstanding = [] := hlen
        rfl
      · generalize c.writes = q, c.transmitted = t at hwriting hqueue
        cases hwriting with
        | idle => rfl
        | busy front rest k hle => cases hqueue
        | failed front rest part hpart => rfl
  | cons w ws =>
      obtain ⟨front, rest, k, -, -, hq, ht, hle, -⟩ :=
        hwriting.outstanding (i := 0) (w := w) (by rw [hlen]; rfl)
      exact Or.inr ⟨front, rest, k, hq, ht, hle⟩

/-- A piece takes its bytes off the work. -/
theorem writeWork_transmit {i n : Nat} (h : c.Carrying ms) (hopen : c.Open)
    (hstep : c.step sender receiver (.transmit i n) = some c') :
    c'.writeWork < c.writeWork ∧ c'.Open := by
  obtain ⟨w, hw, hstep⟩ := Option.bind_eq_some_iff.mp hstep
  rcases h.writer hopen with ⟨hq, -⟩ | ⟨front, rest, k, hq, ht, hle⟩
  · rw [hq] at hw
    cases hw
  · obtain ⟨writes, transmitted, reader⟩ := c
    obtain rfl : writes = _ := hq
    obtain rfl : transmitted = _ := ht
    have hi : i = 0 := by
      cases i with
      | zero => rfl
      | succ i => cases hw
    subst hi
    cases hw
    simp only [List.getElem?_cons_zero, Option.bind_eq_bind, Option.bind_some,
      Option.ite_none_right_eq_some, Option.some.injEq] at hstep
    obtain ⟨⟨hn, hroom⟩, rfl⟩ := hstep
    refine ⟨?_, fun _ => List.cons_ne_nil _ _, hopen.reading⟩
    simp only [writeWork, List.set_cons_zero, List.map_cons, List.sum_cons, List.sum_nil]
    omega

/-- A completion takes the message off the work. -/
theorem writeWork_complete {i : Nat} (h : c.Carrying ms) (hopen : c.Open)
    (hstep : c.step sender receiver (.completeWrite i false) = some c') :
    c'.writeWork < c.writeWork ∧ c'.Open := by
  obtain ⟨w, hw, hstep⟩ := Option.bind_eq_some_iff.mp hstep
  rcases h.writer hopen with ⟨hq, -⟩ | ⟨front, rest, k, hq, ht, hle⟩
  · rw [hq] at hw
    cases hw
  · obtain ⟨writes, transmitted, reader⟩ := c
    obtain rfl : writes = _ := hq
    obtain rfl : transmitted = _ := ht
    have hi : i = 0 := by
      cases i with
      | zero => rfl
      | succ i => cases hw
    subst hi
    cases hw
    obtain ⟨q', hhandle, hqueue, hsingle, -⟩ := handleWrite_full sender front rest
    simp only [List.getElem?_cons_zero, Option.bind_eq_bind, Option.bind_some, Bool.false_or,
      decide_eq_true_eq, List.eraseIdx_cons_zero, hhandle, Option.ite_none_right_eq_some,
      Option.some.injEq] at hstep
    obtain ⟨rfl, rfl⟩ := hstep
    have hsum : (started q' []).sum = 0 := by
      unfold started
      simp
    refine ⟨?_, hsingle.writes, hopen.reading⟩
    show (q'.queue.map _).sum - (started q' []).sum < _
    rw [hqueue, hsum]
    simp only [writeWork, List.map_cons, List.sum_cons, List.sum_nil]
    omega

/-! ## The reader -/

/-- An open connection reads. -/
theorem Carrying.reader (h : c.Carrying ms) (hopen : c.Open) :
    ∃ stream r, stream <+: wires messageFormat (ms.map MessageData.frame) ∧ Reads c.reader r ∧
      r.Split messageFormat Fits stream := by
  obtain ⟨done, part, rfl, hwriting, hreceiving⟩ := h.carried
  cases hreceiving with
  | reading r hreads hsplit => exact ⟨_, r, stream_isPrefix hwriting, hreads, hsplit⟩
  | closed _ hpending _ _ =>
      have hsome := hopen.reading
      rw [hpending] at hsome
      cases hsome

/-- A completed read takes itself off the work. -/
theorem readWork_read (h : c.Carrying ms) (hopen : c.Open)
    (hstep : c.step sender receiver (.completeRead .success) = some c') :
    c'.readWork ms.length < c.readWork ms.length ∧ c'.Open := by
  obtain ⟨stream, r, hpre, hreads, hsplit⟩ := h.reader hopen
  obtain ⟨reader, hreader, rfl⟩ := Option.map_eq_some_iff.mp hstep
  have hgs := sendable_frames h.fits
  obtain ⟨r', hadv, hreads', hsplit'⟩ := Receiving.step_success hreads hsplit hgs hpre hreader
  obtain ⟨-, hlen, hheader, hbody⟩ := hreads.pending
  obtain ⟨hpending', hlen', hheader', hbody'⟩ := hreads'.pending
  refine ⟨?_, hopen.writing, hpending'⟩
  -- one more message is to come, whose header or body this was
  have hcount : ∀ {f : Frame MessageHeader UInt8} {fs gs : List (Frame MessageHeader UInt8)},
      ms.map MessageData.frame = fs ++ f :: gs → fs.length < ms.length := by
    intro f fs gs heq
    have hlen := congrArg List.length heq
    rw [List.length_map, List.length_append, List.length_cons] at hlen
    omega
  show 2 * (ms.length - reader.messages.length) - reader.bodyPending <
    2 * (ms.length - c.reader.messages.length) - c.reader.bodyPending
  obtain ⟨phase, rest, frames⟩ := r
  cases phase with
  | header =>
      simp only [advance, Option.ite_none_right_eq_some, Option.some.injEq] at hadv
      obtain ⟨-, rfl⟩ := hadv
      obtain ⟨body, gs', hnext, -⟩ := split_body_position hsplit' hgs hpre
      have hlt := hcount hnext
      rw [hheader rfl, hbody' _ rfl, hlen, hlen']
      show 2 * (ms.length - frames.length) - 1 < 2 * (ms.length - frames.length) - 0
      omega
  | body hd =>
      simp only [advance, Option.ite_none_right_eq_some, Option.some.injEq] at hadv
      obtain ⟨-, rfl⟩ := hadv
      obtain ⟨body, gs', hnext, -⟩ := split_body_position hsplit hgs hpre
      have hlt := hcount hnext
      rw [hheader' rfl, hbody _ rfl, hlen, hlen', List.length_append, List.length_singleton]
      show 2 * (ms.length - (frames.length + 1)) - 0 < 2 * (ms.length - frames.length) - 1
      omega

/-! ## Runs -/

/-- **Progress.** Whatever an open connection does by itself takes one off its work. -/
theorem Carrying.progress (h : c.Carrying ms) (hopen : c.Open) (he : e.isProgress = true)
    (hstep : c.step sender receiver e = some c') :
    c'.Carrying ms ∧ c'.Open ∧ c'.work ms.length < c.work ms.length := by
  cases e with
  | deliver m => cases he
  | transmit i n =>
      obtain ⟨hwork, hopen'⟩ := writeWork_transmit h hopen hstep
      obtain ⟨hc', hmessages, hpending⟩ := h.transmit hstep
      refine ⟨hc', hopen', ?_⟩
      unfold work readWork StreamReader.bodyPending
      rw [hmessages, hpending]
      omega
  | completeWrite i error =>
      cases error with
      | true => cases he
      | false =>
          obtain ⟨hwork, hopen'⟩ := writeWork_complete h hopen hstep
          obtain ⟨hc', hreader⟩ := h.completeWrite hstep
          refine ⟨hc', hopen', ?_⟩
          unfold work readWork
          rw [hreader]
          omega
  | completeRead e =>
      cases e with
      | error => cases he
      | success =>
          obtain ⟨hwork, hopen'⟩ := readWork_read h hopen hstep
          refine ⟨(h.completeRead hstep).1, hopen', ?_⟩
          obtain ⟨reader, -, rfl⟩ := Option.map_eq_some_iff.mp hstep
          exact Nat.add_lt_add_left hwork _

/-- A run of progress is as long as the work at most. -/
theorem Carrying.progress_run (h : c.Carrying ms) (hopen : c.Open)
    (hes : ∀ e ∈ es, e.isProgress = true) (hrun : exec (step sender receiver) c es = some c') :
    c'.Carrying ms ∧ c'.Open ∧ es.length + c'.work ms.length ≤ c.work ms.length := by
  have hguarded : Guarded (step sender receiver) (fun _ e => e.isProgress = true) c es :=
    guarded_of_mem fun e he _ => hes e he
  refine exec_history (P := fun es t => t.Carrying ms ∧ t.Open ∧
    es.length + t.work ms.length ≤ c.work ms.length) ⟨h, hopen, ?_⟩ ?_ hguarded hrun
  · exact Nat.le_of_eq (Nat.zero_add _)
  · rintro es t e t' - he ⟨ht, hopen, hle⟩ hstep
    obtain ⟨ht', hopen', hlt⟩ := ht.progress hopen he hstep
    refine ⟨ht', hopen', ?_⟩
    rw [List.length_append, List.length_singleton]
    omega

/-- A step in which nothing fails keeps a connection open. -/
theorem Carrying.open_step (h : c.Carrying ms) (hopen : c.Open) (he : e.isSound = true)
    (hstep : c.step sender receiver e = some c') : c'.Open := by
  have hprogress : e.isProgress = true → c'.Open := fun he => (h.progress hopen he hstep).2.1
  cases e with
  | deliver m =>
      obtain ⟨q, hq, rfl⟩ := Option.map_eq_some_iff.mp hstep
      refine ⟨fun _ => ?_, hopen.reading⟩
      show q.outstanding ≠ []
      rw [Side.deliver_eq] at hq
      rcases h.writer hopen with ⟨hwrites, -⟩ | ⟨front, rest, k, hwrites, -⟩
      · rw [hwrites] at hq
        cases hq
        exact List.cons_ne_nil _ _
      · rw [hwrites] at hq
        cases hq
        exact List.cons_ne_nil _ _
  | transmit i n => exact hprogress rfl
  | completeWrite i error =>
      cases error with
      | true => cases he
      | false => exact hprogress rfl
  | completeRead e =>
      cases e with
      | error => cases he
      | success => exact hprogress rfl

/-- A connection on which nothing has failed is open. -/
theorem open_run (hfits : ∀ m ∈ delivered es, m.contentLength.toNat ≤ maxMessageLength)
    (hsound : ∀ e ∈ es, e.isSound = true)
    (h : exec (step sender receiver) (start loop) es = some c) :
    c.Carrying (delivered es) ∧ c.Open := by
  have hguarded : Guarded (step sender receiver) (fun _ e => e.Sendable ∧ e.isSound = true)
      (start loop) es :=
    (guarded_sendable _ hfits).and (guarded_of_mem fun e he _ => hsound e he)
  refine exec_history (P := fun es c => c.Carrying (delivered es) ∧ c.Open)
    ⟨carrying_start loop, fun hne => absurd rfl hne, rfl⟩ ?_ hguarded h
  rintro es c e c' - ⟨hfit, hsound⟩ ⟨hc, hopen⟩ hstep
  rw [delivered_snoc]
  exact ⟨carrying_step hc hfit hstep, hc.open_step hopen hsound hstep⟩

/-- A queued message can be written on. -/
theorem writer_can (sender receiver : Side) {front : MessageData} {rest : List MessageData} {k : Nat}
    (hq : c.writes = ⟨front :: rest, [.full front]⟩) (ht : c.transmitted = [k])
    (hle : k ≤ (AsyncWrite.full front).bytes.length) :
    ∃ e, e.isProgress = true ∧ (c.step sender receiver e).isSome = true := by
  rcases Nat.lt_or_eq_of_le hle with hlt | rfl
  · refine ⟨.transmit 0 1, rfl, ?_⟩
    have hroom : 0 < 1 ∧ k + 1 ≤ (AsyncWrite.full front).bytes.length := ⟨Nat.one_pos, hlt⟩
    simp only [step, hq, ht, List.getElem?_cons_zero, Option.bind_eq_bind, Option.bind_some,
      if_pos hroom, Option.isSome_some]
  · obtain ⟨q', hhandle, -⟩ := handleWrite_full sender front rest
    refine ⟨.completeWrite 0 false, rfl, ?_⟩
    simp [step, hq, ht, hhandle]

/-- A read for which all bytes are there can complete. -/
theorem reader_can (sender receiver : Side) {r r' : Reader MessageHeader UInt8}
    (hreads : Reads c.reader r) (hadv : advance messageFormat r = some r') :
    (c.step sender receiver (.completeRead .success)).isSome = true := by
  have hstep : (c.reader.step receiver .success).isSome = true := by
    obtain ⟨phase, rest, frames⟩ := r
    cases phase with
    | header =>
        simp only [advance, Option.ite_none_right_eq_some] at hadv
        rw [(step_header receiver hreads hadv.1).choose_spec.1]
        rfl
    | body hd =>
        simp only [advance, Option.ite_none_right_eq_some] at hadv
        have hbody : ∃ s', c.reader.step receiver .success = some s' ∧ _ :=
          step_body hreads hadv.1
        rw [hbody.choose_spec.1]
        rfl
  rw [step, Option.isSome_map]
  exact hstep

/-- A reader that cannot go on, on a stream of complete frames, has received them all. -/
theorem received_all {r : Reader MessageHeader UInt8} {gs : List (Frame MessageHeader UInt8)}
    (hsplit : r.Split messageFormat Fits (wires messageFormat gs)) (hgs : ∀ g ∈ gs, Sendable g)
    (hstuck : advance messageFormat r = none) : r.rest = [] ∧ r.frames = gs := by
  obtain ⟨phase, rest, frames⟩ := r
  cases phase with
  | header =>
      obtain ⟨gs', rfl, -⟩ := split_header_position hsplit hgs (List.prefix_refl _)
      have hrest : wires messageFormat gs' = rest :=
        List.append_cancel_left ((wires_append messageFormat frames gs').symm.trans hsplit.2)
      cases gs' with
      | nil => exact ⟨hrest.symm, (List.append_nil _).symm⟩
      | cons g gs' =>
          -- a whole frame is left, so there is a header to read
          have hlen := messageFormat.encode_length g.1
          simp only [advance, ite_eq_right_iff, reduceCtorEq, imp_false, Nat.not_le] at hstuck
          rw [← hrest, wires_cons, wire, List.append_assoc, List.length_append] at hstuck
          omega
  | body hd =>
      obtain ⟨body, gs', rfl, -⟩ := split_body_position hsplit hgs (List.prefix_refl _)
      have hrest : body ++ wires messageFormat gs' = rest := by
        have hstream := (wires_append messageFormat frames ((hd, body) :: gs')).symm.trans hsplit.2.2
        have hcancel := List.append_cancel_left hstream
        rw [wires_cons, wire, List.append_assoc] at hcancel
        exact List.append_cancel_left hcancel
      have hlen : body.length = messageFormat.bodyLength hd :=
        (hgs (hd, body) (List.mem_append_right _ List.mem_cons_self)).1
      simp only [advance, ite_eq_right_iff, reduceCtorEq, imp_false, Nat.not_le] at hstuck
      rw [← hrest, List.length_append] at hstuck
      omega

/-- **Rest.** Where an open connection can do nothing by itself, everything has been received. -/
theorem Carrying.at_rest (h : c.Carrying ms) (hopen : c.Open)
    (hrest : ∀ e, e.isProgress = true → c.step sender receiver e = none) :
    c.writes.queue = [] ∧ c.reader.rest = [] ∧
      c.reader.messages.map MessageData.frame = ms.map MessageData.frame := by
  have hno : ∀ {e}, e.isProgress = true → (c.step sender receiver e).isSome = true → False := by
    intro e he hsome
    rw [hrest e he] at hsome
    cases hsome
  rcases h.writer hopen with ⟨hq, ht⟩ | ⟨front, rest, k, hq, ht, hle⟩
  · obtain ⟨done, part, hms, hwriting, hreceiving⟩ := h.carried
    rw [hq, ht] at hwriting
    rw [hq, List.append_nil] at hms
    subst hms
    cases hwriting
    rw [List.append_nil] at hreceiving
    cases hreceiving with
    | reading r hreads hsplit =>
        have hstuck : advance messageFormat r = none := by
          by_contra hne
          obtain ⟨r', hadv⟩ := Option.ne_none_iff_exists'.mp hne
          exact hno rfl (reader_can sender receiver hreads hadv)
        obtain ⟨hrest, hframes⟩ := received_all hsplit (sendable_frames h.fits) hstuck
        exact ⟨by rw [hq], hreads.rest.trans hrest, by rw [hreads.messages_frame, hframes]⟩
    | closed _ hpending _ _ =>
        have hsome := hopen.reading
        rw [hpending] at hsome
        cases hsome
  · obtain ⟨e, he, hsome⟩ := writer_can sender receiver hq ht hle
    exact (hno he hsome).elim

/-- A connection that writes nothing and cannot complete a read is at rest. -/
theorem rest_of_idle (hidle : c.writes.outstanding = [])
    (hread : (c.reader.step receiver .success).isNone = true) (he : e.isProgress = true) :
    c.step sender receiver e = none := by
  cases e with
  | deliver m => cases he
  | transmit i n =>
      rw [step, hidle]
      rfl
  | completeWrite i error =>
      rw [step, hidle]
      rfl
  | completeRead e =>
      cases e with
      | error => cases he
      | success =>
          rw [step, Option.isNone_iff_eq_none.mp hread]
          rfl

/-- **A connection drains.** As long as nothing has failed at either end, everything that has been delivered
    arrives: in whatever order pieces, completions and reads come, there is a bound on their number, and
    where none of them is possible any more, the messages received are exactly those delivered, with
    nothing left in the queue or on the stream. -/
theorem connection_drains (sender receiver : Side) (loop : ReadLoop) {es : List Event}
    {c : Connection} (hfits : ∀ m ∈ delivered es, m.contentLength.toNat ≤ maxMessageLength)
    (hsound : ∀ e ∈ es, e.isSound = true)
    (h : exec (step sender receiver) (start loop) es = some c) :
    ∃ bound, ∀ (fs : List Event) (c' : Connection), (∀ e ∈ fs, e.isProgress = true) →
      exec (step sender receiver) c fs = some c' →
      fs.length ≤ bound ∧
      ((∀ e, e.isProgress = true → c'.step sender receiver e = none) →
        List.Forall₂ SameMessage (delivered es) c'.reader.messages ∧
        c'.writes.queue = [] ∧ c'.reader.rest = []) := by
  obtain ⟨hc, hopen⟩ := open_run hfits hsound h
  refine ⟨c.work (delivered es).length, fun fs c' hfs hrun => ?_⟩
  obtain ⟨hc', hopen', hle⟩ := hc.progress_run hopen hfs hrun
  refine ⟨Nat.le_of_add_right_le hle, fun hrest => ?_⟩
  obtain ⟨hqueue, hstream, hframes⟩ := hc'.at_rest hopen' hrest
  exact ⟨forall₂_sameMessage hframes, hqueue, hstream⟩

/-- The rest of the second message arrives, too. -/
def theRest : List Event :=
  [.transmit 0 3, .completeRead .success, .completeWrite 0 false, .completeRead .success]

theorem theRest_run :
    (exec (step .server .client) (start idleLoop) (twoMessages ++ theRest)).isSome = true := by
  decide +kernel

/-- Both messages have arrived, and nothing is left to do. -/
theorem connection_drains_two :
    ∃ c, exec (step .server .client) (start idleLoop) (twoMessages ++ theRest) = some c ∧
      (∀ e, e.isProgress = true → c.step .server .client e = none) ∧
      List.Forall₂ SameMessage (delivered (twoMessages ++ theRest)) c.reader.messages ∧
      (delivered (twoMessages ++ theRest)).length = 2 ∧ c.writes.queue = [] ∧ c.reader.rest = [] := by
  obtain ⟨bound, h⟩ := connection_drains .server .client idleLoop
    (by decide) (by decide) (Option.some_get theRest_run).symm
  obtain ⟨-, hdrained⟩ := h [] _ (by decide) rfl
  have hnone : ∀ e, e.isProgress = true → step .server .client
      ((exec (step .server .client) (start idleLoop) (twoMessages ++ theRest)).get theRest_run) e = none :=
    fun e he => rest_of_idle (by decide +kernel) (by decide +kernel) he
  obtain ⟨hreceived, hqueue, hstream⟩ := hdrained hnone
  exact ⟨_, (Option.some_get theRest_run).symm, hnone, hreceived, rfl, hqueue, hstream⟩

end Connection

end Footscreen
