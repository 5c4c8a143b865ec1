import Footscreen.Network.Correctness.Lifecycle

/-!
# `Network.Correctness.ClientLifecycle` — what survives a connection

Two promises of `NetworkClient` over its whole lifetime, with the runs in which it keeps them:

* `never_stalls` — on a live connection a non-empty queue has its front element's write outstanding, as
  long as every successful `handleConnect` finds the queue empty or its front already being written
  (`StartsClean`);
* `connected_truthful` — `m_isConnected` implies an established connection on a live `io_service`, and
  `send` always posts to one, as long as no read or write fails while the flag is set, no exception ends
  a connection, and no `send` posts after it (`EndsCleanly`).
-/

namespace Footscreen

open Lib

namespace Lifecycle

variable {l : Lifecycle} {throws : Bool} {status : ConnectionStatus}

/-- What holds in every state: past `startAccept` the socket belongs to the `io_service`, neither is
    numbered ahead, and the outstanding writes are none or those of the rule. -/
structure Wired (l : Lifecycle) : Prop where
  running    : l.runPoint = .running → ∀ id, l.service = some id →
                 ∃ k, l.socket = some k ∧ k.service = id
  service_lt : ∀ id, l.service = some id → id < l.nextService
  socket_lt  : ∀ k, l.socket = some k → k.service < l.nextService
  single     : l.writes.outstanding = [] ∨ l.writes.Single

/-- While the connection is up, the queue keeps the rule. -/
def Flowing (l : Lifecycle) : Prop := l.isConnected = true → l.Live → l.writes.Single

/-- The flag is truthful; the other fields say why it stays so. -/
structure Truthful (l : Lifecycle) : Prop where
  live       : l.isConnected = true → l.Live
  posted     : l.nullPost = false
  reading    : l.isConnected = true → l.runPoint = .running → l.reading = true
  resolving  : l.runPoint = .resolving → l.isConnected = false
  connecting : l.connecting = true → l.isConnected = false

theorem not_live_of_service (h : l.service = none) : ¬ l.Live := by
  rintro ⟨k, _, hservice, _⟩
  rw [h] at hservice
  cases hservice

/-- A socket with another status is not live. -/
theorem not_live_report (h : status ≠ .established) : ¬ (l.report status).Live := by
  rintro ⟨k, hsocket, _, hstatus⟩
  obtain ⟨k', _, rfl⟩ := Option.map_eq_some_iff.mp hsocket
  exact h hstatus

theorem Wired.leave (h : l.Wired) : (l.leave throws).Wired := by
  refine ⟨?_, h.service_lt, h.socket_lt, h.single⟩
  intro hrun
  cases throws with
  | false => exact h.running hrun
  | true  => cases hrun

theorem Wired.report (h : l.Wired) (status : ConnectionStatus) : (l.report status).Wired := by
  refine ⟨?_, h.service_lt, ?_, h.single⟩
  · intro hrun id hid
    obtain ⟨k, hk, hservice⟩ := h.running hrun id hid
    exact ⟨{ k with status := status }, by rw [Lifecycle.report, hk]; rfl, hservice⟩
  · intro k hk
    obtain ⟨k', hk', rfl⟩ := Option.map_eq_some_iff.mp hk
    exact h.socket_lt k' hk'

/-- A new writing half that keeps the rule, or has nothing outstanding. -/
theorem Wired.withWrites (h : l.Wired) {writes : WriteQueue}
    (hw : writes.outstanding = [] ∨ writes.Single) : ({ l with writes := writes }).Wired :=
  ⟨h.running, h.service_lt, h.socket_lt, hw⟩

/-- The flags do not matter to it. -/
theorem Wired.withFlags (h : l.Wired) (connecting isConnected reading nullPost : Bool) :
    ({ l with connecting := connecting, isConnected := isConnected, reading := reading,
              nullPost := nullPost }).Wired :=
  ⟨h.running, h.service_lt, h.socket_lt, h.single⟩

theorem Truthful.leave (h : l.Truthful) : (l.leave throws).Truthful := by
  cases throws with
  | false => exact ⟨h.live, h.posted, h.reading, h.resolving, h.connecting⟩
  | true  => exact ⟨h.live, h.posted, fun _ h => (by cases h), fun h => (by cases h), h.connecting⟩

/-- While the flag is clear, only the posts matter. -/
theorem truthful_of_clear (hclear : l.isConnected = false) (hposted : l.nullPost = false) :
    l.Truthful := by
  have habsurd : l.isConnected ≠ true := by
    rw [hclear]
    decide
  exact ⟨fun h => absurd h habsurd, hposted, fun h => absurd h habsurd, fun _ => hclear,
    fun _ => hclear⟩

end Lifecycle

namespace NetworkClient

open Lifecycle

variable {c c' : NetworkClient} {e : Event} {l : Lifecycle}

/-! ## In every run -/

/-- A write that completes while the rule holds leaves nothing outstanding. -/
theorem outstanding_eraseIdx {q : WriteQueue} {i : Nat} (hq : q.outstanding = [] ∨ q.Single)
    (hi : i < q.outstanding.length) :
    q.outstanding.eraseIdx i = [] ∧ ∃ m rest, q.queue = m :: rest := by
  obtain ⟨queue, outstanding⟩ := q
  rcases hq with hq | hq
  · have hnil : outstanding = [] := hq
    subst hnil
    cases hi
  · have hout : outstanding = (queue.head?.map AsyncWrite.full).toList := hq
    subst hout
    cases queue with
    | nil => cases hi
    | cons m rest =>
        have hi0 : i = 0 := Nat.lt_one_iff.mp hi
        subst hi0
        exact ⟨rfl, m, rest, rfl⟩

theorem handleWrite_success {q q' : WriteQueue} {i : Nat} {signals : List Signal}
    (hq : q.outstanding = [] ∨ q.Single) (hi : i < q.outstanding.length)
    (h : Side.client.handleWrite { q with outstanding := q.outstanding.eraseIdx i } false =
      some (q', signals)) : q'.Single := by
  obtain ⟨hout, m, rest, hqueue⟩ := outstanding_eraseIdx hq hi
  obtain ⟨q₁, hhandle, _, hsingle⟩ :=
    handleWrite_single .client
      (q := { q with outstanding := q.outstanding.eraseIdx i }) hqueue hout
  rw [hhandle] at h
  cases h
  exact hsingle

/-- `deliver` keeps what holds of the writes in every state, connected or not. -/
theorem deliver_writes {q q' : WriteQueue} {isConnected : Bool} {m : MessageData}
    (hq : q.outstanding = [] ∨ q.Single) (h : deliver isConnected q m = some q') :
    q'.outstanding = [] ∨ q'.Single := by
  obtain ⟨queue, outstanding⟩ := q
  cases queue with
  | nil =>
      have hout : outstanding = [] := hq.elim id id
      subst hout
      cases isConnected with
      | true =>
          cases h
          exact Or.inr rfl
      | false =>
          cases h
          exact Or.inl rfl
  | cons front rest =>
      rw [deliver, if_pos (by simp)] at h
      cases h
      exact hq

theorem wired_effect (hw : c.lifecycle.Wired) (h : Effect c e l) : l.Wired := by
  cases h with
  | quiet => exact hw
  | load =>
      refine ⟨fun h => (by cases h), ?_, ?_, Or.inl rfl⟩
      · intro id hid
        cases hid
        exact Nat.lt_succ_self _
      · intro k hk
        exact Nat.lt_succ_of_lt (hw.socket_lt k hk)
  | unresolved => exact ⟨fun h => (by cases h), hw.service_lt, hw.socket_lt, hw.single⟩
  | startAccept id hid =>
      refine ⟨fun _ id' hid' => ⟨_, rfl, ?_⟩, hw.service_lt, ?_, hw.single⟩
      · exact Option.some.inj (hid.symm.trans hid')
      · intro k hk
        cases hk
        exact hw.service_lt id hid
  | refuse throws =>
      exact ((hw.report .failed).withFlags _ _ _ _).leave
  | establish throws =>
      exact ((hw.report .established).withFlags _ _ _ _).leave
  | read w throws => exact (hw.withFlags _ _ _ _).leave
  | failRead throws =>
      exact ((hw.report .failed).withFlags _ _ _ _).leave
  | write i throws writes signals hi hwrites =>
      exact (hw.withWrites (Or.inr (handleWrite_success hw.single hi hwrites))).leave
  | failWrite i throws =>
      refine ((hw.report .failed).withWrites ?_).leave
      cases Nat.lt_or_ge i c.writes.outstanding.length with
      | inl hi => exact Or.inl (outstanding_eraseIdx hw.single hi).1
      | inr hi =>
          rw [List.eraseIdx_of_length_le hi]
          exact hw.single
  | deliver i m writes hdeliver => exact hw.withWrites (deliver_writes hw.single hdeliver)
  | unload i failed throws =>
      exact Wired.leave ⟨fun _ _ h => (by cases h), fun _ h => (by cases h), fun _ h => (by cases h),
        Or.inl rfl⟩
  | «return» =>
      exact ⟨fun h => (by cases h), fun _ h => (by cases h), hw.socket_lt, Or.inl rfl⟩
  | nullPost i => exact hw.withFlags _ _ _ _

theorem wired_new (reads : ReadLoop) : (new reads).lifecycle.Wired :=
  ⟨fun h => (by cases h), fun _ h => (by cases h), fun _ h => (by cases h), Or.inl rfl⟩

/-! ## The queue -/

/-- A successful `handleConnect` finds the queue empty, or its front already being written. -/
def StartsClean (c : NetworkClient) : Event → Prop
  | .connect false _ =>
      ∀ front rest, c.writes.queue = front :: rest →
        AsyncWrite.full front ∈ c.writes.outstanding
  | _ => True

/-- What is outstanding in any state, with the front's write among it, is the rule. -/
theorem single_of_front {q : WriteQueue} (hq : q.outstanding = [] ∨ q.Single)
    (hfront : ∀ front rest, q.queue = front :: rest → AsyncWrite.full front ∈ q.outstanding) :
    q.Single := by
  rcases hq with hq | hq
  · obtain ⟨queue, outstanding⟩ := q
    have hnil : outstanding = [] := hq
    subst hnil
    cases queue with
    | nil             => rfl
    | cons front rest => exact absurd (hfront front rest rfl) (by simp)
  · exact hq

theorem flowing_effect (hw : c.lifecycle.Wired) (hf : c.lifecycle.Flowing) (hok : c.StartsClean e)
    (h : Effect c e l) : l.Flowing := by
  cases h with
  | quiet => exact hf
  | load =>
      -- the old socket belongs to an earlier `io_service`
      rintro _ ⟨k, hsocket, hservice, _⟩
      have hlt : k.service < c.nextService := hw.socket_lt k hsocket
      have hid : c.nextService = k.service := Option.some.inj hservice
      rw [hid] at hlt
      exact absurd hlt (Nat.lt_irrefl _)
  | unresolved => exact hf
  | startAccept id =>
      rintro _ ⟨k, hsocket, _, hstatus⟩
      cases hsocket
      cases hstatus
  | refuse throws => exact fun _ hlive => absurd hlive (not_live_report (by decide))
  | establish throws => exact fun _ _ => single_of_front hw.single hok
  | read w throws => exact hf
  | failRead throws => exact fun _ hlive => absurd hlive (not_live_report (by decide))
  | write i throws writes signals hi hwrites =>
      exact fun _ _ => handleWrite_success hw.single hi hwrites
  | failWrite i throws => exact fun _ hlive => absurd hlive (not_live_report (by decide))
  | deliver i m writes hdeliver =>
      intro hconnected hlive
      have hconnected' : c.isConnected = true := hconnected
      obtain ⟨writes', hwrites, _, hsingle⟩ :=
        deliver_single .client m (hf hconnected hlive)
      rw [hconnected'] at hdeliver
      have heq : writes' = writes := Option.some.inj (hwrites.symm.trans hdeliver)
      exact heq ▸ hsingle
  | unload i failed throws => exact fun _ hlive => absurd hlive (not_live_of_service rfl)
  | «return» => exact fun _ hlive => absurd hlive (not_live_of_service rfl)
  | nullPost i => exact hf

/-- The queue keeps the rule on every live connection of a run that starts its connections clean. -/
theorem flowing_run {reads : ReadLoop} {es : List Event}
    (hclean : Guarded step StartsClean (new reads) es)
    (h : exec step (new reads) es = some c) : c.lifecycle.Wired ∧ c.lifecycle.Flowing := by
  refine exec_guarded (I := fun c => c.lifecycle.Wired ∧ c.lifecycle.Flowing) ?_ ?_ hclean h
  · rintro c e c' hok ⟨hw, hf⟩ hstep
    have heffect := step_effect hstep
    exact ⟨wired_effect hw heffect, flowing_effect hw hf hok heffect⟩
  · exact ⟨wired_new reads, fun hconnected => (by cases hconnected)⟩

/-- **The queue does not stall** in a run whose every successful `handleConnect` finds the queue empty,
    or its front already being written: in each state with `m_isConnected` set and a live connection, a
    non-empty queue has its front's write outstanding, and no other. -/
theorem never_stalls {reads : ReadLoop} {es : List Event}
    (hclean : Guarded step StartsClean (new reads) es)
    (h : exec step (new reads) es = some c) (hconnected : c.isConnected = true) (hlive : c.Live) :
    ∀ front rest, c.writes.queue = front :: rest →
      c.writes.outstanding = [AsyncWrite.full front] := by
  intro front rest hqueue
  have hsingle : c.writes.Single := (flowing_run hclean h).2 hconnected (live_iff.mpr hlive)
  rw [WriteQueue.Single, hqueue] at hsingle
  exact hsingle

/-- A read loop over zeroed buffers, and a message of one byte. -/
def zeroLoop : ReadLoop := ⟨.zero, ⟨⟨0, 0, 0, 0⟩, .zero, none⟩, none⟩

def oneByte : MessageData := ⟨⟨messageIDFirst, messageNewPlayerID, 0, 1⟩, .zero, none⟩

theorem never_stalls_oneByte :
    ∃ c, exec step (new zeroLoop)
        [.connectToServer "localhost", .load, .resolve true, .connect false false, .send oneByte,
         .post 0, .runPosted 0 false] = some c ∧
      c.writes.outstanding = [AsyncWrite.full oneByte] := by
  have hclean : Guarded step StartsClean (new zeroLoop)
      [.connectToServer "localhost", .load, .resolve true, .connect false false, .send oneByte,
       .post 0, .runPosted 0 false] := by
    iterate 3 refine guarded_cons_of trivial rfl ?_
    apply guarded_cons_of (fun _ _ h => (by cases h)) rfl
    iterate 3 refine guarded_cons_of trivial rfl ?_
    trivial
  exact ⟨_, rfl, never_stalls hclean rfl rfl ⟨_, _, rfl, rfl, rfl, rfl⟩ _ _ rfl⟩

/-- A write fails, the client disconnects and connects again: the message is still in the queue, and no
    write is outstanding on the new connection. -/
theorem stalls_after_failed_write :
    ∃ c, exec step (new zeroLoop)
        [.connectToServer "localhost", .load, .resolve true, .connect false false, .send oneByte,
         .post 0, .runPosted 0 false, .write 0 true false, .stop false, .runPosted 0 false, .runReturns,
         .connectToServer "localhost", .load, .resolve true, .connect false false] = some c ∧
      c.isConnected = true ∧ c.Live ∧ c.writes.queue = [oneByte] ∧ c.writes.outstanding = [] :=
  ⟨_, rfl, rfl, ⟨_, _, rfl, rfl, rfl, rfl⟩, rfl, rfl⟩

/-! ## The flag -/

/-- The connection does not end with the flag set: no read or write fails, no `unload` is left by an
    exception and no new `io_service` is loaded; and when `send` posts, the flag is still set, or there is
    an `io_service` again. -/
def EndsCleanly (c : NetworkClient) : Event → Prop
  | .load | .read none _ | .write _ true _ => c.isConnected = false
  | .runPosted i true =>
      ∀ io failed, c.ioService = some io → io.posted[i]? = some (.unload failed) →
        c.isConnected = false
  | .post _ => c.isConnected = true ∨ c.ioService.isSome = true
  | _       => True

theorem truthful_effect (hw : c.lifecycle.Wired) (ht : c.lifecycle.Truthful) (hok : c.EndsCleanly e)
    (h : Effect c e l) : l.Truthful := by
  cases h with
  | quiet => exact ht
  | load => exact truthful_of_clear hok ht.posted
  | unresolved hresolving => exact truthful_of_clear (ht.resolving hresolving) ht.posted
  | startAccept id _ hresolving => exact truthful_of_clear (ht.resolving hresolving) ht.posted
  | refuse throws hconnecting => exact truthful_of_clear (ht.connecting hconnecting) ht.posted
  | establish throws id hservice hrunning =>
      -- the socket that has connected is the one of this `io_service`
      obtain ⟨k, hsocket, hid⟩ := hw.running hrunning id hservice
      apply Truthful.leave
      refine ⟨fun _ => ⟨{ k with status := .established }, ?_, ?_, rfl⟩, ht.posted,
        fun _ _ => rfl, ?_, fun h => (by cases h)⟩
      · rw [Lifecycle.report, hsocket]
        rfl
      · exact hid ▸ hservice
      · intro h
        cases hrunning.symm.trans h
  | read w throws =>
      cases throws with
      | false => exact ⟨ht.live, ht.posted, fun _ _ => rfl, ht.resolving, ht.connecting⟩
      | true  =>
          exact ⟨ht.live, ht.posted, fun _ h => (by cases h), fun h => (by cases h), ht.connecting⟩
  | failRead throws => exact truthful_of_clear hok ht.posted
  | write i throws writes signals =>
      apply Truthful.leave
      exact ⟨ht.live, ht.posted, ht.reading, ht.resolving, ht.connecting⟩
  | failWrite i throws => exact truthful_of_clear hok ht.posted
  | deliver i m writes => exact ⟨ht.live, ht.posted, ht.reading, ht.resolving, ht.connecting⟩
  | unload i failed throws io hio hposted =>
      refine truthful_of_clear ?_ ht.posted
      cases throws with
      | false => rfl
      | true  => exact hok io failed hio hposted
  | «return» hrunning hwork =>
      refine truthful_of_clear ?_ ht.posted
      -- a set flag means a pending read, so the service is not out of work
      cases hconnected : c.isConnected with
      | false => exact hconnected
      | true =>
          obtain ⟨io, _, hio, _⟩ := live_iff.mp (ht.live hconnected)
          have hreading : c.reads.pending.isSome = true := ht.reading hconnected hrunning
          rw [hio, Option.all_some, outOfWork, ← Option.not_isSome, hreading] at hwork
          simp at hwork
  | nullPost i hnone =>
      have hok : c.isConnected = true ∨ c.ioService.isSome = true := hok
      rw [hnone] at hok
      rcases hok with hconnected | hsome
      · obtain ⟨io, _, hio, _⟩ := live_iff.mp (ht.live hconnected)
        rw [hnone] at hio
        cases hio
      · cases hsome

theorem truthful_run {reads : ReadLoop} {es : List Event}
    (hclean : Guarded step EndsCleanly (new reads) es)
    (h : exec step (new reads) es = some c) : c.lifecycle.Wired ∧ c.lifecycle.Truthful := by
  refine exec_guarded (I := fun c => c.lifecycle.Wired ∧ c.lifecycle.Truthful) ?_ ?_ hclean h
  · rintro c e c' hok ⟨hw, ht⟩ hstep
    have heffect := step_effect hstep
    exact ⟨wired_effect hw heffect, truthful_effect hw ht hok heffect⟩
  · exact ⟨wired_new reads, truthful_of_clear rfl rfl⟩

/-- **The flag is truthful** in a run whose connections end cleanly: while `m_isConnected` is set there
    is an `io_service`, with a socket of its own whose connection has been established and has not
    failed; and no `send` has posted through an empty `m_ioService`. -/
theorem connected_truthful {reads : ReadLoop} {es : List Event}
    (hclean : Guarded step EndsCleanly (new reads) es)
    (h : exec step (new reads) es = some c) :
    (c.isConnected = true → c.Live) ∧ c.nullPost = false := by
  have htruthful := (truthful_run hclean h).2
  exact ⟨fun hconnected => live_iff.mp (htruthful.live hconnected), htruthful.posted⟩

theorem connected_truthful_oneByte :
    ∃ c, exec step (new zeroLoop)
        [.connectToServer "localhost", .load, .resolve true, .connect false false, .send oneByte,
         .post 0] = some c ∧
      c.Live ∧ c.nullPost = false := by
  have hclean : Guarded step EndsCleanly (new zeroLoop)
      [.connectToServer "localhost", .load, .resolve true, .connect false false, .send oneByte,
       .post 0] := by
    refine guarded_cons_of trivial rfl (guarded_cons_of rfl rfl ?_)
    iterate 3 refine guarded_cons_of trivial rfl ?_
    exact guarded_cons_of (Or.inl rfl) rfl trivial
  obtain ⟨c, hrun, hconnected⟩ : ∃ c, exec step (new zeroLoop)
      [.connectToServer "localhost", .load, .resolve true, .connect false false, .send oneByte,
       .post 0] = some c ∧ c.isConnected = true := ⟨_, rfl, rfl⟩
  obtain ⟨hlive, hposted⟩ := connected_truthful hclean hrun
  exact ⟨c, hrun, hlive hconnected, hposted⟩

/-- A header read fails and the service runs out of work: the flag outlives the `io_service`, and a
    waiting `send` posts through the empty pointer. -/
theorem flag_survives_failed_read :
    ∃ c, exec step (new zeroLoop)
        [.connectToServer "localhost", .load, .resolve true, .connect false false, .read none false,
         .runReturns, .send oneByte, .post 0] = some c ∧
      c.isConnected = true ∧ c.ioService = none ∧ c.nullPost = true :=
  ⟨_, rfl, rfl, rfl, rfl⟩

end NetworkClient

end Footscreen
