import Footscreen.Game.Correctness.Addressees
import Footscreen.Lib.Run

/-!
# `Game.Correctness.Closing` — what happens to a session that has been reported as closed

A failed read, a failed write and a message without a type each report a session as closed, and nothing
else happens then: the session keeps its profile, its writes and, unless it was a read that failed, its
read loop. `closed_for_good_iff`: a closed session stays closed exactly as long as nothing disturbs it,
that is no read of it fails or completes a message, no write of it fails, and no broadcast comes to it.
-/

namespace Footscreen

open Lib

/-! ## Closed -/

/-- The action reports the session as closed. -/
def Action.Closes (session : SessionID) : Action → Prop
  | .onSessionClosed session' => session' = session
  | _                         => False

/-- The action is one that a closed session must be spared. -/
def Action.Concerns (session : SessionID) : Action → Prop
  | .onSessionAccepted _ => False
  | a                    => a.session = session

instance (session : SessionID) (a : Action) : Decidable (a.Closes session) := by
  cases a <;> unfold Action.Closes <;> infer_instance

instance (session : SessionID) (a : Action) : Decidable (a.Concerns session) := by
  cases a <;> unfold Action.Concerns <;> infer_instance

theorem Action.Concerns.session {session : SessionID} {a : Action} (h : a.Concerns session) :
    a.session = session := by
  cases a with
  | onSessionAccepted _   => exact h.elim
  | onSessionClosed _     => exact h
  | handleMessage _ _ _   => exact h
  | deliver _ _           => exact h

/-- After the report nothing concerns the session any more. -/
def ClosedForGood (session : SessionID) (log : List Action) : Prop :=
  log.Pairwise fun a b => a.Closes session → ¬ b.Concerns session

instance (session : SessionID) (log : List Action) : Decidable (ClosedForGood session log) :=
  inferInstanceAs (Decidable (List.Pairwise _ _))

namespace GameNetworkServer

/-- The session has been reported as closed. -/
def Closed (session : SessionID) (s : GameNetworkServer) : Prop := ∃ a ∈ s.log, a.Closes session

/-- What makes the code act on the session, closed or not. -/
def Disturbs (session : SessionID) (s : GameNetworkServer) : Event → Prop
  | .completeRead session' none => session' = session
  | .completeRead session' (some _) =>
      session' = session ∧ ∃ loop ∈ s.reading session, ∃ read ∈ loop.pending, read.handler = .body
  | .completeWrite session' _ error => session' = session ∧ error = true
  | .sendNext =>
      ∃ b ∈ s.broadcast, ∃ p ∈ s.playerProfiles[b.2]?, p.session = session
  | .handleSessionAccepted .. | .beginSend .. => False

/-- A step that does not disturb the session if it is closed. -/
def Spares (session : SessionID) (s : GameNetworkServer) (e : Event) : Prop :=
  Closed session s → ¬ Disturbs session s e

instance (session : SessionID) (s : GameNetworkServer) : Decidable (Closed session s) :=
  inferInstanceAs (Decidable (∃ a ∈ s.log, _))

instance (session : SessionID) (s : GameNetworkServer) (e : Event) :
    Decidable (Disturbs session s e) := by
  unfold Disturbs
  split <;> infer_instance

instance (session : SessionID) (s : GameNetworkServer) (e : Event) :
    Decidable (Spares session s e) :=
  inferInstanceAs (Decidable (_ → _))

/-! ## What a step does -/

variable {s s' : GameNetworkServer} {e : Event} {session : SessionID} {m : MessageData}

/-- What a step appends to the log. -/
inductive StepLog (s : GameNetworkServer) : Event → List Action → Prop where
  | accepted {session : SessionID} {loop : ReadLoop} {messages : List MessageData}
      (hnew : ∀ a ∈ s.log, a.session ≠ session) :
      StepLog s (.handleSessionAccepted session loop messages)
        (.onSessionAccepted session :: messages.map (.deliver session))
  | readFailed {session : SessionID} :
      StepLog s (.completeRead session none) [.onSessionClosed session]
  | readHeader {session : SessionID} {bytes : List UInt8} {loop : ReadLoop} {read : AsyncRead}
      (hloop : s.reading session = some loop) (hread : loop.pending = some read)
      (hheader : read.handler = .header) : StepLog s (.completeRead session (some bytes)) []
  /-- A message is dispatched, or reported for having no type. -/
  | readBody {session : SessionID} {bytes : List UInt8} {loop : ReadLoop} {read : AsyncRead}
      {a : Action} (hloop : s.reading session = some loop) (hread : loop.pending = some read)
      (hbody : read.handler = .body) (ha : a.Concerns session) :
      StepLog s (.completeRead session (some bytes)) [a]
  | written {session : SessionID} {i : Nat} : StepLog s (.completeWrite session i false) []
  | writeFailed {session : SessionID} {i : Nat} :
      StepLog s (.completeWrite session i true) [.onSessionClosed session]
  | begun {m : MessageData} {receiverID : PlayerID} : StepLog s (.beginSend m receiverID) []
  | passed {m : MessageData} {j : Nat} (hb : s.broadcast = some (m, j))
      (hp : s.playerProfiles[j]? = none) : StepLog s .sendNext []
  | sent {m : MessageData} {j : Nat} {p : PlayerProfile} (hb : s.broadcast = some (m, j))
      (hp : s.playerProfiles[j]? = some p) : StepLog s .sendNext [.deliver p.session m]

theorem handleMessageReceived_log (s : GameNetworkServer) (session : SessionID) (m : MessageData) :
    ∃ a : Action, a.Concerns session ∧ (s.handleMessageReceived session m).log = s.log ++ [a] := by
  unfold handleMessageReceived
  split
  · exact ⟨.onSessionClosed session, rfl, rfl⟩
  · dsimp only
    split
    · exact ⟨.handleMessage session _ idNewClient, rfl, rfl⟩
    · next p _ => exact ⟨.handleMessage session _ p.playerID, rfl, rfl⟩

theorem handleSessionAccepted_log {loop : ReadLoop} {messages : List MessageData}
    (h : s.handleSessionAccepted session loop messages = some s') :
    (∀ a ∈ s.log, a.session ≠ session) ∧
      s'.log = s.log ++ .onSessionAccepted session :: messages.map (.deliver session) := by
  unfold handleSessionAccepted at h
  split at h
  · cases h
  · next hnew =>
      obtain ⟨loop', _, h⟩ := Option.bind_eq_some_iff.mp h
      refine ⟨?_, ?_⟩
      · intro a ha heq
        apply hnew
        rw [List.any_eq_true]
        exact ⟨a, ha, by simp [heq]⟩
      · obtain ⟨t, ht, hqueued⟩ := queued_foldlM (fun m => (session, m)) messages
          ({ s with
            reading := Function.update s.reading session (some loop')
            playerProfiles := s.playerProfiles ++ [PlayerProfile.mk s.nextPlayerID session]
            nextPlayerID := s.nextPlayerID + 1 }.act (.onSessionAccepted session))
        obtain rfl : t = s' := Option.some.inj (ht.symm.trans h)
        rw [hqueued.log, List.map_map]
        exact List.append_assoc _ _ _

theorem completeRead_log {bytes : Option (List UInt8)} (h : s.completeRead session bytes = some s') :
    ∃ as, StepLog s (.completeRead session bytes) as ∧ s'.log = s.log ++ as := by
  unfold completeRead at h
  obtain ⟨loop, hloop, h⟩ := Option.bind_eq_some_iff.mp h
  obtain ⟨read, hread, h⟩ := Option.bind_eq_some_iff.mp h
  split at h
  · obtain ⟨⟨loop', signals⟩, hcomplete, h⟩ := Option.bind_eq_some_iff.mp h
    cases h
    cases bytes with
    | none =>
        -- either handler reports the failure
        refine ⟨_, .readFailed, ?_⟩
        have hsignals : signals = [.onClosed] := by
          unfold Side.completeRead at hcomplete
          cases hh : read.handler with
          | header =>
              rw [hh] at hcomplete
              exact ((Prod.mk.inj (Option.some.inj hcomplete)).2).symm
          | body =>
              rw [hh] at hcomplete
              exact ((Prod.mk.inj (Option.some.inj hcomplete)).2).symm
        rw [hsignals]
        rfl
    | some bytes =>
        obtain ⟨buffer, _, hcomplete⟩ := Option.bind_eq_some_iff.mp hcomplete
        cases hh : read.handler with
        | header =>
            rw [hh] at hcomplete
            obtain ⟨loop'', _, hcomplete⟩ := Option.bind_eq_some_iff.mp hcomplete
            cases hcomplete
            exact ⟨_, .readHeader hloop hread hh, (List.append_nil _).symm⟩
        | body =>
            rw [hh] at hcomplete
            obtain ⟨message, _, hcomplete⟩ := Option.bind_eq_some_iff.mp hcomplete
            obtain ⟨loop'', _, hcomplete⟩ := Option.bind_eq_some_iff.mp hcomplete
            cases hcomplete
            obtain ⟨a, ha, hlog⟩ := handleMessageReceived_log
              { s with reading := Function.update s.reading session (some loop') } session message
            exact ⟨[a], .readBody hloop hread hh ha, hlog⟩
  · cases h

theorem completeWrite_log {i : Nat} {error : Bool} (h : s.completeWrite session i error = some s') :
    ∃ as, StepLog s (.completeWrite session i error) as ∧ s'.log = s.log ++ as := by
  unfold completeWrite at h
  obtain ⟨w, _, h⟩ := Option.bind_eq_some_iff.mp h
  obtain ⟨⟨q, signals⟩, hwrite, h⟩ := Option.bind_eq_some_iff.mp h
  cases h
  cases error with
  | true =>
      cases hwrite
      exact ⟨_, .writeFailed, rfl⟩
  | false =>
      refine ⟨_, .written, ?_⟩
      have hsignals : signals = [] := by
        unfold NetworkServerSession.handleWrite WriteQueue.handleWrite at hwrite
        dsimp only at hwrite
        split at hwrite
        · cases ‹false = true›
        · split at hwrite
          · cases hwrite
          · split at hwrite
            · exact ((Prod.mk.inj (Option.some.inj hwrite)).2).symm
            · obtain ⟨q', _, hq⟩ := Option.map_eq_some_iff.mp hwrite
              exact ((Prod.mk.inj hq).2).symm
      rw [hsignals]
      exact (List.append_nil _).symm

theorem beginSend_log {receiverID : PlayerID} (h : s.beginSend m receiverID = some s') :
    s'.log = s.log := by
  unfold beginSend sendTests at h
  repeat' split at h
  all_goals
    cases h
    try rfl

theorem sendNext_log (h : s.sendNext = some s') :
    ∃ as, StepLog s .sendNext as ∧ s'.log = s.log ++ as := by
  unfold sendNext at h
  cases hb : s.broadcast with
  | none =>
      rw [hb] at h
      cases h
  | some b =>
      obtain ⟨m, j⟩ := b
      rw [hb] at h
      dsimp only at h
      cases hp : s.playerProfiles[j]? with
      | none =>
          rw [hp] at h
          cases h
          exact ⟨[], .passed hb hp, (List.append_nil _).symm⟩
      | some p =>
          rw [hp] at h
          obtain ⟨t, ht, hqueued⟩ := queued_sendTo s p.session m
          dsimp only at h
          rw [ht] at h
          cases h
          exact ⟨_, .sent hb hp, hqueued.log⟩

/-- **One step.** -/
theorem step_log (h : s.step e = some s') : ∃ as, StepLog s e as ∧ s'.log = s.log ++ as := by
  cases e with
  | handleSessionAccepted session loop messages =>
      obtain ⟨hnew, hlog⟩ := handleSessionAccepted_log h
      exact ⟨_, .accepted hnew, hlog⟩
  | completeRead session bytes       => exact completeRead_log h
  | completeWrite session i error    => exact completeWrite_log h
  | beginSend m receiverID =>
      rw [step] at h
      split at h
      · refine ⟨[], .begun, ?_⟩
        rw [beginSend_log h, List.append_nil]
      · cases h
  | sendNext => exact sendNext_log h

/-! ## Uninterrupted -/

/-- The cursor of a broadcast is not looked at while it sends. -/
theorem sendAll_broadcast (b : Option (MessageData × Nat)) (ps : List PlayerProfile)
    (s : GameNetworkServer) :
    { s with broadcast := b }.sendAll m ps =
      (s.sendAll m ps).map fun s => { s with broadcast := b } := by
  induction ps generalizing s with
  | nil => rfl
  | cons p ps ih =>
      obtain ⟨q, hq, _⟩ := deliver_queue (s.writes p.session) m
      have hsend : ∀ s' : GameNetworkServer, s'.writes = s.writes → s'.sendTo p.session m =
          some ({ s' with writes := Function.update s'.writes p.session q }.act
            (.deliver p.session m)) := by
        intro s' hs'
        unfold sendTo
        rw [hs', hq]
        rfl
      unfold sendAll at ih ⊢
      have hs := hsend s rfl
      have hs' := hsend { s with broadcast := b } rfl
      rw [List.foldlM_cons, List.foldlM_cons, hs, hs']
      exact ih ({ s with writes := Function.update s.writes p.session q }.act (.deliver p.session m))

/-- The message goes to the remaining profiles. -/
theorem sendNext_sendAll {j : Nat} {ps : List PlayerProfile} (hps : s.playerProfiles.drop j = ps)
    (hb : s.broadcast = some (m, j)) :
    ∃ k, exec step s (List.replicate k .sendNext) =
      (s.sendAll m ps).map fun s => { s with broadcast := none } := by
  induction ps generalizing s j with
  | nil =>
      refine ⟨1, ?_⟩
      have hstep : s.step .sendNext = some { s with broadcast := none } := by
        show s.sendNext = _
        unfold sendNext
        rw [hb]
        dsimp only
        rw [getElem?_of_drop_nil hps]
      rw [List.replicate_one, exec_cons, hstep]
      rfl
  | cons p ps ih =>
      obtain ⟨hp, hdrop⟩ := getElem?_of_drop hps
      obtain ⟨t, ht, hqueued⟩ := queued_sendTo s p.session m
      have hstep : s.step .sendNext = some { t with broadcast := some (m, j + 1) } := by
        show s.sendNext = _
        unfold sendNext
        rw [hb]
        dsimp only
        rw [hp]
        dsimp only
        rw [ht]
        rfl
      have hrest : t.playerProfiles.drop (j + 1) = ps := by
        rw [hqueued.playerProfiles]
        exact hdrop
      obtain ⟨k, hk⟩ := ih (s := { t with broadcast := some (m, j + 1) }) hrest rfl
      have hcons : s.sendAll m (p :: ps) = t.sendAll m ps := by
        unfold sendAll
        rw [List.foldlM_cons, ht]
        rfl
      refine ⟨k + 1, ?_⟩
      rw [List.replicate_succ, exec_cons, hstep, Option.bind_some, hk, hcons, sendAll_broadcast,
        Option.map_map]
      rfl

/-- **`send`**, when nothing interrupts it. -/
theorem send_uninterrupted (m : MessageData) (receiverID : PlayerID) (hidle : s.broadcast = none)
    (h : s.send m receiverID = some s') :
    ∃ k, exec step s (.beginSend m receiverID :: List.replicate k .sendNext) = some s' := by
  have hstep : s.step (.beginSend m receiverID) = s.beginSend m receiverID := by
    rw [step, hidle]
    rfl
  unfold send at h
  unfold beginSend at hstep
  rcases s.sendTests_cases m receiverID with ⟨_, htests⟩ | ⟨_, htests⟩ | ⟨_, htests⟩
  · rw [htests] at h hstep
    cases h
    exact ⟨0, by rw [List.replicate_zero, exec_cons, hstep]; rfl⟩
  · rw [htests] at h hstep
    obtain ⟨k, hk⟩ := sendNext_sendAll (s := { s with broadcast := some (m, 0) })
      List.drop_zero rfl
    refine ⟨k, ?_⟩
    rw [exec_cons, hstep, Option.bind_some, hk, sendAll_broadcast, Option.map_map, h]
    have hqueued := queued_foldlM (fun p => (p.session, m)) s.playerProfiles s
    obtain ⟨t, ht, hqueued⟩ := hqueued
    obtain rfl : t = s' := Option.some.inj (ht.symm.trans h)
    have hnone : t.broadcast = none := hqueued.broadcast.trans hidle
    rw [Option.map_some, ← hnone]
    rfl
  · rw [htests] at h
    cases h

/-! ## Disturbances -/

/-- A step never concerns a session after closing it. -/
theorem StepLog.closedForGood {as : List Action} (h : StepLog s e as) : ClosedForGood session as := by
  have hsingle : ∀ a : Action, ClosedForGood session [a] := fun a => List.pairwise_singleton _ a
  cases h with
  | @accepted session' _ messages hnew =>
      apply List.pairwise_of_forall_mem_list
      intro a ha b _ hcloses
      -- neither an acceptance nor a delivery is a report
      rcases List.mem_cons.mp ha with rfl | ha
      · exact hcloses.elim
      · obtain ⟨m, _, rfl⟩ := List.mem_map.mp ha
        exact hcloses.elim
  | readFailed                 => exact hsingle _
  | readHeader _ _ _           => exact List.Pairwise.nil
  | readBody _ _ _ _           => exact hsingle _
  | written                    => exact List.Pairwise.nil
  | writeFailed                => exact hsingle _
  | begun                      => exact List.Pairwise.nil
  | passed _ _                 => exact List.Pairwise.nil
  | sent _ _                   => exact hsingle _

/-- What disturbs a closed session is exactly what makes the code act on it. -/
theorem StepLog.concerns_iff {as : List Action} (h : StepLog s e as) (hclosed : Closed session s) :
    (∃ a ∈ as, a.Concerns session) ↔ Disturbs session s e := by
  cases h with
  | @accepted session' loop messages hnew =>
      have hother : session' ≠ session := by
        obtain ⟨a, ha, hcloses⟩ := hclosed
        cases a with
        | onSessionClosed session'' =>
            rw [← show session'' = session from hcloses]
            exact Ne.symm (hnew _ ha)
        | onSessionAccepted _ => exact hcloses.elim
        | handleMessage _ _ _ => exact hcloses.elim
        | deliver _ _         => exact hcloses.elim
      constructor
      · rintro ⟨a, ha, hconcerns⟩
        rcases List.mem_cons.mp ha with rfl | ha
        · exact hconcerns.elim
        · obtain ⟨m, _, rfl⟩ := List.mem_map.mp ha
          exact (hother hconcerns).elim
      · exact False.elim
  | readFailed => simp [Disturbs, Action.Concerns, Action.session]
  | @readHeader session' _ loop read hloop hread hheader =>
      constructor
      · rintro ⟨a, ha, _⟩
        cases ha
      · rintro ⟨rfl, loop', hloop', read', hread', hbody⟩
        obtain rfl := Option.some.inj (hloop.symm.trans hloop')
        obtain rfl := Option.some.inj (hread.symm.trans hread')
        rw [hheader] at hbody
        cases hbody
  | @readBody session' _ loop read a hloop hread hbody ha =>
      constructor
      · rintro ⟨a', ha', hconcerns⟩
        rw [List.mem_singleton.mp ha'] at hconcerns
        exact ⟨ha.session.symm.trans hconcerns.session, loop,
          (by rw [← ha.session, hconcerns.session] at hloop; exact hloop), read, hread, hbody⟩
      · rintro ⟨rfl, _⟩
        exact ⟨a, List.mem_singleton.mpr rfl, ha⟩
  | written      => simp [Disturbs]
  | writeFailed  => simp [Disturbs, Action.Concerns, Action.session]
  | begun        => simp [Disturbs]
  | passed hb hp => simp [Disturbs, hb, hp]
  | sent hb hp   => simp [Disturbs, hb, hp, Action.Concerns, Action.session]

/-! ## Every run -/

/-- One step keeps a closed session closed if and only if it spares it. -/
theorem closedForGood_step (h : ClosedForGood session s.log) (hstep : s.step e = some s') :
    ClosedForGood session s'.log ↔ Spares session s e := by
  obtain ⟨as, hlog, happend⟩ := step_log hstep
  rw [happend]
  unfold ClosedForGood
  rw [List.pairwise_append]
  constructor
  · rintro ⟨_, _, hlater⟩ hclosed hdisturbs
    obtain ⟨a, ha, hcloses⟩ := hclosed
    obtain ⟨b, hb, hconcerns⟩ := (hlog.concerns_iff ⟨a, ha, hcloses⟩).mpr hdisturbs
    exact hlater a ha b hb hcloses hconcerns
  · intro hspares
    refine ⟨h, hlog.closedForGood, ?_⟩
    intro a ha b hb hcloses hconcerns
    have hclosed : Closed session s := ⟨a, ha, hcloses⟩
    exact hspares hclosed ((hlog.concerns_iff hclosed).mp ⟨b, hb, hconcerns⟩)

/-- **A closed session stays closed** in exactly the runs whose steps spare it: nothing is reported,
    dispatched or queued for it any more. -/
theorem closed_for_good_iff (session : SessionID) (events : List Event)
    (h : exec step run events = some s) :
    ClosedForGood session s.log ↔ Guarded step (Spares session) run events := by
  refine exec_iff_guarded (s := run) (I := fun s => ClosedForGood session s.log) List.Pairwise.nil
    (fun hstep ht => ?_) (fun hu hstep => closedForGood_step hu hstep) h
  obtain ⟨as, _, happend⟩ := step_log hstep
  unfold ClosedForGood at ht
  rw [happend, List.pairwise_append] at ht
  exact ht.1

/-! ## Closed, and not -/

/-- The read loop of a new session. -/
def newLoop : ReadLoop := ⟨.zero, ⟨⟨0, 0, 0, 0⟩, .zero, none⟩, none⟩

/-- A session is accepted, and its first read fails. -/
def readFails : List Event := [.handleSessionAccepted 7 newLoop [], .completeRead 7 none]

theorem readFails_run : (exec step run readFails).isSome = true := by decide +kernel

theorem closed_for_good_readFails :
    ClosedForGood 7 ((exec step run readFails).get readFails_run).log :=
  (closed_for_good_iff 7 readFails (Option.some_get readFails_run).symm).mpr (by decide +kernel)

/-- The next broadcast is queued on the session. -/
def broadcastFollows : List Event := readFails ++ [.beginSend update idAllClients, .sendNext]

/-- A write fails, and then the read. -/
def writeFails : List Event :=
  [.handleSessionAccepted 7 newLoop [update], .completeWrite 7 0 true, .completeRead 7 none]

/-- A message without a type, and one with a type. -/
def untyped : List Event :=
  [.handleSessionAccepted 7 newLoop [], .completeRead 7 (some [2, 0, 0, 0, 0, 0]),
   .completeRead 7 (some []), .completeRead 7 (some [2, 0, 3, 0, 0, 0]), .completeRead 7 (some [])]

/-- A closed session is sent a message, is closed again, and has a message dispatched. -/
theorem closed_session_acts :
    (∃ s ∈ exec step run broadcastFollows, ¬ ClosedForGood 7 s.log) ∧
      (∃ s ∈ exec step run writeFails, ¬ ClosedForGood 7 s.log) ∧
      ∃ s ∈ exec step run untyped, ¬ ClosedForGood 7 s.log := by
  decide +kernel

end GameNetworkServer

end Footscreen
