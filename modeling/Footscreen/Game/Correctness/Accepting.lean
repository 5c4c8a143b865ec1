import Footscreen.Game.NetworkServer
import Footscreen.Game.Correctness.Players

/-!
# `Game.Correctness.Accepting` — every client is a player of its own

`GameNetworkServer` identifies sessions by their addresses, and an address that has been freed is given out
again. `Accepting` is the invariant of the accept loop: the sessions that exist are those that have been
accepted and the one that waits for a client, all of them distinct, and nothing is known of the latter
(`Known`). So no accepted session is taken for another one, and no object is destroyed twice
(`accept_loop`).
-/

namespace Footscreen

open Lib

/-! ## What the game's network server knows -/

namespace GameNetworkServer

variable {s s' : GameNetworkServer} {session : SessionID} {m : MessageData} {sessions : List SessionID}

/-- Something has happened to these sessions only. -/
structure Known (sessions : List SessionID) (s : GameNetworkServer) : Prop where
  log      : ∀ a ∈ s.log, a.session ∈ sessions
  reading  : ∀ t, (s.reading t).isSome = true → t ∈ sessions
  writes   : ∀ t, (s.writes t).outstanding ≠ [] → t ∈ sessions
  profiles : ∀ p ∈ s.playerProfiles, p.session ∈ sessions

theorem known_run : Known [] run :=
  ⟨nofun, nofun, fun _ hne => absurd rfl hne, nofun⟩

theorem Known.act (h : Known sessions s) {a : Action} (ha : a.session ∈ sessions) :
    Known sessions (s.act a) := by
  refine ⟨?_, h.reading, h.writes, h.profiles⟩
  intro b hb
  rcases List.mem_append.mp hb with hb | hb
  · exact h.log b hb
  · rw [List.mem_singleton.mp hb]
    exact ha

theorem Known.setWrites (h : Known sessions s) (hsession : session ∈ sessions) (q : WriteQueue) :
    Known sessions { s with writes := Function.update s.writes session q } := by
  refine ⟨h.log, h.reading, ?_, h.profiles⟩
  intro t ht
  by_cases heq : t = session
  · rw [heq]
    exact hsession
  · apply h.writes t
    dsimp only at ht
    rwa [Function.update_of_ne heq] at ht

theorem Known.setReading (h : Known sessions s) (hsession : session ∈ sessions) (loop : ReadLoop) :
    Known sessions { s with reading := Function.update s.reading session (some loop) } := by
  refine ⟨h.log, ?_, h.writes, h.profiles⟩
  intro t ht
  by_cases heq : t = session
  · rw [heq]
    exact hsession
  · apply h.reading t
    dsimp only at ht
    rwa [Function.update_of_ne heq] at ht

theorem Known.sendTo (h : Known sessions s) (hsession : session ∈ sessions)
    (hstep : s.sendTo session m = some s') : Known sessions s' := by
  obtain ⟨q, -, rfl⟩ := Option.map_eq_some_iff.mp hstep
  exact (h.setWrites hsession q).act hsession

theorem Known.handleSignals (h : Known sessions s) (hsession : session ∈ sessions)
    (signals : List Signal) :
    Known sessions (signals.foldl (GameNetworkServer.handleSignal session) s) := by
  induction signals generalizing s with
  | nil => exact h
  | cons signal signals ih =>
      apply ih
      cases signal with
      | onMessageReceived m =>
          show Known sessions (s.handleMessageReceived session m)
          unfold handleMessageReceived
          split
          · exact h.act hsession
          · dsimp only
            split <;> exact h.act hsession
      | onClosed => exact h.act hsession
      | onConnectionClosed | onConnectionEstablished | onConnectionFailed => exact h

theorem Known.completeRead {bytes : Option (List UInt8)} (h : Known sessions s)
    (hstep : s.completeRead session bytes = some s') : Known sessions s' := by
  obtain ⟨loop, hloop, hstep⟩ := Option.bind_eq_some_iff.mp hstep
  obtain ⟨read, -, hstep⟩ := Option.bind_eq_some_iff.mp hstep
  have hsession := h.reading session (by rw [hloop]; rfl)
  split at hstep
  · obtain ⟨⟨loop', signals⟩, -, hstep⟩ := Option.bind_eq_some_iff.mp hstep
    cases hstep
    exact (h.setReading hsession loop').handleSignals hsession signals
  · cases hstep

theorem Known.completeWrite {i : Nat} {error : Bool} (h : Known sessions s)
    (hstep : s.completeWrite session i error = some s') : Known sessions s' := by
  obtain ⟨w, hw, hstep⟩ := Option.bind_eq_some_iff.mp hstep
  obtain ⟨⟨q, signals⟩, -, hstep⟩ := Option.bind_eq_some_iff.mp hstep
  cases hstep
  have hsession := h.writes session (List.ne_nil_of_mem (List.mem_of_getElem? hw))
  exact (h.setWrites hsession q).handleSignals hsession signals

theorem Known.beginSend {receiverID : PlayerID} (h : Known sessions s)
    (hstep : s.beginSend m receiverID = some s') : Known sessions s' := by
  unfold GameNetworkServer.beginSend sendTests at hstep
  repeat' split at hstep
  all_goals cases hstep
  all_goals exact ⟨h.log, h.reading, h.writes, h.profiles⟩

theorem Known.sendNext (h : Known sessions s) (hstep : s.sendNext = some s') : Known sessions s' := by
  unfold GameNetworkServer.sendNext at hstep
  split at hstep
  · cases hstep
  · split at hstep
    · cases hstep
      exact ⟨h.log, h.reading, h.writes, h.profiles⟩
    · next p hp =>
        obtain ⟨t, ht, rfl⟩ := Option.map_eq_some_iff.mp hstep
        have h' := h.sendTo (h.profiles p (List.mem_of_getElem? hp)) ht
        exact ⟨h'.log, h'.reading, h'.writes, h'.profiles⟩

/-- **One step** that accepts no session. -/
theorem Known.step {e : Event} (h : Known sessions s) (he : e.accepted = none)
    (hstep : s.step e = some s') : Known sessions s' := by
  cases e with
  | handleSessionAccepted session loop messages => cases he
  | completeRead session bytes => exact h.completeRead hstep
  | completeWrite session i error => exact h.completeWrite hstep
  | beginSend m receiverID =>
      rw [GameNetworkServer.step] at hstep
      split at hstep
      · exact h.beginSend hstep
      · cases hstep
  | sendNext => exact h.sendNext hstep

/-- The messages for a session are queued on it. -/
theorem Known.sendAll (h : Known sessions s) (hsession : session ∈ sessions)
    (messages : List MessageData) :
    ∃ s', messages.foldlM (fun s m => s.sendTo session m) s = some s' ∧ Known sessions s' := by
  induction messages generalizing s with
  | nil => exact ⟨s, rfl, h⟩
  | cons m messages ih =>
      obtain ⟨t, ht, -⟩ := queued_sendTo s session m
      obtain ⟨s', hs', h'⟩ := ih (h.sendTo hsession ht)
      refine ⟨s', ?_, h'⟩
      rw [List.foldlM_cons, ht]
      exact hs'

/-- A session of which nothing is known can be accepted. -/
theorem Known.accept (h : Known sessions s) (hnew : session ∉ sessions) (loop : ReadLoop)
    (messages : List MessageData) :
    ∃ s', s.handleSessionAccepted session loop messages = some s' ∧ Known (sessions ++ [session]) s' := by
  have hunknown : ¬ (s.log.any fun a => a.session = session) = true := by
    intro hany
    obtain ⟨a, ha, heq⟩ := List.any_eq_true.mp hany
    exact hnew (of_decide_eq_true heq ▸ h.log a ha)
  have hmem : session ∈ sessions ++ [session] := List.mem_append_right _ List.mem_cons_self
  have hprofiled : Known (sessions ++ [session]) { s with
      playerProfiles := s.playerProfiles ++ [PlayerProfile.mk s.nextPlayerID session]
      nextPlayerID := s.nextPlayerID + 1 } := by
    refine ⟨fun a ha => List.mem_append_left _ (h.log a ha),
      fun t ht => List.mem_append_left _ (h.reading t ht),
      fun t ht => List.mem_append_left _ (h.writes t ht), ?_⟩
    intro p hp
    rcases List.mem_append.mp hp with hp | hp
    · exact List.mem_append_left _ (h.profiles p hp)
    · rw [List.mem_singleton.mp hp]
      exact hmem
  -- the session waits for its first header
  let loop' := { loop with pending := some ⟨headerLength, .header⟩ }
  have hstart : NetworkServerSession.start loop = some loop' := rfl
  obtain ⟨s', hs', hknown⟩ :=
    ((hprofiled.setReading hmem loop').act (a := .onSessionAccepted session) hmem).sendAll hmem messages
  refine ⟨s', ?_, hknown⟩
  unfold handleSessionAccepted
  rw [if_neg hunknown, hstart]
  exact hs'

end GameNetworkServer

/-! ## The accept loop -/

namespace NetworkServer

open GameNetworkServer

variable {s s' : NetworkServer} {waiting address : SessionID}

/-- The sessions that exist are those that have been accepted and the one that waits for a client. -/
structure Accepting (s : NetworkServer) (waiting : SessionID) : Prop where
  newSession : s.newSession = some waiting
  fresh      : waiting ∉ s.sessions
  allocated  : s.allocated.Perm (s.sessions ++ [waiting])
  known      : Known s.sessions s.gameNetworkServer
  counted    : Counted s.sessions s.gameNetworkServer

theorem accepting_run (address : SessionID) : (run address).Accepting address :=
  ⟨rfl, List.not_mem_nil, .refl _, known_run, counted_run⟩

/-- The next session object is created. -/
theorem accepting_startAccept (hallocated : s.allocated.Perm s.sessions)
    (hknown : Known s.sessions s.gameNetworkServer) (hcounted : Counted s.sessions s.gameNetworkServer)
    (h : s.startAccept address = some s') : s'.Accepting address := by
  unfold startAccept at h
  split at h
  · cases h
  · next hfresh =>
      cases h
      exact ⟨rfl, fun hmem => hfresh (hallocated.mem_iff.mpr hmem), hallocated.append_right _, hknown,
        hcounted⟩

theorem Accepting.erase (h : s.Accepting waiting) : (s.allocated.erase waiting).Perm s.sessions := by
  refine (h.allocated.erase waiting).trans ?_
  rw [List.erase_append_right _ h.fresh, List.erase_cons_head, List.append_nil]

/-- An accept completes, and the next one is started. -/
theorem Accepting.handleAccept (h : s.Accepting waiting) (error : Bool) (loop : ReadLoop)
    (messages : List MessageData) (address : SessionID) :
    ∃ t : NetworkServer, s.handleAccept waiting error loop messages address = t.startAccept address ∧
      t.allocated.Perm t.sessions ∧ Known t.sessions t.gameNetworkServer ∧
      Counted t.sessions t.gameNetworkServer ∧
      t.allocated = if error then s.allocated.erase waiting else s.allocated := by
  cases error with
  | true =>
      have hmem : waiting ∈ s.allocated :=
        h.allocated.mem_iff.mpr (List.mem_append_right _ List.mem_cons_self)
      refine ⟨{ s with allocated := s.allocated.erase waiting }, ?_, h.erase, h.known, h.counted, rfl⟩
      unfold NetworkServer.handleAccept delete
      rw [if_neg (by decide), if_pos hmem]
      rfl
  | false =>
      obtain ⟨g, hg, hknown⟩ := h.known.accept h.fresh loop messages
      have hcounted := h.counted.snoc (e := .handleSessionAccepted waiting loop messages) hg
      refine ⟨{ s with sessions := s.sessions ++ [waiting], gameNetworkServer := g }, ?_, h.allocated,
        hknown, hcounted, rfl⟩
      unfold NetworkServer.handleAccept NetworkServer.accept
      dsimp only
      rw [hg]
      rfl

/-- Destroying all sessions of a list leaves the others. -/
theorem deleteAll {l rest : List SessionID} (h : s.allocated.Perm (l ++ rest)) :
    ∃ t, l.foldlM delete s = some t ∧ t.allocated.Perm rest ∧ t.newSession = s.newSession := by
  induction l generalizing s with
  | nil => exact ⟨s, rfl, h, rfl⟩
  | cons session l ih =>
      have hmem : session ∈ s.allocated := h.mem_iff.mpr List.mem_cons_self
      have herased : (s.allocated.erase session).Perm (l ++ rest) := by
        have hperm := h.erase session
        rwa [List.cons_append, List.erase_cons_head] at hperm
      obtain ⟨t, ht, hallocated, hnew⟩ := ih (s := { s with allocated := s.allocated.erase session }) herased
      refine ⟨t, ?_, hallocated, hnew⟩
      rw [List.foldlM_cons, delete, if_pos hmem]
      exact ht

/-- `release` destroys each accepted session once, and not the one that waits. -/
theorem Accepting.release (h : s.Accepting waiting) :
    ∃ t, s.release = some t ∧ t.allocated = [waiting] ∧ t.newSession = none := by
  obtain ⟨t, ht, hallocated, hnew⟩ := deleteAll (s := { s with newSession := none }) h.allocated
  exact ⟨t, ht, List.perm_singleton.mp hallocated, hnew⟩

/-- **One step**, as long as the service runs. -/
theorem accepting_step {e : Event} (h : ∀ w, s.newSession = some w → s.Accepting w)
    (hstep : s.step e = some s') : ∀ w, s'.newSession = some w → s'.Accepting w := by
  intro w' hw'
  cases e with
  | handleAccept error loop messages address =>
      obtain ⟨w, hw, hstep⟩ := Option.bind_eq_some_iff.mp hstep
      obtain ⟨t, heq, hallocated, hknown, hcounted, -⟩ :=
        (h w hw).handleAccept error loop messages address
      have h' := accepting_startAccept hallocated hknown hcounted (heq.symm.trans hstep)
      obtain rfl := Option.some.inj (h'.newSession.symm.trans hw')
      exact h'
  | gameNetworkServer e =>
      rw [step] at hstep
      split at hstep
      · next hcan =>
          obtain ⟨-, hannounces⟩ := Bool.and_eq_true_iff.mp hcan
          have he : e.accepted = none := by
            cases e with
            | handleSessionAccepted _ _ _ => cases hannounces
            | completeRead _ _ | completeWrite _ _ _ | beginSend _ _ | sendNext => rfl
          obtain ⟨g, hg, rfl⟩ := Option.map_eq_some_iff.mp hstep
          have haccepting := h w' hw'
          have hcounted := haccepting.counted.snoc hg
          rw [he, Option.toList_none, List.append_nil] at hcounted
          exact ⟨hw', haccepting.fresh, haccepting.allocated, haccepting.known.step he hg, hcounted⟩
      · cases hstep
  | release =>
      rw [step] at hstep
      split at hstep
      · next hsome =>
          obtain ⟨w, hw⟩ := Option.isSome_iff_exists.mp hsome
          obtain ⟨t, ht, -, hnone⟩ := (h w hw).release
          obtain rfl := Option.some.inj (ht.symm.trans hstep)
          rw [hnone] at hw'
          cases hw'
      · cases hstep

/-- **The accept loop.** In every run, wherever the allocator puts the sessions, as long as the service
    runs: the accepted sessions and the one that waits are distinct, so up to 65532 of them each have a
    player of their own; an accept can complete in either way, and then any free address will do for the
    next session, also the one that has just been freed; and stopping destroys each accepted session
    once, but never the one that waits. -/
theorem accept_loop (address : SessionID) {events : List Event}
    (h : exec step (run address) events = some s) (hrunning : s.newSession = some waiting) :
    (s.sessions ++ [waiting]).Nodup ∧
      (s.sessions.length ≤ 65532 → Enrolled s.sessions s.gameNetworkServer) ∧
      (∀ error loop messages next, (s.step (.handleAccept error loop messages next)).isSome = true ↔
        next ∉ s.allocated ∨ error = true ∧ next = waiting) ∧
      ∃ t, s.step .release = some t ∧ t.allocated = [waiting] := by
  have haccepting : s.Accepting waiting := by
    refine exec_invariant (I := fun s => ∀ w, s.newSession = some w → s.Accepting w) accepting_step ?_ h
      waiting hrunning
    rintro _ ⟨⟩
    exact accepting_run address
  have hnodup : (s.sessions ++ [waiting]).Nodup := by
    rw [List.nodup_append]
    refine ⟨haccepting.counted.distinct, List.nodup_singleton _, ?_⟩
    intro a ha b hb hab
    rw [List.mem_singleton.mp hb] at hab
    exact haccepting.fresh (hab ▸ ha)
  refine ⟨hnodup, ?_, ?_, ?_⟩
  · intro hlength
    exact haccepting.counted.enrolled_iff_length.mpr (Nat.add_le_add_right hlength 4)
  · intro error loop messages next
    obtain ⟨t, heq, -, -, -, hallocated⟩ := haccepting.handleAccept error loop messages next
    have hstep : s.step (.handleAccept error loop messages next) = t.startAccept next := by
      rw [step, hrunning]
      exact heq
    have hsome : (t.startAccept next).isSome = true ↔ next ∉ t.allocated := by
      unfold startAccept
      split
      · next hmem => exact iff_of_false Bool.false_ne_true (not_not.mpr hmem)
      · next hfresh => exact iff_of_true rfl hfresh
    rw [hstep, hsome, hallocated]
    cases error with
    | false => exact (or_iff_left fun h => Bool.false_ne_true h.1).symm
    | true =>
        have hnodup' := haccepting.allocated.nodup_iff.mpr hnodup
        rw [if_pos rfl, hnodup'.mem_erase_iff, not_and_or, not_not, or_comm]
        exact or_congr_right (and_iff_right rfl).symm
  · obtain ⟨t, ht, hallocated, -⟩ := haccepting.release
    refine ⟨t, ?_, hallocated⟩
    rw [step, if_pos (by rw [hrunning]; rfl)]
    exact ht

/-- Two clients connect, an accept fails in between, and its address is used again. -/
def reusedAddress : List Event :=
  [.handleAccept false newLoop [] 8, .handleAccept true newLoop [] 8, .handleAccept false newLoop [] 9]

theorem reusedAddress_run : (exec step (run 7) reusedAddress).isSome = true := by decide +kernel

theorem accept_loop_reusedAddress :
    ∃ s t, exec step (run 7) reusedAddress = some s ∧ Enrolled [7, 8] s.gameNetworkServer ∧
      s.step .release = some t ∧ t.allocated = [9] := by
  have hrunning : ((exec step (run 7) reusedAddress).get reusedAddress_run).newSession = some 9 := by
    decide +kernel
  obtain ⟨-, henrolled, -, t, ht, hallocated⟩ :=
    accept_loop 7 (Option.some_get reusedAddress_run).symm hrunning
  exact ⟨_, t, (Option.some_get reusedAddress_run).symm, henrolled (by decide +kernel), ht, hallocated⟩

end NetworkServer

end Footscreen
