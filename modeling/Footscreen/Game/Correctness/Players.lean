import Footscreen.Game.Correctness.Closing
import Footscreen.Lib.Counter
import Footscreen.Lib.Selection

/-!
# `Game.Correctness.Players` — the players' identities

Player IDs come from a 16-bit counter that starts at `ID_FIRST_CLIENT` and is never set back, and no
profile is ever removed. `enrolled_iff`: the profiles are in order exactly as long as the counter has not
wrapped around into the reserved IDs, that is for 65532 accepted sessions.
-/

namespace Footscreen

open Lib

namespace GameNetworkServer

variable {s s' : GameNetworkServer} {e : Event} {session : SessionID} {sessions : List SessionID}

/-- The session that an event accepts. -/
def Event.accepted : Event → Option SessionID
  | .handleSessionAccepted session _ _ => some session
  | _                                  => none

/-- The sessions that a run accepts, in order. -/
def acceptedSessions (events : List Event) : List SessionID := events.filterMap Event.accepted

theorem acceptedSessions_snoc (events : List Event) (e : Event) :
    acceptedSessions (events ++ [e]) = acceptedSessions events ++ e.accepted.toList := by
  unfold acceptedSessions
  rw [List.filterMap_append]
  cases h : e.accepted <;> simp [h]

/-- Each accepted session has one profile, with an ID of its own that is not reserved, and both searches
    find it. -/
structure Enrolled (sessions : List SessionID) (s : GameNetworkServer) : Prop where
  sessions   : s.playerProfiles.map (·.session) = sessions
  distinct   : (s.playerProfiles.map (·.playerID)).Nodup
  unreserved : ∀ p ∈ s.playerProfiles, idFirstClient ≤ p.playerID
  byID       : ∀ p ∈ s.playerProfiles, s.playerProfileByID p.playerID = some p
  bySession  : ∀ p ∈ s.playerProfiles, s.playerProfileBySession p.session = some p

/-! ## Steps -/

/-- The players are left alone. -/
structure SamePlayers (s s' : GameNetworkServer) : Prop where
  profiles : s'.playerProfiles = s.playerProfiles
  next     : s'.nextPlayerID = s.nextPlayerID

theorem SamePlayers.refl (s : GameNetworkServer) : SamePlayers s s := ⟨rfl, rfl⟩

theorem SamePlayers.trans {t : GameNetworkServer} (h : SamePlayers s t) (h' : SamePlayers t s') :
    SamePlayers s s' :=
  ⟨h'.profiles.trans h.profiles, h'.next.trans h.next⟩

theorem Queued.samePlayers {ds : List (SessionID × MessageData)} (h : Queued ds s s') :
    SamePlayers s s' :=
  ⟨h.playerProfiles, h.nextPlayerID⟩

theorem handleSignal_players (session : SessionID) (s : GameNetworkServer) (signal : Signal) :
    SamePlayers s (handleSignal session s signal) := by
  cases signal with
  | onMessageReceived m =>
      show SamePlayers s (s.handleMessageReceived session m)
      unfold handleMessageReceived
      split
      · exact ⟨rfl, rfl⟩
      · dsimp only
        split <;> exact ⟨rfl, rfl⟩
  | onClosed                => exact ⟨rfl, rfl⟩
  | onConnectionClosed      => exact ⟨rfl, rfl⟩
  | onConnectionEstablished => exact ⟨rfl, rfl⟩
  | onConnectionFailed      => exact ⟨rfl, rfl⟩

theorem handleSignals_players (session : SessionID) (signals : List Signal) (s : GameNetworkServer) :
    SamePlayers s (signals.foldl (handleSignal session) s) := by
  induction signals generalizing s with
  | nil => exact .refl s
  | cons signal signals ih => exact (handleSignal_players session s signal).trans (ih _)

/-- What a step does to the players: it adds one for a session that it accepts. -/
structure StepPlayers (accepted : Option SessionID) (s s' : GameNetworkServer) : Prop where
  profiles : s'.playerProfiles = s.playerProfiles ++ accepted.toList.map (⟨s.nextPlayerID, ·⟩)
  next     : s'.nextPlayerID = if accepted.isSome then s.nextPlayerID + 1 else s.nextPlayerID

theorem SamePlayers.step_none (h : SamePlayers s s') : StepPlayers none s s' :=
  ⟨by rw [h.profiles]; exact (List.append_nil _).symm, h.next⟩

theorem handleSessionAccepted_players {loop : ReadLoop} {messages : List MessageData}
    (h : s.handleSessionAccepted session loop messages = some s') :
    StepPlayers (some session) s s' := by
  unfold handleSessionAccepted at h
  split at h
  · cases h
  · obtain ⟨loop', _, h⟩ := Option.bind_eq_some_iff.mp h
    -- the messages to the new player leave the profiles alone
    obtain ⟨t, ht, hqueued⟩ := queued_foldlM (fun m => (session, m)) messages
      ({ s with
        reading := Function.update s.reading session (some loop')
        playerProfiles := s.playerProfiles ++ [PlayerProfile.mk s.nextPlayerID session]
        nextPlayerID := s.nextPlayerID + 1 }.act (.onSessionAccepted session))
    obtain rfl : t = s' := Option.some.inj (ht.symm.trans h)
    exact ⟨hqueued.playerProfiles, hqueued.nextPlayerID⟩

theorem completeRead_players {bytes : Option (List UInt8)}
    (h : s.completeRead session bytes = some s') : SamePlayers s s' := by
  unfold completeRead at h
  obtain ⟨loop, _, h⟩ := Option.bind_eq_some_iff.mp h
  obtain ⟨read, _, h⟩ := Option.bind_eq_some_iff.mp h
  split at h
  · obtain ⟨⟨loop', signals⟩, _, h⟩ := Option.bind_eq_some_iff.mp h
    cases h
    have hread : SamePlayers s
        { s with reading := Function.update s.reading session (some loop') } := ⟨rfl, rfl⟩
    exact hread.trans (handleSignals_players session signals _)
  · cases h

theorem completeWrite_players {i : Nat} {error : Bool}
    (h : s.completeWrite session i error = some s') : SamePlayers s s' := by
  unfold completeWrite at h
  obtain ⟨w, _, h⟩ := Option.bind_eq_some_iff.mp h
  obtain ⟨⟨q, signals⟩, _, h⟩ := Option.bind_eq_some_iff.mp h
  cases h
  have hwritten : SamePlayers s { s with writes := Function.update s.writes session q } := ⟨rfl, rfl⟩
  exact hwritten.trans (handleSignals_players session signals _)

theorem beginSend_players {m : MessageData} {receiverID : PlayerID}
    (h : s.beginSend m receiverID = some s') : SamePlayers s s' := by
  unfold beginSend sendTests at h
  repeat' split at h
  all_goals
    cases h
    try exact ⟨rfl, rfl⟩

theorem sendNext_players (h : s.sendNext = some s') : SamePlayers s s' := by
  unfold sendNext at h
  split at h
  · cases h
  · next m j _ =>
      split at h
      · cases h
        exact ⟨rfl, rfl⟩
      · next p _ =>
          obtain ⟨t, ht, hqueued⟩ := queued_sendTo s p.session m
          rw [ht] at h
          cases h
          exact hqueued.samePlayers.trans ⟨rfl, rfl⟩

/-- **One step.** -/
theorem step_players (h : s.step e = some s') : StepPlayers e.accepted s s' := by
  cases e with
  | handleSessionAccepted session loop messages => exact handleSessionAccepted_players h
  | completeRead session bytes    => exact (completeRead_players h).step_none
  | completeWrite session i error => exact (completeWrite_players h).step_none
  | beginSend m receiverID =>
      rw [step] at h
      split at h
      · exact (beginSend_players h).step_none
      · cases h
  | sendNext => exact (sendNext_players h).step_none

/-- A session that is accepted is new, and appears in the log from then on. -/
theorem step_accepted (h : s.step e = some s') :
    (∀ a ∈ s.log, a ∈ s'.log) ∧ ∀ session ∈ e.accepted,
      (∀ a ∈ s.log, a.session ≠ session) ∧ ∃ a ∈ s'.log, a.session = session := by
  obtain ⟨as, hsteplog, hlog⟩ := step_log h
  rw [hlog]
  refine ⟨fun a ha => List.mem_append_left as ha, ?_⟩
  intro session hsession
  cases hsteplog with
  | accepted hnew =>
      obtain rfl : _ = session := Option.some.inj hsession
      refine ⟨hnew, .onSessionAccepted _, ?_, rfl⟩
      exact List.mem_append_right _ List.mem_cons_self
  | _ => cases hsession

/-! ## Runs -/

/-- The players after the sessions that have been accepted. -/
structure Counted (sessions : List SessionID) (s : GameNetworkServer) : Prop where
  profiles : s.playerProfiles.map (·.session) = sessions
  ids      : s.playerProfiles.map (·.playerID) =
    (List.range sessions.length).map (counted idFirstClient)
  next     : s.nextPlayerID = counted idFirstClient sessions.length
  logged   : ∀ session ∈ sessions, ∃ a ∈ s.log, a.session = session
  distinct : sessions.Nodup

theorem counted_run : Counted [] run := by
  refine ⟨rfl, rfl, counted_zero.symm, ?_, List.nodup_nil⟩
  intro session hsession
  cases hsession

theorem Counted.snoc (h : Counted sessions s) (hstep : s.step e = some s') :
    Counted (sessions ++ e.accepted.toList) s' := by
  have hplayers := step_players hstep
  obtain ⟨hkept, haccepted⟩ := step_accepted hstep
  cases he : e.accepted with
  | none =>
      rw [he] at hplayers
      have hprofiles : s'.playerProfiles = s.playerProfiles := by simpa using hplayers.profiles
      rw [Option.toList_none, List.append_nil]
      refine ⟨by rw [hprofiles, h.profiles], by rw [hprofiles, h.ids], hplayers.next.trans h.next, ?_,
        h.distinct⟩
      intro session hsession
      obtain ⟨a, ha, hsame⟩ := h.logged session hsession
      exact ⟨a, hkept a ha, hsame⟩
  | some session =>
      rw [he] at hplayers
      obtain ⟨hnew, hlogged⟩ := haccepted session he
      rw [Option.toList_some]
      refine ⟨?_, ?_, ?_, ?_, ?_⟩
      · rw [hplayers.profiles, List.map_append, h.profiles]
        rfl
      · rw [hplayers.profiles, List.map_append, h.ids, List.length_append, List.length_singleton,
          List.range_succ, List.map_append, h.next]
        rfl
      · rw [List.length_append, List.length_singleton, counted_succ, ← h.next]
        exact hplayers.next
      · intro session' hsession'
        rcases List.mem_append.mp hsession' with hold | hsame
        · obtain ⟨a, ha, heq⟩ := h.logged session' hold
          exact ⟨a, hkept a ha, heq⟩
        · rw [List.mem_singleton.mp hsame]
          exact hlogged
      · rw [List.nodup_append]
        refine ⟨h.distinct, List.nodup_singleton _, ?_⟩
        intro session' hsession' t ht heq
        rw [List.mem_singleton.mp ht] at heq
        obtain ⟨a, ha, hsame⟩ := h.logged session' hsession'
        exact hnew a ha (hsame.trans heq)

theorem counted_of_run {events : List Event} (h : exec step run events = some s) :
    Counted (acceptedSessions events) s := by
  refine exec_trace (P := fun es u => Counted (acceptedSessions es) u) counted_run
    (fun {es u e t} _ hu ht => ?_) h
  rw [acceptedSessions_snoc]
  exact hu.snoc ht

/-- The sessions and the searches by them are always right; the IDs are for a while. -/
theorem Counted.enrolled_iff_length (h : Counted sessions s) :
    Enrolled sessions s ↔ sessions.length + idFirstClient.toNat ≤ 2 ^ 16 := by
  rw [← fresh_counted_iff, ← h.ids]
  have hsessions : (s.playerProfiles.map (·.session)).Nodup := by
    rw [h.profiles]
    exact h.distinct
  constructor
  · intro henrolled
    refine ⟨henrolled.distinct, ?_⟩
    intro k hk
    obtain ⟨p, hp, rfl⟩ := List.mem_map.mp hk
    exact henrolled.unreserved p hp
  · rintro ⟨hids, hfirst⟩
    exact ⟨h.profiles, hids, fun p hp => hfirst _ (List.mem_map_of_mem hp),
      fun p hp => find?_key hids hp, fun p hp => find?_key hsessions hp⟩

/-- **The players are in order** after a run if and only if it has accepted at most 65532 sessions. -/
theorem enrolled_iff {events : List Event} (h : exec step run events = some s) :
    Enrolled (acceptedSessions events) s ↔ (acceptedSessions events).length ≤ 65532 := by
  rw [(counted_of_run h).enrolled_iff_length]
  exact Nat.add_le_add_iff_right (n := 4) (k := 65532)

/-- Three players, of whom the second one leaves. -/
def threePlayers : List Event :=
  [.handleSessionAccepted 7 newLoop [], .handleSessionAccepted 8 newLoop [],
    .completeRead 8 none, .handleSessionAccepted 9 newLoop []]

theorem enrolled_threePlayers :
    (exec step run threePlayers).isSome = true ∧
      ∀ s ∈ exec step run threePlayers, Enrolled [7, 8, 9] s := by
  refine ⟨by decide +kernel, ?_⟩
  intro s hs
  exact (enrolled_iff hs).mpr (by decide)

/-! ## A player too many -/

/-- Sessions that are accepted one after the other. -/
def acceptAll (sessions : List SessionID) : List Event :=
  sessions.map fun session => .handleSessionAccepted session newLoop []

theorem acceptedSessions_acceptAll (sessions : List SessionID) :
    acceptedSessions (acceptAll sessions) = sessions := by
  unfold acceptedSessions acceptAll
  rw [List.filterMap_map]
  exact List.filterMap_some

theorem handleSessionAccepted_new (hnew : ∀ a ∈ s.log, a.session ≠ session) :
    ∃ s', s.handleSessionAccepted session newLoop [] = some s' ∧
      s'.log = s.log ++ [.onSessionAccepted session] := by
  have hno : ¬ (s.log.any fun a => a.session = session) = true := by
    rw [List.any_eq_true]
    rintro ⟨a, ha, hsame⟩
    exact hnew a ha (of_decide_eq_true hsame)
  unfold handleSessionAccepted
  rw [if_neg hno]
  exact ⟨_, rfl, rfl⟩

/-- Any distinct sessions can be accepted. -/
theorem acceptAll_run (hn : sessions.Nodup) :
    ∃ s, exec step run (acceptAll sessions) = some s ∧ s.log = sessions.map .onSessionAccepted := by
  induction sessions using List.reverseRecOn with
  | nil => exact ⟨run, rfl, rfl⟩
  | append_singleton sessions session ih =>
      rw [List.nodup_append] at hn
      obtain ⟨s, hs, hlog⟩ := ih hn.1
      have hnew : ∀ a ∈ s.log, a.session ≠ session := by
        intro a ha
        rw [hlog] at ha
        obtain ⟨old, hold, rfl⟩ := List.mem_map.mp ha
        exact hn.2.2 old hold session List.mem_cons_self
      obtain ⟨s', hs', hlog'⟩ := handleSessionAccepted_new hnew
      refine ⟨s', ?_, ?_⟩
      · unfold acceptAll
        rw [List.map_append]
        exact exec_snoc.mpr ⟨s, hs, hs'⟩
      · rw [hlog', hlog, List.map_append]
        rfl

/-- The 65533rd player gets the ID 0. -/
theorem player_without_id :
    ∃ events s, exec step run events = some s ∧ (acceptedSessions events).Nodup ∧
      (∃ p ∈ s.playerProfiles, p.playerID = idNone) ∧ ¬ Enrolled (acceptedSessions events) s := by
  obtain ⟨s, hs, -⟩ := acceptAll_run (List.nodup_range (n := 65533))
  have hcounted := counted_of_run hs
  refine ⟨_, s, hs, hcounted.distinct, ?_, ?_⟩
  · have hids := hcounted.ids
    rw [acceptedSessions_acceptAll, List.length_range] at hids
    have hlast : idNone ∈ s.playerProfiles.map (·.playerID) := by
      rw [hids]
      exact List.mem_map.mpr ⟨65532, List.mem_range.mpr (by decide), by decide⟩
    exact List.mem_map.mp hlast
  · rw [hcounted.enrolled_iff_length, acceptedSessions_acceptAll, List.length_range]
    decide

end GameNetworkServer

end Footscreen
