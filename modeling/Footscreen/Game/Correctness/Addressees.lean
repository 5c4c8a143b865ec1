import Footscreen.Game.GameNetworkServer
import Footscreen.Game.Correctness.ServerRuns

/-!
# `Game.Correctness.Addressees` — whom `send` reaches

`receivers` lists the sessions that `send` queues a message on. `GameNetworkServer.send` and the game's
view of it, `GameServer.send`, both queue on these and on no others. They are the addressees for a
broadcast (`sends_exactly_iff`); a single player is never reached.
-/

namespace Footscreen

open FloatArith Lib

/-- The sessions that `send` queues on; `none` when it dereferences an empty profile. -/
def receivers (ps : List PlayerProfile) (contentType : ContentType) (messageID : MessageID)
    (receiverID : PlayerID) : Option (List SessionID) :=
  if contentType = messageUndefined ∨ messageID = messageIDNone ∨ receiverID = idServer then some []
  else if receiverID = idAllClients then some (ps.map (·.session))
  else (ps.find? fun p => p.playerID == receiverID).map fun _ => []

theorem receivers_of {ps : List PlayerProfile} {contentType : ContentType} {messageID : MessageID}
    {receiverID : PlayerID} (htype : contentType ≠ messageUndefined) (hid : messageID ≠ messageIDNone)
    (hserver : receiverID ≠ idServer) :
    receivers ps contentType messageID receiverID =
      if receiverID = idAllClients then some (ps.map (·.session))
      else (ps.find? fun p => p.playerID == receiverID).map fun _ => [] := by
  unfold receivers
  rw [if_neg]
  rintro (h | h | h)
  · exact htype h
  · exact hid h
  · exact hserver h

/-- The game's view. -/
theorem GameServer.send_eq {F : Type} (s : GameServer F) (m : GameMessage F) (receiverID : PlayerID) :
    s.send m receiverID =
      (receivers s.playerProfiles m.contentType m.messageID receiverID).map fun sessions =>
        { s with outbox := s.outbox ++ sessions.map (·, m) } := by
  unfold GameServer.send
  by_cases htype : m.contentType = messageUndefined
  · simp [htype, receivers]
  by_cases hid : m.messageID = messageIDNone
  · simp [htype, hid, receivers]
  by_cases hserver : receiverID = idServer
  · simp [htype, hid, hserver, receivers]
  rw [if_neg htype, if_neg hid, if_neg hserver, receivers_of htype hid hserver]
  by_cases hall : receiverID = idAllClients
  · rw [if_pos hall, if_pos hall, GameServer.foldl_sendTo, Option.map_some, List.map_map]
    rfl
  · rw [if_neg hall, if_neg hall]
    unfold GameServer.playerProfileByID
    cases s.playerProfiles.find? fun p => p.playerID == receiverID with
    | none   => rfl
    | some p => simp

namespace GameNetworkServer

variable {s s' : GameNetworkServer} {m : MessageData} {session : SessionID} {receiverID : PlayerID}

/-! ## Queueing -/

/-- `deliver` always goes through. -/
theorem deliver_queue (q : WriteQueue) (m : MessageData) :
    ∃ q', NetworkServerSession.deliver q m = some q' ∧ q'.queue = q.queue ++ [m] := by
  obtain ⟨queue, outstanding⟩ := q
  cases queue with
  | nil             => exact ⟨_, rfl, rfl⟩
  | cons front rest => exact ⟨_, rfl, rfl⟩

/-- What queueing some messages on sessions does, one after the other. -/
structure Queued (deliveries : List (SessionID × MessageData)) (s s' : GameNetworkServer) : Prop where
  playerProfiles : s'.playerProfiles = s.playerProfiles
  nextPlayerID   : s'.nextPlayerID = s.nextPlayerID
  reading        : s'.reading = s.reading
  broadcast      : s'.broadcast = s.broadcast
  queue          : ∀ session, (s'.writes session).queue =
    (s.writes session).queue ++ (deliveries.filter fun d => d.1 == session).map Prod.snd
  log            : s'.log = s.log ++ deliveries.map fun d => .deliver d.1 d.2

theorem Queued.refl (s : GameNetworkServer) : Queued [] s s :=
  ⟨rfl, rfl, rfl, rfl, fun _ => (List.append_nil _).symm, (List.append_nil _).symm⟩

theorem Queued.trans {s'' : GameNetworkServer} {ds es : List (SessionID × MessageData)}
    (h : Queued ds s s') (h' : Queued es s' s'') : Queued (ds ++ es) s s'' := by
  refine ⟨h'.playerProfiles.trans h.playerProfiles, h'.nextPlayerID.trans h.nextPlayerID,
    h'.reading.trans h.reading, h'.broadcast.trans h.broadcast, ?_, ?_⟩
  · intro session
    rw [h'.queue, h.queue, List.append_assoc, ← List.map_append, ← List.filter_append]
  · rw [h'.log, h.log, List.map_append, List.append_assoc]

theorem queued_sendTo (s : GameNetworkServer) (session : SessionID) (m : MessageData) :
    ∃ s', s.sendTo session m = some s' ∧ Queued [(session, m)] s s' := by
  obtain ⟨q, hq, hqueue⟩ := deliver_queue (s.writes session) m
  unfold sendTo
  rw [hq]
  refine ⟨_, rfl, rfl, rfl, rfl, rfl, ?_, rfl⟩
  intro t
  show (Function.update s.writes session q t).queue = _
  by_cases ht : t = session
  · subst ht
    rw [Function.update_self, hqueue]
    simp
  · rw [Function.update_of_ne ht]
    simp [Ne.symm ht]

/-- A loop of `sendTo`. -/
theorem queued_foldlM {α : Type} (f : α → SessionID × MessageData) (xs : List α)
    (s : GameNetworkServer) :
    ∃ s', xs.foldlM (fun s x => s.sendTo (f x).1 (f x).2) s = some s' ∧ Queued (xs.map f) s s' := by
  induction xs generalizing s with
  | nil => exact ⟨s, rfl, Queued.refl s⟩
  | cons x xs ih =>
      obtain ⟨t, ht, hqueued⟩ := queued_sendTo s (f x).1 (f x).2
      obtain ⟨u, hu, hrest⟩ := ih t
      refine ⟨u, ?_, hqueued.trans hrest⟩
      rw [List.foldlM_cons, ht]
      exact hu

/-- One message on distinct sessions. -/
theorem Queued.queue_of_nodup {sessions : List SessionID} (h : Queued (sessions.map (·, m)) s s')
    (hn : sessions.Nodup) (session : SessionID) :
    (s'.writes session).queue =
      (s.writes session).queue ++ if session ∈ sessions then [m] else [] := by
  rw [h.queue, List.filter_map, List.map_map]
  congr 1
  have hsame : sessions.filter ((fun d : SessionID × MessageData => d.1 == session) ∘ (·, m)) =
      List.replicate (sessions.count session) session := List.filter_beq session
  rw [hsame, hn.count]
  split <;> rfl

/-! ## `send` -/

/-- `send` returns early, goes to its loop, or dereferences an empty profile. -/
theorem sendTests_cases (s : GameNetworkServer) (m : MessageData) (receiverID : PlayerID) :
    let rs := receivers s.playerProfiles m.contentType m.messageID receiverID
    (rs = some [] ∧ ∀ loop, s.sendTests m receiverID loop = some s) ∨
      (rs = some (s.playerProfiles.map (·.session)) ∧ ∀ loop, s.sendTests m receiverID loop = loop) ∨
      (rs = none ∧ ∀ loop, s.sendTests m receiverID loop = none) := by
  intro rs
  unfold rs sendTests
  by_cases htype : m.contentType = messageUndefined
  · exact Or.inl (by simp [htype, receivers])
  by_cases hid : m.messageID = messageIDNone
  · exact Or.inl (by simp [htype, hid, receivers])
  by_cases hserver : receiverID = idServer
  · exact Or.inl (by simp [htype, hid, hserver, receivers])
  simp only [if_neg htype, if_neg hid, if_neg hserver, receivers_of htype hid hserver]
  by_cases hall : receiverID = idAllClients
  · exact Or.inr (Or.inl ⟨if_pos hall, fun loop => if_pos hall⟩)
  · simp only [if_neg hall]
    unfold playerProfileByID
    cases s.playerProfiles.find? fun p => p.playerID == receiverID with
    | none   => exact Or.inr (Or.inr ⟨rfl, fun _ => rfl⟩)
    | some p => exact Or.inl ⟨rfl, fun _ => rfl⟩

/-- `send` queues the message on the receivers, in order. -/
theorem queued_send (s : GameNetworkServer) (m : MessageData) (receiverID : PlayerID) :
    match receivers s.playerProfiles m.contentType m.messageID receiverID with
    | some sessions => ∃ s', s.send m receiverID = some s' ∧ Queued (sessions.map (·, m)) s s'
    | none          => s.send m receiverID = none := by
  unfold send
  rcases s.sendTests_cases m receiverID with ⟨hrs, h⟩ | ⟨hrs, h⟩ | ⟨hrs, h⟩
  · rw [hrs, h]
    exact ⟨s, rfl, Queued.refl s⟩
  · rw [hrs, h]
    show ∃ s', _ ∧ Queued ((s.playerProfiles.map (·.session)).map (·, m)) s s'
    rw [List.map_map]
    exact queued_foldlM (fun p => (p.session, m)) s.playerProfiles s
  · rw [hrs, h]

/-! ## Exactly the addressees -/

/-- `send` accepts the message. -/
def Sendable (m : MessageData) : Prop :=
  m.contentType ≠ messageUndefined ∧ m.messageID ≠ messageIDNone

instance (m : MessageData) : Decidable (Sendable m) := inferInstanceAs (Decidable (_ ∧ _))

/-- The sessions that a receiver ID means: all of them, or that of the player with the ID. -/
def addressees (s : GameNetworkServer) (receiverID : PlayerID) : List SessionID :=
  if receiverID = idServer then []
  else if receiverID = idAllClients then s.playerProfiles.map (·.session)
  else (s.playerProfiles.filter fun p => p.playerID == receiverID).map (·.session)

/-- `send` goes through, and puts the message once at the end of each addressee's queue, and on no
    other. -/
def SendsExactly (s : GameNetworkServer) (m : MessageData) (receiverID : PlayerID) : Prop :=
  ∃ s', s.send m receiverID = some s' ∧ ∀ session, (s'.writes session).queue =
    (s.writes session).queue ++
      if Sendable m ∧ session ∈ s.addressees receiverID then [m] else []

/-- A message that `send` refuses changes no queue. -/
theorem sendsExactly_of_not (hm : ¬ Sendable m) : s.SendsExactly m receiverID := by
  have hreceivers : receivers s.playerProfiles m.contentType m.messageID receiverID = some [] := by
    unfold receivers
    rw [if_pos]
    by_contra hno
    rw [not_or, not_or] at hno
    exact hm ⟨hno.1, hno.2.1⟩
  have hsend := queued_send s m receiverID
  rw [hreceivers] at hsend
  obtain ⟨s', hs', hqueued⟩ := hsend
  refine ⟨s', hs', ?_⟩
  intro session
  rw [hqueued.queue, if_neg fun h => hm h.1]
  rfl

theorem sendsExactly_server : s.SendsExactly m idServer := by
  have hreceivers : receivers s.playerProfiles m.contentType m.messageID idServer = some [] := by
    unfold receivers
    exact if_pos (Or.inr (Or.inr rfl))
  have hsend := queued_send s m idServer
  rw [hreceivers] at hsend
  obtain ⟨s', hs', hqueued⟩ := hsend
  refine ⟨s', hs', ?_⟩
  intro session
  have hnone : s.addressees idServer = [] := if_pos rfl
  rw [hqueued.queue, hnone, if_neg fun h => by cases h.2]
  rfl

/-- A broadcast reaches everyone once, as the sessions are distinct. -/
theorem sendsExactly_allClients (hm : Sendable m) (hn : (s.playerProfiles.map (·.session)).Nodup) :
    s.SendsExactly m idAllClients := by
  have hreceivers : receivers s.playerProfiles m.contentType m.messageID idAllClients =
      some (s.playerProfiles.map (·.session)) := by
    rw [receivers_of hm.1 hm.2 (by decide)]
    exact if_pos rfl
  have hsend := queued_send s m idAllClients
  rw [hreceivers] at hsend
  obtain ⟨s', hs', hqueued⟩ := hsend
  refine ⟨s', hs', ?_⟩
  intro session
  have hall : s.addressees idAllClients = s.playerProfiles.map (·.session) := rfl
  rw [hqueued.queue_of_nodup hn, hall]
  simp [hm]

/-- A single player is never reached: it is reported as missing. -/
theorem not_sendsExactly_single (hm : Sendable m) (hserver : receiverID ≠ idServer)
    (hall : receiverID ≠ idAllClients) : ¬ s.SendsExactly m receiverID := by
  rintro ⟨s', hs', hqueue⟩
  have hsend := queued_send s m receiverID
  rw [receivers_of hm.1 hm.2 hserver, if_neg hall] at hsend
  cases hp : s.playerProfiles.find? fun p => p.playerID == receiverID with
  | none =>
      rw [hp] at hsend
      exact absurd (hs'.symm.trans hsend) (by simp)
  | some p =>
      rw [hp] at hsend
      obtain ⟨t, ht, hqueued⟩ := hsend
      obtain rfl : t = s' := Option.some.inj (ht.symm.trans hs')
      have hmem : p.session ∈ s.addressees receiverID := by
        unfold addressees
        rw [if_neg hserver, if_neg hall, List.mem_map]
        refine ⟨p, List.mem_filter.mpr ⟨List.mem_of_find?_eq_some hp, ?_⟩, rfl⟩
        exact List.find?_some (p := fun p : PlayerProfile => p.playerID == receiverID) hp
      have hlonger := hqueue p.session
      rw [if_pos ⟨hm, hmem⟩, hqueued.queue] at hlonger
      exact absurd hlonger (by simp)

/-- **`send` reaches exactly its addressees** when it refuses the message, when the message is for the
    server itself, and when it is for all clients. For a single player it never does. -/
theorem sends_exactly_iff (s : GameNetworkServer) (m : MessageData) (receiverID : PlayerID)
    (hn : (s.playerProfiles.map (·.session)).Nodup) :
    s.SendsExactly m receiverID ↔
      ¬ Sendable m ∨ receiverID = idServer ∨ receiverID = idAllClients := by
  constructor
  · intro h
    by_contra hno
    rw [not_or, not_or, not_not] at hno
    exact not_sendsExactly_single hno.1 hno.2.1 hno.2.2 h
  · rintro (hm | rfl | rfl)
    · exact sendsExactly_of_not hm
    · exact sendsExactly_server
    · by_cases hm : Sendable m
      · exact sendsExactly_allClients hm hn
      · exact sendsExactly_of_not hm

/-- A unit update for all of two players. -/
def update : MessageData := ⟨⟨3, messageGameUnit, 0, 16⟩, .zero, none⟩

/-- A server with two players. -/
def twoPlayers : GameNetworkServer :=
  { run with playerProfiles := [⟨idFirstClient, 7⟩, ⟨idFirstClient + 1, 8⟩] }

theorem sends_exactly_broadcast : twoPlayers.SendsExactly update idAllClients :=
  (sends_exactly_iff twoPlayers update idAllClients (by decide)).mpr (by decide)

/-- The first of the players is not reached, and a third one is dereferenced. -/
theorem single_player_unreached :
    (∃ s, twoPlayers.send update idFirstClient = some s ∧ (s.writes 7).queue = []) ∧
      ¬ twoPlayers.SendsExactly update idFirstClient ∧
      twoPlayers.send update (idFirstClient + 2) = none := by
  refine ⟨⟨twoPlayers, rfl, rfl⟩, ?_, rfl⟩
  rintro ⟨s, hs, hqueue⟩
  obtain rfl : twoPlayers = s := Option.some.inj hs
  have hlonger := hqueue 7
  rw [if_pos (by decide)] at hlonger
  exact absurd hlonger (by simp)

end GameNetworkServer

end Footscreen
