import Footscreen.Game.GameLoop
import Footscreen.Game.Correctness.ServerRuns

/-!
# `Game.Correctness.Interleaving` — what a step of either thread does

The steps of the loop as relations, one constructor for each thing that can happen. `broadcastNext_iff` and
`acceptNext_iff` say that the two step functions do that and nothing else, `step_effect` the same of the
whole loop; the invariants are shown case by case on these. Left alone, the steps of a broadcast or of an
acceptance are the server's own (`broadcast_uninterrupted`, `acceptance_uninterrupted`).
-/

namespace Footscreen

open FloatArith Lib

variable {F : Type}

namespace GameLoop

variable {session : SessionID} {r r' : GameLoop F}

/-- `send` drops a message without a type, and one about nothing. -/
def Dropped (m : GameMessage F) : Prop :=
  m.contentType = messageUndefined ∨ m.messageID = messageIDNone

/-- A step of a broadcast. -/
inductive BroadcastStep (r : GameLoop F) : GameLoop F → Prop where
  /-- No entity is left. -/
  | finish {i : Nat} {g : Game F} (hb : r.broadcast = .entity i) (hg : r.server.game = some g)
      (hm : g.messages[i]? = none) : BroadcastStep r { r with broadcast := .idle }
  | drop {i : Nat} {g : Game F} {m : GameMessage F} (hb : r.broadcast = .entity i)
      (hg : r.server.game = some g) (hm : g.messages[i]? = some m) (hdropped : Dropped m) :
      BroadcastStep r { r with broadcast := .entity (i + 1) }
  | begin {i : Nat} {g : Game F} {m : GameMessage F} (hb : r.broadcast = .entity i)
      (hg : r.server.game = some g) (hm : g.messages[i]? = some m) (hkept : ¬ Dropped m) :
      BroadcastStep r { r with broadcast := .sending i m 0 }
  /-- No profile is left. -/
  | passed {i j : Nat} {m : GameMessage F} (hb : r.broadcast = .sending i m j)
      (hq : r.server.playerProfiles[j]? = none) :
      BroadcastStep r { r with broadcast := .entity (i + 1) }
  | send {i j : Nat} {m : GameMessage F} {q : PlayerProfile} (hb : r.broadcast = .sending i m j)
      (hq : r.server.playerProfiles[j]? = some q) :
      BroadcastStep r { r with
        server := r.server.sendTo q.session m, broadcast := .sending i m (j + 1) }

theorem broadcastNext_iff : r.broadcastNext = some r' ↔ BroadcastStep r r' := by
  unfold broadcastNext
  constructor
  · intro h
    cases hb : r.broadcast with
    | idle =>
        rw [hb] at h
        cases h
    | entity i =>
        rw [hb] at h
        obtain ⟨g, hg, h⟩ := Option.bind_eq_some_iff.mp h
        cases hm : g.messages[i]? with
        | none =>
            rw [hm] at h
            cases h
            exact .finish hb hg hm
        | some m =>
            rw [hm] at h
            dsimp only at h
            split at h
            · next hdropped =>
                cases h
                exact .drop hb hg hm hdropped
            · next hkept =>
                cases h
                exact .begin hb hg hm hkept
    | sending i m j =>
        rw [hb] at h
        dsimp only at h
        cases hq : r.server.playerProfiles[j]? with
        | none =>
            rw [hq] at h
            cases h
            exact .passed hb hq
        | some q =>
            rw [hq] at h
            cases h
            exact .send hb hq
  · intro h
    cases h with
    | finish hb hg hm => simp [hb, hg, hm]
    | drop hb hg hm hdropped =>
        simp only [hb, hg, hm, Option.bind_eq_bind, Option.bind_some]
        exact if_pos hdropped
    | begin hb hg hm hkept =>
        simp only [hb, hg, hm, Option.bind_eq_bind, Option.bind_some]
        exact if_neg hkept
    | passed hb hq => simp [hb, hq]
    | send hb hq => simp [hb, hq]

/-- A step of an acceptance. -/
inductive AcceptStep (r : GameLoop F) : GameLoop F → Prop where
  /-- The session has no profile. -/
  | refused {session : SessionID} (ha : r.acceptance = .newPlayerID session)
      (hp : r.server.playerProfileBySession session = none) :
      AcceptStep r { r with acceptance := .idle }
  | newPlayerID {session : SessionID} {p : PlayerProfile} (ha : r.acceptance = .newPlayerID session)
      (hp : r.server.playerProfileBySession session = some p) :
      AcceptStep r { r with server := r.server.sendTo session (newPlayerIDMessage p.playerID),
                            acceptance := .entity session 0 }
  /-- No entity is left. -/
  | finish {session : SessionID} {i : Nat} {g : Game F} (ha : r.acceptance = .entity session i)
      (hg : r.server.game = some g) (hm : g.messages[i]? = none) :
      AcceptStep r { r with acceptance := .idle }
  | send {session : SessionID} {i : Nat} {g : Game F} {m : GameMessage F}
      (ha : r.acceptance = .entity session i) (hg : r.server.game = some g)
      (hm : g.messages[i]? = some m) :
      AcceptStep r { r with
        server := r.server.sendTo session m, acceptance := .entity session (i + 1) }

theorem acceptNext_iff : r.acceptNext = some r' ↔ AcceptStep r r' := by
  unfold acceptNext
  constructor
  · intro h
    cases ha : r.acceptance with
    | idle =>
        rw [ha] at h
        cases h
    | newPlayerID session =>
        rw [ha] at h
        dsimp only at h
        cases hp : r.server.playerProfileBySession session with
        | none =>
            rw [hp] at h
            cases h
            exact .refused ha hp
        | some p =>
            rw [hp] at h
            cases h
            exact .newPlayerID ha hp
    | entity session i =>
        rw [ha] at h
        obtain ⟨g, hg, h⟩ := Option.bind_eq_some_iff.mp h
        cases hm : g.messages[i]? with
        | none =>
            rw [hm] at h
            cases h
            exact .finish ha hg hm
        | some m =>
            rw [hm] at h
            cases h
            exact .send ha hg hm
  · intro h
    cases h with
    | refused ha hp => simp [ha, hp]
    | newPlayerID ha hp => simp [ha, hp]
    | finish ha hg hm => simp [ha, hg, hm]
    | send ha hg hm => simp [ha, hg, hm]

/-- A step of the loop. -/
inductive StepEffect (r : GameLoop F) : Event F → GameLoop F → Prop where
  /-- A start, a frame or a request: the game keeps its entities. -/
  | mapGame {e : Event F} {f : Game F → Game F} (hf : Game.Keeps f) :
      StepEffect r e { r with server := r.server.mapGame f }
  | synchronize (hb : r.broadcast = .idle) :
      StepEffect r .synchronize { r with broadcast := .entity 0 }
  | broadcastNext {r' : GameLoop F} (h : BroadcastStep r r') : StepEffect r .broadcastNext r'
  | handleSessionAccepted {session : SessionID}
      (hnew : r.server.playerProfileBySession session = none) :
      StepEffect r (.handleSessionAccepted session)
        { r with server := r.server.addProfile session, acceptance := .newPlayerID session }
  | acceptNext {r' : GameLoop F} (h : AcceptStep r r') : StepEffect r .acceptNext r'

variable [FloatArith F]

theorem step_effect {e : Event F} (hready : r.server.Ready) (hstep : r.step e = some r') :
    StepEffect r e r' := by
  cases e with
  | startGame clock =>
      cases hstep
      exact .mapGame (Game.start_keeps clock)
  | proceed clock =>
      rw [GameLoop.step] at hstep
      split at hstep
      · cases hstep
        exact .mapGame (Game.proceed_keeps clock)
      · cases hstep
  | synchronize =>
      rw [GameLoop.step] at hstep
      split at hstep
      · next hb =>
          cases hstep
          exact .synchronize hb
      · cases hstep
  | broadcastNext => exact .broadcastNext (broadcastNext_iff.mp hstep)
  | handleSessionAccepted session =>
      rw [GameLoop.step] at hstep
      split at hstep
      · next hnew =>
          cases hstep
          exact .handleSessionAccepted hnew
      · cases hstep
  | acceptNext => exact .acceptNext (acceptNext_iff.mp hstep)
  | handleMessageReceived session m =>
      rw [GameLoop.step] at hstep
      split at hstep
      · split at hstep
        · next hm =>
            obtain ⟨s, hs, rfl⟩ := Option.map_eq_some_iff.mp hstep
            obtain ⟨f, hf, rfl⟩ := hready.request hm hs
            exact .mapGame hf
        · cases hstep
      · cases hstep

/-! ## Uninterrupted -/

/-- The first of some steps of a broadcast. -/
theorem BroadcastStep.exec {r'' : GameLoop F} {k : Nat} (h : BroadcastStep r r')
    (hk : Lib.exec step r' (List.replicate k .broadcastNext) = some r'') :
    Lib.exec step r (List.replicate (k + 1) .broadcastNext) = some r'' := by
  have hstep : r.step .broadcastNext = some r' := broadcastNext_iff.mpr h
  rw [List.replicate_succ, exec_cons, hstep]
  exact hk

/-- The first of some steps of an acceptance. -/
theorem AcceptStep.exec {r'' : GameLoop F} {k : Nat} (h : AcceptStep r r')
    (hk : Lib.exec step r' (List.replicate k .acceptNext) = some r'') :
    Lib.exec step r (List.replicate (k + 1) .acceptNext) = some r'' := by
  have hstep : r.step .acceptNext = some r' := acceptNext_iff.mpr h
  rw [List.replicate_succ, exec_cons, hstep]
  exact hk

/-- One message goes to the remaining profiles. -/
theorem broadcast_sending {i j : Nat} {m : GameMessage F} {ps : List PlayerProfile}
    (hps : r.server.playerProfiles.drop j = ps) (hb : r.broadcast = .sending i m j) :
    ∃ k, exec step r (List.replicate k .broadcastNext) = some { r with
      server := { r.server with outbox := r.server.outbox ++ ps.map fun p => (p.session, m) },
      broadcast := .entity (i + 1) } := by
  induction ps generalizing r j with
  | nil =>
      refine ⟨1, (BroadcastStep.passed hb (getElem?_of_drop_nil hps)).exec ?_⟩
      rw [List.replicate_zero, exec_nil, List.map_nil, List.append_nil]
  | cons p ps ih =>
      obtain ⟨hp, hdrop⟩ := getElem?_of_drop hps
      obtain ⟨k, hk⟩ := ih (r := { r with
        server := r.server.sendTo p.session m, broadcast := .sending i m (j + 1) }) hdrop rfl
      refine ⟨k + 1, (BroadcastStep.send hb hp).exec ?_⟩
      rw [hk, List.map_cons, List.append_cons]
      rfl

/-- The remaining entities go to every profile. -/
theorem broadcast_entity {i : Nat} {g : Game F} {rest : List (GameMessage F)}
    (hg : r.server.game = some g) (hrest : g.messages.drop i = rest) (hb : r.broadcast = .entity i) :
    ∃ k, exec step r (List.replicate k .broadcastNext) = some { r with
      server := { r.server with outbox := r.server.outbox ++
        (rest.filter fun m => m.messageID != messageIDNone).flatMap fun m =>
          r.server.playerProfiles.map fun p => (p.session, m) },
      broadcast := .idle } := by
  induction rest generalizing r i with
  | nil =>
      refine ⟨1, (BroadcastStep.finish hb hg (getElem?_of_drop_nil hrest)).exec ?_⟩
      rw [List.replicate_zero, exec_nil, List.filter_nil, List.flatMap_nil, List.append_nil]
  | cons m rest ih =>
      obtain ⟨hm, hdrop⟩ := getElem?_of_drop hrest
      have hct := GameServer.contentType_of_mem_messages (List.mem_of_getElem? hm)
      by_cases hid : m.messageID = messageIDNone
      · obtain ⟨k, hk⟩ := ih (r := { r with broadcast := .entity (i + 1) }) hg hdrop rfl
        refine ⟨k + 1, (BroadcastStep.drop hb hg hm (Or.inr hid)).exec ?_⟩
        rw [hk, List.filter_cons_of_neg (by simp [hid])]
      · obtain ⟨k, hk⟩ := broadcast_sending (r := { r with broadcast := .sending i m 0 })
          List.drop_zero rfl
        obtain ⟨k', hk'⟩ := ih (r := { r with
          server := { r.server with outbox := r.server.outbox ++
            r.server.playerProfiles.map fun p => (p.session, m) },
          broadcast := .entity (i + 1) }) hg hdrop rfl
        refine ⟨k + k' + 1, (BroadcastStep.begin hb hg hm fun h => h.elim hct hid).exec ?_⟩
        rw [List.replicate_add, exec_append_of hk hk', List.filter_cons_of_pos (by simp [hid]),
          List.flatMap_cons, List.append_assoc]

/-- **A broadcast** that nothing interrupts is `synchronize`. -/
theorem broadcast_uninterrupted {g : Game F} (hg : r.server.game = some g)
    (hidle : r.broadcast = .idle) :
    ∃ k s, r.server.synchronize = some s ∧
      exec step r (.synchronize :: List.replicate k .broadcastNext) = some { r with server := s } := by
  have hstep : r.step .synchronize = some { r with broadcast := .entity 0 } := by
    rw [GameLoop.step, hidle]
  obtain ⟨k, hk⟩ := broadcast_entity (r := { r with broadcast := .entity 0 }) hg List.drop_zero rfl
  refine ⟨k, _, GameServer.synchronize_eq hg, ?_⟩
  rw [exec_cons, hstep, Option.bind_some, hk, ← hidle]
  rfl

/-- The remaining entities go to the accepted session. -/
theorem accept_entity {i : Nat} {g : Game F} {rest : List (GameMessage F)}
    (hg : r.server.game = some g) (hrest : g.messages.drop i = rest)
    (ha : r.acceptance = .entity session i) :
    exec step r (List.replicate (rest.length + 1) .acceptNext) = some { r with
      server := { r.server with outbox := r.server.outbox ++ rest.map (session, ·) },
      acceptance := .idle } := by
  induction rest generalizing r i with
  | nil =>
      refine (AcceptStep.finish ha hg (getElem?_of_drop_nil hrest)).exec ?_
      rw [List.length_nil, List.replicate_zero, exec_nil, List.map_nil, List.append_nil]
  | cons m rest ih =>
      obtain ⟨hm, hdrop⟩ := getElem?_of_drop hrest
      have hrun := ih (r := { r with
        server := r.server.sendTo session m, acceptance := .entity session (i + 1) }) hg hdrop rfl
      apply (AcceptStep.send ha hg hm).exec
      rw [List.length_cons, hrun, List.map_cons, List.append_cons]
      rfl

/-- **An acceptance** that nothing interrupts is `handleSessionAccepted`. -/
theorem acceptance_uninterrupted {g : Game F} (hg : r.server.game = some g)
    (hidle : r.acceptance = .idle) (hnew : r.server.playerProfileBySession session = none) :
    ∃ k s, r.server.handleSessionAccepted session = some s ∧
      exec step r (.handleSessionAccepted session :: List.replicate k .acceptNext) =
        some { r with server := s } := by
  obtain ⟨p, hp, haccepted⟩ := GameServer.handleSessionAccepted_eq session hg
  have hstep : r.step (.handleSessionAccepted session) = some { r with
      server := r.server.addProfile session, acceptance := .newPlayerID session } := by
    rw [GameLoop.step, hidle, hnew]
  have hrun := accept_entity (r := { r with
    server := (r.server.addProfile session).sendTo session (newPlayerIDMessage p.playerID),
    acceptance := .entity session 0 }) hg List.drop_zero rfl
  have hnext : AcceptStep { r with
      server := r.server.addProfile session, acceptance := .newPlayerID session } _ :=
    .newPlayerID rfl hp
  refine ⟨g.messages.length + 1 + 1, _, haccepted, ?_⟩
  rw [exec_cons, hstep, Option.bind_some, hnext.exec hrun, ← hidle, List.append_cons]
  rfl

end GameLoop

end Footscreen
