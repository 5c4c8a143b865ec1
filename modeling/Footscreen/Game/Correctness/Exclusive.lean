import Footscreen.Game.Correctness.Join

/-!
# `Game.Correctness.Exclusive` — when the two threads do not cut into each other

A broadcast that finds the session from its start sends it the units in order: everything in front of its
cursor has been sent (`Swept`). So runs in which the session is accepted while no broadcast is under way
are in turn (`inTurn_of_between`), and indices agree in them, however the acceptance and later broadcasts
interleave.
-/

namespace Footscreen

open FloatArith Lib

variable {F : Type}

theorem HasUnit.append {ms ns : List (GameMessage F)} {messageID : MessageID} (h : HasUnit ms messageID) :
    HasUnit (ms ++ ns) messageID := by
  obtain ⟨m, hm, hunit⟩ := h
  exact ⟨m, List.mem_append_left _ hm, hunit⟩

namespace GameLoop

variable {session session' : SessionID} {r r' : GameLoop F} {ms : List (ServerMessage F)}
  {order : List (MessageID × PlayerID)}

/-- `session` is accepted while no broadcast is under way. -/
def Between (session : SessionID) (r : GameLoop F) : Event F → Prop
  | .handleSessionAccepted session' => session' = session → r.broadcast = .idle
  | _ => True

/-- What a broadcast has passed, the session has been sent, if it has a profile. -/
structure Swept (session : SessionID) (order : List (MessageID × PlayerID)) (r : GameLoop F) : Prop where
  entity  : ∀ i, r.broadcast = .entity i → (∃ q ∈ r.server.playerProfiles, q.session = session) →
    ∀ e ∈ order.take i, HasUnit (sentTo r.server.outbox session) e.1
  sending : ∀ i m j, r.broadcast = .sending i m j →
    (∃ q ∈ r.server.playerProfiles, q.session = session) →
      ∀ e ∈ order.take i, HasUnit (sentTo r.server.outbox session) e.1
  passed  : ∀ i m j, r.broadcast = .sending i m j →
    (∃ q ∈ r.server.playerProfiles.take j, q.session = session) →
      ∀ e, order[i]? = some e → HasUnit (sentTo r.server.outbox session) e.1

/-- Nothing changes for the broadcast, and more may have been sent. -/
theorem Swept.keep (h : Swept session order r) (hbroadcast : r'.broadcast = r.broadcast)
    (hprofiles : r'.server.playerProfiles = r.server.playerProfiles)
    (hsent : ∃ ns, sentTo r'.server.outbox session = sentTo r.server.outbox session ++ ns) :
    Swept session order r' := by
  obtain ⟨ns, hns⟩ := hsent
  constructor
  · rw [hbroadcast, hprofiles, hns]
    exact fun i hi hq e he => (h.entity i hi hq e he).append
  · rw [hbroadcast, hprofiles, hns]
    exact fun i m j hi hq e he => (h.sending i m j hi hq e he).append
  · rw [hbroadcast, hprofiles, hns]
    exact fun i m j hi hq e he => (h.passed i m j hi hq e he).append

/-- No broadcast is under way. -/
theorem swept_idle (h : r.broadcast = .idle) : Swept session order r := by
  refine ⟨?_, ?_, ?_⟩
  · intro i hi
    rw [h] at hi
    cases hi
  · intro i m j hi
    rw [h] at hi
    cases hi
  · intro i m j hi
    rw [h] at hi
    cases hi

theorem sentTo_sendTo (s : GameServer F) (session session' : SessionID) (m : GameMessage F) :
    ∃ ns, sentTo (s.sendTo session' m).outbox session = sentTo s.outbox session ++ ns :=
  ⟨sentTo [(session', m)] session, sentTo_append _ _ _⟩

/-- Another session's profile changes nothing. -/
theorem Swept.addProfile (h : Swept session order r) (hother : session' ≠ session) :
    Swept session order
      { r with server := r.server.addProfile session', acceptance := .newPlayerID session' } := by
  have hold : ∀ {ps : List PlayerProfile} {p : PlayerProfile}, p.session = session' →
      (∃ q ∈ ps ++ [p], q.session = session) → ∃ q ∈ ps, q.session = session := by
    rintro ps p hp ⟨q, hq, hsession⟩
    rcases List.mem_append.mp hq with hq | hq
    · exact ⟨q, hq, hsession⟩
    · rw [List.mem_singleton.mp hq, hp] at hsession
      exact absurd hsession hother
  refine ⟨fun i hi hq => h.entity i hi (hold rfl hq), fun i m j hi hq => h.sending i m j hi (hold rfl hq),
    fun i m j hi hq => h.passed i m j hi ?_⟩
  obtain ⟨q, hq, hsession⟩ := hq
  rcases List.mem_append.mp ((List.take_append ..) ▸ hq) with hq | hq
  · exact ⟨q, hq, hsession⟩
  · have hnew := List.mem_singleton.mp (List.mem_of_mem_take hq)
    rw [hnew] at hsession
    exact absurd hsession hother

/-- A unit's message is one about the unit. -/
theorem hasUnit_of_stands {i : Nat} {m : ServerMessage F} {e : MessageID × PlayerID}
    {ms : List (GameMessage F)} (hm : Stands order i m) (he : order[i]? = some e)
    (hmem : m.toMessage ∈ ms) : HasUnit ms e.1 := by
  rw [← hm.1] at he
  cases m with
  | gameUnit messageID hid d =>
      cases he
      exact ⟨_, hmem, rfl, rfl⟩
  | gameObstacle messageID hid d => cases he
  | newPlayerID playerID         => cases he

/-- What a broadcast sends the session itself has been sent. -/
theorem hasUnit_sendTo {i : Nat} {m : ServerMessage F} {e : MessageID × PlayerID} (s : GameServer F)
    (hm : Stands order i m) (he : order[i]? = some e) :
    HasUnit (sentTo (s.sendTo session m.toMessage).outbox session) e.1 := by
  apply hasUnit_of_stands hm he
  show m.toMessage ∈ sentTo (s.outbox ++ [m.toMessage].map (session, ·)) session
  rw [sentTo_append, sentTo_map_self]
  exact List.mem_append_right _ (List.mem_singleton.mpr rfl)

/-- A step of a broadcast. -/
theorem Swept.broadcastNext (h : Swept session order r) (hordered : Ordered session order r ms)
    (hstep : BroadcastStep r r') : Swept session order r' := by
  cases hstep with
  | finish hb hg hm => exact swept_idle rfl
  | drop hb hg hm hdropped =>
      -- no entity is held back
      obtain ⟨g, lo, hi, hg', hnumbered, _, _⟩ := hordered.game
      obtain rfl := Option.some.inj (hg.symm.trans hg')
      have hmem := List.mem_of_getElem? hm
      exact (hdropped.elim (GameServer.contentType_of_mem_messages hmem)
        (hnumbered.messageID_ne hmem)).elim
  | begin hb hg hm hkept =>
      refine ⟨?_, ?_, ?_⟩
      · intro i hi
        cases hi
      · intro i m j hi hq
        cases hi
        exact h.entity _ hb hq
      · intro i m j hi hq
        -- no profile has had its turn
        cases hi
        obtain ⟨q, hq, _⟩ := hq
        cases hq
  | passed hb hnone =>
      -- every profile has had its turn
      have hall := List.take_of_length_le (List.getElem?_eq_none_iff.mp hnone)
      refine ⟨?_, ?_, ?_⟩
      · intro i hi hq e he
        cases hi
        rw [List.take_add_one, List.mem_append] at he
        rcases he with he | he
        · exact h.sending _ _ _ hb hq e he
        · apply h.passed _ _ _ hb
          · rw [hall]
            exact hq
          · exact Option.mem_toList.mp he
      · intro i m j hi
        cases hi
      · intro i m j hi
        cases hi
  | @send i j m q hb hq =>
      obtain ⟨sm, rfl, hstands⟩ := hordered.broadcast i m j hb
      obtain ⟨ns, hns⟩ := sentTo_sendTo r.server session q.session sm.toMessage
      refine ⟨?_, ?_, ?_⟩
      · intro i' hi
        cases hi
      · intro i' m' j' hi hq' e he
        cases hi
        show HasUnit (sentTo (r.server.sendTo q.session sm.toMessage).outbox session) e.1
        rw [hns]
        exact (h.sending i _ j hb hq' e he).append
      · intro i' m' j' hi hq' e he
        cases hi
        obtain ⟨q', hmem, hsession⟩ := hq'
        rw [List.take_add_one, List.mem_append] at hmem
        show HasUnit (sentTo (r.server.sendTo q.session sm.toMessage).outbox session) e.1
        rcases hmem with hmem | hmem
        · rw [hns]
          exact (h.passed i _ j hb ⟨q', hmem, hsession⟩ e he).append
        · -- the session's own turn
          obtain rfl := Option.some.inj ((Option.mem_toList.mp hmem).symm.trans hq)
          rw [hsession]
          exact hasUnit_sendTo r.server hstands he

/-- A step of an acceptance sends more, and leaves the broadcast alone. -/
theorem Swept.acceptNext (h : Swept session order r) (hstep : AcceptStep r r') :
    Swept session order r' := by
  cases hstep with
  | refused ha hp     => exact h.keep rfl rfl ⟨[], (List.append_nil _).symm⟩
  | newPlayerID ha hp => exact h.keep rfl rfl (sentTo_sendTo _ _ _ _)
  | finish ha hg hm   => exact h.keep rfl rfl ⟨[], (List.append_nil _).symm⟩
  | send ha hg hm     => exact h.keep rfl rfl (sentTo_sendTo _ _ _ _)

/-- A broadcast starts, and has passed nothing. -/
theorem swept_entity_zero : Swept session order { r with broadcast := .entity 0 } := by
  refine ⟨?_, ?_, ?_⟩
  · intro i hi _ e he
    cases hi
    cases he
  · intro i m j hi
    cases hi
  · intro i m j hi
    cases hi

variable [FloatArith F]

/-- One step, with the session accepted between two broadcasts. -/
theorem Swept.step {e : Event F} (h : Swept session order r) (hordered : Ordered session order r ms)
    (hbetween : Between session r e) (hstep : r.step e = some r') : Swept session order r' := by
  cases step_effect hordered.ready hstep with
  | mapGame hf          => exact h.keep rfl rfl ⟨[], (List.append_nil _).symm⟩
  | synchronize hb      => exact swept_entity_zero
  | broadcastNext hnext => exact h.broadcastNext hordered hnext
  | @handleSessionAccepted session' hnew =>
      by_cases hsession : session' = session
      · exact swept_idle (hbetween hsession)
      · exact h.addProfile hsession
  | acceptNext hnext => exact h.acceptNext hnext

omit [FloatArith F] in
/-- A broadcast that has swept the units in front of its cursor is in turn. -/
theorem Swept.inTurn {e : Event F} (h : Swept session order r) (hordered : Ordered session order r ms) :
    InTurn session r e := by
  unfold InTurn
  split
  · split
    · next i m j hb =>
        intro g hg p hp q hq hsession u hu howner v hv _
        obtain ⟨g', lo, hi, hg', hnumbered, rfl, _⟩ := hordered.game
        obtain rfl : g = g' := Option.some.inj (hg.symm.trans hg')
        have hmem : (v.messageID, v.owner) ∈ (owned g.gameUnits).take i := by
          unfold owned
          rw [← List.map_take]
          exact List.mem_map_of_mem hv
        exact h.sending i m j hb ⟨q, List.mem_of_getElem? hq, hsession⟩ _ hmem
    · trivial
  · trivial

/-- **Accepted between two broadcasts**, a session is sent its units in turn. -/
theorem inTurn_of_between {unset : Nat → Unset F} {levelNumber : Int} {clock : Nat → F}
    {events : List (Event F)} (h : Guarded step (Between session) (start unset levelNumber clock) events) :
    Guarded step (InTurn session) (start unset levelNumber clock) events := by
  obtain ⟨order, hstart⟩ := ordered_start unset levelNumber clock session
  refine h.of_invariant (I := fun r => Swept session order r ∧ ∃ ms, Ordered session order r ms)
    ?_ ?_ ⟨swept_idle rfl, [], hstart⟩
  · rintro r e ⟨hswept, ms, hordered⟩ _
    exact hswept.inTurn hordered
  · rintro r e r' hbetween ⟨hswept, ms, hordered⟩ hstep
    exact ⟨hswept.step hordered hbetween hstep, hordered.step (hswept.inTurn hordered) hstep⟩

end GameLoop

end Footscreen
