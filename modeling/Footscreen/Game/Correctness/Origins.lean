import Footscreen.Game.Correctness.Channel

/-!
# `Game.Correctness.Origins` — where an entry comes from

Apart from players' IDs, the server sends the messages of games that it has had (`sent_run`). Only a load
changes a game's entities (`entities_run`). So what has been sent of an entity that the current game does not
have comes from a game that a load has replaced (`superseded_of_sent`). `Converged` is what a client shows of
the server's game: its tables are the game's, behind entries that are `Stale` in this way.
-/

namespace Footscreen

open FloatArith Lib

variable {F : Type} {α : Type} {g g' : Game F} {m : GameMessage F}

/-! ## Messages as updates -/

/-- The entry of the table of units that a message updates. -/
def GameMessage.unitUpdate (m : GameMessage F) : Option (MessageID × GameUnitData F) :=
  match m.payload with
  | .gameUnit d => some (m.messageID, d)
  | _           => none

def GameMessage.obstacleUpdate (m : GameMessage F) : Option (MessageID × GameObstacleData F) :=
  match m.payload with
  | .gameObstacle d => some (m.messageID, d)
  | _               => none

theorem unitUpdates_toMessage (ms : List (ServerMessage F)) :
    (ms.map ServerMessage.toMessage).filterMap GameMessage.unitUpdate = unitUpdates ms := by
  rw [List.filterMap_map]
  refine List.filterMap_congr fun m _ => ?_
  cases m <;> rfl

theorem obstacleUpdates_toMessage (ms : List (ServerMessage F)) :
    (ms.map ServerMessage.toMessage).filterMap GameMessage.obstacleUpdate = obstacleUpdates ms := by
  rw [List.filterMap_map]
  refine List.filterMap_congr fun m _ => ?_
  cases m <;> rfl

/-- The games have the same entities, whose data may differ. -/
structure Game.SameEntities (g g' : Game F) : Prop where
  units     : g'.gameUnits.map (·.messageID) = g.gameUnits.map (·.messageID)
  obstacles : g'.gameObstacles.map (·.messageID) = g.gameObstacles.map (·.messageID)

theorem Game.SameEntities.refl (g : Game F) : g.SameEntities g := ⟨rfl, rfl⟩

theorem Game.SameEntities.trans {g'' : Game F} (h : g.SameEntities g') (h' : g'.SameEntities g'') :
    g.SameEntities g'' := ⟨h'.units.trans h.units, h'.obstacles.trans h.obstacles⟩

/-- A change of values leaves the entities. -/
theorem Game.Keeps.sameEntities {f : Game F → Game F} (hf : Game.Keeps f) (g : Game F) :
    g.SameEntities (f g) := by
  obtain ⟨hids, hos, -, -⟩ := hf g
  exact ⟨Game.messageIDs_of_identities hids, by rw [hos]⟩

/-- The updates `update` are those of the table `table`. -/
structure Updating (update : GameMessage F → Option (MessageID × α))
    (table : Game F → List (MessageID × α)) : Prop where
  announced : ∀ p, update (newPlayerIDMessage p) = none
  entry     : ∀ {g m e}, m ∈ g.messages → update m = some e → e ∈ table g
  keys      : ∀ {g g'}, g.SameEntities g' → (table g').map Prod.fst = (table g).map Prod.fst

theorem updating_units :
    Updating (F := F) GameMessage.unitUpdate Game.unitTable := by
  refine ⟨fun _ => rfl, ?_, ?_⟩
  · intro g m e hm he
    rcases List.mem_append.mp hm with hm | hm
    · obtain ⟨u, hu, rfl⟩ := List.mem_map.mp hm
      obtain rfl := Option.some.inj he
      exact List.mem_map_of_mem hu
    · obtain ⟨o, -, rfl⟩ := List.mem_map.mp hm
      cases he
  · intro g g' hsame
    rw [Game.unitTable_keys, Game.unitTable_keys, hsame.units]

theorem updating_obstacles :
    Updating (F := F) GameMessage.obstacleUpdate Game.obstacleTable := by
  refine ⟨fun _ => rfl, ?_, ?_⟩
  · intro g m e hm he
    rcases List.mem_append.mp hm with hm | hm
    · obtain ⟨u, -, rfl⟩ := List.mem_map.mp hm
      cases he
    · obtain ⟨o, ho, rfl⟩ := List.mem_map.mp hm
      obtain rfl := Option.some.inj he
      exact List.mem_map_of_mem ho
  · intro g g' hsame
    rw [Game.obstacleTable_keys, Game.obstacleTable_keys, hsame.obstacles]

namespace GameServer

variable [FloatArith F] {s s' t : GameServer F} {calls after : List (Event F)} {c : Event F}

/-! ## The games of a run -/

def Event.isLoad : Event F → Bool
  | .loadGame _ _ => true
  | _             => false

/-- In the run of the calls `calls` from `s`, the server had the game `g` before the last of them, `after`. -/
def Had (s : GameServer F) (calls after : List (Event F)) (g : Game F) : Prop :=
  ∃ before t, calls = before ++ after ∧ exec step s before = some t ∧ t.game = some g

/-- The server had the game `g`, and a load has replaced it. -/
def Superseded (s : GameServer F) (calls : List (Event F)) (g : Game F) : Prop :=
  ∃ after, s.Had calls after g ∧ ∃ c ∈ after, c.isLoad = true

theorem had_now (h : exec step s calls = some t) (hg : t.game = some g) : s.Had calls [] g :=
  ⟨calls, t, (List.append_nil _).symm, h, hg⟩

theorem Had.snoc (h : s.Had calls after g) (c : Event F) : s.Had (calls ++ [c]) (after ++ [c]) g := by
  obtain ⟨before, t, rfl, ht, hg⟩ := h
  exact ⟨before, t, List.append_assoc _ _ _, ht, hg⟩

/-- A call that is not a load leaves the entities. -/
theorem entities_step (h : s.Ready) (hc : c.Requests) (hload : c.isLoad = false)
    (hstep : s.step c = some s') (hg : s.game = some g) : ∃ g', s'.game = some g' ∧ g.SameEntities g' := by
  have hkeeps : ∀ {f : Game F → Game F}, Game.Keeps f →
      ∃ g', (s.mapGame f).game = some g' ∧ g.SameEntities g' :=
    fun hf => ⟨_, congrArg (Option.map _) hg, hf.sameEntities g⟩
  cases c with
  | loadGame _ _ => cases hload
  | startGame clock =>
      cases hstep
      exact hkeeps (Game.start_keeps clock)
  | proceed clock =>
      cases hstep
      exact hkeeps (Game.proceed_keeps clock)
  | synchronize =>
      obtain ⟨_, -, rfl⟩ := synchronize_inv hstep
      exact ⟨g, hg, .refl g⟩
  | handleSessionAccepted session =>
      obtain ⟨_, _, -, rfl⟩ := handleSessionAccepted_inv hstep
      exact ⟨g, hg, .refl g⟩
  | handleMessageReceived session m =>
      have hsome : (if (s.playerProfileBySession session).isSome
        then s.handleMessageReceived session m else none) = some s' := hstep
      split at hsome
      · obtain ⟨f, hf, rfl⟩ := h.request hc hsome
        exact hkeeps hf
      · cases hsome

/-- A run without loads leaves the entities. -/
theorem entities_run (h : s.Ready) (hrequests : ∀ c ∈ calls, c.Requests)
    (hloads : ∀ c ∈ calls, c.isLoad = false) (hrun : exec step s calls = some s')
    (hg : s.game = some g) : ∃ g', s'.game = some g' ∧ g.SameEntities g' := by
  have hguarded : Guarded step (fun _ c => c.Requests ∧ c.isLoad = false) s calls :=
    guarded_of_mem fun c hc _ => ⟨hrequests c hc, hloads c hc⟩
  refine (exec_guarded (I := fun s => s.Ready ∧ ∃ g', s.game = some g' ∧ g.SameEntities g') ?_
    ⟨h, g, hg, .refl g⟩ hguarded hrun).2
  rintro u c t ⟨hc, hload⟩ ⟨hready, g', hg', hsame⟩ hstep
  obtain ⟨g'', hg'', hsame'⟩ := entities_step hready hc hload hstep hg'
  exact ⟨ready_step hready hstep, g'', hg'', hsame.trans hsame'⟩

/-! ## What is sent -/

/-- A call takes back no message, and sends a player's ID and messages of the game. -/
theorem sent_step (h : s.Ready) (hc : c.Requests) (hstep : s.step c = some s') :
    ∃ xs, s'.outbox = s.outbox ++ xs ∧
      ∀ x ∈ xs, (∃ p, x.2 = newPlayerIDMessage p) ∨ ∃ g, s.game = some g ∧ x.2 ∈ g.messages := by
  have hnone : s'.outbox = s.outbox → ∃ xs, s'.outbox = s.outbox ++ xs ∧
      ∀ x ∈ xs, (∃ p, x.2 = newPlayerIDMessage p) ∨ ∃ g, s.game = some g ∧ x.2 ∈ g.messages :=
    fun heq => ⟨[], heq.trans (List.append_nil _).symm, fun x hx => absurd hx List.not_mem_nil⟩
  cases c with
  | loadGame levelNumber clock =>
      cases hstep
      obtain ⟨g, hreloaded⟩ := h.loadGame levelNumber clock
      exact hnone hreloaded.outbox
  | startGame clock =>
      cases hstep
      exact hnone rfl
  | proceed clock =>
      cases hstep
      exact hnone rfl
  | synchronize =>
      obtain ⟨g, hg, rfl⟩ := synchronize_inv hstep
      refine ⟨_, rfl, ?_⟩
      intro x hx
      obtain ⟨m, hm, hx⟩ := List.mem_flatMap.mp hx
      obtain ⟨p, -, rfl⟩ := List.mem_map.mp hx
      exact Or.inr ⟨g, hg, (List.mem_filter.mp hm).1⟩
  | handleSessionAccepted session =>
      obtain ⟨g, p, hg, rfl⟩ := handleSessionAccepted_inv hstep
      refine ⟨_, rfl, ?_⟩
      intro x hx
      rcases List.mem_cons.mp hx with rfl | hx
      · exact Or.inl ⟨p, rfl⟩
      · obtain ⟨m, hm, rfl⟩ := List.mem_map.mp hx
        exact Or.inr ⟨g, hg, hm⟩
  | handleMessageReceived session m =>
      have hsome : (if (s.playerProfileBySession session).isSome
        then s.handleMessageReceived session m else none) = some s' := hstep
      split at hsome
      · obtain ⟨f, -, rfl⟩ := h.request hc hsome
        exact hnone rfl
      · cases hsome

/-- **What a run has sent**: players' IDs, and messages of games that the server has had. -/
theorem sent_run (unset : Nat → Unset F) (hrequests : ∀ c ∈ calls, c.Requests)
    (h : exec step (run unset) calls = some s) {x : SessionID × GameMessage F} (hx : x ∈ s.outbox) :
    (∃ p, x.2 = newPlayerIDMessage p) ∨
      ∃ after g, (run unset).Had calls after g ∧ x.2 ∈ g.messages := by
  have hguarded : Guarded step (fun _ c => c.Requests) (run unset) calls :=
    guarded_of_mem fun c hc _ => hrequests c hc
  revert x
  refine exec_history (P := fun calls s => ∀ {x : SessionID × GameMessage F}, x ∈ s.outbox →
    (∃ p, x.2 = newPlayerIDMessage p) ∨ ∃ after g, (run unset).Had calls after g ∧ x.2 ∈ g.messages)
    (fun hx => absurd hx List.not_mem_nil) ?_ hguarded h
  intro calls u c t hu hc ih hstep x hx
  obtain ⟨xs, houtbox, hxs⟩ := sent_step (ready_run unset hu) hc hstep
  rw [houtbox] at hx
  rcases List.mem_append.mp hx with hx | hx
  · exact (ih hx).imp_right fun ⟨after, g, hhad, hm⟩ => ⟨_, g, hhad.snoc c, hm⟩
  · exact (hxs x hx).imp_right fun ⟨g, hg, hm⟩ => ⟨_, g, (had_now hu hg).snoc c, hm⟩

/-- What has been sent of an entity that the game does not have was the game's before a load. -/
theorem superseded_of_sent {update : GameMessage F → Option (MessageID × α)}
    {table : Game F → List (MessageID × α)} (hupdating : Updating update table)
    {unset : Nat → Unset F} (hrequests : ∀ c ∈ calls, c.Requests)
    (h : exec step (run unset) calls = some s) (hg : s.game = some g)
    (hm : m ∈ s.outbox.map Prod.snd) {e : MessageID × α} (he : update m = some e)
    (hother : e.1 ∉ (table g).map Prod.fst) : ∃ g', (run unset).Superseded calls g' ∧ e ∈ table g' := by
  obtain ⟨x, hx, rfl⟩ := List.mem_map.mp hm
  rcases sent_run unset hrequests h hx with ⟨p, hp⟩ | ⟨after, g', hhad, hmem⟩
  · rw [hp, hupdating.announced] at he
    cases he
  · have hentry := hupdating.entry hmem he
    refine ⟨g', ⟨after, hhad, ?_⟩, hentry⟩
    by_contra hno
    -- without a load, the game still has all its entities
    obtain ⟨before, t, rfl, ht, hg'⟩ := hhad
    rw [exec_append, ht] at h
    obtain ⟨g'', hg'', hsame⟩ := entities_run (ready_run unset ht)
      (fun c hc => hrequests c (List.mem_append_right _ hc))
      (fun c hc => Bool.eq_false_iff.mpr fun hload => hno ⟨c, hc, hload⟩) h hg'
    obtain rfl := Option.some.inj (hg.symm.trans hg'')
    rw [hupdating.keys hsame] at hother
    exact hother (List.mem_map_of_mem hentry)

/-! ## What is left of earlier levels -/

/-- What is left of an earlier level after the messages `ms`: the last of them for its ID, with the data of an
    entity of a game that a load has replaced. -/
structure Stale (s : GameServer F) (calls : List (Event F)) (ms : List (GameMessage F))
    (update : GameMessage F → Option (MessageID × α)) (table : Game F → List (MessageID × α))
    (e : MessageID × α) : Prop where
  last   : IsLast (ms.filterMap update) e
  origin : ∃ g, s.Superseded calls g ∧ e ∈ table g

/-- After the messages `ms`, the tables of `client` are those of `g`, the server's game, behind what is left
    of earlier levels. -/
structure Converged (s : GameServer F) (calls : List (Event F)) (ms : List (GameMessage F))
    (g client : Game F) (oldUnits : List (MessageID × GameUnitData F))
    (oldObstacles : List (MessageID × GameObstacleData F)) : Prop where
  units          : client.unitTable = oldUnits ++ g.unitTable
  obstacles      : client.obstacleTable = oldObstacles ++ g.obstacleTable
  otherUnits     : ∀ e ∈ oldUnits, e.1 ∉ g.unitTable.map Prod.fst
  otherObstacles : ∀ e ∈ oldObstacles, e.1 ∉ g.obstacleTable.map Prod.fst
  staleUnits     : ∀ e ∈ oldUnits, s.Stale calls ms GameMessage.unitUpdate Game.unitTable e
  staleObstacles : ∀ e ∈ oldObstacles,
    s.Stale calls ms GameMessage.obstacleUpdate Game.obstacleTable e

/-- What a replica of a table keeps in front of the current game's entries is stale. -/
theorem stale_of_replay {update : GameMessage F → Option (MessageID × α)}
    {table : Game F → List (MessageID × α)} (hupdating : Updating update table)
    {unset : Nat → Unset F} (hrequests : ∀ c ∈ calls, c.Requests)
    (h : exec step (run unset) calls = some s) (hg : s.game = some g) {ms : List (GameMessage F)}
    (hms : ∀ m ∈ ms, m ∈ s.outbox.map Prod.snd) {old : List (MessageID × α)}
    (hreplay : replay (ms.filterMap update) = old ++ table g)
    (hother : ∀ e ∈ old, e.1 ∉ (table g).map Prod.fst) :
    ∀ e ∈ old, (run unset).Stale calls ms update table e := by
  intro e he
  have hmem : e ∈ replay (ms.filterMap update) := hreplay ▸ List.mem_append_left _ he
  obtain ⟨m, hm, hupdate⟩ := List.mem_filterMap.mp (mem_of_mem_replay hmem)
  exact ⟨mem_replay_iff.mp hmem,
    superseded_of_sent hupdating hrequests h hg (hms m hm) hupdate (hother e he)⟩

end GameServer

end Footscreen
