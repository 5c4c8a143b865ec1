import Footscreen.Game.Correctness.Dispatch

/-!
# `Game.Correctness.Rounds` — what frames and loads leave of a game

A frame moves, separates and catches units; it creates and destroys none and changes no owner
(`proceed_keeps`). A load creates the units and obstacles of a level with consecutive message IDs
(`idsFrom`), and keeps the registry tracked (`load_loaded`).
-/

namespace Footscreen

open FloatArith

variable {F : Type}

/-! ## Identities -/

/-- What a frame never changes of a unit: its message ID, its address and its owner. -/
def GameUnit.identity (u : GameUnit F) : (MessageID × Nat) × PlayerID :=
  (u.key, u.gameUnitData.owner)

namespace GameUnit

theorem identity_ite {p : Prop} [Decidable p] {u v w : GameUnit F} (hu : u.identity = w.identity)
    (hv : v.identity = w.identity) : (if p then u else v).identity = w.identity := by
  split
  · exact hu
  · exact hv

variable [FloatArith F]

@[simp] theorem move_identity (u : GameUnit F) (dt : F) : (u.move dt).identity = u.identity := by
  unfold move
  exact identity_ite rfl rfl

@[simp] theorem reflectOnWalls_identity (u : GameUnit F) : u.reflectOnWalls.identity = u.identity := by
  unfold reflectOnWalls
  dsimp only
  -- one wall after the other, the last one first
  refine (identity_ite ?_ rfl).trans ((identity_ite ?_ rfl).trans
    ((identity_ite ?_ rfl).trans (identity_ite ?_ rfl)))
  all_goals rfl

@[simp] theorem separateFrom_identity (u : GameUnit F) (o : GameObstacle F) :
    (u.separateFrom o).identity = u.identity := by
  unfold separateFrom
  exact identity_ite rfl rfl

end GameUnit

namespace Game

variable {g g' : Game F} {c c' : Context F} {base : MessageHandlers Callback}
  {es : List (MessageID × Nat)}

/-- The identities of a game's units, in order. -/
def identities (us : List (GameUnit F)) : List ((MessageID × Nat) × PlayerID) :=
  us.map GameUnit.identity

theorem modify_identities (us : List (GameUnit F)) (i : Nat) {f : GameUnit F → GameUnit F}
    (hf : ∀ u, (f u).identity = u.identity) : identities (us.modify i f) = identities us := by
  unfold identities
  refine List.ext_getElem? ?_
  intro j
  rw [List.getElem?_map, List.getElem?_map, List.getElem?_modify]
  cases us[j]? with
  | none   => rfl
  | some u =>
      by_cases hij : i = j
      · simp [hij, hf]
      · simp [hij]

/-- A loop whose body keeps the identities keeps them. -/
theorem foldl_identities {β : Type} (f : List (GameUnit F) → β → List (GameUnit F))
    (hf : ∀ us b, identities (f us b) = identities us) (bs : List β) (us : List (GameUnit F)) :
    identities (bs.foldl f us) = identities us := by
  induction bs generalizing us with
  | nil => rfl
  | cons b bs ih => rw [List.foldl_cons, ih, hf]

/-- Equal identities are equal keys. -/
theorem keys_of_identities (hus : identities g'.gameUnits = identities g.gameUnits)
    (hos : g'.gameObstacles = g.gameObstacles) : g'.keys = g.keys := by
  have hkeys : g'.gameUnits.map (·.key) = g.gameUnits.map (·.key) := by
    have hfst := congrArg (List.map Prod.fst) hus
    unfold identities at hfst
    rw [List.map_map, List.map_map] at hfst
    exact hfst
  unfold keys
  rw [hkeys, hos]

theorem messageIDs_of_identities {us us' : List (GameUnit F)} (h : identities us' = identities us) :
    us'.map (·.messageID) = us.map (·.messageID) := by
  have hmap := congrArg (List.map fun i => i.1.1) h
  unfold identities at hmap
  rw [List.map_map, List.map_map] at hmap
  exact hmap

/-- What an index stands for depends on the units' identities, and on the game's own player. -/
theorem unitByIndex_identity (hids : identities g'.gameUnits = identities g.gameUnits)
    (hown : g'.ownPlayerID = g.ownPlayerID) (playerID : PlayerID) (index : UInt8) :
    (g'.unitByIndex playerID index).map GameUnit.identity =
      (g.unitByIndex playerID index).map GameUnit.identity := by
  have hloop : ∀ (us us' : List (GameUnit F)) (i : UInt8), identities us' = identities us →
      (unitByIndexFrom playerID index i us').map GameUnit.identity =
        (unitByIndexFrom playerID index i us).map GameUnit.identity := by
    intro us
    induction us with
    | nil =>
        intro us' i h
        rw [List.map_eq_nil_iff.mp h]
    | cons u us ih =>
        intro us' i h
        cases us' with
        | nil => cases h
        | cons u' us' =>
            obtain ⟨hu, hus⟩ := List.cons.inj h
            have howner : u'.gameUnitData.owner = u.gameUnitData.owner := congrArg Prod.snd hu
            rw [unitByIndexFrom, unitByIndexFrom, howner]
            split
            · exact ih us' i hus
            · split
              · exact congrArg some hu
              · exact ih us' (i + 1) hus
  unfold unitByIndex
  rw [hown]
  split
  · rfl
  · exact hloop _ _ 0 hids

variable [FloatArith F]

theorem moveUnits_identities (dt durationTimer : F) (clock : Nat → F) (i : Nat)
    (us : List (GameUnit F)) (last : F) :
    identities (moveUnits dt durationTimer clock i us last).1 = identities us := by
  unfold identities
  induction us generalizing i last with
  | nil => rfl
  | cons u us ih =>
      unfold moveUnits
      dsimp only
      split
      · rw [List.map_cons, List.map_cons, ih]
        show _ :: _ = _
        congr 1
        exact (GameUnit.reflectOnWalls_identity _).trans (GameUnit.move_identity u dt)
      · rw [List.map_cons, List.map_cons, ih]
        congr 1
        exact (GameUnit.reflectOnWalls_identity _).trans (GameUnit.move_identity u dt)

theorem separateUnit_identity (obstacles : List (GameObstacle F)) (u : GameUnit F) :
    (separateUnit obstacles u).identity = u.identity := by
  unfold separateUnit
  induction obstacles generalizing u with
  | nil => rfl
  | cons o os ih =>
      rw [List.foldl_cons, ih]
      exact GameUnit.identity_ite (GameUnit.separateFrom_identity u o) rfl

theorem collideUnits_identities (us : List (GameUnit F)) (i j : Nat) :
    identities (collideUnits us i j) = identities us := by
  unfold collideUnits
  split
  · next u v _ _ =>
      split
      · rfl
      · dsimp only
        have hsetLiving : ∀ u : GameUnit F, (u.setLiving false).identity = u.identity := fun _ => rfl
        -- the first of the two may die, then the second
        have hi : identities (if (!u.isHunting) = true then us.modify i (·.setLiving false) else us) =
            identities us := by
          split
          · exact modify_identities us i hsetLiving
          · rfl
        split
        · exact (modify_identities _ j hsetLiving).trans hi
        · exact hi
  · rfl

theorem catchUnits_identities (us : List (GameUnit F)) :
    identities (catchUnits us) = identities us := by
  unfold catchUnits
  refine foldl_identities _ ?_ _ us
  intro us' i
  exact foldl_identities _ (fun us'' j => collideUnits_identities us'' i j) _ us'

/-- A change of a game that keeps every unit, its ID and its owner, and every obstacle. -/
def Keeps (f : Game F → Game F) : Prop :=
  ∀ g, identities (f g).gameUnits = identities g.gameUnits ∧ (f g).gameObstacles = g.gameObstacles ∧
    (f g).address = g.address ∧ (f g).ownPlayerID = g.ownPlayerID

omit [FloatArith F] in
/-- A change of one unit that keeps its identity. -/
theorem modifyUnit_keeps (address : Nat) {f : GameUnit F → GameUnit F}
    (hf : ∀ u, (f u).identity = u.identity) : Keeps fun g => g.modifyUnit address f := by
  intro g
  refine ⟨?_, rfl, rfl, rfl⟩
  unfold identities modifyUnit
  rw [List.map_map]
  apply List.map_congr_left
  intro u _
  exact GameUnit.identity_ite (hf u) rfl

omit [FloatArith F] in
theorem start_keeps (clock : Nat → F) : Keeps fun g => g.start clock :=
  fun _ => ⟨rfl, rfl, rfl, rfl⟩

/-- **A frame** moves, separates and catches, and keeps every entity. -/
theorem proceed_keeps (clock : Nat → F) : Keeps fun g => (g.proceed clock).1 := by
  intro g
  dsimp only
  unfold proceed
  dsimp only
  split
  · exact ⟨rfl, rfl, rfl, rfl⟩
  · split
    · exact ⟨rfl, rfl, rfl, rfl⟩
    · refine ⟨?_, rfl, rfl, rfl⟩
      rw [catchUnits_identities, identities, List.map_map]
      refine (List.map_congr_left fun u _ => separateUnit_identity _ u).trans ?_
      exact moveUnits_identities _ _ _ _ _ _

/-! ## Loading -/

/-- Consecutive message IDs, as the counter hands them out. -/
def idsFrom (messageID : MessageID) : Nat → List MessageID
  | 0     => []
  | n + 1 => messageID :: idsFrom (messageID + 1) n

/-- Where the counter is after `n` IDs. -/
def idAfter (messageID : MessageID) : Nat → MessageID
  | 0     => messageID
  | n + 1 => idAfter (messageID + 1) n

/-- What the loops of `load` do: `n` entities have been added behind the registry's handlers `base`. -/
structure Loaded (base : MessageHandlers Callback) (s s' : Game F × Context F) (n : Nat) : Prop where
  tracked     : ∀ es, Tracked s.1 s.2 base es → ∃ es', Tracked s'.1 s'.2 base es'
  address     : s'.1.address = s.1.address
  ownPlayerID : s'.1.ownPlayerID = s.1.ownPlayerID
  counter     : s'.2.nextMessageID = idAfter s.2.nextMessageID n
  nextAddress : s.2.nextAddress ≤ s'.2.nextAddress

omit [FloatArith F] in
theorem Loaded.refl (base : MessageHandlers Callback) (s : Game F × Context F) :
    Loaded base s s 0 :=
  ⟨fun es h => ⟨es, h⟩, rfl, rfl, rfl, Nat.le_refl _⟩

omit [FloatArith F] in
/-- One entity, then the rest of the loop. -/
theorem Loaded.cons {s s' s'' : Game F × Context F} {n : Nat} (h : Loaded base s s' 1)
    (hrest : Loaded base s' s'' n) : Loaded base s s'' (n + 1) := by
  refine ⟨?_, hrest.address.trans h.address, hrest.ownPlayerID.trans h.ownPlayerID, ?_,
    Nat.le_trans h.nextAddress hrest.nextAddress⟩
  · intro es hes
    obtain ⟨es', hes'⟩ := h.tracked es hes
    exact hrest.tracked es' hes'
  · rw [hrest.counter, h.counter]
    rfl

omit [FloatArith F] in
/-- An entity with the next message ID at the next address. -/
theorem Loaded.one (hkeys : g'.keys.Perm (g.keys ++ [(c.nextMessageID, c.nextAddress)]))
    (hhandlers : c'.messageHandlers = (c.setMessageID c.nextAddress c.nextMessageID).messageHandlers)
    (haddress : c'.nextAddress = c.nextAddress + 1) (hcounter : c'.nextMessageID = c.nextMessageID + 1)
    (hgame : g'.address = g.address) (hown : g'.ownPlayerID = g.ownPlayerID) :
    Loaded base (g, c) (g', c') 1 :=
  ⟨fun _ hes => hes.add hkeys hhandlers haddress, hgame, hown, hcounter,
    by rw [haddress]; exact Nat.le_succ _⟩

omit [FloatArith F] in
/-- The context after a new object has generated its message ID. -/
theorem generate_context (c : Context F) :
    let c' := { c.allocate with nextMessageID := c.nextMessageID + 1 }.setMessageID
      c.nextAddress c.nextMessageID
    c'.messageHandlers = (c.setMessageID c.nextAddress c.nextMessageID).messageHandlers ∧
      c'.nextAddress = c.nextAddress + 1 ∧ c'.nextMessageID = c.nextMessageID + 1 := by
  unfold Context.setMessageID
  split
  · exact ⟨rfl, rfl, rfl⟩
  · exact ⟨rfl, rfl, rfl⟩

theorem loadUnits_loaded (base : MessageHandlers Callback) (owner : PlayerID) (isHunting : Bool)
    (ps : List Point) (number : UInt8) (s : Game F × Context F) :
    Loaded base s (loadUnits owner isHunting ps number s) ps.length ∧
      (loadUnits owner isHunting ps number s).1.gameUnits.map (·.messageID) =
        s.1.gameUnits.map (·.messageID) ++ idsFrom s.2.nextMessageID ps.length ∧
      (loadUnits owner isHunting ps number s).1.gameObstacles = s.1.gameObstacles := by
  induction ps generalizing number s with
  | nil => exact ⟨Loaded.refl base s, (List.append_nil _).symm, rfl⟩
  | cons p ps ih =>
      obtain ⟨g, c⟩ := s
      obtain ⟨hhandlers, haddress, hcounter⟩ := generate_context c
      -- the body of the loop makes this game and context, and the loop goes on from there
      obtain ⟨hloaded, hids, hos⟩ := ih (number + 1)
        ({ g with gameUnits := g.gameUnits ++
            [(((((GameUnit.new c).1.generateMessageID (GameUnit.new c).2).1.setNumber number).setOwner
              owner).setPosition (ofInt p.x) (ofInt p.y)).setHunting isHunting] },
         ((GameUnit.new c).1.generateMessageID (GameUnit.new c).2).2)
      refine ⟨Loaded.cons ?_ hloaded, ?_, hos⟩
      · exact Loaded.one (keys_add_unit g _) hhandlers haddress hcounter rfl rfl
      · refine hids.trans ?_
        have hnext : ((GameUnit.new c).1.generateMessageID (GameUnit.new c).2).2.nextMessageID =
            c.nextMessageID + 1 := hcounter
        rw [List.map_append, List.append_assoc, hnext]
        rfl

theorem loadObstacles_loaded (base : MessageHandlers Callback) (ps : List (Point × Int))
    (s : Game F × Context F) :
    Loaded base s (loadObstacles ps s) ps.length ∧
      (loadObstacles ps s).1.gameObstacles.map (·.messageID) =
        s.1.gameObstacles.map (·.messageID) ++ idsFrom s.2.nextMessageID ps.length ∧
      (loadObstacles ps s).1.gameUnits = s.1.gameUnits := by
  induction ps generalizing s with
  | nil => exact ⟨Loaded.refl base s, (List.append_nil _).symm, rfl⟩
  | cons p ps ih =>
      obtain ⟨g, c⟩ := s
      obtain ⟨hhandlers, haddress, hcounter⟩ := generate_context c
      obtain ⟨hloaded, hids, hus⟩ := ih
        ({ g with gameObstacles := g.gameObstacles ++
            [(((GameObstacle.new c).1.generateMessageID (GameObstacle.new c).2).1.setPosition
              (ofInt p.1.x) (ofInt p.1.y)).setRadius (ofInt p.2)] },
         ((GameObstacle.new c).1.generateMessageID (GameObstacle.new c).2).2)
      refine ⟨Loaded.cons ?_ hloaded, ?_, hus⟩
      · exact Loaded.one (.of_eq (keys_add_obstacle g _)) hhandlers haddress hcounter rfl rfl
      · refine hids.trans ?_
        have hnext : ((GameObstacle.new c).1.generateMessageID
            (GameObstacle.new c).2).2.nextMessageID = c.nextMessageID + 1 := hcounter
        rw [List.map_append, List.append_assoc, hnext]
        rfl

/-! ### A whole level -/

/-- How many units, and how many obstacles, a level has. -/
def Level.unitCount (l : Level) : Nat := l.unitPositionsPlayer1.length + l.unitPositionsPlayer2.length

def Level.obstacleCount (l : Level) : Nat := (l.obstaclePositions.zip l.obstacleRadii).length

def Level.entityCount (l : Level) : Nat := l.unitCount + l.obstacleCount

/-- Every level has an obstacle, and few entities. -/
theorem level_counts (levelNumber : Int) :
    0 < (level levelNumber).obstacleCount ∧ (level levelNumber).entityCount ≤ 18 := by
  unfold level
  split
  · decide
  · split
    · decide
    · split
      · decide
      · decide

theorem idAfter_add (messageID : MessageID) (n k : Nat) :
    idAfter messageID (n + k) = idAfter (idAfter messageID n) k := by
  induction n generalizing messageID with
  | zero => rw [Nat.zero_add]; rfl
  | succ n ih =>
      rw [Nat.succ_add]
      exact ih (messageID + 1)

theorem idsFrom_add (messageID : MessageID) (n k : Nat) :
    idsFrom messageID (n + k) = idsFrom messageID n ++ idsFrom (idAfter messageID n) k := by
  induction n generalizing messageID with
  | zero => rw [Nat.zero_add]; rfl
  | succ n ih =>
      rw [Nat.succ_add]
      exact congrArg (messageID :: ·) (ih (messageID + 1))

omit [FloatArith F] in
theorem Loaded.trans {s s' s'' : Game F × Context F} {n k : Nat} (h : Loaded base s s' n)
    (hrest : Loaded base s' s'' k) : Loaded base s s'' (n + k) := by
  refine ⟨?_, hrest.address.trans h.address, hrest.ownPlayerID.trans h.ownPlayerID, ?_,
    Nat.le_trans h.nextAddress hrest.nextAddress⟩
  · intro es hes
    obtain ⟨es', hes'⟩ := h.tracked es hes
    exact hrest.tracked es' hes'
  · rw [hrest.counter, h.counter, idAfter_add]

/-- **Loading a level** into an empty game: its units have consecutive IDs, and then its obstacles. -/
theorem load_loaded (base : MessageHandlers Callback) (levelNumber : Int) (clock : Nat → F)
    (hus : g.gameUnits = []) (hos : g.gameObstacles = []) :
    let l := level levelNumber
    Loaded base (g, c) (g.load c levelNumber clock) l.entityCount ∧
      (g.load c levelNumber clock).1.gameUnits.map (·.messageID) =
        idsFrom c.nextMessageID l.unitCount ∧
      (g.load c levelNumber clock).1.gameObstacles.map (·.messageID) =
        idsFrom (idAfter c.nextMessageID l.unitCount) l.obstacleCount := by
  intro l
  have hreset : g.reset c = (g, c) := by
    unfold reset
    rw [hus, hos]
    obtain ⟨⟩ := g
    cases hus
    cases hos
    rfl
  obtain ⟨h₁, hids₁, hos₁⟩ :=
    loadUnits_loaded base idFirstClient false l.unitPositionsPlayer1 1 (g, c)
  -- the three loops, one after the other: what each adds is known, and the states may be forgotten
  generalize hs₁ : loadUnits idFirstClient false l.unitPositionsPlayer1 1 (g, c) = s₁ at h₁ hids₁ hos₁
  obtain ⟨h₂, hids₂, hos₂⟩ :=
    loadUnits_loaded base (idFirstClient + 1) true l.unitPositionsPlayer2 1 s₁
  generalize hs₂ : loadUnits (idFirstClient + 1) true l.unitPositionsPlayer2 1 s₁ = s₂
    at h₂ hids₂ hos₂
  obtain ⟨h₃, hids₃, hus₃⟩ :=
    loadObstacles_loaded base (l.obstaclePositions.zip l.obstacleRadii) s₂
  generalize hs₃ : loadObstacles (l.obstaclePositions.zip l.obstacleRadii) s₂ = s₃ at h₃ hids₃ hus₃
  have hload : g.load c levelNumber clock = ({ s₃.1 with timer := clock 0 }, s₃.2) := by
    show (fun s => (({ (loadObstacles _ (loadUnits _ _ _ _ (loadUnits _ _ _ _ s))).1 with
      timer := clock 0 } : Game F), (loadObstacles _ (loadUnits _ _ _ _ (loadUnits _ _ _ _ s))).2))
      (g.reset c) = _
    rw [hreset, ← hs₃, ← hs₂, ← hs₁]
  have h := (h₁.trans h₂).trans h₃
  rw [hload]
  refine ⟨⟨?_, h.address, h.ownPlayerID, h.counter, h.nextAddress⟩, ?_, ?_⟩
  · intro es hes
    obtain ⟨es', hes'⟩ := h.tracked es hes
    exact ⟨es', hes'.of_keys rfl⟩
  · show s₃.1.gameUnits.map (·.messageID) = _
    rw [hus₃, hids₂, hids₁, hus, h₁.counter]
    exact (idsFrom_add _ _ _).symm
  · show s₃.1.gameObstacles.map (·.messageID) = _
    rw [hids₃, hos₂, hos₁, hos, h₂.counter, h₁.counter, ← idAfter_add]
    rfl

/-! ### Destroying a level -/

omit [FloatArith F] in
/-- The handlers that are left when messages with the IDs `ids` have been destroyed. -/
theorem release_handlers (ids : List MessageID) (c : Context F) :
    (ids.foldl Context.release c).messageHandlers =
      c.messageHandlers.filter fun h =>
        !(decide (messageIDFirst ≤ h.messageID) && decide (h.messageID ∈ ids)) := by
  induction ids generalizing c with
  | nil => simp
  | cons id ids ih =>
      rw [List.foldl_cons, ih]
      unfold Context.release MessageHandlers.removeAllMessageHandlers
      split
      · next hid =>
          rw [List.filter_filter]
          apply List.filter_congr
          intro h _
          by_cases heq : h.messageID = id
          · simp [heq, hid]
          · simp [heq]
      · next hid =>
          apply List.filter_congr
          intro h _
          by_cases heq : h.messageID = id
          · simp [heq, hid]
          · simp [heq]

omit [FloatArith F] in
theorem release_rest (ids : List MessageID) (c : Context F) :
    (ids.foldl Context.release c).nextMessageID = c.nextMessageID ∧
      (ids.foldl Context.release c).nextAddress = c.nextAddress := by
  induction ids generalizing c with
  | nil => exact ⟨rfl, rfl⟩
  | cons id ids ih =>
      obtain ⟨hid, haddress⟩ := ih (c.release id)
      have hrelease : (c.release id).nextMessageID = c.nextMessageID ∧
          (c.release id).nextAddress = c.nextAddress := by
        unfold Context.release
        split
        · exact ⟨rfl, rfl⟩
        · exact ⟨rfl, rfl⟩
      exact ⟨hid.trans hrelease.1, haddress.trans hrelease.2⟩

omit [FloatArith F] in
/-- Destroying a tracked game's entities removes exactly their handlers. -/
theorem Tracked.reset_handlers {extra : MessageHandlers Callback} (h : Tracked g c base es)
    (hc' : c'.messageHandlers = c.messageHandlers ++ extra)
    (hbase : ∀ h ∈ base ++ extra, ¬ messageIDFirst ≤ h.messageID) :
    (g.reset c').2.messageHandlers = base ++ extra := by
  -- handlers for reserved IDs survive any destructor
  have hkeep : ∀ hs : MessageHandlers Callback, (∀ h ∈ hs, h ∈ base ++ extra) →
      (hs.filter fun h => !(decide (messageIDFirst ≤ h.messageID) &&
        decide (h.messageID ∈ g.gameUnits.map (·.messageID) ++ g.gameObstacles.map (·.messageID)))) =
      hs := by
    intro hs hsub
    rw [List.filter_eq_self]
    intro h hh
    simp [hbase h (hsub h hh)]
  -- every entity's handler goes with it
  have hdrop : ((es.map entityHandler).filter fun h => !(decide (messageIDFirst ≤ h.messageID) &&
        decide (h.messageID ∈ g.gameUnits.map (·.messageID) ++ g.gameObstacles.map (·.messageID)))) =
      [] := by
    rw [List.filter_eq_nil_iff]
    intro hd hhd
    obtain ⟨e, he, rfl⟩ := List.mem_map.mp hhd
    obtain ⟨hkey, hfirst⟩ := (h.entities e).mp he
    have hid : e.1 ∈ g.gameUnits.map (·.messageID) ++ g.gameObstacles.map (·.messageID) := by
      rcases mem_keys.mp hkey with ⟨u, hu, rfl⟩ | ⟨o, ho, rfl⟩
      · exact List.mem_append_left _ (List.mem_map_of_mem hu)
      · exact List.mem_append_right _ (List.mem_map_of_mem ho)
    have hhandler : (entityHandler e).messageID = e.1 := rfl
    simp only [hhandler, hfirst, hid, decide_true, Bool.and_self, Bool.not_true,
      Bool.false_eq_true, not_false_iff]
  unfold reset
  rw [release_handlers, hc', h.handlers, List.filter_append, List.filter_append, hdrop,
    hkeep base fun h hh => List.mem_append_left _ hh,
    hkeep extra fun h hh => List.mem_append_right _ hh, List.append_nil]

end Game

end Footscreen
