import Footscreen.Game.Correctness.Hits
import Footscreen.Game.Correctness.Catching

/-!
# `Game.Correctness.Rescue` — units that have arrived and are caught

A unit that has arrived moves no more, and is drawn as arrived from then on. The collision loops go over
it like over any other, so it can still be caught, and the score leaves it out. `Saved` is a game in which
that has not happened; `Spared` says of a frame, from the state before it, that it does not happen in it.
The games of a server stay saved exactly in the runs whose frames spare all arrived units, in any
arithmetic.
-/

namespace Footscreen

open FloatArith Lib

namespace GameUnit

variable {F : Type} {u : GameUnit F}

/-- The colour of a unit that has arrived. -/
def arrivedColor : Nat × Nat × Nat := (255, 255, 255)

theorem color_eq_arrivedColor : u.color = arrivedColor ↔ u.hasArrived = true := by
  unfold color arrivedColor
  cases u.hasArrived with
  | true => simp
  | false =>
      cases u.isLiving with
      | false => simp
      | true =>
          simp only [Bool.not_true, Bool.false_eq_true, if_false]
          split <;> simp

end GameUnit

namespace Game

variable {F : Type} [FloatArith F] {g g' : Game F} {clock : Nat → F}

/-- No fleeing unit has arrived and is dead, and the score counts as many arrived units as are drawn. -/
def Saved (g : Game F) : Prop :=
  (∀ u ∈ g.gameUnits, u.isHunting = false → ¬ (u.hasArrived = true ∧ u.isLiving = false)) ∧
    g.gameUnits.countP (fun u => u.color == GameUnit.arrivedColor) = g.result.arrivedUnits

/-- In the frame no dead unit arrives, and no unit that has arrived or does so comes to collide with a
    hunting one. -/
structure Spared (g : Game F) (clock : Nat → F) : Prop where
  living : ∀ u ∈ g.gameUnits, u.arrives (g.timeDifference clock) = true → u.isLiving = true
  apart  : ∀ u ∈ g.gameUnits, u.isHunting = false →
    (u.hasArrived = true ∨ u.arrives (g.timeDifference clock) = true) →
    ∀ w ∈ g.gameUnits, (g.settled clock u).collidesWith (g.settled clock w) = false ∧
      (g.settled clock w).collidesWith (g.settled clock u) = false

/-- No hunting unit has arrived. -/
def HuntersAway (g : Game F) : Prop := ∀ u ∈ g.gameUnits, u.isHunting = true → u.hasArrived = false

omit [FloatArith F] in
/-- Among such units, the drawing follows from the units' fates. -/
theorem HuntersAway.saved_iff (h : g.HuntersAway) :
    g.Saved ↔ ∀ u ∈ g.gameUnits, u.isHunting = false → u.hasArrived = true → u.isLiving = true := by
  constructor
  · intro hsaved u hu hhunting harrived
    by_contra hdead
    exact hsaved.1 u hu hhunting ⟨harrived, eq_false_of_ne_true hdead⟩
  · intro hliving
    refine ⟨?_, ?_⟩
    · rintro u hu hhunting ⟨harrived, hdead⟩
      rw [hliving u hu hhunting harrived] at hdead
      cases hdead
    · apply List.countP_congr
      intro u hu
      rw [beq_iff_eq, GameUnit.color_eq_arrivedColor]
      simp only [Bool.and_eq_true, Bool.not_eq_true']
      constructor
      · intro harrived
        have hhunting : u.isHunting = false := by
          by_contra hno
          rw [h u hu (eq_true_of_ne_false hno)] at harrived
          cases harrived
        exact ⟨⟨hhunting, harrived⟩, hliving u hu hhunting harrived⟩
      · exact fun hcounted => hcounted.1.2

/-! ## A frame -/

theorem HuntersAway.proceed (h : g.HuntersAway) (clock : Nat → F) : (g.proceed clock).1.HuntersAway := by
  cases hmoves : g.moves clock with
  | false =>
      unfold HuntersAway
      rw [proceed_still hmoves]
      exact h
  | true =>
      unfold HuntersAway
      rw [proceed_outcome hmoves]
      intro v hv hhunting
      obtain ⟨u, hu, rfl⟩ := List.mem_map.mp hv
      rw [outcome_isHunting] at hhunting
      rw [outcome_hasArrived, h u hu hhunting, Bool.false_or]
      by_contra harrives
      have hno := (GameUnit.of_arrives (eq_true_of_ne_false harrives)).1
      rw [hhunting] at hno
      cases hno

/-- **One frame** saves the units exactly if it spares those that have arrived. -/
theorem Saved.proceed_iff (hsaved : g.Saved) (h : g.HuntersAway) (hmoves : g.moves clock = true) :
    (g.proceed clock).1.Saved ↔ g.Spared clock := by
  rw [(h.proceed clock).saved_iff, proceed_outcome hmoves, List.forall_mem_map]
  simp only [outcome_isHunting, outcome_hasArrived, outcome_isLiving, Bool.or_eq_true, Bool.and_eq_true,
    Bool.not_eq_true']
  have hbefore := h.saved_iff.mp hsaved
  constructor
  · intro hafter
    constructor
    · intro u hu harrives
      exact (hafter u hu (GameUnit.of_arrives harrives).1 (Or.inr harrives)).1
    · intro u hu hhunting harrived
      exact (caught_eq_false hhunting).mp (hafter u hu hhunting harrived).2
  · intro hspared u hu hhunting harrived
    refine ⟨?_, (caught_eq_false hhunting).mpr (hspared.apart u hu hhunting harrived)⟩
    rcases harrived with harrived | harrives
    · exact hbefore u hu hhunting harrived
    · exact hspared.living u hu harrives

omit [FloatArith F] in
/-- Units that change in other ways only. -/
theorem HuntersAway.of_status (h : g.HuntersAway)
    (hunits : List.Forall₂ GameUnit.SameStatus g.gameUnits g'.gameUnits) : g'.HuntersAway := by
  refine forall_mem_of (P := fun u : GameUnit F => u.isHunting = true → u.hasArrived = false) hunits h ?_
  intro u v hu huv hhunting
  rw [huv.hasArrived]
  exact hu (huv.isHunting.symm.trans hhunting)

omit [FloatArith F] in
theorem Saved.of_status (hsaved : g.Saved) (h : g.HuntersAway)
    (hunits : List.Forall₂ GameUnit.SameStatus g.gameUnits g'.gameUnits) : g'.Saved := by
  refine (h.of_status hunits).saved_iff.mpr (forall_mem_of hunits (h.saved_iff.mp hsaved) ?_)
  intro u v hu huv hhunting harrived
  rw [huv.isLiving]
  exact hu (huv.isHunting.symm.trans hhunting) (huv.hasArrived.symm.trans harrived)

theorem huntersAway_of_stationed {l : Level} (h : ∀ u ∈ g.gameUnits, Stationed l u) : g.HuntersAway :=
  fun u hu _ => (h u hu).hasArrived

/-- The units of a loaded level live. -/
theorem saved_of_stationed {l : Level} (h : ∀ u ∈ g.gameUnits, Stationed l u) : g.Saved :=
  (huntersAway_of_stationed h).saved_iff.mpr fun u hu _ _ => (h u hu).isLiving

end Game

namespace GameServer

variable {F : Type} [FloatArith F] {s s' : GameServer F} {e : Event F} {g g' : Game F}

/-- Of the messages that sessions send, the requests. -/
def Requested (_ : GameServer F) : Event F → Prop
  | .handleMessageReceived _ m => IsRequest m
  | _                          => True

/-- The frame spares the units that have arrived. -/
def Spares (s : GameServer F) : Event F → Prop
  | .proceed clock => ∀ g, s.game = some g → g.moves clock = true → g.Spared clock
  | _              => True

/-- What a step makes of the server's game. -/
inductive GameStep (s : GameServer F) : Event F → Game F → Prop where
  | loaded {levelNumber : Int} {clock : Nat → F} {g' : Game F}
      (h : ∀ u ∈ g'.gameUnits, Game.Stationed (Game.level levelNumber) u) :
      GameStep s (.loadGame levelNumber clock) g'
  | frame {clock : Nat → F} {g : Game F} (hg : s.game = some g) :
      GameStep s (.proceed clock) (g.proceed clock).1
  | kept {e : Event F} {g g' : Game F} (hno : ∀ clock, e ≠ .proceed clock) (hg : s.game = some g)
      (hunits : List.Forall₂ GameUnit.SameStatus g.gameUnits g'.gameUnits) : GameStep s e g'

omit [FloatArith F] in
theorem sameStatus_refl (us : List (GameUnit F)) : List.Forall₂ GameUnit.SameStatus us us :=
  List.forall₂_same.mpr fun _ _ => ⟨rfl, rfl, rfl⟩

omit [FloatArith F] in
theorem modifyUnit_sameStatus (g : Game F) (address : Nat) {f : GameUnit F → GameUnit F}
    (hf : ∀ u, GameUnit.SameStatus u (f u)) :
    List.Forall₂ GameUnit.SameStatus g.gameUnits (g.modifyUnit address f).gameUnits := by
  apply forall₂_map
  intro u _
  split
  · exact hf u
  · exact ⟨rfl, rfl, rfl⟩

/-- **One step** of the server, for its game. -/
theorem Ready.game_step (h : s.Ready) (hrequest : Requested s e) (hstep : s.step e = some s')
    (hg' : s'.game = some g') : GameStep s e g' := by
  cases e with
  | loadGame levelNumber clock =>
      cases hstep
      obtain ⟨g, hg, hunits, -⟩ := loadGame_stationed s levelNumber clock
      obtain rfl : g = g' := Option.some.inj (hg.symm.trans hg')
      exact .loaded hunits
  | startGame clock =>
      cases hstep
      obtain ⟨g, hg, rfl⟩ := Option.map_eq_some_iff.mp hg'
      exact .kept (fun _ => nofun) hg (sameStatus_refl _)
  | proceed clock =>
      cases hstep
      obtain ⟨g, hg, rfl⟩ := Option.map_eq_some_iff.mp hg'
      exact .frame hg
  | synchronize =>
      obtain ⟨_, _, rfl⟩ := synchronize_inv hstep
      exact .kept (fun _ => nofun) hg' (sameStatus_refl _)
  | handleSessionAccepted session =>
      obtain ⟨_, _, _, rfl⟩ := handleSessionAccepted_inv hstep
      exact .kept (fun _ => nofun) hg' (sameStatus_refl _)
  | handleMessageReceived session m =>
      have hsome : (if (s.playerProfileBySession session).isSome
        then s.handleMessageReceived session m else none) = some s' := hstep
      split at hsome
      · obtain ⟨t, ht, heffect⟩ := h.request_effect hrequest session
        rw [hsome] at ht
        cases ht
        cases heffect with
        | refused => exact .kept (fun _ => nofun) hg' (sameStatus_refl _)
        | accelerated u a _ hg _ _ =>
            cases hg'
            exact .kept (fun _ => nofun) hg (modifyUnit_sameStatus _ _ fun _ => ⟨rfl, rfl, rfl⟩)
        | highlighted u b _ hg _ _ =>
            cases hg'
            exact .kept (fun _ => nofun) hg (modifyUnit_sameStatus _ _ fun _ => ⟨rfl, rfl, rfl⟩)
      · cases hsome

/-- A server whose hunting units have not arrived. -/
structure Hunted (s : GameServer F) : Prop where
  ready : s.Ready
  away  : ∀ g, s.game = some g → g.HuntersAway

/-- The server's game is saved, if there is one. -/
def Saved (s : GameServer F) : Prop := ∀ g, s.game = some g → g.Saved

theorem Hunted.step (h : s.Hunted) (hrequest : Requested s e) (hstep : s.step e = some s') :
    s'.Hunted := by
  refine ⟨ready_step h.ready hstep, ?_⟩
  intro g' hg'
  cases h.ready.game_step hrequest hstep hg' with
  | loaded hunits => exact Game.huntersAway_of_stationed hunits
  | frame hg => exact (h.away _ hg).proceed _
  | kept _ hg hunits => exact (h.away _ hg).of_status hunits

/-- **One step** saves the units exactly if it spares those that have arrived. -/
theorem Hunted.saved_iff (h : s.Hunted) (hsaved : s.Saved) (hrequest : Requested s e)
    (hstep : s.step e = some s') : s'.Saved ↔ Spares s e := by
  have hgame : ∀ {g'}, s'.game = some g' → GameStep s e g' :=
    fun hg' => h.ready.game_step hrequest hstep hg'
  cases e with
  | proceed clock =>
      cases hstep
      constructor
      · intro hafter g hg hmoves
        exact ((hsaved g hg).proceed_iff (h.away g hg) hmoves).mp (hafter _ (proceed_game hg clock))
      · intro hspares g' hg'
        obtain ⟨g, hg, rfl⟩ := Option.map_eq_some_iff.mp hg'
        cases hmoves : g.moves clock with
        | true => exact ((hsaved g hg).proceed_iff (h.away g hg) hmoves).mpr (hspares g hg hmoves)
        | false =>
            refine (hsaved g hg).of_status (h.away g hg) ?_
            rw [Game.proceed_still hmoves]
            exact sameStatus_refl _
  | loadGame levelNumber clock =>
      refine ⟨fun _ => trivial, ?_⟩
      intro _ g' hg'
      cases hgame hg' with
      | loaded hunits => exact Game.saved_of_stationed hunits
      | kept _ hg hunits => exact (hsaved _ hg).of_status (h.away _ hg) hunits
  | _ =>
      refine ⟨fun _ => trivial, ?_⟩
      intro _ g' hg'
      cases hgame hg' with
      | kept _ hg hunits => exact (hsaved _ hg).of_status (h.away _ hg) hunits

end GameServer

/-! ## In real numbers -/

namespace GameUnit

/-- A fleeing unit and a hunting one collide, whichever is asked, when their positions are close. -/
theorem collidesWith_iff {F : Type} [FloatArith F] {u w : GameUnit F} (hu : u.isHunting = false)
    (hw : w.isHunting = true) :
    (u.collidesWith w = true ↔ ((u.position.sub w.position).norm : F) < ofInt 2 * unitRadius) ∧
      w.collidesWith u = u.collidesWith w := by
  unfold collidesWith
  rw [hu, hw, Point.norm_sub_comm w.position]
  simp

theorem collidesWith_of_fleeing {F : Type} [FloatArith F] {u w : GameUnit F}
    (hu : u.isHunting = false) (hw : w.isHunting = false) : u.collidesWith w = false := by
  unfold collidesWith
  rw [hu, hw]
  rfl

end GameUnit

namespace Game

variable {g : Game ℝ} {clock : Nat → ℝ} {u : GameUnit ℝ}

theorem settled_position (hu : u.Inside) :
    (g.settled clock u).position = u.landingPosition (g.timeDifference clock) := by
  obtain ⟨v, hseparate, -⟩ :=
    GameUnit.separateUnit_eq_of_velocity g.gameObstacles (u.advance (g.timeDifference clock))
  unfold settled
  rw [hseparate]
  exact GameUnit.advance_position hu _

/-- **In exact arithmetic** a frame spares the arrived units if and only if no unit that ends beyond the
    goal lands close to where a hunting unit does. -/
theorem spared_iff_landing (hunits : ∀ u ∈ g.gameUnits, u.Sound) :
    g.Spared clock ↔
      ∀ u ∈ g.gameUnits, u.isHunting = false → GameUnit.goal ≤ (u.landing (g.timeDifference clock)).y →
        ∀ w ∈ g.gameUnits, w.isHunting = true →
          ofInt 2 * GameUnit.unitRadius ≤ (((u.landingPosition (g.timeDifference clock)).sub
            (w.landingPosition (g.timeDifference clock))).norm : ℝ) := by
  have hends : ∀ u ∈ g.gameUnits, u.isHunting = false →
      ((u.hasArrived = true ∨ u.arrives (g.timeDifference clock) = true) ↔
        GameUnit.goal ≤ (u.landing (g.timeDifference clock)).y) := by
    intro u hu hfleeing
    have hsound := hunits u hu
    rw [← Bool.or_eq_true, ← GameUnit.advance_hasArrived_eq,
      GameUnit.advance_hasArrived (GameUnit.walled_move hsound.inside _)]
    constructor
    · rintro (harrived | ⟨-, hgoal⟩)
      · have hstays := GameUnit.landing_of_not_active
          (GameUnit.not_active_iff.mpr (Or.inr harrived)) (g.timeDifference clock)
        rw [hstays]
        exact (hsound.arrival.mp harrived).2
      · exact hgoal
    · exact fun hgoal => Or.inr ⟨hfleeing, hgoal⟩
  have hpositions : ∀ u ∈ g.gameUnits, ∀ w ∈ g.gameUnits, u.isHunting = false → w.isHunting = true →
      ((g.settled clock u).collidesWith (g.settled clock w) = false ↔
        ofInt 2 * GameUnit.unitRadius ≤ (((u.landingPosition (g.timeDifference clock)).sub
          (w.landingPosition (g.timeDifference clock))).norm : ℝ)) ∧
      (g.settled clock w).collidesWith (g.settled clock u) =
        (g.settled clock u).collidesWith (g.settled clock w) := by
    intro u hu w hw hfleeing hhunting
    obtain ⟨hiff, hcomm⟩ := GameUnit.collidesWith_iff
      (settled_isHunting.trans hfleeing : (g.settled clock u).isHunting = false)
      (settled_isHunting.trans hhunting : (g.settled clock w).isHunting = true)
    rw [settled_position (hunits u hu).inside, settled_position (hunits w hw).inside] at hiff
    exact ⟨by rw [← Bool.not_eq_true, hiff, not_lt], hcomm⟩
  constructor
  · intro hspared u hu hfleeing hgoal w hw hhunting
    have hapart := hspared.apart u hu hfleeing ((hends u hu hfleeing).mpr hgoal) w hw
    exact (hpositions u hu w hw hfleeing hhunting).1.mp hapart.1
  · intro hlanding
    constructor
    · -- a dead unit stays where it is, and has not arrived there
      intro u hu harrives
      by_contra hdead
      obtain ⟨hfleeing, hbefore⟩ := GameUnit.of_arrives harrives
      have hstays := GameUnit.landing_of_not_active
        (GameUnit.not_active_iff.mpr (Or.inl (eq_false_of_ne_true hdead))) (g.timeDifference clock)
      have hgoal := (hends u hu hfleeing).mp (Or.inr harrives)
      rw [hstays] at hgoal
      rw [(hunits u hu).arrival.mpr ⟨hfleeing, hgoal⟩] at hbefore
      cases hbefore
    · intro u hu hfleeing harrived w hw
      cases hhunting : w.isHunting with
      | false =>
          have hu' : (g.settled clock u).isHunting = false := settled_isHunting.trans hfleeing
          have hw' : (g.settled clock w).isHunting = false := settled_isHunting.trans hhunting
          exact ⟨GameUnit.collidesWith_of_fleeing hu' hw', GameUnit.collidesWith_of_fleeing hw' hu'⟩
      | true =>
          obtain ⟨hiff, hcomm⟩ := hpositions u hu w hw hfleeing hhunting
          have hend := (hends u hu hfleeing).mp harrived
          have hapart := hiff.mpr (hlanding u hu hfleeing hend w hw hhunting)
          exact ⟨hapart, hcomm.trans hapart⟩

end Game

namespace GameServer

variable {F : Type} [FloatArith F] {s : GameServer F}

/-! ## Runs -/

/-- **Arrived units are safe**, and drawn as they are counted, at every point of exactly the runs whose
    frames spare them. -/
theorem arrived_safe_iff (unset : Nat → Unset F) {events : List (Event F)}
    (hrequests : Guarded step Requested (run unset) events)
    (hrun : exec step (run unset) events = some s) :
    (∀ past, past <+: events → ∀ t, exec step (run unset) past = some t →
      ∀ g, t.game = some g → g.Saved) ↔ Guarded step Spares (run unset) events :=
  exec_always_iff_of (I := fun s => Hunted s ∧ Saved s) ⟨⟨Or.inl ⟨rfl, rfl⟩, nofun⟩, nofun⟩ And.right
    (fun hbase hu hstep hok => ⟨hu.1.step hbase hstep, (hu.1.saved_iff hu.2 hbase hstep).mpr hok⟩)
    (fun hbase hu hstep hsaved => (hu.1.saved_iff hu.2 hbase hstep).mp hsaved) hrequests hrun

/-- In a descent, the units that arrive do so far from the hunting ones. -/
theorem Descending.spared {g : Game ℝ} (h : Descending g) (hunits : ∀ u ∈ g.gameUnits, u.Sound) :
    g.Spared fun _ => 4 := by
  apply (Game.spared_iff_landing hunits).mpr
  rw [h.timeDifference]
  intro u hu _ hgoal w hw hhunting
  have hrest : ∀ {v : GameUnit ℝ}, v ∈ g.gameUnits → v.acceleration = .zero →
      v.landing 4 = ⟨v.x, v.y⟩ := fun hv hrest =>
    GameUnit.landing_of_rest (hunits _ hv).inside (h.velocity _ hv) hrest 4
  -- the hunting unit has not moved
  have hwrest : w.acceleration = .zero := by
    rcases h.units w hw with hrest | ⟨-, hfleeing⟩
    · exact hrest
    · rw [hhunting] at hfleeing
      cases hfleeing
  have hwy : (w.landingPosition 4).y ≤ 360 := by
    unfold GameUnit.landingPosition
    rw [hrest hw hwrest]
    show trunc w.y ≤ 360
    rcases h.height w hw with hy | hy
    · rw [hy, trunc_ofInt]
      decide
    · rw [hy, trunc_ofInt]
  -- the other one is at the lower wall
  have huy : (u.landingPosition 4).y = 476 := by
    rcases h.units u hu with hurest | ⟨hpushed, -⟩
    · rw [hrest hu hurest, GameUnit.goal_eq] at hgoal
      rcases h.height u hu with hy | hy
      · rw [hy, ofInt_real] at hgoal
        norm_num at hgoal
      · rw [hy, ofInt_real] at hgoal
        norm_num at hgoal
    · have hint : (476 : ℝ) = ofInt 476 := by
        rw [ofInt_real]
        norm_num
      unfold GameUnit.landingPosition
      rw [hpushed.landing, hint, trunc_ofInt]
  have hapart : (116 : ℝ) ≤ ((u.landingPosition 4).y - (w.landingPosition 4).y : Int) := by
    rw [huy]
    exact_mod_cast sub_le_sub_left hwy 476
  have hdistance := Vec2.abs_y_le_norm ((u.landingPosition 4).sub (w.landingPosition 4)).toVec
  rw [Point.norm_toVec, unitRadius_real, ofInt_real]
  refine le_trans ?_ ((hapart.trans (le_abs_self _)).trans hdistance)
  norm_num

/-- The sheep that is sent down arrives far from all wolves, and lives. -/
theorem arrived_safe_iff_descent :
    ∃ t g u, exec step (run zeroedReal)
        (.loadGame 1 (fun _ => 0) :: (descent ++ [.proceed fun _ => 4])) = some t ∧ t.game = some g ∧
      g.Saved ∧ u ∈ g.gameUnits ∧ u.isHunting = false ∧ u.hasArrived = true ∧ u.isLiving = true := by
  obtain ⟨t, g, hrun, hg, u, hu, harrived, hfleeing, -⟩ := descent_arrives
  have hrequests : Guarded step Requested (run zeroedReal)
      (.loadGame 1 (fun _ => 0) :: (descent ++ [.proceed fun _ => 4])) := by
    have hrequest : IsRequest downRequest := Or.inl rfl
    exact guarded_of_mem (by simp [descent, Requested, hrequest])
  have hspares : Guarded step Spares (run zeroedReal)
      (.loadGame 1 (fun _ => 0) :: (descent ++ [.proceed fun _ => 4])) := by
    refine guarded_cons_of trivial rfl (guarded_snoc.mpr ⟨guarded_of_mem (by simp [descent, Spares]), ?_⟩)
    obtain ⟨t₀, g₀, _, hrun₀, hg₀, hdescending, -⟩ := descending
    intro t' ht' g' hg' _
    obtain rfl := Option.some.inj (hrun₀.symm.trans ht')
    obtain rfl := Option.some.inj (hg₀.symm.trans hg')
    obtain ⟨-, g', hg', hsound⟩ := Ready.sound (s := run zeroedReal) (Or.inl ⟨rfl, rfl⟩) descent_play hrun₀
    obtain rfl := Option.some.inj (hg₀.symm.trans hg')
    exact hdescending.spared hsound
  have hsaved := (arrived_safe_iff zeroedReal hrequests hrun).mpr hspares _ (List.prefix_refl _) t hrun g hg
  refine ⟨t, g, u, hrun, hg, hsaved, hu, hfleeing, harrived, ?_⟩
  by_contra hdead
  exact hsaved.1 u hu hfleeing ⟨harrived, eq_false_of_ne_true hdead⟩

/-! ## A sheep and a wolf in the goal -/

/-- Level 1: both players send their first unit down the left side. -/
noncomputable def downTogether : List (Event ℝ) :=
  [.loadGame 1 fun _ => 0, .handleSessionAccepted 7, .handleSessionAccepted 8, .startGame fun _ => 0,
   .handleMessageReceived 7 downRequest, .handleMessageReceived 8 downRequest]

theorem pushed_down : ∃ t g u w, exec step (run zeroedReal) downTogether = some t ∧ t.game = some g ∧
    (g.hasStarted = true ∧ g.hasFinished = false ∧ g.durationTimer = 0 ∧ g.timer = 0) ∧
    Pushed g u ∧ u.isHunting = false ∧ Pushed g w ∧ w.isHunting = true := by
  refine ⟨_, _, _, _, rfl, rfl, ⟨rfl, rfl, rfl, rfl⟩,
    ⟨List.mem_of_getElem? (i := 0) rfl, rfl, rfl, requested_down, rfl, ?_⟩, rfl,
    ⟨List.mem_of_getElem? (i := 5) rfl, rfl, rfl, requested_down, rfl, ?_⟩, rfl⟩
  · show (96 : ℝ) ≤ ((96 : Int) : ℝ) ∧ ((96 : Int) : ℝ) ≤ 360
    norm_num
  · show (96 : ℝ) ≤ ((360 : Int) : ℝ) ∧ ((360 : Int) : ℝ) ≤ 360
    norm_num

/-- **A sheep that is caught in the goal.** It arrives in the frame in which it dies, and is drawn as
    arrived from then on. -/
theorem arrived_caught :
    ∃ t g, Guarded step Requested (run zeroedReal) (downTogether ++ [.proceed fun _ => 4]) ∧
      exec step (run zeroedReal) (downTogether ++ [.proceed fun _ => 4]) = some t ∧ t.game = some g ∧
      (∃ v ∈ g.gameUnits, v.isHunting = false ∧ v.hasArrived = true ∧ v.isLiving = false ∧
        v.color = GameUnit.arrivedColor) ∧ ¬ g.Saved := by
  obtain ⟨t, g, u, w, hrun, hg, ⟨hstarted, hfinished, hduration, htimer⟩, hu, hfleeing, hw, hhunting⟩ :=
    pushed_down
  have hmoves : g.moves (fun _ => 4) = true := by
    unfold Game.moves
    rw [hstarted, hfinished, hduration, ofInt_real]
    simp only [Bool.true_and, Bool.false_or, Bool.not_eq_true', decide_eq_false_iff_not]
    norm_num
  have hdt : g.timeDifference (fun _ => 4) = 4 := by
    unfold Game.timeDifference
    rw [htimer, sub_zero]
  have harrived : (g.outcome (fun _ => 4) u).hasArrived = true := by
    rw [Game.outcome_hasArrived, ← GameUnit.advance_hasArrived_eq, hdt,
      GameUnit.advance_hasArrived (GameUnit.walled_move hu.inside 4), hu.landing, GameUnit.goal_eq]
    exact Or.inr ⟨hfleeing, by norm_num⟩
  have hdead : (g.outcome (fun _ => 4) u).isLiving = false := by
    rw [Game.outcome_isLiving]
    cases hcaught : g.caught (fun _ => 4) u with
    | true => exact Bool.and_false _
    | false =>
        -- the two end in the same place
        have hapart := ((Game.caught_eq_false hfleeing).mp hcaught w hw.mem).1
        have hclose := (GameUnit.collidesWith_iff
          (Game.settled_isHunting.trans hfleeing : (g.settled (fun _ => 4) u).isHunting = false)
          (Game.settled_isHunting.trans hhunting : (g.settled (fun _ => 4) w).isHunting = true)).1
        rw [hapart, Game.settled_position hu.inside, Game.settled_position hw.inside, hdt] at hclose
        unfold GameUnit.landingPosition at hclose
        rw [hu.landing, hw.landing, Point.norm_toVec, Point.norm_sub_eq_zero.mpr rfl, ofInt_real,
          unitRadius_real] at hclose
        exact absurd (hclose.mpr (by norm_num)) Bool.false_ne_true
  have hmem : g.outcome (fun _ => 4) u ∈ (g.proceed fun _ => 4).1.gameUnits := by
    rw [Game.proceed_outcome hmoves]
    exact List.mem_map_of_mem hu.mem
  refine ⟨_, _, guarded_of_mem ?_, exec_snoc.mpr ⟨t, hrun, rfl⟩, proceed_game hg _, ?_, ?_⟩
  · have hrequest : IsRequest downRequest := Or.inl rfl
    simp [downTogether, Requested, hrequest]
  · exact ⟨_, hmem, Game.outcome_isHunting.trans hfleeing, harrived, hdead,
      GameUnit.color_eq_arrivedColor.mpr harrived⟩
  · intro hsaved
    exact hsaved.1 _ hmem (Game.outcome_isHunting.trans hfleeing) ⟨harrived, hdead⟩

end GameServer

end Footscreen
