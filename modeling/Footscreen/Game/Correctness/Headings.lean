import Footscreen.Game.Correctness.Motion

/-!
# `Game.Correctness.Headings` — velocities behind the obstacle loop

A reflection turns the velocity outward along its own axis (`reflectOn_heading`). The loop goes through
the obstacles once, so a later reflection can undo an earlier one: it adds to the velocity along its axis,
which takes away from the earlier axis if the angle between the two is obtuse (`heading_kept`). Two
obstacles at an obtuse angle are enough for that (`heading_of_notch`).
-/

namespace Footscreen

open FloatArith

namespace GameUnit

variable {u : GameUnit ℝ} {o o₁ o₂ : GameObstacle ℝ} {os post : List (GameObstacle ℝ)}

/-! ## One reflection -/

theorem axis_dot_self_pos (h : u.position ≠ o.position) : 0 < (u.axis o).dot (u.axis o) := by
  rw [Vec2.dot_self]
  exact mul_self_pos.mpr (axis_norm_ne_zero h)

/-- A reflection leaves the unit on its way out. -/
theorem reflectOn_heading (h : u.position ≠ o.position) : (u.reflectOn o).heading o = |u.heading o| := by
  show (u.reflectOn o).velocity.dot (u.axis o) = _
  rw [reflectOn_velocity h, Vec2.add_dot, Vec2.scale_dot, div_mul_cancel₀ _ (axis_dot_self_pos h).ne']
  exact add_sub_cancel (u.heading o) _

/-- A unit that is on its way out is left alone. -/
theorem reflectOn_velocity_of_out (h : u.position ≠ o.position) (hout : 0 ≤ u.heading o) :
    (u.reflectOn o).velocity = u.velocity := by
  rw [reflectOn_velocity h, abs_of_nonneg hout, sub_self, zero_div, Vec2.scale_real, mul_zero, mul_zero,
    Vec2.add_real, add_zero, add_zero]

/-- A reflection takes away only along axes at an obtuse angle to its own. -/
theorem heading_le_reflectOn {o' : GameObstacle ℝ} (h : u.position ≠ o'.position)
    (hangle : u.heading o' < 0 → 0 ≤ (u.axis o).dot (u.axis o')) :
    u.heading o ≤ (u.reflectOn o').heading o := by
  show u.velocity.dot (u.axis o) ≤ (u.reflectOn o').velocity.dot (u.axis o)
  rcases lt_or_ge (u.heading o') 0 with hinto | hout
  · rw [reflectOn_velocity h, Vec2.add_dot, Vec2.scale_dot, Vec2.dot_comm (u.axis o') (u.axis o)]
    apply le_add_of_nonneg_right
    apply mul_nonneg _ (hangle hinto)
    exact div_nonneg (sub_nonneg.mpr (le_abs_self _)) (axis_dot_self_pos h).le
  · rw [reflectOn_velocity_of_out h hout]

/-! ## The loop -/

theorem separateUnit_append (pre post : List (GameObstacle ℝ)) (u : GameUnit ℝ) :
    Game.separateUnit (pre ++ post) u = Game.separateUnit post (Game.separateUnit pre u) :=
  List.foldl_append

theorem separateUnit_cons_collides (h : u.collidesWithObstacle o = true) (os : List (GameObstacle ℝ)) :
    Game.separateUnit (o :: os) u = Game.separateUnit os (u.reflectOn o) := by
  unfold Game.separateUnit
  rw [List.foldl_cons, if_pos h, separateFrom_of_collides h]

theorem separateUnit_cons_apart (h : u.collidesWithObstacle o = false) (os : List (GameObstacle ℝ)) :
    Game.separateUnit (o :: os) u = Game.separateUnit os u := by
  unfold Game.separateUnit
  rw [List.foldl_cons, if_neg (by rw [h]; exact Bool.false_ne_true)]

/-- The unit is where it was. -/
theorem separateUnit_position (os : List (GameObstacle ℝ)) (u : GameUnit ℝ) :
    (Game.separateUnit os u).position = u.position := by
  obtain ⟨v, hv, -⟩ := separateUnit_eq_of_velocity os u
  rw [hv]
  rfl

theorem collidesWithObstacle_of_position {v : GameUnit ℝ} (h : v.position = u.position)
    (o : GameObstacle ℝ) : v.collidesWithObstacle o = u.collidesWithObstacle o := by
  unfold collidesWithObstacle
  rw [h]

/-- Behind the obstacle in the list, the unit comes to another one that it overlaps, at an obtuse angle to
    the first, and it heads into that. -/
def TurnedAgain (u : GameUnit ℝ) (o : GameObstacle ℝ) (post : List (GameObstacle ℝ)) : Prop :=
  ∃ mid o' rest, post = mid ++ o' :: rest ∧ u.collidesWithObstacle o' = true ∧
    (Game.separateUnit mid u).heading o' < 0 ∧ (u.axis o).dot (u.axis o') < 0

/-- What turns the unit in the rest of the loop turns it in the loop. -/
theorem TurnedAgain.cons {v : GameUnit ℝ} {o' : GameObstacle ℝ} (hposition : v.position = u.position)
    (hnext : ∀ os, Game.separateUnit (o' :: os) u = Game.separateUnit os v) (h : TurnedAgain v o post) :
    TurnedAgain u o (o' :: post) := by
  obtain ⟨mid, o'', rest, rfl, hcollides, hheading, hangle⟩ := h
  unfold axis at hangle
  rw [hposition] at hangle
  refine ⟨o' :: mid, o'', rest, rfl, ?_, ?_, hangle⟩
  · rw [← collidesWithObstacle_of_position hposition]
    exact hcollides
  · rw [hnext]
    exact hheading

/-- Outward it stays, if nothing turns the unit again. -/
theorem heading_kept (hpost : ∀ o' ∈ post, u.position ≠ o'.position) (hout : 0 ≤ u.heading o)
    (hfree : ¬ TurnedAgain u o post) : 0 ≤ (Game.separateUnit post u).heading o := by
  induction post generalizing u with
  | nil => exact hout
  | cons o' post ih =>
      obtain ⟨ho', hrest⟩ := List.forall_mem_cons.mp hpost
      cases hcollides : u.collidesWithObstacle o' with
      | false =>
          have hnext := separateUnit_cons_apart hcollides
          rw [hnext]
          exact ih hrest hout fun hagain => hfree (hagain.cons rfl hnext)
      | true =>
          have hnext := separateUnit_cons_collides hcollides
          have hangle : u.heading o' < 0 → 0 ≤ (u.axis o).dot (u.axis o') := by
            intro hinto
            by_contra hobtuse
            exact hfree ⟨[], o', post, rfl, hcollides, hinto, not_le.mp hobtuse⟩
          rw [hnext]
          refine ih hrest (hout.trans (heading_le_reflectOn ho' hangle)) ?_
          exact fun hagain => hfree (TurnedAgain.cons (v := u.reflectOn o') rfl hnext hagain)

/-- **One obstacle of the loop.** -/
theorem heading_of_split (pre post : List (GameObstacle ℝ))
    (hpos : ∀ o' ∈ pre ++ o :: post, u.position ≠ o'.position)
    (hcollides : u.collidesWithObstacle o = true)
    (hfree : ¬ TurnedAgain (Game.separateUnit (pre ++ [o]) u) o post) :
    0 ≤ (Game.separateUnit (pre ++ o :: post) u).heading o := by
  have hposition := separateUnit_position (pre ++ [o]) u
  have hsplit : pre ++ o :: post = (pre ++ [o]) ++ post := by
    rw [List.append_assoc, List.singleton_append]
  rw [hsplit, separateUnit_append]
  refine heading_kept ?_ ?_ hfree
  · intro o' ho'
    rw [hposition]
    exact hpos o' (List.mem_append_right _ (List.mem_cons_of_mem o ho'))
  · have hbefore := separateUnit_position pre u
    have hcollides' : (Game.separateUnit pre u).collidesWithObstacle o = true := by
      rw [collidesWithObstacle_of_position hbefore]
      exact hcollides
    have hdiffer : (Game.separateUnit pre u).position ≠ o.position := by
      rw [hbefore]
      exact hpos o (List.mem_append_right _ List.mem_cons_self)
    rw [separateUnit_append, separateUnit_cons_collides hcollides']
    show 0 ≤ ((Game.separateUnit pre u).reflectOn o).heading o
    rw [reflectOn_heading hdiffer]
    exact abs_nonneg _

/-! ## Two obstacles at an obtuse angle -/

/-- Obstacles that the unit does not overlap play no role. -/
theorem separateUnit_filter (os : List (GameObstacle ℝ)) (u : GameUnit ℝ) :
    Game.separateUnit os u = Game.separateUnit (os.filter u.collidesWithObstacle) u := by
  induction os generalizing u with
  | nil => rfl
  | cons o os ih =>
      cases hcollides : u.collidesWithObstacle o with
      | false =>
          rw [separateUnit_cons_apart hcollides, ih,
            List.filter_cons_of_neg (by rw [hcollides]; exact Bool.false_ne_true)]
      | true =>
          rw [separateUnit_cons_collides hcollides, ih, List.filter_cons_of_pos hcollides,
            separateUnit_cons_collides hcollides]
          rfl

/-- The unit, on its way straight into an obstacle. -/
noncomputable def headed (u : GameUnit ℝ) (o : GameObstacle ℝ) : GameUnit ℝ :=
  { u with velocity := (u.axis o).scale (-1) }

/-- A unit that goes straight into an obstacle comes straight back. -/
theorem headed_velocity (h : u.position ≠ o.position) {w : GameUnit ℝ} (hposition : w.position = u.position)
    (hvelocity : w.velocity = (u.axis o).scale (-1)) : (w.reflectOn o).velocity = u.axis o := by
  obtain ⟨n, hn⟩ : ∃ n, n = u.axis o := ⟨_, rfl⟩
  have haxis : w.axis o = n := by
    unfold axis
    rw [hposition, hn]
    rfl
  have hsquare : 0 < n.dot n := by
    rw [hn]
    exact axis_dot_self_pos h
  have hinto : w.heading o = -(n.dot n) := by
    unfold heading
    rw [haxis, hvelocity, ← hn, Vec2.scale_dot, neg_one_mul]
  have htwice : (|-(n.dot n)| - -(n.dot n)) / n.dot n = 2 := by
    rw [abs_neg, abs_of_pos hsquare, sub_neg_eq_add, ← two_mul, mul_div_cancel_right₀ _ hsquare.ne']
  rw [reflectOn_velocity (by rwa [hposition]), hinto, haxis, htwice, hvelocity, ← hn]
  simp only [Vec2.add_real, Vec2.scale_real]
  obtain ⟨x, y⟩ := n
  rw [Vec2.mk.injEq]
  constructor
  · ring
  · ring

/-- **A notch.** The unit overlaps two obstacles at an obtuse angle, and goes straight into the second. It
    comes out on its way into the first. -/
theorem heading_of_notch (h₁ : u.position ≠ o₁.position) (h₂ : u.position ≠ o₂.position)
    (hoverlaps : os.filter u.collidesWithObstacle = [o₁, o₂])
    (hangle : (u.axis o₁).dot (u.axis o₂) < 0) :
    (Game.separateUnit os (u.headed o₂)).heading o₁ < 0 := by
  have hfilter : os.filter (u.headed o₂).collidesWithObstacle = [o₁, o₂] := hoverlaps
  have hmem : ∀ o ∈ [o₁, o₂], (u.headed o₂).collidesWithObstacle o = true := by
    rw [← hfilter]
    exact fun o ho => (List.mem_filter.mp ho).2
  have hcollides₁ := hmem o₁ List.mem_cons_self
  have hcollides₂ : ((u.headed o₂).reflectOn o₁).collidesWithObstacle o₂ = true :=
    hmem o₂ (List.mem_cons_of_mem _ List.mem_cons_self)
  rw [separateUnit_filter, hfilter, separateUnit_cons_collides hcollides₁,
    separateUnit_cons_collides hcollides₂]
  -- the first obstacle is left alone
  have hout : 0 ≤ (u.headed o₂).heading o₁ := by
    show 0 ≤ ((u.axis o₂).scale (-1)).dot (u.axis o₁)
    rw [Vec2.scale_dot, Vec2.dot_comm]
    linarith
  have hsame : ((u.headed o₂).reflectOn o₁).velocity = (u.axis o₂).scale (-1) :=
    reflectOn_velocity_of_out (u := u.headed o₂) h₁ hout
  have hback := headed_velocity (w := (u.headed o₂).reflectOn o₁) h₂ rfl hsame
  show (((u.headed o₂).reflectOn o₁).reflectOn o₂).velocity.dot (u.axis o₁) < 0
  rw [hback, Vec2.dot_comm]
  exact hangle

theorem not_turnedAgain_nil : ¬ TurnedAgain u o [] := by
  rintro ⟨mid, o', rest, hnil, -⟩
  simp at hnil

theorem not_turnedAgain_singleton (hangle : 0 ≤ (u.axis o₁).dot (u.axis o₂)) :
    ¬ TurnedAgain u o₁ [o₂] := by
  rintro ⟨mid, o', rest, heq, -, -, hobtuse⟩
  have hmem : o' ∈ [o₂] := by
    rw [heq]
    exact List.mem_append_right _ List.mem_cons_self
  rw [List.mem_singleton.mp hmem] at hobtuse
  exact absurd hangle (not_le.mpr hobtuse)

/-- Where the angle is not obtuse, the unit comes out of any movement outward. -/
theorem heading_of_pair (h₁ : u.position ≠ o₁.position) (h₂ : u.position ≠ o₂.position)
    (hoverlaps : os.filter u.collidesWithObstacle = [o₁, o₂])
    (hangle : 0 ≤ (u.axis o₁).dot (u.axis o₂)) :
    0 ≤ (Game.separateUnit os u).heading o₁ ∧ 0 ≤ (Game.separateUnit os u).heading o₂ := by
  have hmem : ∀ o ∈ [o₁, o₂], u.collidesWithObstacle o = true := by
    rw [← hoverlaps]
    exact fun o ho => (List.mem_filter.mp ho).2
  have hpos : ∀ o ∈ [o₁, o₂], u.position ≠ o.position := by
    intro o ho
    rcases List.mem_cons.mp ho with rfl | ho
    · exact h₁
    · rw [List.mem_singleton.mp ho]
      exact h₂
  rw [separateUnit_filter, hoverlaps]
  constructor
  · refine heading_of_split [] [o₂] hpos (hmem o₁ List.mem_cons_self) ?_
    apply not_turnedAgain_singleton
    unfold axis
    rw [separateUnit_position]
    exact hangle
  · exact heading_of_split [o₁] [] hpos (hmem o₂ (List.mem_cons_of_mem _ List.mem_cons_self))
      not_turnedAgain_nil

/-- **Headings behind the loop**: the unit heads out of every obstacle that it overlaps, unless a later one
    at an obtuse angle turned it again. Of two obstacles at an obtuse angle, some velocity leads into the
    first, and of two others none. -/
theorem headings_after_loop (hpos : ∀ o ∈ os, u.position ≠ o.position) :
    (∀ pre o post, os = pre ++ o :: post → u.collidesWithObstacle o = true →
      ¬ TurnedAgain (Game.separateUnit (pre ++ [o]) u) o post →
      0 ≤ (Game.separateUnit os u).heading o) ∧
      ∀ o₁ o₂, os.filter u.collidesWithObstacle = [o₁, o₂] →
        ((∀ v, 0 ≤ (Game.separateUnit os { u with velocity := v }).heading o₁ ∧
            0 ≤ (Game.separateUnit os { u with velocity := v }).heading o₂) ↔
          0 ≤ (u.axis o₁).dot (u.axis o₂)) := by
  constructor
  · rintro pre o post rfl hcollides hfree
    exact heading_of_split pre post hpos hcollides hfree
  · intro o₁ o₂ hoverlaps
    have hmem : ∀ o ∈ [o₁, o₂], u.position ≠ o.position := by
      rw [← hoverlaps]
      exact fun o ho => hpos o (List.mem_filter.mp ho).1
    have h₁ := hmem o₁ List.mem_cons_self
    have h₂ := hmem o₂ (List.mem_cons_of_mem _ List.mem_cons_self)
    constructor
    · intro hall
      by_contra hobtuse
      have hinto := heading_of_notch h₁ h₂ hoverlaps (not_le.mp hobtuse)
      exact absurd (hall ((u.axis o₂).scale (-1))).1 (not_le.mpr hinto)
    · intro hangle v
      exact heading_of_pair (u := { u with velocity := v }) h₁ h₂ hoverlaps hangle

/-! ## Above the first two obstacles of level 1 -/

/-- A unit in the notch between the two. -/
noncomputable def inNotch : GameUnit ℝ where
  address      := 1
  messageID    := messageIDFirst
  gameUnitData := ⟨ofInt 88, ofInt 170, 1, idFirstClient, false, true, false⟩
  velocity     := ⟨44, 22⟩
  acceleration := .zero
  isHunting    := false

noncomputable def leftOne : GameObstacle ℝ := ⟨2, messageIDFirst + 1, ⟨ofInt 44, ofInt 192, ofInt 44⟩⟩

noncomputable def rightOne : GameObstacle ℝ := ⟨3, messageIDFirst + 2, ⟨ofInt 132, ofInt 192, ofInt 44⟩⟩

theorem inNotch_position : inNotch.position = ⟨88, 170⟩ :=
  congrArg₂ Point.mk (trunc_ofInt 88) (trunc_ofInt 170)

theorem leftOne_position : leftOne.position = ⟨44, 192⟩ :=
  congrArg₂ Point.mk (trunc_ofInt 44) (trunc_ofInt 192)

theorem rightOne_position : rightOne.position = ⟨132, 192⟩ :=
  congrArg₂ Point.mk (trunc_ofInt 132) (trunc_ofInt 192)

theorem inNotch_differs : ∀ o ∈ [leftOne, rightOne], inNotch.position ≠ o.position := by
  intro o ho
  rw [inNotch_position]
  rcases List.mem_cons.mp ho with rfl | ho
  · rw [leftOne_position]
    decide
  · rw [List.mem_singleton.mp ho, rightOne_position]
    decide

theorem inNotch_axes : inNotch.axis leftOne = ⟨44, -22⟩ ∧ inNotch.axis rightOne = ⟨-44, -22⟩ := by
  unfold axis
  rw [inNotch_position, leftOne_position, rightOne_position]
  constructor
  · show (⟨((88 - 44 : Int) : ℝ), ((170 - 192 : Int) : ℝ)⟩ : Vec2 ℝ) = _
    norm_num
  · show (⟨((88 - 132 : Int) : ℝ), ((170 - 192 : Int) : ℝ)⟩ : Vec2 ℝ) = _
    norm_num

theorem inNotch_overlaps :
    [leftOne, rightOne].filter inNotch.collidesWithObstacle = [leftOne, rightOne] := by
  rw [List.filter_eq_self]
  -- both centres are 49 away
  have hnear : Real.sqrt (2420 : ℝ) < 52 := by
    rw [Real.sqrt_lt' (by norm_num)]
    norm_num
  intro o ho
  apply decide_eq_true
  rw [Point.norm_toVec]
  show (inNotch.axis o).norm < _
  rcases List.mem_cons.mp ho with rfl | ho
  · rw [inNotch_axes.1, Vec2.norm_real, unitRadius_real]
    show Real.sqrt (44 * 44 + -22 * -22) < 8 + ((44 : Int) : ℝ)
    norm_num
    exact hnear
  · rw [List.mem_singleton.mp ho, inNotch_axes.2, Vec2.norm_real, unitRadius_real]
    show Real.sqrt (-44 * -44 + -22 * -22) < 8 + ((44 : Int) : ℝ)
    norm_num
    exact hnear

theorem inNotch_collides : inNotch.collidesWithObstacle leftOne = true := by
  have hmem : leftOne ∈ [leftOne, rightOne].filter inNotch.collidesWithObstacle := by
    rw [inNotch_overlaps]
    exact List.mem_cons_self
  exact (List.mem_filter.mp hmem).2

theorem inNotch_obtuse : (inNotch.axis leftOne).dot (inNotch.axis rightOne) < 0 := by
  rw [inNotch_axes.1, inNotch_axes.2]
  show (44 : ℝ) * -44 + -22 * -22 < 0
  norm_num

theorem headings_after_loop_inNotch :
    0 ≤ (Game.separateUnit [leftOne] inNotch).heading leftOne ∧
      ¬ ∀ v, 0 ≤ (Game.separateUnit [leftOne, rightOne] { inNotch with velocity := v }).heading leftOne ∧
        0 ≤ (Game.separateUnit [leftOne, rightOne] { inNotch with velocity := v }).heading rightOne := by
  constructor
  · refine (headings_after_loop ?_).1 [] leftOne [] rfl inNotch_collides not_turnedAgain_nil
    intro o ho
    exact inNotch_differs o (List.mem_cons.mpr (Or.inl (List.mem_singleton.mp ho)))
  · rw [(headings_after_loop inNotch_differs).2 leftOne rightOne inNotch_overlaps]
    exact not_le.mpr inNotch_obtuse

/-- The unit overlaps both, and leaves the loop on its way into the left one. -/
theorem inNotch_heads_in :
    (∀ o ∈ [leftOne, rightOne], inNotch.position ≠ o.position) ∧
      inNotch.collidesWithObstacle leftOne = true ∧
      (Game.separateUnit [leftOne, rightOne] inNotch).heading leftOne < 0 := by
  refine ⟨inNotch_differs, inNotch_collides, ?_⟩
  have hheaded : inNotch.headed rightOne = inNotch := by
    unfold headed
    rw [inNotch_axes.2, Vec2.scale_real]
    norm_num [inNotch]
  have hinto := heading_of_notch (inNotch_differs leftOne List.mem_cons_self)
    (inNotch_differs rightOne (List.mem_cons_of_mem _ List.mem_cons_self)) inNotch_overlaps inNotch_obtuse
  rwa [hheaded] at hinto

end GameUnit

end Footscreen
