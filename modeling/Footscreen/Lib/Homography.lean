import Mathlib.LinearAlgebra.Matrix.NonsingularInverse
import Mathlib.Tactic.LinearCombination

/-!
# `Lib.Homography` — maps of the plane given by 3×3 matrices

A 3×3 matrix maps a point of the plane through homogeneous coordinates: `Sends m p q`. An invertible one
is a homography; it is injective and its inverse sends the points back. `GeneralPosition` says of four
points that no three are on a line:

* `exists_sends` — between any two quadruples in general position there is a homography;
* `GeneralPosition.of_sends` — points that some matrix sends to such a quadruple are in general position.
-/

namespace Footscreen
namespace Lib

open Matrix

variable {K : Type*} [Field K] {m n : Matrix (Fin 3) (Fin 3) K} {p p' q q' r : K × K}

/-- Homogeneous coordinates of a point. -/
def lift (p : K × K) : Fin 3 → K := ![p.1, p.2, 1]

@[simp] theorem lift_two (p : K × K) : lift p 2 = 1 := rfl

/-- The matrix sends one point to the other, and not to infinity. -/
def Sends (m : Matrix (Fin 3) (Fin 3) K) (p q : K × K) : Prop :=
  ∃ w : K, w ≠ 0 ∧ m *ᵥ lift p = w • lift q

/-- Homogeneous coordinates determine the point and the factor. -/
theorem smul_lift_inj {w w' : K} (hw : w ≠ 0) (h : w • lift p = w' • lift q) : w = w' ∧ p = q := by
  have hfactor : w = w' := by simpa using congrFun h 2
  have hx : w * p.1 = w' * q.1 := congrFun h 0
  have hy : w * p.2 = w' * q.2 := congrFun h 1
  rw [← hfactor] at hx hy
  exact ⟨hfactor, Prod.ext (mul_left_cancel₀ hw hx) (mul_left_cancel₀ hw hy)⟩

theorem Sends.unique (h : Sends m p q) (h' : Sends m p q') : q = q' := by
  obtain ⟨w, hw, hq⟩ := h
  obtain ⟨w', -, hq'⟩ := h'
  exact (smul_lift_inj hw (hq.symm.trans hq')).2

theorem Sends.trans (h : Sends m p q) (h' : Sends n q r) : Sends (n * m) p r := by
  obtain ⟨w, hw, hq⟩ := h
  obtain ⟨w', hw', hr⟩ := h'
  refine ⟨w * w', mul_ne_zero hw hw', ?_⟩
  rw [← mulVec_mulVec, hq, mulVec_smul, hr, smul_smul]

/-- The inverse sends the point back. -/
theorem Sends.symm (hm : m.det ≠ 0) (h : Sends m p q) : Sends m⁻¹ q p := by
  obtain ⟨w, hw, hq⟩ := h
  refine ⟨w⁻¹, inv_ne_zero hw, ?_⟩
  have hback : lift p = w • m⁻¹ *ᵥ lift q := by
    rw [← mulVec_smul, ← hq, mulVec_mulVec, nonsing_inv_mul m (isUnit_iff_ne_zero.mpr hm), one_mulVec]
  rw [hback, smul_smul, inv_mul_cancel₀ hw, one_smul]

/-- A homography is injective. -/
theorem Sends.injective (hm : m.det ≠ 0) (h : Sends m p q) (h' : Sends m p' q) : p = p' :=
  (h.symm hm).unique (h'.symm hm)

/-! ## General position -/

/-- Twice the signed area of a triangle. -/
def orient (a b c : K × K) : K := (b.1 - a.1) * (c.2 - a.2) - (b.2 - a.2) * (c.1 - a.1)

/-- The points as columns. -/
def columns (a b c : K × K) : Matrix (Fin 3) (Fin 3) K :=
  of fun i j => ![lift a, lift b, lift c] j i

theorem det_columns (a b c : K × K) : (columns a b c).det = orient a b c := by
  rw [det_fin_three]
  simp [columns, lift, orient]
  ring

theorem columns_mulVec (a b c : K × K) (v : Fin 3 → K) :
    columns a b c *ᵥ v = v 0 • lift a + v 1 • lift b + v 2 • lift c := by
  funext i
  simp [columns, mulVec, dotProduct, Fin.sum_univ_three, mul_comm]

/-- A matrix sends a triangle to a triangle of its own scale. -/
theorem orient_sends {a b c a' b' c' : K × K} (ha : Sends m a a') (hb : Sends m b b')
    (hc : Sends m c c') : ∃ w : K, w ≠ 0 ∧ m.det * orient a b c = w * orient a' b' c' := by
  obtain ⟨u, hu, ha⟩ := ha
  obtain ⟨v, hv, hb⟩ := hb
  obtain ⟨w, hw, hc⟩ := hc
  -- column by column
  have hproduct : m * columns a b c = columns a' b' c' * diagonal ![u, v, w] := by
    ext i j
    rw [mul_diagonal, mul_comm]
    fin_cases j
    · exact congrFun ha i
    · exact congrFun hb i
    · exact congrFun hc i
  refine ⟨u * v * w, mul_ne_zero (mul_ne_zero hu hv) hw, ?_⟩
  rw [← det_columns, ← det_columns, ← det_mul, hproduct, det_mul, det_diagonal, Fin.prod_univ_three]
  exact mul_comm _ _

/-- No three of the points are on a line. -/
structure GeneralPosition (p : Fin 4 → K × K) : Prop where
  without0 : orient (p 1) (p 2) (p 3) ≠ 0
  without1 : orient (p 0) (p 2) (p 3) ≠ 0
  without2 : orient (p 0) (p 1) (p 3) ≠ 0
  without3 : orient (p 0) (p 1) (p 2) ≠ 0

/-- Nothing else is sent to points in general position. -/
theorem GeneralPosition.of_sends {p q : Fin 4 → K × K} (h : ∀ k, Sends m (p k) (q k))
    (hq : GeneralPosition q) : GeneralPosition p := by
  have hne : ∀ i j k, orient (q i) (q j) (q k) ≠ 0 → orient (p i) (p j) (p k) ≠ 0 := by
    intro i j k hijk hzero
    obtain ⟨w, hw, heq⟩ := orient_sends (h i) (h j) (h k)
    rw [hzero, mul_zero] at heq
    exact mul_ne_zero hw hijk heq.symm
  exact ⟨hne _ _ _ hq.without0, hne _ _ _ hq.without1, hne _ _ _ hq.without2, hne _ _ _ hq.without3⟩

/-! ## A homography between two quadruples -/

/-- The matrix that takes the axes to the first three points, and their sum to the fourth. -/
def frame (p : Fin 4 → K × K) : Matrix (Fin 3) (Fin 3) K :=
  columns (p 0) (p 1) (p 2) *
    diagonal ![orient (p 1) (p 2) (p 3), -orient (p 0) (p 2) (p 3), orient (p 0) (p 1) (p 3)]

theorem det_frame_ne_zero {p : Fin 4 → K × K} (hp : GeneralPosition p) : (frame p).det ≠ 0 := by
  unfold frame
  rw [det_mul, det_columns, det_diagonal, Fin.prod_univ_three]
  exact mul_ne_zero hp.without3
    (mul_ne_zero (mul_ne_zero hp.without0 (neg_ne_zero.mpr hp.without1)) hp.without2)

/-- The four vectors that a frame takes to the points. -/
def axes : Fin 4 → Fin 3 → K := ![![1, 0, 0], ![0, 1, 0], ![0, 0, 1], ![1, 1, 1]]

theorem frame_mulVec (p : Fin 4 → K × K) (v : Fin 3 → K) :
    frame p *ᵥ v = (orient (p 1) (p 2) (p 3) * v 0) • lift (p 0) +
      (-orient (p 0) (p 2) (p 3) * v 1) • lift (p 1) +
      (orient (p 0) (p 1) (p 3) * v 2) • lift (p 2) := by
  unfold frame
  rw [← mulVec_mulVec, columns_mulVec, mulVec_diagonal, mulVec_diagonal, mulVec_diagonal]
  rfl

/-- Cramer's rule: the fourth point is a combination of the others. -/
theorem sum_orient_lift (p : Fin 4 → K × K) :
    orient (p 1) (p 2) (p 3) • lift (p 0) + -orient (p 0) (p 2) (p 3) • lift (p 1) +
      orient (p 0) (p 1) (p 3) • lift (p 2) = orient (p 0) (p 1) (p 2) • lift (p 3) := by
  funext i
  fin_cases i
  · simp [orient, lift]
    ring
  · simp [orient, lift]
    ring
  · simp [orient, lift]
    ring

theorem frame_axes {p : Fin 4 → K × K} (hp : GeneralPosition p) (k : Fin 4) :
    ∃ w : K, w ≠ 0 ∧ frame p *ᵥ axes k = w • lift (p k) := by
  rw [frame_mulVec]
  fin_cases k
  · exact ⟨_, hp.without0, by simp [axes]⟩
  · exact ⟨_, neg_ne_zero.mpr hp.without1, by simp [axes]⟩
  · exact ⟨_, hp.without2, by simp [axes]⟩
  · refine ⟨_, hp.without3, ?_⟩
    refine Eq.trans ?_ (sum_orient_lift p)
    simp [axes]

/-- **A homography** between two quadruples in general position. -/
theorem exists_sends {p q : Fin 4 → K × K} (hp : GeneralPosition p) (hq : GeneralPosition q) :
    ∃ m : Matrix (Fin 3) (Fin 3) K, m.det ≠ 0 ∧ ∀ k, Sends m (p k) (q k) := by
  have hdet := det_frame_ne_zero hp
  refine ⟨frame q * (frame p)⁻¹, ?_, ?_⟩
  · rw [det_mul, det_nonsing_inv]
    refine mul_ne_zero (det_frame_ne_zero hq) ?_
    rw [Ring.inverse_eq_inv']
    exact inv_ne_zero hdet
  · intro k
    obtain ⟨v, hv, hpk⟩ := frame_axes hp k
    obtain ⟨w, hw, hqk⟩ := frame_axes hq k
    -- back to the axis, and on to the point
    have haxis : (frame p)⁻¹ *ᵥ lift (p k) = v⁻¹ • axes k := by
      have hback : axes k = v • (frame p)⁻¹ *ᵥ lift (p k) := by
        rw [← mulVec_smul, ← hpk, mulVec_mulVec, nonsing_inv_mul _ (isUnit_iff_ne_zero.mpr hdet),
          one_mulVec]
      rw [hback, smul_smul, inv_mul_cancel₀ hv, one_smul]
    refine ⟨v⁻¹ * w, mul_ne_zero (inv_ne_zero hv) hw, ?_⟩
    rw [← mulVec_mulVec, haxis, mulVec_smul, hqk, smul_smul]

end Lib
end Footscreen
