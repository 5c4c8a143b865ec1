import Mathlib.Data.Nat.Sqrt
import Mathlib.Data.Int.Basic

/-!
# `Game.FloatArith` — the arithmetic of the simulation

The game computes with `float`, `double` and `int` coordinates. The model is generic in one type `F` of
numbers with the operations that the source uses; conversions between `float` and `double` are the
identity, and `trunc` is the conversion to `int`. No law is assumed: what is proved about messages and
lists holds for any arithmetic.
-/

namespace Footscreen

/-- The operations of the simulation's numbers. -/
class FloatArith (F : Type) extends Add F, Sub F, Mul F, Div F, Neg F, LT F, LE F where
  ofInt : Int → F
  sqrt  : F → F
  fabs  : F → F
  cos   : F → F
  sin   : F → F
  /-- conversion to `int`, toward zero -/
  trunc : F → Int
  decLT : ∀ x y : F, Decidable (x < y)
  decLE : ∀ x y : F, Decidable (x ≤ y)

namespace FloatArith

variable {F : Type} [FloatArith F]

instance (x y : F) : Decidable (x < y) := decLT x y
instance (x y : F) : Decidable (x ≤ y) := decLE x y

end FloatArith

/-- Whole numbers, in which runs can be evaluated. Every direction is the positive x-axis. -/
instance : FloatArith Int where
  ofInt x := x
  sqrt x  := (Nat.sqrt x.toNat : Int)
  fabs x  := x.natAbs
  cos _   := 1
  sin _   := 0
  trunc x := x
  decLT   := inferInstance
  decLE   := inferInstance

end Footscreen
