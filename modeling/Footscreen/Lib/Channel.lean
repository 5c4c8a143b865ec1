import Footscreen.Lib.Run

/-!
# `Lib.Channel` — a reliable channel in order

What a connection is for: values go in at one end and come out at the other, each once and in the order
in which they went in. `exec_conserves` says so of every run.
-/

namespace Footscreen
namespace Lib

/-- What is on the way, and what has come out. -/
structure Channel (α : Type*) where
  inTransit : List α
  received  : List α

namespace Channel

variable {α : Type*}

/-- Nothing has gone in. -/
def empty : Channel α := ⟨[], []⟩

inductive Event (α : Type*) where
  | send (a : α)
  | receive

/-- Nothing can be received while nothing is on the way. -/
def step (c : Channel α) : Event α → Option (Channel α)
  | .send a => some { c with inTransit := c.inTransit ++ [a] }
  | .receive =>
      match c.inTransit with
      | []        => none
      | a :: rest => some ⟨rest, c.received ++ [a]⟩

/-- What the events put in, in order. -/
def sends : List (Event α) → List α
  | []             => []
  | .send a :: es  => a :: sends es
  | .receive :: es => sends es

theorem sends_append (es fs : List (Event α)) : sends (es ++ fs) = sends es ++ sends fs := by
  induction es with
  | nil => rfl
  | cons e es ih =>
      cases e with
      | send a  => exact congrArg (a :: ·) ih
      | receive => exact ih

/-- **Conservation.** What has come out, followed by what is on the way, is what went in. -/
theorem exec_conserves {es : List (Event α)} {c : Channel α} (h : exec step empty es = some c) :
    c.received ++ c.inTransit = sends es := by
  refine exec_trace (P := fun es c => c.received ++ c.inTransit = sends es) rfl ?_ h
  intro es c e c' _ ih hstep
  rw [sends_append, ← ih]
  cases e with
  | send a =>
      cases hstep
      exact (List.append_assoc _ _ _).symm
  | receive =>
      obtain ⟨inTransit, received⟩ := c
      cases inTransit with
      | nil => cases hstep
      | cons a rest =>
          cases hstep
          show received ++ [a] ++ rest = received ++ a :: rest ++ []
          rw [List.append_nil, List.append_assoc, List.singleton_append]

end Channel

end Lib
end Footscreen
