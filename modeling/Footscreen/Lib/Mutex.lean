import Mathlib.Logic.Function.Basic

/-!
# `Lib.Mutex` — threads that share one mutex

`points t` is where thread `t` is, and `holder` the thread that has locked the mutex. A point may lie
`inside` the locked region, and a thread at a point that is `gone` has ended, with the mutex or without.
`Locked` says that the two fit together. It is kept by the steps that stay on their side (`Locked.go`), by
`Locked.lock` and `Locked.unlock`, and by a thread's end (`Locked.finish`); at most one thread is inside
(`Locked.exclusive`).
-/

namespace Footscreen
namespace Lib

variable {τ π : Type*} {inside gone : π → Prop} {points : τ → π} {holder : Option τ}
  {t : τ} {p : π}

structure Locked (inside gone : π → Prop) (points : τ → π) (holder : Option τ) : Prop where
  holds : ∀ t, inside (points t) → holder = some t
  held  : ∀ t, holder = some t → inside (points t) ∨ gone (points t)

namespace Locked

/-- **Mutual exclusion.** -/
theorem exclusive {s : τ} (h : Locked inside gone points holder) (hs : inside (points s))
    (ht : inside (points t)) : s = t :=
  Option.some.inj ((h.holds s hs).symm.trans (h.holds t ht))

/-- A thread outside that has not ended holds nothing. -/
theorem not_held (h : Locked inside gone points holder) (hout : ¬ inside (points t))
    (hgone : ¬ gone (points t)) : holder ≠ some t := by
  intro ht
  rcases h.held t ht with hin | hend
  · exact hout hin
  · exact hgone hend

variable [DecidableEq τ]

/-- A step that stays inside, or outside. -/
theorem go (h : Locked inside gone points holder) (hgone : ¬ gone (points t))
    (hp : inside p ↔ inside (points t)) :
    Locked inside gone (Function.update points t p) holder := by
  constructor
  · intro u hu
    by_cases hut : u = t
    · subst hut
      rw [Function.update_self] at hu
      exact h.holds u (hp.mp hu)
    · rw [Function.update_of_ne hut] at hu
      exact h.holds u hu
  · intro u hu
    by_cases hut : u = t
    · subst hut
      rw [Function.update_self]
      rcases h.held u hu with hin | hend
      · exact Or.inl (hp.mpr hin)
      · exact absurd hend hgone
    · rw [Function.update_of_ne hut]
      exact h.held u hu

/-- The thread that locks is the first one inside. -/
theorem lock (h : Locked inside gone points holder) (hfree : holder = none) (hp : inside p) :
    Locked inside gone (Function.update points t p) (some t) := by
  constructor
  · intro u hu
    by_cases hut : u = t
    · rw [hut]
    · rw [Function.update_of_ne hut] at hu
      have hno : (none : Option τ) = some u := hfree ▸ h.holds u hu
      cases hno
  · intro u hu
    obtain rfl : t = u := Option.some.inj hu
    rw [Function.update_self]
    exact Or.inl hp

theorem unlock (h : Locked inside gone points holder) (ht : inside (points t)) (hp : ¬ inside p) :
    Locked inside gone (Function.update points t p) none := by
  constructor
  · intro u hu
    by_cases hut : u = t
    · subst hut
      rw [Function.update_self] at hu
      exact absurd hu hp
    · rw [Function.update_of_ne hut] at hu
      exact absurd (h.exclusive hu ht) hut
  · intro u hu
    cases hu

/-- A thread may end anywhere. -/
theorem finish (h : Locked inside gone points holder) (hp : gone p) (hout : ¬ inside p) :
    Locked inside gone (Function.update points t p) holder := by
  constructor
  · intro u hu
    by_cases hut : u = t
    · subst hut
      rw [Function.update_self] at hu
      exact absurd hu hout
    · rw [Function.update_of_ne hut] at hu
      exact h.holds u hu
  · intro u hu
    by_cases hut : u = t
    · subst hut
      rw [Function.update_self]
      exact Or.inr hp
    · rw [Function.update_of_ne hut]
      exact h.held u hu

end Locked

end Lib
end Footscreen
