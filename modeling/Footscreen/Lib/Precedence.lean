import Footscreen.Lib.Run

/-!
# `Lib.Precedence` — what comes before what in a run

`OnlyAfter p q` lets no `q` happen before the first `p`, and `NeverFrom p q` no `q` from the first `p` on.
Where a flag of the state is raised by the events `p` and by no others, to check the flag at every `q` is
the first of the two (`guarded_iff_onlyAfter`); where it is lowered by them, the second
(`guarded_iff_neverFrom`).
-/

namespace Footscreen
namespace Lib

variable {σ α : Type*}

/-- No `q` before the first `p`. -/
def OnlyAfter (p q : α → Bool) (es : List α) : Prop := ∀ e ∈ es.takeWhile fun e => !p e, q e = false

/-- No `q` from the first `p` on. -/
def NeverFrom (p q : α → Bool) (es : List α) : Prop := ∀ e ∈ es.dropWhile fun e => !p e, q e = false

instance (p q : α → Bool) (es : List α) : Decidable (OnlyAfter p q es) :=
  inferInstanceAs (Decidable (∀ e ∈ _, _))

instance (p q : α → Bool) (es : List α) : Decidable (NeverFrom p q es) :=
  inferInstanceAs (Decidable (∀ e ∈ _, _))

variable {p q : α → Bool} {step : σ → α → Option σ} {J flag : σ → Prop} {s s' : σ} {es : List α} {e : α}

@[simp] theorem onlyAfter_nil : OnlyAfter p q [] := fun _ he => absurd he List.not_mem_nil

@[simp] theorem neverFrom_nil : NeverFrom p q [] := fun _ he => absurd he List.not_mem_nil

theorem onlyAfter_cons : OnlyAfter p q (e :: es) ↔ p e = true ∨ q e = false ∧ OnlyAfter p q es := by
  unfold OnlyAfter
  cases hp : p e with
  | true => simp [hp]
  | false => simp [hp]

theorem neverFrom_cons :
    NeverFrom p q (e :: es) ↔
      if p e then q e = false ∧ ∀ f ∈ es, q f = false else NeverFrom p q es := by
  unfold NeverFrom
  cases hp : p e with
  | true => simp [hp]
  | false => simp [hp]

/-- To check a flag that is down is not to happen. -/
theorem checked_iff (hdown : ¬ flag s) : (q e = true → flag s) ↔ q e = false := by
  rw [← Bool.not_eq_true]
  exact ⟨fun hq h => hdown (hq h), fun hq h => absurd h hq⟩

/-- A flag that is down and stays down, checked at every `q`. -/
theorem guarded_iff_never (hJ : J s) (hdown : ¬ flag s)
    (hinv : ∀ {u e t}, J u → step u e = some t → J t)
    (hstep : ∀ {u e t}, J u → step u e = some t → flag t → flag u)
    (h : exec step s es = some s') :
    Guarded step (fun u e => q e = true → flag u) s es ↔ ∀ e ∈ es, q e = false := by
  induction es generalizing s with
  | nil => exact iff_of_true trivial fun e he => absurd he List.not_mem_nil
  | cons e es ih =>
      obtain ⟨u, hu, hrun⟩ := Option.bind_eq_some_iff.mp h
      have hrest := ih (hinv hJ hu) (fun hup => hdown (hstep hJ hu hup)) hrun
      rw [List.forall_mem_cons, ← checked_iff (q := q) (e := e) hdown, ← hrest]
      constructor
      · rintro ⟨he, hg⟩
        exact ⟨he, hg u hu⟩
      · rintro ⟨he, hg⟩
        exact guarded_cons_of he hu hg

/-- **A flag that `p` raises**, checked at every `q`. -/
theorem guarded_iff_onlyAfter (flag : σ → Prop) (hpq : ∀ e, p e = true → q e = false)
    (hJ : J s) (hdown : ¬ flag s)
    (hinv : ∀ {u e t}, J u → step u e = some t → J t)
    (hstep : ∀ {u e t}, J u → step u e = some t → (flag t ↔ flag u ∨ p e = true))
    (h : exec step s es = some s') :
    Guarded step (fun u e => q e = true → flag u) s es ↔ OnlyAfter p q es := by
  induction es generalizing s with
  | nil => exact iff_of_true trivial onlyAfter_nil
  | cons e es ih =>
      obtain ⟨u, hu, hrun⟩ := Option.bind_eq_some_iff.mp h
      rw [onlyAfter_cons, ← checked_iff (q := q) (e := e) hdown]
      by_cases hp : p e = true
      · -- from here on the flag is up
        have hup : flag u := (hstep hJ hu).mpr (Or.inr hp)
        have hfirst : q e = true → flag s := (checked_iff hdown).mpr (hpq e hp)
        have hrest : Guarded step (fun u e => q e = true → flag u) u es :=
          (guarded_of_forall fun _ _ => trivial : Guarded step (fun _ _ => True) u es).of_invariant
            (I := fun v => J v ∧ flag v) (fun hv _ _ => hv.2)
            (fun _ hv ht => ⟨hinv hv.1 ht, (hstep hv.1 ht).mpr (Or.inl hv.2)⟩) ⟨hinv hJ hu, hup⟩
        exact iff_of_true (guarded_cons_of hfirst hu hrest) (Or.inl hp)
      · have hdown' : ¬ flag u := by
          intro hup
          rcases (hstep hJ hu).mp hup with hs | hpe
          · exact hdown hs
          · exact hp hpe
        rw [← ih (hinv hJ hu) hdown' hrun]
        constructor
        · rintro ⟨he, hg⟩
          exact Or.inr ⟨he, hg u hu⟩
        · rintro (hpe | ⟨he, hg⟩)
          · exact absurd hpe hp
          · exact guarded_cons_of he hu hg

/-- **A flag that `p` lowers**, checked at every `q`. -/
theorem guarded_iff_neverFrom (flag : σ → Prop) (hpq : ∀ e, p e = true → q e = false)
    (hJ : J s) (hup : flag s)
    (hinv : ∀ {u e t}, J u → step u e = some t → J t)
    (hstep : ∀ {u e t}, J u → step u e = some t → (flag t ↔ flag u ∧ ¬ p e = true))
    (h : exec step s es = some s') :
    Guarded step (fun u e => q e = true → flag u) s es ↔ NeverFrom p q es := by
  induction es generalizing s with
  | nil => exact iff_of_true trivial neverFrom_nil
  | cons e es ih =>
      obtain ⟨u, hu, hrun⟩ := Option.bind_eq_some_iff.mp h
      have hfirst : q e = true → flag s := fun _ => hup
      rw [neverFrom_cons]
      by_cases hp : p e = true
      · have hdown : ¬ flag u := fun hu' => ((hstep hJ hu).mp hu').2 hp
        have hrest := guarded_iff_never (q := q) (hinv hJ hu) hdown hinv
          (fun hv ht hup => ((hstep hv ht).mp hup).1) hrun
        rw [if_pos hp, ← hrest]
        constructor
        · rintro ⟨_, hg⟩
          exact ⟨hpq e hp, hg u hu⟩
        · rintro ⟨_, hg⟩
          exact guarded_cons_of hfirst hu hg
      · rw [if_neg hp, ← ih (hinv hJ hu) ((hstep hJ hu).mpr ⟨hup, hp⟩) hrun]
        constructor
        · rintro ⟨_, hg⟩
          exact hg u hu
        · exact guarded_cons_of hfirst hu

end Lib
end Footscreen
