import Mathlib.Data.List.Induction

/-!
# `Lib.Run` — runs of a partial step function

A labelled transition system is given by `step : σ → α → Option σ`: `step s e = none` says that the
event `e` cannot happen in `s`. `exec` runs a list of events. This file packages the inductions over
runs once:

* `exec_history` — a predicate of the events so far and the state reached, preserved by each step;
* `exec_trace`, `exec_invariant` — its special cases without a side condition, and for a predicate of
  the state;
* `exec_guarded` — the same when every step of the run also meets a side condition `ok` on the event
  and the state it starts in (`Guarded`), and `Guarded.of_invariant`, one side condition from another;
  side conditions are put together with `Guarded.and`, and runs taken apart with `guarded_append`;
* `exec_iff_guarded` — a predicate that a step keeps if and only if it meets `ok`;
* `exec_always_iff`, `exec_always_iff_of` — the same of a predicate that may come back later, at every
  point of the run, and of what an invariant promises;
* `exec_isSome_iff` — when a run goes through, from when each of its events can happen;
* `exec_part` — what a run is to a part of the state that only some of its events concern.

`getElem?_of_drop` is for runs that go through a list with a cursor.
-/

namespace Footscreen
namespace Lib

variable {σ α : Type*}

/-- Run the events of a list in order; `none` as soon as one of them cannot happen. -/
def exec (step : σ → α → Option σ) : σ → List α → Option σ
  | s, []      => some s
  | s, e :: es => (step s e).bind fun s' => exec step s' es

/-- Every step of the run meets `ok` in the state it starts in. -/
def Guarded (step : σ → α → Option σ) (ok : σ → α → Prop) : σ → List α → Prop
  | _, []      => True
  | s, e :: es => ok s e ∧ ∀ s', step s e = some s' → Guarded step ok s' es

variable {step : σ → α → Option σ} {ok : σ → α → Prop} {s s' : σ} {es fs : List α} {e : α}

@[simp] theorem exec_nil : exec step s [] = some s := rfl

@[simp] theorem exec_cons :
    exec step s (e :: es) = (step s e).bind fun s' => exec step s' es := rfl

theorem exec_append :
    exec step s (es ++ fs) = (exec step s es).bind fun s' => exec step s' fs := by
  induction es generalizing s with
  | nil => rfl
  | cons e es ih =>
      rw [List.cons_append, exec_cons, exec_cons]
      cases step s e with
      | none => rfl
      | some t => exact ih

/-- One run after the other. -/
theorem exec_append_of {t u : σ} (hes : exec step s es = some t) (hfs : exec step t fs = some u) :
    exec step s (es ++ fs) = some u := by
  rw [exec_append, hes]
  exact hfs

/-- The last step of a run, split off. -/
theorem exec_snoc {t : σ} :
    exec step s (es ++ [e]) = some t ↔ ∃ u, exec step s es = some u ∧ step u e = some t := by
  rw [exec_append, Option.bind_eq_some_iff]
  simp

theorem guarded_snoc :
    Guarded step ok s (es ++ [e]) ↔
      Guarded step ok s es ∧ ∀ u, exec step s es = some u → ok u e := by
  induction es generalizing s with
  | nil => simp [Guarded]
  | cons f es ih =>
      rw [List.cons_append, Guarded, Guarded]
      constructor
      · rintro ⟨hok, hrest⟩
        refine ⟨⟨hok, fun t ht => (ih.mp (hrest t ht)).1⟩, ?_⟩
        intro u hu
        obtain ⟨t, ht, htu⟩ := Option.bind_eq_some_iff.mp hu
        exact (ih.mp (hrest t ht)).2 u htu
      · rintro ⟨⟨hok, hrest⟩, hlast⟩
        refine ⟨hok, fun t ht => ih.mpr ⟨hrest t ht, fun u hu => hlast u ?_⟩⟩
        rw [exec_cons, ht]
        exact hu

/-- A guarded run, extended at its front. -/
theorem guarded_cons_of (hok : ok s e) (hstep : step s e = some s')
    (hrest : Guarded step ok s' es) : Guarded step ok s (e :: es) := by
  refine ⟨hok, ?_⟩
  intro t ht
  obtain rfl : s' = t := Option.some.inj (hstep.symm.trans ht)
  exact hrest

/-- A side condition that can be checked can be checked along a run. -/
def Guarded.decide [∀ s e, Decidable (ok s e)] :
    ∀ (s : σ) (es : List α), Decidable (Guarded step ok s es)
  | _, []      => isTrue trivial
  | s, e :: es =>
      match h : step s e with
      | none =>
          decidable_of_iff (ok s e)
            ⟨fun hok => ⟨hok, fun t ht => by rw [h] at ht; cases ht⟩, fun hg => hg.1⟩
      | some t =>
          have : Decidable (Guarded step ok t es) := Guarded.decide t es
          decidable_of_iff (ok s e ∧ Guarded step ok t es)
            ⟨fun hg => guarded_cons_of hg.1 h hg.2, fun hg => ⟨hg.1, hg.2 t h⟩⟩

instance [∀ s e, Decidable (ok s e)] : Decidable (Guarded step ok s es) := Guarded.decide s es

/-- **Induction over runs.** `P` may speak about the events so far; every step of the run meets `ok`. -/
theorem exec_history {P : List α → σ → Prop} (hinit : P [] s)
    (hstep : ∀ {es u e t}, exec step s es = some u → ok u e → P es u → step u e = some t →
      P (es ++ [e]) t) :
    ∀ {es t}, Guarded step ok s es → exec step s es = some t → P es t := by
  intro es
  induction es using List.reverseRecOn with
  | nil =>
      intro t _ h
      rw [exec_nil, Option.some.injEq] at h
      exact h ▸ hinit
  | append_singleton es e ih =>
      intro t hg h
      obtain ⟨u, hu, ht⟩ := exec_snoc.mp h
      obtain ⟨hg, hok⟩ := guarded_snoc.mp hg
      exact hstep hu (hok u hu) (ih hg hu) ht

/-- An invariant of the steps that meet `ok` holds after every guarded run. -/
theorem exec_guarded {I : σ → Prop} (hstep : ∀ {u e t}, ok u e → I u → step u e = some t → I t)
    (hinit : I s) (hg : Guarded step ok s es) (h : exec step s es = some s') : I s' :=
  exec_history (P := fun _ u => I u) hinit (fun _ hok hu ht => hstep hok hu ht) hg h

/-- A side condition on the events alone. -/
theorem guarded_of_mem (h : ∀ e ∈ es, ∀ u, ok u e) : Guarded step ok s es := by
  induction es generalizing s with
  | nil => trivial
  | cons e es ih =>
      obtain ⟨he, hes⟩ := List.forall_mem_cons.mp h
      exact ⟨he s, fun _ _ => ih hes⟩

theorem guarded_of_forall (h : ∀ u e, ok u e) : Guarded step ok s es :=
  guarded_of_mem fun e _ u => h u e

/-- A side condition that holds along runs with another one, by an invariant of those runs. -/
theorem Guarded.of_invariant {ok' : σ → α → Prop} {I : σ → Prop}
    (hok : ∀ {u e}, I u → ok u e → ok' u e)
    (hstep : ∀ {u e t}, ok u e → I u → step u e = some t → I t)
    (hinit : I s) (hg : Guarded step ok s es) : Guarded step ok' s es := by
  induction es generalizing s with
  | nil => trivial
  | cons e es ih =>
      obtain ⟨he, hrest⟩ := hg
      refine ⟨hok hinit he, ?_⟩
      intro t ht
      exact ih (hstep he hinit ht) (hrest t ht)

theorem Guarded.imp {ok' : σ → α → Prop} (hok : ∀ {u e}, ok u e → ok' u e)
    (hg : Guarded step ok s es) : Guarded step ok' s es :=
  hg.of_invariant (I := fun _ => True) (fun _ he => hok he) (fun _ _ _ => trivial) trivial

/-- Two side conditions at once. -/
theorem Guarded.and {ok' : σ → α → Prop} (h : Guarded step ok s es) (h' : Guarded step ok' s es) :
    Guarded step (fun s e => ok s e ∧ ok' s e) s es := by
  induction es generalizing s with
  | nil => trivial
  | cons e es ih =>
      obtain ⟨he, hrest⟩ := h
      obtain ⟨he', hrest'⟩ := h'
      exact ⟨⟨he, he'⟩, fun t ht => ih (hrest t ht) (hrest' t ht)⟩

/-- A guarded run, in two parts. -/
theorem guarded_append (hg : Guarded step ok s (es ++ fs)) (h : exec step s es = some s') :
    Guarded step ok s es ∧ Guarded step ok s' fs := by
  induction es generalizing s with
  | nil =>
      cases h
      exact ⟨trivial, hg⟩
  | cons e es ih =>
      obtain ⟨t, ht, hrun⟩ := Option.bind_eq_some_iff.mp h
      obtain ⟨he, hrest⟩ := hg
      obtain ⟨hes, hfs⟩ := ih (hrest t ht) hrun
      exact ⟨guarded_cons_of he ht hes, hfs⟩

/-- `exec_history` without a side condition. -/
theorem exec_trace {P : List α → σ → Prop} (hinit : P [] s)
    (hstep : ∀ {es u e t}, exec step s es = some u → P es u → step u e = some t → P (es ++ [e]) t)
    (h : exec step s es = some s') : P es s' :=
  have hg : Guarded step (fun _ _ => True) s es := guarded_of_forall fun _ _ => trivial
  exec_history hinit (fun hu _ hp ht => hstep hu hp ht) hg h

/-- An invariant of every step holds after every run. -/
theorem exec_invariant {I : σ → Prop} (hstep : ∀ {u e t}, I u → step u e = some t → I t)
    (hinit : I s) (h : exec step s es = some s') : I s' :=
  exec_trace (P := fun _ u => I u) hinit (fun _ hu ht => hstep hu ht) h

/-- A predicate that no step restores, and that a step keeps exactly when it meets `ok`, holds after a
    run exactly when every step meets `ok`. -/
theorem exec_iff_guarded {I : σ → Prop} (hinit : I s)
    (hback : ∀ {u e t}, step u e = some t → I t → I u)
    (hstep : ∀ {u e t}, I u → step u e = some t → (I t ↔ ok u e))
    (h : exec step s es = some s') : I s' ↔ Guarded step ok s es := by
  refine exec_trace (P := fun es u => I u ↔ Guarded step ok s es) ⟨fun _ => trivial, fun _ => hinit⟩
    (fun {es u e t} hu ih ht => ?_) h
  rw [guarded_snoc, ← ih]
  constructor
  · intro hI
    refine ⟨hback ht hI, ?_⟩
    intro u' hu'
    obtain rfl : u = u' := Option.some.inj (hu.symm.trans hu')
    exact (hstep (hback ht hI) ht).mp hI
  · rintro ⟨hI, hok⟩
    exact (hstep hI ht).mpr (hok u hu)

/-- An invariant `I` of the steps that meet `ok`, among those that meet `base`. What it promises, `P`, is
    broken by every other step, so it holds at every point of a run exactly when every step meets `ok`. -/
theorem exec_always_iff_of {base : σ → α → Prop} {I P : σ → Prop} (hinit : I s)
    (hIP : ∀ {u}, I u → P u)
    (hok : ∀ {u e t}, base u e → I u → step u e = some t → ok u e → I t)
    (hback : ∀ {u e t}, base u e → I u → step u e = some t → P t → ok u e)
    (hbase : Guarded step base s es) (h : exec step s es = some s') :
    (∀ fs, fs <+: es → ∀ t, exec step s fs = some t → P t) ↔ Guarded step ok s es := by
  induction es generalizing s with
  | nil =>
      refine ⟨fun _ => trivial, ?_⟩
      intro _ fs hfs t ht
      rw [List.prefix_nil.mp hfs] at ht
      cases ht
      exact hIP hinit
  | cons e es ih =>
      obtain ⟨u, hu, hrun⟩ := Option.bind_eq_some_iff.mp h
      obtain ⟨he, hrest⟩ := hbase
      have hfirst : ∀ fs, exec step s (e :: fs) = exec step u fs := fun fs => by
        rw [exec_cons, hu, Option.bind_some]
      constructor
      · intro hP
        have hfits : ok s e := hback he hinit hu (hP [e] ⟨es, rfl⟩ u (hfirst []))
        refine guarded_cons_of hfits hu ((ih (hok he hinit hu hfits) (hrest u hu) hrun).mp ?_)
        intro fs hfs t ht
        exact hP (e :: fs) (List.cons_prefix_cons.mpr ⟨rfl, hfs⟩) t ((hfirst fs).trans ht)
      · rintro ⟨hfits, hok'⟩ fs hfs t ht
        cases fs with
        | nil =>
            cases ht
            exact hIP hinit
        | cons f fs =>
            obtain ⟨rfl, hfs'⟩ := List.cons_prefix_cons.mp hfs
            exact (ih (hok he hinit hu hfits) (hrest u hu) hrun).mpr (hok' u hu) fs hfs' t
              ((hfirst fs).symm.trans ht)

/-- A predicate that a step from where it holds keeps exactly when it meets `ok`, in the states of an
    invariant `J`, holds at every point of a run exactly when every step meets `ok`. -/
theorem exec_always_iff {I J : σ → Prop} (hinit : I s) (hJ : J s)
    (hinv : ∀ {u e t}, J u → step u e = some t → J t)
    (hstep : ∀ {u e t}, J u → I u → step u e = some t → (I t ↔ ok u e))
    (h : exec step s es = some s') :
    (∀ fs, fs <+: es → ∀ t, exec step s fs = some t → I t) ↔ Guarded step ok s es := by
  have hbase : Guarded step (fun _ _ => True) s es := guarded_of_forall fun _ _ => trivial
  refine exec_always_iff_of (I := fun u => J u ∧ I u) ⟨hJ, hinit⟩ And.right ?_ ?_ hbase h
  · exact fun _ hu ht hok => ⟨hinv hu.1 ht, (hstep hu.1 hu.2 ht).mpr hok⟩
  · exact fun _ hu ht hI => (hstep hu.1 hu.2 ht).mp hI

/-- What has happened decides which events can happen: a run goes through exactly if each of them could. -/
theorem exec_isSome_iff {P : List α → σ → Prop} {can : List α → α → Prop} (hinit : P [] s)
    (hstep : ∀ {past t e u}, P past t → step t e = some u → P (past ++ [e]) u)
    (hcan : ∀ {past t} e, P past t → ((step t e).isSome ↔ can past e)) :
    (exec step s es).isSome ↔ ∀ past e, past ++ [e] <+: es → can past e := by
  induction es using List.reverseRecOn with
  | nil =>
      refine iff_of_true rfl ?_
      intro past e hprefix
      exact absurd (List.prefix_nil.mp hprefix) (by simp)
  | append_singleton es e ih =>
      constructor
      · intro hsome past f hprefix
        obtain ⟨u, hu⟩ := Option.isSome_iff_exists.mp hsome
        obtain ⟨t, ht, htu⟩ := exec_snoc.mp hu
        rcases List.prefix_concat_iff.mp hprefix with heq | hprefix
        · obtain ⟨rfl, hlast⟩ := List.append_inj' heq rfl
          obtain rfl : f = e := List.singleton_inj.mp hlast
          exact (hcan f (exec_trace hinit (fun _ hp hs => hstep hp hs) ht)).mp (by rw [htu]; rfl)
        · exact ih.mp (by rw [ht]; rfl) past f hprefix
      · intro hall
        have hbefore := ih.mpr fun past f hpast => hall past f (hpast.trans (List.prefix_append _ _))
        obtain ⟨t, ht⟩ := Option.isSome_iff_exists.mp hbefore
        have hP := exec_trace hinit (fun _ hp hs => hstep hp hs) ht
        obtain ⟨u, hu⟩ := Option.isSome_iff_exists.mp
          ((hcan e hP).mpr (hall es e (List.prefix_refl _)))
        rw [exec_snoc.mpr ⟨t, ht, hu⟩]
        rfl

/-- A run, as it is to the part `part` of the state: the events that `call` sees are steps of the part, all of
    them `ok`, and no other event changes it. -/
theorem exec_part {τ β : Type*} {step' : τ → β → Option τ} {call : α → Option β} {ok : β → Prop}
    (part : σ → τ)
    (hstep : ∀ {u e t}, step u e = some t → call e = none ∧ part t = part u ∨
      ∃ f, call e = some f ∧ ok f ∧ step' (part u) f = some (part t))
    (h : exec step s es = some s') :
    exec step' (part s) (es.filterMap call) = some (part s') ∧ ∀ f ∈ es.filterMap call, ok f := by
  refine exec_trace (P := fun es u => exec step' (part s) (es.filterMap call) = some (part u) ∧
    ∀ f ∈ es.filterMap call, ok f) ⟨rfl, nofun⟩ ?_ h
  rintro es u e t _ ⟨ih, hes⟩ ht
  rw [List.filterMap_append]
  rcases hstep ht with ⟨hnone, hpart⟩ | ⟨f, hf, hok, hstep'⟩
  · rw [List.filterMap_cons_none hnone, List.filterMap_nil, List.append_nil, hpart]
    exact ⟨ih, hes⟩
  · rw [List.filterMap_cons_some hf, List.filterMap_nil]
    refine ⟨exec_snoc.mpr ⟨_, ih, hstep'⟩, ?_⟩
    exact List.forall_mem_append.mpr ⟨hes, List.forall_mem_singleton.mpr hok⟩

/-- The element under a cursor, and the rest behind it. -/
theorem getElem?_of_drop {xs ys : List α} {x : α} {i : Nat} (h : xs.drop i = x :: ys) :
    xs[i]? = some x ∧ xs.drop (i + 1) = ys := by
  constructor
  · rw [← Nat.add_zero i, ← List.getElem?_drop, h]
    rfl
  · rw [← List.tail_drop, h]
    rfl

theorem getElem?_of_drop_nil {xs : List α} {i : Nat} (h : xs.drop i = []) : xs[i]? = none :=
  List.getElem?_eq_none (List.drop_eq_nil_iff.mp h)

end Lib
end Footscreen
