import Footscreen.Lib.Run
import Mathlib.Data.List.Forall2

/-!
# `Lib.Refinement` — runs of one system as runs of another

Two partial step functions and a relation `R` between their states. `Simulates` is the diagram of one step:
what the lower system does in one step, the upper one can do in a run, which may be empty. `Simulates.run`
is the diagram of whole runs; it keeps track of which part of the upper run stands for which event, and
`Simulates.run_flatMap` says it of events that always stand for the same.
-/

namespace Footscreen
namespace Lib

variable {σ τ α β : Type*} {step : σ → α → Option σ} {upper : τ → β → Option τ}
  {ok : σ → α → Prop} {shows : α → List β → Prop} {R : σ → τ → Prop}

/-- **The step diagram.** From related states, a step that meets `ok` is a run of the upper system that may
    stand for its event, again to related states. -/
structure Simulates (step : σ → α → Option σ) (upper : τ → β → Option τ) (ok : σ → α → Prop)
    (shows : α → List β → Prop) (R : σ → τ → Prop) : Prop where
  diagram : ∀ {s e s' t}, R s t → ok s e → step s e = some s' →
    ∃ fs t', shows e fs ∧ exec upper t fs = some t' ∧ R s' t'

/-- **The run diagram.** -/
theorem Simulates.run (hsim : Simulates step upper ok shows R) :
    ∀ {es : List α} {s s' : σ} {t : τ}, R s t → Guarded step ok s es → exec step s es = some s' →
      ∃ fss t', List.Forall₂ shows es fss ∧ exec upper t fss.flatten = some t' ∧ R s' t' := by
  intro es
  induction es with
  | nil =>
      intro s s' t hR _ h
      cases h
      exact ⟨[], t, .nil, rfl, hR⟩
  | cons e es ih =>
      intro s s' t hR hg h
      obtain ⟨u, hu, hrun⟩ := Option.bind_eq_some_iff.mp h
      obtain ⟨hok, hrest⟩ := hg
      obtain ⟨fs, v, hshows, hfs, hR'⟩ := hsim.diagram hR hok hu
      obtain ⟨fss, t', hall, hexec, hfinal⟩ := ih hR' (hrest u hu) hrun
      exact ⟨fs :: fss, t', .cons hshows hall, exec_append_of hfs hexec, hfinal⟩

/-- The run diagram, where each event stands for events of its own. -/
theorem Simulates.run_flatMap {label : α → List β}
    (hsim : Simulates step upper ok (fun e fs => fs = label e) R) {es : List α} {s s' : σ} {t : τ}
    (hR : R s t) (hg : Guarded step ok s es) (h : exec step s es = some s') :
    ∃ t', exec upper t (es.flatMap label) = some t' ∧ R s' t' := by
  obtain ⟨fss, t', hshows, hrun, hR'⟩ := hsim.run hR hg h
  have hlabels : fss = es.map label := by
    rw [← List.forall₂_eq_eq_eq, List.forall₂_map_right_iff]
    exact hshows.flip
  rw [hlabels] at hrun
  exact ⟨t', hrun, hR'⟩

/-! ## Labels -/

/-- What the events of a run stand for, where `label` says it for each event in its state. -/
def labels (step : σ → α → Option σ) (label : σ → α → List β) : σ → List α → List β
  | _, []      => []
  | s, e :: es => label s e ++ (step s e).elim [] fun s' => labels step label s' es

theorem labels_snoc {label : σ → α → List β} {es : List α} {s s' : σ} (e : α)
    (h : exec step s es = some s') :
    labels step label s (es ++ [e]) = labels step label s es ++ label s' e := by
  induction es generalizing s with
  | nil =>
      cases h
      show label s' e ++ (step s' e).elim [] (fun _ => []) = [] ++ label s' e
      cases step s' e <;> exact List.append_nil _
  | cons f es ih =>
      obtain ⟨u, hu, hrun⟩ := Option.bind_eq_some_iff.mp h
      rw [List.cons_append, labels, labels, hu]
      show label s f ++ labels step label u (es ++ [e]) = _
      rw [ih hrun, ← List.append_assoc]
      rfl

end Lib
end Footscreen
