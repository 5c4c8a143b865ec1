import Mathlib.Data.List.Forall2

/-!
# `Lib.Pointwise` — what happens to each element of a list

`List.Forall₂ R xs ys` says that `ys` is `xs` with each element changed as `R` allows. For a reflexive and
transitive `R` this is kept by a change of one element (`forall₂_modify`), by loops (`forall₂_foldl`) and
by one change after the other (`forall₂_trans`); a property of the elements goes along (`forall_mem_of`).
-/

namespace Footscreen
namespace Lib

variable {α β : Type*} {R S : α → α → Prop} {xs ys zs : List α}

theorem forall₂_trans [IsTrans α R] (h : List.Forall₂ R xs ys) (h' : List.Forall₂ R ys zs) :
    List.Forall₂ R xs zs := by
  induction h generalizing zs with
  | nil =>
      cases h'
      exact List.Forall₂.nil
  | @cons x y _ _ hxy _ ih =>
      cases h' with
      | @cons _ z _ _ hyz h' => exact List.Forall₂.cons (IsTrans.trans x y z hxy hyz) (ih h')

/-- One element changes. -/
theorem forall₂_modify [Std.Refl R] {f : α → α} (xs : List α) (i : Nat)
    (hf : ∀ x, xs[i]? = some x → R x (f x)) : List.Forall₂ R xs (xs.modify i f) := by
  induction xs generalizing i with
  | nil =>
      cases i <;> exact List.Forall₂.nil
  | cons x xs ih =>
      cases i with
      | zero   => exact List.Forall₂.cons (hf x rfl) (List.forall₂_refl xs)
      | succ i => exact List.Forall₂.cons (Std.Refl.refl x) (ih i hf)

/-- A loop over changes. -/
theorem forall₂_foldl [Std.Refl R] [IsTrans α R] (f : List α → β → List α)
    (hf : ∀ xs b, List.Forall₂ R xs (f xs b)) (bs : List β) (xs : List α) :
    List.Forall₂ R xs (bs.foldl f xs) := by
  induction bs generalizing xs with
  | nil => exact List.forall₂_refl xs
  | cons b bs ih => exact forall₂_trans (hf xs b) (ih _)

/-- A map changes each element. -/
theorem forall₂_map (f : α → α) (xs : List α) (hf : ∀ x ∈ xs, R x (f x)) :
    List.Forall₂ R xs (xs.map f) := by
  rw [List.forall₂_map_right_iff]
  exact List.forall₂_same.mpr hf

/-- Properties before give properties after, and of the change. -/
theorem forall₂_of {P : α → Prop} (h : List.Forall₂ R xs ys) (hP : ∀ x ∈ xs, P x)
    (hRS : ∀ x y, P x → R x y → S x y) : List.Forall₂ S xs ys := by
  induction h with
  | nil => exact List.Forall₂.nil
  | @cons x y _ _ hxy _ ih =>
      have hrest := fun z hz => hP z (List.mem_cons_of_mem _ hz)
      exact List.Forall₂.cons (hRS x y (hP x List.mem_cons_self) hxy) (ih hrest)

/-- Each element has become one of the others. -/
theorem exists_mem_of {x : α} (h : List.Forall₂ R xs ys) (hx : x ∈ xs) : ∃ y ∈ ys, R x y := by
  induction h with
  | nil => cases hx
  | @cons x' y _ _ hxy _ ih =>
      rcases List.mem_cons.mp hx with rfl | hx
      · exact ⟨y, List.mem_cons_self, hxy⟩
      · obtain ⟨z, hz, hxz⟩ := ih hx
        exact ⟨z, List.mem_cons_of_mem _ hz, hxz⟩

theorem forall_mem_of {P Q : α → Prop} (h : List.Forall₂ R xs ys) (hP : ∀ x ∈ xs, P x)
    (hRQ : ∀ x y, P x → R x y → Q y) : ∀ y ∈ ys, Q y := by
  induction h with
  | nil =>
      intro y hy
      cases hy
  | @cons x y _ _ hxy _ ih =>
      have hrest := ih fun z hz => hP z (List.mem_cons_of_mem _ hz)
      intro z hz
      rcases List.mem_cons.mp hz with rfl | hz
      · exact hRQ x z (hP x List.mem_cons_self) hxy
      · exact hrest z hz

/-- What is counted before is counted after. -/
theorem countP_of {p : α → Bool} (h : List.Forall₂ R xs ys) (hR : ∀ x y, R x y → p y = p x) :
    ys.countP p = xs.countP p := by
  induction h with
  | nil => rfl
  | @cons x y _ _ hxy _ ih => rw [List.countP_cons, List.countP_cons, ih, hR x y hxy]

end Lib
end Footscreen
