import Mathlib.Data.List.GetD
import Mathlib.Data.List.Pairwise
import Mathlib.Data.List.Sort

/-!
# `Lib.Median` — the middle of a list

A property holds of `Most` elements of a list if it holds of more than half of them; two properties that
do have an element in common (`Most.exists_both`). A median is a value that most elements are not above
and most are not below (`IsMedian`): what is known of most elements bounds it, however wild the others
are. Lists of odd length have one, in the middle of the sorted list (`isMedian_median`).
-/

namespace Footscreen
namespace Lib

variable {α β : Type*} {p q : α → Prop} [DecidablePred p] [DecidablePred q] {l : List α}

/-! ## Majorities -/

/-- The property holds of more than half of the elements. -/
def Most (p : α → Prop) [DecidablePred p] (l : List α) : Prop := l.length < 2 * l.countP p

instance : Decidable (Most p l) := inferInstanceAs (Decidable (_ < _))

theorem Most.mono (h : Most p l) (hpq : ∀ a ∈ l, p a → q a) : Most q l := by
  have hcount : l.countP p ≤ l.countP q := by
    apply List.countP_mono_left
    intro a ha hpa
    exact decide_eq_true (hpq a ha (of_decide_eq_true hpa))
  unfold Most at h ⊢
  omega

/-- It is enough that the property holds throughout a part that is more than half. -/
theorem most_of_sublist {part : List α} (hpart : part.Sublist l) (hlength : l.length < 2 * part.length)
    (h : ∀ a ∈ part, p a) : Most p l := by
  have hall : part.countP p = part.length :=
    List.countP_eq_length.mpr fun a ha => decide_eq_true (h a ha)
  have hcount : part.countP p ≤ l.countP p := hpart.countP_le
  unfold Most
  omega

theorem Most.perm {l' : List α} (h : Most p l) (hperm : l.Perm l') : Most p l' := by
  unfold Most at h ⊢
  rw [← hperm.countP_eq, ← hperm.length_eq]
  exact h

theorem most_map {p : β → Prop} [DecidablePred p] {f : α → β} :
    Most p (l.map f) ↔ Most (fun a => p (f a)) l := by
  unfold Most
  rw [List.length_map, List.countP_map]
  exact Iff.rfl

/-- **Two majorities** have an element in common. -/
theorem Most.exists_both (hp : Most p l) (hq : Most q l) : ∃ a ∈ l, p a ∧ q a := by
  by_contra hnone
  have hsum : ∀ l : List α, (∀ a ∈ l, ¬ (p a ∧ q a)) → l.countP p + l.countP q ≤ l.length := by
    intro l
    induction l with
    | nil => intro _; exact Nat.le_refl 0
    | cons a l ih =>
        intro hno
        have hrest := ih fun b hb => hno b (List.mem_cons_of_mem a hb)
        have ha := hno a List.mem_cons_self
        simp only [List.countP_cons, List.length_cons, decide_eq_true_eq]
        split_ifs with hpa hqa hqa
        · exact absurd ⟨hpa, hqa⟩ ha
        · omega
        · omega
        · omega
  have hle := hsum l fun a ha hboth => hnone ⟨a, ha, hboth⟩
  unfold Most at hp hq
  omega

/-! ## Medians -/

variable [LinearOrder β] {l : List β} {m : β}

/-- At least half of the elements are not above the value, and at least half are not below it. -/
structure IsMedian (m : β) (l : List β) : Prop where
  le : Most (· ≤ m) l
  ge : Most (m ≤ ·) l

/-- The element in the middle of the sorted list. -/
def median (l : List β) (default : β) : β := (l.insertionSort (· ≤ ·)).getD (l.length / 2) default

/-- **The middle** of a list of odd length is its median. -/
theorem isMedian_median (h : l.length % 2 = 1) (default : β) : IsMedian (median l default) l := by
  obtain ⟨s, hs⟩ : ∃ s, s = l.insertionSort (· ≤ ·) := ⟨_, rfl⟩
  have hperm : s.Perm l := hs ▸ List.perm_insertionSort (· ≤ ·) l
  have hsorted : s.Pairwise (· ≤ ·) := hs ▸ List.pairwise_insertionSort (· ≤ ·) l
  have hlength : s.length = l.length := hperm.length_eq
  have hmiddle : l.length / 2 < s.length := by omega
  have hmedian : median l default = s[l.length / 2] := by
    rw [median, ← hs, List.getD_eq_getElem _ _ hmiddle]
  have hrel : ∀ i j (hi : i < s.length) (hj : j < s.length), i ≤ j → s[i] ≤ s[j] :=
    fun i j hi hj hij => hsorted.rel_get_of_le (a := ⟨i, hi⟩) (b := ⟨j, hj⟩) hij
  rw [hmedian]
  constructor
  · -- the middle, and what comes before it
    refine (most_of_sublist (List.take_sublist (l.length / 2 + 1) s) ?_ ?_).perm hperm
    · rw [List.length_take]
      omega
    · intro a ha
      obtain ⟨i, hi, rfl⟩ := List.mem_take_iff_getElem.mp ha
      exact hrel _ _ _ _ (by omega)
  · -- the middle, and what comes behind it
    refine (most_of_sublist (List.drop_sublist (l.length / 2) s) ?_ ?_).perm hperm
    · rw [List.length_drop]
      omega
    · intro a ha
      obtain ⟨i, hi, rfl⟩ := List.mem_drop_iff_getElem.mp ha
      exact hrel _ _ _ _ (by omega)

end Lib
end Footscreen
