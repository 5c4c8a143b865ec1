import Mathlib.Data.List.MinMax
import Mathlib.Data.List.Nodup

/-!
# `Lib.Selection` — one element of a list

An element that is found by its index among those with a property has a place in the list
(`exists_split_of_filter`). Where the keys are distinct, a search by key finds its element (`find?_key`),
and a change of all elements with a key is a change at one place alone (`map_key_split`). A loop that keeps
the first best element so far, in whatever form, is a fold of `List.argAux` (`foldl_argAux`), and so
computes `List.argmax` or `List.argmin`.
-/

namespace Footscreen
namespace Lib

variable {α κ : Type*} {p : α → Bool} {l before after : List α} {a : α} {i : Nat}

/-- The `i`-th element with a property comes behind `i` others with it. -/
theorem exists_split_of_filter (h : (l.filter p)[i]? = some a) :
    ∃ before after, l = before ++ a :: after ∧ (before.filter p).length = i ∧ p a = true := by
  induction l generalizing i with
  | nil => cases h
  | cons b l ih =>
      cases hb : p b with
      | false =>
          rw [List.filter_cons_of_neg (by rw [hb]; exact Bool.false_ne_true)] at h
          obtain ⟨before, after, rfl, hlength, ha⟩ := ih h
          refine ⟨b :: before, after, rfl, ?_, ha⟩
          rw [List.filter_cons_of_neg (by rw [hb]; exact Bool.false_ne_true), hlength]
      | true =>
          rw [List.filter_cons_of_pos hb] at h
          cases i with
          | zero =>
              obtain rfl : b = a := Option.some.inj h
              exact ⟨[], l, rfl, rfl, hb⟩
          | succ i =>
              rw [List.getElem?_cons_succ] at h
              obtain ⟨before, after, rfl, hlength, ha⟩ := ih h
              refine ⟨b :: before, after, rfl, ?_, ha⟩
              rw [List.filter_cons_of_pos hb, List.length_cons, hlength]

/-- A search by a key that no two elements share finds its element. -/
theorem find?_key [DecidableEq κ] {key : α → κ}
    (h : (l.map key).Nodup) (ha : a ∈ l) : (l.find? fun b => key b == key a) = some a := by
  cases hfind : l.find? fun b => key b == key a with
  | none =>
      have hno := List.find?_eq_none.mp hfind a ha
      simp at hno
  | some b =>
      have hkey : key b = key a := by simpa using List.find?_some hfind
      rw [List.inj_on_of_nodup_map h (List.mem_of_find?_eq_some hfind) ha hkey]

/-- **A change by key** is a change at one place. -/
theorem map_key_split [DecidableEq κ] {key : α → κ} {f : α → α}
    (h : ((before ++ a :: after).map key).Nodup) :
    ((before ++ a :: after).map fun b => if key b = key a then f b else b) =
      before ++ f a :: after := by
  rw [List.map_append, List.map_cons, List.nodup_middle, List.nodup_cons] at h
  have hother : ∀ b, b ∈ before ∨ b ∈ after → (if key b = key a then f b else b) = b := by
    intro b hb
    apply if_neg
    intro heq
    apply h.1
    rw [← heq, ← List.map_append]
    exact List.mem_map_of_mem (List.mem_append.mpr hb)
  have hbefore : (before.map fun b => if key b = key a then f b else b) = before := by
    refine (List.map_congr_left ?_).trans (List.map_id' before)
    exact fun b hb => hother b (Or.inl hb)
  have hafter : (after.map fun b => if key b = key a then f b else b) = after := by
    refine (List.map_congr_left ?_).trans (List.map_id' after)
    exact fun b hb => hother b (Or.inr hb)
  rw [List.map_append, List.map_cons, hbefore, hafter, if_pos rfl]

/-- The place where a list is split is the one that is modified. -/
theorem modify_split {f : α → α} :
    (before ++ a :: after).modify before.length f = before ++ f a :: after := by
  induction before with
  | nil => rfl
  | cons b before ih =>
      rw [List.cons_append, List.length_cons, List.modify_succ_cons, ih]
      rfl

/-- A change that sets what is read. -/
theorem map_modify_set {β : Type*} {f : α → α} {read : α → β} {b : β} (h : ∀ a, read (f a) = b) (i : Nat) :
    (l.modify i f).map read = (l.map read).set i b := by
  induction l generalizing i with
  | nil => rw [List.modify_nil, List.map_nil, List.set_nil]
  | cons a l ih =>
      cases i with
      | zero => exact congrArg (· :: _) (h a)
      | succ i => exact congrArg (read a :: ·) (ih i)

/-- A change that keeps what is read. -/
theorem map_modify_keep {β : Type*} {f : α → α} {read : α → β} (h : ∀ a, read (f a) = read a) (i : Nat) :
    (l.modify i f).map read = l.map read := by
  induction l generalizing i with
  | nil => rw [List.modify_nil]
  | cons a l ih =>
      cases i with
      | zero => exact congrArg (· :: _) (h a)
      | succ i => exact congrArg (read a :: ·) (ih i)

/-- Elements that are set to one value, at some indices. -/
theorem getElem?_foldl_set {β : Type*} (is : List β) (index : β → Nat) (a : α) (k : Nat) :
    (is.foldl (fun l i => l.set (index i) a) l)[k]? =
      if k ∈ is.map index ∧ k < l.length then some a else l[k]? := by
  induction is generalizing l with
  | nil => rw [List.foldl_nil, List.map_nil, if_neg (fun h => List.not_mem_nil h.1)]
  | cons i is ih =>
      rw [List.foldl_cons, ih, List.length_set]
      by_cases hk : k = index i
      · subst hk
        by_cases hlt : index i < l.length
        · simp [hlt]
        · simp [hlt]
      · have hmem : k ∈ (i :: is).map index ↔ k ∈ is.map index := by
          rw [List.map_cons, List.mem_cons, or_iff_right hk]
        rw [List.getElem?_set_ne (Ne.symm hk), if_congr (and_congr_left' hmem) rfl rfl]

/-- **The best so far**, as `encode` keeps it in the state of a loop. -/
theorem foldl_argAux {σ : Type*} (r : α → α → Prop) [DecidableRel r] (encode : Option α → σ)
    {step : σ → α → σ} {P : α → Prop} (hfirst : ∀ a, P a → step (encode none) a = encode (some a))
    (hnext : ∀ b a, P b → P a → step (encode (some b)) a = encode (if r a b then some a else some b))
    {best : Option α} (hbest : ∀ b ∈ best, P b) (hl : ∀ a ∈ l, P a) :
    l.foldl step (encode best) = encode (l.foldl (List.argAux r) best) := by
  induction l generalizing best with
  | nil => rfl
  | cons a l ih =>
      obtain ⟨ha, hrest⟩ := List.forall_mem_cons.mp hl
      rw [List.foldl_cons, List.foldl_cons]
      cases best with
      | none =>
          rw [hfirst a ha]
          refine ih ?_ hrest
          rintro b ⟨⟩
          exact ha
      | some b =>
          have hb := hbest b rfl
          have haux : List.argAux r (some b) a = if r a b then some a else some b := rfl
          rw [hnext b a hb ha, haux]
          split
          · refine ih ?_ hrest
            rintro c ⟨⟩
            exact ha
          · refine ih ?_ hrest
            rintro c ⟨⟩
            exact hb

end Lib
end Footscreen
