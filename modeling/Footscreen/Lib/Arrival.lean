import Footscreen.Lib.Replica
import Mathlib.Data.List.Perm.Subperm

/-!
# `Lib.Arrival` — the order of first arrival

Values arrive one at a time, some of them repeatedly. `InOrder p v`: among the arrivals `v`, those of the
list `p` arrived first in the order of `p`, without gaps. An arrival keeps that if everything in front of
it in `p` has arrived (`InOrder.snoc`); once all of `p` has arrived, the order of first arrival is that
of `p` (`InOrder.complete`).
-/

namespace Footscreen
namespace Lib

variable {κ : Type*} [DecidableEq κ] {a : κ} {before after p v w : List κ}

/-- The values of `p` have first arrived in order: those that have are a prefix of `p`. -/
def InOrder (p v : List κ) : Prop := v.eraseDups.filter (fun a => decide (a ∈ p)) <+: p

theorem inOrder_nil : InOrder p [] := List.nil_prefix

/-- The order of first arrival, of some arrivals and of more. -/
theorem eraseDups_mono (v w : List κ) : v.eraseDups <+: (v ++ w).eraseDups := by
  rw [List.eraseDups_append]
  exact List.prefix_append _ _

/-- What held of more arrivals held of fewer. -/
theorem InOrder.mono (h : InOrder p w) (hv : v <+: w) : InOrder p v := by
  obtain ⟨rest, rfl⟩ := hv
  exact ((eraseDups_mono v rest).filter _).trans h

/-- A value that is not in `p` may arrive at any time. -/
theorem InOrder.snoc_other (h : InOrder p v) (ha : a ∉ p) : InOrder p (v ++ [a]) := by
  unfold InOrder
  rw [eraseDups_snoc]
  split
  · exact h
  · rw [List.filter_append, List.filter_cons_of_neg (by simp [ha]), List.filter_nil, List.append_nil]
    exact h

omit [DecidableEq κ] in
/-- A prefix without `a` that has all values in front of `a` ends where they do. -/
theorem prefix_eq_before {l : List κ} (hl : l <+: before ++ a :: after) (hn : before.Nodup)
    (hbefore : ∀ b ∈ before, b ∈ l) (ha : a ∉ l) : l = before := by
  -- `l` has all of `before`, so it is as long, and `before` is a prefix of it
  have hlength : before.length ≤ l.length := (List.subperm_of_subset hn hbefore).length_le
  obtain ⟨rest, hrest⟩ := hl
  have hprefix : before <+: l :=
    List.prefix_of_prefix_length_le (List.prefix_append before (a :: after))
      (hrest ▸ List.prefix_append l rest) hlength
  obtain ⟨more, rfl⟩ := hprefix
  rw [List.append_assoc, List.append_cancel_left_eq] at hrest
  cases more with
  | nil => exact List.append_nil before
  | cons b more =>
      obtain ⟨rfl, _⟩ := List.cons.inj hrest
      exact absurd (List.mem_append_right before List.mem_cons_self) ha

/-- **An arrival in turn**: everything in front of it in `p` has arrived. -/
theorem InOrder.snoc (h : InOrder (before ++ a :: after) v) (hn : before.Nodup)
    (hbefore : ∀ b ∈ before, b ∈ v) : InOrder (before ++ a :: after) (v ++ [a]) := by
  unfold InOrder at h ⊢
  rw [eraseDups_snoc]
  split
  · exact h
  · next ha =>
      have hmem : a ∈ before ++ a :: after := List.mem_append_right _ List.mem_cons_self
      have harrived : v.eraseDups.filter (fun b => decide (b ∈ before ++ a :: after)) = before := by
        apply prefix_eq_before h hn
        · intro b hb
          rw [List.mem_filter, List.mem_eraseDups]
          exact ⟨hbefore b hb, decide_eq_true (List.mem_append_left _ hb)⟩
        · intro hcontra
          rw [List.mem_filter, List.mem_eraseDups] at hcontra
          exact ha hcontra.1
      have hself : [a].filter (fun b => decide (b ∈ before ++ a :: after)) = [a] :=
        List.filter_cons_of_pos (decide_eq_true hmem)
      rw [List.filter_append, harrived, hself]
      exact ⟨after, by simp⟩

/-- **Everything has arrived**: the order of first arrival is that of `p`. -/
theorem InOrder.complete (h : InOrder p v) (hn : p.Nodup) (hall : ∀ a ∈ p, a ∈ v) :
    v.eraseDups.filter (fun a => decide (a ∈ p)) = p := by
  apply List.IsPrefix.eq_of_length_le h
  apply List.Subperm.length_le
  apply List.subperm_of_subset hn
  intro a ha
  rw [List.mem_filter, List.mem_eraseDups]
  exact ⟨hall a ha, decide_eq_true ha⟩

end Lib
end Footscreen
