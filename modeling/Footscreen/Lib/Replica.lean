import Mathlib.Data.List.Nodup
import Mathlib.Data.List.Induction

/-!
# `Lib.Replica` — a table built from updates

A replica that learns of a table's entries one at a time: `upsert` puts a new key at the end and gives a
known key its new value in place. `replay` does so for a list of updates.

* `keys_replay` / `mem_replay_iff`: the keys are those of the updates, in the order of their first
  appearance; each entry is the last update of its key.
* `upserts_snapshot`: sending a whole table again brings a replica up to date whose own entries are
  older keys followed by the table's, or by nothing. `Trails` packages that shape.
-/

namespace Footscreen
namespace Lib

variable {κ α : Type*} {k : κ} {a : α} {e : κ × α} {l l' es fs : List (κ × α)}

/-! ## The last update of a key -/

/-- `e` is the last update of its key. -/
def IsLast (es : List (κ × α)) (e : κ × α) : Prop :=
  ∃ before after, es = before ++ e :: after ∧ ∀ e' ∈ after, e'.1 ≠ e.1

theorem isLast_snoc {e' : κ × α} :
    IsLast (es ++ [e']) e ↔ e = e' ∨ IsLast es e ∧ e.1 ≠ e'.1 := by
  constructor
  · rintro ⟨before, after, heq, hafter⟩
    rcases List.eq_nil_or_concat after with rfl | ⟨after, e'', rfl⟩
    · have hsnoc := List.append_inj' heq rfl
      exact Or.inl (List.cons.inj hsnoc.2).1.symm
    · rw [List.concat_eq_append] at heq hafter
      have hsnoc : es ++ [e'] = (before ++ e :: after) ++ [e''] := by simpa using heq
      obtain ⟨rfl, hlast⟩ := List.append_inj' hsnoc rfl
      obtain rfl := (List.cons.inj hlast).1
      refine Or.inr ⟨⟨before, after, rfl, fun d hd => hafter d (List.mem_append_left _ hd)⟩, ?_⟩
      exact (hafter e' (List.mem_append_right _ List.mem_cons_self)).symm
  · rintro (rfl | ⟨⟨before, after, rfl, hafter⟩, hne⟩)
    · exact ⟨es, [], rfl, fun _ h => absurd h List.not_mem_nil⟩
    · refine ⟨before, after ++ [e'], by simp, ?_⟩
      intro d hd
      rcases List.mem_append.mp hd with hd | hd
      · exact hafter d hd
      · rw [List.mem_singleton.mp hd]
        exact hne.symm

/-! ## The table -/

variable [DecidableEq κ]

/-- Give the key a new value, in place, or append it. -/
def upsert (k : κ) (a : α) : List (κ × α) → List (κ × α)
  | []     => [(k, a)]
  | e :: l => if e.1 = k then (k, a) :: l else e :: upsert k a l

/-- Make the updates `es`, in order. -/
def upserts (l es : List (κ × α)) : List (κ × α) := es.foldl (fun l e => upsert e.1 e.2 l) l

/-- The replica that the updates `es` build. -/
def replay (es : List (κ × α)) : List (κ × α) := upserts [] es

@[simp] theorem upserts_nil : upserts l [] = l := rfl
@[simp] theorem upserts_cons : upserts l (e :: es) = upserts (upsert e.1 e.2 l) es := rfl

theorem upserts_append : upserts l (es ++ fs) = upserts (upserts l es) fs := by
  unfold upserts
  rw [List.foldl_append]

theorem replay_append : replay (es ++ fs) = upserts (replay es) fs := upserts_append

theorem replay_snoc : replay (es ++ [e]) = upsert e.1 e.2 (replay es) := replay_append

/-! ## One update -/

theorem upsert_of_not_mem (h : k ∉ l.map Prod.fst) : upsert k a l = l ++ [(k, a)] := by
  induction l with
  | nil => rfl
  | cons e l ih =>
      rw [List.map_cons, List.mem_cons, not_or] at h
      unfold upsert
      rw [if_neg (Ne.symm h.1), ih h.2]
      rfl

/-- Keys that are not the updated one pass the update on. -/
theorem upsert_append (h : k ∉ l.map Prod.fst) : upsert k a (l ++ l') = l ++ upsert k a l' := by
  induction l with
  | nil => rfl
  | cons e l ih =>
      rw [List.map_cons, List.mem_cons, not_or] at h
      rw [List.cons_append, upsert, if_neg (Ne.symm h.1), ih h.2]
      rfl

theorem keys_upsert :
    (upsert k a l).map Prod.fst =
      if k ∈ l.map Prod.fst then l.map Prod.fst else l.map Prod.fst ++ [k] := by
  induction l with
  | nil => rfl
  | cons e l ih =>
      unfold upsert
      by_cases he : e.1 = k
      · simp [he]
      · have hk : k ≠ e.1 := Ne.symm he
        by_cases hmem : k ∈ l.map Prod.fst
        · rw [if_pos hmem] at ih
          simp [he, ih, hmem]
        · rw [if_neg hmem] at ih
          simp only [if_neg he, List.map_cons, ih, List.mem_cons, hk, hmem, or_self, if_false,
            List.cons_append]

theorem nodup_upsert (h : (l.map Prod.fst).Nodup) : ((upsert k a l).map Prod.fst).Nodup := by
  rw [keys_upsert]
  split
  · exact h
  · next hmem =>
      rw [List.nodup_append]
      refine ⟨h, List.nodup_singleton k, fun b hb d hd heq => hmem ?_⟩
      rw [List.mem_singleton] at hd
      rw [← hd, ← heq]
      exact hb

/-- On distinct keys, an update replaces the value of its key. -/
theorem upsert_of_mem (h : (l.map Prod.fst).Nodup) (hk : k ∈ l.map Prod.fst) :
    upsert k a l = l.map fun e => if e.1 = k then (k, a) else e := by
  induction l with
  | nil => cases hk
  | cons e l ih =>
      rw [List.map_cons, List.nodup_cons] at h
      unfold upsert
      rw [List.map_cons]
      by_cases he : e.1 = k
      · rw [if_pos he, if_pos he]
        congr 1
        refine ((List.map_congr_left fun e' he' => if_neg ?_).trans (List.map_id' l)).symm
        intro heq
        rw [he, ← heq] at h
        exact h.1 (List.mem_map_of_mem he')
      · rw [List.map_cons, List.mem_cons] at hk
        rw [if_neg he, if_neg he, ih h.2 (hk.resolve_left (Ne.symm he))]

theorem mem_upsert (h : (l.map Prod.fst).Nodup) :
    e ∈ upsert k a l ↔ e = (k, a) ∨ e ∈ l ∧ e.1 ≠ k := by
  by_cases hk : k ∈ l.map Prod.fst
  · rw [upsert_of_mem h hk, List.mem_map]
    constructor
    · rintro ⟨e', he', rfl⟩
      by_cases hek : e'.1 = k
      · rw [if_pos hek]
        exact Or.inl rfl
      · rw [if_neg hek]
        exact Or.inr ⟨he', hek⟩
    · rintro (rfl | ⟨he, hek⟩)
      · obtain ⟨e', he', rfl⟩ := List.mem_map.mp hk
        exact ⟨e', he', if_pos rfl⟩
      · exact ⟨e, he, if_neg hek⟩
  · rw [upsert_of_not_mem hk, List.mem_append, List.mem_singleton]
    constructor
    · rintro (he | rfl)
      · refine Or.inr ⟨he, fun hek => hk ?_⟩
        rw [← hek]
        exact List.mem_map_of_mem he
      · exact Or.inl rfl
    · rintro (rfl | ⟨he, _⟩)
      · exact Or.inr rfl
      · exact Or.inl he

/-! ## All updates -/

theorem nodup_keys_replay : ((replay es).map Prod.fst).Nodup := by
  induction es using List.reverseRecOn with
  | nil => exact List.nodup_nil
  | append_singleton es e ih =>
      rw [replay_snoc]
      exact nodup_upsert ih

theorem eraseDups_snoc {β : Type*} [DecidableEq β] (bs : List β) (b : β) :
    (bs ++ [b]).eraseDups = if b ∈ bs then bs.eraseDups else bs.eraseDups ++ [b] := by
  rw [List.eraseDups_append]
  by_cases hb : b ∈ bs
  · simp [List.removeAll, hb]
  · simp [List.removeAll, hb, List.eraseDups_cons]

/-- The keys of a replica, in the order of their first appearance. -/
theorem keys_replay : (replay es).map Prod.fst = (es.map Prod.fst).eraseDups := by
  induction es using List.reverseRecOn with
  | nil => rfl
  | append_singleton es e ih =>
      rw [replay_snoc, keys_upsert, ih, List.map_append, List.map_singleton, eraseDups_snoc]
      simp only [List.mem_eraseDups]

/-- The entries of a replica are the last updates. -/
theorem mem_replay_iff : e ∈ replay es ↔ IsLast es e := by
  induction es using List.reverseRecOn with
  | nil =>
      constructor
      · intro h
        cases h
      · rintro ⟨before, after, heq, _⟩
        simp at heq
  | append_singleton es e' ih =>
      rw [replay_snoc, mem_upsert nodup_keys_replay, isLast_snoc, ih]

theorem mem_of_mem_replay (h : e ∈ replay es) : e ∈ es := by
  obtain ⟨before, after, rfl, _⟩ := mem_replay_iff.mp h
  exact List.mem_append_right before List.mem_cons_self

/-! ## Sending a whole table -/

/-- Entries whose keys are not updated stay in front. -/
theorem upserts_append_left (h : ∀ e ∈ es, e.1 ∉ l.map Prod.fst) :
    upserts (l ++ l') es = l ++ upserts l' es := by
  induction es generalizing l' with
  | nil => rfl
  | cons e es ih =>
      rw [upserts_cons, upserts_cons, upsert_append (h e List.mem_cons_self),
        ih fun d hd => h d (List.mem_cons_of_mem _ hd)]

/-- A table that is sent to a replica with the same keys, or with none, replaces its entries. -/
theorem upserts_same (hn : (es.map Prod.fst).Nodup)
    (h : l = [] ∨ l.map Prod.fst = es.map Prod.fst) : upserts l es = es := by
  induction es generalizing l with
  | nil =>
      rcases h with rfl | h
      · rfl
      · rw [List.map_nil, List.map_eq_nil_iff] at h
        rw [h, upserts_nil]
  | cons e es ih =>
      rw [List.map_cons, List.nodup_cons] at hn
      -- the first update leaves its own entry in front of the others' old ones
      have hfront : ∃ l', upsert e.1 e.2 l = [e] ++ l' ∧
          (l' = [] ∨ l'.map Prod.fst = es.map Prod.fst) := by
        rcases h with rfl | h
        · exact ⟨[], rfl, Or.inl rfl⟩
        · cases l with
          | nil => cases h
          | cons d l =>
              rw [List.map_cons, List.map_cons, List.cons.injEq] at h
              refine ⟨l, ?_, Or.inr h.2⟩
              rw [upsert, if_pos h.1]
              rfl
      obtain ⟨l', hl', hcases⟩ := hfront
      rw [upserts_cons, hl', upserts_append_left, ih hn.2 hcases]
      · rfl
      · intro d hd hmem
        rw [List.map_singleton, List.mem_singleton] at hmem
        apply hn.1
        rw [← hmem]
        exact List.mem_map_of_mem hd

/-- **A whole table** sent to a replica that holds other keys in front brings it up to date. -/
theorem upserts_snapshot (hn : (es.map Prod.fst).Nodup) (hother : ∀ e ∈ es, e.1 ∉ l.map Prod.fst)
    (h : l' = [] ∨ l'.map Prod.fst = es.map Prod.fst) : upserts (l ++ l') es = l ++ es := by
  rw [upserts_append_left hother, upserts_same hn h]

/-! ## Trailing a table -/

variable {old t t' : List (κ × α)}

/-- The replica `l` trails the table `t` behind older entries: after `old`, it has the keys of `t`, or
    none of them yet. -/
structure Trails (old l t : List (κ × α)) : Prop where
  split : ∃ cur, l = old ++ cur ∧ (cur = [] ∨ cur.map Prod.fst = t.map Prod.fst)
  older : ∀ e ∈ old, e.1 ∉ t.map Prod.fst

omit [DecidableEq κ] in
/-- A replica trails a table of other keys behind all that it has. -/
theorem trails_of_other (h : ∀ e ∈ l, e.1 ∉ t.map Prod.fst) : Trails l l t :=
  ⟨⟨[], (List.append_nil l).symm, Or.inl rfl⟩, h⟩

omit [DecidableEq κ] in
/-- New values do not matter. -/
theorem Trails.of_keys (h : Trails old l t) (hkeys : t'.map Prod.fst = t.map Prod.fst) :
    Trails old l t' := by
  refine ⟨?_, ?_⟩
  · rw [hkeys]
    exact h.split
  · rw [hkeys]
    exact h.older

omit [DecidableEq κ] in
theorem Trails.current (h : ∀ e ∈ old, e.1 ∉ t.map Prod.fst) : Trails old (old ++ t) t :=
  ⟨⟨t, rfl, Or.inr rfl⟩, h⟩

/-- Sending the whole table brings a replica that trails it up to date. -/
theorem Trails.snapshot (h : Trails old l t) (hn : (t.map Prod.fst).Nodup) :
    upserts l t = old ++ t := by
  obtain ⟨cur, rfl, hcur⟩ := h.split
  apply upserts_snapshot hn _ hcur
  intro e he hmem
  obtain ⟨d, hd, heq⟩ := List.mem_map.mp hmem
  apply h.older d hd
  rw [heq]
  exact List.mem_map_of_mem he

end Lib
end Footscreen
