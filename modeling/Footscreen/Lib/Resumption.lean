import Footscreen.Lib.Replica

/-!
# `Lib.Resumption` — a replica that is cut off, and told everything again

A replica may miss the end of a stream of updates, at any place, and then be sent the whole table anew.
What it holds is entries with keys that the table does not have, and then entries for the first of the
table's keys (`Within`), so that a whole table brings it up to date wherever it was cut off.

`Awaits` says this of a replica `l` with the updates `es` still on their way to it: it holds after any part
of them, which is what is left when they are lost (`Awaits.cut`).
-/

namespace Footscreen
namespace Lib

variable {κ α : Type*} [DecidableEq κ] {e : κ × α} {old l t t' es fs cur : List (κ × α)} {ks : List κ}
  {fresh current current' : Bool}

/-! ## A part of the table -/

omit [DecidableEq κ] in
/-- `l` holds the entries `old`, whose keys are none of `ks`, and then entries for the first of these. -/
structure Within (old : List (κ × α)) (ks : List κ) (l : List (κ × α)) : Prop where
  split : ∃ cur, l = old ++ cur ∧ cur.map Prod.fst <+: ks
  older : ∀ e ∈ old, e.1 ∉ ks

/-- Updates bring in no keys but their own. -/
theorem keys_upserts_subset : (upserts l es).map Prod.fst ⊆ l.map Prod.fst ++ es.map Prod.fst := by
  induction es generalizing l with
  | nil => exact List.subset_append_left _ _
  | cons e es ih =>
      rw [upserts_cons]
      refine List.Subset.trans ih ?_
      rw [keys_upsert]
      intro k hk
      split at hk
      · exact List.mem_append.mpr ((List.mem_append.mp hk).imp_right (List.mem_cons_of_mem _))
      · rwa [List.append_assoc, List.singleton_append] at hk

/-- The first of the keys, sent to a replica that has the first of the keys. -/
theorem upserts_prefixes (hn : ks.Nodup) (hcur : cur.map Prod.fst <+: ks) (hes : es.map Prod.fst <+: ks) :
    (upserts cur es).map Prod.fst <+: ks ∧ (es.map Prod.fst = ks → upserts cur es = es) := by
  induction ks generalizing cur es with
  | nil =>
      obtain rfl := List.map_eq_nil_iff.mp (List.prefix_nil.mp hcur)
      obtain rfl := List.map_eq_nil_iff.mp (List.prefix_nil.mp hes)
      exact ⟨List.nil_prefix, fun _ => rfl⟩
  | cons k ks ih =>
      obtain ⟨hk, hn⟩ := List.nodup_cons.mp hn
      cases es with
      | nil => exact ⟨hcur, nofun⟩
      | cons e es =>
          obtain ⟨hek, hes⟩ := List.cons_prefix_cons.mp hes
          -- the first update is the first entry of what follows, whatever was there
          have hfront : ∃ cur', upsert e.1 e.2 cur = [e] ++ cur' ∧ cur'.map Prod.fst <+: ks := by
            cases cur with
            | nil => exact ⟨[], rfl, List.nil_prefix⟩
            | cons c cur =>
                obtain ⟨hck, hcur⟩ := List.cons_prefix_cons.mp hcur
                refine ⟨cur, ?_, hcur⟩
                rw [upsert, if_pos (hck.trans hek.symm)]
                rfl
          obtain ⟨cur', hcur', hprefix⟩ := hfront
          have hother : ∀ d ∈ es, d.1 ∉ [e].map Prod.fst := by
            intro d hd hmem
            rw [List.map_singleton, List.mem_singleton] at hmem
            apply hk
            rw [← hek, ← hmem]
            exact hes.subset (List.mem_map_of_mem hd)
          rw [upserts_cons, hcur', upserts_append_left hother]
          obtain ⟨hkeys, hall⟩ := ih hn hprefix hes
          refine ⟨?_, fun hfull => ?_⟩
          · rw [List.map_append, List.map_singleton, hek]
            exact List.cons_prefix_cons.mpr ⟨rfl, hkeys⟩
          · rw [hall (List.cons.inj hfull).2]
            rfl

/-- A part of the table, sent from its beginning. -/
theorem Within.upserts (h : Within old ks l) (hn : ks.Nodup) (hes : es.map Prod.fst <+: ks) :
    Within old ks (upserts l es) ∧ (es.map Prod.fst = ks → upserts l es = old ++ es) := by
  obtain ⟨cur, rfl, hcur⟩ := h.split
  have hother : ∀ e ∈ es, e.1 ∉ old.map Prod.fst := by
    intro e he hmem
    obtain ⟨d, hd, heq⟩ := List.mem_map.mp hmem
    apply h.older d hd
    rw [heq]
    exact hes.subset (List.mem_map_of_mem he)
  obtain ⟨hkeys, hall⟩ := upserts_prefixes hn hcur hes
  rw [upserts_append_left hother]
  exact ⟨⟨⟨_, rfl, hkeys⟩, h.older⟩, fun hfull => by rw [hall hfull]⟩

/-! ## What is on its way -/

/-- The replica `l` with the updates `es` on their way to it, against the table `t`. It is never left with
    other keys in between; a `fresh` one has no others at all; and if it is sent the `current` values, it
    ends with them. -/
structure Awaits (fresh current : Bool) (l es t : List (κ × α)) : Prop where
  parts : ∀ es', es' <+: es → ∃ old, Within old (t.map Prod.fst) (upserts l es') ∧
    (fresh = true → old = [])
  whole : current = true → ∃ old, upserts l es = old ++ t ∧ (∀ e ∈ old, e.1 ∉ t.map Prod.fst) ∧
    (fresh = true → old = [])

/-- An update arrives. -/
theorem Awaits.receive (h : Awaits fresh current l (e :: es) t) :
    Awaits fresh current (upsert e.1 e.2 l) es t := by
  refine ⟨fun es' hes' => ?_, h.whole⟩
  exact h.parts (e :: es') (List.cons_prefix_cons.mpr ⟨rfl, hes'⟩)

/-- The values change. -/
theorem Awaits.of_keys (h : Awaits fresh current l es t) (hkeys : t'.map Prod.fst = t.map Prod.fst) :
    Awaits fresh false l es t' := by
  refine ⟨?_, nofun⟩
  rw [hkeys]
  exact h.parts

/-- What is on its way is lost. -/
theorem Awaits.cut (h : Awaits fresh current l es t) : Awaits fresh false l [] t := by
  refine ⟨fun es' hes' => ?_, nofun⟩
  obtain rfl := List.prefix_nil.mp hes'
  exact h.parts [] List.nil_prefix

/-- The whole table is sent. -/
theorem Awaits.snapshot (h : Awaits fresh current l es t) (hn : (t.map Prod.fst).Nodup) :
    Awaits fresh true l (es ++ t) t := by
  obtain ⟨old, hwithin, hfresh⟩ := h.parts es (List.prefix_refl es)
  constructor
  · intro es' hes'
    rcases List.prefix_or_prefix_of_prefix hes' (List.prefix_append es t) with hes' | ⟨fs, rfl⟩
    · exact h.parts es' hes'
    · have hfs : fs <+: t := (List.prefix_append_right_inj es).mp hes'
      rw [upserts_append]
      exact ⟨old, (hwithin.upserts hn (hfs.map Prod.fst)).1, hfresh⟩
  · intro _
    rw [upserts_append]
    exact ⟨old, (hwithin.upserts hn (List.prefix_refl _)).2 rfl, hwithin.older, hfresh⟩

theorem Awaits.weaken (h : Awaits fresh current l es t) (himp : current' = true → current = true) :
    Awaits fresh current' l es t :=
  ⟨h.parts, fun hcurrent => h.whole (himp hcurrent)⟩

/-- A new table, of keys that the replica has never been sent. -/
theorem awaits_new (hl : ∀ e ∈ l, e.1 ∉ t.map Prod.fst) (hes : ∀ e ∈ es, e.1 ∉ t.map Prod.fst)
    (hfresh : fresh = true → l = [] ∧ es = []) : Awaits fresh false l es t := by
  refine ⟨fun es' hes' => ?_, nofun⟩
  have hkeys : ∀ e ∈ upserts l es', e.1 ∉ t.map Prod.fst := by
    intro e he hmem
    rcases List.mem_append.mp (keys_upserts_subset (List.mem_map_of_mem he)) with hmem' | hmem'
    · obtain ⟨d, hd, heq⟩ := List.mem_map.mp hmem'
      exact hl d hd (heq ▸ hmem)
    · obtain ⟨d, hd, heq⟩ := List.mem_map.mp hmem'
      exact hes d (hes'.subset hd) (heq ▸ hmem)
  refine ⟨upserts l es', ⟨⟨[], (List.append_nil _).symm, List.nil_prefix⟩, hkeys⟩, fun hf => ?_⟩
  obtain ⟨rfl, rfl⟩ := hfresh hf
  rw [List.prefix_nil.mp hes']
  rfl

end Lib
end Footscreen
