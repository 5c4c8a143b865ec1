import Footscreen.Game.Game
import Footscreen.Lib.Selection

/-!
# `Game.Correctness.Lookup` — a player's units by their index

`unitByIndex` counts the player's units in a counter of 8 bits. It stops at the index before the counter
can wrap around, so it is the lookup in the list of the player's units (`unitsOf`), however many there
are. A change of the unit that is found is a change at its index, and no other unit's.
-/

namespace Footscreen

open Lib

namespace Game

variable {F : Type} {g : Game F} {playerID : PlayerID} {index : UInt8} {u : GameUnit F}

/-- The unit is one of the player's. -/
def ownedBy (playerID : PlayerID) (u : GameUnit F) : Bool := u.owner == playerID

/-- The player's units, in the order of the list. -/
def unitsOf (g : Game F) (playerID : PlayerID) : List (GameUnit F) := g.gameUnits.filter (ownedBy playerID)

/-- The loop, from a counter that is not beyond the index: what is left to count is the index of the
    unit in the rest of the list. -/
theorem unitByIndexFrom_eq {us : List (GameUnit F)} {currentIndex : UInt8} (h : currentIndex ≤ index) :
    unitByIndexFrom playerID index currentIndex us =
      (us.filter (ownedBy playerID))[index.toNat - currentIndex.toNat]? := by
  induction us generalizing currentIndex with
  | nil => rfl
  | cons u us ih =>
      unfold unitByIndexFrom
      by_cases howner : u.gameUnitData.owner = playerID
      · have hmine : ownedBy playerID u = true := beq_iff_eq.mpr howner
        rw [if_neg (not_not.mpr howner), List.filter_cons_of_pos hmine]
        have hle : currentIndex.toNat ≤ index.toNat := UInt8.le_iff_toNat_le.mp h
        split
        · next heq =>
            rw [heq, Nat.sub_self]
            rfl
        · next hne =>
            -- the counter is below the index, so it does not wrap around
            have hlt : currentIndex.toNat < index.toNat :=
              Nat.lt_of_le_of_ne hle (mt UInt8.toNat_inj.mp hne)
            have hnext : (currentIndex + 1).toNat = currentIndex.toNat + 1 := by
              have hbound := index.toNat_lt
              rw [UInt8.toNat_add]
              show (currentIndex.toNat + 1) % 2 ^ 8 = _
              omega
            have hsucc : index.toNat - currentIndex.toNat =
                index.toNat - (currentIndex.toNat + 1) + 1 := by omega
            rw [ih (by rw [UInt8.le_iff_toNat_le, hnext]; exact hlt), hnext, hsucc,
              List.getElem?_cons_succ]
      · have hother : ¬ ownedBy playerID u = true := mt beq_iff_eq.mp howner
        rw [if_pos howner, List.filter_cons_of_neg hother]
        exact ih h

/-- Whose units may be looked at. -/
theorem unitByIndex_of_own (h : g.ownPlayerID = idNone ∨ g.ownPlayerID = playerID) (index : UInt8) :
    g.unitByIndex playerID index = (g.unitsOf playerID)[index.toNat]? := by
  have hmine : ¬ (g.ownPlayerID ≠ idNone ∧ g.ownPlayerID ≠ playerID) := by
    rintro ⟨hnone, hother⟩
    rcases h with h | h
    · exact hnone h
    · exact hother h
  have hzero : (0 : UInt8) ≤ index := UInt8.le_iff_toNat_le.mpr (Nat.zero_le _)
  unfold unitByIndex
  rw [if_neg hmine, unitByIndexFrom_eq hzero]
  rfl

/-- **Indexed lookup**: the unit with the index among the player's units, unless they are an opponent's. -/
theorem unitByIndex_eq_filtered (g : Game F) (playerID : PlayerID) (index : UInt8) :
    g.unitByIndex playerID index =
      if g.ownPlayerID = idNone ∨ g.ownPlayerID = playerID then (g.unitsOf playerID)[index.toNat]?
      else none := by
  split
  · next h => exact unitByIndex_of_own h index
  · next h =>
      rw [not_or] at h
      exact if_pos h

/-- The unit that is found is one of the player's own. -/
theorem mem_of_unitByIndex (h : g.unitByIndex playerID index = some u) :
    u ∈ g.gameUnits ∧ u.owner = playerID := by
  have hown : g.ownPlayerID = idNone ∨ g.ownPlayerID = playerID := by
    by_contra hother
    have hnone : g.unitByIndex playerID index = none := if_pos (not_or.mp hother)
    rw [hnone] at h
    cases h
  rw [unitByIndex_of_own hown] at h
  obtain ⟨hmem, howner⟩ := List.mem_filter.mp (List.mem_of_getElem? h)
  exact ⟨hmem, beq_iff_eq.mp howner⟩

theorem ownUnitByIndex_eq (g : Game F) (index : UInt8) :
    g.ownUnitByIndex index = (g.unitsOf g.ownPlayerID)[index.toNat]? :=
  unitByIndex_of_own (Or.inr rfl) index

/-! ## Changing the unit that is found -/

/-- The player's `i`-th unit is changed by `f`, and nothing else is. -/
def ChangesOnly (g g' : Game F) (playerID : PlayerID) (i : Nat) (f : GameUnit F → GameUnit F) : Prop :=
  ∃ before u after, g.gameUnits = before ++ u :: after ∧ u.owner = playerID ∧
    (before.filter (ownedBy playerID)).length = i ∧
    g' = { g with gameUnits := before ++ f u :: after }

/-- The changed unit is one of the player's. -/
theorem ChangesOnly.exists_unit {i : Nat} {f : GameUnit F → GameUnit F}
    (h : ChangesOnly g g' playerID i f) : ∃ u ∈ g.gameUnits, u.owner = playerID ∧ f u ∈ g'.gameUnits := by
  obtain ⟨before, u, after, hunits, howner, -, rfl⟩ := h
  rw [hunits]
  exact ⟨u, List.mem_append_right _ List.mem_cons_self, howner,
    List.mem_append_right _ List.mem_cons_self⟩

/-- **A change through the pointer** to the unit, where no two units are the same object. -/
theorem modifyUnit_changesOnly {i : Nat} (hobjects : (g.gameUnits.map (·.address)).Nodup)
    (hu : (g.unitsOf playerID)[i]? = some u) (f : GameUnit F → GameUnit F) :
    ChangesOnly g (g.modifyUnit u.address f) playerID i f := by
  obtain ⟨before, after, hunits, hlength, howner⟩ := exists_split_of_filter hu
  refine ⟨before, u, after, hunits, beq_iff_eq.mp howner, hlength, ?_⟩
  rw [hunits] at hobjects
  unfold modifyUnit
  rw [hunits, map_key_split hobjects]

/-- Seen from the players: one list of units is changed at one index. -/
theorem ChangesOnly.unitsOf_eq {g' : Game F} {i : Nat} {f : GameUnit F → GameUnit F}
    (h : ChangesOnly g g' playerID i f) (howner : ∀ u, (f u).owner = u.owner) (other : PlayerID) :
    g'.unitsOf other =
      if other = playerID then (g.unitsOf playerID).modify i f else g.unitsOf other := by
  obtain ⟨before, u, after, hunits, rfl, rfl, rfl⟩ := h
  unfold unitsOf
  rw [hunits]
  split
  · next heq =>
      subst heq
      have hmine : ownedBy u.owner u = true := BEq.rfl
      have hchanged : ownedBy u.owner (f u) = true := beq_iff_eq.mpr (howner u)
      rw [List.filter_append, List.filter_append, List.filter_cons_of_pos hmine,
        List.filter_cons_of_pos hchanged, modify_split]
  · next hne =>
      have hother : ¬ ownedBy other u = true := mt beq_iff_eq.mp (Ne.symm hne)
      have hchanged : ¬ ownedBy other (f u) = true := by
        unfold ownedBy
        rw [howner u]
        exact hother
      rw [List.filter_append, List.filter_append, List.filter_cons_of_neg hother,
        List.filter_cons_of_neg hchanged]

end Game

end Footscreen
