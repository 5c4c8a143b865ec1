import Mathlib.Data.List.Induction

/-!
# `Lib.Memory` — a flat memory of bytes

`write` is `memcpy` into memory and `read` is `memcpy` out of a block. The rules: a write changes the
bytes it covers and no others (`write_inside`, `write_outside`), reads back what it wrote (`read_write`),
and leaves memory as it was exactly when the bytes were there already (`write_eq_self_iff`). Blocks that
are copied from one memory to another (`copyAll`) arrive whatever their order, when they share bytes there
only where they did here (`Consistent`).
-/

namespace Footscreen
namespace Lib

/-- A byte for each address. -/
abbrev Memory := Nat → UInt8

/-- `length` bytes from `address` on. -/
structure Block where
  address : Nat
  length  : Nat

def Block.Contains (b : Block) (a : Nat) : Prop := b.address ≤ a ∧ a < b.address + b.length

/-- Blocks that share no byte. -/
def Block.Disjoint (b d : Block) : Prop := ∀ a, b.Contains a → ¬ d.Contains a

namespace Memory

def read (mem : Memory) (b : Block) : List UInt8 :=
  (List.range b.length).map fun i => mem (b.address + i)

def write (mem : Memory) (address : Nat) (bytes : List UInt8) : Memory :=
  fun a => if address ≤ a then (bytes[a - address]?).getD (mem a) else mem a

variable {mem mem' : Memory} {address a : Nat} {bytes : List UInt8} {b : Block}

theorem read_length : (mem.read b).length = b.length := by
  rw [read, List.length_map, List.length_range]

/-- A block reads the same in two memories exactly when they agree on its addresses. -/
theorem read_eq_read_iff : mem'.read b = mem.read b ↔ ∀ a, b.Contains a → mem' a = mem a := by
  constructor
  · rintro h a ⟨hle, hlt⟩
    have hi : a - b.address ∈ List.range b.length := List.mem_range.mpr (by omega)
    have hbyte := List.map_inj_left.mp h _ hi
    rwa [Nat.add_sub_cancel' hle] at hbyte
  · intro h
    refine List.map_congr_left fun i hi => h _ ⟨Nat.le_add_right _ _, ?_⟩
    exact Nat.add_lt_add_left (List.mem_range.mp hi) _

theorem write_inside (hle : address ≤ a) (hlt : a - address < bytes.length) :
    mem.write address bytes a = bytes[a - address] := by
  rw [write, if_pos hle, List.getElem?_eq_getElem hlt, Option.getD_some]

theorem write_outside (h : ¬ (Block.mk address bytes.length).Contains a) :
    mem.write address bytes a = mem a := by
  unfold write
  split
  · next hle =>
      have hge : bytes.length ≤ a - address := by
        by_contra hlt
        exact h ⟨hle, by show a < address + bytes.length; omega⟩
      rw [List.getElem?_eq_none hge, Option.getD_none]
  · rfl

theorem read_write (mem : Memory) (address : Nat) (bytes : List UInt8) :
    (mem.write address bytes).read ⟨address, bytes.length⟩ = bytes := by
  apply List.ext_getElem read_length
  intro i _ hi
  have hbound : address + i - address < bytes.length := by omega
  simp only [read, List.getElem_map, List.getElem_range]
  rw [write_inside (Nat.le_add_right _ _) hbound]
  simp only [Nat.add_sub_cancel_left]

/-- A write leaves memory as it was exactly when the bytes were there already. -/
theorem write_eq_self_iff :
    mem.write address bytes = mem ↔ mem.read ⟨address, bytes.length⟩ = bytes := by
  constructor
  · intro h
    have hread := read_write mem address bytes
    rwa [h] at hread
  · intro h
    have hblock : (mem.write address bytes).read ⟨address, bytes.length⟩ =
        mem.read ⟨address, bytes.length⟩ := (read_write mem address bytes).trans h.symm
    funext a
    -- outside the block nothing changes anyway
    by_cases ha : (Block.mk address bytes.length).Contains a
    · exact read_eq_read_iff.mp hblock a ha
    · exact write_outside ha

end Memory

/-! ## Copies between memories -/

/-- `length` bytes from `source` in one memory go to `target` in another. -/
structure Copy where
  source : Nat
  target : Nat
  length : Nat

def Copy.targetBlock (c : Copy) : Block := ⟨c.target, c.length⟩

/-- Copies with a common byte at their targets have it at their sources. -/
def Consistent (cs : List Copy) : Prop :=
  ∀ c ∈ cs, ∀ d ∈ cs, ∀ x < c.length, ∀ y < d.length, c.target + x = d.target + y →
    c.source + x = d.source + y

namespace Memory

/-- One copy after the other, from `mem`. -/
def copyAll (mem : Memory) (cs : List Copy) (mem' : Memory) : Memory :=
  cs.foldl (fun mem' c => mem'.write c.target (mem.read ⟨c.source, c.length⟩)) mem'

variable {mem mem' : Memory} {a : Nat} {cs : List Copy} {c : Copy}

/-- The byte at an address inside the target. -/
theorem write_read_inside {x : Nat} (hx : x < c.length) :
    mem'.write c.target (mem.read ⟨c.source, c.length⟩) (c.target + x) = mem (c.source + x) := by
  have hlength : (mem.read ⟨c.source, c.length⟩).length = c.length := read_length
  have hlt : c.target + x - c.target < (mem.read ⟨c.source, c.length⟩).length := by omega
  rw [write_inside (Nat.le_add_right _ _) hlt]
  simp [read]

theorem write_read_outside (h : ¬ c.targetBlock.Contains a) :
    mem'.write c.target (mem.read ⟨c.source, c.length⟩) a = mem' a := by
  apply write_outside
  have hlength : (mem.read ⟨c.source, c.length⟩).length = c.length := read_length
  rw [hlength]
  exact h

/-- No copy has its target here. -/
theorem copyAll_outside (h : ∀ c ∈ cs, ¬ c.targetBlock.Contains a) : mem.copyAll cs mem' a = mem' a := by
  induction cs generalizing mem' with
  | nil => rfl
  | cons c cs ih =>
      rw [copyAll, List.foldl_cons]
      refine (ih fun d hd => h d (List.mem_cons_of_mem _ hd)).trans ?_
      exact write_read_outside (h c List.mem_cons_self)

/-- **All copies arrive**, whatever their order. -/
theorem copyAll_inside (hcs : Consistent cs) (hc : c ∈ cs) {x : Nat} (hx : x < c.length) :
    mem.copyAll cs mem' (c.target + x) = mem (c.source + x) := by
  induction cs using List.reverseRecOn with
  | nil => cases hc
  | append_singleton cs d ih =>
      rw [copyAll, List.foldl_append, List.foldl_cons, List.foldl_nil]
      have hd : d ∈ cs ++ [d] := List.mem_append_right _ (List.mem_singleton.mpr rfl)
      by_cases hin : d.targetBlock.Contains (c.target + x)
      · -- the last copy writes this byte, from the same address
        obtain ⟨hle, hlt⟩ := hin
        have hle : d.target ≤ c.target + x := hle
        have hlt : c.target + x < d.target + d.length := hlt
        obtain ⟨y, hy⟩ := Nat.exists_eq_add_of_le hle
        have hylt : y < d.length := by omega
        rw [hcs c hc d hd x hx y hylt hy, hy]
        exact write_read_inside hylt
      · refine (write_read_outside hin).trans ?_
        rcases List.mem_append.mp hc with hc | hc
        · refine ih ?_ hc
          intro e he f hf
          exact hcs e (List.mem_append_left _ he) f (List.mem_append_left _ hf)
        · obtain rfl := List.mem_singleton.mp hc
          exact absurd ⟨Nat.le_add_right _ _, Nat.add_lt_add_left hx _⟩ hin

/-- The bytes of a target are those of its source. -/
theorem read_copyAll (hcs : Consistent cs) (hc : c ∈ cs) :
    (mem.copyAll cs mem').read c.targetBlock = mem.read ⟨c.source, c.length⟩ := by
  apply List.map_congr_left
  intro x hx
  exact copyAll_inside hcs hc (List.mem_range.mp hx)

end Memory

end Lib
end Footscreen
