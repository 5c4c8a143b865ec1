import Mathlib.Algebra.Group.Nat.Defs
import Mathlib.Data.List.Nodup
import Mathlib.Data.List.Range

/-!
# `Lib.Counter` — identities from a 16-bit counter

A counter gives out `first`, `first + 1`, … and wraps around after 65535. Its values from `first` on are
the unreserved ones:

* `counted_inj_iff` — two values are the same if and only if they lie a multiple of 65536 apart;
* `first_le_counted_iff` — when a value is unreserved;
* `fresh_counted_iff` — how many values are distinct and unreserved;
* `Spaced.extend_iff` — when the next values are distinct from those in use, and unreserved.
-/

namespace Footscreen
namespace Lib

/-- The counter's value after `n` increments. -/
def counted (first : UInt16) (n : Nat) : UInt16 := first + UInt16.ofNat n

variable {first : UInt16} {m n : Nat}

theorem counted_toNat (first : UInt16) (n : Nat) :
    (counted first n).toNat = (first.toNat + n) % 2 ^ 16 := by
  unfold counted
  rw [UInt16.toNat_add, UInt16.toNat_ofNat', Nat.add_mod_mod]

@[simp] theorem counted_zero : counted first 0 = first := by
  simp [counted]

theorem counted_succ : counted first (n + 1) = counted first n + 1 := by
  rw [← UInt16.toNat_inj, UInt16.toNat_add, counted_toNat, counted_toNat]
  show (first.toNat + (n + 1)) % 2 ^ 16 = ((first.toNat + n) % 2 ^ 16 + 1) % 2 ^ 16
  omega

theorem counted_inj_iff : counted first m = counted first n ↔ m % 2 ^ 16 = n % 2 ^ 16 := by
  rw [← UInt16.toNat_inj, counted_toNat, counted_toNat]
  omega

theorem first_le_counted_iff : first ≤ counted first n ↔ n % 2 ^ 16 < 2 ^ 16 - first.toNat := by
  have hfirst := first.toNat_lt
  rw [UInt16.le_iff_toNat_le, counted_toNat]
  omega

/-- Two of the first values, as long as these do not wrap around. -/
theorem counted_injOn (h : n + first.toNat ≤ 2 ^ 16) {i j : Nat} (hi : i < n) (hj : j < n)
    (hij : counted first i = counted first j) : i = j := by
  rw [counted_inj_iff] at hij
  omega

/-- **The first `n` values** are distinct and unreserved if and only if the counter does not wrap
    around for them. -/
theorem fresh_counted_iff :
    ((List.range n).map (counted first)).Nodup ∧
        (∀ k ∈ (List.range n).map (counted first), first ≤ k) ↔
      n + first.toNat ≤ 2 ^ 16 := by
  constructor
  · rintro ⟨hnodup, hfirst⟩
    by_contra hlong
    have hbound := first.toNat_lt
    -- the value that follows 65535
    have hlt : 2 ^ 16 - first.toNat < n := by omega
    have hle := hfirst _ (List.mem_map_of_mem (List.mem_range.mpr hlt))
    rw [first_le_counted_iff] at hle
    have hzero : first.toNat = 0 := by omega
    -- nothing is reserved, and the first value comes again
    have hagain : counted first 0 = counted first (2 ^ 16 - first.toNat) := by
      rw [counted_inj_iff]
      omega
    have hsame : 0 = 2 ^ 16 - first.toNat :=
      List.inj_on_of_nodup_map hnodup (List.mem_range.mpr (by omega)) (List.mem_range.mpr hlt) hagain
    omega
  · intro hshort
    constructor
    · refine List.Nodup.map_on ?_ List.nodup_range
      intro i hi j hj hij
      exact counted_injOn hshort (List.mem_range.mp hi) (List.mem_range.mp hj) hij
    · intro k hk
      obtain ⟨i, hi, rfl⟩ := List.mem_map.mp hk
      rw [List.mem_range] at hi
      have hfirst := first.toNat_lt
      rw [first_le_counted_iff]
      omega

/-! ## Numbers in use -/

/-- The values that these increments give are unreserved, and no two of them are the same. -/
def Spaced (first : UInt16) (used : Nat → Prop) : Prop :=
  ∀ m, used m → first ≤ counted first m ∧ ∀ n, used n → counted first m = counted first n → m = n

/-- **More numbers.** Some stay in use, and the next `k` are added: they fit if and only if each of them
    is unreserved, and different from those that stay. -/
theorem Spaced.extend_iff {used kept used' : Nat → Prop} {next k : Nat} (h : Spaced first used)
    (hfirst : 0 < first.toNat) (hkept : ∀ m, kept m → used m)
    (hused : ∀ m, used' m ↔ kept m ∨ (next ≤ m ∧ m < next + k)) (hlt : ∀ m, used m → m < next) :
    Spaced first used' ↔
      ∀ i < k, (next + i) % 2 ^ 16 < 2 ^ 16 - first.toNat ∧
        ∀ m, kept m → (next + i) % 2 ^ 16 ≠ m % 2 ^ 16 := by
  constructor
  · intro hspaced i hi
    have hnew : used' (next + i) := (hused _).mpr (Or.inr ⟨by omega, by omega⟩)
    refine ⟨first_le_counted_iff.mp (hspaced _ hnew).1, ?_⟩
    intro m hm heq
    have hsame := (hspaced _ hnew).2 m ((hused m).mpr (Or.inl hm)) (counted_inj_iff.mpr heq)
    have hbefore := hlt m (hkept m hm)
    omega
  · intro hfit m hm
    have hnumber : ∀ n, next ≤ n → n < next + k → n % 2 ^ 16 < 2 ^ 16 - first.toNat ∧
        ∀ m, kept m → n % 2 ^ 16 ≠ m % 2 ^ 16 := by
      intro n hle hltn
      have hn := hfit (n - next) (by omega)
      rwa [Nat.add_sub_cancel' hle] at hn
    -- a whole turn of the counter comes across a reserved value
    have hturn : ∀ m n, next ≤ m → n < next + k → m < n → m % 2 ^ 16 ≠ n % 2 ^ 16 := by
      intro m n hle hltn hmn heq
      have hreserved := (hnumber (m + (2 ^ 16 - 1 - m % 2 ^ 16)) (by omega) (by omega)).1
      omega
    rcases (hused m).mp hm with hm | ⟨hle, hltm⟩
    · refine ⟨(h m (hkept m hm)).1, ?_⟩
      intro n hn heq
      rcases (hused n).mp hn with hn | ⟨hle, hltn⟩
      · exact (h m (hkept m hm)).2 n (hkept n hn) heq
      · exact absurd (counted_inj_iff.mp heq).symm ((hnumber n hle hltn).2 m hm)
    · refine ⟨first_le_counted_iff.mpr (hnumber m hle hltm).1, ?_⟩
      intro n hn heq
      rcases (hused n).mp hn with hn | ⟨hle', hltn⟩
      · exact absurd (counted_inj_iff.mp heq) ((hnumber m hle hltm).2 n hn)
      · rcases Nat.lt_trichotomy m n with hmn | hmn | hmn
        · exact absurd (counted_inj_iff.mp heq) (hturn m n hle hltn hmn)
        · exact hmn
        · exact absurd (counted_inj_iff.mp heq).symm (hturn n m hle' hltm hmn)

end Lib
end Footscreen
