import Mathlib.Data.List.Basic

/-!
# `Lib.Sweep` — loops over all pairs of a list

A `Sweep` looks at every pair of elements of a list, in the order of two nested loops over the indices.
Where the two meet, each of them that is prone is struck. Whether elements meet and are prone does not
change when they are struck, so the order of the loops plays no role: `all_eq` says which elements are
struck in the end.
-/

namespace Footscreen
namespace Lib

variable {α : Type*}

structure Sweep (α : Type*) where
  meets              : α → α → Bool
  prone              : α → Bool
  strike             : α → α
  meets_self         : ∀ x, meets x x = false
  meets_strike_left  : ∀ x y, meets (strike x) y = meets x y
  meets_strike_right : ∀ x y, meets x (strike y) = meets x y
  prone_strike       : ∀ x, prone (strike x) = prone x
  strike_strike      : ∀ x, strike (strike x) = strike x

namespace Sweep

variable (S : Sweep α)

/-- One pair of indices. -/
def pair (xs : List α) (i j : Nat) : List α :=
  match xs[i]?, xs[j]? with
  | some x, some y =>
      if i = j || !S.meets x y then xs
      else
        let xs := if S.prone x then xs.modify i S.strike else xs
        if S.prone y then xs.modify j S.strike else xs
  | _, _ => xs

/-- All pairs. -/
def all (xs : List α) : List α :=
  (List.range xs.length).foldl
    (fun xs i => (List.range xs.length).foldl (fun xs j => S.pair xs i j) xs) xs

/-- The element is struck, or left alone. -/
def mark (b : Bool) (x : α) : α := if b then S.strike x else x

/-- The elements at these indices are struck. -/
def marked (b : Nat → Bool) (xs : List α) : List α := xs.mapIdx fun k x => S.mark (b k) x

/-- The pair of indices strikes the element at an index. -/
def strikes (xs : List α) (i j k : Nat) : Bool :=
  (k == i || k == j) && i != j && xs[k]?.any S.prone && xs[i]?.any fun x => xs[j]?.any fun y => S.meets x y

variable {S} {xs : List α} {b : Nat → Bool}

@[simp] theorem mark_true (x : α) : S.mark true x = S.strike x := rfl

@[simp] theorem mark_false (x : α) : S.mark false x = x := rfl

@[simp] theorem meets_mark (a b : Bool) (x y : α) :
    S.meets (S.mark a x) (S.mark b y) = S.meets x y := by
  unfold mark
  split <;> split <;> simp [S.meets_strike_left, S.meets_strike_right]

@[simp] theorem prone_mark (a : Bool) (x : α) : S.prone (S.mark a x) = S.prone x := by
  unfold mark
  split
  · exact S.prone_strike x
  · rfl

@[simp] theorem strike_mark (a : Bool) (x : α) : S.strike (S.mark a x) = S.strike x := by
  unfold mark
  split
  · exact S.strike_strike x
  · rfl

@[simp] theorem getElem?_marked (k : Nat) : (S.marked b xs)[k]? = xs[k]?.map (S.mark (b k)) :=
  List.getElem?_mapIdx

@[simp] theorem length_marked : (S.marked b xs).length = xs.length := List.length_mapIdx

/-- One more element is struck. -/
theorem modify_marked (i : Nat) :
    (S.marked b xs).modify i S.strike = S.marked (fun k => b k || i == k) xs := by
  apply List.ext_getElem?
  intro k
  rw [List.getElem?_modify, getElem?_marked, getElem?_marked]
  cases xs[k]? with
  | none => rfl
  | some x =>
      by_cases hik : i = k
      · simp [hik]
      · simp [hik, beq_false_of_ne hik]

theorem modify_marked_ite (c : Bool) (i : Nat) :
    (if c then (S.marked b xs).modify i S.strike else S.marked b xs) =
      S.marked (fun k => b k || (c && i == k)) xs := by
  cases c with
  | true => exact modify_marked i
  | false => simp

/-- A pair strikes its two elements, whichever have been struck before. -/
theorem pair_marked (i j : Nat) :
    S.pair (S.marked b xs) i j = S.marked (fun k => b k || S.strikes xs i j k) xs := by
  unfold pair
  rw [getElem?_marked, getElem?_marked]
  cases hi : xs[i]? with
  | none => simp [strikes, hi]
  | some x =>
      cases hj : xs[j]? with
      | none => simp [strikes, hi, hj]
      | some y =>
          simp only [Option.map_some, meets_mark, prone_mark]
          split
          · next hapart =>
              have hno : ∀ k, S.strikes xs i j k = false := by
                intro k
                rcases Bool.or_eq_true_iff.mp hapart with hij | hmeets
                · simp [strikes, of_decide_eq_true hij]
                · simp [strikes, hi, hj, Bool.not_eq_true' _ ▸ hmeets]
              simp [hno]
          · next hmeet =>
              rw [modify_marked_ite, modify_marked_ite]
              simp only [Bool.or_eq_true, decide_eq_true_eq, Bool.not_eq_true', not_or,
                Bool.not_eq_false] at hmeet
              obtain ⟨hij, hmeets⟩ := hmeet
              have hij' : (i == j) = false := beq_false_of_ne hij
              have hji' : (j == i) = false := beq_false_of_ne (Ne.symm hij)
              apply List.ext_getElem?
              intro k
              rw [getElem?_marked, getElem?_marked]
              cases hk : xs[k]? with
              | none => rfl
              | some z =>
                  have hstrikes : S.strikes xs i j k = ((k == i || k == j) && S.prone z) := by
                    simp [strikes, hi, hj, hk, bne, hij', hmeets]
                  rw [hstrikes]
                  by_cases hki : k = i
                  · obtain rfl : x = z := Option.some.inj (hi.symm.trans (hki ▸ hk))
                    simp [hki, hji']
                  · by_cases hkj : k = j
                    · obtain rfl : y = z := Option.some.inj (hj.symm.trans (hkj ▸ hk))
                      simp [hkj, hij']
                    · simp [beq_false_of_ne hki, beq_false_of_ne hkj, beq_false_of_ne (Ne.symm hki),
                        beq_false_of_ne (Ne.symm hkj)]

/-- A loop over things that strike some elements each. -/
theorem foldl_marked {β : Type*} {f : List α → β → List α} {s : β → Nat → Bool}
    (hf : ∀ b x, f (S.marked b xs) x = S.marked (fun k => b k || s x k) xs) (l : List β) :
    l.foldl f (S.marked b xs) = S.marked (fun k => b k || l.any fun x => s x k) xs := by
  induction l generalizing b with
  | nil => simp
  | cons x l ih =>
      rw [List.foldl_cons, hf, ih]
      simp only [List.any_cons, Bool.or_assoc]

theorem marked_false : S.marked (fun _ => false) xs = xs := by
  apply List.ext_getElem?
  intro k
  rw [getElem?_marked]
  cases xs[k]? <;> rfl

/-- Some pair strikes an element exactly if it is prone and meets another one. -/
theorem any_strikes {k : Nat} {x : α} (hk : xs[k]? = some x) :
    ((List.range xs.length).any fun i => (List.range xs.length).any fun j => S.strikes xs i j k) =
      (S.prone x && xs.any fun y => S.meets x y || S.meets y x) := by
  have hlt : ∀ {i : Nat} {y : α}, xs[i]? = some y → i < xs.length :=
    fun hi => (List.getElem?_eq_some_iff.mp hi).1
  rw [Bool.eq_iff_iff]
  simp only [List.any_eq_true, List.mem_range, Bool.and_eq_true, Bool.or_eq_true]
  constructor
  · rintro ⟨i, -, j, -, hstrikes⟩
    unfold strikes at hstrikes
    simp only [hk, Bool.and_eq_true, Bool.or_eq_true, beq_iff_eq, Option.any_some,
      Option.any_eq_true] at hstrikes
    obtain ⟨⟨⟨hside, -⟩, hprone⟩, y, hy, z, hz, hmeets⟩ := hstrikes
    -- the element is one of the two, and meets the other
    rcases hside with rfl | rfl
    · obtain rfl : x = y := Option.some.inj (hk.symm.trans hy)
      exact ⟨hprone, z, List.mem_of_getElem? hz, Or.inl hmeets⟩
    · obtain rfl : x = z := Option.some.inj (hk.symm.trans hz)
      exact ⟨hprone, y, List.mem_of_getElem? hy, Or.inr hmeets⟩
  · rintro ⟨hprone, y, hy, hmeets⟩
    obtain ⟨j, hj⟩ := List.mem_iff_getElem?.mp hy
    have hkj : k ≠ j := by
      rintro rfl
      obtain rfl : x = y := Option.some.inj (hk.symm.trans hj)
      simp [S.meets_self] at hmeets
    rcases hmeets with hmeets | hmeets
    · refine ⟨k, hlt hk, j, hlt hj, ?_⟩
      simp [strikes, hk, hj, hprone, hmeets, hkj]
    · refine ⟨j, hlt hj, k, hlt hk, ?_⟩
      simp [strikes, hk, hj, hprone, hmeets, Ne.symm hkj]

/-- **The whole sweep** strikes the prone elements that meet another one, from either side. -/
theorem all_eq (S : Sweep α) (xs : List α) :
    S.all xs = xs.map fun x =>
      if S.prone x && xs.any (fun y => S.meets x y || S.meets y x) then S.strike x else x := by
  have hinner : ∀ b i, (List.range (S.marked b xs).length).foldl (fun xs j => S.pair xs i j)
      (S.marked b xs) =
      S.marked (fun k => b k || (List.range xs.length).any fun j => S.strikes xs i j k) xs := by
    intro b i
    rw [length_marked]
    exact foldl_marked (fun b j => pair_marked i j) _
  have houter := foldl_marked (b := fun _ => false)
    (f := fun xs i => (List.range xs.length).foldl (fun xs j => S.pair xs i j) xs) hinner
    (List.range xs.length)
  rw [marked_false] at houter
  refine houter.trans (List.ext_getElem? ?_)
  intro k
  rw [getElem?_marked, List.getElem?_map]
  cases hk : xs[k]? with
  | none => rfl
  | some x =>
      rw [Option.map_some, Option.map_some, Bool.false_or, any_strikes hk]
      rfl

end Sweep

end Lib
end Footscreen
