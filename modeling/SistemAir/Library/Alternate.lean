import Mathlib.Data.List.Basic

/-! Pairs sent as one list, first and second components in turn, and how the parity of the
places takes them apart again. -/
namespace Alternate

variable {α β : Type*}

def alternate (pairs : List (α × α)) : List α := pairs.flatMap fun p => [p.1, p.2]

def filterIdx (p : Nat → Bool) (l : List α) : List α :=
  (l.zipIdx.filter fun e => p e.2).map Prod.fst

theorem filterIdx_map (p : Nat → Bool) (f : α → β) (l : List α) :
    filterIdx p (l.map f) = (filterIdx p l).map f := by
  rw [filterIdx, filterIdx, List.zipIdx_map, List.filter_map, List.map_map, List.map_map]
  rfl

@[simp] theorem alternate_nil : alternate ([] : List (α × α)) = [] := rfl

@[simp] theorem alternate_cons (p : α × α) (pairs : List (α × α)) :
    alternate (p :: pairs) = p.1 :: p.2 :: alternate pairs := rfl

theorem flatMap_eq_alternate (l : List β) (f g : β → α) :
    (l.flatMap fun x => [f x, g x]) = alternate (l.map fun x => (f x, g x)) := by
  rw [alternate, List.flatMap_map]

theorem filter_zipIdx_alternate {p : Nat → Bool} {a b : Bool}
    (heven : ∀ n, p (2 * n) = a) (hodd : ∀ n, p (2 * n + 1) = b)
    (pairs : List (α × α)) (n : Nat) :
    (((alternate pairs).zipIdx (2 * n)).filter fun e => p e.2).map Prod.fst =
      pairs.flatMap fun q => (if a then [q.1] else []) ++ if b then [q.2] else [] := by
  induction pairs generalizing n with
  | nil => rfl
  | cons q pairs ih =>
    have hrest := ih (n + 1)
    rw [Nat.mul_succ] at hrest
    rw [alternate_cons, List.zipIdx_cons, List.zipIdx_cons, List.flatMap_cons, ← hrest]
    simp only [List.filter_cons, heven, hodd]
    cases a <;> cases b <;> rfl

theorem even_alternate (pairs : List (α × α)) :
    filterIdx (· % 2 = 0) (alternate pairs) = pairs.map Prod.fst := by
  have heven (n : Nat) : decide (2 * n % 2 = 0) = true := by simp
  have hodd (n : Nat) : decide ((2 * n + 1) % 2 = 0) = false := by simp
  have hkept := filter_zipIdx_alternate (p := fun n => n % 2 = 0) heven hodd pairs 0
  exact hkept.trans List.map_eq_flatMap.symm

theorem odd_alternate (pairs : List (α × α)) :
    filterIdx (· % 2 ≠ 0) (alternate pairs) = pairs.map Prod.snd := by
  have heven (n : Nat) : decide (2 * n % 2 ≠ 0) = false := by simp
  have hodd (n : Nat) : decide ((2 * n + 1) % 2 ≠ 0) = true := by simp
  have hkept := filter_zipIdx_alternate (p := fun n => n % 2 ≠ 0) heven hodd pairs 0
  exact hkept.trans List.map_eq_flatMap.symm

end Alternate
