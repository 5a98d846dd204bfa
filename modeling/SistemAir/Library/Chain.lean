import Mathlib.Algebra.BigOperators.Group.List.Basic
import Mathlib.Data.List.Chain
import Mathlib.Tactic.Abel

/-! Lists of segments, each starting where the one before it stops, and exactly
which single changes keep them so. -/
namespace Chain

variable {α β : Type*} (start stop : α → β)

def Linked (l : List α) : Prop := l.IsChain fun a b => start b = stop a

instance [DecidableEq β] (l : List α) : Decidable (Linked start stop l) :=
  inferInstanceAs (Decidable (l.IsChain fun a b => start b = stop a))

variable {start stop} {l l₁ l₂ : List α} {x x' : α}

@[simp] theorem linked_nil : Linked start stop ([] : List α) := List.isChain_nil

theorem linked_concat (h : Linked start stop l) :
    Linked start stop (l ++ [x]) ↔ ∀ y ∈ l.getLast?, start x = stop y := by
  unfold Linked at h ⊢
  rw [List.isChain_append]
  simp [h]

theorem linked_map {f : α → α} (hstart : ∀ a, start (f a) = start a)
    (hstop : ∀ a, stop (f a) = stop a) : Linked start stop (l.map f) ↔ Linked start stop l := by
  unfold Linked
  rw [List.isChain_map]
  simp only [hstart, hstop]

theorem linked_replace (h : Linked start stop (l₁ ++ x :: l₂)) (hstart : start x' = start x) :
    Linked start stop (l₁ ++ x' :: l₂) ↔ stop x' = stop x ∨ l₂ = [] := by
  unfold Linked at h ⊢
  rw [List.isChain_append, List.isChain_cons] at h ⊢
  obtain ⟨h₁, ⟨hnext, h₂⟩, hlast⟩ := h
  have hprev : ∀ y ∈ l₁.getLast?, ∀ z ∈ (x' :: l₂).head?, start z = stop y := by
    intro y hy z hz
    obtain rfl : x' = z := Option.some.inj hz
    rw [hstart]
    exact hlast y hy x rfl
  constructor
  · rintro ⟨-, ⟨hnext', -⟩, -⟩
    cases l₂ with
    | nil => exact .inr rfl
    | cons z l₂ => exact .inl ((hnext' z rfl).symm.trans (hnext z rfl))
  · rintro (hsame | rfl)
    · exact ⟨h₁, ⟨fun z hz => (hnext z hz).trans hsame.symm, h₂⟩, hprev⟩
    · exact ⟨h₁, ⟨fun z hz => absurd hz (by simp), h₂⟩, hprev⟩

/-- A segment taken out leaves a gap unless it is at an end or has no extent. -/
theorem linked_remove (h : Linked start stop (l₁ ++ x :: l₂)) :
    Linked start stop (l₁ ++ l₂) ↔ l₁ = [] ∨ l₂ = [] ∨ stop x = start x := by
  unfold Linked at h ⊢
  rw [List.isChain_append, List.isChain_cons] at h
  rw [List.isChain_append]
  obtain ⟨h₁, ⟨hnext, h₂⟩, hlast⟩ := h
  constructor
  · rintro ⟨-, -, hjoin⟩
    cases hl₂ : l₂ with
    | nil => exact .inr (.inl rfl)
    | cons z l₂ =>
      cases hy : l₁.getLast? with
      | none => exact .inl (List.getLast?_eq_none_iff.mp hy)
      | some y =>
        refine .inr (.inr ?_)
        rw [hl₂] at hjoin hnext
        rw [← hnext z rfl, hjoin y hy z rfl, hlast y hy x rfl]
  · rintro (rfl | rfl | hempty)
    · exact ⟨h₁, h₂, fun y hy => absurd hy (by simp)⟩
    · exact ⟨h₁, h₂, fun y _ z hz => absurd hz (by simp)⟩
    · refine ⟨h₁, h₂, fun y hy z hz => ?_⟩
      rw [hnext z hz, hempty, hlast y hy x rfl]

/-- The extents of a chain add up to the distance between its ends. -/
theorem sum_extents {G : Type*} [AddCommGroup G] {start stop : α → G}
    (h : Linked start stop (x :: l)) :
    ((x :: l).map fun a => stop a - start a).sum =
      stop ((x :: l).getLast (List.cons_ne_nil x l)) - start x := by
  induction l generalizing x with
  | nil => simp
  | cons y l ih =>
    unfold Linked at h ih
    rw [List.isChain_cons_cons] at h
    have hrest := ih h.2
    rw [List.map_cons, List.sum_cons, hrest, List.getLast_cons (List.cons_ne_nil y l), h.1]
    abel

end Chain
