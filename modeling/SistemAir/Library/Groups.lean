import Mathlib.Algebra.BigOperators.Group.List.Basic
import Mathlib.Algebra.CharZero.Defs
import Mathlib.Data.List.Perm.Subperm

/-! Rows grouped by a key: sums over the groups, a slot that each row of its group
overwrites, and how many keys of one list a second list leaves out. -/
namespace Groups

variable {α κ β : Type*} [DecidableEq κ]

section Sum
variable [AddCommMonoid β] (key : α → κ) (f : α → β)

def groupSum (rows : List α) (k : κ) : β := ((rows.filter (key · = k)).map f).sum

theorem groupSum_cons (r : α) (rows : List α) (k : κ) :
    groupSum key f (r :: rows) k = (if key r = k then f r else 0) + groupSum key f rows k := by
  unfold groupSum
  by_cases h : key r = k
  · simp [h]
  · simp [h]

theorem sum_indicator {keys : List κ} (hkeys : keys.Nodup) {k : κ} (hk : k ∈ keys) (x : β) :
    (keys.map fun k' => if k = k' then x else 0).sum = x := by
  induction keys with
  | nil => cases hk
  | cons k' keys ih =>
    obtain ⟨hnot, hnodup⟩ := List.nodup_cons.mp hkeys
    rw [List.map_cons, List.sum_cons]
    by_cases hhead : k = k'
    · have hrest : (keys.map fun k'' => if k = k'' then x else 0).sum = 0 := by
        refine List.sum_eq_zero fun y hy => ?_
        obtain ⟨k'', hk'', rfl⟩ := List.mem_map.mp hy
        exact if_neg fun heq : k = k'' => hnot (by rwa [← hhead, heq])
      rw [if_pos hhead, hrest, add_zero]
    · rw [if_neg hhead, zero_add]
      exact ih hnodup ((List.mem_cons.mp hk).resolve_left hhead)

theorem sum_groupSum {keys : List κ} (hkeys : keys.Nodup) {rows : List α}
    (hrows : ∀ r ∈ rows, key r ∈ keys) :
    (keys.map (groupSum key f rows)).sum = (rows.map f).sum := by
  induction rows with
  | nil =>
    refine List.sum_eq_zero fun y hy => ?_
    obtain ⟨k, -, rfl⟩ := List.mem_map.mp hy
    rfl
  | cons r rows ih =>
    have hr := hrows r List.mem_cons_self
    have hrest : ∀ r' ∈ rows, key r' ∈ keys := fun r' h => hrows r' (List.mem_cons_of_mem r h)
    calc (keys.map (groupSum key f (r :: rows))).sum
        = (keys.map fun k => (if key r = k then f r else 0) + groupSum key f rows k).sum := by
          rw [funext (groupSum_cons key f r rows)]
      _ = (keys.map fun k => if key r = k then f r else 0).sum +
            (keys.map (groupSum key f rows)).sum := List.sum_map_add
      _ = f r + (rows.map f).sum := by rw [sum_indicator hkeys hr, ih hrest]
      _ = ((r :: rows).map f).sum := by rw [List.map_cons, List.sum_cons]

theorem getLast?_eq_sum {group : List α} (h : group.length ≤ 1) :
    (group.getLast?.map f).getD 0 = (group.map f).sum := by
  match group with
  | [] => rfl
  | [r] => simp
  | _ :: _ :: _ => simp at h

end Sum

theorem filterMap_single {keys : List κ} (hkeys : keys.Nodup) {k : κ} (hk : k ∈ keys)
    {g : κ → Option β} (h : ∀ k', k' ≠ k → g k' = none) : keys.filterMap g = (g k).toList := by
  induction keys with
  | nil => cases hk
  | cons k' keys ih =>
    obtain ⟨hnot, hnodup⟩ := List.nodup_cons.mp hkeys
    by_cases hhead : k' = k
    · subst hhead
      have hrest : keys.filterMap g = [] := by
        rw [List.filterMap_eq_nil_iff]
        exact fun k'' hk'' => h k'' fun heq => hnot (heq ▸ hk'')
      cases hg : g k' <;> simp [hg, hrest]
    · rw [List.filterMap_cons_none (h k' hhead)]
      exact ih hnodup ((List.mem_cons.mp hk).resolve_left (Ne.symm hhead))

section Count
variable {keys marked : List κ}

theorem length_filter_mem_comm (hkeys : keys.Nodup) (hmarked : marked.Nodup) :
    (keys.filter (· ∈ marked)).length = (marked.filter (· ∈ keys)).length := by
  refine List.Perm.length_eq ?_
  rw [List.perm_ext_iff_of_nodup (hkeys.filter _) (hmarked.filter _)]
  intro k
  simp [and_comm]

/-- One length minus the other counts the keys that are not marked exactly when nothing
but keys is marked. -/
theorem length_unmarked_iff {R : Type*} [AddGroupWithOne R] [CharZero R] (hkeys : keys.Nodup)
    (hmarked : marked.Nodup) :
    (keys.length : R) - marked.length = (keys.filter (· ∉ marked)).length ↔
      ∀ k ∈ marked, k ∈ keys := by
  have hsplit := List.length_eq_length_filter_add (l := keys) (fun k => decide (k ∈ marked))
  have hnot : keys.filter (fun k => !decide (k ∈ marked)) = keys.filter (· ∉ marked) := by
    simp only [decide_not]
  have hall := List.length_filter_eq_length_iff (p := fun k => decide (k ∈ keys)) (l := marked)
  simp only [decide_eq_true_eq] at hall
  rw [← hall, ← length_filter_mem_comm hkeys hmarked, sub_eq_iff_eq_add]
  rw [hnot] at hsplit
  norm_cast
  omega

end Count

end Groups
