import Mathlib.Data.List.Nodup

/-! Relational tables with a primary key. Rows keep their storage order, so an
unordered `SELECT` reads them as stored; the key law travels with the table and
no statement below can break it. -/
namespace KeyedTable

variable {α κ : Type} {key : α → κ}

structure Table (key : α → κ) where
  rows : List α
  nodup : (rows.map key).Nodup

@[ext] theorem Table.ext (left right : Table key) (hrows : left.rows = right.rows) :
    left = right := by
  cases left
  cases right
  congr

def Table.empty (key : α → κ) : Table key := ⟨[], by simp⟩

theorem Table.eq_of_key (table : Table key) {r r' : α} (hr : r ∈ table.rows)
    (hr' : r' ∈ table.rows) (hkey : key r = key r') : r = r' :=
  List.inj_on_of_nodup_map table.nodup hr hr' hkey

section Select
variable [DecidableEq κ]

def Table.find? (table : Table key) (k : κ) : Option α :=
  table.rows.find? fun r => key r = k

theorem Table.find?_eq_some_iff (table : Table key) {k : κ} {r : α} :
    table.find? k = some r ↔ r ∈ table.rows ∧ key r = k := by
  constructor
  · intro h
    exact ⟨List.mem_of_find?_eq_some h, by simpa using List.find?_some h⟩
  · rintro ⟨hr, rfl⟩
    have hsome : (table.find? (key r)).isSome := by
      rw [Table.find?, List.find?_isSome]
      exact ⟨r, hr, by simp⟩
    obtain ⟨r', hr'⟩ := Option.isSome_iff_exists.mp hsome
    have hmem : r' ∈ table.rows := List.mem_of_find?_eq_some hr'
    have hkey : key r' = key r := by simpa using List.find?_some hr'
    rw [hr', table.eq_of_key hmem hr hkey]

theorem Table.find?_eq_none_iff (table : Table key) {k : κ} :
    table.find? k = none ↔ ∀ r ∈ table.rows, key r ≠ k := by
  simp [Table.find?, List.find?_eq_none]

theorem Table.find?_of_rows_map {table table' : Table key} {f : α → α} {g : κ → κ}
    (hrows : table'.rows = table.rows.map f) (hg : Function.Injective g)
    (hkey : ∀ r, key (f r) = g (key r)) (k : κ) :
    table'.find? (g k) = (table.find? k).map f := by
  rw [Table.find?, hrows, List.find?_map, Table.find?]
  congr 2
  funext r
  simp [hkey, hg.eq_iff]

theorem Table.find?_of_mem (table : Table key) {r : α} (hr : r ∈ table.rows) :
    table.find? (key r) = some r :=
  table.find?_eq_some_iff.mpr ⟨hr, rfl⟩

end Select

/-- `INSERT`: refused with a duplicate-key error when the key is taken. -/
def Table.insert [DecidableEq κ] (table : Table key) (r : α) : Option (Table key) :=
  if h : key r ∈ table.rows.map key then none
  else some ⟨table.rows ++ [r], by
    rw [List.map_append, List.nodup_append]
    refine ⟨table.nodup, by simp, ?_⟩
    intro a ha b hb
    simp only [List.map_cons, List.map_nil, List.mem_singleton] at hb
    rintro rfl
    exact h (hb ▸ ha)⟩

theorem Table.insert_of_fresh [DecidableEq κ] (table : Table key) (r : α)
    (h : ∀ r' ∈ table.rows, key r' ≠ key r) :
    ∃ table', table.insert r = some table' ∧ table'.rows = table.rows ++ [r] := by
  have hnot : key r ∉ table.rows.map key := by
    simpa [List.mem_map] using h
  exact ⟨_, dif_neg hnot, rfl⟩

/-- `UPDATE ... SET f WHERE p` for an assignment that leaves the key alone. -/
def Table.update (table : Table key) (p : α → Bool) (f : α → α)
    (hf : ∀ r, key (f r) = key r) : Table key where
  rows := table.rows.map fun r => if p r then f r else r
  nodup := by
    have hkey : (table.rows.map fun r => if p r then f r else r).map key =
        table.rows.map key := by
      rw [List.map_map]
      refine List.map_congr_left fun r _ => ?_
      simp only [Function.comp_apply]
      split
      · exact hf r
      · rfl
    rw [hkey]
    exact table.nodup

/-- The affected-row count of an `UPDATE`: matched rows whose contents change. -/
def Table.changed [DecidableEq α] (table : Table key) (p : α → Bool) (f : α → α) : Nat :=
  (table.rows.filter fun r => p r && decide (f r ≠ r)).length

def Table.delete (table : Table key) (p : α → Bool) : Table key where
  rows := table.rows.filter fun r => !p r
  nodup := table.nodup.sublist (List.filter_sublist.map key)

section Update
variable (table : Table key) (p : α → Bool) (f : α → α) (hf : ∀ r, key (f r) = key r)

@[simp] theorem Table.rows_update :
    (table.update p f hf).rows = table.rows.map fun r => if p r then f r else r := rfl

@[simp] theorem Table.rows_delete :
    (table.delete p).rows = table.rows.filter fun r => !p r := rfl

theorem Table.mem_update {r' : α} :
    r' ∈ (table.update p f hf).rows ↔ ∃ r ∈ table.rows, (if p r then f r else r) = r' := by
  simp

theorem Table.mem_update_of_mem {r : α} (hr : r ∈ table.rows) :
    (if p r then f r else r) ∈ (table.update p f hf).rows :=
  (table.mem_update p f hf).mpr ⟨r, hr, rfl⟩

theorem Table.update_row_of_key {r r' : α} (hr : r ∈ table.rows)
    (hr' : r' ∈ (table.update p f hf).rows) (hkey : key r' = key r) :
    r' = if p r then f r else r := by
  refine (table.update p f hf).eq_of_key hr' (table.mem_update_of_mem p f hf hr) ?_
  rw [hkey]
  split
  · exact (hf r).symm
  · rfl

/-! What a key reads after each write. -/

theorem Table.find?_update [DecidableEq κ] (k : κ) :
    (table.update p f hf).find? k = (table.find? k).map fun r => if p r then f r else r := by
  cases hk : table.find? k with
  | none =>
    rw [Table.find?_eq_none_iff] at hk
    rw [Option.map_none, Table.find?_eq_none_iff]
    intro r' hr'
    obtain ⟨r, hr, rfl⟩ := (table.mem_update p f hf).mp hr'
    have hne := hk r hr
    split
    · rwa [hf]
    · exact hne
  | some r =>
    obtain ⟨hr, rfl⟩ := table.find?_eq_some_iff.mp hk
    rw [Option.map_some, Table.find?_eq_some_iff]
    refine ⟨table.mem_update_of_mem p f hf hr, ?_⟩
    split
    · exact hf r
    · rfl

theorem Table.find?_delete [DecidableEq κ] (k : κ) :
    (table.delete p).find? k = (table.find? k).filter fun r => !p r := by
  cases hk : table.find? k with
  | none =>
    rw [Table.find?_eq_none_iff] at hk
    rw [Option.filter_none, Table.find?_eq_none_iff]
    exact fun r hr => hk r (List.mem_of_mem_filter hr)
  | some r =>
    obtain ⟨hr, rfl⟩ := table.find?_eq_some_iff.mp hk
    cases hp : p r with
    | false =>
      have hmem : r ∈ (table.delete p).rows := List.mem_filter.mpr ⟨hr, by simp [hp]⟩
      rw [Table.find?_of_mem _ hmem]
      simp [Option.filter, hp]
    | true =>
      have hnone : (table.delete p).find? (key r) = none := by
        rw [Table.find?_eq_none_iff]
        intro r' hr' hkey
        have hmem := List.mem_filter.mp hr'
        rw [table.eq_of_key hmem.1 hr hkey, hp] at hmem
        exact absurd hmem.2 (by decide)
      rw [hnone]
      simp [Option.filter, hp]

theorem Table.find?_of_rows_append [DecidableEq κ] {table' : Table key} {r : α}
    (hrows : table'.rows = table.rows ++ [r]) (k : κ) :
    table'.find? k = (table.find? k).or (if key r = k then some r else none) := by
  unfold Table.find?
  rw [hrows, List.find?_append]
  congr 1
  by_cases hk : key r = k <;> simp [hk]

theorem Table.update_of_changed_eq_zero [DecidableEq α] (h : table.changed p f = 0) :
    table.update p f hf = table := by
  ext1
  simp only [Table.rows_update]
  conv_rhs => rw [← List.map_id table.rows]
  refine List.map_congr_left fun r hr => ?_
  split
  · rename_i hp
    have hnone := List.filter_eq_nil_iff.mp (List.length_eq_zero_iff.mp h) r hr
    simpa [hp] using hnone
  · rfl

theorem Table.update_update (g : α → α) (hg : ∀ r, key (g r) = key r) (hp : ∀ r, p (f r) = p r)
    (hgf : ∀ r, g (f r) = f r) : (table.update p f hf).update p g hg = table.update p f hf := by
  ext1
  simp only [Table.rows_update, List.map_map]
  refine List.map_congr_left fun r _ => ?_
  simp only [Function.comp_apply]
  cases h : p r <;> simp [h, hp, hgf]

theorem Table.delete_delete : (table.delete p).delete p = table.delete p := by
  ext1
  simp [List.filter_filter]

theorem Table.delete_of_filter_eq_nil (h : (table.rows.filter p).length = 0) :
    table.delete p = table := by
  ext1
  simp only [Table.rows_delete, List.filter_eq_self]
  intro r hr
  have hnone := List.filter_eq_nil_iff.mp (List.length_eq_zero_iff.mp h) r hr
  simpa using hnone

end Update

section Changed
variable (table : Table key) {p : α → Bool} {f : α → α}

theorem Table.rows_ne_of_changed [DecidableEq α] (h : 0 < table.changed p f) :
    (table.rows.map fun r => if p r then f r else r) ≠ table.rows := by
  intro hrows
  obtain ⟨r, hr⟩ := List.exists_mem_of_length_pos h
  obtain ⟨hr, hchanged⟩ := List.mem_filter.mp hr
  simp only [Bool.and_eq_true, decide_eq_true_eq] at hchanged
  have hsame := List.map_inj_left.mp (hrows.trans (List.map_id table.rows).symm) r hr
  rw [if_pos hchanged.1] at hsame
  exact hchanged.2 hsame

theorem Table.changed_key_pos_iff [DecidableEq α] [DecidableEq κ] {k : κ} :
    0 < table.changed (fun r => key r = k) f ↔ ∃ r ∈ table.find? k, f r ≠ r := by
  simp only [Table.changed, List.length_pos_iff_exists_mem, List.mem_filter, Bool.and_eq_true,
    decide_eq_true_eq, Option.mem_def, Table.find?_eq_some_iff, and_assoc]

theorem Table.rows_ne_of_deleted (h : 0 < (table.rows.filter p).length) :
    (table.rows.filter fun r => !p r) ≠ table.rows := by
  intro hrows
  obtain ⟨r, hr⟩ := List.exists_mem_of_length_pos h
  obtain ⟨hr, hp⟩ := List.mem_filter.mp hr
  have hkept := List.filter_eq_self.mp hrows r hr
  rw [hp] at hkept
  exact absurd hkept (by decide)

theorem Table.ne_of_rows_append {table' : Table key} {r : α}
    (hrows : table'.rows = table.rows ++ [r]) : table' ≠ table := by
  rintro rfl
  exact absurd hrows.symm (by simp)

end Changed

/-! A `SELECT` without `ORDER BY` may read the rows in any order. -/

section Order
variable {table table' : Table key} {p : α → Bool}

theorem Table.exists_first [DecidableEq α] {r : α} (hr : r ∈ table.rows.filter p) :
    ∃ table' : Table key, table'.rows.Perm table.rows ∧
      (table'.rows.filter p).head? = some r := by
  obtain ⟨hr, hp⟩ := List.mem_filter.mp hr
  have hperm : (r :: table.rows.erase r).Perm table.rows := (List.perm_cons_erase hr).symm
  refine ⟨⟨_, (hperm.map key).nodup_iff.mpr table.nodup⟩, hperm, ?_⟩
  rw [List.filter_cons_of_pos hp, List.head?_cons]

theorem Table.head?_filter_of_perm (hperm : table'.rows.Perm table.rows)
    (hone : ∀ r ∈ table.rows.filter p, ∀ r' ∈ table.rows.filter p, r = r') :
    (table'.rows.filter p).head? = (table.rows.filter p).head? := by
  have hfilter := hperm.filter p
  cases hfirst : (table.rows.filter p).head? with
  | none =>
    rw [List.head?_eq_none_iff] at hfirst ⊢
    rw [hfirst] at hfilter
    exact hfilter.eq_nil
  | some r =>
    have hr : r ∈ table.rows.filter p := List.mem_of_mem_head? hfirst
    cases hfirst' : (table'.rows.filter p).head? with
    | none =>
      rw [List.head?_eq_none_iff.mp hfirst'] at hfilter
      rw [← hfilter.mem_iff] at hr
      cases hr
    | some r' =>
      have hr' := hfilter.mem_iff.mp (List.mem_of_mem_head? hfirst')
      rw [hone r' hr' r hr]

end Order

/-! An `AUTO_INCREMENT` key: the counter is ahead of every key ever stored, so
a deleted row's number is never given out again. -/

structure AutoTable (key : α → Nat) extends Table key where
  next : Nat
  lt_next : ∀ r ∈ rows, key r < next

namespace AutoTable
variable {key : α → Nat}

def empty (key : α → Nat) : AutoTable key :=
  { Table.empty key with next := 1, lt_next := by intro r hr; cases hr }

def insert (table : AutoTable key) (mk : Nat → α) (hmk : ∀ n, key (mk n) = n) :
    AutoTable key where
  rows := table.rows ++ [mk table.next]
  nodup := by
    rw [List.map_append, List.nodup_append]
    refine ⟨table.nodup, by simp, ?_⟩
    intro a ha b hb
    obtain ⟨r, hr, rfl⟩ := List.mem_map.mp ha
    simp only [List.map_cons, List.map_nil, List.mem_singleton] at hb
    rw [hb, hmk]
    exact Nat.ne_of_lt (table.lt_next r hr)
  next := table.next + 1
  lt_next := by
    intro r hr
    rcases List.mem_append.mp hr with hr | hr
    · exact Nat.lt_succ_of_lt (table.lt_next r hr)
    · rw [List.mem_singleton.mp hr, hmk]
      exact Nat.lt_succ_self _

def update (table : AutoTable key) (p : α → Bool) (f : α → α)
    (hf : ∀ r, key (f r) = key r) : AutoTable key :=
  { table.toTable.update p f hf with
    next := table.next
    lt_next := by
      intro r' hr'
      obtain ⟨r, hr, rfl⟩ := (table.toTable.mem_update p f hf).mp hr'
      have hlt := table.lt_next r hr
      split
      · rw [hf]; exact hlt
      · exact hlt }

def delete (table : AutoTable key) (p : α → Bool) : AutoTable key :=
  { table.toTable.delete p with
    next := table.next
    lt_next := by
      intro r hr
      exact table.lt_next r (List.mem_of_mem_filter hr) }

theorem update_of_changed_eq_zero [DecidableEq α] (table : AutoTable key) {p : α → Bool}
    {f : α → α} (hf : ∀ r, key (f r) = key r) (h : table.changed p f = 0) :
    table.update p f hf = table := by
  have htable := table.toTable.update_of_changed_eq_zero p f hf h
  cases table
  simp only [update, htable]

theorem delete_of_filter_eq_nil (table : AutoTable key) {p : α → Bool}
    (h : (table.rows.filter p).length = 0) : table.delete p = table := by
  have htable := table.toTable.delete_of_filter_eq_nil p h
  cases table
  simp only [delete, htable]

theorem update_update (table : AutoTable key) (p : α → Bool) (f g : α → α)
    (hf : ∀ r, key (f r) = key r) (hg : ∀ r, key (g r) = key r) (hp : ∀ r, p (f r) = p r)
    (hgf : ∀ r, g (f r) = f r) : (table.update p f hf).update p g hg = table.update p f hf := by
  have htable := table.toTable.update_update p f hf g hg hp hgf
  cases table
  simp only [update, htable]

theorem delete_delete (table : AutoTable key) (p : α → Bool) :
    (table.delete p).delete p = table.delete p := by
  have htable := table.toTable.delete_delete p
  cases table
  simp only [delete, htable]

theorem insert_ne (table : AutoTable key) (mk : Nat → α) (hmk : ∀ n, key (mk n) = n) :
    table.insert mk hmk ≠ table := by
  intro h
  have hnext : table.next + 1 = table.next := congrArg AutoTable.next h
  omega

@[simp] theorem rows_update (table : AutoTable key) (p : α → Bool) (f : α → α)
    (hf : ∀ r, key (f r) = key r) :
    (table.update p f hf).rows = table.rows.map fun r => if p r then f r else r := rfl

@[simp] theorem rows_delete (table : AutoTable key) (p : α → Bool) :
    (table.delete p).rows = table.rows.filter fun r => !p r := rfl

end AutoTable

end KeyedTable
