import Mathlib.Logic.Function.Basic

/-! Rows read through a second key, which some rows may lack. Where no two rows share a
key the rows are a partial function, and each write on them is an update of it. -/
namespace Lookup

variable {α κ : Type*} {key : α → Option κ} {rows : List α}

def Unique (key : α → Option κ) (rows : List α) : Prop :=
  ∀ r ∈ rows, ∀ r' ∈ rows, ∀ k, key r = some k → key r' = some k → r = r'

theorem Unique.of_subset {rows' : List α} (h : Unique key rows) (hsub : rows' ⊆ rows) :
    Unique key rows' :=
  fun r hr r' hr' => h r (hsub hr) r' (hsub hr')

variable [DecidableEq κ]

def lookup (key : α → Option κ) (rows : List α) (k : κ) : Option α :=
  rows.find? fun r => key r = some k

theorem lookup_eq_none_iff {k : κ} : lookup key rows k = none ↔ ∀ r ∈ rows, key r ≠ some k := by
  simp [lookup, List.find?_eq_none]

theorem mem_of_lookup {k : κ} {r : α} (h : lookup key rows k = some r) :
    r ∈ rows ∧ key r = some k :=
  ⟨List.mem_of_find?_eq_some h, by simpa using List.find?_some h⟩

theorem Unique.lookup_of_mem (h : Unique key rows) {k : κ} {r : α} (hr : r ∈ rows)
    (hk : key r = some k) : lookup key rows k = some r := by
  cases hfound : lookup key rows k with
  | none => exact absurd hk (lookup_eq_none_iff.mp hfound r hr)
  | some r' =>
    obtain ⟨hr', hk'⟩ := mem_of_lookup hfound
    rw [h r hr r' hr' k hk hk']

/-! ## What the writes do to the function -/

theorem lookup_append (r : α) (k : κ) :
    lookup key (rows ++ [r]) k =
      (lookup key rows k).or (if key r = some k then some r else none) := by
  unfold lookup
  rw [List.find?_append]
  congr 1
  by_cases hk : key r = some k <;> simp [hk]

theorem lookup_append_of_free {r : α} {k₀ : κ} (hk : key r = some k₀)
    (hfree : lookup key rows k₀ = none) :
    lookup key (rows ++ [r]) = Function.update (lookup key rows) k₀ (some r) := by
  funext k
  rw [lookup_append]
  by_cases h : k = k₀
  · subst h
    rw [hfree, if_pos hk, Function.update_self]
    rfl
  · rw [Function.update_of_ne h, if_neg, Option.or_none]
    rw [hk]
    exact fun heq => h (Option.some.inj heq).symm

theorem lookup_append_of_none {r : α} (hk : key r = none) :
    lookup key (rows ++ [r]) = lookup key rows := by
  funext k
  rw [lookup_append, if_neg (by rw [hk]; exact nofun), Option.or_none]

theorem lookup_map {g : α → α} (hg : ∀ r, key (g r) = key r) (k : κ) :
    lookup key (rows.map g) k = (lookup key rows k).map g := by
  unfold lookup
  rw [List.find?_map]
  congr 2
  funext r
  simp [hg]

section Write
variable {p : α → Bool} {f : α → α}

theorem Unique.lookup_update (h : Unique key rows) (hf : ∀ r, key (f r) = key r) {r₀ : α} {k₀ : κ}
    (hr₀ : r₀ ∈ rows) (hk₀ : key r₀ = some k₀) (hp : ∀ r ∈ rows, p r = true ↔ r = r₀) :
    lookup key (rows.map fun r => if p r then f r else r) =
      Function.update (lookup key rows) k₀ (some (f r₀)) := by
  have hkey (r : α) : key (if p r then f r else r) = key r := by
    split
    · exact hf r
    · rfl
  funext k
  rw [lookup_map hkey]
  by_cases heq : k = k₀
  · subst heq
    rw [h.lookup_of_mem hr₀ hk₀, Function.update_self, Option.map_some,
      if_pos ((hp r₀ hr₀).mpr rfl)]
  · rw [Function.update_of_ne heq]
    cases hfound : lookup key rows k with
    | none => rfl
    | some r =>
      obtain ⟨hr, hk⟩ := mem_of_lookup hfound
      have hother : ¬p r = true := by
        rw [hp r hr]
        rintro rfl
        exact heq (Option.some.inj (hk.symm.trans hk₀))
      rw [Option.map_some, if_neg hother]

theorem lookup_update_of_none (hf : ∀ r, key (f r) = key r)
    (hp : ∀ r ∈ rows, p r = true → key r = none) :
    lookup key (rows.map fun r => if p r then f r else r) = lookup key rows := by
  have hkey (r : α) : key (if p r then f r else r) = key r := by
    split
    · exact hf r
    · rfl
  funext k
  rw [lookup_map hkey]
  cases hfound : lookup key rows k with
  | none => rfl
  | some r =>
    obtain ⟨hr, hk⟩ := mem_of_lookup hfound
    have hother : ¬p r = true := fun hpr => by
      rw [hp r hr hpr] at hk
      cases hk
    rw [Option.map_some, if_neg hother]

theorem Unique.lookup_filter (h : Unique key rows) (q : α → Bool) (k : κ) :
    lookup key (rows.filter q) k = (lookup key rows k).filter q := by
  have hsub : rows.filter q ⊆ rows := List.filter_sublist.subset
  cases hfound : lookup key rows k with
  | none =>
    rw [Option.filter_none, lookup_eq_none_iff]
    exact fun r hr => lookup_eq_none_iff.mp hfound r (hsub hr)
  | some r =>
    obtain ⟨hr, hk⟩ := mem_of_lookup hfound
    cases hq : q r with
    | true =>
      rw [(h.of_subset hsub).lookup_of_mem (List.mem_filter.mpr ⟨hr, hq⟩) hk]
      simp [Option.filter, hq]
    | false =>
      have hnone : lookup key (rows.filter q) k = none := by
        rw [lookup_eq_none_iff]
        intro r' hr' hk'
        obtain ⟨hr', hq'⟩ := List.mem_filter.mp hr'
        rw [h r hr r' hr' k hk hk', hq'] at hq
        cases hq
      rw [hnone]
      simp [Option.filter, hq]

theorem Unique.lookup_delete (h : Unique key rows) {r₀ : α} {k₀ : κ} (hr₀ : r₀ ∈ rows)
    (hk₀ : key r₀ = some k₀) (hp : ∀ r ∈ rows, p r = true ↔ r = r₀) :
    lookup key (rows.filter fun r => !p r) = Function.update (lookup key rows) k₀ none := by
  funext k
  rw [h.lookup_filter]
  by_cases heq : k = k₀
  · subst heq
    rw [h.lookup_of_mem hr₀ hk₀, Function.update_self]
    simp [Option.filter, (hp r₀ hr₀).mpr rfl]
  · rw [Function.update_of_ne heq]
    cases hfound : lookup key rows k with
    | none => rfl
    | some r =>
      obtain ⟨hr, hk⟩ := mem_of_lookup hfound
      have hother : p r = false := by
        rw [Bool.eq_false_iff, ne_eq, hp r hr]
        rintro rfl
        exact heq (Option.some.inj (hk.symm.trans hk₀))
      simp [Option.filter, hother]

theorem Unique.lookup_delete_keys (h : Unique key rows) {c : κ → Prop} [DecidablePred c]
    (hp : ∀ r ∈ rows, ∀ k, key r = some k → (p r = true ↔ c k)) :
    lookup key (rows.filter fun r => !p r) =
      fun k => if c k then none else lookup key rows k := by
  funext k
  rw [h.lookup_filter]
  cases hfound : lookup key rows k with
  | none => simp
  | some r =>
    obtain ⟨hr, hk⟩ := mem_of_lookup hfound
    by_cases hc : c k
    · simp [Option.filter, (hp r hr k hk).mpr hc, hc]
    · have hkept : p r = false := by
        rw [Bool.eq_false_iff, ne_eq, hp r hr k hk]
        exact hc
      simp [Option.filter, hkept, hc]

end Write

end Lookup
