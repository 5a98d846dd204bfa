import SistemAir.Library.Groups
import SistemAir.Model.Ajax

/-! The months of the reports. The summary finds the readings of a month by the text of
their dates, the charts by the year and the number of the month. -/
namespace SistemAir

open Groups

structure Bulan where
  tahun : Nat
  bulan : Nat
  mem : 1 ≤ bulan ∧ bulan ≤ 12
  deriving Repr

instance : DecidableEq Bulan := fun b b' =>
  decidable_of_iff (b.tahun = b'.tahun ∧ b.bulan = b'.bulan) (by cases b; cases b'; simp)

def Date.bulan (d : Date) : Bulan := ⟨d.year, d.month, d.month_mem⟩

def Bulan.teks (b : Bulan) : String := pad 4 b.tahun ++ "-" ++ pad 2 b.bulan

/-! ## Digits -/

section Pad
variable {width n : Nat}

theorem toList_pad : (pad width n).toList =
    List.replicate (width - (toString n).length) '0' ++ Nat.toDigits 10 n := by
  simp [pad]

theorem isDigit_of_mem_pad {c : Char} (hc : c ∈ (pad width n).toList) : c.isDigit = true := by
  rw [toList_pad, List.mem_append] at hc
  rcases hc with hc | hc
  · rw [List.eq_of_mem_replicate hc]
    decide
  · exact Nat.isDigit_of_mem_toDigits (by decide) (by decide) hc

theorem ofDigitChars_pad (width n : Nat) : Nat.ofDigitChars 10 (pad width n).toList 0 = n := by
  rw [toList_pad, Nat.ofDigitChars_append, Nat.ofDigitChars_replicate_zero, Nat.mul_zero,
    Nat.ofDigitChars_ten_toDigits]

theorem pad_injective {n' : Nat} (h : (pad width n).toList = (pad width n').toList) : n = n' := by
  rw [← ofDigitChars_pad width n, h, ofDigitChars_pad]

theorem length_pad_two (h : n < 100) : (pad 2 n).toList.length = 2 := by
  have hle : (Nat.toDigits 10 n).length ≤ 2 :=
    (Nat.length_toDigits_le_iff (by decide) (by decide)).mpr h
  have hlength : (toString n).length = (Nat.toDigits 10 n).length := by
    rw [← String.length_toList]
    simp
  rw [toList_pad, List.length_append, List.length_replicate, hlength]
  omega

end Pad

/-! ## LIKE with a prefix -/

theorem like_prefix {pattern text : List Char} (h : ∀ c ∈ pattern, c ≠ '%' ∧ c ≠ '_' ∧ c ≠ '\\') :
    like (pattern ++ ['%']) text = true ↔ pattern <+: text := by
  induction pattern generalizing text with
  | nil => simp [like]
  | cons c pattern ih =>
    obtain ⟨hpercent, hunderscore, hescape⟩ := h c List.mem_cons_self
    have hrest := fun d hd => h d (List.mem_cons_of_mem c hd)
    cases text with
    | nil =>
      simp [like, hescape]
    | cons d text =>
      have hstep : like (c :: (pattern ++ ['%'])) (d :: text) =
          (decide (c = d) && like (pattern ++ ['%']) text) := by
        rw [like]
        all_goals simp_all
      rw [List.cons_append, hstep, Bool.and_eq_true, decide_eq_true_eq, ih hrest,
        List.cons_prefix_cons]

theorem append_dash_inj {a a' rest rest' : List Char} (ha : ∀ c ∈ a, c.isDigit = true)
    (ha' : ∀ c ∈ a', c.isDigit = true) (h : a ++ '-' :: rest = a' ++ '-' :: rest') :
    a = a' ∧ rest = rest' := by
  have hdash (l tail : List Char) (hl : ∀ c ∈ l, c.isDigit = true) :
      (l ++ '-' :: tail).takeWhile Char.isDigit = l := by
    rw [List.takeWhile_append_of_pos hl, List.takeWhile_cons_of_neg (by decide), List.append_nil]
  have hhead : a = a' := by
    rw [← hdash a rest ha, h, hdash a' rest' ha']
  subst hhead
  exact ⟨rfl, (List.cons.inj (List.append_cancel_left h)).2⟩

theorem Bulan.toList_teks (b : Bulan) :
    b.teks.toList = (pad 4 b.tahun).toList ++ '-' :: (pad 2 b.bulan).toList := by
  simp [Bulan.teks]

theorem Date.toList_teks (d : Date) :
    d.teks.toList =
      (pad 4 d.year).toList ++ '-' :: ((pad 2 d.month).toList ++ '-' :: (pad 2 d.day).toList) := by
  simp [Date.teks]

theorem Bulan.teks_prefix_iff (b : Bulan) (d : Date) :
    b.teks.toList <+: d.teks.toList ↔ d.bulan = b := by
  rw [b.toList_teks, d.toList_teks]
  constructor
  · rintro ⟨rest, h⟩
    rw [List.append_assoc, List.cons_append] at h
    obtain ⟨hyear, htail⟩ := append_dash_inj (fun _ => isDigit_of_mem_pad)
      (fun _ => isDigit_of_mem_pad) h
    have hb := length_pad_two (n := b.bulan) (by have := b.mem; omega)
    have hd := length_pad_two (n := d.month) (by have := d.month_mem; omega)
    have hmonth := (List.append_inj htail (hb.trans hd.symm)).1
    obtain ⟨tahun, bulan, mem⟩ := b
    obtain rfl := pad_injective hyear
    obtain rfl := pad_injective hmonth
    rfl
  · rintro rfl
    exact ⟨'-' :: (pad 2 d.day).toList, by simp [Date.bulan]⟩

theorem Date.like_bulan (d : Date) (b : Bulan) : d.like (b.teks ++ "%") = decide (d.bulan = b) := by
  rw [Bool.eq_iff_iff, decide_eq_true_eq, ← b.teks_prefix_iff d, Date.like, String.toList_append]
  refine like_prefix fun c hc => ?_
  rw [b.toList_teks, List.mem_append, List.mem_cons] at hc
  rcases hc with hc | rfl | hc
  · have hdigit := isDigit_of_mem_pad hc
    refine ⟨?_, ?_, ?_⟩ <;> rintro rfl <;> exact absurd hdigit (by decide)
  · decide
  · have hdigit := isDigit_of_mem_pad hc
    refine ⟨?_, ?_, ?_⟩ <;> rintro rfl <;> exact absurd hdigit (by decide)

theorem Bulan.teks_ne_empty (b : Bulan) : b.teks ≠ "" := by
  intro h
  have hlist := congrArg String.toList h
  rw [b.toList_teks] at hlist
  simp at hlist

/-! ## The readings of a month -/

def Db.bulanItu (db : Db) (b : Bulan) : List Pemakaian :=
  db.pemakaian.rows.filter (·.tgl.bulan = b)

section Rows
variable (db : Db) (b : Bulan)

@[simp] theorem Db.mem_bulanItu {db : Db} {b : Bulan} {r : Pemakaian} :
    r ∈ db.bulanItu b ↔ r ∈ db.pemakaian.rows ∧ r.tgl.bulan = b := by
  simp [Db.bulanItu]

theorem Date.bulan_eq_iff {b : Bulan} {d : Date} :
    d.bulan = b ↔ d.year = b.tahun ∧ d.month = b.bulan := by
  cases b
  simp [Date.bulan]

theorem filter_like (p : Pemakaian → Bool) :
    (db.pemakaian.rows.filter fun r => r.tgl.like (b.teks ++ "%") && p r) =
      (db.bulanItu b).filter p := by
  rw [Db.bulanItu, List.filter_filter]
  exact List.filter_congr fun r _ => by rw [r.tgl.like_bulan, Bool.and_comm]

theorem filter_like_all :
    (db.pemakaian.rows.filter fun r => r.tgl.like (b.teks ++ "%")) = db.bulanItu b :=
  List.filter_congr fun r _ => r.tgl.like_bulan b

theorem filter_tahun (p : Pemakaian → Bool) :
    (((db.pemakaianTahun b.tahun).filter p).filter fun r => r.tgl.month = b.bulan) =
      (db.bulanItu b).filter p := by
  rw [Db.pemakaianTahun, Db.bulanItu, List.filter_filter, List.filter_filter, List.filter_filter]
  refine List.filter_congr fun r _ => ?_
  rw [Bool.eq_iff_iff]
  simp only [Bool.and_eq_true, decide_eq_true_eq, Date.bulan_eq_iff]
  tauto

end Rows

theorem filter_perBulan {α : Type} (rows : List Pemakaian) (f : List Pemakaian → α) (b : Bulan) :
    (perBulan rows f).filter (·.1 = b.bulan) =
      (if rows.filter (·.tgl.month = b.bulan) = [] then none
        else some (b.bulan, f (rows.filter (·.tgl.month = b.bulan)))).toList := by
  have hmem : b.bulan ∈ List.range' 1 12 := by
    have hb := b.mem
    simp only [List.mem_range'_1]
    omega
  unfold perBulan
  rw [List.filter_filterMap, filterMap_single List.nodup_range' hmem]
  · dsimp only
    split
    · rfl
    · rw [Option.filter_some, if_pos (decide_eq_true rfl)]
  · intro m hm
    dsimp only
    split
    · rfl
    · rw [Option.filter_some, if_neg (by simpa using hm)]

section PerBulan
variable {α : Type} (rows : List Pemakaian) (f : List Pemakaian → α) (b : Bulan)

/-- Whether the first or the last entry of a month is taken, it is the month's group. -/
theorem find?_perBulan :
    (perBulan rows f).find? (·.1 = b.bulan) =
      if rows.filter (·.tgl.month = b.bulan) = [] then none
      else some (b.bulan, f (rows.filter (·.tgl.month = b.bulan))) := by
  rw [← List.head?_filter, filter_perBulan, Option.head?_toList]

theorem find?_reverse_perBulan :
    (perBulan rows f).reverse.find? (·.1 = b.bulan) =
      if rows.filter (·.tgl.month = b.bulan) = [] then none
      else some (b.bulan, f (rows.filter (·.tgl.month = b.bulan))) := by
  rw [← List.getLast?_filter, filter_perBulan]
  split <;> rfl

end PerBulan

end SistemAir
