import SistemAir.Model.Forms
import SistemAir.Spec.MonthlyClocks

/-! `$data_last_meter`: what one pass over the readings, latest first, keeps of a resident,
and whether the meter form and meter_add then say the same about the month. -/
namespace SistemAir

open KeyedTable

/-! ## The readings of one resident -/

def Db.catatan (db : Db) (u : String) : List Pemakaian :=
  db.pemakaian.rows.filter fun r => r.username = some u

theorem mem_catatan {db : Db} {u : String} {r : Pemakaian} :
    r ∈ db.catatan u ↔ r ∈ db.pemakaian.rows ∧ r.username = some u := by
  simp [Db.catatan]

/-! ## The loop -/

def tambahEntri (now : Stamp) (r : Pemakaian) : Option DataMeter → DataMeter
  | none => ⟨r.meterAkhir, r.tgl.monthIndex = now.date.monthIndex, r.stamp, none⟩
  | some d =>
    if d.sudahInputBulanIni && d.tglBulanLalu.isNone then { d with tglBulanLalu := some r.stamp }
    else d

def entri (now : Stamp) : List Pemakaian → Option DataMeter
  | [] => none
  | r :: lama =>
    some
      { meterAkhir := r.meterAkhir
        sudahInputBulanIni := r.tgl.monthIndex = now.date.monthIndex
        tglTerakhir := r.stamp
        tglBulanLalu :=
          if r.tgl.monthIndex = now.date.monthIndex then lama.head?.map Pemakaian.stamp else none }

section Loop
variable {now : Stamp} {u : String}

theorem Riwayat.get?_append (riwayat : Riwayat) (e : String × DataMeter) :
    Riwayat.get? (riwayat ++ [e]) u =
      (riwayat.get? u).or (if e.1 = u then some e.2 else none) := by
  unfold Riwayat.get?
  rw [List.find?_append]
  cases hfind : riwayat.find? fun e => e.1 = u with
  | some d => rfl
  | none => by_cases he : e.1 = u <;> simp [he]

theorem Riwayat.get?_map (riwayat : Riwayat) (v : String) (d : DataMeter) :
    Riwayat.get? (riwayat.map fun e => if e.1 = v then (v, d) else e) u =
      (riwayat.get? u).map fun d' => if u = v then d else d' := by
  induction riwayat with
  | nil => rfl
  | cons e riwayat ih =>
    unfold Riwayat.get? at ih ⊢
    rw [List.map_cons, List.find?_cons, List.find?_cons]
    by_cases hv : e.1 = v
    · subst hv
      by_cases hu : e.1 = u
      · simp [hu]
      · simp only [hu, if_true, decide_false, ih]
    · by_cases hu : e.1 = u
      · have huv : u ≠ v := fun h => hv (hu.trans h)
        simp [hu, huv]
      · simp only [hv, hu, if_false, decide_false, ih]

theorem get?_catatRiwayat (riwayat : Riwayat) (r : Pemakaian) :
    (catatRiwayat now riwayat r).get? u =
      if orEmpty r.username = u then some (tambahEntri now r (riwayat.get? u))
      else riwayat.get? u := by
  unfold catatRiwayat
  dsimp only
  split
  · rename_i hnone
    rw [Riwayat.get?_append]
    by_cases hu : orEmpty r.username = u
    · rw [← hu, hnone]
      simp [tambahEntri]
    · simp [hu]
  · rename_i d hsome
    by_cases hu : orEmpty r.username = u
    · rw [if_pos hu, ← hu, hsome]
      unfold tambahEntri
      dsimp only
      split
      · rw [Riwayat.get?_map, hsome]
        simp
      · exact hsome
    · rw [if_neg hu]
      split
      · rw [Riwayat.get?_map]
        have hne : u ≠ orEmpty r.username := Ne.symm hu
        simp [hne]
      · rfl

theorem get?_foldl (riwayat : Riwayat) (rows : List Pemakaian) :
    (rows.foldl (catatRiwayat now) riwayat).get? u =
      (rows.filter fun r => orEmpty r.username = u).foldl
        (fun entry r => some (tambahEntri now r entry)) (riwayat.get? u) := by
  induction rows generalizing riwayat with
  | nil => rfl
  | cons r rows ih =>
    rw [List.foldl_cons, ih, get?_catatRiwayat]
    by_cases hu : orEmpty r.username = u
    · simp [hu]
    · simp [hu]

theorem tambahEntri_full {d : DataMeter} (r : Pemakaian)
    (h : d.sudahInputBulanIni = true → d.tglBulanLalu ≠ none) : tambahEntri now r (some d) = d := by
  have hfull : (d.sudahInputBulanIni && d.tglBulanLalu.isNone) = false := by
    cases hflag : d.sudahInputBulanIni with
    | false => rfl
    | true => cases hlalu : d.tglBulanLalu with
      | none => exact absurd hlalu (h hflag)
      | some s => rfl
  unfold tambahEntri
  dsimp only
  rw [hfull]
  rfl

theorem foldl_full {d : DataMeter} (rows : List Pemakaian)
    (h : d.sudahInputBulanIni = true → d.tglBulanLalu ≠ none) :
    rows.foldl (fun entry r => some (tambahEntri now r entry)) (some d) = some d := by
  induction rows with
  | nil => rfl
  | cons r rows ih => rw [List.foldl_cons, tambahEntri_full r h, ih]

theorem foldl_entri (rows : List Pemakaian) :
    rows.foldl (fun entry r => some (tambahEntri now r entry)) none = entri now rows := by
  cases rows with
  | nil => rfl
  | cons r rows =>
    by_cases hmonth : r.tgl.monthIndex = now.date.monthIndex
    · cases rows with
      | nil => simp [entri, tambahEntri, hmonth]
      | cons r' rows =>
        rw [List.foldl_cons, List.foldl_cons, foldl_full]
        · simp [entri, tambahEntri, hmonth]
        · simp [tambahEntri, hmonth]
    · rw [List.foldl_cons, foldl_full]
      · simp [entri, tambahEntri, hmonth]
      · simp [tambahEntri, hmonth]

theorem get?_dataLastMeter (db : Db) :
    (dataLastMeter db now).get? u =
      entri now ((terbaruDulu db.pemakaian.rows).filter fun r => orEmpty r.username = u) := by
  rw [dataLastMeter, get?_foldl]
  exact foldl_entri _

theorem pairwise_terbaruDulu (rows : List Pemakaian) :
    (terbaruDulu rows).Pairwise fun a b => b.stamp.ordinal ≤ a.stamp.ordinal := by
  have : Std.Total fun a b : Pemakaian => b.stamp.ordinal ≤ a.stamp.ordinal :=
    ⟨fun a b => Nat.le_total _ _⟩
  have : IsTrans Pemakaian fun a b => b.stamp.ordinal ≤ a.stamp.ordinal :=
    ⟨fun a b c hab hbc => hbc.trans hab⟩
  exact List.pairwise_insertionSort _ _

end Loop

/-! ## Against the table -/

/-- The greatest of the readings by `(tgl, waktu)`. -/
structure Terkini (rows : List Pemakaian) (r : Pemakaian) : Prop where
  mem : r ∈ rows
  akhir : ∀ r' ∈ rows, r' ≠ r → r'.stamp.ordinal < r.stamp.ordinal

def DitolakSudah (php : Php) (w : World) (q : Request) : Prop :=
  ∃ hasil, (handle php w q).1 = .ok (.loginIndex hasil) ∧ hasil.sudahDicatat = true

def Db.bulanLalu (db : Db) (u : String) (now : Date) : List Pemakaian :=
  (db.catatan u).filter fun r => r.tgl.monthIndex < now.monthIndex

/-- An entry tells the resident's latest reading, what meter_add would answer at that
moment, and, where it would refuse, the latest reading of an earlier month. -/
structure SesuaiCatatan (php : Php) (w : World) (now : Clock) (u : String) (d : DataMeter) :
    Prop where
  akhir : ∃ r, Terkini (w.db.catatan u) r ∧ d.meterAkhir = r.meterAkhir ∧ d.tglTerakhir = r.stamp
  bulanIni : ∀ q actor level b, q.clock = now → q.post.get? "username" = some u →
    Authorized w q actor level "meter_add" → Reading.ofPost php q.post = some b →
      (d.sudahInputBulanIni = true ↔ DitolakSudah php w q)
  bulanLalu : d.sudahInputBulanIni = true →
    (w.db.bulanLalu u now.php.date = [] ∧ d.tglBulanLalu = none) ∨
      ∃ r, Terkini (w.db.bulanLalu u now.php.date) r ∧ d.tglBulanLalu = some r.stamp

section Table
variable {db : Db} {u : String} {l : List Pemakaian} {r : Pemakaian}

theorem Stamp.lt_of_monthIndex_lt {s t : Stamp} (h : s.date.monthIndex < t.date.monthIndex) :
    s.ordinal < t.ordinal := by
  by_contra hle
  exact absurd (Stamp.monthIndex_le_of_le (Nat.not_lt.mp hle)) (Nat.not_le.mpr h)

theorem Terkini.congr {l' : List Pemakaian} (h : Terkini l r) (hmem : ∀ r, r ∈ l' ↔ r ∈ l) :
    Terkini l' r :=
  ⟨(hmem r).mpr h.mem, fun r' hr' => h.akhir r' ((hmem r').mp hr')⟩

theorem terkini_head (h : (r :: l).Pairwise fun a b => b.tgl.monthIndex < a.tgl.monthIndex) :
    Terkini (r :: l) r := by
  refine ⟨List.mem_cons_self, fun r' hr' hne => ?_⟩
  rcases List.mem_cons.mp hr' with rfl | hr'
  · exact absurd rfl hne
  · exact Stamp.lt_of_monthIndex_lt ((List.pairwise_cons.mp h).1 r' hr')

def Db.masukan (db : Db) (u : String) : List Pemakaian :=
  (terbaruDulu db.pemakaian.rows).filter fun r => orEmpty r.username = u

theorem mem_masukan (hu : u ≠ "" ∨ ∀ r ∈ db.pemakaian.rows, r.username ≠ none) :
    r ∈ db.masukan u ↔ r ∈ db.catatan u := by
  simp only [Db.masukan, List.mem_filter, terbaruDulu, List.mem_insertionSort, mem_catatan,
    decide_eq_true_eq]
  refine and_congr_right fun hr => ?_
  cases huser : r.username with
  | some v => simp [orEmpty]
  | none =>
    rcases hu with hu | hu
    · simpa [orEmpty] using hu.symm
    · exact absurd huser (hu r hr)

/-- One reading a month, so the months go down strictly. -/
theorem pairwise_masukan (hu : u ≠ "" ∨ ∀ r ∈ db.pemakaian.rows, r.username ≠ none)
    (hone : SatuPerBulan db) :
    (db.masukan u).Pairwise fun a b => b.tgl.monthIndex < a.tgl.monthIndex := by
  have hrows : db.pemakaian.rows.Nodup := db.pemakaian.nodup.of_map _
  have hnodup : (db.masukan u).Nodup :=
    ((List.perm_insertionSort _ _).nodup_iff.mpr hrows).filter _
  have hsorted : (db.masukan u).Pairwise fun a b => b.stamp.ordinal ≤ a.stamp.ordinal :=
    (pairwise_terbaruDulu db.pemakaian.rows).filter _
  refine (hsorted.and hnodup).imp_of_mem fun {a b} ha hb hab => ?_
  obtain ⟨ha, hauser⟩ := mem_catatan.mp ((mem_masukan hu).mp ha)
  obtain ⟨hb, hbuser⟩ := mem_catatan.mp ((mem_masukan hu).mp hb)
  refine Nat.lt_of_le_of_ne (Stamp.monthIndex_le_of_le hab.1) fun hmonth => hab.2 ?_
  obtain ⟨hm, hy⟩ := (Date.monthIndex_eq_iff _ _).mp hmonth
  exact (hone a ha b hb (by rw [hauser]; rfl) (hbuser.trans hauser.symm) hm hy).symm

end Table

theorem sesuaiCatatan_of_table (php : Php) {w : World} {now : Clock} {u : String}
    (hu : u ≠ "" ∨ ∀ r ∈ w.db.pemakaian.rows, r.username ≠ none) (hone : SatuPerBulan w.db)
    (hpast : ∀ r ∈ w.db.pemakaian.rows, r.tgl.monthIndex ≤ now.php.date.monthIndex) :
    ((dataLastMeter w.db now.php).get? u = none ↔ w.db.catatan u = []) ∧
      ∀ d, (dataLastMeter w.db now.php).get? u = some d → SesuaiCatatan php w now u d := by
  have hmem (r : Pemakaian) : r ∈ w.db.catatan u ↔ r ∈ w.db.masukan u := (mem_masukan hu).symm
  have hdown := pairwise_masukan hu hone
  have hget : (dataLastMeter w.db now.php).get? u = entri now.php (w.db.masukan u) :=
    get?_dataLastMeter w.db
  rw [hget]
  cases hl : w.db.masukan u with
  | nil =>
    rw [hl] at hmem
    refine ⟨iff_of_true rfl (List.eq_nil_iff_forall_not_mem.mpr fun r hr => ?_), nofun⟩
    cases (hmem r).mp hr
  | cons r lama =>
    rw [hl] at hmem hdown
    have hr : r ∈ w.db.catatan u := (hmem r).mpr List.mem_cons_self
    have hlama : ∀ r' ∈ lama, r'.tgl.monthIndex < r.tgl.monthIndex := (List.pairwise_cons.mp hdown).1
    refine ⟨iff_of_false nofun (List.ne_nil_of_mem hr), fun d hd => ?_⟩
    obtain rfl := Option.some.inj hd
    -- Of the readings of this month only the latest can be one.
    have hflag : r.tgl.monthIndex = now.php.date.monthIndex ↔
        w.db.adaBulan (some u) now.php.date = true := by
      rw [adaBulan_iff]
      constructor
      · intro hmonth
        obtain ⟨hrow, huser⟩ := mem_catatan.mp hr
        exact ⟨r, hrow, inMonth_iff.mpr ⟨by simp [sqlEq, huser], hmonth⟩⟩
      · rintro ⟨r', hrow, hin⟩
        obtain ⟨huser, hmonth⟩ := inMonth_iff.mp hin
        have hle := hpast r (mem_catatan.mp hr).1
        simp only [sqlEq, Bool.and_eq_true, decide_eq_true_eq] at huser
        rcases List.mem_cons.mp ((hmem r').mp (mem_catatan.mpr ⟨hrow, huser.2⟩)) with rfl | hr'
        · exact hmonth
        · have hlt := hlama r' hr'
          omega
    exact
      { akhir := ⟨r, (terkini_head hdown).congr hmem, rfl, rfl⟩
        bulanIni := by
          intro q actor level b hclock hpost hauth hreading
          have hanswers := meterAdd_answers hauth hreading
          rw [hclock, hpost] at hanswers
          rw [decide_eq_true_eq, hflag]
          rcases hanswers with ⟨hada, hrefused⟩ | ⟨hada, hother⟩
          · exact iff_of_true hada hrefused
          · refine iff_of_false (by rw [hada]; decide) ?_
            rintro ⟨hasil, hanswer, hsudah⟩
            rw [hother hasil hanswer] at hsudah
            cases hsudah
        bulanLalu := by
          intro hmonth
          have hmonth : r.tgl.monthIndex = now.php.date.monthIndex := of_decide_eq_true hmonth
          have hlalu (r' : Pemakaian) : r' ∈ w.db.bulanLalu u now.php.date ↔ r' ∈ lama := by
            rw [Db.bulanLalu, List.mem_filter, hmem, decide_eq_true_eq, ← hmonth, List.mem_cons]
            constructor
            · rintro ⟨rfl | hr', hlt⟩
              · exact absurd hlt (Nat.lt_irrefl _)
              · exact hr'
            · exact fun hr' => ⟨.inr hr', hlama r' hr'⟩
          rw [if_pos hmonth]
          cases lama with
          | nil =>
            refine .inl ⟨List.eq_nil_iff_forall_not_mem.mpr fun r' hr' => ?_, rfl⟩
            cases (hlalu r').mp hr'
          | cons r' lama =>
            exact .inr ⟨r', (terkini_head (List.pairwise_cons.mp hdown).2).congr hlalu, rfl⟩ }

/-! ## Whole runs -/

theorem tgl_of_run (php : Php) {w : World} (hempty : w.db.pemakaian.rows = []) (qs : List Request) :
    ∀ r ∈ (serve php w qs).db.pemakaian.rows, ∃ q ∈ qs, r.tgl = q.clock.sql.date := by
  induction qs using List.reverseRecOn with
  | nil =>
    intro r hr
    rw [serve, Trace.run_nil, hempty] at hr
    cases hr
  | append_singleton qs q ih =>
    intro r hr
    rw [serve_concat] at hr
    have hold {r : Pemakaian} (hr : r ∈ (serve php w qs).db.pemakaian.rows) :
        ∃ q' ∈ qs ++ [q], r.tgl = q'.clock.sql.date := by
      obtain ⟨q', hq', htgl⟩ := ih r hr
      exact ⟨q', List.mem_append_left _ hq', htgl⟩
    cases rowFrom_step php (serve php w qs) q hr with
    | kept hr => exact hold hr
    | @bukti r' hr bukti heq =>
      have htgl : r.tgl = r'.tgl := by rw [heq]; rfl
      rw [htgl]
      exact hold hr
    | @edited actor level b hedit r' hr hno heq =>
      have htgl : r.tgl = r'.tgl := by rw [heq]; rfl
      rw [htgl]
      exact hold hr
    | added hadd heq =>
      rw [heq]
      exact ⟨q, List.mem_append_right _ (List.mem_singleton_self q), rfl⟩

theorem satuPerBulan_run (php : Php) {w : World} (hempty : w.db.pemakaian.rows = [])
    {qs : List Request} (hagree : ∀ q ∈ qs, q.clock.Agree) :
    SatuPerBulan (serve php w qs).db := by
  have hone : SatuPerBulan w.db := by
    intro r hr
    rw [hempty] at hr
    cases hr
  have hrun : Trace.Admissible (fun _ q => q.clock.Agree) (step php) w qs :=
    Trace.admissible_of_forall_mem fun q hq _ => hagree q hq
  exact (Trace.always_of_admissible (I := fun w : World => SatuPerBulan w.db)
    (fun _ _ hw hok => satuPerBulan_agree php hok hw) hrun hone).last

/-- In every state that requests with agreeing clocks lead to, at every moment not before
them: the entries of the map are those of the residents with readings, and each says what
the table and meter_add say. The empty name shares its key with the readings of nobody. -/
theorem last_meter_agrees (php : Php) {w : World} (hempty : w.db.pemakaian.rows = [])
    {qs : List Request} (hagree : ∀ q ∈ qs, q.clock.Agree) {now : Clock} (hnow : now.Agree)
    (hpast : ∀ q ∈ qs, q.clock.Le now) {u : String}
    (hu : u ≠ "" ∨ ∀ r ∈ (serve php w qs).db.pemakaian.rows, r.username ≠ none) :
    ((dataLastMeter (serve php w qs).db now.php).get? u = none ↔
        (serve php w qs).db.catatan u = []) ∧
      ∀ d, (dataLastMeter (serve php w qs).db now.php).get? u = some d →
        SesuaiCatatan php (serve php w qs) now u d := by
  refine sesuaiCatatan_of_table php hu (satuPerBulan_run php hempty hagree) fun r hr => ?_
  obtain ⟨q, hq, htgl⟩ := tgl_of_run php hempty qs r hr
  have hle := Stamp.monthIndex_le_of_le (hpast q hq).sql
  rw [htgl, show now.php.date = now.sql.date from hnow]
  exact hle

/-- The resident whose reading the office has just recorded has one entry, of this month. -/
theorem last_meter_agrees_budi :
    let w := serve .decimal World.pertama (kantor ++ [catatSepuluh "budi"])
    let d : DataMeter := ⟨some 10, true, hariBuka, none⟩
    (dataLastMeter w.db hariBuka).get? "budi" = some d ∧ w.db.catatan "budi" = [tagihanBudi] ∧
      ((dataLastMeter w.db hariBuka).get? "budi" = none ↔ w.db.catatan "budi" = []) ∧
      SesuaiCatatan .decimal w (Clock.at hariBuka) "budi" d := by
  intro w d
  have hempty : World.pertama.db.pemakaian.rows = [] := rfl
  have hagree : ∀ q ∈ kantor ++ [catatSepuluh "budi"], q.clock.Agree := by decide +kernel
  have hnow : (Clock.at hariBuka).Agree := rfl
  have hpast : ∀ q ∈ kantor ++ [catatSepuluh "budi"], q.clock.Le (Clock.at hariBuka) := by
    decide +kernel
  obtain ⟨hnone, hentry⟩ :=
    last_meter_agrees .decimal hempty hagree hnow hpast (.inl (by decide) : "budi" ≠ "" ∨ _)
  have hget : (dataLastMeter w.db hariBuka).get? "budi" = some d := by decide +kernel
  exact ⟨hget, by decide +kernel, hnone, hentry d hget⟩

/-- A reading whose post names no resident has an entry under the empty name. -/
theorem last_meter_nobody :
    let qs := kantor ++ [catatTanpaNama]
    let w := serve .decimal World.pertama qs
    (∀ q ∈ qs, q.clock.Agree ∧ q.clock.Le (Clock.at hariBuka)) ∧ World.pertama.db.pemakaian.rows = [] ∧
      ¬((dataLastMeter w.db hariBuka).get? "" = none ↔ w.db.catatan "" = []) := by
  decide +kernel

end SistemAir
