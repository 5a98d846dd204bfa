import SistemAir.Spec.Readings

/-! What a reading is billed: the arithmetic of its volume, the tariff it is priced
at, and what a later settlement does to its price. -/
namespace SistemAir

open KeyedTable StatementProgram Prog

/-! ## Volume -/

/-- The volume is what the two readings say, and no volume means settled. -/
structure Pemakaian.Sound (r : Pemakaian) : Prop where
  volume : r.pemakaian = r.meterAkhir.getD 0 - r.meterAwal.getD 0
  nonneg : 0 ≤ r.pemakaian
  settled : r.pemakaian = 0 → r.status = some "LUNAS"

section Volume
variable {php : Php} {w : World} {q : Request}

theorem Reading.status_of_eq_zero {b : Reading} (h : b.pemakaian = 0) (posted : Option String) :
    b.status posted = some "LUNAS" := if_pos h

theorem sound_step (h : ∀ r ∈ w.db.pemakaian.rows, r.Sound) :
    ∀ r ∈ (step php w q).db.pemakaian.rows, r.Sound := by
  refine (rows_step_iff php q (fun _ _ hr => ⟨hr.volume, hr.nonneg, hr.settled⟩) h).mpr ⟨?_, ?_⟩
  · intro actor level b hadd
    exact ⟨rfl, hadd.nonneg, fun hzero => Reading.status_of_eq_zero hzero _⟩
  · intro actor level b hedit r _
    exact ⟨rfl, hedit.nonneg, fun hzero => Reading.status_of_eq_zero hzero _⟩

theorem sound_serve (qs : List Request) (h : ∀ r ∈ w.db.pemakaian.rows, r.Sound) :
    ∀ r ∈ (serve php w qs).db.pemakaian.rows, r.Sound :=
  Trace.run_invariant (I := fun w => ∀ r ∈ w.db.pemakaian.rows, r.Sound)
    (fun _ _ => sound_step) w qs h

end Volume

/-- Every run from an empty pemakaian keeps every reading sound. -/
theorem readings_sound (php : Php) (w₀ : World) (qs : List Request)
    (hempty : w₀.db.pemakaian.rows = []) :
    ∀ r ∈ (serve php w₀ qs).db.pemakaian.rows, r.Sound := by
  apply sound_serve qs
  rw [hempty]
  intro r hr
  cases hr

theorem readings_sound_budi :
    tagihanBudi ∈ (serve .decimal World.pertama (kantor ++ [catatSepuluh "budi"])).db.pemakaian.rows ∧
      tagihanBudi.Sound :=
  ⟨by decide +kernel, readings_sound .decimal World.pertama (kantor ++ [catatSepuluh "budi"]) rfl
    tagihanBudi (by decide +kernel)⟩

/-! ## Price -/

def Db.Prices (db : Db) (username : Option String) (t : Tarif) : Prop :=
  ∃ u a, username = some u ∧ db.akun u = some a ∧ t ∈ db.tarif.rows ∧
    t.status = some "AKTIF" ∧ t.tipeTarif.isSome ∧ t.tipeTarif = a.tipe

section Price
variable {db : Db} {username : Option String}

theorem tarifById_of_mem {t : Tarif} (ht : t ∈ db.tarif.rows) (haktif : t.status = some "AKTIF") :
    db.tarifById t.idTarif = some t := by
  have hsome : (db.tarifById t.idTarif).isSome := by
    rw [Db.tarifById, List.find?_isSome]
    exact ⟨t, ht, by simp [haktif]⟩
  obtain ⟨t', ht'⟩ := Option.isSome_iff_exists.mp hsome
  have hmem : t' ∈ db.tarif.rows := List.mem_of_find?_eq_some ht'
  have hid : t'.idTarif = t.idTarif := by
    have hp := List.find?_some ht'
    simp only [Bool.and_eq_true, decide_eq_true_eq] at hp
    exact hp.1
  rw [ht', db.tarif.eq_of_key hmem ht hid]

/-- The lookups of meter_add end at an active tariff of the account's tipe, or at `0`. -/
theorem userToIdtarif_cases (db : Db) (username : Option String) :
    (∃ t, db.Prices username t ∧ db.userToIdtarif username = t.idTarif ∧
      db.rate username = t.tarif.getD 0) ∨
    ((¬∃ t, db.Prices username t) ∧ db.userToIdtarif username = "0" ∧
      db.rate username = db.idTarifToTarif "0") := by
  cases hakun : username.bind db.akun with
  | none =>
    have hid : db.userToIdtarif username = "0" := by simp [Db.userToIdtarif, hakun]
    refine .inr ⟨?_, hid, by rw [Db.rate, hid]⟩
    rintro ⟨t, u, a, rfl, ha, -⟩
    rw [Option.bind_some, ha] at hakun
    cases hakun
  | some a =>
    obtain ⟨u, rfl, ha⟩ := Option.bind_eq_some_iff.mp hakun
    cases hhead : (db.tarifAktif a.tipe).head? with
    | none =>
      have hid : db.userToIdtarif (some u) = "0" := by
        simp [Db.userToIdtarif, hakun, Db.tipeToKdtarif, hhead]
      refine .inr ⟨?_, hid, by rw [Db.rate, hid]⟩
      rintro ⟨t, u', a', hu, ha', ht, haktif, hsome, htipe⟩
      cases hu
      rw [ha, Option.some.injEq] at ha'
      subst ha'
      have hnil : db.tarifAktif a.tipe = [] := List.head?_eq_none_iff.mp hhead
      have hmem : t ∈ db.tarifAktif a.tipe :=
        List.mem_filter.mpr ⟨ht, by simp [haktif, ← htipe, hsome]⟩
      rw [hnil] at hmem
      cases hmem
    | some t =>
      have hmem := List.mem_filter.mp (List.mem_of_mem_head? hhead)
      simp only [Bool.and_eq_true, sqlEq_iff, decide_eq_true_eq] at hmem
      have hid : db.userToIdtarif (some u) = t.idTarif := by
        simp [Db.userToIdtarif, hakun, Db.tipeToKdtarif, hhead]
      refine .inl ⟨t, ⟨u, a, rfl, ha, hmem.1, hmem.2.2, hmem.2.1.1, hmem.2.1.2⟩, hid, ?_⟩
      rw [Db.rate, hid, Db.idTarifToTarif, tarifById_of_mem hmem.1 hmem.2.2, Option.bind_some]

end Price

/-- A stored reading is priced by an active tariff of its account's tipe; where
there is none, the code is `0` and the rate that of the active tariff `0`, if any. -/
theorem meterAdd_priced (php : Php) (w₀ : World) (qs : List Request) (q : Request)
    (actor : String) (level : Level)
    (hauth : Authorized (serve php w₀ qs) q actor level "meter_add")
    (hres : (handle php (serve php w₀ qs) q).1 = .ok (.loginIndex (.alihkan .meter .suksesAdd))) :
    let db := (serve php w₀ qs).db
    ∃ row, (serve php w₀ (qs ++ [q])).db.pemakaian.rows = db.pemakaian.rows ++ [row] ∧
      row.username = q.post.get? "username" ∧
      ((∃ t, db.Prices row.username t ∧ row.kdTarif = t.idTarif ∧
          row.tagihan = row.pemakaian * t.tarif.getD 0) ∨
        ((¬∃ t, db.Prices row.username t) ∧ row.kdTarif = "0" ∧
          row.tagihan = row.pemakaian * ((db.tarifById "0").bind Tarif.tarif).getD 0)) := by
  obtain ⟨b, hadd⟩ := adds_of_response hauth hres
  refine ⟨_, by rw [serve_concat]; exact hadd.rows, rfl, ?_⟩
  rcases userToIdtarif_cases (serve php w₀ qs).db (q.post.get? "username") with
    ⟨t, hprices, hid, hrate⟩ | ⟨hnone, hid, hrate⟩
  · refine .inl ⟨t, hprices, hid, ?_⟩
    rw [← hrate, mul_comm]
    rfl
  · refine .inr ⟨hnone, hid, ?_⟩
    have hrate' : (((serve php w₀ qs).db.tarifById "0").bind Tarif.tarif).getD 0 =
        (serve php w₀ qs).db.rate (q.post.get? "username") := hrate.symm
    rw [hrate', mul_comm]
    rfl

theorem meterAdd_priced_budi :
    ∃ row, (serve .decimal World.pertama (kantor ++ [catatSepuluh "budi"])).db.pemakaian.rows =
        (serve .decimal World.pertama kantor).db.pemakaian.rows ++ [row] ∧
      row.username = some "budi" := by
  obtain ⟨row, hrows, huser, -⟩ := meterAdd_priced .decimal World.pertama kantor
    (catatSepuluh "budi") "joko" .petugas (by decide +kernel) (by decide +kernel)
  exact ⟨row, hrows, huser⟩

/-- A tariff taken out of use leaves a positive consumption unpriced. -/
theorem meterAdd_unpriced :
    let qs := kantor ++ [ajukan 2 hariBuka "tarif_edit"
      [("id_tarif_lama", "T1"), ("tipe_tarif", "RT"), ("tarif", "1000"), ("status", "NONAKTIF")]]
    (handle .decimal (serve .decimal World.pertama qs) (catatSepuluh "budi")).1 =
        .ok (.loginIndex (.alihkan .meter .suksesAdd)) ∧
      (serve .decimal World.pertama (qs ++ [catatSepuluh "budi"])).db.pemakaian.rows.map
        (fun r => (r.pemakaian, r.kdTarif, r.tagihan)) = [(10, "0", 0)] := by
  decide +kernel

/-! ## Settlement -/

/-- The rate at which a request prices reading `no`, if it prices it. -/
def hargaBaru (php : Php) (w : World) (q : Request) (no : Nat) : Option Decimal :=
  if q.tombol = some "meter_add" ∧
      (handle php w q).1 = .ok (.loginIndex (.alihkan .meter .suksesAdd)) ∧
      no = w.db.pemakaian.next then
    some (w.db.rate (q.post.get? "username"))
  else if q.tombol = some "meter_edit" ∧ EditAccepted php w q ∧
      Db.nomor php q.post = some (no : Int) then
    some (w.db.rate (w.db.noToUser (some no)))
  else none

/-- A run together with the rate each reading was last priced at. -/
def ledgerStep (php : Php) (s : World × (Nat → Decimal)) (q : Request) : World × (Nat → Decimal) :=
  (step php s.1 q, fun no => (hargaBaru php s.1 q no).getD (s.2 no))

def hargaTerakhir (php : Php) (w₀ : World) (qs : List Request) : Nat → Decimal :=
  (Trace.run (ledgerStep php) (w₀, fun _ => 0) qs).2

theorem ledger_fst (php : Php) (w₀ : World) (qs : List Request) (g : Nat → Decimal) :
    (Trace.run (ledgerStep php) (w₀, g) qs).1 = serve php w₀ qs := by
  induction qs generalizing w₀ g with
  | nil => rfl
  | cons q qs ih => exact ih (step php w₀ q) _

section Settlement
variable {php : Php} {w : World} {q : Request} {actor : String} {level : Level} {b : Reading}

theorem hargaBaru_of_adds (h : Adds php w q actor level b) (no : Nat) :
    hargaBaru php w q no =
      if no = w.db.pemakaian.next then some (w.db.rate (q.post.get? "username")) else none := by
  have hasks := h.auth.asks
  have hedit : q.tombol ≠ some "meter_edit" := by rw [hasks]; decide
  unfold hargaBaru
  rw [if_neg (fun hc : q.tombol = some "meter_edit" ∧ _ => hedit hc.1)]
  simp only [hasks, response_of_adds h, true_and]

theorem hargaBaru_of_edits (h : Edits php w q actor level b) (no : Nat) :
    hargaBaru php w q no = if Db.nomor php q.post = some (no : Int) then
      some (w.db.rate (w.db.noToUser (some no))) else none := by
  have hasks := h.auth.asks
  have hadd : q.tombol ≠ some "meter_add" := by rw [hasks]; decide
  unfold hargaBaru
  rw [if_neg (fun hc : q.tombol = some "meter_add" ∧ _ => hadd hc.1)]
  simp only [hasks, response_of_edits h, true_and]

theorem hargaBaru_of_neither (hadd : ¬∃ actor level b, Adds php w q actor level b)
    (hedit : ¬∃ actor level b, Edits php w q actor level b) (no : Nat) :
    hargaBaru php w q no = none := by
  unfold hargaBaru
  rw [if_neg, if_neg]
  · rintro ⟨hasks, hres, -⟩
    exact hedit (edits_of_accepted hasks hres)
  · rintro ⟨hasks, hres, -⟩
    obtain ⟨actor, level, tombol, hauth⟩ := authorized_of_redirects ⟨_, _, hres⟩
    obtain rfl : "meter_add" = tombol := Option.some.inj (hasks.symm.trans hauth.asks)
    obtain ⟨b, h⟩ := adds_of_response hauth hres
    exact hadd ⟨actor, level, b, h⟩

theorem ledger_step {s : World × (Nat → Decimal)}
    (h : ∀ r ∈ s.1.db.pemakaian.rows, r.tagihan = s.2 r.no * r.pemakaian) :
    ∀ r ∈ (ledgerStep php s q).1.db.pemakaian.rows,
      r.tagihan = (ledgerStep php s q).2 r.no * r.pemakaian := by
  obtain ⟨w, g⟩ := s
  intro r' hr'
  simp only [ledgerStep] at hr' ⊢
  by_cases hadd : ∃ actor level b, Adds php w q actor level b
  · obtain ⟨actor, level, b, hadd⟩ := hadd
    rw [hadd.rows] at hr'
    rw [hargaBaru_of_adds hadd]
    rcases List.mem_append.mp hr' with hr | hr
    · rw [if_neg (Nat.ne_of_lt (w.db.pemakaian.lt_next r' hr)), Option.getD_none]
      exact h r' hr
    · have hno : r'.no = w.db.pemakaian.next := congrArg Pemakaian.no (List.mem_singleton.mp hr)
      rw [if_pos hno, Option.getD_some, List.mem_singleton.mp hr]
      rfl
  by_cases hedit : ∃ actor level b, Edits php w q actor level b
  · obtain ⟨actor, level, b, hedit⟩ := hedit
    rw [hedit.rows] at hr'
    rw [hargaBaru_of_edits hedit]
    obtain ⟨r, hr, rfl⟩ := List.mem_map.mp hr'
    by_cases hno : Pemakaian.hasNo (Db.nomor php q.post) r
    · rw [if_pos hno]
      have hnomor := hasNo_iff.mp hno
      have hsame : (w.db.editRow php q.post b r).no = r.no := rfl
      rw [hsame, if_pos hnomor, Option.getD_some, ← hnomor]
      rfl
    · rw [if_neg hno, if_neg (fun hc => hno (hasNo_iff.mpr hc)), Option.getD_none]
      exact h r hr
  rw [hargaBaru_of_neither hadd hedit, Option.getD_none]
  cases rowFrom_step php w q hr' with
  | kept hr => exact h r' hr
  | bukti hr bukti heq =>
    have hold := h _ hr
    rw [heq]
    exact hold
  | edited hedit' => exact absurd ⟨_, _, _, hedit'⟩ hedit
  | added hadd' => exact absurd ⟨_, _, _, hadd'⟩ hadd

theorem tagihan_eq_hargaTerakhir (php : Php) (w₀ : World) (qs : List Request)
    (hempty : w₀.db.pemakaian.rows = []) :
    ∀ r ∈ (serve php w₀ qs).db.pemakaian.rows,
      r.tagihan = hargaTerakhir php w₀ qs r.no * r.pemakaian := by
  have hempty' : ∀ r ∈ w₀.db.pemakaian.rows, r.tagihan = 0 * r.pemakaian := by
    rw [hempty]
    intro r hr
    cases hr
  have hstep : ∀ (s : World × (Nat → Decimal)) (q : Request),
      (∀ r ∈ s.1.db.pemakaian.rows, r.tagihan = s.2 r.no * r.pemakaian) →
      ∀ r ∈ (ledgerStep php s q).1.db.pemakaian.rows,
        r.tagihan = (ledgerStep php s q).2 r.no * r.pemakaian := fun s q => ledger_step
  have hrun := Trace.run_invariant hstep (w₀, fun _ => 0) qs hempty'
  rw [ledger_fst] at hrun
  exact hrun

theorem editRow_of_same_reading {r : Pemakaian} (hr : r ∈ w.db.pemakaian.rows)
    (hsound : r.Sound) (hno : Db.nomor php q.post = some (r.no : Int))
    (hb : b = ⟨r.meterAwal, r.meterAkhir⟩) :
    w.db.editRow php q.post b r =
      { r with
        tagihan := w.db.rate r.username * r.pemakaian
        status := b.status (q.post.get? "status_bayar") } := by
  have hvolume : b.pemakaian = r.pemakaian := by rw [hb, hsound.volume, Reading.pemakaian]
  unfold Db.editRow Pemakaian.setMeter
  rw [hno, noToUser_of_mem hr, hvolume, hb]

end Settlement

/-- Settling leaves the bill alone exactly when nothing was consumed or the owner's
rate is still the one the bill was last priced at. -/
theorem settle_keeps_bill_iff (php : Php) (w₀ : World) (qs : List Request) (q : Request)
    (actor : String) (level : Level) (r : Pemakaian)
    (hempty : w₀.db.pemakaian.rows = [])
    (hauth : Authorized (serve php w₀ qs) q actor level "meter_edit")
    (haccepted : EditAccepted php (serve php w₀ qs) q)
    (hr : r ∈ (serve php w₀ qs).db.pemakaian.rows)
    (hno : Db.nomor php q.post = some (r.no : Int))
    (hpost : Reading.ofPost php q.post = some ⟨r.meterAwal, r.meterAkhir⟩) :
    (∃ r' ∈ (serve php w₀ (qs ++ [q])).db.pemakaian.rows,
        r' = { r with status := r'.status }) ↔
      r.pemakaian = 0 ∨
        (serve php w₀ qs).db.rate r.username = hargaTerakhir php w₀ qs r.no := by
  obtain ⟨b, hedit⟩ := edits_of_response hauth haccepted
  have hb : b = ⟨r.meterAwal, r.meterAkhir⟩ := Option.some.inj (hedit.reading.symm.trans hpost)
  have hsound : r.Sound := by
    refine sound_serve qs (fun r hr => ?_) r hr
    rw [hempty] at hr
    cases hr
  have hrow := editRow_of_same_reading hr hsound hno hb
  have hprice := tagihan_eq_hargaTerakhir php w₀ qs hempty r hr
  have hmem : (serve php w₀ qs).db.editRow php q.post b r ∈
      (step php (serve php w₀ qs) q).db.pemakaian.rows := hedit.mem_rows hr hno
  rw [serve_concat]
  constructor
  · rintro ⟨r', hr', heq⟩
    have hkey : r'.no = r.no := by rw [heq]
    have hsame : r' = (serve php w₀ qs).db.editRow php q.post b r :=
      (step php (serve php w₀ qs) q).db.pemakaian.eq_of_key hr' hmem (by rw [hkey]; rfl)
    have htagihan : r'.tagihan = r.tagihan := by rw [heq]
    rw [hsame, hrow] at htagihan
    dsimp only at htagihan
    rw [hprice] at htagihan
    rcases eq_or_ne r.pemakaian 0 with hzero | hpos
    · exact .inl hzero
    · exact .inr (mul_right_cancel₀ hpos htagihan)
  · intro hcond
    refine ⟨_, hmem, ?_⟩
    have htagihan : (serve php w₀ qs).db.rate r.username * r.pemakaian = r.tagihan := by
      rw [hprice]
      rcases hcond with hzero | hrate
      · rw [hzero, mul_zero, mul_zero]
      · rw [hrate]
    rw [hrow, htagihan]

def naikkanTarif : Request :=
  ajukan 2 hariBuka "tarif_edit"
    [("id_tarif_lama", "T1"), ("tipe_tarif", "RT"), ("tarif", "2000"), ("status", "AKTIF")]

theorem settle_keeps_bill_budi :
    ∃ r' ∈ (serve .decimal World.pertama
        ((kantor ++ [catatSepuluh "budi"]) ++ [bayarSepuluh])).db.pemakaian.rows,
      r' = { tagihanBudi with status := r'.status } := by
  suffices h : _ ∧ _ ∧ _ ∧ _ ∧ _ ∧ _ by
    obtain ⟨hauth, haccepted, hrow, hpost, hbilled, hcond⟩ := h
    exact (settle_keeps_bill_iff .decimal World.pertama (kantor ++ [catatSepuluh "budi"])
      bayarSepuluh "siti" .bendahara tagihanBudi rfl hauth haccepted hrow hpost hbilled).mpr hcond
  decide +kernel

theorem settle_reprices :
    let qs := kantor ++ [catatSepuluh "budi", naikkanTarif]
    let w := serve .decimal World.pertama qs
    Authorized w bayarSepuluh "siti" .bendahara "meter_edit" ∧
      EditAccepted .decimal w bayarSepuluh ∧
      tagihanBudi ∈ w.db.pemakaian.rows ∧
      Reading.ofPost .decimal bayarSepuluh.post =
        some ⟨tagihanBudi.meterAwal, tagihanBudi.meterAkhir⟩ ∧
      ¬∃ r' ∈ (serve .decimal World.pertama (qs ++ [bayarSepuluh])).db.pemakaian.rows,
        r' = { tagihanBudi with status := r'.status } := by
  decide +kernel

end SistemAir
