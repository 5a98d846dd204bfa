import SistemAir.Spec.Billing

/-! The tariff behind a bill. meter_add stores the code it priced by, meter_edit prices
again and keeps the old code; both take the first active tariff of the resident's tipe. -/
namespace SistemAir

open KeyedTable StatementProgram Prog

def Db.satuTarif (db : Db) (username : Option String) : Bool :=
  (username.bind db.akun).any fun a => (db.tarifAktif a.tipe).length = 1

section Lookup
variable {db : Db} {username : Option String}

theorem mem_tarifAktif {tipe : Option String} {t : Tarif} :
    t ∈ db.tarifAktif tipe ↔
      t ∈ db.tarif.rows ∧ t.tipeTarif.isSome ∧ t.tipeTarif = tipe ∧ t.status = some "AKTIF" := by
  simp [Db.tarifAktif, List.mem_filter, and_assoc]

theorem tarifById_eq_some_iff {id : String} {t : Tarif} :
    db.tarifById id = some t ↔
      t ∈ db.tarif.rows ∧ t.idTarif = id ∧ t.status = some "AKTIF" := by
  constructor
  · intro h
    have hfound := List.find?_some h
    simp only [Bool.and_eq_true, decide_eq_true_eq] at hfound
    exact ⟨List.mem_of_find?_eq_some h, hfound⟩
  · rintro ⟨ht, rfl, haktif⟩
    exact tarifById_of_mem ht haktif

theorem harga_of_head {a : Login} {t : Tarif} (hakun : username.bind db.akun = some a)
    (ht : (db.tarifAktif a.tipe).head? = some t) :
    t ∈ db.tarif.rows ∧ db.userToIdtarif username = t.idTarif ∧
      db.rate username = t.tarif.getD 0 := by
  obtain ⟨hrow, -, -, haktif⟩ := mem_tarifAktif.mp (List.mem_of_mem_head? ht)
  have hid : db.userToIdtarif username = t.idTarif := by
    simp [Db.userToIdtarif, hakun, Db.tipeToKdtarif, ht]
  refine ⟨hrow, hid, ?_⟩
  rw [Db.rate, hid, Db.idTarifToTarif, tarifById_of_mem hrow haktif, Option.bind_some]

theorem harga_of_satuTarif (h : db.satuTarif username = true) :
    ∃ t ∈ db.tarif.rows, db.userToIdtarif username = t.idTarif ∧
      db.rate username = t.tarif.getD 0 := by
  unfold Db.satuTarif at h
  cases hakun : username.bind db.akun with
  | none =>
    rw [hakun] at h
    cases h
  | some a =>
    rw [hakun, Option.any_some, decide_eq_true_eq] at h
    obtain ⟨t, ht⟩ := List.length_eq_one_iff.mp h
    obtain ⟨hmem, hharga⟩ := harga_of_head hakun (t := t) (by rw [ht]; rfl)
    exact ⟨t, hmem, hharga⟩

end Lookup

/-! ## The stored code -/

/-- The bill is the volume at the rate of the tariff whose code is stored with it. -/
def Db.KodeCocok (db : Db) (r : Pemakaian) : Prop :=
  ∃ t ∈ db.tarif.rows, t.idTarif = r.kdTarif ∧ r.tagihan = r.pemakaian * t.tarif.getD 0

instance (db : Db) (r : Pemakaian) : Decidable (db.KodeCocok r) :=
  inferInstanceAs (Decidable (∃ t ∈ db.tarif.rows, _))

/-- A reading that the request priced matches its code, where its resident's tipe has one
active tariff. -/
def TagihanCocok (php : Php) (w : World) (q : Request) : Prop :=
  ∀ r' ∈ (step php w q).db.pemakaian.rows, (hargaBaru php w q r'.no).isSome = true →
    (step php w q).db.satuTarif r'.username = true → (step php w q).db.KodeCocok r'

/-- A meter_edit that gets to its UPDATE finds the tariff of the stored code still there,
and without consumption or at the rate that is now active for the resident's tipe. -/
def KodeBerlaku (php : Php) (w : World) (q : Request) : Prop :=
  ∀ actor level b, Edits php w q actor level b →
    ∀ r ∈ w.db.pemakaianByNo (Db.nomor php q.post), w.db.satuTarif r.username = true →
      ∃ t ∈ w.db.tarif.rows, t.idTarif = r.kdTarif ∧
        (b.pemakaian = 0 ∨ t.tarif.getD 0 = w.db.rate r.username)

section Step
variable {php : Php} {w : World} {q : Request} {actor : String} {level : Level} {b : Reading}

theorem tagihanCocok_adds (h : Adds php w q actor level b) : TagihanCocok php w q := by
  intro r' hr' hpriced hone
  obtain ⟨entries, hdb⟩ := h.db
  rw [hargaBaru_of_adds h] at hpriced
  have hno : r'.no = w.db.pemakaian.next := by
    by_contra hne
    rw [if_neg hne] at hpriced
    cases hpriced
  rw [h.rows] at hr'
  rcases List.mem_append.mp hr' with hr | hr
  · exact absurd hno (Nat.ne_of_lt (w.db.pemakaian.lt_next r' hr))
  · rw [List.mem_singleton.mp hr] at hone ⊢
    rw [hdb] at hone ⊢
    obtain ⟨t, ht, hid, hrate⟩ := harga_of_satuTarif (show w.db.satuTarif _ = true from hone)
    refine ⟨t, ht, hid.symm, ?_⟩
    rw [← hrate, mul_comm]
    rfl

theorem kodeCocok_edit (h : Edits php w q actor level b) (r : Pemakaian)
    (hno : Db.nomor php q.post = some (r.no : Int)) (hr : r ∈ w.db.pemakaian.rows) :
    (step php w q).db.KodeCocok (w.db.editRow php q.post b r) ↔
      ∃ t ∈ w.db.tarif.rows, t.idTarif = r.kdTarif ∧
        (b.pemakaian = 0 ∨ t.tarif.getD 0 = w.db.rate r.username) := by
  obtain ⟨entries, hdb⟩ := h.db
  have htarif : (step php w q).db.tarif = w.db.tarif := by
    rw [hdb]
    rfl
  have htagihan : (w.db.editRow php q.post b r).tagihan = w.db.rate r.username * b.pemakaian := by
    rw [← noToUser_of_mem hr, ← hno]
    rfl
  unfold Db.KodeCocok
  rw [htarif, htagihan]
  refine exists_congr fun t => and_congr_right fun _ => and_congr_right fun _ => ?_
  have hvolume : (w.db.editRow php q.post b r).pemakaian = b.pemakaian := rfl
  rw [hvolume, mul_comm]
  constructor
  · intro heq
    rcases eq_or_ne b.pemakaian 0 with hzero | hpos
    · exact .inl hzero
    · exact .inr (mul_left_cancel₀ hpos heq).symm
  · rintro (hzero | hrate)
    · rw [hzero, zero_mul, zero_mul]
    · rw [hrate]

theorem tagihanCocok_edits (h : Edits php w q actor level b) :
    TagihanCocok php w q ↔ KodeBerlaku php w q := by
  obtain ⟨entries, hdb⟩ := h.db
  have hone (u : Option String) : (step php w q).db.satuTarif u = w.db.satuTarif u := by
    rw [hdb]
    rfl
  constructor
  · intro hcocok actor' level' b' hedits r hfound hsatu
    obtain rfl : b' = b := Option.some.inj (hedits.reading.symm.trans h.reading)
    obtain ⟨hr, hno⟩ := mem_of_pemakaianByNo hfound
    refine (kodeCocok_edit hedits r hno hr).mp (hcocok _ ?_ ?_ ?_)
    · exact hedits.mem_rows hr hno
    · have hkey : (w.db.editRow php q.post b' r).no = r.no := rfl
      rw [hargaBaru_of_edits hedits, hkey, if_pos hno]
      rfl
    · rw [hone]
      exact hsatu
  · intro hberlaku r' hr' hpriced hsatu
    rw [hargaBaru_of_edits h] at hpriced
    have hno : Db.nomor php q.post = some (r'.no : Int) := by
      by_contra hne
      rw [if_neg hne] at hpriced
      cases hpriced
    rw [h.rows] at hr'
    obtain ⟨r, hr, rfl⟩ := List.mem_map.mp hr'
    have hkey : (if Pemakaian.hasNo (Db.nomor php q.post) r then w.db.editRow php q.post b r
        else r).no = r.no := by
      split <;> rfl
    rw [hkey] at hno
    rw [if_pos (hasNo_iff.mpr hno)] at hsatu ⊢
    rw [hone] at hsatu
    have hfound : w.db.pemakaianByNo (Db.nomor php q.post) = some r := by
      rw [hno]
      exact pemakaianByNo_of_mem hr
    exact (kodeCocok_edit h r hno hr).mpr (hberlaku actor level b h r hfound hsatu)

theorem tagihanCocok_iff (php : Php) (w : World) (q : Request) :
    TagihanCocok php w q ↔ KodeBerlaku php w q := by
  by_cases hadds : ∃ actor level b, Adds php w q actor level b
  · obtain ⟨actor, level, b, hadds⟩ := hadds
    refine iff_of_true (tagihanCocok_adds hadds) fun _ _ _ hedits => ?_
    exact absurd (hadds.auth.unique hedits.auth).2.2 (by decide)
  by_cases hedits : ∃ actor level b, Edits php w q actor level b
  · obtain ⟨actor, level, b, hedits⟩ := hedits
    exact tagihanCocok_edits hedits
  refine iff_of_true (fun r' _ hpriced => ?_) fun _ _ _ h => absurd ⟨_, _, _, h⟩ hedits
  rw [hargaBaru_of_neither hadds hedits] at hpriced
  cases hpriced

end Step

/-- In any run, the bill of every reading that meter_add or meter_edit prices matches the
code stored with it exactly when every meter_edit finds the tariff of that code unchanged. -/
theorem tariff_code_iff (php : Php) (w : World) (qs : List Request) :
    Trace.Admissible (TagihanCocok php) (step php) w qs ↔
      Trace.Admissible (KodeBerlaku php) (step php) w qs :=
  Trace.admissible_congr (tagihanCocok_iff php)

def gantiTarif : List Request :=
  [ajukan 2 hariBuka "tarif_edit"
      [("id_tarif_lama", "T1"), ("tipe_tarif", "RT"), ("tarif", "1000"), ("status", "TDK AKTIF")],
    ajukan 2 hariBuka "tarif_add"
      [("id_tarif", "T2"), ("tipe_tarif", "RT"), ("tarif", "2000"), ("status", "AKTIF")]]

/-- The treasurer's settlement bills at the new tariff under the old tariff's code. -/
theorem tariff_code_violated :
    let w := serve .decimal World.pertama (kantor ++ [catatSepuluh "budi"] ++ gantiTarif)
    w.db.satuTarif (some "budi") = true ∧ EditAccepted .decimal w bayarSepuluh ∧
      (step .decimal w bayarSepuluh).db.pemakaian.rows.map
        (fun r => (r.no, r.kdTarif, r.pemakaian, r.tagihan)) = [(1, "T1", 10, 20000)] ∧
      ¬TagihanCocok .decimal w bayarSepuluh := by
  unfold TagihanCocok
  decide +kernel

end SistemAir
