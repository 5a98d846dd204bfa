import SistemAir.Spec.MonthlyRace
import SistemAir.Spec.Readings

/-! One reading a month where PHP and MySQL show different months. meter_add looks for an
earlier reading in PHP's month and stores the new one under MySQL's date. -/
namespace SistemAir

open KeyedTable StatementProgram Prog

def Db.adaBulan (db : Db) (username : Option String) (d : Date) : Bool :=
  0 < db.countMonth username d.month d.year

def Hasil.sudahDicatat : Hasil → Bool
  | .halaman (some .sudahDicatat) | .halamanDitolak (some .sudahDicatat) => true
  | _ => false

/-- A meter_add is told so only where the month of storage is taken. -/
def TolakBenar (php : Php) (w : World) (q : Request) : Prop :=
  q.tombol = some "meter_add" → ∀ hasil, (handle php w q).1 = .ok (.loginIndex hasil) →
    hasil.sudahDicatat = true →
    w.db.adaBulan (q.post.get? "username") q.clock.sql.date = true

/-- A meter_add finds its resident with a reading in both machines' months or in
neither; where only MySQL's month has one, a negative reading is stored nowhere. -/
def BulanSepakat (php : Php) (w : World) (q : Request) : Prop :=
  ∀ actor level b, Authorized w q actor level "meter_add" → Reading.ofPost php q.post = some b →
    (w.db.adaBulan (q.post.get? "username") q.clock.php.date = true →
      w.db.adaBulan (q.post.get? "username") q.clock.sql.date = true) ∧
    (w.db.adaBulan (q.post.get? "username") q.clock.sql.date = true →
      w.db.adaBulan (q.post.get? "username") q.clock.php.date = true ∨ b.pemakaian < 0)

section Months
variable {php : Php} {w : World} {q : Request} {actor : String} {level : Level} {b : Reading}

theorem adaBulan_iff {db : Db} {u : Option String} {d : Date} :
    db.adaBulan u d = true ↔ ∃ r ∈ db.pemakaian.rows, r.inMonth u d.month d.year = true := by
  simp only [Db.adaBulan, decide_eq_true_eq, Db.countMonth, List.length_pos_iff_exists_mem,
    List.mem_filter]

theorem bulanSepakat_of_month (h : q.clock.php.date.monthIndex = q.clock.sql.date.monthIndex) :
    BulanSepakat php w q := by
  obtain ⟨hmonth, hyear⟩ := (Date.monthIndex_eq_iff _ _).mp h
  have hsame : w.db.adaBulan (q.post.get? "username") q.clock.php.date =
      w.db.adaBulan (q.post.get? "username") q.clock.sql.date := by
    unfold Db.adaBulan
    rw [hmonth, hyear]
  intro actor level b _ _
  rw [hsame]
  exact ⟨id, .inl⟩

/-! ## A meter_add -/

theorem meterAdd_answers (hauth : Authorized w q actor level "meter_add")
    (hpost : Reading.ofPost php q.post = some b) :
    (w.db.adaBulan (q.post.get? "username") q.clock.php.date = true ∧
      ∃ hasil, (handle php w q).1 = .ok (.loginIndex hasil) ∧ hasil.sudahDicatat = true) ∨
    w.db.adaBulan (q.post.get? "username") q.clock.php.date = false ∧
      ∀ hasil, (handle php w q).1 = .ok (.loginIndex hasil) → hasil.sudahDicatat = false := by
  have hrun : (dispatch php q actor level "meter_add").run exec (w.opened q) =
      (meterAdd php actor level q.post).run exec (w.opened q) := rfl
  have hada : (w.opened q).sudahDicatat (q.post.get? "username") =
      w.db.adaBulan (q.post.get? "username") q.clock.php.date := rfl
  have hanswer := (handle_of_authorized php hauth).1
  rw [hrun, run_meterAdd, hpost] at hanswer
  simp only [hada] at hanswer
  cases hmonth : w.db.adaBulan (q.post.get? "username") q.clock.php.date with
  | true =>
    simp only [hmonth, if_true] at hanswer
    refine .inl ⟨rfl, _, hanswer, ?_⟩
    simp only [render]
    split <;> rfl
  | false =>
    simp only [hmonth, Bool.false_eq_true, if_false] at hanswer
    refine .inr ⟨rfl, fun hasil hhasil => ?_⟩
    rw [hanswer] at hhasil
    split at hhasil
    · cases hhasil
      simp only [render]
      split <;> rfl
    · cases hhasil
      rfl

theorem satuPerBulan_of_rows {db db' : Db} (hdb : SatuPerBulan db)
    (hrows : ∀ r' ∈ db'.pemakaian.rows, ∃ r ∈ db.pemakaian.rows,
      r.no = r'.no ∧ r.username = r'.username ∧ r.tgl = r'.tgl) : SatuPerBulan db' := by
  intro r₁ hr₁ r₂ hr₂ huser hsame hmonth hyear
  obtain ⟨s₁, hs₁, hno₁, huser₁, htgl₁⟩ := hrows r₁ hr₁
  obtain ⟨s₂, hs₂, hno₂, huser₂, htgl₂⟩ := hrows r₂ hr₂
  have hsource : s₂ = s₁ := by
    refine hdb s₁ hs₁ s₂ hs₂ (huser₁ ▸ huser) ?_ ?_ ?_
    · rw [huser₁, huser₂, hsame]
    · rw [htgl₁, htgl₂, hmonth]
    · rw [htgl₁, htgl₂, hyear]
  have hno : r₂.no = r₁.no := by rw [← hno₁, ← hno₂, hsource]
  exact List.inj_on_of_nodup_map db'.pemakaian.nodup hr₂ hr₁ hno

theorem satuPerBulan_adds (h : Adds php w q actor level b) (hw : SatuPerBulan w.db) :
    SatuPerBulan (step php w q).db ↔
      w.db.adaBulan (q.post.get? "username") q.clock.sql.date = false := by
  rw [satuPerBulan_append h.rows hw, ← Bool.not_eq_true, adaBulan_iff]
  simp only [not_exists, not_and, Bool.not_eq_true]
  rfl

theorem satuPerBulan_other (h : ∀ actor level b, ¬Adds php w q actor level b)
    (hw : SatuPerBulan w.db) : SatuPerBulan (step php w q).db := by
  refine satuPerBulan_of_rows hw fun r' hr' => ?_
  cases rowFrom_step php w q hr' with
  | kept hr => exact ⟨r', hr, rfl, rfl, rfl⟩
  | bukti hr bukti heq => exact ⟨_, hr, by rw [heq]; rfl, by rw [heq]; rfl, by rw [heq]; rfl⟩
  | edited hedit hr hno heq => exact ⟨_, hr, by rw [heq]; rfl, by rw [heq]; rfl, by rw [heq]; rfl⟩
  | added hadd heq => exact absurd hadd (h _ _ _)

theorem reading_of_sudahDicatat {hasil : Hasil} (hasks : q.tombol = some "meter_add")
    (h : (handle php w q).1 = .ok (.loginIndex hasil)) (hsudah : hasil.sudahDicatat = true) :
    ∃ actor level b, Authorized w q actor level "meter_add" ∧
      Reading.ofPost php q.post = some b := by
  have hpage : q.page = .loginIndex := by
    cases hpage : q.page with
    | loginIndex => rfl
    | index =>
      simp only [handle, hpage] at h
      cases hout : (handleIndex php w q).1 <;> rw [hout] at h <;> cases h
    | ajax => simp only [handle, hpage] at h; cases h
    | logout => simp only [handle, hpage] at h; cases h
  rcases loginIndex_cases php (w := w) hpage with
    ⟨penjaga, hpenjaga, hanswer, -⟩ | ⟨actor, level, tombol, hauth⟩
  · rw [hanswer] at h
    cases h
    cases hasil with
    | halaman pesan => cases pesan <;> cases hpenjaga; cases hsudah
    | halamanDitolak pesan => cases pesan <;> cases hpenjaga; cases hsudah
    | _ => cases hsudah
  · obtain rfl : tombol = "meter_add" := Option.some.inj (hauth.asks.symm.trans hasks)
    cases hpost : Reading.ofPost php q.post with
    | some b => exact ⟨actor, level, b, hauth, rfl⟩
    | none =>
      have hanswer := (handle_of_authorized php hauth).1
      have hrun : (dispatch php q actor level "meter_add").run exec (w.opened q) =
          (meterAdd php actor level q.post).run exec (w.opened q) := rfl
      rw [hrun, run_meterAdd, hpost, h] at hanswer
      cases hanswer

theorem bulanSepakat_iff (hw : SatuPerBulan w.db) :
    (SatuPerBulan (step php w q).db ∧ TolakBenar php w q) ↔ BulanSepakat php w q := by
  constructor
  · rintro ⟨hone, htolak⟩ actor level b hauth hpost
    rcases meterAdd_answers hauth hpost with ⟨hphp, hasil, hanswer, hsudah⟩ | ⟨hphp, -⟩
    · exact ⟨fun _ => htolak hauth.asks hasil hanswer hsudah, fun _ => .inl hphp⟩
    · refine ⟨fun h => absurd h (by rw [hphp]; decide), fun hsql => .inr ?_⟩
      by_contra hpos
      have hadd : Adds php w q actor level b :=
        ⟨hauth, hpost, Nat.eq_zero_of_not_pos (of_decide_eq_false hphp), not_lt.mp hpos⟩
      rw [(satuPerBulan_adds hadd hw).mp hone] at hsql
      cases hsql
  · intro hsepakat
    constructor
    · by_cases hadd : ∃ actor level b, Adds php w q actor level b
      · obtain ⟨actor, level, b, hadd⟩ := hadd
        rw [satuPerBulan_adds hadd hw, ← Bool.not_eq_true]
        intro hsql
        rcases (hsepakat actor level b hadd.auth hadd.reading).2 hsql with hphp | hneg
        · rw [Db.adaBulan, hadd.month] at hphp
          cases hphp
        · exact absurd hadd.nonneg (not_le.mpr hneg)
      · exact satuPerBulan_other (fun actor level b h => hadd ⟨actor, level, b, h⟩) hw
    · intro hasks hasil hanswer hsudah
      obtain ⟨actor, level, b, hauth, hpost⟩ := reading_of_sudahDicatat hasks hanswer hsudah
      rcases meterAdd_answers hauth hpost with ⟨hphp, -⟩ | ⟨-, hother⟩
      · exact (hsepakat actor level b hauth hpost).1 hphp
      · rw [hother hasil hanswer] at hsudah
        cases hsudah

end Months

theorem satuPerBulan_agree (php : Php) {w : World} {q : Request} (hagree : q.clock.Agree)
    (hw : SatuPerBulan w.db) : SatuPerBulan (step php w q).db :=
  ((bulanSepakat_iff hw).mpr (bulanSepakat_of_month (congrArg Date.monthIndex hagree))).1

/-- Over every run from tables that keep the rule, whatever the two machines' clocks
show: they keep it, and no refusal is wrong, exactly when every meter_add finds its
resident with a reading in both machines' months or in neither. -/
theorem monthly_clocks_iff (php : Php) {w : World} (hw : SatuPerBulan w.db)
    (qs : List Request) :
    (Trace.Always (fun w => SatuPerBulan w.db) (step php) w qs ∧
        Trace.Admissible (TolakBenar php) (step php) w qs) ↔
      Trace.Admissible (BulanSepakat php) (step php) w qs :=
  Trace.always_and_admissible_iff (I := fun w : World => SatuPerBulan w.db)
    (fun _ _ h => bulanSepakat_iff h) hw

theorem monthly_clocks_kantor :
    Trace.Always (fun w => SatuPerBulan w.db) (step Php.decimal) World.pertama
        (kantor ++ [catatSepuluh "budi", catatSepuluh "budi"]) ∧
      Trace.Admissible (TolakBenar Php.decimal) (step Php.decimal) World.pertama
        (kantor ++ [catatSepuluh "budi", catatSepuluh "budi"]) := by
  have hmonth : ∀ q ∈ kantor ++ [catatSepuluh "budi", catatSepuluh "budi"],
      q.clock.php.date.monthIndex = q.clock.sql.date.monthIndex := by
    decide +kernel
  exact (monthly_clocks_iff Php.decimal (by decide) _).mpr
    (Trace.admissible_of_forall_mem fun q hq _ => bulanSepakat_of_month (hmonth q hq))

/-- PHP in Asia/Jakarta, seven hours ahead of UTC, and MySQL `geser` seconds ahead. -/
structure Clock.DiZona (geser : Int) (c : Clock) : Prop where
  php : c.php.seconds = c.time + 25200
  sql : c.sql.seconds = c.time + geser

instance (geser : Int) (c : Clock) : Decidable (c.DiZona geser) :=
  decidable_of_iff (c.php.seconds = c.time + 25200 ∧ c.sql.seconds = c.time + geser)
    ⟨fun ⟨h₁, h₂⟩ => ⟨h₁, h₂⟩, fun h => ⟨h.php, h.sql⟩⟩

def Request.saat (php sql : Stamp) (q : Request) : Request :=
  { q with clock := ⟨(php.seconds - 25200).toNat, php, sql⟩ }

def sebelumMalam (jam : Fin 86400) (php sql : Stamp) : List Request :=
  (kantor ++ [catatSepuluh "budi"]).map (Request.saat hariBuka { hariBuka with time := jam }) ++
    (masuk 5 hariBuka "joko" "j").map (Request.saat php sql)

def catatMalam (php sql : Stamp) : Request :=
  { catatSepuluh "budi" with sid := 5 }.saat php sql

def akhirJanuari : Stamp := { hariTerakhirJanuari with time := 82800 }

def awalFebruari : Stamp := { hariPertamaFebruari with time := 7200 }

def catatDiUtc : List Request :=
  sebelumMalam 3600 awalFebruari { akhirJanuari with time := 68400 } ++
    [catatMalam awalFebruari { akhirJanuari with time := 68400 }]

def catatDiTimur : List Request :=
  sebelumMalam 39600 akhirJanuari awalFebruari ++ [catatMalam akhirJanuari awalFebruari]

/-- On UTC the resident gets a second January reading, further east the resident without
a February reading is told that it is on record. -/
theorem monthly_clocks_violated :
    SatuPerBulan World.pertama.db ∧
      ((∀ q ∈ catatDiUtc, q.clock.DiZona 0) ∧
        (catatDiUtc.map fun q => q.clock.time).Pairwise (· ≤ ·) ∧
        ¬SatuPerBulan (serve Php.decimal World.pertama catatDiUtc).db) ∧
      (∀ q ∈ catatDiTimur, q.clock.DiZona 36000) ∧
        (catatDiTimur.map fun q => q.clock.time).Pairwise (· ≤ ·) ∧
        ¬Trace.Admissible (TolakBenar Php.decimal) (step Php.decimal) World.pertama
          catatDiTimur := by
  refine ⟨by decide, by decide +kernel, by decide +kernel, by decide +kernel, fun h => ?_⟩
  have htolak : TolakBenar Php.decimal
      (serve Php.decimal World.pertama (sebelumMalam 39600 akhirJanuari awalFebruari))
      (catatMalam akhirJanuari awalFebruari) := h.last
  suffices h : _ ∧ ¬_ from
    h.2 (htolak (by decide) (.halaman (some .sudahDicatat)) h.1 rfl)
  decide +kernel

end SistemAir
