import SistemAir.Spec.Forms
import SistemAir.Spec.Readings

/-! Two edits of one reading from stale copies. Each form carries all the columns
meter_edit overwrites, so the row ends as the form submitted last has it. -/
namespace SistemAir

open HtmlForm KeyedTable StatementProgram Prog

/-! ## The two forms -/

structure Halaman.Mengedit (php : Php) (h : Halaman) (r : Pemakaian) : Prop where
  page : h.p = "meter_edit"
  no : php.intval h.no = r.no
  post : h.post = suntikMeter r

instance (php : Php) (h : Halaman) (r : Pemakaian) : Decidable (h.Mengedit php r) :=
  decidable_of_iff (h.p = "meter_edit" ∧ php.intval h.no = r.no ∧ h.post = suntikMeter r)
    ⟨fun ⟨h₁, h₂, h₃⟩ => ⟨h₁, h₂, h₃⟩, fun h => ⟨h.page, h.no, h.post⟩⟩

/-- The status the form of a level carries for a row, before anyone touches it. -/
def statusForm (level : Level) (status : Option String) : Option String :=
  if level ∈ [Level.admin, .bendahara] then
    pilihan ["BELUM LUNAS", "LUNAS"] fun s => status = some s
  else some "BELUM LUNAS"

def formKoreksi (h : Halaman) (akhir : String) : Form :=
  kirimForm h [.isi .meterForm "meter_akhir" akhir] .meterForm

def formBayar (h : Halaman) (status : String) : Form :=
  kirimForm h [.isi .meterForm "status_bayar" status] .meterForm

section Fields
variable {php : Php} {h : Halaman} {r : Pemakaian}

theorem suntikMeter_get? (r : Pemakaian) :
    (suntikMeter r).get? "meter_awal" = r.meterAwal.map Decimal.text ∧
    (suntikMeter r).get? "meter_akhir" = r.meterAkhir.map Decimal.text ∧
    (suntikMeter r).get? "status_bayar" = r.status := by
  obtain ⟨no, username, awal, akhir, pemakaian, tgl, waktu, kd, tagihan, status, bukti⟩ := r
  cases username <;> cases awal <;> cases akhir <;> cases status <;>
    simp [suntikMeter, Form.get?]

theorem muat_meterEdit (hp : h.p = "meter_edit") :
    muat h .meterForm =
      [csrfInput h,
        .select "username" ("" :: h.warga)
          (pilihan ("" :: h.warga) fun u =>
            (h.post.get? "username").any fun posted => h.php.sama posted u) true,
        .input "number" "meter_awal" (orEmpty (h.post.get? "meter_awal")),
        .input "number" "meter_akhir" (orEmpty (h.post.get? "meter_akhir")),
        statusBayarControl h, .input "hidden" "no" h.no, submitButton "meter_edit",
        .input "hidden" "no" h.no] := by
  simp only [muat, ready, cetak, meterForm, statusBayarControl, hp, if_true]
  split <;> rfl

theorem formKoreksi_get? (hp : h.Mengedit php r) (akhir : String) :
    (formKoreksi h akhir).get? "tombol" = some "meter_edit" ∧
    (formKoreksi h akhir).get? "no" = some h.no ∧
    (formKoreksi h akhir).get? "meter_awal" = some (orEmpty (r.meterAwal.map Decimal.text)) ∧
    (formKoreksi h akhir).get? "meter_akhir" = some akhir ∧
    (formKoreksi h akhir).get? "status_bayar" = statusForm h.level r.status := by
  obtain ⟨hawal, -, hstatus⟩ := suntikMeter_get? r
  have hform : setelahKlik h [.isi .meterForm "meter_akhir" akhir] .meterForm =
      fill "meter_akhir" akhir (muat h .meterForm) := rfl
  rw [formKoreksi, kirimForm, hform, muat_meterEdit hp.page, hp.post, hawal, statusBayarControl,
    hp.post, hstatus, statusForm]
  split <;> cases pilihan ["BELUM LUNAS", "LUNAS"] fun s => r.status = some s <;>
    simp [fill, submit, Form.get?, csrfInput, submitButton, Control.fill, Control.fields,
      Control.name]

theorem formBayar_get? (hp : h.Mengedit php r) (hlevel : h.level = .bendahara) {status : String}
    (hstatus : status ∈ ["BELUM LUNAS", "LUNAS"]) :
    (formBayar h status).get? "tombol" = some "meter_edit" ∧
    (formBayar h status).get? "no" = some h.no ∧
    (formBayar h status).get? "meter_awal" = some (orEmpty (r.meterAwal.map Decimal.text)) ∧
    (formBayar h status).get? "meter_akhir" = some (orEmpty (r.meterAkhir.map Decimal.text)) ∧
    (formBayar h status).get? "status_bayar" = some status := by
  obtain ⟨hawal, hakhir, -⟩ := suntikMeter_get? r
  have hform : setelahKlik h [.isi .meterForm "status_bayar" status] .meterForm =
      fill "status_bayar" status (muat h .meterForm) := rfl
  have hpick : status = "BELUM LUNAS" ∨ status = "LUNAS" := by simpa using hstatus
  rw [formBayar, kirimForm, hform, muat_meterEdit hp.page, hp.post, hawal, hakhir,
    statusBayarControl, hlevel, if_pos (by decide)]
  simp [fill, submit, Form.get?, csrfInput, submitButton, Control.fill, Control.fields,
    Control.name, hpick]

end Fields

/-! ## One accepted edit -/

/-- A meter_edit of `r` that posts its stored meter_awal with these other values. -/
structure Kiriman (php : Php) (q : Request) (r : Pemakaian) (akhir : String)
    (status : Option String) : Prop where
  asks : q.tombol = some "meter_edit"
  no : Db.nomor php q.post = some (r.no : Int)
  meterAwal : q.post.get? "meter_awal" = some (orEmpty (r.meterAwal.map Decimal.text))
  meterAkhir : q.post.get? "meter_akhir" = some akhir
  status_bayar : q.post.get? "status_bayar" = status

structure Diterima (php : Php) (w : World) (q : Request) (no : Nat) : Prop where
  answer : EditAccepted php w q
  positive : ∀ r ∈ (step php w q).db.pemakaian.rows, r.no = no → 0 < r.pemakaian

instance (php : Php) (w : World) (q : Request) (no : Nat) : Decidable (Diterima php w q no) :=
  decidable_of_iff (EditAccepted php w q ∧
      ∀ r ∈ (step php w q).db.pemakaian.rows, r.no = no → 0 < r.pemakaian)
    ⟨fun ⟨h₁, h₂⟩ => ⟨h₁, h₂⟩, fun h => ⟨h.answer, h.positive⟩⟩

/-- Nothing of either change is lost: the row has the corrected reading, is priced
on it at the rate of `db` and has the chosen status. -/
structure Terjaga (db : Db) (koreksi : Option Decimal) (lunas : String) (row : Pemakaian) : Prop where
  meterAkhir : row.meterAkhir = koreksi
  pemakaian : row.pemakaian = koreksi.getD 0 - row.meterAwal.getD 0
  tagihan : row.tagihan = db.rate row.username * (koreksi.getD 0 - row.meterAwal.getD 0)
  status : row.status = some lunas

instance (db : Db) (koreksi : Option Decimal) (lunas : String) (row : Pemakaian) :
    Decidable (Terjaga db koreksi lunas row) :=
  decidable_of_iff (row.meterAkhir = koreksi ∧
      row.pemakaian = koreksi.getD 0 - row.meterAwal.getD 0 ∧
      row.tagihan = db.rate row.username * (koreksi.getD 0 - row.meterAwal.getD 0) ∧
      row.status = some lunas)
    ⟨fun ⟨h₁, h₂, h₃, h₄⟩ => ⟨h₁, h₂, h₃, h₄⟩,
      fun h => ⟨h.meterAkhir, h.pemakaian, h.tagihan, h.status⟩⟩

section Edit
variable {php : Php} {w : World} {q : Request} {r row : Pemakaian} {akhir : String}
  {status : Option String}

theorem kiriman_koreksi {h : Halaman} (hp : h.Mengedit php r)
    (hpost : q.post = formKoreksi h akhir) : Kiriman php q r akhir (statusForm h.level r.status) := by
  obtain ⟨hasks, hno, hawal, hakhir, hstatus⟩ := formKoreksi_get? hp akhir
  rw [← hpost] at hasks hno hawal hakhir hstatus
  refine ⟨hasks, ?_, hawal, hakhir, hstatus⟩
  rw [Db.nomor, hno, Option.map_some, hp.no]

theorem kiriman_bayar {h : Halaman} {lunas : String} (hp : h.Mengedit php r)
    (hlevel : h.level = .bendahara) (hlunas : lunas ∈ ["BELUM LUNAS", "LUNAS"])
    (hpost : q.post = formBayar h lunas) :
    Kiriman php q r (orEmpty (r.meterAkhir.map Decimal.text)) (some lunas) := by
  obtain ⟨hasks, hno, hawal, hakhir, hstatus⟩ := formBayar_get? hp hlevel hlunas
  rw [← hpost] at hasks hno hawal hakhir hstatus
  refine ⟨hasks, ?_, hawal, hakhir, hstatus⟩
  rw [Db.nomor, hno, Option.map_some, hp.no]

theorem Kiriman.reading (h : Kiriman php q r akhir status) {b : Reading}
    (hb : Reading.ofPost php q.post = some b) : b = ⟨r.meterAwal, php.angka akhir⟩ := by
  have hawal := reading_meterAwal hb h.meterAwal
  have hakhir := (operands_of_reading hb).1
  rw [h.meterAkhir, readOperand] at hakhir
  obtain ⟨n, hn, hsome⟩ := Option.map_eq_some_iff.mp hakhir
  rw [hn, hsome, ← hawal]

theorem Kiriman.edits (h : Kiriman php q r akhir status) (hq : EditAccepted php w q) :
    ∃ actor level, Edits php w q actor level ⟨r.meterAwal, php.angka akhir⟩ := by
  obtain ⟨actor, level, b, hedit⟩ := edits_of_accepted h.asks hq
  obtain rfl := h.reading hedit.reading
  exact ⟨actor, level, hedit⟩

theorem Kiriman.mem_rows (h : Kiriman php q r akhir status) (hq : Diterima php w q r.no)
    (hrow : row ∈ w.db.pemakaian.rows) (hno : row.no = r.no) :
    { row with
        meterAwal := r.meterAwal
        meterAkhir := php.angka akhir
        pemakaian := (php.angka akhir).getD 0 - r.meterAwal.getD 0
        tagihan := w.db.rate row.username * ((php.angka akhir).getD 0 - r.meterAwal.getD 0)
        status := status } ∈ (step php w q).db.pemakaian.rows := by
  obtain ⟨actor, level, hedit⟩ := h.edits hq.answer
  have haddressed : Db.nomor php q.post = some (row.no : Int) := by rw [hno, h.no]
  have hmem : w.db.editRow php q.post ⟨r.meterAwal, php.angka akhir⟩ row ∈
      (step php w q).db.pemakaian.rows := hedit.mem_rows hrow haddressed
  have hpos := hq.positive _ hmem hno
  have hstatus : Reading.status ⟨r.meterAwal, php.angka akhir⟩ (q.post.get? "status_bayar") =
      status := by
    rw [h.status_bayar]
    exact if_neg (ne_of_gt hpos)
  rw [Db.editRow, Pemakaian.setMeter, haddressed, noToUser_of_mem hrow, hstatus] at hmem
  exact hmem

theorem Kiriman.rate (h : Kiriman php q r akhir status) (hq : EditAccepted php w q)
    (username : Option String) : (step php w q).db.rate username = w.db.rate username := by
  obtain ⟨actor, level, hedit⟩ := h.edits hq
  obtain ⟨entries, hdb⟩ := hedit.db
  rw [hdb]
  rfl

theorem Kiriman.terjaga_step (h : Kiriman php q r akhir status) (hq : EditAccepted php w q)
    {koreksi : Option Decimal} {lunas : String} {row : Pemakaian} :
    Terjaga w.db koreksi lunas row ↔ Terjaga (step php w q).db koreksi lunas row := by
  have hrate := h.rate hq row.username
  constructor
  · intro hkept
    exact ⟨hkept.meterAkhir, hkept.pemakaian, by rw [hrate]; exact hkept.tagihan, hkept.status⟩
  · intro hkept
    exact ⟨hkept.meterAkhir, hkept.pemakaian, by rw [← hrate]; exact hkept.tagihan, hkept.status⟩

/-- After an accepted edit of `r` both changes stand exactly when that edit posted both. -/
theorem Kiriman.terjaga_iff (h : Kiriman php q r akhir status) (hq : Diterima php w q r.no)
    (hrow : row ∈ w.db.pemakaian.rows) (hno : row.no = r.no) (koreksi : Option Decimal)
    (lunas : String) :
    (∃ r' ∈ (step php w q).db.pemakaian.rows, r'.no = r.no ∧ Terjaga w.db koreksi lunas r') ↔
      php.angka akhir = koreksi ∧ status = some lunas := by
  have hmem := h.mem_rows hq hrow hno
  constructor
  · rintro ⟨r', hr', hno', hkept⟩
    have hsame := (step php w q).db.pemakaian.eq_of_key hr' hmem (hno'.trans hno.symm)
    rw [hsame] at hkept
    exact ⟨hkept.meterAkhir, hkept.status⟩
  · rintro ⟨rfl, rfl⟩
    exact ⟨_, hmem, hno, ⟨rfl, rfl, rfl, rfl⟩⟩

end Edit

/-! ## Both orders -/

inductive Urutan
  | koreksiDulu
  | bayarDulu
  deriving DecidableEq, Repr

def Urutan.pertama (koreksi bayar : Request) : Urutan → Request
  | .koreksiDulu => koreksi
  | .bayarDulu => bayar

def Urutan.kedua (koreksi bayar : Request) : Urutan → Request
  | .koreksiDulu => bayar
  | .bayarDulu => koreksi

/-- The form submitted last agrees with what the other one changed. -/
def Urutan.Aman (php : Php) (r : Pemakaian) (level : Level) (akhir lunas : String) :
    Urutan → Prop
  | .koreksiDulu => php.angka akhir = r.meterAkhir
  | .bayarDulu => statusForm level r.status = some lunas

/-- Of a correction and a settlement on forms printed for one stored row, both stand
exactly when the form submitted last happens to carry the other one's change. -/
theorem suntingan_terjaga_iff (php : Php) (w : World) (r : Pemakaian) (hk hb : Halaman)
    (akhir lunas : String) (koreksi bayar : Request) (urutan : Urutan)
    (hr : r ∈ w.db.pemakaian.rows) (hkoreksi : hk.Mengedit php r) (hbayar : hb.Mengedit php r)
    (hlevel : hb.level = .bendahara) (hlunas : lunas ∈ ["BELUM LUNAS", "LUNAS"])
    (hpostk : koreksi.post = formKoreksi hk akhir) (hpostb : bayar.post = formBayar hb lunas)
    (hfirst : Diterima php w (urutan.pertama koreksi bayar) r.no)
    (hsecond : Diterima php (step php w (urutan.pertama koreksi bayar))
      (urutan.kedua koreksi bayar) r.no) :
    (∃ row ∈ (serve php w [urutan.pertama koreksi bayar, urutan.kedua koreksi bayar]).db.pemakaian.rows,
        row.no = r.no ∧ Terjaga w.db (php.angka akhir) lunas row) ↔
      urutan.Aman php r hk.level akhir lunas := by
  have hk' := kiriman_koreksi hkoreksi hpostk
  have hb' := kiriman_bayar hbayar hlevel hlunas hpostb
  simp only [Trace.run_cons, Trace.run_nil]
  cases urutan with
  | koreksiDulu =>
    simp only [hk'.terjaga_step hfirst.answer]
    have hmem := hk'.mem_rows hfirst hr rfl
    have hlast := hb'.terjaga_iff hsecond hmem rfl (php.angka akhir) lunas
    rw [angka_printed] at hlast
    exact hlast.trans ⟨fun ⟨hsame, _⟩ => Eq.symm hsame, fun hsame => ⟨Eq.symm hsame, rfl⟩⟩
  | bayarDulu =>
    simp only [hb'.terjaga_step hfirst.answer]
    have hmem := hb'.mem_rows hfirst hr rfl
    have hlast := hk'.terjaga_iff hsecond hmem rfl (php.angka akhir) lunas
    exact hlast.trans ⟨fun ⟨_, hsame⟩ => hsame, fun hsame => ⟨rfl, hsame⟩⟩

def halamanEdit (level : Level) (r : Pemakaian) : Halaman where
  php := .decimal
  p := "meter_edit"
  user := ""
  idTarif := ""
  no := toString r.no
  token := "7f3a"
  post := suntikMeter r
  level := level
  levelTarget := none
  tipe := none
  status := none
  warga := ["budi"]

def koreksiForm (r : Pemakaian) (akhir : String) : Request :=
  Request.kirim 1 .loginIndex hariBuka (formKoreksi (halamanEdit .petugas r) akhir)

def bayarForm (r : Pemakaian) (status : String) : Request :=
  Request.kirim 2 .loginIndex hariBuka (formBayar (halamanEdit .bendahara r) status)

/-- A settlement that is taken back survives the meter reader's correction. -/
theorem suntingan_terjaga_budi :
    let lunas := { tagihanBudi with status := some "LUNAS" }
    let w := serve .decimal World.pertama (kantor ++ [catatSepuluh "budi", bayarSepuluh])
    ∃ row ∈ (serve .decimal w [bayarForm lunas "BELUM LUNAS",
        koreksiForm lunas "12"]).db.pemakaian.rows,
      row.no = 1 ∧ Terjaga w.db (some 12) "BELUM LUNAS" row := by
  have hangka : Php.decimal.angka "12" = some 12 := by decide +kernel
  rw [← hangka]
  suffices h : _ ∧ _ ∧ _ ∧ _ ∧ _ by
    obtain ⟨hrow, hpetugas, hbendahara, hpertama, hkedua⟩ := h
    exact (suntingan_terjaga_iff .decimal _ { tagihanBudi with status := some "LUNAS" } _ _ "12"
      "BELUM LUNAS" (koreksiForm _ "12") (bayarForm _ "BELUM LUNAS") .bayarDulu hrow hpetugas
      hbendahara rfl (by decide) rfl rfl hpertama hkedua).mpr rfl
  decide +kernel

/-- The meter reader corrects 10 to 12 while the treasurer settles: the settlement is
lost in one order, the correction in the other. -/
theorem suntingan_hilang :
    let w := serve .decimal World.pertama (kantor ++ [catatSepuluh "budi"])
    let koreksi := koreksiForm tagihanBudi "12"
    let bayar := bayarForm tagihanBudi "LUNAS"
    tagihanBudi ∈ w.db.pemakaian.rows ∧
      (halamanEdit .petugas tagihanBudi).Mengedit .decimal tagihanBudi ∧
      (halamanEdit .bendahara tagihanBudi).Mengedit .decimal tagihanBudi ∧
      (Diterima .decimal w bayar 1 ∧ Diterima .decimal (step .decimal w bayar) koreksi 1 ∧
        ¬∃ row ∈ (serve .decimal w [bayar, koreksi]).db.pemakaian.rows,
          row.no = 1 ∧ Terjaga w.db (some 12) "LUNAS" row) ∧
      (Diterima .decimal w koreksi 1 ∧ Diterima .decimal (step .decimal w koreksi) bayar 1 ∧
        ¬∃ row ∈ (serve .decimal w [koreksi, bayar]).db.pemakaian.rows,
          row.no = 1 ∧ Terjaga w.db (some 12) "LUNAS" row) := by
  decide +kernel

end SistemAir
