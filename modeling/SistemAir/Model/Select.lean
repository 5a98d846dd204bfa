import Mathlib.Algebra.Ring.Int.Defs
import SistemAir.Model.Forms
import SistemAir.Model.Teks

/-! The statements behind the page and the charts. None of them writes; each answer
has the columns its SELECT names and no others. -/
namespace SistemAir

open StatementProgram Prog

structure DataUser where
  nama : Option String
  alamat : Option String
  kota : Option String
  tlp : Option String
  level : Level
  tipe : Option String
  status : Option String
  deriving DecidableEq, Repr

def Login.data (a : Login) : DataUser :=
  ⟨a.nama, a.alamat, a.kota, a.tlp, a.level, a.tipe, a.status⟩

structure DataProfil where
  nama : Option String
  alamat : Option String
  kota : Option String
  tlp : Option String
  deriving DecidableEq, Repr

def Login.dataProfil (a : Login) : DataProfil := ⟨a.nama, a.alamat, a.kota, a.tlp⟩

structure BarisMeter where
  no : Nat
  username : Option String
  meterAwal : Option Decimal
  meterAkhir : Option Decimal
  pemakaian : Decimal
  tgl : Date
  waktu : Fin 86400
  tagihan : Decimal
  status : Option String
  deriving DecidableEq, Repr

def Pemakaian.barisMeter (r : Pemakaian) : BarisMeter :=
  ⟨r.no, r.username, r.meterAwal, r.meterAkhir, r.pemakaian, r.tgl, r.waktu, r.tagihan, r.status⟩

structure BarisWarga where
  tgl : Date
  waktu : Fin 86400
  kdTarif : String
  meterAwal : Option Decimal
  meterAkhir : Option Decimal
  pemakaian : Decimal
  tagihan : Decimal
  status : Option String
  buktiBayar : Option String
  no : Nat
  deriving DecidableEq, Repr

def Pemakaian.barisWarga (r : Pemakaian) : BarisWarga :=
  ⟨r.tgl, r.waktu, r.kdTarif, r.meterAwal, r.meterAkhir, r.pemakaian, r.tagihan, r.status,
    r.buktiBayar, r.no⟩

structure InfoWarga where
  tgl : Date
  waktu : Fin 86400
  pemakaian : Decimal
  tagihan : Decimal
  status : Option String
  deriving DecidableEq, Repr

def Pemakaian.info (r : Pemakaian) : InfoWarga := ⟨r.tgl, r.waktu, r.pemakaian, r.tagihan, r.status⟩

inductive Select : Type → Type where
  -- login/index.php
  /-- `SELECT nama, alamat, kota, tlp, level, tipe, status FROM login WHERE username=?` -/
  | userEdit (username : Option String) : Select (Option DataUser)
  /-- `SELECT tipe_tarif, tarif, status FROM tarif WHERE id_tarif=?` -/
  | tarifEdit (idTarif : Option String) :
    Select (Option (Option String × Option Decimal × Option String))
  /-- `SELECT username, meter_awal, meter_akhir FROM pemakaian WHERE no=?` -/
  | meterEdit (no : Option Int) : Select (Option (Option String × Option Decimal × Option Decimal))
  /-- `SELECT status FROM pemakaian WHERE no=?` -/
  | statusOf (no : Option Int) : Select (Option (Option String))
  /-- `SELECT username,nama,alamat,kota,tlp,level,tipe,status FROM login ORDER BY level ASC` -/
  | daftarUser : Select (List (String × DataUser))
  /-- `SELECT id_tarif, tipe_tarif, tarif, status FROM tarif ORDER BY id_tarif ASC` -/
  | daftarTarif : Select (List Tarif)
  /-- `SELECT no, username, meter_awal, meter_akhir, pemakaian, tgl, waktu, tagihan, status FROM
  pemakaian ORDER BY tgl DESC, username ASC` -/
  | daftarMeter : Select (List BarisMeter)
  /-- `SELECT nama,kota,level FROM login WHERE username=?`, for the owner of a reading -/
  | dtUser (username : Option String) : Select (Option (Option String × Option String × Level))
  /-- `SELECT username,nama FROM login WHERE level='warga'` -/
  | daftarWarga : Select (List (String × Option String))
  /-- `SELECT username, meter_akhir, tgl, waktu FROM pemakaian ORDER BY tgl DESC, waktu DESC`,
  folded into `$data_last_meter` -/
  | dataLastMeter (now : Stamp) : Select Riwayat
  /-- `SELECT tgl, waktu, kd_tarif, meter_awal, meter_akhir, pemakaian, tagihan, status FROM
  pemakaian WHERE username=? ORDER BY tgl DESC`, of which nothing is fetched -/
  | pemakaianSayaDulu (username : String) : Select Unit
  /-- `SELECT tgl, waktu, kd_tarif, meter_awal, meter_akhir, pemakaian, tagihan, status,
  bukti_bayar, no FROM pemakaian WHERE username=? ORDER BY tgl DESC` -/
  | pemakaianSaya (username : String) : Select (List BarisWarga)
  /-- `SELECT nama, alamat, kota, tlp FROM login WHERE username=?` -/
  | profil (username : String) : Select (Option DataProfil)
  /-- `SELECT actor_username, actor_level, aksi, tabel_target, id_target, detail, created_at FROM
  audit_log ORDER BY created_at DESC LIMIT 100` -/
  | logTerbaru : Select (List AuditLog)
  -- assets/ajax.php
  /-- `SELECT tgl FROM pemakaian ORDER BY tgl DESC LIMIT 1` -/
  | tglTerakhir : Select (Option Date)
  /-- `SELECT COUNT(username) FROM login WHERE level='warga'` -/
  | jmlWarga : Select Nat
  /-- `SELECT SUM(pemakaian) FROM pemakaian WHERE tgl LIKE ?` -/
  | totalPemakaian (bulan : String) : Select (Option Decimal)
  /-- `SELECT COUNT(username) FROM pemakaian WHERE tgl LIKE ?` -/
  | tercatat (bulan : String) : Select Nat
  /-- `SELECT SUM(tagihan) FROM pemakaian WHERE tgl LIKE ? AND status='LUNAS'` -/
  | totalPemasukan (bulan : String) : Select (Option Decimal)
  /-- `SELECT COUNT(username) FROM pemakaian WHERE tgl LIKE ? AND status=...` -/
  | jmlStatus (bulan status : String) : Select Nat
  /-- `SELECT tgl, waktu, pemakaian, tagihan, status FROM pemakaian WHERE username=? ORDER BY tgl
  DESC, waktu DESC LIMIT 1` -/
  | wargaTerakhir (username : String) : Select (Option InfoWarga)
  /-- `SELECT tgl, waktu, pemakaian, tagihan, status FROM pemakaian WHERE username=? AND tgl
  LIKE ?`, of which the first row is fetched -/
  | wargaBulan (username bulan : String) : Select (Option InfoWarga)
  /-- `SELECT MONTH(tgl), SUM(pemakaian) ... WHERE tgl >= ? AND tgl < ? GROUP BY MONTH(tgl)`, the
  bounds being the first days of a year and of the next -/
  | pemakaianPerBulan (tahun : Nat) : Select (List (Nat × Decimal))
  /-- `SELECT tipe, COUNT(username) FROM login WHERE level='warga' GROUP BY tipe` -/
  | tipePelanggan : Select (List (Option String × Nat))
  /-- `SELECT MONTH(tgl), COUNT(username) ... GROUP BY MONTH(tgl)` -/
  | tercatatPerBulan (tahun : Nat) : Select (List (Nat × Nat))
  /-- `SELECT MONTH(tgl), SUM(tagihan) ... GROUP BY MONTH(tgl)`, with `status='LUNAS'` or not -/
  | tagihanPerBulan (tahun : Nat) (lunas : Bool) : Select (List (Nat × Decimal))
  /-- `SELECT MONTH(tgl), COUNT(username) ... WHERE status=... GROUP BY MONTH(tgl)` -/
  | statusPerBulan (tahun : Nat) (status : String) : Select (List (Nat × Nat))
  /-- `SELECT MONTH(tgl), pemakaian, tagihan FROM pemakaian WHERE username=? AND tgl >= ? AND
  tgl < ?` -/
  | wargaPerBulan (username : String) (tahun : Nat) : Select (List (Nat × Decimal × Decimal))

/-! ## Orders and groups -/

def Level.urutan : Level → Nat
  | .admin => 0
  | .bendahara => 1
  | .petugas => 2
  | .warga => 3

/-- `ORDER BY username ASC`, null first. -/
def usernameLe : Option String → Option String → Bool
  | none, _ => true
  | some _, none => false
  | some u, some v => u ≤ v

/-- `ORDER BY tgl DESC, username ASC`. -/
def barisMeterLe (a b : BarisMeter) : Bool :=
  b.tgl.ordinal < a.tgl.ordinal || (a.tgl.ordinal = b.tgl.ordinal && usernameLe a.username b.username)

/-- `SUM`, null over no rows. -/
def sqlSum : List Decimal → Option Decimal
  | [] => none
  | x :: xs => some (xs.foldl (· + ·) x)

/-- `COUNT(username)` skips nulls. -/
def countUsername (rows : List Pemakaian) : Nat := (rows.filter (·.username.isSome)).length

/-- `GROUP BY MONTH(tgl)`: one answer for each month that has a row. -/
def perBulan {α : Type} (rows : List Pemakaian) (f : List Pemakaian → α) : List (Nat × α) :=
  (List.range' 1 12).filterMap fun bulan =>
    let kelompok := rows.filter (·.tgl.month = bulan)
    if kelompok = [] then none else some (bulan, f kelompok)

namespace Db

def pemakaianTahun (db : Db) (tahun : Nat) : List Pemakaian :=
  db.pemakaian.rows.filter (·.tgl.year = tahun)

def pemakaianOf (db : Db) (username : String) : List Pemakaian :=
  db.pemakaian.rows.filter (·.username = some username)

def warga (db : Db) : List Login := db.login.rows.filter (·.level = .warga)

end Db

def Select.jawab : (β : Type) → Select β → Db → β
  | _, .userEdit u, db => (u.bind db.akun).map Login.data
  | _, .tarifEdit id, db =>
    (id.bind db.tarif.find?).map fun t => (t.tipeTarif, t.tarif, t.status)
  | _, .meterEdit no, db =>
    (db.pemakaianByNo no).map fun r => (r.username, r.meterAwal, r.meterAkhir)
  | _, .statusOf no, db => (db.pemakaianByNo no).map Pemakaian.status
  | _, .daftarUser, db =>
    (db.login.rows.insertionSort fun a b => a.level.urutan ≤ b.level.urutan).map fun a =>
      (a.username, a.data)
  | _, .daftarTarif, db => db.tarif.rows.insertionSort fun a b => a.idTarif ≤ b.idTarif
  | _, .daftarMeter, db =>
    (db.pemakaian.rows.map Pemakaian.barisMeter).insertionSort fun a b => barisMeterLe a b
  | _, .dtUser u, db => (u.bind db.akun).map fun a => (a.nama, a.kota, a.level)
  | _, .daftarWarga, db => db.warga.map fun a => (a.username, a.nama)
  | _, .dataLastMeter now, db => SistemAir.dataLastMeter db now
  | _, .pemakaianSayaDulu _, _ => ()
  | _, .pemakaianSaya u, db =>
    ((db.pemakaianOf u).insertionSort fun a b => b.tgl.ordinal ≤ a.tgl.ordinal).map
      Pemakaian.barisWarga
  | _, .profil u, db => (db.akun u).map Login.dataProfil
  | _, .logTerbaru, db => (db.auditLog.insertionSort fun a b => b.createdAt ≤ a.createdAt).take 100
  | _, .tglTerakhir, db =>
    (db.pemakaian.rows.insertionSort fun a b => b.tgl.ordinal ≤ a.tgl.ordinal).head?.map
      Pemakaian.tgl
  | _, .jmlWarga, db => db.warga.length
  | _, .totalPemakaian bulan, db =>
    sqlSum ((db.pemakaian.rows.filter (·.tgl.like bulan)).map Pemakaian.pemakaian)
  | _, .tercatat bulan, db => countUsername (db.pemakaian.rows.filter (·.tgl.like bulan))
  | _, .totalPemasukan bulan, db =>
    sqlSum ((db.pemakaian.rows.filter fun r => r.tgl.like bulan && r.status = some "LUNAS").map
      Pemakaian.tagihan)
  | _, .jmlStatus bulan status, db =>
    countUsername (db.pemakaian.rows.filter fun r => r.tgl.like bulan && r.status = some status)
  | _, .wargaTerakhir u, db => (terbaruDulu (db.pemakaianOf u)).head?.map Pemakaian.info
  | _, .wargaBulan u bulan, db =>
    ((db.pemakaianOf u).filter (·.tgl.like bulan)).head?.map Pemakaian.info
  | _, .pemakaianPerBulan tahun, db =>
    perBulan (db.pemakaianTahun tahun) fun rows => (rows.map Pemakaian.pemakaian).sum
  | _, .tipePelanggan, db =>
    (db.warga.map Login.tipe).dedup.map fun tipe =>
      (tipe, (db.warga.filter (·.tipe = tipe)).length)
  | _, .tercatatPerBulan tahun, db => perBulan (db.pemakaianTahun tahun) countUsername
  | _, .tagihanPerBulan tahun lunas, db =>
    perBulan ((db.pemakaianTahun tahun).filter fun r => !lunas || r.status = some "LUNAS")
      fun rows => (rows.map Pemakaian.tagihan).sum
  | _, .statusPerBulan tahun status, db =>
    perBulan ((db.pemakaianTahun tahun).filter (·.status = some status)) countUsername
  | _, .wargaPerBulan u tahun, db =>
    ((db.pemakaianOf u).filter (·.tgl.year = tahun)).map fun r =>
      (r.tgl.month, r.pemakaian, r.tagihan)

/-- Every statement of a request, writing or not. `ingat` is none: it is a PHP variable
that an earlier statement has set from rows which are still the same. -/
inductive Kueri : Type → Type where
  | ubah {β : Type} (op : Op β) : Kueri β
  | baca {β : Type} (select : Select β) : Kueri β
  | ingat {β : Type} (nilai : Db → β) : Kueri β

def execKueri : (β : Type) → Kueri β → Server → Except Galat (β × Server)
  | _, .ubah op, s => exec _ op s
  | _, .baca select, s => .ok (select.jawab _ s.db, s)
  | _, .ingat nilai, s => .ok (nilai s.db, s)

abbrev Permintaan (α : Type) := Prog Kueri Galat α

def Aksi.angkat {α : Type} (p : Aksi α) : Permintaan α := Prog.lift Kueri.ubah p

def baca {β : Type} (select : Select β) : Permintaan β := perform (Kueri.baca select)

theorem run_angkat {α : Type} (p : Aksi α) (s : Server) :
    (Aksi.angkat p).run execKueri s = p.run exec s :=
  Prog.run_lift Kueri.ubah (fun _ _ => rfl) p s

theorem run_baca {α β : Type} (select : Select β) (f : β → Permintaan α) (s : Server) :
    (baca select >>= f).run execKueri s = (f (select.jawab _ s.db)).run execKueri s := by
  unfold baca
  rw [perform_bind]
  exact run_call_ok execKueri rfl f

end SistemAir
