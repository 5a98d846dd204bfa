import SistemAir.Library.Program
import SistemAir.Model.Request

/-! The statements the pages send to the database, one constructor for each SQL
text, and the two other effects of a request: reading the clock and storing an
uploaded file. -/
namespace SistemAir

open KeyedTable StatementProgram

/-- An uncaught exception, which ends the request. -/
inductive Galat
  | typeError
  | rejectedValue
  | nullKey
  | duplicateKey
  deriving DecidableEq, Repr

/-- The state a statement sees. `berkas` is assets/img/bukti, last write first. -/
structure Server where
  db : Db
  berkas : List (String × String)
  clock : Clock

/-- SQL `=`, which no null satisfies. -/
def sqlEq {α : Type} [DecidableEq α] (a b : Option α) : Bool := a.isSome && decide (a = b)

@[simp] theorem sqlEq_iff {α : Type} [DecidableEq α] {a b : Option α} :
    sqlEq a b = true ↔ a.isSome ∧ a = b := by
  simp [sqlEq]

/-- A `WHERE no=?` whose parameter was bound as an integer. -/
def Pemakaian.hasNo (no : Option Int) (r : Pemakaian) : Bool := some (r.no : Int) = no

/-- A `WHERE username=? AND MONTH(tgl)=? AND YEAR(tgl)=?`. -/
def Pemakaian.inMonth (username : Option String) (month year : Nat) (r : Pemakaian) : Bool :=
  sqlEq r.username username && r.tgl.month = month && r.tgl.year = year

inductive Op : Type → Type where
  | clock : Op Clock
  /-- `SELECT nama,kota,level FROM login WHERE username=?` -/
  | dtUser (username : String) : Op (Option (Option String × Option String × Level))
  /-- `SELECT tipe FROM login WHERE username=?` -/
  | tipeOf (username : Option String) : Op (Option (Option String))
  /-- `SELECT id_tarif, tarif FROM tarif WHERE tipe_tarif=? AND status='AKTIF'` -/
  | tarifAktif (tipe : Option String) : Op (Option (String × Option Decimal))
  /-- `SELECT tarif FROM tarif WHERE id_tarif=? AND status='AKTIF'` -/
  | tarifOf (idTarif : String) : Op (Option (Option Decimal))
  /-- `SELECT username FROM pemakaian WHERE no=?` -/
  | usernameOf (no : Option Int) : Op (Option (Option String))
  /-- `INSERT INTO audit_log (...) VALUES (?, ?, ?, ?, ?, ?, NOW())` -/
  | insertAudit (actor : String) (level : Level) (aksi tabel : String) (idTarget : Option String)
      (detail : String) : Op Unit
  /-- `SELECT username FROM login WHERE username=?`, of which only the row count is used -/
  | countLogin (username : Option String) : Op Nat
  /-- `SELECT username, password FROM login WHERE username=?` -/
  | passwordOf (username : String) : Op (Option (String × String))
  /-- `INSERT INTO login (...) VALUES (...)` -/
  | insertLogin (username : Option String) (password : String) (nama alamat kota tlp : Option String)
      (level : Level) (tipe status : Option String) : Op Nat
  /-- `UPDATE login SET [password=?,] nama=?, alamat=?, kota=?, tlp=?, level=?, tipe=?, status=?
  WHERE username=?`; without a password the column is not in the list. -/
  | updateUser (password nama alamat kota tlp : Option String) (level : Level)
      (tipe status username : Option String) : Op Nat
  /-- `UPDATE login SET [password=?,] nama=?, alamat=?, kota=?, tlp=? WHERE username=?` -/
  | updateProfil (password nama alamat kota tlp : Option String) (username : String) : Op Nat
  /-- `DELETE FROM pemakaian WHERE username=?` -/
  | deletePemakaianOf (username : Option String) : Op Nat
  /-- `DELETE FROM login WHERE username=?` -/
  | deleteLogin (username : Option String) : Op Nat
  /-- `SELECT id_tarif FROM tarif WHERE id_tarif=?`, of which only the row count is used -/
  | countTarif (idTarif : Option String) : Op Nat
  /-- `INSERT INTO tarif (id_tarif, tipe_tarif, tarif, status) VALUES (?, ?, ?, ?)` -/
  | insertTarif (idTarif tipe : Option String) (tarif : Option Decimal) (status : Option String) :
      Op Nat
  /-- `UPDATE tarif SET tipe_tarif=?, tarif=?, status=? WHERE id_tarif=?` -/
  | updateTarif (tipe : Option String) (tarif : Option Decimal) (status idTarif : Option String) :
      Op Nat
  /-- `DELETE FROM tarif WHERE id_tarif=?` -/
  | deleteTarif (idTarif : Option String) : Op Nat
  /-- `SELECT no FROM pemakaian WHERE username=? AND MONTH(tgl)=? AND YEAR(tgl)=?`, of which only
  the row count is used -/
  | countMonth (username : Option String) (month year : Nat) : Op Nat
  /-- `INSERT INTO pemakaian (...) VALUES (?, ?, ?, ?, CURRENT_DATE(), CURRENT_TIME(), ?, ?, ?)` -/
  | insertPemakaian (username : Option String) (meterAwal meterAkhir : Option Decimal)
      (pemakaian : Decimal) (kdTarif : String) (tagihan : Decimal) (status : Option String) : Op Nat
  /-- `SELECT tgl, status FROM pemakaian WHERE no = ?` -/
  | tglOf (no : Option Int) : Op (Option (Date × Option String))
  /-- `UPDATE pemakaian SET meter_awal=?, meter_akhir=?, pemakaian=?, tagihan=?, status=? WHERE no=?` -/
  | updateMeter (meterAwal meterAkhir : Option Decimal) (pemakaian tagihan : Decimal)
      (status : Option String) (no : Option Int) : Op Nat
  /-- `DELETE FROM pemakaian WHERE no=?` -/
  | deletePemakaian (no : Option Int) : Op Nat
  /-- `move_uploaded_file` into assets/img/bukti -/
  | storeUpload (name : String) (upload : Upload) : Op Bool
  /-- `UPDATE pemakaian SET bukti_bayar=? WHERE no=? AND username=?` -/
  | updateBukti (bukti : String) (no : Int) (username : String) : Op Nat
  /-- `SELECT COUNT(*) FROM login_attempts WHERE identifier=? AND attempt_time > (NOW() - INTERVAL
  15 MINUTE)` -/
  | countAttempts (identifier : String) : Op Nat
  /-- `INSERT INTO login_attempts (identifier, attempt_time) VALUES (?, NOW())` -/
  | insertAttempt (identifier : String) : Op Unit

/-! What the assigning statements do to one row. -/

def Login.setUser (password nama alamat kota tlp : Option String) (level : Level)
    (tipe status : Option String) (r : Login) : Login :=
  { r with
    password := password.getD r.password
    nama := nama
    alamat := alamat
    kota := kota
    tlp := tlp
    level := level
    tipe := tipe
    status := status }

def Login.setProfil (password nama alamat kota tlp : Option String) (r : Login) : Login :=
  { r with
    password := password.getD r.password
    nama := nama
    alamat := alamat
    kota := kota
    tlp := tlp }

def Tarif.set (tipe : Option String) (tarif : Option Decimal) (status : Option String) (r : Tarif) :
    Tarif :=
  { r with tipeTarif := tipe, tarif := tarif, status := status }

def Pemakaian.setMeter (meterAwal meterAkhir : Option Decimal) (pemakaian tagihan : Decimal)
    (status : Option String) (r : Pemakaian) : Pemakaian :=
  { r with
    meterAwal := meterAwal
    meterAkhir := meterAkhir
    pemakaian := pemakaian
    tagihan := tagihan
    status := status }

def Pemakaian.setBukti (bukti : String) (r : Pemakaian) : Pemakaian :=
  { r with buktiBayar := some bukti }

section SetBukti
variable (bukti : String) (r : Pemakaian)

@[simp] theorem Pemakaian.no_setBukti : (r.setBukti bukti).no = r.no := rfl
@[simp] theorem Pemakaian.username_setBukti : (r.setBukti bukti).username = r.username := rfl
@[simp] theorem Pemakaian.stamp_setBukti : (r.setBukti bukti).stamp = r.stamp := rfl
@[simp] theorem Pemakaian.meterAwal_setBukti : (r.setBukti bukti).meterAwal = r.meterAwal := rfl
@[simp] theorem Pemakaian.meterAkhir_setBukti : (r.setBukti bukti).meterAkhir = r.meterAkhir := rfl

end SetBukti

def Pemakaian.fresh (username : Option String) (meterAwal meterAkhir : Option Decimal)
    (pemakaian : Decimal) (kdTarif : String) (tagihan : Decimal) (status : Option String)
    (at_ : Stamp) (no : Nat) : Pemakaian :=
  { no := no
    username := username
    meterAwal := meterAwal
    meterAkhir := meterAkhir
    pemakaian := pemakaian
    tgl := at_.date
    waktu := at_.time
    kdTarif := kdTarif
    tagihan := tagihan
    status := status
    buktiBayar := none }

namespace Db

def tarifAktif (db : Db) (tipe : Option String) : List Tarif :=
  db.tarif.rows.filter fun t => sqlEq t.tipeTarif tipe && t.status = some "AKTIF"

def tarifById (db : Db) (idTarif : String) : Option Tarif :=
  db.tarif.rows.find? fun t => t.idTarif = idTarif && t.status = some "AKTIF"

def pemakaianByNo (db : Db) (no : Option Int) : Option Pemakaian :=
  db.pemakaian.rows.find? (Pemakaian.hasNo no)

def countMonth (db : Db) (username : Option String) (month year : Nat) : Nat :=
  (db.pemakaian.rows.filter (Pemakaian.inMonth username month year)).length

/-- Attempts strictly after `now - 15 minutes`. -/
def countAttempts (db : Db) (identifier : String) (now : Int) : Nat :=
  (db.loginAttempts.filter fun a =>
    a.identifier = identifier && decide (now - 900 < a.attemptTime)).length

def log (db : Db) (entry : AuditLog) : Db := { db with auditLog := db.auditLog ++ [entry] }

end Db

namespace Server

def setDb (s : Server) (db : Db) : Server := { s with db := db }

def insertKeyed {α : Type} {key : α → String} (table : Table key) (k : Option String)
    (row : String → α) : Except Galat (Table key) :=
  match k with
  | none => .error .nullKey
  | some k =>
    match table.insert (row k) with
    | none => .error .duplicateKey
    | some table' => .ok table'

end Server

def exec : (β : Type) → Op β → Server → Except Galat (β × Server)
  | _, .clock, s => .ok (s.clock, s)
  | _, .dtUser u, s => .ok ((s.db.akun u).map fun r => (r.nama, r.kota, r.level), s)
  | _, .tipeOf u, s => .ok ((u.bind s.db.akun).map Login.tipe, s)
  | _, .tarifAktif tipe, s =>
    .ok ((s.db.tarifAktif tipe).head?.map fun t => (t.idTarif, t.tarif), s)
  | _, .tarifOf id, s => .ok ((s.db.tarifById id).map Tarif.tarif, s)
  | _, .usernameOf no, s => .ok ((s.db.pemakaianByNo no).map Pemakaian.username, s)
  | _, .insertAudit actor level aksi tabel idTarget detail, s =>
    .ok ((), s.setDb (s.db.log ⟨actor, level, aksi, tabel, idTarget, detail, s.clock.sql.seconds⟩))
  | _, .countLogin u, s => .ok ((u.bind s.db.akun).toList.length, s)
  | _, .passwordOf u, s => .ok ((s.db.akun u).map fun r => (r.username, r.password), s)
  | _, .insertLogin u password nama alamat kota tlp level tipe status, s => do
    let login ← Server.insertKeyed s.db.login u fun u =>
      ⟨u, password, nama, alamat, kota, tlp, level, tipe, status⟩
    pure (1, s.setDb { s.db with login := login })
  | _, .updateUser password nama alamat kota tlp level tipe status u, s =>
    let p (r : Login) : Bool := sqlEq (some r.username) u
    let f := Login.setUser password nama alamat kota tlp level tipe status
    .ok (s.db.login.changed p f,
      s.setDb { s.db with login := s.db.login.update p f fun _ => rfl })
  | _, .updateProfil password nama alamat kota tlp u, s =>
    let p (r : Login) : Bool := r.username = u
    let f := Login.setProfil password nama alamat kota tlp
    .ok (s.db.login.changed p f,
      s.setDb { s.db with login := s.db.login.update p f fun _ => rfl })
  | _, .deletePemakaianOf u, s =>
    let p (r : Pemakaian) : Bool := sqlEq r.username u
    .ok ((s.db.pemakaian.rows.filter p).length,
      s.setDb { s.db with pemakaian := s.db.pemakaian.delete p })
  | _, .deleteLogin u, s =>
    let p (r : Login) : Bool := sqlEq (some r.username) u
    .ok ((s.db.login.rows.filter p).length,
      s.setDb { s.db with login := s.db.login.delete p })
  | _, .countTarif id, s => .ok ((id.bind s.db.tarif.find?).toList.length, s)
  | _, .insertTarif id tipe tarif status, s => do
    let table ← Server.insertKeyed s.db.tarif id fun id => ⟨id, tipe, tarif, status⟩
    pure (1, s.setDb { s.db with tarif := table })
  | _, .updateTarif tipe tarif status id, s =>
    let p (r : Tarif) : Bool := sqlEq (some r.idTarif) id
    let f := Tarif.set tipe tarif status
    .ok (s.db.tarif.changed p f,
      s.setDb { s.db with tarif := s.db.tarif.update p f fun _ => rfl })
  | _, .deleteTarif id, s =>
    let p (r : Tarif) : Bool := sqlEq (some r.idTarif) id
    .ok ((s.db.tarif.rows.filter p).length,
      s.setDb { s.db with tarif := s.db.tarif.delete p })
  | _, .countMonth u month year, s => .ok (s.db.countMonth u month year, s)
  | _, .insertPemakaian u awal akhir pemakaian kdTarif tagihan status, s =>
    let row := Pemakaian.fresh u awal akhir pemakaian kdTarif tagihan status s.clock.sql
    .ok (1, s.setDb { s.db with pemakaian := s.db.pemakaian.insert row fun _ => rfl })
  | _, .tglOf no, s => .ok ((s.db.pemakaianByNo no).map fun r => (r.tgl, r.status), s)
  | _, .updateMeter awal akhir pemakaian tagihan status no, s =>
    let f := Pemakaian.setMeter awal akhir pemakaian tagihan status
    .ok (s.db.pemakaian.changed (Pemakaian.hasNo no) f,
      s.setDb { s.db with pemakaian := s.db.pemakaian.update (Pemakaian.hasNo no) f fun _ => rfl })
  | _, .deletePemakaian no, s =>
    .ok ((s.db.pemakaian.rows.filter (Pemakaian.hasNo no)).length,
      s.setDb { s.db with pemakaian := s.db.pemakaian.delete (Pemakaian.hasNo no) })
  | _, .storeUpload name upload, s =>
    .ok (upload.moved,
      if upload.moved then { s with berkas := (name, upload.content) :: s.berkas } else s)
  | _, .updateBukti bukti no u, s =>
    let p (r : Pemakaian) : Bool := Pemakaian.hasNo (some no) r && sqlEq r.username (some u)
    let f := Pemakaian.setBukti bukti
    .ok (s.db.pemakaian.changed p f,
      s.setDb { s.db with pemakaian := s.db.pemakaian.update p f fun _ => rfl })
  | _, .countAttempts id, s => .ok (s.db.countAttempts id s.clock.sql.seconds, s)
  | _, .insertAttempt id, s =>
    .ok ((), s.setDb { s.db with
      loginAttempts := s.db.loginAttempts ++ [⟨id, s.clock.sql.seconds⟩] })

/-! An `INSERT` under a key that succeeds has changed its own table only. -/

section Insert
variable {s s' : Server} {affected : Nat}

theorem exec_insertLogin_ok {u : Option String} {password : String}
    {nama alamat kota tlp : Option String} {level : Level} {tipe status : Option String}
    (h : exec _ (.insertLogin u password nama alamat kota tlp level tipe status) s =
      .ok (affected, s')) : ∃ login', s' = s.setDb { s.db with login := login' } := by
  simp only [exec] at h
  cases hinsert : Server.insertKeyed s.db.login u fun u =>
      (⟨u, password, nama, alamat, kota, tlp, level, tipe, status⟩ : Login) with
  | error galat =>
    rw [hinsert] at h
    cases h
  | ok login' =>
    rw [hinsert] at h
    cases h
    exact ⟨login', rfl⟩

theorem exec_insertTarif_ok {id tipe : Option String} {tarif : Option Decimal}
    {status : Option String}
    (h : exec _ (.insertTarif id tipe tarif status) s = .ok (affected, s')) :
    ∃ tarif', s' = s.setDb { s.db with tarif := tarif' } := by
  simp only [exec] at h
  cases hinsert : Server.insertKeyed s.db.tarif id fun id =>
      (⟨id, tipe, tarif, status⟩ : Tarif) with
  | error galat =>
    rw [hinsert] at h
    cases h
  | ok tarif' =>
    rw [hinsert] at h
    cases h
    exact ⟨tarif', rfl⟩

end Insert

end SistemAir
