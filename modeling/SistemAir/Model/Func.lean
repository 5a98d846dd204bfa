import SistemAir.Model.Statement

/-! assets/func.php. Each lookup answers a default where its query finds no row. -/
namespace SistemAir

open StatementProgram Prog

/-- A piece of a request: it issues statements, returns or throws. -/
abbrev Aksi (α : Type) := Prog Op Galat α

def dtUser (sesiUser : String) : Aksi (Option String × Option String × Option Level) := do
  match ← perform (Op.dtUser sesiUser) with
  | none => return (none, none, none)
  | some (nama, kota, level) => return (nama, kota, some level)

def tipeToKdtarif (tipe : Option String) : Aksi String := do
  match ← perform (Op.tarifAktif tipe) with
  | none => return "0"
  | some (idTarif, _) => return idTarif

def userToIdtarif (username : Option String) : Aksi String := do
  match ← perform (Op.tipeOf username) with
  | none => return "0"
  | some tipe => tipeToKdtarif tipe

def idTarifToTarif (idTarif : String) : Aksi (Option Decimal) := do
  match ← perform (Op.tarifOf idTarif) with
  | none => return some 0
  | some tarif => return tarif

def noToUser (no : Option Int) : Aksi (Option String) := do
  match ← perform (Op.usernameOf no) with
  | none => return none
  | some username => return username

def catatLog (actor : String) (level : Level) (aksi tabel : String) (idTarget : Option String)
    (detail : String) : Aksi Unit :=
  perform (Op.insertAudit actor level aksi tabel idTarget detail)

/-! What the lookups answer on given tables. -/

namespace Db

def tipeToKdtarif (db : Db) (tipe : Option String) : String :=
  ((db.tarifAktif tipe).head?.map Tarif.idTarif).getD "0"

def userToIdtarif (db : Db) (username : Option String) : String :=
  match username.bind db.akun with
  | none => "0"
  | some a => db.tipeToKdtarif a.tipe

/-- A null tariff and no tariff at all are both 0 in a product. -/
def idTarifToTarif (db : Db) (idTarif : String) : Decimal :=
  ((db.tarifById idTarif).bind Tarif.tarif).getD 0

def rate (db : Db) (username : Option String) : Decimal :=
  db.idTarifToTarif (db.userToIdtarif username)

def noToUser (db : Db) (no : Option Int) : Option String :=
  (db.pemakaianByNo no).bind Pemakaian.username

end Db

section Run
variable (s : Server)

theorem run_dtUser (u : String) :
    (dtUser u).run exec s =
      (.ok (((s.db.akun u).bind Login.nama), ((s.db.akun u).bind Login.kota),
        (s.db.akun u).map Login.level), s) := by
  unfold dtUser
  rw [perform_bind, run_call_ok exec rfl]
  cases s.db.akun u <;> rfl

theorem run_tipeToKdtarif (tipe : Option String) :
    (tipeToKdtarif tipe).run exec s = (.ok (s.db.tipeToKdtarif tipe), s) := by
  unfold tipeToKdtarif Db.tipeToKdtarif
  rw [perform_bind, run_call_ok exec rfl]
  cases (s.db.tarifAktif tipe).head? <;> rfl

theorem run_userToIdtarif (u : Option String) :
    (userToIdtarif u).run exec s = (.ok (s.db.userToIdtarif u), s) := by
  unfold userToIdtarif Db.userToIdtarif
  rw [perform_bind, run_call_ok exec rfl]
  cases u.bind s.db.akun with
  | none => rfl
  | some a => exact run_tipeToKdtarif s a.tipe

theorem run_idTarifToTarif (id : String) :
    ∃ tarif : Option Decimal, (idTarifToTarif id).run exec s = (.ok tarif, s) ∧
      tarif.getD 0 = s.db.idTarifToTarif id := by
  unfold idTarifToTarif Db.idTarifToTarif
  rw [perform_bind, run_call_ok exec rfl]
  cases s.db.tarifById id with
  | none => exact ⟨some 0, rfl, rfl⟩
  | some t => exact ⟨t.tarif, rfl, rfl⟩

theorem run_noToUser (no : Option Int) :
    (noToUser no).run exec s = (.ok (s.db.noToUser no), s) := by
  unfold noToUser Db.noToUser
  rw [perform_bind, run_call_ok exec rfl]
  cases s.db.pemakaianByNo no <;> rfl

def Server.logged (actor : String) (level : Level) (aksi tabel : String)
    (idTarget : Option String) (detail : String) : Server :=
  s.setDb (s.db.log ⟨actor, level, aksi, tabel, idTarget, detail, s.clock.sql.seconds⟩)

end Run

end SistemAir
