import SistemAir.Library.Decimal
import SistemAir.Library.KeyedTable
import SistemAir.Model.Clock

/-! The tables the pages read and write. The schema itself is not part of the
repository: the keys are the columns the handlers look rows up by, and every
other column that a handler may bind a missing parameter to is nullable. -/
namespace SistemAir

open KeyedTable

inductive Level
  | admin
  | bendahara
  | petugas
  | warga
  deriving DecidableEq, Repr

def Level.name : Level → String
  | .admin => "admin"
  | .bendahara => "bendahara"
  | .petugas => "petugas"
  | .warga => "warga"

/-- The posted level of user_add and user_edit; anything else becomes `warga`. -/
def Level.ofPost : Option String → Level
  | some "admin" => .admin
  | some "bendahara" => .bendahara
  | some "petugas" => .petugas
  | _ => .warga

structure Login where
  username : String
  password : String
  nama : Option String
  alamat : Option String
  kota : Option String
  tlp : Option String
  level : Level
  tipe : Option String
  status : Option String
  deriving DecidableEq, Repr

structure Tarif where
  idTarif : String
  tipeTarif : Option String
  tarif : Option Decimal
  status : Option String
  deriving DecidableEq, Repr

structure Pemakaian where
  no : Nat
  username : Option String
  meterAwal : Option Decimal
  meterAkhir : Option Decimal
  pemakaian : Decimal
  tgl : Date
  waktu : Fin 86400
  kdTarif : String
  tagihan : Decimal
  status : Option String
  buktiBayar : Option String
  deriving DecidableEq, Repr

def Pemakaian.stamp (r : Pemakaian) : Stamp := ⟨r.tgl, r.waktu⟩

structure AuditLog where
  actorUsername : String
  actorLevel : Level
  aksi : String
  tabelTarget : String
  idTarget : Option String
  detail : String
  createdAt : Int
  deriving DecidableEq, Repr

structure LoginAttempt where
  identifier : String
  attemptTime : Int
  deriving DecidableEq, Repr

structure Db where
  login : Table Login.username
  tarif : Table Tarif.idTarif
  pemakaian : AutoTable Pemakaian.no
  auditLog : List AuditLog
  loginAttempts : List LoginAttempt

def Db.akun (db : Db) (username : String) : Option Login := db.login.find? username

theorem Db.akun_eq_some_iff (db : Db) {u : String} {a : Login} :
    db.akun u = some a ↔ a ∈ db.login.rows ∧ a.username = u :=
  db.login.find?_eq_some_iff

/-- The level `dt_user` reads for a session user. -/
def Db.levelOf (db : Db) (username : Option String) : Option Level :=
  (username.bind db.akun).map Login.level

end SistemAir
