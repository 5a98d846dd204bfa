import SistemAir.Model.Func

/-! index.php: the login form and the public registration. -/
namespace SistemAir

open StatementProgram Prog

inductive PesanIndex
  | kadaluarsa
  | terlaluBanyak
  | passwordSalah
  | usernameTidakAda
  | sudahTerdaftar
  | pendaftaranBerhasil
  deriving DecidableEq, Repr

inductive HasilIndex
  | halaman (pesan : Option PesanIndex)
  | masuk (username : String)
  deriving DecidableEq, Repr

def catatPercobaanGagal (ip : String) : Aksi Unit := perform (Op.insertAttempt ip)

def login (php : Php) (ip : String) (post : Form) : Aksi HasilIndex := do
  let username := trim (orEmpty (post.get? "username"))
  match ← perform (Op.passwordOf username) with
  | some (user, hash) =>
    if php.passwordVerify (orEmpty (post.get? "password")) hash then
      return .masuk user
    else
      catatPercobaanGagal ip
      return .halaman (some .passwordSalah)
  | none =>
    catatPercobaanGagal ip
    return .halaman (some .usernameTidakAda)

def registerWarga (php : Php) (salt : String) (post : Form) : Aksi HasilIndex := do
  let regUser := trim (orEmpty (post.get? "reg_username"))
  let regPass := php.passwordHash salt (orEmpty (post.get? "reg_password"))
  let regNama := trim (orEmpty (post.get? "reg_nama"))
  let regAlamat := trim (orEmpty (post.get? "reg_alamat"))
  let regKota := trim (orEmpty (post.get? "reg_kota"))
  let regTlp := trim (orEmpty (post.get? "reg_tlp"))
  let regTipe := post.get? "reg_tipe"
  let found ← perform (Op.countLogin (some regUser))
  if 0 < found then
    return .halaman (some .sudahTerdaftar)
  else
    let _ ← perform (Op.insertLogin (some regUser) regPass (some regNama) (some regAlamat)
      (some regKota) (some regTlp) .warga regTipe (some "AKTIF"))
    return .halaman (some .pendaftaranBerhasil)

/-- The page counts the client's attempts first, whatever the request posts. -/
def index (php : Php) (q : Request) (token : String) : Aksi HasilIndex := do
  let attempts ← perform (Op.countAttempts q.ip)
  match q.tombol with
  | none => return .halaman none
  | some tombol =>
    if tokenRefused token (q.post.get? "csrf_token") then
      return .halaman (some .kadaluarsa)
    else if 5 ≤ attempts then
      return .halaman (some .terlaluBanyak)
    else if strtolower tombol = "login" then
      login php q.ip q.post
    else if strtolower tombol = "register_warga" then
      registerWarga php q.salt q.post
    else
      return .halaman none

end SistemAir
