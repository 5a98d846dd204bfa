import SistemAir.Library.Trace
import SistemAir.Model.Index
import SistemAir.Model.LoginIndex

/-! The whole system: the database, the uploaded files and every browser's
`$_SESSION`, moved by one request after another. -/
namespace SistemAir

open StatementProgram Prog

structure World where
  server : Server
  session : Nat → Session

def World.db (w : World) : Db := w.server.db

inductive Respons
  | index (hasil : HasilIndex)
  | loginIndex (hasil : Hasil)
  | ajax
  | logout
  deriving DecidableEq, Repr

def batasDiamDetik : Nat := 1800

def idle (s : Session) (now : Nat) : Bool :=
  match s.lastActivity with
  | none => false
  | some last => batasDiamDetik < now - last

def Session.setRes (s : Session) (slot : Slot) (res : Option Res) : Session :=
  match slot with
  | .user => { s with resUser := res }
  | .tarif => { s with resTarif := res }
  | .meter => { s with resMeter := res }
  | .settings => { s with resSettings := res }

/-- The session login/index.php leaves; a page rendered to its end has shown and
unset every `res_` value. -/
def sessionAfter (s : Session) (token : String) : Except Galat Hasil → Session
  | .ok .sesiTidakValid => Session.empty
  | .ok (.alihkan slot res) => { s with csrfToken := some token }.setRes slot (some res)
  | .ok (.halaman _) =>
    { s with csrfToken := some token, resUser := none, resTarif := none, resMeter := none,
             resSettings := none }
  | _ => { s with csrfToken := some token }

def handleLoginIndex (php : Php) (w : World) (q : Request) : Except Galat Hasil × World :=
  let s := w.session q.sid
  let server := { w.server with clock := q.clock }
  if isEmpty s.user then
    (.ok .keLogin, { w with server := server })
  else if idle s q.clock.time then
    (.ok .sesiBerakhir, ⟨server, Function.update w.session q.sid Session.empty⟩)
  else
    let s := { s with lastActivity := some q.clock.time }
    let token := ensureToken s.csrfToken q.token
    let out := (loginIndex php q (orEmpty s.user) token).run exec server
    (out.1, ⟨out.2, Function.update w.session q.sid (sessionAfter s token out.1)⟩)

/-- session_regenerate_id() moves the data to a new id; the browser keeps it. -/
def sessionAfterIndex (s : Session) (token : String) : Except Galat HasilIndex → Session
  | .ok (.masuk username) => { s with user := some username, csrfTokenLogin := none }
  | _ => { s with csrfTokenLogin := some token }

def handleIndex (php : Php) (w : World) (q : Request) : Except Galat HasilIndex × World :=
  let s := w.session q.sid
  let token := ensureToken s.csrfTokenLogin q.token
  let out := (index php q token).run exec { w.server with clock := q.clock }
  (out.1, ⟨out.2, Function.update w.session q.sid (sessionAfterIndex s token out.1)⟩)

/-- assets/ajax.php only selects and logout.php only destroys the session. -/
def handle (php : Php) (w : World) (q : Request) : Except Galat Respons × World :=
  match q.page with
  | .index =>
    let out := handleIndex php w q
    (out.1.map .index, out.2)
  | .loginIndex =>
    let out := handleLoginIndex php w q
    (out.1.map .loginIndex, out.2)
  | .ajax => (.ok .ajax, { w with server := { w.server with clock := q.clock } })
  | .logout =>
    (.ok .logout, ⟨{ w.server with clock := q.clock },
      Function.update w.session q.sid Session.empty⟩)

/-- One request, handled atomically. -/
def step (php : Php) (w : World) (q : Request) : World := (handle php w q).2

abbrev serve (php : Php) (w : World) (qs : List Request) : World := Trace.run (step php) w qs

theorem serve_concat (php : Php) (w : World) (qs : List Request) (q : Request) :
    serve php w (qs ++ [q]) = step php (serve php w qs) q :=
  Trace.run_concat (step php) w qs q

/-! ## A new installation and its browsers -/

def Db.baru (admin : Login) : Db :=
  { login := ⟨[admin], by simp⟩
    tarif := KeyedTable.Table.empty _
    pemakaian := KeyedTable.AutoTable.empty _
    auditLog := []
    loginAttempts := [] }

def Clock.at (s : Stamp) : Clock := ⟨s.seconds.toNat, s, s⟩

def World.baru (admin : Login) (s : Stamp) : World :=
  ⟨⟨Db.baru admin, [], Clock.at s⟩, fun _ => Session.empty⟩

/-- Browser number `sid` sends `post` to `page`; an empty form is a GET. -/
def Request.kirim (sid : Nat) (page : Page) (s : Stamp) (post : Form) : Request :=
  { sid := sid
    page := page
    query := []
    post := post
    file := none
    ip := "192.168.1.1"
    clock := Clock.at s
    token := "7f3a"
    salt := "x" }

def masuk (sid : Nat) (s : Stamp) (username password : String) : List Request :=
  [Request.kirim sid .index s [],
    Request.kirim sid .index s [("csrf_token", "7f3a"), ("username", username),
      ("password", password), ("tombol", "login")],
    Request.kirim sid .loginIndex s []]

def ajukan (sid : Nat) (s : Stamp) (tombol : String) (post : Form) : Request :=
  Request.kirim sid .loginIndex s (("csrf_token", "7f3a") :: post ++ [("tombol", tombol)])

def pagi (year month day : Nat) (hm : 1 ≤ month ∧ month ≤ 12 := by decide)
    (hd : 1 ≤ day ∧ day ≤ 31 := by decide) : Stamp :=
  ⟨⟨year, month, day, hm, hd⟩, 28800⟩

def hariBuka : Stamp := pagi 2026 1 5

def hariKedua : Stamp := pagi 2026 1 6

def hariTerakhirJanuari : Stamp := pagi 2026 1 31

def hariPertamaFebruari : Stamp := pagi 2026 2 1

def hariFebruari : Stamp := pagi 2026 2 3

def hariLimaMinggu : Stamp := pagi 2026 2 10

def hariMaret : Stamp := pagi 2026 3 3

def adminPertama : Login :=
  { username := "admin"
    password := "x$rahasia"
    nama := some "Admin"
    alamat := none
    kota := none
    tlp := none
    level := .admin
    tipe := none
    status := some "AKTIF" }

def World.pertama : World := World.baru adminPertama hariBuka

/-- An office opens: one tariff, a resident who registers, a meter reader and a
treasurer, with the admin and both of them logged in as browsers 0, 1 and 2. -/
def kantor : List Request :=
  masuk 0 hariBuka "admin" "rahasia" ++
  [ajukan 0 hariBuka "tarif_add"
      [("id_tarif", "T1"), ("tipe_tarif", "RT"), ("tarif", "1000"), ("status", "AKTIF")],
    ajukan 0 hariBuka "user_add"
      [("yuser", "joko"), ("passwet", "j"), ("nama", "Joko"), ("level", "petugas"),
        ("status", "AKTIF")],
    ajukan 0 hariBuka "user_add"
      [("yuser", "siti"), ("passwet", "s"), ("nama", "Siti"), ("level", "bendahara"),
        ("status", "AKTIF")],
    Request.kirim 3 .index hariBuka [],
    Request.kirim 3 .index hariBuka
      [("csrf_token", "7f3a"), ("reg_username", "budi"), ("reg_password", "b"),
        ("reg_nama", "Budi"), ("reg_tipe", "RT"), ("tombol", "register_warga")]] ++
  masuk 1 hariBuka "joko" "j" ++
  masuk 2 hariBuka "siti" "s"

def catatSepuluh (username : String) : Request :=
  ajukan 1 hariBuka "meter_add"
    [("username", username), ("meter_awal", "0"), ("meter_akhir", "10"),
      ("status_bayar", "BELUM LUNAS")]

def catatTanpaNama : Request :=
  ajukan 1 hariBuka "meter_add"
    [("meter_awal", "0"), ("meter_akhir", "10"), ("status_bayar", "BELUM LUNAS")]

def bayarSepuluh : Request :=
  ajukan 2 hariBuka "meter_edit"
    [("no", "1"), ("meter_awal", "0"), ("meter_akhir", "10"), ("status_bayar", "LUNAS")]

def tagihanBudi : Pemakaian :=
  { no := 1
    username := some "budi"
    meterAwal := some 0
    meterAkhir := some 10
    pemakaian := 10
    tgl := hariBuka.date
    waktu := 28800
    kdTarif := "T1"
    tagihan := 10000
    status := some "BELUM LUNAS"
    buktiBayar := none }

end SistemAir
