import Mathlib.Data.List.Sort
import SistemAir.Library.HtmlForm
import SistemAir.Library.Trace
import SistemAir.Model.LoginIndex

/-! The forms login/index.php prints and what js/air.js and the page's own script
do to them before they are submitted. -/
namespace SistemAir

open HtmlForm

/-- What the templates read when a page is printed: the address, the session token
and PHP's variables as the code above the templates left them. -/
structure Halaman where
  php : Php
  p : String
  user : String
  idTarif : String
  no : String
  token : String
  post : Form
  level : Level
  levelTarget : Option String
  tipe : Option String
  status : Option String
  warga : List String

/-- What GET p=meter_edit injects into `$_POST` from the stored row. -/
def suntikMeter (r : Pemakaian) : Form :=
  let kolom (name : String) (value : Option String) : Form := value.toList.map fun v => (name, v)
  kolom "username" r.username ++ kolom "meter_awal" (r.meterAwal.map Decimal.text) ++
    kolom "meter_akhir" (r.meterAkhir.map Decimal.text) ++ kolom "status_bayar" r.status

inductive FormId
  | userForm
  | tarifForm
  | meterForm
  | myModal
  | modalTarif
  | modalMeter
  deriving DecidableEq, Repr

/-- The option a browser shows: the last one selected, else the first. -/
def pilihan (options : List String) (selected : String → Bool) : Option String :=
  (options.reverse.find? selected).or options.head?

def csrfInput (h : Halaman) : Control := .input "hidden" "csrf_token" h.token

def submitButton (tombol : String) : Control := .button "submit" "tombol" tombol

/-! ## The templates -/

def userForm (h : Halaman) : Controls :=
  let level := h.levelTarget.or (h.post.get? "level")
  let levels := ["admin", "bendahara", "petugas", "warga"]
  let statuses := ["", "AKTIF", "TDK AKTIF"]
  [csrfInput h,
    .input "text" "yuser" (orEmpty (h.post.get? "yuser")),
    .input "password" "passwet" (orEmpty (h.post.get? "passwet")),
    .input "text" "nama" (orEmpty (h.post.get? "nama")),
    .textarea "alamat" (orEmpty (h.post.get? "alamat")),
    .input "text" "kota" (orEmpty (h.post.get? "kota")),
    .input "text" "tlp" (orEmpty (h.post.get? "tlp")),
    .select "level" levels (pilihan levels fun s => level = some s) false,
    .select "tipe" ["RT", "Kos"] (pilihan ["RT", "Kos"] fun s => h.tipe = some s) false,
    .select "status" statuses (pilihan statuses fun s => h.status = some s) false,
    submitButton "user_add"]

def tarifForm (h : Halaman) : Controls :=
  [csrfInput h,
    .input "text" "id_tarif" (orEmpty (h.post.get? "id_tarif")),
    .select "tipe_tarif" ["RT", "Kos"]
      (pilihan ["RT", "Kos"] fun s => h.post.get? "tipe_tarif" = some s) false,
    .input "number" "tarif" (orEmpty (h.post.get? "tarif")),
    .radio "status" "AKTIF" (h.post.get? "status" = some "AKTIF"),
    .radio "status" "TDK AKTIF" (h.post.get? "status" = some "TDK AKTIF"),
    submitButton "tarif_add"]

def statusBayarControl (h : Halaman) : Control :=
  let statuses := ["BELUM LUNAS", "LUNAS"]
  if h.level ∈ [Level.admin, .bendahara] then
    .select "status_bayar" statuses
      (pilihan statuses fun s => h.post.get? "status_bayar" = some s) false
  else .input "hidden" "status_bayar" "BELUM LUNAS"

def meterForm (h : Halaman) : Controls :=
  let usernames := "" :: h.warga
  [csrfInput h,
    .select "username" usernames
      (pilihan usernames fun u => (h.post.get? "username").any fun posted => h.php.sama posted u)
      (h.p = "meter_edit"),
    .input "number" "meter_awal" (orEmpty (h.post.get? "meter_awal")),
    .input "number" "meter_akhir" (orEmpty (h.post.get? "meter_akhir")),
    statusBayarControl h] ++
  if h.p = "meter_edit" then [.input "hidden" "no" h.no, submitButton "meter_edit"]
  else [submitButton "meter_add"]

def modalForm (h : Halaman) (tombol : String) : Controls :=
  [csrfInput h, .button "button" "" "", submitButton tombol]

def cetak (h : Halaman) : FormId → Controls
  | .userForm => userForm h
  | .tarifForm => tarifForm h
  | .meterForm => meterForm h
  | .myModal => modalForm h "user_hapus"
  | .modalTarif => modalForm h "tarif_hapus"
  | .modalMeter => modalForm h "meter_hapus"

/-! ## js/air.js -/

def ready (h : Halaman) (forms : FormId → Controls) : FormId → Controls
  | .userForm =>
    if h.p = "user_edit" then
      append (.input "hidden" "yuser" h.user) (val isButton "user_edit" (forms .userForm))
    else forms .userForm
  | .tarifForm =>
    if h.p = "tarif_edit" then
      append (.input "hidden" "id_tarif_lama" h.idTarif)
        (val isButton "tarif_edit" (forms .tarifForm))
    else forms .tarifForm
  | .meterForm =>
    if h.p = "meter_edit" then
      val isButton "meter_edit" (append (.input "hidden" "no" h.no) (forms .meterForm))
    else forms .meterForm
  | f => forms f

def muat (h : Halaman) : FormId → Controls := ready h (cetak h)

/-- The clicks air.js listens to, and what the user types in between. -/
inductive Klik
  | tambahUser
  | tambahTarif
  | tambahMeter
  | hapusUser (user : String)
  | hapusMeter (no : String)
  | hapusTarif (idTarif : String)
  | isi (f : FormId) (name value : String)
  deriving DecidableEq, Repr

/-- The opening of a delete modal: its hidden inputs are replaced by the row's key. -/
def bukaModal (key value : String) (form : Controls) : Controls :=
  append (.input "hidden" key value) (remove (fun c => isInput c && hasType "hidden" c) form)

def kosongkanUser (form : Controls) : Controls :=
  val (fun c => isInput c || isTextarea c || isSelect c) "" form

def kosongkanTarif (form : Controls) : Controls :=
  val (fun c => isButton c && hasType "submit" c) "tarif_add"
    (val (fun c => isInput c && (hasType "text" c || hasType "number" c)) "" form)

def kosongkanMeter (form : Controls) : Controls :=
  val (fun c => isButton c && hasType "submit" c) "meter_add"
    (remove (fun c => isInput c && hasName "no" c)
      (val (fun c => isInput c && (hasType "text" c || hasType "number" c) || isSelect c) "" form))

/-- The handlers of the add buttons are bound on the pages of their menu only. -/
def terpasang (p : String) : Klik → Bool
  | .tambahUser => p ∈ ["user", "user_edit"]
  | .tambahTarif => p ∈ ["manajemen_tarif_air", "tarif_edit"]
  | .tambahMeter => p ∈ ["catat_edit_meter", "meter_edit", "pemakaian_warga"]
  | _ => true

def Klik.target : Klik → FormId
  | .tambahUser => .userForm
  | .tambahTarif => .tarifForm
  | .tambahMeter => .meterForm
  | .hapusUser _ => .myModal
  | .hapusMeter _ => .modalMeter
  | .hapusTarif _ => .modalTarif
  | .isi f _ _ => f

def Klik.handler : Klik → Controls → Controls
  | .tambahUser => kosongkanUser
  | .tambahTarif => kosongkanTarif
  | .tambahMeter => kosongkanMeter
  | .hapusUser user => bukaModal "yuser" user
  | .hapusMeter no => bukaModal "no" no
  | .hapusTarif idTarif => bukaModal "id_tarif" idTarif
  | .isi _ name value => fill name value

def klik (p : String) (forms : FormId → Controls) (k : Klik) : FormId → Controls :=
  if terpasang p k then Function.update forms k.target (k.handler (forms k.target)) else forms

def setelahKlik (h : Halaman) (ks : List Klik) : FormId → Controls :=
  Trace.run (klik h.p) (muat h) ks

def kirimForm (h : Halaman) (ks : List Klik) (f : FormId) : Form := submit (setelahKlik h ks f)

/-! ## riwayatMeter -/

/-- One entry of `$data_last_meter`; `none` for the month before is its '-'. -/
structure DataMeter where
  meterAkhir : Option Decimal
  sudahInputBulanIni : Bool
  tglTerakhir : Stamp
  tglBulanLalu : Option Stamp
  deriving DecidableEq, Repr

/-- A PHP array by username; a null username is the key "". -/
abbrev Riwayat := List (String × DataMeter)

def Riwayat.get? (riwayat : Riwayat) (u : String) : Option DataMeter :=
  (riwayat.find? fun e => e.1 = u).map Prod.snd

def catatRiwayat (now : Stamp) (riwayat : Riwayat) (r : Pemakaian) : Riwayat :=
  let u := orEmpty r.username
  match riwayat.get? u with
  | none =>
    riwayat ++ [(u, ⟨r.meterAkhir, r.tgl.monthIndex = now.date.monthIndex, r.stamp, none⟩)]
  | some d =>
    if d.sudahInputBulanIni && d.tglBulanLalu.isNone then
      riwayat.map fun e => if e.1 = u then (u, { d with tglBulanLalu := some r.stamp }) else e
    else riwayat

/-- `ORDER BY tgl DESC, waktu DESC`. -/
def terbaruDulu (rows : List Pemakaian) : List Pemakaian :=
  rows.insertionSort fun a b => b.stamp.ordinal ≤ a.stamp.ordinal

def dataLastMeter (db : Db) (now : Stamp) : Riwayat :=
  (terbaruDulu db.pemakaian.rows).foldl (catatRiwayat now) []

/-- The change handler of the resident's select in meter_form. -/
def pilihWarga (h : Halaman) (riwayat : Riwayat) (u : String) (form : Controls) : Controls :=
  if h.p = "meter_edit" then form
  else
    let form := fill "username" u form
    let kosongkan (form : Controls) : Controls :=
      if h.level = .bendahara then form else val (hasName "meter_akhir") "" form
    if u = "" then
      if h.level = .bendahara then form
      else val (hasName "meter_awal") "" (kosongkan form)
    else
      match riwayat.get? u with
      | some d => kosongkan (val (hasName "meter_awal") (orEmpty (d.meterAkhir.map Decimal.text)) form)
      | none =>
        if h.level = .bendahara then form
        else kosongkan (val (hasName "meter_awal") "0" form)

end SistemAir
