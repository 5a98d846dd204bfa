import SistemAir.Library.Alternate
import SistemAir.Library.Json
import SistemAir.Model.Select

/-! assets/ajax.php: the summary boxes and the charts, for the level of the session
user, and what js/air.js takes the charts apart with. The script sets no time zone, so
`now` is PHP's default clock. -/
namespace SistemAir

open Alternate JsonText StatementProgram Prog

inductive AjaxHasil
  | unauthorized
  | kosong
  | json (body : Json)

/-- A number as mysqli_query() returns it, or a SUM() from any statement. -/
def teksAngka (n : Decimal) : Json := .string n.text

def kolom (name : String) (value : Json) : Json := .object [(name, value)]

def info (text : String) : Json := kolom "info" (.string text)

/-! ## summary -/

def summaryPencatat (bulanDefault : String) : Permintaan (List Json) := do
  let likeBulan := bulanDefault ++ "%"
  let jmlPelanggan ← baca .jmlWarga
  let total ← baca (.totalPemakaian likeBulan)
  let totalPemakaian := if total.getD 0 = 0 then "0" else numberFormat (total.getD 0)
  let tercatat ← baca (.tercatat likeBulan)
  return [kolom "jml_pelanggan" (teksAngka jmlPelanggan),
    kolom "total_pemakaian" (.string totalPemakaian), kolom "tercatat" (.number tercatat),
    kolom "belum_dicatat" (.number (jmlPelanggan - tercatat))]

def summaryBendahara (bulanDefault : String) : Permintaan (List Json) := do
  let likeBulan := bulanDefault ++ "%"
  let jmlPelanggan ← baca .jmlWarga
  let pemasukan ← baca (.totalPemasukan likeBulan)
  let lunas ← baca (.jmlStatus likeBulan "LUNAS")
  let belumBayar ← baca (.jmlStatus likeBulan "BELUM LUNAS")
  return [kolom "jml_pelanggan" (teksAngka jmlPelanggan),
    kolom "total_pemasukan" (.string ("Rp " ++ numberFormat (pemasukan.getD 0))),
    kolom "lunas" (.number lunas), kolom "belum_bayar" (.number belumBayar)]

def infoWarga : Option InfoWarga → List Json
  | some d =>
    [info (tglBalik d.tgl ++ " " ++ jam d.waktu), info (numberFormat d.pemakaian ++ " m³"),
      info ("Rp " ++ numberFormat d.tagihan),
      kolom "info" (match d.status with | none => .null | some status => .string status)]
  | none => [info "Belum Terdaftar/Ter-input", info "- m³", info "Rp -", info "-"]

def summaryWarga (user bulanPost : String) : Permintaan (List Json) := do
  if bulanPost = "" then
    return infoWarga (← baca (.wargaTerakhir user))
  else
    return infoWarga (← baca (.wargaBulan user (bulanPost ++ "%")))

def summary (user : String) (level : Level) (bulanPost bulanDefault : String) :
    Permintaan (List Json) :=
  match level with
  | .admin | .petugas => summaryPencatat bulanDefault
  | .bendahara => summaryBendahara bulanDefault
  | .warga => summaryWarga user bulanPost

/-! ## semua_chart -/

/-- Twelve months as name and value in turn; a later row of a month overwrites an
earlier one, and a month without a row is 0. -/
def duaBelasBulan (data : List (Nat × Json)) : Json :=
  .array <| (List.range' 1 12).flatMap fun bulan =>
    [.string (bln bulan), ((data.reverse.find? (·.1 = bulan)).map Prod.snd).getD (.number 0)]

def chartPencatat (tahun : Nat) : Permintaan (List (String × Json)) := do
  let pemakaian ← baca (.pemakaianPerBulan tahun)
  let tipe ← baca .tipePelanggan
  let totWarga ← baca .jmlWarga
  let catat ← baca (.tercatatPerBulan tahun)
  let dataCatat (bulan : Nat) : Nat := ((catat.find? (·.1 = bulan)).map Prod.snd).getD 0
  return [("pemakaian", duaBelasBulan (pemakaian.map fun (bulan, total) => (bulan, teksAngka total))),
    ("tipe_pelanggan", .array (tipe.flatMap fun (tipe, jml) =>
      [match tipe with | none => .null | some tipe => .string tipe, teksAngka jml])),
    ("tercatat", duaBelasBulan (catat.map fun (bulan, jml) => (bulan, teksAngka jml))),
    ("belum_tercatat", .array ((List.range' 1 12).flatMap fun bulan =>
      [.string (bln bulan), .number (totWarga - dataCatat bulan)]))]

def chartTagihan (tahun : Nat) : Permintaan (List (String × Json)) := do
  let tagihan ← baca (.tagihanPerBulan tahun false)
  let pemasukan ← baca (.tagihanPerBulan tahun true)
  let sdh ← baca (.statusPerBulan tahun "LUNAS")
  let blm ← baca (.statusPerBulan tahun "BELUM LUNAS")
  return [("tagihan", duaBelasBulan (tagihan.map fun (bulan, total) => (bulan, teksAngka total))),
    ("pemasukan", duaBelasBulan (pemasukan.map fun (bulan, total) => (bulan, teksAngka total))),
    ("sdh_lunas", duaBelasBulan (sdh.map fun (bulan, jml) => (bulan, teksAngka jml))),
    ("blm_lunas", duaBelasBulan (blm.map fun (bulan, jml) => (bulan, teksAngka jml)))]

def chartWarga (user : String) (tahun : Nat) : Permintaan (List (String × Json)) := do
  let data ← baca (.wargaPerBulan user tahun)
  return [("pemakaian_warga",
      duaBelasBulan (data.map fun (bulan, pemakaian, _) => (bulan, .number pemakaian))),
    ("tagihan_warga", duaBelasBulan (data.map fun (bulan, _, tagihan) => (bulan, .number tagihan)))]

def semuaChart (user : String) (level : Level) (tahun : Nat) :
    Permintaan (List (String × Json)) := do
  match level with
  | .admin | .bendahara => return (← chartPencatat tahun) ++ (← chartTagihan tahun)
  | .petugas => chartPencatat tahun
  | .warga => chartWarga user tahun

/-! ## The endpoint -/

/-- `substr($tgl, 0, 7)`. -/
def tahunBulan (d : Date) : String := pad 4 d.year ++ "-" ++ pad 2 d.month

/-- The month asked for, else the latest one anybody has a reading in. -/
def bulanDefault (bulanPost : String) (now : Stamp) : Permintaan String := do
  if bulanPost = "" then
    match ← baca .tglTerakhir with
    | some tgl => return tahunBulan tgl
    | none => return tahunBulan now.date
  else
    return bulanPost

def jawabAjax (user : String) (level : Level) (post : Form) (now : Stamp) :
    Permintaan AjaxHasil := do
  let bulanPost := orEmpty (post.get? "t")
  let bulan ← bulanDefault bulanPost now
  match post.get? "p" with
  | some "summary" => return .json (.array (← summary user level bulanPost bulan))
  | some "semua_chart" => return .json (ofMap (← semuaChart user level now.date.year))
  | _ => return .kosong

def ajax (user : Option String) (post : Form) (now : Stamp) : Permintaan AjaxHasil := do
  if isEmpty user then
    return .unauthorized
  else
    match ← Aksi.angkat (dtUser (orEmpty user)) with
    | (_, _, none) => return .unauthorized
    | (_, _, some level) => jawabAjax (orEmpty user) level post now

/-! ## js/air.js -/

/-- `arr.filter((_, i) => i % 2 === 0)`. -/
def getX (arr : List Json) : List Json := filterIdx (· % 2 = 0) arr

/-- `arr.filter((_, i) => i % 2 !== 0)`. -/
def getY (arr : List Json) : List Json := filterIdx (· % 2 ≠ 0) arr

/-- `Number(...)` of the numbers and decimal texts that the answers hold. -/
structure Js where
  number : Json → Option Decimal
  number_number : ∀ n, number (.number n) = some n
  number_teksAngka : ∀ n, number (teksAngka n) = some n

/-- `arr.reduce((a, b) => Number(a) + Number(b), 0)`; what is no number stays none. -/
def Js.sumVal (js : Js) (arr : List Json) : Option Decimal :=
  arr.foldlM (fun a b => return a + (← js.number b)) 0

end SistemAir
