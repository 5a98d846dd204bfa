import SistemAir.Library.Json
import SistemAir.Library.Markup
import SistemAir.Model.Select
import SistemAir.Model.World

/-! login/index.php with the page it prints. What is printed between two values is the
template's own text, which is one stretch; every value stands where the template has it,
in the quotes it has there, escaped where the source escapes it. -/
namespace SistemAir

open JsonText Markup StatementProgram Prog

/-! ## The text of the templates -/

inductive Templat
  | navigasi
  | dasbor
  | userForm
  | userList
  | tarifForm
  | tarifList
  | meterList
  | meterForm
  | wargaList
  | modal
  | settings
  | activityLog
  deriving DecidableEq, Repr

/-- A stretch of text without a value from the tables or the request: the `n`-th one of a
template for a level, a title, a message, the choice of months, or the way out. -/
inductive Bagian
  | kepala
  | tetap (templat : Templat) (n : Nat) (level : Level)
  | judul (p : Option String)
  | pesan (pesan : Pesan)
  | res (slot : Slot) (level : Level) (res : Res)
  | waktu (tahun bulan : Nat)
  | akhir (hasil : Hasil) (tombol p : Option String)
  | kaki
  deriving DecidableEq, Repr

/-- The text of the stretches and of the page's own script, both of which a browser reads
as they were meant. -/
structure Naskah where
  isi : Bagian → List Node
  skrip : String
  isi_inert : ∀ bagian, ∀ n ∈ isi bagian, n.Inert
  skrip_inert : Markup.Inert .script skrip.toList

def Naskah.kosong : Naskah := ⟨fun _ => [], "", fun _ _ h => absurd h (by simp), rfl⟩

section Pieces

def esc (s : Option String) : String := htmlspecialchars (orEmpty s)

def jsonEncode (value : Json) : String := String.ofList value.encode

def jsonTeks (s : Option String) : String :=
  jsonEncode (match s with | none => .null | some s => .string s)

def angka (n : Option Decimal) : String := orEmpty (n.map Decimal.text)

def kelas (s : String) : Attr := ⟨"class", .double s⟩

def elemen (name : String) (attrs : List Attr) (isi : List Node) : List Node :=
  .tag name attrs :: isi ++ [.close name]

def td (s : String) : List Node := elemen "td" [] [.text s]

def lencana (warna : String) (isi : List Node) : List Node :=
  elemen "span" [⟨"class", .single ("badge bg-" ++ warna)⟩] isi

def badgeStatus (status : Option String) : List Node :=
  if status = some "LUNAS" then lencana "success" [.text "LUNAS"]
  else lencana "danger" [.text "BELUM LUNAS"]

def rupiah (n : Decimal) : String := "Rp " ++ numberFormat n

def csrfToken (token : String) : Node :=
  .tag "input" [⟨"type", .double "hidden"⟩, ⟨"name", .double "csrf_token"⟩, ⟨"value", .double token⟩]

def inputNode (type id name value : String) (lagi : List Attr) : Node :=
  .tag "input" ([⟨"type", .double type⟩, kelas "form-control", ⟨"id", .double id⟩,
    ⟨"name", .double name⟩, ⟨"value", .double value⟩, ⟨"required", .bare⟩] ++ lagi)

def opsi (value label : String) (pilih : Option String) : List Node :=
  elemen "option" (⟨"value", .single value⟩ :: pilih.toList.map fun name => ⟨name, .bare⟩)
    [.text label]

/-- An option written with double quotes. -/
def opsiTetap (value label : String) (pilih : Bool) : List Node :=
  elemen "option" (⟨"value", .double value⟩ :: if pilih then [⟨"selected", .bare⟩] else [])
    [.text label]

def tombolKirim (value : String) (isi : List Node) : List Node :=
  elemen "button" [⟨"type", .double "submit"⟩, kelas "btn btn-primary", ⟨"name", .double "tombol"⟩,
    ⟨"value", .double value⟩] isi

def tombolBaris (p kunci modal data value : String) : List Node :=
  elemen "a" [⟨"href", .single ("index.php?p=" ++ p ++ "&" ++ kunci ++ "=" ++ value)⟩]
      (elemen "button" [⟨"type", .single "button"⟩,
        ⟨"class", .single "btn btn-outline-primary btn-sm"⟩] [.text "Ubah"]) ++
    elemen "button" [⟨"type", .single "button"⟩, ⟨"class", .single "btn btn-outline-danger btn-sm"⟩,
      ⟨"data-bs-toggle", .single "modal"⟩, ⟨"data-bs-target", .single modal⟩,
      ⟨data, .single value⟩] [.text "Hapus"]

end Pieces

/-! ## PHP's variables at the templates -/

/-- `$_POST` as the templates find it, `$level_target`, `$tipe` and `$status`. -/
structure Variabel where
  post : Form
  levelTarget : Option String
  tipe : Option String
  status : Option String
  deriving DecidableEq, Repr

def statusMeter (php : Php) (post : Form) : Option String :=
  let bilangan (name : String) : Decimal := ((post.get? name).bind php.angka).getD 0
  if bilangan "meter_akhir" - bilangan "meter_awal" = 0 then some "LUNAS"
  else post.get? "status_bayar"

/-- `$_POST[$name] = $value`; a null is not set for isset(). -/
def Form.suntik (post : Form) : List (String × Option String) → Form
  | [] => post
  | (name, value) :: rest =>
    Form.suntik (post.filter (fun field => field.1 ≠ name) ++ value.toList.map fun v => (name, v)) rest

/-- What a handler that prints the page has left in the two variables. -/
def variabelPost (php : Php) (q : Request) : Variabel :=
  let tipe := if q.tombol = some "user_add" then q.post.get? "tipe" else none
  let status :=
    match q.tombol with
    | some "user_add" | some "tarif_add" => q.post.get? "status"
    | some "meter_add" | some "meter_edit" => statusMeter php q.post
    | _ => none
  ⟨q.post, none, tipe, status⟩

/-- `$_POST['username'] = $username` of meter_edit, which prints the page only where it has
changed nothing. -/
def suntikPost (php : Php) (q : Request) (v : Variabel) : Permintaan Variabel := do
  if q.tombol = some "meter_edit" then
    let username ← perform (Kueri.ingat fun db => db.noToUser ((q.post.get? "no").map php.intval))
    return { v with post := v.post.suntik [("username", username)] }
  else
    return v

def Variabel.suntikUser (v : Variabel) (user : Option String) (d : Option DataUser) : Variabel where
  post := v.post.suntik [("passwet", some ""), ("nama", d.bind (·.nama)),
    ("alamat", d.bind (·.alamat)), ("kota", d.bind (·.kota)), ("tlp", d.bind (·.tlp)),
    ("yuser", user)]
  levelTarget := d.map (·.level.name)
  tipe := d.bind (·.tipe)
  status := d.bind (·.status)

def Variabel.suntikTarif (v : Variabel) (idTarif : Option String)
    (d : Option (Option String × Option Decimal × Option String)) : Variabel :=
  { v with
    post := v.post.suntik [("id_tarif", idTarif), ("tipe_tarif", d.bind fun d => d.1),
      ("tarif", (d.bind fun d => d.2.1).map Decimal.text), ("status", d.bind fun d => d.2.2)] }

def Variabel.suntikMeter (v : Variabel) (d : Option (Option String × Option Decimal × Option Decimal))
    (status : Option (Option String)) : Variabel :=
  { v with
    post := v.post.suntik [("username", d.bind fun d => d.1),
      ("meter_awal", (d.bind fun d => d.2.1).map Decimal.text),
      ("meter_akhir", (d.bind fun d => d.2.2).map Decimal.text), ("status_bayar", status.bind id)] }

/-- The GET part: the edit pages put the stored row into `$_POST`. -/
def suntikGet (php : Php) (q : Request) (v : Variabel) : Permintaan Variabel := do
  match q.query.get? "p" with
  | some "user_edit" =>
    let user := q.query.get? "user"
    return v.suntikUser user (← baca (.userEdit user))
  | some "tarif_edit" =>
    let idTarif := q.query.get? "id_tarif"
    return v.suntikTarif idTarif (← baca (.tarifEdit idTarif))
  | some "meter_edit" =>
    let no := (q.query.get? "no").map php.intval
    let d ← baca (.meterEdit no)
    return v.suntikMeter d (← baca (.statusOf no))
  | _ => return v

/-! ## The templates -/

/-- What all templates read besides the tables. -/
structure Latar where
  naskah : Naskah
  php : Php
  sesi : Session
  actor : String
  token : String
  nama : Option String
  kota : Option String
  level : Level
  query : Form
  now : Stamp

def Latar.tetap (l : Latar) (templat : Templat) (n : Nat) : List Node :=
  l.naskah.isi (.tetap templat n l.level)

def Latar.res (l : Latar) (slot : Slot) (res : Option Res) : List Node :=
  res.toList.flatMap fun res => l.naskah.isi (.res slot l.level res)

def navigasi (l : Latar) : List Node :=
  l.naskah.isi .kepala ++
  [.raw "script" [] ["\n        var level_user = ", jsonTeks (some l.level.name),
    ";\n        var user = ", jsonTeks (some l.actor), ";    \n    "]] ++
  l.tetap .navigasi 0 ++
  elemen "div" [kelas "small"]
    (elemen "i" [kelas "fa-regular fa-user fa-flip text-danger"] [] ++
      [.text (" Logged in as : " ++ esc (some l.level.name))]) ++
  [.text ("\n" ++ esc l.nama ++ " (" ++ esc l.kota ++ ")")] ++
  l.tetap .navigasi 1 ++
  l.naskah.isi (.judul (l.query.get? "p"))

def dasbor (l : Latar) : List Node :=
  l.tetap .dasbor 0 ++ l.naskah.isi (.waktu l.now.date.year l.now.date.month) ++ l.tetap .dasbor 1

def userFormNodes (l : Latar) (v : Variabel) : List Node :=
  let isi (name : String) : String := esc (v.post.get? name)
  let levelForm := v.levelTarget.or ((v.post.get? "level").map htmlspecialchars)
  let pilih (b : Bool) : Option String := if b then some "SELECTED" else none
  l.tetap .userForm 0 ++ [csrfToken l.token] ++
  l.tetap .userForm 1 ++ [inputNode "text" "username" "yuser" (isi "yuser") []] ++
  l.tetap .userForm 2 ++ [inputNode "password" "password" "passwet" (isi "passwet") []] ++
  l.tetap .userForm 3 ++ [inputNode "text" "nama" "nama" (isi "nama") []] ++
  l.tetap .userForm 4 ++
  [.raw "textarea" [kelas "form-control", ⟨"id", .double "alamat"⟩, ⟨"name", .double "alamat"⟩,
    ⟨"required", .bare⟩] [isi "alamat"]] ++
  l.tetap .userForm 5 ++ [inputNode "text" "kota" "kota" (isi "kota") []] ++
  l.tetap .userForm 6 ++ [inputNode "text" "telepon" "tlp" (isi "tlp") []] ++
  l.tetap .userForm 7 ++
  ([("admin", "Admin"), ("bendahara", "Bendahara"), ("petugas", "Petugas"),
    ("warga", "Warga")].flatMap fun (lv, label) => opsi lv label (pilih (levelForm = some lv))) ++
  l.tetap .userForm 8 ++
  (["RT", "Kos"].flatMap fun t => opsi t t (pilih (v.tipe = some t))) ++
  l.tetap .userForm 9 ++
  (["AKTIF", "TDK AKTIF"].flatMap fun s => opsi s s (pilih (v.status = some s))) ++
  l.tetap .userForm 10

def barisUser (username : String) (d : DataUser) : List Node :=
  let user := esc (some username)
  elemen "tr" [] (td user ++ td (esc d.nama) ++ td (esc d.alamat) ++ td (esc d.kota) ++
    td (esc d.tlp) ++ td (esc (some d.level.name)) ++ td (esc d.tipe) ++ td (esc d.status) ++
    elemen "td" [] (tombolBaris "user_edit" "user" "#myModal" "data-user" user))

def userList (l : Latar) : Permintaan (List Node) := do
  let atas := l.tetap .userList 0 ++ l.res .user l.sesi.resUser ++ l.tetap .userList 1
  if l.level = .admin then
    let rows ← baca .daftarUser
    return atas ++ rows.flatMap (fun r => barisUser r.1 r.2) ++ l.tetap .userList 2
  else
    return atas ++ l.tetap .userList 2

def tarifFormNodes (l : Latar) (v : Variabel) : List Node :=
  let isi (name : String) : String := esc (v.post.get? name)
  let radio (id value : String) : Node :=
    .tag "input" ([kelas "form-check-input", ⟨"type", .double "radio"⟩, ⟨"name", .double "status"⟩,
      ⟨"id", .double id⟩, ⟨"value", .double value⟩] ++
      (if v.post.get? "status" = some value then [⟨"checked", .bare⟩] else []) ++
      [⟨"required", .bare⟩])
  l.tetap .tarifForm 0 ++ [csrfToken l.token] ++
  l.tetap .tarifForm 1 ++ [inputNode "text" "id_tarif" "id_tarif" (isi "id_tarif") []] ++
  l.tetap .tarifForm 2 ++ opsiTetap "RT" "Rumah" (v.post.get? "tipe_tarif" = some "RT") ++
  opsiTetap "Kos" "Kos" (v.post.get? "tipe_tarif" = some "Kos") ++
  l.tetap .tarifForm 3 ++ [inputNode "number" "tarif" "tarif" (isi "tarif") []] ++
  l.tetap .tarifForm 4 ++ [radio "status_aktif" "AKTIF"] ++
  l.tetap .tarifForm 5 ++ [radio "status_tdk" "TDK AKTIF"] ++
  l.tetap .tarifForm 6

def barisTarif (t : Tarif) : List Node :=
  let idTarif := esc (some t.idTarif)
  elemen "tr" [] (td idTarif ++ td (esc t.tipeTarif) ++ td (esc (t.tarif.map Decimal.text)) ++
    td (esc t.status) ++
    elemen "td" [] (tombolBaris "tarif_edit" "id_tarif" "#modalTarif" "data-id" idTarif))

def tarifList (l : Latar) : Permintaan (List Node) := do
  let atas := l.tetap .tarifList 0 ++ l.res .tarif l.sesi.resTarif ++ l.tetap .tarifList 1
  if l.level ∈ [Level.admin, .bendahara] then
    let rows ← baca .daftarTarif
    return atas ++ rows.flatMap barisTarif ++ l.tetap .tarifList 2
  else
    return atas ++ l.tetap .tarifList 2

inductive AksiMeter
  | ubahHapus
  | terkunci
  deriving DecidableEq, Repr

def aksiMeter (level : Level) (tgl : Date) (now : Stamp) : AksiMeter :=
  if level ∈ [Level.admin, .bendahara] then .ubahHapus
  else if daysSince tgl now ≤ 30 then .ubahHapus
  else .terkunci

def AksiMeter.nodes (no : Nat) : AksiMeter → List Node
  | .ubahHapus => tombolBaris "meter_edit" "no" "#modalMeter" "data-no" (toString no)
  | .terkunci => lencana "secondary" [.text "Terkunci"]

/-- A row of the meter table, after the lookup of the resident's name. -/
def barisMeterNodes (l : Latar) (nama : Option String) (r : BarisMeter) : List Node :=
  elemen "tr" [] (td (esc nama) ++
    td (tglBalik r.tgl ++ " " ++ jam r.waktu ++ " | " ++ l.now.date.teks ++ " " ++
      toString (daysSince r.tgl l.now) ++ " hari") ++
    td (angka r.meterAwal) ++ td (angka r.meterAkhir) ++ td r.pemakaian.text ++
    (if l.level = .petugas then []
      else td (rupiah r.tagihan) ++ elemen "td" [] (badgeStatus r.status)) ++
    elemen "td" [] ((aksiMeter l.level r.tgl l.now).nodes r.no))

def barisMeterSemua (l : Latar) : List BarisMeter → Permintaan (List Node)
  | [] => return []
  | r :: rows => do
    let dtUser2 ← baca (.dtUser r.username)
    let lain ← barisMeterSemua l rows
    return barisMeterNodes l (dtUser2.bind fun d => d.1) r ++ lain

def meterList (l : Latar) : Permintaan (List Node) := do
  let atas := l.tetap .meterList 0 ++ l.res .meter l.sesi.resMeter ++ l.tetap .meterList 1
  if l.level ∈ [Level.admin, .bendahara, .petugas] then
    let rows ← baca .daftarMeter
    let isi ← barisMeterSemua l rows
    return atas ++ isi ++ l.tetap .meterList 2
  else
    return atas ++ l.tetap .meterList 2

/-- The options are printed as they are stored. -/
def opsiWarga (php : Php) (v : Variabel) (dw : String × Option String) : List Node :=
  opsi dw.1 (orEmpty dw.2)
    (if (v.post.get? "username").any fun u => php.sama u dw.1 then some "selected" else none)

def DataMeter.json (d : DataMeter) : Json :=
  let waktu (s : Stamp) : String := tglBalik s.date ++ " " ++ jam s.time
  .object [("meter_akhir", match d.meterAkhir with | none => .null | some n => .string n.text),
    ("sudah_input_bulan_ini", .bool d.sudahInputBulanIni),
    ("tgl_terakhir", .string (waktu d.tglTerakhir)),
    ("tgl_bulan_lalu", .string (match d.tglBulanLalu with | none => "-" | some s => waktu s))]

def Riwayat.json (riwayat : Riwayat) : Json := ofMap (riwayat.map fun e => (e.1, e.2.json))

def skripMeter (l : Latar) (riwayat : Riwayat) : Node :=
  .raw "script" []
    ["\n            const currentLevel = typeof level_user !== 'undefined' ? level_user : ",
      jsonTeks (some l.level.name), ";\n            const currentParam = ",
      jsonTeks (some (orEmpty (l.query.get? "p"))), ";\n            const riwayatMeter = ",
      jsonEncode riwayat.json, ";\n", l.naskah.skrip]

def simpanMeter (l : Latar) : List Node :=
  if l.query.get? "p" = some "meter_edit" then
    .tag "input" [⟨"type", .single "hidden"⟩, ⟨"name", .single "no"⟩,
        ⟨"value", .single (orEmpty (l.query.get? "no"))⟩] ::
      tombolKirim "meter_edit" [.text "Simpan"]
  else tombolKirim "meter_add" [.text "Simpan"]

def kunci (b : Bool) : List Attr :=
  if b then [⟨"readonly", .bare⟩, ⟨"style", .single "background-color: #e8f0fe;"⟩] else []

def statusBayarNodes (l : Latar) (v : Variabel) : List Node :=
  if l.level ∈ [Level.admin, .bendahara] then
    l.tetap .meterForm 4 ++
    (["BELUM LUNAS", "LUNAS"].flatMap fun s =>
      opsiTetap s s (v.post.get? "status_bayar" = some s)) ++
    l.tetap .meterForm 5
  else [.tag "input" [⟨"type", .double "hidden"⟩, ⟨"name", .double "status_bayar"⟩,
    ⟨"value", .double "BELUM LUNAS"⟩]]

def meterFormNodes (l : Latar) (v : Variabel) (warga : List (String × Option String))
    (riwayat : Riwayat) : List Node :=
  let isi (name : String) : String := esc (v.post.get? name)
  let edit : Bool := l.query.get? "p" = some "meter_edit"
  l.tetap .meterForm 0 ++ [csrfToken l.token] ++
  l.tetap .meterForm 1 ++
  elemen "select" ([kelas "form-select", ⟨"id", .double "username"⟩, ⟨"name", .double "username"⟩,
      ⟨"required", .bare⟩] ++ (if edit then [⟨"disabled", .bare⟩] else []))
    (opsiTetap "" "Nama Warga" false ++ warga.flatMap (opsiWarga l.php v)) ++
  l.tetap .meterForm 2 ++
  [inputNode "number" "meter_awal" "meter_awal" (isi "meter_awal")
    (kunci (l.level = .bendahara || edit))] ++
  l.tetap .meterForm 3 ++
  [inputNode "number" "meter_akhir" "meter_akhir" (isi "meter_akhir") (kunci (l.level = .bendahara))] ++
  statusBayarNodes l v ++ simpanMeter l ++ [skripMeter l riwayat] ++ l.tetap .meterForm 6

def meterFormPage (l : Latar) (v : Variabel) : Permintaan (List Node) := do
  let warga ← baca .daftarWarga
  let riwayat ← baca (.dataLastMeter l.now)
  return meterFormNodes l v warga riwayat

def aksiBayar (r : BarisWarga) : List Node :=
  let modal := "#modalBayar" ++ toString r.no
  let tombol (warna ikon label : String) : List Node :=
    elemen "button" [⟨"type", .single "button"⟩, ⟨"class", .single ("btn btn-" ++ warna ++ " btn-sm")⟩,
      ⟨"data-bs-toggle", .single "modal"⟩, ⟨"data-bs-target", .single modal⟩]
      (elemen "i" [⟨"class", .single ikon⟩] [] ++ [.text label])
  if r.status = some "LUNAS" then
    lencana "secondary" (elemen "i" [⟨"class", .single "fas fa-check-circle me-1"⟩] [] ++
      [.text "Selesai"])
  else if isEmpty r.buktiBayar then tombol "primary" "fas fa-wallet me-1" "Bayar"
  else
    elemen "a" [⟨"href", .single ("../assets/img/bukti/" ++ orEmpty r.buktiBayar)⟩,
        ⟨"target", .single "_blank"⟩, ⟨"class", .single "btn btn-outline-info btn-sm me-1"⟩]
      (elemen "i" [⟨"class", .single "fas fa-image"⟩] [] ++ [.text " Bukti"]) ++
    tombol "warning" "fas fa-upload" " Ganti"

def modalBayar (l : Latar) (r : BarisWarga) : List Node :=
  elemen "div" [kelas "modal fade", ⟨"id", .double ("modalBayar" ++ toString r.no)⟩,
      ⟨"tabindex", .double "-1"⟩, ⟨"aria-hidden", .double "true"⟩]
    (l.tetap .wargaList 2 ++ [csrfToken l.token,
      .tag "input" [⟨"type", .double "hidden"⟩, ⟨"name", .double "no_meter"⟩,
        ⟨"value", .double (toString r.no)⟩]] ++
      l.tetap .wargaList 3 ++
      elemen "div" [kelas "fs-4 fw-bold text-success"] [.text (rupiah r.tagihan)] ++
      l.tetap .wargaList 4)

def barisWargaNodes (l : Latar) (r : BarisWarga) : List Node :=
  elemen "tr" [] (td (r.tgl.teks ++ " " ++ jam r.waktu) ++ td r.kdTarif ++ td (angka r.meterAwal) ++
    td (angka r.meterAkhir) ++ td r.pemakaian.text ++ td (rupiah r.tagihan) ++
    elemen "td" [] (badgeStatus r.status) ++ elemen "td" [] (aksiBayar r)) ++
  if r.status = some "LUNAS" then [] else modalBayar l r

def wargaList (l : Latar) : Permintaan (List Node) := do
  let _ ← baca (.pemakaianSayaDulu l.actor)
  let rows ← baca (.pemakaianSaya l.actor)
  return l.tetap .wargaList 0 ++ rows.flatMap (barisWargaNodes l) ++ l.tetap .wargaList 1

def modalHapus (l : Latar) : List Node :=
  l.tetap .modal 0 ++ [csrfToken l.token] ++ l.tetap .modal 1 ++ [csrfToken l.token] ++
  l.tetap .modal 2 ++ [csrfToken l.token] ++ l.tetap .modal 3

def settingsNodes (l : Latar) (d : Option DataProfil) : List Node :=
  l.tetap .settings 0 ++ l.res .settings l.sesi.resSettings ++ l.tetap .settings 1 ++
  [csrfToken l.token] ++
  l.tetap .settings 2 ++ [inputNode "text" "set_nama" "nama" (esc (d.bind (·.nama))) []] ++
  l.tetap .settings 3 ++ [inputNode "text" "set_alamat" "alamat" (esc (d.bind (·.alamat))) []] ++
  l.tetap .settings 4 ++ [inputNode "text" "set_kota" "kota" (esc (d.bind (·.kota))) []] ++
  l.tetap .settings 5 ++ [inputNode "text" "set_tlp" "tlp" (esc (d.bind (·.tlp))) []] ++
  l.tetap .settings 6

def settings (l : Latar) : Permintaan (List Node) := do
  let d ← baca (.profil l.actor)
  return settingsNodes l d

/-- A DATETIME column from its seconds since 1970, on the database's calendar. -/
structure Kalender where
  teks : Int → String

def barisLog (kalender : Kalender) (e : AuditLog) : List Node :=
  elemen "tr" [] (td (esc (some (kalender.teks e.createdAt))) ++ td (esc (some e.actorUsername)) ++
    td (esc (some e.actorLevel.name)) ++ td (esc (some e.aksi)) ++
    td (esc (some (e.tabelTarget ++ " #" ++ orEmpty e.idTarget))) ++ td (esc (some e.detail)))

def activityLog (kalender : Kalender) (l : Latar) : Permintaan (List Node) := do
  if l.level ∈ [Level.admin, .bendahara] then
    let rows ← baca .logTerbaru
    return l.tetap .activityLog 0 ++ rows.flatMap (barisLog kalender) ++ l.tetap .activityLog 1
  else
    return l.tetap .activityLog 0

def templat (kalender : Kalender) (l : Latar) (v : Variabel) : Permintaan (List Node) := do
  let user ← userList l
  let tarif ← tarifList l
  let meter ← meterList l
  let form ← meterFormPage l v
  let warga ← wargaList l
  let profil ← settings l
  let log ← activityLog kalender l
  return dasbor l ++ userFormNodes l v ++ user ++ tarifFormNodes l v ++ tarif ++ meter ++ form ++
    warga ++ modalHapus l ++ profil ++ log ++ l.naskah.isi .kaki

/-! ## The request -/

def tangani (php : Php) (q : Request) (actor : String) (level : Level) (token : String) :
    Aksi Hasil :=
  match q.tombol with
  | none => pure (.halaman none)
  | some tombol =>
    if tokenRefused token (q.post.get? "csrf_token") then pure .kadaluarsa
    else if roleRefused level tombol then pure .ditolak
    else dispatch php q actor level tombol

def cetakPesan (naskah : Naskah) (pesan : Option Pesan) : List Node :=
  pesan.toList.flatMap fun pesan => naskah.isi (.pesan pesan)

def loginIndexPenuh (naskah : Naskah) (kalender : Kalender) (php : Php) (q : Request)
    (sesi : Session) (actor token : String) : Permintaan (Hasil × List Node) := do
  match ← Aksi.angkat (dtUser actor) with
  | (_, _, none) => return (.sesiTidakValid, naskah.isi (.akhir .sesiTidakValid none none))
  | (nama, kota, some level) =>
    let p := q.query.get? "p"
    let l : Latar := ⟨naskah, php, sesi, actor, token, nama, kota, level, q.query, q.clock.php⟩
    match ← Aksi.angkat (tangani php q actor level token) with
    | .halaman pesan =>
      if pageRefused level p then
        return (.halamanDitolak pesan, navigasi l ++ cetakPesan naskah pesan ++
          naskah.isi (.akhir (.halamanDitolak none) none p))
      else
        let v ← suntikGet php q (← suntikPost php q (variabelPost php q))
        let isi ← templat kalender l v
        return (.halaman pesan, navigasi l ++ cetakPesan naskah pesan ++ isi)
    | hasil => return (hasil, navigasi l ++ naskah.isi (.akhir hasil q.tombol p))

def handleLoginIndexPenuh (naskah : Naskah) (kalender : Kalender) (php : Php) (w : World)
    (q : Request) : Except Galat (Hasil × List Node) × World :=
  let s := w.session q.sid
  let server := { w.server with clock := q.clock }
  if isEmpty s.user then
    (.ok (.keLogin, naskah.isi (.akhir .keLogin none none)), { w with server := server })
  else if idle s q.clock.time then
    (.ok (.sesiBerakhir, naskah.isi (.akhir .sesiBerakhir none none)),
      ⟨server, Function.update w.session q.sid Session.empty⟩)
  else
    let s := { s with lastActivity := some q.clock.time }
    let token := ensureToken s.csrfToken q.token
    let out := (loginIndexPenuh naskah kalender php q s (orEmpty s.user) token).run execKueri server
    (out.1, ⟨out.2, Function.update w.session q.sid
      (sessionAfter s token (out.1.map Prod.fst))⟩)

end SistemAir
