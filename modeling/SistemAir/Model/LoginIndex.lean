import SistemAir.Model.Func

/-! login/index.php: the guards and the handlers of its POST dispatcher. -/
namespace SistemAir

open StatementProgram Prog

/-- Which `$_SESSION['res_...']` a handler leaves its result in. -/
inductive Slot
  | user
  | tarif
  | meter
  | settings
  deriving DecidableEq, Repr

inductive Pesan
  | userMasuk
  | userGagal
  | usernameDipakai
  | tarifMasuk
  | tarifGagal
  | idTarifDipakai
  | tarifDihapus
  | tarifGagalDihapus
  | sudahDicatat
  | meterNegatif
  | meterGagal
  | ubahNegatif
  deriving DecidableEq, Repr

inductive Unggah
  | formatSalah
  | terlaluBesar
  | berhasil
  | gagalPindah
  | tanpaBerkas
  deriving DecidableEq, Repr

inductive Hasil
  | keLogin
  | sesiBerakhir
  | sesiTidakValid
  | kadaluarsa
  | ditolak
  | terkunci
  | alihkan (slot : Slot) (res : Res)
  | unggah (hasil : Unggah)
  | halaman (pesan : Option Pesan)
  | halamanDitolak (pesan : Option Pesan)
  deriving DecidableEq, Repr

/-! ## user_add, user_edit, user_hapus -/

def userAdd (php : Php) (actor : String) (level : Level) (salt : String) (post : Form) :
    Aksi Hasil := do
  let user := post.get? "yuser"
  let pass := php.passwordHash salt (orEmpty (post.get? "passwet"))
  let levelForm := Level.ofPost (post.get? "level")
  let found ← perform (Op.countLogin user)
  if found = 0 then
    let affected ← perform (Op.insertLogin user pass (post.get? "nama") (post.get? "alamat")
      (post.get? "kota") (post.get? "tlp") levelForm (post.get? "tipe") (post.get? "status"))
    if 0 < affected then
      catatLog actor level "user_add" "login" user ("tambah user baru, level=" ++ levelForm.name)
      return .halaman (some .userMasuk)
    else
      return .halaman (some .userGagal)
  else
    return .halaman (some .usernameDipakai)

/-- The posted password as the two UPDATE variants see it: an empty one is left
out of the column list. -/
def newPassword (php : Php) (salt : String) (pass : Option String) : Option String :=
  if isEmpty pass then none else some (php.passwordHash salt (orEmpty pass))

def userEdit (php : Php) (actor : String) (level : Level) (salt : String) (post : Form) :
    Aksi Hasil := do
  let user := post.get? "yuser"
  let pass := post.get? "passwet"
  let levelForm := Level.ofPost (post.get? "level")
  let affected ← perform (Op.updateUser (newPassword php salt pass) (post.get? "nama")
    (post.get? "alamat") (post.get? "kota") (post.get? "tlp") levelForm (post.get? "tipe")
    (post.get? "status") user)
  if 0 < affected then
    catatLog actor level "user_edit" "login" user
      (if isEmpty pass then "ubah data diri user" else "ubah data diri user + reset password")
    return .alihkan .user .suksesEdit
  else
    return .alihkan .user .tanpaPerubahan

/-- The readings go first, then the account; the count is the account's. -/
def userHapus (actor : String) (level : Level) (post : Form) : Aksi Hasil := do
  let user := post.get? "yuser"
  let _ ← perform (Op.deletePemakaianOf user)
  let affected ← perform (Op.deleteLogin user)
  if 0 < affected then
    catatLog actor level "user_hapus" "login" user
      "hapus akun user (+riwayat pemakaian ikut terhapus)"
    return .alihkan .user .suksesHapus
  else
    return .alihkan .user .gagalHapus

/-! ## tarif_add, tarif_edit, tarif_hapus -/

def numericColumn (php : Php) : Option String → Aksi (Option Decimal)
  | none => pure none
  | some text =>
    match php.angka text with
    | none => .fail .rejectedValue
    | some n => pure (some n)

def tarifAdd (php : Php) (actor : String) (level : Level) (post : Form) : Aksi Hasil := do
  let idTarif := post.get? "id_tarif"
  let tipeTarif := post.get? "tipe_tarif"
  let status := post.get? "status"
  let found ← perform (Op.countTarif idTarif)
  if found = 0 then
    let tarif ← numericColumn php (post.get? "tarif")
    let affected ← perform (Op.insertTarif idTarif tipeTarif tarif status)
    if 0 < affected then
      catatLog actor level "tarif_add" "tarif" idTarif ("tambah tarif " ++ orEmpty tipeTarif ++
        " = " ++ orEmpty (post.get? "tarif") ++ ", status=" ++ orEmpty status)
      return .halaman (some .tarifMasuk)
    else
      return .halaman (some .tarifGagal)
  else
    return .halaman (some .idTarifDipakai)

def tarifEdit (php : Php) (actor : String) (level : Level) (post : Form) : Aksi Hasil := do
  let idTarif := post.get? "id_tarif_lama"
  let tipeTarif := post.get? "tipe_tarif"
  let status := post.get? "status"
  let tarif ← numericColumn php (post.get? "tarif")
  let affected ← perform (Op.updateTarif tipeTarif tarif status idTarif)
  if 0 < affected then
    catatLog actor level "tarif_edit" "tarif" idTarif ("ubah tarif " ++ orEmpty tipeTarif ++
      " jadi " ++ orEmpty (post.get? "tarif") ++ ", status=" ++ orEmpty status)
    return .alihkan .tarif .suksesEdit
  else
    return .alihkan .tarif .tanpaPerubahan

def tarifHapus (actor : String) (level : Level) (post : Form) : Aksi Hasil := do
  let idTarif := post.get? "id_tarif"
  let affected ← perform (Op.deleteTarif idTarif)
  if 0 < affected then
    catatLog actor level "tarif_hapus" "tarif" idTarif "hapus data tarif"
    return .halaman (some .tarifDihapus)
  else
    return .halaman (some .tarifGagalDihapus)

/-! ## meter_add, meter_edit, meter_hapus -/

/-- An operand of PHP's `-`: null counts as 0, a text that is no number throws. -/
def operand (php : Php) : Option String → Aksi (Option Decimal)
  | none => pure none
  | some text =>
    match php.angka text with
    | none => .fail .typeError
    | some n => pure (some n)

def meterAdd (php : Php) (actor : String) (level : Level) (post : Form) : Aksi Hasil := do
  let username := post.get? "username"
  let kdTarif ← userToIdtarif username
  let tarif ← idTarifToTarif kdTarif
  let now ← perform Op.clock
  let meterAkhir ← operand php (post.get? "meter_akhir")
  let meterAwal ← operand php (post.get? "meter_awal")
  let pemakaian := meterAkhir.getD 0 - meterAwal.getD 0
  let tagihan := tarif.getD 0 * pemakaian
  let status := if pemakaian = 0 then some "LUNAS" else post.get? "status_bayar"
  let found ← perform (Op.countMonth username now.php.date.month now.php.date.year)
  if 0 < found then
    return .halaman (some .sudahDicatat)
  else if pemakaian < 0 then
    return .halaman (some .meterNegatif)
  else
    let affected ← perform
      (Op.insertPemakaian username meterAwal meterAkhir pemakaian kdTarif tagihan status)
    if 0 < affected then
      catatLog actor level "meter_add" "pemakaian" username ("catat meter awal=" ++
        orEmpty (post.get? "meter_awal") ++ " akhir=" ++ orEmpty (post.get? "meter_akhir") ++
        " status=" ++ orEmpty status)
      return .alihkan .meter .suksesAdd
    else
      return .halaman (some .meterGagal)

def locked (level : Level) (tgl : Option Date) (now : Clock) : Bool :=
  match tgl with
  | none => false
  | some tgl => level = .petugas && 30 < daysSince tgl now.php

def meterEdit (php : Php) (actor : String) (level : Level) (post : Form) : Aksi Hasil := do
  let no := (post.get? "no").map php.intval
  let dataTgl ← perform (Op.tglOf no)
  let statusLama := dataTgl.bind Prod.snd
  let now ← perform Op.clock
  if locked level (dataTgl.map Prod.fst) now then
    return .terkunci
  else
    let username ← noToUser no
    let kdTarif ← userToIdtarif username
    let tarif ← idTarifToTarif kdTarif
    let meterAkhir ← operand php (post.get? "meter_akhir")
    let meterAwal ← operand php (post.get? "meter_awal")
    let pemakaian := meterAkhir.getD 0 - meterAwal.getD 0
    let tagihan := tarif.getD 0 * pemakaian
    let status := if pemakaian = 0 then some "LUNAS" else post.get? "status_bayar"
    if pemakaian < 0 then
      return .halaman (some .ubahNegatif)
    else
      let affected ← perform (Op.updateMeter meterAwal meterAkhir pemakaian tagihan status no)
      if 0 < affected then
        catatLog actor level "meter_edit" "pemakaian" (post.get? "no")
          (if statusLama ≠ none ∧ php.sama (orEmpty statusLama) (orEmpty status) = false then
            "status: " ++ orEmpty statusLama ++ " -> " ++ orEmpty status
          else "ubah meter_awal/meter_akhir")
        return .alihkan .meter .suksesEdit
      else
        return .alihkan .meter .tanpaPerubahan

def meterHapus (php : Php) (actor : String) (level : Level) (post : Form) : Aksi Hasil := do
  let no := (post.get? "no").map php.intval
  let dataTgl ← perform (Op.tglOf no)
  let now ← perform Op.clock
  if locked level (dataTgl.map Prod.fst) now then
    return .terkunci
  else
    let affected ← perform (Op.deletePemakaian no)
    if 0 < affected then
      catatLog actor level "meter_hapus" "pemakaian" (post.get? "no") "hapus data pemakaian/meter"
      return .alihkan .meter .suksesHapus
    else
      return .alihkan .meter .gagalHapus

/-! ## upload_bukti, profil_edit -/

def uploadBukti (php : Php) (actor : String) (level : Level) (post : Form)
    (file : Option Upload) : Aksi Hasil := do
  let noMeter : Int := ((post.get? "no_meter").map php.intval).getD 0
  match file with
  | none => return .unggah .tanpaBerkas
  | some upload =>
    if upload.ok then
      let ext := strtolower (pathinfoExtension upload.name)
      if ext ∉ ["jpg", "jpeg", "png"] then
        return .unggah .formatSalah
      else if 2 * 1024 * 1024 < upload.size then
        return .unggah .terlaluBesar
      else
        let now ← perform Op.clock
        let newFilename := "bukti_" ++ toString noMeter ++ "_" ++ toString now.time ++ "." ++ ext
        if ← perform (Op.storeUpload newFilename upload) then
          let _ ← perform (Op.updateBukti newFilename noMeter actor)
          catatLog actor level "upload_bukti" "pemakaian" (some (toString noMeter))
            ("Upload bukti bayar: " ++ newFilename)
          return .unggah .berhasil
        else
          return .unggah .gagalPindah
    else
      return .unggah .tanpaBerkas

def profilEdit (php : Php) (actor : String) (level : Level) (salt : String) (post : Form) :
    Aksi Hasil := do
  let pass := post.get? "passwet"
  let affected ← perform (Op.updateProfil (newPassword php salt pass) (post.get? "nama")
    (post.get? "alamat") (post.get? "kota") (post.get? "tlp") actor)
  if 0 < affected then
    catatLog actor level "profil_edit" "login" (some actor)
      (if isEmpty pass then "ubah data diri sendiri" else "ubah data diri sendiri + ganti password")
    return .alihkan .settings .suksesEdit
  else
    return .alihkan .settings .tanpaPerubahan

/-! ## The dispatcher -/

def aksiAdminSaja : List String := ["user_add", "user_edit", "user_hapus"]
def aksiAdminBendahara : List String := ["tarif_add", "tarif_edit", "tarif_hapus"]
def aksiPencatatMeter : List String := ["meter_add", "meter_edit", "meter_hapus"]

def roleRefused (level : Level) (tombol : String) : Bool :=
  (tombol ∈ aksiAdminSaja && level ≠ .admin) ||
  (tombol ∈ aksiAdminBendahara && level ∉ [Level.admin, .bendahara]) ||
  (tombol ∈ aksiPencatatMeter && level ∉ [Level.admin, .bendahara, .petugas])

def pageRefused (level : Level) (p : Option String) : Bool :=
  (p = some "user_edit" && level ≠ .admin) ||
  (p = some "tarif_edit" && level ∉ [Level.admin, .bendahara]) ||
  (p = some "meter_edit" && level ∉ [Level.admin, .bendahara, .petugas])

def dispatch (php : Php) (q : Request) (actor : String) (level : Level) (tombol : String) :
    Aksi Hasil :=
  match tombol with
  | "user_add" => userAdd php actor level q.salt q.post
  | "user_edit" => userEdit php actor level q.salt q.post
  | "user_hapus" => userHapus actor level q.post
  | "tarif_add" => tarifAdd php actor level q.post
  | "tarif_edit" => tarifEdit php actor level q.post
  | "tarif_hapus" => tarifHapus actor level q.post
  | "meter_add" => meterAdd php actor level q.post
  | "meter_edit" => meterEdit php actor level q.post
  | "upload_bukti" => uploadBukti php actor level q.post q.file
  | "meter_hapus" => meterHapus php actor level q.post
  | "profil_edit" => profilEdit php actor level q.salt q.post
  | _ => pure (.halaman none)

/-- The rest of the page after a handler that did not exit. -/
def render (level : Level) (q : Request) : Hasil → Hasil
  | .halaman pesan =>
    if pageRefused level (q.query.get? "p") then .halamanDitolak pesan else .halaman pesan
  | hasil => hasil

/-- A request of the session user `actor` once the session is accepted. -/
def loginIndex (php : Php) (q : Request) (actor token : String) : Aksi Hasil := do
  match ← dtUser actor with
  | (_, _, none) => return .sesiTidakValid
  | (_, _, some level) =>
    match q.tombol with
    | none => return render level q (.halaman none)
    | some tombol =>
      if tokenRefused token (q.post.get? "csrf_token") then
        return .kadaluarsa
      else if roleRefused level tombol then
        return .ditolak
      else
        let hasil ← dispatch php q actor level tombol
        return render level q hasil

end SistemAir
