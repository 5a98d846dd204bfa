import SistemAir.Spec.Guard

/-! What every handler answers and leaves, one equation for each. The lookups are
answered by the tables as they are, so a handler run in one piece is a function
of the tables, the post and the clock. -/
namespace SistemAir

open KeyedTable StatementProgram Prog

/-! ## Effects on the tables -/

def Login.posted (php : Php) (salt : String) (post : Form) (u : String) : Login :=
  { username := u
    password := php.passwordHash salt (orEmpty (post.get? "passwet"))
    nama := post.get? "nama"
    alamat := post.get? "alamat"
    kota := post.get? "kota"
    tlp := post.get? "tlp"
    level := Level.ofPost (post.get? "level")
    tipe := post.get? "tipe"
    status := post.get? "status" }

def Login.registered (php : Php) (salt : String) (post : Form) : Login :=
  { username := trim (orEmpty (post.get? "reg_username"))
    password := php.passwordHash salt (orEmpty (post.get? "reg_password"))
    nama := some (trim (orEmpty (post.get? "reg_nama")))
    alamat := some (trim (orEmpty (post.get? "reg_alamat")))
    kota := some (trim (orEmpty (post.get? "reg_kota")))
    tlp := some (trim (orEmpty (post.get? "reg_tlp")))
    level := .warga
    tipe := post.get? "reg_tipe"
    status := some "AKTIF" }

def Login.edited (php : Php) (salt : String) (post : Form) : Login → Login :=
  Login.setUser (newPassword php salt (post.get? "passwet")) (post.get? "nama")
    (post.get? "alamat") (post.get? "kota") (post.get? "tlp") (Level.ofPost (post.get? "level"))
    (post.get? "tipe") (post.get? "status")

def Login.profiled (php : Php) (salt : String) (post : Form) : Login → Login :=
  Login.setProfil (newPassword php salt (post.get? "passwet")) (post.get? "nama")
    (post.get? "alamat") (post.get? "kota") (post.get? "tlp")

/-- The two posted readings as numbers; null stays null. -/
structure Reading where
  meterAwal : Option Decimal
  meterAkhir : Option Decimal
  deriving DecidableEq, Repr

def Reading.pemakaian (b : Reading) : Decimal := b.meterAkhir.getD 0 - b.meterAwal.getD 0

/-- The stored status: a reading without consumption is settled at once. -/
def Reading.status (b : Reading) (posted : Option String) : Option String :=
  if b.pemakaian = 0 then some "LUNAS" else posted

def readOperand (php : Php) : Option String → Option (Option Decimal)
  | none => some none
  | some text => (php.angka text).map some

/-- No reading where PHP's `-` throws. -/
def Reading.ofPost (php : Php) (post : Form) : Option Reading :=
  match readOperand php (post.get? "meter_akhir"), readOperand php (post.get? "meter_awal") with
  | some meterAkhir, some meterAwal => some ⟨meterAwal, meterAkhir⟩
  | _, _ => none

namespace Db
variable (php : Php) (post : Form) (db : Db)

def ubahUser (salt : String) : Db :=
  { db with
    login := db.login.update (fun r => sqlEq (some r.username) (post.get? "yuser"))
      (Login.edited php salt post) fun _ => rfl }

def hapusUser : Db :=
  { db with
    login := db.login.delete fun r => sqlEq (some r.username) (post.get? "yuser")
    pemakaian := db.pemakaian.delete fun r => sqlEq r.username (post.get? "yuser") }

def ubahTarif (tarif : Option Decimal) : Db :=
  { db with
    tarif := db.tarif.update
      (fun r => sqlEq (some r.idTarif) (post.get? "id_tarif_lama"))
      (Tarif.set (post.get? "tipe_tarif") tarif (post.get? "status")) fun _ => rfl }

def hapusTarif : Db :=
  { db with tarif := db.tarif.delete fun r => sqlEq (some r.idTarif) (post.get? "id_tarif") }

def nomor : Option Int := (post.get? "no").map php.intval

def freshRow (b : Reading) (at_ : Stamp) : Nat → Pemakaian :=
  Pemakaian.fresh (post.get? "username") b.meterAwal b.meterAkhir b.pemakaian
    (db.userToIdtarif (post.get? "username")) (db.rate (post.get? "username") * b.pemakaian)
    (b.status (post.get? "status_bayar")) at_

def catatMeter (b : Reading) (at_ : Stamp) : Db :=
  { db with pemakaian := db.pemakaian.insert (db.freshRow post b at_) fun _ => rfl }

def editRow (b : Reading) : Pemakaian → Pemakaian :=
  Pemakaian.setMeter b.meterAwal b.meterAkhir b.pemakaian
    (db.rate (db.noToUser (nomor php post)) * b.pemakaian) (b.status (post.get? "status_bayar"))

def ubahMeter (b : Reading) : Db :=
  { db with
    pemakaian := db.pemakaian.update (Pemakaian.hasNo (nomor php post))
      (db.editRow php post b) fun _ => rfl }

def hapusMeter : Db :=
  { db with pemakaian := db.pemakaian.delete (Pemakaian.hasNo (nomor php post)) }

def setBukti (actor bukti : String) (no : Int) : Db :=
  { db with
    pemakaian := db.pemakaian.update
      (fun r => Pemakaian.hasNo (some no) r && sqlEq r.username (some actor))
      (Pemakaian.setBukti bukti) (Pemakaian.no_setBukti bukti) }

def ubahProfil (salt actor : String) : Db :=
  { db with
    login := db.login.update (fun r => r.username = actor)
      (Login.profiled php salt post) fun _ => rfl }

@[simp] theorem rows_catatMeter (b : Reading) (at_ : Stamp) :
    (db.catatMeter post b at_).pemakaian.rows =
      db.pemakaian.rows ++ [db.freshRow post b at_ db.pemakaian.next] := rfl

@[simp] theorem rows_ubahMeter (b : Reading) :
    (db.ubahMeter php post b).pemakaian.rows = db.pemakaian.rows.map fun r =>
      if Pemakaian.hasNo (nomor php post) r then db.editRow php post b r else r := rfl

@[simp] theorem username_editRow (b : Reading) (r : Pemakaian) :
    (db.editRow php post b r).username = r.username := rfl

@[simp] theorem stamp_editRow (b : Reading) (r : Pemakaian) :
    (db.editRow php post b r).stamp = r.stamp := rfl

@[simp] theorem rows_hapusMeter :
    (db.hapusMeter php post).pemakaian.rows =
      db.pemakaian.rows.filter fun r => !Pemakaian.hasNo (nomor php post) r := rfl

@[simp] theorem rows_hapusUser :
    (db.hapusUser post).pemakaian.rows =
      db.pemakaian.rows.filter fun r => !sqlEq r.username (post.get? "yuser") := rfl

@[simp] theorem rows_setBukti (actor bukti : String) (no : Int) :
    (db.setBukti actor bukti no).pemakaian.rows = db.pemakaian.rows.map fun r =>
      if Pemakaian.hasNo (some no) r && sqlEq r.username (some actor) then r.setBukti bukti
      else r := rfl

def logs (entries : List AuditLog) : Db := { db with auditLog := db.auditLog ++ entries }

@[simp] theorem logs_login (entries : List AuditLog) : (db.logs entries).login = db.login := rfl
@[simp] theorem logs_tarif (entries : List AuditLog) : (db.logs entries).tarif = db.tarif := rfl
@[simp] theorem logs_pemakaian (entries : List AuditLog) :
    (db.logs entries).pemakaian = db.pemakaian := rfl
@[simp] theorem logs_auditLog (entries : List AuditLog) :
    (db.logs entries).auditLog = db.auditLog ++ entries := rfl
@[simp] theorem logs_loginAttempts (entries : List AuditLog) :
    (db.logs entries).loginAttempts = db.loginAttempts := rfl
@[simp] theorem logs_nil : db.logs [] = db := by simp [logs]

end Db

/-! ## Users -/

section Handlers
variable (php : Php) (actor : String) (level : Level) (salt : String) (post : Form) (s : Server)

theorem insertKeyed_of_fresh {α : Type} {key : α → String} (table : Table key) (k : String)
    (row : String → α) (hkey : key (row k) = k) (hfresh : table.find? k = none) :
    ∃ table', Server.insertKeyed table (some k) row = .ok table' ∧
      table'.rows = table.rows ++ [row k] := by
  have hnot : ∀ r ∈ table.rows, key r ≠ key (row k) := by
    rw [hkey]
    exact table.find?_eq_none_iff.mp hfresh
  obtain ⟨table', hinsert, hrows⟩ := table.insert_of_fresh (row k) hnot
  exact ⟨table', by simp only [Server.insertKeyed, hinsert], hrows⟩

theorem run_userAdd_none (h : post.get? "yuser" = none) :
    (userAdd php actor level salt post).run exec s = (.error .nullKey, s) := by
  unfold userAdd
  simp only [h]
  rw [perform_bind, run_call_ok exec rfl]
  rfl

theorem run_userAdd_taken {u : String} {a : Login} (h : post.get? "yuser" = some u)
    (ha : s.db.akun u = some a) :
    (userAdd php actor level salt post).run exec s =
      (.ok (.halaman (some .usernameDipakai)), s) := by
  unfold userAdd
  simp only [h]
  rw [perform_bind, run_call_ok exec rfl]
  simp [ha]

theorem exec_insertLogin {u : String} (hfresh : s.db.akun u = none) :
    ∃ login', login'.rows = s.db.login.rows ++ [Login.posted php salt post u] ∧
      exec _ (.insertLogin (some u) (php.passwordHash salt (orEmpty (post.get? "passwet")))
        (post.get? "nama") (post.get? "alamat") (post.get? "kota") (post.get? "tlp")
        (Level.ofPost (post.get? "level")) (post.get? "tipe") (post.get? "status")) s =
        .ok (1, s.setDb { s.db with login := login' }) := by
  obtain ⟨login', hinsert, hrows⟩ := insertKeyed_of_fresh s.db.login u
    (Login.posted php salt post) rfl hfresh
  refine ⟨login', hrows, ?_⟩
  simp only [exec]
  exact congrArg (fun e => e >>= fun login => pure (1, s.setDb { s.db with login := login }))
    hinsert

theorem run_userAdd {u : String} (h : post.get? "yuser" = some u) (hfresh : s.db.akun u = none) :
    ∃ login', login'.rows = s.db.login.rows ++ [Login.posted php salt post u] ∧
      (userAdd php actor level salt post).run exec s = (.ok (.halaman (some .userMasuk)),
        (s.setDb { s.db with login := login' }).logged actor level "user_add" "login" (some u)
          ("tambah user baru, level=" ++ (Level.ofPost (post.get? "level")).name)) := by
  obtain ⟨login', hrows, hexec⟩ := exec_insertLogin php salt post s hfresh
  refine ⟨login', hrows, ?_⟩
  unfold userAdd
  simp only [h]
  rw [perform_bind, run_call_ok exec rfl]
  simp only [Option.bind_some, hfresh, Option.toList_none, List.length_nil, if_true]
  rw [perform_bind]
  exact run_call_ok exec hexec _

theorem run_userEdit :
    (userEdit php actor level salt post).run exec s =
      if 0 < s.db.login.changed (fun r => sqlEq (some r.username) (post.get? "yuser"))
          (Login.edited php salt post) then
        (.ok (.alihkan .user .suksesEdit),
          (s.setDb (s.db.ubahUser php post salt)).logged actor level "user_edit" "login"
            (post.get? "yuser")
            (if isEmpty (post.get? "passwet") then "ubah data diri user"
            else "ubah data diri user + reset password"))
      else (.ok (.alihkan .user .tanpaPerubahan), s) := by
  unfold userEdit
  rw [perform_bind, run_call_ok exec rfl]
  refine run_ite exec (fun _ => rfl) fun hsame => Prod.ext rfl ?_
  have htable := s.db.login.update_of_changed_eq_zero
    (fun r => sqlEq (some r.username) (post.get? "yuser")) (Login.edited php salt post)
    (fun _ => rfl) (Nat.eq_zero_of_not_pos hsame)
  exact congrArg (fun login => s.setDb { s.db with login := login }) htable

theorem run_userHapus :
    (userHapus actor level post).run exec s =
      if 0 < (s.db.login.rows.filter
          fun r => sqlEq (some r.username) (post.get? "yuser")).length then
        (.ok (.alihkan .user .suksesHapus),
          (s.setDb (s.db.hapusUser post)).logged actor level "user_hapus" "login"
            (post.get? "yuser") "hapus akun user (+riwayat pemakaian ikut terhapus)")
      else (.ok (.alihkan .user .gagalHapus), s.setDb (s.db.hapusUser post)) := by
  unfold userHapus
  rw [perform_bind, run_call_ok exec rfl, perform_bind, run_call_ok exec rfl]
  exact run_ite exec (fun _ => rfl) fun _ => rfl

/-! ## Tariffs -/

theorem run_numericColumn (text : Option String) :
    (numericColumn php text).run exec s =
      (match readOperand php text with
      | none => .error .rejectedValue
      | some tarif => .ok tarif, s) := by
  unfold numericColumn readOperand
  cases text with
  | none => rfl
  | some text => cases h : php.angka text <;> simp [h]

theorem run_tarifAdd_rejected (hfree : (post.get? "id_tarif").bind s.db.tarif.find? = none)
    (h : readOperand php (post.get? "tarif") = none ∨ post.get? "id_tarif" = none) :
    ∃ galat, (tarifAdd php actor level post).run exec s = (.error galat, s) := by
  unfold tarifAdd
  rw [perform_bind, run_call_ok exec rfl]
  simp only [hfree, Option.toList_none, List.length_nil, if_true]
  have hnumeric := run_numericColumn php s (post.get? "tarif")
  cases htarif : readOperand php (post.get? "tarif") with
  | none =>
    rw [htarif] at hnumeric
    exact ⟨_, run_bind_error exec hnumeric _⟩
  | some tarif =>
    rw [htarif] at hnumeric h
    have hid : post.get? "id_tarif" = none := by simpa using h
    refine ⟨.nullKey, ?_⟩
    rw [run_bind_ok exec hnumeric, hid, perform_bind]
    rfl

theorem run_tarifAdd_taken {id : String} {t : Tarif} (h : post.get? "id_tarif" = some id)
    (ht : s.db.tarif.find? id = some t) :
    (tarifAdd php actor level post).run exec s =
      (.ok (.halaman (some .idTarifDipakai)), s) := by
  unfold tarifAdd
  simp only [h]
  rw [perform_bind, run_call_ok exec rfl]
  simp [ht]

theorem exec_insertTarif {id : String} (tarif : Option Decimal) (hfresh : s.db.tarif.find? id = none) :
    ∃ tarif', tarif'.rows = s.db.tarif.rows ++
        [⟨id, post.get? "tipe_tarif", tarif, post.get? "status"⟩] ∧
      exec _ (.insertTarif (some id) (post.get? "tipe_tarif") tarif (post.get? "status")) s =
        .ok (1, s.setDb { s.db with tarif := tarif' }) := by
  obtain ⟨tarif', hinsert, hrows⟩ := insertKeyed_of_fresh s.db.tarif id
    (fun id => ⟨id, post.get? "tipe_tarif", tarif, post.get? "status"⟩) rfl hfresh
  refine ⟨tarif', hrows, ?_⟩
  simp only [exec, hinsert]
  rfl

theorem run_tarifAdd {id : String} {tarif : Option Decimal} (h : post.get? "id_tarif" = some id)
    (hfresh : s.db.tarif.find? id = none) (htarif : readOperand php (post.get? "tarif") = some tarif) :
    ∃ tarif', tarif'.rows = s.db.tarif.rows ++
        [⟨id, post.get? "tipe_tarif", tarif, post.get? "status"⟩] ∧
      (tarifAdd php actor level post).run exec s = (.ok (.halaman (some .tarifMasuk)),
        (s.setDb { s.db with tarif := tarif' }).logged actor level "tarif_add" "tarif" (some id)
          ("tambah tarif " ++ orEmpty (post.get? "tipe_tarif") ++ " = " ++
            orEmpty (post.get? "tarif") ++ ", status=" ++ orEmpty (post.get? "status"))) := by
  obtain ⟨tarif', hrows, hexec⟩ := exec_insertTarif post s tarif hfresh
  refine ⟨tarif', hrows, ?_⟩
  unfold tarifAdd
  simp only [h]
  rw [perform_bind, run_call_ok exec rfl]
  simp only [Option.bind_some, hfresh, Option.toList_none, List.length_nil, if_true]
  have hnumeric := run_numericColumn php s (post.get? "tarif")
  rw [htarif] at hnumeric
  rw [run_bind_ok exec hnumeric, perform_bind]
  exact run_call_ok exec hexec _

theorem run_tarifEdit_rejected (h : readOperand php (post.get? "tarif") = none) :
    (tarifEdit php actor level post).run exec s = (.error .rejectedValue, s) := by
  have hnumeric := run_numericColumn php s (post.get? "tarif")
  rw [h] at hnumeric
  exact run_bind_error exec hnumeric _

theorem run_tarifEdit {tarif : Option Decimal} (h : readOperand php (post.get? "tarif") = some tarif) :
    (tarifEdit php actor level post).run exec s =
      if 0 < s.db.tarif.changed (fun r => sqlEq (some r.idTarif) (post.get? "id_tarif_lama"))
          (Tarif.set (post.get? "tipe_tarif") tarif (post.get? "status")) then
        (.ok (.alihkan .tarif .suksesEdit),
          (s.setDb (s.db.ubahTarif post tarif)).logged actor level "tarif_edit" "tarif"
            (post.get? "id_tarif_lama") ("ubah tarif " ++ orEmpty (post.get? "tipe_tarif") ++
              " jadi " ++ orEmpty (post.get? "tarif") ++ ", status=" ++
              orEmpty (post.get? "status")))
      else (.ok (.alihkan .tarif .tanpaPerubahan), s) := by
  have hnumeric := run_numericColumn php s (post.get? "tarif")
  rw [h] at hnumeric
  unfold tarifEdit
  rw [run_bind_ok exec hnumeric, perform_bind, run_call_ok exec rfl]
  refine run_ite exec (fun _ => rfl) fun hsame => Prod.ext rfl ?_
  have htable := s.db.tarif.update_of_changed_eq_zero
    (fun r => sqlEq (some r.idTarif) (post.get? "id_tarif_lama"))
    (Tarif.set (post.get? "tipe_tarif") tarif (post.get? "status"))
    (fun _ => rfl) (Nat.eq_zero_of_not_pos hsame)
  exact congrArg (fun tarif => s.setDb { s.db with tarif := tarif }) htable

theorem run_tarifHapus :
    (tarifHapus actor level post).run exec s =
      if 0 < (s.db.tarif.rows.filter
          fun r => sqlEq (some r.idTarif) (post.get? "id_tarif")).length then
        (.ok (.halaman (some .tarifDihapus)),
          (s.setDb (s.db.hapusTarif post)).logged actor level "tarif_hapus" "tarif"
            (post.get? "id_tarif") "hapus data tarif")
      else (.ok (.halaman (some .tarifGagalDihapus)), s) := by
  unfold tarifHapus
  rw [perform_bind, run_call_ok exec rfl]
  refine run_ite exec (fun _ => rfl) fun hnone => Prod.ext rfl ?_
  have htable := s.db.tarif.delete_of_filter_eq_nil
    (fun r => sqlEq (some r.idTarif) (post.get? "id_tarif")) (Nat.eq_zero_of_not_pos hnone)
  exact congrArg (fun tarif => s.setDb { s.db with tarif := tarif }) htable

/-! ## Readings -/

theorem run_operand (text : Option String) :
    (operand php text).run exec s =
      (match readOperand php text with
      | none => .error .typeError
      | some value => .ok value, s) := by
  unfold operand readOperand
  cases text with
  | none => rfl
  | some text => cases h : php.angka text <;> simp [h]

theorem run_operands {α : Type} (f : Option Decimal → Option Decimal → Aksi α) :
    (do let meterAkhir ← operand php (post.get? "meter_akhir")
        let meterAwal ← operand php (post.get? "meter_awal")
        f meterAkhir meterAwal).run exec s =
      match Reading.ofPost php post with
      | none => (.error .typeError, s)
      | some b => (f b.meterAkhir b.meterAwal).run exec s := by
  have hakhir := run_operand php s (post.get? "meter_akhir")
  have hawal := run_operand php s (post.get? "meter_awal")
  unfold Reading.ofPost
  cases h : readOperand php (post.get? "meter_akhir") with
  | none =>
    rw [h] at hakhir
    exact run_bind_error exec hakhir _
  | some meterAkhir =>
    rw [h] at hakhir
    rw [run_bind_ok exec hakhir]
    cases h' : readOperand php (post.get? "meter_awal") with
    | none =>
      rw [h'] at hawal
      exact run_bind_error exec hawal _
    | some meterAwal =>
      rw [h'] at hawal
      rw [run_bind_ok exec hawal]

def Server.sudahDicatat (username : Option String) : Bool :=
  0 < s.db.countMonth username s.clock.php.date.month s.clock.php.date.year

theorem run_meterAdd :
    (meterAdd php actor level post).run exec s =
      match Reading.ofPost php post with
      | none => (.error .typeError, s)
      | some b =>
        if s.sudahDicatat (post.get? "username") then (.ok (.halaman (some .sudahDicatat)), s)
        else if b.pemakaian < 0 then (.ok (.halaman (some .meterNegatif)), s)
        else (.ok (.alihkan .meter .suksesAdd),
          (s.setDb (s.db.catatMeter post b s.clock.sql)).logged actor level "meter_add"
            "pemakaian" (post.get? "username") ("catat meter awal=" ++
              orEmpty (post.get? "meter_awal") ++ " akhir=" ++ orEmpty (post.get? "meter_akhir") ++
              " status=" ++ orEmpty (b.status (post.get? "status_bayar")))) := by
  obtain ⟨tarif, htarif, hrate⟩ := run_idTarifToTarif s (s.db.userToIdtarif (post.get? "username"))
  have hrate' : tarif.getD 0 = s.db.rate (post.get? "username") := hrate
  unfold meterAdd
  rw [run_bind_ok exec (run_userToIdtarif s _), run_bind_ok exec htarif, perform_bind,
    run_call_ok exec rfl, run_operands]
  cases Reading.ofPost php post with
  | none => rfl
  | some b =>
    dsimp only
    rw [perform_bind, run_call_ok exec rfl, hrate']
    simp only [Server.sudahDicatat, decide_eq_true_eq]
    exact run_ite exec (fun _ => rfl) fun _ => run_ite exec (fun _ => rfl) fun _ => rfl

def Server.terkunci : Bool :=
  locked level ((s.db.pemakaianByNo (Db.nomor php post)).map Pemakaian.tgl) s.clock

theorem run_meterEdit :
    (meterEdit php actor level post).run exec s =
      if s.terkunci php level post then (.ok .terkunci, s)
      else
        match Reading.ofPost php post with
        | none => (.error .typeError, s)
        | some b =>
          if b.pemakaian < 0 then (.ok (.halaman (some .ubahNegatif)), s)
          else if 0 < s.db.pemakaian.changed (Pemakaian.hasNo (Db.nomor php post))
              (s.db.editRow php post b) then
            (.ok (.alihkan .meter .suksesEdit),
              let statusLama := (s.db.pemakaianByNo (Db.nomor php post)).bind Pemakaian.status
              let status := b.status (post.get? "status_bayar")
              (s.setDb (s.db.ubahMeter php post b)).logged actor level "meter_edit" "pemakaian"
                (post.get? "no")
                (if statusLama ≠ none ∧ php.sama (orEmpty statusLama) (orEmpty status) = false then
                  "status: " ++ orEmpty statusLama ++ " -> " ++ orEmpty status
                else "ubah meter_awal/meter_akhir"))
          else (.ok (.alihkan .meter .tanpaPerubahan), s) := by
  have hlocked : s.terkunci php level post =
      locked level (((s.db.pemakaianByNo (Db.nomor php post)).map
        fun r => (r.tgl, r.status)).map Prod.fst) s.clock := by
    unfold Server.terkunci
    cases s.db.pemakaianByNo (Db.nomor php post) <;> rfl
  have hstatus : (s.db.pemakaianByNo (Db.nomor php post)).bind Pemakaian.status =
      ((s.db.pemakaianByNo (Db.nomor php post)).map
        fun r => (r.tgl, r.status)).bind Prod.snd := by
    cases s.db.pemakaianByNo (Db.nomor php post) <;> rfl
  obtain ⟨tarif, htarif, hrate⟩ := run_idTarifToTarif s
    (s.db.userToIdtarif (s.db.noToUser (Db.nomor php post)))
  have hrate' : tarif.getD 0 = s.db.rate (s.db.noToUser (Db.nomor php post)) := hrate
  unfold meterEdit
  rw [perform_bind, run_call_ok exec rfl, perform_bind, run_call_ok exec rfl, hlocked, hstatus]
  refine run_ite exec (fun _ => rfl) fun _ => ?_
  have hno : (post.get? "no").map php.intval = Db.nomor php post := rfl
  rw [hno, run_bind_ok exec (run_noToUser s _), run_bind_ok exec (run_userToIdtarif s _),
    run_bind_ok exec htarif, run_operands]
  cases Reading.ofPost php post with
  | none => rfl
  | some b =>
    dsimp only
    rw [hrate']
    refine run_ite exec (fun _ => rfl) fun _ => ?_
    rw [perform_bind, run_call_ok exec rfl]
    refine run_ite exec (fun _ => rfl) fun hsame => Prod.ext rfl ?_
    have htable := s.db.pemakaian.update_of_changed_eq_zero
      (p := Pemakaian.hasNo (Db.nomor php post)) (f := s.db.editRow php post b) (fun _ => rfl)
      (Nat.eq_zero_of_not_pos hsame)
    exact congrArg (fun t => s.setDb { s.db with pemakaian := t }) htable

theorem run_meterHapus :
    (meterHapus php actor level post).run exec s =
      if s.terkunci php level post then (.ok .terkunci, s)
      else if 0 < (s.db.pemakaian.rows.filter (Pemakaian.hasNo (Db.nomor php post))).length then
        (.ok (.alihkan .meter .suksesHapus),
          (s.setDb (s.db.hapusMeter php post)).logged actor level "meter_hapus" "pemakaian"
            (post.get? "no") "hapus data pemakaian/meter")
      else (.ok (.alihkan .meter .gagalHapus), s) := by
  have hlocked : s.terkunci php level post =
      locked level (((s.db.pemakaianByNo (Db.nomor php post)).map
        fun r => (r.tgl, r.status)).map Prod.fst) s.clock := by
    unfold Server.terkunci
    cases s.db.pemakaianByNo (Db.nomor php post) <;> rfl
  unfold meterHapus
  rw [perform_bind, run_call_ok exec rfl, perform_bind, run_call_ok exec rfl, hlocked]
  refine run_ite exec (fun _ => rfl) fun _ => ?_
  rw [perform_bind, run_call_ok exec rfl]
  refine run_ite exec (fun _ => rfl) fun hnone => Prod.ext rfl ?_
  have htable := s.db.pemakaian.delete_of_filter_eq_nil
    (p := Pemakaian.hasNo (Db.nomor php post)) (Nat.eq_zero_of_not_pos hnone)
  exact congrArg (fun t => s.setDb { s.db with pemakaian := t }) htable

/-! ## Payment evidence and profile -/

def Upload.diterima (u : Upload) : Bool :=
  u.ok && strtolower (pathinfoExtension u.name) ∈ ["jpg", "jpeg", "png"] &&
    u.size ≤ 2 * 1024 * 1024 && u.moved

def nomorBukti (post : Form) : Int := ((post.get? "no_meter").map php.intval).getD 0

def namaBukti (upload : Upload) (now : Clock) : String :=
  "bukti_" ++ toString (nomorBukti php post) ++ "_" ++ toString now.time ++ "." ++
    strtolower (pathinfoExtension upload.name)

theorem run_uploadBukti_kept {upload : Upload} (h : upload.diterima) :
    (uploadBukti php actor level post (some upload)).run exec s = (.ok (.unggah .berhasil),
      ({ s with
          berkas := (namaBukti php post upload s.clock, upload.content) :: s.berkas
          db := s.db.setBukti actor (namaBukti php post upload s.clock)
            (nomorBukti php post) }).logged actor level "upload_bukti" "pemakaian"
        (some (toString (nomorBukti php post)))
        ("Upload bukti bayar: " ++ namaBukti php post upload s.clock)) := by
  simp only [Upload.diterima, Bool.and_eq_true, decide_eq_true_eq] at h
  obtain ⟨⟨⟨hok, hext⟩, hsize⟩, hmoved⟩ := h
  unfold uploadBukti
  dsimp only
  rw [if_pos hok, if_neg (not_not.mpr hext), if_neg (Nat.not_lt.mpr hsize), perform_bind,
    run_call_ok exec rfl, perform_bind, run_call_ok exec rfl, hmoved]
  rfl

theorem run_uploadBukti_refused {file : Option Upload} (h : ∀ u ∈ file, u.diterima = false) :
    ∃ hasil ≠ .berhasil,
      (uploadBukti php actor level post file).run exec s = (.ok (.unggah hasil), s) := by
  unfold uploadBukti
  cases file with
  | none => exact ⟨.tanpaBerkas, by decide, rfl⟩
  | some upload =>
    have hrefused := h upload rfl
    dsimp only
    split
    · rename_i hok
      split
      · exact ⟨.formatSalah, by decide, rfl⟩
      · rename_i hext
        split
        · exact ⟨.terlaluBesar, by decide, rfl⟩
        · rename_i hsize
          have hmoved : upload.moved = false := by
            rw [not_not] at hext
            simpa [Upload.diterima, hok, Nat.not_lt.mp hsize, hext] using hrefused
          rw [perform_bind, run_call_ok exec rfl, perform_bind, run_call_ok exec rfl, hmoved]
          exact ⟨.gagalPindah, by decide, rfl⟩
    · exact ⟨.tanpaBerkas, by decide, rfl⟩

theorem run_uploadBukti (file : Option Upload) :
    (∃ hasil, (uploadBukti php actor level post file).run exec s = (.ok (.unggah hasil), s)) ∨
    ∃ (upload : Upload) (bukti : String) (no : Int),
      no = ((post.get? "no_meter").map php.intval).getD 0 ∧
      file = some upload ∧
      (uploadBukti php actor level post file).run exec s = (.ok (.unggah .berhasil),
        ({ s with berkas := (bukti, upload.content) :: s.berkas,
                  db := s.db.setBukti actor bukti no }).logged actor level "upload_bukti"
            "pemakaian" (some (toString no)) ("Upload bukti bayar: " ++ bukti)) := by
  by_cases h : ∀ u ∈ file, u.diterima = false
  · obtain ⟨hasil, -, hrun⟩ := run_uploadBukti_refused php actor level post s h
    exact .inl ⟨hasil, hrun⟩
  · push Not at h
    obtain ⟨upload, rfl, hkept⟩ := h
    exact .inr ⟨upload, _, _, rfl, rfl,
      run_uploadBukti_kept php actor level post s (Bool.eq_true_of_not_eq_false hkept)⟩

theorem run_profilEdit :
    (profilEdit php actor level salt post).run exec s =
      if 0 < s.db.login.changed (fun r => r.username = actor) (Login.profiled php salt post) then
        (.ok (.alihkan .settings .suksesEdit),
          (s.setDb (s.db.ubahProfil php post salt actor)).logged actor level "profil_edit" "login"
            (some actor)
            (if isEmpty (post.get? "passwet") then "ubah data diri sendiri"
            else "ubah data diri sendiri + ganti password"))
      else (.ok (.alihkan .settings .tanpaPerubahan), s) := by
  unfold profilEdit
  rw [perform_bind, run_call_ok exec rfl]
  refine run_ite exec (fun _ => rfl) fun hsame => Prod.ext rfl ?_
  have htable := s.db.login.update_of_changed_eq_zero (fun r => r.username = actor)
    (Login.profiled php salt post) (fun _ => rfl) (Nat.eq_zero_of_not_pos hsame)
  exact congrArg (fun login => s.setDb { s.db with login := login }) htable

end Handlers

/-! ## What a handler answers -/

/-- The answers that a guard of the session or of the page does not give. -/
def Hasil.dariHandler : Hasil → Bool
  | .keLogin | .sesiBerakhir | .sesiTidakValid | .halamanDitolak _ => false
  | _ => true

section Returns
variable (php : Php) (q : Request) (actor : String) (level : Level)

theorem returns_reported {berhasil gagal : Hasil} (log : Aksi Unit) (affected : Nat)
    (hberhasil : berhasil.dariHandler = true) (hgagal : gagal.dariHandler = true) :
    (if 0 < affected then do log; return berhasil
      else return gagal : Aksi Hasil).Returns fun hasil => hasil.dariHandler = true := by
  split
  · exact returns_bind fun _ => hberhasil
  · exact hgagal

theorem returns_meterAdd :
    (meterAdd php actor level q.post).Returns fun hasil => hasil.dariHandler = true := by
  refine returns_bind fun kdTarif => ?_
  refine returns_bind fun tarif => ?_
  refine returns_bind fun now => ?_
  refine returns_bind fun meterAkhir => ?_
  refine returns_bind fun meterAwal => ?_
  refine returns_bind fun found => ?_
  split
  · rfl
  split
  · rfl
  · exact returns_bind fun affected => returns_reported _ affected rfl rfl

theorem returns_meterEdit :
    (meterEdit php actor level q.post).Returns fun hasil => hasil.dariHandler = true := by
  refine returns_bind fun dataTgl => ?_
  refine returns_bind fun now => ?_
  split
  · rfl
  refine returns_bind fun username => ?_
  refine returns_bind fun kdTarif => ?_
  refine returns_bind fun tarif => ?_
  refine returns_bind fun meterAkhir => ?_
  refine returns_bind fun meterAwal => ?_
  dsimp only
  split
  · rfl
  · exact returns_bind fun affected => returns_reported _ affected rfl rfl

theorem returns_userAdd :
    (userAdd php actor level q.salt q.post).Returns fun hasil => hasil.dariHandler = true := by
  refine returns_bind fun found => ?_
  split
  · exact returns_bind fun affected => returns_reported _ affected rfl rfl
  · rfl

theorem returns_tarifAdd :
    (tarifAdd php actor level q.post).Returns fun hasil => hasil.dariHandler = true := by
  refine returns_bind fun found => ?_
  split
  · exact returns_bind fun _ => returns_bind fun affected => returns_reported _ affected rfl rfl
  · rfl

theorem returns_meterHapus :
    (meterHapus php actor level q.post).Returns fun hasil => hasil.dariHandler = true := by
  refine returns_bind fun dataTgl => ?_
  refine returns_bind fun now => ?_
  split
  · rfl
  · exact returns_bind fun affected => returns_reported _ affected rfl rfl

theorem dariHandler_dispatch {tombol : String} {s : Server} {hasil : Hasil}
    (h : ((dispatch php q actor level tombol).run exec s).1 = .ok hasil) :
    hasil.dariHandler = true := by
  unfold dispatch at h
  split at h
  · exact (returns_userAdd php q actor level).run h
  · exact Returns.run (returns_bind fun affected => returns_reported _ affected rfl rfl) h
  · exact Returns.run (returns_bind fun _ => returns_bind fun affected =>
      returns_reported _ affected rfl rfl) h
  · exact (returns_tarifAdd php q actor level).run h
  · exact Returns.run (returns_bind fun _ => returns_bind fun affected =>
      returns_reported _ affected rfl rfl) h
  · exact Returns.run (returns_bind fun affected => returns_reported _ affected rfl rfl) h
  · exact (returns_meterAdd php q actor level).run h
  · exact (returns_meterEdit php q actor level).run h
  · obtain ⟨unggah, hrun⟩ | ⟨_, _, _, _, _, hrun⟩ := run_uploadBukti php actor level q.post s q.file
    · rw [hrun] at h
      cases h
      rfl
    · rw [hrun] at h
      cases h
      rfl
  · exact (returns_meterHapus php q actor level).run h
  · exact Returns.run (returns_bind fun affected => returns_reported _ affected rfl rfl) h
  · cases h
    rfl

end Returns

/-! ## Which handler issues what -/

/-- The statements that may be issued for this button: only user_edit assigns a level and
a status, only upload_bukti stores a file. -/
def Dipakai (tombol : String) : (β : Type) → Op β → Prop
  | _, .updateUser .. => tombol = "user_edit"
  | _, .storeUpload .. => tombol = "upload_bukti"
  | _, _ => True

section Only
variable {tombol : String} (php : Php) (q : Request) (actor : String) (level : Level)

theorem only_userToIdtarif (u : Option String) : (userToIdtarif u).Only (Dipakai tombol) := by
  refine ⟨trivial, fun tipe => ?_⟩
  cases tipe with
  | none => trivial
  | some tipe =>
    refine ⟨trivial, fun t => ?_⟩
    cases t <;> trivial

theorem only_idTarifToTarif (id : String) : (idTarifToTarif id).Only (Dipakai tombol) := by
  refine ⟨trivial, fun t => ?_⟩
  cases t <;> trivial

theorem only_noToUser (no : Option Int) : (noToUser no).Only (Dipakai tombol) := by
  refine ⟨trivial, fun u => ?_⟩
  cases u <;> trivial

theorem only_operand (text : Option String) : (operand php text).Only (Dipakai tombol) := by
  unfold operand
  split
  · trivial
  · split <;> trivial

theorem only_numericColumn (text : Option String) :
    (numericColumn php text).Only (Dipakai tombol) := by
  unfold numericColumn
  split
  · trivial
  · split <;> trivial

theorem only_reported {berhasil gagal : Hasil} (affected : Nat) (aksi tabel : String)
    (idTarget : Option String) (detail : String) :
    (if 0 < affected then do
        catatLog actor level aksi tabel idTarget detail
        return berhasil
      else return gagal : Aksi Hasil).Only (Dipakai tombol) :=
  .ite ⟨trivial, fun _ => trivial⟩ trivial

theorem only_meterAdd : (meterAdd php actor level q.post).Only (Dipakai tombol) := by
  refine (only_userToIdtarif _).bind fun kdTarif => ?_
  refine (only_idTarifToTarif _).bind fun tarif => ⟨trivial, fun now => ?_⟩
  refine (only_operand php _).bind fun akhir => (only_operand php _).bind fun awal => ?_
  refine ⟨trivial, fun found => .ite trivial (.ite trivial ⟨trivial, fun affected => ?_⟩)⟩
  exact only_reported actor level affected _ _ _ _

theorem only_meterEdit : (meterEdit php actor level q.post).Only (Dipakai tombol) := by
  refine ⟨trivial, fun tgl => ⟨trivial, fun now => .ite trivial ?_⟩⟩
  refine (only_noToUser _).bind fun u => (only_userToIdtarif _).bind fun kdTarif => ?_
  refine (only_idTarifToTarif _).bind fun tarif => ?_
  refine (only_operand php _).bind fun akhir => (only_operand php _).bind fun awal => ?_
  exact .ite trivial ⟨trivial, fun affected => only_reported actor level affected _ _ _ _⟩

theorem only_meterHapus : (meterHapus php actor level q.post).Only (Dipakai tombol) := by
  refine ⟨trivial, fun tgl => ⟨trivial, fun now => .ite trivial ⟨trivial, fun affected => ?_⟩⟩⟩
  exact only_reported actor level affected _ _ _ _

theorem only_uploadBukti (file : Option Upload) :
    (uploadBukti php actor level q.post file).Only (Dipakai "upload_bukti") := by
  have hkept (bukti : String) (upload : Upload) : (do
      if ← perform (Op.storeUpload bukti upload) then
        let _ ← perform (Op.updateBukti bukti (nomorBukti php q.post) actor)
        catatLog actor level "upload_bukti" "pemakaian" (some (toString (nomorBukti php q.post)))
          ("Upload bukti bayar: " ++ bukti)
        return .unggah .berhasil
      else
        return .unggah .gagalPindah : Aksi Hasil).Only (Dipakai "upload_bukti") := by
    refine ⟨rfl, fun stored => ?_⟩
    cases stored with
    | true => exact ⟨trivial, fun _ => ⟨trivial, fun _ => trivial⟩⟩
    | false => trivial
  unfold uploadBukti
  cases file with
  | none => exact only_pure _
  | some upload =>
    dsimp only
    -- Otherwise the comparison with the three extensions is evaluated.
    generalize strtolower (pathinfoExtension upload.name) = ext
    refine .ite (.ite trivial (.ite trivial ⟨trivial, fun now => hkept _ _⟩)) trivial

theorem only_userAdd : (userAdd php actor level q.salt q.post).Only (Dipakai tombol) := by
  refine ⟨trivial, fun found => .ite ⟨trivial, fun affected => ?_⟩ trivial⟩
  exact only_reported actor level affected _ _ _ _

theorem only_tarifAdd : (tarifAdd php actor level q.post).Only (Dipakai tombol) := by
  refine ⟨trivial, fun found => .ite ((only_numericColumn php _).bind fun tarif => ?_) trivial⟩
  exact ⟨trivial, fun affected => only_reported actor level affected _ _ _ _⟩

theorem only_dispatch (tombol : String) :
    (dispatch php q actor level tombol).Only (Dipakai tombol) := by
  unfold dispatch
  split
  · exact only_userAdd php q actor level
  · exact ⟨rfl, fun affected => only_reported actor level affected _ _ _ _⟩
  · exact ⟨trivial, fun _ => ⟨trivial, fun affected => only_reported actor level affected _ _ _ _⟩⟩
  · exact only_tarifAdd php q actor level
  · refine (only_numericColumn php _).bind fun tarif => ⟨trivial, fun affected => ?_⟩
    exact only_reported actor level affected _ _ _ _
  · exact ⟨trivial, fun affected => only_reported actor level affected _ _ _ _⟩
  · exact only_meterAdd php q actor level
  · exact only_meterEdit php q actor level
  · exact only_uploadBukti php q actor level q.file
  · exact only_meterHapus php q actor level
  · exact ⟨trivial, fun affected => only_reported actor level affected _ _ _ _⟩
  · trivial

theorem only_index (token : String) : (index php q token).Only (Dipakai tombol) := by
  have hlogin : (login php q.ip q.post).Only (Dipakai tombol) := by
    refine ⟨trivial, fun found => ?_⟩
    cases found with
    | none => exact ⟨trivial, fun _ => trivial⟩
    | some found => exact .ite trivial ⟨trivial, fun _ => trivial⟩
  have hregister : (registerWarga php q.salt q.post).Only (Dipakai tombol) :=
    ⟨trivial, fun found => .ite trivial ⟨trivial, fun _ => trivial⟩⟩
  refine ⟨trivial, fun attempts => ?_⟩
  cases q.tombol with
  | none => trivial
  | some tombol =>
    exact .ite trivial (.ite trivial (.ite hlogin (.ite hregister trivial)))

end Only


end SistemAir
