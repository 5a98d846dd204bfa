import SistemAir.Library.Faults
import SistemAir.Spec.Audit
import SistemAir.Spec.Page

/-! Requests to login/index.php one of whose statements raises. There are no
transactions: what a handler wrote before the failing statement stays. -/
namespace SistemAir

open KeyedTable Markup StatementProgram Prog

/-! ## The failing request -/

/-- The statements that go to the database and can raise a mysqli exception. -/
def Op.keDatabase : (β : Type) → Op β → Bool
  | _, .clock => false
  | _, .storeUpload _ _ => false
  | _, _ => true

def Kueri.keDatabase : (β : Type) → Kueri β → Bool
  | _, .ubah op => op.keDatabase
  | _, .baca _ => true
  | _, .ingat _ => false

section Model
variable (naskah : Naskah) (kalender : Kalender) (php : Php) (w : World) (q : Request)

/-- `handleLoginIndexPenuh` where the statement number `rusak`, counted from 0, raises
`galat`; without a number none does. -/
def handleLoginIndexRusak (galat : Galat) (rusak : Option Nat) : Except Galat Hasil × World :=
  let s := w.session q.sid
  let server := { w.server with clock := q.clock }
  if isEmpty s.user then
    (.ok .keLogin, { w with server := server })
  else if idle s q.clock.time then
    (.ok .sesiBerakhir, ⟨server, Function.update w.session q.sid Session.empty⟩)
  else
    let s := { s with lastActivity := some q.clock.time }
    let token := ensureToken s.csrfToken q.token
    let out := (loginIndexPenuh naskah kalender php q s (orEmpty s.user) token).run
      (faulty galat Kueri.keDatabase execKueri) (server, rusak)
    (out.1.map Prod.fst, ⟨out.2.1, Function.update w.session q.sid
      (sessionAfter s token (out.1.map Prod.fst))⟩)

/-- The states in which the request issues its statements to the database. -/
def kueriRequest : List Server :=
  let s := w.session q.sid
  if isEmpty s.user then []
  else if idle s q.clock.time then []
  else
    let s := { s with lastActivity := some q.clock.time }
    let token := ensureToken s.csrfToken q.token
    (loginIndexPenuh naskah kalender php q s (orEmpty s.user) token).issuedIn execKueri
      Kueri.keDatabase { w.server with clock := q.clock }

end Model

/-- A refusal, a reported failure or an uncaught exception. -/
def gagal : Except Galat Hasil → Bool
  | .error _ => true
  | .ok hasil => hasil.gagal

/-! ## The first change of a handler -/

section Urutan
variable (php : Php) (q : Request) (db : Db) (actor : String) (level : Level)

def jumlahTarif (username : Option String) : Nat :=
  if (username.bind db.akun).isSome then 2 else 1

def bolehCatat : Bool :=
  match Reading.ofPost php q.post with
  | none => false
  | some b => db.countMonth (q.post.get? "username") q.clock.php.date.month
      q.clock.php.date.year = 0 && 0 ≤ b.pemakaian

def bolehUbah : Bool :=
  !locked level ((db.pemakaianByNo (Db.nomor php q.post)).map Pemakaian.tgl) q.clock &&
  match Reading.ofPost php q.post with
  | none => false
  | some b => 0 ≤ b.pemakaian && 0 < db.pemakaian.changed (Pemakaian.hasNo (Db.nomor php q.post))
      (db.editRow php q.post b)

/-- The first of a handler's own statements that changes login, tarif or pemakaian,
counted from 0; none where the handler changes nothing. -/
def urutanUbah : String → Option Nat
  | "user_add" =>
    if (q.post.get? "yuser").any fun u => (db.akun u).isNone then some 1 else none
  | "user_edit" =>
    if 0 < db.login.changed (fun r => sqlEq (some r.username) (q.post.get? "yuser"))
      (Login.edited php q.salt q.post) then some 0 else none
  | "user_hapus" =>
    if ∃ r ∈ db.pemakaian.rows, sqlEq r.username (q.post.get? "yuser") = true then some 0
    else if ((q.post.get? "yuser").bind db.akun).isSome then some 1
    else none
  | "tarif_add" =>
    if ((q.post.get? "id_tarif").any fun id => (db.tarif.find? id).isNone) &&
      (readOperand php (q.post.get? "tarif")).isSome then some 1 else none
  | "tarif_edit" =>
    if (readOperand php (q.post.get? "tarif")).any fun tarif =>
      0 < db.tarif.changed (fun r => sqlEq (some r.idTarif) (q.post.get? "id_tarif_lama"))
        (Tarif.set (q.post.get? "tipe_tarif") tarif (q.post.get? "status")) then some 0 else none
  | "tarif_hapus" =>
    if ∃ r ∈ db.tarif.rows, sqlEq (some r.idTarif) (q.post.get? "id_tarif") = true then some 0
    else none
  | "meter_add" =>
    if bolehCatat php q db then some (jumlahTarif db (q.post.get? "username") + 2) else none
  | "meter_edit" =>
    if bolehUbah php q db level then
      some (jumlahTarif db (db.noToUser (Db.nomor php q.post)) + 3) else none
  | "meter_hapus" =>
    if locked level ((db.pemakaianByNo (Db.nomor php q.post)).map Pemakaian.tgl) q.clock = false ∧
      ∃ r ∈ db.pemakaian.rows, Pemakaian.hasNo (Db.nomor php q.post) r = true then some 1 else none
  | "upload_bukti" =>
    if q.file.any fun upload => upload.diterima && 0 < db.pemakaian.changed
      (fun r => Pemakaian.hasNo (some (nomorBukti php q.post)) r &&
        sqlEq r.username (some actor))
      (Pemakaian.setBukti (namaBukti php q.post upload q.clock)) then some 0 else none
  | "profil_edit" =>
    if 0 < db.login.changed (fun r => r.username = actor) (Login.profiled php q.salt q.post) then
      some 0 else none
  | _ => none

def hasilUbah : String → Hasil
  | "user_add" => .halaman (some .userMasuk)
  | "user_edit" => .alihkan .user .suksesEdit
  | "user_hapus" =>
    .alihkan .user (if ((q.post.get? "yuser").bind db.akun).isSome then .suksesHapus
      else .gagalHapus)
  | "tarif_add" => .halaman (some .tarifMasuk)
  | "tarif_edit" => .alihkan .tarif .suksesEdit
  | "tarif_hapus" => .halaman (some .tarifDihapus)
  | "meter_add" => .alihkan .meter .suksesAdd
  | "meter_edit" => .alihkan .meter .suksesEdit
  | "meter_hapus" => .alihkan .meter .suksesHapus
  | "upload_bukti" => .unggah .berhasil
  | "profil_edit" => .alihkan .settings .suksesEdit
  | _ => .halaman none

attribute [grind =] urutanUbah

end Urutan

/-- A handler's run: its answer and final state, and the states of its statements. -/
structure Laporan (s : Server) (n : Option Nat) (hasil : Hasil) (out : Except Galat Hasil × Server)
    (states : List Server) : Prop where
  beralih : SwitchesAt (fun t => s.db.SamaTabel t.db) n states
  akhir : s.db.SamaTabel out.2.db ↔ n = none
  jawab : n ≠ none → out.1 = .ok hasil

section Laporan
variable {s : Server} {hasil : Hasil} {out : Except Galat Hasil × Server} {states : List Server}

theorem Laporan.utuh (hstates : ∀ t ∈ states, s.db.SamaTabel t.db)
    (hout : s.db.SamaTabel out.2.db) : Laporan s none hasil out states where
  beralih := switchesAt_none_iff.mpr hstates
  akhir := iff_of_true hout rfl
  jawab := fun h => absurd rfl h

theorem Laporan.diam (hstates : ∀ t ∈ states, t = s) (hout : out.2 = s) :
    Laporan s none hasil out states :=
  .utuh (fun t ht => hstates t ht ▸ Db.SamaTabel.refl s.db) (hout ▸ Db.SamaTabel.refl s.db)

theorem Laporan.ubah (reads : List Server) {after : List Server} {server : Server}
    (hreads : ∀ t ∈ reads, t = s) (hafter : ∀ t ∈ after, ¬s.db.SamaTabel t.db)
    (hserver : ¬s.db.SamaTabel server.db) :
    Laporan s (some reads.length) hasil (.ok hasil, server) (reads ++ s :: after) := by
  have hswitch : SwitchesAt (fun t : Server => s.db.SamaTabel t.db) (some 0) (s :: after) :=
    switchesAt_zero (Db.SamaTabel.refl s.db) hafter
  exact
    { beralih := hswitch.prepend fun t ht => hreads t ht ▸ Db.SamaTabel.refl s.db
      akhir := iff_of_false hserver nofun
      jawab := fun _ => rfl }

theorem Laporan.tercatat {reads : List Server} (hreads : ∀ t ∈ reads, t = s) {core : Server}
    (hubah : ¬s.db.SamaTabel core.db) (actor : String) (level : Level) (aksi tabel : String)
    (idTarget : Option String) (detail : String) :
    Laporan s (some reads.length) hasil
      (.ok hasil, core.logged actor level aksi tabel idTarget detail) (reads ++ [s, core]) :=
  .ubah reads hreads (by simpa using hubah)
    fun hsame => hubah ⟨hsame.login, hsame.tarif, hsame.pemakaian⟩

end Laporan

/-! ## The handlers -/

section Handlers
variable (php : Php) (q : Request) (actor : String) (level : Level) (s : Server)

theorem pernyataan_userToIdtarif (u : Option String) :
    (userToIdtarif u).issuedIn exec Op.keDatabase s =
      List.replicate (jumlahTarif s.db u) s := by
  unfold userToIdtarif jumlahTarif
  rw [perform_bind, issuedIn_call_ok rfl]
  cases u.bind s.db.akun with
  | none => rfl
  | some a =>
    simp only [Option.map_some]
    unfold tipeToKdtarif
    rw [perform_bind, issuedIn_call_ok rfl]
    cases (s.db.tarifAktif a.tipe).head? <;> rfl

theorem pernyataan_idTarifToTarif (id : String) : (idTarifToTarif id).issuedIn exec Op.keDatabase s =
    [s] := by
  unfold idTarifToTarif
  rw [perform_bind, issuedIn_call_ok rfl]
  cases s.db.tarifById id <;> rfl

theorem pernyataan_tarif_eq (u : Option String) :
    ∀ t ∈ List.replicate (jumlahTarif s.db u) s ++ [s], t = s :=
  List.forall_mem_append.mpr
    ⟨fun _ => List.eq_of_mem_replicate, List.forall_mem_singleton.mpr rfl⟩

theorem pernyataan_noToUser (no : Option Int) : (noToUser no).issuedIn exec Op.keDatabase s = [s] := by
  unfold noToUser
  rw [perform_bind, issuedIn_call_ok rfl]
  cases s.db.pemakaianByNo no <;> rfl

theorem pernyataan_numericColumn (text : Option String) :
    (numericColumn php text).issuedIn exec Op.keDatabase s = [] := by
  unfold numericColumn
  cases text with
  | none => rfl
  | some text =>
    dsimp only
    cases php.angka text <;> rfl

theorem pernyataan_operand (text : Option String) :
    (operand php text).issuedIn exec Op.keDatabase s = [] := by
  unfold operand
  cases text with
  | none => rfl
  | some text =>
    dsimp only
    cases php.angka text <;> rfl

theorem pernyataan_operands {α : Type} (post : Form) (f : Option Decimal → Option Decimal → Aksi α) :
    (do let meterAkhir ← operand php (post.get? "meter_akhir")
        let meterAwal ← operand php (post.get? "meter_awal")
        f meterAkhir meterAwal).issuedIn exec Op.keDatabase s =
      match Reading.ofPost php post with
      | none => []
      | some b => (f b.meterAkhir b.meterAwal).issuedIn exec Op.keDatabase s := by
  have hakhir := run_operand php s (post.get? "meter_akhir")
  have hawal := run_operand php s (post.get? "meter_awal")
  unfold Reading.ofPost
  cases h : readOperand php (post.get? "meter_akhir") with
  | none =>
    rw [h] at hakhir
    rw [issuedIn_bind_error hakhir, pernyataan_operand]
  | some meterAkhir =>
    rw [h] at hakhir
    rw [issuedIn_bind_ok hakhir, pernyataan_operand, List.nil_append]
    cases h' : readOperand php (post.get? "meter_awal") with
    | none =>
      rw [h'] at hawal
      rw [issuedIn_bind_error hawal, pernyataan_operand]
    | some meterAwal =>
      rw [h'] at hawal
      rw [issuedIn_bind_ok hawal, pernyataan_operand, List.nil_append]

theorem filter_pos_iff {α : Type} {rows : List α} {p : α → Bool} :
    0 < (rows.filter p).length ↔ ∃ r ∈ rows, p r = true := by
  rw [List.length_pos_iff_exists_mem]
  exact exists_congr fun r => List.mem_filter

theorem laporan_userEdit :
    Laporan s (urutanUbah php q s.db actor level "user_edit") (hasilUbah q s.db "user_edit")
      ((userEdit php actor level q.salt q.post).run exec s)
      ((userEdit php actor level q.salt q.post).issuedIn exec Op.keDatabase s) := by
  have hstates : (userEdit php actor level q.salt q.post).issuedIn exec Op.keDatabase s =
      s :: if 0 < s.db.login.changed (fun r => sqlEq (some r.username) (q.post.get? "yuser"))
        (Login.edited php q.salt q.post) then [s.setDb (s.db.ubahUser php q.post q.salt)]
        else [] := by
    unfold userEdit
    rw [perform_bind, issuedIn_call_ok rfl]
    exact congrArg (s :: ·) (issuedIn_ite (fun _ => rfl) fun _ => rfl)
  rw [run_userEdit, hstates]
  simp only [urutanUbah]
  split
  · rename_i hchanged
    have hubah : ¬s.db.SamaTabel (s.db.ubahUser php q.post q.salt) := fun hsame =>
      s.db.login.rows_ne_of_changed hchanged (congrArg (·.rows) hsame.login)
    exact .tercatat (List.forall_mem_nil _) hubah _ _ _ _ _ _
  · exact .diam (by simp) rfl

theorem laporan_profilEdit :
    Laporan s (urutanUbah php q s.db actor level "profil_edit") (hasilUbah q s.db "profil_edit")
      ((profilEdit php actor level q.salt q.post).run exec s)
      ((profilEdit php actor level q.salt q.post).issuedIn exec Op.keDatabase s) := by
  have hstates : (profilEdit php actor level q.salt q.post).issuedIn exec Op.keDatabase s =
      s :: if 0 < s.db.login.changed (fun r => r.username = actor)
        (Login.profiled php q.salt q.post) then
        [s.setDb (s.db.ubahProfil php q.post q.salt actor)] else [] := by
    unfold profilEdit
    rw [perform_bind, issuedIn_call_ok rfl]
    exact congrArg (s :: ·) (issuedIn_ite (fun _ => rfl) fun _ => rfl)
  rw [run_profilEdit, hstates]
  simp only [urutanUbah]
  split
  · rename_i hchanged
    have hubah : ¬s.db.SamaTabel (s.db.ubahProfil php q.post q.salt actor) := fun hsame =>
      s.db.login.rows_ne_of_changed hchanged (congrArg (·.rows) hsame.login)
    exact .tercatat (List.forall_mem_nil _) hubah _ _ _ _ _ _
  · exact .diam (by simp) rfl

theorem laporan_userAdd :
    Laporan s (urutanUbah php q s.db actor level "user_add") (hasilUbah q s.db "user_add")
      ((userAdd php actor level q.salt q.post).run exec s)
      ((userAdd php actor level q.salt q.post).issuedIn exec Op.keDatabase s) := by
  cases hpost : q.post.get? "yuser" with
  | none =>
    rw [run_userAdd_none php actor level q.salt q.post s hpost]
    simp only [urutanUbah, hpost]
    refine .diam (fun t ht => ?_) rfl
    unfold userAdd at ht
    simp only [hpost] at ht
    rw [perform_bind, issuedIn_call_ok rfl] at ht
    exact (List.mem_pair.mp ht).elim id id
  | some u =>
    cases ha : s.db.akun u with
    | some a =>
      rw [run_userAdd_taken php actor level q.salt q.post s hpost ha]
      simp only [urutanUbah, hpost, Option.any_some, ha]
      refine .diam (fun t ht => ?_) rfl
      unfold userAdd at ht
      simp only [hpost] at ht
      rw [perform_bind, issuedIn_call_ok rfl] at ht
      simpa [ha, Op.keDatabase] using ht
    | none =>
      obtain ⟨login', hrows, hexec⟩ := exec_insertLogin php q.salt q.post s ha
      have hubah : ¬s.db.SamaTabel { s.db with login := login' } := fun hsame =>
        s.db.login.ne_of_rows_append hrows hsame.login
      have hreads : ∀ t ∈ [s], t = s := by simp
      simp only [urutanUbah, userAdd, hpost, Option.any_some, ha, Option.isNone_none, if_true]
      rw [perform_bind, run_call_ok exec rfl, issuedIn_call_ok rfl]
      simp only [Option.bind_some, ha, Option.toList_none, List.length_nil, if_true]
      rw [perform_bind, run_call_ok exec hexec, issuedIn_call_ok hexec]
      exact .tercatat hreads hubah _ _ _ _ _ _

theorem laporan_userHapus :
    Laporan s (urutanUbah php q s.db actor level "user_hapus") (hasilUbah q s.db "user_hapus")
      ((userHapus actor level q.post).run exec s)
      ((userHapus actor level q.post).issuedIn exec Op.keDatabase s) := by
  have haccount : 0 < (s.db.login.rows.filter
      fun r => sqlEq (some r.username) (q.post.get? "yuser")).length ↔
      ((q.post.get? "yuser").bind s.db.akun).isSome := by
    rw [Nat.pos_iff_ne_zero, ne_eq, filter_login_eq_nil_iff, Option.isSome_iff_ne_none]
  let tanpaBacaan : Db :=
    { s.db with pemakaian := s.db.pemakaian.delete fun r => sqlEq r.username (q.post.get? "yuser") }
  have hstates : (userHapus actor level q.post).issuedIn exec Op.keDatabase s =
      s :: s.setDb tanpaBacaan :: if ((q.post.get? "yuser").bind s.db.akun).isSome then
        [s.setDb (s.db.hapusUser q.post)] else [] := by
    unfold userHapus
    rw [perform_bind, issuedIn_call_ok rfl, perform_bind, issuedIn_call_ok rfl]
    refine congrArg (fun states => s :: s.setDb tanpaBacaan :: states) ?_
    simp only [← haccount]
    exact issuedIn_ite (fun _ => rfl) fun _ => rfl
  by_cases hbacaan : ∃ r ∈ s.db.pemakaian.rows, sqlEq r.username (q.post.get? "yuser") = true
  · -- The readings are gone before the account is looked for.
    have hhilang (db : Db) (hdb : db.pemakaian = tanpaBacaan.pemakaian) : ¬s.db.SamaTabel db := by
      intro hsame
      rw [hsame.pemakaian] at hdb
      exact s.db.pemakaian.rows_ne_of_deleted (filter_pos_iff.mpr hbacaan)
        (congrArg (·.rows) hdb).symm
    rw [hstates, run_userHapus]
    simp only [urutanUbah, if_pos hbacaan, haccount, hasilUbah]
    split
    · refine .ubah [] (List.forall_mem_nil _) (List.forall_mem_cons.mpr ⟨hhilang _ rfl, ?_⟩)
        (hhilang _ rfl)
      exact List.forall_mem_singleton.mpr (hhilang _ rfl)
    · exact .ubah [] (List.forall_mem_nil _) (List.forall_mem_singleton.mpr (hhilang _ rfl))
        (hhilang _ rfl)
  · have hnone := Nat.eq_zero_of_not_pos (mt filter_pos_iff.mp hbacaan)
    have hsama : tanpaBacaan = s.db :=
      congrArg (fun pemakaian => { s.db with pemakaian := pemakaian })
        (s.db.pemakaian.delete_of_filter_eq_nil hnone)
    have hutuh : s.setDb tanpaBacaan = s := by rw [hsama]; rfl
    rw [hstates, run_userHapus, hutuh]
    simp only [urutanUbah, if_neg hbacaan, haccount, hasilUbah]
    split
    · rename_i hakun
      have hubah : ¬s.db.SamaTabel (s.db.hapusUser q.post) := fun hsame =>
        s.db.login.rows_ne_of_deleted (haccount.mpr hakun) (congrArg (·.rows) hsame.login)
      have hreads : ∀ t ∈ [s], t = s := by simp
      exact .tercatat hreads hubah _ _ _ _ _ _
    · rename_i hakun
      have hlogin := Nat.eq_zero_of_not_pos (mt haccount.mp hakun)
      have hdb : s.db.hapusUser q.post = s.db := by
        unfold Db.hapusUser
        rw [s.db.login.delete_of_filter_eq_nil _ hlogin,
          s.db.pemakaian.delete_of_filter_eq_nil hnone]
      rw [hdb]
      exact .diam (by simp) rfl

theorem laporan_tarifAdd :
    Laporan s (urutanUbah php q s.db actor level "tarif_add") (hasilUbah q s.db "tarif_add")
      ((tarifAdd php actor level q.post).run exec s)
      ((tarifAdd php actor level q.post).issuedIn exec Op.keDatabase s) := by
  have hnumeric := run_numericColumn php s (q.post.get? "tarif")
  cases hfound : (q.post.get? "id_tarif").bind s.db.tarif.find? with
  | some t =>
    obtain ⟨id, hid, ht⟩ := Option.bind_eq_some_iff.mp hfound
    rw [run_tarifAdd_taken php actor level q.post s hid ht]
    simp only [urutanUbah, hid, Option.any_some, ht, Option.isNone_some, Bool.false_and,
      Bool.false_eq_true, if_false]
    refine .diam (fun t ht' => ?_) rfl
    unfold tarifAdd at ht'
    simp only [hid] at ht'
    rw [perform_bind, issuedIn_call_ok rfl] at ht'
    simpa [ht, Op.keDatabase] using ht'
  | none =>
    by_cases hbad : readOperand php (q.post.get? "tarif") = none ∨ q.post.get? "id_tarif" = none
    · have hnone : urutanUbah php q s.db actor level "tarif_add" = none := by
        rcases hbad with hbad | hbad <;> simp [urutanUbah, hbad]
      obtain ⟨galat, hrun⟩ := run_tarifAdd_rejected php actor level q.post s hfound hbad
      rw [hrun, hnone]
      refine .diam (fun t ht => ?_) rfl
      unfold tarifAdd at ht
      rw [perform_bind, issuedIn_call_ok rfl] at ht
      simp only [hfound, Option.toList_none, List.length_nil, if_true] at ht
      cases htarif : readOperand php (q.post.get? "tarif") with
      | none =>
        rw [htarif] at hnumeric
        rw [issuedIn_bind_error hnumeric, pernyataan_numericColumn, List.append_nil] at ht
        exact List.mem_singleton.mp ht
      | some tarif =>
        have hid : q.post.get? "id_tarif" = none := by simpa [htarif] using hbad
        rw [htarif] at hnumeric
        rw [issuedIn_bind_ok hnumeric, pernyataan_numericColumn, List.nil_append, hid, perform_bind,
          issuedIn_call_error rfl] at ht
        exact (List.mem_pair.mp ht).elim id id
    · rw [not_or] at hbad
      obtain ⟨tarif, htarif⟩ := Option.ne_none_iff_exists'.mp hbad.1
      obtain ⟨id, hid⟩ := Option.ne_none_iff_exists'.mp hbad.2
      have hfresh : s.db.tarif.find? id = none := by simpa [hid] using hfound
      obtain ⟨tarif', hrows, hexec⟩ := exec_insertTarif q.post s tarif hfresh
      have hubah : ¬s.db.SamaTabel { s.db with tarif := tarif' } := fun hsame =>
        s.db.tarif.ne_of_rows_append hrows hsame.tarif
      have hreads : ∀ t ∈ [s], t = s := by simp
      rw [htarif] at hnumeric
      simp only [urutanUbah, tarifAdd, hid, htarif, Option.any_some, hfresh, Option.isNone_none,
        Option.isSome_some, Bool.and_self, if_true]
      rw [perform_bind, run_call_ok exec rfl, issuedIn_call_ok rfl]
      simp only [Option.bind_some, hfresh, Option.toList_none, List.length_nil, if_true]
      rw [run_bind_ok exec hnumeric, issuedIn_bind_ok hnumeric, pernyataan_numericColumn,
        List.nil_append, perform_bind, run_call_ok exec hexec, issuedIn_call_ok hexec]
      exact .tercatat hreads hubah _ _ _ _ _ _

theorem laporan_tarifEdit :
    Laporan s (urutanUbah php q s.db actor level "tarif_edit") (hasilUbah q s.db "tarif_edit")
      ((tarifEdit php actor level q.post).run exec s)
      ((tarifEdit php actor level q.post).issuedIn exec Op.keDatabase s) := by
  have hnumeric := run_numericColumn php s (q.post.get? "tarif")
  cases htarif : readOperand php (q.post.get? "tarif") with
  | none =>
    rw [htarif] at hnumeric
    simp only [urutanUbah, htarif, Option.any_none]
    refine .diam (fun t ht => ?_) (by rw [run_tarifEdit_rejected php actor level q.post s htarif])
    unfold tarifEdit at ht
    rw [issuedIn_bind_error hnumeric, pernyataan_numericColumn] at ht
    cases ht
  | some tarif =>
    have hstates : (tarifEdit php actor level q.post).issuedIn exec Op.keDatabase s =
        s :: if 0 < s.db.tarif.changed (fun r => sqlEq (some r.idTarif) (q.post.get? "id_tarif_lama"))
          (Tarif.set (q.post.get? "tipe_tarif") tarif (q.post.get? "status")) then
          [s.setDb (s.db.ubahTarif q.post tarif)] else [] := by
      rw [htarif] at hnumeric
      unfold tarifEdit
      rw [issuedIn_bind_ok hnumeric, pernyataan_numericColumn, List.nil_append, perform_bind,
        issuedIn_call_ok rfl]
      exact congrArg (s :: ·) (issuedIn_ite (fun _ => rfl) fun _ => rfl)
    rw [run_tarifEdit php actor level q.post s htarif, hstates]
    simp only [urutanUbah, htarif, Option.any_some, decide_eq_true_eq]
    split
    · rename_i hchanged
      have hubah : ¬s.db.SamaTabel (s.db.ubahTarif q.post tarif) := fun hsame =>
        s.db.tarif.rows_ne_of_changed hchanged (congrArg (·.rows) hsame.tarif)
      exact .tercatat (List.forall_mem_nil _) hubah _ _ _ _ _ _
    · exact .diam (by simp) rfl

theorem laporan_tarifHapus :
    Laporan s (urutanUbah php q s.db actor level "tarif_hapus") (hasilUbah q s.db "tarif_hapus")
      ((tarifHapus actor level q.post).run exec s)
      ((tarifHapus actor level q.post).issuedIn exec Op.keDatabase s) := by
  have hstates : (tarifHapus actor level q.post).issuedIn exec Op.keDatabase s =
      s :: if 0 < (s.db.tarif.rows.filter
        fun r => sqlEq (some r.idTarif) (q.post.get? "id_tarif")).length then
        [s.setDb (s.db.hapusTarif q.post)] else [] := by
    unfold tarifHapus
    rw [perform_bind, issuedIn_call_ok rfl]
    exact congrArg (s :: ·) (issuedIn_ite (fun _ => rfl) fun _ => rfl)
  rw [run_tarifHapus, hstates]
  simp only [urutanUbah, ← filter_pos_iff]
  split
  · rename_i hfound
    have hubah : ¬s.db.SamaTabel (s.db.hapusTarif q.post) := fun hsame =>
      s.db.tarif.rows_ne_of_deleted hfound (congrArg (·.rows) hsame.tarif)
    exact .tercatat (List.forall_mem_nil _) hubah _ _ _ _ _ _
  · exact .diam (by simp) rfl

theorem locked_eq_terkunci (post : Form) :
    locked level (((s.db.pemakaianByNo ((post.get? "no").map php.intval)).map
      fun r => (r.tgl, r.status)).map Prod.fst) s.clock = s.terkunci php level post := by
  unfold Server.terkunci Db.nomor
  cases s.db.pemakaianByNo ((post.get? "no").map php.intval) <;> rfl

theorem laporan_meterHapus (hclock : s.clock = q.clock) :
    Laporan s (urutanUbah php q s.db actor level "meter_hapus") (hasilUbah q s.db "meter_hapus")
      ((meterHapus php actor level q.post).run exec s)
      ((meterHapus php actor level q.post).issuedIn exec Op.keDatabase s) := by
  have hstates : (meterHapus php actor level q.post).issuedIn exec Op.keDatabase s =
      s :: if s.terkunci php level q.post then [] else
        s :: if 0 < (s.db.pemakaian.rows.filter (Pemakaian.hasNo (Db.nomor php q.post))).length then
          [s.setDb (s.db.hapusMeter php q.post)] else [] := by
    unfold meterHapus
    rw [perform_bind, issuedIn_call_ok rfl, perform_bind, issuedIn_call_ok rfl,
      locked_eq_terkunci]
    refine congrArg (s :: ·) (issuedIn_ite (fun _ => rfl) fun _ => ?_)
    rw [perform_bind, issuedIn_call_ok rfl]
    exact congrArg (s :: ·) (issuedIn_ite (fun _ => rfl) fun _ => rfl)
  have hgate : locked level ((s.db.pemakaianByNo (Db.nomor php q.post)).map Pemakaian.tgl) q.clock =
      s.terkunci php level q.post := by
    rw [Server.terkunci, hclock]
  rw [hstates, run_meterHapus]
  simp only [urutanUbah, hgate, ← filter_pos_iff]
  cases s.terkunci php level q.post with
  | true => exact .diam (by simp) rfl
  | false =>
    simp only [Bool.false_eq_true, if_false, true_and]
    split
    · rename_i hfound
      have hubah : ¬s.db.SamaTabel (s.db.hapusMeter php q.post) := fun hsame =>
        s.db.pemakaian.rows_ne_of_deleted hfound (congrArg (·.rows) hsame.pemakaian)
      have hreads : ∀ t ∈ [s], t = s := by simp
      exact .tercatat hreads hubah _ _ _ _ _ _
    · exact .diam (by simp) rfl

theorem laporan_meterEdit (hclock : s.clock = q.clock) :
    Laporan s (urutanUbah php q s.db actor level "meter_edit") (hasilUbah q s.db "meter_edit")
      ((meterEdit php actor level q.post).run exec s)
      ((meterEdit php actor level q.post).issuedIn exec Op.keDatabase s) := by
  let reads : List Server :=
    s :: (List.replicate (jumlahTarif s.db (s.db.noToUser (Db.nomor php q.post))) s ++ [s])
  obtain ⟨tarif, htarif, hrate⟩ := run_idTarifToTarif s
    (s.db.userToIdtarif (s.db.noToUser (Db.nomor php q.post)))
  have hrate' : tarif.getD 0 = s.db.rate (s.db.noToUser (Db.nomor php q.post)) := hrate
  have hno : (q.post.get? "no").map php.intval = Db.nomor php q.post := rfl
  have hstates : (meterEdit php actor level q.post).issuedIn exec Op.keDatabase s =
      s :: if s.terkunci php level q.post then [] else reads ++
        match Reading.ofPost php q.post with
        | none => []
        | some b => if b.pemakaian < 0 then [] else
            s :: if 0 < s.db.pemakaian.changed (Pemakaian.hasNo (Db.nomor php q.post))
                (s.db.editRow php q.post b) then [s.setDb (s.db.ubahMeter php q.post b)] else [] := by
    unfold meterEdit
    rw [perform_bind, issuedIn_call_ok rfl, perform_bind, issuedIn_call_ok rfl,
      locked_eq_terkunci]
    refine congrArg (s :: ·) (issuedIn_ite (fun _ => rfl) fun _ => ?_)
    rw [hno, issuedIn_bind_ok (run_noToUser s _), issuedIn_bind_ok (run_userToIdtarif s _),
      issuedIn_bind_ok htarif, pernyataan_operands, pernyataan_noToUser,
      pernyataan_userToIdtarif, pernyataan_idTarifToTarif, List.singleton_append,
      ← List.append_assoc, ← List.cons_append]
    refine congrArg (reads ++ ·) ?_
    cases Reading.ofPost php q.post with
    | none => rfl
    | some b =>
      dsimp only
      rw [hrate']
      refine issuedIn_ite (fun _ => rfl) fun _ => ?_
      rw [perform_bind, issuedIn_call_ok rfl]
      exact congrArg (s :: ·) (issuedIn_ite (fun _ => rfl) fun _ => rfl)
  have hgate : locked level ((s.db.pemakaianByNo (Db.nomor php q.post)).map Pemakaian.tgl) q.clock =
      s.terkunci php level q.post := by
    rw [Server.terkunci, hclock]
  have hrate_reads := pernyataan_tarif_eq s (s.db.noToUser (Db.nomor php q.post))
  have hreads : ∀ t ∈ s :: reads, t = s :=
    List.forall_mem_cons.mpr ⟨rfl, List.forall_mem_cons.mpr ⟨rfl, hrate_reads⟩⟩
  have hcount : jumlahTarif s.db (s.db.noToUser (Db.nomor php q.post)) + 3 =
      (s :: reads).length := by
    simp [reads]
  rw [hstates, run_meterEdit]
  simp only [urutanUbah, bolehUbah, hgate]
  cases s.terkunci php level q.post with
  | true => exact .diam (by simp) rfl
  | false =>
    simp only [Bool.false_eq_true, if_false, Bool.not_false, Bool.true_and]
    cases Reading.ofPost php q.post with
    | none => exact .diam (by rwa [List.append_nil]) rfl
    | some b =>
      by_cases hneg : b.pemakaian < 0
      · simp only [hneg, not_le.mpr hneg, if_true, decide_false, Bool.false_and,
          Bool.false_eq_true, if_false]
        exact .diam (by rwa [List.append_nil]) rfl
      · simp only [hneg, not_lt.mp hneg, if_false, decide_true, Bool.true_and,
          decide_eq_true_eq]
        split
        · rename_i hchanged
          have hubah : ¬s.db.SamaTabel (s.db.ubahMeter php q.post b) := fun hsame =>
            s.db.pemakaian.rows_ne_of_changed hchanged (congrArg (·.rows) hsame.pemakaian)
          rw [hcount]
          exact .tercatat hreads hubah _ _ _ _ _ _
        · have hlast : ∀ t ∈ s :: (reads ++ [s]), t = s :=
            List.forall_mem_append.mpr ⟨hreads, List.forall_mem_singleton.mpr rfl⟩
          exact .diam hlast rfl

theorem laporan_meterAdd (hclock : s.clock = q.clock) :
    Laporan s (urutanUbah php q s.db actor level "meter_add") (hasilUbah q s.db "meter_add")
      ((meterAdd php actor level q.post).run exec s)
      ((meterAdd php actor level q.post).issuedIn exec Op.keDatabase s) := by
  let reads : List Server :=
    List.replicate (jumlahTarif s.db (q.post.get? "username")) s ++ [s]
  obtain ⟨tarif, htarif, hrate⟩ :=
    run_idTarifToTarif s (s.db.userToIdtarif (q.post.get? "username"))
  have hrate' : tarif.getD 0 = s.db.rate (q.post.get? "username") := hrate
  have hstates : (meterAdd php actor level q.post).issuedIn exec Op.keDatabase s = reads ++
      match Reading.ofPost php q.post with
      | none => []
      | some b => s :: if s.sudahDicatat (q.post.get? "username") then [] else
          if b.pemakaian < 0 then [] else
            [s, s.setDb (s.db.catatMeter q.post b s.clock.sql)] := by
    unfold meterAdd
    rw [issuedIn_bind_ok (run_userToIdtarif s _), issuedIn_bind_ok htarif, perform_bind,
      issuedIn_call_ok rfl, pernyataan_operands, pernyataan_userToIdtarif,
      pernyataan_idTarifToTarif, ← List.append_assoc]
    refine congrArg (reads ++ ·) ?_
    cases Reading.ofPost php q.post with
    | none => rfl
    | some b =>
      dsimp only
      rw [perform_bind, issuedIn_call_ok rfl, hrate']
      simp only [Server.sudahDicatat, decide_eq_true_eq]
      exact congrArg (s :: ·) (issuedIn_ite (fun _ => rfl) fun _ =>
        issuedIn_ite (fun _ => rfl) fun _ => rfl)
  have hrate_reads := pernyataan_tarif_eq s (q.post.get? "username")
  have hreads : ∀ t ∈ reads ++ [s], t = s :=
    List.forall_mem_append.mpr ⟨hrate_reads, List.forall_mem_singleton.mpr rfl⟩
  have hcount : jumlahTarif s.db (q.post.get? "username") + 2 = (reads ++ [s]).length := by
    simp [reads]
  rw [hstates, run_meterAdd]
  simp only [urutanUbah]
  cases hpost : Reading.ofPost php q.post with
  | none =>
    have hboleh : bolehCatat php q s.db = false := by
      simp only [bolehCatat, hpost]
    simp only [hboleh, Bool.false_eq_true, if_false, List.append_nil]
    exact .diam hrate_reads rfl
  | some b =>
    have hboleh : bolehCatat php q s.db =
        (!s.sudahDicatat (q.post.get? "username") && decide (0 ≤ b.pemakaian)) := by
      have hmonth (n : Nat) : decide (n = 0) = !decide (0 < n) := by
        cases n <;> simp
      simp only [bolehCatat, hpost, Server.sudahDicatat, hclock, hmonth]
    simp only [hboleh]
    cases s.sudahDicatat (q.post.get? "username") with
    | true => exact .diam hreads rfl
    | false =>
      by_cases hneg : b.pemakaian < 0
      · simp only [hneg, not_le.mpr hneg, Bool.false_eq_true, if_false, if_true, decide_false,
          Bool.and_false]
        exact .diam hreads rfl
      · have hubah : ¬s.db.SamaTabel
            (s.setDb (s.db.catatMeter q.post b s.clock.sql)).db := fun hsame =>
          s.db.pemakaian.ne_of_rows_append (s.db.rows_catatMeter q.post b s.clock.sql)
            (congrArg (·.toTable) hsame.pemakaian)
        simp only [hneg, not_lt.mp hneg, Bool.false_eq_true, if_false, Bool.not_false,
          decide_true, Bool.and_self, if_true]
        rw [List.append_cons reads s, hcount]
        exact .tercatat hreads hubah _ _ _ _ _ _

theorem pernyataan_uploadBukti_refused (post : Form) {file : Option Upload}
    (h : ∀ u ∈ file, u.diterima = false) :
    (uploadBukti php actor level post file).issuedIn exec Op.keDatabase s = [] := by
  unfold uploadBukti
  cases file with
  | none => rfl
  | some upload =>
    have hrefused := h upload rfl
    dsimp only
    split
    · rename_i hok
      split
      · rfl
      · rename_i hext
        split
        · rfl
        · rename_i hsize
          have hmoved : upload.moved = false := by
            rw [not_not] at hext
            simpa [Upload.diterima, hok, Nat.not_lt.mp hsize, hext] using hrefused
          rw [perform_bind, issuedIn_call_ok rfl, perform_bind, issuedIn_call_ok rfl, hmoved]
          rfl
    · rfl

theorem laporan_uploadBukti (hclock : s.clock = q.clock) :
    Laporan s (urutanUbah php q s.db actor level "upload_bukti") (hasilUbah q s.db "upload_bukti")
      ((uploadBukti php actor level q.post q.file).run exec s)
      ((uploadBukti php actor level q.post q.file).issuedIn exec Op.keDatabase s) := by
  by_cases hkept : ∃ upload ∈ q.file, upload.diterima = true
  · obtain ⟨upload, hfile, hkept⟩ := hkept
    rw [Option.mem_def] at hfile
    let tersimpan : Server :=
      { s with berkas := (namaBukti php q.post upload s.clock, upload.content) :: s.berkas }
    let core : Server := tersimpan.setDb
      (s.db.setBukti actor (namaBukti php q.post upload s.clock) (nomorBukti php q.post))
    have hstates : (uploadBukti php actor level q.post (some upload)).issuedIn exec Op.keDatabase
        s = [tersimpan, core] := by
      have hparts := hkept
      simp only [Upload.diterima, Bool.and_eq_true, decide_eq_true_eq] at hparts
      obtain ⟨⟨⟨hok, hext⟩, hsize⟩, hmoved⟩ := hparts
      unfold uploadBukti
      dsimp only
      rw [if_pos hok, if_neg (not_not.mpr hext), if_neg (Nat.not_lt.mpr hsize), perform_bind,
        issuedIn_call_ok rfl, perform_bind, issuedIn_call_ok rfl, hmoved]
      rfl
    rw [hfile, hstates, run_uploadBukti_kept php actor level q.post s hkept]
    simp only [urutanUbah, hfile, Option.any_some, hkept, Bool.true_and, decide_eq_true_eq,
      ← hclock]
    split
    · rename_i hchanged
      have hubah : ¬s.db.SamaTabel core.db := fun hsame =>
        s.db.pemakaian.rows_ne_of_changed hchanged (congrArg (·.rows) hsame.pemakaian)
      exact
        { beralih := switchesAt_zero (Db.SamaTabel.refl s.db)
            (List.forall_mem_singleton.mpr hubah)
          akhir := iff_of_false
            (fun hsame => hubah ⟨hsame.login, hsame.tarif, hsame.pemakaian⟩) (Option.some_ne_none _)
          jawab := fun _ => rfl }
    · rename_i hchanged
      -- The row has this evidence already: the audit entry is all that is written.
      have hsame : s.db.SamaTabel core.db :=
        ⟨rfl, rfl, s.db.pemakaian.update_of_changed_eq_zero _ (Nat.eq_zero_of_not_pos hchanged)⟩
      have hstates_same : ∀ t ∈ [tersimpan, core], s.db.SamaTabel t.db :=
        List.forall_mem_cons.mpr ⟨Db.SamaTabel.refl s.db, List.forall_mem_singleton.mpr hsame⟩
      exact .utuh hstates_same ⟨hsame.login, hsame.tarif, hsame.pemakaian⟩
  · have hrefused : ∀ upload ∈ q.file, upload.diterima = false := by
      push Not at hkept
      exact fun upload hfile => Bool.eq_false_of_not_eq_true (hkept upload hfile)
    obtain ⟨hasil, -, hrun⟩ := run_uploadBukti_refused php actor level q.post s hrefused
    have hnone : urutanUbah php q s.db actor level "upload_bukti" = none := by
      simp only [urutanUbah, ite_eq_right_iff, reduceCtorEq, imp_false, Bool.not_eq_true]
      cases hfile : q.file with
      | none => rfl
      | some upload => simp [hrefused upload hfile]
    rw [hrun, hnone]
    refine .diam (fun t ht => ?_) rfl
    rw [pernyataan_uploadBukti_refused php actor level s q.post hrefused] at ht
    cases ht

theorem laporan_dispatch (tombol : String) (hclock : s.clock = q.clock) :
    Laporan s (urutanUbah php q s.db actor level tombol) (hasilUbah q s.db tombol)
      ((dispatch php q actor level tombol).run exec s)
      ((dispatch php q actor level tombol).issuedIn exec Op.keDatabase s) := by
  unfold dispatch
  split
  · exact laporan_userAdd php q actor level s
  · exact laporan_userEdit php q actor level s
  · exact laporan_userHapus php q actor level s
  · exact laporan_tarifAdd php q actor level s
  · exact laporan_tarifEdit php q actor level s
  · exact laporan_tarifHapus php q actor level s
  · exact laporan_meterAdd php q actor level s hclock
  · exact laporan_meterEdit php q actor level s hclock
  · exact laporan_uploadBukti php q actor level s hclock
  · exact laporan_meterHapus php q actor level s hclock
  · exact laporan_profilEdit php q actor level s
  · have hnone : urutanUbah php q s.db actor level tombol = none := by
      unfold urutanUbah
      split <;> first | contradiction | rfl
    rw [hnone]
    exact .diam nofun rfl

end Handlers

/-! ## The page -/

def Kueri.Membaca : (β : Type) → Kueri β → Prop
  | _, .ubah _ => False
  | _, .baca _ => True
  | _, .ingat _ => True

theorem membaca_utuh {β : Type} (k : Kueri β) (s : Server) (answer : β) (s' : Server)
    (hk : k.Membaca) (h : execKueri _ k s = .ok (answer, s')) : s' = s := by
  cases k with
  | ubah op => exact hk.elim
  | baca select =>
    cases h
    rfl
  | ingat nilai =>
    cases h
    rfl

theorem membaca_baca {α β : Type} (select : Select β) {f : β → Permintaan α}
    (hf : ∀ answer, (f answer).Only Kueri.Membaca) : (baca select >>= f).Only Kueri.Membaca :=
  ⟨trivial, hf⟩

theorem membaca_suntikPost (php : Php) (q : Request) (v : Variabel) :
    (suntikPost php q v).Only Kueri.Membaca := by
  unfold suntikPost
  split
  · exact ⟨trivial, fun _ => trivial⟩
  · trivial

theorem membaca_suntikGet (php : Php) (q : Request) (v : Variabel) :
    (suntikGet php q v).Only Kueri.Membaca := by
  unfold suntikGet
  split
  · exact membaca_baca _ fun _ => trivial
  · exact membaca_baca _ fun _ => trivial
  · exact membaca_baca _ fun _ => membaca_baca _ fun _ => trivial
  · trivial

theorem membaca_barisMeterSemua (l : Latar) (rows : List BarisMeter) :
    (barisMeterSemua l rows).Only Kueri.Membaca := by
  induction rows with
  | nil => trivial
  | cons r rows ih => exact membaca_baca _ fun _ => ih.bind fun _ => trivial

theorem membaca_templat (kalender : Kalender) (l : Latar) (v : Variabel) :
    (templat kalender l v).Only Kueri.Membaca := by
  have huser : (userList l).Only Kueri.Membaca := by
    unfold userList
    split
    · exact membaca_baca _ fun _ => trivial
    · trivial
  have htarif : (tarifList l).Only Kueri.Membaca := by
    unfold tarifList
    split
    · exact membaca_baca _ fun _ => trivial
    · trivial
  have hmeter : (meterList l).Only Kueri.Membaca := by
    unfold meterList
    split
    · exact membaca_baca _ fun rows => (membaca_barisMeterSemua l rows).bind fun _ => trivial
    · trivial
  have hform : (meterFormPage l v).Only Kueri.Membaca :=
    membaca_baca _ fun _ => membaca_baca _ fun _ => trivial
  have hwarga : (wargaList l).Only Kueri.Membaca :=
    membaca_baca _ fun _ => membaca_baca _ fun _ => trivial
  have hprofil : (settings l).Only Kueri.Membaca := membaca_baca _ fun _ => trivial
  have hlog : (activityLog kalender l).Only Kueri.Membaca := by
    unfold activityLog
    split
    · exact membaca_baca _ fun _ => trivial
    · trivial
  exact huser.bind fun _ => htarif.bind fun _ => hmeter.bind fun _ => hform.bind fun _ =>
    hwarga.bind fun _ => hprofil.bind fun _ => hlog.bind fun _ => trivial

theorem pernyataan_angkat {α : Type} (p : Aksi α) (s : Server) :
    (Aksi.angkat p).issuedIn execKueri Kueri.keDatabase s = p.issuedIn exec Op.keDatabase s :=
  issuedIn_lift Kueri.ubah (fun _ _ => rfl) (fun _ => rfl) p s

theorem pernyataan_dtUser (s : Server) (actor : String) :
    (dtUser actor).issuedIn exec Op.keDatabase s = [s] := by
  unfold dtUser
  rw [perform_bind, issuedIn_call_ok rfl]
  cases s.db.akun actor <;> rfl

section Request
variable (naskah : Naskah) (kalender : Kalender) (php : Php) (q : Request) (sesi : Session)
variable {actor : String} (token : String)

theorem pernyataan_noLevel (s : Server) (h : s.db.akun actor = none) :
    (loginIndexPenuh naskah kalender php q sesi actor token).issuedIn execKueri Kueri.keDatabase s =
      [s] := by
  unfold loginIndexPenuh
  rw [issuedIn_bind_ok ((run_angkat _ s).trans (run_dtUser s actor)), pernyataan_angkat,
    pernyataan_dtUser]
  simp only [h]
  rfl

theorem pernyataan_loginIndexPenuh (s : Server) {a : Login} (h : s.db.akun actor = some a) :
    ∃ cetak : List Server,
      (∀ t ∈ cetak, t = ((tangani php q actor a.level token).run exec s).2) ∧
      (loginIndexPenuh naskah kalender php q sesi actor token).issuedIn execKueri
        Kueri.keDatabase s =
        [s] ++ ((tangani php q actor a.level token).issuedIn exec Op.keDatabase s ++ cetak) := by
  unfold loginIndexPenuh
  rw [issuedIn_bind_ok ((run_angkat _ s).trans (run_dtUser s actor)), pernyataan_angkat,
    pernyataan_dtUser]
  simp only [h, Option.map_some, Option.bind_some]
  cases hout : (tangani php q actor a.level token).run exec s with
  | mk answer s' =>
    cases answer with
    | error galat =>
      refine ⟨[], nofun, ?_⟩
      rw [issuedIn_bind_error ((run_angkat _ s).trans hout), pernyataan_angkat, List.append_nil]
    | ok hasil =>
      rw [issuedIn_bind_ok ((run_angkat _ s).trans hout), pernyataan_angkat]
      refine ⟨_, ?_, rfl⟩
      refine Only.issuedIn (P := Kueri.Membaca) membaca_utuh ?_
      cases hasil with
      | halaman pesan =>
        dsimp only
        split
        · trivial
        · exact (membaca_suntikPost php q _).bind fun _ =>
            (membaca_suntikGet php q _).bind fun v =>
              (membaca_templat kalender _ v).bind fun _ => trivial
      | _ => trivial

end Request

/-! ## One request -/

/-- A request to login/index.php, and the number of its statement that raises an
exception, if one does. -/
structure Gangguan where
  q : Request
  galat : Galat
  rusak : Option Nat

section Gangguan
variable (naskah : Naskah) (kalender : Kalender) (php : Php) (w : World) (r : Gangguan)

/-- Where the exception is raised, if the request gets there. -/
def Gangguan.gugur : Option Nat :=
  r.rusak.filter (· < (kueriRequest naskah kalender php w r.q).length)

def stepRusak : World :=
  match r.q.page with
  | .loginIndex => (handleLoginIndexRusak naskah kalender php w r.q r.galat r.rusak).2
  | _ => step php w r.q

/-- A request that fails leaves the three tables as they are. -/
def TanpaBekas : Prop :=
  r.q.page = .loginIndex →
    gagal (handleLoginIndexRusak naskah kalender php w r.q r.galat r.rusak).1 = true →
    w.db.SamaTabel (handleLoginIndexRusak naskah kalender php w r.q r.galat r.rusak).2.db

/-- A handler that changes a table: no statement behind the change raises an exception,
user_hapus finds the account, and the page printed after tarif_add and tarif_hapus is not
one the actor is refused. -/
def Aman : Prop :=
  ∀ actor level tombol n, Authorized w r.q actor level tombol →
    urutanUbah php r.q w.db actor level tombol = some n →
    match r.gugur naskah kalender php w with
    | some k => k ≤ n + 1
    | none =>
      (tombol = "user_hapus" → ((r.q.post.get? "yuser").bind w.db.akun).isSome) ∧
      (tombol ∈ ["tarif_add", "tarif_hapus"] → pageRefused level (r.q.query.get? "p") = false)

end Gangguan

section Step
variable (naskah : Naskah) (kalender : Kalender) (php : Php) {w : World} {q : Request}
variable {actor tombol : String} {level : Level}

theorem handleLoginIndexRusak_none (galat : Galat) :
    handleLoginIndexRusak naskah kalender php w q galat none = handleLoginIndex php w q := by
  cases hnamed : isEmpty (w.session q.sid).user with
  | true => simp [handleLoginIndexRusak, handleLoginIndex, hnamed]
  | false =>
    cases hidle : idle (w.session q.sid) q.clock.time with
    | true => simp [handleLoginIndexRusak, handleLoginIndex, hnamed, hidle]
    | false =>
      have hrefines := loginIndexPenuh_refines naskah kalender php q
        { w.session q.sid with lastActivity := some q.clock.time }
        (ensureToken (w.session q.sid).csrfToken q.token)
        (orEmpty (w.session q.sid).user) { w.server with clock := q.clock }
      simp only [Prod.ext_iff] at hrefines
      obtain ⟨hanswer, hserver⟩ := hrefines
      simp only [handleLoginIndexRusak, handleLoginIndex, hnamed, hidle, Bool.false_eq_true,
        if_false, run_faulty_none]
      rw [← hanswer, ← hserver]

theorem gagal_hasilUbah_iff {n : Nat} (db : Db) (hrole : roleRefused level tombol = false)
    (hubah : urutanUbah php q db actor level tombol = some n) :
    (render level q (hasilUbah q db tombol)).gagal = false ↔
      (tombol = "user_hapus" → ((q.post.get? "yuser").bind db.akun).isSome) ∧
      (tombol ∈ ["tarif_add", "tarif_hapus"] → pageRefused level (q.query.get? "p") = false) := by
  have hrender (pesan : Option Pesan) (hpesan : (Hasil.halaman pesan).gagal = false) :
      (render level q (.halaman pesan)).gagal = pageRefused level (q.query.get? "p") := by
    simp only [render]
    cases pageRefused level (q.query.get? "p") with
    | true => rfl
    | false => exact hpesan
  unfold hasilUbah
  split
  · have hadmin := admin_of_role hrole (by decide)
    have hopen : pageRefused level (q.query.get? "p") = false := by
      simp [pageRefused, hadmin]
    rw [hrender _ rfl, hopen]
    simp
  · exact iff_of_true rfl (by simp)
  · cases ((q.post.get? "yuser").bind db.akun).isSome with
    | true => exact iff_of_true rfl (by simp)
    | false => exact iff_of_false (by simp [render, Hasil.gagal]) (by simp)
  · rw [hrender _ rfl]
    simp
  · exact iff_of_true rfl (by simp)
  · rw [hrender _ rfl]
    simp
  · exact iff_of_true rfl (by simp)
  · exact iff_of_true rfl (by simp)
  · exact iff_of_true rfl (by simp)
  · exact iff_of_true rfl (by simp)
  · exact iff_of_true rfl (by simp)
  · have hnone : urutanUbah php q db actor level tombol = none := by
      unfold urutanUbah
      split <;> first | contradiction | rfl
    rw [hnone] at hubah
    cases hubah

theorem handleLoginIndexRusak_open (huser : (w.session q.sid).user = some actor)
    (hnamed : isEmpty (some actor) = false)
    (hactive : idle (w.session q.sid) q.clock.time = false) (galat : Galat) (rusak : Option Nat) :
    let p := loginIndexPenuh naskah kalender php q
      { w.session q.sid with lastActivity := some q.clock.time } actor (w.csrfToken q)
    let out := p.run (faulty galat Kueri.keDatabase execKueri) (w.opened q, rusak)
    (handleLoginIndexRusak naskah kalender php w q galat rusak).1 = out.1.map Prod.fst ∧
      (handleLoginIndexRusak naskah kalender php w q galat rusak).2.server = out.2.1 ∧
      kueriRequest naskah kalender php w q =
        p.issuedIn execKueri Kueri.keDatabase (w.opened q) := by
  have hactor : orEmpty (w.session q.sid).user = actor := by
    rw [huser]
    rfl
  unfold handleLoginIndexRusak kueriRequest
  rw [← huser] at hnamed
  simp only [hnamed, hactive, hactor, Bool.false_eq_true, if_false]
  exact ⟨rfl, rfl, rfl⟩

theorem kueriRequest_cases (w : World) (q : Request) :
    (kueriRequest naskah kalender php w q = [] ∧ ∀ galat rusak,
      handleLoginIndexRusak naskah kalender php w q galat rusak = handleLoginIndex php w q) ∨
    ∃ actor, (w.session q.sid).user = some actor ∧ isEmpty (some actor) = false ∧
      idle (w.session q.sid) q.clock.time = false := by
  cases hnamed : isEmpty (w.session q.sid).user with
  | true => exact .inl (by simp [kueriRequest, handleLoginIndexRusak, handleLoginIndex, hnamed])
  | false =>
    cases hidle : idle (w.session q.sid) q.clock.time with
    | true =>
      exact .inl (by simp [kueriRequest, handleLoginIndexRusak, handleLoginIndex, hnamed, hidle])
    | false =>
      cases huser : (w.session q.sid).user with
      | none => simp [huser, isEmpty] at hnamed
      | some actor => exact .inr ⟨actor, rfl, huser ▸ hnamed, rfl⟩

/-- The exception ends the request where the statement was issued; without one it is
`handleLoginIndex`. -/
theorem rusak_cases (w : World) (r : Gangguan) :
    (∃ k t, r.gugur naskah kalender php w = some k ∧
      (kueriRequest naskah kalender php w r.q)[k]? = some t ∧
      (handleLoginIndexRusak naskah kalender php w r.q r.galat r.rusak).1 = .error r.galat ∧
      (handleLoginIndexRusak naskah kalender php w r.q r.galat r.rusak).2.server = t) ∨
    (r.gugur naskah kalender php w = none ∧
      (handleLoginIndexRusak naskah kalender php w r.q r.galat r.rusak).1 =
        (handleLoginIndex php w r.q).1 ∧
      (handleLoginIndexRusak naskah kalender php w r.q r.galat r.rusak).2.server =
        (handleLoginIndex php w r.q).2.server) := by
  have hsound := handleLoginIndexRusak_none naskah kalender php (w := w) (q := r.q) r.galat
  cases hrusak : r.rusak with
  | none => exact .inr ⟨by simp [Gangguan.gugur, hrusak], by rw [hsound], by rw [hsound]⟩
  | some k =>
    rcases kueriRequest_cases naskah kalender php w r.q with
      ⟨hnone, hsame⟩ | ⟨actor, huser, hnamed, hactive⟩
    · refine .inr ⟨?_, by rw [hsame], by rw [hsame]⟩
      simp [Gangguan.gugur, hrusak, hnone]
    · obtain ⟨hanswer, hserver, hstates⟩ := handleLoginIndexRusak_open naskah kalender php huser
        hnamed hactive r.galat (some k)
      by_cases hlt : k < (kueriRequest naskah kalender php w r.q).length
      · obtain ⟨t, ht⟩ : ∃ t, (kueriRequest naskah kalender php w r.q)[k]? = some t :=
          ⟨_, List.getElem?_eq_getElem hlt⟩
        have hissued := ht
        rw [hstates] at hissued
        rw [run_faulty_some _ _ _ _ hissued] at hanswer hserver
        refine .inl ⟨k, t, ?_, ht, hanswer, hserver⟩
        simp [Gangguan.gugur, hrusak, hlt]
      · rw [Nat.not_lt] at hlt
        have hbeyond := hlt
        rw [hstates] at hbeyond
        obtain ⟨j, hrun⟩ := run_faulty_beyond r.galat Kueri.keDatabase execKueri _ hbeyond
        obtain ⟨hanswer', hserver', -⟩ := handleLoginIndexRusak_open naskah kalender php huser
          hnamed hactive r.galat none
        rw [run_faulty_none, hsound] at hanswer' hserver'
        rw [hrun] at hanswer hserver
        refine .inr ⟨?_, hanswer.trans hanswer'.symm, hserver.trans hserver'.symm⟩
        simp [Gangguan.gugur, hrusak, hlt]

theorem tangani_of_authorized (hauth : Authorized w q actor level tombol) :
    tangani php q actor level (w.csrfToken q) = dispatch php q actor level tombol := by
  simp [tangani, hauth.asks, hauth.token, hauth.role]

theorem pernyataan_of_authorized (hauth : Authorized w q actor level tombol) :
    ∃ cetak : List Server,
      (∀ t ∈ cetak, t = ((dispatch php q actor level tombol).run exec (w.opened q)).2) ∧
      kueriRequest naskah kalender php w q = [w.opened q] ++
        ((dispatch php q actor level tombol).issuedIn exec Op.keDatabase (w.opened q) ++ cetak) := by
  obtain ⟨a, hakun, hlevel⟩ := Option.map_eq_some_iff.mp hauth.hasLevel
  obtain ⟨cetak, hcetak, hissued⟩ := pernyataan_loginIndexPenuh naskah kalender php q
    { w.session q.sid with lastActivity := some q.clock.time } (w.csrfToken q) (w.opened q) hakun
  obtain ⟨-, -, hstates⟩ := handleLoginIndexRusak_open naskah kalender php hauth.user hauth.named
    hauth.active .typeError none
  rw [hlevel, tangani_of_authorized php hauth] at hcetak hissued
  exact ⟨cetak, hcetak, hstates.trans hissued⟩

theorem pernyataan_of_not_authorized
    (h : ∀ actor level tombol, ¬Authorized w q actor level tombol) (hpage : q.page = .loginIndex) :
    ∀ t ∈ kueriRequest naskah kalender php w q, t = w.opened q := by
  rcases kueriRequest_cases naskah kalender php w q with
    ⟨hnone, -⟩ | ⟨actor, huser, hnamed, hactive⟩
  · rw [hnone]
    exact nofun
  · obtain ⟨-, -, hstates⟩ := handleLoginIndexRusak_open naskah kalender php huser hnamed
      hactive .typeError none
    rw [hstates]
    cases hakun : (w.opened q).db.akun actor with
    | none =>
      rw [pernyataan_noLevel naskah kalender php q _ _ _ hakun]
      exact List.forall_mem_singleton.mpr rfl
    | some a =>
      obtain ⟨cetak, hcetak, hissued⟩ := pernyataan_loginIndexPenuh naskah kalender php q
        { w.session q.sid with lastActivity := some q.clock.time } (w.csrfToken q) (w.opened q)
        hakun
      obtain ⟨hasil, hpure⟩ : ∃ hasil, tangani php q actor a.level (w.csrfToken q) = pure hasil := by
        unfold tangani
        cases htombol : q.tombol with
        | none => exact ⟨_, rfl⟩
        | some tombol =>
          dsimp only
          split
          · exact ⟨_, rfl⟩
          split
          · exact ⟨_, rfl⟩
          · rename_i htoken hrole
            have hlevel : w.db.levelOf (some actor) = some a.level :=
              congrArg (Option.map Login.level) hakun
            exact absurd
              { page := hpage
                user := huser
                named := hnamed
                active := hactive
                hasLevel := hlevel
                asks := htombol
                token := Bool.eq_false_of_not_eq_true htoken
                role := Bool.eq_false_of_not_eq_true hrole } (h actor a.level tombol)
      rw [hpure] at hcetak hissued
      rw [hissued]
      exact List.forall_mem_cons.mpr ⟨rfl, hcetak⟩

theorem aman_iff_of_authorized {r : Gangguan} (hauth : Authorized w r.q actor level tombol) :
    Aman naskah kalender php w r ↔ ∀ n ∈ urutanUbah php r.q w.db actor level tombol,
      match r.gugur naskah kalender php w with
      | some k => k ≤ n + 1
      | none => (render level r.q (hasilUbah r.q w.db tombol)).gagal = false := by
  constructor
  · intro h n hubah
    have hn := h actor level tombol n hauth hubah
    cases hgugur : r.gugur naskah kalender php w with
    | some k => simpa only [hgugur] using hn
    | none =>
      simp only [hgugur] at hn
      exact (gagal_hasilUbah_iff php w.db hauth.role hubah).mpr hn
  · intro h actor' level' tombol' n hauth' hubah
    obtain ⟨rfl, rfl, rfl⟩ := hauth.unique hauth'
    have hn := h n hubah
    cases hgugur : r.gugur naskah kalender php w with
    | some k => simpa only [hgugur] using hn
    | none =>
      simp only [hgugur] at hn
      exact (gagal_hasilUbah_iff php w.db hauth.role hubah).mp hn

theorem tanpaBekas_iff_of_authorized {r : Gangguan} (hauth : Authorized w r.q actor level tombol) :
    TanpaBekas naskah kalender php w r ↔ Aman naskah kalender php w r := by
  have hlaporan := laporan_dispatch php r.q actor level (w.opened r.q) tombol rfl
  obtain ⟨cetak, hcetak, hstates⟩ := pernyataan_of_authorized naskah kalender php hauth
  rw [aman_iff_of_authorized naskah kalender php hauth]
  unfold TanpaBekas
  rcases rusak_cases naskah kalender php w r with
    ⟨k, t, hgugur, ht, hanswer, hserver⟩ | ⟨hgugur, hanswer, hserver⟩
  · -- The statement that raises was issued in a state of the run without exceptions.
    have hswitch : SwitchesAt (fun t : Server => w.db.SamaTabel t.db)
        ((urutanUbah php r.q w.db actor level tombol).map (1 + ·))
        (kueriRequest naskah kalender php w r.q) := by
      have hopened : ∀ t ∈ [w.opened r.q], w.db.SamaTabel t.db :=
        List.forall_mem_singleton.mpr (Db.SamaTabel.refl w.db)
      rw [hstates]
      refine .prepend hopened (hlaporan.beralih.append fun t ht => ?_)
      rw [hcetak t ht]
      exact hlaporan.akhir
    have hsame : w.db.SamaTabel t.db ↔
        ∀ n ∈ urutanUbah php r.q w.db actor level tombol, k ≤ n + 1 := by
      rw [hswitch.same_iff k t ht]
      simp [Nat.add_comm 1]
    simp only [hgugur, hanswer]
    have hdb : (handleLoginIndexRusak naskah kalender php w r.q r.galat r.rusak).2.db = t.db :=
      congrArg Server.db hserver
    rw [hdb, hsame]
    exact ⟨fun h => h hauth.page rfl, fun h _ _ => h⟩
  · obtain ⟨hout, hleft⟩ := handleLoginIndex_of_authorized php hauth
    have hdb : (handleLoginIndexRusak naskah kalender php w r.q r.galat r.rusak).2.db =
        ((dispatch php r.q actor level tombol).run exec (w.opened r.q)).2.db :=
      congrArg Server.db (hserver.trans hleft)
    have hakhir : w.db.SamaTabel ((dispatch php r.q actor level tombol).run exec (w.opened r.q)).2.db
        ↔ urutanUbah php r.q w.db actor level tombol = none := hlaporan.akhir
    simp only [hdb, hanswer, hout, hgugur, hakhir]
    cases hubah : urutanUbah php r.q w.db actor level tombol with
    | none => exact iff_of_true (fun _ _ => rfl) nofun
    | some n =>
      have hjawab := hlaporan.jawab (by simp [hubah])
      rw [hjawab]
      simp [Except.map, gagal, hauth.page]

theorem samaTabel_of_not_authorized {r : Gangguan}
    (h : ∀ actor level tombol, ¬Authorized w r.q actor level tombol)
    (hpage : r.q.page = .loginIndex) :
    w.db.SamaTabel (handleLoginIndexRusak naskah kalender php w r.q r.galat r.rusak).2.db := by
  have hopened (hserver : (handleLoginIndexRusak naskah kalender php w r.q r.galat
      r.rusak).2.server = w.opened r.q) :
      w.db.SamaTabel (handleLoginIndexRusak naskah kalender php w r.q r.galat r.rusak).2.db := by
    have hdb : (handleLoginIndexRusak naskah kalender php w r.q r.galat r.rusak).2.db =
        (w.opened r.q).db := congrArg Server.db hserver
    rw [hdb]
    exact Db.SamaTabel.refl w.db
  rcases rusak_cases naskah kalender php w r with ⟨k, t, -, ht, -, hserver⟩ | ⟨-, -, hserver⟩
  · have hsame := pernyataan_of_not_authorized naskah kalender php h hpage t
      (List.mem_of_getElem? ht)
    exact hopened (hserver.trans hsame)
  · rcases loginIndex_cases php hpage with ⟨hasil, -, -, hstep⟩ | ⟨actor, level, tombol, hauth⟩
    · simp only [step, handle, hpage] at hstep
      exact hopened (hserver.trans hstep)
    · exact absurd hauth (h actor level tombol)

theorem tanpaBekas_iff (w : World) (r : Gangguan) :
    TanpaBekas naskah kalender php w r ↔ Aman naskah kalender php w r := by
  by_cases h : ∃ actor level tombol, Authorized w r.q actor level tombol
  · obtain ⟨actor, level, tombol, hauth⟩ := h
    exact tanpaBekas_iff_of_authorized naskah kalender php hauth
  · push Not at h
    exact iff_of_true (fun hpage _ => samaTabel_of_not_authorized naskah kalender php h hpage)
      fun actor level tombol n hauth => absurd hauth (h actor level tombol)

end Step

/-! ## Whole runs -/

def Request.lancar (q : Request) : Gangguan := ⟨q, .typeError, none⟩

theorem run_lancar (naskah : Naskah) (kalender : Kalender) (php : Php) (w : World)
    (qs : List Request) :
    Trace.run (stepRusak naskah kalender php) w (qs.map Request.lancar) = serve php w qs := by
  induction qs generalizing w with
  | nil => rfl
  | cons q qs ih =>
    have hstep : stepRusak naskah kalender php w q.lancar = step php w q := by
      unfold stepRusak
      cases hpage : q.page with
      | loginIndex =>
        simp only [Request.lancar, hpage, handleLoginIndexRusak_none, step, handle]
      | _ => simp only [Request.lancar, hpage]
    rw [List.map_cons, Trace.run_cons, hstep, ih]
    rfl

/-- The failing requests of a run leave the three tables alone if and only if no exception
comes behind the first change of a handler, user_hapus is sent for accounts only, and no
change of a tariff asks for a page that its sender is refused. -/
theorem failures_leave_tables_iff (naskah : Naskah) (kalender : Kalender) (php : Php) (w : World)
    (rs : List Gangguan) :
    Trace.Admissible (TanpaBekas naskah kalender php) (stepRusak naskah kalender php) w rs ↔
      Trace.Admissible (Aman naskah kalender php) (stepRusak naskah kalender php) w rs :=
  Trace.admissible_congr (tanpaBekas_iff naskah kalender php)

def kantorBerjalan : List Request := kantor ++ [catatSepuluh "budi"]

def hapusBudi : Request := ajukan 0 hariBuka "user_hapus" [("yuser", "budi")]

/-- user_hapus of a name without an account reports a failure and takes its reading; where
the second of its statements raises, the reading goes and the account stays. -/
theorem failures_leave_tables_violated :
    ¬Trace.Admissible (TanpaBekas Naskah.kosong ⟨fun _ => ""⟩ .decimal)
        (stepRusak Naskah.kosong ⟨fun _ => ""⟩ .decimal) World.pertama
        ((catatHantu ++ [hapusHantu]).map Request.lancar) ∧
      ¬Trace.Admissible (TanpaBekas Naskah.kosong ⟨fun _ => ""⟩ .decimal)
        (stepRusak Naskah.kosong ⟨fun _ => ""⟩ .decimal) World.pertama
        (kantorBerjalan.map Request.lancar ++ [⟨hapusBudi, .typeError, some 2⟩]) := by
  constructor
  · intro h
    obtain ⟨hauth, hubah⟩ : Authorized (serve .decimal World.pertama catatHantu) hapusHantu "admin"
        .admin "user_hapus" ∧
        urutanUbah .decimal hapusHantu (serve .decimal World.pertama catatHantu).db "admin" .admin
          "user_hapus" = some 0 := by
      decide +kernel
    rw [List.map_append, List.map_singleton] at h
    have hlast := h.last
    rw [run_lancar, tanpaBekas_iff] at hlast
    have hakun := (hlast _ _ _ _ hauth hubah).1 rfl
    exact absurd hakun (by decide +kernel)
  · intro h
    obtain ⟨hauth, hubah, hgugur⟩ :
        Authorized (serve .decimal World.pertama kantorBerjalan) hapusBudi "admin" .admin
          "user_hapus" ∧
        urutanUbah .decimal hapusBudi (serve .decimal World.pertama kantorBerjalan).db "admin" .admin
          "user_hapus" = some 0 ∧
        Gangguan.gugur Naskah.kosong ⟨fun _ => ""⟩ .decimal
          (serve .decimal World.pertama kantorBerjalan) ⟨hapusBudi, .typeError, some 2⟩ = some 2 := by
      decide +kernel
    have hlast := h.last
    rw [run_lancar, tanpaBekas_iff] at hlast
    have hplace := hlast _ _ _ _ hauth hubah
    simp only [hgugur] at hplace
    exact absurd hplace (by decide)

end SistemAir
