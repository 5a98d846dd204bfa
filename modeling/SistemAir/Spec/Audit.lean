import SistemAir.Spec.Change

/-! The audit log against the tables it is about: what each handler reports, what
it changes and what it logs, side by side. -/
namespace SistemAir

open KeyedTable StatementProgram Prog

structure Db.SamaTabel (db db' : Db) : Prop where
  login : db'.login = db.login
  tarif : db'.tarif = db.tarif
  pemakaian : db'.pemakaian = db.pemakaian

theorem Db.SamaTabel.refl (db : Db) : db.SamaTabel db := ⟨rfl, rfl, rfl⟩

def tabelTarget (tombol : String) : String :=
  if tombol ∈ ["user_add", "user_edit", "user_hapus", "profil_edit"] then "login"
  else if tombol ∈ aksiAdminBendahara then "tarif"
  else "pemakaian"

structure AuditLog.Menyebut (e : AuditLog) (actor : String) (level : Level) (tombol : String) :
    Prop where
  actorUsername : e.actorUsername = actor
  actorLevel : e.actorLevel = level
  aksi : e.aksi = tombol
  tabelTarget : e.tabelTarget = SistemAir.tabelTarget tombol

def Hasil.gagal : Hasil → Bool
  | .keLogin | .sesiBerakhir | .sesiTidakValid | .kadaluarsa | .ditolak | .terkunci => true
  | .alihkan _ res => res = .gagalHapus
  | .unggah hasil => hasil ≠ .berhasil
  | .halaman pesan =>
    pesan ∈ [some .userGagal, some .usernameDipakai, some .tarifGagal, some .idTarifDipakai,
      some .tarifGagalDihapus, some .sudahDicatat, some .meterNegatif, some .meterGagal,
      some .ubahNegatif]
  | .halamanDitolak _ => true

/-- A handler in order: it leaves everything as it is, or it changes a table, says
so and logs the change once. -/
inductive Tertib (actor : String) (level : Level) (tombol : String) (db : Db) :
    Except Galat Hasil → Db → Prop
  | tetap (answer : Except Galat Hasil) : Tertib actor level tombol db answer db
  | tercatat {hasil : Hasil} {core : Db} {e : AuditLog} (hberhasil : hasil.gagal = false)
      (hubah : ¬db.SamaTabel core) (hlog : core.auditLog = db.auditLog)
      (hentri : e.Menyebut actor level tombol) :
      Tertib actor level tombol db (.ok hasil) (core.log e)

section Tertib
variable {actor tombol : String} {level : Level} {db db' : Db} {answer : Except Galat Hasil}

theorem Tertib.diam (h : Tertib actor level tombol db answer db') (hsame : db.SamaTabel db') :
    db'.auditLog = db.auditLog := by
  cases h with
  | tetap => rfl
  | tercatat hberhasil hubah => exact absurd ⟨hsame.login, hsame.tarif, hsame.pemakaian⟩ hubah

theorem Tertib.satu (h : Tertib actor level tombol db answer db') (hubah : ¬db.SamaTabel db') :
    ∃ e : AuditLog, e.Menyebut actor level tombol ∧ db'.auditLog = db.auditLog ++ [e] := by
  cases h with
  | tetap => exact absurd (Db.SamaTabel.refl db) hubah
  | @tercatat hasil core e hberhasil _ hlog hentri =>
    refine ⟨e, hentri, ?_⟩
    rw [← hlog]
    rfl

end Tertib

/-! ## The handlers -/

/-- user_hapus is asked for an account that exists, or that no reading names. -/
def HapusTepat (db : Db) (post : Form) : Prop :=
  (post.get? "yuser").bind db.akun = none →
    ∀ r ∈ db.pemakaian.rows, sqlEq r.username (post.get? "yuser") = false

/-- An upload that is kept changes the evidence of a reading of the sender. -/
def UnggahTepat (php : Php) (q : Request) (actor : String) (db : Db) : Prop :=
  ∀ upload ∈ q.file, upload.diterima → ∃ r ∈ db.pemakaian.rows,
    Pemakaian.hasNo (some (nomorBukti php q.post)) r ∧ r.username = some actor ∧
      r.buktiBayar ≠ some (namaBukti php q.post upload q.clock)

structure Tepat (php : Php) (q : Request) (actor tombol : String) (db : Db) : Prop where
  hapus : tombol = "user_hapus" → HapusTepat db q.post
  unggah : tombol = "upload_bukti" → UnggahTepat php q actor db

section Handlers
variable {php : Php} {q : Request} {actor : String} {level : Level} {s : Server}

theorem filter_login_eq_nil_iff (db : Db) (u : Option String) :
    (db.login.rows.filter fun r => sqlEq (some r.username) u).length = 0 ↔
      u.bind db.akun = none := by
  rw [List.length_eq_zero_iff, List.filter_eq_nil_iff]
  cases u with
  | none => simp
  | some u =>
    rw [Option.bind_some]
    exact Iff.trans (by simp) db.login.find?_eq_none_iff.symm

theorem Tertib.logged {tombol tabel : String} {db : Db} {server : Server} {hasil : Hasil}
    {idTarget : Option String} {detail : String} (hubah : ¬db.SamaTabel server.db)
    (hberhasil : hasil.gagal = false) (hlog : server.db.auditLog = db.auditLog)
    (htabel : tabel = tabelTarget tombol) :
    Tertib actor level tombol db (.ok hasil)
      (server.logged actor level tombol tabel idTarget detail).db :=
  .tercatat hberhasil hubah hlog ⟨rfl, rfl, rfl, htabel⟩

theorem tertib_userAdd :
    Tertib actor level "user_add" s.db ((userAdd php actor level q.salt q.post).run exec s).1
      ((userAdd php actor level q.salt q.post).run exec s).2.db := by
  cases hpost : q.post.get? "yuser" with
  | none =>
    rw [run_userAdd_none php actor level q.salt q.post s hpost]
    exact .tetap _
  | some u =>
    cases ha : s.db.akun u with
    | some a =>
      rw [run_userAdd_taken php actor level q.salt q.post s hpost ha]
      exact .tetap _
    | none =>
      obtain ⟨login', hrows, hrun⟩ := run_userAdd php actor level q.salt q.post s hpost ha
      rw [hrun]
      refine .logged ?_ rfl rfl (by decide)
      intro hsame
      exact s.db.login.ne_of_rows_append hrows hsame.login

theorem tertib_userEdit :
    Tertib actor level "user_edit" s.db ((userEdit php actor level q.salt q.post).run exec s).1
      ((userEdit php actor level q.salt q.post).run exec s).2.db := by
  rw [run_userEdit]
  split
  · rename_i hchanged
    refine .logged ?_ rfl rfl (by decide)
    intro hsame
    exact s.db.login.rows_ne_of_changed hchanged (congrArg (·.rows) hsame.login)
  · exact .tetap _

theorem tertib_userHapus (htepat : HapusTepat s.db q.post) :
    Tertib actor level "user_hapus" s.db ((userHapus actor level q.post).run exec s).1
      ((userHapus actor level q.post).run exec s).2.db := by
  rw [run_userHapus]
  split
  · rename_i hfound
    refine .logged ?_ rfl rfl (by decide)
    intro hsame
    exact s.db.login.rows_ne_of_deleted hfound (congrArg (·.rows) hsame.login)
  · rename_i hnone
    -- No account goes, and by the condition no reading of it either.
    have hzero := Nat.eq_zero_of_not_pos hnone
    have hreadings := htepat ((filter_login_eq_nil_iff s.db _).mp hzero)
    have hsame : s.db.hapusUser q.post = s.db := by
      unfold Db.hapusUser
      rw [s.db.login.delete_of_filter_eq_nil _ hzero, s.db.pemakaian.delete_of_filter_eq_nil]
      rw [List.length_eq_zero_iff, List.filter_eq_nil_iff]
      intro r hr
      rw [hreadings r hr]
      decide
    rw [hsame]
    exact .tetap _

theorem tertib_tarifAdd :
    Tertib actor level "tarif_add" s.db ((tarifAdd php actor level q.post).run exec s).1
      ((tarifAdd php actor level q.post).run exec s).2.db := by
  cases hfound : (q.post.get? "id_tarif").bind s.db.tarif.find? with
  | some t =>
    obtain ⟨id, hid, ht⟩ := Option.bind_eq_some_iff.mp hfound
    rw [run_tarifAdd_taken php actor level q.post s hid ht]
    exact .tetap _
  | none =>
    by_cases hbad : readOperand php (q.post.get? "tarif") = none ∨ q.post.get? "id_tarif" = none
    · obtain ⟨galat, hrun⟩ := run_tarifAdd_rejected php actor level q.post s hfound hbad
      rw [hrun]
      exact .tetap _
    · rw [not_or] at hbad
      obtain ⟨tarif, htarif⟩ := Option.ne_none_iff_exists'.mp hbad.1
      obtain ⟨id, hid⟩ := Option.ne_none_iff_exists'.mp hbad.2
      have hfresh : s.db.tarif.find? id = none := by simpa [hid] using hfound
      obtain ⟨tarif', hrows, hrun⟩ := run_tarifAdd php actor level q.post s hid hfresh htarif
      rw [hrun]
      refine .logged ?_ rfl rfl (by decide)
      intro hsame
      exact s.db.tarif.ne_of_rows_append hrows hsame.tarif

theorem tertib_tarifEdit :
    Tertib actor level "tarif_edit" s.db ((tarifEdit php actor level q.post).run exec s).1
      ((tarifEdit php actor level q.post).run exec s).2.db := by
  cases htarif : readOperand php (q.post.get? "tarif") with
  | none =>
    rw [run_tarifEdit_rejected php actor level q.post s htarif]
    exact .tetap _
  | some tarif =>
    rw [run_tarifEdit php actor level q.post s htarif]
    split
    · rename_i hchanged
      refine .logged ?_ rfl rfl (by decide)
      intro hsame
      exact s.db.tarif.rows_ne_of_changed hchanged (congrArg (·.rows) hsame.tarif)
    · exact .tetap _

theorem tertib_tarifHapus :
    Tertib actor level "tarif_hapus" s.db ((tarifHapus actor level q.post).run exec s).1
      ((tarifHapus actor level q.post).run exec s).2.db := by
  rw [run_tarifHapus]
  split
  · rename_i hfound
    refine .logged ?_ rfl rfl (by decide)
    intro hsame
    exact s.db.tarif.rows_ne_of_deleted hfound (congrArg (·.rows) hsame.tarif)
  · exact .tetap _

theorem tertib_meterAdd :
    Tertib actor level "meter_add" s.db ((meterAdd php actor level q.post).run exec s).1
      ((meterAdd php actor level q.post).run exec s).2.db := by
  rw [run_meterAdd]
  cases Reading.ofPost php q.post with
  | none => exact .tetap _
  | some b =>
    dsimp only
    split
    · exact .tetap _
    split
    · exact .tetap _
    · refine .logged ?_ rfl rfl (by decide)
      intro hsame
      exact s.db.pemakaian.insert_ne _ (fun _ => rfl) hsame.pemakaian

theorem tertib_meterEdit :
    Tertib actor level "meter_edit" s.db ((meterEdit php actor level q.post).run exec s).1
      ((meterEdit php actor level q.post).run exec s).2.db := by
  rw [run_meterEdit]
  split
  · exact .tetap _
  cases Reading.ofPost php q.post with
  | none => exact .tetap _
  | some b =>
    dsimp only
    split
    · exact .tetap _
    split
    · rename_i hchanged
      refine .logged ?_ rfl rfl (by decide)
      intro hsame
      exact s.db.pemakaian.rows_ne_of_changed hchanged (congrArg (·.rows) hsame.pemakaian)
    · exact .tetap _

theorem tertib_meterHapus :
    Tertib actor level "meter_hapus" s.db ((meterHapus php actor level q.post).run exec s).1
      ((meterHapus php actor level q.post).run exec s).2.db := by
  rw [run_meterHapus]
  split
  · exact .tetap _
  split
  · rename_i hfound
    refine .logged ?_ rfl rfl (by decide)
    intro hsame
    exact s.db.pemakaian.rows_ne_of_deleted hfound (congrArg (·.rows) hsame.pemakaian)
  · exact .tetap _

theorem setBukti_eq_self_iff {bukti : String} {r : Pemakaian} :
    r.setBukti bukti = r ↔ r.buktiBayar = some bukti := by
  obtain ⟨no, username, awal, akhir, pemakaian, tgl, waktu, kd, tagihan, status, evidence⟩ := r
  simp [Pemakaian.setBukti, eq_comm]

theorem changed_setBukti_iff (db : Db) (actor bukti : String) (no : Int) :
    0 < db.pemakaian.changed (fun r => Pemakaian.hasNo (some no) r && sqlEq r.username (some actor))
        (Pemakaian.setBukti bukti) ↔
      ∃ r ∈ db.pemakaian.rows, Pemakaian.hasNo (some no) r ∧ r.username = some actor ∧
        r.buktiBayar ≠ some bukti := by
  rw [Table.changed, List.length_pos_iff_exists_mem]
  refine exists_congr fun r => ?_
  rw [List.mem_filter]
  refine and_congr_right fun _ => ?_
  simp only [Bool.and_eq_true, decide_eq_true_eq, sqlEq_iff, ne_eq, setBukti_eq_self_iff]
  constructor
  · rintro ⟨⟨hno, -, hname⟩, hbukti⟩
    exact ⟨hno, hname, hbukti⟩
  · rintro ⟨hno, hname, hbukti⟩
    exact ⟨⟨hno, by simp [hname], hname⟩, hbukti⟩

theorem tertib_uploadBukti (hclock : s.clock = q.clock) (htepat : UnggahTepat php q actor s.db) :
    Tertib actor level "upload_bukti" s.db
      ((uploadBukti php actor level q.post q.file).run exec s).1
      ((uploadBukti php actor level q.post q.file).run exec s).2.db := by
  by_cases hrefused : ∀ u ∈ q.file, u.diterima = false
  · obtain ⟨hasil, -, hrun⟩ := run_uploadBukti_refused php actor level q.post s hrefused
    rw [hrun]
    exact .tetap _
  · push Not at hrefused
    obtain ⟨upload, hfile, hkept⟩ := hrefused
    have hkept := Bool.eq_true_of_not_eq_false hkept
    have hchanged := (changed_setBukti_iff s.db _ _ _).mpr (htepat upload hfile hkept)
    rw [show q.file = some upload from hfile, run_uploadBukti_kept php actor level q.post s hkept]
    refine .logged ?_ rfl rfl (by decide)
    intro hsame
    rw [← hclock] at hchanged
    exact s.db.pemakaian.rows_ne_of_changed hchanged (congrArg (·.rows) hsame.pemakaian)

theorem tertib_profilEdit :
    Tertib actor level "profil_edit" s.db
      ((profilEdit php actor level q.salt q.post).run exec s).1
      ((profilEdit php actor level q.salt q.post).run exec s).2.db := by
  rw [run_profilEdit]
  split
  · rename_i hchanged
    refine .logged ?_ rfl rfl (by decide)
    intro hsame
    exact s.db.login.rows_ne_of_changed hchanged (congrArg (·.rows) hsame.login)
  · exact .tetap _

theorem tertib_dispatch (level : Level) {tombol : String} (hclock : s.clock = q.clock)
    (htepat : Tepat php q actor tombol s.db) :
    Tertib actor level tombol s.db ((dispatch php q actor level tombol).run exec s).1
      ((dispatch php q actor level tombol).run exec s).2.db := by
  unfold dispatch
  split
  · exact tertib_userAdd
  · exact tertib_userEdit
  · exact tertib_userHapus (htepat.hapus rfl)
  · exact tertib_tarifAdd
  · exact tertib_tarifEdit
  · exact tertib_tarifHapus
  · exact tertib_meterAdd
  · exact tertib_meterEdit
  · exact tertib_uploadBukti hclock (htepat.unggah rfl)
  · exact tertib_meterHapus
  · exact tertib_profilEdit
  · exact .tetap _

end Handlers

/-! ## One request -/

/-- The request is logged exactly: entries stay as they are, and one to
login/index.php adds a single entry where it changes a table and none elsewhere. -/
structure AuditTepat (php : Php) (w : World) (q : Request) : Prop where
  utuh : w.db.auditLog <+: (step php w q).db.auditLog
  diam : q.page = .loginIndex → w.db.SamaTabel (step php w q).db →
    (step php w q).db.auditLog = w.db.auditLog
  satu : q.page = .loginIndex → ¬w.db.SamaTabel (step php w q).db →
    ∃ actor level tombol e, Authorized w q actor level tombol ∧ e.Menyebut actor level tombol ∧
      (step php w q).db.auditLog = w.db.auditLog ++ [e]

def DipakaiTepat (php : Php) (w : World) (q : Request) : Prop :=
  ∀ actor level tombol, Authorized w q actor level tombol → Tepat php q actor tombol w.db

section Step
variable {php : Php} {w : World} {q : Request} {actor : String} {level : Level}

theorem auditLog_prefix (php : Php) (w : World) (q : Request) :
    w.db.auditLog <+: (step php w q).db.auditLog := by
  rcases step_db_cases php w q with h | ⟨-, h⟩ | ⟨actor, level, tombol, -, core, entries, h, hdb, -⟩
  · rw [h]
  · rw [h.auditLog]
  · rw [hdb, Db.logs_auditLog, h.auditLog]
    exact List.prefix_append _ _

theorem auditTepat_of_dipakaiTepat (h : DipakaiTepat php w q) : AuditTepat php w q := by
  rcases step_cases php w q with ⟨hserver, -⟩ | ⟨hpage, -⟩ | ⟨actor, level, tombol, hauth, -⟩
  · have hdb : (step php w q).db = w.db :=
      (congrArg Server.db hserver).trans (w.opened_db q)
    exact
      { utuh := auditLog_prefix php w q
        diam := fun _ _ => congrArg Db.auditLog hdb
        satu := fun _ hubah => absurd (hdb ▸ Db.SamaTabel.refl w.db) hubah }
  · exact
      { utuh := auditLog_prefix php w q
        diam := fun hlogin => absurd (hpage.symm.trans hlogin) (by decide)
        satu := fun hlogin => absurd (hpage.symm.trans hlogin) (by decide) }
  · have htertib := tertib_dispatch level (s := w.opened q) rfl (h actor level tombol hauth)
    rw [← db_of_authorized hauth] at htertib
    refine
      { utuh := auditLog_prefix php w q
        diam := fun _ hsame => htertib.diam hsame
        satu := fun _ hubah => ?_ }
    obtain ⟨e, hentri, hlog⟩ := htertib.satu hubah
    exact ⟨actor, level, tombol, e, hauth, hentri, hlog⟩

theorem hapusTepat_of_auditTepat (h : AuditTepat php w q)
    (hauth : Authorized w q actor level "user_hapus") : HapusTepat w.db q.post := by
  intro hakun r hr
  have hzero : (w.db.login.rows.filter fun r => sqlEq (some r.username) (q.post.get? "yuser")).length
      = 0 := (filter_login_eq_nil_iff w.db _).mpr hakun
  have hdb : (step php w q).db = w.db.hapusUser q.post := by
    rw [db_of_authorized hauth]
    change ((userHapus actor level q.post).run exec (w.opened q)).2.db = _
    rw [run_userHapus, if_neg (by rw [World.opened_db, hzero]; decide)]
    rfl
  by_contra hname
  have hubah : ¬w.db.SamaTabel (step php w q).db := by
    rw [hdb]
    intro hsame
    have hpos : 0 < (w.db.pemakaian.rows.filter
        fun r => sqlEq r.username (q.post.get? "yuser")).length :=
      List.length_pos_of_mem (List.mem_filter.mpr ⟨hr, by simpa using hname⟩)
    exact w.db.pemakaian.rows_ne_of_deleted hpos (congrArg (·.rows) hsame.pemakaian)
  obtain ⟨actor', level', tombol, e, -, -, hlog⟩ := h.satu hauth.page hubah
  rw [hdb] at hlog
  exact absurd hlog.symm (by simp [Db.hapusUser])

theorem unggahTepat_of_auditTepat (h : AuditTepat php w q)
    (hauth : Authorized w q actor level "upload_bukti") : UnggahTepat php q actor w.db := by
  intro upload hfile hkept
  have hrun := run_uploadBukti_kept php actor level q.post (w.opened q) hkept
  have hdb : (step php w q).db = ((uploadBukti php actor level q.post (some upload)).run exec
      (w.opened q)).2.db := by
    rw [db_of_authorized hauth, ← show q.file = some upload from hfile]
    rfl
  rw [hrun] at hdb
  rw [← changed_setBukti_iff]
  by_contra hzero
  have htable := w.db.pemakaian.update_of_changed_eq_zero (Pemakaian.no_setBukti _)
    (Nat.eq_zero_of_not_pos hzero)
  have hsame : w.db.SamaTabel (step php w q).db := by
    rw [hdb]
    exact ⟨rfl, rfl, htable⟩
  have hlog := h.diam hauth.page hsame
  rw [hdb] at hlog
  exact absurd hlog (by simp [Server.logged, Server.setDb, Db.log, Db.setBukti])

theorem auditTepat_iff (php : Php) (w : World) (q : Request) :
    AuditTepat php w q ↔ DipakaiTepat php w q := by
  constructor
  · intro h actor level tombol hauth
    constructor
    · rintro rfl
      exact hapusTepat_of_auditTepat h hauth
    · rintro rfl
      exact unggahTepat_of_auditTepat h hauth
  · exact auditTepat_of_dipakaiTepat

end Step

/-! ## Whole runs -/

/-- Every request of a run is logged exactly if and only if none of them deletes the
readings of a missing account or uploads evidence that changes no reading. -/
theorem audit_exact_iff (php : Php) (w : World) (qs : List Request) :
    Trace.Admissible (AuditTepat php) (step php) w qs ↔
      Trace.Admissible (DipakaiTepat php) (step php) w qs :=
  Trace.admissible_congr (auditTepat_iff php)

def catatHantu : List Request := kantor ++ [catatSepuluh "hantu"]

def hapusHantu : Request := ajukan 0 hariBuka "user_hapus" [("yuser", "hantu")]

def unggahSia : Request :=
  { ajukan 1 hariBuka "upload_bukti" [("no_meter", "7")] with
    file := some ⟨true, "bukti.png", 1000, "png", true⟩ }

/-- The admin's deletion takes a reading and leaves no entry; the upload leaves an
entry and changes nothing. -/
theorem audit_exact_violated :
    ¬Trace.Admissible (AuditTepat Php.decimal) (step Php.decimal) World.pertama
        (catatHantu ++ [hapusHantu]) ∧
      ¬Trace.Admissible (AuditTepat Php.decimal) (step Php.decimal) World.pertama
        (kantor ++ [unggahSia]) := by
  constructor
  · intro h
    obtain ⟨hlength, hubah⟩ :
        (serve Php.decimal World.pertama (catatHantu ++ [hapusHantu])).db.auditLog.length =
          (serve Php.decimal World.pertama catatHantu).db.auditLog.length ∧
        (serve Php.decimal World.pertama (catatHantu ++ [hapusHantu])).db.pemakaian.rows ≠
          (serve Php.decimal World.pertama catatHantu).db.pemakaian.rows := by
      decide +kernel
    rw [serve_concat] at hlength hubah
    obtain ⟨actor, level, tombol, e, -, -, hlog⟩ :=
      h.last.satu rfl fun hsame => hubah (congrArg (·.rows) hsame.pemakaian)
    have hlonger := congrArg List.length hlog
    rw [List.length_append] at hlonger
    exact absurd (hlength.symm.trans hlonger) (by simp)
  · intro h
    obtain ⟨hauth, hnone⟩ :
        Authorized (serve Php.decimal World.pertama kantor) unggahSia "joko" .petugas
          "upload_bukti" ∧
        (serve Php.decimal World.pertama kantor).db.pemakaian.rows = [] := by
      decide +kernel
    obtain ⟨r, hr, -⟩ := unggahTepat_of_auditTepat h.last hauth _ rfl (by decide +kernel)
    rw [hnone] at hr
    cases hr

end SistemAir
