import SistemAir.Model.World
import SistemAir.Spec.Handlers

/-! Every way one request can change the tables. All invariants of whole runs are
derived from `step_db_cases`; no proof after it looks into a handler again. -/
namespace SistemAir

open KeyedTable StatementProgram Prog

/-- What the handler behind `tombol` does to the four tables it may write, on
behalf of `actor`, before its audit entry. -/
inductive Change (php : Php) (q : Request) (actor : String) (level : Level) (tombol : String)
    (db : Db) : Db → Prop
  | same : Change php q actor level tombol db db
  | userAdded (htombol : tombol = "user_add") {u : String} (hpost : q.post.get? "yuser" = some u)
      (hfresh : db.akun u = none) {login' : Table Login.username}
      (hrows : login'.rows = db.login.rows ++ [Login.posted php q.salt q.post u]) :
      Change php q actor level tombol db { db with login := login' }
  | userEdited (htombol : tombol = "user_edit") :
      Change php q actor level tombol db (db.ubahUser php q.post q.salt)
  | userRemoved (htombol : tombol = "user_hapus") :
      Change php q actor level tombol db (db.hapusUser q.post)
  | tarifAdded (htombol : tombol = "tarif_add") {id : String} {tarif : Option Decimal}
      (hpost : q.post.get? "id_tarif" = some id) (hfresh : db.tarif.find? id = none)
      {tarif' : Table Tarif.idTarif} (hrows : tarif'.rows = db.tarif.rows ++
        [⟨id, q.post.get? "tipe_tarif", tarif, q.post.get? "status"⟩]) :
      Change php q actor level tombol db { db with tarif := tarif' }
  | tarifEdited (htombol : tombol = "tarif_edit") (tarif : Option Decimal) :
      Change php q actor level tombol db (db.ubahTarif q.post tarif)
  | tarifRemoved (htombol : tombol = "tarif_hapus") :
      Change php q actor level tombol db (db.hapusTarif q.post)
  | meterAdded (htombol : tombol = "meter_add") {b : Reading}
      (hpost : Reading.ofPost php q.post = some b)
      (hmonth : db.countMonth (q.post.get? "username") q.clock.php.date.month
        q.clock.php.date.year = 0)
      (hpos : 0 ≤ b.pemakaian) :
      Change php q actor level tombol db (db.catatMeter q.post b q.clock.sql)
  | meterEdited (htombol : tombol = "meter_edit") {b : Reading}
      (hpost : Reading.ofPost php q.post = some b)
      (hopen : locked level ((db.pemakaianByNo (Db.nomor php q.post)).map Pemakaian.tgl)
        q.clock = false)
      (hpos : 0 ≤ b.pemakaian) :
      Change php q actor level tombol db (db.ubahMeter php q.post b)
  | meterRemoved (htombol : tombol = "meter_hapus")
      (hopen : locked level ((db.pemakaianByNo (Db.nomor php q.post)).map Pemakaian.tgl)
        q.clock = false) :
      Change php q actor level tombol db (db.hapusMeter php q.post)
  | buktiUpdated (htombol : tombol = "upload_bukti") (bukti : String) (no : Int) :
      Change php q actor level tombol db (db.setBukti actor bukti no)
  | profilEdited (htombol : tombol = "profil_edit") :
      Change php q actor level tombol db (db.ubahProfil php q.post q.salt actor)

section Change
variable {php : Php} {q : Request} {actor tombol : String} {level : Level} {db db' : Db}

theorem Change.loginAttempts (h : Change php q actor level tombol db db') :
    db'.loginAttempts = db.loginAttempts := by
  cases h <;> rfl

theorem Change.auditLog (h : Change php q actor level tombol db db') :
    db'.auditLog = db.auditLog := by
  cases h <;> rfl

end Change

/-- A change and the entries logged for it under the actor's name and level. -/
def Leaves (php : Php) (q : Request) (actor : String) (level : Level) (tombol : String)
    (db db' : Db) : Prop :=
  ∃ core entries, Change php q actor level tombol db core ∧ db' = core.logs entries ∧
    ∀ e ∈ entries, e.actorUsername = actor ∧ e.actorLevel = level

section Handlers
variable {php : Php} {q : Request} {actor : String} {level : Level} {s : Server}

theorem Leaves.same {tombol : String} {db : Db} : Leaves php q actor level tombol db db :=
  ⟨db, [], .same, db.logs_nil.symm, by simp⟩

theorem Leaves.logged {tombol : String} {db core : Db} {server : Server}
    (h : Change php q actor level tombol db core) (hserver : server.db = core)
    (aksi tabel : String) (idTarget : Option String) (detail : String) :
    Leaves php q actor level tombol db
      (server.logged actor level aksi tabel idTarget detail).db := by
  subst hserver
  exact ⟨_, [_], h, rfl, by simp⟩

theorem leaves_userAdd :
    Leaves php q actor level "user_add" s.db
      ((userAdd php actor level q.salt q.post).run exec s).2.db := by
  cases hpost : q.post.get? "yuser" with
  | none =>
    rw [run_userAdd_none php actor level q.salt q.post s hpost]
    exact .same
  | some u =>
    cases ha : s.db.akun u with
    | some a =>
      rw [run_userAdd_taken php actor level q.salt q.post s hpost ha]
      exact .same
    | none =>
      obtain ⟨login', hrows, hrun⟩ := run_userAdd php actor level q.salt q.post s hpost ha
      rw [hrun]
      exact .logged (.userAdded rfl hpost ha hrows) rfl _ _ _ _

theorem leaves_userEdit :
    Leaves php q actor level "user_edit" s.db
      ((userEdit php actor level q.salt q.post).run exec s).2.db := by
  rw [run_userEdit]
  split
  · exact .logged (.userEdited rfl) rfl _ _ _ _
  · exact .same

theorem leaves_userHapus :
    Leaves php q actor level "user_hapus" s.db
      ((userHapus actor level q.post).run exec s).2.db := by
  rw [run_userHapus]
  split
  · exact .logged (.userRemoved rfl) rfl _ _ _ _
  · exact ⟨_, [], .userRemoved rfl, (Db.logs_nil _).symm, by simp⟩

theorem leaves_tarifAdd :
    Leaves php q actor level "tarif_add" s.db
      ((tarifAdd php actor level q.post).run exec s).2.db := by
  cases hfound : (q.post.get? "id_tarif").bind s.db.tarif.find? with
  | some t =>
    obtain ⟨id, hid, ht⟩ := Option.bind_eq_some_iff.mp hfound
    rw [run_tarifAdd_taken php actor level q.post s hid ht]
    exact .same
  | none =>
    by_cases hbad : readOperand php (q.post.get? "tarif") = none ∨ q.post.get? "id_tarif" = none
    · obtain ⟨galat, hrun⟩ := run_tarifAdd_rejected php actor level q.post s hfound hbad
      rw [hrun]
      exact .same
    · rw [not_or] at hbad
      obtain ⟨tarif, htarif⟩ := Option.ne_none_iff_exists'.mp hbad.1
      obtain ⟨id, hid⟩ := Option.ne_none_iff_exists'.mp hbad.2
      have hfresh : s.db.tarif.find? id = none := by simpa [hid] using hfound
      obtain ⟨tarif', hrows, hrun⟩ := run_tarifAdd php actor level q.post s hid hfresh htarif
      rw [hrun]
      exact .logged (.tarifAdded rfl hid hfresh hrows) rfl _ _ _ _

theorem leaves_tarifEdit :
    Leaves php q actor level "tarif_edit" s.db
      ((tarifEdit php actor level q.post).run exec s).2.db := by
  cases htarif : readOperand php (q.post.get? "tarif") with
  | none =>
    rw [run_tarifEdit_rejected php actor level q.post s htarif]
    exact .same
  | some tarif =>
    rw [run_tarifEdit php actor level q.post s htarif]
    split
    · exact .logged (.tarifEdited rfl tarif) rfl _ _ _ _
    · exact .same

theorem leaves_tarifHapus :
    Leaves php q actor level "tarif_hapus" s.db
      ((tarifHapus actor level q.post).run exec s).2.db := by
  rw [run_tarifHapus]
  split
  · exact .logged (.tarifRemoved rfl) rfl _ _ _ _
  · exact .same

theorem leaves_meterAdd (hclock : s.clock = q.clock) :
    Leaves php q actor level "meter_add" s.db
      ((meterAdd php actor level q.post).run exec s).2.db := by
  rw [run_meterAdd]
  cases hpost : Reading.ofPost php q.post with
  | none => exact .same
  | some b =>
    dsimp only
    split
    · exact .same
    · rename_i hfree
      split
      · exact .same
      · rename_i hpos
        have hmonth : s.db.countMonth (q.post.get? "username") q.clock.php.date.month
            q.clock.php.date.year = 0 := by
          simpa [Server.sudahDicatat, hclock] using hfree
        rw [hclock]
        exact .logged (.meterAdded rfl hpost hmonth (not_lt.mp hpos)) rfl _ _ _ _

theorem leaves_meterEdit (hclock : s.clock = q.clock) :
    Leaves php q actor level "meter_edit" s.db
      ((meterEdit php actor level q.post).run exec s).2.db := by
  rw [run_meterEdit]
  split
  · exact .same
  · rename_i hopen
    rw [Bool.not_eq_true, Server.terkunci, hclock] at hopen
    cases hpost : Reading.ofPost php q.post with
    | none => exact .same
    | some b =>
      dsimp only
      split
      · exact .same
      · rename_i hpos
        split
        · exact .logged (.meterEdited rfl hpost hopen (not_lt.mp hpos)) rfl _ _ _ _
        · exact .same

theorem leaves_meterHapus (hclock : s.clock = q.clock) :
    Leaves php q actor level "meter_hapus" s.db
      ((meterHapus php actor level q.post).run exec s).2.db := by
  rw [run_meterHapus]
  split
  · exact .same
  · rename_i hopen
    rw [Bool.not_eq_true, Server.terkunci, hclock] at hopen
    split
    · exact .logged (.meterRemoved rfl hopen) rfl _ _ _ _
    · exact .same

theorem leaves_uploadBukti :
    Leaves php q actor level "upload_bukti" s.db
      ((uploadBukti php actor level q.post q.file).run exec s).2.db := by
  rcases run_uploadBukti php actor level q.post s q.file with
    ⟨hasil, hrun⟩ | ⟨upload, bukti, no, -, -, hrun⟩
  · rw [hrun]
    exact .same
  · rw [hrun]
    exact .logged (.buktiUpdated rfl bukti no) rfl _ _ _ _

theorem leaves_profilEdit :
    Leaves php q actor level "profil_edit" s.db
      ((profilEdit php actor level q.salt q.post).run exec s).2.db := by
  rw [run_profilEdit]
  split
  · exact .logged (.profilEdited rfl) rfl _ _ _ _
  · exact .same

theorem leaves_dispatch {tombol : String} (hclock : s.clock = q.clock) :
    Leaves php q actor level tombol s.db
      ((dispatch php q actor level tombol).run exec s).2.db := by
  unfold dispatch
  split
  · exact leaves_userAdd
  · exact leaves_userEdit
  · exact leaves_userHapus
  · exact leaves_tarifAdd
  · exact leaves_tarifEdit
  · exact leaves_tarifHapus
  · exact leaves_meterAdd hclock
  · exact leaves_meterEdit hclock
  · exact leaves_uploadBukti
  · exact leaves_meterHapus hclock
  · exact leaves_profilEdit
  · exact .same

end Handlers

/-! ## index.php -/

section Index
variable (php : Php) (s : Server)

theorem run_registerWarga_taken (salt : String) (post : Form) {a : Login}
    (ha : s.db.akun (trim (orEmpty (post.get? "reg_username"))) = some a) :
    (registerWarga php salt post).run exec s = (.ok (.halaman (some .sudahTerdaftar)), s) := by
  unfold registerWarga
  rw [perform_bind, run_call_ok exec rfl]
  simp [ha]

theorem run_registerWarga (salt : String) (post : Form)
    (hfresh : s.db.akun (trim (orEmpty (post.get? "reg_username"))) = none) :
    ∃ login', login'.rows = s.db.login.rows ++ [Login.registered php salt post] ∧
      (registerWarga php salt post).run exec s = (.ok (.halaman (some .pendaftaranBerhasil)),
        s.setDb { s.db with login := login' }) := by
  obtain ⟨login', hinsert, hrows⟩ := insertKeyed_of_fresh s.db.login _
    (fun u => { Login.registered php salt post with username := u }) rfl hfresh
  refine ⟨login', hrows, ?_⟩
  have hexec : exec _ (.insertLogin (some (trim (orEmpty (post.get? "reg_username"))))
      (Login.registered php salt post).password (Login.registered php salt post).nama
      (Login.registered php salt post).alamat (Login.registered php salt post).kota
      (Login.registered php salt post).tlp .warga (Login.registered php salt post).tipe
      (Login.registered php salt post).status) s =
      .ok (1, s.setDb { s.db with login := login' }) := by
    simp only [exec]
    exact congrArg (fun e => e >>= fun login => pure (1, s.setDb { s.db with login := login }))
      hinsert
  unfold registerWarga
  rw [perform_bind, run_call_ok exec rfl]
  simp only [Option.bind_some, hfresh, Option.toList_none, List.length_nil, Nat.lt_irrefl, if_false]
  rw [perform_bind]
  exact run_call_ok exec hexec _

def Db.gagal (db : Db) (ip : String) (now : Int) : Db :=
  { db with loginAttempts := db.loginAttempts ++ [⟨ip, now⟩] }

theorem run_login (ip : String) (post : Form) :
    ((login php ip post).run exec s).2 = s ∨
      ((login php ip post).run exec s).2 = s.setDb (s.db.gagal ip s.clock.sql.seconds) := by
  unfold login
  rw [perform_bind, run_call_ok exec rfl]
  cases s.db.akun (trim (orEmpty (post.get? "username"))) with
  | none => exact .inr rfl
  | some a =>
    dsimp only [Option.map_some]
    split
    · exact .inl rfl
    · exact .inr rfl

theorem run_login_masuk_iff (ip : String) (post : Form) (u : String) :
    ((login php ip post).run exec s).1 = .ok (.masuk u) ↔
      trim (orEmpty (post.get? "username")) = u ∧
        ∃ a ∈ s.db.akun u, php.passwordVerify (orEmpty (post.get? "password")) a.password = true := by
  unfold login
  rw [perform_bind, run_call_ok exec rfl]
  cases hakun : s.db.akun (trim (orEmpty (post.get? "username"))) with
  | none =>
    refine iff_of_false nofun ?_
    rintro ⟨rfl, a, ha, -⟩
    rw [hakun] at ha
    cases ha
  | some a =>
    have hname := ((s.db.akun_eq_some_iff).mp hakun).2
    dsimp only [Option.map_some]
    split
    · rename_i hsandi
      constructor
      · rintro ⟨⟩
        rw [hname]
        exact ⟨rfl, a, hakun, hsandi⟩
      · rintro ⟨rfl, -⟩
        rw [hname]
        rfl
    · rename_i hsandi
      refine iff_of_false nofun ?_
      rintro ⟨rfl, a', ha', hverify⟩
      rw [hakun] at ha'
      obtain rfl := Option.some.inj ha'
      exact hsandi hverify

theorem run_index (q : Request) (token : String) :
    (index php q token).run exec s =
      match q.tombol with
      | none => (.ok (.halaman none), s)
      | some tombol =>
        if tokenRefused token (q.post.get? "csrf_token") then
          (.ok (.halaman (some .kadaluarsa)), s)
        else if 5 ≤ s.db.countAttempts q.ip s.clock.sql.seconds then
          (.ok (.halaman (some .terlaluBanyak)), s)
        else if strtolower tombol = "login" then (login php q.ip q.post).run exec s
        else if strtolower tombol = "register_warga" then
          (registerWarga php q.salt q.post).run exec s
        else (.ok (.halaman none), s) := by
  unfold index
  rw [perform_bind, run_call_ok exec rfl]
  cases q.tombol with
  | none => rfl
  | some tombol =>
    dsimp only
    split
    · rfl
    split
    · rfl
    split
    · rfl
    split
    · rfl
    · rfl

/-- The guards of a registration: its token, the rate limit and its username. -/
structure LolosDaftar (q : Request) (token : String) (s : Server) : Prop where
  token : tokenRefused token (q.post.get? "csrf_token") = false
  limit : ¬5 ≤ s.db.countAttempts q.ip s.clock.sql.seconds
  fresh : s.db.akun (trim (orEmpty (q.post.get? "reg_username"))) = none

theorem run_index_register {q : Request} (token : String)
    (hasks : q.tombol.map strtolower = some "register_warga") :
    (¬LolosDaftar q token s ∧ ∃ pesan ≠ .pendaftaranBerhasil,
      (index php q token).run exec s = (.ok (.halaman (some pesan)), s)) ∨
    (LolosDaftar q token s ∧ ∃ login',
      login'.rows = s.db.login.rows ++ [Login.registered php q.salt q.post] ∧
      (index php q token).run exec s = (.ok (.halaman (some .pendaftaranBerhasil)),
        s.setDb { s.db with login := login' })) := by
  obtain ⟨tombol, htombol, hlower⟩ := Option.map_eq_some_iff.mp hasks
  have hlogin : strtolower tombol ≠ "login" := by rw [hlower]; decide
  rw [run_index, htombol]
  dsimp only
  rw [if_neg hlogin, if_pos hlower]
  split
  · rename_i htoken
    exact .inl ⟨fun h => absurd htoken (by simp [h.token]), _, by decide, rfl⟩
  rename_i htoken
  split
  · rename_i hlimit
    exact .inl ⟨fun h => h.limit hlimit, _, by decide, rfl⟩
  rename_i hlimit
  cases hakun : s.db.akun (trim (orEmpty (q.post.get? "reg_username"))) with
  | some a =>
    rw [run_registerWarga_taken php s q.salt q.post hakun]
    exact .inl ⟨fun h => absurd (h.fresh.symm.trans hakun) nofun, _, by decide, rfl⟩
  | none =>
    obtain ⟨login', hrows, hrun⟩ := run_registerWarga php s q.salt q.post hakun
    exact .inr ⟨⟨by simpa using htoken, hlimit, hakun⟩, login', hrows, hrun⟩

inductive IndexChange (php : Php) (q : Request) (db : Db) : Db → Prop
  | same : IndexChange php q db db
  | attempt (hasks : q.tombol.map strtolower = some "login") :
      IndexChange php q db (db.gagal q.ip q.clock.sql.seconds)
  | registered (hasks : q.tombol.map strtolower = some "register_warga")
      (hfresh : db.akun (Login.registered php q.salt q.post).username = none)
      {login' : Table Login.username}
      (hrows : login'.rows = db.login.rows ++ [Login.registered php q.salt q.post]) :
      IndexChange php q db { db with login := login' }

theorem IndexChange.auditLog {php : Php} {q : Request} {db db' : Db}
    (h : IndexChange php q db db') : db'.auditLog = db.auditLog := by
  cases h <;> rfl

theorem indexChange_run (q : Request) (token : String) (hclock : s.clock = q.clock) :
    IndexChange php q s.db ((index php q token).run exec s).2.db := by
  rw [run_index]
  cases htombol : q.tombol with
  | none => exact .same
  | some tombol =>
    dsimp only
    split
    · exact .same
    split
    · exact .same
    split
    · rename_i hasks
      rcases run_login php s q.ip q.post with hrun | hrun
      · rw [hrun]
        exact .same
      · rw [hrun, hclock]
        exact .attempt (by rw [htombol, Option.map_some, hasks])
    split
    · rename_i hasks
      cases ha : s.db.akun (trim (orEmpty (q.post.get? "reg_username"))) with
      | some a =>
        rw [run_registerWarga_taken php s q.salt q.post ha]
        exact .same
      | none =>
        obtain ⟨login', hrows, hrun⟩ := run_registerWarga php s q.salt q.post ha
        rw [hrun]
        exact .registered (by rw [htombol, Option.map_some, hasks]) ha hrows
    · exact .same

end Index

theorem step_db_cases (php : Php) (w : World) (q : Request) :
    (step php w q).db = w.db ∨
    (q.page = .index ∧ IndexChange php q w.db (step php w q).db) ∨
    ∃ actor level tombol, Authorized w q actor level tombol ∧
      Leaves php q actor level tombol w.db (step php w q).db := by
  rcases step_cases php w q with ⟨h, -⟩ | ⟨hpage, token, h⟩ | ⟨actor, level, tombol, hauth, h⟩
  · refine .inl ?_
    rw [World.db, h, World.opened_db]
  · refine .inr (.inl ⟨hpage, ?_⟩)
    rw [World.db, World.db, h]
    exact indexChange_run php (w.opened q) q token rfl
  · refine .inr (.inr ⟨actor, level, tombol, hauth, ?_⟩)
    rw [World.db, World.db, h]
    exact leaves_dispatch (s := w.opened q) rfl

/-! ## What is left by a request that gets past the guards -/

section Authorized
variable {php : Php} {w : World} {q : Request} {actor : String} {level : Level}

theorem db_of_authorized {tombol : String} (h : Authorized w q actor level tombol) :
    (step php w q).db = ((dispatch php q actor level tombol).run exec (w.opened q)).2.db :=
  congrArg Server.db (server_of_authorized php h)

theorem userEdit_db (php : Php) (hauth : Authorized w q actor level "user_edit") :
    ∃ entries, (step php w q).db = (w.db.ubahUser php q.post q.salt).logs entries := by
  rw [db_of_authorized hauth, dispatch, run_userEdit]
  split
  · exact ⟨[_], rfl⟩
  · rename_i hsame
    have htable := w.db.login.update_of_changed_eq_zero
      (fun r => sqlEq (some r.username) (q.post.get? "yuser")) (Login.edited php q.salt q.post)
      (fun _ => rfl) (Nat.eq_zero_of_not_pos hsame)
    refine ⟨[], ?_⟩
    rw [Db.logs_nil]
    exact (congrArg (fun login => { w.db with login := login }) htable).symm

theorem tarifEdit_db {tarif : Option Decimal} (hauth : Authorized w q actor level "tarif_edit")
    (htarif : readOperand php (q.post.get? "tarif") = some tarif) :
    ∃ entries, (step php w q).db = (w.db.ubahTarif q.post tarif).logs entries := by
  rw [db_of_authorized hauth, dispatch, run_tarifEdit php actor level q.post (w.opened q) htarif]
  split
  · exact ⟨[_], rfl⟩
  · rename_i hsame
    have htable := w.db.tarif.update_of_changed_eq_zero
      (fun r => sqlEq (some r.idTarif) (q.post.get? "id_tarif_lama"))
      (Tarif.set (q.post.get? "tipe_tarif") tarif (q.post.get? "status"))
      (fun _ => rfl) (Nat.eq_zero_of_not_pos hsame)
    refine ⟨[], ?_⟩
    rw [Db.logs_nil]
    exact (congrArg (fun table => { w.db with tarif := table }) htable).symm

theorem profilEdit_db (php : Php) (hauth : Authorized w q actor level "profil_edit") :
    ∃ entries, (step php w q).db = (w.db.ubahProfil php q.post q.salt actor).logs entries := by
  rw [db_of_authorized hauth, dispatch, run_profilEdit]
  split
  · exact ⟨[_], rfl⟩
  · rename_i hsame
    have htable := w.db.login.update_of_changed_eq_zero (fun r => r.username = actor)
      (Login.profiled php q.salt q.post) (fun _ => rfl) (Nat.eq_zero_of_not_pos hsame)
    refine ⟨[], ?_⟩
    rw [Db.logs_nil]
    exact (congrArg (fun login => { w.db with login := login }) htable).symm

theorem userHapus_db (php : Php) (hauth : Authorized w q actor level "user_hapus") :
    ∃ entries, (step php w q).db = (w.db.hapusUser q.post).logs entries := by
  rw [db_of_authorized hauth, dispatch, run_userHapus]
  split
  · exact ⟨[_], rfl⟩
  · exact ⟨[], (Db.logs_nil _).symm⟩

theorem tarifHapus_db (php : Php) (hauth : Authorized w q actor level "tarif_hapus") :
    ∃ entries, (step php w q).db = (w.db.hapusTarif q.post).logs entries := by
  rw [db_of_authorized hauth, dispatch, run_tarifHapus]
  split
  · exact ⟨[_], rfl⟩
  · rename_i hnone
    have htable := w.db.tarif.delete_of_filter_eq_nil
      (fun r => sqlEq (some r.idTarif) (q.post.get? "id_tarif")) (Nat.eq_zero_of_not_pos hnone)
    refine ⟨[], ?_⟩
    rw [Db.logs_nil]
    exact (congrArg (fun table => { w.db with tarif := table }) htable).symm

end Authorized

end SistemAir
