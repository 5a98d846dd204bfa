import SistemAir.Spec.Change
import SistemAir.Spec.Sessions

/-! What login.status decides about access: nothing. Runs that differ in the statuses of
the accounts answer alike; it is the row that lets an account in. -/
namespace SistemAir

open KeyedTable StatementProgram Prog

/-! ## Tables with other statuses -/

def Login.tanpaStatus (a : Login) : Login := { a with status := none }

/-- The tables differ at most in login.status and in the log. -/
structure SamaSelainStatus (db db' : Db) : Prop where
  login : db'.login.rows.map Login.tanpaStatus = db.login.rows.map Login.tanpaStatus
  tarif : db'.tarif = db.tarif
  pemakaian : db'.pemakaian = db.pemakaian
  loginAttempts : db'.loginAttempts = db.loginAttempts

section Rows
variable {rows rows' : List Login}

theorem filter_of_tanpaStatus (h : rows'.map Login.tanpaStatus = rows.map Login.tanpaStatus)
    {p : Login → Bool} (hp : ∀ r, p r.tanpaStatus = p r) :
    (rows'.filter p).map Login.tanpaStatus = (rows.filter p).map Login.tanpaStatus := by
  have hfilter (l : List Login) :
      (l.filter p).map Login.tanpaStatus = (l.map Login.tanpaStatus).filter p := by
    rw [List.filter_map]
    congr 1
    exact List.filter_congr fun r _ => (hp r).symm
  rw [hfilter, hfilter, h]

theorem length_filter_of_tanpaStatus
    (h : rows'.map Login.tanpaStatus = rows.map Login.tanpaStatus) {p : Login → Bool}
    (hp : ∀ r, p r.tanpaStatus = p r) : (rows'.filter p).length = (rows.filter p).length := by
  simpa using congrArg List.length (filter_of_tanpaStatus h hp)

theorem map_of_tanpaStatus {α : Type} (h : rows'.map Login.tanpaStatus = rows.map Login.tanpaStatus)
    {f : Login → α} (hf : ∀ r, f r.tanpaStatus = f r) : rows'.map f = rows.map f := by
  have hmap (l : List Login) : l.map f = (l.map Login.tanpaStatus).map f := by
    rw [List.map_map]
    exact List.map_congr_left fun r _ => (hf r).symm
  rw [hmap, h, ← hmap]

theorem assign_of_tanpaStatus (h : rows'.map Login.tanpaStatus = rows.map Login.tanpaStatus)
    {p : Login → Bool} {f : Login → Login} (hp : ∀ r, p r.tanpaStatus = p r)
    (hf : ∀ r, (f r.tanpaStatus).tanpaStatus = (f r).tanpaStatus) :
    (rows'.map fun r => if p r then f r else r).map Login.tanpaStatus =
      (rows.map fun r => if p r then f r else r).map Login.tanpaStatus := by
  rw [List.map_map, List.map_map]
  refine map_of_tanpaStatus h fun r => ?_
  simp only [Function.comp_apply, hp]
  split
  · exact hf r
  · rfl

end Rows

section Tables
variable {db db' : Db} (h : SamaSelainStatus db db')

include h

theorem akun_sama (u : String) :
    (db'.akun u).map Login.tanpaStatus = (db.akun u).map Login.tanpaStatus := by
  have hfind (rows : List Login) : (rows.find? fun r => r.username = u).map Login.tanpaStatus =
      (rows.map Login.tanpaStatus).find? fun r => r.username = u := by
    rw [List.find?_map]
    rfl
  rw [Db.akun, Db.akun, Table.find?, Table.find?, hfind, hfind, h.login]

theorem map_akun_sama {α : Type} {f : Login → α} (hf : ∀ a, f a.tanpaStatus = f a) (u : String) :
    (db'.akun u).map f = (db.akun u).map f := by
  have hmap (a : Option Login) : a.map f = (a.map Login.tanpaStatus).map f := by
    rw [Option.map_map]
    exact congrArg (fun g => a.map g) (funext fun r => (hf r).symm)
  rw [hmap, akun_sama h, ← hmap]

theorem map_bind_akun_sama {α : Type} {f : Login → α} (hf : ∀ a, f a.tanpaStatus = f a)
    (u : Option String) : (u.bind db'.akun).map f = (u.bind db.akun).map f := by
  cases u with
  | none => rfl
  | some u => exact map_akun_sama h hf u

theorem levelOf_sama (u : Option String) : db'.levelOf u = db.levelOf u :=
  map_bind_akun_sama h (fun _ => rfl) u

theorem warga_sama : db'.warga.map Login.tanpaStatus = db.warga.map Login.tanpaStatus :=
  filter_of_tanpaStatus h.login fun _ => rfl

end Tables

/-! ## Statements that cannot tell -/

structure Server.Setara (s s' : Server) : Prop where
  db : SamaSelainStatus s.db s'.db
  berkas : s'.berkas = s.berkas
  clock : s'.clock = s.clock

theorem insertKeyed_sama {db db' : Db} (h : SamaSelainStatus db db') (u : Option String)
    (row : String → Login) :
    (∃ galat, Server.insertKeyed db'.login u row = .error galat ∧
      Server.insertKeyed db.login u row = .error galat) ∨
    ∃ login login', Server.insertKeyed db.login u row = .ok login ∧
      Server.insertKeyed db'.login u row = .ok login' ∧
      login'.rows.map Login.tanpaStatus = login.rows.map Login.tanpaStatus := by
  have hkeys : db'.login.rows.map Login.username = db.login.rows.map Login.username :=
    map_of_tanpaStatus h.login fun _ => rfl
  cases u with
  | none => exact .inl ⟨.nullKey, rfl, rfl⟩
  | some u =>
    by_cases hk : (row u).username ∈ db.login.rows.map Login.username
    · refine .inl ⟨.duplicateKey, ?_, ?_⟩
      · simp only [Server.insertKeyed, Table.insert, hkeys, hk, dite_true]
      · simp only [Server.insertKeyed, Table.insert, hk, dite_true]
    · have hfresh (login : Table Login.username)
          (hkeys : login.rows.map Login.username = db.login.rows.map Login.username) :
          ∀ r ∈ login.rows, r.username ≠ (row u).username :=
        fun r hr heq => hk (heq ▸ hkeys ▸ List.mem_map_of_mem hr)
      obtain ⟨login, hinsert, hrows⟩ := db.login.insert_of_fresh (row u) (hfresh _ rfl)
      obtain ⟨login', hinsert', hrows'⟩ := db'.login.insert_of_fresh (row u) (hfresh _ hkeys)
      refine .inr ⟨login, login', ?_, ?_, ?_⟩
      · simp only [Server.insertKeyed, hinsert]
      · simp only [Server.insertKeyed, hinsert']
      · rw [hrows, hrows', List.map_append, List.map_append, h.login]

theorem setProfil_ne_iff (password nama alamat kota tlp : Option String) (r : Login) :
    Login.setProfil password nama alamat kota tlp r.tanpaStatus ≠ r.tanpaStatus ↔
      Login.setProfil password nama alamat kota tlp r ≠ r := by
  cases r
  simp [Login.setProfil, Login.tanpaStatus]

theorem alike_exec {β : Type} {tombol : String} (htombol : tombol ≠ "user_edit") (op : Op β)
    (hop : Dipakai tombol β op) (s s' : Server)
    (h : s.Setara s') : Alike Server.Setara (exec _ op s) (exec _ op s') := by
  have hdb := h.db
  cases op with
  | clock => exact ⟨h.clock.symm, h⟩
  | dtUser u => exact ⟨(map_akun_sama hdb (fun _ => rfl) u).symm, h⟩
  | tipeOf u => exact ⟨(map_bind_akun_sama hdb (fun _ => rfl) u).symm, h⟩
  | tarifAktif tipe => exact ⟨by simp only [Db.tarifAktif, hdb.tarif], h⟩
  | tarifOf id => exact ⟨by simp only [Db.tarifById, hdb.tarif], h⟩
  | usernameOf no => exact ⟨by simp only [Db.pemakaianByNo, hdb.pemakaian], h⟩
  | insertAudit actor level aksi tabel idTarget detail =>
    exact ⟨rfl, ⟨⟨hdb.login, hdb.tarif, hdb.pemakaian, hdb.loginAttempts⟩, h.berkas, h.clock⟩⟩
  | countLogin u =>
    have hlength (a : Option Login) : a.toList.length = (a.map Login.tanpaStatus).toList.length := by
      cases a <;> rfl
    refine ⟨?_, h⟩
    rw [hlength, hlength (u.bind s'.db.akun), map_bind_akun_sama hdb fun _ => rfl]
  | passwordOf u => exact ⟨(map_akun_sama hdb (fun _ => rfl) u).symm, h⟩
  | insertLogin u password nama alamat kota tlp level tipe status =>
    rcases insertKeyed_sama hdb u fun u =>
        ⟨u, password, nama, alamat, kota, tlp, level, tipe, status⟩ with
      ⟨galat, hfail', hfail⟩ | ⟨login, login', hok, hok', hrows⟩
    · simp only [exec, hfail, hfail']
      exact rfl
    · simp only [exec, hok, hok']
      exact ⟨rfl, ⟨⟨hrows, hdb.tarif, hdb.pemakaian, hdb.loginAttempts⟩, h.berkas, h.clock⟩⟩
  | updateUser => exact absurd hop htombol
  | updateProfil password nama alamat kota tlp u =>
    refine ⟨(length_filter_of_tanpaStatus hdb.login fun r => ?_).symm,
      ⟨⟨assign_of_tanpaStatus hdb.login (fun _ => rfl) fun _ => rfl, hdb.tarif, hdb.pemakaian,
        hdb.loginAttempts⟩, h.berkas, h.clock⟩⟩
    simp only [setProfil_ne_iff]
    rfl
  | deletePemakaianOf u =>
    refine ⟨by simp only [hdb.pemakaian], ⟨⟨hdb.login, hdb.tarif, ?_, hdb.loginAttempts⟩, h.berkas,
      h.clock⟩⟩
    simp only [Server.setDb, hdb.pemakaian]
  | deleteLogin u =>
    exact ⟨(length_filter_of_tanpaStatus hdb.login fun _ => rfl).symm,
      ⟨⟨filter_of_tanpaStatus hdb.login fun _ => rfl, hdb.tarif, hdb.pemakaian,
        hdb.loginAttempts⟩, h.berkas, h.clock⟩⟩
  | countTarif id => exact ⟨by simp only [hdb.tarif], h⟩
  | insertTarif id tipe tarif status =>
    simp only [exec, hdb.tarif]
    cases Server.insertKeyed s.db.tarif id fun id => (⟨id, tipe, tarif, status⟩ : Tarif) with
    | error galat => exact rfl
    | ok table =>
      exact ⟨rfl, ⟨⟨hdb.login, rfl, hdb.pemakaian, hdb.loginAttempts⟩, h.berkas, h.clock⟩⟩
  | updateTarif tipe tarif status id =>
    refine ⟨by simp only [hdb.tarif], ⟨⟨hdb.login, ?_, hdb.pemakaian, hdb.loginAttempts⟩, h.berkas,
      h.clock⟩⟩
    simp only [Server.setDb, hdb.tarif]
  | deleteTarif id =>
    refine ⟨by simp only [hdb.tarif], ⟨⟨hdb.login, ?_, hdb.pemakaian, hdb.loginAttempts⟩, h.berkas,
      h.clock⟩⟩
    simp only [Server.setDb, hdb.tarif]
  | countMonth u month year => exact ⟨by simp only [Db.countMonth, hdb.pemakaian], h⟩
  | insertPemakaian u awal akhir pemakaian kdTarif tagihan status =>
    refine ⟨rfl, ⟨⟨hdb.login, hdb.tarif, ?_, hdb.loginAttempts⟩, h.berkas, h.clock⟩⟩
    simp only [Server.setDb, hdb.pemakaian, h.clock]
  | tglOf no => exact ⟨by simp only [Db.pemakaianByNo, hdb.pemakaian], h⟩
  | updateMeter awal akhir pemakaian tagihan status no =>
    refine ⟨by simp only [hdb.pemakaian], ⟨⟨hdb.login, hdb.tarif, ?_, hdb.loginAttempts⟩, h.berkas,
      h.clock⟩⟩
    simp only [Server.setDb, hdb.pemakaian]
  | deletePemakaian no =>
    refine ⟨by simp only [hdb.pemakaian], ⟨⟨hdb.login, hdb.tarif, ?_, hdb.loginAttempts⟩, h.berkas,
      h.clock⟩⟩
    simp only [Server.setDb, hdb.pemakaian]
  | storeUpload name upload =>
    refine ⟨rfl, ?_⟩
    cases upload.moved with
    | true => exact ⟨hdb, congrArg (List.cons _) h.berkas, h.clock⟩
    | false => exact h
  | updateBukti bukti no u =>
    refine ⟨by simp only [hdb.pemakaian], ⟨⟨hdb.login, hdb.tarif, ?_, hdb.loginAttempts⟩, h.berkas,
      h.clock⟩⟩
    simp only [Server.setDb, hdb.pemakaian]
  | countAttempts id =>
    exact ⟨by simp only [Db.countAttempts, hdb.loginAttempts, h.clock], h⟩
  | insertAttempt id =>
    refine ⟨rfl, ⟨⟨hdb.login, hdb.tarif, hdb.pemakaian, ?_⟩, h.berkas, h.clock⟩⟩
    simp only [Server.setDb, hdb.loginAttempts, h.clock]

/-! ## Requests -/

/-- The two messages of user_edit, which tell whether a column got another value. -/
def Hasil.tanpaKabar : Hasil → Hasil
  | .alihkan .user _ => .alihkan .user .tanpaPerubahan
  | hasil => hasil

section Runs
variable {s s' : Server} (h : s.Setara s') (php : Php) (q : Request) (actor : String)
  (level : Level)

theorem run_userEdit_ubah (s : Server) :
    ∃ res entries, (userEdit php actor level q.salt q.post).run exec s =
      (.ok (.alihkan .user res), s.setDb ((s.db.ubahUser php q.post q.salt).logs entries)) := by
  rw [run_userEdit]
  split
  · exact ⟨.suksesEdit, [_], rfl⟩
  · rename_i hsame
    have htable := s.db.login.update_of_changed_eq_zero
      (fun r => sqlEq (some r.username) (q.post.get? "yuser")) (Login.edited php q.salt q.post)
      (fun _ => rfl) (Nat.eq_zero_of_not_pos hsame)
    refine ⟨.tanpaPerubahan, [], Prod.ext rfl ?_⟩
    rw [Db.logs_nil]
    exact congrArg (fun login => s.setDb { s.db with login := login }) htable.symm

include h

theorem setara_ubahUser (entries entries' : List AuditLog) :
    (s.setDb ((s.db.ubahUser php q.post q.salt).logs entries)).Setara
      (s'.setDb ((s'.db.ubahUser php q.post q.salt).logs entries')) :=
  ⟨⟨assign_of_tanpaStatus h.db.login (fun _ => rfl) fun _ => rfl, h.db.tarif, h.db.pemakaian,
    h.db.loginAttempts⟩, h.berkas, h.clock⟩

theorem dispatch_setara (tombol : String) :
    ((dispatch php q actor level tombol).run exec s').1.map Hasil.tanpaKabar =
        ((dispatch php q actor level tombol).run exec s).1.map Hasil.tanpaKabar ∧
      ((dispatch php q actor level tombol).run exec s).2.Setara
        ((dispatch php q actor level tombol).run exec s').2 := by
  by_cases htombol : tombol = "user_edit"
  · subst htombol
    obtain ⟨res, entries, hrun⟩ := run_userEdit_ubah php q actor level s
    obtain ⟨res', entries', hrun'⟩ := run_userEdit_ubah php q actor level s'
    have hdispatch : dispatch php q actor level "user_edit" =
        userEdit php actor level q.salt q.post := rfl
    rw [hdispatch, hrun, hrun']
    exact ⟨rfl, setara_ubahUser h php q entries entries'⟩
  · have hblind := (only_dispatch php q actor level tombol).blind (alike_exec htombol)
    exact ⟨congrArg _ (hblind.run_eq h).symm, hblind.run_related h⟩

theorem loginIndex_setara (token : String) :
    ((loginIndex php q actor token).run exec s').1.map Hasil.tanpaKabar =
        ((loginIndex php q actor token).run exec s).1.map Hasil.tanpaKabar ∧
      ((loginIndex php q actor token).run exec s).2.Setara
        ((loginIndex php q actor token).run exec s').2 := by
  have hsame := levelOf_sama h.db (some actor)
  cases hlevel : s.db.levelOf (some actor) with
  | none =>
    rw [run_loginIndex_noLevel php s hlevel, run_loginIndex_noLevel php s' (hsame.trans hlevel)]
    exact ⟨rfl, h⟩
  | some level =>
    rw [run_loginIndex php q token s hlevel, run_loginIndex php q token s' (hsame.trans hlevel)]
    cases q.tombol with
    | none => exact ⟨rfl, h⟩
    | some tombol =>
      dsimp only
      split
      · exact ⟨rfl, h⟩
      split
      · exact ⟨rfl, h⟩
      · obtain ⟨hanswer, hserver⟩ := dispatch_setara h php q actor level tombol
        refine ⟨?_, hserver⟩
        -- The page guard does not look at the messages of user_edit.
        have hrender (hasil : Hasil) :
            (render level q hasil).tanpaKabar = render level q hasil.tanpaKabar := by
          cases hasil with
          | halaman pesan =>
            simp only [render]
            split <;> rfl
          | alihkan slot res => cases slot <;> rfl
          | _ => rfl
        have hmap (out : Except Galat Hasil) : (out.map (render level q)).map Hasil.tanpaKabar =
            (out.map Hasil.tanpaKabar).map (render level q) := by
          cases out with
          | error galat => rfl
          | ok hasil => exact congrArg Except.ok (hrender hasil)
        rw [hmap, hmap, hanswer]

end Runs

def Respons.tanpaKabar : Respons → Respons
  | .loginIndex hasil => .loginIndex hasil.tanpaKabar
  | respons => respons

/-- The states differ at most in the statuses, in the log and in what user_edit has told
the admin. -/
structure World.Setara (w w' : World) : Prop where
  server : w.server.Setara w'.server
  sesi : ∀ sid, ∃ res, w'.session sid = { w.session sid with resUser := res }

theorem eq_of_tanpaKabar {hasil hasil' : Hasil} (h : hasil'.tanpaKabar = hasil.tanpaKabar) :
    hasil' = hasil ∨ ∃ res res', hasil = .alihkan .user res ∧ hasil' = .alihkan .user res' := by
  have hsame (hasil : Hasil) :
      hasil.tanpaKabar = hasil ∨ ∃ res, hasil = .alihkan .user res := by
    cases hasil with
    | alihkan slot res =>
      cases slot with
      | user => exact .inr ⟨res, rfl⟩
      | _ => exact .inl rfl
    | _ => exact .inl rfl
  rcases hsame hasil with hhasil | ⟨res, rfl⟩
  · rcases hsame hasil' with hhasil' | ⟨res', rfl⟩
    · exact .inl (hhasil'.symm.trans (h.trans hhasil))
    · rw [hhasil] at h
      exact .inr ⟨.tanpaPerubahan, res', h.symm, rfl⟩
  · rcases hsame hasil' with hhasil' | ⟨res', rfl⟩
    · rw [hhasil'] at h
      exact .inr ⟨res, .tanpaPerubahan, rfl, h⟩
    · exact .inr ⟨res, res', rfl, rfl⟩

section Steps
variable {w w' : World} (h : w.Setara w') (php : Php) (q : Request)

theorem sesi_update {session session' : Nat → Session} {a a' : Session} (sid : Nat)
    (h : ∀ sid, ∃ res, session' sid = { session sid with resUser := res })
    (ha : ∃ res, a' = { a with resUser := res }) (n : Nat) :
    ∃ res, Function.update session' sid a' n =
      { Function.update session sid a n with resUser := res } := by
  by_cases hn : n = sid
  · subst hn
    simpa using ha
  · simpa [hn] using h n

theorem sessionAfter_setara (a : Session) (res : Option Res) (token : String)
    {out out' : Except Galat Hasil}
    (h : out'.map Hasil.tanpaKabar = out.map Hasil.tanpaKabar) :
    ∃ res', sessionAfter { a with resUser := res } token out' =
      { sessionAfter a token out with resUser := res' } := by
  cases out with
  | error galat =>
    cases out' with
    | error galat' => exact ⟨res, rfl⟩
    | ok hasil' => cases h
  | ok hasil =>
    cases out' with
    | error galat' => cases h
    | ok hasil' =>
      rcases eq_of_tanpaKabar (Except.ok.inj h) with rfl | ⟨r, r', rfl, rfl⟩
      · cases hasil' with
        | alihkan slot r => cases slot <;> exact ⟨_, rfl⟩
        | _ => exact ⟨_, rfl⟩
      · exact ⟨some r', rfl⟩

include h

theorem opened_setara : (w.opened q).Setara (w'.opened q) := ⟨h.server.db, h.server.berkas, rfl⟩

theorem handleIndex_setara :
    (handleIndex php w' q).1 = (handleIndex php w q).1 ∧
      (handleIndex php w q).2.Setara (handleIndex php w' q).2 := by
  obtain ⟨res, hsesi⟩ := h.sesi q.sid
  have hopened := opened_setara h q
  let token := ensureToken (w.session q.sid).csrfTokenLogin q.token
  have honly : (index php q token).Only (Dipakai "") := only_index php q token
  have hblind := honly.blind (alike_exec (by decide))
  have hanswer := hblind.run_eq hopened
  have hout' : handleIndex php w' q = (((index php q token).run exec (w'.opened q)).1,
      ⟨((index php q token).run exec (w'.opened q)).2, Function.update w'.session q.sid
        (sessionAfterIndex (w'.session q.sid) token
          ((index php q token).run exec (w'.opened q)).1)⟩) := by
    unfold handleIndex
    rw [hsesi]
    rfl
  have hout : handleIndex php w q = (((index php q token).run exec (w.opened q)).1,
      ⟨((index php q token).run exec (w.opened q)).2, Function.update w.session q.sid
        (sessionAfterIndex (w.session q.sid) token
          ((index php q token).run exec (w.opened q)).1)⟩) := rfl
  rw [hout', hout, ← hanswer]
  refine ⟨rfl, hblind.run_related hopened, sesi_update q.sid h.sesi ?_⟩
  rw [hsesi]
  cases ((index php q token).run exec (w.opened q)).1 with
  | error galat => exact ⟨res, rfl⟩
  | ok hasil => cases hasil <;> exact ⟨res, rfl⟩

theorem handleLoginIndex_setara :
    (handleLoginIndex php w' q).1.map Hasil.tanpaKabar =
        (handleLoginIndex php w q).1.map Hasil.tanpaKabar ∧
      (handleLoginIndex php w q).2.Setara (handleLoginIndex php w' q).2 := by
  obtain ⟨res, hsesi⟩ := h.sesi q.sid
  have hopened := opened_setara h q
  have huser' : (w'.session q.sid).user = (w.session q.sid).user := by rw [hsesi]
  have hidle' : idle (w'.session q.sid) q.clock.time = idle (w.session q.sid) q.clock.time := by
    rw [hsesi]
    rfl
  cases hnamed : isEmpty (w.session q.sid).user with
  | true =>
    rw [handleLoginIndex_anonymous hnamed, handleLoginIndex_anonymous (huser' ▸ hnamed)]
    exact ⟨rfl, hopened, h.sesi⟩
  | false =>
    cases hidle : idle (w.session q.sid) q.clock.time with
    | true =>
      rw [handleLoginIndex_idle hnamed hidle,
        handleLoginIndex_idle (huser' ▸ hnamed) (hidle'.trans hidle)]
      exact ⟨rfl, hopened, sesi_update q.sid h.sesi ⟨none, rfl⟩⟩
    | false =>
      obtain ⟨u, hu⟩ := exists_of_isEmpty hnamed
      have hnamed' : isEmpty (some u) = false := hu ▸ hnamed
      have htoken : w'.csrfToken q = w.csrfToken q := by
        unfold World.csrfToken
        rw [hsesi]
      rw [handleLoginIndex_open php hu hnamed' hidle,
        handleLoginIndex_open php (huser'.trans hu) hnamed' (hidle'.trans hidle), htoken]
      obtain ⟨hanswer, hserver⟩ := loginIndex_setara hopened php q u (w.csrfToken q)
      refine ⟨hanswer, hserver, sesi_update q.sid h.sesi ?_⟩
      rw [hsesi]
      exact sessionAfter_setara { w.session q.sid with lastActivity := some q.clock.time } res _
        hanswer

theorem handle_setara :
    (handle php w' q).1.map Respons.tanpaKabar = (handle php w q).1.map Respons.tanpaKabar ∧
      (step php w q).Setara (step php w' q) := by
  have hpos := opened_setara h q
  cases hpage : q.page with
  | index =>
    obtain ⟨hanswer, hworld⟩ := handleIndex_setara h php q
    simp only [step, handle, hpage, hanswer]
    exact ⟨True.intro, hworld⟩
  | loginIndex =>
    obtain ⟨hanswer, hworld⟩ := handleLoginIndex_setara h php q
    have hmap (out : Except Galat Hasil) : (out.map Respons.loginIndex).map Respons.tanpaKabar =
        (out.map Hasil.tanpaKabar).map Respons.loginIndex := by
      cases out <;> rfl
    simp only [step, handle, hpage]
    exact ⟨by rw [hmap, hmap, hanswer], hworld⟩
  | ajax =>
    simp only [step, handle, hpage]
    exact ⟨True.intro, hpos, h.sesi⟩
  | logout =>
    simp only [step, handle, hpage]
    exact ⟨True.intro, hpos, sesi_update q.sid h.sesi ⟨none, rfl⟩⟩

theorem serve_setara (qs : List Request) : (serve php w qs).Setara (serve php w' qs) := by
  induction qs generalizing w w' with
  | nil => exact h
  | cons q qs ih => exact ih (handle_setara h php q).2

end Steps

/-! ## assets/ajax.php -/

/-- Statements whose answer has no status of an account and no entry of the log. -/
def Kueri.TanpaStatus : (β : Type) → Kueri β → Prop
  | _, .ubah (.dtUser _) => True
  | _, .ubah _ => False
  | _, .baca (.userEdit _) | _, .baca .daftarUser | _, .baca .logTerbaru => False
  | _, .baca _ => True
  | _, .ingat _ => False

theorem jawab_sama {db db' : Db} (h : SamaSelainStatus db db') {β : Type} (select : Select β)
    (hselect : Kueri.TanpaStatus β (.baca select)) : select.jawab _ db' = select.jawab _ db := by
  have hwarga {α : Type} {f : Login → α} (hf : ∀ r, f r.tanpaStatus = f r) :
      db'.warga.map f = db.warga.map f := map_of_tanpaStatus (warga_sama h) hf
  cases select with
  | userEdit u => exact hselect.elim
  | daftarUser => exact hselect.elim
  | logTerbaru => exact hselect.elim
  | dtUser u => exact map_bind_akun_sama h (fun _ => rfl) u
  | daftarWarga => exact hwarga fun _ => rfl
  | profil u => exact map_akun_sama h (fun _ => rfl) u
  | jmlWarga => simpa [Select.jawab] using congrArg List.length (warga_sama h)
  | tipePelanggan =>
    have htipe : db'.warga.map Login.tipe = db.warga.map Login.tipe := hwarga fun _ => rfl
    have hjml (tipe : Option String) : (db'.warga.filter (·.tipe = tipe)).length =
        (db.warga.filter (·.tipe = tipe)).length :=
      length_filter_of_tanpaStatus (warga_sama h) fun _ => rfl
    simp only [Select.jawab, htipe, hjml]
  | _ =>
    simp only [Select.jawab, Db.pemakaianByNo, Db.pemakaianOf, Db.pemakaianTahun,
      SistemAir.dataLastMeter, h.pemakaian, h.tarif]

theorem only_jawabAjax (user : String) (level : Level) (post : Form) (now : Stamp) :
    (jawabAjax user level post now).Only Kueri.TanpaStatus := by
  have hbulan : (bulanDefault (orEmpty (post.get? "t")) now).Only Kueri.TanpaStatus := by
    refine .ite ⟨trivial, fun tgl => ?_⟩ trivial
    cases tgl <;> trivial
  have hpencatat (bulan : String) : (summaryPencatat bulan).Only Kueri.TanpaStatus :=
    ⟨trivial, fun _ => ⟨trivial, fun _ => ⟨trivial, fun _ => trivial⟩⟩⟩
  have hbendahara (bulan : String) : (summaryBendahara bulan).Only Kueri.TanpaStatus :=
    ⟨trivial, fun _ => ⟨trivial, fun _ => ⟨trivial, fun _ => ⟨trivial, fun _ => trivial⟩⟩⟩⟩
  have hwarga (bulanPost : String) : (summaryWarga user bulanPost).Only Kueri.TanpaStatus :=
    .ite ⟨trivial, fun _ => trivial⟩ ⟨trivial, fun _ => trivial⟩
  have hsummary (bulanPost bulan : String) :
      (summary user level bulanPost bulan).Only Kueri.TanpaStatus := by
    cases level with
    | admin => exact hpencatat bulan
    | petugas => exact hpencatat bulan
    | bendahara => exact hbendahara bulan
    | warga => exact hwarga bulanPost
  have hcatat (tahun : Nat) : (chartPencatat tahun).Only Kueri.TanpaStatus :=
    ⟨trivial, fun _ => ⟨trivial, fun _ => ⟨trivial, fun _ => ⟨trivial, fun _ => trivial⟩⟩⟩⟩
  have htagihan (tahun : Nat) : (chartTagihan tahun).Only Kueri.TanpaStatus :=
    ⟨trivial, fun _ => ⟨trivial, fun _ => ⟨trivial, fun _ => ⟨trivial, fun _ => trivial⟩⟩⟩⟩
  have hchart (tahun : Nat) : (semuaChart user level tahun).Only Kueri.TanpaStatus := by
    cases level with
    | admin => exact (hcatat tahun).bind fun _ => (htagihan tahun).bind fun _ => trivial
    | bendahara => exact (hcatat tahun).bind fun _ => (htagihan tahun).bind fun _ => trivial
    | petugas => exact hcatat tahun
    | warga => exact ⟨trivial, fun _ => trivial⟩
  refine hbulan.bind fun bulan => ?_
  split
  · exact (hsummary _ bulan).bind fun _ => trivial
  · exact (hchart _).bind fun _ => trivial
  · trivial

theorem ajax_sama {s s' : Server} (h : SamaSelainStatus s.db s'.db) (user : Option String)
    (post : Form) (now : Stamp) : s'.ajax user post now = s.ajax user post now := by
  have honly : (SistemAir.ajax user post now).Only Kueri.TanpaStatus := by
    refine .ite trivial ⟨trivial, fun row => ?_⟩
    cases row with
    | none => trivial
    | some row => exact only_jawabAjax _ _ post now
  have halike {β : Type} (statement : Kueri β) (hstatement : Kueri.TanpaStatus β statement)
      (s s' : Server) (hs : SamaSelainStatus s.db s'.db) :
      Alike (fun s s' => SamaSelainStatus s.db s'.db) (execKueri _ statement s)
        (execKueri _ statement s') := by
    cases statement with
    | baca select => exact ⟨(jawab_sama hs select hstatement).symm, hs⟩
    | ingat nilai => exact hstatement.elim
    | ubah op =>
      cases op with
      | dtUser u => exact ⟨(map_akun_sama hs (fun _ => rfl) u).symm, hs⟩
      | _ => exact hstatement.elim
  exact ((honly.blind halike).run_eq h).symm

/-! ## Accounts without a row -/

theorem passwordOf_of_masuk {php : Php} {s : Server} {q : Request} {token u : String}
    (h : ((index php q token).run exec s).1 = .ok (.masuk u)) : (s.db.akun u).isSome := by
  rw [run_index] at h
  cases htombol : q.tombol with
  | none =>
    rw [htombol] at h
    cases h
  | some tombol =>
    simp only [htombol] at h
    split at h
    · cases h
    split at h
    · cases h
    split at h
    · obtain ⟨-, a, ha, -⟩ := (run_login_masuk_iff php s q.ip q.post u).mp h
      exact Option.isSome_iff_exists.mpr ⟨a, ha⟩
    split at h
    · cases hakun : s.db.akun (trim (orEmpty (q.post.get? "reg_username"))) with
      | some a =>
        rw [run_registerWarga_taken php s q.salt q.post hakun] at h
        cases h
      | none =>
        obtain ⟨login', -, hrun⟩ := run_registerWarga php s q.salt q.post hakun
        rw [hrun] at h
        cases h
    · cases h

theorem masukSebagai_ne (php : Php) {w : World} {u : String} (hakun : w.db.akun u = none)
    (q : Request) : masukSebagai (handle php w q).1 ≠ some u := by
  intro hmasuk
  cases hpage : q.page with
  | index =>
    rw [handle_index php hpage] at hmasuk
    cases hout : (handleIndex php w q).1 with
    | error galat => rw [hout] at hmasuk; cases hmasuk
    | ok hasil =>
      rw [hout] at hmasuk
      cases hasil with
      | halaman pesan => cases hmasuk
      | masuk v =>
        cases hmasuk
        have hsome : (w.db.akun u).isSome := passwordOf_of_masuk (s := w.opened q) hout
        rw [hakun] at hsome
        cases hsome
  | loginIndex =>
    rw [handle_loginIndex hpage rfl] at hmasuk
    cases hout : (handleLoginIndex php w q).1 <;> rw [hout] at hmasuk <;> cases hmasuk
  | ajax => simp only [handle, hpage] at hmasuk; cases hmasuk
  | logout => simp only [handle, hpage] at hmasuk; cases hmasuk

/-- A session of an account that is not there gets no further than the checks. -/
theorem sesi_ditolak (php : Php) {w : World} {q : Request} {u : String}
    (hpage : q.page = .loginIndex) (huser : (w.session q.sid).user = some u)
    (hakun : w.db.akun u = none) :
    (∃ hasil, hasil.menolakSesi = true ∧ (handle php w q).1 = .ok (.loginIndex hasil)) ∧
      (step php w q).server = w.opened q := by
  have hlevel : w.db.levelOf (some u) = none := by
    simp [Db.levelOf, hakun]
  have hout (hasil : Hasil) (w' : World) (h : handleLoginIndex php w q = (.ok hasil, w'))
      (hmenolak : hasil.menolakSesi = true) (hserver : w'.server = w.opened q) :
      (∃ hasil, hasil.menolakSesi = true ∧ (handle php w q).1 = .ok (.loginIndex hasil)) ∧
        (step php w q).server = w.opened q := by
    rw [step, handle_loginIndex hpage h]
    exact ⟨⟨hasil, hmenolak, rfl⟩, hserver⟩
  cases hnamed : isEmpty (some u) with
  | true => exact hout _ _ (handleLoginIndex_anonymous (by rw [huser, hnamed])) rfl rfl
  | false =>
    cases hidle : idle (w.session q.sid) q.clock.time with
    | true => exact hout _ _ (handleLoginIndex_idle (by rw [huser, hnamed]) hidle) rfl rfl
    | false => exact hout _ _ (handleLoginIndex_noLevel huser hnamed hidle hlevel) rfl rfl

/-! ## Access -/

def World.denganStatus (w : World) (status : String → Option String) : World :=
  { w with
    server := w.server.setDb { w.db with
      login := w.db.login.update (fun _ => true) (fun a => { a with status := status a.username })
        fun _ => rfl } }

theorem denganStatus_setara (w : World) (status : String → Option String) :
    w.Setara (w.denganStatus status) where
  server := by
    refine ⟨⟨?_, rfl, rfl, rfl⟩, rfl, rfl⟩
    change (w.db.login.rows.map fun a => if true then { a with status := status a.username } else a).map
      Login.tanpaStatus = w.db.login.rows.map Login.tanpaStatus
    rw [List.map_map]
    rfl
  sesi sid := ⟨(w.session sid).resUser, rfl⟩

/-- In a run from any state: with other statuses the same logins, pages and charts are
answered alike and the same tables are left, up to the statuses, the log and what user_edit
tells the admin; and where an account has no row, nobody logs in to it and its sessions get
nothing and change nothing. -/
theorem access_follows_row (php : Php) (w : World) (qs : List Request) :
    (∀ status : String → Option String,
      let v := serve php w qs
      let v' := serve php (w.denganStatus status) qs
      SamaSelainStatus v.db v'.db ∧
      (∀ q, (handle php v' q).1.map Respons.tanpaKabar = (handle php v q).1.map Respons.tanpaKabar) ∧
      ∀ user post now, v'.server.ajax user post now = v.server.ajax user post now) ∧
    ∀ u, (serve php w qs).db.akun u = none →
      let v := serve php w qs
      (∀ q, masukSebagai (handle php v q).1 ≠ some u) ∧
      (∀ q, q.page = .loginIndex → (v.session q.sid).user = some u →
        (∃ hasil, hasil.menolakSesi = true ∧ (handle php v q).1 = .ok (.loginIndex hasil)) ∧
          (step php v q).db = v.db) ∧
      ∀ post now, v.server.ajax (some u) post now = .ok .unauthorized := by
  constructor
  · intro status
    have hsetara := serve_setara (denganStatus_setara w status) php qs
    exact ⟨hsetara.server.db, fun q => (handle_setara hsetara php q).1, ajax_sama hsetara.server.db⟩
  · intro u hakun
    refine ⟨masukSebagai_ne php hakun, fun q hpage huser => ?_, fun post now => ?_⟩
    · obtain ⟨hrefused, hserver⟩ := sesi_ditolak php hpage huser hakun
      exact ⟨hrefused, (congrArg Server.db hserver).trans (World.opened_db _ q)⟩
    · have hlevel : (serve php w qs).server.db.levelOf (some u) = none := by
        rw [← World.db, Db.levelOf, Option.bind_some, hakun]
        rfl
      exact ajax_refused _ post now (.inr hlevel)

def nonaktif : List Request :=
  kantor ++ masuk 3 hariBuka "budi" "b" ++
  [ajukan 0 hariBuka "user_edit"
    [("yuser", "budi"), ("passwet", ""), ("nama", "Budi"), ("level", "warga"), ("tipe", "RT"),
      ("status", "TDK AKTIF")]]

def hapusAkunBudi : Request := ajukan 0 hariBuka "user_hapus" [("yuser", "budi")]

def profilLagi : Request := ajukan 3 hariBuka "profil_edit" [("nama", "B")]

def masukLagi : Request :=
  Request.kirim 4 .index hariBuka
    [("csrf_token", "7f3a"), ("username", "budi"), ("password", "b"), ("tombol", "login")]

def nonaktifLaluHapus : List Request := nonaktif ++ [hapusAkunBudi]

/-- Once removed, the resident is let in nowhere, with whatever status: no new login, nothing
from the session that is still there, and no charts. -/
theorem access_follows_row_budi :
    let v := serve .decimal World.pertama nonaktifLaluHapus
    let v' := serve .decimal (World.pertama.denganStatus fun _ => some "TDK AKTIF") nonaktifLaluHapus
    (v.session profilLagi.sid).user = some "budi" ∧
      (∃ hasil, hasil.menolakSesi = true ∧
        (handle .decimal v profilLagi).1 = .ok (.loginIndex hasil)) ∧
      (step .decimal v profilLagi).db = v.db ∧
      masukSebagai (handle .decimal v masukLagi).1 ≠ some "budi" ∧
      (handle .decimal v' masukLagi).1.map Respons.tanpaKabar =
        (handle .decimal v masukLagi).1.map Respons.tanpaKabar ∧
      v.server.ajax (some "budi") [("p", "summary")] hariBuka = .ok .unauthorized := by
  obtain ⟨hstatus, hrow⟩ := access_follows_row .decimal World.pertama nonaktifLaluHapus
  have hakun : (serve .decimal World.pertama nonaktifLaluHapus).db.akun "budi" = none := by
    decide +kernel
  have huser : ((serve .decimal World.pertama nonaktifLaluHapus).session profilLagi.sid).user =
      some "budi" := by
    decide +kernel
  obtain ⟨hlogin, hpage, hajax⟩ := hrow "budi" hakun
  obtain ⟨hrefused, hsame⟩ := hpage profilLagi rfl huser
  obtain ⟨-, hanswers, -⟩ := hstatus fun _ => some "TDK AKTIF"
  exact ⟨huser, hrefused, hsame, hlogin masukLagi, hanswers masukLagi, hajax _ _⟩

def ajaxMenolak : Except Galat AjaxHasil → Bool
  | .ok .unauthorized => true
  | _ => false

/-- The deactivated resident's session goes on changing the tables, and a new login is
accepted. -/
theorem deactivated_has_access :
    let v := serve .decimal World.pertama nonaktif
    (v.db.akun "budi").bind Login.status = some "TDK AKTIF" ∧
      (v.session 3).user = some "budi" ∧
      (handle .decimal v (ajukan 3 hariBuka "profil_edit" [("nama", "B")])).1 =
        .ok (.loginIndex (.alihkan .settings .suksesEdit)) ∧
      ((step .decimal v (ajukan 3 hariBuka "profil_edit" [("nama", "B")])).db.akun "budi").bind
        Login.nama = some "B" ∧
      v.server.ajax (v.session 3).user [("p", "summary")] hariBuka ≠ .ok .unauthorized ∧
      masukSebagai (handle .decimal (step .decimal v (Request.kirim 4 .index hariBuka []))
        (Request.kirim 4 .index hariBuka [("csrf_token", "7f3a"), ("username", "budi"),
          ("password", "b"), ("tombol", "login")])).1 = some "budi" := by
  suffices h : _ ∧ ((serve .decimal World.pertama nonaktif).session 3).user = some "budi" ∧ _ ∧ _ ∧
      ajaxMenolak ((serve .decimal World.pertama nonaktif).server.ajax (some "budi")
        [("p", "summary")] hariBuka) = false ∧ _ by
    obtain ⟨hstatus, huser, hprofil, hnama, hajax, hmasuk⟩ := h
    refine ⟨hstatus, huser, hprofil, hnama, ?_, hmasuk⟩
    intro hrefused
    rw [huser] at hrefused
    simp only [hrefused, ajaxMenolak, Bool.true_eq_false] at hajax
  decide +kernel

end SistemAir
