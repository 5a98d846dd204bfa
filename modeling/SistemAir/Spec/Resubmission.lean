import SistemAir.Spec.Audit
import SistemAir.Spec.Freeze
import SistemAir.Spec.LastMeter
import SistemAir.Spec.Sessions

/-! A form sent twice. What the first request did decides the second: a stored key or
reading is found again, an assignment has nothing left to assign, a deletion nothing to
delete, and a guard that refused the first refuses the second. -/
namespace SistemAir

open KeyedTable StatementProgram Prog

/-- The same request once more in the same month; its clock and what it draws differ. -/
structure Ulangan (q q' : Request) : Prop where
  sama : q' = { q with clock := q'.clock, token := q'.token, salt := q'.salt }
  sepakat : q.clock.Agree
  sepakat' : q'.clock.Agree
  bulan : q'.clock.php.date.monthIndex = q.clock.php.date.monthIndex
  urut : q.clock.php.seconds ≤ q'.clock.php.seconds

def aksiFormulir : List String :=
  aksiAdminSaja ++ aksiAdminBendahara ++ aksiPencatatMeter ++ ["profil_edit"]

/-- One of the eleven forms: the two that may assign a password leave it empty, and
meter_add has its username field. -/
structure Formulir (q : Request) : Prop where
  asks : q.page = .loginIndex ∧ (∃ tombol ∈ aksiFormulir, q.tombol = some tombol) ∨
    q.page = .index ∧ q.tombol.map strtolower = some "register_warga"
  sandi : q.tombol ∈ [some "user_edit", some "profil_edit"] →
    isEmpty (q.post.get? "passwet") = true
  lengkap : q.tombol = some "meter_add" → (q.post.get? "username").isSome

/-- A request to index.php that the rate limit stops is still stopped when it comes again. -/
def BatasTetap (w : World) (q q' : Request) : Prop :=
  q.page = .index → 5 ≤ w.db.countAttempts q.ip q.clock.sql.seconds →
    5 ≤ w.db.countAttempts q.ip q'.clock.sql.seconds

section Ulangan
variable {q q' : Request} (h : Ulangan q q')
include h

theorem Ulangan.sid : q'.sid = q.sid := by rw [h.sama]

theorem Ulangan.page : q'.page = q.page := by rw [h.sama]

theorem Ulangan.post : q'.post = q.post := by rw [h.sama]

theorem Ulangan.ip : q'.ip = q.ip := by rw [h.sama]

theorem Ulangan.tombol : q'.tombol = q.tombol := congrArg (·.get? "tombol") h.post

theorem Ulangan.adaBulan (db : Db) (u : Option String) :
    db.adaBulan u q'.clock.php.date = db.adaBulan u q.clock.php.date := by
  obtain ⟨hmonth, hyear⟩ := (Date.monthIndex_eq_iff _ _).mp h.bulan
  rw [Db.adaBulan, Db.adaBulan, hmonth, hyear]

theorem Ulangan.locked {level : Level} {tgl : Option Date}
    (hpast : ∀ d ∈ tgl, d.epochDays ≤ q.clock.php.date.epochDays)
    (hlocked : locked level tgl q.clock = true) : locked level tgl q'.clock = true := by
  cases tgl with
  | none => cases hlocked
  | some d =>
    have hle := hpast d rfl
    simp only [SistemAir.locked, Bool.and_eq_true, decide_eq_true_eq] at hlocked
    obtain ⟨rfl, hdays⟩ := hlocked
    have hlama : LewatTigaPuluhHari d q.clock.php := by
      unfold daysSince at hdays
      rw [if_pos hle] at hdays
      unfold LewatTigaPuluhHari
      omega
    exact hlama.locked h.urut

end Ulangan

theorem ensureToken_some {token : String} (h : isEmpty (some token) = false) (fresh : String) :
    ensureToken (some token) fresh = token := by
  simp [ensureToken, h]

theorem isEmpty_ensureToken {fresh : String} (h : isEmpty (some fresh) = false)
    (token : Option String) : isEmpty (some (ensureToken token fresh)) = false := by
  unfold ensureToken
  cases htoken : isEmpty token with
  | true => simpa using h
  | false =>
    obtain ⟨t, rfl⟩ := exists_of_isEmpty htoken
    simpa using htoken

/-! ## The second request passes only where the first did -/

section Guards
variable {php : Php} {w : World} {q q' : Request} {actor tombol : String} {level : Level}

theorem sessionAfter_kept (s : Session) (token : String) {out : Except Galat Hasil}
    (h : ∀ hasil, out = .ok hasil → hasil.menolakSesi = false) :
    (sessionAfter s token out).user = s.user ∧ (sessionAfter s token out).csrfToken = some token := by
  cases out with
  | error galat => exact ⟨rfl, rfl⟩
  | ok hasil =>
    have hkept := h hasil rfl
    cases hasil with
    | sesiTidakValid => cases hkept
    | alihkan slot res => cases slot <;> exact ⟨rfl, rfl⟩
    | _ => exact ⟨rfl, rfl⟩

theorem session_sebelum (hpage : q.page = .loginIndex)
    (huser : ((step php w q).session q.sid).user = some actor)
    (hnamed : isEmpty (some actor) = false) :
    (w.session q.sid).user = some actor ∧ idle (w.session q.sid) q.clock.time = false ∧
      w.db.levelOf (some actor) ≠ none ∧
      ((step php w q).session q.sid).csrfToken = some (w.csrfToken q) := by
  have hstep : step php w q = (handleLoginIndex php w q).2 := by simp only [step, handle, hpage]
  rw [hstep] at huser ⊢
  cases hanon : isEmpty (w.session q.sid).user with
  | true =>
    rw [handleLoginIndex_anonymous hanon] at huser
    rw [show (w.session q.sid).user = some actor from huser, hnamed] at hanon
    cases hanon
  | false =>
    obtain ⟨u, hu⟩ := exists_of_isEmpty hanon
    cases hidle : idle (w.session q.sid) q.clock.time with
    | true =>
      rw [handleLoginIndex_idle hanon hidle] at huser
      simp only [Function.update_self] at huser
      cases huser
    | false =>
      rw [hu] at hanon
      cases hlevel : w.db.levelOf (some u) with
      | none =>
        rw [handleLoginIndex_noLevel hu hanon hidle hlevel] at huser
        simp only [Function.update_self] at huser
        cases huser
      | some level =>
        have hopen := handleLoginIndex_open php hu hanon hidle
        obtain ⟨hkept, htoken⟩ := sessionAfter_kept
          { w.session q.sid with lastActivity := some q.clock.time } (w.csrfToken q)
          fun hasil hout => menolakSesi_loginIndex php q u level (s := w.opened q) hlevel hout
        rw [hopen] at huser ⊢
        simp only [Function.update_self] at huser ⊢
        obtain rfl : u = actor := Option.some.inj (hu.symm.trans (hkept.symm.trans huser))
        exact ⟨hu, trivial, by rw [hlevel]; exact Option.some_ne_none _, htoken⟩

/-- A request that repeats another and reaches the dispatcher repeats one that did. -/
theorem authorized_sebelum (h : Ulangan q q') (htoken : isEmpty (some q.token) = false)
    (hauth : Authorized (step php w q) q' actor level tombol) :
    ∃ level₀, Authorized w q actor level₀ tombol := by
  have hpage : q.page = .loginIndex := h.page ▸ hauth.page
  obtain ⟨huser, hactive, hlevel, hstored⟩ :=
    session_sebelum hpage (h.sid ▸ hauth.user) hauth.named
  obtain ⟨level₀, hlevel⟩ := Option.ne_none_iff_exists'.mp hlevel
  have hsame : (step php w q).csrfToken q' = w.csrfToken q := by
    have hdrawn : isEmpty (some (w.csrfToken q)) = false := isEmpty_ensureToken htoken _
    rw [World.csrfToken, h.sid, hstored, ensureToken_some hdrawn]
  have hposted : tokenRefused (w.csrfToken q) (q.post.get? "csrf_token") = false := by
    rw [← hsame, ← h.post]
    exact hauth.token
  refine ⟨level₀, hpage, huser, hauth.named, hactive, hlevel, h.tombol ▸ hauth.asks, hposted, ?_⟩
  -- A refusal would have left the level at which the second request is let through.
  cases hrole : roleRefused level₀ tombol with
  | false => rfl
  | true =>
    have hdb : (step php w q).db = w.db := by
      rw [World.db, server_of_open php hpage huser hauth.named hactive,
        run_loginIndex php q _ (w.opened q) hlevel, ← h.tombol, hauth.asks]
      simp only [hposted, hrole, if_true, Bool.false_eq_true, if_false]
      rfl
    have hsecond := hauth.hasLevel
    rw [hdb, hlevel] at hsecond
    rw [Option.some.inj hsecond, hauth.role] at hrole
    cases hrole

end Guards

/-! ## The handlers -/

section Handlers
variable {php : Php} {w : World} {q q' : Request} {actor : String} {level₀ level : Level}

theorem leaves_of_authorized (php : Php) {tombol : String} (hauth : Authorized w q actor level tombol) :
    Leaves php q actor level tombol w.db (step php w q).db := by
  rw [db_of_authorized hauth]
  exact leaves_dispatch (s := w.opened q) rfl

theorem sama_of_run {tombol : String} {answer : Except Galat Hasil}
    (hauth : Authorized w q actor level tombol)
    (hrun : (dispatch php q actor level tombol).run exec (w.opened q) = (answer, w.opened q)) :
    w.db.SamaTabel (step php w q).db := by
  rw [db_of_authorized hauth, hrun]
  exact .refl _

theorem akun_after_userAdd {u : String} (hauth : Authorized w q actor level "user_add")
    (hpost : q.post.get? "yuser" = some u) : ∃ a, (step php w q).db.akun u = some a := by
  rw [db_of_authorized hauth, dispatch]
  cases ha : (w.opened q).db.akun u with
  | some a =>
    rw [run_userAdd_taken php actor level q.salt q.post (w.opened q) hpost ha]
    exact ⟨a, ha⟩
  | none =>
    obtain ⟨login', hrows, hrun⟩ := run_userAdd php actor level q.salt q.post (w.opened q) hpost ha
    have hfind : login'.find? u = some (Login.posted php q.salt q.post u) := by
      rw [Table.find?_of_rows_append _ hrows, show Table.find? _ u = none from ha]
      exact if_pos rfl
    rw [hrun]
    exact ⟨_, hfind⟩

theorem ulang_userAdd (h : Ulangan q q') (h₁ : Authorized w q actor level₀ "user_add")
    (h₂ : Authorized (step php w q) q' actor level "user_add") :
    (step php w q).db.SamaTabel (step php (step php w q) q').db := by
  cases hpost : q.post.get? "yuser" with
  | none => exact sama_of_run h₂ (run_userAdd_none php actor level _ _ _ (h.post ▸ hpost))
  | some u =>
    obtain ⟨a, ha⟩ := akun_after_userAdd h₁ hpost
    exact sama_of_run h₂ (run_userAdd_taken php actor level _ _ _ (h.post ▸ hpost) ha)

theorem tarif_after_tarifAdd {id : String} {tarif : Option Decimal}
    (hauth : Authorized w q actor level "tarif_add") (hpost : q.post.get? "id_tarif" = some id)
    (htarif : readOperand php (q.post.get? "tarif") = some tarif) :
    ∃ t, (step php w q).db.tarif.find? id = some t := by
  rw [db_of_authorized hauth, dispatch]
  cases ht : (w.opened q).db.tarif.find? id with
  | some t =>
    rw [run_tarifAdd_taken php actor level q.post (w.opened q) hpost ht]
    exact ⟨t, ht⟩
  | none =>
    obtain ⟨tarif', hrows, hrun⟩ := run_tarifAdd php actor level q.post (w.opened q) hpost ht htarif
    have hfind : tarif'.find? id =
        some ⟨id, q.post.get? "tipe_tarif", tarif, q.post.get? "status"⟩ := by
      rw [Table.find?_of_rows_append _ hrows, ht]
      exact if_pos rfl
    rw [hrun]
    exact ⟨_, hfind⟩

theorem ulang_tarifAdd (h : Ulangan q q') (h₁ : Authorized w q actor level₀ "tarif_add")
    (h₂ : Authorized (step php w q) q' actor level "tarif_add") :
    (step php w q).db.SamaTabel (step php (step php w q) q').db := by
  cases hfound : (q.post.get? "id_tarif").bind (step php w q).db.tarif.find? with
  | some t =>
    obtain ⟨id, hpost, ht⟩ := Option.bind_eq_some_iff.mp hfound
    exact sama_of_run h₂ (run_tarifAdd_taken php actor level _ _ (h.post ▸ hpost) ht)
  | none =>
    -- An id still free after the first request was never going to be stored.
    have hbad : readOperand php (q.post.get? "tarif") = none ∨ q.post.get? "id_tarif" = none := by
      by_contra hgood
      rw [not_or] at hgood
      obtain ⟨tarif, htarif⟩ := Option.ne_none_iff_exists'.mp hgood.1
      obtain ⟨id, hpost⟩ := Option.ne_none_iff_exists'.mp hgood.2
      obtain ⟨t, ht⟩ := tarif_after_tarifAdd h₁ hpost htarif
      rw [hpost, Option.bind_some, ht] at hfound
      cases hfound
    obtain ⟨galat, hrun⟩ := run_tarifAdd_rejected php actor level q'.post
      ((step php w q).opened q') (h.post ▸ hfound) (h.post ▸ hbad)
    exact sama_of_run h₂ hrun

theorem ulang_userEdit (h : Ulangan q q') (hsandi : isEmpty (q.post.get? "passwet") = true)
    (h₁ : Authorized w q actor level₀ "user_edit")
    (h₂ : Authorized (step php w q) q' actor level "user_edit") :
    (step php w q).db.SamaTabel (step php (step php w q) q').db := by
  obtain ⟨entries, hfirst⟩ := userEdit_db php h₁
  obtain ⟨entries', hsecond⟩ := userEdit_db php h₂
  rw [hsecond, hfirst, h.post]
  have hdiam (r : Login) : Login.edited php q'.salt q.post (Login.edited php q.salt q.post r) =
      Login.edited php q.salt q.post r := by
    simp [Login.edited, Login.setUser, newPassword, hsandi]
  exact ⟨w.db.login.update_update (fun r => sqlEq (some r.username) (q.post.get? "yuser"))
    (Login.edited php q.salt q.post) (fun _ => rfl) (Login.edited php q'.salt q.post)
    (fun _ => rfl) (fun _ => rfl) hdiam, rfl, rfl⟩

theorem ulang_profilEdit (h : Ulangan q q') (hsandi : isEmpty (q.post.get? "passwet") = true)
    (h₁ : Authorized w q actor level₀ "profil_edit")
    (h₂ : Authorized (step php w q) q' actor level "profil_edit") :
    (step php w q).db.SamaTabel (step php (step php w q) q').db := by
  obtain ⟨entries, hfirst⟩ := profilEdit_db php h₁
  obtain ⟨entries', hsecond⟩ := profilEdit_db php h₂
  rw [hsecond, hfirst, h.post]
  have hdiam (r : Login) : Login.profiled php q'.salt q.post (Login.profiled php q.salt q.post r) =
      Login.profiled php q.salt q.post r := by
    simp [Login.profiled, Login.setProfil, newPassword, hsandi]
  exact ⟨w.db.login.update_update (fun r => r.username = actor)
    (Login.profiled php q.salt q.post) (fun _ => rfl) (Login.profiled php q'.salt q.post)
    (fun _ => rfl) (fun _ => rfl) hdiam, rfl, rfl⟩

theorem ulang_tarifEdit (h : Ulangan q q') (h₁ : Authorized w q actor level₀ "tarif_edit")
    (h₂ : Authorized (step php w q) q' actor level "tarif_edit") :
    (step php w q).db.SamaTabel (step php (step php w q) q').db := by
  cases htarif : readOperand php (q.post.get? "tarif") with
  | none => exact sama_of_run h₂ (run_tarifEdit_rejected php actor level _ _ (h.post ▸ htarif))
  | some tarif =>
    obtain ⟨entries, hfirst⟩ := tarifEdit_db h₁ htarif
    obtain ⟨entries', hsecond⟩ := tarifEdit_db h₂ (h.post ▸ htarif)
    rw [hsecond, hfirst, h.post]
    let f : Tarif → Tarif := Tarif.set (q.post.get? "tipe_tarif") tarif (q.post.get? "status")
    exact ⟨rfl, w.db.tarif.update_update
      (fun r => sqlEq (some r.idTarif) (q.post.get? "id_tarif_lama")) f (fun _ => rfl) f
      (fun _ => rfl) (fun _ => rfl) fun _ => rfl, rfl⟩

theorem ulang_userHapus (h : Ulangan q q') (h₁ : Authorized w q actor level₀ "user_hapus")
    (h₂ : Authorized (step php w q) q' actor level "user_hapus") :
    (step php w q).db.SamaTabel (step php (step php w q) q').db := by
  obtain ⟨entries, hfirst⟩ := userHapus_db php h₁
  obtain ⟨entries', hsecond⟩ := userHapus_db php h₂
  rw [hsecond, hfirst, h.post]
  exact ⟨Table.delete_delete _ _, rfl, AutoTable.delete_delete _ _⟩

theorem ulang_tarifHapus (h : Ulangan q q') (h₁ : Authorized w q actor level₀ "tarif_hapus")
    (h₂ : Authorized (step php w q) q' actor level "tarif_hapus") :
    (step php w q).db.SamaTabel (step php (step php w q) q').db := by
  obtain ⟨entries, hfirst⟩ := tarifHapus_db php h₁
  obtain ⟨entries', hsecond⟩ := tarifHapus_db php h₂
  rw [hsecond, hfirst, h.post]
  exact ⟨rfl, Table.delete_delete _ _, rfl⟩

theorem adaBulan_after_meterAdd {b : Reading} (hauth : Authorized w q actor level "meter_add")
    (hagree : q.clock.Agree) (huser : (q.post.get? "username").isSome)
    (hpost : Reading.ofPost php q.post = some b) (hpos : 0 ≤ b.pemakaian) :
    (step php w q).db.adaBulan (q.post.get? "username") q.clock.php.date = true := by
  cases hada : w.db.adaBulan (q.post.get? "username") q.clock.php.date with
  | true =>
    have hfound : (w.opened q).sudahDicatat (q.post.get? "username") = true := hada
    rw [db_of_authorized hauth, dispatch, run_meterAdd, hpost]
    simp only [hfound, if_true]
    exact hada
  | false =>
    have hadds : Adds php w q actor level b :=
      ⟨hauth, hpost, Nat.eq_zero_of_not_pos (of_decide_eq_false hada), hpos⟩
    refine adaBulan_iff.mpr ⟨_, hadds.mem_rows, inMonth_iff.mpr ⟨?_, ?_⟩⟩
    · exact sqlEq_iff.mpr ⟨huser, rfl⟩
    · exact congrArg Date.monthIndex (show q.clock.sql.date = q.clock.php.date from hagree.symm)

theorem ulang_meterAdd (h : Ulangan q q') (huser : (q.post.get? "username").isSome)
    (h₁ : Authorized w q actor level₀ "meter_add")
    (h₂ : Authorized (step php w q) q' actor level "meter_add") :
    (step php w q).db.SamaTabel (step php (step php w q) q').db := by
  rw [db_of_authorized h₂, dispatch, run_meterAdd, h.post]
  cases hpost : Reading.ofPost php q.post with
  | none => exact .refl _
  | some b =>
    dsimp only
    split
    · exact .refl _
    rename_i hfree
    split
    · exact .refl _
    · rename_i hpos
      have hada := adaBulan_after_meterAdd h₁ h.sepakat huser hpost (not_lt.mp hpos)
      rw [← h.adaBulan] at hada
      exact absurd hada hfree

theorem terkunci_ulang (php : Php) (h : Ulangan q q')
    (hpast : ∀ r ∈ w.db.pemakaian.rows, r.tgl.epochDays ≤ q.clock.php.date.epochDays)
    (hlocked : (w.opened q).terkunci php level q.post = true) :
    (w.opened q').terkunci php level q'.post = true := by
  unfold Server.terkunci at hlocked ⊢
  rw [h.post]
  refine h.locked (fun d hd => ?_) hlocked
  obtain ⟨r, hr, rfl⟩ := Option.map_eq_some_iff.mp hd
  exact hpast r (List.mem_of_find?_eq_some hr)

theorem terbuka_sebelum {tombol : String} (h : Ulangan q q')
    (hpast : ∀ r ∈ w.db.pemakaian.rows, r.tgl.epochDays ≤ q.clock.php.date.epochDays)
    (h₁ : Authorized w q actor level₀ tombol)
    (h₂ : Authorized (step php w q) q' actor level tombol)
    (htutup : (w.opened q).terkunci php level₀ q.post = true →
      (dispatch php q actor level₀ tombol).run exec (w.opened q) = (.ok .terkunci, w.opened q))
    (hopen : ((step php w q).opened q').terkunci php level q'.post = false) :
    (w.opened q).terkunci php level₀ q.post = false := by
  cases hlocked : (w.opened q).terkunci php level₀ q.post with
  | false => rfl
  | true =>
    have hsame : (step php w q).db = w.db := by
      rw [db_of_authorized h₁, htutup hlocked, World.opened_db]
    have hlevel : level₀ = level := by
      have hsecond := h₂.hasLevel
      rw [hsame, h₁.hasLevel] at hsecond
      exact Option.some.inj hsecond
    have hagain := terkunci_ulang php h hpast hlocked
    have hopen' : (w.opened q').terkunci php level q'.post = false := by
      unfold Server.terkunci at hopen ⊢
      rw [World.opened_db, hsame] at hopen
      exact hopen
    rw [hlevel, hopen'] at hagain
    cases hagain

theorem editRow_ubahMeter (php : Php) (q : Request) (db : Db) (b : Reading) (entries : List AuditLog) :
    ((db.ubahMeter php q.post b).logs entries).editRow php q.post b = db.editRow php q.post b := by
  have howner : ((db.ubahMeter php q.post b).logs entries).noToUser (Db.nomor php q.post) =
      db.noToUser (Db.nomor php q.post) := by
    unfold Db.noToUser Db.pemakaianByNo
    rw [Db.logs_pemakaian, Db.rows_ubahMeter, List.find?_map]
    have hno : (Pemakaian.hasNo (Db.nomor php q.post) ∘ fun r =>
        if Pemakaian.hasNo (Db.nomor php q.post) r then db.editRow php q.post b r else r) =
        Pemakaian.hasNo (Db.nomor php q.post) := by
      funext r
      simp only [Function.comp_apply]
      split <;> rfl
    rw [hno]
    cases db.pemakaian.rows.find? (Pemakaian.hasNo (Db.nomor php q.post)) with
    | none => rfl
    | some r =>
      simp only [Option.map_some, Option.bind_some]
      split <;> rfl
  unfold Db.editRow
  rw [howner]
  rfl

theorem ulang_meterEdit (h : Ulangan q q')
    (hpast : ∀ r ∈ w.db.pemakaian.rows, r.tgl.epochDays ≤ q.clock.php.date.epochDays)
    (h₁ : Authorized w q actor level₀ "meter_edit")
    (h₂ : Authorized (step php w q) q' actor level "meter_edit") :
    (step php w q).db.SamaTabel (step php (step php w q) q').db := by
  obtain ⟨core, entries', hchange, hdb', -⟩ := leaves_of_authorized php h₂
  rw [hdb']
  cases hchange with
  | same => exact ⟨rfl, rfl, rfl⟩
  | @meterEdited _ b hpost hopen hpos =>
    have hfirst := terbuka_sebelum h hpast h₁ h₂
      (fun hlocked => (run_meterEdit php actor level₀ q.post (w.opened q)).trans (if_pos hlocked))
      hopen
    obtain ⟨entries, hdb⟩ := Edits.db ⟨h₁, h.post ▸ hpost, hfirst, hpos⟩
    rw [hdb, h.post]
    have hrow := editRow_ubahMeter php q w.db b entries
    exact ⟨rfl, rfl, w.db.pemakaian.update_update (Pemakaian.hasNo (Db.nomor php q.post))
      (w.db.editRow php q.post b) (((w.db.ubahMeter php q.post b).logs entries).editRow php q.post b)
      (fun _ => rfl) (fun _ => rfl) (fun _ => rfl) fun r => by rw [hrow]; rfl⟩
  | _ => exact absurd ‹"meter_edit" = _› (by decide)

theorem ulang_meterHapus (h : Ulangan q q')
    (hpast : ∀ r ∈ w.db.pemakaian.rows, r.tgl.epochDays ≤ q.clock.php.date.epochDays)
    (h₁ : Authorized w q actor level₀ "meter_hapus")
    (h₂ : Authorized (step php w q) q' actor level "meter_hapus") :
    (step php w q).db.SamaTabel (step php (step php w q) q').db := by
  obtain ⟨core, entries', hchange, hdb', -⟩ := leaves_of_authorized php h₂
  rw [hdb']
  cases hchange with
  | same => exact ⟨rfl, rfl, rfl⟩
  | meterRemoved _ hopen =>
    have hfirst := terbuka_sebelum h hpast h₁ h₂
      (fun hlocked => (run_meterHapus php actor level₀ q.post (w.opened q)).trans (if_pos hlocked))
      hopen
    have hremoves : Removes php w q actor level₀ := ⟨h₁, hfirst⟩
    obtain ⟨entries, hdb⟩ := hremoves.db
    rw [hdb, h.post]
    exact ⟨rfl, rfl, AutoTable.delete_delete _ _⟩
  | _ => exact absurd ‹"meter_hapus" = _› (by decide)

end Handlers

/-! ## The registration -/

section Register
variable {php : Php} {w : World} {q q' : Request}

theorem csrfTokenLogin_kept (hpage : q.page = .index) {pesan : Option PesanIndex}
    (hanswer : ((index php q (w.csrfTokenLogin q)).run exec (w.opened q)).1 =
      .ok (.halaman pesan)) :
    ((step php w q).session q.sid).csrfTokenLogin = some (w.csrfTokenLogin q) := by
  have hhandle : (handleIndex php w q).1 = .ok (.halaman pesan) := hanswer
  rw [session_step_index php hpage, hhandle]
  rfl

theorem ulang_register (h : Ulangan q q') (htoken : isEmpty (some q.token) = false)
    (hpage : q.page = .index) (hasks : q.tombol.map strtolower = some "register_warga")
    (hlimit : BatasTetap w q q') :
    (step php w q).db.SamaTabel (step php (step php w q) q').db := by
  have hserver := (handle_of_index php (w := w) hpage).2
  have hserver' := (handle_of_index php (w := step php w q) (h.page.trans hpage)).2
  rcases run_index_register php ((step php w q).opened q')
    ((step php w q).csrfTokenLogin q') (h.tombol ▸ hasks) with
    ⟨-, _, -, hrun'⟩ | ⟨hagain, -⟩
  · rw [World.db, World.db, hserver', hrun']
    exact .refl _
  have hfree := hagain.fresh
  rw [World.opened_db, h.post] at hfree
  rcases run_index_register php (w.opened q) (w.csrfTokenLogin q) hasks with
    ⟨hrefused, pesan, -, hrun⟩ | ⟨-, login', hrows, hrun⟩
  · -- The first one had the same token and username, and no more attempts to account for.
    have hsame : (step php w q).db = w.db := by
      rw [World.db, hserver, hrun]
      rfl
    have hdrawn : isEmpty (some (w.csrfTokenLogin q)) = false := isEmpty_ensureToken htoken _
    have hkept := csrfTokenLogin_kept hpage (congrArg Prod.fst hrun)
    have hsametoken : (step php w q).csrfTokenLogin q' = w.csrfTokenLogin q := by
      rw [World.csrfTokenLogin, h.sid, hkept, ensureToken_some hdrawn]
    refine absurd ⟨?_, fun hmany => hagain.limit ?_, ?_⟩ hrefused
    · rw [← hsametoken, ← h.post]
      exact hagain.token
    · rw [World.opened_db, hsame, h.ip]
      exact hlimit hpage hmany
    · rw [hsame] at hfree
      exact hfree
  · have htaken : (step php w q).db.akun (Login.registered php q.salt q.post).username =
        some (Login.registered php q.salt q.post) := by
      rw [World.db, hserver, hrun]
      exact login'.find?_of_mem (by rw [hrows]; simp)
    exact absurd (htaken.symm.trans hfree) (Option.some_ne_none _)

end Register

/-- The same form sent twice in one session and month: in every reachable state, whatever
the fields say and whatever the first request did to the tables or to its own account, the
second leaves them as they are, where the rate limit does not let go in between. -/
theorem resubmission_harmless (php : Php) {w₀ : World} (hempty : w₀.db.pemakaian.rows = [])
    (qs : List Request) {q q' : Request} (hform : Formulir q) (h : Ulangan q q')
    (htoken : isEmpty (some q.token) = false)
    (hpast : ∀ p ∈ qs, p.clock.sql.date.epochDays ≤ q.clock.php.date.epochDays)
    (hlimit : BatasTetap (serve php w₀ qs) q q') :
    (step php (serve php w₀ qs) q).db.SamaTabel
      (step php (step php (serve php w₀ qs) q) q').db := by
  have hrows : ∀ r ∈ (serve php w₀ qs).db.pemakaian.rows,
      r.tgl.epochDays ≤ q.clock.php.date.epochDays := by
    intro r hr
    obtain ⟨p, hp, htgl⟩ := tgl_of_run php hempty qs r hr
    rw [htgl]
    exact hpast p hp
  generalize serve php w₀ qs = w at hlimit hrows ⊢
  rcases hform.asks with ⟨hpage, tombol, hmem, hasks⟩ | ⟨hpage, hasks⟩
  · rcases step_cases php (step php w q) q' with
      ⟨hserver, -⟩ | ⟨hindex, -⟩ | ⟨actor, level, tombol', h₂, -⟩
    · rw [World.db, World.db, hserver]
      exact .refl _
    · rw [h.page, hpage] at hindex
      cases hindex
    · obtain rfl : tombol = tombol' :=
        Option.some.inj (hasks.symm.trans (h.tombol.symm.trans h₂.asks))
      obtain ⟨level₀, h₁⟩ := authorized_sebelum h htoken h₂
      have hsandi := hform.sandi
      have hlengkap := hform.lengkap
      rw [hasks] at hsandi hlengkap
      simp only [aksiFormulir, aksiAdminSaja, aksiAdminBendahara, aksiPencatatMeter,
        List.cons_append, List.nil_append, List.mem_cons, List.not_mem_nil, or_false] at hmem
      rcases hmem with rfl | rfl | rfl | rfl | rfl | rfl | rfl | rfl | rfl | rfl
      · exact ulang_userAdd h h₁ h₂
      · exact ulang_userEdit h (hsandi (by simp)) h₁ h₂
      · exact ulang_userHapus h h₁ h₂
      · exact ulang_tarifAdd h h₁ h₂
      · exact ulang_tarifEdit h h₁ h₂
      · exact ulang_tarifHapus h h₁ h₂
      · exact ulang_meterAdd h (hlengkap rfl) h₁ h₂
      · exact ulang_meterEdit h hrows h₁ h₂
      · exact ulang_meterHapus h hrows h₁ h₂
      · exact ulang_profilEdit h (hsandi (by simp)) h₁ h₂
  · exact ulang_register h htoken hpage hasks hlimit

def Request.lagi (q : Request) (s : Stamp) : Request :=
  { q with clock := Clock.at s, token := "c0de", salt := "y" }

def agakSiang : Stamp := { hariBuka with time := 29760 }

/-- A reading sent twice is stored once. -/
theorem resubmission_harmless_reading :
    let w := step .decimal (serve .decimal World.pertama kantor) (catatSepuluh "budi")
    w.db.SamaTabel (step .decimal w ((catatSepuluh "budi").lagi agakSiang)).db := by
  have hform : Formulir (catatSepuluh "budi") :=
    ⟨.inl ⟨rfl, "meter_add", by decide, by decide⟩, by decide, by decide⟩
  have hulang : Ulangan (catatSepuluh "budi") ((catatSepuluh "budi").lagi agakSiang) :=
    ⟨rfl, rfl, rfl, rfl, by decide⟩
  exact resubmission_harmless .decimal rfl kantor hform hulang (by decide) (by decide +kernel) nofun

def limaTebakan : List Request :=
  Request.kirim 3 .index hariBuka [] :: List.replicate 5 (Request.kirim 3 .index hariBuka
    [("csrf_token", "7f3a"), ("username", "admin"), ("password", "salah"), ("tombol", "login")])

def daftarBudi : Request :=
  Request.kirim 3 .index hariBuka
    [("csrf_token", "7f3a"), ("reg_username", "budi"), ("reg_password", "b"),
      ("reg_nama", "Budi"), ("reg_tipe", "RT"), ("tombol", "register_warga")]

/-- The first registration comes too soon after the wrong passwords, its repetition does
not, and is stored. -/
theorem resubmission_after_limit :
    let w := step .decimal (serve .decimal World.pertama limaTebakan) daftarBudi
    Formulir daftarBudi ∧ Ulangan daftarBudi (daftarBudi.lagi agakSiang) ∧
      ¬w.db.SamaTabel (step .decimal w (daftarBudi.lagi agakSiang)).db := by
  refine ⟨⟨.inr ⟨rfl, by decide⟩, by decide, by decide⟩, ⟨rfl, rfl, rfl, rfl, by decide⟩, ?_⟩
  intro h
  have hrows := congrArg (fun login => login.rows.length) h.login
  revert hrows
  decide +kernel

end SistemAir
