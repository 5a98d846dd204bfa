import SistemAir.Model.World

/-! What a request gets past: a request either leaves every table alone, or it is
one to index.php, or it is a POST of an accepted session to login/index.php that
passed the token and role guards. -/
namespace SistemAir

open StatementProgram Prog

def World.opened (w : World) (q : Request) : Server := { w.server with clock := q.clock }

@[simp] theorem World.opened_db (w : World) (q : Request) : (w.opened q).db = w.db := rfl

@[simp] theorem World.opened_clock (w : World) (q : Request) : (w.opened q).clock = q.clock := rfl

def World.csrfToken (w : World) (q : Request) : String :=
  ensureToken (w.session q.sid).csrfToken q.token

def World.csrfTokenLogin (w : World) (q : Request) : String :=
  ensureToken (w.session q.sid).csrfTokenLogin q.token

/-- The request reaches the dispatcher of login/index.php. -/
structure Authorized (w : World) (q : Request) (actor : String) (level : Level)
    (tombol : String) : Prop where
  page : q.page = .loginIndex
  user : (w.session q.sid).user = some actor
  named : isEmpty (some actor) = false
  active : idle (w.session q.sid) q.clock.time = false
  hasLevel : w.db.levelOf (some actor) = some level
  asks : q.tombol = some tombol
  token : tokenRefused (w.csrfToken q) (q.post.get? "csrf_token") = false
  role : roleRefused level tombol = false

theorem Authorized.unique {w : World} {q : Request} {actor actor' tombol tombol' : String}
    {level level' : Level} (h : Authorized w q actor level tombol)
    (h' : Authorized w q actor' level' tombol') :
    actor = actor' ∧ level = level' ∧ tombol = tombol' := by
  have hactor := Option.some.inj (h.user.symm.trans h'.user)
  have htombol := Option.some.inj (h.asks.symm.trans h'.asks)
  subst hactor
  exact ⟨rfl, Option.some.inj (h.hasLevel.symm.trans h'.hasLevel), htombol⟩

instance (w : World) (q : Request) (actor : String) (level : Level) (tombol : String) :
    Decidable (Authorized w q actor level tombol) :=
  decidable_of_iff (q.page = .loginIndex ∧ (w.session q.sid).user = some actor ∧
      isEmpty (some actor) = false ∧ idle (w.session q.sid) q.clock.time = false ∧
      w.db.levelOf (some actor) = some level ∧ q.tombol = some tombol ∧
      tokenRefused (w.csrfToken q) (q.post.get? "csrf_token") = false ∧
      roleRefused level tombol = false)
    ⟨fun ⟨h₁, h₂, h₃, h₄, h₅, h₆, h₇, h₈⟩ => ⟨h₁, h₂, h₃, h₄, h₅, h₆, h₇, h₈⟩,
      fun h => ⟨h.page, h.user, h.named, h.active, h.hasLevel, h.asks, h.token, h.role⟩⟩

/-! ## Which levels the role guard lets through -/

section Role
variable {level : Level} {tombol : String}

theorem admin_of_role (h : roleRefused level tombol = false) (ht : tombol ∈ aksiAdminSaja) :
    level = .admin := by
  simp only [roleRefused, Bool.or_eq_false_iff, Bool.and_eq_false_iff] at h
  rcases h.1.1 with h | h
  · simp [ht] at h
  · simpa using h

theorem bendahara_of_role (h : roleRefused level tombol = false)
    (ht : tombol ∈ aksiAdminBendahara) : level = .admin ∨ level = .bendahara := by
  simp only [roleRefused, Bool.or_eq_false_iff, Bool.and_eq_false_iff] at h
  rcases h.1.2 with h | h
  · simp [ht] at h
  · cases level <;> simp_all

theorem pencatat_of_role (h : roleRefused level tombol = false)
    (ht : tombol ∈ aksiPencatatMeter) :
    level = .admin ∨ level = .bendahara ∨ level = .petugas := by
  simp only [roleRefused, Bool.or_eq_false_iff, Bool.and_eq_false_iff] at h
  rcases h.2 with h | h
  · simp [ht] at h
  · cases level <;> simp_all

end Role

section Dispatcher
variable (php : Php) {w : World} {q : Request} {actor tombol token : String} {level : Level}

theorem handle_of_index (hpage : q.page = .index) :
    (handle php w q).1 =
        ((index php q (w.csrfTokenLogin q)).run exec (w.opened q)).1.map .index ∧
      (step php w q).server =
        ((index php q (w.csrfTokenLogin q)).run exec (w.opened q)).2 := by
  constructor
  · simp only [handle, hpage]
    rfl
  · simp only [step, handle, hpage]
    rfl

theorem run_loginIndex_noLevel (s : Server) (h : s.db.levelOf (some actor) = none) :
    (loginIndex php q actor token).run exec s = (.ok .sesiTidakValid, s) := by
  unfold loginIndex
  rw [run_bind_ok exec (run_dtUser s actor)]
  have hlevel : (s.db.akun actor).map Login.level = none := h
  rw [hlevel]
  rfl

theorem run_loginIndex (q : Request) (token : String) (s : Server)
    (h : s.db.levelOf (some actor) = some level) :
    (loginIndex php q actor token).run exec s =
      match q.tombol with
      | none => (.ok (render level q (.halaman none)), s)
      | some tombol =>
        if tokenRefused token (q.post.get? "csrf_token") then (.ok .kadaluarsa, s)
        else if roleRefused level tombol then (.ok .ditolak, s)
        else
          let out := (dispatch php q actor level tombol).run exec s
          (out.1.map (render level q), out.2) := by
  unfold loginIndex
  rw [run_bind_ok exec (run_dtUser s actor)]
  have hlevel : (s.db.akun actor).map Login.level = some level := h
  rw [hlevel]
  cases q.tombol with
  | none => rfl
  | some tombol =>
    dsimp only
    split
    · rfl
    · split
      · rfl
      · exact run_bind_pure exec _ s (render level q)

theorem handleLoginIndex_open (huser : (w.session q.sid).user = some actor)
    (hnamed : isEmpty (some actor) = false)
    (hactive : idle (w.session q.sid) q.clock.time = false) :
    let out := (loginIndex php q actor (w.csrfToken q)).run exec (w.opened q)
    handleLoginIndex php w q = (out.1, ⟨out.2, Function.update w.session q.sid
      (sessionAfter { w.session q.sid with lastActivity := some q.clock.time } (w.csrfToken q)
        out.1)⟩) := by
  unfold handleLoginIndex
  rw [← huser] at hnamed
  simp only [hnamed, hactive, Bool.false_eq_true, if_false]
  simp only [huser, orEmpty, Option.getD_some]
  rfl

theorem server_of_open (hpage : q.page = .loginIndex)
    (huser : (w.session q.sid).user = some actor) (hnamed : isEmpty (some actor) = false)
    (hactive : idle (w.session q.sid) q.clock.time = false) :
    (step php w q).server =
      ((loginIndex php q actor (w.csrfToken q)).run exec (w.opened q)).2 := by
  simp only [step, handle, hpage, handleLoginIndex_open php huser hnamed hactive]

theorem handleLoginIndex_of_authorized (h : Authorized w q actor level tombol) :
    (handleLoginIndex php w q).1 =
        ((dispatch php q actor level tombol).run exec (w.opened q)).1.map (render level q) ∧
      (handleLoginIndex php w q).2.server =
        ((dispatch php q actor level tombol).run exec (w.opened q)).2 := by
  have hrun := run_loginIndex php q (w.csrfToken q) (w.opened q) h.hasLevel
  simp only [h.asks, h.token, h.role, Bool.false_eq_true, if_false] at hrun
  have hout := handleLoginIndex_open php h.user h.named h.active
  rw [hrun] at hout
  constructor
  · rw [hout]
  · rw [hout]

theorem handle_of_authorized (h : Authorized w q actor level tombol) :
    (handle php w q).1 =
        (((dispatch php q actor level tombol).run exec (w.opened q)).1.map (render level q)).map
          .loginIndex ∧
      (step php w q).server = ((dispatch php q actor level tombol).run exec (w.opened q)).2 := by
  obtain ⟨hanswer, hserver⟩ := handleLoginIndex_of_authorized php h
  constructor
  · simp only [handle, h.page, hanswer]
  · simp only [step, handle, h.page, hserver]

theorem server_of_authorized (h : Authorized w q actor level tombol) :
    (step php w q).server = ((dispatch php q actor level tombol).run exec (w.opened q)).2 :=
  (handle_of_authorized php h).2

theorem render_eq_alihkan_iff {hasil : Hasil} {slot : Slot} {res : Res} :
    render level q hasil = .alihkan slot res ↔ hasil = .alihkan slot res := by
  cases hasil with
  | halaman pesan =>
    simp only [render]
    split <;> simp
  | _ => simp [render]

theorem dispatch_of_alihkan (h : Authorized w q actor level tombol) {slot : Slot} {res : Res}
    (hres : (handle php w q).1 = .ok (.loginIndex (.alihkan slot res))) :
    ((dispatch php q actor level tombol).run exec (w.opened q)).1 = .ok (.alihkan slot res) := by
  rw [(handle_of_authorized php h).1] at hres
  cases hout : ((dispatch php q actor level tombol).run exec (w.opened q)).1 with
  | error error =>
    rw [hout] at hres
    cases hres
  | ok hasil =>
    rw [hout] at hres
    simp only [Except.map, Except.ok.injEq, Respons.loginIndex.injEq] at hres
    rw [render_eq_alihkan_iff.mp hres]

end Dispatcher

/-- The answers of the guards, and the page of a request that posts no button. -/
def Hasil.penjaga : Hasil → Bool
  | .keLogin | .sesiBerakhir | .sesiTidakValid | .kadaluarsa | .ditolak => true
  | .halaman none | .halamanDitolak none => true
  | _ => false

/-- A request to login/index.php is answered by a guard, which leaves the server alone,
or it is authorized. -/
theorem loginIndex_cases (php : Php) {w : World} {q : Request} (hpage : q.page = .loginIndex) :
    (∃ hasil, hasil.penjaga = true ∧ (handle php w q).1 = .ok (.loginIndex hasil) ∧
      (step php w q).server = w.opened q) ∨
    ∃ actor level tombol, Authorized w q actor level tombol := by
  have hhandle (hasil : Hasil) (w' : World) (hpenjaga : hasil.penjaga = true)
      (hserver : w'.server = w.opened q) (hout : handleLoginIndex php w q = (.ok hasil, w')) :
      ∃ hasil, hasil.penjaga = true ∧ (handle php w q).1 = .ok (.loginIndex hasil) ∧
        (step php w q).server = w.opened q := by
    refine ⟨hasil, hpenjaga, ?_, ?_⟩
    · simp only [handle, hpage, hout]
      rfl
    · simp only [step, handle, hpage, hout, hserver]
  by_cases hnamed : isEmpty (w.session q.sid).user
  · refine .inl (hhandle .keLogin { w with server := w.opened q } rfl rfl ?_)
    simp only [handleLoginIndex, hnamed, if_true]
    rfl
  by_cases hidle : idle (w.session q.sid) q.clock.time
  · refine .inl (hhandle .sesiBerakhir
      ⟨w.opened q, Function.update w.session q.sid Session.empty⟩ rfl rfl ?_)
    simp only [handleLoginIndex, hnamed, hidle, if_true, if_false, Bool.false_eq_true]
    rfl
  obtain ⟨actor, huser⟩ : ∃ actor, (w.session q.sid).user = some actor := by
    cases huser : (w.session q.sid).user with
    | none => simp [huser, isEmpty] at hnamed
    | some actor => exact ⟨actor, rfl⟩
  have hopen := handleLoginIndex_open php huser (by simpa [← huser] using hnamed)
    (by simpa using hidle)
  cases hlevel : w.db.levelOf (some actor) with
  | none =>
    rw [run_loginIndex_noLevel php (w.opened q) hlevel] at hopen
    exact .inl (hhandle _ _ rfl rfl hopen)
  | some level =>
    rw [run_loginIndex php q (w.csrfToken q) (w.opened q) hlevel] at hopen
    cases htombol : q.tombol with
    | none =>
      simp only [htombol] at hopen
      refine .inl (hhandle _ _ ?_ rfl hopen)
      simp only [render]
      split <;> rfl
    | some tombol =>
      simp only [htombol] at hopen
      by_cases htoken : tokenRefused (w.csrfToken q) (q.post.get? "csrf_token")
      · rw [if_pos htoken] at hopen
        exact .inl (hhandle _ _ rfl rfl hopen)
      by_cases hrole : roleRefused level tombol
      · rw [if_neg htoken, if_pos hrole] at hopen
        exact .inl (hhandle _ _ rfl rfl hopen)
      refine .inr ⟨actor, level, tombol, ?_⟩
      exact
        { page := hpage
          user := huser
          named := by rw [← huser]; simpa using hnamed
          active := by simpa using hidle
          hasLevel := hlevel
          asks := htombol
          token := by simpa using htoken
          role := by simpa using hrole }

/-- The answer is a redirect of a handler of login/index.php. -/
def Redirects (php : Php) (w : World) (q : Request) : Prop :=
  ∃ slot res, (handle php w q).1 = .ok (.loginIndex (.alihkan slot res))

theorem step_cases (php : Php) (w : World) (q : Request) :
    ((step php w q).server = w.opened q ∧ ¬Redirects php w q) ∨
    (q.page = .index ∧ ∃ token,
      (step php w q).server = ((index php q token).run exec (w.opened q)).2) ∨
    ∃ actor level tombol, Authorized w q actor level tombol ∧
      (step php w q).server = ((dispatch php q actor level tombol).run exec (w.opened q)).2 := by
  cases hpage : q.page with
  | index =>
    exact .inr (.inl ⟨rfl, w.csrfTokenLogin q, (handle_of_index php hpage).2⟩)
  | ajax =>
    refine .inl ⟨?_, ?_⟩
    · simp only [step, handle, hpage]
      rfl
    · rintro ⟨slot, res, h⟩
      simp only [handle, hpage] at h
      cases h
  | logout =>
    refine .inl ⟨?_, ?_⟩
    · simp only [step, handle, hpage]
      rfl
    · rintro ⟨slot, res, h⟩
      simp only [handle, hpage] at h
      cases h
  | loginIndex =>
    rcases loginIndex_cases php (w := w) hpage with
      ⟨hasil, hpenjaga, hanswer, hserver⟩ | ⟨actor, level, tombol, hauth⟩
    · refine .inl ⟨hserver, ?_⟩
      rintro ⟨slot, res, h⟩
      rw [hanswer] at h
      cases h
      cases hpenjaga
    · exact .inr (.inr ⟨actor, level, tombol, hauth, server_of_authorized php hauth⟩)

theorem authorized_of_redirects {php : Php} {w : World} {q : Request} (h : Redirects php w q) :
    ∃ actor level tombol, Authorized w q actor level tombol := by
  rcases step_cases php w q with ⟨-, hnot⟩ | ⟨hpage, token, -⟩ | ⟨actor, level, tombol, hauth, -⟩
  · exact absurd h hnot
  · obtain ⟨slot, res, h⟩ := h
    simp only [handle, hpage] at h
    cases hout : (handleIndex php w q).1 with
    | error error =>
      rw [hout] at h
      cases h
    | ok hasil =>
      rw [hout] at h
      cases h
  · exact ⟨actor, level, tombol, hauth⟩

end SistemAir
