import SistemAir.Spec.Evidence
import SistemAir.Spec.Sessions

/-! Where a request that changes something comes from: the account of its session was
opened with the password, and the token it posts was drawn for the page it is posted to. -/
namespace SistemAir

open StatementProgram Prog

/-! ## The way into a session -/

/-- The request gets past the guards of index.php and posts the account's password. -/
structure TerbuktiSandi (php : Php) (w : World) (q : Request) (u : String) : Prop where
  page : q.page = .index
  asks : q.tombol.map strtolower = some "login"
  token : tokenRefused (w.csrfTokenLogin q) (q.post.get? "csrf_token") = false
  few : w.db.countAttempts q.ip q.clock.sql.seconds < 5
  name : trim (orEmpty (q.post.get? "username")) = u
  sandi : ∃ a ∈ w.db.akun u,
    php.passwordVerify (orEmpty (q.post.get? "password")) a.password = true

instance (php : Php) (w : World) (q : Request) (u : String) :
    Decidable (TerbuktiSandi php w q u) :=
  decidable_of_iff (q.page = .index ∧ q.tombol.map strtolower = some "login" ∧
      tokenRefused (w.csrfTokenLogin q) (q.post.get? "csrf_token") = false ∧
      w.db.countAttempts q.ip q.clock.sql.seconds < 5 ∧
      trim (orEmpty (q.post.get? "username")) = u ∧
      ∃ a ∈ w.db.akun u, php.passwordVerify (orEmpty (q.post.get? "password")) a.password = true)
    ⟨fun ⟨h₁, h₂, h₃, h₄, h₅, h₆⟩ => ⟨h₁, h₂, h₃, h₄, h₅, h₆⟩,
      fun h => ⟨h.page, h.asks, h.token, h.few, h.name, h.sandi⟩⟩

/-- The session stays with `u`: its requests are no logout and open no other account, and
those to login/index.php come in time and find the account. -/
def Bertahan (php : Php) (sid : Nat) (u : String) (w : World) (q : Request) : Prop :=
  q.sid = sid →
    match q.page with
    | .index => ∀ v ∈ masukSebagai (handle php w q).1, v = u
    | .loginIndex =>
      idle (w.session sid) q.clock.time = false ∧ (w.db.levelOf (some u)).isSome
    | .ajax => True
    | .logout => False

def Session.tokenOf (s : Session) : Page → Option String
  | .index => s.csrfTokenLogin
  | .loginIndex => s.csrfToken
  | .ajax | .logout => none

/-- The request changes a table or a file, or it opens an account. -/
def Bertindak (php : Php) (w : World) (q : Request) : Prop :=
  (step php w q).server ≠ w.opened q ∨ (masukSebagai (handle php w q).1).isSome

section Login
variable {php : Php} {w : World} {q : Request}

theorem page_of_masukSebagai {u : String} (h : masukSebagai (handle php w q).1 = some u) :
    q.page = .index := by
  cases hpage : q.page with
  | index => rfl
  | loginIndex =>
    simp only [handle, hpage] at h
    cases hout : (handleLoginIndex php w q).1 <;> rw [hout] at h <;> cases h
  | ajax => simp only [handle, hpage] at h; cases h
  | logout => simp only [handle, hpage] at h; cases h

theorem masukSebagai_index {u : String} (hpage : q.page = .index) :
    masukSebagai (handle php w q).1 = some u ↔
      ((index php q (w.csrfTokenLogin q)).run exec (w.opened q)).1 = .ok (.masuk u) := by
  rw [(handle_of_index php hpage).1]
  cases ((index php q (w.csrfTokenLogin q)).run exec (w.opened q)).1 with
  | error galat => exact ⟨nofun, nofun⟩
  | ok hasil =>
    cases hasil with
    | halaman pesan => exact ⟨nofun, nofun⟩
    | masuk v => simp [masukSebagai, Except.map]

theorem masuk_of_registerWarga {u : String} (s : Server) (salt : String) (post : Form) :
    ((registerWarga php salt post).run exec s).1 ≠ .ok (.masuk u) := by
  cases ha : s.db.akun (trim (orEmpty (post.get? "reg_username"))) with
  | some a =>
    rw [run_registerWarga_taken php s salt post ha]
    exact nofun
  | none =>
    obtain ⟨login', -, hrun⟩ := run_registerWarga php s salt post ha
    rw [hrun]
    exact nofun

theorem masukSebagai_iff {u : String} :
    masukSebagai (handle php w q).1 = some u ↔ TerbuktiSandi php w q u := by
  constructor
  · intro h
    have hpage := page_of_masukSebagai h
    rw [masukSebagai_index hpage, run_index] at h
    cases htombol : q.tombol with
    | none => rw [htombol] at h; cases h
    | some tombol =>
      rw [htombol] at h
      dsimp only at h
      split at h
      · cases h
      rename_i htoken
      split at h
      · cases h
      rename_i hfew
      split at h
      · rename_i hasks
        obtain ⟨hname, hsandi⟩ := (run_login_masuk_iff php (w.opened q) q.ip q.post u).mp h
        exact
          { page := hpage
            asks := by rw [htombol, Option.map_some, hasks]
            token := by simpa using htoken
            few := Nat.lt_of_not_le hfew
            name := hname
            sandi := hsandi }
      split at h
      · exact absurd h (masuk_of_registerWarga _ _ _)
      · cases h
  · intro h
    obtain ⟨tombol, htombol, hasks⟩ := Option.map_eq_some_iff.mp h.asks
    rw [masukSebagai_index h.page, run_index, htombol]
    dsimp only
    have hfew : ¬5 ≤ (w.opened q).db.countAttempts q.ip (w.opened q).clock.sql.seconds :=
      Nat.not_le.mpr h.few
    rw [if_neg (by rw [h.token]; decide), if_neg hfew, if_pos hasks]
    exact (run_login_masuk_iff php (w.opened q) q.ip q.post u).mpr ⟨h.name, h.sandi⟩

end Login

/-! ## What one request makes of its session -/

section Session
variable {php : Php} {w : World} {q : Request}

theorem sessionAfter_served (s : Session) (token : String) {out : Except Galat Hasil}
    (h : ∀ hasil, out = .ok hasil → hasil.menolakSesi = false) :
    (sessionAfter s token out).user = s.user ∧
      (sessionAfter s token out).csrfToken = some token ∧
      (sessionAfter s token out).csrfTokenLogin = s.csrfTokenLogin := by
  unfold sessionAfter
  split
  · cases h _ rfl
  · rename_i slot res
    cases slot <;> exact ⟨rfl, rfl, rfl⟩
  · exact ⟨rfl, rfl, rfl⟩
  · exact ⟨rfl, rfl, rfl⟩

theorem session_loginIndex_cases (php : Php) (hpage : q.page = .loginIndex) :
    (isEmpty (w.session q.sid).user = true ∧
      (step php w q).session q.sid = w.session q.sid) ∨
    (step php w q).session q.sid = Session.empty ∨
    idle (w.session q.sid) q.clock.time = false ∧
      (w.db.levelOf (w.session q.sid).user).isSome ∧
      ((step php w q).session q.sid).user = (w.session q.sid).user ∧
      ((step php w q).session q.sid).csrfToken = some (w.csrfToken q) ∧
      ((step php w q).session q.sid).csrfTokenLogin = (w.session q.sid).csrfTokenLogin := by
  by_cases hanon : isEmpty (w.session q.sid).user = true
  · have hout : handle php w q = _ := handle_loginIndex hpage (handleLoginIndex_anonymous hanon)
    refine .inl ⟨hanon, ?_⟩
    rw [step, hout]
  rw [Bool.not_eq_true] at hanon
  by_cases hidle : idle (w.session q.sid) q.clock.time = true
  · have hout : handle php w q = _ := handle_loginIndex hpage (handleLoginIndex_idle hanon hidle)
    refine .inr (.inl ?_)
    rw [step, hout]
    exact Function.update_self _ _ _
  rw [Bool.not_eq_true] at hidle
  obtain ⟨u, huser⟩ := exists_of_isEmpty hanon
  rw [huser] at hanon
  cases hlevel : w.db.levelOf (some u) with
  | none =>
    have hout : handle php w q = _ :=
      handle_loginIndex hpage (handleLoginIndex_noLevel huser hanon hidle hlevel)
    refine .inr (.inl ?_)
    rw [step, hout]
    exact Function.update_self _ _ _
  | some level =>
    have hopen := handle_loginIndex hpage (handleLoginIndex_open php huser hanon hidle)
    have hreturns (hasil : Hasil)
        (h : ((loginIndex php q u (w.csrfToken q)).run exec (w.opened q)).1 = .ok hasil) :
        hasil.menolakSesi = false :=
      menolakSesi_loginIndex php q u level (s := w.opened q) hlevel h
    have hserved := sessionAfter_served
      { w.session q.sid with lastActivity := some q.clock.time } (w.csrfToken q) hreturns
    refine .inr (.inr ⟨hidle, by rw [huser, hlevel]; rfl, ?_⟩)
    rw [step, hopen]
    simp only [Function.update_self]
    exact hserved

theorem sessionAfterIndex_tokens (s : Session) (token : String) (out : Except Galat HasilIndex) :
    (sessionAfterIndex s token out).csrfToken = s.csrfToken ∧
      ((sessionAfterIndex s token out).csrfTokenLogin = none ∨
        (sessionAfterIndex s token out).csrfTokenLogin = some token) := by
  unfold sessionAfterIndex
  split
  · exact ⟨rfl, .inl rfl⟩
  · exact ⟨rfl, .inr rfl⟩

theorem session_index_user (hpage : q.page = .index) :
    ((step php w q).session q.sid).user =
      (masukSebagai (handle php w q).1).or (w.session q.sid).user := by
  rw [session_step_index php hpage, handle_index php hpage]
  cases (handleIndex php w q).1 with
  | error galat => rfl
  | ok hasil => cases hasil <;> rfl

theorem session_logout (hpage : q.page = .logout) :
    (step php w q).session q.sid = Session.empty := by
  simp only [step, handle, hpage, Function.update_self]

theorem session_ajax (hpage : q.page = .ajax) : (step php w q).session = w.session := by
  simp only [step, handle, hpage]

theorem terbuktiSandi_of_step {sid : Nat} {u : String} (hbefore : (w.session sid).user ≠ some u)
    (hafter : ((step php w q).session sid).user = some u) :
    q.sid = sid ∧ TerbuktiSandi php w q u := by
  by_cases hsid : q.sid = sid
  swap
  · rw [session_step_of_ne php hsid] at hafter
    exact absurd hafter hbefore
  subst hsid
  refine ⟨rfl, ?_⟩
  cases hpage : q.page with
  | index =>
    rw [session_index_user hpage, Option.or_eq_some_iff] at hafter
    rcases hafter with hmasuk | ⟨-, hold⟩
    · exact masukSebagai_iff.mp hmasuk
    · exact absurd hold hbefore
  | loginIndex =>
    rcases session_loginIndex_cases php hpage with ⟨-, h⟩ | h | ⟨-, -, h, -⟩
    · rw [h] at hafter
      exact absurd hafter hbefore
    · rw [h] at hafter
      cases hafter
    · rw [h] at hafter
      exact absurd hafter hbefore
  | ajax =>
    rw [session_ajax hpage] at hafter
    exact absurd hafter hbefore
  | logout =>
    rw [session_logout hpage] at hafter
    cases hafter

theorem bertahan_of_step {sid : Nat} {u : String} (hnamed : isEmpty (some u) = false)
    (hbefore : (w.session sid).user = some u)
    (hafter : ((step php w q).session sid).user = some u) : Bertahan php sid u w q := by
  rintro rfl
  split
  · rename_i hpage
    intro v hv
    rw [session_index_user hpage, show masukSebagai (handle php w q).1 = some v from hv] at hafter
    exact Option.some.inj hafter
  · rename_i hpage
    rcases session_loginIndex_cases php hpage with ⟨h, -⟩ | h | ⟨hidle, hlevel, -⟩
    · rw [hbefore, hnamed] at h
      cases h
    · rw [h] at hafter
      cases hafter
    · rw [hbefore] at hlevel
      exact ⟨hidle, hlevel⟩
  · trivial
  · rename_i hpage
    rw [session_logout hpage] at hafter
    cases hafter

theorem drawn_of_step {sid : Nat} {page : Page} {t : String}
    (hbefore : (w.session sid).tokenOf page ≠ some t)
    (hafter : ((step php w q).session sid).tokenOf page = some t) :
    q.sid = sid ∧ q.page = page ∧ q.token = t := by
  have hfresh {old : Option String} (hold : old ≠ some t)
      (hnew : some (ensureToken old q.token) = some t) : q.token = t := by
    unfold ensureToken at hnew
    split at hnew
    · exact Option.some.inj hnew
    · rename_i hnamed
      obtain ⟨t', rfl⟩ := exists_of_isEmpty (Bool.eq_false_of_not_eq_true hnamed)
      exact absurd hnew hold
  by_cases hsid : q.sid = sid
  swap
  · rw [session_step_of_ne php hsid] at hafter
    exact absurd hafter hbefore
  subst hsid
  refine ⟨rfl, ?_⟩
  cases hpage : q.page with
  | index =>
    rw [session_step_index php hpage] at hafter
    obtain ⟨htoken, hlogin⟩ := sessionAfterIndex_tokens (w.session q.sid)
      (ensureToken (w.session q.sid).csrfTokenLogin q.token) (handleIndex php w q).1
    cases page with
    | index =>
      simp only [Session.tokenOf] at hafter hbefore
      rcases hlogin with h | h
      · rw [h] at hafter
        cases hafter
      · rw [h] at hafter
        exact ⟨rfl, hfresh hbefore hafter⟩
    | loginIndex =>
      simp only [Session.tokenOf] at hafter hbefore
      rw [htoken] at hafter
      exact absurd hafter hbefore
    | ajax => cases hafter
    | logout => cases hafter
  | loginIndex =>
    rcases session_loginIndex_cases php hpage with ⟨-, h⟩ | h | ⟨-, -, -, htoken, hlogin⟩
    · rw [h] at hafter
      exact absurd hafter hbefore
    · rw [h] at hafter
      cases page <;> cases hafter
    · cases page with
      | index =>
        simp only [Session.tokenOf] at hafter hbefore
        rw [hlogin] at hafter
        exact absurd hafter hbefore
      | loginIndex =>
        simp only [Session.tokenOf] at hafter hbefore
        rw [htoken] at hafter
        exact ⟨rfl, hfresh hbefore hafter⟩
      | ajax => cases hafter
      | logout => cases hafter
  | ajax =>
    rw [session_ajax hpage] at hafter
    exact absurd hafter hbefore
  | logout =>
    rw [session_logout hpage] at hafter
    cases page <;> cases hafter

theorem token_of_bertindak (h : Bertindak php w q) :
    (q.page = .index ∨ q.page = .loginIndex) ∧
      tokenRefused (ensureToken ((w.session q.sid).tokenOf q.page) q.token)
        (q.post.get? "csrf_token") = false := by
  rcases h with hserver | hmasuk
  · rcases step_cases php w q with ⟨hsame, -⟩ | ⟨hpage, -⟩ | ⟨actor, level, tombol, hauth, -⟩
    · exact absurd hsame hserver
    · refine ⟨.inl hpage, Bool.eq_false_of_not_eq_true fun hrefused => hserver ?_⟩
      have htoken : tokenRefused (w.csrfTokenLogin q) (q.post.get? "csrf_token") = true := by
        rw [hpage] at hrefused
        exact hrefused
      rw [(handle_of_index php hpage).2, run_index]
      cases q.tombol with
      | none => rfl
      | some tombol =>
        dsimp only
        rw [if_pos htoken]
    · rw [hauth.page]
      exact ⟨.inr rfl, hauth.token⟩
  · obtain ⟨u, hu⟩ := Option.isSome_iff_exists.mp hmasuk
    have hsandi := masukSebagai_iff.mp hu
    rw [hsandi.page]
    exact ⟨.inl rfl, hsandi.token⟩

end Session

/-! ## Whole runs -/

section Run
variable {php : Php} {w : World} {qs : List Request}

/-- The session of `sid` was opened with the password of `u` and has stayed with `u`. -/
def DibukaDenganSandi (php : Php) (w : World) (qs : List Request) (sid : Nat) (u : String) :
    Prop :=
  ∃ awal masuk sejak, qs = awal ++ masuk :: sejak ∧ masuk.sid = sid ∧
    TerbuktiSandi php (serve php w awal) masuk u ∧
    Trace.Admissible (Bertahan php sid u) (step php) (serve php w (awal ++ [masuk])) sejak

/-- The session of `sid` was given the token by a request to the page and has kept it. -/
def DiberiToken (php : Php) (w : World) (qs : List Request) (sid : Nat) (page : Page) (t : String) :
    Prop :=
  ∃ awal buka sejak, qs = awal ++ buka :: sejak ∧ buka.sid = sid ∧ buka.page = page ∧
    buka.token = t ∧
    Trace.Always (fun w => (w.session sid).tokenOf page = some t) (step php)
      (serve php w (awal ++ [buka])) sejak

theorem dibukaDenganSandi {sid : Nat} {u : String} (hw : (w.session sid).user ≠ some u)
    (hnamed : isEmpty (some u) = false) (h : ((serve php w qs).session sid).user = some u) :
    DibukaDenganSandi php w qs sid u := by
  have hstep (w : World) (q : Request) (hhere : (w.session sid).user = some u)
      (hnext : ((step php w q).session sid).user = some u) : Bertahan php sid u w q :=
    bertahan_of_step hnamed hhere hnext
  obtain ⟨awal, masuk, sejak, rfl, hbefore, hsince⟩ :=
    Trace.exists_since (I := fun w : World => (w.session sid).user = some u) hw h
  have hafter := hsince.head
  rw [Trace.run_concat] at hafter
  obtain ⟨hsid, hsandi⟩ := terbuktiSandi_of_step hbefore hafter
  exact ⟨awal, masuk, sejak, rfl, hsid, hsandi, hsince.admissible hstep⟩

theorem diberiToken {sid : Nat} {page : Page} {t : String}
    (hw : (w.session sid).tokenOf page ≠ some t)
    (h : ((serve php w qs).session sid).tokenOf page = some t) :
    DiberiToken php w qs sid page t := by
  obtain ⟨awal, buka, sejak, rfl, hbefore, hsince⟩ :=
    Trace.exists_since (I := fun w : World => (w.session sid).tokenOf page = some t) hw h
  have hafter := hsince.head
  rw [Trace.run_concat] at hafter
  obtain ⟨hsid, hpage, htoken⟩ := drawn_of_step hbefore hafter
  exact ⟨awal, buka, sejak, rfl, hsid, hpage, htoken, hsince⟩

end Run

/-- From any state without sessions, after any requests: a request that changes a table or
a file is the login form's or a registration, or it acts, within its level, for an account
that its browser had opened with the password and stayed with. -/
theorem changes_authenticated (php : Php) {w : World} (hw : ∀ sid, w.session sid = Session.empty)
    (qs : List Request) (q : Request)
    (hubah : (step php (serve php w qs) q).server ≠ (serve php w qs).opened q) :
    (q.page = .index ∧ IndexChange php q (serve php w qs).db (step php (serve php w qs) q).db) ∨
    ∃ actor level tombol, Authorized (serve php w qs) q actor level tombol ∧
      Leaves php q actor level tombol (serve php w qs).db (step php (serve php w qs) q).db ∧
      DibukaDenganSandi php w qs q.sid actor := by
  rcases step_cases php (serve php w qs) q with ⟨hsame, -⟩ | ⟨hpage, token, hserver⟩ |
    ⟨actor, level, tombol, hauth, hserver⟩
  · exact absurd hsame hubah
  · refine .inl ⟨hpage, ?_⟩
    rw [World.db, World.db, hserver]
    exact indexChange_run php ((serve php w qs).opened q) q token rfl
  · refine .inr ⟨actor, level, tombol, hauth, ?_, ?_⟩
    · rw [World.db, World.db, hserver]
      exact leaves_dispatch (s := (serve php w qs).opened q) rfl
    · refine dibukaDenganSandi ?_ hauth.named hauth.user
      rw [hw]
      intro hbuka
      cases hbuka

theorem changes_authenticated_joko :
    Authorized (serve Php.decimal World.pertama kantor) (catatSepuluh "budi") "joko" .petugas
        "meter_add" ∧
      DibukaDenganSandi Php.decimal World.pertama kantor 1 "joko" := by
  have hubah : (step Php.decimal (serve Php.decimal World.pertama kantor)
      (catatSepuluh "budi")).server ≠
        (serve Php.decimal World.pertama kantor).opened (catatSepuluh "budi") := by
    intro hsame
    have hrows := congrArg (fun s : Server => s.db.pemakaian.rows.length) hsame
    revert hrows
    decide +kernel
  have hauth : Authorized (serve Php.decimal World.pertama kantor) (catatSepuluh "budi") "joko"
      .petugas "meter_add" := by
    decide +kernel
  rcases changes_authenticated Php.decimal (fun _ => rfl) kantor (catatSepuluh "budi") hubah with
    ⟨hpage, -⟩ | ⟨actor, level, tombol, hother, -, hsandi⟩
  · cases hpage
  · obtain ⟨rfl, rfl, rfl⟩ := hother.unique hauth
    exact ⟨hauth, hsandi⟩

/-- From any state without sessions, after any requests: a request that changes a table or
a file or opens an account posts a token that its page drew for its own browser, now or at
an earlier request since which the session has kept it. -/
theorem acts_with_own_token (php : Php) {w : World} (hw : ∀ sid, w.session sid = Session.empty)
    (qs : List Request) (q : Request) (h : Bertindak php (serve php w qs) q) :
    ∃ t, q.post.get? "csrf_token" = some t ∧ isEmpty (some t) = false ∧
      (isEmpty (((serve php w qs).session q.sid).tokenOf q.page) = true ∧ q.token = t ∨
        DiberiToken php w qs q.sid q.page t) := by
  obtain ⟨hpage, htoken⟩ := token_of_bertindak h
  obtain ⟨hpost, hnamed⟩ := tokenRefused_eq_false_iff.mp htoken
  refine ⟨_, hpost, hnamed, ?_⟩
  unfold ensureToken
  split
  · rename_i hempty
    exact .inl ⟨hempty, rfl⟩
  · rename_i hkept
    obtain ⟨t, ht⟩ := exists_of_isEmpty (Bool.eq_false_of_not_eq_true hkept)
    rw [ht]
    refine .inr (diberiToken ?_ ht)
    rw [hw]
    intro hbuka
    generalize q.page = page at hbuka
    cases page <;> cases hbuka

theorem acts_with_own_token_joko :
    DiberiToken Php.decimal World.pertama kantor 1 .loginIndex "7f3a" := by
  have hacts : Bertindak Php.decimal (serve Php.decimal World.pertama kantor)
      (catatSepuluh "budi") := by
    refine .inl fun hsame => ?_
    have hrows := congrArg (fun s : Server => s.db.pemakaian.rows.length) hsame
    revert hrows
    decide +kernel
  obtain ⟨t, hpost, -, ⟨hempty, -⟩ | hgiven⟩ :=
    acts_with_own_token Php.decimal (fun _ => rfl) kantor (catatSepuluh "budi") hacts
  · have hkept : isEmpty (((serve Php.decimal World.pertama kantor).session 1).tokenOf
        .loginIndex) = false := by
      decide +kernel
    cases hkept.symm.trans hempty
  · obtain rfl : "7f3a" = t := Option.some.inj hpost
    exact hgiven

end SistemAir
