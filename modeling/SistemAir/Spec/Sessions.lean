import SistemAir.Spec.AjaxIsolation
import SistemAir.Spec.Handlers

/-! Sessions over time: who sets last_activity, who compares it, and what becomes of a
session that was idle or has just been logged in. -/
namespace SistemAir

open StatementProgram Prog

def Hasil.menolakSesi : Hasil → Bool
  | .keLogin | .sesiBerakhir | .sesiTidakValid => true
  | _ => false

/-! ## No handler answers for the session checks -/

section Returns
variable (php : Php) (q : Request) (actor : String) (level : Level)

theorem menolakSesi_dispatch {tombol : String} {s : Server} {hasil : Hasil}
    (h : ((dispatch php q actor level tombol).run exec s).1 = .ok hasil) :
    hasil.menolakSesi = false := by
  have hdari := dariHandler_dispatch php q actor level h
  cases hasil <;> first | rfl | cases hdari

theorem menolakSesi_render (hasil : Hasil) :
    (render level q hasil).menolakSesi = hasil.menolakSesi := by
  cases hasil with
  | halaman pesan =>
    simp only [render]
    split <;> rfl
  | _ => rfl

theorem menolakSesi_loginIndex {token : String} {s : Server} {hasil : Hasil}
    (hlevel : s.db.levelOf (some actor) = some level)
    (h : ((loginIndex php q actor token).run exec s).1 = .ok hasil) : hasil.menolakSesi = false := by
  rw [run_loginIndex php q token s hlevel] at h
  cases htombol : q.tombol with
  | none =>
    simp only [htombol, Except.ok.injEq] at h
    rw [← h, menolakSesi_render]
    rfl
  | some tombol =>
    simp only [htombol] at h
    split at h
    · cases h
      rfl
    split at h
    · cases h
      rfl
    · cases hout : ((dispatch php q actor level tombol).run exec s).1 with
      | error error =>
        rw [hout] at h
        cases h
      | ok value =>
        rw [hout] at h
        cases h
        rw [menolakSesi_render]
        exact menolakSesi_dispatch php q actor level hout

end Returns

/-! ## The three checks -/

/-- The request to login/index.php runs as `u`: the page code gets it and no check
turns it away. -/
structure DilayaniSebagai (php : Php) (w : World) (q : Request) (u : String) : Prop where
  berjalan : handle php w q =
    let out := (loginIndex php q u (w.csrfToken q)).run exec (w.opened q)
    (out.1.map .loginIndex, ⟨out.2, Function.update w.session q.sid
      (sessionAfter { w.session q.sid with lastActivity := some q.clock.time } (w.csrfToken q)
        out.1)⟩)
  diterima : ∀ hasil, (handle php w q).1 = .ok (.loginIndex hasil) → hasil.menolakSesi = false

theorem exists_of_isEmpty {s : Option String} (h : isEmpty s = false) : ∃ u, s = some u := by
  cases s with
  | none => cases h
  | some u => exact ⟨u, rfl⟩

theorem akun_of_levelOf {db : Db} {u : String} (h : db.levelOf (some u) ≠ none) :
    (db.akun u).isSome := by
  cases hakun : db.akun u with
  | none => simp [Db.levelOf, hakun] at h
  | some a => rfl

section Checks
variable {php : Php} {w : World} {q : Request} {u : String}

theorem handleLoginIndex_anonymous (h : isEmpty (w.session q.sid).user = true) :
    handleLoginIndex php w q = (.ok .keLogin, { w with server := w.opened q }) := by
  unfold handleLoginIndex
  rw [if_pos h]
  rfl

theorem handleLoginIndex_idle (hnamed : isEmpty (w.session q.sid).user = false)
    (h : idle (w.session q.sid) q.clock.time = true) :
    handleLoginIndex php w q =
      (.ok .sesiBerakhir, ⟨w.opened q, Function.update w.session q.sid Session.empty⟩) := by
  unfold handleLoginIndex
  rw [if_neg (by rw [hnamed]; decide), if_pos h]
  rfl

theorem handleLoginIndex_noLevel (huser : (w.session q.sid).user = some u)
    (hnamed : isEmpty (some u) = false) (hactive : idle (w.session q.sid) q.clock.time = false)
    (h : w.db.levelOf (some u) = none) :
    handleLoginIndex php w q =
      (.ok .sesiTidakValid, ⟨w.opened q, Function.update w.session q.sid Session.empty⟩) := by
  have hopen := handleLoginIndex_open php huser hnamed hactive
  rw [run_loginIndex_noLevel php (w.opened q) h] at hopen
  exact hopen

theorem handle_loginIndex (hpage : q.page = .loginIndex) {out : Except Galat Hasil × World}
    (h : handleLoginIndex php w q = out) : handle php w q = (out.1.map .loginIndex, out.2) := by
  simp only [handle, hpage, h]

theorem dilayani_iff (hpage : q.page = .loginIndex) (huser : (w.session q.sid).user = some u)
    (hakun : (w.db.akun u).isSome) :
    DilayaniSebagai php w q u ↔
      isEmpty (some u) = false ∧ idle (w.session q.sid) q.clock.time = false := by
  constructor
  · intro h
    have hterima {hasil : Hasil} {w' : World} (hout : handleLoginIndex php w q = (.ok hasil, w')) :
        hasil.menolakSesi = false :=
      h.diterima hasil (by rw [handle_loginIndex hpage hout]; rfl)
    cases hnamed : isEmpty (some u) with
    | true => cases hterima (handleLoginIndex_anonymous (by rw [huser, hnamed]))
    | false =>
      cases hidle : idle (w.session q.sid) q.clock.time with
      | true => cases hterima (handleLoginIndex_idle (by rw [huser, hnamed]) hidle)
      | false => exact ⟨rfl, rfl⟩
  · rintro ⟨hnamed, hactive⟩
    have hopen := handle_loginIndex hpage (handleLoginIndex_open php huser hnamed hactive)
    obtain ⟨a, ha⟩ := Option.isSome_iff_exists.mp hakun
    have hlevel : (w.opened q).db.levelOf (some u) = some a.level := by
      simp [Db.levelOf, ha]
    refine ⟨hopen, fun hasil hhasil => ?_⟩
    rw [hopen] at hhasil
    cases hout : ((loginIndex php q u (w.csrfToken q)).run exec (w.opened q)).1 with
    | error galat =>
      rw [hout] at hhasil
      cases hhasil
    | ok value =>
      rw [hout] at hhasil
      cases hhasil
      exact menolakSesi_loginIndex php q u a.level hlevel hout

end Checks

/-! ## From a login to the next page -/

def masukSebagai : Except Galat Respons → Option String
  | .ok (.index (.masuk u)) => some u
  | _ => none

/-- Between a login and the next page the session itself sends at most requests to
assets/ajax.php and to index.php that open no account; the others send what they like. -/
def Antara (php : Php) (sid : Nat) (w : World) (q : Request) : Prop :=
  q.sid = sid →
    q.page = .ajax ∨ q.page = .index ∧ masukSebagai (handle php w q).1 = none

instance (php : Php) (sid : Nat) (w : World) (q : Request) : Decidable (Antara php sid w q) :=
  inferInstanceAs (Decidable (_ → _))

section Login
variable (php : Php) {w : World} {q : Request}

theorem session_step_of_ne {sid : Nat} (h : q.sid ≠ sid) :
    (step php w q).session sid = w.session sid := by
  cases hpage : q.page with
  | index =>
    simp only [step, handle, hpage, handleIndex]
    exact Function.update_of_ne h.symm _ _
  | loginIndex =>
    simp only [step, handle, hpage, handleLoginIndex]
    split
    · rfl
    split
    · exact Function.update_of_ne h.symm _ _
    · exact Function.update_of_ne h.symm _ _
  | ajax => simp only [step, handle, hpage]
  | logout =>
    simp only [step, handle, hpage]
    exact Function.update_of_ne h.symm _ _

theorem session_step_index (hpage : q.page = .index) :
    (step php w q).session q.sid = sessionAfterIndex (w.session q.sid)
      (ensureToken (w.session q.sid).csrfTokenLogin q.token) (handleIndex php w q).1 := by
  simp only [step, handle, hpage, handleIndex]
  exact Function.update_self _ _ _

theorem handle_index (hpage : q.page = .index) :
    (handle php w q).1 = (handleIndex php w q).1.map .index := by
  simp only [handle, hpage]

theorem session_masuk {u : String} (h : masukSebagai (handle php w q).1 = some u) :
    ((step php w q).session q.sid).user = some u ∧
      ((step php w q).session q.sid).lastActivity = (w.session q.sid).lastActivity := by
  have hpage : q.page = .index := by
    cases hpage : q.page with
    | index => rfl
    | loginIndex =>
      simp only [handle, hpage] at h
      cases hout : (handleLoginIndex php w q).1 <;> rw [hout] at h <;> cases h
    | ajax => simp only [handle, hpage] at h; cases h
    | logout => simp only [handle, hpage] at h; cases h
  rw [handle_index php hpage] at h
  rw [session_step_index php hpage]
  cases hout : (handleIndex php w q).1 with
  | error galat => rw [hout] at h; cases h
  | ok hasil =>
    cases hasil with
    | halaman pesan => rw [hout] at h; cases h
    | masuk v =>
      rw [hout] at h
      cases h
      exact ⟨rfl, rfl⟩

theorem session_antara {sid : Nat} (h : Antara php sid w q) :
    ((step php w q).session sid).user = (w.session sid).user ∧
      ((step php w q).session sid).lastActivity = (w.session sid).lastActivity := by
  by_cases hsid : q.sid = sid
  · subst hsid
    rcases h rfl with hpage | ⟨hpage, hmasuk⟩
    · simp only [step, handle, hpage, and_self]
    · rw [handle_index php hpage] at hmasuk
      rw [session_step_index php hpage]
      cases hout : (handleIndex php w q).1 with
      | error galat => exact ⟨rfl, rfl⟩
      | ok hasil =>
        cases hasil with
        | halaman pesan => exact ⟨rfl, rfl⟩
        | masuk v => rw [hout] at hmasuk; cases hmasuk
  · rw [session_step_of_ne php hsid]
    exact ⟨rfl, rfl⟩

theorem session_antara_run {sid : Nat} {qs : List Request}
    (h : Trace.Admissible (Antara php sid) (step php) w qs) :
    ((serve php w qs).session sid).user = (w.session sid).user ∧
      ((serve php w qs).session sid).lastActivity = (w.session sid).lastActivity := by
  induction qs generalizing w with
  | nil => exact ⟨rfl, rfl⟩
  | cons q qs ih =>
    obtain ⟨huser, hlast⟩ := session_antara php h.1
    obtain ⟨huser', hlast'⟩ := ih h.2
    exact ⟨huser'.trans huser, hlast'.trans hlast⟩

end Login

/-- From any state: the first page after a login is served as the account exactly when
the session data that the login kept has no last_activity too old by then. -/
theorem fresh_login_served_iff (php : Php) (w : World) {masuk berikut : Request} {u : String}
    (antara : List Request) (hmasuk : masukSebagai (handle php w masuk).1 = some u)
    (hantara : Trace.Admissible (Antara php masuk.sid) (step php) (step php w masuk) antara)
    (hpage : berikut.page = .loginIndex) (hsid : berikut.sid = masuk.sid)
    (hakun : ((serve php w (masuk :: antara)).db.akun u).isSome) :
    DilayaniSebagai php (serve php w (masuk :: antara)) berikut u ↔
      isEmpty (some u) = false ∧ idle (w.session masuk.sid) berikut.clock.time = false := by
  obtain ⟨huser, hlast⟩ := session_masuk php hmasuk
  obtain ⟨huser', hlast'⟩ := session_antara_run php hantara
  have hidle : idle ((serve php w (masuk :: antara)).session berikut.sid) berikut.clock.time =
      idle (w.session masuk.sid) berikut.clock.time := by
    simp only [idle, hsid, serve, Trace.run_cons]
    rw [hlast', hlast]
  rw [dilayani_iff hpage (by rw [hsid]; exact huser'.trans huser) hakun, hidle]

def loginAdmin (s : Stamp) : Request :=
  Request.kirim 0 .index s
    [("csrf_token", "7f3a"), ("username", "admin"), ("password", "rahasia"), ("tombol", "login")]

def formulirAdmin : World := step Php.decimal World.pertama (Request.kirim 0 .index hariBuka [])

theorem fresh_login_served_admin :
    DilayaniSebagai Php.decimal
      (serve Php.decimal formulirAdmin
        [loginAdmin hariBuka, Request.kirim 0 .ajax hariBuka [], Request.kirim 1 .index hariBuka []])
      (Request.kirim 0 .loginIndex hariBuka []) "admin" := by
  have hmasuk : masukSebagai (handle Php.decimal formulirAdmin (loginAdmin hariBuka)).1 =
      some "admin" := by
    decide +kernel
  have hpage : (Request.kirim 0 .loginIndex hariBuka []).page = .loginIndex := rfl
  refine (fresh_login_served_iff Php.decimal formulirAdmin
    [Request.kirim 0 .ajax hariBuka [], Request.kirim 1 .index hariBuka []] hmasuk ?_ hpage rfl
    ?_).mpr ⟨?_, ?_⟩
  all_goals decide +kernel

def kembaliBesok : World :=
  serve Php.decimal World.pertama
    (masuk 0 hariBuka "admin" "rahasia" ++ [Request.kirim 0 .index hariKedua []])

/-- The login is accepted, and the page it leads to ends the session at once. -/
theorem fresh_login_rejected :
    masukSebagai (handle Php.decimal kembaliBesok (loginAdmin hariKedua)).1 = some "admin" ∧
      ((step Php.decimal kembaliBesok (loginAdmin hariKedua)).db.akun "admin").isSome ∧
      (handle Php.decimal (step Php.decimal kembaliBesok (loginAdmin hariKedua))
        (Request.kirim 0 .loginIndex hariKedua [])).1 = .ok (.loginIndex .sesiBerakhir) ∧
      ¬DilayaniSebagai Php.decimal (step Php.decimal kembaliBesok (loginAdmin hariKedua))
        (Request.kirim 0 .loginIndex hariKedua []) "admin" := by
  have hberakhir : (handle Php.decimal (step Php.decimal kembaliBesok (loginAdmin hariKedua))
      (Request.kirim 0 .loginIndex hariKedua [])).1 = .ok (.loginIndex .sesiBerakhir) := by
    decide +kernel
  refine ⟨by decide +kernel, by decide +kernel, hberakhir, fun h => ?_⟩
  cases h.diterima _ hberakhir

end SistemAir
