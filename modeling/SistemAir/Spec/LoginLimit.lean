import SistemAir.Library.Window
import SistemAir.Model.World

/-! The login limit of index.php. The database's clock may move between the statements of
a request: the attempts are counted at one instant and a new one is dated at a later. -/
namespace SistemAir

open SlidingWindow StatementProgram Prog

/-- The clocks as the `n`-th statement of a request finds them. -/
def berjalan (jam : Nat → Clock) (n : Nat) (s : Server) : Server := { s with clock := jam n }

/-- A request to index.php and the clocks at each of its statements. -/
structure Percobaan where
  request : Request
  jam : Nat → Clock

def handleIndexBerjalan (php : Php) (w : World) (c : Percobaan) :
    Except Galat HasilIndex × World :=
  let s := w.session c.request.sid
  let token := ensureToken s.csrfTokenLogin c.request.token
  let out := (index php c.request token).run (ticking (berjalan c.jam) exec)
    ({ w.server with clock := c.request.clock }, 0)
  (out.1, ⟨out.2.1, Function.update w.session c.request.sid (sessionAfterIndex s token out.1)⟩)

/-- No statement of a request finds an earlier time than the one before. -/
def Percobaan.Maju (c : Percobaan) : Prop :=
  ∀ n, (c.jam n).sql.seconds ≤ (c.jam (n + 1)).sql.seconds

def Op.bacaSandi : (β : Type) → Op β → Bool
  | _, .passwordOf _ => true
  | _, _ => false

def SampaiSandi (php : Php) (w : World) (c : Percobaan) : Prop :=
  (index php c.request (ensureToken (w.session c.request.sid).csrfTokenLogin c.request.token)).Issues
    (ticking (berjalan c.jam) exec) Op.bacaSandi ({ w.server with clock := c.request.clock }, 0)

def Db.waktuPercobaan (db : Db) (identifier : String) : List Int :=
  (db.loginAttempts.filter (·.identifier = identifier)).map LoginAttempt.attemptTime

def Terbatas (db : Db) : Prop := ∀ identifier, Bounded 5 900 (db.waktuPercobaan identifier)

section Clocks
variable (php : Php)

theorem exec_clock {β : Type} (op : Op β) (s : Server) (answer : β) (s' : Server)
    (h : exec _ op s = .ok (answer, s')) : s'.clock = s.clock := by
  cases op with
  | insertLogin =>
    obtain ⟨login', rfl⟩ := exec_insertLogin_ok h
    rfl
  | insertTarif =>
    obtain ⟨tarif', rfl⟩ := exec_insertTarif_ok h
    rfl
  | storeUpload name upload =>
    cases h
    split <;> rfl
  | _ => cases h; rfl

theorem handleIndexBerjalan_diam (w : World) (q : Request) :
    handleIndexBerjalan php w ⟨q, fun _ => q.clock⟩ = handleIndex php w q := by
  have hrun := run_ticking (berjalan fun _ => q.clock) exec
    (C := fun s => s.clock = q.clock) (fun _ s hs => by unfold berjalan; rw [← hs])
    (fun op s answer s' hs h => (exec_clock op s answer s' h).trans hs)
    (index php q (ensureToken (w.session q.sid).csrfTokenLogin q.token))
    (s := { w.server with clock := q.clock }) rfl 0
  unfold handleIndexBerjalan handleIndex
  simp only [hrun.1, hrun.2]

end Clocks

section Limit
variable (php : Php) {w : World} {c : Percobaan}

theorem loginAttempts_login (jam : Nat → Clock) (ip : String) (post : Form) (s : Server) (n : Nat) :
    let out := (login php ip post).run (ticking (berjalan jam) exec) (s, n)
    out.2.1.db.loginAttempts = s.db.loginAttempts ∨
      out.2.1.db.loginAttempts =
        s.db.loginAttempts ++ [⟨ip, (jam (n + 1)).sql.seconds⟩] := by
  unfold login
  rw [perform_bind, run_call_ok _ (ticking_ok rfl)]
  cases (berjalan jam n s).db.akun (trim (orEmpty (post.get? "username"))) with
  | none => exact .inr rfl
  | some a =>
    dsimp only [Option.map_some]
    split
    · exact .inl rfl
    · exact .inr rfl

theorem loginAttempts_registerWarga (jam : Nat → Clock) (salt : String) (post : Form)
    (s : Server) (n : Nat) :
    ((registerWarga php salt post).run (ticking (berjalan jam) exec) (s, n)).2.1.db.loginAttempts =
      s.db.loginAttempts := by
  unfold registerWarga
  rw [perform_bind, run_call_ok _ (ticking_ok rfl)]
  split
  · rfl
  · rw [perform_bind, run_call]
    simp only [ticking]
    generalize hout : exec _ _ (berjalan jam (n + 1) (berjalan jam n s)) = out
    cases out with
    | error galat => rfl
    | ok result =>
      obtain ⟨affected, s'⟩ := result
      obtain ⟨login', rfl⟩ := exec_insertLogin_ok hout
      rfl

theorem loginAttempts_index (jam : Nat → Clock) (q : Request) (token : String) (s : Server) :
    let out := (index php q token).run (ticking (berjalan jam) exec) (s, 0)
    out.2.1.db.loginAttempts = s.db.loginAttempts ∨
      s.db.countAttempts q.ip (jam 0).sql.seconds < 5 ∧
        out.2.1.db.loginAttempts = s.db.loginAttempts ++ [⟨q.ip, (jam 2).sql.seconds⟩] := by
  unfold index
  rw [perform_bind, run_call_ok _ (ticking_ok rfl)]
  cases q.tombol with
  | none => exact .inl rfl
  | some tombol =>
    dsimp only
    split
    · exact .inl rfl
    split
    · exact .inl rfl
    rename_i hfew
    split
    · rcases loginAttempts_login php jam q.ip q.post (berjalan jam 0 s) 1 with hsame | hone
      · exact .inl hsame
      · exact .inr ⟨Nat.lt_of_not_le hfew, hone⟩
    split
    · exact .inl (loginAttempts_registerWarga php jam q.salt q.post (berjalan jam 0 s) 1)
    · exact .inl rfl

theorem length_waktuPercobaan (db : Db) (identifier : String) (now : Int) :
    ((db.waktuPercobaan identifier).filter fun time => now - 900 < time).length =
      db.countAttempts identifier now := by
  unfold Db.waktuPercobaan Db.countAttempts
  rw [List.filter_map, List.length_map, List.filter_filter]
  congr 1
  exact List.filter_congr fun a _ => Bool.and_comm _ _

/-- A request adds to the attempts of its own address at most, and then after a look that
found fewer than five. -/
theorem terbatas_step (hw : Terbatas w.db) (hc : c.Maju) :
    Terbatas (handleIndexBerjalan php w c).2.db := by
  intro identifier
  have hattempts := loginAttempts_index php c.jam c.request
    (ensureToken (w.session c.request.sid).csrfTokenLogin c.request.token)
    { w.server with clock := c.request.clock }
  unfold Db.waktuPercobaan
  rcases hattempts with hsame | ⟨hfew, hone⟩
  · have hsame' : (handleIndexBerjalan php w c).2.db.loginAttempts = w.db.loginAttempts := hsame
    rw [hsame']
    exact hw identifier
  · have hone' : (handleIndexBerjalan php w c).2.db.loginAttempts =
        w.db.loginAttempts ++ [⟨c.request.ip, (c.jam 2).sql.seconds⟩] := hone
    rw [hone', List.filter_append, List.map_append]
    by_cases hip : c.request.ip = identifier
    · subst hip
      simp only [decide_true, List.filter_cons_of_pos, List.filter_nil, List.map_cons, List.map_nil]
      refine Bounded.append (hw c.request.ip) ?_ ((hc 0).trans (hc 1))
      exact (length_waktuPercobaan w.db c.request.ip _).trans_lt hfew
    · simp only [hip, decide_false, Bool.false_eq_true, not_false_eq_true,
        List.filter_cons_of_neg, List.filter_nil, List.map_nil, List.append_nil]
      exact hw identifier

theorem sampaiSandi_few (h : SampaiSandi php w c) :
    w.db.countAttempts c.request.ip (c.jam 0).sql.seconds < 5 := by
  unfold SampaiSandi index at h
  rw [perform_bind, issues_call_ok (ticking_ok rfl)] at h
  have hrest := h.resolve_left (by simp [Op.bacaSandi])
  clear h
  cases htombol : c.request.tombol with
  | none =>
    rw [htombol] at hrest
    exact hrest.elim
  | some tombol =>
    rw [htombol] at hrest
    dsimp only at hrest
    split at hrest
    · exact hrest.elim
    split at hrest
    · exact hrest.elim
    · rename_i hfew
      exact Nat.lt_of_not_le hfew

end Limit

/-- Over every sequence of requests to index.php, on a clock that may move inside each of
them: no fifteen minutes hold more than five attempts of one address, and no request gets
to a password after a count of five. -/
theorem login_window_limit (php : Php) {w : World} (hw : Terbatas w.db) {cs : List Percobaan}
    (hcs : ∀ c ∈ cs, c.Maju) :
    Trace.Always (fun w => Terbatas w.db) (fun w c => (handleIndexBerjalan php w c).2) w cs ∧
      Trace.Admissible (fun w c => 5 ≤ ((w.db.waktuPercobaan c.request.ip).filter
          (inside 900 (c.jam 0).sql.seconds)).length → ¬SampaiSandi php w c)
        (fun w c => (handleIndexBerjalan php w c).2) w cs := by
  constructor
  · exact Trace.always_of_admissible (I := fun w : World => Terbatas w.db)
      (fun w c hw hc => terbatas_step php hw hc)
      (Trace.admissible_of_forall_mem fun c hc _ => hcs c hc) hw
  · refine Trace.admissible_of_forall fun w c hfull hsandi => ?_
    have hseen := hfull.trans (length_inside_le _ le_rfl _)
    rw [length_waktuPercobaan] at hseen
    exact absurd (sampaiSandi_few php hsandi) (Nat.not_lt.mpr hseen)

def salahSandi : Percobaan :=
  { request := Request.kirim 7 .index hariBuka
      [("csrf_token", "7f3a"), ("username", "admin"), ("password", "?"), ("tombol", "login")]
    jam := fun n => Clock.at (if n < 2 then hariBuka else hariKedua) }

/-- Seven of them; the sixth and the seventh are only counted. -/
theorem login_window_limit_salah :
    Trace.Always (fun w => Terbatas w.db) (fun w c => (handleIndexBerjalan Php.decimal w c).2)
        World.pertama (List.replicate 7 salahSandi) ∧
      Trace.Admissible (fun w c => 5 ≤ ((w.db.waktuPercobaan c.request.ip).filter
          (inside 900 (c.jam 0).sql.seconds)).length → ¬SampaiSandi Php.decimal w c)
        (fun w c => (handleIndexBerjalan Php.decimal w c).2) World.pertama
        (List.replicate 7 salahSandi) := by
  refine login_window_limit Php.decimal (fun _ => bounded_nil) fun c hc => ?_
  obtain rfl := List.eq_of_mem_replicate hc
  intro n
  match n with
  | 0 => decide +kernel
  | 1 => decide +kernel
  | n + 2 =>
    have hlate (m : Nat) (hm : 2 ≤ m) : salahSandi.jam m = Clock.at hariKedua :=
      congrArg Clock.at (if_neg (Nat.not_lt.mpr hm))
    rw [hlate (n + 2) (by omega), hlate (n + 2 + 1) (by omega)]

end SistemAir
