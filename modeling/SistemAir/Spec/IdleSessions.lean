import SistemAir.Spec.AjaxIsolation
import SistemAir.Spec.Sessions

/-! Idle sessions. login/index.php compares last_activity, assets/ajax.php does not, and
index.php does not set it: what a session is refused after thirty idle minutes. -/
namespace SistemAir

open StatementProgram Prog

/-! ## Requests that are let through -/

section Gate
variable (php : Php) (zona : Clock → Stamp) (w : World) (q : Request)

/-- The session check of the endpoint turns the request away. `zona` is the clock of
assets/ajax.php, which runs in PHP's default time zone. -/
def menolak : Bool :=
  match q.page with
  | .loginIndex =>
    match (handle php w q).1 with
    | .ok (.loginIndex hasil) => hasil.menolakSesi
    | _ => false
  | .ajax =>
    match (w.opened q).ajax (w.session q.sid).user q.post (zona q.clock) with
    | .ok .unauthorized => true
    | _ => false
  | _ => false

def diterima : Bool :=
  match q.page with
  | .index => (masukSebagai (handle php w q).1).isSome
  | .loginIndex | .ajax => !menolak php zona w q
  | .logout => false

/-- The request leaves nothing alive: it is turned away, no table has changed, and
nobody is logged in afterwards. -/
structure Mati : Prop where
  ditolak : menolak php zona w q = true
  db : (step php w q).db = w.db
  keluar : isEmpty ((step php w q).session q.sid).user = true

/-- The session data that make a request find its session dead once it is late. -/
def TahuMati : Prop :=
  isEmpty (w.session q.sid).user = true ∨
    q.page = .loginIndex ∧
      ((w.session q.sid).lastActivity.isSome ∨ w.db.levelOf (w.session q.sid).user = none)

instance : Decidable (TahuMati w q) := inferInstanceAs (Decidable (_ ∨ _))

end Gate

/-! ## Watching the sessions -/

/-- The system together with when each session was last let through. -/
structure Terpantau where
  world : World
  terakhir : Nat → Option Nat

def World.dipantau (w : World) : Terpantau := ⟨w, fun _ => none⟩

def Terpantau.step (php : Php) (zona : Clock → Stamp) (t : Terpantau) (q : Request) : Terpantau where
  world := SistemAir.step php t.world q
  terakhir :=
    if diterima php zona t.world q then Function.update t.terakhir q.sid (some q.clock.time)
    else t.terakhir

/-- No request is older than the last one its session was let through with. -/
def Maju (t : Terpantau) (q : Request) : Prop :=
  ∀ last ∈ t.terakhir q.sid, last ≤ q.clock.time

/-- A request to one of the two endpoints after more than thirty minutes of silence. -/
def Terlambat (t : Terpantau) (q : Request) : Prop :=
  (q.page = .loginIndex ∨ q.page = .ajax) ∧
    ∃ last ∈ t.terakhir q.sid, last + batasDiamDetik < q.clock.time

instance (t : Terpantau) (q : Request) : Decidable (Maju t q) :=
  inferInstanceAs (Decidable (∀ last ∈ t.terakhir q.sid, last ≤ q.clock.time))

instance (t : Terpantau) (q : Request) : Decidable (Terlambat t q) :=
  inferInstanceAs (Decidable (_ ∧ ∃ last ∈ t.terakhir q.sid, last + batasDiamDetik < q.clock.time))

/-- last_activity is never later than the session's last accepted request. -/
def Tertinggal (t : Terpantau) : Prop :=
  ∀ sid, ∀ l ∈ (t.world.session sid).lastActivity, ∃ last ∈ t.terakhir sid, l ≤ last

section Watch
variable {php : Php} {zona : Clock → Stamp} {t : Terpantau} {w : World} {q : Request}

theorem lastActivity_sessionAfter (s : Session) (token : String) (out : Except Galat Hasil) :
    ∀ l ∈ (sessionAfter s token out).lastActivity, l ∈ s.lastActivity := by
  intro l hl
  unfold sessionAfter at hl
  split at hl
  · cases hl
  · rename_i slot res
    cases slot <;> exact hl
  · exact hl
  · exact hl

theorem lastActivity_sessionAfterIndex (s : Session) (token : String)
    (out : Except Galat HasilIndex) :
    (sessionAfterIndex s token out).lastActivity = s.lastActivity := by
  unfold sessionAfterIndex
  split <;> rfl

theorem lastActivity_step :
    ∀ l ∈ ((step php w q).session q.sid).lastActivity,
      l ∈ (w.session q.sid).lastActivity ∨ l = q.clock.time ∧ diterima php zona w q = true := by
  intro l hl
  cases hpage : q.page with
  | index =>
    rw [session_step_index php hpage, lastActivity_sessionAfterIndex] at hl
    exact .inl hl
  | ajax =>
    simp only [step, handle, hpage] at hl
    exact .inl hl
  | logout =>
    simp only [step, handle, hpage, Function.update_self] at hl
    cases hl
  | loginIndex =>
    by_cases hanon : isEmpty (w.session q.sid).user = true
    · have hout : handle php w q = _ := handle_loginIndex hpage (handleLoginIndex_anonymous hanon)
      rw [step, hout] at hl
      exact .inl hl
    rw [Bool.not_eq_true] at hanon
    by_cases hidle : idle (w.session q.sid) q.clock.time = true
    · have hout : handle php w q = _ := handle_loginIndex hpage (handleLoginIndex_idle hanon hidle)
      rw [step, hout] at hl
      simp only [Function.update_self] at hl
      cases hl
    rw [Bool.not_eq_true] at hidle
    obtain ⟨u, huser⟩ := exists_of_isEmpty hanon
    rw [huser] at hanon
    cases hlevel : w.db.levelOf (some u) with
    | none =>
      have hout : handle php w q = _ := handle_loginIndex hpage
        (handleLoginIndex_noLevel huser hanon hidle hlevel)
      rw [step, hout] at hl
      simp only [Function.update_self] at hl
      cases hl
    | some level =>
      have hakun : (w.db.akun u).isSome := akun_of_levelOf (by rw [hlevel]; exact Option.some_ne_none _)
      have hserved : DilayaniSebagai php w q u :=
        (dilayani_iff hpage huser hakun).mpr ⟨hanon, hidle⟩
      have hl' := hl
      rw [step, hserved.berjalan] at hl'
      simp only [Function.update_self] at hl'
      have htime := lastActivity_sessionAfter _ _ _ l hl'
      simp only [Option.mem_def, Option.some.injEq] at htime
      refine .inr ⟨htime.symm, ?_⟩
      unfold diterima menolak
      simp only [hpage]
      cases hanswer : (handle php w q).1 with
      | error galat => rfl
      | ok respons =>
        cases respons with
        | loginIndex hasil =>
          simp only [hserved.diterima hasil hanswer, Bool.not_false]
        | _ => rfl

theorem Tertinggal.step (h : Tertinggal t) (hq : Maju t q) : Tertinggal (t.step php zona q) := by
  intro sid l hl
  by_cases hsid : q.sid = sid
  · subst hsid
    simp only [Terpantau.step]
    rcases lastActivity_step l hl with hold | ⟨rfl, hterima⟩
    · obtain ⟨last, hlast, hle⟩ := h q.sid l hold
      split
      · exact ⟨q.clock.time, by simp, hle.trans (hq last hlast)⟩
      · exact ⟨last, hlast, hle⟩
    · rw [if_pos hterima]
      exact ⟨q.clock.time, by simp, le_refl _⟩
  · have hsession : ((t.step php zona q).world.session sid) = t.world.session sid :=
      session_step_of_ne php hsid
    rw [hsession] at hl
    obtain ⟨last, hlast, hle⟩ := h sid l hl
    refine ⟨last, ?_, hle⟩
    simp only [Terpantau.step]
    split
    · rw [Function.update_of_ne (Ne.symm hsid)]
      exact hlast
    · exact hlast

/-! ## What a late request finds -/

theorem mati_anonymous (hpage : q.page = .loginIndex ∨ q.page = .ajax)
    (h : isEmpty (w.session q.sid).user = true) : Mati php zona w q := by
  rcases hpage with hpage | hpage
  · have hout : handle php w q = _ := handle_loginIndex hpage (handleLoginIndex_anonymous h)
    refine ⟨?_, by rw [step, hout]; rfl, by rw [step, hout]; exact h⟩
    unfold menolak
    simp only [hpage, hout]
    rfl
  · refine ⟨?_, by simp only [step, handle, hpage]; rfl, by simpa only [step, handle, hpage] using h⟩
    unfold menolak
    simp only [hpage]
    rw [ajax_refused _ _ _ (.inl h)]

theorem mati_of_empty {hasil : Hasil} (hpage : q.page = .loginIndex)
    (hasil_menolak : hasil.menolakSesi = true)
    (h : handleLoginIndex php w q =
      (.ok hasil, ⟨w.opened q, Function.update w.session q.sid Session.empty⟩)) :
    Mati php zona w q := by
  have hout : handle php w q = _ := handle_loginIndex hpage h
  refine ⟨?_, by rw [step, hout]; rfl, ?_⟩
  · unfold menolak
    simp only [hpage, hout]
    exact hasil_menolak
  · rw [step, hout]
    simp only [Function.update_self]
    rfl

theorem tahuMati_of_mati (hpage : q.page = .loginIndex ∨ q.page = .ajax)
    (h : Mati php zona w q) : TahuMati w q := by
  rcases hpage with hpage | hpage
  · by_contra hnot
    simp only [TahuMati, not_or, not_and, Bool.not_eq_true] at hnot
    obtain ⟨hnamed, hrest⟩ := hnot
    obtain ⟨hlast, hlevel⟩ := hrest hpage
    obtain ⟨u, huser⟩ := exists_of_isEmpty hnamed
    rw [huser] at hnamed hlevel
    have hactive : idle (w.session q.sid) q.clock.time = false := by
      unfold idle
      rw [Option.isNone_iff_eq_none.mp (Option.isSome_eq_false_iff.mp hlast)]
    have hserved : DilayaniSebagai php w q u :=
      (dilayani_iff hpage huser (akun_of_levelOf hlevel)).mpr ⟨hnamed, hactive⟩
    have hditolak := h.ditolak
    unfold menolak at hditolak
    simp only [hpage] at hditolak
    cases hanswer : (handle php w q).1 with
    | error galat => rw [hanswer] at hditolak; cases hditolak
    | ok respons =>
      cases respons with
      | loginIndex hasil =>
        rw [hanswer] at hditolak
        simp only [hserved.diterima hasil hanswer] at hditolak
        cases hditolak
      | _ => rw [hanswer] at hditolak; cases hditolak
  · refine .inl ?_
    have hkeluar := h.keluar
    simpa only [step, handle, hpage] using hkeluar

theorem mati_of_tahuMati (ht : Tertinggal t) (hlate : Terlambat t q) (h : TahuMati t.world q) :
    Mati php zona t.world q := by
  obtain ⟨hpage, last, hlast, hsilent⟩ := hlate
  by_cases hnamed : isEmpty (t.world.session q.sid).user = true
  · exact mati_anonymous hpage hnamed
  obtain ⟨hpage', hrest⟩ := h.resolve_left hnamed
  rw [Bool.not_eq_true] at hnamed
  by_cases hidle : idle (t.world.session q.sid) q.clock.time = true
  · exact mati_of_empty hpage' rfl (handleLoginIndex_idle hnamed hidle)
  rw [Bool.not_eq_true] at hidle
  have hlevel : t.world.db.levelOf (t.world.session q.sid).user = none := by
    refine hrest.resolve_left fun hsome => ?_
    obtain ⟨l, hl⟩ := Option.isSome_iff_exists.mp hsome
    obtain ⟨last', hlast', hle⟩ := ht q.sid l hl
    obtain rfl : last = last' := Option.some.inj (hlast.symm.trans hlast')
    simp only [idle, hl, decide_eq_false_iff_not] at hidle
    omega
  obtain ⟨u, huser⟩ := exists_of_isEmpty hnamed
  rw [huser] at hnamed hlevel
  exact mati_of_empty hpage' rfl (handleLoginIndex_noLevel huser hnamed hidle hlevel)

end Watch

/-- In every run that begins without sessions: late requests are all turned away
exactly when each of them either has no user left, or goes to login/index.php with a
last_activity to compare or an account that is gone. -/
theorem idle_sessions_dead_iff (php : Php) (zona : Clock → Stamp) {w : World}
    (hw : ∀ sid, w.session sid = Session.empty) {qs : List Request}
    (hqs : Trace.Admissible Maju (Terpantau.step php zona) w.dipantau qs) :
    Trace.Admissible (fun t q => Terlambat t q → Mati php zona t.world q)
        (Terpantau.step php zona) w.dipantau qs ↔
      Trace.Admissible (fun t q => Terlambat t q → TahuMati t.world q)
        (Terpantau.step php zona) w.dipantau qs := by
  refine Trace.admissible_iff_of_invariant (J := Tertinggal) (fun t q ht hq => ht.step hq)
    (fun t q ht _ => ?_) hqs ?_
  · constructor
    · exact fun h hlate => tahuMati_of_mati hlate.1 (h hlate)
    · exact fun h hlate => mati_of_tahuMati ht hlate (h hlate)
  · intro sid l hl
    rw [World.dipantau, hw sid] at hl
    cases hl

def kembaliJoko (page : Page) (post : Form) : Request := Request.kirim 1 page hariKedua post

theorem idle_sessions_dead_kantor :
    Trace.Admissible (fun t q => Terlambat t q → Mati Php.decimal Clock.php t.world q)
      (Terpantau.step Php.decimal Clock.php) World.pertama.dipantau
      (kantor ++ [kembaliJoko .loginIndex []]) := by
  have hsesi : ∀ sid, World.pertama.session sid = Session.empty := fun _ => rfl
  suffices h : _ ∧ _ from (idle_sessions_dead_iff Php.decimal Clock.php hsesi h.1).mpr h.2
  decide +kernel

/-- assets/ajax.php answers the same session with its charts, and leaves it logged in. -/
theorem idle_session_served :
    Trace.Admissible Maju (Terpantau.step Php.decimal Clock.php) World.pertama.dipantau
        (kantor ++ [kembaliJoko .ajax [("p", "semua_chart")]]) ∧
      ¬Trace.Admissible (fun t q => Terlambat t q → Mati Php.decimal Clock.php t.world q)
        (Terpantau.step Php.decimal Clock.php) World.pertama.dipantau
        (kantor ++ [kembaliJoko .ajax [("p", "semua_chart")]]) := by
  suffices h : _ ∧ Terlambat _ _ ∧ ¬_ = _ from
    ⟨h.1, fun hdead => h.2.2 (hdead.last h.2.1).ditolak⟩
  decide +kernel

end SistemAir
