import SistemAir.Library.Workers
import SistemAir.Spec.MonthlyRace
import SistemAir.Spec.Statements

/-! Any number of PHP workers behind index.php and login/index.php: each takes a request,
issues its statements among those of the others and takes the next. What holds of the
tables under every such schedule. -/
namespace SistemAir

open KeyedTable StatementProgram Prog

/-! ## What a worker serves -/

/-- A request with what it has read from `$_SESSION`; to login/index.php only once the session
is accepted. -/
inductive Layanan
  | index (request : Request) (token : String)
  | loginIndex (request : Request) (actor token : String)

def Layanan.program (php : Php) : Layanan → Aksi Respons
  | .index q token => do return .index (← SistemAir.index php q token)
  | .loginIndex q actor token => do return .loginIndex (← SistemAir.loginIndex php q actor token)

abbrev Kantor (ι : Type) := Pool Op Galat Respons ι Server

abbrev Kerja (ι : Type) := Work ι Layanan Clock

abbrev bekerja {ι : Type} [DecidableEq ι] (php : Php) : Kantor ι → Kerja ι → Kantor ι :=
  Pool.work exec berdetak (Layanan.program php)

/-- What the request has a worker do; the others are answered without a statement. -/
def World.layanan (w : World) (q : Request) : Option Layanan :=
  match q.page with
  | .index => some (.index q (w.csrfTokenLogin q))
  | .loginIndex =>
    if isEmpty (w.session q.sid).user || idle (w.session q.sid) q.clock.time then none
    else some (.loginIndex q (orEmpty (w.session q.sid).user) (w.csrfToken q))
  | _ => none

section Alone
variable (php : Php) (w : World) (q : Request)

theorem server_layanan :
    (step php w q).server =
      match w.layanan q with
      | none => w.opened q
      | some l => ((l.program php).run exec (w.opened q)).2 := by
  unfold World.layanan
  cases hpage : q.page with
  | index =>
    rw [(handle_of_index php hpage).2]
    exact congrArg Prod.snd (run_bind_pure exec _ _ Respons.index).symm
  | ajax => simp only [step, handle, hpage]; rfl
  | logout => simp only [step, handle, hpage]; rfl
  | loginIndex =>
    by_cases hempty : isEmpty (w.session q.sid).user = true
    · simp only [step, handle, hpage, handleLoginIndex, hempty, Bool.true_or, if_true]
      rfl
    by_cases hidle : idle (w.session q.sid) q.clock.time = true
    · simp only [step, handle, hpage, handleLoginIndex, hempty, hidle, Bool.or_true, if_true,
        if_false, Bool.false_eq_true]
      rfl
    obtain ⟨actor, huser⟩ : ∃ actor, (w.session q.sid).user = some actor := by
      cases huser : (w.session q.sid).user with
      | none => exact absurd (by rw [huser]; rfl) hempty
      | some actor => exact ⟨actor, rfl⟩
    rw [huser] at hempty
    simp only [huser, hempty, hidle, Bool.or_self, Bool.false_eq_true, if_false]
    rw [server_of_open php hpage huser (by simpa using hempty) (by simpa using hidle)]
    exact congrArg Prod.snd (run_bind_pure exec _ _ Respons.loginIndex).symm

variable {ι : Type} [DecidableEq ι]

/-- Requests handled one after another are one of the schedules. -/
theorem bekerja_serve (i : ι) (qs : List Request) {pool : Kantor ι} (hidle : pool.Idle)
    (hstate : pool.state = w.server) :
    ∃ works : List (Kerja ι), (Trace.run (bekerja php) pool works).Idle ∧
      (Trace.run (bekerja php) pool works).state = (serve php w qs).server := by
  induction qs generalizing w pool with
  | nil => exact ⟨[], hidle, hstate⟩
  | cons q qs ih =>
    let opened : Kantor ι := bekerja php pool (.event (.env q.clock))
    have hbefore : opened.Idle := hidle
    have hopened : opened.state = w.opened q := by
      change berdetak q.clock pool.state = w.opened q
      rw [hstate]
      rfl
    obtain ⟨works, hidle', hstate'⟩ : ∃ works : List (Kerja ι),
        (Trace.run (bekerja php) opened works).Idle ∧
          (Trace.run (bekerja php) opened works).state = (step php w q).server := by
      rw [server_layanan]
      cases w.layanan q with
      | none => exact ⟨[], hbefore, hopened⟩
      | some l =>
        obtain ⟨works, hidle', hstate'⟩ := Pool.work_alone exec berdetak (Layanan.program php)
          hbefore i l
        exact ⟨works, hidle', by rw [hstate', hopened]⟩
    obtain ⟨rest, hrest⟩ := ih (step php w q) hidle' hstate'
    refine ⟨.event (.env q.clock) :: (works ++ rest), ?_⟩
    rw [Trace.run_cons, Trace.run_append]
    exact hrest

end Alone

theorem terbit_loginIndex (php : Php) (q : Request) (actor token : String) :
    ((Layanan.loginIndex q actor token).program php).Only fun β op =>
      ∃ actor level tombol, roleRefused level tombol = false ∧
        (tombol = "" ∨ q.tombol = some tombol) ∧ Terbit actor level tombol β op := by
  refine Only.bind ?_ fun _ => trivial
  unfold SistemAir.loginIndex
  refine Only.bind ?_ fun user => ?_
  · refine ⟨⟨actor, .admin, "", by decide, .inl rfl, trivial⟩, fun answer => ?_⟩
    cases answer <;> trivial
  obtain ⟨nama, kota, level⟩ := user
  cases level with
  | none => trivial
  | some level =>
    dsimp only
    cases q.tombol with
    | none => trivial
    | some tombol =>
      dsimp only
      split
      · trivial
      split
      · trivial
      · rename_i hrole
        refine ((terbit_dispatch php q tombol).mono fun _ h => ?_).bind fun _ => trivial
        exact ⟨actor, level, tombol, by simpa using hrole, .inr rfl, h⟩

theorem terbit_layanan (php : Php) (l : Layanan) : (l.program php).Only TerbitHalaman := by
  cases l with
  | index q token =>
    exact ((terbit_index php q token).mono fun _ h => .inl h).bind fun _ => trivial
  | loginIndex q actor token =>
    refine (terbit_loginIndex php q actor token).mono fun _ h => .inr ?_
    obtain ⟨actor, level, tombol, hrole, -, h⟩ := h
    exact ⟨actor, level, tombol, hrole, h⟩

/-! ## Volumes -/

theorem sound_exec {β : Type} (op : Op β) (s : Server) (answer : β) (s' : Server)
    (hop : TerbitHalaman β op) (hs : ∀ r ∈ s.db.pemakaian.rows, r.Sound)
    (h : exec β op s = .ok (answer, s')) : ∀ r ∈ s'.db.pemakaian.rows, r.Sound := by
  cases op with
  | insertLogin =>
    obtain ⟨login', rfl⟩ := exec_insertLogin_ok h
    exact hs
  | insertTarif =>
    obtain ⟨tarif', rfl⟩ := exec_insertTarif_ok h
    exact hs
  | insertPemakaian u awal akhir pemakaian kdTarif tagihan status =>
    obtain ⟨actor, level, tombol, -, -, htera⟩ := hop.resolve_left id
    cases h
    intro r hr
    rcases List.mem_append.mp hr with hold | hnew
    · exact hs r hold
    · rw [List.mem_singleton.mp hnew]
      exact ⟨htera.volume, htera.nonneg, htera.settled⟩
  | updateMeter awal akhir pemakaian tagihan status no =>
    obtain ⟨actor, level, tombol, -, -, htera⟩ := hop.resolve_left id
    cases h
    intro r' hr'
    obtain ⟨r, hr, rfl⟩ := List.mem_map.mp hr'
    split
    · exact ⟨htera.volume, htera.nonneg, htera.settled⟩
    · exact hs r hr
  | updateBukti bukti no u =>
    cases h
    intro r' hr'
    obtain ⟨r, hr, rfl⟩ := List.mem_map.mp hr'
    have hsound := hs r hr
    split
    · exact ⟨hsound.volume, hsound.nonneg, hsound.settled⟩
    · exact hsound
  | deletePemakaianOf u =>
    cases h
    exact fun r hr => hs r (List.mem_of_mem_filter hr)
  | deletePemakaian no =>
    cases h
    exact fun r hr => hs r (List.mem_of_mem_filter hr)
  | storeUpload name upload =>
    cases h
    split <;> exact hs
  | _ => cases h; exact hs

/-- However the statements of the workers fall, every reading in the table is sound. -/
theorem interleaved_sound (php : Php) {ι : Type} [DecidableEq ι] {pool : Kantor ι}
    (hidle : pool.Idle) (hsound : ∀ r ∈ pool.state.db.pemakaian.rows, r.Sound)
    (works : List (Kerja ι)) :
    ∀ r ∈ (Trace.run (bekerja php) pool works).state.db.pemakaian.rows, r.Sound := by
  have hworks : Trace.Admissible (Pool.Admits fun _ _ => True) (bekerja php) pool works :=
    Trace.admissible_of_forall Pool.admits_true
  exact (Pool.always_only exec berdetak (Layanan.program php)
    (I := fun s : Server => ∀ r ∈ s.db.pemakaian.rows, r.Sound) (terbit_layanan php) sound_exec
    (fun _ _ h _ => h) (fun i => hidle.only i) hsound hworks).last.2

def kantorBuka : Kantor Bool := ⟨fun _ => .done .logout, (serve .decimal World.pertama kantor).server⟩

theorem kantorBuka_idle : kantorBuka.Idle := fun _ => rfl

def jadwalBudi : List (Kerja Bool) :=
  [.take true (.loginIndex (catatSepuluh "budi") "joko" "7f3a"),
    .take false (.loginIndex (catatSepuluh "budi") "admin" "7f3a")] ++ bersamaan.map .event

theorem interleaved_sound_budi :
    tagihanBudi ∈ (Trace.run (bekerja .decimal) kantorBuka jadwalBudi).state.db.pemakaian.rows ∧
      tagihanBudi.Sound := by
  have hmem : tagihanBudi ∈
      (Trace.run (bekerja .decimal) kantorBuka jadwalBudi).state.db.pemakaian.rows := by
    decide +kernel
  have hempty : kantorBuka.state.db.pemakaian.rows = [] := by decide +kernel
  refine ⟨hmem, interleaved_sound .decimal kantorBuka_idle ?_ jadwalBudi _ hmem⟩
  rw [hempty]
  intro r hr
  cases hr

/-! ## What is left of the past -/

/-- The two rows are the reading of one number, taken for one resident at one time. -/
structure Pemakaian.Sama (r' r : Pemakaian) : Prop where
  no : r'.no = r.no
  username : r'.username = r.username
  stamp : r'.stamp = r.stamp
  kdTarif : r'.kdTarif = r.kdTarif

/-- `s'` is later than `s`: the log has only grown, an old number still stands for the
reading it was given to, and the readings under new numbers are of the time since. -/
structure Sejarah (s s' : Server) : Prop where
  log : s.db.auditLog <+: s'.db.auditLog
  next : s.db.pemakaian.next ≤ s'.db.pemakaian.next
  clock : s.clock.Le s'.clock
  old : ∀ r' ∈ s'.db.pemakaian.rows, r'.no < s.db.pemakaian.next →
    ∃ r ∈ s.db.pemakaian.rows, r'.Sama r
  new : ∀ r' ∈ s'.db.pemakaian.rows, s.db.pemakaian.next ≤ r'.no →
    s.clock.sql.ordinal ≤ r'.stamp.ordinal

section Sejarah
variable {s s' s'' : Server}

theorem Sejarah.trans (h : Sejarah s s') (h' : Sejarah s' s'') : Sejarah s s'' where
  log := h.log.trans h'.log
  next := h.next.trans h'.next
  clock := h.clock.trans h'.clock
  old := by
    intro r'' hr'' hold
    obtain ⟨r', hr', hsame'⟩ := h'.old r'' hr'' (hold.trans_le h.next)
    obtain ⟨r, hr, hsame⟩ := h.old r' hr' (hsame'.no ▸ hold)
    exact ⟨r, hr, hsame'.no.trans hsame.no, hsame'.username.trans hsame.username,
      hsame'.stamp.trans hsame.stamp, hsame'.kdTarif.trans hsame.kdTarif⟩
  new := by
    intro r'' hr'' hnew
    by_cases hlate : s'.db.pemakaian.next ≤ r''.no
    · exact h.clock.sql.trans (h'.new r'' hr'' hlate)
    · obtain ⟨r', hr', hsame⟩ := h'.old r'' hr'' (Nat.lt_of_not_le hlate)
      rw [hsame.stamp]
      exact h.new r' hr' (hsame.no ▸ hnew)

theorem sejarah_of_rows (hlog : s.db.auditLog <+: s'.db.auditLog)
    (hnext : s'.db.pemakaian.next = s.db.pemakaian.next) (hclock : s'.clock = s.clock)
    (hrows : ∀ r' ∈ s'.db.pemakaian.rows, ∃ r ∈ s.db.pemakaian.rows, r'.Sama r) :
    Sejarah s s' where
  log := hlog
  next := hnext.ge
  clock := hclock ▸ Clock.Le.refl _
  old := fun r' hr' _ => hrows r' hr'
  new := by
    intro r' hr' hnew
    obtain ⟨r, hr, hsame⟩ := hrows r' hr'
    have hlt := s.db.pemakaian.lt_next r hr
    rw [← hsame.no] at hlt
    omega

theorem Pemakaian.Sama.refl (r : Pemakaian) : r.Sama r := ⟨rfl, rfl, rfl, rfl⟩

theorem sejarah_same (hlog : s.db.auditLog <+: s'.db.auditLog)
    (hrows : s'.db.pemakaian = s.db.pemakaian) (hclock : s'.clock = s.clock) : Sejarah s s' :=
  sejarah_of_rows hlog (congrArg AutoTable.next hrows) hclock
    fun r' hr' => ⟨r', hrows ▸ hr', .refl r'⟩

theorem sejarah_exec {β : Type} (op : Op β) (s : Server) (answer : β) (s' : Server)
    (h : exec β op s = .ok (answer, s')) : Sejarah s s' := by
  cases op with
  | insertLogin =>
    obtain ⟨login', rfl⟩ := exec_insertLogin_ok h
    exact sejarah_same List.prefix_rfl rfl rfl
  | insertTarif =>
    obtain ⟨tarif', rfl⟩ := exec_insertTarif_ok h
    exact sejarah_same List.prefix_rfl rfl rfl
  | insertAudit =>
    cases h
    exact sejarah_same (List.prefix_append _ _) rfl rfl
  | insertPemakaian u awal akhir pemakaian kdTarif tagihan status =>
    cases h
    refine ⟨List.prefix_rfl, Nat.le_succ _, Clock.Le.refl _, fun r hr hold => ?_, fun r hr hnew => ?_⟩
    · rcases List.mem_append.mp hr with hr | hr
      · exact ⟨r, hr, .refl r⟩
      · rw [List.mem_singleton.mp hr] at hold
        exact absurd hold (Nat.lt_irrefl _)
    · rcases List.mem_append.mp hr with hr | hr
      · have hlt := s.db.pemakaian.lt_next r hr
        omega
      · rw [List.mem_singleton.mp hr]
        exact Nat.le_refl _
  | updateMeter awal akhir pemakaian tagihan status no =>
    cases h
    refine sejarah_of_rows List.prefix_rfl rfl rfl fun r' hr' => ?_
    obtain ⟨r, hr, rfl⟩ := List.mem_map.mp hr'
    refine ⟨r, hr, ?_⟩
    split <;> exact ⟨rfl, rfl, rfl, rfl⟩
  | updateBukti bukti no u =>
    cases h
    refine sejarah_of_rows List.prefix_rfl rfl rfl fun r' hr' => ?_
    obtain ⟨r, hr, rfl⟩ := List.mem_map.mp hr'
    refine ⟨r, hr, ?_⟩
    split <;> exact ⟨rfl, rfl, rfl, rfl⟩
  | deletePemakaianOf u =>
    cases h
    exact sejarah_of_rows List.prefix_rfl rfl rfl fun r hr => ⟨r, List.mem_of_mem_filter hr, .refl r⟩
  | deletePemakaian no =>
    cases h
    exact sejarah_of_rows List.prefix_rfl rfl rfl fun r hr => ⟨r, List.mem_of_mem_filter hr, .refl r⟩
  | storeUpload name upload =>
    cases h
    split <;> exact sejarah_same List.prefix_rfl rfl rfl
  | _ => cases h; exact sejarah_same List.prefix_rfl rfl rfl

theorem sejarah_berdetak {now : Clock} (h : s.clock.Le now) : Sejarah s (berdetak now s) where
  log := List.prefix_rfl
  next := Nat.le_refl _
  clock := h
  old := fun r hr _ => ⟨r, hr, .refl r⟩
  new := by
    intro r hr hnew
    have hlt := s.db.pemakaian.lt_next r hr
    omega

end Sejarah

/-- Between any two moments of any schedule on clocks that go forward: the audit log of the
earlier begins that of the later, a number is still the reading it was given to, whatever has
been corrected, settled or deleted since, and the numbers given out since are of later times. -/
theorem interleaved_history (php : Php) {ι : Type} [DecidableEq ι] {pool : Kantor ι}
    {works rest : List (Kerja ι)}
    (hclocks : Trace.Admissible (Pool.Admits fun s now => s.clock.Le now) (bekerja php) pool
      (works ++ rest)) :
    Sejarah (Trace.run (bekerja php) pool works).state
      (Trace.run (bekerja php) pool (works ++ rest)).state := by
  rw [Trace.run_append]
  have halways := Pool.always_only exec berdetak (Layanan.program php) (P := fun _ _ => True)
    (I := Sejarah (Trace.run (bekerja php) pool works).state)
    (fun l => (terbit_layanan php l).mono fun _ _ => trivial)
    (fun op s answer s' _ hpast h => hpast.trans (sejarah_exec op s answer s' h))
    (fun s now hpast hnow => hpast.trans (sejarah_berdetak hnow))
    (fun i => only_true _) (sejarah_same List.prefix_rfl rfl rfl) hclocks.after
  exact halways.last.2

def jadwalLunas : List (Kerja Bool) :=
  [.event (.run true), .event (.run false), .event (.env (Clock.at hariKedua)),
    .take true (.loginIndex bayarSepuluh "siti" "7f3a")] ++ List.replicate 9 (.event (.run true))

theorem interleaved_history_budi :
    Sejarah (Trace.run (bekerja .decimal) kantorBuka jadwalBudi).state
      (Trace.run (bekerja .decimal) kantorBuka (jadwalBudi ++ jadwalLunas)).state :=
  interleaved_history .decimal (by decide +kernel)

end SistemAir
