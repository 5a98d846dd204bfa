import SistemAir.Spec.LoginLimit
import SistemAir.Spec.Workers

/-! What a look before an insert is worth among several workers. index.php counts the attempts
of an address before it records one, and meter_add looks for a reading of the month before it
inserts one; between look and insert the other workers go on. -/
namespace SistemAir

open KeyedTable SlidingWindow StatementProgram Prog Pool

/-! ## Login attempts -/

/-- Whether a worker has seen fewer than five attempts and may still record one. -/
inductive Tahap
  | lain
  | boleh (identifier : String)
  deriving DecidableEq, Repr

def izinPercobaan : Protocol Op Tahap
  | .lain, _, .countAttempts id => some fun found => if found < 5 then .boleh id else .lain
  | .boleh id, _, .insertAttempt id' => if id' = id then some fun _ => .lain else none
  | .lain, _, .insertAttempt _ => none
  | φ, _, _ => some fun _ => φ

def Op.percobaan : (β : Type) → Op β → Option String
  | _, .insertAttempt id => some id
  | _, _ => none

section Attempts
variable (php : Php)

theorem izinPercobaan_of_none (φ : Tahap) {β : Type} (op : Op β) (h : op.percobaan = none) :
    ∃ after, izinPercobaan φ β op = some after := by
  cases op with
  | insertAttempt => cases h
  | _ => cases φ <;> exact ⟨_, rfl⟩

theorem follows_index (q : Request) (token : String) :
    (index php q token).Follows izinPercobaan (fun _ _ => True) .lain := by
  refine ⟨_, rfl, fun attempts => ?_⟩
  generalize hφ : (if attempts < 5 then Tahap.boleh q.ip else .lain) = φ
  cases q.tombol with
  | none => trivial
  | some tombol =>
    dsimp only [Prog.bind]
    split
    · trivial
    split
    · trivial
    rename_i hfew
    rw [if_pos (Nat.lt_of_not_le hfew)] at hφ
    subst hφ
    split
    · refine ⟨_, rfl, fun found => ?_⟩
      cases found with
      | none => exact ⟨_, if_pos rfl, fun _ => trivial⟩
      | some found =>
        dsimp only [Prog.bind]
        split
        · trivial
        · exact ⟨_, if_pos rfl, fun _ => trivial⟩
    split
    · refine ⟨_, rfl, fun found => ?_⟩
      dsimp only [Prog.bind]
      split
      · trivial
      · exact ⟨_, rfl, fun _ => trivial⟩
    · trivial

theorem percobaan_loginIndex (q : Request) (actor token : String) :
    ((Layanan.loginIndex q actor token).program php).Only fun _ op => op.percobaan = none :=
  (terbit_loginIndex php q actor token).mono fun op h => by
    obtain ⟨actor', level, tombol, -, -, h⟩ := h
    cases op with
    | insertAttempt => cases h
    | _ => rfl

theorem follows_percobaan (l : Layanan) :
    (l.program php).Follows izinPercobaan (fun _ _ => True) .lain := by
  cases l with
  | index q token => exact (follows_index php q token).bind fun _ _ _ => trivial
  | loginIndex q actor token =>
    exact (percobaan_loginIndex php q actor token).follows
      (fun φ _ op => izinPercobaan_of_none φ op) .lain

theorem loginAttempts_exec {β : Type} (op : Op β) (s : Server) (answer : β) (s' : Server)
    (h : exec β op s = .ok (answer, s')) :
    s'.db.loginAttempts = s.db.loginAttempts ++
      op.percobaan.toList.map fun id => ⟨id, s.clock.sql.seconds⟩ := by
  cases op with
  | insertLogin =>
    obtain ⟨login', rfl⟩ := exec_insertLogin_ok h
    exact (List.append_nil _).symm
  | insertTarif =>
    obtain ⟨tarif', rfl⟩ := exec_insertTarif_ok h
    exact (List.append_nil _).symm
  | insertAttempt id => cases h; rfl
  | storeUpload name upload =>
    cases h
    split <;> exact (List.append_nil _).symm
  | _ => cases h; exact (List.append_nil _).symm

theorem waktuPercobaan_exec {β : Type} (op : Op β) (s : Server) (answer : β) (s' : Server)
    (h : exec β op s = .ok (answer, s')) (identifier : String) :
    s'.db.waktuPercobaan identifier = s.db.waktuPercobaan identifier ++
      if op.percobaan = some identifier then [s.clock.sql.seconds] else [] := by
  unfold Db.waktuPercobaan
  rw [loginAttempts_exec op s answer s' h, List.filter_append, List.map_append]
  congr 1
  cases op.percobaan with
  | none => rfl
  | some id =>
    by_cases hid : id = identifier
    · simp [hid]
    · simp [hid]

/-- Room is left for every attempt that a worker may still record. -/
def SisaPercobaan {ι : Type} [Fintype ι] (φ : ι → Tahap) (s : Server) : Prop :=
  ∀ identifier, Reserved (4 + Fintype.card ι) (inFlight (fun x => x = .boleh identifier) φ) 900
    s.clock.sql.seconds (s.db.waktuPercobaan identifier)

variable {ι : Type} [DecidableEq ι] [Fintype ι]

theorem sisaPercobaan_invariant :
    Invariant exec berdetak izinPercobaan .lain (fun _ => True)
      (fun s now => s.clock.sql.seconds ≤ now.sql.seconds) (SisaPercobaan (ι := ι)) where
  take := by
    intro φ s i h identifier
    refine (h identifier).fewer ?_
    have hmoved := inFlight_update (fun x => x = Tahap.boleh identifier) φ i .lain
    simp only [reduceCtorEq, decide_false, Bool.toNat_false] at hmoved
    omega
  env := fun φ s change h hclock identifier => (h identifier).tick hclock
  run := by
    intro φ s i β op after answer s' _ h hafter hout identifier
    have htimes := waktuPercobaan_exec op s answer s' hout identifier
    have hmoved := inFlight_update (fun x => x = Tahap.boleh identifier) φ i (after answer)
    have hleft := h identifier
    rw [exec_clock op s answer s' hout]
    -- A statement that neither looks nor records.
    have hquiet (hnone : op.percobaan = none) (hphase : after answer = φ i) :
        Reserved (4 + Fintype.card ι)
          (inFlight (fun x => x = Tahap.boleh identifier) (Function.update φ i (after answer))) 900
          s.clock.sql.seconds (s'.db.waktuPercobaan identifier) := by
      rw [hphase, Function.update_eq_self, htimes, hnone, if_neg (by simp), List.append_nil]
      exact hleft
    generalize hx : φ i = x at hafter hmoved hquiet
    cases x with
    | lain =>
      cases op with
      | countAttempts id =>
        cases hafter
        cases hout
        rw [htimes, if_neg (by simp [Op.percobaan]), List.append_nil]
        by_cases hfew : s.db.countAttempts id s.clock.sql.seconds < 5 ∧ id = identifier
        · obtain ⟨hfew, rfl⟩ := hfew
          refine hleft.bounded.reserve ?_
          rw [length_waktuPercobaan]
          exact Nat.add_le_add (Nat.le_of_lt_succ hfew) (inFlight_le_card _ _)
        · have hnot : (if s.db.countAttempts id s.clock.sql.seconds < 5 then Tahap.boleh id
              else .lain) ≠ .boleh identifier := by
            split
            · intro hid
              exact hfew ⟨‹_›, Tahap.boleh.inj hid⟩
            · intro hid
              cases hid
          refine hleft.fewer ?_
          simp only [hnot, reduceCtorEq, decide_false, Bool.toNat_false, Nat.add_zero] at hmoved
          exact hmoved.le
      | insertAttempt => cases hafter
      | _ => cases hafter; exact hquiet rfl rfl
    | boleh id =>
      cases op with
      | insertAttempt id' =>
        simp only [izinPercobaan] at hafter
        split at hafter
        · rename_i hsame
          cases hafter
          subst hsame
          rw [htimes]
          by_cases hid : id' = identifier
          · subst hid
            simp only [decide_true, Bool.toNat_true, reduceCtorEq, decide_false,
              Bool.toNat_false, Nat.add_zero] at hmoved
            rw [← hmoved] at hleft
            rw [if_pos (by rfl : Op.percobaan _ (Op.insertAttempt id') = some id')]
            exact hleft.record
          · rw [if_neg (by simpa [Op.percobaan] using hid), List.append_nil]
            refine hleft.fewer ?_
            simp only [Tahap.boleh.injEq, hid, reduceCtorEq, decide_false, Bool.toNat_false,
              Nat.add_zero] at hmoved
            exact hmoved.le
        · cases hafter
      | _ => cases hafter; exact hquiet rfl rfl

end Attempts

/-- With `k` workers, whatever they serve and however their statements fall, no fifteen minutes
hold more than `4 + k` attempts of one address. -/
theorem login_window_workers (php : Php) {ι : Type} [DecidableEq ι] [Fintype ι] {pool : Kantor ι}
    (hidle : pool.Idle)
    (hbefore : ∀ identifier,
      Bounded (4 + Fintype.card ι) 900 (pool.state.db.waktuPercobaan identifier))
    {works : List (Kerja ι)}
    (hclocks : Trace.Admissible (Admits fun s now => s.clock.sql.seconds ≤ now.sql.seconds)
      (bekerja php) pool works) :
    Trace.Always (fun pool => ∀ identifier,
        Bounded (4 + Fintype.card ι) 900 (pool.state.db.waktuPercobaan identifier))
      (bekerja php) pool works := by
  have hstart : SisaPercobaan (fun _ : ι => Tahap.lain) pool.state := by
    refine fun identifier => ⟨hbefore identifier, fun later _ => ?_⟩
    have hnone : inFlight (fun x => x = Tahap.boleh identifier) (fun _ : ι => Tahap.lain) = 0 := by
      simp [inFlight]
    rw [hnone]
    exact hbefore identifier later
  have hkeeps := always_keeps sisaPercobaan_invariant (follows_percobaan php)
    (hidle.keeps (fun _ => .lain) hstart) (fun _ _ => trivial) hclocks
  intro done hdone identifier
  obtain ⟨φ, -, hleft⟩ := hkeeps done hdone
  exact (hleft identifier).bounded

def salahMasuk : Layanan := .index salahSandi.request "7f3a"

def empatSalah : List (Kerja Bool) :=
  (List.replicate 4 (.take true salahMasuk :: List.replicate 3 (.event (.run true)))).flatten

def jadwalSalah : List (Kerja Bool) :=
  empatSalah ++ [.take true salahMasuk, .take false salahMasuk] ++
    (List.replicate 3 [.event (.run true), .event (.run false)]).flatten

theorem login_window_workers_salah :
    Trace.Always (fun pool => ∀ identifier, Bounded 6 900 (pool.state.db.waktuPercobaan identifier))
        (bekerja .decimal) kantorBuka jadwalSalah ∧
      ((Trace.run (bekerja .decimal) kantorBuka jadwalSalah).state.db.waktuPercobaan
        "192.168.1.1").length = 6 := by
  have hnone : kantorBuka.state.db.loginAttempts = [] := by decide +kernel
  refine ⟨login_window_workers .decimal kantorBuka_idle ?_ (by decide +kernel),
    by decide +kernel⟩
  intro identifier
  rw [Db.waktuPercobaan, hnone]
  exact fun _ => Nat.zero_le _

/-! ### The bound is reached -/

section Reached
variable (php : Php) (identifier : String)

def postNama (u : String) : Form := [("csrf_token", "7f3a"), ("username", u), ("tombol", "login")]

def masukNama (u : String) : Request :=
  { salahSandi.request with ip := identifier, post := postNama u }

def namaDihitung (u : String) : Aksi Respons := do
  return .index (← login php identifier (postNama u))

def namaBaru (n : Nat) : String := String.ofList (List.replicate n 'a')

theorem trim_namaBaru (n : Nat) : trim (namaBaru n) = namaBaru n := by
  have hkept (blank : Char → Bool) (h : blank 'a' = false) :
      (List.replicate n 'a').dropWhile blank = List.replicate n 'a' := by
    cases n with
    | zero => rfl
    | succ n => rw [List.replicate_succ, List.dropWhile_cons_of_neg (by simp [h])]
  unfold trim namaBaru
  dsimp only
  rw [String.toList_ofList, hkept _ (by decide), List.reverse_replicate, hkept _ (by decide),
    List.reverse_replicate]

theorem exists_namaBaru (db : Db) : ∃ n, db.akun (namaBaru n) = none := by
  have hinj : Function.Injective namaBaru := by
    intro n m h
    have hlength := congrArg (fun s : String => s.toList.length) h
    simpa [namaBaru] using hlength
  obtain ⟨u, ⟨n, rfl⟩, hfresh⟩ := (Set.infinite_range_of_injective hinj).exists_notMem_finset
    (db.login.rows.map Login.username).toFinset
  refine ⟨n, (KeyedTable.Table.find?_eq_none_iff _).mpr fun r hr hname => hfresh ?_⟩
  rw [List.mem_toFinset, ← hname]
  exact List.mem_map_of_mem hr

def Server.mencoba (s : Server) : Server :=
  s.setDb { s.db with loginAttempts := s.db.loginAttempts ++ [⟨identifier, s.clock.sql.seconds⟩] }

variable {php identifier} {s : Server} {u : String}

theorem stepOnce_masukNama (h : s.db.countAttempts identifier s.clock.sql.seconds < 5) :
    ((Layanan.index (masukNama identifier u) "7f3a").program php).stepOnce exec s =
      (namaDihitung php identifier u, s) := by
  have hip : (masukNama identifier u).ip = identifier := rfl
  have hpost : (masukNama identifier u).post = postNama u := rfl
  have htombol : (masukNama identifier u).tombol = some "login" := by rfl
  have hposted : (postNama u).get? "csrf_token" = some "7f3a" := by simp [postNama, Form.get?]
  have htoken : tokenRefused "7f3a" ((postNama u).get? "csrf_token") = false := by
    rw [hposted]
    decide
  have hlogin : strtolower "login" = "login" := by decide
  simp only [Layanan.program, SistemAir.index, perform_bind, call_bind, stepOnce, exec, hip, hpost,
    htombol, htoken, hlogin, Bool.false_eq_true, if_false, if_true]
  rw [if_neg (Nat.not_le.mpr h)]
  rfl

theorem stepOnce_namaDihitung (php : Php) (htrim : trim u = u) (h : s.db.akun u = none) :
    ∃ p : Aksi Respons, (namaDihitung php identifier u).stepOnce exec s = (p, s) ∧
      p.stepOnce exec s =
        (.done (.index (.halaman (some .usernameTidakAda))), s.mencoba identifier) := by
  have hname : trim (orEmpty ((postNama u).get? "username")) = u := by
    simpa [postNama, Form.get?, orEmpty] using htrim
  refine ⟨_, rfl, ?_⟩
  rw [hname, h]
  rfl

@[simp] theorem Server.clock_mencoba (s : Server) :
    (s.mencoba identifier).clock = s.clock := rfl

theorem countAttempts_mencoba (identifier : String) (s : Server) :
    (s.mencoba identifier).db.countAttempts identifier s.clock.sql.seconds =
      s.db.countAttempts identifier s.clock.sql.seconds + 1 := by
  have hnow : s.clock.sql.seconds - 900 < s.clock.sql.seconds := by omega
  simp [Server.mencoba, Server.setDb, Db.countAttempts, List.filter_append, hnow]

theorem countAttempts_iterate (identifier : String) (s : Server) (n : Nat) :
    ((Server.mencoba identifier)^[n] s).clock = s.clock ∧
      ((Server.mencoba identifier)^[n] s).db.countAttempts identifier s.clock.sql.seconds =
        s.db.countAttempts identifier s.clock.sql.seconds + n := by
  induction n with
  | zero => exact ⟨rfl, rfl⟩
  | succ n ih =>
    rw [Function.iterate_succ_apply']
    refine ⟨ih.1, ?_⟩
    have hone := countAttempts_mencoba identifier ((Server.mencoba identifier)^[n] s)
    rw [ih.1, ih.2] at hone
    rw [hone]
    omega

end Reached

/-- From four attempts on, all workers can come to record one at the same time. -/
theorem login_window_workers_reached (php : Php) {ι : Type} [DecidableEq ι] [Fintype ι]
    {pool : Kantor ι} (hidle : pool.Idle) {identifier : String}
    (hfour : pool.state.db.countAttempts identifier pool.state.clock.sql.seconds = 4) :
    ∃ works : List (Kerja ι), (∀ now, .event (.env now) ∉ works) ∧
      (Trace.run (bekerja php) pool works).state.db.countAttempts identifier
        pool.state.clock.sql.seconds = 4 + Fintype.card ι := by
  obtain ⟨n, hnobody⟩ := exists_namaBaru pool.state.db
  let u := namaBaru n
  let workers : List ι := Finset.univ.toList
  have hall (i : ι) : i ∈ workers := Finset.mem_toList.mpr (Finset.mem_univ i)
  have hnodup : workers.Nodup := Finset.nodup_toList _
  -- All take the request, all count four attempts, and all record theirs.
  obtain ⟨taken, htake, htaken, -, hstate, -⟩ := run_round exec berdetak (Layanan.program php)
    (A := fun p => p.finished = true) (C := fun s => s = pool.state) (f := id)
    (p := (Layanan.index (masukNama identifier u) "7f3a").program php)
    (fun i : ι => [.take i (.index (masukNama identifier u) "7f3a")])
    (by
      intro pool i hfinished hstate
      rw [Trace.run_cons, Trace.run_nil, work, if_pos hfinished]
      exact ⟨rfl, hstate⟩) hnodup (fun i _ => hidle i) rfl
  rw [Function.iterate_id, id] at hstate
  obtain ⟨counted, hcount, hcounted, -, hstate', -⟩ := run_round exec berdetak
    (Layanan.program php) (A := fun p => p = (Layanan.index (masukNama identifier u) "7f3a").program php)
    (C := fun s => s = pool.state) (f := id) (p := namaDihitung php identifier u)
    (fun i : ι => [.event (.run i)])
    (by
      intro pool' i hthread hsame
      rw [Trace.run_cons, Trace.run_nil, work, Pool.step, hthread, hsame,
        stepOnce_masukNama (by omega)]
      exact ⟨rfl, rfl⟩) hnodup htaken hstate
  rw [Function.iterate_id, id, hstate] at hstate'
  obtain ⟨recorded, hrecord, -, -, hstate'', -⟩ := run_round exec berdetak
    (Layanan.program php) (A := fun p => p = namaDihitung php identifier u)
    (C := fun s => s.db.akun u = none) (f := Server.mencoba identifier)
    (p := .done (.index (.halaman (some .usernameTidakAda))))
    (fun i : ι => [.event (.run i), .event (.run i)])
    (by
      intro pool' i hthread hnone
      obtain ⟨p, hfirst, hsecond⟩ := stepOnce_namaDihitung php (trim_namaBaru n) hnone
      rw [Trace.run_cons, Trace.run_cons, Trace.run_nil, work, work, Pool.step, Pool.step, hthread,
        hfirst]
      simp only [Function.update_self, hsecond, Function.update_idem]
      exact ⟨trivial, hnone⟩) hnodup hcounted (hstate' ▸ hnobody)
  refine ⟨workers.flatMap (fun i => [.take i (.index (masukNama identifier u) "7f3a")]) ++
    workers.flatMap (fun i => [.event (.run i)]) ++
    workers.flatMap fun i => [.event (.run i), .event (.run i)], ?_, ?_⟩
  · simp
  · rw [Trace.run_append, Trace.run_append, htake, hcount, hrecord, hstate'', hstate',
      (countAttempts_iterate identifier pool.state workers.length).2, hfour, Finset.length_toList]
    rfl

theorem login_window_workers_reached_salah :
    ∃ works : List (Kerja Bool), (∀ now, .event (.env now) ∉ works) ∧
      (Trace.run (bekerja .decimal) (Trace.run (bekerja .decimal) kantorBuka empatSalah)
        works).state.db.countAttempts "192.168.1.1"
          (Trace.run (bekerja .decimal) kantorBuka empatSalah).state.clock.sql.seconds = 4 + 2 := by
  have hidle : (Trace.run (bekerja .decimal) kantorBuka empatSalah).Idle := by
    intro i
    cases i <;> decide +kernel
  exact login_window_workers_reached .decimal hidle (by decide +kernel)

/-! ## Readings of a month -/

def Op.menyisip : (β : Type) → Op β → Bool
  | _, .insertPemakaian .. => true
  | _, _ => false

/-- The order of meter_add; no other request inserts. -/
def izinBulan : Protocol Op Fase := fun φ _ op =>
  match izin φ _ op with
  | some after => some after
  | none => if op.menyisip then none else some fun _ => φ

def Db.jumlahBulan (db : Db) (u : Option String) (bulan : Nat) : Nat :=
  (db.pemakaian.rows.filter fun r => sqlEq r.username u && r.tgl.monthIndex = bulan).length

/-- A worker in this phase may still insert a reading of the resident in the month: it counted
none of them, or its date is not of this month. -/
def menunggu (u : Option String) (bulan : Nat) : Fase → Bool
  | .awal => false
  | .bertanggal now => now.php.date.monthIndex ≠ bulan
  | .kosong u' _ => u' = u
  | .selesai => false

section Monthly
variable (php : Php)

theorem menyisip_loginIndex {q : Request} (hq : q.tombol ≠ some "meter_add") (actor token : String) :
    ((Layanan.loginIndex q actor token).program php).Only fun _ op => op.menyisip = false :=
  (terbit_loginIndex php q actor token).mono fun op h => by
    obtain ⟨actor', level, tombol, -, hasks, h⟩ := h
    cases op with
    | insertPemakaian =>
      obtain ⟨rfl, -⟩ := h
      exact absurd (hasks.resolve_left (by decide)) hq
    | _ => rfl

theorem menyisip_index (q : Request) (token : String) :
    ((Layanan.index q token).program php).Only fun _ op => op.menyisip = false :=
  ((terbit_index php q token).mono fun op h => by
    cases op with
    | insertPemakaian => cases h
    | _ => rfl).bind fun _ => trivial

theorem izinBulan_of_quiet (φ : Fase) {β : Type} (op : Op β) (h : op.menyisip = false) :
    ∃ after, izinBulan φ β op = some after := by
  unfold izinBulan
  split
  · exact ⟨_, rfl⟩
  · rw [h, if_neg Bool.false_ne_true]
    exact ⟨_, rfl⟩

theorem follows_bulan (l : Layanan) :
    (l.program php).Follows izinBulan (fun _ _ => True) .awal := by
  cases l with
  | index q token =>
    exact (menyisip_index php q token).follows (fun φ _ op => izinBulan_of_quiet φ op) .awal
  | loginIndex q actor token =>
    by_cases hq : q.tombol = some "meter_add"
    · refine Follows.bind (Follows.extend ?_ (follows_loginIndex php hq actor token))
        fun _ _ _ => trivial
      intro φ β op after hafter
      simp only [izinBulan, hafter]
    · exact (menyisip_loginIndex php hq actor token).follows
        (fun φ _ op => izinBulan_of_quiet φ op) .awal

def Pemakaian.pemilikTanggal (r : Pemakaian) : Option String × Date := (r.username, r.tgl)

theorem pemilikTanggal_exec {β : Type} (op : Op β) (s : Server) (answer : β) (s' : Server)
    (hop : op.menyisip = false) (h : exec β op s = .ok (answer, s')) :
    (s'.db.pemakaian.rows.map Pemakaian.pemilikTanggal).Sublist
      (s.db.pemakaian.rows.map Pemakaian.pemilikTanggal) := by
  have hassigned (p : Pemakaian → Bool) (f : Pemakaian → Pemakaian)
      (hf : ∀ r, (f r).pemilikTanggal = r.pemilikTanggal) (rows : List Pemakaian) :
      ((rows.map fun r => if p r then f r else r).map Pemakaian.pemilikTanggal).Sublist
        (rows.map Pemakaian.pemilikTanggal) := by
    rw [List.map_map, List.map_congr_left fun r _ => ?_]
    rw [Function.comp_apply]
    split
    · exact hf r
    · rfl
  cases op with
  | insertLogin =>
    obtain ⟨login', rfl⟩ := exec_insertLogin_ok h
    exact List.Sublist.refl _
  | insertTarif =>
    obtain ⟨tarif', rfl⟩ := exec_insertTarif_ok h
    exact List.Sublist.refl _
  | insertPemakaian => cases hop
  | updateMeter awal akhir pemakaian tagihan status no =>
    cases h
    exact hassigned _ (Pemakaian.setMeter awal akhir pemakaian tagihan status) (fun _ => rfl) _
  | updateBukti bukti =>
    cases h
    exact hassigned _ (Pemakaian.setBukti bukti) (fun _ => rfl) _
  | deletePemakaianOf => cases h; exact List.filter_sublist.map _
  | deletePemakaian => cases h; exact List.filter_sublist.map _
  | storeUpload =>
    cases h
    split <;> exact List.Sublist.refl _
  | _ => cases h; exact List.Sublist.refl _

theorem jumlahBulan_eq (db : Db) (u : Option String) (bulan : Nat) :
    db.jumlahBulan u bulan = ((db.pemakaian.rows.map Pemakaian.pemilikTanggal).filter fun x =>
      sqlEq x.1 u && x.2.monthIndex = bulan).length := by
  rw [List.filter_map, List.length_map]
  rfl

theorem jumlahBulan_exec {β : Type} (op : Op β) (s : Server) (answer : β) (s' : Server)
    (hop : op.menyisip = false) (h : exec β op s = .ok (answer, s')) (u : Option String)
    (bulan : Nat) : s'.db.jumlahBulan u bulan ≤ s.db.jumlahBulan u bulan := by
  rw [jumlahBulan_eq, jumlahBulan_eq]
  exact ((pemilikTanggal_exec op s answer s' hop h).filter _).length_le

theorem kini_exec {β : Type} (op : Op β) (s : Server) (answer : β) (s' : Server)
    (hop : op.menyisip = false) (h : exec β op s = .ok (answer, s')) (hs : Kini s) : Kini s' := by
  have hclock := exec_clock op s answer s' h
  refine ⟨by rw [hclock]; exact hs.agree, fun r' hr' => ?_⟩
  have hmem := (pemilikTanggal_exec op s answer s' hop h).subset (List.mem_map_of_mem hr')
  obtain ⟨r, hr, hsame⟩ := List.mem_map.mp hmem
  have htgl : r.tgl = r'.tgl := congrArg Prod.snd hsame
  rw [hclock, ← htgl]
  exact hs.past r hr

theorem countMonth_eq (db : Db) (u : Option String) (d : Date) :
    db.countMonth u d.month d.year = db.jumlahBulan u d.monthIndex := by
  unfold Db.countMonth Db.jumlahBulan
  congr 1
  refine List.filter_congr fun r _ => ?_
  rw [Bool.eq_iff_iff, inMonth_iff, Bool.and_eq_true, decide_eq_true_eq]

theorem menunggu_exec {φ : Fase} {β : Type} {op : Op β} {s : Server} {answer : β} {s' : Server}
    {after : β → Fase} (hs : s.clock.Agree) (hafter : izinBulan φ β op = some after)
    (hop : op.menyisip = false) (h : exec β op s = .ok (answer, s')) {u : Option String}
    (hwaits : menunggu u s.clock.sql.date.monthIndex (after answer) = true) :
    menunggu u s.clock.sql.date.monthIndex φ = true ∨
      s.db.jumlahBulan u s.clock.sql.date.monthIndex = 0 := by
  cases φ with
  | awal =>
    cases op with
    | clock =>
      cases hafter
      cases h
      have hagree : s.clock.php.date = s.clock.sql.date := hs
      simp [menunggu, hagree] at hwaits
    | insertPemakaian => cases hop
    | _ => cases hafter; cases hwaits
  | bertanggal now =>
    cases op with
    | countMonth u' month year =>
      cases h
      by_cases hmonth : month = now.php.date.month ∧ year = now.php.date.year
      · obtain ⟨rfl, rfl⟩ := hmonth
        simp only [izinBulan, izin, and_self, if_true, Option.some.injEq] at hafter
        subst hafter
        rw [countMonth_eq] at hwaits
        by_cases hsame : now.php.date.monthIndex = s.clock.sql.date.monthIndex
        · rw [hsame] at hwaits
          dsimp only at hwaits
          split at hwaits
          · rename_i hzero
            have huser : u' = u := by simpa [menunggu] using hwaits
            subst huser
            exact .inr hzero
          · cases hwaits
        · exact .inl (by simpa [menunggu] using hsame)
      · simp only [izinBulan, izin, if_neg hmonth] at hafter
        cases hafter
        exact .inl hwaits
    | insertPemakaian => cases hop
    | _ => cases hafter; exact .inl hwaits
  | kosong u' now =>
    cases op with
    | insertPemakaian => cases hop
    | _ => cases hafter; exact .inl hwaits
  | selesai =>
    cases op with
    | insertPemakaian => cases hop
    | _ => cases hafter; cases hwaits

/-- Room is left for every reading of the current month that a worker may still insert. -/
structure SisaBulan {ι : Type} [Fintype ι] (φ : ι → Fase) (s : Server) : Prop where
  kini : Kini s
  sisa : ∀ u, s.db.jumlahBulan u s.clock.sql.date.monthIndex +
    inFlight (menunggu u s.clock.sql.date.monthIndex) φ ≤ Fintype.card ι
  semua : ∀ u bulan, s.db.jumlahBulan u bulan ≤ Fintype.card ι

def Sejalan (s : Server) (now : Clock) : Prop := now.Agree ∧ s.clock.Le now

instance (s : Server) (now : Clock) : Decidable (Sejalan s now) :=
  inferInstanceAs (Decidable (now.Agree ∧ s.clock.Le now))

variable {ι : Type} [DecidableEq ι] [Fintype ι]

theorem jumlahBulan_eq_zero {s : Server} (hs : Kini s) (u : Option String) {bulan : Nat}
    (hlater : s.clock.sql.date.monthIndex < bulan) : s.db.jumlahBulan u bulan = 0 := by
  unfold Db.jumlahBulan
  rw [List.length_eq_zero_iff, List.filter_eq_nil_iff]
  intro r hr hmonth
  have hpast := hs.past r hr
  simp only [Bool.and_eq_true, decide_eq_true_eq] at hmonth
  omega

theorem jumlahBulan_append {db db' : Db} {row : Pemakaian}
    (hrows : db'.pemakaian.rows = db.pemakaian.rows ++ [row]) (u : Option String) (bulan : Nat) :
    db'.jumlahBulan u bulan = db.jumlahBulan u bulan +
      (sqlEq row.username u && decide (row.tgl.monthIndex = bulan)).toNat := by
  unfold Db.jumlahBulan
  rw [hrows, List.filter_append, List.length_append]
  congr 1
  cases hcounts : sqlEq row.username u && decide (row.tgl.monthIndex = bulan) <;> simp [hcounts]

theorem sisaBulan_invariant :
    Invariant exec berdetak izinBulan .awal (fun _ => True) Sejalan (SisaBulan (ι := ι)) where
  take := by
    rintro φ s i ⟨hkini, hsisa, hsemua⟩
    refine ⟨hkini, fun u => ?_, hsemua⟩
    have hmoved := inFlight_update (menunggu u s.clock.sql.date.monthIndex) φ i .awal
    have hroom := hsisa u
    simp only [menunggu, Bool.toNat_false] at hmoved
    omega
  env := by
    rintro φ s now ⟨hkini, hsisa, hsemua⟩ ⟨hagree, hforward⟩
    have hmonth := Stamp.monthIndex_le_of_le hforward.sql
    refine ⟨⟨hagree, fun r hr => (hkini.past r hr).trans hmonth⟩, fun u => ?_, hsemua⟩
    rcases Nat.lt_or_eq_of_le hmonth with hlater | hsame
    · have hnone := jumlahBulan_eq_zero hkini u hlater
      have hall := inFlight_le_card (menunggu u now.sql.date.monthIndex) φ
      change s.db.jumlahBulan u now.sql.date.monthIndex + _ ≤ _
      rw [hnone, Nat.zero_add]
      exact hall
    · change s.db.jumlahBulan u now.sql.date.monthIndex +
        inFlight (menunggu u now.sql.date.monthIndex) φ ≤ _
      rw [← hsame]
      exact hsisa u
  run := by
    rintro φ s i β op after answer s' - ⟨hkini, hsisa, hsemua⟩ hafter hout
    have hclock := exec_clock op s answer s' hout
    by_cases hop : op.menyisip = false
    · have hrows := jumlahBulan_exec op s answer s' hop hout
      refine ⟨kini_exec op s answer s' hop hout hkini, fun u => ?_,
        fun u bulan => (hrows u bulan).trans (hsemua u bulan)⟩
      have hfewer := hrows u s.clock.sql.date.monthIndex
      have hmoved := inFlight_update (menunggu u s.clock.sql.date.monthIndex) φ i (after answer)
      have hroom := hsisa u
      rw [hclock]
      by_cases hwaits : menunggu u s.clock.sql.date.monthIndex (after answer) = true
      · rcases menunggu_exec hkini.agree hafter hop hout hwaits with hbefore | hzero
        · rw [hwaits, hbefore] at hmoved
          omega
        · have hall := inFlight_le_card (menunggu u s.clock.sql.date.monthIndex)
            (Function.update φ i (after answer))
          omega
      · rw [Bool.not_eq_true] at hwaits
        rw [hwaits, Bool.toNat_false] at hmoved
        omega
    · cases op with
      | insertPemakaian u' awal akhir pemakaian kdTarif tagihan status =>
        let row : Pemakaian := Pemakaian.fresh u' awal akhir pemakaian kdTarif tagihan status
          s.clock.sql s.db.pemakaian.next
        have hrows : s'.db.pemakaian.rows = s.db.pemakaian.rows ++ [row] := by
          cases hout
          rfl
        generalize hx : φ i = x at hafter
        cases x with
        | kosong u now =>
          by_cases hsame : u' = u
          · subst hsame
            simp only [izinBulan, izin, if_true, Option.some.injEq] at hafter
            subst hafter
            have hsisa' (v : Option String) :
                s'.db.jumlahBulan v s.clock.sql.date.monthIndex +
                  inFlight (menunggu v s.clock.sql.date.monthIndex)
                    (Function.update φ i Fase.selesai) ≤ Fintype.card ι := by
              have hroom := hsisa v
              have hmoved :=
                inFlight_update (menunggu v s.clock.sql.date.monthIndex) φ i Fase.selesai
              have hnew := jumlahBulan_append hrows v s.clock.sql.date.monthIndex
              have hone : (sqlEq row.username v &&
                  decide (row.tgl.monthIndex = s.clock.sql.date.monthIndex)).toNat ≤
                  (menunggu v s.clock.sql.date.monthIndex (φ i)).toNat := by
                rw [hx]
                by_cases hv : u' = v
                · simp [menunggu, hv, Bool.toNat_le]
                · simp [menunggu, sqlEq, row, Pemakaian.fresh, hv]
              have hdone : menunggu v s.clock.sql.date.monthIndex Fase.selesai = false := rfl
              rw [hdone, Bool.toNat_false] at hmoved
              omega
            refine ⟨⟨by rw [hclock]; exact hkini.agree, fun r hr => ?_⟩, fun v => ?_,
              fun v bulan => ?_⟩
            · rw [hrows] at hr
              rw [hclock]
              rcases List.mem_append.mp hr with hold | hnew
              · exact hkini.past r hold
              · rw [List.mem_singleton.mp hnew]
                exact Nat.le_refl _
            · rw [hclock]
              exact hsisa' v
            · by_cases hbulan : s.clock.sql.date.monthIndex = bulan
              · subst hbulan
                exact (Nat.le_add_right _ _).trans (hsisa' v)
              · have hother : decide (row.tgl.monthIndex = bulan) = false := decide_eq_false hbulan
                rw [jumlahBulan_append hrows, hother, Bool.and_false]
                exact hsemua v bulan
          · simp only [izinBulan, izin, if_neg hsame] at hafter
            cases hafter
        | _ => cases hafter
      | _ => exact absurd rfl hop

end Monthly

/-- With `k` workers whose machines agree on the date, no resident gets more than `k` readings
in one month, whatever the workers serve and however their statements fall. -/
theorem monthly_readings_workers (php : Php) {ι : Type} [DecidableEq ι] [Fintype ι]
    {pool : Kantor ι} (hidle : pool.Idle) (hkini : Kini pool.state)
    (hbefore : ∀ u bulan, pool.state.db.jumlahBulan u bulan ≤ Fintype.card ι)
    {works : List (Kerja ι)}
    (hclocks : Trace.Admissible (Admits Sejalan) (bekerja php) pool works) :
    Trace.Always (fun pool => ∀ u bulan, pool.state.db.jumlahBulan u bulan ≤ Fintype.card ι)
      (bekerja php) pool works := by
  have hstart : SisaBulan (fun _ : ι => Fase.awal) pool.state := by
    refine ⟨hkini, fun u => ?_, hbefore⟩
    have hnone : inFlight (menunggu u pool.state.clock.sql.date.monthIndex)
        (fun _ : ι => Fase.awal) = 0 := by
      simp [inFlight, menunggu]
    rw [hnone]
    exact hbefore u _
  have hkeeps := always_keeps sisaBulan_invariant (follows_bulan php)
    (hidle.keeps (fun _ => .awal) hstart) (fun _ _ => trivial) hclocks
  intro done hdone
  obtain ⟨φ, -, hleft⟩ := hkeeps done hdone
  exact hleft.semua

/-- Two workers, and two readings of one resident in the month. -/
theorem monthly_readings_workers_budi :
    Trace.Always (fun pool => ∀ u bulan, pool.state.db.jumlahBulan u bulan ≤ 2)
        (bekerja .decimal) kantorBuka (jadwalBudi ++ jadwalLunas) ∧
      (Trace.run (bekerja .decimal) kantorBuka (jadwalBudi ++ jadwalLunas)).state.db.jumlahBulan
        (some "budi") hariBuka.date.monthIndex = 2 := by
  have hempty : kantorBuka.state.db.pemakaian.rows = [] := by decide +kernel
  refine ⟨monthly_readings_workers .decimal kantorBuka_idle (by decide +kernel) ?_
    (by decide +kernel), by decide +kernel⟩
  intro u bulan
  rw [Db.jumlahBulan, hempty]
  exact Nat.zero_le _

end SistemAir
