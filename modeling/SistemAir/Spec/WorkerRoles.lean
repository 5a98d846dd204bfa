import SistemAir.Spec.Confinement
import SistemAir.Spec.Workers

/-! Who may change what while other requests go on. login/index.php reads the level of its
account once, with the first statement of a request; the account may lose the level, or be
deleted, before the request writes. -/
namespace SistemAir

open KeyedTable StatementProgram Prog Pool

/-! ## What one statement changes -/

structure Publik (s s' : Server) : Prop where
  tarif : s'.db.tarif = s.db.tarif
  pemakaian : s'.db.pemakaian = s.db.pemakaian
  log : s'.db.auditLog = s.db.auditLog
  levels : ∀ u, s'.db.levelOf u = s.db.levelOf u ∨
    s.db.levelOf u = none ∧ s'.db.levelOf u = some .warga

/-- What the request `q` of `actor` may change once its level is read. -/
structure Berdasar (q : Request) (actor : String) (level : Level) (s s' : Server) : Prop where
  tarif : s'.db.tarif ≠ s.db.tarif → level = .admin ∨ level = .bendahara
  levels : ∀ u, s'.db.levelOf u ≠ s.db.levelOf u → level = .admin
  reading : s'.db.pemakaian.rows.map Pemakaian.tanpaBukti ≠
    s.db.pemakaian.rows.map Pemakaian.tanpaBukti → level ≠ .warga
  bukti : ∀ r ∈ s.db.pemakaian.rows, ∀ r' ∈ s'.db.pemakaian.rows, r'.no = r.no →
    r'.buktiBayar ≠ r.buktiBayar → r.username = some actor
  log : ∀ e ∈ s'.db.auditLog, e ∈ s.db.auditLog ∨
    e.actorUsername = actor ∧ e.actorLevel = level ∧ q.tombol = some e.aksi ∧
      roleRefused level e.aksi = false

section Exec
variable {q : Request} {actor : String} {level : Level} {s s' : Server}

theorem levelOf_of_login (h : s'.db.login = s.db.login) (u : Option String) :
    s'.db.levelOf u = s.db.levelOf u := by
  have hakun : s'.db.akun = s.db.akun := by
    funext u
    rw [Db.akun, h, Db.akun]
  rw [Db.levelOf, hakun, Db.levelOf]

theorem exec_insertLogin_rows {u : Option String} {password : String}
    {nama alamat kota tlp : Option String} {level : Level} {tipe status : Option String}
    {affected : Nat}
    (h : exec _ (.insertLogin u password nama alamat kota tlp level tipe status) s =
      .ok (affected, s')) :
    ∃ u' login', u = some u' ∧ s.db.akun u' = none ∧ s' = s.setDb { s.db with login := login' } ∧
      login'.rows = s.db.login.rows ++
        [⟨u', password, nama, alamat, kota, tlp, level, tipe, status⟩] := by
  simp only [exec] at h
  cases u with
  | none => cases h
  | some u =>
    by_cases htaken : u ∈ s.db.login.rows.map Login.username
    · simp only [Server.insertKeyed, Table.insert, htaken, dite_true] at h
      cases h
    · simp only [Server.insertKeyed, Table.insert, htaken, dite_false] at h
      cases h
      refine ⟨u, _, rfl, ?_, rfl, rfl⟩
      rw [Db.akun, Table.find?_eq_none_iff]
      exact fun r hr heq => htaken (heq ▸ List.mem_map_of_mem hr)

theorem levelOf_insert {row : Login} {login' : Table Login.username}
    (hfresh : s.db.akun row.username = none) (hrows : login'.rows = s.db.login.rows ++ [row])
    (u : Option String) :
    (s.setDb { s.db with login := login' }).db.levelOf u =
      if u = some row.username then some row.level else s.db.levelOf u := by
  cases u with
  | none => rfl
  | some u =>
    have hfind := s.db.login.find?_of_rows_append hrows u
    have hlevel : (s.setDb { s.db with login := login' }).db.levelOf (some u) =
        (login'.find? u).map Login.level := rfl
    rw [hlevel, hfind]
    by_cases hsame : row.username = u
    · subst hsame
      rw [if_pos rfl, if_pos rfl, Db.akun] at *
      rw [hfresh]
      rfl
    · rw [if_neg hsame, Option.or_none, if_neg (fun h => hsame (Option.some.inj h).symm)]
      rfl

theorem publik_of_db (h : s'.db = s.db) : Publik s s' :=
  ⟨by rw [h], by rw [h], by rw [h], fun _ => .inl (by rw [h])⟩

theorem publik_exec {β : Type} {op : Op β} {answer : β} (hop : TerbitIndex β op)
    (h : exec β op s = .ok (answer, s')) : Publik s s' := by
  cases op with
  | countAttempts | passwordOf | countLogin =>
    cases h
    exact publik_of_db rfl
  | insertAttempt =>
    cases h
    exact ⟨rfl, rfl, rfl, fun _ => .inl rfl⟩
  | insertLogin u password nama alamat kota tlp level tipe status =>
    obtain rfl : level = .warga := hop
    obtain ⟨u', login', rfl, hfresh, rfl, hrows⟩ := exec_insertLogin_rows h
    refine ⟨rfl, rfl, rfl, fun v => ?_⟩
    rw [levelOf_insert hfresh hrows]
    by_cases hv : v = some u'
    · subst hv
      rw [if_pos rfl]
      exact .inr ⟨by rw [Db.levelOf, Option.bind_some, hfresh]; rfl, rfl⟩
    · rw [if_neg hv]
      exact .inl rfl
  | _ => exact hop.elim

theorem bukti_of_rows (hrows : s'.db.pemakaian = s.db.pemakaian) :
    ∀ r ∈ s.db.pemakaian.rows, ∀ r' ∈ s'.db.pemakaian.rows, r'.no = r.no →
      r'.buktiBayar ≠ r.buktiBayar → r.username = some actor := by
  intro r hr r' hr' hno hne
  rw [hrows] at hr'
  exact absurd (congrArg Pemakaian.buktiBayar (s.db.pemakaian.eq_of_key hr' hr hno)) hne

theorem berdasar_of_same (htarif : s'.db.tarif = s.db.tarif)
    (hlevel : ∀ u, s'.db.levelOf u = s.db.levelOf u) (hrows : s'.db.pemakaian = s.db.pemakaian)
    (hlog : s'.db.auditLog = s.db.auditLog) : Berdasar q actor level s s' where
  tarif := fun hne => absurd htarif hne
  levels := fun u hne => absurd (hlevel u) hne
  reading := fun hne => absurd (by rw [hrows]) hne
  bukti := bukti_of_rows hrows
  log := fun _ he => .inl (hlog ▸ he)

theorem berdasar_of_staff (hl : level ≠ .warga) (htarif : s'.db.tarif = s.db.tarif)
    (hlogin : s'.db.login = s.db.login) (hlog : s'.db.auditLog = s.db.auditLog)
    (hbukti : ∀ r ∈ s.db.pemakaian.rows, ∀ r' ∈ s'.db.pemakaian.rows, r'.no = r.no →
      r'.buktiBayar = r.buktiBayar) : Berdasar q actor level s s' where
  tarif := fun hne => absurd htarif hne
  levels := fun u hne => absurd (levelOf_of_login hlogin u) hne
  reading := fun _ => hl
  bukti := fun r hr r' hr' hno hne => absurd (hbukti r hr r' hr' hno) hne
  log := fun _ he => .inl (hlog ▸ he)

theorem berdasar_of_admin (htarif : s'.db.tarif = s.db.tarif)
    (hrows : s'.db.pemakaian = s.db.pemakaian) (hlog : s'.db.auditLog = s.db.auditLog) :
    Berdasar q actor .admin s s' where
  tarif := fun hne => absurd htarif hne
  levels := fun _ _ => rfl
  reading := fun hne => absurd (by rw [hrows]) hne
  bukti := bukti_of_rows hrows
  log := fun _ he => .inl (hlog ▸ he)

theorem berdasar_of_tarif (hl : level = .admin ∨ level = .bendahara)
    (hlogin : s'.db.login = s.db.login) (hrows : s'.db.pemakaian = s.db.pemakaian)
    (hlog : s'.db.auditLog = s.db.auditLog) : Berdasar q actor level s s' where
  tarif := fun _ => hl
  levels := fun u hne => absurd (levelOf_of_login hlogin u) hne
  reading := fun hne => absurd (by rw [hrows]) hne
  bukti := bukti_of_rows hrows
  log := fun _ he => .inl (hlog ▸ he)

theorem berdasar_exec {tombol : String} {β : Type} {op : Op β} {answer : β}
    (htombol : q.tombol = some tombol) (hrole : roleRefused level tombol = false)
    (hop : Terbit actor level tombol β op) (h : exec β op s = .ok (answer, s')) :
    Berdasar q actor level s s' := by
  have hstaff (htombol : tombol ∈ aksiPencatatMeter) : level ≠ .warga := by
    rcases pencatat_of_role hrole htombol with rfl | rfl | rfl <;> decide
  cases op with
  | insertLogin =>
    obtain rfl : tombol = "user_add" := hop
    obtain rfl := admin_of_role hrole (by decide)
    obtain ⟨login', rfl⟩ := exec_insertLogin_ok h
    exact berdasar_of_admin rfl rfl rfl
  | updateUser =>
    obtain rfl : tombol = "user_edit" := hop
    obtain rfl := admin_of_role hrole (by decide)
    cases h
    exact berdasar_of_admin rfl rfl rfl
  | deleteLogin =>
    obtain rfl : tombol = "user_hapus" := hop
    obtain rfl := admin_of_role hrole (by decide)
    cases h
    exact berdasar_of_admin rfl rfl rfl
  | updateProfil password nama alamat kota tlp u =>
    cases h
    refine berdasar_of_same rfl (fun v => ?_) rfl rfl
    cases v with
    | none => rfl
    | some v =>
      have hfind := s.db.login.find?_update (fun r => r.username = u)
        (Login.setProfil password nama alamat kota tlp) (fun _ => rfl) v
      have hlevel := congrArg (Option.map Login.level) hfind
      rw [Option.map_map] at hlevel
      refine hlevel.trans (congrArg (fun f => (s.db.login.find? v).map f) (funext fun r => ?_))
      rw [Function.comp_apply]
      split <;> rfl
  | insertTarif =>
    obtain rfl : tombol = "tarif_add" := hop
    obtain ⟨tarif', rfl⟩ := exec_insertTarif_ok h
    exact berdasar_of_tarif (bendahara_of_role hrole (by decide)) rfl rfl rfl
  | updateTarif =>
    obtain rfl : tombol = "tarif_edit" := hop
    cases h
    exact berdasar_of_tarif (bendahara_of_role hrole (by decide)) rfl rfl rfl
  | deleteTarif =>
    obtain rfl : tombol = "tarif_hapus" := hop
    cases h
    exact berdasar_of_tarif (bendahara_of_role hrole (by decide)) rfl rfl rfl
  | deletePemakaianOf u =>
    obtain rfl : tombol = "user_hapus" := hop
    obtain rfl := admin_of_role hrole (by decide)
    cases h
    refine berdasar_of_staff (by decide) rfl rfl rfl fun r hr r' hr' hno => ?_
    exact congrArg Pemakaian.buktiBayar
      (s.db.pemakaian.eq_of_key (List.mem_of_mem_filter hr') hr hno)
  | deletePemakaian no =>
    obtain rfl : tombol = "meter_hapus" := hop
    cases h
    refine berdasar_of_staff (hstaff (by decide)) rfl rfl rfl fun r hr r' hr' hno => ?_
    exact congrArg Pemakaian.buktiBayar
      (s.db.pemakaian.eq_of_key (List.mem_of_mem_filter hr') hr hno)
  | insertPemakaian u awal akhir pemakaian kdTarif tagihan status =>
    obtain ⟨rfl, -⟩ := hop
    cases h
    refine berdasar_of_staff (hstaff (by decide)) rfl rfl rfl fun r hr r' hr' hno => ?_
    rcases List.mem_append.mp hr' with hold | hnew
    · exact congrArg Pemakaian.buktiBayar (s.db.pemakaian.eq_of_key hold hr hno)
    · have hlt := s.db.pemakaian.lt_next r hr
      rw [List.mem_singleton.mp hnew] at hno
      exact absurd hno (Nat.ne_of_gt hlt)
  | updateMeter awal akhir pemakaian tagihan status no =>
    obtain ⟨rfl, -⟩ := hop
    cases h
    refine berdasar_of_staff (hstaff (by decide)) rfl rfl rfl fun r hr r' hr' hno => ?_
    obtain ⟨r₀, hr₀, rfl⟩ := List.mem_map.mp hr'
    have hsame : r₀.no = r.no := by
      rw [← hno]
      split <;> rfl
    rw [← s.db.pemakaian.eq_of_key hr₀ hr hsame]
    split <;> rfl
  | updateBukti bukti no u =>
    obtain ⟨-, rfl⟩ := hop
    cases h
    refine ⟨fun hne => absurd rfl hne, fun v hne => absurd rfl hne, fun hne => ?_, ?_,
      fun _ he => .inl he⟩
    · refine absurd ?_ hne
      refine (List.map_map ..).trans (List.map_congr_left fun r _ => ?_)
      rw [Function.comp_apply]
      split <;> rfl
    · intro r hr r' hr' hno hne
      obtain ⟨r₀, hr₀, rfl⟩ := List.mem_map.mp hr'
      have hsame : r₀.no = r.no := by
        rw [← hno]
        split <;> rfl
      obtain rfl := s.db.pemakaian.eq_of_key hr₀ hr hsame
      split at hne
      · rename_i hown
        rw [Bool.and_eq_true, sqlEq_iff] at hown
        exact hown.2.2
      · exact absurd rfl hne
  | insertAudit actor' level' aksi tabel idTarget detail =>
    obtain ⟨rfl, rfl, rfl⟩ := hop
    cases h
    refine ⟨fun hne => absurd rfl hne, fun u hne => absurd rfl hne, fun hne => absurd rfl hne,
      ?_, fun e he => ?_⟩
    · exact bukti_of_rows rfl
    · apply (List.mem_append.mp he).imp_right
      intro hnew
      rw [List.mem_singleton.mp hnew]
      exact ⟨rfl, rfl, htombol, hrole⟩
  | storeUpload =>
    cases h
    split <;> exact berdasar_of_same rfl (fun _ => rfl) rfl rfl
  | passwordOf | countAttempts | insertAttempt => exact hop.elim
  | _ =>
    cases h
    exact berdasar_of_same rfl (fun _ => rfl) rfl rfl

end Exec

/-! ## All workers -/

section Run
variable {ι : Type} [DecidableEq ι] {php : Php} {pool : Kantor ι} {works : List (Kerja ι)} {i : ι}

/-- Worker `i` is at the request `q` of `actor`, whose account had `level` where the worker's
first statement read it. -/
def AtasNama (php : Php) (pool : Kantor ι) (works : List (Kerja ι)) (i : ι) (q : Request)
    (actor : String) (level : Level) : Prop :=
  ∃ before token quiet later,
    works = before ++ .take i (.loginIndex q actor token) :: (quiet ++ .event (.run i) :: later) ∧
    Serving exec berdetak (Layanan.program php) pool i before (.loginIndex q actor token)
      (quiet ++ .event (.run i) :: later) ∧
    .event (.run i) ∉ quiet ∧
    (Trace.run (bekerja php) pool
      (before ++ .take i (.loginIndex q actor token) :: quiet)).state.db.levelOf (some actor) =
        some level

theorem atasNama_unique {q q' : Request} {actor actor' : String} {level level' : Level}
    (h : AtasNama php pool works i q actor level)
    (h' : AtasNama php pool works i q' actor' level') :
    q = q' ∧ actor = actor' ∧ level = level' := by
  obtain ⟨before, token, quiet, later, hworks, hserving, hquiet, hlevel⟩ := h
  obtain ⟨before', token', quiet', later', hworks', hserving', hquiet', hlevel'⟩ := h'
  obtain ⟨rfl, hrequest, hsince⟩ := hserving.unique hserving' (hworks.symm.trans hworks')
  cases hrequest
  obtain rfl := left_unique_of_first hquiet hquiet' hsince
  exact ⟨rfl, rfl, Option.some.inj (hlevel.symm.trans hlevel')⟩

theorem terbit_stepOnce (php : Php) (q : Request) (actor token : String) (s : Server) :
    (((Layanan.loginIndex q actor token).program php).stepOnce exec s).1.Only fun β op =>
      ∃ level tombol, s.db.levelOf (some actor) = some level ∧ q.tombol = some tombol ∧
        roleRefused level tombol = false ∧ Terbit actor level tombol β op := by
  have hlevel : s.db.levelOf (some actor) = (s.db.akun actor).map Login.level := rfl
  rw [hlevel]
  unfold Layanan.program SistemAir.loginIndex dtUser
  simp only [perform_bind, call_bind, stepOnce, exec]
  cases s.db.akun actor with
  | none => trivial
  | some r =>
    refine Only.bind (f := fun hasil => pure (Respons.loginIndex hasil)) ?_ fun _ => trivial
    cases q.tombol with
    | none => trivial
    | some tombol =>
      change Only _ (if tokenRefused token (q.post.get? "csrf_token") then _ else
        if roleRefused r.level tombol then _ else _)
      split
      · trivial
      split
      · trivial
      · rename_i hrole
        refine ((terbit_dispatch php q tombol).mono fun _ h => ?_).bind fun _ => trivial
        exact ⟨r.level, tombol, rfl, rfl, by simpa using hrole, h⟩

theorem state_stepOnce (php : Php) (q : Request) (actor token : String) (s : Server) :
    (((Layanan.loginIndex q actor token).program php).stepOnce exec s).2 = s := by
  unfold Layanan.program SistemAir.loginIndex dtUser
  simp only [perform_bind, call_bind, stepOnce, exec]

/-- At every event of every schedule, what changes is what anybody may do, or it is done by a
worker at the request of an account, and by the level which that worker read of it. -/
theorem interleaved_roles (php : Php) {pool : Kantor ι} (hidle : pool.Idle)
    (works : List (Kerja ι)) (w : Kerja ι) :
    Publik (Trace.run (bekerja php) pool works).state
        (Trace.run (bekerja php) pool (works ++ [w])).state ∨
      ∃ i q actor level, w = .event (.run i) ∧ AtasNama php pool works i q actor level ∧
        Berdasar q actor level (Trace.run (bekerja php) pool works).state
          (Trace.run (bekerja php) pool (works ++ [w])).state := by
  rw [Trace.run_concat]
  rcases state_work_cases exec berdetak (Layanan.program php)
    (Trace.run (bekerja php) pool works) w with
    hsame | ⟨now, htime⟩ | ⟨i, β, op, next, answer, rfl, hthread, hout⟩
  · exact .inl (publik_of_db (by rw [bekerja, hsame]))
  · exact .inl (publik_of_db (by rw [bekerja, htime]; rfl))
  have hbusy : ((Trace.run (bekerja php) pool works).threads i).finished = false := by
    rw [hthread]
    rfl
  obtain ⟨before, request, since, rfl, hserving⟩ := serving_of_busy hidle hbusy
  cases request with
  | index q token =>
    have hprogram : ((Layanan.index q token).program php).Only TerbitIndex :=
      (terbit_index php q token).bind fun _ => trivial
    have honly := hserving.only hprogram
    rw [hthread] at honly
    exact .inl (publik_exec honly.1 hout)
  | loginIndex q actor token =>
    by_cases hran : .event (.run i) ∈ since
    · obtain ⟨quiet, later, rfl, hquiet⟩ := List.eq_append_cons_of_mem hran
      have honly := hserving.only_rest hquiet (terbit_stepOnce php q actor token _)
      rw [hthread] at honly
      obtain ⟨⟨level, tombol, hlevel, htombol, hrole, hop⟩, -⟩ := honly
      refine .inr ⟨i, q, actor, level, rfl, ?_, berdasar_exec htombol hrole hop hout⟩
      exact ⟨before, token, quiet, later, rfl, hserving, hquiet, hlevel⟩
    · have hprogram := hserving.threads_eq hran
      refine .inl (publik_of_db ?_)
      have hstate := state_stepOnce php q actor token (Trace.run (bekerja php) pool
        (before ++ .take i (.loginIndex q actor token) :: since)).state
      rw [← hprogram, hthread, stepOnce, hout] at hstate
      exact congrArg Server.db hstate

end Run

/-- The admin makes the meter reader a resident while the meter reader's request is under way. -/
def jadwalTurun : List (Kerja Bool) :=
  .take true (.loginIndex (catatSepuluh "budi") "joko" "7f3a") ::
    List.replicate 6 (.event (.run true)) ++
    .take false (.loginIndex (ajukan 0 hariBuka "user_edit"
      [("yuser", "joko"), ("nama", "Joko"), ("level", "warga"), ("status", "AKTIF")])
      "admin" "7f3a") ::
    List.replicate 3 (.event (.run false))

/-- The request still stores its reading, by the level that its worker has read. -/
theorem interleaved_roles_joko :
    AtasNama .decimal kantorBuka jadwalTurun true (catatSepuluh "budi") "joko" .petugas ∧
      Berdasar (catatSepuluh "budi") "joko" .petugas
        (Trace.run (bekerja .decimal) kantorBuka jadwalTurun).state
        (Trace.run (bekerja .decimal) kantorBuka (jadwalTurun ++ [.event (.run true)])).state ∧
      (Trace.run (bekerja .decimal) kantorBuka jadwalTurun).state.db.levelOf (some "joko") =
        some .warga ∧
      (Trace.run (bekerja .decimal) kantorBuka
        (jadwalTurun ++ [.event (.run true)])).state.db.pemakaian.rows = [tagihanBudi] := by
  have hrows : (Trace.run (bekerja .decimal) kantorBuka
      (jadwalTurun ++ [.event (.run true)])).state.db.pemakaian.rows = [tagihanBudi] := by
    decide +kernel
  have hacts : AtasNama .decimal kantorBuka jadwalTurun true (catatSepuluh "budi") "joko"
      .petugas := by
    refine ⟨[], "7f3a", [], _, rfl, ⟨by decide +kernel, fun done hdone => ?_⟩, List.not_mem_nil,
      by decide +kernel⟩
    have hbusy : ∀ done ∈ (List.tail jadwalTurun).inits,
        ((Trace.run (bekerja .decimal) kantorBuka
          (.take true (.loginIndex (catatSepuluh "budi") "joko" "7f3a") :: done)).threads
            true).finished = false := by
      decide +kernel
    exact hbusy done ((List.mem_inits ..).mpr hdone)
  refine ⟨hacts, ?_, by decide +kernel, hrows⟩
  rcases interleaved_roles .decimal kantorBuka_idle jadwalTurun (.event (.run true)) with
    hpublic | ⟨i, q, actor, level, hw, hact, hchange⟩
  · have hnone : (Trace.run (bekerja .decimal) kantorBuka jadwalTurun).state.db.pemakaian.rows =
        [] := by
      decide +kernel
    rw [hpublic.pemakaian, hnone] at hrows
    cases hrows
  · cases hw
    obtain ⟨rfl, rfl, rfl⟩ := atasNama_unique hacts hact
    exact hchange

end SistemAir
