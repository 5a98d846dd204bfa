import SistemAir.Spec.MonthlyClocks
import SistemAir.Spec.Reports

/-! Residents without a reading. The reports subtract the readings of a month from the
residents there are now; that counts the residents left over only where every reading is
of a resident and no resident has two. -/
namespace SistemAir

open Groups JsonText KeyedTable StatementProgram Prog

def Db.AdaWarga (db : Db) (u : String) : Prop := db.levelOf (some u) = some .warga

instance (db : Db) (u : String) : Decidable (db.AdaWarga u) :=
  inferInstanceAs (Decidable (_ = _))

def Db.belumDicatat (db : Db) (b : Bulan) : List Login :=
  db.warga.filter fun a => ∀ r ∈ db.bulanItu b, r.username ≠ some a.username

/-- The summary and the chart say how many residents have no reading in a month. -/
structure BelumBenar (w : World) : Prop where
  ringkasan : ∀ (u : String) (level : Level) (post : Form) (now : Stamp) (b : Bulan),
    level = .admin ∨ level = .petugas → post.get? "p" = some "summary" →
    post.get? "t" = some b.teks →
    ringkasanDari "belum_dicatat" (w.server.jawab u level post now) =
      some (.number (w.db.belumDicatat b).length)
  grafik : ∀ (u : String) (level : Level) (post : Form) (now : Stamp) (b : Bulan),
    level ≠ .warga → post.get? "p" = some "semua_chart" → now.date.year = b.tahun →
    grafikDari "belum_tercatat" b.bulan (w.server.jawab u level post now) =
      some (w.db.belumDicatat b).length

def Db.MilikWarga (db : Db) : Prop :=
  ∀ r ∈ db.pemakaian.rows, ∀ u, r.username = some u → db.AdaWarga u

/-! ## When the difference counts -/

section Count
variable {db : Db} {b : Bulan}

theorem adaWarga_iff {u : String} : db.AdaWarga u ↔ u ∈ db.warga.map Login.username := by
  simp only [Db.AdaWarga, Db.levelOf, Option.bind_some, Option.map_eq_some_iff,
    Db.akun_eq_some_iff, Db.warga, List.mem_map, List.mem_filter, decide_eq_true_eq]
  constructor
  · rintro ⟨a, ⟨ha, hname⟩, hlevel⟩
    exact ⟨a, ⟨ha, hlevel⟩, hname⟩
  · rintro ⟨a, ⟨ha, hlevel⟩, hname⟩
    exact ⟨a, ⟨ha, hname⟩, hlevel⟩

def Db.pemilikBulan (db : Db) (b : Bulan) : List String :=
  (db.bulanItu b).filterMap Pemakaian.username

theorem mem_pemilikBulan {u : String} :
    u ∈ db.pemilikBulan b ↔ ∃ r ∈ db.bulanItu b, r.username = some u := List.mem_filterMap

theorem length_pemilikBulan : (db.pemilikBulan b).length = countUsername (db.bulanItu b) := by
  unfold Db.pemilikBulan countUsername
  exact List.length_filterMap_eq_countP.trans List.countP_eq_length_filter

theorem nodup_warga (db : Db) : (db.warga.map Login.username).Nodup :=
  db.login.nodup.sublist (List.filter_sublist.map Login.username)

theorem satuPerBulan_unik {r r' : Pemakaian} {u : String} (hone : SatuPerBulan db)
    (hr : r ∈ db.bulanItu b) (hr' : r' ∈ db.bulanItu b) (hname : r.username = some u)
    (hname' : r'.username = some u) : r' = r := by
  rw [Db.mem_bulanItu] at hr hr'
  obtain ⟨hyear, hmonth⟩ := Date.bulan_eq_iff.mp hr.2
  obtain ⟨hyear', hmonth'⟩ := Date.bulan_eq_iff.mp hr'.2
  refine hone r hr.1 r' hr'.1 ?_ ?_ ?_ ?_
  · rw [hname]
    rfl
  · rw [hname, hname']
  · rw [hmonth, hmonth']
  · rw [hyear, hyear']

theorem nodup_pemilikBulan (b : Bulan) (hone : SatuPerBulan db) : (db.pemilikBulan b).Nodup := by
  have hrows : (db.bulanItu b).Nodup := (List.Nodup.of_map _ db.pemakaian.nodup).filter _
  unfold Db.pemilikBulan
  rw [List.Nodup, List.pairwise_filterMap]
  refine List.Pairwise.imp_of_mem (fun {r r'} hr hr' hne u hu u' hu' hsame => hne ?_) hrows
  exact (satuPerBulan_unik hone hr hr' hu (hu'.trans (congrArg some hsame.symm))).symm

theorem length_belumDicatat : (db.belumDicatat b).length =
    ((db.warga.map Login.username).filter (· ∉ db.pemilikBulan b)).length := by
  rw [List.filter_map, List.length_map, Db.belumDicatat]
  refine congrArg List.length (List.filter_congr fun a _ => ?_)
  simp [mem_pemilikBulan]

theorem nilai_belum_iff (hone : SatuPerBulan db) :
    Deret.belumTercatat.nilai db b = (db.belumDicatat b).length ↔
      ∀ u ∈ db.pemilikBulan b, db.AdaWarga u := by
  have hcount := length_unmarked_iff (R := Decimal) (nodup_warga db) (nodup_pemilikBulan b hone)
  rw [List.length_map, length_pemilikBulan] at hcount
  simp only [adaWarga_iff, Deret.nilai, length_belumDicatat]
  exact hcount

end Count

theorem belumBenar_iff {w : World} (hone : SatuPerBulan w.db) :
    BelumBenar w ↔ w.db.MilikWarga := by
  constructor
  · intro h r hr u hu
    have hrow : u ∈ w.db.pemilikBulan r.tgl.bulan :=
      mem_pemilikBulan.mpr ⟨r, Db.mem_bulanItu.mpr ⟨hr, rfl⟩, hu⟩
    refine (nilai_belum_iff hone).mp ?_ u hrow
    have hshown := h.grafik "" .petugas [("p", "semua_chart")] ⟨r.tgl, 0⟩ r.tgl.bulan nofun rfl rfl
    exact Option.some.inj ((grafik_deret w.server (d := .belumTercatat) rfl rfl rfl).symm.trans
      hshown)
  · intro h
    have hnilai (b : Bulan) : Deret.belumTercatat.nilai w.db b = (w.db.belumDicatat b).length := by
      refine (nilai_belum_iff hone).mpr fun u hu => ?_
      obtain ⟨r, hr, hname⟩ := mem_pemilikBulan.mp hu
      exact h r (Db.mem_bulanItu.mp hr).1 u hname
    constructor
    · intro u level post now b hlevel hp ht
      have hbox : Kotak.belumDicatat.untuk level = true := by
        rcases hlevel with rfl | rfl <;> rfl
      have hshown := ringkasan_kotak w.server u now hbox hp ht b.teks_ne_empty
      rw [kotak_nilai] at hshown
      exact hshown.trans (congrArg (fun n => some (Json.number n)) (hnilai b))
    · intro u level post now b hlevel hp hyear
      have hseries : Deret.belumTercatat.untuk level = true := by
        cases level <;> first | rfl | exact absurd rfl hlevel
      exact (grafik_deret w.server hseries hp hyear).trans (congrArg some (hnilai b))

/-! ## Which requests keep it right -/

/-- A meter_add that stores a reading for somebody stores it for a resident, and a
user_edit leaves the level warga to an account that has readings. -/
structure MenjagaWarga (php : Php) (w : World) (q : Request) : Prop where
  tambah : ∀ actor level b, Adds php w q actor level b →
    ∀ u, q.post.get? "username" = some u → w.db.AdaWarga u
  ubah : ∀ actor level, Authorized w q actor level "user_edit" →
    ∀ r ∈ w.db.pemakaian.rows, r.username.isSome = true → r.username = q.post.get? "yuser" →
      Level.ofPost (q.post.get? "level") = .warga

section Tables
variable {db db' : Db}

theorem adaWarga_of_append {login' : Table Login.username} {a : Login}
    (hrows : login'.rows = db.login.rows ++ [a]) {u : String} (h : db.AdaWarga u) :
    Db.AdaWarga { db with login := login' } u := by
  obtain ⟨r, hr, hlevel⟩ := Option.map_eq_some_iff.mp h
  have hfind := db.login.find?_of_rows_append hrows u
  rw [show db.login.find? u = some r from hr, Option.some_or] at hfind
  exact Option.map_eq_some_iff.mpr ⟨r, hfind, hlevel⟩

theorem adaWarga_of_update {p : Login → Bool} {f : Login → Login}
    (hf : ∀ a, (f a).username = a.username) {u : String} (h : db.AdaWarga u)
    (hlevel : ∀ a, db.akun u = some a → p a = true → (f a).level = .warga) :
    Db.AdaWarga { db with login := db.login.update p f hf } u := by
  obtain ⟨r, hr, hwarga⟩ := Option.map_eq_some_iff.mp h
  have hfind := db.login.find?_update p f hf u
  rw [show db.login.find? u = some r from hr, Option.map_some] at hfind
  refine Option.map_eq_some_iff.mpr ⟨_, hfind, ?_⟩
  split
  · exact hlevel r hr ‹_›
  · exact hwarga

theorem milikWarga_of_rows (h : db.MilikWarga)
    (hrows : ∀ r' ∈ db'.pemakaian.rows, ∃ r ∈ db.pemakaian.rows, r'.username = r.username)
    (hada : ∀ r ∈ db.pemakaian.rows, ∀ u, r.username = some u → db.AdaWarga u → db'.AdaWarga u) :
    db'.MilikWarga := by
  intro r' hr' u hu
  obtain ⟨r, hr, hname⟩ := hrows r' hr'
  have huser := hname.symm.trans hu
  exact hada r hr u huser (h r hr u huser)

theorem milikWarga_ubahUser {php : Php} {post : Form} {salt : String} (h : db.MilikWarga) :
    (db.ubahUser php post salt).MilikWarga ↔
      ∀ r ∈ db.pemakaian.rows, r.username.isSome = true → r.username = post.get? "yuser" →
        Level.ofPost (post.get? "level") = .warga := by
  constructor
  · intro h' r hr hsome hname
    obtain ⟨u, hu⟩ := Option.isSome_iff_exists.mp hsome
    obtain ⟨a, ha, -⟩ := Option.map_eq_some_iff.mp (h r hr u hu)
    have hedited : (sqlEq (some a.username) (post.get? "yuser")) = true := by
      rw [sqlEq_iff, (db.akun_eq_some_iff.mp ha).2, ← hname, hu]
      exact ⟨rfl, rfl⟩
    have hfind := db.login.find?_update (fun r => sqlEq (some r.username) (post.get? "yuser"))
      (Login.edited php salt post) (fun _ => rfl) u
    rw [show db.login.find? u = some a from ha, Option.map_some, if_pos hedited] at hfind
    obtain ⟨a', ha', hlevel⟩ := Option.map_eq_some_iff.mp (h' r hr u hu)
    obtain rfl := Option.some.inj (hfind.symm.trans ha')
    exact hlevel
  · intro hpost
    refine milikWarga_of_rows h (fun r hr => ⟨r, hr, rfl⟩) fun r hr u hu hada => ?_
    refine adaWarga_of_update (f := Login.edited php salt post) (fun _ => rfl) hada
      fun a ha hedited => ?_
    rw [sqlEq_iff, (db.akun_eq_some_iff.mp ha).2, ← hu] at hedited
    exact hpost r hr hedited.1 hedited.2

theorem milikWarga_hapusUser {post : Form} (h : db.MilikWarga) : (db.hapusUser post).MilikWarga := by
  intro r hr u hu
  rw [Db.rows_hapusUser] at hr
  obtain ⟨hr, hkeep⟩ := List.mem_filter.mp hr
  obtain ⟨a, ha, hlevel⟩ := Option.map_eq_some_iff.mp (h r hr u hu)
  have hfind := db.login.find?_delete (fun r => sqlEq (some r.username) (post.get? "yuser")) u
  rw [show db.login.find? u = some a from ha, Option.filter_some, (db.akun_eq_some_iff.mp ha).2,
    ← hu, if_pos hkeep] at hfind
  exact Option.map_eq_some_iff.mpr ⟨a, hfind, hlevel⟩

end Tables

section Step
variable {php : Php} {w : World} {q : Request} {actor tombol : String} {level : Level} {b : Reading}
  {db db' : Db}

theorem milikWarga_of_same (h : db.MilikWarga) (hlogin : db'.login = db.login)
    (hrows : ∀ r' ∈ db'.pemakaian.rows, ∃ r ∈ db.pemakaian.rows, r'.username = r.username) :
    db'.MilikWarga :=
  milikWarga_of_rows h hrows fun r hr u hu hada => by
    rwa [Db.AdaWarga, Db.levelOf, Option.bind_some, Db.akun, hlogin]

theorem Change.milikWarga (hchange : Change php q actor level tombol db db')
    (hadd : tombol ≠ "meter_add") (hedit : tombol ≠ "user_edit") (h : db.MilikWarga) :
    db'.MilikWarga := by
  cases hchange with
  | same => exact h
  | userAdded htombol hpost hfresh hrows =>
    exact milikWarga_of_rows h (fun r hr => ⟨r, hr, rfl⟩) fun _ _ _ _ => adaWarga_of_append hrows
  | userEdited htombol => exact absurd htombol hedit
  | userRemoved => exact milikWarga_hapusUser h
  | tarifAdded | tarifEdited | tarifRemoved => exact h
  | meterAdded htombol => exact absurd htombol hadd
  | meterEdited htombol hpost hopen hpos =>
    refine milikWarga_of_same h rfl fun r' hr' => ?_
    rw [Db.rows_ubahMeter] at hr'
    obtain ⟨r, hr, rfl⟩ := List.mem_map.mp hr'
    refine ⟨r, hr, ?_⟩
    split <;> rfl
  | meterRemoved =>
    refine milikWarga_of_same h rfl fun r' hr' => ?_
    rw [Db.rows_hapusMeter] at hr'
    exact ⟨r', List.mem_of_mem_filter hr', rfl⟩
  | buktiUpdated htombol bukti no =>
    refine milikWarga_of_same h rfl fun r' hr' => ?_
    rw [Db.rows_setBukti] at hr'
    obtain ⟨r, hr, rfl⟩ := List.mem_map.mp hr'
    refine ⟨r, hr, ?_⟩
    split <;> rfl
  | profilEdited =>
    refine milikWarga_of_rows h (fun r hr => ⟨r, hr, rfl⟩) fun r hr u hu hada => ?_
    refine adaWarga_of_update (f := Login.profiled php q.salt q.post) (fun _ => rfl) hada
      fun a ha _ => ?_
    obtain ⟨a', ha', hlevel⟩ := Option.map_eq_some_iff.mp hada
    obtain rfl := Option.some.inj (ha.symm.trans ha')
    exact hlevel

theorem milikWarga_adds (hadds : Adds php w q actor level b) (h : w.db.MilikWarga) :
    (step php w q).db.MilikWarga ↔ ∀ u, q.post.get? "username" = some u → w.db.AdaWarga u := by
  obtain ⟨entries, hdb⟩ := hadds.db
  have hada (u : String) : (step php w q).db.AdaWarga u ↔ w.db.AdaWarga u := by
    rw [hdb]
    exact Iff.rfl
  constructor
  · intro h' u hu
    exact (hada u).mp (h' _ hadds.mem_rows u hu)
  · intro hpost r hr u hu
    rw [hadds.rows] at hr
    rw [hada]
    rcases List.mem_append.mp hr with hr | hr
    · exact h r hr u hu
    · rw [List.mem_singleton.mp hr] at hu
      exact hpost u hu

theorem milikWarga_userEdit (hauth : Authorized w q actor level "user_edit") (h : w.db.MilikWarga) :
    (step php w q).db.MilikWarga ↔
      ∀ r ∈ w.db.pemakaian.rows, r.username.isSome = true → r.username = q.post.get? "yuser" →
        Level.ofPost (q.post.get? "level") = .warga := by
  obtain ⟨entries, hdb⟩ := userEdit_db php hauth
  rw [hdb]
  exact milikWarga_ubahUser h

theorem milikWarga_step (h : w.db.MilikWarga) :
    (step php w q).db.MilikWarga ↔ MenjagaWarga php w q := by
  by_cases hadds : ∃ actor level b, Adds php w q actor level b
  · obtain ⟨actor, level, b, hadds⟩ := hadds
    rw [milikWarga_adds hadds h]
    constructor
    · intro hpost
      refine ⟨fun _ _ _ _ => hpost, fun _ _ hauth => ?_⟩
      exact absurd (hauth.unique hadds.auth).2.2 (by decide)
    · exact fun hgood => hgood.tambah actor level b hadds
  by_cases hedit : ∃ actor level, Authorized w q actor level "user_edit"
  · obtain ⟨actor, level, hauth⟩ := hedit
    rw [milikWarga_userEdit hauth h]
    exact ⟨fun hpost => ⟨fun _ _ _ hb => absurd ⟨_, _, _, hb⟩ hadds, fun _ _ _ => hpost⟩,
      fun hgood => hgood.ubah actor level hauth⟩
  refine iff_of_true ?_ ⟨fun _ _ _ hb => absurd ⟨_, _, _, hb⟩ hadds,
    fun _ _ hauth => absurd ⟨_, _, hauth⟩ hedit⟩
  rcases step_db_cases php w q with hsame | ⟨hpage, hindex⟩ | ⟨actor, level, tombol, hauth, hleaves⟩
  · rw [hsame]
    exact h
  · generalize (step php w q).db = db' at hindex
    cases hindex with
    | same => exact h
    | attempt => exact h
    | registered hasks hfresh hrows =>
      exact milikWarga_of_rows h (fun r hr => ⟨r, hr, rfl⟩) fun _ _ _ _ => adaWarga_of_append hrows
  · obtain ⟨core, entries, hchange, hdb, -⟩ := hleaves
    rw [hdb]
    have hcore : core.MilikWarga := by
      by_cases htombol : tombol = "meter_add"
      · subst htombol
        -- A meter_add that stores nothing.
        cases hchange with
        | same => exact h
        | meterAdded htombol hpost hmonth hpos =>
          exact absurd ⟨actor, level, _, hauth, hpost, hmonth, hpos⟩ hadds
        | _ => contradiction
      · refine hchange.milikWarga htombol (fun htombol => hedit ?_) h
        subst htombol
        exact ⟨actor, level, hauth⟩
    exact hcore

end Step

/-- Over every run whose clocks agree: the reports count the residents without a reading
exactly when readings are stored for residents only and an account that has readings
stays a resident's. -/
theorem unrecorded_iff (php : Php) {w : World} (hone : SatuPerBulan w.db) (hw : BelumBenar w)
    (qs : List Request) (hagree : ∀ q ∈ qs, q.clock.Agree) :
    Trace.Always BelumBenar (step php) w qs ↔
      Trace.Admissible (MenjagaWarga php) (step php) w qs := by
  have hside (w : World) (q : Request) (hJ : SatuPerBulan w.db) (hok : q.clock.Agree) :
      SatuPerBulan (step php w q).db := satuPerBulan_agree php hok hJ
  have hexact (w : World) (q : Request) (hJ : SatuPerBulan w.db) (hI : BelumBenar w)
      (hok : q.clock.Agree) : BelumBenar (step php w q) ↔ MenjagaWarga php w q := by
    rw [belumBenar_iff (hside w q hJ hok)]
    exact milikWarga_step ((belumBenar_iff hJ).mp hI)
  have hrun : Trace.Admissible (fun _ q => q.clock.Agree) (step php) w qs :=
    Trace.admissible_of_forall_mem fun q hq _ => hagree q hq
  exact Trace.always_iff_admissible hside hexact hrun hone hw

theorem belumBenar_pertama : BelumBenar World.pertama :=
  (belumBenar_iff (by decide)).mpr fun r hr => by cases hr

theorem unrecorded_kantor :
    Trace.Always BelumBenar (step .decimal) (serve .decimal World.pertama kantor)
      [catatSepuluh "budi", bayarSepuluh] := by
  have hone : SatuPerBulan (serve .decimal World.pertama kantor).db := by decide +kernel
  have hw : BelumBenar (serve .decimal World.pertama kantor) :=
    (belumBenar_iff hone).mpr (by unfold Db.MilikWarga; decide +kernel)
  refine (unrecorded_iff .decimal hone hw _ (by decide +kernel)).mpr ⟨⟨?_, ?_⟩, ⟨?_, ?_⟩, trivial⟩
  · intro _ _ _ _ u hu
    obtain rfl : "budi" = u := Option.some.inj hu
    decide +kernel
  · exact fun _ _ hauth => absurd hauth.asks (by decide)
  · exact fun _ _ _ hadds => absurd hadds.auth.asks (by decide)
  · exact fun _ _ hauth => absurd hauth.asks (by decide)

def angkatBudi : Request :=
  ajukan 0 hariBuka "user_edit"
    [("yuser", "budi"), ("passwet", ""), ("nama", "Budi"), ("level", "petugas"),
      ("status", "AKTIF")]

/-- There is no resident left and one reading: minus one is unrecorded. -/
theorem unrecorded_violated :
    let qs := kantor ++ [catatSepuluh "budi", angkatBudi]
    let w := serve .decimal World.pertama qs
    (∀ q ∈ qs, q.clock.Agree) ∧ SatuPerBulan World.pertama.db ∧ BelumBenar World.pertama ∧
      (w.db.belumDicatat januari).length = 0 ∧ Deret.belumTercatat.nilai w.db januari = -1 ∧
      ¬BelumBenar w := by
  suffices h : _ ∧ _ ∧ _ ∧ SatuPerBulan _ ∧ ¬∀ r ∈ _, _ by
    obtain ⟨hagree, hwarga, hchart, hone, hmilik⟩ := h
    exact ⟨hagree, by decide, belumBenar_pertama, hwarga, hchart,
      fun h => hmilik ((belumBenar_iff hone).mp h)⟩
  decide +kernel

end SistemAir
