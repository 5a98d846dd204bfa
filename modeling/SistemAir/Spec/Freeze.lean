import SistemAir.Spec.Page
import SistemAir.Spec.Readings

/-! The thirty-day lock. A reading that is too old for a meter reader stays as it is in
every run without an admin or a treasurer, and the meter table offers a meter reader the
rows that its handlers do not refuse. -/
namespace SistemAir

open KeyedTable Markup StatementProgram Prog

/-- The date lies more than thirty whole days before the instant. -/
def LewatTigaPuluhHari (tgl : Date) (now : Stamp) : Prop := tgl.epochDays + 30 < now.date.epochDays

instance (tgl : Date) (now : Stamp) : Decidable (LewatTigaPuluhHari tgl now) :=
  inferInstanceAs (Decidable (_ < _))

/-- A request from this instant on, by a session that is neither an admin's nor a
treasurer's. -/
def DariLapangan (now : Stamp) (w : World) (q : Request) : Prop :=
  now.seconds ≤ q.clock.php.seconds ∧
    w.db.levelOf (w.session q.sid).user ∉ [some Level.admin, some Level.bendahara]

instance (now : Stamp) (w : World) (q : Request) : Decidable (DariLapangan now w q) :=
  inferInstanceAs (Decidable (_ ∧ _))

/-- The row is in the table, at most with new evidence of payment. -/
def Db.Beku (db : Db) (r : Pemakaian) : Prop :=
  ∃ bukti, { r with buktiBayar := bukti } ∈ db.pemakaian.rows

/-! ## The lock -/

section Lock
variable {tgl : Date} {now : Stamp}

theorem LewatTigaPuluhHari.mono {now' : Stamp} (h : LewatTigaPuluhHari tgl now)
    (hle : now.seconds ≤ now'.seconds) : LewatTigaPuluhHari tgl now' := by
  have htime := now.time.isLt
  have htime' := now'.time.isLt
  unfold LewatTigaPuluhHari Stamp.seconds at *
  omega

theorem LewatTigaPuluhHari.locked (h : LewatTigaPuluhHari tgl now) {clock : Clock}
    (hle : now.seconds ≤ clock.php.seconds) : locked .petugas (some tgl) clock = true := by
  have hlate := h.mono hle
  unfold LewatTigaPuluhHari at hlate
  have hdays : 30 < daysSince tgl clock.php := by
    unfold daysSince
    rw [if_pos (by omega)]
    omega
  simp [SistemAir.locked, hdays]

/-- What the table offers a meter reader is what the handlers' gate decides. -/
theorem aksiMeter_petugas {clock : Clock} :
    aksiMeter .petugas tgl clock.php = .ubahHapus ↔ locked .petugas (some tgl) clock = false := by
  unfold aksiMeter locked
  by_cases hdays : daysSince tgl clock.php ≤ 30 <;> simp [hdays]

end Lock

/-! ## One request -/

section Step
variable {php : Php} {w : World} {q : Request} {now : Stamp} {r : Pemakaian} {actor tombol : String}
  {level : Level}

theorem petugas_of_lapangan (h : DariLapangan now w q) (hauth : Authorized w q actor level tombol)
    (ht : tombol ∈ aksiPencatatMeter) : level = .petugas := by
  have hlapangan := h.2
  rw [hauth.user, hauth.hasLevel] at hlapangan
  rcases pencatat_of_role hauth.role ht with rfl | rfl | rfl
  · simp at hlapangan
  · simp at hlapangan
  · rfl

theorem hasNo_of_unlocked (hr : r ∈ w.db.pemakaian.rows) (hlama : LewatTigaPuluhHari r.tgl now)
    (hle : now.seconds ≤ q.clock.php.seconds)
    (hopen : locked .petugas ((w.db.pemakaianByNo (Db.nomor php q.post)).map Pemakaian.tgl)
      q.clock = false) : Pemakaian.hasNo (Db.nomor php q.post) r = false := by
  rw [Bool.eq_false_iff]
  intro hno
  rw [hasNo_iff.mp hno, pemakaianByNo_of_mem hr, Option.map_some, hlama.locked hle] at hopen
  cases hopen

theorem Db.Beku.step (h : w.db.Beku r) (hlama : LewatTigaPuluhHari r.tgl now)
    (hq : DariLapangan now w q) : (step php w q).db.Beku r := by
  obtain ⟨bukti, hr⟩ := h
  have hkeep {no : Option Int}
      (hno : Pemakaian.hasNo no { r with buktiBayar := bukti } = false) :
      { r with buktiBayar := bukti } ∈ w.db.pemakaian.rows.filter fun r => !Pemakaian.hasNo no r :=
    List.mem_filter.mpr ⟨hr, by simp [hno]⟩
  rcases step_pemakaian_cases php w q with hsame | ⟨actor, level, b, h⟩ | ⟨actor, level, b, h⟩ |
    ⟨actor, level, h⟩ | ⟨actor, level, hauth, -⟩ | ⟨actor, level, baru, no, -, hrows⟩
  · exact ⟨bukti, hsame ▸ hr⟩
  · exact ⟨bukti, h.rows ▸ List.mem_append_left _ hr⟩
  · obtain rfl := petugas_of_lapangan hq h.auth (by decide)
    have hno := hasNo_of_unlocked hr hlama hq.1 h.unlocked
    refine ⟨bukti, h.rows ▸ List.mem_map.mpr ⟨_, hr, ?_⟩⟩
    rw [hno]
    rfl
  · obtain rfl := petugas_of_lapangan hq h.auth (by decide)
    have hno := hasNo_of_unlocked hr hlama hq.1 h.unlocked
    exact ⟨bukti, h.rows ▸ hkeep hno⟩
  · obtain rfl := admin_of_role hauth.role (by decide)
    have hlapangan := hq.2
    rw [hauth.user, hauth.hasLevel] at hlapangan
    simp at hlapangan
  · unfold Db.Beku
    rw [hrows, Db.rows_setBukti]
    by_cases hdia : (Pemakaian.hasNo (some no) { r with buktiBayar := bukti } &&
        sqlEq r.username (some actor)) = true
    · exact ⟨some baru, List.mem_map.mpr ⟨_, hr, if_pos hdia⟩⟩
    · exact ⟨bukti, List.mem_map.mpr ⟨_, hr, if_neg hdia⟩⟩

end Step

/-! ## The buttons of the meter table -/

def ubahNo (no : Nat) : Node :=
  .tag "a" [⟨"href", .single ("index.php?p=" ++ "meter_edit" ++ "&" ++ "no" ++ "=" ++ toString no)⟩]

def hapusNo (no : Nat) : Node :=
  .tag "button" [⟨"type", .single "button"⟩, ⟨"class", .single "btn btn-outline-danger btn-sm"⟩,
    ⟨"data-bs-toggle", .single "modal"⟩, ⟨"data-bs-target", .single "#modalMeter"⟩,
    ⟨"data-no", .single (toString no)⟩]

def kendali : Node → Bool
  | .tag name _ => name = "a" || name = "button"
  | _ => false

section Buttons
variable {l : Latar} {no : Nat}

theorem toString_no_inj (php : Php) {no no' : Nat} (h : toString no = toString no') : no = no' := by
  have hno := php.intval_toString no
  have hno' := php.intval_toString no'
  have hsame : toString (no : Int) = toString (no' : Int) := h
  rw [hsame, hno'] at hno
  exact Int.ofNat.inj hno.symm

theorem ubahNo_inj (php : Php) {no' : Nat} : ubahNo no = ubahNo no' ↔ no = no' := by
  refine ⟨fun h => ?_, fun h => h ▸ rfl⟩
  simp only [ubahNo, Node.tag.injEq, List.cons.injEq, Attr.mk.injEq, Value.single.injEq,
    String.append_right_inj, true_and, and_true] at h
  exact toString_no_inj php h

theorem hapusNo_inj (php : Php) {no' : Nat} : hapusNo no = hapusNo no' ↔ no = no' := by
  refine ⟨fun h => ?_, fun h => h ▸ rfl⟩
  simp only [hapusNo, Node.tag.injEq, List.cons.injEq, Attr.mk.injEq, Value.single.injEq,
    true_and, and_true] at h
  exact toString_no_inj php h

theorem mem_barisMeterNodes {x : Node} (hx : kendali x = true) (nama : Option String)
    (b : BarisMeter) :
    x ∈ barisMeterNodes l nama b ↔ x ∈ (aksiMeter l.level b.tgl l.now).nodes b.no := by
  have htext (s : String) : x ≠ .text s := by rintro rfl; cases hx
  have hclose (s : String) : x ≠ .close s := by rintro rfl; cases hx
  have htag (name : String) (attrs : List Attr) (hname : kendali (.tag name attrs) = false) :
      x ≠ .tag name attrs := by rintro rfl; simp [hname] at hx
  have htr := htag "tr" [] rfl
  have htd := htag "td" [] rfl
  have hspan (kelas : String) := htag "span" [⟨"class", .single kelas⟩] rfl
  have hstatus (status : Option String) : x ∉ badgeStatus status := by
    unfold badgeStatus
    split <;> simp [elemen, lencana, htext, hclose, hspan]
  unfold barisMeterNodes
  split <;> simp [elemen, td, htext, hclose, htr, htd, hstatus]

theorem ubahNo_mem_nodes (php : Php) {aksi : AksiMeter} {no' : Nat} :
    ubahNo no ∈ aksi.nodes no' ↔ no = no' ∧ aksi = .ubahHapus := by
  cases aksi with
  | ubahHapus =>
    have hlink : ubahNo no ∈ AksiMeter.ubahHapus.nodes no' ↔ ubahNo no = ubahNo no' := by
      simp [AksiMeter.nodes, tombolBaris, elemen, ubahNo]
    rw [hlink, ubahNo_inj php]
    simp
  | terkunci => simp [AksiMeter.nodes, lencana, elemen, ubahNo]

theorem hapusNo_mem_nodes (php : Php) {aksi : AksiMeter} {no' : Nat} :
    hapusNo no ∈ aksi.nodes no' ↔ no = no' ∧ aksi = .ubahHapus := by
  cases aksi with
  | ubahHapus =>
    have hbutton : hapusNo no ∈ AksiMeter.ubahHapus.nodes no' ↔ hapusNo no = hapusNo no' := by
      simp [AksiMeter.nodes, tombolBaris, elemen, hapusNo]
    rw [hbutton, hapusNo_inj php]
    simp
  | terkunci => simp [AksiMeter.nodes, lencana, elemen, hapusNo]

theorem mem_isiMeter {db : Db} {x : Node} (hlevel : l.level = .petugas) (hx : kendali x = true) :
    x ∈ db.isiMeter l ↔
      ∃ r ∈ db.pemakaian.rows, x ∈ (aksiMeter .petugas r.tgl l.now).nodes r.no := by
  unfold Db.isiMeter
  rw [if_pos (by rw [hlevel]; decide)]
  simp only [Select.jawab, List.mem_flatMap, List.mem_insertionSort, List.mem_map,
    exists_exists_and_eq_and, mem_barisMeterNodes hx, hlevel]
  rfl

end Buttons

/-! ## What the handlers refuse -/

theorem terkunci_iff (php : Php) {w : World} {q : Request} {actor tombol : String} {level : Level}
    (h : Authorized w q actor level tombol) (ht : tombol ∈ ["meter_edit", "meter_hapus"]) :
    (handle php w q).1 = .ok (.loginIndex .terkunci) ↔
      locked level ((w.db.pemakaianByNo (Db.nomor php q.post)).map Pemakaian.tgl) q.clock =
        true := by
  have hgate : (w.opened q).terkunci php level q.post =
      locked level ((w.db.pemakaianByNo (Db.nomor php q.post)).map Pemakaian.tgl) q.clock := rfl
  rw [(handle_of_authorized php h).1, ← hgate]
  have hdispatch : ((dispatch php q actor level tombol).run exec (w.opened q)).1 = .ok .terkunci ↔
      (w.opened q).terkunci php level q.post = true := by
    rcases List.mem_pair.mp ht with rfl | rfl
    · have hrun : ((dispatch php q actor level "meter_edit").run exec (w.opened q)).1 = _ :=
        congrArg Prod.fst (run_meterEdit php actor level q.post (w.opened q))
      rw [hrun]
      by_cases hopen : (w.opened q).terkunci php level q.post = true
      · simp [hopen]
      · simp only [hopen, if_false, Bool.false_eq_true, iff_false]
        cases Reading.ofPost php q.post with
        | none => simp
        | some b => dsimp only; split <;> [skip; split] <;> simp
    · have hrun : ((dispatch php q actor level "meter_hapus").run exec (w.opened q)).1 = _ :=
        congrArg Prod.fst (run_meterHapus php actor level q.post (w.opened q))
      rw [hrun]
      by_cases hopen : (w.opened q).terkunci php level q.post = true
      · simp [hopen]
      · simp only [hopen, if_false, Bool.false_eq_true, iff_false]
        split <;> simp
  rw [← hdispatch]
  cases ((dispatch php q actor level tombol).run exec (w.opened q)).1 with
  | error galat => simp [Except.map]
  | ok hasil =>
    cases hasil with
    | halaman pesan =>
      simp only [Except.map, render]
      split <;> simp
    | _ => simp [Except.map, render]

/-! ## Table and handlers -/

/-- A GET of a live session for a page that its level may see. -/
def MembukaHalaman (w : World) (q : Request) (u : String) (level : Level) : Prop :=
  q.tombol = none ∧ isEmpty (some u) = false ∧ idle (w.session q.sid) q.clock.time = false ∧
    pageRefused level (q.query.get? "p") = false

instance (w : World) (q : Request) (u : String) (level : Level) :
    Decidable (MembukaHalaman w q u level) :=
  inferInstanceAs (Decidable (_ ∧ _))

/-- What was printed has this meter table, whose rows offer Ubah and Hapus exactly where a
meter_edit or meter_hapus of that instant, by any meter reader, is not refused as locked. -/
def TabelCocok (php : Php) (w : World) (now : Stamp) (l : Latar) (nodes : List Node) : Prop :=
  let isi := w.db.isiMeter l
  l.tetap .meterList 1 ++ isi ++ l.tetap .meterList 2 <:+: nodes ∧
  ∀ r ∈ w.db.pemakaian.rows, ∀ (e : Request) (actor tombol : String),
    Authorized w e actor .petugas tombol → tombol ∈ ["meter_edit", "meter_hapus"] →
    Db.nomor php e.post = some (r.no : Int) → e.clock.php = now →
    (ubahNo r.no ∈ isi ↔ (handle php w e).1 ≠ .ok (.loginIndex .terkunci)) ∧
    (hapusNo r.no ∈ isi ↔ (handle php w e).1 ≠ .ok (.loginIndex .terkunci))

/-- A meter reader who opens a page is shown it, and every page shown to one has the
fitting meter table. -/
def TabelSesuai (naskah : Naskah) (kalender : Kalender) (php : Php) (w : World) : Prop :=
  ∀ (q : Request) (u : String) (a : Login), q.page = .loginIndex →
    (w.session q.sid).user = some u → w.db.akun u = some a → a.level = .petugas →
    (MembukaHalaman w q u .petugas →
      ∃ nodes, (handleLoginIndexPenuh naskah kalender php w q).1 = .ok (.halaman none, nodes)) ∧
    ∀ pesan nodes, (handleLoginIndexPenuh naskah kalender php w q).1 = .ok (.halaman pesan, nodes) →
      TabelCocok php (step php w q) q.clock.php (w.latar naskah php q a u) nodes

section Table
variable (naskah : Naskah) (kalender : Kalender) (php : Php) {w : World} {q : Request} {u : String}
  {a : Login} {pesan : Option Pesan} {nodes : List Node}

theorem printed_of_halaman (huser : (w.session q.sid).user = some u) (hakun : w.db.akun u = some a)
    (h : (handleLoginIndexPenuh naskah kalender php w q).1 = .ok (.halaman pesan, nodes)) :
    (handleLoginIndexPenuh naskah kalender php w q).2.db.halaman kalender (w.latar naskah php q a u)
      ((handleLoginIndexPenuh naskah kalender php w q).2.db.variabel php q) <:+ nodes := by
  cases hnamed : isEmpty (w.session q.sid).user with
  | true => simp [handleLoginIndexPenuh, hnamed] at h
  | false =>
    cases hactive : idle (w.session q.sid) q.clock.time with
    | true => simp [handleLoginIndexPenuh, hnamed, hactive] at h
    | false =>
      rw [huser] at hnamed
      obtain ⟨hanswer, hserver⟩ :=
        handleLoginIndexPenuh_open naskah kalender php q huser hnamed hactive hakun
      rw [hanswer] at h
      rw [World.db, hserver]
      cases hout : ((tangani php q u a.level (w.csrfToken q)).run exec (w.opened q)).1 with
      | error galat =>
        rw [hout] at h
        cases h
      | ok hasil =>
        rw [hout] at h
        simp only [Except.map, Except.ok.injEq, Prod.mk.injEq] at h
        obtain ⟨hrender, rfl⟩ := h
        cases hasil with
        | halaman pesan' =>
          have hallowed : pageRefused a.level (q.query.get? "p") = false := by
            by_contra hrefused
            rw [Bool.not_eq_false] at hrefused
            simp [render, hrefused] at hrender
          have hlevel : (w.latar naskah php q a u).level = a.level := rfl
          simp only [Db.keluaran, hlevel, hallowed, Bool.false_eq_true, if_false]
          exact List.suffix_append _ _
        | _ => cases hrender

theorem halaman_of_membuka (huser : (w.session q.sid).user = some u) (hakun : w.db.akun u = some a)
    (h : MembukaHalaman w q u a.level) :
    ∃ nodes, (handleLoginIndexPenuh naskah kalender php w q).1 = .ok (.halaman none, nodes) := by
  obtain ⟨htombol, hnamed, hactive, hallowed⟩ := h
  have htangani : tangani php q u a.level (w.csrfToken q) = pure (.halaman none) := by
    unfold tangani
    rw [htombol]
  have hrender : render a.level q (.halaman none) = .halaman none := if_neg (by simp [hallowed])
  obtain ⟨hanswer, -⟩ := handleLoginIndexPenuh_open naskah kalender php q huser hnamed hactive hakun
  rw [htangani] at hanswer
  exact ⟨_, hanswer.trans (congrArg (fun hasil => Except.ok (hasil, _)) hrender)⟩

theorem meterList_infix_halaman (db : Db) (l : Latar) (v : Variabel) :
    l.tetap .meterList 1 ++ db.isiMeter l ++ l.tetap .meterList 2 <:+: db.halaman kalender l v := by
  have hbefore {a b c : List Node} (h : a <:+: c) : a <:+: b ++ c :=
    h.trans (List.suffix_append b c).isInfix
  have hafter {a b c : List Node} (h : a <:+: b) : a <:+: b ++ c :=
    h.trans (List.prefix_append b c).isInfix
  refine hafter (hafter (hafter (hafter (hafter (hafter (hbefore ?_))))))
  simp only [List.append_assoc]
  exact hbefore (hbefore List.infix_rfl)

theorem tabelSesuai (w : World) : TabelSesuai naskah kalender php w := by
  intro q u a hpage huser hakun hlevel
  refine ⟨fun hbuka => halaman_of_membuka naskah kalender php huser hakun (hlevel ▸ hbuka),
    fun pesan nodes h => ?_⟩
  have hprinted := printed_of_halaman naskah kalender php huser hakun h
  have hdb : (handleLoginIndexPenuh naskah kalender php w q).2.db = (step php w q).db :=
    congrArg Server.db (server_handleLoginIndexPenuh naskah kalender php q hpage)
  rw [hdb] at hprinted
  refine ⟨?_, fun r hr e actor tombol hauth ht hno hnow => ?_⟩
  · exact (meterList_infix_halaman kalender _ _ _).trans hprinted.isInfix
  · have hgate : (handle php (step php w q) e).1 ≠ .ok (.loginIndex .terkunci) ↔
        aksiMeter .petugas r.tgl q.clock.php = .ubahHapus := by
      rw [← hnow, aksiMeter_petugas, ne_eq, terkunci_iff php hauth ht, hno,
        pemakaianByNo_of_mem hr, Option.map_some, Bool.not_eq_true]
    have hlatar : (w.latar naskah php q a u).level = .petugas := hlevel
    have honly {r' : Pemakaian} (hr' : r' ∈ (step php w q).db.pemakaian.rows)
        (hsame : r.no = r'.no) : r' = r :=
      (step php w q).db.pemakaian.eq_of_key hr' hr hsame.symm
    rw [mem_isiMeter hlatar rfl, mem_isiMeter hlatar rfl, hgate]
    simp only [ubahNo_mem_nodes php, hapusNo_mem_nodes php]
    have hrow : (∃ r' ∈ (step php w q).db.pemakaian.rows, r.no = r'.no ∧
        aksiMeter .petugas r'.tgl (w.latar naskah php q a u).now = .ubahHapus) ↔
        aksiMeter .petugas r.tgl q.clock.php = .ubahHapus := by
      constructor
      · rintro ⟨r', hr', hsame, haksi⟩
        rw [honly hr' hsame] at haksi
        exact haksi
      · exact fun haksi => ⟨r, hr, rfl, haksi⟩
    exact ⟨hrow, hrow⟩

end Table

/-- Thirty days: in every run of requests of meter readers, residents and clients without
a session, a row whose date lies more than thirty days back stays with all it says but
its evidence, and at every instant the meter table agrees with the handlers. -/
theorem thirty_day_freeze (naskah : Naskah) (kalender : Kalender) (php : Php) {w : World}
    {now : Stamp} {qs : List Request}
    (hqs : Trace.Admissible (DariLapangan now) (step php) w qs) :
    (∀ r ∈ w.db.pemakaian.rows, LewatTigaPuluhHari r.tgl now →
      Trace.Always (fun w => w.db.Beku r) (step php) w qs) ∧
    Trace.Always (TabelSesuai naskah kalender php) (step php) w qs :=
  ⟨fun r hr hlama => Trace.always_of_admissible (fun _ _ hbeku hq => hbeku.step hlama hq) hqs
      ⟨r.buktiBayar, hr⟩,
    fun done _ => tabelSesuai naskah kalender php (serve php w done)⟩

def hapusTerlambat : List Request :=
  masuk 5 hariLimaMinggu "joko" "j" ++
    [{ ajukan 1 hariLimaMinggu "meter_hapus" [("no", "1")] with sid := 5 },
      { ajukan 1 hariLimaMinggu "meter_add"
          [("username", "budi"), ("meter_awal", "10"), ("meter_akhir", "15.5"),
            ("status_bayar", "BELUM LUNAS")] with sid := 5 }]

def lapanganJoko : World :=
  serve .decimal (serve .decimal World.pertama (kantor ++ [catatSepuluh "budi"])) hapusTerlambat

def joko : Login := ⟨"joko", "x$j", some "Joko", none, none, none, .petugas, none, some "AKTIF"⟩

def bukaTabel : Request := Request.kirim 5 .loginIndex hariLimaMinggu []

def cobaHapus (no : String) : Request :=
  { ajukan 1 hariLimaMinggu "meter_hapus" [("no", no)] with sid := 5 }

/-- The first reading stays, and the list offers to delete the second one only. -/
theorem thirty_day_freeze_joko :
    Trace.Always (fun w => w.db.Beku tagihanBudi) (step .decimal)
      (serve .decimal World.pertama (kantor ++ [catatSepuluh "budi"])) hapusTerlambat ∧
    ∃ nodes,
      (handleLoginIndexPenuh Naskah.kosong ⟨fun _ => ""⟩ .decimal lapanganJoko bukaTabel).1 =
        .ok (.halaman none, nodes) ∧
      let isi := (step .decimal lapanganJoko bukaTabel).db.isiMeter
        (lapanganJoko.latar Naskah.kosong .decimal bukaTabel joko "joko")
      isi <:+: nodes ∧ hapusNo 1 ∉ isi ∧ hapusNo 2 ∈ isi := by
  have hqs : Trace.Admissible (DariLapangan hariLimaMinggu) (step .decimal)
      (serve .decimal World.pertama (kantor ++ [catatSepuluh "budi"])) hapusTerlambat := by
    decide +kernel
  have hfreeze := thirty_day_freeze Naskah.kosong ⟨fun _ => ""⟩ .decimal hqs
  have hsesuai : TabelSesuai Naskah.kosong ⟨fun _ => ""⟩ .decimal lapanganJoko :=
    hfreeze.2 hapusTerlambat List.prefix_rfl
  obtain ⟨huser, hakun, hbuka⟩ : (lapanganJoko.session bukaTabel.sid).user = some "joko" ∧
      lapanganJoko.db.akun "joko" = some joko ∧
      MembukaHalaman lapanganJoko bukaTabel "joko" .petugas := by
    decide +kernel
  obtain ⟨hlama, hbaru⟩ : (∃ r ∈ (step .decimal lapanganJoko bukaTabel).db.pemakaian.rows,
        r.no = 1 ∧ (handle .decimal (step .decimal lapanganJoko bukaTabel) (cobaHapus "1")).1 =
          .ok (.loginIndex .terkunci)) ∧
      ∃ r ∈ (step .decimal lapanganJoko bukaTabel).db.pemakaian.rows,
        r.no = 2 ∧ (handle .decimal (step .decimal lapanganJoko bukaTabel) (cobaHapus "2")).1 ≠
          .ok (.loginIndex .terkunci) := by
    decide +kernel
  have hauth : ∀ no ∈ ["1", "2"], Authorized (step .decimal lapanganJoko bukaTabel) (cobaHapus no)
      "joko" .petugas "meter_hapus" := by
    decide +kernel
  obtain ⟨hpage, htabel⟩ := hsesuai bukaTabel "joko" joko rfl huser hakun rfl
  obtain ⟨nodes, hnodes⟩ := hpage hbuka
  obtain ⟨hisi, hcocok⟩ := htabel none nodes hnodes
  obtain ⟨r, hr, hno, hlocked⟩ := hlama
  obtain ⟨r', hr', hno', hopen⟩ := hbaru
  have hfirst := (hcocok r hr (cobaHapus "1") "joko" "meter_hapus" (hauth "1" (by decide))
    (by decide) (by rw [hno]; decide) rfl).2
  have hsecond := (hcocok r' hr' (cobaHapus "2") "joko" "meter_hapus" (hauth "2" (by decide))
    (by decide) (by rw [hno']; decide) rfl).2
  rw [hno] at hfirst
  rw [hno'] at hsecond
  have hkosong (n : Nat) : (lapanganJoko.latar Naskah.kosong .decimal bukaTabel joko
      "joko").tetap .meterList n = [] := rfl
  rw [hkosong, hkosong, List.nil_append, List.append_nil] at hisi
  exact ⟨hfreeze.1 tagihanBudi (by decide +kernel) (by decide), nodes, hnodes, hisi,
    fun hmem => hfirst.mp hmem hlocked, hsecond.mpr hopen⟩

end SistemAir
