import SistemAir.Model.Ajax
import SistemAir.Model.World

/-! Who learns what from assets/ajax.php. An answer to a resident is a function of the
resident's own readings, one to a meter reader of the tables without the billing
columns. -/
namespace SistemAir

open KeyedTable StatementProgram Prog

def Server.ajax (s : Server) (user : Option String) (post : Form) (now : Stamp) :
    Except Galat AjaxHasil :=
  ((SistemAir.ajax user post now).run execKueri s).1

/-- The two states give these statements the same answers. -/
def Buta (R : Db → Db → Prop) {α : Type} (p : Permintaan α) : Prop :=
  p.Blind execKueri fun s s' => R s.db s'.db

section Buta
variable {R : Db → Db → Prop} {α β : Type}

theorem Buta.baca {select : Select β} {f : β → Permintaan α}
    (h : ∀ db db', R db db' → select.jawab _ db = select.jawab _ db')
    (hf : ∀ answer, Buta R (f answer)) : Buta R (SistemAir.baca select >>= f) :=
  ⟨fun s s' hs => ⟨h s.db s'.db hs, hs⟩, hf⟩

theorem Buta.pure (value : α) : Buta R (Pure.pure value) := trivial

end Buta

/-! ## The gate -/

theorem ajax_refused (s : Server) {user : Option String} (post : Form) (now : Stamp)
    (h : isEmpty user ∨ s.db.levelOf user = none) : s.ajax user post now = .ok .unauthorized := by
  unfold Server.ajax SistemAir.ajax
  cases huser : isEmpty user with
  | true => rfl
  | false =>
    obtain ⟨u, rfl⟩ : ∃ u, user = some u := by
      cases user with
      | none => cases huser
      | some u => exact ⟨u, rfl⟩
    have hlevel : (s.db.akun u).map Login.level = none := h.resolve_left (by rw [huser]; decide)
    rw [if_neg (by decide), run_bind_ok execKueri ((run_angkat _ s).trans (run_dtUser s _))]
    simp only [orEmpty, Option.getD_some, hlevel]
    rfl

theorem ajax_served (s : Server) {u : String} {level : Level} (post : Form) (now : Stamp)
    (hnamed : isEmpty (some u) = false) (h : s.db.levelOf (some u) = some level) :
    s.ajax (some u) post now = ((jawabAjax u level post now).run execKueri s).1 := by
  have hlevel : (s.db.akun u).map Login.level = some level := h
  unfold Server.ajax SistemAir.ajax
  rw [if_neg (by rw [hnamed]; decide),
    run_bind_ok execKueri ((run_angkat _ s).trans (run_dtUser s _))]
  simp only [orEmpty, Option.getD_some, hlevel]

/-! ## Meter readers -/

def Pemakaian.tanpaTagihan (r : Pemakaian) : Pemakaian :=
  { r with kdTarif := "", tagihan := 0, status := none, buktiBayar := none }

/-- The states differ at most in tagihan, status, kd_tarif and bukti_bayar of the
readings, in tarif and in the logs. -/
structure SamaSelainTagihan (db db' : Db) : Prop where
  login : db.login = db'.login
  pemakaian : db.pemakaian.rows.map Pemakaian.tanpaTagihan =
    db'.pemakaian.rows.map Pemakaian.tanpaTagihan

section Columns
variable {rows rows' : List Pemakaian}

theorem map_of_tanpaTagihan {α : Type}
    (h : rows.map Pemakaian.tanpaTagihan = rows'.map Pemakaian.tanpaTagihan)
    {f : Pemakaian → α} (hf : ∀ r, f r.tanpaTagihan = f r) : rows.map f = rows'.map f := by
  have hmap (l : List Pemakaian) : l.map f = (l.map Pemakaian.tanpaTagihan).map f := by
    rw [List.map_map]
    exact List.map_congr_left fun r _ => (hf r).symm
  rw [hmap, h, ← hmap]

theorem filter_of_tanpaTagihan
    (h : rows.map Pemakaian.tanpaTagihan = rows'.map Pemakaian.tanpaTagihan)
    {p : Pemakaian → Bool} (hp : ∀ r, p r.tanpaTagihan = p r) :
    (rows.filter p).map Pemakaian.tanpaTagihan = (rows'.filter p).map Pemakaian.tanpaTagihan := by
  have hfilter (l : List Pemakaian) : (l.filter p).map Pemakaian.tanpaTagihan =
      (l.map Pemakaian.tanpaTagihan).filter p := by
    rw [List.filter_map]
    congr 1
    exact List.filter_congr fun r _ => (hp r).symm
  rw [hfilter, hfilter, h]

theorem countUsername_of_tanpaTagihan
    (h : rows.map Pemakaian.tanpaTagihan = rows'.map Pemakaian.tanpaTagihan) :
    countUsername rows = countUsername rows' := by
  have hfilter := filter_of_tanpaTagihan h (p := fun r => r.username.isSome) fun _ => rfl
  unfold countUsername
  simpa using congrArg List.length hfilter

theorem perBulan_of_tanpaTagihan {α : Type} {f : List Pemakaian → α}
    (h : rows.map Pemakaian.tanpaTagihan = rows'.map Pemakaian.tanpaTagihan)
    (hf : ∀ {l l' : List Pemakaian},
      l.map Pemakaian.tanpaTagihan = l'.map Pemakaian.tanpaTagihan → f l = f l') :
    perBulan rows f = perBulan rows' f := by
  unfold perBulan
  refine List.filterMap_congr fun bulan _ => ?_
  have hbulan := filter_of_tanpaTagihan h (p := fun r => r.tgl.month = bulan) fun _ => rfl
  have hempty : rows.filter (fun r => r.tgl.month = bulan) = [] ↔
      rows'.filter (fun r => r.tgl.month = bulan) = [] := by
    rw [← List.map_eq_nil_iff (f := Pemakaian.tanpaTagihan), hbulan, List.map_eq_nil_iff]
  simp only [hempty, hf hbulan]

end Columns

section Petugas
variable {db db' : Db}

theorem tglTerakhir_same (h : SamaSelainTagihan db db') :
    Select.tglTerakhir.jawab _ db = Select.tglTerakhir.jawab _ db' := by
  have hsort (l : List Pemakaian) :
      (l.insertionSort fun a b => b.tgl.ordinal ≤ a.tgl.ordinal).head?.map Pemakaian.tgl =
        ((l.map Pemakaian.tgl).insertionSort fun a b => b.ordinal ≤ a.ordinal).head? := by
    rw [← List.map_insertionSort (fun a b : Pemakaian => b.tgl.ordinal ≤ a.tgl.ordinal)
      (fun a b : Date => b.ordinal ≤ a.ordinal) _ _ fun _ _ _ _ => Iff.rfl, List.head?_map]
  simp only [Select.jawab]
  rw [hsort, hsort, map_of_tanpaTagihan h.pemakaian fun _ => rfl]

theorem jmlWarga_same (h : SamaSelainTagihan db db') :
    Select.jmlWarga.jawab _ db = Select.jmlWarga.jawab _ db' := by
  simp only [Select.jawab, Db.warga, h.login]

theorem totalPemakaian_same (h : SamaSelainTagihan db db') (bulan : String) :
    (Select.totalPemakaian bulan).jawab _ db = (Select.totalPemakaian bulan).jawab _ db' := by
  have hbulan := filter_of_tanpaTagihan h.pemakaian (p := fun r => r.tgl.like bulan) fun _ => rfl
  simp only [Select.jawab]
  rw [map_of_tanpaTagihan hbulan fun _ => rfl]

theorem tercatat_same (h : SamaSelainTagihan db db') (bulan : String) :
    (Select.tercatat bulan).jawab _ db = (Select.tercatat bulan).jawab _ db' :=
  countUsername_of_tanpaTagihan (filter_of_tanpaTagihan h.pemakaian fun _ => rfl)

theorem pemakaianPerBulan_same (h : SamaSelainTagihan db db') (tahun : Nat) :
    (Select.pemakaianPerBulan tahun).jawab _ db = (Select.pemakaianPerBulan tahun).jawab _ db' := by
  have htahun := filter_of_tanpaTagihan h.pemakaian (p := fun r => r.tgl.year = tahun) fun _ => rfl
  have hsum {l l' : List Pemakaian}
      (hl : l.map Pemakaian.tanpaTagihan = l'.map Pemakaian.tanpaTagihan) :
      (l.map Pemakaian.pemakaian).sum = (l'.map Pemakaian.pemakaian).sum := by
    rw [map_of_tanpaTagihan hl fun _ => rfl]
  exact perBulan_of_tanpaTagihan htahun hsum

theorem tipePelanggan_same (h : SamaSelainTagihan db db') :
    Select.tipePelanggan.jawab _ db = Select.tipePelanggan.jawab _ db' := by
  simp only [Select.jawab, Db.warga, h.login]

theorem tercatatPerBulan_same (h : SamaSelainTagihan db db') (tahun : Nat) :
    (Select.tercatatPerBulan tahun).jawab _ db = (Select.tercatatPerBulan tahun).jawab _ db' := by
  have htahun := filter_of_tanpaTagihan h.pemakaian (p := fun r => r.tgl.year = tahun) fun _ => rfl
  exact perBulan_of_tanpaTagihan htahun countUsername_of_tanpaTagihan

theorem buta_jawabAjax_petugas (user : String) (post : Form) (now : Stamp) :
    Buta SamaSelainTagihan (jawabAjax user .petugas post now) := by
  have hbulan (bulanPost : String) : Buta SamaSelainTagihan (bulanDefault bulanPost now) := by
    unfold bulanDefault
    split
    · apply Buta.baca fun _ _ h => tglTerakhir_same h
      intro tgl
      cases tgl <;> exact .pure _
    · exact .pure _
  have hsummary (bulan : String) : Buta SamaSelainTagihan (summaryPencatat bulan) := by
    apply Buta.baca fun _ _ h => jmlWarga_same h
    intro jml
    apply Buta.baca fun _ _ h => totalPemakaian_same h _
    intro total
    apply Buta.baca fun _ _ h => tercatat_same h _
    intro tercatat
    exact .pure _
  have hchart : Buta SamaSelainTagihan (chartPencatat now.date.year) := by
    apply Buta.baca fun _ _ h => pemakaianPerBulan_same h _
    intro pemakaian
    apply Buta.baca fun _ _ h => tipePelanggan_same h
    intro tipe
    apply Buta.baca fun _ _ h => jmlWarga_same h
    intro jml
    apply Buta.baca fun _ _ h => tercatatPerBulan_same h _
    intro catat
    exact .pure _
  apply Blind.bind (hbulan _)
  intro bulan
  split
  · exact Blind.bind (hsummary bulan) fun _ => Buta.pure _
  · exact Blind.bind hchart fun _ => Buta.pure _
  · exact Buta.pure _

theorem ajax_petugas_same {s s' : Server} {u : String} (post : Form) (now : Stamp)
    (hlevel : s.db.levelOf (some u) = some .petugas) (h : SamaSelainTagihan s.db s'.db) :
    s'.ajax (some u) post now = s.ajax (some u) post now := by
  have hlevel' : s'.db.levelOf (some u) = some .petugas := by
    unfold Db.levelOf Db.akun at hlevel ⊢
    rw [← h.login]
    exact hlevel
  cases hnamed : isEmpty (some u) with
  | true => rw [ajax_refused s' post now (.inl hnamed), ajax_refused s post now (.inl hnamed)]
  | false =>
    rw [ajax_served s' post now hnamed hlevel', ajax_served s post now hnamed hlevel]
    exact ((buta_jawabAjax_petugas u post now).run_eq h).symm

end Petugas

/-! ## Residents -/

def ajaxWarga (rows : List Pemakaian) (post : Form) (now : Stamp) : AjaxHasil :=
  let bulanPost := orEmpty (post.get? "t")
  match post.get? "p" with
  | some "summary" =>
    let terbaru := (terbaruDulu rows).head?
    let bulanItu := (rows.filter (·.tgl.like (bulanPost ++ "%"))).head?
    .json (.array (infoWarga ((if bulanPost = "" then terbaru else bulanItu).map Pemakaian.info)))
  | some "semua_chart" =>
    let tahunIni := rows.filter (·.tgl.year = now.date.year)
    .json (JsonText.ofMap
      [("pemakaian_warga", duaBelasBulan (tahunIni.map fun r => (r.tgl.month, .number r.pemakaian))),
        ("tagihan_warga", duaBelasBulan (tahunIni.map fun r => (r.tgl.month, .number r.tagihan)))])
  | _ => .kosong

theorem run_bulanDefault (s : Server) (bulanPost : String) (now : Stamp) :
    ∃ bulan, (bulanDefault bulanPost now).run execKueri s = (.ok bulan, s) := by
  unfold bulanDefault
  split
  · rw [run_baca]
    cases Select.tglTerakhir.jawab _ s.db with
    | none => exact ⟨_, rfl⟩
    | some tgl => exact ⟨_, rfl⟩
  · exact ⟨_, rfl⟩

theorem run_summaryWarga (s : Server) (u bulanPost bulan : String) :
    (summary u .warga bulanPost bulan).run execKueri s =
      (.ok (infoWarga ((if bulanPost = "" then (terbaruDulu (s.db.pemakaianOf u)).head?
        else ((s.db.pemakaianOf u).filter (·.tgl.like (bulanPost ++ "%"))).head?).map
          Pemakaian.info)), s) := by
  simp only [summary, summaryWarga]
  split
  · rw [run_baca]
    rfl
  · rw [run_baca]
    rfl

theorem run_chartWarga (s : Server) (u : String) (tahun : Nat) :
    (semuaChart u .warga tahun).run execKueri s =
      let tahunIni := (s.db.pemakaianOf u).filter (·.tgl.year = tahun)
      (.ok [("pemakaian_warga", duaBelasBulan (tahunIni.map fun r => (r.tgl.month, .number r.pemakaian))),
        ("tagihan_warga", duaBelasBulan (tahunIni.map fun r => (r.tgl.month, .number r.tagihan)))],
        s) := by
  simp only [semuaChart, chartWarga]
  rw [run_baca]
  simp only [Select.jawab, List.map_map]
  rfl

/-- The month default is computed from everybody's readings and then not used. -/
theorem ajax_warga (s : Server) {u : String} (post : Form) (now : Stamp)
    (hnamed : isEmpty (some u) = false) (hlevel : s.db.levelOf (some u) = some .warga) :
    s.ajax (some u) post now = .ok (ajaxWarga (s.db.pemakaianOf u) post now) := by
  obtain ⟨bulan, hbulan⟩ := run_bulanDefault s (orEmpty (post.get? "t")) now
  rw [ajax_served s post now hnamed hlevel]
  unfold jawabAjax ajaxWarga
  rw [run_bind_ok execKueri hbulan]
  generalize post.get? "p" = p
  split
  · rw [run_bind_ok execKueri (run_summaryWarga s u _ bulan)]
    rfl
  · rw [run_bind_ok execKueri (run_chartWarga s u _)]
    rfl
  · simp_all

theorem ajax_warga_same {s s' : Server} {u : String} (post : Form) (now : Stamp)
    (hlevel : s.db.levelOf (some u) = some .warga) (hakun : s'.db.akun u = s.db.akun u)
    (hrows : s'.db.pemakaianOf u = s.db.pemakaianOf u) :
    s'.ajax (some u) post now = s.ajax (some u) post now := by
  have hlevel' : s'.db.levelOf (some u) = some .warga := by
    unfold Db.levelOf at hlevel ⊢
    rw [Option.bind_some] at hlevel ⊢
    rw [hakun]
    exact hlevel
  cases hnamed : isEmpty (some u) with
  | true => rw [ajax_refused s' post now (.inl hnamed), ajax_refused s post now (.inl hnamed)]
  | false =>
    rw [ajax_warga s' post now hnamed hlevel', ajax_warga s post now hnamed hlevel, hrows]

/-- Whatever month pattern a client sends: a resident's answer depends on the
resident's account and readings only, a meter reader's on no billing column, and
without an account everyone gets the same refusal. -/
theorem ajax_isolation (s s' : Server) (user : Option String) (post : Form) (now : Stamp) :
    (∀ u, user = some u → s.db.levelOf user = some .warga → s'.db.akun u = s.db.akun u →
      s'.db.pemakaianOf u = s.db.pemakaianOf u → s'.ajax user post now = s.ajax user post now) ∧
    (s.db.levelOf user = some .petugas → SamaSelainTagihan s.db s'.db →
      s'.ajax user post now = s.ajax user post now) ∧
    (isEmpty user ∨ s.db.levelOf user = none → s.ajax user post now = .ok .unauthorized) := by
  refine ⟨?_, ?_, ajax_refused s post now⟩
  · rintro u rfl hlevel hakun hrows
    exact ajax_warga_same post now hlevel hakun hrows
  · intro hlevel h
    obtain ⟨u, rfl⟩ : ∃ u, user = some u := by
      cases user with
      | none => cases hlevel
      | some u => exact ⟨u, rfl⟩
    exact ajax_petugas_same post now hlevel h

def tercatatBudi : World := serve Php.decimal World.pertama (kantor ++ [catatSepuluh "budi"])

def tercatatAni : World := step Php.decimal tercatatBudi (catatSepuluh "ani")

def terbayarBudi : World := step Php.decimal tercatatBudi bayarSepuluh

/-- The resident does not see the other's reading, the meter reader not the payment. -/
theorem ajax_isolation_kantor :
    tercatatAni.server.ajax (some "budi") [("p", "summary"), ("t", "20__-%")] hariBuka =
        tercatatBudi.server.ajax (some "budi") [("p", "summary"), ("t", "20__-%")] hariBuka ∧
      terbayarBudi.server.ajax (some "joko") [("p", "semua_chart")] hariBuka =
        tercatatBudi.server.ajax (some "joko") [("p", "semua_chart")] hariBuka ∧
      tercatatBudi.server.ajax none [("p", "summary")] hariBuka = .ok .unauthorized := by
  -- The checks are evaluated together, for the worlds they share.
  suffices h : _ ∧ _ ∧ _ ∧ _ ∧ _ ∧ _ by
    obtain ⟨hbudi, hakun, hsaya, hjoko, hlogin, hmeter⟩ := h
    refine ⟨?_, ?_, ?_⟩
    · exact (ajax_isolation tercatatBudi.server tercatatAni.server (some "budi") _ _).1 "budi" rfl
        hbudi hakun hsaya
    · exact (ajax_isolation tercatatBudi.server terbayarBudi.server (some "joko") _ _).2.1 hjoko
        ⟨Table.ext _ _ hlogin, hmeter⟩
    · exact (ajax_isolation tercatatBudi.server tercatatBudi.server none _ _).2.2 (.inl rfl)
  decide +kernel

end SistemAir
