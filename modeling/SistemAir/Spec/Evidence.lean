import SistemAir.Spec.Readings

/-! Whose file the evidence of a reading is. An upload is stored before its owner is looked
at, under a name that the posted number, the second and the extension decide alone. -/
namespace SistemAir

open KeyedTable StatementProgram Prog

/-! ## Who wrote which file -/

/-- A state, and who last wrote each file of assets/img/bukti. -/
structure Jejak where
  world : World
  penulis : String → Option String

def berkasBaru (w w' : World) : Option String :=
  if w'.server.berkas.length = w.server.berkas.length then none
  else w'.server.berkas.head?.map Prod.fst

/-- The user of a request that stores a file has written it. -/
def Jejak.step (php : Php) (j : Jejak) (q : Request) : Jejak where
  world := SistemAir.step php j.world q
  penulis :=
    match berkasBaru j.world (SistemAir.step php j.world q) with
    | none => j.penulis
    | some bukti => Function.update j.penulis bukti (j.world.session q.sid).user

def Jejak.baru (admin : Login) (s : Stamp) : Jejak := ⟨World.baru admin s, fun _ => none⟩

/-- The evidence of every reading was last written by its own resident. -/
def Jejak.Milik (j : Jejak) : Prop :=
  ∀ r ∈ j.world.db.pemakaian.rows, ∀ bukti, r.buktiBayar = some bukti → bukti ≠ "" →
    ∃ u, r.username = some u ∧ j.penulis bukti = some u

/-- The request stores `upload` for `actor`. -/
structure Menyimpan (w : World) (q : Request) (actor : String) (level : Level) (upload : Upload) :
    Prop where
  auth : Authorized w q actor level "upload_bukti"
  file : q.file = some upload
  diterima : upload.diterima = true

section Step
variable {php : Php} {w : World} {q : Request} {actor : String} {level : Level} {upload : Upload}

theorem namaBukti_ne_empty (post : Form) (now : Clock) : namaBukti php post upload now ≠ "" := by
  intro h
  have hlist := congrArg String.toList h
  simp [namaBukti] at hlist

theorem step_menyimpan (php : Php) (h : Menyimpan w q actor level upload) :
    (step php w q).server.berkas =
        (namaBukti php q.post upload q.clock, upload.content) :: w.server.berkas ∧
      (step php w q).db.pemakaian = (w.db.setBukti actor (namaBukti php q.post upload q.clock)
        (nomorBukti php q.post)).pemakaian := by
  have hserver := server_of_authorized php h.auth
  have hdispatch : dispatch php q actor level "upload_bukti" =
      uploadBukti php actor level q.post (some upload) :=
    congrArg (uploadBukti php actor level q.post) h.file
  rw [hdispatch, run_uploadBukti_kept php actor level q.post (w.opened q) h.diterima] at hserver
  exact ⟨congrArg Server.berkas hserver,
    congrArg (fun s : Server => s.db.pemakaian) hserver⟩

theorem berkas_exec {tombol : String} (htombol : tombol ≠ "upload_bukti") {β : Type} (op : Op β)
    (s : Server) (answer : β) (s' : Server) (hop : Dipakai tombol β op)
    (h : exec _ op s = .ok (answer, s')) : s'.berkas = s.berkas := by
  cases op with
  | storeUpload => exact absurd hop htombol
  | insertLogin =>
    obtain ⟨login', rfl⟩ := exec_insertLogin_ok h
    rfl
  | insertTarif =>
    obtain ⟨tarif', rfl⟩ := exec_insertTarif_ok h
    rfl
  | _ => cases h; rfl

theorem run_berkas {tombol : String} (htombol : tombol ≠ "upload_bukti") {α : Type} {p : Aksi α}
    (hp : p.Only (Dipakai tombol)) (s : Server) : (p.run exec s).2.berkas = s.berkas :=
  hp.run_keeps (I := fun t => t.berkas = s.berkas)
    (fun op t answer t' hop ht hexec => (berkas_exec htombol op t answer t' hop hexec).trans ht) rfl

theorem step_tanpaSimpan (php : Php) (h : ∀ actor level upload, ¬Menyimpan w q actor level upload) :
    (step php w q).server.berkas = w.server.berkas ∧
      ∀ r' ∈ (step php w q).db.pemakaian.rows, r'.buktiBayar = none ∨
        ∃ r ∈ w.db.pemakaian.rows, r.username = r'.username ∧ r.buktiBayar = r'.buktiBayar := by
  have hrefused (actor : String) (level : Level) (hauth : Authorized w q actor level "upload_bukti") :
      (step php w q).server = w.opened q := by
    have hfile : ∀ upload ∈ q.file, upload.diterima = false := fun upload hupload =>
      Bool.eq_false_of_not_eq_true fun hditerima => h actor level upload ⟨hauth, hupload, hditerima⟩
    obtain ⟨hasil, -, hrun⟩ := run_uploadBukti_refused php actor level q.post (w.opened q) hfile
    rw [server_of_authorized php hauth]
    exact congrArg Prod.snd hrun
  constructor
  · rcases step_cases php w q with ⟨hserver, -⟩ | ⟨-, token, hserver⟩ |
      ⟨actor, level, tombol, hauth, hserver⟩
    · rw [hserver]
      rfl
    · have honly : (index php q token).Only (Dipakai "") := only_index php q token
      rw [hserver]
      exact run_berkas (by decide) honly (w.opened q)
    · by_cases htombol : tombol = "upload_bukti"
      · subst htombol
        rw [hrefused actor level hauth]
        rfl
      · rw [hserver]
        exact run_berkas htombol (only_dispatch php q actor level tombol) (w.opened q)
  · intro r' hr'
    have hkept (hr : r' ∈ w.db.pemakaian.rows) : r'.buktiBayar = none ∨
        ∃ r ∈ w.db.pemakaian.rows, r.username = r'.username ∧ r.buktiBayar = r'.buktiBayar :=
      .inr ⟨r', hr, rfl, rfl⟩
    rcases step_pemakaian_cases php w q with hsame | ⟨actor, level, b, hadds⟩ |
      ⟨actor, level, b, hedits⟩ | ⟨actor, level, hremoves⟩ | ⟨actor, level, -, hrows⟩ |
      ⟨actor, level, bukti, no, hauth, -⟩
    · exact hkept (hsame ▸ hr')
    · rw [hadds.rows] at hr'
      rcases List.mem_append.mp hr' with hr | hr
      · exact hkept hr
      · rw [List.mem_singleton.mp hr]
        exact .inl rfl
    · rw [hedits.rows] at hr'
      obtain ⟨r, hr, rfl⟩ := List.mem_map.mp hr'
      refine .inr ⟨r, hr, ?_⟩
      split <;> exact ⟨rfl, rfl⟩
    · rw [hremoves.rows] at hr'
      exact hkept (List.mem_of_mem_filter hr')
    · rw [hrows, Db.rows_hapusUser] at hr'
      exact hkept (List.mem_of_mem_filter hr')
    · rw [World.db, hrefused actor level hauth] at hr'
      exact hkept hr'

end Step

/-! ## One step -/

/-- No accepted upload goes to a file that is the evidence of another user's reading. -/
def SimpanAman (php : Php) (j : Jejak) (q : Request) : Prop :=
  ∀ actor level upload, Menyimpan j.world q actor level upload →
    ∀ r ∈ j.world.db.pemakaian.rows, r.buktiBayar = some (namaBukti php q.post upload q.clock) →
      r.username = some actor

section Milik
variable {php : Php} {j : Jejak} {q : Request} {actor : String} {level : Level} {upload : Upload}

theorem jejak_menyimpan (php : Php) (h : Menyimpan j.world q actor level upload) :
    (j.step php q).penulis =
      Function.update j.penulis (namaBukti php q.post upload q.clock) (some actor) := by
  have hberkas := (step_menyimpan php h).1
  have hbaru : berkasBaru j.world (step php j.world q) =
      some (namaBukti php q.post upload q.clock) := by
    unfold berkasBaru
    rw [hberkas, if_neg (by simp)]
    rfl
  simp only [Jejak.step, hbaru, h.auth.user]

theorem jejak_tanpaSimpan
    (h : ∀ actor level upload, ¬Menyimpan j.world q actor level upload) :
    (j.step php q).penulis = j.penulis := by
  have hberkas := (step_tanpaSimpan php h).1
  have hbaru : berkasBaru j.world (step php j.world q) = none := by
    unfold berkasBaru
    rw [hberkas, if_pos rfl]
  simp only [Jejak.step, hbaru]

theorem milik_menyimpan_iff (h : Menyimpan j.world q actor level upload) (hj : j.Milik) :
    (j.step php q).Milik ↔ ∀ r ∈ j.world.db.pemakaian.rows,
      r.buktiBayar = some (namaBukti php q.post upload q.clock) → r.username = some actor := by
  have hpenulis := jejak_menyimpan php h
  have hrows : (j.step php q).world.db.pemakaian.rows = _ :=
    (congrArg (fun t : AutoTable Pemakaian.no => t.rows) (step_menyimpan php h).2).trans
      (Db.rows_setBukti ..)
  constructor
  · intro hmilik r hr hbukti
    by_cases hsama : r.username = some actor
    · exact hsama
    · have hr' : r ∈ (j.step php q).world.db.pemakaian.rows := by
        rw [hrows, List.mem_map]
        exact ⟨r, hr, by simp [hsama]⟩
      obtain ⟨u, hu, hwriter⟩ := hmilik r hr' _ hbukti (namaBukti_ne_empty q.post q.clock)
      rw [hpenulis, Function.update_self] at hwriter
      rw [hu, ← hwriter]
  · intro hgood r' hr' bukti hbukti hnonempty
    rw [hrows] at hr'
    obtain ⟨r, hr, rfl⟩ := List.mem_map.mp hr'
    rw [hpenulis]
    by_cases hbaru : bukti = namaBukti php q.post upload q.clock
    · subst hbaru
      refine ⟨actor, ?_, Function.update_self _ _ _⟩
      split at hbukti
      · rename_i hcocok
        rw [if_pos hcocok]
        rw [Bool.and_eq_true, sqlEq_iff] at hcocok
        exact hcocok.2.2
      · rename_i hcocok
        rw [if_neg hcocok]
        exact hgood r hr hbukti
    · rw [Function.update_of_ne hbaru]
      split at hbukti
      · exact absurd (Option.some.inj hbukti).symm hbaru
      · rename_i hcocok
        rw [if_neg hcocok]
        exact hj r hr bukti hbukti hnonempty

theorem milik_step_iff (php : Php) (j : Jejak) (q : Request) (hj : j.Milik) :
    (j.step php q).Milik ↔ SimpanAman php j q := by
  by_cases h : ∃ actor level upload, Menyimpan j.world q actor level upload
  · obtain ⟨actor, level, upload, h⟩ := h
    rw [milik_menyimpan_iff h hj]
    constructor
    · intro hgood actor' level' upload' h'
      obtain ⟨rfl, -, -⟩ := h.auth.unique h'.auth
      obtain rfl : upload' = upload := Option.some.inj (h'.file.symm.trans h.file)
      exact hgood
    · exact fun hgood => hgood actor level upload h
  · push Not at h
    refine iff_of_true ?_ fun actor level upload hsimpan => absurd hsimpan (h actor level upload)
    intro r' hr' bukti hbukti hnonempty
    rw [jejak_tanpaSimpan h]
    rcases (step_tanpaSimpan php h).2 r' hr' with hnone | ⟨r, hr, huser, hsama⟩
    · rw [hnone] at hbukti
      cases hbukti
    · rw [← huser]
      exact hj r hr bukti (hsama.trans hbukti) hnonempty

end Milik

/-- In a run from a new installation the evidence of every reading is always its own
resident's file exactly when no accepted upload goes to another resident's. -/
theorem evidence_owner_iff (php : Php) (admin : Login) (s : Stamp) (qs : List Request) :
    Trace.Always Jejak.Milik (Jejak.step php) (Jejak.baru admin s) qs ↔
      Trace.Admissible (SimpanAman php) (Jejak.step php) (Jejak.baru admin s) qs := by
  have hbaru : (Jejak.baru admin s).Milik := by
    intro r hr
    cases hr
  exact Trace.always_iff_of_step (milik_step_iff php) qs hbaru

def unggah (sid : Nat) (isi : String) : Request :=
  { ajukan sid hariBuka "upload_bukti" [("no_meter", "1")] with
    file := some ⟨true, "bukti.jpg", 1000, isi, true⟩ }

def rebutan : List Request :=
  kantor ++ masuk 3 hariBuka "budi" "b" ++ [catatSepuluh "budi", unggah 3 "lunas", unggah 1 "kosong"]

theorem not_milik_of {j : Jejak} {u v : String} (bukti : String) (hne : u ≠ v) (hbukti : bukti ≠ "")
    (hrow : ∃ r ∈ j.world.db.pemakaian.rows, r.username = some u ∧ r.buktiBayar = some bukti)
    (hpenulis : j.penulis bukti = some v) : ¬j.Milik := by
  intro h
  obtain ⟨r, hr, huser, hrbukti⟩ := hrow
  obtain ⟨u', hu', hwriter⟩ := h r hr bukti hrbukti hbukti
  rw [huser] at hu'
  rw [hpenulis, ← hu'] at hwriter
  exact hne (Option.some.inj hwriter).symm

theorem evidence_owner_violated :
    ¬Trace.Always Jejak.Milik (Jejak.step .decimal) (Jejak.baru adminPertama hariBuka) rebutan := by
  intro h
  let bukti := namaBukti .decimal (unggah 1 "kosong").post
    ⟨true, "bukti.jpg", 1000, "kosong", true⟩ (Clock.at hariBuka)
  have hnonempty : bukti ≠ "" := namaBukti_ne_empty _ _
  exact not_milik_of bukti (u := "budi") (v := "joko") (by decide) hnonempty (by decide +kernel)
    (by decide +kernel) h.last

end SistemAir
