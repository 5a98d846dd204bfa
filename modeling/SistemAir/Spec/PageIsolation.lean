import Mathlib.Data.Fintype.EquivFin
import SistemAir.Spec.Handlers
import SistemAir.Spec.Page

/-! Who learns what from login/index.php. Whatever ends a resident's request before the
templates ends it as a function of the resident's own account; the templates print a
list of all residents. -/
namespace SistemAir

open KeyedTable Markup StatementProgram Prog

/-- How a request ends, which decides the headers, and the text that is sent. -/
def kiriman (naskah : Naskah) (kalender : Kalender) (php : Php) (w : World) (q : Request) :
    Except Galat (Hasil × List Char) :=
  (handleLoginIndexPenuh naskah kalender php w q).1.map fun out => (out.1, Markup.render out.2)

def World.denganDb (w : World) (db : Db) : World := ⟨w.server.setDb db, w.session⟩

structure SamaBagi (u : String) (db db' : Db) : Prop where
  akun : db.akun u = db'.akun u
  pemakaian : db.pemakaianOf u = db'.pemakaianOf u

/-- A resident's request that does not get to the templates: there is no live session, the
token or role guard refuses it, its handler redirects, or the page guard refuses it. -/
def BerakhirDini (w : World) (q : Request) (u : String) : Prop :=
  isEmpty (some u) = true ∨ idle (w.session q.sid) q.clock.time = true ∨
    pageRefused .warga (q.query.get? "p") = true ∨
    ∃ tombol ∈ q.tombol, tokenRefused (w.csrfToken q) (q.post.get? "csrf_token") = true ∨
      roleRefused .warga tombol = true ∨ tombol ∈ ["upload_bukti", "profil_edit"]

instance (w : World) (q : Request) (u : String) : Decidable (BerakhirDini w q u) :=
  inferInstanceAs (Decidable (_ ∨ _ ∨ _ ∨ ∃ tombol ∈ q.tombol, _))

/-! ## The handlers of a resident -/

section Handlers
variable (php : Php) (q : Request) {u tombol : String} (token : String) {s s' : Server}

theorem dispatch_warga (hrole : roleRefused .warga tombol = false) :
    tombol = "upload_bukti" ∨ tombol = "profil_edit" ∨
      dispatch php q u .warga tombol = pure (.halaman none) := by
  unfold dispatch
  split
  all_goals first | exact absurd hrole (by decide) | simp

theorem uploadBukti_answer (post : Form) (file : Option Upload) :
    ∃ hasil, ∀ s, ((uploadBukti php u .warga post file).run exec s).1 = .ok (.unggah hasil) := by
  unfold uploadBukti
  cases file with
  | none => exact ⟨.tanpaBerkas, fun _ => rfl⟩
  | some upload =>
    dsimp only
    split
    · split
      · exact ⟨.formatSalah, fun _ => rfl⟩
      split
      · exact ⟨.terlaluBesar, fun _ => rfl⟩
      refine ⟨if upload.moved then .berhasil else .gagalPindah, fun s => ?_⟩
      rw [perform_bind, run_call_ok exec rfl, perform_bind, run_call_ok exec rfl]
      cases upload.moved <;> rfl
    · exact ⟨.tanpaBerkas, fun _ => rfl⟩

theorem profilEdit_same (hakun : s.db.akun u = s'.db.akun u) :
    ((profilEdit php u .warga q.salt q.post).run exec s).1 =
      ((profilEdit php u .warga q.salt q.post).run exec s').1 := by
  have hchanged (s : Server) :
      0 < s.db.login.changed (fun r => r.username = u) (Login.profiled php q.salt q.post) ↔
        ∃ r ∈ s.db.akun u, Login.profiled php q.salt q.post r ≠ r :=
    s.db.login.changed_key_pos_iff
  rw [run_profilEdit, run_profilEdit]
  simp only [hchanged, hakun]
  split <;> rfl

theorem tangani_same (hakun : s.db.akun u = s'.db.akun u) :
    ((tangani php q u .warga token).run exec s).1 =
      ((tangani php q u .warga token).run exec s').1 := by
  unfold tangani
  cases q.tombol with
  | none => rfl
  | some tombol =>
    dsimp only
    split
    · rfl
    split
    · rfl
    · rename_i hrole
      rcases dispatch_warga php q (u := u) (Bool.eq_false_of_not_eq_true hrole) with
        rfl | rfl | hpage
      · obtain ⟨hasil, hanswer⟩ := uploadBukti_answer php (u := u) q.post q.file
        exact (hanswer s).trans (hanswer s').symm
      · exact profilEdit_same php q hakun
      · rw [hpage]
        rfl

theorem tangani_halaman
    (h : ¬∃ tombol ∈ q.tombol, tokenRefused token (q.post.get? "csrf_token") = true ∨
      roleRefused .warga tombol = true ∨ tombol ∈ ["upload_bukti", "profil_edit"]) :
    tangani php q u .warga token = pure (.halaman none) := by
  unfold tangani
  cases htombol : q.tombol with
  | none => rfl
  | some tombol =>
    simp only [htombol, Option.mem_def, Option.some.injEq, exists_eq_left', not_or,
      Bool.not_eq_true] at h
    obtain ⟨htoken, hrole, hnone⟩ := h
    dsimp only
    rw [if_neg (by rw [htoken]; decide), if_neg (by rw [hrole]; decide)]
    refine ((dispatch_warga php q hrole).resolve_left ?_).resolve_left ?_
    · rintro rfl
      simp at hnone
    · rintro rfl
      simp at hnone

theorem tangani_dini
    (h : ∃ tombol ∈ q.tombol, tokenRefused token (q.post.get? "csrf_token") = true ∨
      roleRefused .warga tombol = true ∨ tombol ∈ ["upload_bukti", "profil_edit"])
    (pesan : Option Pesan) :
    ((tangani php q u .warga token).run exec s).1 ≠ .ok (.halaman pesan) := by
  obtain ⟨tombol, htombol, h⟩ := h
  unfold tangani
  rw [Option.mem_def.mp htombol]
  dsimp only
  split
  · exact nofun
  rename_i htoken
  split
  · exact nofun
  rename_i hrole
  rcases List.mem_pair.mp ((h.resolve_left htoken).resolve_left hrole) with rfl | rfl
  · obtain ⟨hasil, hanswer⟩ := uploadBukti_answer php (u := u) q.post q.file
    intro heq
    cases (hanswer s).symm.trans heq
  · have hrun : ((dispatch php q u .warga "profil_edit").run exec s).1 = _ :=
      congrArg Prod.fst (run_profilEdit php u .warga q.salt q.post s)
    rw [hrun]
    split <;> exact nofun

theorem keluaran_same (kalender : Kalender) {l : Latar} (hlevel : l.level = .warga) {db db' : Db}
    {hasil : Hasil} (h : pageRefused .warga (q.query.get? "p") = true ∨ ∀ p, hasil ≠ .halaman p) :
    db.keluaran kalender php q l hasil = db'.keluaran kalender php q l hasil := by
  cases hasil with
  | halaman pesan =>
    have hrefused := h.resolve_right fun h => h pesan rfl
    simp only [Db.keluaran, hlevel, hrefused, if_true]
  | _ => rfl

end Handlers

/-! ## The list of residents -/

section Templates
variable (kalender : Kalender) {l : Latar} (v : Variabel) {db db' : Db} {x : Login}

theorem length_meterFormNodes (warga : List (String × Option String)) (dw : String × Option String)
    (riwayat : Riwayat) :
    (Markup.render (meterFormNodes l v warga riwayat)).length <
      (Markup.render (meterFormNodes l v (warga ++ [dw]) riwayat)).length := by
  have hopsi : 0 < (Markup.render (opsiWarga l.php v dw)).length := by
    simp [opsiWarga, opsi, elemen, Node.render, renderTag]
  simp only [meterFormNodes, elemen, List.flatMap_append, List.flatMap_singleton, render_append,
    render_cons, List.length_append]
  omega

theorem variabel_warga (php : Php) (q : Request) (db : Db)
    (hallowed : pageRefused .warga (q.query.get? "p") = false)
    (hedit : q.tombol ≠ some "meter_edit") : db.variabel php q = variabelPost php q := by
  unfold Db.variabel
  split
  · rename_i hp
    rw [hp] at hallowed
    cases hallowed
  · rename_i hp
    rw [hp] at hallowed
    cases hallowed
  · rename_i hp
    rw [hp] at hallowed
    cases hallowed
  · exact if_neg hedit

theorem length_halaman_warga (hlevel : l.level = .warga) (hsama : SamaBagi l.actor db db')
    (hpemakaian : db'.pemakaian = db.pemakaian) (hrows : db'.login.rows = db.login.rows ++ [x])
    (hx : x.level = .warga) :
    (Markup.render (db.halaman kalender l v)).length <
      (Markup.render (db'.halaman kalender l v)).length := by
  have hwarga : Select.daftarWarga.jawab _ db' =
      Select.daftarWarga.jawab _ db ++ [(x.username, x.nama)] := by
    simp [Select.jawab, Db.warga, hrows, hx]
  have hriwayat : (Select.dataLastMeter l.now).jawab _ db' =
      (Select.dataLastMeter l.now).jawab _ db := by
    simp only [Select.jawab, dataLastMeter, hpemakaian]
  have hprofil : (Select.profil l.actor).jawab _ db' = (Select.profil l.actor).jawab _ db := by
    simp only [Select.jawab, hsama.akun]
  have hisi : db'.isiWarga l = db.isiWarga l := by
    simp only [Db.isiWarga, Select.jawab, hsama.pemakaian]
  have hform := length_meterFormNodes (l := l) v (Select.daftarWarga.jawab _ db)
    (x.username, x.nama) ((Select.dataLastMeter l.now).jawab _ db)
  have hlain (db : Db) : db.isiUser l = [] ∧ db.isiTarif l = [] ∧ db.isiMeter l = [] ∧
      db.isiLog kalender l = [] := by
    simp [Db.isiUser, Db.isiTarif, Db.isiMeter, Db.isiLog, hlevel]
  unfold Db.halaman
  rw [hwarga, hriwayat, hprofil, hisi]
  simp only [hlain, render_append, List.length_append]
  omega

end Templates

/-! ## The request -/

section Request
variable (naskah : Naskah) (kalender : Kalender) (php : Php) {w : World} {q : Request} {u : String}
  {db' : Db}

theorem akun_warga (hwarga : w.db.levelOf (some u) = some .warga) :
    ∃ a, w.db.akun u = some a ∧ a.level = .warga := by
  simpa [Db.levelOf] using hwarga

theorem kiriman_open {a : Login} (huser : (w.session q.sid).user = some u)
    (hnamed : isEmpty (some u) = false) (hactive : idle (w.session q.sid) q.clock.time = false)
    (hakun : w.db.akun u = some a) :
    let out := (tangani php q u a.level (w.csrfToken q)).run exec (w.opened q)
    kiriman naskah kalender php w q = out.1.map fun hasil => (render a.level q hasil,
      Markup.render (out.2.db.keluaran kalender php q (w.latar naskah php q a u) hasil)) := by
  unfold kiriman
  rw [(handleLoginIndexPenuh_open naskah kalender php q huser hnamed hactive hakun).1]
  dsimp only
  cases ((tangani php q u a.level (w.csrfToken q)).run exec (w.opened q)).1 <;> rfl

theorem kiriman_of_dini (huser : (w.session q.sid).user = some u)
    (hwarga : w.db.levelOf (some u) = some .warga) (hdini : BerakhirDini w q u)
    (hsama : SamaBagi u w.db db') :
    kiriman naskah kalender php (w.denganDb db') q = kiriman naskah kalender php w q := by
  have hsesi : (w.denganDb db').session = w.session := rfl
  cases hnamed : isEmpty (some u) with
  | true => simp only [kiriman, handleLoginIndexPenuh, hsesi, huser, hnamed, if_true]
  | false =>
    cases hactive : idle (w.session q.sid) q.clock.time with
    | true =>
      simp only [kiriman, handleLoginIndexPenuh, hsesi, huser, hnamed, hactive, if_true, if_false,
        Bool.false_eq_true]
    | false =>
      obtain ⟨a, hakun, hlevel⟩ := akun_warga hwarga
      have hakun' : (w.denganDb db').db.akun u = some a := hsama.akun ▸ hakun
      have hanswer : ((tangani php q u .warga (w.csrfToken q)).run exec (w.opened q)).1 =
          ((tangani php q u .warga (w.csrfToken q)).run exec ((w.denganDb db').opened q)).1 :=
        tangani_same php q (w.csrfToken q) hsama.akun
      rw [kiriman_open naskah kalender php huser hnamed hactive hakun,
        kiriman_open naskah kalender php (w := w.denganDb db') huser hnamed hactive hakun']
      have htoken : (w.denganDb db').csrfToken q = w.csrfToken q := rfl
      have hlatar : (w.denganDb db').latar naskah php q a u = w.latar naskah php q a u := rfl
      rw [hlevel, htoken, hlatar, ← hanswer]
      cases hout : ((tangani php q u .warga (w.csrfToken q)).run exec (w.opened q)).1 with
      | error galat => simp only [Except.map]
      | ok hasil =>
        have hakhir : pageRefused .warga (q.query.get? "p") = true ∨ ∀ p, hasil ≠ .halaman p := by
          simp only [BerakhirDini, hnamed, hactive, Bool.false_eq_true, false_or] at hdini
          refine hdini.imp id fun htombol p hhasil => ?_
          exact tangani_dini php q (w.csrfToken q) htombol p (hhasil ▸ hout)
        simp only [Except.map]
        rw [keluaran_same php q kalender hlevel hakhir]

theorem kiriman_ne_of_baru {x : Login} (huser : (w.session q.sid).user = some u)
    (hwarga : w.db.levelOf (some u) = some .warga) (hdini : ¬BerakhirDini w q u)
    (hsama : SamaBagi u w.db db') (hpemakaian : db'.pemakaian = w.db.pemakaian)
    (hrows : db'.login.rows = w.db.login.rows ++ [x]) (hx : x.level = .warga) :
    kiriman naskah kalender php (w.denganDb db') q ≠ kiriman naskah kalender php w q := by
  simp only [BerakhirDini, not_or, Bool.not_eq_true] at hdini
  obtain ⟨hnamed, hactive, hallowed, htombol⟩ := hdini
  obtain ⟨a, hakun, hlevel⟩ := akun_warga hwarga
  have hakun' : (w.denganDb db').db.akun u = some a := hsama.akun ▸ hakun
  have hpage : tangani php q u .warga (w.csrfToken q) = pure (.halaman none) :=
    tangani_halaman php q (w.csrfToken q) (by simpa using htombol)
  have hpage' : tangani php q u .warga ((w.denganDb db').csrfToken q) = pure (.halaman none) :=
    hpage
  have hlatar : (w.latar naskah php q a u).level = .warga := hlevel
  have hlonger := length_halaman_warga kalender (variabelPost php q) hlatar hsama hpemakaian hrows
    hx
  rw [kiriman_open naskah kalender php huser hnamed hactive hakun,
    kiriman_open naskah kalender php (w := w.denganDb db') huser hnamed hactive hakun', hlevel,
    hpage, hpage']
  intro heq
  have hedit : q.tombol ≠ some "meter_edit" := fun hq => htombol ⟨_, hq, .inr (.inl rfl)⟩
  have hrefused : pageRefused (w.latar naskah php q a u).level (q.query.get? "p") = false := by
    rw [hlatar, hallowed]
  have hlatar' : (w.denganDb db').latar naskah php q a u = w.latar naskah php q a u := rfl
  have htext := (Prod.ext_iff.mp (Except.ok.inj heq)).2
  simp only [run_pure, hlatar', Db.keluaran, hrefused, Bool.false_eq_true, if_false,
    variabel_warga php q _ hallowed hedit, Markup.render_append] at htext
  have hlength := congrArg List.length (List.append_cancel_left htext)
  have hlonger' : (Markup.render (w.db.halaman kalender (w.latar naskah php q a u)
      (variabelPost php q))).length < (Markup.render ((w.denganDb db').db.halaman kalender
      (w.latar naskah php q a u) (variabelPost php q))).length := hlonger
  exact absurd hlength (Nat.ne_of_gt hlonger')

theorem exists_warga_baru {db : Db} (hakun : (db.akun u).isSome) :
    ∃ x db', x.level = .warga ∧ SamaBagi u db db' ∧ db'.pemakaian = db.pemakaian ∧
      db'.login.rows = db.login.rows ++ [x] := by
  obtain ⟨k, hk⟩ := Infinite.exists_notMem_finset (db.login.rows.map Login.username).toFinset
  let x : Login := ⟨k, "", none, none, none, none, .warga, none, none⟩
  have hfresh : ∀ r ∈ db.login.rows, r.username ≠ x.username := by
    simpa using hk
  obtain ⟨login', -, hrows⟩ := db.login.insert_of_fresh x hfresh
  obtain ⟨a, ha⟩ := Option.isSome_iff_exists.mp hakun
  have hakun' : login'.find? u = some a := by
    rw [db.login.find?_of_rows_append hrows u, show db.login.find? u = some a from ha]
    rfl
  exact ⟨x, { db with login := login' }, rfl, ⟨ha.trans hakun'.symm, rfl⟩, rfl, hrows⟩

end Request

/-- A resident's request sends the same whatever the other accounts, the other residents'
readings, the tariffs and the logs are, exactly when it ends before the templates. -/
theorem page_isolation_iff (naskah : Naskah) (kalender : Kalender) (php : Php) (w : World)
    {q : Request} {u : String} (huser : (w.session q.sid).user = some u)
    (hwarga : w.db.levelOf (some u) = some .warga) :
    (∀ db', SamaBagi u w.db db' →
      kiriman naskah kalender php (w.denganDb db') q = kiriman naskah kalender php w q) ↔
      BerakhirDini w q u := by
  constructor
  · intro hsame
    by_contra hdini
    obtain ⟨a, hakun, -⟩ := akun_warga hwarga
    have hsome : (w.db.akun u).isSome := by rw [hakun]; rfl
    obtain ⟨x, db', hx, hsama, hpemakaian, hrows⟩ := exists_warga_baru hsome
    exact kiriman_ne_of_baru naskah kalender php huser hwarga hdini hsama hpemakaian hrows hx
      (hsame db' hsama)
  · exact fun hdini db' hsama => kiriman_of_dini naskah kalender php huser hwarga hdini hsama

def masukBudi : World := serve .decimal World.pertama (kantor ++ masuk 3 hariBuka "budi" "b")

def ani : Login := ⟨"ani", "x$a", some "Ani", none, none, none, .warga, some "RT", some "AKTIF"⟩

def denganAni : Db :=
  { masukBudi.db with login := ⟨masukBudi.db.login.rows ++ [ani], by decide +kernel⟩ }

/-- A change of the resident's own profile is answered alike in both. -/
theorem page_isolation_profil :
    kiriman Naskah.kosong ⟨fun _ => ""⟩ .decimal (masukBudi.denganDb denganAni)
        (ajukan 3 hariBuka "profil_edit" [("nama", "Budi B")]) =
      kiriman Naskah.kosong ⟨fun _ => ""⟩ .decimal masukBudi
        (ajukan 3 hariBuka "profil_edit" [("nama", "Budi B")]) := by
  suffices h : _ ∧ _ ∧ _ ∧ masukBudi.db.akun "budi" = denganAni.akun "budi" from
    (page_isolation_iff Naskah.kosong ⟨fun _ => ""⟩ .decimal masukBudi h.1 h.2.1).mpr h.2.2.1
      denganAni ⟨h.2.2.2, rfl⟩
  decide +kernel

/-- The page that budi opens lists ani. -/
theorem page_isolation_violated :
    (masukBudi.session 3).user = some "budi" ∧
      masukBudi.db.levelOf (some "budi") = some .warga ∧ SamaBagi "budi" masukBudi.db denganAni ∧
      kiriman Naskah.kosong ⟨fun _ => ""⟩ .decimal (masukBudi.denganDb denganAni)
          (Request.kirim 3 .loginIndex hariBuka []) ≠
        kiriman Naskah.kosong ⟨fun _ => ""⟩ .decimal masukBudi
          (Request.kirim 3 .loginIndex hariBuka []) := by
  obtain ⟨huser, hwarga, hdini, hakun⟩ : (masukBudi.session 3).user = some "budi" ∧
      masukBudi.db.levelOf (some "budi") = some .warga ∧
      ¬BerakhirDini masukBudi (Request.kirim 3 .loginIndex hariBuka []) "budi" ∧
      masukBudi.db.akun "budi" = denganAni.akun "budi" := by
    decide +kernel
  have hsama : SamaBagi "budi" masukBudi.db denganAni := ⟨hakun, rfl⟩
  exact ⟨huser, hwarga, hsama,
    kiriman_ne_of_baru Naskah.kosong ⟨fun _ => ""⟩ .decimal huser hwarga hdini hsama rfl rfl rfl⟩

end SistemAir
