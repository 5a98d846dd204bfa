import SistemAir.Spec.Change

/-! Who can write what. Rows are compared under their keys, before and after one
request of an arbitrary run. -/
namespace SistemAir

open KeyedTable StatementProgram Prog

/-- A POST to login/index.php for one of `aksi`, of a session whose user is
stored with one of `levels` when it arrives. -/
def PostedBy (w : World) (q : Request) (levels : List Level) (aksi : List String) : Prop :=
  q.page = .loginIndex ∧ ∃ actor a tombol, (w.session q.sid).user = some actor ∧
    w.db.akun actor = some a ∧ a.level ∈ levels ∧ q.tombol = some tombol ∧ tombol ∈ aksi

def PostedAs (w : World) (q : Request) (u : String) (aksi : String) : Prop :=
  q.page = .loginIndex ∧ (w.session q.sid).user = some u ∧ q.tombol = some aksi

def Registers (q : Request) : Prop :=
  q.page = .index ∧ q.tombol.map strtolower = some "register_warga"

def Pemakaian.tanpaBukti (r : Pemakaian) : Pemakaian := { r with buktiBayar := none }

def Db.bill (db : Db) (no : Nat) : Option Pemakaian :=
  (db.pemakaian.find? no).map Pemakaian.tanpaBukti

/-- The columns of an account that only an admin assigns. -/
def Login.hak (a : Login) : Level × Option String × Option String := (a.level, a.tipe, a.status)

def Login.profil (a : Login) :
    String × Option String × Option String × Option String × Option String :=
  (a.password, a.nama, a.alamat, a.kota, a.tlp)

/-- Every table change of the request `q` from `w` to `w'` is one its sender may make. -/
structure Confined (w : World) (q : Request) (w' : World) : Prop where
  tarif : w'.db.tarif ≠ w.db.tarif →
    PostedBy w q [.admin, .bendahara] ["tarif_add", "tarif_edit", "tarif_hapus"]
  pemakaian : ∀ no, w'.db.bill no ≠ w.db.bill no →
    PostedBy w q [.admin, .bendahara, .petugas] ["meter_add", "meter_edit", "meter_hapus"] ∨
      PostedBy w q [.admin] ["user_hapus"]
  bukti : ∀ no r r', w.db.pemakaian.find? no = some r → w'.db.pemakaian.find? no = some r' →
    r'.buktiBayar ≠ r.buktiBayar → ∃ u, r.username = some u ∧ PostedAs w q u "upload_bukti"
  deleted : ∀ u a, w.db.akun u = some a → w'.db.akun u = none →
    PostedBy w q [.admin] ["user_add", "user_edit", "user_hapus"]
  inserted : ∀ u a', w.db.akun u = none → w'.db.akun u = some a' →
    PostedBy w q [.admin] ["user_add", "user_edit", "user_hapus"] ∨
      (Registers q ∧ a'.level = .warga)
  hak : ∀ u a a', w.db.akun u = some a → w'.db.akun u = some a' → a'.hak ≠ a.hak →
    PostedBy w q [.admin] ["user_add", "user_edit", "user_hapus"]
  profil : ∀ u a a', w.db.akun u = some a → w'.db.akun u = some a' → a'.profil ≠ a.profil →
    PostedBy w q [.admin] ["user_add", "user_edit", "user_hapus"] ∨
      PostedAs w q u "profil_edit"
  auditLog : ∃ entries, w'.db.auditLog = w.db.auditLog ++ entries ∧
    (entries ≠ [] → q.page = .loginIndex)
  loginAttempts : ∃ entries, w'.db.loginAttempts = w.db.loginAttempts ++ entries ∧
    (entries ≠ [] → q.page = .index ∧ q.tombol.map strtolower = some "login")

/-! ## The tables a handler can reach -/

section Change
variable {php : Php} {q : Request} {actor tombol : String} {level : Level} {db db' : Db}

theorem Change.tarif_eq (h : Change php q actor level tombol db db') :
    db'.tarif = db.tarif ∨ tombol ∈ aksiAdminBendahara := by
  cases h with
  | tarifAdded htombol | tarifEdited htombol | tarifRemoved htombol =>
    subst htombol
    exact .inr (by decide)
  | _ => exact .inl rfl

theorem Change.bill_eq (h : Change php q actor level tombol db db') :
    (∀ no, db'.bill no = db.bill no) ∨ tombol ∈ aksiPencatatMeter ∨ tombol = "user_hapus" := by
  cases h with
  | userRemoved htombol => exact .inr (.inr htombol)
  | meterAdded htombol | meterEdited htombol | meterRemoved htombol =>
    subst htombol
    exact .inr (.inl (by decide))
  | buktiUpdated htombol bukti n =>
    refine .inl fun no => ?_
    have hfind := db.pemakaian.find?_update
      (fun r => Pemakaian.hasNo (some n) r && sqlEq r.username (some actor))
      (Pemakaian.setBukti bukti) (fun _ => rfl) no
    unfold Db.bill
    refine (congrArg (Option.map Pemakaian.tanpaBukti) hfind).trans ?_
    rw [Option.map_map]
    refine congrArg (fun f => (db.pemakaian.find? no).map f) (funext fun r => ?_)
    simp only [Function.comp_apply]
    split <;> rfl
  | _ => exact .inl fun _ => rfl

theorem Change.bukti_eq (h : Change php q actor level tombol db db') {no : Nat}
    {r r' : Pemakaian} (hr : db.pemakaian.find? no = some r)
    (hr' : db'.pemakaian.find? no = some r') :
    r'.buktiBayar = r.buktiBayar ∨ (tombol = "upload_bukti" ∧ r.username = some actor) := by
  cases h with
  | userRemoved =>
    refine .inl ?_
    have hfind := (db.pemakaian.find?_delete
      (fun r => sqlEq r.username (q.post.get? "yuser")) no).symm.trans hr'
    rw [hr] at hfind
    exact congrArg Pemakaian.buktiBayar
      (Option.some.inj (Option.filter_eq_some_iff.mp hfind).1).symm
  | meterAdded htombol hpost hmonth hpos =>
    refine .inl ?_
    have hfind := (db.pemakaian.find?_of_rows_append (db.rows_catatMeter q.post _ _) no).symm.trans
      hr'
    rw [hr, Option.some_or, Option.some.injEq] at hfind
    rw [hfind]
  | meterEdited htombol hpost hopen hpos =>
    refine .inl ?_
    have hfind := (db.pemakaian.find?_update _ (db.editRow php q.post _) (fun _ => rfl) no).symm.trans
      hr'
    rw [hr, Option.map_some, Option.some.injEq] at hfind
    rw [← hfind]
    split <;> rfl
  | meterRemoved htombol hopen =>
    refine .inl ?_
    have hfind := (db.pemakaian.find?_delete _ no).symm.trans hr'
    rw [hr] at hfind
    exact congrArg Pemakaian.buktiBayar
      (Option.some.inj (Option.filter_eq_some_iff.mp hfind).1).symm
  | buktiUpdated htombol bukti n =>
    have hfind := (db.pemakaian.find?_update _ (Pemakaian.setBukti bukti) (fun _ => rfl) no).symm.trans
      hr'
    rw [hr, Option.map_some, Option.some.injEq] at hfind
    rw [← hfind]
    split
    · rename_i hp
      simp only [Bool.and_eq_true, sqlEq_iff] at hp
      exact .inr ⟨htombol, hp.2.2⟩
    · exact .inl rfl
  | _ => exact .inl (congrArg Pemakaian.buktiBayar (Option.some.inj (hr'.symm.trans hr)))

theorem Change.login_eq (h : Change php q actor level tombol db db') :
    db'.login = db.login ∨ tombol ∈ aksiAdminSaja ∨
      (tombol = "profil_edit" ∧ db' = db.ubahProfil php q.post q.salt actor) := by
  cases h with
  | userAdded htombol | userEdited htombol | userRemoved htombol =>
    subst htombol
    exact .inr (.inl (by decide))
  | profilEdited htombol => exact .inr (.inr ⟨htombol, rfl⟩)
  | _ => exact .inl rfl

theorem akun_ubahProfil (salt u : String) (post : Form) :
    (db.ubahProfil php post salt actor).akun u =
      (db.akun u).map fun a => if a.username = actor then a.profiled php salt post else a := by
  have hfind := db.login.find?_update (fun r => r.username = actor)
    (Login.profiled php salt post) (fun _ => rfl) u
  simp only [decide_eq_true_eq] at hfind
  exact hfind

end Change

/-! ## The senders -/

section Sender
variable {php : Php} {w : World} {q : Request} {actor tombol : String} {level : Level}

theorem postedBy_of_authorized (h : Authorized w q actor level tombol) {levels : List Level}
    {aksi : List String} (hlevel : level ∈ levels) (htombol : tombol ∈ aksi) :
    PostedBy w q levels aksi := by
  obtain ⟨a, ha, rfl⟩ := Option.map_eq_some_iff.mp h.hasLevel
  exact ⟨h.page, actor, a, tombol, h.user, ha, hlevel, h.asks, htombol⟩

theorem postedBy_admin (h : Authorized w q actor level tombol) (ht : tombol ∈ aksiAdminSaja)
    {aksi : List String} (htombol : tombol ∈ aksi) : PostedBy w q [.admin] aksi :=
  postedBy_of_authorized h (by simp [admin_of_role h.role ht]) htombol

theorem confined_of_same {w' : World} (h : w'.db = w.db) : Confined w q w' where
  tarif hne := absurd (congrArg Db.tarif h) hne
  pemakaian no hne := absurd (congrArg (Db.bill · no) h) hne
  bukti no r r' hr hr' hne := by
    rw [h, hr, Option.some.injEq] at hr'
    exact absurd (congrArg Pemakaian.buktiBayar hr'.symm) hne
  deleted u a ha ha' := by rw [h, ha] at ha'; cases ha'
  inserted u a' ha ha' := by rw [h, ha] at ha'; cases ha'
  hak u a a' ha ha' hne := by
    rw [h, ha, Option.some.injEq] at ha'
    exact absurd (congrArg Login.hak ha'.symm) hne
  profil u a a' ha ha' hne := by
    rw [h, ha, Option.some.injEq] at ha'
    exact absurd (congrArg Login.profil ha'.symm) hne
  auditLog := ⟨[], by simp [h], by simp⟩
  loginAttempts := ⟨[], by simp [h], by simp⟩

theorem confined_of_index {w' : World} (hpage : q.page = .index)
    (h : IndexChange php q w.db w'.db) : Confined w q w' := by
  generalize hdb : w'.db = db' at h
  cases h with
  | same => exact confined_of_same hdb
  | attempt hasks =>
    have hsame : Confined w q w := confined_of_same rfl
    constructor
    case loginAttempts => exact ⟨[_], by rw [hdb]; rfl, fun _ => ⟨hpage, hasks⟩⟩
    all_goals rw [hdb]
    case tarif => exact hsame.tarif
    case pemakaian => exact hsame.pemakaian
    case bukti => exact hsame.bukti
    case deleted => exact hsame.deleted
    case inserted => exact hsame.inserted
    case hak => exact hsame.hak
    case profil => exact hsame.profil
    case auditLog => exact hsame.auditLog
  | registered hasks hfresh hrows =>
    have hsame : Confined w q w := confined_of_same rfl
    have hfind := fun u => w.db.login.find?_of_rows_append hrows u
    have hstays : ∀ {u a}, w.db.akun u = some a → w'.db.akun u = some a := by
      intro u a ha
      rw [hdb]
      refine (hfind u).trans ?_
      rw [show w.db.login.find? u = some a from ha, Option.some_or]
    constructor
    case tarif => rw [hdb]; exact hsame.tarif
    case pemakaian => rw [hdb]; exact hsame.pemakaian
    case bukti => rw [hdb]; exact hsame.bukti
    case auditLog => rw [hdb]; exact hsame.auditLog
    case loginAttempts => rw [hdb]; exact hsame.loginAttempts
    case deleted =>
      intro u a ha ha'
      rw [hstays ha] at ha'
      cases ha'
    case inserted =>
      intro u a' ha ha'
      rw [hdb] at ha'
      have hnew := (hfind u).symm.trans ha'
      rw [show w.db.login.find? u = none from ha, Option.none_or] at hnew
      split at hnew
      · cases hnew
        exact .inr ⟨⟨hpage, hasks⟩, rfl⟩
      · cases hnew
    case hak =>
      intro u a a' ha ha' hne
      rw [hstays ha, Option.some.injEq] at ha'
      exact absurd (congrArg Login.hak ha'.symm) hne
    case profil =>
      intro u a a' ha ha' hne
      rw [hstays ha, Option.some.injEq] at ha'
      exact absurd (congrArg Login.profil ha'.symm) hne

theorem confined_of_leaves {w' : World} (hauth : Authorized w q actor level tombol)
    (h : Leaves php q actor level tombol w.db w'.db) : Confined w q w' := by
  obtain ⟨core, entries, hchange, hdb, -⟩ := h
  have hakun : ∀ u, w'.db.akun u = core.akun u := by
    intro u
    rw [hdb]
    rfl
  -- The login table first: admins, the owner of the row, or nobody.
  have hlogin : (∀ u, w'.db.akun u = w.db.akun u) ∨
      PostedBy w q [.admin] ["user_add", "user_edit", "user_hapus"] ∨
      (tombol = "profil_edit" ∧ ∀ u, w'.db.akun u = (w.db.akun u).map fun a =>
        if a.username = actor then a.profiled php q.salt q.post else a) := by
    rcases hchange.login_eq with hsame | hadmin | ⟨hprofil, hcore⟩
    · refine .inl fun u => ?_
      rw [hakun, Db.akun, hsame, Db.akun]
    · exact .inr (.inl (postedBy_admin hauth hadmin hadmin))
    · refine .inr (.inr ⟨hprofil, fun u => ?_⟩)
      rw [hakun, hcore, akun_ubahProfil]
  constructor
  case tarif =>
    intro hne
    rw [hdb, Db.logs_tarif] at hne
    rcases hchange.tarif_eq with hsame | htombol
    · exact absurd hsame hne
    · refine postedBy_of_authorized hauth ?_ htombol
      rcases bendahara_of_role hauth.role htombol with rfl | rfl <;> decide
  case pemakaian =>
    intro no hne
    have hbill : w'.db.bill no = core.bill no := by
      rw [hdb]
      rfl
    rw [hbill] at hne
    rcases hchange.bill_eq with hsame | htombol | rfl
    · exact absurd (hsame no) hne
    · refine .inl (postedBy_of_authorized hauth ?_ htombol)
      rcases pencatat_of_role hauth.role htombol with rfl | rfl | rfl <;> decide
    · exact .inr (postedBy_admin hauth (by decide) (by decide))
  case bukti =>
    intro no r r' hr hr' hne
    rw [hdb] at hr'
    rcases hchange.bukti_eq hr hr' with hsame | ⟨rfl, howner⟩
    · exact absurd hsame hne
    · exact ⟨actor, howner, hauth.page, hauth.user, hauth.asks⟩
  case deleted =>
    intro u a ha ha'
    rcases hlogin with hsame | hadmin | ⟨-, hprofil⟩
    · rw [hsame, ha] at ha'
      cases ha'
    · exact hadmin
    · rw [hprofil, ha] at ha'
      cases ha'
  case inserted =>
    intro u a' ha ha'
    rcases hlogin with hsame | hadmin | ⟨-, hprofil⟩
    · rw [hsame, ha] at ha'
      cases ha'
    · exact .inl hadmin
    · rw [hprofil, ha] at ha'
      cases ha'
  case hak =>
    intro u a a' ha ha' hne
    rcases hlogin with hsame | hadmin | ⟨-, hprofil⟩
    · rw [hsame, ha, Option.some.injEq] at ha'
      exact absurd (congrArg Login.hak ha'.symm) hne
    · exact hadmin
    · rw [hprofil, ha, Option.map_some, Option.some.injEq] at ha'
      refine absurd ?_ hne
      rw [← ha']
      split <;> rfl
  case profil =>
    intro u a a' ha ha' hne
    rcases hlogin with hsame | hadmin | ⟨rfl, hprofil⟩
    · rw [hsame, ha, Option.some.injEq] at ha'
      exact absurd (congrArg Login.profil ha'.symm) hne
    · exact .inl hadmin
    · rw [hprofil, ha, Option.map_some, Option.some.injEq] at ha'
      have hname := ((w.db.akun_eq_some_iff).mp ha).2
      by_cases hown : a.username = actor
      · rw [hname] at hown
        subst hown
        exact .inr ⟨hauth.page, hauth.user, hauth.asks⟩
      · rw [if_neg hown] at ha'
        exact absurd (congrArg Login.profil ha'.symm) hne
  case auditLog =>
    refine ⟨entries, ?_, fun _ => hauth.page⟩
    rw [hdb, Db.logs_auditLog, hchange.auditLog]
  case loginAttempts =>
    refine ⟨[], ?_, by simp⟩
    rw [hdb, Db.logs_loginAttempts, hchange.loginAttempts, List.append_nil]

end Sender

theorem step_confined (php : Php) (w : World) (q : Request) : Confined w q (step php w q) := by
  rcases step_db_cases php w q with hsame | ⟨hpage, h⟩ | ⟨actor, level, tombol, hauth, h⟩
  · exact confined_of_same hsame
  · exact confined_of_index hpage h
  · exact confined_of_leaves hauth h

/-- Every request of every run, from any tables and any sessions, is confined. -/
theorem writes_confined (php : Php) (w₀ : World) (qs : List Request) (q : Request) :
    Confined (serve php w₀ qs) q (serve php w₀ (qs ++ [q])) := by
  rw [serve_concat]
  exact step_confined php _ q

end SistemAir
