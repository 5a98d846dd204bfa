import SistemAir.Spec.Change
import SistemAir.Spec.Sessions

/-! Passwords between the forms that store them and the login that checks them. -/
namespace SistemAir

open KeyedTable StatementProgram Prog

/-! ## An account and the login form -/

def Hasil.userMasuk : Hasil → Bool
  | .halaman pesan | .halamanDitolak pesan => pesan = some .userMasuk
  | _ => false

/-- A request that reports that it stored the account `u`, for the username and the
password typed into its form. -/
inductive Membuat (php : Php) (w : World) (q : Request) (ketik sandi : String) : String → Prop
  | register (hpage : q.page = .index) (hasks : q.tombol.map strtolower = some "register_warga")
      (huser : q.post.get? "reg_username" = some ketik)
      (hsandi : q.post.get? "reg_password" = some sandi)
      (hberhasil : (handle php w q).1 = .ok (.index (.halaman (some .pendaftaranBerhasil)))) :
      Membuat php w q ketik sandi (trim ketik)
  | userAdd (hpage : q.page = .loginIndex) (hasks : q.tombol = some "user_add")
      (huser : q.post.get? "yuser" = some ketik) (hsandi : q.post.get? "passwet" = some sandi)
      {hasil : Hasil} (hanswer : (handle php w q).1 = .ok (.loginIndex hasil))
      (hberhasil : hasil.userMasuk = true) : Membuat php w q ketik sandi ketik

/-- The login form with this username and password, from a client that is not rate limited. -/
structure MengetikLogin (w : World) (q : Request) (ketik sandi : String) : Prop where
  page : q.page = .index
  asks : q.tombol.map strtolower = some "login"
  user : q.post.get? "username" = some ketik
  sandi : q.post.get? "password" = some sandi
  token : tokenRefused (w.csrfTokenLogin q) (q.post.get? "csrf_token") = false
  limit : ¬5 ≤ w.db.countAttempts q.ip q.clock.sql.seconds

/-- The login opens the session as `u`, and login/index.php takes it for a login. -/
def MasukSebagai (php : Php) (w : World) (q : Request) (u : String) : Prop :=
  masukSebagai (handle php w q).1 = some u ∧
    isEmpty ((step php w q).session q.sid).user = false

theorem userMasuk_render (level : Level) (q : Request) (hasil : Hasil) :
    (render level q hasil).userMasuk = hasil.userMasuk := by
  cases hasil with
  | halaman pesan =>
    simp only [render]
    split <;> rfl
  | _ => rfl

section Accounts
variable {php : Php} {w : World} {q : Request} {ketik sandi u : String}

theorem Membuat.akun (h : Membuat php w q ketik sandi u) :
    ∃ a, (step php w q).db.akun u = some a ∧ a.password = php.passwordHash q.salt sandi := by
  cases h with
  | register hpage hasks huser hsandi hberhasil =>
    obtain ⟨hanswer, hserver⟩ := handle_of_index php (w := w) hpage
    rw [hanswer] at hberhasil
    rcases run_index_register php (w.opened q) (w.csrfTokenLogin q) hasks with
      ⟨-, pesan, hpesan, hrun⟩ | ⟨-, login', hrows, hrun⟩
    · rw [hrun] at hberhasil
      cases hberhasil
      exact absurd rfl hpesan
    · refine ⟨Login.registered php q.salt q.post, ?_, by simp [Login.registered, hsandi, orEmpty]⟩
      have hname : (Login.registered php q.salt q.post).username = trim ketik := by
        simp [Login.registered, huser, orEmpty]
      rw [World.db, hserver, hrun, ← hname]
      exact login'.find?_of_mem (by rw [hrows]; simp)
  | @userAdd hpage hasks huser hsandi hasil hanswer hberhasil =>
    rcases loginIndex_cases php (w := w) hpage with
      ⟨hasil', hpenjaga, hanswer', -⟩ | ⟨actor, level, tombol, hauth⟩
    · rw [hanswer'] at hanswer
      cases hanswer
      cases hasil with
      | halaman pesan | halamanDitolak pesan =>
        obtain rfl : pesan = some .userMasuk := by simpa [Hasil.userMasuk] using hberhasil
        cases hpenjaga
      | _ => cases hberhasil
    · obtain rfl : tombol = "user_add" := Option.some.inj (hauth.asks.symm.trans hasks)
      rw [(handle_of_authorized php hauth).1, dispatch] at hanswer
      rw [db_of_authorized hauth, dispatch]
      cases hakun : (w.opened q).db.akun ketik with
      | some a =>
        rw [run_userAdd_taken php actor level q.salt q.post (w.opened q) huser hakun] at hanswer
        cases hanswer
        rw [userMasuk_render] at hberhasil
        cases hberhasil
      | none =>
        obtain ⟨login', hrows, hrun⟩ :=
          run_userAdd php actor level q.salt q.post (w.opened q) huser hakun
        rw [hrun]
        refine ⟨Login.posted php q.salt q.post ketik, ?_, by simp [Login.posted, hsandi, orEmpty]⟩
        exact login'.find?_of_mem (r := Login.posted php q.salt q.post ketik) (by rw [hrows]; simp)

theorem MengetikLogin.masuk_iff (php : Php) (h : MengetikLogin w q ketik sandi) :
    masukSebagai (handle php w q).1 = some u ↔
      trim ketik = u ∧ ∃ a ∈ w.db.akun u, php.passwordVerify sandi a.password = true := by
  obtain ⟨tombol, htombol, hlower⟩ := Option.map_eq_some_iff.mp h.asks
  have hlimit : ¬5 ≤ (w.opened q).db.countAttempts q.ip (w.opened q).clock.sql.seconds := h.limit
  have hrun : (index php q (w.csrfTokenLogin q)).run exec (w.opened q) =
      (login php q.ip q.post).run exec (w.opened q) := by
    rw [run_index, htombol]
    dsimp only
    rw [if_neg (by rw [h.token]; decide), if_neg hlimit, if_pos hlower]
  have hlogin := run_login_masuk_iff php (w.opened q) q.ip q.post u
  rw [h.user, h.sandi, World.opened_db] at hlogin
  rw [(handle_of_index php h.page).1, hrun]
  refine Iff.trans ?_ hlogin
  cases ((login php q.ip q.post).run exec (w.opened q)).1 with
  | error galat => exact iff_of_false nofun nofun
  | ok hasil =>
    cases hasil with
    | halaman pesan => exact iff_of_false nofun nofun
    | masuk v => simp [masukSebagai, Except.map]

end Accounts

/-- In every later state that has the account unchanged, the same username and password log
in as exactly that account if and only if its name is the typed one without the blanks
around it, and one that empty() does not count as missing. -/
theorem account_login_iff (php : Php) {w : World} {q : Request} {ketik sandi u : String}
    (h : Membuat php w q ketik sandi u) (qs : List Request)
    (hakun : (serve php (step php w q) qs).db.akun u = (step php w q).db.akun u) {q' : Request}
    (hlogin : MengetikLogin (serve php (step php w q) qs) q' ketik sandi)
    (hverify : php.passwordVerify sandi (php.passwordHash q.salt sandi) = true) :
    MasukSebagai php (serve php (step php w q) qs) q' u ↔
      trim ketik = u ∧ isEmpty (some u) = false := by
  obtain ⟨a, ha, hsandi⟩ := h.akun
  have hcocok : ∃ a ∈ (serve php (step php w q) qs).db.akun u,
      php.passwordVerify sandi a.password = true := ⟨a, hakun.trans ha, by rw [hsandi, hverify]⟩
  constructor
  · rintro ⟨hmasuk, hnamed⟩
    rw [(session_masuk php hmasuk).1] at hnamed
    exact ⟨((hlogin.masuk_iff php).mp hmasuk).1, hnamed⟩
  · rintro ⟨htrim, hnamed⟩
    have hmasuk := (hlogin.masuk_iff php).mpr ⟨htrim, hcocok⟩
    refine ⟨hmasuk, ?_⟩
    rw [(session_masuk php hmasuk).1]
    exact hnamed

def tambahAkun (ketik : String) : Request :=
  ajukan 0 hariBuka "user_add" [("yuser", ketik), ("passwet", "a"), ("level", "warga")]

def cobaMasuk (ketik : String) : Request :=
  Request.kirim 3 .index hariBuka
    [("csrf_token", "7f3a"), ("username", ketik), ("password", "a"), ("tombol", "login")]

def kantorAdmin : World := serve .decimal World.pertama (masuk 0 hariBuka "admin" "rahasia")

def bukaFormulir : List Request := [Request.kirim 3 .index hariBuka []]

theorem account_login_ani :
    MasukSebagai .decimal (serve .decimal (step .decimal kantorAdmin (tambahAkun "ani")) bukaFormulir)
      (cobaMasuk "ani") "ani" := by
  suffices h : (handle .decimal kantorAdmin (tambahAkun "ani")).1 =
        .ok (.loginIndex (.halaman (some .userMasuk))) ∧
      (serve .decimal (step .decimal kantorAdmin (tambahAkun "ani")) bukaFormulir).db.akun "ani" =
        (step .decimal kantorAdmin (tambahAkun "ani")).db.akun "ani" ∧
      tokenRefused ((serve .decimal (step .decimal kantorAdmin (tambahAkun "ani"))
        bukaFormulir).csrfTokenLogin (cobaMasuk "ani")) ((cobaMasuk "ani").post.get? "csrf_token") =
          false by
    obtain ⟨hanswer, hakun, htoken⟩ := h
    have hmembuat : Membuat .decimal kantorAdmin (tambahAkun "ani") "ani" "a" "ani" :=
      .userAdd rfl (by decide) (by decide) (by decide) hanswer rfl
    exact (account_login_iff .decimal hmembuat bukaFormulir hakun
      ⟨rfl, by decide, by decide, by decide, htoken, by decide +kernel⟩ (by decide)).mpr (by decide)
  decide +kernel

/-- A blank before the username: user_add stores it, the login drops it. -/
theorem account_login_blank :
    let w := step .decimal kantorAdmin (tambahAkun " ani")
    let w' := serve .decimal w bukaFormulir
    Membuat .decimal kantorAdmin (tambahAkun " ani") " ani" "a" " ani" ∧
      w'.db.akun " ani" = w.db.akun " ani" ∧ MengetikLogin w' (cobaMasuk " ani") " ani" "a" ∧
      Php.decimal.passwordVerify "a" (Php.decimal.passwordHash (tambahAkun " ani").salt "a") = true ∧
      (handle .decimal w' (cobaMasuk " ani")).1 =
        .ok (.index (.halaman (some .usernameTidakAda))) ∧
      ¬MasukSebagai .decimal w' (cobaMasuk " ani") " ani" := by
  intro w w'
  suffices h : (handle .decimal kantorAdmin (tambahAkun " ani")).1 =
        .ok (.loginIndex (.halaman (some .userMasuk))) ∧ w'.db.akun " ani" = w.db.akun " ani" ∧
      tokenRefused (w'.csrfTokenLogin (cobaMasuk " ani"))
        ((cobaMasuk " ani").post.get? "csrf_token") = false ∧
      (handle .decimal w' (cobaMasuk " ani")).1 =
        .ok (.index (.halaman (some .usernameTidakAda))) by
    obtain ⟨hanswer, hakun, htoken, hgagal⟩ := h
    refine ⟨.userAdd rfl (by decide) (by decide) (by decide) hanswer rfl, hakun,
      ⟨rfl, by decide, by decide, by decide, htoken, by decide +kernel⟩, by decide, hgagal, ?_⟩
    rintro ⟨hmasuk, -⟩
    rw [hgagal] at hmasuk
    cases hmasuk
  decide +kernel

/-! ## A password change -/

inductive MengubahAkun (w : World) (q : Request) (u : String) : Prop
  | userEdit {actor : String} {level : Level} (hauth : Authorized w q actor level "user_edit")
      (hpost : q.post.get? "yuser" = some u)
  | profilEdit {level : Level} (hauth : Authorized w q u level "profil_edit")

/-- For the salts that are drawn, password_verify accepts exactly the hashed password. -/
def Php.Cocok (php : Php) (garam : Set String) : Prop :=
  ∀ salt ∈ garam, ∀ sandi coba : String,
    php.passwordVerify coba (php.passwordHash salt sandi) = true ↔ coba = sandi

def Db.SandiDiHash (db : Db) (php : Php) (garam : Set String) : Prop :=
  ∀ a ∈ db.login.rows, ∃ salt ∈ garam, ∃ sandi, a.password = php.passwordHash salt sandi

/-- The new password is accepted, and of the passwords accepted before no other is. -/
def SandiBerlaku (php : Php) (sandi : String) (lama baru : Login) : Prop :=
  php.passwordVerify sandi baru.password = true ∧
    ∀ coba, php.passwordVerify coba lama.password = true →
      php.passwordVerify coba baru.password = true → coba = sandi

section Passwords
variable {php : Php} {w : World} {q : Request} {u : String} {a : Login} {garam : Set String}

theorem MengubahAkun.akun (php : Php) (h : MengubahAkun w q u) (ha : w.db.akun u = some a) :
    ∃ a', (step php w q).db.akun u = some a' ∧
      a'.password = (newPassword php q.salt (q.post.get? "passwet")).getD a.password := by
  have hname := ((w.db.akun_eq_some_iff).mp ha).2
  cases h with
  | userEdit hauth hpost =>
    obtain ⟨entries, hdb⟩ := userEdit_db php hauth
    refine ⟨Login.edited php q.salt q.post a, ?_, rfl⟩
    have hfind := w.db.login.find?_update (fun r => sqlEq (some r.username) (q.post.get? "yuser"))
      (Login.edited php q.salt q.post) (fun _ => rfl) u
    rw [show w.db.login.find? u = some a from ha, Option.map_some,
      if_pos (by simp [sqlEq, hname, hpost])] at hfind
    rw [hdb]
    exact hfind
  | profilEdit hauth =>
    obtain ⟨entries, hdb⟩ := profilEdit_db php hauth
    refine ⟨Login.profiled php q.salt q.post a, ?_, rfl⟩
    have hfind := w.db.login.find?_update (fun r => r.username = u)
      (Login.profiled php q.salt q.post) (fun _ => rfl) u
    rw [show w.db.login.find? u = some a from ha, Option.map_some, if_pos (by simp [hname])] at hfind
    rw [hdb]
    exact hfind

theorem sandiDiHash_newPassword (hsalt : q.salt ∈ garam) {sandi : String} (pass : Option String)
    (h : ∃ salt ∈ garam, ∃ lama, sandi = php.passwordHash salt lama) :
    ∃ salt ∈ garam, ∃ baru, (newPassword php q.salt pass).getD sandi = php.passwordHash salt baru := by
  unfold newPassword
  split
  · exact h
  · exact ⟨q.salt, hsalt, _, rfl⟩

theorem sandiDiHash_step (h : w.db.SandiDiHash php garam) (hsalt : q.salt ∈ garam) :
    (step php w q).db.SandiDiHash php garam := by
  have happend {login' : Table Login.username} {r : Login}
      (hrows : login'.rows = w.db.login.rows ++ [r])
      (hr : ∃ sandi, r.password = php.passwordHash q.salt sandi) :
      ∀ a ∈ login'.rows, ∃ salt ∈ garam, ∃ sandi, a.password = php.passwordHash salt sandi := by
    intro a ha
    rw [hrows] at ha
    rcases List.mem_append.mp ha with ha | ha
    · exact h a ha
    · rw [List.mem_singleton.mp ha]
      exact ⟨q.salt, hsalt, hr⟩
  have hmap {p : Login → Bool} {f : Login → Login}
      (hf : ∀ a, (f a).password =
        (newPassword php q.salt (q.post.get? "passwet")).getD a.password) :
      ∀ a ∈ w.db.login.rows.map (fun r => if p r then f r else r),
        ∃ salt ∈ garam, ∃ sandi, a.password = php.passwordHash salt sandi := by
    intro a ha
    obtain ⟨r, hr, rfl⟩ := List.mem_map.mp ha
    split
    · rw [hf]
      exact sandiDiHash_newPassword hsalt _ (h r hr)
    · exact h r hr
  rcases step_db_cases php w q with hsame | ⟨-, hindex⟩ | ⟨actor, level, tombol, -, hleaves⟩
  · rw [hsame]
    exact h
  · generalize (step php w q).db = db' at hindex
    cases hindex with
    | same => exact h
    | attempt => exact h
    | registered _ _ hrows => exact happend hrows ⟨_, rfl⟩
  · obtain ⟨core, entries, hchange, hdb, -⟩ := hleaves
    rw [hdb]
    cases hchange with
    | userAdded _ _ _ hrows => exact happend hrows ⟨_, rfl⟩
    | userEdited => exact hmap fun _ => rfl
    | profilEdited => exact hmap fun _ => rfl
    | userRemoved => exact fun a ha => h a (List.mem_of_mem_filter ha)
    | _ => exact h

theorem sandiDiHash_serve {w₀ : World} (h : w₀.db.SandiDiHash php garam) {qs : List Request}
    (hsalt : ∀ q ∈ qs, q.salt ∈ garam) : (serve php w₀ qs).db.SandiDiHash php garam := by
  have hrun : Trace.Admissible (fun _ q => q.salt ∈ garam) (step php) w₀ qs :=
    Trace.admissible_of_forall_mem fun q hq _ => hsalt q hq
  exact (Trace.always_of_admissible (I := fun w : World => w.db.SandiDiHash php garam)
    (fun _ _ hw hq => sandiDiHash_step hw hq) hrun h).last

end Passwords

/-- In every reachable state: an empty password leaves the column alone, another one is in
force exactly where it is not the text "0" or was "0" already. -/
theorem password_change_iff (php : Php) {garam : Set String} (hcocok : php.Cocok garam) {w₀ : World}
    (hawal : w₀.db.SandiDiHash php garam) {qs : List Request} (hsalt : ∀ q ∈ qs, q.salt ∈ garam)
    {q : Request} (hbaru : q.salt ∈ garam) {u sandi : String}
    (h : MengubahAkun (serve php w₀ qs) q u) (hpost : q.post.get? "passwet" = some sandi)
    {a : Login} (ha : (serve php w₀ qs).db.akun u = some a) :
    ∃ a', (step php (serve php w₀ qs) q).db.akun u = some a' ∧
      (sandi = "" → a'.password = a.password) ∧
      (sandi ≠ "" → (SandiBerlaku php sandi a a' ↔
        sandi ≠ "0" ∨ php.passwordVerify "0" a.password = true)) := by
  obtain ⟨a', ha', hkolom⟩ := h.akun php ha
  obtain ⟨salt, hmem, lama, hlama⟩ := sandiDiHash_serve hawal hsalt a
    ((Db.akun_eq_some_iff _).mp ha).1
  rw [hpost] at hkolom
  refine ⟨a', ha', ?_, fun hisi => ?_⟩
  · rintro rfl
    exact hkolom
  · by_cases hnol : sandi = "0"
    · subst hnol
      have hsama : a'.password = a.password := hkolom
      unfold SandiBerlaku
      rw [hsama, hlama, hcocok salt hmem]
      constructor
      · exact fun hberlaku => .inr hberlaku.1
      · rintro (hbeda | rfl)
        · exact absurd rfl hbeda
        · exact ⟨rfl, fun coba hcoba _ => (hcocok salt hmem _ _).mp hcoba⟩
    · have hhash : a'.password = php.passwordHash q.salt sandi := by
        rw [hkolom]
        simp [newPassword, isEmpty, hisi, hnol, orEmpty]
      unfold SandiBerlaku
      rw [hhash]
      refine iff_of_true ⟨?_, fun coba _ hcoba => ?_⟩ (.inl hnol)
      · exact (hcocok q.salt hbaru _ _).mpr rfl
      · exact (hcocok q.salt hbaru _ _).mp hcoba

theorem cocok_decimal : Php.decimal.Cocok {salt | '$' ∉ salt.toList} := by
  intro salt hsalt sandi coba
  have hdrop : (salt ++ "$" ++ sandi).toList.dropWhile (· ≠ '$') = '$' :: sandi.toList := by
    simp only [String.toList_append, List.append_assoc]
    have hbeda : ∀ c ∈ salt.toList, decide (c ≠ '$') = true := by
      rintro c hc
      exact decide_eq_true fun h : c = '$' => hsalt (h ▸ hc)
    rw [List.dropWhile_append_of_pos hbeda]
    rfl
  simp only [Php.decimal, hdrop, List.drop_one, List.tail_cons, decide_eq_true_eq]
  rw [String.toList_inj, eq_comm]

def gantiSandi (sandi : String) : Request :=
  ajukan 1 hariBuka "profil_edit" [("nama", "Joko"), ("passwet", sandi)]

def akunJoko : Login :=
  { username := "joko"
    password := "x$j"
    nama := some "Joko"
    alamat := none
    kota := none
    tlp := none
    level := .petugas
    tipe := none
    status := some "AKTIF" }

theorem password_change_joko :
    ∃ a', (step .decimal (serve .decimal World.pertama kantor) (gantiSandi "baru")).db.akun "joko" =
      some a' ∧ SandiBerlaku .decimal "baru" akunJoko a' := by
  have hawal : World.pertama.db.SandiDiHash .decimal {salt | '$' ∉ salt.toList} := by
    intro a ha
    rw [List.mem_singleton.mp ha]
    exact ⟨"x", by decide, "rahasia", rfl⟩
  have hsalt : ∀ q ∈ kantor, '$' ∉ q.salt.toList := by decide
  suffices h : Authorized (serve .decimal World.pertama kantor) (gantiSandi "baru") "joko" .petugas
        "profil_edit" ∧ (serve .decimal World.pertama kantor).db.akun "joko" = some akunJoko by
    have hpost : (gantiSandi "baru").post.get? "passwet" = some "baru" := by decide
    obtain ⟨a', ha', -, hberlaku⟩ := password_change_iff .decimal cocok_decimal hawal hsalt
      (q := gantiSandi "baru") (by decide) (.profilEdit h.1) hpost h.2
    exact ⟨a', ha', (hberlaku (by decide)).mpr (.inl (by decide))⟩
  decide +kernel

/-- The new password "0" is taken for an empty field: the old one stays. -/
theorem password_change_zero :
    let w := serve .decimal World.pertama kantor
    MengubahAkun w (gantiSandi "0") "joko" ∧ w.db.akun "joko" = some akunJoko ∧
      (step .decimal w (gantiSandi "0")).db.akun "joko" = some akunJoko ∧
      ¬SandiBerlaku .decimal "0" akunJoko akunJoko := by
  intro w
  suffices h : Authorized w (gantiSandi "0") "joko" .petugas "profil_edit" ∧
      w.db.akun "joko" = some akunJoko ∧
      (step .decimal w (gantiSandi "0")).db.akun "joko" = some akunJoko by
    refine ⟨.profilEdit h.1, h.2.1, h.2.2, fun hberlaku => absurd hberlaku.1 (by decide)⟩
  decide +kernel

end SistemAir
