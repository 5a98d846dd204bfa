import SistemAir.Spec.Tariffs

/-! The order of the tariff rows. The lookup by tipe takes the first active row of a
`SELECT` without an order, so the rate of an account is determined only where its tipe
has at most one active tariff. -/
namespace SistemAir

open KeyedTable StatementProgram Prog

def Db.denganTarif (db : Db) (tarif : Table Tarif.idTarif) : Db := { db with tarif := tarif }

/-- The `$kd_tarif` and the `$tagihan` meter_add and meter_edit compute. -/
def Db.tagih (db : Db) (username : Option String) (pemakaian : Decimal) : String × Decimal :=
  (db.userToIdtarif username, db.rate username * pemakaian)

/-- In any two orders of the tariff rows every account is billed the same. -/
def Db.UrutanBebas (db : Db) : Prop :=
  ∀ tarif₁ tarif₂ : Table Tarif.idTarif, tarif₁.rows.Perm db.tarif.rows →
    tarif₂.rows.Perm db.tarif.rows → ∀ a ∈ db.login.rows, ∀ pemakaian,
      (db.denganTarif tarif₁).tagih (some a.username) pemakaian =
        (db.denganTarif tarif₂).tagih (some a.username) pemakaian

/-- Two active tariffs of a tipe that an account has are the same row. -/
def Db.TarifTunggal (db : Db) : Prop :=
  ∀ a ∈ db.login.rows, ∀ t ∈ db.tarifAktif a.tipe, ∀ t' ∈ db.tarifAktif a.tipe, t = t'

instance (db : Db) : Decidable db.TarifTunggal := inferInstanceAs (Decidable (∀ _ ∈ _, _))

/-! ## One table -/

section Lookup
variable {db : Db} {tarif : Table Tarif.idTarif}

theorem tagih_freshRow (post : Form) (b : Reading) (at_ : Stamp) (no : Nat) :
    ((db.freshRow post b at_ no).kdTarif, (db.freshRow post b at_ no).tagihan) =
      db.tagih (post.get? "username") b.pemakaian := rfl

theorem tagih_editRow (php : Php) (post : Form) (b : Reading) (r : Pemakaian) :
    (db.editRow php post b r).tagihan =
      (db.tagih (db.noToUser (Db.nomor php post)) b.pemakaian).2 := rfl

theorem tarifById_of_perm (hperm : tarif.rows.Perm db.tarif.rows) (id : String) :
    (db.denganTarif tarif).tarifById id = db.tarifById id := by
  refine Option.ext fun t => ?_
  rw [tarifById_eq_some_iff, tarifById_eq_some_iff]
  exact and_congr_left' hperm.mem_iff

theorem tagih_of_perm (hperm : tarif.rows.Perm db.tarif.rows) {a : Login}
    (ha : a ∈ db.login.rows)
    (hone : ∀ t ∈ db.tarifAktif a.tipe, ∀ t' ∈ db.tarifAktif a.tipe, t = t') (pemakaian : Decimal) :
    (db.denganTarif tarif).tagih (some a.username) pemakaian =
      db.tagih (some a.username) pemakaian := by
  have hakun : db.akun a.username = some a := db.akun_eq_some_iff.mpr ⟨ha, rfl⟩
  have hakun' : (db.denganTarif tarif).akun a.username = some a := hakun
  have hhead : ((db.denganTarif tarif).tarifAktif a.tipe).head? = (db.tarifAktif a.tipe).head? :=
    Table.head?_filter_of_perm hperm hone
  have hkode : (db.denganTarif tarif).userToIdtarif (some a.username) =
      db.userToIdtarif (some a.username) := by
    simp only [Db.userToIdtarif, Option.bind_some, hakun, hakun', Db.tipeToKdtarif, hhead]
  simp only [Db.tagih, Db.rate, Db.idTarifToTarif, hkode, tarifById_of_perm hperm]

theorem exists_order {a : Login} (ha : a ∈ db.login.rows) {t : Tarif}
    (ht : t ∈ db.tarifAktif a.tipe) :
    ∃ tarif : Table Tarif.idTarif, tarif.rows.Perm db.tarif.rows ∧
      (db.denganTarif tarif).userToIdtarif (some a.username) = t.idTarif := by
  obtain ⟨tarif, hperm, hhead⟩ := Table.exists_first ht
  have hakun : (some a.username).bind (db.denganTarif tarif).akun = some a :=
    db.akun_eq_some_iff.mpr ⟨ha, rfl⟩
  exact ⟨tarif, hperm, (harga_of_head hakun hhead).2.1⟩

theorem urutanBebas_iff (db : Db) : db.UrutanBebas ↔ db.TarifTunggal := by
  constructor
  · intro h a ha t ht t' ht'
    obtain ⟨tarif, hperm, hkode⟩ := exists_order ha ht
    obtain ⟨tarif', hperm', hkode'⟩ := exists_order ha ht'
    have hsame := congrArg Prod.fst (h tarif tarif' hperm hperm' a ha 0)
    refine db.tarif.eq_of_key (mem_tarifAktif.mp ht).1 (mem_tarifAktif.mp ht').1 ?_
    exact hkode.symm.trans (hsame.trans hkode')
  · intro h tarif₁ tarif₂ hperm₁ hperm₂ a ha pemakaian
    rw [tagih_of_perm hperm₁ ha (h a ha), tagih_of_perm hperm₂ ha (h a ha)]

end Lookup

/-! ## Which requests keep it -/

inductive Memasang (php : Php) (w : World) (q : Request) (t : Tarif) : Prop
  | tambah {actor : String} {level : Level} (hauth : Authorized w q actor level "tarif_add")
      (hid : q.post.get? "id_tarif" = some t.idTarif)
      (hfresh : w.db.tarif.find? t.idTarif = none)
      (htarif : readOperand php (q.post.get? "tarif") = some t.tarif)
      (htipe : q.post.get? "tipe_tarif" = t.tipeTarif)
      (hstatus : q.post.get? "status" = t.status)
  | ubah {actor : String} {level : Level} (hauth : Authorized w q actor level "tarif_edit")
      (hid : q.post.get? "id_tarif_lama" = some t.idTarif)
      (hada : (w.db.tarif.find? t.idTarif).isSome)
      (htarif : readOperand php (q.post.get? "tarif") = some t.tarif)
      (htipe : q.post.get? "tipe_tarif" = t.tipeTarif)
      (hstatus : q.post.get? "status" = t.status)

structure Mendaftar (w : World) (q : Request) : Prop where
  page : q.page = .index
  token : tokenRefused (ensureToken (w.session q.sid).csrfTokenLogin q.token)
    (q.post.get? "csrf_token") = false
  batas : w.db.countAttempts q.ip q.clock.sql.seconds < 5
  asks : q.tombol.map strtolower = some "register_warga"
  fresh : w.db.akun (trim (orEmpty (q.post.get? "reg_username"))) = none

inductive MemberiTipe (w : World) (q : Request) (tipe : Option String) : Prop
  | tambah {actor u : String} {level : Level} (hauth : Authorized w q actor level "user_add")
      (hpost : q.post.get? "yuser" = some u) (hfresh : w.db.akun u = none)
      (htipe : q.post.get? "tipe" = tipe)
  | ubah {actor u : String} {level : Level} (hauth : Authorized w q actor level "user_edit")
      (hpost : q.post.get? "yuser" = some u) (hada : (w.db.akun u).isSome)
      (htipe : q.post.get? "tipe" = tipe)
  | daftar (h : Mendaftar w q) (htipe : q.post.get? "reg_tipe" = tipe)

/-- No request makes a second active tariff for a tipe that an account has, or gives an
account a tipe with two. -/
structure MenjagaTunggal (php : Php) (w : World) (q : Request) : Prop where
  tarif : ∀ t, Memasang php w q t → t.status = some "AKTIF" → t.tipeTarif.isSome = true →
    ∀ a ∈ w.db.login.rows, a.tipe = t.tipeTarif →
      ∀ t' ∈ w.db.tarifAktif a.tipe, t'.idTarif = t.idTarif
  tipe : ∀ tipe, MemberiTipe w q tipe →
    ∀ t ∈ w.db.tarifAktif tipe, ∀ t' ∈ w.db.tarifAktif tipe, t = t'

structure Db.Dipasang (db db' : Db) (t : Tarif) : Prop where
  login : db'.login = db.login
  ada : t ∈ db'.tarif.rows
  asal : ∀ t' ∈ db'.tarif.rows, t' = t ∨ t' ∈ db.tarif.rows
  lain : ∀ t' ∈ db.tarif.rows, t'.idTarif ≠ t.idTarif → t' ∈ db'.tarif.rows

structure Db.Diberi (db db' : Db) (tipe : Option String) : Prop where
  tarif : db'.tarif = db.tarif
  ada : ∃ a ∈ db'.login.rows, a.tipe = tipe
  asal : ∀ a ∈ db'.login.rows, a.tipe = tipe ∨ ∃ a' ∈ db.login.rows, a'.tipe = a.tipe

structure Db.Tersisa (db db' : Db) : Prop where
  tarif : ∀ t ∈ db'.tarif.rows, t ∈ db.tarif.rows
  tipe : ∀ a ∈ db'.login.rows, ∃ a' ∈ db.login.rows, a'.tipe = a.tipe

section Tables
variable {db db' : Db}

theorem tarifTunggal_dipasang {t : Tarif} (hput : db.Dipasang db' t) (h : db.TarifTunggal) :
    db'.TarifTunggal ↔
      (t.status = some "AKTIF" → t.tipeTarif.isSome = true → ∀ a ∈ db.login.rows,
        a.tipe = t.tipeTarif → ∀ t' ∈ db.tarifAktif a.tipe, t'.idTarif = t.idTarif) := by
  unfold Db.TarifTunggal
  rw [hput.login]
  constructor
  · intro h' haktif hsome a ha htipe t' ht'
    by_contra hne
    obtain ⟨hrow, hactive⟩ := mem_tarifAktif.mp ht'
    have hmem : t ∈ db'.tarifAktif a.tipe :=
      mem_tarifAktif.mpr ⟨hput.ada, hsome, htipe.symm, haktif⟩
    have hmem' : t' ∈ db'.tarifAktif a.tipe :=
      mem_tarifAktif.mpr ⟨hput.lain t' hrow hne, hactive⟩
    exact hne (congrArg Tarif.idTarif (h' a ha t' hmem' t hmem))
  · intro hpost a ha t₁ ht₁ t₂ ht₂
    -- The row put in against any other active row of the tipe.
    have hnew (t' : Tarif) (ht : t ∈ db'.tarifAktif a.tipe) (ht' : t' ∈ db'.tarifAktif a.tipe) :
        t' = t := by
      obtain ⟨hrow', hactive'⟩ := mem_tarifAktif.mp ht'
      obtain ⟨hrow, hsome, htipe, haktif⟩ := mem_tarifAktif.mp ht
      rcases hput.asal t' hrow' with rfl | hold
      · rfl
      · exact db'.tarif.eq_of_key hrow' hrow
          (hpost haktif hsome a ha htipe.symm t' (mem_tarifAktif.mpr ⟨hold, hactive'⟩))
    obtain ⟨hrow₁, hactive₁⟩ := mem_tarifAktif.mp ht₁
    obtain ⟨hrow₂, hactive₂⟩ := mem_tarifAktif.mp ht₂
    rcases hput.asal t₁ hrow₁ with rfl | hold₁
    · exact (hnew t₂ ht₁ ht₂).symm
    rcases hput.asal t₂ hrow₂ with rfl | hold₂
    · exact hnew t₁ ht₂ ht₁
    exact h a ha t₁ (mem_tarifAktif.mpr ⟨hold₁, hactive₁⟩) t₂ (mem_tarifAktif.mpr ⟨hold₂, hactive₂⟩)

theorem tarifTunggal_diberi {tipe : Option String} (hgive : db.Diberi db' tipe)
    (h : db.TarifTunggal) :
    db'.TarifTunggal ↔ ∀ t ∈ db.tarifAktif tipe, ∀ t' ∈ db.tarifAktif tipe, t = t' := by
  have hsame (tipe : Option String) : db'.tarifAktif tipe = db.tarifAktif tipe := by
    rw [Db.tarifAktif, hgive.tarif, Db.tarifAktif]
  unfold Db.TarifTunggal
  simp only [hsame]
  constructor
  · intro h'
    obtain ⟨a, ha, rfl⟩ := hgive.ada
    exact h' a ha
  · intro hpost a ha
    rcases hgive.asal a ha with rfl | ⟨a', ha', htipe⟩
    · exact hpost
    · rw [← htipe]
      exact h a' ha'

theorem tarifTunggal_tersisa (hleft : db.Tersisa db') (h : db.TarifTunggal) :
    db'.TarifTunggal := by
  intro a ha t ht t' ht'
  obtain ⟨a', ha', htipe⟩ := hleft.tipe a ha
  rw [← htipe] at ht ht'
  obtain ⟨hrow, hactive⟩ := mem_tarifAktif.mp ht
  obtain ⟨hrow', hactive'⟩ := mem_tarifAktif.mp ht'
  exact h a' ha' t (mem_tarifAktif.mpr ⟨hleft.tarif t hrow, hactive⟩) t'
    (mem_tarifAktif.mpr ⟨hleft.tarif t' hrow', hactive'⟩)

end Tables

section Step
variable {php : Php} {w : World} {q : Request} {t : Tarif} {tipe : Option String}
  {actor : String} {level : Level}

theorem dipasang_of_memasang (h : Memasang php w q t) : w.db.Dipasang (step php w q).db t := by
  cases h with
  | tambah hauth hid hfresh htarif htipe hstatus =>
    obtain ⟨tarif', hrows, hrun⟩ :=
      run_tarifAdd php _ _ q.post (w.opened q) hid hfresh htarif
    rw [htipe, hstatus] at hrows
    have hdb : (step php w q).db.login = w.db.login ∧ (step php w q).db.tarif = tarif' := by
      rw [db_of_authorized hauth, dispatch, hrun]
      exact ⟨rfl, rfl⟩
    constructor
    · exact hdb.1
    · rw [hdb.2, hrows]
      exact List.mem_append_right _ (List.mem_singleton_self t)
    · intro t' ht'
      rw [hdb.2, hrows] at ht'
      exact (List.mem_append.mp ht').symm.imp List.mem_singleton.mp id
    · intro t' ht' _
      rw [hdb.2, hrows]
      exact List.mem_append_left _ ht'
  | ubah hauth hid hada htarif htipe hstatus =>
    obtain ⟨r, hr⟩ := Option.isSome_iff_exists.mp hada
    obtain ⟨hrow, hkey⟩ := w.db.tarif.find?_eq_some_iff.mp hr
    have hset : Tarif.set (q.post.get? "tipe_tarif") t.tarif (q.post.get? "status") r = t := by
      rw [htipe, hstatus, Tarif.set, hkey]
    have hp (r' : Tarif) : sqlEq (some r'.idTarif) (q.post.get? "id_tarif_lama") = true ↔
        r'.idTarif = t.idTarif := by
      rw [hid]
      simp
    obtain ⟨entries, hdb⟩ := tarifEdit_db hauth htarif
    constructor
    · rw [hdb]
      rfl
    · rw [hdb]
      refine List.mem_map.mpr ⟨r, hrow, ?_⟩
      rw [if_pos ((hp r).mpr hkey), hset]
    · intro t' ht'
      rw [hdb] at ht'
      obtain ⟨r', hr', rfl⟩ := List.mem_map.mp ht'
      split
      · rename_i hedited
        rw [w.db.tarif.eq_of_key hr' hrow (((hp r').mp hedited).trans hkey.symm), hset]
        exact .inl rfl
      · exact .inr hr'
    · intro t' ht' hne
      rw [hdb]
      exact List.mem_map.mpr ⟨t', ht', if_neg fun hedited => hne ((hp t').mp hedited)⟩

theorem diberi_of_append {db db' : Db} {login' : Table Login.username} {a : Login}
    (htarif : db'.tarif = db.tarif) (hlogin : db'.login = login')
    (hrows : login'.rows = db.login.rows ++ [a]) (htipe : a.tipe = tipe) : db.Diberi db' tipe := by
  subst hlogin htipe
  refine ⟨htarif, ⟨a, ?_, rfl⟩, fun a' ha' => ?_⟩
  · rw [hrows]
    exact List.mem_append_right _ (List.mem_singleton_self a)
  · rw [hrows] at ha'
    rcases List.mem_append.mp ha' with hold | hnew
    · exact .inr ⟨a', hold, rfl⟩
    · rw [List.mem_singleton.mp hnew]
      exact .inl rfl

theorem diberi_ubahUser (php : Php) (salt : String) {post : Form} {u : String} {db : Db}
    (hpost : post.get? "yuser" = some u) (hada : (db.akun u).isSome) :
    db.Diberi (db.ubahUser php post salt) (post.get? "tipe") := by
  obtain ⟨a, ha⟩ := Option.isSome_iff_exists.mp hada
  obtain ⟨hrow, hname⟩ := db.akun_eq_some_iff.mp ha
  refine ⟨rfl, ⟨Login.edited php salt post a, List.mem_map.mpr ⟨a, hrow, ?_⟩, rfl⟩, fun a' ha' => ?_⟩
  · refine if_pos ?_
    rw [sqlEq_iff, hpost, hname]
    exact ⟨rfl, rfl⟩
  · obtain ⟨r, hr, rfl⟩ := List.mem_map.mp ha'
    split
    · exact .inl rfl
    · exact .inr ⟨r, hr, rfl⟩

theorem index_mendaftar (php : Php) (h : Mendaftar w q) :
    (step php w q).server = ((registerWarga php q.salt q.post).run exec (w.opened q)).2 := by
  obtain ⟨tombol, htombol, hasks⟩ := Option.map_eq_some_iff.mp h.asks
  have hrun : (index php q (ensureToken (w.session q.sid).csrfTokenLogin q.token)).run exec
      (w.opened q) = (registerWarga php q.salt q.post).run exec (w.opened q) := by
    unfold index
    rw [perform_bind, run_call_ok exec rfl, htombol]
    dsimp only
    have hlimit : ¬5 ≤ (w.opened q).db.countAttempts q.ip (w.opened q).clock.sql.seconds :=
      Nat.not_le.mpr h.batas
    rw [h.token, if_neg Bool.false_ne_true, if_neg hlimit, hasks, if_neg (by decide), if_pos rfl]
  simp only [step, handle, h.page, handleIndex]
  exact congrArg Prod.snd hrun

theorem diberi_of_memberiTipe (h : MemberiTipe w q tipe) :
    w.db.Diberi (step php w q).db tipe := by
  cases h with
  | tambah hauth hpost hfresh htipe =>
    obtain ⟨login', hrows, hrun⟩ :=
      run_userAdd php _ _ q.salt q.post (w.opened q) hpost hfresh
    rw [db_of_authorized hauth, dispatch, hrun]
    exact diberi_of_append rfl rfl hrows htipe
  | ubah hauth hpost hada htipe =>
    obtain ⟨entries, hdb⟩ := userEdit_db php hauth
    obtain ⟨htarif, hthere, hfrom⟩ := diberi_ubahUser php q.salt hpost hada
    rw [hdb, ← htipe]
    exact ⟨htarif, hthere, hfrom⟩
  | daftar h htipe =>
    obtain ⟨login', hrows, hrun⟩ := run_registerWarga php (w.opened q) q.salt q.post h.fresh
    have hdb := congrArg Server.db (index_mendaftar php h)
    rw [hrun] at hdb
    have htarif := congrArg Db.tarif hdb
    have hlogin := congrArg Db.login hdb
    exact diberi_of_append htarif hlogin hrows htipe

theorem Db.Tersisa.same (db : Db) : db.Tersisa db :=
  ⟨fun _ ht => ht, fun a ha => ⟨a, ha, rfl⟩⟩

theorem index_tanpa_daftar (php : Php) (hpage : q.page = .index) (hnot : ¬Mendaftar w q) :
    (step php w q).db.login = w.db.login ∧ (step php w q).db.tarif = w.db.tarif := by
  simp only [step, handle, hpage, handleIndex]
  change ((index php q _).run exec (w.opened q)).2.db.login = w.db.login ∧
    ((index php q _).run exec (w.opened q)).2.db.tarif = w.db.tarif
  unfold index
  rw [perform_bind, run_call_ok exec rfl]
  cases htombol : q.tombol with
  | none => exact ⟨rfl, rfl⟩
  | some tombol =>
    dsimp only
    split
    · exact ⟨rfl, rfl⟩
    rename_i htoken
    split
    · exact ⟨rfl, rfl⟩
    rename_i hlimit
    split
    · rcases run_login php (w.opened q) q.ip q.post with hrun | hrun
      · rw [hrun]
        exact ⟨rfl, rfl⟩
      · rw [hrun]
        exact ⟨rfl, rfl⟩
    split
    · rename_i hasks
      cases ha : w.db.akun (trim (orEmpty (q.post.get? "reg_username"))) with
      | some a =>
        rw [run_registerWarga_taken php (w.opened q) q.salt q.post ha]
        exact ⟨rfl, rfl⟩
      | none =>
        refine absurd ⟨hpage, Bool.not_eq_true _ ▸ htoken, Nat.not_le.mp hlimit, ?_, ha⟩ hnot
        rw [htombol, Option.map_some, hasks]
    · exact ⟨rfl, rfl⟩

theorem tarifAdd_gagal (hauth : Authorized w q actor level "tarif_add")
    (hnot : ¬∃ t, Memasang php w q t) : (step php w q).db = w.db := by
  rw [db_of_authorized hauth, dispatch]
  cases hfound : (q.post.get? "id_tarif").bind (w.opened q).db.tarif.find? with
  | some t =>
    obtain ⟨id, hid, ht⟩ := Option.bind_eq_some_iff.mp hfound
    rw [run_tarifAdd_taken php actor level q.post (w.opened q) hid ht]
    rfl
  | none =>
    by_cases hbad : readOperand php (q.post.get? "tarif") = none ∨ q.post.get? "id_tarif" = none
    · obtain ⟨galat, hrun⟩ := run_tarifAdd_rejected php actor level q.post (w.opened q) hfound hbad
      rw [hrun]
      rfl
    · rw [not_or] at hbad
      obtain ⟨tarif, htarif⟩ := Option.ne_none_iff_exists'.mp hbad.1
      obtain ⟨id, hid⟩ := Option.ne_none_iff_exists'.mp hbad.2
      have hfresh : w.db.tarif.find? id = none := by simpa [hid] using hfound
      exact absurd ⟨⟨id, _, tarif, _⟩, .tambah hauth hid hfresh htarif rfl rfl⟩ hnot

theorem tarifEdit_gagal (hauth : Authorized w q actor level "tarif_edit")
    (hnot : ¬∃ t, Memasang php w q t) : w.db.Tersisa (step php w q).db := by
  cases htarif : readOperand php (q.post.get? "tarif") with
  | none =>
    rw [db_of_authorized hauth, dispatch,
      run_tarifEdit_rejected php actor level q.post (w.opened q) htarif]
    exact .same w.db
  | some tarif =>
    obtain ⟨entries, hdb⟩ := tarifEdit_db hauth htarif
    rw [hdb]
    refine ⟨fun t ht => ?_, fun a ha => ⟨a, ha, rfl⟩⟩
    obtain ⟨r, hr, rfl⟩ := List.mem_map.mp ht
    split
    · rename_i hedited
      have hid := (sqlEq_iff.mp hedited).2.symm
      have hada : (w.db.tarif.find? r.idTarif).isSome := by
        rw [w.db.tarif.find?_of_mem hr]
        rfl
      exact absurd ⟨Tarif.set _ tarif _ r, .ubah hauth hid hada htarif rfl rfl⟩ hnot
    · exact hr

theorem tersisa_ubahUser (hauth : Authorized w q actor level "user_edit")
    (hnot : ¬∃ tipe, MemberiTipe w q tipe) : w.db.Tersisa (w.db.ubahUser php q.post q.salt) := by
  refine ⟨fun t ht => ht, fun a ha => ?_⟩
  obtain ⟨r, hr, rfl⟩ := List.mem_map.mp ha
  split
  · rename_i hedited
    have hname := (sqlEq_iff.mp hedited).2.symm
    have hada : (w.db.akun r.username).isSome := by
      rw [Db.akun, w.db.login.find?_of_mem hr]
      rfl
    exact absurd ⟨_, .ubah hauth hname hada rfl⟩ hnot
  · exact ⟨r, hr, rfl⟩

theorem tersisa_step (htarif : ¬∃ t, Memasang php w q t)
    (htipe : ¬∃ tipe, MemberiTipe w q tipe) : w.db.Tersisa (step php w q).db := by
  rcases step_db_cases php w q with hsame | ⟨hpage, -⟩ | ⟨actor, level, tombol, hauth, hleaves⟩
  · rw [hsame]
    exact .same w.db
  · obtain ⟨hlogin, htable⟩ := index_tanpa_daftar php hpage fun h => htipe ⟨_, .daftar h rfl⟩
    constructor
    · rw [htable]
      exact fun _ ht => ht
    · rw [hlogin]
      exact fun a ha => ⟨a, ha, rfl⟩
  by_cases hadd : tombol = "tarif_add"
  · subst hadd
    rw [tarifAdd_gagal hauth htarif]
    exact .same w.db
  by_cases hedit : tombol = "tarif_edit"
  · subst hedit
    exact tarifEdit_gagal hauth htarif
  obtain ⟨core, entries, hchange, hdb, -⟩ := hleaves
  rw [hdb]
  suffices h : w.db.Tersisa core from ⟨h.tarif, h.tipe⟩
  cases hchange with
  | same => exact .same w.db
  | userAdded htombol hpost hfresh hrows =>
    subst htombol
    exact absurd ⟨_, .tambah hauth hpost hfresh rfl⟩ htipe
  | userEdited htombol =>
    subst htombol
    exact tersisa_ubahUser hauth htipe
  | userRemoved =>
    exact ⟨fun _ ht => ht, fun a ha => ⟨a, List.mem_of_mem_filter ha, rfl⟩⟩
  | tarifAdded htombol => exact absurd htombol hadd
  | tarifEdited htombol => exact absurd htombol hedit
  | tarifRemoved =>
    exact ⟨fun _ ht => List.mem_of_mem_filter ht, fun a ha => ⟨a, ha, rfl⟩⟩
  | meterAdded | meterEdited | meterRemoved | buktiUpdated =>
    exact ⟨fun _ ht => ht, fun a ha => ⟨a, ha, rfl⟩⟩
  | profilEdited =>
    refine ⟨fun _ ht => ht, fun a ha => ?_⟩
    obtain ⟨r, hr, rfl⟩ := List.mem_map.mp ha
    refine ⟨r, hr, ?_⟩
    split <;> rfl

theorem not_memberiTipe (hpage : q.page = .loginIndex)
    (hasks : q.tombol = some "tarif_add" ∨ q.tombol = some "tarif_edit") :
    ¬MemberiTipe w q tipe := by
  intro h
  cases h with
  | tambah hauth | ubah hauth =>
    rw [hauth.asks] at hasks
    exact absurd hasks (by decide)
  | daftar h => exact absurd (hpage.symm.trans h.page) (by decide)

theorem Memasang.not_memberiTipe (h : Memasang php w q t) : ¬MemberiTipe w q tipe := by
  cases h with
  | tambah hauth => exact SistemAir.not_memberiTipe hauth.page (.inl hauth.asks)
  | ubah hauth => exact SistemAir.not_memberiTipe hauth.page (.inr hauth.asks)

theorem tarifTunggal_step (h : w.db.TarifTunggal) :
    (step php w q).db.TarifTunggal ↔ MenjagaTunggal php w q := by
  by_cases htarif : ∃ t, Memasang php w q t
  · obtain ⟨t, ht⟩ := htarif
    constructor
    · intro h'
      refine ⟨fun t' ht' => ?_, fun tipe hgive => absurd hgive ht.not_memberiTipe⟩
      exact (tarifTunggal_dipasang (dipasang_of_memasang ht') h).mp h'
    · intro hgood
      exact (tarifTunggal_dipasang (dipasang_of_memasang ht) h).mpr (hgood.tarif t ht)
  by_cases htipe : ∃ tipe, MemberiTipe w q tipe
  · obtain ⟨tipe, hgive⟩ := htipe
    constructor
    · intro h'
      refine ⟨fun t ht => absurd ⟨t, ht⟩ htarif, fun tipe' hgive' => ?_⟩
      exact (tarifTunggal_diberi (diberi_of_memberiTipe hgive') h).mp h'
    · intro hgood
      exact (tarifTunggal_diberi (diberi_of_memberiTipe hgive) h).mpr (hgood.tipe tipe hgive)
  · exact iff_of_true (tarifTunggal_tersisa (tersisa_step htarif htipe) h)
      ⟨fun t ht => absurd ⟨t, ht⟩ htarif, fun tipe hgive => absurd ⟨tipe, hgive⟩ htipe⟩

end Step

/-- Over every run: the order of the tariff rows makes no difference to any account's
bill exactly when no request makes a second active tariff for a tipe that is in use. -/
theorem tariff_order_iff (php : Php) {w : World} (hw : w.db.UrutanBebas) (qs : List Request) :
    Trace.Always (fun w => w.db.UrutanBebas) (step php) w qs ↔
      Trace.Admissible (MenjagaTunggal php) (step php) w qs := by
  refine Trace.always_iff_of_step (fun w q hI => ?_) qs hw
  rw [urutanBebas_iff, tarifTunggal_step ((urutanBebas_iff w.db).mp hI)]

/-- The office replaces its one tariff: out of use first, then the new one. -/
theorem tariff_order_kantor :
    Trace.Always (fun w => w.db.UrutanBebas) (step .decimal)
      (serve .decimal World.pertama kantor) gantiTarif := by
  have hw : (serve .decimal World.pertama kantor).db.UrutanBebas :=
    (urutanBebas_iff _).mpr (by decide +kernel)
  refine (tariff_order_iff .decimal hw _).mpr ⟨⟨?_, ?_⟩, ⟨?_, ?_⟩, trivial⟩
  · intro t ht haktif
    cases ht with
    | tambah hauth => exact absurd hauth.asks (by decide)
    | ubah _ _ _ _ _ hstatus =>
      rw [← hstatus] at haktif
      exact absurd haktif (by decide)
  · exact fun _ hgive => absurd hgive (not_memberiTipe rfl (.inr rfl))
  · have hnone : let db := (serve .decimal World.pertama (kantor ++ [gantiTarif[0]])).db
        ∀ a ∈ db.login.rows, db.tarifAktif a.tipe = [] := by decide +kernel
    rw [serve_concat] at hnone
    intro t ht _ _ a ha _ t' ht'
    have hempty := hnone a ha
    exact absurd ht' (hempty ▸ List.not_mem_nil)
  · exact fun _ hgive => absurd hgive (not_memberiTipe rfl (.inl rfl))

def tarifKedua : Request :=
  ajukan 2 hariBuka "tarif_add"
    [("id_tarif", "T2"), ("tipe_tarif", "RT"), ("tarif", "2000"), ("status", "AKTIF")]

/-- Ten units cost budi 10000 under T1 or 20000 under T2, as the rows come. -/
theorem tariff_order_violated :
    let db := (serve .decimal World.pertama (kantor ++ [tarifKedua])).db
    World.pertama.db.UrutanBebas ∧ ¬db.UrutanBebas ∧
      db.tagih (some "budi") 10 = ("T1", 10000) ∧
      ∃ tarif : Table Tarif.idTarif, tarif.rows.Perm db.tarif.rows ∧
        (db.denganTarif tarif).tagih (some "budi") 10 = ("T2", 20000) := by
  refine ⟨(urutanBebas_iff _).mpr (by decide), fun h => ?_, by decide +kernel, ?_⟩
  · exact absurd ((urutanBebas_iff _).mp h) (by decide +kernel)
  · generalize hdb : (serve .decimal World.pertama (kantor ++ [tarifKedua])).db = db
    refine ⟨⟨db.tarif.rows.reverse, ?_⟩, List.reverse_perm _, ?_⟩
    · rw [List.map_reverse]
      exact List.nodup_reverse.mpr db.tarif.nodup
    · subst hdb
      decide +kernel

end SistemAir
