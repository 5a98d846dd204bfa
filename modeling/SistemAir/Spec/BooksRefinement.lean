import SistemAir.Library.Lookup
import SistemAir.Library.Refinement
import SistemAir.Spec.Books
import SistemAir.Spec.MonthlyClocks
import SistemAir.Spec.Tariffs

/-! The tables are the books: through the accounts, the tariffs and the readings of a
resident in a month, every request is a step of the books. -/
namespace SistemAir

open KeyedTable Lookup Refinement StatementProgram Prog

/-! ## The books in the tables -/

/-- The resident and the month a reading is filed under; without a resident it is in no
book. -/
def Pemakaian.kunci (r : Pemakaian) : Option (String × Bulan) :=
  r.username.map fun u => (u, r.tgl.bulan)

def Pemakaian.isi (r : Pemakaian) : Tagihan :=
  { meterAwal := r.meterAwal
    meterAkhir := r.meterAkhir
    saat := r.stamp
    kdTarif := r.kdTarif
    jumlah := r.tagihan
    status := r.status
    buktiBayar := r.buktiBayar }

def Db.buku (db : Db) : Buku where
  akun := db.akun
  tarif := db.tarif.find?
  tagihan := Option.map Pemakaian.isi ∘ lookup Pemakaian.kunci db.pemakaian.rows

/-- The tables are in order: one reading for a resident and a month, each with the volume
its two readings say. -/
structure Db.Teratur (db : Db) : Prop where
  satu : SatuPerBulan db
  sound : ∀ r ∈ db.pemakaian.rows, r.Sound

def World.pelaku (w : World) (q : Request) : Option String :=
  if q.page = .loginIndex then (w.session q.sid).user else none

def World.label (w : World) (q : Request) : Label := ⟨q.clock, w.pelaku q⟩

theorem kunci_eq_some_iff {r : Pemakaian} {u : String} {b : Bulan} :
    r.kunci = some (u, b) ↔ r.username = some u ∧ r.tgl.bulan = b := by
  simp [Pemakaian.kunci]

theorem unique_kunci {db : Db} (h : SatuPerBulan db) :
    Unique Pemakaian.kunci db.pemakaian.rows := by
  rintro r hr r' hr' ⟨u, b⟩ hk hk'
  obtain ⟨hu, hb⟩ := kunci_eq_some_iff.mp hk
  obtain ⟨hu', hb'⟩ := kunci_eq_some_iff.mp hk'
  obtain ⟨hyear, hmonth⟩ := Date.bulan_eq_iff.mp (hb'.trans hb.symm)
  exact (h r hr r' hr' (by rw [hu]; rfl) (hu'.trans hu.symm) hmonth hyear).symm

section Tables
variable {α : Type} {key : α → String} (table : Table key) {p : α → Bool} {f : α → α} {k : String}

theorem find?_update_of_none (hf : ∀ r, key (f r) = key r) (hp : ∀ r ∈ table.rows, p r = false) :
    (table.update p f hf).find? = table.find? := by
  funext k'
  rw [table.find?_update]
  cases hr : table.find? k' with
  | none => rfl
  | some r =>
    obtain ⟨hmem, -⟩ := table.find?_eq_some_iff.mp hr
    rw [Option.map_some, hp r hmem]
    rfl

theorem find?_update_of_some (hf : ∀ r, key (f r) = key r) (hp : ∀ r, p r = true ↔ key r = k)
    {r : α} (hk : table.find? k = some r) :
    (table.update p f hf).find? = Function.update table.find? k (some (f r)) := by
  obtain ⟨-, hkey⟩ := table.find?_eq_some_iff.mp hk
  funext k'
  rw [table.find?_update]
  by_cases h : k' = k
  · subst h
    rw [hk, Function.update_self, Option.map_some, if_pos ((hp r).mpr hkey)]
  · rw [Function.update_of_ne h]
    cases hr : table.find? k' with
    | none => rfl
    | some r' =>
      obtain ⟨-, rfl⟩ := table.find?_eq_some_iff.mp hr
      rw [Option.map_some, if_neg (fun hpr => h ((hp r').mp hpr))]

theorem find?_delete_of_key (hp : ∀ r, p r = true ↔ key r = k) :
    (table.delete p).find? = Function.update table.find? k none := by
  funext k'
  rw [table.find?_delete]
  by_cases h : k' = k
  · subst h
    rw [Function.update_self]
    cases hr : table.find? k' with
    | none => rfl
    | some r => simp [Option.filter, (hp r).mpr (table.find?_eq_some_iff.mp hr).2]
  · rw [Function.update_of_ne h]
    cases hr : table.find? k' with
    | none => rfl
    | some r =>
      obtain ⟨-, rfl⟩ := table.find?_eq_some_iff.mp hr
      have hkept : p r = false := Bool.eq_false_of_not_eq_true fun hpr => h ((hp r).mp hpr)
      simp [Option.filter, hkept]

theorem find?_append_of_fresh {table' : Table key} {r : α}
    (hrows : table'.rows = table.rows ++ [r]) (hfresh : table.find? (key r) = none) :
    table'.find? = Function.update table.find? (key r) (some r) := by
  funext k'
  rw [Table.find?_of_rows_append table hrows]
  by_cases h : k' = key r
  · rw [h, hfresh, if_pos rfl, Function.update_self]
    rfl
  · rw [Function.update_of_ne h, if_neg (Ne.symm h), Option.or_none]

end Tables

section Prices
variable (db : Db)

theorem tarifById_eq_filter (id : String) :
    db.tarifById id = (db.tarif.find? id).filter fun t => t.status = some "AKTIF" := by
  cases hfound : db.tarifById id with
  | some t =>
    obtain ⟨ht, rfl, haktif⟩ := tarifById_eq_some_iff.mp hfound
    rw [db.tarif.find?_of_mem ht]
    simp [Option.filter, haktif]
  | none =>
    cases hrow : db.tarif.find? id with
    | none => rfl
    | some t =>
      obtain ⟨ht, hid⟩ := db.tarif.find?_eq_some_iff.mp hrow
      have hnot : t.status ≠ some "AKTIF" := fun haktif => by
        rw [tarifById_eq_some_iff.mpr ⟨ht, hid, haktif⟩] at hfound
        cases hfound
      simp [Option.filter, hnot]

theorem harga_buku (id : String) : db.buku.harga id = db.idTarifToTarif id := by
  rw [Db.idTarifToTarif, tarifById_eq_filter]
  rfl

theorem berlaku_iff {u : String} {t : Tarif} :
    db.buku.Berlaku u t ↔ db.Prices (some u) t := by
  unfold Buku.Berlaku Db.Prices
  constructor
  · rintro ⟨ht, haktif, hsome, a, ha, htipe⟩
    exact ⟨u, a, rfl, ha, (db.tarif.find?_eq_some_iff.mp ht).1, haktif, hsome, htipe.symm⟩
  · rintro ⟨_, a, hu, ha, ht, haktif, hsome, htipe⟩
    cases hu
    exact ⟨db.tarif.find?_of_mem ht, haktif, hsome, a, ha, htipe.symm⟩

/-- The lookups of a bill go through the books. -/
theorem kode_buku (u : String) :
    db.buku.Kode u (db.userToIdtarif (some u)) ∧
      db.rate (some u) = db.buku.harga (db.userToIdtarif (some u)) := by
  refine ⟨?_, (harga_buku db _).symm⟩
  unfold Buku.Kode
  simp only [berlaku_iff]
  rcases userToIdtarif_cases db (some u) with ⟨t, ht, hid, -⟩ | ⟨hnone, hid, -⟩
  · exact .inl ⟨t, ht, hid.symm⟩
  · exact .inr ⟨hnone, hid⟩

end Prices

theorem sqlEq_none {α : Type} [DecidableEq α] (a : Option α) : sqlEq a none = false := by
  cases a <;> rfl

/-! ## The changes are steps -/

theorem Buku.Langkah.to {k k' k'' : Buku} {l : Label} (h : k.Langkah l k') (heq : k'' = k') :
    k.Langkah l k'' := by
  rw [heq]
  exact h

section Accounts
variable {db : Db} {l : Label} {login' : Table Login.username}

theorem akun_update (db : Db) (nama : Option String) {f : Login → Login}
    (hf : ∀ r, (f r).username = r.username) :
    (db.login.update (fun r => sqlEq (some r.username) nama) f hf).find? = db.akun ∨
    ∃ a, db.akun a.username = some a ∧ nama = some a.username ∧
      (db.login.update (fun r => sqlEq (some r.username) nama) f hf).find? =
        Function.update db.akun a.username (some (f a)) := by
  cases hfound : nama.bind db.akun with
  | none =>
    refine .inl (find?_update_of_none db.login hf fun r hr => ?_)
    rw [Bool.eq_false_iff, ne_eq, sqlEq_iff]
    rintro ⟨-, rfl⟩
    rw [Option.bind_some, Db.akun, db.login.find?_of_mem hr] at hfound
    cases hfound
  | some a =>
    obtain ⟨u, rfl, ha⟩ := Option.bind_eq_some_iff.mp hfound
    obtain ⟨-, rfl⟩ := db.akun_eq_some_iff.mp ha
    exact .inr ⟨a, ha, rfl, find?_update_of_some db.login hf (by simp) ha⟩

theorem akun_append {a : Login} (hrows : login'.rows = db.login.rows ++ [a])
    (hbaru : db.akun a.username = none) :
    { db with login := login' }.buku =
      { db.buku with akun := Function.update db.buku.akun a.username (some a) } :=
  congrArg (fun akun => { db.buku with akun := akun })
    (find?_append_of_fresh db.login hrows hbaru)

theorem langkah_ubahUser (php : Php) (post : Form) (salt : String)
    (hadmin : db.buku.Pangkat l.pelaku [.admin] .admin) :
    db.buku.Langkah l (db.ubahUser php post salt).buku := by
  have hto {akun : String → Option Login} (h : (db.ubahUser php post salt).login.find? = akun) :
      (db.ubahUser php post salt).buku = { db.buku with akun := akun } :=
    congrArg (fun akun => { db.buku with akun := akun }) h
  have hname (r : Login) : (Login.edited php salt post r).username = r.username := rfl
  rcases akun_update db (post.get? "yuser") hname with hsame | ⟨a, ha, -, hakun⟩
  · exact Buku.Langkah.diam.to (hto hsame)
  · exact (Buku.Langkah.ubahAkun hadmin ha (hname a)).to (hto hakun)

theorem langkah_ubahProfil (php : Php) (post : Form) (salt actor : String)
    (hactor : l.pelaku = some actor) :
    db.buku.Langkah l (db.ubahProfil php post salt actor).buku := by
  have hto {akun : String → Option Login}
      (h : (db.ubahProfil php post salt actor).login.find? = akun) :
      (db.ubahProfil php post salt actor).buku = { db.buku with akun := akun } :=
    congrArg (fun akun => { db.buku with akun := akun }) h
  have hdata (a : Login) : a.DataDiri (Login.profiled php salt post a) := ⟨rfl, rfl, rfl, rfl⟩
  have hname (a : Login) := (hdata a).username
  cases ha : db.akun actor with
  | none =>
    refine Buku.Langkah.diam.to (hto (find?_update_of_none db.login hname fun r hr => ?_))
    exact decide_eq_false (db.login.find?_eq_none_iff.mp ha r hr)
  | some a =>
    obtain ⟨-, rfl⟩ := db.akun_eq_some_iff.mp ha
    refine (Buku.Langkah.ubahDiri ha hactor (hdata a)).to (hto ?_)
    exact find?_update_of_some db.login hname (by simp) ha

theorem langkah_hapusUser (post : Form) (hsatu : SatuPerBulan db)
    (hadmin : db.buku.Pangkat l.pelaku [.admin] .admin) :
    db.buku.Langkah l (db.hapusUser post).buku := by
  cases hpost : post.get? "yuser" with
  | none =>
    have hnone : db.hapusUser post = db := by
      unfold Db.hapusUser
      rw [hpost, db.login.delete_of_filter_eq_nil _ (by simp [sqlEq]),
        db.pemakaian.delete_of_filter_eq_nil (by simp [sqlEq_none])]
    rw [hnone]
    exact .diam
  | some u =>
    have hakun : (db.hapusUser post).login.find? = Function.update db.akun u none :=
      find?_delete_of_key db.login (by simp [hpost])
    have htagihan : (db.hapusUser post).buku.tagihan =
        fun kunci => if kunci.1 = u then none else db.buku.tagihan kunci := by
      have hlookup := (unique_kunci hsatu).lookup_delete_keys (c := fun kunci => kunci.1 = u)
        (p := fun r => sqlEq r.username (post.get? "yuser")) fun r hr kunci hkunci => by
          obtain ⟨hname, -⟩ := kunci_eq_some_iff.mp hkunci
          simp [hpost, hname]
      funext kunci
      refine (congrArg (Option.map Pemakaian.isi) (congrFun hlookup kunci)).trans ?_
      rw [apply_ite (Option.map Pemakaian.isi)]
      rfl
    refine (Buku.Langkah.hapusAkun hadmin u).to ?_
    rw [← htagihan]
    exact congrArg (fun akun => { (db.hapusUser post).buku with akun := akun }) hakun

end Accounts

section Tariffs
variable {db : Db} {l : Label} {level : Level}
  (hlevel : db.buku.Pangkat l.pelaku [.admin, .bendahara] level)

include hlevel

theorem langkah_tambahTarif {tarif' : Table Tarif.idTarif} {t : Tarif}
    (hrows : tarif'.rows = db.tarif.rows ++ [t]) (hbaru : db.tarif.find? t.idTarif = none) :
    db.buku.Langkah l { db with tarif := tarif' }.buku :=
  (Buku.Langkah.tambahTarif hlevel t hbaru).to
    (congrArg (fun tarif => { db.buku with tarif := tarif })
      (find?_append_of_fresh db.tarif hrows hbaru))

theorem langkah_ubahTarif (post : Form) (tarif : Option Decimal) :
    db.buku.Langkah l (db.ubahTarif post tarif).buku := by
  have hto {buku : String → Option Tarif} (h : (db.ubahTarif post tarif).tarif.find? = buku) :
      (db.ubahTarif post tarif).buku = { db.buku with tarif := buku } :=
    congrArg (fun buku => { db.buku with tarif := buku }) h
  have hname (t : Tarif) :
      (Tarif.set (post.get? "tipe_tarif") tarif (post.get? "status") t).idTarif = t.idTarif := rfl
  cases hfound : (post.get? "id_tarif_lama").bind db.tarif.find? with
  | none =>
    refine Buku.Langkah.diam.to (hto (find?_update_of_none db.tarif hname fun r hr => ?_))
    rw [Bool.eq_false_iff, ne_eq, sqlEq_iff]
    rintro ⟨-, hid⟩
    rw [← hid, Option.bind_some, db.tarif.find?_of_mem hr] at hfound
    cases hfound
  | some t =>
    obtain ⟨id, hid, ht⟩ := Option.bind_eq_some_iff.mp hfound
    obtain ⟨-, rfl⟩ := db.tarif.find?_eq_some_iff.mp ht
    refine (Buku.Langkah.ubahTarif hlevel ht (hname t)).to (hto ?_)
    exact find?_update_of_some db.tarif hname (by simp [hid]) ht

theorem langkah_hapusTarif (post : Form) : db.buku.Langkah l (db.hapusTarif post).buku := by
  cases hpost : post.get? "id_tarif" with
  | none =>
    have hnone : db.hapusTarif post = db := by
      unfold Db.hapusTarif
      rw [hpost, db.tarif.delete_of_filter_eq_nil _ (by simp [sqlEq])]
    rw [hnone]
    exact .diam
  | some id =>
    exact (Buku.Langkah.hapusTarif hlevel id).to
      (congrArg (fun tarif => { db.buku with tarif := tarif })
        (find?_delete_of_key db.tarif (by simp [hpost])))

end Tariffs

section Bills
variable {db : Db} {l : Label} {level : Level}

theorem buku_of_lookup (db core : Db) (hlogin : core.login = db.login)
    (htarif : core.tarif = db.tarif) {tagihan : String × Bulan → Option Pemakaian}
    (h : lookup Pemakaian.kunci core.pemakaian.rows = tagihan) :
    core.buku = { db.buku with tagihan := Option.map Pemakaian.isi ∘ tagihan } := by
  have hakun : core.akun = db.akun := by
    funext u
    rw [Db.akun, hlogin]
    rfl
  rw [Db.buku, hakun, htarif, h]
  rfl

theorem buku_same (db core : Db) (hlogin : core.login = db.login) (htarif : core.tarif = db.tarif)
    (h : lookup Pemakaian.kunci core.pemakaian.rows = lookup Pemakaian.kunci db.pemakaian.rows) :
    core.buku = db.buku :=
  buku_of_lookup db core hlogin htarif h

theorem buku_of_update (db core : Db) (hlogin : core.login = db.login)
    (htarif : core.tarif = db.tarif) {kunci : String × Bulan} {r : Option Pemakaian}
    (h : lookup Pemakaian.kunci core.pemakaian.rows =
      Function.update (lookup Pemakaian.kunci db.pemakaian.rows) kunci r) :
    core.buku = { db.buku with
      tagihan := Function.update db.buku.tagihan kunci (r.map Pemakaian.isi) } := by
  rw [buku_of_lookup db core hlogin htarif h, Function.comp_update]
  rfl

theorem tagihan_buku (hsatu : SatuPerBulan db) {r : Pemakaian} (hr : r ∈ db.pemakaian.rows)
    {u : String} (hname : r.username = some u) :
    db.buku.tagihan (u, r.tgl.bulan) = some r.isi :=
  congrArg (Option.map Pemakaian.isi)
    ((unique_kunci hsatu).lookup_of_mem hr (kunci_eq_some_iff.mpr ⟨hname, rfl⟩))

theorem hasNo_iff_eq {no : Option Int} {r₀ : Pemakaian} (hr₀ : r₀ ∈ db.pemakaian.rows)
    (hno : no = some (r₀.no : Int)) {r : Pemakaian} (hr : r ∈ db.pemakaian.rows) :
    Pemakaian.hasNo no r = true ↔ r = r₀ := by
  rw [hasNo_iff, hno, Option.some.injEq, Int.ofNat_inj]
  constructor
  · intro h
    exact db.pemakaian.eq_of_key hr hr₀ h.symm
  · rintro rfl
    rfl

theorem hasNo_of_none {no : Option Int} (h : db.pemakaianByNo no = none) {r : Pemakaian}
    (hr : r ∈ db.pemakaian.rows) : Pemakaian.hasNo no r = false := by
  unfold Db.pemakaianByNo at h
  rw [List.find?_eq_none] at h
  exact Bool.eq_false_of_not_eq_true (h r hr)

theorem terbuka_of_locked {no : Option Int} {r : Pemakaian} (hfound : db.pemakaianByNo no = some r)
    {now : Clock} (h : locked level ((db.pemakaianByNo no).map Pemakaian.tgl) now = false) :
    r.isi.Terbuka level now := by
  rintro rfl
  rw [hfound] at h
  have hdays : daysSince r.tgl now.php ≤ 30 := by simpa [locked] using h
  exact hdays

def Db.tagihanBaru (db : Db) (post : Form) (u : String) (b : Reading) (at_ : Stamp) : Tagihan where
  meterAwal := b.meterAwal
  meterAkhir := b.meterAkhir
  saat := at_
  kdTarif := db.userToIdtarif (some u)
  jumlah := db.buku.harga (db.userToIdtarif (some u)) * b.pemakaian
  status := b.status (post.get? "status_bayar")
  buktiBayar := none

theorem isi_freshRow {post : Form} {u : String} (hname : post.get? "username" = some u)
    (b : Reading) (at_ : Stamp) (no : Nat) :
    (db.freshRow post b at_ no).isi = db.tagihanBaru post u b at_ := by
  unfold Db.tagihanBaru
  rw [← (kode_buku db u).2, ← hname]
  rfl

theorem kunci_freshRow (post : Form) (b : Reading) (at_ : Stamp) (no : Nat) :
    (db.freshRow post b at_ no).kunci =
      (post.get? "username").map fun u => (u, at_.date.bulan) := rfl

theorem langkah_catatMeter {q : Request} {b : Reading} (hagree : q.clock.Agree)
    (hlevel : db.buku.Pangkat l.pelaku pencatat level) (hkini : l.kini = q.clock)
    (hmonth : db.countMonth (q.post.get? "username") q.clock.php.date.month
      q.clock.php.date.year = 0) (hpos : 0 ≤ b.pemakaian) :
    db.buku.Langkah l (db.catatMeter q.post b q.clock.sql).buku := by
  cases hname : q.post.get? "username" with
  | none =>
    have hkunci : (db.freshRow q.post b q.clock.sql db.pemakaian.next).kunci = none := by
      rw [kunci_freshRow, hname, Option.map_none]
    exact Buku.Langkah.diam.to (buku_same db _ rfl rfl (lookup_append_of_none hkunci))
  | some u =>
    have hkunci : (db.freshRow q.post b q.clock.sql db.pemakaian.next).kunci =
        some (u, q.clock.sql.date.bulan) := by
      rw [kunci_freshRow, hname, Option.map_some]
    have hfree : lookup Pemakaian.kunci db.pemakaian.rows (u, q.clock.sql.date.bulan) = none := by
      rw [lookup_eq_none_iff]
      intro r hr hk
      obtain ⟨hu, hb⟩ := kunci_eq_some_iff.mp hk
      rw [Date.bulan_eq_iff] at hb
      have hnone := List.filter_eq_nil_iff.mp (List.length_eq_zero_iff.mp hmonth) r hr
      rw [show q.clock.php.date = q.clock.sql.date from hagree] at hnone
      exact hnone (by simp [Pemakaian.inMonth, hname, hu, hb.1, hb.2, Date.bulan])
    have hbuku := buku_of_update db (db.catatMeter q.post b q.clock.sql) rfl rfl
      (lookup_append_of_free hkunci hfree)
    rw [Option.map_some, isi_freshRow hname] at hbuku
    have hkosong := congrArg (Option.map Pemakaian.isi) hfree
    have hsah : (db.tagihanBaru q.post u b q.clock.sql).Sah :=
      ⟨hpos, fun hzero => Reading.status_of_eq_zero hzero _⟩
    exact Buku.Langkah.to
      (.catat hlevel u (db.tagihanBaru q.post u b q.clock.sql) hkosong
        (congrArg Clock.sql hkini).symm hsah (kode_buku db u).1 rfl rfl) hbuku

theorem langkah_ubahMeter {php : Php} {q : Request} {b : Reading} (hsatu : SatuPerBulan db)
    (hlevel : db.buku.Pangkat l.pelaku pencatat level) (hkini : l.kini = q.clock)
    (hopen : locked level ((db.pemakaianByNo (Db.nomor php q.post)).map Pemakaian.tgl) q.clock =
      false) (hpos : 0 ≤ b.pemakaian) :
    db.buku.Langkah l (db.ubahMeter php q.post b).buku := by
  have hkunci (r : Pemakaian) : (db.editRow php q.post b r).kunci = r.kunci := rfl
  cases hfound : db.pemakaianByNo (Db.nomor php q.post) with
  | none =>
    refine Buku.Langkah.diam.to
      (buku_same db _ rfl rfl (lookup_update_of_none hkunci fun r hr hno => ?_))
    rw [hasNo_of_none hfound hr] at hno
    cases hno
  | some r =>
    obtain ⟨hr, hno⟩ := mem_of_pemakaianByNo hfound
    have hone := fun r' => hasNo_iff_eq (r := r') hr hno
    cases hname : r.username with
    | none =>
      refine Buku.Langkah.diam.to
        (buku_same db _ rfl rfl (lookup_update_of_none hkunci fun r' hr' hno' => ?_))
      rw [(hone r' hr').mp hno', Pemakaian.kunci, hname]
      rfl
    | some u =>
      have hbuku := buku_of_update db (db.ubahMeter php q.post b) rfl rfl
        ((unique_kunci hsatu).lookup_update hkunci hr
        (kunci_eq_some_iff.mpr ⟨hname, rfl⟩) hone)
      refine Buku.Langkah.to (.koreksi hlevel (tagihan_buku hsatu hr hname) ?_ ?_) hbuku
      · rw [hkini]
        exact terbuka_of_locked hfound hopen
      · obtain ⟨hkode, hharga⟩ := kode_buku db u
        have howner : db.noToUser (Db.nomor php q.post) = some u := by
          rw [Db.noToUser, hfound, Option.bind_some, hname]
        refine
          { saat := rfl
            kdTarif := rfl
            buktiBayar := rfl
            sah := ⟨hpos, fun hzero => Reading.status_of_eq_zero hzero _⟩
            harga := ⟨_, hkode, ?_⟩ }
        rw [← hharga, ← howner]
        rfl

theorem langkah_hapusMeter {php : Php} {q : Request} (hsatu : SatuPerBulan db)
    (hlevel : db.buku.Pangkat l.pelaku pencatat level) (hkini : l.kini = q.clock)
    (hopen : locked level ((db.pemakaianByNo (Db.nomor php q.post)).map Pemakaian.tgl) q.clock =
      false) : db.buku.Langkah l (db.hapusMeter php q.post).buku := by
  cases hfound : db.pemakaianByNo (Db.nomor php q.post) with
  | none =>
    have hsame : db.hapusMeter php q.post = db := by
      unfold Db.hapusMeter
      rw [db.pemakaian.delete_of_filter_eq_nil]
      rw [List.length_eq_zero_iff, List.filter_eq_nil_iff]
      intro r hr
      rw [hasNo_of_none hfound hr]
      decide
    rw [hsame]
    exact .diam
  | some r =>
    obtain ⟨hr, hno⟩ := mem_of_pemakaianByNo hfound
    have hone := fun r' => hasNo_iff_eq (r := r') hr hno
    cases hname : r.username with
    | none =>
      refine Buku.Langkah.diam.to (buku_same db _ rfl rfl ?_)
      funext kunci
      refine ((unique_kunci hsatu).lookup_filter _ kunci).trans ?_
      cases hkunci : lookup Pemakaian.kunci db.pemakaian.rows kunci with
      | none => rfl
      | some r' =>
        obtain ⟨hr', hk⟩ := mem_of_lookup hkunci
        have hother : Pemakaian.hasNo (Db.nomor php q.post) r' = false := by
          rw [Bool.eq_false_iff, ne_eq, hone r' hr']
          rintro rfl
          rw [Pemakaian.kunci, hname] at hk
          cases hk
        simp [Option.filter, hother]
    | some u =>
      have hbuku := buku_of_update db (db.hapusMeter php q.post) rfl rfl
        ((unique_kunci hsatu).lookup_delete hr
        (kunci_eq_some_iff.mpr ⟨hname, rfl⟩) hone)
      refine Buku.Langkah.to (.batalkan hlevel (tagihan_buku hsatu hr hname) ?_) hbuku
      rw [hkini]
      exact terbuka_of_locked hfound hopen

theorem langkah_setBukti {actor : String} (hsatu : SatuPerBulan db)
    (hactor : l.pelaku = some actor) (bukti : String) (no : Int) :
    db.buku.Langkah l (db.setBukti actor bukti no).buku := by
  have hkunci (r : Pemakaian) : (r.setBukti bukti).kunci = r.kunci := rfl
  by_cases hrow : ∃ r ∈ db.pemakaian.rows, Pemakaian.hasNo (some no) r ∧ r.username = some actor
  · obtain ⟨r, hr, hno, hname⟩ := hrow
    have hone (r' : Pemakaian) (hr' : r' ∈ db.pemakaian.rows) :
        (Pemakaian.hasNo (some no) r' && sqlEq r'.username (some actor)) = true ↔ r' = r := by
      rw [Bool.and_eq_true, hasNo_iff_eq hr (hasNo_iff.mp hno) hr']
      constructor
      · exact And.left
      · rintro rfl
        exact ⟨rfl, by simp [hname]⟩
    have hbuku := buku_of_update db (db.setBukti actor bukti no) rfl rfl
      ((unique_kunci hsatu).lookup_update hkunci hr
      (kunci_eq_some_iff.mpr ⟨hname, rfl⟩) hone)
    exact Buku.Langkah.to (.lampirkan hactor (tagihan_buku hsatu hr hname) bukti) hbuku
  · refine Buku.Langkah.diam.to
      (buku_same db _ rfl rfl (lookup_update_of_none hkunci fun r hr hp => ?_))
    rw [Bool.and_eq_true, sqlEq_iff] at hp
    exact absurd ⟨r, hr, hp.1, hp.2.2⟩ hrow

end Bills

/-! ## Requests and runs -/

section Step
variable {php : Php} {w : World} {q : Request} {actor tombol : String} {level : Level}
  {db core : Db}

theorem pangkat_of_levelOf {l : Label} (hactor : l.pelaku = some actor)
    (hlevel : db.levelOf (some actor) = some level) {levels : List Level} (hmem : level ∈ levels) :
    db.buku.Pangkat l.pelaku levels level := by
  obtain ⟨a, ha, hrank⟩ := Option.map_eq_some_iff.mp hlevel
  exact ⟨actor, a, hactor, ha, hrank, hmem⟩

theorem langkah_change {l : Label} (hsatu : SatuPerBulan db) (hagree : q.clock.Agree)
    (hkini : l.kini = q.clock) (hactor : l.pelaku = some actor)
    (hlevel : db.levelOf (some actor) = some level) (hrole : roleRefused level tombol = false)
    (h : Change php q actor level tombol db core) : db.buku.Langkah l core.buku := by
  have hrank {levels : List Level} (hmem : level ∈ levels) :
      db.buku.Pangkat l.pelaku levels level :=
    pangkat_of_levelOf hactor hlevel hmem
  have hadmin (ht : tombol ∈ aksiAdminSaja) : db.buku.Pangkat l.pelaku [.admin] .admin := by
    obtain rfl := admin_of_role hrole ht
    exact hrank (by simp)
  have hbendahara (ht : tombol ∈ aksiAdminBendahara) :
      db.buku.Pangkat l.pelaku [.admin, .bendahara] level :=
    hrank (by rcases bendahara_of_role hrole ht with rfl | rfl <;> simp)
  have hpencatat (ht : tombol ∈ aksiPencatatMeter) : db.buku.Pangkat l.pelaku pencatat level :=
    hrank (by rcases pencatat_of_role hrole ht with rfl | rfl | rfl <;> simp [pencatat])
  cases h with
  | same => exact .diam
  | @userAdded htombol u hpost hfresh login' hrows =>
    subst htombol
    exact Buku.Langkah.to (.tambahAkun (hadmin (by decide)) (.posted php q.salt q.post u) hfresh)
      (akun_append hrows hfresh)
  | userEdited htombol =>
    subst htombol
    exact langkah_ubahUser php q.post q.salt (hadmin (by decide))
  | userRemoved htombol =>
    subst htombol
    exact langkah_hapusUser q.post hsatu (hadmin (by decide))
  | tarifAdded htombol hpost hfresh hrows =>
    subst htombol
    exact langkah_tambahTarif (hbendahara (by decide)) hrows hfresh
  | tarifEdited htombol tarif =>
    subst htombol
    exact langkah_ubahTarif (hbendahara (by decide)) q.post tarif
  | tarifRemoved htombol =>
    subst htombol
    exact langkah_hapusTarif (hbendahara (by decide)) q.post
  | meterAdded htombol hpost hmonth hpos =>
    subst htombol
    exact langkah_catatMeter hagree (hpencatat (by decide)) hkini hmonth hpos
  | meterEdited htombol hpost hopen hpos =>
    subst htombol
    exact langkah_ubahMeter hsatu (hpencatat (by decide)) hkini hopen hpos
  | meterRemoved htombol hopen =>
    subst htombol
    exact langkah_hapusMeter hsatu (hpencatat (by decide)) hkini hopen
  | buktiUpdated htombol bukti no => exact langkah_setBukti hsatu hactor bukti no
  | profilEdited htombol => exact langkah_ubahProfil php q.post q.salt actor hactor

theorem buku_logs (entries : List AuditLog) : (db.logs entries).buku = db.buku := rfl

theorem langkah_step (hteratur : w.db.Teratur) (hagree : q.clock.Agree) :
    w.db.buku.Langkah (w.label q) (step php w q).db.buku := by
  rcases step_db_cases php w q with hsame | ⟨hpage, h⟩ |
    ⟨actor, level, tombol, hauth, core, entries, hchange, hdb, -⟩
  · rw [hsame]
    exact .diam
  · generalize (step php w q).db = db' at h
    cases h with
    | same => exact .diam
    | attempt hasks => exact .diam
    | registered hasks hfresh hrows =>
      exact Buku.Langkah.to (.mendaftar _ hfresh rfl rfl) (akun_append hrows hfresh)
  · rw [hdb, buku_logs]
    have hactor : w.pelaku q = some actor := by
      rw [World.pelaku, if_pos hauth.page, hauth.user]
    exact langkah_change hteratur.satu hagree rfl hactor hauth.hasLevel hauth.role hchange

theorem Db.Teratur.step (hteratur : w.db.Teratur) (hagree : q.clock.Agree) :
    (step php w q).db.Teratur :=
  ⟨satuPerBulan_agree php hagree hteratur.satu, sound_step hteratur.sound⟩

end Step

/-- Under agreeing clocks every run of requests is a run of the books, with one step for
each request, at its time and for its account. -/
theorem books_refined (php : Php) {w : World} (hteratur : w.db.Teratur) {qs : List Request}
    (hqs : ∀ q ∈ qs, q.clock.Agree) :
    Runs Buku.Langkah w.db.buku (labels (step php) World.label w qs) (serve php w qs).db.buku :=
  runs_of_simulation (fun w : World => w.db.buku) World.label (I := fun w : World => w.db.Teratur)
    (fun _ _ hw hq => hw.step hq) (fun _ _ hw hq => langkah_step hw hq)
    (Trace.admissible_of_forall_mem fun q hq _ => hqs q hq) hteratur

theorem teratur_awal {w : World} (hkosong : w.db.pemakaian.rows = []) : w.db.Teratur where
  satu r hr := by
    rw [hkosong] at hr
    cases hr
  sound r hr := by
    rw [hkosong] at hr
    cases hr

theorem books_refined_budi :
    Runs Buku.Langkah World.pertama.db.buku
      (labels (step Php.decimal) World.label World.pertama
        (kantor ++ [catatSepuluh "budi", bayarSepuluh]))
      (serve Php.decimal World.pertama
        (kantor ++ [catatSepuluh "budi", bayarSepuluh])).db.buku :=
  books_refined Php.decimal (teratur_awal rfl) (by decide)

/-! ## What a run has to show for its books -/

section Explained
variable (php : Php) (w : World) (qs : List Request)

/-- The books have been so since a request that `P` describes, and were not before it. -/
def Bermula (I : Buku → Prop) (P : Buku → Label → Prop) : Prop :=
  Began (step php) (fun w => w.db.buku) World.label w qs I P

def Tetap (I : Buku → Prop) : Prop :=
  Trace.Always (fun w => I w.db.buku) (step php) w qs

/-- Why `u` has the bill: how it began, how it came by its readings and its amount, and how
by what is attached to it. -/
structure Tagihan.Beralasan (u : String) (e : Tagihan) : Prop where
  dicatat : Bermula php w qs
    (fun k => ∃ e₀, k.tagihan (u, e.saat.date.bulan) = some e₀ ∧ e.Sama e₀) (e.Dicatat u)
  dihargai : Bermula php w qs
    (fun k => ∃ e₀, k.tagihan (u, e.saat.date.bulan) = some e₀ ∧ e₀.tanpaBukti = e.tanpaBukti)
    (e.Dihargai u)
  dilampiri : ∀ bukti, e.buktiBayar = some bukti → Bermula php w qs
    (fun k => ∃ e₀, k.tagihan (u, e.saat.date.bulan) = some e₀ ∧ e.Sama e₀ ∧
      e₀.buktiBayar = some bukti) fun _ l => l.pelaku = some u

def Login.Beralasan (a : Login) : Prop :=
  Tetap php w qs (fun k => ∃ a₀, k.akun a.username = some a₀ ∧ a₀.level = a.level) ∨
    Bermula php w qs (fun k => ∃ a₀, k.akun a.username = some a₀ ∧ a₀.level = a.level) a.Diangkat

def Tarif.Beralasan (t : Tarif) : Prop :=
  Tetap php w qs (fun k => k.tarif t.idTarif = some t) ∨
    Bermula php w qs (fun k => k.tarif t.idTarif = some t) Tarif.Ditetapkan

/-- All that is in the books stands in its place and can be explained. -/
structure Buku.Beralasan (k : Buku) : Prop where
  tagihan : ∀ kunci, ∀ e ∈ k.tagihan kunci,
    e.saat.date.bulan = kunci.2 ∧ e.Sah ∧ e.Beralasan php w qs kunci.1
  akun : ∀ u, ∀ a ∈ k.akun u, a.username = u ∧ a.Beralasan php w qs
  tarif : ∀ id, ∀ t ∈ k.tarif id, t.idTarif = id ∧ t.Beralasan php w qs

variable {php w qs}

theorem tagihan_awal (hkosong : w.db.pemakaian.rows = []) (kunci : String × Bulan) :
    w.db.buku.tagihan kunci = none := by
  simp only [Db.buku, Function.comp_apply, hkosong]
  rfl

theorem tetap_or_bermula (hkosong : w.db.pemakaian.rows = []) (hqs : ∀ q ∈ qs, q.clock.Agree)
    {I : Buku → Prop} {P : Buku → Label → Prop}
    (hbegins : ∀ k l k', k.Langkah l k' → ¬I k → I k' → P k l)
    (hend : I (serve php w qs).db.buku) : Tetap php w qs I ∨ Bermula php w qs I P :=
  always_or_began (J := fun w : World => w.db.Teratur) (fun _ _ hw hq => hw.step hq)
    (fun _ _ hw hq => langkah_step hw hq) (Trace.admissible_of_forall_mem fun q hq _ => hqs q hq)
    (teratur_awal hkosong) hbegins hend

theorem bermula_tagihan (hkosong : w.db.pemakaian.rows = []) (hqs : ∀ q ∈ qs, q.clock.Agree)
    {kunci : String × Bulan} {Q : Tagihan → Prop} {P : Buku → Label → Prop}
    (hbegins : ∀ k l k', k.Langkah l k' → (¬∃ e, k.tagihan kunci = some e ∧ Q e) →
      (∃ e, k'.tagihan kunci = some e ∧ Q e) → P k l)
    (hend : ∃ e, (serve php w qs).db.buku.tagihan kunci = some e ∧ Q e) :
    Bermula php w qs (fun k => ∃ e, k.tagihan kunci = some e ∧ Q e) P := by
  refine (tetap_or_bermula hkosong hqs hbegins hend).resolve_left fun htetap => ?_
  obtain ⟨e, he, -⟩ := htetap.head
  rw [tagihan_awal hkosong kunci] at he
  cases he

theorem Pemakaian.Sound.isi {r : Pemakaian} (h : r.Sound) : r.isi.Sah := by
  have hpemakaian : r.isi.pemakaian = r.pemakaian := h.volume.symm
  constructor
  · rw [hpemakaian]
    exact h.nonneg
  · rw [hpemakaian]
    exact h.settled

theorem Db.Teratur.serve (hteratur : w.db.Teratur) (hqs : ∀ q ∈ qs, q.clock.Agree) :
    (serve php w qs).db.Teratur :=
  (Trace.always_of_admissible (I := fun w : World => w.db.Teratur) (fun _ _ hw hq => hw.step hq)
    (Trace.admissible_of_forall_mem fun q hq _ => hqs q hq) hteratur).last

end Explained

/-- Under agreeing clocks every run from tables without readings can explain all that it
leaves by the requests it was: each account's level, each tariff, and the bill that each
reading of a resident is. -/
theorem books_explained (php : Php) {w : World} (hkosong : w.db.pemakaian.rows = [])
    {qs : List Request} (hqs : ∀ q ∈ qs, q.clock.Agree) :
    (serve php w qs).db.buku.Beralasan php w qs ∧
      ∀ r ∈ (serve php w qs).db.pemakaian.rows, ∀ u, r.username = some u →
        (serve php w qs).db.buku.tagihan (u, r.tgl.bulan) = some r.isi := by
  have hteratur : (serve php w qs).db.Teratur := (teratur_awal hkosong).serve hqs
  refine ⟨⟨?_, ?_, ?_⟩, fun r hr u hname => tagihan_buku hteratur.satu hr hname⟩
  · rintro ⟨u, b⟩ e he
    obtain ⟨r, hr, rfl⟩ := Option.map_eq_some_iff.mp he
    obtain ⟨hmem, hkunci⟩ := mem_of_lookup hr
    obtain ⟨-, rfl⟩ := kunci_eq_some_iff.mp hkunci
    refine ⟨rfl, (hteratur.sound r hmem).isi, ?_, ?_, fun bukti hbukti => ?_⟩
    · exact bermula_tagihan hkosong hqs (fun _ _ _ h hnot hnew => h.dicatat hnot hnew)
        ⟨r.isi, he, rfl, rfl⟩
    · exact bermula_tagihan hkosong hqs (fun _ _ _ h hnot hnew => h.dihargai hnot hnew)
        ⟨r.isi, he, rfl⟩
    · exact bermula_tagihan hkosong hqs (fun _ _ _ h hnot hnew => h.dilampiri hnot hnew)
        ⟨r.isi, he, ⟨rfl, rfl⟩, hbukti⟩
  · intro u a ha
    obtain ⟨-, rfl⟩ := (serve php w qs).db.akun_eq_some_iff.mp ha
    exact ⟨rfl, tetap_or_bermula hkosong hqs (fun _ _ _ h hnot hnew => h.diangkat hnot hnew)
      ⟨a, ha, rfl⟩⟩
  · intro id t ht
    obtain ⟨-, rfl⟩ := (serve php w qs).db.tarif.find?_eq_some_iff.mp ht
    exact ⟨rfl, tetap_or_bermula hkosong hqs (fun _ _ _ h hnot hnew => h.ditetapkan hnot hnew) ht⟩

def kantorBudi : List Request := kantor ++ [catatSepuluh "budi"]

theorem books_explained_budi :
    tagihanBudi ∈ (serve Php.decimal World.pertama kantorBudi).db.pemakaian.rows ∧
      tagihanBudi.isi.Beralasan Php.decimal World.pertama kantorBudi "budi" := by
  have hr : tagihanBudi ∈ (serve Php.decimal World.pertama kantorBudi).db.pemakaian.rows := by
    decide +kernel
  have hqs : ∀ q ∈ kantorBudi, q.clock.Agree := by decide
  have hkosong : World.pertama.db.pemakaian.rows = [] := rfl
  obtain ⟨halasan, hbuku⟩ := books_explained Php.decimal hkosong hqs
  exact ⟨hr, (halasan.tagihan _ _ (hbuku tagihanBudi hr "budi" rfl)).2.2⟩

end SistemAir
