import SistemAir.Library.Pool
import SistemAir.Spec.Tariffs

/-! Tariff requests between the lookups of a meter request. meter_add and meter_edit read
the tipe, the code and the rate one after another; others may change the tariffs in
between. A tariff request writes one row with one statement, so it is handled in one piece. -/
namespace SistemAir

open KeyedTable StatementProgram Prog

/-! ## The requests of other sessions -/

/-- A tarif_edit or tarif_hapus and the sessions it is sent in. -/
structure PermintaanTarif where
  request : Request
  session : Nat → Session
  page : request.page = .loginIndex
  asks : request.tombol = some "tarif_edit" ∨ request.tombol = some "tarif_hapus"

def layani (php : Php) (p : PermintaanTarif) (s : Server) : Server :=
  (step php ⟨s, p.session⟩ p.request).server

def mulaiMeter (php : Php) (q : Request) (actor token : String) (s : Server) :
    Pool Op Galat Hasil Unit Server :=
  ⟨fun _ => loginIndex php q actor token, s⟩

/-- The meter request among the tariff requests. -/
abbrev Selingan := Event Unit PermintaanTarif

abbrev sela (php : Php) : Pool Op Galat Hasil Unit Server → Selingan →
    Pool Op Galat Hasil Unit Server :=
  Pool.step exec (layani php)

def Menagih (php : Php) (db : Db) (q : Request) (u : Option String) : Prop :=
  (q.tombol = some "meter_add" ∧ q.post.get? "username" = u) ∨
    (q.tombol = some "meter_edit" ∧ db.noToUser (Db.nomor php q.post) = u)

/-- Before and after each tariff request the tipe of the account has one active tariff. -/
def SatuSekitar (php : Php) (u : Option String) (pool : Pool Op Galat Hasil Unit Server) :
    Selingan → Prop
  | .run _ => True
  | .env p => pool.state.db.satuTarif u = true ∧ (layani php p pool.state).db.satuTarif u = true

instance (php : Php) (u : Option String) (pool : Pool Op Galat Hasil Unit Server) :
    (e : Selingan) → Decidable (SatuSekitar php u pool e)
  | .run _ => inferInstanceAs (Decidable True)
  | .env p => inferInstanceAs (Decidable (pool.state.db.satuTarif u = true ∧
      (layani php p pool.state).db.satuTarif u = true))

/-- The one active tariff of the account's tipe has this rate; no rate counts as 0. -/
def Db.TarifBerlaku (db : Db) (u : Option String) (harga : Decimal) : Prop :=
  ∃ a t, u.bind db.akun = some a ∧ db.tarifAktif a.tipe = [t] ∧ t.tarif.getD 0 = harga

/-- `r'` is a reading that the statement the request comes to next stores. -/
def menyimpan (s : Server) (r' : Pemakaian) : Aksi Hasil → Bool
  | .call (.insertPemakaian ..) _ => r'.no = s.db.pemakaian.next
  | .call (.updateMeter _ _ _ _ _ no) _ => Pemakaian.hasNo no r'
  | _ => false

theorem sela_alone (php : Php) (w : World) (q : Request) (actor token : String)
    (hpage : q.page = .loginIndex) (huser : (w.session q.sid).user = some actor)
    (hnamed : isEmpty (some actor) = false) (hactive : idle (w.session q.sid) q.clock.time = false)
    (htoken : token = w.csrfToken q) :
    ∃ n, (Trace.run (sela php) (mulaiMeter php q actor token (w.opened q))
      (List.replicate n (.run ()))).state = (step php w q).server := by
  obtain ⟨n, hn⟩ := Pool.run_alone exec (layani php) (mulaiMeter php q actor token (w.opened q)) ()
  refine ⟨n, ?_⟩
  rw [hn, server_of_open php hpage huser hnamed hactive, ← htoken]
  rfl

/-! ## One tariff request -/

structure Db.SatuTarifBeda (db db' : Db) : Prop where
  login : db'.login = db.login
  pemakaian : db'.pemakaian = db.pemakaian
  tarif : ∃ id : Option String, ∀ t : Tarif, some t.idTarif ≠ id →
    (t ∈ db'.tarif.rows ↔ t ∈ db.tarif.rows)

theorem Db.SatuTarifBeda.akun {db db' : Db} (h : db.SatuTarifBeda db') : db'.akun = db.akun := by
  funext u
  rw [Db.akun, h.login, Db.akun]

section Request
variable {php : Php} {db db' : Db} {post : Form}

theorem satuTarifBeda_ubahTarif (tarif : Option Decimal) :
    db.SatuTarifBeda (db.ubahTarif post tarif) := by
  refine ⟨rfl, rfl, post.get? "id_tarif_lama", fun t hne => ?_⟩
  have hskip : ¬sqlEq (some t.idTarif) (post.get? "id_tarif_lama") = true :=
    fun h => hne (sqlEq_iff.mp h).2
  constructor
  · intro ht
    obtain ⟨r, hr, rfl⟩ := List.mem_map.mp ht
    by_cases hedited : sqlEq (some r.idTarif) (post.get? "id_tarif_lama") = true
    · rw [if_pos hedited] at hskip
      exact absurd hedited hskip
    · rw [if_neg hedited]
      exact hr
  · intro ht
    exact List.mem_map.mpr ⟨t, ht, if_neg hskip⟩

theorem satuTarifBeda_hapusTarif : db.SatuTarifBeda (db.hapusTarif post) := by
  refine ⟨rfl, rfl, post.get? "id_tarif", fun t hne => ?_⟩
  rw [Db.hapusTarif, Table.rows_delete, List.mem_filter]
  refine and_iff_left ?_
  rw [Bool.not_eq_true', Bool.eq_false_iff]
  exact fun h => hne (sqlEq_iff.mp h).2

theorem satuTarifBeda_layani (php : Php) (p : PermintaanTarif) (s : Server) :
    s.db.SatuTarifBeda (layani php p s).db := by
  have hsame : s.db.SatuTarifBeda s.db := ⟨rfl, rfl, none, fun _ _ => Iff.rfl⟩
  rcases step_db_cases php ⟨s, p.session⟩ p.request with
    h | ⟨hpage, -⟩ | ⟨actor, level, tombol, hauth, core, entries, hchange, hdb, -⟩
  · rw [layani, ← World.db, h]
    exact hsame
  · exact absurd (p.page.symm.trans hpage) (by decide)
  · rw [layani, ← World.db, hdb]
    suffices h : s.db.SatuTarifBeda core from ⟨h.login, h.pemakaian, h.tarif⟩
    have hasks := p.asks
    rw [hauth.asks] at hasks
    cases hchange with
    | same => exact hsame
    | tarifEdited _ tarif => exact satuTarifBeda_ubahTarif tarif
    | tarifRemoved => exact satuTarifBeda_hapusTarif
    | userAdded htombol | userEdited htombol | userRemoved htombol | tarifAdded htombol
    | meterAdded htombol | meterEdited htombol | meterRemoved htombol | buktiUpdated htombol
    | profilEdited htombol =>
      rw [htombol] at hasks
      exact absurd hasks (by decide)

/-- One change of one row cannot hand the place of the only active tariff to another id. -/
theorem tarifAktif_tetap (h : db.SatuTarifBeda db') {tipe : Option String} {t t' : Tarif}
    (ht : db.tarifAktif tipe = [t]) (ht' : db'.tarifAktif tipe = [t']) :
    t'.idTarif = t.idTarif := by
  obtain ⟨id, hother⟩ := h.tarif
  have hmem : t ∈ db.tarifAktif tipe := ht ▸ List.mem_singleton_self t
  have hmem' : t' ∈ db'.tarifAktif tipe := ht' ▸ List.mem_singleton_self t'
  obtain ⟨hrow, hactive⟩ := List.mem_filter.mp hmem
  obtain ⟨hrow', hactive'⟩ := List.mem_filter.mp hmem'
  by_cases hid : some t.idTarif = id
  · by_cases hid' : some t'.idTarif = id
    · exact Option.some.inj (hid'.trans hid.symm)
    · have hold : t' ∈ db.tarifAktif tipe :=
        List.mem_filter.mpr ⟨(hother t' hid').mp hrow', hactive'⟩
      rw [ht] at hold
      rw [List.mem_singleton.mp hold]
  · have hnew : t ∈ db'.tarifAktif tipe :=
      List.mem_filter.mpr ⟨(hother t hid).mpr hrow, hactive⟩
    rw [ht'] at hnew
    rw [List.mem_singleton.mp hnew]

end Request

/-! ## The lookups under interference -/

/-- What a meter request may count on: whom it bills, the tipe, the code and the rate. -/
structure Dugaan where
  pemilik : Option String → Prop
  tipe : Option String → Prop
  kode : String → Prop
  harga : Decimal → Prop

namespace Dugaan
variable (d : Dugaan) (php : Php) (q : Request)

def jawab : (β : Type) → Op β → β → Prop
  | _, .usernameOf no, answer => q.tombol = some "meter_edit" → no = Db.nomor php q.post →
      d.pemilik (answer.getD none)
  | _, .tipeOf u, answer => d.pemilik u →
      (answer = none → d.kode "0") ∧ ∀ tipe ∈ answer, d.tipe tipe
  | _, .tarifAktif tipe, answer => d.tipe tipe → d.kode ((answer.map Prod.fst).getD "0")
  | _, .tarifOf id, answer => d.kode id → d.harga ((answer.getD (some 0)).getD 0)
  | _, _, _ => True

def simpan : (β : Type) → Op β → Prop
  | _, .clock | _, .dtUser _ | _, .tipeOf _ | _, .tarifAktif _ | _, .tarifOf _ | _, .usernameOf _
  | _, .tglOf _ | _, .countMonth .. | _, .insertAudit .. => True
  | _, .insertPemakaian _ _ _ pemakaian _ tagihan _ =>
    ∃ harga, d.harga harga ∧ tagihan = harga * pemakaian
  | _, .updateMeter _ _ pemakaian tagihan _ _ =>
    ∃ harga, d.harga harga ∧ tagihan = harga * pemakaian
  | _, _ => False

/-- A part of the request that expects its answers and returns what `ends` admits. -/
abbrev Menurut {α : Type} (p : Aksi α) (ends : α → Prop) : Prop :=
  p.Under (d.jawab php q) d.simpan ends

section Lookups
variable {d php q}

theorem menurut_tipeToKdtarif {tipe : Option String} (h : d.tipe tipe) :
    d.Menurut php q (tipeToKdtarif tipe) d.kode := by
  refine ⟨trivial, fun answer hanswer => ?_⟩
  have hkode := hanswer h
  cases answer with
  | none => exact hkode
  | some row => exact hkode

theorem menurut_userToIdtarif {u : Option String} (h : d.pemilik u) :
    d.Menurut php q (userToIdtarif u) d.kode := by
  refine ⟨trivial, fun answer hanswer => ?_⟩
  obtain ⟨hnone, hsome⟩ := hanswer h
  cases answer with
  | none => exact hnone rfl
  | some tipe => exact menurut_tipeToKdtarif (hsome tipe rfl)

theorem menurut_idTarifToTarif {id : String} (h : d.kode id) :
    d.Menurut php q (idTarifToTarif id) fun tarif => d.harga (tarif.getD 0) := by
  refine ⟨trivial, fun answer hanswer => ?_⟩
  have hharga := hanswer h
  cases answer with
  | none => exact hharga
  | some tarif => exact hharga

theorem menurut_noToUser (h : q.tombol = some "meter_edit") :
    d.Menurut php q (noToUser (Db.nomor php q.post)) d.pemilik := by
  refine ⟨trivial, fun answer hanswer => ?_⟩
  have hpemilik := hanswer h rfl
  cases answer with
  | none => exact hpemilik
  | some u => exact hpemilik

theorem menurut_operand (text : Option String) :
    d.Menurut php q (operand php text) fun _ => True := by
  unfold operand
  split
  · trivial
  · split <;> trivial

variable (d) (actor : String) (level : Level)

theorem menurut_meterAdd (h : d.pemilik (q.post.get? "username")) :
    d.Menurut php q (meterAdd php actor level q.post) fun _ => True := by
  refine (menurut_userToIdtarif h).bind fun kdTarif hkode => ?_
  refine (menurut_idTarifToTarif hkode).bind fun tarif hharga => ?_
  refine ⟨trivial, fun now _ => ?_⟩
  refine (menurut_operand _).bind fun meterAkhir _ => ?_
  refine (menurut_operand _).bind fun meterAwal _ => ?_
  refine ⟨trivial, fun found _ => .ite trivial (.ite trivial ?_)⟩
  exact ⟨⟨_, hharga, rfl⟩, fun affected _ => .ite ⟨trivial, fun _ _ => trivial⟩ trivial⟩

theorem menurut_meterEdit (h : q.tombol = some "meter_edit") :
    d.Menurut php q (meterEdit php actor level q.post) fun _ => True := by
  refine ⟨trivial, fun tgl _ => ⟨trivial, fun now _ => .ite trivial ?_⟩⟩
  refine (menurut_noToUser h).bind fun u hpemilik => ?_
  refine (menurut_userToIdtarif hpemilik).bind fun kdTarif hkode => ?_
  refine (menurut_idTarifToTarif hkode).bind fun tarif hharga => ?_
  refine (menurut_operand _).bind fun meterAkhir _ => ?_
  refine (menurut_operand _).bind fun meterAwal _ => .ite trivial ?_
  exact ⟨⟨_, hharga, rfl⟩, fun affected _ => .ite ⟨trivial, fun _ _ => trivial⟩ trivial⟩

theorem menurut_loginIndex (token : String)
    (h : (q.tombol = some "meter_add" ∧ d.pemilik (q.post.get? "username")) ∨
      q.tombol = some "meter_edit") :
    d.Menurut php q (loginIndex php q actor token) fun _ => True := by
  have hdtUser : d.Menurut php q (dtUser actor) fun _ => True := by
    refine ⟨trivial, fun answer _ => ?_⟩
    cases answer <;> trivial
  refine hdtUser.bind fun user _ => ?_
  obtain ⟨nama, kota, level⟩ := user
  cases level with
  | none => trivial
  | some level =>
    rcases h with ⟨hasks, hpemilik⟩ | hasks
    · simp only [hasks]
      refine .ite trivial (.ite trivial ?_)
      exact (menurut_meterAdd d actor level hpemilik).bind fun _ _ => trivial
    · simp only [hasks]
      refine .ite trivial (.ite trivial ?_)
      exact (menurut_meterEdit d actor level hasks).bind fun _ _ => trivial

end Lookups

end Dugaan

/-! ## The states in between -/

section Between
variable {php : Php} {q : Request} {u tipe : Option String} {id : String} {d : Dugaan}
  {s s' : Server}

theorem exec_simpan {β : Type} {statement : Op β} {answer : β} (hok : d.simpan β statement)
    (h : exec β statement s = .ok (answer, s')) :
    s'.db.login = s.db.login ∧ s'.db.tarif = s.db.tarif := by
  cases statement with
  | clock | dtUser | tipeOf | tarifAktif | tarifOf | usernameOf | tglOf | countMonth
  | insertAudit | insertPemakaian | updateMeter =>
    cases h
    exact ⟨rfl, rfl⟩
  | _ => exact hok.elim

/-- The request bills `u` at the tariff `id`, the only active one of `tipe`. -/
structure Db.Tetap (db : Db) (php : Php) (q : Request) (u tipe : Option String) (id : String) :
    Prop where
  akun : ∃ a, u.bind db.akun = some a ∧ a.tipe = tipe
  satu : ∃ t, db.tarifAktif tipe = [t] ∧ t.idTarif = id
  pemilik : q.tombol = some "meter_edit" →
    ∃ r ∈ db.pemakaian.rows, Db.nomor php q.post = some (r.no : Int) ∧ r.username = u

theorem satuTarif_iff {db : Db} :
    db.satuTarif u = true ↔ ∃ a t, u.bind db.akun = some a ∧ db.tarifAktif a.tipe = [t] := by
  simp only [Db.satuTarif, Option.any_eq_true, decide_eq_true_eq, List.length_eq_one_iff,
    exists_and_left]

theorem exists_tetap {db : Db} (hbills : Menagih php db q u) (hsatu : db.satuTarif u = true) :
    ∃ tipe id, db.Tetap php q u tipe id := by
  obtain ⟨a, t, ha, ht⟩ := satuTarif_iff.mp hsatu
  refine ⟨a.tipe, t.idTarif, ⟨a, ha, rfl⟩, ⟨t, ht, rfl⟩, fun hasks => ?_⟩
  rcases hbills with ⟨hadd, -⟩ | ⟨-, howner⟩
  · rw [hasks] at hadd
    exact absurd hadd (by decide)
  · unfold Db.noToUser at howner
    cases hrow : db.pemakaianByNo (Db.nomor php q.post) with
    | none =>
      rw [hrow] at howner
      subst howner
      cases ha
    | some r =>
      rw [hrow] at howner
      obtain ⟨hr, hno⟩ := mem_of_pemakaianByNo hrow
      exact ⟨r, hr, hno, howner⟩

theorem pemilik_simpan {β : Type} {statement : Op β} {answer : β} (hok : d.simpan β statement)
    (h : exec β statement s = .ok (answer, s')) {r : Pemakaian} (hr : r ∈ s.db.pemakaian.rows) :
    ∃ r' ∈ s'.db.pemakaian.rows, r'.no = r.no ∧ r'.username = r.username := by
  cases statement with
  | clock | dtUser | tipeOf | tarifAktif | tarifOf | usernameOf | tglOf | countMonth
  | insertAudit =>
    cases h
    exact ⟨r, hr, rfl, rfl⟩
  | insertPemakaian =>
    cases h
    exact ⟨r, List.mem_append_left _ hr, rfl, rfl⟩
  | updateMeter =>
    cases h
    refine ⟨_, List.mem_map.mpr ⟨r, hr, rfl⟩, ?_⟩
    split <;> exact ⟨rfl, rfl⟩
  | _ => exact hok.elim

theorem tetap_of_same {db db' : Db} (h : db.Tetap php q u tipe id) (hlogin : db'.login = db.login)
    (hsatu : ∃ t, db'.tarifAktif tipe = [t] ∧ t.idTarif = id)
    (hrows : ∀ r ∈ db.pemakaian.rows, ∃ r' ∈ db'.pemakaian.rows, r'.no = r.no ∧
      r'.username = r.username) : db'.Tetap php q u tipe id := by
  refine ⟨?_, hsatu, fun hasks => ?_⟩
  · obtain ⟨a, ha, htipe⟩ := h.akun
    refine ⟨a, ?_, htipe⟩
    have hakun : db'.akun = db.akun := by
      funext v
      rw [Db.akun, hlogin, Db.akun]
    rw [hakun]
    exact ha
  · obtain ⟨r, hr, hno, hname⟩ := h.pemilik hasks
    obtain ⟨r', hr', hno', hname'⟩ := hrows r hr
    exact ⟨r', hr', hno'.symm ▸ hno, hname'.trans hname⟩

def dugaanBebas : Dugaan where
  pemilik _ := True
  tipe _ := True
  kode _ := True
  harga _ := True

theorem jawab_bebas {β : Type} {statement : Op β} (answer : β) :
    dugaanBebas.jawab php q β statement answer := by
  cases statement with
  | tipeOf => exact fun _ => ⟨fun _ => trivial, fun _ _ => trivial⟩
  | usernameOf => exact fun _ _ => trivial
  | tarifAktif | tarifOf => exact fun _ => trivial
  | _ => trivial

def dugaanTetap (u tipe : Option String) (id : String) (pernah : Decimal → Prop) : Dugaan where
  pemilik := (· = u)
  tipe := (· = tipe)
  kode := (· = id)
  harga := pernah

variable {pernah : Decimal → Prop}

theorem jawab_tetap (h : s.db.Tetap php q u tipe id)
    (hrate : ∀ harga, s.db.TarifBerlaku u harga → pernah harga) {β : Type} {statement : Op β}
    {answer : β} (hexec : exec β statement s = .ok (answer, s')) :
    (dugaanTetap u tipe id pernah).jawab php q β statement answer := by
  obtain ⟨a, ha, htipe⟩ := h.akun
  obtain ⟨t, ht, hid⟩ := h.satu
  cases statement with
  | usernameOf no =>
    cases hexec
    intro hasks hno
    obtain ⟨r, hr, hrow, hname⟩ := h.pemilik hasks
    subst hno
    change ((s.db.pemakaianByNo (Db.nomor php q.post)).map Pemakaian.username).getD none = u
    rw [hrow, pemakaianByNo_of_mem hr]
    exact hname
  | tipeOf v =>
    cases hexec
    intro hv
    obtain rfl : v = u := hv
    rw [ha]
    refine ⟨nofun, fun tipe' htipe' => ?_⟩
    exact (Option.some.inj htipe').symm.trans htipe
  | tarifAktif tipe' =>
    cases hexec
    intro hsame
    obtain rfl : tipe' = tipe := hsame
    rw [ht]
    exact hid
  | tarifOf id' =>
    cases hexec
    intro hsame
    obtain rfl : id' = id := hsame
    obtain ⟨hrow, -, -, haktif⟩ := mem_tarifAktif.mp (ht ▸ List.mem_singleton_self t)
    have hfound : s.db.tarifById id' = some t := hid ▸ tarifById_of_mem hrow haktif
    rw [hfound]
    exact hrate _ ⟨a, t, ha, htipe ▸ ht, rfl⟩
  | _ => trivial

end Between

/-! ## All interleavings -/

section Run
variable {php : Php} {q : Request} {u tipe : Option String} {id : String} {d : Dugaan}
  {s : Server}

theorem tersimpan {p : Aksi Hasil} (hp : d.Menurut php q p fun _ => True) {r' : Pemakaian}
    (hr' : r' ∈ (p.stepOnce exec s).2.db.pemakaian.rows) (hstores : menyimpan s r' p = true) :
    ∃ harga, d.harga harga ∧ r'.tagihan = r'.pemakaian * harga := by
  cases p with
  | done value => cases hstores
  | fail error => cases hstores
  | call statement next =>
    cases statement with
    | insertPemakaian v awal akhir pemakaian kdTarif tagihan status =>
      obtain ⟨harga, hharga, hbill⟩ := hp.1
      refine ⟨harga, hharga, ?_⟩
      rcases List.mem_append.mp hr' with hold | hnew
      · exact absurd (decide_eq_true_eq.mp hstores) (Nat.ne_of_lt (s.db.pemakaian.lt_next r' hold))
      · rw [List.mem_singleton.mp hnew, mul_comm]
        exact hbill
    | updateMeter awal akhir pemakaian tagihan status no =>
      obtain ⟨harga, hharga, hbill⟩ := hp.1
      refine ⟨harga, hharga, ?_⟩
      obtain ⟨r, hr, rfl⟩ := List.mem_map.mp hr'
      have hno : Pemakaian.hasNo no r = true := by
        have hkey : Pemakaian.hasNo no (if Pemakaian.hasNo no r then
            Pemakaian.setMeter awal akhir pemakaian tagihan status r else r) = true := hstores
        split at hkey
        · assumption
        · exact hkey
      rw [if_pos hno, mul_comm]
      exact hbill
    | _ => cases hstores

variable {actor token : String} {events : List Selingan}

theorem menurut_mulai (d : Dugaan) (hbills : Menagih php s.db q u) (hu : d.pemilik u) :
    ∀ i, d.Menurut php q ((mulaiMeter php q actor token s).threads i) fun _ => True := by
  intro i
  refine Dugaan.menurut_loginIndex d actor token ?_
  rcases hbills with ⟨hasks, rfl⟩ | ⟨hasks, -⟩
  · exact .inl ⟨hasks, hu⟩
  · exact .inr hasks

theorem tetap_run (actor token : String) (events : List Selingan) (hbills : Menagih php s.db q u)
    (hstart : s.db.Tetap php q u tipe id)
    (hsekitar : ∀ done p, done ++ [.env p] <+: events →
      SatuSekitar php u (Trace.run (sela php) (mulaiMeter php q actor token s) done) (.env p))
    {pernah : Decimal → Prop}
    (hpernah : ∀ done, done <+: events → ∀ harga,
      (Trace.run (sela php) (mulaiMeter php q actor token s) done).state.db.TarifBerlaku u harga →
        pernah harga) :
    (Trace.run (sela php) (mulaiMeter php q actor token s) events).state.db.Tetap php q u tipe id ∧
      ∀ i, (dugaanTetap u tipe id pernah).Menurut php q
        ((Trace.run (sela php) (mulaiMeter php q actor token s) events).threads i) fun _ => True := by
  refine Pool.run_under (I := fun s => s.db.Tetap php q u tipe id) hstart
    (menurut_mulai (dugaanTetap u tipe id pernah) hbills rfl) ?_ ?_
  · intro done hdone hI β statement answer s' hok hexec
    refine ⟨jawab_tetap hI (hpernah done hdone) hexec, ?_⟩
    obtain ⟨hlogin, htarif⟩ := exec_simpan hok hexec
    refine tetap_of_same hI hlogin ?_ fun r hr => pemilik_simpan hok hexec hr
    rw [Db.tarifAktif, htarif]
    exact hI.satu
  · intro done p hdone hI
    have hbeda := satuTarifBeda_layani php p
      (Trace.run (sela php) (mulaiMeter php q actor token s) done).state
    obtain ⟨a', t', ha', ht'⟩ := satuTarif_iff.mp (hsekitar done p hdone).2
    obtain ⟨a, ha, htipe⟩ := hI.akun
    obtain ⟨t, ht, hid⟩ := hI.satu
    have hakun := hbeda.akun
    rw [hakun, ha] at ha'
    obtain rfl := Option.some.inj ha'
    rw [htipe] at ht'
    refine tetap_of_same hI hbeda.login ⟨t', ht', (tarifAktif_tetap hbeda ht ht').trans hid⟩ ?_
    rw [hbeda.pemakaian]
    exact fun r hr => ⟨r, hr, rfl, rfl⟩

/-- No statement of the request can bring about that there is one active tariff. -/
theorem satuTarif_mulai (hbills : Menagih php s.db q u)
    (hsekitar : Trace.Admissible (SatuSekitar php u) (sela php) (mulaiMeter php q actor token s)
      events) (hada : ∃ p, Event.env p ∈ events) : s.db.satuTarif u = true := by
  obtain ⟨runs, p, hprefix, hruns⟩ := Event.exists_first_env hada
  have hkept : (Trace.run (sela php) (mulaiMeter php q actor token s) runs).state.db.login =
        s.db.login ∧
      (Trace.run (sela php) (mulaiMeter php q actor token s) runs).state.db.tarif = s.db.tarif := by
    refine (Pool.run_under (I := fun s' => s'.db.login = s.db.login ∧ s'.db.tarif = s.db.tarif)
      ⟨rfl, rfl⟩ (menurut_mulai dugaanBebas hbills trivial) ?_ ?_).1
    · intro done _ hI β statement answer s' hok hexec
      obtain ⟨hlogin, htarif⟩ := exec_simpan hok hexec
      exact ⟨jawab_bebas answer, hlogin.trans hI.1, htarif.trans hI.2⟩
    · intro done p' hdone
      exact absurd (hdone.subset (by simp)) (hruns p')
  obtain ⟨hlogin, htarif⟩ := hkept
  have hbefore := (hsekitar.at_prefix hprefix).1
  unfold Db.satuTarif Db.tarifAktif Db.akun at hbefore ⊢
  rw [hlogin, htarif] at hbefore
  exact hbefore

end Run

/-- However the tariff requests of others fall between the statements of a meter_add or
meter_edit: where there is one active tariff for the account's tipe before and after each,
what is stored is billed at a rate that was the active one at a moment of the request. -/
theorem pricing_atomic (php : Php) (q : Request) (actor token : String) (s : Server)
    (u : Option String) (events done : List Selingan) (r' : Pemakaian)
    (hbills : Menagih php s.db q u)
    (hsekitar : Trace.Admissible (SatuSekitar php u) (sela php) (mulaiMeter php q actor token s)
      events)
    (hada : s.db.satuTarif u = true ∨ ∃ p, Event.env p ∈ events)
    (hdone : done ++ [.run ()] <+: events)
    (hr' : r' ∈ (Trace.run (sela php) (mulaiMeter php q actor token s)
      (done ++ [.run ()])).state.db.pemakaian.rows)
    (hstores : menyimpan (Trace.run (sela php) (mulaiMeter php q actor token s) done).state r'
      ((Trace.run (sela php) (mulaiMeter php q actor token s) done).threads ()) = true) :
    ∃ saat, saat <+: done ∧ ∃ harga,
      (Trace.run (sela php) (mulaiMeter php q actor token s) saat).state.db.TarifBerlaku u harga ∧
        r'.tagihan = r'.pemakaian * harga := by
  have hone : s.db.satuTarif u = true :=
    hada.elim id (satuTarif_mulai hbills hsekitar)
  obtain ⟨tipe, id, hstart⟩ := exists_tetap hbills hone
  have hprefix : done <+: events := (List.prefix_append _ _).trans hdone
  obtain ⟨-, hthreads⟩ := tetap_run actor token done hbills hstart
    (fun done' p hdone' => hsekitar.at_prefix (hdone'.trans hprefix))
    fun saat hsaat harga hrate => (⟨saat, hsaat, hrate⟩ : ∃ saat, saat <+: done ∧
      (Trace.run (sela php) (mulaiMeter php q actor token s) saat).state.db.TarifBerlaku u harga)
  rw [Trace.run_concat] at hr'
  obtain ⟨harga, ⟨saat, hsaat, hrate⟩, hbill⟩ := tersimpan (hthreads ()) hr' hstores
  exact ⟨saat, hsaat, harga, hrate, hbill⟩

def naikSela : PermintaanTarif where
  request := ajukan 2 hariBuka "tarif_edit"
    [("id_tarif_lama", "T1"), ("tipe_tarif", "RT"), ("tarif", "1500"), ("status", "AKTIF")]
  session := (serve .decimal World.pertama kantor).session
  page := rfl
  asks := .inl (by decide)

def sampaiSimpan : List Selingan :=
  [.run (), .run (), .run (), .env naikSela, .run (), .run (), .run ()]

theorem pricing_atomic_budi :
    let mulai := mulaiMeter .decimal (catatSepuluh "budi") "joko" "7f3a"
      (serve .decimal World.pertama kantor).server
    ∃ saat, saat <+: sampaiSimpan ∧ ∃ harga,
      (Trace.run (sela .decimal) mulai saat).state.db.TarifBerlaku (some "budi") harga ∧
        (15000 : Decimal) = 10 * harga := by
  suffices h : _ ∧ _ ∧ _ ∧ _ by
    obtain ⟨hadmissible, hbegin, hdone, hrow⟩ := h
    exact pricing_atomic .decimal (catatSepuluh "budi") "joko" "7f3a"
      (serve .decimal World.pertama kantor).server (some "budi") (sampaiSimpan ++ [.run ()])
      sampaiSimpan { tagihanBudi with tagihan := 15000 } (.inl ⟨by decide, by decide⟩) hadmissible
      (.inl hbegin) List.prefix_rfl hdone hrow
  decide +kernel

end SistemAir
