import Mathlib.Logic.Function.Basic
import SistemAir.Spec.Months

/-! What the office keeps books for: who has an account, which tariffs there are, and for
a resident and a month at most one bill. Its rules name no table, no form and no number
of a row. -/
namespace SistemAir

/-- A bill: two readings of the meter, when the second was taken, and what is owed. -/
structure Tagihan where
  meterAwal : Option Decimal
  meterAkhir : Option Decimal
  saat : Stamp
  kdTarif : String
  jumlah : Decimal
  status : Option String
  buktiBayar : Option String
  deriving DecidableEq, Repr

def Tagihan.pemakaian (e : Tagihan) : Decimal := e.meterAkhir.getD 0 - e.meterAwal.getD 0

/-- No volume is negative, and nothing is owed for none. -/
structure Tagihan.Sah (e : Tagihan) : Prop where
  nonneg : 0 ≤ e.pemakaian
  lunas : e.pemakaian = 0 → e.status = some "LUNAS"

structure Buku where
  akun : String → Option Login
  tarif : String → Option Tarif
  tagihan : String × Bulan → Option Tagihan

structure Login.DataDiri (a a' : Login) : Prop where
  username : a'.username = a.username
  level : a'.level = a.level
  tipe : a'.tipe = a.tipe
  status : a'.status = a.status

namespace Buku
variable (k : Buku)

def Berlaku (u : String) (t : Tarif) : Prop :=
  k.tarif t.idTarif = some t ∧ t.status = some "AKTIF" ∧ t.tipeTarif.isSome ∧
    ∃ a, k.akun u = some a ∧ a.tipe = t.tipeTarif

def harga (kdTarif : String) : Decimal :=
  (((k.tarif kdTarif).filter fun t => t.status = some "AKTIF").bind Tarif.tarif).getD 0

/-- A bill for `u` is priced by a tariff that is in force for `u`; where there is none, by
the code `0`. -/
def Kode (u kdTarif : String) : Prop :=
  (∃ t, k.Berlaku u t ∧ t.idTarif = kdTarif) ∨ (¬∃ t, k.Berlaku u t) ∧ kdTarif = "0"

def Pangkat (pelaku : Option String) (levels : List Level) (level : Level) : Prop :=
  ∃ u a, pelaku = some u ∧ k.akun u = some a ∧ a.level = level ∧ level ∈ levels

end Buku

/-- Everything a step is labelled with: the time, and the account it is done for. -/
structure Label where
  kini : Clock
  pelaku : Option String

def pencatat : List Level := [.admin, .bendahara, .petugas]

def Tagihan.Terbuka (e : Tagihan) (level : Level) (kini : Clock) : Prop :=
  level = .petugas → daysSince e.saat.date kini.php ≤ 30

/-- A correction: other readings at the price of the day, and what is paid of them. -/
structure Buku.Dikoreksi (k : Buku) (u : String) (e e' : Tagihan) : Prop where
  saat : e'.saat = e.saat
  kdTarif : e'.kdTarif = e.kdTarif
  buktiBayar : e'.buktiBayar = e.buktiBayar
  sah : e'.Sah
  harga : ∃ kd, k.Kode u kd ∧ e'.jumlah = k.harga kd * e'.pemakaian

/-- What can be done to the books. -/
inductive Buku.Langkah (k : Buku) (l : Label) : Buku → Prop
  | diam : Langkah k l k
  | mendaftar (a : Login) (hbaru : k.akun a.username = none) (hlevel : a.level = .warga)
      (hstatus : a.status = some "AKTIF") :
      Langkah k l { k with akun := Function.update k.akun a.username (some a) }
  | tambahAkun (hadmin : k.Pangkat l.pelaku [.admin] .admin) (a : Login)
      (hbaru : k.akun a.username = none) :
      Langkah k l { k with akun := Function.update k.akun a.username (some a) }
  | ubahAkun (hadmin : k.Pangkat l.pelaku [.admin] .admin) {a a' : Login}
      (ha : k.akun a.username = some a) (hnama : a'.username = a.username) :
      Langkah k l { k with akun := Function.update k.akun a.username (some a') }
  | hapusAkun (hadmin : k.Pangkat l.pelaku [.admin] .admin) (u : String) :
      Langkah k l
        { k with
          akun := Function.update k.akun u none
          tagihan := fun kunci => if kunci.1 = u then none else k.tagihan kunci }
  | ubahDiri {a a' : Login} (ha : k.akun a.username = some a) (hdiri : l.pelaku = some a.username)
      (hdata : a.DataDiri a') :
      Langkah k l { k with akun := Function.update k.akun a.username (some a') }
  | tambahTarif {level : Level} (hlevel : k.Pangkat l.pelaku [.admin, .bendahara] level) (t : Tarif)
      (hbaru : k.tarif t.idTarif = none) :
      Langkah k l { k with tarif := Function.update k.tarif t.idTarif (some t) }
  | ubahTarif {level : Level} (hlevel : k.Pangkat l.pelaku [.admin, .bendahara] level)
      {t t' : Tarif} (ht : k.tarif t.idTarif = some t) (hid : t'.idTarif = t.idTarif) :
      Langkah k l { k with tarif := Function.update k.tarif t.idTarif (some t') }
  | hapusTarif {level : Level} (hlevel : k.Pangkat l.pelaku [.admin, .bendahara] level)
      (id : String) :
      Langkah k l { k with tarif := Function.update k.tarif id none }
  | catat {level : Level} (hlevel : k.Pangkat l.pelaku pencatat level) (u : String) (e : Tagihan)
      (hkosong : k.tagihan (u, e.saat.date.bulan) = none) (hsaat : e.saat = l.kini.sql)
      (hsah : e.Sah) (hkode : k.Kode u e.kdTarif)
      (hharga : e.jumlah = k.harga e.kdTarif * e.pemakaian) (hbukti : e.buktiBayar = none) :
      Langkah k l
        { k with tagihan := Function.update k.tagihan (u, e.saat.date.bulan) (some e) }
  | koreksi {level : Level} (hlevel : k.Pangkat l.pelaku pencatat level) {u : String} {b : Bulan}
      {e e' : Tagihan} (he : k.tagihan (u, b) = some e) (hbuka : e.Terbuka level l.kini)
      (hkoreksi : k.Dikoreksi u e e') :
      Langkah k l { k with tagihan := Function.update k.tagihan (u, b) (some e') }
  | batalkan {level : Level} (hlevel : k.Pangkat l.pelaku pencatat level) {u : String} {b : Bulan}
      {e : Tagihan} (he : k.tagihan (u, b) = some e) (hbuka : e.Terbuka level l.kini) :
      Langkah k l { k with tagihan := Function.update k.tagihan (u, b) none }
  | lampirkan {u : String} {b : Bulan} {e : Tagihan} (hdiri : l.pelaku = some u)
      (he : k.tagihan (u, b) = some e) (bukti : String) :
      Langkah k l
        { k with
          tagihan := Function.update k.tagihan (u, b) (some { e with buktiBayar := some bukti }) }

/-! ## What a step writes -/

/-- What is kept of a bill that is corrected or gets evidence. -/
def Tagihan.Sama (e e' : Tagihan) : Prop := e'.saat = e.saat ∧ e'.kdTarif = e.kdTarif

def Tagihan.tanpaBukti (e : Tagihan) : Tagihan := { e with buktiBayar := none }

/-- `e` is filed by someone whose work that is, at the time it bears, in a month that is free
and under a code in force. -/
def Tagihan.Dicatat (u : String) (e : Tagihan) (k : Buku) (l : Label) : Prop :=
  (∃ level, k.Pangkat l.pelaku pencatat level) ∧ l.kini.sql = e.saat ∧
    k.tagihan (u, e.saat.date.bulan) = none ∧ k.Kode u e.kdTarif

/-- Such a person gives `e` its amount, at the price of a code in force. -/
def Tagihan.Dihargai (u : String) (e : Tagihan) (k : Buku) (l : Label) : Prop :=
  (∃ level, k.Pangkat l.pelaku pencatat level) ∧
    ∃ kd, k.Kode u kd ∧ e.jumlah = k.harga kd * e.pemakaian

/-- An account has its level as a new resident, or from an admin. -/
def Login.Diangkat (a : Login) (k : Buku) (l : Label) : Prop :=
  k.akun a.username = none ∧ a.level = .warga ∨ k.Pangkat l.pelaku [.admin] .admin

def Tarif.Ditetapkan (k : Buku) (l : Label) : Prop :=
  ∃ level, k.Pangkat l.pelaku [.admin, .bendahara] level

namespace Buku
variable {k k' : Buku} {l : Label}

theorem Langkah.tagihan_cases (h : k.Langkah l k') {u : String} {b : Bulan} {e : Tagihan}
    (he : k'.tagihan (u, b) = some e) :
    k.tagihan (u, b) = some e ∨
    (b = e.saat.date.bulan ∧ e.Dicatat u k l ∧ e.Dihargai u k l ∧ e.buktiBayar = none) ∨
    (∃ e₀, k.tagihan (u, b) = some e₀ ∧ k.Dikoreksi u e₀ e ∧ e.Dihargai u k l) ∨
    ∃ e₀ bukti, k.tagihan (u, b) = some e₀ ∧ l.pelaku = some u ∧
      e = { e₀ with buktiBayar := some bukti } := by
  -- Elsewhere in the books the bill was there before.
  have helsewhere {kunci : String × Bulan} {v : Option Tagihan}
      (hbook : k'.tagihan = Function.update k.tagihan kunci v) :
      k.tagihan (u, b) = some e ∨ kunci = (u, b) ∧ v = some e := by
    rw [hbook] at he
    by_cases hkunci : (u, b) = kunci
    · rw [← hkunci, Function.update_self] at he
      exact .inr ⟨hkunci.symm, he⟩
    · rw [Function.update_of_ne hkunci] at he
      exact .inl he
  cases h with
  | hapusAkun hadmin u' =>
    dsimp only at he
    split at he
    · cases he
    · exact .inl he
  | @catat level hlevel u' e' hkosong hsaat hsah hkode hharga hbukti =>
    rcases helsewhere rfl with hold | ⟨hkunci, hnew⟩
    · exact .inl hold
    · cases hnew
      cases hkunci
      exact .inr (.inl ⟨rfl, ⟨⟨level, hlevel⟩, hsaat.symm, hkosong, hkode⟩,
        ⟨⟨level, hlevel⟩, _, hkode, hharga⟩, hbukti⟩)
  | @koreksi level hlevel u' b' e₀ e' he₀ hbuka hkoreksi =>
    rcases helsewhere rfl with hold | ⟨hkunci, hnew⟩
    · exact .inl hold
    · cases hnew
      cases hkunci
      exact .inr (.inr (.inl ⟨e₀, he₀, hkoreksi, ⟨level, hlevel⟩, hkoreksi.harga⟩))
  | batalkan hlevel he₀ hbuka =>
    rcases helsewhere rfl with hold | ⟨-, hnone⟩
    · exact .inl hold
    · cases hnone
  | @lampirkan u' b' e₀ hdiri he₀ bukti =>
    rcases helsewhere rfl with hold | ⟨hkunci, hnew⟩
    · exact .inl hold
    · cases hnew
      cases hkunci
      exact .inr (.inr (.inr ⟨e₀, bukti, he₀, hdiri, rfl⟩))
  | _ => exact .inl he

theorem Langkah.dicatat (h : k.Langkah l k') {u : String} {b : Bulan} {e : Tagihan}
    (hnot : ¬∃ e₀, k.tagihan (u, b) = some e₀ ∧ e.Sama e₀)
    (hnew : ∃ e₁, k'.tagihan (u, b) = some e₁ ∧ e.Sama e₁) : e.Dicatat u k l := by
  obtain ⟨e₁, he₁, hsaat, hkode⟩ := hnew
  rcases h.tagihan_cases he₁ with hold | ⟨-, hdicatat, -⟩ | ⟨e₀, he₀, hkoreksi, -⟩ |
    ⟨e₀, bukti, he₀, -, rfl⟩
  · exact absurd ⟨e₁, hold, hsaat, hkode⟩ hnot
  · unfold Tagihan.Dicatat at hdicatat ⊢
    rw [← hsaat, ← hkode]
    exact hdicatat
  · exact absurd ⟨e₀, he₀, hkoreksi.saat.symm.trans hsaat, hkoreksi.kdTarif.symm.trans hkode⟩ hnot
  · exact absurd ⟨e₀, he₀, hsaat, hkode⟩ hnot

theorem Langkah.dihargai (h : k.Langkah l k') {u : String} {b : Bulan} {e : Tagihan}
    (hnot : ¬∃ e₀, k.tagihan (u, b) = some e₀ ∧ e₀.tanpaBukti = e.tanpaBukti)
    (hnew : ∃ e₁, k'.tagihan (u, b) = some e₁ ∧ e₁.tanpaBukti = e.tanpaBukti) :
    e.Dihargai u k l := by
  obtain ⟨e₁, he₁, hsame⟩ := hnew
  have hsum : e₁.Dihargai u k l → e.Dihargai u k l := by
    have hpemakaian : e₁.tanpaBukti.pemakaian = e.tanpaBukti.pemakaian := by rw [hsame]
    have hjumlah : e₁.tanpaBukti.jumlah = e.tanpaBukti.jumlah := by rw [hsame]
    rintro ⟨hlevel, kd, hkode, hharga⟩
    exact ⟨hlevel, kd, hkode, hjumlah.symm.trans (hharga.trans (congrArg _ hpemakaian))⟩
  rcases h.tagihan_cases he₁ with hold | ⟨-, -, hdihargai, -⟩ | ⟨-, -, -, hdihargai⟩ |
    ⟨e₀, bukti, he₀, -, rfl⟩
  · exact absurd ⟨e₁, hold, hsame⟩ hnot
  · exact hsum hdihargai
  · exact hsum hdihargai
  · exact absurd ⟨e₀, he₀, hsame⟩ hnot

theorem Langkah.dilampiri (h : k.Langkah l k') {u bukti : String} {b : Bulan} {e : Tagihan}
    (hnot : ¬∃ e₀, k.tagihan (u, b) = some e₀ ∧ e.Sama e₀ ∧ e₀.buktiBayar = some bukti)
    (hnew : ∃ e₁, k'.tagihan (u, b) = some e₁ ∧ e.Sama e₁ ∧ e₁.buktiBayar = some bukti) :
    l.pelaku = some u := by
  obtain ⟨e₁, he₁, ⟨hsaat, hkode⟩, hbukti⟩ := hnew
  rcases h.tagihan_cases he₁ with hold | ⟨-, -, -, hnone⟩ | ⟨e₀, he₀, hkoreksi, -⟩ |
    ⟨-, -, -, hdiri, -⟩
  · exact absurd ⟨e₁, hold, ⟨hsaat, hkode⟩, hbukti⟩ hnot
  · rw [hnone] at hbukti
    cases hbukti
  · refine absurd ⟨e₀, he₀, ⟨?_, ?_⟩, hkoreksi.buktiBayar.symm.trans hbukti⟩ hnot
    · exact hkoreksi.saat.symm.trans hsaat
    · exact hkoreksi.kdTarif.symm.trans hkode
  · exact hdiri

theorem Langkah.diangkat (h : k.Langkah l k') {a : Login}
    (hnot : ¬∃ a₀, k.akun a.username = some a₀ ∧ a₀.level = a.level)
    (hnew : ∃ a₁, k'.akun a.username = some a₁ ∧ a₁.level = a.level) : a.Diangkat k l := by
  obtain ⟨a₁, ha₁, hlevel₁⟩ := hnew
  have helsewhere {u : String} {v : Option Login}
      (hbook : k'.akun = Function.update k.akun u v) : u = a.username ∧ v = some a₁ := by
    rw [hbook] at ha₁
    by_cases hu : a.username = u
    · rw [← hu, Function.update_self] at ha₁
      exact ⟨hu.symm, ha₁⟩
    · rw [Function.update_of_ne hu] at ha₁
      exact absurd ⟨a₁, ha₁, hlevel₁⟩ hnot
  cases h with
  | mendaftar a' hbaru hlevel hstatus =>
    obtain ⟨hu, hnew⟩ := helsewhere rfl
    cases hnew
    exact .inl ⟨hu ▸ hbaru, hlevel₁.symm.trans hlevel⟩
  | tambahAkun hadmin a' hbaru => exact .inr hadmin
  | ubahAkun hadmin ha hnama => exact .inr hadmin
  | hapusAkun hadmin u =>
    obtain ⟨-, hnone⟩ := helsewhere rfl
    cases hnone
  | @ubahDiri a' a'' ha hdiri hdata =>
    obtain ⟨hu, hnew⟩ := helsewhere rfl
    cases hnew
    rw [hu] at ha
    exact absurd ⟨a', ha, hdata.level.symm.trans hlevel₁⟩ hnot
  | _ => exact absurd ⟨a₁, ha₁, hlevel₁⟩ hnot

theorem Langkah.ditetapkan (h : k.Langkah l k') {t : Tarif} (hnot : k.tarif t.idTarif ≠ some t)
    (hnew : k'.tarif t.idTarif = some t) : Tarif.Ditetapkan k l := by
  cases h with
  | tambahTarif hlevel => exact ⟨_, hlevel⟩
  | ubahTarif hlevel => exact ⟨_, hlevel⟩
  | hapusTarif hlevel => exact ⟨_, hlevel⟩
  | _ => exact absurd hnew hnot

end Buku

end SistemAir
