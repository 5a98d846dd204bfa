import Mathlib.Algebra.Order.BigOperators.Group.List
import SistemAir.Spec.Unrecorded

/-! The residents' charts against the staff's. A resident's loop keeps the last reading of
a month, the staff's query adds all of them up. -/
namespace SistemAir

open Groups JsonText KeyedTable StatementProgram Prog

inductive Kolom
  | pemakaian
  | tagihan
  deriving DecidableEq, Repr

namespace Kolom

def nilai : Kolom → Pemakaian → Decimal
  | .pemakaian => Pemakaian.pemakaian
  | .tagihan => Pemakaian.tagihan

def namaWarga : Kolom → String
  | .pemakaian => "pemakaian_warga"
  | .tagihan => "tagihan_warga"

def deret : Kolom → Deret
  | .pemakaian => .pemakaian
  | .tagihan => .tagihan

end Kolom

def Db.pemilik (db : Db) : List String := (db.pemakaian.rows.filterMap Pemakaian.username).dedup

def World.grafikWarga (w : World) (k : Kolom) (u : String) (post : Form) (now : Stamp) (b : Bulan) :
    Option Decimal :=
  grafikDari k.namaWarga b.bulan (w.server.jawab u .warga post now)

/-- A resident's chart shows of each month what the resident's readings add up to, and the
residents' charts together what the staff's chart shows. -/
structure TidakHilang (w : World) : Prop where
  warga : ∀ (k : Kolom) (u : String) (post : Form) (now : Stamp) (b : Bulan),
    post.get? "p" = some "semua_chart" → now.date.year = b.tahun →
    w.grafikWarga k u post now b =
      some (((w.db.bulanItu b).filter (·.username = some u)).map k.nilai).sum
  staf : ∀ (k : Kolom) (u : String) (level : Level) (post : Form) (now : Stamp) (b : Bulan),
    k.deret.untuk level = true → post.get? "p" = some "semua_chart" →
    now.date.year = b.tahun →
    grafikDari k.deret.nama b.bulan (w.server.jawab u level post now) =
      some (w.db.pemilik.map fun v => (w.grafikWarga k v post now b).getD 0).sum

/-! ## A resident's chart -/

theorem filter_pemakaianOf (db : Db) (b : Bulan) (u : String) :
    ((db.pemakaianOf u).filter (·.tgl.year = b.tahun)).filter (·.tgl.month = b.bulan) =
      (db.bulanItu b).filter (·.username = some u) := by
  rw [Db.pemakaianOf, Db.bulanItu, List.filter_filter, List.filter_filter, List.filter_filter]
  refine List.filter_congr fun r _ => ?_
  rw [Bool.eq_iff_iff]
  simp only [Bool.and_eq_true, decide_eq_true_eq, Date.bulan_eq_iff]
  tauto

section Warga
variable (s : Server) (k : Kolom) (u : String)

def deretWarga (rows : List Pemakaian) (k : Kolom) : Json :=
  duaBelasBulan (rows.map fun r => (r.tgl.month, .number (k.nilai r)))

def Kolom.terakhir (db : Db) (u : String) (b : Bulan) : Decimal :=
  ((((db.bulanItu b).filter (·.username = some u)).getLast?).map k.nilai).getD 0

theorem setahun_warga (tahun : Nat) :
    Setahun tahun (fun b => k.terakhir s.db u b)
      (deretWarga ((s.db.pemakaianOf u).filter (·.tgl.year = tahun)) k) := by
  refine ⟨_, rfl, fun js b hyear => ?_⟩
  rw [← hyear, ← List.map_reverse, List.find?_map]
  simp only [Function.comp_def]
  rw [← List.getLast?_filter, filter_pemakaianOf, Kolom.terakhir]
  cases ((s.db.bulanItu b).filter (·.username = some u)).getLast? with
  | none => exact js.number_number 0
  | some r => exact js.number_number (k.nilai r)

def isiWarga (db : Db) (u : String) (tahun : Nat) : List (String × Json) :=
  let tahunIni := (db.pemakaianOf u).filter (·.tgl.year = tahun)
  [("pemakaian_warga", deretWarga tahunIni .pemakaian),
    ("tagihan_warga", deretWarga tahunIni .tagihan)]

theorem lookup_isiWarga (db : Db) (tahun : Nat) :
    (isiWarga db u tahun).lookup k.namaWarga =
      some (deretWarga ((db.pemakaianOf u).filter (·.tgl.year = tahun)) k) := by
  cases k <;> rfl

theorem jawab_warga {post : Form} {now : Stamp} (hp : post.get? "p" = some "semua_chart") :
    s.jawab u .warga post now = .ok (.json (.object (isiWarga s.db u now.date.year))) :=
  jawab_semuaChart s hp (run_chartWarga s u _) (ofMap_of_head (by decide) _ _)

theorem grafikWarga_terakhir (w : World) {post : Form} {now : Stamp} {b : Bulan}
    (hp : post.get? "p" = some "semua_chart") (hyear : now.date.year = b.tahun) :
    w.grafikWarga k u post now b = some (k.terakhir w.db u b) := by
  rw [World.grafikWarga, jawab_warga w.server u hp]
  dsimp only [grafikDari]
  rw [lookup_isiWarga, Option.bind_some, hyear]
  exact (setahun_warga w.server k u b.tahun).nilaiBulan

end Warga

section Sums
variable {db : Db} {b : Bulan}

theorem length_le_one {α : Type} {l : List α} (hnodup : l.Nodup)
    (h : ∀ r ∈ l, ∀ r' ∈ l, r' = r) : l.length ≤ 1 := by
  match l with
  | [] => exact Nat.zero_le 1
  | [_] => exact Nat.le_refl 1
  | r :: r' :: _ =>
    obtain rfl := h r List.mem_cons_self r' (List.mem_cons_of_mem _ List.mem_cons_self)
    exact absurd List.mem_cons_self (List.nodup_cons.mp hnodup).1

theorem grafikWarga_jumlah {w : World} (hone : SatuPerBulan w.db) (k : Kolom) (u : String)
    {post : Form} {now : Stamp} (hp : post.get? "p" = some "semua_chart")
    (hyear : now.date.year = b.tahun) : w.grafikWarga k u post now b =
      some (((w.db.bulanItu b).filter (·.username = some u)).map k.nilai).sum := by
  have hsingle : ((w.db.bulanItu b).filter (·.username = some u)).length ≤ 1 := by
    refine length_le_one (((List.Nodup.of_map _ w.db.pemakaian.nodup).filter _).filter _) ?_
    intro r hr r' hr'
    rw [List.mem_filter, decide_eq_true_eq] at hr hr'
    exact satuPerBulan_unik hone hr.1 hr'.1 hr.2 hr'.2
  rw [grafikWarga_terakhir k u w hp hyear, Kolom.terakhir, getLast?_eq_sum k.nilai hsingle]

theorem jumlah_pemilik (f : Pemakaian → Decimal) :
    (db.pemilik.map fun v => (((db.bulanItu b).filter (·.username = some v)).map f).sum).sum =
      (((db.bulanItu b).filter (·.username.isSome)).map f).sum := by
  have hkeys : (db.pemilik.map some).Nodup :=
    (List.nodup_dedup _).map (Option.some_injective _)
  have hrows : ∀ r ∈ (db.bulanItu b).filter (·.username.isSome), r.username ∈ db.pemilik.map some := by
    intro r hr
    rw [List.mem_filter, Db.mem_bulanItu] at hr
    obtain ⟨u, hu⟩ := Option.isSome_iff_exists.mp hr.2
    rw [hu]
    exact List.mem_map_of_mem (List.mem_dedup.mpr (List.mem_filterMap.mpr ⟨r, hr.1.1, hu⟩))
  rw [← sum_groupSum Pemakaian.username f hkeys hrows, List.map_map]
  congr 1
  refine List.map_congr_left fun v _ => ?_
  rw [Function.comp_apply, groupSum, List.filter_filter]
  congr 2
  refine List.filter_congr fun r _ => ?_
  by_cases hname : r.username = some v <;> simp [hname]

theorem jumlah_tanpaPemilik (f : Pemakaian → Decimal) :
    (((db.bulanItu b).filter (·.username.isSome)).map f).sum +
      (((db.bulanItu b).filter (·.username = none)).map f).sum = ((db.bulanItu b).map f).sum := by
  have hsplit := List.sum_map_filter_add_sum_map_filter_not
    (fun r : Pemakaian => r.username.isSome = true) f (db.bulanItu b)
  simpa using hsplit

theorem jumlah_grafikWarga {w : World} (hone : SatuPerBulan w.db) (k : Kolom) (post : Form)
    (now : Stamp) (hp : post.get? "p" = some "semua_chart") (hyear : now.date.year = b.tahun) :
    (w.db.pemilik.map fun v => (w.grafikWarga k v post now b).getD 0).sum +
      (((w.db.bulanItu b).filter (·.username = none)).map k.nilai).sum =
        k.deret.nilai w.server.db b := by
  have hpemilik : (w.db.pemilik.map fun v => (w.grafikWarga k v post now b).getD 0).sum =
      (((w.db.bulanItu b).filter (·.username.isSome)).map k.nilai).sum := by
    rw [← jumlah_pemilik]
    congr 1
    refine List.map_congr_left fun v _ => ?_
    rw [grafikWarga_jumlah hone k v hp hyear, Option.getD_some]
  rw [hpemilik, jumlah_tanpaPemilik]
  cases k <;> rfl

end Sums

/-- A bill for no consumption is no bill, and no consumption is negative. -/
structure Pemakaian.Wajar (r : Pemakaian) : Prop where
  nonneg : 0 ≤ r.pemakaian
  gratis : r.pemakaian = 0 → r.tagihan = 0

def Db.Berpemilik (db : Db) : Prop :=
  ∀ r ∈ db.pemakaian.rows, r.username = none → r.pemakaian = 0

/-- With one reading a month the charts lose nothing exactly when no consumption is on
record for nobody. -/
theorem tidakHilang_iff {w : World} (hone : SatuPerBulan w.db)
    (hwajar : ∀ r ∈ w.db.pemakaian.rows, r.Wajar) : TidakHilang w ↔ w.db.Berpemilik := by
  constructor
  · intro h r hr hname
    have hshown := h.staf .pemakaian "" .petugas [("p", "semua_chart")] ⟨r.tgl, 0⟩ r.tgl.bulan rfl
      rfl rfl
    rw [grafik_deret w.server rfl rfl rfl, Option.some.injEq,
      ← jumlah_grafikWarga hone .pemakaian [("p", "semua_chart")] ⟨r.tgl, 0⟩ rfl rfl] at hshown
    have hzero := add_eq_left.mp hshown
    refine List.all_zero_of_le_zero_le_of_sum_eq_zero ?_ hzero (List.mem_map.mpr ⟨r, ?_, rfl⟩)
    · intro x hx
      obtain ⟨r', hr', rfl⟩ := List.mem_map.mp hx
      rw [List.mem_filter, Db.mem_bulanItu] at hr'
      exact (hwajar r' hr'.1.1).nonneg
    · rw [List.mem_filter, Db.mem_bulanItu, decide_eq_true_eq]
      exact ⟨⟨hr, rfl⟩, hname⟩
  · intro h
    refine ⟨fun k u post now b hp hyear => grafikWarga_jumlah hone k u hp hyear, ?_⟩
    intro k u level post now b hlevel hp hyear
    have hzero : (((w.db.bulanItu b).filter (·.username = none)).map k.nilai).sum = 0 := by
      refine List.sum_eq_zero fun x hx => ?_
      obtain ⟨r, hr, rfl⟩ := List.mem_map.mp hx
      rw [List.mem_filter, Db.mem_bulanItu, decide_eq_true_eq] at hr
      have hkosong := h r hr.1.1 hr.2
      cases k with
      | pemakaian => exact hkosong
      | tagihan => exact (hwajar r hr.1.1).gratis hkosong
    rw [grafik_deret w.server hlevel hp hyear, ← jumlah_grafikWarga hone k post now hp hyear, hzero,
      add_zero]

/-! ## Which requests keep it so -/

/-- A meter_add that stores consumption names its resident, and no meter_edit gives
consumption to a reading of nobody. -/
structure MencatatPemilik (php : Php) (w : World) (q : Request) : Prop where
  tambah : ∀ actor level b, Adds php w q actor level b →
    q.post.get? "username" = none → b.pemakaian = 0
  ubah : ∀ actor level b, Edits php w q actor level b →
    ∀ r ∈ w.db.pemakaianByNo (Db.nomor php q.post), r.username = none → b.pemakaian = 0

section Step
variable {php : Php} {w : World} {q : Request}

theorem wajar_step (h : ∀ r ∈ w.db.pemakaian.rows, r.Wajar) :
    ∀ r ∈ (step php w q).db.pemakaian.rows, r.Wajar := by
  have hgratis {b : Reading} (rate : Decimal) (hzero : b.pemakaian = 0) : rate * b.pemakaian = 0 := by
    rw [hzero, mul_zero]
  refine (rows_step_iff php q (fun _ _ hr => ⟨hr.nonneg, hr.gratis⟩) h).mpr ⟨?_, ?_⟩
  · intro actor level b hadds
    exact ⟨hadds.nonneg, hgratis _⟩
  · intro actor level b hedits r _
    exact ⟨hedits.nonneg, hgratis _⟩

theorem berpemilik_step (h : w.db.Berpemilik) :
    (step php w q).db.Berpemilik ↔ MencatatPemilik php w q := by
  have hstep := rows_step_iff php q (P := fun r => r.username = none → r.pemakaian = 0)
    (fun _ _ hr => hr) h
  exact hstep.trans ⟨fun hrows => ⟨hrows.1, hrows.2⟩, fun hcatat => ⟨hcatat.tambah, hcatat.ubah⟩⟩

end Step

/-- Over every run whose clocks agree, from an installation without readings: the charts
lose nothing exactly when consumption is stored under a resident's name only. -/
theorem resident_charts_iff (php : Php) {w : World} (hempty : w.db.pemakaian.rows = [])
    (qs : List Request) (hagree : ∀ q ∈ qs, q.clock.Agree) :
    Trace.Always TidakHilang (step php) w qs ↔
      Trace.Admissible (MencatatPemilik php) (step php) w qs := by
  have hside (w : World) (q : Request)
      (hJ : SatuPerBulan w.db ∧ ∀ r ∈ w.db.pemakaian.rows, r.Wajar) (hok : q.clock.Agree) :
      SatuPerBulan (step php w q).db ∧ ∀ r ∈ (step php w q).db.pemakaian.rows, r.Wajar :=
    ⟨satuPerBulan_agree php hok hJ.1, wajar_step hJ.2⟩
  have hexact (w : World) (q : Request)
      (hJ : SatuPerBulan w.db ∧ ∀ r ∈ w.db.pemakaian.rows, r.Wajar) (hI : TidakHilang w)
      (hok : q.clock.Agree) : TidakHilang (step php w q) ↔ MencatatPemilik php w q := by
    obtain ⟨hone', hwajar'⟩ := hside w q hJ hok
    rw [tidakHilang_iff hone' hwajar']
    exact berpemilik_step ((tidakHilang_iff hJ.1 hJ.2).mp hI)
  have hnone {r : Pemakaian} (hr : r ∈ w.db.pemakaian.rows) : False := by
    rw [hempty] at hr
    cases hr
  have hone : SatuPerBulan w.db := fun _ hr => (hnone hr).elim
  have hwajar : ∀ r ∈ w.db.pemakaian.rows, r.Wajar := fun _ hr => (hnone hr).elim
  have hrun : Trace.Admissible (fun _ q => q.clock.Agree) (step php) w qs :=
    Trace.admissible_of_forall_mem fun q hq _ => hagree q hq
  exact Trace.always_iff_admissible hside hexact hrun ⟨hone, hwajar⟩
    ((tidakHilang_iff hone hwajar).mpr fun _ hr => (hnone hr).elim)

theorem resident_charts_kantor :
    Trace.Always TidakHilang (step .decimal) (serve .decimal World.pertama kantor)
      [catatSepuluh "budi", bayarSepuluh] := by
  have hmilik : ∀ r ∈ (step .decimal (serve .decimal World.pertama kantor)
      (catatSepuluh "budi")).db.pemakaian.rows, r.username ≠ none := by
    decide +kernel
  refine (resident_charts_iff .decimal (by decide +kernel) _ (by decide +kernel)).mpr
    ⟨⟨?_, ?_⟩, ⟨?_, ?_⟩, trivial⟩
  · exact fun _ _ _ _ hnone => absurd hnone (by decide)
  · exact fun _ _ _ hedits => absurd hedits.auth.asks (by decide)
  · exact fun _ _ _ hadds => absurd hadds.auth.asks (by decide)
  · exact fun _ _ _ _ r hfound hnone => absurd hnone (hmilik r (mem_of_pemakaianByNo hfound).1)

/-- The staff's chart shows ten units that are on no resident's chart. -/
theorem resident_charts_violated :
    let qs := kantor ++ [catatTanpaNama]
    let w := serve .decimal World.pertama qs
    (∀ q ∈ qs, q.clock.Agree) ∧ World.pertama.db.pemakaian.rows = [] ∧ w.db.pemilik = [] ∧
      Deret.pemakaian.nilai w.db januari = 10 ∧ ¬TidakHilang w := by
  refine ⟨by decide +kernel, rfl, by decide +kernel, by decide +kernel, fun h => ?_⟩
  have hshown := h.staf .pemakaian "" .petugas [("p", "semua_chart")] hariBuka januari rfl rfl rfl
  obtain ⟨hten, hnobody⟩ :
      Deret.pemakaian.nilai
        (serve .decimal World.pertama (kantor ++ [catatTanpaNama])).db januari = 10 ∧
      (serve .decimal World.pertama (kantor ++ [catatTanpaNama])).db.pemilik = [] := by
    decide +kernel
  rw [grafik_deret _ rfl rfl rfl, hnobody] at hshown
  rw [List.map_nil, List.sum_nil] at hshown
  exact absurd (hten.symm.trans (Option.some.inj hshown)) (by decide)

end SistemAir
