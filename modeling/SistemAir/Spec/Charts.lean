import SistemAir.Spec.Residents

/-! What the browser makes of the charts: the flat list of each series taken apart into the
pairs of names and values it was built from, and the totals it shows. -/
namespace SistemAir

open Alternate Groups JsonText KeyedTable StatementProgram Prog

/-! ## Taking a series apart -/

theorem foldlM_add {α M : Type} [AddMonoid M] {number : α → Option M} {arr : List α}
    {values : List M} (h : arr.map number = values.map some) (x : M) :
    arr.foldlM (fun a b => return a + (← number b)) x = some (x + values.sum) := by
  induction arr generalizing values x with
  | nil =>
    rw [List.map_nil, List.nil_eq, List.map_eq_nil_iff] at h
    rw [h, List.sum_nil, add_zero]
    rfl
  | cons item arr ih =>
    cases values with
    | nil => cases h
    | cons y values =>
      rw [List.map_cons, List.map_cons, List.cons.injEq] at h
      have hrest := ih h.2 (x + y)
      rw [List.foldlM_cons, h.1, List.sum_cons, ← add_assoc, ← hrest]
      rfl

section Decode
variable {β : Type} (js : Js)

/-- The browser reads these pairs, in this order, and shows this total. -/
structure Terbaca (pasangan : List (Json × Decimal)) (total : Decimal) (arr : List Json) : Prop where
  label : getX arr = pasangan.map Prod.fst
  nilai : (getY arr).map js.number = pasangan.map fun p => some p.2
  total : js.sumVal (getY arr) = some total

theorem terbaca_flatMap (l : List β) (label nilai : β → Json) (angka : β → Decimal)
    (h : ∀ x ∈ l, js.number (nilai x) = some (angka x)) {total : Decimal}
    (htotal : (l.map angka).sum = total) :
    Terbaca js (l.map fun x => (label x, angka x)) total
      (l.flatMap fun x => [label x, nilai x]) := by
  have hnumbers : (getY (l.flatMap fun x => [label x, nilai x])).map js.number =
      (l.map angka).map some := by
    rw [flatMap_eq_alternate, getY, odd_alternate, List.map_map, List.map_map, List.map_map]
    exact List.map_congr_left fun x hx => h x hx
  refine ⟨?_, ?_, ?_⟩
  · rw [flatMap_eq_alternate, getX, even_alternate, List.map_map, List.map_map]
    rfl
  · rw [hnumbers, List.map_map, List.map_map]
    rfl
  · rw [Js.sumVal, foldlM_add hnumbers, zero_add, htotal]

end Decode

/-! ## The twelve months -/

def bulanTahun (tahun : Nat) : List Bulan :=
  (List.finRange 12).map fun i : Fin 12 => ⟨tahun, i.val + 1, Nat.le_add_left 1 i, i.isLt⟩

theorem map_bulanTahun (tahun : Nat) : (bulanTahun tahun).map Bulan.bulan = List.range' 1 12 := by
  rw [bulanTahun, List.map_map]
  rfl

theorem tahun_of_mem {tahun : Nat} {b : Bulan} (hb : b ∈ bulanTahun tahun) : b.tahun = tahun := by
  obtain ⟨i, -, rfl⟩ := List.mem_map.mp hb
  rfl

theorem bulan_awal : 1 ≤ 1 ∧ 1 ≤ 12 := by decide

theorem hari_awal : 1 ≤ 1 ∧ 1 ≤ 31 := by decide

def awalTahun (tahun : Nat) : Date := ⟨tahun, 1, 1, bulan_awal, hari_awal⟩

def Db.tahunItu (db : Db) (tahun : Nat) : List Pemakaian :=
  db.pemakaian.rows.filter fun r =>
    (awalTahun tahun).ordinal ≤ r.tgl.ordinal && r.tgl.ordinal < (awalTahun (tahun + 1)).ordinal

theorem ordinal_awalTahun (tahun : Nat) : (awalTahun tahun).ordinal = tahun * 372 := by
  simp only [awalTahun, Date.ordinal]
  omega

section Year
variable (db : Db) (tahun : Nat)

theorem tahunItu_eq : db.tahunItu tahun = db.pemakaianTahun tahun := by
  rw [Db.tahunItu, Db.pemakaianTahun]
  refine List.filter_congr fun r _ => ?_
  have hmonth := r.tgl.month_mem
  have hday := r.tgl.day_mem
  rw [Bool.eq_iff_iff]
  simp only [Bool.and_eq_true, decide_eq_true_eq, ordinal_awalTahun]
  unfold Date.ordinal
  omega

/-- Twelve groups make up the year, whichever readings are counted. -/
theorem sum_bulanTahun (p : Pemakaian → Bool) (f : Pemakaian → Decimal) :
    ((bulanTahun tahun).map fun b => (((db.bulanItu b).filter p).map f).sum).sum =
      (((db.tahunItu tahun).filter p).map f).sum := by
  have hmonths : ∀ r ∈ (db.pemakaianTahun tahun).filter p, r.tgl.month ∈ List.range' 1 12 := by
    intro r _
    have hmonth := r.tgl.month_mem
    rw [List.mem_range'_1]
    omega
  rw [tahunItu_eq, ← sum_groupSum (fun r : Pemakaian => r.tgl.month) f List.nodup_range' hmonths]
  rw [← map_bulanTahun tahun, List.map_map]
  congr 1
  refine List.map_congr_left fun b hb => ?_
  rw [Function.comp_apply, groupSum, ← tahun_of_mem hb, filter_tahun]

end Year

/-! ## The staff's series -/

namespace Deret

/-- What the series adds up to over these readings, 0 over none; those recorded are counted
against all residents, once a month. -/
def jumlah (db : Db) (bulan : Nat) (rows : List Pemakaian) : Deret → Decimal
  | .pemakaian => (rows.map Pemakaian.pemakaian).sum
  | .tercatat => countUsername rows
  | .belumTercatat => bulan * db.warga.length - countUsername rows
  | .tagihan => (rows.map Pemakaian.tagihan).sum
  | .pemasukan => ((rows.filter (·.status = some "LUNAS")).map Pemakaian.tagihan).sum
  | .sdhLunas => countUsername (rows.filter (·.status = some "LUNAS"))
  | .blmLunas => countUsername (rows.filter (·.status = some "BELUM LUNAS"))

def memilih : Deret → Pemakaian → Bool
  | .pemakaian | .tagihan => fun _ => true
  | .tercatat | .belumTercatat => fun r => r.username.isSome
  | .pemasukan => fun r => r.status = some "LUNAS"
  | .sdhLunas => fun r => r.username.isSome && r.status = some "LUNAS"
  | .blmLunas => fun r => r.username.isSome && r.status = some "BELUM LUNAS"

def bobot : Deret → Pemakaian → Decimal
  | .pemakaian => Pemakaian.pemakaian
  | .tagihan | .pemasukan => Pemakaian.tagihan
  | .tercatat | .sdhLunas | .blmLunas => fun _ => 1
  | .belumTercatat => fun _ => -1

def pangkal (db : Db) : Deret → Decimal
  | .belumTercatat => db.warga.length
  | _ => 0

end Deret

section Staf
variable (db : Db) (d : Deret)

theorem sum_const {α : Type} (rows : List α) (x : Decimal) :
    (rows.map fun _ => x).sum = rows.length * x := by
  rw [List.map_const', List.sum_replicate, nsmul_eq_mul]

theorem jumlah_eq (bulan : Nat) (rows : List Pemakaian) :
    d.jumlah db bulan rows =
      bulan * d.pangkal db + ((rows.filter d.memilih).map d.bobot).sum := by
  cases d with
  | pemakaian | tagihan =>
    simp only [Deret.jumlah, Deret.pangkal, Deret.memilih, Deret.bobot, List.filter_true,
      mul_zero, zero_add]
  | pemasukan =>
    simp only [Deret.jumlah, Deret.pangkal, Deret.memilih, Deret.bobot, mul_zero, zero_add]
  | tercatat | sdhLunas | blmLunas =>
    simp only [Deret.jumlah, Deret.pangkal, Deret.memilih, Deret.bobot, countUsername,
      List.filter_filter, sum_const, mul_zero, mul_one, zero_add]
  | belumTercatat =>
    simp only [Deret.jumlah, Deret.pangkal, Deret.memilih, Deret.bobot, countUsername, sum_const]
    ring

theorem nilai_eq_jumlah (b : Bulan) : d.nilai db b = d.jumlah db 1 (db.bulanItu b) := by
  cases d with
  | belumTercatat => simp only [Deret.nilai, Deret.jumlah, Nat.cast_one, one_mul]
  | _ => rfl

theorem sum_nilai (tahun : Nat) :
    ((bulanTahun tahun).map fun b => d.nilai db b).sum = d.jumlah db 12 (db.tahunItu tahun) := by
  have hsplit (b : Bulan) : d.nilai db b =
      d.pangkal db + (((db.bulanItu b).filter d.memilih).map d.bobot).sum := by
    rw [nilai_eq_jumlah, jumlah_eq, Nat.cast_one, one_mul]
  simp only [hsplit]
  rw [List.sum_map_add, sum_bulanTahun, jumlah_eq, sum_const, bulanTahun, List.length_map,
    List.length_finRange]

end Staf

/-! ## The answers -/

def labelBulan (b : Bulan) : Json := .string (bln b.bulan)

def labelTipe : Option String → Json
  | none => .null
  | some tipe => .string tipe

/-- The series of this name is in the answer, and the browser reads it so. -/
def Memuat (js : Js) (fields : List (String × Json)) (nama : String)
    (pasangan : List (Json × Decimal)) (total : Decimal) : Prop :=
  ∃ arr, fields.lookup nama = some (.array arr) ∧ Terbaca js pasangan total arr

def Level.namaDeret : Level → List String
  | .admin | .bendahara =>
    ["pemakaian", "tipe_pelanggan", "tercatat", "belum_tercatat", "tagihan", "pemasukan",
      "sdh_lunas", "blm_lunas"]
  | .petugas => ["pemakaian", "tipe_pelanggan", "tercatat", "belum_tercatat"]
  | .warga => ["pemakaian_warga", "tagihan_warga"]

/-- Of each month, in calendar order, what its readings add up to, and in all what the
readings of the year do; one pair for each kind of residents, in all the residents. -/
structure GrafikStaf (js : Js) (db : Db) (level : Level) (tahun : Nat)
    (fields : List (String × Json)) : Prop where
  deret : ∀ d : Deret, d.untuk level = true →
    Memuat js fields d.nama ((bulanTahun tahun).map fun b => (labelBulan b, d.nilai db b))
      (d.jumlah db 12 (db.tahunItu tahun))
  tipe : ∃ tipe : List (Option String), tipe.Nodup ∧
    (∀ t, t ∈ tipe ↔ ∃ a ∈ db.warga, a.tipe = t) ∧
    Memuat js fields "tipe_pelanggan"
      (tipe.map fun t => (labelTipe t, ((db.warga.filter (·.tipe = t)).length : Decimal)))
      db.warga.length

/-- Of each month what the resident's last reading in it says, the only one where there is
at most one; in all what the readings of the year add up to if no month has two. -/
structure GrafikWarga (js : Js) (db : Db) (u : String) (tahun : Nat)
    (fields : List (String × Json)) : Prop where
  deret : ∀ k : Kolom, Memuat js fields k.namaWarga
    ((bulanTahun tahun).map fun b => (labelBulan b, k.terakhir db u b))
    ((bulanTahun tahun).map fun b => k.terakhir db u b).sum
  bulan : ∀ (k : Kolom) (b : Bulan), ((db.bulanItu b).filter (·.username = some u)).length ≤ 1 →
    k.terakhir db u b = (((db.bulanItu b).filter (·.username = some u)).map k.nilai).sum
  jumlah : (∀ b ∈ bulanTahun tahun,
      ((db.bulanItu b).filter (·.username = some u)).length ≤ 1) → ∀ k : Kolom,
    ((bulanTahun tahun).map fun b => k.terakhir db u b).sum =
      (((db.tahunItu tahun).filter (·.username = some u)).map k.nilai).sum

section Answers
variable (js : Js) (s : Server)

theorem memuat_setahun {fields : List (String × Json)} {nama : String} {series : Json}
    {tahun : Nat} {nilai : Bulan → Decimal} (hseries : fields.lookup nama = some series)
    (h : Setahun tahun nilai series) {total : Decimal}
    (htotal : ((bulanTahun tahun).map nilai).sum = total) :
    Memuat js fields nama ((bulanTahun tahun).map fun b => (labelBulan b, nilai b)) total := by
  obtain ⟨value, rfl, hvalue⟩ := h
  refine ⟨_, hseries, ?_⟩
  rw [← map_bulanTahun tahun, List.flatMap_map]
  exact terbaca_flatMap js (bulanTahun tahun) labelBulan (fun b => value b.bulan) nilai
    (fun b hb => hvalue js b (tahun_of_mem hb)) htotal

theorem sum_tipe (db : Db) :
    ((db.warga.map Login.tipe).dedup.map fun t =>
      ((db.warga.filter (·.tipe = t)).length : Decimal)).sum = db.warga.length := by
  have hkinds : ∀ a ∈ db.warga, a.tipe ∈ (db.warga.map Login.tipe).dedup :=
    fun a ha => List.mem_dedup.mpr (List.mem_map_of_mem ha)
  have hgroups := sum_groupSum Login.tipe (fun _ => (1 : Decimal)) (List.nodup_dedup _) hkinds
  have hcount (t : Option String) : groupSum Login.tipe (fun _ => (1 : Decimal)) db.warga t =
      (db.warga.filter (·.tipe = t)).length := by
    rw [groupSum, sum_const, mul_one]
  rwa [funext hcount, sum_const, mul_one] at hgroups

theorem nama_isiGrafik (db : Db) (tahun : Nat) {level : Level} (hstaf : level ≠ .warga) :
    (isiGrafik db tahun level).map Prod.fst = level.namaDeret := by
  cases level with
  | warga => exact absurd rfl hstaf
  | _ => rfl

theorem lookup_tipe (db : Db) (tahun : Nat) {level : Level} (hstaf : level ≠ .warga) :
    (isiGrafik db tahun level).lookup "tipe_pelanggan" =
      some (.array ((Select.tipePelanggan.jawab _ db).flatMap fun e =>
        [labelTipe e.1, teksAngka e.2])) := by
  cases level with
  | warga => exact absurd rfl hstaf
  | _ => rfl

theorem grafikStaf (tahun : Nat) {level : Level} (hstaf : level ≠ .warga) :
    GrafikStaf js s.db level tahun (isiGrafik s.db tahun level) := by
  constructor
  · intro d hd
    obtain ⟨series, hseries, hmonths⟩ := menyajikan_grafik s tahun hd
    exact memuat_setahun js hseries hmonths (sum_nilai s.db d tahun)
  · refine ⟨_, List.nodup_dedup (s.db.warga.map Login.tipe), ?_, ?_⟩
    · intro t
      rw [List.mem_dedup, List.mem_map]
    · refine ⟨_, lookup_tipe s.db tahun hstaf, ?_⟩
      rw [Select.jawab, List.flatMap_map]
      refine terbaca_flatMap js _ labelTipe (fun t => teksAngka (s.db.warga.filter (·.tipe = t)).length)
        _ (fun t _ => js.number_teksAngka _) (sum_tipe s.db)

theorem grafikWarga (u : String) (tahun : Nat) :
    GrafikWarga js s.db u tahun (isiWarga s.db u tahun) := by
  have hbulan (k : Kolom) (b : Bulan)
      (hone : ((s.db.bulanItu b).filter (·.username = some u)).length ≤ 1) :
      k.terakhir s.db u b =
        (((s.db.bulanItu b).filter (·.username = some u)).map k.nilai).sum :=
    getLast?_eq_sum k.nilai hone
  refine ⟨?_, hbulan, ?_⟩
  · intro k
    exact memuat_setahun js (lookup_isiWarga k u s.db tahun) (setahun_warga s k u tahun) rfl
  · intro hone k
    rw [← sum_bulanTahun]
    congr 1
    exact List.map_congr_left fun b hb => hbulan k b (hone b hb)

end Answers

/-- Whatever login and pemakaian hold, the browser reads every series of the chart as the
names and values it was built from, in order, and shows their total. -/
theorem chart_round_trip (js : Js) (s : Server) {u : String} {level : Level} {post : Form}
    (now : Stamp) (hu : isEmpty (some u) = false) (hlevel : s.db.levelOf (some u) = some level)
    (hp : post.get? "p" = some "semua_chart") :
    ∃ fields, s.ajax (some u) post now = .ok (.json (.object fields)) ∧
      fields.map Prod.fst = level.namaDeret ∧
      (level ≠ .warga → GrafikStaf js s.db level now.date.year fields) ∧
      (level = .warga → GrafikWarga js s.db u now.date.year fields) := by
  have hanswer : s.ajax (some u) post now = s.jawab u level post now :=
    ajax_served s post now hu hlevel
  rw [hanswer]
  by_cases hwarga : level = .warga
  · subst hwarga
    refine ⟨_, jawab_warga s u hp, rfl, fun hstaf => absurd rfl hstaf, fun _ => ?_⟩
    exact grafikWarga js s u now.date.year
  · obtain ⟨hrun, hobject⟩ := run_semuaChart s u hwarga now.date.year
    refine ⟨_, jawab_semuaChart s hp hrun hobject, ?_, fun _ => ?_, fun h => absurd h hwarga⟩
    · exact nama_isiGrafik s.db now.date.year hwarga
    · exact grafikStaf js s now.date.year hwarga

theorem chart_round_trip_kantor :
    (bulanTahun 2026).map (fun b => Deret.pemasukan.nilai terbayarBudi.db b) =
        10000 :: List.replicate 11 0 ∧
      ∃ fields, terbayarBudi.server.ajax (some "siti") [("p", "semua_chart")] hariKedua =
          .ok (.json (.object fields)) ∧
        fields.map Prod.fst = Level.bendahara.namaDeret ∧
        (Level.bendahara ≠ .warga →
          GrafikStaf Js.angka terbayarBudi.server.db .bendahara hariKedua.date.year fields) ∧
        (Level.bendahara = .warga →
          GrafikWarga Js.angka terbayarBudi.server.db "siti" hariKedua.date.year fields) :=
  ⟨by decide +kernel, chart_round_trip Js.angka terbayarBudi.server hariKedua (by decide)
    (by decide +kernel) (by decide)⟩

def Js.deret (js : Js) (nama : String) :
    Except Galat AjaxHasil → Option (List (Option Decimal) × Option Decimal)
  | .ok (.json (.object fields)) =>
    match fields.lookup nama with
    | some (.array arr) => some ((getY arr).map js.number, js.sumVal (getY arr))
    | _ => none
  | _ => none

def duaBacaan : Server :=
  { tercatatBudi.server with
    db := { tercatatBudi.db with
      pemakaian := tercatatBudi.db.pemakaian.insert
        (fun no => { tagihanBudi with no := no, pemakaian := 5, tagihan := 5000 }) fun _ => rfl } }

/-- Without any reading, belum_tercatat of every month is the number of residents; of two
readings in a month, the resident's chart shows the second. -/
theorem chart_round_trip_violated :
    let kosong := (serve .decimal World.pertama kantor).server
    (kosong.db.pemakaian.rows = [] ∧
      Js.angka.deret "belum_tercatat"
          (kosong.ajax (some "admin") [("p", "semua_chart")] hariKedua) =
        some (List.replicate 12 (some 1), some 12)) ∧
      (duaBacaan.db.bulanItu januari).map (fun r => (r.username, r.pemakaian)) =
        [(some "budi", 10), (some "budi", 5)] ∧
      Js.angka.deret "pemakaian_warga"
          (duaBacaan.ajax (some "budi") [("p", "semua_chart")] hariKedua) =
        some (some 5 :: List.replicate 11 (some 0), some 5) := by
  decide +kernel

end SistemAir
