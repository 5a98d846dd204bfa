import Mathlib.Tactic.IntervalCases
import SistemAir.Spec.AjaxIsolation
import SistemAir.Spec.Months

/-! What the staff read off the reports: the boxes of the summary for one month and the
series of the chart for the twelve months of the year, as numbers. -/
namespace SistemAir

open Groups JsonText KeyedTable StatementProgram Prog

def Server.jawab (s : Server) (u : String) (level : Level) (post : Form) (now : Stamp) :
    Except Galat AjaxHasil :=
  ((jawabAjax u level post now).run execKueri s).1

/-! ## Numbers in the answers -/

/-- The number behind a JSON value; mysqli hands some numbers over as texts. -/
def angkaJson : Json → Option Decimal
  | .number n => some n
  | .string text => Decimal.ofText? text
  | _ => none

def nilaiBulan (bulan : Nat) : Json → Option Decimal
  | .array items => (items[2 * bulan - 1]?).bind angkaJson
  | _ => none

def grafikDari (nama : String) (bulan : Nat) : Except Galat AjaxHasil → Option Decimal
  | .ok (.json (.object fields)) => (fields.lookup nama).bind (nilaiBulan bulan)
  | _ => none

def ringkasanDari (nama : String) : Except Galat AjaxHasil → Option Json
  | .ok (.json (.array rows)) => rows.findSome? fun row =>
    match row with
    | .object fields => fields.lookup nama
    | _ => none
  | _ => none

@[simp] theorem angkaJson_number (n : Decimal) : angkaJson (.number n) = some n := rfl

@[simp] theorem angkaJson_teksAngka (n : Decimal) : angkaJson (teksAngka n) = some n :=
  Decimal.ofText?_text n

def Js.angka : Js where
  number := angkaJson
  number_number := angkaJson_number
  number_teksAngka := angkaJson_teksAngka

/-- A series of the twelve months of a year, and what a browser reads of each. -/
def Setahun (tahun : Nat) (nilai : Bulan → Decimal) (series : Json) : Prop :=
  ∃ value : Nat → Json,
    series = .array ((List.range' 1 12).flatMap fun bulan =>
      [.string (bln bulan), value bulan]) ∧
    ∀ (js : Js) (b : Bulan), b.tahun = tahun → js.number (value b.bulan) = some (nilai b)

theorem nilaiBulan_flatMap (value : Nat → Json) (b : Bulan) :
    nilaiBulan b.bulan (.array ((List.range' 1 12).flatMap fun bulan =>
      [.string (bln bulan), value bulan])) = angkaJson (value b.bulan) := by
  obtain ⟨tahun, bulan, hlow, hhigh⟩ := b
  dsimp only
  interval_cases bulan <;> rfl

theorem Setahun.nilaiBulan {nilai : Bulan → Decimal} {series : Json} {b : Bulan}
    (h : Setahun b.tahun nilai series) : nilaiBulan b.bulan series = some (nilai b) := by
  obtain ⟨value, rfl, hvalue⟩ := h
  exact (nilaiBulan_flatMap value b).trans (hvalue Js.angka b rfl)

theorem number_perBulan (js : Js) {α : Type} (rows : List Pemakaian) (f : List Pemakaian → α)
    (angka : α → Decimal) (hzero : angka (f []) = 0) (b : Bulan) :
    js.number (((((perBulan rows f).map fun e => (e.1, teksAngka (angka e.2))).reverse.find?
      (·.1 = b.bulan)).map Prod.snd).getD (.number 0)) =
        some (angka (f (rows.filter (·.tgl.month = b.bulan)))) := by
  rw [← List.map_reverse, List.find?_map]
  have hfind := find?_reverse_perBulan rows f b
  simp only [Function.comp_def]
  rw [hfind]
  split
  · rename_i hnil
    rw [hnil, hzero]
    exact js.number_number 0
  · exact js.number_teksAngka _

/-! ## The series and the boxes -/

inductive Deret
  | pemakaian
  | tercatat
  | belumTercatat
  | tagihan
  | pemasukan
  | sdhLunas
  | blmLunas
  deriving DecidableEq, Repr

namespace Deret

def nama : Deret → String
  | .pemakaian => "pemakaian"
  | .tercatat => "tercatat"
  | .belumTercatat => "belum_tercatat"
  | .tagihan => "tagihan"
  | .pemasukan => "pemasukan"
  | .sdhLunas => "sdh_lunas"
  | .blmLunas => "blm_lunas"

def untuk : Level → Deret → Bool
  | .admin, _ | .bendahara, _ => true
  | .petugas, .pemakaian | .petugas, .tercatat | .petugas, .belumTercatat => true
  | _, _ => false

def nilai (db : Db) (b : Bulan) : Deret → Decimal
  | .pemakaian => ((db.bulanItu b).map Pemakaian.pemakaian).sum
  | .tercatat => countUsername (db.bulanItu b)
  | .belumTercatat => db.warga.length - countUsername (db.bulanItu b)
  | .tagihan => ((db.bulanItu b).map Pemakaian.tagihan).sum
  | .pemasukan => (((db.bulanItu b).filter (·.status = some "LUNAS")).map Pemakaian.tagihan).sum
  | .sdhLunas => countUsername ((db.bulanItu b).filter (·.status = some "LUNAS"))
  | .blmLunas => countUsername ((db.bulanItu b).filter (·.status = some "BELUM LUNAS"))

end Deret

/-- A box of the staff's summary that depends on the month. -/
inductive Kotak
  | totalPemakaian
  | tercatat
  | belumDicatat
  | totalPemasukan
  | lunas
  | belumBayar
  deriving DecidableEq, Repr

namespace Kotak

def nama : Kotak → String
  | .totalPemakaian => "total_pemakaian"
  | .tercatat => "tercatat"
  | .belumDicatat => "belum_dicatat"
  | .totalPemasukan => "total_pemasukan"
  | .lunas => "lunas"
  | .belumBayar => "belum_bayar"

def untuk : Level → Kotak → Bool
  | .admin, .totalPemakaian | .admin, .tercatat | .admin, .belumDicatat => true
  | .petugas, .totalPemakaian | .petugas, .tercatat | .petugas, .belumDicatat => true
  | .bendahara, .totalPemasukan | .bendahara, .lunas | .bendahara, .belumBayar => true
  | _, _ => false

def nilai (db : Db) (bulan : String) : Kotak → Decimal
  | .totalPemakaian => ((Select.totalPemakaian (bulan ++ "%")).jawab _ db).getD 0
  | .tercatat => ((Select.tercatat (bulan ++ "%")).jawab _ db : Nat)
  | .belumDicatat =>
    (Select.jmlWarga.jawab _ db : Nat) - ((Select.tercatat (bulan ++ "%")).jawab _ db : Nat)
  | .totalPemasukan => ((Select.totalPemasukan (bulan ++ "%")).jawab _ db).getD 0
  | .lunas => ((Select.jmlStatus (bulan ++ "%") "LUNAS").jawab _ db : Nat)
  | .belumBayar => ((Select.jmlStatus (bulan ++ "%") "BELUM LUNAS").jawab _ db : Nat)

def cetak : Kotak → Decimal → Json
  | .totalPemakaian, n => .string (numberFormat n)
  | .totalPemasukan, n => .string ("Rp " ++ numberFormat n)
  | _, n => .number n

def deret : Kotak → Deret
  | .totalPemakaian => .pemakaian
  | .tercatat => .tercatat
  | .belumDicatat => .belumTercatat
  | .totalPemasukan => .pemasukan
  | .lunas => .sdhLunas
  | .belumBayar => .blmLunas

end Kotak

/-! ## The chart -/

def deretPerBulan {α : Type} (rows : List Pemakaian) (f : List Pemakaian → α) (angka : α → Decimal) :
    Json :=
  duaBelasBulan ((perBulan rows f).map fun e => (e.1, teksAngka (angka e.2)))

section Chart
variable (s : Server)

theorem setahun_perBulan (tahun : Nat) (p : Pemakaian → Bool) {α : Type}
    (f : List Pemakaian → α) (angka : α → Decimal) (hzero : angka (f []) = 0) :
    Setahun tahun (fun b => angka (f ((s.db.bulanItu b).filter p)))
      (deretPerBulan ((s.db.pemakaianTahun tahun).filter p) f angka) := by
  refine ⟨_, rfl, fun js b hyear => ?_⟩
  rw [← hyear, number_perBulan js _ f angka hzero, filter_tahun]

theorem setahun_perBulan_all (tahun : Nat) {α : Type} (f : List Pemakaian → α) (angka : α → Decimal)
    (hzero : angka (f []) = 0) :
    Setahun tahun (fun b => angka (f (s.db.bulanItu b)))
      (deretPerBulan (s.db.pemakaianTahun tahun) f angka) := by
  have hall := setahun_perBulan s tahun (fun _ => true) f angka hzero
  simpa only [List.filter_true] using hall

/-- What belum_tercatat subtracts from the residents of the present. -/
theorem dataCatat_bulan (b : Bulan) :
    (((perBulan (s.db.pemakaianTahun b.tahun) countUsername).find? (·.1 = b.bulan)).map
      Prod.snd).getD 0 = countUsername (s.db.bulanItu b) := by
  have hgroup := filter_tahun s.db b fun _ => true
  rw [List.filter_true, List.filter_true] at hgroup
  rw [find?_perBulan, hgroup]
  split
  · rename_i hnil
    rw [hnil]
    rfl
  · rfl

def deretBelum (db : Db) (tahun : Nat) : Json :=
  .array ((List.range' 1 12).flatMap fun bulan =>
    [.string (bln bulan), .number ((db.warga.length : Decimal) -
      ((((perBulan (db.pemakaianTahun tahun) countUsername).find? (·.1 = bulan)).map
        Prod.snd).getD 0 : Nat))])

theorem setahun_belum (tahun : Nat) :
    Setahun tahun (fun b => (s.db.warga.length : Decimal) - countUsername (s.db.bulanItu b))
      (deretBelum s.db tahun) := by
  refine ⟨_, rfl, fun js b hyear => ?_⟩
  rw [← hyear, js.number_number, dataCatat_bulan]

def isiPencatat (db : Db) (tahun : Nat) (tipe : Json) : List (String × Json) :=
  [("pemakaian", deretPerBulan (db.pemakaianTahun tahun)
      (fun rows => (rows.map Pemakaian.pemakaian).sum) id),
    ("tipe_pelanggan", tipe),
    ("tercatat", deretPerBulan (db.pemakaianTahun tahun) countUsername Nat.cast),
    ("belum_tercatat", deretBelum db tahun)]

def deretTipe (db : Db) : Json :=
  .array ((Select.tipePelanggan.jawab _ db).flatMap fun (tipe, jml) =>
    [match tipe with | none => .null | some tipe => .string tipe, teksAngka jml])

theorem run_chartPencatat (tahun : Nat) :
    (chartPencatat tahun).run execKueri s =
      (.ok (isiPencatat s.db tahun (deretTipe s.db)), s) := by
  unfold chartPencatat
  rw [run_baca, run_baca, run_baca, run_baca]
  rfl

def isiTagihan (db : Db) (tahun : Nat) : List (String × Json) :=
  [("tagihan", deretPerBulan ((db.pemakaianTahun tahun).filter fun _ => true)
      (fun rows => (rows.map Pemakaian.tagihan).sum) id),
    ("pemasukan", deretPerBulan ((db.pemakaianTahun tahun).filter (·.status = some "LUNAS"))
      (fun rows => (rows.map Pemakaian.tagihan).sum) id),
    ("sdh_lunas", deretPerBulan ((db.pemakaianTahun tahun).filter (·.status = some "LUNAS"))
      countUsername Nat.cast),
    ("blm_lunas", deretPerBulan ((db.pemakaianTahun tahun).filter
      (·.status = some "BELUM LUNAS")) countUsername Nat.cast)]

theorem run_chartTagihan (tahun : Nat) :
    (chartTagihan tahun).run execKueri s = (.ok (isiTagihan s.db tahun), s) := by
  unfold chartTagihan
  rw [run_baca, run_baca, run_baca, run_baca]
  rfl

/-- These fields hold the series, and it says of each month what the month's readings add
up to. -/
def Db.Menyajikan (db : Db) (tahun : Nat) (fields : List (String × Json)) (d : Deret) : Prop :=
  ∃ series, fields.lookup d.nama = some series ∧ Setahun tahun (fun b => d.nilai db b) series

theorem menyajikan_pencatat (tahun : Nat) (tipe : Json) (rest : List (String × Json)) {d : Deret}
    (hd : d.untuk .petugas = true) :
    s.db.Menyajikan tahun (isiPencatat s.db tahun tipe ++ rest) d := by
  cases d with
  | pemakaian => exact ⟨_, rfl, setahun_perBulan_all s tahun _ id rfl⟩
  | tercatat => exact ⟨_, rfl, setahun_perBulan_all s tahun countUsername Nat.cast rfl⟩
  | belumTercatat => exact ⟨_, rfl, setahun_belum s tahun⟩
  | _ => cases hd

theorem menyajikan_tagihan (tahun : Nat) (tipe : Json) {d : Deret}
    (hd : d.untuk .petugas = false) :
    s.db.Menyajikan tahun (isiPencatat s.db tahun tipe ++ isiTagihan s.db tahun) d := by
  cases d with
  | tagihan =>
    refine ⟨_, rfl, ?_⟩
    have hall := setahun_perBulan s tahun (fun _ => true)
      (fun rows => (rows.map Pemakaian.tagihan).sum) id rfl
    simp only [List.filter_true] at hall ⊢
    exact hall
  | pemasukan => exact ⟨_, rfl, setahun_perBulan s tahun (·.status = some "LUNAS") _ id rfl⟩
  | sdhLunas =>
    exact ⟨_, rfl, setahun_perBulan s tahun (·.status = some "LUNAS") countUsername Nat.cast rfl⟩
  | blmLunas =>
    exact ⟨_, rfl,
      setahun_perBulan s tahun (·.status = some "BELUM LUNAS") countUsername Nat.cast rfl⟩
  | _ => cases hd

/-- A map that does not start with the key 0 is written as an object. -/
theorem ofMap_of_head {nama : String} (h : nama ≠ "0") (value : Json)
    (rest : List (String × Json)) :
    ofMap ((nama, value) :: rest) = .object ((nama, value) :: rest) := by
  refine if_neg fun hkeys => h ?_
  rw [List.length_cons, List.range_succ_eq_map, List.map_cons, List.map_cons] at hkeys
  exact (List.cons.inj hkeys).1

theorem jawab_semuaChart {u : String} {level : Level} {post : Form} {now : Stamp}
    (hp : post.get? "p" = some "semua_chart") {fields : List (String × Json)}
    (hfields : (semuaChart u level now.date.year).run execKueri s = (.ok fields, s))
    (hobject : ofMap fields = .object fields) :
    s.jawab u level post now = .ok (.json (.object fields)) := by
  have hanswer : (jawabAjax u level post now).run execKueri s = (.ok (.json (ofMap fields)), s) := by
    obtain ⟨pilihan, hbulan⟩ := run_bulanDefault s (orEmpty (post.get? "t")) now
    unfold jawabAjax
    rw [run_bind_ok execKueri hbulan, hp]
    exact run_bind_ok execKueri hfields _
  rw [Server.jawab, hanswer, hobject]

theorem grafik_semuaChart {u : String} {level : Level} {post : Form} {now : Stamp}
    (hp : post.get? "p" = some "semua_chart") {fields : List (String × Json)}
    (hfields : (semuaChart u level now.date.year).run execKueri s = (.ok fields, s))
    (hobject : ofMap fields = .object fields) {nama : String} {series : Json}
    (hseries : fields.lookup nama = some series) (bulan : Nat) :
    grafikDari nama bulan (s.jawab u level post now) = nilaiBulan bulan series := by
  rw [jawab_semuaChart s hp hfields hobject]
  dsimp only [grafikDari]
  rw [hseries, Option.bind_some]

def isiGrafik (db : Db) (tahun : Nat) : Level → List (String × Json)
  | .admin | .bendahara => isiPencatat db tahun (deretTipe db) ++ isiTagihan db tahun
  | .petugas => isiPencatat db tahun (deretTipe db)
  | .warga => []

theorem run_semuaChart (u : String) {level : Level} (hstaf : level ≠ .warga) (tahun : Nat) :
    (semuaChart u level tahun).run execKueri s = (.ok (isiGrafik s.db tahun level), s) ∧
      ofMap (isiGrafik s.db tahun level) = .object (isiGrafik s.db tahun level) := by
  cases level with
  | admin | bendahara =>
    refine ⟨?_, ofMap_of_head (by decide) _ _⟩
    rw [semuaChart, run_bind_ok execKueri (run_chartPencatat s tahun),
      run_bind_ok execKueri (run_chartTagihan s tahun), run_pure]
    rfl
  | petugas => exact ⟨run_chartPencatat s tahun, ofMap_of_head (by decide) _ _⟩
  | warga => exact absurd rfl hstaf

theorem menyajikan_grafik (tahun : Nat) {level : Level} {d : Deret} (hlevel : d.untuk level = true) :
    s.db.Menyajikan tahun (isiGrafik s.db tahun level) d := by
  cases level with
  | admin | bendahara =>
    cases hd : d.untuk .petugas with
    | true => exact menyajikan_pencatat s tahun _ _ hd
    | false => exact menyajikan_tagihan s tahun _ hd
  | petugas => exact menyajikan_pencatat s tahun _ [] hlevel
  | warga => cases d <;> cases hlevel

theorem grafik_deret {u : String} {level : Level} {post : Form} {now : Stamp} {d : Deret}
    (hlevel : d.untuk level = true) (hp : post.get? "p" = some "semua_chart") {b : Bulan}
    (hyear : now.date.year = b.tahun) :
    grafikDari d.nama b.bulan (s.jawab u level post now) = some (d.nilai s.db b) := by
  have hstaf : level ≠ .warga := by
    rintro rfl
    cases d <;> cases hlevel
  obtain ⟨hrun, hobject⟩ := run_semuaChart s u hstaf now.date.year
  obtain ⟨series, hseries, hmonths⟩ := menyajikan_grafik s now.date.year hlevel
  rw [hyear] at hmonths
  rw [grafik_semuaChart s hp hrun hobject hseries, hmonths.nilaiBulan]

end Chart

/-! ## The summary -/

section Summary
variable (s : Server)

theorem foldl_add (x : Decimal) (values : List Decimal) : values.foldl (· + ·) x = x + values.sum := by
  induction values generalizing x with
  | nil => rw [List.foldl_nil, List.sum_nil, add_zero]
  | cons y values ih => rw [List.foldl_cons, ih, List.sum_cons, add_assoc]

theorem sqlSum_getD (values : List Decimal) : (sqlSum values).getD 0 = values.sum := by
  cases values with
  | nil => rfl
  | cons x values => rw [sqlSum, Option.getD_some, foldl_add, List.sum_cons]

theorem kotak_nilai (db : Db) (b : Bulan) (k : Kotak) :
    k.nilai db b.teks = k.deret.nilai db b := by
  cases k with
  | totalPemakaian => 
    simp only [Kotak.nilai, Select.jawab, filter_like_all, sqlSum_getD]
    rfl
  | tercatat => 
    simp only [Kotak.nilai, Select.jawab, filter_like_all]
    rfl
  | belumDicatat => 
    simp only [Kotak.nilai, Select.jawab, filter_like_all]
    rfl
  | totalPemasukan => 
    simp only [Kotak.nilai, Select.jawab, filter_like, sqlSum_getD]
    rfl
  | lunas => 
    simp only [Kotak.nilai, Select.jawab, filter_like]
    rfl
  | belumBayar => 
    simp only [Kotak.nilai, Select.jawab, filter_like]
    rfl

def Menampilkan (rows : List Json) (level : Level) (bulan : String) : Prop :=
  ∀ k : Kotak, k.untuk level = true →
    ringkasanDari k.nama (.ok (.json (.array rows))) = some (k.cetak (k.nilai s.db bulan))

theorem run_summaryPencatat (bulan : String) :
    ∃ rows, (summaryPencatat bulan).run execKueri s = (.ok rows, s) ∧
      Menampilkan s rows .petugas bulan := by
  have hnol (n : Decimal) : (if n = 0 then "0" else numberFormat n) = numberFormat n := by
    split
    · rename_i h
      rw [h]
      decide +kernel
    · rfl
  unfold summaryPencatat
  simp only [run_baca, hnol]
  refine ⟨_, rfl, fun k hk => ?_⟩
  cases k with
  | totalPemakaian | tercatat | belumDicatat =>
    simp only [ringkasanDari, kolom, Kotak.nama, List.findSome?_cons, List.lookup_cons]
    rfl
  | _ => cases hk

theorem run_summaryBendahara (bulan : String) :
    ∃ rows, (summaryBendahara bulan).run execKueri s = (.ok rows, s) ∧
      Menampilkan s rows .bendahara bulan := by
  unfold summaryBendahara
  simp only [run_baca]
  refine ⟨_, rfl, fun k hk => ?_⟩
  cases k with
  | totalPemasukan | lunas | belumBayar =>
    simp only [ringkasanDari, kolom, Kotak.nama, List.findSome?_cons, List.lookup_cons]
    rfl
  | _ => cases hk

theorem run_summaryStaf (u bulan : String) {level : Level} (hlevel : level ≠ .warga) :
    ∃ rows, (summary u level bulan bulan).run execKueri s = (.ok rows, s) ∧
      Menampilkan s rows level bulan := by
  cases level with
  | admin =>
    obtain ⟨rows, hrun, hrows⟩ := run_summaryPencatat s bulan
    exact ⟨rows, hrun, fun k hk => hrows k (by cases k <;> first | rfl | cases hk)⟩
  | petugas => exact run_summaryPencatat s bulan
  | bendahara => exact run_summaryBendahara s bulan
  | warga => exact absurd rfl hlevel

theorem ringkasan_summary {u : String} {level : Level} {post : Form} {now : Stamp} {bulan : String}
    (hp : post.get? "p" = some "summary") (ht : post.get? "t" = some bulan) (hbulan : bulan ≠ "")
    {rows : List Json} (hrows : (summary u level bulan bulan).run execKueri s = (.ok rows, s))
    (nama : String) :
    ringkasanDari nama (s.jawab u level post now) =
      ringkasanDari nama (.ok (.json (.array rows))) := by
  have hpilihan : (bulanDefault bulan now).run execKueri s = (.ok bulan, s) := by
    unfold bulanDefault
    rw [if_neg hbulan]
    rfl
  have hanswer : (jawabAjax u level post now).run execKueri s = (.ok (.json (.array rows)), s) := by
    unfold jawabAjax
    rw [ht, orEmpty, Option.getD_some, run_bind_ok execKueri hpilihan, hp]
    exact run_bind_ok execKueri hrows _
  rw [Server.jawab, hanswer]

theorem ringkasan_kotak (u : String) {level : Level} {post : Form} (now : Stamp) {bulan : String}
    {k : Kotak} (hlevel : k.untuk level = true) (hp : post.get? "p" = some "summary")
    (ht : post.get? "t" = some bulan) (hbulan : bulan ≠ "") :
    ringkasanDari k.nama (s.jawab u level post now) =
      some (k.cetak (k.nilai s.db bulan)) := by
  have hstaf : level ≠ .warga := by
    rintro rfl
    cases k <;> cases hlevel
  obtain ⟨rows, hrun, hrows⟩ := run_summaryStaf s u bulan hstaf
  rw [ringkasan_summary s hp ht hbulan hrun]
  exact hrows k hlevel

end Summary

/-- Whatever the tables hold and whoever of the staff asks: a box of the summary of a
month prints the number that its series of the year's chart has for that month. -/
theorem summary_agrees_chart (s : Server) (b : Bulan) (k : Kotak) (u u' : String)
    (level level' : Level) (post post' : Form) (now now' : Stamp)
    (hu : isEmpty (some u) = false) (hlevel : s.db.levelOf (some u) = some level)
    (hu' : isEmpty (some u') = false) (hlevel' : s.db.levelOf (some u') = some level')
    (hk : k.untuk level = true) (hk' : k.deret.untuk level' = true)
    (hp : post.get? "p" = some "summary") (ht : post.get? "t" = some b.teks)
    (hp' : post'.get? "p" = some "semua_chart") (hyear : now'.date.year = b.tahun) :
    ringkasanDari k.nama (s.ajax (some u) post now) = some (k.cetak (k.nilai s.db b.teks)) ∧
      grafikDari k.deret.nama b.bulan (s.ajax (some u') post' now') =
        some (k.nilai s.db b.teks) := by
  rw [ajax_served s post now hu hlevel, ajax_served s post' now' hu' hlevel']
  constructor
  · exact ringkasan_kotak s u now hk hp ht b.teks_ne_empty
  · rw [kotak_nilai]
    exact grafik_deret s hk' hp' hyear

def januari : Bulan := hariBuka.date.bulan

theorem summary_agrees_chart_kantor :
    Kotak.totalPemasukan.nilai terbayarBudi.db "2026-01" = 10000 ∧
      ringkasanDari "total_pemasukan"
        (terbayarBudi.server.ajax (some "siti") [("p", "summary"), ("t", "2026-01")] hariBuka) =
          some (.string ("Rp " ++ numberFormat (Kotak.totalPemasukan.nilai terbayarBudi.db "2026-01"))) ∧
      grafikDari "pemasukan" 1
        (terbayarBudi.server.ajax (some "admin") [("p", "semua_chart")] hariKedua) =
          some (Kotak.totalPemasukan.nilai terbayarBudi.db "2026-01") :=
  ⟨by decide +kernel, summary_agrees_chart terbayarBudi.server januari .totalPemasukan "siti"
    "admin" .bendahara .admin [("p", "summary"), ("t", "2026-01")] [("p", "semua_chart")] hariBuka
    hariKedua (by decide) (by decide +kernel) (by decide) (by decide +kernel) rfl rfl (by decide)
    (by decide) (by decide) (by decide)⟩

end SistemAir
