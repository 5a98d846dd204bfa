import SistemAir.Library.JsonParse
import SistemAir.Spec.Charts

/-! The charts as text. assets/ajax.php echoes json_encode() of its answer, and the browser has
the text read (dataType "json") before it takes the series apart. -/
namespace SistemAir

open Alternate JsonText

/-- `Number(...)` of what a reader makes of the text of a value. -/
noncomputable def Js.pembaca : Js where
  number := by
    classical
    exact fun json => json.value.toNumber.bind fun q =>
      if h : ∃ x : Decimal, x.val = q then some h.choose else none
  number_number := by
    intro x
    have hx : ∃ y : Decimal, y.val = x.val := ⟨x, rfl⟩
    simp only [Json.value, Value.toNumber, Option.bind_some]
    rw [dif_pos hx, Subtype.val_injective hx.choose_spec]
  number_teksAngka := by
    intro x
    have hx : ∃ y : Decimal, y.val = x.val := ⟨x, rfl⟩
    simp only [teksAngka, toNumber_text, Option.bind_some]
    rw [dif_pos hx, Subtype.val_injective hx.choose_spec]

theorem toNumber_of_pembaca {json : Json} {x : Decimal} (h : Js.pembaca.number json = some x) :
    json.value.toNumber = some x.val := by
  obtain ⟨q, hq, hx⟩ := Option.bind_eq_some_iff.mp h
  split at hx
  · rename_i hdecimal
    rw [← Option.some.inj hx, hdecimal.choose_spec, hq]
  · cases hx

theorem map_toNumber {arr : List Json} {values : List Decimal}
    (h : arr.map Js.pembaca.number = values.map some) :
    (arr.map Json.value).map Value.toNumber = (values.map Subtype.val).map some := by
  induction arr generalizing values with
  | nil =>
    rw [List.map_nil, List.nil_eq, List.map_eq_nil_iff] at h
    rw [h]
    rfl
  | cons json arr ih =>
    cases values with
    | nil => cases h
    | cons x values =>
      rw [List.map_cons, List.map_cons, List.cons.injEq] at h
      simp only [List.map_cons, toNumber_of_pembaca h.1, ih h.2]

/-- The value holds the series of this name: the labels at the even places, the numbers at the
odd ones, and their sum. -/
def Dibaca (value : Value) (nama : String) (pasangan : List (Json × Decimal)) (total : Decimal) :
    Prop :=
  ∃ items, value.get? nama = some (.array items) ∧
    filterIdx (· % 2 = 0) items = pasangan.map (fun p => p.1.value) ∧
    (filterIdx (· % 2 ≠ 0) items).map Value.toNumber = pasangan.map (fun p => some p.2.val) ∧
    (filterIdx (· % 2 ≠ 0) items).foldlM (fun a b => return a + (← b.toNumber)) 0 =
      some total.val

theorem Memuat.dibaca {fields : List (String × Json)}
    (hnodup : (fields.map fun f => units f.1).Nodup) {nama : String}
    {pasangan : List (Json × Decimal)} {total : Decimal}
    (h : Memuat Js.pembaca fields nama pasangan total) :
    Dibaca (Json.object fields).value nama pasangan total := by
  obtain ⟨arr, hlookup, hread⟩ := h
  have hnilai : (getY arr).map Js.pembaca.number = (pasangan.map Prod.snd).map some := by
    rw [hread.nilai, List.map_map]
    rfl
  have hnumbers := map_toNumber hnilai
  have htotal : total = (pasangan.map Prod.snd).sum := by
    have hsum := hread.total
    rw [Js.sumVal, foldlM_add hnilai, zero_add] at hsum
    exact (Option.some.inj hsum).symm
  refine ⟨valueItems arr, get?_value hnodup hlookup, ?_, ?_, ?_⟩
  · rw [valueItems_eq_map, filterIdx_map, ← getX, hread.label, List.map_map]
    rfl
  · rw [valueItems_eq_map, filterIdx_map, ← getY, hnumbers, List.map_map, List.map_map]
    rfl
  · rw [valueItems_eq_map, filterIdx_map, ← getY, foldlM_add hnumbers, zero_add, htotal]
    exact congrArg some (map_list_sum decimals.subtype _).symm

theorem nodup_namaDeret (level : Level) : (level.namaDeret.map units).Nodup := by
  cases level <;> decide

/-- The text of the answer to p=semua_chart, read as JSON, holds every series of the level: the
names of the months and what the readings of each add up to, the kinds of residents and how many
there are of each, and the totals that the browser shows. -/
theorem chart_text_round_trip (s : Server) {u : String} {level : Level} {post : Form} (now : Stamp)
    (hu : isEmpty (some u) = false) (hlevel : s.db.levelOf (some u) = some level)
    (hp : post.get? "p" = some "semua_chart") :
    ∃ json value, s.ajax (some u) post now = .ok (.json json) ∧ parse json.encode = some value ∧
      (level ≠ .warga →
        (∀ d : Deret, d.untuk level = true →
          Dibaca value d.nama
            ((bulanTahun now.date.year).map fun b => (labelBulan b, d.nilai s.db b))
            (d.jumlah s.db 12 (s.db.tahunItu now.date.year))) ∧
        ∃ tipe : List (Option String), tipe.Nodup ∧
          (∀ t, t ∈ tipe ↔ ∃ a ∈ s.db.warga, a.tipe = t) ∧
          Dibaca value "tipe_pelanggan"
            (tipe.map fun t => (labelTipe t, ((s.db.warga.filter (·.tipe = t)).length : Decimal)))
            s.db.warga.length) ∧
      (level = .warga → ∀ k : Kolom,
        Dibaca value k.namaWarga
          ((bulanTahun now.date.year).map fun b => (labelBulan b, k.terakhir s.db u b))
          ((bulanTahun now.date.year).map fun b => k.terakhir s.db u b).sum) := by
  have hanswer : s.ajax (some u) post now = s.jawab u level post now :=
    ajax_served s post now hu hlevel
  rw [hanswer]
  by_cases hwarga : level = .warga
  · subst hwarga
    have hnodup : ((isiWarga s.db u now.date.year).map fun f => units f.1).Nodup :=
      nodup_namaDeret .warga
    refine ⟨_, _, jawab_warga s u hp, parse_encode _, fun hstaf => absurd rfl hstaf, fun _ k => ?_⟩
    exact ((grafikWarga Js.pembaca s u now.date.year).deret k).dibaca hnodup
  · obtain ⟨hrun, hobject⟩ := run_semuaChart s u hwarga now.date.year
    have hnodup : ((isiGrafik s.db now.date.year level).map fun f => units f.1).Nodup := by
      have hnama := nama_isiGrafik s.db now.date.year hwarga
      have hall := nodup_namaDeret level
      rwa [← hnama, List.map_map] at hall
    have hgrafik := grafikStaf Js.pembaca s now.date.year hwarga
    refine ⟨_, _, jawab_semuaChart s hp hrun hobject, parse_encode _, fun _ => ⟨fun d hd => ?_, ?_⟩,
      fun h => absurd h hwarga⟩
    · exact (hgrafik.deret d hd).dibaca hnodup
    · obtain ⟨tipe, hall, hmem, htipe⟩ := hgrafik.tipe
      exact ⟨tipe, hall, hmem, htipe.dibaca hnodup⟩

/-- The text of the office's chart: of its income, 10000 in January. -/
theorem chart_text_round_trip_kantor :
    ∃ json value items, terbayarBudi.server.ajax (some "siti") [("p", "semua_chart")] hariKedua =
        .ok (.json json) ∧ parse json.encode = some value ∧
      value.get? "pemasukan" = some (.array items) ∧
      (filterIdx (· % 2 ≠ 0) items).map Value.toNumber = some 10000 :: List.replicate 11 (some 0) ∧
      (filterIdx (· % 2 ≠ 0) items).foldlM (fun a b => return a + (← b.toNumber)) 0 =
        some 10000 := by
  have hbendahara : Level.bendahara ≠ .warga := by decide
  have hnamed : isEmpty (some "siti") = false := by decide
  have hlevel : terbayarBudi.server.db.levelOf (some "siti") = some .bendahara := by
    decide +kernel
  have hp : Form.get? [("p", "semua_chart")] "p" = some "semua_chart" := by decide
  obtain ⟨json, value, hjson, hvalue, hstaf, -⟩ :=
    chart_text_round_trip terbayarBudi.server hariKedua hnamed hlevel hp
  obtain ⟨items, hitems, -, hnumbers, htotal⟩ := (hstaf hbendahara).1 .pemasukan rfl
  have hmonths : (bulanTahun 2026).map (fun b => Deret.pemasukan.nilai terbayarBudi.server.db b) =
      10000 :: List.replicate 11 0 := by
    decide +kernel
  have hyear : Deret.pemasukan.jumlah terbayarBudi.server.db 12
      (terbayarBudi.server.db.tahunItu 2026) = 10000 := by
    decide +kernel
  refine ⟨json, value, items, hjson, hvalue, hitems, ?_, ?_⟩
  · have hsome := congrArg (List.map fun x : Decimal => some x.val) hmonths
    rw [List.map_map] at hsome
    rw [hnumbers, List.map_map]
    exact hsome.trans rfl
  · rw [htotal]
    exact congrArg some (congrArg Subtype.val hyear)

end SistemAir
