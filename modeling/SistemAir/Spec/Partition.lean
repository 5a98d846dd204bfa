import SistemAir.Spec.Readings
import SistemAir.Spec.Reports

/-! Paid and unpaid bills. The reports count a reading under one of two statuses, both
handlers store whatever status is posted, and COUNT(username) passes over a reading
without a resident. -/
namespace SistemAir

open JsonText KeyedTable StatementProgram Prog

def StatusDikenal (status : Option String) : Prop :=
  status = some "LUNAS" ∨ status = some "BELUM LUNAS"

instance (status : Option String) : Decidable (StatusDikenal status) :=
  inferInstanceAs (Decidable (_ ∨ _))

/-- Every bill is paid or unpaid, and the two counts of a month add up, in the chart to
the series of all readings and in the treasurer's summary to the readings there are. -/
structure TerbagiDua (w : World) : Prop where
  status : ∀ r ∈ w.db.pemakaian.rows, StatusDikenal r.status
  grafik : ∀ (u : String) (level : Level) (post : Form) (now : Stamp) (b : Bulan),
    level = .admin ∨ level = .bendahara → post.get? "p" = some "semua_chart" →
    now.date.year = b.tahun → ∃ sdh blm tercatat,
      grafikDari "sdh_lunas" b.bulan (w.server.jawab u level post now) = some sdh ∧
      grafikDari "blm_lunas" b.bulan (w.server.jawab u level post now) = some blm ∧
      grafikDari "tercatat" b.bulan (w.server.jawab u level post now) = some tercatat ∧
      sdh + blm = tercatat
  ringkasan : ∀ (u : String) (post : Form) (now : Stamp) (b : Bulan),
    post.get? "p" = some "summary" → post.get? "t" = some b.teks → ∃ lunas belum : Decimal,
      ringkasanDari "lunas" (w.server.jawab u .bendahara post now) = some (.number lunas) ∧
      ringkasanDari "belum_bayar" (w.server.jawab u .bendahara post now) = some (.number belum) ∧
      lunas + belum = (w.db.bulanItu b).length

structure Pemakaian.Terhitung (r : Pemakaian) : Prop where
  dimiliki : r.username.isSome = true
  status : StatusDikenal r.status

section Counts
variable {rows : List Pemakaian}

theorem countUsername_filter (p : Pemakaian → Bool) :
    countUsername (rows.filter p) = ((rows.filter (·.username.isSome)).filter p).length := by
  unfold countUsername
  rw [List.filter_filter, List.filter_filter]
  simp only [Bool.and_comm]

theorem countUsername_status (h : ∀ r ∈ rows, StatusDikenal r.status) :
    countUsername (rows.filter (·.status = some "LUNAS")) +
      countUsername (rows.filter (·.status = some "BELUM LUNAS")) = countUsername rows := by
  have hother : rows.filter (·.status = some "BELUM LUNAS") =
      rows.filter fun r => !decide (r.status = some "LUNAS") := by
    refine List.filter_congr fun r hr => ?_
    rcases h r hr with hstatus | hstatus <;> simp [hstatus]
  rw [hother, countUsername_filter, countUsername_filter]
  exact (List.length_eq_length_filter_add fun r : Pemakaian => r.status = some "LUNAS").symm

theorem countUsername_eq_length_iff :
    countUsername rows = rows.length ↔ ∀ r ∈ rows, r.username.isSome = true :=
  List.length_filter_eq_length_iff

end Counts

section Reports
variable (s : Server) (b : Bulan)

theorem jumlah_status (h : ∀ r ∈ s.db.pemakaian.rows, StatusDikenal r.status) :
    Deret.sdhLunas.nilai s.db b + Deret.blmLunas.nilai s.db b = Deret.tercatat.nilai s.db b := by
  have hmonth : ∀ r ∈ s.db.bulanItu b, StatusDikenal r.status :=
    fun r hr => h r (Db.mem_bulanItu.mp hr).1
  have hsum := countUsername_status hmonth
  simp only [Deret.nilai]
  exact_mod_cast hsum

theorem ringkasan_bendahara (k : Kotak) (u : String) (post : Form) (now : Stamp)
    (hk : k.untuk .bendahara = true) (hp : post.get? "p" = some "summary")
    (ht : post.get? "t" = some b.teks) :
    ringkasanDari k.nama (s.jawab u .bendahara post now) =
      some (k.cetak (k.deret.nilai s.db b)) := by
  rw [← kotak_nilai]
  exact ringkasan_kotak s u now hk hp ht b.teks_ne_empty

end Reports

/-- The reports are right about the bills exactly when each one has a resident and one of
the two statuses. -/
theorem terbagiDua_iff {w : World} : TerbagiDua w ↔ ∀ r ∈ w.db.pemakaian.rows, r.Terhitung := by
  constructor
  · intro h r hr
    refine ⟨?_, h.status r hr⟩
    obtain ⟨lunas, belum, hlunas, hbelum, hsum⟩ := h.ringkasan "" [("p", "summary"),
      ("t", r.tgl.bulan.teks)] hariBuka r.tgl.bulan rfl rfl
    have hbox (k : Kotak) (hk : k.untuk .bendahara = true) :=
      ringkasan_bendahara w.server r.tgl.bulan k "" [("p", "summary"), ("t", r.tgl.bulan.teks)]
        hariBuka hk rfl rfl
    obtain rfl : Deret.sdhLunas.nilai w.db r.tgl.bulan = lunas :=
      Json.number.inj (Option.some.inj ((hbox .lunas rfl).symm.trans hlunas))
    obtain rfl : Deret.blmLunas.nilai w.db r.tgl.bulan = belum :=
      Json.number.inj (Option.some.inj ((hbox .belumBayar rfl).symm.trans hbelum))
    have htercatat := (jumlah_status w.server r.tgl.bulan h.status).symm.trans hsum
    exact countUsername_eq_length_iff.mp (Nat.cast_injective htercatat) r
      (Db.mem_bulanItu.mpr ⟨hr, rfl⟩)
  · intro h
    have hstatus : ∀ r ∈ w.db.pemakaian.rows, StatusDikenal r.status := fun r hr => (h r hr).status
    refine ⟨hstatus, ?_, ?_⟩
    · intro u level post now b hlevel hp hyear
      have hsemua (d : Deret) : d.untuk level = true := by
        rcases hlevel with rfl | rfl <;> rfl
      exact ⟨_, _, _, grafik_deret w.server (hsemua .sdhLunas) hp hyear,
        grafik_deret w.server (hsemua .blmLunas) hp hyear,
        grafik_deret w.server (hsemua .tercatat) hp hyear, jumlah_status w.server b hstatus⟩
    · intro u post now b hp ht
      have hall : countUsername (w.db.bulanItu b) = (w.db.bulanItu b).length :=
        countUsername_eq_length_iff.mpr fun r hr => (h r (Db.mem_bulanItu.mp hr).1).dimiliki
      refine ⟨_, _, ringkasan_bendahara w.server b .lunas u post now rfl hp ht,
        ringkasan_bendahara w.server b .belumBayar u post now rfl hp ht, ?_⟩
      exact (jumlah_status w.server b hstatus).trans (congrArg Nat.cast hall)

/-! ## Which requests keep it so -/

/-- The reading is stored without consumption, or the posted status is one of the two. -/
def Reading.StatusDikenal (b : Reading) (post : Form) : Prop :=
  b.pemakaian = 0 ∨ SistemAir.StatusDikenal (post.get? "status_bayar")

/-- A meter_add that stores a reading names a resident and one of the two statuses, a
meter_edit that changes one posts one of the two statuses; without consumption any will do. -/
structure MencatatLengkap (php : Php) (w : World) (q : Request) : Prop where
  tambah : ∀ actor level b, Adds php w q actor level b →
    (q.post.get? "username").isSome = true ∧ b.StatusDikenal q.post
  ubah : ∀ actor level b, Edits php w q actor level b →
    (w.db.pemakaianByNo (Db.nomor php q.post)).isSome = true → b.StatusDikenal q.post

section Step
variable {php : Php} {w : World} {q : Request} {actor : String} {level : Level} {b : Reading}

theorem statusDikenal_reading : StatusDikenal (b.status (q.post.get? "status_bayar")) ↔
    b.StatusDikenal q.post := by
  unfold Reading.status Reading.StatusDikenal
  split
  · rename_i h
    exact iff_of_true (.inl rfl) (.inl h)
  · rename_i h
    exact ⟨.inr, fun hstatus => hstatus.resolve_left h⟩

theorem terhitung_fresh {at_ : Stamp} {no : Nat} : (w.db.freshRow q.post b at_ no).Terhitung ↔
    (q.post.get? "username").isSome = true ∧ b.StatusDikenal q.post := by
  rw [← statusDikenal_reading]
  exact ⟨fun h => ⟨h.dimiliki, h.status⟩, fun h => ⟨h.1, h.2⟩⟩

theorem terhitung_edit {r : Pemakaian} (hr : r.Terhitung) :
    (w.db.editRow php q.post b r).Terhitung ↔ b.StatusDikenal q.post := by
  rw [← statusDikenal_reading]
  exact ⟨fun h => h.status, fun h => ⟨hr.dimiliki, h⟩⟩

theorem terhitung_step (h : ∀ r ∈ w.db.pemakaian.rows, r.Terhitung) :
    (∀ r ∈ (step php w q).db.pemakaian.rows, r.Terhitung) ↔ MencatatLengkap php w q := by
  rw [rows_step_iff php q (fun r _ hr => ⟨hr.dimiliki, hr.status⟩) h]
  have hedit {b : Reading} {r : Pemakaian} (hfound : r ∈ w.db.pemakaianByNo (Db.nomor php q.post)) :
      (w.db.editRow php q.post b r).Terhitung ↔ b.StatusDikenal q.post :=
    terhitung_edit (h r (mem_of_pemakaianByNo hfound).1)
  constructor
  · rintro ⟨hadds, hedits⟩
    refine ⟨fun actor level b hb => terhitung_fresh.mp (hadds actor level b hb), ?_⟩
    intro actor level b hb hfound
    obtain ⟨r, hr⟩ := Option.isSome_iff_exists.mp hfound
    exact (hedit hr).mp (hedits actor level b hb r hr)
  · intro hlengkap
    refine ⟨fun actor level b hb => terhitung_fresh.mpr (hlengkap.tambah actor level b hb), ?_⟩
    intro actor level b hb r hr
    exact (hedit hr).mpr (hlengkap.ubah actor level b hb (Option.isSome_of_mem hr))

end Step

/-- In every state of any run the paid and the unpaid bills are all bills, and the reports
count them so, exactly when every reading is stored under a resident and, where there is
consumption, stored and edited under one of the two statuses. -/
theorem bills_partition_iff (php : Php) {w : World} (hw : TerbagiDua w) (qs : List Request) :
    Trace.Always TerbagiDua (step php) w qs ↔
      Trace.Admissible (MencatatLengkap php) (step php) w qs :=
  Trace.always_iff_of_step
    (fun _ _ h => terbagiDua_iff.trans (terhitung_step (terbagiDua_iff.mp h))) qs hw

theorem bills_partition_kantor :
    Trace.Always TerbagiDua (step .decimal) World.pertama
      (kantor ++ [catatSepuluh "budi", bayarSepuluh]) := by
  have hposts : ∀ q ∈ kantor ++ [catatSepuluh "budi", bayarSepuluh],
      (q.tombol = some "meter_add" → (q.post.get? "username").isSome = true ∧
        StatusDikenal (q.post.get? "status_bayar")) ∧
      (q.tombol = some "meter_edit" → StatusDikenal (q.post.get? "status_bayar")) := by
    decide +kernel
  have hempty : TerbagiDua World.pertama := terbagiDua_iff.mpr fun r hr => by cases hr
  refine (bills_partition_iff .decimal hempty _).mpr
    (Trace.admissible_of_forall_mem fun q hq w => ⟨?_, ?_⟩)
  · intro actor level b hadds
    obtain ⟨hnamed, hstatus⟩ := (hposts q hq).1 hadds.auth.asks
    exact ⟨hnamed, .inr hstatus⟩
  · intro actor level b hedits _
    exact .inr ((hposts q hq).2 hedits.auth.asks)

def catatTanpaStatus : Request :=
  ajukan 1 hariBuka "meter_add" [("username", "budi"), ("meter_awal", "0"), ("meter_akhir", "10")]

theorem bills_partition_violated :
    let w := serve .decimal World.pertama (kantor ++ [catatTanpaStatus])
    w.db.pemakaian.rows.map Pemakaian.status = [none] ∧
      Deret.tercatat.nilai w.db januari = 1 ∧ Deret.sdhLunas.nilai w.db januari = 0 ∧
      Deret.blmLunas.nilai w.db januari = 0 ∧ TerbagiDua World.pertama ∧ ¬TerbagiDua w := by
  obtain ⟨hrows, htercatat, hlunas, hbelum⟩ :
      let w := serve .decimal World.pertama (kantor ++ [catatTanpaStatus])
      w.db.pemakaian.rows.map Pemakaian.status = [none] ∧
        Deret.tercatat.nilai w.db januari = 1 ∧ Deret.sdhLunas.nilai w.db januari = 0 ∧
        Deret.blmLunas.nilai w.db januari = 0 := by
    decide +kernel
  refine ⟨hrows, htercatat, hlunas, hbelum, terbagiDua_iff.mpr (fun r hr => by cases hr),
    fun h => ?_⟩
  have hnone : none ∈ (serve .decimal World.pertama
      (kantor ++ [catatTanpaStatus])).db.pemakaian.rows.map Pemakaian.status := by
    rw [hrows]
    exact List.mem_singleton_self _
  obtain ⟨r, hr, hstatus⟩ := List.mem_map.mp hnone
  have hdikenal := h.status r hr
  rw [hstatus] at hdikenal
  revert hdikenal
  decide

end SistemAir
