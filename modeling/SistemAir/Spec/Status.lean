import SistemAir.Spec.Readings

/-! Who decides the payment status. The two handlers store the posted status as it
comes, whoever posts it; the law about meter readers is a law about their posts. -/
namespace SistemAir

open KeyedTable StatementProgram Prog

/-- A request leaves the payment status to the treasurer: new consumption is unpaid,
and a row that had consumption and still has keeps its status. -/
structure StatusKept (db db' : Db) : Prop where
  added : ∀ r' ∈ db'.pemakaian.rows, db.pemakaian.find? r'.no = none → 0 < r'.pemakaian →
    r'.status = some "BELUM LUNAS"
  kept : ∀ r ∈ db.pemakaian.rows, ∀ r' ∈ db'.pemakaian.rows, r'.no = r.no → 0 < r.pemakaian →
    0 < r'.pemakaian → r'.status = r.status

instance (db db' : Db) : Decidable (StatusKept db db') :=
  decidable_of_iff ((∀ r' ∈ db'.pemakaian.rows, db.pemakaian.find? r'.no = none →
      0 < r'.pemakaian → r'.status = some "BELUM LUNAS") ∧
      ∀ r ∈ db.pemakaian.rows, ∀ r' ∈ db'.pemakaian.rows, r'.no = r.no → 0 < r.pemakaian →
        0 < r'.pemakaian → r'.status = r.status)
    ⟨fun ⟨h₁, h₂⟩ => ⟨h₁, h₂⟩, fun h => ⟨h.added, h.kept⟩⟩

/-- The posted status is already the one the law asks for: `BELUM LUNAS` where
meter_add stores new consumption, the stored one where meter_edit reaches a row
that had consumption and still has. -/
structure PostsKeptStatus (php : Php) (db : Db) (q : Request) : Prop where
  added : q.tombol = some "meter_add" → ∀ b, Reading.ofPost php q.post = some b →
    0 < b.pemakaian →
    db.countMonth (q.post.get? "username") q.clock.php.date.month q.clock.php.date.year = 0 →
    q.post.get? "status_bayar" = some "BELUM LUNAS"
  kept : q.tombol = some "meter_edit" → ∀ b r, Reading.ofPost php q.post = some b →
    0 < b.pemakaian → db.pemakaianByNo (Db.nomor php q.post) = some r →
    locked .petugas (some r.tgl) q.clock = false → 0 < r.pemakaian →
    q.post.get? "status_bayar" = r.status

section Step
variable {php : Php} {w : World} {q : Request} {actor : String} {level : Level} {b : Reading}

theorem Reading.status_of_pos (h : 0 < b.pemakaian) (posted : Option String) :
    b.status posted = posted := if_neg (ne_of_gt h)

theorem statusKept_of_same {db db' : Db} (h : db'.pemakaian = db.pemakaian) :
    StatusKept db db' where
  added r' hr' hnone := by
    rw [h] at hr'
    rw [db.pemakaian.find?_of_mem hr'] at hnone
    cases hnone
  kept r hr r' hr' hno _ _ := by
    rw [h] at hr'
    rw [db.pemakaian.eq_of_key hr' hr hno]

theorem statusKept_of_adds (h : Adds php w q actor level b) :
    StatusKept w.db (step php w q).db ↔
      (0 < b.pemakaian → q.post.get? "status_bayar" = some "BELUM LUNAS") := by
  have hfresh : w.db.pemakaian.find? w.db.pemakaian.next = none := by
    rw [Table.find?_eq_none_iff]
    exact fun r hr => Nat.ne_of_lt (w.db.pemakaian.lt_next r hr)
  constructor
  · intro hkept hpos
    have hstatus := hkept.added _ h.mem_rows hfresh hpos
    rwa [← Reading.status_of_pos hpos (q.post.get? "status_bayar")]
  · intro hposted
    constructor
    · intro r' hr' hnone hpos
      rw [h.rows] at hr'
      rcases List.mem_append.mp hr' with hr | hr
      · rw [w.db.pemakaian.find?_of_mem hr] at hnone
        cases hnone
      · rw [List.mem_singleton.mp hr] at hpos ⊢
        exact (Reading.status_of_pos hpos _).trans (hposted hpos)
    · intro r hr r' hr' hno _ _
      rw [h.rows] at hr'
      rcases List.mem_append.mp hr' with hr' | hr'
      · rw [w.db.pemakaian.eq_of_key hr' hr hno]
      · rw [List.mem_singleton.mp hr'] at hno
        exact absurd hno.symm (Nat.ne_of_lt (w.db.pemakaian.lt_next r hr))

theorem statusKept_of_edits (h : Edits php w q actor level b) :
    StatusKept w.db (step php w q).db ↔
      ∀ r, w.db.pemakaianByNo (Db.nomor php q.post) = some r → 0 < r.pemakaian →
        0 < b.pemakaian → q.post.get? "status_bayar" = r.status := by
  constructor
  · intro hkept r hr hold hnew
    obtain ⟨hmem, hno⟩ := mem_of_pemakaianByNo hr
    have hstatus := hkept.kept r hmem _ (h.mem_rows hmem hno) rfl hold hnew
    rwa [← Reading.status_of_pos hnew (q.post.get? "status_bayar")]
  · intro hposted
    constructor
    · intro r' hr' hnone _
      rw [h.rows] at hr'
      obtain ⟨r, hr, rfl⟩ := List.mem_map.mp hr'
      have hkey : (if Pemakaian.hasNo (Db.nomor php q.post) r then w.db.editRow php q.post b r
          else r).no = r.no := by
        split <;> rfl
      rw [hkey, w.db.pemakaian.find?_of_mem hr] at hnone
      cases hnone
    · intro r hr r' hr' hno hold hnew
      rw [h.rows] at hr'
      have hrow := w.db.pemakaian.update_row_of_key (Pemakaian.hasNo (Db.nomor php q.post))
        (w.db.editRow php q.post b) (fun _ => rfl) hr hr' hno
      by_cases haddressed : Pemakaian.hasNo (Db.nomor php q.post) r
      · rw [if_pos haddressed] at hrow
        rw [hrow] at hnew ⊢
        have hby := pemakaianByNo_of_hasNo hr haddressed
        exact (Reading.status_of_pos hnew _).trans (hposted r hby hold hnew)
      · rw [if_neg haddressed] at hrow
        rw [hrow]

end Step

/-- In every reachable state a meter reader's request keeps the law exactly when
the status it posts is already the lawful one. -/
theorem petugas_status_iff (php : Php) (w₀ : World) (qs : List Request) (q : Request)
    (actor tombol : String)
    (hauth : Authorized (serve php w₀ qs) q actor .petugas tombol)
    (htombol : tombol = "meter_add" ∨ tombol = "meter_edit") :
    StatusKept (serve php w₀ qs).db (serve php w₀ (qs ++ [q])).db ↔
      PostsKeptStatus php (serve php w₀ qs).db q := by
  rw [serve_concat]
  generalize serve php w₀ qs = w at hauth ⊢
  rcases htombol with rfl | rfl
  · have hnot : ¬q.tombol = some "meter_edit" := by rw [hauth.asks]; decide
    constructor
    · intro hkept
      refine ⟨fun _ b hpost hpos hmonth => ?_, fun h => absurd h hnot⟩
      exact (statusKept_of_adds ⟨hauth, hpost, hmonth, le_of_lt hpos⟩).mp hkept hpos
    · intro hposted
      rcases meterAdd_cases php hauth with ⟨b, hadd⟩ | hsame
      · exact (statusKept_of_adds hadd).mpr fun hpos =>
          hposted.added hauth.asks b hadd.reading hpos hadd.month
      · exact statusKept_of_same hsame
  · have hnot : ¬q.tombol = some "meter_add" := by rw [hauth.asks]; decide
    constructor
    · intro hkept
      refine ⟨fun h => absurd h hnot, fun _ b r hpost hpos hr hopen hold => ?_⟩
      have hedit : Edits php w q actor .petugas b :=
        ⟨hauth, hpost, by rw [hr]; exact hopen, le_of_lt hpos⟩
      exact (statusKept_of_edits hedit).mp hkept r hr hold hpos
    · intro hposted
      rcases meterEdit_cases php hauth with ⟨b, hedit⟩ | hsame
      · refine (statusKept_of_edits hedit).mpr fun r hr hold hpos => ?_
        have hopen := hedit.unlocked
        rw [hr] at hopen
        exact hposted.kept hauth.asks b r hedit.reading hpos hr hopen hold
      · exact statusKept_of_same hsame

theorem petugas_status_budi :
    StatusKept (serve .decimal World.pertama kantor).db
      (serve .decimal World.pertama (kantor ++ [catatSepuluh "budi"])).db :=
  (petugas_status_iff .decimal World.pertama kantor (catatSepuluh "budi") "joko" "meter_add"
    (by decide +kernel) (.inl rfl)).mpr
    { added := fun _ _ _ _ _ => by decide +kernel
      kept := fun h => absurd h (by decide +kernel) }

/-- The meter reader corrects a typing error on his own form, which carries the
hidden `BELUM LUNAS`, and reopens a bill that the treasurer has settled. -/
theorem petugas_reopens :
    let qs := kantor ++ [catatSepuluh "budi", bayarSepuluh]
    let q := ajukan 1 hariBuka "meter_edit"
      [("no", "1"), ("meter_awal", "0"), ("meter_akhir", "12"), ("status_bayar", "BELUM LUNAS")]
    Authorized (serve .decimal World.pertama qs) q "joko" .petugas "meter_edit" ∧
      ¬StatusKept (serve .decimal World.pertama qs).db
        (serve .decimal World.pertama (qs ++ [q])).db := by
  decide +kernel

end SistemAir
