import SistemAir.Library.Chain
import SistemAir.Spec.Billing
import SistemAir.Spec.Forms
import SistemAir.Spec.LastMeter

/-! Do the readings of a resident follow on from one another? The page seeds each new
reading with the latest one; what later edits and deletions do to the seam is
followed row by row. -/
namespace SistemAir

open HtmlForm KeyedTable Chain StatementProgram Prog

/-! ## The readings of one resident -/

def Db.riwayat (db : Db) (u : String) : List Pemakaian :=
  (db.catatan u).insertionSort fun a b => a.stamp.ordinal ≤ b.stamp.ordinal

/-- Every reading of a resident was recorded later than those stored before it. -/
def Urut (db : Db) : Prop :=
  ∀ u, (db.catatan u).Pairwise fun a b => a.stamp.ordinal < b.stamp.ordinal

theorem Urut.riwayat {db : Db} (h : Urut db) (u : String) : db.riwayat u = db.catatan u :=
  List.Pairwise.insertionSort_eq ((h u).imp Nat.le_of_lt)

/-! ## What the page fills in -/

section Otomatis
variable {db : Db} {now : Stamp} {u : String}

theorem find?_terbaruDulu (hdb : Urut db) (hu : u ≠ "") :
    (terbaruDulu db.pemakaian.rows).find? (fun r => orEmpty r.username = u) =
      (db.catatan u).getLast? := by
  have hname : ∀ r : Pemakaian, orEmpty r.username = u ↔ r.username = some u := by
    intro r
    cases hr : r.username with
    | none => simpa [orEmpty] using hu.symm
    | some v => simp [orEmpty]
  cases hlast : (db.catatan u).getLast? with
  | none =>
    rw [List.find?_eq_none]
    intro r hr huser
    have hmem : r ∈ db.catatan u :=
      mem_catatan.mpr ⟨(List.mem_insertionSort _).mp hr, (hname r).mp (of_decide_eq_true huser)⟩
    rw [List.getLast?_eq_none_iff.mp hlast] at hmem
    cases hmem
  | some z =>
    obtain ⟨older, hsplit⟩ := List.getLast?_eq_some_iff.mp hlast
    have hz : z ∈ db.catatan u := List.mem_of_getLast? hlast
    have hzsorted : z ∈ terbaruDulu db.pemakaian.rows :=
      (List.mem_insertionSort _).mpr (mem_catatan.mp hz).1
    obtain ⟨x, hx⟩ : ∃ x, (terbaruDulu db.pemakaian.rows).find?
        (fun r => orEmpty r.username = u) = some x := by
      rw [← Option.isSome_iff_exists, List.find?_isSome]
      exact ⟨z, hzsorted, by simpa [hname] using (mem_catatan.mp hz).2⟩
    rw [hx]
    obtain ⟨hxu, newer, rest, hsorted, hnewer⟩ := List.find?_eq_some_iff_append.mp hx
    have hxmem : x ∈ db.catatan u := by
      refine mem_catatan.mpr ⟨?_, (hname x).mp (of_decide_eq_true hxu)⟩
      exact (List.mem_insertionSort _).mp (List.mem_of_find?_eq_some hx)
    -- The sorted list has x before z, the stored one has it after the rest.
    have hle : z.stamp.ordinal ≤ x.stamp.ordinal := by
      rw [hsorted] at hzsorted
      rcases List.mem_append.mp hzsorted with hznewer | hzrest
      · have hnot := hnewer z hznewer
        simp [(hname z).mpr (mem_catatan.mp hz).2] at hnot
      · have hdesc := pairwise_terbaruDulu db.pemakaian.rows
        rw [hsorted, List.pairwise_append] at hdesc
        rcases List.mem_cons.mp hzrest with rfl | hzrest
        · exact Nat.le_refl _
        · exact (List.pairwise_cons.mp hdesc.2.1).1 z hzrest
    rw [hsplit] at hxmem
    rcases List.mem_append.mp hxmem with hxold | hxlast
    · have hlt := hdb u
      rw [hsplit, List.pairwise_append] at hlt
      exact absurd hle (Nat.not_le.mpr (hlt.2.2 x hxold z (List.mem_singleton_self z)))
    · rw [List.mem_singleton.mp hxlast]

/-- What the page knows of a resident is the latest reading. -/
theorem dataLastMeter_meterAkhir (hdb : Urut db) (hu : u ≠ "") :
    ((dataLastMeter db now).get? u).map DataMeter.meterAkhir =
      (db.catatan u).getLast?.map Pemakaian.meterAkhir := by
  rw [get?_dataLastMeter, ← find?_terbaruDulu hdb hu, ← List.head?_filter]
  cases (terbaruDulu db.pemakaian.rows).filter fun r => orEmpty r.username = u <;> rfl

end Otomatis

/-- The meter_awal the page puts into the form of a resident. -/
def meterAwalOtomatis (riwayat : Riwayat) (u : String) : String :=
  if u = "" then ""
  else
    match riwayat.get? u with
    | some d => orEmpty (d.meterAkhir.map Decimal.text)
    | none => "0"

section Form
variable {h : Halaman} {riwayat : Riwayat} {u v : String} {form : Controls}

theorem pilihWarga_meterAwal (hp : h.p ≠ "meter_edit") (hlevel : h.level ≠ .bendahara)
    (hform : named (fun name => name = "meter_awal") form = [.input "number" "meter_awal" v]) :
    Form.get? (submit (pilihWarga h riwayat u form)) "meter_awal" =
      some (meterAwalOtomatis riwayat u) := by
  rw [get?_submit]
  have hfill : named (fun name => name = "meter_awal") (fill "username" u form) =
      [.input "number" "meter_awal" v] := by
    rw [named_fill, hform]
    intro c hc hname
    rw [hform, List.mem_singleton] at hc
    rw [hc] at hname
    exact absurd hname (show "meter_awal" ≠ "username" by decide)
  have hval : ∀ (n w : String) (form : Controls),
      named (fun name => name = "meter_awal") (val (hasName n) w form) =
        val (hasName n) w (named (fun name => name = "meter_awal") form) := fun n w form =>
    named_val_comm _ _ _ _
  unfold pilihWarga meterAwalOtomatis
  rw [if_neg hp]
  simp only [hlevel, if_false]
  split
  · rw [hval, hval, hfill]
    simp [val, hasName, Control.name, Control.setVal, submit, Control.fields, Form.get?]
  · cases riwayat.get? u with
    | none =>
      dsimp only
      rw [hval, hval, hfill]
      simp [val, hasName, Control.name, Control.setVal, submit, Control.fields, Form.get?]
    | some d =>
      dsimp only
      rw [hval, hval, hfill]
      simp [val, hasName, Control.name, Control.setVal, submit, Control.fields, Form.get?]

end Form

/-! ## Requests the pages make -/

/-- An accepted meter_add or meter_edit sends the meter_awal its page filled in, the
first after the resident's earlier readings. -/
structure DariHalaman (php : Php) (w : World) (q : Request) : Prop where
  tambah : q.tombol = some "meter_add" →
    (handle php w q).1 = .ok (.loginIndex (.alihkan .meter .suksesAdd)) →
    ∀ u ∈ q.post.get? "username",
      q.post.get? "meter_awal" = some (meterAwalOtomatis (dataLastMeter w.db q.clock.php) u) ∧
      ∀ r ∈ w.db.catatan u, r.stamp.ordinal < q.clock.sql.ordinal
  ubah : q.tombol = some "meter_edit" → EditAccepted php w q →
    ∀ r ∈ w.db.pemakaianByNo (Db.nomor php q.post),
      q.post.get? "meter_awal" = some (orEmpty (r.meterAwal.map Decimal.text))

instance (php : Php) (w : World) (q : Request) : Decidable (DariHalaman php w q) :=
  decidable_of_iff ((q.tombol = some "meter_add" →
      (handle php w q).1 = .ok (.loginIndex (.alihkan .meter .suksesAdd)) →
      ∀ u ∈ q.post.get? "username",
        q.post.get? "meter_awal" = some (meterAwalOtomatis (dataLastMeter w.db q.clock.php) u) ∧
        ∀ r ∈ w.db.catatan u, r.stamp.ordinal < q.clock.sql.ordinal) ∧
      (q.tombol = some "meter_edit" → EditAccepted php w q →
        ∀ r ∈ w.db.pemakaianByNo (Db.nomor php q.post),
          q.post.get? "meter_awal" = some (orEmpty (r.meterAwal.map Decimal.text))))
    ⟨fun ⟨h₁, h₂⟩ => ⟨h₁, h₂⟩, fun h => ⟨h.tambah, h.ubah⟩⟩

def Terakhir (db : Db) (r : Pemakaian) : Prop :=
  ∀ r' ∈ db.pemakaian.rows, r'.username = r.username → r'.stamp.ordinal ≤ r.stamp.ordinal

def Pertama (db : Db) (r : Pemakaian) : Prop :=
  ∀ r' ∈ db.pemakaian.rows, r'.username = r.username → r.stamp.ordinal ≤ r'.stamp.ordinal

instance (db : Db) (r : Pemakaian) : Decidable (Terakhir db r) := by
  unfold Terakhir
  infer_instance

instance (db : Db) (r : Pemakaian) : Decidable (Pertama db r) := by
  unfold Pertama
  infer_instance

/-- A correction of meter_akhir is made to the latest reading, and a reading that is
removed is at an end or has no volume. -/
structure Menyambung (php : Php) (w : World) (q : Request) : Prop where
  ubah : q.tombol = some "meter_edit" → EditAccepted php w q →
    ∀ r ∈ w.db.pemakaianByNo (Db.nomor php q.post), r.username.isSome →
      readOperand php (q.post.get? "meter_akhir") = some r.meterAkhir ∨ Terakhir w.db r
  hapus : q.tombol = some "meter_hapus" →
    (handle php w q).1 = .ok (.loginIndex (.alihkan .meter .suksesHapus)) →
    ∀ r ∈ w.db.pemakaianByNo (Db.nomor php q.post), r.username.isSome →
      Terakhir w.db r ∨ Pertama w.db r ∨ r.meterAkhir = r.meterAwal

instance (php : Php) (w : World) (q : Request) : Decidable (Menyambung php w q) :=
  have hubah : Decidable (q.tombol = some "meter_edit" → EditAccepted php w q →
      ∀ r ∈ w.db.pemakaianByNo (Db.nomor php q.post), r.username.isSome →
        readOperand php (q.post.get? "meter_akhir") = some r.meterAkhir ∨ Terakhir w.db r) :=
    inferInstance
  have hhapus : Decidable (q.tombol = some "meter_hapus" →
      (handle php w q).1 = .ok (.loginIndex (.alihkan .meter .suksesHapus)) →
      ∀ r ∈ w.db.pemakaianByNo (Db.nomor php q.post), r.username.isSome →
        Terakhir w.db r ∨ Pertama w.db r ∨ r.meterAkhir = r.meterAwal) := inferInstance
  @decidable_of_iff _ _ ⟨fun ⟨h₁, h₂⟩ => ⟨h₁, h₂⟩, fun h => ⟨h.ubah, h.hapus⟩⟩
    (@instDecidableAnd _ _ hubah hhapus)

/-- Each reading of a resident starts where the one before it stopped. -/
def Bersambung (db : Db) : Prop :=
  ∀ u, Linked Pemakaian.meterAwal Pemakaian.meterAkhir (db.riwayat u)

/-! ## One request -/

section Catatan
variable {db db' : Db} {u : String}

theorem catatan_map {f : Pemakaian → Pemakaian} (hname : ∀ r, (f r).username = r.username)
    (hrows : db'.pemakaian.rows = db.pemakaian.rows.map f) :
    db'.catatan u = (db.catatan u).map f := by
  rw [Db.catatan, hrows, List.filter_map, Db.catatan]
  congr 1
  apply List.filter_congr
  intro r _
  simp [hname]

theorem catatan_filter {p : Pemakaian → Bool}
    (hrows : db'.pemakaian.rows = db.pemakaian.rows.filter p) :
    db'.catatan u = (db.catatan u).filter p := by
  rw [Db.catatan, hrows, Db.catatan, List.filter_comm]

theorem Urut.map {f : Pemakaian → Pemakaian} (h : Urut db)
    (hname : ∀ r, (f r).username = r.username) (hstamp : ∀ r, (f r).stamp = r.stamp)
    (hrows : db'.pemakaian.rows = db.pemakaian.rows.map f) : Urut db' := by
  intro u
  rw [catatan_map hname hrows, List.pairwise_map]
  simpa only [hstamp] using h u

theorem Urut.filter {p : Pemakaian → Bool} (h : Urut db)
    (hrows : db'.pemakaian.rows = db.pemakaian.rows.filter p) : Urut db' := by
  intro u
  rw [catatan_filter hrows]
  exact (h u).sublist List.filter_sublist

theorem bersambung_iff (h : Urut db) :
    Bersambung db ↔ ∀ u, Linked Pemakaian.meterAwal Pemakaian.meterAkhir (db.catatan u) := by
  unfold Bersambung
  simp only [h.riwayat]

theorem catatan_split (h : Urut db) {r : Pemakaian} (hr : r ∈ db.catatan u) :
    ∃ l₁ l₂, db.catatan u = l₁ ++ r :: l₂ ∧ (l₁ = [] ↔ Pertama db r) ∧ (l₂ = [] ↔ Terakhir db r) ∧
      ∀ r' ∈ l₁ ++ l₂, r'.no ≠ r.no := by
  obtain ⟨l₁, l₂, hsplit⟩ := List.append_of_mem hr
  have hlt := h u
  rw [hsplit, List.pairwise_append] at hlt
  obtain ⟨-, hafter, hbefore⟩ := hlt
  have hbelow : ∀ r' ∈ l₁, r'.stamp.ordinal < r.stamp.ordinal :=
    fun r' hr' => hbefore r' hr' r List.mem_cons_self
  have habove : ∀ r' ∈ l₂, r.stamp.ordinal < r'.stamp.ordinal :=
    (List.pairwise_cons.mp hafter).1
  have hmem : ∀ {r'}, r' ∈ l₁ ∨ r' = r ∨ r' ∈ l₂ ↔ r' ∈ db.catatan u := by
    intro r'
    rw [hsplit, List.mem_append, List.mem_cons]
  have hsame : ∀ {r'}, r' ∈ db.catatan u → r'.username = r.username := fun hr' =>
    (mem_catatan.mp hr').2.trans (mem_catatan.mp hr).2.symm
  have hothers : ∀ {r'}, r' ∈ db.pemakaian.rows → r'.username = r.username →
      r' ∈ l₁ ∨ r' = r ∨ r' ∈ l₂ := fun hr' hu =>
    hmem.mpr (mem_catatan.mpr ⟨hr', hu.trans (mem_catatan.mp hr).2⟩)
  refine ⟨l₁, l₂, hsplit, ?_, ?_, ?_⟩
  · constructor
    · rintro rfl r' hr' hu
      rcases hothers hr' hu with hnone | rfl | hlater
      · cases hnone
      · exact Nat.le_refl _
      · exact Nat.le_of_lt (habove r' hlater)
    · intro hfirst
      rw [List.eq_nil_iff_forall_not_mem]
      intro r' hr'
      have hr'mem := hmem.mp (.inl hr')
      exact Nat.not_le.mpr (hbelow r' hr') (hfirst r' (mem_catatan.mp hr'mem).1 (hsame hr'mem))
  · constructor
    · rintro rfl r' hr' hu
      rcases hothers hr' hu with hearlier | rfl | hnone
      · exact Nat.le_of_lt (hbelow r' hearlier)
      · exact Nat.le_refl _
      · cases hnone
    · intro hlast
      rw [List.eq_nil_iff_forall_not_mem]
      intro r' hr'
      have hr'mem := hmem.mp (.inr (.inr hr'))
      exact Nat.not_le.mpr (habove r' hr') (hlast r' (mem_catatan.mp hr'mem).1 (hsame hr'mem))
  · intro r' hr' hno
    have hr'mem : r' ∈ db.catatan u :=
      hmem.mp ((List.mem_append.mp hr').imp_right Or.inr)
    have heq : r' = r :=
      db.pemakaian.eq_of_key (mem_catatan.mp hr'mem).1 (mem_catatan.mp hr).1 hno
    subst heq
    rcases List.mem_append.mp hr' with hr' | hr'
    · exact Nat.lt_irrefl _ (hbelow r' hr')
    · exact Nat.lt_irrefl _ (habove r' hr')

end Catatan

section Step
variable {php : Php} {w : World} {q : Request} {actor : String} {level : Level} {b : Reading}

theorem catatan_of_adds (h : Adds php w q actor level b) (u : String) :
    (step php w q).db.catatan u = w.db.catatan u ++
      if q.post.get? "username" = some u then
        [w.db.freshRow q.post b q.clock.sql w.db.pemakaian.next] else [] := by
  rw [Db.catatan, h.rows, List.filter_append, Db.catatan]
  congr 1
  split
  · rename_i hu
    exact List.filter_cons_of_pos (decide_eq_true hu)
  · rename_i hu
    exact List.filter_cons_of_neg fun hname => hu (of_decide_eq_true hname)

theorem ite_keeps {γ : Type} (column : Pemakaian → γ) (p : Pemakaian → Bool)
    {f : Pemakaian → Pemakaian} (hf : ∀ r, column (f r) = column r) (r : Pemakaian) :
    column (if p r then f r else r) = column r := by
  split
  · exact hf r
  · rfl

theorem urut_step (hpage : DariHalaman php w q) (hurut : Urut w.db) :
    Urut (step php w q).db := by
  rcases step_pemakaian_cases php w q with hsame | ⟨actor, level, b, h⟩ | ⟨actor, level, b, h⟩ |
    ⟨actor, level, h⟩ | ⟨actor, level, -, h⟩ | ⟨actor, level, bukti, no, -, h⟩
  · intro u
    rw [Db.catatan, hsame]
    exact hurut u
  · intro u
    rw [catatan_of_adds h u]
    split
    · rename_i hu
      rw [List.pairwise_append]
      refine ⟨hurut u, List.pairwise_singleton _ _, fun r hr r' hr' => ?_⟩
      rw [List.mem_singleton.mp hr']
      exact (hpage.tambah h.auth.asks (response_of_adds h) u hu).2 r hr
    · rw [List.append_nil]
      exact hurut u
  · exact hurut.map (ite_keeps Pemakaian.username _ (Db.username_editRow php q.post w.db b))
      (ite_keeps Pemakaian.stamp _ (Db.stamp_editRow php q.post w.db b)) h.rows
  · exact hurut.filter h.rows
  · apply hurut.filter
    rw [h, Db.rows_hapusUser]
  · have hrows := congrArg (fun table : AutoTable Pemakaian.no => table.rows) h
    exact hurut.map (ite_keeps Pemakaian.username _ (Pemakaian.username_setBukti bukti))
      (ite_keeps Pemakaian.stamp _ (Pemakaian.stamp_setBukti bukti)) hrows

theorem bersambung_of_adds (h : Adds php w q actor level b) (hpage : DariHalaman php w q)
    (hurut : Urut w.db) (hw : Bersambung w.db) : Bersambung (step php w q).db := by
  apply (bersambung_iff (urut_step hpage hurut)).mpr
  intro u
  have hlinked := (bersambung_iff hurut).mp hw u
  rw [catatan_of_adds h u]
  split
  · rename_i hu
    rw [linked_concat hlinked]
    intro y hy
    have hawal := (hpage.tambah h.auth.asks (response_of_adds h) u hu).1
    have hmeter : b.meterAwal = y.meterAkhir := by
      by_cases hempty : u = ""
      · rw [meterAwalOtomatis, if_pos hempty] at hawal
        exact absurd (operands_of_reading h.reading).2 (by
          rw [hawal, readOperand, php.angka_empty]
          exact fun hnone => by cases hnone)
      · rw [meterAwalOtomatis, if_neg hempty] at hawal
        have hget : ((dataLastMeter w.db q.clock.php).get? u).map DataMeter.meterAkhir =
            some y.meterAkhir := by
          rw [dataLastMeter_meterAkhir hurut hempty, hy]
          rfl
        obtain ⟨d, hd, hakhir⟩ := Option.map_eq_some_iff.mp hget
        rw [hd] at hawal
        dsimp only at hawal
        rw [hakhir] at hawal
        exact reading_meterAwal h.reading hawal
    exact hmeter
  · rw [List.append_nil]
    exact hlinked

theorem hasNo_eq_false {l : List Pemakaian} {no : Option Int}
    (h : ∀ r ∈ l, no ≠ some (r.no : Int)) {r : Pemakaian} (hr : r ∈ l) :
    Pemakaian.hasNo no r = false :=
  Bool.eq_false_iff.mpr fun hno => h r hr (hasNo_iff.mp hno)

theorem hasNo_of_ne {no : Option Int} {r r' : Pemakaian} (hno : no = some (r.no : Int))
    (hne : r'.no ≠ r.no) : Pemakaian.hasNo no r' = false := by
  apply Bool.eq_false_iff.mpr
  intro hno'
  have hsame := hno.symm.trans (hasNo_iff.mp hno')
  exact hne (Int.ofNat_inj.mp (Option.some.inj hsame)).symm

theorem map_of_not {l : List Pemakaian} {p : Pemakaian → Bool} {f : Pemakaian → Pemakaian}
    (h : ∀ r ∈ l, p r = false) : (l.map fun r => if p r then f r else r) = l := by
  conv_rhs => rw [← List.map_id l]
  apply List.map_congr_left
  intro r hr
  rw [h r hr]
  rfl

theorem filter_of_not {l : List Pemakaian} {p : Pemakaian → Bool} (h : ∀ r ∈ l, p r = false) :
    (l.filter fun r => !p r) = l := by
  apply List.filter_eq_self.mpr
  intro r hr
  rw [h r hr]
  rfl

theorem addressed_cases (db : Db) (no : Option Int) :
    (∃ u r, db.pemakaianByNo no = some r ∧ r ∈ db.catatan u ∧ no = some (r.no : Int) ∧
      ∀ v, v ≠ u → ∀ r' ∈ db.catatan v, no ≠ some (r'.no : Int)) ∨
    ((∀ r, db.pemakaianByNo no = some r → r.username = none) ∧
      ∀ v, ∀ r' ∈ db.catatan v, no ≠ some (r'.no : Int)) := by
  have hunique : ∀ {r r' : Pemakaian} {v : String}, db.pemakaianByNo no = some r →
      r' ∈ db.catatan v → no = some (r'.no : Int) → r' = r := by
    intro r r' v hr hr' hno
    rw [hno, pemakaianByNo_of_mem (mem_catatan.mp hr').1] at hr
    exact Option.some.inj hr
  cases hby : db.pemakaianByNo no with
  | none =>
    refine .inr ⟨fun r hr => (by cases hr), fun v r' hr' hno => ?_⟩
    rw [hno, pemakaianByNo_of_mem (mem_catatan.mp hr').1] at hby
    cases hby
  | some r =>
    obtain ⟨hr, hno⟩ := mem_of_pemakaianByNo hby
    cases huser : r.username with
    | none =>
      refine .inr ⟨fun r' hr' => by rwa [← Option.some.inj hr'], fun v r' hr' hno' => ?_⟩
      have hname := (mem_catatan.mp hr').2
      rw [hunique hby hr' hno', huser] at hname
      cases hname
    | some u =>
      refine .inl ⟨u, r, rfl, mem_catatan.mpr ⟨hr, huser⟩, hno, fun v hv r' hr' hno' => hv ?_⟩
      have hname := (mem_catatan.mp hr').2
      rw [hunique hby hr' hno', huser] at hname
      exact (Option.some.inj hname).symm

/-- A page-made meter_edit keeps the chain exactly when it leaves the reading it
addresses at its old end, or nothing follows on from that reading. -/
theorem bersambung_of_edits (h : Edits php w q actor level b) (hpage : DariHalaman php w q)
    (hurut : Urut w.db) (hw : Bersambung w.db) :
    Bersambung (step php w q).db ↔
      ∀ r ∈ w.db.pemakaianByNo (Db.nomor php q.post), r.username.isSome →
        readOperand php (q.post.get? "meter_akhir") = some r.meterAkhir ∨ Terakhir w.db r := by
  have hold := (bersambung_iff hurut).mp hw
  rw [bersambung_iff (urut_step hpage hurut)]
  simp only [catatan_map (ite_keeps Pemakaian.username _ (Db.username_editRow php q.post w.db b))
    h.rows]
  rcases addressed_cases w.db (Db.nomor php q.post) with
    ⟨u, r, hby, hr, hno, hothers⟩ | ⟨hnone, hothers⟩
  · obtain ⟨l₁, l₂, hsplit, -, hlast, hunique⟩ := catatan_split hurut hr
    have hnot : ∀ r' ∈ l₁ ++ l₂, Pemakaian.hasNo (Db.nomor php q.post) r' = false :=
      fun r' hr' => hasNo_of_ne hno (hunique r' hr')
    have hedited : ((w.db.catatan u).map fun r =>
        if Pemakaian.hasNo (Db.nomor php q.post) r then w.db.editRow php q.post b r else r) =
        l₁ ++ w.db.editRow php q.post b r :: l₂ := by
      rw [hsplit, List.map_append, List.map_cons, if_pos (hasNo_iff.mpr hno),
        map_of_not fun r' hr' => hnot r' (List.mem_append_left _ hr'),
        map_of_not fun r' hr' => hnot r' (List.mem_append_right _ hr')]
    have hstart : (w.db.editRow php q.post b r).meterAwal = r.meterAwal :=
      reading_meterAwal h.reading (hpage.ubah h.auth.asks (response_of_edits h) r hby)
    have hlinked := hold u
    rw [hsplit] at hlinked
    have hexact := linked_replace hlinked hstart
    rw [← hedited, hlast] at hexact
    have hakhir : readOperand php (q.post.get? "meter_akhir") = some r.meterAkhir ↔
        (w.db.editRow php q.post b r).meterAkhir = r.meterAkhir := by
      rw [(operands_of_reading h.reading).1, Option.some_inj]
      rfl
    constructor
    · intro hall r' hr' _
      rw [hby] at hr'
      obtain rfl := Option.some.inj hr'
      rw [hakhir]
      exact hexact.mp (hall u)
    · intro hcond v
      by_cases hv : v = u
      · subst hv
        apply hexact.mpr
        rw [← hakhir]
        exact hcond r hby (by rw [(mem_catatan.mp hr).2]; rfl)
      · rw [map_of_not fun r' hr' => hasNo_eq_false (hothers v hv) hr']
        exact hold v
  · apply iff_of_true
    · intro v
      rw [map_of_not fun r' hr' => hasNo_eq_false (hothers v) hr']
      exact hold v
    · intro r hr hsome
      rw [hnone r hr] at hsome
      cases hsome

/-- A meter_hapus keeps the chain exactly when it removes a reading at an end or one
without volume. -/
theorem bersambung_of_removes (h : Removes php w q actor level) (hurut : Urut w.db)
    (hw : Bersambung w.db) :
    Bersambung (step php w q).db ↔
      ∀ r ∈ w.db.pemakaianByNo (Db.nomor php q.post), r.username.isSome →
        Terakhir w.db r ∨ Pertama w.db r ∨ r.meterAkhir = r.meterAwal := by
  have hold := (bersambung_iff hurut).mp hw
  rw [bersambung_iff (hurut.filter h.rows)]
  simp only [catatan_filter h.rows]
  rcases addressed_cases w.db (Db.nomor php q.post) with
    ⟨u, r, hby, hr, hno, hothers⟩ | ⟨hnone, hothers⟩
  · obtain ⟨l₁, l₂, hsplit, hfirst, hlast, hunique⟩ := catatan_split hurut hr
    have hnot : ∀ r' ∈ l₁ ++ l₂, Pemakaian.hasNo (Db.nomor php q.post) r' = false :=
      fun r' hr' => hasNo_of_ne hno (hunique r' hr')
    have hremoved : ((w.db.catatan u).filter fun r =>
        !Pemakaian.hasNo (Db.nomor php q.post) r) = l₁ ++ l₂ := by
      rw [hsplit, List.filter_append, List.filter_cons_of_neg (by simp [hasNo_iff.mpr hno]),
        filter_of_not fun r' hr' => hnot r' (List.mem_append_left _ hr'),
        filter_of_not fun r' hr' => hnot r' (List.mem_append_right _ hr')]
    have hlinked := hold u
    rw [hsplit] at hlinked
    have hexact := linked_remove hlinked
    rw [← hremoved, hfirst, hlast] at hexact
    constructor
    · intro hall r' hr' _
      rw [hby] at hr'
      obtain rfl := Option.some.inj hr'
      exact or_left_comm.mp (hexact.mp (hall u))
    · intro hcond v
      by_cases hv : v = u
      · subst hv
        exact hexact.mpr (or_left_comm.mp (hcond r hby (by rw [(mem_catatan.mp hr).2]; rfl)))
      · rw [filter_of_not fun r' hr' => hasNo_eq_false (hothers v hv) hr']
        exact hold v
  · apply iff_of_true
    · intro v
      rw [filter_of_not fun r' hr' => hasNo_eq_false (hothers v) hr']
      exact hold v
    · intro r hr hsome
      rw [hnone r hr] at hsome
      cases hsome

theorem bersambung_of_hapusUser {post : Form}
    (h : (step php w q).db.pemakaian = (w.db.hapusUser post).pemakaian)
    (hurut : Urut w.db) (hw : Bersambung w.db) : Bersambung (step php w q).db := by
  have hrows : (step php w q).db.pemakaian.rows = w.db.pemakaian.rows.filter
      fun r => !sqlEq r.username (post.get? "yuser") := by
    rw [h, Db.rows_hapusUser]
  apply (bersambung_iff (hurut.filter hrows)).mpr
  intro u
  rw [catatan_filter hrows]
  by_cases hu : post.get? "yuser" = some u
  · have hnone : (w.db.catatan u).filter (fun r => !sqlEq r.username (post.get? "yuser")) = [] := by
      rw [List.filter_eq_nil_iff]
      intro r hr
      simp [hu, (mem_catatan.mp hr).2, sqlEq]
    rw [hnone]
    exact linked_nil
  · have hall : (w.db.catatan u).filter (fun r => !sqlEq r.username (post.get? "yuser")) =
        w.db.catatan u := by
      apply filter_of_not
      intro r hr
      rw [(mem_catatan.mp hr).2]
      simp [sqlEq, Ne.symm hu]
    rw [hall]
    exact (bersambung_iff hurut).mp hw u

theorem bersambung_of_setBukti {bukti : String} {no : Int} (hpage : DariHalaman php w q)
    (h : (step php w q).db.pemakaian = (w.db.setBukti actor bukti no).pemakaian)
    (hurut : Urut w.db) (hw : Bersambung w.db) : Bersambung (step php w q).db := by
  have hrows := congrArg (fun table : AutoTable Pemakaian.no => table.rows) h
  apply (bersambung_iff (urut_step hpage hurut)).mpr
  intro u
  rw [catatan_map (ite_keeps Pemakaian.username _ (Pemakaian.username_setBukti bukti)) hrows,
    linked_map (ite_keeps Pemakaian.meterAwal _ (Pemakaian.meterAwal_setBukti bukti))
      (ite_keeps Pemakaian.meterAkhir _ (Pemakaian.meterAkhir_setBukti bukti))]
  exact (bersambung_iff hurut).mp hw u

theorem bersambung_step (hpage : DariHalaman php w q) (hurut : Urut w.db)
    (hw : Bersambung w.db) : Bersambung (step php w q).db ↔ Menyambung php w q := by
  by_cases hadd : ∃ actor level b, Adds php w q actor level b
  · obtain ⟨actor, level, b, hadd⟩ := hadd
    have hasks := hadd.auth.asks
    apply iff_of_true (bersambung_of_adds hadd hpage hurut hw)
    constructor
    · exact fun htombol => absurd (hasks.symm.trans htombol) (by decide)
    · exact fun htombol => absurd (hasks.symm.trans htombol) (by decide)
  by_cases hedit : ∃ actor level b, Edits php w q actor level b
  · obtain ⟨actor, level, b, hedit⟩ := hedit
    have hasks := hedit.auth.asks
    rw [bersambung_of_edits hedit hpage hurut hw]
    constructor
    · intro hcond
      exact ⟨fun _ _ => hcond, fun htombol => absurd (hasks.symm.trans htombol) (by decide)⟩
    · exact fun hgood => hgood.ubah hasks (response_of_edits hedit)
  by_cases hremove : ∃ actor level, Removes php w q actor level
  · obtain ⟨actor, level, hremove⟩ := hremove
    have hasks := hremove.auth.asks
    rw [bersambung_of_removes hremove hurut hw]
    constructor
    · intro hcond
      exact ⟨fun htombol => absurd (hasks.symm.trans htombol) (by decide), fun _ _ => hcond⟩
    · exact fun hgood r hr => hgood.hapus hasks (response_of_removes hremove hr) r hr
  have hgood : Menyambung php w q :=
    ⟨fun htombol hres => absurd (edits_of_accepted htombol hres) hedit,
      fun htombol hres => absurd (removes_of_response htombol hres) hremove⟩
  apply iff_of_true _ hgood
  rcases step_pemakaian_cases php w q with hsame | h | h | h | ⟨actor, level, -, h⟩ |
    ⟨actor, level, bukti, no, -, h⟩
  · unfold Bersambung Db.riwayat Db.catatan at hw ⊢
    rw [hsame]
    exact hw
  · exact absurd h hadd
  · exact absurd h hedit
  · exact absurd h hremove
  · exact bersambung_of_hapusUser h hurut hw
  · exact bersambung_of_setBukti hpage h hurut hw

end Step

theorem sum_pemakaian {db : Db} (hsound : ∀ r ∈ db.pemakaian.rows, r.Sound)
    (hdb : Bersambung db) {u : String} {r : Pemakaian} {rs : List Pemakaian}
    (hriwayat : db.riwayat u = r :: rs) :
    ((db.riwayat u).map Pemakaian.pemakaian).sum =
      ((r :: rs).getLast (List.cons_ne_nil r rs)).meterAkhir.getD 0 - r.meterAwal.getD 0 := by
  have hlinked : Linked (fun r : Pemakaian => r.meterAwal.getD 0)
      (fun r => r.meterAkhir.getD 0) (r :: rs) := by
    have hchain := hdb u
    rw [hriwayat] at hchain
    exact List.IsChain.imp (fun a b hab => congrArg (fun reading => reading.getD 0) hab) hchain
  rw [← sum_extents hlinked, ← hriwayat]
  congr 1
  apply List.map_congr_left
  intro r' hr'
  have hmem : r' ∈ db.catatan u := (List.mem_insertionSort _).mp hr'
  exact (hsound r' (mem_catatan.mp hmem).1).volume

/-- Along a run of the pages every resident's readings form a chain all the time
exactly when every correction is made to a latest reading and every reading removed is
at an end or without volume; and where they form a chain, the volumes telescope. -/
theorem bersambung_run_iff (php : Php) (w₀ : World) (qs : List Request)
    (hempty : w₀.db.pemakaian.rows = [])
    (hpage : Trace.Admissible (DariHalaman php) (step php) w₀ qs) :
    (Trace.Always (fun w => Bersambung w.db) (step php) w₀ qs ↔
        Trace.Admissible (Menyambung php) (step php) w₀ qs) ∧
      (Bersambung (serve php w₀ qs).db → ∀ u r rs, (serve php w₀ qs).db.riwayat u = r :: rs →
        (((serve php w₀ qs).db.riwayat u).map Pemakaian.pemakaian).sum =
          ((r :: rs).getLast (List.cons_ne_nil r rs)).meterAkhir.getD 0 - r.meterAwal.getD 0) := by
  have hnone : ∀ u, w₀.db.catatan u = [] := by
    intro u
    rw [Db.catatan, hempty]
    rfl
  have hurut : Urut w₀.db := by
    intro u
    rw [hnone u]
    exact List.Pairwise.nil
  have hstart : Bersambung w₀.db := by
    apply (bersambung_iff hurut).mpr
    intro u
    rw [hnone u]
    exact linked_nil
  constructor
  · exact Trace.always_iff_admissible (J := fun w : World => Urut w.db)
      (fun w q hJ hok => urut_step hok hJ) (fun w q hJ hI hok => bersambung_step hok hJ hI)
      hpage hurut hstart
  · intro hend u r rs hriwayat
    refine sum_pemakaian (sound_serve qs ?_) hend hriwayat
    rw [hempty]
    intro r hr
    cases hr

def kembali (sid : Nat) (s : Stamp) (username password : String) : List Request :=
  Request.kirim sid .loginIndex s [] :: masuk sid s username password

def catatBudi (s : Stamp) (awal akhir : String) : List Request :=
  kembali 1 s "joko" "j" ++
  [ajukan 1 s "meter_add"
    [("username", "budi"), ("meter_awal", awal), ("meter_akhir", akhir),
      ("status_bayar", "BELUM LUNAS")]]

def tigaBulan : List Request :=
  catatSepuluh "budi" ::
    (catatBudi hariFebruari "10" "25" ++ catatBudi hariMaret "25" "31")

def koreksiMaret : Request :=
  ajukan 1 hariMaret "meter_edit"
    [("meter_awal", "25"), ("meter_akhir", "33"), ("status_bayar", "BELUM LUNAS"), ("no", "3")]

def koreksiFebruari : Request :=
  ajukan 1 hariMaret "meter_edit"
    [("meter_awal", "10"), ("meter_akhir", "20"), ("status_bayar", "BELUM LUNAS"), ("no", "2")]

def hapusFebruari : Request := ajukan 1 hariMaret "meter_hapus" [("no", "2")]

theorem bersambung_budi :
    Trace.Always (fun w => Bersambung w.db) (step .decimal)
      (serve .decimal World.pertama kantor) (tigaBulan ++ [koreksiMaret]) := by
  suffices h : _ ∧ _ ∧ _ from
    (bersambung_run_iff .decimal (serve .decimal World.pertama kantor)
      (tigaBulan ++ [koreksiMaret]) h.1 h.2.1).1.mpr h.2.2
  decide +kernel

/-- Correcting the February reading, or removing it, leaves March where it was. -/
theorem bersambung_putus :
    let w := serve .decimal World.pertama kantor
    Trace.Admissible (DariHalaman .decimal) (step .decimal) w
        (tigaBulan ++ [koreksiFebruari]) ∧
      ¬Bersambung (serve .decimal w (tigaBulan ++ [koreksiFebruari])).db ∧
      Trace.Admissible (DariHalaman .decimal) (step .decimal) w (tigaBulan ++ [hapusFebruari]) ∧
      ¬Bersambung (serve .decimal w (tigaBulan ++ [hapusFebruari])).db := by
  suffices h : _ ∧ ¬Linked _ _ _ ∧ _ ∧ ¬Linked _ _ _ from
    ⟨h.1, fun hlinked => h.2.1 (hlinked "budi"), h.2.2.1, fun hlinked => h.2.2.2 (hlinked "budi")⟩
  decide +kernel

end SistemAir
