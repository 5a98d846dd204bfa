import SistemAir.Spec.Readings

/-! The locks of the edit form. The page makes meter_awal readonly for everyone and
meter_akhir for the treasurer; the handler stores what is posted. -/
namespace SistemAir

open KeyedTable StatementProgram Prog

/-- Every reading keeps its meter_awal, and under a treasurer its meter_akhir too. -/
def KunciTerjaga (level : Option Level) (db db' : Db) : Prop :=
  ∀ r ∈ db.pemakaian.rows, ∃ r' ∈ db'.pemakaian.rows, r'.no = r.no ∧
    r'.meterAwal = r.meterAwal ∧ (level = some .bendahara → r'.meterAkhir = r.meterAkhir)

instance (level : Option Level) (db db' : Db) : Decidable (KunciTerjaga level db db') :=
  inferInstanceAs (Decidable (∀ r ∈ db.pemakaian.rows, ∃ r' ∈ db'.pemakaian.rows, _))

/-- A meter_edit that gets to its UPDATE posts what the locked fields of the reading hold. -/
def MengirimTerkunci (php : Php) (w : World) (q : Request) : Prop :=
  ∀ actor level b, Edits php w q actor level b →
    ∀ r ∈ w.db.pemakaianByNo (Db.nomor php q.post),
      b.meterAwal = r.meterAwal ∧ (level = .bendahara → b.meterAkhir = r.meterAkhir)

section Step
variable {php : Php} {w : World} {q : Request} {actor : String} {level : Level} {b : Reading}

theorem kunciTerjaga_of_same {level : Option Level} {db db' : Db}
    (h : db'.pemakaian = db.pemakaian) : KunciTerjaga level db db' :=
  fun r hr => ⟨r, h ▸ hr, rfl, rfl, fun _ => rfl⟩

theorem levelOf_of_authorized {tombol : String} (h : Authorized w q actor level tombol) :
    w.db.levelOf (w.session q.sid).user = some level := by
  rw [h.user]
  exact h.hasLevel

theorem kunciTerjaga_of_edits (h : Edits php w q actor level b) :
    KunciTerjaga (w.db.levelOf (w.session q.sid).user) w.db (step php w q).db ↔
      ∀ r ∈ w.db.pemakaianByNo (Db.nomor php q.post),
        b.meterAwal = r.meterAwal ∧ (level = .bendahara → b.meterAkhir = r.meterAkhir) := by
  rw [levelOf_of_authorized h.auth]
  constructor
  · intro hkept r hfound
    obtain ⟨hr, hno⟩ := mem_of_pemakaianByNo hfound
    obtain ⟨r', hr', hsame, hawal, hakhir⟩ := hkept r hr
    have hedited := h.mem_rows hr hno
    obtain rfl := (step php w q).db.pemakaian.eq_of_key hr' hedited hsame
    exact ⟨hawal, fun hlevel => hakhir (congrArg some hlevel)⟩
  · intro hposted r hr
    by_cases hno : Pemakaian.hasNo (Db.nomor php q.post) r
    · obtain ⟨hawal, hakhir⟩ := hposted r (pemakaianByNo_of_hasNo hr hno)
      exact ⟨w.db.editRow php q.post b r, h.mem_rows hr (hasNo_iff.mp hno), rfl, hawal,
        fun hlevel => hakhir (Option.some.inj hlevel)⟩
    · refine ⟨r, ?_, rfl, rfl, fun _ => rfl⟩
      rw [h.rows, List.mem_map]
      exact ⟨r, hr, if_neg hno⟩

theorem pemakaian_of_tanpaEdits (php : Php) (hasks : q.tombol = some "meter_edit")
    (h : ∀ actor level b, ¬Edits php w q actor level b) :
    (step php w q).db.pemakaian = w.db.pemakaian := by
  have hother {actor : String} {level : Level} {tombol : String} (htombol : tombol ≠ "meter_edit")
      (hauth : Authorized w q actor level tombol) :
      (step php w q).db.pemakaian = w.db.pemakaian :=
    absurd (Option.some.inj (hauth.asks.symm.trans hasks)) htombol
  rcases step_pemakaian_cases php w q with hsame | ⟨_, _, _, hadds⟩ | ⟨actor, level, b, hedits⟩ |
    ⟨_, _, hremoves⟩ | ⟨_, _, hauth, -⟩ | ⟨_, _, _, _, hauth, -⟩
  · exact hsame
  · exact hother (by decide) hadds.auth
  · exact absurd hedits (h actor level b)
  · exact hother (by decide) hremoves.auth
  · exact hother (by decide) hauth
  · exact hother (by decide) hauth

theorem kunciTerjaga_iff (php : Php) (w : World) (hasks : q.tombol = some "meter_edit") :
    KunciTerjaga (w.db.levelOf (w.session q.sid).user) w.db (step php w q).db ↔
      MengirimTerkunci php w q := by
  by_cases h : ∃ actor level b, Edits php w q actor level b
  · obtain ⟨actor, level, b, hedits⟩ := h
    rw [kunciTerjaga_of_edits hedits]
    constructor
    · intro hposted actor' level' b' hedits'
      obtain ⟨-, rfl, -⟩ := hedits.auth.unique hedits'.auth
      obtain rfl : b' = b := Option.some.inj (hedits'.reading.symm.trans hedits.reading)
      exact hposted
    · exact fun hposted => hposted actor level b hedits
  · push Not at h
    exact iff_of_true (kunciTerjaga_of_same (pemakaian_of_tanpaEdits php hasks h))
      fun actor level b hedits => absurd hedits (h actor level b)

end Step

/-- In any run, every meter_edit keeps the locked readings exactly when every one that gets
to its UPDATE posts them as they are stored. -/
theorem reading_locks_iff (php : Php) (w : World) (qs : List Request) :
    Trace.Admissible (fun w q => q.tombol = some "meter_edit" →
        KunciTerjaga (w.db.levelOf (w.session q.sid).user) w.db (step php w q).db) (step php) w qs ↔
      Trace.Admissible (fun w q => q.tombol = some "meter_edit" → MengirimTerkunci php w q)
        (step php) w qs :=
  Trace.admissible_congr fun w q => forall_congr' fun hasks => kunciTerjaga_iff php w (q := q) hasks

def ubahTerkunci : Request :=
  ajukan 2 hariBuka "meter_edit"
    [("no", "1"), ("meter_awal", "5"), ("meter_akhir", "6"), ("status_bayar", "LUNAS")]

theorem reading_locks_violated :
    let w := serve .decimal World.pertama (kantor ++ [catatSepuluh "budi"])
    ubahTerkunci.tombol = some "meter_edit" ∧
      w.db.levelOf (w.session ubahTerkunci.sid).user = some .bendahara ∧
      w.db.pemakaian.rows.map (fun r => (r.meterAwal, r.meterAkhir)) = [(some 0, some 10)] ∧
      (step .decimal w ubahTerkunci).db.pemakaian.rows.map (fun r => (r.meterAwal, r.meterAkhir)) =
        [(some 5, some 6)] ∧
      ¬KunciTerjaga (w.db.levelOf (w.session ubahTerkunci.sid).user) w.db
        (step .decimal w ubahTerkunci).db := by
  decide +kernel

end SistemAir
