import SistemAir.Spec.Change

/-! The accepted requests on pemakaian: when meter_add, meter_edit and meter_hapus
go through, what they answer, and what a row of a later state came from. -/
namespace SistemAir

open KeyedTable StatementProgram Prog

theorem angka_printed (php : Php) (reading : Option Decimal) :
    php.angka (orEmpty (reading.map Decimal.text)) = reading := by
  cases reading with
  | none => exact php.angka_empty
  | some n => exact php.angka_text n

section Reading
variable {php : Php} {post : Form} {b : Reading}

theorem operands_of_reading (h : Reading.ofPost php post = some b) :
    readOperand php (post.get? "meter_akhir") = some b.meterAkhir ∧
      readOperand php (post.get? "meter_awal") = some b.meterAwal := by
  unfold Reading.ofPost at h
  split at h
  · rename_i hakhir hawal
    cases h
    exact ⟨hakhir, hawal⟩
  · cases h

theorem reading_meterAwal {awal : Option Decimal} (h : Reading.ofPost php post = some b)
    (hprinted : post.get? "meter_awal" = some (orEmpty (awal.map Decimal.text))) :
    b.meterAwal = awal := by
  have hawal := (operands_of_reading h).2
  rw [hprinted, readOperand, angka_printed] at hawal
  cases awal with
  | none => cases hawal
  | some n => exact (Option.some.inj hawal).symm

end Reading

section Accepted
variable (php : Php) (w : World) (q : Request) (actor : String) (level : Level)

structure Adds (b : Reading) : Prop where
  auth : Authorized w q actor level "meter_add"
  reading : Reading.ofPost php q.post = some b
  month : w.db.countMonth (q.post.get? "username") q.clock.php.date.month
    q.clock.php.date.year = 0
  nonneg : 0 ≤ b.pemakaian

/-- A meter_edit that reaches its UPDATE with the reading `b`. -/
structure Edits (b : Reading) : Prop where
  auth : Authorized w q actor level "meter_edit"
  reading : Reading.ofPost php q.post = some b
  unlocked : locked level ((w.db.pemakaianByNo (Db.nomor php q.post)).map Pemakaian.tgl)
    q.clock = false
  nonneg : 0 ≤ b.pemakaian

structure Removes : Prop where
  auth : Authorized w q actor level "meter_hapus"
  unlocked : locked level ((w.db.pemakaianByNo (Db.nomor php q.post)).map Pemakaian.tgl)
    q.clock = false

end Accepted

section Effect
variable {php : Php} {w : World} {q : Request} {actor : String} {level : Level} {b : Reading}

theorem Adds.run (h : Adds php w q actor level b) :
    ∃ entries, ((meterAdd php actor level q.post).run exec (w.opened q)).1 =
        .ok (.alihkan .meter .suksesAdd) ∧
      ((meterAdd php actor level q.post).run exec (w.opened q)).2.db =
        (w.db.catatMeter q.post b q.clock.sql).logs entries := by
  have hfree : ¬(w.opened q).sudahDicatat (q.post.get? "username") := by
    simp [Server.sudahDicatat, h.month]
  rw [run_meterAdd, h.reading]
  dsimp only
  rw [if_neg hfree, if_neg (not_lt.mpr h.nonneg)]
  exact ⟨[_], rfl, rfl⟩

theorem Adds.db (h : Adds php w q actor level b) :
    ∃ entries, (step php w q).db = (w.db.catatMeter q.post b q.clock.sql).logs entries := by
  obtain ⟨entries, -, hdb⟩ := h.run
  exact ⟨entries, by rw [World.db, server_of_authorized php h.auth]; exact hdb⟩

theorem Adds.rows (h : Adds php w q actor level b) :
    (step php w q).db.pemakaian.rows =
      w.db.pemakaian.rows ++ [w.db.freshRow q.post b q.clock.sql w.db.pemakaian.next] := by
  obtain ⟨entries, hdb⟩ := h.db
  rw [hdb]
  rfl

theorem adds_of_response (hauth : Authorized w q actor level "meter_add")
    (hres : (handle php w q).1 = .ok (.loginIndex (.alihkan .meter .suksesAdd))) :
    ∃ b, Adds php w q actor level b := by
  have hrun : ((meterAdd php actor level q.post).run exec (w.opened q)).1 =
      .ok (.alihkan .meter .suksesAdd) := dispatch_of_alihkan php hauth hres
  rw [run_meterAdd] at hrun
  cases hpost : Reading.ofPost php q.post with
  | none =>
    rw [hpost] at hrun
    cases hrun
  | some b =>
    rw [hpost] at hrun
    dsimp only at hrun
    split at hrun
    · cases hrun
    · rename_i hfree
      split at hrun
      · cases hrun
      · rename_i hpos
        have hmonth := of_decide_eq_false (Bool.not_eq_true _ ▸ hfree)
        exact ⟨b, hauth, hpost, Nat.eq_zero_of_not_pos hmonth, not_lt.mp hpos⟩

theorem response_of_adds (h : Adds php w q actor level b) :
    (handle php w q).1 = .ok (.loginIndex (.alihkan .meter .suksesAdd)) := by
  obtain ⟨-, hrun, -⟩ := h.run
  have hdispatch : ((dispatch php q actor level "meter_add").run exec (w.opened q)).1 =
      .ok (.alihkan .meter .suksesAdd) := hrun
  rw [(handle_of_authorized php h.auth).1, hdispatch]
  rfl

theorem Edits.run (h : Edits php w q actor level b) :
    ∃ entries, (((meterEdit php actor level q.post).run exec (w.opened q)).1 =
        .ok (.alihkan .meter .suksesEdit) ∨
      ((meterEdit php actor level q.post).run exec (w.opened q)).1 =
        .ok (.alihkan .meter .tanpaPerubahan)) ∧
      ((meterEdit php actor level q.post).run exec (w.opened q)).2.db =
        (w.db.ubahMeter php q.post b).logs entries := by
  have hopen : ¬(w.opened q).terkunci php level q.post := by
    simp [Server.terkunci, h.unlocked]
  rw [run_meterEdit, if_neg hopen, h.reading]
  dsimp only
  rw [if_neg (not_lt.mpr h.nonneg)]
  split
  · exact ⟨[_], .inl rfl, rfl⟩
  · rename_i hsame
    have htable := w.db.pemakaian.update_of_changed_eq_zero
      (p := Pemakaian.hasNo (Db.nomor php q.post)) (f := w.db.editRow php q.post b)
      (fun _ => rfl) (Nat.eq_zero_of_not_pos hsame)
    refine ⟨[], .inr rfl, ?_⟩
    rw [Db.logs_nil]
    exact (congrArg (fun t => { w.db with pemakaian := t }) htable).symm

theorem Edits.db (h : Edits php w q actor level b) :
    ∃ entries, (step php w q).db = (w.db.ubahMeter php q.post b).logs entries := by
  obtain ⟨entries, -, hdb⟩ := h.run
  exact ⟨entries, by rw [World.db, server_of_authorized php h.auth]; exact hdb⟩

theorem Edits.rows (h : Edits php w q actor level b) :
    (step php w q).db.pemakaian.rows = w.db.pemakaian.rows.map fun r =>
      if Pemakaian.hasNo (Db.nomor php q.post) r then w.db.editRow php q.post b r else r := by
  obtain ⟨entries, hdb⟩ := h.db
  rw [hdb]
  rfl

def EditAccepted (php : Php) (w : World) (q : Request) : Prop :=
  (handle php w q).1 = .ok (.loginIndex (.alihkan .meter .suksesEdit)) ∨
    (handle php w q).1 = .ok (.loginIndex (.alihkan .meter .tanpaPerubahan))

instance (php : Php) (w : World) (q : Request) : Decidable (EditAccepted php w q) :=
  inferInstanceAs (Decidable (_ ∨ _))

theorem edits_of_response (hauth : Authorized w q actor level "meter_edit")
    (hres : EditAccepted php w q) : ∃ b, Edits php w q actor level b := by
  have hrun : ∃ res, ((meterEdit php actor level q.post).run exec (w.opened q)).1 =
      .ok (.alihkan .meter res) := by
    rcases hres with hres | hres
    · exact ⟨_, dispatch_of_alihkan php hauth hres⟩
    · exact ⟨_, dispatch_of_alihkan php hauth hres⟩
  obtain ⟨res, hrun⟩ := hrun
  rw [run_meterEdit] at hrun
  split at hrun
  · cases hrun
  · rename_i hopen
    cases hpost : Reading.ofPost php q.post with
    | none =>
      rw [hpost] at hrun
      cases hrun
    | some b =>
      rw [hpost] at hrun
      dsimp only at hrun
      split at hrun
      · cases hrun
      · rename_i hpos
        exact ⟨b, hauth, hpost, by simpa [Server.terkunci] using hopen, not_lt.mp hpos⟩

theorem edits_of_accepted (hasks : q.tombol = some "meter_edit") (hres : EditAccepted php w q) :
    ∃ actor level b, Edits php w q actor level b := by
  have hredirect : Redirects php w q := hres.elim (fun h => ⟨_, _, h⟩) fun h => ⟨_, _, h⟩
  obtain ⟨actor, level, tombol, hauth⟩ := authorized_of_redirects hredirect
  obtain rfl : "meter_edit" = tombol := Option.some.inj (hasks.symm.trans hauth.asks)
  obtain ⟨b, hedit⟩ := edits_of_response hauth hres
  exact ⟨actor, level, b, hedit⟩

theorem response_of_edits (h : Edits php w q actor level b) : EditAccepted php w q := by
  obtain ⟨-, hrun, -⟩ := h.run
  refine hrun.imp (fun hrun => ?_) fun hrun => ?_
  all_goals
    rw [(handle_of_authorized php h.auth).1]
    exact congrArg (fun out => (out.map (render level q)).map Respons.loginIndex) hrun

theorem removes_of_response (hasks : q.tombol = some "meter_hapus")
    (hres : (handle php w q).1 = .ok (.loginIndex (.alihkan .meter .suksesHapus))) :
    ∃ actor level, Removes php w q actor level := by
  obtain ⟨actor, level, tombol, hauth⟩ := authorized_of_redirects ⟨_, _, hres⟩
  obtain rfl : "meter_hapus" = tombol := Option.some.inj (hasks.symm.trans hauth.asks)
  have hrun : ((meterHapus php actor level q.post).run exec (w.opened q)).1 =
      .ok (.alihkan .meter .suksesHapus) := dispatch_of_alihkan php hauth hres
  rw [run_meterHapus] at hrun
  split at hrun
  · cases hrun
  · rename_i hopen
    exact ⟨actor, level, hauth, by simpa [Server.terkunci] using hopen⟩

theorem response_of_removes (h : Removes php w q actor level) {r : Pemakaian}
    (hr : w.db.pemakaianByNo (Db.nomor php q.post) = some r) :
    (handle php w q).1 = .ok (.loginIndex (.alihkan .meter .suksesHapus)) := by
  have hopen : ¬(w.opened q).terkunci php level q.post := by
    simp [Server.terkunci, h.unlocked]
  have hfound : 0 < ((w.opened q).db.pemakaian.rows.filter
      (Pemakaian.hasNo (Db.nomor php q.post))).length :=
    List.length_pos_of_mem (List.mem_filter.mpr
      ⟨List.mem_of_find?_eq_some hr, List.find?_some hr⟩)
  have hrun := run_meterHapus php actor level q.post (w.opened q)
  rw [if_neg hopen, if_pos hfound] at hrun
  have hdispatch : ((dispatch php q actor level "meter_hapus").run exec (w.opened q)).1 =
      .ok (.alihkan .meter .suksesHapus) := congrArg Prod.fst hrun
  rw [(handle_of_authorized php h.auth).1, hdispatch]
  rfl

theorem Removes.db (h : Removes php w q actor level) :
    ∃ entries, (step php w q).db = (w.db.hapusMeter php q.post).logs entries := by
  have hopen : ¬(w.opened q).terkunci php level q.post := by
    simp [Server.terkunci, h.unlocked]
  have hrun := run_meterHapus php actor level q.post (w.opened q)
  rw [if_neg hopen] at hrun
  have hdb : (step php w q).db = ((meterHapus php actor level q.post).run exec (w.opened q)).2.db :=
    db_of_authorized h.auth
  rw [hdb, hrun]
  split
  · exact ⟨[_], rfl⟩
  · rename_i hnone
    have htable := w.db.pemakaian.delete_of_filter_eq_nil
      (p := Pemakaian.hasNo (Db.nomor php q.post)) (Nat.eq_zero_of_not_pos hnone)
    refine ⟨[], ?_⟩
    rw [Db.logs_nil]
    exact (congrArg (fun t => { w.db with pemakaian := t }) htable).symm

theorem Removes.rows (h : Removes php w q actor level) :
    (step php w q).db.pemakaian.rows =
      w.db.pemakaian.rows.filter fun r => !Pemakaian.hasNo (Db.nomor php q.post) r := by
  obtain ⟨entries, hdb⟩ := h.db
  rw [hdb]
  rfl

end Effect

/-! ## The row a number addresses -/

theorem hasNo_iff {no : Option Int} {r : Pemakaian} :
    Pemakaian.hasNo no r = true ↔ no = some (r.no : Int) := by
  simp [Pemakaian.hasNo, eq_comm]

theorem pemakaianByNo_of_mem {db : Db} {r : Pemakaian} (hr : r ∈ db.pemakaian.rows) :
    db.pemakaianByNo (some r.no) = some r := by
  have hfind := db.pemakaian.find?_of_mem hr
  unfold Table.find? at hfind
  rw [Db.pemakaianByNo, ← hfind]
  refine congrArg (fun p => db.pemakaian.rows.find? p) (funext fun r' => ?_)
  simp only [Pemakaian.hasNo, Option.some.injEq, Int.ofNat_inj]

theorem pemakaianByNo_of_hasNo {db : Db} {no : Option Int} {r : Pemakaian}
    (hr : r ∈ db.pemakaian.rows) (hno : Pemakaian.hasNo no r = true) :
    db.pemakaianByNo no = some r := by
  rw [hasNo_iff.mp hno]
  exact pemakaianByNo_of_mem hr

theorem noToUser_of_mem {db : Db} {r : Pemakaian} (hr : r ∈ db.pemakaian.rows) :
    db.noToUser (some r.no) = r.username := by
  rw [Db.noToUser, pemakaianByNo_of_mem hr, Option.bind_some]

theorem mem_of_pemakaianByNo {db : Db} {no : Option Int} {r : Pemakaian}
    (h : db.pemakaianByNo no = some r) : r ∈ db.pemakaian.rows ∧ no = some (r.no : Int) :=
  ⟨List.mem_of_find?_eq_some h, hasNo_iff.mp (List.find?_some h)⟩

section Written
variable {php : Php} {w : World} {q : Request} {actor : String} {level : Level} {b : Reading}

theorem Adds.mem_rows (h : Adds php w q actor level b) :
    w.db.freshRow q.post b q.clock.sql w.db.pemakaian.next ∈
      (step php w q).db.pemakaian.rows := by
  rw [h.rows]
  exact List.mem_append_right _ (List.mem_singleton_self _)

theorem Edits.mem_rows (h : Edits php w q actor level b) {r : Pemakaian}
    (hr : r ∈ w.db.pemakaian.rows) (hno : Db.nomor php q.post = some (r.no : Int)) :
    w.db.editRow php q.post b r ∈ (step php w q).db.pemakaian.rows := by
  rw [h.rows]
  exact List.mem_map.mpr ⟨r, hr, if_pos (hasNo_iff.mpr hno)⟩

end Written

/-! ## Where the rows come from -/

theorem step_pemakaian_cases (php : Php) (w : World) (q : Request) :
    (step php w q).db.pemakaian = w.db.pemakaian ∨
    (∃ actor level b, Adds php w q actor level b) ∨
    (∃ actor level b, Edits php w q actor level b) ∨
    (∃ actor level, Removes php w q actor level) ∨
    (∃ actor level, Authorized w q actor level "user_hapus" ∧
      (step php w q).db.pemakaian = (w.db.hapusUser q.post).pemakaian) ∨
    ∃ actor level bukti no, Authorized w q actor level "upload_bukti" ∧
      (step php w q).db.pemakaian = (w.db.setBukti actor bukti no).pemakaian := by
  rcases step_db_cases php w q with hsame | ⟨hpage, h⟩ | ⟨actor, level, tombol, hauth, h⟩
  · exact .inl (congrArg Db.pemakaian hsame)
  · refine .inl ?_
    generalize (step php w q).db = db' at h
    cases h <;> rfl
  · obtain ⟨core, entries, hchange, hdb, -⟩ := h
    rw [hdb, Db.logs_pemakaian]
    cases hchange with
    | userRemoved htombol =>
      subst htombol
      exact .inr (.inr (.inr (.inr (.inl ⟨actor, level, hauth, rfl⟩))))
    | meterAdded htombol hpost hmonth hpos =>
      subst htombol
      exact .inr (.inl ⟨actor, level, _, hauth, hpost, hmonth, hpos⟩)
    | meterEdited htombol hpost hopen hpos =>
      subst htombol
      exact .inr (.inr (.inl ⟨actor, level, _, hauth, hpost, hopen, hpos⟩))
    | meterRemoved htombol hopen =>
      subst htombol
      exact .inr (.inr (.inr (.inl ⟨actor, level, hauth, hopen⟩)))
    | buktiUpdated htombol bukti no =>
      subst htombol
      exact .inr (.inr (.inr (.inr (.inr ⟨actor, level, bukti, no, hauth, rfl⟩))))
    | _ => exact .inl rfl

section Handler
variable (php : Php) {w : World} {q : Request} {actor : String} {level : Level}

theorem meterAdd_cases (hauth : Authorized w q actor level "meter_add") :
    (∃ b, Adds php w q actor level b) ∨ (step php w q).db.pemakaian = w.db.pemakaian := by
  rcases step_pemakaian_cases php w q with hsame | ⟨_, _, b, h⟩ | ⟨_, _, b, h⟩ | ⟨_, _, h⟩ |
    ⟨_, _, h, -⟩ | ⟨_, _, _, _, h, -⟩
  · exact .inr hsame
  · obtain ⟨rfl, rfl, -⟩ := hauth.unique h.auth
    exact .inl ⟨b, h⟩
  · exact absurd (hauth.unique h.auth).2.2 (by decide)
  · exact absurd (hauth.unique h.auth).2.2 (by decide)
  · exact absurd (hauth.unique h).2.2 (by decide)
  · exact absurd (hauth.unique h).2.2 (by decide)

theorem meterEdit_cases (hauth : Authorized w q actor level "meter_edit") :
    (∃ b, Edits php w q actor level b) ∨ (step php w q).db.pemakaian = w.db.pemakaian := by
  rcases step_pemakaian_cases php w q with hsame | ⟨_, _, b, h⟩ | ⟨_, _, b, h⟩ | ⟨_, _, h⟩ |
    ⟨_, _, h, -⟩ | ⟨_, _, _, _, h, -⟩
  · exact .inr hsame
  · exact absurd (hauth.unique h.auth).2.2 (by decide)
  · obtain ⟨rfl, rfl, -⟩ := hauth.unique h.auth
    exact .inl ⟨b, h⟩
  · exact absurd (hauth.unique h.auth).2.2 (by decide)
  · exact absurd (hauth.unique h).2.2 (by decide)
  · exact absurd (hauth.unique h).2.2 (by decide)

end Handler

/-- A row after a request: kept, given new evidence, edited or added. -/
inductive RowFrom (php : Php) (w : World) (q : Request) (r' : Pemakaian) : Prop
  | kept (hr : r' ∈ w.db.pemakaian.rows)
  | bukti {r : Pemakaian} (hr : r ∈ w.db.pemakaian.rows) (bukti : String)
      (heq : r' = r.setBukti bukti)
  | edited {actor : String} {level : Level} {b : Reading} (h : Edits php w q actor level b)
      {r : Pemakaian} (hr : r ∈ w.db.pemakaian.rows)
      (hno : Pemakaian.hasNo (Db.nomor php q.post) r = true)
      (heq : r' = w.db.editRow php q.post b r)
  | added {actor : String} {level : Level} {b : Reading} (h : Adds php w q actor level b)
      (heq : r' = w.db.freshRow q.post b q.clock.sql w.db.pemakaian.next)

theorem rowFrom_step (php : Php) (w : World) (q : Request) {r' : Pemakaian}
    (hr' : r' ∈ (step php w q).db.pemakaian.rows) : RowFrom php w q r' := by
  rcases step_pemakaian_cases php w q with hsame | ⟨actor, level, b, h⟩ | ⟨actor, level, b, h⟩ |
    ⟨actor, level, h⟩ | ⟨actor, level, -, hrows⟩ | ⟨actor, level, bukti, no, -, hrows⟩
  · rw [hsame] at hr'
    exact .kept hr'
  · rw [h.rows] at hr'
    rcases List.mem_append.mp hr' with hr | hr
    · exact .kept hr
    · exact .added h (List.mem_singleton.mp hr)
  · rw [h.rows] at hr'
    obtain ⟨r, hr, rfl⟩ := List.mem_map.mp hr'
    by_cases hno : Pemakaian.hasNo (Db.nomor php q.post) r
    · rw [if_pos hno]
      exact .edited h hr hno rfl
    · rw [if_neg hno]
      exact .kept hr
  · rw [h.rows] at hr'
    exact .kept (List.mem_of_mem_filter hr')
  · rw [hrows, Db.rows_hapusUser] at hr'
    exact .kept (List.mem_of_mem_filter hr')
  · rw [hrows, Db.rows_setBukti] at hr'
    obtain ⟨r, hr, rfl⟩ := List.mem_map.mp hr'
    split
    · exact .bukti hr bukti rfl
    · exact .kept hr

/-- What is true of every reading and does not depend on its evidence stays true exactly
when it is true of the reading a meter_add stores and of the one a meter_edit leaves. -/
theorem rows_step_iff (php : Php) {w : World} (q : Request) {P : Pemakaian → Prop}
    (hbukti : ∀ r bukti, P r → P (r.setBukti bukti)) (h : ∀ r ∈ w.db.pemakaian.rows, P r) :
    (∀ r' ∈ (step php w q).db.pemakaian.rows, P r') ↔
      (∀ actor level b, Adds php w q actor level b →
        P (w.db.freshRow q.post b q.clock.sql w.db.pemakaian.next)) ∧
      ∀ actor level b, Edits php w q actor level b →
        ∀ r ∈ w.db.pemakaianByNo (Db.nomor php q.post), P (w.db.editRow php q.post b r) := by
  constructor
  · intro h'
    refine ⟨fun _ _ _ hadds => h' _ hadds.mem_rows, fun _ _ _ hedits r hfound => ?_⟩
    obtain ⟨hr, hno⟩ := mem_of_pemakaianByNo hfound
    exact h' _ (hedits.mem_rows hr hno)
  · rintro ⟨hadd, hedit⟩ r' hr'
    cases rowFrom_step php w q hr' with
    | kept hr => exact h r' hr
    | @bukti r hr bukti heq =>
      rw [heq]
      exact hbukti r bukti (h r hr)
    | @edited actor level b hedits r hr hno heq =>
      rw [heq]
      exact hedit actor level b hedits r (pemakaianByNo_of_hasNo hr hno)
    | @added actor level b hadds heq =>
      rw [heq]
      exact hadd actor level b hadds

end SistemAir
