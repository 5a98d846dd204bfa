import SistemAir.Spec.Readings

/-! Readings and their accounts. user_hapus removes an account's readings before the
account; what decides whether a reading can be left without an account is meter_add. -/
namespace SistemAir

open KeyedTable StatementProgram Prog

/-- No ghosts: every reading belongs to an account that exists. -/
def Db.TanpaHantu (db : Db) : Prop :=
  ∀ r ∈ db.pemakaian.rows, ∃ u, r.username = some u ∧ (db.akun u).isSome

instance (db : Db) : Decidable db.TanpaHantu :=
  decidable_of_iff (∀ r ∈ db.pemakaian.rows, (r.username.bind db.akun).isSome) <| by
    refine forall_congr' fun r => imp_congr_right fun _ => ?_
    cases r.username <;> simp

/-- A meter_add that stores its reading does so for an account that exists. -/
def AddsForAkun (php : Php) (w : World) (q : Request) : Prop :=
  ∀ actor level b, Adds php w q actor level b →
    ∃ u, q.post.get? "username" = some u ∧ (w.db.akun u).isSome

section Step
variable {php : Php} {w : World} {q : Request} {actor tombol : String} {level : Level}
  {db db' : Db} {b : Reading}

theorem tanpaHantu_of_akun (h : db.TanpaHantu)
    (hrows : ∀ r' ∈ db'.pemakaian.rows, ∃ r ∈ db.pemakaian.rows, r'.username = r.username)
    (hakun : ∀ u, (db.akun u).isSome → (db'.akun u).isSome) : db'.TanpaHantu := by
  intro r' hr'
  obtain ⟨r, hr, hname⟩ := hrows r' hr'
  obtain ⟨u, hu, hsome⟩ := h r hr
  exact ⟨u, hname.trans hu, hakun u hsome⟩

theorem akun_isSome_of_append {login' : Table Login.username} {a : Login}
    (hrows : login'.rows = db.login.rows ++ [a]) (u : String) (h : (db.akun u).isSome) :
    (Db.akun { db with login := login' } u).isSome := by
  have hfind := db.login.find?_of_rows_append hrows u
  obtain ⟨a', ha'⟩ := Option.isSome_iff_exists.mp h
  rw [show db.login.find? u = some a' from ha', Option.some_or] at hfind
  exact Option.isSome_iff_exists.mpr ⟨a', hfind⟩

theorem akun_isSome_of_update {p : Login → Bool} {f : Login → Login}
    (hf : ∀ a, (f a).username = a.username) (u : String) (h : (db.akun u).isSome) :
    (Db.akun { db with login := db.login.update p f hf } u).isSome := by
  have hfind := db.login.find?_update p f hf u
  obtain ⟨a, ha⟩ := Option.isSome_iff_exists.mp h
  rw [show db.login.find? u = some a from ha, Option.map_some] at hfind
  exact Option.isSome_iff_exists.mpr ⟨_, hfind⟩

theorem tanpaHantu_hapusUser {post : Form} (h : db.TanpaHantu) :
    (db.hapusUser post).TanpaHantu := by
  intro r hr
  rw [Db.rows_hapusUser] at hr
  obtain ⟨hr, hkeep⟩ := List.mem_filter.mp hr
  obtain ⟨u, hu, hsome⟩ := h r hr
  refine ⟨u, hu, ?_⟩
  obtain ⟨a, ha⟩ := Option.isSome_iff_exists.mp hsome
  have hname := (db.akun_eq_some_iff.mp ha).2
  have hfind := db.login.find?_delete (fun r => sqlEq (some r.username) (post.get? "yuser")) u
  rw [show db.login.find? u = some a from ha, Option.filter_some] at hfind
  have hstays : (!sqlEq (some a.username) (post.get? "yuser")) = true := by
    rw [hname, ← hu]
    exact hkeep
  rw [if_pos hstays] at hfind
  exact Option.isSome_iff_exists.mpr ⟨a, hfind⟩

theorem Change.tanpaHantu (hchange : Change php q actor level tombol db db')
    (hadd : tombol ≠ "meter_add") (h : db.TanpaHantu) : db'.TanpaHantu := by
  cases hchange with
  | same => exact h
  | userAdded htombol hpost hfresh hrows =>
    exact tanpaHantu_of_akun h (fun r hr => ⟨r, hr, rfl⟩) (akun_isSome_of_append hrows)
  | userEdited =>
    exact tanpaHantu_of_akun h (fun r hr => ⟨r, hr, rfl⟩)
      (akun_isSome_of_update (f := Login.edited php q.salt q.post) fun _ => rfl)
  | profilEdited =>
    exact tanpaHantu_of_akun h (fun r hr => ⟨r, hr, rfl⟩)
      (akun_isSome_of_update (f := Login.profiled php q.salt q.post) fun _ => rfl)
  | userRemoved => exact tanpaHantu_hapusUser h
  | tarifAdded | tarifEdited | tarifRemoved => exact h
  | meterAdded htombol => exact absurd htombol hadd
  | meterEdited htombol hpost hopen hpos =>
    refine tanpaHantu_of_akun h (fun r' hr' => ?_) fun _ hu => hu
    rw [Db.rows_ubahMeter] at hr'
    obtain ⟨r, hr, rfl⟩ := List.mem_map.mp hr'
    refine ⟨r, hr, ?_⟩
    split <;> rfl
  | meterRemoved =>
    refine tanpaHantu_of_akun h (fun r' hr' => ?_) fun _ hu => hu
    rw [Db.rows_hapusMeter] at hr'
    exact ⟨r', List.mem_of_mem_filter hr', rfl⟩
  | buktiUpdated htombol bukti no =>
    refine tanpaHantu_of_akun h (fun r' hr' => ?_) fun _ hu => hu
    rw [Db.rows_setBukti] at hr'
    obtain ⟨r, hr, rfl⟩ := List.mem_map.mp hr'
    refine ⟨r, hr, ?_⟩
    split <;> rfl

theorem tanpaHantu_of_adds (hadd : Adds php w q actor level b) (h : w.db.TanpaHantu) :
    (step php w q).db.TanpaHantu ↔
      ∃ u, q.post.get? "username" = some u ∧ (w.db.akun u).isSome := by
  obtain ⟨entries, hdb⟩ := hadd.db
  have hakun : ∀ u, (step php w q).db.akun u = w.db.akun u := by
    intro u
    rw [hdb]
    rfl
  constructor
  · intro h'
    obtain ⟨u, hu, hsome⟩ := h' _ hadd.mem_rows
    exact ⟨u, hu, hakun u ▸ hsome⟩
  · rintro ⟨u, hu, hsome⟩ r hr
    rw [hadd.rows] at hr
    rcases List.mem_append.mp hr with hr | hr
    · obtain ⟨u', hu', hsome'⟩ := h r hr
      exact ⟨u', hu', (hakun u').symm ▸ hsome'⟩
    · rw [List.mem_singleton.mp hr]
      exact ⟨u, hu, (hakun u).symm ▸ hsome⟩

theorem tanpaHantu_step (h : w.db.TanpaHantu) :
    (step php w q).db.TanpaHantu ↔ AddsForAkun php w q := by
  by_cases hadd : ∃ actor level b, Adds php w q actor level b
  · obtain ⟨actor, level, b, hadd⟩ := hadd
    rw [tanpaHantu_of_adds hadd h]
    exact ⟨fun hfor _ _ _ _ => hfor, fun hfor => hfor actor level b hadd⟩
  · refine ⟨fun _ actor level b hb => absurd ⟨actor, level, b, hb⟩ hadd, fun _ => ?_⟩
    rcases step_db_cases php w q with hsame | ⟨hpage, hindex⟩ | ⟨actor, level, tombol, hauth, hleaves⟩
    · rw [hsame]
      exact h
    · generalize (step php w q).db = db' at hindex
      cases hindex with
      | same => exact h
      | attempt => exact h
      | registered hasks hfresh hrows =>
        exact tanpaHantu_of_akun h (fun r hr => ⟨r, hr, rfl⟩) (akun_isSome_of_append hrows)
    · obtain ⟨core, entries, hchange, hdb, -⟩ := hleaves
      have hcore : core.TanpaHantu := by
        by_cases htombol : tombol = "meter_add"
        · subst htombol
          -- A meter_add that stores nothing.
          cases hchange with
          | same => exact h
          | meterAdded htombol hpost hmonth hpos =>
            exact absurd ⟨actor, level, _, hauth, hpost, hmonth, hpos⟩ hadd
          | _ => contradiction
        · exact hchange.tanpaHantu htombol h
      rw [hdb]
      exact hcore

end Step

/-- Along any run there is never a ghost exactly when every reading is stored for an
account that exists at that moment. -/
theorem tanpaHantu_iff (php : Php) (w₀ : World) (qs : List Request)
    (h₀ : w₀.db.TanpaHantu) :
    Trace.Always (fun w => w.db.TanpaHantu) (step php) w₀ qs ↔
      Trace.Admissible (AddsForAkun php) (step php) w₀ qs :=
  Trace.always_iff_of_step (I := fun w : World => w.db.TanpaHantu)
    (fun _ _ h => tanpaHantu_step h) qs h₀

theorem tanpaHantu_budi :
    Trace.Always (fun w => w.db.TanpaHantu) (step .decimal) (serve .decimal World.pertama kantor)
      [catatSepuluh "budi"] :=
  (tanpaHantu_iff .decimal (serve .decimal World.pertama kantor) [catatSepuluh "budi"]
    (by decide +kernel)).mpr
    ⟨fun _ _ _ _ => ⟨"budi", by decide +kernel, by decide +kernel⟩, trivial⟩

/-- The form for budi's reading was open while the admin removed his account. -/
theorem meterAdd_ghost :
    let qs := kantor ++
      [ajukan 0 hariBuka "user_hapus" [("yuser", "budi")], catatSepuluh "budi"]
    World.pertama.db.TanpaHantu ∧ ¬(serve .decimal World.pertama qs).db.TanpaHantu := by
  decide +kernel

end SistemAir
