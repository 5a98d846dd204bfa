import SistemAir.Library.Pool
import SistemAir.Spec.Guard

/-! Many meter_add requests at once, statement by statement. Each looks whether its
month is free before it inserts, and others may insert in between. -/
namespace SistemAir

open KeyedTable StatementProgram Prog

/-! ## What one meter_add may do, in order -/

/-- Where a request is between its date, its look at the month and its insert. -/
inductive Fase
  | awal
  | bertanggal (now : Clock)
  | kosong (username : Option String) (now : Clock)
  | selesai
  deriving DecidableEq, Repr

def izin : Protocol Op Fase
  | .awal, _, .dtUser _ => some fun _ => .awal
  | .awal, _, .tipeOf _ => some fun _ => .awal
  | .awal, _, .tarifAktif _ => some fun _ => .awal
  | .awal, _, .tarifOf _ => some fun _ => .awal
  | .awal, _, .clock => some fun now => .bertanggal now
  | .bertanggal now, _, .countMonth u month year =>
    if month = now.php.date.month ∧ year = now.php.date.year then
      some fun found => if found = 0 then .kosong u now else .selesai
    else none
  | .kosong u _, _, .insertPemakaian u' _ _ _ _ _ _ =>
    if u' = u then some fun _ => .selesai else none
  | .selesai, _, .insertAudit _ _ _ _ _ _ => some fun _ => .selesai
  | _, _, _ => none

section Follows

abbrev Lookup {α : Type} (p : Aksi α) : Prop := p.Follows izin (fun _ φ => φ = .awal) .awal

theorem follows_dtUser (u : String) : Lookup (dtUser u) := by
  refine ⟨_, rfl, fun answer => ?_⟩
  cases answer <;> rfl

theorem follows_tipeToKdtarif (tipe : Option String) : Lookup (tipeToKdtarif tipe) := by
  refine ⟨_, rfl, fun answer => ?_⟩
  cases answer <;> rfl

theorem follows_userToIdtarif (u : Option String) : Lookup (userToIdtarif u) := by
  refine ⟨_, rfl, fun answer => ?_⟩
  cases answer with
  | none => rfl
  | some tipe => exact follows_tipeToKdtarif tipe

theorem follows_idTarifToTarif (id : String) : Lookup (idTarifToTarif id) := by
  refine ⟨_, rfl, fun answer => ?_⟩
  cases answer <;> rfl

theorem follows_operand (php : Php) (text : Option String) (φ : Fase) :
    (operand php text).Follows izin (fun _ φ' => φ' = φ) φ := by
  unfold operand
  split
  · rfl
  · split
    · trivial
    · rfl

theorem follows_meterAdd (php : Php) (actor : String) (level : Level) (post : Form) :
    (meterAdd php actor level post).Follows izin (fun _ _ => True) .awal := by
  unfold meterAdd
  apply (follows_userToIdtarif _).bind
  rintro kdTarif _ rfl
  apply (follows_idTarifToTarif _).bind
  rintro tarif _ rfl
  refine ⟨_, rfl, fun now => ?_⟩
  apply (follows_operand php _ (.bertanggal now)).bind
  rintro meterAkhir _ rfl
  apply (follows_operand php _ (.bertanggal now)).bind
  rintro meterAwal _ rfl
  refine ⟨_, if_pos ⟨rfl, rfl⟩, fun found => ?_⟩
  change (if 0 < found then _ else _ : Aksi Hasil).Follows izin _ (if found = 0 then _ else _)
  split
  · rename_i hfree
    rw [if_neg (Nat.not_lt.mpr (Nat.le_of_eq hfree))]
    split
    · trivial
    · refine ⟨_, if_pos rfl, fun affected => ?_⟩
      change (if 0 < affected then _ else _ : Aksi Hasil).Follows izin _ .selesai
      split
      · exact ⟨_, rfl, fun _ => trivial⟩
      · trivial
  · rename_i hfound
    rw [if_pos (Nat.pos_of_ne_zero hfound)]
    trivial

theorem follows_loginIndex (php : Php) {q : Request} (hq : q.tombol = some "meter_add")
    (actor token : String) :
    (loginIndex php q actor token).Follows izin (fun _ _ => True) .awal := by
  unfold loginIndex
  apply (follows_dtUser actor).bind
  rintro ⟨nama, kota, level⟩ _ rfl
  cases level with
  | none => trivial
  | some level =>
    simp only [hq]
    split
    · trivial
    · split
      · trivial
      · apply (follows_meterAdd php actor level q.post).bind
        intro hasil φ _
        trivial

end Follows

/-! ## One statement of one request -/

def bacaTanggal : Aksi Hasil → Bool
  | .call .clock _ => true
  | _ => false

def sisip : Aksi Hasil → Option (Option String)
  | .call (.insertPemakaian u _ _ _ _ _ _) _ => some u
  | _ => none

/-- What the next statement of a request in phase `φ` does, and the phase after it. -/
inductive Langkah (s : Server) : Aksi Hasil → Fase → Server → Fase → Prop
  | diam {p φ s'} (hdate : bacaTanggal p = false) (hinsert : sisip p = none)
      (hrows : s'.db.pemakaian = s.db.pemakaian) (hclock : s'.clock = s.clock) :
      Langkah s p φ s' φ
  | bertanggal {p} (hdate : bacaTanggal p = true) (hinsert : sisip p = none) :
      Langkah s p .awal s (.bertanggal s.clock)
  | periksa {p now u} (hdate : bacaTanggal p = false) (hinsert : sisip p = none) :
      Langkah s p (.bertanggal now) s
        (if s.db.countMonth u now.php.date.month now.php.date.year = 0 then .kosong u now
        else .selesai)
  | catat {p u now s' row} (hdate : bacaTanggal p = false) (hinsert : sisip p = some u)
      (hno : row.no = s.db.pemakaian.next) (huser : row.username = u)
      (htgl : row.tgl = s.clock.sql.date)
      (hrows : s'.db.pemakaian.rows = s.db.pemakaian.rows ++ [row])
      (hnext : s'.db.pemakaian.next = s.db.pemakaian.next + 1) (hclock : s'.clock = s.clock) :
      Langkah s p (.kosong u now) s' .selesai

/-- A request that follows its order takes one of these steps. -/
theorem langkah_of_follows {p : Aksi Hasil} {φ : Fase} (s : Server)
    (hp : p.Follows izin (fun _ _ => True) φ) :
    ∃ φ', Langkah s p φ (p.stepOnce exec s).2 φ' ∧
      (p.stepOnce exec s).1.Follows izin (fun _ _ => True) φ' := by
  cases p with
  | done value => exact ⟨φ, .diam rfl rfl rfl rfl, hp⟩
  | fail error => exact ⟨φ, .diam rfl rfl rfl rfl, hp⟩
  | call statement next =>
    obtain ⟨after, hallow, hnext⟩ := hp
    cases φ with
    | awal =>
      cases statement with
      | clock =>
        cases hallow
        exact ⟨_, .bertanggal rfl rfl, hnext _⟩
      | dtUser u =>
        cases hallow
        exact ⟨_, .diam rfl rfl rfl rfl, hnext _⟩
      | tipeOf u =>
        cases hallow
        exact ⟨_, .diam rfl rfl rfl rfl, hnext _⟩
      | tarifAktif tipe =>
        cases hallow
        exact ⟨_, .diam rfl rfl rfl rfl, hnext _⟩
      | tarifOf id =>
        cases hallow
        exact ⟨_, .diam rfl rfl rfl rfl, hnext _⟩
      | _ => cases hallow
    | bertanggal now =>
      cases statement with
      | countMonth u month year =>
        simp only [izin] at hallow
        split at hallow
        · rename_i hmonth
          cases hallow
          obtain ⟨rfl, rfl⟩ := hmonth
          exact ⟨_, .periksa rfl rfl, hnext _⟩
        · cases hallow
      | _ => cases hallow
    | kosong u now =>
      cases statement with
      | insertPemakaian u' awal akhir pemakaian kdTarif tagihan status =>
        simp only [izin] at hallow
        split at hallow
        · rename_i hsame
          cases hallow
          subst hsame
          exact ⟨_, .catat rfl rfl rfl rfl rfl rfl rfl rfl, hnext _⟩
        · cases hallow
      | _ => cases hallow
    | selesai =>
      cases statement with
      | insertAudit actor level aksi tabel idTarget detail =>
        cases hallow
        exact ⟨_, .diam rfl rfl rfl rfl, hnext _⟩
      | _ => cases hallow

/-! ## What a request knows of the readings before its date -/

theorem inMonth_iff {u : Option String} {d : Date} {r : Pemakaian} :
    r.inMonth u d.month d.year = true ↔
      sqlEq r.username u = true ∧ r.tgl.monthIndex = d.monthIndex := by
  rw [Date.monthIndex_eq_iff]
  simp [Pemakaian.inMonth, and_assoc]

/-- The tables only grew since, under fresh numbers, and time has passed. -/
structure Lanjut (s s' : Server) : Prop where
  rows : ∀ r ∈ s'.db.pemakaian.rows, r ∈ s.db.pemakaian.rows ∨ s.db.pemakaian.next ≤ r.no
  next : s.db.pemakaian.next ≤ s'.db.pemakaian.next
  clock : s.clock.Le s'.clock

/-- A request that read the clocks as `now` when the next number was `tanda`. -/
structure Membaca (s : Server) (tanda : Nat) (now : Clock) : Prop where
  tanda : tanda ≤ s.db.pemakaian.next
  clock : now.Le s.clock
  agree : now.Agree

/-- Before its check, a request knows that older readings are not of a later month;
after it, that those of its resident are of an earlier one. -/
def Tahu (s : Server) (tanda : Nat) : Fase → Prop
  | .awal => True
  | .bertanggal now => Membaca s tanda now ∧ ∀ r ∈ s.db.pemakaian.rows, r.no < tanda →
      r.tgl.monthIndex ≤ now.sql.date.monthIndex
  | .kosong u now => Membaca s tanda now ∧ ∀ r ∈ s.db.pemakaian.rows, r.no < tanda →
      sqlEq r.username u → r.tgl.monthIndex < now.sql.date.monthIndex
  | .selesai => True

/-- No reading is of a month still to come, and the two machines agree. -/
structure Kini (s : Server) : Prop where
  agree : s.clock.Agree
  past : ∀ r ∈ s.db.pemakaian.rows, r.tgl.monthIndex ≤ s.clock.sql.date.monthIndex

instance (s : Server) : Decidable (Kini s) :=
  decidable_of_iff (s.clock.Agree ∧
      ∀ r ∈ s.db.pemakaian.rows, r.tgl.monthIndex ≤ s.clock.sql.date.monthIndex)
    ⟨fun ⟨h₁, h₂⟩ => ⟨h₁, h₂⟩, fun h => ⟨h.agree, h.past⟩⟩

section Tahu
variable {s s' : Server} {tanda : Nat} {φ φ' : Fase} {p : Aksi Hasil}

theorem Membaca.mono {now : Clock} (h : Membaca s tanda now) (hs : Lanjut s s') :
    Membaca s' tanda now :=
  ⟨h.tanda.trans hs.next, h.clock.trans hs.clock, h.agree⟩

theorem Lanjut.old (hs : Lanjut s s') {now : Clock} (h : Membaca s tanda now) {r : Pemakaian}
    (hr : r ∈ s'.db.pemakaian.rows) (hold : r.no < tanda) : r ∈ s.db.pemakaian.rows := by
  apply (hs.rows r hr).resolve_right
  have hle := h.tanda
  omega

theorem Tahu.mono (h : Tahu s tanda φ) (hs : Lanjut s s') : Tahu s' tanda φ := by
  cases φ with
  | awal => trivial
  | bertanggal now =>
    obtain ⟨hread, hrows⟩ := h
    exact ⟨hread.mono hs, fun r hr hold => hrows r (hs.old hread hr hold) hold⟩
  | kosong u now =>
    obtain ⟨hread, hrows⟩ := h
    exact ⟨hread.mono hs, fun r hr hold => hrows r (hs.old hread hr hold) hold⟩
  | selesai => trivial

theorem Langkah.lanjut (h : Langkah s p φ s' φ') : Lanjut s s' := by
  cases h with
  | diam hdate hinsert hrows hclock =>
    exact ⟨fun r hr => .inl (by rwa [hrows] at hr), Nat.le_of_eq (by rw [hrows]),
      by rw [hclock]; exact Clock.Le.refl _⟩
  | bertanggal hdate hinsert => exact ⟨fun r hr => .inl hr, Nat.le_refl _, Clock.Le.refl _⟩
  | periksa hdate hinsert => exact ⟨fun r hr => .inl hr, Nat.le_refl _, Clock.Le.refl _⟩
  | catat hdate hinsert hno huser htgl hrows hnext hclock =>
    refine ⟨fun r hr => ?_, by rw [hnext]; exact Nat.le_succ _,
      by rw [hclock]; exact Clock.Le.refl _⟩
    rw [hrows] at hr
    apply (List.mem_append.mp hr).imp_right
    intro hnew
    rw [List.mem_singleton.mp hnew, hno]

theorem Langkah.tahu (h : Langkah s p φ s' φ') (hs : Kini s) (hφ : Tahu s tanda φ) :
    Tahu s' (if bacaTanggal p then s.db.pemakaian.next else tanda) φ' := by
  have hlanjut := h.lanjut
  cases h with
  | diam hdate hinsert hrows hclock =>
    rw [hdate]
    exact hφ.mono hlanjut
  | bertanggal hdate hinsert =>
    rw [hdate]
    exact ⟨⟨Nat.le_refl _, Clock.Le.refl _, hs.agree⟩, fun r hr _ => hs.past r hr⟩
  | @periksa now u hdate hinsert =>
    rw [hdate, if_neg Bool.false_ne_true]
    split
    · rename_i hfree
      obtain ⟨hread, hrows⟩ := hφ
      refine ⟨hread, fun r hr hold huser => ?_⟩
      apply Nat.lt_of_le_of_ne (hrows r hr hold)
      intro hmonth
      have hcount : r ∈ s.db.pemakaian.rows.filter
          (Pemakaian.inMonth u now.php.date.month now.php.date.year) := by
        rw [List.mem_filter, inMonth_iff, hread.agree]
        exact ⟨hr, huser, hmonth⟩
      rw [List.length_eq_zero_iff.mp hfree] at hcount
      cases hcount
    · trivial
  | catat hdate hinsert hno huser htgl hrows hnext hclock => trivial

theorem Langkah.kini (h : Langkah s p φ s' φ') (hs : Kini s) : Kini s' := by
  cases h with
  | diam hdate hinsert hrows hclock => exact ⟨by rw [hclock]; exact hs.agree, by
      rw [hclock, hrows]; exact hs.past⟩
  | bertanggal hdate hinsert => exact hs
  | periksa hdate hinsert => exact hs
  | catat hdate hinsert hno huser htgl hrows hnext hclock =>
    refine ⟨by rw [hclock]; exact hs.agree, ?_⟩
    rw [hclock, hrows]
    intro r hr
    rcases List.mem_append.mp hr with hold | hnew
    · exact hs.past r hold
    · rw [List.mem_singleton.mp hnew, htgl]

end Tahu

/-! ## All requests -/

/-- The interleaved requests and, for each, the number the next reading had when
the request read its date. -/
structure Balap (ι : Type) where
  pool : Pool Op Galat Hasil ι Server
  tanda : ι → Nat

def Balap.server {ι : Type} (b : Balap ι) : Server := b.pool.state

def berdetak (now : Clock) (s : Server) : Server := { s with clock := now }

/-- Every resident has at most one reading a month; a reading without a username is
nobody's. -/
def SatuPerBulan (db : Db) : Prop :=
  ∀ r ∈ db.pemakaian.rows, ∀ r' ∈ db.pemakaian.rows, r.username.isSome →
    r'.username = r.username → r'.tgl.month = r.tgl.month → r'.tgl.year = r.tgl.year → r' = r

instance (db : Db) : Decidable (SatuPerBulan db) := by
  unfold SatuPerBulan
  infer_instance

theorem inMonth_of_same {r r' : Pemakaian} (huser : r.username.isSome)
    (hsame : r'.username = r.username) (hmonth : r'.tgl.month = r.tgl.month)
    (hyear : r'.tgl.year = r.tgl.year) : r'.inMonth r.username r.tgl.month r.tgl.year = true := by
  simp [Pemakaian.inMonth, hsame, huser, hmonth, hyear]

theorem satuPerBulan_append {db db' : Db} {row : Pemakaian}
    (hrows : db'.pemakaian.rows = db.pemakaian.rows ++ [row]) (hdb : SatuPerBulan db) :
    SatuPerBulan db' ↔ ∀ r ∈ db.pemakaian.rows,
      r.inMonth row.username row.tgl.month row.tgl.year = false := by
  have hfresh : row ∉ db.pemakaian.rows := by
    intro hmem
    have hnodup := hrows ▸ db'.pemakaian.nodup
    rw [List.map_append, List.nodup_append] at hnodup
    exact hnodup.2.2 _ (List.mem_map_of_mem hmem) row.no (List.mem_singleton_self _) rfl
  constructor
  · intro hone r hr
    apply Bool.eq_false_iff.mpr
    intro hmonth
    simp only [Pemakaian.inMonth, Bool.and_eq_true, sqlEq_iff, decide_eq_true_eq] at hmonth
    obtain ⟨⟨⟨hsome, huser⟩, hmonth⟩, hyear⟩ := hmonth
    have hr' : r ∈ db'.pemakaian.rows := hrows ▸ List.mem_append_left _ hr
    have hrow : row ∈ db'.pemakaian.rows :=
      hrows ▸ List.mem_append_right _ (List.mem_singleton_self _)
    rw [hone r hr' row hrow hsome huser.symm hmonth.symm hyear.symm] at hfresh
    exact hfresh hr
  · intro hfree r hr r' hr' huser hsame hmonth hyear
    rw [hrows] at hr hr'
    rcases List.mem_append.mp hr with hold | hnew <;>
      rcases List.mem_append.mp hr' with hold' | hnew'
    · exact hdb r hold r' hold' huser hsame hmonth hyear
    · obtain rfl := List.mem_singleton.mp hnew'
      have hnone := hfree r hold
      rw [inMonth_of_same (by rwa [hsame]) hsame.symm hmonth.symm hyear.symm] at hnone
      cases hnone
    · obtain rfl := List.mem_singleton.mp hnew
      have hnone := hfree r' hold'
      rw [inMonth_of_same huser hsame hmonth hyear] at hnone
      cases hnone
    · rw [List.mem_singleton.mp hnew, List.mem_singleton.mp hnew']

section Race
variable {ι : Type}

def Wajar (b : Balap ι) : Event ι Clock → Prop
  | .run _ => True
  | .env now => now.Agree ∧ b.server.clock.Le now

/-- A request inserts only where no reading of that resident and month has been
stored since the request read its date. -/
def Leluasa (b : Balap ι) : Event ι Clock → Prop
  | .run i => ∀ u ∈ sisip (b.pool.threads i), ∀ r ∈ b.server.db.pemakaian.rows,
      r.inMonth u b.server.clock.sql.date.month b.server.clock.sql.date.year → r.no < b.tanda i
  | .env _ => True

instance (b : Balap ι) : (e : Event ι Clock) → Decidable (Wajar b e)
  | .run _ => inferInstanceAs (Decidable True)
  | .env now => inferInstanceAs (Decidable (now.Agree ∧ b.server.clock.Le now))

instance (b : Balap ι) : (e : Event ι Clock) → Decidable (Leluasa b e)
  | .run i => inferInstanceAs (Decidable (∀ u ∈ sisip (b.pool.threads i),
      ∀ r ∈ b.server.db.pemakaian.rows,
        r.inMonth u b.server.clock.sql.date.month b.server.clock.sql.date.year → r.no < b.tanda i))
  | .env _ => inferInstanceAs (Decidable True)

/-- Each request is somewhere in its order, with what it knows there. -/
structure Sah (b : Balap ι) : Prop where
  kini : Kini b.server
  threads : ∀ i, ∃ φ, (b.pool.threads i).Follows izin (fun _ _ => True) φ ∧
    Tahu b.server (b.tanda i) φ

def Balap.mulai (php : Php) (q : ι → Request) (actor token : ι → String) (s : Server) : Balap ι where
  pool := ⟨fun i => loginIndex php (q i) (actor i) (token i), s⟩
  tanda := fun _ => 0

theorem sah_mulai (php : Php) {q : ι → Request} (hq : ∀ i, (q i).tombol = some "meter_add")
    (actor token : ι → String) {s : Server} (hs : Kini s) : Sah (Balap.mulai php q actor token s) where
  kini := hs
  threads i := ⟨.awal, follows_loginIndex php (hq i) (actor i) (token i), trivial⟩

variable [DecidableEq ι]

def Balap.step (b : Balap ι) (e : Event ι Clock) : Balap ι where
  pool := b.pool.step exec berdetak e
  tanda :=
    match e with
    | .run i =>
      if bacaTanggal (b.pool.threads i) then
        Function.update b.tanda i b.server.db.pemakaian.next
      else b.tanda
    | .env _ => b.tanda

theorem run_pool (b : Balap ι) (events : List (Event ι Clock)) :
    (Trace.run Balap.step b events).pool = Trace.run (Pool.step exec berdetak) b.pool events := by
  induction events generalizing b with
  | nil => rfl
  | cons e events ih => exact ih (b.step e)

theorem run_alone_eq_step (php : Php) (w : World) (q : ι → Request) (actor token : ι → String)
    (i : ι) (hpage : (q i).page = .loginIndex) (huser : (w.session (q i).sid).user = some (actor i))
    (hnamed : isEmpty (some (actor i)) = false)
    (hactive : idle (w.session (q i).sid) (q i).clock.time = false)
    (htoken : token i = w.csrfToken (q i)) :
    ∃ n, (Trace.run Balap.step (Balap.mulai php q actor token (w.opened (q i)))
      (List.replicate n (.run i))).server = (step php w (q i)).server := by
  obtain ⟨n, hn⟩ := Pool.run_alone exec berdetak
    (Balap.mulai php q actor token (w.opened (q i))).pool i
  refine ⟨n, ?_⟩
  rw [Balap.server, run_pool, hn, server_of_open php hpage huser hnamed hactive, ← htoken]
  rfl

theorem Sah.step {b : Balap ι} (hb : Sah b) (e : Event ι Clock) (he : Wajar b e) :
    Sah (b.step e) := by
  cases e with
  | env now =>
    have hlanjut : Lanjut b.server (berdetak now b.server) :=
      ⟨fun r hr => .inl hr, Nat.le_refl _, he.2⟩
    refine ⟨⟨he.1, fun r hr => ?_⟩, fun i => ?_⟩
    · exact (hb.kini.past r hr).trans (Stamp.monthIndex_le_of_le he.2.sql)
    · obtain ⟨φ, hfollows, hknows⟩ := hb.threads i
      exact ⟨φ, hfollows, hknows.mono hlanjut⟩
  | run i =>
    obtain ⟨φ, hfollows, hknows⟩ := hb.threads i
    obtain ⟨φ', hstep, hfollows'⟩ := langkah_of_follows b.server hfollows
    refine ⟨hstep.kini hb.kini, fun j => ?_⟩
    by_cases hj : j = i
    · subst hj
      refine ⟨φ', ?_, ?_⟩
      · rw [Balap.step, Pool.step_run_self]
        exact hfollows'
      · have hknows' := hstep.tahu hb.kini hknows
        simp only [Balap.step]
        split
        · rename_i hdate
          rw [if_pos hdate] at hknows'
          rw [Function.update_self]
          exact hknows'
        · rename_i hdate
          rw [if_neg hdate] at hknows'
          exact hknows'
    · obtain ⟨ψ, hother, hknows'⟩ := hb.threads j
      refine ⟨ψ, ?_, ?_⟩
      · rw [Balap.step, Pool.step_run_of_ne _ _ _ hj]
        exact hother
      · have htanda : (b.step (.run i)).tanda j = b.tanda j := by
          simp only [Balap.step]
          split
          · exact Function.update_of_ne hj _ _
          · rfl
        rw [htanda]
        exact hknows'.mono hstep.lanjut

theorem satuPerBulan_step {b : Balap ι} (hb : Sah b) (hone : SatuPerBulan b.server.db)
    (e : Event ι Clock) : SatuPerBulan (b.step e).server.db ↔ Leluasa b e := by
  cases e with
  | env now => exact iff_of_true hone trivial
  | run i =>
    obtain ⟨φ, hfollows, hknows⟩ := hb.threads i
    obtain ⟨φ', hstep, -⟩ := langkah_of_follows b.server hfollows
    have hstate : (b.step (.run i)).server = ((b.pool.threads i).stepOnce exec b.server).2 := rfl
    -- A statement that is no insert keeps the rows.
    have hquiet : sisip (b.pool.threads i) = none →
        (b.step (.run i)).server.db.pemakaian = b.server.db.pemakaian →
        (SatuPerBulan (b.step (.run i)).server.db ↔ Leluasa b (.run i)) := by
      intro hinsert hrows
      apply iff_of_true
      · unfold SatuPerBulan
        rw [hrows]
        exact hone
      · intro u hu
        rw [hinsert] at hu
        cases hu
    rw [← hstate] at hstep
    generalize (b.step (.run i)).server = s' at hstep hquiet ⊢
    cases hstep with
    | diam hdate hinsert hrows hclock => exact hquiet hinsert hrows
    | bertanggal hdate hinsert => exact hquiet hinsert rfl
    | periksa hdate hinsert => exact hquiet hinsert rfl
    | @catat u now s' row hdate hinsert hno huser htgl hrows hnext hclock =>
      rw [satuPerBulan_append hrows hone, huser, htgl]
      obtain ⟨hread, hearlier⟩ := hknows
      have hpassed := Stamp.monthIndex_le_of_le hread.clock.sql
      constructor
      · intro hfree u' hu r hr hmonth
        obtain rfl := Option.some.inj (hinsert.symm.trans hu)
        rw [hfree r hr] at hmonth
        cases hmonth
      · intro hrecent r hr
        apply Bool.eq_false_iff.mpr
        intro hmonth
        obtain ⟨hsame, hindex⟩ := inMonth_iff.mp hmonth
        -- A reading older than the date was of an earlier month then, and is so now.
        have hlt := hearlier r hr (hrecent u hinsert r hr hmonth) hsame
        have hle : now.sql.date.monthIndex ≤ b.server.clock.sql.date.monthIndex := hpassed
        omega

/-- However many meter_add requests are interleaved, no resident ever has two readings
of a month exactly when each inserts with no reading of that resident and month
stored since it read its date. -/
theorem satuPerBulan_iff (php : Php) (q : ι → Request) (actor token : ι → String) (s : Server)
    (events : List (Event ι Clock)) (hq : ∀ i, (q i).tombol = some "meter_add") (hs : Kini s)
    (hone : SatuPerBulan s.db)
    (hwajar : Trace.Admissible Wajar Balap.step (Balap.mulai php q actor token s) events) :
    Trace.Always (fun b => SatuPerBulan b.server.db) Balap.step
        (Balap.mulai php q actor token s) events ↔
      Trace.Admissible Leluasa Balap.step (Balap.mulai php q actor token s) events :=
  Trace.always_iff_admissible (fun _ e hb he => hb.step e he)
    (fun _ e hb hone _ => satuPerBulan_step hb hone e) hwajar
    (sah_mulai php hq actor token hs) hone

end Race

def balapBudi : Balap Bool :=
  Balap.mulai .decimal
    (fun i => ajukan (if i then 1 else 0) hariBuka "meter_add"
      [("username", "budi"), ("meter_awal", "0"), ("meter_akhir", "10"),
        ("status_bayar", "BELUM LUNAS")])
    (fun i => if i then "joko" else "admin") (fun _ => "7f3a")
    (serve .decimal World.pertama kantor).server

def bergantian : List (Event Bool Clock) :=
  List.replicate 8 (.run true) ++ [.env (Clock.at hariKedua)] ++ List.replicate 8 (.run false)

def bersamaan : List (Event Bool Clock) :=
  List.replicate 6 (.run true) ++ List.replicate 6 (.run false) ++ [.run true, .run false]

theorem satuPerBulan_budi :
    Trace.Always (fun b => SatuPerBulan b.server.db) Balap.step balapBudi bergantian := by
  suffices h : _ ∧ _ ∧ _ ∧ _ by
    obtain ⟨hkini, hone, hwajar, hleluasa⟩ := h
    exact (satuPerBulan_iff .decimal _ _ _ _ bergantian (by decide) hkini hone hwajar).mpr hleluasa
  decide +kernel

theorem satuPerBulan_dilanggar :
    Kini balapBudi.server ∧ SatuPerBulan balapBudi.server.db ∧
      Trace.Admissible Wajar Balap.step balapBudi bersamaan ∧
      ¬Trace.Always (fun b => SatuPerBulan b.server.db) Balap.step balapBudi bersamaan := by
  suffices h : _ ∧ _ ∧ _ ∧ ¬SatuPerBulan _ from
    ⟨h.1, h.2.1, h.2.2.1, fun halways => h.2.2.2 halways.last⟩
  decide +kernel

end SistemAir
