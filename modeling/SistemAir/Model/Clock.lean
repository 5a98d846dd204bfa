import Mathlib.Data.Fin.Basic
import Mathlib.Tactic.DeriveFintype

/-! The clocks a request reads: PHP's `time()` and `date()` and MySQL's
`CURRENT_DATE()`, `CURRENT_TIME()` and `NOW()`. Both machines are modelled, since
func.php fixes no time zone on the connection. -/
namespace SistemAir

structure Date where
  year : Nat
  month : Nat
  day : Nat
  month_mem : 1 ≤ month ∧ month ≤ 12
  day_mem : 1 ≤ day ∧ day ≤ 31
  deriving DecidableEq, Repr

/-- A number that orders dates as their `YYYY-MM-DD` text does. -/
def Date.ordinal (d : Date) : Nat := (d.year * 12 + (d.month - 1)) * 31 + (d.day - 1)

def Date.monthIndex (d : Date) : Nat := d.year * 12 + (d.month - 1)

theorem Date.monthIndex_eq (d : Date) : d.monthIndex = d.ordinal / 31 := by
  have hday := d.day_mem
  unfold Date.monthIndex Date.ordinal
  omega

theorem Date.monthIndex_eq_iff (d e : Date) :
    d.monthIndex = e.monthIndex ↔ d.month = e.month ∧ d.year = e.year := by
  have hd := d.month_mem
  have he := e.month_mem
  unfold Date.monthIndex
  omega

/-- Days since 1970-01-01, as date_diff() counts them. -/
def Date.epochDays (d : Date) : Int :=
  let y : Int := if d.month ≤ 2 then (d.year : Int) - 1 else d.year
  let era : Int := y / 400
  let yearOfEra : Int := y - era * 400
  let dayOfYear : Int := (153 * ((d.month : Int) + (if 2 < d.month then -3 else 9)) + 2) / 5 + d.day - 1
  era * 146097 + (yearOfEra * 365 + yearOfEra / 4 - yearOfEra / 100 + dayOfYear) - 719468

instance neZeroDetik : @NeZero Nat Zero.ofOfNat0 86400 := ⟨by decide⟩

structure Stamp where
  date : Date
  time : Fin 86400
  deriving DecidableEq, Repr

/-- The order of `ORDER BY tgl, waktu`. -/
def Stamp.ordinal (s : Stamp) : Nat := s.date.ordinal * 86400 + s.time.val

def Stamp.seconds (s : Stamp) : Int := s.date.epochDays * 86400 + s.time.val

theorem Stamp.date_le_of_le {s t : Stamp} (h : s.ordinal ≤ t.ordinal) :
    s.date.ordinal ≤ t.date.ordinal := by
  have hs := s.time.isLt
  have ht := t.time.isLt
  unfold Stamp.ordinal at h
  omega

theorem Stamp.monthIndex_le_of_le {s t : Stamp} (h : s.ordinal ≤ t.ordinal) :
    s.date.monthIndex ≤ t.date.monthIndex := by
  have hdate := Stamp.date_le_of_le h
  rw [Date.monthIndex_eq, Date.monthIndex_eq]
  exact Nat.div_le_div_right hdate

/-- `date_diff(date_create($tgl), date_create())->days`: whole days between the
midnight of `tgl` and now, whichever comes first. -/
def daysSince (tgl : Date) (now : Stamp) : Nat :=
  if tgl.epochDays ≤ now.date.epochDays then (now.date.epochDays - tgl.epochDays).toNat
  else (tgl.epochDays - now.date.epochDays).toNat - (if 0 < now.time.val then 1 else 0)

structure Clock where
  time : Nat
  php : Stamp
  sql : Stamp
  deriving DecidableEq, Repr

def Clock.Agree (c : Clock) : Prop := c.php.date = c.sql.date

instance (c : Clock) : Decidable c.Agree := inferInstanceAs (Decidable (_ = _))

structure Clock.Le (c c' : Clock) : Prop where
  time : c.time ≤ c'.time
  php : c.php.ordinal ≤ c'.php.ordinal
  sql : c.sql.ordinal ≤ c'.sql.ordinal

instance (c c' : Clock) : Decidable (c.Le c') :=
  decidable_of_iff (c.time ≤ c'.time ∧ c.php.ordinal ≤ c'.php.ordinal ∧
      c.sql.ordinal ≤ c'.sql.ordinal)
    ⟨fun ⟨h₁, h₂, h₃⟩ => ⟨h₁, h₂, h₃⟩, fun h => ⟨h.time, h.php, h.sql⟩⟩

theorem Clock.Le.refl (c : Clock) : c.Le c := ⟨le_refl _, le_refl _, le_refl _⟩

theorem Clock.Le.trans {a b c : Clock} (hab : a.Le b) (hbc : b.Le c) : a.Le c :=
  ⟨hab.time.trans hbc.time, hab.php.trans hbc.php, hab.sql.trans hbc.sql⟩

end SistemAir
