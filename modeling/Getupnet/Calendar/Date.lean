import Mathlib.Order.Defs.LinearOrder
import Mathlib.Order.Basic
import Mathlib.Order.Lattice

namespace calendar

/-- Leap years of the Gregorian rule, extended to every integer year. -/
def isLeap (year : Int) : Bool :=
  decide (year % 4 = 0 ∧ (year % 100 ≠ 0 ∨ year % 400 = 0))

def daysInMonth (year : Int) (month : Nat) : Nat :=
  match month with
  | 2 => if isLeap year then 29 else 28
  | 4 | 6 | 9 | 11 => 30
  | _ => 31

theorem daysInMonth_ge (year : Int) (month : Nat) : 28 ≤ daysInMonth year month := by
  unfold daysInMonth
  split <;> (try split) <;> omega

theorem daysInMonth_le (year : Int) (month : Nat) : daysInMonth year month ≤ 31 := by
  unfold daysInMonth
  split <;> (try split) <;> omega

/-- A calendar day of any year. The bounds are part of the value, so a day that does not
exist in its month cannot be built; that a day lies in the years that can be written is a
condition of its own, `Date.Representable`. -/
@[ext]
structure Date where
  year : Int
  month : Nat
  day : Nat
  month_pos : 1 ≤ month
  month_le : month ≤ 12
  day_pos : 1 ≤ day
  day_le : day ≤ daysInMonth year month

instance : DecidableEq Date := fun a b =>
  decidable_of_iff (a.year = b.year ∧ a.month = b.month ∧ a.day = b.day)
    ⟨fun h => Date.ext h.1 h.2.1 h.2.2, fun h => h ▸ ⟨rfl, rfl, rfl⟩⟩

/-- The numbers of a day that exists. -/
def IsDay (year : Int) (month day : Nat) : Prop :=
  (1 ≤ month ∧ month ≤ 12) ∧ 1 ≤ day ∧ day ≤ daysInMonth year month

instance (year : Int) (month day : Nat) : Decidable (IsDay year month day) :=
  inferInstanceAs (Decidable (_ ∧ _))

/-- The day of given numbers. -/
def Date.of {year : Int} {month day : Nat} (h : IsDay year month day) : Date :=
  ⟨year, month, day, h.1.1, h.1.2, h.2.1, h.2.2⟩

/-- Months are numbered consecutively over all years, January of year zero
being month zero. -/
def Date.monthIndex (d : Date) : Int := 12 * d.year + (d.month - 1)

/-- The number of days of the month with a given index. -/
def monthLength (index : Int) : Nat := daysInMonth (index / 12) (index % 12 + 1).toNat

theorem monthLength_ge (index : Int) : 28 ≤ monthLength index := daysInMonth_ge _ _

theorem monthLength_le (index : Int) : monthLength index ≤ 31 := daysInMonth_le _ _

theorem Date.monthIndex_div (d : Date) : d.monthIndex / 12 = d.year := by
  have hpos := d.month_pos
  have hle := d.month_le
  simp only [Date.monthIndex]
  omega

theorem Date.monthIndex_mod (d : Date) : (d.monthIndex % 12 + 1).toNat = d.month := by
  have hpos := d.month_pos
  have hle := d.month_le
  simp only [Date.monthIndex]
  omega

theorem Date.monthLength_monthIndex (d : Date) :
    monthLength d.monthIndex = daysInMonth d.year d.month := by
  rw [monthLength, d.monthIndex_div, d.monthIndex_mod]

theorem Date.day_le_monthLength (d : Date) : d.day ≤ monthLength d.monthIndex := by
  rw [d.monthLength_monthIndex]
  exact d.day_le

/-- The day of a given number in a month, or the month's last day when the
month is shorter. -/
def Date.clamped (index : Int) (day : Nat) (hday : 1 ≤ day) : Date where
  year := index / 12
  month := (index % 12 + 1).toNat
  day := min day (monthLength index)
  month_pos := by omega
  month_le := by omega
  day_pos := by
    have hlength := monthLength_ge index
    omega
  day_le := min_le_right _ _

@[simp] theorem Date.clamped_day (index : Int) (day : Nat) (hday : 1 ≤ day) :
    (Date.clamped index day hday).day = min day (monthLength index) := rfl

@[simp] theorem Date.clamped_monthIndex (index : Int) (day : Nat) (hday : 1 ≤ day) :
    (Date.clamped index day hday).monthIndex = index := by
  simp only [Date.monthIndex, Date.clamped]
  omega

/-- A date is determined by its month's index and its day number. -/
theorem Date.ext_monthIndex {a b : Date} (hmonth : a.monthIndex = b.monthIndex)
    (hday : a.day = b.day) : a = b := by
  apply Date.ext
  · rw [← a.monthIndex_div, hmonth, b.monthIndex_div]
  · rw [← a.monthIndex_mod, hmonth, b.monthIndex_mod]
  · exact hday

def daysBeforeYear (year : Int) : Int :=
  365 * (year - 1) + (year - 1) / 4 - (year - 1) / 100 + (year - 1) / 400

def daysBeforeMonth (year : Int) : Nat → Int
  | 0 => 0
  | 1 => 0
  | month + 2 => daysBeforeMonth year (month + 1) + daysInMonth year (month + 1)

/-- The number of days before the first day of a month. -/
def monthStart (index : Int) : Int :=
  daysBeforeYear (index / 12) + daysBeforeMonth (index / 12) (index % 12 + 1).toNat

/-- The proleptic Gregorian ordinal: the first of January of year one is day one. -/
def Date.ordinal (d : Date) : Int :=
  daysBeforeYear d.year + daysBeforeMonth d.year d.month + d.day

theorem Date.ordinal_eq_monthStart (d : Date) : d.ordinal = monthStart d.monthIndex + d.day := by
  rw [monthStart, d.monthIndex_div, d.monthIndex_mod, Date.ordinal]

private theorem daysBeforeYear_succ (year : Int) :
    daysBeforeYear (year + 1) = daysBeforeYear year + daysBeforeMonth year 12 + 31 := by
  by_cases hleap : isLeap year
  · have hrule := of_decide_eq_true hleap
    simp only [daysBeforeYear, daysBeforeMonth, daysInMonth, hleap, if_true]
    omega
  · have hrule : ¬ (year % 4 = 0 ∧ (year % 100 ≠ 0 ∨ year % 400 = 0)) := by
      simpa [isLeap] using hleap
    simp only [daysBeforeYear, daysBeforeMonth, daysInMonth, hleap, Bool.false_eq_true, if_false]
    omega

/-- Each month begins right after the last day of the one before it, also
across the turn of a year. -/
theorem monthStart_succ (index : Int) : monthStart (index + 1) = monthStart index + monthLength index := by
  have hmod : 0 ≤ index % 12 := Int.emod_nonneg _ (by omega)
  by_cases hlast : index % 12 = 11
  · have hdiv : (index + 1) / 12 = index / 12 + 1 := by omega
    have hnext : (index + 1) % 12 = 0 := by omega
    simp only [monthStart, monthLength, hdiv, hnext, hlast]
    rw [daysBeforeYear_succ]
    simp [daysBeforeMonth, daysInMonth]
  · have hdiv : (index + 1) / 12 = index / 12 := by omega
    obtain ⟨month, hmonth⟩ : ∃ month : Nat, (index % 12 + 1).toNat = month + 1 :=
      ⟨(index % 12).toNat, by omega⟩
    have hnext : ((index + 1) % 12 + 1).toNat = month + 2 := by omega
    simp only [monthStart, monthLength, hdiv, hnext, hmonth, daysBeforeMonth]
    omega

theorem monthStart_add_le (index : Int) (gap : Nat) :
    monthStart index + 28 * gap ≤ monthStart (index + gap) := by
  induction gap with
  | zero => simp
  | succ gap ih =>
    have hsucc := monthStart_succ (index + gap)
    have hlength := monthLength_ge (index + gap)
    have hassoc : index + ((gap + 1 : Nat) : Int) = index + gap + 1 := by omega
    rw [hassoc, hsucc]
    omega

/-- Dates in an earlier month come earlier. -/
theorem Date.ordinal_lt_of_monthIndex_lt {a b : Date} (h : a.monthIndex < b.monthIndex) :
    a.ordinal < b.ordinal := by
  have hday := a.day_le_monthLength
  have hpos := b.day_pos
  have hsucc := monthStart_succ a.monthIndex
  have hgap := monthStart_add_le (a.monthIndex + 1) (b.monthIndex - (a.monthIndex + 1)).toNat
  have hsum : a.monthIndex + 1 + ((b.monthIndex - (a.monthIndex + 1)).toNat : Int) = b.monthIndex := by omega
  rw [hsum] at hgap
  rw [a.ordinal_eq_monthStart, b.ordinal_eq_monthStart]
  omega

theorem Date.ordinal_injective : Function.Injective Date.ordinal := by
  intro a b h
  have hmonth : a.monthIndex = b.monthIndex := by
    rcases lt_trichotomy a.monthIndex b.monthIndex with hlt | heq | hgt
    · exact absurd h (Date.ordinal_lt_of_monthIndex_lt hlt).ne
    · exact heq
    · exact absurd h (Date.ordinal_lt_of_monthIndex_lt hgt).ne'
  refine Date.ext_monthIndex hmonth ?_
  rw [a.ordinal_eq_monthStart, b.ordinal_eq_monthStart, hmonth] at h
  omega

/-- Dates are ordered by their ordinals, that is chronologically. -/
instance : LinearOrder Date := LinearOrder.lift' Date.ordinal Date.ordinal_injective

theorem Date.le_iff {a b : Date} : a ≤ b ↔ a.ordinal ≤ b.ordinal := Iff.rfl

theorem Date.lt_iff {a b : Date} : a < b ↔ a.ordinal < b.ordinal := Iff.rfl

theorem Date.lt_of_monthIndex_lt {a b : Date} (h : a.monthIndex < b.monthIndex) : a < b :=
  Date.lt_iff.mpr (Date.ordinal_lt_of_monthIndex_lt h)

/-- The following day: the next of the month, or the first of the next month. -/
def Date.tomorrow (d : Date) : Date :=
  if h : d.day < daysInMonth d.year d.month then
    { d with day := d.day + 1, day_pos := by omega, day_le := h }
  else Date.clamped (d.monthIndex + 1) 1 (Nat.le_refl 1)

/-- The day before: the previous of the month, or the last of the previous month. -/
def Date.yesterday (d : Date) : Date :=
  if h : 1 < d.day then
    { d with day := d.day - 1, day_pos := by omega, day_le := by have := d.day_le; omega }
  else Date.clamped (d.monthIndex - 1) 31 (by omega)

theorem Date.ordinal_tomorrow (d : Date) : d.tomorrow.ordinal = d.ordinal + 1 := by
  unfold Date.tomorrow
  split
  · simp only [Date.ordinal]
    omega
  · rename_i hlast
    have hlength := monthLength_ge (d.monthIndex + 1)
    have hsucc := monthStart_succ d.monthIndex
    have hday := d.day_le
    rw [← d.monthLength_monthIndex] at hlast hday
    rw [Date.ordinal_eq_monthStart, d.ordinal_eq_monthStart, Date.clamped_monthIndex, Date.clamped_day, hsucc]
    omega

theorem Date.ordinal_yesterday (d : Date) : d.yesterday.ordinal = d.ordinal - 1 := by
  unfold Date.yesterday
  split
  · simp only [Date.ordinal]
    omega
  · rename_i hfirst
    have hpos := d.day_pos
    have hlength := monthLength_le (d.monthIndex - 1)
    have hsucc := monthStart_succ (d.monthIndex - 1)
    rw [Int.sub_add_cancel] at hsucc
    rw [Date.ordinal_eq_monthStart, d.ordinal_eq_monthStart, Date.clamped_monthIndex, Date.clamped_day, hsucc]
    omega

/-- Adding a number of days, forward or backward, in a calendar without an end. -/
def Date.addDays (d : Date) : Int → Date
  | .ofNat days => Date.tomorrow^[days] d
  | .negSucc days => Date.yesterday^[days + 1] d

theorem Date.ordinal_addDays (d : Date) (days : Int) : (d.addDays days).ordinal = d.ordinal + days := by
  have forward : ∀ count (e : Date), (Date.tomorrow^[count] e).ordinal = e.ordinal + count := by
    intro count
    induction count with
    | zero => simp
    | succ count ih =>
      intro e
      rw [Function.iterate_succ_apply, ih, e.ordinal_tomorrow]
      omega
  have backward : ∀ count (e : Date), (Date.yesterday^[count] e).ordinal = e.ordinal - count := by
    intro count
    induction count with
    | zero => simp
    | succ count ih =>
      intro e
      rw [Function.iterate_succ_apply, ih, e.ordinal_yesterday]
      omega
  cases days with
  | ofNat days => simpa [Date.addDays] using forward days d
  | negSucc days =>
    rw [Date.addDays, backward]
    omega

/-- The days that can be written with a year of four digits, from the first of the year 1
to the last of the year 9999. -/
def Date.Representable (d : Date) : Prop := 1 ≤ d.year ∧ d.year ≤ 9999

instance (d : Date) : Decidable d.Representable := inferInstanceAs (Decidable (_ ∧ _))

/-- The given number of days that follow a day, in order. -/
def Date.following (d : Date) : Nat → List Date
  | 0 => []
  | count + 1 => d.tomorrow :: d.tomorrow.following count

/-- Every day after a day up to and including another. -/
def Date.daysUntil (d last : Date) : List Date := d.following (last.ordinal - d.ordinal).toNat

theorem Date.addDays_tomorrow (d : Date) (count : Nat) :
    d.tomorrow.addDays count = d.addDays (count + 1 : Nat) :=
  (Function.iterate_succ_apply Date.tomorrow count d).symm

theorem Date.addDays_difference {d last : Date} (h : d ≤ last) :
    d.addDays (last.ordinal - d.ordinal).toNat = last := by
  apply Date.ordinal_injective
  rw [d.ordinal_addDays]
  have hle := Date.le_iff.mp h
  omega

theorem Date.lt_tomorrow_iff {a d : Date} : a < d.tomorrow ↔ a ≤ d := by
  rw [Date.lt_iff, Date.le_iff, d.ordinal_tomorrow]
  omega

theorem Date.le_tomorrow_iff {a d : Date} : a ≤ d.tomorrow ↔ a ≤ d ∨ a = d.tomorrow := by
  rw [le_iff_lt_or_eq, Date.lt_tomorrow_iff]

end calendar
