import Mathlib.Order.MinMax
import Getupnet.Calendar.Date

namespace calendar

/-- Calendar-month addition: the same day number in the target month, or that
month's last day when it is too short. -/
def Date.addMonths (d : Date) (months : Int) : Date :=
  Date.clamped (d.monthIndex + months) d.day d.day_pos

@[simp] theorem Date.addMonths_monthIndex (d : Date) (months : Int) :
    (d.addMonths months).monthIndex = d.monthIndex + months := Date.clamped_monthIndex _ _ _

@[simp] theorem Date.addMonths_day (d : Date) (months : Int) :
    (d.addMonths months).day = min d.day (monthLength (d.monthIndex + months)) := rfl

/-- Going forward one month, a number of times. -/
def Date.stepMonths (d : Date) (count : Nat) : Date := (fun e : Date => e.addMonths 1)^[count] d

@[simp] theorem Date.stepMonths_zero (d : Date) : d.stepMonths 0 = d := rfl

theorem Date.stepMonths_succ (d : Date) (count : Nat) :
    d.stepMonths (count + 1) = (d.stepMonths count).addMonths 1 :=
  Function.iterate_succ_apply' _ _ _

/-- Repeated one-month steps visit every month in turn, whatever is lost of
the day number on the way. -/
@[simp] theorem Date.stepMonths_monthIndex (d : Date) (count : Nat) :
    (d.stepMonths count).monthIndex = d.monthIndex + count := by
  induction count with
  | zero => simp
  | succ count ih =>
    rw [d.stepMonths_succ, Date.addMonths_monthIndex, ih]
    omega

theorem Date.stepMonths_lt (d : Date) {first second : Nat} (h : first < second) :
    d.stepMonths first < d.stepMonths second :=
  Date.lt_of_monthIndex_lt (by rw [d.stepMonths_monthIndex, d.stepMonths_monthIndex]; omega)

theorem Date.stepMonths_add (d : Date) (first second : Nat) :
    d.stepMonths (first + second) = (d.stepMonths first).stepMonths second := by
  rw [Date.stepMonths, Nat.add_comm, Function.iterate_add_apply]
  rfl

theorem Date.stepMonths_lt_iff (d : Date) {first second : Nat} :
    d.stepMonths first < d.stepMonths second ↔ first < second := by
  constructor
  · intro h
    by_contra hnot
    obtain hlt | rfl := Nat.lt_or_eq_of_le (Nat.le_of_not_lt hnot)
    · exact lt_asymm h (d.stepMonths_lt hlt)
    · exact lt_irrefl _ h
  · exact d.stepMonths_lt

theorem Date.stepMonths_le (d : Date) {first second : Nat} (h : first ≤ second) :
    d.stepMonths first ≤ d.stepMonths second := by
  obtain hlt | rfl := Nat.lt_or_eq_of_le h
  · exact le_of_lt (d.stepMonths_lt hlt)
  · exact le_refl _

/-- The day number left after repeated one-month steps is the largest one that
fits the starting day and every month visited. -/
theorem Date.le_stepMonths_day_iff (d : Date) (count bound : Nat) :
    bound ≤ (d.stepMonths count).day ↔
      bound ≤ d.day ∧ ∀ k ≤ count, bound ≤ monthLength (d.monthIndex + k) := by
  induction count with
  | zero =>
    have hday := d.day_le_monthLength
    simp only [Date.stepMonths_zero, Nat.le_zero, forall_eq, Int.natCast_zero, Int.add_zero]
    omega
  | succ count ih =>
    have hindex : d.monthIndex + count + 1 = d.monthIndex + ((count + 1 : Nat) : Int) := by omega
    rw [d.stepMonths_succ, Date.addMonths_day, d.stepMonths_monthIndex, le_min_iff, ih, hindex]
    constructor
    · rintro ⟨⟨hday, hvisited⟩, hlast⟩
      refine ⟨hday, fun k hk => ?_⟩
      rcases Nat.lt_or_eq_of_le hk with hlt | rfl
      · exact hvisited k (Nat.lt_succ_iff.mp hlt)
      · exact hlast
    · rintro ⟨hday, hvisited⟩
      exact ⟨⟨hday, fun k hk => hvisited k (by omega)⟩, hvisited (count + 1) (Nat.le_refl _)⟩

/-- One-month steps agree with adding all the months at once exactly when no
month on the way is shorter than the day at which the direct sum lands. -/
theorem Date.stepMonths_eq_addMonths_iff (d : Date) (count : Nat) :
    d.stepMonths count = d.addMonths count ↔
      ∀ k ≤ count, min d.day (monthLength (d.monthIndex + count)) ≤ monthLength (d.monthIndex + k) := by
  have hle : (d.stepMonths count).day ≤ min d.day (monthLength (d.monthIndex + count)) := by
    obtain ⟨hday, hvisited⟩ := (d.le_stepMonths_day_iff count _).mp (Nat.le_refl _)
    exact le_min hday (hvisited count (Nat.le_refl _))
  constructor
  · intro heq
    have hge : min d.day (monthLength (d.monthIndex + count)) ≤ (d.stepMonths count).day := by
      rw [heq, d.addMonths_day]
    exact ((d.le_stepMonths_day_iff count _).mp hge).2
  · intro hvisited
    have hge := (d.le_stepMonths_day_iff count _).mpr ⟨min_le_left d.day _, hvisited⟩
    exact Date.ext_monthIndex (by simp) (le_antisymm hle hge)

/-- Every month is followed, sooner or later, by a February of 28 days. -/
theorem exists_short_february (index : Int) :
    ∃ gap : Nat, monthLength (index + gap) = 28 ∧ monthLength (index + gap + 1) = 31 := by
  obtain ⟨year, hyear, hcommon⟩ : ∃ year, index / 12 < year ∧ isLeap year = false := by
    by_cases hleap : isLeap (index / 12 + 1)
    · have hrule := of_decide_eq_true hleap
      refine ⟨index / 12 + 2, by omega, ?_⟩
      simp only [isLeap, decide_eq_false_iff_not]
      omega
    · exact ⟨index / 12 + 1, by omega, by simpa using hleap⟩
  have hfebruary : index + ((12 * year + 1 - index).toNat : Int) = 12 * year + 1 := by omega
  have hdiv : (12 * year + 1) / 12 = year := by omega
  have hmod : (12 * year + 1) % 12 = 1 := by omega
  have hmarch : (12 * year + 1 + 1) % 12 = 2 := by omega
  refine ⟨(12 * year + 1 - index).toNat, ?_, ?_⟩
  · rw [hfebruary, monthLength, hdiv, hmod]
    simp [daysInMonth, hcommon]
  · rw [hfebruary, monthLength, hmarch]
    simp [daysInMonth]

/-- One-month steps never drift from the direct sum exactly for the days that
every month has. -/
theorem Date.stepMonths_eq_addMonths_forall_iff (d : Date) :
    (∀ count : Nat, d.stepMonths count = d.addMonths count) ↔ d.day ≤ 28 := by
  constructor
  · intro hall
    obtain ⟨gap, hshort, hlong⟩ := exists_short_february d.monthIndex
    have hsteps := (d.stepMonths_eq_addMonths_iff (gap + 1)).mp (hall (gap + 1)) gap (Nat.le_succ gap)
    have hindex : d.monthIndex + ((gap + 1 : Nat) : Int) = d.monthIndex + gap + 1 := by omega
    rw [hindex, hlong, hshort] at hsteps
    have hday := d.day_le_monthLength
    have hlength := monthLength_le d.monthIndex
    omega
  · intro hday count
    refine (d.stepMonths_eq_addMonths_iff count).mpr fun k _ => ?_
    have hlength := monthLength_ge (d.monthIndex + k)
    omega

/-- The first day of the month of a date. -/
def Date.monthFirst (d : Date) : Date := Date.clamped d.monthIndex 1 Nat.one_pos

/-- The day before the first one of the next month. -/
def Date.monthLast (d : Date) : Date := (d.monthFirst.addMonths 1).addDays (-1)

theorem Date.monthFirst_ordinal (d : Date) : d.monthFirst.ordinal = monthStart d.monthIndex + 1 := by
  have hlength := monthLength_ge d.monthIndex
  have hday : d.monthFirst.day = 1 := by
    rw [Date.monthFirst, Date.clamped_day]
    omega
  rw [Date.ordinal_eq_monthStart, hday, Date.monthFirst, Date.clamped_monthIndex]
  rfl

theorem Date.monthLast_ordinal (d : Date) :
    d.monthLast.ordinal = monthStart d.monthIndex + monthLength d.monthIndex := by
  have hindex : (d.monthFirst.addMonths 1).monthIndex = d.monthIndex + 1 := by
    rw [Date.addMonths_monthIndex, Date.monthFirst, Date.clamped_monthIndex]
  have hday : (d.monthFirst.addMonths 1).day = 1 := by
    have hfirst := monthLength_ge d.monthIndex
    have hnext := monthLength_ge (d.monthFirst.monthIndex + 1)
    rw [Date.addMonths_day, Date.monthFirst, Date.clamped_day]
    rw [Date.monthFirst] at hnext
    omega
  rw [Date.monthLast, Date.ordinal_addDays, Date.ordinal_eq_monthStart, hindex, hday, monthStart_succ]
  omega

/-- The days from the first to the last of a month are those of the month. -/
theorem Date.between_month_iff (d other : Date) :
    d.monthFirst ≤ other ∧ other ≤ d.monthLast ↔ other.monthIndex = d.monthIndex := by
  rw [Date.le_iff, Date.le_iff, d.monthFirst_ordinal, d.monthLast_ordinal]
  have hordinal := other.ordinal_eq_monthStart
  have hpos := other.day_pos
  have hlength := other.day_le_monthLength
  constructor
  · rintro ⟨hfirst, hlast⟩
    obtain hlt | heq | hgt := lt_trichotomy other.monthIndex d.monthIndex
    · have hbefore : other < d.monthFirst :=
        Date.lt_of_monthIndex_lt (by rwa [Date.monthFirst, Date.clamped_monthIndex])
      rw [Date.lt_iff, d.monthFirst_ordinal] at hbefore
      omega
    · exact heq
    · have hgap := monthStart_add_le (d.monthIndex + 1) (other.monthIndex - (d.monthIndex + 1)).toNat
      have hsum : d.monthIndex + 1 + ((other.monthIndex - (d.monthIndex + 1)).toNat : Int) = other.monthIndex := by
        omega
      rw [hsum, monthStart_succ] at hgap
      omega
  · intro heq
    rw [heq] at hordinal hlength
    omega

end calendar
