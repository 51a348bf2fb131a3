import Mathlib.Order.Monotone.Basic
import Mathlib.Tactic.Common
import TenantSearch.Timestamp

/-! The calendar that times are in. Days, months and years follow each other without a gap, so that
a date lies in its year, no two dates have one number, and the end of a month need only be looked
for in the years around a date. -/
namespace TenantSearch.Timestamp

/-! ## Days -/

private theorem dayNumber_day (year month day : ℕ) :
    dayNumber year month day = dayNumber year month 1 + (day - 1) := by
  simp [dayNumber]

private theorem one_le_daysInMonth (year month : ℕ) : 1 ≤ daysInMonth year month := by
  unfold daysInMonth
  split_ifs <;> decide

theorem daysInMonth_le (year month : ℕ) : daysInMonth year month ≤ 31 := by
  unfold daysInMonth
  split_ifs <;> decide

/-! ## Months -/

private theorem dayNumber_succ_month (year : ℕ) {month : ℕ} (positive : 1 ≤ month) :
    dayNumber year (month + 1) 1 = dayNumber year month 1 + daysInMonth year month := by
  obtain ⟨before, rfl⟩ := Nat.exists_eq_add_of_le' positive
  simp [dayNumber, List.range_succ]

private theorem dayNumber_month_le (year : ℕ) {month later : ℕ} (positive : 1 ≤ month)
    (after : month ≤ later) : dayNumber year month 1 ≤ dayNumber year later 1 := by
  induction later, after using Nat.le_induction with
  | base => exact le_rfl
  | succ next after ih =>
    rw [dayNumber_succ_month year (positive.trans after)]
    exact ih.trans (Nat.le_add_right _ _)

theorem dayNumber_lt_month {year month day : ℕ} (positive : 1 ≤ month)
    (last : day ≤ daysInMonth year month) :
    dayNumber year month day < dayNumber year (month + 1) 1 := by
  have month_days := one_le_daysInMonth year month
  rw [dayNumber_day, dayNumber_succ_month year positive]
  omega

/-! ## Years -/

theorem isLeapYear_iff {year : ℕ} :
    isLeapYear year = true ↔ year % 4 = 0 ∧ (year % 100 = 0 → year % 400 = 0) := by
  simp [isLeapYear, imp_iff_not_or]

private theorem dayNumber_first {year : ℕ} (later : year ≠ 0) : dayNumber year 1 1 =
    365 * year + (year - 1) / 4 - (year - 1) / 100 + (year - 1) / 400 + 1 := by
  simp [dayNumber, later]

theorem dayNumber_succ_year (year : ℕ) :
    dayNumber (year + 1) 1 1 = dayNumber year 1 1 + if isLeapYear year then 366 else 365 := by
  by_cases first : year = 0
  · rw [first]
    rfl
  have fours : year / 4 = (year - 1) / 4 + if year % 4 = 0 then 1 else 0 := by
    split <;> omega
  have centuries : year / 100 = (year - 1) / 100 + if year % 100 = 0 then 1 else 0 := by
    split <;> omega
  have cycles : year / 400 = (year - 1) / 400 + if year % 400 = 0 then 1 else 0 := by
    split <;> omega
  have hundredth : year % 100 = 0 → year % 4 = 0 := by omega
  have cycle : year % 400 = 0 → year % 100 = 0 := by omega
  have fewer : (year - 1) / 100 ≤ 365 * year := by omega
  rw [dayNumber_first first, dayNumber_first year.succ_ne_zero, Nat.succ_sub_one, fours, centuries,
    cycles]
  simp only [isLeapYear_iff]
  -- The quotients of the year before are only numbers from here on.
  clear fours centuries cycles
  generalize (year - 1) / 4 = before at *
  generalize (year - 1) / 100 = hundreds at *
  generalize (year - 1) / 400 = fourHundreds at *
  split_ifs <;> omega

private theorem dayNumber_thirteenth (year : ℕ) :
    dayNumber year 13 1 = dayNumber (year + 1) 1 1 := by
  have months : dayNumber year 13 1 = dayNumber year 1 1 + daysInMonth year 1 + daysInMonth year 2 +
      daysInMonth year 3 + daysInMonth year 4 + daysInMonth year 5 + daysInMonth year 6 +
      daysInMonth year 7 + daysInMonth year 8 + daysInMonth year 9 + daysInMonth year 10 +
      daysInMonth year 11 + daysInMonth year 12 := by
    simp only [← dayNumber_succ_month year (Nat.succ_pos _)]
  rw [months, dayNumber_succ_year]
  by_cases leap : isLeapYear year = true <;> simp [daysInMonth, leap]

theorem dayNumber_first_strictMono : StrictMono fun year => dayNumber year 1 1 := by
  refine strictMono_nat_of_lt_succ fun year => ?_
  rw [dayNumber_succ_year]
  split <;> omega

theorem dayNumber_mem_year {year month day : ℕ} (months : 1 ≤ month ∧ month ≤ 12)
    (last : day ≤ daysInMonth year month) :
    dayNumber year 1 1 ≤ dayNumber year month day ∧
      dayNumber year month day < dayNumber (year + 1) 1 1 := by
  obtain ⟨january, december⟩ := months
  constructor
  · rw [dayNumber_day]
    exact (dayNumber_month_le year le_rfl january).trans (Nat.le_add_right _ _)
  · rw [← dayNumber_thirteenth]
    exact (dayNumber_lt_month january last).trans_le
      (dayNumber_month_le year (by omega) (by omega))

/-! ## Dates -/

/-- No two dates have one number. -/
theorem dayNumber_inj {year month day year' month' day' : ℕ} (months : 1 ≤ month ∧ month ≤ 12)
    (days : 1 ≤ day ∧ day ≤ daysInMonth year month) (months' : 1 ≤ month' ∧ month' ≤ 12)
    (days' : 1 ≤ day' ∧ day' ≤ daysInMonth year' month')
    (same : dayNumber year month day = dayNumber year' month' day') :
    year = year' ∧ month = month' ∧ day = day' := by
  obtain ⟨begun, past⟩ := dayNumber_mem_year months days.2
  obtain ⟨begun', past'⟩ := dayNumber_mem_year months' days'.2
  have years : year = year' := by
    have before : year < year' + 1 :=
      dayNumber_first_strictMono.lt_iff_lt.mp (begun.trans_lt (same ▸ past'))
    have after : year' < year + 1 :=
      dayNumber_first_strictMono.lt_iff_lt.mp (begun'.trans_lt (same ▸ past))
    omega
  subst years
  have ended := dayNumber_lt_month months.1 days.2
  have ended' := dayNumber_lt_month months'.1 days'.2
  rw [dayNumber_day] at same ended
  rw [dayNumber_day year month'] at same ended'
  have month_same : month = month' := by
    rcases Nat.lt_trichotomy month month' with earlier | equal | later
    · have begun := dayNumber_month_le year (Nat.le_add_left 1 month) earlier
      omega
    · exact equal
    · have begun := dayNumber_month_le year (Nat.le_add_left 1 month') later
      omega
  subst month_same
  omega

/-- The end of a month is looked for in the years where it can be. -/
theorem endsMonth_iff {time : Timestamp} (months : 1 ≤ time.month ∧ time.month ≤ 12)
    (last : time.day ≤ daysInMonth time.year time.month) (hour : time.hour ≤ 23)
    (minute : time.minute ≤ 59) (short : time.offset.natAbs < 1440) :
    time.endsMonth = true ↔ ∃ year month, 1 ≤ month ∧ month ≤ 12 ∧
      time.utcMinutes + 1 = 1440 * dayNumber year month 1 := by
  obtain ⟨start, before⟩ := dayNumber_mem_year months last
  have minutes : time.utcMinutes = 1440 * dayNumber time.year time.month time.day +
    60 * time.hour + time.minute - time.offset := rfl
  simp only [endsMonth, Bool.and_eq_true, List.any_eq_true, beq_iff_eq, List.mem_range]
  constructor
  · rintro ⟨_, year, _, index, twelve, next⟩
    exact ⟨year, index + 1, by omega, by omega, next.symm⟩
  · rintro ⟨year, month, january, december, next⟩
    -- The offset moves a time by less than a day, so not past the first day of the next year.
    obtain ⟨begun, past⟩ :=
      dayNumber_mem_year ⟨january, december⟩ (one_le_daysInMonth year month)
    have earliest : time.year ≤ year := by
      by_contra earlier
      have ended : dayNumber (year + 1) 1 1 ≤ dayNumber time.year 1 1 :=
        dayNumber_first_strictMono.monotone (by omega)
      omega
    have latest : year ≤ time.year + 1 := by
      by_contra later
      have ahead : dayNumber (time.year + 1) 1 1 < dayNumber year 1 1 :=
        dayNumber_first_strictMono (by omega)
      omega
    refine ⟨by omega, year, ?_, month - 1, by omega, ?_⟩
    · simp only [List.mem_cons, List.not_mem_nil, or_false]
      omega
    · rw [Nat.sub_add_cancel january]
      exact next.symm

end TenantSearch.Timestamp
