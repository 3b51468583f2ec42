import SupplyCatalog.Time.Date

/-!
# The calendar

Every count of days belongs to a date of the calendar, and that date counts as many days. Years are
counted from March within eras of 400 years; where a year of an era ends is settled at its two
edges, and between them by order.
-/

namespace SupplyCatalog.Date

/-- Days of an era before one of its years. -/
def yearStart (year : Int) : Int := 365 * year + year / 4 - year / 100

def yearOfEra (day : Int) : Int :=
  (day - day / 1460 + day / 36524 - day / 146096) / 365

theorem year_of_era_mono {a b : Int} (le : a ≤ b) : yearOfEra a ≤ yearOfEra b := by
  have inner : a - a / 1460 + a / 36524 - a / 146096 ≤
      b - b / 1460 + b / 36524 - b / 146096 := by
    omega
  exact Int.ediv_le_ediv (by decide) inner

theorem year_of_era_at_edges (year : Fin 400) :
    yearOfEra (yearStart year) = year ∧ yearOfEra (yearStart (year + 1) - 1) = year := by
  revert year
  decide +kernel

theorem year_of_era_bounds {day : Int} (first : 0 ≤ day) (last : day ≤ 146096) :
    0 ≤ yearOfEra day ∧ yearOfEra day ≤ 399 := by
  unfold yearOfEra
  omega

/-- A day of an era lies in its year; the last year of an era has one day more. -/
theorem day_in_year {day : Int} (first : 0 ≤ day) (last : day ≤ 146096) :
    yearStart (yearOfEra day) ≤ day ∧
      (day < yearStart (yearOfEra day + 1) ∨ yearOfEra day = 399) := by
  obtain ⟨least, greatest⟩ := year_of_era_bounds first last
  constructor
  · apply Int.not_lt.1
    intro early
    rcases Int.lt_or_eq_of_le least with positive | zero
    · have edge := (year_of_era_at_edges ⟨(yearOfEra day - 1).toNat, by omega⟩).2
      have before : (((yearOfEra day - 1).toNat : Nat) : Int) + 1 = yearOfEra day := by omega
      have order := year_of_era_mono (show day ≤ yearStart (yearOfEra day) - 1 by omega)
      simp only [before] at edge
      omega
    · rw [← zero] at early
      exact absurd first (Int.not_le.2 early)
  · by_cases final : yearOfEra day = 399
    · exact .inr final
    · refine .inl (Int.not_le.1 ?_)
      intro late
      have edge := (year_of_era_at_edges ⟨(yearOfEra day + 1).toNat, by omega⟩).1
      have after : (((yearOfEra day + 1).toNat : Nat) : Int) = yearOfEra day + 1 := by omega
      have order := year_of_era_mono late
      simp only [after] at edge
      omega

/-- Days of a year before one of its months; months are counted from March. -/
def monthStart (month : Int) : Int := (153 * month + 2) / 5

def monthOfYear (day : Int) : Int := (5 * day + 2) / 153

theorem month_of_year_bounds {day : Int} (first : 0 ≤ day) (last : day ≤ 365) :
    0 ≤ monthOfYear day ∧ monthOfYear day ≤ 11 ∧ monthStart (monthOfYear day) ≤ day := by
  unfold monthOfYear monthStart
  omega

/-- The date of a day of a month, of a year that begins in March, of an era. -/
def ofParts (era year month day : Int) : Date :=
  let number := (if month < 10 then month + 3 else month - 9).toNat
  ⟨year + era * 400 + (if number ≤ 2 then 1 else 0), number, day.toNat⟩

theorem to_days_of_parts {era year month day : Int} (firstYear : 0 ≤ year) (lastYear : year ≤ 399)
    (firstMonth : 0 ≤ month) (lastMonth : month ≤ 11) (firstDay : 1 ≤ day) :
    (ofParts era year month day).toDays =
      era * 146097 + yearStart year + monthStart month + day - 1 - 719468 := by
  unfold yearStart monthStart
  by_cases early : month < 10
  · have number : (if month < 10 then month + 3 else month - 9).toNat = month.toNat + 3 := by
      rw [if_pos early]
      omega
    have late : ¬ month.toNat + 3 ≤ 2 := by omega
    simp only [ofParts, toDays, number, if_neg late]
    omega
  · have number : (if month < 10 then month + 3 else month - 9).toNat = month.toNat - 9 := by
      rw [if_neg early]
      omega
    have low : month.toNat - 9 ≤ 2 := by omega
    simp only [ofParts, toDays, number, if_pos low]
    omega

def dayOfEra (days : Int) : Int := days + 719468 - (days + 719468) / 146097 * 146097

/-- The parts of the date of a day. -/
theorem parts_of_days (days : Int) :
    ∃ era year dayOfYear : Int, 0 ≤ year ∧ year ≤ 399 ∧ 0 ≤ dayOfYear ∧
      (dayOfYear < yearStart (year + 1) - yearStart year ∨ year = 399 ∧ dayOfYear ≤ 365) ∧
      days + 719468 = era * 146097 + yearStart year + dayOfYear ∧
      ofDays days = ofParts era year (monthOfYear dayOfYear)
        (dayOfYear - monthStart (monthOfYear dayOfYear) + 1) := by
  have total : days + 719468 = (days + 719468) / 146097 * 146097 + dayOfEra days := by
    unfold dayOfEra
    omega
  have first : 0 ≤ dayOfEra days := by
    unfold dayOfEra
    omega
  have last : dayOfEra days ≤ 146096 := by
    unfold dayOfEra
    omega
  obtain ⟨least, greatest⟩ := year_of_era_bounds first last
  obtain ⟨begun, within⟩ := day_in_year first last
  refine ⟨(days + 719468) / 146097, yearOfEra (dayOfEra days),
    dayOfEra days - yearStart (yearOfEra (dayOfEra days)), least, greatest, by omega, ?_,
    by omega, rfl⟩
  rcases within with ended | final
  · exact .inl (by omega)
  · have start : yearStart 399 = 145731 := by decide
    rw [final, start]
    exact .inr ⟨rfl, by omega⟩

/-- A year that begins in March has one day more when its last February is in a leap year. -/
theorem day_of_year_bound (era : Int) {year day : Int}
    (within : day < yearStart (year + 1) - yearStart year ∨ year = 399 ∧ day ≤ 365) :
    day ≤ 364 ∨ day = 365 ∧ isLeap (year + era * 400 + 1) = true := by
  unfold yearStart at within
  by_cases usual : day ≤ 364
  · exact .inl usual
  · have leap : day = 365 ∧ (year + 1) % 4 = 0 ∧ ((year + 1) % 100 ≠ 0 ∨ (year + 1) % 400 = 0) := by
      omega
    rcases leap with ⟨last, fourth, century⟩
    refine .inr ⟨last, ?_⟩
    have fourthYear : (year + era * 400 + 1) % 4 = 0 := by omega
    have centuryYear : (year + era * 400 + 1) % 100 ≠ 0 ∨ (year + era * 400 + 1) % 400 = 0 := by
      omega
    simp only [isLeap, Bool.and_eq_true, Bool.or_eq_true, beq_iff_eq, bne_iff_ne, ne_eq]
    exact ⟨fourthYear, centuryYear⟩

/-- A date counts as many days as it was made from. -/
theorem to_days_of_days (days : Int) : (ofDays days).toDays = days := by
  obtain ⟨era, year, day, firstYear, lastYear, firstDay, within, total, parts⟩ := parts_of_days days
  have lastDay : day ≤ 365 := by
    rcases day_of_year_bound era within with usual | leap <;> omega
  obtain ⟨firstMonth, lastMonth, begun⟩ := month_of_year_bounds firstDay lastDay
  rw [parts, to_days_of_parts firstYear lastYear firstMonth lastMonth (by omega)]
  omega

/-- The date of a day is one of the calendar. -/
theorem is_valid_of_days (days : Int) : (ofDays days).isValid = true := by
  obtain ⟨era, year, day, firstYear, lastYear, firstDay, within, total, parts⟩ := parts_of_days days
  have bound := day_of_year_bound era within
  have lastDay : day ≤ 365 := by
    rcases bound with usual | leap <;> omega
  have bounds := month_of_year_bounds firstDay lastDay
  have later : day < monthStart (monthOfYear day + 1) := by
    unfold monthStart monthOfYear
    omega
  rw [parts]
  generalize monthOfYear day = month at bounds later
  rcases bounds with ⟨firstMonth, lastMonth, begun⟩
  have months : month = 0 ∨ month = 1 ∨ month = 2 ∨ month = 3 ∨ month = 4 ∨ month = 5 ∨ month = 6 ∨
      month = 7 ∨ month = 8 ∨ month = 9 ∨ month = 10 ∨ month = 11 := by
    omega
  rcases months with rfl | rfl | rfl | rfl | rfl | rfl | rfl | rfl | rfl | rfl | rfl | rfl
  all_goals
    simp [monthStart] at begun later
    simp [ofParts, isValid, daysInMonth, monthStart]
  any_goals omega
  rcases bound with usual | ⟨last, leap⟩
  · split <;> omega
  · rw [leap]
    simp
    omega

end SupplyCatalog.Date
