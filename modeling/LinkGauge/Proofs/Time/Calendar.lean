import LinkGauge.Time.Instant
import Mathlib.Tactic

/-!
# Days and dates

A day has a date in the calendar, and counting the days up to that date gives the day again.
-/

namespace LinkGauge.Date

/-! ### Days of an era -/

/-- A day of an era, by its century, its group of four years, its year in the group and its day in
the year. Only a leap year has a last day with the number 365. -/
structure EraDay (n century group year day : ℤ) : Prop where
  sum : n = 36524 * century + 1461 * group + 365 * year + day
  century_mem : 0 ≤ century ∧ century ≤ 3
  group_mem : 0 ≤ group ∧ group ≤ 24
  year_mem : 0 ≤ year ∧ year ≤ 3
  day_mem : 0 ≤ day ∧ day ≤ 365
  leap : day = 365 → year = 3 ∧ (group < 24 ∨ century = 3)
  last : group = 24 → century < 3 → 1461 * group + 365 * year + day ≤ 36523

lemma exists_eraDay {n : ℤ} (low : 0 ≤ n) (high : n < 146097) :
    ∃ century group year day, EraDay n century group year day := by
  refine ⟨min (n / 36524) 3, (n - 36524 * min (n / 36524) 3) / 1461,
    min ((n - 36524 * min (n / 36524) 3) % 1461 / 365) 3,
    (n - 36524 * min (n / 36524) 3) % 1461 -
      365 * min ((n - 36524 * min (n / 36524) 3) % 1461 / 365) 3, ?_⟩
  generalize hc : min (n / 36524) 3 = century
  generalize hm : n - 36524 * century = m
  generalize hg : m / 1461 = group
  generalize hp : m % 1461 = p
  generalize hy : min (p / 365) 3 = year
  constructor <;> omega

/-- The year of an era that the calendar computes from a day. -/
def yearOfEra (n : ℤ) : ℤ := (n - n / 1460 + n / 36524 - n / 146096) / 365

variable {n century group year day : ℤ}

lemma EraDay.yearOfEra_eq (h : EraDay n century group year day) :
    yearOfEra n = 100 * century + 4 * group + year := by
  obtain ⟨sum, ⟨c0, c3⟩, ⟨g0, g24⟩, ⟨y0, y3⟩, ⟨d0, d365⟩, leap, last⟩ := h
  simp only [yearOfEra]
  by_cases final : n = 146096
  · subst final
    omega
  · have centuries : n / 36524 = century := by omega
    have eras : n / 146096 = 0 := by omega
    rw [centuries, eras]
    by_cases late : 1460 ≤ 24 * century + group + 365 * year + day
    · have quads : n / 1460 = 25 * century + group + 1 := by omega
      rw [quads]
      omega
    · have quads : n / 1460 = 25 * century + group := by omega
      rw [quads]
      omega

lemma EraDay.yearStart_eq (h : EraDay n century group year day) :
    yearStart (100 * century + 4 * group + year) = 36524 * century + 1461 * group + 365 * year := by
  obtain ⟨sum, ⟨c0, c3⟩, ⟨g0, g24⟩, ⟨y0, y3⟩, -⟩ := h
  simp only [yearStart]
  omega

/-! ### Months -/

/-- The month of a day in a year that begins in March. -/
def monthOf (day : ℤ) : ℤ := (5 * day + 2) / 153

lemma monthOf_mem (low : 0 ≤ day) (high : day ≤ 365) : 0 ≤ monthOf day ∧ monthOf day ≤ 11 := by
  simp only [monthOf]
  omega

/-- A day does not come before its month begins, and its month has 31 days at most. -/
lemma monthStart_le (day : ℤ) : monthStart (monthOf day) ≤ day ∧
    day < monthStart (monthOf day) + 31 := by
  simp only [monthStart, monthOf]
  omega

/-- The date of a day whose place in its era is known. -/
lemma ofDays_eq {days : ℤ} (h : EraDay ((days + 719468) % 146097) century group year day) :
    ofDays days =
      let y := 100 * century + 4 * group + year + (days + 719468) / 146097 * 400
      let d := (day - monthStart (monthOf day) + 1).toNat
      if monthOf day < 10 then ⟨y, (monthOf day + 3).toNat, d⟩
      else ⟨y + 1, (monthOf day - 9).toNat, d⟩ := by
  have years := h.yearOfEra_eq
  have start := h.yearStart_eq
  have rest : (days + 719468) % 146097 - (36524 * century + 1461 * group + 365 * year) = day := by
    have := h.sum
    omega
  simp only [yearOfEra] at years
  simp only [ofDays, years, start, rest]
  rfl

/-- The days up to the date of a day. -/
theorem toDays_ofDays (days : ℤ) : (ofDays days).toDays = days := by
  obtain ⟨century, group, year, day, h⟩ :=
    exists_eraDay (n := (days + 719468) % 146097) (by omega) (by omega)
  obtain ⟨m0, m11⟩ := monthOf_mem h.day_mem.1 h.day_mem.2
  obtain ⟨after, before⟩ := monthStart_le day
  have start := h.yearStart_eq
  have sum := h.sum
  have date := ofDays_eq h
  obtain ⟨-, ⟨c0, c3⟩, ⟨g0, g24⟩, ⟨y0, y3⟩, -⟩ := h
  simp only at date
  by_cases spring : monthOf day < 10
  · rw [if_pos spring] at date
    have month : ((monthOf day + 3).toNat : ℤ) - 3 = monthOf day := by omega
    have late : ¬ (monthOf day + 3).toNat ≤ 2 := by omega
    rw [date, toDays]
    simp only [if_neg late, month]
    have era : (100 * century + 4 * group + year + (days + 719468) / 146097 * 400) / 400 =
        (days + 719468) / 146097 := by omega
    have inEra : (100 * century + 4 * group + year + (days + 719468) / 146097 * 400) % 400 =
        100 * century + 4 * group + year := by omega
    rw [era, inEra, start]
    omega
  · rw [if_neg spring] at date
    have month : ((monthOf day - 9).toNat : ℤ) + 9 = monthOf day := by omega
    have early : (monthOf day - 9).toNat ≤ 2 := by omega
    rw [date, toDays]
    simp only [if_pos early, month]
    have era : (100 * century + 4 * group + year + (days + 719468) / 146097 * 400 + 1 - 1) / 400 =
        (days + 719468) / 146097 := by omega
    have inEra : (100 * century + 4 * group + year + (days + 719468) / 146097 * 400 + 1 - 1) % 400 =
        100 * century + 4 * group + year := by omega
    rw [era, inEra, start]
    omega

lemma monthLength_le (y : ℤ) (m : ℕ) : monthLength y m ≤ 31 := by
  simp only [monthLength]
  split <;> first
    | omega
    | split <;> omega

/-- Only the months of the calendar have days. -/
lemma month_mem {y : ℤ} {m : ℕ} (some : 0 < monthLength y m) : 1 ≤ m ∧ m ≤ 12 := by
  simp only [monthLength] at some
  split at some <;> omega

/-- From March on, a month is as long as it is until the next one begins. -/
lemma monthLength_eq (y : ℤ) {m : ℕ} (h : m < 10) :
    (monthLength y (m + 3) : ℤ) = monthStart (m + 1) - monthStart m := by
  interval_cases m <;> rfl

/-- The day of a date is in its month, from March on. -/
lemma day_le_monthLength (y : ℤ) (low : 0 ≤ day) (high : day ≤ 365) (spring : monthOf day < 10) :
    (day - monthStart (monthOf day) + 1).toNat ≤ monthLength y (monthOf day + 3).toNat := by
  obtain ⟨m0, -⟩ := monthOf_mem low high
  have value : monthOf day = (5 * day + 2) / 153 := rfl
  obtain ⟨m, hm⟩ : ∃ m : ℕ, monthOf day = m := ⟨(monthOf day).toNat, by omega⟩
  have length := monthLength_eq y (m := m) (by omega)
  have month : (monthOf day + 3).toNat = m + 3 := by omega
  rw [month, hm]
  simp only [monthStart] at length ⊢
  omega

/-- The day of a date is in its month, in January or February. -/
lemma day_le_winterLength {y : ℤ} (low : 0 ≤ day) (high : day ≤ 365) (winter : ¬ monthOf day < 10)
    (leap : day = 365 → isLeap y) :
    (day - monthStart (monthOf day) + 1).toNat ≤ monthLength y (monthOf day - 9).toNat := by
  obtain ⟨m0, m11⟩ := monthOf_mem low high
  have value : monthOf day = (5 * day + 2) / 153 := rfl
  obtain january | february : monthOf day = 10 ∨ monthOf day = 11 := by omega
  · have length : monthLength y (10 - 9 : ℤ).toNat = 31 := rfl
    rw [january, length]
    simp only [monthStart]
    omega
  · have length : monthLength y (11 - 9 : ℤ).toNat = if Date.isLeap y then 29 else 28 := rfl
    rw [february, length]
    simp only [monthStart]
    by_cases final : day = 365
    · rw [if_pos (leap final)]
      omega
    · have least : 28 ≤ if Date.isLeap y then 29 else 28 := by split <;> decide
      omega

/-- The last day of a year is the leap day. -/
lemma EraDay.isLeap (h : EraDay n century group year day) (final : day = 365) (era : ℤ) :
    Date.isLeap (100 * century + 4 * group + year + era * 400 + 1) := by
  obtain ⟨three, quarter⟩ := h.leap final
  obtain ⟨g0, g24⟩ := h.group_mem
  have last := h.last
  have fourth : (100 * century + 4 * group + year + era * 400 + 1) % 4 = 0 := by omega
  have hundredth : (100 * century + 4 * group + year + era * 400 + 1) % 100 ≠ 0 ∨
      (100 * century + 4 * group + year + era * 400 + 1) % 400 = 0 := by omega
  simp only [Date.isLeap, Bool.and_eq_true, Bool.or_eq_true, beq_iff_eq, bne_iff_ne]
  exact ⟨fourth, hundredth⟩

/-- The first day the clock can tell. -/
abbrev firstDay : ℤ := -96465292

/-- The day behind the last one the clock can tell. -/
abbrev endDay : ℤ := 95026237

/-- The date of a day that the clock can tell is in the calendar. -/
theorem isValid_ofDays {days : ℤ} (low : firstDay ≤ days) (high : days < endDay) :
    (ofDays days).isValid := by
  simp only [firstDay] at low
  simp only [endDay] at high
  obtain ⟨century, group, year, day, h⟩ :=
    exists_eraDay (n := (days + 719468) % 146097) (by omega) (by omega)
  obtain ⟨m0, m11⟩ := monthOf_mem h.day_mem.1 h.day_mem.2
  obtain ⟨after, before⟩ := monthStart_le day
  have date := ofDays_eq h
  have sum := h.sum
  obtain ⟨c0, c3⟩ := h.century_mem
  obtain ⟨g0, g24⟩ := h.group_mem
  obtain ⟨y0, y3⟩ := h.year_mem
  obtain ⟨d0, d365⟩ := h.day_mem
  have first : 1 ≤ (day - monthStart (monthOf day) + 1).toNat := by omega
  have value : monthOf day = (5 * day + 2) / 153 := rfl
  -- Only in the first and the last era that the clock reaches into does the day matter.
  have earliest : -656 ≤ (days + 719468) / 146097 := by omega
  have latest : (days + 719468) / 146097 ≤ 655 := by omega
  have firstEra : (days + 719468) / 146097 = -656 → 93808 ≤ (days + 719468) % 146097 := by omega
  have lastEra : (days + 719468) / 146097 = 655 → (days + 719468) % 146097 < 52170 := by omega
  generalize (days + 719468) / 146097 = era at *
  generalize (days + 719468) % 146097 = n at *
  simp only at date
  by_cases spring : monthOf day < 10
  · rw [if_pos spring] at date
    have last := day_le_monthLength
      (100 * century + 4 * group + year + era * 400) d0 d365 spring
    simp only [date, isValid, Bool.and_eq_true, decide_eq_true_eq]
    refine ⟨⟨⟨?_, ?_⟩, first⟩, last⟩
    · omega
    · omega
  · rw [if_neg spring] at date
    have last := day_le_winterLength d0 d365 spring fun final => h.isLeap final era
    simp only [date, isValid, Bool.and_eq_true, decide_eq_true_eq]
    refine ⟨⟨⟨?_, ?_⟩, first⟩, last⟩
    · omega
    · omega

end LinkGauge.Date
