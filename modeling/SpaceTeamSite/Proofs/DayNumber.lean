import SpaceTeamSite.Calendar.Date

/-!
# Day numbers of the proleptic Gregorian calendar

A valid date has a day number, its distance in days from 1 January 1970, given by the
closed formula of the Gregorian calendar: count years from March, so that the leap day
is the last day of its year, add 365 days a year and a leap day every fourth year but
the centuries not divisible by 400, then the days of the months before it, which from
March on follow the pattern `(153 m + 2) / 5`.

The calendar's day steps agree with the formula: the next day has the next number and
the previous day the previous one (`dayNumber_succ`, `dayNumber_pred`), so moving a date
by `n` days adds `n` to its number (`dayNumber_addDays`). And no two valid dates share a
number (`dayNumber_inj`), since a valid date's number falls inside the days of its March
year, and the month and day are read back from the day of that year.
-/

namespace SpaceTeamSite.Calendar

theorem isLeapYear_iff (y : Int) :
    isLeapYear y = true ↔ y % 4 = 0 ∧ (y % 100 ≠ 0 ∨ y % 400 = 0) := by
  simp [isLeapYear]

/-- February has 29 days in a leap year and 28 otherwise. -/
theorem daysInMonth_two (y : Int) :
    daysInMonth y 2 = 29 ∧ y % 4 = 0 ∧ (y % 100 ≠ 0 ∨ y % 400 = 0) ∨
      daysInMonth y 2 = 28 ∧ ¬(y % 4 = 0 ∧ (y % 100 ≠ 0 ∨ y % 400 = 0)) := by
  by_cases hl : isLeapYear y = true
  · exact .inl ⟨by simp [daysInMonth, hl], (isLeapYear_iff y).mp hl⟩
  · exact .inr ⟨by simp [daysInMonth, hl], mt (isLeapYear_iff y).mpr hl⟩

/-- The number of days before March of year `y`, counted from March of year 0. -/
def yearStart (y : Int) : Int := 365 * y + y / 4 - y / 100 + y / 400

namespace Date

/-- The year counted from March: January and February belong to the year before. -/
def marchYear (d : Date) : Int := if d.month ≤ 2 then d.year - 1 else d.year

/-- The month counted from March: March is 0 and February 11. -/
def marchMonth (d : Date) : Nat := if d.month ≤ 2 then d.month + 9 else d.month - 3

/-- The days from the first of March to the date. -/
def dayOfYear (d : Date) : Int := (153 * d.marchMonth + 2) / 5 + d.day - 1

/-- Days from 1 January 1970 to the date. -/
def dayNumber (d : Date) : Int := yearStart d.marchYear + d.dayOfYear - 719468

theorem month_cases {m : Nat} (h1 : 1 ≤ m) (h2 : m ≤ 12) :
    m = 1 ∨ m = 2 ∨ m = 3 ∨ m = 4 ∨ m = 5 ∨ m = 6 ∨ m = 7 ∨ m = 8 ∨ m = 9 ∨ m = 10 ∨
      m = 11 ∨ m = 12 := by
  omega

/-! ## One day at a time -/

/-- The next day of the same month has the next number. -/
theorem dayNumber_day_succ (y : Int) (m day : Nat) :
    dayNumber ⟨y, m, day + 1⟩ = dayNumber ⟨y, m, day⟩ + 1 := by
  simp only [dayNumber, dayOfYear, marchYear, marchMonth]
  omega

/-- The first of the next month follows the last day of a month before December. -/
theorem dayNumber_next_month (y : Int) {m : Nat} (h1 : 1 ≤ m) (h2 : m ≤ 11) :
    dayNumber ⟨y, m + 1, 1⟩ = dayNumber ⟨y, m, daysInMonth y m⟩ + 1 := by
  rcases month_cases h1 (by omega : m ≤ 12) with
    rfl | rfl | rfl | rfl | rfl | rfl | rfl | rfl | rfl | rfl | rfl | rfl
  -- after February, whichever its length, March starts the next March year
  case inr.inl =>
    rcases daysInMonth_two y with ⟨hf, hl⟩ | ⟨hf, hl⟩ <;>
      simp [dayNumber, dayOfYear, marchYear, marchMonth, yearStart, hf] <;> omega
  all_goals
    simp [dayNumber, dayOfYear, marchYear, marchMonth, yearStart, daysInMonth]
    omega

/-- The first of January follows the last of December. -/
theorem dayNumber_new_year (y : Int) : dayNumber ⟨y + 1, 1, 1⟩ = dayNumber ⟨y, 12, 31⟩ + 1 := by
  simp [dayNumber, dayOfYear, marchYear, marchMonth, yearStart]
  omega

/-- The next day has the next number. -/
theorem dayNumber_succ {d : Date} (h : d.Valid) : d.succ.dayNumber = d.dayNumber + 1 := by
  obtain ⟨y, m, day⟩ := d
  obtain ⟨h1, h2, h3, h4⟩ := h
  simp only at h1 h2 h3 h4
  unfold succ
  simp only
  split
  · exact dayNumber_day_succ y m day
  · -- the last day of its month
    have hday : day = daysInMonth y m := by omega
    subst hday
    split
    · next hm => exact dayNumber_next_month y h1 (by omega)
    · have hm : m = 12 := by omega
      subst hm
      exact dayNumber_new_year y

/-- The previous day has the previous number. -/
theorem dayNumber_pred {d : Date} (h : d.Valid) : d.pred.dayNumber = d.dayNumber - 1 := by
  obtain ⟨y, m, day⟩ := d
  obtain ⟨h1, h2, h3, h4⟩ := h
  simp only at h1 h2 h3 h4
  unfold pred
  simp only
  split
  · have := dayNumber_day_succ y m (day - 1)
    rw [Nat.sub_add_cancel (by omega : 1 ≤ day)] at this
    omega
  · -- the first of its month
    have hday : day = 1 := by omega
    subst hday
    split
    · have := dayNumber_next_month y (m := m - 1) (by omega) (by omega)
      rw [Nat.sub_add_cancel (by omega : 1 ≤ m)] at this
      omega
    · have hm : m = 1 := by omega
      subst hm
      have := dayNumber_new_year (y - 1)
      rw [Int.sub_add_cancel] at this
      omega

/-! ## Any number of days -/

theorem dayNumber_repeat_succ {d : Date} (h : d.Valid) (n : Nat) :
    (n.repeat succ d).dayNumber = d.dayNumber + n := by
  induction n with
  | zero => simp [Nat.repeat]
  | succ n ih =>
    rw [Nat.repeat, dayNumber_succ (repeat_valid (fun _ => succ_valid) n h), ih]
    omega

theorem dayNumber_repeat_pred {d : Date} (h : d.Valid) (n : Nat) :
    (n.repeat pred d).dayNumber = d.dayNumber - n := by
  induction n with
  | zero => simp [Nat.repeat]
  | succ n ih =>
    rw [Nat.repeat, dayNumber_pred (repeat_valid (fun _ => pred_valid) n h), ih]
    omega

/-- **Moving a date by `n` days adds `n` to its number.** -/
theorem dayNumber_addDays {d : Date} (h : d.Valid) (n : Int) :
    (d.addDays n).dayNumber = d.dayNumber + n := by
  cases n with
  | ofNat n => exact dayNumber_repeat_succ h n
  | negSucc n =>
    rw [addDays, dayNumber_repeat_pred h, Int.negSucc_eq]
    omega

/-! ## Different dates, different numbers -/

/-- A valid date lies among the days of its March year: a leap day only when the year
it ends is a leap year. -/
theorem dayOfYear_lt {d : Date} (h : d.Valid) :
    0 ≤ d.dayOfYear ∧ d.dayOfYear < yearStart (d.marchYear + 1) - yearStart d.marchYear := by
  obtain ⟨h1, h2, h3, h4⟩ := h
  obtain ⟨y, m, day⟩ := d
  simp only at h1 h2 h3 h4
  rcases month_cases h1 h2 with
    rfl | rfl | rfl | rfl | rfl | rfl | rfl | rfl | rfl | rfl | rfl | rfl
  case inr.inl =>
    rcases daysInMonth_two y with ⟨hf, hl⟩ | ⟨hf, hl⟩ <;> rw [hf] at h4 <;>
      simp [dayOfYear, marchYear, marchMonth, yearStart] <;> omega
  all_goals
    simp [dayOfYear, marchYear, marchMonth, yearStart, daysInMonth] at h4 ⊢
    omega

/-- Later March years start later. -/
theorem yearStart_le {y z : Int} (h : y ≤ z) : yearStart y ≤ yearStart z := by
  simp only [yearStart]
  omega

/-- The month counted from March is read back from the day of the year. -/
theorem marchMonth_eq {d : Date} (h : d.Valid) : (5 * d.dayOfYear + 2) / 153 = d.marchMonth := by
  obtain ⟨h1, h2, h3, h4⟩ := h
  obtain ⟨y, m, day⟩ := d
  simp only at h1 h2 h3 h4
  rcases month_cases h1 h2 with
    rfl | rfl | rfl | rfl | rfl | rfl | rfl | rfl | rfl | rfl | rfl | rfl
  case inr.inl =>
    rcases daysInMonth_two y with ⟨hf, -⟩ | ⟨hf, -⟩ <;> rw [hf] at h4 <;>
      simp [dayOfYear, marchMonth] <;> omega
  all_goals
    simp [dayOfYear, marchMonth, daysInMonth] at h4 ⊢
    omega

/-- **No two valid dates share a day number.** -/
theorem dayNumber_inj {d e : Date} (hd : d.Valid) (he : e.Valid)
    (h : d.dayNumber = e.dayNumber) : d = e := by
  -- the March year: each date lies strictly inside its own
  have hyear : d.marchYear = e.marchYear := by
    have ⟨hd0, hd1⟩ := dayOfYear_lt hd
    have ⟨he0, he1⟩ := dayOfYear_lt he
    simp only [dayNumber] at h
    rcases Int.lt_trichotomy d.marchYear e.marchYear with hlt | heq | hgt
    · have := yearStart_le (show d.marchYear + 1 ≤ e.marchYear by omega)
      omega
    · exact heq
    · have := yearStart_le (show e.marchYear + 1 ≤ d.marchYear by omega)
      omega
  have hday : d.dayOfYear = e.dayOfYear := by
    simp only [dayNumber] at h
    rw [hyear] at h
    omega
  have hmonth : d.marchMonth = e.marchMonth := by
    have hd' := marchMonth_eq hd
    have he' := marchMonth_eq he
    rw [hday] at hd'
    omega
  -- the month, the day and the year follow
  obtain ⟨hd1, hd2, -, -⟩ := hd
  obtain ⟨he1, he2, -, -⟩ := he
  obtain ⟨y, m, day⟩ := d
  obtain ⟨z, n, day'⟩ := e
  simp only [marchYear, marchMonth, dayOfYear] at hyear hday hmonth hd1 hd2 he1 he2
  have hmn : m = n := by split at hmonth <;> split at hmonth <;> omega
  subst hmn
  have hyz : y = z := by split at hyear <;> omega
  subst hyz
  have : day = day' := by omega
  rw [this]

end Date

end SpaceTeamSite.Calendar
