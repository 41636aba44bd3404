/-!
# Civil dates

Dates of the proleptic Gregorian calendar, with astronomical year numbering: the
year before 1 is 0, and before that come the negative years. A year is a leap year
when it is divisible by 4, except centuries, which are leap years only when
divisible by 400.

Moving a date by a few days steps through the calendar one day at a time; the
step lemmas say that a valid date stays valid.
-/

namespace SpaceTeamSite.Calendar

/-- Leap years of the Gregorian calendar. -/
def isLeapYear (y : Int) : Bool :=
  y % 4 == 0 && (y % 100 != 0 || y % 400 == 0)

/-- The number of days of month `m` (1 to 12) of year `y`. -/
def daysInMonth (y : Int) (m : Nat) : Nat :=
  match m with
  | 2 => if isLeapYear y then 29 else 28
  | 4 | 6 | 9 | 11 => 30
  | _ => 31

/-- A day of the calendar. -/
structure Date where
  year : Int
  month : Nat
  day : Nat
  deriving DecidableEq, Repr

namespace Date

/-- The month is one of the twelve and the day is one of the month's days. -/
def Valid (d : Date) : Prop :=
  1 ≤ d.month ∧ d.month ≤ 12 ∧ 1 ≤ d.day ∧ d.day ≤ daysInMonth d.year d.month

instance (d : Date) : Decidable d.Valid := by unfold Valid; infer_instance

/-- The date `y-m-d`, if it exists. -/
def ofYmd? (y : Int) (m d : Nat) : Option Date :=
  let date : Date := ⟨y, m, d⟩
  if date.Valid then some date else none

/-- The next day. -/
def succ (d : Date) : Date :=
  if d.day < daysInMonth d.year d.month then { d with day := d.day + 1 }
  else if d.month < 12 then ⟨d.year, d.month + 1, 1⟩
  else ⟨d.year + 1, 1, 1⟩

/-- The previous day. -/
def pred (d : Date) : Date :=
  if 1 < d.day then { d with day := d.day - 1 }
  else if 1 < d.month then ⟨d.year, d.month - 1, daysInMonth d.year (d.month - 1)⟩
  else ⟨d.year - 1, 12, 31⟩

/-- The date `n` days later (earlier for negative `n`). -/
def addDays (d : Date) : Int → Date
  | .ofNat n => n.repeat succ d
  | .negSucc n => (n + 1).repeat pred d

theorem daysInMonth_pos (y : Int) (m : Nat) : 1 ≤ daysInMonth y m := by
  unfold daysInMonth; split <;> (try split) <;> omega

theorem daysInMonth_le (y : Int) (m : Nat) : daysInMonth y m ≤ 31 := by
  unfold daysInMonth; split <;> (try split) <;> omega

theorem succ_valid {d : Date} (h : d.Valid) : d.succ.Valid := by
  obtain ⟨h1, h2, h3, h4⟩ := h
  unfold succ
  split
  · rename_i hlt
    exact ⟨h1, h2, Nat.le_succ_of_le h3, hlt⟩
  · have := daysInMonth_pos d.year (d.month + 1)
    have := daysInMonth_pos (d.year + 1) 1
    split <;> refine ⟨?_, ?_, ?_, ?_⟩ <;> simp only <;> omega

theorem pred_valid {d : Date} (h : d.Valid) : d.pred.Valid := by
  obtain ⟨h1, h2, h3, h4⟩ := h
  unfold pred
  split
  · exact ⟨h1, h2, by simp only; omega, by simp only; omega⟩
  · split
    · rename_i hm
      exact ⟨by simp only; omega, by simp only; omega, daysInMonth_pos _ _, Nat.le_refl _⟩
    · exact ⟨Nat.le_of_ble_eq_true rfl, Nat.le_refl 12, Nat.le_of_ble_eq_true rfl, by simp [daysInMonth]⟩

theorem repeat_valid {f : Date → Date} (hf : ∀ d : Date, d.Valid → (f d).Valid) (n : Nat)
    {d : Date} (h : d.Valid) : (n.repeat f d).Valid := by
  induction n with
  | zero => exact h
  | succ n ih => exact hf _ ih

/-- Moving a valid date by any number of days gives a valid date. -/
theorem addDays_valid {d : Date} (h : d.Valid) (n : Int) : (d.addDays n).Valid := by
  cases n with
  | ofNat n => exact repeat_valid (fun _ => succ_valid) n h
  | negSucc n => exact repeat_valid (fun _ => pred_valid) (n + 1) h

end Date

end SpaceTeamSite.Calendar
