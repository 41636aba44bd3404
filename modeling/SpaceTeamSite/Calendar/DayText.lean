import SpaceTeamSite.Calendar.Date
import SpaceTeamSite.Text.Blank
import SpaceTeamSite.Text.Digits

/-!
# Dates written year-month-day

A date written `Y-M-D` with hyphens. The year is up to four digits, or a sign and
any number of digits; month and day are one or two digits. Blanks may precede each
number, but not a hyphen, and nothing may follow the day. The year must lie in
the range a calendar date can hold, -262143 to 262142.
-/

namespace SpaceTeamSite.Calendar

open SpaceTeamSite.Text

/-- The earliest and latest years a date can hold. -/
def minYear : Int := -262143
def maxYear : Int := 262142

/-- A year: up to four digits, or a sign and any number of digits. -/
def readYear (cs : List Char) : Option (Int × List Char) :=
  match trimLeft cs with
  | '-' :: rest => (readAllDigits rest).map fun (v, r) => (-(v : Int), r)
  | '+' :: rest => (readAllDigits rest).map fun (v, r) => ((v : Int), r)
  | cs => (readDigits 1 4 cs).map fun (v, r) => ((v : Int), r)

/-- A month or a day: one or two digits. -/
def readSmall (cs : List Char) : Option (Nat × List Char) :=
  readDigits 1 2 (trimLeft cs)

/-- Reads a whole `Y-M-D` date; nothing may follow it. -/
def Date.parseYmd? (cs : List Char) : Option Date := do
  let (y, cs) ← readYear cs
  let cs ← expect '-' cs
  let (m, cs) ← readSmall cs
  let cs ← expect '-' cs
  let (d, cs) ← readSmall cs
  if !cs.isEmpty then none else
  if y < minYear ∨ maxYear < y then none else
  Date.ofYmd? y m d

end SpaceTeamSite.Calendar
