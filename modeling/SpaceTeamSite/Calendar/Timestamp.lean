import SpaceTeamSite.Calendar.Date
import SpaceTeamSite.Calendar.Offset
import SpaceTeamSite.Text.Digits

/-!
# Internet timestamps

A timestamp in the RFC 3339 form `YYYY-MM-DDTHH:MM:SS[.fraction]OFFSET`, read the
lenient way: the separator may be `T`, `t` or a space, UTC may be written `Z` or
`z`, a negative offset may use the minus sign U+2212, any number of fraction digits
may follow the seconds, and second 60 (a leap second) is allowed. Every field has
its fixed width, and the offset is at most 23:59 either way.

Only minutes are shown, so a timestamp keeps the date, hour, minute and second
it was written with, and the offset it was written in. `Timestamp.wallClock`
gives the date and time of the same instant at another offset; a leap second
stays in its minute.
-/

namespace SpaceTeamSite.Calendar

open SpaceTeamSite.Text

/-- A date and time of day as written, with the offset it was written in. -/
structure Timestamp where
  date : Date
  hour : Nat
  minute : Nat
  second : Nat
  offset : Int
  deriving DecidableEq, Repr

namespace Timestamp

/-- The separator between date and time. -/
def readSeparator : List Char → Option (List Char)
  | c :: rest => if c = 'T' ∨ c = 't' ∨ c = ' ' then some rest else none
  | [] => none

/-- An optional fraction of a second: a point and at least one digit. Digits
beyond the ninth are read and ignored. -/
def skipFraction : List Char → Option (List Char)
  | '.' :: rest =>
    match readDigits 1 9 rest with
    | some (_, more) => some (more.dropWhile Char.isDigit)
    | none => none
  | cs => some cs

/-- The largest offset RFC 3339 allows, in minutes: 23 hours and 59 minutes. -/
def maxOffset : Nat := 23 * 60 + 59

/-- An offset: `Z`, `z`, or a sign with `HH:MM`, in minutes east of UTC. -/
def readOffset : List Char → Option (Int × List Char)
  | 'Z' :: rest | 'z' :: rest => some (0, rest)
  | c :: rest => do
    let west ← if c = '+' then some false else if c = '-' ∨ c = '−' then some true else none
    let (h, rest) ← readDigits 2 2 rest
    let rest ← expect ':' rest
    let (m, rest) ← readDigits 2 2 rest
    if 60 ≤ m then none else
    let total := h * 60 + m
    if maxOffset < total then none else
    some (if west then -(total : Int) else total, rest)
  | [] => none

/-- Reads a whole timestamp; nothing may follow it. -/
def parse? (cs : List Char) : Option Timestamp := do
  let (y, cs) ← readDigits 4 4 cs
  let cs ← expect '-' cs
  let (mo, cs) ← readDigits 2 2 cs
  let cs ← expect '-' cs
  let (d, cs) ← readDigits 2 2 cs
  let cs ← readSeparator cs
  let (h, cs) ← readDigits 2 2 cs
  let cs ← expect ':' cs
  let (mi, cs) ← readDigits 2 2 cs
  let cs ← expect ':' cs
  let (s, cs) ← readDigits 2 2 cs
  let cs ← skipFraction cs
  let (off, cs) ← readOffset cs
  if !cs.isEmpty then none else
  if 23 < h ∨ 59 < mi ∨ 60 < s then none else
  let date ← Date.ofYmd? y mo d
  some ⟨date, h, mi, s, off⟩

/-- The date, hour and minute of the same instant on a clock at offset `o`. -/
def wallClock (t : Timestamp) (o : Offset) : Date × Nat × Nat :=
  let total : Int := (t.hour * 60 + t.minute : Nat) - t.offset + o.minutes
  let minuteOfDay := (total % 1440).toNat
  (t.date.addDays (total / 1440), minuteOfDay / 60, minuteOfDay % 60)

theorem wallClock_hour_lt (t : Timestamp) (o : Offset) : (t.wallClock o).2.1 < 24 := by
  simp only [wallClock]
  omega

theorem wallClock_minute_lt (t : Timestamp) (o : Offset) : (t.wallClock o).2.2 < 60 := by
  simp only [wallClock]
  omega

end Timestamp

end SpaceTeamSite.Calendar
