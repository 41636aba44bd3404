/-!
# Fixed offsets from UTC

A fixed offset is a whole number of minutes east of UTC, strictly less than a day
either way. It is written `+HH:MM` or `-HH:MM`.
-/

namespace SpaceTeamSite.Calendar

/-- A fixed offset from UTC in minutes east, less than a day either way. -/
structure Offset where
  minutes : Int
  bounded : -1440 < minutes ∧ minutes < 1440 := by omega
  deriving DecidableEq

namespace Offset

/-- UTC itself. -/
def utc : Offset := ⟨0, by omega⟩

/-- The offset of `m` minutes east, if it is less than a day either way. -/
def ofMinutes? (m : Int) : Option Offset :=
  if h : -1440 < m ∧ m < 1440 then some ⟨m, h⟩ else none

/-- The offset in seconds east of UTC. -/
def seconds (o : Offset) : Int := o.minutes * 60

/-- Two digits, with a leading zero below ten. -/
def twoDigits (n : Nat) : String :=
  if n < 10 then "0" ++ toString n else toString n

/-- `+HH:MM` east of UTC, `-HH:MM` west of it. -/
def display (o : Offset) : String :=
  let sign := if o.minutes < 0 then "-" else "+"
  let m := o.minutes.natAbs
  sign ++ twoDigits (m / 60) ++ ":" ++ twoDigits (m % 60)

theorem ofMinutes?_minutes (o : Offset) : ofMinutes? o.minutes = some o := by
  simp [ofMinutes?, o.bounded]

end Offset

end SpaceTeamSite.Calendar
