import SpaceTeamSite.Calendar.Timestamp
import SpaceTeamSite.Calendar.DayText
import SpaceTeamSite.Format.Month

/-!
# Launch times and picture dates

A launch time is an RFC 3339 timestamp shown on the site's display clock as a
medium date with a short time: `20 Oct 2026, 14:00` in English, `20 Eki 2026 14:00`
in Turkish. A picture date is a `Y-M-D` date shown as a long date:
`October 16, 2026` or `16 Ekim 2026`. Days have no leading zero and years are
written as integers. Text that does not read as a timestamp or a date is shown as
it was given, blanks included.
-/

namespace SpaceTeamSite.Format

open SpaceTeamSite.Calendar

/-- A launch time on a clock at offset `o`. -/
def launchTime (raw : String) (lang : Language) (o : Offset) : String :=
  match Timestamp.parse? (Text.trimList raw.toList) with
  | none => raw
  | some t =>
    let (date, hour, minute) := t.wallClock o
    let clock := Offset.twoDigits hour ++ ":" ++ Offset.twoDigits minute
    let day := toString date.day ++ " " ++ monthName lang date.month true ++ " " ++
      toString date.year
    match lang with
    | .english => day ++ ", " ++ clock
    | .turkish => day ++ " " ++ clock

/-- A picture date as a long date. -/
def pictureDate (raw : String) (lang : Language) : String :=
  match Date.parseYmd? (Text.trimList raw.toList) with
  | none => raw
  | some d =>
    let month := monthName lang d.month false
    match lang with
    | .english => month ++ " " ++ toString d.day ++ ", " ++ toString d.year
    | .turkish => toString d.day ++ " " ++ month ++ " " ++ toString d.year

end SpaceTeamSite.Format
