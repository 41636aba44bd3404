import SpaceTeamSite.I18n.Language

/-!
# Month names

Full and short month names in both languages. A month number outside 1 to 12 is
clamped into that range. The English short name of September is `Sept`.
-/

namespace SpaceTeamSite.Format

/-- English month names, January first. -/
def englishMonths : List String :=
  ["January", "February", "March", "April", "May", "June", "July", "August", "September",
    "October", "November", "December"]

/-- English short month names. -/
def englishShortMonths : List String :=
  ["Jan", "Feb", "Mar", "Apr", "May", "Jun", "Jul", "Aug", "Sept", "Oct", "Nov", "Dec"]

/-- Turkish month names. -/
def turkishMonths : List String :=
  ["Ocak", "Şubat", "Mart", "Nisan", "Mayıs", "Haziran", "Temmuz", "Ağustos", "Eylül", "Ekim",
    "Kasım", "Aralık"]

/-- Turkish short month names. -/
def turkishShortMonths : List String :=
  ["Oca", "Şub", "Mar", "Nis", "May", "Haz", "Tem", "Ağu", "Eyl", "Eki", "Kas", "Ara"]

/-- The month number clamped into 1 to 12. -/
def clampMonth (m : Nat) : Nat := max 1 (min m 12)

/-- The name of month `m`, full or short. -/
def monthName (lang : Language) (m : Nat) (short : Bool) : String :=
  let names := match lang, short with
    | .english, false => englishMonths
    | .english, true => englishShortMonths
    | .turkish, false => turkishMonths
    | .turkish, true => turkishShortMonths
  names.getD (clampMonth m - 1) ""

theorem clampMonth_mem (m : Nat) : 1 ≤ clampMonth m ∧ clampMonth m ≤ 12 := by
  unfold clampMonth; omega

end SpaceTeamSite.Format
