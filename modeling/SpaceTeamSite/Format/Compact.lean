import SpaceTeamSite.Number.Fixed
import SpaceTeamSite.I18n.Language

/-!
# Compact numbers

Counts of a thousand or more are shown in thousands, millions or billions with at
most one decimal: `1.8M` in English, `1,8 Mn` in Turkish. The value is computed in
double precision as `round(n / d · 10) / 10`, rounding halves away from zero, first
with `d = 1000`; while that reaches 1000 and a larger unit exists, `d` grows a
thousandfold. The unit is thus chosen after rounding, so 999 950 reads `1M` rather
than `1000K`. A whole value is written without decimals.
-/

namespace SpaceTeamSite.Format

/-- The unit suffixes, thousands first. -/
def compactSuffixes : Language → List String
  | .english => ["K", "M", "B"]
  | .turkish => ["B", "Mn", "Mr"]

/-- `x / d` rounded to one decimal, in double precision. -/
def roundedTenths (x d : Float) : Float := (x / d * 10.0).round / 10.0

/-- The unit (0 for thousands, 1 for millions, 2 for billions) and the rounded value. -/
def compactUnit (n : Nat) : Nat × Float :=
  let x := Float.ofNat n
  let r0 := roundedTenths x 1000.0
  if r0 < 1000.0 then (0, r0)
  else
    let r1 := roundedTenths x 1000000.0
    if r1 < 1000.0 then (1, r1) else (2, roundedTenths x 1000000000.0)

/-- The digits of a rounded value: none after the point for a whole value, else one. -/
def compactDigits (r : Float) : String :=
  match Number.exactOf? r with
  | some x => x.fixed (if x.isWhole then 0 else 1)
  | none => ""

/-- A count in compact form. -/
def compact (n : Nat) (lang : Language) : String :=
  if n < 1000 then toString n
  else
    let (unit, r) := compactUnit n
    let digits := compactDigits r
    let suffix := (compactSuffixes lang).getD unit ""
    match lang with
    | .english => digits ++ suffix
    | .turkish => String.ofList (digits.toList.map fun c => if c = '.' then ',' else c) ++ " " ++ suffix

theorem compact_small (n : Nat) (lang : Language) (h : n < 1000) : compact n lang = toString n := by
  simp [compact, h]

end SpaceTeamSite.Format
