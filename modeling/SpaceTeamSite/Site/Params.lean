import SpaceTeamSite.I18n.Language
import SpaceTeamSite.Text.Escape
import SpaceTeamSite.Text.Blank
import SpaceTeamSite.Text.Digits

/-!
# Page parameters

A page load carries three parameters in its query string: the language, the viewport
width and whether the launches list is expanded. They arrive as raw text and never
make a request fail: a language that does not parse and a width that is not an
unsigned 32-bit number fall back to the site's defaults, and the list is expanded only
for `1`, `true` or `yes`.

Links that change one parameter keep the others, so the reader stays on the same view.
-/

namespace SpaceTeamSite.Site

/-- The largest unsigned 32-bit number. -/
def u32Max : Nat := 4294967295

/-- Reads an unsigned 32-bit number: an optional plus sign, then decimal digits, and
nothing else; a minus sign is refused, even before zero. -/
def parseU32? (s : String) : Option Nat :=
  match s.toList with
  | '+' :: rest => u32Digits? rest
  | cs => u32Digits? cs
where
  /-- Decimal digits, at least one, of a number that fits. -/
  u32Digits? (digits : List Char) : Option Nat :=
    if digits.isEmpty || !digits.all Char.isDigit then none
    else if Text.digitsValue digits ≤ u32Max then some (Text.digitsValue digits) else none

/-- The parameters of a page load. -/
structure PageParams where
  lang : Language
  width : Nat
  expanded : Bool
  deriving DecidableEq, Repr

namespace PageParams

/-- The relative link to the same page with these parameters, ending at `anchor`
when one is given, escaped for an attribute value. -/
def href (p : PageParams) (anchor : String) : String :=
  let query := "?lang=" ++ p.lang.code ++ "&width=" ++ toString p.width
  let query := if p.expanded then query ++ "&more=true" else query
  let query := if anchor.isEmpty then query else query ++ "#" ++ anchor
  Text.escape query

/-- The same parameters in another language. -/
def withLang (p : PageParams) (lang : Language) : PageParams := { p with lang }

/-- The same parameters with the list expanded or not. -/
def withExpanded (p : PageParams) (expanded : Bool) : PageParams := { p with expanded }

end PageParams

/-- The site's defaults for parameters a request leaves out or gets wrong. -/
structure ParamDefaults where
  lang : Language
  width : Nat

/-- The parameters of a request from its raw query values. -/
def ParamDefaults.params (d : ParamDefaults) (lang width more : Option String) : PageParams where
  lang := (lang.bind fun code => (Language.parse code).toOption).getD d.lang
  width := (width.bind fun w => parseU32? (Text.trim w)).getD d.width
  expanded := more == some "1" || more == some "true" || more == some "yes"

theorem u32Digits?_le (cs : List Char) (n : Nat) (h : parseU32?.u32Digits? cs = some n) :
    n ≤ u32Max := by
  unfold parseU32?.u32Digits? at h
  split at h
  · cases h
  · split at h
    · cases h; assumption
    · cases h

theorem parseU32?_le (s : String) (n : Nat) (h : parseU32? s = some n) : n ≤ u32Max := by
  unfold parseU32? at h
  split at h <;> exact u32Digits?_le _ _ h

end SpaceTeamSite.Site
