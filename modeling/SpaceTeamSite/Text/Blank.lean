/-!
# Blank characters

The blank characters are those of the Unicode `White_Space` property: the ASCII
tab, line feed, vertical tab, form feed, carriage return and space, the next-line
control, the no-break space, the Ogham space mark, the typographic spaces
U+2000 to U+200A, the line and paragraph separators, the narrow no-break space,
the medium mathematical space and the ideographic space. Trimming removes them
from both ends and keeps everything between.
-/

namespace SpaceTeamSite.Text

/-- `c` has the Unicode `White_Space` property. -/
def isBlank (c : Char) : Bool :=
  let n := c.toNat
  (0x09 ≤ n && n ≤ 0x0D) || n == 0x20 || n == 0x85 || n == 0xA0 || n == 0x1680 ||
    (0x2000 ≤ n && n ≤ 0x200A) || n == 0x2028 || n == 0x2029 || n == 0x202F ||
    n == 0x205F || n == 0x3000

/-- Drops the blank characters at the front. -/
def trimLeft (cs : List Char) : List Char := cs.dropWhile isBlank

/-- Drops the blank characters at both ends. -/
def trimList (cs : List Char) : List Char :=
  ((trimLeft cs).reverse.dropWhile isBlank).reverse

/-- Drops the blank characters at both ends of a text. -/
def trim (s : String) : String := String.ofList (trimList s.toList)

theorem isBlank_space : isBlank ' ' = true := rfl

/-- Every character that core Lean counts as whitespace is blank here too. -/
theorem isBlank_of_isWhitespace (c : Char) (h : c.isWhitespace = true) : isBlank c = true := by
  have : c = ' ' ∨ c = '\t' ∨ c = '\r' ∨ c = '\n' := by
    simpa [Char.isWhitespace, or_assoc] using h
  rcases this with rfl | rfl | rfl | rfl <;> rfl

end SpaceTeamSite.Text
