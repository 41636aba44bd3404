/-!
# Reading ASCII digits

Scanners over a list of characters that read a run of ASCII digits and return its
value with the rest of the input. Only `0` to `9` count: other Unicode digits,
such as the full-width ones, stop a run.
-/

namespace SpaceTeamSite.Text

/-- The value of a run of ASCII digits, most significant first. -/
def digitsValue (ds : List Char) : Nat :=
  ds.foldl (fun acc c => acc * 10 + (c.toNat - '0'.toNat)) 0

/-- Reads at least `lo` and at most `hi` digits, as many as there are. -/
def readDigits (lo hi : Nat) (cs : List Char) : Option (Nat × List Char) :=
  let ds := (cs.take hi).takeWhile Char.isDigit
  if ds.length < lo then none else some (digitsValue ds, cs.drop ds.length)

/-- Reads one or more digits, as many as there are. -/
def readAllDigits (cs : List Char) : Option (Nat × List Char) :=
  let ds := cs.takeWhile Char.isDigit
  if ds.isEmpty then none else some (digitsValue ds, cs.drop ds.length)

/-- Consumes the character `c`. -/
def expect (c : Char) : List Char → Option (List Char)
  | d :: rest => if d = c then some rest else none
  | [] => none

theorem digitsValue_append (a b : List Char) :
    digitsValue (a ++ b) = b.foldl (fun acc c => acc * 10 + (c.toNat - '0'.toNat)) (digitsValue a) := by
  simp [digitsValue, List.foldl_append]

end SpaceTeamSite.Text
