/-!
# Floats written with fixed decimals

A finite float is exactly `m · 2^e` for a natural mantissa `m` and an integer
exponent `e`; `Float.exact?` reads that pair off the bits. Writing a float with
`p` decimals takes the exact value times `10^p`, rounds it to the nearest integer,
a tie going to the even neighbour, and puts the point `p` digits from the right.
No digit comes from a conversion that itself rounds.
-/

namespace SpaceTeamSite.Number

/-- A finite float as its sign and its exact value `m · 2^e`. -/
structure Exact where
  negative : Bool
  mantissa : Nat
  exponent : Int
  deriving DecidableEq, Repr

/-- The exact value of a finite float; none for infinities and NaN. -/
def exactOf? (x : Float) : Option Exact :=
  let bits : Nat := x.toBits.toNat
  let negative : Bool := bits / Nat.pow 2 63 % 2 == 1
  let biased : Nat := bits / Nat.pow 2 52 % Nat.pow 2 11
  let fraction : Nat := bits % Nat.pow 2 52
  if biased == Nat.pow 2 11 - 1 then none
  else if biased == 0 then some ⟨negative, fraction, -1074⟩
  else some ⟨negative, fraction + Nat.pow 2 52, (biased : Int) - 1075⟩

/-- `num / den` rounded to the nearest natural number, a tie going to the even one. -/
def roundHalfEven (num den : Nat) : Nat :=
  let q := num / den
  let r := num % den
  if 2 * r < den then q
  else if den < 2 * r then q + 1
  else if q % 2 == 0 then q else q + 1

/-- The exact value times `10^p`, rounded half to even. -/
def Exact.scaled (x : Exact) (p : Nat) : Nat :=
  match x.exponent with
  | .ofNat k => x.mantissa * Nat.pow 2 k * Nat.pow 10 p
  | .negSucc k => roundHalfEven (x.mantissa * Nat.pow 10 p) (Nat.pow 2 (k + 1))

/-- Whether the exact value is a whole number. -/
def Exact.isWhole (x : Exact) : Bool :=
  match x.exponent with
  | .ofNat _ => true
  | .negSucc k => x.mantissa % Nat.pow 2 (k + 1) == 0

/-- `n` written with `p` digits after the point (no point when `p` is zero). -/
def pointed (n p : Nat) : String :=
  if p = 0 then toString n
  else
    let frac := toString (n % Nat.pow 10 p)
    toString (n / Nat.pow 10 p) ++ "." ++ String.ofList (List.replicate (p - frac.length) '0') ++ frac

/-- A finite float written with `p` decimals. -/
def Exact.fixed (x : Exact) (p : Nat) : String :=
  (if x.negative then "-" else "") ++ pointed (x.scaled p) p

theorem roundHalfEven_exact (n d : Nat) (hd : 0 < d) : roundHalfEven (n * d) d = n := by
  simp [roundHalfEven, Nat.mul_div_cancel _ hd, Nat.mul_mod_left, hd]

theorem pointed_zero (n : Nat) : pointed n 0 = toString n := rfl

end SpaceTeamSite.Number
