/-!
# Decimals and the exact value of a float

A finite float is `± significand * 2^exponent` (`Binary`); a decimal is `digits * 10^exponent`
(`Decimal`). Everything that must be exact (which decimals read back as a float, whether a size is a
multiple of four, which way a half goes) is decided on these by natural-number arithmetic.
-/

namespace SceneMarkup

/-- The decimal `digits * 10^exponent`. -/
structure Decimal where
  digits : Nat
  exponent : Int
  deriving DecidableEq, Repr

/-- A finite float as `± significand * 2^exponent`; zero keeps its sign. -/
structure Binary where
  negative : Bool
  significand : Nat
  exponent : Int
  deriving DecidableEq, Repr

namespace Binary

/-- The exponent of the least positive float, and of every subnormal one. -/
def leastExponent : Int := -1074

/-- The value of a float; `none` for NaN and the infinities. -/
def ofFloat? (x : Float) : Option Binary :=
  let bits : Nat := x.toBits.toNat
  let negative := bits / Nat.pow 2 63 == 1
  let biased : Nat := bits / Nat.pow 2 52 % Nat.pow 2 11
  let fraction : Nat := bits % Nat.pow 2 52
  if biased = 2047 then none
  else if biased = 0 then some ⟨negative, fraction, leastExponent⟩
  else some ⟨negative, Nat.pow 2 52 + fraction, (biased : Int) - 1075⟩

def numerator (x : Binary) : Nat := x.significand * Nat.pow 2 x.exponent.toNat

def denominator (x : Binary) : Nat := Nat.pow 2 (-x.exponent).toNat

def isZero (x : Binary) : Bool := x.significand == 0

def value (x : Binary) : Rat :=
  if x.negative then -mkRat x.numerator x.denominator else mkRat x.numerator x.denominator

def wholeQuotient? (x : Binary) (d : Nat) : Option Nat :=
  if x.numerator % (x.denominator * d) = 0 then some (x.numerator / (x.denominator * d)) else none

/-- The magnitude rounded to a whole number, a half going up. -/
def roundHalfUp (x : Binary) : Nat :=
  (2 * x.numerator + x.denominator) / (2 * x.denominator)

/-- Just above a power of two the gap below the float is half the gap above it. -/
def hasNarrowGap (x : Binary) : Bool :=
  x.significand == Nat.pow 2 52 && decide (leastExponent < x.exponent)

end Binary

end SceneMarkup
