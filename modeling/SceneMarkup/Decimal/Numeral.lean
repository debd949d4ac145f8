import SceneMarkup.Decimal.Basic

/-!
# Reading a float from text

A numeral is a sign, digits around an optional point, and an optional exponent. Digits may be missing
on one side of the point but not on both; nothing else may stand before, between or after. The words
`inf`, `infinity` and `nan` are read as well, in any case (`Float.ofText?`).
-/

namespace SceneMarkup

def Decimal.ofDigits (digits : List Char) : Nat :=
  digits.foldl (fun n c => 10 * n + (c.toNat - '0'.toNat)) 0

/-- The parts of a written number, each a list of digits. -/
structure Numeral where
  negative : Bool
  whole : List Char
  fraction : List Char
  exponent : Int
  deriving DecidableEq, Repr

namespace Numeral

/-- The sign in front of a text, if any, and what follows. -/
def splitSign : List Char → Bool × List Char
  | '-' :: rest => (true, rest)
  | '+' :: rest => (false, rest)
  | rest => (false, rest)

/-- The digits of an exponent as a number; those after it has reached `65536`, which is far out of
range, are not counted. -/
def exponentOfDigits (digits : List Char) : Nat :=
  digits.foldl (fun n c => if n < 65536 then 10 * n + (c.toNat - '0'.toNat) else n) 0

/-- A signed exponent with at least one digit, and nothing after it. -/
def exponent? (text : List Char) : Option Int :=
  let (negative, digits) := splitSign text
  if digits.isEmpty || !digits.all Char.isDigit then none
  else
    let n : Int := exponentOfDigits digits
    some (if negative then -n else n)

def ofUnsigned? (negative : Bool) (text : List Char) : Option Numeral :=
  let whole := text.takeWhile Char.isDigit
  let afterWhole := text.dropWhile Char.isDigit
  let (fraction, rest) := match afterWhole with
    | '.' :: tail => (tail.takeWhile Char.isDigit, tail.dropWhile Char.isDigit)
    | _ => ([], afterWhole)
  if whole.isEmpty && fraction.isEmpty then none
  else match rest with
    | [] => some ⟨negative, whole, fraction, 0⟩
    | c :: tail =>
      if c == 'e' || c == 'E' then (exponent? tail).map (⟨negative, whole, fraction, ·⟩) else none

def ofText? (text : List Char) : Option Numeral :=
  let (negative, rest) := splitSign text
  ofUnsigned? negative rest

def decimal (n : Numeral) : Decimal :=
  ⟨Decimal.ofDigits (n.whole ++ n.fraction), n.exponent - n.fraction.length⟩

end Numeral

/-- The float nearest to a decimal. Decimals far outside the range of floats are recognised by the
weight of their leading digit, so that no huge power is computed. -/
def Decimal.toFloat (d : Decimal) : Float :=
  let lead : Int := (d.digits.repr.length : Int) + d.exponent
  if d.digits = 0 || lead < -330 then 0
  else if 310 < lead then 1 / 0
  else Float.ofScientific d.digits (d.exponent < 0) d.exponent.natAbs

def Numeral.toFloat (n : Numeral) : Float :=
  if n.negative then -n.decimal.toFloat else n.decimal.toFloat

/-- The float that a text stands for, if it is a numeral or one of the three words. -/
def floatOfText? (text : List Char) : Option Float :=
  let (negative, rest) := Numeral.splitSign text
  let signed (x : Float) := if negative then -x else x
  let word := String.ofList (rest.map Char.toLower)
  if word == "inf" || word == "infinity" then some (signed (1 / 0))
  else if word == "nan" then some (0 / 0)
  else (Numeral.ofUnsigned? negative rest).map Numeral.toFloat

end SceneMarkup
