import SceneMarkup.Decimal.Shortest

/-!
# The text of a float

A `Layout` holds the decisions that two texts of the same shortest decimal can differ in. Sizes are
always written positionally (`Layout.positional`); JSON numbers switch to scientific notation at both
ends and keep a point (`Layout.json`).
-/

namespace SceneMarkup

/-- How the shortest decimal of a float is laid out. -/
structure Layout where
  tie : Tie
  /-- Whether a leading digit of weight `10^e` is written positionally. -/
  isPlain : Int → Bool
  pointZero : Bool

/-- Sizes have no exponent and no needless point; of two equally close decimals the upper is written. -/
def Layout.positional : Layout where
  tie := .up
  isPlain _ := true
  pointZero := false

/-- JSON numbers are positional from `10^-5` up to below `10^16`, always show a point or an exponent,
and an equally close decimal goes to the even digit. -/
def Layout.json : Layout where
  tie := .even
  isPlain e := -5 ≤ e && e ≤ 15
  pointZero := true

namespace Decimal

/-- Digits, and as many zeros before or after them as the exponent asks for. -/
def plainText (pointZero : Bool) (d : Decimal) : String :=
  let digits := d.digits.repr.toList
  if 0 ≤ d.exponent then
    String.ofList (digits ++ List.replicate d.exponent.toNat '0') ++ if pointZero then ".0" else ""
  else
    let places := (-d.exponent).toNat
    let padded := List.replicate (places + 1 - digits.length) '0' ++ digits
    String.ofList (padded.take (padded.length - places)) ++ "." ++
      String.ofList (padded.drop (padded.length - places))

def leadExponent (d : Decimal) : Int := (d.digits.repr.length : Int) - 1 + d.exponent

def scientificText (d : Decimal) : String :=
  let e := d.leadExponent
  let mantissa := match d.digits.repr.toList with
    | [] => ""
    | [c] => c.toString
    | c :: rest => c.toString ++ "." ++ String.ofList rest
  mantissa ++ "e" ++ (if e < 0 then "-" else "+") ++ e.natAbs.repr

def text (layout : Layout) (d : Decimal) : String :=
  if layout.isPlain d.leadExponent then d.plainText layout.pointZero else d.scientificText

end Decimal

namespace Layout

/-- The text of a float: a sign (also of zero), then its shortest decimal. -/
def text (layout : Layout) (x : Float) : String :=
  match Binary.ofFloat? x with
  | some b =>
    let decimal := if b.isZero then ⟨0, 0⟩ else (b.shortest layout.tie).dropZeros 20
    (if b.negative then "-" else "") ++ decimal.text layout
  | none => if x.isNaN then "NaN" else if x < 0 then "-inf" else "inf"

end Layout

end SceneMarkup
