import SceneMarkup.Decimal.Basic

/-!
# The shortest decimal of a float

The reals that round to a float form an interval around it. On the grids of 1, 2, … 17 digits the
float has two neighbours each; the first grid with a neighbour in the interval is the shortest, and
of two such neighbours the nearer is taken (`Binary.shortest`). A tie is settled by the `Tie` that
the writer of the text chooses.
-/

namespace SceneMarkup

/-- Which of two equally close decimals of one length is written. -/
inductive Tie where
  | up
  | even
  deriving DecidableEq, Repr

namespace Binary

/-- Whether `digits * 10^k` lies among the reals that round to `x`. The interval reaches half a gap
to each side and holds its ends exactly when the significand is even. -/
def readsBack (x : Binary) (k : Int) (digits : Nat) : Bool :=
  let unit := Nat.pow 2 x.exponent.toNat * Nat.pow 10 (-k).toNat
  let low := (if x.hasNarrowGap then 4 * x.significand - 1 else 4 * x.significand - 2) * unit
  let high := (4 * x.significand + 2) * unit
  let point := 4 * digits * (Nat.pow 2 (-x.exponent).toNat * Nat.pow 10 k.toNat)
  if x.significand % 2 = 0 then low ≤ point && point ≤ high else low < point && point < high

/-- The number of digits before the decimal point, negative for zeros after it:
`10^(n - 1) ≤ x < 10^n`. Shifted by 324 places even the least positive float has a whole part. -/
def magnitude (x : Binary) : Int :=
  ((x.numerator * Nat.pow 10 324 / x.denominator).repr.length : Int) - 324

def nearer (tie : Tie) (num den below : Nat) : Nat :=
  match compare (2 * num) ((2 * below + 1) * den) with
  | .lt => below
  | .gt => below + 1
  | .eq => if tie = .even ∧ below % 2 = 0 then below else below + 1

/-- The neighbour of `x` on the grid `10^k` that reads back, the nearer one if both do. -/
def onGrid? (tie : Tie) (x : Binary) (k : Int) : Option Decimal :=
  let num := x.numerator * Nat.pow 10 (-k).toNat
  let den := x.denominator * Nat.pow 10 k.toNat
  let below := num / den
  match x.readsBack k below, x.readsBack k (below + 1) with
  | false, false => none
  | true, false => some ⟨below, k⟩
  | false, true => some ⟨below + 1, k⟩
  | true, true => some ⟨nearer tie num den below, k⟩

def exactDecimal (x : Binary) : Decimal :=
  ⟨x.significand * Nat.pow 2 x.exponent.toNat * Nat.pow 5 (-x.exponent).toNat, -((-x.exponent).toNat : Int)⟩

/-- The shortest decimal that reads back as the magnitude of `x`. -/
def shortest (tie : Tie) (x : Binary) : Decimal :=
  let lead := x.magnitude
  ((List.range 17).findSome? fun n => x.onGrid? tie (lead - (n + 1 : Nat))).getD x.exactDecimal

end Binary

def Decimal.dropZeros : Nat → Decimal → Decimal
  | 0, d => d
  | n + 1, d => if d.digits % 10 = 0 then dropZeros n ⟨d.digits / 10, d.exponent + 1⟩ else d

end SceneMarkup
