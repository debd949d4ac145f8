import SceneMarkup.Decimal.Numeral
import SceneMarkup.Json.Error

/-!
# JSON numbers

A number without point and exponent is an integer if it fits into 64 bits, unsigned or with a minus
sign signed. Every other number is a float. Its digits are collected as long as they fit into 64
unsigned bits (`gather`) and then scaled by one power of ten (`scale`), so it is close to the written
decimal but not always nearest to it.
-/

namespace SceneMarkup.Json

/-- The parts of a number as it is written. -/
structure NumberText where
  negative : Bool
  whole : List Char
  fraction : List Char
  /-- the sign and the digits of the exponent -/
  exponent : Option (Bool × List Char)
  deriving DecidableEq, Repr

/-- How scanning a number ends: with a number, at the end of the text, or at a character that cannot
come next. -/
inductive NumberScan where
  | number (text : NumberText) (after : Cursor)
  | endOfText (position : Position)
  | bad (position : Position)

def Cursor.digits (c : Cursor) : List Char × Cursor :=
  let ds := c.rest.takeWhile Char.isDigit
  (ds, ⟨c.position.pastAll ds, c.rest.dropWhile Char.isDigit⟩)

/-- At least one digit, else where the scan stops. -/
def Cursor.someDigits (c : Cursor) (go : List Char → Cursor → NumberScan) : NumberScan :=
  match c.digits with
  | ([], ⟨p, []⟩) => .endOfText p
  | ([], ⟨p, d :: _⟩) => .bad (p.onto d)
  | (ds, after) => go ds after

namespace NumberScan

def exponent (negative : Bool) (whole fraction : List Char) (c : Cursor) : NumberScan :=
  match c.rest with
  | [] => .number ⟨negative, whole, fraction, none⟩ c
  | e :: rest =>
    if e == 'e' || e == 'E' then
      let (below, rest') := Numeral.splitSign rest
      let signed := rest'.length < rest.length
      let p := if signed then c.position.next.next else c.position.next
      Cursor.someDigits ⟨p, rest'⟩ fun ds after =>
        .number ⟨negative, whole, fraction, some (below, ds)⟩ after
    else .number ⟨negative, whole, fraction, none⟩ c

def fraction (negative : Bool) (whole : List Char) (c : Cursor) : NumberScan :=
  match c.rest with
  | '.' :: rest => Cursor.someDigits ⟨c.position.next, rest⟩ fun ds after =>
      exponent negative whole ds after
  | _ => exponent negative whole [] c

/-- The digits before a point; no digit may follow a leading zero. -/
def whole (negative : Bool) (c : Cursor) : NumberScan :=
  match c.rest with
  | '0' :: rest =>
    match rest with
    | d :: _ => if d.isDigit then .bad c.position.next.next
      else fraction negative ['0'] ⟨c.position.next, rest⟩
    | [] => fraction negative ['0'] ⟨c.position.next, rest⟩
  | _ => c.someDigits (fraction negative)

end NumberScan

/-- Scans the number that begins at the cursor. -/
def scanNumber (c : Cursor) : NumberScan :=
  match c.rest with
  | '-' :: rest => NumberScan.whole true ⟨c.position.next, rest⟩
  | _ => NumberScan.whole false c

def maxSignificand : Nat := UInt64.size - 1

/-- Appends digits to a significand until it would grow too large; the digits left over. -/
def gather : Nat → List Char → Nat × List Char
  | n, [] => (n, [])
  | n, d :: rest =>
    let n' := 10 * n + (d.toNat - '0'.toNat)
    if maxSignificand < n' then (n, d :: rest) else gather n' rest

def maxPower : Nat := 308

def tenTo (n : Nat) : Float := Float.ofScientific 1 false n

/-- Scales by a power of ten with one multiplication or division. A power too small for a float is
taken in steps; after two of them every significand has become zero. -/
def scale : Nat → Float → Int → Option Float
  | steps, x, e =>
    if e.natAbs ≤ maxPower then
      if 0 ≤ e then
        let y := x * tenTo e.natAbs
        if y.isInf then none else some y
      else some (x / tenTo e.natAbs)
    else if x == 0 then some x
    else if 0 ≤ e then none
    else match steps with
      | 0 => some 0
      | n + 1 => scale n (x / tenTo maxPower) (e + maxPower)

def maxExponent : Nat := 2147483647

/-- The value of exponent digits, or the digits that follow the one that makes it too large. -/
def exponentValue (digits : List Char) : Except (List Char) Nat :=
  go 0 digits
where
  go : Nat → List Char → Except (List Char) Nat
    | n, [] => .ok n
    | n, d :: rest =>
      let n' := 10 * n + (d.toNat - '0'.toNat)
      if maxExponent < n' then .error rest else go n' rest

namespace NumberText

/-- The integer that is written, if it fits. Minus zero is no integer. -/
def integer? (t : NumberText) : Option Int :=
  let n := Decimal.ofDigits t.whole
  if !t.fraction.isEmpty || t.exponent.isSome then none
  else if t.negative then if 0 < n && n ≤ 9223372036854775808 then some (-n) else none
  else if n ≤ maxSignificand then some n else none

/-- The float that is written, or, if it is out of range, how many digits are still to come when that
is known. -/
def float (t : NumberText) : Except Nat Float :=
  let (significand, dropped) := gather 0 t.whole
  let (significand, ignored) := gather significand t.fraction
  let shift : Int := (dropped.length : Int) - (t.fraction.length - ignored.length : Nat)
  let signed (x : Float) : Float := if t.negative then -x else x
  let scaled (e : Int) : Except Nat Float :=
    match scale 3 (Float.ofNat significand) e with
    | some x => .ok (signed x)
    | none => .error 0
  match t.exponent with
  | none => scaled shift
  | some (below, digits) =>
    match exponentValue digits with
    | .ok e => scaled (if below then shift - e else shift + e)
    | .error rest => if below || significand = 0 then .ok (signed 0) else .error rest.length

def value (t : NumberText) (stop : Position) : Except Error Value :=
  match t.integer? with
  | some n => .ok (.integer n)
  | none =>
    match t.float with
    | .ok x => .ok (.float x)
    | .error n => .error (.broken .numberOutOfRange (stop.back n))

end NumberText

end SceneMarkup.Json
