import DispatchAudit.Decimal.Binary64

/-!
# The shortest decimal text of a binary number

The reals that round to a binary number form an interval, whose ends belong to it if the mantissa
is even. For one digit, two digits and so on, the two decimals next to the number are compared
with that interval, and the first number of digits with a decimal in it is the shortest. Of two
such decimals the nearer one is taken.
-/

namespace DispatchAudit.Decimal

/-- The number `digits * 10 ^ exponent`. -/
structure Numeral where
  digits : Nat
  exponent : Int
deriving DecidableEq, Repr, Inhabited

/-- A binary number and its interval, in quarters of the last bit, over a grid of decimals: a
quarter is `quarter` and a step of the grid is `step`, both in the same unit. -/
structure Grid where
  low : Nat
  value : Nat
  high : Nat
  closed : Bool
  quarter : Nat
  step : Nat

namespace Grid

/-- Whether a decimal of the grid rounds to the number. -/
def holds (grid : Grid) (digits : Nat) : Bool :=
  let point := digits * grid.step
  let low := grid.low * grid.quarter
  let high := grid.high * grid.quarter
  if grid.closed then Nat.ble low point && Nat.ble point high
  else Nat.blt low point && Nat.blt point high

/-- The decimal of the grid that rounds to the number and is nearest to it, if there is one. -/
def nearest? (grid : Grid) : Option Nat :=
  let value := grid.value * grid.quarter
  let below := value / grid.step
  let above := below + 1
  if grid.holds below then
    if grid.holds above then
      let down := value - below * grid.step
      let up := above * grid.step - value
      if up < down || (up = down && above % 2 = 0) then some above else some below
    else some below
  else if grid.holds above then some above
  else none

end Grid

namespace Binary64

/-- The grid of the multiples of a power of ten over the number. -/
def grid (number : Binary64) (power : Int) : Grid :=
  let quarter := Ratio.scaled ⟨1, 1⟩ (number.exponent - 2)
  let step : Ratio :=
    if 0 ≤ power then ⟨Nat.pow 10 power.toNat, 1⟩ else ⟨1, Nat.pow 10 (-power).toNat⟩
  let narrow := number.mantissa = Nat.pow 2 52 && minExponent < number.exponent
  { low := 4 * number.mantissa - (if narrow then 1 else 2)
    value := 4 * number.mantissa
    high := 4 * number.mantissa + 2
    closed := number.mantissa % 2 = 0
    quarter := quarter.num * step.den
    step := step.num * quarter.den }

def digitCount (n : Nat) : Nat := (Nat.toDigits 10 n).length

/-- The exponent of the first digit of a number that is not zero. -/
def leadingExponent (number : Binary64) : Int :=
  let ratio := number.toRatio
  let whole := ratio.num / ratio.den
  if 0 < whole then (digitCount whole : Int) - 1
  else
    match (List.range 400).find? fun power => ratio.den ≤ ratio.num * Nat.pow 10 power with
    | some power => -(power : Int)
    | none => -400

def stripZeros (fuel : Nat) (decimal : Numeral) : Numeral :=
  match fuel with
  | 0 => decimal
  | fuel + 1 =>
    if decimal.digits % 10 = 0 && decimal.digits != 0 then
      stripZeros fuel ⟨decimal.digits / 10, decimal.exponent + 1⟩
    else decimal

/-- The shortest decimal that rounds to a number that is not zero. -/
def shortest (number : Binary64) : Numeral :=
  let leading := number.leadingExponent
  let found := (List.range 17).findSome? fun (fewer : Nat) =>
    let power := leading - (fewer : Int)
    (number.grid power).nearest?.map fun digits => (⟨digits, power⟩ : Numeral)
  match found with
  | some decimal => stripZeros (digitCount decimal.digits) decimal
  | none => ⟨0, 0⟩

end Binary64

/-- The exponents of the first digit for which a number is written without an exponent. -/
def plainExponents : Int × Int := (-5, 15)

/-- The text of a decimal. Without an exponent it has a point and a digit on either side of it. -/
def Numeral.text (decimal : Numeral) : List Char :=
  let digits := Nat.toDigits 10 decimal.digits
  let leading : Int := decimal.exponent + digits.length - 1
  if plainExponents.1 ≤ leading && leading ≤ plainExponents.2 then
    if leading < 0 then
      '0' :: '.' :: List.replicate ((-leading).toNat - 1) '0' ++ digits
    else
      let whole := leading.toNat + 1
      if digits.length ≤ whole then
        digits ++ List.replicate (whole - digits.length) '0' ++ ['.', '0']
      else digits.take whole ++ '.' :: digits.drop whole
  else
    let fraction := if digits.length = 1 then [] else '.' :: digits.drop 1
    digits.take 1 ++ fraction ++
      'e' :: (if leading < 0 then '-' else '+') :: Nat.toDigits 10 leading.natAbs

def Binary64.text (number : Binary64) (negative : Bool) : String :=
  let digits := if number.isZero then ['0', '.', '0'] else number.shortest.text
  String.ofList (if negative then '-' :: digits else digits)

end DispatchAudit.Decimal
