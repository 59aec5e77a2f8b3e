/-!
# Binary floating point

A number of 53 significant bits is kept as a mantissa and a power of two, and every operation is
exact arithmetic on natural numbers that is rounded once, to the nearest number and to the even
one of two. Numbers are not negative here: the sign of a text is kept beside them.
-/

namespace DispatchAudit.Decimal

/-- The number `mantissa * 2 ^ exponent`. -/
structure Binary64 where
  mantissa : Nat
  exponent : Int
deriving DecidableEq, Repr, Inhabited

structure Ratio where
  num : Nat
  den : Nat
deriving DecidableEq, Repr, Inhabited

namespace Ratio

def scaled (ratio : Ratio) (exponent : Int) : Ratio :=
  if 0 ≤ exponent then ⟨ratio.num * Nat.pow 2 exponent.toNat, ratio.den⟩
  else ⟨ratio.num, ratio.den * Nat.pow 2 (-exponent).toNat⟩

/-- The nearest natural number, and the even one of two. -/
def nearest (ratio : Ratio) : Nat :=
  let whole := ratio.num / ratio.den
  let twice := 2 * (ratio.num % ratio.den)
  if twice < ratio.den then whole
  else if ratio.den < twice then whole + 1
  else whole + whole % 2

end Ratio

namespace Binary64

def minExponent : Int := -1074

def maxExponent : Int := 971

def zero : Binary64 := ⟨0, minExponent⟩

def isZero (number : Binary64) : Bool := number.mantissa == 0

def toRatio (number : Binary64) : Ratio := Ratio.scaled ⟨number.mantissa, 1⟩ number.exponent

/-- The number of 53 bits nearest to a fraction, unless the fraction is too great. -/
def ofRatio? (ratio : Ratio) : Option Binary64 :=
  if ratio.num = 0 then some zero
  else
    let guess : Int := (ratio.num.log2 : Int) - (ratio.den.log2 : Int) - 52
    let scaled := ratio.scaled (-guess)
    let fitted := if scaled.num / scaled.den < Nat.pow 2 52 then guess - 1 else guess
    let exponent := max fitted minExponent
    let mantissa := (ratio.scaled (-exponent)).nearest
    let number : Binary64 :=
      if mantissa = Nat.pow 2 53 then ⟨Nat.pow 2 52, exponent + 1⟩ else ⟨mantissa, exponent⟩
    if maxExponent < number.exponent then none else some number

/-- The number nearest to a power of ten. -/
def powerOfTen? (power : Nat) : Option Binary64 := ofRatio? ⟨Nat.pow 10 power, 1⟩

def mul? (left right : Binary64) : Option Binary64 :=
  let l := left.toRatio
  let r := right.toRatio
  ofRatio? ⟨l.num * r.num, l.den * r.den⟩

def div? (left right : Binary64) : Option Binary64 :=
  let l := left.toRatio
  let r := right.toRatio
  ofRatio? ⟨l.num * r.den, l.den * r.num⟩

end Binary64

end DispatchAudit.Decimal
