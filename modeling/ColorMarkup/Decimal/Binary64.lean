/-!
Double-precision numbers as exact values: a finite one is `± significand · 2 ^ exponent`. A decimal
numeral is rounded to the nearest of them, a half to the even significand.
-/

namespace ColorMarkup.Decimal

inductive Binary64 where
  | nan
  | infinite (negative : Bool)
  | finite (negative : Bool) (significand : Nat) (exponent : Int)
deriving DecidableEq

namespace Binary64

def minExponent : Int := -1074

def maxExponent : Int := 971

/-- A quotient rounded to the nearest integer, a half to the even one. -/
def roundQuotient (numerator denominator : Nat) : Nat :=
  let floor := numerator / denominator
  let twice := 2 * (numerator % denominator)
  if twice < denominator then floor
  else if denominator < twice then floor + 1
  else if floor % 2 = 0 then floor else floor + 1

def roundScaled (numerator denominator : Nat) (exponent : Int) : Nat :=
  if 0 ≤ exponent then roundQuotient numerator (denominator * Nat.pow 2 exponent.toNat)
  else roundQuotient (numerator * Nat.pow 2 (-exponent).toNat) denominator

def ofQuotient (negative : Bool) (numerator denominator : Nat) : Binary64 :=
  let guess : Int := (numerator.log2 : Int) - (denominator.log2 : Int) - 52
  let short : Bool :=
    if 0 ≤ guess then numerator < Nat.pow 2 52 * (denominator * Nat.pow 2 guess.toNat)
    else numerator * Nat.pow 2 (-guess).toNat < Nat.pow 2 52 * denominator
  let exponent := max (if short then guess - 1 else guess) minExponent
  let significand := roundScaled numerator denominator exponent
  if significand = Nat.pow 2 53 then
    if maxExponent ≤ exponent then infinite negative
    else finite negative (Nat.pow 2 52) (exponent + 1)
  else if maxExponent < exponent then infinite negative
  else finite negative significand exponent

/-- The double nearest to `digits · 10 ^ scale`. Scales so large or small that every rounding
gives infinity or zero are settled without computing the power. -/
def ofDecimal (negative : Bool) (digits : Nat) (scale : Int) : Binary64 :=
  if digits = 0 then finite negative 0 minExponent
  else
    let magnitude : Int := scale + (digits.log2 * 3 / 10 : Nat)
    if 400 < magnitude then infinite negative
    else if magnitude + (digits.log2 / 20 : Nat) < -400 then finite negative 0 minExponent
    else if 0 ≤ scale then ofQuotient negative (digits * Nat.pow 10 scale.toNat) 1
    else ofQuotient negative digits (Nat.pow 10 (-scale).toNat)

end Binary64

end ColorMarkup.Decimal
