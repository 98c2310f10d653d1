/-
Binary floating-point numbers of 64 bits, as values.

A finite number is `mantissa * 2 ^ exponent` with a mantissa below `2 ^ 53` and
an exponent from -1074 to 971; the two infinities and the number that is none
complete the type.  A decimal is read to the nearest of these values, and of
two equally near ones to the one with an even mantissa.
-/

namespace MfmRender

inductive Binary64 where
  | finite (negative : Bool) (mantissa : Nat) (exponent : Int)
  | infinite (negative : Bool)
  | notANumber
  deriving Repr, DecidableEq

namespace Binary64

/-- The quotient to the nearest whole number, a half to the even neighbour. -/
def roundDiv (num den : Nat) : Nat :=
  let q := num / den
  let r := num % den
  if 2 * r < den then q
  else if den < 2 * r then q + 1
  else if q % 2 == 0 then q else q + 1

/-- `num / den * 2 ^ (-shift)` to the nearest whole number. -/
def roundScaled (num den : Nat) (shift : Int) : Nat :=
  if 0 ≤ shift then roundDiv num (den * Nat.pow 2 shift.toNat)
  else roundDiv (num * Nat.pow 2 (-shift).toNat) den

/-- The value nearest to a positive ratio. -/
def ofRatio (negative : Bool) (num den : Nat) : Binary64 :=
  let guess : Int := (num.log2 : Int) - den.log2 - 53
  -- the scale at which the mantissa has 53 bits is the guess or the next one
  let scale := if Nat.pow 2 53 ≤ roundScaled num den guess then guess + 1 else guess
  let scale := max scale (-1074)
  let m := roundScaled num den scale
  let (m, scale) := if m = Nat.pow 2 53 then (Nat.pow 2 52, scale + 1) else (m, scale)
  if 971 < scale then infinite negative else finite negative m scale

/-- The value nearest to `digits * 10 ^ exponent`. -/
def ofDecimal (negative : Bool) (digits : Nat) (exponent : Int) : Binary64 :=
  if digits = 0 then finite negative 0 (-1074)
  else
    -- the decimal lies between 10 ^ (magnitude - 1) and 10 ^ magnitude
    let magnitude : Int := (Nat.toDigits 10 digits).length + exponent
    if 400 < magnitude then infinite negative
    else if magnitude < -400 then finite negative 0 (-1074)
    else if 0 ≤ exponent then ofRatio negative (digits * Nat.pow 10 exponent.toNat) 1
    else ofRatio negative digits (Nat.pow 10 (-exponent).toNat)

/-- The whole number that the value is, if it is one. -/
def toInt? : Binary64 → Option Int
  | finite negative m e =>
    let sign : Int := if negative then -1 else 1
    if 0 ≤ e then some (sign * (m * Nat.pow 2 e.toNat : Nat))
    else
      let unit := Nat.pow 2 (-e).toNat
      if m % unit = 0 then some (sign * (m / unit : Nat)) else none
  | _ => none

/-- Neither infinite nor without a value. -/
def isFinite : Binary64 → Bool
  | finite .. => true
  | _ => false

end Binary64

end MfmRender
