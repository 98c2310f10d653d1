/-
The shortest decimal of a floating-point number.

Among the decimals that read back as the same value, the one with the fewest
digits is taken, and among those the nearest.  With `n` digits only the two
neighbours of the value on the grid of `n`-digit decimals need to be looked at:
if any point of that grid reads back, so does one of them.
-/
import MfmRender.Number.Binary64

namespace MfmRender.Binary64

/-- A positive ratio of whole numbers. -/
structure Ratio where
  num : Nat
  den : Nat

namespace Ratio

/-- `n * base ^ e`. -/
def scaled (n base : Nat) (e : Int) : Ratio :=
  if 0 ≤ e then ⟨n * Nat.pow base e.toNat, 1⟩ else ⟨n, Nat.pow base (-e).toNat⟩

def lt (a b : Ratio) : Bool := a.num * b.den < b.num * a.den

def le (a b : Ratio) : Bool := a.num * b.den ≤ b.num * a.den

end Ratio

/-- `x` reads back as the value `m * 2 ^ e`: it lies between the midpoints to the two
neighbours, which themselves read back when the mantissa is even. -/
def readsBack (m : Nat) (e : Int) (x : Ratio) : Bool :=
  let below := if m = Nat.pow 2 52 ∧ -1074 < e then 1 else 2
  let lo := Ratio.scaled (4 * m - below) 2 (e - 2)
  let hi := Ratio.scaled (4 * m + 2) 2 (e - 2)
  if m % 2 = 0 then lo.le x && x.le hi else lo.lt x && x.lt hi

/-- The decimal exponent of the first digit of a positive ratio between `10 ^ -400` and
`10 ^ 400`. -/
def leadingExponent (x : Ratio) : Int :=
  (Nat.toDigits 10 (x.num * Nat.pow 10 400 / x.den)).length - 401

/-- The neighbour of the value on the grid of multiples of `10 ^ unit` that reads back, the
nearer one if both do. -/
def onGrid? (m : Nat) (e unit : Int) : Option Nat :=
  let x := Ratio.scaled m 2 e
  let step := Ratio.scaled 1 10 unit
  let num := x.num * step.den
  let den := x.den * step.num
  let low := num / den
  let lowOk := readsBack m e (Ratio.scaled low 10 unit)
  let highOk := readsBack m e (Ratio.scaled (low + 1) 10 unit)
  match lowOk, highOk with
  | true, true => some (roundDiv num den)
  | true, false => some low
  | false, true => some (low + 1)
  | false, false => none

/-- Drop the zeros at the end of a decimal, raising its exponent for each. -/
def dropZeros (digits : List Char) (unit : Int) : List Char × Int :=
  let zeros := (digits.reverse.takeWhile (· == '0')).length
  (digits.take (digits.length - zeros), unit + zeros)

/-- The digits of the shortest decimal of `m * 2 ^ e`, and the exponent of the last of them. -/
def shortestDigits (m : Nat) (e : Int) : List Char × Int :=
  let first := leadingExponent (Ratio.scaled m 2 e)
  match (List.range 17).findSome? fun (n : Nat) =>
      let unit := first - (n : Int)
      (onGrid? m e unit).map fun d => (d, unit) with
  | some (d, unit) => dropZeros (Nat.toDigits 10 d) unit
  | none => (Nat.toDigits 10 m, e)

/-- How a decimal is laid out: values with a first digit between `10 ^ lowest` and
`10 ^ highest` are written in full with at least one place, all others with an exponent of at
least two digits. -/
structure DecimalLayout where
  lowest : Int
  highest : Int

/-- Values from a ten-thousandth to below ten quadrillion are written in full. -/
def layout : DecimalLayout := ⟨-4, 15⟩

/-- A decimal with the given digits whose last digit has the exponent `unit`. -/
def layOut (f : DecimalLayout) (digits : List Char) (unit : Int) : List Char :=
  let first : Int := unit + digits.length - 1
  if first < f.lowest ∨ f.highest < first then
    let fraction := match digits.drop 1 with
      | [] => []
      | rest => '.' :: rest
    let size := (Nat.toDigits 10 first.natAbs)
    let size := if size.length < 2 then '0' :: size else size
    digits.take 1 ++ fraction ++ ['e', if first < 0 then '-' else '+'] ++ size
  else if first < 0 then
    ['0', '.'] ++ List.replicate (-first - 1).toNat '0' ++ digits
  else
    let whole := (first + 1).toNat
    if digits.length ≤ whole then
      digits ++ List.replicate (whole - digits.length) '0' ++ ['.', '0']
    else digits.take whole ++ '.' :: digits.drop whole

/-- The shortest text of a number; `names` are the words for the infinite and the missing value. -/
def text (infinity nan : String) : Binary64 → String
  | notANumber => nan
  | infinite negative => if negative then "-" ++ infinity else infinity
  | finite negative m e =>
    let body := if m = 0 then ['0', '.', '0'] else
      let (digits, unit) := shortestDigits m e
      layOut layout digits unit
    String.ofList (if negative then '-' :: body else body)

end MfmRender.Binary64
