import Sigil.Binary64.Basic

/-!
The fewest decimal digits that name a number. Every real number in an interval around a finite
number rounds to it; of the decimals with one digit, then two, and so on, the first that lie in the
interval name it, the nearer of two, and an exact tie goes as the writer of the number says.
-/

namespace Sigil

/-- A positive decimal: the digits stand after the point of `0.d₁d₂…`, which is then moved `point`
places to the right. The first and the last digit are not zero. -/
structure Decimal where
  digits : List Char
  point : Int
  deriving DecidableEq, Repr

inductive Tie where
  | toEven
  | up
  deriving DecidableEq, Repr

namespace Binary64

def digitCount (n : Nat) : Nat := (Nat.toDigits 10 n).length

def leadingExponent (num den : Nat) : Int :=
  if den ≤ num then (digitCount (num / den) : Int) - 1
  else -(digitCount ((den - 1) / num) : Int)

structure Rounding where
  low : Nat
  value : Nat
  high : Nat
  den : Nat
  closed : Bool

def Finite.rounding (x : Finite) : Rounding where
  -- the step below a power of two is half the step above it
  low := (4 * x.mantissa - if x.mantissa = 1 <<< 52 ∧ x.scale ≠ 0 then 1 else 2) <<< x.scale
  value := (4 * x.mantissa) <<< x.scale
  high := (4 * x.mantissa + 2) <<< x.scale
  den := 4 <<< unitScale
  closed := x.mantissa % 2 == 0

namespace Rounding

def inSteps (r : Rounding) (e : Int) : Rounding :=
  let up := Nat.pow 10 (-e).toNat
  let down := Nat.pow 10 e.toNat
  { r with low := r.low * up, value := r.value * up, high := r.high * up, den := r.den * down }

def holds (r : Rounding) (n : Nat) : Bool :=
  if r.closed then decide (r.low ≤ n * r.den) && decide (n * r.den ≤ r.high)
  else decide (r.low < n * r.den) && decide (n * r.den < r.high)

def nearestStep (r : Rounding) (tie : Tie) : Option Nat :=
  let below := r.value / r.den
  let rest := r.value % r.den
  let above := if rest = 0 then below else below + 1
  match r.holds below, r.holds above with
  | true, true =>
    some <|
      if 2 * rest < r.den then below
      else if r.den < 2 * rest then above
      else match tie with
        | .up => above
        | .toEven => if below % 2 = 0 then below else above
  | true, false => some below
  | false, true => some above
  | false, false => none

end Rounding

def dropZeroEnd (ds : List Char) : List Char := (ds.reverse.dropWhile (· = '0')).reverse

def decimalOfSteps (n : Nat) (e : Int) : Decimal :=
  let ds := Nat.toDigits 10 n
  ⟨dropZeroEnd ds, ds.length + e⟩

/-- The shortest decimal that rounds to a positive finite number, the nearest of those. Seventeen
digits always suffice. -/
def Finite.shortest (x : Finite) (tie : Tie) : Decimal :=
  let r := x.rounding
  let lead := leadingExponent r.value r.den
  let attempt (n : Nat) : Option Decimal :=
    let e := lead - n
    ((r.inSteps e).nearestStep tie).map (decimalOfSteps · e)
  ((List.range 17).findSome? attempt).getD (decimalOfSteps 0 0)

end Binary64
end Sigil
