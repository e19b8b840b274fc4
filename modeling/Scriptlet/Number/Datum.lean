/-! Binary64 numbers seen exactly. Every finite magnitude is a whole number of steps of
2^-1074, so that exact arithmetic on numbers is arithmetic on these counts. -/
namespace Scriptlet.Number

inductive Datum where
  | nan
  | infinite (negative : Bool)
  | finite (negative : Bool) (steps : Nat)
  deriving DecidableEq,Repr

def twoTo (exponent : Nat) : Nat := Nat.pow 2 exponent

def tenTo (exponent : Nat) : Nat := Nat.pow 10 exponent

def one : Nat := twoTo 1074

/-- The steps between a magnitude and the next larger one, as a power of two. -/
def gapExponent (steps : Nat) : Nat := Nat.log2 steps - 52

namespace Datum

def ofFloat (x : Float) : Datum :=
  let word := x.toBits.toNat
  let negative := decide (twoTo 63 ≤ word)
  let exponent := word / twoTo 52 % twoTo 11
  let fraction := word % twoTo 52
  if exponent = 2047 then (if fraction = 0 then .infinite negative else .nan)
  else if exponent = 0 then .finite negative fraction
  else .finite negative ((twoTo 52 + fraction) * twoTo (exponent - 1))

def signWord (negative : Bool) : Nat := if negative then twoTo 63 else 0

def word : Datum → Nat
  | .nan => 2047 * twoTo 52 + twoTo 51
  | .infinite negative => signWord negative + 2047 * twoTo 52
  | .finite negative steps =>
    if steps < twoTo 52 then signWord negative + steps
    else
      let gap := gapExponent steps
      if 2046 ≤ gap then signWord negative + 2047 * twoTo 52
      else signWord negative + gap * twoTo 52 + steps / twoTo gap

def toFloat (datum : Datum) : Float := Float.ofBits datum.word.toUInt64

end Datum

def roundDiv (numerator denominator : Nat) : Nat :=
  let floor := numerator / denominator
  let twice := 2 * (numerator % denominator)
  if twice < denominator then floor
  else if denominator < twice then floor + 1
  else if floor % 2 = 0 then floor
  else floor + 1

/-- The number nearest to a ratio, a half going to the even significand. -/
def nearest (negative : Bool) (numerator denominator : Nat) : Float :=
  let gap := gapExponent (numerator * one / denominator)
  (Datum.finite negative (roundDiv (numerator * one) (denominator * twoTo gap) * twoTo gap)).toFloat

end Scriptlet.Number
