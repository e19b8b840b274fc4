import Scriptlet.Number.Datum

/-! The decimal with the fewest digits that reads back as the same number, and of those
the one nearest to it. -/
namespace Scriptlet.Number

structure Decimal where
  digits : List Char
  point : Int
  deriving DecidableEq,Repr

def digitCount (n : Nat) : Nat :=
  if n = 0 then 0 else (Nat.toDigits 10 n).length

def magnitude (numerator denominator : Nat) : Int :=
  if denominator ≤ numerator then digitCount (numerator / denominator)
  else 1 - digitCount ((denominator - 1) / numerator)

/-- The values that read back as one number, with the value itself; all in quarters of
a step. The ends belong to it when the significand is even. -/
structure Interval where
  low : Nat
  value : Nat
  high : Nat
  closed : Bool

def interval (steps : Nat) : Interval :=
  let gap := gapExponent steps
  let below := if steps = twoTo (52 + gap) ∧ 0 < gap then twoTo gap else 2 * twoTo gap
  ⟨4 * steps - below,4 * steps,4 * steps + 2 * twoTo gap,steps / twoTo gap % 2 = 0⟩

def Interval.holds (bounds : Interval) (candidate scale : Nat) : Bool :=
  if bounds.closed then bounds.low * scale ≤ candidate && candidate ≤ bounds.high * scale
  else bounds.low * scale < candidate && candidate < bounds.high * scale

def onGrid (bounds : Interval) (unit : Int) : Option Nat :=
  let scale := tenTo (-unit).toNat
  let cell := 4 * one * tenTo unit.toNat
  let floor := bounds.value * scale / cell
  let down := bounds.holds (floor * cell) scale
  let up := bounds.holds ((floor + 1) * cell) scale
  if down && up then
    if 2 * (bounds.value * scale % cell) < cell then some floor else some (floor + 1)
  else if down then some floor
  else if up then some (floor + 1)
  else none

def decimalOf (count : Nat) (unit : Int) : Decimal :=
  let digits := Nat.toDigits 10 count
  ⟨(digits.reverse.dropWhile (· = '0')).reverse,unit + digits.length⟩

/-- Seventeen digits always suffice, so that the last grid has an answer. -/
def shortest (steps : Nat) : Decimal :=
  let bounds := interval steps
  let top := magnitude steps one
  let found := (List.range 17).findSome? fun index =>
    let unit := top - (index + 1 : Nat)
    (onGrid bounds unit).map (decimalOf · unit)
  found.getD ⟨[],0⟩

end Scriptlet.Number
