import Balancer.Decimal

/-!
# The fewest digits that read back

A decimal number is written with the fewest digits that still read back as the same number, and
among those with the digits nearest to it. The digits are found by trying one, two, three … of
them: on each grid of powers of ten only the two neighbours of the number can be nearest, so two
candidates are read back per grid, and at 17 digits one of them always answers.
-/

namespace Balancer.Decimal

/-- **Digits with a place**: the whole number `digits` times `10 ^ place`. -/
structure Digits where
  digits : Nat
  place : Int
deriving DecidableEq, Repr

/-- The number of decimal digits of a positive number. -/
def digitCount (n : Nat) : Nat :=
  (Nat.toDigits 10 n).length

/-- The place of the leading digit of the positive quotient `num / den`: the greatest `k` with
`10 ^ k ≤ num / den`. -/
def leadingPlace (num den : Nat) : Int :=
  if den ≤ num then (digitCount (num / den) : Int) - 1
  else
    -- The least `j` with `den ≤ num * 10 ^ j` is the digit count of `⌈den / num⌉ - 1`.
    -(digitCount ((den - 1) / num) : Int)

/-- The quotient `num / den` divided by `10 ^ place`, as a new quotient. -/
def onGrid (num den : Nat) (place : Int) : Nat × Nat :=
  if place < 0 then (num * Nat.pow 10 (-place).toNat, den) else (num, den * Nat.pow 10 place.toNat)

/-- Whether digits read back as the given number. -/
def readsBack (d : Decimal) (digits : Nat) (place : Int) : Bool :=
  ofScientific? d.negative digits place == some d

/-- The neighbour of the number on the grid `10 ^ place` that reads back, the nearer one if both
do, and of two equally near ones the greater. -/
def nearestOn (d : Decimal) (place : Int) : Option Digits :=
  let (num, den) := d.ratio
  let (n, m) := onGrid num den place
  let lower := n / m
  let upper := lower + 1
  match readsBack d lower place, readsBack d upper place with
  | true, true => some ⟨if 2 * (n % m) < m then lower else upper, place⟩
  | true, false => some ⟨lower, place⟩
  | false, true => some ⟨upper, place⟩
  | false, false => none

/-- The digits found on the first grid that has some, from coarse to fine. -/
def firstGrid (d : Decimal) (leading : Int) : Nat → Nat → Digits
  | count, 0 => ⟨d.significand, leading - count⟩
  | count, fuel + 1 =>
    match nearestOn d (leading - count) with
    | some digits => digits
    | none => firstGrid d leading (count + 1) fuel

/-- Drops the zeros at the end of the digits. -/
def Digits.strip (digits : Digits) : Nat → Digits
  | 0 => digits
  | fuel + 1 =>
    if digits.digits ≠ 0 ∧ digits.digits % 10 = 0 then
      Digits.strip ⟨digits.digits / 10, digits.place + 1⟩ fuel
    else digits

/-- **The shortest digits** of a number that is not zero. -/
def shortest (d : Decimal) : Digits :=
  let (num, den) := d.ratio
  (firstGrid d (leadingPlace num den) 0 17).strip 400

end Balancer.Decimal
