import Balancer.Hcl.Reader
import Balancer.Value

/-!
# Numbers

A number is a run of digits, perhaps with a fraction and an exponent. Without these it is a whole
number of at most 64 bits. With them it is the nearest decimal number, which has to be finite, and
still counts as whole if it has no fraction. A whole number that is no integer of 64 bits with a
sign becomes a decimal number.
-/

namespace Balancer.Hcl

open Balancer.Text Reader

/-- The greatest whole number that can be written. -/
def maxWhole : Nat := Nat.pow 2 64 - 1

/-- The value of a whole number with its sign. -/
def wholeValue (negative : Bool) (n : Nat) : Value :=
  match integerOf? (if negative then -(n : Int) else (n : Int)) with
  | some i => .integer i
  | none => .decimal (Decimal.ofNat negative n)

/-- The value of a decimal number. -/
def decimalValue (d : Decimal) : Value :=
  match d.whole? with
  | some n =>
    match integerOf? (if d.negative then -(n : Int) else (n : Int)) with
    | some i => .integer i
    | none => .decimal d
  | none => .decimal d

/-- Reads one or more digits. -/
def digits : Reader (List Char) := do
  let digits ← takeWhile isDigit
  guard !digits.isEmpty
  return digits

/-- Reads a point and the digits after it. -/
def fraction : Reader (List Char) := do
  char '.'
  digits

/-- Reads an exponent. -/
def exponent : Reader Int := do
  let _ ← satisfy fun c => c == 'e' || c == 'E'
  let sign ← attempt (satisfy fun c => c == '+' || c == '-')
  let n := natOfDigits (← digits)
  return if sign = some '-' then -(n : Int) else (n : Int)

/-- Reads the digits of a number whose sign is known. -/
def magnitude (negative : Bool) : Reader Value := do
  let whole ← digits
  let part ← attempt fraction
  let power ← attempt exponent
  if part.isNone && power.isNone then
    let n := natOfDigits whole
    guard (n ≤ maxWhole)
    return wholeValue negative n
  else
    let part := part.getD []
    let scale := power.getD 0 - (part.length : Int)
    match Decimal.ofScientific? negative (natOfDigits (whole ++ part)) scale with
    | some d => return decimalValue d
    | none => failure

/-- **Reads a number.** A minus sign in front of it, with blanks between or not, belongs to it. -/
def number : Reader Value := do
  match ← attempt (char '-') with
  | some () =>
    sp
    magnitude true
  | none => magnitude false

end Balancer.Hcl
