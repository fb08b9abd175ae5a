import Balancer.Decimal.Shortest
import Balancer.Text.Integer

/-!
# Decimal numbers in text

Two written forms share the shortest digits. In a configuration a number is **positional**: it
never has an exponent and a whole number has no point. In a dump it is **scientific** outside a
range of sixteen places, and a whole number ends in `.0`. Both write the sign of zero.

Reading accepts digits with an optional sign, fraction and exponent.
-/

namespace Balancer.Decimal

open Balancer.Text

/-! ### Writing -/

/-- A run of zeros. -/
def zeros (n : Nat) : List Char := List.replicate n '0'

/-- The sign in front of a number. -/
def sign (d : Decimal) : List Char := if d.negative then ['-'] else []

/-- The digits with the point `scale` places from their left end. -/
def pointed (digits : List Char) (scale : Int) : List Char :=
  if scale ≤ 0 then ['0', '.'] ++ zeros (-scale).toNat ++ digits
  else if digits.length ≤ scale.toNat then digits ++ zeros (scale.toNat - digits.length)
  else digits.take scale.toNat ++ ['.'] ++ digits.drop scale.toNat

/-- **The positional form**: never an exponent, and no point in a whole number. -/
def positional (d : Decimal) : String :=
  if d.significand = 0 then String.ofList (d.sign ++ ['0'])
  else
    let found := d.shortest
    let digits := Nat.toDigits 10 found.digits
    String.ofList (d.sign ++ pointed digits (digits.length + found.place))

/-- The sign of an exponent. Whether a positive one has a sign is up to the format. -/
def exponentSign (plus : Bool) (exponent : Int) : List Char :=
  if exponent < 0 then ['-'] else if plus then ['+'] else []

/-- The digits with a point after the first one and an exponent of ten. -/
def withExponent (plus : Bool) (digits : List Char) (scale : Int) : List Char :=
  let mantissa :=
    match digits with
    | [] => []
    | [c] => [c]
    | c :: cs => c :: '.' :: cs
  let exponent := scale - 1
  mantissa ++ ['e'] ++ exponentSign plus exponent ++ Nat.toDigits 10 exponent.natAbs

/-- **The scientific form**: positional with at least one digit after the point as long as the
point lies between four places left and sixteen places right of the first digit, and with an
exponent otherwise. -/
def scientific (plus : Bool) (d : Decimal) : String :=
  if d.significand = 0 then String.ofList (d.sign ++ ['0', '.', '0'])
  else
    let found := d.shortest
    let digits := Nat.toDigits 10 found.digits
    let scale : Int := digits.length + found.place
    let body :=
      if -5 < scale ∧ scale ≤ 16 then
        let text := pointed digits scale
        if 0 ≤ found.place then text ++ ['.', '0'] else text
      else withExponent plus digits scale
    String.ofList (d.sign ++ body)

/-! ### Reading -/

/-- The value of an exponent: an optional sign and one or more digits. -/
def exponentOf? : List Char → Option Int
  | '-' :: cs => (natOf? cs).map fun n => -(n : Int)
  | '+' :: cs => (natOf? cs).map fun n => (n : Int)
  | cs => (natOf? cs).map fun n => (n : Int)

/-- Splits the characters at the first one that satisfies `p`, which is dropped. -/
def cutAt (p : Char → Bool) (cs : List Char) : List Char × Option (List Char) :=
  match cs.dropWhile (fun c => !p c) with
  | [] => (cs, none)
  | _ :: rest => (cs.takeWhile (fun c => !p c), some rest)

/-- The number written by digits with an optional fraction and exponent, without a sign. -/
def magnitudeOf? (negative : Bool) (cs : List Char) : Option Decimal := do
  let (mantissa, exponent) := cutAt (fun c => c == 'e' || c == 'E') cs
  let (integral, fraction) := cutAt (· == '.') mantissa
  let power ← match exponent with
    | none => some 0
    | some digits => exponentOf? digits
  let fraction := fraction.getD []
  let digits := integral ++ fraction
  let mantissa ← natOf? digits
  ofScientific? negative mantissa (power - (fraction.length : Int))

/-- The decimal number that a text writes, if it is one and finite. -/
def ofText? (s : String) : Option Decimal :=
  match s.toList with
  | '-' :: cs => magnitudeOf? true cs
  | '+' :: cs => magnitudeOf? false cs
  | cs => magnitudeOf? false cs

end Balancer.Decimal
