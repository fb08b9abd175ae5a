/-!
# Integers in text

The integers of a document have 64 bits. Written, they are a minus sign where needed and the
decimal digits without leading zeros; read, they are an optional sign and one or more ASCII
digits, and a text whose number does not fit is no integer.
-/

namespace Balancer.Text

/-- The smallest integer of 64 bits. -/
def minInteger : Int := -9223372036854775808

/-- The greatest integer of 64 bits. -/
def maxInteger : Int := 9223372036854775807

/-- The integer of 64 bits with a given value, if there is one. -/
def integerOf? (n : Int) : Option Int64 :=
  if minInteger ≤ n ∧ n ≤ maxInteger then some (Int64.ofInt n) else none

/-- Whether a character is an ASCII digit. -/
def isDigit (c : Char) : Bool :=
  '0' ≤ c && c ≤ '9'

/-- The number that a digit stands for. -/
def digitValue (c : Char) : Nat :=
  c.toNat - '0'.toNat

/-- The value of a hexadecimal digit. -/
def hexDigit? (c : Char) : Option Nat :=
  if isDigit c then some (digitValue c)
  else if 'a' ≤ c ∧ c ≤ 'f' then some (c.toNat - 'a'.toNat + 10)
  else if 'A' ≤ c ∧ c ≤ 'F' then some (c.toNat - 'A'.toNat + 10)
  else none

/-- The number written by a list of digits. -/
def natOfDigits (cs : List Char) : Nat :=
  cs.foldl (fun n c => 10 * n + digitValue c) 0

/-- The number written by one or more digits and nothing else. -/
def natOf? (cs : List Char) : Option Nat :=
  if cs.isEmpty || !cs.all isDigit then none else some (natOfDigits cs)

/-- The integer written by an optional sign and one or more digits. -/
def readInteger? (s : String) : Option Int64 :=
  match s.toList with
  | '-' :: cs => (natOf? cs).bind fun n => integerOf? (-(n : Int))
  | '+' :: cs => (natOf? cs).bind fun n => integerOf? n
  | cs => (natOf? cs).bind fun n => integerOf? n

/-- The decimal digits of a number. -/
def natText (n : Nat) : String :=
  String.ofList (Nat.toDigits 10 n)

/-- The decimal text of an integer. -/
def integerText (n : Int64) : String :=
  if n.toInt < 0 then "-" ++ natText n.toInt.natAbs else natText n.toInt.natAbs

end Balancer.Text
