/-!
# Decimal numbers

Decimal digits of natural numbers and of 64-bit integers, written without leading zeros.  A
64-bit integer is read from an optional sign and one or more ASCII digits whose value is in
range; leading zeros are allowed.
-/

namespace TorrentRemote.Text

/-- The ASCII digit of a number below ten. -/
def decimalDigit (n : Nat) : Char := Char.ofNat ('0'.toNat + n)

/-- The decimal digits of a natural number, without leading zeros. -/
def decimalDigits (n : Nat) : List Char :=
  if n < 10 then [decimalDigit n] else decimalDigits (n / 10) ++ [decimalDigit (n % 10)]

/-- The decimal text of a natural number. -/
def showNat (n : Nat) : String := String.ofList (decimalDigits n)

/-- The digits of an integer, after a minus sign if it is negative. -/
def intDigits (n : Int) : List Char :=
  if n < 0 then '-' :: decimalDigits n.natAbs else decimalDigits n.natAbs

/-- The decimal text of an integer. -/
def showInt (n : Int) : String := String.ofList (intDigits n)

/-- The decimal text of a 64-bit integer. -/
def showInt64 (n : Int64) : String := showInt n.toInt

/-- The value of a list of ASCII digits, continuing a number already read. -/
def digitsValue (cs : List Char) (start : Nat) : Nat :=
  cs.foldl (fun value c => 10 * value + (c.toNat - '0'.toNat)) start

/-- The value of one or more ASCII digits. -/
def readNat? (cs : List Char) : Option Nat :=
  if cs ≠ [] ∧ cs.all Char.isDigit then some (digitsValue cs 0) else none

/-- The value of an optional sign followed by one or more ASCII digits. -/
def readInt? : List Char → Option Int
  | '-' :: cs => (readNat? cs).map fun n => -Int.ofNat n
  | '+' :: cs => (readNat? cs).map Int.ofNat
  | cs => (readNat? cs).map Int.ofNat

/-- An integer as a 64-bit integer, if it is in range. -/
def toInt64? (n : Int) : Option Int64 :=
  if Int64.minValue.toInt ≤ n ∧ n ≤ Int64.maxValue.toInt then some (Int64.ofInt n) else none

/-- The 64-bit integer that a decimal text denotes, if it denotes one. -/
def readInt64? (cs : List Char) : Option Int64 := (readInt? cs).bind toInt64?

end TorrentRemote.Text
