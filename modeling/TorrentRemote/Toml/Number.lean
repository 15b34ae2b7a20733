import TorrentRemote.Number.Binary64
import TorrentRemote.Text.Ascii

/-!
# Numbers in TOML

Whole numbers in four bases and doubles.  Single underscores may stand between digits.
-/

namespace TorrentRemote.Toml

/-- Digits of a base that continue a number, each with at most one underscore before it. -/
def moreDigits (isDigit : Char → Bool) : List Char → List Char × List Char
  | '_' :: c :: cs =>
    if isDigit c then
      let (digits, rest) := moreDigits isDigit cs
      (c :: digits, rest)
    else ([], '_' :: c :: cs)
  | c :: cs =>
    if isDigit c then
      let (digits, rest) := moreDigits isDigit cs
      (c :: digits, rest)
    else ([], c :: cs)
  | [] => ([], [])

/-- The digits of a number, one or more. -/
def someDigits? (isDigit : Char → Bool) : List Char → Option (List Char × List Char)
  | c :: cs =>
    if isDigit c then
      let (digits, rest) := moreDigits isDigit cs
      some (c :: digits, rest)
    else none
  | [] => none

/-- Whether a sign is minus, and what follows it. -/
def readSign : List Char → Bool × List Char
  | '-' :: cs => (true, cs)
  | '+' :: cs => (false, cs)
  | cs => (false, cs)

/-- The digits of a decimal number, which begin with a zero only if there is no other. -/
def wholeDigits? : List Char → Option (List Char × List Char)
  | '0' :: cs => some (['0'], cs)
  | cs => someDigits? Char.isDigit cs

/-- The value of digits of a base. -/
def valueIn (base : Nat) (digits : List Char) : Nat :=
  digits.foldl (fun value c => base * value + (Text.hexValue? c).getD 0) 0

/-- A whole number of a base other than ten, after its prefix. -/
def readBased? (base : Nat) (cs : List Char) : Option (Int64 × List Char) := do
  let isDigit (c : Char) : Bool := (Text.hexValue? c).any (· < base)
  let (digits, cs) ← someDigits? isDigit cs
  let value ← Text.toInt64? (valueIn base digits)
  some (value, cs)

/-- A whole number. -/
def readInteger? : List Char → Option (Int64 × List Char)
  | '0' :: 'x' :: cs => readBased? 16 cs
  | '0' :: 'o' :: cs => readBased? 8 cs
  | '0' :: 'b' :: cs => readBased? 2 cs
  | cs => do
    let (negative, cs) := readSign cs
    let (digits, cs) ← wholeDigits? cs
    let magnitude : Int := Text.digitsValue digits 0
    let value ← Text.toInt64? (if negative then -magnitude else magnitude)
    some (value, cs)

/-- The digits behind a point, if there is a point. -/
def readFractionDigits? : List Char → Option (List Char × List Char)
  | '.' :: cs => someDigits? Char.isDigit cs
  | cs => some ([], cs)

/-- The exponent of a number, if it has one. -/
def readExponent? : List Char → Option (Option Int × List Char)
  | c :: cs =>
    if c = 'e' ∨ c = 'E' then do
      let (negative, cs) := readSign cs
      let (digits, cs) ← someDigits? Char.isDigit cs
      let magnitude : Int := Text.digitsValue digits 0
      some (some (if negative then -magnitude else magnitude), cs)
    else some (none, c :: cs)
  | [] => some (none, [])

/-- A double in digits, with a fraction, an exponent, or both.  A positive one has to be finite. -/
def readDigitsFloat? (cs : List Char) : Option (Number.Binary64 × List Char) := do
  let (negative, cs) := readSign cs
  let (whole, cs) ← wholeDigits? cs
  let (fraction, cs) ← readFractionDigits? cs
  let (exponent, cs) ← readExponent? cs
  if fraction = [] ∧ exponent = none then none
  else
    let value := Number.Binary64.ofDecimal negative (Text.digitsValue (whole ++ fraction) 0)
      (exponent.getD 0 - fraction.length)
    if value = Number.Binary64.infinity false then none else some (value, cs)

/-- Infinity, or a value that is no number. -/
def readSpecialFloat? (cs : List Char) : Option (Number.Binary64 × List Char) :=
  match readSign cs with
  | (negative, 'i' :: 'n' :: 'f' :: cs) => some (.infinity negative, cs)
  | (_, 'n' :: 'a' :: 'n' :: cs) => some (.nan, cs)
  | _ => none

/-- A double. -/
def readFloat? (cs : List Char) : Option (Number.Binary64 × List Char) :=
  (readDigitsFloat? cs).or (readSpecialFloat? cs)

end TorrentRemote.Toml
