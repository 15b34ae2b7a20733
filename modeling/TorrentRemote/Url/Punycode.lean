/-!
# Punycode

The writing of any text in ASCII that domain names use: the ASCII characters of the text, a hyphen,
and the places of the other characters, in the order of their code points, as numbers in a notation
whose digits weigh differently from place to place.
-/

namespace TorrentRemote.Url.Punycode

/-- The digit of a value below 36. -/
def digitChar (value : Nat) : Char :=
  Char.ofNat (if value < 26 then 'a'.toNat + value else '0'.toNat + (value - 26))

/-- The value of a digit. -/
def digitValue? (c : Char) : Option Nat :=
  if c.isLower then some (c.toNat - 'a'.toNat)
  else if c.isUpper then some (c.toNat - 'A'.toNat)
  else if c.isDigit then some (c.toNat - '0'.toNat + 26)
  else none

/-- The least value of a digit at a place after which another digit follows. -/
def threshold (bias place : Nat) : Nat := max 1 (min 26 (place - bias))

theorem one_le_threshold (bias place : Nat) : 1 ≤ threshold bias place := Nat.le_max_left ..

/-- How often a number is divided by 35 until it is at most 455, and what is left. -/
def scaleDown (delta : Nat) : Nat × Nat :=
  if delta ≤ 455 then (0, delta)
  else
    let scaled := scaleDown (delta / 35)
    (scaled.1 + 1, scaled.2)

/-- The bias for the next number, after a number `delta` that made the text `length` characters
long. -/
def adapt (delta length : Nat) (isFirst : Bool) : Nat :=
  let delta := if isFirst then delta / 700 else delta / 2
  let scaled := scaleDown (delta + delta / length)
  36 * scaled.1 + 36 * scaled.2 / (scaled.2 + 38)

/-- The digits of a number, from a place on. -/
def numberDigits (bias place value : Nat) : List Char :=
  let least := threshold bias place
  if h : value < least then [digitChar value]
  else
    digitChar (least + (value - least) % (36 - least)) ::
      numberDigits bias (place + 36) ((value - least) / (36 - least))
termination_by value
decreasing_by
  have h₁ := one_le_threshold bias place
  have h₂ := Nat.div_le_self (value - threshold bias place) (36 - threshold bias place)
  omega

/-! ### Writing -/

/-- What has been written so far. -/
structure Progress where
  written : List Char
  delta : Nat
  bias : Nat
  handled : Nat

/-- Looks at one character of the text while the characters with code point `code` are written. -/
def Progress.see (basic code : Nat) (progress : Progress) (c : Char) : Progress :=
  if c.toNat < code then { progress with delta := progress.delta + 1 }
  else if c.toNat = code then
    { written := progress.written ++ numberDigits progress.bias 36 progress.delta
      delta := 0
      bias := adapt progress.delta (progress.handled + 1) (progress.handled == basic)
      handled := progress.handled + 1 }
  else progress

/-- Writes the characters with the given code points, which ascend from `least` on. -/
def writeCodes (cs : List Char) (basic : Nat) : Nat → List Nat → Progress → Progress
  | _, [], progress => progress
  | least, code :: codes, progress =>
    let progress := { progress with
      delta := progress.delta + (code - least) * (progress.handled + 1) }
    let progress := cs.foldl (Progress.see basic code) progress
    writeCodes cs basic (code + 1) codes { progress with delta := progress.delta + 1 }

/-- A number put into an ascending list, once. -/
def insertAscending (n : Nat) : List Nat → List Nat
  | [] => [n]
  | m :: ms => if n < m then n :: m :: ms else if n = m then m :: ms else m :: insertAscending n ms

/-- A text in Punycode. -/
def encode (cs : List Char) : List Char :=
  let basic := cs.filter fun c => c.toNat < 0x80
  let codes := ((cs.filter fun c => 0x80 ≤ c.toNat).map Char.toNat).foldr insertAscending []
  let progress := writeCodes cs basic.length 0x80 codes ⟨[], 0, 72, basic.length⟩
  basic ++ (if basic.isEmpty then [] else ['-']) ++ progress.written

/-! ### Reading -/

/-- The number that begins a text, and the rest of the text. -/
def readNumber? (bias place weight value : Nat) : List Char → Option (Nat × List Char)
  | [] => none
  | c :: cs => do
    let digit ← digitValue? c
    let value := value + digit * weight
    let least := threshold bias place
    if digit < least then some (value, cs)
    else readNumber? bias (place + 36) (weight * (36 - least)) value cs

/-- Puts the characters of the remaining numbers into a text, each at or after the place `next`;
`fuel` bounds their count. -/
def insertCodes? (fuel bias code next : Nat) (out : List Char) (cs : List Char) :
    Option (List Char) :=
  match fuel, cs with
  | _, [] => some out
  | 0, _ => none
  | fuel + 1, cs => do
    let (delta, rest) ← readNumber? bias 36 1 0 cs
    let length := out.length + 1
    let code := code + (next + delta) / length
    let index := (next + delta) % length
    let c := Char.ofNat code
    if c.toNat ≠ code then none
    else
      insertCodes? fuel (adapt delta length (next == 0)) code (index + 1) (out.insertIdx index c)
        rest

/-- The text that is written in Punycode. -/
def decode? (cs : List Char) : Option (List Char) :=
  let hyphens := cs.reverse.dropWhile (· != '-')
  let basic := (hyphens.drop 1).reverse
  let numbers := (cs.reverse.takeWhile (· != '-')).reverse
  if basic.all fun c => c.toNat < 0x80 then
    insertCodes? numbers.length 72 0x80 0 basic numbers
  else none

end TorrentRemote.Url.Punycode
