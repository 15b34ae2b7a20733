import TorrentRemote.Number.Rounding
import TorrentRemote.Text.Decimal

/-!
# Doubles

A double is kept by its bits.  It is read from a decimal number as the nearest double, and written
with the fewest digits that read back as the same double.
-/

namespace TorrentRemote.Number

/-- A double by its bits. -/
structure Binary64 where
  bits : UInt64
  deriving DecidableEq

namespace Binary64

/-- The bits of infinity. -/
def infinityBits : Nat := 0x7FF * Nat.pow 2 52

/-- The double with the given bits, sign apart. -/
def ofMagnitude (negative : Bool) (magnitude : Nat) : Binary64 :=
  ⟨UInt64.ofNat (magnitude + if negative then Nat.pow 2 63 else 0)⟩

/-- A double that is not a number. -/
def nan : Binary64 := ⟨UInt64.ofNat (infinityBits + Nat.pow 2 51)⟩

/-- Infinity, positive or negative. -/
def infinity (negative : Bool) : Binary64 := ofMagnitude negative infinityBits

/-- The bits of a double, sign apart. -/
def magnitude (x : Binary64) : Nat := x.bits.toNat % Nat.pow 2 63

/-- Whether the sign is minus. -/
def isNegative (x : Binary64) : Bool := Nat.pow 2 63 ≤ x.bits.toNat

/-- Whether a double is not a number. -/
def isNaN (x : Binary64) : Bool := infinityBits < x.magnitude

/-- Whether a double is infinite. -/
def isInfinite (x : Binary64) : Bool := x.magnitude = infinityBits

/-! ### Reading -/

/-- The exponent of the largest power of two that does not exceed `num / den`. -/
def binaryExponent (num den : Nat) : Int :=
  let exponent : Int := (num.log2 : Int) - den.log2
  if den * Nat.pow 2 exponent.toNat ≤ num * Nat.pow 2 (-exponent).toNat then exponent
  else exponent - 1

/-- The bits of the double nearest to `num / den`, both positive. -/
def magnitudeOfRatio (num den : Nat) : Nat :=
  let shift := max (binaryExponent num den - 52) (-1074)
  let mantissa := roundHalfEven (num * Nat.pow 2 (-shift).toNat) (den * Nat.pow 2 shift.toNat)
  min infinityBits ((shift + 1074).toNat * Nat.pow 2 52 + mantissa)

/-- The double nearest to `digits * 10 ^ exponent`. -/
def ofDecimal (negative : Bool) (digits : Nat) (exponent : Int) : Binary64 :=
  let size : Int := (Text.decimalDigits digits).length + exponent
  ofMagnitude negative <|
    if digits = 0 ∨ size < -330 then 0
    else if 310 < size then infinityBits
    else magnitudeOfRatio (digits * Nat.pow 10 exponent.toNat) (Nat.pow 10 (-exponent).toNat)

/-! ### Writing -/

/-- A positive double as `mantissa * 2 ^ exponent`. -/
def parts (magnitude : Nat) : Nat × Int :=
  let field : Nat := magnitude / Nat.pow 2 52
  let fraction : Nat := magnitude % Nat.pow 2 52
  if field = 0 then (fraction, -1074) else (fraction + Nat.pow 2 52, Int.ofNat field - 1075)

/-- The exponent of the least power of ten that exceeds `num / den`. -/
def decimalExponent (num den : Nat) : Int :=
  let exponent : Int := ((Text.decimalDigits num).length : Int) - (Text.decimalDigits den).length
  if num * Nat.pow 10 (-exponent).toNat < den * Nat.pow 10 exponent.toNat then exponent
  else exponent + 1

/-- The number on the grid of multiples of `10 ^ place` that is nearest to a double, the greater of
two that are equally near, if the double is the one nearest to it. -/
def onGrid? (magnitude : Nat) (place : Int) : Option Nat :=
  let (mantissa, exponent) := parts magnitude
  -- All numbers are compared in quarters of the last bit, and `scale / grid` is a quarter.
  let scale := Nat.pow 2 (exponent - 2).toNat * Nat.pow 10 (-place).toNat
  let grid := Nat.pow 2 (2 - exponent).toNat * Nat.pow 10 place.toNat
  let value := 4 * mantissa * scale
  let below := if mantissa = Nat.pow 2 52 ∧ Nat.pow 2 53 ≤ magnitude then 1 else 2
  let lo := (4 * mantissa - below) * scale
  let hi := (4 * mantissa + 2) * scale
  let inside (n : Nat) : Bool :=
    if mantissa % 2 = 0 then lo ≤ n * grid ∧ n * grid ≤ hi else lo < n * grid ∧ n * grid < hi
  let floor := value / grid
  let nearest :=
    if 2 * (value - floor * grid) < grid then [floor, floor + 1] else [floor + 1, floor]
  nearest.find? inside

/-- The fewest digits that read back as a positive double, and the exponent of the power of ten
that a point before the digits would have. -/
def shortest (magnitude : Nat) : List Char × Int :=
  let (mantissa, exponent) := parts magnitude
  let top := decimalExponent (mantissa * Nat.pow 2 exponent.toNat) (Nat.pow 2 (-exponent).toNat)
  let candidates := (List.range 17).filterMap fun count =>
    (onGrid? magnitude (top - (count + 1 : Nat))).map fun n => (n, top - (count + 1 : Nat))
  match candidates with
  | [] => ([], 0)
  | (n, place) :: _ =>
    let digits := Text.decimalDigits n
    let kept := (digits.reverse.dropWhile (· == '0')).reverse
    (kept, place + digits.length)

/-- The text of a double: positional from 0.00001 up to 10 ^ 16, with a fraction always, and with
an exponent otherwise. -/
def text (x : Binary64) : String :=
  let sign := if x.isNegative then ['-'] else []
  if x.isNaN then "NaN"
  else String.ofList <| sign ++
    if x.isInfinite then ['i', 'n', 'f']
    else if x.magnitude = 0 then ['0', '.', '0']
    else
      let (digits, point) := shortest x.magnitude
      if -5 < point ∧ point ≤ 16 then
        if point ≤ 0 then ['0', '.'] ++ List.replicate (-point).toNat '0' ++ digits
        else
          let whole := digits.take point.toNat
          let fraction := digits.drop point.toNat
          whole ++ List.replicate (point.toNat - whole.length) '0' ++
            ['.'] ++ (if fraction.isEmpty then ['0'] else fraction)
      else
        digits.take 1 ++ (if digits.length ≤ 1 then [] else '.' :: digits.drop 1) ++
          'e' :: Text.intDigits (point - 1)

end Binary64

end TorrentRemote.Number
