import TorrentRemote.Number.Rounding
import TorrentRemote.Text.Decimal

/-!
# Sizes with binary units

A size is shown in the largest of the units B, KiB, MiB, GiB and TiB that does not exceed it.  In
bytes it is shown as it is, in the other units with two places.  The number shown is that of the
double nearest to the size, rounded to hundredths of the unit, and to the even hundredth of two
that are equally near.
-/

namespace TorrentRemote.Display

/-- A unit in which sizes are shown. -/
inductive SizeUnit where
  | byte
  | kib
  | mib
  | gib
  | tib
  deriving DecidableEq

namespace SizeUnit

/-- The number of bytes in a unit. -/
def bytes : SizeUnit → Nat
  | .byte => 1
  | .kib => Nat.pow 2 10
  | .mib => Nat.pow 2 20
  | .gib => Nat.pow 2 30
  | .tib => Nat.pow 2 40

/-- What is written behind a number. -/
def symbol : SizeUnit → String
  | .byte => "B"
  | .kib => "KiB"
  | .mib => "MiB"
  | .gib => "GiB"
  | .tib => "TiB"

/-- The largest unit that does not exceed a number of bytes. -/
def largest (size : Nat) : SizeUnit :=
  if tib.bytes ≤ size then .tib
  else if gib.bytes ≤ size then .gib
  else if mib.bytes ≤ size then .mib
  else if kib.bytes ≤ size then .kib
  else .byte

end SizeUnit

/-- A size as it is shown: a number of hundredths of a unit. -/
structure ShownSize where
  unit : SizeUnit
  hundredths : Nat

/-- How a number of bytes is shown. -/
def shownSize (size : Nat) : ShownSize :=
  let double := Number.roundToDouble size
  let unit := SizeUnit.largest double
  ⟨unit, Number.roundHalfEven (double * 100) unit.bytes⟩

/-- A number of hundredths with two places. -/
def twoPlaces (hundredths : Nat) : String :=
  String.ofList <| Text.decimalDigits (hundredths / 100) ++
    ['.', Text.decimalDigit (hundredths / 10 % 10), Text.decimalDigit (hundredths % 10)]

namespace ShownSize

/-- The number in front of the unit.  A number of bytes has no places. -/
def number (shown : ShownSize) : String :=
  if shown.unit = .byte then Text.showNat (shown.hundredths / 100) else twoPlaces shown.hundredths

/-- The text of a size. -/
def text (shown : ShownSize) : String := shown.number ++ " " ++ shown.unit.symbol

end ShownSize

/-- The text of a number of bytes; a negative number has none. -/
def size (bytes : Int64) : String :=
  if bytes.toInt < 0 then "-" else (shownSize bytes.toInt.toNat).text

end TorrentRemote.Display
