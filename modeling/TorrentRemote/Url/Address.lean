import TorrentRemote.Text.Ascii
import TorrentRemote.Text.Decimal

/-!
# Internet addresses

Addresses of four bytes, whose parts may be decimal, octal or hexadecimal and may be left out, and
addresses of eight groups of sixteen bits, of which the longest run of zeros is left out.
-/

namespace TorrentRemote.Url

/-! ### Four bytes -/

/-- The value of digits of a base, if all characters are such digits. -/
def digitsIn? (base : Nat) (cs : List Char) : Option Nat :=
  cs.foldlM (fun value c => do
    let digit ← Text.hexValue? c
    if digit < base then some (base * value + digit) else none) 0

/-- The value of a part of an address. -/
def addressPart? (cs : List Char) : Option Nat :=
  match cs with
  | [] => none
  | '0' :: 'x' :: cs => digitsIn? 16 cs
  | '0' :: 'X' :: cs => digitsIn? 16 cs
  | '0' :: c :: cs => digitsIn? 8 (c :: cs)
  | cs => digitsIn? 10 cs

/-- Whether the last part of a name is a number, so that the name has to be an address. -/
def endsInNumber (cs : List Char) : Bool :=
  let parts := (cs.splitOn '.').reverse
  let last? := match parts with
    | [] :: last :: _ => some last
    | [[]] => none
    | last :: _ => some last
    | [] => none
  match last? with
  | none => false
  | some last => (!last.isEmpty && last.all Char.isDigit) || (addressPart? last).isSome

/-- The address that parts stand for: the last part fills the bytes that the others leave. -/
def joinParts? : List Nat → Option Nat
  | [] => none
  | parts =>
    let bytes := parts.dropLast
    let last := parts.getLastD 0
    let room := Nat.pow 256 (4 - bytes.length)
    if bytes.length ≤ 3 ∧ bytes.all (· ≤ 255) ∧ last < room then
      some (bytes.foldl (fun value byte => 256 * value + byte) 0 * room + last)
    else none

/-- The address of four bytes that a text stands for. -/
def parseIpv4? (cs : List Char) : Option Nat := do
  let parts := cs.splitOn '.'
  let parts := if parts.getLast? = some [] then parts.dropLast else parts
  let numbers ← parts.mapM addressPart?
  joinParts? numbers

/-- An address of four bytes in the usual form. -/
def showIpv4 (address : Nat) : List Char :=
  ['.'].intercalate <| [address / Nat.pow 2 24, address / Nat.pow 2 16 % 256,
    address / Nat.pow 2 8 % 256, address % 256].map Text.decimalDigits

/-! ### Eight groups -/

/-- A byte of the four that may end an address of eight groups. -/
def byte? (cs : List Char) : Option Nat :=
  match Text.readNat? cs with
  | some value => if value ≤ 255 ∧ (cs.length = 1 ∨ cs.head? ≠ some '0') then some value else none
  | none => none

/-- The two groups that four bytes stand for. -/
def byteGroups? (cs : List Char) : Option (List (Option Nat)) := do
  match ← (cs.splitOn '.').mapM byte? with
  | [a, b, c, d] => some [some (256 * a + b), some (256 * c + d)]
  | _ => none

/-- The groups of an address, where a gap of zeros is `none`; `fuel` bounds their count. -/
def groups? (fuel : Nat) (cs : List Char) : Option (List (Option Nat)) :=
  match fuel, cs with
  | _, [] => some []
  | 0, _ => none
  | fuel + 1, ':' :: cs => (groups? fuel cs).map (none :: ·)
  | fuel + 1, cs =>
    let digits := (cs.take 4).takeWhile fun c => (Text.hexValue? c).isSome
    match digitsIn? 16 digits, cs.drop digits.length with
    | some value, [] => some [some value]
    | some value, ':' :: c :: rest => (groups? fuel (c :: rest)).map (some value :: ·)
    | some _, '.' :: _ => if digits.isEmpty then none else byteGroups? cs
    | _, _ => none

/-- The address of eight groups that a text stands for. -/
def parseIpv6? (cs : List Char) : Option (List Nat) := do
  let groups ← match cs with
    | ':' :: ':' :: rest => (groups? rest.length rest).map (none :: ·)
    | ':' :: _ => none
    | cs => groups? cs.length cs
  match groups.countP Option.isNone with
  | 0 => if groups.length = 8 then some (groups.filterMap id) else none
  | 1 =>
    if groups.length ≤ 8 then
      some <| groups.flatMap fun
        | some value => [value]
        | none => List.replicate (9 - groups.length) 0
    else none
  | _ => none

/-- The number of zeros at the beginning of a list. -/
def leadingZeros (groups : List Nat) : Nat := (groups.takeWhile (· == 0)).length

/-- Where the first of the longest runs of zeros begins, and its length. -/
def longestZeros (groups : List Nat) : Nat × Nat :=
  (List.range groups.length).foldl (fun best start =>
    let length := leadingZeros (groups.drop start)
    if best.2 < length then (start, length) else best) (0, 0)

/-- Groups with colons between them. -/
def joinGroups (groups : List Nat) : List Char := [':'].intercalate (groups.map Text.hexDigits)

/-- An address of eight groups in its shortest form. -/
def showIpv6 (groups : List Nat) : List Char :=
  let zeros := longestZeros groups
  if zeros.2 < 2 then joinGroups groups
  else
    joinGroups (groups.take zeros.1) ++ [':', ':'] ++
      joinGroups (groups.drop (zeros.1 + zeros.2))

end TorrentRemote.Url
