import TorrentRemote.Json.Raw
import TorrentRemote.Text.Ascii
import TorrentRemote.Text.Decimal

/-!
# Reading JSON

A JSON text is read into a value, or not at all: nothing may follow the value but white space.  The
reader takes bytes, as characters; what it looks for is ASCII, and the other bytes stand inside of
strings.  Every level of nesting takes at least one character, so the number of characters bounds
the depth of the recursion.
-/

namespace TorrentRemote.Json

/-- White space between the parts of a JSON text. -/
def isSpace (c : Char) : Bool := c == ' ' || c == '\t' || c == '\n' || c == '\r'

/-- The text after leading white space. -/
def skipSpace (cs : List Char) : List Char := cs.dropWhile isSpace

/-! ### Strings -/

/-- The code unit of four hexadecimal digits. -/
def hex4? (a b c d : Char) : Option UInt16 := do
  let a ← Text.hexValue? a
  let b ← Text.hexValue? b
  let c ← Text.hexValue? c
  let d ← Text.hexValue? d
  some (UInt16.ofNat (((a * 16 + b) * 16 + c) * 16 + d))

/-- The character that an escape of one letter stands for. -/
def shortEscape? : Char → Option Char
  | '"' => some '"'
  | '\\' => some '\\'
  | '/' => some '/'
  | 'b' => some '\x08'
  | 'f' => some '\x0c'
  | 'n' => some '\n'
  | 'r' => some '\r'
  | 't' => some '\t'
  | _ => none

/-- The pieces of a string after its opening quote, and what follows its closing quote. -/
def pieces? : List Char → Option (List Piece × List Char)
  | '"' :: cs => some ([], cs)
  | '\\' :: 'u' :: a :: b :: c :: d :: cs => do
    let unit ← hex4? a b c d
    (pieces? cs).map fun (pieces, cs) => (.unit unit :: pieces, cs)
  | '\\' :: letter :: cs => do
    let c ← shortEscape? letter
    (pieces? cs).map fun (pieces, cs) => (.unit (UInt16.ofNat c.toNat) :: pieces, cs)
  | c :: cs =>
    if c.toNat < 0x20 ∨ c = '\\' then none
    else (pieces? cs).map fun (pieces, cs) => (.byte c.toUInt8 :: pieces, cs)
  | [] => none

/-! ### Numbers -/

/-- One or more digits and what follows them. -/
def digits1? (cs : List Char) : Option (List Char × List Char) :=
  match cs.takeWhile Char.isDigit with
  | [] => none
  | ds => some (ds, cs.dropWhile Char.isDigit)

/-- The whole part of a number: a zero, or digits that do not begin with one. -/
def wholePart? (cs : List Char) : Option (List Char × List Char) :=
  match cs with
  | '0' :: cs => some (['0'], cs)
  | cs => digits1? cs

/-- The fraction of a number, if it has one. -/
def fraction? (cs : List Char) : Option (List Char × List Char) :=
  match cs with
  | '.' :: cs => (digits1? cs).map fun part => ('.' :: part.1, part.2)
  | cs => some ([], cs)

/-- The sign of an exponent, if it has one. -/
def exponentSign : List Char → List Char × List Char
  | '+' :: cs => (['+'], cs)
  | '-' :: cs => (['-'], cs)
  | cs => ([], cs)

/-- The exponent of a number, if it has one. -/
def exponent? : List Char → Option (List Char × List Char)
  | [] => some ([], [])
  | mark :: cs =>
    if mark = 'e' ∨ mark = 'E' then
      let (sign, cs) := exponentSign cs
      (digits1? cs).map fun (digits, cs) => (mark :: (sign ++ digits), cs)
    else some ([], mark :: cs)

/-- The value of a number in its parts.  A negative zero is no whole number. -/
def numberOf (negative : Bool) (whole fraction exponent : List Char) : Raw :=
  if fraction = [] ∧ exponent = [] ∧ ¬ (negative ∧ whole = ['0']) then
    let value := Text.digitsValue whole 0
    .integer (if negative then -(value : Int) else value)
  else
    let sign := if negative then ['-'] else []
    .decimal (String.ofList (sign ++ whole ++ fraction ++ exponent))

/-- A number without its sign. -/
def readUnsigned? (negative : Bool) (cs : List Char) : Option (Raw × List Char) := do
  let (whole, cs) ← wholePart? cs
  let (fraction, cs) ← fraction? cs
  let (exponent, cs) ← exponent? cs
  some (numberOf negative whole fraction exponent, cs)

/-- A number. -/
def readNumber? : List Char → Option (Raw × List Char)
  | '-' :: cs => readUnsigned? true cs
  | cs => readUnsigned? false cs

/-! ### Values -/

/-- The text after a given beginning. -/
def afterWord? (word : String) (cs : List Char) : Option (List Char) :=
  word.toList.isPrefixOf? cs

/-- One or more things with commas between them, up to a closing character. -/
def readSeparated? {α : Type} (read : List Char → Option (α × List Char)) (close : Char) :
    (fuel : Nat) → List Char → Option (List α × List Char)
  | 0, _ => none
  | fuel + 1, cs => do
    let (item, cs) ← read (skipSpace cs)
    match skipSpace cs with
    | [] => none
    | c :: cs =>
      if c = ',' then
        let (items, cs) ← readSeparated? read close fuel cs
        some (item :: items, cs)
      else if c = close then some ([item], cs)
      else none

/-- Things with commas between them, or nothing, up to a closing character. -/
def readEnclosed? {α : Type} (read : List Char → Option (α × List Char)) (close : Char)
    (cs : List Char) : Option (List α × List Char) :=
  match skipSpace cs with
  | [] => none
  | c :: rest => if c = close then some ([], rest) else readSeparated? read close cs.length cs

/-- A member of an object. -/
def readMember? (read : List Char → Option (Raw × List Char)) :
    List Char → Option ((List Piece × Raw) × List Char)
  | '"' :: cs => do
    let (key, cs) ← pieces? cs
    match skipSpace cs with
    | ':' :: cs =>
      let (value, cs) ← read (skipSpace cs)
      some ((key, value), cs)
    | _ => none
  | _ => none

/-- A value that is nested no deeper than `depth`. -/
def readValue? : (depth : Nat) → List Char → Option (Raw × List Char)
  | 0, _ => none
  | depth + 1, cs =>
    match cs with
    | '"' :: cs => (pieces? cs).map fun (pieces, cs) => (.string pieces, cs)
    | '[' :: cs =>
      (readEnclosed? (readValue? depth) ']' cs).map fun (items, cs) => (.array items, cs)
    | '\x7b' :: cs =>
      (readEnclosed? (readMember? (readValue? depth)) '\x7d' cs).map fun (members, cs) =>
        (.object members, cs)
    | 't' :: cs => (afterWord? "rue" cs).map fun cs => (.bool true, cs)
    | 'f' :: cs => (afterWord? "alse" cs).map fun cs => (.bool false, cs)
    | 'n' :: cs => (afterWord? "ull" cs).map fun cs => (.null, cs)
    | cs => readNumber? cs

/-- The value that bytes hold. -/
def Raw.read? (bytes : List UInt8) : Option Raw :=
  let cs := Text.byteChars bytes
  match readValue? cs.length (skipSpace cs) with
  | some (value, rest) => if skipSpace rest = [] then some value else none
  | none => none

/-- The value that a text denotes. -/
def parse? (text : String) : Option Json := (Raw.read? (Text.utf8 text)).bind Raw.toJson?

end TorrentRemote.Json
