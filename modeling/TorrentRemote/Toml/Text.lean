import TorrentRemote.Text.Ascii

/-!
# Texts in TOML

White space and comments, and the four kinds of strings: with or without escapes, on one line or on
several.  Line breaks inside a string become line feeds.
-/

namespace TorrentRemote.Toml

/-- White space inside a line. -/
def isInlineSpace (c : Char) : Bool := c == ' ' || c == '\t'

/-- The text after leading white space. -/
def skipSpace (cs : List Char) : List Char := cs.dropWhile isInlineSpace

/-- A character that may stand in a comment or in a string without escapes. -/
def isPlain (c : Char) : Bool := c == '\t' || (0x20 ≤ c.toNat && c.toNat != 0x7F)

/-- The text after a line break. -/
def afterLineBreak? : List Char → Option (List Char)
  | '\n' :: cs => some cs
  | '\r' :: '\n' :: cs => some cs
  | _ => none

/-- The text after white space, comments and line breaks. -/
def skipBlank (inComment : Bool) : List Char → List Char
  | '\r' :: '\n' :: cs => skipBlank false cs
  | '\n' :: cs => skipBlank false cs
  | c :: cs =>
    if inComment then (if isPlain c then skipBlank true cs else c :: cs)
    else if isInlineSpace c then skipBlank false cs
    else if c = '#' then skipBlank true cs
    else c :: cs
  | [] => []

/-- The text after the end of a line, which white space and a comment may precede. -/
def afterLine? (cs : List Char) : Option (List Char) :=
  let rest := match skipSpace cs with
    | '#' :: cs => cs.dropWhile isPlain
    | cs => cs
  match rest with
  | [] => some []
  | rest => afterLineBreak? rest

/-- The character with the number that a count of hexadecimal digits gives. -/
def numberedChar? (count : Nat) (cs : List Char) : Option (Char × List Char) := do
  let digits := cs.take count
  if digits.length ≠ count then none
  else
    let code ← digits.foldlM (fun value c => (Text.hexValue? c).map (16 * value + ·)) 0
    let c := Char.ofNat code
    if c.toNat = code then some (c, cs.drop count) else none

/-- The character that an escape stands for, after its backslash. -/
def escapedChar? : List Char → Option (Char × List Char)
  | 'b' :: cs => some ('\x08', cs)
  | 't' :: cs => some ('\t', cs)
  | 'n' :: cs => some ('\n', cs)
  | 'f' :: cs => some ('\x0c', cs)
  | 'r' :: cs => some ('\r', cs)
  | '"' :: cs => some ('"', cs)
  | '\\' :: cs => some ('\\', cs)
  | 'u' :: cs => numberedChar? 4 cs
  | 'U' :: cs => numberedChar? 8 cs
  | _ => none

/-- The rest of a string with escapes on one line; `fuel` bounds its length. -/
def basicRest? (fuel : Nat) (cs : List Char) : Option (List Char × List Char) :=
  match fuel, cs with
  | _, '"' :: cs => some ([], cs)
  | fuel + 1, '\\' :: cs => do
    let (c, cs) ← escapedChar? cs
    let (text, cs) ← basicRest? fuel cs
    some (c :: text, cs)
  | fuel + 1, c :: cs =>
    if isPlain c then (basicRest? fuel cs).map fun (text, cs) => (c :: text, cs) else none
  | _, _ => none

/-- The rest of a string without escapes on one line. -/
def literalRest? (cs : List Char) : Option (List Char × List Char) :=
  let isInside (c : Char) : Bool := isPlain c && c != '\''
  match cs.dropWhile isInside with
  | '\'' :: rest => some (cs.takeWhile isInside, rest)
  | _ => none

/-- White space and line breaks dropped. -/
def skipLines : List Char → List Char
  | '\r' :: '\n' :: cs => skipLines cs
  | c :: cs => if isInlineSpace c ∨ c = '\n' then skipLines cs else c :: cs
  | [] => []

/-- The text after a backslash at the end of a line and all white space that follows it. -/
def afterJoin? (cs : List Char) : Option (List Char) :=
  (afterLineBreak? (skipSpace cs)).map skipLines

/-- The quotes that belong to a string on several lines which ends in `count` quotes. -/
def closingQuotes (mark : Char) (count : Nat) : List Char :=
  List.replicate (min count 5 - 3) mark

/-- The rest of a string on several lines; `fuel` bounds its length. -/
def multilineRest? (mark : Char) (escapes : Bool) (fuel : Nat) (cs : List Char) :
    Option (List Char × List Char) :=
  match fuel with
  | 0 => none
  | fuel + 1 =>
    let quotes := (cs.takeWhile (· == mark)).length
    if 3 ≤ quotes then some (closingQuotes mark quotes, cs.drop (min quotes 5))
    else match cs with
      | [] => none
      | '\r' :: '\n' :: cs =>
        (multilineRest? mark escapes fuel cs).map fun (text, cs) => ('\n' :: text, cs)
      | '\n' :: cs =>
        (multilineRest? mark escapes fuel cs).map fun (text, cs) => ('\n' :: text, cs)
      | c :: cs =>
        if c = '\\' ∧ escapes then
          match afterJoin? cs with
          | some cs => multilineRest? mark escapes fuel cs
          | none => do
            let (c, cs) ← escapedChar? cs
            let (text, cs) ← multilineRest? mark escapes fuel cs
            some (c :: text, cs)
        else if isPlain c then
          (multilineRest? mark escapes fuel cs).map fun (text, cs) => (c :: text, cs)
        else none

/-- A string on several lines, after its opening quotes; a line break right behind them is no part
of it. -/
def readMultiline? (mark : Char) (escapes : Bool) (cs : List Char) :
    Option (String × List Char) :=
  let start := (afterLineBreak? cs).getD cs
  (multilineRest? mark escapes (start.length + 1) start).map fun (text, cs) =>
    (String.ofList text, cs)

/-- A string on one line. -/
def readLineString? : List Char → Option (String × List Char)
  | '"' :: cs => (basicRest? cs.length cs).map fun (text, cs) => (String.ofList text, cs)
  | '\'' :: cs => (literalRest? cs).map fun (text, cs) => (String.ofList text, cs)
  | _ => none

/-- A string. -/
def readString? : List Char → Option (String × List Char)
  | '"' :: '"' :: '"' :: cs => readMultiline? '"' true cs
  | '\'' :: '\'' :: '\'' :: cs => readMultiline? '\'' false cs
  | cs => readLineString? cs

/-! ### Keys -/

/-- A character of a key without quotes. -/
def isKeyChar (c : Char) : Bool := Text.isAsciiAlphanumeric c || c == '_' || c == '-'

/-- One key. -/
def readKey? (cs : List Char) : Option (String × List Char) :=
  match cs with
  | '"' :: _ => readLineString? cs
  | '\'' :: _ => readLineString? cs
  | cs =>
    match cs.takeWhile isKeyChar with
    | [] => none
    | key => some (String.ofList key, cs.dropWhile isKeyChar)

/-- Keys with dots between them; `fuel` bounds their count. -/
def readKeys? (fuel : Nat) (cs : List Char) : Option (List String × List Char) :=
  match fuel with
  | 0 => none
  | fuel + 1 => do
    let (key, cs) ← readKey? (skipSpace cs)
    match skipSpace cs with
    | '.' :: cs =>
      let (keys, cs) ← readKeys? fuel cs
      some (key :: keys, cs)
    | cs => some ([key], cs)

/-- The greatest depth to which tables and arrays may be nested. -/
def maxDepth : Nat := 79

/-- The path of keys to an entry or a table, and the text behind it. -/
def readPath? (cs : List Char) : Option (List String × List Char) := readKeys? maxDepth cs

end TorrentRemote.Toml
