import TorrentRemote.Unicode.Emoji
import TorrentRemote.Unicode.GraphemeExtend
import TorrentRemote.Unicode.Joining
import TorrentRemote.Unicode.Width

/-!
# Display width

How many terminal columns a text takes.  A character by itself takes none, one or two columns.  In
a text the widths add up, except in sequences that are drawn as one sign: a line break of two
characters, emoji sequences, and the ligatures of some scripts.  The width of a text is found from
its end to its beginning, since what stands to the right of a character decides how it is drawn.

Control characters differ: by itself one takes no column, inside a text it takes one.
-/

namespace TorrentRemote.Text

/-! ### Single characters -/

/-- Whether a character takes no column of its own. -/
def isZeroWidth (c : Char) : Bool :=
  c != '\u2D7F' &&
    (Unicode.graphemeExtend.contains c || Unicode.defaultIgnorable.contains c ||
      Unicode.joiningJamo.contains c || Unicode.enclosingSigns.contains c)

/-- The columns of a character that is no control character. -/
def columnsOf (c : Char) : Nat :=
  if c.toNat < 0xA0 then 1
  else if c = '\u115F' then 2
  else if c = '\u17D8' then 3
  else if isZeroWidth c then 0
  else if Unicode.wide.contains c then 2
  else 1

/-- Whether a character is a control character. -/
def isControl (c : Char) : Bool := c.toNat < 0x20 || (0x7F ≤ c.toNat && c.toNat < 0xA0)

/-- The columns of a character by itself. -/
def charColumns (c : Char) : Nat := if isControl c then 0 else columnsOf c

/-! ### What stands to the right -/

/-- The right part of a ligature. -/
inductive LigatureTail where
  | alef
  | lamed
  | ya
  | vowelThenYa
  | consonant
  | consonantJoiner
  | toneLetter
  | orkhonI
  | coengLetter
  | vowelE
  | vowelAi
  deriving DecidableEq

/-- What stands to the right of a character, as far as it changes how the character is drawn. -/
inductive TailShape where
  | plain
  | lineFeed
  /-- A skin tone. -/
  | tone
  /-- One flag letter. -/
  | flagLetter
  /-- Two or more flag letters. -/
  | flagLetters
  | emoji
  /-- A joiner and an emoji. -/
  | joiner
  /-- A keycap, a joiner and an emoji. -/
  | joinedKeycap
  /-- Some flag letters, a joiner and an emoji. -/
  | joinedFlag (letters : Nat)
  /-- The letters and digits that end a tag sequence, a joiner and an emoji. -/
  | joinedTag (letters digits : Nat)
  /-- The tail of a ligature, with or without a joiner before it. -/
  | ligature (tail : LigatureTail) (joined : Bool)
  deriving DecidableEq

/-- The style that a variation selector asks for. -/
inductive RequestedStyle where
  | unset
  | emoji
  | text
  deriving DecidableEq

/-- What stands to the right of a character: a shape, and a variation selector before it. -/
structure Tail where
  shape : TailShape
  style : RequestedStyle
  deriving DecidableEq

namespace Tail

/-- A shape without variation selector. -/
def of (shape : TailShape) : Tail := ⟨shape, .unset⟩

/-- Nothing of interest. -/
def plain : Tail := of .plain

/-- Whether the shape is the tail of a ligature. -/
def isLigature (tail : Tail) : Bool :=
  match tail.shape with
  | .ligature _ _ => true
  | _ => false

/-- Whether the shape is an emoji with a joiner before it. -/
def isJoined (tail : Tail) : Bool := tail.shape = .joiner || tail.shape = .joinedKeycap

/-- The tail after a request for emoji style. -/
def requestEmoji (tail : Tail) : Tail :=
  if tail.isLigature || tail.isJoined then ⟨tail.shape, .emoji⟩ else ⟨.plain, .emoji⟩

/-- The tail after a request for text style. -/
def requestText (tail : Tail) : Tail :=
  if tail.isLigature then ⟨tail.shape, .text⟩ else ⟨.plain, .text⟩

/-- The tail without its request for a style. -/
def dropRequest (tail : Tail) : Tail := if tail.isLigature then of tail.shape else plain

end Tail

/-- The tail that a character begins if what follows it does not matter. -/
def tailOf (c : Char) : Tail :=
  let n := c.toNat
  if c = '\u05DC' then .of (.ligature .lamed false)
  else if 0x622 ≤ n && n ≤ 0x882 && Unicode.Ranges.contains
      [(0x622, 0x623), (0x625, 0x625), (0x627, 0x627), (0x671, 0x673), (0x675, 0x675),
        (0x773, 0x774), (0x870, 0x882)] c then .of (.ligature .alef false)
  else if 0x1780 ≤ n && n ≤ 0x17AF && Unicode.Ranges.contains
      [(0x1780, 0x1782), (0x1784, 0x1787), (0x1789, 0x178C), (0x178E, 0x1793), (0x1795, 0x1798),
        (0x179B, 0x179D), (0x17A0, 0x17A0), (0x17A2, 0x17A2), (0x17A7, 0x17A7), (0x17AB, 0x17AC),
        (0x17AF, 0x17AF)] c then .of (.ligature .coengLetter false)
  else if c = '\u1A10' then .of (.ligature .ya false)
  else if (0x2D31 ≤ n && n ≤ 0x2D65) || n = 0x2D6F then .of (.ligature .consonant false)
  else if n = 0xA4FC || n = 0xA4FD then .of (.ligature .toneLetter false)
  else if n = 0xFE0E then ⟨.plain, .text⟩
  else if n = 0xFE0F then ⟨.plain, .emoji⟩
  else if n = 0x10C03 then .of (.ligature .orkhonI false)
  else if n = 0x16D67 then .of (.ligature .vowelE false)
  else if n = 0x16D68 then .of (.ligature .vowelAi false)
  else if 0x1F1E6 ≤ n && n ≤ 0x1F1FF then .of .flagLetter
  else if 0x1F3FB ≤ n && n ≤ 0x1F3FF then .of .tone
  else if Unicode.emojiPresentation.contains c then .of .emoji
  else .plain

/-- Whether a character leaves the ligature around it as it is. -/
def isLigatureTransparent (c : Char) : Bool :=
  Unicode.Ranges.contains
    [(0x34F, 0x34F), (0x17B4, 0x17B5), (0x180B, 0x180D), (0x180F, 0x180F), (0x200D, 0x200D),
      (0xFE00, 0xFE0F), (0xE0100, 0xE01EF)] c

/-- Whether a mark stands between two letters without keeping them from joining. -/
def isJoiningTransparent (c : Char) : Bool :=
  columnsOf c == 0 && Unicode.joiningTransparent.contains c

/-- Whether a character is a letter for flags. -/
def isFlagLetter (c : Char) : Bool := 0x1F1E6 ≤ c.toNat && c.toNat ≤ 0x1F1FF

/-- Whether a character begins a ligature with its right neighbours, and then what it adds to the
width and what the left neighbour sees. -/
def ligatureStep? (c : Char) (tail : LigatureTail) (joined : Bool) : Option (Int × Tail) :=
  let n := c.toNat
  match tail, joined with
  | .alef, _ =>
    if Unicode.Ranges.contains
        [(0x644, 0x644), (0x6B5, 0x6B8), (0x76A, 0x76A), (0x8A6, 0x8A6), (0x8C7, 0x8C7)] c
    then some (0, .plain)
    else if isJoiningTransparent c then some (0, .of (.ligature .alef false))
    else none
  | .lamed, true => if n = 0x5D0 then some (0, .plain) else none
  | .coengLetter, _ => if n = 0x17D2 then some (-1, .plain) else none
  | .ya, true => if n = 0x1A17 then some (0, .of (.ligature .vowelThenYa false)) else none
  | .vowelThenYa, _ => if n = 0x1A15 then some (0, .plain) else none
  | .consonant, joined =>
    if n = 0x2D7F then some (1, .of (.ligature .consonantJoiner false))
    else if joined && ((0x2D31 ≤ n && n ≤ 0x2D65) || n = 0x2D6F) then some (0, .plain)
    else none
  | .consonantJoiner, _ =>
    if (0x2D31 ≤ n && n ≤ 0x2D65) || n = 0x2D6F then some (-1, .plain) else none
  | .toneLetter, _ => if 0xA4F8 ≤ n && n ≤ 0xA4FB then some (0, .plain) else none
  | .orkhonI, true => if n = 0x10C32 then some (0, .plain) else none
  | .vowelE, _ =>
    if n = 0x16D63 then some (0, .plain)
    else if n = 0x16D67 then some (0, .of (.ligature .vowelAi false))
    else if n = 0x16D68 then some (1, .of (.ligature .vowelE false))
    else if n = 0x16D69 then some (0, .plain)
    else none
  | .vowelAi, _ => if n = 0x16D63 then some (0, .plain) else none
  | _, _ => none

/-- Whether a character continues an emoji sequence to the left, and then what it adds to the
width and what the left neighbour sees. -/
def emojiStep? (c : Char) (shape : TailShape) : Option (Int × Tail) :=
  let n := c.toNat
  match shape with
  | .tone =>
    if Unicode.emojiModifierBase.contains c then some (0, .of .emoji)
    else if n = 0x200D then some (0, .of .joiner)
    else none
  | .flagLetter => if isFlagLetter c then some (1, .of .flagLetters) else none
  | .flagLetters =>
    if isFlagLetter c then some (1, .of .flagLetters)
    else if n = 0x200D then some (0, .of .joiner)
    else none
  | .emoji => if n = 0x200D then some (0, .of .joiner) else none
  | .joiner =>
    if n = 0x20E3 then some (0, .of .joinedKeycap)
    else if isFlagLetter c then some (1, .of (.joinedFlag 1))
    else if 0x1F3FB ≤ n && n ≤ 0x1F3FF then some (0, .of .tone)
    else if n = 0xE007F then some (0, .of (.joinedTag 0 0))
    else if tailOf c = .of .emoji then some (0, .of .emoji)
    else none
  | .joinedFlag letters =>
    if isFlagLetter c then
      some (if letters % 2 = 1 then -1 else 3, .of (.joinedFlag (letters + 1)))
    else if n = 0x200D && letters ≠ 1 then some (0, .of .joiner)
    else none
  | .joinedTag letters digits =>
    if 0xE0061 ≤ n && n ≤ 0xE007A && digits = 0 && letters < 6 then
      some (0, .of (.joinedTag (letters + 1) 0))
    else if 0xE0030 ≤ n && n ≤ 0xE0039 && digits < 3 && (digits ≠ 0 || letters ≤ 4) then
      some (0, .of (.joinedTag letters (digits + 1)))
    else if n = 0x1F3F4 && ((digits = 0 && 3 ≤ letters) || digits = 3) then some (0, .of .emoji)
    else none
  | _ => none

/-- What a character adds to the width of a text before a given tail, and the tail that its left
neighbour sees, once no variation selector applies to it. -/
def unstyledStep (c : Char) (tail : Tail) : Int × Tail :=
  let drawn : Int × Tail := (columnsOf c, tailOf c)
  match tail.shape with
  | .ligature kind joined =>
    if kind ∉ [.alef, .vowelE, .vowelAi] ∧ isLigatureTransparent c then
      (0, if c = '\u200D' then ⟨.ligature kind true, tail.style⟩ else tail)
    else (ligatureStep? c kind joined).getD drawn
  | shape => (emojiStep? c shape).getD drawn

/-- What a character adds to the width of a text before a given tail, and the tail that its left
neighbour sees. -/
def columnStep (c : Char) (tail : Tail) : Int × Tail :=
  if tail.style = .emoji && Unicode.emojiOnRequest.contains c then
    (if tail.isJoined then 0 else 2, .of .emoji)
  else
    let tail := if tail.style = .emoji then tail.dropRequest else tail
    if c.toNat ≤ 0xA0 then
      if c = '\n' then (1, .of .lineFeed)
      else if c = '\r' && tail.shape = .lineFeed then (0, .plain)
      else (1, .plain)
    else if tail = .plain then (columnsOf c, tailOf c)
    else if c = '\uFE0F' then (0, tail.requestEmoji)
    else if c = '\uFE0E' then (0, tail.requestText)
    else if tail.style = .text then
      if Unicode.textOnRequest.contains c then (1, .plain) else unstyledStep c tail.dropRequest
    else unstyledStep c tail

/-- The width of a text and the tail that stands before it. -/
def columnsFrom (cs : List Char) : Int × Tail :=
  cs.foldr (fun c right =>
    let step := columnStep c right.2
    (right.1 + step.1, step.2)) (0, .plain)

/-- The number of terminal columns that a text takes. -/
def columns (s : String) : Nat := (columnsFrom s.toList).1.toNat

end TorrentRemote.Text
