import TorrentRemote.Unicode.Direction
import TorrentRemote.Unicode.IdnaTable
import TorrentRemote.Unicode.Joining
import TorrentRemote.Unicode.Marks
import TorrentRemote.Unicode.Normalization
import TorrentRemote.Url.Punycode

/-!
# International domain names

A domain name may hold characters of any script.  It is brought into one form, checked label by
label, and written in ASCII: a label with other characters becomes `xn--` and its Punycode.
-/

namespace TorrentRemote.Url.Domain

open Unicode (Ranges)

/-! ### Mapping -/

/-- What becomes of the characters from a code point on. -/
def rules : List Unicode.TableEntry := Unicode.readTable Unicode.idnaText

/-- The last entry of an ascending table that begins at or before `n`, or else `found`. -/
def lastBefore (n : Nat) (found : Option Unicode.TableEntry) :
    List Unicode.TableEntry → Option Unicode.TableEntry
  | [] => found
  | entry :: entries => if entry.code ≤ n then lastBefore n (some entry) entries else found

/-- What becomes of a character: nothing if it is not allowed. -/
def mapChar? (c : Char) : Option (List Char) :=
  if c.toNat < 0x80 then some [c.toLower]
  else match lastBefore c.toNat none rules with
    | some ⟨_, 'V', _⟩ => some [c]
    | some ⟨_, 'I', _⟩ => some []
    | some ⟨_, 'M', codes⟩ => some (codes.map Char.ofNat)
    | some ⟨first, 'R', codes⟩ => some (codes.map fun code => Char.ofNat (code + (c.toNat - first)))
    | _ => none

/-- A domain name in its one form. -/
def map? (cs : List Char) : Option (List Char) :=
  (cs.mapM mapChar?).map fun mapped => Unicode.normalize mapped.flatten

/-! ### Checks -/

/-- What the ASCII form of an international label begins with. -/
def asciiPrefix : List Char := ['x', 'n', '-', '-']

/-- Whether a character cannot stand in a domain name. -/
def isForbidden (c : Char) : Bool :=
  c.toNat ≤ 0x20 || c.toNat = 0x7F ||
    c ∈ ['#', '%', '/', ':', '<', '>', '?', '@', '[', '\\', ']', '^', '|']

/-- Whether joiners stand only where they change how a text is drawn: after a sign that silences a
vowel, or, for the character that keeps letters apart, between two letters that would connect. -/
def joinersFit (before : List Char) : List Char → Bool
  | [] => true
  | c :: after =>
    let afterVirama := match before with
      | [] => false
      | b :: _ => Unicode.combiningClass b = 9
    let beginsWith (letters : Ranges) (cs : List Char) : Bool :=
      match cs.dropWhile Unicode.joiningTransparent.contains with
      | [] => false
      | d :: _ => letters.contains d
    let fits :=
      if c = '\u200C' then
        afterVirama ||
          (beginsWith Unicode.joinsNext before && beginsWith Unicode.joinsPrevious after)
      else if c = '\u200D' then afterVirama
      else true
    fits && joinersFit (c :: before) after

/-- Whether a label begins and holds together as it should. -/
def isLabel (label : List Char) : Bool :=
  (match label with
    | [] => true
    | c :: _ => !Unicode.marks.contains c) &&
  joinersFit [] label

/-- Whether a character makes the direction of a name matter. -/
def isRightToLeft (c : Char) : Bool :=
  Unicode.rightToLeft.contains c || Unicode.arabicNumbers.contains c

/-- Whether a character is written from left to right. -/
def isLeftToRight (c : Char) : Bool :=
  !(isRightToLeft c || Unicode.europeanNumbers.contains c || Unicode.nonspacing.contains c ||
    Unicode.neutral.contains c)

/-- Whether a label can be read in one direction. -/
def directionFits (label : List Char) : Bool :=
  match label, label.reverse.dropWhile Unicode.nonspacing.contains with
  | [], _ => true
  | _, [] => false
  | first :: _, last :: _ =>
    if Unicode.rightToLeft.contains first then
      label.all (fun c => !isLeftToRight c) &&
        (isRightToLeft last || Unicode.europeanNumbers.contains last) &&
        !(label.any Unicode.europeanNumbers.contains && label.any Unicode.arabicNumbers.contains)
    else if isLeftToRight first then
      label.all (fun c => !isRightToLeft c) &&
        (isLeftToRight last || Unicode.europeanNumbers.contains last)
    else false

/-! ### Writing in ASCII -/

/-- Whether all characters are ASCII. -/
def isAscii (cs : List Char) : Bool := cs.all fun c => c.toNat < 0x80

/-- The characters that a mapped label stands for, if its ASCII form is in order. -/
def decodeLabel? (label : List Char) : Option (List Char) :=
  match asciiPrefix.isPrefixOf? label with
  | none => some label
  | some code => do
    let decoded ← Punycode.decode? code
    if isAscii decoded || Unicode.normalize decoded != decoded ||
        decoded.any (fun c => mapChar? c != some [c]) then none
    else some decoded

/-- A label in ASCII. -/
def encodeLabel (label : List Char) : List Char :=
  if isAscii label then label else asciiPrefix ++ Punycode.encode label

/-- A domain name in ASCII, if it is one. -/
def toAscii? (cs : List Char) : Option (List Char) := do
  let mapped ← map? cs
  let labels ← (mapped.splitOn '.').mapM decodeLabel?
  if labels.all isLabel && (!labels.any (·.any isRightToLeft) || labels.all directionFits) then
    let written := ['.'].intercalate (labels.map encodeLabel)
    if written.any isForbidden then none else some written
  else none

end TorrentRemote.Url.Domain
