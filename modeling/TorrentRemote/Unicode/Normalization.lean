import TorrentRemote.Unicode.DecompositionTable
import TorrentRemote.Unicode.TableText

/-!
# Normalization form C

A text is normalized by taking every character apart, putting the marks behind each letter in the
order of their classes, and composing letters with the marks that follow them.
-/

namespace TorrentRemote.Unicode

/-- The canonical decompositions, Hangul syllables apart. -/
def decompositions : List TableEntry := readTable decompositionText

/-- The canonical combining class of a character. -/
def combiningClass (c : Char) : Nat :=
  match combiningClassRuns.find? fun run => run.1 ≤ c.toNat && c.toNat ≤ run.2.1 with
  | some run => run.2.2
  | none => 0

/-! ### Taking apart -/

/-- The jamo of a Hangul syllable. -/
def decomposeHangul (n : Nat) : List Char :=
  let index := n - 0xAC00
  let tail := index % 28
  [Char.ofNat (0x1100 + index / 588), Char.ofNat (0x1161 + index % 588 / 28)] ++
    if tail = 0 then [] else [Char.ofNat (0x11A7 + tail)]

/-- The full decomposition of a character; `depth` bounds how often the first part of a
decomposition is taken apart in turn. -/
def decomposeChar (depth : Nat) (c : Char) : List Char :=
  let n := c.toNat
  if n < 0xC0 then [c]
  else if 0xAC00 ≤ n ∧ n ≤ 0xD7A3 then decomposeHangul n
  else match depth, decompositions.find? fun entry => entry.code == n with
    | depth + 1, some ⟨_, 'P', first :: rest⟩ =>
      decomposeChar depth (Char.ofNat first) ++ rest.map Char.ofNat
    | _, some ⟨_, _, codes⟩ => codes.map Char.ofNat
    | _, none => [c]

/-- The marks of a text with one more character before them, the marks in the order of their
classes. -/
def insertMark (c : Char) : List Char → List Char
  | [] => [c]
  | d :: ds =>
    if combiningClass d ≠ 0 ∧ combiningClass d < combiningClass c then d :: insertMark c ds
    else c :: d :: ds

/-- A text with the marks behind each letter in the order of their classes. -/
def orderMarks (cs : List Char) : List Char :=
  cs.foldr (fun c rest => if combiningClass c = 0 then c :: rest else insertMark c rest) []

/-- A text taken apart. -/
def decompose (cs : List Char) : List Char := orderMarks (cs.flatMap (decomposeChar 8))

/-! ### Composing -/

/-- The Hangul syllable of two parts. -/
def composeHangul? (a b : Nat) : Option Char :=
  if 0x1100 ≤ a ∧ a ≤ 0x1112 ∧ 0x1161 ≤ b ∧ b ≤ 0x1175 then
    some (Char.ofNat (0xAC00 + ((a - 0x1100) * 21 + (b - 0x1161)) * 28))
  else if 0xAC00 ≤ a ∧ a ≤ 0xD7A3 ∧ (a - 0xAC00) % 28 = 0 ∧ 0x11A8 ≤ b ∧ b ≤ 0x11C2 then
    some (Char.ofNat (a + (b - 0x11A7)))
  else none

/-- The character that two characters compose to. -/
def composePair? (a b : Char) : Option Char :=
  match composeHangul? a.toNat b.toNat with
  | some c => some c
  | none =>
    (decompositions.find? fun entry =>
      entry.letter == 'P' && entry.codes == [a.toNat, b.toNat]).map fun entry =>
        Char.ofNat entry.code

/-- Composes the rest of a text after a letter and the marks behind it that did not compose, in
reverse. -/
def composeAfter (letter : Char) (marks : List Char) : List Char → List Char
  | [] => letter :: marks.reverse
  | c :: cs =>
    let free := match marks with
      | [] => true
      | mark :: _ => combiningClass mark < combiningClass c
    match if free then composePair? letter c else none with
    | some composed => composeAfter composed marks cs
    | none =>
      if combiningClass c = 0 then letter :: marks.reverse ++ composeAfter c [] cs
      else composeAfter letter (c :: marks) cs

/-- A text with letters composed with their marks; marks at its beginning stay as they are. -/
def compose : List Char → List Char
  | [] => []
  | c :: cs => if combiningClass c = 0 then composeAfter c [] cs else c :: compose cs

/-- The normalization form C of a text. -/
def normalize (cs : List Char) : List Char :=
  if cs.all fun c => c.toNat < 0xC0 then cs else compose (decompose cs)

end TorrentRemote.Unicode
