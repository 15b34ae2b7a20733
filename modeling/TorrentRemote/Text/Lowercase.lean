import TorrentRemote.Unicode.CaseMapping

/-!
# Lower case

The full Unicode lower case of a text.  Two characters are special: the capital `İ` becomes an `i`
with a dot above, and a capital sigma becomes `ς` at the end of a word and `σ` elsewhere.  A sigma
ends a word if, passing over case-ignorable characters, a cased character stands before it and
none after it.
-/

namespace TorrentRemote.Text

open Unicode (CaseRun)

/-- Whether the run maps a code point. -/
def mapsCode (run : CaseRun) (n : Nat) : Bool :=
  run.first ≤ n && n ≤ run.last && (n - run.first) % run.step == 0

/-- The lower case of one character by itself. -/
def lowerChar (c : Char) : Char :=
  if c.toNat < 0x80 then c.toLower
  else match Unicode.lowerCaseRuns.find? (mapsCode · c.toNat) with
    | some run => Char.ofNat (c.toNat + run.shift).toNat
    | none => c

/-- Whether the first character that is not case-ignorable is cased. -/
def startsCased (cs : List Char) : Bool :=
  match cs.dropWhile Unicode.caseIgnorable.contains with
  | [] => false
  | c :: _ => Unicode.cased.contains c

/-- The lower case of a character between the reversed text before it and the text after it. -/
def lowerAt (before : List Char) (c : Char) (after : List Char) : List Char :=
  match c with
  | 'Σ' => if startsCased before && !startsCased after then ['ς'] else ['σ']
  | 'İ' => ['i', '\u0307']
  | c => [lowerChar c]

/-- The lower case of a text that continues the reversed text `before`. -/
def lowerFrom (before : List Char) : List Char → List Char
  | [] => []
  | c :: after => lowerAt before c after ++ lowerFrom (c :: before) after

/-- The lower case of a text. -/
def lowercase (s : String) : String := String.ofList (lowerFrom [] s.toList)

end TorrentRemote.Text
