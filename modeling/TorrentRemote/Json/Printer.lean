import TorrentRemote.Json.Basic
import TorrentRemote.Text.Ascii
import TorrentRemote.Text.Decimal

/-!
# Writing JSON

A JSON value is written without white space.  Quotes, backslashes and control characters are
escaped, all other characters stand for themselves.
-/

namespace TorrentRemote.Json

/-- A character inside a JSON string. -/
def escapeChar (c : Char) : List Char :=
  match c with
  | '"' => ['\\', '"']
  | '\\' => ['\\', '\\']
  | '\n' => ['\\', 'n']
  | '\r' => ['\\', 'r']
  | '\t' => ['\\', 't']
  | '\x08' => ['\\', 'b']
  | '\x0c' => ['\\', 'f']
  | c =>
    if c.toNat < 0x20 then
      ['\\', 'u', '0', '0', Text.hexDigit (c.toNat / 16), Text.hexDigit (c.toNat % 16)]
    else [c]

/-- A text as a JSON string. -/
def quote (s : String) : String :=
  String.ofList ('"' :: s.toList.flatMap escapeChar ++ ['"'])

mutual

/-- The text of a value. -/
def render : Json → String
  | null => "null"
  | bool true => "true"
  | bool false => "false"
  | integer value => Text.showInt value
  | decimal text => text
  | string value => quote value
  | array items => "[" ++ String.intercalate "," (renderItems items) ++ "]"
  | object members => "\x7b" ++ String.intercalate "," (renderMembers members) ++ "\x7d"

/-- The texts of the items of an array. -/
def renderItems : List Json → List String
  | [] => []
  | item :: items => render item :: renderItems items

/-- The texts of the members of an object. -/
def renderMembers : List (String × Json) → List String
  | [] => []
  | member :: members => renderMember member :: renderMembers members

/-- The text of one member of an object. -/
def renderMember : String × Json → String
  | (key, value) => quote key ++ ":" ++ render value

end

end TorrentRemote.Json
