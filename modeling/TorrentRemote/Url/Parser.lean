import TorrentRemote.Url.Basic
import TorrentRemote.Url.Domain
import TorrentRemote.Url.Percent

/-!
# Reading URLs

A text is read from its scheme on: user and password, host, port, path, query and fragment.  Blank
and control characters around the text, and tabs and line breaks in it, are passed over.  Only the
host and the port can be wrong; everything behind them is encoded as needed.
-/

namespace TorrentRemote.Url

/-! ### Preparation and scheme -/

/-- A text without control characters and spaces at its ends, and without tabs and line breaks. -/
def clean (cs : List Char) : List Char :=
  let isOuter (c : Char) : Bool := c.toNat ≤ 0x20
  ((cs.dropWhile isOuter).reverse.dropWhile isOuter).reverse.filter fun c =>
    c != '\t' && c != '\n' && c != '\r'

/-- A character that may occur in a scheme behind its first letter. -/
def isSchemeChar (c : Char) : Bool := c.isAlphanum || c == '+' || c == '-' || c == '.'

/-- The scheme of a URL in lower case, and what follows its colon. -/
def splitScheme? (cs : List Char) : Option (List Char × List Char) :=
  match cs.takeWhile isSchemeChar, cs.dropWhile isSchemeChar with
  | first :: scheme, ':' :: rest =>
    if first.isAlpha then some ((first :: scheme).map Char.toLower, rest) else none
  | _, _ => none

/-! ### Host -/

/-- The host that a text in brackets stands for. -/
def bracketHost (cs : List Char) : Except UrlError Host :=
  match cs.reverse with
  | ']' :: rest =>
    match parseIpv6? rest.reverse with
    | some groups => .ok (.ipv6 groups)
    | none => .error .ipv6
  | _ => .error .ipv6

/-- The host of a URL with a special scheme. -/
def specialHost : List Char → Except UrlError Host
  | '[' :: cs => bracketHost cs
  | cs =>
    match (percentDecodeText? cs).bind Domain.toAscii? with
    | none => .error .domain
    | some [] => .error .emptyHost
    | some name =>
      if endsInNumber name then
        match parseIpv4? name with
        | some address => .ok (.ipv4 address)
        | none => .error .ipv4
      else .ok (.domain name)

/-- Whether a character cannot stand in the host of a URL without a special scheme. -/
def isHostForbidden (c : Char) : Bool :=
  c ∈ ['\x00', '\t', '\n', '\r', ' ', '#', '/', ':', '<', '>', '?', '@', '[', '\\', ']', '^', '|']

/-- The host of a URL without a special scheme. -/
def plainHost : List Char → Except UrlError Host
  | '[' :: cs => bracketHost cs
  | cs =>
    if cs.any isHostForbidden then .error .domainCharacter
    else .ok (.domain (percentEncode [] cs))

/-- The beginning of a text up to the first colon outside brackets, and the rest. -/
def splitHost (inBrackets : Bool) : List Char → List Char × List Char
  | [] => ([], [])
  | c :: cs =>
    if c = ':' ∧ ¬ inBrackets then ([], c :: cs)
    else
      let parts := splitHost (if c = '[' then true else if c = ']' then false else inBrackets) cs
      (c :: parts.1, parts.2)

/-- The port behind a host, and what follows it: nothing, or a text that begins with a backslash
and belongs to the path. -/
def parsePort (scheme : List Char) : List Char → Except UrlError (Option Nat × List Char)
  | ':' :: cs =>
    let digits := cs.takeWhile Char.isDigit
    let rest := cs.dropWhile Char.isDigit
    if rest.isEmpty || rest.head? = some '\\' then
      let port := Text.digitsValue digits 0
      if 65535 < port then .error .port
      else .ok (if digits.isEmpty || defaultPort? scheme = some port then none else some port, rest)
    else .error .port
  | cs => .ok (none, cs)

/-! ### Authority -/

/-- User name, password, host and port of a URL. -/
structure Authority where
  username : List Char
  password : List Char
  host : Option Host
  port : Option Nat

/-- The part before the last at sign of a text, if it has one, and the part behind it. -/
def splitUser (cs : List Char) : Option (List Char) × List Char :=
  let behind := (cs.reverse.takeWhile (· != '@')).reverse
  if behind.length = cs.length then (none, cs)
  else (some (cs.take (cs.length - behind.length - 1)), behind)

/-- The authority that begins a text, and the rest of the text; `more` tells whether anything
follows the text. -/
def parseAuthority (scheme : List Char) (more : Bool) (cs : List Char) :
    Except UrlError (Authority × List Char) := do
  let (user, address) := splitUser cs
  if user = some [] ∧ address = [] ∧ more then throw .emptyHost
  let user := user.getD []
  let username := percentEncode userSpecial (user.takeWhile (· != ':'))
  let password := percentEncode userSpecial ((user.dropWhile (· != ':')).drop 1)
  let (hostText, portText) := splitHost false address
  if isSpecial scheme ∧ hostText = [] then throw .emptyHost
  let host ← if isSpecial scheme then specialHost hostText else plainHost hostText
  if hostText = [] ∧ portText ≠ [] then throw .emptyHost
  let (port, rest) ← parsePort scheme portText
  if hostText = [] ∧ (username ≠ [] ∨ password ≠ []) then throw .emptyHost
  pure (⟨username, password, if hostText = [] then none else some host, port⟩, rest)

/-! ### Path, query and fragment -/

/-- Whether a segment stands for the directory itself. -/
def isSingleDot (segment : List Char) : Bool :=
  String.ofList (segment.map Char.toLower) ∈ [".", "%2e"]

/-- Whether a segment stands for the directory above. -/
def isDoubleDot (segment : List Char) : Bool :=
  String.ofList (segment.map Char.toLower) ∈ ["..", ".%2e", "%2e.", "%2e%2e"]

/-- Whether a segment is the letter of a drive. -/
def isDriveLetter (segment : List Char) : Bool :=
  match segment with
  | [letter, mark] => letter.isAlpha && (mark = ':' || mark = '|')
  | _ => false

/-- Follows one more segment from a path; the last segment of a path that names a directory is
followed by an empty one. -/
def followSegment (isFile isLast : Bool) (path : List (List Char)) (segment : List Char) :
    List (List Char) :=
  let close (path : List (List Char)) := if isLast then path ++ [[]] else path
  if isDoubleDot segment then
    close (if isFile && path.length = 1 && path.any isDriveLetter then path else path.dropLast)
  else if isSingleDot segment then close path
  else if isFile && path.isEmpty && isDriveLetter segment then [segment.take 1 ++ [':']]
  else path ++ [percentEncode pathSpecial segment]

/-- Follows segments from a path, the last of them as the last. -/
def followSegments (isFile : Bool) (path : List (List Char)) :
    List (List Char) → List (List Char)
  | [] => path
  | [segment] => followSegment isFile true path segment
  | segment :: segments => followSegments isFile (followSegment isFile false path segment) segments

/-- Whether a character separates the segments of a path. -/
def isSeparator (scheme : List Char) (c : Char) : Bool := c = '/' || (c = '\\' && isSpecial scheme)

/-- The path that a text stands for, after its leading separator. -/
def parseSegments (scheme : List Char) (cs : List Char) : Path :=
  .segments <| followSegments (scheme = "file".toList) [] (cs.splitOnP (isSeparator scheme))

/-- The path behind an authority. -/
def parsePath (scheme : List Char) : List Char → Path
  | [] => if isSpecial scheme then .segments [[]] else .segments []
  | c :: cs => parseSegments scheme (if isSeparator scheme c then cs else c :: cs)

/-- The path, the query and the fragment of a text. -/
def splitTail (cs : List Char) : List Char × Option (List Char) × Option (List Char) :=
  let fragment := match cs.dropWhile (· != '#') with
    | [] => none
    | _ :: fragment => some fragment
  let cs := cs.takeWhile (· != '#')
  let query := match cs.dropWhile (· != '?') with
    | [] => none
    | _ :: query => some query
  (cs.takeWhile (· != '?'), query, fragment)

/-- A URL with the given path, query and fragment. -/
def build (scheme : List Char) (authority : Authority) (path : Path)
    (query fragment : Option (List Char)) : Url where
  scheme
  username := authority.username
  password := authority.password
  host := authority.host
  port := authority.port
  path
  query := query.map (percentEncode (querySpecial (isSpecial scheme)))
  fragment := fragment.map (percentEncode fragmentSpecial)

/-! ### Whole URLs -/

/-- No user, host and port. -/
def noAuthority : Authority := ⟨[], [], none, none⟩

/-- The URL whose authority begins with `cs`. -/
def parseBehindSlashes (scheme : List Char) (cs : List Char) : Except UrlError Url := do
  let (cs, query, fragment) := splitTail cs
  let isEnd (c : Char) : Bool := isSeparator scheme c
  let text := cs.takeWhile fun c => !isEnd c
  let rest := cs.dropWhile fun c => !isEnd c
  let more := !rest.isEmpty || query.isSome || fragment.isSome
  let (authority, start) ← parseAuthority scheme more text
  pure (build scheme authority (parsePath scheme (start ++ rest)) query fragment)

/-- The host of a URL with scheme `file`; this computer is no host. -/
def fileHost (cs : List Char) : Except UrlError (Option Host) :=
  if cs = [] then .ok none
  else do
    match ← specialHost cs with
    | .domain name => pure (if name = "localhost".toList then none else some (.domain name))
    | host => pure (some host)

/-- The URL with scheme `file` whose part behind the scheme is given. -/
def parseFile (scheme : List Char) (cs : List Char) : Except UrlError Url := do
  let (cs, query, fragment) := splitTail cs
  let isEnd (c : Char) : Bool := isSeparator scheme c
  match cs with
  | a :: b :: rest =>
    if isEnd a && isEnd b then
      let hostText := rest.takeWhile fun c => !isEnd c
      if isDriveLetter hostText then
        pure (build scheme noAuthority (parseSegments scheme rest) query fragment)
      else
        let host ← fileHost hostText
        let path := parsePath scheme (rest.dropWhile fun c => !isEnd c)
        let hasDrive := match path with
          | .segments (segment :: _) => isDriveLetter segment
          | _ => false
        pure (build scheme ⟨[], [], if hasDrive then none else host, none⟩ path query fragment)
    else
      pure (build scheme noAuthority (parsePath scheme (a :: b :: rest)) query fragment)
  | cs => pure (build scheme noAuthority (parsePath scheme cs) query fragment)

/-- The URL without a special scheme whose part behind the scheme is given. -/
def parsePlain (scheme : List Char) : List Char → Except UrlError Url
  | '/' :: '/' :: cs => parseBehindSlashes scheme cs
  | '/' :: cs =>
    let (cs, query, fragment) := splitTail cs
    .ok (build scheme noAuthority (parseSegments scheme cs) query fragment)
  | cs =>
    let (cs, query, fragment) := splitTail cs
    .ok (build scheme noAuthority (.opaquePath (percentEncode [] cs)) query fragment)

/-- The URL that a text stands for. -/
def parse (text : String) : Except UrlError Url :=
  match splitScheme? (clean text.toList) with
  | none => .error .relative
  | some (scheme, rest) =>
    if scheme = "file".toList then parseFile scheme rest
    else if isSpecial scheme then
      parseBehindSlashes scheme (rest.dropWhile (isSeparator scheme))
    else parsePlain scheme rest

/-- The host in a text, if the text is a URL with a host. -/
def hostOf? (text : String) : Option String :=
  match parse text with
  | .ok url => url.hostText?
  | .error _ => none

end TorrentRemote.Url
