import TorrentRemote.Url.Address

/-!
# URLs

The parts of a URL and its text.  A handful of schemes are special: their URLs always have a host,
their hosts are domain names or addresses, and a backslash separates like a slash.
-/

namespace TorrentRemote

/-- Why a text is no URL. -/
inductive UrlError where
  | emptyHost
  | domain
  | port
  | ipv4
  | ipv6
  | domainCharacter
  | relative
  deriving DecidableEq

/-- The message of a URL error. -/
def UrlError.message : UrlError → String
  | emptyHost => "empty host"
  | domain => "invalid international domain name"
  | port => "invalid port number"
  | ipv4 => "invalid IPv4 address"
  | ipv6 => "invalid IPv6 address"
  | domainCharacter => "invalid domain character"
  | relative => "relative URL without a base"

namespace Url

/-- The host of a URL. -/
inductive Host where
  | domain (name : List Char)
  | ipv4 (address : Nat)
  | ipv6 (groups : List Nat)
  deriving DecidableEq

/-- The text of a host. -/
def Host.text : Host → List Char
  | domain name => name
  | ipv4 address => showIpv4 address
  | ipv6 groups => '[' :: showIpv6 groups ++ [']']

/-- The path of a URL. -/
inductive Path where
  /-- A path of a URL without host that does not begin with a slash. -/
  | opaquePath (text : List Char)
  | segments (segments : List (List Char))
  deriving DecidableEq

end Url

/-- A URL. -/
structure Url where
  scheme : List Char
  username : List Char
  password : List Char
  host : Option Url.Host
  port : Option Nat
  path : Url.Path
  query : Option (List Char)
  fragment : Option (List Char)
  deriving DecidableEq

namespace Url

/-- Whether a scheme is special. -/
def isSpecial (scheme : List Char) : Bool :=
  String.ofList scheme ∈ ["http", "https", "ws", "wss", "ftp", "file"]

/-- The port that a scheme implies. -/
def defaultPort? (scheme : List Char) : Option Nat :=
  match String.ofList scheme with
  | "http" => some 80
  | "ws" => some 80
  | "https" => some 443
  | "wss" => some 443
  | "ftp" => some 21
  | _ => none

/-- The user name and the password as they stand before the host. -/
def userText (url : Url) : List Char :=
  if url.username.isEmpty && url.password.isEmpty then []
  else url.username ++ (if url.password.isEmpty then [] else ':' :: url.password) ++ ['@']

/-- The path as it stands behind the host. -/
def pathText (url : Url) : List Char :=
  match url.path with
  | .opaquePath text => text
  | .segments [] => []
  | .segments segments => segments.flatMap fun segment => '/' :: segment

/-- The text of a URL. -/
def text (url : Url) : String :=
  String.ofList <|
    url.scheme ++ [':'] ++
    (match url.host with
      | some host =>
        ['/', '/'] ++ url.userText ++ host.text ++
          (match url.port with
            | some port => ':' :: Text.decimalDigits port
            | none => [])
      | none => if isSpecial url.scheme then ['/', '/'] else []) ++
    url.pathText ++
    (match url.query with
      | some query => '?' :: query
      | none => []) ++
    (match url.fragment with
      | some fragment => '#' :: fragment
      | none => [])

/-- The text of the host of a URL, if it has one that is not empty. -/
def hostText? (url : Url) : Option String := url.host.map fun host => String.ofList host.text

end Url

end TorrentRemote
