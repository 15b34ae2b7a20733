import TorrentRemote.Interaction
import TorrentRemote.Json.Basic
import TorrentRemote.Text.Base64
import TorrentRemote.Text.Diagnostic
import TorrentRemote.Text.Quoted
import TorrentRemote.Text.Utf8
import TorrentRemote.Url.Parser

/-!
# Exchanges with a daemon

A daemon listens at an address for requests whose bodies are JSON, and may ask for credentials and
for a session id.  An exchange is an interaction whose questions are requests and whose answers are
replies, or failures of the HTTP client.
-/

namespace TorrentRemote.Rpc

/-- A user name and a password. -/
structure Credentials where
  username : String
  password : String

/-- The header that names the user. -/
def Credentials.header (credentials : Credentials) : String :=
  let text := credentials.username ++ ":" ++ credentials.password
  "Basic " ++ Text.base64 text.toUTF8.toList

/-- Where a daemon listens, and how it is spoken to. -/
structure Endpoint where
  url : Url
  credentials : Option Credentials
  timeoutSecs : UInt64

/-- The diagnostic text of an endpoint. -/
def Endpoint.describe (endpoint : Endpoint) : String :=
  Text.partialRecordText "RpcClient" [("url", Text.quoted endpoint.url.text)]

/-- Builds the HTTP client for a time limit in seconds, or fails with a text.  Which of the two
depends on the machine. -/
abbrev HttpBuilder := UInt64 → Except String Unit

/-- A builder that never fails. -/
def HttpBuilder.ready : HttpBuilder := fun _ => .ok ()

/-- A request.  It is posted to the endpoint with a JSON body. -/
structure Request where
  authorization : Option String
  sessionId : Option String
  body : Json

/-- Why a request has no reply or a reply has no body: what can be seen of an error of the HTTP
client. -/
structure Failure where
  /-- The status that the error is about. -/
  status : Option Nat := none
  /-- The time limit passed. -/
  timedOut : Bool := false
  /-- The body is not what was expected. -/
  undecodable : Bool := false
  text : String
  /-- Whether the text goes on with the URL. -/
  namesUrl : Bool := false
  deriving DecidableEq

/-- The text of a failure at an endpoint. -/
def Failure.message (failure : Failure) (endpoint : Endpoint) : String :=
  if failure.namesUrl then failure.text ++ " for url (" ++ endpoint.url.text ++ ")"
  else failure.text

/-- The connection was refused or closed. -/
def Failure.noReply : Failure := { text := "error sending request", namesUrl := true }

/-- The time limit passed without a reply. -/
def Failure.timeout : Failure := { Failure.noReply with timedOut := true }

/-- The body of a reply does not have the expected shape. -/
def Failure.unreadable : Failure := { undecodable := true, text := "error decoding response body" }

/-- A reply: its status, the bytes of its session id header if it has one, and its body, unless that
does not arrive. -/
structure Reply where
  status : Nat
  sessionId : Option (List UInt8)
  body : Except Failure (List UInt8)

/-- An exchange of requests and replies. -/
abbrev Exchange (α : Type) := Interaction Request (fun _ => Except Failure Reply) α

/-- Sends one request. -/
def send (endpoint : Endpoint) (sessionId : Option String) (body : Json) :
    Exchange (Except Failure Reply) :=
  Interaction.request
    { authorization := endpoint.credentials.map Credentials.header, sessionId, body }

/-- The text of a header, if all of its bytes are visible ASCII characters, spaces or tabs. -/
def headerText? (bytes : List UInt8) : Option String :=
  if bytes.all fun byte => (32 ≤ byte && byte < 127) || byte == 9 then
    some (String.ofList (Text.byteChars bytes))
  else none

/-! ### Statuses -/

/-- The status that asks for another session id. -/
def conflictStatus : Nat := 409

/-- The status that asks for credentials. -/
def unauthorizedStatus : Nat := 401

/-- The standard phrases for statuses. -/
def statusPhrases : List (Nat × String) := [
  (100, "Continue"), (101, "Switching Protocols"), (102, "Processing"),
  (200, "OK"), (201, "Created"), (202, "Accepted"), (203, "Non Authoritative Information"),
  (204, "No Content"), (205, "Reset Content"), (206, "Partial Content"), (207, "Multi-Status"),
  (208, "Already Reported"), (226, "IM Used"),
  (300, "Multiple Choices"), (301, "Moved Permanently"), (302, "Found"), (303, "See Other"),
  (304, "Not Modified"), (305, "Use Proxy"), (307, "Temporary Redirect"),
  (308, "Permanent Redirect"),
  (400, "Bad Request"), (401, "Unauthorized"), (402, "Payment Required"), (403, "Forbidden"),
  (404, "Not Found"), (405, "Method Not Allowed"), (406, "Not Acceptable"),
  (407, "Proxy Authentication Required"), (408, "Request Timeout"), (409, "Conflict"),
  (410, "Gone"), (411, "Length Required"), (412, "Precondition Failed"),
  (413, "Payload Too Large"), (414, "URI Too Long"), (415, "Unsupported Media Type"),
  (416, "Range Not Satisfiable"), (417, "Expectation Failed"), (418, "I'm a teapot"),
  (421, "Misdirected Request"), (422, "Unprocessable Entity"), (423, "Locked"),
  (424, "Failed Dependency"), (425, "Too Early"), (426, "Upgrade Required"),
  (428, "Precondition Required"), (429, "Too Many Requests"),
  (431, "Request Header Fields Too Large"), (451, "Unavailable For Legal Reasons"),
  (500, "Internal Server Error"), (501, "Not Implemented"), (502, "Bad Gateway"),
  (503, "Service Unavailable"), (504, "Gateway Timeout"), (505, "HTTP Version Not Supported"),
  (506, "Variant Also Negotiates"), (507, "Insufficient Storage"), (508, "Loop Detected"),
  (510, "Not Extended"), (511, "Network Authentication Required")]

/-- A status with its phrase. -/
def statusText (status : Nat) : String :=
  Text.showNat status ++ " " ++
    ((statusPhrases.find? fun entry => entry.1 == status).map Prod.snd).getD
      "<unknown status code>"

/-- Whether a status says that the request succeeded. -/
def isSuccess (status : Nat) : Bool := 200 ≤ status && status < 300

end TorrentRemote.Rpc
