import ServerLaunch.Error
import ServerLaunch.Server.Flag
import ServerLaunch.Config

/-!
# Server URL

Where a launched server answers.

A server may bind to all addresses of its host at once, but a client needs one to
connect to, so the two addresses that stand for all are replaced by those of the
host itself. An address with colons is put in brackets.

A base path is normalised twice, for two readers. On the command line it is trimmed
of blanks and ends with a slash; in the URL it stands between two single slashes,
whatever slashes it had at its ends.

## Main definitions

* `connectHost`: The host that clients connect to.
* `urlPath`: The path of the URL.
* `serverUrl`: The URL.
* `sanitizeBasePath`: The base path as the command line has it.
-/

namespace ServerLaunch

/-- The host that clients of a server bound to an address connect to. -/
def connectHost (address : String) : String :=
  if address == broadcastAddress4 then "127.0.0.1"
  else if address == broadcastAddress6 then "[::1]"
  else if address.toList.contains ':' && address.toList.head? != some '[' then
    "[" ++ address ++ "]"
  else address

/-- A slash. -/
def isSlash (c : Char) : Bool :=
  c == '/'

/-- The path of the URL: a single slash, or the base path between two. -/
def urlPath (basePath : Option String) : String :=
  match Text.trim isSlash (basePath.getD "").toList with
  | [] => "/"
  | inner => String.ofList ('/' :: (inner ++ ['/']))

/-- The URL under which a server answers; it ends with a slash. -/
def serverUrl (address : String) (port : Int) (basePath : Option String) : String :=
  "http://" ++ connectHost address ++ ":" ++ Numeral.intText port ++ urlPath basePath

/-- The URL that tells whether a server is ready. -/
def statusUrl (url : String) : String :=
  url ++ "status"

/-- Why a blank base path is refused. -/
def blankBasePathMessage : String :=
  "Given base path is not valid - blank or empty values are not allowed for base path"

/-- The base path as the command line has it: without blanks at its ends, and with a
    slash at its end. -/
def sanitizeBasePath (basePath : Option String) : Except LaunchError String :=
  let value := Text.trimmed (basePath.getD "")
  if value.toList.isEmpty then
    .error (LaunchError.of .invalidArgument blankBasePathMessage
      { argument := some basePathFlag, value := basePath })
  else if value.toList.getLast? == some '/' then .ok value
  else .ok (value ++ "/")

end ServerLaunch
