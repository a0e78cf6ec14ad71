import Externalize.Service.Listing
import Externalize.Text.Utf8

/-!
# `Externalize.Service.Call`: calls of the service

A `Call` is what gets to the service: the request as the web framework hands it over, with its address
taken apart already. The path of a call has exactly one slash before it. Header names are compared
without regard to letter case, and a dash in them is the same as an underscore.
-/

set_option autoImplicit false

namespace Externalize.Service

/-- A `Request` that got to the service. -/
structure Call where
  method : Text
  scheme : Text
  /-- The host that it names, which is empty if that is none. -/
  host : Text
  path : Text
  query : List (Text × Text)
  headers : List (Text × Text)
  body : Text
  deriving Repr, DecidableEq

/-- A header name in the form in which names are compared. -/
def headerKey (name : Text) : Text :=
  name.upper.map fun c => if c = '-' then '_' else c

/-- The value of the header `name` by its `headerKey`; several of one name are put together with
commas. -/
def headerIn? (headers : List (Text × Text)) (name : String) : Option Text :=
  let key := headerKey name.toList
  match (headers.filter fun entry => headerKey entry.1 == key).map (·.2) with
  | [] => none
  | values => some (List.intercalate [',', ' '] values)

namespace Call

/-- `headerIn?` for the headers of the call. -/
def header? (call : Call) (name : String) : Option Text :=
  headerIn? call.headers name

/-- The `method` in upper case. -/
def verb (call : Call) : Text :=
  call.method.upper

/-- The `host` in lower case and without its socket number. -/
def hostName (call : Call) : Text :=
  call.host.lower.takeWhile (· != ':')

/-- Whether the headers ask to go on as a conversation in both directions. -/
def asksUpgrade (call : Call) : Bool :=
  (Listing.plainWords ((call.header? "Connection").getD [])).contains "upgrade".toList &&
    ((call.header? "Upgrade").getD []).lower == "websocket".toList

/-- Whether the call is for a conversation in both directions, by its `scheme` or because it
`asksUpgrade`. -/
def isConversation (call : Call) : Bool :=
  call.scheme == "ws".toList || call.scheme == "wss".toList || call.asksUpgrade

/-- The `body` in UTF-8. One that comes in pieces of unknown number is not waited for. -/
def content (call : Call) : Octets :=
  if (Listing.words ((call.header? "Transfer-Encoding").getD [])).contains "chunked".toList then []
  else Utf8.encode call.body

end Call

end Externalize.Service
