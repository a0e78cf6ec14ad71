import Externalize.Service.Address
import Externalize.Service.Call

/-!
# `Externalize.Service.Request`: requests to the service

A request has a method, an address, headers and a body. A request whose address or headers make no
sense never gets to the service. Any other becomes a `Call`.

This module, with `Service.Address`, `Service.Host` and `HostName` below it, stands for the web framework
that the service runs in. The service itself knows calls only, so nothing that is said of
`Service.answer` rests on how a request becomes one.
-/

set_option autoImplicit false

namespace Externalize.Service

/-- A request. -/
structure Request where
  method : Text
  url : Text
  headers : List (Text × Text) := []
  body : Text := []
  deriving Repr, DecidableEq

/-- Why `Request.call` fails. -/
inductive RequestFault
  | host (fault : HostFault)
  /-- The value of a header goes over several lines. -/
  | brokenHeader
  deriving Repr, DecidableEq

/-- The text that is told of a fault. -/
def RequestFault.message : RequestFault → String
  | .host fault => fault.message
  | .brokenHeader => "Header values must not contain newline characters."

/-- The host of an address without one. -/
def ownHost : Text := "localhost".toList

/-- The scheme of an address without one. -/
def ownScheme : Text := "http".toList

/-- What an address asks for. -/
structure Target where
  scheme : Text
  host : Text
  path : Text
  query : Text
  deriving Repr, DecidableEq

/-- What an address asks for. Behind the host an address of its own may stand, of which the path and
the query count; if its path again is an address with a host, the host is the first part of the path.
Without its user the host may have lost one of its brackets. -/
def locate (url : Text) : Except HostFault Target := do
  let outer ← Address.split url
  let question := if outer.query.isEmpty then [] else '?' :: outer.query
  let inner ← Address.split (outer.path ++ question)
  let place ← Address.split inner.path
  let placeHost ← usedHost place.host
  let host ← usedHost (if outer.host.isEmpty then ownHost else outer.host)
  checkBrackets (cutAtLast '@' host).2
  return {
    scheme := if outer.scheme.isEmpty then ownScheme else outer.scheme
    host, path := Address.placeText place.scheme placeHost place.path, query := inner.query }

/-- The call that a request makes: `locate` of its `url`, and its headers with the host that they name. -/
def Request.call (request : Request) : Except RequestFault Call := do
  let target ← (locate request.url).mapError .host
  if request.headers.any fun header => header.2.any fun c => c == '\r' || c == '\n' then
    throw .brokenHeader
  let host := namedHost target.scheme ((headerIn? request.headers "Host").getD target.host)
  (checkNamedHost host).mapError .host
  return {
    method := request.method, scheme := target.scheme, host
    headers := request.headers, body := request.body
    path := '/' :: (unescapePath target.path).dropWhile (· == '/')
    query := queryPairs target.query }

end Externalize.Service
