import Externalize.Json.Reader
import Externalize.Service.Call
import Externalize.Settings.Payload

/-!
# `Externalize.Service.Answer`: extraction as a service

The service has two addresses: one tells that it is there, the other takes a payload, which needs the
key of the service, and runs what the payload asks for. The status of the answer tells how the run
went. Beside the two there is a place for assets, which is empty.

Which hosts a call may name is for the web framework to say, so `answer` takes that as a parameter.
-/

set_option autoImplicit false

namespace Externalize.Service

/-- What `answer` gives back. -/
structure Response where
  status : Nat
  body : Option Json := none

/-- What a call leads to. -/
inductive Route
  | health
  | extract
  | assets
  deriving Repr, DecidableEq

namespace Route

/-- The methods that `Route.find` takes for a route. -/
def methods : Route → List Text
  | .health | .assets => ["GET".toList, "HEAD".toList, "OPTIONS".toList]
  | .extract => ["POST".toList, "OPTIONS".toList]

/-- What the path of every asset begins with. -/
def assetsPath : Text := "/static/".toList

/-- Whether a path is `assetsPath` and a name that does not begin with a slash and stays on its line. -/
def isAsset (path : Text) : Bool :=
  assetsPath.isPrefixOf path &&
    match path.drop assetsPath.length with
    | [] => false
    | first :: rest => first != '/' && !rest.contains '\n'

/-- The route with that path. -/
def ofPath? (path : Text) : Option Route :=
  if path = "/api/v1/health".toList then some .health
  else if path = "/api/v1/extract".toList then some .extract
  else if isAsset path then some .assets
  else none

/-- The `ofPath?` of a path, or the status of the refusal: the path is not known, the `verb` is none of
the `methods`, or the call is an `isConversation`. -/
def find (call : Call) (path : Text) : Except Nat Route :=
  match ofPath? path with
  | none => .error 404
  | some route =>
    if !route.methods.contains call.verb then .error 405
    else if call.isConversation then .error 400
    else .ok route

end Route

/-- The path with every run of slashes made one. -/
def mergeSlashes : Text → Text
  | '/' :: '/' :: rest => mergeSlashes ('/' :: rest)
  | c :: rest => c :: mergeSlashes rest
  | [] => []

/-- The route of a call, or the status of the refusal. If the path leads nowhere but would do so after
`mergeSlashes`, the call is sent there. -/
def routeOf (call : Call) : Except Nat Route :=
  match Route.find call call.path with
  | .ok route => .ok route
  | .error 404 =>
    match Route.find call (mergeSlashes call.path) with
    | .ok _ => .error 308
    | .error status => .error status
  | .error status => .error status

/-- The answer with `status` that tells of an `error`. -/
def refusal (status : Nat) (error : String) (more : List (Text × Json)) : Response :=
  { status
    body := some (.object
      ([("ok".toList, .bool false), ("error".toList, .text error.toList)] ++ more)) }

/-- What is told of a body that `Json.ofMessage` cannot read. -/
def bodyDetail : Json.Fault → String
  | .malformed =>
    "400 Bad Request: The browser (or proxy) sent a request that this server could not understand."
  | .tooDeep .array =>
    "maximum recursion depth exceeded while decoding a JSON array from a unicode string"
  | .tooDeep .object =>
    "maximum recursion depth exceeded while decoding a JSON object from a unicode string"

/-- The key that is used if none is set. -/
def defaultKey : Text := "dev-key".toList

/-- The key that a call brings: in a header, or else in the query. -/
def keyOf (call : Call) : Text :=
  match call.header? "X-API-Key" with
  | some (c :: rest) => c :: rest
  | _ => (call.query.lookup "api_key".toList).getD []

/-- Whether `keyOf` the call is the `key` of the service, or `defaultKey` if none is set. No key at all
is never enough. -/
def isAuthorized (key : Option Text) (call : Call) : Bool :=
  let brought := keyOf call
  !brought.isEmpty && brought == key.getD defaultKey

/-- The text of a path, or null. -/
def pathJson (path : Option Path) : Json :=
  match path with
  | some path => .text path.text
  | none => .null

/-- What is told of a `FileOutcome`. -/
def fileJson (outcome : FileOutcome) : Json :=
  .object
    [("path".toList, pathJson outcome.result.path?),
      ("status".toList, .text outcome.result.status.toList),
      ("entries_written".toList, .integer outcome.result.written),
      ("count".toList, .integer outcome.count),
      ("target".toList, pathJson outcome.result.target?),
      ("message".toList, .text outcome.result.message.toList)]

/-- What is told of a `BatchOutcome`. -/
def batchJson (outcome : BatchOutcome) : Json :=
  .object
    [("scan_dir".toList, pathJson (some outcome.folder)),
      ("status".toList, .text outcome.status.toList),
      ("files".toList, .array (outcome.files.map fun path => .text path.text)),
      ("entries_written".toList, .integer outcome.written),
      ("target".toList, pathJson outcome.target?),
      ("message".toList, .text outcome.message.toList),
      ("outcomes".toList, .array (outcome.outcomes.map fileJson))]

/-- What is told of an `Outcome`: `fileJson` or `batchJson`. -/
def outcomeJson : Outcome → Json
  | .file outcome => fileJson outcome
  | .batch outcome => batchJson outcome

/-- Whether the result is `notFound`. -/
def isNotFound : Outcome → Bool
  | .file { result := .notFound _, .. } => true
  | _ => false

/-- The status that tells of an outcome: 201 if something was `written`, and else 200, 404 or 422. -/
def statusOf (outcome : Outcome) : Nat :=
  if outcome.written ≠ 0 then 201
  else if outcome.ok then 200
  else if isNotFound outcome then 404
  else 422

/-- The answer that tells of an outcome: `statusOf` and `outcomeJson`. -/
def report (outcome : Outcome) : Response :=
  { status := statusOf outcome
    body := some (.object
      [("ok".toList, .bool outcome.ok), ("result".toList, outcomeJson outcome)]) }

/-- Runs the settings that the body of a call gives, if the call `isAuthorized`. -/
def extract (key : Option Text) (call : Call) : Job Response :=
  if !isAuthorized key call then return refusal 401 "unauthorized" []
  else
    match Json.ofMessage call.content with
    | .error fault =>
      return refusal 400 "invalid json" [("detail".toList, .text (bodyDetail fault).toList)]
    | .ok payload =>
      match Settings.ofPayload payload with
      | .error fault => return refusal 400 fault.message []
      | .ok settings => report <$> settings.run

/-- The answer of a route: `extract`, or what does not depend on the workspace. -/
def answerOf (key : Option Text) (call : Call) : Route → Job Response
  | .health => return { status := 200, body := some (.object [("ok".toList, .bool true)]) }
  | .extract => extract key call
  | .assets => return { status := 404 }

/-- The answer to a call; `key` is the key that is set, if one is, and `admits` tells the names of hosts
that are let through. The body is left out if the method asks for the head alone. -/
def answer (admits : Text → Bool) (key : Option Text) (call : Call) : Job Response := do
  if !admits call.hostName then return { status := 400 }
  match routeOf call with
  | .error status => return { status }
  | .ok route =>
    if call.verb = "OPTIONS".toList then return { status := 200 }
    let response ← answerOf key call route
    if call.method = "HEAD".toList then return { response with body := none }
    return response

end Externalize.Service
