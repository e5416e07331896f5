import HomeVoice.Bridge.Handle
import HomeVoice.Json.Parser
import HomeVoice.Server.MediaType

/-!
# The HTTP interface

Over HTTP one can ask whether the server is alive and, where the bridge is enabled, have a message
answered. What is wrong with a request is told by its status alone, until its body has been read as
JSON: a message that is no directive is told why. A directive that is refused is answered with
status 200 like any other.
-/

namespace HomeVoice

/-- A request. -/
structure HttpRequest where
  method : String
  target : String
  contentType : Option String
  body : String
  deriving DecidableEq

/-- The body of a response. -/
inductive HttpBody where
  | empty
  | text (content : String)
  | json (content : Json)

/-- A response. -/
structure HttpResponse where
  status : Nat
  body : HttpBody

/-- What can be asked for. -/
inductive HttpResource where
  | health
  | directives
  deriving DecidableEq

namespace HttpResource

/-- The path of a resource. -/
def path : HttpResource → String
  | .health => "/health"
  | .directives => "/api/alexa/smart_home"

/-- The resources of a server. -/
def all (enabled : Bool) : List HttpResource :=
  if enabled then [.health, .directives] else [.health]

/-- The resource at a path. -/
def ofPath? (enabled : Bool) (path : String) : Option HttpResource :=
  (all enabled).find? fun resource => resource.path = path

/-- Whether a resource can be asked for by a method. -/
def allows : HttpResource → (method : String) → Bool
  | .health, method => method = "GET" || method = "HEAD"
  | .directives, method => method = "POST"

end HttpResource

namespace HttpRequest

/-- The number of containers that the body of a request may nest. -/
def maxDepth : Nat := 127

/-- Whether a character can stand in the scheme of a target. -/
def isSchemeChar (c : Char) : Bool :=
  c.isAlphanum || c = '+' || c = '-' || c = '.' || c = '~'

/-- Whether a character begins the query or the fragment of a target. -/
def endsPath (c : Char) : Bool :=
  c = '?' || c = '#'

/-- The path of a target, which is a path itself, or an address with a scheme in front of the name
of a server. Query and fragment do not belong to it. A target that only names a server has no
path; an address without one asks for the root. -/
def targetPath (target : List Char) : List Char :=
  match target, target.dropWhile isSchemeChar with
  | '/' :: _, _ => target.takeWhile fun c => !endsPath c
  | ['*'], _ => ['*']
  | _, ':' :: '/' :: '/' :: rest =>
    match (rest.dropWhile fun c => c ≠ '/' && !endsPath c).takeWhile fun c => !endsPath c with
    | [] => ['/']
    | path => path
  | _, _ => []

/-- The path that is asked for. -/
def path (r : HttpRequest) : String :=
  .ofList (targetPath r.target.toList)

/-- Whether the body is said to be JSON. -/
def isJson (r : HttpRequest) : Bool :=
  match r.contentType.bind MediaType.parse? with
  | some m => m.isJson
  | none => false

/-- A response without a body. -/
def plain (status : Nat) : Exchange HttpResponse :=
  .done ⟨status, .empty⟩

/-- The response that the server is alive, of which `HEAD` asks for all but the body. -/
def alive (r : HttpRequest) : HttpResponse :=
  ⟨200, .text (if r.method = "HEAD" then "" else "OK")⟩

/-- The response to the result of handling a message. -/
def respond : Except ProtocolError Response → HttpResponse
  | .ok response => ⟨200, .json response.toJson⟩
  | .error e => ⟨400, .json (.object [("error", .str e.message)])⟩

/-- The response to a request that has a message as its body. -/
def answerMessage (q : Request) (r : HttpRequest) : Exchange HttpResponse :=
  if !r.isJson then plain 415
  else
    match Json.parse? maxDepth r.body with
    | none => plain 400
    | some message => (q.handle message).bind fun result => .done (respond result)

/-- The response to a request. -/
def answer (enabled : Bool) (q : Request) (r : HttpRequest) : Exchange HttpResponse :=
  match HttpResource.ofPath? enabled r.path with
  | none => plain 404
  | some resource =>
    if !resource.allows r.method then plain 405
    else
      match resource with
      | .health => .done r.alive
      | .directives => r.answerMessage q

end HttpRequest

end HomeVoice
