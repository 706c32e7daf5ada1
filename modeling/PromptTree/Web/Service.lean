import PromptTree.Content.Check
import PromptTree.Engine.Preview
import PromptTree.Json.Reader
import PromptTree.Web.Target

/-!
# The service

Requests over HTTP and their answers.

## Main Definitions

* `Web.Route` — what can be asked for.
* `Web.Request`, `Web.Answer` — a request, and a status with a document.
* `Service.answer` — the answer of a service to a request.

## Design Notes

An answer without a document stands for one whose body is no JSON: a page for a status that
says it all, or an empty body.
-/

namespace PromptTree

namespace Web

/-- A request: its method, its target, the type of its body if it has one, and the body. -/
structure Request where
  method : String := "GET"
  target : String
  contentType : Option String := some "application/json"
  body : String := ""

/-- An answer: its status and its document. -/
structure Answer where
  status : Nat
  document : Option Value := none

/-- What can be asked for. -/
inductive Route where
  | overview
  | health
  | entryPoints
  | separatorSets
  | render
  | preview
  | validate
  deriving Repr, DecidableEq

namespace Route

/-- The routes. -/
def all : List Route :=
  [.overview, .health, .entryPoints, .separatorSets, .render, .preview, .validate]

/-- The path of a route. -/
def path : Route → String
  | .overview => "/api"
  | .health => "/api/health"
  | .entryPoints => "/api/entry-points"
  | .separatorSets => "/api/separator-sets"
  | .render => "/api/render"
  | .preview => "/api/preview-separator"
  | .validate => "/api/validate"

/-- Whether a route answers posted documents; the others are only read. -/
def isPosted : Route → Bool
  | .render => true
  | .preview => true
  | .validate => true
  | _ => false

/-- The methods of a route. -/
def methods (route : Route) : List String :=
  if route.isPosted then ["POST", "OPTIONS"] else ["GET", "HEAD", "OPTIONS"]

/-- The route of a path. -/
def ofPath? (path : List Char) : Option Route :=
  all.find? fun route => route.path.toList == path

end Route

/-- The methods of a file. -/
def fileMethods : List String := ["GET", "HEAD", "OPTIONS"]

/-- Whether a path is that of a file that is served as it is.  There are none. -/
def isFilePath (path : List Char) : Bool :=
  match path.drop "/static/".length with
  | c :: _ => "/static/".toList.isPrefixOf path && c != '/'
  | [] => false

/-- The methods that a path has, if it leads somewhere. -/
def methodsAt? (path : List Char) : Option (List String) :=
  match Route.ofPath? path with
  | some route => some route.methods
  | none => if isFilePath path then some fileMethods else none

/-- An answer with a document. -/
def ok (v : Value) : Answer :=
  ⟨200, some v⟩

/-- The answer to a request that is not accepted. -/
def badRequest (message : String) (more : Entries := []) : Answer :=
  ⟨400, some (.object (("error", .str message) :: more))⟩

/-- Whether the body of a type is JSON. -/
def isJsonType (contentType : String) : Bool :=
  let kind := Text.lower (Text.strip (Text.cut ';' contentType).1)
  kind == "application/json" ||
    (Text.startsWith "application/" kind && Text.endsWith "+json" kind)

/-- The document of a request, if its body is one. -/
def Request.document? (request : Request) : Option Value :=
  if (request.contentType.map isJsonType).getD false then
    let text := match request.body.toList with
      | '\uFEFF' :: rest => String.ofList rest
      | _ => request.body
    match Json.parse text with
    | .ok v => some v
    | .error _ => none
  else none

/-- The entries of the document of a request, if it is an object. -/
def Request.entries? (request : Request) : Option Entries :=
  request.document?.bind Value.entries?

end Web

/-- A service: the definitions it knows and the engine that renders them. -/
structure Service where
  store : Store
  engine : Engine

namespace Service

open Web

/-- What there is to ask for. -/
def overview : Value :=
  let endpoint (name : String) (route : Route) : String × Value := (name, .str route.path)
  .object
    [("name", .str "promptgen API"),
     ("endpoints", .object
       [endpoint "health" .health, endpoint "entry_points" .entryPoints,
        endpoint "separator_sets" .separatorSets, endpoint "render" .render,
        endpoint "preview_separator" .preview, endpoint "validate" .validate])]

/-- An entry point in a list. -/
def entryPointValue (entry : Section) : Value :=
  .object
    [("id", .str entry.identity.id), ("namespace", .str entry.identity.scope),
     ("name", .str entry.identity.name), ("description", .str entry.identity.description),
     ("required_variables", Value.ofStrings entry.body.requiredVariables)]

/-- The entry points. -/
def entryPoints (service : Service) : Value :=
  let entries := service.store.entryPoints
  .object
    [("entry_points", .list (entries.map entryPointValue)), ("count", .int entries.length)]

/-- A stored separator set in a list. -/
def separatorSetValue (set : SeparatorSet) : Value :=
  .object
    [("id", .str set.identity.id), ("namespace", .str set.identity.scope),
     ("name", .str set.identity.name)]

/-- The separator sets. -/
def separatorSets (service : Service) : Value :=
  .object
    [("builtin", Value.ofStrings Separator.builtinNames),
     ("custom", .list (service.store.separatorSets.map separatorSetValue))]

/-- Renders an entry point. -/
def render (service : Service) (request : Web.Request) : Answer :=
  match request.entries? with
  | none => badRequest "Request body must be a JSON object"
  | some entries =>
    match PromptTree.Request.read (.object entries) with
    | .ok asked => ok ((service.engine.render asked).dump none)
    | .faulty faults =>
      badRequest "Invalid render request" [("details", .list (faults.map Schema.Fault.toValue))]

/-- Joins sample items. -/
def preview (service : Service) (request : Web.Request) : Except Failure Answer :=
  match request.entries? with
  | none => .ok (badRequest "Request body must be a JSON object")
  | some entries =>
    match Entries.getD entries "items" with
    | .list items =>
      match (Entries.get? entries "rules").getD (Entries.getD entries "set") with
      | .null => .ok (badRequest "Provide 'rules' or 'set'")
      | rules =>
        match service.engine.previewSeparator rules (.list items) with
        | .ok text => .ok (ok (.object [("text", .str text)]))
        | .error (.refused e) => .ok (badRequest e.message [("details", .object e.context)])
        | .error (.faulty _) => .ok ⟨500, none⟩
        | .error (.failed failure) => .error failure
    | _ => .ok (badRequest "'items' must be a list")

/-- A problem of a tree in a list. -/
def problemValue (problem : Problem) : Value :=
  .object
    [("code", .str problem.kind.code), ("message", .str problem.kind.message),
     ("path", .str problem.pathText)]

/-- Checks a tree. -/
def validate (request : Web.Request) : Except Failure Answer :=
  match request.entries?.bind (Entries.get? · "content") with
  | none => .ok (badRequest "Request body must contain 'content'")
  | some content => do
    let problems ← checkContent content
    return ok (.object
      [("valid", .bool problems.isEmpty), ("errors", .list (problems.map problemValue))])

/-- What a route answers. -/
def respond (service : Service) (request : Web.Request) : Route → Except Failure Answer
  | .overview => .ok (ok overview)
  | .health => .ok (ok (.object [("status", .str "healthy")]))
  | .entryPoints => .ok (ok service.entryPoints)
  | .separatorSets => .ok (ok service.separatorSets)
  | .render => .ok (service.render request)
  | .preview => service.preview request
  | .validate => validate request

/-- The answer of a service to a request. -/
def answer (service : Service) (request : Web.Request) : Answer :=
  let method := Text.upper request.method
  let path := pathOf request.target
  match Route.ofPath? path with
  | some route =>
    if !route.methods.contains method then ⟨405, none⟩
    else if method == "OPTIONS" || method == "HEAD" then ⟨200, none⟩
    else
      match service.respond request route with
      | .ok answer => answer
      | .error _ => ⟨500, none⟩
  | none =>
    if isFilePath path then
      if !fileMethods.contains method then ⟨405, none⟩
      else if method == "OPTIONS" then ⟨200, none⟩
      else ⟨404, none⟩
    else
      -- a path that only doubles slashes is told where it leads
      match methodsAt? (mergeSlashes path) with
      | some methods => ⟨if methods.contains method then 308 else 405, none⟩
      | none => ⟨404, none⟩

end Service

end PromptTree
