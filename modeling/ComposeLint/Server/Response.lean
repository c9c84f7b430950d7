import ComposeLint.Analysis
import ComposeLint.Json.Reader
import ComposeLint.Snippet.Store

/-!
Answers to requests. A request goes by its path and method; one that brings a document is checked
for its form and then for its size before anything is done with it. The user's snippets are read with
a loader that is given.
-/

namespace ComposeLint

structure Request where
  method : Text
  path : Text
  body? : Option Text
deriving DecidableEq, Repr

structure Response where
  status : Nat
  body : Json
deriving Repr

namespace Snippet

def toJson (s : Snippet) : Json :=
  .record [("name", .string s.name), ("icon", .string s.icon),
    ("description", .ofOption .string s.description?), ("code", .string s.code)]

/-- Snippets under their keys. -/
def keyedJson (snippets : List (Text × Snippet)) : Json :=
  .object (snippets.map fun (key, s) => (key, s.toJson))

end Snippet

def StartupDocument.toJson (d : StartupDocument) : Json :=
  .record [("content", .string d.content), ("success", .bool d.success),
    ("error", .ofOption .string d.failure?)]

inductive Endpoint
  | analyze
  | overview
  | structural
  | validation
  | snippets
  | customSnippets
  | startupDocument
  | health
deriving DecidableEq, Repr

namespace Endpoint

def all : List Endpoint := [
    .analyze, .overview, .structural, .validation, .snippets, .customSnippets, .startupDocument,
    .health]

def path : Endpoint → String
  | .analyze => "/api/analyze"
  | .overview => "/api/analyze/overview"
  | .structural => "/api/analyze/structure"
  | .validation => "/api/analyze/validate"
  | .snippets => "/api/templates"
  | .customSnippets => "/api/templates/custom"
  | .startupDocument => "/api/templates/startup"
  | .health => "/api/health"

/-- Whether a request brings a document. -/
def takesDocument : Endpoint → Bool
  | .analyze | .overview | .structural | .validation => true
  | _ => false

def method (e : Endpoint) : String := if e.takesDocument then "POST" else "GET"

/-- The endpoint of a path. A query does not count, nor do slashes at the end. -/
def ofPath? (path : Text) : Option Endpoint :=
  let path : Text := path.takeWhile fun c => c != '?' && c != '#'
  all.find? fun e => e.path.toList == path.dropEndWhile (· == '/')

end Endpoint

namespace Response

def detail (status : Nat) (text : String) : Response :=
  ⟨status, .record [("detail", .ofString text)]⟩

/-- A fault of the request's form, with the place of the value at fault. -/
def unprocessable (type : String) (place : List Json) (message : String) (input : Json)
    (context : List (String × Json)) : Response :=
  let error := [("type", .ofString type), ("loc", .array (.ofString "body" :: place)),
    ("msg", .ofString message), ("input", input)] ++ context
  ⟨422, .record [("detail", .array [.record error])]⟩

def missingBody : Response := unprocessable "missing" [] "Field required" .null []

def brokenBody (reason : Json.Reason) (position : Nat) : Response :=
  unprocessable "json_invalid" [.ofNat position] "JSON decode error" (.object [])
    [("ctx", .record [("error", .string reason.message)])]

def notAnObject (value : Json) : Response :=
  unprocessable "model_attributes_type" []
    "Input should be a valid dictionary or object to extract fields from" value []

def notAString (value : Json) : Response :=
  unprocessable "string_type" [.ofString "content"] "Input should be a valid string" value []

def tooLarge (size : Nat) (limit : Int) : Response :=
  ⟨413, .record [("detail", .string ("Document is ".toList ++ Text.ofNat size ++
    " bytes; the limit is ".toList ++ Text.ofInt limit ++ ".".toList))]⟩

/-- The value of a body. A byte order mark before it does not count. -/
def bodyValue (body? : Option Text) : Except Response Json :=
  match body?.getD [] with
  | [] => .error missingBody
  | c :: rest =>
    match Json.readDocument (if c == '\ufeff' then rest else c :: rest) with
    | .ok value => .ok value
    | .error (.unexpected reason position) => .error (brokenBody reason position)
    | .error _ => .error (detail 400 "There was an error parsing the body")

/-- The content that a body gives; without one it is empty. -/
def contentOf : Json → Except Response Text
  | .object members =>
    match Json.get? "content".toList members with
    | none => .ok []
    | some (.string t) => .ok t
    | some value => .error (notAString value)
  | value => .error (notAnObject value)

/-- The document of a request, if it has one that is not too large. -/
def documentOf (limit : Int) (body? : Option Text) : Except Response Text := do
  let text ← contentOf (← bodyValue body?)
  if limit < Utf8.size text then throw (tooLarge (Utf8.size text) limit)
  return text

def ok (body : Json) : Response := ⟨200, body⟩

/-- What an endpoint tells about a document; nothing if it takes none. -/
def ofDocument (e : Endpoint) (text : Text) : Json :=
  match e with
  | .analyze => (ComposeLint.analyze text).toJson
  | .overview => (Counts.read text).toJson
  | .structural => (Stack.read text).toJson
  | .validation => (validate text).toJson
  | _ => .null

section

variable {ε : Type} (load : Yaml.Loader ε)

/-- What an endpoint tells without a document. -/
def ofStore (e : Endpoint) (store : Store) : Except (StoreFault ε) Json :=
  match e with
  | .snippets => do
    let custom ← store.customSnippets load
    return .record [("quick", Snippet.keyedJson store.quickSnippets),
      ("custom", .ofList Snippet.toJson custom)]
  | .customSnippets => return .ofList Snippet.toJson (← store.customSnippets load)
  | .startupDocument => return (← store.startupDocument.mapError .encoding).toJson
  | _ => return .record [("status", .ofString "ok")]

/-- The answer to a request under a size limit. -/
def answer (limit : Int) (store : Store) (r : Request) : Except (StoreFault ε) Response :=
  match Endpoint.ofPath? r.path with
  | none => return detail 404 "Not Found"
  | some e =>
    if r.method.map Char.toUpper != e.method.toList then return detail 405 "Method Not Allowed"
    else if e.takesDocument then
      match documentOf limit r.body? with
      | .error response => return response
      | .ok text => return ok (ofDocument e text)
    else return ok (← ofStore load e store)

end

end Response

end ComposeLint
