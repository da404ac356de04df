import LinkKeeper.Http.Response
import LinkKeeper.Http.Url
import LinkKeeper.Instance.Document
import LinkKeeper.Json.Parser

/-!
The metadata service of a machine, reached over HTTP.

* `MetadataService.request?`: the request for the document.
* `MetadataService.read`: the document in a response, or why there is none.
-/

namespace LinkKeeper

/-- The metadata service at an address. -/
structure MetadataService where
  baseUrl : String
  deriving DecidableEq, Repr

/-- A request: which host it goes to, what it asks for and the kind of document that it accepts. -/
structure MetadataRequest where
  host : Http.Host
  target : String
  accept : String
  deriving DecidableEq, Repr

namespace MetadataService

/-- The service at an address, which may end in slashes. -/
def atUrl (url : String) : MetadataService :=
  ⟨String.ofList (url.toList.reverse.dropWhile (· = '/')).reverse⟩

/-- The address of the document. -/
def documentUrl (s : MetadataService) : String := s.baseUrl ++ "/conf?format=json"

/-- The request for the document, if its address can be read. -/
def request? (s : MetadataService) : Option MetadataRequest :=
  (Http.Url.parse? s.documentUrl).map fun url => ⟨url.host, url.target, "application/json"⟩

/-- The first line of a request. -/
def requestLine (r : MetadataRequest) : String := "GET " ++ r.target ++ " HTTP/1.1"

/-- What is told of a response that is no success. -/
def refusal (r : Http.Response) : String :=
  "Failed to fetch metadata: " ++ toString r.status ++ " " ++ Http.phrase r.status ++ " - " ++
    (if Http.isBodyless r.status then "" else r.body)

/-- The document in a response, if there was a last one. -/
def read (response : Option Http.Response) : Except MetadataError InstanceDocument :=
  match response.filter fun r => Http.isFinal r.status with
  | none => .error .http
  | some r =>
    if Http.isSuccess r.status then
      match Json.parse? (if Http.isBodyless r.status then "" else r.body) >>= InstanceDocument.fromJson? with
      | some document => .ok document
      | none => .error .undecodable
    else .error (.api (refusal r))

end MetadataService

end LinkKeeper
