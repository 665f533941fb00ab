import RunPlan.Service.Basic
import RunPlan.Span.Iso8601
import RunPlan.Url.Parse
import RunPlan.Json.Parser
import RunPlan.Benchmark.Json

/-!
The results service over HTTP: which requests its calls are, and what the responses mean. How a
request gets its response is not the matter of this library.
-/

set_option autoImplicit false

namespace RunPlan

/-- A request by the POST method: what it asks for, and its body. -/
structure HttpRequest where
  target : String
  body : String
  deriving DecidableEq, Repr

/-- A response. -/
structure HttpResponse where
  status : Nat
  body : String
  deriving DecidableEq, Repr

namespace HttpResponse

def phrase? (status : Nat) : Option String :=
  [(100, "Continue"), (101, "Switching Protocols"), (102, "Processing"), (103, "Early Hints"),
    (200, "OK"), (201, "Created"), (202, "Accepted"), (203, "Non Authoritative Information"),
    (204, "No Content"), (205, "Reset Content"), (206, "Partial Content"), (207, "Multi-Status"),
    (208, "Already Reported"), (226, "IM Used"), (300, "Multiple Choices"),
    (301, "Moved Permanently"), (302, "Found"), (303, "See Other"), (304, "Not Modified"),
    (305, "Use Proxy"), (307, "Temporary Redirect"), (308, "Permanent Redirect"),
    (400, "Bad Request"), (401, "Unauthorized"), (402, "Payment Required"), (403, "Forbidden"),
    (404, "Not Found"), (405, "Method Not Allowed"), (406, "Not Acceptable"),
    (407, "Proxy Authentication Required"), (408, "Request Timeout"), (409, "Conflict"),
    (410, "Gone"), (411, "Length Required"), (412, "Precondition Failed"),
    (413, "Payload Too Large"), (414, "URI Too Long"), (415, "Unsupported Media Type"),
    (416, "Range Not Satisfiable"), (417, "Expectation Failed"), (418, "I'm a teapot"),
    (421, "Misdirected Request"), (422, "Unprocessable Entity"), (423, "Locked"),
    (424, "Failed Dependency"), (425, "Too Early"), (426, "Upgrade Required"),
    (428, "Precondition Required"), (429, "Too Many Requests"),
    (431, "Request Header Fields Too Large"), (451, "Unavailable For Legal Reasons"),
    (500, "Internal Server Error"), (501, "Not Implemented"), (502, "Bad Gateway"),
    (503, "Service Unavailable"), (504, "Gateway Timeout"), (505, "HTTP Version Not Supported"),
    (506, "Variant Also Negotiates"), (507, "Insufficient Storage"), (508, "Loop Detected"),
    (510, "Not Extended"), (511, "Network Authentication Required")].lookup status

private def isSuccess (r : HttpResponse) : Bool := 200 ≤ r.status && r.status < 300

/-- The JSON value in the body, or what is wrong. A response that is missing was never sent. -/
private def json? : Option HttpResponse → Except ServiceFault Json
  | none => .error (.transport "no response")
  | some r =>
    if r.isSuccess then
      match Json.parse? r.body with
      | some j => .ok j
      | none => .error (.undecodable "malformed JSON")
    else .error (.status r.status (phrase? r.status) r.body)

end HttpResponse

/-- A client of the service at a URL. -/
structure ServiceClient where
  baseUrl : Url

namespace ServiceClient

def ofUrl (url : String) : Except LoadError ServiceClient :=
  match Url.parse url with
  | .ok baseUrl => .ok ⟨baseUrl⟩
  | .error fault => .error (.invalidConfig (.badServiceUrl url fault))

def endpoint (client : ServiceClient) (path : String) : String :=
  String.ofList (client.baseUrl.text.toList.reverse.dropWhile (· = '/')).reverse ++ "/" ++ path

private def nameRequestJson (r : NameRequest) : Json :=
  .object [("name", .string r.name), ("variables", .ofMap r.vars)]

def content : ServiceCall → String × Json
  | .names requests => (Service.namesPath, .array (requests.map nameRequestJson))
  | .ages names => (Service.agesPath, .strings names)

/-- The request of a call. Only the schemes of the web can be asked. -/
def request? (client : ServiceClient) (call : ServiceCall) : Option HttpRequest :=
  let (path, body) := content call
  match Url.parse (client.endpoint path) with
  | .ok url =>
    if url.scheme = "http" || url.scheme = "https" then some ⟨url.target, body.compact⟩ else none
  | .error _ => none

/-- What is wrong with an answer that has not the form it should have. -/
def unexpected : ServiceFault := .undecodable "unexpected value"

private def decodeNames : Json → Except ServiceFault (List String)
  | .array items => items.mapM fun
    | .string s => .ok s
    | _ => .error unexpected
  | _ => .error unexpected

private def ageOfDays (days : Binary64) : Except ServiceFault Span :=
  match Span.ofBinary64? (days.mul (.ofNat false 86400000)) with
  | some i => .ok ⟨i⟩
  | none => .error (.invalidAge days.plainText)

/-- An age as it is sent: days or a time in text. -/
inductive Age
  | days (x : Binary64)
  | text (s : String)

private def Age.ofJson? : Json → Option Age
  | .number (.int i) => some (.days (.ofNat (i < 0) i.natAbs))
  | .number (.float x) => some (.days x)
  | .string s => some (.text s)
  | _ => none

def Age.span : Age → Except ServiceFault Span
  | .days x => ageOfDays x
  | .text s =>
    match Span.ofIso8601? s with
    | some span => .ok span
    | none => .error (.invalidDuration s)

/-- The ages in an answer. All must have the right form before any is looked at. -/
private def decodeAges : Json → Except ServiceFault (List Span)
  | .array items =>
    match items.mapM Age.ofJson? with
    | some ages => ages.mapM Age.span
    | none => .error unexpected
  | _ => .error unexpected

private def interpret {α : Type} (client : ServiceClient) (path : String)
    (decode : Json → Except ServiceFault α) (response? : Option HttpResponse) : Response α :=
  match HttpResponse.json? response? >>= decode with
  | .ok a => ⟨false, .answer a⟩
  | .error fault => ⟨false, .failure (.serviceUnavailable (client.endpoint path) fault)⟩

/-- The response to a call. One that is no request has none. -/
private def responseTo (client : ServiceClient) (respond : ServiceCall → Option HttpResponse)
    (call : ServiceCall) : Option HttpResponse :=
  (client.request? call).bind fun _ => respond call

/-- The service behind a client, given how its calls are responded to. -/
def service (client : ServiceClient) (respond : ServiceCall → Option HttpResponse) : Service where
  uniqueNames requests :=
    client.interpret Service.namesPath decodeNames (client.responseTo respond (.names requests))
  executionAges names :=
    client.interpret Service.agesPath decodeAges (client.responseTo respond (.ages names))

end ServiceClient

end RunPlan
