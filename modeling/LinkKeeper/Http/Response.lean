/-!
Responses over HTTP: what their status codes say.

* `Http.phrase`: the standard phrase of a code; codes without one share a substitute.
* `Http.isSuccess`, `Http.isRefusal`: which codes tell of success and of failure.
-/

namespace LinkKeeper.Http

/-- A response to a request. -/
structure Response where
  status : Nat
  body : String
  deriving DecidableEq, Repr

/-- The codes that have a phrase, with their phrases. -/
def phrases : List (Nat × String) :=
  [(101, "Switching Protocols"),
    (200, "OK"), (201, "Created"), (202, "Accepted"), (203, "Non Authoritative Information"),
    (204, "No Content"), (205, "Reset Content"), (206, "Partial Content"), (207, "Multi-Status"),
    (208, "Already Reported"), (226, "IM Used"),
    (300, "Multiple Choices"), (301, "Moved Permanently"), (302, "Found"), (303, "See Other"),
    (304, "Not Modified"), (305, "Use Proxy"), (307, "Temporary Redirect"),
    (308, "Permanent Redirect"),
    (400, "Bad Request"), (401, "Unauthorized"), (402, "Payment Required"), (403, "Forbidden"),
    (404, "Not Found"), (405, "Method Not Allowed"), (406, "Not Acceptable"),
    (407, "Proxy Authentication Required"), (408, "Request Timeout"), (409, "Conflict"),
    (410, "Gone"), (411, "Length Required"), (412, "Precondition Failed"),
    (413, "Payload Too Large"), (414, "URI Too Long"), (415, "Unsupported Media Type"),
    (416, "Range Not Satisfiable"), (417, "Expectation Failed"), (418, "I'm a teapot"),
    (421, "Misdirected Request"), (422, "Unprocessable Entity"), (423, "Locked"),
    (424, "Failed Dependency"), (425, "Too Early"), (426, "Upgrade Required"),
    (428, "Precondition Required"), (429, "Too Many Requests"),
    (431, "Request Header Fields Too Large"), (451, "Unavailable For Legal Reasons"),
    (500, "Internal Server Error"), (501, "Not Implemented"), (502, "Bad Gateway"),
    (503, "Service Unavailable"), (504, "Gateway Timeout"), (505, "HTTP Version Not Supported"),
    (506, "Variant Also Negotiates"), (507, "Insufficient Storage"), (508, "Loop Detected"),
    (510, "Not Extended"), (511, "Network Authentication Required")]

/-- The phrase of a status code. -/
def phrase (code : Nat) : String :=
  (phrases.lookup code).getD "<unknown status code>"

/-- Whether the code tells of success. -/
def isSuccess (code : Nat) : Bool := 200 ≤ code && code ≤ 299

/-- Whether the code tells of a failure, of the request or of the server. -/
def isRefusal (code : Nat) : Bool := 400 ≤ code && code ≤ 599

/-- Whether a response with the code has no body, whatever is sent after its head. -/
def isBodyless (code : Nat) : Bool := code = 101 || code = 204 || code = 304

/-- Whether the code is that of a last response: the codes below it announce another one, except for
the one that hands the connection over. -/
def isFinal (code : Nat) : Bool := code = 101 || (200 ≤ code && code ≤ 999)

end LinkKeeper.Http
