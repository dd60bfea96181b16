import FolderGrants.Http.Target
import FolderGrants.Json.Basic

/-!
# Requests and answers over HTTP

As much of HTTP as the calls to the API server need: a request with its
target, an answer with its status, and how a status is shown.
-/

namespace FolderGrants.Http

/-- A request. -/
structure Request where
  method : String
  target : Target
  /-- Header names in lower case, in the order of the names. -/
  headers : List (String × String) := []
  body : Option Json := none

/-- An answer. -/
structure Response where
  code : Nat
  body : String

/-- What the statuses are called. -/
def reasons : List (Nat × String) :=
  [(400, "Bad Request"), (401, "Unauthorized"), (402, "Payment Required"), (403, "Forbidden"),
   (404, "Not Found"), (405, "Method Not Allowed"), (406, "Not Acceptable"),
   (407, "Proxy Authentication Required"), (408, "Request Timeout"), (409, "Conflict"),
   (410, "Gone"), (411, "Length Required"), (412, "Precondition Failed"),
   (413, "Payload Too Large"), (414, "URI Too Long"), (415, "Unsupported Media Type"),
   (416, "Range Not Satisfiable"), (417, "Expectation Failed"), (418, "I'm a teapot"),
   (421, "Misdirected Request"), (422, "Unprocessable Entity"), (423, "Locked"),
   (424, "Failed Dependency"), (425, "Too Early"), (426, "Upgrade Required"),
   (428, "Precondition Required"), (429, "Too Many Requests"),
   (431, "Request Header Fields Too Large"), (451, "Unavailable For Legal Reasons"),
   (500, "Internal Server Error"), (501, "Not Implemented"), (502, "Bad Gateway"),
   (503, "Service Unavailable"), (504, "Gateway Timeout"), (505, "HTTP Version Not Supported"),
   (506, "Variant Also Negotiates"), (507, "Insufficient Storage"), (508, "Loop Detected"),
   (510, "Not Extended"), (511, "Network Authentication Required")]

namespace Response

/-- Whether the answer refuses the request. -/
def isRefusal (r : Response) : Bool := 400 ≤ r.code && r.code < 600

/-- The status as it is shown. -/
def statusText (r : Response) : String :=
  toString r.code ++ " " ++ (reasons.lookup r.code).getD "<unknown status code>"

end Response

/-- Whether a header may have this value: no control characters but tabs. -/
def isHeaderValue (s : String) : Bool :=
  s.toList.all fun c => c = '\t' || (0x20 ≤ c.toNat && c.toNat ≠ 0x7F)

end FolderGrants.Http
