import Polyquery.Json.Printer
import Polyquery.Session
import Polyquery.Url.Basic

/-!
# Requests over HTTP

A link carries requests to a server and replies back.  The replies that a server
is going to give are part of the state of the link.
-/

namespace Polyquery.Http

inductive Method where
  | get
  | post
  | put
  | delete
deriving DecidableEq

def Method.name : Method → String
  | get => "GET"
  | post => "POST"
  | put => "PUT"
  | delete => "DELETE"

/-- The body of a request. -/
inductive Payload where
  | json (value : Json)
  /-- JSON values, each on a line of its own. -/
  | lines (text : String)

namespace Payload

def contentType : Payload → String
  | json _ => "application/json"
  | lines _ => "application/x-ndjson"

def text : Payload → String
  | json value => value.compact
  | lines text => text

end Payload

structure Request where
  method : Method
  url : Url
  payload : Option Payload

structure Reply where
  status : Nat
  body : String
deriving DecidableEq

namespace Reply

/-- The reply of a server that has nothing to say. -/
def plain : Reply := ⟨200, "\x7b\x7d"⟩

def isSuccess (reply : Reply) : Bool :=
  200 ≤ reply.status && reply.status < 300

/-- The phrases that stand beside the numbers of statuses. -/
def reasons : List (Nat × String) :=
  [(100, "Continue"), (101, "Switching Protocols"), (102, "Processing"), (200, "OK"),
    (201, "Created"), (202, "Accepted"), (203, "Non Authoritative Information"),
    (204, "No Content"), (205, "Reset Content"), (206, "Partial Content"), (207, "Multi-Status"),
    (208, "Already Reported"), (226, "IM Used"), (300, "Multiple Choices"),
    (301, "Moved Permanently"), (302, "Found"), (303, "See Other"), (304, "Not Modified"),
    (305, "Use Proxy"), (307, "Temporary Redirect"), (308, "Permanent Redirect"),
    (400, "Bad Request"), (401, "Unauthorized"), (402, "Payment Required"), (403, "Forbidden"),
    (404, "Not Found"), (405, "Method Not Allowed"), (406, "Not Acceptable"),
    (407, "Proxy Authentication Required"), (408, "Request Timeout"), (409, "Conflict"),
    (410, "Gone"), (411, "Length Required"), (412, "Precondition Failed"),
    (413, "Payload Too Large"), (414, "URI Too Long"), (415, "Unsupported Media Type"),
    (416, "Range Not Satisfiable"), (417, "Expectation Failed"), (418, "I'm a teapot"),
    (421, "Misdirected Request"), (422, "Unprocessable Entity"), (423, "Locked"),
    (424, "Failed Dependency"), (425, "Too Early"), (426, "Upgrade Required"),
    (428, "Precondition Required"), (429, "Too Many Requests"),
    (431, "Request Header Fields Too Large"),
    (451, "Unavailable For Legal Reasons"), (500, "Internal Server Error"),
    (501, "Not Implemented"), (502, "Bad Gateway"), (503, "Service Unavailable"),
    (504, "Gateway Timeout"), (505, "HTTP Version Not Supported"),
    (506, "Variant Also Negotiates"), (507, "Insufficient Storage"), (508, "Loop Detected"),
    (510, "Not Extended"), (511, "Network Authentication Required")]

/-- The text of a reply.  Two statuses say that there is none, whatever follows. -/
def text (reply : Reply) : String :=
  if reply.status = 204 || reply.status = 304 then "" else reply.body

/-- The status with its phrase. -/
def statusText (reply : Reply) : String :=
  toString reply.status ++ " " ++ (reasons.lookup reply.status).getD "<unknown status code>"

end Reply

/-- The state of a link with a server. -/
structure Link where
  reachable : Bool
  /-- The replies that the server is going to give. -/
  replies : List Reply
  /-- The requests sent so far. -/
  sent : List Request

namespace Link

/-- Only these schemes, and only with a host, name a server. -/
def canSend (url : Url) : Bool :=
  url.hasHost && ["http", "https"].contains (String.ofList url.scheme)

/-- The text of a URL without user and password, which are sent apart from it. -/
def shown (url : Url) : String :=
  ({ url with user := [], password := [] } : Url).display

/-- Send a request and get the next reply.  A server whose replies are used up
gives plain ones. -/
def exchange (request : Request) : Session Link Reply := do
  let link ← get
  if !canSend request.url then throw (.http ("builder error for url (" ++ shown request.url ++ ")"))
  if !link.reachable then
    throw (.http ("error sending request for url (" ++ shown request.url ++ ")"))
  set { link with replies := link.replies.tail, sent := link.sent ++ [request] }
  return link.replies.headD Reply.plain

end Link

end Polyquery.Http
