import Polyquery.Url.Host

/-!
# URLs

A URL with its parts in their written form.  Two kinds of change are made to a
URL: segments are added to its path, and a user or a query parameter is set.
Every change encodes what it adds, so that added text never ends the part it
stands in.
-/

namespace Polyquery

/-- The path of a URL. -/
inductive Url.Path where
  /-- Segments, each after a slash. -/
  | segments (list : List (List Char))
  /-- A text without structure, to which nothing can be added. -/
  | plain (text : List Char)
deriving DecidableEq

/-- A URL.  All parts are in their written form. -/
structure Url where
  scheme : List Char
  user : List Char
  password : List Char
  host : Option Host
  port : Option Nat
  path : Url.Path
  query : Option (List Char)
  fragment : Option (List Char)
deriving DecidableEq

namespace Url

/-- The schemes of servers of the web, with their ports. -/
def specialSchemes : List (String × Nat) :=
  [("http", 80), ("https", 443), ("ws", 80), ("wss", 443), ("ftp", 21)]

def defaultPort? (scheme : List Char) : Option Nat :=
  specialSchemes.lookup (String.ofList scheme)

/-- Whether URLs of a scheme are paths to files, on this machine or on a host. -/
def isFile (scheme : List Char) : Bool :=
  scheme = "file".toList

/-- Whether a scheme is one of the web. -/
def isSpecial (scheme : List Char) : Bool :=
  (defaultPort? scheme).isSome || isFile scheme

/-- Whether paths can be added. -/
def canBeBase (url : Url) : Bool :=
  match url.path with
  | .segments _ => true
  | .plain _ => false

/-- Whether the URL names a host. -/
def hasHost (url : Url) : Bool :=
  url.host.any (· ≠ .name [])

namespace Path

/-- A path without an empty last segment, unless it is the only one. -/
def dropEmptyLast (list : List (List Char)) : List (List Char) :=
  if 2 ≤ list.length ∧ list.getLast? = some [] then list.dropLast else list

/-- Whether a segment names a drive: a letter and a colon or a bar. -/
def isDrive : List Char → Bool
  | [letter, mark] => letter.isAlpha && (mark = ':' || mark = '|')
  | _ => false

/-- The directory above.  There is none above a drive. -/
def up (list : List (List Char)) : List (List Char) :=
  if list.getLast?.any isDrive then list else list.dropLast

/-- A segment; a drive is written with a colon. -/
def drive (segment : List Char) : List Char :=
  if isDrive segment then segment.take 1 ++ [':'] else segment

/-- Add a segment.  The segment that consists of one or two dots is skipped, and
tabs and line ends are dropped.  The only segment of the path `/` is replaced. -/
def push (scheme : List Char) (list : List (List Char)) (segment : List Char) : List (List Char) :=
  if segment = ['.'] ∨ segment = ['.', '.'] then list
  else
    let kept := segment.filter fun c => c ≠ '\t' && c ≠ '\n' && c ≠ '\r'
    let set := if isSpecial scheme then CharSet.specialSegment else CharSet.segment
    let written := encode set kept
    let before := if list = [[]] then [] else list
    if written = ['.', '.'] then up before ++ [[]]
    else if written = ['.'] then before ++ [[]]
    else if isFile scheme && before.isEmpty then [drive written]
    else before ++ [written]

/-- Every segment after a slash. -/
def write : Path → List Char
  | segments list => list.flatMap fun segment => '/' :: segment
  | plain text => text

end Path

/-- The URL below a URL, with segments added to the path. -/
def below (url : Url) (added : List (List Char)) : Url :=
  match url.path with
  | .segments list =>
    let longer := added.foldl (Path.push url.scheme) (Path.dropEmptyLast list)
    { url with path := .segments longer }
  | .plain _ => url

/-- Set the user and the password. -/
def withUser (url : Url) (user password : List Char) : Url :=
  { url with user := encode CharSet.user user, password := encode CharSet.user password }

/-- Add parameters to the query.  Names and values are letters, digits and signs
that stand for themselves.  A query that is empty in the end is left out. -/
def withParameters (url : Url) (parameters : List (String × String)) : Url :=
  let texts := parameters.map fun (name, value) => name.toList ++ '=' :: value.toList
  let before := match url.query with
    | some query => if query.isEmpty then [] else [query]
    | none => []
  match before ++ texts with
  | [] => { url with query := none }
  | all => { url with query := some (List.intercalate ['&'] all) }

/-- The user and the password as they are written before a host. -/
def userInfo (url : Url) : List Char :=
  if url.user.isEmpty && url.password.isEmpty then []
  else
    url.user ++ (if url.password.isEmpty then [] else ':' :: url.password) ++ ['@']

/-- The part between the scheme and the path.  A path that begins with two slashes
needs a mark in front when there is no such part. -/
def authority (url : Url) : List Char :=
  match url.host with
  | some host =>
    "//".toList ++ url.userInfo ++ host.write ++
      (match url.port with
        | some port => ':' :: Nat.toDigits 10 port
        | none => [])
  | none =>
    match url.path with
    | .segments ([] :: _ :: _) => "/.".toList
    | _ => []

/-- A part that is written after a mark if it is there. -/
def optional (mark : Char) : Option (List Char) → List Char
  | some text => mark :: text
  | none => []

/-- The path and the query, as a request names them. -/
def target (url : Url) : String :=
  String.ofList (url.path.write ++ optional '?' url.query)

/-- The text of a URL. -/
def display (url : Url) : String :=
  String.ofList (url.scheme ++ ':' :: url.authority ++ url.path.write ++
    optional '?' url.query ++ optional '#' url.fragment)

end Url

end Polyquery
