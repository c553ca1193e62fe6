import Polyquery.Url.Basic

/-!
# Reading URLs

A text is read from left to right: scheme, user, host, port, path, query,
fragment.  In a scheme of the web a backslash counts as a slash, any number of
slashes may stand before the host, and the host must not be empty.  The scheme of
files has no user and no port, and its host may be left out.
-/

namespace Polyquery.Url

/-- Drop the characters that a URL may be surrounded by and those that it may be
interrupted by. -/
def cleaned (text : List Char) : List Char :=
  let outer (c : Char) : Bool := c.toNat ≤ 0x20
  let inner := ((text.dropWhile outer).reverse.dropWhile outer).reverse
  inner.filter fun c => c ≠ '\t' && c ≠ '\n' && c ≠ '\r'

/-- The scheme in lower case and the text after its colon. -/
def scheme? (text : List Char) : Option (List Char × List Char) :=
  let allowed (c : Char) : Bool := c.isAlphanum || c = '+' || c = '-' || c = '.'
  match text.takeWhile allowed, text.dropWhile allowed with
  | first :: more, ':' :: rest =>
    if first.isAlpha then some ((first :: more).map Char.toLower, rest) else none
  | _, _ => none

/-- Whether a character ends the part with user, host and port. -/
def endsAuthority (special : Bool) (c : Char) : Bool :=
  c = '/' || c = '?' || c = '#' || (special && c = '\\')

/-- The text before and after the last `@`. -/
def splitUser (text : List Char) : Option (List Char × List Char) :=
  if text.contains '@' then
    let reversed := text.reverse
    some ((reversed.dropWhile (· ≠ '@')).tail.reverse, (reversed.takeWhile (· ≠ '@')).reverse)
  else none

/-- The length of the text of a host: it ends before a colon outside brackets. -/
def hostLength (inside : Bool) : List Char → Nat
  | [] => 0
  | c :: rest =>
    if c = ':' && !inside then 0
    else 1 + hostLength (if c = '[' then true else if c = ']' then false else inside) rest

/-- A port up to 65535.  An empty port and the port of the scheme count as none.
What stands after a backslash that does not end the host belongs to the path. -/
def portOf (scheme text : List Char) : Except UrlError (Option Nat × List Char) :=
  let digits := text.takeWhile Char.isDigit
  let rest := text.dropWhile Char.isDigit
  let value := number 10 digits
  if 65535 < value || rest.head?.any (· ≠ '\\') then .error .invalidPort
  else if digits.isEmpty || some value = defaultPort? scheme then .ok (none, rest)
  else .ok (some value, rest)

/-- User, host and port. -/
structure Authority where
  user : List Char
  password : List Char
  host : Host
  port : Option Nat
  /-- What belongs to the path. -/
  rest : List Char

/-- Read the part between the slashes and the path. -/
def authorityOf (scheme text : List Char) : Except UrlError Authority := do
  let (info, server) := (splitUser text).getD ([], text)
  if (splitUser text).isSome && server.isEmpty then throw .emptyHost
  let user := info.takeWhile (· ≠ ':')
  let password := (info.dropWhile (· ≠ ':')).tail
  let length := hostLength false server
  let hostText := server.take length
  let after := server.drop length
  if isSpecial scheme && hostText.isEmpty then throw .emptyHost
  let host ← if isSpecial scheme then Host.ofDomain hostText else Host.ofText hostText
  if host = .name [] && (!after.isEmpty || !info.isEmpty) then throw .emptyHost
  let (port, rest) ← match after with
    | ':' :: digits => portOf scheme digits
    | _ => pure (none, [])
  return ⟨encode CharSet.user user, encode CharSet.user password, host, port, rest⟩

/-- Whether a segment stands for the directory itself. -/
def isDot (segment : List Char) : Bool :=
  [".", "%2e"].contains (String.ofList (segment.map Char.toLower))

/-- Whether a segment stands for the directory above. -/
def isDotDot (segment : List Char) : Bool :=
  ["..", ".%2e", "%2e.", "%2e%2e"].contains (String.ofList (segment.map Char.toLower))

/-- The segments of a path with those made of dots resolved.  If the last segment
is one of them, an empty segment takes its place. -/
def resolved (done : List (List Char)) : List (List Char) → List (List Char)
  | [] => done
  | segment :: rest =>
    let done :=
      if isDotDot segment then Path.up done
      else if isDot segment then done
      else done ++ [encode CharSet.path segment]
    if rest.isEmpty && (isDotDot segment || isDot segment) then done ++ [[]]
    else resolved done rest

/-- The segments of the text of a path.  In a scheme of the web there is at least
one. -/
def segmentsOf (special : Bool) (text : List Char) : List (List Char) :=
  let slashes := if special then text.map fun c => if c = '\\' then '/' else c else text
  match slashes with
  | [] => if special then [[]] else []
  | '/' :: rest => resolved [] (pieces '/' rest)
  | rest => resolved [] (pieces '/' rest)

/-- Read what stands after the scheme of files: a host and the segments of a path.
This machine is no host, and a path that begins with a drive is on this machine.
Empty segments at the front of the path are left out. -/
def fileOf (text : List Char) : Except UrlError (Host × List (List Char)) := do
  let (hostText, path) := match text.map fun c => if c = '\\' then '/' else c with
    | '/' :: '/' :: rest =>
      let hostText := rest.takeWhile (· ≠ '/')
      if Path.isDrive hostText then ([], rest) else (hostText, rest.dropWhile (· ≠ '/'))
    | rest => ([], rest)
  let host ← if hostText.isEmpty then pure (.name []) else Host.ofDomain hostText
  let list := segmentsOf true path
  if list.head?.any Path.isDrive then
    return (.name [], (list.take 1).map Path.drive ++ list.drop 1)
  let kept := list.dropWhile List.isEmpty
  return (if host = .name "localhost".toList then .name [] else host,
    if kept.isEmpty then [[]] else kept)

/-- Cut off what stands after the first of a mark. -/
def splitAt (mark : Char) (text : List Char) : List Char × Option (List Char) :=
  match text.dropWhile (· ≠ mark) with
  | [] => (text, none)
  | _ :: rest => (text.takeWhile (· ≠ mark), some rest)

/-- The URL that a text stands for. -/
def ofText (text : String) : Except UrlError Url := do
  let some (scheme, rest) := scheme? (cleaned text.toList) | throw .relative
  let special := isSpecial scheme
  let (rest, fragment) := splitAt '#' rest
  let (rest, query) := splitAt '?' rest
  let query := query.map (encode (if special then CharSet.specialQuery else CharSet.query))
  let fragment := fragment.map (encode CharSet.fragment)
  let withAuthority (text : List Char) : Except UrlError Url := do
    let found ← authorityOf scheme (text.takeWhile (!endsAuthority special ·))
    let path := segmentsOf special (found.rest ++ text.dropWhile (!endsAuthority special ·))
    return ⟨scheme, found.user, found.password, found.host, found.port, .segments path, query,
      fragment⟩
  if isFile scheme then
    let (host, path) ← fileOf rest
    return ⟨scheme, [], [], host, none, .segments path, query, fragment⟩
  else if special then withAuthority (rest.dropWhile fun c => c = '/' || c = '\\')
  else match rest with
    | '/' :: '/' :: text => withAuthority text
    | '/' :: text =>
      let path := .segments (segmentsOf false ('/' :: text))
      return ⟨scheme, [], [], none, none, path, query, fragment⟩
    | text =>
      let path := .plain (encode CharSet.controls text)
      return ⟨scheme, [], [], none, none, path, query, fragment⟩

end Polyquery.Url
