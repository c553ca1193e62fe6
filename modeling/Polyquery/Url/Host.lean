import Polyquery.Url.Domain.Name

/-!
# Hosts of URLs

A host is a name, or an address of version 4 or 6.  Schemes of the web know all
three, and their names are written in ASCII and in small letters; in other schemes a
host that is not in brackets is a name as it is written.
-/

namespace Polyquery

/-- Why a text is no URL. -/
inductive UrlError where
  /-- There is no scheme. -/
  | relative
  | emptyHost
  | invalidPort
  /-- A name of the web holds a character that names cannot hold. -/
  | invalidDomain
  | invalidIpv4
  | invalidIpv6
  /-- A host of another scheme holds a character that hosts cannot hold. -/
  | invalidHostCharacter
deriving DecidableEq

def UrlError.message : UrlError → String
  | relative => "relative URL without a base"
  | emptyHost => "empty host"
  | invalidPort => "invalid port number"
  | invalidDomain => "invalid international domain name"
  | invalidIpv4 => "invalid IPv4 address"
  | invalidIpv6 => "invalid IPv6 address"
  | invalidHostCharacter => "invalid domain character"

/-- A host of a URL. -/
inductive Host where
  | name (text : List Char)
  | ipv4 (address : Nat)
  /-- The eight groups of 16 bits. -/
  | ipv6 (groups : List Nat)
deriving DecidableEq

namespace Host

open Url (pieces number hexValue? encode decode? CharSet)

def allDigits (base : Nat) (text : List Char) : Bool :=
  text.all fun c => (hexValue? c).any (· < base)

/-! ### Version 4 -/

/-- A part of an address: decimal, octal after `0`, hexadecimal after `0x`. -/
def ipv4Number? (text : List Char) : Option Nat :=
  let (base, digits) := match text with
    | '0' :: 'x' :: digits => (16, digits)
    | '0' :: 'X' :: digits => (16, digits)
    | '0' :: digit :: digits => (8, digit :: digits)
    | digits => (10, digits)
  if text.isEmpty then none
  else if allDigits base digits then some (number base digits) else none

/-- The parts of a name; a dot at its end counts for nothing. -/
def parts (text : List Char) : List (List Char) :=
  match (pieces '.' text).reverse with
  | [] :: first :: others => (first :: others).reverse
  | reversed => reversed.reverse

/-- A name whose last part is a number is meant as an address. -/
def endsInNumber (text : List Char) : Bool :=
  match (parts text).getLast? with
  | some last => (!last.isEmpty && allDigits 10 last) || (ipv4Number? last).isSome
  | none => false

/-- Up to four numbers; the last fills all the bytes that are left. -/
def ipv4? (text : List Char) : Option Nat := do
  let numbers ← (parts text).mapM ipv4Number?
  let last ← numbers.getLast?
  let first := numbers.dropLast
  if 4 < numbers.length || first.any (255 < ·) || Nat.pow 256 (4 - first.length) ≤ last then none
  else some (first.zipIdx.foldl (fun sum (n, i) => sum + n * Nat.pow 256 (3 - i)) last)

/-! ### Version 6 -/

/-- One to four hexadecimal digits. -/
def group? (text : List Char) : Option Nat :=
  if !text.isEmpty && text.length ≤ 4 && allDigits 16 text then some (number 16 text) else none

/-- The last two groups may be written as four decimal numbers. -/
def dotted? (text : List Char) : Option (List Nat) :=
  match (pieces '.' text).mapM (fun part =>
      if !part.isEmpty && allDigits 10 part && number 10 part ≤ 255 &&
          (part.length = 1 || part.head? ≠ some '0') then some (number 10 part) else none) with
  | some [a, b, c, d] => some [256 * a + b, 256 * c + d]
  | _ => none

/-- Groups between colons; only the last may be written as decimal numbers. -/
def groups? : List (List Char) → Option (List Nat)
  | [] => some []
  | [last] => (group? last).map ([·]) <|> dotted? last
  | first :: rest => do return (← group? first) :: (← groups? rest)

/-- The text before and after the first two colons in a row. -/
def splitGap : List Char → List Char × Option (List Char)
  | ':' :: ':' :: rest => ([], some rest)
  | c :: rest => ((c :: (splitGap rest).1), (splitGap rest).2)
  | [] => ([], none)

/-- Groups on one side of the gap. -/
def side? (text : List Char) : Option (List Nat) :=
  if text.isEmpty then some [] else groups? (pieces ':' text)

/-- Eight groups, or fewer with a gap of at least one group. -/
def ipv6? (text : List Char) : Option (List Nat) :=
  match splitGap text with
  | (all, none) => do
    let groups ← side? all
    if groups.length = 8 then some groups else none
  | (before, some after) => do
    let left ← if before.contains '.' then none else side? before
    let right ← side? after
    if left.length + right.length < 8 then
      some (left ++ List.replicate (8 - left.length - right.length) 0 ++ right)
    else none

/-- The length of the run of zeros at the front. -/
def zeros (groups : List Nat) : Nat :=
  (groups.takeWhile (· = 0)).length

/-- Place and length of the first longest run of at least two zeros. -/
def longestGap (groups : List Nat) : Option (Nat × Nat) :=
  (List.range groups.length).foldl (fun best i =>
    let length := zeros (groups.drop i)
    if 2 ≤ length && (best.map Prod.snd).all (· < length) then some (i, length) else best) none

def hexText (n : Nat) : List Char :=
  Nat.toDigits 16 n

def joined (groups : List Nat) : List Char :=
  List.intercalate [':'] (groups.map hexText)

/-! ### Reading and writing -/

def write : Host → List Char
  | name text => text
  | ipv4 address =>
    List.intercalate ['.'] ((List.range 4).map fun i =>
      Nat.toDigits 10 (address / Nat.pow 256 (3 - i) % 256))
  | ipv6 groups =>
    match longestGap groups with
    | none => '[' :: joined groups ++ [']']
    | some (start, length) =>
      '[' :: joined (groups.take start) ++ "::".toList ++
        joined (groups.drop (start + length)) ++ [']']

/-- An address in brackets. -/
def ofBrackets (text : List Char) : Except UrlError Host :=
  match text.getLast?, ipv6? text.dropLast with
  | some ']', some groups => .ok (.ipv6 groups)
  | _, _ => .error .invalidIpv6

/-- The characters that end a host or that no host holds. -/
def forbidden : CharSet := fun c => "\x00\t\n\r #/:<>?@[\\]^|".toList.contains c

/-- The characters that no name of the web holds. -/
def forbiddenInDomain : CharSet := fun c => forbidden c || CharSet.controls c || c = '%'

/-- A host of a scheme of the web. -/
def ofDomain : List Char → Except UrlError Host
  | '[' :: text => ofBrackets text
  | text =>
    match (decode? text).bind Url.Domain.ascii? with
    | none => .error .invalidDomain
    | some domain =>
      if domain.any forbiddenInDomain then .error .invalidDomain
      else if domain.isEmpty then .error .emptyHost
      else if endsInNumber domain then
        match ipv4? domain with
        | some address => .ok (.ipv4 address)
        | none => .error .invalidIpv4
      else .ok (.name domain)

/-- A host of another scheme. -/
def ofText : List Char → Except UrlError Host
  | '[' :: text => ofBrackets text
  | text =>
    if text.any forbidden then .error .invalidHostCharacter
    else .ok (.name (encode CharSet.controls text))

end Host

end Polyquery
