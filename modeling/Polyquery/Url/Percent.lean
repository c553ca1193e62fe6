/-!
# Percent encoding

The parts of a URL are written in ASCII: a character that is not allowed where it
stands is replaced by its UTF-8 bytes, each as a percent sign and two upper-case
hexadecimal digits.  Which characters are replaced depends on the part.
-/

namespace Polyquery.Url

/-- A set of characters. -/
abbrev CharSet := Char → Bool

namespace CharSet

/-- The characters that no part of a URL holds as they are. -/
def controls : CharSet := fun c => c.toNat < 0x20 || 0x7F ≤ c.toNat

/-- A set with more characters. -/
def plus (set : CharSet) (more : String) : CharSet :=
  fun c => set c || more.toList.contains c

def query : CharSet := controls.plus " \"#<>"

def specialQuery : CharSet := query.plus "'"

def fragment : CharSet := controls.plus " \"<>`"

def path : CharSet := fragment.plus "#?\x7b\x7d"

/-- In a segment that is added to a path, the marks between segments and of
encoded bytes stand for themselves. -/
def segment : CharSet := path.plus "/%"

def specialSegment : CharSet := segment.plus "\\"

def user : CharSet := path.plus "/:;=@[\\]^|"

end CharSet

/-- One of the sixteen upper-case hexadecimal digits. -/
def hexDigit (n : Nat) : Char :=
  if n < 10 then Char.ofNat (48 + n) else Char.ofNat (55 + n)

/-- The value of a hexadecimal digit. -/
def hexValue? (c : Char) : Option Nat :=
  if '0' ≤ c ∧ c ≤ '9' then some (c.toNat - 48)
  else if 'A' ≤ c ∧ c ≤ 'F' then some (c.toNat - 55)
  else if 'a' ≤ c ∧ c ≤ 'f' then some (c.toNat - 87)
  else none

/-- A byte as a percent sign and two digits. -/
def encodeByte (byte : UInt8) : List Char :=
  ['%', hexDigit (byte.toNat / 16), hexDigit (byte.toNat % 16)]

def encodeChar (set : CharSet) (c : Char) : List Char :=
  if set c then (String.utf8EncodeChar c).flatMap encodeByte else [c]

/-- A text with the characters of a set replaced. -/
def encode (set : CharSet) (text : List Char) : List Char :=
  text.flatMap (encodeChar set)

/-- The bytes that a text with encoded bytes stands for. -/
def decodeBytes : List Char → List UInt8
  | '%' :: high :: low :: rest =>
    match hexValue? high, hexValue? low with
    | some h, some l => UInt8.ofNat (16 * h + l) :: decodeBytes rest
    | _, _ => String.utf8EncodeChar '%' ++ decodeBytes (high :: low :: rest)
  | c :: rest => String.utf8EncodeChar c ++ decodeBytes rest
  | [] => []
termination_by text => text.length

/-- The text that a text with encoded bytes stands for, unless the bytes are no
UTF-8. -/
def decode? (text : List Char) : Option (List Char) :=
  (String.fromUTF8? (decodeBytes text).toByteArray).map String.toList

end Polyquery.Url
