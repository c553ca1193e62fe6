import Polyquery.Json.Basic

/-!
# Reading JSON text

Reading has three steps.  `Token.ofText?` cuts the text into tokens,
`Source.ofTokens?` builds the tree as it was written, with repeated names and
with the parts that only some readers refuse (numbers out of range, halves of
surrogate pairs, deep nesting), and `Source.value?` turns the tree into a
value.  Each of the first two is a machine that takes one symbol at a time.  What
the digits of a number stand for is up to a reading of numbers.
-/

namespace Polyquery.Json

/-- A symbol of JSON text.  A number out of range and a string with half of a
surrogate pair have no content. -/
inductive Token where
  | openArray
  | closeArray
  | openObject
  | closeObject
  | comma
  | colon
  | null
  | bool (b : Bool)
  | num (n : Option Number)
  | str (s : Option String)
deriving DecidableEq

/-! ## Numbers -/

/-- The value of a row of decimal digits. -/
def digitsValue (digits : List Char) : Nat :=
  digits.foldl (fun n c => 10 * n + (c.toNat - '0'.toNat)) 0

/-- The double precision number nearest to `m * 10 ^ e`; none if it is out of
range. -/
def nearest? (m : Nat) (e : Int) : Option Float :=
  let size := ((toString m).length : Int) + e
  if m = 0 || size < -330 then some 0.0
  else if 310 < size then none
  else
    let x := if 0 ≤ e then Float.ofScientific m false e.toNat
      else Float.ofScientific m true (-e).toNat
    if x.isInf then none else some x

/-- `m * 10 ^ e` with a rounding for each step: first `m` is rounded, then its
product with a rounded power of ten, or its quotient by one; none if it is out of
range.  Quotients by powers beyond the range of double precision take two
steps. -/
def scaled? (m : Nat) (e : Int) : Option Float :=
  let power (k : Int) : Float := Float.ofScientific 1 false k.toNat
  let x := Float.ofNat m
  if m = 0 || e < -616 then some 0.0
  else if 308 < e then none
  else if e < -308 then some (x / power 308 / power (-e - 308))
  else if e < 0 then some (x / power (-e))
  else if (x * power e).isInf then none
  else some (x * power e)

/-- Append digits to a value as long as it fits 64 bits; the new value and the
digits that are left. -/
def appendFitting (value : Nat) : List Char → Nat × List Char
  | [] => (value, [])
  | c :: rest =>
    let longer := 10 * value + (c.toNat - '0'.toNat)
    if longer < 18446744073709551616 then appendFitting longer rest else (value, c :: rest)

/-- The parts of a number as written. -/
structure NumberParts where
  negative : Bool
  whole : List Char
  fraction : Option (List Char)
  exponent : Option (Bool × List Char)

/-- Take the text of a number apart; none if it is not written as JSON demands:
no leading zeros, digits on both sides of a point, digits in an exponent. -/
def NumberParts.ofText? (text : List Char) : Option NumberParts := do
  let (negative, rest) := match text with
    | '-' :: rest => (true, rest)
    | rest => (false, rest)
  let whole := rest.takeWhile Char.isDigit
  let rest := rest.dropWhile Char.isDigit
  if whole.isEmpty || (whole.head? == some '0' && 1 < whole.length) then none
  let (fraction, rest) := match rest with
    | '.' :: rest => (some (rest.takeWhile Char.isDigit), rest.dropWhile Char.isDigit)
    | rest => (none, rest)
  if fraction == some [] then none
  let exponent ← match rest with
    | [] => some none
    | mark :: rest =>
      if mark = 'e' || mark = 'E' then
        let (down, digits) := match rest with
          | '-' :: digits => (true, digits)
          | '+' :: digits => (false, digits)
          | digits => (false, digits)
        if digits.isEmpty || !digits.all Char.isDigit then none else some (some (down, digits))
      else none
  some ⟨negative, whole, fraction, exponent⟩

/-- The power of ten of the exponent. -/
def NumberParts.shift (parts : NumberParts) : Int :=
  match parts.exponent with
  | none => 0
  | some (true, digits) => -(digitsValue digits)
  | some (false, digits) => digitsValue digits

/-- A number with the sign that is written. -/
def NumberParts.signed (parts : NumberParts) (x : Float) : Float :=
  if parts.negative then -x else x

/-- The double precision number nearest to the one that is written. -/
def NumberParts.nearest? (parts : NumberParts) : Option Float :=
  let fraction := parts.fraction.getD []
  (Json.nearest? (digitsValue (parts.whole ++ fraction)) (parts.shift - fraction.length)).map
    parts.signed

/-- The number that is written, as it is read for speed: the leading digits that
fit 64 bits count, and the result is rounded step by step. -/
def NumberParts.approximate? (parts : NumberParts) : Option Float :=
  let fraction := parts.fraction.getD []
  let (whole, dropped) := appendFitting 0 parts.whole
  let (value, left) := appendFitting whole fraction
  (scaled? value (parts.shift + dropped.length - (fraction.length - left.length : Nat))).map
    parts.signed

/-- The number that is written.  Whole numbers of 64 bits stay whole, except
the negative zero; all others are read in double precision. -/
def NumberParts.number? (parts : NumberParts) : Option Number :=
  match parts.fraction, parts.exponent with
  | none, none =>
    let n : Int := if parts.negative then -(digitsValue parts.whole) else digitsValue parts.whole
    if Number.fitsWhole n && !(parts.negative && n == 0) then some (.int n)
    else parts.approximate?.map .float
  | _, _ => parts.approximate?.map .float

/-! ## Tokens -/

/-- The value of a hexadecimal digit. -/
def hexValue? (c : Char) : Option Nat :=
  if '0' ≤ c && c ≤ '9' then some (c.toNat - 48)
  else if 'a' ≤ c && c ≤ 'f' then some (c.toNat - 87)
  else if 'A' ≤ c && c ≤ 'F' then some (c.toNat - 55)
  else none

/-- The content of a string so far, in reverse; none once it holds half of a
surrogate pair. -/
abbrev Content := Option (List Char)

/-- The state of the tokenizer between two characters. -/
inductive Lexer where
  /-- Between tokens. -/
  | between
  /-- Inside a word or a number, its characters in reverse. -/
  | word (seen : List Char)
  /-- Inside a string.  `high` is a high surrogate that waits for its partner. -/
  | string (content : Content) (high : Option Nat)
  /-- After a backslash. -/
  | escape (content : Content) (high : Option Nat)
  /-- Inside the digits of an escape by number, `left` digits before its end. -/
  | unicode (content : Content) (high : Option Nat) (left : Nat) (code : Nat)

/-- Half of a surrogate pair that found no partner spoils the string. -/
def Content.settle (content : Content) : Option Nat → Content
  | none => content
  | some _ => none

/-- Append a code unit written by number, and the surrogate that now waits. -/
def Content.addUnit (content : Content) (high : Option Nat) (unit : Nat) :
    Content × Option Nat :=
  if 0xD800 ≤ unit && unit < 0xDC00 then (content.settle high, some unit)
  else if 0xDC00 ≤ unit && unit < 0xE000 then
    match high with
    | some h =>
      (content.map (Char.ofNat (0x10000 + (h - 0xD800) * 0x400 + (unit - 0xDC00)) :: ·), none)
    | none => (none, none)
  else ((content.settle high).map (Char.ofNat unit :: ·), none)

/-- The character that a backslash and a letter stand for. -/
def unescape? (c : Char) : Option Char :=
  if c = '"' || c = '\\' || c = '/' then some c
  else if c = 'b' then some '\x08'
  else if c = 'f' then some '\x0c'
  else if c = 'n' then some '\n'
  else if c = 'r' then some '\r'
  else if c = 't' then some '\t'
  else none

section

-- what the parts of a number stand for
variable (read : NumberParts → Option Number)

/-- The token of a word: a literal name or a number. -/
def Token.ofWord? (word : List Char) : Option Token :=
  if word = ['n', 'u', 'l', 'l'] then some .null
  else if word = ['t', 'r', 'u', 'e'] then some (.bool true)
  else if word = ['f', 'a', 'l', 's', 'e'] then some (.bool false)
  else (NumberParts.ofText? word).map fun parts => .num (read parts)

/-- The token of a structural character. -/
def Token.ofMark? (c : Char) : Option Token :=
  if c = '[' then some .openArray
  else if c = ']' then some .closeArray
  else if c = '\x7b' then some .openObject
  else if c = '\x7d' then some .closeObject
  else if c = ',' then some .comma
  else if c = ':' then some .colon
  else none

/-- The white space of JSON. -/
def isSpace (c : Char) : Bool :=
  c = ' ' || c = '\n' || c = '\t' || c = '\r'

/-- Take one character in a state between tokens. -/
def Lexer.start? (tokens : List Token) (c : Char) : Option (Lexer × List Token) :=
  if isSpace c then some (.between, tokens)
  else if c = '"' then some (.string (some []) none, tokens)
  else match Token.ofMark? c with
    | some token => some (.between, token :: tokens)
    | none => some (.word [c], tokens)

/-- Take one character.  The tokens so far are in reverse. -/
def Lexer.step? (state : Lexer) (tokens : List Token) (c : Char) :
    Option (Lexer × List Token) :=
  match state with
  | .between => Lexer.start? tokens c
  | .word seen =>
    if isSpace c || c = '"' || (Token.ofMark? c).isSome then do
      let token ← Token.ofWord? read seen.reverse
      Lexer.start? (token :: tokens) c
    else some (.word (c :: seen), tokens)
  | .string content high =>
    if c = '"' then
      some (.between, .str ((content.settle high).map (String.ofList ·.reverse)) :: tokens)
    else if c = '\\' then some (.escape content high, tokens)
    else if c.toNat < 32 then none
    else some (.string ((content.settle high).map (c :: ·)) none, tokens)
  | .escape content high =>
    if c = 'u' then some (.unicode content high 3 0, tokens)
    else do
      let plain ← unescape? c
      some (.string ((content.settle high).map (plain :: ·)) none, tokens)
  | .unicode content high left code => do
    let digit ← hexValue? c
    match left with
    | 0 =>
      let (content, high) := content.addUnit high (16 * code + digit)
      some (.string content high, tokens)
    | left + 1 => some (.unicode content high left (16 * code + digit), tokens)

/-- Run the tokenizer from a state to the end of the text. -/
def Lexer.run? (state : Lexer) (tokens : List Token) : List Char → Option (List Token)
  | [] =>
    match state with
    | .between => some tokens.reverse
    | .word seen => (Token.ofWord? read seen.reverse).map fun token => (token :: tokens).reverse
    | _ => none
  | c :: rest =>
    match state.step? read tokens c with
    | none => none
    | some (next, tokens) => Lexer.run? next tokens rest

/-- The tokens of a text. -/
def Token.ofText? (text : String) : Option (List Token) :=
  Lexer.run? read .between [] text.toList

end

/-! ## The written tree -/

/-- A JSON value as it was written: fields in order and with repetitions. -/
inductive Source where
  | null
  | bool (b : Bool)
  | num (n : Option Number)
  | str (s : Option String)
  | arr (items : List Source)
  | obj (fields : List (Option String × Source))
deriving Inhabited

/-- An array or object that is not closed yet, its entries in reverse. -/
inductive Frame where
  | items (before : List Source)
  | fields (before : List (Option String × Source)) (key : Option String)

/-- What may come next. -/
inductive Expect where
  /-- A value. -/
  | value
  /-- A value or the end of the empty array. -/
  | firstItem
  /-- A name or the end of the empty object. -/
  | firstKey (before : List (Option String × Source))
  /-- A name. -/
  | key (before : List (Option String × Source))
  /-- A colon after a name. -/
  | colon (before : List (Option String × Source)) (key : Option String)
  /-- A comma or the end of what is open, after a complete value. -/
  | next (done : Source)

/-- Take one token. -/
def Expect.step? (expect : Expect) (frames : List Frame) (token : Token) :
    Option (Expect × List Frame) :=
  match expect, token with
  | .firstItem, .closeArray => some (.next (.arr []), frames)
  | .value, .null | .firstItem, .null => opened expect frames .null
  | .value, .bool b | .firstItem, .bool b => opened expect frames (.bool b)
  | .value, .num n | .firstItem, .num n => opened expect frames (.num n)
  | .value, .str s | .firstItem, .str s => opened expect frames (.str s)
  | .value, .openArray => some (.firstItem, frames)
  | .firstItem, .openArray => some (.firstItem, .items [] :: frames)
  | .value, .openObject => some (.firstKey [], frames)
  | .firstItem, .openObject => some (.firstKey [], .items [] :: frames)
  | .firstKey before, .closeObject => some (.next (.obj before.reverse), frames)
  | .firstKey before, .str name | .key before, .str name => some (.colon before name, frames)
  | .colon before name, .colon => some (.value, .fields before name :: frames)
  | .next done, .comma =>
    match frames with
    | .items before :: frames => some (.value, .items (done :: before) :: frames)
    | .fields before name :: frames => some (.key ((name, done) :: before), frames)
    | [] => none
  | .next done, .closeArray =>
    match frames with
    | .items before :: frames => some (.next (.arr (done :: before).reverse), frames)
    | _ => none
  | .next done, .closeObject =>
    match frames with
    | .fields before name :: frames =>
      some (.next (.obj ((name, done) :: before).reverse), frames)
    | _ => none
  | _, _ => none
where
  /-- The first value of an array opens the frame of that array. -/
  opened (expect : Expect) (frames : List Frame) (value : Source) : Option (Expect × List Frame) :=
    match expect with
    | .firstItem => some (.next value, .items [] :: frames)
    | _ => some (.next value, frames)

/-- Build the tree of the remaining tokens. -/
def Expect.run? (expect : Expect) (frames : List Frame) : List Token → Option Source
  | [] =>
    match expect, frames with
    | .next done, [] => some done
    | _, _ => none
  | token :: rest =>
    match expect.step? frames token with
    | none => none
    | some (expected, frames) => expected.run? frames rest

/-- The tree of a text with a reading of numbers; none if the text is not JSON. -/
def Source.read? (read : NumberParts → Option Number) (text : String) : Option Source := do
  Expect.run? .value [] (← Token.ofText? read text)

/-- The tree of a text; none if the text is not JSON. -/
def Source.ofText? (text : String) : Option Source :=
  Source.read? NumberParts.number? text

/-! ## Values -/

/-- How many arrays and objects may be nested. -/
def depthLimit : Nat := 127

namespace Source

mutual

/-- The value that is written, if at most `depth` arrays and objects are nested
and every number and string has a content.  Of fields with one name the last
counts. -/
def value? (depth : Nat) : Source → Option Json
  | .null => some .null
  | .bool b => some (.bool b)
  | .num n => n.map .num
  | .str s => s.map .str
  | .arr items =>
    match depth with
    | 0 => none
    | depth + 1 => (values? depth items).map .arr
  | .obj fields =>
    match depth with
    | 0 => none
    | depth + 1 => (fieldValues? depth fields).map fun fields => .obj (Fields.ofList fields)

/-- The values of the elements of an array. -/
def values? (depth : Nat) : List Source → Option (List Json)
  | [] => some []
  | item :: rest => do
    let value ← value? depth item
    let values ← values? depth rest
    some (value :: values)

/-- The fields of an object in the order in which they are written. -/
def fieldValues? (depth : Nat) : List (Option String × Source) → Option (List (String × Json))
  | [] => some []
  | (key, item) :: rest => do
    let key ← key
    let value ← value? depth item
    let values ← fieldValues? depth rest
    some ((key, value) :: values)

end

end Source

/-- The value of a text; none if the text is not JSON. -/
def ofText? (text : String) : Option Json := do
  (← Source.ofText? text).value? depthLimit

end Polyquery.Json
