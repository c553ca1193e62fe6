import Polyquery.Url.Pieces

/-!
# Labels in ASCII

A text is written in ASCII as its characters of ASCII and a row of numbers.  The
numbers say at which steps the other characters are put in while all places, for
one character after the other, are gone through in turn.  A number is written with
digits of base 36, the lowest digit first.  A digit below a threshold is the last one
of its number; the thresholds follow the size of the numbers so far.
-/

namespace Polyquery.Url.Domain.Punycode

/-- A digit: first the letters, then the digits of ASCII. -/
def digit (n : Nat) : Char :=
  if n < 26 then Char.ofNat (97 + n) else Char.ofNat (22 + n)

def value? (c : Char) : Option Nat :=
  if 'a' ≤ c ∧ c ≤ 'z' then some (c.toNat - 97)
  else if 'A' ≤ c ∧ c ≤ 'Z' then some (c.toNat - 65)
  else if '0' ≤ c ∧ c ≤ '9' then some (c.toNat - 22)
  else none

/-- The threshold for the digit at a place.  Places are counted in steps of 36. -/
def threshold (bias place : Nat) : Nat :=
  min (max (place - bias) 1) 26

theorem one_le_threshold (bias place : Nat) : 1 ≤ threshold bias place := by
  unfold threshold; omega

/-- Shrink a number until it is small; each division moves the bias by 36. -/
def settled (delta bias : Nat) : Nat :=
  if 455 < delta then settled (delta / 35) (bias + 36) else bias + 36 * delta / (delta + 38)
termination_by delta
decreasing_by exact Nat.div_lt_self (by omega) (by omega)

/-- The bias after a number, when there are `count` characters.  The first number
tells little about those that follow. -/
def nextBias (delta count : Nat) (isFirst : Bool) : Nat :=
  let scaled := if isFirst then delta / 700 else delta / 2
  settled (scaled + scaled / count) 0

/-- The bias before the first number. -/
def firstBias : Nat := 72

/-- The first character that is not written as it is. -/
def firstCode : Nat := 0x80

def isAscii (c : Char) : Bool := c.toNat < firstCode

/-! ### Writing -/

/-- The digits of a number. -/
def digits (bias place n : Nat) : List Char :=
  let t := threshold bias place
  if n < t then [digit n]
  else digit (t + (n - t) % (36 - t)) :: digits bias (place + 36) ((n - t) / (36 - t))
termination_by n
decreasing_by
  have := one_le_threshold bias place
  exact Nat.lt_of_le_of_lt (Nat.div_le_self _ _) (by omega)

/-- The state of a text that is written. -/
structure Writer where
  written : List Char
  /-- The steps since the last character. -/
  delta : Nat
  bias : Nat
  /-- The characters that are done. -/
  done : Nat

/-- Go past a character on the round for the character with number `code`. -/
def Writer.pass (basic code : Nat) (writer : Writer) (c : Char) : Writer :=
  if c.toNat < code then { writer with delta := writer.delta + 1 }
  else if c.toNat = code then
    { written := writer.written ++ digits writer.bias 36 writer.delta
      delta := 0
      bias := nextBias writer.delta (writer.done + 1) (writer.done = basic)
      done := writer.done + 1 }
  else writer

/-- Go round for one character after the other, the lowest first. -/
def rounds (text : List Char) (basic : Nat) : (codes : List Nat) → (next : Nat) → Writer → Writer
  | [], _, writer => writer
  | code :: codes, next, writer =>
    let start := { writer with delta := writer.delta + (code - next) * (writer.done + 1) }
    let finish := text.foldl (Writer.pass basic code) start
    rounds text basic codes (code + 1) { finish with delta := finish.delta + 1 }

/-- The text in ASCII. -/
def encode (text : List Char) : List Char :=
  let basic := text.filter isAscii
  let codes := ((text.filter (!isAscii ·)).map Char.toNat).eraseDups.mergeSort (· ≤ ·)
  let writer := rounds text basic.length codes firstCode ⟨[], 0, firstBias, basic.length⟩
  basic ++ (if basic.isEmpty then [] else ['-']) ++ writer.written

/-! ### Reading -/

/-- A text that is read. -/
structure Reader where
  found : List Char
  /-- The number of the character that is put in next. -/
  code : Nat
  /-- The place of the character. -/
  place : Nat
  bias : Nat

/-- Put in a character after a number of steps. -/
def Reader.insert? (reader : Reader) (delta : Nat) : Option Reader :=
  let count := reader.found.length + 1
  let total := reader.place + delta
  let code := reader.code + total / count
  if code.isValidChar then
    some {
      found := reader.found.take (total % count) ++ Char.ofNat code ::
        reader.found.drop (total % count)
      code
      place := total % count + 1
      bias := nextBias delta count (reader.place = 0) }
  else none

/-- Read digits.  `sum` is what the digits of the number so far make, `weight` what
the next digit counts. -/
def read? (reader : Reader) (place weight sum : Nat) : List Char → Option (List Char)
  | [] => if place = 36 then some reader.found else none
  | c :: rest => do
    let n ← value? c
    let t := threshold reader.bias place
    let sum := sum + n * weight
    if n < t then
      let reader ← reader.insert? sum
      read? reader 36 1 0 rest
    else read? reader (place + 36) (weight * (36 - t)) sum rest

/-- The text that a text in ASCII stands for.  The last hyphen ends the characters
that are written as they are, unless it stands at the very front. -/
def decode? (text : List Char) : Option (List Char) :=
  let after := (text.reverse.takeWhile (· ≠ '-')).reverse
  let basic := text.take (text.length - after.length - 1)
  if basic.isEmpty then read? ⟨[], firstCode, 0, firstBias⟩ 36 1 0 text
  else read? ⟨basic, firstCode, 0, firstBias⟩ 36 1 0 after

end Polyquery.Url.Domain.Punycode
