import Polyquery.Url.Domain.Permitted
import Polyquery.Url.Domain.Replacement

/-!
# What becomes of the characters of a name

Names that look alike are the same name.  Every character of a name is replaced by
the small letters or other characters that stand for it, or it is left out; a
character that no name holds makes the name invalid.
-/

namespace Polyquery.Url.Domain

/-- What a shift makes of a character, if it moves characters `step` apart. -/
def Shift.target? (step : Nat) (c : Char) (shift : Shift) : Option (List Char) :=
  let n := c.toNat
  if shift.first ≤ n ∧ n ≤ shift.last ∧ (n - shift.first) % step = 0 then
    some [Char.ofNat (shift.target + (n - shift.first))]
  else none

/-- The replacement of a character. -/
def replacement? (c : Char) : Option (List Char) :=
  shifted.findSome? (Shift.target? 1 c) <|> alternating.findSome? (Shift.target? 2 c) <|>
    single.findSome? fun (first, targets) =>
      if first ≤ c.toNat then targets[c.toNat - first]? else none

/-- What becomes of a character. -/
def mapped? (c : Char) : Option (List Char) :=
  if c.toNat < 0x80 then some [c.toLower]
  else if ignored.contains c then some []
  else match replacement? c with
    | some text => some text
    | none => if permitted.contains c then some [c] else none

/-- Whether a character stands for itself. -/
def isPlain (c : Char) : Bool :=
  mapped? c = some [c]

end Polyquery.Url.Domain
