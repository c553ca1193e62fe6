import Polyquery.Url.Domain.Composition
import Polyquery.Url.Domain.Direction
import Polyquery.Url.Domain.Joining
import Polyquery.Url.Domain.Mapping
import Polyquery.Url.Domain.Punycode

/-!
# Names of the web

A name consists of labels with dots between them.  It may be written in any script;
the network knows it in ASCII.  A label with other characters is known by a code, and
such a code may also be written in place of the label.
-/

namespace Polyquery.Url.Domain

open Punycode (isAscii)

/-- The mark of a label that is a code. -/
def codeMark : List Char := "xn--".toList

/-- Codes and labels beyond these lengths are refused. -/
def longestCode : Nat := 2000

def longestLabel : Nat := 1000

/-- The label that a label with all replacements made stands for.  A code must be the
code of a label that needs one. -/
def label? (text : List Char) : Option (List Char) :=
  match codeMark.isPrefixOf? text with
  | none => some text
  | some code => do
    if !code.all isAscii || longestCode < code.length then none
    let label ← Punycode.decode? code
    if label.all isAscii || !label.all isPlain || composed label ≠ label then none
    return label

/-- Whether a label may be shown: it begins with no mark, and its letters join well. -/
def isShown (label : List Char) : Bool :=
  !label.head?.any isMark && joinsWell [] label

/-- The label as the network knows it. -/
def known? (label : List Char) : Option (List Char) :=
  if label.all isAscii then some label
  else if longestLabel < label.length then none
  else some (codeMark ++ Punycode.encode label)

/-- The name as the network knows it. -/
def ascii? (name : List Char) : Option (List Char) := do
  let text := composed (← name.mapM mapped?).flatten
  let labels ← (pieces '.' text).mapM label?
  if !labels.all isShown then none
  if labels.any (·.any Direction.matters) && !labels.all Direction.keepsRule then none
  return List.intercalate ['.'] (← labels.mapM known?)

end Polyquery.Url.Domain
