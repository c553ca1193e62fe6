/-!
# Texts inside texts
-/

namespace Polyquery.Text

/-- Whether a text occurs in a text. -/
def occurs (part : List Char) : List Char → Bool
  | [] => part.isEmpty
  | c :: rest => part.isPrefixOf (c :: rest) || occurs part rest

end Polyquery.Text
