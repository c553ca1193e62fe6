import Polyquery.Url.Percent

/-!
# Pieces of texts

Hosts, paths and tables are texts of pieces with marks between them.  Many of the
pieces are numbers.
-/

namespace Polyquery.Url

/-- The pieces of a text between the places where a character stands. -/
def pieces (mark : Char) : List Char → List (List Char)
  | [] => [[]]
  | c :: rest =>
    if c = mark then [] :: pieces mark rest
    else match pieces mark rest with
      | [] => [[c]]
      | first :: others => (c :: first) :: others

/-- The number that digits of a base stand for. -/
def number (base : Nat) (digits : List Char) : Nat :=
  digits.foldl (fun n c => base * n + (hexValue? c).getD 0) 0

end Polyquery.Url
