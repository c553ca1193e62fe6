import Polyquery.Proofs.Sql.Lexing
import Polyquery.Proofs.Sql.Unquoting
import Polyquery.Sql.Term
import Polyquery.Sqlite.Cell

/-!
# String literals of SQLite

Strings are written for SQLite with the escapes of MySQL, but SQLite takes a backslash as it
is.  The literal of a string is one token whatever its characters are, and stands for the string
with its escapes in it: a string without any is what is bound for it, and every other string
gets longer.
-/

namespace Polyquery

open Sql

namespace Sql

variable {c : Char}

/-! ## Escapes as characters -/

/-- Escapes hold no quotation marks, so that these can be doubled afterwards. -/
theorem escaped_quotationMark (text : String) :
    escaped '\'' text = doubled '\'' (escaped '\\' text) := by
  have kept : ∀ pair ∈ escapeLetters,
      ['\\', pair.1].flatMap (doubledChar '\'') = ['\\', pair.1] := by
    decide
  have each (c : Char) :
      escapedChar '\'' c = (escapedChar '\\' c).flatMap (doubledChar '\'') := by
    by_cases isEscaped : IsEscaped c
    · obtain ⟨letter, listed, written⟩ := escapedChar_of_isEscaped isEscaped
      rw [written, written, kept _ listed]
    · rw [escapedChar_of_not_isEscaped isEscaped,
        escapedChar_of_isEscaped_mark isEscaped (by decide), List.flatMap_singleton]
  simp only [escaped, doubled, String.toList_ofList, List.flatMap_assoc, funext each]

theorem nul_not_mem_escapedChar (mark : Char) : '\x00' ∉ escapedChar mark c := by
  by_cases isEscaped : IsEscaped c
  · obtain ⟨letter, listed, written⟩ := escapedChar_of_isEscaped isEscaped
    have other : ∀ pair ∈ escapeLetters, '\x00' ∉ ['\\', pair.1] := by decide
    rw [written]
    exact other _ listed
  · intro inside
    have same : '\x00' = c := by
      rw [escapedChar_of_not_isEscaped isEscaped, doubledChar] at inside
      split at inside
      all_goals simpa using inside
    exact isEscaped (same ▸ by decide)

/-! ## Texts without escapes -/

/-- Every escape makes a text longer. -/
theorem length_escaped_backslash (text : String) :
    (escaped '\\' text).toList.length =
      text.toList.length + text.toList.countP fun c => decide (IsEscaped c) := by
  rw [escaped, String.toList_ofList]
  induction text.toList with
  | nil => rfl
  | cons c rest ih =>
      rw [List.flatMap_cons, List.length_append, ih, List.length_cons]
      by_cases isEscaped : IsEscaped c
      · obtain ⟨letter, -, written⟩ := escapedChar_of_isEscaped isEscaped
        rw [written, List.countP_cons_of_pos (p := fun c => decide (IsEscaped c))
          (decide_eq_true isEscaped)]
        simp only [List.length_cons, List.length_nil]
        omega
      · rw [escapedChar_of_isEscaped_mark isEscaped (by decide),
          List.countP_cons_of_neg (p := fun c => decide (IsEscaped c)) (by simpa using isEscaped),
          List.length_singleton]
        omega

/-- A text is the same with its escapes exactly if it has none. -/
theorem escaped_backslash_eq_self_iff (text : String) :
    escaped '\\' text = text ↔ ∀ c ∈ text.toList, ¬ IsEscaped c := by
  constructor
  · intro same c inside isEscaped
    have length := length_escaped_backslash text
    rw [same] at length
    have positive : 0 < text.toList.countP fun c => decide (IsEscaped c) :=
      List.countP_pos_iff.mpr ⟨c, inside, decide_eq_true isEscaped⟩
    omega
  · intro plain
    have kept : text.toList.flatMap (escapedChar '\\') = text.toList.flatMap fun c => [c] :=
      List.flatMap_congr fun c inside => escapedChar_of_isEscaped_mark (plain c inside) (by decide)
    rw [escaped, kept, List.flatMap_singleton', String.ofList_toList]

end Sql

namespace Sqlite

/-! ## Literals -/

/-- The literal of a string is one token. -/
theorem tokens_quoteText (text : String) :
    (Lexeme.ofText? (Dialect.sqlite.quoteText text)).map (List.map Lexeme.token) =
      some [.text (escaped '\\' text)] := by
  have noNul : (Dialect.sqlite.quoteText text).toList.contains '\x00' = false := by
    simp [Dialect.quoteText, enclosed, escaped, nul_not_mem_escapedChar]
  have written : Dialect.sqlite.quoteText text =
      enclosed '\'' (doubled '\'' (escaped '\\' text)) := by
    rw [← escaped_quotationMark]
    rfl
  have reads : Lexer.ReadsAs .sqlite (Dialect.sqlite.quoteText text).toList 0
      [.text (escaped '\\' text)] 0 := by
    rw [written]
    simpa [Lexer.quotedToken] using
      Lexer.readsAs_enclosed (.inr (.inr rfl)) (escaped '\\' text)
  rw [Lexeme.ofText?, if_neg (by simp only [noNul, Bool.false_eq_true, not_false_eq_true])]
  exact reads.scan?_eq

/-- The cell that a literal stands for; none if a text is more or less than one literal. -/
def Cell.ofLiteral? (text : String) : Option Cell := do
  let lexemes ← Lexeme.ofText? text
  match ← Term.ofTokens? (lexemes.map Lexeme.token) with
  | (.value v, []) => some (ofValue v)
  | _ => none

theorem Cell.ofLiteral?_quoteText (text : String) :
    ofLiteral? (Dialect.sqlite.quoteText text) = some (.text (escaped '\\' text)) := by
  obtain ⟨lexemes, scanned, tokens⟩ := Option.map_eq_some_iff.mp (tokens_quoteText text)
  rw [ofLiteral?, scanned]
  change (Term.ofTokens? (lexemes.map Lexeme.token)).bind _ = _
  rw [tokens]
  rfl

/-- The literal of a string is one token, and stands for the string with its escapes.  That is
what is bound for the string exactly if no character of it is escaped. -/
theorem literal_eq_bound_iff (text : String) :
    (Lexeme.ofText? (Dialect.sqlite.quoteText text)).map (List.map Lexeme.token) =
      some [.text (escaped '\\' text)] ∧
    Cell.ofLiteral? (Dialect.sqlite.quoteText text) =
      some (Cell.ofValue (.str (escaped '\\' text))) ∧
    (Cell.ofLiteral? (Dialect.sqlite.quoteText text) = some (Cell.ofValue (.str text)) ↔
      ∀ c ∈ text.toList, ¬ IsEscaped c) := by
  refine ⟨tokens_quoteText text, Cell.ofLiteral?_quoteText text, ?_⟩
  rw [Cell.ofLiteral?_quoteText, Cell.ofValue, Option.some.injEq, Cell.text.injEq]
  exact escaped_backslash_eq_self_iff text

/-- A backslash is bound as it is, and comes twice where the literal stands. -/
theorem literal_ne_bound_backslash :
    Dialect.sqlite.quoteText "C:\\films" = "'C:\\\\films'" ∧
    Cell.ofLiteral? "'C:\\\\films'" = some (.text "C:\\\\films") ∧
    Cell.ofValue (.str "C:\\films") = .text "C:\\films" ∧
    ¬ ∀ text : String,
      Cell.ofLiteral? (Dialect.sqlite.quoteText text) = some (Cell.ofValue (.str text)) := by
  have written : Dialect.sqlite.quoteText "C:\\films" = "'C:\\\\films'" := by decide
  have stands := Cell.ofLiteral?_quoteText "C:\\films"
  rw [written, show escaped '\\' "C:\\films" = "C:\\\\films" by decide] at stands
  refine ⟨written, stands, rfl, fun always => ?_⟩
  have bound := always "C:\\films"
  rw [written, stands, Cell.ofValue, Option.some.injEq, Cell.text.injEq] at bound
  exact absurd bound (by decide)

end Sqlite

end Polyquery
