import Mathlib
import Polyquery.Proofs.Sql.Parsing

/-!
# What the text of an expression shows

The text of an expression shows its names, values and operators from left to right, and
the parentheses that are written.  This is its outline: what stands between one pair of
parentheses is one sign of it.  The tokens of a text, each parameter with its value,
are a code for outlines in which no sign is the beginning of another, so expressions with
the same text and the same values have the same outline.
-/

namespace Polyquery

open Sql Sql.Lexer

/-! ## Formulas -/

namespace Operator

/-- Whether the operator makes a condition of one operand. -/
def isUnary : Operator → Bool
  | not | isNull | isNotNull => true
  | _ => false

/-- Whether the operator connects conditions. -/
def isConnective : Operator → Bool
  | and | or => true
  | _ => false

variable {o : Operator}

theorem between_iff : o.placement = .between ↔ o.isComparison ∨ o.isConnective := by
  cases o <;> decide

theorem isConnective_of_isComparison (comparison : o.isComparison) : o.isConnective = false := by
  cases o <;> first | rfl | cases comparison

theorem between_of_isConnective (connective : o.isConnective) : o.placement = .between :=
  between_iff.mpr (.inr connective)

theorem placement_of_isUnary (alone : o.isUnary) :
    o.placement = .before ∨ o.placement = .after := by
  cases o <;> first | decide | cases alone

theorem not_between_of_isUnary (alone : o.isUnary) : o.placement ≠ .between := by
  rcases placement_of_isUnary alone with placed | placed
  all_goals
    rw [placed]
    nofun

end Operator

namespace Expr

/-- Columns and literals under the operators of conditions, in whatever order these
stand. -/
inductive IsFormula : Expr → Prop
  | member (table column : String) : IsFormula (.member table column)
  | literal (value : Value) : IsFormula (.literal value)
  | unary {o : Operator} {operand : Expr} (alone : o.isUnary) (inner : IsFormula operand) :
      IsFormula (.unary o operand)
  | binary {o : Operator} {left right : Expr} (between : o.placement = .between)
      (first : IsFormula left) (second : IsFormula right) : IsFormula (.binary o left right)

theorem IsFormula.complete {e : Expr} (formula : e.IsFormula) : e.Complete := by
  induction formula with
  | member table column => exact complete_member table column
  | literal value => exact .literal value
  | @unary o operand alone inner ih =>
      refine .unary ?_ ih
      cases o <;> first | rfl | cases alone
  | binary between first second ihFirst ihSecond =>
      exact .binary (congrArg Placement.arity between) ihFirst ihSecond

end Expr

/-! ## Outlines -/

namespace Sql

/-- What a text shows one after the other. -/
inductive Sign where
  | name (s : String)
  | value (v : Value)
  | op (o : Operator)
  /-- What stands between parentheses. -/
  | group (signs : List Sign)

/-- Signs between parentheses, if needed. -/
def grouped (needed : Bool) (signs : List Sign) : List Sign :=
  if needed then [.group signs] else signs

end Sql

namespace Expr

/-- The outline of an expression. -/
def outline : Expr → List Sign
  | .node (.literal value) _ => [.value value]
  | .node (.reference name) _ => [.name name]
  | .node (.op o) [operand] =>
    match o.placement with
    | .before => .op o :: grouped (o.encloses operand) operand.outline
    | _ => grouped (o.encloses operand) operand.outline ++ [.op o]
  | .node (.op o) [left, right] =>
    grouped (o.encloses left) left.outline ++
      .op o :: grouped (o.encloses right) right.outline
  | _ => []

/-- The outline of an expression that stands as an operand. -/
def operandOutline (parent : Operator) (e : Expr) : List Sign :=
  grouped (parent.encloses e) e.outline

variable {o : Operator} {e left right : Expr}

theorem outline_member (table column : String) :
    (member table column).outline = [.name table, .op .member, .name column] := rfl

theorem outline_literal (value : Value) : (literal value).outline = [.value value] := rfl

theorem outline_before (before : o.placement = .before) :
    (unary o e).outline = .op o :: e.operandOutline o := by
  rw [unary, outline, before]
  rfl

theorem outline_after (after : o.placement = .after) :
    (unary o e).outline = e.operandOutline o ++ [.op o] := by
  rw [unary, outline, after]
  rfl

theorem outline_binary :
    (binary o left right).outline = left.operandOutline o ++ .op o :: right.operandOutline o := by
  rw [binary, outline]
  rfl

end Expr

/-! ## Tokens of outlines -/

namespace Operator

/-- The tokens an operator is spelled with. -/
def tokens : Operator → List Token
  | member => [.dot]
  | eq => [.eq]
  | ne => [.ne]
  | lt => [.lt]
  | le => [.le]
  | gt => [.gt]
  | ge => [.ge]
  | and => [.keyword .and]
  | or => [.keyword .or]
  | not => [.keyword .not]
  | isNull => [.keyword .is, .keyword .null]
  | isNotNull => [.keyword .is, .keyword .not, .keyword .null]
  | asc => [.keyword .ascending]
  | desc => [.keyword .descending]

variable (o : Operator)

theorem wordTokens_before : wordTokens (o.sql ++ " ") = o.tokens := by
  cases o <;> cbv

theorem wordTokens_after : wordTokens (" " ++ o.sql) = o.tokens := by
  cases o <;> cbv

theorem wordTokens_between : wordTokens (" " ++ o.sql ++ " ") = o.tokens := by
  cases o <;> cbv

end Operator

namespace Sql

/-- A token, or the value of a parameter in its place. -/
abbrev Mark := Token ⊕ Option Value

/-- A token with the value of its parameter. -/
def Token.mark (params : List Value) : Token → Mark
  | .parameter n => .inr params[n - 1]?
  | token => .inl token

namespace Sign

mutual

/-- The marks of a sign. -/
def marks (d : Dialect) : Sign → List Mark
  | .name s => [.inl (.name d.nameMark s)]
  | .value v => [.inr (some v)]
  | .op o => o.tokens.map .inl
  | .group signs => .inl .opening :: marksOf d signs ++ [.inl .closing]

/-- The marks of some signs. -/
def marksOf (d : Dialect) : List Sign → List Mark
  | [] => []
  | sign :: rest => marks d sign ++ marksOf d rest

end

variable {d : Dialect} {x y : Sign} {signs others : List Sign} {rest more : List Mark}

theorem marksOf_append :
    marksOf d (signs ++ others) = marksOf d signs ++ marksOf d others := by
  induction signs with
  | nil => rfl
  | cons sign rest ih => rw [List.cons_append, marksOf, marksOf, ih, List.append_assoc]

theorem marksOf_grouped (needed : Bool) :
    marksOf d (grouped needed signs) =
      if needed then .inl .opening :: marksOf d signs ++ [.inl .closing] else marksOf d signs := by
  cases needed with
  | false => rfl
  | true => simp [grouped, marksOf, marks]

/-! ## A code for outlines -/

/-- No operator is the beginning of another one. -/
theorem tokens_append_inj {o p : Operator}
    (same : o.tokens.map Sum.inl ++ rest = p.tokens.map Sum.inl ++ more) :
    o = p ∧ rest = more := by
  cases o <;> cases p <;> simp_all [Operator.tokens]

/-- What begins with an operator is no other sign. -/
theorem op_append_ne (o : Operator) (notOp : ∀ p, x ≠ .op p) :
    (op o).marks d ++ rest ≠ x.marks d ++ more := by
  cases x with
  | op p => exact absurd rfl (notOp p)
  | _ => cases o <;> simp [marks, Operator.tokens]

/-- No sign begins with the end of a group. -/
theorem append_ne_closing : x.marks d ++ rest ≠ .inl .closing :: more := by
  cases x with
  | op o => cases o <;> simp [marks, Operator.tokens]
  | _ => simp [marks]

mutual

/-- No sign is the beginning of another one. -/
theorem marks_append_inj (x y : Sign) {rest more : List Mark}
    (same : x.marks d ++ rest = y.marks d ++ more) : x = y ∧ rest = more := by
  cases x with
  | op o =>
      cases y with
      | op p =>
          obtain ⟨rfl, sameRest⟩ := tokens_append_inj same
          exact ⟨rfl, sameRest⟩
      | _ => exact absurd same (op_append_ne o nofun)
  | group signs =>
      cases y with
      | op p => exact absurd same.symm (op_append_ne p nofun)
      | group others =>
          simp only [marks, List.cons_append, List.append_assoc, List.nil_append,
            List.cons.injEq, true_and] at same
          obtain ⟨rfl, sameRest⟩ := marksOf_append_inj signs others same
          exact ⟨rfl, sameRest⟩
      | _ => simp [marks] at same
  | _ =>
      cases y with
      | op p => exact absurd same.symm (op_append_ne p nofun)
      | _ => simp_all [marks]

/-- The end of a group ends its signs. -/
theorem marksOf_append_inj (signs others : List Sign) {rest more : List Mark}
    (same : marksOf d signs ++ .inl .closing :: rest = marksOf d others ++ .inl .closing :: more) :
    signs = others ∧ rest = more := by
  cases signs with
  | nil =>
      cases others with
      | nil => simpa [marksOf] using same
      | cons y others =>
          rw [marksOf, marksOf, List.append_assoc] at same
          exact absurd same.symm append_ne_closing
  | cons x signs =>
      rw [marksOf, List.append_assoc] at same
      cases others with
      | nil => exact absurd same append_ne_closing
      | cons y others =>
          rw [marksOf, List.append_assoc] at same
          obtain ⟨rfl, sameSigns⟩ := marks_append_inj x y same
          obtain ⟨rfl, sameRest⟩ := marksOf_append_inj signs others sameSigns
          exact ⟨rfl, sameRest⟩

end

/-- The marks of an outline determine it. -/
theorem marksOf_injective : Function.Injective (marksOf d) := by
  intro signs others same
  have ended : marksOf d signs ++ [.inl .closing] = marksOf d others ++ [.inl .closing] := by
    rw [same]
  exact (marksOf_append_inj signs others ended).1

end Sign

end Sql

/-! ## Texts -/

theorem Draft.spell_append_text {d : Dialect} {parameter : Nat → String} {pieces : List Piece}
    {params : List Value} (s : String) :
    (⟨pieces ++ [.text s], params⟩ : Draft).spell d parameter =
      (⟨pieces, params⟩ : Draft).spell d parameter ++ s := by
  apply String.toList_injective
  rw [String.toList_append, toList_spell, toList_spell, Piece.chars_append, Piece.chars_singleton]
  rfl

namespace Expr

variable {d : Dialect} {n : Nat} {params : List Value} {o : Operator} {a b e : Expr}

theorem tokens_literal (value : Value) : (literal value).tokens d n = [.parameter (n + 1)] := rfl

theorem map_mark_operandTokens
    (same : (e.tokens d n).map (Token.mark params) = Sign.marksOf d e.outline) :
    (e.operandTokens d o n).map (Token.mark params) = Sign.marksOf d (e.operandOutline o) := by
  rw [operandTokens_eq, operandOutline, Sign.marksOf_grouped]
  split
  · rw [List.map_append, List.map_cons, same]
    rfl
  · exact same

theorem map_mark_tokens_operator : o.tokens.map (Token.mark params) = o.tokens.map .inl := by
  cases o <;> rfl

/-- The tokens of a formula, each parameter with its value, are the marks of its outline. -/
theorem IsFormula.map_mark_tokens (formula : e.IsFormula) (placed : Placed params n e.literals) :
    (e.tokens d n).map (Token.mark params) = Sign.marksOf d e.outline := by
  induction formula generalizing n with
  | member table column =>
      rw [tokens_member]
      rfl
  | literal value =>
      rw [tokens_literal, List.map_singleton, Token.mark, Nat.add_sub_cancel,
        getElem?_of_placed placed]
      rfl
  | @unary o operand alone inner ih =>
      have same := map_mark_operandTokens (o := o) (ih placed)
      rcases Operator.placement_of_isUnary alone with before | after
      · rw [tokens_before before, Operator.wordTokens_before, List.map_append,
          map_mark_tokens_operator, same, outline_before before]
        rfl
      · rw [tokens_after after, Operator.wordTokens_after, List.map_append,
          map_mark_tokens_operator, same, outline_after after, Sign.marksOf_append, Sign.marksOf,
          Sign.marksOf, List.append_nil]
        rfl
  | @binary o left right between first second ihFirst ihSecond =>
      obtain ⟨leftPlaced, rightPlaced⟩ := placed_append placed
      rw [tokens_binary between, Operator.wordTokens_between, List.map_append, List.map_append,
        map_mark_tokens_operator, map_mark_operandTokens (ihFirst leftPlaced),
        map_mark_operandTokens (ihSecond rightPlaced), outline_binary, Sign.marksOf_append,
        Sign.marksOf, List.append_assoc]
      rfl

/-- An expression as a statement of its own. -/
def draft (d : Dialect) (e : Expr) : Result Draft :=
  match (e.write d).run with
  | (.ok pieces, params) => .ok ⟨pieces, params⟩
  | (.error e, _) => .error e

/-- The text of an expression, with the values of its placeholders. -/
def statement (d : Dialect) (e : Expr) : Result Statement :=
  (e.draft d).map (Draft.statement d .placeholders)

theorem Complete.statement_eq (complete : e.Complete) :
    e.statement d =
      .ok ⟨(⟨e.pieces d 0, e.literals⟩ : Draft).spell d d.placeholder, e.literals⟩ := by
  rw [statement, draft, (complete.gives_write 0).run_eq]
  rfl

/-- The text of a complete expression with a semicolon reads as the tokens of the
expression and the semicolon. -/
theorem Complete.scan?_eq (complete : e.Complete) :
    (Lexeme.scan? ((⟨e.pieces d 0, e.literals⟩ : Draft).spell d d.placeholder ++ ";")).map
      (List.map Lexeme.token) = some (e.tokens d 0 ++ [.semicolon]) := by
  have phrase : Phrase Piece.IsSlot (e.pieces d 0) :=
    (complete.gives_write 0).ensured (ensures_write (fun _ => trivial) (fun _ => trivial) e)
  have numbered : Piece.Numbered d 0 (e.pieces d 0) := by
    refine .inr ?_
    rw [bounds_pieces, List.length_range']
  rw [← Draft.spell_append_text]
  exact phrase.scan?_eq numbered e.literals

/-- Formulas with the same text and the same values have the same outline. -/
theorem IsFormula.outline_eq (aFormula : a.IsFormula) (bFormula : b.IsFormula)
    (same : a.statement d = b.statement d) : a.outline = b.outline := by
  rw [aFormula.complete.statement_eq, bFormula.complete.statement_eq] at same
  injection same with same
  injection same with sameText sameValues
  have sameTokens : a.tokens d 0 = b.tokens d 0 := by
    have scanned : some (b.tokens d 0 ++ [.semicolon]) = some (a.tokens d 0 ++ [.semicolon]) := by
      rw [← aFormula.complete.scan?_eq, sameText, bFormula.complete.scan?_eq]
    exact (List.append_cancel_right (Option.some.inj scanned)).symm
  -- the parameters of both are the same values, so they can be put into both alike
  have aPlaced : Placed a.literals 0 a.literals := ⟨[], List.append_nil _⟩
  have bPlaced : Placed a.literals 0 b.literals := sameValues ▸ aPlaced
  apply Sign.marksOf_injective (d := d)
  rw [← aFormula.map_mark_tokens aPlaced, sameTokens, bFormula.map_mark_tokens bPlaced]

end Expr

end Polyquery
