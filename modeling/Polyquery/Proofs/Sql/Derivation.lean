import Polyquery.Proofs.Document.Generation
import Polyquery.Proofs.Sql.Grammar
import Polyquery.Proofs.Sql.Operands

/-!
# Deriving what is written

The pieces of a selection read as terminals that the grammar derives: a column as an
operand, a condition as an expression, and each part of a query as the nonterminal for it.
Only the page depends on which grammar it is.  What is read for a parameter is left open
until the end, where it is a placeholder or a literal.
-/

namespace Polyquery

open Sql Sql.Form Writing

/-- Some pieces read as terminals that a form derives. -/
def Spells (paging : Paging) (d : Dialect) (parameter : Nat → String) (form : Form)
    (pieces : List Piece) : Prop :=
  ∃ terminals, Reads d (Piece.chars d parameter pieces) terminals ∧ Yields paging form terminals

section

variable {paging : Paging} {d : Dialect} {parameter : Nat → String} {pieces others : List Piece}
  {s : String}

/-- Pieces that begin with a mark that is spelled alone, or no pieces. -/
def Trails (d : Dialect) (parameter : Nat → String) (pieces : List Piece) : Prop :=
  (Piece.chars d parameter pieces).head?.all isAlone = true

theorem trails_nil : Trails d parameter [] := rfl

theorem trails_text (begins : s.toList.head?.any isAlone) :
    Trails d parameter (.text s :: pieces) := by
  rw [Trails, Piece.chars_text_cons]
  cases letters : s.toList with
  | nil => simp [letters] at begins
  | cons c rest =>
      rw [letters] at begins
      exact begins

namespace Spells

variable {form more : Form} {n : Nonterminal} {terminals : List Terminal}

theorem nil : Spells paging d parameter [] [] :=
  ⟨[], ⟨trivial, rfl⟩, .refl []⟩

theorem words (reads : Reads d s.toList terminals) :
    Spells paging d parameter (terminals.map .terminal) [.text s] := by
  refine ⟨terminals, ?_, .refl terminals⟩
  rwa [Piece.chars_singleton]

/-- A nonterminal is spelled as one of its alternatives. -/
theorem of_alternative (alternative : form ∈ alternatives paging n)
    (spells : Spells paging d parameter form pieces) :
    Spells paging d parameter [part n] pieces := by
  obtain ⟨terminals, reads, yields⟩ := spells
  exact ⟨terminals, reads, .of_alternative alternative yields⟩

theorem append (first : Spells paging d parameter form pieces)
    (second : Spells paging d parameter more others)
    (apart : (Piece.chars d parameter pieces).getLast?.any isAlone = true ∨
      Trails d parameter others) :
    Spells paging d parameter (form ++ more) (pieces ++ others) := by
  obtain ⟨terminals, reads, yields⟩ := first
  obtain ⟨rest, readsRest, yieldsRest⟩ := second
  refine ⟨terminals ++ rest, ?_, yields.append yieldsRest⟩
  rw [Piece.chars_append]
  exact reads.append readsRest apart

/-- Words in front that end with a mark that is spelled alone. -/
theorem before (reads : Reads d s.toList terminals) (apart : s.toList.getLast?.any isAlone)
    (spells : Spells paging d parameter form pieces) :
    Spells paging d parameter (terminals.map .terminal ++ form) (.text s :: pieces) := by
  refine (words reads).append spells (.inl ?_)
  rwa [Piece.chars_singleton]

/-- Words behind that begin with a mark that is spelled alone. -/
theorem after (reads : Reads d s.toList terminals) (apart : s.toList.head?.any isAlone)
    (spells : Spells paging d parameter form pieces) :
    Spells paging d parameter (form ++ terminals.map .terminal) (pieces ++ [.text s]) :=
  spells.append (words reads) (.inr (trails_text apart))

/-- Words that are apart from what stands on both sides. -/
theorem between (reads : Reads d s.toList terminals) (begins : s.toList.head?.any isAlone)
    (ends : s.toList.getLast?.any isAlone) (left : Spells paging d parameter form pieces)
    (right : Spells paging d parameter more others) :
    Spells paging d parameter (form ++ terminals.map .terminal ++ more)
      (pieces ++ [.text s] ++ others) := by
  refine (after reads begins left).append right (.inl ?_)
  obtain ⟨c, isLast, alone⟩ := (Option.any_eq_true _ _).mp ends
  obtain ⟨front, written⟩ := List.getLast?_eq_some_iff.mp isLast
  rw [Piece.chars_append, Piece.chars_singleton, Piece.spell, written, ← List.append_assoc,
    List.getLast?_concat]
  exact alone

/-- Items with words between them, where the words put an item in front of a list. -/
theorem separated {items : List (List Piece)} {one list : Nonterminal}
    (reads : Reads d s.toList terminals) (begins : s.toList.head?.any isAlone)
    (ends : s.toList.getLast?.any isAlone)
    (single : ∀ pieces, Spells paging d parameter [part one] pieces →
      Spells paging d parameter [part list] pieces)
    (more : part one :: (terminals.map .terminal ++ [part list]) ∈ alternatives paging list)
    (each : ∀ pieces ∈ items, Spells paging d parameter [part one] pieces)
    (present : items ≠ []) :
    Spells paging d parameter [part list] (separated s items) := by
  induction items with
  | nil => exact absurd rfl present
  | cons first rest ih =>
      have head := each first List.mem_cons_self
      cases rest with
      | nil =>
          rw [Polyquery.separated, List.intercalate_singleton]
          exact single first head
      | cons second others =>
          rw [Polyquery.separated, List.intercalate_cons_cons]
          have tail := ih (fun pieces mem => each pieces (List.mem_cons_of_mem first mem))
            (List.cons_ne_nil _ _)
          exact .of_alternative more (between reads begins ends head tail)

theorem of_items (items : Spells paging d parameter [part .items] pieces) :
    Spells paging d parameter [part .columns] pieces :=
  .of_alternative (by simp [alternatives]) items

theorem of_operand (operand : Spells paging d parameter [part .operand] pieces) :
    Spells paging d parameter [part .primary] pieces :=
  .of_alternative (by simp [alternatives]) operand

theorem of_primary (primary : Spells paging d parameter [part .primary] pieces) :
    Spells paging d parameter [part .expression] pieces :=
  .of_alternative (by simp [alternatives]) primary

theorem parenthesized (expression : Spells paging d parameter [part .expression] pieces)
    (needed : Bool) :
    Spells paging d parameter [part .expression] (parenthesized needed pieces) := by
  cases needed with
  | false => exact expression
  | true =>
      apply of_primary
      apply of_operand
      have opening : Reads d "(".toList [.opening] := by cases d <;> decide +kernel
      have closing : Reads d ")".toList [.closing] := by cases d <;> decide +kernel
      exact .of_alternative (by simp [alternatives])
        (before opening rfl (after closing rfl expression))

end Spells

/-! ## Expressions -/

theorem spells_member (table column : String) (n : Nat) :
    Spells paging d parameter [part .primary] ((Expr.member table column).pieces d n) := by
  have names : Spells paging d parameter [mark .name, mark .dot, mark .name]
      [.name table, .text ".", .name column] := by
    refine ⟨[.name, .dot, .name], ?_, .refl [.name, .dot, .name]⟩
    simpa [Piece.chars, Piece.spell] using Reads.member table column
  have operand : Spells paging d parameter [part .column]
      [.name table, .text ".", .name column] :=
    .of_alternative (by simp [alternatives]) names
  exact .of_operand (.of_alternative (by simp [alternatives]) operand)

theorem spells_column (table column : String) (n : Nat) :
    Spells paging d parameter [part .expression] ((Expr.member table column).pieces d n) :=
  .of_primary (spells_member table column n)

theorem spells_name (name : String) : Spells paging d parameter [mark .name] [.name name] := by
  refine ⟨[.name], ?_, .refl [.name]⟩
  rw [Piece.chars_singleton]
  exact .quoteName name

/-- Conditions are spelled as expressions. -/
theorem Expr.IsCondition.spells {table : String} {e : Expr} (condition : e.IsCondition table)
    (operands : ∀ n, Spells paging d parameter [part .operand] [.bound n]) (n : Nat) :
    Spells paging d parameter [part .expression] (e.pieces d n) := by
  have member (column : String) (n : Nat) :
      Spells paging d parameter [part .primary] ((Expr.member table column).pieces d n) :=
    spells_member table column n
  induction condition generalizing n with
  | @compare column value o comparison =>
      have words : Reads d (" " ++ o.sql ++ " ").toList [.comparison] := by
        cases o <;> cases comparison <;> cases d <;> decide +kernel
      have compared := Spells.between words (by cases o <;> rfl) (by cases o <;> rfl)
        (member column n) (operands (n + 1))
      have written : (Expr.binary o (.member table column) (.literal value)).pieces d n =
          (Expr.member table column).pieces d n ++ [.text (" " ++ o.sql ++ " ")] ++
            [.bound (n + 1)] := by
        cases o <;> cases comparison <;> rfl
      rw [written]
      exact .of_primary (.of_alternative (by simp [alternatives]) compared)
  | isNull column =>
      have words : Reads d " IS NULL".toList [.keyword .is, .keyword .null] := by
        cases d <;> decide +kernel
      have test := Spells.after words rfl (member column n)
      exact .of_primary (.of_alternative (by simp [alternatives]) test)
  | isNotNull column =>
      have words : Reads d " IS NOT NULL".toList [.keyword .is, .keyword .not, .keyword .null] := by
        cases d <;> decide +kernel
      have test := Spells.after words rfl (member column n)
      exact .of_primary (.of_alternative (by simp [alternatives]) test)
  | @not e inner ih =>
      have words : Reads d "NOT ".toList [.keyword .not] := by cases d <;> decide +kernel
      have operand := (ih n).parenthesized (Operator.not.encloses e)
      exact .of_alternative (by simp [alternatives]) (Spells.before words rfl operand)
  | @and first second isFirst isSecond ihFirst ihSecond =>
      have words : Reads d " AND ".toList [.keyword .and] := by cases d <;> decide +kernel
      have left := (ihFirst n).parenthesized (Operator.and.encloses first)
      have right := (ihSecond (n + first.literals.length)).parenthesized
        (Operator.and.encloses second)
      exact .of_alternative (by simp [alternatives]) (Spells.between words rfl rfl left right)
  | @or first second isFirst isSecond ihFirst ihSecond =>
      have words : Reads d " OR ".toList [.keyword .or] := by cases d <;> decide +kernel
      have left := (ihFirst n).parenthesized (Operator.or.encloses first)
      have right := (ihSecond (n + first.literals.length)).parenthesized
        (Operator.or.encloses second)
      exact .of_alternative (by simp [alternatives]) (Spells.between words rfl rfl left right)

/-! ## Queries -/

namespace Query

variable {query : Query}

/-- A selected column, with or without a name of its own, is an item. -/
theorem OverColumns.spells_items (columns : query.OverColumns) :
    (∀ e ∈ query.selected, ∀ n, Spells paging d parameter [part .item] (e.pieces d n)) ∧
      ∀ named ∈ query.aliases, ∀ n, Spells paging d parameter [part .item]
        (named.2.pieces d n ++ [.text " AS ", .name named.1]) := by
  constructor
  · intro e mem n
    obtain ⟨column, rfl⟩ := columns.selected e mem
    exact .of_alternative (by simp [alternatives]) (spells_column query.table.name column n)
  · intro named mem n
    obtain ⟨column, same⟩ := columns.aliases named mem
    have words : Reads d " AS ".toList [.keyword .named] := by cases d <;> decide +kernel
    have name : Spells paging d parameter [mark .name] [.name named.1] := spells_name named.1
    have item := Spells.between words rfl rfl (spells_column query.table.name column n) name
    rw [List.append_assoc] at item
    rw [same]
    exact .of_alternative (by simp [alternatives]) item

theorem OverColumns.spells_projection (columns : query.OverColumns)
    (command : query.command = .select) :
    Spells paging d parameter [part .columns] (query.projectionPieces d) := by
  rw [projectionPieces]
  by_cases all : query.selectsAll
  · rw [if_pos all]
    have words : Reads d "*".toList [.star] := by cases d <;> decide +kernel
    exact .of_alternative (by simp [alternatives]) (Spells.words words)
  · rw [if_neg all]
    have words : Reads d ", ".toList [.comma] := by cases d <;> decide +kernel
    obtain ⟨selected, aliases⟩ := @columns.spells_items paging d parameter
    have single (pieces : List Piece) (only : Spells paging d parameter [part .item] pieces) :
        Spells paging d parameter [part .items] pieces :=
      .of_alternative (by simp [alternatives]) only
    refine Spells.of_items (Spells.separated words rfl rfl single (by simp [alternatives]) ?_ ?_)
    · intro pieces mem
      rcases List.mem_append.mp mem with inSelected | inAliases
      · exact forall_mem_threaded selected _ pieces inSelected
      · exact forall_mem_threaded aliases _ pieces inAliases
    · intro none
      rw [List.append_eq_nil_iff, threaded_eq_nil_iff, threaded_eq_nil_iff] at none
      exact all (by simp [selectsAll, command, none.1, none.2])

/-- What is written in front of the conditions. -/
theorem OverColumns.spells_head (columns : query.OverColumns)
    (command : query.command = .select) :
    Spells paging d parameter [word .select, part .columns, word .source, mark .name]
      (query.headPieces d) := by
  have opening : Reads d (d.keyword .select ++ " ").toList [.keyword .select] := by
    cases d <;> decide +kernel
  have source : Reads d " FROM ".toList [.keyword .source] := by cases d <;> decide +kernel
  have ends : (d.keyword .select ++ " ").toList.getLast?.any isAlone = true := by cases d <;> rfl
  have table : Spells paging d parameter [mark .name] [.name query.table.name] := spells_name _
  have head := Spells.before opening ends
    (Spells.between source rfl rfl (columns.spells_projection command) table)
  unfold headPieces
  rw [command]
  simpa using head

/-- The conditions, if there are any. -/
theorem OverColumns.spells_filters (columns : query.OverColumns)
    (operands : ∀ n, Spells paging d parameter [part .operand] [.bound n]) (n : Nat) :
    Spells paging d parameter [part .condition] (query.filterPieces d n) ∧
      Trails d parameter (query.filterPieces d n) := by
  rw [filterPieces]
  by_cases none : query.filters.isEmpty
  · rw [if_pos none]
    exact ⟨.of_alternative (by simp [alternatives]) .nil, trails_nil⟩
  · rw [if_neg none]
    have words : Reads d " WHERE ".toList [.keyword .condition] := by cases d <;> decide +kernel
    have and : Reads d " AND ".toList [.keyword .and] := by cases d <;> decide +kernel
    have each : ∀ pieces ∈ threaded (fun n e => e.operandPieces d .and n) Expr.literals n
        query.filters, Spells paging d parameter [part .expression] pieces := by
      refine forall_mem_threaded (fun e mem n => ?_) n
      exact ((columns.filters e mem).spells operands n).parenthesized (Operator.and.encloses e)
    have present : threaded (fun n e => e.operandPieces d .and n) Expr.literals n
        query.filters ≠ [] := by
      rw [Ne, threaded_eq_nil_iff, ← List.isEmpty_iff]
      exact none
    have all := Spells.separated and rfl rfl (fun _ => id) (by simp [alternatives]) each present
    exact ⟨.of_alternative (by simp [alternatives]) (Spells.before words rfl all), trails_text rfl⟩

/-- The order, if there is any, and the page. -/
theorem OverColumns.spells_order (columns : query.OverColumns)
    (command : query.command = .select) (n : Nat) :
    ∃ order, query.tailPieces d n = order ++ query.paging ∧
      Spells paging d parameter [part .order] order ∧ Trails d parameter order := by
  unfold tailPieces
  rw [command]
  refine ⟨_, rfl, ?_⟩
  by_cases none : query.sorts.isEmpty
  · rw [if_pos none]
    exact ⟨.of_alternative (by simp [alternatives]) .nil, trails_nil⟩
  · rw [if_neg none]
    have words : Reads d " ORDER BY ".toList [.keyword .order, .keyword .by] := by
      cases d <;> decide +kernel
    have comma : Reads d ", ".toList [.comma] := by cases d <;> decide +kernel
    have ascending : Reads d " ASC".toList [.keyword .ascending] := by cases d <;> decide +kernel
    have descending : Reads d " DESC".toList [.keyword .descending] := by
      cases d <;> decide +kernel
    have each : ∀ sort ∈ query.sorts, ∀ n, Spells paging d parameter [part .sort]
        (sort.expr.pieces d n ++ [.text (" " ++ sort.order.operator.sql)]) := by
      intro sort mem n
      obtain ⟨column, same⟩ := columns.sorts sort mem
      rw [same]
      have column := @spells_column paging d parameter query.table.name column n
      cases sort.order with
      | asc => exact .of_alternative (by simp [alternatives]) (Spells.after ascending rfl column)
      | desc => exact .of_alternative (by simp [alternatives]) (Spells.after descending rfl column)
    have single (pieces : List Piece) (only : Spells paging d parameter [part .sort] pieces) :
        Spells paging d parameter [part .sorts] pieces :=
      .of_alternative (by simp [alternatives]) only
    have present : threaded (fun n sort => sort.expr.pieces d n ++
        [.text (" " ++ sort.order.operator.sql)]) (fun sort => sort.expr.literals) n query.sorts ≠
        [] := by
      rw [Ne, threaded_eq_nil_iff, ← List.isEmpty_iff]
      exact none
    have all := Spells.separated comma rfl rfl single (by simp [alternatives])
      (forall_mem_threaded each n) present
    exact ⟨.of_alternative (by simp [alternatives]) (Spells.before words rfl all), trails_text rfl⟩

/-! ### Pages -/

theorem reads_count {word : String} {k : Keyword} (reads : Reads d word.toList [.keyword k])
    (ends : word.toList.getLast?.any isAlone) (n : Nat) :
    Reads d (word ++ toString n).toList [.keyword k, .whole] := by
  rw [String.toList_append]
  exact reads.append (numeral_natText n).reads (.inl ends)

theorem reads_limit (n : Nat) :
    Reads d (" LIMIT " ++ toString n).toList [.keyword .limit, .whole] :=
  reads_count (by cases d <;> decide +kernel) rfl n

theorem reads_offset (n : Nat) :
    Reads d (" OFFSET " ++ toString n).toList [.keyword .offset, .whole] :=
  reads_count (by cases d <;> decide +kernel) rfl n

theorem trails_paging : Trails d parameter query.paging := by
  unfold paging
  split_ifs
  · exact trails_nil
  · exact trails_text (by simp [isAlone])
  · exact trails_text (by simp [isAlone])
  · exact trails_text (by simp [isAlone])

/-- In nested pages a start needs a length. -/
theorem spells_paging (allowed : paging = .independent ∨ query.take ≠ 0 ∨ query.skip = 0) :
    Spells paging d parameter [part .page] query.paging := by
  have limit := @Spells.words paging d parameter _ _ (reads_limit query.take)
  have offset := @Spells.words paging d parameter _ _ (reads_offset query.skip)
  unfold Query.paging
  split_ifs with noLength noStart noStart
  · exact .of_alternative (by simp [alternatives]) .nil
  · have independent : paging = .independent :=
      allowed.resolve_right (not_or.mpr ⟨not_not_intro noLength, noStart⟩)
    exact .of_alternative (by simp [alternatives, independent]) offset
  · exact .of_alternative (by simp [alternatives]) limit
  · have both := limit.append offset (.inr (trails_text (by simp [isAlone])))
    exact .of_alternative (by simp [alternatives]) both

/-! ### Statements -/

/-- A selection is written up to its page, and then the page and a semicolon. -/
theorem OverColumns.spells_front (columns : query.OverColumns)
    (command : query.command = .select)
    (operands : ∀ n, Spells paging d parameter [part .operand] [.bound n]) :
    ∃ front, query.pieces d = front ++ query.paging ++ [.text ";"] ∧
      Spells paging d parameter [word .select, part .columns, word .source, mark .name,
        part .condition, part .order] front := by
  let before := (query.projected.flatMap Expr.literals).length
  let behind := before + (query.filters.flatMap Expr.literals).length
  have head := @OverColumns.spells_head paging d parameter query columns command
  obtain ⟨filters, filtersTrail⟩ := columns.spells_filters operands before
  obtain ⟨order, tail, ordered, orderTrails⟩ :=
    @OverColumns.spells_order paging d parameter query columns command behind
  refine ⟨query.headPieces d ++ query.filterPieces d before ++ order, ?_, ?_⟩
  · rw [pieces, tail]
    simp only [List.append_assoc]
    rfl
  · exact (head.append filters (.inr filtersTrail)).append ordered (.inr orderTrails)

/-- What is written for a selection is a statement of the grammar. -/
theorem OverColumns.spells_statement (columns : query.OverColumns)
    (command : query.command = .select)
    (operands : ∀ n, Spells paging d parameter [part .operand] [.bound n])
    (allowed : paging = .independent ∨ query.take ≠ 0 ∨ query.skip = 0) :
    Spells paging d parameter [part .statement] (query.pieces d) := by
  have semicolon : Reads d ";".toList [.semicolon] := by cases d <;> decide +kernel
  obtain ⟨front, written, spells⟩ := columns.spells_front command operands
  rw [written]
  exact .of_alternative (by simp [alternatives]) (Spells.after semicolon rfl
    (spells.append (spells_paging allowed) (.inr trails_paging)))

/-- In nested pages no selection has a start without a length. -/
theorem OverColumns.take_of_spells_statement (columns : query.OverColumns)
    (command : query.command = .select)
    (operands : ∀ n, Spells .nested d parameter [part .operand] [.bound n])
    (spells : Spells .nested d parameter [part .statement] (query.pieces d)) :
    query.take ≠ 0 ∨ query.skip = 0 := by
  by_contra start
  obtain ⟨noLength, hasStart⟩ := not_or.mp start
  have semicolon : Reads d ";".toList [.semicolon] := by cases d <;> decide +kernel
  have page : query.paging = [.text (" OFFSET " ++ toString query.skip)] := by
    rw [paging, if_pos (not_not.mp noLength), if_neg hasStart]
    rfl
  obtain ⟨front, written, terminals, reads, yields⟩ := columns.spells_front command operands
  have whole : Reads d (Piece.chars d parameter (query.pieces d))
      (terminals ++ [.keyword .offset, .whole] ++ [.semicolon]) := by
    have offset := reads.append (@reads_offset d query.skip) (.inr (by simp [isAlone]))
    rw [written, page, Piece.chars_append, Piece.chars_append, Piece.chars_singleton,
      Piece.chars_singleton, Piece.spell, Piece.spell]
    exact offset.append semicolon (.inr rfl)
  obtain ⟨all, readsAll, derived⟩ := spells
  have starts := derived.count_le (by decide)
  have noLimit := List.count_eq_zero.mpr (yields.limit_not_mem (by decide))
  rw [readsAll.unique whole] at starts
  simp [noLimit] at starts

end Query

end

/-! ## Parameters -/

section

variable {paging : Paging} {d : Dialect}

/-- Each literal is one of the grammar. -/
theorem yields_literal {terminals : List Terminal} (literal : terminals ∈ Terminal.literals) :
    Yields paging [part .literal] terminals := by
  have number {t : Terminal} (isNumber : t ∈ [.whole, .decimal]) :
      Yields paging [part .number] [t] :=
    .of_alternative (by simpa [alternatives] using isNumber) (.refl [t])
  have negative {t : Terminal} (isNumber : t ∈ [.whole, .decimal]) :
      Yields paging [mark .minus, part .number] [.minus, t] :=
    (Yields.refl [.minus]).append (number isNumber)
  simp only [Terminal.literals, Terminal.numbers, List.mem_cons, List.not_mem_nil,
    or_false] at literal
  rcases literal with rfl | rfl | rfl | rfl | rfl | rfl
  · exact .of_alternative (by simp [alternatives]) (.refl [.keyword .null])
  · exact .of_alternative (by simp [alternatives]) (.refl [.string])
  · exact .of_alternative (by simp [alternatives]) (number (by simp))
  · exact .of_alternative (by simp [alternatives]) (number (by simp))
  · exact .of_alternative (by simp [alternatives]) (negative (by simp))
  · exact .of_alternative (by simp [alternatives]) (negative (by simp))

theorem spells_placeholder (engine : d ≠ .postgres) (n : Nat) :
    Spells paging d d.placeholder [part .operand] [.bound n] := by
  have mark : d.placeholder n = "?" := by
    cases d <;> first | rfl | exact absurd rfl engine
  refine .of_alternative (by simp [alternatives]) ⟨[.placeholder], ?_, .refl [.placeholder]⟩
  rw [Piece.chars_singleton, Piece.spell, mark]
  cases d <;> decide +kernel

/-- A finite value in the text of a statement is an operand. -/
theorem spells_inlined (engine : d ≠ .postgres) {draft : Draft}
    (finite : ∀ value ∈ draft.params, value.IsFinite) (n : Nat) :
    Spells paging d (draft.inlined d) [part .operand] [.bound n] := by
  have stands : (draft.params.getD (n - 1) .null).IsFinite := by
    rw [List.getD_eq_getElem?_getD]
    cases present : draft.params[n - 1]? with
    | none => trivial
    | some value => exact finite value (List.mem_of_getElem? present)
  obtain ⟨terminals, literal, reads⟩ := Reads.exists_literal engine stands
  have spelled : Spells paging d (draft.inlined d) [part .literal] [.bound n] := by
    refine ⟨terminals, ?_, yields_literal literal⟩
    rw [Piece.chars_singleton]
    exact reads
  exact .of_alternative (by simp [alternatives]) spelled

theorem isSelection_iff_spells {draft : Draft} {parameter : Nat → String} :
    IsSelection d paging (draft.spell d parameter) ↔
      Spells paging d parameter [part .statement] draft.pieces := by
  rw [IsSelection, Spells, ← Draft.toList_spell]
  rfl

end

/-- The statement of a selection over columns is one of MySQL and SQLite, except that in
nested pages it may have no start without a length. -/
theorem Query.OverColumns.isSelection_statement {query : Query} {d : Dialect}
    (columns : query.OverColumns) (command : query.command = .select) (engine : d ≠ .postgres)
    (mode : Mode) (finite : mode = .inline → ∀ value ∈ query.literals, value.IsFinite) :
    ∃ statement, query.statements d mode = .ok [statement] ∧ ∀ paging,
      IsSelection d paging statement.text ↔
        paging = .independent ∨ query.take ≠ 0 ∨ query.skip = 0 := by
  have complete := columns.complete (by rw [command]; nofun)
  let draft : Draft := ⟨query.pieces d, query.literals⟩
  have spelled : ∃ parameter, (draft.statement d mode).text = draft.spell d parameter ∧
      ∀ paging n, Spells paging d parameter [part .operand] [.bound n] := by
    cases mode with
    | placeholders => exact ⟨_, rfl, fun _ => spells_placeholder engine⟩
    | inline => exact ⟨_, rfl, fun _ => spells_inlined engine (finite rfl)⟩
  obtain ⟨parameter, written, operands⟩ := spelled
  refine ⟨_, complete.statements_eq mode, fun paging => ?_⟩
  change IsSelection d paging (draft.statement d mode).text ↔ _
  rw [written, isSelection_iff_spells]
  refine ⟨fun spells => ?_, columns.spells_statement command (operands paging)⟩
  cases paging with
  | independent => exact .inl rfl
  | nested => exact .inr (columns.take_of_spells_statement command (operands .nested) spells)

end Polyquery
