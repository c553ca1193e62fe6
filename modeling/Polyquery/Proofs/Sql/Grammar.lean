import Mathlib.Computability.ContextFreeGrammar
import Polyquery.Proofs.Sql.Terminals

/-!
# The grammar of selections

Selections of MySQL and SQLite as a context-free grammar over terminals.  In an expression
tests for null and comparisons stand below the connectives, and single operands below
these.  The grammar has one parameter, which says whether a page has to have a length
before it can have a start.
-/

/-- A terminal or a nonterminal.  The name `Symbol` has another meaning in `Polyquery`. -/
abbrev ContextFreeGrammar.Letter (T N : Type) := Symbol T N

namespace Polyquery.Sql

open ContextFreeGrammar (Letter)

/-- A page has a length and behind it perhaps a start, or each of them stands alone. -/
inductive Paging where
  | nested
  | independent
deriving DecidableEq

inductive Nonterminal where
  | statement
  | columns
  | items
  | item
  | condition
  | order
  | sorts
  | sort
  | page
  | expression
  | primary
  | operand
  | column
  | literal
  | number
deriving DecidableEq

def Nonterminal.all : List Nonterminal :=
  [statement, columns, items, item, condition, order, sorts, sort, page, expression, primary,
    operand, column, literal, number]

theorem Nonterminal.mem_all (n : Nonterminal) : n ∈ all := by
  cases n <;> decide

/-- What a derivation goes through. -/
abbrev Form := List (Letter Terminal Nonterminal)

namespace Form

abbrev word (k : Keyword) : Letter Terminal Nonterminal :=
  .terminal (.keyword k)

abbrev mark (t : Terminal) : Letter Terminal Nonterminal :=
  .terminal t

abbrev part (n : Nonterminal) : Letter Terminal Nonterminal :=
  .nonterminal n

end Form

open Form

/-- The alternatives for a nonterminal. -/
def alternatives (paging : Paging) : Nonterminal → List Form
  | .statement =>
    [[word .select, part .columns, word .source, mark .name, part .condition, part .order,
      part .page, mark .semicolon]]
  | .columns => [[mark .star], [part .items]]
  | .items => [[part .item], [part .item, mark .comma, part .items]]
  | .item => [[part .expression], [part .expression, word .named, mark .name]]
  | .condition => [[], [word .condition, part .expression]]
  | .order => [[], [word .order, word .by, part .sorts]]
  | .sorts => [[part .sort], [part .sort, mark .comma, part .sorts]]
  | .sort => [[part .expression, word .ascending], [part .expression, word .descending]]
  | .page =>
    [[], [word .limit, mark .whole], [word .limit, mark .whole, word .offset, mark .whole]] ++
      match paging with
      | .nested => []
      | .independent => [[word .offset, mark .whole]]
  | .expression =>
    [[part .expression, word .or, part .expression],
      [part .expression, word .and, part .expression], [word .not, part .expression],
      [part .primary]]
  | .primary =>
    [[part .primary, word .is, word .null], [part .primary, word .is, word .not, word .null],
      [part .primary, mark .comparison, part .operand], [part .operand]]
  | .operand =>
    [[part .column], [part .literal], [mark .placeholder],
      [mark .opening, part .expression, mark .closing]]
  | .column => [[mark .name], [mark .name, mark .dot, mark .name]]
  | .literal => [[word .null], [mark .string], [part .number], [mark .minus, part .number]]
  | .number => [[mark .whole], [mark .decimal]]

/-- The grammar of selections. -/
def selectionGrammar (paging : Paging) : ContextFreeGrammar Terminal where
  NT := Nonterminal
  initial := .statement
  rules := (Nonterminal.all.flatMap fun n => (alternatives paging n).map (.mk n)).toFinset

/-- A text is a selection of a grammar. -/
def IsSelection (d : Dialect) (paging : Paging) (text : String) : Prop :=
  ∃ terminals, Reads d text.toList terminals ∧ terminals ∈ (selectionGrammar paging).language

/-! ## Derivations -/

section

variable {paging : Paging} {n : Nonterminal} {form : Form} {terminals others : List Terminal}

theorem mem_rules_iff {rule : ContextFreeRule Terminal Nonterminal} :
    rule ∈ (selectionGrammar paging).rules ↔ rule.output ∈ alternatives paging rule.input := by
  obtain ⟨n, form⟩ := rule
  refine List.mem_toFinset.trans ?_
  simp [Nonterminal.mem_all]

/-- A form derives some terminals. -/
def Yields (paging : Paging) (form : Form) (terminals : List Terminal) : Prop :=
  (selectionGrammar paging).Derives form (terminals.map .terminal)

namespace Yields

theorem refl (terminals : List Terminal) : Yields paging (terminals.map .terminal) terminals :=
  Relation.ReflTransGen.refl

theorem append {more : Form} (first : Yields paging form terminals)
    (second : Yields paging more others) : Yields paging (form ++ more) (terminals ++ others) := by
  rw [Yields, List.map_append]
  exact (first.append_right more).trans (second.append_left _)

/-- A nonterminal derives what one of its alternatives derives. -/
theorem of_alternative (alternative : form ∈ alternatives paging n)
    (yields : Yields paging form terminals) : Yields paging [part n] terminals := by
  have rule : ⟨n, form⟩ ∈ (selectionGrammar paging).rules := mem_rules_iff.mpr alternative
  exact ContextFreeGrammar.Produces.trans_derives
    ⟨⟨n, form⟩, rule, ContextFreeRule.Rewrites.input_output⟩ yields

end Yields

/-! ## What derivations keep -/

/-- What every alternative keeps is kept by derivations. -/
theorem Yields.invariant (property : Form → Prop) (yields : Yields paging form terminals)
    (keeps : ∀ n, ∀ alternative ∈ alternatives paging n, ∀ front rest,
      property (front ++ [part n] ++ rest) → property (front ++ alternative ++ rest))
    (start : property form) : property (terminals.map .terminal) := by
  refine Relation.ReflTransGen.head_induction_on (motive := fun form _ => property form →
    property (terminals.map .terminal)) yields id ?_ start
  rintro before after ⟨rule, mem, rewrites⟩ _ ih holds
  obtain ⟨front, rest, rfl, rfl⟩ := rewrites.exists_parts
  exact ih (keeps rule.input rule.output (mem_rules_iff.mp mem) front rest holds)

theorem count_map_terminal (t : Terminal) :
    (terminals.map .terminal).count (mark t) = terminals.count t :=
  List.count_map_of_injective _ _ (fun _ _ same => by injection same) _

/-- In nested pages there are at most as many starts as lengths. -/
theorem Yields.count_le (yields : Yields .nested form terminals)
    (start : form.count (word .offset) ≤ form.count (word .limit)) :
    terminals.count (.keyword .offset) ≤ terminals.count (.keyword .limit) := by
  have alternative (n : Nonterminal) : ∀ form ∈ alternatives .nested n,
      form.count (word .offset) ≤ form.count (word .limit) := by
    cases n <;> decide
  rw [← count_map_terminal, ← count_map_terminal]
  refine Yields.invariant (fun form => form.count (word .offset) ≤ form.count (word .limit))
    yields ?_ start
  intro n form mem front rest holds
  have kept := alternative n form mem
  simp only [List.count_append, List.count_singleton] at holds ⊢
  simp at holds
  omega

/-- The symbols that have no page. -/
def Unpaged (s : Letter Terminal Nonterminal) : Prop :=
  s ∉ [word .limit, part .page, part .statement]

instance (s : Letter Terminal Nonterminal) : Decidable (Unpaged s) :=
  inferInstanceAs (Decidable (s ∉ _))

/-- Only pages have lengths. -/
theorem Yields.limit_not_mem (yields : Yields paging form terminals)
    (start : ∀ s ∈ form, Unpaged s) : Terminal.keyword .limit ∉ terminals := by
  have alternative (n : Nonterminal) (unpaged : Unpaged (part n)) :
      ∀ form ∈ alternatives paging n, ∀ s ∈ form, Unpaged s := by
    revert unpaged
    cases n <;> cases paging <;> decide
  have kept : ∀ s ∈ (terminals.map .terminal : Form), Unpaged s := by
    refine Yields.invariant (fun form => ∀ s ∈ form, Unpaged s) yields ?_ start
    intro n form mem front rest holds
    rw [List.forall_mem_append, List.forall_mem_append, List.forall_mem_singleton] at holds
    obtain ⟨⟨inFront, unpaged⟩, inRest⟩ := holds
    rw [List.forall_mem_append, List.forall_mem_append]
    exact ⟨⟨inFront, alternative n unpaged form mem⟩, inRest⟩
  intro limit
  exact kept _ (List.mem_map_of_mem limit) List.mem_cons_self

end

end Polyquery.Sql
