import Mathlib
import Polyquery.Proofs.Sql.Lexing
import Polyquery.Proofs.Sql.Truth

/-!
# Reading conditions back

The tokens of a written condition are read into a term with the truth value of the
condition.  Parentheses are written only where they are needed, and connectors of one
strength group to the left when they are read: a chain of conjunctions comes back
regrouped, which changes the term and not its truth value.
-/

namespace Polyquery

open Sql

namespace Sql.Term

/-! ## Waiting -/

/-- Nothing that waits can be joined. -/
def Shut (waiting : List Waiting) : Prop :=
  ∀ strength t, settle strength t waiting = (t, waiting)

/-- Only what binds weaker than comparisons waits. -/
def Quiet (waiting : List Waiting) : Prop :=
  ∀ strength t, notStrength < strength → settle strength t waiting = (t, waiting)

variable {waiting : List Waiting}

theorem shut_nil : Shut [] := fun _ _ => rfl

theorem shut_parenthesis : Shut (.parenthesis :: waiting) := fun _ _ => rfl

theorem Shut.quiet (shut : Shut waiting) : Quiet waiting := fun strength t _ => shut strength t

theorem quiet_not : Quiet (.not :: waiting) := by
  intro strength t above
  rw [settle, if_neg (by omega)]

theorem quiet_join {connector : Connector} (connects : connector = .and ∨ connector = .or)
    (left : Term ColumnName) : Quiet (.join left connector :: waiting) := by
  intro strength t above
  have weaker : ¬strength ≤ connector.strength := by
    rcases connects with rfl | rfl <;> simp [Connector.strength, notStrength] at above ⊢ <;> omega
  rw [settle, if_neg weaker]

/-! ## Steps of the reader -/

variable {t u : Term ColumnName} {token : Token} {rest : List Token}

theorem read?_not : read? waiting none 0 (.keyword .not :: rest) =
    read? (.not :: waiting) none 0 rest := by
  rw [read?]

theorem read?_opening : read? waiting none 0 (.opening :: rest) =
    read? (.parenthesis :: waiting) none 0 rest := by
  rw [read?]

theorem read?_closing {outer : List Waiting}
    (settled : settle 0 t waiting = (u, .parenthesis :: outer)) :
    read? waiting (some t) 0 (.closing :: rest) = read? outer (some u) 0 rest := by
  simp [read?, connector?, settled]

theorem read?_connector {connector : Connector} {outer : List Waiting}
    (connects : connector? token = some connector)
    (settled : settle connector.strength t waiting = (u, outer)) :
    read? waiting (some t) 0 (token :: rest) =
      read? (.join u connector :: outer) none 0 rest := by
  simp only [read?, connects]
  split
  · cases connects
  · rename_i same
    cases same
    rw [settled]
  · cases connects
  · rename_i impossible
    exact absurd rfl (impossible connector)

/-! ## Arriving -/

/-- Reading tokens arrives at a term: in front of anything that binds at most as
strongly as given, the term stands on its own. -/
def Arrives (strength : Nat) (tokens : List Token) (start : List Waiting)
    (t : Term ColumnName) (waiting : List Waiting) : Prop :=
  ∃ stack before,
    (∀ next, read? start none 0 (tokens ++ next) = read? stack (some before) 0 next) ∧
    ∀ k ≤ strength, settle k before stack = settle k t waiting

variable {strength : Nat} {tokens : List Token} {start : List Waiting}

theorem Arrives.weaken {weaker : Nat} (arrives : Arrives strength tokens start t waiting)
    (below : weaker ≤ strength) : Arrives weaker tokens start t waiting := by
  obtain ⟨stack, before, reads, settles⟩ := arrives
  exact ⟨stack, before, reads, fun k le => settles k (Nat.le_trans le below)⟩

/-- What a connector waits for is joined with it. -/
theorem Arrives.joined {connector : Connector} {left : Term ColumnName}
    (arrives : Arrives strength tokens start t (.join left connector :: waiting))
    (below : strength ≤ connector.strength) :
    Arrives strength tokens start (.join connector left t) waiting := by
  obtain ⟨stack, before, reads, settles⟩ := arrives
  refine ⟨stack, before, reads, fun k le => ?_⟩
  rw [settles k le, settle, if_pos (Nat.le_trans le below)]

/-- What `NOT` waits for is negated. -/
theorem Arrives.negated (arrives : Arrives notStrength tokens (.not :: waiting) t (.not :: waiting)) :
    Arrives notStrength (.keyword .not :: tokens) waiting (.not t) waiting := by
  obtain ⟨stack, before, reads, settles⟩ := arrives
  refine ⟨stack, before, fun next => ?_, fun k le => ?_⟩
  · rw [List.cons_append, read?_not, reads]
  · rw [settles k le, settle, if_pos le]

/-- Parentheses make a term stand on its own. -/
theorem Arrives.enclosed
    (arrives : Arrives strength tokens (.parenthesis :: waiting) t (.parenthesis :: waiting)) :
    Arrives notStrength (.opening :: tokens ++ [.closing]) waiting t waiting := by
  obtain ⟨stack, before, reads, settles⟩ := arrives
  refine ⟨waiting, t, fun next => ?_, fun _ _ => rfl⟩
  have settled : settle 0 before stack = (t, .parenthesis :: waiting) := settles 0 (Nat.zero_le _)
  rw [List.append_assoc, List.cons_append, read?_opening, reads, List.singleton_append,
    read?_closing settled]

/-- A connector joins what has been read and waits for its other side. -/
theorem Arrives.connect {connector : Connector} {right : Term ColumnName}
    {other : List Waiting} {more : List Token}
    (arrives : Arrives connector.strength tokens start t waiting) (shut : Shut waiting)
    (connects : connector? token = some connector)
    (rest : Arrives strength more (.join t connector :: waiting) right other) :
    Arrives strength (tokens ++ token :: more) start right other := by
  obtain ⟨stack, before, reads, settles⟩ := arrives
  obtain ⟨last, final, restReads, restSettles⟩ := rest
  refine ⟨last, final, fun next => ?_, restSettles⟩
  have settled : settle connector.strength before stack = (t, waiting) := by
    rw [settles _ (Nat.le_refl _), shut]
  rw [List.append_assoc, reads, List.cons_append, read?_connector connects settled, restReads]

/-! ## Conditions and chains -/

variable {table : String} {params : List Value}

/-- A term has the truth value that a condition has under every assignment. -/
def Denotes (table : String) (params : List Value) (t : Term ColumnName)
    (meaning : Assignment → Truth) : Prop :=
  ∀ assignment, t.truth? table params assignment = some (meaning assignment)

/-- Wherever nothing strong waits, tokens read as a term with a meaning. -/
def Stands (table : String) (params : List Value) (tokens : List Token)
    (meaning : Assignment → Truth) : Prop :=
  ∀ waiting, Quiet waiting → ∃ t, Arrives notStrength tokens waiting t waiting ∧
    Denotes table params t meaning

/-- What joining with a connector means. -/
def connect : Connector → Truth → Truth → Truth
  | .and => and3
  | _ => or3

/-- Tokens read as a part of a chain: on their own, or joined to a left side. -/
structure Chains (table : String) (params : List Value) (connector : Connector)
    (tokens : List Token) (meaning : Assignment → Truth) : Prop where
  first : ∀ waiting, Shut waiting →
    ∃ t, Arrives connector.strength tokens waiting t waiting ∧ Denotes table params t meaning
  next : ∀ waiting left before, Shut waiting → Denotes table params left before →
    ∃ t, Arrives connector.strength tokens (.join left connector :: waiting) t waiting ∧
      Denotes table params t fun assignment =>
        connect connector (before assignment) (meaning assignment)

variable {connector : Connector} {meaning : Assignment → Truth}

theorem denotes_join (connects : connector = .and ∨ connector = .or) {left right : Term ColumnName}
    {first second : Assignment → Truth} (leftDenotes : Denotes table params left first)
    (rightDenotes : Denotes table params right second) :
    Denotes table params (.join connector left right) fun assignment =>
      connect connector (first assignment) (second assignment) := by
  intro assignment
  rcases connects with rfl | rfl
  all_goals
    rw [truth?, leftDenotes assignment, rightDenotes assignment]
    rfl

theorem connect_assoc (p q r : Truth) :
    connect connector (connect connector p q) r = connect connector p (connect connector q r) := by
  cases connector <;> first | exact and3_assoc p q r | exact or3_assoc p q r

/-- What stands on its own is a chain of one link. -/
theorem Stands.chains (stands : Stands table params tokens meaning)
    (connects : connector = .and ∨ connector = .or) :
    Chains table params connector tokens meaning := by
  have below : connector.strength ≤ notStrength := by
    rcases connects with rfl | rfl <;> decide
  constructor
  · intro waiting shut
    obtain ⟨t, arrives, denotes⟩ := stands waiting shut.quiet
    exact ⟨t, arrives.weaken below, denotes⟩
  · intro waiting left before shut leftDenotes
    obtain ⟨t, arrives, denotes⟩ := stands _ (quiet_join connects left)
    exact ⟨.join connector left t, (arrives.weaken below).joined (Nat.le_refl _),
      denotes_join connects leftDenotes denotes⟩

/-- A chain in parentheses stands on its own. -/
theorem Chains.enclosed (chains : Chains table params connector tokens meaning) :
    Stands table params (.opening :: tokens ++ [.closing]) meaning := by
  intro waiting _
  obtain ⟨t, arrives, denotes⟩ := chains.first _ shut_parenthesis
  exact ⟨t, arrives.enclosed, denotes⟩

/-- Two chains with their connector between them are one chain: what is read groups to
the left. -/
theorem Chains.append {more : List Token} {other : Assignment → Truth}
    (chains : Chains table params connector tokens meaning)
    (connects : connector? token = some connector)
    (rest : Chains table params connector more other) :
    Chains table params connector (tokens ++ token :: more) fun assignment =>
      connect connector (meaning assignment) (other assignment) := by
  constructor
  · intro waiting shut
    obtain ⟨left, arrives, denotes⟩ := chains.first waiting shut
    obtain ⟨t, restArrives, restDenotes⟩ := rest.next waiting left _ shut denotes
    exact ⟨t, arrives.connect shut connects restArrives, restDenotes⟩
  · intro waiting outer before shut outerDenotes
    obtain ⟨left, arrives, denotes⟩ := chains.next waiting outer before shut outerDenotes
    obtain ⟨t, restArrives, restDenotes⟩ := rest.next waiting left _ shut denotes
    refine ⟨t, arrives.connect shut connects restArrives, fun assignment => ?_⟩
    exact (restDenotes assignment).trans (congrArg some (connect_assoc _ _ _))

/-- `NOT` in front of what stands on its own stands on its own. -/
theorem Stands.not (stands : Stands table params tokens meaning) :
    Stands table params (.keyword .not :: tokens) fun assignment =>
      not3 (meaning assignment) := by
  intro waiting _
  obtain ⟨t, arrives, denotes⟩ := stands (.not :: waiting) quiet_not
  refine ⟨.not t, arrives.negated, fun assignment => ?_⟩
  rw [truth?, denotes assignment]
  rfl

/-- A chain is a term up to the end of a statement. -/
theorem Chains.ofTokens? (chains : Chains table params connector tokens meaning) :
    ∃ t, ofTokens? (tokens ++ [.semicolon]) = some (t, [.semicolon]) ∧
      Denotes table params t meaning := by
  obtain ⟨t, ⟨stack, before, reads, settles⟩, denotes⟩ := chains.first [] shut_nil
  refine ⟨t, ?_, denotes⟩
  have settled : settle 0 before stack = (t, []) := settles 0 (Nat.zero_le _)
  rw [Term.ofTokens?, reads]
  simp [read?, connector?, settled, read?.finish?]

/-! ## Operands -/

/-- A column of the table as a term. -/
def column (table : String) (mark : Char) (name : String) : Term ColumnName :=
  .name ⟨[table], mark, name⟩

theorem operand?_column {mark : Char} {name : String} {rest : List Token}
    (notDot : rest.head? ≠ some .dot) :
    operand? (.name mark table :: .dot :: .name mark name :: rest) =
      some (3, column table mark name) := by
  cases rest with
  | nil => rfl
  | cons token others =>
      cases token with
      | dot => exact absurd rfl notDot
      | _ => rfl

theorem read?_column {mark : Char} {name : String} {rest : List Token}
    (notDot : rest.head? ≠ some .dot) :
    read? waiting none 0 (.name mark table :: .dot :: .name mark name :: rest) =
      read? waiting (some (column table mark name)) 0 rest := by
  rw [read?, operand?_column notDot]
  · rfl
  · nofun
  · nofun

theorem arrives_comparison {mark : Char} {name : String} {n : Nat}
    (connects : connector? token = some connector) (comparison : notStrength < connector.strength)
    (quiet : Quiet waiting) :
    Arrives notStrength [.name mark table, .dot, .name mark name, token, .parameter n] waiting
      (.join connector (column table mark name) (.parameter n)) waiting := by
  have notDot : token ≠ .dot := by
    rintro rfl
    cases connects
  refine ⟨.join (column table mark name) connector :: waiting, .parameter n, fun next => ?_,
    fun k le => ?_⟩
  · have settled := quiet connector.strength (column table mark name) comparison
    simp only [List.cons_append, List.nil_append]
    rw [read?_column (by simpa using notDot), read?_connector connects settled, read?]
    · rfl
    · nofun
    · nofun
  · rw [settle, if_pos (Nat.le_trans le (Nat.le_of_lt comparison))]

theorem read?_null {rest : List Token} :
    read? waiting none 0 (.keyword .null :: rest) = read? waiting (some (.value .null)) 0 rest := by
  rw [read?]
  · rfl
  · nofun
  · nofun

theorem arrives_isNull {mark : Char} {name : String} (quiet : Quiet waiting) :
    Arrives notStrength
      [.name mark table, .dot, .name mark name, .keyword .is, .keyword .null] waiting
      (.join .is (column table mark name) (.value .null)) waiting := by
  refine ⟨.join (column table mark name) .is :: waiting, .value .null, fun next => ?_,
    fun k le => ?_⟩
  · have settled := quiet Connector.is.strength (column table mark name) (by decide)
    simp only [List.cons_append, List.nil_append]
    rw [read?_column (by simp), read?]
    simp [settled, read?_null]
  · rw [settle, if_pos (Nat.le_trans le (by decide))]

theorem arrives_isNotNull {mark : Char} {name : String} (quiet : Quiet waiting) :
    Arrives notStrength
      [.name mark table, .dot, .name mark name, .keyword .is, .keyword .not, .keyword .null]
      waiting (.join .isNot (column table mark name) (.value .null)) waiting := by
  refine ⟨.join (column table mark name) .isNot :: waiting, .value .null, fun next => ?_,
    fun k le => ?_⟩
  · have settled := quiet Connector.isNot.strength (column table mark name) (by decide)
    simp only [List.cons_append, List.nil_append]
    rw [read?_column (by simp), read?]
    simp only [List.head?_cons, beq_self_eq_true, if_true, settled]
    rw [read?, read?_null]
  · rw [settle, if_pos (Nat.le_trans le (by decide))]

end Sql.Term

/-! ## Written conditions -/

namespace Expr

open Sql.Lexer Sql.Term

/-- The tokens of an expression with one literal for each parameter after the `n`-th. -/
def tokens (d : Dialect) (n : Nat) (e : Expr) : List Token :=
  (e.pieces d n).flatMap (Piece.tokens d)

/-- The tokens of an expression that stands as an operand. -/
def operandTokens (d : Dialect) (parent : Operator) (n : Nat) (e : Expr) : List Token :=
  (e.operandPieces d parent n).flatMap (Piece.tokens d)

variable {d : Dialect} {n : Nat} {table : String} {params : List Value} {e left right : Expr}
  {o parent : Operator} {connector : Connector} {tokens : List Token}

theorem operandTokens_eq :
    e.operandTokens d parent n =
      if parent.encloses e then .opening :: e.tokens d n ++ [.closing] else e.tokens d n := by
  have opening : wordTokens "(" = [.opening] := by cbv
  have closing : wordTokens ")" = [.closing] := by cbv
  rw [operandTokens, operandPieces, parenthesized]
  split
  · simp [Piece.tokens, opening, closing, Expr.tokens]
  · rfl

theorem tokens_binary (between : o.placement = .between) :
    (binary o left right).tokens d n = left.operandTokens d o n ++
      wordTokens (" " ++ o.sql ++ " ") ++
      right.operandTokens d o (n + left.literals.length) := by
  simp [Expr.tokens, binary, pieces, between, operandTokens, operandPieces, Piece.tokens]

theorem tokens_before (before : o.placement = .before) :
    (unary o e).tokens d n = wordTokens (o.sql ++ " ") ++ e.operandTokens d o n := by
  simp [Expr.tokens, unary, pieces, before, operandTokens, operandPieces, Piece.tokens]

theorem tokens_after (after : o.placement = .after) :
    (unary o e).tokens d n = e.operandTokens d o n ++ wordTokens (" " ++ o.sql) := by
  simp [Expr.tokens, unary, pieces, after, operandTokens, operandPieces, Piece.tokens]

theorem tokens_member (column : String) :
    (member table column).tokens d n =
      [.name d.nameMark table, .dot, .name d.nameMark column] := by
  have dot : wordTokens "." = [.dot] := by cbv
  simp [Expr.tokens, member, reference, pieces, Operator.placement, Operator.sql, Piece.tokens, dot]

/-- A comparison is written with a token that stands for it. -/
theorem wordTokens_comparison (comparison : o.isComparison) :
    ∃ token connector, wordTokens (" " ++ o.sql ++ " ") = [token] ∧
      connector? token = some connector ∧ notStrength < connector.strength ∧
      connector.comparison? = some o := by
  cases o <;> simp only [Operator.isComparison, Bool.false_eq_true] at comparison
  · exact ⟨.eq, .eq, by cbv, rfl, by decide, rfl⟩
  · exact ⟨.ne, .ne, by cbv, rfl, by decide, rfl⟩
  · exact ⟨.lt, .lt, by cbv, rfl, by decide, rfl⟩
  · exact ⟨.le, .le, by cbv, rfl, by decide, rfl⟩
  · exact ⟨.gt, .gt, by cbv, rfl, by decide, rfl⟩
  · exact ⟨.ge, .ge, by cbv, rfl, by decide, rfl⟩

/-- The operators that connect conditions, with their connectors. -/
inductive Connects : Operator → Connector → Prop
  | and : Connects .and .and
  | or : Connects .or .or

theorem Connects.either (connects : Connects o connector) :
    connector = .and ∨ connector = .or := by
  cases connects
  · exact .inl rfl
  · exact .inr rfl

theorem Connects.token (connects : Connects o connector) :
    ∃ token, wordTokens (" " ++ o.sql ++ " ") = [token] ∧ connector? token = some connector := by
  cases connects
  · exact ⟨.keyword .and, by cbv, rfl⟩
  · exact ⟨.keyword .or, by cbv, rfl⟩

/-- A connector between two parts of a chain. -/
theorem Connects.chains {first second : Assignment → Truth} (connects : Connects o connector)
    (leftChains : Chains table params connector (left.operandTokens d o n) first)
    (rightChains : Chains table params connector
      (right.operandTokens d o (n + left.literals.length)) second) :
    Chains table params connector ((binary o left right).tokens d n) fun assignment =>
      connect connector (first assignment) (second assignment) := by
  obtain ⟨token, words, connected⟩ := connects.token
  have between : o.placement = .between := by cases connects <;> rfl
  rw [tokens_binary between, words, List.append_assoc]
  exact leftChains.append connected rightChains

/-- The tokens of a condition can be read back: a conjunction or disjunction as a
chain, anything else on its own. -/
def ReadsBack (table : String) (params : List Value) (e : Expr) (tokens : List Token) : Prop :=
  match e.operator? with
  | some .and => Chains table params .and tokens fun assignment => e.truth assignment
  | some .or => Chains table params .or tokens fun assignment => e.truth assignment
  | _ => Stands table params tokens fun assignment => e.truth assignment

/-- Whatever can be read back stands on its own in parentheses. -/
theorem ReadsBack.enclosed (reads : ReadsBack table params e tokens) :
    Stands table params (.opening :: tokens ++ [.closing]) fun assignment => e.truth assignment := by
  unfold ReadsBack at reads
  split at reads
  · exact reads.enclosed
  · exact reads.enclosed
  · exact (reads.chains (.inl rfl)).enclosed

/-- An operand of a connector is a part of its chain. -/
theorem ReadsBack.chains (reads : ReadsBack table params e (e.tokens d n))
    (connects : Connects o connector) :
    Chains table params connector (e.operandTokens d o n) fun assignment =>
      e.truth assignment := by
  rw [operandTokens_eq]
  by_cases needed : o.encloses e
  · rw [if_pos needed]
    exact reads.enclosed.chains connects.either
  · rw [if_neg needed]
    unfold ReadsBack at reads
    unfold Operator.encloses at needed
    split at reads
    · rename_i isAnd
      cases connects with
      | and => exact reads
      | or => simp [isAnd, Operator.placement] at needed
    · rename_i isOr
      cases connects with
      | and => simp [isOr, Operator.placement] at needed
      | or => exact reads
    · exact reads.chains connects.either

/-- An operand of `NOT` stands on its own. -/
theorem ReadsBack.stands (reads : ReadsBack table params e (e.tokens d n)) :
    Stands table params (e.operandTokens d .not n) fun assignment => e.truth assignment := by
  rw [operandTokens_eq]
  by_cases needed : Operator.not.encloses e
  · rw [if_pos needed]
    exact reads.enclosed
  · rw [if_neg needed]
    unfold ReadsBack at reads
    unfold Operator.encloses at needed
    split at reads
    · rename_i isAnd
      simp [isAnd, Operator.placement] at needed
    · rename_i isOr
      simp [isOr, Operator.placement] at needed
    · exact reads

/-- Values that stand in a list of parameters after the `n`-th. -/
def Placed (params : List Value) (n : Nat) (values : List Value) : Prop :=
  values <+: params.drop n

theorem placed_append {first second : List Value} (placed : Placed params n (first ++ second)) :
    Placed params n first ∧ Placed params (n + first.length) second := by
  obtain ⟨rest, same⟩ := placed
  rw [List.append_assoc] at same
  refine ⟨⟨second ++ rest, same⟩, rest, ?_⟩
  rw [← List.drop_drop, ← same, List.drop_left]

theorem getElem?_of_placed {value : Value} (placed : Placed params n [value]) :
    params[n]? = some value := by
  obtain ⟨rest, same⟩ := placed
  rw [List.singleton_append] at same
  have first : (params.drop n)[0]? = some value := by
    rw [← same]
    rfl
  rwa [List.getElem?_drop, Nat.add_zero] at first

theorem readsBack_of_stands (stands : Stands table params tokens fun assignment =>
    e.truth assignment) (notAnd : e.operator? ≠ some .and) (notOr : e.operator? ≠ some .or) :
    ReadsBack table params e tokens := by
  unfold ReadsBack
  split
  · contradiction
  · contradiction
  · exact stands

theorem denotes_comparison {column : String} {value : Value} {mark : Char}
    (same : connector.comparison? = some o) (placed : Placed params n [value]) :
    Denotes table params (.join connector (Term.column table mark column) (.parameter (n + 1)))
      fun assignment => assignment.compares o (assignment.column column) value := by
  intro assignment
  have bound := getElem?_of_placed placed
  cases connector <;> cases same <;> simp [truth?, Term.column, value?, bound, Connector.comparison?]

theorem denotes_isNull {column : String} {mark : Char} :
    Denotes table params (.join .is (Term.column table mark column) (.value .null))
      fun assignment => isNull3 (assignment.column column) := by
  intro assignment
  simp [truth?, Term.column, value?]

theorem denotes_isNotNull {column : String} {mark : Char} :
    Denotes table params (.join .isNot (Term.column table mark column) (.value .null))
      fun assignment => not3 (isNull3 (assignment.column column)) := by
  intro assignment
  simp [truth?, Term.column, value?]

theorem stands_comparison (column : String) {value : Value} (comparison : o.isComparison)
    (placed : Placed params n [value]) :
    Stands table params
      ((binary o (member table column) (literal value)).tokens d n)
      fun assignment => assignment.compares o (assignment.column column) value := by
  obtain ⟨token, connector, words, connects, strong, same⟩ := wordTokens_comparison comparison
  have between : o.placement = .between := by
    cases o <;> first | rfl | cases comparison
  have spelled : (binary o (member table column) (literal value)).tokens d n =
      [.name d.nameMark table, .dot, .name d.nameMark column, token, .parameter (n + 1)] := by
    have noLeft : o.encloses (member table column) = false := rfl
    have noRight : o.encloses (literal value) = false := rfl
    rw [tokens_binary between, operandTokens_eq, operandTokens_eq, noLeft, noRight, tokens_member,
      words]
    rfl
  intro waiting quiet
  rw [spelled]
  exact ⟨_, arrives_comparison connects strong quiet, denotes_comparison same placed⟩

/-- A written condition can be read back. -/
theorem IsCondition.readsBack (condition : e.IsCondition table) (d : Dialect) {n : Nat}
    (placed : Placed params n e.literals) : ReadsBack table params e (e.tokens d n) := by
  induction condition generalizing n with
  | @compare column value o comparison =>
      refine readsBack_of_stands ?_ ?_ ?_
      · cases o <;> first | exact stands_comparison column comparison placed | cases comparison
      · rintro ⟨⟩
        cases comparison
      · rintro ⟨⟩
        cases comparison
  | isNull column =>
      have words : wordTokens (" " ++ Operator.isNull.sql) = [.keyword .is, .keyword .null] := by cbv
      have bare : Operator.isNull.encloses (member table column) = false := rfl
      refine readsBack_of_stands (fun waiting quiet => ?_) (by rintro ⟨⟩) (by rintro ⟨⟩)
      rw [tokens_after rfl, operandTokens_eq, bare, tokens_member, words]
      exact ⟨_, arrives_isNull quiet, denotes_isNull⟩
  | isNotNull column =>
      have words : wordTokens (" " ++ Operator.isNotNull.sql) =
          [.keyword .is, .keyword .not, .keyword .null] := by cbv
      have bare : Operator.isNotNull.encloses (member table column) = false := rfl
      refine readsBack_of_stands (fun waiting quiet => ?_) (by rintro ⟨⟩) (by rintro ⟨⟩)
      rw [tokens_after rfl, operandTokens_eq, bare, tokens_member, words]
      exact ⟨_, arrives_isNotNull quiet, denotes_isNotNull⟩
  | @not e inner ih =>
      have words : wordTokens (Operator.not.sql ++ " ") = [.keyword .not] := by cbv
      refine readsBack_of_stands ?_ (by rintro ⟨⟩) (by rintro ⟨⟩)
      rw [tokens_before rfl, words]
      exact (ih placed).stands.not
  | and first second ihFirst ihSecond =>
      obtain ⟨leftPlaced, rightPlaced⟩ := placed_append placed
      exact Connects.and.chains ((ihFirst leftPlaced).chains .and) ((ihSecond rightPlaced).chains .and)
  | or first second ihFirst ihSecond =>
      obtain ⟨leftPlaced, rightPlaced⟩ := placed_append placed
      exact Connects.or.chains ((ihFirst leftPlaced).chains .or) ((ihSecond rightPlaced).chains .or)

end Expr

end Polyquery
