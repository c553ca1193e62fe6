import Polyquery.Sql.Query

/-!
# Writing expressions and queries

Writing has a result and collects values.  Two judgements describe a writing: that
it gives a certain result and adds certain values, and that whatever it gives has a
property.  An expression in which every symbol has its operands is written without
an error: its literals become the next parameters from left to right.  So is a query
of such expressions.
-/

namespace Polyquery

variable {α β : Type} {d : Dialect}

/-! ## Judgements about writings -/

namespace Writing

/-- From `n` collected values on, a writing gives a result and adds values. -/
def Gives (writing : Writing α) (n : Nat) (result : α) (values : List Value) : Prop :=
  ∀ before : List Value, before.length = n →
    (ExceptT.run writing).run before = (.ok result, before ++ values)

/-- Every result of a writing has a property. -/
def Ensures (writing : Writing α) (property : α → Prop) : Prop :=
  ∀ before result, ((ExceptT.run writing).run before).1 = .ok result → property result

variable {n : Nat} {writing : Writing α} {result : α} {values : List Value}

theorem Gives.run_eq (gives : writing.Gives 0 result values) :
    writing.run = (.ok result, values) := by
  rw [run, gives [] rfl, List.nil_append]

theorem Ensures.of_run {property : α → Prop} (ensures : writing.Ensures property)
    (ran : writing.run = (.ok result, values)) : property result := by
  apply ensures []
  rw [run] at ran
  rw [ran]

theorem gives_pure (result : α) : (pure result : Writing α).Gives n result [] := by
  intro before _
  rw [List.append_nil]
  rfl

theorem Gives.bind {next : α → Writing β} {last : β} {more : List Value}
    (first : writing.Gives n result values)
    (second : (next result).Gives (n + values.length) last more) :
    (writing >>= next).Gives n last (values ++ more) := by
  intro before size
  have rest := second (before ++ values) (by rw [List.length_append, size])
  rw [ExceptT.run_bind, StateT.run_bind, first before size]
  rw [List.append_assoc] at rest
  exact rest

theorem Gives.bind_start {next : α → Writing β} {last : β} {more : List Value}
    (first : writing.Gives 0 result values)
    (second : (next result).Gives values.length last more) :
    (writing >>= next).Gives 0 last (values ++ more) := by
  rw [← Nat.zero_add values.length] at second
  exact first.bind second

theorem Gives.map {f : α → β} (gives : writing.Gives n result values) :
    (writing >>= fun a => pure (f a)).Gives n (f result) values := by
  have both : (writing >>= fun a => pure (f a)).Gives n (f result) (values ++ []) :=
    gives.bind (gives_pure (f result))
  rwa [List.append_nil] at both

theorem gives_bind (value : Value) : (bind value).Gives n (.bound (n + 1)) [value] := by
  intro before size
  have grown : (before ++ [value]).length = n + 1 := by
    rw [List.length_append, size, List.length_singleton]
  rw [← grown]
  rfl

theorem Ensures.bind {property : α → Prop} {goal : β → Prop} {next : α → Writing β}
    (first : writing.Ensures property)
    (second : ∀ result, property result → (next result).Ensures goal) :
    (writing >>= next).Ensures goal := by
  intro before last ok
  rw [ExceptT.run_bind, StateT.run_bind] at ok
  cases ran : (ExceptT.run writing).run before with
  | mk outcome after =>
      rw [ran] at ok
      cases outcome with
      | error e => cases ok
      | ok result => exact second result (first before result (by rw [ran])) after last ok

theorem ensures_pure {property : α → Prop} (holds : property result) :
    (pure result : Writing α).Ensures property := by
  intro before last ok
  cases ok
  exact holds

theorem ensures_throw {property : α → Prop} (e : Error) :
    (throw e : Writing α).Ensures property := by
  intro before last ok
  cases ok

theorem ensures_bind (value : Value) {property : Piece → Prop}
    (holds : ∀ n, property (.bound n)) : (Writing.bind value).Ensures property := by
  intro before last ok
  cases ok
  exact holds _

theorem Ensures.mapM {f : α → Writing β} {property : β → Prop} {items : List α}
    (each : ∀ item ∈ items, (f item).Ensures property) :
    (items.mapM f).Ensures fun results => ∀ result ∈ results, property result := by
  induction items with
  | nil =>
      rw [List.mapM_nil]
      exact ensures_pure fun _ none => absurd none List.not_mem_nil
  | cons item rest ih =>
      rw [List.mapM_cons]
      refine (each item List.mem_cons_self).bind fun first holds => ?_
      refine (ih fun other mem => each other (List.mem_cons_of_mem item mem)).bind fun others every => ?_
      refine ensures_pure fun result mem => ?_
      rcases List.mem_cons.mp mem with same | inRest
      · rw [same]
        exact holds
      · exact every result inRest

/-- Whatever each step ensures holds behind all of them. -/
theorem Ensures.forall_mapM {f : α → Writing β} {property : α → Prop} {items : List α}
    (each : ∀ item ∈ items, (f item).Ensures fun _ => property item) :
    (items.mapM f).Ensures fun _ => ∀ item ∈ items, property item := by
  induction items with
  | nil =>
      rw [List.mapM_nil]
      exact ensures_pure fun _ none => absurd none List.not_mem_nil
  | cons item rest ih =>
      rw [List.mapM_cons]
      refine (each item List.mem_cons_self).bind fun _ holds => ?_
      refine (ih fun other mem => each other (List.mem_cons_of_mem item mem)).bind fun _ every => ?_
      exact ensures_pure (List.forall_mem_cons.mpr ⟨holds, every⟩)

theorem Gives.ensured {property : α → Prop} (gives : writing.Gives n result values)
    (ensures : writing.Ensures property) : property result := by
  apply ensures (List.replicate n .null)
  rw [gives _ List.length_replicate]

/-- The results of writing items one after the other, where each is numbered from the
values of those before it on. -/
def threaded (result : Nat → α → β) (values : α → List Value) : Nat → List α → List β
  | _, [] => []
  | n, item :: rest => result n item :: threaded result values (n + (values item).length) rest

theorem gives_mapM {f : α → Writing β} {result : Nat → α → β} {values : α → List Value}
    {items : List α}
    (each : ∀ item ∈ items, ∀ n, (f item).Gives n (result n item) (values item)) :
    (items.mapM f).Gives n (threaded result values n items) (items.flatMap values) := by
  induction items generalizing n with
  | nil =>
      rw [List.mapM_nil]
      exact gives_pure []
  | cons item rest ih =>
      rw [List.mapM_cons]
      refine (each item List.mem_cons_self n).bind ?_
      exact (ih fun other mem => each other (List.mem_cons_of_mem item mem)).map

theorem forall_mem_threaded {result : Nat → α → β} {values : α → List Value}
    {property : β → Prop} {items : List α}
    (each : ∀ item ∈ items, ∀ n, property (result n item)) (n : Nat) :
    ∀ made ∈ threaded result values n items, property made := by
  induction items generalizing n with
  | nil => exact fun _ mem => absurd mem List.not_mem_nil
  | cons item rest ih =>
      intro made mem
      rcases List.mem_cons.mp mem with rfl | inRest
      · exact each item List.mem_cons_self n
      · exact ih (fun other mem => each other (List.mem_cons_of_mem item mem)) _ made inRest

theorem threaded_eq_nil_iff {result : Nat → α → β} {values : α → List Value} {items : List α} :
    threaded result values n items = [] ↔ items = [] := by
  cases items <;> simp [threaded]

end Writing

/-! ## Expressions -/

namespace Expr

/-- An expression in which every symbol has the operands that its placement asks
for. -/
inductive Complete : Expr → Prop
  | literal (value : Value) : Complete (.literal value)
  | reference (name : String) : Complete (.reference name)
  | command (c : Command) : Complete (.command c)
  | unary {o : Operator} {operand : Expr} (arity : o.placement.arity = 1)
      (inner : operand.Complete) : Complete (.unary o operand)
  | binary {o : Operator} {left right : Expr} (arity : o.placement.arity = 2)
      (first : left.Complete) (second : right.Complete) : Complete (.binary o left right)

theorem complete_member (table column : String) : (member table column).Complete :=
  .binary rfl (.reference table) (.reference column)

/-- The values of the literals from left to right. -/
def literals : Expr → List Value
  | .node (.literal value) _ => [value]
  | .node (.op _) [operand] => operand.literals
  | .node (.op _) [left, right] => left.literals ++ right.literals
  | _ => []

/-- The pieces of an expression with one literal for each parameter after the
`n`-th. -/
def pieces (d : Dialect) (n : Nat) : Expr → List Piece
  | .node (.literal _) _ => [.bound (n + 1)]
  | .node (.reference name) _ => [.name name]
  | .node (.command c) _ => [.text (d.keyword c)]
  | .node (.op o) [operand] =>
    let inner := parenthesized (o.encloses operand) (operand.pieces d n)
    match o.placement with
    | .before => .text (o.sql ++ " ") :: inner
    | _ => inner ++ [.text (" " ++ o.sql)]
  | .node (.op o) [left, right] =>
    let first := left.pieces d n
    let second := right.pieces d (n + left.literals.length)
    match o.placement with
    | .joined => first ++ [.text o.sql] ++ second
    | _ => parenthesized (o.encloses left) first ++ [.text (" " ++ o.sql ++ " ")] ++
        parenthesized (o.encloses right) second
  | _ => []

/-- The pieces of an expression that stands as an operand. -/
def operandPieces (d : Dialect) (parent : Operator) (n : Nat) (e : Expr) : List Piece :=
  parenthesized (parent.encloses e) (e.pieces d n)

/-- A complete expression is written without an error. -/
theorem Complete.gives_write {e : Expr} (complete : e.Complete) (n : Nat) :
    (e.write d).Gives n (e.pieces d n) e.literals := by
  induction complete generalizing n with
  | literal value => exact (Writing.gives_bind value).map
  | reference name => exact Writing.gives_pure _
  | command c => exact Writing.gives_pure _
  | @unary o operand arity inner ih =>
      cases o <;> cases arity
      all_goals exact (ih n).map
  | @binary o left right arity first second ihFirst ihSecond =>
      cases o <;> cases arity
      all_goals exact (ihFirst n).bind (ihSecond _).map

/-- Only complete expressions are written. -/
theorem ensures_complete (e : Expr) : (e.write d).Ensures fun _ => e.Complete := by
  fun_induction Expr.write d e with
  | case1 value =>
      have bound : (Writing.bind value).Ensures fun _ => True :=
        Writing.ensures_bind value fun _ => trivial
      exact bound.bind fun _ _ => Writing.ensures_pure (.literal value)
  | case2 name => exact Writing.ensures_pure (.reference name)
  | case3 c => exact Writing.ensures_pure (.command c)
  | case4 o operand before ih =>
      refine ih.bind fun _ inner => Writing.ensures_pure ?_
      exact .unary (by rw [before]; rfl) inner
  | case5 o operand after ih =>
      refine ih.bind fun _ inner => Writing.ensures_pure ?_
      exact .unary (by rw [after]; rfl) inner
  | case6 => exact Writing.ensures_throw _
  | case7 o left right joined ihLeft ihRight =>
      refine ihLeft.bind fun _ first => ihRight.bind fun _ second => Writing.ensures_pure ?_
      exact .binary (by rw [joined]; rfl) first second
  | case8 o left right between ihLeft ihRight =>
      refine ihLeft.bind fun _ first => ihRight.bind fun _ second => Writing.ensures_pure ?_
      exact .binary (by rw [between]; rfl) first second
  | case9 => exact Writing.ensures_throw _
  | case10 => exact Writing.ensures_throw _

theorem Complete.gives_writeOperand {e : Expr} (complete : e.Complete) (parent : Operator)
    (n : Nat) : (e.writeOperand d parent).Gives n (e.operandPieces d parent n) e.literals :=
  (complete.gives_write n).map

end Expr

/-! ## Queries -/

namespace Query

/-- The expressions in front of the table. -/
def projected (query : Query) : List Expr :=
  match query.command with
  | .select => query.selected ++ query.aliases.map Prod.snd
  | _ => []

/-- The expressions behind the conditions. -/
def ordered (query : Query) : List Expr :=
  match query.command with
  | .select => query.sorts.map SortKey.expr
  | _ => []

/-- A selection or deletion of complete expressions. -/
structure Complete (query : Query) : Prop where
  command : query.command ≠ .upsert
  projected : ∀ e ∈ query.projected, e.Complete
  filters : ∀ e ∈ query.filters, e.Complete
  ordered : ∀ e ∈ query.ordered, e.Complete

/-- The pieces of the selected expressions. -/
def projectionPieces (d : Dialect) (query : Query) : List Piece :=
  if query.selectsAll then [.text "*"]
  else
    let aliasPieces (n : Nat) (named : String × Expr) : List Piece :=
      named.2.pieces d n ++ [.text " AS ", .name named.1]
    separated ", " <|
      Writing.threaded (fun n e => e.pieces d n) Expr.literals 0 query.selected ++
        Writing.threaded aliasPieces (fun named => named.2.literals)
          (query.selected.flatMap Expr.literals).length query.aliases

/-- The pieces of the opening words. -/
def headPieces (d : Dialect) (query : Query) : List Piece :=
  match query.command with
  | .select => [.text (d.keyword .select ++ " ")] ++ query.projectionPieces d ++
      [.text " FROM ", .name query.table.name]
  | _ => [.text (d.keyword .delete ++ " FROM "), .name query.table.name]

/-- The pieces of the conditions with one literal for each parameter after the
`n`-th. -/
def filterPieces (d : Dialect) (n : Nat) (query : Query) : List Piece :=
  if query.filters.isEmpty then []
  else .text " WHERE " :: separated " AND "
    (Writing.threaded (fun n e => e.operandPieces d .and n) Expr.literals n query.filters)

/-- The pieces behind the conditions. -/
def tailPieces (d : Dialect) (n : Nat) (query : Query) : List Piece :=
  match query.command with
  | .select =>
    let sortPieces (n : Nat) (sort : SortKey) : List Piece :=
      sort.expr.pieces d n ++ [.text (" " ++ sort.order.operator.sql)]
    (if query.sorts.isEmpty then []
      else .text " ORDER BY " :: separated ", "
        (Writing.threaded sortPieces (fun sort => sort.expr.literals) n query.sorts)) ++
      query.paging
  | _ => []

/-- The pieces of the whole statement. -/
def pieces (d : Dialect) (query : Query) : List Piece :=
  let first := (query.projected.flatMap Expr.literals).length
  let second := first + (query.filters.flatMap Expr.literals).length
  query.headPieces d ++ query.filterPieces d first ++ query.tailPieces d second ++ [.text ";"]

/-- The values of the parameters. -/
def literals (query : Query) : List Value :=
  (query.projected ++ query.filters ++ query.ordered).flatMap Expr.literals

variable {query : Query}

theorem Complete.gives_writeHead (complete : query.Complete) :
    (query.writeHead d).Gives 0 (query.headPieces d) (query.projected.flatMap Expr.literals) := by
  cases command : query.command with
  | upsert => exact absurd command complete.command
  | delete =>
      simp only [writeHead, headPieces, Query.projected, command]
      exact Writing.gives_pure _
  | select =>
      have projectedEq : query.projected = query.selected ++ query.aliases.map Prod.snd := by
        rw [Query.projected, command]
      have projection : (query.writeProjection d).Gives 0 (query.projectionPieces d)
          (query.projected.flatMap Expr.literals) := by
        rw [writeProjection, projectionPieces, projectedEq]
        by_cases all : query.selectsAll
        · have none : query.selected = [] ∧ query.aliases = [] := by
            simpa [selectsAll, command] using all
          rw [if_pos all, if_pos all, none.1, none.2]
          exact Writing.gives_pure _
        · rw [if_neg all, if_neg all, List.flatMap_append, List.flatMap_map]
          refine (Writing.gives_mapM fun e mem n => ?_).bind_start
            (Writing.gives_mapM fun named mem n => ?_).map
          · exact (complete.projected e (by simp [projectedEq, mem])).gives_write n
          · have inner : named.2 ∈ query.projected := by
              rw [projectedEq, List.mem_append]
              exact .inr (List.mem_map_of_mem mem)
            exact ((complete.projected named.2 inner).gives_write n).map
      simp only [writeHead, headPieces, command]
      exact projection.map

theorem Complete.gives_writeFilters (complete : query.Complete) (n : Nat) :
    (query.writeFilters d).Gives n (query.filterPieces d n)
      (query.filters.flatMap Expr.literals) := by
  rw [writeFilters, filterPieces]
  by_cases none : query.filters.isEmpty
  · rw [if_pos none, if_pos none, List.isEmpty_iff.mp none]
    exact Writing.gives_pure _
  · rw [if_neg none, if_neg none]
    refine (Writing.gives_mapM fun e mem n => ?_).map
    exact (complete.filters e mem).gives_writeOperand .and n

theorem Complete.gives_writeTail (complete : query.Complete) (n : Nat) :
    (query.writeTail d).Gives n (query.tailPieces d n)
      (query.ordered.flatMap Expr.literals) := by
  cases command : query.command with
  | upsert => exact absurd command complete.command
  | delete =>
      simp only [writeTail, tailPieces, Query.ordered, command]
      exact Writing.gives_pure _
  | select =>
      have orderedEq : query.ordered = query.sorts.map SortKey.expr := by
        rw [Query.ordered, command]
      simp only [writeTail, tailPieces, command, orderedEq, writeSorts, List.flatMap_map]
      refine Writing.Gives.map ?_
      by_cases none : query.sorts.isEmpty
      · rw [if_pos none, if_pos none, List.isEmpty_iff.mp none]
        exact Writing.gives_pure _
      · rw [if_neg none, if_neg none]
        refine (Writing.gives_mapM fun sort mem n => ?_).map
        have inner : sort.expr ∈ query.ordered := by
          rw [orderedEq]
          exact List.mem_map_of_mem mem
        exact ((complete.ordered sort.expr inner).gives_write n).map

/-- A query of complete expressions is written without an error. -/
theorem Complete.gives_write (complete : query.Complete) :
    (query.write d).Gives 0 (query.pieces d) query.literals := by
  rw [literals, List.flatMap_append, List.flatMap_append, List.append_assoc]
  exact complete.gives_writeHead.bind_start <|
    (complete.gives_writeFilters _).bind (complete.gives_writeTail _).map

theorem ensures_projected (query : Query) :
    (query.writeHead d).Ensures fun _ =>
      query.command ≠ .upsert ∧ ∀ e ∈ query.projected, e.Complete := by
  cases command : query.command with
  | upsert =>
      rw [writeHead, command]
      exact Writing.ensures_throw _
  | delete =>
      rw [writeHead, projected, command]
      exact Writing.ensures_pure ⟨nofun, nofun⟩
  | select =>
      have selected : (query.writeProjection d).Ensures fun _ =>
          ∀ e ∈ query.selected ++ query.aliases.map Prod.snd, e.Complete := by
        rw [writeProjection]
        by_cases all : query.selectsAll
        · have none : query.selected = [] ∧ query.aliases = [] := by
            simpa [selectsAll, command] using all
          rw [if_pos all, none.1, none.2]
          exact Writing.ensures_pure nofun
        · rw [if_neg all]
          refine (Writing.Ensures.forall_mapM fun e _ => e.ensures_complete).bind
            fun _ selected => ?_
          refine (Writing.Ensures.forall_mapM fun named _ =>
            named.2.ensures_complete.bind fun _ complete =>
              Writing.ensures_pure complete).bind fun _ named => Writing.ensures_pure ?_
          rw [List.forall_mem_append, List.forall_mem_map]
          exact ⟨selected, named⟩
      simp only [writeHead, projected, command]
      exact selected.bind fun _ complete => Writing.ensures_pure ⟨nofun, complete⟩

theorem ensures_filters (query : Query) :
    (query.writeFilters d).Ensures fun _ => ∀ e ∈ query.filters, e.Complete := by
  rw [writeFilters]
  by_cases none : query.filters.isEmpty
  · rw [if_pos none, List.isEmpty_iff.mp none]
    exact Writing.ensures_pure nofun
  · rw [if_neg none]
    refine (Writing.Ensures.forall_mapM fun e _ => e.ensures_complete.bind fun _ complete =>
      Writing.ensures_pure complete).bind fun _ filters => Writing.ensures_pure filters

theorem ensures_sorts (query : Query) :
    (query.writeSorts d).Ensures fun _ => ∀ sort ∈ query.sorts, sort.expr.Complete := by
  rw [writeSorts]
  by_cases none : query.sorts.isEmpty
  · rw [if_pos none, List.isEmpty_iff.mp none]
    exact Writing.ensures_pure nofun
  · rw [if_neg none]
    refine (Writing.Ensures.forall_mapM fun sort _ =>
      sort.expr.ensures_complete.bind fun _ complete =>
        Writing.ensures_pure complete).bind fun _ sorts => Writing.ensures_pure sorts

theorem ensures_ordered (query : Query) :
    (query.writeTail d).Ensures fun _ => ∀ e ∈ query.ordered, e.Complete := by
  cases command : query.command with
  | select =>
      simp only [writeTail, ordered, command]
      exact query.ensures_sorts.bind fun _ sorts =>
        Writing.ensures_pure (List.forall_mem_map.mpr sorts)
  | delete =>
      rw [writeTail, ordered, command]
      exact Writing.ensures_pure nofun
  | upsert =>
      rw [writeTail, ordered, command]
      exact Writing.ensures_pure nofun

/-- Only selections and deletions of complete expressions are written. -/
theorem ensures_complete (query : Query) : (query.write d).Ensures fun _ => query.Complete := by
  refine query.ensures_projected.bind fun _ head => ?_
  refine query.ensures_filters.bind fun _ filters => ?_
  refine query.ensures_ordered.bind fun _ ordered => Writing.ensures_pure ?_
  exact ⟨head.1, head.2, filters, ordered⟩

theorem Complete.draft_eq (complete : query.Complete) :
    query.draft d = .ok ⟨query.pieces d, query.literals⟩ := by
  rw [draft, complete.gives_write.run_eq]

theorem complete_of_draft {made : Draft} (drafted : query.draft d = .ok made) :
    query.Complete := by
  unfold draft at drafted
  cases ran : (query.write d).run with
  | mk outcome params =>
      rw [ran] at drafted
      cases outcome with
      | error e => cases drafted
      | ok pieces => exact (query.ensures_complete).of_run ran

/-- Exactly the selections and deletions of complete expressions have a draft. -/
theorem draft_eq_ok_iff {made : Draft} :
    query.draft d = .ok made ↔ query.Complete ∧ made = ⟨query.pieces d, query.literals⟩ := by
  constructor
  · intro drafted
    have complete := complete_of_draft drafted
    rw [complete.draft_eq] at drafted
    cases drafted
    exact ⟨complete, rfl⟩
  · rintro ⟨complete, rfl⟩
    exact complete.draft_eq

end Query

end Polyquery
