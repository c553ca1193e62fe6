import Polyquery.Proofs.Cluster.Call
import Polyquery.Proofs.Json.Reading

/-!
# Operations

A request that carries lines asks for operations on documents.  The lines are read back one
after the other: a line that says what to do, and then the line with the document, if there
is one.  A call asks for one operation, with its method, its path and its payload.
-/

namespace Polyquery.Cluster

/-! ## Lines -/

/-- The lines of a text, each ended by a line break; none if the last is not. -/
def lines? (text : String) : Option (List String) :=
  let pieces := text.toList.splitOn '\n'
  if pieces.getLast? = some [] then some (pieces.dropLast.map String.ofList) else none

/-- A text that fits on a line is split off at the line break behind it. -/
theorem splitOn_append_cons {text rest : List Char} (fits : Json.IsLine text) :
    (text ++ '\n' :: rest).splitOn '\n' = text :: rest.splitOn '\n' := by
  have noBreak : ∀ c ∈ text, (c == '\n') = false := by
    intro c mem
    have visible := fits c mem
    apply beq_false_of_ne
    rintro rfl
    exact absurd visible (by decide)
  rw [List.splitOn, List.splitOnP_append_cons text rest (by rfl),
    List.splitOnP_eq_singleton noBreak]
  rfl

variable {values : List Json}

theorem splitOn_lines (wellFormed : ∀ value ∈ values, Json.WellFormed value) :
    (String.join (values.map line)).toList.splitOn '\n' =
      values.map (fun value => value.compact.toList) ++ [[]] := by
  induction values with
  | nil => rfl
  | cons value rest ih =>
      obtain ⟨wellFormedFirst, wellFormedRest⟩ := List.forall_mem_cons.mp wellFormed
      have joined : (String.join ((value :: rest).map line)).toList =
          value.compact.toList ++ '\n' :: (String.join (rest.map line)).toList := by
        simp [String.join_cons, line]
      rw [joined, splitOn_append_cons (Json.isLine_compact wellFormedFirst), ih wellFormedRest]
      rfl

/-- The values on the lines of a text; none if a line is not JSON. -/
def lineValues? (text : String) : Option (List Json) := do
  (← lines? text).mapM Json.exactly?

theorem mapM_exactly?_compact (wellFormed : ∀ value ∈ values, Json.WellFormed value) :
    (values.map Json.compact).mapM Json.exactly? = some values := by
  induction values with
  | nil => rfl
  | cons value rest ih =>
      obtain ⟨wellFormedFirst, wellFormedRest⟩ := List.forall_mem_cons.mp wellFormed
      rw [List.map_cons, List.mapM_cons, Json.exactly?_compact wellFormedFirst, ih wellFormedRest]
      rfl

/-- Values on lines of their own are read back. -/
theorem lineValues?_join (wellFormed : ∀ value ∈ values, Json.WellFormed value) :
    lineValues? (String.join (values.map line)) = some values := by
  have split : lines? (String.join (values.map line)) = some (values.map Json.compact) := by
    rw [lines?, splitOn_lines wellFormed]
    simp
  rw [lineValues?, split]
  exact mapM_exactly?_compact wellFormed

/-! ## Operations in lines -/

/-- The action of a name. -/
def Action.ofName? (name : String) : Option Action :=
  [Action.index, .update, .delete].find? fun action => action.name == name

@[simp]
theorem Action.ofName?_name (action : Action) : Action.ofName? action.name = some action := by
  cases action <;> decide

/-- What a request asks to do with one document. -/
structure Operation where
  action : Action
  index : String
  id : Option String
  /-- The document, or the change of it. -/
  source : Option Json

namespace Operation

/-- The operation that a line begins, without its document.  Only a new document may be
without an id. -/
def ofHead? : Json → Option Operation
  | .obj [(name, .obj [("_id", .str id), ("_index", .str index)])] =>
    (Action.ofName? name).map fun action => ⟨action, index, some id, none⟩
  | .obj [("index", .obj [("_index", .str index)])] => some ⟨.index, index, none, none⟩
  | _ => none

/-- The operations that the values on lines stand for.  Only a deletion has no document. -/
def ofValues? : List Json → Option (List Operation)
  | [] => some []
  | head :: rest => do
    let begun ← ofHead? head
    if begun.action = .delete then (begun :: ·) <$> ofValues? rest
    else
      match rest with
      | source :: rest => ({ begun with source := some source } :: ·) <$> ofValues? rest
      | [] => none

/-- The operations that lines ask for. -/
def ofBody? (body : String) : Option (List Operation) := do
  ofValues? (← lineValues? body)

/-- An operation that lines can ask for. -/
structure Expressible (operation : Operation) : Prop where
  addressed : operation.id = none → operation.action = .index
  sourced : operation.source = none ↔ operation.action = .delete
  wellFormed : ∀ source ∈ operation.source, Json.WellFormed source

/-- The value on the line that begins an operation. -/
def head (operation : Operation) : Json :=
  .obj [(operation.action.name,
    .obj (operation.id.toList.map (("_id", .str ·)) ++ [("_index", .str operation.index)]))]

/-- The values on the lines of an operation. -/
def parts (operation : Operation) : List Json :=
  operation.head :: operation.source.toList

/-- The lines that ask for an operation. -/
def text (operation : Operation) : String :=
  String.join (operation.parts.map line)

variable {operation : Operation} {operations : List Operation}

theorem ofHead?_head (addressed : operation.id = none → operation.action = .index) :
    ofHead? operation.head = some { operation with source := none } := by
  obtain ⟨action, index, id, source⟩ := operation
  cases id with
  | some id => simp [head, ofHead?]
  | none =>
      obtain rfl : action = .index := addressed rfl
      simp [head, ofHead?, Action.name]

/-- The first operation is read off the first lines. -/
theorem ofValues?_append (expressible : operation.Expressible) (rest : List Json) :
    ofValues? (operation.parts ++ rest) = (operation :: ·) <$> ofValues? rest := by
  obtain ⟨addressed, sourced, -⟩ := expressible
  rw [parts, List.cons_append, ofValues?, ofHead?_head addressed]
  obtain ⟨action, index, id, source⟩ := operation
  cases source with
  | none =>
      have deletes : action = .delete := sourced.mp rfl
      simp [deletes]
  | some source =>
      have keeps : action ≠ .delete := fun deletes =>
        Option.some_ne_none source (sourced.mpr deletes)
      simp [keeps]

theorem ofValues?_flatMap (expressible : ∀ operation ∈ operations, operation.Expressible) :
    ofValues? (operations.flatMap parts) = some operations := by
  induction operations with
  | nil => rfl
  | cons operation rest ih =>
      obtain ⟨first, others⟩ := List.forall_mem_cons.mp expressible
      rw [List.flatMap_cons, ofValues?_append first, ih others]
      rfl

theorem wellFormed_head (operation : Operation) : Json.WellFormed operation.head := by
  obtain ⟨action, index, id, source⟩ := operation
  have inOrder : "_id" < "_index" := by decide
  cases id with
  | none => simp [head, Json.WellFormed, Json.WellFormedFields, Fields.Sorted]
  | some id =>
      have sorted : Fields.Sorted [("_id", Json.str id), ("_index", .str index)] :=
        List.pairwise_pair.mpr inOrder
      exact ⟨List.pairwise_singleton _ _, ⟨sorted, trivial, trivial, trivial⟩, trivial⟩

theorem wellFormed_parts (expressible : operation.Expressible) :
    ∀ value ∈ operation.parts, Json.WellFormed value := by
  rw [parts, List.forall_mem_cons]
  constructor
  · exact operation.wellFormed_head
  · intro source mem
    exact expressible.wellFormed source (Option.mem_toList.mp mem)

theorem join_text (operations : List Operation) :
    String.join (operations.map text) = String.join ((operations.flatMap parts).map line) := by
  induction operations with
  | nil => rfl
  | cons operation rest ih =>
      rw [List.map_cons, String.join_cons, ih, List.flatMap_cons, List.map_append,
        String.join_append]
      rfl

/-- The lines that ask for operations are read back, whatever stands in the documents. -/
theorem ofBody?_join (expressible : ∀ operation ∈ operations, operation.Expressible) :
    ofBody? (String.join (operations.map text)) = some operations := by
  have wellFormed : ∀ value ∈ operations.flatMap parts, Json.WellFormed value := by
    intro value mem
    obtain ⟨operation, here, mem⟩ := List.mem_flatMap.mp mem
    exact wellFormed_parts (expressible operation here) value mem
  rw [ofBody?, join_text, lineValues?_join wellFormed]
  exact ofValues?_flatMap expressible

end Operation

end Polyquery.Cluster
