import Polyquery.Proofs.Cluster.Operation

/-!
# Writes in one request and one by one

A few rows are written one by one, larger numbers in one request.  Both ways ask for the
same operations: what is read off the lines of the one request is what is read off the
calls, whatever stands in the rows.
-/

namespace Polyquery.Cluster

open Http (Link Method Payload)

variable {cluster : Cluster} {table : Table} {action : Action} {row : Row} {rows : List Row}
  {link after : Link}

/-! ## What is asked for -/

/-- The operation that writes a row. -/
def Operation.ofRow (table : Table) (action : Action) (row : Row) : Operation where
  action := action
  index := table.database
  id := table.documentId? row
  source :=
    match action with
    | .index => some (.obj row)
    | .update => some (.obj [("doc", .obj row), ("doc_as_upsert", .bool true)])
    | .delete => none

/-- Every row can be addressed: it has an id, or it is a new document. -/
def Addressed (table : Table) (action : Action) (rows : List Row) : Prop :=
  action = .index ∨ ∀ row ∈ rows, table.documentId? row ≠ none

theorem Addressed.of_mem (addressed : Addressed table action rows) (mem : row ∈ rows)
    (lacks : table.documentId? row = none) : action = .index :=
  addressed.resolve_right fun keyed => keyed row mem lacks

theorem wellFormed_changes (wellFormed : Json.WellFormed (.obj row)) :
    Json.WellFormed (.obj [("doc", .obj row), ("doc_as_upsert", .bool true)]) := by
  have inOrder : "doc" < "doc_as_upsert" := by decide
  have sorted : Fields.Sorted [("doc", Json.obj row), ("doc_as_upsert", .bool true)] :=
    List.pairwise_pair.mpr inOrder
  exact ⟨sorted, wellFormed, trivial, trivial⟩

theorem expressible_ofRow (addressed : table.documentId? row = none → action = .index)
    (wellFormed : Json.WellFormed (.obj row)) :
    (Operation.ofRow table action row).Expressible where
  addressed := addressed
  sourced := by cases action <;> simp [Operation.ofRow]
  wellFormed := by
    cases action with
    | index => simpa [Operation.ofRow] using wellFormed
    | update => simpa [Operation.ofRow] using wellFormed_changes wellFormed
    | delete => simp [Operation.ofRow]

/-! ## One request -/

theorem actionLine_eq_ok (addressed : table.documentId? row = none → action = .index) :
    actionLine table action (table.documentId? row) =
      .ok (line (Operation.ofRow table action row).head) := by
  cases known : table.documentId? row with
  | none =>
      obtain rfl : action = .index := addressed known
      simp [actionLine, Operation.head, Operation.ofRow, known]
  | some id => simp [actionLine, Operation.head, Operation.ofRow, known]

theorem documentLine_eq (table : Table) (action : Action) (row : Row) :
    documentLine action row =
      String.join ((Operation.ofRow table action row).source.toList.map line) := by
  cases action <;> simp [documentLine, Operation.ofRow, changes, String.join_cons]

/-- Rows that can be addressed are written as the lines of their operations. -/
theorem bulkBody_eq_ok (addressed : Addressed table action rows) :
    bulkBody table action rows =
      .ok (String.join (rows.map fun row => (Operation.ofRow table action row).text)) := by
  have each (row) (mem : row ∈ rows) :
      (do return (← actionLine table action (table.documentId? row)) ++ documentLine action row) =
        (.ok (Operation.ofRow table action row).text : Result String) := by
    rw [actionLine_eq_ok (addressed.of_mem mem), documentLine_eq table, Operation.text,
      Operation.parts, List.map_cons, String.join_cons]
    rfl
  rw [bulkBody, Result.mapM_eq_ok each]
  rfl

/-- A row that cannot be addressed is refused. -/
theorem bulkBody_eq_error (unaddressed : ¬ Addressed table action rows) :
    bulkBody table action rows = .error (missingKey table action) := by
  obtain ⟨noIndex, row, mem, lacks⟩ :
      action ≠ .index ∧ ∃ row ∈ rows, table.documentId? row = none := by
    simpa [Addressed] using unaddressed
  rw [bulkBody, @Result.mapM_eq_error _ _ _ (missingKey table action) _ row _ mem]
  · rfl
  · simp [actionLine, lacks]
  · intro other _ failure failed
    cases known : table.documentId? other with
    | none => simpa [actionLine, known, noIndex] using failed.symm
    | some id => simp [actionLine, known] at failed

/-! ## One request for each row -/

/-- The operation that a call asks for. -/
def Call.operation? (call : Call) : Option Operation :=
  match call.method, call.segments, call.payload.map fun payload => Json.exactly? payload.text with
  | .put, [index, "_doc", id], some (some document) => some ⟨.index, index, some id, document⟩
  | .post, [index, "_doc"], some (some document) => some ⟨.index, index, none, document⟩
  | .post, [index, "_update", id], some (some change) => some ⟨.update, index, some id, change⟩
  | .delete, [index, "_doc", id], none => some ⟨.delete, index, some id, none⟩
  | _, _, _ => none

/-- The call for a row asks for the operation of the row. -/
theorem exists_call_ofRow (addressed : table.documentId? row = none → action = .index)
    (wellFormed : Json.WellFormed (.obj row)) :
    ∃ call, Call.ofRow? table action row = some call ∧
      call.operation? = some (Operation.ofRow table action row) := by
  have document := Json.exactly?_compact wellFormed
  have change := Json.exactly?_compact (wellFormed_changes wellFormed)
  cases known : table.documentId? row with
  | none =>
      obtain rfl : action = .index := addressed known
      refine ⟨⟨.post, [table.database, "_doc"], some (.json (.obj row))⟩, ?_, ?_⟩
      · simp [Call.ofRow?, known]
      · simp [Call.operation?, Http.Payload.text, document, Operation.ofRow, known]
  | some id =>
      cases action <;>
        simp [Call.ofRow?, known, Call.operation?, Http.Payload.text, document, change, changes,
          Operation.ofRow]

theorem sent_of_run_send {method : Method} {url : Url} {payload : Option Payload} {value : Json}
    (ran : (send method url payload).run link = (.ok value, after)) :
    after.sent = link.sent ++ [⟨method, url, payload⟩] := by
  by_cases sends : Link.canSend url = true
  · by_cases reachable : link.reachable = true
    · have sent := @sent_send link method url payload sends reachable
      rwa [ran] at sent
    · simp [send, Link.exchange, Session.run_bind, sends, reachable] at ran
  · simp [send, Link.exchange, Session.run_bind, sends] at ran

/-- A row that is written alone is sent by its call. -/
theorem exists_call_of_run_writeOne {id : Json}
    (ran : (cluster.writeOne table action row).run link = (.ok id, after)) :
    ∃ call, Call.ofRow? table action row = some call ∧
      after.sent = link.sent ++ [call.request cluster] := by
  rw [writeOne_eq] at ran
  cases called : Call.ofRow? table action row with
  | none => simp [called] at ran
  | some call =>
      simp only [called, map_eq_pure_bind, Session.run_bind_eq_ok] at ran
      obtain ⟨value, middle, sent, ended⟩ := ran
      cases ended
      exact ⟨call, rfl, sent_of_run_send sent⟩

/-- Rows that are written one by one are sent by their calls. -/
theorem sent_of_run_mapM {ids : List Json}
    (ran : (rows.mapM (cluster.writeOne table action)).run link = (.ok ids, after)) :
    after.sent = link.sent ++
      (rows.filterMap (Call.ofRow? table action)).map (Call.request cluster) := by
  induction rows generalizing link ids with
  | nil =>
      cases ran
      simp
  | cons row rest ih =>
      obtain ⟨id, others, middle, ranRow, ranRest, -⟩ := Session.run_mapM_cons_eq_ok.mp ran
      obtain ⟨call, called, sent⟩ := exists_call_of_run_writeOne ranRow
      rw [ih ranRest, sent, List.filterMap_cons_some called]
      simp

/-- Rows that can be addressed are written one by one if every request succeeds. -/
theorem exists_run_mapM (sends : Link.canSend cluster.url = true) (reachable : link.reachable = true)
    (succeeds : ∀ reply ∈ link.replies.take rows.length, Succeeds reply)
    (addressed : Addressed table action rows) :
    ∃ ids after, (rows.mapM (cluster.writeOne table action)).run link = (.ok ids, after) := by
  induction rows generalizing link with
  | nil => exact ⟨[], link, rfl⟩
  | cons row rest ih =>
      have addressedRest : Addressed table action rest :=
        addressed.imp_right fun keyed => (List.forall_mem_cons.mp keyed).2
      obtain ⟨call, called⟩ : ∃ call, Call.ofRow? table action row = some call := by
        rw [← Option.ne_none_iff_exists', Ne, Call.ofRow?_eq_none_iff]
        rintro ⟨noIndex, lacks⟩
        exact noIndex (addressed.of_mem List.mem_cons_self lacks)
      obtain ⟨replied, succeedsRest⟩ : Succeeds (link.replies.headD Http.Reply.plain) ∧
          ∀ reply ∈ link.replies.tail.take rest.length, Succeeds reply := by
        cases replies : link.replies with
        | nil => exact ⟨succeeds_plain, by simp⟩
        | cons reply others =>
            rw [replies] at succeeds
            exact List.forall_mem_cons.mp succeeds
      obtain ⟨success, readable⟩ := replied
      obtain ⟨value, read⟩ := Option.ne_none_iff_exists'.mp readable
      obtain ⟨ids, after, ran⟩ := @ih { link with
          replies := link.replies.tail
          sent := link.sent ++ [call.request cluster] } reachable succeedsRest addressedRest
      refine ⟨value.field "_id" :: ids, after, Session.run_mapM_cons_eq_ok.mpr
        ⟨value.field "_id", ids, _, ?_, ran, rfl⟩⟩
      rw [writeOne_eq, called, Session.run_map,
        call.run_send sends reachable rfl success read]
      rfl

/-- The calls for rows ask for the operations of the rows. -/
theorem mapM_operation?_calls (addressed : Addressed table action rows)
    (wellFormed : ∀ row ∈ rows, Json.WellFormed (.obj row)) :
    (rows.filterMap (Call.ofRow? table action)).mapM Call.operation? =
      some (rows.map (Operation.ofRow table action)) := by
  have each (row) (mem : row ∈ rows) :=
    exists_call_ofRow (addressed.of_mem mem) (wellFormed row mem)
  clear addressed wellFormed
  induction rows with
  | nil => rfl
  | cons row rest ih =>
      obtain ⟨⟨call, called, asks⟩, others⟩ := List.forall_mem_cons.mp each
      rw [List.filterMap_cons_some called, List.mapM_cons, asks, ih others]
      rfl

/-! ## Both ways -/

/-- Rows that can be addressed are written by one request whose lines, read back, ask for one
operation for each row in order.  Written one by one, if every request succeeds, they are
sent by calls that ask for the same operations.  Rows that cannot be addressed are refused. -/
theorem operations_of_bulkBody (table : Table) (action : Action) {rows : List Row}
    (wellFormed : ∀ row ∈ rows, Json.WellFormed (.obj row)) :
    (Addressed table action rows → ∃ body, ∃ calls : List Call,
      bulkBody table action rows = .ok body ∧
      Operation.ofBody? body = some (rows.map (Operation.ofRow table action)) ∧
      calls.mapM Call.operation? = some (rows.map (Operation.ofRow table action)) ∧
      ∀ (cluster : Cluster) (link : Link), Link.canSend cluster.url = true →
        link.reachable = true → (∀ reply ∈ link.replies.take rows.length, Succeeds reply) →
          ∃ ids after, (rows.mapM (cluster.writeOne table action)).run link = (.ok ids, after) ∧
            after.sent = link.sent ++ calls.map (Call.request cluster)) ∧
    (¬ Addressed table action rows →
      bulkBody table action rows = .error (missingKey table action)) := by
  constructor
  · intro addressed
    have expressible : ∀ operation ∈ rows.map (Operation.ofRow table action),
        operation.Expressible := by
      rw [List.forall_mem_map]
      exact fun row mem => expressible_ofRow (addressed.of_mem mem) (wellFormed row mem)
    refine ⟨_, rows.filterMap (Call.ofRow? table action), bulkBody_eq_ok addressed, ?_,
      mapM_operation?_calls addressed wellFormed, ?_⟩
    · rw [← Operation.ofBody?_join expressible, List.map_map]
      rfl
    · intro cluster link sends reachable succeeds
      obtain ⟨ids, after, ran⟩ := exists_run_mapM sends reachable succeeds addressed
      exact ⟨ids, after, ran, sent_of_run_mapM ran⟩
  · exact bulkBody_eq_error

/-- The reviews of films, by film and critic. -/
def reviews : Table :=
  (Table.ofColumns "reviews" ["film", "critic"] ["text", "stars"]).withDatabase "press"

/-- Reviews with a line break, quotation marks, a control character and a fraction. -/
def reviewRows : List Row :=
  [[("critic", .str "Crowther"), ("film", .str "Vertigo"), ("text", .str "a\nline \"break\"")],
    [("film", .str "Psycho"), ("stars", .num (.float 3.5)), ("text", .str "a\x01b\\")],
    [("critic", .num (.int 7)), ("film", .str "Marnie")]]

theorem operations_of_bulkBody_reviewRows :
    (∀ row ∈ reviewRows, Json.WellFormed (.obj row)) ∧ Addressed reviews .update reviewRows ∧
    ∃ body, ∃ calls : List Call, bulkBody reviews .update reviewRows = .ok body ∧
      (Operation.ofBody? body).map (List.map Operation.id) =
        some [some "Vertigo-Crowther", some "Psycho", some "Marnie-7"] ∧
      calls.mapM Call.operation? = Operation.ofBody? body ∧
      ∃ ids after,
        (reviewRows.mapM (localCluster.writeOne reviews .update)).run ⟨true, [], []⟩ =
          (.ok ids, after) ∧
        after.sent = calls.map (Call.request localCluster) := by
  have wellFormed : ∀ row ∈ reviewRows, Json.WellFormed (.obj row) := by
    have sorted : ∀ row ∈ reviewRows, Fields.Sorted row := by
      unfold Fields.Sorted
      decide
    simp only [reviewRows, List.forall_mem_cons] at sorted ⊢
    obtain ⟨first, second, third, -⟩ := sorted
    exact ⟨⟨first, trivial, trivial, trivial, trivial⟩,
      ⟨second, trivial, trivial, trivial, trivial⟩, ⟨third, rfl, trivial, trivial⟩,
      List.forall_mem_nil _⟩
  have addressed : Addressed reviews .update reviewRows := .inr (by decide)
  obtain ⟨body, calls, written, read, asked, sent⟩ :=
    (operations_of_bulkBody reviews .update wellFormed).1 addressed
  refine ⟨wellFormed, addressed, body, calls, written, ?_, asked.trans read.symm, ?_⟩
  · rw [read]
    rfl
  · exact sent localCluster ⟨true, [], []⟩ (by decide) rfl (by simp)

end Polyquery.Cluster
