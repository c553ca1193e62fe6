import Polyquery.Cluster.Basic
import Polyquery.Proofs.Json.Quote
import Polyquery.Proofs.Result
import Polyquery.Proofs.Session
import Polyquery.Proofs.Table.Key

/-!
# Upserts through an envelope

The envelope of a query names the index, the table, its keys and its columns, but
not the delimiter of composite ids.  A cluster that runs the envelope of an upsert
joins ids with the standard delimiter, so what it sends is what the upsert itself
sends only where the delimiter of the table is not seen or is the standard one.
-/

namespace Polyquery

open Http (Link Method Payload Request)

namespace Http.Link

/-- What is sent to a server that can be reached is written down. -/
theorem run_exchange {request : Request} {link : Link} (sends : canSend request.url = true)
    (reachable : link.reachable = true) :
    (exchange request).run link = (.ok (link.replies.headD Reply.plain),
      { link with replies := link.replies.tail, sent := link.sent ++ [request] }) := by
  simp only [exchange, Session.run_bind, Session.run_get, sends, reachable, Bool.not_true,
    Bool.false_eq_true, if_false, Session.run_pure, Session.run_set]

@[simp]
theorem canSend_withParameters (url : Url) (parameters : List (String × String)) :
    canSend (url.withParameters parameters) = canSend url := by
  simp only [Url.withParameters]
  split <;> rfl

end Http.Link

namespace Cluster

variable {cluster : Cluster} {table other : Table} {rows : List Row} {link : Link}

@[simp]
theorem canSend_endpoint (cluster : Cluster) (segments : List String) :
    Link.canSend (cluster.endpoint segments) = Link.canSend cluster.url := by
  simp only [endpoint, Url.below]
  split <;> rfl

/-! ## What an upsert reads of a table

The index, the name and the ids of the rows decide every request. -/

theorem actionLine_congr (sameName : table.name = other.name)
    (sameIndex : table.database = other.database) (action : Action) (id : Option String) :
    actionLine table action id = actionLine other action id := by
  simp only [actionLine, missingKey, sameName, sameIndex]

theorem bulkBody_congr (sameName : table.name = other.name)
    (sameIndex : table.database = other.database) (action : Action)
    (sameIds : ∀ row ∈ rows, table.documentId? row = other.documentId? row) :
    bulkBody table action rows = bulkBody other action rows := by
  simp only [bulkBody]
  rw [mapM_congr_of_mem fun row mem => by
    rw [sameIds row mem, actionLine_congr sameName sameIndex]]

theorem writeOne_congr (sameName : table.name = other.name)
    (sameIndex : table.database = other.database) (action : Action) {row : Row}
    (sameId : table.documentId? row = other.documentId? row) :
    cluster.writeOne table action row = cluster.writeOne other action row := by
  simp only [writeOne, missingKey, sameName, sameIndex, sameId]

/-- Tables that give the rows the same ids in the same index are written alike. -/
theorem write_congr (sameName : table.name = other.name)
    (sameIndex : table.database = other.database) (action : Action)
    (sameIds : ∀ row ∈ rows, table.documentId? row = other.documentId? row) :
    cluster.write table action rows = cluster.write other action rows := by
  simp only [write]
  rw [bulkBody_congr sameName sameIndex action sameIds,
    mapM_congr_of_mem fun row mem => writeOne_congr sameName sameIndex action (sameIds row mem)]

theorem assignedIds_congr (sameKeys : table.primaryKeys = other.primaryKeys) (rows : List Row)
    (ids : List Json) : assignedIds table rows ids = assignedIds other rows ids := by
  simp only [assignedIds, sameKeys]

theorem assignKeys_congr (sameKeys : table.primaryKeys = other.primaryKeys) (rows : List Row)
    (ids : List Json) : table.assignKeys rows ids = other.assignKeys rows ids := by
  simp only [Table.assignKeys, Table.singleKey?, sameKeys]

theorem upsert_congr (sameName : table.name = other.name)
    (sameIndex : table.database = other.database) (sameKeys : table.primaryKeys = other.primaryKeys)
    (sameIds : ∀ row ∈ rows, table.documentId? row = other.documentId? row) :
    cluster.upsert table rows = cluster.upsert other rows := by
  simp only [upsert, write_congr sameName sameIndex .index sameIds, assignedIds_congr sameKeys,
    assignKeys_congr sameKeys]

/-! ## What an upsert sends -/

theorem sent_send {method : Method} {url : Url} {payload : Option Payload}
    (sends : Link.canSend url = true) (reachable : link.reachable = true) :
    ((send method url payload).run link).2.sent = link.sent ++ [⟨method, url, payload⟩] := by
  rw [send, Session.state_bind, Link.run_exchange sends reachable]
  intro reply after
  cases success : reply.isSuccess with
  | false => rfl
  | true =>
      simp only [Bool.not_true, Bool.false_eq_true, if_false]
      split
      · rfl
      · split <;> rfl

/-- A row with an id travels alone under its id. -/
theorem sent_upsert_singleton {row : Row} {id : String} (sends : Link.canSend cluster.url = true)
    (reachable : link.reachable = true) (keyed : table.documentId? row = some id) :
    ((cluster.upsert table [row]).run link).2.sent = link.sent ++
      [⟨.put, cluster.endpoint [table.database, "_doc", id], some (.json (.obj row))⟩] := by
  have alone : [row].length ≤ singleWrites := by simp [singleWrites]
  simp only [upsert, write, alone, if_true, List.mapM_cons, List.mapM_nil, writeOne, keyed,
    pure_bind, bind_assoc]
  rw [Session.state_bind, sent_send (by simpa using sends) reachable]
  intro reply after
  rfl

/-- The request that carries lines. -/
def bulkRequest (cluster : Cluster) (body : String) : Request :=
  ⟨.post, (cluster.endpoint ["_bulk"]).withParameters [], some (.lines body)⟩

theorem sent_bulk {body : String} (sends : Link.canSend cluster.url = true)
    (reachable : link.reachable = true) :
    ((cluster.bulk body false).run link).2.sent = link.sent ++ [cluster.bulkRequest body] := by
  simp only [bulk]
  rw [Session.state_bind]
  · exact sent_send (by simpa using sends) reachable
  · intro reply after
    split <;> rfl

/-- More rows than are written one by one travel in one request, whatever the
server replies. -/
theorem sent_upsert {body : String} (sends : Link.canSend cluster.url = true)
    (reachable : link.reachable = true) (many : singleWrites < rows.length)
    (lines : bulkBody table .index rows = .ok body) :
    ((cluster.upsert table rows).run link).2.sent = link.sent ++ [cluster.bulkRequest body] := by
  have split : ¬ rows.length ≤ singleWrites := Nat.not_le.2 many
  simp only [upsert, write, split, if_false, lines, Session.ofResult_ok, pure_bind, bind_assoc]
  rw [Session.state_bind, sent_bulk sends reachable]
  intro reply after
  rfl

/-! ## Ids in the lines -/

/-- The line that says where a document goes tells the id. -/
theorem actionLine_inj {name index id id' rest rest' : String}
    (same : line (.obj [(name, .obj [("_id", .str id), ("_index", .str index)])]) ++ rest =
      line (.obj [(name, .obj [("_id", .str id'), ("_index", .str index)])]) ++ rest') :
    id = id' := by
  simp only [line, Json.compact, Json.compactFields, String.append_assoc, String.append_right_inj]
    at same
  exact (Json.quote_append_inj same).1

theorem bulkBody_cons (table : Table) (action : Action) (row : Row) (rows : List Row) :
    bulkBody table action (row :: rows) = do
      let first ← actionLine table action (table.documentId? row)
      let rest ← bulkBody table action rows
      return first ++ documentLine action row ++ rest := by
  simp [bulkBody, String.join_cons]

theorem exists_bulkBody_index (table : Table) (rows : List Row) :
    ∃ body, bulkBody table .index rows = .ok body := by
  induction rows with
  | nil => exact ⟨_, rfl⟩
  | cons row rest ih =>
      obtain ⟨body, lines⟩ := ih
      obtain ⟨first, firstLine⟩ :
          ∃ first, actionLine table .index (table.documentId? row) = .ok first := by
        cases table.documentId? row <;> exact ⟨_, rfl⟩
      rw [bulkBody_cons, lines, firstLine]
      exact ⟨_, rfl⟩

/-- Lines of the same text give the first document the same id. -/
theorem id_eq_of_bulkBody_cons {action : Action} {row : Row} {id id' body : String}
    (sameIndex : table.database = other.database) (keyed : table.documentId? row = some id)
    (keyed' : other.documentId? row = some id')
    (lines : bulkBody table action (row :: rows) = .ok body)
    (lines' : bulkBody other action (row :: rows) = .ok body) : id = id' := by
  rw [bulkBody_cons, keyed] at lines
  rw [bulkBody_cons, keyed', actionLine, ← sameIndex] at lines'
  obtain ⟨first, firstLine, afterFirst⟩ := Result.bind_eq_ok.1 lines
  obtain ⟨first', firstLine', afterFirst'⟩ := Result.bind_eq_ok.1 lines'
  obtain ⟨rest, -, whole⟩ := Result.bind_eq_ok.1 afterFirst
  obtain ⟨rest', -, whole'⟩ := Result.bind_eq_ok.1 afterFirst'
  have same := (Result.pure_eq_ok.1 whole).trans (Result.pure_eq_ok.1 whole').symm
  rw [← Except.ok.inj firstLine, ← Except.ok.inj firstLine', String.append_assoc,
    String.append_assoc] at same
  exact actionLine_inj same

/-- Upserts of the same runs send the same lines. -/
theorem body_eq_of_upsert_eq {body body' : String} (sends : Link.canSend cluster.url = true)
    (reachable : link.reachable = true) (many : singleWrites < rows.length)
    (lines : bulkBody table .index rows = .ok body)
    (lines' : bulkBody other .index rows = .ok body')
    (same : (cluster.upsert table rows).run link = (cluster.upsert other rows).run link) :
    body = body' := by
  have sameSent : ((cluster.upsert table rows).run link).2.sent =
      ((cluster.upsert other rows).run link).2.sent := by
    rw [same]
  rw [sent_upsert sends reachable many lines, sent_upsert sends reachable many lines'] at sameSent
  have sameRequest := List.append_cancel_left sameSent
  simpa [bulkRequest] using sameRequest

/-- Three rows with blank keys show which delimiter a table has. -/
theorem delimiter_eq_of_upsert_eq (sends : Link.canSend cluster.url = true)
    (reachable : link.reachable = true) (sameIndex : table.database = other.database)
    (sameKeys : table.primaryKeys = other.primaryKeys) (several : 2 ≤ table.primaryKeys.length)
    (same : (cluster.upsert table (List.replicate 3 table.blankRow)).run link =
      (cluster.upsert other (List.replicate 3 table.blankRow)).run link) :
    table.delimiter = other.delimiter := by
  have many : singleWrites < (List.replicate 3 table.blankRow).length := by simp [singleWrites]
  obtain ⟨body, lines⟩ := exists_bulkBody_index table (List.replicate 3 table.blankRow)
  obtain ⟨body', lines'⟩ := exists_bulkBody_index other (List.replicate 3 table.blankRow)
  have sameBody := body_eq_of_upsert_eq sends reachable many lines lines' same
  subst sameBody
  have blank : other.blankRow = table.blankRow := by rw [Table.blankRow, Table.blankRow, sameKeys]
  obtain ⟨id, idOf⟩ := table.exists_documentId?_blankRow (Nat.zero_lt_of_lt several)
  obtain ⟨id', idOf'⟩ := other.exists_documentId?_blankRow (sameKeys ▸ Nat.zero_lt_of_lt several)
  rw [blank] at idOf'
  have sameId : id = id' := id_eq_of_bulkBody_cons sameIndex idOf idOf' lines lines'
  apply Table.delimiter_eq_of_documentId?_blankRow sameKeys several
  rw [idOf, idOf', sameId]

/-! ## The envelope of an upsert -/

/-- A cluster on this machine. -/
def localCluster : Cluster where
  url := {
    scheme := "http".toList
    user := []
    password := []
    host := some (.name "localhost".toList)
    port := some 9200
    path := .segments [[]]
    query := none
    fragment := none }

/-- The envelope of the upsert of rows into a table. -/
def upsertEnvelope (table : Table) (rows : List Row) : Search.Envelope where
  index := table.database
  table := table.name
  primaryKeys := table.primaryKeys
  fields := table.columns
  command := .upsert
  params := rows.map .row

theorem ofQuery_upsert (table : Table) (rows : List Row) :
    Search.Envelope.ofQuery ((Query.ofTable table).upsert rows) =
      .ok (upsertEnvelope table rows) :=
  rfl

theorem rows_upsertEnvelope (table : Table) (rows : List Row) :
    Cluster.rows (upsertEnvelope table rows) = .ok rows := by
  simp only [Cluster.rows, upsertEnvelope]
  induction rows with
  | nil => rfl
  | cons row rest ih =>
      rw [List.map_cons, List.mapM_cons, ih]
      rfl

/-- Running the envelope is an upsert into the table that the envelope tells. -/
theorem execute_upsertEnvelope (cluster : Cluster) (table : Table) (rows : List Row) :
    cluster.database.execute (.elastic [upsertEnvelope table rows]) none =
      cluster.upsert (Cluster.table (upsertEnvelope table rows)) rows := by
  have runs : cluster.execute (upsertEnvelope table rows) =
      cluster.upsert (Cluster.table (upsertEnvelope table rows)) rows := by
    change Session.ofResult (Cluster.rows (upsertEnvelope table rows)) >>= _ = _
    rw [rows_upsertEnvelope, Session.ofResult_ok, pure_bind]
  simp only [database, Database.rejectHandle, pure_bind, List.mapM_cons, List.mapM_nil, bind_assoc,
    runs]
  simp

theorem upsert_database (cluster : Cluster) (table : Table) (rows : List Row) :
    cluster.database.upsert table rows none = cluster.upsert table rows := by
  simp only [database, Database.rejectHandle, pure_bind]

/-- The envelope keeps every row that has at most one key part, and every row of a
table with the standard delimiter, at its id. -/
theorem execute_upsertEnvelope_eq (cluster : Cluster)
    (unseen : (∀ row ∈ rows, (table.keyParts row).length ≤ 1) ∨
      table.delimiter = Table.defaultDelimiter) :
    cluster.database.execute (.elastic [upsertEnvelope table rows]) none =
      cluster.database.upsert table rows none := by
  rw [execute_upsertEnvelope, upsert_database]
  symm
  apply upsert_congr
  · rfl
  · rfl
  · rfl
  · intro row mem
    apply Table.documentId?_congr
    · rfl
    · exact unseen.imp_left fun few => few row mem

/-- Running the envelope of an upsert sends what the upsert sends, and gives what it
gives, exactly if the table has at most one key or the standard delimiter. -/
theorem execute_upsert_envelope_iff (table : Table) :
    (∀ (cluster : Cluster) (rows : List Row), ∃ envelope,
      Search.Envelope.ofQuery ((Query.ofTable table).upsert rows) = .ok envelope ∧
      ∀ link : Link, (cluster.database.execute (.elastic [envelope]) none).run link =
        (cluster.database.upsert table rows none).run link) ↔
    table.primaryKeys.length ≤ 1 ∨ table.delimiter = Table.defaultDelimiter := by
  constructor
  · intro agrees
    by_cases few : table.primaryKeys.length ≤ 1
    · exact .inl few
    · right
      obtain ⟨envelope, generated, sameRuns⟩ :=
        agrees localCluster (List.replicate 3 table.blankRow)
      rw [ofQuery_upsert] at generated
      have told := Except.ok.inj generated
      subst told
      have same := sameRuns ⟨true, [], []⟩
      rw [execute_upsertEnvelope, upsert_database] at same
      have sends : Link.canSend localCluster.url = true := by decide
      apply delimiter_eq_of_upsert_eq sends _ _ _ (Nat.lt_of_not_le few) same.symm
      · rfl
      · rfl
      · rfl
  · intro unseen cluster rows
    have unseenIn : (∀ row ∈ rows, (table.keyParts row).length ≤ 1) ∨
        table.delimiter = Table.defaultDelimiter :=
      unseen.imp_left fun few row _ => Nat.le_trans (table.length_keyParts_le row) few
    exact ⟨upsertEnvelope table rows, ofQuery_upsert table rows,
      fun link => by rw [execute_upsertEnvelope_eq cluster unseenIn]⟩

/-- The castings of films, by film and role. -/
def castings : Table :=
  ((Table.ofColumns "castings" ["film", "role"] ["actor"]).withDatabase "cinema").withDelimiter "_"

/-- A casting. -/
def casting : Row :=
  [("actor", .str "Tippi Hedren"), ("film", .str "Marnie"), ("role", .str "Marnie")]

/-- The casting is stored under another path when the envelope is run. -/
theorem execute_upsert_envelope_casting :
    ∃ envelope, Search.Envelope.ofQuery ((Query.ofTable castings).upsert [casting]) =
        .ok envelope ∧
      ((localCluster.database.execute (.elastic [envelope]) none).run ⟨true, [], []⟩).2.sent.map
        (fun request => request.url.target) = ["/cinema/_doc/Marnie-Marnie"] ∧
      ((localCluster.database.upsert castings [casting] none).run ⟨true, [], []⟩).2.sent.map
        (fun request => request.url.target) = ["/cinema/_doc/Marnie_Marnie"] := by
  have sends : Link.canSend localCluster.url = true := by decide
  have toldId : (Cluster.table (upsertEnvelope castings [casting])).documentId? casting =
      some "Marnie-Marnie" := by decide
  have ownId : castings.documentId? casting = some "Marnie_Marnie" := by decide
  refine ⟨upsertEnvelope castings [casting], rfl, ?_, ?_⟩
  · rw [execute_upsertEnvelope, sent_upsert_singleton sends rfl toldId]
    decide
  · rw [upsert_database, sent_upsert_singleton sends rfl ownId]
    decide

end Cluster

end Polyquery
