import Polyquery.Proofs.Cluster.Failure
import Polyquery.Proofs.Database.Keys
import Polyquery.Proofs.Fields
import Polyquery.Proofs.Schema

/-!
# Ids that a cluster assigns

A cluster gives an id to a document that is stored without one, and reports the ids of all
documents.  An upsert puts the reported id of its own document into every row that omits the
key.  A row with null under the key is stored without an id too, but it has an entry for the
key, and stays as it is.
-/

namespace Polyquery.Cluster

open Http (Link Reply Request)

variable {cluster : Cluster} {table : Table} {row : Row} {rows : List Row} {reply : Reply}
  {replies : List Reply} {sent : List Request} {value id : Json} {ids : List Json} {key : String}

/-! ## Reported ids -/

/-- The id that a reply reports of a document that was stored alone. -/
def reportedId? (reply : Reply) : Option Json :=
  (reply.value?.filter fun _ => reply.isSuccess).bind (Json.field? "_id")

/-- The ids that a reply to lines reports if no document is seen to fail. -/
def reportedIds? (reply : Reply) : Option (List Json) :=
  (reply.value?.filter fun value => reply.isSuccess && bulkFailure? value = none).bind fun value =>
    ((value.field? "items").bind Json.asArray?).bind fun items =>
      items.mapM fun item => (item.field? "index").bind (Json.field? "_id")

/-- Every document is stored, and its id is reported. -/
def ReportsIds (replies : List Reply) (rows : List Row) (ids : List Json) : Prop :=
  ids.length = rows.length ∧
    if rows.length ≤ singleWrites then (replies.take rows.length).mapM reportedId? = some ids
    else replies.head?.bind reportedIds? = some ids

theorem exists_call_index (table : Table) (row : Row) :
    ∃ call, Call.ofRow? table .index row = some call := by
  cases known : table.documentId? row <;> simp [Call.ofRow?, known]

/-- A document that is stored alone gives the id that is reported. -/
theorem run_writeOne_index (sends : Link.canSend cluster.url = true)
    (reported : reportedId? reply = some id) :
    ∃ request, (cluster.writeOne table .index row).run ⟨true, reply :: replies, sent⟩ =
      (.ok id, ⟨true, replies, sent ++ [request]⟩) := by
  obtain ⟨call, called⟩ := exists_call_index table row
  simp only [reportedId?, Option.bind_eq_some_iff, Option.filter_eq_some_iff] at reported
  obtain ⟨value, ⟨read, success⟩, found⟩ := reported
  have ran := @Call.run_send ⟨true, reply :: replies, sent⟩ reply value cluster call sends rfl rfl
    success read
  refine ⟨call.request cluster, ?_⟩
  rw [writeOne_eq, called, Session.run_map, ran, ← Json.field_of_field? found]
  rfl

/-- So do documents that are stored one by one. -/
theorem run_mapM_writeOne_index (sends : Link.canSend cluster.url = true)
    (count : ids.length = rows.length)
    (reported : (replies.take rows.length).mapM reportedId? = some ids) :
    ∃ after, (rows.mapM (cluster.writeOne table .index)).run ⟨true, replies, sent⟩ =
      (.ok ids, after) := by
  induction rows generalizing replies ids sent with
  | nil =>
      rw [List.eq_nil_of_length_eq_zero count]
      exact ⟨_, rfl⟩
  | cons row rest ih =>
      cases replies with
      | nil =>
          rw [List.take_nil, List.mapM_nil] at reported
          cases reported
          cases count
      | cons reply others =>
          simp only [List.length_cons, List.take_succ_cons, List.mapM_cons, Option.bind_eq_bind,
            Option.bind_eq_some_iff, Option.pure_def, Option.some.injEq] at reported
          obtain ⟨id, first, idsRest, reportedRest, rfl⟩ := reported
          obtain ⟨request, ran⟩ := @run_writeOne_index cluster table row reply others sent id sends
            first
          obtain ⟨after, ranRest⟩ := @ih others (sent ++ [request]) idsRest (Nat.succ.inj count)
            reportedRest
          exact ⟨after, Session.run_mapM_cons_eq_ok.mpr ⟨id, idsRest, _, ran, ranRest, rfl⟩⟩

/-- The ids of the items of a reply are those that it reports. -/
theorem bulkIds_eq {items : List Json} (listed : value.field? "items" = some (.arr items))
    (reported : items.mapM (fun item => (item.field? "index").bind (Json.field? "_id")) =
      some ids) : bulkIds .index value = ids := by
  rw [bulkIds, Json.field_of_field? listed, Json.asArray?, Option.getD_some]
  clear listed
  induction items generalizing ids with
  | nil =>
      cases reported
      rfl
  | cons item rest ih =>
      simp only [List.mapM_cons, Option.bind_eq_bind, Option.bind_eq_some_iff, Option.pure_def,
        Option.some.injEq] at reported
      obtain ⟨id, ⟨outcome, told, found⟩, others, reportedRest, rfl⟩ := reported
      rw [List.map_cons, ih reportedRest]
      change ((item.field "index").field "_id") :: _ = _
      rw [Json.field_of_field? told, Json.field_of_field? found]

/-- If the ids of all documents are reported, these are what a write gives. -/
theorem run_write_index (sends : Link.canSend cluster.url = true)
    (reports : ReportsIds replies rows ids) :
    ∃ after, (cluster.write table .index rows).run ⟨true, replies, sent⟩ = (.ok ids, after) := by
  obtain ⟨count, reported⟩ := reports
  by_cases few : rows.length ≤ singleWrites
  · rw [if_pos few] at reported
    rw [write, if_pos few]
    exact run_mapM_writeOne_index sends count reported
  · rw [if_neg few] at reported
    simp only [reportedIds?, Option.bind_eq_some_iff, Option.filter_eq_some_iff, Bool.and_eq_true,
      decide_eq_true_eq, Json.asArray?_eq_some_iff, List.head?_eq_some_iff] at reported
    obtain ⟨reply, ⟨others, rfl⟩, value, ⟨read, success, unfailed⟩, items, ⟨_, listed, rfl⟩,
      told⟩ := reported
    obtain ⟨body, lines⟩ := exists_bulkBody_index table rows
    have ran := @run_bulk_of_read cluster reply others sent value body false sends success read
    rw [unfailed] at ran
    refine ⟨⟨true, others, sent ++ [cluster.linesRequest body false]⟩, ?_⟩
    rw [write, if_neg few, lines, Session.ofResult_ok, pure_bind, bind_pure_comp, Session.run_map,
      ran, ← bulkIds_eq listed told]
    rfl

/-! ## Assigned ids -/

/-- A row with an id under the key, unless it has an entry there. -/
def withKey (key : String) (row : Row) (id : Json) : Row :=
  if Fields.has key row then row else Fields.set key id row

/-- Of the ids of all documents those of the rows that omit the key are kept, and they reach
their own rows. -/
theorem fill_omitted (count : ids.length = rows.length) :
    Table.assignKeys.fill key rows
        (((rows.zip ids).filter fun entry => !Fields.has key entry.1).map Prod.snd) =
      List.zipWith (withKey key) rows ids := by
  induction rows generalizing ids with
  | nil => rfl
  | cons row rest ih =>
      obtain ⟨id, others, rfl⟩ := List.exists_cons_of_length_eq_add_one count
      have assigned := ih (Nat.succ.inj count)
      rw [List.zip_cons_cons, List.zipWith_cons_cons]
      cases carries : Fields.has key row with
      | true =>
          have kept := @Table.assignKeys.fill_append_of_has key [row] rest
            (((rest.zip others).filter fun entry => !Fields.has key entry.1).map Prod.snd)
            (by simpa using carries)
          rw [assigned] at kept
          simpa [carries, withKey] using kept
      | false =>
          simp [carries, withKey, Table.assignKeys.fill, assigned]

theorem run_upsert (sends : Link.canSend cluster.url = true) (single : table.primaryKeys = [key])
    (reports : ReportsIds replies rows ids) :
    ∃ after, (cluster.database.upsert table rows none).run ⟨true, replies, sent⟩ =
      (.ok (List.zipWith (withKey key) rows ids), after) := by
  obtain ⟨after, ran⟩ := @run_write_index cluster table rows replies sent ids sends reports
  refine ⟨after, ?_⟩
  have assigned : table.assignKeys rows (assignedIds table rows ids) =
      List.zipWith (withKey key) rows ids := by
    simp only [Table.assignKeys, Table.singleKey?_eq_some.mpr single, assignedIds, single]
    exact fill_omitted reports.1
  rw [upsert_database, upsert, bind_pure_comp, Session.run_map, ran, ← assigned]
  rfl

/-! ## Rows without an id -/

/-- A row is stored without an id if it omits the key, and also if it has null there. -/
theorem documentId?_eq_none_iff (single : table.primaryKeys = [key]) :
    table.documentId? row = none ↔
      Fields.find? key row = none ∨ Fields.find? key row = some .null := by
  simp only [Table.documentId?, Table.keyParts, single, List.filterMap_cons, List.filterMap_nil]
  rcases found : Fields.find? key row with _ | value
  · simp
  · cases value <;> simp

theorem withKey_of_find?_eq_none (omits : Fields.find? key row = none) :
    withKey key row id = Fields.set key id row := by
  simp [withKey, Fields.has, omits]

theorem withKey_of_find?_ne_none (carries : Fields.find? key row ≠ none) :
    withKey key row id = row := by
  simp [withKey, Fields.has, Option.isSome_iff_ne_none.mpr carries]

/-- If every document is stored and its id is reported, an upsert into a table with a single
key gives the rows in order.  A row that omits the key has the id of its own document there,
and its other fields are the same.  Every other row is the same, null under the key or not,
although a row with null there is stored without an id too. -/
theorem upsert_assigns_omitted (sends : Link.canSend cluster.url = true)
    (single : table.primaryKeys = [key]) (reports : ReportsIds replies rows ids) :
    ∃ stored after,
      (cluster.database.upsert table rows none).run ⟨true, replies, sent⟩ = (.ok stored, after) ∧
      stored.length = rows.length ∧
      ∀ (i : Nat) (row row' : Row), rows[i]? = some row → stored[i]? = some row' →
        (table.documentId? row = none ↔
          Fields.find? key row = none ∨ Fields.find? key row = some .null) ∧
        (Fields.find? key row = none →
          (∃ id, ids[i]? = some id ∧ Fields.find? key row' = some id) ∧
          ∀ other, other ≠ key → Fields.find? other row' = Fields.find? other row) ∧
        (Fields.find? key row ≠ none → row' = row) := by
  obtain ⟨after, ran⟩ := @run_upsert cluster table rows replies sent ids key sends single reports
  refine ⟨_, after, ran, by simp [reports.1], ?_⟩
  intro i row row' atRow atStored
  obtain ⟨row, id, here, atId, rfl⟩ := List.getElem?_zipWith_eq_some.mp atStored
  cases atRow.symm.trans here
  refine ⟨documentId?_eq_none_iff single, fun omits => ?_, withKey_of_find?_ne_none⟩
  rw [withKey_of_find?_eq_none omits]
  exact ⟨⟨id, atId, Fields.find?_set_self key id row⟩,
    fun other different => Fields.find?_set_of_ne id row different⟩

/-- Reported ids that are texts. -/
theorem eq_map_str {reported : Option (List Json)} {texts : List String}
    (told : reported.bind (List.mapM Json.asString?) = some texts) :
    reported = some (texts.map .str) := by
  obtain ⟨ids, rfl, read⟩ := Option.bind_eq_some_iff.mp told
  congr 1
  clear told
  induction ids generalizing texts with
  | nil =>
      cases read
      rfl
  | cons id rest ih =>
      simp only [List.mapM_cons, Option.bind_eq_bind, Option.bind_eq_some_iff, Option.pure_def,
        Option.some.injEq] at read
      obtain ⟨text, isText, others, readRest, rfl⟩ := read
      rw [List.map_cons, ← ih readRest, Schema.asString?_eq_some_iff.mp isText]

/-- A film that omits the id, one with null there, and one with an id. -/
def mixedFilms : List Row :=
  [[("title", .str "Frenzy")], [("id", .null), ("title", .str "Vertigo")], [("id", .str "psycho")]]

/-- A reply to lines that reports the ids of documents. -/
def idsReply (ids : List String) : Reply :=
  let item (id : String) : Json := .obj [("index", .obj [("_id", .str id)])]
  ⟨200, (Json.obj [("errors", .bool false), ("items", .arr (ids.map item))]).compact⟩

/-- The first film has the id that is reported for it, the others are the same. -/
theorem upsert_assigns_omitted_mixedFilms :
    Link.canSend localCluster.url = true ∧ films.primaryKeys = ["id"] ∧
    ReportsIds [idsReply ["a1", "a2", "psycho"]] mixedFilms
      (["a1", "a2", "psycho"].map .str) ∧
    ∃ stored after, (localCluster.database.upsert films mixedFilms none).run
        ⟨true, [idsReply ["a1", "a2", "psycho"]], []⟩ = (.ok stored, after) ∧
      stored.map (Fields.find? "id") = [some (.str "a1"), some .null, some (.str "psycho")] := by
  have sends : Link.canSend localCluster.url = true := by decide
  have reports : ReportsIds [idsReply ["a1", "a2", "psycho"]] mixedFilms
      (["a1", "a2", "psycho"].map .str) := by
    refine ⟨rfl, ?_⟩
    exact eq_map_str (by decide +kernel)
  obtain ⟨stored, after, ran, count, assigned⟩ :=
    @upsert_assigns_omitted localCluster films _ _ [] _ "id" sends rfl reports
  refine ⟨sends, rfl, reports, stored, after, ran, ?_⟩
  obtain ⟨first, second, third, rfl⟩ := List.length_eq_three.mp count
  obtain ⟨-, given, -⟩ := assigned 0 _ first rfl rfl
  obtain ⟨-, -, keptNull⟩ := assigned 1 _ second rfl rfl
  obtain ⟨-, -, kept⟩ := assigned 2 _ third rfl rfl
  obtain ⟨⟨id, reported, found⟩, -⟩ := given rfl
  rw [List.map_cons, List.map_cons, List.map_cons, found, ← reported, keptNull (by decide),
    kept (by decide)]
  rfl

/-- A film with null for the id. -/
def nullFilm : Row :=
  [("id", .null), ("title", .str "Vertigo")]

/-- A row with null for the key stays as it is. -/
theorem withKey_nullFilm (id : Json) : withKey "id" nullFilm id = nullFilm :=
  withKey_of_find?_ne_none (by decide)

/-- The film is stored without an id, and the id that is reported for it does not reach it,
whether it is stored alone or with others. -/
theorem upsert_keeps_nullFilm :
    films.documentId? nullFilm = none ∧
    (ReportsIds [⟨200, "\x7b\"_id\":\"a1\"\x7d"⟩] [nullFilm] (["a1"].map .str) ∧
      ∃ after, (localCluster.database.upsert films [nullFilm] none).run
        ⟨true, [⟨200, "\x7b\"_id\":\"a1\"\x7d"⟩], []⟩ = (.ok [nullFilm], after)) ∧
    (ReportsIds [idsReply ["a1", "a2", "a3"]] [nullFilm, nullFilm, nullFilm]
        (["a1", "a2", "a3"].map .str) ∧
      ∃ after, (localCluster.database.upsert films [nullFilm, nullFilm, nullFilm] none).run
        ⟨true, [idsReply ["a1", "a2", "a3"]], []⟩ = (.ok [nullFilm, nullFilm, nullFilm], after)) := by
  have sends : Link.canSend localCluster.url = true := by decide
  have alone : ReportsIds [⟨200, "\x7b\"_id\":\"a1\"\x7d"⟩] [nullFilm] (["a1"].map .str) :=
    ⟨rfl, eq_map_str (by decide +kernel)⟩
  have together : ReportsIds [idsReply ["a1", "a2", "a3"]] [nullFilm, nullFilm, nullFilm]
      (["a1", "a2", "a3"].map .str) :=
    ⟨rfl, eq_map_str (by decide +kernel)⟩
  refine ⟨by decide, ⟨alone, ?_⟩, together, ?_⟩
  · simpa [withKey_nullFilm] using @run_upsert localCluster films _ _ [] _ "id" sends rfl alone
  · simpa [withKey_nullFilm] using @run_upsert localCluster films _ _ [] _ "id" sends rfl together

end Polyquery.Cluster
