import Polyquery.Proofs.Mysql.Unwritten
import Polyquery.Proofs.Postgres.Unwritten
import Polyquery.Proofs.Sqlite.Unwritten

/-!
# Rows that cannot be written

If the upsert of some rows is generated, a row without a column of the table is found before
anything is sent.  If the rows are stored, nothing has been sent either unless such a row
comes after a first row that can be written: then the runs in front of it have been sent.
-/

namespace Polyquery.Database

open UpsertRun (EmptyLate)

/-- Storing rows sends nothing if one of them cannot be written, except where such a row
comes after a first row that can be.  Executing the upsert that is generated for the rows
sends nothing in any case. -/
theorem unsentIfUnwritten_upsert_iff (table : Table) (rows : List Row) :
    ((∀ handle, (Mysql.database.upsert table rows handle).UnsentIfUnwritten Mysql.Link.sent) ↔
      ¬ EmptyLate table rows) ∧
    ((∀ {σ : Type} (engine : Sqlite.Engine σ) (handle : Option Handle),
        (engine.database.upsert table rows handle).UnsentIfUnwritten Sqlite.Client.exchanges) ↔
      ¬ EmptyLate table rows) ∧
    ((∀ handle, (Postgres.database.upsert table rows handle).UnsentIfUnwritten
        fun link => link.server.sent) ↔ ¬ EmptyLate table rows) ∧
    (∀ handle, (Mysql.database.run ((Query.ofTable table).upsert rows) handle).UnsentIfUnwritten
      Mysql.Link.sent) ∧
    (∀ {σ : Type} (engine : Sqlite.Engine σ) (handle : Option Handle),
      (engine.database.run ((Query.ofTable table).upsert rows) handle).UnsentIfUnwritten
        Sqlite.Client.exchanges) ∧
    ∀ handle, (Postgres.database.run ((Query.ofTable table).upsert rows) handle).UnsentIfUnwritten
      fun link => link.server.sent := by
  refine ⟨⟨?_, Mysql.unsent_upsert⟩, ⟨?_, fun early _ engine => engine.unsent_upsert early⟩,
    ⟨?_, Postgres.unsent_upsert⟩, ?_, ?_, ?_⟩
  · exact fun unsent late => Mysql.sent_upsert late (unsent none)
  · exact fun unsent late => Sqlite.Engine.sent_upsert late (unsent Sqlite.Engine.telling none)
  · exact fun unsent late => Postgres.sent_upsert late (unsent none)
  · exact unsent_run Mysql.written_execute _
  · exact fun engine => unsent_run engine.written_execute _
  · exact unsent_run Postgres.written_execute _

/-- A table of films. -/
def catalogue : Table :=
  Table.ofColumns "films" ["id"] ["year"]

/-- A film with a year, and one with nothing but a note. -/
def strayRows : List Row :=
  [[("year", .nat 1964)], [("note", .str "Marnie")]]

/-- The first film is stored before the second is refused. -/
theorem sent_strayRows :
    (∃ after, (Mysql.database.upsert catalogue strayRows none).run ⟨[], false, []⟩ =
        (.error (.generation (.emptyRow "films")), after) ∧
      after.sent = [⟨"REPLACE INTO `films` (`year`) VALUES (?);", [.int 1964]⟩]) ∧
    (∃ after, (Sqlite.Engine.telling.database.upsert catalogue strayRows none).run
        ⟨"cinema", (), false, []⟩ = (.error (.generation (.emptyRow "films")), after) ∧
      after.exchanges.map (fun exchange => exchange.statement) =
        [⟨"REPLACE INTO \"films\" (\"year\") VALUES (?);", [.int 1964]⟩,
          ⟨"SELECT last_insert_rowid() AS id;", []⟩]) ∧
    ∃ after, (Postgres.database.upsert catalogue strayRows none).run
        (Postgres.Link.unconnected (.fresh [] [] none)) =
          (.error (.generation (.emptyRow "films")), after) ∧
      after.server.sent = [⟨1, none, .run
        "INSERT INTO \"films\" (\"year\") VALUES ($1) RETURNING \"id\" AS insertid;"
        [.int 1964]⟩] := by
  exact ⟨⟨_, rfl, rfl⟩, ⟨_, rfl, rfl⟩, ⟨_, rfl, rfl⟩⟩

end Polyquery.Database
