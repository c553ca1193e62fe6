import Polyquery.Proofs.Mysql.Upsert
import Polyquery.Proofs.Postgres.Upsert
import Polyquery.Proofs.Sqlite.Upsert

/-!
# Storing rows and executing upserts

Rows can be stored through the action of a database for it, or through the upsert that is
generated for them.  The servers cannot tell the two apart.  The action also gives the rows
back with the keys that the server assigned, each in its own row.
-/

namespace Polyquery.Database

variable {table : Table} {rows : List Row}

/-! ## Executing upserts -/

/-- Executing the upsert of rows and storing the rows send the same statements to the same
answers, up to the first that fails.  SQLite has to tell whole numbers for the rows that it
stored last. -/
theorem upserts_alike (present : ∀ row ∈ rows, table.presentColumns row ≠ []) :
    (∀ handle link, Mysql.database.UpsertsAlike table rows handle link) ∧
    (∀ {σ : Type} (engine : Sqlite.Engine σ) (handle : Option Handle) (client : Sqlite.Client σ),
      (∀ exchange ∈ client.since ((engine.database.upsert table rows handle).run client).2,
        exchange.Numbered) →
      engine.database.UpsertsAlike table rows handle client) ∧
    (∀ handle link, Postgres.database.UpsertsAlike table rows handle link) :=
  ⟨Mysql.alike_upsert present, Sqlite.Engine.alike_upsert present, Postgres.alike_upsert present⟩

/-- A table whose rows get their keys from the server. -/
def films : Table :=
  Table.ofColumns "films" ["id"] ["year"]

/-- Rows without a key around one whose key is null. -/
def filmRows : List Row :=
  [[("year", .nat 1960)], [("year", .nat 1964)],
    [("id", .null), ("year", .nat 1969)], [("year", .nat 1972)]]

/-- An engine that tells a number once and then refuses a statement. -/
def refusedClient : Sqlite.Client (List Sqlite.Answer) where
  name := "cinema"
  store := [.ok [], .ok [[("id", .nat 42)]], .error (.engine "disk full")]
  closed := false
  exchanges := []

theorem upserts_alike_filmRows :
    Mysql.database.UpsertsAlike films filmRows none
      ⟨[Server.Reply.plain, .error .ioTimedOut], false, []⟩ ∧
    Sqlite.Engine.scripted.database.UpsertsAlike films filmRows none refusedClient ∧
    ((Sqlite.Engine.scripted.database.upsert films filmRows none).run
      refusedClient).2.exchanges.map (fun exchange => exchange.statement.text) =
        ["REPLACE INTO \"films\" (\"year\") VALUES (?), (?);", "SELECT last_insert_rowid() AS id;",
          "REPLACE INTO \"films\" (\"id\", \"year\") VALUES (?, ?);"] ∧
    Postgres.database.UpsertsAlike films filmRows none
      (Postgres.Link.unconnected (.fresh [Server.Reply.plain, .error .ioTimedOut] [] none)) := by
  obtain ⟨mysql, sqlite, postgres⟩ := @upserts_alike films filmRows (by decide)
  refine ⟨mysql none _, sqlite _ none refusedClient ?_, by decide, postgres none _⟩
  have asked : refusedClient.since
      ((Sqlite.Engine.scripted.database.upsert films filmRows none).run refusedClient).2 =
        [⟨⟨"REPLACE INTO \"films\" (\"year\") VALUES (?), (?);", [.int 1960, .int 1964]⟩,
            .ok []⟩,
          ⟨Sqlite.lastRowIdStatement, .ok [[("id", .nat 42)]]⟩,
          ⟨⟨"REPLACE INTO \"films\" (\"id\", \"year\") VALUES (?, ?);", [.null, .int 1969]⟩,
            .error (.engine "disk full")⟩] := rfl
  have told : ∃ last, Sqlite.rowId [[("id", .nat 42)]] = .ok last := ⟨42, rfl⟩
  rw [asked]
  simpa [Sqlite.Exchange.Numbered, Sqlite.lastRowIdStatement] using told

/-! ## Assigned keys -/

/-- The keys that a server assigns reach the rows that they were assigned to, and nothing
else about the rows changes. -/
theorem assigns_keys (present : ∀ row ∈ rows, table.presentColumns row ≠ []) :
    Mysql.database.Assigns none Mysql.ask Mysql.Assigned table rows ∧
    (∀ {σ : Type} (engine : Sqlite.Engine σ),
      engine.database.Assigns none engine.ask Sqlite.Assigned table rows) ∧
    (∀ handle, Postgres.database.Assigns handle (Postgres.ask handle) Postgres.Assigned table
      rows) :=
  ⟨Mysql.assigns_upsert present, Sqlite.assigns_upsert present, Postgres.assigns_upsert present⟩

/-- A table whose rows bring their keys. -/
def castings : Table :=
  Table.ofColumns "castings" ["film", "role"] []

/-- The film rows with the keys 41 and 42, and 44. -/
def keyedFilmRows : List Row :=
  [[("id", .nat 41), ("year", .nat 1960)], [("id", .nat 42), ("year", .nat 1964)],
    [("id", .null), ("year", .nat 1969)], [("id", .nat 44), ("year", .nat 1972)]]

theorem filled_filmRows {α : Type} {Assigned : UpsertRun → α → List Json → Prop}
    {first second third : α} (one : Assigned ⟨["year"], filmRows.take 2⟩ first [.nat 41, .nat 42])
    (three : Assigned ⟨["year"], filmRows.drop 3⟩ third [.nat 44]) :
    UpsertRun.Filled "id" Assigned (UpsertRun.partition films filmRows) [first, second, third]
      keyedFilmRows := by
  have runs : UpsertRun.partition films filmRows = [⟨["year"], filmRows.take 2⟩,
      ⟨["id", "year"], [[("id", .null), ("year", .nat 1969)]]⟩,
      ⟨["year"], filmRows.drop 3⟩] := rfl
  have filled : keyedFilmRows =
      List.zipWith (fun row id => Fields.set "id" id row) (filmRows.take 2) [.nat 41, .nat 42] ++
        ([[("id", .null), ("year", .nat 1969)]] ++
          (List.zipWith (fun row id => Fields.set "id" id row) (filmRows.drop 3) [.nat 44] ++
            [])) := rfl
  rw [runs, filled]
  exact .lacking (by decide) one (.carrying (by decide) (.lacking (by decide) three .nil))

/-! Servers that assign the keys 41 and 42, and 44. -/

def mysqlFilms : Mysql.Link where
  replies := [.ok ⟨⟨[], []⟩, 41⟩, Server.Reply.plain, .ok ⟨⟨[], []⟩, 44⟩]
  closed := false
  sent := []

def sqliteFilms : Sqlite.Client (List Sqlite.Answer) where
  name := "cinema"
  store := [.ok [], .ok [[("id", .nat 42)]], .ok [], .ok [], .ok [[("id", .nat 44)]]]
  closed := false
  exchanges := []

def postgresFilms : Postgres.Link :=
  Postgres.Link.unconnected <| .fresh
    [.ok ⟨⟨[("insertid", .int8)], [[.nat 41], [.nat 42]]⟩, 0⟩, Server.Reply.plain,
      .ok ⟨⟨[("insertid", .int8)], [[.nat 44]]⟩, 0⟩] [] none

theorem assigns_keys_filmRows :
    (∃ after, (Mysql.database.upsert films filmRows none).run mysqlFilms =
      (.ok keyedFilmRows, after)) ∧
    (∃ after, (Sqlite.Engine.scripted.database.upsert films filmRows none).run sqliteFilms =
      (.ok keyedFilmRows, after)) ∧
    (∃ after, (Postgres.database.upsert films filmRows none).run postgresFilms =
      (.ok keyedFilmRows, after)) ∧
    ∃ after, (Mysql.database.upsert castings [[("role", .str "Marnie")]] none).run mysqlFilms =
      (.ok [[("role", .str "Marnie")]], after) := by
  obtain ⟨mysql, sqlite, postgres⟩ := @assigns_keys films filmRows (by decide)
  obtain ⟨composite, -, -⟩ := @assigns_keys castings [[("role", .str "Marnie")]] (by decide)
  have mysqlRan : ((Mysql.ask films (UpsertRun.partition films filmRows)).run mysqlFilms).1 =
      .ok [[⟨⟨[], []⟩, 41⟩], [⟨⟨[], []⟩, 0⟩], [⟨⟨[], []⟩, 44⟩]] := rfl
  have sqliteRan : ((Sqlite.Engine.scripted.ask films (UpsertRun.partition films filmRows)).run
      sqliteFilms).1 = .ok [[[], [[("id", .nat 42)]]], [[]], [[], [[("id", .nat 44)]]]] := rfl
  have postgresRan : ((Postgres.ask none films (UpsertRun.partition films filmRows)).run
      postgresFilms).1 =
        .ok [[[[("insertid", .nat 41)], [("insertid", .nat 42)]]], [[]],
          [[[("insertid", .nat 44)]]]] := rfl
  have compositeRan : ((Mysql.ask castings (UpsertRun.partition castings
      [[("role", .str "Marnie")]])).run mysqlFilms).1 = .ok [[⟨⟨[], []⟩, 41⟩]] := rfl
  have several : ∀ key, castings.primaryKeys ≠ [key] := by simp [castings, Table.ofColumns]
  refine ⟨⟨_, mysql.only rfl (Prod.ext mysqlRan rfl) ?_⟩,
    ⟨_, (sqlite _).only rfl (Prod.ext sqliteRan rfl) ?_⟩,
    ⟨_, (postgres none).only rfl (Prod.ext postgresRan rfl) ?_⟩,
    ⟨_, composite.others several (Prod.ext compositeRan rfl)⟩⟩
  · exact filled_filmRows ⟨_, rfl, by decide, rfl⟩ ⟨_, rfl, by decide, rfl⟩
  · exact filled_filmRows ⟨_, _, 42, rfl, rfl, by decide, by decide, rfl⟩
      ⟨_, _, 44, rfl, rfl, by decide, by decide, rfl⟩
  · exact filled_filmRows ⟨_, rfl, rfl, rfl⟩ ⟨_, rfl, rfl, rfl⟩

end Polyquery.Database
