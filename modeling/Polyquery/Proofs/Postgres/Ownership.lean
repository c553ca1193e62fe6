import Mathlib.Data.List.Range
import Polyquery.Proofs.Database.Ownership
import Polyquery.Proofs.Postgres.Upsert

/-!
# Keys that PostgreSQL returns

The statement that stores a run returns a row for each row that was stored, and these can
be fewer than the rows of the run, or more.  Which numbers put only keys into rows that
were returned for their own run is said once for all replies.
-/

namespace Polyquery.Postgres

open UpsertRun (Aligned Owned TakesOwn counted numbers pending)

variable {table : Table} {key : String} {rows filled : List Row} {link after last : Link}
  {answers : List (List (List Row))} {counts : List Nat}

/-- The keys in the answers to the statements of a run. -/
def returnedKeys (answers : List (List Row)) : List Json :=
  answers.flatten.map fun row => (Fields.find? "insertid" row).getD .null

/-- The runs of some rows with the keys that were returned for them. -/
def returnedByRun (table : Table) (rows : List Row) (answers : List (List (List Row))) :
    List (UpsertRun × List Json) :=
  (UpsertRun.partition table rows).zip (answers.map returnedKeys)

/-- Whenever the statements of the runs return these numbers of rows, every key that is
put into a row was returned for its own run. -/
def KeepsOwn (table : Table) (key : String) (rows : List Row) (counts : List Nat) : Prop :=
  ∀ handle link answers after filled last,
    (ask handle table (UpsertRun.partition table rows)).run link = (.ok answers, after) →
    answers.map (fun answer => (returnedKeys answer).length) = counts →
    (database.upsert table rows handle).run link = (.ok filled, last) →
    Owned key (returnedByRun table rows answers) filled

/-! ## What is put into the rows -/

theorem collect_eq (keys : table.primaryKeys = [key]) (run : UpsertRun)
    (answer : List (List Row)) :
    collect table run answer = if key ∈ run.columns then [] else returnedKeys answer := by
  rw [collect]
  by_cases carries : key ∈ run.columns
  · rw [if_pos carries,
      if_neg (mt (UpsertRun.assigned_iff_not_mem keys).mp (not_not_intro carries))]
  · rw [if_neg carries, if_pos ((UpsertRun.assigned_iff_not_mem keys).mpr carries), returnedKeys]

theorem flatten_collect_eq (keys : table.primaryKeys = [key]) :
    (List.zipWith (collect table) (UpsertRun.partition table rows) answers).flatten =
      pending key (returnedByRun table rows answers) := by
  rw [returnedByRun, pending, List.zip_map_right, List.flatMap_map,
    ← List.map_uncurry_zip_eq_zipWith, List.flatMap_def]
  congr 1
  apply List.map_congr_left
  rintro ⟨run, answer⟩ -
  exact collect_eq keys run answer

theorem flatMap_rows_returnedByRun
    (each : answers.length = (UpsertRun.partition table rows).length) :
    (returnedByRun table rows answers).flatMap (fun entry => entry.1.rows) = rows := by
  have runs : (returnedByRun table rows answers).map Prod.fst = UpsertRun.partition table rows := by
    rw [returnedByRun, List.map_fst_zip]
    rw [List.length_map, each]
  rw [← List.flatMap_map Prod.fst UpsertRun.rows, runs]
  exact (UpsertRun.IsPartition.partition table rows).rows_eq

theorem fst_mem_partition {entry : UpsertRun × List Json}
    (mem : entry ∈ returnedByRun table rows answers) :
    entry.1 ∈ UpsertRun.partition table rows :=
  (List.of_mem_zip mem).1

/-- Every row has a key of its own run exactly if every run takes its own keys. -/
theorem owned_assignKeys_iff (keys : table.primaryKeys = [key])
    (each : answers.length = (UpsertRun.partition table rows).length) :
    Owned key (returnedByRun table rows answers) (table.assignKeys rows
        (List.zipWith (collect table) (UpsertRun.partition table rows) answers).flatten) ↔
      TakesOwn key (returnedByRun table rows answers)
        (pending key (returnedByRun table rows answers)) := by
  have alike : ∀ entry ∈ returnedByRun table rows answers, ∀ row ∈ entry.1.rows,
      Fields.has key row = true ↔ key ∈ entry.1.columns :=
    fun entry mem row inRun => (UpsertRun.IsPartition.partition table rows).has_iff keys
      (fst_mem_partition mem) inRun
  rw [flatten_collect_eq keys, Table.assignKeys, Table.singleKey?_eq_some.mpr keys,
    ← UpsertRun.owned_fill_iff alike, flatMap_rows_returnedByRun each]

theorem counted_returnedByRun
    (same : answers.map (fun answer => (returnedKeys answer).length) = counts) :
    counted (returnedByRun table rows answers) = (UpsertRun.partition table rows).zip counts := by
  rw [← same, returnedByRun, counted, List.zip_map_right, List.zip_map_right, List.map_map]
  rfl

/-! ## Rows without columns -/

theorem on_eq_ok {α : Type} {handle : Option Handle} {action : Nat → Session Link α} {value : α}
    (ran : (Link.on handle action).run link = (.ok value, after)) :
    ∃ connection first last, (action connection).run first = (.ok value, last) := by
  cases handle with
  | some handle =>
      obtain ⟨connection, middle, -, acted⟩ := Session.run_bind_eq_ok.mp ran
      exact ⟨connection, middle, after, acted⟩
  | none =>
      rw [Link.on, Link.run_borrowing] at ran
      rcases acquired : Link.acquire.run link with ⟨_ | connection, taken⟩
      · rw [acquired] at ran
        cases ran
      · rw [acquired] at ran
        have acted : ((action connection).run taken).1 = .ok value := congrArg Prod.fst ran
        exact ⟨connection, taken, _, Prod.ext acted rfl⟩

theorem columns_ne_nil_of_storeRun {connection : Nat} {run : UpsertRun} {ids : List Json}
    (ran : (storeRun connection table run).run link = (.ok ids, after)) : run.columns ≠ [] := by
  intro none
  rw [storeRun, run.drafts_eq_error .postgres table none] at ran
  cases ran

theorem columns_ne_nil_of_mapM {connection : Nat} {runs : List UpsertRun} {ids : List (List Json)}
    (ran : (runs.mapM (storeRun connection table)).run link = (.ok ids, after)) :
    ∀ run ∈ runs, run.columns ≠ [] := by
  induction runs generalizing link ids with
  | nil => nofun
  | cons run rest ih =>
      obtain ⟨first, others, middle, ranFirst, ranOthers, -⟩ := Session.run_mapM_cons_eq_ok.mp ran
      exact List.forall_mem_cons.mpr ⟨columns_ne_nil_of_storeRun ranFirst, ih ranOthers⟩

/-- Only rows that all have a column of the table are stored. -/
theorem columns_ne_nil_of_upsert {handle : Option Handle}
    (ran : (database.upsert table rows handle).run link = (.ok filled, last)) :
    ∀ run ∈ UpsertRun.partition table rows, run.columns ≠ [] := by
  obtain ⟨ids, middle, stored, -⟩ := Session.run_bind_eq_ok.mp ran
  obtain ⟨connection, first, final, acted⟩ := on_eq_ok stored
  obtain ⟨parts, next, ranRuns, -⟩ := Session.run_bind_eq_ok.mp acted
  exact columns_ne_nil_of_mapM ranRuns

/-! ## Servers that return any number of keys -/

/-- Replies to the statements of runs, with some rows each.  The keys in the rows are the
numbers of the runs. -/
def numberedReplies (counts : List Nat) : List (Server.Reply ColumnType) :=
  counts.zipIdx.map fun entry =>
    .ok ⟨⟨[("insertid", .int8)], List.replicate entry.1 [.nat entry.2]⟩, 0⟩

/-- What these replies are taken for. -/
def numberedAnswers (counts : List Nat) : List (List (List Row)) :=
  counts.zipIdx.map fun entry => [List.replicate entry.1 [("insertid", .nat entry.2)]]

/-- A client whose server gives these replies. -/
def numberedLink (counts : List Nat) : Link :=
  Link.unconnected (.fresh (numberedReplies counts) [] none)

theorem run_statements {connection : Nat} {runs : List UpsertRun}
    {replies : List (Server.Answer ColumnType)} (untold : link.server.inferences = [])
    (replied : link.server.replies = replies.map .ok) (each : replies.length = runs.length) :
    ∃ after, Session.run (runs.mapM fun run : UpsertRun =>
        (run.statements .postgres table).mapM (runStatement connection)) link =
      (.ok (replies.map fun answer => [answer.set.toRows ColumnType.read]), after) := by
  induction runs generalizing link replies with
  | nil =>
      cases List.eq_nil_of_length_eq_zero each
      exact ⟨link, rfl⟩
  | cons run rest ih =>
      cases replies with
      | nil => cases each
      | cons answer replies =>
          have next : link.server.replies.headD Server.Reply.plain = .ok answer := by
            rw [replied, List.map_cons, List.headD_cons]
          obtain ⟨middle, ranFirst, untoldThen, repliedThen, -⟩ :=
            @run_runStatement connection link _ answer untold next
          rw [replied, List.map_cons, List.tail_cons] at repliedThen
          obtain ⟨after, ranRest⟩ := ih untoldThen repliedThen (Nat.succ.inj each)
          refine ⟨after, Session.run_mapM_cons_eq_ok.mpr ⟨_, _, middle, ?_, ranRest, rfl⟩⟩
          exact Session.run_mapM_cons_eq_ok.mpr ⟨_, [], middle, ranFirst, rfl, rfl⟩

theorem run_ask_numbered {runs : List UpsertRun} (each : counts.length = runs.length) :
    ∃ after, (ask none table runs).run (numberedLink counts) =
      (.ok (numberedAnswers counts), after) := by
  have replies : numberedReplies counts = (counts.zipIdx.map fun entry : Nat × Nat =>
      (⟨⟨[("insertid", .int8)], List.replicate entry.1 [.nat entry.2]⟩, 0⟩ :
        Server.Answer ColumnType)).map .ok := by
    rw [numberedReplies, List.map_map]
    rfl
  have taken : Link.acquire.run (numberedLink counts) =
      (.ok 1, { numberedLink counts with made := 1 }) := rfl
  obtain ⟨after, ran⟩ := @run_statements table { numberedLink counts with made := 1 } 1 runs _
    rfl replies (by simpa using each)
  rw [ask, Link.on, Link.run_borrowing, taken]
  refine ⟨_, Prod.ext ((congrArg Prod.fst ran).trans ?_) rfl⟩
  rw [List.map_map, numberedAnswers]
  simp only [Server.ResultSet.toRows, Function.comp_def, List.map_replicate]
  rfl

theorem returnedKeys_numbered :
    (numberedAnswers counts).map returnedKeys =
      counts.zipIdx.map fun entry => List.replicate entry.1 (.nat entry.2) := by
  rw [numberedAnswers, List.map_map]
  simp [returnedKeys, Function.comp_def, Fields.find?]

theorem length_returnedKeys_numbered :
    (numberedAnswers counts).map (fun answer => (returnedKeys answer).length) = counts := by
  have lengths := congrArg (List.map List.length) (@returnedKeys_numbered counts)
  rw [List.map_map, List.map_map] at lengths
  refine lengths.trans ?_
  simp [Function.comp_def]

/-- No key is returned for two runs. -/
theorem pairwise_returnedByRun (each : counts.length = (UpsertRun.partition table rows).length) :
    (returnedByRun table rows (numberedAnswers counts)).Pairwise fun first second =>
      ∀ id ∈ second.2, id ∉ first.2 := by
  have increasing : counts.zipIdx.Pairwise fun first second => first.2 < second.2 := by
    rw [← List.pairwise_map, List.zipIdx_map_snd]
    exact List.pairwise_lt_range'
  have ids : (returnedByRun table rows (numberedAnswers counts)).map Prod.snd =
      counts.zipIdx.map fun entry => List.replicate entry.1 (.nat entry.2) := by
    rw [returnedByRun, List.map_snd_zip, returnedKeys_numbered]
    simp [numberedAnswers, each]
  rw [← List.pairwise_map (f := Prod.snd) (R := fun first second => ∀ id ∈ second, id ∉ first),
    ids, List.pairwise_map]
  refine increasing.imp fun {first second} less id inSecond inFirst => ?_
  have same := (List.eq_of_mem_replicate inFirst).symm.trans (List.eq_of_mem_replicate inSecond)
  simp only [Json.nat, Json.int, Json.num.injEq, Number.int.injEq] at same
  omega

/-! ## Numbers that keep the keys with their runs -/

/-- Every key that is put into a row was returned for its own run, whatever the replies
are, exactly if the numbers of rows and keys of the runs that lack the key agree, up to a
last run after which no row is left for more keys, or no key for more rows.  Rows are only
stored if each of them has a column of the table. -/
theorem keepsOwn_iff (keys : table.primaryKeys = [key])
    (each : counts.length = (UpsertRun.partition table rows).length) :
    KeepsOwn table key rows counts ↔ (∃ row ∈ rows, table.presentColumns row = []) ∨
      Aligned (numbers key ((UpsertRun.partition table rows).zip counts)) := by
  have partition := UpsertRun.IsPartition.partition table rows
  constructor
  · intro keeps
    by_cases empty : ∃ row ∈ rows, table.presentColumns row = []
    · exact .inl empty
    · have present : ∀ row ∈ rows, table.presentColumns row ≠ [] :=
        fun row mem none => empty ⟨row, mem, none⟩
      obtain ⟨last, ran⟩ := @run_ask_numbered table counts _ each
      have owned := keeps none _ _ _ _ _ ran length_returnedKeys_numbered
        (run_upsert (Database.columns_ne_nil present) ran)
      have answered :
          (numberedAnswers counts).length = (UpsertRun.partition table rows).length := by
        simp [numberedAnswers, each]
      rw [owned_assignKeys_iff keys answered] at owned
      rw [← counted_returnedByRun length_returnedKeys_numbered]
      exact .inr (UpsertRun.aligned_of_takesOwn
        (fun entry mem => partition.nonempty _ (fst_mem_partition mem))
        (pairwise_returnedByRun each) owned)
  · intro holds handle link answers after filled last ran same stored
    have columns := columns_ne_nil_of_upsert stored
    rcases holds with ⟨row, mem, none⟩ | aligned
    · obtain ⟨run, inRuns, empty⟩ := partition.exists_columns_eq_nil mem none
      exact absurd empty (columns run inRuns)
    · have answered : answers.length = (UpsertRun.partition table rows).length := by
        rw [← each, ← same, List.length_map]
      rw [run_upsert columns ran] at stored
      cases stored
      rw [owned_assignKeys_iff keys answered]
      apply UpsertRun.takesOwn_of_aligned
      rwa [counted_returnedByRun same]

/-! Film rows around one that brings its key. -/

def shelf : Table :=
  Table.ofColumns "films" ["id"] ["year"]

def shelved : List Row :=
  [[("year", .nat 1960)], [("year", .nat 1964)],
    [("id", .nat 7), ("year", .nat 1969)], [("year", .nat 1972)]]

/-- The last run may return fewer keys than it has rows, and a run that brings its keys any
number. -/
theorem keepsOwn_shelved : KeepsOwn shelf "id" shelved [2, 5, 0] := by
  have runs : (UpsertRun.partition shelf shelved).zip [2, 5, 0] =
      [(⟨["year"], shelved.take 2⟩, 2),
        (⟨["id", "year"], [[("id", .nat 7), ("year", .nat 1969)]]⟩, 5),
        (⟨["year"], shelved.drop 3⟩, 0)] := rfl
  have aligned : Aligned (numbers "id" ((UpsertRun.partition shelf shelved).zip [2, 5, 0])) := by
    rw [runs]
    exact .inl ⟨rfl, .inr (.inr ⟨by decide, nofun⟩)⟩
  exact (@keepsOwn_iff shelf "id" shelved [2, 5, 0] rfl rfl).mpr (.inr aligned)

/-- A server that returns the key 41 for the first run and 44 for the last. -/
def skippingLink : Link :=
  Link.unconnected <| .fresh
    [.ok ⟨⟨[("insertid", .int8)], [[.nat 41]]⟩, 0⟩, Server.Reply.plain,
      .ok ⟨⟨[("insertid", .int8)], [[.nat 44]]⟩, 0⟩] [] none

/-- A trigger skips the second row, and this row gets the key that was returned for the
last. -/
theorem not_keepsOwn_shelved :
    (∃ after, (database.upsert shelf shelved none).run skippingLink =
      (.ok [[("id", .nat 41), ("year", .nat 1960)], [("id", .nat 44), ("year", .nat 1964)],
        [("id", .nat 7), ("year", .nat 1969)], [("year", .nat 1972)]], after)) ∧
    ¬ KeepsOwn shelf "id" shelved [1, 0, 1] := by
  have answered : ((ask none shelf (UpsertRun.partition shelf shelved)).run skippingLink).1 =
      .ok [[[[("insertid", .nat 41)]]], [[]], [[[("insertid", .nat 44)]]]] := rfl
  have stored : ((database.upsert shelf shelved none).run skippingLink).1 =
      .ok [[("id", .nat 41), ("year", .nat 1960)], [("id", .nat 44), ("year", .nat 1964)],
        [("id", .nat 7), ("year", .nat 1969)], [("year", .nat 1972)]] := rfl
  have asked := (Prod.eta _).symm.trans (congrArg (Prod.mk · _) answered)
  have ran := (Prod.eta _).symm.trans (congrArg (Prod.mk · _) stored)
  refine ⟨⟨_, ran⟩, fun keeps => ?_⟩
  have owned := keeps none skippingLink _ _ _ _ asked rfl ran
  have takes := (@owned_assignKeys_iff shelf "id" _ _ rfl rfl).mp owned
  have own : ∀ id ∈ [Json.nat 41, Json.nat 44], id ∈ [Json.nat 41] := takes.1
  simp [Json.nat, Json.int] at own

end Polyquery.Postgres
