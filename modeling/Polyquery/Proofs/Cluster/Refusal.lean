import Polyquery.Proofs.Cluster.Call

/-!
# Writes that are refused

Updates and deletions need an id for every row, and refuse rows without one.  Rows that
travel in one request are all checked before it is sent.  Rows that are written one by one
are checked one by one, each when its turn comes: if only the second of two rows has no
id, the first has been written when the second is refused.
-/

namespace Polyquery.Cluster

open Http (Link Method Payload)

variable {α β : Type} {cluster : Cluster} {table : Table} {action : Action} {row : Row}
  {rows : List Row} {link : Link}

/-- A result that says that a document cannot be addressed without a key. -/
def IsRefusal (result : Result α) : Prop :=
  ∃ action table, result = .error (.generation (.keyRequired action table))

/-- Whenever an action is refused, it has sent nothing. -/
def UnsentIfRefused (action : Session Link α) : Prop :=
  ∀ link, IsRefusal (action.run link).1 → (action.run link).2.sent = link.sent

/-! ## Where refusals come from -/

theorem not_isRefusal_ok (value : α) : ¬ IsRefusal (.ok value) := by
  rintro ⟨_, _, same⟩
  cases same

theorem not_isRefusal_error {failure : Error} (other : ∀ cause, failure ≠ .generation cause) :
    ¬ IsRefusal (.error failure : Result α) := by
  rintro ⟨_, _, same⟩
  exact other _ (Except.error.inj same)

theorem isRefusal_error_iff {failure : Error} :
    IsRefusal (.error failure : Result α) ↔ IsRefusal (.error failure : Result β) := by
  simp only [IsRefusal, Except.error.injEq]

/-- Two steps are refused because the first or the second is. -/
theorem isRefusal_bind {first : Session Link α} {next : α → Session Link β}
    (refused : IsRefusal ((first >>= next).run link).1) :
    IsRefusal (first.run link).1 ∨ ∃ value after,
      first.run link = (.ok value, after) ∧ IsRefusal ((next value).run after).1 := by
  rw [Session.run_bind] at refused
  rcases ran : first.run link with ⟨failure | value, after⟩
  · rw [ran] at refused
    exact .inl (isRefusal_error_iff.mp refused)
  · rw [ran] at refused
    exact .inr ⟨value, after, rfl, refused⟩

theorem isRefusal_map {result : Result α} {f : α → β} :
    IsRefusal (result.map f) ↔ IsRefusal result := by
  cases result with
  | error failure => exact isRefusal_error_iff
  | ok value => exact iff_of_false (not_isRefusal_ok _) (not_isRefusal_ok _)

theorem not_isRefusal_exchange (request : Http.Request) (link : Link) :
    ¬ IsRefusal ((Link.exchange request).run link).1 := by
  by_cases sends : Link.canSend request.url = true
  · by_cases reachable : link.reachable = true
    · rw [Link.run_exchange sends reachable]
      exact not_isRefusal_ok _
    · simp [Link.exchange, Session.run_bind, sends, reachable, IsRefusal]
  · simp [Link.exchange, Session.run_bind, sends, IsRefusal]

theorem not_isRefusal_send (method : Method) (url : Url) (payload : Option Payload) (link : Link) :
    ¬ IsRefusal ((send method url payload).run link).1 := by
  intro refused
  rcases isRefusal_bind refused with refused | ⟨reply, after, -, refused⟩
  · exact not_isRefusal_exchange _ _ refused
  · cases success : reply.isSuccess with
    | false =>
        rw [success] at refused
        exact not_isRefusal_error (by simp) refused
    | true =>
        simp only [success, Bool.not_true, Bool.false_eq_true, if_false] at refused
        split at refused
        · exact not_isRefusal_ok _ refused
        · split at refused
          · exact not_isRefusal_ok _ refused
          · exact not_isRefusal_error (by simp) refused

theorem ne_generation_of_bulkFailure? {reply : Json} {failure : Error}
    (failed : bulkFailure? reply = some failure) (cause : GenerationError) :
    failure ≠ .generation cause := by
  simp only [bulkFailure?] at failed
  split at failed
  · simp at failed
  · simp only [Option.bind_eq_bind, Option.bind_eq_some_iff] at failed
    obtain ⟨items, -, item, -, same⟩ := failed
    rw [← Option.some.inj same]
    simp

theorem not_isRefusal_bulk (cluster : Cluster) (body : String) (refresh : Bool) (link : Link) :
    ¬ IsRefusal ((cluster.bulk body refresh).run link).1 := by
  intro refused
  rcases isRefusal_bind refused with refused | ⟨reply, after, -, refused⟩
  · exact not_isRefusal_send _ _ _ _ refused
  · cases failed : bulkFailure? reply with
    | none =>
        rw [failed] at refused
        exact not_isRefusal_ok _ refused
    | some failure =>
        rw [failed] at refused
        exact not_isRefusal_error (ne_generation_of_bulkFailure? failed) refused

/-- A row with an id is not refused. -/
theorem not_isRefusal_writeOne (keyed : table.documentId? row ≠ none) (link : Link) :
    ¬ IsRefusal ((cluster.writeOne table action row).run link).1 := by
  rw [writeOne_eq]
  cases called : Call.ofRow? table action row with
  | none => exact absurd (Call.ofRow?_eq_none_iff.mp called).2 keyed
  | some call =>
      simp only [Session.run_map, isRefusal_map]
      exact not_isRefusal_send _ _ _ link

/-- A row without an id is refused at once. -/
theorem run_writeOne_of_none (addressed : action ≠ .index) (lacks : table.documentId? row = none)
    (link : Link) :
    (cluster.writeOne table action row).run link = (.error (missingKey table action), link) := by
  rw [writeOne_eq, Call.ofRow?_eq_none_iff.mpr ⟨addressed, lacks⟩]
  rfl

/-! ## Refused writes -/

/-- Many rows are all checked before their request is sent. -/
theorem unsentIfRefused_of_many (many : singleWrites < rows.length) :
    UnsentIfRefused (cluster.write table action rows) := by
  intro link refused
  simp only [write, Nat.not_le.mpr many, if_false] at refused ⊢
  cases made : bulkBody table action rows with
  | error failure => rfl
  | ok body =>
      rw [made, Session.ofResult_ok, pure_bind] at refused
      rcases isRefusal_bind refused with refused | ⟨reply, after, -, refused⟩
      · exact absurd refused (not_isRefusal_bulk _ _ _ _)
      · exact absurd refused (not_isRefusal_ok _)

/-- Rows with ids are not refused. -/
theorem not_isRefusal_mapM (keyed : ∀ row ∈ rows, table.documentId? row ≠ none) (link : Link) :
    ¬ IsRefusal ((rows.mapM (cluster.writeOne table action)).run link).1 := by
  induction rows generalizing link with
  | nil => exact not_isRefusal_ok _
  | cons first rest ih =>
      obtain ⟨firstKeyed, restKeyed⟩ := List.forall_mem_cons.mp keyed
      rw [List.mapM_cons]
      intro refused
      rcases isRefusal_bind refused with refused | ⟨id, after, -, refused⟩
      · exact not_isRefusal_writeOne firstKeyed _ refused
      · rcases isRefusal_bind refused with refused | ⟨ids, last, -, refused⟩
        · exact ih restKeyed _ refused
        · exact not_isRefusal_ok _ refused

/-- Rows that are written one by one are refused in time if the first is refused or none
is. -/
theorem unsentIfRefused_mapM {first : Row} {rest : List Row} (addressed : action ≠ .index)
    (keyed : table.documentId? first ≠ none → ∀ row ∈ rest, table.documentId? row ≠ none) :
    UnsentIfRefused ((first :: rest).mapM (cluster.writeOne table action)) := by
  intro link refused
  by_cases lacks : table.documentId? first = none
  · rw [List.mapM_cons, Session.run_bind, run_writeOne_of_none addressed lacks]
  · exact absurd refused
      (not_isRefusal_mapM (List.forall_mem_cons.mpr ⟨lacks, keyed lacks⟩) link)

/-- Of two rows only the second has no id. -/
def LacksLate (table : Table) (rows : List Row) : Prop :=
  ∃ first second, rows = [first, second] ∧
    table.documentId? first ≠ none ∧ table.documentId? second = none

theorem unsentIfRefused_write (addressed : action ≠ .index) (early : ¬ LacksLate table rows) :
    UnsentIfRefused (cluster.write table action rows) := by
  by_cases many : singleWrites < rows.length
  · exact unsentIfRefused_of_many many
  · have few : rows.length ≤ singleWrites := Nat.not_lt.mp many
    rw [write, if_pos few]
    cases rows with
    | nil =>
        intro link refused
        exact absurd refused (not_isRefusal_ok _)
    | cons first rest =>
        apply unsentIfRefused_mapM addressed
        intro keyed row mem lacks
        cases rest with
        | nil => cases mem
        | cons second others =>
            obtain rfl : others = [] := by
              apply List.eq_nil_of_length_eq_zero
              simp only [List.length_cons, singleWrites] at few
              omega
            rw [List.mem_singleton] at mem
            exact early ⟨first, second, rfl, keyed, mem ▸ lacks⟩

/-- A server that can be reached gets the first of the two rows, and then the second is
refused. -/
theorem run_write_of_lacksLate (addressed : action ≠ .index) (late : LacksLate table rows)
    (sends : Link.canSend cluster.url = true) :
    ∃ request, (cluster.write table action rows).run ⟨true, [], []⟩ =
      (.error (missingKey table action), ⟨true, [], [request]⟩) := by
  obtain ⟨first, second, rfl, keyed, lacks⟩ := late
  have few : [first, second].length ≤ singleWrites := by simp [singleWrites]
  cases called : Call.ofRow? table action first with
  | none => exact absurd (Call.ofRow?_eq_none_iff.mp called).2 keyed
  | some call =>
      have written : (cluster.writeOne table action first).run ⟨true, [], []⟩ =
          (.ok .null, ⟨true, [], [call.request cluster]⟩) := by
        have sent := @Call.run_send ⟨true, [], []⟩ Http.Reply.plain (.obj []) cluster call sends rfl
          rfl (by decide) value?_plain
        rw [writeOne_eq, called, Session.run_map, sent]
        rfl
      refine ⟨call.request cluster, ?_⟩
      rw [write, if_pos few, List.mapM_cons, Session.run_bind, written]
      change Session.run ([second].mapM _ >>= _) _ = _
      rw [List.mapM_cons, bind_assoc, Session.run_bind, run_writeOne_of_none addressed lacks]

theorem not_unsentIfRefused_write (addressed : action ≠ .index) (late : LacksLate table rows) :
    ¬ UnsentIfRefused (localCluster.write table action rows) := by
  intro unsent
  obtain ⟨request, ran⟩ :=
    @run_write_of_lacksLate localCluster table action rows addressed late (by decide)
  have nothing := unsent ⟨true, [], []⟩
  rw [ran] at nothing
  exact absurd (nothing ⟨_, _, rfl⟩) (List.cons_ne_nil _ _)

/-- An update is a write whose ids are not looked at. -/
theorem update_database (cluster : Cluster) (table : Table) (rows : List Row) :
    cluster.database.update table rows none =
      (fun _ => rows) <$> cluster.write table .update rows := by
  simp only [database, Database.rejectHandle, pure_bind, bind_pure_comp]

theorem unsentIfRefused_map {first : Session Link α} {f : α → β} :
    UnsentIfRefused (f <$> first) ↔ UnsentIfRefused first := by
  simp only [UnsentIfRefused, Session.run_map, isRefusal_map]

/-- Updates and deletions that are refused have sent nothing, whatever the server replies,
except for two rows of which only the first has an id. -/
theorem refused_unsent_iff (table : Table) (rows : List Row) :
    ((∀ cluster : Cluster, UnsentIfRefused (cluster.database.update table rows none)) ↔
      ¬ LacksLate table rows) ∧
    ((∀ cluster : Cluster, UnsentIfRefused (cluster.write table .delete rows)) ↔
      ¬ LacksLate table rows) := by
  simp only [update_database, unsentIfRefused_map]
  have exactly (action : Action) (addressed : action ≠ .index) :
      (∀ cluster : Cluster, UnsentIfRefused (cluster.write table action rows)) ↔
        ¬ LacksLate table rows := by
    constructor
    · intro unsent late
      exact not_unsentIfRefused_write addressed late (unsent localCluster)
    · intro early cluster
      exact unsentIfRefused_write addressed early
  exact ⟨exactly .update (by decide), exactly .delete (by decide)⟩

/-- A table of films. -/
def films : Table :=
  Table.ofColumns "films" ["id"] ["title"]

/-- A film with an id, and one without. -/
def filmRows : List Row :=
  [[("id", .str "vertigo"), ("title", .str "Vertigo")], [("title", .str "Frenzy")]]

/-- The first film is updated, or deleted, before the second is refused. -/
theorem refused_sent_filmRows :
    IsRefusal ((localCluster.database.update films filmRows none).run ⟨true, [], []⟩).1 ∧
    ((localCluster.database.update films filmRows none).run ⟨true, [], []⟩).2.sent.map
      (fun request => request.url.target) = ["/films/_update/vertigo"] ∧
    IsRefusal ((localCluster.write films .delete filmRows).run ⟨true, [], []⟩).1 ∧
    ((localCluster.write films .delete filmRows).run ⟨true, [], []⟩).2.sent.map
      (fun request => (request.method, request.url.target)) =
        [(.delete, "/films/_doc/vertigo")] := by
  exact ⟨⟨"update", "films", rfl⟩, by decide, ⟨"delete", "films", rfl⟩, by decide⟩

end Polyquery.Cluster
