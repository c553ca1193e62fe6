import Polyquery.Proofs.Cluster.Batch
import Polyquery.Proofs.Cluster.Deletion
import Polyquery.Proofs.Cluster.Refusal

/-!
# Failures that a reply reports

The reply to lines says whether there were errors, and tells for each operation how it
went.  If there were errors, the request fails with the first failure that an item tells.
If there is no such item, the request counts as a success although the reply says that it
was none: the items may be missing, they may be no list, an item may be no object or an
empty one, and what an item tells first may be without an error.
-/

namespace Polyquery

namespace Json

theorem asBool?_eq_some_iff {value : Json} {b : Bool} :
    value.asBool? = some b ↔ value = .bool b := by
  cases value <;> simp [asBool?]

theorem asArray?_eq_some_iff {value : Json} {items : List Json} :
    value.asArray? = some items ↔ value = .arr items := by
  cases value <;> simp [asArray?]

theorem field_of_field? {value found : Json} {name : String}
    (known : value.field? name = some found) : value.field name = found := by
  cases value with
  | obj fields =>
      rw [field?] at known
      rw [field, known]
      rfl
  | _ => cases known

end Json

namespace Cluster

open Http (Link Reply Request)

variable {cluster : Cluster} {table : Table} {action : Action} {rows : List Row}
  {request : Search.Request} {reply : Reply} {replies : List Reply} {sent : List Request}
  {item outcome value : Json} {failure : Error} {seen : List String} {limit : Nat}

/-! ## Items -/

/-- An item tells a failure: what it tells first has an error. -/
def ItemFails (item : Json) (failure : Error) : Prop :=
  ∃ name outcome others cause, item = .obj ((name, outcome) :: others) ∧
    outcome.field? "error" = some cause ∧ failure = .elastic (statusOf outcome) cause.compact

/-- The failure that the first item that tells one tells. -/
def FirstFailure (value : Json) (failure : Error) : Prop :=
  ∃ before item after, value.field "items" = .arr (before ++ item :: after) ∧
    (∀ other ∈ before, ∀ failure, ¬ ItemFails other failure) ∧ ItemFails item failure

theorem outcomeOf_eq_some_iff :
    outcomeOf item = some outcome ↔ ∃ name others, item = .obj ((name, outcome) :: others) := by
  unfold outcomeOf Json.asObject?
  split
  · rename_i fields
    cases fields with
    | nil => simp
    | cons first others =>
        obtain ⟨name, told⟩ := first
        simp
  · rename_i other
    constructor
    · simp
    · rintro ⟨name, others, rfl⟩
      exact absurd rfl (other _)

/-- Whether an item tells a failure is seen at its outcome. -/
theorem itemFails_iff : ItemFails item failure ↔ ∃ outcome, outcomeOf item = some outcome ∧
    (outcome.field? "error").isSome = true ∧
    failure = .elastic (statusOf outcome) (outcome.field "error").compact := by
  simp only [ItemFails, outcomeOf_eq_some_iff, Option.isSome_iff_exists]
  constructor
  · rintro ⟨name, outcome, others, cause, rfl, found, rfl⟩
    exact ⟨outcome, ⟨name, others, rfl⟩, ⟨cause, found⟩, by rw [Json.field_of_field? found]⟩
  · rintro ⟨outcome, ⟨name, others, rfl⟩, ⟨cause, found⟩, rfl⟩
    exact ⟨name, outcome, others, cause, rfl, found, by rw [Json.field_of_field? found]⟩

theorem exists_itemFails_iff : (∃ failure, ItemFails item failure) ↔
    (outcomeOf item).any (fun outcome => (outcome.field? "error").isSome) = true := by
  simp only [itemFails_iff, Option.any_eq_true]
  constructor
  · rintro ⟨_, outcome, told, error, -⟩
    exact ⟨outcome, told, error⟩
  · rintro ⟨outcome, told, error⟩
    exact ⟨_, outcome, told, error, rfl⟩

/-- What is computed from a reply that says that there were errors. -/
theorem bulkFailure?_of_errors (errors : value.field "errors" = .bool true) :
    bulkFailure? value = (value.field "items").asArray?.bind fun items =>
      ((items.filterMap outcomeOf).find? fun outcome => (outcome.field? "error").isSome).map
        fun failed => .elastic (statusOf failed) (failed.field "error").compact := by
  simp only [bulkFailure?, errors, Json.asBool?, ne_eq, not_true_eq_false, if_false]
  cases (value.field "items").asArray? with
  | none => rfl
  | some items =>
      rw [Option.bind_some, Option.map_eq_bind]
      rfl

/-- Lines fail exactly with the first failure of a reply that says that there were errors. -/
theorem bulkFailure?_eq_some_iff :
    bulkFailure? value = some failure ↔
      value.field "errors" = .bool true ∧ FirstFailure value failure := by
  have unfailing (first : Json) :
      (!(outcomeOf first).any fun outcome => (outcome.field? "error").isSome) = true ↔
        ∀ failure, ¬ ItemFails first failure := by
    rw [← not_exists, exists_itemFails_iff, Bool.not_eq_true', Bool.not_eq_true]
  by_cases errors : value.field "errors" = .bool true
  · simp only [bulkFailure?_of_errors errors, errors, true_and, Option.bind_eq_some_iff,
      Option.map_eq_some_iff, Json.asArray?_eq_some_iff, List.find?_filterMap,
      List.find?_eq_some_iff_append, unfailing]
    constructor
    · rintro ⟨_, isArray, outcome, ⟨item, ⟨error, before, after, rfl, others⟩, told⟩, rfl⟩
      rw [told] at error
      exact ⟨before, item, after, isArray, others, itemFails_iff.mpr ⟨outcome, told, error, rfl⟩⟩
    · rintro ⟨before, item, after, isArray, others, fails⟩
      obtain ⟨outcome, told, error, rfl⟩ := itemFails_iff.mp fails
      refine ⟨_, isArray, outcome, ⟨item, ⟨?_, before, after, rfl, others⟩, told⟩, rfl⟩
      rw [told]
      exact error
  · simp [bulkFailure?_eq_none (mt Json.asBool?_eq_some_iff.mp errors), errors]

/-! ## Writes -/

/-- A reply to a request that succeeded says that there were errors. -/
structure ReportsErrors (reply : Reply) (value : Json) : Prop where
  success : reply.isSuccess = true
  read : reply.value? = some value
  errors : value.field "errors" = .bool true

/-- What becomes of lines, if the reply can be read. -/
theorem run_bulk_of_read {body : String} {refresh : Bool} (sends : Link.canSend cluster.url = true)
    (success : reply.isSuccess = true) (read : reply.value? = some value) :
    (cluster.bulk body refresh).run ⟨true, reply :: replies, sent⟩ =
      (match bulkFailure? value with
        | some failure => .error failure
        | none => .ok value,
        ⟨true, replies, sent ++ [cluster.linesRequest body refresh]⟩) := by
  have sentLines := @run_send ⟨true, reply :: replies, sent⟩ reply value .post
    (cluster.linesRequest body refresh).url (some (.lines body))
    (by simpa [linesRequest] using sends) rfl rfl success read
  unfold bulk
  rw [Session.run_bind]
  dsimp only [linesRequest] at sentLines ⊢
  rw [sentLines]
  dsimp only
  cases bulkFailure? value <;> rfl

namespace ReportsErrors

variable (reports : ReportsErrors reply value)

include reports

/-- Lines fail exactly with the first failure. -/
theorem bulk_eq_error_iff {body : String} {refresh : Bool}
    (sends : Link.canSend cluster.url = true) :
    ((cluster.bulk body refresh).run ⟨true, reply :: replies, sent⟩).1 = .error failure ↔
      FirstFailure value failure := by
  obtain ⟨success, read, errors⟩ := reports
  rw [run_bulk_of_read sends success read]
  cases failed : bulkFailure? value with
  | none => simpa [failed, errors] using @bulkFailure?_eq_some_iff value failure
  | some first => simpa [failed, errors] using @bulkFailure?_eq_some_iff value failure

/-- So do more rows than are written one by one, if they can be addressed. -/
theorem write_eq_error_iff (sends : Link.canSend cluster.url = true)
    (many : singleWrites < rows.length) (addressed : Addressed table action rows) :
    ((cluster.write table action rows).run ⟨true, reply :: replies, sent⟩).1 = .error failure ↔
      FirstFailure value failure := by
  rw [← reports.bulk_eq_error_iff sends, write, if_neg (Nat.not_le.mpr many),
    bulkBody_eq_ok addressed, Session.ofResult_ok, pure_bind]
  exact Session.run_map_eq_error

end ReportsErrors

/-! ## Deletions of what is found -/

/-- A round of a deletion that finds something new and is not seen to fail. -/
structure Round.Passes (seen : List String) (round : Round) : Prop where
  found : Succeeds round.found
  new : unseen seen round.hits ≠ []
  deleted : Succeeds round.deleted
  unfailed : ∀ value, round.deleted.value? = some value → bulkFailure? value = none

/-- What rounds find that has not been seen. -/
def news (seen : List String) : List Round → List Row
  | [] => []
  | round :: rest =>
    let page := unseen seen round.hits
    page ++ news (seen ++ page.map place) rest

/-- Rounds that pass one after the other. -/
def Passing (seen : List String) : List Round → Prop
  | [] => True
  | round :: rest =>
    round.Passes seen ∧ Passing (seen ++ (unseen seen round.hits).map place) rest

/-- New hits are deleted.  If that fails, so does the deletion; otherwise the search is
repeated, if it is not limited. -/
theorem run_deleteHits_new (sends : Link.canSend cluster.url = true) {found : Reply}
    (succeeds : Succeeds found) (new : unseen seen (hitsOf found) ≠ [])
    (success : reply.isSuccess = true) (read : reply.value? = some value) :
    (cluster.deleteHits request (limit + 1) seen).run ⟨true, found :: reply :: replies, sent⟩ =
      let page := unseen seen (hitsOf found)
      let after : Link := ⟨true, replies, sent ++ [cluster.searchRequest request] ++
        [cluster.deletionRequest page request.size.isNone]⟩
      match bulkFailure? value with
      | some failure => (.error failure, after)
      | none => (if request.size.isSome then pure page else
          (page ++ ·) <$> cluster.deleteHits request limit (seen ++ page.map place)).run after := by
  obtain ⟨answer, answerHits, searched⟩ := @run_search cluster request found (reply :: replies) sent
    sends succeeds
  have bulked := @run_bulk_of_read cluster reply replies (sent ++ [cluster.searchRequest request])
    value (String.join ((unseen seen (hitsOf found)).map deletionLine)) request.size.isNone sends
    success read
  rw [deleteHits, Session.run_bind, searched]
  simp only [answerHits, List.isEmpty_eq_false_iff.mpr new, Bool.false_eq_true, if_false,
    Session.run_bind, bulked]
  cases bulkFailure? value with
  | some failure => rfl
  | none => cases request.size.isSome <;> rfl

/-- A round that passes is followed by what is left of the deletion. -/
theorem Round.Passes.run_deleteHits (sends : Link.canSend cluster.url = true)
    (unlimited : request.size = none) {round : Round} (passes : round.Passes seen) :
    (cluster.deleteHits request (limit + 1) seen).run ⟨true, round.replies ++ replies, sent⟩ =
      ((unseen seen round.hits ++ ·) <$> cluster.deleteHits request limit
        (seen ++ (unseen seen round.hits).map place)).run
        ⟨true, replies, sent ++ [cluster.searchRequest request] ++
          [cluster.deletionRequest (unseen seen round.hits) request.size.isNone]⟩ := by
  obtain ⟨found, new, ⟨success, readable⟩, unfailed⟩ := passes
  obtain ⟨value, read⟩ := Option.ne_none_iff_exists'.mp readable
  refine (run_deleteHits_new sends found new success read).trans ?_
  rw [unfailed value read, unlimited]
  rfl

/-- Rounds that pass are followed by what is left of the deletion. -/
theorem run_deleteHits_passing (sends : Link.canSend cluster.url = true)
    (unlimited : request.size = none) {rounds : List Round} (passing : Passing seen rounds) :
    ∃ sent', (cluster.deleteHits request (limit + rounds.length) seen).run
        ⟨true, rounds.flatMap Round.replies ++ replies, sent⟩ =
      ((news seen rounds ++ ·) <$> cluster.deleteHits request limit
        (seen ++ (news seen rounds).map place)).run ⟨true, replies, sent'⟩ := by
  induction rounds generalizing seen sent with
  | nil =>
      refine ⟨sent, ?_⟩
      simp [news]
  | cons round rest ih =>
      obtain ⟨passes, passingRest⟩ := passing
      obtain ⟨sent', ranRest⟩ := ih passingRest
      refine ⟨sent', ?_⟩
      rw [List.length_cons, ← Nat.add_assoc, List.flatMap_cons, List.append_assoc,
        passes.run_deleteHits sends unlimited, Session.run_map, ranRest, ← Session.run_map,
        Functor.map_map]
      simp only [news, List.map_append, List.append_assoc]

/-- After rounds that pass what is left of a deletion is run.  The limit on the rounds does
not end it. -/
theorem run_deleteFound_passing (sends : Link.canSend cluster.url = true) {rounds : List Round}
    {found : Reply} (repeated : request.size = none ∨ rounds = [])
    (passing : Passing [] rounds) :
    ∃ limit sent', (cluster.deleteFound request).run
        ⟨true, rounds.flatMap Round.replies ++ found :: reply :: replies, sent⟩ =
      ((news [] rounds ++ ·) <$> cluster.deleteHits request (limit + 2)
        ((news [] rounds).map place)).run ⟨true, found :: reply :: replies, sent'⟩ := by
  have enough : (rounds.flatMap Round.replies ++ found :: reply :: replies).length + 1 =
      rounds.length + replies.length + 1 + 2 + rounds.length := by
    rw [List.length_append, length_flatMap_replies, List.length_cons, List.length_cons]
    omega
  refine ⟨rounds.length + replies.length + 1, ?_⟩
  change ∃ sent', (cluster.deleteHits request
    ((rounds.flatMap Round.replies ++ found :: reply :: replies).length + 1) []).run _ = _
  rw [enough]
  rcases repeated with unlimited | rfl
  · exact run_deleteHits_passing sends unlimited passing
  · refine ⟨sent, ?_⟩
    simp [news]

/-- No search follows, or one that finds nothing. -/
def Ends (request : Search.Request) (replies : List Reply) : Prop :=
  request.size ≠ none ∨
    ∃ last others, replies = last :: others ∧ Succeeds last ∧ hitsOf last = []

theorem exists_run_deleteHits_of_ends (sends : Link.canSend cluster.url = true)
    (ends : Ends request replies) (page : List Row) (seen : List String) :
    ∃ found, ((if request.size.isSome then pure page else
      (page ++ ·) <$> cluster.deleteHits request (limit + 1) seen).run ⟨true, replies, sent⟩).1 =
      .ok found := by
  cases size : request.size with
  | some number => exact ⟨page, rfl⟩
  | none =>
      rcases ends with limited | ⟨last, others, rfl, succeeds, nothing⟩
      · exact absurd size limited
      · have ran := @run_deleteHits_of_nil cluster request last others sent limit seen sends
          succeeds nothing
        refine ⟨page ++ [], ?_⟩
        change (Session.run (_ <$> _) _).1 = _
        rw [Session.run_map, ran]
        rfl

namespace ReportsErrors

variable (reports : ReportsErrors reply value) (sends : Link.canSend cluster.url = true)
  {rounds : List Round} {found : Reply} (repeated : request.size = none ∨ rounds = [])
  (passing : Passing [] rounds) (succeeds : Succeeds found)
  (new : unseen ((news [] rounds).map place) (hitsOf found) ≠ [])

include reports sends repeated passing succeeds new

/-- After rounds that pass a deletion fails with the first failure of the next round. -/
theorem deleteFound_eq_error (fails : FirstFailure value failure) :
    ((cluster.deleteFound request).run
      ⟨true, rounds.flatMap Round.replies ++ found :: reply :: replies, sent⟩).1 =
      .error failure := by
  obtain ⟨success, read, errors⟩ := reports
  obtain ⟨limit, sent', ran⟩ := @run_deleteFound_passing cluster request reply replies sent sends
    rounds found repeated passing
  have next := @run_deleteHits_new cluster request reply replies sent' value
    ((news [] rounds).map place) (limit + 1) sends found succeeds new success read
  rw [bulkFailure?_eq_some_iff.mpr ⟨errors, fails⟩] at next
  rw [ran, Session.run_map, next]
  rfl

/-- If no item tells a failure and the deletion ends with this round, it succeeds. -/
theorem exists_deleteFound_eq_ok (ends : Ends request replies)
    (unfailed : ∀ failure, ¬ FirstFailure value failure) :
    ∃ hits, ((cluster.deleteFound request).run
      ⟨true, rounds.flatMap Round.replies ++ found :: reply :: replies, sent⟩).1 = .ok hits := by
  obtain ⟨success, read, errors⟩ := reports
  obtain ⟨limit, sent', ran⟩ := @run_deleteFound_passing cluster request reply replies sent sends
    rounds found repeated passing
  have passes : bulkFailure? value = none := by
    rw [Option.eq_none_iff_forall_ne_some]
    exact fun failure failed => unfailed failure (bulkFailure?_eq_some_iff.mp failed).2
  have next := @run_deleteHits_new cluster request reply replies sent' value
    ((news [] rounds).map place) (limit + 1) sends found succeeds new success read
  rw [passes] at next
  obtain ⟨hits, ended⟩ := @exists_run_deleteHits_of_ends cluster request replies
    (sent' ++ [cluster.searchRequest request] ++ [cluster.deletionRequest
      (unseen ((news [] rounds).map place) (hitsOf found)) request.size.isNone]) limit sends ends
    (unseen ((news [] rounds).map place) (hitsOf found))
    ((news [] rounds).map place ++
      (unseen ((news [] rounds).map place) (hitsOf found)).map place)
  refine ⟨news [] rounds ++ hits, ?_⟩
  rw [ran, Session.run_map, next]
  exact congrArg (Except.map (news [] rounds ++ ·)) ended

end ReportsErrors

/-! ## Failures and first failures -/

/-- If a reply to lines says that there were errors, the lines fail exactly if an item tells a
failure, and then with the first.  So do upserts, updates and deletions of more rows than are
written one by one, and deletions of what is found, in whatever round the reply comes. -/
theorem fails_iff_firstFailure (sends : Link.canSend cluster.url = true)
    (reports : ReportsErrors reply value) (failure : Error) :
    (∀ body refresh replies sent,
      ((cluster.bulk body refresh).run ⟨true, reply :: replies, sent⟩).1 = .error failure ↔
        FirstFailure value failure) ∧
    (∀ table rows replies sent, singleWrites < rows.length →
      (((cluster.database.upsert table rows none).run ⟨true, reply :: replies, sent⟩).1 =
          .error failure ↔ FirstFailure value failure) ∧
      (Addressed table .update rows →
        (((cluster.database.update table rows none).run ⟨true, reply :: replies, sent⟩).1 =
          .error failure ↔ FirstFailure value failure)) ∧
      (Addressed table .delete rows →
        (((cluster.write table .delete rows).run ⟨true, reply :: replies, sent⟩).1 =
          .error failure ↔ FirstFailure value failure))) ∧
    (∀ request rounds found replies sent, (request.size = none ∨ rounds = []) →
      Passing [] rounds → Succeeds found →
      unseen ((news [] rounds).map place) (hitsOf found) ≠ [] →
      let result := ((cluster.deleteFound request).run
        ⟨true, rounds.flatMap Round.replies ++ found :: reply :: replies, sent⟩).1
      (FirstFailure value failure → result = .error failure) ∧
      (Ends request replies → (result = .error failure ↔ FirstFailure value failure))) := by
  refine ⟨fun body refresh replies sent => reports.bulk_eq_error_iff sends, ?_, ?_⟩
  · intro table rows replies sent many
    refine ⟨?_, fun addressed => ?_, reports.write_eq_error_iff sends many⟩
    · rw [upsert_database]
      exact Session.run_map_eq_error.trans (reports.write_eq_error_iff sends many (.inl rfl))
    · rw [update_database]
      exact Session.run_map_eq_error.trans (reports.write_eq_error_iff sends many addressed)
  · intro request rounds found replies sent repeated passing succeeds new
    have fails (first : Error) := @ReportsErrors.deleteFound_eq_error cluster request reply replies
      sent value first reports sends rounds found repeated passing succeeds new
    refine ⟨fails failure, fun ends => ⟨fun failed => ?_, fails failure⟩⟩
    have some : ∃ first, FirstFailure value first := by
      by_contra none
      obtain ⟨hits, ended⟩ := @ReportsErrors.exists_deleteFound_eq_ok cluster request reply replies
        sent value reports sends rounds found repeated passing succeeds new ends
        (not_exists.mp none)
      cases failed.symm.trans ended
    obtain ⟨first, told⟩ := some
    rwa [← Except.error.inj ((fails first told).symm.trans failed)]

/-- Three films. -/
def threeFilms : List Row :=
  [[("id", .str "psycho")], [("id", .str "marnie")], [("id", .str "vertigo")]]

/-- Of two documents the second was not written. -/
def mixedReply : Reply :=
  ⟨200, (Json.obj [("errors", .bool true), ("items", .arr
    [.obj [("index", .obj [("_id", .str "psycho"), ("status", .nat 201)])],
      .obj [("index", .obj [("error", .str "full"), ("status", .nat 429)])]])]).compact⟩

/-- The film that was not written makes the upsert fail, and so would a deletion of two films. -/
theorem fails_iff_firstFailure_mixedReply :
    Link.canSend localCluster.url = true ∧ (∃ value, ReportsErrors mixedReply value) ∧
    ((localCluster.database.upsert films threeFilms none).run ⟨true, [mixedReply], []⟩).1 =
      .error (.elastic 429 "\"full\"") ∧
    ((localCluster.deleteFound (filmSearch none)).run
      ⟨true, [pageReply filmAddresses, mixedReply], []⟩).1 = .error (.elastic 429 "\"full\"") := by
  have sends : Link.canSend localCluster.url = true := by decide
  have told : mixedReply.value?.map bulkFailure? = some (some (.elastic 429 "\"full\"")) := by
    decide +kernel
  obtain ⟨value, read, failed⟩ := Option.map_eq_some_iff.mp told
  obtain ⟨errors, first⟩ := bulkFailure?_eq_some_iff.mp failed
  have reports : ReportsErrors mixedReply value := ⟨by decide, read, errors⟩
  obtain ⟨-, writes, deletions⟩ := fails_iff_firstFailure sends reports (.elastic 429 "\"full\"")
  obtain ⟨success, readable, -⟩ := pageReply_filmAddresses filmAddresses (by decide)
  have new : (unseen [] (hitsOf (pageReply filmAddresses))).isEmpty = false := by decide +kernel
  refine ⟨sends, ⟨value, reports⟩, ?_, ?_⟩
  · exact (writes films threeFilms [] [] (by decide)).1.mpr first
  · exact (deletions (filmSearch none) [] (pageReply filmAddresses) [] [] (.inl rfl) trivial
      ⟨success, Option.isSome_iff_ne_none.mp readable⟩ (by simpa [news] using new)).1 first

/-- Nothing but that there were errors. -/
def bareReply : Reply :=
  ⟨200, (Json.obj [("errors", .bool true)]).compact⟩

/-- The films count as written although the reply says that there were errors. -/
theorem upsert_succeeds_bareReply :
    (∃ value, ReportsErrors bareReply value) ∧
    ((localCluster.database.upsert films threeFilms none).run ⟨true, [bareReply], []⟩).1.isOk =
      true := by
  have told : bareReply.value?.map (fun value => (value.field "errors").asBool?) =
      some (some true) := by decide +kernel
  obtain ⟨value, read, errors⟩ := Option.map_eq_some_iff.mp told
  refine ⟨⟨value, by decide, read, Json.asBool?_eq_some_iff.mp errors⟩, ?_⟩
  decide +kernel

end Cluster

end Polyquery
