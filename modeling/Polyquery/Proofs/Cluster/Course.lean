import Polyquery.Proofs.Cluster.Deletion

/-!
# Courses of deletions

A deletion of what is found is a loop, and nothing in a reply has to be true: hits may come
again on one page or on a later one, a search may never come to an end of them, and any
reply may be a failure.  A course is how the loop goes on with given replies, without a
limit on its rounds.  Every round deletes a document that no round before it has deleted, so
that there is a course if the hits are about finitely many documents.
-/

namespace Polyquery

open Http (Link Reply Request)

/-! ## Results of requests -/

/-- What a reply says, or how the request failed. -/
def Http.Reply.answer (reply : Reply) : Result Json :=
  if reply.isSuccess then
    match reply.value? with
    | some value => .ok value
    | none => .error .json
  else .error (.elastic reply.status reply.text)

theorem Http.Reply.answer_eq_ok_iff {reply : Reply} {value : Json} :
    reply.answer = .ok value ↔ reply.isSuccess = true ∧ reply.value? = some value := by
  unfold answer
  cases reply.isSuccess with
  | false => simp
  | true => cases reply.value? <;> simp

namespace Cluster

variable {cluster : Cluster} {request : Search.Request} {reply : Reply} {replies : List Reply}
  {sent : List Request} {limit : Nat} {seen : List String} {page : List Row} {hit : Row}
  {address : Address} {documents : Finset Address}

/-- What a reply to lines says, or how they failed. -/
def linesAnswer (reply : Reply) : Result Json := do
  let value ← reply.answer
  match bulkFailure? value with
  | some failure => .error failure
  | none => .ok value

/-- A request that is sent has the result that the next reply says. -/
theorem run_send_eq {method : Http.Method} {url : Url} {payload : Option Http.Payload}
    (sends : Link.canSend url = true) :
    (send method url payload).run ⟨true, replies, sent⟩ =
      ((replies.headD Reply.plain).answer,
        ⟨true, replies.tail, sent ++ [⟨method, url, payload⟩]⟩) := by
  rw [send, Session.run_bind, Link.run_exchange sends rfl]
  dsimp only
  generalize replies.headD Reply.plain = reply
  unfold Reply.answer Reply.value?
  cases reply.isSuccess with
  | false => rfl
  | true =>
      simp only [Bool.not_true, Bool.false_eq_true, if_false, if_true]
      split_ifs with blank
      · rfl
      · cases Json.ofText? reply.text <;> rfl

theorem run_search_eq (sends : Link.canSend cluster.url = true) :
    (cluster.search request).run ⟨true, replies, sent⟩ =
      ((replies.headD Reply.plain).answer,
        ⟨true, replies.tail, sent ++ [cluster.searchRequest request]⟩) :=
  run_send_eq (by simpa using sends)

theorem run_bulk_eq {body : String} {refresh : Bool} (sends : Link.canSend cluster.url = true) :
    (cluster.bulk body refresh).run ⟨true, replies, sent⟩ =
      (linesAnswer (replies.headD Reply.plain),
        ⟨true, replies.tail, sent ++ [cluster.linesRequest body refresh]⟩) := by
  rw [bulk, Session.run_bind, run_send_eq (by simpa using sends), linesAnswer]
  cases (replies.headD Reply.plain).answer with
  | error failure => rfl
  | ok value =>
      change Session.run (match bulkFailure? value with
        | some failure => throw failure
        | none => pure value) _ = (match bulkFailure? value with
        | some failure => .error failure
        | none => .ok value, _)
      cases bulkFailure? value <;> rfl

/-! ## Hits that are new -/

theorem unseen_sublist (seen : List String) (page : List Row) :
    (unseen seen page).Sublist page := by
  induction page generalizing seen with
  | nil => exact .slnil
  | cons hit rest ih =>
      rw [unseen]
      split
      · exact (ih seen).cons hit
      · exact (ih (place hit :: seen)).cons_cons hit

theorem place_not_mem_of_mem_unseen (new : hit ∈ unseen seen page) : place hit ∉ seen := by
  induction page generalizing seen with
  | nil => cases new
  | cons first rest ih =>
      rw [unseen] at new
      split at new
      · exact ih new
      · rename_i unknown
        rcases List.mem_cons.mp new with rfl | later
        · simpa using unknown
        · exact fun known => ih later (List.mem_cons_of_mem _ known)

theorem nodup_place_unseen (seen : List String) (page : List Row) :
    ((unseen seen page).map place).Nodup := by
  induction page generalizing seen with
  | nil => exact List.nodup_nil
  | cons hit rest ih =>
      rw [unseen]
      split
      · exact ih seen
      · rw [List.map_cons, List.nodup_cons]
        refine ⟨?_, ih (place hit :: seen)⟩
        intro again
        obtain ⟨other, later, same⟩ := List.mem_map.mp again
        exact place_not_mem_of_mem_unseen later (same ▸ List.mem_cons_self)

/-- A hit is new, or its document has been seen or comes on the page before it. -/
theorem place_mem_append_unseen (seen : List String) (mem : hit ∈ page) :
    place hit ∈ seen ++ (unseen seen page).map place := by
  induction page generalizing seen with
  | nil => cases mem
  | cons first rest ih =>
      rw [unseen]
      split
      · rename_i known
        rcases List.mem_cons.mp mem with rfl | later
        · exact List.mem_append_left _ (by simpa using known)
        · exact ih seen later
      · rcases List.mem_cons.mp mem with rfl | later
        · simp
        · have inFront := ih (place first :: seen) later
          simp only [List.mem_append, List.mem_cons, List.map_cons] at inFront ⊢
          tauto

/-! ## Courses -/

/-- How a deletion goes on with replies, where the documents at some places have been seen: the
pages of hits that it deletes, the requests that it sends and its result. -/
inductive Course (cluster : Cluster) (request : Search.Request) :
    (seen : List String) → (replies : List Reply) → (pages : List (List Row)) →
      (requests : List Request) → (result : Result (List Row)) → Prop
  /-- The search fails or finds nothing new. -/
  | searched {seen : List String} {replies : List Reply}
      (nothing : ∀ value, (replies.headD Reply.plain).answer = .ok value →
        unseen seen (hits value) = []) :
      Course cluster request seen replies [] [cluster.searchRequest request]
        ((replies.headD Reply.plain).answer.map fun _ => [])
  /-- The deletion of what is new fails, or the number of hits is limited. -/
  | deleted {seen : List String} {replies : List Reply} {value : Json} {page : List Row}
      (read : (replies.headD Reply.plain).answer = .ok value)
      (found : unseen seen (hits value) = page) (new : page ≠ [])
      (last : ∀ answer, linesAnswer ((replies.drop 1).headD Reply.plain) = .ok answer →
        request.size ≠ none) :
      Course cluster request seen replies [page]
        [cluster.searchRequest request, cluster.deletionRequest page request.size.isNone]
        ((linesAnswer ((replies.drop 1).headD Reply.plain)).map fun _ => page)
  /-- What is new is deleted, and the search is repeated. -/
  | round {seen : List String} {replies : List Reply} {value answer : Json} {page : List Row}
      {pages : List (List Row)} {requests : List Request} {result : Result (List Row)}
      (read : (replies.headD Reply.plain).answer = .ok value)
      (found : unseen seen (hits value) = page) (new : page ≠ [])
      (deleted : linesAnswer ((replies.drop 1).headD Reply.plain) = .ok answer)
      (unlimited : request.size = none)
      (rest : Course cluster request (seen ++ page.map place) (replies.drop 2) pages requests
        result) :
      Course cluster request seen replies (page :: pages)
        (cluster.searchRequest request ::
          cluster.deletionRequest page request.size.isNone :: requests)
        (result.map (page ++ ·))

/-- What is sent to find a page of hits and to delete it. -/
def pageRequests (cluster : Cluster) (request : Search.Request) (page : List Row) : List Request :=
  [cluster.searchRequest request, cluster.deletionRequest page request.size.isNone]

/-- One round of a deletion. -/
theorem run_deleteHits_succ (sends : Link.canSend cluster.url = true) :
    (cluster.deleteHits request (limit + 1) seen).run ⟨true, replies, sent⟩ =
      match (replies.headD Reply.plain).answer with
      | .error failure =>
        (.error failure, ⟨true, replies.drop 1, sent ++ [cluster.searchRequest request]⟩)
      | .ok value =>
        let page := unseen seen (hits value)
        if page.isEmpty then
          (.ok [], ⟨true, replies.drop 1, sent ++ [cluster.searchRequest request]⟩)
        else
          let after : Link := ⟨true, replies.drop 2, sent ++ [cluster.searchRequest request] ++
            [cluster.deletionRequest page request.size.isNone]⟩
          match linesAnswer ((replies.drop 1).headD Reply.plain) with
          | .error failure => (.error failure, after)
          | .ok _ =>
            (if request.size.isSome then pure page else
              (page ++ ·) <$> cluster.deleteHits request limit (seen ++ page.map place)).run
              after := by
  rw [deleteHits, Session.run_bind, run_search_eq sends, ← List.drop_one]
  cases (replies.headD Reply.plain).answer with
  | error failure => rfl
  | ok value =>
      dsimp only
      cases (unseen seen (hits value)).isEmpty with
      | true => rfl
      | false =>
          simp only [Bool.false_eq_true, if_false, Session.run_bind, run_bulk_eq sends,
            List.tail_drop]
          cases linesAnswer ((replies.drop 1).headD Reply.plain) with
          | error failure => rfl
          | ok answer => cases request.size.isSome <;> rfl

namespace Course

variable {pages : List (List Row)} {requests : List Request} {result : Result (List Row)}

/-- The loop follows the course, if its limit leaves place for the last search. -/
theorem run_deleteHits (course : Course cluster request seen replies pages requests result)
    (sends : Link.canSend cluster.url = true) (enough : pages.length < limit) :
    (cluster.deleteHits request limit seen).run ⟨true, replies, sent⟩ =
      (result, ⟨true, replies.drop requests.length, sent ++ requests⟩) := by
  induction course generalizing limit sent with
  | @searched seen replies nothing =>
      obtain ⟨limit, rfl⟩ := Nat.exists_eq_add_one.mpr (Nat.zero_lt_of_lt enough)
      rw [run_deleteHits_succ sends, List.length_singleton]
      cases read : (replies.headD Reply.plain).answer with
      | error failure => rfl
      | ok value => simp [nothing value read, Except.map]
  | @deleted seen replies value page read found new last =>
      obtain ⟨limit, rfl⟩ := Nat.exists_eq_add_one.mpr (Nat.zero_lt_of_lt enough)
      rw [run_deleteHits_succ sends, read]
      cases answered : linesAnswer ((replies.drop 1).headD Reply.plain) with
      | error failure => simp [found, new, Except.map]
      | ok answer =>
          have limited : request.size.isSome = true :=
            Option.isSome_iff_ne_none.mpr (last answer answered)
          simp [found, new, limited, Except.map]
  | round read found new deleted unlimited rest ih =>
      obtain ⟨limit, rfl⟩ := Nat.exists_eq_add_one.mpr (Nat.zero_lt_of_lt enough)
      rw [run_deleteHits_succ sends, read, deleted, List.length_cons, List.length_cons,
        Nat.add_assoc, Nat.add_comm _ (1 + 1), ← List.drop_drop]
      simp [found, new, unlimited, Session.run_map, ih (Nat.lt_of_succ_lt_succ enough),
        -List.drop_drop]

/-- Searches and deletions take turns, and a search comes first. -/
theorem requests_eq (course : Course cluster request seen replies pages requests result) :
    ∃ last, (last = [] ∨ last = [cluster.searchRequest request]) ∧
      requests = pages.flatMap (pageRequests cluster request) ++ last := by
  induction course with
  | searched => exact ⟨_, .inr rfl, rfl⟩
  | deleted => exact ⟨[], .inl rfl, rfl⟩
  | round _ _ _ _ _ _ ih =>
      obtain ⟨last, ends, rfl⟩ := ih
      exact ⟨last, ends, rfl⟩

/-- The rows of a course that succeeds are the hits that were deleted. -/
theorem rows_eq (course : Course cluster request seen replies pages requests result)
    {rows : List Row} (ok : result = .ok rows) : rows = pages.flatten := by
  have values {α β : Type} {first : Result α} {f : α → β} {b : β} (made : first.map f = .ok b) :
      ∃ a, first = .ok a ∧ b = f a := by
    cases first with
    | error failure => cases made
    | ok a => exact ⟨a, rfl, (Except.ok.inj made).symm⟩
  induction course generalizing rows with
  | searched =>
      obtain ⟨-, -, rfl⟩ := values ok
      rfl
  | deleted =>
      obtain ⟨-, -, rfl⟩ := values ok
      rw [List.flatten_singleton]
  | round _ _ _ _ _ _ ih =>
      obtain ⟨others, same, rfl⟩ := values ok
      rw [List.flatten_cons, ih same]

/-- No document is deleted twice, and none that has been seen before. -/
theorem nodup_place (course : Course cluster request seen replies pages requests result) :
    (pages.flatten.map place).Nodup ∧ ∀ hit ∈ pages.flatten, place hit ∉ seen := by
  induction course with
  | searched => exact ⟨List.nodup_nil, nofun⟩
  | deleted _ found =>
      rw [List.flatten_singleton, ← found]
      exact ⟨nodup_place_unseen _ _, fun hit mem => place_not_mem_of_mem_unseen mem⟩
  | round _ found _ _ _ _ ih =>
      obtain ⟨distinct, fresh⟩ := ih
      rw [List.flatten_cons, List.map_append, List.nodup_append, List.forall_mem_append]
      refine ⟨⟨found ▸ nodup_place_unseen _ _, distinct, ?_⟩, ?_, ?_⟩
      · rintro _ here _ later rfl
        obtain ⟨hit, mem, same⟩ := List.mem_map.mp later
        exact fresh hit mem (List.mem_append_right _ (same ▸ here))
      · exact fun hit mem => place_not_mem_of_mem_unseen (found ▸ mem)
      · exact fun hit mem known => fresh hit mem (List.mem_append_left _ known)

end Course

/-! ## Hits of searches -/

/-- A search finds a hit at once. -/
def FoundFirst (replies : List Reply) (hit : Row) : Prop :=
  ∃ reply others, replies = reply :: others ∧ reply.isSuccess = true ∧ hit ∈ hitsOf reply

/-- A search has found a hit: of the requests that have been sent to a server with some replies,
every second one is a search. -/
def Found (replies : List Reply) (requests : List Request) (hit : Row) : Prop :=
  ∃ i, 2 * i < requests.length ∧ FoundFirst (replies.drop (2 * i)) hit

/-- Replies after the last one have no hits. -/
theorem foundFirst_iff : FoundFirst replies hit ↔
    ∃ value, (replies.headD Reply.plain).answer = .ok value ∧ hit ∈ hits value := by
  constructor
  · rintro ⟨reply, others, rfl, success, mem⟩
    cases read : reply.value? with
    | none => simp [hitsOf, read] at mem
    | some value =>
        refine ⟨value, Reply.answer_eq_ok_iff.mpr ⟨success, read⟩, ?_⟩
        simpa [hitsOf, read] using mem
  · rintro ⟨value, answered, mem⟩
    obtain ⟨success, read⟩ := Reply.answer_eq_ok_iff.mp answered
    cases replies with
    | nil =>
        obtain rfl : Json.obj [] = value := Option.some.inj (value?_plain.symm.trans read)
        cases mem
    | cons reply others =>
        refine ⟨reply, others, rfl, success, ?_⟩
        rw [hitsOf, show reply.value? = some value from read]
        exact mem

theorem found_singleton {request : Request} :
    Found replies [request] hit ↔ FoundFirst replies hit := by
  constructor
  · rintro ⟨i, sent, found⟩
    obtain rfl : i = 0 := by
      rw [List.length_singleton] at sent
      omega
    exact found
  · exact fun found => ⟨0, Nat.one_pos, found⟩

theorem found_cons_cons {first second : Request} {requests : List Request} :
    Found replies (first :: second :: requests) hit ↔
      FoundFirst replies hit ∨ Found (replies.drop 2) requests hit := by
  constructor
  · rintro ⟨i | i, sent, found⟩
    · exact .inl found
    · refine .inr ⟨i, by simpa [Nat.mul_succ] using sent, ?_⟩
      rwa [List.drop_drop, Nat.add_comm]
  · rintro (found | ⟨i, sent, found⟩)
    · exact ⟨0, Nat.succ_pos _, found⟩
    · refine ⟨i + 1, by simpa [Nat.mul_succ] using sent, ?_⟩
      rwa [List.drop_drop, Nat.add_comm] at found

namespace Course

variable {pages : List (List Row)} {requests : List Request} {result : Result (List Row)}

/-- The hits that are deleted have been found. -/
theorem found_of_mem (course : Course cluster request seen replies pages requests result)
    (mem : hit ∈ pages.flatten) : Found replies requests hit := by
  induction course with
  | searched => cases mem
  | deleted read found =>
      rw [List.flatten_singleton, ← found] at mem
      exact found_cons_cons.mpr (.inl (foundFirst_iff.mpr ⟨_, read, (unseen_sublist _ _).mem mem⟩))
  | round read found _ _ _ _ ih =>
      rw [List.flatten_cons, List.mem_append, ← found] at mem
      refine found_cons_cons.mpr (mem.imp (fun here => ?_) ih)
      exact foundFirst_iff.mpr ⟨_, read, (unseen_sublist _ _).mem here⟩

/-- A document that has been found is deleted, unless it has been seen before. -/
theorem place_mem_of_found (course : Course cluster request seen replies pages requests result)
    (hasFound : Found replies requests hit) : place hit ∈ seen ++ pages.flatten.map place := by
  induction course with
  | @searched seen replies nothing =>
      obtain ⟨value, read, mem⟩ := foundFirst_iff.mp (found_singleton.mp hasFound)
      have inFront := place_mem_append_unseen seen mem
      rwa [nothing value read] at inFront
  | deleted read found =>
      rcases found_cons_cons.mp hasFound with first | ⟨i, sent, -⟩
      · obtain ⟨value, again, mem⟩ := foundFirst_iff.mp first
        cases read.symm.trans again
        rw [List.flatten_singleton, ← found]
        exact place_mem_append_unseen _ mem
      · exact absurd sent (Nat.not_lt_zero _)
  | round read found _ _ _ _ ih =>
      rw [List.flatten_cons, List.map_append, ← List.append_assoc]
      rcases found_cons_cons.mp hasFound with first | later
      · obtain ⟨value, again, mem⟩ := foundFirst_iff.mp first
        cases read.symm.trans again
        rw [← found]
        exact List.mem_append_left _ (place_mem_append_unseen _ mem)
      · exact ih later

/-- Every page that is deleted uses up a reply. -/
theorem length_pages_le (course : Course cluster request seen replies pages requests result) :
    pages.length ≤ replies.length := by
  have some {seen : List String} {replies : List Reply} {value : Json}
      (read : (replies.headD Reply.plain).answer = .ok value)
      (new : unseen seen (hits value) ≠ []) : 0 < replies.length := by
    obtain ⟨hit, mem⟩ := List.exists_mem_of_ne_nil _ new
    obtain ⟨reply, others, rfl, -⟩ :=
      foundFirst_iff.mpr ⟨value, read, (unseen_sublist _ _).mem mem⟩
    exact Nat.succ_pos _
  induction course with
  | searched => exact Nat.zero_le _
  | deleted read found new => exact some read (found ▸ new)
  | round read found new _ _ _ ih =>
      have replied := some read (found ▸ new)
      rw [List.length_drop] at ih
      rw [List.length_cons]
      omega

end Course

/-! ## Courses that end -/

/-- The hits of searches that succeed are all about some documents. -/
def HitsAmong (documents : Finset Address) (replies : List Reply) : Prop :=
  ∀ reply ∈ replies, reply.isSuccess = true →
    ∀ hit ∈ hitsOf reply, ∃ address ∈ documents, address? hit = some address

theorem HitsAmong.of_foundFirst (among : HitsAmong documents replies)
    (found : FoundFirst replies hit) : ∃ address ∈ documents, address? hit = some address := by
  obtain ⟨reply, others, rfl, success, mem⟩ := found
  exact among reply List.mem_cons_self success hit mem

theorem HitsAmong.drop (among : HitsAmong documents replies) (n : ℕ) :
    HitsAmong documents (replies.drop n) :=
  fun reply mem => among reply (List.mem_of_mem_drop mem)

/-- The documents that have not been seen. -/
def unseenAmong (documents : Finset Address) (seen : List String) : Finset Address :=
  documents.filter fun address => address.place ∉ seen

/-- When a new document is seen, fewer are unseen. -/
theorem card_unseenAmong_lt {more : List String} (new : address ∈ unseenAmong documents seen)
    (found : address.place ∈ more) :
    (unseenAmong documents (seen ++ more)).card < (unseenAmong documents seen).card := by
  apply Finset.card_lt_card
  refine Finset.ssubset_iff_subset_ne.mpr ⟨?_, ?_⟩
  · intro other mem
    simp only [unseenAmong, Finset.mem_filter, List.mem_append, not_or] at mem ⊢
    exact ⟨mem.1, mem.2.1⟩
  · intro same
    rw [← same] at new
    exact (Finset.mem_filter.mp new).2 (List.mem_append_right _ found)

/-- There is a course for all replies whose hits are about finitely many documents, and it deletes
no more pages than there are unseen documents. -/
theorem exists_course (among : HitsAmong documents replies) (seen : List String) :
    ∃ pages requests result, Course cluster request seen replies pages requests result ∧
      pages.length ≤ (unseenAmong documents seen).card := by
  -- Every page that is deleted leaves fewer documents unseen.
  induction left : (unseenAmong documents seen).card using Nat.strong_induction_on
    generalizing seen replies with
  | _ number ih =>
      by_cases nothing : ∀ value, (replies.headD Reply.plain).answer = .ok value →
          unseen seen (hits value) = []
      · exact ⟨_, _, _, .searched nothing, Nat.zero_le _⟩
      · push Not at nothing
        obtain ⟨value, read, new⟩ := nothing
        obtain ⟨hit, mem⟩ := List.exists_mem_of_ne_nil _ new
        obtain ⟨address, known, isAt⟩ := among.of_foundFirst
          (foundFirst_iff.mpr ⟨value, read, (unseen_sublist _ _).mem mem⟩)
        have fresh : address ∈ unseenAmong documents seen :=
          Finset.mem_filter.mpr ⟨known, place_eq isAt ▸ place_not_mem_of_mem_unseen mem⟩
        by_cases last : ∀ answer, linesAnswer ((replies.drop 1).headD Reply.plain) = .ok answer →
            request.size ≠ none
        · exact ⟨_, _, _, .deleted read rfl new last, left ▸ Finset.card_pos.mpr ⟨_, fresh⟩⟩
        · push Not at last
          obtain ⟨answer, deleted, unlimited⟩ := last
          have fewer := card_unseenAmong_lt fresh (List.mem_map.mpr ⟨hit, mem, place_eq isAt⟩)
          rw [left] at fewer
          obtain ⟨pages, requests, result, course, bound⟩ := ih _ fewer (among.drop 2) _ rfl
          exact ⟨_, _, _, .round read rfl new deleted unlimited course,
            Nat.succ_le_of_lt (bound.trans_lt fewer)⟩

end Cluster

end Polyquery
