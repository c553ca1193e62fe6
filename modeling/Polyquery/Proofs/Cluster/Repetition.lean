import Polyquery.Proofs.Cluster.Course

/-!
# Hits that are repeated

Whatever a server replies to a deletion, no line asks for a document that a line before has
asked for, and the deletion ends after one search more than there are documents among the
hits, however often these are repeated.  What it asks for is read off the requests, and
turns out to be what its searches have found.
-/

namespace Polyquery.Cluster

open Http (Link Reply Request)

variable {cluster : Cluster} {request : Search.Request} {replies : List Reply}
  {requests others : List Request} {pages : List (List Row)} {documents : Finset Address}
  {link : Link}

/-! ## What requests ask for -/

/-- Whether a request carries lines. -/
def carriesLines (request : Request) : Bool :=
  match request.payload with
  | some (.lines _) => true
  | _ => false

/-- The operations that a request asks for by lines; none if the lines cannot be read. -/
def asked? (request : Request) : Option (List Operation) :=
  match request.payload with
  | some (.lines body) => Operation.ofBody? body
  | _ => some []

/-- The operations that requests ask for by lines, one request after the other. -/
def operations? (requests : List Request) : Option (List Operation) :=
  List.flatten <$> requests.mapM asked?

theorem operations?_append {first second : List Operation}
    (asks : operations? requests = some first)
    (asksNext : operations? others = some second) :
    operations? (requests ++ others) = some (first ++ second) := by
  obtain ⟨lists, read, rfl⟩ := Option.map_eq_some_iff.mp asks
  obtain ⟨more, readNext, rfl⟩ := Option.map_eq_some_iff.mp asksNext
  simp [operations?, List.mapM_append, read, readNext]

/-- The requests for pages of hits ask for the deletion of the documents of these hits. -/
theorem exists_addresses_operations? (known : ∀ hit ∈ pages.flatten,
    ∃ address ∈ documents, address? hit = some address) :
    ∃ addresses : List Address, pages.flatten.map address? = addresses.map some ∧
      pages.flatten.map place = addresses.map Address.place ∧
      operations? (pages.flatMap (pageRequests cluster request)) =
        some (addresses.map Address.deletion) := by
  induction pages with
  | nil => exact ⟨[], rfl, rfl, rfl⟩
  | cons page rest ih =>
      rw [List.flatten_cons, List.forall_mem_append] at known
      obtain ⟨knownHere, knownRest⟩ := known
      obtain ⟨here, reported, places, lines, -⟩ := exists_addresses knownHere
      obtain ⟨later, reportedLater, placesLater, asks⟩ := ih knownRest
      have asksHere : operations? (pageRequests cluster request page) =
          some (here.map Address.deletion) := by
        have read : asked? (cluster.deletionRequest page request.size.isNone) =
            some (here.map Address.deletion) := ofBody?_deletionLines lines
        have none : asked? (cluster.searchRequest request) = some [] := rfl
        simp [operations?, pageRequests, read, none]
      refine ⟨here ++ later, ?_, ?_, ?_⟩
      · rw [List.flatten_cons, List.map_append, List.map_append, reported, reportedLater]
      · rw [List.flatten_cons, List.map_append, List.map_append, places, placesLater]
      · rw [List.flatMap_cons, List.map_append]
        exact operations?_append asksHere asks

theorem countP_pageRequests (pages : List (List Row)) :
    (pages.flatMap (pageRequests cluster request)).countP carriesLines = pages.length ∧
      (pages.flatMap (pageRequests cluster request)).countP (!carriesLines ·) = pages.length := by
  induction pages with
  | nil => exact ⟨rfl, rfl⟩
  | cons page rest ih =>
      have searches : carriesLines (cluster.searchRequest request) = false := rfl
      have deletes (refresh : Bool) : carriesLines (cluster.deletionRequest page refresh) = true :=
        rfl
      simp [List.flatMap_cons, ih, pageRequests, searches, deletes]

/-! ## Deletions -/

/-- The documents that the hits of successful replies are about. -/
def hitAddresses (replies : List Reply) : Finset Address :=
  (((replies.filter Reply.isSuccess).flatMap hitsOf).filterMap address?).toFinset

theorem hitsAmong_hitAddresses (addressed : ∀ reply ∈ replies, reply.isSuccess = true →
    ∀ hit ∈ hitsOf reply, address? hit ≠ none) : HitsAmong (hitAddresses replies) replies := by
  intro reply mem success hit found
  obtain ⟨address, isAt⟩ := Option.ne_none_iff_exists'.mp (addressed reply mem success hit found)
  refine ⟨address, ?_, isAt⟩
  simp only [hitAddresses, List.mem_toFinset, List.mem_filterMap, List.mem_flatMap, List.mem_filter]
  exact ⟨hit, ⟨reply, ⟨mem, success⟩, found⟩, isAt⟩

/-- A search that cannot be sent ends a deletion. -/
theorem exists_run_deleteHits_of_unsent
    (unsent : ¬ (Link.canSend cluster.url = true ∧ link.reachable = true)) :
    ∃ failure, ∀ limit seen,
      (cluster.deleteHits request (limit + 1) seen).run link = (.error failure, link) := by
  have searched : ∃ failure, (cluster.search request).run link = (.error failure, link) := by
    have refused (asked : Request) (sends : Link.canSend asked.url = Link.canSend cluster.url) :
        ∃ failure, (Link.exchange asked).run link = (.error failure, link) := by
      by_cases cannot : Link.canSend cluster.url = true
      · have unreachable : link.reachable = false := by simpa [cannot] using unsent
        exact ⟨_, by simp [Link.exchange, Session.run_bind, sends, cannot, unreachable]; rfl⟩
      · exact ⟨_, by simp [Link.exchange, Session.run_bind, sends, cannot]; rfl⟩
    obtain ⟨failure, failed⟩ := refused (cluster.searchRequest request) (by simp [searchRequest])
    refine ⟨failure, ?_⟩
    rw [search, send, Session.run_bind]
    dsimp only [searchRequest] at failed
    rw [failed]
  obtain ⟨failure, failed⟩ := searched
  refine ⟨failure, fun limit seen => ?_⟩
  rw [deleteHits, Session.run_bind, failed]

/-- What a deletion by a search asks for and returns, in terms of the pages of hits that it
deletes, its requests and the documents that these are to delete. -/
structure AsksOnce (cluster : Cluster) (request : Search.Request) (link : Link)
    (pages : List (List Row)) (requests : List Request) (addresses : List Address) : Prop where
  sent : ((cluster.deleteFound request).run link).2.sent = link.sent ++ requests
  /-- It searches and deletes in turns; behind the last deletion there may be a search. -/
  turns : ∃ last, (last = [] ∨ last = [cluster.searchRequest request]) ∧
    requests = pages.flatMap (fun page => [cluster.searchRequest request,
      cluster.deletionRequest page request.size.isNone]) ++ last
  /-- The lines of its requests name these documents and no others. -/
  asks : operations? requests = some (addresses.map Address.deletion)
  nodup : addresses.Nodup
  /-- The hits of the pages are about the documents, in order. -/
  reported : pages.flatten.map address? = addresses.map some
  rows : ∀ rows, ((cluster.deleteFound request).run link).1 = .ok rows → rows = pages.flatten
  /-- Only what a search has found is deleted, and all of it. -/
  found : ∀ hit ∈ pages.flatten, Found link.replies requests hit
  covers : ∀ hit, Found link.replies requests hit → address? hit ∈ addresses.map some
  deletions : requests.countP carriesLines ≤ (hitAddresses link.replies).card
  searches : requests.countP (!carriesLines ·) ≤ (hitAddresses link.replies).card + 1
  /-- No limit on the rounds that leaves place for all documents makes a difference. -/
  unlimited : ∀ limit > (hitAddresses link.replies).card,
    (cluster.deleteHits request limit []).run link = (cluster.deleteFound request).run link

/-- A deletion that cannot search asks for nothing. -/
theorem asksOnce_of_unsent
    (unsent : ¬ (Link.canSend cluster.url = true ∧ link.reachable = true)) :
    AsksOnce cluster request link [] [] [] := by
  obtain ⟨failure, failed⟩ := @exists_run_deleteHits_of_unsent cluster request link unsent
  have ran : (cluster.deleteFound request).run link = (.error failure, link) := failed _ _
  exact {
    sent := by rw [ran, List.append_nil]
    turns := ⟨[], .inl rfl, rfl⟩
    asks := rfl
    nodup := List.nodup_nil
    reported := rfl
    rows := by
      rw [ran]
      nofun
    found := nofun
    covers := by
      rintro hit ⟨i, sent, -⟩
      exact absurd sent (Nat.not_lt_zero _)
    deletions := Nat.zero_le _
    searches := Nat.zero_le _
    unlimited := by
      intro limit enough
      obtain ⟨limit, rfl⟩ := Nat.exists_eq_add_one.mpr (Nat.zero_lt_of_lt enough)
      rw [ran]
      exact failed limit [] }

/-- A deletion that can search takes a course among the documents of the hits. -/
theorem exists_asksOnce_of_canSend (canSend : Link.canSend cluster.url = true)
    {replies : List Reply} (sent : List Request)
    (addressed : ∀ reply ∈ replies, reply.isSuccess = true →
      ∀ hit ∈ hitsOf reply, address? hit ≠ none) :
    ∃ pages requests addresses,
      AsksOnce cluster request ⟨true, replies, sent⟩ pages requests addresses := by
  have among := hitsAmong_hitAddresses addressed
  obtain ⟨pages, requests, result, course, bound⟩ :=
    @exists_course cluster request replies _ among []
  have atMost : pages.length ≤ (hitAddresses replies).card := by
    simpa [unseenAmong] using bound
  have limited {limit : ℕ} (enough : pages.length < limit) :
      (cluster.deleteHits request limit []).run ⟨true, replies, sent⟩ =
        (result, ⟨true, replies.drop requests.length, sent ++ requests⟩) :=
    course.run_deleteHits canSend enough
  have ran : (cluster.deleteFound request).run ⟨true, replies, sent⟩ =
      (result, ⟨true, replies.drop requests.length, sent ++ requests⟩) :=
    limited (Nat.lt_succ_of_le course.length_pages_le)
  have known (hit) (mem : hit ∈ pages.flatten) :
      ∃ address ∈ hitAddresses replies, address? hit = some address := by
    obtain ⟨i, -, found⟩ := course.found_of_mem mem
    exact (among.drop (2 * i)).of_foundFirst found
  obtain ⟨addresses, reported, places, asks⟩ :=
    @exists_addresses_operations? cluster request pages _ known
  obtain ⟨last, ends, shape⟩ := course.requests_eq
  have lastAsks : operations? last = some [] ∧ last.countP carriesLines = 0 ∧
      last.countP (!carriesLines ·) ≤ 1 := by
    rcases ends with rfl | rfl
    · exact ⟨rfl, rfl, Nat.zero_le 1⟩
    · exact ⟨rfl, rfl, le_rfl⟩
  refine ⟨pages, requests, addresses, ?_⟩
  exact {
    sent := by rw [ran]
    turns := ⟨last, ends, shape⟩
    asks := by
      rw [shape, ← List.append_nil (addresses.map _)]
      exact operations?_append asks lastAsks.1
    nodup := by
      have distinct := course.nodup_place.1
      rw [places] at distinct
      exact distinct.of_map _
    reported := reported
    rows := by
      rw [ran]
      exact fun rows => course.rows_eq
    found := fun hit => course.found_of_mem
    covers := by
      rintro hit ⟨i, asked, found⟩
      obtain ⟨address, -, isAt⟩ := (among.drop (2 * i)).of_foundFirst found
      have deleted := course.place_mem_of_found ⟨i, asked, found⟩
      rw [List.nil_append, places, place_eq isAt] at deleted
      rw [isAt]
      exact List.mem_map_of_mem ((List.mem_map_of_injective Address.place_injective).mp deleted)
    deletions := by
      rw [shape, List.countP_append, (countP_pageRequests pages).1, lastAsks.2.1]
      exact atMost
    searches := by
      rw [shape, List.countP_append, (countP_pageRequests pages).2]
      exact Nat.add_le_add atMost lastAsks.2.2
    unlimited := fun limit enough => (limited (atMost.trans_lt enough)).trans ran.symm }

/-- Whatever a server replies, as long as its hits say where their documents are, a deletion
searches and deletes in turns, asks for no document twice, and returns what it has asked for.
These are the documents that its searches have found.  There are no more deletions than
documents that the hits are about, and at most one search more. -/
theorem deleteFound_asks_once (cluster : Cluster) (request : Search.Request) (link : Link)
    (addressed : ∀ reply ∈ link.replies, reply.isSuccess = true →
      ∀ hit ∈ hitsOf reply, address? hit ≠ none) :
    ∃ pages requests addresses, AsksOnce cluster request link pages requests addresses := by
  by_cases sends : Link.canSend cluster.url = true ∧ link.reachable = true
  · obtain ⟨canSend, reachable⟩ := sends
    obtain ⟨_, replies, sent⟩ := link
    obtain rfl : _ = true := reachable
    exact exists_asksOnce_of_canSend canSend sent addressed
  · exact ⟨[], [], [], asksOnce_of_unsent sends⟩

/-- The address of the film that is found over and over. -/
def oneFilm : Address :=
  ⟨"films", "psycho"⟩

/-- A server that finds the same film over and over, on its first page twice. -/
def repeatingReplies : List Reply :=
  [pageReply [oneFilm, oneFilm], .plain, pageReply [oneFilm], .plain]

/-- The film is deleted once.  The replies would do for more rounds, but there is only one. -/
theorem deleteFound_asks_once_repeatingReplies :
    (∀ reply ∈ repeatingReplies, reply.isSuccess = true →
      ∀ hit ∈ hitsOf reply, address? hit ≠ none) ∧
    hitAddresses repeatingReplies = {oneFilm} ∧
    let ran := (localCluster.deleteFound (filmSearch none)).run ⟨true, repeatingReplies, []⟩
    ran.1.toOption.map (List.map address?) = some [some oneFilm] ∧
    operations? ran.2.sent = some [oneFilm.deletion] ∧
    ran.2.sent.countP (!carriesLines ·) ≤ 2 ∧
    (localCluster.deleteHits (filmSearch none) 2 []).run ⟨true, repeatingReplies, []⟩ = ran := by
  obtain ⟨addressed, documents, found⟩ :
      (∀ reply ∈ repeatingReplies, reply.isSuccess = true →
        ∀ hit ∈ hitsOf reply, address? hit ≠ none) ∧
      hitAddresses repeatingReplies = {oneFilm} ∧
      ((localCluster.deleteFound (filmSearch none)).run
        ⟨true, repeatingReplies, []⟩).1.toOption.map (List.map address?) = some [some oneFilm] := by
    decide +kernel
  obtain ⟨pages, requests, addresses, once⟩ :=
    deleteFound_asks_once localCluster (filmSearch none) ⟨true, repeatingReplies, []⟩ addressed
  have named : addresses = [oneFilm] := by
    cases ran : ((localCluster.deleteFound (filmSearch none)).run
        ⟨true, repeatingReplies, []⟩).1 with
    | error failure => simp [ran, Except.toOption] at found
    | ok hits =>
        apply List.map_injective_iff.mpr (Option.some_injective _)
        rw [← once.reported, ← once.rows hits ran]
        simpa [ran, Except.toOption] using found
  have sent := once.sent
  rw [List.nil_append] at sent
  refine ⟨addressed, documents, found, ?_, ?_, ?_⟩
  · rw [sent, once.asks, named]
    rfl
  · rw [sent]
    simpa [documents] using once.searches
  · exact once.unlimited 2 (by simp [documents])

end Polyquery.Cluster
