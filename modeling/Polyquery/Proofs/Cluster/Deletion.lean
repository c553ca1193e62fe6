import Polyquery.Proofs.Cluster.Server

/-!
# Deletions of what is found

A deletion searches, deletes what it finds, and repeats this until nothing new is found,
unless the number of hits is limited.  Against a server that holds documents each round
makes the documents fewer, so that there is a last round, and by then every document has
been deleted, once.
-/

namespace Polyquery.Cluster

open Http (Link Reply Request)

variable {σ : Type} {page : List Row} {address : Address} {addresses : List Address}

/-! ## Rounds -/

/-- A search and the deletion of what it finds, by their replies. -/
structure Round where
  found : Reply
  deleted : Reply

namespace Round

def replies (round : Round) : List Reply :=
  [round.found, round.deleted]

def hits (round : Round) : List Row :=
  hitsOf round.found

def requests (cluster : Cluster) (request : Search.Request) (round : Round) : List Request :=
  [cluster.searchRequest request, cluster.deletionRequest round.hits request.size.isNone]

/-- A round that went well and found something. -/
structure Valid (round : Round) : Prop where
  found : Succeeds round.found
  nonempty : round.hits ≠ []
  deleted : Succeeds round.deleted
  noError : ReportsNoError round.deleted

end Round

variable {cluster : Cluster} {request : Search.Request} {reply : Reply} {replies : List Reply}
  {sent : List Request} {limit : Nat} {seen : List String}

theorem run_search (sends : Link.canSend cluster.url = true) (succeeds : Succeeds reply) :
    ∃ value, hits value = hitsOf reply ∧
      (cluster.search request).run ⟨true, reply :: replies, sent⟩ =
        (.ok value, ⟨true, replies, sent ++ [cluster.searchRequest request]⟩) := by
  obtain ⟨success, readable⟩ := succeeds
  obtain ⟨value, read⟩ := Option.ne_none_iff_exists'.mp readable
  have ran := @run_send ⟨true, reply :: replies, sent⟩ reply value .post
    (cluster.searchRequest request).url (cluster.searchRequest request).payload
    (by simpa [searchRequest] using sends) rfl rfl success read
  exact ⟨value, by simp [hitsOf, read], ran⟩

theorem bulkFailure?_eq_none {value : Json} (noError : (value.field "errors").asBool? ≠ some true) :
    bulkFailure? value = none := by
  simp [bulkFailure?, noError]

theorem run_bulk {body : String} {refresh : Bool} (sends : Link.canSend cluster.url = true)
    (succeeds : Succeeds reply) (noError : ReportsNoError reply) :
    ∃ value, (cluster.bulk body refresh).run ⟨true, reply :: replies, sent⟩ =
      (.ok value, ⟨true, replies, sent ++ [cluster.linesRequest body refresh]⟩) := by
  obtain ⟨success, readable⟩ := succeeds
  obtain ⟨value, read⟩ := Option.ne_none_iff_exists'.mp readable
  refine ⟨value, Session.run_bind_eq_ok.mpr
    ⟨value, ⟨true, replies, sent ++ [cluster.linesRequest body refresh]⟩, ?_, ?_⟩⟩
  · exact run_send (by simpa using sends) rfl rfl success read
  · rw [bulkFailure?_eq_none (noError value read)]
    rfl

/-- Hits that are new are all taken. -/
theorem unseen_eq_self (distinct : (page.map place).Nodup)
    (fresh : ∀ hit ∈ page, place hit ∉ seen) : unseen seen page = page := by
  induction page generalizing seen with
  | nil => rfl
  | cons hit rest ih =>
      obtain ⟨freshHit, freshRest⟩ := List.forall_mem_cons.mp fresh
      obtain ⟨notAgain, distinctRest⟩ := List.nodup_cons.mp distinct
      have others : ∀ other ∈ rest, place other ∉ place hit :: seen := by
        intro other mem again
        rcases List.mem_cons.mp again with same | before
        · exact notAgain (same ▸ List.mem_map_of_mem mem)
        · exact freshRest other mem before
      rw [unseen, if_neg (by simpa using freshHit), ih distinctRest others]

/-- A search that finds nothing ends a deletion. -/
theorem run_deleteHits_of_nil (sends : Link.canSend cluster.url = true) (succeeds : Succeeds reply)
    (nothing : hitsOf reply = []) :
    (cluster.deleteHits request (limit + 1) seen).run ⟨true, reply :: replies, sent⟩ =
      (.ok [], ⟨true, replies, sent ++ [cluster.searchRequest request]⟩) := by
  obtain ⟨value, valueHits, searched⟩ := run_search sends succeeds
  rw [deleteHits, Session.run_bind, searched]
  simp [valueHits, nothing, unseen]

/-- New hits are deleted.  Then the search is repeated, if it is not limited. -/
theorem run_deleteHits_round (sends : Link.canSend cluster.url = true) {round : Round}
    (valid : round.Valid) (new : unseen seen round.hits = round.hits) (limit : Nat)
    (replies : List Reply) (sent : List Request) :
    (cluster.deleteHits request (limit + 1) seen).run ⟨true, round.replies ++ replies, sent⟩ =
      (if request.size.isSome then pure round.hits else
        (round.hits ++ ·) <$> cluster.deleteHits request limit (seen ++ round.hits.map place)).run
        ⟨true, replies, sent ++ round.requests cluster request⟩ := by
  obtain ⟨found, nonempty, deleted, noError⟩ := valid
  obtain ⟨value, valueHits, searched⟩ := @run_search cluster request round.found
    (round.deleted :: replies) sent sends found
  obtain ⟨answer, bulked⟩ := @run_bulk cluster round.deleted replies
    (sent ++ [cluster.searchRequest request]) (String.join (round.hits.map deletionLine))
    request.size.isNone sends deleted noError
  have here : hits value = round.hits := valueHits
  rw [deleteHits, Session.run_bind, Round.replies, List.cons_append, List.cons_append,
    List.nil_append, searched]
  simp only [here, new, List.isEmpty_eq_false_iff.mpr nonempty, Bool.false_eq_true, if_false,
    Session.run_bind, bulked, List.append_assoc]
  cases request.size.isSome <;> rfl

variable {server : Http.Server σ} {documents : σ → Finset Address} {state : σ}

/-- A deletion that is not limited goes on as long as there are new hits, whatever the
replies are after that. -/
theorem run_deleteHits_rounds (sends : Link.canSend cluster.url = true)
    (unlimited : request.size = none) {rounds : List Round} {last : Reply}
    (valid : ∀ round ∈ rounds, round.Valid)
    (distinct : ((rounds.flatMap Round.hits).map place).Nodup)
    (fresh : ∀ hit ∈ rounds.flatMap Round.hits, place hit ∉ seen)
    (succeeds : Succeeds last) (nothing : hitsOf last = []) (enough : rounds.length < limit) :
    (cluster.deleteHits request limit seen).run
        ⟨true, rounds.flatMap Round.replies ++ last :: replies, sent⟩ =
      (.ok (rounds.flatMap Round.hits), ⟨true, replies, sent ++
        (rounds.flatMap (Round.requests cluster request) ++ [cluster.searchRequest request])⟩) := by
  induction rounds generalizing limit seen sent with
  | nil =>
      obtain ⟨limit, rfl⟩ := Nat.exists_eq_add_one.mpr enough
      exact run_deleteHits_of_nil sends succeeds nothing
  | cons round rest ih =>
      obtain ⟨limit, rfl⟩ := Nat.exists_eq_add_one.mpr (Nat.zero_lt_of_lt enough)
      obtain ⟨validRound, validRest⟩ := List.forall_mem_cons.mp valid
      rw [List.flatMap_cons, List.map_append, List.nodup_append] at distinct
      obtain ⟨distinctHere, distinctRest, apart⟩ := distinct
      rw [List.flatMap_cons, List.forall_mem_append] at fresh
      obtain ⟨freshHere, freshRest⟩ := fresh
      have new : unseen seen round.hits = round.hits := unseen_eq_self distinctHere freshHere
      -- What later rounds find has not been seen: no place occurs twice.
      have freshAfter : ∀ hit ∈ rest.flatMap Round.hits,
          place hit ∉ seen ++ round.hits.map place := by
        intro hit mem
        rw [List.mem_append, not_or]
        exact ⟨freshRest hit mem, fun here => apart _ here _ (List.mem_map_of_mem mem) rfl⟩
      have later := @ih (sent ++ round.requests cluster request) limit
        (seen ++ round.hits.map place) validRest distinctRest freshAfter
        (Nat.lt_of_succ_lt_succ enough)
      rw [List.flatMap_cons, List.append_assoc, run_deleteHits_round sends validRound new,
        unlimited]
      change (_ <$> _ : Session Link (List Row)).run _ = _
      rw [Session.run_map, later, List.flatMap_cons, List.flatMap_cons, List.append_assoc,
        List.append_assoc]
      rfl

/-- The documents that a search finds are deleted. -/
theorem Serves.exists_round (serves : Serves server documents cluster request) (state : σ)
    (something : hitsOf (server.answer (cluster.searchRequest request) state).1 ≠ []) :
    ∃ (round : Round) (addresses : List Address) (after : σ),
      round.hits = hitsOf (server.answer (cluster.searchRequest request) state).1 ∧
      server.play (round.requests cluster request) state = (round.replies, after) ∧
      round.Valid ∧ round.hits.map address? = addresses.map some ∧ addresses.Nodup ∧
      addresses.toFinset ⊆ documents state ∧
      documents after = documents state \ addresses.toFinset := by
  obtain ⟨addresses, reported, lines, distinct, subset, -⟩ :=
    (serves.page state).exists_addresses
  let searched := server.answer (cluster.searchRequest request) state
  let deleted := server.answer (cluster.deletionRequest (hitsOf searched.1) request.size.isNone)
    searched.2
  obtain ⟨followed, noError, left⟩ := serves.followed searched.2 _ request.size.isNone addresses
    (ofBody?_deletionLines lines)
  refine ⟨⟨searched.1, deleted.1⟩, addresses, deleted.2, rfl, rfl,
    ⟨serves.found state, something, followed, noError⟩, reported, distinct, subset, ?_⟩
  rw [← serves.kept state]
  exact left

/-- A set is made up of a part and what is left without it. -/
theorem perm_toList_of_subset {all : Finset Address} (distinct : addresses.Nodup)
    (subset : addresses.toFinset ⊆ all) :
    (addresses ++ (all \ addresses.toFinset).toList).Perm all.toList := by
  apply List.perm_of_nodup_nodup_toFinset_eq
  · rw [List.nodup_append']
    refine ⟨distinct, Finset.nodup_toList _, ?_⟩
    intro address here there
    simp [here] at there
  · exact Finset.nodup_toList _
  · simpa using subset

/-- Each round leaves fewer documents, so that after some rounds none is left. -/
theorem Serves.exists_rounds (serves : Serves server documents cluster request)
    (finds : FindsAny server documents cluster request) (state : σ) :
    ∃ (rounds : List Round) (last : Reply) (after : σ),
      server.play (rounds.flatMap (Round.requests cluster request) ++
        [cluster.searchRequest request]) state = (rounds.flatMap Round.replies ++ [last], after) ∧
      (∀ round ∈ rounds, round.Valid) ∧ Succeeds last ∧ hitsOf last = [] ∧
      ((rounds.flatMap Round.hits).map address?).Perm ((documents state).toList.map some) ∧
      documents after = ∅ := by
  -- The measure is the number of documents that are left.
  induction left : (documents state).card using Nat.strong_induction_on generalizing state with
  | _ number ih =>
      by_cases nothing : hitsOf (server.answer (cluster.searchRequest request) state).1 = []
      · have empty : documents state = ∅ := by
          rw [← Finset.not_nonempty_iff_eq_empty]
          exact fun some => finds state some nothing
        refine ⟨[], _, _, rfl, nofun, serves.found state, nothing, by simp [empty], ?_⟩
        exact (serves.kept state).trans empty
      · obtain ⟨round, addresses, middle, found, played, valid, reported, distinct, subset,
          remaining⟩ := serves.exists_round state nothing
        have named : addresses.toFinset.Nonempty := by
          rw [List.toFinset_nonempty_iff]
          rintro rfl
          exact valid.nonempty (List.map_eq_nil_iff.mp reported)
        have fewer : (documents middle).card < number := by
          rw [remaining, ← left]
          exact Finset.card_lt_card (Finset.sdiff_ssubset subset named)
        obtain ⟨rounds, last, after, playedAfter, validAfter, succeeds, ended, once, emptied⟩ :=
          ih _ fewer middle rfl
        refine ⟨round :: rounds, last, after, ?_, List.forall_mem_cons.mpr ⟨valid, validAfter⟩,
          succeeds, ended, ?_, emptied⟩
        · rw [List.flatMap_cons, List.flatMap_cons, List.append_assoc, List.append_assoc]
          exact Http.Server.play_append played playedAfter
        · have whole := (perm_toList_of_subset distinct subset).map some
          rw [List.map_append, ← remaining] at whole
          rw [List.flatMap_cons, List.map_append, reported]
          exact (once.append_left _).trans whole

/-! ## Runs -/

theorem length_flatMap_replies (rounds : List Round) :
    (rounds.flatMap Round.replies).length = 2 * rounds.length := by
  induction rounds with
  | nil => rfl
  | cons round rest ih =>
      rw [List.flatMap_cons, List.length_append, ih, List.length_cons, Round.replies]
      simp only [List.length_cons, List.length_nil]
      omega

/-- Run against a server that holds documents, a deletion that is not limited ends, and
deletes each of them once: it searches and deletes what it finds, over and over, until a
search finds nothing.  Its result are the hits in the order of their deletion.  A deletion
that is limited searches once, and deletes what it finds. -/
theorem runs_deleteFound (sends : Link.canSend cluster.url = true)
    (serves : Serves server documents cluster request) (state : σ) :
    (request.size = none → FindsAny server documents cluster request →
      ∃ (rounds : List Round) (last : Reply) (after : σ),
        server.Runs (cluster.deleteFound request) state
          (rounds.flatMap (fun round =>
              [cluster.searchRequest request, cluster.deletionRequest round.hits true]) ++
            [cluster.searchRequest request])
          (rounds.flatMap Round.replies ++ [last]) (.ok (rounds.flatMap Round.hits)) after ∧
        (∀ round ∈ rounds, round.hits ≠ []) ∧
        ((rounds.flatMap Round.hits).map address?).Perm ((documents state).toList.map some) ∧
        documents after = ∅) ∧
    (request.size ≠ none →
      ∃ (page : List Row) (replies : List Reply) (after : σ),
        page = hitsOf (server.answer (cluster.searchRequest request) state).1 ∧
        server.Runs (cluster.deleteFound request) state
          (cluster.searchRequest request ::
            if page.isEmpty then [] else [cluster.deletionRequest page false])
          replies (.ok page) after ∧
        documents after =
          (documents state).filter fun address => some address ∉ page.map address?) := by
  constructor
  · intro unlimited finds
    obtain ⟨rounds, last, after, played, valid, succeeds, nothing, once, emptied⟩ :=
      serves.exists_rounds finds state
    have requests : Round.requests cluster request = fun round =>
        [cluster.searchRequest request, cluster.deletionRequest round.hits true] := by
      funext round
      simp [Round.requests, unlimited]
    refine ⟨rounds, last, after, ⟨requests ▸ played, ?_⟩,
      fun round mem => (valid round mem).nonempty, once, emptied⟩
    intro sent more
    -- A round uses up two replies, so that the limit on the rounds is not what ends them.
    have enough : rounds.length < (rounds.flatMap Round.replies ++ last :: more).length + 1 := by
      rw [List.length_append]
      have two := length_flatMap_replies rounds
      omega
    have isPage : IsPage (documents state) (rounds.flatMap Round.hits) :=
      isPage_of_perm once (Finset.nodup_toList _) fun _ => Finset.mem_toList.mp
    rw [List.append_assoc, ← requests]
    exact run_deleteHits_rounds sends unlimited valid isPage.nodup_place
      (fun _ _ => List.not_mem_nil) succeeds nothing enough
  · intro limited
    have once : request.size.isSome = true := Option.isSome_iff_ne_none.mpr limited
    by_cases nothing : hitsOf (server.answer (cluster.searchRequest request) state).1 = []
    · refine ⟨[], _, _, nothing.symm, ⟨rfl, ?_⟩, ?_⟩
      · intro sent more
        exact run_deleteHits_of_nil sends (serves.found state) nothing
      · simpa [Http.Server.play] using serves.kept state
    · obtain ⟨round, addresses, after, found, played, valid, reported, distinct, subset,
        remaining⟩ := serves.exists_round state nothing
      have requests : round.requests cluster request = cluster.searchRequest request ::
          if round.hits.isEmpty then [] else [cluster.deletionRequest round.hits false] := by
        simp [Round.requests, valid.nonempty, Option.isNone_eq_false_iff.mpr once]
      have new : unseen [] round.hits = round.hits :=
        unseen_eq_self (found ▸ serves.page state).nodup_place fun _ _ => List.not_mem_nil
      refine ⟨round.hits, _, after, found, ⟨requests ▸ played, ?_⟩, ?_⟩
      · intro sent more
        rw [← requests]
        refine (run_deleteHits_round sends valid new _ more sent).trans ?_
        rw [once]
        rfl
      · rw [remaining, reported, Finset.sdiff_eq_filter]
        simp

/-- The addresses of two films. -/
def filmAddresses : List Address :=
  [⟨"films", "psycho"⟩, ⟨"films", "vertigo"⟩]

/-- The reply to a search that finds documents. -/
def pageReply (addresses : List Address) : Reply :=
  let hit (address : Address) : Json :=
    .obj [("_id", .str address.id), ("_index", .str address.index)]
  ⟨200, (Json.obj [("hits", .obj [("hits", .arr (addresses.map hit))])]).compact⟩

/-- An operation is about the document at an address. -/
def Operation.isAt (address : Address) (operation : Operation) : Bool :=
  operation.index == address.index && operation.id == some address.id

theorem any_isAt_deletion :
    (addresses.map Address.deletion).any (Operation.isAt address) = true ↔ address ∈ addresses := by
  obtain ⟨index, id⟩ := address
  simp only [List.any_map, List.any_eq_true, Function.comp_apply, Operation.isAt, Address.deletion,
    Bool.and_eq_true, beq_iff_eq, Option.some.injEq]
  constructor
  · rintro ⟨address, mem, rfl, rfl⟩
    exact mem
  · intro mem
    exact ⟨_, mem, rfl, rfl⟩

/-- A server of which the state says which films are there.  A search finds one of them, and
operations remove the films that they name. -/
def filmServer : Http.Server (Address → Bool) where
  answer request holds :=
    match request.payload with
    | some (.lines body) =>
      let asked := (Operation.ofBody? body).getD []
      (⟨200, "\x7b\"errors\":false\x7d"⟩, fun address => holds address &&
        !asked.any (Operation.isAt address))
    | _ => (pageReply ((filmAddresses.filter holds).take 1), holds)

/-- The films that are there. -/
def filmsHeld (holds : Address → Bool) : Finset Address :=
  filmAddresses.toFinset.filter fun address => holds address = true

/-- A search for all films. -/
def filmSearch (size : Option Nat) : Search.Request :=
  ⟨"films", "films", none, size, ⟨none, none, none⟩⟩

theorem pageReply_filmAddresses :
    ∀ addresses ∈ filmAddresses.sublists, (pageReply addresses).isSuccess = true ∧
      (pageReply addresses).value?.isSome = true ∧
      (hitsOf (pageReply addresses)).map address? = addresses.map some := by
  decide +kernel

theorem mem_sublists_filmAddresses (holds : Address → Bool) :
    (filmAddresses.filter holds).take 1 ∈ filmAddresses.sublists :=
  List.mem_sublists.mpr ((List.take_sublist _ _).trans List.filter_sublist)

theorem serves_filmServer (size : Option Nat) :
    Serves filmServer filmsHeld localCluster (filmSearch size) where
  found holds := by
    obtain ⟨success, readable, -⟩ := pageReply_filmAddresses _ (mem_sublists_filmAddresses holds)
    exact ⟨success, Option.isSome_iff_ne_none.mp readable⟩
  page holds := by
    obtain ⟨-, -, reported⟩ := pageReply_filmAddresses _ (mem_sublists_filmAddresses holds)
    have sublist := List.mem_sublists.mp (mem_sublists_filmAddresses holds)
    apply isPage_of_perm (.of_eq reported) (sublist.nodup (by decide))
    intro address mem
    have here := List.mem_of_mem_take mem
    simpa [filmsHeld] using here
  kept _ := rfl
  followed := by
    intro holds body refresh addresses asks
    have answered : (Reply.mk 200 "\x7b\"errors\":false\x7d").value?.map
        (fun value => (value.field "errors").asBool?) = some (some false) := by decide +kernel
    obtain ⟨value, read, noError⟩ := Option.map_eq_some_iff.mp answered
    refine ⟨⟨rfl, Option.ne_none_iff_exists'.mpr ⟨value, read⟩⟩, ?_, ?_⟩
    · intro other readOther
      obtain rfl : value = other := Option.some.inj (read.symm.trans readOther)
      simp [noError]
    · change filmsHeld (fun address => holds address &&
        !((Operation.ofBody? body).getD []).any (Operation.isAt address)) = _
      rw [asks, Option.getD_some]
      ext address
      simp only [filmsHeld, Finset.mem_filter, Finset.mem_sdiff, List.mem_toFinset,
        Bool.and_eq_true, Bool.not_eq_true', ← Bool.not_eq_true, any_isAt_deletion, and_assoc]

theorem findsAny_filmServer (size : Option Nat) :
    FindsAny filmServer filmsHeld localCluster (filmSearch size) := by
  intro holds ⟨address, held⟩ nothing
  obtain ⟨-, -, reported⟩ := pageReply_filmAddresses _ (mem_sublists_filmAddresses holds)
  have none : (filmAddresses.filter holds).take 1 = [] := by
    rw [← List.map_eq_nil_iff, ← reported, List.map_eq_nil_iff]
    exact nothing
  have here : address ∈ filmAddresses.filter holds := by
    simpa [filmsHeld] using held
  rw [List.take_eq_nil_iff] at none
  rw [none.resolve_left one_ne_zero] at here
  cases here

/-- Both films are deleted, and with a limit only the first. -/
theorem runs_deleteFound_filmServer :
    Link.canSend localCluster.url = true ∧
    (∀ size, Serves filmServer filmsHeld localCluster (filmSearch size)) ∧
    FindsAny filmServer filmsHeld localCluster (filmSearch none) ∧
    (∃ requests replies hits after,
      filmServer.Runs (localCluster.deleteFound (filmSearch none)) (fun _ => true) requests replies
        (.ok hits) after ∧
      (hits.map address?).Perm (filmAddresses.map some) ∧ filmsHeld after = ∅) ∧
    (∃ requests replies hits after,
      filmServer.Runs (localCluster.deleteFound (filmSearch (some 1))) (fun _ => true) requests
        replies (.ok hits) after ∧
      hits.map address? = [some ⟨"films", "psycho"⟩] ∧
      filmsHeld after = {⟨"films", "vertigo"⟩}) := by
  have sends : Link.canSend localCluster.url = true := by decide
  refine ⟨sends, serves_filmServer, findsAny_filmServer none, ?_, ?_⟩
  · obtain ⟨rounds, last, after, runs, -, once, emptied⟩ :=
      (runs_deleteFound sends (serves_filmServer none) fun _ => true).1 rfl
        (findsAny_filmServer none)
    have held : (filmsHeld fun _ => true).toList.Perm filmAddresses := by
      apply List.perm_of_nodup_nodup_toFinset_eq (Finset.nodup_toList _) (by decide)
      simp [filmsHeld]
    exact ⟨_, _, _, after, runs, once.trans (held.map some), emptied⟩
  · obtain ⟨page, replies, after, found, runs, left⟩ :=
      (runs_deleteFound sends (serves_filmServer (some 1)) fun _ => true).2 (Option.some_ne_none 1)
    have reported : page.map address? = [some ⟨"films", "psycho"⟩] := by
      rw [found]
      exact (pageReply_filmAddresses _ (mem_sublists_filmAddresses fun _ => true)).2.2
    refine ⟨_, _, page, after, runs, reported, ?_⟩
    rw [left, reported]
    decide

end Polyquery.Cluster
