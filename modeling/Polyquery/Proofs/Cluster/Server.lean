import Mathlib.Data.Finset.Card
import Polyquery.Proofs.Cluster.Operation

/-!
# Servers that hold documents

A server answers requests one after the other, and what it answers depends on its state.  A
server that holds documents finds some of them when it is asked to search, and deletes those
that it is asked to delete.
-/

namespace Polyquery

open Http (Link Reply Request)

variable {σ α : Type}

/-! ## Servers -/

namespace Http

/-- A server that answers a request in a state. -/
structure Server (σ : Type) where
  answer : Request → σ → Reply × σ

namespace Server

/-- The replies to requests, one after the other, and the state that these lead to. -/
def play (server : Server σ) : List Request → σ → List Reply × σ
  | [], state => ([], state)
  | request :: rest, state =>
    let answered := server.answer request state
    let played := play server rest answered.2
    (answered.1 :: played.1, played.2)

theorem play_append {server : Server σ} {requests more : List Request} {replies others : List Reply}
    {state middle after : σ} (first : server.play requests state = (replies, middle))
    (second : server.play more middle = (others, after)) :
    server.play (requests ++ more) state = (replies ++ others, after) := by
  induction requests generalizing replies state with
  | nil =>
      cases first
      exact second
  | cons request rest ih =>
      cases first
      simp only [List.cons_append, play]
      rw [ih rfl]

/-- Against a server in a state an action sends requests, gets the replies of the server to
them, and has a result, whatever replies there would be after these. -/
structure Runs (server : Server σ) (action : Session Link α) (state : σ) (requests : List Request)
    (replies : List Reply) (result : Result α) (after : σ) : Prop where
  played : server.play requests state = (replies, after)
  ran (sent : List Request) (more : List Reply) :
    action.run ⟨true, replies ++ more, sent⟩ = (result, ⟨true, more, sent ++ requests⟩)

end Server

end Http

namespace Cluster

/-! ## Addresses of documents -/

/-- Where a document is. -/
structure Address where
  index : String
  id : String
deriving DecidableEq

/-- The address that a hit reports. -/
def address? (hit : Row) : Option Address :=
  match Fields.find? "_index" hit, Fields.find? "_id" hit with
  | some (.str index), some (.str id) => some ⟨index, id⟩
  | _, _ => none

namespace Address

/-- The address in a text. -/
def place (address : Address) : String :=
  Json.quote address.index ++ ("/" ++ Json.quote address.id)

/-- The deletion of the document at an address. -/
def deletion (address : Address) : Operation :=
  ⟨.delete, address.index, some address.id, none⟩

theorem place_injective : Function.Injective place := by
  rintro ⟨index, id⟩ ⟨index', id'⟩ same
  obtain ⟨rfl, rest⟩ := Json.quote_append_inj same
  have ids : Json.quote id ++ "" = Json.quote id' ++ "" := by simpa using rest
  obtain ⟨rfl, -⟩ := Json.quote_append_inj ids
  rfl

theorem expressible_deletion (address : Address) : address.deletion.Expressible where
  addressed := nofun
  sourced := by simp [deletion]
  wellFormed := by simp [deletion]

end Address

variable {hit : Row} {page : List Row} {address : Address} {addresses : List Address}

theorem find?_of_address? (found : address? hit = some address) :
    Fields.find? "_index" hit = some (.str address.index) ∧
      Fields.find? "_id" hit = some (.str address.id) := by
  unfold address? at found
  split at found
  · rename_i index id atIndex atId
    cases found
    exact ⟨atIndex, atId⟩
  · cases found

theorem place_eq (found : address? hit = some address) : place hit = address.place := by
  obtain ⟨index, id⟩ := find?_of_address? found
  simp [place, index, id, Json.compact, Address.place, String.append_assoc]

theorem deletionLine_eq (found : address? hit = some address) :
    deletionLine hit = address.deletion.text := by
  obtain ⟨index, id⟩ := find?_of_address? found
  simp [deletionLine, index, id, Address.deletion, Operation.text, Operation.parts, Operation.head,
    Action.name, String.join_cons]

theorem ofBody?_deletionLines
    (lines : page.map deletionLine = addresses.map fun address => address.deletion.text) :
    Operation.ofBody? (String.join (page.map deletionLine)) =
      some (addresses.map Address.deletion) := by
  have expressible : ∀ operation ∈ addresses.map Address.deletion, operation.Expressible := by
    rw [List.forall_mem_map]
    exact fun address _ => address.expressible_deletion
  rw [lines, ← Operation.ofBody?_join expressible, List.map_map]
  rfl

/-! ## Pages -/

/-- Hits of different documents, all of them among those at given addresses. -/
structure IsPage (documents : Finset Address) (page : List Row) : Prop where
  known : ∀ hit ∈ page, ∃ address ∈ documents, address? hit = some address
  distinct : (page.map address?).Nodup

theorem exists_addresses {documents : Finset Address}
    (known : ∀ hit ∈ page, ∃ address ∈ documents, address? hit = some address) :
    ∃ addresses : List Address, page.map address? = addresses.map some ∧
      page.map place = addresses.map Address.place ∧
      page.map deletionLine = addresses.map (fun address => address.deletion.text) ∧
      addresses.toFinset ⊆ documents := by
  induction page with
  | nil => exact ⟨[], rfl, rfl, rfl, by simp⟩
  | cons hit rest ih =>
      obtain ⟨⟨address, mem, found⟩, knownRest⟩ := List.forall_mem_cons.mp known
      obtain ⟨addresses, reported, places, lines, subset⟩ := ih knownRest
      refine ⟨address :: addresses, ?_, ?_, ?_, ?_⟩
      · simp [found, reported]
      · simp [place_eq found, places]
      · simp [deletionLine_eq found, lines]
      · simpa [Finset.insert_subset_iff, mem] using subset

/-- The addresses on a page are different, and so are they as texts. -/
theorem IsPage.exists_addresses {documents : Finset Address} (isPage : IsPage documents page) :
    ∃ addresses : List Address, page.map address? = addresses.map some ∧
      page.map deletionLine = addresses.map (fun address => address.deletion.text) ∧
      addresses.Nodup ∧ addresses.toFinset ⊆ documents ∧ (page.map place).Nodup := by
  obtain ⟨known, distinct⟩ := isPage
  obtain ⟨addresses, reported, places, lines, subset⟩ := Cluster.exists_addresses known
  rw [reported] at distinct
  have nodup : addresses.Nodup := distinct.of_map some
  refine ⟨addresses, reported, lines, nodup, subset, ?_⟩
  rw [places]
  exact nodup.map Address.place_injective

theorem IsPage.nodup_place {documents : Finset Address} (isPage : IsPage documents page) :
    (page.map place).Nodup := by
  obtain ⟨_, -, -, -, -, distinct⟩ := isPage.exists_addresses
  exact distinct

theorem isPage_of_perm {documents : Finset Address}
    (once : (page.map address?).Perm (addresses.map some)) (distinct : addresses.Nodup)
    (part : ∀ address ∈ addresses, address ∈ documents) : IsPage documents page where
  known := by
    intro hit mem
    have reported := once.mem_iff.mp (List.mem_map_of_mem mem)
    obtain ⟨address, here, same⟩ := List.mem_map.mp reported
    exact ⟨address, part address here, same.symm⟩
  distinct := by
    rw [once.nodup_iff]
    exact distinct.map (Option.some_injective _)

/-! ## What is sent and answered -/

/-- The request of a search. -/
def searchRequest (cluster : Cluster) (request : Search.Request) : Request where
  method := .post
  url :=
    let parameter (name : String) (value : Option Nat) : List (String × String) :=
      value.toList.map fun n => (name, toString n)
    (cluster.endpoint [request.index, "_search"]).withParameters
      (parameter "from" request.start ++ parameter "size" request.size)
  payload := some (.json request.body.toJson)

/-- The request that carries lines; with `refresh` the changes are visible at once. -/
def linesRequest (cluster : Cluster) (body : String) (refresh : Bool) : Request where
  method := .post
  url := (cluster.endpoint ["_bulk"]).withParameters (if refresh then [("refresh", "true")] else [])
  payload := some (.lines body)

/-- The request that deletes the documents of hits. -/
def deletionRequest (cluster : Cluster) (page : List Row) (refresh : Bool) : Request :=
  cluster.linesRequest (String.join (page.map deletionLine)) refresh

/-- The hits that a reply reports. -/
def hitsOf (reply : Reply) : List Row :=
  (reply.value?.map hits).getD []

/-- A reply that reports no error. -/
def ReportsNoError (reply : Reply) : Prop :=
  ∀ value, reply.value? = some value → (value.field "errors").asBool? ≠ some true

/-- A server holds the documents that a search is about.  The search succeeds, and finds some
of them.  Lines that ask for deletions are followed without an error. -/
structure Serves (server : Http.Server σ) (documents : σ → Finset Address) (cluster : Cluster)
    (request : Search.Request) : Prop where
  found (state : σ) : Succeeds (server.answer (cluster.searchRequest request) state).1
  page (state : σ) : IsPage (documents state)
    (hitsOf (server.answer (cluster.searchRequest request) state).1)
  kept (state : σ) :
    documents (server.answer (cluster.searchRequest request) state).2 = documents state
  followed (state : σ) (body : String) (refresh : Bool) (addresses : List Address) :
    Operation.ofBody? body = some (addresses.map Address.deletion) →
      Succeeds (server.answer (cluster.linesRequest body refresh) state).1 ∧
      ReportsNoError (server.answer (cluster.linesRequest body refresh) state).1 ∧
      documents (server.answer (cluster.linesRequest body refresh) state).2 =
        documents state \ addresses.toFinset

/-- As long as there are documents, the search finds some. -/
def FindsAny (server : Http.Server σ) (documents : σ → Finset Address) (cluster : Cluster)
    (request : Search.Request) : Prop :=
  ∀ state, (documents state).Nonempty →
    hitsOf (server.answer (cluster.searchRequest request) state).1 ≠ []

end Cluster

end Polyquery
