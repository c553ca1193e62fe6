import Polyquery.Proofs.Cluster.Refusal
import Polyquery.Proofs.Url.Path

/-!
# Paths of documents

The path to a document is made of the path of the address, the index, a fixed segment, and the
id.  An id that reaches the path as it is can be read back.  But tabs and line ends of an id are
dropped, and ids of one or two dots are skipped, so that different ids may lead to one document.
-/

namespace Polyquery

namespace Url

/-- The segments of the path of a URL. -/
def segments (url : Url) : List (List Char) :=
  match url.path with
  | .segments list => list
  | .plain _ => []

end Url

namespace Cluster

open Url (segmentSet kept opened encode decode?)

variable {cluster : Cluster} {address index id id' : String}

/-- The segments of the address, to which others are added. -/
def base (cluster : Cluster) : List (List Char) :=
  opened (Url.Path.dropEmptyLast cluster.url.segments)

/-- A name of an index that has nothing special: it is not empty, not one or two dots, and has no
tabs, line ends and bars. -/
structure IsIndexName (index : String) : Prop where
  nonempty : index.toList ≠ []
  noDots : index ≠ "." ∧ index ≠ ".."
  ordinary : ∀ c ∈ index.toList, c ∉ ['\t', '\n', '\r', '|']

/-- An id that reaches a path as it is. -/
structure Reaches (id : String) : Prop where
  noDots : id ≠ "." ∧ id ≠ ".."
  noBreak : ∀ c ∈ id.toList, c ∉ ['\t', '\n', '\r']

/-- What reaches a path of an id: nothing, if it is one or two dots.  Otherwise tabs and line
ends are dropped, and a single dot that is left counts as the empty text. -/
def remainder (id : String) : Option (List Char) :=
  if id = "." ∨ id = ".." then none
  else if kept id.toList = ['.'] then some [] else some (kept id.toList)

/-- The segments below the index, by what reaches the path of the id.  Two dots that are left
stand for the directory above. -/
def below (scheme : List Char) : Option (List Char) → List (List Char)
  | none => ["_doc".toList]
  | some text =>
    if text = ['.', '.'] then [[]] else ["_doc".toList, encode (segmentSet scheme) text]

theorem toList_ne_dots (noDots : id ≠ "." ∧ id ≠ "..") :
    id.toList ≠ ['.'] ∧ id.toList ≠ ['.', '.'] :=
  ⟨fun same => noDots.1 (String.toList_inj.mp same),
    fun same => noDots.2 (String.toList_inj.mp same)⟩

theorem opened_append {front : List (List Char)} {last : List Char} (nonempty : last ≠ []) :
    opened (front ++ [last]) = front ++ [last] := by
  apply if_neg
  intro same
  have empty := congrArg List.getLast? same
  rw [List.getLast?_concat] at empty
  exact nonempty (Option.some.inj empty)

theorem push_index {scheme : List Char} {list : List (List Char)} (name : IsIndexName index) :
    Url.Path.push scheme list index.toList =
      opened list ++ [encode (segmentSet scheme) index.toList] := by
  obtain ⟨nonempty, noDots, ordinary⟩ := name
  have noBreak : ∀ c ∈ index.toList, c ∉ ['\t', '\n', '\r'] := by
    intro c mem
    have other := ordinary c mem
    simp only [List.mem_cons, not_or] at other ⊢
    exact ⟨other.1, other.2.1, other.2.2.1, List.not_mem_nil⟩
  apply Url.Path.push_of_kept (toList_ne_dots noDots) (Url.kept_eq_self_iff.mpr noBreak)
  exact fun mem => ordinary '|' mem (by simp)

theorem encode_doc (scheme : List Char) :
    encode (segmentSet scheme) "_doc".toList = "_doc".toList := by
  have stay : ("_doc".toList.all fun c => !segmentSet scheme c) = true := by
    unfold segmentSet
    split <;> decide
  apply Url.encode_eq_self
  intro c mem
  simpa using List.all_eq_true.mp stay c mem

theorem push_doc {scheme : List Char} {list : List (List Char)} :
    Url.Path.push scheme list "_doc".toList = opened list ++ ["_doc".toList] := by
  have written :=
    @Url.Path.push_of_kept scheme "_doc".toList list (by decide) (by decide) (by decide)
  rwa [encode_doc] at written

theorem push_id (scheme : List Char) (front : List (List Char)) (id : String) :
    Url.Path.push scheme (front ++ ["_doc".toList]) id.toList =
      front ++ below scheme (remainder id) := by
  have dots : id.toList = ['.'] ∨ id.toList = ['.', '.'] ↔ id = "." ∨ id = ".." := by
    rw [← String.toList_inj, ← String.toList_inj]
    rfl
  have named : "_doc".toList ≠ [] := by decide
  rw [Url.Path.push_eq, opened_append named]
  simp only [dots, remainder]
  by_cases skipped : id = "." ∨ id = ".."
  · rw [if_pos skipped, if_pos skipped]
    rfl
  · rw [if_neg skipped, if_neg skipped]
    by_cases two : kept id.toList = ['.', '.']
    · have notDrive : (front ++ ["_doc".toList]).getLast?.any Url.Path.isDrive = false := by
        rw [List.getLast?_concat]
        rfl
      rw [if_pos two, two, if_neg (by decide), below, if_pos rfl, Url.Path.up, notDrive]
      simp
    · rw [if_neg two]
      by_cases one : kept id.toList = ['.']
      · rw [if_pos one, if_pos one, below, if_neg (by decide)]
        simp [encode]
      · have longer : (Url.isFile scheme && (front ++ ["_doc".toList]).isEmpty) = false := by simp
        rw [if_neg one, if_neg one, below, if_neg two, longer]
        simp

theorem encode_index_ne_nil (scheme : List Char) (name : IsIndexName index) :
    encode (segmentSet scheme) index.toList ≠ [] := by
  intro empty
  exact name.nonempty ((Url.encode_inj (Url.segmentSet_percent scheme)).mp empty)

/-- Where a document is found. -/
theorem endpoint_document (canBeBase : cluster.url.canBeBase = true) (name : IsIndexName index)
    (id : String) :
    cluster.endpoint [index, "_doc", id] = { cluster.url with
      path := .segments (cluster.base ++ encode (segmentSet cluster.url.scheme) index.toList ::
        below cluster.url.scheme (remainder id)) } := by
  cases path : cluster.url.path with
  | plain text => simp [Url.canBeBase, path] at canBeBase
  | segments list =>
      have base : opened (Url.Path.dropEmptyLast list) = cluster.base := by
        rw [Cluster.base, Url.segments, path]
      have written := encode_index_ne_nil cluster.url.scheme name
      rw [endpoint, Url.below, path]
      simp only [List.map_cons, List.map_nil, List.foldl_cons, List.foldl_nil, push_index name,
        push_doc, base, opened_append written, push_id]
      rw [List.append_assoc, List.singleton_append]

/-! ## Reading ids back -/

/-- An id reaches a path as it is exactly if nothing is missing of it. -/
theorem reaches_iff : Reaches id ↔ remainder id = some id.toList ∧ id.toList ≠ ['.', '.'] := by
  constructor
  · rintro ⟨noDots, noBreak⟩
    obtain ⟨notOne, notTwo⟩ := toList_ne_dots noDots
    rw [remainder, if_neg (not_or.mpr noDots), Url.kept_eq_self_iff.mpr noBreak, if_neg notOne]
    exact ⟨rfl, notTwo⟩
  · rintro ⟨full, notTwo⟩
    unfold remainder at full
    split at full
    · cases full
    · rename_i noDots
      split at full
      · rename_i one
        rw [← Option.some.inj full] at one
        cases one
      · exact ⟨not_or.mp noDots, Url.kept_eq_self_iff.mp (Option.some.inj full)⟩

/-- What stands below the index reads back as the id exactly if the id reaches the path. -/
theorem mapM_decode?_below_iff (scheme : List Char) (id : String) :
    (below scheme (remainder id)).mapM decode? = some ["_doc".toList, id.toList] ↔ Reaches id := by
  have doc : decode? "_doc".toList = some "_doc".toList := by
    have decoded := Url.decode?_encode (Url.segmentSet_percent scheme) "_doc".toList
    rwa [encode_doc] at decoded
  rw [reaches_iff]
  cases left : remainder id with
  | none =>
      rw [below, List.mapM_cons, List.mapM_nil, doc]
      exact iff_of_false (by simp) (by simp)
  | some text =>
      by_cases two : text = ['.', '.']
      · rw [below, if_pos two, List.mapM_cons, List.mapM_nil]
        apply iff_of_false
        · intro read
          cases empty : decode? [] with
          | none => simp [empty] at read
          | some other => simp [empty] at read
        · rintro ⟨full, notTwo⟩
          exact notTwo (Option.some.inj full ▸ two)
      · have decoded := Url.decode?_encode (Url.segmentSet_percent scheme) text
        rw [below, if_neg two, List.mapM_cons, List.mapM_cons, List.mapM_nil, doc, decoded]
        constructor
        · intro read
          have same : text = id.toList := by simpa using read
          exact ⟨congrArg some same, same ▸ two⟩
        · rintro ⟨full, -⟩
          rw [Option.some.inj full]
          rfl

/-! ## Different ids -/

theorem write_cons (segment : List Char) (rest : List (List Char)) :
    (Url.Path.segments (segment :: rest)).write =
      '/' :: segment ++ (Url.Path.segments rest).write :=
  rfl

theorem write_append (front rest : List (List Char)) :
    (Url.Path.segments (front ++ rest)).write =
      (Url.Path.segments front).write ++ (Url.Path.segments rest).write :=
  List.flatMap_append

/-- What reaches the path can be told from the text below the index. -/
theorem write_below_inj {scheme : List Char} {left right : Option (List Char)} :
    (Url.Path.segments (below scheme left)).write = (Url.Path.segments (below scheme right)).write ↔
      left = right := by
  -- Nothing, two dots and any other text are written with different lengths.
  have text (rest : Option (List Char)) : (Url.Path.segments (below scheme rest)).write =
      match rest with
      | none => "/_doc".toList
      | some text => if text = ['.', '.'] then ['/'] else
          "/_doc/".toList ++ encode (segmentSet scheme) text := by
    cases rest with
    | none => rfl
    | some text =>
        by_cases two : text = ['.', '.']
        · simp only [below, if_pos two]
          rfl
        · simp only [below, if_neg two]
          simp [Url.Path.write]
  constructor
  · intro same
    rw [text, text] at same
    cases left with
    | none =>
        cases right with
        | none => rfl
        | some other => by_cases two : other = ['.', '.'] <;> simp [two] at same
    | some left =>
        cases right with
        | none => by_cases two : left = ['.', '.'] <;> simp [two] at same
        | some other =>
            by_cases two : left = ['.', '.'] <;> by_cases two' : other = ['.', '.'] <;>
              simp only [two, two', if_true, if_false] at same ⊢
            · simp at same
            · simp at same
            · have codes := List.append_cancel_left same
              rw [(Url.encode_inj (Url.segmentSet_percent scheme)).mp codes]
  · rintro rfl
    rfl

/-- What stands in front of the path does not depend on the id. -/
theorem authority_below (url : Url) {front : List (List Char)} {first : List Char}
    (nonempty : first ≠ []) (left right : List (List Char)) :
    Url.authority { url with path := .segments (front ++ first :: left) } =
      Url.authority { url with path := .segments (front ++ first :: right) } := by
  unfold Url.authority
  cases url.host with
  | some host => rfl
  | none =>
      cases front with
      | nil =>
          cases first with
          | nil => exact absurd rfl nonempty
          | cons c rest => rfl
      | cons segment rest =>
          cases segment with
          | nil => cases rest <;> rfl
          | cons c more => rfl

/-- Two ids have the same URL exactly if the same reaches the path of both. -/
theorem display_document_eq_iff (canBeBase : cluster.url.canBeBase = true)
    (name : IsIndexName index) :
    (cluster.endpoint [index, "_doc", id]).display =
        (cluster.endpoint [index, "_doc", id']).display ↔
      remainder id = remainder id' := by
  rw [← @write_below_inj cluster.url.scheme, endpoint_document canBeBase name,
    endpoint_document canBeBase name, Url.display, Url.display, String.ofList_inj,
    authority_below cluster.url (encode_index_ne_nil _ name) _ (below cluster.url.scheme
      (remainder id'))]
  simp only [write_append, write_cons, List.append_assoc, List.cons_append,
    List.append_cancel_left_eq, List.cons.injEq, true_and, List.append_cancel_right_eq]

/-! ## Addresses -/

theorem canBeBase_of_ofAddress (accepted : ofAddress address = .ok cluster) :
    cluster.url.canBeBase = true := by
  unfold ofAddress at accepted
  split at accepted
  · cases accepted
  · split at accepted
    · rename_i canBeBase
      cases accepted
      exact canBeBase
    · cases accepted

theorem slash_notMem_below (scheme : List Char) (id : String) :
    ∀ segment ∈ below scheme (remainder id), '/' ∉ segment := by
  cases remainder id with
  | none => simp [below]
  | some text =>
      by_cases two : text = ['.', '.']
      · simp [below, two]
      · rw [below, if_neg two, List.forall_mem_cons, List.forall_mem_singleton]
        exact ⟨by decide, Url.slash_notMem_encode scheme text⟩

/-- Below an address that is accepted and an index, the segments of the URL of a document read
back as the index and the id exactly if the id is not one or two dots and has no tabs and line
ends.  Two ids have the same URL exactly if what reaches the path is the same of both; so two
ids that reach the path as they are have different URLs if they are different. -/
theorem document_reads_back_iff (accepted : ofAddress address = .ok cluster)
    (name : IsIndexName index) :
    (∀ id, ∃ added, (cluster.endpoint [index, "_doc", id]).segments = cluster.base ++ added ∧
      (∀ segment ∈ added, '/' ∉ segment) ∧
      (added.mapM decode? = some [index.toList, "_doc".toList, id.toList] ↔ Reaches id)) ∧
    (∀ id id', (cluster.endpoint [index, "_doc", id]).display =
        (cluster.endpoint [index, "_doc", id']).display ↔ remainder id = remainder id') ∧
    (∀ id id', Reaches id → Reaches id' → id ≠ id' →
      (cluster.endpoint [index, "_doc", id]).display ≠
        (cluster.endpoint [index, "_doc", id']).display) := by
  have canBeBase := canBeBase_of_ofAddress accepted
  refine ⟨fun id => ⟨_, by rw [endpoint_document canBeBase name]; rfl, ?_, ?_⟩,
    fun id id' => display_document_eq_iff canBeBase name, ?_⟩
  · rw [List.forall_mem_cons]
    exact ⟨Url.slash_notMem_encode _ _, slash_notMem_below _ _⟩
  · rw [← mapM_decode?_below_iff cluster.url.scheme, List.mapM_cons,
      Url.decode?_encode (Url.segmentSet_percent _)]
    cases (below cluster.url.scheme (remainder id)).mapM decode? <;> simp
  · intro id id' reaches reaches' different same
    have left := (display_document_eq_iff canBeBase name).mp same
    rw [(reaches_iff.mp reaches).1, (reaches_iff.mp reaches').1] at left
    exact different (String.toList_inj.mp (Option.some.inj left))

theorem exists_of_isOk (accepted : (ofAddress address).isOk = true) :
    ∃ cluster, ofAddress address = .ok cluster := by
  cases made : ofAddress address with
  | error failure =>
      rw [made] at accepted
      cases accepted
  | ok cluster => exact ⟨cluster, rfl⟩

theorem isIndexName_films : IsIndexName "films" where
  nonempty := by decide
  noDots := by decide
  ordinary := by simp

/-- An id with marks that have a meaning in URLs is read back below a path, and told from another
that looks like it when it is encoded. -/
theorem document_reads_back_marks :
    IsIndexName "films" ∧ ∃ cluster, ofAddress "http://localhost:9200/es/" = .ok cluster ∧
      (∃ added, (cluster.endpoint ["films", "_doc", "a/b?%é"]).segments = cluster.base ++ added ∧
        added.mapM decode? = some ["films".toList, "_doc".toList, "a/b?%é".toList]) ∧
      (cluster.endpoint ["films", "_doc", "a/b"]).display ≠
        (cluster.endpoint ["films", "_doc", "a%2Fb"]).display := by
  have reaches : Reaches "a/b?%é" ∧ Reaches "a/b" ∧ Reaches "a%2Fb" := by
    simp only [reaches_iff]
    decide
  obtain ⟨reaches, slash, percent⟩ := reaches
  obtain ⟨cluster, accepted⟩ := @exists_of_isOk "http://localhost:9200/es/" (by decide +kernel)
  obtain ⟨readsBack, -, apart⟩ := document_reads_back_iff accepted isIndexName_films
  obtain ⟨added, path, -, whole⟩ := readsBack "a/b?%é"
  exact ⟨isIndexName_films, cluster, accepted, ⟨added, path, whole.mpr reaches⟩,
    apart _ _ slash percent (by decide)⟩

/-- Two films with different ids have the same URL if one id has a tab. -/
theorem document_url_tab :
    films.documentId? [("id", .str "a\tb")] = some "a\tb" ∧
    films.documentId? [("id", .str "ab")] = some "ab" ∧
    ∃ cluster, ofAddress "http://localhost:9200" = .ok cluster ∧
      (cluster.endpoint [films.database, "_doc", "a\tb"]).display =
        (cluster.endpoint [films.database, "_doc", "ab"]).display := by
  obtain ⟨cluster, accepted⟩ := @exists_of_isOk "http://localhost:9200" (by decide +kernel)
  refine ⟨by decide, by decide, cluster, accepted, ?_⟩
  have canBeBase := canBeBase_of_ofAddress accepted
  exact (display_document_eq_iff canBeBase isIndexName_films).mpr (by decide)

end Cluster

end Polyquery
