import Polyquery.Proofs.Table.Key

/-!
# Documents with one id

The id of a document joins the key parts of its row.  Parts without the delimiter can be told
from their join if the delimiter cannot begin inside itself: then the first place where it stands
in the join is the place where it was put.  A delimiter that overlaps itself, as `::` does, gives
one id to different keys.
-/

namespace Polyquery

section Overlaps

variable {α : Type} {delimiter part other rest more : List α}

/-- Something shorter, but not empty, is both the beginning and the end of a text. -/
def Overlaps (delimiter : List α) : Prop :=
  ∃ shared, shared ≠ [] ∧ shared.length < delimiter.length ∧
    shared <+: delimiter ∧ shared <:+ delimiter

/-- Where the first delimiter was put can be seen, from the shorter part on. -/
theorem part_eq_of_length_le (apart : ¬ Overlaps delimiter) (free : ¬ delimiter <:+: other)
    (same : part ++ delimiter ++ rest = other ++ delimiter ++ more)
    (shorter : part.length ≤ other.length) : part = other := by
  rw [List.append_assoc, List.append_assoc] at same
  obtain ⟨extra, rfl⟩ : part <+: other :=
    List.prefix_of_prefix_length_le ⟨_, same⟩ (List.prefix_append _ _) shorter
  rw [List.append_assoc, List.append_cancel_left_eq] at same
  rcases Nat.lt_or_ge extra.length delimiter.length with inside | beyond
  · -- The second delimiter begins inside the first one, or where the first one does.
    obtain ⟨shared, rfl⟩ : extra <+: delimiter :=
      List.prefix_of_prefix_length_le ⟨_, same.symm⟩ (List.prefix_append _ _) inside.le
    rw [List.append_assoc, List.append_cancel_left_eq] at same
    have begins : shared <+: extra ++ shared :=
      List.prefix_of_prefix_length_le ⟨_, same⟩ (List.prefix_append _ _) (by simp)
    by_contra longer
    have some : extra ≠ [] := by
      rintro rfl
      exact longer (List.append_nil _).symm
    have few : shared ≠ [] := by
      rintro rfl
      simp at inside
    have := List.length_pos_of_ne_nil some
    exact apart ⟨shared, few, by rw [List.length_append]; omega, begins, List.suffix_append _ _⟩
  · have inExtra : delimiter <+: extra :=
      List.prefix_of_prefix_length_le ⟨_, same⟩ (List.prefix_append _ _) beyond
    exact absurd (inExtra.isInfix.trans (List.suffix_append _ _).isInfix) free

/-- The first part of a join can be told, and what comes after its delimiter. -/
theorem split_unique (apart : ¬ Overlaps delimiter) (free : ¬ delimiter <:+: part)
    (free' : ¬ delimiter <:+: other)
    (same : part ++ delimiter ++ rest = other ++ delimiter ++ more) :
    part = other ∧ rest = more := by
  have first : part = other := by
    rcases Nat.le_total part.length other.length with shorter | longer
    · exact part_eq_of_length_le apart free' same shorter
    · exact (part_eq_of_length_le apart free same.symm longer).symm
  subst first
  exact ⟨rfl, List.append_cancel_left same⟩

/-- A text that overlaps itself can be put before one text and behind another of the same length
with the same result. -/
theorem Overlaps.exists_shift (overlaps : Overlaps delimiter) :
    ∃ before after, before ≠ [] ∧ before.length < delimiter.length ∧
      after.length < delimiter.length ∧ before ++ delimiter = delimiter ++ after := by
  obtain ⟨shared, few, short, ⟨after, starts⟩, ⟨before, ends⟩⟩ := overlaps
  have lengths := congrArg List.length starts
  have lengths' := congrArg List.length ends
  have := List.length_pos_of_ne_nil few
  simp only [List.length_append] at lengths lengths'
  refine ⟨before, after, ?_, by omega, by omega, ?_⟩
  · rintro rfl
    simp only [List.length_nil] at lengths'
    omega
  · calc before ++ delimiter = before ++ (shared ++ after) := by rw [starts]
      _ = delimiter ++ after := by rw [← List.append_assoc, ends]

end Overlaps

/-- The parts of a join without the delimiter inside them can be told if their number is
known. -/
theorem intercalate_inj {delimiter : String} (apart : ¬ Overlaps delimiter.toList)
    {parts others : List String} (count : parts.length = others.length)
    (free : ∀ part ∈ parts, ¬ delimiter.toList <:+: part.toList)
    (free' : ∀ part ∈ others, ¬ delimiter.toList <:+: part.toList)
    (same : delimiter.intercalate parts = delimiter.intercalate others) : parts = others := by
  induction parts generalizing others with
  | nil => exact (List.length_eq_zero_iff.mp count.symm).symm
  | cons part parts ih =>
      match others, count with
      | other :: others, count =>
        rw [List.length_cons, List.length_cons, Nat.succ_inj] at count
        match parts, others, count with
        | [], [], _ =>
          rw [String.intercalate_singleton, String.intercalate_singleton] at same
          rw [same]
        | second :: parts, second' :: others, count =>
          obtain ⟨firstFree, restFree⟩ := List.forall_mem_cons.mp free
          obtain ⟨firstFree', restFree'⟩ := List.forall_mem_cons.mp free'
          rw [String.intercalate_cons_cons, String.intercalate_cons_cons] at same
          have chars := congrArg String.toList same
          simp only [String.toList_append] at chars
          obtain ⟨first, rest⟩ := split_unique apart firstFree firstFree' chars
          rw [String.toList_inj.mp first, ih count restFree restFree' (String.toList_inj.mp rest)]

namespace Table

variable {table : Table} {row : Row}

/-- A row has a text for every key, and the delimiter stands in none of them. -/
def KeyTexts (table : Table) (row : Row) : Prop :=
  ∀ key ∈ table.primaryKeys, ∃ text, Fields.find? key row = some (.str text) ∧
    ¬ table.delimiter.toList <:+: text.toList

/-- Rows with such texts that get one id have one key. -/
def IdsUnique (table : Table) : Prop :=
  ∀ row other : Row, row.Sorted → other.Sorted → table.KeyTexts row → table.KeyTexts other →
    table.documentId? row = table.documentId? other →
    ∀ key ∈ table.primaryKeys, Fields.find? key row = Fields.find? key other

/-- Whether the delimiter of a table cannot be mistaken: it does not overlap itself, or it never
stands between two parts. -/
def Separates (table : Table) : Prop :=
  table.primaryKeys.length ≤ 1 ∨ ¬ Overlaps table.delimiter.toList

/-- The text under a key. -/
def textOf (row : Row) (key : String) : String :=
  match Fields.find? key row with
  | some (.str text) => text
  | _ => ""

theorem KeyTexts.find?_eq (texts : table.KeyTexts row) {key : String}
    (mem : key ∈ table.primaryKeys) : Fields.find? key row = some (.str (textOf row key)) := by
  obtain ⟨text, found, -⟩ := texts key mem
  rw [textOf, found]

theorem KeyTexts.free (texts : table.KeyTexts row) :
    ∀ text ∈ table.primaryKeys.map (textOf row), ¬ table.delimiter.toList <:+: text.toList := by
  intro text mem
  obtain ⟨key, inKeys, rfl⟩ := List.mem_map.mp mem
  obtain ⟨text, found, free⟩ := texts key inKeys
  rwa [textOf, found]

theorem KeyTexts.keyParts_eq (texts : table.KeyTexts row) :
    table.keyParts row = table.primaryKeys.map (textOf row) := by
  rw [keyParts, List.filterMap_eq_map_iff_forall_eq_some]
  intro key mem
  rw [texts.find?_eq mem]
  rfl

theorem KeyTexts.documentId?_eq (texts : table.KeyTexts row) (keyed : table.primaryKeys ≠ []) :
    table.documentId? row =
      some (table.delimiter.intercalate (table.primaryKeys.map (textOf row))) := by
  rw [documentId?, texts.keyParts_eq]
  obtain ⟨key, keys, same⟩ := List.exists_cons_of_ne_nil keyed
  rw [same]
  rfl

/-- Ids tell keys apart if the delimiter separates them. -/
theorem idsUnique_of_separates (separates : table.Separates) : table.IdsUnique := by
  intro row other _ _ texts texts' same key mem
  have keyed : table.primaryKeys ≠ [] := List.ne_nil_of_mem mem
  rw [texts.documentId?_eq keyed, texts'.documentId?_eq keyed, Option.some.injEq] at same
  have parts : table.primaryKeys.map (textOf row) = table.primaryKeys.map (textOf other) := by
    rcases separates with single | apart
    · match keys : table.primaryKeys, single with
      | [], _ => rfl
      | [key], _ =>
        rw [keys] at same
        simpa using same
    · exact intercalate_inj apart (by simp) texts.free texts'.free same
  rw [texts.find?_eq mem, texts'.find?_eq mem, List.map_inj_left.mp parts key mem]

/-! ## Delimiters that overlap themselves -/

/-- The row with an empty text under every key but one. -/
def rowWith (table : Table) (key : String) (text : List Char) : Row :=
  Fields.set key (.str (String.ofList text)) table.blankRow

theorem find?_rowWith {key name : String} {text : List Char} (mem : name ∈ table.primaryKeys) :
    Fields.find? name (table.rowWith key text) =
      some (.str (if name = key then String.ofList text else "")) := by
  rw [rowWith]
  split
  · rename_i here
    rw [here, Fields.find?_set_self]
  · rename_i elsewhere
    rw [Fields.find?_set_of_ne _ _ elsewhere]
    exact Fields.find?_constant _ mem

theorem sorted_rowWith (key : String) (text : List Char) :
    (table.rowWith key text).Sorted :=
  Fields.sorted_set _ _ (Fields.sorted_ofList _)

theorem keyTexts_rowWith {key : String} {text : List Char}
    (short : text.length < table.delimiter.toList.length) :
    table.KeyTexts (table.rowWith key text) := by
  intro name mem
  refine ⟨_, find?_rowWith mem, fun stands => ?_⟩
  have fits := stands.length_le
  split at fits
  · rw [String.toList_ofList] at fits
    omega
  · rw [String.toList_empty, List.length_nil] at fits
    omega

theorem textOf_rowWith {key name : String} {text : List Char} (mem : name ∈ table.primaryKeys) :
    textOf (table.rowWith key text) name = if name = key then String.ofList text else "" := by
  rw [textOf, find?_rowWith mem]

/-- Between two or more keys a delimiter that overlaps itself gives one id to two rows that
differ in their first two keys. -/
theorem not_idsUnique_of_overlaps (distinct : table.primaryKeys.Nodup)
    (several : 2 ≤ table.primaryKeys.length) (overlaps : Overlaps table.delimiter.toList) :
    ¬ table.IdsUnique := by
  obtain ⟨before, after, some, short, short', shift⟩ := overlaps.exists_shift
  match keys : table.primaryKeys, several with
  | first :: second :: rest, _ =>
    rw [keys] at distinct
    have different : second ≠ first := by
      rintro rfl
      simp at distinct
    have inFirst : first ∈ table.primaryKeys := by simp [keys]
    have inSecond : second ∈ table.primaryKeys := by simp [keys]
    -- All other keys are empty in both rows.
    have others {key : String} {text : List Char} (here : key = first ∨ key = second) :
        rest.map (textOf (table.rowWith key text)) = rest.map fun _ => "" := by
      refine List.map_congr_left fun name mem => ?_
      have elsewhere : name ≠ key := by
        rintro rfl
        rcases here with rfl | rfl <;> simp [mem] at distinct
      rw [textOf_rowWith (by simp [keys, mem]), if_neg elsewhere]
    have texts : table.KeyTexts (table.rowWith first before) := keyTexts_rowWith short
    have texts' : table.KeyTexts (table.rowWith second after) := keyTexts_rowWith short'
    have left := texts.documentId?_eq (List.ne_nil_of_mem inFirst)
    have right := texts'.documentId?_eq (List.ne_nil_of_mem inFirst)
    rw [keys, List.map_cons, List.map_cons, others (.inl rfl), textOf_rowWith inFirst,
      textOf_rowWith inSecond, if_pos rfl, if_neg different] at left
    rw [keys, List.map_cons, List.map_cons, others (.inr rfl), textOf_rowWith inFirst,
      textOf_rowWith inSecond, if_pos rfl, if_neg different.symm] at right
    have join : table.delimiter.intercalate
          (String.ofList before :: "" :: rest.map fun _ => "") =
        table.delimiter.intercalate ("" :: String.ofList after :: rest.map fun _ => "") := by
      have shifted : String.ofList before ++ table.delimiter =
          table.delimiter ++ String.ofList after := by
        apply String.toList_inj.mp
        simpa using shift
      cases rest with
      | nil => simpa [String.intercalate_cons_cons] using shifted
      | cons third rest =>
          simp only [List.map_cons, String.intercalate_cons_cons, String.empty_append, shifted,
            String.append_assoc]
    intro unique
    have same := unique _ _ (sorted_rowWith first before) (sorted_rowWith second after)
      texts texts' (by rw [left, right, join]) first inFirst
    rw [find?_rowWith inFirst, find?_rowWith inFirst, if_pos rfl, if_neg different.symm] at same
    simp at same
    exact some (by simpa using same)

/-- Rows with one id have one key if the delimiter separates the parts.  For a table whose keys
are different columns it has to. -/
theorem idsUnique_iff_separates (table : Table) :
    (table.Separates → table.IdsUnique) ∧
    (table.primaryKeys.Nodup → (table.IdsUnique ↔ table.Separates)) := by
  refine ⟨idsUnique_of_separates, fun distinct => ⟨fun unique => ?_, idsUnique_of_separates⟩⟩
  by_contra mistaken
  obtain ⟨several, overlaps⟩ := not_or.mp mistaken
  exact not_idsUnique_of_overlaps distinct (by omega) (not_not.mp overlaps) unique

/-- Who plays whom, with two colons between film and role. -/
def castings : Table :=
  (ofColumns "castings" ["film", "role"] ["actor"]).withDelimiter "::"

theorem overlaps_colons : Overlaps castings.delimiter.toList :=
  ⟨[':'], by decide, by decide, ⟨[':'], by decide⟩, ⟨[':'], by decide⟩⟩

theorem idsUnique_iff_separates_castings :
    (castings.withDelimiter "-").IdsUnique ∧ ¬ castings.IdsUnique := by
  have single : ¬ Overlaps (castings.withDelimiter "-").delimiter.toList := by
    rintro ⟨shared, few, short, -⟩
    have := List.length_pos_of_ne_nil few
    exact absurd short (by simp [withDelimiter]; omega)
  refine ⟨(idsUnique_iff_separates _).1 (.inr single), ?_⟩
  rw [(idsUnique_iff_separates castings).2 (by decide)]
  rintro (few | apart)
  · exact absurd few (by decide)
  · exact apart overlaps_colons

/-- The third colon belongs to the film or to the role. -/
theorem documentId?_castings_eq :
    castings.delimiter ≠ "" ∧
    castings.KeyTexts [("film", .str "Rope:"), ("role", .str "Kenneth")] ∧
    castings.KeyTexts [("film", .str "Rope"), ("role", .str ":Kenneth")] ∧
    castings.documentId? [("film", .str "Rope:"), ("role", .str "Kenneth")] =
      some "Rope:::Kenneth" ∧
    castings.documentId? [("film", .str "Rope"), ("role", .str ":Kenneth")] =
      some "Rope:::Kenneth" ∧
    ¬ ∀ table : Table, table.delimiter ≠ "" → table.IdsUnique := by
  have texts (film role : String) (free : ¬ "::".toList <:+: film.toList)
      (free' : ¬ "::".toList <:+: role.toList) :
      castings.KeyTexts [("film", .str film), ("role", .str role)] := by
    intro key mem
    have name : key = "film" ∨ key = "role" := by
      simpa [castings, withDelimiter, ofColumns] using mem
    rcases name with rfl | rfl
    · exact ⟨film, rfl, free⟩
    · exact ⟨role, rfl, free'⟩
  have late := texts "Rope:" "Kenneth" (by decide) (by decide)
  have early := texts "Rope" ":Kenneth" (by decide) (by decide)
  have sorted (film role : String) :
      Fields.Sorted [("film", Json.str film), ("role", Json.str role)] :=
    List.pairwise_pair.mpr (by change "film" < "role"; decide)
  refine ⟨by decide, late, early, by decide, by decide, fun always => ?_⟩
  have same := always castings (by decide) _ _ (sorted _ _) (sorted _ _) late early (by decide)
    "film" (by decide)
  simp [Fields.find?] at same

end Table

end Polyquery
