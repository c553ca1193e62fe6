import Polyquery.Proofs.Sql.Lexing
import Polyquery.Proofs.Sql.Truth

/-!
# Reading insertions

An insertion of PostgreSQL names a table, its columns, and a tuple of values for each
row.  It may say what happens where a stored row has the keys of a new one: which columns
of the stored row get new values, and for which stored rows.  Rows are compared value by
value, and nothing is equal to null, so that a comparison with null is never true.
-/

namespace Polyquery

namespace Sql

/-! ## Groups -/

/-- A token of a statement, or a literal as a whole. -/
inductive Atom where
  | token (t : Token)
  | literal (v : Value)
deriving DecidableEq

/-- What stands alone, or the items of a tuple. -/
inductive Group where
  | atom (a : Atom)
  | tuple (items : List (List Atom))
deriving DecidableEq

namespace Group

/-- A word without a meaning for the lexer. -/
@[match_pattern]
abbrev word (text : String) : Group := .atom (.token (.word text))

@[match_pattern]
abbrev keyword (k : Keyword) : Group := .atom (.token (.keyword k))

@[match_pattern]
abbrev name (text : String) : Group := .atom (.token (.name '"' text))

@[match_pattern]
abbrev comma : Group := .atom (.token .comma)

@[match_pattern]
abbrev dot : Group := .atom (.token .dot)

@[match_pattern]
abbrev equal : Group := .atom (.token .eq)

/-- Group what stands between parentheses.  An open tuple has the items that are complete
and the one that is not. -/
def ofAtoms? : Option (List (List Atom) × List Atom) → List Atom → Option (List Group)
  | none, [] => some []
  | some _, [] => none
  | none, .token .opening :: rest => ofAtoms? (some ([], [])) rest
  | none, a :: rest => (ofAtoms? none rest).map (.atom a :: ·)
  | some (items, item), .token .comma :: rest => ofAtoms? (some (items ++ [item], [])) rest
  | some (items, item), .token .closing :: rest =>
    (ofAtoms? none rest).map (.tuple (items ++ [item]) :: ·)
  | some (items, item), a :: rest => ofAtoms? (some (items, item ++ [a])) rest

end Group

/-! ## Insertions -/

/-- Where a value comes from. -/
inductive Operand where
  | literal (v : Value)
  | parameter (n : Nat)
  /-- A column of the row that could not be inserted. -/
  | excluded (column : String)
deriving DecidableEq

/-- Columns of a stored row with an operand for each. -/
structure Pairing where
  columns : List String
  operands : List Operand
  length_eq : columns.length = operands.length
deriving DecidableEq

/-- What happens where a stored row has the keys of a new one. -/
structure Resolution where
  /-- The columns in which the rows are the same. -/
  target : List String
  /-- What is stored in which columns. -/
  assigned : Pairing
  /-- What the stored row has to be equal to, if there is a condition. -/
  condition : Option Pairing
deriving DecidableEq

/-- What an insertion asks for. -/
structure Insertion where
  table : String
  columns : List String
  rows : List (List Operand)
  resolution : Option Resolution
  /-- The column whose value is returned. -/
  returned : Option String
deriving DecidableEq

/-! ## Reading -/

/-- The name that some atoms are. -/
def name? : List Atom → Option String
  | [.token (.name '"' text)] => some text
  | _ => none

/-- The name of a column behind the name of its table. -/
def columnOf? (table : String) : List Atom → Option String
  | [.token (.name '"' owner), .token .dot, .token (.name '"' column)] =>
    if owner = table then some column else none
  | _ => none

def Operand.ofAtoms? : List Atom → Option Operand
  | [.literal v] => some (.literal v)
  | [.token (.parameter n)] => some (.parameter n)
  | [.token (.word "EXCLUDED"), .token .dot, .token (.name '"' column)] => some (.excluded column)
  | _ => none

/-- As many operands as columns. -/
def Pairing.of? (columns : List String) (operands : List Operand) : Option Pairing :=
  if same : columns.length = operands.length then some ⟨columns, operands, same⟩ else none

namespace Insertion

/-- The tuples of an insertion, with commas between them. -/
def rows? : List Group → Option (List (List Operand) × List Group)
  | .tuple items :: .comma :: rest => do
    let row ← items.mapM Operand.ofAtoms?
    let (rows, rest) ← rows? rest
    return (row :: rows, rest)
  | .tuple items :: rest => do return ([← items.mapM Operand.ofAtoms?], rest)
  | _ => none

/-- The columns that change: several of them stand in parentheses, a single one does
not. -/
def assigned? : List Group → Option (Pairing × List Group)
  | .tuple (first :: second :: names) :: .equal :: .tuple values :: rest => do
    let columns ← (first :: second :: names).mapM name?
    return (← Pairing.of? columns (← values.mapM Operand.ofAtoms?), rest)
  | .name column :: .equal :: .atom a :: rest =>
    match rest with
    | .dot :: .atom b :: rest => do
      return (← Pairing.of? [column] [← Operand.ofAtoms? [a, .token .dot, b]], rest)
    | rest => do return (← Pairing.of? [column] [← Operand.ofAtoms? [a]], rest)
  | _ => none

/-- The condition on the stored row. -/
def condition? (table : String) : List Group → Option (Option Pairing × List Group)
  | .keyword .condition :: .tuple columns :: .equal :: .tuple values :: rest => do
    let columns ← columns.mapM (columnOf? table)
    return (some (← Pairing.of? columns (← values.mapM Operand.ofAtoms?)), rest)
  | rest => some (none, rest)

/-- What happens on a conflict. -/
def resolution? (table : String) : List Group → Option (Option Resolution × List Group)
  | .word "ON" :: .word "CONFLICT" :: .tuple target :: .word "DO" :: .word "UPDATE" ::
      .word "SET" :: rest => do
    let target ← target.mapM name?
    let (assigned, rest) ← assigned? rest
    let (condition, rest) ← condition? table rest
    return (some ⟨target, assigned, condition⟩, rest)
  | rest => some (none, rest)

/-- The column whose value is returned. -/
def returning : List Group → Option String × List Group
  | .word "RETURNING" :: .name column :: .keyword .named :: .word _ :: rest => (some column, rest)
  | rest => (none, rest)

/-- An insertion up to its semicolon. -/
def ofGroups? : List Group → Option Insertion
  | .word "INSERT" :: .keyword .into :: .name table :: .tuple columns :: .keyword .values ::
      rest => do
    let columns ← columns.mapM name?
    let (rows, rest) ← rows? rest
    let (resolution, rest) ← resolution? table rest
    let (returned, rest) := returning rest
    if rows.all (·.length = columns.length) ∧ rest = [.atom (.token .semicolon)] then
      return ⟨table, columns, rows, resolution, returned⟩
    else none
  | _ => none

def ofAtoms? (atoms : List Atom) : Option Insertion := do
  ofGroups? (← Group.ofAtoms? none atoms)

end Insertion

/-! ## Effects -/

/-- The values of the columns of a row. -/
abbrev Stored := String → Value

/-- The domains of the columns of a table. -/
structure Domains where
  /-- The value of a column that an insertion does not name. -/
  standard : Stored
  /-- Whether two values of a column are equal, if neither is null. -/
  equal : String → Value → Value → Bool

/-- Whether values of a column are equal; unknown if one is null. -/
def Domains.compares (domains : Domains) (column : String) (a b : Value) : Truth :=
  if a.isNull || b.isNull then none else some (domains.equal column a b)

/-- Rows that have equal values in some columns, none of them null. -/
def Domains.Agree (domains : Domains) (columns : List String) (stored new : Stored) : Prop :=
  ∀ column ∈ columns, domains.compares column (stored column) (new column) = some true

/-- What a new row does to a stored one. -/
inductive Effect where
  /-- The new row is stored beside it. -/
  | apart
  /-- The stored row stays as it is, and the new one is not stored. -/
  | kept
  /-- The stored row changes. -/
  | updated (row : Stored)

variable (domains : Domains) (params : List Value)

/-- The value of an operand without a row. -/
def Operand.given? : Operand → Option Value
  | literal v => some v
  | parameter n => params[n - 1]?
  | excluded _ => none

/-- The value of an operand for a row that could not be inserted. -/
def Operand.value? (new : Stored) : Operand → Option Value
  | excluded column => some (new column)
  | operand => operand.given? params

/-- The values that columns of a stored row are paired with. -/
def Pairing.values? (pairing : Pairing) (new : Stored) : Option (Fields Value) := do
  return pairing.columns.zip (← pairing.operands.mapM (Operand.value? params new))

/-- The values that columns of a stored row have to be equal to. -/
def Resolution.compared? (resolution : Resolution) (new : Stored) : Option (Fields Value) :=
  match resolution.condition with
  | some pairing => pairing.values? params new
  | none => some []

/-- The effect on a stored row of a new one. -/
def Resolution.effect? (resolution : Resolution) (new stored : Stored) : Option Effect := do
  let assigned ← resolution.assigned.values? params new
  let compared ← resolution.compared? params new
  if all3 (resolution.target.map fun key => domains.compares key (stored key) (new key)) ≠
      some true then
    return .apart
  else if all3 (compared.map fun entry => domains.compares entry.1 (stored entry.1) entry.2) ≠
      some true then
    return .kept
  else
    return .updated fun column => (Fields.find? column assigned).getD (stored column)

theorem all3_eq_true_iff {truths : List Truth} :
    all3 truths = some true ↔ ∀ truth ∈ truths, truth = some true := by
  induction truths with
  | nil => exact iff_of_true rfl fun _ mem => absurd mem List.not_mem_nil
  | cons truth rest ih =>
      rw [all3, List.forall_mem_cons, ← ih]
      rcases truth with - | - | - <;> rcases all3 rest with - | - | - <;> decide

/-- What happens to a stored row with the keys of a new one is up to the condition. -/
theorem Resolution.effect?_eq {resolution : Resolution} {new stored : Stored}
    {assigned compared : Fields Value}
    (conditions : resolution.compared? params new = some compared)
    (values : resolution.assigned.values? params new = some assigned)
    (same : domains.Agree resolution.target stored new) :
    resolution.effect? domains params new stored =
      some (if ∀ entry ∈ compared,
          domains.compares entry.1 (stored entry.1) entry.2 = some true then
        .updated fun column => (Fields.find? column assigned).getD (stored column) else .kept) := by
  have target : all3 (resolution.target.map fun key =>
      domains.compares key (stored key) (new key)) = some true := by
    rw [all3_eq_true_iff, List.forall_mem_map]
    exact same
  rw [effect?, values, conditions, Option.bind_eq_bind, Option.bind_some, Option.bind_some, target,
    if_neg (not_not_intro rfl), ite_not]
  simp only [all3_eq_true_iff, List.forall_mem_map]
  split <;> rfl

/-- An operand without a row has the same value for every row. -/
theorem Operand.value?_of_given? {operand : Operand} {v : Value} (new : Stored)
    (given : operand.given? params = some v) : operand.value? params new = some v := by
  cases operand with
  | excluded column => cases given
  | literal | parameter => exact given

namespace Insertion

variable (insertion : Insertion)

/-- The row that is to be inserted for some operands. -/
def new? (operands : List Operand) : Option Stored := do
  let values ← operands.mapM (Operand.given? params)
  return fun column =>
    (Fields.find? column (insertion.columns.zip values)).getD (domains.standard column)

/-- The effect on a stored row of the row with a number, taken by itself. -/
def effect? (i : Nat) (stored : Stored) : Option Effect := do
  let new ← insertion.new? domains params (← insertion.rows[i]?)
  (← insertion.resolution).effect? domains params new stored

variable {domains params insertion}

theorem effect?_eq {i : Nat} {operands : List Operand} {new stored : Stored}
    {resolution : Resolution} (row : insertion.rows[i]? = some operands)
    (made : insertion.new? domains params operands = some new)
    (resolves : insertion.resolution = some resolution) :
    insertion.effect? domains params i stored = resolution.effect? domains params new stored := by
  rw [effect?, row, resolves]
  change (insertion.new? domains params operands).bind _ = _
  rw [made]
  rfl

end Insertion

end Sql

/-! ## Drafts -/

open Sql Sql.Lexer

/-- The atoms of a piece.  A parameter is a placeholder or a literal. -/
def Piece.atoms (mode : Mode) (params : List Value) : Piece → List Atom
  | .text s => (wordTokens s).map .token
  | .name s => [.token (.name Dialect.postgres.nameMark s)]
  | .value v => [.literal v]
  | .bound n =>
    match mode with
    | .placeholders => [.token (.parameter n)]
    | .inline => [.literal (params.getD (n - 1) .null)]

/-- The insertion that a draft is. -/
def Draft.insertion? (mode : Mode) (draft : Draft) : Option Insertion :=
  Insertion.ofAtoms? (draft.pieces.flatMap (Piece.atoms mode draft.params))

/-! ## Writing -/

namespace Sql

/-- The atoms of an operand. -/
def Operand.atoms : Operand → List Atom
  | literal v => [.literal v]
  | parameter n => [.token (.parameter n)]
  | excluded column => [.token (.word "EXCLUDED"), .token .dot, .token (.name '"' column)]

/-- The atoms of a name. -/
def nameAtoms (name : String) : List Atom := [.token (.name '"' name)]

/-- The atoms of a column behind the name of its table. -/
def ownedAtoms (table column : String) : List Atom :=
  [.token (.name '"' table), .token .dot, .token (.name '"' column)]

/-- Whether an atom can stand inside of an item. -/
def Atom.isInner : Atom → Bool
  | .token .opening | .token .comma | .token .closing => false
  | _ => true

@[simp]
theorem Operand.ofAtoms?_atoms (operand : Operand) : ofAtoms? operand.atoms = some operand := by
  cases operand <;> rfl

theorem Operand.isInner_atoms (operand : Operand) : ∀ a ∈ operand.atoms, a.isInner := by
  cases operand <;> simp [atoms, Atom.isInner]

section Lists

variable {α β : Type} {items : List α}

/-- Reading that succeeds for each of some items. -/
theorem mapM_eq_some {read : α → Option β} {meaning : α → β}
    (each : ∀ item ∈ items, read item = some (meaning item)) :
    items.mapM read = some (items.map meaning) := by
  induction items with
  | nil => rfl
  | cons item rest ih =>
      rw [List.mapM_cons, each item List.mem_cons_self,
        ih fun other mem => each other (List.mem_cons_of_mem item mem)]
      rfl

/-- What is read back from each of some items. -/
theorem mapM_map_eq_some {write : α → β} {read : β → Option α}
    (each : ∀ item, read (write item) = some item) (items : List α) :
    (items.map write).mapM read = some items := by
  have read := @mapM_eq_some _ _ items (read ∘ write) id fun item _ => each item
  rw [List.mapM_map, read, List.map_id]

end Lists

theorem mapM_name? (names : List String) : (names.map nameAtoms).mapM name? = some names :=
  @mapM_map_eq_some _ _ nameAtoms name? (fun _ => rfl) names

theorem mapM_columnOf? (table : String) (columns : List String) :
    (columns.map (ownedAtoms table)).mapM (columnOf? table) = some columns :=
  @mapM_map_eq_some _ _ (ownedAtoms table) (columnOf? table) (fun _ => if_pos rfl) columns

theorem mapM_ofAtoms? (operands : List Operand) :
    (operands.map Operand.atoms).mapM Operand.ofAtoms? = some operands :=
  mapM_map_eq_some Operand.ofAtoms?_atoms operands

namespace Insertion

variable {rest : List Group}

/-- Tuples of operands are read up to anything but a comma. -/
theorem rows?_intercalate {rows : List (List Operand)} (present : rows ≠ [])
    (ends : rest.head? ≠ some Group.comma) :
    rows? ([Group.comma].intercalate (rows.map fun row => [.tuple (row.map Operand.atoms)]) ++
      rest) = some (rows, rest) := by
  induction rows with
  | nil => exact absurd rfl present
  | cons row others ih =>
      cases others with
      | nil =>
          rw [List.map_singleton, List.intercalate_singleton, List.singleton_append, rows?,
            mapM_ofAtoms?]
          · rfl
          · rintro more rfl
            exact ends rfl
      | cons second last =>
          have tail := ih (List.cons_ne_nil second last)
          rw [List.map_cons] at tail
          rw [List.map_cons, List.map_cons, List.intercalate_cons_cons, List.append_assoc,
            List.append_assoc, List.singleton_append, List.singleton_append, rows?, mapM_ofAtoms?,
            Option.bind_eq_bind, Option.bind_some, tail]
          rfl

/-- A single column gets its value without parentheses. -/
theorem assigned?_single (column : String) (operand : Operand)
    (ends : rest.head? ≠ some Group.dot) :
    assigned? (.name column :: .equal :: (operand.atoms.map .atom ++ rest)) =
      some (⟨[column], [operand], rfl⟩, rest) := by
  have alone (a : Atom) (read : Operand.ofAtoms? [a] = some operand) :
      assigned? (.name column :: .equal :: .atom a :: rest) =
        some (⟨[column], [operand], rfl⟩, rest) := by
    rw [assigned?, read]
    · rfl
    · rintro b more rfl
      exact ends rfl
  cases operand with
  | excluded other => rfl
  | literal v => exact alone _ rfl
  | parameter n => exact alone _ rfl

end Insertion

end Sql

/-! ## Grouping -/

namespace Sql.Group

/-- In front of anything, atoms are put together to groups. -/
def Makes (atoms : List Atom) (groups : List Group) : Prop :=
  ∀ rest, ofAtoms? none (atoms ++ rest) = (ofAtoms? none rest).map (groups ++ ·)

variable {atoms more item seen rest : List Atom} {items done : List (List Atom)}
  {groups others : List Group}

theorem Makes.nil : Makes [] [] := by
  intro rest
  cases read : ofAtoms? none rest <;> simp [read]

theorem Makes.append (first : Makes atoms groups) (second : Makes more others) :
    Makes (atoms ++ more) (groups ++ others) := by
  intro rest
  rw [List.append_assoc, first, second, Option.map_map]
  simp only [Function.comp_def, List.append_assoc]

theorem makes_atom {a : Atom} (apart : a ≠ .token .opening) : Makes [a] [.atom a] := by
  intro rest
  rw [List.singleton_append, ofAtoms?]
  · rfl
  · exact apart

/-- Without parentheses, every atom stands alone. -/
theorem makes_atoms (apart : ∀ a ∈ atoms, a ≠ .token .opening) : Makes atoms (atoms.map .atom) := by
  induction atoms with
  | nil => exact Makes.nil
  | cons a others ih =>
      exact (makes_atom (apart a List.mem_cons_self)).append
        (ih fun other mem => apart other (List.mem_cons_of_mem a mem))

theorem ofAtoms?_item (inner : ∀ a ∈ item, a.isInner) :
    ofAtoms? (some (done, seen)) (item ++ rest) = ofAtoms? (some (done, seen ++ item)) rest := by
  induction item generalizing seen with
  | nil => rw [List.nil_append, List.append_nil]
  | cons a others ih =>
      have first := inner a List.mem_cons_self
      rw [List.cons_append, ofAtoms?, ih fun other mem => inner other (List.mem_cons_of_mem a mem),
        List.append_assoc]
      · rfl
      · rintro rfl
        cases first
      · rintro rfl
        cases first

/-- The items of an open tuple are read up to its end. -/
theorem ofAtoms?_items (some : items ≠ []) (inner : ∀ item ∈ items, ∀ a ∈ item, a.isInner) :
    ofAtoms? (.some (done, []))
        ([Atom.token .comma].intercalate items ++ .token .closing :: rest) =
      (ofAtoms? none rest).map (.tuple (done ++ items) :: ·) := by
  induction items generalizing done with
  | nil => exact absurd rfl some
  | cons first others ih =>
      have inFirst := inner first List.mem_cons_self
      cases others with
      | nil => rw [List.intercalate_singleton, ofAtoms?_item inFirst, List.nil_append, ofAtoms?]
      | cons second last =>
          have tail := @ih (done ++ [first]) (List.cons_ne_nil second last)
            fun item mem => inner item (List.mem_cons_of_mem first mem)
          rw [List.append_assoc, List.singleton_append] at tail
          rw [List.intercalate_cons_cons, List.append_assoc, List.append_assoc,
            ofAtoms?_item inFirst, List.nil_append, List.singleton_append, ofAtoms?, tail]

end Sql.Group

namespace Piece

open Sql.Group

variable {mode : Mode} {params : List Value} {items : List (List Piece)} {s : String}

theorem atoms_separated (comma : wordTokens s = [.comma]) :
    (separated s items).flatMap (atoms mode params) =
      [Atom.token .comma].intercalate (items.map (List.flatMap (atoms mode params))) := by
  induction items with
  | nil => rfl
  | cons first rest ih =>
      cases rest with
      | nil => simp [separated]
      | cons second others =>
          have tail : separated s (first :: second :: others) =
              first ++ .text s :: separated s (second :: others) := by
            rw [separated, List.intercalate_cons_cons, List.append_assoc]
            rfl
          rw [tail, List.flatMap_append, List.flatMap_cons, ih, List.map_cons, List.map_cons,
            List.map_cons, List.intercalate_cons_cons, List.append_assoc, atoms, comma]
          rfl

theorem makes_text (tokens : List Token) (words : wordTokens s = tokens)
    (apart : .opening ∉ tokens) :
    Makes (atoms mode params (.text s)) (tokens.map fun t => .atom (.token t)) := by
  rw [atoms, words]
  have made := @makes_atoms (tokens.map .token) fun a mem => by
    rintro rfl
    rw [List.mem_map] at mem
    obtain ⟨t, inTokens, same⟩ := mem
    cases same
    exact apart inTokens
  rwa [List.map_map] at made

theorem makes_name : Makes (atoms mode params (.name s)) [.name s] :=
  makes_atom fun same => by cases same

theorem makes_tuple {texts : List (List Atom)}
    (spelled : items.map (List.flatMap (atoms mode params)) = texts) (some : texts ≠ [])
    (inner : ∀ text ∈ texts, ∀ a ∈ text, a.isInner) :
    Makes ((UpsertRun.tuple "," items).flatMap (atoms mode params)) [.tuple texts] := by
  intro rest
  have opening : atoms mode params (.text "(") = [.token .opening] := by
    rw [atoms]
    cbv
  have closing : atoms mode params (.text ")") = [.token .closing] := by
    rw [atoms]
    cbv
  rw [UpsertRun.tuple, List.flatMap_append, List.flatMap_append, List.flatMap_singleton,
    List.flatMap_singleton, opening, closing, atoms_separated (by cbv), spelled, List.append_assoc,
    List.append_assoc, List.singleton_append, List.singleton_append, ofAtoms?,
    ofAtoms?_items some inner]
  rfl

/-- Groups with commas between them. -/
theorem makes_separated {ι : Type} {indices : List ι} {pieces : ι → List Piece}
    {groups : ι → List Group}
    (each : ∀ i ∈ indices, Makes ((pieces i).flatMap (atoms mode params)) (groups i)) :
    Makes ((separated "," (indices.map pieces)).flatMap (atoms mode params))
      ([Group.comma].intercalate (indices.map groups)) := by
  rw [atoms_separated (by cbv)]
  induction indices with
  | nil => exact Makes.nil
  | cons first rest ih =>
      have head := each first List.mem_cons_self
      have tail := ih fun i mem => each i (List.mem_cons_of_mem first mem)
      cases rest with
      | nil => simpa using head
      | cons second others =>
          have comma : Makes [.token .comma] [Group.comma] := makes_atom (by decide)
          simp only [List.map_cons, List.intercalate_cons_cons] at tail ⊢
          exact (head.append comma).append tail

end Piece

end Polyquery
