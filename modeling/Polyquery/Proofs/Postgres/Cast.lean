import Polyquery.Postgres.Cast
import Polyquery.Proofs.Sql.Holes

/-!
# Casts in written statements

Casts are put into the text of a statement after the statement has been written, by a
reader that knows nothing but quotation marks, dollar signs and digits.  It meets a
placeholder wherever a parameter was written and nowhere else, so that the result is the
statement that would have been written with the casts as the spelling of its parameters.
-/

namespace Polyquery

open Piece

/-- A parameter of PostgreSQL, cast from its text if it has a type to be cast to. -/
def Postgres.castPlaceholder (casts : List (Nat × String)) (n : Nat) : String :=
  match casts.lookup n with
  | some type => "($" ++ toString n ++ "::text)::" ++ type
  | none => "$" ++ toString n

/-- A statement with casts in its text. -/
def Statement.withCasts (casts : List (Nat × String)) (statement : Statement) : Statement :=
  { statement with text := Postgres.withCasts casts statement.text }

/-- The statements of a query, written with a spelling of parameters. -/
def Query.statementsWith (d : Dialect) (parameter : Nat → String) (query : Query) :
    Result StatementSet := do
  return (← query.drafts d).map fun draft => ⟨draft.spell d parameter, draft.params⟩

theorem Query.statements_placeholders (d : Dialect) (query : Query) :
    query.statements d .placeholders = query.statementsWith d d.placeholder :=
  rfl

/-! ## Reading -/

/-- The mark between which a text of PostgreSQL is read. -/
def Region.mark? : Region → Option Char
  | inside mark => some mark
  | _ => none

/-- A region that PostgreSQL reads into, where no backslash takes a character. -/
def Region.IsPlain : Region → Prop
  | outside => True
  | inside mark | closing mark => mark ∈ Dialect.postgres.marks
  | escaping _ => False

namespace Region

variable {region : Region} {mark c : Char}

theorem isOutside_of_mark?_eq_none (plain : region.IsPlain) (none : region.mark? = none) :
    region.isOutside = true := by
  cases region with
  | outside => rfl
  | inside mark => cases none
  | closing mark => rfl
  | escaping mark => cases plain

theorem eq_inside_of_mark?_eq_some (some : region.mark? = .some mark) :
    region = inside mark := by
  cases region with
  | inside other =>
      cases some
      rfl
  | outside => cases some
  | closing other => cases some
  | escaping other => cases some

/-- Between marks nothing counts but the mark. -/
theorem next_inside (mark c : Char) :
    next .postgres (inside mark) c = if c = mark then closing mark else inside mark := by
  simp [next, Dialect.escapes]

/-- Outside, a mark opens a quotation. -/
theorem next_of_mem_marks (outside : region.isOutside = true) (opens : c ∈ Dialect.postgres.marks) :
    next .postgres region c = inside c := by
  cases region with
  | outside => exact if_pos opens
  | closing mark =>
      by_cases same : c = mark
      · rw [next, if_pos same, same]
      · rw [next, if_neg same]
        exact if_pos opens
  | inside mark => cases outside
  | escaping mark => cases outside

/-- Outside, nothing but a mark opens a quotation. -/
theorem next_of_not_mem_marks (plain : region.IsPlain) (isOutside : region.isOutside = true)
    (bare : c ∉ Dialect.postgres.marks) : next .postgres region c = outside := by
  cases region with
  | outside => exact if_neg bare
  | closing mark =>
      have different : c ≠ mark := by
        rintro rfl
        exact bare plain
      rw [next, if_neg different]
      exact if_neg bare
  | inside mark => cases isOutside
  | escaping mark => cases isOutside

end Region

/-- A stretch with a cast in place of a placeholder. -/
def Stretch.cast (casts : List (Nat × String)) : Stretch → List Char
  | plain c => [c]
  | hole digits => Postgres.spellParameter casts digits

namespace Postgres

variable {casts : List (Nat × String)}

theorem mem_marks_iff {c : Char} : c ∈ Dialect.postgres.marks ↔ c = '\'' ∨ c = '"' := by
  simp [Dialect.marks, or_comm]

theorem opensHole_of_ne {c : Char} {rest : List Char} (different : c ≠ '$') :
    Dialect.postgres.opensHole c rest = false := by
  simp [Dialect.opensHole, Dialect.sign, different]

/-- The digits behind a placeholder belong to it. -/
theorem stretchesFrom_digits (region : Region) (cs : List Char) :
    Dialect.postgres.stretchesFrom region true cs =
      Dialect.postgres.stretchesFrom region false (cs.dropWhile Char.isDigit) := by
  have digits : ∀ c ∈ cs.takeWhile Char.isDigit, c.isDigit = true :=
    fun c mem => List.mem_takeWhile_imp mem
  have apart : (cs.dropWhile Char.isDigit).head?.any Char.isDigit = false := by
    have first := List.head?_dropWhile_not Char.isDigit cs
    cases head : (cs.dropWhile Char.isDigit).head? with
    | none => rfl
    | some c =>
        rw [head] at first
        exact first
  rw [← Dialect.stretchesFrom_numbering digits apart, List.takeWhile_append_dropWhile]

/-- From any region on, casts stand in place of the placeholders of a text. -/
theorem castText_eq (casts : List (Nat × String)) (cs : List Char) {region : Region}
    (plain : region.IsPlain) :
    castText casts region.mark? cs =
      (Dialect.postgres.stretchesFrom region false cs).flatMap (Stretch.cast casts) := by
  generalize within : region.mark? = mark
  fun_induction castText casts mark cs generalizing region with
  | case1 mark => rfl
  | case2 c rest closing ih =>
      -- between marks, both readers wait for the mark
      obtain rfl := Region.eq_inside_of_mark?_eq_some within
      have next := Region.next_inside closing c
      have nextPlain : (Region.next .postgres (.inside closing) c).IsPlain := by
        rw [next]
        split <;> exact plain
      have nextMark : (Region.next .postgres (.inside closing) c).mark? =
          if c = closing then none else some closing := by
        rw [next]
        split <;> rfl
      simp only [dite_eq_ite] at ih
      exact congrArg (c :: ·) (ih nextPlain nextMark)
  | case3 c rest opens ih =>
      have outside := Region.isOutside_of_mark?_eq_none plain within
      have mark : c ∈ Dialect.postgres.marks := mem_marks_iff.mpr opens
      have noSign : c ≠ '$' := by rcases opens with rfl | rfl <;> decide
      have inside : Region.IsPlain (.inside c) := mark
      rw [Dialect.stretchesFrom, opensHole_of_ne noSign, Region.next_of_mem_marks outside mark]
      simpa [Stretch.cast] using ih inside rfl
  | case4 rest bare ih =>
      have outside := Region.isOutside_of_mark?_eq_none plain within
      have noMark : '$' ∉ Dialect.postgres.marks := mem_marks_iff.not.mpr bare
      have rests : Region.IsPlain .outside := trivial
      rw [ih rests rfl, Dialect.stretchesFrom, outside, Bool.true_and,
        Region.next_of_not_mem_marks plain outside noMark]
      cases rest with
      | nil => rfl
      | cons c others =>
          cases digit : c.isDigit with
          | true =>
              -- the number of a placeholder is taken as a whole here, digit by digit there
              have opens : Dialect.postgres.opensHole '$' (c :: others) = true := by
                simp [Dialect.opensHole, Dialect.sign, digit]
              have numbered : Dialect.postgres.isNumbered = true := rfl
              rw [opens, Bool.false_and, if_pos rfl, if_neg Bool.false_ne_true, numbered,
                stretchesFrom_digits]
              rfl
          | false =>
              -- a dollar sign without a number stays
              have opens : Dialect.postgres.opensHole '$' (c :: others) = false := by
                simp [Dialect.opensHole, Dialect.isNumbered, digit]
              simp [opens, digit, spellParameter, parameter?, Stretch.cast]
  | case5 c rest noMark noSign ih =>
      have outside := Region.isOutside_of_mark?_eq_none plain within
      have bare : c ∉ Dialect.postgres.marks := mem_marks_iff.not.mpr noMark
      have rests : Region.IsPlain .outside := trivial
      rw [Dialect.stretchesFrom, opensHole_of_ne noSign,
        Region.next_of_not_mem_marks plain outside bare]
      simpa [Stretch.cast] using ih rests rfl

/-- The number of a parameter is read back. -/
theorem parameter?_natText (n : Nat) : parameter? (toString n).toList = some n := by
  have notEmpty : (Nat.toDigits 10 n).isEmpty = false :=
    List.isEmpty_eq_false_iff.mpr Nat.toDigits_ne_nil
  rw [Nat.toString_eq_repr, Nat.toList_repr, parameter?, notEmpty]
  exact congrArg some (Nat.ofDigitChars_toDigits (by decide) (by decide))

theorem spellParameter_natText (casts : List (Nat × String)) (n : Nat) :
    spellParameter casts (toString n).toList = (castPlaceholder casts n).toList := by
  rw [spellParameter, parameter?_natText, Option.bind_some, castPlaceholder]
  cases casts.lookup n with
  | none => simp
  | some type => simp

/-- In the stretches of pieces, the casts stand where the parameters are. -/
theorem flatMap_cast_stretches (casts : List (Nat × String)) (pieces : List Piece) :
    (pieces.flatMap (Piece.stretches .postgres)).flatMap (Stretch.cast casts) =
      chars .postgres (castPlaceholder casts) pieces := by
  have copied (cs : List Char) : (cs.map Stretch.plain).flatMap (Stretch.cast casts) = cs := by
    rw [List.flatMap_map]
    exact List.flatMap_singleton' cs
  rw [chars, List.flatMap_assoc]
  apply List.flatMap_congr
  intro piece _
  cases piece with
  | text s => exact copied s.toList
  | name s => exact copied (Dialect.postgres.quoteName s).toList
  | value v => exact copied (Dialect.postgres.literal v).toList
  | bound n =>
      rw [Piece.stretches, List.flatMap_singleton]
      exact spellParameter_natText casts n

/-- Casts in a drafted statement are the draft with another spelling of its parameters. -/
theorem withCasts_spell (casts : List (Nat × String)) {draft : Draft}
    (terminated : Terminated (IsSplit .postgres) draft.pieces) :
    Postgres.withCasts casts (draft.spell .postgres Dialect.postgres.placeholder) =
      draft.spell .postgres (castPlaceholder casts) := by
  have begins : Region.IsPlain .outside := trivial
  have cast := castText_eq casts (draft.spell .postgres Dialect.postgres.placeholder).toList begins
  rw [← Dialect.stretches, Draft.stretches_spell terminated, flatMap_cast_stretches,
    ← Draft.toList_spell] at cast
  rw [Postgres.withCasts]
  exact String.toList_inj.mp (String.toList_ofList.trans cast)

end Postgres

/-! ## Statements -/

/-- Whatever types the parameters are cast to, putting casts into the statements of a query
gives the statements that are written with the casts as the spelling of parameters. -/
theorem Query.map_withCasts_statements (casts : List (Nat × String)) (query : Query) :
    (query.statements .postgres .placeholders).map (List.map (Statement.withCasts casts)) =
      query.statementsWith .postgres (Postgres.castPlaceholder casts) := by
  rw [statements_placeholders, statementsWith, statementsWith]
  cases made : query.drafts .postgres with
  | error failure => rfl
  | ok drafts =>
      change Except.ok _ = Except.ok _
      rw [List.map_map]
      congr 1
      apply List.map_congr_left
      intro draft mem
      have cast := Postgres.withCasts_spell casts (terminated_isSplit made mem)
      exact congrArg (Statement.mk · draft.params) cast

/-- A parameter may come twice, a longer number is another one, and what is quoted stays. -/
example : Postgres.withCasts [(1, "DATE")] "SET \"a$1\" = $1, $12 WHERE ('$1') = ($1);" =
    "SET \"a$1\" = ($1::text)::DATE, $12 WHERE ('$1') = (($1::text)::DATE);" := by
  cbv

end Polyquery
