import Polyquery.Json.Record
import Polyquery.Proofs.Fields
import Polyquery.Proofs.Json.Lexing

/-!
# Values read back

The tokens of a value are put together to its tree, and the tree stands for the value, so
that reading is the inverse of writing.  The text of a value has no control characters, so
that it fits on a line.
-/

namespace Polyquery

namespace Json

/-! ## Trees -/

variable {frames : List Frame} {rest : List Token}

/-- A token with which a value begins. -/
def Token.opens : Token → Bool
  | .null | .bool _ | .num _ | .str _ | .openArray | .openObject => true
  | _ => false

theorem step?_firstItem {token : Token} (opens : token.opens = true) (frames : List Frame) :
    Expect.step? .firstItem frames token = Expect.step? .value (.items [] :: frames) token := by
  cases token <;> first | rfl | cases opens

theorem exists_tokens_cons (value : Json) :
    ∃ token more, value.tokens = token :: more ∧ token.opens = true := by
  cases value <;> exact ⟨_, _, rfl, rfl⟩

/-- The first element of an array is read like the others. -/
theorem run?_firstItems (item : Json) (items : List Json) (frames : List Frame)
    (rest : List Token) :
    Expect.run? .firstItem frames (itemTokens (item :: items) ++ rest) =
      Expect.run? .value (.items [] :: frames) (itemTokens (item :: items) ++ rest) := by
  obtain ⟨token, more, starts, opens⟩ := exists_tokens_cons item
  obtain ⟨others, startsAll⟩ : ∃ others, itemTokens (item :: items) = token :: others := by
    cases items with
    | nil => exact ⟨more, starts⟩
    | cons next items => exact ⟨_, by rw [itemTokens, starts, List.cons_append]⟩
  rw [startsAll, List.cons_append, Expect.run?, Expect.run?, step?_firstItem opens]

/-- The first name of an object is read like the others. -/
theorem run?_firstKey (field : String × Json) (fields : List (String × Json)) (frames : List Frame)
    (rest : List Token) :
    Expect.run? (.firstKey []) frames (fieldTokens (field :: fields) ++ rest) =
      Expect.run? (.key []) frames (fieldTokens (field :: fields) ++ rest) := by
  obtain ⟨key, value⟩ := field
  cases fields <;> rfl

mutual

/-- The tokens of a value are put together to its tree. -/
theorem run?_tokens : ∀ (value : Json) (frames : List Frame) (rest : List Token),
    Expect.run? .value frames (value.tokens ++ rest) =
      Expect.run? (.next (Source.ofJson value)) frames rest
  | .null, _, _ => rfl
  | .bool _, _, _ => rfl
  | .num _, _, _ => rfl
  | .str _, _, _ => rfl
  | .arr [], _, _ => rfl
  | .arr (item :: items), frames, rest => by
      have opened : Expect.run? .value frames (tokens (.arr (item :: items)) ++ rest) =
          Expect.run? .firstItem frames (itemTokens (item :: items) ++ .closeArray :: rest) := by
        simp [tokens, Expect.run?, Expect.step?]
      rw [opened, run?_firstItems item items frames,
        run?_itemTokens (item :: items) (List.cons_ne_nil _ _)]
      rfl
  | .obj [], _, _ => rfl
  | .obj (field :: fields), frames, rest => by
      have opened : Expect.run? .value frames (tokens (.obj (field :: fields)) ++ rest) =
          Expect.run? (.firstKey []) frames
            (fieldTokens (field :: fields) ++ .closeObject :: rest) := by
        simp [tokens, Expect.run?, Expect.step?]
      rw [opened, run?_firstKey field fields frames,
        run?_fieldTokens (field :: fields) (List.cons_ne_nil _ _)]
      rfl

theorem run?_itemTokens : ∀ (items : List Json) (_ : items ≠ []) (before : List Source)
    (frames : List Frame) (rest : List Token),
    Expect.run? .value (.items before :: frames) (itemTokens items ++ .closeArray :: rest) =
      Expect.run? (.next (.arr (before.reverse ++ Source.ofItems items))) frames rest
  | [item], _, before, frames, rest => by
      rw [itemTokens, run?_tokens item]
      simp [Expect.run?, Expect.step?, Source.ofItems]
  | item :: next :: items, _, before, frames, rest => by
      rw [itemTokens, List.append_assoc, run?_tokens item]
      have comma : Expect.run? (.next (Source.ofJson item)) (.items before :: frames)
          (.comma :: itemTokens (next :: items) ++ .closeArray :: rest) =
            Expect.run? .value (.items (Source.ofJson item :: before) :: frames)
              (itemTokens (next :: items) ++ .closeArray :: rest) := by
        simp [Expect.run?, Expect.step?]
      rw [comma, run?_itemTokens (next :: items) (List.cons_ne_nil _ _)]
      simp [Source.ofItems]

theorem run?_fieldTokens : ∀ (fields : List (String × Json)) (_ : fields ≠ [])
    (before : List (Option String × Source)) (frames : List Frame) (rest : List Token),
    Expect.run? (.key before) frames (fieldTokens fields ++ .closeObject :: rest) =
      Expect.run? (.next (.obj (before.reverse ++ Source.ofFields fields))) frames rest
  | [(key, value)], _, before, frames, rest => by
      have named : Expect.run? (.key before) frames
          (fieldTokens [(key, value)] ++ .closeObject :: rest) =
            Expect.run? .value (.fields before key :: frames)
              (value.tokens ++ .closeObject :: rest) := by
        simp [fieldTokens, Expect.run?, Expect.step?]
      rw [named, run?_tokens value]
      simp [Expect.run?, Expect.step?, Source.ofFields]
  | (key, value) :: next :: fields, _, before, frames, rest => by
      have named : Expect.run? (.key before) frames
          (fieldTokens ((key, value) :: next :: fields) ++ .closeObject :: rest) =
            Expect.run? .value (.fields before key :: frames)
              (value.tokens ++
                .comma :: (fieldTokens (next :: fields) ++ .closeObject :: rest)) := by
        simp [fieldTokens, Expect.run?, Expect.step?]
      have comma : Expect.run? (.next (Source.ofJson value)) (.fields before key :: frames)
          (.comma :: (fieldTokens (next :: fields) ++ .closeObject :: rest)) =
            Expect.run? (.key ((some key, Source.ofJson value) :: before)) frames
              (fieldTokens (next :: fields) ++ .closeObject :: rest) := by
        simp [Expect.run?, Expect.step?]
      rw [named, run?_tokens value, comma, run?_fieldTokens (next :: fields) (List.cons_ne_nil _ _)]
      simp [Source.ofFields]

end

/-! ## Values -/

mutual

/-- How many arrays and objects are nested. -/
def Source.depth : Source → Nat
  | .arr items => Source.itemsDepth items + 1
  | .obj fields => Source.fieldsDepth fields + 1
  | _ => 0

def Source.itemsDepth : List Source → Nat
  | [] => 0
  | item :: rest => max (Source.depth item) (Source.itemsDepth rest)

def Source.fieldsDepth : List (Option String × Source) → Nat
  | [] => 0
  | field :: rest => max (Source.depth field.2) (Source.fieldsDepth rest)

end

/-- The value that a text stands for: its numbers are read exactly, and its arrays and
objects are nested as deep as they are written.  None if the text is not JSON. -/
def exactly? (text : String) : Option Json := do
  let source ← Source.read? NumberParts.exactly? text
  source.value? source.depth

mutual

/-- The tree of a value stands for it. -/
theorem value?_ofJson : ∀ {value : Json} {depth : Nat}, WellFormed value →
    (Source.ofJson value).depth ≤ depth → (Source.ofJson value).value? depth = some value
  | .null, _, _, _ => rfl
  | .bool _, _, _, _ => rfl
  | .num _, _, _, _ => rfl
  | .str _, _, _, _ => rfl
  | .arr items, 0, _, fits => absurd fits (Nat.not_succ_le_zero _)
  | .arr items, depth + 1, wellFormed, fits => by
      rw [Source.ofJson, Source.value?, values?_ofItems wellFormed (Nat.le_of_succ_le_succ fits)]
      rfl
  | .obj fields, 0, _, fits => absurd fits (Nat.not_succ_le_zero _)
  | .obj fields, depth + 1, wellFormed, fits => by
      rw [Source.ofJson, Source.value?,
        fieldValues?_ofFields wellFormed.2 (Nat.le_of_succ_le_succ fits), Option.map_some,
        Fields.ofList_eq_self wellFormed.1]

theorem values?_ofItems : ∀ {items : List Json} {depth : Nat}, WellFormedItems items →
    Source.itemsDepth (Source.ofItems items) ≤ depth →
      Source.values? depth (Source.ofItems items) = some items
  | [], _, _, _ => rfl
  | item :: rest, depth, wellFormed, fits => by
      obtain ⟨fitsItem, fitsRest⟩ := max_le_iff.mp fits
      rw [Source.ofItems, Source.values?, value?_ofJson wellFormed.1 fitsItem,
        values?_ofItems wellFormed.2 fitsRest]
      rfl

theorem fieldValues?_ofFields : ∀ {fields : List (String × Json)} {depth : Nat},
    WellFormedFields fields → Source.fieldsDepth (Source.ofFields fields) ≤ depth →
      Source.fieldValues? depth (Source.ofFields fields) = some fields
  | [], _, _, _ => rfl
  | (key, value) :: rest, depth, wellFormed, fits => by
      obtain ⟨fitsValue, fitsRest⟩ := max_le_iff.mp fits
      rw [Source.ofFields, Source.fieldValues?, value?_ofJson wellFormed.1 fitsValue,
        fieldValues?_ofFields wellFormed.2 fitsRest]
      rfl

end

/-- The text of a value stands for the value. -/
theorem exactly?_compact {value : Json} (wellFormed : WellFormed value) :
    exactly? value.compact = some value := by
  have cut : Token.ofText? NumberParts.exactly? value.compact = some value.tokens := by
    have lexed := lexes_compact wellFormed [] [] nofun
    rw [List.append_nil, List.append_nil] at lexed
    rw [Token.ofText?, lexed, Lexer.run?, List.reverse_reverse]
  have built : Expect.run? .value [] value.tokens = some (Source.ofJson value) := by
    have ran := run?_tokens value [] []
    rw [List.append_nil] at ran
    rw [ran]
    rfl
  rw [exactly?, Source.read?, cut]
  change ((Expect.run? .value [] value.tokens).bind _) = _
  rw [built]
  exact value?_ofJson wellFormed (le_refl _)

/-! ## Lines -/

/-- A text without line breaks and other control characters. -/
def IsLine (text : List Char) : Prop :=
  ∀ c ∈ text, 32 ≤ c.toNat

namespace IsLine

variable {text more : List Char}

theorem append (first : IsLine text) (second : IsLine more) : IsLine (text ++ more) :=
  fun c mem => (List.mem_append.mp mem).elim (first c) (second c)

theorem escapeChar (c : Char) : IsLine (escapeChar c) := by
  unfold Json.escapeChar
  split_ifs with quote backslash _ _ _ _ _ small
  · simp [IsLine]
  · simp [IsLine]
  · simp [IsLine]
  · simp [IsLine]
  · simp [IsLine]
  · simp [IsLine]
  · simp [IsLine]
  · have digit : ∀ n < 16, 32 ≤ (hexDigit n).toNat := by decide
    have high := digit (c.toNat / 16) (by omega)
    have low := digit (c.toNat % 16) (by omega)
    simp [IsLine, high, low]
  · simpa [IsLine] using not_lt.mp small

theorem quote (s : String) : IsLine (quote s).toList := by
  have escapes : IsLine (s.toList.flatMap Json.escapeChar) := by
    intro c mem
    obtain ⟨d, -, inEscape⟩ := List.mem_flatMap.mp mem
    exact escapeChar d c inEscape
  have mark : IsLine ['"'] := by simp [IsLine]
  simpa [Json.quote] using append mark (append escapes mark)

theorem of_isNumberChar (inNumber : ∀ c ∈ text, isNumberChar c = true) : IsLine text := by
  intro c mem
  rcases Bool.or_eq_true_iff.mp (inNumber c mem) with digit | sign
  · have least : 48 ≤ c.toNat := by
      simp only [Char.isDigit, Bool.and_eq_true, decide_eq_true_eq] at digit
      exact digit.1
    omega
  · simp only [List.contains_eq_mem, List.mem_cons, List.not_mem_nil, or_false,
      decide_eq_true_eq] at sign
    rcases sign with rfl | rfl | rfl | rfl <;> decide

theorem numberText {n : Number} (carried : Carried n) : IsLine (numberText n).toList := by
  obtain ⟨parts, proper, written, -⟩ := exists_parts_numberText carried
  rw [written]
  exact of_isNumberChar fun _ => isNumberChar_of_mem_text proper

end IsLine

mutual

/-- The text of a value fits on a line. -/
theorem isLine_compact : ∀ {value : Json}, WellFormed value → IsLine value.compact.toList
  | .null, _ => by simp [compact, IsLine]
  | .bool true, _ => by simp [compact, IsLine]
  | .bool false, _ => by simp [compact, IsLine]
  | .num _, carried => .numberText carried
  | .str s, _ => .quote s
  | .arr items, wellFormed => by
      have inside := isLine_compactItems wellFormed
      have left : IsLine ['['] := by simp [IsLine]
      have right : IsLine [']'] := by simp [IsLine]
      simpa [compact] using left.append (inside.append right)
  | .obj fields, wellFormed => by
      have inside := isLine_compactFields wellFormed.2
      have left : IsLine ['\x7b'] := by simp [IsLine]
      have right : IsLine ['\x7d'] := by simp [IsLine]
      simpa [compact] using left.append (inside.append right)

theorem isLine_compactItems : ∀ {items : List Json}, WellFormedItems items →
    IsLine (compactItems items).toList
  | [], _ => nofun
  | [_], wellFormed => isLine_compact wellFormed.1
  | item :: next :: rest, wellFormed => by
      have comma : IsLine [','] := by simp [IsLine]
      simpa [compactItems] using (isLine_compact wellFormed.1).append
        (comma.append (@isLine_compactItems (next :: rest) wellFormed.2))

theorem isLine_compactFields : ∀ {fields : List (String × Json)}, WellFormedFields fields →
    IsLine (compactFields fields).toList
  | [], _ => nofun
  | [(key, value)], wellFormed => by
      have colon : IsLine [':'] := by simp [IsLine]
      simpa [compactFields] using
        (IsLine.quote key).append (colon.append (isLine_compact wellFormed.1))
  | (key, value) :: next :: rest, wellFormed => by
      have colon : IsLine [':'] := by simp [IsLine]
      have comma : IsLine [','] := by simp [IsLine]
      simpa [compactFields] using (IsLine.quote key).append (colon.append
        ((isLine_compact wellFormed.1).append
          (comma.append (@isLine_compactFields (next :: rest) wellFormed.2))))

end

end Json

end Polyquery
