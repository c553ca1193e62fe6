import Polyquery.Proofs.Json.Number

/-!
# Tokens of JSON text

The text of a value is cut into the tokens that it was written from.  A word ends where
the next space, quotation mark or structural character begins, so that what follows a
value must begin with one of these, or be the end of the text.
-/

namespace Polyquery.Json

/-! ## Values that can be written -/

/-- A number that JSON text can carry: a whole number of 64 bits or a finite number. -/
def Carried : Number → Prop
  | .int n => Number.fitsWhole n = true
  | .float x => IsFinite x

mutual

/-- A value as JSON libraries keep it: its numbers can be written, and its objects are
sorted by name. -/
def WellFormed : Json → Prop
  | .null | .bool _ | .str _ => True
  | .num n => Carried n
  | .arr items => WellFormedItems items
  | .obj fields => Fields.Sorted fields ∧ WellFormedFields fields

def WellFormedItems : List Json → Prop
  | [] => True
  | item :: rest => WellFormed item ∧ WellFormedItems rest

def WellFormedFields : List (String × Json) → Prop
  | [] => True
  | field :: rest => WellFormed field.2 ∧ WellFormedFields rest

end

mutual

/-- The tokens that a value is written from. -/
def tokens : Json → List Token
  | .null => [.null]
  | .bool b => [.bool b]
  | .num n => [.num (some n)]
  | .str s => [.str (some s)]
  | .arr items => .openArray :: (itemTokens items ++ [.closeArray])
  | .obj fields => .openObject :: (fieldTokens fields ++ [.closeObject])

def itemTokens : List Json → List Token
  | [] => []
  | [item] => tokens item
  | item :: next :: rest => tokens item ++ .comma :: itemTokens (next :: rest)

def fieldTokens : List (String × Json) → List Token
  | [] => []
  | [(key, value)] => .str (some key) :: .colon :: tokens value
  | (key, value) :: next :: rest =>
    .str (some key) :: .colon :: (tokens value ++ .comma :: fieldTokens (next :: rest))

end

/-! ## Words -/

/-- A character ends a word. -/
def isStop (c : Char) : Bool :=
  isSpace c || c = '"' || (Token.ofMark? c).isSome

/-- A text is at its end, or begins with a character that ends a word. -/
def Stops (rest : List Char) : Prop :=
  ∀ c ∈ rest.head?, isStop c = true

/-- A text is cut into tokens, whatever stands before it. -/
def Lexes (text : List Char) (tokens : List Token) : Prop :=
  ∀ before rest, Stops rest →
    Lexer.run? NumberParts.exactly? .between before (text ++ rest) =
      Lexer.run? NumberParts.exactly? .between (tokens.reverse ++ before) rest

variable {word text more rest : List Char} {token : Token} {tokens moreTokens before : List Token}
  {c : Char}

theorem run?_word (plain : ∀ c ∈ word, isStop c = false) (seen : List Char) (stops : Stops rest)
    (read : Token.ofWord? NumberParts.exactly? (seen.reverse ++ word) = some token) :
    Lexer.run? NumberParts.exactly? (.word seen) before (word ++ rest) =
      Lexer.run? NumberParts.exactly? .between (token :: before) rest := by
  induction word generalizing seen with
  | nil =>
      rw [List.append_nil] at read
      cases rest with
      | nil => simp [Lexer.run?, read]
      | cons c rest =>
          have stop : isStop c = true := stops c rfl
          rw [isStop] at stop
          rw [List.nil_append, Lexer.run?, Lexer.step?, if_pos stop, read, Lexer.run?, Lexer.step?]
          rfl
  | cons c word ih =>
      obtain ⟨noStop, plain⟩ := List.forall_mem_cons.mp plain
      rw [isStop] at noStop
      rw [List.cons_append, Lexer.run?, Lexer.step?, if_neg (by simp [noStop])]
      exact ih plain (c :: seen) (by simpa using read)

theorem lexes_word (plain : ∀ c ∈ word, isStop c = false) (nonempty : word ≠ [])
    (read : Token.ofWord? NumberParts.exactly? word = some token) : Lexes word [token] := by
  intro before rest stops
  obtain ⟨c, word, rfl⟩ := List.exists_cons_of_ne_nil nonempty
  obtain ⟨noStop, plain⟩ := List.forall_mem_cons.mp plain
  simp only [isStop, Bool.or_eq_false_iff, decide_eq_false_iff_not, Option.isSome_eq_false_iff,
    Option.isNone_iff_eq_none] at noStop
  obtain ⟨⟨noSpace, noQuote⟩, noMark⟩ := noStop
  rw [List.cons_append, Lexer.run?, Lexer.step?, Lexer.start?, if_neg (by simp [noSpace]),
    if_neg noQuote, noMark]
  exact run?_word plain [c] stops read

/-! ## Structural characters -/

theorem not_space_of_ofMark? (mark : Token.ofMark? c = some token) :
    isSpace c = false ∧ c ≠ '"' := by
  unfold Token.ofMark? at mark
  split_ifs at mark <;> rename_i here <;> subst here <;> decide

/-- A structural character is a token, whatever follows it. -/
theorem run?_mark (mark : Token.ofMark? c = some token) (before : List Token) (rest : List Char) :
    Lexer.run? NumberParts.exactly? .between before (c :: rest) =
      Lexer.run? NumberParts.exactly? .between (token :: before) rest := by
  obtain ⟨noSpace, noQuote⟩ := not_space_of_ofMark? mark
  rw [Lexer.run?, Lexer.step?, Lexer.start?, if_neg (by simp [noSpace]), if_neg noQuote, mark]

theorem stops_mark (mark : Token.ofMark? c = some token) : Stops (c :: rest) := by
  rintro _ ⟨⟩
  simp [isStop, mark]

/-! ## Strings -/

theorem hexValue?_hexDigit {n : Nat} (small : n < 16) : hexValue? (hexDigit n) = some n := by
  have all : ∀ n < 16, hexValue? (hexDigit n) = some n := by decide
  exact all n small

/-- The escape of a character is read as the character. -/
theorem run?_escapeChar (c : Char) (content : List Char) (before : List Token) (rest : List Char) :
    Lexer.run? NumberParts.exactly? (.string (some content) none) before (escapeChar c ++ rest) =
      Lexer.run? NumberParts.exactly? (.string (some (c :: content)) none) before rest := by
  unfold escapeChar
  split_ifs with quote backslash backspace formFeed newline carriage tab small
  · subst quote
    rfl
  · subst backslash
    rfl
  · subst backspace
    rfl
  · subst formFeed
    rfl
  · subst newline
    rfl
  · subst carriage
    rfl
  · subst tab
    rfl
  · have high := hexValue?_hexDigit (n := c.toNat / 16) (by omega)
    have low := hexValue?_hexDigit (n := c.toNat % 16) (by omega)
    have zero : hexValue? '0' = some 0 := rfl
    have unit : Content.addUnit (some content) none c.toNat = (some (c :: content), none) := by
      rw [Content.addUnit, if_neg (by simp; omega), if_neg (by simp; omega)]
      simp [Content.settle]
    simp [Lexer.run?, Lexer.step?, zero, high, low, Nat.div_add_mod, unit]
  · simp [Lexer.run?, Lexer.step?, quote, backslash, small, Content.settle]

theorem run?_escapes (text content : List Char) (before : List Token) (rest : List Char) :
    Lexer.run? NumberParts.exactly? (.string (some content) none) before
        (text.flatMap escapeChar ++ '"' :: rest) =
      Lexer.run? NumberParts.exactly? .between
        (.str (some (String.ofList (content.reverse ++ text))) :: before) rest := by
  induction text generalizing content with
  | nil => simp [Lexer.run?, Lexer.step?, Content.settle]
  | cons c text ih =>
      rw [List.flatMap_cons, List.append_assoc, run?_escapeChar, ih]
      simp

/-- A quoted string is a token, whatever follows it. -/
theorem run?_quote (s : String) (before : List Token) (rest : List Char) :
    Lexer.run? NumberParts.exactly? .between before ((quote s).toList ++ rest) =
      Lexer.run? NumberParts.exactly? .between (.str (some s) :: before) rest := by
  have opened : (quote s).toList ++ rest = '"' :: (s.toList.flatMap escapeChar ++ '"' :: rest) := by
    simp [quote]
  rw [opened, Lexer.run?]
  change Lexer.run? _ (.string (some []) none) _ _ = _
  rw [run?_escapes]
  simp

/-! ## Numbers -/

/-- The characters of the text of a number. -/
def isNumberChar (c : Char) : Bool :=
  c.isDigit || ['-', '+', '.', 'e'].contains c

/-- The characters that end words. -/
def stopChars : List Char :=
  [' ', '\n', '\t', '\r', '"', '[', ']', '\x7b', '\x7d', ',', ':']

theorem mem_stopChars (stop : isStop c = true) : c ∈ stopChars := by
  simp only [isStop, isSpace, Bool.or_eq_true, decide_eq_true_eq] at stop
  rcases stop with (spaces | quote) | mark
  · rcases spaces with ((space | newline) | tab) | carriage <;> simp [stopChars, *]
  · simp [stopChars, quote]
  · by_contra outside
    simp only [stopChars, List.mem_cons, List.not_mem_nil, or_false, not_or] at outside
    simp [Token.ofMark?, outside] at mark

theorem not_isStop_of_isNumberChar (inNumber : isNumberChar c = true) : isStop c = false := by
  have none : (stopChars.all fun c => !isNumberChar c) = true := rfl
  rw [Bool.eq_false_iff]
  intro stop
  have excluded := List.all_eq_true.mp none c (mem_stopChars stop)
  rw [inNumber] at excluded
  cases excluded

theorem isNumberChar_of_isDigit (digit : c.isDigit = true) : isNumberChar c = true := by
  rw [isNumberChar, digit, Bool.true_or]

theorem isNumberChar_of_mem_text {parts : NumberParts} (proper : parts.Proper)
    (mem : c ∈ parts.text) : isNumberChar c = true := by
  obtain ⟨negative, whole, fraction, exponent⟩ := parts
  obtain ⟨wholeDigits, -, -, fractionDigits, exponentDigits⟩ := proper
  simp only [NumberParts.text, List.mem_append] at mem
  rcases mem with sign | inWhole | inFraction | inExponent
  · cases negative <;> simp at sign
    rw [sign]
    rfl
  · exact isNumberChar_of_isDigit (wholeDigits c inWhole)
  · cases fraction with
    | none => cases inFraction
    | some digits =>
        rcases List.mem_cons.mp inFraction with rfl | inDigits
        · rfl
        · exact isNumberChar_of_isDigit ((fractionDigits digits rfl).2 c inDigits)
  · cases exponent with
    | none => cases inExponent
    | some exponent =>
        obtain ⟨down, digits⟩ := exponent
        rcases List.mem_cons.mp inExponent with rfl | inRest
        · rfl
        · rcases List.mem_cons.mp inRest with rfl | inDigits
          · cases down <;> rfl
          · exact isNumberChar_of_isDigit ((exponentDigits down digits rfl).2 c inDigits)

theorem ofWord?_text {parts : NumberParts} {n : Number} (proper : parts.Proper)
    (read : parts.exactly? = some n) :
    Token.ofWord? NumberParts.exactly? parts.text = some (.num (some n)) := by
  have noName (letter : Char) (rest : List Char) (noNumber : isNumberChar letter = false) :
      parts.text ≠ letter :: rest := by
    intro same
    have inNumber := @isNumberChar_of_mem_text letter parts proper
      (by rw [same]; exact List.mem_cons_self)
    rw [noNumber] at inNumber
    cases inNumber
  rw [Token.ofWord?, if_neg (noName _ _ rfl), if_neg (noName _ _ rfl), if_neg (noName _ _ rfl),
    NumberParts.ofText?_text proper, Option.map_some, read]

/-- The parts of the text of a number. -/
theorem exists_parts_numberText {n : Number} (carried : Carried n) :
    ∃ parts : NumberParts, parts.Proper ∧ (numberText n).toList = parts.text ∧
      parts.exactly? = some n := by
  cases n with
  | int n =>
      exact ⟨.ofInt n, NumberParts.proper_ofInt n, (NumberParts.text_ofInt n).symm,
        NumberParts.exactly?_ofInt carried⟩
  | float x => exact exists_parts_write carried

theorem lexes_number {n : Number} (carried : Carried n) :
    Lexes (numberText n).toList [.num (some n)] := by
  obtain ⟨parts, proper, written, read⟩ := exists_parts_numberText carried
  have nonempty : parts.text ≠ [] := by
    rw [NumberParts.text]
    exact List.append_ne_nil_of_right_ne_nil _
      (List.append_ne_nil_of_left_ne_nil proper.whole_nonempty _)
  rw [written]
  exact lexes_word (fun c mem => not_isStop_of_isNumberChar (isNumberChar_of_mem_text proper mem))
    nonempty (ofWord?_text proper read)

/-! ## Values -/

theorem lexes_null : Lexes (compact .null).toList [.null] :=
  @lexes_word ['n', 'u', 'l', 'l'] _ (by simp [isStop, isSpace, Token.ofMark?]) nofun rfl

theorem lexes_bool (b : Bool) : Lexes (compact (.bool b)).toList [.bool b] := by
  cases b with
  | true =>
      exact @lexes_word ['t', 'r', 'u', 'e'] _ (by simp [isStop, isSpace, Token.ofMark?]) nofun rfl
  | false =>
      exact @lexes_word ['f', 'a', 'l', 's', 'e'] _ (by simp [isStop, isSpace, Token.ofMark?])
        nofun rfl

mutual

/-- The text of a value is cut into the tokens that it was written from. -/
theorem lexes_compact : ∀ {value : Json}, WellFormed value → Lexes value.compact.toList value.tokens
  | .null, _ => lexes_null
  | .bool b, _ => lexes_bool b
  | .num _, carried => lexes_number carried
  | .str s, _ => fun before rest _ => run?_quote s before rest
  | .arr items, wellFormed => by
      intro before rest _
      have written : (compact (.arr items)).toList ++ rest =
          '[' :: ((compactItems items).toList ++ ']' :: rest) := by
        simp [compact]
      rw [written, run?_mark rfl, lexes_compactItems wellFormed _ _ (stops_mark rfl), run?_mark rfl]
      simp [tokens]
  | .obj fields, wellFormed => by
      intro before rest _
      have written : (compact (.obj fields)).toList ++ rest =
          '\x7b' :: ((compactFields fields).toList ++ '\x7d' :: rest) := by
        simp [compact]
      rw [written, run?_mark rfl, lexes_compactFields wellFormed.2 _ _ (stops_mark rfl),
        run?_mark rfl]
      simp [tokens]

theorem lexes_compactItems : ∀ {items : List Json}, WellFormedItems items →
    Lexes (compactItems items).toList (itemTokens items)
  | [], _ => fun _ _ _ => rfl
  | [_], wellFormed => lexes_compact wellFormed.1
  | item :: next :: more, wellFormed => by
      intro before rest stops
      have written : (compactItems (item :: next :: more)).toList ++ rest =
          item.compact.toList ++ ',' :: ((compactItems (next :: more)).toList ++ rest) := by
        simp [compactItems]
      rw [written, lexes_compact wellFormed.1 _ _ (stops_mark rfl), run?_mark rfl,
        lexes_compactItems wellFormed.2 _ _ stops]
      simp [itemTokens]

theorem lexes_compactFields : ∀ {fields : List (String × Json)}, WellFormedFields fields →
    Lexes (compactFields fields).toList (fieldTokens fields)
  | [], _ => fun _ _ _ => rfl
  | [(key, value)], wellFormed => by
      intro before rest stops
      have written : (compactFields [(key, value)]).toList ++ rest =
          (quote key).toList ++ ':' :: (value.compact.toList ++ rest) := by
        simp [compactFields]
      rw [written, run?_quote, run?_mark rfl, lexes_compact wellFormed.1 _ _ stops]
      simp [fieldTokens]
  | (key, value) :: next :: more, wellFormed => by
      intro before rest stops
      have written : (compactFields ((key, value) :: next :: more)).toList ++ rest =
          (quote key).toList ++ ':' :: (value.compact.toList ++
            ',' :: ((compactFields (next :: more)).toList ++ rest)) := by
        simp [compactFields]
      rw [written, run?_quote, run?_mark rfl, lexes_compact wellFormed.1 _ _ (stops_mark rfl),
        run?_mark rfl, lexes_compactFields wellFormed.2 _ _ stops]
      simp [fieldTokens]

end

end Polyquery.Json
